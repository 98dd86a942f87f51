import BranchVersion.Branch

/-!
Reading of the command line. Options are read up to the first branch name; from there on every
argument is a branch name.
-/
namespace BranchVersion

inductive Request where
  | help
  | resolve (config : Option String) (branches : List String)
  deriving DecidableEq

/-- Why a command line cannot be read. `afterConfig` tells that the option `config` has been settled
before the option `help` was given a value. -/
inductive Refusal where
  | missingValue
  | repeatedConfig
  | valueForHelp (value : String) (afterConfig : Bool)
  deriving DecidableEq

/-- What an argument is as long as no branch name has come. -/
inductive Argument where
  | separator
  | help
  | helpWith (value : String)
  | config
  | configWith (value : String)
  | branch
  deriving DecidableEq

/-- Letters after one hyphen are options only if all of them are; `c` takes the rest as its
value. -/
def Argument.ofLetters (letters : List Char) : Argument :=
  if letters.all fun c => c == 'c' || c == 'h' then
    match letters with
    | 'h' :: _ => .help
    | ['c'] => .config
    | 'c' :: value => .configWith (String.ofList value)
    | _ => .branch
  else .branch

def Argument.ofString (arg : String) : Argument :=
  if arg = "--" then .separator
  else if arg = "--help" then .help
  else if arg = "--config" then .config
  else match Text.stripStart? "--help=" arg, Text.stripStart? "--config=" arg with
    | some value, _ => .helpWith value
    | none, some value => .configWith value
    | none, none =>
      match arg.toList with
      | '-' :: letters => ofLetters letters
      | _ => .branch

inductive Pending where
  | nothing
  | option
  | value (v : String)
  deriving DecidableEq

/-- What the options read so far have given. A value in an argument of its own is settled only after
the argument behind it has been recognised. -/
structure Options where
  config : Option String
  pending : Pending
  deriving DecidableEq

namespace Options

def empty : Options := ⟨none, .nothing⟩

/-- Settles a value of the option `config`, which may not come twice or be empty. -/
def setConfig (o : Options) (value : String) : Except Refusal Options :=
  if o.config.isSome then .error .repeatedConfig
  else if value = "" then .error .missingValue
  else .ok ⟨some value, .nothing⟩

def settle (o : Options) : Except Refusal Options :=
  match o.pending with
  | .nothing => .ok o
  | .option => .error .missingValue
  | .value v => o.setConfig v

end Options

namespace Request

def readFrom (o : Options) : List String → Except Refusal Request
  | [] => o.settle.map fun o => .resolve o.config []
  | arg :: rest =>
    match Argument.ofString arg with
    | .separator => o.settle.map fun o => .resolve o.config rest
    | .help => o.settle.map fun _ => .help
    | .helpWith value => .error (.valueForHelp value o.config.isSome)
    | .config => o.settle.bind fun o => readFrom { o with pending := .option } rest
    | .configWith value =>
      (o.settle.bind (·.setConfig value)).bind fun o => readFrom o rest
    | .branch =>
      if o.pending = .option then readFrom { o with pending := .value arg } rest
      else o.settle.map fun o => .resolve o.config (arg :: rest)

def read (args : List String) : Except Refusal Request := readFrom .empty args

end Request
end BranchVersion
