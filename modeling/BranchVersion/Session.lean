import BranchVersion.Resolution
import BranchVersion.Rules.Loading

/-! Sessions: rules that change step by step, with the version resolved last at hand. A step that
fails leaves the session as it was. -/
namespace BranchVersion

/-- `last` is the version resolved last, and empty before the first. -/
structure Session where
  rules : Rules
  last : String
  deriving DecidableEq

namespace Session

inductive Step where
  | load (content : Option FileContent)
  | pushPrefix (start : String)
  | popPrefix
  | setName (marker long : String)
  | removeName (marker : String)
  | setOutputKey (key : String)
  | validate
  | resolve (raw : String)
  | again

inductive Answer where
  | rules (rules : Rules)
  | valid
  | resolution (r : Resolution) (line : String)
  deriving DecidableEq

def start (rules : Rules) : Session := ⟨rules, ""⟩

def change (s : Session) (f : Rules → Rules) : Session × Except Fault Answer :=
  ({ s with rules := f s.rules }, .ok (.rules (f s.rules)))

def resolve (s : Session) (raw : String) : Session × Except Fault Answer :=
  match s.rules.resolve raw with
  | .error fault => (s, .error fault)
  | .ok r => ({ s with last := r.version }, .ok (.resolution r (s.rules.outputLine r)))

def step (order : KeyOrder) (s : Session) : Step → Session × Except Fault Answer
  | .load content =>
    match Rules.load content order with
    | .error fault => (s, .error fault)
    | .ok rules => s.change fun _ => rules
  | .pushPrefix start => s.change fun r => { r with prefixes := r.prefixes ++ [start] }
  | .popPrefix => s.change fun r => { r with prefixes := r.prefixes.dropLast }
  | .setName marker long => s.change fun r => { r with names := r.names.insert marker long }
  | .removeName marker => s.change fun r => { r with names := r.names.erase marker }
  | .setOutputKey key => s.change fun r => { r with outputKey := key }
  | .validate =>
    match s.rules.validate order with
    | .error fault => (s, .error (.rules fault))
    | .ok () => (s, .ok .valid)
  | .resolve raw => s.resolve raw
  | .again => s.resolve s.last

/-- The answers to a sequence of steps. Every step may have an order of keys of its own. -/
def run (s : Session) (steps : List Step) (orders : Nat → KeyOrder := fun _ => .ascending) :
    List (Except Fault Answer) :=
  match steps with
  | [] => []
  | x :: xs =>
    let (next, answer) := s.step (orders 0) x
    answer :: next.run xs fun n => orders (n + 1)

end Session
end BranchVersion
