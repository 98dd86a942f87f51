import BranchVersion.Arguments
import BranchVersion.Invocation
import BranchVersion.LogFilter
import BranchVersion.Text.Printed

/-!
The whole program as a function of its arguments and its surroundings. The output stream carries the
line of a success or the help text, and everything else goes to the error stream.
-/
namespace BranchVersion

def Request.helpText : String :=
  "Determine a release version from a branch name and emit it as a GitHub Actions output\n\n" ++
  "Usage: determine-version [OPTIONS] [BRANCH]...\n\n" ++
  "Arguments:\n" ++
  "  [BRANCH]...  Branch name, e.g. v1.2.3 or release/2.0\n\n" ++
  "Options:\n" ++
  "  -c, --config <CONFIG>  Resolver configuration file (TOML)\n" ++
  "  -h, --help             Print help\n"

/-- The text of a refusal. A value is shown as a terminal prints it. -/
def Refusal.message : Refusal → String
  | .missingValue =>
    "error: a value is required for '--config <CONFIG>' but none was supplied\n\n" ++
      "For more information, try '--help'.\n"
  | .repeatedConfig =>
    "error: the argument '--config <CONFIG>' cannot be used multiple times\n\n" ++
      "Usage: determine-version [OPTIONS] [BRANCH]...\n\nFor more information, try '--help'.\n"
  | .valueForHelp value afterConfig =>
    "error: unexpected value '" ++ Text.printed value ++
      "' for '--help' found; no more were expected\n\n" ++
      "Usage: determine-version --help " ++
      (if afterConfig then "<--config <CONFIG>|BRANCH>" else "[BRANCH]...") ++
      "\n\nFor more information, try '--help'.\n"

structure Environment where
  file : String → FileContent
  log : Option String

structure Exit where
  code : Nat
  out : String
  err : String
  deriving DecidableEq

namespace Program

def shown (log : Option String) (events : List Event) : List Event :=
  events.filter (LogFilter.ofSetting log).shows

def eventText (events : List Event) : String := String.join (events.map Event.line)

def logText (log : Option String) (events : List Event) : String := eventText (shown log events)

def fail (env : Environment) (events : List Event) (fault : Fault) : Exit :=
  ⟨1, "", logText env.log events ++ fault.message ++ "\n"⟩

/-- A run in which the keys of tables come in the given order. -/
def run (env : Environment) (args : List String) (order : KeyOrder := .ascending) : Exit :=
  match Request.read args with
  | .error refusal => fail env [.refused refusal.message] .notOneBranch
  | .ok .help => ⟨0, Request.helpText, ""⟩
  | .ok (.resolve config branches) =>
    let invocation : Invocation := ⟨branches, config.map fun path => ⟨path, env.file path⟩⟩
    let traced := invocation.run order
    match traced.result with
    | .error fault => fail env traced.events fault
    | .ok outcome => ⟨0, outcome.line ++ "\n", logText env.log traced.events⟩

end Program
end BranchVersion
