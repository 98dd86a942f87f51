import BranchVersion.Resolution
import BranchVersion.Text.Quoted

/-! Events that a run reports for diagnosis, each with the part of the program that reports it. -/
namespace BranchVersion

inductive Event where
  | refused (reason : String)
  | branchCount (count : Nat)
  | rulesLoaded (path : String)
  | unprefixed (branch : String)
  | unmatched (branch remainder : String)
  | normalized (branch version : String)
  deriving DecidableEq

def Resolution.event (branch : Branch) : Resolution → Event
  | .unprefixed _ => .unprefixed branch.name
  | .unmatched remainder => .unmatched branch.name remainder
  | .normalized _ version => .normalized branch.name version

namespace Event

/-- The name by which a log filter selects the events of one part of the program. -/
def target : Event → String
  | .refused _ => "determine_version"
  | .branchCount _ => "determine_version::cli::orchestration"
  | .rulesLoaded _ => "determine_version::config"
  | .unprefixed _ => "determine_version::resolver"
  | .unmatched _ _ => "determine_version::resolver"
  | .normalized _ _ => "determine_version::resolver"

def text : Event → String
  | .refused reason => "command line rejected error=" ++ reason
  | .branchCount count => "expected exactly one branch name count=" ++ count.repr
  | .rulesLoaded path => "loaded resolver configuration path=" ++ path
  | .unprefixed branch => "no recognized prefix, passing through branch=" ++ branch
  | .unmatched branch remainder =>
    "not a short-form version, passing through branch=" ++ branch ++
      " stripped=" ++ Text.quoted remainder
  | .normalized branch version =>
    "normalized short-form version branch=" ++ branch ++ " version=" ++ version

def fields : Event → List String
  | .refused _ => ["message", "error"]
  | .branchCount _ => ["message", "count"]
  | .rulesLoaded _ => ["message", "path"]
  | .unprefixed _ => ["message", "branch"]
  | .unmatched _ _ => ["message", "branch", "stripped"]
  | .normalized _ _ => ["message", "branch", "version"]

/-- All events are of the level `debug`. The line is that of a log without colours, as with
`NO_COLOR` set. -/
def line (e : Event) : String := "DEBUG " ++ e.text ++ "\n"

end Event

structure Traced (α : Type) where
  events : List Event
  result : Except Fault α

namespace Traced

def map {α β : Type} (f : α → β) (t : Traced α) : Traced β := ⟨t.events, t.result.map f⟩

def bind {α β : Type} (t : Traced α) (f : α → Traced β) : Traced β :=
  match t.result with
  | .error fault => ⟨t.events, .error fault⟩
  | .ok a => ⟨t.events ++ (f a).events, (f a).result⟩

theorem bind_result {α β : Type} (t : Traced α) (f : α → Traced β) :
    (t.bind f).result = t.result.bind fun a => (f a).result := by
  unfold bind
  cases t.result <;> rfl

end Traced
end BranchVersion
