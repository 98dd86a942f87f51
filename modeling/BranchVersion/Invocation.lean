import BranchVersion.Event
import BranchVersion.Rules.Loading

/-!
A single use of the program: the branch names that are given and the file of rules, if one is named.
The count of names is looked at before the file, and the file before the name.
-/
namespace BranchVersion

structure RulesFile where
  path : String
  content : FileContent

structure Invocation where
  branches : List String
  rulesFile : Option RulesFile

structure Outcome where
  resolution : Resolution
  line : String
  deriving DecidableEq

namespace Invocation

def loadTraced (order : KeyOrder) : Option RulesFile → Traced Rules
  | none => ⟨[], Rules.load none order⟩
  | some file =>
    match Rules.load (some file.content) order with
    | .error fault => ⟨[], .error fault⟩
    | .ok rules => ⟨[.rulesLoaded file.path], .ok rules⟩

def resolveTraced (rules : Rules) (raw : String) : Traced Resolution :=
  match Branch.ofString? raw with
  | none => ⟨[], .error .notOneBranch⟩
  | some branch =>
    let r := rules.resolveBranch branch
    ⟨[r.event branch], .ok r⟩

/-- A run in which the keys of tables come in the given order. -/
def run (i : Invocation) (order : KeyOrder := .ascending) : Traced Outcome :=
  match i.branches with
  | [raw] =>
    (loadTraced order i.rulesFile).bind fun rules =>
      (resolveTraced rules raw).map fun r => ⟨r, rules.outputLine r⟩
  | branches => ⟨[.branchCount branches.length], .error .notOneBranch⟩

theorem resolveTraced_result (rules : Rules) (raw : String) :
    (resolveTraced rules raw).result = rules.resolve raw := by
  unfold resolveTraced Rules.resolve
  cases Branch.ofString? raw <;> rfl

theorem loadTraced_result (order : KeyOrder) (file : Option RulesFile) :
    (loadTraced order file).result = Rules.load (file.map RulesFile.content) order := by
  cases file with
  | none => rfl
  | some file =>
    simp only [loadTraced, Option.map_some]
    cases Rules.load (some file.content) order <;> rfl

/-- What a run with one branch name gives, apart from the events on the way. -/
theorem run_result (raw : String) (file : Option RulesFile) (order : KeyOrder) :
    (run ⟨[raw], file⟩ order).result =
      (Rules.load (file.map RulesFile.content) order).bind fun rules =>
        (rules.resolve raw).map fun r => ⟨r, rules.outputLine r⟩ := by
  simp only [run, Traced.bind_result, loadTraced_result, Traced.map, resolveTraced_result]

end Invocation
end BranchVersion
