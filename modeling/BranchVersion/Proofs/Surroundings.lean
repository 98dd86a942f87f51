import BranchVersion.Main
import BranchVersion.Proofs.AcceptedRules
import BranchVersion.Proofs.Exits

/-!
What a run takes from its surroundings. Of the files only the one that the command line names
counts, and the log filter decides about the lines of events on the error stream and nothing else.
The order in which the keys of a table come decides at most which of several unknown markers is
reported.
-/
namespace BranchVersion

namespace Rules

variable {rules : Rules} {content : Option FileContent} {order order' : KeyOrder}
  {fault fault' : RulesFault}

end Rules

namespace Invocation

end Invocation

variable {file file' : String → FileContent} {args : List String}

def Request.content? (file : String → FileContent) (args : List String) : Option FileContent :=
  (path? (read args)).map file

/-- The two surroundings have the same content, or the same failure, where the command line names a
file. -/
def AgreeOn (args : List String) (file file' : String → FileContent) : Prop :=
  ∀ path, Request.path? (Request.read args) = some path → file path = file' path

namespace Program

theorem course_congr (h : AgreeOn args file file') (order : KeyOrder) :
    course file args order = course file' args order := by
  unfold AgreeOn at h
  unfold course
  cases hread : Request.read args with
  | error refusal => rfl
  | ok request =>
    rw [hread] at h
    cases request with
    | help => rfl
    | resolve config branches =>
      cases config with
      | none => rfl
      | some path => simp [Invocation.ofRequest, h path rfl]

/-- A run can do with the content of the one file that the command line names, read beforehand. -/
theorem run_of_content (file : String → FileContent) (log : Option String) (args : List String)
    (order : KeyOrder) :
    run ⟨fun _ => (Request.content? file args).getD (.error .missing), log⟩ args order =
      run ⟨file, log⟩ args order := by
  rw [run_eq_ofTraced, run_eq_ofTraced]
  apply congrArg
  apply course_congr
  intro path hpath
  simp [Request.content?, hpath]

/-- The log setting puts lines of events in front of what is on the error stream and does nothing
else. -/
theorem run_of_log (file : String → FileContent) (log : Option String) (args : List String)
    (order : KeyOrder) :
    (run ⟨file, log⟩ args order).code = (run ⟨file, none⟩ args order).code ∧
      (run ⟨file, log⟩ args order).out = (run ⟨file, none⟩ args order).out ∧
      (run ⟨file, log⟩ args order).err =
        logText log (course file args order).events ++ (run ⟨file, none⟩ args order).err := by
  cases h : (course file args order).result with
  | error fault =>
    rw [run_of_error ⟨file, log⟩ h, run_of_error ⟨file, none⟩ h]
    refine ⟨rfl, rfl, ?_⟩
    simp only [logText_unset, String.empty_append, String.append_assoc]
  | ok text =>
    rw [run_of_ok ⟨file, log⟩ h, run_of_ok ⟨file, none⟩ h]
    refine ⟨rfl, rfl, ?_⟩
    simp only [logText_unset, String.append_empty]

end Program

end BranchVersion
