import BranchVersion.Fault
import BranchVersion.Numeral

/-! Pre-release stages and the markers that stand for them in a branch name. -/
namespace BranchVersion

inductive Stage where
  | alpha
  | beta
  | candidate
  deriving DecidableEq

namespace Stage

def all : List Stage := [.alpha, .beta, .candidate]

def marker : Stage → String
  | .alpha => "a"
  | .beta => "b"
  | .candidate => "rc"

def longName : Stage → String
  | .alpha => "alpha"
  | .beta => "beta"
  | .candidate => "rc"

def ofMarker? (s : String) : Option Stage := all.find? (·.marker == s)

def ofMarker (s : String) : Except VersionFault Stage :=
  match ofMarker? s with
  | none => .error (.unknownMarker s)
  | some stage => .ok stage

theorem ofMarker?_eq_none {s : String} : ofMarker? s = none ↔ s ∉ ["a", "b", "rc"] := by
  have hmarkers : all.map marker = ["a", "b", "rc"] := rfl
  rw [← hmarkers, ofMarker?, List.find?_eq_none, List.mem_map]
  simp only [beq_iff_eq, not_exists, not_and]

end Stage

structure Prerelease where
  stage : Stage
  value : Numeral
  deriving DecidableEq

def Prerelease.ofSuffix? : List Char → Option Prerelease
  | 'a' :: digits => (Numeral.ofDigits? digits).map (⟨.alpha, ·⟩)
  | 'b' :: digits => (Numeral.ofDigits? digits).map (⟨.beta, ·⟩)
  | 'r' :: 'c' :: digits => (Numeral.ofDigits? digits).map (⟨.candidate, ·⟩)
  | _ => none

def Prerelease.suffix (p : Prerelease) : List Char := p.stage.marker.toList ++ p.value.digits

theorem Prerelease.ofSuffix?_suffix (p : Prerelease) : ofSuffix? p.suffix = some p := by
  obtain ⟨stage, value⟩ := p
  cases stage <;> simp [suffix, Stage.marker, ofSuffix?, Numeral.ofDigits?_digits]

end BranchVersion
