import BranchVersion.Text.Blank

/-! Branch names and the prefixes that are stripped from them. -/
namespace BranchVersion

structure Branch where
  name : String
  trimmed : Text.trim name = name
  nonempty : name ≠ ""
  deriving DecidableEq

def Branch.ofString? (raw : String) : Option Branch :=
  if h : Text.trim raw = "" then none else some ⟨Text.trim raw, Text.trim_trim raw, h⟩

def Text.after? : List Char → List Char → Option (List Char)
  | [], s => some s
  | _ :: _, [] => none
  | c :: start, d :: s => if c = d then after? start s else none

def Text.stripStart? (start s : String) : Option String :=
  (after? start.toList s.toList).map String.ofList

/-- What the first matching prefix leaves of the name; only one prefix is taken off. -/
def Branch.strip? (b : Branch) (prefixes : List String) : Option String :=
  prefixes.findSome? (Text.stripStart? · b.name)

theorem Text.after?_eq_some {start s rest : List Char} :
    after? start s = some rest ↔ s = start ++ rest := by
  fun_induction after? start s with
  | case1 s => simp
  | case2 => simp
  | case3 start c s ih => simpa using ih
  | case4 c start d s h => simp [Ne.symm h]

theorem Text.stripStart?_eq_some {start s rest : String} :
    stripStart? start s = some rest ↔ s = start ++ rest := by
  simp only [stripStart?, Option.map_eq_some_iff, after?_eq_some, ← String.toList_inj,
    String.toList_append]
  constructor
  · rintro ⟨r, h, hr⟩
    rw [h, ← hr, String.toList_ofList]
  · intro h
    exact ⟨rest.toList, h, String.toList_ofList⟩

theorem Branch.ofString?_eq_none {raw : String} : ofString? raw = none ↔ Text.trim raw = "" := by
  simp [ofString?]

end BranchVersion
