import BranchVersion.Branch
import BranchVersion.Fault
import BranchVersion.NameTable

/-! The rules that turn a branch name into a version, and what makes them acceptable. -/
namespace BranchVersion

/-- `prefixes` are tried in order, and `outputKey` names the output. -/
structure Rules where
  prefixes : List String
  names : NameTable
  outputKey : String
  deriving DecidableEq

namespace Rules

def standard : Rules := ⟨["v", "release/"], .standard, "version"⟩

/-- The key that is no marker and comes first in the order, if there is one. -/
def strayMarker? (rules : Rules) (order : KeyOrder) : Option String :=
  (order.arrange rules.names.keys).find? fun key => (Stage.ofMarker? key).isNone

/-- The first fault of the rules, looking at prefixes, output key and names in this order. Of
several unknown markers the order of the keys decides which one is named. -/
def validate (rules : Rules) (order : KeyOrder := .ascending) : Except RulesFault Unit :=
  if "" ∈ rules.prefixes then .error .emptyPrefix
  else if Text.trim rules.outputKey = "" then .error .blankOutputKey
  else match rules.strayMarker? order with
    | some marker => .error (.unknownMarker marker)
    | none => .ok ()

theorem strayMarker?_eq_none {rules : Rules} {order : KeyOrder} :
    rules.strayMarker? order = none ↔ ∀ key ∈ rules.names.keys, key ∈ ["a", "b", "rc"] := by
  have hmarker (key : String) : ¬(Stage.ofMarker? key).isNone ↔ key ∈ ["a", "b", "rc"] := by
    rw [Option.isNone_iff_eq_none, Stage.ofMarker?_eq_none, Decidable.not_not]
  simp only [strayMarker?, List.find?_eq_none, (order.perm _).mem_iff, hmarker]

/-- A key that is named is in the table and is no marker. -/
theorem mem_of_strayMarker? {rules : Rules} {order : KeyOrder} {key : String}
    (h : rules.strayMarker? order = some key) :
    key ∈ rules.names.keys ∧ key ∉ ["a", "b", "rc"] := by
  have hmem := List.mem_of_find?_eq_some h
  have hstray := List.find?_some h
  rw [Option.isNone_iff_eq_none, Stage.ofMarker?_eq_none] at hstray
  exact ⟨(order.perm _).mem_iff.mp hmem, hstray⟩

theorem validate_standard_names {prefixes : List String} {key : String} (hprefixes : "" ∉ prefixes)
    (hkey : Text.trim key ≠ "") (order : KeyOrder) :
    validate ⟨prefixes, .standard, key⟩ order = .ok () := by
  have hmarkers : ∀ name ∈ NameTable.standard.keys, name ∈ ["a", "b", "rc"] := by decide
  have hstray : strayMarker? ⟨prefixes, .standard, key⟩ order = none :=
    strayMarker?_eq_none.mpr hmarkers
  rw [validate, if_neg hprefixes, if_neg hkey, hstray]

theorem validate_standard (order : KeyOrder) : standard.validate order = .ok () :=
  validate_standard_names (by decide) (by decide) order

end Rules
end BranchVersion
