import BranchVersion.Proofs.StandardRules

/-!
Blanks at the outside. Those around a branch name never count, and no version ends with one. In
front a version has a blank only if it is what a prefix left of the name, since that part is not
trimmed again.
-/
namespace BranchVersion

variable {before after raw : String}

theorem Branch.ofString?_append (hb : Text.AllBlank before) (ha : Text.AllBlank after)
    (raw : String) : ofString? (before ++ raw ++ after) = ofString? raw := by
  ext b
  simp only [ofString?_eq_some, Text.trim_append hb ha]

namespace Rules

variable {rules : Rules} {r : Resolution}

theorem resolve_append (hb : Text.AllBlank before) (ha : Text.AllBlank after) (raw : String) :
    rules.resolve (before ++ raw ++ after) = rules.resolve raw := by
  rw [resolve, Branch.ofString?_append hb ha, resolve]

private theorem last_of_resolve (h : rules.resolve raw = .ok r) :
    ∀ c ∈ r.version.toList.getLast?, Text.isBlank c = false :=
  versionFor_last (versionFor_eq_ok.mpr ⟨r, h, rfl⟩)

private theorem unmatched_of_blank_front (h : rules.resolve raw = .ok r) {c : Char}
    (hc : c ∈ r.version.toList.head?) (hblank : Text.isBlank c = true) :
    ∃ rest, r = .unmatched rest := by
  obtain ⟨hraw, hresolves⟩ := resolve_eq_ok.mp h
  by_contra hnone
  have hfront := (hresolves.front hraw fun rest hr => hnone ⟨rest, hr⟩).2 c hc
  simp [hblank] at hfront

/-- Blanks around a branch name do not change what it resolves to. A version never ends with a
blank, and it starts with one only if it is an unmatched remainder. -/
theorem resolve_outer_blanks (rules : Rules) (raw : String) :
    (∀ before after, Text.AllBlank before → Text.AllBlank after →
      rules.resolve (before ++ raw ++ after) = rules.resolve raw) ∧
    ∀ r, rules.resolve raw = .ok r →
      (∀ c ∈ r.version.toList.getLast?, Text.isBlank c = false) ∧
      ∀ c ∈ r.version.toList.head?, Text.isBlank c = true → ∃ rest, r = .unmatched rest := by
  refine ⟨fun before after hb ha => resolve_append hb ha raw, ?_⟩
  intro r hr
  exact ⟨last_of_resolve hr, fun c hc => unmatched_of_blank_front hr hc⟩

/-- A blank prefix and blanks of several kinds. The blank behind the prefix `v` stays. -/
theorem resolve_outer_blanks_kept :
    let rules : Rules := ⟨[" ", "v"], .standard, "version"⟩
    Text.AllBlank "\t\u00a0" ∧ Text.AllBlank "\u3000\n" ∧
      rules.resolve ("\t\u00a0" ++ "v 1.2" ++ "\u3000\n") = .ok (.unmatched " 1.2") := by
  intro rules
  have hb : Text.AllBlank "\t\u00a0" := by decide
  have ha : Text.AllBlank "\u3000\n" := by decide
  have hr : rules.resolve "v 1.2" = .ok (.unmatched " 1.2") := rfl
  exact ⟨hb, ha, ((resolve_outer_blanks rules "v 1.2").1 _ _ hb ha).trans hr⟩

end Rules

end BranchVersion
