import BranchVersion.Proofs.Rerun

/-!
Outcomes under the built-in rules, resolved once more. A branch name is trimmed before its prefix is
taken off and not again behind it, so a remainder may be empty or start with a blank. Such an
outcome does not come back as it is, and all others without a built-in prefix do.
-/
namespace BranchVersion

theorem versionOf_eq_versionFor (raw : String) :
    versionOf raw = Rules.standard.versionFor raw := rfl

/-- None of the built-in prefixes starts like a number. -/
theorem versionOf_eq_self {x : String} :
    versionOf x = .ok x ↔ x ≠ "" ∧ Text.Tight x.toList ∧
      ¬Text.StartsWith x "v" ∧ ¬Text.StartsWith x "release/" := by
  have hne : "" ∉ Rules.standard.prefixes := by decide
  have hzero : "0." ∉ Rules.standard.prefixes := by decide
  rw [versionOf_eq_versionFor, Rules.versionFor_eq_self hne]
  constructor
  · rintro (⟨hx, htight, hnone⟩ | ⟨-, rest, hfirst⟩)
    · exact ⟨hx, htight, hnone "v" (by simp [Rules.standard]),
        hnone "release/" (by simp [Rules.standard])⟩
    · exact absurd hfirst.mem hzero
  · rintro ⟨hx, htight, hv, hrelease⟩
    exact .inl ⟨hx, htight, by simpa [Rules.standard] using ⟨hv, hrelease⟩⟩

/-- Other than for a remainder, an outcome is neither empty nor blank in front. -/
theorem Rules.Resolves.front {rules : Rules} {raw : String} {r : Resolution}
    (h : rules.Resolves (Text.trim raw) r) (hraw : Text.trim raw ≠ "")
    (hr : ∀ rest, r ≠ .unmatched rest) :
    r.version ≠ "" ∧ ∀ c ∈ r.version.toList.head?, Text.isBlank c = false := by
  cases h with
  | unprefixed _ => exact ⟨hraw, (Text.trim_eq_self_iff.mp (Text.trim_trim raw)).1⟩
  | unmatched _ _ => exact absurd rfl (hr _)
  | @normalized _ _ v _ _ =>
    refine ⟨?_, (v.render_tight rules.names).1⟩
    rw [Resolution.version, ne_eq, ← String.toList_eq_nil_iff, v.toList_render]
    simp

/-- An outcome without a built-in prefix comes back as it is if it has a first character and that is
not blank, and only then. Other than for a remainder it always does. -/
theorem versionOf_again {raw version : String} (h : versionOf raw = .ok version)
    (hv : ¬Text.StartsWith version "v") (hrelease : ¬Text.StartsWith version "release/") :
    (versionOf version = .ok version ↔
      version ≠ "" ∧ ∀ c ∈ version.toList.head?, Text.isBlank c = false) ∧
    ((∀ rest, Rules.standard.resolve raw ≠ .ok (.unmatched rest)) →
      versionOf version = .ok version) := by
  have hlast := Rules.versionFor_last h
  have hiff : versionOf version = .ok version ↔
      version ≠ "" ∧ ∀ c ∈ version.toList.head?, Text.isBlank c = false := by
    rw [versionOf_eq_self]
    exact ⟨fun ⟨hne, htight, _⟩ => ⟨hne, htight.1⟩,
      fun ⟨hne, hhead⟩ => ⟨hne, ⟨hhead, hlast⟩, hv, hrelease⟩⟩
  refine ⟨hiff, fun hrest => hiff.mpr ?_⟩
  obtain ⟨r, hr, rfl⟩ := Rules.versionFor_eq_ok.mp h
  obtain ⟨hraw, hresolves⟩ := Rules.resolve_eq_ok.mp hr
  exact hresolves.front hraw fun rest hr' => hrest rest (hr' ▸ hr)

/-- A prefix with a pre-release behind it gives a version that stays. -/
theorem versionOf_again_candidate :
    versionOf " release/1.2rc3" = .ok "1.2.0-rc.3" ∧ versionOf "1.2.0-rc.3" = .ok "1.2.0-rc.3" := by
  have h : versionOf " release/1.2rc3" = .ok "1.2.0-rc.3" := rfl
  have hv : ¬Text.StartsWith "1.2.0-rc.3" "v" := by
    rw [← Text.stripStart?_eq_none]
    rfl
  have hrelease : ¬Text.StartsWith "1.2.0-rc.3" "release/" := by
    rw [← Text.stripStart?_eq_none]
    rfl
  have hfront : ∀ c ∈ "1.2.0-rc.3".toList.head?, Text.isBlank c = false := by
    rintro c hc
    obtain rfl : '1' = c := by simpa using hc
    rfl
  exact ⟨h, (versionOf_again h hv hrelease).1.mpr ⟨by simp, hfront⟩⟩

/-- A blank behind the prefix is kept at first and lost the second time. -/
theorem versionOf_again_blank :
    versionOf "v x" = .ok " x" ∧ ¬Text.StartsWith " x" "v" ∧ ¬Text.StartsWith " x" "release/" ∧
      versionOf " x" ≠ .ok " x" := by
  have hagain : versionOf " x" = .ok "x" := rfl
  refine ⟨rfl, ?_, ?_, by simp [hagain]⟩
  · rw [← Text.stripStart?_eq_none]
    rfl
  · rw [← Text.stripStart?_eq_none]
    rfl

end BranchVersion
