import BranchVersion.Proofs.Outcome

/-!
Versions that come back as tags. A prefix in front of a version makes a branch, and resolving it
gives the version back. A final version is its own short form and is read as before. In a
pre-release the hyphen keeps the text from being a short form, whatever the long name looks like.
-/
namespace BranchVersion

namespace Version

variable {v : Version}

theorem spells_render (h : v.prerelease = none) (names : NameTable) : v.Spells (v.render names) :=
  .inl (toList_render_final h names)

theorem not_spells_render (h : v.prerelease ≠ none) (names : NameTable) (w : Version) :
    ¬w.Spells (v.render names) := by
  intro hw
  obtain ⟨p, hp⟩ := Option.ne_none_iff_exists'.mp h
  have hyphen : '-' ∈ (v.render names).toList := by simp [toList_render, label, hp]
  rcases hw.char '-' hyphen with hdigit | hletter
  · contradiction
  · simp at hletter

end Version

namespace Rules

variable {rules : Rules} {raw version start : String} {v : Version}

/-- A version with any text in front of it resolves to itself if that text is what is taken off. It
is read as the version that it came from just when it is final, and otherwise as no version at all,
whatever the long names are. -/
theorem resolve_tag (h : rules.resolve raw = .ok (.normalized v version))
    (htag : rules.remainder? (start ++ version) = some version) :
    (∃ r, rules.resolve (start ++ version) = .ok r ∧ r.version = version) ∧
    (rules.resolve (start ++ version) = .ok (.normalized v version) ↔ v.prerelease = none) ∧
    (v.prerelease ≠ none → rules.resolve (start ++ version) = .ok (.unmatched version) ∧
      Version.ofString? version = none ∧ ∀ names, Version.ofString? (v.render names) = none) := by
  obtain ⟨_, _, _, hversion⟩ := resolve_eq_normalized.mp h
  have hfinal : v.prerelease = none →
      rules.resolve (start ++ version) = .ok (.normalized v version) := by
    intro hv
    apply resolve_eq_normalized.mpr
    exact ⟨version, htag, hversion ▸ Version.spells_render hv rules.names, hversion⟩
  have hpre : v.prerelease ≠ none →
      rules.resolve (start ++ version) = .ok (.unmatched version) := by
    intro hv
    apply resolve_eq_unmatched.mpr
    exact ⟨htag, hversion ▸ Version.not_spells_render hv rules.names⟩
  refine ⟨?_, ⟨?_, hfinal⟩, ?_⟩
  · by_cases hv : v.prerelease = none
    · exact ⟨_, hfinal hv, rfl⟩
    · exact ⟨_, hpre hv, rfl⟩
  · intro hnormalized
    by_contra hv
    rw [hpre hv] at hnormalized
    simp at hnormalized
  · intro hv
    have hnone : ∀ names, Version.ofString? (v.render names) = none := fun names =>
      Version.ofString?_eq_none.mpr (Version.not_spells_render hv names)
    exact ⟨hpre hv, hversion ▸ hnone rules.names, hnone⟩

/-- The long name of the beta stage holds a short form. -/
theorem resolve_tag_beta :
    let rules : Rules := ⟨["release/", "v"], .ofList [("b", "1.2b")], "version"⟩
    let v : Version := ⟨.ofNat 1, .ofNat 2, .zero, some ⟨.beta, .ofNat 3⟩⟩
    rules.resolve "release/1.2b3" = .ok (.normalized v "1.2.0-1.2b.3") ∧
      rules.remainder? ("v" ++ "1.2.0-1.2b.3") = some "1.2.0-1.2b.3" ∧
      rules.resolve ("v" ++ "1.2.0-1.2b.3") = .ok (.unmatched "1.2.0-1.2b.3") ∧
      Version.ofString? "1.2.0-1.2b.3" = none := by
  intro rules v
  have h : rules.resolve "release/1.2b3" = .ok (.normalized v "1.2.0-1.2b.3") := rfl
  have htag : rules.remainder? ("v" ++ "1.2.0-1.2b.3") = some "1.2.0-1.2b.3" := rfl
  have hpre := (resolve_tag h htag).2.2 (by simp [v])
  exact ⟨h, htag, hpre.1, hpre.2.1⟩

end Rules

end BranchVersion
