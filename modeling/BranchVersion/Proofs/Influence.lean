import BranchVersion.Proofs.Collisions

/-!
What the fields of the rules can change. The prefixes alone settle how a branch is read. The table
of names comes in through one long name, that of the stage that was read, and the output key not at
all.
-/
namespace BranchVersion

/-- The same outcome, with a version written out with another table. -/
def Resolution.withNames (names : NameTable) : Resolution → Resolution
  | .normalized v _ => .normalized v (v.render names)
  | r => r

private theorem Version.render_eq_render_self {v : Version} {names names' : NameTable} :
    v.render names = v.render names' ↔ v.prerelease = none ∨
      ∃ p, v.prerelease = some p ∧ p.stage.longNameIn names = p.stage.longNameIn names' := by
  rw [render_eq_render, shown, shown]
  cases v.prerelease <;> simp

namespace Rules

variable {rules rules' : Rules}

/-- With the same prefixes, resolving is resolving with other rules and writing out once more. -/
theorem resolve_eq_withNames (h : rules.prefixes = rules'.prefixes) (raw : String) :
    rules'.resolve raw = (rules.resolve raw).map (Resolution.withNames rules'.names) := by
  unfold resolve
  cases Branch.ofString? raw with
  | none => rfl
  | some branch =>
    simp only [Except.map, resolveBranch, h]
    cases branch.strip? rules'.prefixes with
    | none => rfl
    | some rest => cases hv : Version.ofString? rest <;> simp [hv, Resolution.withNames]

/-- The resolution of a text is written out with the long name of this stage. -/
def ShowsStage (rules : Rules) (raw : String) (stage : Stage) : Prop :=
  ∃ v version p, rules.resolve raw = .ok (.normalized v version) ∧ v.prerelease = some p ∧
    p.stage = stage

theorem resolve_congr (h : rules.prefixes = rules'.prefixes) {raw : String}
    (hnames : ∀ stage, rules.ShowsStage raw stage →
      stage.longNameIn rules.names = stage.longNameIn rules'.names) :
    rules'.resolve raw = rules.resolve raw := by
  rw [resolve_eq_withNames h]
  cases hr : rules.resolve raw with
  | error fault => rfl
  | ok r =>
    cases r with
    | unprefixed name => rfl
    | unmatched rest => rfl
    | normalized v version =>
      obtain ⟨_, _, _, hversion⟩ := resolve_eq_normalized.mp hr
      have hsame : v.render rules.names = v.render rules'.names := by
        apply Version.render_eq_render_self.mpr
        cases hp : v.prerelease with
        | none => exact .inl rfl
        | some p => exact .inr ⟨p, rfl, hnames p.stage ⟨v, version, p, hr, hp, rfl⟩⟩
      simp only [Except.map, Resolution.withNames, hversion, hsame]

/-- With the same prefixes a branch is read in the same way, and its version differs only in the
long name of the one stage that was read. Entries of a table for other keys and the output key do
not change a resolution. -/
theorem resolve_of_prefixes (h : rules.prefixes = rules'.prefixes) (raw : String) :
    ((rules.resolve raw = .error .notOneBranch ∧ rules'.resolve raw = .error .notOneBranch) ∨
      (∃ name, rules.resolve raw = .ok (.unprefixed name) ∧
        rules'.resolve raw = .ok (.unprefixed name)) ∨
      (∃ rest, rules.resolve raw = .ok (.unmatched rest) ∧
        rules'.resolve raw = .ok (.unmatched rest)) ∨
      ∃ v version version', rules.resolve raw = .ok (.normalized v version) ∧
        rules'.resolve raw = .ok (.normalized v version') ∧
        (version = version' ↔ v.prerelease = none ∨ ∃ p, v.prerelease = some p ∧
          p.stage.longNameIn rules.names = p.stage.longNameIn rules'.names)) ∧
    ∀ key, (∀ stage, rules.ShowsStage raw stage → key ≠ stage.marker) → ∀ long outputKey,
      { rules with names := rules.names.insert key long, outputKey }.resolve raw =
        rules.resolve raw ∧
      { rules with names := rules.names.erase key, outputKey }.resolve raw =
        rules.resolve raw := by
  constructor
  · rw [resolve_eq_withNames h]
    cases hr : rules.resolve raw with
    | error fault =>
      rw [(resolve_eq_error.mp hr).2]
      exact .inl ⟨rfl, rfl⟩
    | ok r =>
      right
      cases r with
      | unprefixed name => exact .inl ⟨name, rfl, rfl⟩
      | unmatched rest => exact .inr (.inl ⟨rest, rfl, rfl⟩)
      | normalized v version =>
        obtain ⟨_, _, _, hversion⟩ := resolve_eq_normalized.mp hr
        refine .inr (.inr ⟨v, version, v.render rules'.names, rfl, rfl, ?_⟩)
        rw [hversion]
        exact Version.render_eq_render_self
  · intro key hkey long outputKey
    constructor
    · apply resolve_congr
      · rfl
      · intro stage hstage
        exact (Stage.longNameIn_insert (hkey stage hstage) long).symm
    · apply resolve_congr
      · rfl
      · intro stage hstage
        exact (Stage.longNameIn_erase (hkey stage hstage)).symm

/-- A long name that reads like a short form shows in the version, and entries for other keys do
not. -/
theorem resolve_of_prefixes_beta :
    let rules : Rules := ⟨["v"], .ofList [("b", "1.2b"), ("x", "y")], "version"⟩
    let rules' : Rules := ⟨["v"], ∅, "tag"⟩
    let v : Version := ⟨.ofNat 1, .ofNat 2, .zero, some ⟨.beta, .ofNat 3⟩⟩
    rules.prefixes = rules'.prefixes ∧
      rules.resolve "v1.2b3" = .ok (.normalized v "1.2.0-1.2b.3") ∧
      rules'.resolve "v1.2b3" = .ok (.normalized v "1.2.0-dev.3") ∧
      Stage.beta.longNameIn rules.names ≠ Stage.beta.longNameIn rules'.names ∧
      { rules with names := rules.names.insert "rc" "z", outputKey := "tag" }.resolve "v1.2b3" =
        .ok (.normalized v "1.2.0-1.2b.3") := by
  intro rules rules' v
  have h : rules.prefixes = rules'.prefixes := rfl
  have hr : rules.resolve "v1.2b3" = .ok (.normalized v "1.2.0-1.2b.3") := rfl
  have hr' : rules'.resolve "v1.2b3" = .ok (.normalized v "1.2.0-dev.3") := rfl
  obtain ⟨hcases, hother⟩ := resolve_of_prefixes h "v1.2b3"
  have hlong : Stage.beta.longNameIn rules.names ≠ Stage.beta.longNameIn rules'.names := by
    simp only [hr, hr', reduceCtorEq, false_and, exists_false, false_or, Except.ok.injEq,
      Resolution.normalized.injEq] at hcases
    obtain ⟨_, _, _, ⟨rfl, rfl⟩, ⟨-, rfl⟩, hiff⟩ := hcases
    simpa [v] using hiff
  have hkey : ∀ stage, rules.ShowsStage "v1.2b3" stage → "rc" ≠ stage.marker := by
    intro stage hstage
    obtain ⟨w, version, p, hw, hp, rfl⟩ := hstage
    have hvw : v = w := by
      rw [hr] at hw
      exact (Resolution.normalized.inj (Except.ok.inj hw)).1
    rw [← hvw] at hp
    obtain rfl : (⟨.beta, .ofNat 3⟩ : Prerelease) = p := Option.some.inj hp
    decide
  exact ⟨h, hr, hr', hlong, ((hother "rc" hkey "z" "tag").1).trans hr⟩

end Rules

end BranchVersion
