import BranchVersion.Proofs.SemVerView

/-!
The semantic version that is put together from the numbers of a version and the one that its text is
read as. With the built-in names both exist exactly when the three numbers fit, and they are equal.
-/
namespace BranchVersion

private theorem Numeral.digits_eq_zero {n : Numeral} (h : n.digits.head? = some '0') :
    n.digits = ['0'] := by
  have hc := n.canonical
  cases hn : n.digits with
  | nil => exact absurd hn n.digits_ne_nil
  | cons c rest =>
    rw [hn] at h hc
    obtain rfl : c = '0' := by simpa using h
    have hrest : (∀ d ∈ rest, d.isDigit = true) ∧ rest = [] := by simpa [isCanonical] using hc
    rw [hrest.2]

private theorem Numeral.toUInt64?_eq_some_toNat {n : Numeral} {w : UInt64} :
    n.toUInt64? = some w ↔ w.toNat = n.toNat := by
  rw [toUInt64?_eq_some, ← toNat_inj, toNat_ofNat, eq_comm]

/-- No numeral has a needless zero in front. -/
private theorem Numeral.not_needlessZero (n : Numeral) :
    SemVer.hasNeedlessZero n.digits = false := by
  rw [Bool.eq_false_iff, ne_eq, SemVer.hasNeedlessZero_iff]
  rintro ⟨-, hhead, hlength⟩
  rw [Numeral.digits_eq_zero hhead] at hlength
  simp at hlength

private theorem Numeral.isIdentifier_digits (n : Numeral) :
    SemVer.isIdentifier n.digits = true := by
  rw [SemVer.isIdentifier_iff]
  refine ⟨n.digits_ne_nil, ?_⟩
  intro c hc
  left
  simp [Char.isAlphanum, n.isDigit_of_mem_digits c hc]

/-- A pre-release part alone is read as that part, and nothing is left for a build part. -/
private theorem SemVer.parts_eq_signed {part pre build : String} (h : part = "" ∨ PreText part) :
    (signed '-' part = signed '-' pre ++ signed '+' build ∧ (pre = "" ∨ PreText pre) ∧
      (build = "" ∨ BuildText build)) ↔ pre = part ∧ build = "" := by
  rcases h with rfl | h
  · rw [signed_empty, parts_eq_nil, true_and]
  · rw [signed_of_ne h.ne_empty, parts_eq_pre h.notMem_plus, and_iff_right h]

theorem Stage.longNameIn_standard (stage : Stage) :
    stage.longNameIn .standard = stage.longName := by
  cases stage <;> rfl

namespace Prerelease

def part (p : Prerelease) : String := p.stage.longName ++ "." ++ p.value.text

private theorem toList_part (p : Prerelease) :
    p.part.toList = p.stage.longName.toList ++ '.' :: p.value.digits := by
  simp [part, Numeral.text]

private theorem preText_part (p : Prerelease) : SemVer.PreText p.part := by
  have hname : '.' ∉ p.stage.longName.toList ∧ SemVer.isIdentifier p.stage.longName.toList = true ∧
      SemVer.hasNeedlessZero p.stage.longName.toList = false := by
    cases p.stage <;> decide
  obtain ⟨hdot, hident, hzero⟩ := hname
  have hpieces : Text.pieces '.' p.part.toList = [p.stage.longName.toList, p.value.digits] := by
    rw [toList_part, Text.pieces_append hdot, Text.pieces_of_notMem (p.value.notMem_digits rfl)]
  rw [← SemVer.isPre_iff, SemVer.isPre, hpieces]
  simp [hident, hzero, p.value.isIdentifier_digits, p.value.not_needlessZero]

/-- The built-in name and the number are always in the grammar, however long the number is. -/
theorem semVerPart?_eq (p : Prerelease) : p.semVerPart? = some p.part :=
  if_pos (SemVer.isPre_iff.mpr p.preText_part)

end Prerelease

namespace Version

/-- The pre-release part with the built-in name, and nothing for a final version. -/
def part (v : Version) : String := (v.prerelease.map Prerelease.part).getD ""

private theorem part_grammar (v : Version) : v.part = "" ∨ SemVer.PreText v.part := by
  unfold part
  cases v.prerelease with
  | none => exact .inl rfl
  | some p => exact .inr p.preText_part

theorem text_eq_render (v : Version) : v.text = v.render .standard := by
  unfold text render
  congr 1
  funext stage
  exact stage.longNameIn_standard.symm

private theorem label_standard (v : Version) : v.label .standard = SemVer.signed '-' v.part := by
  unfold label part
  cases v.prerelease with
  | none => rfl
  | some p =>
    simp only [Option.map_some, Option.getD_some, SemVer.signed_of_ne p.preText_part.ne_empty,
      Prerelease.toList_part, p.stage.longNameIn_standard]

def HasSemVer (v : Version) (sv : SemVer) : Prop :=
  (sv.major.toNat = v.major.toNat ∧ sv.minor.toNat = v.minor.toNat ∧
    sv.patch.toNat = v.micro.toNat) ∧ sv.pre = v.part ∧ sv.build = ""

theorem toSemVer?_eq_some {v : Version} {sv : SemVer} :
    v.toSemVer? = some sv ↔ v.HasSemVer sv := by
  obtain ⟨major, minor, micro, prerelease⟩ := v
  obtain ⟨sMajor, sMinor, sPatch, pre, build⟩ := sv
  cases prerelease <;>
    simp only [toSemVer?, HasSemVer, part, Option.map_none, Option.map_some, Option.getD_none,
      Option.getD_some, Prerelease.semVerPart?_eq, Option.bind_eq_bind, Option.bind_eq_some_iff,
      Numeral.toUInt64?_eq_some_toNat, Option.some.injEq, SemVer.mk.injEq]
  all_goals
    constructor
    · rintro ⟨_, hmajor, _, hminor, _, hpatch, _, rfl, rfl, rfl, rfl, rfl, rfl⟩
      exact ⟨⟨hmajor, hminor, hpatch⟩, rfl, rfl⟩
    · rintro ⟨⟨hmajor, hminor, hpatch⟩, rfl, rfl⟩
      exact ⟨_, hmajor, _, hminor, _, hpatch, _, rfl, rfl, rfl, rfl, rfl, rfl⟩

/-- The text of a version ends with its pre-release part behind a hyphen, if it has one. -/
private theorem toList_text (v : Version) :
    v.text.toList = v.major.digits ++ '.' :: (v.minor.digits ++
    '.' :: (v.micro.digits ++ SemVer.signed '-' v.part)) := by
  rw [text_eq_render, toList_render, label_standard]

private theorem stopsAt_part (v : Version) : Numeral.StopsAt (SemVer.signed '-' v.part) := by
  simpa [SemVer.signed_empty] using SemVer.stopsAt_parts v.part ""

theorem ofString?_text_eq_some {v : Version} {sv : SemVer} :
    SemVer.ofString? v.text = some sv ↔ v.HasSemVer sv := by
  rw [SemVer.ofString?_eq_some_of_tail v.toList_text v.stopsAt_part,
    SemVer.parts_eq_signed v.part_grammar, HasSemVer]

/-- Both ways to a semantic version give the same one. -/
theorem toSemVer?_eq_ofString? (v : Version) : v.toSemVer? = SemVer.ofString? v.text := by
  ext sv
  rw [toSemVer?_eq_some, ofString?_text_eq_some]

theorem isSome_toSemVer? (v : Version) : v.toSemVer?.isSome = true ↔ v.Fits := by
  have hparts : ∀ pre build, (SemVer.signed '-' v.part = SemVer.signed '-' pre ++
      SemVer.signed '+' build ∧ (pre = "" ∨ SemVer.PreText pre) ∧
      (build = "" ∨ SemVer.BuildText build)) ↔ True ∧ pre = v.part ∧ build = "" := by
    intro pre build
    rw [SemVer.parts_eq_signed v.part_grammar, true_and]
  have hview := SemVer.view_of_tail v.toList_text v.stopsAt_part hparts
  rw [toSemVer?_eq_ofString?, hview.1, and_true]

/-- Where the table has the built-in name of the one stage that occurs, a version is written out as
with all built-in names. -/
theorem render_eq_text {v : Version} {names : NameTable}
    (h : ∀ p, v.prerelease = some p → names.get? p.stage.marker = some p.stage.longName) :
    v.render names = v.text := by
  obtain ⟨major, minor, micro, prerelease⟩ := v
  cases prerelease with
  | none => rfl
  | some p => simp [render, text, writeOut, Stage.longNameIn, h p rfl]

/-- A version has a semantic version with the built-in names exactly when its three numbers fit, and
the number of its pre-release may have any length. The semantic version has the text of the version
and is what that text reads as. So is that of a resolution, unless the table renames its stage. -/
theorem toSemVer?_agrees (v : Version) :
    (v.toSemVer?.isSome = true ↔ v.Fits) ∧
    (∀ p, v.prerelease = some p →
      p.semVerPart? = some (p.stage.longName ++ "." ++ p.value.text)) ∧
    v.text = v.render .standard ∧
    (∀ sv, v.toSemVer? = some sv → sv.text = v.text ∧ SemVer.ofString? sv.text = some sv) ∧
    v.toSemVer? = SemVer.ofString? v.text ∧
    ∀ (rules : Rules) (raw version : String),
      rules.resolve raw = .ok (.normalized v version) →
      (∀ p, v.prerelease = some p → rules.names.get? p.stage.marker = some p.stage.longName) →
      (Resolution.normalized v version).semVer? = v.toSemVer? := by
  refine ⟨v.isSome_toSemVer?, fun p _ => p.semVerPart?_eq, v.text_eq_render, ?_,
    v.toSemVer?_eq_ofString?, ?_⟩
  · intro sv hsv
    rw [toSemVer?_eq_ofString?] at hsv
    have htext := (SemVer.ofString?_eq_some.mp hsv).1
    exact ⟨htext.symm, htext ▸ hsv⟩
  · intro rules raw version hresolve hnames
    have hversion : version = v.render rules.names := by
      cases (Rules.resolve_eq_ok.mp hresolve).2 with
      | normalized _ _ => rfl
    rw [Resolution.semVer?, hversion, render_eq_text hnames, toSemVer?_eq_ofString?]

/-- The largest number that fits, with a pre-release whose number does not fit. -/
theorem toSemVer?_agrees_large :
    let v : Version := ⟨.ofNat 18446744073709551615, .ofNat 0, .ofNat 7,
      some ⟨.beta, .ofNat 18446744073709551616⟩⟩
    let rules : Rules := ⟨["v"], .ofList [("b", "beta"), ("rc", "pre+1")], "version"⟩
    let text := "18446744073709551615.0.7-beta.18446744073709551616"
    v.toSemVer?.isSome = true ∧
      rules.resolve "v18446744073709551615.0.7b18446744073709551616" =
        .ok (.normalized v text) ∧
      (Resolution.normalized v text).semVer? = v.toSemVer? := by
  intro v rules text
  have hresolve : rules.resolve "v18446744073709551615.0.7b18446744073709551616" =
      .ok (.normalized v text) := by decide
  have hnames : ∀ p, v.prerelease = some p →
      rules.names.get? p.stage.marker = some p.stage.longName := by
    intro p hp
    rw [← Option.some.inj hp]
    rfl
  have hfit : v.Fits := by
    unfold Fits
    decide
  obtain ⟨hfits, -, -, -, -, hagree⟩ := toSemVer?_agrees v
  exact ⟨hfits.mpr hfit, hresolve, hagree rules _ text hresolve hnames⟩

end Version
end BranchVersion
