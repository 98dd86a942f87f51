import BranchVersion.Proofs.ShortForm
import BranchVersion.SemVer

/-!
The grammar of semantic versions. Reading accepts exactly the texts of well-formed semantic
versions, each as the one that it is the text of.
-/
namespace BranchVersion

theorem Numeral.toUInt64?_eq_some {n : Numeral} {w : UInt64} :
    n.toUInt64? = some w ↔ n = ofNat w.toNat := by
  unfold toUInt64?
  constructor
  · intro h
    split at h
    · next hlt =>
      rw [← Option.some.inj h, UInt64.toNat_ofNat_of_lt' hlt, ofNat_toNat]
    · contradiction
  · rintro rfl
    simp [UInt64.toNat_lt_size w]

theorem Numeral.toList_repr (n : Nat) : n.repr.toList = (ofNat n).digits := by
  simp [Nat.repr, ofNat]

namespace SemVer

/-- Identifiers joined by dots: ASCII letters, digits and hyphens, and none of them empty. -/
def Dotted (s : String) (ids : List (List Char)) : Prop :=
  ids ≠ [] ∧ s.toList = ['.'].intercalate ids ∧
    ∀ i ∈ ids, i ≠ [] ∧ ∀ c ∈ i, c.isAlphanum = true ∨ c = '-'

def BuildText (s : String) : Prop := ∃ ids, Dotted s ids

/-- In a pre-release no identifier is a number of several digits that starts with zero. -/
def PreText (s : String) : Prop :=
  ∃ ids, Dotted s ids ∧
    ∀ i ∈ ids, ¬((∀ c ∈ i, c.isDigit = true) ∧ i.head? = some '0' ∧ 1 < i.length)

structure WellFormed (v : SemVer) : Prop where
  pre : v.pre = "" ∨ PreText v.pre
  build : v.build = "" ∨ BuildText v.build

theorem isIdentifier_iff {i : List Char} :
    isIdentifier i = true ↔ i ≠ [] ∧ ∀ c ∈ i, c.isAlphanum = true ∨ c = '-' := by
  simp [isIdentifier]

theorem hasNeedlessZero_iff {i : List Char} : hasNeedlessZero i = true ↔
    (∀ c ∈ i, c.isDigit = true) ∧ i.head? = some '0' ∧ 1 < i.length := by
  rcases i with _ | ⟨c, _ | ⟨d, rest⟩⟩ <;> simp [hasNeedlessZero, and_assoc]

theorem dotted_iff {s : String} {ids : List (List Char)} :
    Dotted s ids ↔ Text.pieces '.' s.toList = ids ∧ ∀ i ∈ ids, isIdentifier i = true := by
  simp only [Dotted, Text.pieces_eq_iff, isIdentifier_iff]
  constructor
  · rintro ⟨hne, hs, hids⟩
    refine ⟨⟨hne, hs, fun i hi hdot => ?_⟩, hids⟩
    rcases (hids i hi).2 '.' hdot with h | h <;> contradiction
  · rintro ⟨⟨hne, hs, -⟩, hids⟩
    exact ⟨hne, hs, hids⟩

theorem isBuild_iff {s : String} : isBuild s.toList = true ↔ BuildText s := by
  simp [isBuild, BuildText, dotted_iff]

theorem isPre_iff {s : String} : isPre s.toList = true ↔ PreText s := by
  simp only [isPre, PreText, dotted_iff, ← hasNeedlessZero_iff, Bool.not_eq_true,
    List.all_eq_true, Bool.and_eq_true, Bool.not_eq_eq_eq_not, Bool.not_true]
  constructor
  · intro h
    exact ⟨_, ⟨rfl, fun i hi => (h i hi).1⟩, fun i hi => (h i hi).2⟩
  · rintro ⟨_, ⟨rfl, hid⟩, hzero⟩ i hi
    exact ⟨hid i hi, hzero i hi⟩

private theorem Dotted.notMem_plus {s : String} {ids : List (List Char)} (h : Dotted s ids) :
    '+' ∉ s.toList := by
  intro hplus
  obtain ⟨hids, hid⟩ := dotted_iff.mp h
  obtain ⟨i, hi, hmem⟩ := Text.exists_mem_pieces hplus (by decide : '+' ≠ '.')
  rcases (isIdentifier_iff.mp (hid i (hids ▸ hi))).2 '+' hmem with hc | hc <;> contradiction

theorem PreText.notMem_plus {s : String} (h : PreText s) : '+' ∉ s.toList := by
  obtain ⟨_, hids, -⟩ := h
  exact hids.notMem_plus

theorem BuildText.notMem_plus {s : String} (h : BuildText s) : '+' ∉ s.toList := by
  obtain ⟨_, hids⟩ := h
  exact hids.notMem_plus

theorem BuildText.ne_empty {s : String} (h : BuildText s) : s ≠ "" := by
  rintro rfl
  rw [← isBuild_iff] at h
  contradiction

theorem PreText.ne_empty {s : String} (h : PreText s) : s ≠ "" := by
  rintro rfl
  rw [← isPre_iff] at h
  contradiction

def signed (sign : Char) (part : String) : List Char :=
  if part = "" then [] else sign :: part.toList

theorem signed_empty (sign : Char) : signed sign "" = [] := rfl

theorem signed_of_ne {part : String} (h : part ≠ "") (sign : Char) :
    signed sign part = sign :: part.toList := if_neg h

theorem readWord_eq_some {s rest : List Char} {w : UInt64} : readWord s = some (w, rest) ↔
    s = (Numeral.ofNat w.toNat).digits ++ rest ∧ Numeral.StopsAt rest := by
  simp only [readWord, Option.bind_eq_bind, Option.bind_eq_some_iff, Prod.exists,
    Numeral.read_eq_some, Numeral.toUInt64?_eq_some, Option.some.injEq, Prod.mk.injEq]
  constructor
  · rintro ⟨n, _, ⟨rfl, hstop⟩, _, hn, rfl, rfl⟩
    exact ⟨by rw [hn], hstop⟩
  · rintro ⟨rfl, hstop⟩
    exact ⟨_, rest, ⟨rfl, hstop⟩, w, rfl, rfl, rfl⟩

theorem readDotWord_eq_some {s rest : List Char} {w : UInt64} : readDotWord s = some (w, rest) ↔
    s = '.' :: ((Numeral.ofNat w.toNat).digits ++ rest) ∧ Numeral.StopsAt rest := by
  unfold readDotWord
  split
  · rw [readWord_eq_some, List.cons.injEq, and_iff_right rfl]
  · next hs =>
    constructor
    · intro h
      contradiction
    · rintro ⟨h, -⟩
      exact absurd h (hs _)

theorem readBuild_eq_some {s : List Char} {build : String} : readBuild s = some build ↔
    s = signed '+' build ∧ (build = "" ∨ BuildText build) := by
  constructor
  · intro h
    unfold readBuild at h
    split at h
    · obtain rfl := Option.some.inj h
      exact ⟨rfl, .inl rfl⟩
    · next rest =>
      split at h
      · next hbuild =>
        obtain rfl := Option.some.inj h
        have htext : BuildText (String.ofList rest) :=
          isBuild_iff.mp (by rwa [String.toList_ofList])
        exact ⟨by rw [signed_of_ne htext.ne_empty, String.toList_ofList], .inr htext⟩
      · contradiction
    · contradiction
  · intro h
    obtain ⟨rfl, rfl | htext⟩ := h
    · rfl
    · simp [signed_of_ne htext.ne_empty, readBuild, isBuild_iff.mpr htext]

private theorem readPre_sound {s rest : List Char} {pre : String}
    (h : readPre s = some (pre, rest)) :
    s = signed '-' pre ++ rest ∧ (pre = "" ∨ PreText pre) := by
  unfold readPre at h
  split at h
  · next s =>
    dsimp only at h
    split at h
    · next hpre =>
      simp only [Option.some.injEq, Prod.mk.injEq] at h
      obtain ⟨rfl, rfl⟩ := h
      have htext : PreText (String.ofList (s.takeWhile (· != '+'))) :=
        isPre_iff.mp (by rwa [String.toList_ofList])
      refine ⟨?_, .inr htext⟩
      rw [signed_of_ne htext.ne_empty, String.toList_ofList, List.cons_append,
        List.takeWhile_append_dropWhile]
    · contradiction
  · simp only [Option.some.injEq, Prod.mk.injEq] at h
    obtain ⟨rfl, rfl⟩ := h
    exact ⟨rfl, .inl rfl⟩

/-- A pre-release part is read up to the build part behind it. -/
private theorem readPre_signed {pre : String} (hpre : pre = "" ∨ PreText pre) (build : String) :
    readPre (signed '-' pre ++ signed '+' build) = some (pre, signed '+' build) := by
  have hplus : signed '+' build = [] ∨ ∃ t, signed '+' build = '+' :: t := by
    unfold signed
    split
    · exact .inl rfl
    · exact .inr ⟨_, rfl⟩
  rcases hpre with rfl | htext
  · rw [signed_empty, List.nil_append]
    rcases hplus with h | ⟨t, h⟩ <;> rw [h] <;> rfl
  · have hall : ∀ c ∈ pre.toList, (c != '+') = true := by
      intro c hc
      rw [bne_iff_ne]
      rintro rfl
      exact htext.notMem_plus hc
    have hstop : ∀ c ∈ (signed '+' build).head?, (c != '+') = false := by
      rcases hplus with h | ⟨t, h⟩ <;> simp [h]
    obtain ⟨htake, hdrop⟩ := Text.run_append hall hstop
    simp [signed_of_ne htext.ne_empty, readPre, htake, hdrop, isPre_iff.mpr htext]

theorem stopsAt_parts (pre build : String) :
    Numeral.StopsAt (signed '-' pre ++ signed '+' build) := by
  unfold signed
  split <;> split <;> simp

theorem toList_text (v : SemVer) : v.text.toList =
    (Numeral.ofNat v.major.toNat).digits ++ '.' :: ((Numeral.ofNat v.minor.toNat).digits ++
      '.' :: ((Numeral.ofNat v.patch.toNat).digits ++
        (signed '-' v.pre ++ signed '+' v.build))) := by
  have hpart (sign part : String) (c : Char) (hc : sign.toList = [c]) :
      (if part = "" then "" else sign ++ part).toList = signed c part := by
    unfold signed
    split <;> simp [hc]
  simp only [text, String.toList_append, Numeral.toList_repr, hpart "-" v.pre '-' rfl,
    hpart "+" v.build '+' rfl]
  simp

private theorem ofString?_eq_some_steps {s : String} {v : SemVer} :
    ofString? s = some v ↔ ∃ s₁ s₂ s₃ s₄, readWord s.toList = some (v.major, s₁) ∧
      readDotWord s₁ = some (v.minor, s₂) ∧ readDotWord s₂ = some (v.patch, s₃) ∧
      readPre s₃ = some (v.pre, s₄) ∧ readBuild s₄ = some v.build := by
  obtain ⟨major, minor, patch, pre, build⟩ := v
  simp only [ofString?, Option.bind_eq_bind, Option.bind_eq_some_iff, Prod.exists,
    Option.some.injEq, mk.injEq]
  constructor
  · rintro ⟨_, _, h₁, _, _, h₂, _, _, h₃, _, _, h₄, _, h₅, rfl, rfl, rfl, rfl, rfl⟩
    exact ⟨_, _, _, _, h₁, h₂, h₃, h₄, h₅⟩
  · rintro ⟨_, _, _, _, h₁, h₂, h₃, h₄, h₅⟩
    exact ⟨_, _, h₁, _, _, h₂, _, _, h₃, _, _, h₄, _, h₅, rfl, rfl, rfl, rfl, rfl⟩

/-- A text is read as a semantic version exactly when it is the text of that version and the parts
of the version are in their grammars. -/
theorem ofString?_eq_some {s : String} {v : SemVer} :
    ofString? s = some v ↔ s = v.text ∧ v.WellFormed := by
  rw [ofString?_eq_some_steps, ← String.toList_inj, toList_text]
  constructor
  · intro h
    obtain ⟨s₁, s₂, s₃, s₄, h₁, h₂, h₃, h₄, h₅⟩ := h
    obtain ⟨hs, -⟩ := readWord_eq_some.mp h₁
    obtain ⟨rfl, -⟩ := readDotWord_eq_some.mp h₂
    obtain ⟨rfl, -⟩ := readDotWord_eq_some.mp h₃
    obtain ⟨rfl, hpre⟩ := readPre_sound h₄
    obtain ⟨rfl, hbuild⟩ := readBuild_eq_some.mp h₅
    exact ⟨hs, ⟨hpre, hbuild⟩⟩
  · intro h
    obtain ⟨hs, ⟨hpre, hbuild⟩⟩ := h
    exact ⟨_, _, _, _, readWord_eq_some.mpr ⟨hs, Numeral.stopsAt_dot _⟩,
      readDotWord_eq_some.mpr ⟨rfl, Numeral.stopsAt_dot _⟩,
      readDotWord_eq_some.mpr ⟨rfl, stopsAt_parts v.pre v.build⟩, readPre_signed hpre v.build,
      readBuild_eq_some.mpr ⟨rfl, hbuild⟩⟩

end SemVer

end BranchVersion
