import BranchVersion.Text.Blank
import BranchVersion.Version
import Mathlib.Tactic.Tauto

/-!
The short form of a version as a grammar. Every reader takes exactly the spellings of what it gives,
so a text is read as a version exactly when it spells that version, and no text spells two.
-/
namespace BranchVersion

namespace Numeral

theorem digits_ne_nil (n : Numeral) : n.digits ≠ [] := by
  intro h
  have hc := n.canonical
  rw [h] at hc
  simp [isCanonical] at hc

theorem digits_inj {m n : Numeral} : m.digits = n.digits ↔ m = n := by
  constructor
  · intro h
    cases m
    cases n
    simpa using h
  · rintro rfl
    rfl

theorem notMem_digits (n : Numeral) {c : Char} (hc : c.isDigit = false) : c ∉ n.digits := by
  intro h
  rw [n.isDigit_of_mem_digits c h] at hc
  contradiction

/-- A run of digits in front of `rest` does not go on into it. -/
def StopsAt (rest : List Char) : Prop := ∀ c ∈ rest.head?, c.isDigit = false

@[simp] theorem stopsAt_nil : StopsAt [] := by simp [StopsAt]

@[simp] theorem stopsAt_cons {c : Char} {s : List Char} :
    StopsAt (c :: s) ↔ c.isDigit = false := by simp [StopsAt]

theorem stopsAt_dot (s : List Char) : StopsAt ('.' :: s) := stopsAt_cons.mpr rfl

private theorem stopsAt_dropWhile (s : List Char) : StopsAt (s.dropWhile Char.isDigit) := by
  induction s with
  | nil => exact stopsAt_nil
  | cons c s ih =>
    rw [List.dropWhile_cons]
    split
    · exact ih
    · next hc => exact stopsAt_cons.mpr (by simpa using hc)

theorem read_eq_some {s rest : List Char} {n : Numeral} :
    read s = some (n, rest) ↔ s = n.digits ++ rest ∧ StopsAt rest := by
  constructor
  · intro h
    simp only [read, Option.map_eq_some_iff, Prod.mk.injEq] at h
    obtain ⟨m, hm, rfl, rfl⟩ := h
    rw [ofDigits?_eq_some.mp hm]
    exact ⟨List.takeWhile_append_dropWhile.symm, stopsAt_dropWhile s⟩
  · rintro ⟨rfl, h⟩
    exact read_append n h

/-- Numerals in front of texts that they do not go on into are cut off in one way. -/
theorem append_inj {m n : Numeral} {s t : List Char} (hs : StopsAt s) (ht : StopsAt t)
    (h : m.digits ++ s = n.digits ++ t) : m = n ∧ s = t := by
  have hm := read_append m hs
  rw [h, read_append n ht, Option.some.injEq, Prod.mk.injEq] at hm
  exact ⟨hm.1.symm, hm.2.symm⟩

end Numeral

theorem Prerelease.ofSuffix?_eq_some {s : List Char} {p : Prerelease} :
    ofSuffix? s = some p ↔ s = p.suffix := by
  constructor
  · intro h
    unfold ofSuffix? at h
    split at h
    all_goals try
      obtain ⟨n, hn, rfl⟩ := Option.map_eq_some_iff.mp h
      simp [suffix, Stage.marker, Numeral.ofDigits?_eq_some.mp hn]
    contradiction
  · rintro rfl
    exact ofSuffix?_suffix p

/-- A marker ends with a letter that stands right before the number. -/
theorem Stage.marker_ends (stage : Stage) :
    ∃ front c, stage.marker.toList = front ++ [c] ∧ c ∈ ['a', 'b', 'c'] := by
  cases stage
  · exact ⟨[], 'a', rfl, by simp⟩
  · exact ⟨[], 'b', rfl, by simp⟩
  · exact ⟨['r'], 'c', rfl, by simp⟩

namespace Version

def ending (v : Version) : List Char := (v.prerelease.map Prerelease.suffix).getD []

theorem shortForm_eq (v : Version) : v.shortForm =
    v.major.digits ++ '.' :: (v.minor.digits ++ '.' :: (v.micro.digits ++ v.ending)) := by
  simp [shortForm, ending]

theorem briefForm_eq (v : Version) :
    v.briefForm = v.major.digits ++ '.' :: (v.minor.digits ++ v.ending) := by
  simp [briefForm, ending]

theorem ending_head (v : Version) : ∀ c ∈ v.ending.head?, c ∈ ['a', 'b', 'r'] := by
  obtain ⟨_, _, _, _ | ⟨stage, value⟩⟩ := v
  · simp [ending]
  · cases stage <;> simp [ending, Prerelease.suffix, Stage.marker]

private theorem stopsAt_ending (v : Version) : Numeral.StopsAt v.ending := by
  intro c hc
  have h := v.ending_head c hc
  simp only [List.mem_cons, List.not_mem_nil, or_false] at h
  rcases h with rfl | rfl | rfl <;> rfl

theorem readDot_eq_some {s rest : List Char} : readDot s = some rest ↔ s = '.' :: rest := by
  unfold readDot
  split
  · simp
  · next hs => simpa using hs rest

theorem readMicro_eq_some {s rest : List Char} {n : Numeral} :
    readMicro s = some (n, rest) ↔
      (s = '.' :: (n.digits ++ rest) ∧ Numeral.StopsAt rest) ∨
      (n = .zero ∧ s = rest ∧ ∀ r, rest ≠ '.' :: r) := by
  unfold readMicro
  split
  · next r =>
    rw [Numeral.read_eq_some]
    constructor
    · intro h
      exact .inl ⟨congrArg _ h.1, h.2⟩
    · intro h
      rcases h with ⟨h, hr⟩ | ⟨_, rfl, h⟩
      · exact ⟨(List.cons.inj h).2, hr⟩
      · exact absurd rfl (h r)
  · next hs =>
    simp only [Option.some.injEq, Prod.mk.injEq]
    constructor
    · rintro ⟨rfl, rfl⟩
      exact .inr ⟨rfl, rfl, hs⟩
    · intro h
      rcases h with ⟨h, _⟩ | ⟨rfl, rfl, _⟩
      · exact absurd h (hs _)
      · exact ⟨rfl, rfl⟩

theorem readSuffix_eq_some {s : List Char} {p : Option Prerelease} :
    readSuffix s = some p ↔ s = (p.map Prerelease.suffix).getD [] := by
  constructor
  · intro h
    unfold readSuffix at h
    split at h
    · rw [← Option.some.inj h]
      rfl
    · obtain ⟨q, hq, rfl⟩ := Option.map_eq_some_iff.mp h
      exact Prerelease.ofSuffix?_eq_some.mp hq
  · rintro rfl
    exact readSuffix_suffix p

private theorem ofChars?_eq_some_steps {s : List Char} {v : Version} :
    ofChars? s = some v ↔ ∃ afterMajor afterMinor,
      Numeral.read s = some (v.major, '.' :: afterMajor) ∧
      Numeral.read afterMajor = some (v.minor, afterMinor) ∧
      readMicro afterMinor = some (v.micro, v.ending) := by
  obtain ⟨major, minor, micro, prerelease⟩ := v
  simp only [ofChars?, Option.bind_eq_bind, Option.bind_eq_some_iff, Prod.exists, readDot_eq_some,
    readSuffix_eq_some, Option.some.injEq, mk.injEq, ending]
  constructor
  · rintro ⟨_, _, h₁, _, rfl, _, _, h₂, _, _, h₃, _, rfl, rfl, rfl, rfl, rfl⟩
    exact ⟨_, _, h₁, h₂, h₃⟩
  · rintro ⟨_, _, h₁, h₂, h₃⟩
    exact ⟨_, _, h₁, _, rfl, _, _, h₂, _, _, h₃, _, rfl, rfl, rfl, rfl, rfl⟩

/-- The two spellings of a version: with every number, and without the micro number where it is
zero. -/
def Spells (v : Version) (s : String) : Prop :=
  s.toList = v.shortForm ∨ v.micro = .zero ∧ s.toList = v.briefForm

instance (v : Version) (s : String) : Decidable (v.Spells s) :=
  inferInstanceAs (Decidable (_ ∨ _))

theorem ofString?_eq_some {s : String} {v : Version} : ofString? s = some v ↔ v.Spells s := by
  unfold ofString? Spells
  rw [ofChars?_eq_some_steps, shortForm_eq, briefForm_eq]
  constructor
  · intro h
    obtain ⟨afterMajor, afterMinor, hmajor, hminor, hmicro⟩ := h
    obtain ⟨hs, -⟩ := Numeral.read_eq_some.mp hmajor
    obtain ⟨rfl, -⟩ := Numeral.read_eq_some.mp hminor
    rcases readMicro_eq_some.mp hmicro with ⟨rfl, -⟩ | ⟨hzero, rfl, -⟩
    · exact .inl hs
    · exact .inr ⟨hzero, hs⟩
  · have hending : ∀ r, v.ending ≠ '.' :: r := by
      intro r hr
      have h := v.ending_head '.' (by rw [hr]; rfl)
      simp at h
    intro h
    rcases h with hs | ⟨hzero, hs⟩
    · exact ⟨_, _, Numeral.read_eq_some.mpr ⟨hs, Numeral.stopsAt_dot _⟩,
        Numeral.read_append _ (Numeral.stopsAt_dot _),
        readMicro_eq_some.mpr (.inl ⟨rfl, v.stopsAt_ending⟩)⟩
    · exact ⟨_, _, Numeral.read_eq_some.mpr ⟨hs, Numeral.stopsAt_dot _⟩,
        Numeral.read_append _ v.stopsAt_ending,
        readMicro_eq_some.mpr (.inr ⟨hzero, rfl, hending⟩)⟩

example : (ofNumbers 2 0 0).Spells "2.0" ∧ (ofNumbers 2 0 0).Spells "2.0.0" := by decide

theorem Spells.unique {s : String} {v w : Version} (hv : v.Spells s) (hw : w.Spells s) : v = w :=
  Option.some.inj ((ofString?_eq_some.mpr hv).symm.trans (ofString?_eq_some.mpr hw))

theorem ofString?_eq_none {s : String} : ofString? s = none ↔ ∀ v : Version, ¬v.Spells s := by
  simp only [Option.eq_none_iff_forall_ne_some, ne_eq, ofString?_eq_some]

theorem mem_ending {v : Version} {c : Char} (h : c ∈ v.ending) :
    c.isDigit = true ∨ c ∈ ['a', 'b', 'c', 'r'] := by
  obtain ⟨_, _, _, _ | ⟨stage, value⟩⟩ := v
  · simp [ending] at h
  · have hc : c ∈ stage.marker.toList ∨ c ∈ value.digits := by
      simpa [ending, Prerelease.suffix] using h
    rcases hc with hc | hc
    · right
      cases stage <;> simp [Stage.marker] at hc ⊢ <;> tauto
    · exact .inl (value.isDigit_of_mem_digits c hc)

/-- The alphabet of the grammar: digits, dots and the letters of the markers. -/
theorem Spells.char {v : Version} {s : String} (h : v.Spells s) :
    ∀ c ∈ s.toList, c.isDigit = true ∨ c ∈ ['.', 'a', 'b', 'c', 'r'] := by
  intro c hc
  have hmem : c ∈ v.major.digits ∨ c ∈ v.minor.digits ∨ c ∈ v.micro.digits ∨ c = '.' ∨
      c ∈ v.ending := by
    rcases h with h | ⟨-, h⟩
    · rw [h, shortForm_eq] at hc
      simp only [List.mem_append, List.mem_cons] at hc
      tauto
    · rw [h, briefForm_eq] at hc
      simp only [List.mem_append, List.mem_cons] at hc
      tauto
  rcases hmem with hc | hc | hc | rfl | hc
  · exact .inl (v.major.isDigit_of_mem_digits c hc)
  · exact .inl (v.minor.isDigit_of_mem_digits c hc)
  · exact .inl (v.micro.isDigit_of_mem_digits c hc)
  · exact .inr (by simp)
  · exact (mem_ending hc).imp_right (List.mem_cons_of_mem _)

theorem Spells.not_isBlank {v : Version} {s : String} (h : v.Spells s) :
    ∀ c ∈ s.toList, Text.isBlank c = false := by
  intro c hc
  rcases h.char c hc with hd | hl
  · exact Text.isBlank_of_isDigit hd
  · simp only [List.mem_cons, List.not_mem_nil, or_false] at hl
    rcases hl with rfl | rfl | rfl | rfl | rfl <;> decide

/-- Reading accepts exactly the spellings, each as the one version that it spells: a number or
ending that is written is kept, and a text with a blank anywhere is refused. -/
theorem short_form_exact (s : String) :
    (∀ v : Version, ofString? s = some v ↔
      s.toList = v.shortForm ∨ v.micro = .zero ∧ s.toList = v.briefForm) ∧
    (ofString? s = none ↔ ∀ v : Version, ¬v.Spells s) ∧
    (∀ v w : Version, v.Spells s → w.Spells s → v = w) ∧
    (∀ v : Version, s.toList = v.shortForm → ofString? s = some v) ∧
    (∀ v : Version, s.toList = v.briefForm → ofString? s = some { v with micro := .zero }) ∧
    (∀ c ∈ s.toList, Text.isBlank c = true → ofString? s = none) := by
  refine ⟨fun v => ofString?_eq_some, ofString?_eq_none, fun v w => Spells.unique, ?_, ?_, ?_⟩
  · intro v hs
    exact ofString?_eq_some.mpr (.inl hs)
  · intro v hs
    exact ofString?_eq_some.mpr (.inr ⟨rfl, hs⟩)
  · intro c hc hblank
    rw [ofString?_eq_none]
    intro v hv
    rw [hv.not_isBlank c hc] at hblank
    contradiction

end Version

end BranchVersion
