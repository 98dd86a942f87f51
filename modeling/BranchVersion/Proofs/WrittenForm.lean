import BranchVersion.Proofs.ShortForm
import BranchVersion.Proofs.Trimming

/-!
The written-out form of a version and the short forms inside it. A written-out version ends with a
dot and a numeral, so no short form at its end has a pre-release, and at the end of a final version
there are only few short forms.
-/
namespace BranchVersion

/-- A text splits in one way at its last character that fails a test. -/
theorem Text.append_cons_inj {p : Char → Bool} {s t u w : List Char} {c d : Char}
    (hc : p c = false) (hd : p d = false) (hu : ∀ x ∈ u, p x = true) (hw : ∀ x ∈ w, p x = true)
    (h : s ++ c :: u = t ++ d :: w) : s = t ∧ c = d ∧ u = w := by
  have stuck {k u w : List Char} {c d e : Char} (hd : p d = false) (hu : ∀ x ∈ u, p x = true)
      (h : c :: u = e :: k ++ d :: w) : False := by
    have hmem : d ∈ u := by
      rw [(List.cons.inj h).2]
      simp
    rw [hu d hmem] at hd
    contradiction
  rcases List.append_eq_append_iff.mp h with ⟨k, rfl, hk⟩ | ⟨k, rfl, hk⟩
  · cases k with
    | nil => simpa using hk
    | cons e k => exact (stuck hd hu hk).elim
  · cases k with
    | nil => simpa [eq_comm] using hk
    | cons e k => exact (stuck hc hw hk).elim

private theorem Numeral.head_not_blank (n : Numeral) (s : List Char) :
    ∀ c ∈ (n.digits ++ s).head?, Text.isBlank c = false := by
  intro c hc
  cases hn : n.digits with
  | nil => exact absurd hn n.digits_ne_nil
  | cons d ds =>
    have hd : d = c := by simpa [hn] using hc
    exact Text.isBlank_of_isDigit (n.isDigit_of_mem_digits c (by simp [hn, hd]))

private theorem Numeral.last_not_blank (n : Numeral) (s : List Char) :
    ∀ c ∈ (s ++ n.digits).getLast?, Text.isBlank c = false := by
  intro c hc
  rcases List.eq_nil_or_concat n.digits with hn | ⟨ds, d, hn⟩
  · exact absurd hn n.digits_ne_nil
  · have hd : d = c := by simpa [hn] using hc
    exact Text.isBlank_of_isDigit (n.isDigit_of_mem_digits c (by simp [hn, hd]))

namespace Version

/-- What stands behind the numbers of a written-out version. -/
def label (names : NameTable) (v : Version) : List Char :=
  match v.prerelease with
  | none => []
  | some p => '-' :: ((p.stage.longNameIn names).toList ++ '.' :: p.value.digits)

theorem toList_render (v : Version) (names : NameTable) : (v.render names).toList =
    v.major.digits ++ '.' :: (v.minor.digits ++ '.' :: (v.micro.digits ++ v.label names)) := by
  obtain ⟨major, minor, micro, _ | p⟩ := v <;> simp [render, writeOut, label, Numeral.text]

theorem stopsAt_label (v : Version) (names : NameTable) : Numeral.StopsAt (v.label names) := by
  unfold label
  cases v.prerelease with
  | none => exact Numeral.stopsAt_nil
  | some p => exact Numeral.stopsAt_cons.mpr rfl

theorem toList_render_final {v : Version} (h : v.prerelease = none) (names : NameTable) :
    (v.render names).toList = v.shortForm := by
  simp [toList_render, shortForm_eq, label, ending, h]

theorem render_ends (v : Version) (names : NameTable) :
    ∃ front, ∃ n : Numeral, (v.render names).toList = front ++ '.' :: n.digits := by
  rw [toList_render]
  unfold label
  cases v.prerelease with
  | none => exact ⟨v.major.digits ++ '.' :: v.minor.digits, v.micro, by simp⟩
  | some p =>
    exact ⟨v.major.digits ++ '.' :: (v.minor.digits ++ '.' :: (v.micro.digits ++
      '-' :: (p.stage.longNameIn names).toList)), p.value, by simp⟩

theorem render_tight (v : Version) (names : NameTable) : Text.Tight (v.render names).toList := by
  constructor
  · rw [toList_render]
    exact v.major.head_not_blank _
  · obtain ⟨front, n, h⟩ := v.render_ends names
    rw [h, List.append_cons]
    exact n.last_not_blank _

theorem Spells.ends {v : Version} {s : String} {p : Prerelease} (h : v.Spells s)
    (hp : v.prerelease = some p) :
    ∃ front c, s.toList = front ++ c :: p.value.digits ∧ c ∈ ['a', 'b', 'c'] := by
  obtain ⟨front, c, hmarker, hc⟩ := p.stage.marker_ends
  have hending : v.ending = front ++ c :: p.value.digits := by
    simp [ending, hp, Prerelease.suffix, hmarker]
  rcases h with h | ⟨-, h⟩
  · exact ⟨v.major.digits ++ '.' :: (v.minor.digits ++ '.' :: (v.micro.digits ++ front)), c,
      by simp [h, shortForm_eq, hending], hc⟩
  · exact ⟨v.major.digits ++ '.' :: (v.minor.digits ++ front), c,
      by simp [h, briefForm_eq, hending], hc⟩

/-- At the end of a written-out version no short form has a pre-release, whatever the long names
hold: the last number comes after a dot there, and a pre-release has its number after a letter. -/
theorem Spells.final_of_suffix {v w : Version} {names : NameTable} {s : String}
    (hw : w.Spells s) (hs : s.toList <:+ (v.render names).toList) : w.prerelease = none := by
  cases hp : w.prerelease with
  | none => rfl
  | some p =>
    obtain ⟨before, hbefore⟩ := hs
    obtain ⟨front, c, hends, hc⟩ := hw.ends hp
    obtain ⟨front', n, hrender⟩ := v.render_ends names
    have hsplit : (before ++ front) ++ c :: p.value.digits = front' ++ '.' :: n.digits := by
      rw [List.append_assoc, ← hends, hbefore, hrender]
    have hdigit : c.isDigit = false := by
      simp only [List.mem_cons, List.not_mem_nil, or_false] at hc
      rcases hc with rfl | rfl | rfl <;> rfl
    have hdot := (Text.append_cons_inj hdigit rfl p.value.isDigit_of_mem_digits
      n.isDigit_of_mem_digits hsplit).2.1
    simp [hdot] at hc

theorem spells_final {v : Version} {s : String} (hv : v.prerelease = none) : v.Spells s ↔
    s.toList = v.major.digits ++ '.' :: (v.minor.digits ++ '.' :: v.micro.digits) ∨
    v.micro = .zero ∧ s.toList = v.major.digits ++ '.' :: v.minor.digits := by
  simp [Spells, shortForm_eq, briefForm_eq, ending, hv]

/-- The short forms at the end of a final version leave out leading digits of the major number, or
shift the numbers by one place and leave out the micro number, which is zero then. -/
theorem Spells.suffix_cases {v w : Version} {s : String} (hv : v.prerelease = none)
    (hw : w.Spells s) (hfinal : w.prerelease = none) (hs : s.toList <:+ v.shortForm) :
    (w.major.digits <:+ v.major.digits ∧ w.minor = v.minor ∧ w.micro = v.micro ∧
      s.toList = w.shortForm) ∨
    (w.major.digits <:+ v.minor.digits ∧ w.minor = v.micro ∧ w.micro = .zero) := by
  obtain ⟨before, hbefore⟩ := hs
  rw [shortForm_eq, ending, hv, Option.map_none, Option.getD_none, List.append_nil] at hbefore
  have split {m n : Numeral} {s t : List Char} (h : s ++ '.' :: m.digits = t ++ '.' :: n.digits) :
      s = t ∧ m = n := by
    obtain ⟨hst, -, hmn⟩ := Text.append_cons_inj rfl rfl m.isDigit_of_mem_digits
      n.isDigit_of_mem_digits h
    exact ⟨hst, Numeral.digits_inj.mp hmn⟩
  rcases (spells_final hfinal).mp hw with h | ⟨hzero, h⟩
  · left
    have hmicro : (before ++ w.major.digits ++ '.' :: w.minor.digits) ++ '.' :: w.micro.digits =
        (v.major.digits ++ '.' :: v.minor.digits) ++ '.' :: v.micro.digits := by
      simpa [h] using hbefore
    obtain ⟨hminor, hu⟩ := split hmicro
    obtain ⟨hmajor, hm⟩ := split hminor
    exact ⟨⟨before, hmajor⟩, hm, hu, by simp [h, shortForm_eq, ending, hfinal]⟩
  · right
    have hminor : (before ++ w.major.digits) ++ '.' :: w.minor.digits =
        (v.major.digits ++ '.' :: v.minor.digits) ++ '.' :: v.micro.digits := by
      simpa [h] using hbefore
    obtain ⟨hmajor, hm⟩ := split hminor
    refine ⟨?_, hm, hzero⟩
    have dot : '.' ∉ w.major.digits := w.major.notMem_digits rfl
    rcases List.append_eq_append_iff.mp hmajor with ⟨k, -, hk⟩ | ⟨k, -, hk⟩
    · exact absurd (by simp [hk]) dot
    · cases k with
      | nil =>
        rw [List.nil_append] at hk
        exact absurd (by simp [← hk]) dot
      | cons d k => exact ⟨k, ((List.cons.inj hk).2).symm⟩

end Version

end BranchVersion
