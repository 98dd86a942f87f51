import BranchVersion.Proofs.Outcome
import Mathlib.Logic.Function.Basic

/-!
When two branches get the same version. A written-out version gives back its numbers and, for a
pre-release, the long name and the value, so writing out merges stages that share a long name and
nothing else. Reading merges a micro number that is left out with a zero and nothing else.
-/
namespace BranchVersion

namespace Version

/-- The long name and the value that a written-out version shows, and nothing for a final
version. -/
def shown (names : NameTable) (v : Version) : Option (String × Numeral) :=
  v.prerelease.map fun p => (p.stage.longNameIn names, p.value)

variable {v w : Version} {names names' : NameTable}

/-- A long name may hold hyphens and dots, but the value behind the last dot has only digits. -/
theorem label_eq_label : v.label names = w.label names' ↔ v.shown names = w.shown names' := by
  unfold label shown
  cases hv : v.prerelease with
  | none => cases hw : w.prerelease <;> simp
  | some p =>
    cases hw : w.prerelease with
    | none => simp
    | some q =>
      simp only [List.cons.injEq, true_and, Option.map_some, Option.some.injEq, Prod.mk.injEq]
      constructor
      · intro h
        obtain ⟨hname, -, hvalue⟩ := Text.append_cons_inj rfl rfl p.value.isDigit_of_mem_digits
          q.value.isDigit_of_mem_digits h
        exact ⟨String.toList_inj.mp hname, Numeral.digits_inj.mp hvalue⟩
      · intro h
        rw [h.1, h.2]

/-- The numbers end at the first two dots and at the first hyphen, whatever the tables hold. -/
theorem render_eq_render : v.render names = w.render names' ↔
    v.major = w.major ∧ v.minor = w.minor ∧ v.micro = w.micro ∧
      v.shown names = w.shown names' := by
  rw [← label_eq_label, ← String.toList_inj, toList_render, toList_render]
  constructor
  · -- numbers are cut off in front: two of them end at a dot, the third at a hyphen or at the end
    intro h
    obtain ⟨hmajor, h⟩ := Numeral.append_inj (Numeral.stopsAt_dot _) (Numeral.stopsAt_dot _) h
    obtain ⟨hminor, h⟩ := Numeral.append_inj (Numeral.stopsAt_dot _) (Numeral.stopsAt_dot _)
      (List.cons.inj h).2
    obtain ⟨hmicro, hlabel⟩ := Numeral.append_inj (v.stopsAt_label names) (w.stopsAt_label names')
      (List.cons.inj h).2
    exact ⟨hmajor, hminor, hmicro, hlabel⟩
  · intro h
    rw [h.1, h.2.1, h.2.2.1, h.2.2.2]

/-- Where every stage has a long name of its own, writing out loses nothing. -/
theorem render_injective (h : Function.Injective fun stage : Stage => stage.longNameIn names) :
    Function.Injective fun v : Version => v.render names := by
  intro v w hvw
  obtain ⟨hmajor, hminor, hmicro, hshown⟩ := render_eq_render.mp hvw
  have hpair : Function.Injective fun p : Prerelease => (p.stage.longNameIn names, p.value) := by
    rintro ⟨stage, value⟩ ⟨stage', value'⟩ hp
    obtain ⟨hname, hvalue⟩ := Prod.mk.inj hp
    exact congrArg₂ Prerelease.mk (h hname) hvalue
  obtain ⟨_, _, _, _⟩ := v
  obtain ⟨_, _, _, _⟩ := w
  rw [mk.injEq]
  exact ⟨hmajor, hminor, hmicro, Option.map_injective hpair hshown⟩

def isNumberChar (c : Char) : Bool := c.isDigit || c == '.'

/-- A short form with its micro number written: where there is one dot only, `.0` goes behind the
numbers. -/
def fillMicro (s : String) : String :=
  if s.toList.count '.' = 1 then
    String.ofList (s.toList.takeWhile isNumberChar ++ '.' :: '0' :: s.toList.dropWhile isNumberChar)
  else s

private theorem isNumberChar_of_mem_digits (n : Numeral) :
    ∀ c ∈ n.digits, isNumberChar c = true := by
  intro c hc
  simp [isNumberChar, n.isDigit_of_mem_digits c hc]

private theorem isNumberChar_ending (v : Version) :
    ∀ c ∈ v.ending.head?, isNumberChar c = false := by
  intro c hc
  have h := v.ending_head c hc
  simp only [List.mem_cons, List.not_mem_nil, or_false] at h
  rcases h with rfl | rfl | rfl <;> rfl

private theorem count_dot_digits (n : Numeral) : n.digits.count '.' = 0 :=
  List.count_eq_zero.mpr (n.notMem_digits rfl)

private theorem count_dot_ending (v : Version) : v.ending.count '.' = 0 := by
  rw [List.count_eq_zero]
  intro h
  rcases mem_ending h with hd | hl
  · contradiction
  · simp at hl

theorem Spells.toList_fillMicro {s : String} (h : v.Spells s) :
    (fillMicro s).toList = v.shortForm := by
  unfold fillMicro
  rcases h with h | ⟨hzero, h⟩
  · -- every number is written, which takes two dots
    have hcount : s.toList.count '.' ≠ 1 := by
      simp [h, shortForm_eq, count_dot_digits, count_dot_ending]
    rw [if_neg hcount, h]
  · -- with one dot the micro number is left out, and the numbers reach up to the marker
    have hnumbers : ∀ c ∈ v.major.digits ++ '.' :: v.minor.digits, isNumberChar c = true := by
      intro c hc
      rcases List.mem_append.mp hc with hc | hc
      · exact isNumberChar_of_mem_digits _ c hc
      · rcases List.mem_cons.mp hc with rfl | hc
        · rfl
        · exact isNumberChar_of_mem_digits _ c hc
    have hcount : s.toList.count '.' = 1 := by
      simp [h, briefForm_eq, count_dot_digits, count_dot_ending]
    have hcut : s.toList = (v.major.digits ++ '.' :: v.minor.digits) ++ v.ending := by
      simp [h, briefForm_eq]
    obtain ⟨htake, hdrop⟩ := Text.run_append hnumbers v.isNumberChar_ending
    rw [if_pos hcount, String.toList_ofList, hcut, htake, hdrop, shortForm_eq, hzero]
    simp [Numeral.zero]

example : fillMicro "2.0rc1" = "2.0.0rc1" ∧ fillMicro "2.0.0rc1" = "2.0.0rc1" := by decide

theorem shortForm_inj : v.shortForm = w.shortForm ↔ v = w := by
  constructor
  · intro h
    have hv : v.Spells (String.ofList v.shortForm) := .inl String.toList_ofList
    have hw : w.Spells (String.ofList v.shortForm) := .inl (String.toList_ofList.trans h)
    exact hv.unique hw
  · rintro rfl
    rfl

/-- Two short forms spell one version exactly when they are the same text with the micro number. -/
theorem Spells.fillMicro_eq_fillMicro {s t : String} (hv : v.Spells s) (hw : w.Spells t) :
    fillMicro s = fillMicro t ↔ v = w := by
  rw [← String.toList_inj, hv.toList_fillMicro, hw.toList_fillMicro, shortForm_inj]

end Version

namespace Rules

variable {rules : Rules}

/-- Where every stage has a long name of its own, two branches get one version exactly when their
remainders are the same short form, up to a micro number that is left out. -/
theorem version_eq_iff_fillMicro
    (hnames : Function.Injective fun stage : Stage => stage.longNameIn rules.names)
    {raw raw' version version' : String} {v v' : Version}
    (h : rules.resolve raw = .ok (.normalized v version))
    (h' : rules.resolve raw' = .ok (.normalized v' version')) :
    ∃ rest rest', rules.remainder? raw = some rest ∧ rules.remainder? raw' = some rest' ∧
      (version = version' ↔ Version.fillMicro rest = Version.fillMicro rest') := by
  obtain ⟨rest, hrest, hv, rfl⟩ := resolve_eq_normalized.mp h
  obtain ⟨rest', hrest', hv', rfl⟩ := resolve_eq_normalized.mp h'
  refine ⟨rest, rest', hrest, hrest', ?_⟩
  calc v.render rules.names = v'.render rules.names
      ↔ v = v' := (Version.render_injective hnames).eq_iff
    _ ↔ Version.fillMicro rest = Version.fillMicro rest' := (hv.fillMicro_eq_fillMicro hv').symm

/-- One long name is the end of another, one is missing, and the branches differ in their blanks,
their prefixes and the micro number. -/
theorem version_eq_iff_fillMicro_dotted :
    let rules : Rules := ⟨["v", "release/"], .ofList [("b", "x.b"), ("rc", "b")], "version"⟩
    let v : Version := ⟨.ofNat 1, .ofNat 2, .zero, some ⟨.beta, .ofNat 3⟩⟩
    (Function.Injective fun stage : Stage => stage.longNameIn rules.names) ∧
      rules.resolve " v1.2b3 " = .ok (.normalized v "1.2.0-x.b.3") ∧
      rules.resolve "release/1.2.0b3" = .ok (.normalized v "1.2.0-x.b.3") ∧
      Version.fillMicro "1.2b3" = Version.fillMicro "1.2.0b3" := by
  intro rules v
  have hnames : Function.Injective fun stage : Stage => stage.longNameIn rules.names := by
    intro s t h
    cases s <;> cases t <;> first | rfl | exact absurd h (by decide)
  have h : rules.resolve " v1.2b3 " = .ok (.normalized v "1.2.0-x.b.3") := rfl
  have h' : rules.resolve "release/1.2.0b3" = .ok (.normalized v "1.2.0-x.b.3") := rfl
  obtain ⟨rest, rest', hrest, hrest', hiff⟩ := version_eq_iff_fillMicro hnames h h'
  have hbrief : rules.remainder? " v1.2b3 " = some "1.2b3" := rfl
  have hfull : rules.remainder? "release/1.2.0b3" = some "1.2.0b3" := rfl
  obtain rfl : "1.2b3" = rest := Option.some.inj (hbrief.symm.trans hrest)
  obtain rfl : "1.2.0b3" = rest' := Option.some.inj (hfull.symm.trans hrest')
  exact ⟨hnames, h, h', hiff.mp rfl⟩

end Rules

end BranchVersion
