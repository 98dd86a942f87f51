import BranchVersion.Text.Blank
import Mathlib.Data.List.TakeWhile

/-! What trimming gives: the one part of a text that has blanks on its outside only. -/
namespace BranchVersion.Text

def Tight (s : List Char) : Prop :=
  (∀ c ∈ s.head?, isBlank c = false) ∧ ∀ c ∈ s.getLast?, isBlank c = false

/-- A text is `core` with blanks around it, and `core` has no blank at its ends. -/
def Trims (raw core : String) : Prop :=
  ∃ before after : List Char, raw.toList = before ++ core.toList ++ after ∧
    (∀ c ∈ before ++ after, isBlank c = true) ∧ Tight core.toList

theorem tight_of_not_blank {s : List Char} (h : ∀ c ∈ s, isBlank c = false) : Tight s :=
  ⟨fun c hc => h c (List.mem_of_head? hc), fun c hc => h c (List.mem_of_getLast? hc)⟩

private theorem trimStart_append_of_blank {before : List Char} (h : ∀ c ∈ before, isBlank c = true)
    (s : List Char) : trimStart (before ++ s) = trimStart s :=
  List.dropWhile_append_of_pos h

private theorem trimEnd_append_of_blanks {after : List Char} (h : ∀ c ∈ after, isBlank c = true)
    (s : List Char) : trimEnd (s ++ after) = trimEnd s := by
  unfold trimEnd
  rw [List.reverse_append, List.dropWhile_append_of_pos (by simpa using h)]

private theorem trimStart_eq_self {s : List Char} (h : ∀ c ∈ s.head?, isBlank c = false) :
    trimStart s = s := by
  cases s with
  | nil => rfl
  | cons c s => exact trimStart_cons_of_not_blank (h c rfl) s

private theorem trimEnd_eq_self {s : List Char} (h : ∀ c ∈ s.getLast?, isBlank c = false) :
    trimEnd s = s := by
  have hr := trimStart_eq_self (s := s.reverse) (by simpa using h)
  unfold trimStart at hr
  unfold trimEnd
  rw [hr, List.reverse_reverse]

private theorem trimStart_head (s : List Char) : ∀ c ∈ (trimStart s).head?, isBlank c = false := by
  induction s with
  | nil => simp [trimStart]
  | cons c s ih =>
    cases h : isBlank c with
    | true => simpa [trimStart, h] using ih
    | false => simp [trimStart_cons_of_not_blank h, h]

private theorem trimEnd_last (s : List Char) : ∀ c ∈ (trimEnd s).getLast?, isBlank c = false := by
  simpa [trimEnd, trimStart] using trimStart_head s.reverse

private theorem trimStart_cut (s : List Char) :
    ∃ before, s = before ++ trimStart s ∧ ∀ c ∈ before, isBlank c = true :=
  ⟨s.takeWhile isBlank, List.takeWhile_append_dropWhile.symm,
    fun _ hc => List.mem_takeWhile_imp hc⟩

private theorem trimEnd_cut (s : List Char) :
    ∃ after, s = trimEnd s ++ after ∧ ∀ c ∈ after, isBlank c = true := by
  obtain ⟨before, hs, hb⟩ := trimStart_cut s.reverse
  refine ⟨before.reverse, ?_, by simpa using hb⟩
  have h := congrArg List.reverse hs
  simpa [trimEnd, trimStart] using h

private theorem trimChars_tight (s : List Char) : Tight (trimChars s) := by
  refine ⟨?_, trimEnd_last _⟩
  have hhead := trimStart_head s
  unfold trimChars
  cases h : trimStart s with
  | nil => simp [trimEnd]
  | cons c rest =>
    rw [h] at hhead
    have hc := hhead c rfl
    simp [trimEnd_cons_of_not_blank hc, hc]

theorem trimChars_eq_self {s : List Char} (h : Tight s) : trimChars s = s := by
  unfold trimChars
  rw [trimStart_eq_self h.1, trimEnd_eq_self h.2]

private theorem trimChars_append {before core after : List Char}
    (hb : ∀ c ∈ before, isBlank c = true) (ha : ∀ c ∈ after, isBlank c = true)
    (hcore : Tight core) :
    trimChars (before ++ core ++ after) = core := by
  unfold trimChars
  rw [List.append_assoc, trimStart_append_of_blank hb]
  cases core with
  | nil =>
    have hnil := trimStart_append_of_blank ha []
    rw [List.append_nil] at hnil
    rw [List.nil_append, hnil]
    rfl
  | cons c rest =>
    rw [List.cons_append, trimStart_cons_of_not_blank (hcore.1 c rfl), ← List.cons_append,
      trimEnd_append_of_blanks ha, trimEnd_eq_self hcore.2]

theorem trims_iff {raw core : String} : Trims raw core ↔ core = trim raw := by
  constructor
  · rintro ⟨before, after, hraw, hblank, hcore⟩
    have h := trimChars_append (fun c hc => hblank c (List.mem_append_left _ hc))
      (fun c hc => hblank c (List.mem_append_right _ hc)) hcore
    rw [trim, hraw, h, String.ofList_toList]
  · rintro rfl
    obtain ⟨before, hs, hb⟩ := trimStart_cut raw.toList
    obtain ⟨after, ht, ha⟩ := trimEnd_cut (trimStart raw.toList)
    refine ⟨before, after, ?_, ?_, ?_⟩
    · rw [trim, String.toList_ofList, trimChars, List.append_assoc, ← ht]
      exact hs
    · intro c hc
      exact (List.mem_append.mp hc).elim (hb c) (ha c)
    · rw [trim, String.toList_ofList]
      exact trimChars_tight _

def AllBlank (s : String) : Prop := ∀ c ∈ s.toList, isBlank c = true

instance (s : String) : Decidable (AllBlank s) :=
  decidable_of_iff (s.toList.all isBlank = true) List.all_eq_true

theorem trim_eq_empty {s : String} : trim s = "" ↔ AllBlank s := by
  rw [eq_comm, ← trims_iff]
  constructor
  · intro h
    obtain ⟨before, after, hs, hblank, -⟩ := h
    intro c hc
    rw [hs] at hc
    exact hblank c (by simpa using hc)
  · intro h
    refine ⟨s.toList, [], by simp, ?_, tight_of_not_blank (by simp)⟩
    intro c hc
    exact h c (by simpa using hc)

theorem Trims.append {before raw after core : String} (h : Trims raw core) (hb : AllBlank before)
    (ha : AllBlank after) : Trims (before ++ raw ++ after) core := by
  obtain ⟨front, back, hraw, hblank, hcore⟩ := h
  refine ⟨before.toList ++ front, back ++ after.toList, by simp [hraw], ?_, hcore⟩
  intro c hc
  have hmem : c ∈ before.toList ∨ c ∈ front ++ back ∨ c ∈ after.toList := by
    simpa [or_assoc] using hc
  rcases hmem with hc | hc | hc
  · exact hb c hc
  · exact hblank c hc
  · exact ha c hc

theorem trim_append {before after : String} (hb : AllBlank before) (ha : AllBlank after)
    (raw : String) : trim (before ++ raw ++ after) = trim raw := by
  have hraw : Trims raw (trim raw) := trims_iff.mpr rfl
  exact (trims_iff.mp (hraw.append hb ha)).symm

theorem trim_eq_self_iff {s : String} : trim s = s ↔ Tight s.toList := by
  constructor
  · intro h
    have ht := trimChars_tight s.toList
    rw [← h, trim, String.toList_ofList]
    exact ht
  · intro h
    rw [trim, trimChars_eq_self h, String.ofList_toList]

theorem last_of_suffix {s t : List Char} (h : s <:+ t) {c : Char} (hc : c ∈ s.getLast?) :
    c ∈ t.getLast? := by
  obtain ⟨before, rfl⟩ := h
  rw [Option.mem_def] at hc ⊢
  rw [List.getLast?_append, hc, Option.some_or]

/-- Where the last character is no blank, trimming takes away from the front only. -/
theorem trim_suffix {s : String} (h : ∀ c ∈ s.toList.getLast?, isBlank c = false) :
    (trim s).toList <:+ s.toList := by
  obtain ⟨before, after, hs, hblank, -⟩ := trims_iff.mpr (rfl : trim s = trim s)
  have hafter : after = [] := by
    rcases List.eq_nil_or_concat after with ha | ⟨front, c, ha⟩
    · exact ha
    · have hc : c ∈ s.toList.getLast? := by simp [hs, ha]
      have hb := hblank c (by simp [ha])
      rw [h c hc] at hb
      contradiction
  exact ⟨before, by rw [hs, hafter, List.append_nil]⟩

end BranchVersion.Text
