import BranchVersion.LogFilter
import BranchVersion.Proofs.Trimming
import Mathlib.Data.List.TakeDrop

/-!
What settings of the log filter show. Without a setting nothing is shown, and a target with a level
shows the events of this target and of those below it, if the level goes down to them.
-/
namespace BranchVersion

/-- A character that stands for itself in a directive. -/
def IsPlainChar (c : Char) : Prop := c.isAlphanum = true ∨ c ∈ ['-', ':', '_', '+']

instance (c : Char) : Decidable (IsPlainChar c) := inferInstanceAs (Decidable (_ ∨ _))

private theorem IsPlainChar.isBlank {c : Char} (h : IsPlainChar c) : Text.isBlank c = false := by
  rcases h with h | h
  · rcases Bool.or_eq_true_iff.mp h with halpha | hdigit
    · rcases Bool.or_eq_true_iff.mp halpha with hupper | hlower
      · have hbounds : 0x41 ≤ c.toNat ∧ c.toNat ≤ 0x5A := of_decide_eq_true hupper
        exact Text.isBlank_eq_false (by omega) (by omega)
      · obtain ⟨hlow, hhigh⟩ := Bool.and_eq_true_iff.mp hlower
        have hbounds : 0x61 ≤ c.toNat ∧ c.toNat ≤ 0x7A :=
          ⟨of_decide_eq_true hlow, of_decide_eq_true hhigh⟩
        exact Text.isBlank_eq_false (by omega) (by omega)
    · exact Text.isBlank_of_isDigit hdigit
  · simp only [List.mem_cons, List.not_mem_nil, or_false] at h
    rcases h with rfl | rfl | rfl | rfl <;> rfl

private theorem IsPlainChar.ne {c d : Char} (h : IsPlainChar c) (hd : ¬IsPlainChar d) : c ≠ d := by
  rintro rfl
  exact hd h

namespace Level

end Level

/-- A path of names: letters and digits, with underscores, hyphens and colons. -/
def LogFilter.IsTarget (s : List Char) : Prop :=
  s ≠ [] ∧ ∀ c ∈ s, c.isAlphanum = true ∨ c ∈ ['-', ':', '_']

instance (s : List Char) : Decidable (LogFilter.IsTarget s) :=
  decidable_of_iff
    (s ≠ [] ∧ s.all (fun c => decide (c.isAlphanum = true ∨ c ∈ ['-', ':', '_'])) = true)
    (by simp [LogFilter.IsTarget])

private theorem LogFilter.IsTarget.isPlainChar {s : List Char} (h : LogFilter.IsTarget s) :
    ∀ c ∈ s, IsPlainChar c := by
  intro c hc
  rcases h.2 c hc with halnum | hmark
  · exact .inl halnum
  · exact .inr (List.mem_append_left ['+'] hmark)

private theorem LogFilter.IsTarget.isWordStart {s : List Char} (h : LogFilter.IsTarget s) :
    ∀ c ∈ s, DirectiveText.isWordStart c = true := by
  intro c hc
  rcases h.2 c hc with halnum | hmark
  · have hword : Text.isAlphanumeric c = true := by
      rcases Bool.or_eq_true_iff.mp halnum with h | h
      · simp [Text.isAlphanumeric, Text.isAlphabetic_of_isAlpha h]
      · simp [Text.isAlphanumeric, Text.isNumeric_of_isDigit h]
    simp [DirectiveText.isWordStart, hword]
  · simp only [List.mem_cons, List.not_mem_nil, or_false] at hmark
    rcases hmark with rfl | rfl | rfl <;> rfl

namespace Directive

variable {target level : List Char} {l : Level}

/-- A target goes on to the equals sign or to the end. -/
private theorem isWordChar_of_target (ht : LogFilter.IsTarget target) :
    ∀ c ∈ target, (c != '=' && c != '[') = true := by
  intro c hc
  have hplain := ht.isPlainChar c hc
  simp [hplain.ne (d := '=') (by decide), hplain.ne (d := '[') (by decide)]

/-- A word by itself. -/
private theorem split?_word {word : List Char} (hw : LogFilter.IsTarget word) :
    DirectiveText.split? word = some ⟨word, none, none⟩ := by
  obtain ⟨htake, hdrop⟩ := Text.run_append (t := []) (isWordChar_of_target hw) (by simp)
  rw [List.append_nil] at htake hdrop
  obtain ⟨c, rest, rfl⟩ := List.exists_cons_of_ne_nil hw.1
  have hstart := hw.isWordStart c List.mem_cons_self
  unfold DirectiveText.split?
  rw [List.span_eq_takeWhile_dropWhile, htake, hdrop]
  simp [hstart]

private theorem read?_level (hw : LogFilter.IsTarget level) (hl : Level.ofChars? level = some l) :
    read? level = some (some ⟨[], none, l⟩) := by
  have htight : Text.trimChars level = level := by
    apply Text.trimChars_eq_self
    apply Text.tight_of_not_blank
    intro c hc
    exact (hw.isPlainChar c hc).isBlank
  rw [read?, DirectiveText.ofChars?, htight, split?_word hw]
  simp [DirectiveText.transfer, ofText?, hl]

end Directive

namespace LogFilter

theorem shows_unset (e : Event) : (ofSetting none).shows e = false := rfl

/-- A level by itself, without a sign, is about all events. -/
theorem shows_level {level : String} {l : Level} (hw : IsTarget level.toList)
    (hl : Level.ofChars? level.toList = some l) (e : Event) :
    (ofSetting (some level)).shows e = decide (Level.debug.rank ≤ l.rank) := by
  have hcomma : ',' ∉ level.toList := by
    intro hc
    exact absurd (hw.isPlainChar _ hc) (by decide)
  have hfilter : ofSetting (some level) = ⟨[⟨[], none, l⟩]⟩ := by
    simp [ofSetting, ofString?, Text.pieces_of_notMem hcomma, hw.1, Directive.read?_level hw hl]
  simp [hfilter, shows, decisive?, Directive.covers]

end LogFilter

end BranchVersion
