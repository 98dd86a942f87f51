import BranchVersion.Rules.Decoding

/-! Loading rules from a file. Rules that are loaded have been validated. -/
namespace BranchVersion

abbrev FileContent := Except FileFault ByteArray

def FileContent.ofString (s : String) : FileContent := .ok s.toUTF8

def FileContent.text (content : FileContent) : Except FileFault String :=
  match content with
  | .error fault => .error fault
  | .ok bytes =>
    match String.fromUTF8? bytes with
    | none => .error .notUtf8
    | some s => .ok s

theorem Text.fromUTF8?_eq_some {bytes : ByteArray} {s : String} :
    String.fromUTF8? bytes = some s ↔ s.toUTF8 = bytes := by
  unfold String.fromUTF8?
  constructor
  · intro h
    obtain ⟨_, hs⟩ := Option.dite_none_right_eq_some.mp h
    rw [← Option.some.inj hs]
    rfl
  · rintro rfl
    exact dif_pos s.isValidUTF8

namespace FileContent

variable {content : FileContent} {fault : FileFault} {s : String}

theorem text_eq_ok : content.text = .ok s ↔ content = .ofString s := by
  cases content with
  | error fault => simp [text, ofString]
  | ok bytes =>
    have hdecode : text (.ok bytes) = .ok s ↔ String.fromUTF8? bytes = some s := by
      cases h : String.fromUTF8? bytes <;> simp [text, h]
    rw [hdecode, Text.fromUTF8?_eq_some, ofString, Except.ok.injEq, eq_comm]

theorem text_eq_error : content.text = .error fault ↔ content = .error fault ∨
    ∃ bytes, content = .ok bytes ∧ (∀ s : String, s.toUTF8 ≠ bytes) ∧ fault = .notUtf8 := by
  cases content with
  | error f => simp [text]
  | ok bytes =>
    have hdecode : text (.ok bytes) = .error fault ↔
        String.fromUTF8? bytes = none ∧ fault = .notUtf8 := by
      cases h : String.fromUTF8? bytes <;> simp [text, h, eq_comm]
    rw [hdecode, Option.eq_none_iff_forall_ne_some]
    simp only [ne_eq, Text.fromUTF8?_eq_some, reduceCtorEq, false_or, Except.ok.injEq,
      exists_eq_left']

end FileContent

namespace Rules

def ofString (text : String) (order : KeyOrder) : Except RulesFault Rules :=
  match ofToml? text with
  | none => .error .malformed
  | some rules => (rules.validate order).map fun _ => rules

def load (content : Option FileContent) (order : KeyOrder := .ascending) : Except Fault Rules :=
  match content with
  | none => .ok standard
  | some content =>
    match content.text with
    | .error fault => .error (.file fault)
    | .ok text => (ofString text order).mapError .rules

end Rules
end BranchVersion
