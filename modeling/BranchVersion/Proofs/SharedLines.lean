import BranchVersion.Proofs.Rerun

/-!
Which keys and versions share an output line. Both are written into it as they are, so colons at the
end of a key or inside it can also be read as the start of a version. There is no other way for two
lines to be equal, and acceptable rules with such keys do share lines.
-/
namespace BranchVersion

/-- The longer key goes on after the shorter one with a colon, or with two and a text, and the value
of the shorter one begins with what was left of the colons and that text. -/
def Overlaps (key value longKey longValue : String) : Prop :=
  (longKey = key ++ ":" ∧ value = ":" ++ longValue) ∨
    ∃ t, longKey = key ++ "::" ++ t ∧ value = t ++ "::" ++ longValue

/-- Neither at the end of the key nor in front of a further colon is there a colon. -/
def IsClosedKey (key : String) : Prop :=
  ∀ start, key ≠ start ++ ":" ∧ ∀ t, key ≠ start ++ "::" ++ t

variable {key value key' value' : String}

private theorem setOutput_eq_iff_toList : setOutput key value = setOutput key' value' ↔
    key.toList ++ ':' :: ':' :: value.toList = key'.toList ++ ':' :: ':' :: value'.toList := by
  unfold setOutput
  rw [String.append_assoc, String.append_assoc, String.append_assoc, String.append_assoc,
    String.append_right_inj, ← String.toList_inj]
  simp

theorem Overlaps.setOutput_eq (h : Overlaps key value key' value') :
    setOutput key value = setOutput key' value' := by
  rw [setOutput_eq_iff_toList]
  rcases h with ⟨rfl, rfl⟩ | ⟨t, rfl, rfl⟩ <;> simp

/-- Two colons can be read again in a text that begins with two: at the same place, one colon later,
or behind both of them. -/
private theorem colons_eq_append {s t more : List Char}
    (h : ':' :: ':' :: s = more ++ ':' :: ':' :: t) :
    (more = [] ∧ s = t) ∨ (more = [':'] ∧ s = ':' :: t) ∨
      ∃ u, more = ':' :: ':' :: u ∧ s = u ++ ':' :: ':' :: t := by
  rcases more with _ | ⟨c, _ | ⟨d, u⟩⟩
  · simpa using h
  · simp only [List.cons_append, List.nil_append, List.cons.injEq] at h
    obtain ⟨rfl, -, hs⟩ := h
    exact .inr (.inl ⟨rfl, hs⟩)
  · simp only [List.cons_append, List.cons.injEq] at h
    obtain ⟨rfl, rfl, hs⟩ := h
    exact .inr (.inr ⟨u, rfl, hs⟩)

private theorem overlaps_of_longer {more : List Char} (hkey : key'.toList = key.toList ++ more)
    (hmore : ':' :: ':' :: value.toList = more ++ ':' :: ':' :: value'.toList) :
    (key = key' ∧ value = value') ∨ Overlaps key value key' value' := by
  simp only [Overlaps, ← String.toList_inj, String.toList_append]
  rcases colons_eq_append hmore with ⟨rfl, hv⟩ | ⟨rfl, hv⟩ | ⟨u, rfl, hv⟩
  · exact .inl ⟨by simp [hkey], hv⟩
  · exact .inr (.inl ⟨hkey, hv⟩)
  · exact .inr (.inr ⟨String.ofList u, by simp [hkey], by simp [hv]⟩)

theorem setOutput_eq_setOutput : setOutput key value = setOutput key' value' ↔
    (key = key' ∧ value = value') ∨ Overlaps key value key' value' ∨
      Overlaps key' value' key value := by
  constructor
  · intro h
    rcases List.append_eq_append_iff.mp (setOutput_eq_iff_toList.mp h) with ⟨more, hkey, hmore⟩ |
      ⟨more, hkey, hmore⟩
    · exact (overlaps_of_longer hkey hmore).imp_right .inl
    · exact (overlaps_of_longer hkey hmore).imp (fun h => ⟨h.1.symm, h.2.symm⟩) .inr
  · rintro (⟨rfl, rfl⟩ | h | h)
    · rfl
    · exact h.setOutput_eq
    · exact h.setOutput_eq.symm

theorem IsClosedKey.not_overlaps (h : IsClosedKey key') : ¬Overlaps key value key' value' := by
  rintro (⟨hkey, -⟩ | ⟨t, hkey, -⟩)
  · exact (h key).1 hkey
  · exact (h key).2 t hkey

namespace Rules

variable {rules : Rules} {raw : String} {r : Resolution}

/-- Two output lines are equal just when keys and versions are, or when they overlap. Keys that
leave no room for a colon are told apart by their lines, and so are the versions. -/
theorem outputLine_eq_outputLine (rules rules' : Rules) (r r' : Resolution) :
    (rules.outputLine r = rules'.outputLine r' ↔
      (rules.outputKey = rules'.outputKey ∧ r.version = r'.version) ∨
        Overlaps rules.outputKey r.version rules'.outputKey r'.version ∨
        Overlaps rules'.outputKey r'.version rules.outputKey r.version) ∧
    (IsClosedKey rules.outputKey → IsClosedKey rules'.outputKey →
      rules.outputLine r = rules'.outputLine r' →
      rules.outputKey = rules'.outputKey ∧ r.version = r'.version) := by
  refine ⟨setOutput_eq_setOutput, ?_⟩
  intro hclosed hclosed' h
  rcases setOutput_eq_setOutput.mp h with heq | h | h
  · exact heq
  · exact absurd h hclosed'.not_overlaps
  · exact absurd h hclosed.not_overlaps

/-- The built-in rules with another key call one line `a` with `b::c`, and `a::b` with `c`. -/
theorem outputLine_shared :
    let rules : Rules := { Rules.standard with outputKey := "a" }
    let rules' : Rules := { Rules.standard with outputKey := "a::b" }
    (∀ order, rules.validate order = .ok ()) ∧ (∀ order, rules'.validate order = .ok ()) ∧
      rules.resolve "b::c" = .ok (.unprefixed "b::c") ∧ rules'.resolve "c" = .ok (.unprefixed "c") ∧
      rules.outputLine (.unprefixed "b::c") = rules'.outputLine (.unprefixed "c") ∧
      rules.outputKey ≠ rules'.outputKey ∧
      (Resolution.unprefixed "b::c").version ≠ (Resolution.unprefixed "c").version :=
  ⟨validate_standard_names (by decide) (by decide),
    validate_standard_names (by decide) (by decide), rfl,
    rfl, rfl, by decide, by decide⟩

/-- A text that holds a colon and has no blank at its end is no short form, so that it passes behind
a prefix. -/
private theorem resolve_behind_v (names : NameTable) (hcolon : ':' ∈ value.toList)
    (hlast : ∀ c ∈ value.toList.getLast?, Text.isBlank c = false) :
    resolve ⟨["v"], names, key⟩ ("v" ++ value) = .ok (.unmatched value) := by
  have hlist : ("v" ++ value).toList = 'v' :: value.toList := by simp
  have hne : value.toList ≠ [] := List.ne_nil_of_mem hcolon
  have hname : Text.trim ("v" ++ value) = "v" ++ value := by
    apply Text.trim_eq_self_iff.mpr
    rw [hlist]
    refine ⟨by simp; decide, ?_⟩
    rwa [List.getLast?_cons_of_ne_nil hne]
  have hfirst : FirstMatch ["v"] ("v" ++ value) "v" value := ⟨rfl, [], [], rfl, by simp⟩
  have hspells : ∀ v : Version, ¬v.Spells value := by
    intro v hv
    rcases hv.char ':' hcolon with hdigit | hletter
    · contradiction
    · simp at hletter
  apply resolve_eq_ok.mpr
  rw [hname]
  exact ⟨by simp [← String.toList_inj], .unmatched hfirst hspells⟩

private theorem last_behind_colon (front : List Char) {rest : List Char}
    (h : ∀ c ∈ rest.getLast?, Text.isBlank c = false) :
    ∀ c ∈ (front ++ ':' :: rest).getLast?, Text.isBlank c = false := by
  cases hrest : rest.getLast? with
  | none => simp [List.getLast?_append, List.getLast?_cons, hrest]; decide
  | some d => simpa [List.getLast?_append, List.getLast?_cons, hrest] using h d hrest

/-- A line whose key goes on with a colon after a text that is not blank is also a line of other
acceptable rules, which have that text as the key. -/
theorem exists_outputLine_eq (h : rules.resolve raw = .ok r) (hkey : Text.trim key ≠ "")
    (hrules : rules.outputKey = key ++ ":" ∨ ∃ t, rules.outputKey = key ++ "::" ++ t) :
    ∃ rules' : Rules, (∀ order, rules'.validate order = .ok ()) ∧ rules'.outputKey = key ∧
      ∃ raw' r', rules'.resolve raw' = .ok r' ∧ rules'.outputLine r' = rules.outputLine r := by
  have hlast := versionFor_last (versionFor_eq_ok.mpr ⟨r, h, rfl⟩)
  have hvalue : ∃ value, Overlaps key value rules.outputKey r.version ∧ ':' ∈ value.toList ∧
      ∀ c ∈ value.toList.getLast?, Text.isBlank c = false := by
    rcases hrules with hrules | ⟨t, hrules⟩
    · refine ⟨":" ++ r.version, .inl ⟨hrules, rfl⟩, by simp, ?_⟩
      simpa using last_behind_colon [] hlast
    · refine ⟨t ++ "::" ++ r.version, .inr ⟨t, hrules, rfl⟩, by simp, ?_⟩
      simpa using last_behind_colon (t.toList ++ [':']) hlast
  obtain ⟨value, hoverlap, hcolon, hend⟩ := hvalue
  refine ⟨⟨["v"], .standard, key⟩, validate_standard_names (by simp) hkey, rfl, "v" ++ value,
    .unmatched value, resolve_behind_v .standard hcolon hend, ?_⟩
  exact hoverlap.setOutput_eq

end Rules

end BranchVersion
