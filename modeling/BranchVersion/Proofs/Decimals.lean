import BranchVersion.Proofs.SemVerGrammar

/-!
Numerals as the decimals of numbers. Reading takes exactly the canonical decimals and keeps them as
they are, so numerals and natural numbers are in one-to-one correspondence, and a numeral has a
machine word exactly when its number is below `2 ^ 64`.
-/
namespace BranchVersion

/-- `0` alone, or digits of which the first is not `0`. -/
def Text.IsDecimal (s : String) : Prop :=
  s = "0" ∨ ∃ c rest, s.toList = c :: rest ∧ c ≠ '0' ∧ c.isDigit = true ∧
    ∀ d ∈ rest, d.isDigit = true

private theorem Text.isDecimal_iff_isCanonical {s : String} :
    IsDecimal s ↔ isCanonical s.toList = true := by
  unfold IsDecimal
  rw [← String.toList_inj]
  cases s.toList with
  | nil => simp [isCanonical]
  | cons c rest =>
    simp only [isCanonical, Bool.and_eq_true, List.all_eq_true, Bool.or_eq_true, bne_iff_ne,
      List.isEmpty_iff, List.cons.injEq]
    constructor
    · intro h
      rcases h with hzero | ⟨_, _, ⟨rfl, rfl⟩, hc, hdigit, hrest⟩
      · obtain ⟨rfl, rfl⟩ : c = '0' ∧ rest = [] := by simpa using hzero
        simp
      · exact ⟨⟨hdigit, hrest⟩, .inl hc⟩
    · intro h
      obtain ⟨⟨hdigit, hrest⟩, hc⟩ := h
      by_cases hzero : c = '0'
      · left
        simpa [hzero] using hc
      · exact .inr ⟨c, rest, ⟨rfl, rfl⟩, hzero, hdigit, hrest⟩

instance (s : String) : Decidable (Text.IsDecimal s) :=
  decidable_of_iff _ Text.isDecimal_iff_isCanonical.symm

theorem Numeral.isDecimal_text (n : Numeral) : Text.IsDecimal n.text := by
  rw [Text.isDecimal_iff_isCanonical, text, String.toList_ofList]
  exact n.canonical

theorem Text.IsDecimal.exists_text {s : String} (h : IsDecimal s) : ∃ n : Numeral, n.text = s :=
  ⟨⟨s.toList, isDecimal_iff_isCanonical.mp h⟩, String.ofList_toList⟩

namespace Numeral

variable {s : String} {m n : Numeral} {k : Nat}

/-- Whatever is read is kept verbatim. -/
theorem ofString?_eq_some : ofString? s = some n ↔ n.text = s := by
  rw [ofString?, ofDigits?_eq_some, ← String.toList_inj, text, String.toList_ofList]

theorem exists_ofString? : (∃ n, ofString? s = some n) ↔ Text.IsDecimal s := by
  constructor
  · intro h
    obtain ⟨n, hn⟩ := h
    rw [← ofString?_eq_some.mp hn]
    exact n.isDecimal_text
  · intro h
    obtain ⟨n, hn⟩ := h.exists_text
    exact ⟨n, ofString?_eq_some.mpr hn⟩

/-- The text is the decimal of the number that the digits denote. -/
theorem text_eq_repr (n : Numeral) : n.text = n.toNat.repr := by
  rw [← String.toList_inj, toList_repr, ofNat_toNat, text, String.toList_ofList]

theorem text_ofNat (k : Nat) : (ofNat k).text = k.repr := by
  rw [text_eq_repr, toNat_ofNat]

theorem text_inj : m.text = n.text ↔ m = n := by
  rw [← String.toList_inj, text, text, String.toList_ofList, String.toList_ofList, digits_inj]

theorem map_toNat_toUInt64?_eq_some :
    n.toUInt64?.map UInt64.toNat = some k ↔ n.toNat = k ∧ k < UInt64.size := by
  simp only [Option.map_eq_some_iff, toUInt64?_eq_some]
  constructor
  · intro h
    obtain ⟨w, rfl, rfl⟩ := h
    exact ⟨toNat_ofNat _, w.toNat_lt⟩
  · intro h
    obtain ⟨rfl, hlt⟩ := h
    have hword : (UInt64.ofNat n.toNat).toNat = n.toNat := UInt64.toNat_ofNat_of_lt' hlt
    exact ⟨.ofNat n.toNat, by rw [hword, ofNat_toNat], hword⟩

theorem exists_toUInt64? : (∃ w, n.toUInt64? = some w) ↔ n.toNat < UInt64.size := by
  constructor
  · intro h
    obtain ⟨w, hw⟩ := h
    have hmap : n.toUInt64?.map UInt64.toNat = some w.toNat := by rw [hw, Option.map_some]
    obtain ⟨hn, hlt⟩ := map_toNat_toUInt64?_eq_some.mp hmap
    exact hn ▸ hlt
  · intro h
    have hmap : n.toUInt64?.map UInt64.toNat = some n.toNat :=
      map_toNat_toUInt64?_eq_some.mpr ⟨rfl, h⟩
    obtain ⟨w, hw, -⟩ := Option.map_eq_some_iff.mp hmap
    exact ⟨w, hw⟩

example : ((ofString? "18446744073709551615").bind toUInt64?).isSome = true ∧
    (ofString? "18446744073709551616").bind toUInt64? = none := by decide

/-- Reading accepts the canonical decimals, which it keeps verbatim, and nothing else. Every
numeral, wherever it comes from, is the decimal of the number that it denotes, every number has one,
and equality is equality of the numbers. A numeral has a machine word exactly when its number is
below `2 ^ 64`, and the numeral of a word is the only one that has this word. -/
theorem exact_decimal :
    (∀ s, (∃ n, ofString? s = some n) ↔ Text.IsDecimal s) ∧
    (∀ s n, ofString? s = some n ↔ n.text = s) ∧
    (zero.text = "0" ∧ zero.toNat = 0) ∧
    (∀ n : Numeral, Text.IsDecimal n.text ∧ n.text = n.toNat.repr) ∧
    (∀ k, ∃ n : Numeral, n.toNat = k) ∧
    (∀ m n : Numeral, (m = n ↔ m.toNat = n.toNat) ∧ (m = n ↔ m.text = n.text)) ∧
    (∀ (n : Numeral) (k : Nat),
      n.toUInt64?.map UInt64.toNat = some k ↔ n.toNat = k ∧ k < UInt64.size) ∧
    ∀ w : UInt64, ofString? w.toNat.repr = some (ofNat w.toNat) ∧
      (ofNat w.toNat).toUInt64? = some w ∧
      ∀ n : Numeral, n.toUInt64? = some w ↔ n = ofNat w.toNat := by
  refine ⟨fun _ => exists_ofString?, fun _ _ => ofString?_eq_some, ⟨rfl, rfl⟩, ?_, ?_, ?_, ?_, ?_⟩
  · intro n
    exact ⟨n.isDecimal_text, n.text_eq_repr⟩
  · intro k
    exact ⟨ofNat k, toNat_ofNat k⟩
  · intro m n
    exact ⟨toNat_inj.symm, text_inj.symm⟩
  · intro n k
    exact map_toNat_toUInt64?_eq_some
  · intro w
    have hread : ofString? w.toNat.repr = some (ofNat w.toNat) :=
      ofString?_eq_some.mpr (text_ofNat w.toNat)
    exact ⟨hread, toUInt64?_eq_some.mpr rfl, fun n => toUInt64?_eq_some⟩

end Numeral

end BranchVersion
