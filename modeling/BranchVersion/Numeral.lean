/-!
Decimal numerals of any length, held as their digits. A numeral has no needless leading zero, so two
numerals are equal exactly when they denote the same number.
-/
namespace BranchVersion

/-- `0` alone, or digits that do not start with `0`. -/
def isCanonical : List Char → Bool
  | [] => false
  | c :: rest => c.isDigit && rest.all Char.isDigit && (c != '0' || rest.isEmpty)

structure Numeral where
  digits : List Char
  canonical : isCanonical digits = true
  deriving DecidableEq

private theorem isCanonical_toDigits (n : Nat) : isCanonical (Nat.toDigits 10 n) = true := by
  have lead : ∀ n, 0 < n → ∃ c rest, Nat.toDigits 10 n = c :: rest ∧ c ≠ '0' := by
    intro n
    induction n using Nat.strongRecOn with
    | ind n ih =>
      intro hn
      by_cases h : n < 10
      · refine ⟨n.digitChar, [], Nat.toDigits_of_lt_base h, ?_⟩
        match n, hn, h with
        | 1, _, _ | 2, _, _ | 3, _, _ | 4, _, _ | 5, _, _ | 6, _, _ | 7, _, _ | 8, _, _
        | 9, _, _ => decide
      · obtain ⟨c, rest, hc, h0⟩ := ih (n / 10) (by omega) (by omega)
        exact ⟨c, rest ++ [(n % 10).digitChar],
          by rw [Nat.toDigits_of_base_le (by decide) (by omega), hc]; rfl, h0⟩
  rcases Nat.eq_zero_or_pos n with rfl | hn
  · rfl
  · obtain ⟨c, rest, hc, h0⟩ := lead n hn
    have hd : ∀ d ∈ Nat.toDigits 10 n, d.isDigit :=
      fun _ h => Nat.isDigit_of_mem_toDigits (by decide) (by decide) h
    rw [hc] at hd ⊢
    have hr : rest.all Char.isDigit = true := List.all_eq_true.2 fun d h => hd d (by simp [h])
    simp [isCanonical, hd c (by simp), hr, h0]

private theorem digitChar_toNat_sub {c : Char} (h : c.isDigit = true) :
    c.toNat - '0'.toNat < 10 ∧ (c.toNat - '0'.toNat).digitChar = c := by
  have hb : 48 ≤ c.toNat ∧ c.toNat ≤ 57 := by
    simp only [Char.isDigit, Bool.and_eq_true, decide_eq_true_eq] at h
    exact ⟨h.1, h.2⟩
  rw [← Char.ofNat_toNat c]
  generalize c.toNat = n at hb
  have hn : n = 48 ∨ n = 49 ∨ n = 50 ∨ n = 51 ∨ n = 52 ∨ n = 53 ∨ n = 54 ∨ n = 55 ∨ n = 56 ∨
      n = 57 := by
    omega
  rcases hn with rfl | rfl | rfl | rfl | rfl | rfl | rfl | rfl | rfl | rfl <;> decide

private theorem toDigits_ofDigitChars {cs : List Char} (h : ∀ c ∈ cs, c.isDigit = true)
    {acc : Nat} (hacc : 0 < acc) :
    Nat.toDigits 10 (Nat.ofDigitChars 10 cs acc) = Nat.toDigits 10 acc ++ cs := by
  induction cs generalizing acc with
  | nil => simp [Nat.ofDigitChars_nil]
  | cons c cs ih =>
    obtain ⟨hlt, hc⟩ := digitChar_toNat_sub (h c (by simp))
    rw [Nat.ofDigitChars_cons, ih (fun d hd => h d (by simp [hd])) (by omega),
      ← Nat.toDigits_append_toDigits (by decide) hacc hlt, Nat.toDigits_of_lt_base hlt, hc]
    simp

/-- A run of characters that pass a test ends where the next character fails it. -/
theorem Text.run_append {p : Char → Bool} {s t : List Char} (hs : ∀ c ∈ s, p c = true)
    (ht : ∀ c ∈ t.head?, p c = false) : (s ++ t).takeWhile p = s ∧ (s ++ t).dropWhile p = t := by
  rw [List.takeWhile_append_of_pos hs, List.dropWhile_append_of_pos hs]
  cases t with
  | nil => simp
  | cons c t => simp [ht c rfl]

namespace Numeral

def ofDigits? (digits : List Char) : Option Numeral :=
  if h : isCanonical digits = true then some ⟨digits, h⟩ else none

def ofString? (s : String) : Option Numeral := ofDigits? s.toList

def ofNat (n : Nat) : Numeral := ⟨Nat.toDigits 10 n, isCanonical_toDigits n⟩

def zero : Numeral := ⟨['0'], rfl⟩

instance : Inhabited Numeral := ⟨zero⟩

def text (n : Numeral) : String := String.ofList n.digits

def toNat (n : Numeral) : Nat := Nat.ofDigitChars 10 n.digits 0

def toUInt64? (n : Numeral) : Option UInt64 :=
  if n.toNat < UInt64.size then some (UInt64.ofNat n.toNat) else none

/-- Reads the longest run of digits in front, which has to be a numeral. -/
def read (s : List Char) : Option (Numeral × List Char) :=
  (ofDigits? (s.takeWhile Char.isDigit)).map (·, s.dropWhile Char.isDigit)

theorem ofDigits?_eq_some {ds : List Char} {n : Numeral} :
    ofDigits? ds = some n ↔ n.digits = ds := by
  constructor
  · intro h
    simp only [ofDigits?, Option.dite_none_right_eq_some, Option.some.injEq] at h
    obtain ⟨_, rfl⟩ := h
    rfl
  · rintro rfl
    simp [ofDigits?, n.canonical]

theorem ofDigits?_digits (n : Numeral) : ofDigits? n.digits = some n :=
  ofDigits?_eq_some.2 rfl

@[simp] theorem toNat_ofNat (n : Nat) : (ofNat n).toNat = n :=
  Nat.ofDigitChars_ten_toDigits

/-- The digits are those that the number is written with. -/
theorem ofNat_toNat (n : Numeral) : ofNat n.toNat = n := by
  obtain ⟨ds, h⟩ := n
  cases ds with
  | nil => simp [isCanonical] at h
  | cons c rest =>
    simp only [isCanonical, Bool.and_eq_true, List.all_eq_true, Bool.or_eq_true, bne_iff_ne,
      List.isEmpty_iff] at h
    obtain ⟨⟨hc, hr⟩, hz⟩ := h
    simp only [ofNat, toNat, mk.injEq]
    obtain ⟨hlt, hd⟩ := digitChar_toNat_sub hc
    rcases hz with h0 | rfl
    · have hpos : 0 < c.toNat - '0'.toNat := by
        refine Nat.pos_of_ne_zero fun hzero => h0 ?_
        rw [← hd, hzero]
        rfl
      rw [Nat.ofDigitChars_cons, Nat.mul_zero, Nat.zero_add, toDigits_ofDigitChars hr hpos,
        Nat.toDigits_of_lt_base hlt, hd]
      rfl
    · rw [Nat.ofDigitChars_cons, Nat.ofDigitChars_nil, Nat.mul_zero, Nat.zero_add,
        Nat.toDigits_of_lt_base hlt, hd]

theorem toNat_inj {m n : Numeral} : m.toNat = n.toNat ↔ m = n :=
  ⟨fun h => by rw [← ofNat_toNat m, h, ofNat_toNat], fun h => h ▸ rfl⟩

theorem isDigit_of_mem_digits (n : Numeral) : ∀ c ∈ n.digits, c.isDigit = true := by
  obtain ⟨ds, h⟩ := n
  cases ds with
  | nil => simp [isCanonical] at h
  | cons c rest =>
    simp only [isCanonical, Bool.and_eq_true, List.all_eq_true] at h
    simpa using h.1

/-- A numeral is read back whole from in front of a text that does not go on with a digit. -/
theorem read_append (n : Numeral) {rest : List Char}
    (h : ∀ c ∈ rest.head?, c.isDigit = false) : read (n.digits ++ rest) = some (n, rest) := by
  obtain ⟨htake, hdrop⟩ := Text.run_append n.isDigit_of_mem_digits h
  simp [read, htake, hdrop, ofDigits?_digits]

end Numeral
end BranchVersion
