/-!
Blank characters and trimming. Trimming leaves no blank at either end and keeps a text that has none
there.
-/
namespace BranchVersion.Text

/-- Membership in the Unicode property White_Space, which has 25 characters. -/
def isBlank (c : Char) : Bool :=
  let n := c.toNat
  (0x09 ≤ n && n ≤ 0x0D) || n == 0x20 || n == 0x85 || n == 0xA0 || n == 0x1680 ||
    (0x2000 ≤ n && n ≤ 0x200A) || n == 0x2028 || n == 0x2029 || n == 0x202F || n == 0x205F ||
    n == 0x3000

def trimStart (s : List Char) : List Char := s.dropWhile isBlank

def trimEnd (s : List Char) : List Char := (s.reverse.dropWhile isBlank).reverse

def trimChars (s : List Char) : List Char := trimEnd (trimStart s)

def trim (s : String) : String := String.ofList (trimChars s.toList)

/-- No visible ASCII character is blank. -/
theorem isBlank_eq_false {c : Char} (h : 0x21 ≤ c.toNat) (h' : c.toNat ≤ 0x7E) :
    isBlank c = false := by
  simp only [isBlank, Bool.or_eq_false_iff, Bool.and_eq_false_iff, decide_eq_false_iff_not,
    beq_eq_false_iff_ne]
  omega

theorem isBlank_of_isDigit {c : Char} (h : c.isDigit = true) : isBlank c = false := by
  have hb := Char.isDigit_iff_toNat.mp h
  have h0 : '0'.toNat = 48 := rfl
  have h9 : '9'.toNat = 57 := rfl
  exact isBlank_eq_false (by omega) (by omega)

theorem trimStart_cons_of_not_blank {c : Char} (h : isBlank c = false) (s : List Char) :
    trimStart (c :: s) = c :: s := by
  simp [trimStart, h]

theorem trimStart_trimStart (s : List Char) : trimStart (trimStart s) = trimStart s := by
  induction s with
  | nil => rfl
  | cons c s ih => by_cases h : isBlank c <;> simp_all [trimStart]

theorem trimEnd_trimEnd (s : List Char) : trimEnd (trimEnd s) = trimEnd s := by
  have h := trimStart_trimStart s.reverse
  simp only [trimStart] at h
  simp [trimEnd, h]

/-- A character that is not blank shields what stands before it from the right. -/
theorem trimEnd_cons_of_not_blank {c : Char} (h : isBlank c = false) (s : List Char) :
    trimEnd (c :: s) = c :: trimEnd s := by
  simp only [trimEnd, List.reverse_cons, List.dropWhile_append]
  cases hd : s.reverse.dropWhile isBlank with
  | nil => simp [h]
  | cons d r => simp

theorem trimChars_trimChars (s : List Char) : trimChars (trimChars s) = trimChars s := by
  induction s with
  | nil => rfl
  | cons c s ih =>
    cases h : isBlank c with
    | true => simpa [trimChars, trimStart, h] using ih
    | false =>
      simp only [trimChars, trimStart_cons_of_not_blank h, trimEnd_cons_of_not_blank h,
        trimEnd_trimEnd]

@[simp] theorem trim_trim (s : String) : trim (trim s) = trim s := by
  simp [trim, trimChars_trimChars]

end BranchVersion.Text
