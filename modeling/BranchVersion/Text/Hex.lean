/-! Hexadecimal digits, and the characters whose code points they give. -/
namespace BranchVersion.Text

def hexDigit? (c : Char) : Option Nat :=
  if c.isDigit then some (c.toNat - '0'.toNat)
  else if 'a' ≤ c ∧ c ≤ 'f' then some (c.toNat - 'a'.toNat + 10)
  else if 'A' ≤ c ∧ c ≤ 'F' then some (c.toNat - 'A'.toNat + 10)
  else none

def readHex : Nat → Nat → List Char → Option (Nat × List Char)
  | 0, v, s => some (v, s)
  | _ + 1, _, [] => none
  | n + 1, v, c :: s =>
    match hexDigit? c with
    | none => none
    | some d => readHex n (16 * v + d) s

def readCodePoint (n : Nat) (s : List Char) : Option (Char × List Char) :=
  match readHex n 0 s with
  | none => none
  | some (v, s) => if v.isValidChar then some (Char.ofNat v, s) else none

theorem readHex_length {n v w : Nat} {s r : List Char} (h : readHex n v s = some (w, r)) :
    r.length ≤ s.length := by
  fun_induction readHex n v s with
  | case1 v s => simp_all
  | case2 => simp at h
  | case3 n v c s hd => simp at h
  | case4 n v c s d hd ih =>
    have := ih h
    simp only [List.length_cons]
    omega

theorem readCodePoint_length {n : Nat} {s r : List Char} {c : Char}
    (h : readCodePoint n s = some (c, r)) : r.length ≤ s.length := by
  unfold readCodePoint at h
  split at h
  · simp at h
  · rename_i v t hv
    split at h
    · simp only [Option.some.injEq, Prod.mk.injEq] at h
      exact h.2 ▸ readHex_length hv
    · simp at h

end BranchVersion.Text
