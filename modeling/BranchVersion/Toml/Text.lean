import BranchVersion.Text.Hex
import BranchVersion.Toml.Space

/-!
The four kinds of TOML strings: basic ones with escapes, literal ones without, and the forms of both
that run over several lines. In the long forms a line end is read as a line feed.
-/
namespace BranchVersion.Toml

def readEscape : Reader Char
  | 'b' :: s => some ('\x08', s)
  | 't' :: s => some ('\t', s)
  | 'n' :: s => some ('\n', s)
  | 'f' :: s => some ('\x0c', s)
  | 'r' :: s => some ('\r', s)
  | '"' :: s => some ('"', s)
  | '\\' :: s => some ('\\', s)
  | 'u' :: s => Text.readCodePoint 4 s
  | 'U' :: s => Text.readCodePoint 8 s
  | _ => none

theorem readEscape_length {s r : List Char} {c : Char} (h : readEscape s = some (c, r)) :
    r.length < s.length := by
  unfold readEscape at h
  split at h
  case h_8 s => exact Nat.lt_succ_of_le (Text.readCodePoint_length h)
  case h_9 s => exact Nat.lt_succ_of_le (Text.readCodePoint_length h)
  all_goals simp_all

def readBasic (s : List Char) : Option (List Char × List Char) :=
  match s with
  | [] => none
  | '"' :: s => some ([], s)
  | '\\' :: s =>
    match _h : readEscape s with
    | none => none
    | some (c, r) => (readBasic r).map fun (t, r) => (c :: t, r)
  | c :: s => if isPlain c then (readBasic s).map fun (t, r) => (c :: t, r) else none
termination_by s.length
decreasing_by
  · have := readEscape_length _h
    simp only [List.length_cons]
    omega
  · simp

theorem readBasic_backslash (s : List Char) :
    readBasic ('\\' :: s) =
      (readEscape s).bind fun (c, r) => (readBasic r).map fun (t, r) => (c :: t, r) := by
  rw [readBasic]
  split <;> rename_i h <;> simp [h]

def readLiteral : List Char → Option (List Char × List Char)
  | [] => none
  | '\'' :: s => some ([], s)
  | c :: s => if isPlain c then (readLiteral s).map fun (t, r) => (c :: t, r) else none

/-- After three closing quotes up to two more belong to the text before them. -/
def takeExtraQuotes (quote : Char) : List Char → List Char × List Char
  | a :: b :: s =>
    if a = quote then if b = quote then ([a, b], s) else ([a], b :: s) else ([], a :: b :: s)
  | [a] => if a = quote then ([a], []) else ([], [a])
  | [] => ([], [])

theorem skipLines_length (s : List Char) : (skipLines s).length ≤ s.length := by
  fun_induction skipLines s <;> simp_all <;> omega

/-- A backslash at the end of a line joins it with the next text, over blank lines. -/
def afterLineJoin? (s : List Char) : Option (List Char) :=
  (afterLineEnd? (skipSpaces s)).map skipLines

theorem afterLineJoin?_length {s r : List Char} (h : afterLineJoin? s = some r) :
    r.length ≤ s.length := by
  obtain ⟨t, ht, rfl⟩ := Option.map_eq_some_iff.1 h
  have h₁ : (skipSpaces s).length ≤ s.length := (List.dropWhile_sublist _).length_le
  have h₂ := skipLines_length t
  have h₃ : t.length ≤ (skipSpaces s).length := by
    unfold afterLineEnd? at ht
    split at ht
    · simp_all
    · simp_all
      omega
    · simp at ht
  omega

def readLongBasic (s : List Char) : Option (List Char × List Char) :=
  match s with
  | [] => none
  | '"' :: '"' :: '"' :: s => some (takeExtraQuotes '"' s)
  | '\\' :: s =>
    match _h : afterLineJoin? s with
    | some r => readLongBasic r
    | none =>
      match _h : readEscape s with
      | none => none
      | some (c, r) => (readLongBasic r).map fun (t, r) => (c :: t, r)
  | '\r' :: '\n' :: s => (readLongBasic s).map fun (t, r) => ('\n' :: t, r)
  | c :: s =>
    if isPlain c || c == '\n' then (readLongBasic s).map fun (t, r) => (c :: t, r) else none
termination_by s.length
decreasing_by
  · have := afterLineJoin?_length _h
    simp only [List.length_cons]
    omega
  · have := readEscape_length _h
    simp only [List.length_cons]
    omega
  · simp only [List.length_cons]
    omega
  · simp

def readLongLiteral : List Char → Option (List Char × List Char)
  | [] => none
  | '\'' :: '\'' :: '\'' :: s => some (takeExtraQuotes '\'' s)
  | '\r' :: '\n' :: s => (readLongLiteral s).map fun (t, r) => ('\n' :: t, r)
  | c :: s =>
    if isPlain c || c == '\n' then (readLongLiteral s).map fun (t, r) => (c :: t, r) else none

/-- A line end right after the opening quotes is no part of the text. -/
def skipFirstLineEnd (s : List Char) : List Char := (afterLineEnd? s).getD s

def readLineText : Reader String
  | '"' :: s => (readBasic s).map fun (t, r) => (String.ofList t, r)
  | '\'' :: s => (readLiteral s).map fun (t, r) => (String.ofList t, r)
  | _ => none

def readText : Reader String
  | '"' :: '"' :: '"' :: s =>
    (readLongBasic (skipFirstLineEnd s)).map fun (t, r) => (String.ofList t, r)
  | '\'' :: '\'' :: '\'' :: s =>
    (readLongLiteral (skipFirstLineEnd s)).map fun (t, r) => (String.ofList t, r)
  | s => readLineText s

end BranchVersion.Toml
