import BranchVersion.Toml.Text

/-!
TOML numbers. Their form and range are checked and their value is dropped: an integer has to fit in
64 bits with a sign, and a positive number with a fraction or an exponent must not round to infinity
as a double.
-/
namespace BranchVersion.Toml

/-- The digits in front, with single underscores between them left out. -/
def digitRun (isDigit : Char → Bool) : List Char → List Char × List Char
  | [] => ([], [])
  | [c] => if isDigit c then ([c], []) else ([], [c])
  | '_' :: c :: s =>
    if isDigit c then ((digitRun isDigit s).map (c :: ·) id) else ([], '_' :: c :: s)
  | c :: s => if isDigit c then ((digitRun isDigit s).map (c :: ·) id) else ([], c :: s)

/-- One or more digits, the first of them without an underscore before it. -/
def readDigits (isDigit : Char → Bool) : Reader (List Char)
  | c :: s => if isDigit c then some (digitRun isDigit (c :: s)) else none
  | [] => none

/-- A sign in front; `true` is minus. -/
def readSign : List Char → Bool × List Char
  | '-' :: s => (true, s)
  | '+' :: s => (false, s)
  | s => (false, s)

def readWhole : Reader (List Char)
  | '0' :: s => some (['0'], s)
  | s => readDigits Char.isDigit s

def readFraction? : List Char → Option (Option (List Char) × List Char)
  | '.' :: s => (readDigits Char.isDigit s).map fun (ds, r) => (some ds, r)
  | s => some (none, s)

def readExponent? : List Char → Option (Option Int × List Char)
  | c :: s =>
    if c = 'e' ∨ c = 'E' then
      let (negative, s) := readSign s
      (readDigits Char.isDigit s).map fun (ds, r) =>
        let n : Int := Nat.ofDigitChars 10 ds 0
        (some (if negative then -n else n), r)
    else some (none, c :: s)
  | [] => some (none, [])

/-- The least number that rounds to infinity as a double. -/
def doubleLimit : Nat := Nat.pow 2 1024 - Nat.pow 2 970

/-- Whether `n * 10 ^ e` is below the limit. Powers with more than a few hundred digits are settled
by the count of digits. -/
def isFiniteDouble (n : Nat) (e : Int) : Bool :=
  let width : Int := (Nat.toDigits 10 n).length + e
  n == 0 || width ≤ 308 || (width ≤ 309 &&
    (if e < 0 then n < doubleLimit * Nat.pow 10 e.natAbs
      else n * Nat.pow 10 e.natAbs < doubleLimit))

def isInt64 (negative : Bool) (n : Nat) : Bool :=
  n < Nat.pow 2 63 || (negative && n == Nat.pow 2 63)

def digitBelow (base : Nat) (c : Char) : Bool := (Text.hexDigit? c).any (· < base)

def skipBased? (base : Nat) (s : List Char) : Option (List Char) :=
  match readDigits (digitBelow base) s with
  | none => none
  | some (ds, r) =>
    let n := ds.foldl (fun n c => base * n + (Text.hexDigit? c).getD 0) 0
    if isInt64 false n then some r else none

/-- Whether a number in base ten is in range. Without a fraction and an exponent it is an
integer. -/
def isInRange (negative : Bool) (whole : List Char) (fraction : Option (List Char))
    (exponent : Option Int) : Bool :=
  let n := Nat.ofDigitChars 10 (whole ++ fraction.getD []) 0
  let e := exponent.getD 0 - (fraction.getD []).length
  if fraction.isNone && exponent.isNone then isInt64 negative n
  else negative || isFiniteDouble n e

def skipDecimal? (s : List Char) : Option (List Char) :=
  match readSign s with
  | (_, 'i' :: 'n' :: 'f' :: s) => some s
  | (_, 'n' :: 'a' :: 'n' :: s) => some s
  | (negative, s) => do
    let (whole, s) ← readWhole s
    let (fraction, s) ← readFraction? s
    let (exponent, s) ← readExponent? s
    if isInRange negative whole fraction exponent then some s else none

def skipNumber? : List Char → Option (List Char)
  | '0' :: 'x' :: s => skipBased? 16 s
  | '0' :: 'o' :: s => skipBased? 8 s
  | '0' :: 'b' :: s => skipBased? 2 s
  | s => skipDecimal? s

end BranchVersion.Toml
