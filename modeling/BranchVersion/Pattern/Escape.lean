import BranchVersion.Pattern.Mode
import BranchVersion.Text.Hex

/-! Escapes of a pattern, which begin with a backslash. -/
namespace BranchVersion.Pattern

/-- What an escape stands for: one character, a set of them, or a place in the text. -/
inductive Escape where
  | char (c : Char)
  | set
  | place
  deriving DecidableEq

namespace Escape

def readCodePoint (m : Mode) (n : Nat) (s : List Char) : Option (Char × List Char) :=
  match m.take? n s with
  | none => none
  | some (digits, r) => (Text.readCodePoint n digits).map fun (c, _) => (c, r)

/-- The letter of a general category: other, letter, mark, number, punctuation, symbol or
separator. -/
def readCategory (m : Mode) (s : List Char) : Option (Escape × List Char) :=
  match m.take? 1 s with
  | some ([c], r) =>
    if m.unicode && "CLMNPSZclmnpsz".toList.contains c then some (.set, r) else none
  | _ => none

/-- The escape of a single character. The complements of sets go beyond ASCII, and so do the
boundaries of words in Unicode, which are not supported. -/
def ofChar? (m : Mode) (c : Char) : Option Escape :=
  match c with
  | 'a' => some (.char '\x07')
  | 'f' => some (.char '\x0c')
  | 't' => some (.char '\t')
  | 'n' => some (.char '\n')
  | 'r' => some (.char '\r')
  | 'v' => some (.char '\x0b')
  | c =>
    if "dsw".toList.contains c then some .set
    else if "DSW".toList.contains c then if m.unicode then some .set else none
    else if "bB<>".toList.contains c then if m.unicode then none else some .place
    else if "Az".toList.contains c then some .place
    else if c.isAlphanum || decide (0x80 ≤ c.toNat) then none
    else some (.char c)

def read (m : Mode) : List Char → Option (Escape × List Char)
  | [] => none
  | 'x' :: s =>
    match readCodePoint m 2 s with
    | none => none
    | some (c, r) => if m.admits c then some (.char c, r) else none
  | 'u' :: s => (readCodePoint m 4 s).map fun (c, r) => (.char c, r)
  | 'U' :: s => (readCodePoint m 8 s).map fun (c, r) => (.char c, r)
  | 'p' :: s => readCategory m s
  | 'P' :: s => readCategory m s
  | c :: s => (ofChar? m c).map fun e => (e, s)

end Escape
end BranchVersion.Pattern
