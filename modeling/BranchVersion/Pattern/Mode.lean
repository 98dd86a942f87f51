import BranchVersion.Text.Blank

/-! The flags of a pattern that decide how it is read. -/
namespace BranchVersion.Pattern

/-- In a spaced pattern filler may stand between the items. A pattern that is not about Unicode is
about bytes, and all that it matches has to be ASCII. -/
structure Mode where
  spaced : Bool
  unicode : Bool
  deriving DecidableEq

/-- Drops blanks and comments. A comment runs from a number sign to the end of its line. -/
def dropFiller (inComment : Bool) : List Char → List Char
  | [] => []
  | c :: s =>
    if inComment then dropFiller (c != '\n') s
    else if c == '#' then dropFiller true s
    else if Text.isBlank c then dropFiller false s
    else c :: s

namespace Mode

def standard : Mode := ⟨false, true⟩

def skip (m : Mode) (s : List Char) : List Char := if m.spaced then dropFiller false s else s

/-- The next `n` characters, before each of which filler may stand. -/
def take? (m : Mode) : Nat → List Char → Option (List Char × List Char)
  | 0, s => some ([], s)
  | n + 1, s =>
    match m.skip s with
    | [] => none
    | c :: r => (m.take? n r).map fun (cs, r) => (c :: cs, r)

/-- The next character. Here only the number sign of a comment is filler, and not what follows. -/
def peek? (m : Mode) (s : List Char) : Option Char :=
  if m.spaced then
    match s.dropWhile Text.isBlank with
    | '#' :: r => (r.dropWhile Text.isBlank).head?
    | r => r.head?
  else s.head?

def admits (m : Mode) (c : Char) : Bool := m.unicode || decide (c.toNat < 0x80)

/-- Different flags, of which those after a hyphen are switched off. -/
def isFlags (flags : List Char) : Bool :=
  flags.all "imsUuxR-".toList.contains && decide flags.Nodup && flags.getLast? != some '-'

/-- What becomes of a flag: on before the hyphen, off behind it, and otherwise as it was. -/
def switch (flags : List Char) (flag : Char) (before : Bool) : Bool :=
  if flags.contains flag then (flags.takeWhile (· != '-')).contains flag else before

def withFlags? (m : Mode) (flags : List Char) : Option Mode :=
  if isFlags flags then some ⟨switch flags 'x' m.spaced, switch flags 'u' m.unicode⟩ else none

end Mode

end BranchVersion.Pattern
