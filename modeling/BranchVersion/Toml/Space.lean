/-!
What stands between the tokens of a TOML text: spaces, tabs, line ends and comments. A carriage
return counts only in front of a line feed.
-/
namespace BranchVersion.Toml

/-- A reader takes a value off the front of a text and returns it with what is left. -/
abbrev Reader (α : Type) := List Char → Option (α × List Char)

def isSpace (c : Char) : Bool := c == ' ' || c == '\t'

/-- Characters that may stand on a line: no control character but the tab. -/
def isPlain (c : Char) : Bool := c == '\t' || (0x20 ≤ c.toNat && c.toNat != 0x7F)

def skipSpaces (s : List Char) : List Char := s.dropWhile isSpace

def afterLineEnd? : List Char → Option (List Char)
  | '\n' :: s => some s
  | '\r' :: '\n' :: s => some s
  | _ => none

def skipLines : List Char → List Char
  | [] => []
  | '\r' :: '\n' :: s => skipLines s
  | c :: s => if isSpace c || c == '\n' then skipLines s else c :: s

/-- Skips spaces, line ends and comments, starting inside of a comment or outside of one. -/
def skipFillerFrom : Bool → List Char → List Char
  | _, [] => []
  | _, '\r' :: '\n' :: s => skipFillerFrom false s
  | inComment, c :: s =>
    if inComment && isPlain c then skipFillerFrom true s
    else if c == '#' then skipFillerFrom true s
    else if isSpace c || c == '\n' then skipFillerFrom false s
    else c :: s

def skipFiller : List Char → List Char := skipFillerFrom false

def skipComment : List Char → List Char
  | '#' :: s => s.dropWhile isPlain
  | s => s

/-- What follows the line end, if only spaces and a comment stand before it. The end of the text
ends a line too. -/
def endLine? (s : List Char) : Option (List Char) :=
  match skipComment (skipSpaces s) with
  | [] => some []
  | s => afterLineEnd? s

end BranchVersion.Toml
