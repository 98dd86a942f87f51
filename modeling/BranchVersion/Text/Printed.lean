/-!
What a terminal prints of a text: all but control characters and control sequences, which begin with
an escape.
-/
namespace BranchVersion.Text

/-- Plain text, or the part of a control sequence that is being read. -/
inductive Sequence where
  | plain
  | escape
  | designation
  | control
  | command
  | string
  | device
  | deviceParameter
  | deviceIntermediate
  deriving DecidableEq

/-- Whether a control character moves the place of printing and nothing else. -/
def isLayout (c : Char) : Bool := c == '\t' || c == '\n' || c == '\x0c' || c == '\r'

def isPrinted (c : Char) : Bool := isLayout c || decide (' ' ≤ c) && c != '\x7f'

namespace Sequence

def isIntermediate (c : Char) : Bool := decide (' ' ≤ c) && decide (c ≤ '/')

def isParameter (c : Char) : Bool := decide ('0' ≤ c) && decide (c ≤ '?')

def isFinal (c : Char) : Bool := decide ('@' ≤ c) && decide (c ≤ '~')

/-- Whether the byte that terminates strings occurs in the encoding of a character. -/
def isTerminator (c : Char) : Bool := (String.utf8EncodeChar c).contains 0x9C

/-- What follows an escape and `c`. With most characters of ASCII an escape is a whole sequence, and
a character that cannot stand there is passed over. -/
def afterEscape (c : Char) : Sequence :=
  if isIntermediate c then .designation
  else if c = '[' then .control
  else if c = ']' then .command
  else if c = 'P' then .device
  else if c = 'X' ∨ c = '^' ∨ c = '_' then .string
  else if isParameter c || isFinal c then .plain
  else .escape

/-- The part behind `c`. An escape begins a sequence anew, and the characters 18 and 1A cancel the
sequence. -/
def next (q : Sequence) (c : Char) : Sequence :=
  if c = '\x1b' then .escape
  else if c = '\x18' ∨ c = '\x1a' then .plain
  else
    match q with
    | .plain => .plain
    | .escape => if isLayout c then .plain else afterEscape c
    | .designation => if isLayout c || isParameter c || isFinal c then .plain else .designation
    | .control => if isLayout c || isFinal c then .plain else .control
    | .command => if c = '\x07' then .plain else .command
    | .string => if isTerminator c then .plain else .string
    | .device =>
      if isFinal c then .string
      else if isIntermediate c then .deviceIntermediate
      else if isParameter c then .deviceParameter
      else .device
    | .deviceParameter =>
      if isFinal c || decide ('<' ≤ c) && isParameter c then .string
      else if isIntermediate c then .deviceIntermediate
      else .deviceParameter
    | .deviceIntermediate => if isFinal c || isParameter c then .string else .deviceIntermediate

/-- Whether `c` is printed. Layout breaks off some sequences. -/
def prints (q : Sequence) (c : Char) : Bool :=
  match q with
  | .plain => isPrinted c
  | .escape => isLayout c
  | .designation => isLayout c
  | .control => isLayout c
  | _ => false

end Sequence

def printedFrom (q : Sequence) : List Char → List Char
  | [] => []
  | c :: s => if q.prints c then c :: printedFrom (q.next c) s else printedFrom (q.next c) s

def printed (s : String) : String := String.ofList (printedFrom .plain s.toList)

end BranchVersion.Text
