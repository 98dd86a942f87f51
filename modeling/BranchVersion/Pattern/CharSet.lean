import BranchVersion.Pattern.Escape
import BranchVersion.Pattern.Height

/-! Sets of characters in brackets: characters, ranges, named classes, nested sets, and operators
between them. -/
namespace BranchVersion.Pattern

/-- An open set: the height of what stands before the last operator, if there is one, and the
heights of the items after it. -/
structure CharSet where
  left : Option Nat
  items : List Nat
  deriving DecidableEq

namespace CharSet

def add (set : CharSet) (h : Nat) : CharSet := { set with items := h :: set.items }

def height (set : CharSet) : Nat :=
  match set.left with
  | none => joinHeights set.items
  | some l => max l (joinHeights set.items) + 1

def operate (set : CharSet) : CharSet := ⟨some set.height, []⟩

/-- Hyphens at the start of a set are items of it. -/
def readHyphens (m : Mode) (set : CharSet) (s : List Char) : CharSet × List Char :=
  match m.skip s with
  | '-' :: r => if r.length < s.length then readHyphens m (set.add 0) r else (set, r)
  | r => (set, r)
termination_by s.length

/-- The items at the start of a set, of which a closing bracket can be the first. -/
def readFirst (m : Mode) (s : List Char) : CharSet × List Char :=
  match readHyphens m ⟨none, []⟩ s with
  | (⟨none, []⟩, ']' :: r) => (⟨none, [0]⟩, r)
  | start => start

def readStart (m : Mode) (s : List Char) : Option (CharSet × List Char) :=
  match m.skip s with
  | '^' :: r => if m.unicode then some (readFirst m r) else none
  | r => some (readFirst m r)

def readItem (m : Mode) : List Char → Option (Option Char × List Char)
  | [] => none
  | '\\' :: s =>
    match Escape.read m s with
    | some (.char c, r) => if m.admits c then some (some c, r) else none
    | some (.set, r) => some (none, r)
    | some (.place, _) => none
    | none => none
  | c :: s => if m.admits c then some (some c, s) else none

/-- What follows an item or a range, whose bounds have to ascend. A hyphen before another one or
before the closing bracket makes no range. -/
def skipRange? (m : Mode) (s : List Char) : Option (List Char) :=
  match readItem m s with
  | none => none
  | some (low, r) =>
    match m.skip r with
    | '-' :: t =>
      if m.peek? t = some '-' ∨ m.peek? t = some ']' then some ('-' :: t)
      else
        match low, readItem m (m.skip t) with
        | some low, some (some high, r) => if low ≤ high then some r else none
        | _, _ => none
    | r => some r

def classNames : List String :=
  ["alnum", "alpha", "ascii", "blank", "cntrl", "digit", "graph", "lower", "print", "punct",
    "space", "upper", "word", "xdigit"]

def readClass : List Char → Option (Bool × List Char)
  | ':' :: s =>
    let (negated, s) := match s with
      | '^' :: s => (true, s)
      | s => (false, s)
    match s.span (· != ':') with
    | (name, ':' :: ']' :: r) =>
      if classNames.contains (String.ofList name) then some (negated, r) else none
    | _ => none
  | _ => none

structure Nest where
  inner : CharSet
  outer : List CharSet
  deriving DecidableEq

def step? (m : Mode) (n : Nest) : List Char → Option (Nest × List Char)
  | '[' :: s =>
    match readClass s with
    | some (negated, r) =>
      if negated && !m.unicode then none else some ({ n with inner := n.inner.add 0 }, r)
    | none => (readStart m s).map fun (set, r) => (⟨set, n.inner :: n.outer⟩, r)
  | ']' :: s =>
    match n.outer with
    | [] => none
    | set :: sets => some (⟨set.add (n.inner.height + 1), sets⟩, s)
  | '&' :: '&' :: s => some ({ n with inner := n.inner.operate }, s)
  | '-' :: '-' :: s => some ({ n with inner := n.inner.operate }, s)
  | '~' :: '~' :: s => some ({ n with inner := n.inner.operate }, s)
  | s => (skipRange? m s).map fun r => ({ n with inner := n.inner.add 0 }, r)

def readRest (m : Mode) (n : Nest) (s : List Char) : Option (Nat × List Char) :=
  match m.skip s, n.outer with
  | ']' :: r, [] => some (n.inner.height + 1, r)
  | r, _ =>
    match step? m n r with
    | none => none
    | some (n, t) => if t.length < s.length then readRest m n t else none
termination_by s.length

def read (m : Mode) (s : List Char) : Option (Nat × List Char) :=
  match readStart m s with
  | none => none
  | some (set, r) => readRest m ⟨set, []⟩ r

end CharSet
end BranchVersion.Pattern
