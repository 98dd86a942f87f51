import BranchVersion.Pattern.CharSet
import BranchVersion.Pattern.Group

/-!
Well-formed patterns. A pattern is a regular expression without counted repetitions and without
boundaries of Unicode words; what it matches plays no part here.
-/
namespace BranchVersion.Pattern

/-- Groups one inside the other, all of them open and the whole pattern the outermost, and the names
of the groups so far. -/
structure Progress where
  names : List (List Char)
  inner : Group
  outer : List Group

namespace Progress

def start : Progress := ⟨[], .empty .standard, []⟩

def mode (p : Progress) : Mode := p.inner.mode

def add (p : Progress) (h : Nat) : Progress := { p with inner := p.inner.add h }

def opening? (p : Progress) : Group.Opening → Option Progress
  | .flags m => some { p with inner := p.inner.addFlags m }
  | .group none m => some ⟨p.names, .empty m, p.inner :: p.outer⟩
  | .group (some name) m =>
    if p.names.contains name then none else some ⟨name :: p.names, .empty m, p.inner :: p.outer⟩

def close? (p : Progress) : Option Progress :=
  match p.outer with
  | [] => none
  | g :: gs => some ⟨p.names, g.add (p.inner.height + 1), gs⟩

def repeat? (p : Progress) : Option Progress :=
  p.inner.repeat?.map fun g => { p with inner := g }

def isComplete (p : Progress) : Bool := p.outer.isEmpty && p.inner.height ≤ heightLimit

/-- Reads a piece of a pattern that begins with `c`. A question mark right behind a repetition is a
part of it. -/
def step? (p : Progress) (c : Char) (s : List Char) : Option (Progress × List Char) :=
  match c with
  | '(' =>
    match Group.readOpening p.mode s with
    | none => none
    | some (opening, r) => (p.opening? opening).map fun p => (p, r)
  | ')' => p.close?.map fun p => (p, s)
  | '|' => some ({ p with inner := p.inner.closeBranch }, s)
  | '[' => (CharSet.read p.mode s).map fun (h, r) => (p.add h, r)
  | '\\' => (Escape.read p.mode s).map fun (_, r) => (p.add 0, r)
  | '.' => if p.mode.unicode then some (p.add 0, s) else none
  | '\x7b' => none
  | c =>
    if c = '*' ∨ c = '+' ∨ c = '?' then
      p.repeat?.map fun p => (p, if s.head? = some '?' then s.drop 1 else s)
    else some (p.add 0, s)

end Progress

def isWellFormedFrom (p : Progress) (s : List Char) : Bool :=
  match p.mode.skip s with
  | [] => p.isComplete
  | c :: r =>
    match p.step? c r with
    | none => false
    | some (p, t) => if t.length < s.length then isWellFormedFrom p t else false
termination_by s.length

def isWellFormed (s : List Char) : Bool := isWellFormedFrom .start s

end BranchVersion.Pattern
