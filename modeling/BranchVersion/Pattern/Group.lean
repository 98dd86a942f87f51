import BranchVersion.Pattern.Height
import BranchVersion.Pattern.Mode
import BranchVersion.Text.Alphanumeric

/-! Groups in parentheses, and flags, which are written like groups. -/
namespace BranchVersion.Pattern

/-- An open group: its mode, the heights of its closed branches and of the items of the open one,
and whether the last item can be repeated. -/
structure Group where
  mode : Mode
  branches : List Nat
  items : List Nat
  repeatable : Bool
  deriving DecidableEq

namespace Group

def empty (m : Mode) : Group := ⟨m, [], [], false⟩

def add (g : Group) (h : Nat) : Group := { g with items := h :: g.items, repeatable := true }

def addFlags (g : Group) (m : Mode) : Group := ⟨m, g.branches, 0 :: g.items, false⟩

def closeBranch (g : Group) : Group := ⟨g.mode, joinHeights g.items :: g.branches, [], false⟩

def repeat? (g : Group) : Option Group :=
  match g.repeatable, g.items with
  | true, h :: hs => some { g with items := (h + 1) :: hs }
  | _, _ => none

def height (g : Group) : Nat := joinHeights (joinHeights g.items :: g.branches)

inductive Opening where
  | group (name : Option (List Char)) (mode : Mode)
  | flags (mode : Mode)
  deriving DecidableEq

def isNameStart (c : Char) : Bool := c == '_' || Text.isAlphabetic c

def isNameChar (c : Char) : Bool :=
  c == '_' || c == '.' || c == '[' || c == ']' || Text.isAlphanumeric c

def readName (s : List Char) : Option (List Char × List Char) :=
  match s.span (· != '>') with
  | (c :: name, _ :: r) =>
    if isNameStart c && name.all isNameChar then some (c :: name, r) else none
  | _ => none

def readOpening (m : Mode) (s : List Char) : Option (Opening × List Char) :=
  match m.skip s with
  | '?' :: 'P' :: '<' :: r => (readName r).map fun (name, r) => (.group (some name) m, r)
  | '?' :: '<' :: r => (readName r).map fun (name, r) => (.group (some name) m, r)
  | '?' :: r =>
    match r.span fun c => c != ':' && c != ')' with
    | (flags, ':' :: r) => (m.withFlags? flags).map fun m => (.group none m, r)
    | ([], _) => none
    | (flags, ')' :: r) => (m.withFlags? flags).map fun m => (.flags m, r)
    | _ => none
  | r => some (.group none m, r)

end Group
end BranchVersion.Pattern
