/-! Heights of the parts of a pattern: how deep they are nested. -/
namespace BranchVersion.Pattern

def heightLimit : Nat := 250

/-- The height of parts side by side. A single part has its own height, and several add a level. -/
def joinHeights : List Nat → Nat
  | [] => 0
  | [h] => h
  | hs => hs.foldr max 0 + 1

end BranchVersion.Pattern
