import BranchVersion.Toml.Reader

/-! TOML documents: the table that the statements of a text build one after the other. -/
namespace BranchVersion.Toml

/-- A document that is being built. New pairs go into the table at the end of `current`. -/
structure Draft where
  root : Table
  current : List String

def Draft.add (d : Draft) : Statement → Option Draft
  | .pair key v =>
    (Table.descend (Table.put key.last v key.parents) d.current d.root).map ({ d with root := · })
  | .table key =>
    (Table.descend (Table.define key.last) key.parents d.root).map (⟨·, key.parents ++ [key.last]⟩)
  | .item key =>
    (Table.descend (Table.extend key.last) key.parents d.root).map (⟨·, key.parents ++ [key.last]⟩)

def Table.ofStatements? (statements : List Statement) : Option Table :=
  (statements.foldlM Draft.add ⟨[], []⟩).map Draft.root

/-- A byte order mark may stand in front of a document. -/
def skipMark : List Char → List Char
  | '\ufeff' :: s => s
  | s => s

def Table.ofString? (text : String) : Option Table :=
  (readStatements (skipMark text.toList)).bind ofStatements?

end BranchVersion.Toml
