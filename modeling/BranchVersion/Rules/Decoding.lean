import BranchVersion.Rules
import BranchVersion.Toml.Document

/-!
Rules as TOML documents have them, under the keys `prefixes`, `prerelease_names` and `output_key`. A
key that is absent leaves the built-in value, and any other key is ignored.
-/
namespace BranchVersion

namespace Toml

def Value.toText? : Value → Option String
  | .text s => some s
  | _ => none

def Value.toTexts? : Value → Option (List String)
  | .array items => items.mapM Value.toText?
  | _ => none

/-- The key by which a date or a time passes for a table. -/
def momentKey : String := "$__toml_private_datetime"

def Value.toNames? : Value → Option NameTable
  | .table _ entries =>
    (entries.mapM fun (e : String × Value) => e.2.toText?.map (e.1, ·)).map NameTable.ofList
  | .moment shown => some (.ofList [(momentKey, shown)])
  | _ => none

/-- The value at a key as `read` has it, or `fallback` where the key is absent. -/
def Table.field? {α : Type} (t : Table) (key : String) (fallback : α) (read : Value → Option α) :
    Option α :=
  match t.lookup key with
  | none => some fallback
  | some v => read v

end Toml

namespace Rules

def ofTable? (t : Toml.Table) : Option Rules := do
  let prefixes ← t.field? "prefixes" standard.prefixes Toml.Value.toTexts?
  let names ← t.field? "prerelease_names" standard.names Toml.Value.toNames?
  let outputKey ← t.field? "output_key" standard.outputKey Toml.Value.toText?
  some ⟨prefixes, names, outputKey⟩

def ofToml? (text : String) : Option Rules := (Toml.Table.ofString? text).bind ofTable?

end Rules
end BranchVersion
