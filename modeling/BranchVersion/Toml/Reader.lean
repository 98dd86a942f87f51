import BranchVersion.Toml.Moment
import BranchVersion.Toml.Number
import BranchVersion.Toml.Value

/-!
Readers for TOML keys, values and statements. Arrays and inline tables may be nested 79 deep, and a
dotted key may have 79 parts.
-/
namespace BranchVersion.Toml

def depthLimit : Nat := 79

def isBareKeyChar (c : Char) : Bool := c.isAlphanum || c == '-' || c == '_'

def readKeyPart (s : List Char) : Option (String × List Char) :=
  match readLineText s with
  | some found => some found
  | none =>
    match s.takeWhile isBareKeyChar with
    | [] => none
    | name => some (String.ofList name, s.dropWhile isBareKeyChar)

/-- A dotted key of at most `limit` parts, with the spaces around it. -/
def readKey (limit : Nat) (s : List Char) : Option (Key × List Char) :=
  match limit with
  | 0 => none
  | limit + 1 =>
    match readKeyPart (skipSpaces s) with
    | none => none
    | some (part, s) =>
      match skipSpaces s with
      | '.' :: s =>
        (readKey limit s).map fun (key, s) => ({ key with parents := part :: key.parents }, s)
      | s => some (⟨[], part⟩, s)

/-- The items of an array after its opening bracket. A comma may follow the last one. -/
def readItems (item : Reader Value) (s : List Char) : Option (List Value × List Char) :=
  match skipFiller s with
  | ']' :: r => some ([], r)
  | t =>
    match item t with
    | none => none
    | some (v, r) =>
      match skipFiller r with
      | ']' :: r => some ([v], r)
      | ',' :: r =>
        if r.length < s.length then (readItems item r).map fun (vs, r) => (v :: vs, r) else none
      | _ => none
termination_by s.length

def readPair (item : Reader Value) (s : List Char) : Option ((Key × Value) × List Char) :=
  match readKey depthLimit s with
  | some (key, '=' :: s) => (item (skipSpaces s)).map fun (v, s) => ((key, v), skipSpaces s)
  | _ => none

def readPairs (item : Reader Value) (s : List Char) : Option (List (Key × Value) × List Char) :=
  match readPair item s with
  | some (pair, '\x7d' :: r) => some ([pair], r)
  | some (pair, ',' :: r) =>
    if r.length < s.length then (readPairs item r).map fun (ps, r) => (pair :: ps, r) else none
  | _ => none
termination_by s.length

def readBraces (item : Reader Value) (s : List Char) : Option (Value × List Char) :=
  match skipSpaces s with
  | '\x7d' :: r => some (.table .braces [], r)
  | _ =>
    match readPairs item s with
    | none => none
    | some (pairs, r) => (Table.ofPairs? pairs).map fun t => (.table .braces t, r)

def readQuantity (s : List Char) : Option (Value × List Char) :=
  match MomentLead.ofChars s with
  | .date year r => (afterYear? year r).map fun rest => (.moment (momentText s rest), rest)
  | .time r => (afterHourRest? r).map fun rest => (.moment (momentText s rest), rest)
  | .neither => (skipNumber? s).map (.scalar, ·)

/-- A value with arrays and inline tables nested at most `depth` deep. -/
def readValue (depth : Nat) (s : List Char) : Option (Value × List Char) :=
  match s with
  | '[' :: s =>
    match depth with
    | 0 => none
    | depth + 1 => (readItems (readValue depth) s).map fun (vs, r) => (.array vs, r)
  | '\x7b' :: s =>
    match depth with
    | 0 => none
    | depth + 1 => readBraces (readValue depth) s
  | '"' :: _ => (readText s).map fun (t, r) => (.text t, r)
  | '\'' :: _ => (readText s).map fun (t, r) => (.text t, r)
  | 't' :: 'r' :: 'u' :: 'e' :: r => some (.scalar, r)
  | 'f' :: 'a' :: 'l' :: 's' :: 'e' :: r => some (.scalar, r)
  | _ => readQuantity s

inductive Statement where
  | pair (key : Key) (v : Value)
  | table (key : Key)
  | item (key : Key)

def readStatement (s : List Char) : Option (Statement × List Char) :=
  match s with
  | '[' :: '[' :: s =>
    match readKey depthLimit s with
    | some (key, ']' :: ']' :: r) => (endLine? r).map (.item key, ·)
    | _ => none
  | '[' :: s =>
    match readKey depthLimit s with
    | some (key, ']' :: r) => (endLine? r).map (.table key, ·)
    | _ => none
  | s =>
    match readPair (readValue depthLimit) s with
    | some ((key, v), r) => (endLine? r).map (.pair key v, ·)
    | none => none

def readStatements (s : List Char) : Option (List Statement) :=
  match skipFiller s with
  | [] => some []
  | t =>
    match readStatement t with
    | none => none
    | some (statement, r) =>
      if r.length < s.length then (readStatements r).map (statement :: ·) else none
termination_by s.length

end BranchVersion.Toml
