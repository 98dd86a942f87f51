/-!
TOML values and tables. Each table remembers how it came about, which decides what may still be
added to it.
-/
namespace BranchVersion.Toml

/-- A table is named by a header, implied by a longer header or by a dotted key, or written in
braces. -/
inductive Origin where
  | header
  | implied
  | dotted
  | braces
  deriving DecidableEq

/-- Numbers and truth values are all `scalar`, and of a date or a time there is the text that shows
it. An array of tables that headers fill has its latest table apart from the earlier ones. -/
inductive Value where
  | text (s : String)
  | scalar
  | moment (shown : String)
  | array (items : List Value)
  | table (origin : Origin) (entries : List (String × Value))
  | tables (earlier : List (List (String × Value))) (latest : List (String × Value))

/-- Entries in the order in which their keys first came up. -/
abbrev Table := List (String × Value)

structure Key where
  parents : List String
  last : String

namespace Table

def set (key : String) (v : Value) : Table → Table
  | [] => [(key, v)]
  | e :: t => if e.1 = key then (key, v) :: t else e :: set key v t

/-- Changes what stands at one key; `f` sees the value or its absence and may refuse. -/
def alter (t : Table) (key : String) (f : Option Value → Option Value) : Option Table :=
  (f (t.lookup key)).map (t.set key ·)

/-- Adds a value under a dotted key. All tables on the way have to be implied, and the last of them
by dotted keys; what is there already is never replaced. -/
def put (last : String) (v : Value) : List String → Table → Option Table
  | [], t => t.alter last fun
    | none => some v
    | some _ => none
  | k :: ks, t => t.alter k fun
    | none => (put last v ks []).map (.table .dotted)
    | some (.table .dotted sub) => (put last v ks sub).map (.table .dotted)
    | some (.table .implied sub) =>
      if ks.isEmpty then none else (put last v ks sub).map (.table .implied)
    | some (.tables earlier latest) =>
      if ks.isEmpty then none else (put last v ks latest).map (.tables earlier)
    | some _ => none

/-- Changes the table at the end of a path of headers. Tables that are missing on the way are
implied, and an array of tables stands for its latest one. -/
def descend (f : Table → Option Table) : List String → Table → Option Table
  | [], t => f t
  | k :: ks, t => t.alter k fun
    | none => (descend f ks []).map (.table .implied)
    | some (.table .braces _) => none
    | some (.table origin sub) => (descend f ks sub).map (.table origin)
    | some (.tables earlier latest) => (descend f ks latest).map (.tables earlier)
    | some _ => none

/-- Names a table by a header, which is possible once and not for a table of dotted keys. -/
def define (key : String) (t : Table) : Option Table :=
  t.alter key fun
    | none => some (.table .header [])
    | some (.table .implied sub) => some (.table .header sub)
    | some _ => none

def extend (key : String) (t : Table) : Option Table :=
  t.alter key fun
    | none => some (.tables [] [])
    | some (.tables earlier latest) => some (.tables (earlier ++ [latest]) [])
    | some _ => none

def ofPairs? (pairs : List (Key × Value)) : Option Table :=
  pairs.foldlM (fun t p => put p.1.last p.2 p.1.parents t) []

end Table
end BranchVersion.Toml
