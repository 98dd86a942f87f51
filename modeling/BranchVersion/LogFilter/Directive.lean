import BranchVersion.Event
import BranchVersion.Level
import BranchVersion.Pattern
import BranchVersion.Text.Blank
import BranchVersion.Text.Cut

/-!
Directives of a log filter, written `TARGET[SPAN{FIELD=VALUE}]=LEVEL` with each part optional. Those
that name a span or a value of a field are about spans and cover no event.
-/
namespace BranchVersion

/-- Covers the events of a target, and of these, if a field is named, those that have it. An empty
target stands for every target. -/
structure Directive where
  target : List Char
  field : Option String
  level : Level
  deriving DecidableEq

structure Brackets where
  span : List Char
  field : Option (List Char)
  deriving DecidableEq

inductive Selector where
  | field (name : String)
  | spans
  deriving DecidableEq

namespace Brackets

def read (s : List Char) : Option (Brackets × List Char) :=
  match s.span fun c => c != '\x7b' && c != ']' with
  | (span, ']' :: r) => some (⟨span, none⟩, r)
  | (span, '\x7b' :: r) =>
    match r.span (· != '\x7d') with
    | (c :: field, '\x7d' :: ']' :: r) => some (⟨span, some (c :: field)⟩, r)
    | _ => none
  | _ => none

/-- The brackets of `whole` at the byte offsets that `b` has when it opens at `start`. -/
def transfer (b : Brackets) (start : Nat) (whole : List Char) : Brackets :=
  let span := Text.byteCount b.span
  ⟨Text.sliceBytes (start + 1) span whole,
    b.field.map fun f => Text.sliceBytes (start + span + 2) (Text.byteCount f) whole⟩

def isUnsignedNumber (s : List Char) : Bool :=
  let (mantissa, exponent) := s.span fun c => c != 'e' && c != 'E'
  let (whole, fraction) := mantissa.span (· != '.')
  ["inf", "infinity", "nan"].contains (String.ofList (s.map Char.toLower)) ||
    (whole ++ fraction.drop 1).all Char.isDigit && whole ++ fraction.drop 1 != [] &&
      match exponent with
      | [] => true
      | _ :: '+' :: digits => !digits.isEmpty && digits.all Char.isDigit
      | _ :: '-' :: digits => !digits.isEmpty && digits.all Char.isDigit
      | _ :: digits => !digits.isEmpty && digits.all Char.isDigit

/-- Whether a field can have a text as its value: a pattern, or a number with a plus sign, which is
no pattern. -/
def isValue (s : List Char) : Bool :=
  Pattern.isWellFormed s || match s with
    | '+' :: s => isUnsignedNumber s
    | _ => false

/-- A field with a value, after an equals sign, is one of a span. What follows a second equals sign
is ignored. -/
def selector? (b : Brackets) : Option Selector :=
  match b.field.map (·.span (· != '=')) with
  | none => some .spans
  | some (name, []) => some (if b.span.isEmpty then .field (String.ofList name) else .spans)
  | some (_, _ :: value) => if isValue (value.takeWhile (· != '=')) then some .spans else none

end Brackets

/-- A directive in its parts: what stands before the brackets or the equals sign, the brackets, and
what follows the equals sign. -/
structure DirectiveText where
  word : List Char
  brackets : Option Brackets
  level : Option (List Char)
  deriving DecidableEq

namespace DirectiveText

def isWordStart (c : Char) : Bool :=
  c == '-' || c == ':' || c == '_' || Text.isAlphanumeric c

def split? (s : List Char) : Option DirectiveText :=
  match s.span fun c => c != '=' && c != '[' with
  | (word, '[' :: r) =>
    match word.head?.all isWordStart, Brackets.read r with
    | true, some (brackets, []) => some ⟨word, some brackets, none⟩
    | true, some (brackets, '=' :: level) => some ⟨word, some brackets, some level⟩
    | _, _ => none
  | (word, []) => if word.head?.any isWordStart then some ⟨word, none, none⟩ else none
  | (word, _ :: level) => if word.head?.any isWordStart then some ⟨word, none, some level⟩ else none

/-- The parts of `whole` at the byte offsets that these parts have in `s`. A level, and a word by
itself, runs to the end. -/
def transfer (t : DirectiveText) (s whole : List Char) : DirectiveText :=
  let word := Text.byteCount t.word
  match t.brackets, t.level with
  | none, none => ⟨whole, none, none⟩
  | brackets, level =>
    ⟨Text.takeBytes word whole, brackets.map (·.transfer word whole),
      level.map fun l => Text.dropBytes (Text.byteCount s - Text.byteCount l) whole⟩

/-- The parts of a directive. They are found in the text without the blanks around it but taken from
the whole text, so that blanks in front shift every part. -/
def ofChars? (whole : List Char) : Option DirectiveText :=
  (split? (Text.trimChars whole)).map (·.transfer (Text.trimChars whole) whole)

/-- The level after the equals sign. Without a level or an equals sign all levels are meant. -/
def level? (t : DirectiveText) : Option Level :=
  match t.level with
  | some (c :: s) => Level.ofChars? (c :: s)
  | _ => some .trace

end DirectiveText

namespace Directive

/-- The directive of a text, if it is about events. A word by itself is a level if it can be one. -/
def ofText? (t : DirectiveText) : Option (Option Directive) :=
  match t.brackets, t.level, Level.ofChars? t.word with
  | none, none, some level => some (some ⟨[], none, level⟩)
  | none, _, _ => t.level?.map fun level => some ⟨t.word, none, level⟩
  | some brackets, _, _ =>
    match brackets.selector?, t.level? with
    | some .spans, some _ => some none
    | some (.field name), some level => some (some ⟨t.word, some name, level⟩)
    | _, _ => none

def read? (s : List Char) : Option (Option Directive) := (DirectiveText.ofChars? s).bind ofText?

def covers (d : Directive) (e : Event) : Bool :=
  d.target.isPrefixOf e.target.toList && d.field.all e.fields.contains

/-- Whether `e` is at least as specific as `d`. A longer target comes before everything, then a
field before none, and of two fields the one that is later in the alphabet. -/
def isOutranked (d e : Directive) : Bool :=
  d.target.length < e.target.length || d.target.length == e.target.length &&
    match d.field, e.field with
    | none, _ => true
    | some _, none => false
    | some x, some y => !decide (y < x)

end Directive
end BranchVersion
