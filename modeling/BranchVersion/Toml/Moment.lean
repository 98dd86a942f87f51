import BranchVersion.Toml.Text

/-!
TOML dates and times. They are checked against the calendar and the clock, a minute having up to 61
seconds, and of their value only a text is kept.
-/
namespace BranchVersion.Toml

def readFixed (n : Nat) (s : List Char) : Option (Nat × List Char) :=
  let ds := s.take n
  if ds.length = n ∧ ds.all Char.isDigit then some (Nat.ofDigitChars 10 ds 0, s.drop n) else none

def afterChar? (c : Char) : List Char → Option (List Char)
  | d :: s => if d = c then some s else none
  | [] => none

def isLeapYear (year : Nat) : Bool := year % 4 == 0 && (year % 100 != 0 || year % 400 == 0)

def daysIn (year month : Nat) : Nat :=
  match month with
  | 2 => if isLeapYear year then 29 else 28
  | 4 | 6 | 9 | 11 => 30
  | _ => 31

def afterHour? (s : List Char) : Option (List Char) := do
  let (hour, s) ← readFixed 2 s
  let s ← afterChar? ':' s
  if hour ≤ 23 then some s else none

def afterMinute? (s : List Char) : Option (List Char) := do
  let (minute, s) ← readFixed 2 s
  if minute ≤ 59 then some s else none

def skipSecondFraction : List Char → List Char
  | '.' :: c :: s => if c.isDigit then s.dropWhile Char.isDigit else '.' :: c :: s
  | s => s

def afterHourRest? (s : List Char) : Option (List Char) := do
  let s ← afterMinute? s
  let s ← afterChar? ':' s
  let (second, s) ← readFixed 2 s
  if second ≤ 60 then some (skipSecondFraction s) else none

def afterOffset? : List Char → Option (List Char)
  | [] => some []
  | c :: s =>
    if c = 'Z' ∨ c = 'z' then some s
    else if c = '+' ∨ c = '-' then (afterHour? s).bind afterMinute?
    else some (c :: s)

def afterDateTime? : List Char → Option (List Char)
  | [] => some []
  | c :: s =>
    match if c = 'T' ∨ c = 't' ∨ c = ' ' then afterHour? s else none with
    | none => some (c :: s)
    | some s => (afterHourRest? s).bind afterOffset?

def afterYear? (year : Nat) (s : List Char) : Option (List Char) := do
  let (month, s) ← readFixed 2 s
  let s ← afterChar? '-' s
  let (day, s) ← readFixed 2 s
  if 1 ≤ month ∧ month ≤ 12 ∧ 1 ≤ day ∧ day ≤ daysIn year month then afterDateTime? s else none

inductive MomentLead where
  | date (year : Nat) (rest : List Char)
  | time (rest : List Char)
  | neither

def MomentLead.ofChars (s : List Char) : MomentLead :=
  match readFixed 4 s with
  | some (year, '-' :: r) => .date year r
  | _ =>
    match afterHour? s with
    | some r => .time r
    | none => .neither

def shownChar (c : Char) : Char :=
  if c = 't' ∨ c = ' ' then 'T' else if c = 'z' then 'Z' else c

/-- A fraction of a second has at most nine digits and no zeros at its end. -/
def shownFraction (digits : List Char) : List Char :=
  match (digits.take 9).reverse.dropWhile (· == '0') with
  | [] => []
  | ds => '.' :: ds.reverse

/-- The spelling in which a date or a time is shown again, from a text of which `rest` is left. An
offset of zero has a plus sign. -/
def momentText (s rest : List Char) : String :=
  let moment := (s.take (s.length - rest.length)).map shownChar
  let front := moment.take (moment.length - 6)
  let moment := if moment = front ++ "-00:00".toList then front ++ "+00:00".toList else moment
  String.ofList <| moment.takeWhile (· != '.') ++
    match moment.dropWhile (· != '.') with
    | [] => []
    | _ :: r => shownFraction (r.takeWhile Char.isDigit) ++ r.dropWhile Char.isDigit

example : momentText "07:32:00.1200z # utc".toList " # utc".toList = "07:32:00.12Z" ∧
    momentText "1979-05-27 07:32:00-00:00".toList [] = "1979-05-27T07:32:00+00:00" := by decide

end BranchVersion.Toml
