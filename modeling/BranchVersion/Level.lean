/-! Levels of detail at which events are reported. -/
namespace BranchVersion

/-- Levels in ascending order of detail. -/
inductive Level where
  | off
  | error
  | warn
  | info
  | debug
  | trace
  deriving DecidableEq

namespace Level

def all : List Level := [.off, .error, .warn, .info, .debug, .trace]

def name : Level → String
  | .off => "off"
  | .error => "error"
  | .warn => "warn"
  | .info => "info"
  | .debug => "debug"
  | .trace => "trace"

def rank : Level → Nat
  | .off => 0
  | .error => 1
  | .warn => 2
  | .info => 3
  | .debug => 4
  | .trace => 5

/-- Reads the rank of a level, in decimal digits after an optional plus sign. -/
def ofRank? (s : List Char) : Option Level :=
  let digits := match s with
    | '+' :: ds => ds
    | ds => ds
  if !digits.isEmpty && digits.all Char.isDigit then all[Nat.ofDigitChars 10 digits 0]? else none

/-- Reads a name in any letter case, or a rank. -/
def ofChars? (s : List Char) : Option Level :=
  (ofRank? s).or (all.find? (·.name == String.ofList (s.map Char.toLower)))

end Level
end BranchVersion
