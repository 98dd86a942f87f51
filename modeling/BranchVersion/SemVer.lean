import BranchVersion.Text.Pieces
import BranchVersion.Version

/-!
Semantic versions: three machine-word numbers, a pre-release part and a build part. Reading is
strict: no number has a needless leading zero, and nothing may stand before or after.
-/
namespace BranchVersion

namespace SemVer

def isIdentifier (s : List Char) : Bool :=
  !s.isEmpty && s.all fun c => c.isAlphanum || c == '-'

def hasNeedlessZero (s : List Char) : Bool :=
  s.all Char.isDigit && s.head? == some '0' && s != ['0']

/-- Identifiers between dots, no number among them with a needless leading zero. -/
def isPre (s : List Char) : Bool :=
  (Text.pieces '.' s).all fun p => isIdentifier p && !hasNeedlessZero p

def isBuild (s : List Char) : Bool := (Text.pieces '.' s).all isIdentifier

end SemVer

/-- An empty `pre` or `build` stands for a part that is absent. -/
structure SemVer where
  major : UInt64
  minor : UInt64
  patch : UInt64
  pre : String
  build : String
  deriving DecidableEq

namespace SemVer

def text (v : SemVer) : String :=
  v.major.toNat.repr ++ "." ++ v.minor.toNat.repr ++ "." ++ v.patch.toNat.repr ++
    (if v.pre = "" then "" else "-" ++ v.pre) ++ (if v.build = "" then "" else "+" ++ v.build)

def readWord (s : List Char) : Option (UInt64 × List Char) := do
  let (n, s) ← Numeral.read s
  let w ← n.toUInt64?
  some (w, s)

def readDotWord : List Char → Option (UInt64 × List Char)
  | '.' :: s => readWord s
  | _ => none

/-- The pre-release part ends at the first plus sign. -/
def readPre : List Char → Option (String × List Char)
  | '-' :: s =>
    let pre := s.takeWhile (· != '+')
    if isPre pre then some (String.ofList pre, s.dropWhile (· != '+')) else none
  | s => some ("", s)

def readBuild : List Char → Option String
  | [] => some ""
  | '+' :: s => if isBuild s then some (String.ofList s) else none
  | _ => none

def ofString? (s : String) : Option SemVer := do
  let (major, s) ← readWord s.toList
  let (minor, s) ← readDotWord s
  let (patch, s) ← readDotWord s
  let (pre, s) ← readPre s
  let build ← readBuild s
  some ⟨major, minor, patch, pre, build⟩

end SemVer

def Prerelease.semVerPart? (p : Prerelease) : Option String :=
  let part := p.stage.longName ++ "." ++ p.value.text
  if SemVer.isPre part.toList then some part else none

/-- A version as a semantic version with the built-in names, if its numbers are machine words. -/
def Version.toSemVer? (v : Version) : Option SemVer := do
  let major ← v.major.toUInt64?
  let minor ← v.minor.toUInt64?
  let patch ← v.micro.toUInt64?
  let pre ← match v.prerelease with
    | none => some ""
    | some p => p.semVerPart?
  some ⟨major, minor, patch, pre, ""⟩

end BranchVersion
