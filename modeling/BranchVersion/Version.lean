import BranchVersion.NameTable

/-!
Versions and their two spellings: the short form of a branch name, such as `1.2rc1`, and the
written-out form, such as `1.2.0-rc.1`.
-/
namespace BranchVersion

structure Version where
  major : Numeral
  minor : Numeral
  micro : Numeral
  prerelease : Option Prerelease
  deriving DecidableEq

namespace Version

def ofNumbers (major minor micro : UInt64) : Version :=
  ⟨.ofNat major.toNat, .ofNat minor.toNat, .ofNat micro.toNat, none⟩

def withPrerelease (v : Version) (stage : Stage) (value : UInt64) : Version :=
  { v with prerelease := some ⟨stage, .ofNat value.toNat⟩ }

def readDot : List Char → Option (List Char)
  | '.' :: s => some s
  | _ => none

def readMicro : List Char → Option (Numeral × List Char)
  | '.' :: s => Numeral.read s
  | s => some (.zero, s)

def readSuffix : List Char → Option (Option Prerelease)
  | [] => some none
  | s => (Prerelease.ofSuffix? s).map some

/-- Reads the short form `MAJOR.MINOR[.MICRO][MARKER VALUE]`, which has to be the whole text. -/
def ofChars? (s : List Char) : Option Version := do
  let (major, s) ← Numeral.read s
  let s ← readDot s
  let (minor, s) ← Numeral.read s
  let (micro, s) ← readMicro s
  let prerelease ← readSuffix s
  some ⟨major, minor, micro, prerelease⟩

def ofString? (s : String) : Option Version := ofChars? s.toList

def shortForm (v : Version) : List Char :=
  v.major.digits ++ '.' :: v.minor.digits ++ '.' :: v.micro.digits ++
    (v.prerelease.map Prerelease.suffix).getD []

def briefForm (v : Version) : List Char :=
  v.major.digits ++ '.' :: v.minor.digits ++ (v.prerelease.map Prerelease.suffix).getD []

/-- The written-out form `MAJOR.MINOR.MICRO[-NAME.VALUE]` with a given name for each stage. -/
def writeOut (name : Stage → String) (v : Version) : String :=
  let numbers := v.major.text ++ "." ++ v.minor.text ++ "." ++ v.micro.text
  match v.prerelease with
  | none => numbers
  | some p => numbers ++ "-" ++ name p.stage ++ "." ++ p.value.text

def render (v : Version) (names : NameTable) : String := v.writeOut (·.longNameIn names)

def text (v : Version) : String := v.writeOut Stage.longName

theorem readSuffix_suffix (p : Option Prerelease) :
    readSuffix ((p.map Prerelease.suffix).getD []) = some p := by
  cases p with
  | none => rfl
  | some p =>
    have hne : p.suffix ≠ [] := by
      obtain ⟨stage, value⟩ := p
      cases stage <;> simp [Prerelease.suffix, Stage.marker]
    simp only [Option.map_some, Option.getD_some]
    rw [readSuffix.eq_2 _ (by simpa using hne), Prerelease.ofSuffix?_suffix, Option.map_some]

end Version
end BranchVersion
