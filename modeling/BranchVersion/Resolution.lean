import BranchVersion.Rules
import BranchVersion.SemVer

/-!
How a branch name becomes a version. A known prefix is stripped, and a remainder in the short form
is written out; a name without either passes through.
-/
namespace BranchVersion

inductive Resolution where
  | unprefixed (name : String)
  | unmatched (remainder : String)
  | normalized (parsed : Version) (version : String)
  deriving DecidableEq

namespace Resolution

def version : Resolution → String
  | .unprefixed name => name
  | .unmatched remainder => remainder
  | .normalized _ version => version

def parsed? : Resolution → Option Version
  | .normalized parsed _ => some parsed
  | _ => none

def isNormalized (r : Resolution) : Bool := r.parsed?.isSome

def semVer? : Resolution → Option SemVer
  | .normalized _ version => SemVer.ofString? version
  | _ => none

end Resolution

def Rules.resolveBranch (rules : Rules) (branch : Branch) : Resolution :=
  match branch.strip? rules.prefixes with
  | none => .unprefixed branch.name
  | some remainder =>
    match Version.ofString? remainder with
    | none => .unmatched remainder
    | some v => .normalized v (v.render rules.names)

/-- Only a blank name has no resolution. -/
def Rules.resolve (rules : Rules) (raw : String) : Except Fault Resolution :=
  match Branch.ofString? raw with
  | none => .error .notOneBranch
  | some branch => .ok (rules.resolveBranch branch)

/-- The version of a branch name under the built-in rules. -/
def versionOf (raw : String) : Except Fault String :=
  (Rules.standard.resolve raw).map Resolution.version

def setOutput (key value : String) : String := "::set-output name=" ++ key ++ "::" ++ value

def Rules.outputLine (rules : Rules) (r : Resolution) : String :=
  setOutput rules.outputKey r.version

end BranchVersion
