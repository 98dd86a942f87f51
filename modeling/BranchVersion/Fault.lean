/-! Everything that can go wrong, by cause, and the text that reports it. -/
namespace BranchVersion

inductive RulesFault where
  | malformed
  | emptyPrefix
  | blankOutputKey
  | unknownMarker (marker : String)
  | described (text : String)
  deriving DecidableEq

inductive VersionFault where
  | unknownMarker (marker : String)
  | described (text : String)
  deriving DecidableEq

inductive FileFault where
  | missing
  | directory
  | throughFile
  | notUtf8
  | described (text : String)
  deriving DecidableEq

/-- `notOneBranch`: there is not exactly one branch name, or it is blank. -/
inductive Fault where
  | notOneBranch
  | rules (fault : RulesFault)
  | version (fault : VersionFault)
  | file (fault : FileFault)
  deriving DecidableEq

def RulesFault.message : RulesFault → String
  | .malformed => "TOML parse error"
  | .emptyPrefix => "prefixes must not contain an empty string"
  | .blankOutputKey => "output_key must not be empty"
  | .unknownMarker marker =>
    "unknown pre-release marker '" ++ marker ++ "' in prerelease_names (expected a, b or rc)"
  | .described text => text

def VersionFault.message : VersionFault → String
  | .unknownMarker marker => "Unknown pre-release marker: '" ++ marker ++ "'"
  | .described text => text

def FileFault.message : FileFault → String
  | .missing => "No such file or directory (os error 2)"
  | .directory => "Is a directory (os error 21)"
  | .throughFile => "Not a directory (os error 20)"
  | .notUtf8 => "stream did not contain valid UTF-8"
  | .described text => text

def Fault.message : Fault → String
  | .notOneBranch => "error: branch name not passed as a sole argument. " ++
      "On GHA pass it as part of `client_payload`."
  | .rules fault => "Configuration error: " ++ fault.message
  | .version fault => "Version parsing error: " ++ fault.message
  | .file fault => "I/O error: " ++ fault.message

def Fault.isUsage : Fault → Bool
  | .notOneBranch => true
  | _ => false

end BranchVersion
