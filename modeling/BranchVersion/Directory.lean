import BranchVersion.Rules.Loading
import BranchVersion.Text.Pieces

/-! A working directory that holds files and no directories, and what its paths lead to. -/
namespace BranchVersion

structure Directory where
  files : List (String × ByteArray)

namespace Directory

def isIdleStep (step : List Char) : Bool := step.isEmpty || step == ['.']

/-- Reads the file at a path. Only `.`, `..` and the root are directories. -/
def read (d : Directory) (path : String) : FileContent :=
  let steps := Text.pieces '/' path.toList
  match steps.dropWhile isIdleStep with
  | [] => .error (if path = "" then .missing else .directory)
  | step :: more =>
    if step = ['.', '.'] then
      .error (if more.all fun s => isIdleStep s || s == ['.', '.'] then .directory else .missing)
    else if path.toList.head? = some '/' then .error .missing
    else match d.files.lookup (String.ofList step) with
      | none => .error .missing
      | some bytes => if more.isEmpty then .ok bytes else .error .throughFile

end Directory
end BranchVersion
