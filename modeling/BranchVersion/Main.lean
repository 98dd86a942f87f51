import BranchVersion.Program

/-! The command line program: arguments, files and one variable go in, and text comes out. -/
namespace BranchVersion

def FileFault.ofError : IO.Error → FileFault
  | .noFileOrDirectory .. => .missing
  | .inappropriateType _ code _ => if code = 20 then .throughFile else .directory
  | fault => .described (toString fault)

def FileContent.read (path : String) : IO FileContent := do
  try
    return .ok (← IO.FS.readBinFile path)
  catch fault =>
    return .error (FileFault.ofError fault)

def Request.path? : Except Refusal Request → Option String
  | .ok (.resolve config _) => config
  | _ => none

def Program.main (args : List String) : IO UInt32 := do
  let content ← (Request.path? (Request.read args)).mapM FileContent.read
  let file (_ : String) : FileContent := content.getD (.error .missing)
  let exit := Program.run ⟨file, ← IO.getEnv "RUST_LOG"⟩ args .ascending
  IO.eprint exit.err
  IO.print exit.out
  return exit.code.toUInt32

end BranchVersion

def main (args : List String) : IO UInt32 := BranchVersion.Program.main args
