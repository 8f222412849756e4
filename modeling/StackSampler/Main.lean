import StackSampler.Tool

/-!
The command line. The first argument names the tool, the others are files of captures.
-/

namespace StackSampler.CommandLine

def fileFault : IO.Error → FileFault
  | .noFileOrDirectory _ _ _ => .notFound
  | .permissionDenied _ _ _ => .permissionDenied
  | .inappropriateType _ number _ =>
      if number = 21 || number = -21 then .isADirectory else .notADirectory
  | .invalidArgument _ number _ =>
      if number = 36 || number = -36 then .nameTooLong else .zeroInPath
  | error => .other 5 (toString error)

def readInput (path : String) : IO ToolInput := do
  try
    let bytes ← IO.FS.readBinFile path
    return ⟨path, .ok bytes.toList⟩
  catch error => return ⟨path, .error (fileFault error)⟩

end StackSampler.CommandLine

open StackSampler in
def main (arguments : List String) : IO UInt32 := do
  let (tool, paths) ←
    match arguments with
    | "decode" :: paths => pure (Tool.decode, paths)
    | "speedscope" :: paths => pure (Tool.speedscope, paths)
    | _ =>
        IO.eprintln "usage: (decode | speedscope) <capture file>..."
        return 1
  let toolEnd := tool.run (← paths.mapM CommandLine.readInput)
  IO.print toolEnd.output
  IO.eprint toolEnd.complaint
  return toolEnd.exitCode
