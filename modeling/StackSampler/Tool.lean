import StackSampler.FileFault
import StackSampler.Speedscope.FileDocument
import StackSampler.Text.Quoted
import StackSampler.Wire.BatchDocument
import StackSampler.Wire.Decode

/-!
Two tools on files of captures: one prints each capture as JSON, the other makes one speedscope file
of them all. Both stop at the first file that cannot be read or is no capture.
-/

namespace StackSampler

inductive Tool where
  | decode
  | speedscope
deriving DecidableEq, Repr

structure ToolInput where
  path : String
  content : Except FileFault (List UInt8)

inductive ToolError where
  | noFiles (tool : Tool)
  | unreadable (fault : FileFault)
  | refused (path : String) (fault : Wire.Fault)
deriving DecidableEq, Repr

structure ToolEnd where
  output : String
  error : Option ToolError := none

namespace Tool

def name : Tool → String
  | decode => "decode"
  | speedscope => "speedscope"

def batch (input : ToolInput) : Except ToolError Wire.Batch :=
  match input.content with
  | .error fault => .error (.unreadable fault)
  | .ok bytes =>
      match Wire.decode bytes with
      | .error fault => .error (.refused input.path fault)
      | .ok batch => .ok batch

def decodeAfter (output : String) : List ToolInput → ToolEnd
  | [] => { output }
  | input :: inputs =>
      match batch input with
      | .error error => { output, error := some error }
      | .ok batch => decodeAfter (batch.document.compactAfter output ++ "\n") inputs

/-- What a tool does with its files. The speedscope file is printed only if all of them are good,
and one that misses files says so. -/
def run (tool : Tool) (inputs : List ToolInput) : ToolEnd :=
  if inputs.isEmpty then { output := "", error := some (.noFiles tool) }
  else
    match tool with
    | decode => decodeAfter "" inputs
    | speedscope =>
        match inputs.mapM batch with
        | .error error => { output := "", error := some error }
        | .ok batches => { output := (Speedscope.File.ofBatches batches).document.pretty }

end Tool

def ToolError.details : ToolError → String
  | noFiles tool => Text.quoted s!"usage: {tool.name} <capture file>..."
  | unreadable fault => fault.details
  | refused path fault => Text.quoted s!"{path}: {fault.message}"

namespace ToolEnd

def exitCode (toolEnd : ToolEnd) : UInt32 := if toolEnd.error.isSome then 1 else 0

def complaint (toolEnd : ToolEnd) : String :=
  match toolEnd.error with
  | none => ""
  | some error => "Error: " ++ error.details ++ "\n"

end ToolEnd

end StackSampler
