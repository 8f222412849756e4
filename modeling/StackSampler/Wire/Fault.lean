import StackSampler.Text.Hex

/-!
The ways in which a buffer can be refused, and their wording.
-/

namespace StackSampler.Wire

/-- Why a buffer is refused. Offsets count bytes from the start of the buffer, and point to the
start of the field that is wrong. A code is unknown if no earlier frame defines it, and misnumbered
if a frame defines it that should define the next one. -/
inductive Fault where
  | endsEarly (offset : Nat)
  | strayMarker (marker : UInt8) (offset : Nat)
  | unknownCode (code : UInt16) (offset : Nat)
  | misnumberedCode (code : UInt16) (offset : Nat)
  | badText (offset : Nat)
  | trailing (count : Nat)
deriving DecidableEq, Repr

def Fault.message : Fault → String
  | endsEarly offset => s!"buffer ended early at offset {offset}"
  | strayMarker marker offset =>
      s!"unexpected marker {Text.hexOfWidth 2 marker.toNat} at offset {offset}"
  | unknownCode code offset => s!"frame at offset {offset} references undefined code {code.toNat}"
  | misnumberedCode code offset =>
      s!"code {code.toNat} at offset {offset} redefined or out of sequence"
  | badText offset => s!"string at offset {offset} is not valid UTF-16"
  | trailing count => s!"{count} trailing bytes after batch end"

end StackSampler.Wire
