import StackSampler.Wire.CountedText
import StackSampler.Wire.Decode

/-!
The written form of a batch, and which batches have one.

A batch can be written when its codes number its definitions and every other frame repeats an
earlier definition. Nothing but the written form of such a batch is read as it.
-/

namespace StackSampler.Wire

def Frame.written (frame : Frame) : List UInt8 :=
  if frame.defines then BigEndian.bytes16 (-frame.code) ++ CountedText.encode frame.name
  else BigEndian.bytes16 frame.code

def Sample.written (sample : Sample) : List UInt8 :=
  sampleStart :: (BigEndian.bytes32 sample.thread ++ BigEndian.bytes32 sample.nativeId ++
    CountedText.encode sample.threadName ++ sample.frames.flatMap Frame.written ++ [0, 0])

def Batch.written (batch : Batch) : List UInt8 :=
  batchStart :: (batch.samples.flatMap Sample.written ++ [batchEnd])

/-- Whether frames are coded consistently behind the names that were defined before them. -/
def CodedAfter (names : List String) : List Frame → Prop
  | [] => True
  | ⟨code, name, true⟩ :: frames =>
      code.toNat = names.length + 1 ∧ code.toNat ≤ 0x8000 ∧ CountedText.Fits name ∧
        CodedAfter (names ++ [name]) frames
  | ⟨code, name, false⟩ :: frames =>
      1 ≤ code.toNat ∧ code.toNat ≤ 0x7fff ∧ names[code.toNat - 1]? = some name ∧
        CodedAfter names frames

def Batch.frames (batch : Batch) : List Frame := batch.samples.flatMap (·.frames)

def Batch.WellCoded (batch : Batch) : Prop :=
  (∀ sample ∈ batch.samples, CountedText.Fits sample.threadName) ∧ CodedAfter [] batch.frames

end StackSampler.Wire
