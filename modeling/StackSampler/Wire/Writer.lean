import StackSampler.Mailbox
import StackSampler.Method.Metadata
import StackSampler.Thread.Directory
import StackSampler.Wire.CountedText
import StackSampler.Wire.Decode

/-!
Writing one capture buffer of bounded size.

Every record that does not close something is written only if the closing markers still fit behind
it. A record that does not fit is refused whole, and so is every record after it, so what a full
buffer holds is still well formed: its records, closed.
-/

namespace StackSampler.Wire

inductive Phase where
  | betweenSamples
  | inSample
  | finished
deriving DecidableEq, Repr

/-- Codes are given to methods, buffer by buffer. Once a record was refused, every later one is. -/
structure Writer where
  capacity : Nat
  bytes : Array UInt8 := #[]
  codes : Std.TreeMap MethodId Nat := ∅
  phase : Phase := .betweenSamples
  truncated : Bool := false
  refused : Nat := 0

inductive Misuse where
  | sampleInsideSample
deriving DecidableEq, Repr

def Misuse.message : Misuse → String
  | sampleInsideSample => "start_sample inside an open sample"

namespace Writer

def maxCode : Nat := 0x7fff

/-- Room for a sample's end and the batch's end. -/
def closingSize : Nat := 3

/-- The smallest buffer that holds a start and both ends. -/
def minCapacity : Nat := 1 + closingSize

def ofCapacity (capacity : Nat) : Writer := { capacity := max capacity minCapacity }

def position (writer : Writer) : Nat := writer.bytes.size

def methodCount (writer : Writer) : Nat := writer.codes.size

/-- The refusals as a word, which is how they are shown. -/
def refusedCount (writer : Writer) : UInt64 := UInt64.ofNat writer.refused

def put (writer : Writer) (record : List UInt8) : Writer :=
  { writer with bytes := writer.bytes ++ record }

def refuse (writer : Writer) : Writer :=
  { writer with truncated := true, refused := writer.refused + 1 }

def admits (writer : Writer) (size : Nat) : Bool :=
  !writer.truncated && writer.position + size + closingSize ≤ writer.capacity

/-- Writes a record or refuses it. The answer is whether it was written. A finished buffer takes
no records and counts none. -/
def append (writer : Writer) (record : List UInt8) : Bool × Writer :=
  if writer.phase = .finished then (false, writer)
  else if writer.admits record.length then (true, writer.put record)
  else (false, writer.refuse)

def openBatch (writer : Writer) : Writer := (writer.append [batchStart]).2

def sampleHeader (thread : ThreadHandle) (identity : ThreadIdentity) : List UInt8 :=
  sampleStart :: (BigEndian.bytes32 thread.word.toUInt32 ++ BigEndian.bytes32 identity.nativeId ++
    CountedText.encode identity.name)

/-- Opens a sample. Only the low 32 bits of the thread's handle are written. -/
def openSample (writer : Writer) (thread : ThreadHandle) (identity : ThreadIdentity) :
    Except Misuse Writer :=
  if writer.phase = .inSample then .error .sampleInsideSample
  else
    match writer.append (sampleHeader thread identity) with
    | (true, writer) => .ok { writer with phase := .inSample }
    | (false, writer) => .ok writer

def reference (code : Nat) : List UInt8 := BigEndian.bytes16 (UInt16.ofNat code)

def definition (code : Nat) (name : String) : List UInt8 :=
  BigEndian.bytes16 (-UInt16.ofNat code) ++ CountedText.encode name

/-- Writes a frame of the open sample; the name goes with the first frame of its method. Running
out of codes is like running out of room. The answer is whether the frame was written. -/
def addFrame (writer : Writer) (method : MethodId) (name : String) : Bool × Writer :=
  if writer.phase ≠ .inSample then (false, writer)
  else
    match writer.codes[method]? with
    | some code => writer.append (reference code)
    | none =>
        let code := writer.methodCount + 1
        if maxCode < code then (false, writer.refuse)
        else
          match writer.append (definition code name) with
          | (true, writer) => (true, { writer with codes := writer.codes.insert method code })
          | (false, writer) => (false, writer)

/-- Closes the open sample, if there is one. The room for it was kept back. -/
def closeSample (writer : Writer) : Writer :=
  if writer.phase = .inSample then { writer.put [0, 0] with phase := .betweenSamples } else writer

def closeBatch (writer : Writer) : Writer :=
  if writer.phase = .finished then writer
  else { writer.closeSample.put [batchEnd] with phase := .finished }

def finish (writer : Writer) : Capture := writer.closeBatch.bytes.toList

end Writer

end StackSampler.Wire
