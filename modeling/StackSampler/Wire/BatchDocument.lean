import StackSampler.Json.Document
import StackSampler.Json.Reader
import StackSampler.Wire.Batch

/-!
Batches as JSON documents.
-/

namespace StackSampler.Wire

open Json.Reader (member record)

def Frame.document (frame : Frame) : Json.Document :=
  .record [("code", .natural frame.code.toNat), ("name", .text frame.name),
    ("defines", .boolean frame.defines)]

def Sample.document (sample : Sample) : Json.Document :=
  .record [("thread", .natural sample.thread.toNat), ("native_id", .natural sample.nativeId.toNat),
    ("thread_name", .text sample.threadName), ("frames", .list (sample.frames.map Frame.document))]

def Batch.document (batch : Batch) : Json.Document :=
  .record [("samples", .list (batch.samples.map Sample.document))]

structure FrameDraft where
  code : Option UInt16 := none
  name : Option String := none
  defines : Option Bool := none

def FrameDraft.frame? (draft : FrameDraft) : Option Frame :=
  return ⟨← draft.code, ← draft.name, ← draft.defines⟩

def Frame.reader : Json.Reader Frame :=
  record
    [member "code" FrameDraft.code (fun draft code => { draft with code }) .word16,
      member "name" FrameDraft.name (fun draft name => { draft with name }) .text,
      member "defines" FrameDraft.defines (fun draft defines => { draft with defines }) .boolean]
    false {} FrameDraft.frame?

structure SampleDraft where
  thread : Option UInt32 := none
  nativeId : Option UInt32 := none
  threadName : Option String := none
  frames : Option (List Frame) := none

def SampleDraft.sample? (draft : SampleDraft) : Option Sample :=
  return ⟨← draft.thread, ← draft.nativeId, ← draft.threadName, ← draft.frames⟩

def Sample.reader : Json.Reader Sample :=
  record
    [member "thread" SampleDraft.thread (fun draft thread => { draft with thread }) .word32,
      member "native_id" SampleDraft.nativeId (fun draft nativeId => { draft with nativeId })
        .word32,
      member "thread_name" SampleDraft.threadName
        (fun draft threadName => { draft with threadName }) .text,
      member "frames" SampleDraft.frames (fun draft frames => { draft with frames })
        (.list Frame.reader)]
    false {} SampleDraft.sample?

structure BatchDraft where
  samples : Option (List Sample) := none

def BatchDraft.batch? (draft : BatchDraft) : Option Batch := return ⟨← draft.samples⟩

def Batch.reader : Json.Reader Batch :=
  record
    [member "samples" BatchDraft.samples (fun draft samples => { draft with samples })
      (.list Sample.reader)]
    false {} BatchDraft.batch?

end StackSampler.Wire
