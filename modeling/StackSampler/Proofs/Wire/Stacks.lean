import Mathlib.Data.List.ModifyLast
import StackSampler.Proofs.FirstOccurrences
import StackSampler.Proofs.Wire.Coding
import StackSampler.Wire.Writer

/-!
# The batch that tells given stacks

A writer is told of stacks: threads, and frames with the method and the name of each. What a buffer
says of them is stated here without a writer. Codes are ranks among the methods of the whole buffer
in order of first occurrence, and a method keeps the name that came with that occurrence. Neither
changes when more frames follow, so the batch of a longer list of stacks continues the shorter one.
-/

namespace StackSampler.Wire

abbrev NamedMethod := MethodId × String

structure Stack where
  thread : ThreadHandle
  identity : ThreadIdentity
  frames : List NamedMethod
deriving DecidableEq, Repr

/-- The methods of frames in the order of their first occurrences. -/
def methodsOf (frames : List NamedMethod) : List MethodId := (frames.map Prod.fst).eraseDups

def nameIn (frames : List NamedMethod) (method : MethodId) : String :=
  (frames.lookup method).getD ""

/-- A frame as the buffer of the `whole` frame list has it behind `earlier` frames. -/
def Frame.ofNamed (whole earlier : List NamedMethod) (frame : NamedMethod) : Frame where
  code := UInt16.ofNat ((methodsOf whole).idxOf frame.1 + 1)
  name := nameIn whole frame.1
  defines := decide (frame.1 ∉ earlier.map Prod.fst)

def framesOf (whole earlier : List NamedMethod) : List NamedMethod → List Frame
  | [] => []
  | frame :: frames => .ofNamed whole earlier frame :: framesOf whole (earlier ++ [frame]) frames

def samplesOf (whole earlier : List NamedMethod) : List Stack → List Sample
  | [] => []
  | stack :: stackList =>
      { thread := stack.thread.word.toUInt32
        nativeId := stack.identity.nativeId
        threadName := stack.identity.name
        frames := framesOf whole earlier stack.frames } ::
        samplesOf whole (earlier ++ stack.frames) stackList

def namedFrames (stackList : List Stack) : List NamedMethod := stackList.flatMap (·.frames)

/-- The batch that tells these stacks. -/
def Batch.ofStacks (stackList : List Stack) : Batch :=
  ⟨samplesOf (namedFrames stackList) [] stackList⟩

@[simp] theorem named_frames_append (front back : List Stack) :
    namedFrames (front ++ back) = namedFrames front ++ namedFrames back :=
  List.flatMap_append

theorem mem_methods_of {frames : List NamedMethod} {method : MethodId} :
    method ∈ methodsOf frames ↔ method ∈ frames.map Prod.fst :=
  List.mem_eraseDups

theorem methods_of_concat_of_mem {frames : List NamedMethod} {frame : NamedMethod}
    (seen : frame.1 ∈ frames.map Prod.fst) :
    methodsOf (frames ++ [frame]) = methodsOf frames := by
  rw [methodsOf, List.map_append]
  exact eraseDups_concat_of_mem seen

theorem methods_of_concat_of_not_mem {frames : List NamedMethod} {frame : NamedMethod}
    (new : frame.1 ∉ frames.map Prod.fst) :
    methodsOf (frames ++ [frame]) = methodsOf frames ++ [frame.1] := by
  rw [methodsOf, List.map_append]
  exact eraseDups_concat_of_not_mem new

theorem idxOf_methods_of_append {front : List NamedMethod} {method : MethodId}
    (seen : method ∈ front.map Prod.fst) (back : List NamedMethod) :
    (methodsOf (front ++ back)).idxOf method = (methodsOf front).idxOf method := by
  rw [methodsOf, List.map_append]
  exact idxOf_eraseDups_append seen (back.map Prod.fst)

theorem lookup_isSome_of_mem {frames : List NamedMethod} {method : MethodId}
    (seen : method ∈ frames.map Prod.fst) : (frames.lookup method).isSome = true := by
  obtain ⟨frame, member, rfl⟩ := List.mem_map.mp seen
  exact List.lookup_isSome_iff.mpr ⟨frame, member, beq_self_eq_true frame.1⟩

theorem lookup_eq_none_of_not_mem {frames : List NamedMethod} {method : MethodId}
    (new : method ∉ frames.map Prod.fst) : frames.lookup method = none := by
  rw [List.lookup_eq_none_iff]
  intro frame member
  rw [bne_iff_ne]
  rintro rfl
  exact new (List.mem_map.mpr ⟨frame, member, rfl⟩)

theorem name_in_append {front : List NamedMethod} {method : MethodId}
    (seen : method ∈ front.map Prod.fst) (back : List NamedMethod) :
    nameIn (front ++ back) method = nameIn front method := by
  obtain ⟨name, found⟩ := Option.isSome_iff_exists.mp (lookup_isSome_of_mem seen)
  rw [nameIn, nameIn, List.lookup_append, found, Option.some_or]

theorem name_in_concat_of_not_mem {frames : List NamedMethod} {method : MethodId}
    (new : method ∉ frames.map Prod.fst) (name : String) :
    nameIn (frames ++ [(method, name)]) method = name := by
  rw [nameIn, List.lookup_append, lookup_eq_none_of_not_mem new]
  simp

theorem of_named_append {front : List NamedMethod} {frame : NamedMethod}
    (seen : frame.1 ∈ front.map Prod.fst) (earlier back : List NamedMethod) :
    Frame.ofNamed (front ++ back) earlier frame = Frame.ofNamed front earlier frame := by
  rw [Frame.ofNamed, idxOf_methods_of_append seen, name_in_append seen]
  rfl

theorem frames_of_append (whole earlier front back : List NamedMethod) :
    framesOf whole earlier (front ++ back) =
      framesOf whole earlier front ++ framesOf whole (earlier ++ front) back := by
  induction front generalizing earlier with
  | nil => rw [List.append_nil]; rfl
  | cons frame front induction =>
      rw [List.cons_append, framesOf, induction, List.append_assoc, List.singleton_append]
      rfl

theorem frames_of_whole_append {frames whole : List NamedMethod}
    (seen : ∀ frame ∈ frames, frame.1 ∈ whole.map Prod.fst) (earlier back : List NamedMethod) :
    framesOf (whole ++ back) earlier frames = framesOf whole earlier frames := by
  induction frames generalizing earlier with
  | nil => rfl
  | cons frame frames induction =>
      rw [framesOf, framesOf, of_named_append (seen frame (by simp)),
        induction (fun later member => seen later (by simp [member]))]

theorem samples_of_append (whole earlier : List NamedMethod) (front back : List Stack) :
    samplesOf whole earlier (front ++ back) =
      samplesOf whole earlier front ++ samplesOf whole (earlier ++ namedFrames front) back := by
  induction front generalizing earlier with
  | nil => simp [samplesOf, namedFrames]
  | cons stack front induction =>
      rw [List.cons_append, samplesOf, induction, List.append_assoc]
      rfl

theorem samples_of_whole_append {stackList : List Stack} {whole : List NamedMethod}
    (seen : ∀ frame ∈ namedFrames stackList, frame.1 ∈ whole.map Prod.fst)
    (earlier back : List NamedMethod) :
    samplesOf (whole ++ back) earlier stackList = samplesOf whole earlier stackList := by
  induction stackList generalizing earlier with
  | nil => rfl
  | cons stack stackList induction =>
      have own : ∀ frame ∈ stack.frames, frame.1 ∈ whole.map Prod.fst := by
        intro frame member
        exact seen frame (List.mem_flatMap.mpr ⟨stack, by simp, member⟩)
      have later : ∀ frame ∈ namedFrames stackList, frame.1 ∈ whole.map Prod.fst := by
        intro frame member
        obtain ⟨other, listed, within⟩ := List.mem_flatMap.mp member
        exact seen frame (List.mem_flatMap.mpr ⟨other, by simp [listed], within⟩)
      rw [samplesOf, samplesOf, frames_of_whole_append own, induction later]

theorem flatMap_frames_samples_of (whole earlier : List NamedMethod) (stackList : List Stack) :
    (samplesOf whole earlier stackList).flatMap (·.frames) =
      framesOf whole earlier (namedFrames stackList) := by
  induction stackList generalizing earlier with
  | nil => rfl
  | cons stack stackList induction =>
      have frames : namedFrames (stack :: stackList) = stack.frames ++ namedFrames stackList :=
        List.flatMap_cons
      rw [samplesOf, List.flatMap_cons, induction, frames, frames_of_append]

/-- The frames of a batch do not depend on how they are spread over samples. -/
theorem frames_of_stacks (stackList : List Stack) :
    (Batch.ofStacks stackList).frames =
      framesOf (namedFrames stackList) [] (namedFrames stackList) :=
  flatMap_frames_samples_of ..

theorem length_frames_of (whole earlier frames : List NamedMethod) :
    (framesOf whole earlier frames).length = frames.length := by
  induction frames generalizing earlier with
  | nil => rfl
  | cons frame frames induction => rw [framesOf, List.length_cons, List.length_cons, induction]

theorem length_frames_of_stacks (stackList : List Stack) :
    (Batch.ofStacks stackList).frames.length = (namedFrames stackList).length := by
  rw [frames_of_stacks, length_frames_of]

theorem length_samples_of (whole earlier : List NamedMethod) (stackList : List Stack) :
    (samplesOf whole earlier stackList).length = stackList.length := by
  induction stackList generalizing earlier with
  | nil => rfl
  | cons stack stackList induction => rw [samplesOf, List.length_cons, List.length_cons, induction]

theorem mem_map_fst_of_mem {frames : List NamedMethod} :
    ∀ frame ∈ frames, frame.1 ∈ frames.map Prod.fst :=
  fun _ member => List.mem_map_of_mem member

theorem frames_of_concat (frames : List NamedMethod) (last : NamedMethod) :
    framesOf (frames ++ [last]) [] (frames ++ [last]) =
      framesOf frames [] frames ++ [.ofNamed (frames ++ [last]) frames last] := by
  rw [frames_of_append, frames_of_whole_append mem_map_fst_of_mem]
  rfl

theorem samples_of_stacks_append (front back : List Stack) :
    (Batch.ofStacks (front ++ back)).samples = (Batch.ofStacks front).samples ++
      samplesOf (namedFrames (front ++ back)) (namedFrames front) back := by
  simp only [Batch.ofStacks, named_frames_append, samples_of_append, List.nil_append]
  rw [samples_of_whole_append mem_map_fst_of_mem]

def Stack.addFrame (stack : Stack) (frame : NamedMethod) : Stack :=
  { stack with frames := stack.frames ++ [frame] }

theorem named_frames_add_frame (front : List Stack) (stack : Stack) (frame : NamedMethod) :
    namedFrames (front ++ [stack.addFrame frame]) = namedFrames (front ++ [stack]) ++ [frame] := by
  simp [namedFrames, Stack.addFrame]

def Sample.opened (sample : Sample) : List UInt8 :=
  sampleStart :: (BigEndian.bytes32 sample.thread ++ BigEndian.bytes32 sample.nativeId ++
    CountedText.encode sample.threadName ++ sample.frames.flatMap Frame.written)

theorem Sample.written_eq (sample : Sample) : sample.written = sample.opened ++ [0, 0] := by
  simp [Sample.written, Sample.opened]

def lastSample (front : List Stack) (stack : Stack) : Sample where
  thread := stack.thread.word.toUInt32
  nativeId := stack.identity.nativeId
  threadName := stack.identity.name
  frames := framesOf (namedFrames (front ++ [stack])) (namedFrames front) stack.frames

theorem samples_of_stacks_concat (front : List Stack) (stack : Stack) :
    (Batch.ofStacks (front ++ [stack])).samples =
      (Batch.ofStacks front).samples ++ [lastSample front stack] :=
  samples_of_stacks_append front [stack]

theorem written_of_stacks_concat (front : List Stack) (stack : Stack) :
    (Batch.ofStacks (front ++ [stack])).written =
      batchStart :: ((Batch.ofStacks front).samples.flatMap Sample.written ++
        (lastSample front stack).opened) ++ [0, 0, batchEnd] := by
  simp [Batch.written, samples_of_stacks_concat, Sample.written_eq]

theorem opened_last_sample_new (front : List Stack) (thread : ThreadHandle)
    (identity : ThreadIdentity) :
    (lastSample front ⟨thread, identity, []⟩).opened = Writer.sampleHeader thread identity := by
  simp [lastSample, Sample.opened, framesOf, Writer.sampleHeader]

theorem frames_last_sample_add_frame (front : List Stack) (stack : Stack) (frame : NamedMethod) :
    (lastSample front (stack.addFrame frame)).frames = (lastSample front stack).frames ++
      [.ofNamed (namedFrames (front ++ [stack]) ++ [frame]) (namedFrames (front ++ [stack]))
        frame] := by
  have whole : namedFrames (front ++ [stack]) = namedFrames front ++ stack.frames := by
    simp [namedFrames]
  have seen : ∀ own ∈ stack.frames, own.1 ∈ (namedFrames (front ++ [stack])).map Prod.fst := by
    intro own member
    rw [whole]
    exact mem_map_fst_of_mem own (List.mem_append_right _ member)
  simp only [lastSample, named_frames_add_frame]
  rw [Stack.addFrame, frames_of_append, frames_of_whole_append seen, ← whole]
  rfl

theorem opened_last_sample_add_frame (front : List Stack) (stack : Stack) (frame : NamedMethod) :
    (lastSample front (stack.addFrame frame)).opened = (lastSample front stack).opened ++
      (Frame.ofNamed (namedFrames (front ++ [stack]) ++ [frame])
        (namedFrames (front ++ [stack])) frame).written := by
  rw [Sample.opened, frames_last_sample_add_frame]
  simp [Sample.opened, lastSample, Stack.addFrame]

/-- The names that a buffer defines are those of its methods, in the order of the codes. -/
theorem defined_names_frames_of (frames : List NamedMethod) :
    definedNames (framesOf frames [] frames) = (methodsOf frames).map (nameIn frames) := by
  induction frames using List.reverseRecOn with
  | nil => rfl
  | append_singleton frames last induction =>
      rw [frames_of_concat, defined_names_append, induction]
      have kept : (methodsOf frames).map (nameIn (frames ++ [last])) =
          (methodsOf frames).map (nameIn frames) := by
        apply List.map_congr_left
        intro method member
        exact name_in_append (mem_methods_of.mp member) [last]
      by_cases seen : last.1 ∈ frames.map Prod.fst
      · rw [methods_of_concat_of_mem seen, kept]
        simp [definedNames, definitions, Frame.ofNamed, seen]
      · rw [methods_of_concat_of_not_mem seen, List.map_append, kept]
        simp [definedNames, definitions, Frame.ofNamed, seen]

end StackSampler.Wire
