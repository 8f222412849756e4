import StackSampler.Proofs.Wire.Grammar
import StackSampler.Proofs.Wire.Longest

/-!
# Writing back what was read

A batch that was read tells stacks again, with its codes for methods. The batch that tells these
stacks is the same one, because a reader accepts codes only in the order in which a writer gives
them. A writer whose capacity is the length of the buffer therefore writes every record of it and
ends with the very bytes that were read: the room it keeps back is never too much.
-/

namespace StackSampler.Wire

def Frame.method (frame : Frame) : MethodId := ⟨frame.code.toUInt64⟩

def Frame.named (frame : Frame) : NamedMethod := (frame.method, frame.name)

def Sample.stack (sample : Sample) : Stack where
  thread := ⟨sample.thread.toUInt64⟩
  identity := ⟨sample.nativeId, sample.threadName⟩
  frames := sample.frames.map Frame.named

def Batch.stacks (batch : Batch) : List Stack := batch.samples.map Sample.stack

theorem method_inj {frame other : Frame} :
    frame.method = other.method ↔ frame.code = other.code := by
  rw [Frame.method, Frame.method, MethodId.mk.injEq, UInt16.toUInt64_inj]

theorem fst_named (frames : List Frame) :
    (frames.map Frame.named).map Prod.fst = frames.map Frame.method := by
  rw [List.map_map]
  rfl

theorem Coherent.code_le_of_defines {frames : List Frame} (coherent : Coherent frames)
    {frame : Frame} (member : frame ∈ frames) (defines : frame.defines = true) :
    frame.code.toNat ≤ (definitions frames).length := by
  have listed : frame ∈ definitions frames := List.mem_filter.mpr ⟨member, defines⟩
  obtain ⟨position, found⟩ := List.mem_iff_getElem?.mp listed
  have bound := (List.getElem?_eq_some_iff.mp found).1
  have number := (coherent.numbered position frame found).1
  omega

theorem Coherent.code_le {frames : List Frame} (coherent : Coherent frames) {frame : Frame}
    (member : frame ∈ frames) : frame.code.toNat ≤ (definitions frames).length := by
  cases defines : frame.defines with
  | true => exact coherent.code_le_of_defines member defines
  | false =>
      obtain ⟨front, back, split⟩ := List.append_of_mem member
      obtain ⟨-, -, definition, earlier, defining, code, -⟩ :=
        coherent.repeated front frame back split defines
      rw [← code]
      apply coherent.code_le_of_defines _ defining
      rw [split]
      exact List.mem_append_left _ earlier

section Concat

variable {frames : List Frame} {last : Frame} (coherent : Coherent (frames ++ [last]))
include coherent

theorem Coherent.coded_after_last : CodedAfter (definedNames frames) [last] :=
  (coherent_snoc frames last coherent.of_append).mp coherent

/-- Behind coherent frames a method is new exactly where a frame defines its code. -/
theorem Coherent.mem_map_method_iff :
    last.method ∈ frames.map Frame.method ↔ last.defines = false := by
  constructor
  · intro seen
    obtain ⟨earlier, member, same⟩ := List.mem_map.mp seen
    have small := coherent.of_append.code_le member
    rw [method_inj.mp same] at small
    have next := coherent.coded_after_last
    obtain ⟨code, name, defines⟩ := last
    cases defines with
    | false => rfl
    | true =>
        have large := next.1
        rw [definedNames, List.length_map] at large
        dsimp only at small
        omega
  · intro references
    obtain ⟨-, -, definition, member, -, code, -⟩ :=
      coherent.repeated frames last [] rfl references
    exact List.mem_map.mpr ⟨definition, member, method_inj.mpr code⟩

end Concat

/-- The methods of coherent frames are those of their definitions. -/
theorem Coherent.methods_of_named {frames : List Frame} (coherent : Coherent frames) :
    methodsOf (frames.map Frame.named) = (definitions frames).map Frame.method := by
  induction frames using List.reverseRecOn with
  | nil => rfl
  | append_singleton frames last induction =>
      have earlier := induction coherent.of_append
      have seen := coherent.mem_map_method_iff
      rw [← fst_named] at seen
      rw [List.map_append, definitions_append, List.map_append, ← earlier]
      cases defines : last.defines with
      | true =>
          rw [defines] at seen
          rw [List.map_singleton, methods_of_concat_of_not_mem (mt seen.mp (by simp))]
          simp [definitions, defines, Frame.named]
      | false =>
          rw [List.map_singleton, methods_of_concat_of_mem (seen.mpr defines)]
          simp [definitions, defines]

theorem Coherent.idxOf_methods_of {frames : List Frame} (coherent : Coherent frames) {frame : Frame}
    (member : frame ∈ frames) :
    (methodsOf (frames.map Frame.named)).idxOf frame.method + 1 = frame.code.toNat := by
  have seen : frame.method ∈ methodsOf (frames.map Frame.named) := by
    rw [mem_methods_of, fst_named]
    exact List.mem_map_of_mem member
  have found := List.getElem?_idxOf seen
  rw [coherent.methods_of_named] at found ⊢
  rw [List.getElem?_map] at found
  obtain ⟨definition, listed, same⟩ := Option.map_eq_some_iff.mp found
  rw [← method_inj.mp same]
  exact (coherent.numbered _ _ listed).1.symm

/-- The name under which a frame was read is the one that came with its method first. -/
theorem Coherent.name_in_last {frames : List Frame} {last : Frame}
    (coherent : Coherent (frames ++ [last]))
    (same : framesOf (frames.map Frame.named) [] (frames.map Frame.named) = frames) :
    nameIn (frames.map Frame.named ++ [last.named]) last.method = last.name := by
  have seen := coherent.mem_map_method_iff
  rw [← fst_named] at seen
  cases defines : last.defines with
  | true =>
      rw [defines] at seen
      exact name_in_concat_of_not_mem (mt seen.mp (by simp)) last.name
  | false =>
      rw [name_in_append (seen.mpr defines)]
      have next := coherent.coded_after_last
      -- The names defined so far are those of the methods so far.
      rw [← same, defined_names_frames_of, coherent.of_append.methods_of_named] at next
      obtain ⟨code, name, flag⟩ := last
      cases defines
      obtain ⟨positive, -, found, -⟩ := next
      rw [List.getElem?_map, List.getElem?_map, Option.map_map] at found
      obtain ⟨definition, listed, named⟩ := Option.map_eq_some_iff.mp found
      have number := (coherent.of_append.numbered _ _ listed).1
      have sameCode : definition.code = code := by
        apply UInt16.toNat_inj.mp
        omega
      have sameMethod : definition.method = Frame.method ⟨code, name, false⟩ :=
        method_inj.mpr sameCode
      rw [← sameMethod]
      exact named

/-- What the last of coherent frames tells is that frame again. -/
theorem Coherent.of_named_last {frames : List Frame} {last : Frame}
    (coherent : Coherent (frames ++ [last]))
    (same : framesOf (frames.map Frame.named) [] (frames.map Frame.named) = frames) :
    Frame.ofNamed (frames.map Frame.named ++ [last.named]) (frames.map Frame.named) last.named =
      last := by
  have rank :=
    coherent.idxOf_methods_of (List.mem_append_right frames (List.mem_singleton_self last))
  have name := coherent.name_in_last same
  have seen := coherent.mem_map_method_iff
  rw [List.map_append, List.map_singleton] at rank
  rw [← fst_named] at seen
  have defines : decide (last.method ∉ (frames.map Frame.named).map Prod.fst) = last.defines := by
    by_cases again : last.defines = false
    · rw [decide_eq_false (not_not_intro (seen.mpr again)), again]
    · rw [decide_eq_true (mt seen.mp again), Bool.of_not_eq_false again]
  have code :
      UInt16.ofNat ((methodsOf (frames.map Frame.named ++ [last.named])).idxOf last.method + 1) =
        last.code := by
    rw [rank, UInt16.ofNat_toNat]
  obtain ⟨⟩ := last
  exact congr (congr (congrArg Frame.mk code) name) defines

theorem Coherent.frames_of_named {frames : List Frame} (coherent : Coherent frames) :
    framesOf (frames.map Frame.named) [] (frames.map Frame.named) = frames := by
  induction frames using List.reverseRecOn with
  | nil => rfl
  | append_singleton frames last induction =>
      have earlier := induction coherent.of_append
      rw [List.map_append, List.map_singleton, frames_of_concat, earlier,
        coherent.of_named_last earlier]

theorem named_frames_stacks (samples : List Sample) :
    namedFrames (samples.map Sample.stack) = (samples.flatMap (·.frames)).map Frame.named := by
  rw [namedFrames, List.flatMap_map, List.map_flatMap]
  rfl

/-- Frames that are the right ones in order are the right ones in each sample. -/
theorem samples_of_stacks {whole earlier : List NamedMethod} {samples : List Sample}
    (same : framesOf whole earlier (namedFrames (samples.map Sample.stack)) =
      samples.flatMap (·.frames)) :
    samplesOf whole earlier (samples.map Sample.stack) = samples := by
  induction samples generalizing earlier with
  | nil => rfl
  | cons sample samples induction =>
      have named : namedFrames ((sample :: samples).map Sample.stack) =
          sample.frames.map Frame.named ++ namedFrames (samples.map Sample.stack) :=
        List.flatMap_cons
      rw [named, frames_of_append, List.flatMap_cons] at same
      have length : (framesOf whole earlier (sample.frames.map Frame.named)).length =
          sample.frames.length := by
        rw [length_frames_of, List.length_map]
      obtain ⟨own, later⟩ := List.append_inj same length
      rw [List.map_cons, samplesOf]
      have rest := induction later
      change Sample.mk sample.thread.toUInt64.toUInt32 sample.nativeId sample.threadName
        (framesOf whole earlier (sample.frames.map Frame.named)) :: _ = _
      rw [own, UInt32.toUInt32_toUInt64]
      exact congrArg _ rest

/-- A batch that keeps the rules of a buffer is the one that tells its own stacks. -/
theorem Batch.of_stacks_stacks {batch : Batch} (coherent : Coherent batch.frames) :
    Batch.ofStacks batch.stacks = batch := by
  have same := coherent.frames_of_named
  rw [Batch.ofStacks, Batch.stacks, named_frames_stacks, ← Batch.frames]
  rw [samples_of_stacks]
  rw [named_frames_stacks]
  exact same

theorem foldl_tell_calls_of (told stackList : List Stack) :
    (callsOf stackList).foldl tell told = told ++ stackList := by
  induction stackList generalizing told with
  | nil => exact (List.append_nil told).symm
  | cons stack stackList induction =>
      have frames := foldl_tell_frames told ⟨stack.thread, stack.identity, []⟩ stack.frames
      rw [callsOf, List.flatMap_cons, List.foldl_append, ← callsOf, induction, Stack.calls,
        List.foldl_cons, List.foldl_append]
      change (List.map Call.ofFrame stack.frames).foldl tell _ ++ stackList = _
      rw [tell, frames]
      simp

theorem Writer.wrote_of_written_eq {writer : Writer} {front back : List Call} {call : Call}
    (all : writer.written (front ++ call :: back) = front ++ call :: back) :
    (writer.run front).wrote call = true := by
  rw [Writer.written_append] at all
  have first := (writer.written_sublist front).length_le
  have later := (((writer.run front).after call).written_sublist back).length_le
  have lengths := congrArg List.length all
  rw [List.length_append, List.length_append, List.length_cons, Writer.written] at lengths
  cases wrote : (writer.run front).wrote call with
  | true => rfl
  | false =>
      rw [if_neg (by simp [wrote])] at lengths
      omega

/-- A whole batch that fits is written, and then the buffer was never full. -/
theorem written_batch_calls_of_fits_in {capacity : Nat} {stackList : List Stack}
    (fits : FitsIn (max capacity Writer.minCapacity) stackList) :
    let start := Writer.ofCapacity capacity
    start.written (batchCalls stackList) = batchCalls stackList ∧
      (start.run (batchCalls stackList)).truncated = false ∧
      (start.run (batchCalls stackList)).finish = (Batch.ofStacks stackList).written := by
  intro start
  obtain ⟨front, back, split, cut⟩ := exists_cut_at_batch capacity stackList
  have told : (front ++ back).foldl tell [] = stackList := by
    rw [← split, List.foldl_append, foldl_tell_calls_of]
    rfl
  have nothingBehind : back = [] := by
    rcases cut.refused with done | ⟨call, rest, rfl, -, -, -, unfit⟩
    · exact done
    · refine absurd ?_ unfit
      rw [List.append_cons, List.foldl_append] at told
      rw [capacity_open_batch]
      rw [← told] at fits
      exact fits.of_foldl_tell
  subst nothingBehind
  rw [List.append_nil] at split told
  have ran : start.run (batchCalls stackList) = start.openBatch.run front := by
    rw [← split]
    rfl
  refine ⟨?_, ?_, ?_⟩
  · rw [batchCalls, written_batch_calls, split, cut.written]
  · rw [ran, cut.roomy]
  · rw [ran, cut.holds.finish_eq, told]

/-- A buffer that was read is written again, byte for byte, by a writer that has room for just its
length, unless it defines more names than there are codes to write. No record is refused. -/
theorem rewriting_gives_back {bytes : List UInt8} {batch : Batch}
    (read : decode bytes = .ok batch)
    (codes : (definitions batch.frames).length ≤ Writer.maxCode) :
    let start := Writer.ofCapacity bytes.length
    let calls := batchCalls batch.stacks
    start.Unnested calls ∧
      (∀ front method name back, calls = front ++ .addFrame method name :: back →
        ((start.run front).addFrame method name).1 = true) ∧
      (start.run calls).truncated = false ∧
      (start.run calls).refused = 0 ∧
      (start.run calls).finish = bytes := by
  intro start calls
  obtain ⟨coded, written⟩ := written_of_decode read
  have coherent := (coded_after_nil_iff_coherent batch.frames).mp coded.2
  have same := Batch.of_stacks_stacks coherent
  have fits : FitsIn (max bytes.length Writer.minCapacity) batch.stacks := by
    constructor
    · rw [same, ← written]
      exact Nat.le_max_left ..
    · rw [Batch.stacks, named_frames_stacks, ← Batch.frames, coherent.methods_of_named,
        List.length_map]
      exact codes
  obtain ⟨all, roomy, finished⟩ := written_batch_calls_of_fits_in fits
  refine ⟨unnested_batch_calls _ _, ?_, roomy, Writer.refused_run_of_capacity roomy, ?_⟩
  · intro front method name back split
    change start.written calls = calls at all
    rw [split] at all
    exact Writer.wrote_of_written_eq all
  · rw [finished, same, written]

def sharingBatch : Batch :=
  ⟨[⟨7, 42, "T1", [⟨1, "A::f", true⟩, ⟨1, "A::f", false⟩]⟩,
    ⟨2, 0, "", [⟨2, "B", true⟩, ⟨1, "A::f", false⟩]⟩]⟩

theorem rewriting_gives_back_sharing_batch :
    decode sharingBatch.written = .ok sharingBatch ∧
      (definitions sharingBatch.frames).length ≤ Writer.maxCode ∧
      ((Writer.ofCapacity sharingBatch.written.length).run
        (batchCalls sharingBatch.stacks)).finish = sharingBatch.written := by
  have coded : sharingBatch.WellCoded := by
    refine ⟨?_, ?_⟩ <;> simp [sharingBatch, Batch.frames, CodedAfter, CountedText.Fits] <;> decide
  have read := decode_written coded
  have codes : (definitions sharingBatch.frames).length ≤ Writer.maxCode := by decide
  exact ⟨read, codes, (rewriting_gives_back read codes).2.2.2.2⟩

end StackSampler.Wire
