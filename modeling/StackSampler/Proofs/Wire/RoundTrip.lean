import StackSampler.Proofs.Wire.Effects
import StackSampler.Proofs.Wire.Grammar
import StackSampler.Proofs.Wire.Ranks

/-!
# Writing and reading back

Through any run of a writer, its buffer and what its phase still lacks are together the written
form of the batch that tells the records written so far. Reading the finished buffer therefore
gives that batch, wherever the buffer was cut. The writer's code table and the reader's list of
names stay in step, since both follow the ranks of the methods.
-/

namespace StackSampler.Wire

/-- What a written call adds to the stacks told so far: a sample opens a stack, and a frame goes
into the stack that was opened last. -/
def tell (stackList : List Stack) : Call → List Stack
  | .openSample thread identity => stackList ++ [⟨thread, identity, []⟩]
  | .addFrame method name => stackList.modifyLast (·.addFrame (method, name))
  | _ => stackList

def stacksOf (calls : List Call) : List Stack := calls.foldl tell []

def Call.sample? : Call → Option (ThreadHandle × ThreadIdentity)
  | .openSample thread identity => some (thread, identity)
  | _ => none

def Call.frame? : Call → Option NamedMethod
  | .addFrame method name => some (method, name)
  | _ => none

theorem tell_add_frame (front : List Stack) (stack : Stack) (method : MethodId) (name : String) :
    tell (front ++ [stack]) (.addFrame method name) = front ++ [stack.addFrame (method, name)] :=
  List.modifyLast_concat ..

theorem map_start_tell (stackList : List Stack) (call : Call) :
    (tell stackList call).map (fun stack => (stack.thread, stack.identity)) =
      stackList.map (fun stack => (stack.thread, stack.identity)) ++ call.sample?.toList := by
  cases call with
  | openSample thread identity => simp [tell, Call.sample?]
  | addFrame method name =>
      rcases List.eq_nil_or_concat' stackList with rfl | ⟨front, stack, rfl⟩
      · rfl
      · rw [tell_add_frame]
        simp [Call.sample?, Stack.addFrame]
  | _ => exact (List.append_nil _).symm

/-- What the buffer of a writer holds once some stacks are told. -/
structure Holds (writer : Writer) (stackList : List Stack) : Prop where
  bytes : writer.bytes.toList ++ writer.phase.closing = (Batch.ofStacks stackList).written
  opened : writer.phase = .inSample → stackList ≠ []
  ranks : Ranks writer.codes (namedFrames stackList)

theorem Holds.exists_last {writer : Writer} {stackList : List Stack}
    (holds : Holds writer stackList) (inside : writer.phase = .inSample) :
    ∃ front stack, stackList = front ++ [stack] :=
  (List.eq_nil_or_concat' stackList).resolve_left (holds.opened inside)

theorem Holds.of_same_buffer {writer other : Writer} {stackList : List Stack}
    (holds : Holds other stackList) (same : writer.SameBuffer other) : Holds writer stackList where
  bytes := by rw [same.bytes, same.phase, holds.bytes]
  opened := by rw [same.phase]; exact holds.opened
  ranks := by rw [same.codes]; exact holds.ranks

theorem open_batch_of_capacity (capacity : Nat) : (Writer.ofCapacity capacity).openBatch =
    (Writer.ofCapacity capacity).put [batchStart] := by
  have admitted : (Writer.ofCapacity capacity).admits [batchStart].length = true := by
    rw [Writer.admits_iff]
    exact ⟨rfl, Nat.le_max_right ..⟩
  have unfinished : (Writer.ofCapacity capacity).phase ≠ .finished := nofun
  rw [Writer.openBatch, Writer.append, if_neg unfinished, if_pos admitted]

theorem holds_open_batch (capacity : Nat) : Holds (Writer.ofCapacity capacity).openBatch [] := by
  rw [open_batch_of_capacity]
  constructor
  · rfl
  · intro inSample
    cases inSample
  · exact ranks_empty

theorem Holds.finish_eq {writer : Writer} {stackList : List Stack}
    (holds : Holds writer stackList) : writer.finish = (Batch.ofStacks stackList).written := by
  rw [Writer.finish_eq, holds.bytes]

theorem length_finish_open_batch (capacity : Nat) :
    (Writer.ofCapacity capacity).openBatch.finish.length = 2 := by
  rw [(holds_open_batch capacity).finish_eq]
  rfl

theorem named_frames_opened (stackList : List Stack) (thread : ThreadHandle)
    (identity : ThreadIdentity) :
    namedFrames (stackList ++ [⟨thread, identity, []⟩]) = namedFrames stackList := by
  simp [namedFrames]

theorem Holds.holds_open_sample {writer : Writer} {stackList : List Stack}
    (holds : Holds writer stackList) (between : writer.phase = .betweenSamples)
    (thread : ThreadHandle) (identity : ThreadIdentity) :
    Holds { writer.put (Writer.sampleHeader thread identity) with phase := .inSample }
      (stackList ++ [⟨thread, identity, []⟩]) := by
  have before : writer.bytes.toList =
      batchStart :: (Batch.ofStacks stackList).samples.flatMap Sample.written := by
    have whole := holds.bytes
    rw [between] at whole
    exact List.append_cancel_right (by rw [whole]; rfl)
  constructor
  · rw [written_of_stacks_concat, opened_last_sample_new]
    simp [Phase.closing, before]
  · intro _ none
    simp at none
  · rw [named_frames_opened]
    exact holds.ranks

/-- The bytes of a written frame continue the open sample. -/
theorem Holds.bytes_add_frame {writer : Writer} {front : List Stack} {stack : Stack}
    (holds : Holds writer (front ++ [stack])) (inside : writer.phase = .inSample)
    (frame : NamedMethod) :
    writer.bytes.toList ++ (Frame.ofNamed (namedFrames (front ++ [stack]) ++ [frame])
        (namedFrames (front ++ [stack])) frame).written ++ Phase.inSample.closing =
      (Batch.ofStacks (front ++ [stack.addFrame frame])).written := by
  have before : writer.bytes.toList =
      batchStart :: ((Batch.ofStacks front).samples.flatMap Sample.written ++
        (lastSample front stack).opened) := by
    have whole := holds.bytes
    rw [inside, written_of_stacks_concat] at whole
    exact List.append_cancel_right whole
  rw [before, written_of_stacks_concat, opened_last_sample_add_frame]
  simp [Phase.closing]

theorem Holds.holds_put_reference {writer : Writer} {front : List Stack} {stack : Stack}
    (holds : Holds writer (front ++ [stack])) (inside : writer.phase = .inSample)
    {method : MethodId} {code : Nat} (found : writer.codes[method]? = some code) (name : String) :
    Holds (writer.put (Writer.reference code)) (front ++ [stack.addFrame (method, name)]) := by
  have written := holds.bytes_add_frame inside (method, name)
  rw [holds.ranks.of_named_of_found found name] at written
  constructor
  · rw [Writer.toList_put, ← written]
    exact congrArg _ (congrArg _ inside)
  · intro _ none
    simp at none
  · rw [named_frames_add_frame]
    exact holds.ranks.ranks_of_known found name

theorem Holds.holds_put_definition {writer : Writer} {front : List Stack} {stack : Stack}
    (holds : Holds writer (front ++ [stack])) (inside : writer.phase = .inSample)
    {method : MethodId} (absent : writer.codes[method]? = none)
    (codeLeft : writer.methodCount + 1 ≤ Writer.maxCode) (name : String) :
    Holds { writer.put (Writer.definition (writer.methodCount + 1) name) with
        codes := writer.codes.insert method (writer.methodCount + 1) }
      (front ++ [stack.addFrame (method, name)]) := by
  have written := holds.bytes_add_frame inside (method, name)
  rw [holds.ranks.of_named_of_absent absent name] at written
  constructor
  · rw [← written]
    change (writer.put _).bytes.toList ++ _ = _
    rw [Writer.toList_put]
    exact congrArg _ (congrArg _ inside)
  · intro _ none
    simp at none
  · rw [named_frames_add_frame]
    exact holds.ranks.ranks_insert_next absent codeLeft name

theorem Holds.holds_close_sample {writer : Writer} {stackList : List Stack}
    (holds : Holds writer stackList) : Holds writer.closeSample stackList := by
  unfold Writer.closeSample
  by_cases inside : writer.phase = .inSample
  · rw [if_pos inside]
    have written := holds.bytes
    rw [inside] at written
    refine ⟨?_, nofun, holds.ranks⟩
    rw [← written]
    change (writer.put [0, 0]).bytes.toList ++ [batchEnd] = _
    rw [Writer.toList_put, List.append_assoc]
    rfl
  · rw [if_neg inside]
    exact holds

theorem Holds.holds_close_batch {writer : Writer} {stackList : List Stack}
    (holds : Holds writer stackList) : Holds writer.closeBatch stackList := by
  have closed := holds.holds_close_sample
  unfold Writer.closeBatch
  by_cases finished : writer.phase = .finished
  · rw [if_pos finished]
    exact holds
  · rw [if_neg finished]
    have between := Writer.phase_close_sample_of_unfinished finished
    have written := closed.bytes
    rw [between] at written
    refine ⟨?_, nofun, closed.ranks⟩
    rw [← written]
    change (writer.closeSample.put [batchEnd]).bytes.toList ++ [] = _
    rw [Writer.toList_put, List.append_nil]
    rfl

/-- What a writer holds of some stacks, and that a reader takes it. -/
structure Tells (writer : Writer) (stackList : List Stack) : Prop extends
    Holds writer stackList where
  coded : (Batch.ofStacks stackList).WellCoded

theorem Tells.of_same_buffer {writer other : Writer} {stackList : List Stack}
    (tells : Tells other stackList) (same : writer.SameBuffer other) : Tells writer stackList :=
  ⟨tells.toHolds.of_same_buffer same, tells.coded⟩

theorem capacity_open_batch_lt {capacity : Nat} (small : capacity < UInt32.size) :
    (Writer.ofCapacity capacity).openBatch.capacity < UInt32.size := by
  rw [open_batch_of_capacity]
  exact Nat.max_lt.mpr ⟨small, by decide⟩

theorem tells_open_batch (capacity : Nat) : Tells (Writer.ofCapacity capacity).openBatch [] :=
  ⟨holds_open_batch capacity, by simp [Batch.ofStacks, samplesOf], trivial⟩

theorem Tells.decode_finish {writer : Writer} {stackList : List Stack}
    (tells : Tells writer stackList) : decode writer.finish = .ok (.ofStacks stackList) := by
  rw [tells.finish_eq]
  exact decode_written tells.coded

/-- A text that is written into a buffer of less than four gigabytes fits its length word. -/
theorem fits_of_has_room {writer : Writer} (small : writer.capacity < UInt32.size) {size : Nat}
    (room : writer.HasRoom size) {text : String} (within : CountedText.size text ≤ size) :
    CountedText.Fits text := by
  have bound := room.2
  unfold CountedText.size at within
  unfold CountedText.Fits
  unfold UInt32.size at small
  omega

theorem Tells.tells_open_sample {writer : Writer} {stackList : List Stack}
    (tells : Tells writer stackList) (small : writer.capacity < UInt32.size) {thread : ThreadHandle}
    {identity : ThreadIdentity} (between : writer.phase = .betweenSamples)
    (room : writer.HasRoom (Writer.sampleHeader thread identity).length) :
    Tells { writer.put (Writer.sampleHeader thread identity) with phase := .inSample }
      (stackList ++ [⟨thread, identity, []⟩]) := by
  have fits : CountedText.Fits identity.name := by
    apply fits_of_has_room small room
    simp [Writer.sampleHeader, CountedText.length_encode]
    omega
  refine ⟨tells.toHolds.holds_open_sample between thread identity, ?_, ?_⟩
  · intro sample member
    rw [samples_of_stacks_concat, List.mem_append, List.mem_singleton] at member
    rcases member with earlier | rfl
    · exact tells.coded.1 sample earlier
    · exact fits
  · rw [frames_of_stacks, named_frames_opened, ← frames_of_stacks]
    exact tells.coded.2

theorem Tells.coded_after_named_frames {writer : Writer} {stackList : List Stack}
    (tells : Tells writer stackList) :
    CodedAfter [] (framesOf (namedFrames stackList) [] (namedFrames stackList)) := by
  rw [← frames_of_stacks]
  exact tells.coded.2

theorem Tells.coded_add_frame {writer : Writer} {front : List Stack} {stack : Stack}
    (tells : Tells writer (front ++ [stack])) {frame : NamedMethod}
    (next : CodedAfter ((methodsOf (namedFrames (front ++ [stack]))).map
        (nameIn (namedFrames (front ++ [stack]))))
      [.ofNamed (namedFrames (front ++ [stack]) ++ [frame]) (namedFrames (front ++ [stack]))
        frame]) :
    (Batch.ofStacks (front ++ [stack.addFrame frame])).WellCoded := by
  constructor
  · intro sample member
    rw [samples_of_stacks_concat, List.mem_append, List.mem_singleton] at member
    have all := tells.coded.1
    rw [samples_of_stacks_concat] at all
    rcases member with earlier | rfl
    · exact all sample (List.mem_append_left _ earlier)
    · exact all (lastSample front stack) (by simp)
  · rw [frames_of_stacks, named_frames_add_frame, frames_of_concat, coded_after_append,
      defined_names_frames_of]
    exact ⟨tells.coded_after_named_frames, next⟩

theorem Tells.tells_put_reference {writer : Writer} {front : List Stack} {stack : Stack}
    (tells : Tells writer (front ++ [stack])) (inside : writer.phase = .inSample)
    {method : MethodId} {code : Nat} (found : writer.codes[method]? = some code) (name : String) :
    Tells (writer.put (Writer.reference code)) (front ++ [stack.addFrame (method, name)]) := by
  have ranks := tells.ranks
  obtain ⟨seen, rank⟩ := ranks.eq_of_found found
  obtain ⟨value, bounded⟩ := ranks.toNat_of_found found
  refine ⟨tells.toHolds.holds_put_reference inside found name, ?_⟩
  apply tells.coded_add_frame
  rw [ranks.of_named_of_found found name]
  -- The reader has the name at the place before the code.
  unfold Writer.maxCode at bounded
  refine ⟨by omega, by omega, ?_, trivial⟩
  rw [value, rank, Nat.add_sub_cancel, List.getElem?_map, List.getElem?_idxOf seen]
  rfl

theorem Tells.tells_put_definition {writer : Writer} {front : List Stack} {stack : Stack}
    (tells : Tells writer (front ++ [stack])) (inside : writer.phase = .inSample)
    {method : MethodId} (absent : writer.codes[method]? = none)
    (codeLeft : writer.methodCount + 1 ≤ Writer.maxCode) {name : String}
    (fits : CountedText.Fits name) :
    Tells { writer.put (Writer.definition (writer.methodCount + 1) name) with
        codes := writer.codes.insert method (writer.methodCount + 1) }
      (front ++ [stack.addFrame (method, name)]) := by
  have ranks := tells.ranks
  have next := ranks.ranks_insert_next absent codeLeft name
  have value : (UInt16.ofNat (writer.codes.size + 1)).toNat = writer.codes.size + 1 := by
    exact (next.toNat_of_found (Std.TreeMap.getElem?_insert_self ..)).1
  refine ⟨tells.toHolds.holds_put_definition inside absent codeLeft name, ?_⟩
  apply tells.coded_add_frame
  rw [ranks.of_named_of_absent absent name]
  -- The reader has as many names as the writer has codes.
  refine ⟨?_, ?_, fits, trivial⟩
  · rw [value, List.length_map, ranks.count]
  · rw [value]
    unfold Writer.maxCode Writer.methodCount at codeLeft
    omega

theorem Tells.tells_close_sample {writer : Writer} {stackList : List Stack}
    (tells : Tells writer stackList) : Tells writer.closeSample stackList :=
  ⟨tells.toHolds.holds_close_sample, tells.coded⟩

theorem Tells.tells_close_batch {writer : Writer} {stackList : List Stack}
    (tells : Tells writer stackList) : Tells writer.closeBatch stackList :=
  ⟨tells.toHolds.holds_close_batch, tells.coded⟩

theorem Tells.tells_after {writer : Writer} {stackList : List Stack}
    (tells : Tells writer stackList) (small : writer.capacity < UInt32.size) {call : Call}
    (permitted : writer.Permits call) (notOpening : call ≠ .openBatch) :
    Tells (writer.after call) (if writer.wrote call then tell stackList call else stackList) := by
  cases call with
  | openBatch => exact absurd rfl notOpening
  | openSample thread identity =>
      rcases writer.open_sample_cases thread identity permitted with
        ⟨opened, between, room⟩ | ⟨same, refused, unchanged, -⟩
      · -- The position moves, since a header is never empty.
        have moved : writer.wrote (.openSample thread identity) = true := by
          apply Writer.wrote_of_put
          · rw [Writer.after, opened]
          · simp [Writer.sampleHeader]
          · intro method name
            simp
        rw [if_pos moved, Writer.after, opened]
        exact tells.tells_open_sample small between room
      · have unmoved : ¬writer.wrote (.openSample thread identity) = true := by
          simp [Writer.wrote, Writer.after, refused, Writer.position, unchanged.bytes]
        rw [if_neg unmoved, Writer.after, refused]
        exact tells.of_same_buffer unchanged
  | addFrame method name =>
      rcases writer.add_frame_cases method name with
        ⟨code, found, inside, -, referred⟩ | ⟨absent, inside, codeLeft, room, defined⟩ |
          ⟨same, refused, unchanged, -⟩
      · obtain ⟨front, stack, rfl⟩ := tells.exists_last inside
        rw [Writer.wrote, Writer.after, referred, if_pos rfl, tell_add_frame]
        exact tells.tells_put_reference inside found name
      · obtain ⟨front, stack, rfl⟩ := tells.exists_last inside
        rw [Writer.wrote, Writer.after, defined, if_pos rfl, tell_add_frame]
        apply tells.tells_put_definition inside absent codeLeft
        apply fits_of_has_room small room
        rw [Writer.definition, List.length_append, CountedText.length_encode]
        omega
      · rw [Writer.wrote, Writer.after, refused, if_neg (by simp)]
        exact tells.of_same_buffer unchanged
  | closeSample =>
      simp only [tell, ite_self]
      exact tells.tells_close_sample
  | closeBatch =>
      simp only [tell, ite_self]
      exact tells.tells_close_batch

/-- A frame is written only into an open sample. -/
theorem Tells.named_frames_tell {writer : Writer} {stackList : List Stack}
    (tells : Tells writer stackList) {call : Call} (wrote : writer.wrote call = true) :
    namedFrames (tell stackList call) = namedFrames stackList ++ call.frame?.toList := by
  cases call with
  | openSample thread identity => simp [tell, Call.frame?, namedFrames]
  | addFrame method name =>
      have inside : writer.phase = .inSample := by
        by_contra outside
        rw [Writer.wrote, Writer.addFrame, if_pos outside] at wrote
        cases wrote
      obtain ⟨front, stack, rfl⟩ := tells.exists_last inside
      rw [tell_add_frame, named_frames_add_frame]
      rfl
  | _ => exact (List.append_nil _).symm

/-- What a run keeps, and the frames that it adds. -/
theorem Tells.tells_run {writer : Writer} {stackList : List Stack} (tells : Tells writer stackList)
    (small : writer.capacity < UInt32.size) {calls : List Call} (unnested : writer.Unnested calls)
    (notOpening : .openBatch ∉ calls) :
    Tells (writer.run calls) ((writer.written calls).foldl tell stackList) ∧
      namedFrames ((writer.written calls).foldl tell stackList) =
        namedFrames stackList ++ (writer.written calls).filterMap Call.frame? := by
  induction calls generalizing writer stackList with
  | nil => exact ⟨tells, (List.append_nil _).symm⟩
  | cons call calls induction =>
      obtain ⟨permitted, later⟩ := unnested
      rw [List.mem_cons, not_or] at notOpening
      have next := tells.tells_after small permitted (Ne.symm notOpening.1)
      have smallNext : (writer.after call).capacity < UInt32.size := by
        rw [Writer.capacity_after]
        exact small
      obtain ⟨kept, frames⟩ := induction next smallNext later notOpening.2
      rw [Writer.written]
      by_cases wrote : writer.wrote call = true
      · rw [if_pos wrote] at kept frames
        rw [if_pos wrote]
        refine ⟨kept, ?_⟩
        -- Later calls only add frames behind the one told now.
        rw [List.foldl_cons, frames, tells.named_frames_tell wrote, List.append_assoc]
        cases frame : call.frame? <;> simp [frame]
      · rw [if_neg wrote] at kept frames
        rw [if_neg wrote]
        exact ⟨kept, frames⟩

theorem map_start_stacks_of (calls : List Call) :
    (stacksOf calls).map (fun stack => (stack.thread, stack.identity)) =
      calls.filterMap Call.sample? := by
  induction calls using List.reverseRecOn with
  | nil => rfl
  | append_singleton calls call induction =>
      rw [stacksOf, List.foldl_append, List.foldl_cons, List.foldl_nil, map_start_tell,
        List.filterMap_append, ← induction]
      cases sample : call.sample? <;> simp [stacksOf, sample]

/-- Whatever is asked of a writer and wherever its buffer is cut, the finished buffer is read as
the batch of exactly those samples and frames that were written. -/
theorem decode_finish_run (capacity : Nat) (small : capacity < UInt32.size) (calls : List Call)
    (openedOnce : Call.openBatch ∉ calls)
    (unnested : (Writer.ofCapacity capacity).Unnested (.openBatch :: calls)) :
    let writer := (Writer.ofCapacity capacity).run (.openBatch :: calls)
    let written := (Writer.ofCapacity capacity).written (.openBatch :: calls)
    decode writer.finish = .ok (.ofStacks (stacksOf written)) ∧
      (stacksOf written).map (fun stack => (stack.thread, stack.identity)) =
        written.filterMap Call.sample? ∧
      namedFrames (stacksOf written) = written.filterMap Call.frame? ∧
      writer.methodCount = (methodsOf (written.filterMap Call.frame?)).length ∧
      writer.methodCount ≤ Writer.maxCode := by
  intro writer written
  obtain ⟨tells, frames⟩ :=
    (tells_open_batch capacity).tells_run (capacity_open_batch_lt small) unnested.2 openedOnce
  have told : stacksOf written =
      ((Writer.ofCapacity capacity).openBatch.written calls).foldl tell [] := by
    change stacksOf (if _ then _ else _) = _
    split <;> rfl
  have named : namedFrames (stacksOf written) = written.filterMap Call.frame? := by
    rw [told, frames]
    change _ = List.filterMap _ (if _ then _ else _)
    split <;> rfl
  refine ⟨?_, map_start_stacks_of written, named, ?_, tells.ranks.bounded⟩
  · have ran : writer = (Writer.ofCapacity capacity).openBatch.run calls := rfl
    rw [ran, told]
    exact tells.decode_finish
  · rw [← named, told]
    exact tells.ranks.count

/-- A run with a frame outside samples, a method renamed on its way, a sample that is never closed,
and a frame that no longer fits 64 bytes. -/
def overflowingCalls : List Call :=
  [.addFrame ⟨1⟩ "outside", .openSample ⟨0x100000007⟩ ⟨42, "T1"⟩, .addFrame ⟨10⟩ "A::f",
    .addFrame ⟨10⟩ "renamed", .closeSample, .openSample ⟨2⟩ {}, .addFrame ⟨20⟩ "B",
    .addFrame ⟨30⟩ "does not fit", .addFrame ⟨20⟩ "B"]

theorem decode_overflowing_calls :
    64 < UInt32.size ∧ Call.openBatch ∉ overflowingCalls ∧
      (Writer.ofCapacity 64).Unnested (.openBatch :: overflowingCalls) ∧
      decode ((Writer.ofCapacity 64).run (.openBatch :: overflowingCalls)).finish =
        .ok ⟨[⟨7, 42, "T1", [⟨1, "A::f", true⟩, ⟨1, "A::f", false⟩]⟩,
          ⟨2, 0, "", [⟨2, "B", true⟩]⟩]⟩ := by
  refine ⟨by decide, by decide, by decide, ?_⟩
  have read := (decode_finish_run 64 (by decide) overflowingCalls (by decide) (by decide)).1
  exact read.trans (congrArg Except.ok (by decide +kernel))

end StackSampler.Wire
