import StackSampler.Proofs.Wire.Room
import StackSampler.Proofs.Wire.Truncation

/-!
# What a full buffer keeps

A writer decides on each record by itself, with the room and the codes that are left at that moment.
What it keeps of the records of a batch is nevertheless described without it: the longest first part
of them whose closed buffer fits the capacity and whose methods do not outnumber the codes. Hence a
larger buffer never keeps less.
-/

namespace StackSampler.Wire

def batchCalls (stackList : List Stack) : List Call :=
  .openBatch :: (callsOf stackList ++ [.closeBatch])

/-- Whether the closed buffer of some stacks fits a capacity and there are codes for their
methods. -/
structure FitsIn (capacity : Nat) (stackList : List Stack) : Prop where
  bytes : (Batch.ofStacks stackList).written.length ≤ capacity
  codes : (methodsOf (namedFrames stackList)).length ≤ Writer.maxCode

/-- Whether some records are the longest first part of the requested ones that fits a capacity. -/
structure LongestFitting (capacity : Nat) (kept requested : List Call) : Prop where
  first : kept <+: requested
  fits : FitsIn capacity (stacksOf kept)
  longest : ∀ other, other <+: requested → FitsIn capacity (stacksOf other) → other <+: kept

theorem length_written_opened (stackList : List Stack) (thread : ThreadHandle)
    (identity : ThreadIdentity) :
    (Batch.ofStacks stackList).written.length ≤
      (Batch.ofStacks (stackList ++ [⟨thread, identity, []⟩])).written.length := by
  simp [Batch.written, samples_of_stacks_concat]

theorem length_written_add_frame (front : List Stack) (stack : Stack) (frame : NamedMethod) :
    (Batch.ofStacks (front ++ [stack])).written.length ≤
      (Batch.ofStacks (front ++ [stack.addFrame frame])).written.length := by
  simp only [written_of_stacks_concat, opened_last_sample_add_frame, List.length_append,
    List.length_cons]
  omega

theorem length_methods_of_concat (frames : List NamedMethod) (frame : NamedMethod) :
    (methodsOf frames).length ≤ (methodsOf (frames ++ [frame])).length := by
  rw [methodsOf, methodsOf, List.map_append]
  exact (eraseDups_prefix_append _ _).length_le

theorem FitsIn.of_tell {capacity : Nat} {stackList : List Stack} {call : Call}
    (fits : FitsIn capacity (tell stackList call)) : FitsIn capacity stackList := by
  cases call with
  | openSample thread identity =>
      refine ⟨Nat.le_trans (length_written_opened stackList thread identity) fits.bytes, ?_⟩
      have codes := fits.codes
      rw [tell, named_frames_opened] at codes
      exact codes
  | addFrame method name =>
      rcases List.eq_nil_or_concat' stackList with rfl | ⟨front, stack, rfl⟩
      · exact fits
      · rw [tell_add_frame] at fits
        refine ⟨Nat.le_trans (length_written_add_frame front stack (method, name)) fits.bytes, ?_⟩
        have codes := fits.codes
        rw [named_frames_add_frame] at codes
        exact Nat.le_trans (length_methods_of_concat ..) codes
  | _ => exact fits

theorem FitsIn.of_foldl_tell {capacity : Nat} {stackList : List Stack} {calls : List Call}
    (fits : FitsIn capacity (calls.foldl tell stackList)) : FitsIn capacity stackList := by
  induction calls generalizing stackList with
  | nil => exact fits
  | cons call calls induction => exact (induction fits).of_tell

theorem FitsIn.of_prefix {capacity : Nat} {part whole : List Call}
    (fits : FitsIn capacity (stacksOf whole)) (first : part <+: whole) :
    FitsIn capacity (stacksOf part) := by
  obtain ⟨rest, rfl⟩ := first
  rw [stacksOf, List.foldl_append] at fits
  exact fits.of_foldl_tell

theorem FitsIn.mono {capacity larger : Nat} {stackList : List Stack}
    (fits : FitsIn capacity stackList) (le : capacity ≤ larger) : FitsIn larger stackList :=
  ⟨Nat.le_trans fits.bytes le, fits.codes⟩

/-- The phase behind a call that may come in a phase: samples are opened and closed in turn, and
frames come inside. -/
def Phase.next? : Phase → Call → Option Phase
  | .betweenSamples, .openSample _ _ => some .inSample
  | .inSample, .addFrame _ _ => some .inSample
  | .inSample, .closeSample => some .betweenSamples
  | .betweenSamples, .closeBatch => some .finished
  | _, _ => none

theorem foldlM_next_frames (frames : List NamedMethod) :
    (frames.map Call.ofFrame).foldlM Phase.next? .inSample = some .inSample := by
  induction frames with
  | nil => rfl
  | cons frame frames induction => exact induction

theorem foldlM_next_calls (stack : Stack) :
    stack.calls.foldlM Phase.next? .betweenSamples = some .betweenSamples := by
  change (stack.frames.map Call.ofFrame ++ [Call.closeSample]).foldlM Phase.next? .inSample = _
  rw [List.foldlM_append, foldlM_next_frames]
  rfl

theorem foldlM_next_calls_of (stackList : List Stack) :
    (callsOf stackList ++ [Call.closeBatch]).foldlM Phase.next? .betweenSamples =
      some .finished := by
  induction stackList with
  | nil => rfl
  | cons stack stackList induction =>
      rw [callsOf, List.flatMap_cons, List.append_assoc, List.foldlM_append, foldlM_next_calls]
      exact induction

theorem Holds.length_written {writer : Writer} {told : List Stack} (holds : Holds writer told) :
    (Batch.ofStacks told).written.length = writer.position + writer.phase.closing.length := by
  rw [← holds.bytes, List.length_append, Array.length_toList]
  rfl

/-- The closed buffer behind a record is what a writer compares with its capacity. -/
theorem Holds.has_room_of_fits_in {writer next : Writer} {told : List Stack} {record : List UInt8}
    (holds : Holds next told) (bytes : next.bytes = (writer.put record).bytes)
    (inside : next.phase = .inSample) (roomy : writer.truncated = false)
    (fits : FitsIn writer.capacity told) : writer.HasRoom record.length := by
  have moved : next.position = writer.position + record.length := by
    rw [Writer.position, bytes, ← Writer.position, Writer.position_put]
  have needed := fits.bytes
  rw [holds.length_written, moved, inside] at needed
  exact ⟨roomy, needed⟩

/-- What a call within brackets comes to at a writer that was never full: it is written, or it is a
record that does not fit and is refused. -/
def Settled (writer : Writer) (told : List Stack) (call : Call) (phase : Phase) : Prop :=
  (writer.wrote call = true ∧ Holds (writer.after call) (tell told call) ∧
      (writer.after call).truncated = false ∧ (writer.after call).phase = phase) ∨
    (writer.wrote call = false ∧ call.isRecord = true ∧ writer.after call = writer.refuse ∧
      ¬FitsIn writer.capacity (tell told call))

section Settled

variable {writer : Writer} {told : List Stack} (holds : Holds writer told)
  (roomy : writer.truncated = false)
include holds roomy

theorem settled_open_sample (between : writer.phase = .betweenSamples) (thread : ThreadHandle)
    (identity : ThreadIdentity) :
    Settled writer told (.openSample thread identity) .inSample := by
  have outside : writer.phase ≠ .inSample := by
    rw [between]
    decide
  have next := holds.holds_open_sample between thread identity
  rcases writer.open_sample_cases thread identity outside with
    ⟨opened, -, room⟩ | ⟨same, refused, unchanged, counted⟩
  · refine .inl ⟨(Writer.wrote_open_sample_iff between thread identity).mpr room, ?_⟩
    rw [Writer.after, opened]
    exact ⟨next, roomy, rfl⟩
  · have reached : writer.after (.openSample thread identity) = writer.refuse := by
      rw [Writer.after, refused, ← counted between]
    have unwritten : writer.wrote (.openSample thread identity) = false := by
      simp [Writer.wrote, reached, Writer.refuse, Writer.position]
    refine .inr ⟨unwritten, rfl, reached, ?_⟩
    intro fits
    have room := next.has_room_of_fits_in rfl rfl roomy fits
    rw [(Writer.wrote_open_sample_iff between thread identity).mpr room] at unwritten
    cases unwritten

theorem wrote_add_frame_of_fits_in {front : List Stack} {stack : Stack}
    (last : told = front ++ [stack]) (inside : writer.phase = .inSample) {method : MethodId}
    {name : String}
    (fits : FitsIn writer.capacity (front ++ [stack.addFrame (method, name)])) :
    writer.wrote (.addFrame method name) = true := by
  subst last
  rw [Writer.wrote_add_frame_iff inside]
  cases found : writer.codes[method]? with
  | some code =>
      exact (holds.holds_put_reference inside found name).has_room_of_fits_in rfl inside roomy fits
  | none =>
      have codeLeft : writer.methodCount + 1 ≤ Writer.maxCode := by
        have codes := fits.codes
        rw [named_frames_add_frame, holds.ranks.methods_of_absent found, List.length_append,
          ← holds.ranks.count] at codes
        exact codes
      exact ⟨codeLeft,
        (holds.holds_put_definition inside found codeLeft name).has_room_of_fits_in rfl inside
          roomy fits⟩

theorem settled_add_frame (inside : writer.phase = .inSample) (method : MethodId) (name : String) :
    Settled writer told (.addFrame method name) .inSample := by
  obtain ⟨front, stack, last⟩ := holds.exists_last inside
  have fitting := @wrote_add_frame_of_fits_in writer told holds roomy front stack last inside method
    name
  subst last
  unfold Settled
  rw [tell_add_frame]
  rcases writer.add_frame_cases method name with
    ⟨code, found, -, -, referred⟩ | ⟨absent, -, codeLeft, -, defined⟩ |
      ⟨same, refused, -, counted⟩
  · rw [Writer.wrote, Writer.after, referred]
    exact .inl ⟨rfl, holds.holds_put_reference inside found name, roomy, inside⟩
  · rw [Writer.wrote, Writer.after, defined]
    exact .inl ⟨rfl, holds.holds_put_definition inside absent codeLeft name, roomy, inside⟩
  · have unwritten : writer.wrote (.addFrame method name) = false := by
      rw [Writer.wrote, refused]
    refine .inr ⟨unwritten, rfl, ?_, ?_⟩
    · rw [Writer.after, refused, ← counted inside]
    · intro fits
      rw [fitting fits] at unwritten
      cases unwritten

theorem settled_close_sample (inside : writer.phase = .inSample) :
    Settled writer told .closeSample .betweenSamples := by
  have closed : writer.after .closeSample = { writer.put [0, 0] with phase := .betweenSamples } :=
    if_pos inside
  refine .inl ⟨?_, holds.holds_close_sample, ?_, ?_⟩
  · apply Writer.wrote_of_put
    · rw [closed]
    · exact List.cons_ne_nil _ _
    · intro method name same
      cases same
  · rw [closed]
    exact roomy
  · rw [closed]

theorem settled_close_batch (between : writer.phase = .betweenSamples) :
    Settled writer told .closeBatch .finished := by
  have outside : writer.phase ≠ .inSample := by
    rw [between]
    decide
  have unfinished : writer.phase ≠ .finished := by
    rw [between]
    decide
  have closed : writer.after .closeBatch = { writer.put [batchEnd] with phase := .finished } := by
    rw [Writer.after, Writer.closeBatch, if_neg unfinished, Writer.closeSample, if_neg outside]
  refine .inl ⟨?_, holds.holds_close_batch, ?_, ?_⟩
  · apply Writer.wrote_of_put
    · rw [closed]
    · exact List.cons_ne_nil _ _
    · intro method name same
      cases same
  · rw [closed]
    exact roomy
  · rw [closed]

theorem settled_of_bracketed {call : Call} {phase : Phase}
    (bracketed : writer.phase.next? call = some phase) : Settled writer told call phase := by
  cases current : writer.phase <;> cases call <;> rw [current] at bracketed <;>
    cases bracketed
  · exact settled_open_sample holds roomy current _ _
  · exact settled_close_batch holds roomy current
  · exact settled_add_frame holds roomy current _ _
  · exact settled_close_sample holds roomy current

end Settled

/-- Where a run within brackets is cut: all calls of the front part are written, and the first one
behind it, if there is any, is a record that does not fit. -/
structure CutAt (writer : Writer) (told : List Stack) (front back : List Call) : Prop where
  written : writer.written front = front
  holds : Holds (writer.run front) (front.foldl tell told)
  roomy : (writer.run front).truncated = false
  refused : back = [] ∨ ∃ call rest, back = call :: rest ∧ call.isRecord = true ∧
    (writer.run front).wrote call = false ∧
    (writer.run front).after call = (writer.run front).refuse ∧
    ¬FitsIn writer.capacity ((front ++ [call]).foldl tell told)

theorem exists_cut_at {writer : Writer} {told : List Stack} (holds : Holds writer told)
    (roomy : writer.truncated = false) {calls : List Call} {last : Phase}
    (bracketed : calls.foldlM Phase.next? writer.phase = some last) :
    ∃ front back, calls = front ++ back ∧ CutAt writer told front back := by
  induction calls generalizing writer told with
  | nil => exact ⟨[], [], rfl, rfl, holds, roomy, .inl rfl⟩
  | cons call calls induction =>
      rw [List.foldlM_cons] at bracketed
      obtain ⟨phase, next, rest⟩ := Option.bind_eq_some_iff.mp bracketed
      rcases settled_of_bracketed holds roomy next with
        ⟨wrote, nextHolds, nextRoomy, reached⟩ | ⟨refused, record, counted, unfit⟩
      · rw [← reached] at rest
        obtain ⟨front, back, split, cut⟩ := induction nextHolds nextRoomy rest
        refine ⟨call :: front, back, by rw [split, List.cons_append], ?_, cut.holds, cut.roomy, ?_⟩
        · rw [Writer.written, if_pos wrote, cut.written]
        · have later := cut.refused
          rw [Writer.capacity_after] at later
          exact later
      · exact ⟨[], call :: calls, rfl, rfl, holds, roomy,
          .inr ⟨call, calls, rfl, record, refused, counted, unfit⟩⟩

/-- Once a buffer was full it keeps the stacks that it holds, whatever is called. -/
theorem Holds.run_full {writer : Writer} {told : List Stack} (holds : Holds writer told)
    (full : writer.truncated = true) (calls : List Call) : Holds (writer.run calls) told := by
  induction calls generalizing writer with
  | nil => exact holds
  | cons call calls induction =>
      refine induction ?_ (Writer.truncated_after full call)
      cases closing : call.isClosing with
      | false => exact holds.of_same_buffer (Writer.unchanged_of_full full closing).2
      | true =>
          cases call with
          | closeSample => exact holds.holds_close_sample
          | closeBatch => exact holds.holds_close_batch
          | _ => cases closing

section CutAt

variable {writer : Writer} {told : List Stack} {front back : List Call}
  (cut : CutAt writer told front back)
include cut

theorem CutAt.is_closing_of_mem :
    ∀ call ∈ (writer.run front).written back, call.isClosing = true := by
  rcases cut.refused with rfl | ⟨call, rest, rfl, -, unwritten, refused, -⟩
  · nofun
  · rw [Writer.written, unwritten, refused, if_neg (by simp)]
    exact Writer.is_closing_of_mem_written rfl

theorem CutAt.holds_run : Holds (writer.run (front ++ back)) (front.foldl tell told) := by
  rw [Writer.run_append]
  rcases cut.refused with rfl | ⟨call, rest, rfl, -, -, refused, -⟩
  · exact cut.holds
  · rw [Writer.run, List.foldl_cons, refused]
    exact (cut.holds.of_same_buffer (Writer.same_buffer_refuse _)).run_full rfl rest

theorem CutAt.truncated_iff : (writer.run (front ++ back)).truncated = true ↔ back ≠ [] := by
  rw [Writer.run_append]
  rcases cut.refused with rfl | ⟨call, rest, rfl, -, -, refused, -⟩
  · rw [Writer.run, List.foldl_nil, cut.roomy]
    simp
  · rw [Writer.run, List.foldl_cons, refused]
    exact ⟨fun _ => List.cons_ne_nil call rest, fun _ => Writer.truncated_run rfl rest⟩

end CutAt

theorem foldl_tell_filter (calls : List Call) (told : List Stack) :
    (calls.filter Call.isRecord).foldl tell told = calls.foldl tell told := by
  induction calls generalizing told with
  | nil => rfl
  | cons call calls induction => cases call <;> exact induction _

theorem filter_is_record_of_is_closing {calls : List Call}
    (closing : ∀ call ∈ calls, call.isClosing = true) : calls.filter Call.isRecord = [] := by
  rw [List.filter_eq_nil_iff]
  intro call member
  have closes := closing call member
  cases call with
  | closeSample => exact Bool.false_ne_true
  | closeBatch => exact Bool.false_ne_true
  | _ => cases closes

/-- The records that are kept fit, and with the next one they would not. -/
theorem CutAt.longest_fitting_of_cut {writer : Writer} {front back : List Call}
    (cut : CutAt writer [] front back) (keeps : writer.KeepsRoom) :
    LongestFitting writer.capacity (front.filter Call.isRecord)
      ((front ++ back).filter Call.isRecord) := by
  have told : stacksOf (front.filter Call.isRecord) = front.foldl tell [] :=
    foldl_tell_filter front []
  rw [List.filter_append]
  refine ⟨List.prefix_append .., ?_, ?_⟩
  · rw [told]
    constructor
    · rw [cut.holds.length_written, ← writer.capacity_run front]
      exact keeps.keeps_room_run front
    · rw [← cut.holds.ranks.count]
      exact cut.holds.ranks.bounded
  · intro other first fits
    rcases cut.refused with rfl | ⟨call, rest, rfl, record, -, -, unfit⟩
    · rw [List.filter_nil, List.append_nil] at first
      exact first
    · -- A longer part would begin with the records kept and the one that was refused.
      rw [List.filter_cons_of_pos record] at first
      rcases List.prefix_or_prefix_of_prefix first (List.prefix_append _ _) with shorter | longer
      · exact shorter
      · obtain ⟨more, rfl⟩ := longer
        rw [List.prefix_append_right_inj] at first
        cases more with
        | nil => simp
        | cons next more =>
            obtain ⟨rfl, -⟩ := List.cons_prefix_cons.mp first
            have shortest : front.filter Call.isRecord ++ [next] <+:
                front.filter Call.isRecord ++ next :: more := by
              rw [List.prefix_append_right_inj]
              exact List.cons_prefix_cons.mpr ⟨rfl, List.nil_prefix⟩
            have fitting := fits.of_prefix shortest
            rw [stacksOf, List.foldl_append, foldl_tell_filter, ← List.foldl_append] at fitting
            exact absurd fitting unfit

/-- The records of a batch that a buffer keeps. -/
def keptOf (capacity : Nat) (stackList : List Stack) : List Call :=
  ((Writer.ofCapacity capacity).written (batchCalls stackList)).filter Call.isRecord

theorem wrote_open_batch (capacity : Nat) :
    (Writer.ofCapacity capacity).wrote .openBatch = true := by
  have opened := open_batch_of_capacity capacity
  apply Writer.wrote_of_put
  · rw [Writer.after, opened]
  · exact List.cons_ne_nil _ _
  · intro method name same
    cases same

theorem written_batch_calls (capacity : Nat) (calls : List Call) :
    (Writer.ofCapacity capacity).written (.openBatch :: calls) =
      .openBatch :: (Writer.ofCapacity capacity).openBatch.written calls := by
  rw [Writer.written, if_pos (wrote_open_batch capacity)]
  rfl

theorem capacity_open_batch (capacity : Nat) :
    (Writer.ofCapacity capacity).openBatch.capacity = max capacity Writer.minCapacity := by
  rw [open_batch_of_capacity]
  rfl

theorem unnested_batch_calls (capacity : Nat) (stackList : List Stack) :
    (Writer.ofCapacity capacity).Unnested (batchCalls stackList) := by
  have between : (Writer.ofCapacity capacity).openBatch.phase = .betweenSamples := by
    rw [open_batch_of_capacity]
    rfl
  obtain ⟨part, writes, -⟩ := writes_part_stacks between stackList
  refine ⟨trivial, ?_⟩
  rw [Writer.unnested_append]
  exact ⟨writes.unnested, trivial, trivial⟩

theorem exists_cut_at_batch (capacity : Nat) (stackList : List Stack) :
    ∃ front back, callsOf stackList ++ [.closeBatch] = front ++ back ∧
      CutAt (Writer.ofCapacity capacity).openBatch [] front back := by
  have opened := open_batch_of_capacity capacity
  apply exists_cut_at (holds_open_batch capacity)
  · rw [opened]
    rfl
  · rw [opened]
    exact foldlM_next_calls_of stackList

theorem CutAt.kept_of_eq {capacity : Nat} {stackList : List Stack} {front back : List Call}
    (split : callsOf stackList ++ [.closeBatch] = front ++ back)
    (cut : CutAt (Writer.ofCapacity capacity).openBatch [] front back) :
    keptOf capacity stackList = front.filter Call.isRecord := by
  rw [keptOf, batchCalls, written_batch_calls, split, Writer.written_append, cut.written,
    List.filter_cons_of_neg (by simp [Call.isRecord]), List.filter_append,
    filter_is_record_of_is_closing cut.is_closing_of_mem, List.append_nil]

theorem filter_batch_calls {stackList : List Stack} {front back : List Call}
    (split : callsOf stackList ++ [.closeBatch] = front ++ back) :
    (batchCalls stackList).filter Call.isRecord = (front ++ back).filter Call.isRecord := by
  rw [batchCalls, split]
  rfl

theorem keeps_room_open_batch (capacity : Nat) : (Writer.ofCapacity capacity).openBatch.KeepsRoom :=
  (Writer.keeps_room_of_capacity capacity).keeps_room_after .openBatch

theorem longest_fitting_kept_of (capacity : Nat) (stackList : List Stack) :
    LongestFitting (max capacity Writer.minCapacity) (keptOf capacity stackList)
      ((batchCalls stackList).filter Call.isRecord) := by
  obtain ⟨front, back, split, cut⟩ := exists_cut_at_batch capacity stackList
  rw [cut.kept_of_eq split, filter_batch_calls split, ← capacity_open_batch]
  exact cut.longest_fitting_of_cut (keeps_room_open_batch capacity)

theorem LongestFitting.prefix_of_le {capacity larger : Nat} {kept more requested : List Call}
    (small : LongestFitting capacity kept requested)
    (large : LongestFitting larger more requested) (le : capacity ≤ larger) : kept <+: more :=
  large.longest kept small.first (small.fits.mono le)

/-- None of the calls of a batch is misused. Of its records a writer keeps the longest first part
that fits its capacity, closed, and the codes. It was full exactly if that is not all of them, and
behind the first record that does not fit it writes nothing but closing markers. A larger capacity
keeps at least as much. -/
theorem writer_keeps_longest_fitting (capacity : Nat) (stackList : List Stack) :
    let start := Writer.ofCapacity capacity
    let calls := batchCalls stackList
    let requested := calls.filter Call.isRecord
    start.Unnested calls ∧
      LongestFitting (max capacity Writer.minCapacity) (keptOf capacity stackList) requested ∧
      ((start.run calls).truncated = true ↔ keptOf capacity stackList ≠ requested) ∧
      (∃ front back, calls = front ++ back ∧ start.written front = front ∧
        front.filter Call.isRecord = keptOf capacity stackList ∧
        ∀ call ∈ (start.run front).written back, call.isClosing = true) ∧
      (start.run calls).finish = (Batch.ofStacks (stacksOf (keptOf capacity stackList))).written ∧
      ∀ larger, capacity ≤ larger → keptOf capacity stackList <+: keptOf larger stackList := by
  intro start calls requested
  have longest := longest_fitting_kept_of capacity stackList
  obtain ⟨front, back, split, cut⟩ := exists_cut_at_batch capacity stackList
  have kept := cut.kept_of_eq split
  have requestedEq : requested = front.filter Call.isRecord ++ back.filter Call.isRecord := by
    rw [← List.filter_append, ← filter_batch_calls split]
  have ran : start.run calls = start.openBatch.run (front ++ back) := by
    rw [← split]
    rfl
  refine ⟨unnested_batch_calls capacity stackList, longest, ?_, ?_, ?_, ?_⟩
  · rw [ran, cut.truncated_iff, kept, requestedEq, not_iff_not]
    rcases cut.refused with rfl | ⟨call, rest, rfl, record, -⟩
    · simp
    · simp [List.filter_cons_of_pos record]
  · refine ⟨.openBatch :: front, back, ?_, ?_, ?_, cut.is_closing_of_mem⟩
    · rw [List.cons_append, ← split]
      rfl
    · rw [written_batch_calls, cut.written]
    · rw [kept]
      rfl
  · rw [ran, cut.holds_run.finish_eq, kept, stacksOf, foldl_tell_filter]
  · intro larger le
    apply longest.prefix_of_le (longest_fitting_kept_of larger stackList)
    unfold Writer.minCapacity Writer.closingSize
    omega

end StackSampler.Wire
