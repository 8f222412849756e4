import StackSampler.Proofs.Wire.Room

/-!
# What fits a buffer

The capacity of a buffer is kept under every sequence of calls, sensible or not, and so is the room
for its closing markers, which are therefore written without a check. The first call that closes the
batch ends the run: no later call does anything.
-/

namespace StackSampler.Wire

namespace Phase

variable {phase : Phase} {call : Call}

theorem not_takes_finished (call : Call) : ¬Phase.Takes .finished call := by
  cases call with
  | openBatch | closeBatch => exact fun unfinished => unfinished rfl
  | openSample _ _ | addFrame _ _ | closeSample => exact nofun

theorem ne_finished_of_takes (takes : phase.Takes call) : phase ≠ .finished := by
  rintro rfl
  exact not_takes_finished call takes

theorem behind_eq_finished_iff (takes : phase.Takes call) :
    phase.behind call = .finished ↔ call = .closeBatch := by
  have unfinished := ne_finished_of_takes takes
  cases call with
  | closeBatch => exact ⟨fun _ => rfl, fun _ => rfl⟩
  | openBatch | addFrame _ _ => exact ⟨fun finished => absurd finished unfinished, nofun⟩
  | openSample _ _ | closeSample => exact ⟨nofun, nofun⟩

theorem getLast?_closing (unfinished : phase ≠ .finished) :
    phase.closing.getLast? = some batchEnd := by
  cases phase with
  | betweenSamples | inSample => rfl
  | finished => exact absurd rfl unfinished

end Phase

namespace Writer

variable {writer : Writer} {call : Call}

theorem after_of_untaken (untaken : ¬writer.phase.Takes call) : writer.after call = writer := by
  cases writer.effect_of_call call with
  | idle _ _ reached => exact reached
  | written takes => exact absurd takes untaken
  | refused takes => exact absurd takes untaken

/-- A closing marker that is due is written, in full and within the capacity. -/
theorem KeepsRoom.keeps_room_after_closing (keeps : writer.KeepsRoom) (call : Call)
    (closing : call.isClosing = true) (takes : writer.phase.Takes call) :
    (writer.after call).bytes.toList = writer.bytes.toList ++ writer.record call ∧
      (writer.after call).position ≤ writer.capacity := by
  constructor
  · cases writer.effect_of_call call with
    | idle untaken => exact absurd takes untaken
    | written _ _ reached _ =>
        rw [reached]
        exact writer.toList_put _
    | refused _ notClosing => cases closing.symm.trans notClosing
  · have kept := keeps.keeps_room_after call
    rw [KeepsRoom, capacity_after] at kept
    exact Nat.le_trans (Nat.le_add_right _ _) kept

theorem after_of_finished (finished : writer.phase = .finished) (call : Call) :
    writer.after call = writer := by
  apply after_of_untaken
  rw [finished]
  exact Phase.not_takes_finished call

/-- Behind the end of the batch no run does anything. -/
theorem run_of_finished (finished : writer.phase = .finished) (calls : List Call) :
    writer.run calls = writer := by
  induction calls with
  | nil => rfl
  | cons call calls induction =>
      change (writer.after call).run calls = writer
      rw [after_of_finished finished]
      exact induction

theorem phase_after_eq_finished_iff (writer : Writer) (call : Call) :
    (writer.after call).phase = .finished ↔ writer.phase = .finished ∨ call = .closeBatch := by
  by_cases finished : writer.phase = .finished
  · rw [after_of_finished finished]
    exact ⟨.inl, fun _ => finished⟩
  · rw [or_iff_right finished]
    cases writer.effect_of_call call with
    | idle untaken _ reached =>
        rw [reached]
        refine ⟨fun closed => absurd closed finished, ?_⟩
        rintro rfl
        exact absurd finished untaken
    | written takes _ reached _ =>
        rw [reached]
        exact Phase.behind_eq_finished_iff takes
    | refused _ notClosing _ reached =>
        rw [reached]
        refine ⟨fun closed => absurd closed finished, ?_⟩
        rintro rfl
        cases notClosing

theorem phase_run_eq_finished_iff (writer : Writer) (calls : List Call) :
    (writer.run calls).phase = .finished ↔ writer.phase = .finished ∨ .closeBatch ∈ calls := by
  induction calls generalizing writer with
  | nil => simp [run]
  | cons call calls induction =>
      rw [List.mem_cons, ← or_assoc, eq_comm (a := Call.closeBatch),
        ← writer.phase_after_eq_finished_iff call]
      exact induction (writer.after call)

theorem getLast?_finish_of_unfinished (unfinished : writer.phase ≠ .finished) :
    writer.finish.getLast? = some batchEnd := by
  rw [finish_eq, List.getLast?_append, Phase.getLast?_closing unfinished]
  rfl

theorem getLast?_finish_after (closed : writer.finish.getLast? = some batchEnd) (call : Call) :
    (writer.after call).finish.getLast? = some batchEnd := by
  by_cases finished : (writer.after call).phase = .finished
  · rcases (writer.phase_after_eq_finished_iff call).mp finished with already | rfl
    · rw [after_of_finished already]
      exact closed
    · rw [after, finish_close_batch]
      exact closed
  · exact getLast?_finish_of_unfinished finished

theorem getLast?_finish_run (closed : writer.finish.getLast? = some batchEnd) (calls : List Call) :
    (writer.run calls).finish.getLast? = some batchEnd := by
  induction calls generalizing writer with
  | nil => exact closed
  | cons call calls induction => exact induction (getLast?_finish_after closed call)

/-- Whatever calls were made of a writer, its bytes are within its capacity, which is the requested
one or the least that there is. A sample that is open is closed by its full marker, and the first
call that closes the batch writes everything that is still open in full; both stay within the
capacity, as does the finished buffer, which ends with the end marker. Once the batch is closed,
later calls change nothing at all, and frames are answered as not written. -/
theorem buffer_stays_in_capacity (capacity : Nat) (calls : List Call) :
    let writer := (ofCapacity capacity).run calls
    writer.capacity = max capacity minCapacity ∧
      writer.position ≤ writer.capacity ∧
      (writer.phase = .finished ↔ .closeBatch ∈ calls) ∧
      (writer.phase = .inSample →
        writer.closeSample.bytes.toList = writer.bytes.toList ++ [0, 0] ∧
          writer.closeSample.position ≤ writer.capacity) ∧
      (.closeBatch ∉ calls →
        writer.closeBatch.bytes.toList = writer.bytes.toList ++ writer.phase.closing ∧
          writer.closeBatch.position ≤ writer.capacity) ∧
      writer.finish.length ≤ writer.capacity ∧
      writer.finish.getLast? = some batchEnd ∧
      (.closeBatch ∈ calls → ∀ later, writer.run later = writer ∧
        ∀ method name, (writer.run later).addFrame method name = (false, writer)) := by
  intro writer
  have keeps : writer.KeepsRoom := (keeps_room_of_capacity capacity).keeps_room_run calls
  have unfinished : (ofCapacity capacity).phase ≠ .finished := nofun
  have finishedIff : writer.phase = .finished ↔ .closeBatch ∈ calls := by
    rw [phase_run_eq_finished_iff]
    exact or_iff_right unfinished
  refine ⟨?_, ?_, finishedIff, ?_, ?_, keeps.length_finish_le, ?_, ?_⟩
  · exact capacity_run (ofCapacity capacity) calls
  · exact Nat.le_trans (Nat.le_add_right _ _) keeps
  · exact keeps.keeps_room_after_closing .closeSample rfl
  · intro unclosed
    exact keeps.keeps_room_after_closing .closeBatch rfl (mt finishedIff.mp unclosed)
  · exact getLast?_finish_run (getLast?_finish_of_unfinished unfinished) calls
  · intro closed later
    have finished := finishedIff.mpr closed
    rw [run_of_finished finished]
    exact ⟨rfl, fun method name => add_frame_outside (by rw [finished]; decide) method name⟩

end Writer

end StackSampler.Wire
