import StackSampler.Proofs.Wire.Effects

/-!
# Room and refusals

What is written into a buffer always leaves room for what still closes it. A record is written
exactly when it fits in front of that room, and from the first refusal on only closing markers are
written.
-/

namespace StackSampler.Wire

namespace Writer

def Counts (writer next : Writer) : Prop :=
  (next.truncated = writer.truncated ∧ next.refused = writer.refused) ∨
    (next.truncated = true ∧ next.refused = writer.refused + 1)

theorem counts_after (writer : Writer) (call : Call) : writer.Counts (writer.after call) := by
  cases writer.effect_of_call call with
  | idle _ _ reached => exact .inl (by rw [reached]; exact ⟨rfl, rfl⟩)
  | written _ _ reached _ => exact .inl (by rw [reached]; exact ⟨rfl, rfl⟩)
  | refused _ _ _ reached => exact .inr (by rw [reached]; exact ⟨rfl, rfl⟩)

theorem truncated_after {writer : Writer} (full : writer.truncated = true) (call : Call) :
    (writer.after call).truncated = true := by
  rcases writer.counts_after call with ⟨kept, -⟩ | ⟨refused, -⟩
  · rw [kept, full]
  · exact refused

theorem truncated_run {writer : Writer} (full : writer.truncated = true) (calls : List Call) :
    (writer.run calls).truncated = true := by
  induction calls generalizing writer with
  | nil => exact full
  | cons call calls induction => exact induction (truncated_after full call)

theorem truncated_run_iff {writer : Writer} (start : writer.truncated = true ↔ 0 < writer.refused)
    (calls : List Call) :
    (writer.run calls).truncated = true ↔ 0 < (writer.run calls).refused := by
  induction calls generalizing writer with
  | nil => exact start
  | cons call calls induction =>
      apply induction
      rcases writer.counts_after call with ⟨kept, same⟩ | ⟨refused, more⟩
      · rw [kept, same]
        exact start
      · rw [refused, more]
        exact ⟨fun _ => Nat.succ_pos _, fun _ => rfl⟩

theorem truncated_run_of_capacity_iff (capacity : Nat) (calls : List Call) :
    ((ofCapacity capacity).run calls).truncated = true ↔
      0 < ((ofCapacity capacity).run calls).refused := by
  have fresh : (ofCapacity capacity).truncated = true ↔ 0 < (ofCapacity capacity).refused :=
    ⟨nofun, nofun⟩
  exact truncated_run_iff fresh calls

theorem refused_run_of_capacity {capacity : Nat} {calls : List Call}
    (roomy : ((ofCapacity capacity).run calls).truncated = false) :
    ((ofCapacity capacity).run calls).refused = 0 := by
  have counted := truncated_run_of_capacity_iff capacity calls
  rw [roomy] at counted
  exact Nat.eq_zero_of_not_pos (mt counted.mpr (by simp))

theorem refused_run_le (writer : Writer) (calls : List Call) :
    (writer.run calls).refused ≤ writer.refused + calls.length := by
  induction calls generalizing writer with
  | nil => exact Nat.le_refl _
  | cons call calls induction =>
      have later := induction (writer.after call)
      rw [List.length_cons]
      rcases writer.counts_after call with ⟨-, same⟩ | ⟨-, more⟩
      · rw [same] at later
        exact Nat.le_trans later (by omega)
      · rw [more] at later
        exact Nat.le_trans later (by omega)

/-- The word does not wrap in a run of fewer calls than it can count. -/
theorem to_nat_refused_count_run {capacity : Nat} {calls : List Call}
    (few : calls.length < UInt64.size) :
    ((ofCapacity capacity).run calls).refusedCount.toNat =
      ((ofCapacity capacity).run calls).refused := by
  have bounded : ((ofCapacity capacity).run calls).refused ≤ 0 + calls.length :=
    refused_run_le (ofCapacity capacity) calls
  rw [Nat.zero_add] at bounded
  exact UInt64.toNat_ofNat_of_lt' (Nat.lt_of_le_of_lt bounded few)

theorem append_eq_true_iff {writer : Writer} (unfinished : writer.phase ≠ .finished)
    (record : List UInt8) :
    (writer.append record).1 = true ↔ writer.HasRoom record.length := by
  unfold append
  rw [if_neg unfinished, ← admits_iff]
  split <;> simp_all

theorem append_eq_of_room {writer : Writer} {record : List UInt8}
    (written : (writer.append record).1 = true) :
    writer.append record = (true, writer.put record) := by
  rcases writer.append_cases record with ⟨done, -⟩ | ⟨same, refused, -⟩
  · exact done
  · rw [refused] at written
    cases written

theorem wrote_open_sample_iff {writer : Writer} (between : writer.phase = .betweenSamples)
    (thread : ThreadHandle) (identity : ThreadIdentity) :
    writer.wrote (.openSample thread identity) = true ↔
      writer.HasRoom (sampleHeader thread identity).length := by
  have outside : writer.phase ≠ .inSample := by
    rw [between]
    decide
  have unfinished : writer.phase ≠ .finished := by
    rw [between]
    decide
  constructor
  · intro wrote
    cases writer.effect_of_call (.openSample thread identity) with
    | idle untaken => exact absurd between untaken
    | written _ _ _ room => exact room rfl
    | refused _ _ unwritten _ => cases wrote.symm.trans unwritten
  · intro room
    have appended := append_eq_of_room ((append_eq_true_iff unfinished _).mpr room)
    apply wrote_of_put
    · rw [after, openSample, if_neg outside, appended]
    · simp [sampleHeader]
    · intro method name same
      cases same

/-- A frame of an open sample is written if it fits and, where its method has no code, one is
left. -/
theorem wrote_add_frame_iff {writer : Writer} (inside : writer.phase = .inSample)
    (method : MethodId) (name : String) :
    writer.wrote (.addFrame method name) = true ↔
      match writer.codes[method]? with
      | some code => writer.HasRoom (reference code).length
      | none => writer.methodCount + 1 ≤ maxCode ∧
          writer.HasRoom (definition (writer.methodCount + 1) name).length := by
  have unfinished : writer.phase ≠ .finished := by
    rw [inside]
    decide
  rw [wrote, addFrame, if_neg (not_not_intro inside)]
  cases found : writer.codes[method]? with
  | some code => exact append_eq_true_iff unfinished (reference code)
  | none =>
      dsimp only
      rw [← append_eq_true_iff unfinished (definition (writer.methodCount + 1) name)]
      by_cases exhausted : maxCode < writer.methodCount + 1
      · rw [if_pos exhausted]
        simp [Nat.not_le.mpr exhausted]
      · rw [if_neg exhausted]
        rcases writer.append (definition (writer.methodCount + 1) name) with ⟨written, next⟩
        cases written <;> simp [Nat.le_of_not_lt exhausted]

/-- Once a buffer was full, a call that closes nothing changes nothing of it. -/
theorem unchanged_of_full {writer : Writer} (full : writer.truncated = true) {call : Call}
    (notClosing : call.isClosing = false) :
    writer.wrote call = false ∧ (writer.after call).SameBuffer writer := by
  cases writer.effect_of_call call with
  | idle _ unwritten reached =>
      rw [reached]
      exact ⟨unwritten, .refl writer⟩
  | written _ _ _ room =>
      have roomy := (room notClosing).1
      rw [full] at roomy
      cases roomy
  | refused _ _ unwritten reached =>
      rw [reached]
      exact ⟨unwritten, writer.same_buffer_refuse⟩

/-- Once a buffer was full nothing but closing markers is written. -/
theorem is_closing_of_mem_written {writer : Writer} (full : writer.truncated = true)
    {calls : List Call} : ∀ call ∈ writer.written calls, call.isClosing = true := by
  induction calls generalizing writer with
  | nil => nofun
  | cons first calls induction =>
      intro call member
      rw [written] at member
      split at member
      · rename_i wrote
        rcases List.mem_cons.mp member with rfl | later
        · cases closing : call.isClosing with
          | true => rfl
          | false =>
              rw [(unchanged_of_full full closing).1] at wrote
              cases wrote
        · exact induction (truncated_after full first) call later
      · exact induction (truncated_after full first) call member

/-- Whether what still closes a buffer fits behind what was written. -/
def KeepsRoom (writer : Writer) : Prop :=
  writer.position + writer.phase.closing.length ≤ writer.capacity

theorem keeps_room_of_capacity (capacity : Nat) : (ofCapacity capacity).KeepsRoom := by
  have least : minCapacity ≤ max capacity minCapacity := Nat.le_max_right ..
  change 0 + 1 ≤ max capacity minCapacity
  unfold minCapacity closingSize at *
  omega

theorem length_closing_le (phase : Phase) : phase.closing.length ≤ closingSize := by
  cases phase <;> decide

theorem KeepsRoom.of_same_buffer {writer other : Writer} (keeps : other.KeepsRoom)
    (same : writer.SameBuffer other) : writer.KeepsRoom := by
  unfold KeepsRoom position at *
  rw [same.capacity, same.bytes, same.phase]
  exact keeps

/-- Every call keeps the room for what closes the buffer: a record that fits leaves room for all
closing markers, whatever is open behind it, and a closing marker takes the room kept for it. -/
theorem KeepsRoom.keeps_room_after {writer : Writer} (keeps : writer.KeepsRoom) (call : Call) :
    (writer.after call).KeepsRoom := by
  cases writer.effect_of_call call with
  | idle _ _ reached =>
      rw [reached]
      exact keeps
  | written takes _ reached room =>
      rw [reached]
      change (writer.put (writer.record call)).position + _ ≤ writer.capacity
      rw [position_put]
      cases closing : call.isClosing with
      | false =>
          have enough := (room closing).2
          have least := length_closing_le (writer.phase.behind call)
          change _ + (writer.phase.behind call).closing.length ≤ _
          omega
      | true =>
          unfold KeepsRoom at keeps
          cases call with
          | closeSample =>
              have inside : writer.phase = .inSample := takes
              rw [inside] at keeps
              exact keeps
          | closeBatch => exact keeps
          | openBatch | openSample _ _ | addFrame _ _ => cases closing
  | refused _ _ _ reached =>
      rw [reached]
      exact keeps.of_same_buffer writer.same_buffer_refuse

theorem KeepsRoom.keeps_room_run {writer : Writer} (keeps : writer.KeepsRoom) (calls : List Call) :
    (writer.run calls).KeepsRoom := by
  induction calls generalizing writer with
  | nil => exact keeps
  | cons call calls induction => exact induction (keeps.keeps_room_after call)

theorem KeepsRoom.length_finish_le {writer : Writer} (keeps : writer.KeepsRoom) :
    writer.finish.length ≤ writer.capacity := by
  rw [finish_eq, List.length_append, Array.length_toList]
  exact keeps

theorem capacity_run (writer : Writer) (calls : List Call) :
    (writer.run calls).capacity = writer.capacity := by
  induction calls generalizing writer with
  | nil => rfl
  | cons call calls induction =>
      exact (induction (writer.after call)).trans (writer.capacity_after call)

end Writer

end StackSampler.Wire
