import StackSampler.Wire.Writer

/-!
# Runs of a writer

A run is any sequence of calls on one writer. Each call is described once by what it can do to the
buffer: it writes its record behind the bytes that are there, or it leaves the buffer as it was.
-/

namespace StackSampler.Wire

inductive Call where
  | openBatch
  | openSample (thread : ThreadHandle) (identity : ThreadIdentity)
  | addFrame (method : MethodId) (name : String)
  | closeSample
  | closeBatch
deriving DecidableEq, Repr

def Phase.closing : Phase → List UInt8
  | .betweenSamples => [batchEnd]
  | .inSample => [0, 0, batchEnd]
  | .finished => []

namespace Writer

/-- The writer behind a call. A misused call changes nothing. -/
def after (writer : Writer) : Call → Writer
  | .openBatch => writer.openBatch
  | .openSample thread identity =>
      match writer.openSample thread identity with
      | .ok opened => opened
      | .error _ => writer
  | .addFrame method name => (writer.addFrame method name).2
  | .closeSample => writer.closeSample
  | .closeBatch => writer.closeBatch

/-- Whether a call wrote its record: what a frame's call answers, and of any other call whether the
position moved. -/
def wrote (writer : Writer) : Call → Bool
  | .addFrame method name => (writer.addFrame method name).1
  | call => decide (writer.position < (writer.after call).position)

def run (writer : Writer) (calls : List Call) : Writer := calls.foldl after writer

def written (writer : Writer) : List Call → List Call
  | [] => []
  | call :: calls =>
      if writer.wrote call then call :: (writer.after call).written calls
      else (writer.after call).written calls

/-- Only opening a sample inside an open sample is forbidden. -/
def Permits (writer : Writer) : Call → Prop
  | .openSample _ _ => writer.phase ≠ .inSample
  | _ => True

/-- Whether no call of a run opens a sample inside an open sample. -/
def Unnested (writer : Writer) : List Call → Prop
  | [] => True
  | call :: calls => writer.Permits call ∧ (writer.after call).Unnested calls

instance decidablePermits (writer : Writer) : (call : Call) → Decidable (writer.Permits call)
  | .openSample _ _ => inferInstanceAs (Decidable (writer.phase ≠ .inSample))
  | .openBatch | .addFrame _ _ | .closeSample | .closeBatch => isTrue trivial

instance decidableUnnested (writer : Writer) :
    (calls : List Call) → Decidable (writer.Unnested calls)
  | [] => isTrue trivial
  | call :: calls =>
      haveI := decidableUnnested (writer.after call) calls
      inferInstanceAs (Decidable (_ ∧ _))

/-- Whether two writers have the same buffer, whatever they count. -/
structure SameBuffer (writer other : Writer) : Prop where
  capacity : writer.capacity = other.capacity
  bytes : writer.bytes = other.bytes
  codes : writer.codes = other.codes
  phase : writer.phase = other.phase

theorem SameBuffer.refl (writer : Writer) : writer.SameBuffer writer := ⟨rfl, rfl, rfl, rfl⟩

theorem same_buffer_refuse (writer : Writer) : writer.refuse.SameBuffer writer :=
  ⟨rfl, rfl, rfl, rfl⟩

def HasRoom (writer : Writer) (size : Nat) : Prop :=
  writer.truncated = false ∧ writer.position + size + closingSize ≤ writer.capacity

theorem admits_iff (writer : Writer) (size : Nat) :
    writer.admits size = true ↔ writer.HasRoom size := by
  simp [admits, HasRoom]

@[simp] theorem toList_put (writer : Writer) (record : List UInt8) :
    (writer.put record).bytes.toList = writer.bytes.toList ++ record :=
  Array.toList_appendList ..

@[simp] theorem position_put (writer : Writer) (record : List UInt8) :
    (writer.put record).position = writer.position + record.length := by
  rw [position, position, ← Array.length_toList, toList_put, List.length_append,
    Array.length_toList]

/-- A record is written whole where there is room, and otherwise the buffer stays as it was. -/
theorem append_cases (writer : Writer) (record : List UInt8) :
    (writer.append record = (true, writer.put record) ∧ writer.phase ≠ .finished ∧
        writer.HasRoom record.length) ∨
      ∃ same, writer.append record = (false, same) ∧ same.SameBuffer writer ∧
        (writer.phase ≠ .finished → same = writer.refuse) := by
  unfold append
  by_cases finished : writer.phase = .finished
  · rw [if_pos finished]
    exact .inr ⟨writer, rfl, .refl writer, absurd finished⟩
  · rw [if_neg finished]
    by_cases admitted : writer.admits record.length = true
    · rw [if_pos admitted]
      exact .inl ⟨rfl, finished, (writer.admits_iff _).mp admitted⟩
    · rw [if_neg admitted]
      exact .inr ⟨writer.refuse, rfl, writer.same_buffer_refuse, fun _ => rfl⟩

theorem open_sample_cases (writer : Writer) (thread : ThreadHandle) (identity : ThreadIdentity)
    (outside : writer.phase ≠ .inSample) :
    (writer.openSample thread identity =
        .ok { writer.put (sampleHeader thread identity) with phase := .inSample } ∧
        writer.phase = .betweenSamples ∧ writer.HasRoom (sampleHeader thread identity).length) ∨
      ∃ same, writer.openSample thread identity = .ok same ∧ same.SameBuffer writer ∧
        (writer.phase = .betweenSamples → same = writer.refuse) := by
  unfold openSample
  rw [if_neg outside]
  rcases writer.append_cases (sampleHeader thread identity) with
    ⟨written, unfinished, room⟩ | ⟨same, refused, unchanged, counted⟩
  · rw [written]
    refine .inl ⟨rfl, ?_, room⟩
    cases phase : writer.phase with
    | betweenSamples => rfl
    | inSample => exact absurd phase outside
    | finished => exact absurd phase unfinished
  · rw [refused]
    refine .inr ⟨same, rfl, unchanged, ?_⟩
    intro between
    apply counted
    rw [between]
    decide

/-- A frame of an open sample is written as a reference to the code of its method or, if the method
has none, as the definition of the next code. -/
theorem add_frame_cases (writer : Writer) (method : MethodId) (name : String) :
    (∃ code, writer.codes[method]? = some code ∧ writer.phase = .inSample ∧
        writer.HasRoom (reference code).length ∧
        writer.addFrame method name = (true, writer.put (reference code))) ∨
      (writer.codes[method]? = none ∧ writer.phase = .inSample ∧
        writer.methodCount + 1 ≤ maxCode ∧
        writer.HasRoom (definition (writer.methodCount + 1) name).length ∧
        writer.addFrame method name =
          (true, { writer.put (definition (writer.methodCount + 1) name) with
            codes := writer.codes.insert method (writer.methodCount + 1) })) ∨
      ∃ same, writer.addFrame method name = (false, same) ∧ same.SameBuffer writer ∧
        (writer.phase = .inSample → same = writer.refuse) := by
  unfold addFrame
  by_cases inside : writer.phase = .inSample
  · rw [if_neg (not_not_intro inside)]
    have unfinished : writer.phase ≠ .finished := by
      rw [inside]
      decide
    cases found : writer.codes[method]? with
    | some code =>
        rcases writer.append_cases (reference code) with
          ⟨written, -, room⟩ | ⟨same, refused, unchanged, counted⟩
        · exact .inl ⟨code, rfl, inside, room, written⟩
        · exact .inr (.inr ⟨same, refused, unchanged, fun _ => counted unfinished⟩)
    | none =>
        dsimp only
        by_cases exhausted : maxCode < writer.methodCount + 1
        · rw [if_pos exhausted]
          exact .inr (.inr ⟨writer.refuse, rfl, writer.same_buffer_refuse, fun _ => rfl⟩)
        · rw [if_neg exhausted]
          rcases writer.append_cases (definition (writer.methodCount + 1) name) with
            ⟨written, -, room⟩ | ⟨same, refused, unchanged, counted⟩
          · rw [written]
            exact .inr (.inl ⟨rfl, inside, Nat.le_of_not_lt exhausted, room, rfl⟩)
          · rw [refused]
            exact .inr (.inr ⟨same, rfl, unchanged, fun _ => counted unfinished⟩)
  · rw [if_pos inside]
    exact .inr (.inr ⟨writer, rfl, .refl writer, fun opened => absurd opened inside⟩)

theorem truncated_close_sample (writer : Writer) :
    writer.closeSample.truncated = writer.truncated := by
  unfold closeSample
  split <;> rfl

theorem truncated_close_batch (writer : Writer) :
    writer.closeBatch.truncated = writer.truncated := by
  unfold closeBatch
  split
  · rfl
  · exact writer.truncated_close_sample

theorem run_append (writer : Writer) (front back : List Call) :
    writer.run (front ++ back) = (writer.run front).run back :=
  List.foldl_append

theorem written_append (writer : Writer) (front back : List Call) :
    writer.written (front ++ back) = writer.written front ++ (writer.run front).written back := by
  induction front generalizing writer with
  | nil => rfl
  | cons call front induction =>
      rw [List.cons_append, written, written, induction]
      by_cases wrote : writer.wrote call = true
      · rw [if_pos wrote, if_pos wrote]
        rfl
      · rw [if_neg wrote, if_neg wrote]
        rfl

theorem written_sublist (writer : Writer) (calls : List Call) :
    (writer.written calls).Sublist calls := by
  induction calls generalizing writer with
  | nil => exact .slnil
  | cons call calls induction =>
      rw [written]
      split
      · exact (induction _).cons_cons call
      · exact (induction _).cons call

theorem unnested_append (writer : Writer) (front back : List Call) :
    writer.Unnested (front ++ back) ↔ writer.Unnested front ∧ (writer.run front).Unnested back := by
  induction front generalizing writer with
  | nil => simp [Unnested, run]
  | cons call front induction =>
      rw [List.cons_append, Unnested, Unnested, induction, and_assoc]
      exact Iff.rfl

theorem open_sample_eq_ok {writer : Writer} (outside : writer.phase ≠ .inSample)
    (thread : ThreadHandle) (identity : ThreadIdentity) :
    writer.openSample thread identity = .ok (writer.after (.openSample thread identity)) := by
  rw [after]
  rcases writer.open_sample_cases thread identity outside with ⟨opened, -⟩ | ⟨same, refused, -⟩
  · rw [opened]
  · rw [refused]

theorem wrote_of_put {writer : Writer} {call : Call} {record : List UInt8}
    (put : (writer.after call).bytes = (writer.put record).bytes) (some : record ≠ [])
    (notFrame : ∀ method name, call ≠ .addFrame method name) : writer.wrote call = true := by
  have moved : writer.position < (writer.after call).position := by
    have positive := List.length_pos_iff.mpr some
    rw [position, position, put, ← position, ← position, position_put]
    omega
  cases call with
  | addFrame method name => exact absurd rfl (notFrame method name)
  | _ => exact decide_eq_true moved

theorem add_frame_outside {writer : Writer} (outside : writer.phase ≠ .inSample) (method : MethodId)
    (name : String) : writer.addFrame method name = (false, writer) := by
  rw [addFrame, if_pos outside]

theorem phase_close_sample (writer : Writer) : writer.closeSample.phase ≠ .inSample := by
  unfold closeSample
  by_cases inside : writer.phase = .inSample
  · rw [if_pos inside]
    exact nofun
  · rw [if_neg inside]
    exact inside

theorem phase_close_sample_of_unfinished {writer : Writer} (unfinished : writer.phase ≠ .finished) :
    writer.closeSample.phase = .betweenSamples := by
  unfold closeSample
  cases phase : writer.phase with
  | betweenSamples => rw [if_neg (by simp), phase]
  | inSample => rfl
  | finished => exact absurd phase unfinished

/-- A finished buffer is what was written so far and what its phase still lacks. -/
theorem finish_eq (writer : Writer) :
    writer.finish = writer.bytes.toList ++ writer.phase.closing := by
  unfold finish closeBatch closeSample
  cases phase : writer.phase <;> simp [Phase.closing]

theorem length_finish (writer : Writer) : writer.finish.length = writer.closeBatch.position :=
  Array.length_toList

theorem phase_close_batch (writer : Writer) : writer.closeBatch.phase = .finished := by
  unfold closeBatch
  by_cases finished : writer.phase = .finished
  · rw [if_pos finished]
    exact finished
  · rw [if_neg finished]

theorem finish_close_batch (writer : Writer) : writer.closeBatch.finish = writer.finish := by
  rw [finish, closeBatch, if_pos writer.phase_close_batch]
  rfl

end Writer

end StackSampler.Wire
