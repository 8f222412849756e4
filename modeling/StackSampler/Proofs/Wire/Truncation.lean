import StackSampler.Proofs.Wire.RoundTrip

/-!
# Where a full buffer cuts

A buffer that was full once takes no more records. What it says of the stacks that a writer is told
of is therefore a first part of them: some whole stacks, and at most one that lacks frames at its
end.
-/

namespace StackSampler.Wire

def Call.ofFrame (frame : NamedMethod) : Call := .addFrame frame.1 frame.2

def Stack.calls (stack : Stack) : List Call :=
  .openSample stack.thread stack.identity :: (stack.frames.map Call.ofFrame ++ [.closeSample])

def callsOf (stackList : List Stack) : List Call := stackList.flatMap Stack.calls

/-- Whether stacks are the first ones of others, up to frames that the last one lacks. -/
def StacksCut (part whole : List Stack) : Prop :=
  part <+: whole ∨ ∃ front stack frames, front ++ [stack] <+: whole ∧ frames <+: stack.frames ∧
    part = front ++ [{ stack with frames }]

theorem StacksCut.refl (stackList : List Stack) : StacksCut stackList stackList :=
  .inl (List.prefix_refl stackList)

theorem StacksCut.stacks_cut_nil (stackList : List Stack) :
    StacksCut [] stackList := .inl List.nil_prefix

theorem StacksCut.stacks_cut_cons {part whole : List Stack} (cut : StacksCut part whole)
    (stack : Stack) :
    StacksCut (stack :: part) (stack :: whole) := by
  rcases cut with whole | ⟨front, last, frames, first, kept, rfl⟩
  · exact .inl (List.cons_prefix_cons.mpr ⟨rfl, whole⟩)
  · exact .inr ⟨stack :: front, last, frames, List.cons_prefix_cons.mpr ⟨rfl, first⟩, kept, rfl⟩

theorem StacksCut.stacks_cut_single {frames : List NamedMethod} {stack : Stack}
    (kept : frames <+: stack.frames) (later : List Stack) :
    StacksCut [{ stack with frames }] (stack :: later) :=
  .inr ⟨[], stack, frames, ⟨later, rfl⟩, kept, rfl⟩

theorem StacksCut.length_le {part whole : List Stack} (cut : StacksCut part whole) :
    part.length ≤ whole.length := by
  rcases cut with first | ⟨front, stack, frames, first, -, rfl⟩
  · exact first.length_le
  · have shorter := first.length_le
    rw [List.length_append] at shorter ⊢
    exact shorter

theorem written_frames_outside {writer : Writer} (outside : writer.phase ≠ .inSample)
    (frames : List NamedMethod) :
    writer.written (frames.map Call.ofFrame) = [] ∧
      writer.run (frames.map Call.ofFrame) = writer := by
  induction frames with
  | nil => exact ⟨rfl, rfl⟩
  | cons frame frames induction =>
      have ignored := writer.add_frame_outside outside frame.1 frame.2
      have same : writer.after (.ofFrame frame) = writer := congrArg Prod.snd ignored
      have unwritten : writer.wrote (.ofFrame frame) = false := congrArg Prod.fst ignored
      rw [List.map_cons, Writer.written, unwritten, same]
      refine ⟨induction.1, ?_⟩
      rw [Writer.run, List.foldl_cons, same]
      exact induction.2

/-- Of the frames of an open sample the first ones are written, all of them unless the buffer gets
full. -/
theorem written_frames {writer : Writer} (inside : writer.phase = .inSample)
    (frames : List NamedMethod) :
    ∃ kept, kept <+: frames ∧ writer.written (frames.map Call.ofFrame) = kept.map Call.ofFrame ∧
      ((writer.run (frames.map Call.ofFrame)).truncated = false → kept = frames) ∧
      (writer.truncated = true →
        kept = [] ∧ (writer.run (frames.map Call.ofFrame)).truncated = true) ∧
      (writer.run (frames.map Call.ofFrame)).phase = .inSample := by
  induction frames generalizing writer with
  | nil => exact ⟨[], List.prefix_refl _, rfl, fun _ => rfl, fun full => ⟨rfl, full⟩, inside⟩
  | cons frame frames induction =>
      rw [List.map_cons, Writer.written, Writer.run, List.foldl_cons, ← Writer.run]
      have offers : writer.Offers (.ofFrame frame) := Writer.offers_of_takes rfl inside
      rcases offers with ⟨wrote, still, roomy, -⟩ | ⟨refused, counted⟩
      · obtain ⟨kept, first, written, whole, -, phase⟩ := induction still
        refine ⟨frame :: kept, List.cons_prefix_cons.mpr ⟨rfl, first⟩, ?_, ?_, ?_, phase⟩
        · rw [if_pos wrote, written]
          rfl
        · intro roomyEnd
          rw [whole roomyEnd]
        · intro full
          rw [roomy] at full
          cases full
      · -- From the first refusal on nothing is kept.
        rw [counted, refused]
        obtain ⟨kept, first, written, -, full, phase⟩ := @induction writer.refuse inside
        obtain ⟨none, fullEnd⟩ := full rfl
        refine ⟨[], List.nil_prefix, ?_, ?_, fun _ => ⟨rfl, fullEnd⟩, phase⟩
        · rw [none] at written
          exact written
        · intro roomyEnd
          rw [fullEnd] at roomyEnd
          cases roomyEnd

theorem foldl_tell_frames (told : List Stack) (stack : Stack) (frames : List NamedMethod) :
    (frames.map Call.ofFrame).foldl tell (told ++ [stack]) =
      told ++ [{ stack with frames := stack.frames ++ frames }] := by
  induction frames generalizing stack with
  | nil => simp
  | cons frame frames induction =>
      rw [List.map_cons, List.foldl_cons, Call.ofFrame, tell_add_frame, induction]
      simp [Stack.addFrame]

theorem foldl_tell_close_sample (writer : Writer) (told : List Stack) :
    (writer.written [.closeSample]).foldl tell told = told := by
  unfold Writer.written
  by_cases wrote : writer.wrote .closeSample = true
  · rw [if_pos wrote]
    rfl
  · rw [if_neg wrote]
    rfl

theorem unnested_frames (writer : Writer) (frames : List NamedMethod) :
    writer.Unnested (frames.map Call.ofFrame ++ [.closeSample]) := by
  induction frames generalizing writer with
  | nil => exact ⟨trivial, trivial⟩
  | cons frame frames induction => exact ⟨trivial, induction _⟩

/-- What calls that tell stacks come to: a part of the stacks is written, all of them unless the
buffer gets full, and none if it was full before. -/
structure WritesPart (writer : Writer) (calls : List Call) (part whole : List Stack) : Prop where
  tells : ∀ told, (writer.written calls).foldl tell told = told ++ part
  roomy : (writer.run calls).truncated = false → part = whole
  full : writer.truncated = true → part = [] ∧ (writer.run calls).truncated = true
  between : (writer.run calls).phase = .betweenSamples
  unnested : writer.Unnested calls

theorem phase_run_frames_closed {writer : Writer} (phase : writer.phase = .inSample) :
    (writer.run [.closeSample]).phase = .betweenSamples := by
  change writer.closeSample.phase = _
  rw [Writer.closeSample, if_pos phase]

/-- A stack is written up to some frame, or not at all. -/
theorem writes_part_stack {writer : Writer} (between : writer.phase = .betweenSamples)
    (stack : Stack) :
    ∃ part, WritesPart writer stack.calls part [stack] ∧
      (part = [] ∨ ∃ frames, frames <+: stack.frames ∧ part = [{ stack with frames }]) := by
  have permitted : writer.Permits (.openSample stack.thread stack.identity) := by
    rw [Writer.Permits, between]
    decide
  have unnested : writer.Unnested stack.calls := ⟨permitted, unnested_frames _ _⟩
  have ran : writer.run stack.calls =
      ((writer.after (.openSample stack.thread stack.identity)).run
        (stack.frames.map Call.ofFrame)).run [.closeSample] := by
    rw [← Writer.run_append]
    rfl
  have offers : writer.Offers (.openSample stack.thread stack.identity) :=
    Writer.offers_of_takes rfl between
  rcases offers with ⟨wrote, inside, empty, -⟩ | ⟨refused, counted⟩
  · obtain ⟨kept, first, written, whole, -, still⟩ := written_frames inside stack.frames
    refine ⟨[{ stack with frames := kept }], ⟨?_, ?_, ?_, ?_, unnested⟩, .inr ⟨kept, first, rfl⟩⟩
    · intro told
      rw [Stack.calls, Writer.written, if_pos wrote, Writer.written_append, written,
        List.foldl_cons, List.foldl_append, foldl_tell_close_sample]
      exact foldl_tell_frames told ⟨stack.thread, stack.identity, []⟩ kept
    · rw [ran]
      intro roomyEnd
      rw [whole ((Writer.truncated_close_sample _).symm.trans roomyEnd)]
    · intro full
      rw [empty] at full
      cases full
    · rw [ran]
      exact phase_run_frames_closed still
  · -- Without its header the sample is not open, and its frames are ignored.
    have outside : writer.refuse.phase ≠ .inSample := by
      rw [Writer.refuse, between]
      decide
    obtain ⟨unwritten, same⟩ := written_frames_outside outside stack.frames
    have ended : writer.run stack.calls = writer.refuse := by
      rw [ran, counted, same]
      exact if_neg outside
    refine ⟨[], ⟨?_, ?_, ?_, ?_, unnested⟩, .inl rfl⟩
    · intro told
      rw [Stack.calls, Writer.written, refused, counted, if_neg (by simp), Writer.written_append,
        unwritten, List.nil_append, foldl_tell_close_sample, List.append_nil]
    · rw [ended]
      intro roomyEnd
      cases roomyEnd
    · rw [ended]
      exact fun _ => ⟨rfl, rfl⟩
    · rw [ended]
      exact between

/-- Of the stacks that a writer is told of a first part is written. -/
theorem writes_part_stacks {writer : Writer} (between : writer.phase = .betweenSamples)
    (stackList : List Stack) :
    ∃ part, WritesPart writer (callsOf stackList) part stackList ∧ StacksCut part stackList := by
  induction stackList generalizing writer with
  | nil =>
      refine ⟨[], ⟨?_, fun _ => rfl, fun full => ⟨rfl, full⟩, between, trivial⟩, .refl []⟩
      intro told
      exact (List.append_nil told).symm
  | cons stack stackList induction =>
      obtain ⟨first, one, cutOne⟩ := writes_part_stack between stack
      obtain ⟨later, rest, cutRest⟩ := induction one.between
      have calls : callsOf (stack :: stackList) = stack.calls ++ callsOf stackList :=
        List.flatMap_cons
      have ran : writer.run (callsOf (stack :: stackList)) =
          (writer.run stack.calls).run (callsOf stackList) := by
        rw [calls, Writer.run_append]
      refine ⟨first ++ later, ⟨?_, ?_, ?_, ?_, ?_⟩, ?_⟩
      · intro told
        rw [calls, Writer.written_append, List.foldl_append, one.tells, rest.tells,
          List.append_assoc]
      · rw [ran]
        intro roomyEnd
        cases between : (writer.run stack.calls).truncated with
        | false => rw [one.roomy between, rest.roomy roomyEnd, List.singleton_append]
        | true =>
            rw [(rest.full between).2] at roomyEnd
            cases roomyEnd
      · rw [ran]
        intro full
        obtain ⟨none, fullOne⟩ := one.full full
        obtain ⟨noneLater, fullEnd⟩ := rest.full fullOne
        rw [none, noneLater]
        exact ⟨rfl, fullEnd⟩
      · rw [ran]
        exact rest.between
      · rw [calls, Writer.unnested_append]
        exact ⟨one.unnested, rest.unnested⟩
      · cases filled : (writer.run stack.calls).truncated with
        | false =>
            rw [one.roomy filled]
            exact cutRest.stacks_cut_cons stack
        | true =>
            rw [(rest.full filled).1, List.append_nil]
            rcases cutOne with rfl | ⟨frames, kept, rfl⟩
            · exact .stacks_cut_nil _
            · exact .stacks_cut_single kept stackList

theorem open_batch_not_mem_calls_of (stackList : List Stack) :
    Call.openBatch ∉ callsOf stackList := by
  intro member
  obtain ⟨stack, -, within⟩ := List.mem_flatMap.mp member
  simp [Stack.calls, Call.ofFrame] at within

/-- A writer that is told of stacks has a buffer that is read as a first part of them, and as all of
them unless it got full. -/
theorem decode_finish_calls_of (capacity : Nat) (small : capacity < UInt32.size)
    (stackList : List Stack) :
    let writer := (Writer.ofCapacity capacity).openBatch.run (callsOf stackList)
    ∃ part, decode writer.finish = .ok (.ofStacks part) ∧ StacksCut part stackList ∧
      (writer.truncated = false → part = stackList) := by
  intro writer
  have tells := tells_open_batch capacity
  have between : (Writer.ofCapacity capacity).openBatch.phase = .betweenSamples := by
    rw [open_batch_of_capacity]
    rfl
  obtain ⟨part, writes, cut⟩ := writes_part_stacks between stackList
  have kept := (tells.tells_run (capacity_open_batch_lt small) writes.unnested
    (open_batch_not_mem_calls_of stackList)).1
  rw [writes.tells, List.nil_append] at kept
  exact ⟨part, kept.decode_finish, cut, writes.roomy⟩

end StackSampler.Wire
