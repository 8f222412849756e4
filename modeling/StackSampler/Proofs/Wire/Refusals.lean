import StackSampler.Proofs.Wire.Room

/-!
# What a refusal leaves behind

A record is written whole, with the code that it defines, or not at all. What is not written was
either of no use in its phase, which leaves no trace, or it is counted once, and then the buffer is
full for good.
-/

namespace StackSampler.Wire.Writer

variable {writer : Writer} {call : Call}

theorem bytes_prefix_after (writer : Writer) (call : Call) :
    writer.bytes.toList <+: (writer.after call).bytes.toList := by
  cases writer.effect_of_call call with
  | idle _ _ reached => exact ⟨[], by rw [reached, List.append_nil]⟩
  | written _ _ reached _ =>
      rw [reached]
      exact ⟨writer.record call, (writer.toList_put _).symm⟩
  | refused _ _ _ reached =>
      refine ⟨[], ?_⟩
      rw [reached, List.append_nil, refuse]

theorem after_of_wrote (wrote : writer.wrote call = true) :
    writer.after call = writer.writing call := by
  cases writer.effect_of_call call with
  | idle _ unwritten _ => cases wrote.symm.trans unwritten
  | written _ _ reached _ => exact reached
  | refused _ _ unwritten _ => cases wrote.symm.trans unwritten

theorem after_of_unwritten (unwritten : writer.wrote call = false) :
    (¬writer.phase.Takes call ∧ writer.after call = writer) ∨
      (writer.phase.Takes call ∧ writer.after call = writer.refuse) := by
  cases writer.effect_of_call call with
  | idle untaken _ reached => exact .inl ⟨untaken, reached⟩
  | written _ wrote _ _ => cases wrote.symm.trans unwritten
  | refused takes _ _ reached => exact .inr ⟨takes, reached⟩

/-- Whatever calls were made of a writer, the next one only adds to the bytes. A call that is
written adds its whole record, and its code if it defines one, and counts nothing. A call that is
not written leaves the buffer as it was: if the phase takes it, it is counted once and marks the
buffer as truncated, and otherwise, as for a frame outside of a sample, nothing changes at all. A
buffer is truncated exactly if a refusal was counted, and from then on only closing markers are
written. As long as there are fewer calls than a word can count, the word that shows the refusals
does not wrap. -/
theorem refusals_are_whole_and_counted (capacity : Nat) (calls : List Call) :
    let writer := (ofCapacity capacity).run calls
    (∀ call, writer.bytes.toList <+: (writer.after call).bytes.toList) ∧
      (∀ call, writer.wrote call = true →
        (writer.after call).bytes.toList = writer.bytes.toList ++ writer.record call ∧
          (writer.after call).codes = writer.codesBehind call ∧
          (writer.after call).phase = writer.phase.behind call ∧
          (writer.after call).truncated = writer.truncated ∧
          (writer.after call).refused = writer.refused) ∧
      (∀ call, writer.wrote call = false →
        (writer.after call).SameBuffer writer ∧
          (writer.phase.Takes call → (writer.after call).truncated = true ∧
            (writer.after call).refused = writer.refused + 1) ∧
          (¬writer.phase.Takes call → writer.after call = writer)) ∧
      (∀ method name, writer.phase ≠ .inSample → writer.addFrame method name = (false, writer)) ∧
      (writer.truncated = true ↔ 0 < writer.refused) ∧
      (writer.truncated = true → ∀ later, ∀ call ∈ writer.written later,
        call.isClosing = true) ∧
      (calls.length < UInt64.size → writer.refusedCount.toNat = writer.refused) := by
  intro writer
  refine ⟨?_, ?_, ?_, ?_, ?_, ?_, to_nat_refused_count_run⟩
  · exact writer.bytes_prefix_after
  · intro call wrote
    rw [after_of_wrote wrote]
    exact ⟨writer.toList_put _, rfl, rfl, rfl, rfl⟩
  · intro call unwritten
    rcases after_of_unwritten unwritten with ⟨untaken, same⟩ | ⟨takes, counted⟩
    · rw [same]
      exact ⟨.refl writer, fun takes => absurd takes untaken, fun _ => rfl⟩
    · rw [counted]
      exact ⟨writer.same_buffer_refuse, fun _ => ⟨rfl, rfl⟩, absurd takes⟩
  · intro method name outside
    exact add_frame_outside outside method name
  · exact truncated_run_of_capacity_iff capacity calls
  · intro full later
    exact is_closing_of_mem_written full

end StackSampler.Wire.Writer
