import StackSampler.Proofs.Mailbox.Refinement
import StackSampler.PullSlot

/-!
# What a foreign reader gets

A read takes the oldest capture out of one mailbox. If the reader has room for all of it, it is
copied to the front of the reader's memory, and its length is the answer; otherwise it is counted as
lost, and the memory stays as it is. The answer is never off by a wrapped sign: a reader cannot have
room for more than the answer can tell.
-/

namespace StackSampler.Mailbox

/-- What a reader owes: behind its pointer lies memory of the length that it claims. -/
def Request.Valid (request : Request) : Prop :=
  ∀ memory, request.memory = some memory → request.length.toInt ≤ memory.length

/-- How many bytes a reader has room for. Behind a null pointer there is none. -/
def Request.room (request : Request) : Nat :=
  match request.memory with
  | none => 0
  | some _ => request.length.toInt.toNat

inductive Pulled (request : Request) (mailbox : Mailbox) : Answer × Mailbox → Prop where
  | nothing (empty : mailbox.slots.toList = []) :
      Pulled request mailbox (⟨0, request.memory⟩, mailbox)
  | copied {oldest : Capture} {slots : Slots} {length : Int32}
      (waits : mailbox.slots.toList = oldest :: slots.toList)
      (fits : oldest.length ≤ request.room) (exact : length.toInt = oldest.length) :
      Pulled request mailbox
        (⟨length, request.memory.map (oldest ++ ·.drop oldest.length)⟩, { mailbox with slots })
  | lost {oldest : Capture} {slots : Slots}
      (waits : mailbox.slots.toList = oldest :: slots.toList)
      (short : request.room < oldest.length) :
      Pulled request mailbox (⟨0, request.memory⟩, { mailbox with slots }.countLost)

theorem Request.room_le (request : Request) : (request.room : Int) ≤ Int32.maxValue.toInt := by
  have bound := request.length.toInt_le
  have nonnegative : 0 ≤ Int32.maxValue.toInt := by decide
  rw [room]
  split <;> omega

theorem toInt_ofNat_of_le {length : Nat} (told : (length : Int) ≤ Int32.maxValue.toInt) :
    (Int32.ofNat length).toInt = length := by
  apply Int32.toInt_ofNat_of_lt
  have largest : Int32.maxValue.toInt = 2147483647 := by decide
  omega

theorem pulled_pull {mailbox : Mailbox} (ordered : mailbox.slots.Ordered) {request : Request}
    (valid : request.Valid) : Pulled request mailbox (mailbox.pull request) := by
  have bound := request.room_le
  obtain ⟨length, memory⟩ := request
  cases memory with
  | none =>
      have consumed := consumed_consume ordered []
      rw [pull]
      generalize mailbox.consume [] = done at consumed ⊢
      cases consumed with
      | nothing empty => exact .nothing empty
      | @copied oldest slots waits fits =>
          have none : oldest = [] := List.length_eq_zero_iff.mp (Nat.le_zero.mp fits)
          subst none
          exact .copied waits fits rfl
      | lost waits short => exact .lost waits short
  | some memory =>
      have claimed : length.toInt ≤ memory.length := valid memory rfl
      have covered : (memory.take length.toInt.toNat).length = length.toInt.toNat := by
        rw [List.length_take]
        omega
      have consumed := consumed_consume ordered (memory.take length.toInt.toNat)
      rw [pull]
      dsimp only
      generalize mailbox.consume (memory.take length.toInt.toNat) = done at consumed ⊢
      cases consumed with
      | nothing empty =>
          dsimp only
          rw [List.take_append_drop]
          exact .nothing empty
      | @copied oldest slots waits fits =>
          rw [covered] at fits
          have rest : (memory.take length.toInt.toNat).drop oldest.length ++
              memory.drop length.toInt.toNat = memory.drop oldest.length := by
            rw [← List.drop_append_of_le_length (by rw [covered]; exact fits),
              List.take_append_drop]
          dsimp only
          rw [List.append_assoc, rest]
          exact .copied waits fits (toInt_ofNat_of_le (Int.le_trans (Int.ofNat_le.mpr fits) bound))
      | lost waits short =>
          rw [covered] at short
          dsimp only
          rw [List.take_append_drop]
          exact .lost waits short

theorem ordered_pull {mailbox : Mailbox} (ordered : mailbox.slots.Ordered) (request : Request) :
    (mailbox.pull request).2.slots.Ordered := by
  obtain ⟨length, memory⟩ := request
  cases memory with
  | none => exact (perform_conserves ordered (.consume [])).1
  | some memory => exact (perform_conserves ordered (.consume (memory.take length.toInt.toNat))).1

end StackSampler.Mailbox
