import Mathlib.Data.List.Basic
import StackSampler.Proofs.Mailbox.Queue

/-!
# A queue of two captures

What anyone sees of a mailbox, operation by operation, is what a first-in-first-out queue shows that
refuses a third capture. The queue is described here by its transitions alone; the two slots, and
how the second one moves up, do not appear in them.
-/

namespace StackSampler

namespace Mailbox

/-- What anyone does with a mailbox: an operation, or a question that changes nothing. -/
inductive Action where
  | perform (op : Op)
  | askRoom
  | askPending
deriving DecidableEq, Repr

inductive Observation where
  | performed (outcome : Outcome)
  | room (free : Bool)
  | pending (count : Nat)
deriving DecidableEq, Repr

def act (mailbox : Mailbox) : Action → Observation × Mailbox
  | .perform op => (.performed (mailbox.perform op).1, (mailbox.perform op).2)
  | .askRoom => (.room mailbox.hasRoom, mailbox)
  | .askPending => (.pending mailbox.pending, mailbox)

/-- One action of a run, between the mailbox that it found and the one that it left. -/
structure Step where
  before : Mailbox
  action : Action
  observation : Observation
  behind : Mailbox
deriving DecidableEq, Repr

def step (mailbox : Mailbox) (action : Action) : Step :=
  ⟨mailbox, action, (mailbox.act action).1, (mailbox.act action).2⟩

def steps (mailbox : Mailbox) : List Action → List Step
  | [] => []
  | action :: actions => mailbox.step action :: (mailbox.step action).behind.steps actions

def leave (mailbox : Mailbox) (actions : List Action) : Mailbox :=
  actions.foldl (fun mailbox action => (mailbox.step action).behind) mailbox

namespace Step

/-- The capture whose publisher was told that it is stored. -/
def stored? (step : Step) : Option Capture :=
  match step.action, step.observation with
  | .perform (.publish capture), .performed (.published true) => some capture
  | _, _ => none

/-- The capture that a reader removed: the oldest one, whether or not the reader got it. -/
def removed? (step : Step) : Option Capture :=
  match step.action with
  | .perform .take => step.before.slots.toList.head?
  | .perform (.consume _) => step.before.slots.toList.head?
  | _ => none

end Step

end Mailbox

open Mailbox

/-- The transitions of a queue of bounded length. A capture that would be one too many is refused
and changes nothing. The oldest capture is consumed by copying all of it over the front of a
destination, or it is lost and the destination stays as it is. -/
inductive QueueStep (bound : Nat) :
    List Capture → Action → Observation → List Capture → Prop where
  | stored {waiting : List Capture} {capture : Capture} (room : waiting.length < bound) :
      QueueStep bound waiting (.perform (.publish capture)) (.performed (.published true))
        (waiting ++ [capture])
  | refused {waiting : List Capture} {capture : Capture} (full : waiting.length = bound) :
      QueueStep bound waiting (.perform (.publish capture)) (.performed (.published false)) waiting
  | taken {oldest : Capture} {waiting : List Capture} :
      QueueStep bound (oldest :: waiting) (.perform .take) (.performed (.taken (some oldest)))
        waiting
  | nothingTaken : QueueStep bound [] (.perform .take) (.performed (.taken none)) []
  | copied {oldest : Capture} {waiting : List Capture} {front back : List UInt8}
      (covers : front.length = oldest.length) :
      QueueStep bound (oldest :: waiting) (.perform (.consume (front ++ back)))
        (.performed (.consumed ⟨oldest.length, oldest ++ back⟩)) waiting
  | lost {oldest : Capture} {waiting : List Capture} {destination : List UInt8}
      (short : destination.length < oldest.length) :
      QueueStep bound (oldest :: waiting) (.perform (.consume destination))
        (.performed (.consumed ⟨0, destination⟩)) waiting
  | nothingConsumed {destination : List UInt8} :
      QueueStep bound [] (.perform (.consume destination))
        (.performed (.consumed ⟨0, destination⟩)) []
  | room {waiting : List Capture} :
      QueueStep bound waiting .askRoom (.room (waiting.length < bound)) waiting
  | pending {waiting : List Capture} :
      QueueStep bound waiting .askPending (.pending waiting.length) waiting

namespace Slots

theorem has_room_eq (slots : Slots) : slots.hasRoom = decide (slots.toList.length < 2) := by
  match slots with
  | ⟨none, none⟩ => rfl
  | ⟨none, some _⟩ => rfl
  | ⟨some _, none⟩ => rfl
  | ⟨some _, some _⟩ => rfl

theorem length_toList_le (slots : Slots) : slots.toList.length ≤ 2 := by
  match slots with
  | ⟨none, none⟩ => exact Nat.zero_le 2
  | ⟨none, some _⟩ => exact Nat.le_succ 1
  | ⟨some _, none⟩ => exact Nat.le_succ 1
  | ⟨some _, some _⟩ => exact Nat.le_refl 2

theorem Ordered.take_fst {slots : Slots} (ordered : slots.Ordered) :
    slots.take.1 = slots.toList.head? := by
  match slots with
  | ⟨none, none⟩ => rfl
  | ⟨none, some _⟩ => cases ordered rfl
  | ⟨some _, _⟩ => rfl

theorem Ordered.eq_of_take_none {slots next : Slots} (ordered : slots.Ordered)
    (taken : slots.take = (none, next)) : next = slots := by
  match slots with
  | ⟨none, none⟩ =>
      cases taken
      rfl
  | ⟨none, some _⟩ => cases ordered rfl
  | ⟨some _, _⟩ => cases taken

theorem Ordered.toList_take_snd {slots : Slots} (ordered : slots.Ordered) :
    slots.take.2.toList = slots.toList.tail := by
  match slots with
  | ⟨none, none⟩ => rfl
  | ⟨none, some _⟩ => cases ordered rfl
  | ⟨some _, none⟩ => rfl
  | ⟨some _, some _⟩ => rfl

end Slots

namespace Mailbox

/-- A destination that is long enough is covered in front by the whole capture, and any other one
gets nothing of it. -/
theorem deliver_cases (capture : Capture) (destination : List UInt8) :
    (destination.length < capture.length ∧ deliver? capture destination = none) ∨
      ∃ front back, destination = front ++ back ∧ front.length = capture.length ∧
        deliver? capture destination = some ⟨capture.length, capture ++ back⟩ := by
  by_cases short : destination.length < capture.length
  · exact .inl ⟨short, if_pos short⟩
  · refine .inr ⟨destination.take capture.length, destination.drop capture.length, ?_, ?_, ?_⟩
    · exact (List.take_append_drop _ _).symm
    · rw [List.length_take]
      omega
    · exact if_neg short

theorem queue_step_publish {mailbox : Mailbox} (ordered : mailbox.slots.Ordered)
    (capture : Capture) :
    QueueStep 2 mailbox.slots.toList (.perform (.publish capture))
      (.performed (.published (mailbox.publish capture).1))
      (mailbox.publish capture).2.slots.toList := by
  have asked := mailbox.slots.has_room_eq
  cases room : mailbox.hasRoom with
  | true =>
      obtain ⟨slots, published, -, listed⟩ := publish_of_has_room ordered room capture
      rw [published, listed]
      apply QueueStep.stored
      exact of_decide_eq_true (asked.symm.trans room)
  | false =>
      rw [publish_of_full room]
      apply QueueStep.refused
      have full := of_decide_eq_false (asked.symm.trans room)
      have atMost := mailbox.slots.length_toList_le
      omega

theorem queue_step_take {mailbox : Mailbox} (ordered : mailbox.slots.Ordered) :
    QueueStep 2 mailbox.slots.toList (.perform .take) (.performed (.taken mailbox.take.1))
      mailbox.take.2.slots.toList := by
  change QueueStep 2 mailbox.slots.toList _ (.performed (.taken mailbox.slots.take.1))
    mailbox.slots.take.2.toList
  rw [ordered.take_fst, ordered.toList_take_snd]
  cases mailbox.slots.toList with
  | nil => exact .nothingTaken
  | cons oldest waiting => exact .taken

inductive Consumed (mailbox : Mailbox) (destination : List UInt8) : Delivery × Mailbox → Prop where
  | nothing (empty : mailbox.slots.toList = []) :
      Consumed mailbox destination (⟨0, destination⟩, mailbox)
  | copied {oldest : Capture} {slots : Slots}
      (waits : mailbox.slots.toList = oldest :: slots.toList)
      (fits : oldest.length ≤ destination.length) :
      Consumed mailbox destination
        (⟨oldest.length, oldest ++ destination.drop oldest.length⟩, { mailbox with slots })
  | lost {oldest : Capture} {slots : Slots}
      (waits : mailbox.slots.toList = oldest :: slots.toList)
      (short : destination.length < oldest.length) :
      Consumed mailbox destination (⟨0, destination⟩, { mailbox with slots }.countLost)

theorem consumed_consume {mailbox : Mailbox} (ordered : mailbox.slots.Ordered)
    (destination : List UInt8) : Consumed mailbox destination (mailbox.consume destination) := by
  obtain ⟨⟨first, second⟩, dropped, lost⟩ := mailbox
  cases first with
  | none =>
      have free : second = none := ordered rfl
      subst free
      exact .nothing rfl
  | some oldest =>
      have waits : (Slots.mk (some oldest) second).toList =
          oldest :: (Slots.mk second none).toList := by
        simp [Slots.toList]
      rw [consume, take, Slots.take]
      dsimp only
      by_cases short : destination.length < oldest.length
      · rw [deliver?, if_pos short]
        exact .lost waits short
      · rw [deliver?, if_neg short]
        exact .copied waits (Nat.le_of_not_lt short)

theorem queue_step_consume {mailbox : Mailbox} (ordered : mailbox.slots.Ordered)
    (destination : List UInt8) :
    QueueStep 2 mailbox.slots.toList (.perform (.consume destination))
      (.performed (.consumed (mailbox.consume destination).1))
      (mailbox.consume destination).2.slots.toList := by
  have consumed := consumed_consume ordered destination
  generalize mailbox.consume destination = done at consumed ⊢
  cases consumed with
  | nothing empty =>
      dsimp only
      rw [empty]
      exact .nothingConsumed
  | @copied oldest slots waits fits =>
      have covers : (destination.take oldest.length).length = oldest.length := by
        rw [List.length_take]
        exact Nat.min_eq_left fits
      have copied :=
        @QueueStep.copied 2 oldest slots.toList _ (destination.drop oldest.length) covers
      rw [List.take_append_drop] at copied
      dsimp only
      rw [waits]
      exact copied
  | lost waits short =>
      rw [waits]
      exact .lost short

theorem ordered_behind {mailbox : Mailbox} (ordered : mailbox.slots.Ordered) (action : Action) :
    (mailbox.step action).behind.slots.Ordered := by
  cases action with
  | perform op => exact (perform_conserves ordered op).1
  | askRoom => exact ordered
  | askPending => exact ordered

theorem queue_step_step {mailbox : Mailbox} (ordered : mailbox.slots.Ordered) (action : Action) :
    QueueStep 2 mailbox.slots.toList action (mailbox.step action).observation
      (mailbox.step action).behind.slots.toList := by
  match action with
  | .perform (.publish capture) => exact queue_step_publish ordered capture
  | .perform .take => exact queue_step_take ordered
  | .perform (.consume destination) => exact queue_step_consume ordered destination
  | .askRoom =>
      have asked : mailbox.hasRoom = _ := mailbox.slots.has_room_eq
      rw [step, act, asked]
      exact .room
  | .askPending => exact .pending

end Mailbox

/-- A transition removes in front what is removed, and adds behind what is stored. -/
theorem QueueStep.queue_step_conserves {bound : Nat} {step : Step}
    (moved : QueueStep bound step.before.slots.toList step.action step.observation
      step.behind.slots.toList) :
    step.removed?.toList ++ step.behind.slots.toList =
      step.before.slots.toList ++ step.stored?.toList := by
  obtain ⟨before, action, observation, behind⟩ := step
  dsimp only at moved
  rw [Step.removed?, Step.stored?]
  dsimp only
  generalize before.slots.toList = waiting at moved ⊢
  generalize behind.slots.toList = left at moved ⊢
  cases moved <;> simp

namespace Mailbox

theorem lawful_steps {mailbox : Mailbox} (ordered : mailbox.slots.Ordered)
    (actions : List Action) :
    ∀ step ∈ mailbox.steps actions,
      QueueStep 2 step.before.slots.toList step.action step.observation step.behind.slots.toList ∧
        step.behind.slots.Ordered := by
  induction actions generalizing mailbox with
  | nil =>
      intro step member
      cases member
  | cons action actions induction =>
      intro step member
      rcases List.mem_cons.mp member with rfl | later
      · exact ⟨queue_step_step ordered action, ordered_behind ordered action⟩
      · exact induction (ordered_behind ordered action) step later

theorem steps_conserve {mailbox : Mailbox} (ordered : mailbox.slots.Ordered)
    (actions : List Action) :
    (mailbox.steps actions).filterMap Step.removed? ++ (mailbox.leave actions).slots.toList =
      mailbox.slots.toList ++ (mailbox.steps actions).filterMap Step.stored? := by
  induction actions generalizing mailbox with
  | nil => exact (List.append_nil _).symm
  | cons action actions induction =>
      have moved := @QueueStep.queue_step_conserves 2 (mailbox.step action)
        (queue_step_step ordered action)
      have rest := induction (ordered_behind ordered action)
      rw [List.filterMap_eq_flatMap_toList, List.filterMap_eq_flatMap_toList] at rest ⊢
      rw [steps, List.flatMap_cons, List.flatMap_cons, ← List.append_assoc mailbox.slots.toList]
      calc (mailbox.step action).removed?.toList ++
              ((mailbox.step action).behind.steps actions).flatMap (·.removed?.toList) ++
              (mailbox.leave (action :: actions)).slots.toList
          = (mailbox.step action).removed?.toList ++
              ((mailbox.step action).behind.slots.toList ++
                ((mailbox.step action).behind.steps actions).flatMap (·.stored?.toList)) := by
            rw [List.append_assoc, ← rest]
            rfl
        _ = _ := by
            rw [← List.append_assoc, moved]
            rfl

/-- Whatever is done with a mailbox that was empty at first, each action is a transition of a queue
of two captures: the second slot is used only while the first one is, and what was removed, followed
by what waits in the two slots, is what publishers were told is stored, in that order. -/
theorem refines_queue (actions : List Action) :
    let steps := ({} : Mailbox).steps actions
    let left := ({} : Mailbox).leave actions
    (∀ step ∈ steps,
      QueueStep 2 step.before.slots.toList step.action step.observation step.behind.slots.toList ∧
        step.behind.slots.Ordered ∧ step.behind.pending ≤ 2) ∧
    steps.filterMap Step.removed? ++ left.slots.toList = steps.filterMap Step.stored? := by
  intro steps left
  refine ⟨?_, steps_conserve (fun _ => rfl) actions⟩
  intro step member
  obtain ⟨moved, ordered⟩ := lawful_steps (fun _ => rfl) actions step member
  exact ⟨moved, ordered, step.behind.slots.length_toList_le⟩

end Mailbox

end StackSampler
