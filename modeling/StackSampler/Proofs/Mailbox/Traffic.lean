import StackSampler.Proofs.Mailbox.Queue

/-!
# Calls on a mailbox, step by step

Any number of publishers and readers call one mailbox at a time. What a call does to the slots is
one step under their lock; a counter that it moves is a later step of its own, and the steps of
other calls may come anywhere in between. A call that nobody interrupts does what the operation does
in one go.

Captures that were stored are numbered in the order of their storing, so that equal ones can be told
apart.
-/

namespace StackSampler

namespace Mailbox

/-- How far a call has come. Its locked step is still to come where it waits, and a reader for whom
nothing waited ends up empty. -/
inductive Stage where
  | waiting
  | stored (number : Nat)
  | rejected (counted : Bool)
  | empty
  | taken (number : Nat) (capture : Capture)
  | copied (number : Nat) (capture : Capture) (delivery : Delivery)
  | lost (number : Nat) (capture : Capture) (counted : Bool)
deriving DecidableEq, Repr

structure Call where
  op : Op
  stage : Stage := .waiting
deriving DecidableEq, Repr

namespace Stage

def removal? : Stage → Option (Nat × Capture)
  | .taken number capture => some (number, capture)
  | .copied number capture _ => some (number, capture)
  | .lost number capture _ => some (number, capture)
  | _ => none

def stores (number : Nat) (stage : Stage) : Bool := stage = .stored number

def removes (number : Nat) (stage : Stage) : Bool := stage.removal?.any (·.1 = number)

def isStored : Stage → Bool
  | .stored _ => true
  | _ => false

def isRejected : Stage → Bool
  | .rejected _ => true
  | _ => false

def isTaken : Stage → Bool
  | .taken _ _ => true
  | _ => false

def isCopied : Stage → Bool
  | .copied _ _ _ => true
  | _ => false

def isLost : Stage → Bool
  | .lost _ _ _ => true
  | _ => false

def isRemoval (stage : Stage) : Bool := stage.removal?.isSome

/-- A rejection that is still to be counted. -/
def owesDropped (stage : Stage) : Bool := stage = .rejected false

def owesLost : Stage → Bool
  | .lost _ _ false => true
  | _ => false

/-- Whether a call has decided to count something and has not done it. -/
def isMidway (stage : Stage) : Bool := stage.owesDropped || stage.owesLost

end Stage

def Call.hasPublished (call : Call) : Bool :=
  match call.op with
  | .publish _ => call.stage ≠ .waiting
  | _ => false

def Call.outcome? (call : Call) : Option Outcome :=
  match call.op, call.stage with
  | _, .stored _ => some (.published true)
  | _, .rejected true => some (.published false)
  | .consume destination, .empty => some (.consumed ⟨0, destination⟩)
  | _, .empty => some (.taken none)
  | _, .taken _ capture => some (.taken (some capture))
  | _, .copied _ _ delivery => some (.consumed delivery)
  | .consume destination, .lost _ _ true => some (.consumed ⟨0, destination⟩)
  | _, _ => none

def countOf (kind : Stage → Bool) (calls : List Call) : Nat :=
  calls.countP fun call => kind call.stage

/-- A mailbox and every call that was ever made on it. -/
structure Traffic where
  mailbox : Mailbox := {}
  calls : List Call := []
deriving DecidableEq, Repr

inductive Move where
  | enter (op : Op)
  | lock (index : Nat)
  | count (index : Nat)
deriving DecidableEq, Repr

namespace Traffic

def unlock (traffic : Traffic) (index : Nat) (op : Op) (slots : Slots) (stage : Stage) :
    Traffic where
  mailbox := { traffic.mailbox with slots }
  calls := traffic.calls.set index ⟨op, stage⟩

def fate (number : Nat) (capture : Capture) : Op → Stage
  | .consume destination =>
      match deliver? capture destination with
      | some delivery => .copied number capture delivery
      | none => .lost number capture false
  | _ => .taken number capture

def remove (traffic : Traffic) (index : Nat) (op : Op) : Traffic :=
  match traffic.mailbox.slots.take with
  | (none, slots) => traffic.unlock index op slots .empty
  | (some capture, slots) =>
      traffic.unlock index op slots (fate (countOf Stage.isRemoval traffic.calls) capture op)

def lock (traffic : Traffic) (index : Nat) : Op → Traffic
  | .publish capture =>
      match traffic.mailbox.slots.put capture with
      | (true, slots) =>
          traffic.unlock index (.publish capture) slots
            (.stored (countOf Stage.isStored traffic.calls))
      | (false, slots) => traffic.unlock index (.publish capture) slots (.rejected false)
  | .take => traffic.remove index .take
  | .consume destination => traffic.remove index (.consume destination)

/-- A move that is not to be made now does nothing. -/
def move (traffic : Traffic) : Move → Traffic
  | .enter op => { traffic with calls := traffic.calls ++ [⟨op, .waiting⟩] }
  | .lock index =>
      match traffic.calls[index]? with
      | some ⟨op, .waiting⟩ => traffic.lock index op
      | _ => traffic
  | .count index =>
      match traffic.calls[index]? with
      | some ⟨op, .rejected false⟩ =>
          ⟨traffic.mailbox.countDropped, traffic.calls.set index ⟨op, .rejected true⟩⟩
      | some ⟨op, .lost number capture false⟩ =>
          ⟨traffic.mailbox.countLost, traffic.calls.set index ⟨op, .lost number capture true⟩⟩
      | _ => traffic

def run (traffic : Traffic) (schedule : List Move) : Traffic := schedule.foldl move traffic

end Traffic

namespace Traffic

section Alone

variable (mailbox : Mailbox) (calls : List Call) (op : Op)

theorem unlock_concat (call : Call) (slots : Slots) (stage : Stage) :
    (⟨mailbox, calls ++ [call]⟩ : Traffic).unlock calls.length op slots stage =
      ⟨{ mailbox with slots }, calls ++ [⟨op, stage⟩]⟩ := by
  simp [unlock]

theorem lock_concat :
    (⟨mailbox, calls ++ [⟨op, .waiting⟩]⟩ : Traffic).move (.lock calls.length) =
      (⟨mailbox, calls ++ [⟨op, .waiting⟩]⟩ : Traffic).lock calls.length op := by
  rw [move, List.getElem?_concat_length]

theorem count_concat_rejected :
    (⟨mailbox, calls ++ [⟨op, .rejected false⟩]⟩ : Traffic).move (.count calls.length) =
      ⟨mailbox.countDropped, calls ++ [⟨op, .rejected true⟩]⟩ := by
  rw [move, List.getElem?_concat_length]
  simp

theorem count_concat_lost (number : Nat) (capture : Capture) :
    (⟨mailbox, calls ++ [⟨op, .lost number capture false⟩]⟩ : Traffic).move (.count calls.length) =
      ⟨mailbox.countLost, calls ++ [⟨op, .lost number capture true⟩]⟩ := by
  rw [move, List.getElem?_concat_length]
  simp

theorem count_concat_of_not_midway {stage : Stage} (settled : stage.isMidway = false) :
    (⟨mailbox, calls ++ [⟨op, stage⟩]⟩ : Traffic).move (.count calls.length) =
      ⟨mailbox, calls ++ [⟨op, stage⟩]⟩ := by
  rw [move, List.getElem?_concat_length]
  split
  · rename_i same
    cases same
    cases settled
  · rename_i same
    cases same
    cases settled
  · rfl

/-- The moves of a call that comes next and that nobody interrupts. -/
def alone : List Move := [.enter op, .lock calls.length, .count calls.length]

theorem run_alone_publish (capture : Capture) :
    ∃ stage, (⟨mailbox, calls⟩ : Traffic).run (alone calls (.publish capture)) =
        ⟨(mailbox.publish capture).2, calls ++ [⟨.publish capture, stage⟩]⟩ ∧
      Call.outcome? ⟨.publish capture, stage⟩ =
        some (.published (mailbox.publish capture).1) := by
  change ∃ stage, (((⟨mailbox, calls ++ [⟨.publish capture, .waiting⟩]⟩ : Traffic).move
    (.lock calls.length)).move (.count calls.length)) = _ ∧ _
  rw [lock_concat, lock, publish]
  dsimp only
  rcases mailbox.slots.put capture with ⟨room, slots⟩
  cases room with
  | true =>
      dsimp only
      rw [unlock_concat, count_concat_of_not_midway _ _ _ rfl]
      exact ⟨_, rfl, rfl⟩
  | false =>
      dsimp only
      rw [unlock_concat, count_concat_rejected]
      exact ⟨_, rfl, rfl⟩

theorem run_alone_take :
    ∃ stage, (⟨mailbox, calls⟩ : Traffic).run (alone calls .take) =
        ⟨mailbox.take.2, calls ++ [⟨.take, stage⟩]⟩ ∧
      Call.outcome? ⟨.take, stage⟩ = some (.taken mailbox.take.1) := by
  change ∃ stage, (((⟨mailbox, calls ++ [⟨.take, .waiting⟩]⟩ : Traffic).move
    (.lock calls.length)).move (.count calls.length)) = _ ∧ _
  rw [lock_concat, lock, remove, Mailbox.take]
  dsimp only
  rcases mailbox.slots.take with ⟨first, slots⟩
  cases first with
  | none =>
      dsimp only
      rw [unlock_concat, count_concat_of_not_midway _ _ _ rfl]
      exact ⟨_, rfl, rfl⟩
  | some oldest =>
      dsimp only [fate]
      rw [unlock_concat, count_concat_of_not_midway _ _ _ rfl]
      exact ⟨_, rfl, rfl⟩

theorem run_alone_consume (destination : List UInt8) :
    ∃ stage, (⟨mailbox, calls⟩ : Traffic).run (alone calls (.consume destination)) =
        ⟨(mailbox.consume destination).2, calls ++ [⟨.consume destination, stage⟩]⟩ ∧
      Call.outcome? ⟨.consume destination, stage⟩ =
        some (.consumed (mailbox.consume destination).1) := by
  change ∃ stage, (((⟨mailbox, calls ++ [⟨.consume destination, .waiting⟩]⟩ : Traffic).move
    (.lock calls.length)).move (.count calls.length)) = _ ∧ _
  rw [lock_concat, lock, remove, consume, Mailbox.take]
  dsimp only
  rcases mailbox.slots.take with ⟨first, slots⟩
  cases first with
  | none =>
      dsimp only
      rw [unlock_concat, count_concat_of_not_midway _ _ _ rfl]
      exact ⟨_, rfl, rfl⟩
  | some oldest =>
      dsimp only [fate]
      cases deliver? oldest destination with
      | none =>
          dsimp only
          rw [unlock_concat, count_concat_lost]
          exact ⟨_, rfl, rfl⟩
      | some delivery =>
          dsimp only
          rw [unlock_concat, count_concat_of_not_midway _ _ _ rfl]
          exact ⟨_, rfl, rfl⟩

/-- A call that nobody interrupts does, and tells its caller, what the operation does in one go. -/
theorem run_alone :
    ∃ stage, (⟨mailbox, calls⟩ : Traffic).run (alone calls op) =
        ⟨(mailbox.perform op).2, calls ++ [⟨op, stage⟩]⟩ ∧
      Call.outcome? ⟨op, stage⟩ = some (mailbox.perform op).1 := by
  cases op with
  | publish capture => exact run_alone_publish mailbox calls capture
  | take => exact run_alone_take mailbox calls
  | consume destination => exact run_alone_consume mailbox calls destination

end Alone

end Traffic

end Mailbox

end StackSampler
