import StackSampler.Mailbox

/-!
# The mailbox is a queue

What is removed from a mailbox, followed by what waits in it, is what waited at first followed by
what was stored, whoever does the operations and however they are mixed. Readers only remove: a
mailbox with room keeps it as long as nobody publishes.
-/

namespace StackSampler

namespace Slots

/-- Whether the second slot is free where the first one is. -/
def Ordered (slots : Slots) : Prop := slots.first = none → slots.second = none

theorem put_of_has_room {slots : Slots} (ordered : slots.Ordered) (room : slots.hasRoom = true)
    (capture : Capture) :
    ∃ next, slots.put capture = (true, next) ∧ next.Ordered ∧
      next.toList = slots.toList ++ [capture] := by
  match slots with
  | ⟨none, none⟩ => exact ⟨_, rfl, fun _ => rfl, rfl⟩
  | ⟨some first, none⟩ => exact ⟨_, rfl, nofun, rfl⟩
  | ⟨none, some second⟩ => cases ordered rfl
  | ⟨some first, some second⟩ => cases room

theorem put_of_full {slots : Slots} (full : slots.hasRoom = false) (capture : Capture) :
    slots.put capture = (false, slots) := by
  match slots with
  | ⟨none, second⟩ => cases full
  | ⟨some first, none⟩ => cases full
  | ⟨some first, some second⟩ => rfl

theorem ordered_take (slots : Slots) : slots.take.2.Ordered := fun _ => rfl

theorem toList_take (slots : Slots) :
    slots.take.1.toList ++ slots.take.2.toList = slots.toList := by
  simp [take, toList]

theorem has_room_take (slots : Slots) : slots.take.2.hasRoom = true := by
  simp [take, hasRoom]

end Slots

namespace Mailbox

def run (mailbox : Mailbox) (ops : List Op) : Mailbox :=
  ops.foldl (fun mailbox op => (mailbox.perform op).2) mailbox

def removedBy (mailbox : Mailbox) : Op → Option Capture
  | .publish _ => none
  | .take => mailbox.take.1
  | .consume _ => mailbox.take.1

def storedBy (mailbox : Mailbox) : Op → Option Capture
  | .publish capture => if mailbox.hasRoom then some capture else none
  | _ => none

def removed (mailbox : Mailbox) : List Op → List Capture
  | [] => []
  | op :: ops => (mailbox.removedBy op).toList ++ (mailbox.perform op).2.removed ops

def stored (mailbox : Mailbox) : List Op → List Capture
  | [] => []
  | op :: ops => (mailbox.storedBy op).toList ++ (mailbox.perform op).2.stored ops

theorem run_append (mailbox : Mailbox) (front back : List Op) :
    mailbox.run (front ++ back) = (mailbox.run front).run back :=
  List.foldl_append

theorem stored_append (mailbox : Mailbox) (front back : List Op) :
    mailbox.stored (front ++ back) = mailbox.stored front ++ (mailbox.run front).stored back := by
  induction front generalizing mailbox with
  | nil => rfl
  | cons op front induction =>
      rw [List.cons_append, stored, stored, induction, List.append_assoc]
      rfl

/-- Consuming leaves what taking leaves, save that it may count a lost capture. -/
theorem consume_eq_take (mailbox : Mailbox) (destination : List UInt8) :
    ∃ lost, (mailbox.consume destination).2 = { mailbox.take.2 with lost } := by
  have taken : mailbox.take = (mailbox.take.1, mailbox.take.2) := rfl
  rw [consume, taken]
  cases mailbox.take.1 with
  | none => exact ⟨mailbox.lost, rfl⟩
  | some capture =>
      dsimp only
      split
      · exact ⟨mailbox.lost, rfl⟩
      · exact ⟨mailbox.lost + 1, rfl⟩

theorem publish_of_has_room {mailbox : Mailbox} (ordered : mailbox.slots.Ordered)
    (room : mailbox.hasRoom = true) (capture : Capture) :
    ∃ slots, mailbox.publish capture = (true, { mailbox with slots }) ∧ slots.Ordered ∧
      slots.toList = mailbox.slots.toList ++ [capture] := by
  obtain ⟨slots, put, next, listed⟩ := Slots.put_of_has_room ordered room capture
  refine ⟨slots, ?_, next, listed⟩
  rw [publish, put]

theorem publish_fst (mailbox : Mailbox) (capture : Capture) :
    (mailbox.publish capture).1 = mailbox.hasRoom := by
  obtain ⟨⟨first, second⟩, dropped, lost⟩ := mailbox
  cases first <;> cases second <;> rfl

theorem publish_of_full {mailbox : Mailbox} (full : mailbox.hasRoom = false) (capture : Capture) :
    mailbox.publish capture = (false, mailbox.countDropped) := by
  rw [publish, Slots.put_of_full full]

theorem perform_conserves {mailbox : Mailbox} (ordered : mailbox.slots.Ordered) (op : Op) :
    (mailbox.perform op).2.slots.Ordered ∧
      (mailbox.removedBy op).toList ++ (mailbox.perform op).2.slots.toList =
        mailbox.slots.toList ++ (mailbox.storedBy op).toList := by
  cases op with
  | publish capture =>
      rw [perform, removedBy, storedBy]
      cases room : mailbox.hasRoom with
      | true =>
          obtain ⟨slots, published, next, listed⟩ := publish_of_has_room ordered room capture
          rw [published]
          exact ⟨next, listed⟩
      | false =>
          rw [publish_of_full room]
          exact ⟨ordered, (List.append_nil _).symm⟩
  | take =>
      refine ⟨mailbox.slots.ordered_take, ?_⟩
      exact mailbox.slots.toList_take.trans (List.append_nil _).symm
  | consume destination =>
      obtain ⟨lost, left⟩ := mailbox.consume_eq_take destination
      have same : (mailbox.perform (.consume destination)).2 = { mailbox.take.2 with lost } := left
      rw [same]
      refine ⟨mailbox.slots.ordered_take, ?_⟩
      exact mailbox.slots.toList_take.trans (List.append_nil _).symm

/-- What was removed, followed by what waits, is what waited at first, followed by what was
stored. -/
theorem run_conserves {mailbox : Mailbox} (ordered : mailbox.slots.Ordered) (ops : List Op) :
    (mailbox.run ops).slots.Ordered ∧
      mailbox.removed ops ++ (mailbox.run ops).slots.toList =
        mailbox.slots.toList ++ mailbox.stored ops := by
  induction ops generalizing mailbox with
  | nil => exact ⟨ordered, (List.append_nil _).symm⟩
  | cons op ops induction =>
      obtain ⟨next, moved⟩ := perform_conserves ordered op
      obtain ⟨last, rest⟩ := induction next
      refine ⟨last, ?_⟩
      rw [removed, stored, List.append_assoc, ← List.append_assoc mailbox.slots.toList, ← moved,
        List.append_assoc, ← rest]
      rfl

end Mailbox

inductive Reading where
  | take
  | consume (destination : List UInt8)
deriving DecidableEq, Repr

def Reading.op : Reading → Mailbox.Op
  | take => .take
  | consume destination => .consume destination

namespace Mailbox

theorem perform_reading (mailbox : Mailbox) (reading : Reading) :
    ∃ lost, (mailbox.perform reading.op).2 = { mailbox.take.2 with lost } := by
  cases reading with
  | take => exact ⟨mailbox.lost, rfl⟩
  | consume destination => exact mailbox.consume_eq_take destination

/-- Readers never fill a mailbox, throw nothing away and store nothing. -/
theorem run_readings (mailbox : Mailbox) (readings : List Reading) :
    (mailbox.hasRoom = true → (mailbox.run (readings.map Reading.op)).hasRoom = true) ∧
      (mailbox.run (readings.map Reading.op)).dropped = mailbox.dropped ∧
      mailbox.stored (readings.map Reading.op) = [] := by
  induction readings generalizing mailbox with
  | nil => exact ⟨id, rfl, rfl⟩
  | cons reading readings induction =>
      obtain ⟨lost, left⟩ := mailbox.perform_reading reading
      obtain ⟨roomy, kept, none⟩ := induction (mailbox.perform reading.op).2
      refine ⟨fun _ => roomy ?_, kept.trans ?_, ?_⟩
      · rw [left]
        exact mailbox.slots.has_room_take
      · rw [left]
        rfl
      · rw [List.map_cons, stored, none, List.append_nil]
        cases reading <;> rfl

end Mailbox

end StackSampler
