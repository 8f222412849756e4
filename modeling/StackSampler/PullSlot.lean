import StackSampler.LogLine

/-!
The pull interface. A foreign reader fetches captures on its own schedule from the one mailbox that
is installed at the time; while none is, it gets nothing.
-/

namespace StackSampler

/-- Mailboxes are told apart by their place, not by what they hold. -/
structure MailboxId where
  index : Nat
deriving DecidableEq, Repr

namespace MailboxId

instance : Ord MailboxId := ⟨compareOn MailboxId.index⟩

instance : Std.TransOrd MailboxId := inferInstanceAs (Std.TransCmp (compareOn MailboxId.index))

instance : Std.LawfulEqOrd MailboxId where
  eq_of_compare {left right} same := by
    have indices : left.index = right.index := Std.LawfulEqOrd.eq_of_compare same
    cases left
    cases right
    simp_all

end MailboxId

/-- A foreign reader's read: the length that it claims for its buffer, and the memory that its
pointer leads to, if the pointer is not null. -/
structure Mailbox.Request where
  length : Int32
  memory : Option (List UInt8)
deriving DecidableEq, Repr

structure Mailbox.Answer where
  length : Int32
  memory : Option (List UInt8)
deriving DecidableEq, Repr

/-- Moves the oldest capture to the front of the reader's buffer. A null pointer, or a length that
is not positive, is an empty buffer. -/
def Mailbox.pull (mailbox : Mailbox) (request : Mailbox.Request) : Mailbox.Answer × Mailbox :=
  match request.memory with
  | none =>
      let (delivery, mailbox) := mailbox.consume []
      (⟨Int32.ofNat delivery.copied, none⟩, mailbox)
  | some memory =>
      let size := request.length.toInt.toNat
      let (delivery, mailbox) := mailbox.consume (memory.take size)
      (⟨Int32.ofNat delivery.copied, some (delivery.destination ++ memory.drop size)⟩, mailbox)

structure PullSlot where
  mailboxes : Std.TreeMap MailboxId Mailbox := ∅
  installed : Option MailboxId := none

namespace PullSlot

def mailbox (slot : PullSlot) (id : MailboxId) : Mailbox := slot.mailboxes.getD id {}

def create (slot : PullSlot) (id : MailboxId) : PullSlot :=
  { slot with mailboxes := slot.mailboxes.insert id {} }

def publish (slot : PullSlot) (id : MailboxId) (capture : Capture) : Bool × PullSlot :=
  let (stored, mailbox) := (slot.mailbox id).publish capture
  (stored, { slot with mailboxes := slot.mailboxes.insert id mailbox })

/-- Installs a mailbox. The answer is the one that it displaces. -/
def install (slot : PullSlot) (id : MailboxId) : Option MailboxId × PullSlot :=
  (slot.installed, { slot with installed := some id })

def clear (slot : PullSlot) : Option MailboxId × PullSlot :=
  (slot.installed, { slot with installed := none })

/-- Removes a mailbox only if it is the one installed. The answer is whether it was. -/
def withdraw (slot : PullSlot) (id : MailboxId) : Bool × PullSlot :=
  if slot.installed = some id then (true, { slot with installed := none }) else (false, slot)

def installProfiler (slot : PullSlot) (own : MailboxId) : List LogLine × PullSlot :=
  match slot.install own with
  | (none, slot) => ([], slot)
  | (some _, slot) => ([.mailboxReplaced], slot)

/-- A profiler that goes away takes its own mailbox out of the slot, and leaves any other one. -/
def retireProfiler (slot : PullSlot) (own : MailboxId) : List LogLine × PullSlot :=
  match slot.withdraw own with
  | (true, slot) => ([.mailboxRemoved], slot)
  | (false, slot) => ([], slot)

def read (slot : PullSlot) (request : Mailbox.Request) : Mailbox.Answer × PullSlot :=
  match slot.installed with
  | none => (⟨0, request.memory⟩, slot)
  | some id =>
      let (answer, mailbox) := (slot.mailbox id).pull request
      (answer, { slot with mailboxes := slot.mailboxes.insert id mailbox })

end PullSlot

end StackSampler
