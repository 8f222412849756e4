/-!
A mailbox of two slots between the sampler and a reader. The sampler must never wait for a slow or
absent reader, so a capture that finds both slots full is thrown away and counted.

Each operation is one locked step on the slots, followed by a step on a counter where the operation
counts something; the two are separate definitions, because others may come between them.
-/

namespace StackSampler

abbrev Capture := List UInt8

/-- The captures that wait, the older one in `first`. -/
structure Slots where
  first : Option Capture := none
  second : Option Capture := none
deriving DecidableEq, Repr

namespace Slots

def hasRoom (slots : Slots) : Bool := slots.first.isNone || slots.second.isNone

def toList (slots : Slots) : List Capture := slots.first.toList ++ slots.second.toList

def count (slots : Slots) : Nat := slots.toList.length

def put (slots : Slots) (capture : Capture) : Bool × Slots :=
  match slots with
  | ⟨none, second⟩ => (true, ⟨some capture, second⟩)
  | ⟨some first, none⟩ => (true, ⟨some first, some capture⟩)
  | full => (false, full)

/-- Removes the older capture. The other one moves up, so that later captures land behind it. -/
def take (slots : Slots) : Option Capture × Slots :=
  (slots.first, ⟨slots.second, none⟩)

end Slots

/-- The slots, the captures thrown away because both were full, and those lost because a reader's
destination was too small. -/
structure Mailbox where
  slots : Slots := {}
  dropped : UInt64 := 0
  lost : UInt64 := 0
deriving DecidableEq, Repr

namespace Mailbox

/-- Whether a slot is free now. Nothing is reserved for the asker. -/
def hasRoom (mailbox : Mailbox) : Bool := mailbox.slots.hasRoom

def pending (mailbox : Mailbox) : Nat := mailbox.slots.count

def countDropped (mailbox : Mailbox) : Mailbox := { mailbox with dropped := mailbox.dropped + 1 }

def countLost (mailbox : Mailbox) : Mailbox := { mailbox with lost := mailbox.lost + 1 }

/-- Stores a capture, or throws it away if both slots are full. The answer is whether it was
stored. -/
def publish (mailbox : Mailbox) (capture : Capture) : Bool × Mailbox :=
  match mailbox.slots.put capture with
  | (true, slots) => (true, { mailbox with slots })
  | (false, slots) => (false, { mailbox with slots }.countDropped)

def take (mailbox : Mailbox) : Option Capture × Mailbox :=
  let (capture, slots) := mailbox.slots.take
  (capture, { mailbox with slots })

structure Delivery where
  copied : Nat
  destination : List UInt8
deriving DecidableEq, Repr

def deliver? (capture : Capture) (destination : List UInt8) : Option Delivery :=
  if destination.length < capture.length then none
  else some ⟨capture.length, capture ++ destination.drop capture.length⟩

/-- Moves the oldest capture into a destination. One that does not fit is removed all the same and
counted as lost: no capture is ever delivered twice. -/
def consume (mailbox : Mailbox) (destination : List UInt8) : Delivery × Mailbox :=
  match mailbox.take with
  | (none, mailbox) => (⟨0, destination⟩, mailbox)
  | (some capture, mailbox) =>
      match deliver? capture destination with
      | some delivery => (delivery, mailbox)
      | none => (⟨0, destination⟩, mailbox.countLost)

inductive Op where
  | publish (capture : Capture)
  | take
  | consume (destination : List UInt8)
deriving DecidableEq, Repr

inductive Outcome where
  | published (stored : Bool)
  | taken (capture : Option Capture)
  | consumed (delivery : Delivery)
deriving DecidableEq, Repr

def perform (mailbox : Mailbox) : Op → Outcome × Mailbox
  | .publish capture =>
      let (stored, mailbox) := mailbox.publish capture
      (.published stored, mailbox)
  | .take =>
      let (capture, mailbox) := mailbox.take
      (.taken capture, mailbox)
  | .consume destination =>
      let (delivery, mailbox) := mailbox.consume destination
      (.consumed delivery, mailbox)

end Mailbox

end StackSampler
