import StackSampler.Proofs.Pass.Published
import StackSampler.Proofs.Pull.Ownership

/-!
# Readers with enough room lose nothing

A foreign reader whose buffer is as long as the configured one has room for every capture that a
pass can publish, and no capture is empty. So zero tells it that nothing waited and nothing else,
and what it gets, read by read, is what was published, in that order.
-/

namespace StackSampler

namespace Mailbox

def Answer.bytes (answer : Answer) : List UInt8 :=
  (answer.memory.getD []).take answer.length.toInt.toNat

def Answer.capture? (answer : Answer) : Option Capture :=
  if answer.length = 0 then none else some answer.bytes

end Mailbox

namespace PullSlot

def received? (slot : PullSlot) : Op → Option Capture
  | .read request => (slot.read request).1.capture?
  | _ => none

def received (slot : PullSlot) : List Op → List Capture
  | [] => []
  | op :: ops => (slot.received? op).toList ++ (slot.perform op).received ops

end PullSlot

/-- A foreign read whose buffer is not null and has room for captures of a size. -/
structure AmpleReader (capacity : Nat) where
  length : Int32
  memory : List UInt8
  ample : capacity ≤ length.toInt
  covered : length.toInt ≤ memory.length

variable {capacity : Nat}

def AmpleReader.request (reader : AmpleReader capacity) : Mailbox.Request :=
  ⟨reader.length, some reader.memory⟩

inductive PullCall (capacity : Nat) where
  | publish (capture : Capture)
  | read (reader : AmpleReader capacity)

namespace PullCall

/-- The use of the mailbox that a call makes. A reader's destination is what its length claims. -/
def use : PullCall capacity → Mailbox.Use
  | .publish capture => .published capture
  | .read ⟨length, memory, _, _⟩ => .shared (.consume (memory.take length.toInt.toNat))

def onSlot (own : MailboxId) : PullCall capacity → PullSlot.Op
  | .publish capture => .publish own capture
  | .read reader => .read reader.request

end PullCall

open Wire (Sound)

theorem AmpleReader.valid_request (reader : AmpleReader capacity) : reader.request.Valid := by
  intro memory same
  cases same
  exact reader.covered

namespace Mailbox

inductive PulledWhole (capacity : Nat) (reader : AmpleReader capacity) (mailbox : Mailbox) :
    Answer × Mailbox → Prop where
  | nothing (empty : mailbox.slots.toList = []) :
      PulledWhole capacity reader mailbox (⟨0, reader.request.memory⟩, mailbox)
  | whole {oldest : Capture} {slots : Slots} {answer : Answer}
      (waits : mailbox.slots.toList = oldest :: slots.toList) (sound : Sound capacity oldest)
      (nonzero : answer.length ≠ 0) (told : answer.length.toInt = oldest.length)
      (bytes : answer.bytes = oldest) :
      PulledWhole capacity reader mailbox (answer, { mailbox with slots })

/-- Whether nothing was lost of a mailbox and only sound captures wait there. -/
structure Stocked (capacity : Nat) (mailbox : Mailbox) : Prop where
  ordered : mailbox.slots.Ordered
  lost : mailbox.lost = 0
  sound : ∀ capture ∈ mailbox.slots.toList, Sound capacity capture

theorem stocked_empty (capacity : Nat) : Stocked capacity {} :=
  ⟨fun _ => rfl, rfl, nofun⟩

section Stocked

variable {mailbox : Mailbox} (stocked : mailbox.Stocked capacity)
include stocked

theorem Stocked.pulled_whole (reader : AmpleReader capacity) :
    PulledWhole capacity reader mailbox (mailbox.pull reader.request) := by
  have pulled := pulled_pull stocked.ordered reader.valid_request
  generalize mailbox.pull reader.request = done at pulled ⊢
  cases pulled with
  | nothing empty => exact .nothing empty
  | @copied oldest slots length waits fits exact =>
      have sound := stocked.sound oldest (by rw [waits]; exact .head _)
      refine .whole waits sound ?_ exact ?_
      · -- No capture is empty, so its length is no zero.
        rintro rfl
        have least := sound.least
        change (0 : Int) = oldest.length at exact
        omega
      · change (oldest ++ reader.memory.drop oldest.length).take length.toInt.toNat = oldest
        rw [exact, Int.toNat_natCast, List.take_left]
  | @lost oldest slots waits short =>
      have fits := (stocked.sound oldest (by rw [waits]; exact .head _)).fits
      have claimed := reader.ample
      change reader.length.toInt.toNat < oldest.length at short
      omega

theorem Stocked.stocked_pull (reader : AmpleReader capacity) :
    (mailbox.pull reader.request).2.Stocked capacity := by
  have ordered := ordered_pull stocked.ordered reader.request
  have pulled := stocked.pulled_whole reader
  generalize mailbox.pull reader.request = done at ordered pulled ⊢
  cases pulled with
  | nothing empty => exact stocked
  | whole waits =>
      refine ⟨ordered, stocked.lost, ?_⟩
      intro capture left
      apply stocked.sound
      rw [waits]
      exact .tail _ left

theorem Stocked.stocked_publish {capture : Capture} (sound : Sound capacity capture) :
    (mailbox.publish capture).2.Stocked capacity := by
  cases room : mailbox.hasRoom with
  | true =>
      obtain ⟨slots, published, ordered, listed⟩ :=
        publish_of_has_room stocked.ordered room capture
      rw [published]
      refine ⟨ordered, stocked.lost, ?_⟩
      intro other waits
      rw [listed, List.mem_append, List.mem_singleton] at waits
      rcases waits with before | rfl
      · exact stocked.sound other before
      · exact sound
  | false =>
      rw [publish_of_full room]
      exact ⟨stocked.ordered, stocked.lost, stocked.sound⟩

theorem Stocked.stocked_call (call : PullCall capacity)
    (sound : ∀ capture ∈ call.use.published?, Sound capacity capture) :
    (mailbox.perform call.use.op).2.Stocked capacity := by
  cases call with
  | publish capture => exact stocked.stocked_publish (sound capture rfl)
  | read reader => exact stocked.stocked_pull reader

end Stocked

end Mailbox

namespace PullSlot

theorem install_profiler_create (process : PullSlot) (own : MailboxId) :
    ((process.create own).installProfiler own).2.installed = some own ∧
      ((process.create own).installProfiler own).2.mailbox own = {} := by
  rw [install_profiler_snd]
  exact ⟨rfl, mailbox_insert process own {}⟩

structure ReadsWhole (capacity : Nat) (own : MailboxId) (slot : PullSlot)
    (request : Mailbox.Request) : Prop where
  nothing_iff : (slot.read request).1.length = 0 ↔ (slot.mailbox own).pending = 0
  told : (slot.read request).1.bytes.length = (slot.read request).1.length.toInt
  sound : (slot.read request).1.length ≠ 0 → Sound capacity (slot.read request).1.bytes

section Calls

variable {slot : PullSlot} {own : MailboxId} (installed : slot.installed = some own)
include installed

theorem perform_on_slot (call : PullCall capacity) :
    (slot.perform (call.onSlot own)).installed = some own ∧
      (slot.perform (call.onSlot own)).mailbox own =
        ((slot.mailbox own).perform call.use.op).2 := by
  cases call with
  | publish capture => exact ⟨installed, mailbox_insert slot own _⟩
  | read reader =>
      rw [PullCall.onSlot, perform, read_of_installed installed]
      exact ⟨installed, mailbox_insert slot own _⟩

variable (stocked : (slot.mailbox own).Stocked capacity)
include stocked

theorem reads_whole_of_stocked (reader : AmpleReader capacity) :
    slot.ReadsWhole capacity own reader.request := by
  have answered : (slot.read reader.request).1 = ((slot.mailbox own).pull reader.request).1 := by
    rw [read_of_installed installed]
  have pulled := stocked.pulled_whole reader
  generalize (slot.mailbox own).pull reader.request = done at answered pulled
  cases pulled with
  | nothing empty =>
      constructor
      · rw [answered, Mailbox.pending, Slots.count, empty]
        exact ⟨fun _ => rfl, fun _ => rfl⟩
      · rw [answered]
        rfl
      · rw [answered]
        exact absurd rfl
  | whole waits sound nonzero told bytes =>
      constructor
      · rw [answered, Mailbox.pending, Slots.count, waits]
        exact ⟨fun zero => absurd zero nonzero, nofun⟩
      · rw [answered, bytes, told]
      · rw [answered, bytes]
        exact fun _ => sound

theorem received_on_slot (call : PullCall capacity) :
    slot.received? (call.onSlot own) = (slot.mailbox own).removedBy call.use.op := by
  cases call with
  | publish capture => rfl
  | read reader =>
      have oldest : (slot.mailbox own).removedBy (PullCall.read reader).use.op =
          (slot.mailbox own).slots.toList.head? := stocked.ordered.take_fst
      rw [oldest, PullCall.onSlot, received?, read_of_installed installed]
      have pulled := stocked.pulled_whole reader
      generalize (slot.mailbox own).pull reader.request = done at pulled ⊢
      cases pulled with
      | nothing empty =>
          rw [empty]
          rfl
      | whole waits sound nonzero told bytes =>
          rw [waits, Mailbox.Answer.capture?, if_neg nonzero, bytes]
          rfl

/-- A run of calls leaves a mailbox stocked, with what its uses leave in it, and what readers got is
what was removed. -/
theorem run_on_slot {calls : List (PullCall capacity)}
    (sound : ∀ capture ∈ (calls.map PullCall.use).filterMap Mailbox.Use.published?,
      Sound capacity capture) :
    let left := slot.run (calls.map (PullCall.onSlot own))
    let ops := (calls.map PullCall.use).map Mailbox.Use.op
    left.installed = some own ∧ (left.mailbox own).Stocked capacity ∧
      left.mailbox own = (slot.mailbox own).run ops ∧
      slot.received (calls.map (PullCall.onSlot own)) = (slot.mailbox own).removed ops := by
  induction calls generalizing slot with
  | nil => exact ⟨installed, stocked, rfl, rfl⟩
  | cons call calls induction =>
      have first : ∀ capture ∈ call.use.published?, Sound capacity capture := by
        intro capture own
        exact sound capture (List.mem_filterMap.mpr ⟨call.use, .head _, own⟩)
      have later : ∀ capture ∈ (calls.map PullCall.use).filterMap Mailbox.Use.published?,
          Sound capacity capture := by
        intro capture member
        obtain ⟨use, within, own⟩ := List.mem_filterMap.mp member
        exact sound capture (List.mem_filterMap.mpr ⟨use, .tail _ within, own⟩)
      obtain ⟨still, moved⟩ := perform_on_slot installed call
      have next := stocked.stocked_call call first
      rw [← moved] at next
      obtain ⟨kept, last, mailbox, received⟩ := induction still next later
      rw [moved] at mailbox received
      refine ⟨kept, last, mailbox, ?_⟩
      rw [List.map_cons, PullSlot.received, received_on_slot installed stocked, received]
      rfl

end Calls

end PullSlot

theorem only_readers_calls (calls : List (PullCall capacity)) :
    OnlyReaders (calls.map PullCall.use) := by
  intro op member
  obtain ⟨call, -, same⟩ := List.mem_map.mp member
  cases call with
  | publish capture => cases same
  | read reader =>
      cases same
      rfl

theorem Settings.min_capacity_le {settings : Settings} (accepted : settings.check = .ok ()) :
    Wire.Writer.minCapacity ≤ settings.bufferCapacity.toNat := by
  by_contra short
  rw [check] at accepted
  by_cases still : settings.intervalMillis = 0
  · rw [if_pos still] at accepted
    cases accepted
  · rw [if_neg still, if_pos (Nat.lt_of_not_le short)] at accepted
    cases accepted

variable {ι : Type} {ρ : ι → Type} [DecidableEq ι]

/-- Samplers of a fresh profiler with valid settings take turns while its mailbox is installed, and
nobody else publishes into it. If every read, wherever it falls, is a foreign one with room for the
configured buffer, no capture is ever lost. A read is answered with zero exactly if nothing waited;
otherwise the answer is the length of a capture that fits the configured buffer and can be read.
What the readers got, in order, and then what still waits, are the published captures in order. -/
theorem ample_readers_lose_nothing {settings : Settings} (accepted : settings.check = .ok ())
    (bounded : settings.bufferCapacity.toNat ≤ Int32.maxValue.toInt)
    (api : (who : ι) → Host (ρ who)) (hosts : (who : ι) → ρ who) (turns : List (CrewTurn ρ))
    (process : PullSlot) (own : MailboxId)
    (calls : List (PullCall settings.bufferCapacity.toNat))
    (shown : usesIn ((Crew.ofHosts settings hosts).run api turns).1 = calls.map PullCall.use) :
    let log := ((Crew.ofHosts settings hosts).run api turns).1
    let left := ((Crew.ofHosts settings hosts).run api turns).2
    let slot := ((process.create own).installProfiler own).2
    let behind := fun calls : List (PullCall settings.bufferCapacity.toNat) =>
      slot.run (calls.map (PullCall.onSlot own))
    (∀ front back, calls = front ++ back → ((behind front).mailbox own).lost = 0) ∧
    (∀ front reader back, calls = front ++ .read reader :: back →
      (behind front).ReadsWhole settings.bufferCapacity.toNat own reader.request) ∧
    slot.received (calls.map (PullCall.onSlot own)) ++ ((behind calls).mailbox own).slots.toList =
      (capturesIn log).map Prod.fst ∧
    (behind calls).mailbox own = left.profiler.mailbox := by
  intro log left slot behind
  have small : settings.bufferCapacity.toNat < UInt32.size := by
    have largest : Int32.maxValue.toInt < UInt32.size := by decide
    omega
  have publishes : Publishes settings.bufferCapacity.toNat {} left.profiler.mailbox log :=
    (Crew.configured_of_hosts settings hosts).publishes_run api
      (Settings.min_capacity_le accepted) small (fun _ => rfl) turns
  obtain ⟨installed, fresh⟩ : slot.installed = some own ∧ slot.mailbox own = {} :=
    process.install_profiler_create own
  have stocked : (slot.mailbox own).Stocked settings.bufferCapacity.toNat := by
    rw [fresh]
    exact Mailbox.stocked_empty _
  have captures : (calls.map PullCall.use).filterMap Mailbox.Use.published? =
      (capturesIn log).map Prod.fst := by
    rw [← shown]
    exact published_uses_in log
  have ops : (calls.map PullCall.use).map Mailbox.Use.op = opsIn log := by
    rw [← shown]
    exact map_op_uses_in log
  have alone : OnlyReaders (usesIn log) := by
    change OnlyReaders (usesIn ((Crew.ofHosts settings hosts).run api turns).1)
    rw [shown]
    exact only_readers_calls calls
  have reached : ∀ front back, calls = front ++ back →
      (behind front).installed = some own ∧
        ((behind front).mailbox own).Stocked settings.bufferCapacity.toNat := by
    rintro front back rfl
    have sound : ∀ capture ∈ (front.map PullCall.use).filterMap Mailbox.Use.published?,
        Sound settings.bufferCapacity.toNat capture := by
      intro capture member
      apply publishes.sound
      rw [← captures, List.map_append, List.filterMap_append]
      exact List.mem_append_left _ member
    obtain ⟨still, kept, -⟩ := PullSlot.run_on_slot installed stocked sound
    exact ⟨still, kept⟩
  have sound := publishes.sound
  rw [← captures] at sound
  obtain ⟨-, -, mailbox, received⟩ := PullSlot.run_on_slot installed stocked sound
  rw [fresh, ops] at mailbox received
  refine ⟨?_, ?_, ?_, ?_⟩
  · intro front back split
    exact (reached front back split).2.lost
  · intro front reader back split
    obtain ⟨still, kept⟩ := reached front _ split
    exact PullSlot.reads_whole_of_stocked still kept reader
  · obtain ⟨-, moved⟩ := @Mailbox.run_conserves {} (fun _ => rfl) (opsIn log)
    change slot.received _ ++ ((slot.run _).mailbox own).slots.toList = _
    rw [received, mailbox, moved]
    exact publishes.stored alone
  · exact mailbox.trans publishes.mailbox.symm

def visitedHost : Host Unit where
  metadata :=
    { describe := fun _ _ _ => (.error .notFound, ())
      typeName := fun _ _ => (.error .notFound, ()) }
  suspend _ := ⟨.ok (), (), []⟩
  threads _ := ([⟨7⟩], ⟨.ok (), (), []⟩)
  walk _ _ := .offer ⟨10⟩ ⟨1⟩ () fun _ _ => .finish ⟨.ok (), (), []⟩
  resume _ := ⟨.ok (), (), [.consume (List.replicate 17 9)]⟩
  clock _ := 0

def tightSettings : Settings := { bufferCapacity := 17 }

def tightReader : AmpleReader tightSettings.bufferCapacity.toNat where
  length := 17
  memory := List.replicate 20 9
  ample := by decide
  covered := by decide

def brimfulCapture : Capture := [1, 2, 0, 0, 0, 7, 0, 0, 0, 0, 0, 0, 0, 0, 0, 0, 6]

def tightCalls : List (PullCall tightSettings.bufferCapacity.toNat) :=
  [.read tightReader, .publish brimfulCapture, .read tightReader, .publish brimfulCapture]

theorem ample_readers_lose_nothing_brimful :
    let slot := ((({} : PullSlot).create ⟨3⟩).installProfiler ⟨3⟩).2
    let calls := tightCalls.map (PullCall.onSlot ⟨3⟩)
    tightSettings.check = .ok () ∧ tightSettings.bufferCapacity.toNat ≤ Int32.maxValue.toInt ∧
      usesIn (((Crew.ofHosts tightSettings fun _ : Unit => ()).run (fun _ => visitedHost)
        [.pass (), .pass ()]).1) = tightCalls.map PullCall.use ∧
      brimfulCapture.length = tightSettings.bufferCapacity.toNat ∧
      slot.received calls = [brimfulCapture] ∧
      ((slot.run calls).mailbox ⟨3⟩).slots.toList = [brimfulCapture] ∧
      ((slot.run calls).mailbox ⟨3⟩).lost = 0 := by
  intro slot calls
  have accepted : tightSettings.check = .ok () := by decide
  have bounded : tightSettings.bufferCapacity.toNat ≤ Int32.maxValue.toInt := by decide
  have shown : usesIn (((Crew.ofHosts tightSettings fun _ : Unit => ()).run (fun _ => visitedHost)
      [.pass (), .pass ()]).1) = tightCalls.map PullCall.use := by decide +kernel
  have received : slot.received calls = [brimfulCapture] := by decide +kernel
  obtain ⟨lost, -, gone, -⟩ := ample_readers_lose_nothing accepted bounded (fun _ => visitedHost)
    (fun _ : Unit => ()) [.pass (), .pass ()] {} ⟨3⟩ tightCalls shown
  have published : (capturesIn ((Crew.ofHosts tightSettings fun _ : Unit => ()).run
      (fun _ => visitedHost) [.pass (), .pass ()]).1).map Prod.fst =
      [brimfulCapture, brimfulCapture] := by decide +kernel
  rw [published] at gone
  change slot.received calls ++ _ = _ at gone
  rw [received] at gone
  exact ⟨accepted, bounded, shown, rfl, received, (List.cons.inj gone).2,
    lost tightCalls [] (List.append_nil _).symm⟩

end StackSampler
