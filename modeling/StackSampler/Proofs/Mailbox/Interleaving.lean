import Mathlib.Data.List.Perm.Basic
import StackSampler.Proofs.Mailbox.Refinement
import StackSampler.Proofs.Mailbox.Traffic

/-!
# Calls that interleave

Every capture is accounted for under every schedule of calls: it was rejected, or it waits, or
exactly one call removed it. The counters lag behind what happened by exactly the calls that have
not counted yet.
-/

namespace StackSampler

namespace Mailbox

/-- The stages that an operation may come to. A capture is consumed by copying all of it to the
front of the destination, and it is lost exactly where the destination is too short for that. -/
inductive Call.Fits : Call → Prop where
  | waiting {op : Op} : Call.Fits ⟨op, .waiting⟩
  | stored {capture : Capture} {number : Nat} : Call.Fits ⟨.publish capture, .stored number⟩
  | rejected {capture : Capture} {counted : Bool} :
      Call.Fits ⟨.publish capture, .rejected counted⟩
  | empty {op : Op} (reads : ∀ capture, op ≠ .publish capture) : Call.Fits ⟨op, .empty⟩
  | taken {number : Nat} {capture : Capture} : Call.Fits ⟨.take, .taken number capture⟩
  | copied {number : Nat} {capture : Capture} {front back : List UInt8}
      (covers : front.length = capture.length) :
      Call.Fits ⟨.consume (front ++ back),
        .copied number capture ⟨capture.length, capture ++ back⟩⟩
  | lost {number : Nat} {capture : Capture} {destination : List UInt8} {counted : Bool}
      (short : destination.length < capture.length) :
      Call.Fits ⟨.consume destination, .lost number capture counted⟩

/-- How a mailbox stands to the calls that were made on it. -/
structure Balanced (mailbox : Mailbox) (calls : List Call) : Prop where
  ordered : mailbox.slots.Ordered
  fits : ∀ call ∈ calls, call.Fits
  stores : ∀ number,
    countOf (Stage.stores number) calls = if number < countOf Stage.isStored calls then 1 else 0
  removes : ∀ number,
    countOf (Stage.removes number) calls = if number < countOf Stage.isRemoval calls then 1 else 0
  removed : ∀ call ∈ calls, ∀ number capture, call.stage.removal? = some (number, capture) →
    ⟨.publish capture, .stored number⟩ ∈ calls
  held : ∀ index capture, mailbox.slots.toList[index]? = some capture →
    ⟨.publish capture, .stored (countOf Stage.isRemoval calls + index)⟩ ∈ calls
  kept : countOf Stage.isStored calls =
    countOf Stage.isRemoval calls + mailbox.slots.toList.length
  dropped : mailbox.dropped + UInt64.ofNat (countOf Stage.owesDropped calls) =
    UInt64.ofNat (countOf Stage.isRejected calls)
  lost : mailbox.lost + UInt64.ofNat (countOf Stage.owesLost calls) =
    UInt64.ofNat (countOf Stage.isLost calls)

theorem count_of_cons (kind : Stage → Bool) (call : Call) (calls : List Call) :
    countOf kind (call :: calls) = countOf kind calls + (kind call.stage).toNat := by
  rw [countOf, List.countP_cons]
  cases kind call.stage <;> rfl

theorem count_of_cons_of_false {kind : Stage → Bool} {call : Call} (other : kind call.stage = false)
    (calls : List Call) : countOf kind (call :: calls) = countOf kind calls := by
  rw [count_of_cons, other]
  rfl

theorem count_of_perm (kind : Stage → Bool) {calls others : List Call}
    (same : calls.Perm others) : countOf kind calls = countOf kind others :=
  same.countP_eq _

theorem Balanced.balanced_of_perm {mailbox : Mailbox} {calls others : List Call}
    (balanced : Balanced mailbox calls) (same : calls.Perm others) : Balanced mailbox others := by
  have counts : ∀ kind, countOf kind others = countOf kind calls :=
    fun kind => count_of_perm kind same.symm
  constructor
  · exact balanced.ordered
  · exact fun call member => balanced.fits call (same.mem_iff.mpr member)
  · simpa only [counts] using balanced.stores
  · simpa only [counts] using balanced.removes
  · intro call member number capture removal
    exact same.mem_iff.mp (balanced.removed call (same.mem_iff.mpr member) number capture removal)
  · intro index capture listed
    rw [counts]
    exact same.mem_iff.mp (balanced.held index capture listed)
  · simpa only [counts] using balanced.kept
  · simpa only [counts] using balanced.dropped
  · simpa only [counts] using balanced.lost

theorem exists_perm_cons {calls : List Call} {index : Nat} {call : Call}
    (found : calls[index]? = some call) :
    ∃ others, calls.Perm (call :: others) ∧
      ∀ next, (calls.set index next).Perm (next :: others) := by
  obtain ⟨bound, rfl⟩ := List.getElem?_eq_some_iff.mp found
  exact ⟨calls.eraseIdx index, (List.getElem_cons_eraseIdx_perm bound).symm,
    List.set_perm_cons_eraseIdx bound⟩

theorem balanced_empty : Balanced {} [] where
  ordered _ := rfl
  fits _ member := by cases member
  stores _ := rfl
  removes _ := rfl
  removed _ member := by cases member
  held _ _ listed := by cases listed
  kept := rfl
  dropped := rfl
  lost := rfl

namespace Stage

/-- A stage in which a call has moved no capture. What it rejects it has not counted yet. -/
structure Idle (stage : Stage) : Prop where
  stored : stage.isStored = false
  removal : stage.removal? = none
  uncounted : stage.isRejected = stage.owesDropped

/-- A stage in which a reader leaves the locked step with a capture. What it loses it has not
counted yet. -/
structure Removing (stage : Stage) (number : Nat) (capture : Capture) : Prop where
  removal : stage.removal? = some (number, capture)
  uncounted : stage.isLost = stage.owesLost

/-- Whether counting is all that lies between two stages. -/
structure CountsInto (stage next : Stage) : Prop where
  stored : stage.isStored = false ∧ next.isStored = false
  removal : next.removal? = stage.removal?
  rejected : next.isRejected = stage.isRejected
  lost : next.isLost = stage.isLost

theorem stores_eq_false {stage : Stage} (other : stage.isStored = false) (number : Nat) :
    stage.stores number = false := by
  cases stage <;> first | rfl | cases other

theorem of_removal_eq_none {stage : Stage} (none : stage.removal? = none) :
    stage.isRemoval = false ∧ (∀ number, stage.removes number = false) ∧ stage.isLost = false ∧
      stage.owesLost = false := by
  cases stage <;> first | exact ⟨rfl, fun _ => rfl, rfl, rfl⟩ | cases none

end Stage

theorem numbered_succ (number next : Nat) :
    (if number < next then 1 else 0) + (decide (next = number)).toNat =
      if number < next + 1 then 1 else 0 := by
  by_cases new : next = number
  · simp [new]
  · have older : number < next + 1 ↔ number < next := by omega
    simp [new, older]

section Steps

variable {mailbox : Mailbox} {calls : List Call}

theorem Balanced.balanced_cons_idle (balanced : Balanced mailbox calls) {call : Call}
    (fits : call.Fits) (idle : call.stage.Idle) : Balanced mailbox (call :: calls) := by
  obtain ⟨stored, removal, uncounted⟩ := idle
  obtain ⟨removed, removes, lost, owesLost⟩ := Stage.of_removal_eq_none removal
  have stores := Stage.stores_eq_false stored
  constructor
  · exact balanced.ordered
  · exact List.forall_mem_cons.mpr ⟨fits, balanced.fits⟩
  · intro number
    rw [count_of_cons_of_false (stores number), count_of_cons_of_false stored, balanced.stores]
  · intro number
    rw [count_of_cons_of_false (removes number), count_of_cons_of_false removed, balanced.removes]
  · intro other member number capture found
    rcases List.mem_cons.mp member with rfl | within
    · rw [removal] at found
      cases found
    · exact List.mem_cons_of_mem _ (balanced.removed other within number capture found)
  · intro index capture listed
    rw [count_of_cons_of_false removed]
    exact List.mem_cons_of_mem _ (balanced.held index capture listed)
  · rw [count_of_cons_of_false stored, count_of_cons_of_false removed, balanced.kept]
  · rw [count_of_cons, count_of_cons, uncounted, UInt64.ofNat_add, UInt64.ofNat_add,
      ← UInt64.add_assoc, balanced.dropped]
  · rw [count_of_cons_of_false owesLost, count_of_cons_of_false lost, balanced.lost]

theorem Balanced.of_wait {op : Op} (balanced : Balanced mailbox (⟨op, .waiting⟩ :: calls)) :
    Balanced mailbox calls := by
  have same : ∀ {kind : Stage → Bool}, kind .waiting = false →
      countOf kind calls = countOf kind (⟨op, .waiting⟩ :: calls) :=
    fun other => (count_of_cons_of_false other calls).symm
  have publisher : ∀ {capture number}, ⟨.publish capture, .stored number⟩ ∈
      (⟨op, .waiting⟩ : Call) :: calls → (⟨.publish capture, .stored number⟩ : Call) ∈ calls := by
    intro capture number member
    rcases List.mem_cons.mp member with waits | within
    · cases waits
    · exact within
  constructor
  · exact balanced.ordered
  · exact (List.forall_mem_cons.mp balanced.fits).2
  · intro number
    rw [same rfl, same rfl, balanced.stores]
  · intro number
    rw [same rfl, same rfl, balanced.removes]
  · intro call member number capture removal
    exact publisher
      (balanced.removed call (List.mem_cons_of_mem _ member) number capture removal)
  · intro index capture listed
    rw [same rfl]
    exact publisher (balanced.held index capture listed)
  · rw [same rfl, same rfl, balanced.kept]
  · rw [same rfl, same rfl, balanced.dropped]
  · rw [same rfl, same rfl, balanced.lost]

/-- A capture that is stored takes the next number and waits behind all others. -/
theorem Balanced.balanced_store (balanced : Balanced mailbox calls) {slots : Slots}
    {capture : Capture} (ordered : slots.Ordered)
    (listed : slots.toList = mailbox.slots.toList ++ [capture]) :
    Balanced { mailbox with slots }
      (⟨.publish capture, .stored (countOf Stage.isStored calls)⟩ :: calls) := by
  constructor
  · exact ordered
  · exact List.forall_mem_cons.mpr ⟨.stored, balanced.fits⟩
  · intro number
    rw [count_of_cons, count_of_cons, balanced.stores]
    simp only [Stage.stores, Stage.isStored, Stage.stored.injEq, Bool.toNat_true]
    exact numbered_succ number _
  · intro number
    rw [count_of_cons, count_of_cons, balanced.removes]
    rfl
  · intro call member number removedCapture removal
    rcases List.mem_cons.mp member with rfl | within
    · cases removal
    · exact List.mem_cons_of_mem _
        (balanced.removed call within number removedCapture removal)
  · intro index waits found
    rw [listed, List.getElem?_append] at found
    rw [count_of_cons]
    split at found
    · exact List.mem_cons_of_mem _ (balanced.held index waits found)
    · -- Only the new capture waits behind those that waited before.
      rename_i behind
      have last : index = mailbox.slots.toList.length := by
        obtain ⟨bound, -⟩ := List.getElem?_eq_some_iff.mp found
        simp only [List.length_singleton] at bound
        omega
      subst last
      rw [Nat.sub_self] at found
      cases found
      have number := balanced.kept
      rw [number]
      exact List.mem_cons_self
  · rw [count_of_cons, count_of_cons, balanced.kept, listed, List.length_append]
    simp [Stage.isStored, Stage.isRemoval, Stage.removal?, Nat.add_assoc]
  · rw [count_of_cons, count_of_cons]
    exact balanced.dropped
  · rw [count_of_cons, count_of_cons]
    exact balanced.lost

/-- A reader removes the capture that waits in front, which has the lowest number of those that
wait. -/
theorem Balanced.balanced_remove (balanced : Balanced mailbox calls) {slots : Slots}
    {oldest : Capture} (ordered : slots.Ordered)
    (listed : mailbox.slots.toList = oldest :: slots.toList) {op : Op} {stage : Stage}
    (fits : Call.Fits ⟨op, stage⟩)
    (removing : stage.Removing (countOf Stage.isRemoval calls) oldest) :
    Balanced { mailbox with slots } (⟨op, stage⟩ :: calls) := by
  have removal := removing.removal
  have isRemoval : stage.isRemoval = true := by rw [Stage.isRemoval, removal]; rfl
  have notStored : stage.isStored = false := by
    cases stage <;> first | rfl | cases removal
  have notRejected : stage.isRejected = false ∧ stage.owesDropped = false := by
    cases stage <;> first | exact ⟨rfl, rfl⟩ | cases removal
  have publisher : ⟨.publish oldest, .stored (countOf Stage.isRemoval calls)⟩ ∈ calls :=
    balanced.held 0 oldest (by rw [listed]; rfl)
  constructor
  · exact ordered
  · exact List.forall_mem_cons.mpr ⟨fits, balanced.fits⟩
  · intro number
    rw [count_of_cons_of_false (Stage.stores_eq_false notStored number),
      count_of_cons_of_false notStored, balanced.stores]
  · intro number
    rw [count_of_cons, count_of_cons, balanced.removes, isRemoval, Stage.removes, removal]
    exact numbered_succ number _
  · intro call member number capture removed
    rcases List.mem_cons.mp member with rfl | within
    · rw [removal] at removed
      cases removed
      exact List.mem_cons_of_mem _ publisher
    · exact List.mem_cons_of_mem _ (balanced.removed call within number capture removed)
  · intro index capture found
    rw [count_of_cons, isRemoval, Nat.add_right_comm]
    apply List.mem_cons_of_mem
    apply balanced.held (index + 1) capture
    rw [listed]
    exact found
  · rw [count_of_cons_of_false notStored, count_of_cons, balanced.kept, listed, isRemoval,
      List.length_cons, Bool.toNat_true, Nat.add_right_comm, Nat.add_assoc]
  · rw [count_of_cons_of_false notRejected.2, count_of_cons_of_false notRejected.1,
      balanced.dropped]
  · rw [count_of_cons, count_of_cons, removing.uncounted, UInt64.ofNat_add, UInt64.ofNat_add,
      ← UInt64.add_assoc, balanced.lost]

theorem Balanced.balanced_count {op : Op} {stage next : Stage} {counted : Mailbox}
    (balanced : Balanced mailbox (⟨op, stage⟩ :: calls)) (slots : counted.slots = mailbox.slots)
    (fits : Call.Fits ⟨op, next⟩) (counts : stage.CountsInto next)
    (dropped : counted.dropped + UInt64.ofNat next.owesDropped.toNat =
      mailbox.dropped + UInt64.ofNat stage.owesDropped.toNat)
    (lost : counted.lost + UInt64.ofNat next.owesLost.toNat =
      mailbox.lost + UInt64.ofNat stage.owesLost.toNat) :
    Balanced counted (⟨op, next⟩ :: calls) := by
  obtain ⟨⟨notStored, nextNotStored⟩, removal, rejected, isLost⟩ := counts
  have stored : countOf Stage.isStored (⟨op, next⟩ :: calls) =
      countOf Stage.isStored (⟨op, stage⟩ :: calls) := by
    rw [count_of_cons, count_of_cons, notStored, nextNotStored]
  have removed : countOf Stage.isRemoval (⟨op, next⟩ :: calls) =
      countOf Stage.isRemoval (⟨op, stage⟩ :: calls) := by
    rw [count_of_cons, count_of_cons, Stage.isRemoval, removal]
    rfl
  have publisher : ∀ {capture number}, ⟨.publish capture, .stored number⟩ ∈
      (⟨op, stage⟩ : Call) :: calls →
        (⟨.publish capture, .stored number⟩ : Call) ∈ (⟨op, next⟩ : Call) :: calls := by
    intro capture number member
    rcases List.mem_cons.mp member with own | within
    · cases own
      cases notStored
    · exact List.mem_cons_of_mem _ within
  constructor
  · rw [slots]
    exact balanced.ordered
  · exact List.forall_mem_cons.mpr ⟨fits, (List.forall_mem_cons.mp balanced.fits).2⟩
  · intro number
    rw [stored, ← balanced.stores,
      count_of_cons_of_false (Stage.stores_eq_false nextNotStored number),
      count_of_cons_of_false (Stage.stores_eq_false notStored number)]
  · intro number
    rw [removed, ← balanced.removes, count_of_cons, count_of_cons, Stage.removes, removal]
    rfl
  · intro call member number capture found
    apply publisher
    rcases List.mem_cons.mp member with rfl | within
    · rw [removal] at found
      exact balanced.removed _ List.mem_cons_self number capture found
    · exact balanced.removed call (List.mem_cons_of_mem _ within) number capture found
  · intro index capture found
    rw [slots] at found
    rw [removed]
    exact publisher (balanced.held index capture found)
  · rw [stored, removed, slots, balanced.kept]
  · have owed := balanced.dropped
    rw [count_of_cons, count_of_cons, UInt64.ofNat_add] at owed
    rw [count_of_cons, count_of_cons, rejected, UInt64.ofNat_add]
    grind
  · have owed := balanced.lost
    rw [count_of_cons, count_of_cons, UInt64.ofNat_add] at owed
    rw [count_of_cons, count_of_cons, isLost, UInt64.ofNat_add]
    grind

end Steps

namespace Traffic

theorem fate_removing (number : Nat) (capture : Capture) {op : Op}
    (reads : ∀ published, op ≠ .publish published) :
    Call.Fits ⟨op, fate number capture op⟩ ∧ (fate number capture op).Removing number capture := by
  match op with
  | .publish published => exact absurd rfl (reads published)
  | .take => exact ⟨.taken, rfl, rfl⟩
  | .consume destination =>
      rw [fate]
      rcases deliver_cases capture destination with
        ⟨short, delivered⟩ | ⟨front, back, rfl, covers, delivered⟩
      · rw [delivered]
        exact ⟨.lost short, rfl, rfl⟩
      · rw [delivered]
        exact ⟨.copied covers, rfl, rfl⟩

variable {traffic : Traffic} (balanced : Balanced traffic.mailbox traffic.calls) {index : Nat}
  {op : Op} (found : traffic.calls[index]? = some ⟨op, .waiting⟩)
include balanced found

theorem balanced_remove (reads : ∀ published, op ≠ .publish published) :
    Balanced (traffic.remove index op).mailbox (traffic.remove index op).calls := by
  obtain ⟨others, same, next⟩ := exists_perm_cons found
  have waits := (balanced.balanced_of_perm same).of_wait
  have number : countOf Stage.isRemoval traffic.calls = countOf Stage.isRemoval others := by
    rw [count_of_perm _ same, count_of_cons_of_false rfl]
  have ordered := balanced.ordered
  have listed := traffic.mailbox.slots.toList_take
  have behind := traffic.mailbox.slots.ordered_take
  rw [remove]
  rcases taken : traffic.mailbox.slots.take with ⟨first, slots⟩
  rw [taken] at listed behind
  cases first with
  | none =>
      have unchanged : slots = traffic.mailbox.slots := ordered.eq_of_take_none taken
      change Balanced { traffic.mailbox with slots } _
      rw [unchanged]
      exact (waits.balanced_cons_idle (.empty reads) ⟨rfl, rfl, rfl⟩).balanced_of_perm (next _).symm
  | some oldest =>
      obtain ⟨fits, removing⟩ := fate_removing (countOf Stage.isRemoval others) oldest reads
      dsimp only
      rw [number]
      exact (waits.balanced_remove behind listed.symm fits removing).balanced_of_perm (next _).symm

theorem balanced_lock : Balanced (traffic.lock index op).mailbox (traffic.lock index op).calls := by
  match op with
  | .take => exact balanced_remove balanced found nofun
  | .consume destination => exact balanced_remove balanced found nofun
  | .publish capture =>
      obtain ⟨others, same, next⟩ := exists_perm_cons found
      have waits := (balanced.balanced_of_perm same).of_wait
      have number : countOf Stage.isStored traffic.calls = countOf Stage.isStored others := by
        rw [count_of_perm _ same, count_of_cons_of_false rfl]
      rw [lock]
      cases room : traffic.mailbox.hasRoom with
      | true =>
          obtain ⟨slots, put, ordered, listed⟩ :=
            Slots.put_of_has_room balanced.ordered room capture
          rw [put]
          dsimp only
          rw [number]
          exact (waits.balanced_store ordered listed).balanced_of_perm (next _).symm
      | false =>
          rw [Slots.put_of_full room]
          exact (waits.balanced_cons_idle .rejected ⟨rfl, rfl, rfl⟩).balanced_of_perm (next _).symm

omit balanced found in
theorem balanced_move (balanced : Balanced traffic.mailbox traffic.calls) (move : Move) :
    Balanced (traffic.move move).mailbox (traffic.move move).calls := by
  cases move with
  | enter op =>
      have entered := @Balanced.balanced_cons_idle _ _ balanced ⟨op, .waiting⟩ .waiting
        ⟨rfl, rfl, rfl⟩
      exact entered.balanced_of_perm (List.perm_append_singleton _ _).symm
  | lock index =>
      rw [Traffic.move]
      split
      · rename_i op found
        exact balanced_lock balanced found
      · exact balanced
  | count index =>
      rw [Traffic.move]
      split
      · rename_i op found
        obtain ⟨others, same, next⟩ := exists_perm_cons found
        have owing := balanced.balanced_of_perm same
        have fits : Call.Fits ⟨op, .rejected true⟩ := by
          have own := owing.fits _ List.mem_cons_self
          cases own
          exact .rejected
        have counted : Balanced traffic.mailbox.countDropped (⟨op, .rejected true⟩ :: others) := by
          refine owing.balanced_count ?_ fits ⟨⟨rfl, rfl⟩, rfl, rfl, rfl⟩ ?_ ?_
          · rfl
          · exact UInt64.add_zero _
          · rfl
        exact counted.balanced_of_perm (next _).symm
      · rename_i op number capture found
        obtain ⟨others, same, next⟩ := exists_perm_cons found
        have owing := balanced.balanced_of_perm same
        have fits : Call.Fits ⟨op, .lost number capture true⟩ := by
          have own := owing.fits _ List.mem_cons_self
          cases own with
          | lost short => exact .lost short
        have counted : Balanced traffic.mailbox.countLost
            (⟨op, .lost number capture true⟩ :: others) := by
          refine owing.balanced_count ?_ fits ⟨⟨rfl, rfl⟩, rfl, rfl, rfl⟩ ?_ ?_
          · rfl
          · rfl
          · exact UInt64.add_zero _
        exact counted.balanced_of_perm (next _).symm
      · exact balanced

omit balanced found in
theorem balanced_run (balanced : Balanced traffic.mailbox traffic.calls) (schedule : List Move) :
    Balanced (traffic.run schedule).mailbox (traffic.run schedule).calls := by
  induction schedule generalizing traffic with
  | nil => exact balanced
  | cons move schedule induction => exact induction (balanced_move balanced move)

end Traffic

theorem has_published_of_fits {call : Call} (fits : call.Fits) :
    call.hasPublished = (call.stage.isStored || call.stage.isRejected) := by
  cases fits with
  | @waiting op => cases op <;> rfl
  | @empty op reads =>
      cases op with
      | publish capture => exact absurd rfl (reads capture)
      | take => rfl
      | consume destination => rfl
  | _ => rfl

theorem countP_has_published {calls : List Call} (fits : ∀ call ∈ calls, call.Fits) :
    calls.countP Call.hasPublished =
      countOf Stage.isStored calls + countOf Stage.isRejected calls := by
  induction calls with
  | nil => rfl
  | cons call calls induction =>
      have rest := induction (fun other member => fits other (List.mem_cons_of_mem _ member))
      have own := has_published_of_fits (fits call List.mem_cons_self)
      rw [List.countP_cons, rest, own, count_of_cons, count_of_cons]
      cases call.stage <;> simp [Stage.isStored, Stage.isRejected] <;> omega

theorem count_of_is_removal (calls : List Call) :
    countOf Stage.isRemoval calls =
      countOf Stage.isTaken calls + countOf Stage.isCopied calls + countOf Stage.isLost calls := by
  induction calls with
  | nil => rfl
  | cons call calls induction =>
      rw [count_of_cons, count_of_cons, count_of_cons, count_of_cons, induction]
      cases call.stage <;>
        simp [Stage.isRemoval, Stage.removal?, Stage.isTaken, Stage.isCopied, Stage.isLost] <;>
        omega

theorem count_of_eq_zero {kind : Stage → Bool} {calls : List Call}
    (none : ∀ call ∈ calls, kind call.stage = false) : countOf kind calls = 0 := by
  rw [countOf, List.countP_eq_zero]
  intro call member holds
  rw [none call member] at holds
  cases holds

/-- In every state that any schedule of calls reaches, at most two captures are held. Each call that
published has had its capture stored or rejected; each stored capture is held, or was removed by
exactly one call, which took it, copied all of it or, exactly where its destination was too short,
lost it. The two counters fall short of what was rejected and lost by the calls that have yet to
count, so they are right whenever there are none. -/
theorem every_capture_accounted (schedule : List Move) :
    let traffic := ({} : Traffic).run schedule
    let calls := traffic.calls
    let held := traffic.mailbox.slots.toList
    let published := calls.countP Call.hasPublished
    let removed := countOf Stage.isRemoval calls
    held.length ≤ 2 ∧
    published = countOf Stage.isRejected calls + held.length + removed ∧
    (∀ number, countOf (Stage.stores number) calls =
      if number < removed + held.length then 1 else 0) ∧
    (∀ number, countOf (Stage.removes number) calls = if number < removed then 1 else 0) ∧
    (∀ call ∈ calls, ∀ number capture, call.stage.removal? = some (number, capture) →
      ⟨.publish capture, .stored number⟩ ∈ calls) ∧
    (∀ index capture, held[index]? = some capture →
      ⟨.publish capture, .stored (removed + index)⟩ ∈ calls) ∧
    (∀ call ∈ calls, call.Fits) ∧
    traffic.mailbox.dropped + UInt64.ofNat (countOf Stage.owesDropped calls) =
      UInt64.ofNat (countOf Stage.isRejected calls) ∧
    traffic.mailbox.lost + UInt64.ofNat (countOf Stage.owesLost calls) =
      UInt64.ofNat (countOf Stage.isLost calls) ∧
    ((∀ call ∈ calls, call.stage.isMidway = false) →
      traffic.mailbox.dropped = UInt64.ofNat (countOf Stage.isRejected calls) ∧
      traffic.mailbox.lost = UInt64.ofNat (countOf Stage.isLost calls) ∧
      UInt64.ofNat published = traffic.mailbox.dropped + UInt64.ofNat held.length +
        UInt64.ofNat (countOf Stage.isTaken calls) + UInt64.ofNat (countOf Stage.isCopied calls) +
        traffic.mailbox.lost) := by
  intro traffic calls held published removed
  have balanced : Balanced traffic.mailbox calls :=
    @Traffic.balanced_run {} balanced_empty schedule
  have account : calls.countP Call.hasPublished = countOf Stage.isRejected calls +
      traffic.mailbox.slots.toList.length + countOf Stage.isRemoval calls := by
    have fates := countP_has_published balanced.fits
    have kept := balanced.kept
    omega
  refine ⟨traffic.mailbox.slots.length_toList_le, account, ?_, balanced.removes,
    balanced.removed, balanced.held, balanced.fits, balanced.dropped, balanced.lost, ?_⟩
  · intro number
    rw [balanced.stores, balanced.kept]
  · intro settled
    have noneDropped : countOf Stage.owesDropped calls = 0 :=
      count_of_eq_zero fun call member => (Bool.or_eq_false_iff.mp (settled call member)).1
    have noneLost : countOf Stage.owesLost calls = 0 :=
      count_of_eq_zero fun call member => (Bool.or_eq_false_iff.mp (settled call member)).2
    have dropped := balanced.dropped
    have lost := balanced.lost
    rw [noneDropped] at dropped
    rw [noneLost] at lost
    have right : traffic.mailbox.dropped = UInt64.ofNat (countOf Stage.isRejected calls) :=
      (UInt64.add_zero _).symm.trans dropped
    have rightLost : traffic.mailbox.lost = UInt64.ofNat (countOf Stage.isLost calls) :=
      (UInt64.add_zero _).symm.trans lost
    refine ⟨right, rightLost, ?_⟩
    change UInt64.ofNat (calls.countP Call.hasPublished) = _
    rw [account, count_of_is_removal, right, rightLost]
    simp only [UInt64.ofNat_add, UInt64.add_assoc]
    rfl

end Mailbox

end StackSampler
