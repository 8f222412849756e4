import StackSampler.Proofs.Pass.Readers

/-!
# Slow readers only delay captures

Where a sampler alone publishes, no capture is ever thrown away, and a pass that finds no room does
nothing but count itself. What is captured does not depend on the readers either: whenever they
read, the captures are those of as many passes that were left alone, and they leave the mailbox in
order.
-/

namespace StackSampler

/-- A pass that is due, or something that a reader does between two passes. -/
inductive Tick where
  | pass
  | read (reading : Reading)
deriving DecidableEq, Repr

inductive Happening (ρ : Type) where
  | tick (tick : Tick)
  | notify (notice : Notice)
  | drift (host : Attended ρ)

variable {ρ : Type}

def Tick.turn : Tick → Turn ρ
  | .pass => .pass
  | .read reading => .share reading.op

def Happening.turn : Happening ρ → Turn (Attended ρ)
  | .tick due => due.turn
  | .notify notice => .notify notice
  | .drift host => .drift host

def Mailbox.Op.published? : Mailbox.Op → Option Capture
  | .publish capture => some capture
  | _ => none

/-- The captures that some operations publish, stored or not. -/
def publishedBy (ops : List Mailbox.Op) : List Capture := ops.filterMap Mailbox.Op.published?

namespace Session

def ops (api : Host ρ) (session : Session ρ) : List (Turn ρ) → List Mailbox.Op
  | [] => []
  | .notify notice :: turns => (session.notify notice).ops api turns
  | .share op :: turns => op :: (session.share op).ops api turns
  | .drift host :: turns => { session with host }.ops api turns
  | .pass :: turns =>
      match (session.pass api).result with
      | .error .aborted => opsOf (session.pass api).journal
      | _ => opsOf (session.pass api).journal ++ (session.pass api).session.ops api turns

def emptied (session : Session ρ) : Session ρ :=
  { session with profiler := { session.profiler with mailbox := {} } }

/-- What some passes publish if each of them finds the mailbox empty. -/
def captures (api : Host ρ) (session : Session ρ) : Nat → List Capture
  | 0 => []
  | count + 1 =>
      match (session.emptied.pass api).result with
      | .error .aborted => publishedBy (opsOf (session.emptied.pass api).journal)
      | _ => publishedBy (opsOf (session.emptied.pass api).journal) ++
          (session.emptied.pass api).session.captures api count

def made (api : Host ρ) (session : Session ρ) (turns : List (Turn ρ)) : Nat :=
  (session.passes api turns).countP (fun step => step.1.profiler.mailbox.hasRoom)

theorem captures_prefix (api : Host ρ) {few many : Nat} (le : few ≤ many) (session : Session ρ) :
    session.captures api few <+: session.captures api many := by
  induction few generalizing session many with
  | zero => exact List.nil_prefix
  | succ few induction =>
      obtain ⟨more, rfl⟩ := Nat.exists_eq_add_of_lt le
      rw [captures, captures]
      split
      · exact List.prefix_refl _
      · rw [List.prefix_append_right_inj]
        exact induction (Nat.le_add_right few more) _

end Session

/-- Whether a pass threw nothing away, and did nothing if it was skipped. -/
structure NothingDropped (step : Session ρ × PassEnd ρ) : Prop where
  before : step.1.profiler.mailbox.dropped = 0
  behind : step.2.profiler.mailbox.dropped = 0
  mailbox : step.2.profiler.mailbox = step.1.profiler.mailbox.run (opsOf step.2.journal)
  stored : ∀ capture stored, .published capture stored ∈ step.2.journal → stored = true
  reported : ∀ report, step.2.result = .ok (some report) →
    report.published = true ∧ (publishedBy (opsOf step.2.journal)).length = 1
  skipped : step.1.profiler.mailbox.hasRoom = false →
    step.2 = ⟨.ok none, { step.1.profiler with tally := step.1.profiler.tally.countSkip },
      step.1.sampler, step.1.host, #[]⟩

theorem published_by_append (front back : List Mailbox.Op) :
    publishedBy (front ++ back) = publishedBy front ++ publishedBy back :=
  List.filterMap_append

theorem published_by_readings (readings : List Reading) :
    publishedBy (readings.map Reading.op) = [] := by
  rw [publishedBy, List.filterMap_map, List.filterMap_eq_nil_iff]
  intro reading _
  cases reading <;> rfl

theorem published_by_publish (captured : List Capture) :
    publishedBy (captured.map Mailbox.Op.publish) = captured := by
  rw [publishedBy, List.filterMap_map]
  exact List.filterMap_some

theorem StoresAmongReaders.published_by_ops {mailbox : Mailbox} {done : PassEnd ρ}
    {readings : List Reading} {captured : List Capture}
    (stores : StoresAmongReaders mailbox done readings captured) :
    publishedBy (opsOf done.journal) = captured := by
  rw [stores.ops, published_by_append, published_by_readings, published_by_publish, List.nil_append]

theorem Mailbox.run_readings_publish {mailbox : Mailbox} (ordered : mailbox.slots.Ordered)
    (room : mailbox.hasRoom = true) (readings : List Reading) {captured : List Capture}
    (atMostOne : captured.length ≤ 1) :
    (mailbox.run (readings.map Reading.op ++ captured.map Op.publish)).dropped = mailbox.dropped ∧
      mailbox.stored (readings.map Reading.op ++ captured.map Op.publish) = captured := by
  obtain ⟨roomy, kept, none⟩ := mailbox.run_readings readings
  obtain ⟨orderedLeft, -⟩ := run_conserves ordered (readings.map Reading.op)
  rw [run_append, stored_append, none, List.nil_append, ← kept]
  match captured with
  | [] => exact ⟨rfl, rfl⟩
  | [capture] =>
      obtain ⟨slots, published, -⟩ := publish_of_has_room orderedLeft (roomy room) capture
      constructor
      · change (Mailbox.publish _ capture).2.dropped = _
        rw [published]
      · simp [stored, storedBy, roomy room]
  | _ :: _ :: _ => simp at atMostOne

section Stores

variable {mailbox : Mailbox} {done : PassEnd ρ} {readings : List Reading} {captured : List Capture}
  (stores : StoresAmongReaders mailbox done readings captured) (ordered : mailbox.slots.Ordered)
include stores ordered

theorem StoresAmongReaders.ordered_behind : done.profiler.mailbox.slots.Ordered := by
  rw [stores.mailbox]
  exact (Mailbox.run_conserves ordered _).1

theorem StoresAmongReaders.dropped_unchanged (room : mailbox.hasRoom = true) :
    done.profiler.mailbox.dropped = mailbox.dropped := by
  rw [stores.mailbox, stores.ops]
  exact (Mailbox.run_readings_publish ordered room readings stores.atMostOne).1

theorem StoresAmongReaders.stored_ops (room : mailbox.hasRoom = true) :
    mailbox.stored (opsOf done.journal) = captured := by
  rw [stores.ops]
  exact (Mailbox.run_readings_publish ordered room readings stores.atMostOne).2

end Stores

structure Session.Undropped (session : Session ρ) : Prop where
  ordered : session.profiler.mailbox.slots.Ordered
  dropped : session.profiler.mailbox.dropped = 0

theorem Session.ordered_read (session : Session ρ) (reading : Reading) :
    (session.share reading.op).profiler.mailbox.slots.Ordered := by
  obtain ⟨lost, left⟩ := session.profiler.mailbox.perform_reading reading
  change (session.profiler.mailbox.perform reading.op).2.slots.Ordered
  rw [left]
  exact Slots.ordered_take _

theorem Session.Undropped.undropped_share {session : Session ρ} (undropped : session.Undropped)
    (reading : Reading) : (session.share reading.op).Undropped := by
  refine ⟨session.ordered_read reading, ?_⟩
  obtain ⟨lost, left⟩ := session.profiler.mailbox.perform_reading reading
  change (session.profiler.mailbox.perform reading.op).2.dropped = 0
  rw [left]
  exact undropped.dropped

theorem Happening.keeps_undropped (happening : Happening ρ) :
    happening.turn.Keeps Session.Undropped := by
  match happening with
  | .tick .pass => exact trivial
  | .tick (.read reading) => exact fun _ undropped => undropped.undropped_share reading
  | .notify notice => exact fun _ undropped => ⟨undropped.ordered, undropped.dropped⟩
  | .drift host => exact fun _ undropped => ⟨undropped.ordered, undropped.dropped⟩

theorem Session.nothing_dropped_pass (api : Host ρ) {session : Session (Attended ρ)}
    (undropped : session.Undropped) :
    NothingDropped (session, session.pass api.attended) ∧
      (session.pass api.attended).session.Undropped := by
  obtain ⟨ordered, dropped⟩ := undropped
  cases room : session.profiler.mailbox.hasRoom with
  | false =>
      rw [pass_of_full api.attended room]
      exact ⟨⟨dropped, dropped, rfl, nofun, nofun, fun _ => rfl⟩, ordered, dropped⟩
  | true =>
      obtain ⟨captured, readings, -, stores, -⟩ :=
        pass_among_readers api ⟨rfl, rfl, rfl⟩ ordered room ordered room
      have behind := (stores.dropped_unchanged ordered room).trans dropped
      refine ⟨⟨dropped, behind, stores.mailbox, stores.stored, ?_, ?_⟩,
        stores.ordered_behind ordered,
        behind⟩
      · intro report reported
        rw [stores.published_by_ops]
        exact stores.reported report reported
      · intro full
        rw [full] at room
        cases room

theorem Session.nothing_dropped_passes (api : Host ρ) {session : Session (Attended ρ)}
    (start : session.Undropped) (happenings : List (Happening ρ)) :
    ∀ step ∈ session.passes api.attended (happenings.map Happening.turn), NothingDropped step := by
  intro step member
  have others : ∀ turn ∈ happenings.map Happening.turn, turn.Keeps Session.Undropped := by
    intro turn listed
    obtain ⟨happening, -, rfl⟩ := List.mem_map.mp listed
    exact happening.keeps_undropped
  obtain ⟨undropped, same⟩ := forall_mem_passes_of_kept api.attended
    (fun session undropped => (nothing_dropped_pass api undropped).2) others start step member
  have found := (nothing_dropped_pass api undropped).1
  rw [← same] at found
  exact found

theorem Session.Alike.alike_emptied {session other : Session (Attended ρ)}
    (alike : session.Alike other) :
    session.Alike other.emptied :=
  ⟨alike.host, alike.sampler, alike.directory⟩

section Ops

variable (api : Host ρ) (session : Session ρ) (turns : List (Turn ρ))

theorem Session.captures_succ (count : Nat)
    (going : (session.emptied.pass api).result ≠ .error .aborted) :
    session.captures api (count + 1) =
      publishedBy (opsOf (session.emptied.pass api).journal) ++
        (session.emptied.pass api).session.captures api count := by
  rw [captures]
  split
  · exact absurd ‹_› going
  · rfl

theorem Session.made_share (op : Mailbox.Op) :
    session.made api (.share op :: turns) = (session.share op).made api turns :=
  rfl

theorem Session.ops_pass_of_aborted (aborted : (session.pass api).result = .error .aborted) :
    session.ops api (.pass :: turns) = opsOf (session.pass api).journal := by
  rw [ops, aborted]

theorem Session.ops_pass (going : (session.pass api).result ≠ .error .aborted) :
    session.ops api (.pass :: turns) =
      opsOf (session.pass api).journal ++ (session.pass api).session.ops api turns := by
  rw [ops]
  split
  · exact absurd ‹_› going
  · rfl

theorem Session.made_pass_of_aborted (aborted : (session.pass api).result = .error .aborted) :
    session.made api (.pass :: turns) = session.profiler.mailbox.hasRoom.toNat := by
  rw [made, passes, aborted]
  cases room : session.profiler.mailbox.hasRoom <;> simp [room]

theorem Session.made_pass (going : (session.pass api).result ≠ .error .aborted) :
    session.made api (.pass :: turns) =
      (session.pass api).session.made api turns + session.profiler.mailbox.hasRoom.toNat := by
  rw [made, passes]
  split
  · exact absurd ‹_› going
  · rw [List.countP_cons]
    cases room : session.profiler.mailbox.hasRoom <;> rfl

end Ops

theorem StoresAmongReaders.stored_append {mailbox : Mailbox} {done : PassEnd ρ}
    {readings : List Reading} {captured : List Capture}
    (stores : StoresAmongReaders mailbox done readings captured) (ordered : mailbox.slots.Ordered)
    (room : mailbox.hasRoom = true) (later : List Mailbox.Op) :
    mailbox.stored (opsOf done.journal ++ later) =
      captured ++ done.profiler.mailbox.stored later := by
  rw [Mailbox.stored_append, stores.stored_ops ordered room, stores.mailbox]

/-- Whether a run publishes the captures that another session has if it is left alone, and stores
them all. -/
structure Session.PublishesAs (api : Host ρ) (session other : Session ρ) (turns : List (Turn ρ)) :
    Prop where
  captures : publishedBy (session.ops api turns) = other.captures api (session.made api turns)
  stored : session.profiler.mailbox.stored (session.ops api turns) =
    publishedBy (session.ops api turns)

section PublishesAs

variable {api : Host ρ} {session other : Session (Attended ρ)} {turns : List (Turn (Attended ρ))}

theorem Session.PublishesAs.publishes_as_share {reading : Reading}
    (rest : (session.share reading.op).PublishesAs api.attended other turns) :
    session.PublishesAs api.attended other (.share reading.op :: turns) := by
  obtain ⟨captures, stored⟩ := rest
  constructor
  · rw [made_share, ← captures, ops]
    cases reading <;> rfl
  · rw [ops]
    cases reading <;> exact stored

theorem Session.PublishesAs.publishes_as_skip (full : session.profiler.mailbox.hasRoom = false)
    (rest : (session.pass api.attended).session.PublishesAs api.attended other turns) :
    session.PublishesAs api.attended other (.pass :: turns) := by
  have skipped := pass_of_full api.attended full
  have going : (session.pass api.attended).result ≠ .error .aborted := by
    rw [skipped]
    exact nofun
  have quiet : opsOf (session.pass api.attended).journal = [] := by
    rw [skipped]
    rfl
  have mailbox : (session.pass api.attended).session.profiler.mailbox =
      session.profiler.mailbox := by
    rw [skipped]
    rfl
  obtain ⟨captures, stored⟩ := rest
  constructor
  · rw [ops_pass _ _ _ going, made_pass _ _ _ going, full, quiet]
    exact captures
  · rw [ops_pass _ _ _ going, quiet, ← mailbox]
    exact stored

/-- A pass that is made publishes what it would have captured alone. -/
theorem Session.PublishesAs.publishes_as_pass (alike : session.Alike other)
    (ordered : session.profiler.mailbox.slots.Ordered)
    (room : session.profiler.mailbox.hasRoom = true)
    (rest : ∀ next, (session.pass api.attended).session.Alike next →
      (session.pass api.attended).session.PublishesAs api.attended next turns) :
    session.PublishesAs api.attended other (.pass :: turns) := by
  obtain ⟨captured, readings, readingsOther, stores, storesOther, crashes, next⟩ :=
    pass_among_readers api alike.alike_emptied ordered room (fun _ => rfl) rfl
  have published := stores.published_by_ops
  have publishedOther := storesOther.published_by_ops
  by_cases aborted : (session.pass api.attended).result = .error .aborted
  · -- The pass that is left alone ends the process, too.
    have abortedOther := crashes.mp aborted
    constructor
    · rw [ops_pass_of_aborted _ _ _ aborted, made_pass_of_aborted _ _ _ aborted, room, published,
        Bool.toNat_true, Session.captures, abortedOther]
      exact publishedOther.symm
    · rw [ops_pass_of_aborted _ _ _ aborted, published]
      exact stores.stored_ops ordered room
  · have going := mt crashes.mpr aborted
    obtain ⟨captures, stored⟩ := rest _ next
    constructor
    · rw [ops_pass _ _ _ aborted, made_pass _ _ _ aborted, room, Bool.toNat_true,
        captures_succ _ _ _ going, published_by_append, published, publishedOther, captures]
    · rw [ops_pass _ _ _ aborted, published_by_append, published,
        stores.stored_append ordered room, ← stored]
      rfl

end PublishesAs

/-- The passes that a run among readers makes publish the captures of as many passes that were left
alone, and all of them are stored. -/
theorem Session.publishes_as_ticks (api : Host ρ) (ticks : List Tick)
    {session other : Session (Attended ρ)} (alike : session.Alike other)
    (ordered : session.profiler.mailbox.slots.Ordered) :
    session.PublishesAs api.attended other (ticks.map Tick.turn) := by
  induction ticks generalizing session other with
  | nil => exact ⟨rfl, rfl⟩
  | cons tick ticks induction =>
      cases tick with
      | read reading =>
          apply PublishesAs.publishes_as_share
          exact induction ⟨alike.host, alike.sampler, alike.directory⟩
            (ordered_read session reading)
      | pass =>
          cases room : session.profiler.mailbox.hasRoom with
          | false =>
              apply PublishesAs.publishes_as_skip room
              rw [pass_of_full api.attended room]
              exact induction ⟨alike.host, alike.sampler, alike.directory⟩ ordered
          | true =>
              obtain ⟨captured, readings, -, stores, -⟩ :=
                pass_among_readers api ⟨rfl, rfl, rfl⟩ ordered room ordered room
              apply PublishesAs.publishes_as_pass alike ordered room
              intro next same
              exact induction same (stores.ordered_behind ordered)

/-- A session with an empty mailbox that only readers share. -/
def Session.amongReaders (profiler : Profiler) (sampler : Sampler) (host : ρ)
    (coming : List Moment) : Session (Attended ρ) :=
  ⟨{ profiler with mailbox := {} }, sampler, ⟨host, coming⟩⟩

/-- With one publisher and any readers nothing is ever thrown away: every publication is stored, and
a skipped pass changes nothing but its count. If nothing else happens, the captures published by
then are those of as many passes that were left alone, whenever the readers read; they are removed
in that order, and what is not yet removed waits. So of two ways in which readers may read, the one
that lets fewer passes be made publishes, and its readers remove, the first captures that the other
one publishes. -/
theorem readers_only_delay (api : Host ρ) (profiler : Profiler) (sampler : Sampler) (host : ρ) :
    let session := Session.amongReaders profiler sampler host
    let ops := fun coming (ticks : List Tick) =>
      (session coming).ops api.attended (ticks.map Tick.turn)
    let made := fun coming (ticks : List Tick) =>
      (session coming).made api.attended (ticks.map Tick.turn)
    (∀ coming (happenings : List (Happening ρ)),
      ∀ step ∈ (session coming).passes api.attended (happenings.map Happening.turn),
        NothingDropped step) ∧
    (∀ coming ticks,
      publishedBy (ops coming ticks) =
          (session []).captures api.attended (made coming ticks) ∧
        Mailbox.removed {} (ops coming ticks) ++
            (Mailbox.run {} (ops coming ticks)).slots.toList = publishedBy (ops coming ticks)) ∧
    ∀ coming ticks later more, made coming ticks ≤ made later more →
      publishedBy (ops coming ticks) <+: publishedBy (ops later more) ∧
        Mailbox.removed {} (ops coming ticks) <+: publishedBy (ops later more) := by
  intro session ops made
  have published : ∀ coming ticks,
      publishedBy (ops coming ticks) = (session []).captures api.attended (made coming ticks) ∧
        Mailbox.stored {} (ops coming ticks) = publishedBy (ops coming ticks) := by
    intro coming ticks
    obtain ⟨captures, stored⟩ := @Session.publishes_as_ticks ρ api ticks (session coming)
      (session []) ⟨rfl, rfl, rfl⟩ (fun _ => rfl)
    exact ⟨captures, stored⟩
  have conserved : ∀ coming ticks, Mailbox.removed {} (ops coming ticks) ++
      (Mailbox.run {} (ops coming ticks)).slots.toList = publishedBy (ops coming ticks) := by
    intro coming ticks
    obtain ⟨-, moved⟩ := @Mailbox.run_conserves {} (fun _ => rfl) (ops coming ticks)
    exact moved.trans (published coming ticks).2
  refine ⟨?_, ?_, ?_⟩
  · intro coming happenings
    apply Session.nothing_dropped_passes api
    exact ⟨fun _ => rfl, rfl⟩
  · intro coming ticks
    exact ⟨(published coming ticks).1, conserved coming ticks⟩
  · intro coming ticks later more le
    have first : publishedBy (ops coming ticks) <+: publishedBy (ops later more) := by
      rw [(published coming ticks).1, (published later more).1]
      exact Session.captures_prefix api.attended le _
    have own : Mailbox.removed {} (ops coming ticks) <+: publishedBy (ops coming ticks) :=
      ⟨_, conserved coming ticks⟩
    exact ⟨first, own.trans first⟩

end StackSampler
