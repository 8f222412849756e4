import StackSampler.Proofs.Mailbox.Queue
import StackSampler.Proofs.Pass.Sessions
import StackSampler.Proofs.Pass.SideBySide

/-!
# Passes among readers

Readers may use the mailbox at any time, also while a pass is under way. Here a host is given the
whole of that in advance: for each of its runtime calls to come, what readers do while the call runs
and what the clock shows. Nothing that a pass captures depends on it.
-/

namespace StackSampler

def Event.op? : Event → Option Mailbox.Op
  | .shared op _ => some op
  | .published capture _ => some (.publish capture)
  | _ => none

def opsOf (journal : Array Event) : List Mailbox.Op := journal.toList.filterMap Event.op?

structure Moment where
  now : Nat := 0
  readings : List Reading := []
deriving DecidableEq, Repr

/-- A host's state, and the moments of its calls to come. -/
structure Attended (ρ : Type) where
  host : ρ
  coming : List Moment := []

variable {ρ : Type}

def Answer.attended (answer : Answer ρ) (coming : List Moment) : Answer (Attended ρ) where
  reply := answer.reply
  host := ⟨answer.host, coming.tail⟩
  meanwhile := (coming.headD {}).readings.map Reading.op

def Walk.attended : Walk ρ → List Moment → Walk (Attended ρ)
  | .finish answer, coming => .finish (answer.attended coming)
  | .offer method context host next, coming =>
      .offer method context ⟨host, coming⟩ fun verdict at_ =>
        (next verdict at_.host).attended at_.coming

def Metadata.attended (source : Metadata ρ) : Metadata (Attended ρ) where
  describe method context at_ :=
    let (reply, host) := source.describe method context at_.host
    (reply, { at_ with host })
  typeName classId at_ :=
    let (reply, host) := source.typeName classId at_.host
    (reply, { at_ with host })

/-- A host that is asked among readers. Only they share the mailbox, and when does not matter to the
host. -/
def Host.attended (api : Host ρ) : Host (Attended ρ) where
  metadata := api.metadata.attended
  suspend at_ := (api.suspend at_.host).attended at_.coming
  threads at_ := ((api.threads at_.host).1, (api.threads at_.host).2.attended at_.coming)
  walk thread at_ := (api.walk thread at_.host).attended at_.coming
  resume at_ := (api.resume at_.host).attended at_.coming
  clock at_ := (at_.coming.headD {}).now

namespace World

def ops (world : World ρ) : List Mailbox.Op := opsOf world.journal

theorem ops_note (world : World ρ) {event : Event} (other : event.op? = none) :
    (world.note event).ops = world.ops := by
  simp [ops, opsOf, note, other]

theorem ops_foldl_share (ops : List Mailbox.Op) (world : World ρ) :
    (ops.foldl share world).ops = world.ops ++ ops ∧
      (ops.foldl share world).mailbox = world.mailbox.run ops := by
  induction ops generalizing world with
  | nil => exact ⟨(List.append_nil _).symm, rfl⟩
  | cons op ops induction =>
      obtain ⟨told, left⟩ := induction (world.share op)
      have own : (world.share op).ops = world.ops ++ [op] := by
        simp [World.ops, opsOf, share, note, Event.op?]
      rw [List.foldl_cons, told, left, own, List.append_assoc]
      exact ⟨rfl, rfl⟩

/-- Whether a world has come from a mailbox by reading alone. -/
def OnlyRead (mailbox : Mailbox) (world : World ρ) : Prop :=
  ∃ readings : List Reading, world.ops = readings.map Reading.op ∧
    world.mailbox = mailbox.run (readings.map Reading.op)

theorem OnlyRead.only_read_hear {mailbox : Mailbox} {world : World ρ}
    (read : OnlyRead mailbox world) (host : ρ) {event : Event} (other : event.op? = none) :
    OnlyRead mailbox ({ world with host }.note event) := by
  obtain ⟨readings, ops, left⟩ := read
  exact ⟨readings, (ops_note _ other).trans ops, left⟩

theorem OnlyRead.only_read_settle {mailbox : Mailbox} {world : World ρ}
    (read : OnlyRead mailbox world) {answer : Answer ρ} {readings : List Reading}
    (meanwhile : answer.meanwhile = readings.map Reading.op) {event : Event}
    (other : event.op? = none) : OnlyRead mailbox (world.settle answer event) := by
  obtain ⟨earlier, ops, left⟩ := read
  obtain ⟨told, behind⟩ := ops_foldl_share answer.meanwhile world
  have shared : OnlyRead mailbox (answer.meanwhile.foldl share world) := by
    refine ⟨earlier ++ readings, ?_, ?_⟩
    · rw [told, ops, meanwhile, List.map_append]
    · rw [behind, left, meanwhile, List.map_append, Mailbox.run_append]
  exact shared.only_read_hear answer.host other

end World

structure ReadApart (mailbox other : Mailbox) (first second : World (Attended ρ)) : Prop where
  host : first.host.host = second.host.host
  read : World.OnlyRead mailbox first
  readOther : World.OnlyRead other second

section ReadApart

variable {mailbox other : Mailbox} {first second : World (Attended ρ)}
  (apart : ReadApart mailbox other first second)
include apart

theorem ReadApart.read_apart_hear (host : ρ) (coming comingOther : List Moment) {event : Event}
    (told : event.op? = none) :
    ReadApart mailbox other (World.note { first with host := ⟨host, coming⟩ } event)
      (World.note { second with host := ⟨host, comingOther⟩ } event) :=
  ⟨rfl, apart.read.only_read_hear _ told, apart.readOther.only_read_hear _ told⟩

theorem ReadApart.read_apart_settle (answer : Answer ρ) (coming comingOther : List Moment)
    {event : Event} (told : event.op? = none) :
    ReadApart mailbox other (first.settle (answer.attended coming) event)
      (second.settle (answer.attended comingOther) event) :=
  ⟨rfl, apart.read.only_read_settle rfl told, apart.readOther.only_read_settle rfl told⟩

end ReadApart

theorem walks_together_attended (mailbox other : Mailbox) (walk : Walk ρ)
    (coming comingOther : List Moment) :
    WalksTogether (ReadApart mailbox other) (walk.attended coming) (walk.attended comingOther) := by
  induction walk generalizing coming comingOther with
  | finish answer =>
      refine .finish rfl ?_
      intro first second apart
      exact apart.read_apart_settle answer coming comingOther rfl
  | offer method context host next induction =>
      refine .offer ?_ ?_
      · intro verdict first second apart
        apply apart.read_apart_hear
        rfl
      · intro verdict first second apart
        rw [apart.host]
        exact induction verdict second.host.host first.host.coming second.host.coming

/-- A host gives the same replies whatever readers do meanwhile. -/
def readersCoupling (api : Host ρ) (mailbox other : Mailbox) :
    Coupling api.attended api.attended where
  worlds := ReadApart mailbox other
  names := Eq
  suspends := by
    intro first second apart
    obtain ⟨⟨host, coming⟩, mailbox, journal⟩ := first
    have same : host = second.host.host := apart.host
    subst same
    exact ⟨rfl, apart.read_apart_settle (api.suspend _) _ _ rfl⟩
  lists := by
    intro first second apart
    obtain ⟨⟨host, coming⟩, mailbox, journal⟩ := first
    have same : host = second.host.host := apart.host
    subst same
    exact ⟨rfl, rfl, apart.read_apart_settle (api.threads _).2 _ _ rfl⟩
  begins := by
    intro thread first second apart
    exact ⟨apart.host, apart.read.only_read_hear _ rfl, apart.readOther.only_read_hear _ rfl⟩
  walks := by
    intro thread first second apart
    change WalksTogether _ ((api.walk thread first.host.host).attended _) _
    rw [apart.host]
    exact walks_together_attended mailbox other _ _ _
  resolves := by
    intro method context cache otherCache first second same apart
    cases same
    apply resolve_agree _ _ method context cache apart
    · intro method context first second apart
      obtain ⟨⟨host, coming⟩, mailbox, journal⟩ := first
      have same : host = second.host.host := apart.host
      subst same
      exact ⟨rfl, apart.read_apart_hear _ _ _ rfl⟩
    · intro classId first second apart
      obtain ⟨⟨host, coming⟩, mailbox, journal⟩ := first
      have same : host = second.host.host := apart.host
      subst same
      exact ⟨rfl, apart.read_apart_hear _ _ _ rfl⟩
  resumes := by
    intro first second apart
    obtain ⟨⟨host, coming⟩, mailbox, journal⟩ := first
    have same : host = second.host.host := apart.host
    subst same
    exact ⟨rfl, apart.read_apart_settle (api.resume _) _ _ rfl⟩

/-- What a pass does to a mailbox that only readers share with it: they read, and then it stores
what it captured, if it got that far. -/
structure StoresAmongReaders (mailbox : Mailbox) (done : PassEnd ρ) (readings : List Reading)
    (captured : List Capture) : Prop where
  ops : opsOf done.journal = readings.map Reading.op ++ captured.map Mailbox.Op.publish
  mailbox : done.profiler.mailbox = mailbox.run (opsOf done.journal)
  atMostOne : captured.length ≤ 1
  stored : ∀ capture stored, .published capture stored ∈ done.journal → stored = true
  reported : ∀ report, done.result = .ok (some report) →
    report.published = true ∧ captured.length = 1

theorem publish_not_mem_readings (capture : Capture) (readings : List Reading) :
    .publish capture ∉ readings.map Reading.op := by
  intro member
  obtain ⟨reading, -, same⟩ := List.mem_map.mp member
  cases reading <;> cases same

theorem World.OnlyRead.published_not_mem {mailbox : Mailbox} {world : World ρ}
    (read : OnlyRead mailbox world) (capture : Capture) (stored : Bool) :
    .published capture stored ∉ world.journal := by
  intro member
  obtain ⟨readings, ops, -⟩ := read
  have done : .publish capture ∈ world.ops :=
    List.mem_filterMap.mpr ⟨_, member.val, rfl⟩
  rw [ops] at done
  exact publish_not_mem_readings capture readings done

namespace Sampler

variable {mailbox : Mailbox} {window : Window ρ} (read : World.OnlyRead mailbox window.world)
  (profiler : Profiler) (sampler : Sampler) (tally : Tally)
include read

theorem abandon_among_readers (crash : Crash) :
    ∃ readings, StoresAmongReaders mailbox (abandon profiler sampler crash tally window) readings
      [] := by
  have unpublished := read.published_not_mem
  obtain ⟨readings, ops, left⟩ := read
  have told : opsOf (abandon profiler sampler crash tally window).journal =
      readings.map Reading.op := ops
  refine ⟨readings, ?_, ?_, Nat.zero_le 1, ?_, nofun⟩
  · rw [told]
    exact (List.append_nil _).symm
  · rw [told]
    exact left
  · intro capture stored member
    exact absurd member (unpublished capture stored)

theorem conclude_among_readers (ordered : mailbox.slots.Ordered) (room : mailbox.hasRoom = true) :
    ∃ readings, StoresAmongReaders mailbox (conclude profiler sampler tally window) readings
      [window.writer.closeBatch.finish] := by
  have unpublished := read.published_not_mem
  obtain ⟨readings, ops, left⟩ := read
  -- Readers made no less room than there was at the start.
  have roomLeft : window.world.mailbox.hasRoom = true := by
    rw [left]
    exact (mailbox.run_readings readings).1 room
  have orderedLeft : window.world.mailbox.slots.Ordered := by
    rw [left]
    exact (Mailbox.run_conserves ordered _).1
  obtain ⟨slots, published, -⟩ :=
    Mailbox.publish_of_has_room orderedLeft roomLeft window.writer.closeBatch.finish
  obtain ⟨lines, entries⟩ := toList_journal_conclude profiler sampler tally window
  have told : opsOf (conclude profiler sampler tally window).journal =
      readings.map Reading.op ++ [.publish window.writer.closeBatch.finish] := by
    have quiet : (lines.map Event.logged).filterMap Event.op? = [] := by
      rw [List.filterMap_map, List.filterMap_eq_nil_iff]
      exact fun _ _ => rfl
    rw [opsOf, entries, List.filterMap_append, List.filterMap_cons, quiet, ← ops]
    rfl
  have put : (window.world.publish window.writer.closeBatch.finish).1 = true := by
    rw [World.publish, published]
  refine ⟨readings, told, ?_, Nat.le_refl 1, ?_, ?_⟩
  · rw [told, Mailbox.run_append, ← left]
    rfl
  · intro capture stored member
    have listed := member.val
    rw [entries, List.mem_append, List.mem_cons] at listed
    rcases listed with within | last | logged
    · exact absurd (Array.mem_toList_iff.mp within) (unpublished capture stored)
    · cases last
      exact put
    · obtain ⟨line, -, same⟩ := List.mem_map.mp logged
      cases same
  · intro report reported
    cases reported
    exact ⟨put, rfl⟩

end Sampler

/-- Whether two sessions differ only in what readers did. -/
structure Session.Alike (session other : Session (Attended ρ)) : Prop where
  host : session.host.host = other.host.host
  sampler : session.sampler = other.sampler
  directory : session.profiler.directory = other.profiler.directory

/-- Two passes that differ only in what readers do capture and store the same. -/
theorem Session.pass_among_readers (api : Host ρ) {session other : Session (Attended ρ)}
    (alike : session.Alike other) (ordered : session.profiler.mailbox.slots.Ordered)
    (room : session.profiler.mailbox.hasRoom = true)
    (orderedOther : other.profiler.mailbox.slots.Ordered)
    (roomOther : other.profiler.mailbox.hasRoom = true) :
    ∃ captured readings readingsOther,
      StoresAmongReaders session.profiler.mailbox (session.pass api.attended) readings captured ∧
      StoresAmongReaders other.profiler.mailbox (other.pass api.attended) readingsOther captured ∧
      ((session.pass api.attended).result = .error .aborted ↔
        (other.pass api.attended).result = .error .aborted) ∧
      (session.pass api.attended).session.Alike (other.pass api.attended).session := by
  obtain ⟨profiler, sampler, host⟩ := session
  obtain ⟨otherProfiler, otherSampler, hostOther⟩ := other
  obtain ⟨sameHost, sameSampler, sameDirectory⟩ := alike
  dsimp only at sameHost sameSampler sameDirectory ordered room orderedOther roomOther ⊢
  subst sameSampler
  have begun : (readersCoupling api profiler.mailbox otherProfiler.mailbox).worlds
      (sampler.window profiler host).world (sampler.window otherProfiler hostOther).world :=
    ⟨sameHost, ⟨[], rfl, rfl⟩, ⟨[], rfl, rfl⟩⟩
  obtain ⟨window, windowOther, tally, tallyOther, beside, ended⟩ :=
    Sampler.pass_beside
      (readersCoupling api profiler.mailbox otherProfiler.mailbox).coupling_follows room roomOther
      rfl rfl (fun thread => by rw [sameDirectory]) rfl begun
  have apart : ReadApart profiler.mailbox otherProfiler.mailbox window.world windowOther.world :=
    beside.worlds
  have sameNames : window.names = windowOther.names := beside.names
  have sameSampler : { sampler with names := window.names, threads := window.threads } =
      { sampler with names := windowOther.names, threads := windowOther.threads } := by
    rw [sameNames, beside.threads]
  rw [pass, pass]
  rcases ended with ⟨done, doneOther⟩ | ⟨crash, done, doneOther⟩
  · rw [done, doneOther]
    obtain ⟨readings, stores⟩ :=
      Sampler.conclude_among_readers apart.read profiler sampler tally ordered room
    obtain ⟨readingsOther, storesOther⟩ :=
      Sampler.conclude_among_readers apart.readOther otherProfiler sampler tallyOther orderedOther
        roomOther
    rw [← beside.writer] at storesOther
    exact ⟨_, readings, readingsOther, stores, storesOther, by simp [Sampler.conclude], apart.host,
      sameSampler, sameDirectory⟩
  · rw [done, doneOther]
    obtain ⟨readings, stores⟩ :=
      Sampler.abandon_among_readers apart.read profiler sampler tally crash
    obtain ⟨readingsOther, storesOther⟩ :=
      Sampler.abandon_among_readers apart.readOther otherProfiler sampler tallyOther crash
    exact ⟨[], readings, readingsOther, stores, storesOther, Iff.rfl, apart.host,
      sameSampler, sameDirectory⟩

end StackSampler
