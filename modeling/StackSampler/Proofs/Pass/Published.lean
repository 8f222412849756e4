import StackSampler.Proofs.Pass.Accounts
import StackSampler.Proofs.Pass.Backpressure
import StackSampler.Proofs.Wire.Room

/-!
# What the passes of a run publish

Samplers publish into the mailbox of the profiler that they share, and others use it meanwhile.
Every capture that a pass publishes fits the buffer of the configured size and can be read, whatever
had to be cut off. Where nobody but the samplers publishes, the room that a pass found is still
there when it publishes, so every capture is stored.
-/

namespace StackSampler

namespace Wire

/-- Whether a capture fits a buffer of a size and can be read. -/
structure Sound (capacity : Nat) (capture : Capture) : Prop where
  least : 2 ≤ capture.length
  fits : capture.length ≤ capacity
  readable : ∃ batch, decode capture = .ok batch

theorem two_le_length_of_decode {bytes : List UInt8} {batch : Batch}
    (read : decode bytes = .ok batch) : 2 ≤ bytes.length := by
  rw [(written_of_decode read).2]
  simp [Batch.written]

theorem length_finish_calls_of_le (capacity : Nat) (stackList : List Stack) :
    ((Writer.ofCapacity capacity).openBatch.run (callsOf stackList)).finish.length ≤
      max capacity Writer.minCapacity := by
  have keeps :=
    ((Writer.keeps_room_of_capacity capacity).keeps_room_after .openBatch).keeps_room_run
      (callsOf stackList)
  have fits := keeps.length_finish_le
  rw [Writer.capacity_run, Writer.capacity_after] at fits
  exact fits

theorem sound_finish_calls_of {capacity : Nat} (least : Writer.minCapacity ≤ capacity)
    (small : capacity < UInt32.size) (stackList : List Stack) :
    Sound capacity ((Writer.ofCapacity capacity).openBatch.run (callsOf stackList)).finish := by
  obtain ⟨part, decoded, -, -⟩ := decode_finish_calls_of capacity small stackList
  have fits := length_finish_calls_of_le capacity stackList
  rw [Nat.max_eq_left least] at fits
  exact ⟨two_le_length_of_decode decoded, fits, _, decoded⟩

end Wire

open Wire (callsOf Sound)

/-- A use of the mailbox: a capture that a pass published, or what anyone else did. -/
inductive Mailbox.Use where
  | published (capture : Capture)
  | shared (op : Mailbox.Op)
deriving DecidableEq, Repr

namespace Mailbox.Use

def op : Mailbox.Use → Mailbox.Op
  | published capture => .publish capture
  | shared op => op

def published? : Mailbox.Use → Option Capture
  | published capture => some capture
  | shared _ => none

end Mailbox.Use

def Event.use? : Event → Option Mailbox.Use
  | .shared op _ => some (.shared op)
  | .published capture _ => some (.published capture)
  | _ => none

def usesOf (journal : Array Event) : List Mailbox.Use := journal.toList.filterMap Event.use?

theorem map_op_uses_of (journal : Array Event) :
    (usesOf journal).map Mailbox.Use.op = opsOf journal := by
  rw [usesOf, opsOf, List.map_filterMap]
  congr 1
  funext event
  cases event <;> rfl

theorem published_uses_of (journal : Array Event) :
    (usesOf journal).filterMap Mailbox.Use.published? = (capturesOf journal).map Prod.fst := by
  rw [usesOf, capturesOf, List.map_filterMap, List.filterMap_filterMap]
  congr 1
  funext event
  cases event <;> rfl

variable {ι : Type} {ρ : ι → Type} {σ : Type}

def Entry.uses : Entry ρ → List Mailbox.Use
  | .passed _ done => usesOf done.journal
  | .shared op => [.shared op]

def usesIn (log : List (Entry ρ)) : List Mailbox.Use := log.flatMap Entry.uses

theorem map_op_uses_in (log : List (Entry ρ)) : (usesIn log).map Mailbox.Use.op = opsIn log := by
  rw [usesIn, opsIn, List.map_flatMap]
  congr 1
  funext entry
  cases entry with
  | passed who done => exact map_op_uses_of done.journal
  | shared op => rfl

theorem published_uses_in (log : List (Entry ρ)) :
    (usesIn log).filterMap Mailbox.Use.published? = (capturesIn log).map Prod.fst := by
  rw [usesIn, capturesIn, List.map_flatMap, List.filterMap_flatMap]
  congr 1
  funext entry
  cases entry with
  | passed who done => exact published_uses_of done.journal
  | shared op => rfl

def OnlyReaders (uses : List Mailbox.Use) : Prop := ∀ op, .shared op ∈ uses → op.published? = none

theorem exists_readings {ops : List Mailbox.Op} (quiet : ∀ op ∈ ops, op.published? = none) :
    ∃ readings : List Reading, ops = readings.map Reading.op := by
  induction ops with
  | nil => exact ⟨[], rfl⟩
  | cons op ops induction =>
      obtain ⟨readings, rfl⟩ := induction fun other member => quiet other (.tail _ member)
      have own := quiet op (.head _)
      cases op with
      | publish capture => cases own
      | take => exact ⟨.take :: readings, rfl⟩
      | consume destination => exact ⟨.consume destination :: readings, rfl⟩

theorem World.Held.uses_of_held {mailbox : Mailbox} {panics : List Panic} {failedResumes : Nat}
    {world : World σ} (held : world.Held mailbox panics failedResumes) :
    usesOf world.journal = world.ops.map Mailbox.Use.shared := by
  rw [usesOf, ops, opsOf, List.map_filterMap]
  apply List.filterMap_congr
  intro event member
  have quiet := held.heard.quiet event member
  cases event with
  | published capture stored => cases quiet
  | _ => rfl

/-- A window that was left without a panic has told its writer some stacks. -/
theorem Window.writer_run (api : Host σ) {settings : Settings} {directory : Directory}
    {tally counted : Tally} {window left : Window σ} (outside : window.writer.phase ≠ .inSample)
    (cleared : window.threads = [])
    (ran : window.run api settings directory tally = (.ok (), counted, left)) :
    ∃ stackList, left.writer = window.writer.run (callsOf stackList) := by
  rcases suspended : window.world.suspend api with ⟨reply, world⟩
  cases reply with
  | panic message =>
      rw [run, suspended] at ran
      cases ran
  | error error =>
      rw [run, suspended] at ran
      cases ran
      exact ⟨[], rfl⟩
  | ok value =>
      obtain ⟨threads, reply, events, -, -, tells⟩ :=
        @sample_all_stepped σ api settings directory { window with world } outside cleared
      rcases sampled : ({ window with world } : Window σ).sampleAll api settings directory with
        ⟨outcome, walked⟩
      rw [sampled] at tells
      obtain ⟨result, counted, report, done, finished, -⟩ :=
        run_resumes api settings directory tally suspended sampled
      rw [done] at ran
      cases ran
      obtain ⟨-, -, stackList, told⟩ := tells (finished rfl)
      exact ⟨stackList, told.writer⟩

/-- What a pass makes of the mailbox: others use it, and then the pass publishes what it captured,
if it got that far. -/
structure PublishesLast (capacity : Nat) (mailbox : Mailbox) (done : PassEnd σ)
    (shared : List Mailbox.Op) (captured : List Capture) : Prop where
  uses : usesOf done.journal = shared.map Mailbox.Use.shared ++ captured.map Mailbox.Use.published
  atMostOne : captured.length ≤ 1
  room : captured ≠ [] → mailbox.hasRoom = true
  sound : ∀ capture ∈ captured, Sound capacity capture

theorem Sampler.publishes_last_of_pass (api : Host σ) (profiler : Profiler) {sampler : Sampler}
    (host : σ) (least : Wire.Writer.minCapacity ≤ sampler.settings.bufferCapacity.toNat)
    (small : sampler.settings.bufferCapacity.toNat < UInt32.size) :
    ∃ shared captured, PublishesLast sampler.settings.bufferCapacity.toNat profiler.mailbox
      (sampler.pass api profiler host) shared captured := by
  cases room : profiler.mailbox.hasRoom with
  | false =>
      have quiet := (sampler.pass_skipped api host room).2
      exact ⟨[], [], by rw [quiet]; rfl, Nat.zero_le 1, absurd rfl, nofun⟩
  | true =>
      have outside := sampler.window_outside profiler host
      have ran := Window.run_ran api profiler.tally sampler.settings profiler.directory
        (calm_window profiler sampler host) outside
      rw [pass_eq api sampler host room]
      generalize ended : (sampler.window profiler host).run api sampler.settings profiler.directory
        profiler.tally = result at ran ⊢
      cases ran with
      | @returned window held =>
          obtain ⟨stackList, told⟩ := Window.writer_run api outside rfl ended
          have captured : Sound sampler.settings.bufferCapacity.toNat
              window.writer.closeBatch.finish := by
            rw [Wire.Writer.finish_close_batch, told]
            exact Wire.sound_finish_calls_of least small stackList
          refine ⟨window.world.ops, [window.writer.closeBatch.finish], ?_, Nat.le_refl 1,
            fun _ => room, ?_⟩
          · rw [← held.uses_of_held]
            exact filterMap_conclude (fun _ => rfl) profiler sampler profiler.tally window
          · intro capture member
            rw [List.mem_singleton.mp member]
            exact captured
      | @panicked window panic unresumed held =>
          exact ⟨window.world.ops, [], held.uses_of_held.trans (List.append_nil _).symm,
            Nat.zero_le 1, absurd rfl, nofun⟩
      | @aborted window panic second held =>
          exact ⟨window.world.ops, [], held.uses_of_held.trans (List.append_nil _).symm,
            Nat.zero_le 1, absurd rfl, nofun⟩

section PublishesLast

variable {capacity : Nat} {mailbox : Mailbox} {done : PassEnd σ} {shared : List Mailbox.Op}
  {captured : List Capture} (publishes : PublishesLast capacity mailbox done shared captured)
include publishes

theorem PublishesLast.captures_eq_captured : (capturesOf done.journal).map Prod.fst = captured := by
  have others : (shared.map Mailbox.Use.shared).filterMap Mailbox.Use.published? = [] := by
    rw [List.filterMap_map, List.filterMap_eq_nil_iff]
    exact fun _ _ => rfl
  rw [← published_uses_of, publishes.uses, List.filterMap_append, others, List.nil_append,
    List.filterMap_map]
  exact List.filterMap_some

theorem PublishesLast.stored_eq_captured (ordered : mailbox.slots.Ordered)
    (alone : OnlyReaders (usesOf done.journal)) :
    mailbox.stored (opsOf done.journal) = captured := by
  have quiet : ∀ op ∈ shared, op.published? = none := by
    intro op member
    apply alone
    rw [publishes.uses]
    exact List.mem_append_left _ (List.mem_map_of_mem member)
  obtain ⟨readings, rfl⟩ := exists_readings quiet
  have others (ops : List Mailbox.Op) : (ops.map Mailbox.Use.shared).map Mailbox.Use.op = ops := by
    rw [List.map_map]
    exact List.map_id ops
  have ops : opsOf done.journal = readings.map Reading.op ++ captured.map Mailbox.Op.publish := by
    rw [← map_op_uses_of, publishes.uses, List.map_append, others, List.map_map]
    rfl
  rw [ops]
  cases room : mailbox.hasRoom with
  | true => exact (Mailbox.run_readings_publish ordered room readings publishes.atMostOne).2
  | false =>
      have none : captured = [] := by
        by_contra some
        rw [publishes.room some] at room
        cases room
      subst none
      rw [List.map_nil, List.append_nil]
      exact (mailbox.run_readings readings).2.2

end PublishesLast

/-- What a run makes of the mailbox: everything that the samplers publish is sound, and it is stored
if nobody else publishes. -/
structure Publishes (capacity : Nat) (before behind : Mailbox) (log : List (Entry ρ)) : Prop where
  mailbox : behind = before.run (opsIn log)
  sound : ∀ capture ∈ (capturesIn log).map Prod.fst, Sound capacity capture
  stored : OnlyReaders (usesIn log) →
    before.stored (opsIn log) = (capturesIn log).map Prod.fst

theorem publishes_nil (capacity : Nat) (mailbox : Mailbox) :
    Publishes capacity mailbox mailbox ([] : List (Entry ρ)) :=
  ⟨rfl, nofun, fun _ => rfl⟩

theorem Publishes.publishes_append {capacity : Nat} {first second third : Mailbox}
    {front back : List (Entry ρ)} (start : Publishes capacity first second front)
    (rest : Publishes capacity second third back) :
    Publishes capacity first third (front ++ back) where
  mailbox := by
    rw [opsIn, List.flatMap_append, Mailbox.run_append, rest.mailbox, start.mailbox]
    rfl
  sound := by
    intro capture member
    rw [capturesIn, List.flatMap_append, List.map_append] at member
    rcases List.mem_append.mp member with early | late
    · exact start.sound capture early
    · exact rest.sound capture late
  stored := by
    intro alone
    rw [usesIn, List.flatMap_append] at alone
    have early := start.stored fun op member => alone op (List.mem_append_left _ member)
    have late := rest.stored fun op member => alone op (List.mem_append_right _ member)
    rw [start.mailbox] at late
    rw [opsIn, List.flatMap_append, Mailbox.stored_append, capturesIn, List.flatMap_append,
      List.map_append]
    exact congrArg₂ (· ++ ·) early late

namespace Crew

structure Configured (settings : Settings) (crew : Crew ρ) : Prop where
  profiler : crew.profiler.settings = settings
  members : ∀ who, (crew.members who).sampler.settings = settings

theorem configured_of_hosts (settings : Settings) (hosts : (who : ι) → ρ who) :
    (ofHosts settings hosts).Configured settings :=
  ⟨rfl, fun _ => rfl⟩

variable [DecidableEq ι] {settings : Settings} {crew : Crew ρ}

theorem Configured.configured_update (configured : crew.Configured settings) (who : ι)
    (member : Member (ρ who)) (own : member.sampler.settings = settings) :
    Configured settings
      { crew with members := Function.update crew.members who member } where
  profiler := configured.profiler
  members other := by
    by_cases same : other = who
    · subst same
      dsimp only
      rw [Function.update_self]
      exact own
    · dsimp only
      rw [Function.update_of_ne same]
      exact configured.members other

section Turns

variable (api : (who : ι) → Host (ρ who)) (configured : crew.Configured settings)
include configured

theorem Configured.configured_turn (turn : CrewTurn ρ) :
    (crew.turn api turn).2.Configured settings := by
  cases turn with
  | pass who =>
      obtain ⟨left, -⟩ :=
        (crew.members who).sampler.profiler_of_pass (api who) crew.profiler (crew.members who).host
      obtain ⟨names, threads, same, -⟩ := @Sampler.sampler_pass _ (api who) (fun _ => True)
        (fun _ _ _ _ => id) crew.profiler (crew.members who).sampler (crew.members who).host trivial
      have own : (crew.pass api who).sampler.settings = settings := by
        rw [pass, same]
        exact configured.members who
      have profiler : (crew.pass api who).profiler.settings = settings := by
        rw [pass, left]
        exact configured.profiler
      exact ⟨profiler, (configured.configured_update who ⟨_, (crew.pass api who).host⟩ own).members⟩
  | notify notice => exact ⟨configured.profiler, configured.members⟩
  | share op => exact ⟨configured.profiler, configured.members⟩
  | drift who host => exact configured.configured_update who _ (configured.members who)
  | renew who host => exact configured.configured_update who _ configured.profiler

variable (least : Wire.Writer.minCapacity ≤ settings.bufferCapacity.toNat)
  (small : settings.bufferCapacity.toNat < UInt32.size)
include least small

theorem Configured.publishes_turn (ordered : crew.profiler.mailbox.slots.Ordered)
    (turn : CrewTurn ρ) :
    Publishes settings.bufferCapacity.toNat crew.profiler.mailbox
      (crew.turn api turn).2.profiler.mailbox (crew.turn api turn).1.toList := by
  cases turn with
  | pass who =>
      have own := configured.members who
      rw [← own] at least small
      obtain ⟨shared, captured, publishes⟩ := Sampler.publishes_last_of_pass (api who) crew.profiler
        (crew.members who).host least small
      rw [own] at publishes
      obtain ⟨left, -⟩ :=
        (crew.members who).sampler.profiler_of_pass (api who) crew.profiler (crew.members who).host
      have captures := publishes.captures_eq_captured
      constructor
      · change (crew.pass api who).profiler.mailbox =
          crew.profiler.mailbox.run (opsOf (crew.pass api who).journal ++ [])
        rw [List.append_nil, pass, left]
      · intro capture member
        change capture ∈ (capturesOf (crew.pass api who).journal ++ []).map Prod.fst at member
        rw [List.append_nil, pass, captures] at member
        exact publishes.sound capture member
      · change OnlyReaders (usesOf (crew.pass api who).journal ++ []) →
          crew.profiler.mailbox.stored (opsOf (crew.pass api who).journal ++ []) =
            (capturesOf (crew.pass api who).journal ++ []).map Prod.fst
        rw [List.append_nil, List.append_nil, List.append_nil, pass, captures]
        exact publishes.stored_eq_captured ordered
  | share op =>
      refine ⟨rfl, nofun, ?_⟩
      intro alone
      have quiet := alone op (.head _)
      cases op with
      | publish capture => cases quiet
      | _ => rfl
  | _ => exact publishes_nil _ _

theorem Configured.publishes_run (ordered : crew.profiler.mailbox.slots.Ordered)
    (turns : List (CrewTurn ρ)) :
    Publishes settings.bufferCapacity.toNat crew.profiler.mailbox
      (crew.run api turns).2.profiler.mailbox (crew.run api turns).1 := by
  induction turns generalizing crew with
  | nil => exact publishes_nil _ _
  | cons turn turns induction =>
      have first := configured.publishes_turn api least small ordered turn
      have next := configured.configured_turn api turn
      rw [run]
      generalize crew.turn api turn = turned at first next ⊢
      obtain ⟨entry, left⟩ := turned
      dsimp only at first next ⊢
      split
      · exact first
      · apply first.publishes_append
        apply induction next
        rw [first.mailbox]
        exact (Mailbox.run_conserves ordered _).1

end Turns

end Crew

end StackSampler
