import StackSampler.Proofs.Mailbox.Queue
import StackSampler.Proofs.Pass.Capture
import StackSampler.Proofs.Pass.FixedNames
import StackSampler.Proofs.Pass.SideBySide

/-!
# Captures do not depend on the cache

A pass names methods through a cache that earlier passes filled and that may throw names away while
the pass is under way. If the metadata source always gives the same answers, none of this shows: two
samplers with caches of any sizes and any pasts capture the same bytes and make the same report,
where the runtime does the same.
-/

namespace StackSampler

variable {ρ : Type}

section Alike

variable (same : ρ → ρ → Prop)

structure AnswersAlike (first second : Answer ρ) : Prop where
  reply : first.reply = second.reply
  host : same first.host second.host
  meanwhile : first.meanwhile = second.meanwhile

/-- Whether two walks offer the same frames and end alike, whatever they are told. -/
inductive WalksAlike : Walk ρ → Walk ρ → Prop where
  | finish {first second : Answer ρ} (alike : AnswersAlike same first second) :
      WalksAlike (.finish first) (.finish second)
  | offer {method : MethodId} {context : WalkContext} {first second : ρ}
      {next nextOther : Verdict → ρ → Walk ρ} (hosts : same first second)
      (goesOn : ∀ verdict host other, same host other →
        WalksAlike (next verdict host) (nextOther verdict other)) :
      WalksAlike (.offer method context first next) (.offer method context second nextOther)

/-- Whether the runtime does the same in related states and leaves related states. That one of them
was asked for metadata does not matter. -/
structure BehavesAlike (api : Host ρ) : Prop where
  suspend : ∀ {first second}, same first second →
    AnswersAlike same (api.suspend first) (api.suspend second)
  threads : ∀ {first second}, same first second →
    (api.threads first).1 = (api.threads second).1 ∧
      AnswersAlike same (api.threads first).2 (api.threads second).2
  walk : ∀ thread {first second}, same first second →
    WalksAlike same (api.walk thread first) (api.walk thread second)
  resume : ∀ {first second}, same first second →
    AnswersAlike same (api.resume first) (api.resume second)
  describe : ∀ method context {first second}, same first second →
    same (api.metadata.describe method context first).2 second ∧
      same first (api.metadata.describe method context second).2
  typeName : ∀ classId {first second}, same first second →
    same (api.metadata.typeName classId first).2 second ∧
      same first (api.metadata.typeName classId second).2

end Alike

/-- The captures that a pass published, and whether each of them was stored. -/
def capturesOf (journal : Array Event) : List (Capture × Bool) :=
  journal.toList.filterMap Event.published?

/-- What a pass itself does besides asking for names, refusing frames and logging. -/
def Event.isAct : Event → Bool
  | .shared _ _ => false
  | .offered _ _ .enough => false
  | .logged _ => false
  | event => !event.isAnswer

def actsOf (journal : Array Event) : List Event := journal.toList.filter Event.isAct

theorem acts_of_push (journal : Array Event) (event : Event) :
    actsOf (journal.push event) = actsOf journal ++ [event].filter Event.isAct := by
  simp [actsOf, List.filter_append]

theorem acts_of_push_unseen (journal : Array Event) {event : Event}
    (unseen : event.isAct = false) : actsOf (journal.push event) = actsOf journal := by
  rw [acts_of_push, List.filter_cons_of_neg (by simp [unseen])]
  exact List.append_nil _

/-- The captures show in what a pass does. -/
theorem captures_eq_of_acts {journal other : Array Event}
    (acts : actsOf journal = actsOf other) : capturesOf journal = capturesOf other := by
  have unpicked (event : Event) (hidden : event.isAct = false) : event.published? = none := by
    cases event with
    | published _ _ => cases hidden
    | _ => rfl
  rw [capturesOf, ← filterMap_filter_of_unpicked unpicked, ← actsOf, acts]
  exact filterMap_filter_of_unpicked unpicked _

/-- What becomes of the slots does not depend on what the mailbox counted. -/
theorem Mailbox.slots_perform {mailbox other : Mailbox} (slots : mailbox.slots = other.slots)
    (op : Op) : (mailbox.perform op).2.slots = (other.perform op).2.slots := by
  cases op with
  | publish capture =>
      change (mailbox.publish capture).2.slots = (other.publish capture).2.slots
      rw [publish, publish, slots]
      split <;> rfl
  | take =>
      change mailbox.slots.take.2 = other.slots.take.2
      rw [slots]
  | consume destination =>
      obtain ⟨lost, left⟩ := mailbox.consume_eq_take destination
      obtain ⟨lostOther, leftOther⟩ := other.consume_eq_take destination
      change (mailbox.consume destination).2.slots = (other.consume destination).2.slots
      rw [left, leftOther]
      change mailbox.slots.take.2 = other.slots.take.2
      rw [slots]

theorem Mailbox.stored_publish {mailbox other : Mailbox} (slots : mailbox.slots = other.slots)
    (capture : Capture) : (mailbox.publish capture).1 = (other.publish capture).1 := by
  rw [publish, publish, slots]
  split <;> rfl

/-- Whether two worlds will go on alike: their hosts behave alike, the same captures wait in their
mailboxes and their passes did the same. -/
structure WorldsAlike (same : ρ → ρ → Prop) (first second : World ρ) : Prop where
  host : same first.host second.host
  slots : first.mailbox.slots = second.mailbox.slots
  acts : actsOf first.journal = actsOf second.journal

section WorldsAlike

variable {same : ρ → ρ → Prop} {first second : World ρ} (alike : WorldsAlike same first second)
include alike

theorem WorldsAlike.worlds_alike_note (event : Event) {host other : ρ} (hosts : same host other) :
    WorldsAlike same (World.note { first with host } event)
      (World.note { second with host := other } event) := by
  refine ⟨hosts, alike.slots, ?_⟩
  exact (acts_of_push _ event).trans
    ((congrArg (· ++ _) alike.acts).trans (acts_of_push _ event).symm)

theorem WorldsAlike.worlds_alike_share (op : Mailbox.Op) :
    WorldsAlike same (first.share op) (second.share op) := by
  refine ⟨alike.host, Mailbox.slots_perform alike.slots op, ?_⟩
  exact (acts_of_push_unseen _ rfl).trans (alike.acts.trans (acts_of_push_unseen _ rfl).symm)

omit alike in
theorem WorldsAlike.foldl_share (ops : List Mailbox.Op) {first second : World ρ}
    (alike : WorldsAlike same first second) :
    WorldsAlike same (ops.foldl World.share first) (ops.foldl World.share second) := by
  induction ops generalizing first second with
  | nil => exact alike
  | cons op ops induction => exact induction (alike.worlds_alike_share op)

theorem WorldsAlike.worlds_alike_settle (event : Event) {answer other : Answer ρ}
    (answers : AnswersAlike same answer other) :
    WorldsAlike same (first.settle answer event) (second.settle other event) := by
  rw [World.settle, World.settle, ← answers.meanwhile]
  exact (alike.foldl_share answer.meanwhile).worlds_alike_note event answers.host

end WorldsAlike

theorem WalksAlike.walks_together {same : ρ → ρ → Prop} {walk other : Walk ρ}
    (alike : WalksAlike same walk other) : WalksTogether (WorldsAlike same) walk other := by
  induction alike with
  | finish answers =>
      apply WalksTogether.finish answers.reply
      intro first second worlds
      rw [← answers.reply]
      exact worlds.worlds_alike_settle _ answers
  | offer hosts goesOn induction =>
      apply WalksTogether.offer
      · intro verdict first second worlds
        exact worlds.worlds_alike_note _ hosts
      · intro verdict first second worlds
        exact induction verdict _ _ worlds.host

/-- Lookups come to the same names, however many questions either cache saves. -/
theorem WorldsAlike.worlds_alike_resolve {api : Host ρ} {same : ρ → ρ → Prop}
    (behaves : BehavesAlike same api) {first second : World ρ}
    (alike : WorldsAlike same first second) (cache other : RecentNames) (method : MethodId)
    (context : WalkContext) :
    WorldsAlike same (cache.resolve (World.metadata api) method context first).2.2
      (other.resolve (World.metadata api) method context second).2.2 := by
  have left : WorldsAlike same (cache.resolve (World.metadata api) method context first).2.2
      second := by
    apply @resolve_keeps ρ api (WorldsAlike same · second) _ _ cache method context first alike
    · intro method context world related
      exact ⟨(behaves.describe method context related.host).1, related.slots,
        (acts_of_push_unseen _ rfl).trans related.acts⟩
    · intro classId world related
      exact ⟨(behaves.typeName classId related.host).1, related.slots,
        (acts_of_push_unseen _ rfl).trans related.acts⟩
  apply resolve_keeps _ _ other method context left
  · intro method context world related
    exact ⟨(behaves.describe method context related.host).2, related.slots,
      related.acts.trans (acts_of_push_unseen _ rfl).symm⟩
  · intro classId world related
    exact ⟨(behaves.typeName classId related.host).2, related.slots,
      related.acts.trans (acts_of_push_unseen _ rfl).symm⟩

def cacheCoupling {api : Host ρ} {answers : FixedAnswers} (given : answers.GivenBy api.metadata)
    {same : ρ → ρ → Prop} (behaves : BehavesAlike same api) : Coupling api api where
  worlds := WorldsAlike same
  names cache other := cache.Truthful answers ∧ other.Truthful answers
  suspends := by
    intro first second worlds
    have said := behaves.suspend worlds.host
    refine ⟨said.reply, ?_⟩
    rw [World.suspend, World.suspend, ← said.reply]
    exact worlds.worlds_alike_settle _ said
  lists := by
    intro first second worlds
    obtain ⟨threads, said⟩ := behaves.threads worlds.host
    refine ⟨threads, said.reply, ?_⟩
    change WorldsAlike same
      (first.settle (api.threads first.host).2
        (.listed (api.threads first.host).1 (api.threads first.host).2.reply))
      (second.settle (api.threads second.host).2
        (.listed (api.threads second.host).1 (api.threads second.host).2.reply))
    rw [threads, said.reply]
    exact worlds.worlds_alike_settle _ said
  begins := by
    intro thread first second worlds
    exact worlds.worlds_alike_note _ worlds.host
  walks := by
    intro thread first second worlds
    exact (behaves.walk thread worlds.host).walks_together
  resolves := by
    rintro method context cache other first second ⟨truthful, truthfulOther⟩ worlds
    obtain ⟨name, kept⟩ := truthful.truthful_resolve given.given_by_world method context first
    obtain ⟨nameOther, keptOther⟩ :=
      truthfulOther.truthful_resolve given.given_by_world method context second
    exact ⟨name.trans nameOther.symm, ⟨kept, keptOther⟩,
      worlds.worlds_alike_resolve behaves cache other method context⟩
  resumes := by
    intro first second worlds
    have said := behaves.resume worlds.host
    refine ⟨said.reply, ?_⟩
    rw [World.resume, World.resume, ← said.reply]
    exact worlds.worlds_alike_settle _ said

def PassEnd.untimed (done : PassEnd ρ) : Except Crash (Option Report) :=
  done.result.map (Option.map Report.untimed)

/-- What the passes of a sampler do not change, wherever they are in its life: its settings up to
the size of the cache, and that the cache is truthful. -/
structure Sampler.KeepsNames (sampler : Sampler) (settings : Settings) (answers : FixedAnswers) :
    Prop where
  bufferCapacity : sampler.settings.bufferCapacity = settings.bufferCapacity
  maxFrames : sampler.settings.maxFrames = settings.maxFrames
  truthful : sampler.names.Truthful answers

theorem Sampler.keeps_names_of_settings (settings : Settings) (capacity : UInt64)
    (answers : FixedAnswers) :
    (ofSettings { settings with nameCapacity := capacity }).KeepsNames settings answers :=
  ⟨rfl, rfl, RecentNames.truthful_of_capacity _ answers⟩

section Passes

variable {api : Host ρ} {answers : FixedAnswers} (given : answers.GivenBy api.metadata)
include given

theorem Session.keeps_names_passes {settings : Settings} {session : Session ρ}
    (start : session.sampler.KeepsNames settings answers) (turns : List (Turn ρ)) :
    ∀ step ∈ session.passes api turns,
      step.1.sampler.KeepsNames settings answers ∧ step.2 = step.1.pass api := by
  refine @forall_mem_passes_of_kept ρ (·.sampler.KeepsNames settings answers) api ?_ turns ?_
    session start
  · intro session keeps
    have lookups : ∀ (cache : RecentNames) method context world, cache.Truthful answers →
        (cache.resolve (World.metadata api) method context world).2.1.Truthful answers :=
      fun cache method context world truthful =>
        (truthful.truthful_resolve given.given_by_world method context world).2
    obtain ⟨names, threads, sampler, truthful⟩ :=
      Sampler.sampler_pass api lookups session.profiler session.host keeps.truthful
    have behind : (session.pass api).session.sampler = { session.sampler with names, threads } :=
      sampler
    rw [behind]
    exact ⟨keeps.bufferCapacity, keeps.maxFrames, truthful⟩
  · intro turn _
    cases turn <;> first | exact trivial | exact fun _ keeps => keeps

end Passes

section Conclude

variable {same : ρ → ρ → Prop} {window windowOther : Window ρ}
  (worlds : WorldsAlike same window.world windowOther.world)
  (profiler other : Profiler) (sampler otherSampler : Sampler) (tally tallyOther : Tally)
include worlds

theorem Sampler.untimed_conclude (writer : window.writer = windowOther.writer)
    (report : window.report.untimed = windowOther.report.untimed) :
    (conclude profiler sampler tally window).untimed =
      (conclude other otherSampler tallyOther windowOther).untimed := by
  have stored := Mailbox.stored_publish worlds.slots window.writer.closeBatch.finish
  unfold PassEnd.untimed conclude
  rw [← writer]
  exact congrArg₂ (fun (told : Report) (published : Bool) => Except.ok (some { told with
    bytes := window.writer.closeBatch.position
    truncated := window.writer.closeBatch.truncated
    published })) report stored

theorem Sampler.acts_of_conclude (writer : window.writer = windowOther.writer) :
    actsOf (conclude profiler sampler tally window).journal =
      actsOf (conclude other otherSampler tallyOther windowOther).journal := by
  obtain ⟨lines, entries⟩ := toList_journal_conclude profiler sampler tally window
  obtain ⟨linesOther, entriesOther⟩ :=
    toList_journal_conclude other otherSampler tallyOther windowOther
  have unseen : ∀ lines : List LogLine, (lines.map Event.logged).filter Event.isAct = [] := by
    intro lines
    rw [List.filter_map, List.map_eq_nil_iff, List.filter_eq_nil_iff]
    exact fun _ _ => Bool.false_ne_true
  have stored : (window.world.publish window.writer.closeBatch.finish).1 =
      (windowOther.world.publish windowOther.writer.closeBatch.finish).1 := by
    rw [← writer]
    exact Mailbox.stored_publish worlds.slots _
  rw [actsOf, actsOf, entries, entriesOther, List.filter_append, List.filter_append,
    List.filter_cons_of_pos rfl, List.filter_cons_of_pos rfl, unseen, unseen, stored, ← writer]
  exact congrArg (· ++ _) worlds.acts

end Conclude

theorem Session.pass_alike {api : Host ρ} {answers : FixedAnswers}
    (given : answers.GivenBy api.metadata) {same : ρ → ρ → Prop} (behaves : BehavesAlike same api)
    {settings : Settings} {session other : Session ρ}
    (keeps : session.sampler.KeepsNames settings answers)
    (keepsOther : other.sampler.KeepsNames settings answers)
    (directories : ∀ thread, session.profiler.directory.lookup? thread =
      other.profiler.directory.lookup? thread)
    (slots : session.profiler.mailbox.slots = other.profiler.mailbox.slots)
    (hosts : same session.host other.host) :
    (session.pass api).untimed = (other.pass api).untimed ∧
      actsOf (session.pass api).journal = actsOf (other.pass api).journal := by
  have rooms : session.profiler.mailbox.hasRoom = other.profiler.mailbox.hasRoom :=
    congrArg Slots.hasRoom slots
  cases room : session.profiler.mailbox.hasRoom with
  | false =>
      rw [room] at rooms
      rw [pass_of_full api room, pass_of_full api rooms.symm]
      exact ⟨rfl, rfl⟩
  | true =>
      rw [room] at rooms
      rw [pass, pass]
      have identities : ∀ thread, session.profiler.directory.identity thread =
          other.profiler.directory.identity thread := by
        intro thread
        rw [Directory.identity, directories, Directory.identity]
      have begun : WorldsAlike same (session.sampler.window session.profiler session.host).world
          (other.sampler.window other.profiler other.host).world := ⟨hosts, slots, rfl⟩
      obtain ⟨window, windowOther, tally, tallyOther, beside, ended⟩ :=
        Sampler.pass_beside (cacheCoupling given behaves).coupling_follows room rooms.symm
          (keeps.bufferCapacity.trans keepsOther.bufferCapacity.symm)
          (keeps.maxFrames.trans keepsOther.maxFrames.symm) identities
          ⟨keeps.truthful, keepsOther.truthful⟩ begun
      have worlds : WorldsAlike same window.world windowOther.world := beside.worlds
      rcases ended with ⟨done, doneOther⟩ | ⟨crash, done, doneOther⟩
      · rw [done, doneOther]
        exact ⟨Sampler.untimed_conclude worlds _ _ _ _ _ _ beside.writer beside.report,
          Sampler.acts_of_conclude worlds _ _ _ _ _ _ beside.writer⟩
      · rw [done, doneOther]
        exact ⟨rfl, worlds.acts⟩

/-- With a metadata source whose answers are always the same, two samplers with the same settings up
to the size of their caches capture the same in a pass and report the same up to the measured time,
whatever passes they made before, if the pass finds the same identities, the same captures waiting
and a runtime that does the same. -/
theorem captures_ignore_cache {api : Host ρ} {answers : FixedAnswers}
    (given : answers.GivenBy api.metadata) {same : ρ → ρ → Prop} (behaves : BehavesAlike same api)
    (settings : Settings) (capacity otherCapacity : UInt64) (profiler other : Profiler)
    (host hostOther : ρ) (turns otherTurns : List (Turn ρ))
    {before otherBefore : Session ρ} {done otherDone : PassEnd ρ}
    (member : (before, done) ∈ Session.passes api
      ⟨profiler, .ofSettings { settings with nameCapacity := capacity }, host⟩ turns)
    (otherMember : (otherBefore, otherDone) ∈ Session.passes api
      ⟨other, .ofSettings { settings with nameCapacity := otherCapacity }, hostOther⟩ otherTurns)
    (directories : ∀ thread, before.profiler.directory.lookup? thread =
      otherBefore.profiler.directory.lookup? thread)
    (slots : before.profiler.mailbox.slots = otherBefore.profiler.mailbox.slots)
    (hosts : same before.host otherBefore.host) :
    done.untimed = otherDone.untimed ∧ capturesOf done.journal = capturesOf otherDone.journal := by
  have start := fun capacity => Sampler.keeps_names_of_settings settings capacity answers
  obtain ⟨keeps, ran⟩ := @Session.keeps_names_passes ρ api answers given settings
    ⟨profiler, _, host⟩ (start capacity) turns _ member
  obtain ⟨keepsOther, ranOther⟩ := @Session.keeps_names_passes ρ api answers given settings
    ⟨other, _, hostOther⟩ (start otherCapacity) otherTurns _ otherMember
  dsimp only at keeps ran keepsOther ranOther
  rw [ran, ranOther]
  obtain ⟨untimed, acts⟩ := Session.pass_alike given behaves keeps keepsOther directories slots
    hosts
  exact ⟨untimed, captures_eq_of_acts acts⟩

def countingHost : Host Nat where
  metadata :=
    { describe := fun method _ asked => (.ok ⟨some ⟨method.word⟩, "f"⟩, asked + 1)
      typeName := fun classId asked =>
        (.ofExcept (if classId = ⟨1⟩ then .ok "A" else .error .arrayClass), asked + 1) }
  suspend asked := ⟨.ok (), asked, []⟩
  threads asked := ([⟨7⟩], ⟨.ok (), asked, []⟩)
  walk _ asked :=
    .offer ⟨1⟩ ⟨10⟩ asked fun _ asked => .offer ⟨2⟩ ⟨20⟩ asked fun _ asked =>
      .offer ⟨1⟩ ⟨30⟩ asked fun _ asked => .finish ⟨.ok (), asked, []⟩
  resume asked := ⟨.ok (), asked, []⟩
  clock asked := asked

def countingAnswers : FixedAnswers where
  describe method := .ok ⟨some ⟨method.word⟩, "f"⟩
  typeName classId := if classId = ⟨1⟩ then .ok "A" else .error .arrayClass

def countingSession (capacity : UInt64) : Session Nat :=
  ⟨{ settings := {} }, .ofSettings { ({} : Settings) with nameCapacity := capacity }, 0⟩

def countingLater (capacity : UInt64) : Session Nat :=
  ((countingSession capacity).pass countingHost).session.share .take

theorem counting_answers_given_by : countingAnswers.GivenBy countingHost.metadata :=
  ⟨fun _ _ _ => rfl, fun _ _ => rfl⟩

theorem counting_host_behaves_alike : BehavesAlike (fun _ _ => True) countingHost where
  suspend _ := ⟨rfl, trivial, rfl⟩
  threads _ := ⟨rfl, rfl, trivial, rfl⟩
  walk thread first second _ := by
    apply WalksAlike.offer trivial
    intro _ first second _
    apply WalksAlike.offer trivial
    intro _ first second _
    apply WalksAlike.offer trivial
    intro _ first second _
    exact .finish ⟨rfl, trivial, rfl⟩
  resume _ := ⟨rfl, trivial, rfl⟩
  describe _ _ _ _ _ := ⟨trivial, trivial⟩
  typeName _ _ _ _ := ⟨trivial, trivial⟩

theorem counting_later_mem_passes :
    (countingLater 5, (countingLater 5).pass countingHost) ∈
      (countingSession 5).passes countingHost [.pass, .share .take, .pass] := by
  have going : ((countingSession 5).pass countingHost).result ≠ .error .aborted := by
    decide +kernel
  apply Session.mem_passes_of_pass going
  rw [Session.passes]
  exact Session.mem_passes_pass countingHost _ []

theorem directory_counting_later (capacity : UInt64) :
    (countingLater capacity).profiler.directory = {} := by
  rw [countingLater, Session.directory_share, Session.directory_pass]
  rfl

/-- A second pass with all names cached captures what a first one captures that has to throw a name
away and look it up again. -/
theorem captures_ignore_cache_counting_host :
    (countingLater 5).host ≠ (countingSession 0).host ∧
      ((countingLater 5).pass countingHost).untimed =
        ((countingSession 0).pass countingHost).untimed ∧
      capturesOf ((countingLater 5).pass countingHost).journal =
        capturesOf ((countingSession 0).pass countingHost).journal := by
  have slots : (countingLater 5).profiler.mailbox.slots =
      (countingSession 0).profiler.mailbox.slots := by
    decide +kernel
  have directories : ∀ thread, (countingLater 5).profiler.directory.lookup? thread =
      (countingSession 0).profiler.directory.lookup? thread := by
    intro thread
    rw [directory_counting_later]
    rfl
  have drifted : (countingLater 5).host ≠ (countingSession 0).host := by decide +kernel
  refine ⟨drifted, ?_⟩
  exact captures_ignore_cache counting_answers_given_by counting_host_behaves_alike {} 5 0
    { settings := {} } { settings := {} } 0 0 [.pass, .share .take, .pass] [.pass]
    counting_later_mem_passes (Session.mem_passes_pass countingHost (countingSession 0) [])
    directories slots trivial

end StackSampler
