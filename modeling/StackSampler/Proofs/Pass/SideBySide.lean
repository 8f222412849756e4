import StackSampler.Proofs.Pass.Steps

/-!
# Two passes side by side

Two passes over hosts that give the same replies tell their writers the same, whatever else differs
between the hosts, the mailboxes and the caches. What has to stay related along the way is a
parameter here: each call of the runtime and each lookup of a name keeps it.
-/

namespace StackSampler

variable {α τ υ ρ σ : Type}

/-- Whether two steps end with the same value and leave related states. -/
structure Agree (related : τ → υ → Prop) (first : α × τ) (second : α × υ) : Prop where
  same : first.1 = second.1
  left : related first.2 second.2

theorem Agree.exists_eq {related : τ → υ → Prop} {first : α × τ} {second : α × υ}
    (agree : Agree related first second) :
    ∃ value left right, first = (value, left) ∧ second = (value, right) ∧ related left right :=
  ⟨first.1, first.2, second.2, rfl, Prod.ext agree.same.symm rfl, agree.left⟩

def Report.untimed (report : Report) : Report := { report with frozen := 0 }

/-- Whether two walks offer the same frames, end the same way and keep the worlds related. -/
inductive WalksTogether (worlds : World ρ → World σ → Prop) : Walk ρ → Walk σ → Prop where
  | finish {answer : Answer ρ} {other : Answer σ} (reply : answer.reply = other.reply)
      (ends : ∀ first second, worlds first second →
        worlds (first.settle answer (.walkEnded answer.reply))
          (second.settle other (.walkEnded other.reply))) :
      WalksTogether worlds (.finish answer) (.finish other)
  | offer {method : MethodId} {context : WalkContext} {host : ρ} {hostOther : σ}
      {next : Verdict → ρ → Walk ρ} {nextOther : Verdict → σ → Walk σ}
      (hears : ∀ verdict first second, worlds first second →
        worlds ({ first with host }.note (.offered method context verdict))
          ({ second with host := hostOther }.note (.offered method context verdict)))
      (goesOn : ∀ verdict first second, worlds first second →
        WalksTogether worlds (next verdict first.host) (nextOther verdict second.host)) :
      WalksTogether worlds (.offer method context host next)
        (.offer method context hostOther nextOther)

/-- What stays related while two hosts are asked the same, stack walks apart. -/
structure Pairing (left : Host ρ) (right : Host σ) where
  worlds : World ρ → World σ → Prop
  names : RecentNames → RecentNames → Prop
  suspends : ∀ {first second}, worlds first second →
    Agree worlds (first.suspend left) (second.suspend right)
  lists : ∀ {first second}, worlds first second →
    Agree (Agree worlds) (first.threads left) (second.threads right)
  resolves : ∀ method context {cache other first second}, names cache other →
    worlds first second →
    Agree (fun kept keptOther => names kept.1 keptOther.1 ∧ worlds kept.2 keptOther.2)
      (cache.resolve (World.metadata left) method context first)
      (other.resolve (World.metadata right) method context second)
  resumes : ∀ {first second}, worlds first second →
    Agree worlds (first.resume left) (second.resume right)

structure Coupling (left : Host ρ) (right : Host σ) extends Pairing left right where
  begins : ∀ thread {first second}, worlds first second →
    worlds (first.note (.walkBegan thread)) (second.note (.walkBegan thread))
  walks : ∀ thread {first second}, worlds first second →
    WalksTogether worlds (left.walk thread first.host) (right.walk thread second.host)

namespace Pairing

variable {left : Host ρ} {right : Host σ}

structure Beside (pairing : Pairing left right) (first : Window ρ) (second : Window σ) :
    Prop where
  worlds : pairing.worlds first.world second.world
  names : pairing.names first.names second.names
  threads : first.threads = second.threads
  writer : first.writer = second.writer
  report : first.report.untimed = second.report.untimed

variable {pairing : Pairing left right} {first : Window ρ} {second : Window σ}

theorem Beside.agree_record (beside : pairing.Beside first second) (method : MethodId)
    (context : WalkContext) :
    Agree pairing.Beside (first.record left method context)
      (second.record right method context) := by
  obtain ⟨named, ⟨cache, world⟩, ⟨cacheOther, worldOther⟩, resolved, resolvedOther, names,
      worlds⟩ := (pairing.resolves method context beside.names beside.worlds).exists_eq
  rw [Window.record, Window.record, resolved, resolvedOther, ← beside.writer]
  cases named with
  | error panic => exact ⟨rfl, worlds, names, beside.threads, rfl, beside.report⟩
  | ok name =>
      refine ⟨rfl, worlds, names, beside.threads, rfl, ?_⟩
      exact congrArg (fun report : Report =>
        { report with frames := report.frames + (first.writer.addFrame method name).1.toNat })
        beside.report

theorem Beside.agree_end_walk (beside : pairing.Beside first second) {world : World ρ}
    {worldOther : World σ} {answer : Answer ρ} {other : Answer σ}
    (reply : answer.reply = other.reply)
    (ended : pairing.worlds (world.settle answer (.walkEnded answer.reply))
      (worldOther.settle other (.walkEnded other.reply))) :
    Agree pairing.Beside (({ first with world } : Window ρ).endWalk answer)
      (({ second with world := worldOther } : Window σ).endWalk other) := by
  obtain ⟨said, host, meanwhile⟩ := answer
  obtain ⟨saidOther, hostOther, meanwhileOther⟩ := other
  cases reply
  cases said with
  | ok value => exact ⟨rfl, ended, beside.names, beside.threads, beside.writer, beside.report⟩
  | error error =>
      refine ⟨rfl, ended, beside.names, beside.threads, beside.writer, ?_⟩
      exact congrArg (·.walkFailed error) beside.report
  | panic message => exact ⟨rfl, ended, beside.names, beside.threads, beside.writer, beside.report⟩

def Follows (pairing : Pairing left right) (maxFrames : Nat) : Prop :=
  ∀ {first second}, pairing.Beside first second → ∀ thread,
    Agree pairing.Beside
      (({ first with world := first.world.note (.walkBegan thread) } : Window ρ).followWalk left
        maxFrames 0 (left.walk thread (first.world.note (.walkBegan thread)).host))
      (({ second with world := second.world.note (.walkBegan thread) } : Window σ).followWalk right
        maxFrames 0 (right.walk thread (second.world.note (.walkBegan thread)).host))

section Threads

variable {settings otherSettings : Settings} (follows : pairing.Follows settings.maxFrames.toNat)
  (depths : settings.maxFrames = otherSettings.maxFrames) {directory otherDirectory : Directory}
  (identities : ∀ thread, directory.identity thread = otherDirectory.identity thread)
include follows depths identities

theorem Beside.agree_sample_thread (beside : pairing.Beside first second) (thread : ThreadHandle) :
    Agree pairing.Beside (first.sampleThread left settings directory thread)
      (second.sampleThread right otherSettings otherDirectory thread) := by
  rw [Window.sampleThread, Window.sampleThread, Window.openSample, Window.openSample,
    ← beside.writer, ← identities thread, ← depths]
  cases first.writer.openSample thread (directory.identity thread) with
  | error misuse => exact ⟨rfl, beside⟩
  | ok writer =>
      have opened : pairing.Beside { first with writer } { second with writer } :=
        ⟨beside.worlds, beside.names, beside.threads, rfl, beside.report⟩
      obtain ⟨ended, window, windowOther, walked, walkedOther, told⟩ :=
        (follows opened thread).exists_eq
      dsimp only at walked walkedOther ⊢
      rw [walked, walkedOther]
      cases ended with
      | error panic => exact ⟨rfl, told⟩
      | ok value =>
          refine ⟨rfl, told.worlds, told.names, told.threads, ?_, ?_⟩
          · exact congrArg Wire.Writer.closeSample told.writer
          · exact congrArg (fun report : Report => { report with threads := report.threads + 1 })
              told.report

theorem Beside.agree_sample_threads (beside : pairing.Beside first second)
    (threads : List ThreadHandle) :
    Agree pairing.Beside (first.sampleThreads left settings directory threads)
      (second.sampleThreads right otherSettings otherDirectory threads) := by
  induction threads generalizing first second with
  | nil => exact ⟨rfl, beside⟩
  | cons thread threads induction =>
      obtain ⟨ended, window, windowOther, sampled, sampledOther, told⟩ :=
        (beside.agree_sample_thread follows depths identities thread).exists_eq
      rw [Window.sampleThreads, Window.sampleThreads, sampled, sampledOther]
      cases ended with
      | error panic => exact ⟨rfl, told⟩
      | ok value => exact induction told

theorem Beside.agree_sample_all (beside : pairing.Beside first second) :
    Agree pairing.Beside (first.sampleAll left settings directory)
      (second.sampleAll right otherSettings otherDirectory) := by
  obtain ⟨threads, found, foundOther, listed, listedOther, agree⟩ :=
    (pairing.lists beside.worlds).exists_eq
  obtain ⟨reply, world, worldOther, rfl, rfl, worlds⟩ := agree.exists_eq
  rw [Window.sampleAll, Window.sampleAll, listed, listedOther]
  rw [← beside.threads]
  have noted : ∀ report reportOther, report.untimed = reportOther.untimed →
      pairing.Beside { first with world, threads := first.threads ++ threads, report }
        { second with
          world := worldOther, threads := first.threads ++ threads, report := reportOther } :=
    fun _ _ same => ⟨worlds, beside.names, rfl, beside.writer, same⟩
  cases reply with
  | ok value => exact (noted _ _ beside.report).agree_sample_threads follows depths identities _
  | error error =>
      apply (noted _ _ ?_).agree_sample_threads follows depths identities _
      exact congrArg (fun report : Report => { report with threadsError := some error })
        beside.report
  | panic message => exact ⟨rfl, noted _ _ beside.report⟩

end Threads

theorem Beside.agree_unwind (beside : pairing.Beside first second) (tally tallyOther : Tally)
    (panic : Panic) :
    Agree (fun counted countedOther => pairing.Beside counted.2 countedOther.2)
      (first.unwind left tally panic) (second.unwind right tallyOther panic) := by
  obtain ⟨reply, world, worldOther, resumed, resumedOther, worlds⟩ :=
    (pairing.resumes beside.worlds).exists_eq
  rw [Window.unwind, Window.unwind, resumed, resumedOther]
  cases reply <;> exact ⟨rfl, worlds, beside.names, beside.threads, beside.writer, beside.report⟩

theorem Beside.agree_run (beside : pairing.Beside first second) {settings otherSettings : Settings}
    (follows : pairing.Follows settings.maxFrames.toNat)
    (depths : settings.maxFrames = otherSettings.maxFrames) {directory otherDirectory : Directory}
    (identities : ∀ thread, directory.identity thread = otherDirectory.identity thread)
    (tally tallyOther : Tally) :
    Agree (fun counted countedOther => pairing.Beside counted.2 countedOther.2)
      (first.run left settings directory tally)
      (second.run right otherSettings otherDirectory tallyOther) := by
  obtain ⟨reply, world, worldOther, suspended, suspendedOther, worlds⟩ :=
    (pairing.suspends beside.worlds).exists_eq
  rw [Window.run, Window.run, suspended, suspendedOther]
  cases reply with
  | panic message => exact ⟨rfl, worlds, beside.names, beside.threads, beside.writer, beside.report⟩
  | error error =>
      refine ⟨rfl, worlds, beside.names, beside.threads, beside.writer, ?_⟩
      exact congrArg (fun report : Report => { report with suspendError := some error })
        beside.report
  | ok value =>
      have frozen : pairing.Beside { first with world } { second with world := worldOther } :=
        ⟨worlds, beside.names, beside.threads, beside.writer, beside.report⟩
      obtain ⟨ended, window, windowOther, sampled, sampledOther, told⟩ :=
        (frozen.agree_sample_all follows depths identities).exists_eq
      dsimp only
      rw [sampled, sampledOther]
      cases ended with
      | error panic => exact told.agree_unwind tally tallyOther panic
      | ok value =>
          obtain ⟨reply, world, worldOther, resumed, resumedOther, worlds⟩ :=
            (pairing.resumes told.worlds).exists_eq
          dsimp only
          rw [resumed, resumedOther]
          cases reply with
          | panic message => exact ⟨rfl, worlds, told.names, told.threads, told.writer, told.report⟩
          | error error =>
              refine ⟨rfl, worlds, told.names, told.threads, told.writer, ?_⟩
              exact congrArg (fun report : Report => { report with resumeError := some error })
                told.report
          | ok value => exact ⟨rfl, worlds, told.names, told.threads, told.writer, told.report⟩

end Pairing

namespace Coupling

variable {left : Host ρ} {right : Host σ} {coupling : Coupling left right}

theorem agree_follow_walk {first : Window ρ} {second : Window σ} {walk : Walk ρ} {other : Walk σ}
    (together : WalksTogether coupling.worlds walk other) (maxFrames depth : Nat)
    (beside : coupling.Beside first second) :
    Agree coupling.Beside (first.followWalk left maxFrames depth walk)
      (second.followWalk right maxFrames depth other) := by
  induction together generalizing first second depth with
  | finish reply ends => exact beside.agree_end_walk reply (ends _ _ beside.worlds)
  | @offer method context host hostOther next nextOther hears goesOn induction =>
      rw [Window.followWalk, Window.followWalk]
      have heard : ∀ verdict, coupling.Beside (first.hear host (.offered method context verdict))
          (second.hear hostOther (.offered method context verdict)) := fun verdict =>
        ⟨hears verdict _ _ beside.worlds, beside.names, beside.threads, beside.writer,
          beside.report⟩
      by_cases deep : maxFrames ≤ depth
      · rw [if_pos deep, if_pos deep]
        exact induction .enough _ _ (heard .enough).worlds depth (heard .enough)
      · rw [if_neg deep, if_neg deep]
        obtain ⟨ended, window, windowOther, recorded, recordedOther, told⟩ :=
          ((heard .more).agree_record method context).exists_eq
        rw [recorded, recordedOther]
        cases ended with
        | error panic => exact ⟨rfl, told⟩
        | ok value => exact induction .more _ _ told.worlds (depth + 1) told

theorem coupling_follows {maxFrames : Nat} : coupling.Follows maxFrames := by
  intro first second beside thread
  have began : coupling.Beside { first with world := first.world.note (.walkBegan thread) }
      { second with world := second.world.note (.walkBegan thread) } :=
    ⟨coupling.begins thread beside.worlds, beside.names, beside.threads, beside.writer,
      beside.report⟩
  exact agree_follow_walk (coupling.walks thread began.worlds) maxFrames 0 began

end Coupling

section Lookups

variable {left : Host ρ} {right : Host σ} {worlds : World ρ → World σ → Prop}
  (describes : ∀ method context {first second}, worlds first second →
    Agree worlds ((World.metadata left).describe method context first)
      ((World.metadata right).describe method context second))
  (namesTypes : ∀ classId {first second}, worlds first second →
    Agree worlds ((World.metadata left).typeName classId first)
      ((World.metadata right).typeName classId second))
include namesTypes

theorem class_name_agree (classId : ClassId) {first : World ρ} {second : World σ}
    (related : worlds first second) :
    Agree worlds (Naming.className (World.metadata left) classId first)
      (Naming.className (World.metadata right) classId second) := by
  obtain ⟨reply, world, worldOther, said, saidOther, next⟩ :=
    (namesTypes classId related).exists_eq
  rw [Naming.className, Naming.className, said, saidOther]
  cases reply <;> exact ⟨rfl, next⟩

include describes

theorem method_name_agree (method : MethodId) (context : WalkContext) {first : World ρ}
    {second : World σ} (related : worlds first second) :
    Agree worlds (Naming.methodName (World.metadata left) method context first)
      (Naming.methodName (World.metadata right) method context second) := by
  rw [method_name_eq (World.metadata left), method_name_eq (World.metadata right)]
  split
  · exact ⟨rfl, related⟩
  · obtain ⟨reply, world, worldOther, said, saidOther, next⟩ :=
      (describes method context related).exists_eq
    rw [said, saidOther]
    match reply with
    | .ok ⟨none, name⟩ => exact ⟨rfl, next⟩
    | .ok ⟨some classId, name⟩ =>
        obtain ⟨same, last⟩ := class_name_agree namesTypes classId next
        exact ⟨congrArg (Except.map (Naming.qualified · name)) same, last⟩
    | .error error => exact ⟨rfl, next⟩
    | .panic message => exact ⟨rfl, next⟩

theorem resolve_agree (method : MethodId) (context : WalkContext) (cache : RecentNames)
    {first : World ρ} {second : World σ} (related : worlds first second) :
    Agree (fun kept keptOther => kept.1 = keptOther.1 ∧ worlds kept.2 keptOther.2)
      (cache.resolve (World.metadata left) method context first)
      (cache.resolve (World.metadata right) method context second) := by
  rw [RecentNames.resolve, RecentNames.resolve]
  cases cache.names[method]? with
  | some cached => exact ⟨rfl, rfl, related⟩
  | none =>
      obtain ⟨outcome, world, worldOther, named, namedOther, next⟩ :=
        (method_name_agree describes namesTypes method context related).exists_eq
      dsimp only
      rw [named, namedOther]
      cases outcome <;> exact ⟨rfl, rfl, next⟩

end Lookups

theorem resolve_keeps {api : Host ρ} {kept : World ρ → Prop}
    (describes : ∀ method context world, kept world →
      kept ((World.metadata api).describe method context world).2)
    (namesTypes : ∀ classId world, kept world →
      kept ((World.metadata api).typeName classId world).2)
    (cache : RecentNames) (method : MethodId) (context : WalkContext) {world : World ρ}
    (start : kept world) :
    kept (cache.resolve (World.metadata api) method context world).2.2 := by
  have described : ∀ method context {first second : World ρ}, first = second ∧ kept first →
      Agree (fun first second => first = second ∧ kept first)
        ((World.metadata api).describe method context first)
        ((World.metadata api).describe method context second) := by
    rintro method context world _ ⟨rfl, holds⟩
    exact ⟨rfl, rfl, describes method context world holds⟩
  have typesNamed : ∀ classId {first second : World ρ}, first = second ∧ kept first →
      Agree (fun first second => first = second ∧ kept first)
        ((World.metadata api).typeName classId first)
        ((World.metadata api).typeName classId second) := by
    rintro classId world _ ⟨rfl, holds⟩
    exact ⟨rfl, rfl, namesTypes classId world holds⟩
  exact (resolve_agree described typesNamed method context cache ⟨rfl, start⟩).left.2.2

theorem filterMap_own_resolve {α : Type} {pick : Event → Option α}
    (describes : ∀ method context reply, pick (.methodAsked method context reply) = none)
    (namesTypes : ∀ classId reply, pick (.typeAsked classId reply) = none) (api : Host ρ)
    (cache : RecentNames) (method : MethodId) (context : WalkContext) (world : World ρ) :
    (cache.resolve (World.metadata api) method context world).2.2.own.filterMap pick =
      world.own.filterMap pick := by
  have unpicked : ∀ (host : ρ) (event : Event) (before : World ρ), event.isShared = false →
      pick event = none → before.own.filterMap pick = world.own.filterMap pick →
      (World.note { before with host } event).own.filterMap pick =
        world.own.filterMap pick := by
    intro host event before own none same
    rw [World.own_note _ own, List.filterMap_append, List.filterMap_cons_none none,
      List.filterMap_nil, List.append_nil]
    exact same
  apply @resolve_keeps ρ api (fun other => other.own.filterMap pick = world.own.filterMap pick)
  · intro method context before same
    exact unpicked _ _ before rfl (describes _ _ _) same
  · intro classId before same
    exact unpicked _ _ before rfl (namesTypes _ _) same
  · rfl

namespace Sampler

def abandon (profiler : Profiler) (sampler : Sampler) (crash : Crash) (tally : Tally)
    (window : Window ρ) : PassEnd ρ where
  result := .error crash
  profiler := { profiler with mailbox := window.world.mailbox, tally }
  sampler := { sampler with names := window.names, threads := window.threads }
  host := window.world.host
  journal := window.world.journal

/-- Behind what a window noted come its capture and what its report has to log. -/
theorem toList_journal_conclude (profiler : Profiler) (sampler : Sampler) (tally : Tally)
    (window : Window ρ) :
    ∃ lines : List LogLine, (conclude profiler sampler tally window).journal.toList =
      window.world.journal.toList ++ .published window.writer.closeBatch.finish
        (window.world.publish window.writer.closeBatch.finish).1 :: lines.map Event.logged := by
  simp only [conclude, World.publish, World.log, World.note, Array.toList_appendList,
    Array.toList_push, List.append_assoc, List.singleton_append]
  exact ⟨_, rfl⟩

/-- Two passes that begin alike and are not skipped end alike: both with what they captured, or both
by the same crash. -/
theorem pass_beside {left : Host ρ} {right : Host σ} {pairing : Pairing left right}
    {profiler other : Profiler} {sampler otherSampler : Sampler} {host : ρ} {hostOther : σ}
    (follows : pairing.Follows sampler.settings.maxFrames.toNat)
    (room : profiler.mailbox.hasRoom = true) (roomOther : other.mailbox.hasRoom = true)
    (capacities : sampler.settings.bufferCapacity = otherSampler.settings.bufferCapacity)
    (depths : sampler.settings.maxFrames = otherSampler.settings.maxFrames)
    (identities : ∀ thread, profiler.directory.identity thread = other.directory.identity thread)
    (names : pairing.names sampler.names otherSampler.names)
    (worlds : pairing.worlds (sampler.window profiler host).world
      (otherSampler.window other hostOther).world) :
    ∃ window windowOther tally tallyOther, pairing.Beside window windowOther ∧
      ((sampler.pass left profiler host = conclude profiler sampler tally window ∧
          otherSampler.pass right other hostOther =
            conclude other otherSampler tallyOther windowOther) ∨
        ∃ crash, sampler.pass left profiler host =
            abandon profiler sampler crash tally window ∧
          otherSampler.pass right other hostOther =
            abandon other otherSampler crash tallyOther windowOther) := by
  have begun : pairing.Beside (sampler.window profiler host)
      (otherSampler.window other hostOther) := by
    refine ⟨worlds, names, rfl, ?_, rfl⟩
    rw [window, window, capacities]
  obtain ⟨outcome, ⟨tally, window⟩, ⟨tallyOther, windowOther⟩, ran, ranOther, beside⟩ :=
    (begun.agree_run follows depths identities profiler.tally other.tally).exists_eq
  refine ⟨window, windowOther, tally, tallyOther, beside, ?_⟩
  rw [pass_eq left sampler host room, pass_eq right otherSampler hostOther roomOther, ran, ranOther]
  cases outcome with
  | ok value => exact .inl ⟨rfl, rfl⟩
  | error crash => exact .inr ⟨crash, rfl, rfl⟩

theorem walks_together_refl (walk : Walk ρ) : WalksTogether Eq walk walk := by
  induction walk with
  | finish answer =>
      apply WalksTogether.finish rfl
      rintro world _ rfl
      rfl
  | offer method context host next induction =>
      apply WalksTogether.offer
      · rintro verdict world _ rfl
        rfl
      · rintro verdict world _ rfl
        exact induction verdict world.host

/-- A pass beside itself, to follow what it does to its cache. -/
def selfCoupling (api : Host ρ) (kept : RecentNames → Prop)
    (each : ∀ cache method context world, kept cache →
      kept (cache.resolve (World.metadata api) method context world).2.1) :
    Coupling api api where
  worlds := Eq
  names cache other := cache = other ∧ kept cache
  suspends := by
    rintro world _ rfl
    exact ⟨rfl, rfl⟩
  lists := by
    rintro world _ rfl
    exact ⟨rfl, rfl, rfl⟩
  begins := by
    rintro thread world _ rfl
    rfl
  walks := by
    rintro thread world _ rfl
    exact walks_together_refl _
  resolves := by
    rintro method context cache _ world _ ⟨rfl, holds⟩ rfl
    exact ⟨rfl, ⟨rfl, each cache method context world holds⟩, rfl⟩
  resumes := by
    rintro world _ rfl
    exact ⟨rfl, rfl⟩

/-- A pass changes of its sampler only the cache and the list of threads, and what every lookup
keeps of the cache is kept. -/
theorem sampler_pass (api : Host ρ) {kept : RecentNames → Prop}
    (each : ∀ cache method context world, kept cache →
      kept (cache.resolve (World.metadata api) method context world).2.1)
    (profiler : Profiler) {sampler : Sampler} (host : ρ) (start : kept sampler.names) :
    ∃ names threads,
      (sampler.pass api profiler host).sampler = { sampler with names, threads } ∧ kept names := by
  cases room : profiler.mailbox.hasRoom with
  | false =>
      rw [pass, if_neg (by simp [room])]
      exact ⟨sampler.names, sampler.threads, rfl, start⟩
  | true =>
      have begun : (selfCoupling api kept each).worlds (sampler.window profiler host).world
          (sampler.window profiler host).world := rfl
      obtain ⟨window, _, tally, _, beside, ended⟩ :=
        pass_beside (selfCoupling api kept each).coupling_follows room room rfl rfl (fun _ => rfl)
          ⟨rfl, start⟩ begun
      refine ⟨window.names, window.threads, ?_, beside.names.2⟩
      rcases ended with ⟨done, -⟩ | ⟨crash, done, -⟩
      · rw [done]
        rfl
      · rw [done]
        rfl

end Sampler

end StackSampler
