import StackSampler.Proofs.Pass.FixedNames
import StackSampler.Proofs.Pass.Steps

/-!
# Hosts that panic now and then

A metadata source that never changes its mind may still panic now and then. Put another one in its
place that gives the right answer where this one panics: a pass that no panic leaves does not show
the difference, and the cache stays truthful even through the panics.
-/

namespace StackSampler

variable {α ε ρ σ τ : Type}

/-- Whether a source gives these answers in every state and to every frame, unless it panics. -/
structure FixedAnswers.GivenUnlessPanic (answers : FixedAnswers) (source : Metadata σ) : Prop where
  describe : ∀ method context state,
    (source.describe method context state).1 = .ofExcept (answers.describe method) ∨
      ∃ message, (source.describe method context state).1 = .panic message
  typeName : ∀ classId state,
    (source.typeName classId state).1 = .ofExcept (answers.typeName classId) ∨
      ∃ message, (source.typeName classId state).1 = .panic message

/-- A host that gives these answers, and for the rest does the same. -/
def Host.steadied (api : Host ρ) (answers : FixedAnswers) : Host ρ :=
  { api with
    metadata :=
      { describe := fun method context host =>
          (.ofExcept (answers.describe method), (api.metadata.describe method context host).2)
        typeName := fun classId host =>
          (.ofExcept (answers.typeName classId), (api.metadata.typeName classId host).2) } }

theorem FixedAnswers.given_by_steadied (answers : FixedAnswers) (api : Host ρ) :
    answers.GivenBy (api.steadied answers).metadata :=
  ⟨fun _ _ _ => rfl, fun _ _ => rfl⟩

/-- Whether a step comes to the same as another one, unless it fails. -/
def SameUnlessLeft (step other : Except ε α × τ) : Prop :=
  (∃ error left, step = (.error error, left)) ∨ step = other

structure Metadata.SameUnlessPanic (source other : Metadata σ) : Prop where
  describe : ∀ method context state,
    (∃ message left, source.describe method context state = (.panic message, left)) ∨
      source.describe method context state = other.describe method context state
  typeName : ∀ classId state,
    (∃ message left, source.typeName classId state = (.panic message, left)) ∨
      source.typeName classId state = other.typeName classId state

theorem FixedAnswers.GivenUnlessPanic.same_unless_panic_world {api : Host ρ}
    {answers : FixedAnswers} (given : answers.GivenUnlessPanic api.metadata) :
    (World.metadata api).SameUnlessPanic (World.metadata (api.steadied answers)) where
  describe method context world := by
    rw [World.metadata, World.metadata, Host.steadied]
    dsimp only
    rcases given.describe method context world.host with right | ⟨message, panicked⟩
    · rw [right]
      exact .inr rfl
    · rw [panicked]
      exact .inl ⟨message, _, rfl⟩
  typeName classId world := by
    rw [World.metadata, World.metadata, Host.steadied]
    dsimp only
    rcases given.typeName classId world.host with right | ⟨message, panicked⟩
    · rw [right]
      exact .inr rfl
    · rw [panicked]
      exact .inl ⟨message, _, rfl⟩

section Lookups

variable {source other : Metadata σ} (same : source.SameUnlessPanic other)
include same

theorem class_name_unless_left (classId : ClassId) (state : σ) :
    SameUnlessLeft (Naming.className source classId state)
      (Naming.className other classId state) := by
  rw [Naming.className, Naming.className]
  rcases same.typeName classId state with ⟨message, left, panicked⟩ | answered
  · rw [panicked]
    exact .inl ⟨_, left, rfl⟩
  · rw [answered]
    exact .inr rfl

theorem method_name_unless_left (method : MethodId) (context : WalkContext) (state : σ) :
    SameUnlessLeft (Naming.methodName source method context state)
      (Naming.methodName other method context state) := by
  rw [method_name_eq, method_name_eq]
  split
  · exact .inr rfl
  · rcases same.describe method context state with ⟨message, left, panicked⟩ | answered
    · rw [panicked]
      exact .inl ⟨_, left, rfl⟩
    · rw [answered]
      rcases other.describe method context state with ⟨⟨_ | classId, name⟩ | error | message, after⟩
      · exact .inr rfl
      · dsimp only
        rcases class_name_unless_left same classId after with ⟨panic, left, panicked⟩ | named
        · rw [panicked]
          exact .inl ⟨panic, left, rfl⟩
        · rw [named]
          exact .inr rfl
      · exact .inr rfl
      · exact .inr rfl

/-- A lookup that fails leaves the miss counted and the room made. -/
theorem resolve_cases (cache : RecentNames) (method : MethodId) (context : WalkContext)
    (state : σ) :
    (∃ panic left, cache.resolve source method context state = (.error panic, cache.miss, left)) ∨
      cache.resolve source method context state = cache.resolve other method context state := by
  rw [RecentNames.resolve, RecentNames.resolve]
  cases cache.names[method]? with
  | some cached => exact .inr rfl
  | none =>
      dsimp only
      rcases method_name_unless_left same method context state with ⟨panic, left, panicked⟩ | named
      · rw [panicked]
        exact .inl ⟨panic, left, rfl⟩
      · rw [named]
        exact .inr rfl

end Lookups

section Steadied

variable {answers : FixedAnswers} {api : Host ρ} (given : answers.GivenUnlessPanic api.metadata)
include given

/-- With a truthful cache a lookup that returns gives the right name, and the cache stays truthful
even if the source panics. -/
theorem RecentNames.Truthful.resolve_unless_left {cache : RecentNames}
    (truthful : cache.Truthful answers) (method : MethodId) (context : WalkContext)
    (world : World ρ) :
    ((∃ panic, (cache.resolve (World.metadata api) method context world).1 = .error panic) ∨
        (cache.resolve (World.metadata api) method context world).1 = .ok (answers.name method)) ∧
      (cache.resolve (World.metadata api) method context world).2.1.Truthful answers := by
  rcases resolve_cases given.same_unless_panic_world cache method context world with
    ⟨panic, left, panicked⟩ | same
  · have roomy : cache.miss.Truthful answers := truthful_make_room truthful
    rw [panicked]
    exact ⟨.inl ⟨panic, rfl⟩, roomy⟩
  · rw [same]
    obtain ⟨named, kept⟩ := truthful.truthful_resolve (answers.given_by_steadied api).given_by_world
      method context world
    exact ⟨.inr named, kept⟩

namespace Window

theorem record_steadied (window : Window ρ) (method : MethodId) (context : WalkContext) :
    SameUnlessLeft (window.record api method context)
      (window.record (api.steadied answers) method context) := by
  obtain ⟨world, names, threads, writer, report⟩ := window
  rw [record, record]
  rcases resolve_cases given.same_unless_panic_world names method context world with
    ⟨panic, left, panicked⟩ | same
  · rw [panicked]
    exact .inl ⟨panic, _, rfl⟩
  · rw [same]
    exact .inr rfl

theorem follow_walk_steadied (maxFrames : Nat) (window : Window ρ) (depth : Nat) (walk : Walk ρ) :
    SameUnlessLeft (window.followWalk api maxFrames depth walk)
      (window.followWalk (api.steadied answers) maxFrames depth walk) := by
  induction walk generalizing window depth with
  | finish answer => exact .inr rfl
  | offer method context host next induction =>
      rw [followWalk, followWalk]
      split
      · exact induction .enough _ _ depth
      · rcases record_steadied given (window.hear host (.offered method context .more)) method
          context with ⟨panic, left, panicked⟩ | same
        · rw [panicked]
          exact .inl ⟨panic, left, rfl⟩
        · rw [same]
          rcases (window.hear host (.offered method context .more)).record (api.steadied answers)
            method context with ⟨panic | value, after⟩
          · exact .inr rfl
          · exact induction .more _ after (depth + 1)

variable (settings : Settings) (directory : Directory)

theorem sample_thread_steadied (window : Window ρ) (thread : ThreadHandle) :
    SameUnlessLeft (window.sampleThread api settings directory thread)
      (window.sampleThread (api.steadied answers) settings directory thread) := by
  rw [sampleThread, sampleThread]
  rcases window.openSample thread (directory.identity thread) with ⟨panic | value, opened⟩
  · exact .inr rfl
  · dsimp only
    rcases follow_walk_steadied given settings.maxFrames.toNat
      { opened with world := opened.world.note (.walkBegan thread) } 0
      (api.walk thread (opened.world.note (.walkBegan thread)).host) with
      ⟨panic, left, panicked⟩ | same
    · rw [panicked]
      exact .inl ⟨panic, left, rfl⟩
    · rw [same]
      exact .inr rfl

theorem sample_threads_steadied (window : Window ρ) (threads : List ThreadHandle) :
    SameUnlessLeft (window.sampleThreads api settings directory threads)
      (window.sampleThreads (api.steadied answers) settings directory threads) := by
  induction threads generalizing window with
  | nil => exact .inr rfl
  | cons thread threads induction =>
      rw [sampleThreads, sampleThreads]
      rcases sample_thread_steadied given settings directory window thread with
        ⟨panic, left, panicked⟩ | same
      · rw [panicked]
        exact .inl ⟨panic, left, rfl⟩
      · rw [same]
        rcases window.sampleThread (api.steadied answers) settings directory thread with
          ⟨panic | value, after⟩
        · exact .inr rfl
        · exact induction after

theorem sample_all_steadied (window : Window ρ) :
    SameUnlessLeft (window.sampleAll api settings directory)
      (window.sampleAll (api.steadied answers) settings directory) := by
  have listed : window.world.threads (api.steadied answers) = window.world.threads api := rfl
  rw [sampleAll, sampleAll, listed]
  rcases window.world.threads api with ⟨threads, reply, world⟩
  cases reply with
  | panic message => exact .inr rfl
  | _ => exact sample_threads_steadied given settings directory _ _

theorem run_steadied (tally : Tally) (window : Window ρ) :
    SameUnlessLeft (window.run api settings directory tally)
      (window.run (api.steadied answers) settings directory tally) := by
  have suspended : window.world.suspend (api.steadied answers) = window.world.suspend api := rfl
  rw [run, run, suspended]
  rcases window.world.suspend api with ⟨reply, world⟩
  cases reply with
  | ok value =>
      dsimp only
      rcases sample_all_steadied given settings directory { window with world } with
        ⟨panic, left, panicked⟩ | same
      · -- A panic that leaves the sampling leaves the window, however resuming the host goes.
        rw [panicked]
        dsimp only
        rw [unwind]
        rcases left.world.resume api with ⟨_ | error | message, thawed⟩ <;> exact .inl ⟨_, _, rfl⟩
      · rw [same]
        exact .inr rfl
  | _ => exact .inr rfl

end Window

/-- A pass that returns is one over the steadied host. -/
theorem Sampler.pass_steadied {profiler : Profiler} {sampler : Sampler} {host : ρ}
    {reported : Option Report}
    (returned : (sampler.pass api profiler host).result = .ok reported) :
    sampler.pass api profiler host = sampler.pass (api.steadied answers) profiler host := by
  cases room : profiler.mailbox.hasRoom with
  | false =>
      have full : ¬profiler.mailbox.hasRoom = true := by simp [room]
      rw [pass, if_neg full, pass, if_neg full]
  | true =>
      rw [pass_eq api sampler host room] at returned ⊢
      rw [pass_eq (api.steadied answers) sampler host room]
      rcases Window.run_steadied given sampler.settings profiler.directory profiler.tally
        (sampler.window profiler host) with ⟨crash, left, crashed⟩ | same
      · rw [crashed] at returned
        cases returned
      · rw [same]

end Steadied

end StackSampler
