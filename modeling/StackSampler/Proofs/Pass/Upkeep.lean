import StackSampler.Proofs.Pass.Steps

/-!
# What a frozen window keeps

A property of windows is carried through a frozen window step by step: from one walk to the next,
from one frame to the next inside a walk, and to what is left where a panic leaves the window. Only
the single steps depend on the property; how they are strung together is the same for all of them.
-/

namespace StackSampler

variable {α ρ τ : Type}

/-- What holds behind a step: one thing where it returned, another where a panic left it. -/
def Ends (calm : τ → Prop) (broken : Panic → τ → Prop) : Except Panic α × τ → Prop
  | (.ok _, left) => calm left
  | (.error panic, left) => broken panic left

theorem Ends.returned_or_left {calm : τ → Prop} {broken : Panic → τ → Prop}
    {step : Except Panic Unit × τ} (ended : Ends calm broken step) :
    (∃ left, step = (.ok (), left) ∧ calm left) ∨
      ∃ panic left, step = (.error panic, left) ∧ broken panic left := by
  obtain ⟨outcome, left⟩ := step
  cases outcome with
  | ok value => exact .inl ⟨left, rfl, ended⟩
  | error panic => exact .inr ⟨panic, left, rfl, ended⟩

/-- What a step keeps however it goes. -/
theorem Ends.ends_of_always {calm : τ → Prop} {broken : Panic → τ → Prop}
    {step : Except Panic α × τ} (holds : calm step.2)
    (weaker : ∀ panic left, calm left → broken panic left) :
    Ends calm broken step := by
  obtain ⟨outcome, left⟩ := step
  cases outcome with
  | ok value => exact holds
  | error panic => exact weaker panic left holds

namespace Window

/-- Adds the threads to the list; only a panic keeps them from being sampled. -/
def listing (api : Host ρ) (window : Window ρ) : Except Panic Unit × Window ρ :=
  let world := (window.world.threads api).2.2
  let threads := window.threads ++ (window.world.threads api).1
  match (window.world.threads api).2.1 with
  | .ok () => (.ok (), { window with world, threads })
  | .error error =>
      (.ok (), { window with
        world, threads, report := { window.report with threadsError := some error } })
  | .panic message => (.error ⟨message⟩, { window with world, threads })

theorem sample_all_eq (api : Host ρ) (settings : Settings) (directory : Directory)
    (window : Window ρ) :
    window.sampleAll api settings directory =
      match window.listing api with
      | (.error panic, left) => (.error panic, left)
      | (.ok (), left) => left.sampleThreads api settings directory left.threads := by
  rw [sampleAll, listing]
  rcases window.world.threads api with ⟨threads, reply, world⟩
  cases reply <;> rfl

theorem writer_listing (api : Host ρ) (window : Window ρ) :
    (window.listing api).2.writer = window.writer := by
  rw [listing]
  cases (window.world.threads api).2.1 <;> rfl

end Window

/-- Properties of windows between two walks, inside a walk at a depth, and behind a panic, as the
steps of a window pass them on. -/
structure Upkeep (api : Host ρ) (settings : Settings) (directory : Directory) where
  between : Window ρ → Prop
  inside : Nat → Window ρ → Prop
  broken : Panic → Window ρ → Prop
  lists : ∀ {window}, between window → Ends between broken (window.listing api)
  begins : ∀ {window} thread, between window → inside 0 (window.walking directory thread)
  hears : ∀ {window depth} host method context, settings.maxFrames.toNat ≤ depth →
    inside depth window → inside depth (window.hear host (.offered method context .enough))
  records : ∀ {window depth} host method context, depth < settings.maxFrames.toNat →
    inside depth window → Ends (inside (depth + 1)) broken
      ((window.hear host (.offered method context .more)).record api method context)
  ends : ∀ {window depth} answer, inside depth window →
    Ends (fun left => between left.closeSample) broken (window.endWalk answer)

namespace Upkeep

variable {api : Host ρ} {settings : Settings} {directory : Directory}
  (upkeep : Upkeep api settings directory)

theorem upkeep_follow_walk {window : Window ρ} {depth : Nat} (start : upkeep.inside depth window)
    (walk : Walk ρ) :
    Ends (fun left => upkeep.between left.closeSample) upkeep.broken
      (window.followWalk api settings.maxFrames.toNat depth walk) := by
  induction walk generalizing window depth with
  | finish answer => exact upkeep.ends answer start
  | offer method context host next induction =>
      rw [Window.followWalk]
      by_cases deep : settings.maxFrames.toNat ≤ depth
      · rw [if_pos deep]
        exact induction _ _ (upkeep.hears host method context deep start)
      · rw [if_neg deep]
        obtain ⟨left, recorded, named⟩ | ⟨panic, left, recorded, broken⟩ :=
          (upkeep.records host method context (Nat.lt_of_not_le deep) start).returned_or_left
        · rw [recorded]
          exact induction .more left.world.host named
        · rw [recorded]
          exact broken

def Samples (sampled : Except Panic Unit × Window ρ) : Prop :=
  Ends (fun left => upkeep.between left ∧ left.writer.phase ≠ .inSample) upkeep.broken sampled

theorem upkeep_sample_thread {window : Window ρ} (start : upkeep.between window)
    (outside : window.writer.phase ≠ .inSample) (thread : ThreadHandle) :
    upkeep.Samples (window.sampleThread api settings directory thread) := by
  rw [Window.sample_thread_eq api settings directory outside thread]
  obtain ⟨left, followed, closed⟩ | ⟨panic, left, followed, broken⟩ :=
    (upkeep.upkeep_follow_walk (upkeep.begins thread start)
      (api.walk thread (window.walking directory thread).world.host)).returned_or_left
  · rw [followed]
    exact ⟨closed, Wire.Writer.phase_close_sample left.writer⟩
  · rw [followed]
    exact broken

theorem upkeep_sample_threads {window : Window ρ} (start : upkeep.between window)
    (outside : window.writer.phase ≠ .inSample) (threads : List ThreadHandle) :
    upkeep.Samples (window.sampleThreads api settings directory threads) := by
  induction threads generalizing window with
  | nil => exact ⟨start, outside⟩
  | cons thread threads induction =>
      rw [Window.sampleThreads]
      obtain ⟨left, sampled, between, closed⟩ | ⟨panic, left, sampled, broken⟩ :=
        (upkeep.upkeep_sample_thread start outside thread).returned_or_left
      · rw [sampled]
        exact induction between closed
      · rw [sampled]
        exact broken

theorem upkeep_sample_all {window : Window ρ} (start : upkeep.between window)
    (outside : window.writer.phase ≠ .inSample) :
    upkeep.Samples (window.sampleAll api settings directory) := by
  have same := window.writer_listing api
  rw [window.sample_all_eq api settings directory]
  obtain ⟨left, listed, begun⟩ | ⟨panic, left, listed, broken⟩ :=
    (upkeep.lists start).returned_or_left
  · rw [listed] at same ⊢
    apply upkeep.upkeep_sample_threads begun
    rw [same]
    exact outside
  · rw [listed]
    exact broken

end Upkeep

end StackSampler
