import StackSampler.Pass.Journal
import StackSampler.Settings
import StackSampler.Tally

/-!
The frozen window of a pass: from suspending the host to resuming it.

A panic of the host passes through every function here and keeps the state behind it. However the
window is left, the host is resumed exactly once if it was suspended, and nothing is logged before
that.
-/

namespace StackSampler

structure Window (ρ : Type) where
  world : World ρ
  names : RecentNames
  threads : List ThreadHandle
  writer : Wire.Writer
  report : Report := {}

/-- How a pass can end without returning. If the host panics again while a panic is passing through,
the process ends. -/
inductive Crash where
  | panicked (panic : Panic)
  | aborted
deriving DecidableEq, Repr

namespace Window

variable {ρ : Type}

def record (api : Host ρ) (window : Window ρ) (method : MethodId) (context : WalkContext) :
    Except Panic Unit × Window ρ :=
  match window with
  | ⟨world, names, threads, writer, report⟩ =>
      match names.resolve (World.metadata api) method context world with
      | (.error panic, names, world) => (.error panic, ⟨world, names, threads, writer, report⟩)
      | (.ok name, names, world) =>
          match writer.addFrame method name with
          | (written, writer) =>
              (.ok (), ⟨world, names, threads, writer,
                { report with frames := report.frames + written.toNat }⟩)

def hear (window : Window ρ) (host : ρ) (event : Event) : Window ρ :=
  { window with world := { window.world with host }.note event }

def endWalk (window : Window ρ) (answer : Answer ρ) : Except Panic Unit × Window ρ :=
  let window := { window with world := window.world.settle answer (.walkEnded answer.reply) }
  match answer.reply with
  | .ok () => (.ok (), window)
  | .error error => (.ok (), { window with report := window.report.walkFailed error })
  | .panic message => (.error ⟨message⟩, window)

/-- Follows a walk to its end. The frames up to the depth limit are named and offered to the
writer; every later one is only told that it is enough, however often the walk goes on. -/
def followWalk (api : Host ρ) (maxFrames : Nat) (window : Window ρ) (depth : Nat) :
    Walk ρ → Except Panic Unit × Window ρ
  | .finish answer => window.endWalk answer
  | .offer method context host next =>
      if maxFrames ≤ depth then
        let window := window.hear host (.offered method context .enough)
        followWalk api maxFrames window depth (next .enough window.world.host)
      else
        match (window.hear host (.offered method context .more)).record api method context with
        | (.error panic, window) => (.error panic, window)
        | (.ok (), window) =>
            followWalk api maxFrames window (depth + 1) (next .more window.world.host)

def openSample (window : Window ρ) (thread : ThreadHandle) (identity : ThreadIdentity) :
    Except Panic Unit × Window ρ :=
  match window.writer.openSample thread identity with
  | .error misuse => (.error ⟨misuse.message⟩, window)
  | .ok writer => (.ok (), { window with writer })

def closeSample (window : Window ρ) : Window ρ :=
  { window with
    writer := window.writer.closeSample
    report := { window.report with threads := window.report.threads + 1 } }

/-- Writes one thread's sample. A walk that fails keeps the frames it had offered. -/
def sampleThread (api : Host ρ) (settings : Settings) (directory : Directory) (window : Window ρ)
    (thread : ThreadHandle) : Except Panic Unit × Window ρ :=
  match window.openSample thread (directory.identity thread) with
  | (.error panic, window) => (.error panic, window)
  | (.ok (), window) =>
      let window := { window with world := window.world.note (.walkBegan thread) }
      match window.followWalk api settings.maxFrames.toNat 0
          (api.walk thread window.world.host) with
      | (.error panic, window) => (.error panic, window)
      | (.ok (), window) => (.ok (), window.closeSample)

def sampleThreads (api : Host ρ) (settings : Settings) (directory : Directory)
    (window : Window ρ) : List ThreadHandle → Except Panic Unit × Window ρ
  | [] => (.ok (), window)
  | thread :: threads =>
      match window.sampleThread api settings directory thread with
      | (.error panic, window) => (.error panic, window)
      | (.ok (), window) => window.sampleThreads api settings directory threads

/-- Samples every thread of a suspended host, which adds them to the list. An incomplete list is
sampled as far as it goes. -/
def sampleAll (api : Host ρ) (settings : Settings) (directory : Directory) (window : Window ρ) :
    Except Panic Unit × Window ρ :=
  match window.world.threads api with
  | (listed, reply, world) =>
      let threads := window.threads ++ listed
      let window := { window with world, threads }
      match reply with
      | .ok () => window.sampleThreads api settings directory threads
      | .error error =>
          { window with report := { window.report with threadsError := some error } }.sampleThreads
            api settings directory threads
      | .panic message => (.error ⟨message⟩, window)

/-- Resumes the host while a panic passes through. A failure goes to the tally, since the report
is lost. -/
def unwind (api : Host ρ) (tally : Tally) (window : Window ρ) (panic : Panic) :
    Except Crash Unit × Tally × Window ρ :=
  match window.world.resume api with
  | (.ok (), world) => (.error (.panicked panic), tally, { window with world })
  | (.error _, world) => (.error (.panicked panic), tally.countFailedResume, { window with world })
  | (.panic _, world) => (.error .aborted, tally, { window with world })

def thaw (api : Host ρ) (window : Window ρ) (since : Nat) : Window ρ :=
  let frozen := api.clock window.world.host - since
  { window with report := { window.report with frozen } }

/-- Suspends the host, samples it and resumes it. If suspending fails, nothing else happens. -/
def run (api : Host ρ) (settings : Settings) (directory : Directory) (tally : Tally)
    (window : Window ρ) : Except Crash Unit × Tally × Window ρ :=
  let since := api.clock window.world.host
  match window.world.suspend api with
  | (.panic message, world) => (.error (.panicked ⟨message⟩), tally, { window with world })
  | (.error error, world) =>
      let report := { window.report with suspendError := some error }
      (.ok (), tally, { window with world, report }.thaw api since)
  | (.ok (), world) =>
      match { window with world }.sampleAll api settings directory with
      | (.error panic, window) => window.unwind api tally panic
      | (.ok (), window) =>
          match window.world.resume api with
          | (.panic message, world) => (.error (.panicked ⟨message⟩), tally, { window with world })
          | (.error error, world) =>
              let report := { window.report with resumeError := some error }
              (.ok (), tally, { window with world, report }.thaw api since)
          | (.ok (), world) => (.ok (), tally, { window with world }.thaw api since)

end Window

end StackSampler
