import StackSampler.Profiler
import StackSampler.Schedule

/-!
The sampling loop: wait for the next deadline or for a request to stop, make a pass, and so on. It
runs on a thread of its own, which ends when it is asked to stop or when a pass panics.
-/

namespace StackSampler

inductive Wake where
  | timedOut
  | stopped
deriving DecidableEq, Repr

inductive LoopStatus where
  | running
  | stopped
  | crashed (crash : Crash)
deriving DecidableEq, Repr

structure Sampling (ρ : Type) where
  anchor : Nat
  status : LoopStatus := .running
  profiler : Profiler
  sampler : Sampler
  host : ρ
  journal : Array Event := #[]

namespace Sampling

variable {ρ : Type}

def log (sampling : Sampling ρ) (line : LogLine) : Sampling ρ :=
  { sampling with journal := sampling.journal.push (.logged line) }

def start (profiler : Profiler) (host : ρ) (now : Nat) : Sampling ρ :=
  let sampling : Sampling ρ := { anchor := now, profiler, sampler := profiler.sampler, host }
  sampling.log (.samplingStarted profiler.settings.intervalMillis.toNat)

def timeout (sampling : Sampling ρ) (now : Nat) : Nat :=
  Schedule.timeout sampling.anchor sampling.sampler.settings.interval now

def turn (api : Host ρ) (sampling : Sampling ρ) : Sampling ρ :=
  let passEnd := sampling.sampler.pass api sampling.profiler sampling.host
  let sampling :=
    { sampling with
      profiler := passEnd.profiler
      sampler := passEnd.sampler
      host := passEnd.host
      journal := sampling.journal ++ passEnd.journal }
  match passEnd.result with
  | .ok (some _) => sampling
  | .ok none => sampling.log .passSkipped
  | .error crash => { sampling with status := .crashed crash }

/-- The loop behind the end of a wait. Once it has ended it stays as it is. -/
def wake (api : Host ρ) (sampling : Sampling ρ) (wake : Wake) : Sampling ρ :=
  match sampling.status, wake with
  | .running, .timedOut => sampling.turn api
  | .running, .stopped => { sampling with status := .stopped }.log .samplingStopped
  | _, _ => sampling

/-- Asks the loop to stop and waits for its end. That the thread panicked is logged here, by the
one who waits; where the process has ended there is no one left to wait. -/
def join (api : Host ρ) (sampling : Sampling ρ) : Sampling ρ :=
  let sampling := sampling.wake api .stopped
  match sampling.status with
  | .crashed (.panicked _) => sampling.log .samplingPanicked
  | _ => sampling

end Sampling

end StackSampler
