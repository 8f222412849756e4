import StackSampler.Mailbox
import StackSampler.Method.Metadata
import StackSampler.Thread.Directory

/-!
The managed runtime that hosts the sampler, as the sampler sees it.

A host is any set of answers over a state of its own. Every call may succeed, report an error or
panic. While a call to the runtime runs, others may use the mailbox, the host itself included, so
an answer lists what was done to it meanwhile. Nothing in a pass looks at the mailbox between its
first and its last step, so it makes no difference to which call such an operation is attributed.
-/

namespace StackSampler

structure HostError where
  status : Int32
deriving DecidableEq, Repr

def HostError.message (error : HostError) : String :=
  s!"runtime call failed with status {Text.hexStatus error.status}"

structure Answer (ρ : Type) where
  reply : Reply HostError Unit
  host : ρ
  meanwhile : List Mailbox.Op := []

inductive Verdict where
  | more
  | enough
deriving DecidableEq, Repr

/-- The rest of a stack walk: its end, or a frame that it offers before it goes on. How it goes on
may depend on the verdict, which it is free to ignore, and on the host's state behind the questions
that the frame led to. -/
inductive Walk (ρ : Type) where
  | finish (answer : Answer ρ)
  | offer (method : MethodId) (context : WalkContext) (host : ρ) (next : Verdict → ρ → Walk ρ)

/-- The calls into a host. Threads that were found before an error are listed all the same, stacks
are walked from the innermost frame outwards, and the clock counts nanoseconds and never goes
back. -/
structure Host (ρ : Type) where
  metadata : Metadata ρ
  suspend : ρ → Answer ρ
  threads : ρ → List ThreadHandle × Answer ρ
  walk : ThreadHandle → ρ → Walk ρ
  resume : ρ → Answer ρ
  clock : ρ → Nat

end StackSampler
