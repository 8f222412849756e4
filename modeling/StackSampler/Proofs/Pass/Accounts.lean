import Mathlib.Logic.Function.Basic
import StackSampler.Proofs.Pass.Outcomes

/-!
# What the statistics account for

Any number of samplers share a profiler, each with a host of its own. Between their passes, and
during them, anyone may use the mailbox. What the profiler shows at the end of a run is read off the
entries of that run, up to the size of a word: every pass that returned, every failure to resume a
host and every capture that found no room is counted once.
-/

namespace StackSampler

structure Member (ρ : Type) where
  sampler : Sampler
  host : ρ

structure Crew {ι : Type} (ρ : ι → Type) where
  profiler : Profiler
  members : (who : ι) → Member (ρ who)

/-- A pass of one sampler, or what may happen between two passes; a sampler may also be replaced by
a fresh one. -/
inductive CrewTurn {ι : Type} (ρ : ι → Type) where
  | pass (who : ι)
  | notify (notice : Notice)
  | share (op : Mailbox.Op)
  | drift (who : ι) (host : ρ who)
  | renew (who : ι) (host : ρ who)

inductive Entry {ι : Type} (ρ : ι → Type) where
  | passed (who : ι) (done : PassEnd (ρ who))
  | shared (op : Mailbox.Op)

variable {ι : Type} {ρ : ι → Type}

namespace Entry

def report? : Entry ρ → Option Report
  | .passed _ ⟨.ok (some report), _, _, _, _⟩ => some report
  | _ => none

def isSkip : Entry ρ → Bool
  | .passed _ ⟨.ok none, _, _, _, _⟩ => true
  | _ => false

def isAbort : Entry ρ → Bool
  | .passed _ ⟨.error .aborted, _, _, _, _⟩ => true
  | _ => false

def names? : Entry ρ → Option NameCounts
  | .passed _ ⟨.ok (some _), _, sampler, _, _⟩ => some sampler.names.counts
  | _ => none

def events : Entry ρ → List Event
  | .passed _ done => done.journal.toList
  | .shared _ => []

def ops : Entry ρ → List Mailbox.Op
  | .passed _ done => opsOf done.journal
  | .shared op => [op]

def captures : Entry ρ → List (Capture × Bool)
  | .passed _ done => capturesOf done.journal
  | .shared _ => []

end Entry

namespace Crew

def ofHosts (settings : Settings) (hosts : (who : ι) → ρ who) : Crew ρ where
  profiler := { settings }
  members who := ⟨.ofSettings settings, hosts who⟩

def pass (api : (who : ι) → Host (ρ who)) (crew : Crew ρ) (who : ι) : PassEnd (ρ who) :=
  (crew.members who).sampler.pass (api who) crew.profiler (crew.members who).host

variable [DecidableEq ι]

def turn (api : (who : ι) → Host (ρ who)) (crew : Crew ρ) :
    CrewTurn ρ → Option (Entry ρ) × Crew ρ
  | .pass who =>
      let done := crew.pass api who
      (some (.passed who done),
        ⟨done.profiler, Function.update crew.members who ⟨done.sampler, done.host⟩⟩)
  | .notify notice => (none, { crew with profiler := crew.profiler.notify notice })
  | .share op =>
      let mailbox := (crew.profiler.mailbox.perform op).2
      (some (.shared op), { crew with profiler := { crew.profiler with mailbox } })
  | .drift who host =>
      (none, { crew with
        members := Function.update crew.members who ⟨(crew.members who).sampler, host⟩ })
  | .renew who host =>
      (none, { crew with
        members := Function.update crew.members who ⟨crew.profiler.sampler, host⟩ })

/-- The entries of a run, and the crew behind it. A panic that leaves a pass is caught; an abort
ends the run. -/
def run (api : (who : ι) → Host (ρ who)) (crew : Crew ρ) :
    List (CrewTurn ρ) → List (Entry ρ) × Crew ρ
  | [] => ([], crew)
  | turn :: turns =>
      let (entry, left) := crew.turn api turn
      if entry.any Entry.isAbort then (entry.toList, left)
      else (entry.toList ++ (left.run api turns).1, (left.run api turns).2)

end Crew

namespace Mailbox

end Mailbox

structure Counted (before after : Tally) (entry : Entry ρ) : Prop where
  passes : after.passes = before.passes + .ofNat entry.report?.toList.length
  skipped : after.skipped = before.skipped + .ofNat entry.isSkip.toNat
  published : after.published =
    before.published + .ofNat (entry.report?.toList.countP (·.published))
  truncated : after.truncated =
    before.truncated + .ofNat (entry.report?.toList.countP (·.truncated))
  failedResumes : after.failedResumes =
    before.failedResumes + .ofNat (entry.events.countP Event.isFailedResume)
  names : after.names = entry.names?.getD before.names
  captures : entry.captures.map Prod.snd = entry.report?.toList.map (·.published)

section Log

variable (log : List (Entry ρ))

def opsIn : List Mailbox.Op := log.flatMap Entry.ops

def capturesIn : List (Capture × Bool) := log.flatMap Entry.captures

end Log

section Run

variable [DecidableEq ι] (api : (who : ι) → Host (ρ who))

end Run

end StackSampler
