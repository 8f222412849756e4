import StackSampler.Method.RecentNames
import StackSampler.Pass.Report

/-!
Counters over all passes of a profiler, for whoever wants to report on the cost of sampling. They
are words and wrap.
-/

namespace StackSampler

structure Tally where
  passes : UInt64 := 0
  skipped : UInt64 := 0
  published : UInt64 := 0
  truncated : UInt64 := 0
  failedResumes : UInt64 := 0
  lastFrozenMicros : UInt64 := 0
  maxFrozenMicros : UInt64 := 0
  totalFrozenMicros : UInt64 := 0
  names : NameCounts := {}
deriving DecidableEq, Repr

/-- A tally as it is shown, together with the captures that the mailbox threw away. -/
structure Snapshot where
  passes : UInt64
  skipped : UInt64
  published : UInt64
  dropped : UInt64
  truncated : UInt64
  failedResumes : UInt64
  lastFrozenMicros : UInt64
  maxFrozenMicros : UInt64
  totalFrozenMicros : UInt64
  names : NameCounts
deriving DecidableEq, Repr

namespace Tally

def countIf (condition : Bool) (counter : UInt64) : UInt64 :=
  if condition then counter + 1 else counter

def countSkip (tally : Tally) : Tally := { tally with skipped := tally.skipped + 1 }

/-- Counts a resumption that failed while a panic was passing through, when there is no report to
say so. -/
def countFailedResume (tally : Tally) : Tally :=
  { tally with failedResumes := tally.failedResumes + 1 }

def countPass (tally : Tally) (report : Report) : Tally :=
  let micros := UInt64.ofNat report.frozenMicros
  { tally with
    passes := tally.passes + 1
    published := countIf report.published tally.published
    truncated := countIf report.truncated tally.truncated
    failedResumes := countIf report.resumeError.isSome tally.failedResumes
    lastFrozenMicros := micros
    maxFrozenMicros := max tally.maxFrozenMicros micros
    totalFrozenMicros := tally.totalFrozenMicros + micros }

def setNames (tally : Tally) (names : NameCounts) : Tally := { tally with names }

def snapshot (tally : Tally) (dropped : UInt64) : Snapshot where
  passes := tally.passes
  skipped := tally.skipped
  published := tally.published
  dropped := dropped
  truncated := tally.truncated
  failedResumes := tally.failedResumes
  lastFrozenMicros := tally.lastFrozenMicros
  maxFrozenMicros := tally.maxFrozenMicros
  totalFrozenMicros := tally.totalFrozenMicros
  names := tally.names

end Tally

end StackSampler
