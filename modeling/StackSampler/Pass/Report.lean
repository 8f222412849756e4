import StackSampler.Host

/-!
What a capture pass says about itself.
-/

namespace StackSampler

/-- What a pass tells. Only frames that were written are counted; the host was frozen for that many
nanoseconds. -/
structure Report where
  threads : Nat := 0
  frames : Nat := 0
  bytes : Nat := 0
  truncated : Bool := false
  frozen : Nat := 0
  published : Bool := false
  suspendError : Option HostError := none
  resumeError : Option HostError := none
  threadsError : Option HostError := none
  walkFailures : Nat := 0
  firstWalkError : Option HostError := none
deriving DecidableEq, Repr

namespace Report

def frozenMicros (report : Report) : Nat := report.frozen / 1000

def walkFailed (report : Report) (error : HostError) : Report :=
  { report with
    walkFailures := report.walkFailures + 1
    firstWalkError := report.firstWalkError.or (some error) }

end Report

end StackSampler
