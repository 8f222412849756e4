import StackSampler.Pass.Report
import StackSampler.Text.Interval

/-!
Everything that is ever logged.
-/

namespace StackSampler

inductive LogLevel where
  | error
  | warn
  | info
  | debug
  | trace
deriving DecidableEq, Repr

def LogLevel.label : LogLevel → String
  | error => "ERROR"
  | warn => "WARN"
  | info => "INFO"
  | debug => "DEBUG"
  | trace => "TRACE"

inductive LogLine where
  | suspendFailed (error : HostError)
  | threadsFailed (error : HostError)
  | walksFailed (failures threads : Nat) (first : HostError)
  | resumeFailed (error : HostError)
  | captureDropped (bytes : Nat)
  | passDone (report : Report)
  | passSkipped
  | samplingStarted (intervalMillis : Nat)
  | samplingStopped
  | samplingPanicked
  | mailboxReplaced
  | mailboxRemoved
deriving DecidableEq, Repr

namespace LogLine

def level : LogLine → LogLevel
  | suspendFailed _ => .warn
  | threadsFailed _ => .warn
  | walksFailed _ _ _ => .warn
  | resumeFailed _ => .error
  | captureDropped _ => .warn
  | passDone _ => .debug
  | passSkipped => .trace
  | samplingStarted _ => .info
  | samplingStopped => .info
  | samplingPanicked => .error
  | mailboxReplaced => .warn
  | mailboxRemoved => .debug

def message : LogLine → String
  | suspendFailed error => s!"suspending runtime failed, no threads sampled: {error.message}"
  | threadsFailed error => s!"enumerating threads failed: {error.message}"
  | walksFailed failures threads first =>
      s!"stack walk failed for {failures} of {threads} threads, first error: {first.message}"
  | resumeFailed error => s!"resuming runtime failed: {error.message}"
  | captureDropped bytes => s!"reader is behind, dropped a {bytes} byte capture"
  | passDone report =>
      s!"resumed runtime ({report.threads} threads, {report.frames} frames) after " ++
        s!"{report.frozenMicros} micros, {report.bytes} bytes" ++
        (if report.truncated then ", truncated" else "")
  | passSkipped => "reader has no free slot, skipping interval"
  | samplingStarted intervalMillis => s!"sampling every {Text.intervalOfMillis intervalMillis}"
  | samplingStopped => "sampling stopped"
  | samplingPanicked => "sampling thread panicked"
  | mailboxReplaced => "replaced a previously installed exchange"
  | mailboxRemoved => "uninstalled pull api"

/-- The lines that a report gives rise to, in order: what went wrong, then the pass itself. -/
def ofReport (report : Report) : List LogLine :=
  (report.suspendError.map suspendFailed).toList ++
    (report.threadsError.map threadsFailed).toList ++
    (report.firstWalkError.map (walksFailed report.walkFailures report.threads)).toList ++
    (report.resumeError.map resumeFailed).toList ++
    (if report.published then [] else [captureDropped report.bytes]) ++ [passDone report]

end LogLine

end StackSampler
