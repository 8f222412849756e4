import StackSampler.Pass.Window

/-!
A profiler holds what its samplers, the life-cycle notices and the reader share. A sampler makes
capture passes, one call for each.
-/

namespace StackSampler

structure Profiler where
  settings : Settings
  directory : Directory := {}
  mailbox : Mailbox := {}
  tally : Tally := {}

structure Sampler where
  settings : Settings
  names : RecentNames
  threads : List ThreadHandle := []

/-- What a pass leaves behind. A skipped pass has no report. -/
structure PassEnd (ρ : Type) where
  result : Except Crash (Option Report)
  profiler : Profiler
  sampler : Sampler
  host : ρ
  journal : Array Event

def Sampler.ofSettings (settings : Settings) : Sampler where
  settings := settings
  names := .ofCapacity settings.nameCapacity.toNat

namespace Profiler

def ofSettings? (settings : Settings) : Except InvalidSetting Profiler :=
  match settings.check with
  | .error invalid => .error invalid
  | .ok () => .ok { settings }

def sampler (profiler : Profiler) : Sampler := .ofSettings profiler.settings

def notify (profiler : Profiler) (notice : Notice) : Profiler :=
  { profiler with directory := profiler.directory.notify notice }

def stats (profiler : Profiler) : Snapshot := profiler.tally.snapshot profiler.mailbox.dropped

end Profiler

namespace Sampler

variable {ρ : Type}

/-- Closes and publishes what a window captured, then logs and counts the pass. -/
def conclude (profiler : Profiler) (sampler : Sampler) (tally : Tally) (window : Window ρ) :
    PassEnd ρ :=
  let writer := window.writer.closeBatch
  let (published, world) := window.world.publish writer.finish
  let report :=
    { window.report with bytes := writer.position, truncated := writer.truncated, published }
  let world := world.log (LogLine.ofReport report)
  { result := .ok (some report)
    profiler :=
      { profiler with
        mailbox := world.mailbox
        tally := (tally.countPass report).setNames window.names.counts }
    sampler := { sampler with names := window.names, threads := window.threads }
    host := world.host
    journal := world.journal }

/-- Makes one pass, or skips it if the reader has made no room: then the host is not touched. A
pass that panics publishes, logs and counts nothing, save a failure to resume the host. -/
def pass (api : Host ρ) (profiler : Profiler) (sampler : Sampler) (host : ρ) : PassEnd ρ :=
  if profiler.mailbox.hasRoom then
    let window : Window ρ :=
      { world := { host, mailbox := profiler.mailbox }
        names := sampler.names
        threads := []
        writer := (Wire.Writer.ofCapacity sampler.settings.bufferCapacity.toNat).openBatch }
    match window.run api sampler.settings profiler.directory profiler.tally with
    | (.ok (), tally, window) => conclude profiler sampler tally window
    | (.error crash, tally, window) =>
        { result := .error crash
          profiler := { profiler with mailbox := window.world.mailbox, tally }
          sampler := { sampler with names := window.names, threads := window.threads }
          host := window.world.host
          journal := window.world.journal }
  else
    { result := .ok none
      profiler := { profiler with tally := profiler.tally.countSkip }
      sampler
      host
      journal := #[] }

end Sampler

end StackSampler
