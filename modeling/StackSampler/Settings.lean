import StackSampler.Wire.Writer

/-!
The settings of a profiler and the rules that they have to keep.
-/

namespace StackSampler

/-- Of each stack the innermost frames are recorded, at most `maxFrames`. -/
structure Settings where
  intervalMillis : UInt64 := 1000
  bufferCapacity : UInt64 := 102400
  nameCapacity : UInt64 := 8192
  maxFrames : UInt64 := 512
deriving DecidableEq, Repr

inductive InvalidSetting where
  | zeroInterval
  | bufferTooSmall
  | zeroNames
  | zeroFrames
deriving DecidableEq, Repr

def InvalidSetting.reason : InvalidSetting → String
  | zeroInterval => "interval_ms must be positive"
  | bufferTooSmall => "buffer_capacity too small for an empty batch"
  | zeroNames => "name_cache_capacity must be positive"
  | zeroFrames => "max_frames must be positive"

def InvalidSetting.message (invalid : InvalidSetting) : String :=
  "invalid sampler config: " ++ invalid.reason

namespace Settings

def check (settings : Settings) : Except InvalidSetting Unit := do
  if settings.intervalMillis = 0 then throw .zeroInterval
  if settings.bufferCapacity.toNat < Wire.Writer.minCapacity then throw .bufferTooSmall
  if settings.nameCapacity = 0 then throw .zeroNames
  if settings.maxFrames = 0 then throw .zeroFrames

/-- The time between passes in nanoseconds. -/
def interval (settings : Settings) : Nat := settings.intervalMillis.toNat * 1000000

end Settings

end StackSampler
