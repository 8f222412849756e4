/-!
When passes are due. Deadlines lie on a grid of whole intervals behind an anchor, so a pass that
overruns skips the ticks that it missed and no error adds up. Times are nanoseconds.
-/

namespace StackSampler.Schedule

/-- An interval of zero counts as one nanosecond. -/
def step (interval : Nat) : Nat := max interval 1

def tick (anchor interval now : Nat) : Nat := (now - anchor) / step interval + 1

/-- The first point of the grid strictly behind `now`. The distance from the anchor is kept in 64
bits, so it wraps once the grid point lies 2 ^ 64 nanoseconds behind the anchor. -/
def deadline (anchor interval now : Nat) : Nat :=
  anchor + tick anchor interval now * step interval % UInt64.size

def timeout (anchor interval now : Nat) : Nat := deadline anchor interval now - now

end StackSampler.Schedule
