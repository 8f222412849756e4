import Mathlib.Order.Bounds.Defs
import StackSampler.Schedule

/-!
# The grid of deadlines

A deadline is the first point of the grid strictly behind a reading of the clock, as long as that
point is less than 2 ^ 64 nanoseconds behind the anchor. It does not depend on the readings before
it, so the grid is never left, and what is behind a reading is never returned to.
-/

namespace StackSampler.Schedule

/-- The points of the grid strictly behind a reading of the clock. -/
def ticksAfter (anchor interval now : Nat) : Set Nat :=
  {tick | now < tick ∧ ∃ count, 1 ≤ count ∧ tick = anchor + count * step interval}

/-- Whether the next point of the grid is near enough to the anchor to be told in 64 bits. -/
def InReach (anchor interval now : Nat) : Prop :=
  ∃ tick ∈ ticksAfter anchor interval now, tick < anchor + UInt64.size

variable {anchor interval now : Nat}

theorem step_pos (interval : Nat) : 0 < step interval :=
  Nat.le_max_right interval 1

/-- The distance that the next grid point has from the anchor, and how far it can lie ahead. -/
theorem elapsed_lt_tick_mul (anchor interval now : Nat) :
    now - anchor < tick anchor interval now * step interval ∧
      tick anchor interval now * step interval ≤ now - anchor + step interval := by
  have floor := Nat.div_mul_le_self (now - anchor) (step interval)
  have above := Nat.lt_div_mul_add (step_pos interval) (a := now - anchor)
  rw [tick, Nat.add_mul, Nat.one_mul]
  exact ⟨above, Nat.add_le_add_right floor _⟩

theorem is_least_next_tick (anchor interval now : Nat) :
    IsLeast (ticksAfter anchor interval now)
      (anchor + tick anchor interval now * step interval) := by
  have ahead := (elapsed_lt_tick_mul anchor interval now).1
  refine ⟨⟨by omega, _, Nat.le_add_left 1 _, rfl⟩, ?_⟩
  rintro _ ⟨later, count, counted, rfl⟩
  -- A smaller count would put the point at or before the reading.
  have enough : (now - anchor) / step interval < count := by
    rw [Nat.div_lt_iff_lt_mul (step_pos interval)]
    have positive := Nat.mul_le_mul counted (step_pos interval)
    omega
  exact Nat.add_le_add_left (Nat.mul_le_mul_right _ enough) anchor

theorem in_reach_iff :
    InReach anchor interval now ↔ tick anchor interval now * step interval < UInt64.size := by
  have least := is_least_next_tick anchor interval now
  constructor
  · rintro ⟨point, behind, near⟩
    have first := least.2 behind
    omega
  · intro near
    exact ⟨_, least.1, Nat.add_lt_add_left near anchor⟩

theorem is_least_deadline (reach : InReach anchor interval now) :
    IsLeast (ticksAfter anchor interval now) (deadline anchor interval now) := by
  rw [deadline, Nat.mod_eq_of_lt (in_reach_iff.mp reach)]
  exact is_least_next_tick anchor interval now

/-- A wait lasts at most one interval, also where the deadline wraps. -/
theorem deadline_le (started : anchor ≤ now) :
    deadline anchor interval now ≤ now + step interval := by
  have within := (elapsed_lt_tick_mul anchor interval now).2
  have wrapped := Nat.mod_le (tick anchor interval now * step interval) UInt64.size
  rw [deadline]
  omega

/-- In reach a wait that is as long as its timeout ends at the deadline. -/
theorem add_timeout (reach : InReach anchor interval now) :
    now + timeout anchor interval now = deadline anchor interval now :=
  Nat.add_sub_of_le (Nat.le_of_lt (is_least_deadline reach).1.1)

end StackSampler.Schedule
