import Mathlib.Algebra.Group.Nat.Defs
import StackSampler.Proofs.Schedule.Grid
import StackSampler.Sampling

/-!
# Intervals beyond 64 bits

The settings accept every interval but zero, also one of 2 ^ 64 nanoseconds and more, and the
distance of a deadline from the anchor is kept in 64 bits. What is left of such an interval may lie
behind the clock's reading, and then the loop does not wait. Shorter intervals always let it wait.
-/

namespace StackSampler.Schedule

variable {anchor interval now : Nat}

theorem tick_mul_of_lt (first : now - anchor < interval) :
    tick anchor interval now * step interval = interval := by
  have whole : step interval = interval := Nat.max_eq_left (Nat.zero_lt_of_lt first)
  rw [tick, whole, Nat.div_eq_of_lt first, Nat.zero_add, Nat.one_mul]

/-- An interval of less than 2 ^ 64 nanoseconds does not wrap for the first 2 ^ 63 of them. -/
theorem in_reach_of_lt (short : interval < UInt64.size) (soon : now - anchor < 2 ^ 63) :
    InReach anchor interval now := by
  rw [in_reach_iff]
  have bound := (elapsed_lt_tick_mul anchor interval now).2
  have size : UInt64.size = 2 ^ 64 := rfl
  rcases Nat.lt_or_ge (now - anchor) interval with first | later
  · rw [tick_mul_of_lt first]
    exact short
  · have half : step interval ≤ 2 ^ 63 := Nat.max_le.mpr ⟨by omega, by decide⟩
    omega

theorem lt_deadline_iff (started : anchor ≤ now) (soon : now - anchor < 2 ^ 63) :
    now < deadline anchor interval now ↔
      interval < UInt64.size ∨ now - anchor < interval % UInt64.size := by
  rcases Nat.lt_or_ge interval UInt64.size with short | long
  · exact iff_of_true (is_least_deadline (in_reach_of_lt short soon)).1.1 (.inl short)
  · have size : UInt64.size = 2 ^ 64 := rfl
    rw [deadline, tick_mul_of_lt (by omega)]
    omega

end StackSampler.Schedule

namespace StackSampler

open Schedule

/-- Whatever the settings of a loop: within 2 ^ 63 nanoseconds of its anchor it waits for a positive
time if its interval is less than 2 ^ 64 nanoseconds long, and beyond that exactly as long as what
64 bits leave of the interval is not over. -/
theorem timeout_pos_iff {ρ : Type} (sampling : Sampling ρ) {now : Nat}
    (started : sampling.anchor ≤ now) (soon : now - sampling.anchor < 2 ^ 63) :
    0 < sampling.timeout now ↔
      sampling.sampler.settings.interval < 2 ^ 64 ∨
        now - sampling.anchor < sampling.sampler.settings.interval % 2 ^ 64 := by
  rw [Sampling.timeout, timeout, Nat.sub_pos_iff_lt]
  exact lt_deadline_iff started soon

/-- Settings with an interval of 2 ^ 58 milliseconds, of which 64 bits leave nothing. -/
def endless : Settings := { intervalMillis := 0x400000000000000 }

theorem timeout_pos_iff_endless :
    let sampling : Sampling Unit := .start { settings := endless } () 0
    sampling.anchor ≤ 1000000000 ∧ 1000000000 - sampling.anchor < 2 ^ 63 ∧
      ¬ 0 < sampling.timeout 1000000000 := by
  intro sampling
  have started : sampling.anchor ≤ 1000000000 := by decide
  have soon : 1000000000 - sampling.anchor < 2 ^ 63 := by decide
  refine ⟨started, soon, ?_⟩
  rw [timeout_pos_iff sampling started soon]
  decide

/-- Settings that are accepted do not always let the loop wait. -/
theorem accepted_interval_may_not_wait :
    ¬ ∀ settings : Settings, settings.check = .ok () → ∀ anchor now, anchor ≤ now →
      now - anchor < 2 ^ 63 → now < deadline anchor settings.interval now := by
  intro waits
  have ahead := waits endless rfl 0 1000000000 (by decide) (by decide)
  revert ahead
  decide

end StackSampler
