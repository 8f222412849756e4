import StackSampler.Proofs.Schedule.Grid
import StackSampler.Sampling

/-!
# The rounds of the loop

In each round the loop reads the clock, waits for the next deadline, and makes a pass once the wait
timed out. Nothing in a round touches the anchor or the interval, so all deadlines of a run lie on
one grid, however long the passes take. A wait begins behind the deadline of the wait before it, and
its own deadline is the first grid point behind its beginning: so deadlines increase, and what went
by meanwhile is not made up for.
-/

namespace StackSampler

variable {ρ : Type}

/-- One round of the loop: the clock's readings when its wait begins and when it ends, what ended
the wait, and the profiler and the host as others have left them by then. -/
structure Round (ρ : Type) where
  begun : Nat
  ended : Nat
  wake : Wake
  profiler : Profiler
  host : ρ

structure Wait where
  begun : Nat
  timeout : Nat
  ended : Nat
  wake : Wake
deriving DecidableEq, Repr

def Wait.deadline (wait : Wait) : Nat := wait.begun + wait.timeout

/-- Whether the clock never goes back, and no wait times out before its deadline. -/
structure Timely (anchor : Nat) (waits : List Wait) : Prop where
  readings : (anchor :: waits.flatMap fun wait => [wait.begun, wait.ended]).Pairwise (· ≤ ·)
  notEarly : ∀ wait ∈ waits, wait.wake = .timedOut → wait.deadline ≤ wait.ended

theorem Sampler.settings_pass (api : Host ρ) (profiler : Profiler) (sampler : Sampler) (host : ρ) :
    (sampler.pass api profiler host).sampler.settings = sampler.settings := by
  rw [pass]
  split
  · dsimp only
    split <;> rfl
  · rfl

namespace Sampling

def round (api : Host ρ) (sampling : Sampling ρ) (round : Round ρ) : Sampling ρ :=
  { sampling with profiler := round.profiler, host := round.host }.wake api round.wake

/-- The waits of a run. A loop that has ended waits no more. -/
def waits (api : Host ρ) (sampling : Sampling ρ) : List (Round ρ) → List Wait
  | [] => []
  | round :: rounds =>
      if sampling.status = .running then
        ⟨round.begun, sampling.timeout round.begun, round.ended, round.wake⟩ ::
          (sampling.round api round).waits api rounds
      else []

theorem turn_keeps (api : Host ρ) (sampling : Sampling ρ) :
    (sampling.turn api).anchor = sampling.anchor ∧
      (sampling.turn api).sampler.settings = sampling.sampler.settings := by
  have settings := Sampler.settings_pass api sampling.profiler sampling.sampler sampling.host
  rw [turn]
  dsimp only
  split <;> exact ⟨rfl, settings⟩

theorem wake_keeps (api : Host ρ) (sampling : Sampling ρ) (wake : Wake) :
    (sampling.wake api wake).anchor = sampling.anchor ∧
      (sampling.wake api wake).sampler.settings = sampling.sampler.settings := by
  unfold Sampling.wake
  split
  · exact sampling.turn_keeps api
  · exact ⟨rfl, rfl⟩
  · exact ⟨rfl, rfl⟩

/-- Timeouts are measured on the same grid behind every round. -/
theorem timeout_round (api : Host ρ) (sampling : Sampling ρ) (round : Round ρ) (now : Nat) :
    (sampling.round api round).timeout now = sampling.timeout now := by
  obtain ⟨anchor, settings⟩ := wake_keeps api
    { sampling with profiler := round.profiler, host := round.host } round.wake
  rw [timeout, Sampling.round, anchor, settings]
  rfl

theorem status_round_of_stopped (api : Host ρ) {sampling : Sampling ρ} {round : Round ρ}
    (running : sampling.status = .running) (stopped : round.wake = .stopped) :
    (sampling.round api round).status = .stopped := by
  obtain ⟨anchor, status, profiler, sampler, host, journal⟩ := sampling
  cases running
  rw [Sampling.round, stopped]
  rfl

theorem waits_of_ended (api : Host ρ) {sampling : Sampling ρ} (ended : sampling.status ≠ .running)
    (rounds : List (Round ρ)) : sampling.waits api rounds = [] := by
  cases rounds with
  | nil => rfl
  | cons round rounds => rw [waits, if_neg ended]

theorem timeout_of_mem_waits {api : Host ρ} {sampling : Sampling ρ} {rounds : List (Round ρ)} :
    ∀ wait ∈ sampling.waits api rounds, wait.timeout = sampling.timeout wait.begun := by
  induction rounds generalizing sampling with
  | nil =>
      intro wait member
      cases member
  | cons round rounds induction =>
      intro wait member
      rw [waits] at member
      split at member
      · rcases List.mem_cons.mp member with rfl | later
        · rfl
        · rw [induction wait later, timeout_round]
      · cases member

/-- A loop that was asked to stop waits no more, so only the last wait can end that way. -/
theorem timed_out_of_followed (api : Host ρ) (sampling : Sampling ρ) (rounds : List (Round ρ)) :
    (sampling.waits api rounds).Pairwise (fun earlier _ => earlier.wake = .timedOut) := by
  induction rounds generalizing sampling with
  | nil => exact .nil
  | cons round rounds induction =>
      rw [waits]
      split
      · next running =>
          refine .cons ?_ (induction _)
          intro later member
          cases woken : round.wake with
          | timedOut => rfl
          | stopped =>
              rw [waits_of_ended api (by simp [status_round_of_stopped api running woken])]
                at member
              cases member
      · exact .nil

end Sampling

/-- A wait begins at or behind the deadline of every wait before it. -/
theorem Timely.deadline_le_begun {anchor : Nat} {waits : List Wait} (timely : Timely anchor waits)
    (followed : waits.Pairwise (fun earlier _ => earlier.wake = .timedOut)) :
    waits.Pairwise (fun earlier later => earlier.deadline ≤ later.begun) := by
  have readings := (List.pairwise_flatMap.mp (List.pairwise_cons.mp timely.readings).2).2
  refine (readings.and followed).imp_of_mem ?_
  rintro earlier later member - ⟨ordered, timedOut⟩
  calc earlier.deadline
    _ ≤ earlier.ended := timely.notEarly earlier member timedOut
    _ ≤ later.begun := ordered earlier.ended (by simp) later.begun (by simp)

open Schedule

/-- In reach a wait of a run ends at the first grid point behind its beginning. -/
theorem Sampling.is_least_deadline_of_mem_waits {api : Host ρ} {sampling : Sampling ρ}
    {rounds : List (Round ρ)} {wait : Wait} (member : wait ∈ sampling.waits api rounds)
    (reach : InReach sampling.anchor sampling.sampler.settings.interval wait.begun) :
    IsLeast (ticksAfter sampling.anchor sampling.sampler.settings.interval wait.begun)
      wait.deadline := by
  have timesOut : wait.deadline =
      deadline sampling.anchor sampling.sampler.settings.interval wait.begun := by
    rw [Wait.deadline, timeout_of_mem_waits wait member]
    exact add_timeout reach
  rw [timesOut]
  exact is_least_deadline reach

/-- Whatever the anchor, the interval and the reading: as long as the next grid point is in reach,
the deadline is that point, and it lies at most one interval ahead. In every run of the loop that
stays in reach, whatever its passes do and however long they take, each wait ends at the first grid
point behind its beginning. Later waits end at later points, and a point that has gone by when a
wait begins is waited for neither then nor later. -/
theorem deadlines_keep_to_grid (api : Host ρ) (sampling : Sampling ρ) (rounds : List (Round ρ)) :
    let grid := ticksAfter sampling.anchor sampling.sampler.settings.interval
    let waits := sampling.waits api rounds
    (∀ anchor interval now, anchor ≤ now → InReach anchor interval now →
      IsLeast (ticksAfter anchor interval now) (deadline anchor interval now) ∧
        deadline anchor interval now ≤ now + step interval) ∧
    (Timely sampling.anchor waits →
      (∀ wait ∈ waits, InReach sampling.anchor sampling.sampler.settings.interval wait.begun) →
      (∀ wait ∈ waits, IsLeast (grid wait.begun) wait.deadline) ∧
      waits.Pairwise (fun earlier later => earlier.deadline < later.deadline) ∧
      ∀ before wait after, waits = before ++ wait :: after →
        ∀ tick ≤ wait.begun, ∀ later ∈ wait :: after, later.deadline ≠ tick) := by
  intro grid waits
  refine ⟨?_, ?_⟩
  · intro anchor interval now started reach
    exact ⟨is_least_deadline reach, deadline_le started⟩
  · intro timely inReach
    have least : ∀ wait ∈ waits, IsLeast (grid wait.begun) wait.deadline :=
      fun wait member => Sampling.is_least_deadline_of_mem_waits member (inReach wait member)
    have ahead : ∀ wait ∈ waits, wait.begun < wait.deadline :=
      fun wait member => (least wait member).1.1
    have behind := timely.deadline_le_begun (Sampling.timed_out_of_followed api sampling rounds)
    have increasing : waits.Pairwise (fun earlier later => earlier.deadline < later.deadline) :=
      behind.imp_of_mem fun _ member begun => Nat.lt_of_le_of_lt begun (ahead _ member)
    refine ⟨least, increasing, ?_⟩
    intro before wait after split tick gone later member
    have first := ahead wait (by rw [split]; simp)
    have rest := increasing.sublist (split ▸ List.sublist_append_right before (wait :: after))
    rcases List.mem_cons.mp member with rfl | among
    · omega
    · have beyond := (List.pairwise_cons.mp rest).1 later among
      omega

def emptyHost : Host Unit where
  metadata :=
    { describe := fun _ _ _ => (.error .notFound, ())
      typeName := fun _ _ => (.error .notFound, ()) }
  suspend _ := ⟨.ok (), (), []⟩
  threads _ := ([], ⟨.ok (), (), []⟩)
  walk _ _ := .finish ⟨.ok (), (), []⟩
  resume _ := ⟨.ok (), (), []⟩
  clock _ := 0

def secondly : Sampling Unit := .start { settings := {} } () 7000000000

/-- The first pass takes more than two seconds, the second one ends on a grid point, and the loop is
stopped early in its last wait. -/
def overrunning : List (Round Unit) :=
  [⟨7000000000, 8000000300, .timedOut, { settings := {} }, ()⟩,
    ⟨10400000000, 11000000000, .timedOut, { settings := {} }, ()⟩,
    ⟨11000000000, 11200000000, .stopped, { settings := {} }, ()⟩]

/-- Those rounds wait for the first, the fourth and the fifth grid point. -/
theorem deadlines_keep_to_grid_overrunning :
    let interval := secondly.sampler.settings.interval
    let waits := secondly.waits emptyHost overrunning
    Timely secondly.anchor waits ∧
    (∀ wait ∈ waits, InReach secondly.anchor interval wait.begun) ∧
    IsLeast (ticksAfter secondly.anchor interval 10400000000) 11000000000 ∧
    waits.map Wait.deadline = [8000000000, 11000000000, 12000000000] ∧
    (waits.map Wait.deadline).Pairwise (· < ·) := by
  intro interval waits
  have made : waits =
      [⟨7000000000, 1000000000, 8000000300, .timedOut⟩,
        ⟨10400000000, 600000000, 11000000000, .timedOut⟩,
        ⟨11000000000, 1000000000, 11200000000, .stopped⟩] := by
    rfl
  have timely : Timely secondly.anchor waits := by
    rw [made]
    exact ⟨by decide, by decide⟩
  have inReach : ∀ wait ∈ waits, InReach secondly.anchor interval wait.begun := by
    rw [made]
    simp only [in_reach_iff]
    decide
  obtain ⟨points, run⟩ := deadlines_keep_to_grid emptyHost secondly overrunning
  have overrun : InReach secondly.anchor interval 10400000000 := in_reach_iff.mpr (by decide)
  obtain ⟨least, -⟩ := points secondly.anchor interval 10400000000 (by decide) overrun
  have fourth : deadline secondly.anchor interval 10400000000 = 11000000000 := by decide
  rw [fourth] at least
  obtain ⟨-, increasing, -⟩ := run timely inReach
  refine ⟨timely, inReach, least, ?_, List.pairwise_map.mpr increasing⟩
  rw [made]
  rfl

end StackSampler
