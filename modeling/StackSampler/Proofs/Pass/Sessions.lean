import StackSampler.Profiler

/-!
# Sessions

A session is a profiler with one of its samplers and its host. Between the passes life-cycle notices
come in, others use the mailbox, and the host goes on by itself.
-/

namespace StackSampler

structure Session (ρ : Type) where
  profiler : Profiler
  sampler : Sampler
  host : ρ

inductive Turn (ρ : Type) where
  | pass
  | notify (notice : Notice)
  | share (op : Mailbox.Op)
  | drift (host : ρ)

variable {ρ : Type}

def PassEnd.session (done : PassEnd ρ) : Session ρ := ⟨done.profiler, done.sampler, done.host⟩

namespace Session

def pass (api : Host ρ) (session : Session ρ) : PassEnd ρ :=
  session.sampler.pass api session.profiler session.host

def notify (session : Session ρ) (notice : Notice) : Session ρ :=
  { session with profiler := session.profiler.notify notice }

def share (session : Session ρ) (op : Mailbox.Op) : Session ρ :=
  let mailbox := (session.profiler.mailbox.perform op).2
  { session with profiler := { session.profiler with mailbox } }

/-- The passes of a run, each with the session that it found. A panic that leaves a pass is caught;
an abort ends the run. -/
def passes (api : Host ρ) (session : Session ρ) : List (Turn ρ) → List (Session ρ × PassEnd ρ)
  | [] => []
  | .notify notice :: turns => (session.notify notice).passes api turns
  | .share op :: turns => (session.share op).passes api turns
  | .drift host :: turns => { session with host }.passes api turns
  | .pass :: turns =>
      match (session.pass api).result with
      | .error .aborted => [(session, session.pass api)]
      | _ => (session, session.pass api) :: (session.pass api).session.passes api turns

theorem pass_of_full (api : Host ρ) {session : Session ρ}
    (full : session.profiler.mailbox.hasRoom = false) :
    session.pass api = ⟨.ok none,
      { session.profiler with tally := session.profiler.tally.countSkip }, session.sampler,
      session.host, #[]⟩ := by
  rw [pass, Sampler.pass, if_neg (by simp [full])]

theorem directory_share (session : Session ρ) (op : Mailbox.Op) :
    (session.share op).profiler.directory = session.profiler.directory :=
  rfl

theorem directory_pass (api : Host ρ) (session : Session ρ) :
    (session.pass api).session.profiler.directory = session.profiler.directory := by
  rw [pass, Sampler.pass]
  split
  · dsimp only
    split <;> rfl
  · rfl

theorem mem_passes_pass (api : Host ρ) (session : Session ρ) (turns : List (Turn ρ)) :
    (session, session.pass api) ∈ session.passes api (.pass :: turns) := by
  rw [passes]
  split <;> simp

theorem mem_passes_of_pass {api : Host ρ} {session : Session ρ} {turns : List (Turn ρ)}
    {step : Session ρ × PassEnd ρ} (going : (session.pass api).result ≠ .error .aborted)
    (later : step ∈ (session.pass api).session.passes api turns) :
    step ∈ session.passes api (.pass :: turns) := by
  rw [passes]
  split
  · exact absurd ‹_› going
  · exact List.mem_cons_of_mem _ later

end Session

def Turn.Keeps (kept : Session ρ → Prop) : Turn ρ → Prop
  | .pass => True
  | .notify notice => ∀ session, kept session → kept (session.notify notice)
  | .share op => ∀ session, kept session → kept (session.share op)
  | .drift host => ∀ session, kept session → kept { session with host }

namespace Session

/-- What every pass and every other turn of a run keeps holds wherever a pass begins. -/
theorem forall_mem_passes_of_kept {kept : Session ρ → Prop} (api : Host ρ)
    (each : ∀ session, kept session → kept (session.pass api).session) {turns : List (Turn ρ)}
    (others : ∀ turn ∈ turns, turn.Keeps kept) {session : Session ρ} (start : kept session) :
    ∀ step ∈ session.passes api turns, kept step.1 ∧ step.2 = step.1.pass api := by
  induction turns generalizing session with
  | nil =>
      intro step member
      cases member
  | cons turn turns induction =>
      intro step member
      have first := others turn List.mem_cons_self
      have rest := fun other within => others other (List.mem_cons_of_mem turn within)
      cases turn with
      | notify notice =>
          rw [passes] at member
          exact induction rest (first session start) step member
      | share op =>
          rw [passes] at member
          exact induction rest (first session start) step member
      | drift host =>
          rw [passes] at member
          exact induction rest (first session start) step member
      | pass =>
          rw [passes] at member
          split at member
          · rw [List.mem_singleton] at member
            rw [member]
            exact ⟨start, rfl⟩
          · rcases List.mem_cons.mp member with rfl | within
            · exact ⟨start, rfl⟩
            · exact induction rest (each session start) step within

end Session

end StackSampler
