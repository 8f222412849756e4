import StackSampler.Proofs.Pass.Told

/-!
# Panicked passes leave no trace

A pass that a panic leaves has published, logged and counted nothing, save a failure to resume the
host on the way out. It may have listed threads, named methods and filled half a buffer, and it
keeps the cache as the panic found it; nothing of that shows in what the sampler captures later.
-/

namespace StackSampler

variable {ρ : Type}

/-- The states that a sampler can come to: it is fresh, or it has made a pass, whatever its profiler
and its host had come to before. -/
inductive Sampler.Reached (api : Host ρ) (settings : Settings) : Sampler → Prop where
  | fresh : Reached api settings (.ofSettings settings)
  | passed {sampler : Sampler} (reached : Reached api settings sampler) (profiler : Profiler)
      (host : ρ) : Reached api settings (sampler.pass api profiler host).sampler

theorem Sampler.Reached.reached_keeps_settings {api : Host ρ} {answers : FixedAnswers}
    (given : answers.GivenUnlessPanic api.metadata) {settings : Settings} {sampler : Sampler}
    (reached : sampler.Reached api settings) :
    sampler.settings = settings ∧ sampler.names.Truthful answers := by
  induction reached with
  | fresh => exact ⟨rfl, RecentNames.truthful_of_capacity _ answers⟩
  | passed reached profiler host induction =>
      have lookups : ∀ (cache : RecentNames) method context world, cache.Truthful answers →
          (cache.resolve (World.metadata api) method context world).2.1.Truthful answers :=
        fun cache method context world truthful =>
          (truthful.resolve_unless_left given method context world).2
      obtain ⟨names, threads, behind, truthful⟩ :=
        sampler_pass api lookups profiler host induction.2
      rw [behind]
      exact ⟨induction.1, truthful⟩

/-- What a pass leaves that one panic left, and that resumed the host without another. -/
structure Abandoned (profiler : Profiler) (panic : Panic) (done : PassEnd ρ) : Prop where
  result : done.result = .error (.panicked panic)
  quiet : ∀ event ∈ done.journal.toList, event.isAftermath = false
  left : done.profiler =
    { profiler with
      mailbox := profiler.mailbox.run (opsOf done.journal)
      tally := if done.journal.toList.any Event.isFailedResume then profiler.tally.countFailedResume
        else profiler.tally }

theorem Heard.any_is_failed_resume {panics : List Panic} {failed : Bool} {journal : Array Event}
    (heard : Heard panics failed.toNat journal) :
    journal.toList.any Event.isFailedResume = failed := by
  have counted : journal.toList.countP Event.isFailedResume = failed.toNat := heard.failedResumes
  cases failed with
  | false =>
      rw [Bool.toNat_false, List.countP_eq_zero] at counted
      rw [List.any_eq_false]
      exact counted
  | true =>
      rw [Bool.toNat_true] at counted
      rw [List.any_eq_true, ← List.countP_pos_iff, counted]
      exact Nat.one_pos

theorem Sampler.abandoned_pass (api : Host ρ) {profiler : Profiler} {sampler : Sampler} {host : ρ}
    {panic : Panic} (panicked : panicsOf (sampler.pass api profiler host).journal = [panic]) :
    Abandoned profiler panic (sampler.pass api profiler host) := by
  obtain ⟨left, passed⟩ := sampler.profiler_of_pass api profiler host
  cases passed with
  | skipped full result journal counted =>
      rw [journal] at panicked
      cases panicked
  | completed result panics => cases panics.symm.trans panicked
  | panicked unresumed result heard counted =>
      cases heard.panics.symm.trans panicked
      refine ⟨result, heard.quiet, ?_⟩
      rw [heard.any_is_failed_resume, left, counted]
  | aborted result heard => cases heard.panics.symm.trans panicked

theorem Sampler.completed_pass (api : Host ρ) {profiler : Profiler} {sampler : Sampler} {host : ρ}
    (room : profiler.mailbox.hasRoom = true)
    (calm : panicsOf (sampler.pass api profiler host).journal = []) :
    ∃ report, (sampler.pass api profiler host).result = .ok (some report) := by
  obtain ⟨-, passed⟩ := sampler.profiler_of_pass api profiler host
  cases passed with
  | skipped full => exact absurd room (by simp [full])
  | completed result => exact ⟨_, result⟩
  | panicked unresumed result heard => cases heard.panics.symm.trans calm
  | aborted result heard => cases heard.panics.symm.trans calm

theorem BehavesAlike.behaves_alike_steadied {same : ρ → ρ → Prop} {api : Host ρ}
    (behaves : BehavesAlike same api) (answers : FixedAnswers) :
    BehavesAlike same (api.steadied answers) where
  suspend := behaves.suspend
  threads := behaves.threads
  walk := behaves.walk
  resume := behaves.resume
  describe := behaves.describe
  typeName := behaves.typeName

/-- Two samplers with truthful caches capture the same in a place where neither hears a panic. -/
theorem Sampler.KeepsNames.calm_passes_alike {api : Host ρ} {answers : FixedAnswers}
    (given : answers.GivenUnlessPanic api.metadata) {same : ρ → ρ → Prop}
    (behaves : BehavesAlike same api) {settings : Settings} {sampler other : Sampler}
    (keeps : sampler.KeepsNames settings answers) (keepsOther : other.KeepsNames settings answers)
    {profiler : Profiler} (room : profiler.mailbox.hasRoom = true) {host hostOther : ρ}
    (hosts : same host hostOther)
    (calm : panicsOf (sampler.pass api profiler host).journal = [])
    (calmOther : panicsOf (other.pass api profiler hostOther).journal = []) :
    capturesOf (sampler.pass api profiler host).journal =
      capturesOf (other.pass api profiler hostOther).journal := by
  obtain ⟨report, returned⟩ := completed_pass api room calm
  obtain ⟨reportOther, returnedOther⟩ := completed_pass api room calmOther
  rw [pass_steadied given returned, pass_steadied given returnedOther]
  have alike := @Session.pass_alike ρ _ _ (answers.given_by_steadied api) _
    (behaves.behaves_alike_steadied answers) _ ⟨profiler, sampler, host⟩
    ⟨profiler, other, hostOther⟩ keeps keepsOther (fun _ => rfl) rfl hosts
  exact captures_eq_of_acts alike.2

/-- Whatever a sampler has come through, and wherever a pass of it hears a panic: unless resuming
the host panics in turn, that panic leaves the pass, nothing is published or logged, and the
profiler is as it was, save for what others did to the mailbox and for a failure to resume.

A pass that hears no panic completes. If the metadata source gives the same answers whenever it does
not panic, such a pass walks the threads that are listed in it, publishes what follows from these
walks and answers, and with that publishes what a fresh sampler does in its place, where the runtime
does the same. -/
theorem panicked_pass_leaves_no_trace (api : Host ρ) (settings : Settings) {sampler : Sampler}
    (reached : sampler.Reached api settings) (profiler : Profiler) (host : ρ) :
    let done := sampler.pass api profiler host
    let walks := walksOf (ownEvents done.journal)
    (∀ panic, panicsOf done.journal = [panic] → Abandoned profiler panic done) ∧
    ∀ answers : FixedAnswers, answers.GivenUnlessPanic api.metadata →
      profiler.mailbox.hasRoom = true → panicsOf done.journal = [] →
      (∃ report, done.result = .ok (some report)) ∧
      walks.map (·.thread) = threadsListed (ownEvents done.journal) ∧
      publishedIn done.journal = [captureTold answers profiler.directory settings walks] ∧
      ∀ {same : ρ → ρ → Prop}, BehavesAlike same api → ∀ hostOther, same host hostOther →
        let fresh := (Sampler.ofSettings settings).pass api profiler hostOther
        panicsOf fresh.journal = [] → publishedIn done.journal = publishedIn fresh.journal := by
  intro done walks
  refine ⟨fun panic => sampler.abandoned_pass api, ?_⟩
  intro answers given room calm
  have keeps := reached.reached_keeps_settings given
  obtain ⟨report, completed⟩ := Sampler.completed_pass api room calm
  refine ⟨⟨report, completed⟩, Sampler.threads_walked api completed, ?_, ?_⟩
  · have told := Sampler.published_pass given keeps.2 host room calm
    rw [keeps.1] at told
    exact told
  · intro same behaves hostOther hosts fresh calmFresh
    have used : sampler.KeepsNames settings answers :=
      ⟨congrArg Settings.bufferCapacity keeps.1, congrArg Settings.maxFrames keeps.1, keeps.2⟩
    have unused : (Sampler.ofSettings settings).KeepsNames settings answers :=
      Sampler.keeps_names_of_settings settings settings.nameCapacity answers
    have alike := used.calm_passes_alike given behaves unused room hosts calm calmFresh
    exact congrArg (List.map Prod.fst) alike

/-- A host that panics and cannot be resumed as long as it is shaky. One thread runs then, and
another one later; both show two methods, of which a shaky host cannot describe the second one. -/
def shakyHost : Host Bool where
  metadata :=
    { describe := fun method _ shaky =>
        (if shaky && method = ⟨2⟩ then .panic "gone" else .ok ⟨some ⟨method.word⟩, "f"⟩, shaky)
      typeName := fun _ shaky => (.ok "A", shaky) }
  suspend shaky := ⟨.ok (), shaky, []⟩
  threads shaky := ([if shaky then ⟨7⟩ else ⟨8⟩], ⟨.ok (), shaky, []⟩)
  walk _ shaky :=
    .offer ⟨1⟩ ⟨10⟩ shaky fun _ shaky => .offer ⟨2⟩ ⟨20⟩ shaky fun _ shaky =>
      .finish ⟨.ok (), shaky, []⟩
  resume shaky := ⟨if shaky then .error ⟨-3⟩ else .ok (), shaky, []⟩
  clock _ := 0

def shakyAnswers : FixedAnswers where
  describe method := .ok ⟨some ⟨method.word⟩, "f"⟩
  typeName _ := .ok "A"

theorem shaky_answers_given : shakyAnswers.GivenUnlessPanic shakyHost.metadata where
  describe method context shaky := by
    by_cases lost : (shaky && method = ⟨2⟩) = true
    · exact .inr ⟨"gone", if_pos lost⟩
    · exact .inl (if_neg lost)
  typeName _ _ := .inl rfl

theorem shaky_host_behaves_alike : BehavesAlike Eq shakyHost where
  suspend same := by
    cases same
    exact ⟨rfl, rfl, rfl⟩
  threads same := by
    cases same
    exact ⟨rfl, rfl, rfl, rfl⟩
  walk thread shaky _ same := by
    cases same
    apply WalksAlike.offer rfl
    rintro _ shaky _ rfl
    apply WalksAlike.offer rfl
    rintro _ shaky _ rfl
    exact .finish ⟨rfl, rfl, rfl⟩
  resume same := by
    cases same
    exact ⟨rfl, rfl, rfl⟩
  describe _ _ _ _ same := ⟨same, same⟩
  typeName _ _ _ same := ⟨same, same⟩

def idleProfiler : Profiler := { settings := {} }

def shakyPass : PassEnd Bool := idleProfiler.sampler.pass shakyHost idleProfiler true

def laterPass : PassEnd Bool := shakyPass.sampler.pass shakyHost shakyPass.profiler false

def freshPass : PassEnd Bool :=
  (Sampler.ofSettings idleProfiler.settings).pass shakyHost shakyPass.profiler false

/-- The first pass panics in the middle of a walk and leaves a name and a thread behind. A later
one, which uses that name, captures what a fresh sampler captures. -/
theorem panicked_pass_leaves_no_trace_shaky_host :
    Abandoned idleProfiler ⟨"gone"⟩ shakyPass ∧ shakyPass.profiler.tally.failedResumes = 1 ∧
      shakyPass.sampler.names.size = 1 ∧ shakyPass.sampler.threads = [⟨7⟩] ∧
      laterPass.sampler.names.hits = 1 ∧ laterPass.sampler.threads = [⟨8⟩] ∧
      publishedIn laterPass.journal = publishedIn freshPass.journal ∧
      (publishedIn laterPass.journal).length = 1 := by
  have begun : idleProfiler.sampler.Reached shakyHost idleProfiler.settings := .fresh
  obtain ⟨abandons, -⟩ :=
    panicked_pass_leaves_no_trace shakyHost idleProfiler.settings begun idleProfiler true
  have panicked : panicsOf shakyPass.journal = [⟨"gone"⟩] := by decide +kernel
  have calm : panicsOf laterPass.journal = [] := by decide +kernel
  have calmFresh : panicsOf freshPass.journal = [] := by decide +kernel
  obtain ⟨-, later⟩ :=
    panicked_pass_leaves_no_trace shakyHost idleProfiler.settings
      (begun.passed idleProfiler true) shakyPass.profiler false
  obtain ⟨-, -, published, alike⟩ := later shakyAnswers shaky_answers_given (by decide +kernel) calm
  refine ⟨abandons _ panicked, by decide +kernel, by decide +kernel, by decide +kernel,
    by decide +kernel, by decide +kernel, ?_, congrArg List.length published⟩
  exact alike shaky_host_behaves_alike false rfl calmFresh

end StackSampler
