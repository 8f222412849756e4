import StackSampler.Proofs.Pass.Readers
import StackSampler.Proofs.Pass.Transparency
import StackSampler.Proofs.Pass.Upkeep

/-!
# What can become of a pass

A pass is skipped, it completes, a panic leaves it, or a second panic that is raised while the first
one passes through ends the process. Which of these it is, the entries of its journal tell, and each
of them changes the profiler in its own way.
-/

namespace StackSampler

namespace Event

def panic? : Event → Option Panic
  | .suspended (.panic message) => some ⟨message⟩
  | .listed _ (.panic message) => some ⟨message⟩
  | .methodAsked _ _ (.panic message) => some ⟨message⟩
  | .typeAsked _ (.panic message) => some ⟨message⟩
  | .walkEnded (.panic message) => some ⟨message⟩
  | .resumed (.panic message) => some ⟨message⟩
  | _ => none

def isFailedResume : Event → Bool
  | .resumed (.error _) => true
  | _ => false

theorem op_of_quiet {event : Event} (own : event.isShared = false)
    (quiet : event.isAftermath = false) : event.op? = none := by
  cases event with
  | shared op outcome => cases own
  | published capture stored => cases quiet
  | _ => rfl

theorem published_of_quiet {event : Event} (quiet : event.isAftermath = false) :
    event.published? = none := by
  cases event with
  | published capture stored => cases quiet
  | _ => rfl

end Event

theorem filterMap_singleton {α β : Type} (keep : α → Option β) (entry : α) :
    [entry].filterMap keep = (keep entry).toList := by
  rw [List.filterMap_eq_flatMap_toList, List.flatMap_singleton]

theorem countP_singleton_toNat {α : Type} (kind : α → Bool) (entry : α) :
    [entry].countP kind = (kind entry).toNat := by
  rw [List.countP_singleton]
  cases kind entry <;> rfl

def panicsOf (journal : Array Event) : List Panic := journal.toList.filterMap Event.panic?

def failedResumesOf (journal : Array Event) : Nat := journal.toList.countP Event.isFailedResume

variable {ρ : Type}

/-- What a journal tells of a pass that has neither published nor logged. -/
structure Heard (panics : List Panic) (failedResumes : Nat) (journal : Array Event) : Prop where
  quiet : ∀ event ∈ journal.toList, event.isAftermath = false
  panics : panicsOf journal = panics
  failedResumes : failedResumesOf journal = failedResumes

theorem Heard.heard_push {panics : List Panic} {failedResumes : Nat} {journal : Array Event}
    (heard : Heard panics failedResumes journal) (event : Event)
    (quiet : event.isAftermath = false) :
    Heard (panics ++ event.panic?.toList) (failedResumes + event.isFailedResume.toNat)
      (journal.push event) where
  quiet := by
    intro other member
    rw [Array.toList_push, List.mem_append, List.mem_singleton] at member
    rcases member with earlier | rfl
    · exact heard.quiet other earlier
    · exact quiet
  panics := by
    rw [panicsOf, Array.toList_push, List.filterMap_append, filterMap_singleton]
    exact congrArg (· ++ _) heard.panics
  failedResumes := by
    rw [failedResumesOf, Array.toList_push, List.countP_append, countP_singleton_toNat]
    exact congrArg (· + _) heard.failedResumes

theorem Heard.captures_of_eq_nil {panics : List Panic} {failedResumes : Nat} {journal : Array Event}
    (heard : Heard panics failedResumes journal) : capturesOf journal = [] := by
  rw [capturesOf, List.filterMap_eq_nil_iff]
  intro event member
  exact Event.published_of_quiet (heard.quiet event member)

/-- What a pass has come to in a world that it found with a mailbox: only others used the mailbox,
and these panics and failures to resume were heard. -/
structure World.Held (mailbox : Mailbox) (panics : List Panic) (failedResumes : Nat)
    (world : World ρ) : Prop where
  mailbox : world.mailbox = mailbox.run world.ops
  heard : Heard panics failedResumes world.journal

namespace World.Held

variable {mailbox : Mailbox} {panics : List Panic} {failedResumes : Nat} {world : World ρ}

theorem held_hear (held : world.Held mailbox panics failedResumes) (host : ρ) (event : Event)
    (own : event.isShared = false) (quiet : event.isAftermath = false) :
    (World.note { world with host } event).Held mailbox (panics ++ event.panic?.toList)
      (failedResumes + event.isFailedResume.toNat) where
  mailbox := by
    rw [World.ops_note _ (Event.op_of_quiet own quiet)]
    exact held.mailbox
  heard := held.heard.heard_push event quiet

theorem held_share (held : world.Held mailbox panics failedResumes) (op : Mailbox.Op) :
    (world.share op).Held mailbox panics failedResumes where
  mailbox := by
    obtain ⟨told, left⟩ := World.ops_foldl_share [op] world
    change ([op].foldl World.share world).mailbox = mailbox.run ([op].foldl World.share world).ops
    rw [left, told, held.mailbox, Mailbox.run_append]
  heard := by
    have pushed := held.heard.heard_push (.shared op (world.mailbox.perform op).1) rfl
    have silent : (Event.shared op (world.mailbox.perform op).1).panic?.toList = [] := rfl
    rw [silent, List.append_nil] at pushed
    exact pushed

theorem foldl_share (ops : List Mailbox.Op) (held : world.Held mailbox panics failedResumes) :
    (ops.foldl World.share world).Held mailbox panics failedResumes := by
  induction ops generalizing world with
  | nil => exact held
  | cons op ops induction => exact induction (held.held_share op)

theorem held_settle (held : world.Held mailbox panics failedResumes) (answer : Answer ρ)
    (event : Event) (own : event.isShared = false) (quiet : event.isAftermath = false) :
    (world.settle answer event).Held mailbox (panics ++ event.panic?.toList)
      (failedResumes + event.isFailedResume.toNat) :=
  (held.foldl_share answer.meanwhile).held_hear answer.host event own quiet

end World.Held

section Lookups

variable (api : Host ρ) {mailbox : Mailbox} {world : World ρ} (held : world.Held mailbox [] 0)
include held

theorem type_name_held (classId : ClassId) :
    ((World.metadata api).typeName classId world).2.Held mailbox
      (Event.typeAsked classId ((World.metadata api).typeName classId world).1).panic?.toList 0 :=
  held.held_hear _ _ rfl rfl

theorem describe_held (method : MethodId) (context : WalkContext) :
    ((World.metadata api).describe method context world).2.Held mailbox
      (Event.methodAsked method context
        ((World.metadata api).describe method context world).1).panic?.toList 0 :=
  held.held_hear _ _ rfl rfl

theorem class_name_held (classId : ClassId) :
    Ends (World.Held mailbox [] 0) (World.Held mailbox [·] 0)
      (Naming.className (World.metadata api) classId world) := by
  have heard := type_name_held api held classId
  rw [Naming.className]
  rcases said : (World.metadata api).typeName classId world with ⟨reply, after⟩
  rw [said] at heard
  cases reply <;> exact heard

theorem method_name_held (method : MethodId) (context : WalkContext) :
    Ends (World.Held mailbox [] 0) (World.Held mailbox [·] 0)
      (Naming.methodName (World.metadata api) method context world) := by
  have heard := describe_held api held method context
  rw [method_name_eq (World.metadata api)]
  split
  · exact held
  · rcases said : (World.metadata api).describe method context world with ⟨reply, after⟩
    rw [said] at heard
    match reply with
    | .ok ⟨none, name⟩ => exact heard
    | .ok ⟨some classId, name⟩ =>
        have classHeard := class_name_held api heard classId
        dsimp only
        generalize Naming.className (World.metadata api) classId after = named at classHeard ⊢
        obtain ⟨outcome, left⟩ := named
        cases outcome <;> exact classHeard
    | .error error => exact heard
    | .panic message => exact heard

theorem resolve_held (names : RecentNames) (method : MethodId) (context : WalkContext) :
    Ends (fun left => left.2.Held mailbox [] 0) (fun panic left => left.2.Held mailbox [panic] 0)
      (names.resolve (World.metadata api) method context world) := by
  have named := method_name_held api held method context
  rw [RecentNames.resolve]
  cases names.names[method]? with
  | some cached => exact held
  | none =>
      dsimp only
      generalize Naming.methodName (World.metadata api) method context world = found at named ⊢
      obtain ⟨outcome, left⟩ := found
      cases outcome <;> exact named

end Lookups

structure Window.Calm (mailbox : Mailbox) (window : Window ρ) : Prop where
  held : window.world.Held mailbox [] 0
  unresumed : window.report.resumeError = none

theorem Window.Calm.calm_hear {mailbox : Mailbox} {window : Window ρ} (calm : window.Calm mailbox)
    (host : ρ) (method : MethodId) (context : WalkContext) (verdict : Verdict) :
    (window.hear host (.offered method context verdict)).Calm mailbox :=
  ⟨calm.held.held_hear host (.offered method context verdict) rfl rfl, calm.unresumed⟩

/-- Until the host is resumed, a window stays calm unless a panic leaves it. -/
def calmUpkeep (api : Host ρ) (settings : Settings) (directory : Directory) (mailbox : Mailbox) :
    Upkeep api settings directory where
  between := Window.Calm mailbox
  inside _ := Window.Calm mailbox
  broken panic window := window.world.Held mailbox [panic] 0
  lists := by
    intro window calm
    have heard : (window.world.threads api).2.2.Held mailbox
        (Event.listed (window.world.threads api).1
          (window.world.threads api).2.1).panic?.toList 0 :=
      calm.held.held_settle _ _ rfl rfl
    rw [Window.listing]
    generalize window.world.threads api = listed at heard ⊢
    obtain ⟨threads, reply, world⟩ := listed
    cases reply with
    | panic message => exact heard
    | _ => exact ⟨heard, calm.unresumed⟩
  begins := by
    intro window thread calm
    exact ⟨calm.held.held_hear window.world.host (.walkBegan thread) rfl rfl, calm.unresumed⟩
  hears := by
    intro window depth host method context _ calm
    exact calm.calm_hear host method context .enough
  records := by
    intro window depth host method context _ calm
    obtain ⟨held, unresumed⟩ := calm.calm_hear host method context .more
    generalize window.hear host (.offered method context .more) = heard at held unresumed ⊢
    obtain ⟨world, names, threads, writer, report⟩ := heard
    have resolved := resolve_held api held names method context
    rw [Window.record]
    generalize names.resolve (World.metadata api) method context world = found at resolved ⊢
    obtain ⟨outcome, named, left⟩ := found
    cases outcome with
    | error panic => exact resolved
    | ok name => exact ⟨resolved, unresumed⟩
  ends := by
    rintro window depth ⟨reply, host, meanwhile⟩ calm
    have heard := calm.held.held_settle ⟨reply, host, meanwhile⟩ (.walkEnded reply) rfl rfl
    cases reply with
    | panic message => exact heard
    | _ => exact ⟨heard, calm.unresumed⟩

inductive Window.Ran (mailbox : Mailbox) (tally : Tally) :
    Except Crash Unit × Tally × Window ρ → Prop where
  | returned {window : Window ρ}
      (held : window.world.Held mailbox [] window.report.resumeError.isSome.toNat) :
      Ran mailbox tally (.ok (), tally, window)
  | panicked {window : Window ρ} {panic : Panic} (unresumed : Bool)
      (held : window.world.Held mailbox [panic] unresumed.toNat) :
      Ran mailbox tally
        (.error (.panicked panic), if unresumed then tally.countFailedResume else tally, window)
  | aborted {window : Window ρ} {panic second : Panic}
      (held : window.world.Held mailbox [panic, second] 0) :
      Ran mailbox tally (.error .aborted, tally, window)

section Ran

variable (api : Host ρ) {mailbox : Mailbox} {window : Window ρ} (tally : Tally)

theorem Window.unwind_ran {panic : Panic} (held : window.world.Held mailbox [panic] 0) :
    Ran mailbox tally (window.unwind api tally panic) := by
  have resumed := held.held_settle (api.resume window.world.host)
    (.resumed (api.resume window.world.host).reply) rfl rfl
  rw [unwind, World.resume]
  cases reply : (api.resume window.world.host).reply with
  | ok value =>
      rw [reply] at resumed
      exact .panicked false resumed
  | error error =>
      rw [reply] at resumed
      exact .panicked true resumed
  | panic message =>
      rw [reply] at resumed
      exact .aborted resumed

theorem Window.run_ran (settings : Settings) (directory : Directory) (calm : window.Calm mailbox)
    (outside : window.writer.phase ≠ .inSample) :
    Ran mailbox tally (window.run api settings directory tally) := by
  have suspended := calm.held.held_settle (api.suspend window.world.host)
    (.suspended (api.suspend window.world.host).reply) rfl rfl
  obtain ⟨world, names, threads, writer, report⟩ := window
  have quiet : report.resumeError = none := calm.unresumed
  rw [run, World.suspend]
  cases reply : (api.suspend world.host).reply with
  | panic message =>
      rw [reply] at suspended
      exact .panicked false suspended
  | error error =>
      rw [reply] at suspended
      apply Ran.returned
      change World.Held mailbox [] report.resumeError.isSome.toNat _
      rw [quiet]
      exact suspended
  | ok value =>
      rw [reply] at suspended
      dsimp only
      generalize world.settle (api.suspend world.host) (.suspended (.ok value)) = frozen
        at suspended ⊢
      have sampled := (calmUpkeep api settings directory mailbox).upkeep_sample_all
        (show Window.Calm mailbox ⟨frozen, names, threads, writer, report⟩ from
          ⟨suspended, quiet⟩) outside
      obtain ⟨left, ended, calmLeft, -⟩ | ⟨panic, left, ended, held⟩ := sampled.returned_or_left
      · rw [ended]
        dsimp only
        have resumed := calmLeft.held.held_settle (api.resume left.world.host)
          (.resumed (api.resume left.world.host).reply) rfl rfl
        rw [World.resume]
        cases reply : (api.resume left.world.host).reply with
        | panic message =>
            rw [reply] at resumed
            exact .panicked false resumed
        | error error =>
            rw [reply] at resumed
            exact .returned resumed
        | ok value =>
            rw [reply] at resumed
            apply Ran.returned
            change World.Held mailbox [] left.report.resumeError.isSome.toNat _
            rw [calmLeft.unresumed]
            exact resumed
      · rw [ended]
        exact unwind_ran api tally held

end Ran

inductive Passed (profiler : Profiler) (done : PassEnd ρ) : Prop where
  | skipped (full : profiler.mailbox.hasRoom = false) (result : done.result = .ok none)
      (journal : done.journal = #[]) (counted : done.profiler.tally = profiler.tally.countSkip)
  | completed {report : Report} {capture : Capture} (result : done.result = .ok (some report))
      (panics : panicsOf done.journal = [])
      (failedResumes : failedResumesOf done.journal = report.resumeError.isSome.toNat)
      (captures : capturesOf done.journal = [(capture, report.published)])
      (counted : done.profiler.tally =
        (profiler.tally.countPass report).setNames done.sampler.names.counts)
  | panicked {panic : Panic} (unresumed : Bool) (result : done.result = .error (.panicked panic))
      (heard : Heard [panic] unresumed.toNat done.journal)
      (counted : done.profiler.tally =
        if unresumed then profiler.tally.countFailedResume else profiler.tally)
  | aborted {panic second : Panic} (result : done.result = .error .aborted)
      (heard : Heard [panic, second] 0 done.journal)
      (counted : done.profiler.tally = profiler.tally)

namespace Sampler

theorem calm_window (profiler : Profiler) (sampler : Sampler) (host : ρ) :
    (sampler.window profiler host).Calm profiler.mailbox :=
  ⟨⟨rfl, nofun, rfl, rfl⟩, rfl⟩

theorem filterMap_logged {α : Type} {other : Event → Option α}
    (unlogged : ∀ line, other (.logged line) = none) (lines : List LogLine) :
    (lines.map Event.logged).filterMap other = [] := by
  rw [List.filterMap_map, List.filterMap_eq_nil_iff]
  exact fun line _ => unlogged line

theorem filterMap_conclude {α : Type} {other : Event → Option α}
    (unlogged : ∀ line, other (.logged line) = none) (profiler : Profiler) (sampler : Sampler)
    (tally : Tally) (window : Window ρ) :
    (conclude profiler sampler tally window).journal.toList.filterMap other =
      window.world.journal.toList.filterMap other ++
        (other (.published window.writer.closeBatch.finish
          (window.world.publish window.writer.closeBatch.finish).1)).toList := by
  obtain ⟨lines, entries⟩ := toList_journal_conclude profiler sampler tally window
  rw [entries, List.filterMap_append, List.filterMap_cons, filterMap_logged unlogged]
  cases other (.published window.writer.closeBatch.finish
    (window.world.publish window.writer.closeBatch.finish).1) <;> rfl

section Conclude

variable {profiler : Profiler} {window : Window ρ} {panics : List Panic} {failedResumes : Nat}
  (held : window.world.Held profiler.mailbox panics failedResumes) (sampler : Sampler)
  (tally : Tally)
include held

theorem left_abandon (crash : Crash) :
    (abandon profiler sampler crash tally window).profiler =
      { profiler with
        mailbox := profiler.mailbox.run
          (opsOf (abandon profiler sampler crash tally window).journal)
        tally } :=
  congrArg (fun mailbox => { profiler with mailbox, tally }) held.mailbox

theorem left_conclude :
    (conclude profiler sampler tally window).profiler =
      { profiler with
        mailbox := profiler.mailbox.run (opsOf (conclude profiler sampler tally window).journal)
        tally := (conclude profiler sampler tally window).profiler.tally } := by
  have told : opsOf (conclude profiler sampler tally window).journal =
      window.world.ops ++ [.publish window.writer.closeBatch.finish] :=
    filterMap_conclude (fun _ => rfl) profiler sampler tally window
  rw [told, Mailbox.run_append, ← held.mailbox]
  rfl

theorem panics_of_conclude :
    panicsOf (conclude profiler sampler tally window).journal = panics := by
  have told : panicsOf (conclude profiler sampler tally window).journal =
      panicsOf window.world.journal ++ [] :=
    filterMap_conclude (fun _ => rfl) profiler sampler tally window
  rw [told, List.append_nil, held.heard.panics]

theorem captures_of_conclude_held :
    capturesOf (conclude profiler sampler tally window).journal =
      [(window.writer.closeBatch.finish,
        (window.world.publish window.writer.closeBatch.finish).1)] := by
  have told : capturesOf (conclude profiler sampler tally window).journal =
      capturesOf window.world.journal ++ [_] :=
    filterMap_conclude (fun _ => rfl) profiler sampler tally window
  rw [told, held.heard.captures_of_eq_nil]
  rfl

theorem failed_resumes_of_conclude :
    failedResumesOf (conclude profiler sampler tally window).journal = failedResumes := by
  obtain ⟨lines, entries⟩ := toList_journal_conclude profiler sampler tally window
  have logged : (lines.map Event.logged).countP Event.isFailedResume = 0 := by
    rw [List.countP_map, List.countP_eq_zero]
    exact fun _ _ => nofun
  rw [failedResumesOf, entries, List.countP_append, List.countP_cons, logged]
  exact held.heard.failedResumes

end Conclude

/-- Of its profiler a pass changes the tally, and the mailbox by the operations that its journal
shows. -/
theorem profiler_of_pass (api : Host ρ) (profiler : Profiler) (sampler : Sampler) (host : ρ) :
    (sampler.pass api profiler host).profiler =
        { profiler with
          mailbox := profiler.mailbox.run (opsOf (sampler.pass api profiler host).journal)
          tally := (sampler.pass api profiler host).profiler.tally } ∧
      Passed profiler (sampler.pass api profiler host) := by
  cases room : profiler.mailbox.hasRoom with
  | false =>
      rw [pass, if_neg (by simp [room])]
      exact ⟨rfl, .skipped room rfl rfl rfl⟩
  | true =>
      have ran := Window.run_ran api profiler.tally sampler.settings profiler.directory
        (calm_window profiler sampler host) (sampler.window_outside profiler host)
      rw [pass_eq api sampler host room]
      generalize (sampler.window profiler host).run api sampler.settings profiler.directory
        profiler.tally = ended at ran ⊢
      cases ran with
      | @returned window held =>
          refine ⟨left_conclude held sampler profiler.tally, ?_⟩
          have captures := captures_of_conclude_held held sampler profiler.tally
          exact .completed rfl (panics_of_conclude held sampler _)
            (failed_resumes_of_conclude held sampler _) captures rfl
      | panicked unresumed held =>
          exact ⟨left_abandon held sampler _ _, .panicked unresumed rfl held.heard rfl⟩
      | aborted held => exact ⟨left_abandon held sampler _ _, .aborted rfl held.heard rfl⟩

/-- A pass that finds room and hears no panic comes to its end, and concludes what it captured. -/
theorem pass_of_calm (api : Host ρ) {profiler : Profiler} (sampler : Sampler) (host : ρ)
    (room : profiler.mailbox.hasRoom = true)
    (calm : panicsOf (sampler.pass api profiler host).journal = []) :
    ∃ window : Window ρ, (sampler.window profiler host).run api sampler.settings
        profiler.directory profiler.tally = (.ok (), profiler.tally, window) ∧
      window.world.Held profiler.mailbox [] window.report.resumeError.isSome.toNat ∧
      sampler.pass api profiler host = conclude profiler sampler profiler.tally window := by
  have ran := Window.run_ran api profiler.tally sampler.settings profiler.directory
    (calm_window profiler sampler host) (sampler.window_outside profiler host)
  rw [pass_eq api sampler host room] at calm ⊢
  generalize (sampler.window profiler host).run api sampler.settings profiler.directory
    profiler.tally = ended at ran calm ⊢
  cases ran with
  | @returned window held => exact ⟨window, rfl, held, rfl⟩
  | panicked unresumed held => cases held.heard.panics.symm.trans calm
  | aborted held => cases held.heard.panics.symm.trans calm

end Sampler

end StackSampler
