import StackSampler.Proofs.Pass.Published
import StackSampler.Proofs.Pass.Told

/-!
# Reports tell the truth

The counts and the errors of a report are kept while a pass goes on, apart from the bytes that it
writes. They are what the journal of the pass shows and what the published bytes are read as.
-/

namespace StackSampler

variable {ρ : Type}

def Reply.error? {ε α : Type} : Reply ε α → Option ε
  | .error reason => some reason
  | _ => none

namespace Event

def walkBegan? : Event → Option ThreadHandle
  | .walkBegan thread => some thread
  | _ => none

def suspended? : Event → Option (Reply HostError Unit)
  | .suspended reply => some reply
  | _ => none

def listing? (event : Event) : Option (Reply HostError Unit) := event.listed?.map Prod.snd

def walkEnded? : Event → Option (Reply HostError Unit)
  | .walkEnded reply => some reply
  | _ => none

def resumed? : Event → Option (Reply HostError Unit)
  | .resumed reply => some reply
  | _ => none

end Event

def errorsOf (reply? : Event → Option (Reply HostError Unit)) (events : List Event) :
    List HostError :=
  (events.filterMap reply?).filterMap Reply.error?

theorem errors_of_concat (reply? : Event → Option (Reply HostError Unit)) (events : List Event)
    (event : Event) :
    errorsOf reply? (events ++ [event]) =
      errorsOf reply? events ++ ((reply? event).bind Reply.error?).toList := by
  rw [errorsOf, List.filterMap_append, List.filterMap_append, filterMap_singleton]
  cases reply? event with
  | none => rfl
  | some reply => exact congrArg (_ ++ ·) (filterMap_singleton Reply.error? reply)

theorem errors_eq_of_filterMap {reply? : Event → Option (Reply HostError Unit)}
    {events later : List Event} (same : later.filterMap reply? = events.filterMap reply?) :
    errorsOf reply? later = errorsOf reply? events :=
  congrArg (List.filterMap Reply.error?) same

theorem getLast?_append_toList {α : Type} (values : List α) (last : Option α) :
    (values ++ last.toList).getLast? = last.or values.getLast? := by
  cases last with
  | none => rw [Option.toList_none, List.append_nil, Option.none_or]
  | some value => exact List.getLast?_concat

theorem head?_append_toList {α : Type} (values : List α) (last : Option α) :
    (values ++ last.toList).head? = values.head?.or last := by
  rw [List.head?_append]
  cases last <;> rfl

/-- Whether some entries show the same walks and replies as others do. -/
structure SameReplies (events later : List Event) : Prop where
  walkBegan : later.filterMap Event.walkBegan? = events.filterMap Event.walkBegan?
  walkEnded : later.filterMap Event.walkEnded? = events.filterMap Event.walkEnded?
  suspended : later.filterMap Event.suspended? = events.filterMap Event.suspended?
  listing : later.filterMap Event.listing? = events.filterMap Event.listing?
  resumed : later.filterMap Event.resumed? = events.filterMap Event.resumed?

structure Event.Unreported (event : Event) : Prop where
  walkBegan : event.walkBegan? = none
  walkEnded : event.walkEnded? = none
  suspended : event.suspended? = none
  listing : event.listing? = none
  resumed : event.resumed? = none

theorem same_replies_append {later : List Event} (unreported : ∀ event ∈ later, event.Unreported)
    (events : List Event) : SameReplies events (events ++ later) := by
  have silent {α : Type} (reply? : Event → Option α)
      (none : ∀ event ∈ later, reply? event = none) :
      (events ++ later).filterMap reply? = events.filterMap reply? := by
    rw [List.filterMap_append, List.filterMap_eq_nil_iff.mpr none, List.append_nil]
  exact ⟨silent _ fun event member => (unreported event member).walkBegan,
    silent _ fun event member => (unreported event member).walkEnded,
    silent _ fun event member => (unreported event member).suspended,
    silent _ fun event member => (unreported event member).listing,
    silent _ fun event member => (unreported event member).resumed⟩

theorem same_replies_resolve (api : Host ρ) (names : RecentNames) (method : MethodId)
    (context : WalkContext) (world : World ρ) :
    SameReplies world.own (names.resolve (World.metadata api) method context world).2.2.own where
  walkBegan := filterMap_own_resolve (fun _ _ _ => rfl) (fun _ _ => rfl) api names _ _ world
  walkEnded := filterMap_own_resolve (fun _ _ _ => rfl) (fun _ _ => rfl) api names _ _ world
  suspended := filterMap_own_resolve (fun _ _ _ => rfl) (fun _ _ => rfl) api names _ _ world
  listing := filterMap_own_resolve (fun _ _ _ => rfl) (fun _ _ => rfl) api names _ _ world
  resumed := filterMap_own_resolve (fun _ _ _ => rfl) (fun _ _ => rfl) api names _ _ world

namespace Report

def hear (report : Report) (event : Event) : Report :=
  { report with
    threads := report.threads + event.walkEnded?.toList.length
    walkFailures := report.walkFailures + (event.walkEnded?.bind Reply.error?).toList.length
    firstWalkError := report.firstWalkError.or (event.walkEnded?.bind Reply.error?)
    suspendError := (event.suspended?.bind Reply.error?).or report.suspendError
    threadsError := (event.listing?.bind Reply.error?).or report.threadsError
    resumeError := (event.resumed?.bind Reply.error?).or report.resumeError }

/-- Whether a report says what some entries show. -/
structure Follows (report : Report) (events : List Event) : Prop where
  threads : report.threads = (events.filterMap Event.walkEnded?).length
  walkFailures : report.walkFailures = (errorsOf Event.walkEnded? events).length
  firstWalkError : report.firstWalkError = (errorsOf Event.walkEnded? events).head?
  suspendError : report.suspendError = (errorsOf Event.suspended? events).getLast?
  threadsError : report.threadsError = (errorsOf Event.listing? events).getLast?
  resumeError : report.resumeError = (errorsOf Event.resumed? events).getLast?

variable {report : Report} {events later : List Event}

theorem follows_nil : ({} : Report).Follows [] := ⟨rfl, rfl, rfl, rfl, rfl, rfl⟩

theorem Follows.of_same (follows : report.Follows events) (same : SameReplies events later) :
    report.Follows later where
  threads := by rw [same.walkEnded]; exact follows.threads
  walkFailures := by rw [errors_eq_of_filterMap same.walkEnded]; exact follows.walkFailures
  firstWalkError := by rw [errors_eq_of_filterMap same.walkEnded]; exact follows.firstWalkError
  suspendError := by rw [errors_eq_of_filterMap same.suspended]; exact follows.suspendError
  threadsError := by rw [errors_eq_of_filterMap same.listing]; exact follows.threadsError
  resumeError := by rw [errors_eq_of_filterMap same.resumed]; exact follows.resumeError

theorem Follows.follows_measured (follows : report.Follows events) (frames bytes frozen : Nat)
    (truncated published : Bool) :
    { report with frames, bytes, truncated, frozen, published }.Follows events :=
  ⟨follows.threads, follows.walkFailures, follows.firstWalkError, follows.suspendError,
    follows.threadsError, follows.resumeError⟩

theorem Follows.follows_hear (follows : report.Follows events) (event : Event) :
    (report.hear event).Follows (events ++ [event]) where
  threads := by
    rw [List.filterMap_append, filterMap_singleton, List.length_append, ← follows.threads]
    rfl
  walkFailures := by
    rw [errors_of_concat, List.length_append, ← follows.walkFailures]
    rfl
  firstWalkError := by
    rw [errors_of_concat, head?_append_toList, ← follows.firstWalkError]
    rfl
  suspendError := by
    rw [errors_of_concat, getLast?_append_toList, ← follows.suspendError]
    rfl
  threadsError := by
    rw [errors_of_concat, getLast?_append_toList, ← follows.threadsError]
    rfl
  resumeError := by
    rw [errors_of_concat, getLast?_append_toList, ← follows.resumeError]
    rfl

variable (report) (reply : Reply HostError Unit)

theorem hear_suspended : report.hear (.suspended reply) =
    { report with suspendError := reply.error?.or report.suspendError } := by
  rw [hear]
  congr 1
  exact Option.or_none

theorem hear_listed (threads : List ThreadHandle) : report.hear (.listed threads reply) =
    { report with threadsError := reply.error?.or report.threadsError } := by
  rw [hear]
  congr 1
  exact Option.or_none

theorem hear_walk_began (thread : ThreadHandle) : report.hear (.walkBegan thread) = report := by
  rw [hear]
  congr 1
  exact Option.or_none

theorem hear_resumed : report.hear (.resumed reply) =
    { report with resumeError := reply.error?.or report.resumeError } := by
  rw [hear]
  congr 1
  exact Option.or_none

theorem hear_walk_ended : report.hear (.walkEnded reply) =
    { report with
      threads := report.threads + 1
      walkFailures := report.walkFailures + reply.error?.toList.length
      firstWalkError := report.firstWalkError.or reply.error? } :=
  rfl

end Report

open Wire (Call Writer callsOf)

structure Wire.Writer.CountsFrames (writer : Writer) (frames : Nat) : Prop where
  small : writer.capacity < UInt32.size
  told : ∃ told, Wire.Tells writer told ∧ frames = (Wire.namedFrames told).length

section CountsFrames

variable {writer : Writer} {frames : Nat} (counts : writer.CountsFrames frames)
include counts

theorem Wire.Writer.CountsFrames.counts_frames_after {call : Call} (permitted : writer.Permits call)
    (notOpening : call ≠ .openBatch) :
    (writer.after call).CountsFrames
      (frames + if writer.wrote call then call.frame?.toList.length else 0) := by
  obtain ⟨small, told, tells, counted⟩ := counts
  have next := tells.tells_after small permitted notOpening
  refine ⟨by rw [capacity_after]; exact small, _, next, ?_⟩
  by_cases wrote : writer.wrote call = true
  · rw [if_pos wrote, if_pos wrote, tells.named_frames_tell wrote, List.length_append, counted]
  · rw [if_neg wrote, if_neg wrote]
    exact counted

theorem Wire.Writer.CountsFrames.after_other {call : Call} (permitted : writer.Permits call)
    (notOpening : call ≠ .openBatch) (other : call.frame? = none) :
    (writer.after call).CountsFrames frames := by
  have next := counts.counts_frames_after permitted notOpening
  rw [other, Option.toList_none, List.length_nil, ite_self, Nat.add_zero] at next
  exact next

theorem Wire.Writer.CountsFrames.counts_frames_add_frame (method : MethodId) (name : String) :
    (writer.addFrame method name).2.CountsFrames
      (frames + (writer.addFrame method name).1.toNat) := by
  have next : (writer.after (.addFrame method name)).CountsFrames _ :=
    counts.counts_frames_after trivial nofun
  rw [wrote] at next
  cases written : (writer.addFrame method name).1 with
  | true =>
      rw [written] at next
      exact next
  | false =>
      rw [written] at next
      exact next

end CountsFrames

def WalksUnderWay (events : List Event) (underWay : Nat) : Prop :=
  (events.filterMap Event.walkBegan?).length =
    (events.filterMap Event.walkEnded?).length + underWay

theorem WalksUnderWay.of_same {events later : List Event} {underWay : Nat}
    (walks : WalksUnderWay events underWay) (same : SameReplies events later) :
    WalksUnderWay later underWay := by
  rw [WalksUnderWay, same.walkBegan, same.walkEnded]
  exact walks

theorem WalksUnderWay.walks_under_way_concat {events : List Event} {underWay after : Nat}
    (walks : WalksUnderWay events underWay) {event : Event}
    (step : underWay + event.walkBegan?.toList.length = after + event.walkEnded?.toList.length) :
    WalksUnderWay (events ++ [event]) after := by
  unfold WalksUnderWay at walks ⊢
  rw [List.filterMap_append, List.filterMap_append, filterMap_singleton, filterMap_singleton,
    List.length_append, List.length_append, walks]
  omega

/-- Whether a report follows the entries of its window and counts the frames that are written,
while some walks are under way. -/
structure Window.Reporting (underWay : Nat) (window : Window ρ) : Prop where
  counts : window.writer.CountsFrames window.report.frames
  follows : window.report.Follows window.world.own
  walks : WalksUnderWay window.world.own underWay

section Steps

variable {window next : Window ρ} {underWay : Nat}

theorem Window.Reporting.reporting_heard (reporting : window.Reporting underWay) {event : Event}
    (grown : World.Continues window.world next.world [event])
    (writer : next.writer = window.writer) (report : next.report = window.report.hear event)
    (noWalk : event.walkBegan?.toList.length = event.walkEnded?.toList.length) :
    next.Reporting underWay where
  counts := by
    rw [writer, report]
    exact reporting.counts
  follows := by
    rw [report, grown]
    exact reporting.follows.follows_hear event
  walks := by
    rw [grown]
    exact reporting.walks.walks_under_way_concat (congrArg (underWay + ·) noWalk)

theorem Window.Reporting.reporting_listing (reporting : window.Reporting underWay) (api : Host ρ) :
    (window.listing api).2.Reporting underWay := by
  have grown := window.world.own_threads api
  have heard := window.report.hear_listed (window.world.threads api).2.1
    (window.world.threads api).1
  rw [Window.listing]
  generalize window.world.threads api = listed at grown heard ⊢
  obtain ⟨threads, reply, world⟩ := listed
  cases reply <;> exact reporting.reporting_heard grown rfl heard.symm rfl

theorem Window.Reporting.reporting_walking (reporting : window.Reporting 0)
    (outside : window.writer.phase ≠ .inSample) (directory : Directory) (thread : ThreadHandle) :
    (window.walking directory thread).Reporting 1 where
  counts := by
    have permitted : window.writer.Permits (.openSample thread (directory.identity thread)) :=
      outside
    exact reporting.counts.after_other permitted nofun rfl
  follows := by
    have heard := reporting.follows.follows_hear (.walkBegan thread)
    rw [Report.hear_walk_began] at heard
    rw [window.walking_continues directory thread]
    exact heard
  walks := by
    rw [window.walking_continues directory thread]
    exact reporting.walks.walks_under_way_concat rfl

theorem Window.Reporting.reporting_hear (reporting : window.Reporting underWay) (host : ρ)
    (method : MethodId) (context : WalkContext) (verdict : Verdict) :
    (window.hear host (.offered method context verdict)).Reporting underWay := by
  have unreported : ∀ event ∈ [Event.offered method context verdict], event.Unreported := by
    simpa using ⟨rfl, rfl, rfl, rfl, rfl⟩
  have same := same_replies_append unreported window.world.own
  rw [← window.hear_continues host method context verdict] at same
  exact ⟨reporting.counts, reporting.follows.of_same same, reporting.walks.of_same same⟩

theorem Window.Reporting.reporting_record (reporting : window.Reporting underWay) (api : Host ρ)
    (method : MethodId) (context : WalkContext) :
    (window.record api method context).2.Reporting underWay := by
  obtain ⟨counts, follows, walks⟩ := reporting
  obtain ⟨world, names, threads, writer, report⟩ := window
  have same := same_replies_resolve api names method context world
  rw [Window.record]
  dsimp only at counts follows walks ⊢
  generalize names.resolve (World.metadata api) method context world = found at same ⊢
  obtain ⟨outcome, namesLeft, worldLeft⟩ := found
  cases outcome with
  | error panic => exact ⟨counts, follows.of_same same, walks.of_same same⟩
  | ok name =>
      exact ⟨counts.counts_frames_add_frame method name,
        (follows.of_same same).follows_measured _ _ _ _ _, walks.of_same same⟩

theorem Window.Reporting.reporting_end_walk (reporting : window.Reporting 1) (answer : Answer ρ) :
    Ends (fun left => left.closeSample.Reporting 0) (fun _ _ => True) (window.endWalk answer) := by
  obtain ⟨reply, host, meanwhile⟩ := answer
  have grown : (window.world.settle ⟨reply, host, meanwhile⟩ (.walkEnded reply)).own =
      window.world.own ++ [.walkEnded reply] := window.world.own_settle _ rfl
  have counts : (window.writer.after .closeSample).CountsFrames window.report.frames :=
    reporting.counts.after_other trivial nofun rfl
  have follows := reporting.follows.follows_hear (.walkEnded reply)
  have walks : WalksUnderWay (window.world.own ++ [.walkEnded reply]) 0 :=
    reporting.walks.walks_under_way_concat rfl
  rw [Report.hear_walk_ended, ← grown] at follows
  rw [← grown] at walks
  rw [Window.endWalk]
  cases reply with
  | panic message => exact trivial
  | error error => exact ⟨counts, follows, walks⟩
  | ok value =>
      have same : window.report.firstWalkError.or (Reply.ok value : Reply HostError Unit).error? =
          window.report.firstWalkError := Option.or_none
      rw [same] at follows
      exact ⟨counts, follows, walks⟩

theorem Window.Reporting.reporting_thaw (reporting : window.Reporting underWay) (api : Host ρ)
    (since : Nat) : (window.thaw api since).Reporting underWay :=
  ⟨reporting.counts, reporting.follows.follows_measured _ _ _ _ _, reporting.walks⟩

end Steps

/-- A report goes on following its window until a panic leaves it. -/
def reportingUpkeep (api : Host ρ) (settings : Settings) (directory : Directory) :
    Upkeep api settings directory where
  between window := window.Reporting 0 ∧ window.writer.phase ≠ .inSample
  inside _ := Window.Reporting 1
  broken _ _ := True
  lists {window} between := by
    have outside : (window.listing api).2.writer.phase ≠ .inSample := by
      rw [window.writer_listing]
      exact between.2
    exact .ends_of_always ⟨between.1.reporting_listing api, outside⟩ fun _ _ _ => trivial
  begins thread between := between.1.reporting_walking between.2 directory thread
  hears host method context _ reporting := reporting.reporting_hear host method context .enough
  records host method context _ reporting :=
    .ends_of_always
      ((reporting.reporting_hear host method context .more).reporting_record api method context)
      fun _ _ _ => trivial
  ends {window _} answer reporting := by
    have ended := reporting.reporting_end_walk answer
    generalize window.endWalk answer = left at ended ⊢
    obtain ⟨outcome, left⟩ := left
    cases outcome with
    | error panic => exact trivial
    | ok value => exact ⟨ended, Writer.phase_close_sample left.writer⟩

/-- How a window ends that no panic left: the host could not be suspended, and nothing else was
done, or all listed threads were sampled and the host was resumed. -/
inductive Window.Returned (settings : Settings) (directory : Directory) (window left : Window ρ) :
    Prop where
  | unsuspended (error : HostError)
      (own : left.world.own = window.world.own ++ [.suspended (.error error)])
      (writer : left.writer = window.writer)
      (report : left.report = { window.report with
        suspendError := some error, frozen := left.report.frozen })
      (names : left.names = window.names)
  | sampled (threads : List ThreadHandle) (listing resuming : Reply HostError Unit)
      (walks : List Event)
      (own : left.world.own = window.world.own ++
        (.suspended (.ok ()) :: .listed threads listing :: walks ++ [.resumed resuming]))
      (areWalks : ∀ event ∈ walks, event.isWalk = true)
      (tells : TellsThreads settings directory threads window.telling left.telling walks)

section Run

variable {window : Window ρ} (api : Host ρ) (settings : Settings) (directory : Directory)
  (tally : Tally) (outside : window.writer.phase ≠ .inSample)
  (returned : (window.run api settings directory tally).1 = .ok ())
include outside returned

theorem Window.run_returned (cleared : window.threads = []) :
    Returned settings directory window (window.run api settings directory tally).2.2 := by
  have suspending := window.world.own_suspend api
  rcases suspended : window.world.suspend api with ⟨reply, world⟩
  rw [suspended] at suspending
  cases reply with
  | panic message =>
      rw [Window.run, suspended] at returned
      cases returned
  | error error =>
      rw [Window.run, suspended]
      exact .unsuspended error suspending rfl rfl rfl
  | ok value =>
      obtain ⟨threads, listing, walks, stepped, areWalks, tells⟩ :=
        @sample_all_stepped ρ api settings directory { window with world } outside cleared
      rcases sampled : ({ window with world } : Window ρ).sampleAll api settings directory with
        ⟨outcome, left⟩
      rw [sampled] at stepped tells
      obtain ⟨result, counted, report, ran, finished, -⟩ :=
        run_resumes api settings directory tally suspended sampled
      rw [ran] at returned ⊢
      exact .sampled threads listing (left.world.resume api).1 walks
        ((World.Continues.trans suspending stepped.continues).trans (left.world.own_resume api))
        areWalks (tells (finished returned))

theorem Window.Reporting.reporting_run (reporting : window.Reporting 0) :
    (window.run api settings directory tally).2.2.Reporting 0 := by
  have suspending := window.world.own_suspend api
  have heard := window.report.hear_suspended (window.world.suspend api).1
  rcases suspended : window.world.suspend api with ⟨reply, world⟩
  rw [suspended] at suspending heard
  have frozen : ({ window with world, report := { window.report with
      suspendError := reply.error?.or window.report.suspendError } } : Window ρ).Reporting 0 :=
    reporting.reporting_heard suspending rfl heard.symm rfl
  cases reply with
  | panic message =>
      rw [Window.run, suspended] at returned
      cases returned
  | error error =>
      rw [Window.run, suspended]
      exact frozen.reporting_thaw api _
  | ok value =>
      have begun : ({ window with world } : Window ρ).Reporting 0 := frozen
      obtain ⟨left, sampled, ⟨reportingLeft, -⟩, -⟩ | ⟨panic, left, sampled, -⟩ :=
        ((reportingUpkeep api settings directory).upkeep_sample_all ⟨begun, outside⟩
          outside).returned_or_left
      · have resuming := left.world.own_resume api
        have heardLeft := left.report.hear_resumed (left.world.resume api).1
        rw [Window.run, suspended] at returned ⊢
        dsimp only at returned ⊢
        rw [sampled] at returned ⊢
        dsimp only at returned ⊢
        rcases resumed : left.world.resume api with ⟨reply, thawed⟩
        rw [resumed] at returned resuming heardLeft
        have reported : ({ left with world := thawed, report := { left.report with
            resumeError := reply.error?.or left.report.resumeError } } : Window ρ).Reporting 0 :=
          reportingLeft.reporting_heard resuming rfl heardLeft.symm rfl
        cases reply with
        | panic message => cases returned
        | error error => exact reported.reporting_thaw api _
        | ok value => exact reported.reporting_thaw api _
      · obtain ⟨result, counted, report, ran, finished, -⟩ :=
          run_resumes api settings directory tally suspended sampled
        rw [ran] at returned
        cases finished returned

end Run

/-- What a report says of the bytes that were published, and what these are read as. -/
structure Report.Measures (report : Report) (capacity : Nat) (capture : Capture)
    (batch : Wire.Batch) : Prop where
  read : Wire.decode capture = .ok batch
  bytes : report.bytes = capture.length
  bounded : report.bytes ≤ max capacity 4
  frames : report.frames = batch.frames.length
  samples : batch.samples.length ≤ report.threads
  whole : report.truncated = false → batch.samples.length = report.threads

/-- What a report says of the walks of a pass: there was one for each listed thread in order, and it
came to its end. -/
structure Report.CountsWalks (report : Report) (events : List Event) : Prop where
  walked : (walksOf events).map (·.thread) = threadsListed events
  threads : report.threads = (threadsListed events).length
  ended : report.threads = (events.filterMap Event.walkEnded?).length
  failures : report.walkFailures = (errorsOf Event.walkEnded? events).length
  firstError : report.firstWalkError = (errorsOf Event.walkEnded? events).head?

/-- What a report says of the other calls of a pass to its host. Behind a failure to suspend there
were no others, and the report and the batch say nothing else. -/
inductive Report.Calls (events : List Event) (batch : Wire.Batch) (report : Report) : Prop where
  | unsuspended (error : HostError)
      (suspended : events.filterMap Event.suspended? = [.error error])
      (listed : events.filterMap Event.listing? = [])
      (resumed : events.filterMap Event.resumed? = [])
      (empty : batch = ⟨[]⟩)
      (rest : report =
        { suspendError := some error, bytes := 2, frozen := report.frozen,
          published := report.published })
  | frozen (listing resuming : Reply HostError Unit)
      (suspended : events.filterMap Event.suspended? = [.ok ()])
      (listed : events.filterMap Event.listing? = [listing])
      (resumed : events.filterMap Event.resumed? = [resuming])
      (suspendError : report.suspendError = none)
      (threadsError : report.threadsError = listing.error?)
      (resumeError : report.resumeError = resuming.error?)

theorem Event.replies_of_is_walk (event : Event) (walk : event.isWalk = true) :
    event.suspended? = none ∧ event.listing? = none ∧ event.resumed? = none := by
  cases event <;> first | exact ⟨rfl, rfl, rfl⟩ | cases walk

theorem filterMap_sampled {α : Type} {other : Event → Option α} {walks : List Event}
    (outside : ∀ event : Event, event.isWalk = true → other event = none)
    (areWalks : ∀ event ∈ walks, event.isWalk = true) (threads : List ThreadHandle)
    (listing resuming : Reply HostError Unit) :
    List.filterMap other
        (.suspended (.ok ()) :: .listed threads listing :: walks ++ [.resumed resuming]) =
      List.filterMap other
        [.suspended (.ok ()), .listed threads listing, .resumed resuming] := by
  have shown : Event.suspended (.ok ()) :: .listed threads listing :: walks ++ [.resumed resuming] =
      [.suspended (.ok ()), .listed threads listing] ++ (walks ++ [.resumed resuming]) := rfl
  rw [shown, List.filterMap_append, List.filterMap_append, filterMap_walks outside areWalks,
    List.nil_append, ← List.filterMap_append]
  rfl

theorem map_thread_walks_of (events : List Event) :
    (walksOf events).map (·.thread) = events.filterMap Event.walkBegan? := by
  induction events with
  | nil => rfl
  | cons event events induction =>
      cases event with
      | walkBegan thread => exact congrArg (thread :: ·) induction
      | _ => exact induction

theorem getLast?_errors_of {reply? : Event → Option (Reply HostError Unit)} {events : List Event}
    {reply : Reply HostError Unit} (only : events.filterMap reply? = [reply]) :
    (errorsOf reply? events).getLast? = reply.error? := by
  rw [errorsOf, only, filterMap_singleton]
  cases reply <;> rfl

def Window.concluded (window : Window ρ) : Report :=
  { window.report with
    bytes := window.writer.closeBatch.position
    truncated := window.writer.closeBatch.truncated
    published := (window.world.publish window.writer.closeBatch.finish).1 }

theorem Sampler.conclude_reported (profiler : Profiler) (sampler : Sampler) (tally : Tally)
    (window : Window ρ) :
    (conclude profiler sampler tally window).result = .ok (some window.concluded) ∧
      ∃ stored, ownEvents (conclude profiler sampler tally window).journal =
        window.world.own ++ .published window.writer.closeBatch.finish stored ::
          (LogLine.ofReport window.concluded).map Event.logged := by
  obtain ⟨report, stored, result, -, own⟩ := conclude_stepped profiler sampler tally window
  have same : window.concluded = report := Option.some.inj (Except.ok.inj result)
  rw [← same] at own
  exact ⟨rfl, stored, own⟩

theorem Event.unreported_aftermath (capture : Capture) (stored : Bool) (lines : List LogLine) :
    ∀ event ∈ Event.published capture stored :: lines.map Event.logged, event.Unreported := by
  intro event member
  rcases List.mem_cons.mp member with rfl | logged
  · exact ⟨rfl, rfl, rfl, rfl, rfl⟩
  · obtain ⟨line, -, rfl⟩ := List.mem_map.mp logged
    exact ⟨rfl, rfl, rfl, rfl, rfl⟩

section Returned

variable {settings : Settings} {directory : Directory} {window left : Window ρ}
  (returned : window.Returned settings directory left) (begun : window.world.own = [])
include returned begun

/-- The walks that a window shows are what its writer was told of, and nothing else was. -/
theorem Window.Returned.exists_tells_stacks :
    ∃ stackList, TellsStacks directory settings.maxFrames.toNat window.telling left.telling
      left.world.own stackList := by
  cases returned with
  | unsuspended error own writer report names =>
      rw [own, begun]
      refine ⟨[], ?_, rfl, writer⟩
      intro later
      change ([], window.names, later) = ([], left.names, later)
      rw [names]
  | sampled threads listing resuming walks own areWalks tells =>
      obtain ⟨-, -, stackList, told⟩ := tells
      have unrelated : ∀ event ∈ [Event.resumed resuming], event.isWalk = false := by
        intro event member
        rw [List.mem_singleton.mp member]
        rfl
      have shows : walksOf left.world.own = walksOf walks := by
        rw [own, begun]
        exact congrArg Prod.snd (walks_from_append_others unrelated walks)
      have answers : answersOf left.world.own = answersOf walks := by
        rw [own, begun]
        change answersOf (walks ++ [.resumed resuming]) = _
        rw [answers_of_append, answers_of_others unrelated, List.append_nil]
      refine ⟨stackList, ?_, ?_, told.writer⟩
      · rw [shows, answers]
        exact told.heard
      · rw [shows]
        exact told.shown

theorem Window.Returned.writer_eq :
    ∃ stackList, left.writer = window.writer.run (callsOf stackList) ∧
      stackList.length = (left.world.own.filterMap Event.walkBegan?).length := by
  obtain ⟨stackList, -, shown, writer⟩ := returned.exists_tells_stacks begun
  refine ⟨stackList, writer, ?_⟩
  have lengths := congrArg List.length shown
  rw [List.length_map, List.length_map] at lengths
  rw [← map_thread_walks_of, List.length_map]
  exact lengths

theorem Window.Returned.exists_measures {capacity : Nat} (small : capacity < UInt32.size)
    (writer : window.writer = (Writer.ofCapacity capacity).openBatch)
    (reporting : left.Reporting 0) :
    ∃ batch, left.concluded.Measures capacity left.writer.closeBatch.finish batch := by
  obtain ⟨stackList, told, walked⟩ := returned.writer_eq begun
  rw [writer] at told
  obtain ⟨part, decoded, cut, whole⟩ := Wire.decode_finish_calls_of capacity small stackList
  have fits := Wire.length_finish_calls_of_le capacity stackList
  rw [← told] at decoded whole fits
  -- The frames were counted as they were written, whatever the writer was told of.
  obtain ⟨written, tells, counted⟩ := reporting.counts.told
  have same : Wire.Batch.ofStacks part = Wire.Batch.ofStacks written :=
    Except.ok.inj (decoded.symm.trans tells.decode_finish)
  have threads : left.report.threads = stackList.length := by
    rw [walked, reporting.walks]
    exact reporting.follows.threads
  have bytes : left.concluded.bytes = left.writer.finish.length := left.writer.length_finish.symm
  rw [Writer.finish_close_batch]
  refine ⟨.ofStacks part, decoded, bytes, ?_, ?_, ?_, ?_⟩
  · rw [bytes]
    exact fits
  · rw [same, Wire.length_frames_of_stacks]
    exact counted
  · rw [Wire.Batch.ofStacks, Wire.length_samples_of]
    exact Nat.le_trans cut.length_le (Nat.le_of_eq threads.symm)
  · intro roomy
    have roomyLeft : left.writer.truncated = false := by
      rw [← left.writer.truncated_close_batch]
      exact roomy
    rw [Wire.Batch.ofStacks, Wire.length_samples_of, whole roomyLeft]
    exact threads.symm

theorem Window.Returned.concluded_calls {capacity : Nat}
    (writer : window.writer = (Writer.ofCapacity capacity).openBatch) (fresh : window.report = {})
    {events : List Event} (same : SameReplies left.world.own events)
    (reporting : left.Reporting 0) {batch : Wire.Batch}
    (measures : left.concluded.Measures capacity left.writer.closeBatch.finish batch) :
    left.concluded.Calls events batch := by
  obtain ⟨-, follows, -⟩ := reporting
  cases returned with
  | unsuspended error own told report =>
      rw [begun, List.nil_append] at own
      rw [fresh] at report
      rw [writer] at told
      have suspended := same.suspended
      have listed := same.listing
      have resumed := same.resumed
      rw [own] at suspended listed resumed
      refine .unsuspended error suspended listed resumed ?_ ?_
      · have threads : left.concluded.threads = 0 := congrArg Report.threads report
        have none := measures.samples
        rw [threads, Nat.le_zero, List.length_eq_zero_iff] at none
        exact congrArg Wire.Batch.mk none
      · have bytes : left.writer.closeBatch.position = 2 := by
          rw [← Writer.length_finish, told]
          exact Wire.length_finish_open_batch capacity
        have truncated : left.writer.closeBatch.truncated = false := by
          rw [Writer.truncated_close_batch, told, Wire.open_batch_of_capacity]
          rfl
        rw [Window.concluded, report, bytes, truncated]
  | sampled threads listing resuming walks own areWalks tells =>
      rw [begun, List.nil_append] at own
      have shown {reply? : Event → Option (Reply HostError Unit)}
          (outside : ∀ event : Event, event.isWalk = true → reply? event = none) :=
        filterMap_sampled outside areWalks threads listing resuming
      rw [← own] at shown
      have suspended := shown fun event walk => (event.replies_of_is_walk walk).1
      have listed := shown fun event walk => (event.replies_of_is_walk walk).2.1
      have resumed := shown fun event walk => (event.replies_of_is_walk walk).2.2
      exact .frozen listing resuming (same.suspended.trans suspended) (same.listing.trans listed)
        (same.resumed.trans resumed) (follows.suspendError.trans (getLast?_errors_of suspended))
        (follows.threadsError.trans (getLast?_errors_of listed))
        (follows.resumeError.trans (getLast?_errors_of resumed))

end Returned

theorem Sampler.reporting_window (profiler : Profiler) {sampler : Sampler} (host : ρ)
    (small : sampler.settings.bufferCapacity.toNat < UInt32.size) :
    (sampler.window profiler host).Reporting 0 where
  counts := ⟨Wire.capacity_open_batch_lt small, [], Wire.tells_open_batch _, rfl⟩
  follows := by
    rw [sampler.own_window profiler host]
    exact Report.follows_nil
  walks := by
    rw [sampler.own_window profiler host]
    rfl

/-- A pass that finds room and hears no panic does not panic itself: it returns a report, and what
the report says is true. Its bytes are those of the one capture that was published, its frames are
those that the capture is read as, and there is a walk for each listed thread, wherever the buffer
got full and whichever walks failed. Its errors are those that the host returned, and it says that
the capture was stored exactly if there was room for it then. -/
theorem reports_tell_truth (api : Host ρ) (profiler : Profiler) (sampler : Sampler) (host : ρ)
    (small : sampler.settings.bufferCapacity.toNat < UInt32.size)
    (room : profiler.mailbox.hasRoom = true)
    (calm : panicsOf (sampler.pass api profiler host).journal = []) :
    let done := sampler.pass api profiler host
    let events := ownEvents done.journal
    ∃ report capture batch earlier,
      done.result = .ok (some report) ∧
      report.Measures sampler.settings.bufferCapacity.toNat capture batch ∧
      report.CountsWalks events ∧
      report.Calls events batch ∧
      capturesOf done.journal = [(capture, report.published)] ∧
      opsOf done.journal = earlier ++ [.publish capture] ∧
      report.published = (profiler.mailbox.run earlier).hasRoom := by
  intro done events
  obtain ⟨window, ran, held, concluded⟩ := sampler.pass_of_calm api host room calm
  have outside := sampler.window_outside profiler host
  have begun := sampler.own_window profiler host
  have finished : ((sampler.window profiler host).run api sampler.settings profiler.directory
      profiler.tally).1 = .ok () := congrArg Prod.fst ran
  have returned := Window.run_returned api sampler.settings profiler.directory profiler.tally
    outside finished rfl
  have reporting := (sampler.reporting_window profiler host small).reporting_run api
    sampler.settings profiler.directory profiler.tally outside finished
  rw [ran] at returned reporting
  obtain ⟨result, stored, own⟩ :=
    Sampler.conclude_reported profiler sampler profiler.tally window
  rw [← concluded] at result own
  have same : SameReplies window.world.own events := by
    change SameReplies _ (ownEvents (sampler.pass api profiler host).journal)
    rw [own]
    exact same_replies_append (Event.unreported_aftermath _ _ _) _
  obtain ⟨batch, measures⟩ := returned.exists_measures begun small rfl reporting
  refine ⟨window.concluded, window.writer.closeBatch.finish, batch, window.world.ops, result,
    measures, ?_, returned.concluded_calls begun rfl rfl same reporting measures, ?_, ?_, ?_⟩
  · have walked := sampler.threads_walked api result
    have follows := reporting.follows.of_same same
    have balanced : WalksUnderWay events 0 := reporting.walks.of_same same
    refine ⟨walked, ?_, follows.threads, follows.walkFailures, follows.firstWalkError⟩
    rw [← walked, map_thread_walks_of]
    exact follows.threads.trans balanced.symm
  · change capturesOf (sampler.pass api profiler host).journal = _
    rw [concluded]
    exact Sampler.captures_of_conclude_held held sampler profiler.tally
  · change opsOf (sampler.pass api profiler host).journal = _
    rw [concluded]
    exact Sampler.filterMap_conclude (fun _ => rfl) profiler sampler profiler.tally window
  · rw [← held.mailbox]
    exact Mailbox.publish_fst _ _

/-- Listing, both walks and resuming fail, and the report says so. -/
theorem reports_tell_truth_failing_host :
    let done := smallProfiler.sampler.pass failingHost smallProfiler ()
    (150 : UInt64).toNat < UInt32.size ∧ smallProfiler.mailbox.hasRoom = true ∧
      panicsOf done.journal = [] ∧
      ∃ report capture batch, done.result = .ok (some report) ∧
        capturesOf done.journal = [(capture, true)] ∧ Wire.decode capture = .ok batch ∧
        report.bytes = capture.length ∧ report.frames = batch.frames.length ∧
        report.threads = 2 ∧ report.walkFailures = 2 ∧ report.firstWalkError = some ⟨-1⟩ ∧
        report.suspendError = none ∧ report.threadsError = some ⟨-2⟩ ∧
        report.resumeError = some ⟨-3⟩ := by
  intro done
  have calm : panicsOf done.journal = [] := by decide +kernel
  have ended : errorsOf Event.walkEnded? (ownEvents done.journal) = [⟨-1⟩, ⟨-1⟩] := by
    decide +kernel
  have suspended : (ownEvents done.journal).filterMap Event.suspended? = [.ok ()] := by
    decide +kernel
  have listed : (ownEvents done.journal).filterMap Event.listing? = [.error ⟨-2⟩] := by
    decide +kernel
  have resumed : (ownEvents done.journal).filterMap Event.resumed? = [.error ⟨-3⟩] := by
    decide +kernel
  have threads : (threadsListed (ownEvents done.journal)).length = 2 := by decide +kernel
  have once : (opsOf done.journal).length = 1 := by decide +kernel
  obtain ⟨report, capture, batch, earlier, result, measures, walks, calls, captures, ops, stored⟩ :=
    reports_tell_truth failingHost smallProfiler smallProfiler.sampler () (by decide) rfl calm
  have alone : earlier = [] := by
    rw [ops, List.length_append] at once
    exact List.length_eq_zero_iff.mp (Nat.succ.inj once)
  have free : report.published = true := by
    rw [stored, alone]
    rfl
  rw [free] at captures
  have failures := walks.failures
  have firstError := walks.firstError
  rw [ended] at failures firstError
  cases calls with
  | unsuspended error failed listed resumed empty rest => cases suspended.symm.trans failed
  | frozen listing resuming begun heard thawed suspendError threadsError resumeError =>
      cases listed.symm.trans heard
      cases resumed.symm.trans thawed
      exact ⟨by decide, rfl, calm, report, capture, batch, result, captures, measures.read,
        measures.bytes, measures.frames, walks.threads.trans threads, failures, firstError,
        suspendError, threadsError, resumeError⟩

end StackSampler
