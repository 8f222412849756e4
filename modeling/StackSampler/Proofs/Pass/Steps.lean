import StackSampler.Profiler
import StackSampler.Proofs.Pass.Heard
import StackSampler.Proofs.Wire.Truncation

/-!
# What the steps of a pass do

Every step of the frozen window is described once: which entries it adds to the journal, that it
panics only if the host did, and what it tells the writer, which the entries alone determine.
-/

namespace StackSampler

open Wire (NamedMethod Stack Call callsOf)

variable {ρ : Type}

/-- What a step adds to the journal, and that a panic which leaves it is one of the host. -/
structure Stepped (before after : Window ρ) (events : List Event) (outcome : Except Panic Unit) :
    Prop where
  continues : World.Continues before.world after.world events
  panics : ∀ panic, outcome = .error panic → ∃ event ∈ events, event.isPanic = true

theorem Stepped.trans {first second third : Window ρ} {front back : List Event}
    {outcome : Except Panic Unit} (start : World.Continues first.world second.world front)
    (rest : Stepped second third back outcome) : Stepped first third (front ++ back) outcome where
  continues := start.trans rest.continues
  panics panic panicked := by
    obtain ⟨event, member, isPanic⟩ := rest.panics panic panicked
    exact ⟨event, List.mem_append_right front member, isPanic⟩

structure Telling where
  names : RecentNames
  writer : Wire.Writer

def Window.telling (window : Window ρ) : Telling := ⟨window.names, window.writer⟩

/-- What a frame tells a writer: the name that the cache gives it with the recorded answers. -/
structure TellsFrame (method : MethodId) (context : WalkContext) (before after : Telling)
    (asked : List Event) (name : String) : Prop where
  resolved : ∀ later, before.names.resolve recorded method context (asked ++ later) =
    (.ok name, after.names, later)
  writer : after.writer = before.writer.after (.addFrame method name)

structure TellsFrames (limit : Nat) (before after : Telling) (events : List Event)
    (frames : List NamedMethod) : Prop where
  heard : ∀ later, namesHeard before.names (answersOf events ++ later)
    ((visitsOf events).take limit) = (frames, after.names, later)
  methods : frames.map Prod.fst = ((visitsOf events).take limit).map Prod.fst
  writer : after.writer = before.writer.run (frames.map Call.ofFrame)

structure TellsStacks (directory : Directory) (maxFrames : Nat) (before after : Telling)
    (events : List Event) (stackList : List Stack) : Prop where
  heard : ∀ later, stacksHeard directory maxFrames before.names (answersOf events ++ later)
    (walksOf events) = (stackList, after.names, later)
  shown : stackList.map Stack.shown = (walksOf events).map (Walked.shown directory maxFrames)
  writer : after.writer = before.writer.run (callsOf stackList)

structure TellsThreads (settings : Settings) (directory : Directory) (threads : List ThreadHandle)
    (before after : Telling) (events : List Event) : Prop where
  noVisits : visitsOf events = []
  threads : (walksOf events).map (·.thread) = threads
  tells : ∃ stackList,
    TellsStacks directory settings.maxFrames.toNat before after events stackList

namespace Window

theorem record_stepped (api : Host ρ) (window : Window ρ) (method : MethodId)
    (context : WalkContext) :
    ∃ asked, Stepped window (window.record api method context).2 asked
        (window.record api method context).1 ∧
      (∀ event ∈ asked, event.isAnswer = true) ∧
      ((window.record api method context).1 = .ok () → ∃ name,
        TellsFrame method context window.telling (window.record api method context).2.telling
          asked name) := by
  obtain ⟨world, names, threads, writer, report⟩ := window
  obtain ⟨asked, looked, kept⟩ := resolve_looked api names method context world
  rw [record]
  rcases resolved : names.resolve (World.metadata api) method context world with
    ⟨outcome, after, settled⟩
  rw [resolved] at looked kept
  refine ⟨asked, ?_⟩
  cases outcome with
  | error panic =>
      exact ⟨⟨looked.continues, fun _ _ => looked.panics panic rfl⟩, looked.answers, nofun⟩
  | ok name =>
      refine ⟨⟨looked.continues, nofun⟩, looked.answers, fun _ => ⟨name, ?_, rfl⟩⟩
      intro later
      have again := looked.repeats later
      rw [Prod.mk.injEq] at again
      exact Prod.ext again.1 (Prod.ext (kept later) again.2)

theorem end_walk_stepped (window : Window ρ) (answer : Answer ρ) :
    Stepped window (window.endWalk answer).2 [.walkEnded answer.reply] (window.endWalk answer).1 ∧
      (window.endWalk answer).2.telling = window.telling := by
  have grown : World.Continues window.world (window.world.settle answer (.walkEnded answer.reply))
      [.walkEnded answer.reply] := window.world.own_settle answer rfl
  unfold endWalk
  cases reply : answer.reply with
  | ok value =>
      rw [reply] at grown
      exact ⟨⟨grown, nofun⟩, rfl⟩
  | error error =>
      rw [reply] at grown
      exact ⟨⟨grown, nofun⟩, rfl⟩
  | panic message =>
      rw [reply] at grown
      exact ⟨⟨grown, fun _ _ => ⟨_, List.mem_singleton_self _, rfl⟩⟩, rfl⟩

theorem hear_continues (window : Window ρ) (host : ρ) (method : MethodId) (context : WalkContext)
    (verdict : Verdict) :
    World.Continues window.world (window.hear host (.offered method context verdict)).world
      [.offered method context verdict] :=
  World.own_note _ rfl

theorem telling_hear (window : Window ρ) (host : ρ) (event : Event) :
    (window.hear host event).telling = window.telling :=
  rfl

/-- A walk tells the writer of its first visits, as many as the limit lets through. -/
theorem follow_walk_stepped (api : Host ρ) (maxFrames : Nat) (window : Window ρ) (depth : Nat)
    (walk : Walk ρ) :
    ∃ events, Stepped window (window.followWalk api maxFrames depth walk).2 events
        (window.followWalk api maxFrames depth walk).1 ∧
      (∀ event ∈ events, event.isVisit = true) ∧
      ((window.followWalk api maxFrames depth walk).1 = .ok () → ∃ frames,
        TellsFrames (maxFrames - depth) window.telling
          (window.followWalk api maxFrames depth walk).2.telling events frames) := by
  induction walk generalizing window depth with
  | finish answer =>
      obtain ⟨stepped, same⟩ := window.end_walk_stepped answer
      refine ⟨[.walkEnded answer.reply], stepped, by simp [Event.isVisit], fun _ => ⟨[], ?_⟩⟩
      rw [followWalk, same]
      refine ⟨?_, by simp [visitsOf, walksFrom], rfl⟩
      intro later
      simp [visitsOf, walksFrom, namesHeard, answersOf, Event.isAnswer]
  | offer method context host next induction =>
      rw [followWalk]
      by_cases deep : maxFrames ≤ depth
      · -- A walk may go on behind the limit. Its visits are noted, but nothing is taken of them.
        rw [if_pos deep]
        have listened := window.hear_continues host method context .enough
        obtain ⟨events, stepped, visits, tells⟩ := induction .enough _
          (window.hear host (.offered method context .enough)) depth
        refine ⟨.offered method context .enough :: events, .trans listened stepped, ?_, ?_⟩
        · simpa [Event.isVisit] using visits
        · intro finished
          obtain ⟨frames, heard, methods, writer⟩ := tells finished
          rw [Nat.sub_eq_zero_of_le deep] at heard methods ⊢
          exact ⟨frames, heard, methods, writer⟩
      · -- The answers for this frame come first, those for the later frames follow them.
        rw [if_neg deep]
        have listened := window.hear_continues host method context .more
        obtain ⟨asked, stepped, answers, named⟩ :=
          (window.hear host (.offered method context .more)).record_stepped api method context
        rcases recorded : (window.hear host (.offered method context .more)).record api method
          context with ⟨outcome, told⟩
        rw [recorded] at stepped named
        have asks : ∀ event ∈ Event.offered method context .more :: asked,
            event.isVisit = true := by
          intro event member
          rcases List.mem_cons.mp member with rfl | within
          · rfl
          · exact Event.is_visit_of_is_answer (answers event within)
        cases outcome with
        | error panic =>
            refine ⟨_, .trans listened stepped, asks, ?_⟩
            intro finished
            cases finished
        | ok value =>
            obtain ⟨name, resolved, writer⟩ := named rfl
            rw [telling_hear] at resolved writer
            obtain ⟨events, steppedLater, visits, tells⟩ := induction .more told.world.host told
              (depth + 1)
            refine ⟨_, .trans (listened.trans stepped.continues) steppedLater, ?_, ?_⟩
            · intro event member
              rcases List.mem_append.mp member with first | within
              · exact asks event first
              · exact visits event within
            · intro finished
              obtain ⟨frames, heard, methods, writerLater⟩ := tells finished
              have below : maxFrames - depth = maxFrames - (depth + 1) + 1 := by omega
              refine ⟨(method, name) :: frames, ?_, ?_, ?_⟩
              · intro later
                rw [answers_of_frame answers, visits_of_frame answers, List.append_assoc, below,
                  List.take_succ_cons, names_heard_cons (resolved _), heard]
              · rw [visits_of_frame answers, below, List.take_succ_cons, List.map_cons,
                  List.map_cons, methods]
              · rw [writerLater, writer]
                rfl

def walking (window : Window ρ) (directory : Directory) (thread : ThreadHandle) : Window ρ :=
  { window with
    world := window.world.note (.walkBegan thread)
    writer := window.writer.after (.openSample thread (directory.identity thread)) }

theorem walking_continues (window : Window ρ) (directory : Directory) (thread : ThreadHandle) :
    World.Continues window.world (window.walking directory thread).world [.walkBegan thread] :=
  World.own_note _ rfl

theorem sample_thread_eq (api : Host ρ) (settings : Settings) (directory : Directory)
    {window : Window ρ} (outside : window.writer.phase ≠ .inSample) (thread : ThreadHandle) :
    window.sampleThread api settings directory thread =
      match (window.walking directory thread).followWalk api settings.maxFrames.toNat 0
          (api.walk thread (window.walking directory thread).world.host) with
      | (.error panic, left) => (.error panic, left)
      | (.ok (), left) => (.ok (), left.closeSample) := by
  rw [sampleThread, openSample, Wire.Writer.open_sample_eq_ok outside]
  rfl

/-- Outside a sample a thread is walked and its stack is told; a walk that fails changes nothing
about that. -/
theorem sample_thread_stepped (api : Host ρ) (settings : Settings) (directory : Directory)
    {window : Window ρ} (outside : window.writer.phase ≠ .inSample) (thread : ThreadHandle) :
    ∃ visits, Stepped window (window.sampleThread api settings directory thread).2
        (.walkBegan thread :: visits) (window.sampleThread api settings directory thread).1 ∧
      (∀ event ∈ visits, event.isVisit = true) ∧
      ((window.sampleThread api settings directory thread).1 = .ok () → ∃ frames,
        (∀ later, namesHeard window.telling.names (answersOf visits ++ later)
            ((visitsOf visits).take settings.maxFrames.toNat) =
          (frames, (window.sampleThread api settings directory thread).2.telling.names, later)) ∧
        frames.map Prod.fst =
          ((visitsOf visits).take settings.maxFrames.toNat).map Prod.fst ∧
        (window.sampleThread api settings directory thread).2.telling.writer =
          window.telling.writer.run (Stack.calls ⟨thread, directory.identity thread, frames⟩)) := by
  rw [sample_thread_eq api settings directory outside thread]
  have began := window.walking_continues directory thread
  obtain ⟨visits, stepped, areVisits, tells⟩ :=
    (window.walking directory thread).follow_walk_stepped api settings.maxFrames.toNat 0
      (api.walk thread (window.walking directory thread).world.host)
  rcases followed : (window.walking directory thread).followWalk api settings.maxFrames.toNat 0
    (api.walk thread (window.walking directory thread).world.host) with ⟨outcome, left⟩
  rw [followed] at stepped tells
  refine ⟨visits, ?_, areVisits, ?_⟩
  · cases outcome with
    | error panic => exact .trans began stepped
    | ok value => exact ⟨began.trans stepped.continues, nofun⟩
  · intro finished
    cases outcome with
    | error panic => cases finished
    | ok value =>
        obtain ⟨frames, heard, methods, writer⟩ := tells rfl
        refine ⟨frames, heard, methods, ?_⟩
        have told : left.writer =
            (window.walking directory thread).writer.run (frames.map Call.ofFrame) := writer
        change left.writer.closeSample = _
        rw [told, Stack.calls, ← List.cons_append, Wire.Writer.run_append]
        rfl

theorem phase_run_calls (writer : Wire.Writer) (stack : Stack) :
    (writer.run stack.calls).phase ≠ .inSample := by
  rw [Stack.calls, ← List.cons_append, Wire.Writer.run_append]
  exact Wire.Writer.phase_close_sample _

/-- The threads are walked one after the other, and their stacks are told in that order. -/
theorem sample_threads_stepped (api : Host ρ) (settings : Settings) (directory : Directory)
    {window : Window ρ} (outside : window.writer.phase ≠ .inSample) (threads : List ThreadHandle) :
    ∃ events, Stepped window (window.sampleThreads api settings directory threads).2 events
        (window.sampleThreads api settings directory threads).1 ∧
      (∀ event ∈ events, event.isWalk = true) ∧
      ((window.sampleThreads api settings directory threads).1 = .ok () →
        TellsThreads settings directory threads window.telling
          (window.sampleThreads api settings directory threads).2.telling events) := by
  induction threads generalizing window with
  | nil =>
      exact ⟨[], ⟨.refl _, nofun⟩, nofun, fun _ => ⟨rfl, rfl, [], fun _ => rfl, rfl, rfl⟩⟩
  | cons thread threads induction =>
      -- Closing the sample of one thread is what lets the next one be opened.
      obtain ⟨visits, stepped, areVisits, tells⟩ :=
        sample_thread_stepped api settings directory outside thread
      rw [sampleThreads]
      rcases sampled : window.sampleThread api settings directory thread with ⟨outcome, left⟩
      rw [sampled] at stepped tells
      have areWalks : ∀ event ∈ Event.walkBegan thread :: visits, event.isWalk = true := by
        intro event member
        rcases List.mem_cons.mp member with rfl | within
        · rfl
        · exact Event.is_walk_of_is_visit (areVisits event within)
      cases outcome with
      | error panic => exact ⟨_, stepped, areWalks, nofun⟩
      | ok value =>
          obtain ⟨frames, heard, methods, writer⟩ := tells rfl
          have closed : left.telling.writer.phase ≠ .inSample := by
            dsimp only at writer
            rw [writer]
            exact phase_run_calls _ _
          obtain ⟨events, steppedLater, areWalksLater, tellsLater⟩ := induction closed
          refine ⟨_, .trans stepped.continues steppedLater, ?_, ?_⟩
          · intro event member
            rcases List.mem_append.mp member with first | within
            · exact areWalks event first
            · exact areWalksLater event within
          · intro finished
            obtain ⟨noVisits, walked, stackList, heardLater, shown, writerLater⟩ :=
              tellsLater finished
            have walks : walksFrom (.walkBegan thread :: visits ++ events) =
                ([], ⟨thread, visitsOf visits⟩ :: walksOf events) := by
              rw [List.cons_append, walksFrom, walks_from_visits areVisits, noVisits,
                List.append_nil]
            refine ⟨congrArg Prod.fst walks, ?_,
              ⟨thread, directory.identity thread, frames⟩ :: stackList, ?_, ?_, ?_⟩
            · rw [walksOf, walks, List.map_cons, walked]
            · intro later
              have own : answersOf (.walkBegan thread :: visits) = answersOf visits := rfl
              rw [walksOf, walks, answers_of_append, own, List.append_assoc,
                stacks_heard_cons directory (heard _), heardLater]
            · rw [walksOf, walks, List.map_cons, List.map_cons, shown, Stack.shown, methods]
              rfl
            · rw [writerLater, writer, ← Wire.Writer.run_append]
              rfl

theorem sample_all_stepped (api : Host ρ) (settings : Settings) (directory : Directory)
    {window : Window ρ} (outside : window.writer.phase ≠ .inSample)
    (cleared : window.threads = []) :
    ∃ threads reply events, Stepped window (window.sampleAll api settings directory).2
        (.listed threads reply :: events) (window.sampleAll api settings directory).1 ∧
      (∀ event ∈ events, event.isWalk = true) ∧
      ((window.sampleAll api settings directory).1 = .ok () →
        TellsThreads settings directory threads window.telling
          (window.sampleAll api settings directory).2.telling events) := by
  have grown := window.world.own_threads api
  rw [sampleAll, cleared]
  rcases listed : window.world.threads api with ⟨threads, reply, world⟩
  rw [listed] at grown
  dsimp only [List.nil_append]
  -- An error of the listing changes the report only.
  have sampled : ∀ report, ∃ events,
      Stepped window
          ({ window with world, threads, report }.sampleThreads api settings directory threads).2
          (.listed threads reply :: events)
          ({ window with world, threads, report }.sampleThreads api settings directory threads).1 ∧
        (∀ event ∈ events, event.isWalk = true) ∧
        (({ window with world, threads, report }.sampleThreads api settings directory
            threads).1 = .ok () →
          TellsThreads settings directory threads window.telling
            ({ window with world, threads, report }.sampleThreads api settings directory
              threads).2.telling
            events) := by
    intro report
    have grown : World.Continues window.world
        ({ window with world, threads, report } : Window ρ).world [.listed threads reply] := grown
    obtain ⟨events, stepped, walks, tells⟩ :=
      @sample_threads_stepped ρ api settings directory { window with world, threads, report }
        outside threads
    exact ⟨events, .trans grown stepped, walks, tells⟩
  refine ⟨threads, reply, ?_⟩
  cases reply with
  | ok value => exact sampled window.report
  | error error => exact sampled { window.report with threadsError := some error }
  | panic message =>
      refine ⟨[], ⟨grown, fun _ _ => ?_⟩, nofun, nofun⟩
      exact ⟨.listed threads (.panic message), List.mem_singleton_self _, rfl⟩

/-- However the threads were sampled, the host is resumed once, and nothing else but the report
changes. -/
theorem run_resumes (api : Host ρ) (settings : Settings) (directory : Directory) (tally : Tally)
    {window left : Window ρ} {world : World ρ} {outcome : Except Panic Unit}
    (suspended : window.world.suspend api = (.ok (), world))
    (sampled : ({ window with world } : Window ρ).sampleAll api settings directory =
      (outcome, left)) :
    ∃ result counted report, window.run api settings directory tally =
        (result, counted, { left with world := (left.world.resume api).2, report }) ∧
      (result = .ok () → outcome = .ok ()) ∧
      (∀ crash, result = .error crash → (∃ panic, outcome = .error panic) ∨
        ∃ message, (left.world.resume api).1 = .panic message) := by
  rw [run, suspended]
  dsimp only
  rw [sampled]
  rcases resumed : left.world.resume api with ⟨reply, thawed⟩
  cases outcome with
  | error panic =>
      dsimp only
      rw [unwind, resumed]
      cases reply <;> exact ⟨_, _, _, rfl, nofun, fun _ _ => .inl ⟨panic, rfl⟩⟩
  | ok value =>
      dsimp only
      rw [resumed]
      cases reply with
      | ok value => exact ⟨_, _, _, rfl, fun _ => rfl, nofun⟩
      | error error => exact ⟨_, _, _, rfl, fun _ => rfl, nofun⟩
      | panic message => exact ⟨_, _, _, rfl, nofun, fun _ _ => .inr ⟨message, rfl⟩⟩

/-- What a frozen window comes to: a failure to suspend is all there is to it, and otherwise the
host is resumed once, behind everything that was asked of it. -/
theorem run_stepped (api : Host ρ) (settings : Settings) (directory : Directory) (tally : Tally)
    {window : Window ρ} (outside : window.writer.phase ≠ .inSample)
    (cleared : window.threads = []) :
    (∃ reply, reply ≠ .ok () ∧ World.Continues window.world
        (window.run api settings directory tally).2.2.world [.suspended reply]) ∨
      ∃ threads listing walks reply, World.Continues window.world
          (window.run api settings directory tally).2.2.world
          (.suspended (.ok ()) :: .listed threads listing :: walks ++ [.resumed reply]) ∧
        (∀ event ∈ walks, event.isWalk = true) ∧
        (∀ crash, (window.run api settings directory tally).1 = .error crash →
          ∃ event ∈ .listed threads listing :: walks ++ [.resumed reply], event.isPanic = true) ∧
        ((window.run api settings directory tally).1 = .ok () →
          TellsThreads settings directory threads window.telling
            (window.run api settings directory tally).2.2.telling walks) := by
  have grown := window.world.own_suspend api
  rcases suspended : window.world.suspend api with ⟨reply, world⟩
  rw [suspended] at grown
  cases reply with
  | panic message =>
      rw [run, suspended]
      exact .inl ⟨.panic message, nofun, grown⟩
  | error error =>
      rw [run, suspended]
      exact .inl ⟨.error error, nofun, grown⟩
  | ok value =>
      obtain ⟨threads, listing, walks, stepped, areWalks, tells⟩ :=
        @sample_all_stepped ρ api settings directory { window with world } outside cleared
      rcases sampled : ({ window with world } : Window ρ).sampleAll api settings directory with
        ⟨outcome, left⟩
      rw [sampled] at stepped tells
      have resumed := left.world.own_resume api
      obtain ⟨result, counted, report, ran, finished, crashed⟩ :=
        run_resumes api settings directory tally suspended sampled
      refine .inr ⟨threads, listing, walks, (left.world.resume api).1, ?_⟩
      rw [ran]
      refine ⟨(World.Continues.trans grown stepped.continues).trans resumed, areWalks, ?_, ?_⟩
      · intro crash crashes
        rcases crashed crash crashes with ⟨panic, panicked⟩ | ⟨message, panicked⟩
        · obtain ⟨event, member, isPanic⟩ := stepped.panics panic panicked
          exact ⟨event, List.mem_append_left _ member, isPanic⟩
        · rw [panicked]
          exact ⟨.resumed (.panic message), by simp, rfl⟩
      · intro returned
        exact tells (finished returned)

end Window

namespace Sampler

def window (profiler : Profiler) (sampler : Sampler) (host : ρ) : Window ρ where
  world := { host, mailbox := profiler.mailbox }
  names := sampler.names
  threads := []
  writer := (Wire.Writer.ofCapacity sampler.settings.bufferCapacity.toNat).openBatch

theorem own_window (profiler : Profiler) (sampler : Sampler) (host : ρ) :
    (sampler.window profiler host).world.own = [] :=
  rfl

theorem window_outside (profiler : Profiler) (sampler : Sampler) (host : ρ) :
    (sampler.window profiler host).writer.phase ≠ .inSample := by
  rw [window, Wire.open_batch_of_capacity]
  exact nofun

theorem pass_skipped (api : Host ρ) {profiler : Profiler} (sampler : Sampler) (host : ρ)
    (full : profiler.mailbox.hasRoom = false) :
    (sampler.pass api profiler host).result = .ok none ∧
      (sampler.pass api profiler host).journal = #[] := by
  rw [pass, full]
  exact ⟨rfl, rfl⟩

theorem pass_eq (api : Host ρ) {profiler : Profiler} (sampler : Sampler) (host : ρ)
    (room : profiler.mailbox.hasRoom = true) :
    sampler.pass api profiler host =
      match (sampler.window profiler host).run api sampler.settings profiler.directory
        profiler.tally with
      | (.ok (), tally, window) => conclude profiler sampler tally window
      | (.error crash, tally, window) =>
          { result := .error crash
            profiler := { profiler with mailbox := window.world.mailbox, tally }
            sampler := { sampler with names := window.names, threads := window.threads }
            host := window.world.host
            journal := window.world.journal } := by
  rw [pass, if_pos room]
  rfl

/-- A window that was left without a panic is published and reported, and behind that comes only
what the report has to log. -/
theorem conclude_stepped (profiler : Profiler) (sampler : Sampler) (tally : Tally)
    (window : Window ρ) :
    ∃ report stored, (conclude profiler sampler tally window).result = .ok (some report) ∧
      report.truncated = window.writer.truncated ∧
      ownEvents (conclude profiler sampler tally window).journal =
        window.world.own ++
          .published window.writer.closeBatch.finish stored ::
            (LogLine.ofReport report).map Event.logged := by
  have grown := window.world.own_publish window.writer.closeBatch.finish
  rcases published : window.world.publish window.writer.closeBatch.finish with ⟨stored, world⟩
  rw [published] at grown
  simp only [conclude, published]
  refine ⟨_, stored, rfl, window.writer.truncated_close_batch, ?_⟩
  rw [← World.own, World.own_log, grown, List.append_assoc, List.singleton_append]

end Sampler

end StackSampler
