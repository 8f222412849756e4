import StackSampler.Proofs.Pass.Outcomes
import StackSampler.Proofs.Pass.Steadied

/-!
# Captures of a source that may panic

What a pass publishes that hears no panic follows from the walks that its journal shows and from the
answers of the metadata source, if these are always the same: every frame within the depth limit has
its right name, whatever the cache held. The threads that it walks are those that the host listed.
-/

namespace StackSampler

open Wire (Call Stack callsOf)

section Concat

variable {events : List Event} (thread : ThreadHandle) (method : MethodId) (context : WalkContext)
  (verdict : Verdict)

theorem walks_from_concat_began :
    walksFrom (events ++ [.walkBegan thread]) =
      (visitsOf events, walksOf events ++ [⟨thread, []⟩]) := by
  induction events with
  | nil => rfl
  | cons event events induction =>
      rw [List.cons_append]
      cases event <;> simp only [walksFrom, visitsOf, walksOf, induction, List.cons_append]

theorem walks_from_concat_first (none : walksOf events = []) :
    walksFrom (events ++ [.offered method context verdict]) =
      (visitsOf events ++ [(method, context)], []) := by
  induction events with
  | nil => rfl
  | cons event events induction =>
      rw [List.cons_append]
      cases event with
      | walkBegan other => cases none
      | offered other within verdict =>
          rw [walksFrom, induction none]
          rfl
      | _ => exact induction none

theorem walks_from_concat_offered {earlier : List Walked} {visits : List Visit}
    (last : walksOf events = earlier ++ [⟨thread, visits⟩]) :
    walksFrom (events ++ [.offered method context verdict]) =
      (visitsOf events, earlier ++ [⟨thread, visits ++ [(method, context)]⟩]) := by
  induction events generalizing earlier with
  | nil => exact absurd last.symm (List.concat_ne_nil _ _)
  | cons event events induction =>
      rw [List.cons_append]
      cases event with
      | walkBegan other =>
          have split : ⟨other, visitsOf events⟩ :: walksOf events = earlier ++ [⟨thread, visits⟩] :=
            last
          cases earlier with
          | nil =>
              obtain ⟨same, none⟩ := List.cons.inj split
              cases same
              rw [walksFrom, walks_from_concat_first method context verdict none]
              rfl
          | cons walk earlier =>
              obtain ⟨rfl, rest⟩ := List.cons.inj split
              rw [walksFrom, induction rest]
              rfl
      | offered other within verdict =>
          rw [walksFrom, induction last]
          rfl
      | _ => exact induction last

def Event.showsWalk : Event → Bool
  | .walkBegan _ => true
  | .offered _ _ _ => true
  | _ => false

theorem walks_from_concat_other {event : Event} (other : event.showsWalk = false) :
    walksFrom (events ++ [event]) = walksFrom events := by
  induction events with
  | nil =>
      cases event with
      | walkBegan thread => cases other
      | offered method context verdict => cases other
      | _ => rfl
  | cons first events induction =>
      rw [List.cons_append]
      cases first <;> simp only [walksFrom, induction]

end Concat

/-- The stack of a walk that is cut at a depth, with the right name for every frame. -/
def Walked.named (answers : FixedAnswers) (directory : Directory) (maxFrames : Nat)
    (walk : Walked) : Stack where
  thread := walk.thread
  identity := directory.identity walk.thread
  frames := (walk.visits.take maxFrames).map fun visit => (visit.1, answers.name visit.1)

variable {ρ : Type}

def Wire.Stack.opening (stack : Stack) : List Call :=
  .openSample stack.thread stack.identity :: stack.frames.map Call.ofFrame

theorem calls_of_concat (stackList : List Stack) (stack : Stack) :
    callsOf (stackList ++ [stack]) = callsOf stackList ++ stack.opening ++ [.closeSample] := by
  rw [callsOf, List.flatMap_append, List.flatMap_singleton, List.append_assoc]
  rfl

def World.walks (world : World ρ) : List Walked := walksOf world.own

theorem World.walks_note (world : World ρ) {event : Event} (own : event.isShared = false)
    (other : event.showsWalk = false) : (world.note event).walks = world.walks := by
  rw [walks, own_note world own, walksOf, walks_from_concat_other other]
  rfl

theorem World.walks_settle (world : World ρ) (answer : Answer ρ) {event : Event}
    (own : event.isShared = false) (other : event.showsWalk = false) :
    (world.settle answer event).walks = world.walks := by
  rw [walks, own_settle world answer own, walksOf, walks_from_concat_other other]
  rfl

theorem World.walks_began (world : World ρ) (thread : ThreadHandle) :
    (world.note (.walkBegan thread)).walks = world.walks ++ [⟨thread, []⟩] := by
  rw [walks, own_note world rfl, walksOf, walks_from_concat_began]
  rfl

section Told

variable (answers : FixedAnswers) (directory : Directory) (maxFrames : Nat) (base : Wire.Writer)

/-- Whether the writer of a window was told of the walks so far, each of them complete. -/
structure Window.Told (window : Window ρ) : Prop where
  truthful : window.names.Truthful answers
  writer : window.writer =
    base.run (callsOf (window.world.walks.map (Walked.named answers directory maxFrames)))

/-- Whether the writer of a window was told of the walks so far, and of the last one as far as it
got. -/
structure Window.Telling (depth : Nat) (window : Window ρ) : Prop where
  truthful : window.names.Truthful answers
  writer : ∃ earlier, ∃ walk : Walked, window.world.walks = earlier ++ [walk] ∧
    depth = min walk.visits.length maxFrames ∧
    window.writer = base.run (callsOf (earlier.map (Walked.named answers directory maxFrames)) ++
      (walk.named answers directory maxFrames).opening)

variable {answers directory maxFrames base}

theorem opening_named_concat {thread : ThreadHandle} {visits : List Visit}
    (room : visits.length < maxFrames) (method : MethodId) (context : WalkContext) :
    (Walked.named answers directory maxFrames ⟨thread, visits ++ [(method, context)]⟩).opening =
      (Walked.named answers directory maxFrames ⟨thread, visits⟩).opening ++
        [.addFrame method (answers.name method)] := by
  have whole : (visits ++ [(method, context)]).length ≤ maxFrames := by
    rw [List.length_append]
    exact room
  rw [Walked.named, Walked.named, List.take_of_length_le whole,
    List.take_of_length_le (Nat.le_of_lt room), List.map_append, Stack.opening, List.map_append]
  rfl

theorem named_concat_of_full {thread : ThreadHandle} {visits : List Visit}
    (full : maxFrames ≤ visits.length) (visit : Visit) :
    Walked.named answers directory maxFrames ⟨thread, visits ++ [visit]⟩ =
      Walked.named answers directory maxFrames ⟨thread, visits⟩ := by
  rw [Walked.named, Walked.named, List.take_append_of_le_length full]

theorem World.walks_offered {world : World ρ} {earlier : List Walked} {thread : ThreadHandle}
    {visits : List Visit} (last : world.walks = earlier ++ [⟨thread, visits⟩]) (host : ρ)
    (method : MethodId) (context : WalkContext) (verdict : Verdict) :
    (World.note { world with host } (.offered method context verdict)).walks =
      earlier ++ [⟨thread, visits ++ [(method, context)]⟩] := by
  have noted : World.own (World.note { world with host } (.offered method context verdict)) =
      world.own ++ [.offered method context verdict] := World.own_note _ rfl
  rw [walks, noted, walksOf, walks_from_concat_offered thread method context verdict last]

theorem World.walks_resolve (api : Host ρ) (names : RecentNames) (method : MethodId)
    (context : WalkContext) (world : World ρ) :
    (names.resolve (World.metadata api) method context world).2.2.walks = world.walks := by
  apply @resolve_keeps ρ api (fun other => other.walks = world.walks)
  · intro method context other same
    exact (World.walks_note _ rfl rfl).trans same
  · intro classId other same
    exact (World.walks_note _ rfl rfl).trans same
  · rfl

section Steps

variable {api : Host ρ} {window : Window ρ} {depth : Nat}

theorem Window.Told.told_listing (told : window.Told answers directory maxFrames base)
    (api : Host ρ) :
    Ends (Window.Told answers directory maxFrames base) (fun _ _ => True) (window.listing api) := by
  have same : (window.world.threads api).2.2.walks = window.world.walks :=
    World.walks_settle _ _ rfl rfl
  obtain ⟨truthful, writer⟩ := told
  rw [← same] at writer
  rw [Window.listing]
  cases (window.world.threads api).2.1 with
  | panic message => exact trivial
  | _ => exact ⟨truthful, writer⟩

theorem Window.Told.telling_walking (told : window.Told answers directory maxFrames base)
    (thread : ThreadHandle) :
    (window.walking directory thread).Telling answers directory maxFrames base 0 := by
  obtain ⟨truthful, writer⟩ := told
  have shown : (window.walking directory thread).world.walks =
      window.world.walks ++ [⟨thread, []⟩] := window.world.walks_began thread
  refine ⟨truthful, window.world.walks, ⟨thread, []⟩, shown, (Nat.zero_min _).symm, ?_⟩
  rw [Wire.Writer.run_append, ← writer, Walked.named, List.take_nil]
  rfl

theorem Window.Telling.telling_hear
    (telling : window.Telling answers directory maxFrames base depth) (full : maxFrames ≤ depth)
    (host : ρ) (method : MethodId) (context : WalkContext) :
    (window.hear host (.offered method context .enough)).Telling answers directory maxFrames base
      depth := by
  obtain ⟨truthful, earlier, ⟨thread, visits⟩, last, reached, told⟩ := telling
  dsimp only at reached
  refine ⟨truthful, earlier, ⟨thread, visits ++ [(method, context)]⟩,
    World.walks_offered last host method context .enough, ?_, ?_⟩
  · rw [List.length_append]
    omega
  · rw [named_concat_of_full (by omega)]
    exact told

theorem Window.Telling.telling_record (given : answers.GivenUnlessPanic api.metadata)
    (telling : window.Telling answers directory maxFrames base depth) (room : depth < maxFrames)
    (host : ρ) (method : MethodId) (context : WalkContext) :
    Ends (Window.Telling answers directory maxFrames base (depth + 1)) (fun _ _ => True)
      ((window.hear host (.offered method context .more)).record api method context) := by
  obtain ⟨truthful, earlier, ⟨thread, visits⟩, last, reached, told⟩ := telling
  have shown := World.walks_offered last host method context .more
  have within : visits.length < maxFrames := by
    dsimp only at reached
    omega
  obtain ⟨world, names, threads, writer, report⟩ := window
  dsimp only at truthful told shown
  rw [Window.hear, Window.record]
  dsimp only
  have kept := World.walks_resolve api names method context
    (World.note { world with host } (.offered method context .more))
  obtain ⟨right, truthfulLeft⟩ := truthful.resolve_unless_left given method context
    (World.note { world with host } (.offered method context .more))
  generalize names.resolve (World.metadata api) method context
    (World.note { world with host } (.offered method context .more)) = found
    at kept right truthfulLeft ⊢
  obtain ⟨outcome, namesLeft, worldLeft⟩ := found
  rcases right with ⟨panic, panicked⟩ | named
  · cases panicked
    exact trivial
  · cases named
    refine ⟨truthfulLeft, earlier, ⟨thread, visits ++ [(method, context)]⟩, kept.trans shown,
      ?_, ?_⟩
    · rw [List.length_append, List.length_singleton, reached]
      dsimp only
      omega
    · rw [opening_named_concat within, ← List.append_assoc, Wire.Writer.run_append, ← told]
      rfl

theorem Window.Telling.told_end_walk
    (telling : window.Telling answers directory maxFrames base depth) (answer : Answer ρ) :
    Ends (fun left => left.closeSample.Told answers directory maxFrames base) (fun _ _ => True)
      (window.endWalk answer) := by
  obtain ⟨truthful, earlier, walk, last, -, told⟩ := telling
  obtain ⟨reply, host, meanwhile⟩ := answer
  have shown : (window.world.settle ⟨reply, host, meanwhile⟩ (.walkEnded reply)).walks =
      earlier ++ [walk] := (World.walks_settle _ _ rfl rfl).trans last
  have closed : window.writer.closeSample = base.run (callsOf
      ((earlier ++ [walk]).map (Walked.named answers directory maxFrames))) := by
    rw [List.map_append, List.map_singleton, calls_of_concat, Wire.Writer.run_append, ← told]
    rfl
  rw [← shown] at closed
  cases reply with
  | panic message => exact trivial
  | _ => exact ⟨truthful, closed⟩

end Steps

/-- Until a panic leaves a window, its writer is told of the walks with the right names. -/
def toldUpkeep {api : Host ρ} {settings : Settings}
    (given : answers.GivenUnlessPanic api.metadata) (base : Wire.Writer) :
    Upkeep api settings directory where
  between := Window.Told answers directory settings.maxFrames.toNat base
  inside := Window.Telling answers directory settings.maxFrames.toNat base
  broken _ _ := True
  lists told := told.told_listing api
  begins thread told := told.telling_walking thread
  hears host method context full telling := telling.telling_hear full host method context
  records host method context room telling := telling.telling_record given room host method context
  ends answer telling := telling.told_end_walk answer

theorem Window.run_told {api : Host ρ} {settings : Settings}
    (given : answers.GivenUnlessPanic api.metadata) {window : Window ρ}
    (told : window.Told answers directory settings.maxFrames.toNat base)
    (outside : window.writer.phase ≠ .inSample) (tally : Tally)
    (returned : (window.run api settings directory tally).1 = .ok ()) :
    (window.run api settings directory tally).2.2.Told answers directory settings.maxFrames.toNat
      base := by
  obtain ⟨truthful, writer⟩ := told
  have same : (window.world.suspend api).2.walks = window.world.walks :=
    World.walks_settle _ _ rfl rfl
  rcases suspended : window.world.suspend api with ⟨reply, world⟩
  rw [suspended] at same
  rw [← same] at writer
  cases reply with
  | panic message =>
      rw [run, suspended] at returned
      cases returned
  | error error =>
      rw [run, suspended]
      exact ⟨truthful, writer⟩
  | ok value =>
      have frozen : ({ window with world } : Window ρ).Told answers directory
          settings.maxFrames.toNat base := ⟨truthful, writer⟩
      have sampled := (toldUpkeep given base).upkeep_sample_all frozen outside
      rcases done : ({ window with world } : Window ρ).sampleAll api settings directory with
        ⟨outcome, left⟩
      rw [done] at sampled
      obtain ⟨result, counted, report, ran, finished, -⟩ :=
        run_resumes api settings directory tally suspended done
      rw [ran] at returned ⊢
      cases finished returned
      obtain ⟨⟨truthfulLeft, writerLeft⟩, -⟩ := sampled
      have thawed : (left.world.resume api).2.walks = left.world.walks :=
        World.walks_settle _ _ rfl rfl
      rw [← thawed] at writerLeft
      exact ⟨truthfulLeft, writerLeft⟩

end Told

/-- What a pass publishes that saw some walks, if every frame within the limit has its right name.
-/
def captureTold (answers : FixedAnswers) (directory : Directory) (settings : Settings)
    (walks : List Walked) : Capture :=
  ((Wire.Writer.ofCapacity settings.bufferCapacity.toNat).openBatch.run
    (callsOf (walks.map (Walked.named answers directory settings.maxFrames.toNat)))).finish

def publishedIn (journal : Array Event) : List Capture := (capturesOf journal).map Prod.fst

theorem not_is_walk_aftermath (capture : Capture) (stored : Bool) (lines : List LogLine) :
    ∀ event ∈ Event.published capture stored :: lines.map Event.logged, event.isWalk = false :=
  fun event member =>
    @not_is_walk_ending (.ok ()) capture stored lines event (List.mem_cons_of_mem _ member)

theorem walks_of_conclude (profiler : Profiler) (sampler : Sampler) (tally : Tally)
    (window : Window ρ) :
    walksOf (ownEvents (Sampler.conclude profiler sampler tally window).journal) =
      window.world.walks := by
  obtain ⟨report, stored, -, -, own⟩ := Sampler.conclude_stepped profiler sampler tally window
  rw [own, walksOf, walks_from_append_others (not_is_walk_aftermath _ _ _)]
  rfl

def threadsListed (events : List Event) : List ThreadHandle :=
  (events.filterMap Event.listed?).flatMap Prod.fst

/-- A pass that completes walks the threads that were listed in it, and no others. -/
theorem Sampler.threads_walked (api : Host ρ) {profiler : Profiler} {sampler : Sampler} {host : ρ}
    {report : Report} (completed : (sampler.pass api profiler host).result = .ok (some report)) :
    (walksOf (ownEvents (sampler.pass api profiler host).journal)).map (·.thread) =
      threadsListed (ownEvents (sampler.pass api profiler host).journal) := by
  cases room : profiler.mailbox.hasRoom with
  | false =>
      rw [(sampler.pass_skipped api host room).1] at completed
      cases completed
  | true =>
      have stepped := Window.run_stepped api sampler.settings profiler.directory profiler.tally
        (sampler.window_outside profiler host) rfl
      rw [pass_eq api sampler host room] at completed ⊢
      rcases ran : (sampler.window profiler host).run api sampler.settings profiler.directory
        profiler.tally with ⟨crash | value, tally, window⟩
      · rw [ran] at completed
        cases completed
      · rw [ran] at stepped
        obtain ⟨report, stored, -, -, own⟩ := conclude_stepped profiler sampler tally window
        dsimp only
        rw [own]
        rcases stepped with
          ⟨reply, -, grown⟩ | ⟨threads, listing, walks, resuming, grown, areWalks, -, tells⟩
        · rw [grown, walksOf, walks_from_append_others (not_is_walk_aftermath _ _ _), threadsListed,
            List.filterMap_append, List.filterMap_cons, filterMap_logged fun _ => rfl]
          rfl
        · have entries : window.world.own ++ .published window.writer.closeBatch.finish stored ::
              (LogLine.ofReport report).map Event.logged =
              passEntries threads listing walks resuming window.writer.closeBatch.finish stored
                (LogLine.ofReport report) := by
            rw [grown]
            simp [passEntries, own_window]
          rw [entries, walks_of_pass_entries, (tells rfl).threads, threadsListed,
            listed_pass_entries areWalks]
          exact (List.append_nil threads).symm

/-- A pass that finds room and hears no panic publishes what its walks and the answers come to. -/
theorem Sampler.published_pass {api : Host ρ} {answers : FixedAnswers}
    (given : answers.GivenUnlessPanic api.metadata) {sampler : Sampler}
    (truthful : sampler.names.Truthful answers) {profiler : Profiler} (host : ρ)
    (room : profiler.mailbox.hasRoom = true)
    (calm : panicsOf (sampler.pass api profiler host).journal = []) :
    publishedIn (sampler.pass api profiler host).journal =
      [captureTold answers profiler.directory sampler.settings
        (walksOf (ownEvents (sampler.pass api profiler host).journal))] := by
  obtain ⟨window, ran, held, concluded⟩ := sampler.pass_of_calm api host room calm
  have begun : (sampler.window profiler host).Told answers profiler.directory
      sampler.settings.maxFrames.toNat
      (Wire.Writer.ofCapacity sampler.settings.bufferCapacity.toNat).openBatch := ⟨truthful, rfl⟩
  have told := Window.run_told given begun (sampler.window_outside profiler host) profiler.tally
    (congrArg Prod.fst ran)
  rw [ran] at told
  have writer : window.writer =
      (Wire.Writer.ofCapacity sampler.settings.bufferCapacity.toNat).openBatch.run (callsOf
        (window.world.walks.map
          (Walked.named answers profiler.directory sampler.settings.maxFrames.toNat))) :=
    told.writer
  rw [concluded, publishedIn, captures_of_conclude_held held, walks_of_conclude, captureTold,
    ← writer, Wire.Writer.finish_close_batch]
  rfl

end StackSampler
