import StackSampler.Proofs.Pass.Reports

/-!
# Depth limits and heedless walks

A walk is told when it has offered enough frames, and is free to go on all the same. A pass over
walks that stop then and a pass over walks that offer all of their frames differ in the offers that
were refused, and in nothing else: both make the same questions, write the same bytes and make the
same report. The depth of a walk counts the frames that it offered, not those that were written, so
this holds wherever the buffer got full.
-/

namespace StackSampler

open Wire (Stack callsOf)

variable {ρ : Type}

section Alike

variable (same : ρ → ρ → Prop)

/-- Whether a walk that is told to stop comes to an end like another, after however many frames. -/
inductive RunsOut (answer : Answer ρ) : Walk ρ → Prop where
  | finish {other : Answer ρ} (alike : AnswersAlike same answer other) :
      RunsOut answer (.finish other)
  | offer {method : MethodId} {context : WalkContext} {host : ρ} {next : Verdict → ρ → Walk ρ}
      (goesOn : RunsOut answer (next .enough host)) :
      RunsOut answer (.offer method context host next)

/-- Whether two walks offer the same frames and end alike, of which the first one ends where it is
told to and the second one may go on. -/
inductive CutAlike : Walk ρ → Walk ρ → Prop where
  | finish {answer other : Answer ρ} (alike : AnswersAlike same answer other) :
      CutAlike (.finish answer) (.finish other)
  | offer {method : MethodId} {context : WalkContext} {host hostOther : ρ}
      {next nextOther : Verdict → ρ → Walk ρ} {answer : Answer ρ} (hosts : same host hostOther)
      (goesOn : ∀ first second, same first second →
        CutAlike (next .more first) (nextOther .more second))
      (heeds : next .enough host = .finish answer)
      (runsOut : RunsOut same answer (nextOther .enough hostOther)) :
      CutAlike (.offer method context host next) (.offer method context hostOther nextOther)

/-- Whether two hosts do the same in related states and leave related states, except that the walks
of the first one stop where they are told to. -/
structure WalkersAlike (heeding heedless : Host ρ) : Prop where
  suspend : ∀ {first second}, same first second →
    AnswersAlike same (heeding.suspend first) (heedless.suspend second)
  threads : ∀ {first second}, same first second →
    (heeding.threads first).1 = (heedless.threads second).1 ∧
      AnswersAlike same (heeding.threads first).2 (heedless.threads second).2
  walk : ∀ thread {first second}, same first second →
    CutAlike same (heeding.walk thread first) (heedless.walk thread second)
  resume : ∀ {first second}, same first second →
    AnswersAlike same (heeding.resume first) (heedless.resume second)
  describe : ∀ method context {first second}, same first second →
    Agree same (heeding.metadata.describe method context first)
      (heedless.metadata.describe method context second)
  typeName : ∀ classId {first second}, same first second →
    Agree same (heeding.metadata.typeName classId first)
      (heedless.metadata.typeName classId second)

end Alike

def Event.isRefusal : Event → Bool
  | .offered _ _ .enough => true
  | _ => false

def entriesHeeded (journal : Array Event) : List Event := journal.toList.filter (!·.isRefusal)

theorem entries_heeded_push (journal : Array Event) {event : Event}
    (kept : event.isRefusal = false) :
    entriesHeeded (journal.push event) = entriesHeeded journal ++ [event] := by
  simp [entriesHeeded, List.filter_append, kept]

theorem entries_heeded_push_refusal (journal : Array Event) {event : Event}
    (refusal : event.isRefusal = true) :
    entriesHeeded (journal.push event) = entriesHeeded journal := by
  simp [entriesHeeded, List.filter_append, refusal]

theorem filterMap_entries_heeded {α : Type} {pick : Event → Option α}
    (unpicked : ∀ event, event.isRefusal = true → pick event = none) (journal : Array Event) :
    (entriesHeeded journal).filterMap pick = journal.toList.filterMap pick := by
  apply filterMap_filter_of_unpicked
  intro event refusal
  rw [Bool.not_eq_false'] at refusal
  exact unpicked event refusal

def Walked.cutAt (limit : Nat) (walk : Walked) : Walked :=
  { walk with visits := walk.visits.take limit }

/-- Whether two worlds show the same but for what was offered behind the first refusal of each
walk. -/
structure TracesAlike (maxFrames : Nat) (first second : World ρ) : Prop where
  mailbox : first.mailbox = second.mailbox
  entries : entriesHeeded first.journal = entriesHeeded second.journal
  walks : first.walks = second.walks.map (Walked.cutAt (maxFrames + 1))

section Traces

variable {maxFrames : Nat} {first second : World ρ}

theorem TracesAlike.traces_alike_note (alike : TracesAlike maxFrames first second) {event : Event}
    (own : event.isShared = false) (other : event.showsWalk = false) (host hostOther : ρ) :
    TracesAlike maxFrames (World.note { first with host } event)
      (World.note { second with host := hostOther } event) := by
  have kept : event.isRefusal = false := by
    cases event with
    | offered method context verdict => cases other
    | _ => rfl
  refine ⟨alike.mailbox, ?_, ?_⟩
  · exact (entries_heeded_push _ kept).trans
      ((congrArg (· ++ [event]) alike.entries).trans (entries_heeded_push _ kept).symm)
  · rw [World.walks_note _ own other, World.walks_note _ own other]
    exact alike.walks

theorem TracesAlike.traces_alike_share (alike : TracesAlike maxFrames first second)
    (op : Mailbox.Op) :
    TracesAlike maxFrames (first.share op) (second.share op) := by
  refine ⟨congrArg (fun mailbox : Mailbox => (mailbox.perform op).2) alike.mailbox, ?_, ?_⟩
  · change entriesHeeded (first.journal.push (.shared op (first.mailbox.perform op).1)) =
      entriesHeeded (second.journal.push (.shared op (second.mailbox.perform op).1))
    rw [entries_heeded_push _ rfl, entries_heeded_push _ rfl, alike.mailbox, alike.entries]
  · rw [World.walks, World.walks, World.own_share, World.own_share]
    exact alike.walks

theorem TracesAlike.foldl_share (ops : List Mailbox.Op) {first second : World ρ}
    (alike : TracesAlike maxFrames first second) :
    TracesAlike maxFrames (ops.foldl World.share first) (ops.foldl World.share second) := by
  induction ops generalizing first second with
  | nil => exact alike
  | cons op ops induction => exact induction (alike.traces_alike_share op)

theorem TracesAlike.traces_alike_began (alike : TracesAlike maxFrames first second)
    (thread : ThreadHandle) :
    TracesAlike maxFrames (first.note (.walkBegan thread)) (second.note (.walkBegan thread)) := by
  refine ⟨alike.mailbox, ?_, ?_⟩
  · exact (entries_heeded_push _ rfl).trans
      ((congrArg (· ++ [_]) alike.entries).trans (entries_heeded_push _ rfl).symm)
  · rw [World.walks_began, World.walks_began, alike.walks, List.map_append]
    rfl

theorem TracesAlike.traces_alike_settle (alike : TracesAlike maxFrames first second) {event : Event}
    (own : event.isShared = false) (other : event.showsWalk = false) {answer answerOther : Answer ρ}
    (meanwhile : answer.meanwhile = answerOther.meanwhile) :
    TracesAlike maxFrames (first.settle answer event) (second.settle answerOther event) := by
  rw [World.settle, World.settle, ← meanwhile]
  exact (alike.foldl_share answer.meanwhile).traces_alike_note own other
    answer.host answerOther.host

section Offered

variable (alike : TracesAlike maxFrames first second) {earlier : List Walked}
  {thread : ThreadHandle} {visits : List Visit}
  (last : second.walks = earlier ++ [⟨thread, visits⟩])
include alike last

theorem TracesAlike.last_walk :
    first.walks = earlier.map (Walked.cutAt (maxFrames + 1)) ++
      [⟨thread, visits.take (maxFrames + 1)⟩] := by
  rw [alike.walks, last, List.map_append]
  rfl

theorem TracesAlike.traces_alike_offered (shallow : visits.length ≤ maxFrames) (host hostOther : ρ)
    (method : MethodId) (context : WalkContext) (verdict : Verdict) :
    TracesAlike maxFrames (World.note { first with host } (.offered method context verdict))
      (World.note { second with host := hostOther } (.offered method context verdict)) := by
  refine ⟨alike.mailbox, ?_, ?_⟩
  · cases verdict with
    | more =>
        exact (entries_heeded_push _ rfl).trans
          ((congrArg (· ++ [_]) alike.entries).trans (entries_heeded_push _ rfl).symm)
    | enough =>
        exact (entries_heeded_push_refusal _ rfl).trans
          (alike.entries.trans (entries_heeded_push_refusal _ rfl).symm)
  · rw [World.walks_offered (alike.last_walk last), World.walks_offered last, List.map_append]
    have whole : (visits ++ [(method, context)]).length ≤ maxFrames + 1 := by
      rw [List.length_append]
      exact Nat.succ_le_succ shallow
    rw [List.map_singleton, Walked.cutAt, List.take_of_length_le whole,
      List.take_of_length_le (Nat.le_succ_of_le shallow)]

/-- A frame that only the second world hears, behind the first refusal. -/
theorem TracesAlike.traces_alike_overrun (beyond : maxFrames < visits.length) (hostOther : ρ)
    (method : MethodId) (context : WalkContext) :
    TracesAlike maxFrames first
      (World.note { second with host := hostOther } (.offered method context .enough)) := by
  refine ⟨alike.mailbox, ?_, ?_⟩
  · exact alike.entries.trans (entries_heeded_push_refusal _ rfl).symm
  · rw [World.walks_offered last, alike.last_walk last, List.map_append, List.map_singleton,
      Walked.cutAt, List.take_append_of_le_length beyond]

end Offered

end Traces

structure WorldsCut (same : ρ → ρ → Prop) (maxFrames : Nat) (first second : World ρ) : Prop extends
    TracesAlike maxFrames first second where
  host : same first.host second.host

theorem Window.walks_record (api : Host ρ) (window : Window ρ) (method : MethodId)
    (context : WalkContext) :
    (window.record api method context).2.world.walks = window.world.walks := by
  obtain ⟨world, names, threads, writer, report⟩ := window
  have kept := World.walks_resolve api names method context world
  rw [Window.record]
  generalize names.resolve (World.metadata api) method context world = resolved at kept ⊢
  obtain ⟨outcome, left, after⟩ := resolved
  cases outcome <;> exact kept

section Pairing

variable {same : ρ → ρ → Prop} {maxFrames : Nat}

theorem WorldsCut.worlds_cut_note {first second : World ρ}
    (cut : WorldsCut same maxFrames first second) {event : Event} (own : event.isShared = false)
    (other : event.showsWalk = false) {host hostOther : ρ} (hosts : same host hostOther) :
    WorldsCut same maxFrames (World.note { first with host } event)
      (World.note { second with host := hostOther } event) :=
  ⟨cut.toTracesAlike.traces_alike_note own other host hostOther, hosts⟩

theorem TracesAlike.worlds_cut_settle {first second : World ρ}
    (alike : TracesAlike maxFrames first second) {event : Event} (own : event.isShared = false)
    (other : event.showsWalk = false) {answer answerOther : Answer ρ}
    (answers : AnswersAlike same answer answerOther) :
    WorldsCut same maxFrames (first.settle answer event) (second.settle answerOther event) :=
  ⟨alike.traces_alike_settle own other answers.meanwhile, answers.host⟩

variable {heeding heedless : Host ρ} (alike : WalkersAlike same heeding heedless)

/-- What stays related while one of two hosts heeds the verdict and the other one does not. -/
def cutPairing (maxFrames : Nat) : Pairing heeding heedless where
  worlds := WorldsCut same maxFrames
  names := Eq
  suspends := by
    intro first second cut
    have said := alike.suspend cut.host
    refine ⟨said.reply, ?_⟩
    rw [World.suspend, World.suspend, ← said.reply]
    exact cut.toTracesAlike.worlds_cut_settle rfl rfl said
  lists := by
    intro first second cut
    obtain ⟨threads, said⟩ := alike.threads cut.host
    refine ⟨threads, said.reply, ?_⟩
    change WorldsCut same maxFrames
      (first.settle (heeding.threads first.host).2
        (.listed (heeding.threads first.host).1 (heeding.threads first.host).2.reply))
      (second.settle (heedless.threads second.host).2
        (.listed (heedless.threads second.host).1 (heedless.threads second.host).2.reply))
    rw [threads, said.reply]
    exact cut.toTracesAlike.worlds_cut_settle rfl rfl said
  resolves := by
    rintro method context cache _ first second rfl cut
    apply resolve_agree _ _ method context cache cut
    · intro method context first second cut
      obtain ⟨reply, hosts⟩ := alike.describe method context cut.host
      refine ⟨reply, ?_⟩
      change WorldsCut same maxFrames
        (World.note { first with host := _ } (.methodAsked method context _))
        (World.note { second with host := _ } (.methodAsked method context _))
      rw [← reply]
      exact cut.worlds_cut_note rfl rfl hosts
    · intro classId first second cut
      obtain ⟨reply, hosts⟩ := alike.typeName classId cut.host
      refine ⟨reply, ?_⟩
      change WorldsCut same maxFrames
        (World.note { first with host := _ } (.typeAsked classId _))
        (World.note { second with host := _ } (.typeAsked classId _))
      rw [← reply]
      exact cut.worlds_cut_note rfl rfl hosts
  resumes := by
    intro first second cut
    have said := alike.resume cut.host
    refine ⟨said.reply, ?_⟩
    rw [World.resume, World.resume, ← said.reply]
    exact cut.toTracesAlike.worlds_cut_settle rfl rfl said

/-- Behind the first refusal a heedless walk changes nothing but what it was told. -/
theorem RunsOut.agree_run_out_follow_walk {answer : Answer ρ} {walk : Walk ρ}
    (runsOut : RunsOut same answer walk) {first second : Window ρ}
    (beside : (cutPairing alike maxFrames).Beside first second) {world worldOther : World ρ}
    (traces : TracesAlike maxFrames world worldOther) {earlier : List Walked}
    {thread : ThreadHandle} {visits : List Visit}
    (last : worldOther.walks = earlier ++ [⟨thread, visits⟩]) (beyond : maxFrames < visits.length) :
    Agree (cutPairing alike maxFrames).Beside
      (({ first with world } : Window ρ).endWalk answer)
      (({ second with world := worldOther } : Window ρ).followWalk heedless maxFrames maxFrames
        walk) := by
  induction runsOut generalizing worldOther visits with
  | @finish other answers =>
      rw [Window.followWalk]
      refine beside.agree_end_walk answers.reply ?_
      rw [← answers.reply]
      exact traces.worlds_cut_settle rfl rfl answers
  | @offer method context host next goesOn induction =>
      rw [Window.followWalk, if_pos (Nat.le_refl maxFrames)]
      have longer : maxFrames < (visits ++ [(method, context)]).length := by
        rw [List.length_append]
        exact Nat.lt_add_right _ beyond
      exact induction (traces.traces_alike_overrun last beyond host method context)
        (World.walks_offered last host method context .enough) longer

theorem CutAlike.agree_cut_follow_walk {walk other : Walk ρ} (cut : CutAlike same walk other)
    {first second : Window ρ} (beside : (cutPairing alike maxFrames).Beside first second)
    {earlier : List Walked} {thread : ThreadHandle} {visits : List Visit}
    (last : second.world.walks = earlier ++ [⟨thread, visits⟩])
    (shallow : visits.length ≤ maxFrames) :
    Agree (cutPairing alike maxFrames).Beside
      (first.followWalk heeding maxFrames visits.length walk)
      (second.followWalk heedless maxFrames visits.length other) := by
  have worlds : WorldsCut same maxFrames first.world second.world := beside.worlds
  induction cut generalizing first second visits with
  | @finish answer other answers =>
      rw [Window.followWalk, Window.followWalk]
      refine beside.agree_end_walk answers.reply ?_
      rw [← answers.reply]
      exact worlds.toTracesAlike.worlds_cut_settle rfl rfl answers
  | @offer method context host hostOther next nextOther answer hosts goesOn heeds runsOut
      induction =>
      have heard :=
        worlds.toTracesAlike.traces_alike_offered last shallow host hostOther method context
      have lastHeard := World.walks_offered last hostOther method context
      have longer : (visits ++ [(method, context)]).length = visits.length + 1 :=
        List.length_append
      rw [Window.followWalk, Window.followWalk]
      by_cases deep : maxFrames ≤ visits.length
      · -- The first refusal of the walk: the one ends here, the other runs out.
        have full : visits.length = maxFrames := Nat.le_antisymm shallow deep
        rw [if_pos deep, if_pos deep, full]
        change Agree _ ((first.hear host _).followWalk heeding maxFrames maxFrames
          (next .enough host)) _
        rw [heeds, Window.followWalk]
        refine runsOut.agree_run_out_follow_walk alike beside (heard .enough) (lastHeard .enough) ?_
        rw [longer]
        exact Nat.lt_succ_of_le deep
      · rw [if_neg deep, if_neg deep]
        have begun : (cutPairing alike maxFrames).Beside
            (first.hear host (.offered method context .more))
            (second.hear hostOther (.offered method context .more)) :=
          ⟨⟨heard .more, hosts⟩, beside.names, beside.threads, beside.writer, beside.report⟩
        obtain ⟨ended, window, windowOther, recorded, recordedOther, told⟩ :=
          (begun.agree_record method context).exists_eq
        have kept := Window.walks_record heedless
          (second.hear hostOther (.offered method context .more)) method context
        rw [recordedOther] at kept
        rw [recorded, recordedOther]
        cases ended with
        | error panic => exact ⟨rfl, told⟩
        | ok value =>
            have next := induction window.world.host windowOther.world.host
              (show WorldsCut same maxFrames window.world windowOther.world from told.worlds).host
              told (kept.trans (lastHeard .more)) (by omega) told.worlds
            rw [longer] at next
            exact next

theorem cut_pairing_follows : (cutPairing alike maxFrames).Follows maxFrames := by
  intro first second beside thread
  have worlds : WorldsCut same maxFrames first.world second.world := beside.worlds
  have began : (cutPairing alike maxFrames).Beside
      { first with world := first.world.note (.walkBegan thread) }
      { second with world := second.world.note (.walkBegan thread) } :=
    ⟨⟨worlds.toTracesAlike.traces_alike_began thread, worlds.host⟩, beside.names, beside.threads,
      beside.writer, beside.report⟩
  exact (alike.walk thread worlds.host).agree_cut_follow_walk alike began
    (World.walks_began _ thread) (Nat.zero_le _)

end Pairing

/-- Whether two passes came to the same, up to the measured time, and the walks of the first one are
those of the second one without the frames behind the first refusal. -/
structure PassEnd.CutFrom (maxFrames : Nat) (cut whole : PassEnd ρ) : Prop where
  captures : capturesOf cut.journal = capturesOf whole.journal
  mailbox : cut.profiler.mailbox = whole.profiler.mailbox
  answers : answersOf (ownEvents cut.journal) = answersOf (ownEvents whole.journal)
  sampler : cut.sampler = whole.sampler
  report : cut.untimed = whole.untimed
  panics : panicsOf cut.journal = panicsOf whole.journal
  walks : walksOf (ownEvents cut.journal) =
    (walksOf (ownEvents whole.journal)).map (Walked.cutAt (maxFrames + 1))

/-- Whether a pass named the first frames of each walk, as many as the limit lets through, and told
its writer of these and of no others. -/
structure PassEnd.TellsFirstFrames (done : PassEnd ρ) (profiler : Profiler) (sampler : Sampler)
    (stackList : List Stack) : Prop where
  named : stacksHeard profiler.directory sampler.settings.maxFrames.toNat sampler.names
    (answersOf (ownEvents done.journal)) (walksOf (ownEvents done.journal)) =
      (stackList, done.sampler.names, [])
  shown : stackList.map Stack.shown = (walksOf (ownEvents done.journal)).map
    (Walked.shown profiler.directory sampler.settings.maxFrames.toNat)
  written : publishedIn done.journal =
    [((Wire.Writer.ofCapacity sampler.settings.bufferCapacity.toNat).openBatch.run
      (callsOf stackList)).finish]

theorem answers_of_own_events (journal : Array Event) :
    answersOf (ownEvents journal) = (entriesHeeded journal).filter Event.isAnswer := by
  rw [answersOf, ownEvents, entriesHeeded, List.filter_filter, List.filter_filter]
  apply List.filter_congr
  intro event _
  cases event <;> rfl

theorem answers_of_conclude (profiler : Profiler) (sampler : Sampler) (tally : Tally)
    (window : Window ρ) :
    answersOf (ownEvents (Sampler.conclude profiler sampler tally window).journal) =
      answersOf window.world.own := by
  obtain ⟨report, stored, -, -, own⟩ := Sampler.conclude_stepped profiler sampler tally window
  rw [own, answers_of_append, answers_of_others (not_is_walk_aftermath _ _ _), List.append_nil]

section Ends

variable {same : ρ → ρ → Prop} {maxFrames : Nat} {first second : World ρ}
  (traces : TracesAlike maxFrames first second)
include traces

theorem TracesAlike.filterMap_journal {α : Type} {pick : Event → Option α}
    (unpicked : ∀ event, event.isRefusal = true → pick event = none) :
    first.journal.toList.filterMap pick = second.journal.toList.filterMap pick := by
  rw [← filterMap_entries_heeded unpicked, traces.entries, filterMap_entries_heeded unpicked]

theorem TracesAlike.answers_of_own : answersOf first.own = answersOf second.own := by
  rw [World.own, answers_of_own_events, traces.entries, ← answers_of_own_events, ← World.own]

theorem TracesAlike.acts_eq : actsOf first.journal = actsOf second.journal := by
  have heeded (journal : Array Event) :
      actsOf journal = (entriesHeeded journal).filter Event.isAct := by
    rw [entriesHeeded, List.filter_filter, actsOf]
    congr 1
    funext event
    cases refusal : event.isRefusal with
    | false => exact (Bool.and_true _).symm
    | true =>
        cases event with
        | offered _ _ verdict =>
            cases verdict with
            | more => cases refusal
            | enough => rfl
        | _ => cases refusal
  rw [heeded, heeded, traces.entries]

theorem TracesAlike.panics_eq : panicsOf first.journal = panicsOf second.journal := by
  apply traces.filterMap_journal
  intro event refusal
  cases event with
  | offered method context verdict => rfl
  | _ => cases refusal

end Ends

section Passes

variable {same : ρ → ρ → Prop} {maxFrames : Nat} {heeding heedless : Host ρ}
  {alike : WalkersAlike same heeding heedless} {window windowOther : Window ρ}
  (beside : (cutPairing alike maxFrames).Beside window windowOther)
  (profiler : Profiler) (sampler : Sampler) (tally tallyOther : Tally)
include beside

theorem Sampler.abandon_cut_from (crash : Crash) :
    (abandon profiler sampler crash tally window).CutFrom maxFrames
      (abandon profiler sampler crash tallyOther windowOther) := by
  have worlds : WorldsCut same maxFrames window.world windowOther.world := beside.worlds
  have traces := worlds.toTracesAlike
  refine ⟨captures_eq_of_acts traces.acts_eq, traces.mailbox, traces.answers_of_own, ?_, rfl,
    traces.panics_eq, traces.walks⟩
  have names : window.names = windowOther.names := beside.names
  rw [abandon, abandon, names, beside.threads]

theorem Sampler.conclude_cut_from :
    (conclude profiler sampler tally window).CutFrom maxFrames
      (conclude profiler sampler tallyOther windowOther) := by
  have worlds : WorldsCut same maxFrames window.world windowOther.world := beside.worlds
  have traces := worlds.toTracesAlike
  have names : window.names = windowOther.names := beside.names
  have alikeWorlds : WorldsAlike same window.world windowOther.world :=
    ⟨worlds.host, congrArg Mailbox.slots traces.mailbox, traces.acts_eq⟩
  refine ⟨?_, ?_, ?_, ?_, ?_, ?_, ?_⟩
  · exact captures_eq_of_acts (acts_of_conclude alikeWorlds _ _ _ _ _ _ beside.writer)
  · change (window.world.mailbox.publish window.writer.closeBatch.finish).2 =
      (windowOther.world.mailbox.publish windowOther.writer.closeBatch.finish).2
    rw [traces.mailbox, beside.writer]
  · rw [answers_of_conclude, answers_of_conclude]
    exact traces.answers_of_own
  · change { sampler with names := window.names, threads := window.threads } =
      { sampler with names := windowOther.names, threads := windowOther.threads }
    rw [names, beside.threads]
  · exact untimed_conclude alikeWorlds _ _ _ _ _ _ beside.writer beside.report
  · rw [panicsOf, panicsOf, filterMap_conclude fun _ => rfl, filterMap_conclude fun _ => rfl]
    exact congrArg (· ++ []) traces.panics_eq
  · rw [walks_of_conclude, walks_of_conclude]
    exact traces.walks

end Passes

theorem Sampler.pass_cut_from {heeding heedless : Host ρ} {same : ρ → ρ → Prop}
    (alike : WalkersAlike same heeding heedless) (profiler : Profiler) (sampler : Sampler)
    {host hostOther : ρ} (hosts : same host hostOther) :
    (sampler.pass heeding profiler host).CutFrom sampler.settings.maxFrames.toNat
      (sampler.pass heedless profiler hostOther) := by
  cases room : profiler.mailbox.hasRoom with
  | false =>
      rw [pass, pass, if_neg (by simp [room]), if_neg (by simp [room])]
      exact ⟨rfl, rfl, rfl, rfl, rfl, rfl, rfl⟩
  | true =>
      have begun : WorldsCut same sampler.settings.maxFrames.toNat
          (sampler.window profiler host).world (sampler.window profiler hostOther).world :=
        ⟨⟨rfl, rfl, rfl⟩, hosts⟩
      obtain ⟨window, windowOther, tally, tallyOther, beside, ended⟩ :=
        pass_beside (cut_pairing_follows alike) room room rfl rfl (fun _ => rfl) rfl begun
      rcases ended with ⟨done, doneOther⟩ | ⟨crash, done, doneOther⟩
      · rw [done, doneOther]
        exact conclude_cut_from beside profiler sampler tally tallyOther
      · rw [done, doneOther]
        exact abandon_cut_from beside profiler sampler tally tallyOther crash

/-- What a pass that finds room and hears no panic tells its writer of. -/
theorem Sampler.pass_tells_first_frames (api : Host ρ) {profiler : Profiler} (sampler : Sampler)
    (host : ρ) (room : profiler.mailbox.hasRoom = true)
    (calm : panicsOf (sampler.pass api profiler host).journal = []) :
    ∃ report stackList, (sampler.pass api profiler host).result = .ok (some report) ∧
      (sampler.pass api profiler host).TellsFirstFrames profiler sampler stackList := by
  obtain ⟨window, ran, held, concluded⟩ := sampler.pass_of_calm api host room calm
  have returned := Window.run_returned api sampler.settings profiler.directory profiler.tally
    (sampler.window_outside profiler host) (congrArg Prod.fst ran) rfl
  rw [ran] at returned
  obtain ⟨stackList, heard, shown, writer⟩ :=
    returned.exists_tells_stacks (sampler.own_window profiler host)
  rw [concluded]
  refine ⟨_, stackList, rfl, ?_, ?_, ?_⟩
  · have whole := heard []
    rw [List.append_nil] at whole
    rw [answers_of_conclude, walks_of_conclude]
    exact whole
  · rw [walks_of_conclude]
    exact shown
  · rw [publishedIn, captures_of_conclude_held held, Wire.Writer.finish_close_batch]
    exact congrArg (fun writer : Wire.Writer => [writer.finish]) writer

theorem stacks_heard_map_cut_at (directory : Directory) {limit maxFrames : Nat}
    (enough : maxFrames ≤ limit) (names : RecentNames) (answers : List Event)
    (walks : List Walked) :
    stacksHeard directory maxFrames names answers (walks.map (Walked.cutAt limit)) =
      stacksHeard directory maxFrames names answers walks := by
  induction walks generalizing names answers with
  | nil => rfl
  | cons walk walks induction =>
      have first : (walk.cutAt limit).visits.take maxFrames = walk.visits.take maxFrames := by
        rw [Walked.cutAt, List.take_take, Nat.min_eq_left enough]
      rw [List.map_cons, stacksHeard, stacksHeard, first]
      dsimp only
      rw [induction]
      rfl

theorem shown_cut_at (directory : Directory) {limit maxFrames : Nat} (enough : maxFrames ≤ limit)
    (walk : Walked) :
    (walk.cutAt limit).shown directory maxFrames = walk.shown directory maxFrames := by
  rw [Walked.shown, Walked.shown, Walked.cutAt, List.take_take, Nat.min_eq_left enough]

theorem PassEnd.CutFrom.tells_first_frames_of_whole {cut whole : PassEnd ρ} {profiler : Profiler}
    {sampler : Sampler} {stackList : List Stack}
    (cutFrom : cut.CutFrom sampler.settings.maxFrames.toNat whole)
    (tells : whole.TellsFirstFrames profiler sampler stackList) :
    cut.TellsFirstFrames profiler sampler stackList := by
  have enough := Nat.le_succ sampler.settings.maxFrames.toNat
  refine ⟨?_, ?_, ?_⟩
  · rw [cutFrom.answers, cutFrom.walks, cutFrom.sampler, stacks_heard_map_cut_at _ enough]
    exact tells.named
  · rw [cutFrom.walks, List.map_map, tells.shown]
    exact List.map_congr_left fun walk _ => (shown_cut_at _ enough walk).symm
  · rw [publishedIn, cutFrom.captures]
    exact tells.written

/-- Two passes that differ in whether the walks stop where they are told to publish the same bytes,
ask the same of the metadata source and hear the same from it, leave the same cache behind, and make
the same report up to the measured time, whatever the depth limit, the threads and their frames are,
and wherever the buffer gets full. Where nothing panics both passes return a report, and both have
named the first frames of each walk and told their writers of these, as many as the limit lets
through and no others, whether the writer took them or not. -/
theorem depth_cut_needs_no_heed {heeding heedless : Host ρ} {same : ρ → ρ → Prop}
    (alike : WalkersAlike same heeding heedless) (profiler : Profiler) (sampler : Sampler)
    {host hostOther : ρ} (hosts : same host hostOther) :
    let cut := sampler.pass heeding profiler host
    let whole := sampler.pass heedless profiler hostOther
    cut.CutFrom sampler.settings.maxFrames.toNat whole ∧
      (profiler.mailbox.hasRoom = true → panicsOf whole.journal = [] →
        ∃ report reportOther stackList,
          cut.result = .ok (some report) ∧ whole.result = .ok (some reportOther) ∧
            report.untimed = reportOther.untimed ∧
            cut.TellsFirstFrames profiler sampler stackList ∧
            whole.TellsFirstFrames profiler sampler stackList) := by
  intro cut whole
  have cutFrom : cut.CutFrom sampler.settings.maxFrames.toNat whole :=
    sampler.pass_cut_from alike profiler hosts
  refine ⟨cutFrom, ?_⟩
  intro room calm
  obtain ⟨reportOther, stackList, returned, tells⟩ :=
    sampler.pass_tells_first_frames heedless hostOther room calm
  obtain ⟨report, -, returnedCut, -⟩ :=
    sampler.pass_tells_first_frames heeding host room (cutFrom.panics.trans calm)
  have reports := cutFrom.report
  rw [PassEnd.untimed, PassEnd.untimed, returned, returnedCut] at reports
  exact ⟨report, reportOther, stackList, returnedCut, returned,
    Option.some.inj (Except.ok.inj reports), cutFrom.tells_first_frames_of_whole tells, tells⟩

def Walk.visiting (heeds : Bool) (answer : ρ → Answer ρ) : List Visit → ρ → Walk ρ
  | [], host => .finish (answer host)
  | (method, context) :: visits, host =>
      .offer method context host fun verdict host =>
        if heeds ∧ verdict = .enough then .finish (answer host)
        else visiting heeds answer visits host

def Host.visiting (api : Host ρ) (heeds : Bool) (visits : ThreadHandle → ρ → List Visit)
    (answer : ThreadHandle → ρ → Answer ρ) : Host ρ :=
  { api with walk := fun thread host => .visiting heeds (answer thread) (visits thread host) host }

theorem Walk.visiting_runs_out (answer : ρ → Answer ρ) (visits : List Visit) (host : ρ) :
    RunsOut Eq (answer host) (.visiting false answer visits host) := by
  induction visits with
  | nil => exact .finish ⟨rfl, rfl, rfl⟩
  | cons visit visits induction => exact .offer induction

theorem Walk.visiting_cut_alike (answer : ρ → Answer ρ) (visits : List Visit) (host : ρ) :
    CutAlike Eq (.visiting true answer visits host) (.visiting false answer visits host) := by
  induction visits generalizing host with
  | nil => exact .finish ⟨rfl, rfl, rfl⟩
  | cons visit visits induction =>
      refine .offer rfl ?_ rfl (visiting_runs_out answer visits host)
      rintro first _ rfl
      exact induction first

theorem Host.visiting_walkers_alike (api : Host ρ) (visits : ThreadHandle → ρ → List Visit)
    (answer : ThreadHandle → ρ → Answer ρ) :
    WalkersAlike Eq (api.visiting true visits answer) (api.visiting false visits answer) where
  suspend := by
    rintro host _ rfl
    exact ⟨rfl, rfl, rfl⟩
  threads := by
    rintro host _ rfl
    exact ⟨rfl, rfl, rfl, rfl⟩
  walk := by
    rintro thread host _ rfl
    exact Walk.visiting_cut_alike (answer thread) (visits thread host) host
  resume := by
    rintro host _ rfl
    exact ⟨rfl, rfl, rfl⟩
  describe := by
    rintro method context host _ rfl
    exact ⟨rfl, rfl⟩
  typeName := by
    rintro classId host _ rfl
    exact ⟨rfl, rfl⟩

def deepHost (heeds : Bool) : Host Unit :=
  failingHost.visiting heeds (fun _ _ => [(⟨10⟩, ⟨1⟩), (⟨20⟩, ⟨2⟩), (⟨30⟩, ⟨3⟩), (⟨10⟩, ⟨4⟩)])
    fun _ _ => ⟨.error ⟨-1⟩, (), []⟩

def crampedProfiler : Profiler :=
  { smallProfiler with settings := { bufferCapacity := 60, maxFrames := 2 } }

theorem depth_cut_needs_no_heed_deep_host :
    let cut := crampedProfiler.sampler.pass (deepHost true) crampedProfiler ()
    let whole := crampedProfiler.sampler.pass (deepHost false) crampedProfiler ()
    (walksOf (ownEvents cut.journal)).map (·.visits.length) = [3, 3] ∧
      (walksOf (ownEvents whole.journal)).map (·.visits.length) = [4, 4] ∧
      cut.CutFrom 2 whole ∧
      ∃ report stackList, cut.result = .ok (some report) ∧
        cut.TellsFirstFrames crampedProfiler crampedProfiler.sampler stackList ∧
        whole.TellsFirstFrames crampedProfiler crampedProfiler.sampler stackList := by
  intro cut whole
  have visited : (walksOf (ownEvents cut.journal)).map (·.visits.length) = [3, 3] := by
    decide +kernel
  have visitedWhole : (walksOf (ownEvents whole.journal)).map (·.visits.length) = [4, 4] := by
    decide +kernel
  have room : crampedProfiler.mailbox.hasRoom = true := by decide +kernel
  have calm : panicsOf whole.journal = [] := by decide +kernel
  obtain ⟨cutFrom, tells⟩ := depth_cut_needs_no_heed (failingHost.visiting_walkers_alike _ _)
    crampedProfiler crampedProfiler.sampler (rfl : () = ())
  obtain ⟨report, _, stackList, returned, -, -, told, toldWhole⟩ := tells room calm
  exact ⟨visited, visitedWhole, cutFrom, report, stackList, returned, told, toldWhole⟩

end StackSampler
