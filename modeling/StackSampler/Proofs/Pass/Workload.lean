import StackSampler.Proofs.Method.Inclusion
import StackSampler.Proofs.Pass.Transparency
import StackSampler.Proofs.Pass.Upkeep

/-!
# The work that names cost a pass

A pass names the frames that its walks were told to go on from, in that order, and asks its host
what serving them asks. So the work that it does while the host is frozen follows from the frames
that its sampler has seen, and a sampler that may keep more names never does more of it.
-/

namespace StackSampler

variable {ρ : Type}

def Event.named? : Event → Option Visit
  | .offered method context .more => some (method, context)
  | _ => none

def framesNamed (events : List Event) : List Visit := events.filterMap Event.named?

theorem frames_named_eq_of_acts {journal other : Array Event}
    (acts : actsOf journal = actsOf other) :
    framesNamed (ownEvents journal) = framesNamed (ownEvents other) := by
  have unnamed (event : Event) (hidden : event.isAct = false) : event.named? = none := by
    cases event with
    | offered _ _ verdict =>
        cases verdict with
        | more => cases hidden
        | enough => rfl
    | _ => rfl
  have shared (event : Event) (hidden : (!event.isShared) = false) : event.named? = none := by
    cases event with
    | shared _ _ => rfl
    | _ => cases hidden
  have shown (journal : Array Event) :
      framesNamed (ownEvents journal) = (actsOf journal).filterMap Event.named? :=
    (filterMap_filter_of_unpicked shared _).trans (filterMap_filter_of_unpicked unnamed _).symm
  rw [shown, shown, acts]

structure Event.Unnaming (event : Event) : Prop where
  named : event.named? = none
  question : event.question? = none

structure ShowsServing (api : Host ρ) (start : RecentNames) (requests : List (NameRequest ρ))
    (events : List Event) (names : RecentNames) : Prop where
  wanted : requests.map NameRequest.wanted = framesNamed events
  asked : questionsOf events = (start.serveAll api.metadata requests).1.flatMap Lookup.asked
  names : names = (start.serveAll api.metadata requests).2

section ShowsServing

variable {api : Host ρ} {start names : RecentNames} {requests : List (NameRequest ρ)}
  {events later : List Event}

theorem shows_serving_nil (api : Host ρ) (start : RecentNames) :
    ShowsServing api start [] [] start :=
  ⟨rfl, rfl, rfl⟩

theorem ShowsServing.shows_serving_append (shows : ShowsServing api start requests events names)
    (unnaming : ∀ event ∈ later, event.Unnaming) :
    ShowsServing api start requests (events ++ later) names := by
  have frames : later.filterMap Event.named? = [] :=
    List.filterMap_eq_nil_iff.mpr fun event member => (unnaming event member).named
  have questions : later.filterMap Event.question? = [] :=
    List.filterMap_eq_nil_iff.mpr fun event member => (unnaming event member).question
  obtain ⟨wanted, asked, kept⟩ := shows
  refine ⟨?_, ?_, kept⟩
  · rw [framesNamed, List.filterMap_append, frames, List.append_nil]
    exact wanted
  · rw [questionsOf, List.filterMap_append, questions, List.append_nil]
    exact asked

end ShowsServing

namespace Window

/-- Whether the entries of a window show what it took to serve the frames that it named, with the
names that there were at its start. -/
def Serves (api : Host ρ) (start : RecentNames) (window : Window ρ) : Prop :=
  ∃ requests, ShowsServing api start requests window.world.own window.names

variable {api : Host ρ} {start : RecentNames} {window next : Window ρ}

theorem Serves.serves_of_continues (serves : window.Serves api start) {events : List Event}
    (grown : World.Continues window.world next.world events)
    (unnaming : ∀ event ∈ events, event.Unnaming) (names : next.names = window.names) :
    next.Serves api start := by
  obtain ⟨requests, shows⟩ := serves
  refine ⟨requests, ?_⟩
  rw [grown, names]
  exact shows.shows_serving_append unnaming

theorem Serves.serves_of_entry (serves : window.Serves api start) {event : Event}
    (grown : World.Continues window.world next.world [event]) (unnaming : event.Unnaming)
    (names : next.names = window.names) : next.Serves api start :=
  serves.serves_of_continues grown (by simpa using unnaming) names

theorem Serves.serves_record (serves : window.Serves api start) (host : ρ) (method : MethodId)
    (context : WalkContext) :
    ((window.hear host (.offered method context .more)).record api method context).2.Serves api
      start := by
  obtain ⟨requests, wanted, asked, kept⟩ := serves
  obtain ⟨world, names, threads, writer, report⟩ := window
  dsimp only at wanted asked kept
  rw [hear, Window.record]
  dsimp only
  have shown : (World.note { world with host } (.offered method context .more)).own =
      world.own ++ [.offered method context .more] := World.own_note _ rfl
  have frames : framesNamed _ = framesNamed _ :=
    filterMap_own_resolve (fun _ _ _ => rfl) (fun _ _ => rfl) api names method context
      (World.note { world with host } (.offered method context .more))
  obtain ⟨-, next, questions⟩ := RecentNames.resolve_eq_serve (World.notes_metadata api) names
    method context (World.note { world with host } (.offered method context .more))
  rw [shown] at frames questions
  generalize names.resolve (World.metadata api) method context
    (World.note { world with host } (.offered method context .more)) = found
    at frames next questions ⊢
  obtain ⟨outcome, namesLeft, worldLeft⟩ := found
  have shows : ShowsServing api start (requests ++ [⟨method, context, host⟩]) worldLeft.own
      namesLeft := by
    refine ⟨?_, ?_, ?_⟩
    · rw [frames, framesNamed, List.filterMap_append, List.map_append, wanted]
      rfl
    · rw [questions, questions_of_concat, asked, RecentNames.serve_all_concat,
        List.flatMap_append, List.flatMap_singleton, ← kept]
      exact congrArg (· ++ _) (List.append_nil _)
    · rw [kept] at next
      rw [RecentNames.serve_all_concat]
      exact next
  cases outcome with
  | ok name => exact ⟨_, shows⟩
  | error panic => exact ⟨_, shows⟩

def servesUpkeep (api : Host ρ) (settings : Settings) (directory : Directory)
    (start : RecentNames) : Upkeep api settings directory where
  between := Window.Serves api start
  inside _ := Window.Serves api start
  broken _ := Window.Serves api start
  lists {window} serves := by
    have grown := window.world.own_threads api
    rw [listing]
    cases (window.world.threads api).2.1 <;> exact serves.serves_of_entry grown ⟨rfl, rfl⟩ rfl
  begins {window} thread serves :=
    serves.serves_of_entry (window.walking_continues directory thread) ⟨rfl, rfl⟩ rfl
  hears {window _} host method context _ serves :=
    serves.serves_of_entry (window.hear_continues host method context .enough) ⟨rfl, rfl⟩ rfl
  records host method context _ serves :=
    .ends_of_always (serves.serves_record host method context) fun _ _ => id
  ends {window _} answer serves := by
    obtain ⟨stepped, same⟩ := window.end_walk_stepped answer
    have ended : (window.endWalk answer).2.Serves api start :=
      serves.serves_of_entry stepped.continues ⟨rfl, rfl⟩ (congrArg Telling.names same)
    exact .ends_of_always ended fun _ _ => id

theorem Serves.serves_run (serves : window.Serves api start)
    (outside : window.writer.phase ≠ .inSample) (settings : Settings) (directory : Directory)
    (tally : Tally) :
    (window.run api settings directory tally).2.2.Serves api start := by
  have suspending := window.world.own_suspend api
  rcases suspended : window.world.suspend api with ⟨reply, world⟩
  rw [suspended] at suspending
  have frozen : ({ window with world } : Window ρ).Serves api start :=
    serves.serves_of_entry suspending ⟨rfl, rfl⟩ rfl
  cases reply with
  | panic message =>
      rw [Window.run, suspended]
      exact frozen
  | error error =>
      rw [Window.run, suspended]
      exact frozen
  | ok value =>
      have sampled := (servesUpkeep api settings directory start).upkeep_sample_all frozen outside
      rcases done : ({ window with world } : Window ρ).sampleAll api settings directory with
        ⟨outcome, left⟩
      rw [done] at sampled
      obtain ⟨result, counted, report, ran, -, -⟩ :=
        run_resumes api settings directory tally suspended done
      rw [ran]
      have kept : left.Serves api start := by
        cases outcome with
        | ok value => exact sampled.1
        | error panic => exact sampled
      exact kept.serves_of_entry (left.world.own_resume api) ⟨rfl, rfl⟩ rfl

end Window

/-- However a pass ends, it shows what it took to serve the frames that it named. -/
theorem Sampler.pass_serves (api : Host ρ) (profiler : Profiler) (sampler : Sampler) (host : ρ) :
    ∃ requests, ShowsServing api sampler.names requests
      (ownEvents (sampler.pass api profiler host).journal)
      (sampler.pass api profiler host).sampler.names := by
  cases room : profiler.mailbox.hasRoom with
  | false =>
      rw [pass, room]
      exact ⟨[], shows_serving_nil api sampler.names⟩
  | true =>
      have begun : (sampler.window profiler host).Serves api sampler.names :=
        ⟨[], shows_serving_nil api sampler.names⟩
      have served := begun.serves_run (sampler.window_outside profiler host) sampler.settings
        profiler.directory profiler.tally
      rw [pass_eq api sampler host room]
      rcases ran : (sampler.window profiler host).run api sampler.settings profiler.directory
        profiler.tally with ⟨crash | value, tally, window⟩
      · rw [ran] at served
        exact served
      · rw [ran] at served
        obtain ⟨requests, shows⟩ := served
        obtain ⟨report, stored, -, -, own⟩ := conclude_stepped profiler sampler tally window
        refine ⟨requests, ?_⟩
        dsimp only
        rw [own]
        apply shows.shows_serving_append
        intro event member
        rcases List.mem_cons.mp member with rfl | logged
        · exact ⟨rfl, rfl⟩
        · obtain ⟨line, -, rfl⟩ := List.mem_map.mp logged
          exact ⟨rfl, rfl⟩

/-- Whether a sampler was made with some settings and has named some frames since then, in any
number of passes. -/
inductive Sampler.Seen (api : Host ρ) (settings : Settings) : List Visit → Sampler → Prop where
  | fresh : Seen api settings [] (.ofSettings settings)
  | pass {visits : List Visit} (session : Session ρ)
      (seen : Seen api settings visits session.sampler) :
      Seen api settings (visits ++ framesNamed (ownEvents (session.pass api).journal))
        (session.pass api).sampler

/-- The names of a sampler are what serving the frames leaves that it has seen. -/
theorem Sampler.Seen.names_of_seen {api : Host ρ} {settings : Settings} {visits : List Visit}
    {sampler : Sampler} (seen : sampler.Seen api settings visits) :
    ∃ requests : List (NameRequest ρ), requests.map NameRequest.wanted = visits ∧
      sampler.names = ((RecentNames.ofCapacity settings.nameCapacity.toNat).serveAll api.metadata
        requests).2 := by
  induction seen with
  | fresh => exact ⟨[], rfl, rfl⟩
  | @pass visits session seen induction =>
      obtain ⟨requests, wanted, names⟩ := induction
      obtain ⟨later, wantedLater, -, namesLater⟩ :=
        session.sampler.pass_serves api session.profiler session.host
      refine ⟨requests ++ later, ?_, ?_⟩
      · rw [List.map_append, wanted, wantedLater]
        rfl
      · rw [Session.pass, namesLater, names, RecentNames.serve_all_append]

/-- Whether one session makes a pass that does no more for names than that of another one. -/
structure Session.Spares (api : Host ρ) (less more : Session ρ) : Prop where
  misses : (less.pass api).sampler.names.misses - less.sampler.names.misses ≤
    (more.pass api).sampler.names.misses - more.sampler.names.misses
  evictions : (less.pass api).sampler.names.evictions - less.sampler.names.evictions ≤
    (more.pass api).sampler.names.evictions - more.sampler.names.evictions
  asked : (questionsOf (ownEvents (less.pass api).journal)).Sublist
    (questionsOf (ownEvents (more.pass api).journal))

theorem Session.spares_of_seen {api : Host ρ} (calm : api.metadata.Calm)
    (constant : api.metadata.Constant) {settings widened : Settings}
    (bound : settings.nameCapacity ≤ widened.nameCapacity) {visits : List Visit}
    {session wide : Session ρ} (seen : session.sampler.Seen api settings visits)
    (seenWide : wide.sampler.Seen api widened visits)
    (same : framesNamed (ownEvents (session.pass api).journal) =
      framesNamed (ownEvents (wide.pass api).journal)) :
    wide.Spares api session := by
  obtain ⟨requests, wanted, names⟩ := seen.names_of_seen
  obtain ⟨others, wantedWide, namesWide⟩ := seenWide.names_of_seen
  obtain ⟨later, wantedLater, asked, namesLater⟩ :=
    session.sampler.pass_serves api session.profiler session.host
  obtain ⟨laterWide, wantedLaterWide, askedWide, namesLaterWide⟩ :=
    wide.sampler.pass_serves api wide.profiler wide.host
  have spares := RecentNames.spares_serve_all_later calm constant (UInt64.le_iff_toNat_le.mp bound)
    (wanted.trans wantedWide.symm)
    ((wantedLater.trans same).trans wantedLaterWide.symm)
  rw [← names, ← namesWide] at spares
  obtain ⟨misses, evictions, questions⟩ := Lookup.totals_of_spares spares
  obtain ⟨missed, evicted⟩ := RecentNames.counted_serve_all api.metadata session.sampler.names later
  obtain ⟨missedWide, evictedWide⟩ :=
    RecentNames.counted_serve_all api.metadata wide.sampler.names laterWide
  rw [← namesLater] at missed evicted
  rw [← namesLaterWide] at missedWide evictedWide
  refine ⟨?_, ?_, ?_⟩
  · rw [Session.pass, Session.pass, missed, missedWide]
    omega
  · rw [Session.pass, Session.pass, evicted, evictedWide]
    omega
  · rw [← asked, ← askedWide] at questions
    exact questions

/-- Two caches that serve the same requests, of a source that never panics and whose answers follow
from what it is asked: at every point the larger one holds all that the smaller one does. Each
request that the smaller one finds cached is cached in the larger one, each one that makes the
larger one evict a name makes the smaller one do so, and what the larger one asks the smaller one
asks as well. So a sampler that may keep more names does no more work for them in any pass, as long
as it is shown the same frames. -/
theorem larger_caches_ask_less {source : Metadata ρ} (calm : source.Calm)
    (constant : source.Constant) {capacity larger : Nat} (bound : capacity ≤ larger)
    {requests others : List (NameRequest ρ)}
    (same : requests.map NameRequest.wanted = others.map NameRequest.wanted) :
    let small := (RecentNames.ofCapacity capacity).serveAll source requests
    let large := (RecentNames.ofCapacity larger).serveAll source others
    (∀ method, small.2.contains method = true → large.2.contains method = true) ∧
    List.Forall₂ Lookup.Spares large.1 small.1 ∧
    large.2.misses ≤ small.2.misses ∧ large.2.evictions ≤ small.2.evictions ∧
    (large.1.flatMap Lookup.asked).Sublist (small.1.flatMap Lookup.asked) ∧
    ∀ api : Host ρ, api.metadata = source → ∀ settings widened : Settings,
      settings.nameCapacity ≤ widened.nameCapacity → ∀ visits (session wide : Session ρ),
      session.sampler.Seen api settings visits → wide.sampler.Seen api widened visits →
      framesNamed (ownEvents (session.pass api).journal) =
        framesNamed (ownEvents (wide.pass api).journal) → wide.Spares api session := by
  intro small large
  have spares : List.Forall₂ Lookup.Spares large.1 small.1 :=
    RecentNames.spares_serve_all calm constant bound same
  obtain ⟨misses, evictions, asked⟩ := Lookup.totals_of_spares spares
  obtain ⟨missed, evicted⟩ :=
    RecentNames.counted_serve_all source (RecentNames.ofCapacity capacity) requests
  obtain ⟨missedLarge, evictedLarge⟩ :=
    RecentNames.counted_serve_all source (RecentNames.ofCapacity larger) others
  refine ⟨?_, spares, ?_, ?_, asked, ?_⟩
  · exact (RecentNames.behind_serve_all source capacity requests).contains_of_smaller
      (RecentNames.behind_serve_all source larger others)
      (RecentNames.resolved_serve_all calm _ requests)
      (RecentNames.resolved_serve_all calm _ others) bound same
  · rw [missed, missedLarge]
    exact Nat.add_le_add_left misses _
  · rw [evicted, evictedLarge]
    exact Nat.add_le_add_left evictions _
  · rintro api rfl settings widened wider visits session wide seen seenWide frames
    exact Session.spares_of_seen calm constant wider seen seenWide frames

/-- A cache for one name looks the first method up again, and one for two names does not. -/
theorem larger_caches_ask_less_counting_host :
    let requests : List (NameRequest Nat) := [⟨⟨1⟩, ⟨10⟩, 0⟩, ⟨⟨2⟩, ⟨20⟩, 2⟩, ⟨⟨1⟩, ⟨30⟩, 4⟩]
    let others : List (NameRequest Nat) := [⟨⟨1⟩, ⟨10⟩, 7⟩, ⟨⟨2⟩, ⟨20⟩, 7⟩, ⟨⟨1⟩, ⟨30⟩, 7⟩]
    let small := (RecentNames.ofCapacity 1).serveAll countingHost.metadata requests
    let large := (RecentNames.ofCapacity 2).serveAll countingHost.metadata others
    countingHost.metadata.Calm ∧ countingHost.metadata.Constant ∧
      requests.map NameRequest.wanted = others.map NameRequest.wanted ∧
      small.2.contains ⟨1⟩ = true ∧ large.2.contains ⟨1⟩ = true ∧
      large.2.misses ≤ small.2.misses ∧ small.2.misses = 3 ∧ large.2.misses = 2 ∧
      (countingSession 2).Spares countingHost (countingSession 1) := by
  intro requests others small large
  have calm : countingHost.metadata.Calm := by
    refine ⟨fun _ _ _ _ => nofun, fun classId asked message => ?_⟩
    rw [counting_answers_given_by.typeName]
    cases countingAnswers.typeName classId <;> exact nofun
  have constant : countingHost.metadata.Constant := ⟨fun _ _ _ _ => rfl, fun _ _ _ => rfl⟩
  have same : requests.map NameRequest.wanted = others.map NameRequest.wanted := rfl
  have cached : small.2.contains ⟨1⟩ = true := by
    rw [RecentNames.contains_serve_all_iff calm]
    decide
  let earlier := (RecentNames.ofCapacity 1).serveAll countingHost.metadata (requests.take 2)
  have evicted : earlier.2.contains ⟨1⟩ = false := by
    rw [← Bool.not_eq_true, RecentNames.contains_serve_all_iff calm]
    decide
  have three : small.2.misses = 3 := by
    have last := earlier.2.served_serve countingHost.metadata ⟨⟨1⟩, ⟨30⟩, 4⟩
    obtain ⟨two, -⟩ := RecentNames.counted_serve_all countingHost.metadata
      (RecentNames.ofCapacity 1) (requests.take 2)
    have absent : earlier.1.countP (!·.cached) = 2 := by decide +kernel
    have missed := last.counted_lookup.misses
    rw [last.lookup_cached, evicted, two, absent] at missed
    exact missed
  have frames : framesNamed (ownEvents ((countingSession 1).pass countingHost).journal) =
      framesNamed (ownEvents ((countingSession 2).pass countingHost).journal) := by
    have keeps (capacity : UInt64) :
        (countingSession capacity).sampler.KeepsNames {} countingAnswers :=
      Sampler.keeps_names_of_settings {} capacity countingAnswers
    obtain ⟨-, acts⟩ := Session.pass_alike counting_answers_given_by counting_host_behaves_alike
      (keeps 1) (keeps 2) (fun _ => rfl) rfl trivial
    exact frames_named_eq_of_acts acts
  obtain ⟨includes, -, misses, -, -, passes⟩ :=
    larger_caches_ask_less calm constant (Nat.le_succ 1) same
  exact ⟨calm, constant, same, cached, includes _ cached, misses, three, by decide +kernel,
    passes countingHost rfl _ _ (by decide) [] _ _ .fresh .fresh frames⟩

end StackSampler
