import Mathlib.Data.List.Induction
import StackSampler.Proofs.Method.LatestUsed
import StackSampler.Proofs.Method.Questions

/-!
# Serving requests from a cache

A cache serves one request after the other, and a log says what each of them took. Every request
finds the source in a state of its own, so between two requests the source may change its mind. A
panic that leaves a request is caught.
-/

namespace StackSampler

variable {σ : Type}

structure NameRequest (σ : Type) where
  method : MethodId
  context : WalkContext
  state : σ

def NameRequest.wanted (request : NameRequest σ) : MethodId × WalkContext :=
  (request.method, request.context)

structure Lookup where
  method : MethodId
  cached : Bool
  evicted : Bool
  asked : List Question
  outcome : Except Panic String

namespace Lookup

def use (lookup : Lookup) : Use := ⟨lookup.method, lookup.outcome⟩

def panicked (lookup : Lookup) : Bool := lookup.use.resolved?.isNone

end Lookup

namespace RecentNames

def nameOf (cache : RecentNames) (method : MethodId) : Option String :=
  cache.names[method]?.map CachedName.name

/-- Serves a request. What the source is asked is what a source notes that answers alike. -/
def serve (source : Metadata σ) (cache : RecentNames) (request : NameRequest σ) :
    Lookup × RecentNames :=
  let (outcome, next, _, asked) :=
    cache.resolve source.noting request.method request.context (request.state, [])
  let lookup :=
    { method := request.method
      cached := cache.contains request.method
      evicted := cache.evictions < next.evictions
      asked
      outcome }
  (lookup, next)

def serveAll (source : Metadata σ) (cache : RecentNames) :
    List (NameRequest σ) → List Lookup × RecentNames
  | [] => ([], cache)
  | request :: later =>
      let (lookup, next) := cache.serve source request
      let (log, left) := next.serveAll source later
      (lookup :: log, left)

/-- Serving a request is looking its method up in the source, and asks only for what is not
cached. -/
theorem serve_eq_resolve (source : Metadata σ) (cache : RecentNames) (request : NameRequest σ) :
    (cache.serve source request).1.outcome =
        (cache.resolve source request.method request.context request.state).1 ∧
      (cache.serve source request).2 =
        (cache.resolve source request.method request.context request.state).2.1 ∧
      (cache.serve source request).1.asked =
        if cache.names[request.method]?.isSome then []
        else source.asked request.method request.context request.state := by
  obtain ⟨outcome, next, -, asked⟩ :=
    source.notes_noting.noted_resolve cache request.method request.context (request.state, [])
  exact ⟨outcome, next, asked⟩

/-- Looking a method up in any source that notes its questions is serving a request. -/
theorem resolve_eq_serve {τ : Type} {seen : τ → σ} {noted : τ → List Question}
    {source : Metadata σ} {noting : Metadata τ} (notes : source.Notes seen noted noting)
    (cache : RecentNames) (method : MethodId) (context : WalkContext) (state : τ) :
    let served := cache.serve source ⟨method, context, seen state⟩
    let heard := cache.resolve noting method context state
    heard.1 = served.1.outcome ∧ heard.2.1 = served.2 ∧
      noted heard.2.2 = noted state ++ served.1.asked := by
  intro served heard
  obtain ⟨outcome, next, asked⟩ := serve_eq_resolve source cache ⟨method, context, seen state⟩
  obtain ⟨outcomeHeard, nextHeard, -, askedHeard⟩ := notes.noted_resolve cache method context state
  rw [asked]
  exact ⟨outcomeHeard.trans outcome.symm, nextHeard.trans next.symm, askedHeard⟩

theorem exists_outcome_serve {source : Metadata σ} (calm : source.Calm) (cache : RecentNames)
    (request : NameRequest σ) : ∃ name, (cache.serve source request).1.outcome = .ok name := by
  obtain ⟨name, named⟩ := calm.exists_name request.method request.context request.state
  rw [(serve_eq_resolve source cache request).1, RecentNames.resolve]
  cases cache.names[request.method]? with
  | some cached => exact ⟨cached.name, rfl⟩
  | none =>
      dsimp only
      generalize Naming.methodName source request.method request.context request.state = looked
        at named ⊢
      obtain ⟨outcome, left⟩ := looked
      cases named
      exact ⟨name, rfl⟩

/-- What it takes to serve a request, and what it does to the cache. -/
inductive Served (cache : RecentNames) (request : NameRequest σ) (asked : List Question) :
    Lookup → RecentNames → Prop where
  | hit (cached : CachedName) (found : cache.names[request.method]? = some cached) :
      Served cache request asked
        ⟨request.method, true, false, [], .ok cached.name⟩
        (cache.hit request.method cached)
  | miss (absent : cache.names[request.method]? = none) (name : String)
      (looked : LooksUp request.method request.context asked (.ok name)) :
      Served cache request asked
        ⟨request.method, false, cache.evictions < cache.miss.evictions, asked, .ok name⟩
        (cache.miss.keep request.method name)
  | panicked (absent : cache.names[request.method]? = none) (panic : Panic)
      (looked : LooksUp request.method request.context asked (.error panic)) :
      Served cache request asked
        ⟨request.method, false, cache.evictions < cache.miss.evictions, asked, .error panic⟩
        cache.miss

theorem served_serve (source : Metadata σ) (cache : RecentNames) (request : NameRequest σ) :
    Served cache request (source.asked request.method request.context request.state)
      (cache.serve source request).1 (cache.serve source request).2 := by
  obtain ⟨outcome, next, asked⟩ := serve_eq_resolve source cache request
  have looked := source.looks_up_asked request.method request.context request.state
  rw [serve, contains_eq] at outcome next asked ⊢
  generalize cache.resolve source.noting request.method request.context (request.state, []) = heard
    at outcome next asked ⊢
  obtain ⟨heardOutcome, heardNext, state, heardAsked⟩ := heard
  dsimp only at outcome next asked ⊢
  rw [outcome, next, asked, RecentNames.resolve]
  cases found : cache.names[request.method]? with
  | some cached =>
      have none : decide (cache.evictions < (cache.hit request.method cached).evictions) = false :=
        decide_eq_false (Nat.lt_irrefl _)
      dsimp only
      rw [none]
      exact .hit cached found
  | none =>
      dsimp only
      generalize Naming.methodName source request.method request.context request.state = named
        at looked ⊢
      obtain ⟨outcome, left⟩ := named
      cases outcome with
      | ok name => exact .miss found name looked
      | error panic => exact .panicked found panic looked

/-- What a cache evicts to make room for one name. -/
def victim? (cache : RecentNames) : Option MethodId :=
  if cache.capacity ≤ cache.size then cache.order.head? else none

def displaced? (cache : RecentNames) (method : MethodId) : Option MethodId :=
  if cache.contains method then none else cache.victim?

section Displaced

variable {cache : RecentNames} {method : MethodId}

theorem displaced_of_cached {cached : CachedName} (found : cache.names[method]? = some cached) :
    cache.displaced? method = none := by
  rw [displaced?, contains_eq, found]
  rfl

theorem displaced_of_absent (absent : cache.names[method]? = none) :
    cache.displaced? method = cache.victim? := by
  rw [displaced?, contains_eq, absent]
  rfl

end Displaced

theorem victim_append_roomy_order (cache : RecentNames) :
    cache.victim?.toList ++ cache.roomyOrder = cache.order := by
  rw [victim?, roomyOrder]
  split
  · cases cache.order <;> rfl
  · rfl

theorem head?_order (cache : RecentNames) :
    cache.order.head? = cache.uses.minEntry?.map Prod.snd := by
  rw [order, List.head?_map, head?_toList]

theorem InStep.contains_victim {cache : RecentNames} (inStep : cache.InStep) {victim : MethodId}
    (displaced : cache.victim? = some victim) : cache.contains victim = true := by
  rw [← inStep.mem_order, ← cache.victim_append_roomy_order, displaced]
  exact List.mem_cons_self

theorem InStep.contains_displaced {cache : RecentNames} (inStep : cache.InStep)
    {method victim : MethodId} (displaced : cache.displaced? method = some victim) :
    cache.contains victim = true ∧ cache.contains method = false := by
  rw [displaced?] at displaced
  cases known : cache.contains method with
  | true =>
      rw [known] at displaced
      cases displaced
  | false =>
      rw [known] at displaced
      exact ⟨inStep.contains_victim displaced, rfl⟩

theorem name_of_erase {cache next : RecentNames} {victim : MethodId}
    (erased : next.names = cache.names.erase victim) (method : MethodId) :
    next.nameOf method = if some victim = some method then none else cache.nameOf method := by
  by_cases same : victim = method
  · simp [nameOf, erased, same]
  · have apart : compare victim method ≠ .eq := mt Std.LawfulEqOrd.eq_of_compare same
    simp [nameOf, erased, Std.TreeMap.getElem?_erase, apart, same]

theorem name_of_insert {cache next : RecentNames} {method : MethodId} {cached : CachedName}
    (inserted : next.names = cache.names.insert method cached) (other : MethodId) :
    next.nameOf other = if method = other then some cached.name else cache.nameOf other := by
  by_cases same : method = other
  · simp [nameOf, inserted, same]
  · have apart : compare method other ≠ .eq := mt Std.LawfulEqOrd.eq_of_compare same
    simp [nameOf, inserted, Std.TreeMap.getElem?_insert, apart, same]

theorem name_of_hit (cache : RecentNames) (method : MethodId) (cached : CachedName)
    (other : MethodId) : (cache.hit method cached).nameOf other =
      if method = other then some cached.name else cache.nameOf other :=
  @name_of_insert cache _ _ { cached with lastUse := cache.clock + 1 } rfl other

theorem name_of_keep (cache : RecentNames) (method : MethodId) (name : String) (other : MethodId) :
    (cache.keep method name).nameOf other =
      if method = other then some name else cache.nameOf other :=
  @name_of_insert cache _ _ ⟨name, cache.clock⟩ rfl other

structure Without (cache : RecentNames) (victim? : Option MethodId) (next : RecentNames) :
    Prop where
  names : ∀ method,
    next.nameOf method = if victim? = some method then none else cache.nameOf method
  evictions : next.evictions = cache.evictions + victim?.toList.length

theorem without_evict (cache : RecentNames) : cache.Without cache.order.head? cache.evict := by
  rw [head?_order, evict]
  cases cache.uses.minEntry? with
  | none => exact ⟨fun _ => rfl, rfl⟩
  | some entry => exact ⟨name_of_erase rfl, rfl⟩

theorem without_make_room (cache : RecentNames) : cache.Without cache.victim? cache.makeRoom := by
  rw [makeRoom, victim?]
  split
  · exact cache.without_evict
  · exact ⟨fun _ => rfl, rfl⟩

theorem without_miss (cache : RecentNames) : cache.Without cache.victim? cache.miss := by
  obtain ⟨names, evictions⟩ :=
    without_make_room { cache with clock := cache.clock + 1, misses := cache.misses + 1 }
  exact ⟨names, evictions⟩

structure Counted (cache : RecentNames) (lookup : Lookup) (next : RecentNames) : Prop where
  hits : next.hits = cache.hits + lookup.cached.toNat
  misses : next.misses = cache.misses + (!lookup.cached).toNat
  evictions : next.evictions = cache.evictions + (cache.displaced? lookup.method).toList.length
  capacity : next.capacity = cache.capacity

theorem misses_miss (cache : RecentNames) :
    cache.miss.hits = cache.hits ∧ cache.miss.misses = cache.misses + 1 := by
  rcases make_room_cases { cache with clock := cache.clock + 1, misses := cache.misses + 1 } with
    same | ⟨use, victim, evictions, erased⟩
  · rw [miss, same]
    exact ⟨rfl, rfl⟩
  · rw [miss, erased]
    exact ⟨rfl, rfl⟩

section Served

variable {cache next : RecentNames} {request : NameRequest σ} {asked : List Question}
  {lookup : Lookup} (served : Served cache request asked lookup next)
include served

theorem Served.lookup_method : lookup.method = request.method := by
  cases served <;> rfl

theorem Served.lookup_cached : lookup.cached = cache.contains request.method := by
  rw [contains_eq]
  cases served with
  | hit cached found => rw [found]; rfl
  | miss absent => rw [absent]; rfl
  | panicked absent => rw [absent]; rfl

theorem Served.counted_lookup : Counted cache lookup next := by
  have missed := cache.misses_miss
  have evicted := cache.without_miss.evictions
  have capacity := cache.miss_cases.1
  cases served with
  | hit cached found =>
      refine ⟨rfl, rfl, ?_, rfl⟩
      rw [displaced_of_cached found]
      rfl
  | miss absent name =>
      refine ⟨missed.1, missed.2, ?_, capacity⟩
      rw [displaced_of_absent absent]
      exact evicted
  | panicked absent panic =>
      refine ⟨missed.1, missed.2, ?_, capacity⟩
      rw [displaced_of_absent absent]
      exact evicted

theorem Served.lookup_evicted : lookup.evicted = (cache.displaced? request.method).isSome := by
  have counts : lookup.evicted = decide (cache.evictions < next.evictions) := by
    cases served with
    | hit cached found => exact (decide_eq_false (Nat.lt_irrefl _)).symm
    | miss absent name => rfl
    | panicked absent panic => rfl
  rw [counts, served.counted_lookup.evictions, served.lookup_method]
  cases cache.displaced? request.method with
  | none => exact decide_eq_false (Nat.lt_irrefl _)
  | some victim => exact decide_eq_true (Nat.lt_succ_self _)

/-- A request changes nothing but the name of its method, and it may displace another one. -/
theorem Served.name_of_next (inStep : cache.InStep) (other : MethodId) :
    next.nameOf other =
      if cache.displaced? request.method = some other then none
      else if request.method = other then lookup.outcome.toOption
      else cache.nameOf other := by
  have missed := cache.without_miss.names other
  cases served with
  | hit cached found =>
      rw [displaced_of_cached found, name_of_hit]
      rfl
  | miss absent name =>
      rw [displaced_of_absent absent, name_of_keep, missed]
      by_cases same : request.method = other
      · have apart : cache.victim? ≠ some other := by
          intro victim
          have cached := inStep.contains_victim victim
          rw [contains_eq, ← same, absent] at cached
          cases cached
        rw [if_pos same, if_neg apart, if_pos same]
        rfl
      · rw [if_neg same, if_neg same]
  | panicked absent panic =>
      rw [displaced_of_absent absent, missed]
      by_cases same : request.method = other
      · have uncached : cache.nameOf other = none := by
          rw [nameOf, ← same, absent]
          rfl
        rw [uncached, if_pos same]
        rfl
      · rw [if_neg same]

/-- What is kept of a request is its name. -/
theorem Served.name_of_request (inStep : cache.InStep) :
    next.nameOf request.method = lookup.outcome.toOption := by
  have apart : cache.displaced? request.method ≠ some request.method := by
    intro displaced
    obtain ⟨cached, absent⟩ := inStep.contains_displaced displaced
    rw [absent] at cached
    cases cached
  rw [served.name_of_next inStep, if_neg apart, if_pos rfl]

theorem Served.of_cached (cached : cache.contains request.method = true) :
    lookup.asked = [] ∧ lookup.outcome.toOption = cache.nameOf request.method := by
  rw [contains_eq] at cached
  cases served with
  | hit entry found =>
      refine ⟨rfl, ?_⟩
      rw [nameOf, found]
      rfl
  | miss absent name => simp [absent] at cached
  | panicked absent panic => simp [absent] at cached

theorem Served.of_absent (absent : cache.contains request.method = false) :
    lookup.asked = asked ∧ LooksUp request.method request.context asked lookup.outcome := by
  rw [contains_eq] at absent
  cases served with
  | hit entry found => simp [found] at absent
  | miss _ name looked => exact ⟨rfl, looked⟩
  | panicked _ panic looked => exact ⟨rfl, looked⟩

end Served

theorem InStep.in_step_serve {cache : RecentNames} (inStep : cache.InStep) (source : Metadata σ)
    (request : NameRequest σ) :
    (cache.serve source request).2.InStep ∧
      Reordered cache (cache.serve source request).2 (cache.serve source request).1.use := by
  obtain ⟨outcome, next, -⟩ := serve_eq_resolve source cache request
  obtain ⟨kept, -, reordered⟩ :=
    inStep.in_step_resolve source request.method request.context request.state
  rw [← next] at kept reordered
  rw [← outcome] at reordered
  exact ⟨kept, reordered⟩

/-- A request displaces a name if its own one is missed and the cache is full. -/
theorem KeepsLatest.isSome_displaced {uses : List Use} {cache : RecentNames}
    (keeps : cache.KeepsLatest uses) (method : MethodId) :
    (cache.displaced? method).isSome = true ↔
      cache.contains method = false ∧ cache.size = cache.capacity := by
  have occupied := keeps.positive
  have bounded := keeps.bounded
  have counted := keeps.inStep.length_order
  rw [displaced?, victim?]
  cases cache.contains method with
  | true => simp
  | false =>
      by_cases full : cache.capacity ≤ cache.size
      · have oldest : cache.order.head?.isSome = true := by
          rw [List.isSome_head?]
          rintro none
          rw [none, List.length_nil] at counted
          omega
        rw [if_neg Bool.false_ne_true, if_pos full, oldest]
        exact ⟨fun _ => ⟨rfl, Nat.le_antisymm bounded full⟩, fun _ => rfl⟩
      · rw [if_neg Bool.false_ne_true, if_neg full]
        exact ⟨nofun, fun same => absurd (Nat.le_of_eq same.2.symm) full⟩

theorem serve_all_cons (source : Metadata σ) (cache : RecentNames) (request : NameRequest σ)
    (later : List (NameRequest σ)) :
    cache.serveAll source (request :: later) =
      let run := (cache.serve source request).2.serveAll source later
      ((cache.serve source request).1 :: run.1, run.2) :=
  rfl

theorem serve_all_append (source : Metadata σ) (cache : RecentNames)
    (requests later : List (NameRequest σ)) :
    cache.serveAll source (requests ++ later) =
      ((cache.serveAll source requests).1 ++
          ((cache.serveAll source requests).2.serveAll source later).1,
        ((cache.serveAll source requests).2.serveAll source later).2) := by
  induction requests generalizing cache with
  | nil => rfl
  | cons first requests induction =>
      rw [List.cons_append, serve_all_cons, serve_all_cons, induction]
      rfl

theorem serve_all_concat (source : Metadata σ) (cache : RecentNames)
    (requests : List (NameRequest σ)) (request : NameRequest σ) :
    cache.serveAll source (requests ++ [request]) =
      ((cache.serveAll source requests).1 ++
          [((cache.serveAll source requests).2.serve source request).1],
        ((cache.serveAll source requests).2.serve source request).2) :=
  serve_all_append source cache requests [request]

theorem length_serve_all (source : Metadata σ) (cache : RecentNames)
    (requests : List (NameRequest σ)) :
    (cache.serveAll source requests).1.length = requests.length := by
  induction requests generalizing cache with
  | nil => rfl
  | cons request later induction => exact congrArg Nat.succ (induction _)

theorem counted_serve_all (source : Metadata σ) (cache : RecentNames)
    (requests : List (NameRequest σ)) :
    let run := cache.serveAll source requests
    run.2.misses = cache.misses + run.1.countP (!·.cached) ∧
      run.2.evictions = cache.evictions + run.1.countP (·.evicted) := by
  induction requests generalizing cache with
  | nil => exact ⟨rfl, rfl⟩
  | cons request later induction =>
      have step := cache.served_serve source request
      obtain ⟨-, misses, evictions, -⟩ := step.counted_lookup
      have evicted := step.lookup_evicted
      obtain ⟨missed, displaced⟩ := induction (cache.serve source request).2
      dsimp only at missed displaced ⊢
      rw [serve_all_cons]
      dsimp only
      rw [List.countP_cons, List.countP_cons, missed, displaced, misses, evictions,
        step.lookup_method, evicted]
      constructor
      · cases (cache.serve source request).1.cached with
        | false =>
            rw [Bool.not_false, Bool.toNat_true, if_pos rfl]
            omega
        | true => rfl
      · cases cache.displaced? request.method with
        | none => rfl
        | some victim =>
            rw [Option.toList_some, List.length_singleton, Option.isSome_some, if_pos rfl]
            omega

theorem KeepsLatest.keeps_latest_serve {uses : List Use} {cache : RecentNames}
    (keeps : cache.KeepsLatest uses) (source : Metadata σ) (request : NameRequest σ) :
    (cache.serve source request).2.KeepsLatest (uses ++ [(cache.serve source request).1.use]) := by
  obtain ⟨outcome, next, -⟩ := serve_eq_resolve source cache request
  have kept := keeps.keeps_latest_resolve source request.method request.context request.state
  rw [← outcome, ← next] at kept
  exact kept

/-- Whether a log is that of the requests, and a cache is what they leave of an empty one. -/
structure Behind (capacity : Nat) (requests : List (NameRequest σ)) (log : List Lookup)
    (cache : RecentNames) : Prop where
  latest : cache.KeepsLatest (log.map Lookup.use)
  methods : log.map (·.method) = requests.map (·.method)
  capacity : cache.capacity = max capacity 1

theorem Behind.behind_serve {capacity : Nat} {requests : List (NameRequest σ)} {log : List Lookup}
    {cache : RecentNames} (behind : Behind capacity requests log cache) (source : Metadata σ)
    (request : NameRequest σ) :
    Behind capacity (requests ++ [request]) (log ++ [(cache.serve source request).1])
      (cache.serve source request).2 := by
  have latest := behind.latest.keeps_latest_serve source request
  have served := cache.served_serve source request
  refine ⟨?_, ?_, served.counted_lookup.capacity.trans behind.capacity⟩
  · rw [List.map_append]
    exact latest
  · rw [List.map_append, List.map_append, behind.methods, List.map_singleton, served.lookup_method]
    rfl

theorem behind_serve_all (source : Metadata σ) (capacity : Nat) (requests : List (NameRequest σ)) :
    Behind capacity requests ((ofCapacity capacity).serveAll source requests).1
      ((ofCapacity capacity).serveAll source requests).2 := by
  induction requests using List.reverseRecOn with
  | nil => exact ⟨keeps_latest_of_capacity capacity, rfl, rfl⟩
  | append_singleton requests request induction =>
      rw [serve_all_concat]
      exact induction.behind_serve source request

theorem Behind.ranked_of_calm {capacity : Nat} {requests : List (NameRequest σ)}
    {log : List Lookup} {cache : RecentNames} (behind : Behind capacity requests log cache)
    (calm : ∀ lookup ∈ log, lookup.panicked = false) :
    ranked (log.map Lookup.use) = (requests.map (·.method)).dedup ∧
      cache.size = min (max capacity 1) (requests.map (·.method)).dedup.length := by
  have resolved : ∀ use ∈ log.map Lookup.use, use.resolved? ≠ none := by
    intro use member
    obtain ⟨lookup, within, rfl⟩ := List.mem_map.mp member
    intro unresolved
    have quiet := calm lookup within
    rw [Lookup.panicked, unresolved] at quiet
    cases quiet
  have ranks : ranked (log.map Lookup.use) = (requests.map (·.method)).dedup := by
    rw [StackSampler.ranked_of_calm resolved, List.map_map, ← behind.methods]
    rfl
  have full := behind.latest.full resolved
  rw [behind.capacity, ranks] at full
  exact ⟨ranks, full⟩

/-- If nothing panicked, a cache lists the methods that were wanted last. -/
theorem Behind.order_of_calm {capacity : Nat} {requests : List (NameRequest σ)}
    {log : List Lookup} {cache : RecentNames} (behind : Behind capacity requests log cache)
    (calm : ∀ lookup ∈ log, lookup.panicked = false) :
    cache.order = (requests.map (·.method)).dedup.drop
      ((requests.map (·.method)).dedup.length - max capacity 1) := by
  obtain ⟨ranks, full⟩ := behind.ranked_of_calm calm
  have latest := behind.latest.latest
  rw [ranks] at latest
  have older (wanted : Nat) : wanted - min (max capacity 1) wanted = wanted - max capacity 1 := by
    omega
  rw [List.suffix_iff_eq_drop.mp latest, behind.latest.inStep.length_order, full, older]

theorem resolved_serve_all {source : Metadata σ} (calm : source.Calm) (cache : RecentNames)
    (requests : List (NameRequest σ)) :
    ∀ lookup ∈ (cache.serveAll source requests).1, lookup.panicked = false := by
  induction requests generalizing cache with
  | nil => exact nofun
  | cons request later induction =>
      intro lookup member
      rw [serve_all_cons] at member
      rcases List.mem_cons.mp member with same | within
      · obtain ⟨name, served⟩ := exists_outcome_serve calm cache request
        rw [same, Lookup.panicked, Lookup.use, Use.resolved?, served]
        rfl
      · exact induction (cache.serve source request).2 lookup within

/-- In front of a source that does not panic, a cache holds the methods that were wanted last, as many
as it may hold. -/
theorem contains_serve_all_iff {source : Metadata σ} (calm : source.Calm) (capacity : Nat)
    (requests : List (NameRequest σ)) (method : MethodId) :
    ((ofCapacity capacity).serveAll source requests).2.contains method = true ↔
      method ∈ (requests.map (·.method)).dedup.drop
        ((requests.map (·.method)).dedup.length - max capacity 1) := by
  have behind := behind_serve_all source capacity requests
  rw [← behind.latest.inStep.mem_order, behind.order_of_calm (resolved_serve_all calm _ requests)]

end RecentNames

end StackSampler
