import StackSampler.Proofs.Method.Serving

/-!
# The two tables of a cache

A cache keeps a name with the number of its last use, and the method of a last use under its number.
`RecentNames.resolve` writes each entry once. A pass that works on the tables in place does not: it
keeps a name that it looked up, finds it again, and numbers it like any other, so between two steps
the tables differ. It is described here step by step, and ends where `RecentNames.resolve` ends.
Behind every run the tables say the same of every last use, whether or not a lookup panicked.
-/

namespace StackSampler

/-- What a table holds under a key no longer matters once the key is entered anew. -/
theorem insert_equiv {α κ : Type} [Ord κ] [Std.TransOrd κ] [Std.LawfulEqOrd κ]
    {left right : Std.TreeMap κ α} {key : κ}
    (same : ∀ other, compare key other ≠ .eq → left[other]? = right[other]?) (value : α) :
    (left.insert key value).Equiv (right.insert key value) := by
  apply Std.TreeMap.Equiv.of_forall_constGet?_eq
  intro other
  rw [Std.TreeMap.getElem?_insert, Std.TreeMap.getElem?_insert]
  by_cases here : compare key other = .eq
  · rw [if_pos here, if_pos here]
  · rw [if_neg here, if_neg here]
    exact same other here

variable {σ : Type}

namespace RecentNames

/-- Finds a name in the table and moves it to the use that the clock shows. -/
def touch (cache : RecentNames) (method : MethodId) : Option String × RecentNames :=
  match cache.names[method]? with
  | none => (none, cache)
  | some cached =>
      (some cached.name,
        { cache with
          uses := (cache.uses.erase cached.lastUse).insert cache.clock method
          names := cache.names.insert method { cached with lastUse := cache.clock } })

/-- Resolves a method in one pass over the tables. If the name is missed, it is looked up and stored
with its number, but only the touch that ends the pass enters that number in the other table. A name
that the touch does not find is `none`, for which `Naming.unresolvedFunction` would stand. -/
def resolveInPlace (source : Metadata σ) (cache : RecentNames) (method : MethodId)
    (context : WalkContext) (state : σ) : Except Panic (Option String) × RecentNames × σ :=
  let cache := { cache with clock := cache.clock + 1 }
  if cache.contains method then
    let (found, cache) := { cache with hits := cache.hits + 1 }.touch method
    (.ok found, cache, state)
  else
    let cache := { cache with misses := cache.misses + 1 }.makeRoom
    match Naming.methodName source method context state with
    | (.error panic, state) => (.error panic, cache, state)
    | (.ok name, state) =>
        let stored := { cache with names := cache.names.insert method ⟨name, cache.clock⟩ }
        let (found, cache) := stored.touch method
        (.ok found, cache, state)

/-- Serves one request after the other in place, and lists what each of them found. -/
def serveInPlace (source : Metadata σ) (cache : RecentNames) :
    List (NameRequest σ) → List (Except Panic (Option String)) × RecentNames
  | [] => ([], cache)
  | request :: later =>
      let (found, next, _) :=
        cache.resolveInPlace source request.method request.context request.state
      let (rest, left) := next.serveInPlace source later
      (found :: rest, left)

theorem touch_of_found {cache : RecentNames} {method : MethodId} {cached : CachedName}
    (found : cache.names[method]? = some cached) :
    cache.touch method = (some cached.name,
      { cache with
        uses := (cache.uses.erase cached.lastUse).insert cache.clock method
        names := cache.names.insert method { cached with lastUse := cache.clock } }) := by
  rw [touch, found]

/-- Whether two caches are equal but for the shape of their tables. -/
structure Alike (left right : RecentNames) : Prop where
  capacity : left.capacity = right.capacity
  names : left.names.Equiv right.names
  uses : left.uses.Equiv right.uses
  clock : left.clock = right.clock
  hits : left.hits = right.hits
  misses : left.misses = right.misses
  evictions : left.evictions = right.evictions

theorem Alike.refl (cache : RecentNames) : Alike cache cache :=
  ⟨rfl, .rfl, .rfl, rfl, rfl, rfl, rfl⟩

section Alike

variable {left right : RecentNames} (alike : Alike left right)
include alike

theorem Alike.alike_evict : Alike left.evict right.evict := by
  obtain ⟨capacity, names, uses, clock, hits, misses, evictions⟩ := alike
  rw [RecentNames.evict, RecentNames.evict, uses.minEntry?_eq]
  cases right.uses.minEntry? with
  | none => exact ⟨capacity, names, uses, clock, hits, misses, evictions⟩
  | some entry =>
      exact ⟨capacity, names.erase entry.2, uses.erase entry.1, clock, hits, misses,
        congrArg Nat.succ evictions⟩

theorem Alike.alike_make_room : Alike left.makeRoom right.makeRoom := by
  have full : left.capacity ≤ left.size ↔ right.capacity ≤ right.size := by
    rw [size, size, alike.capacity, alike.names.size_eq]
  rw [RecentNames.makeRoom, RecentNames.makeRoom]
  by_cases room : right.capacity ≤ right.size
  · rw [if_pos (full.mpr room), if_pos room]
    exact alike.alike_evict
  · rw [if_neg (mt full.mp room), if_neg room]
    exact alike

theorem Alike.alike_miss : Alike left.miss right.miss :=
  Alike.alike_make_room ⟨alike.capacity, alike.names, alike.uses, congrArg Nat.succ alike.clock,
    alike.hits, congrArg Nat.succ alike.misses, alike.evictions⟩

theorem Alike.alike_hit (method : MethodId) (cached : CachedName) :
    Alike (left.hit method cached) (right.hit method cached) := by
  obtain ⟨capacity, names, uses, clock, hits, misses, evictions⟩ := alike
  rw [RecentNames.hit, RecentNames.hit, clock, hits]
  exact ⟨capacity, names.insert _ _, (uses.erase _).insert _ _, rfl, rfl, misses, evictions⟩

/-- Storing a name and touching it is keeping it, since both tables forget what they held under the
same key. -/
theorem Alike.touch_stored (method : MethodId) (name : String) :
    let stored := { left with names := left.names.insert method ⟨name, left.clock⟩ }
    (stored.touch method).1 = some name ∧
      Alike (stored.touch method).2 (right.keep method name) := by
  intro stored
  have found : stored.names[method]? = some ⟨name, left.clock⟩ :=
    Std.TreeMap.getElem?_insert_self
  rw [touch_of_found found, keep, ← alike.clock]
  refine ⟨rfl, alike.capacity, ?_, ?_, rfl, alike.hits, alike.misses, alike.evictions⟩
  · apply insert_equiv
    intro other apart
    rw [Std.TreeMap.getElem?_insert, if_neg apart]
    exact alike.names.getElem?_eq
  · apply insert_equiv
    intro other apart
    rw [Std.TreeMap.getElem?_erase, if_neg apart]
    exact alike.uses.getElem?_eq

/-- A pass in place finds what is resolved, and leaves the same tables. -/
theorem Alike.alike_resolve_in_place (source : Metadata σ) (method : MethodId)
    (context : WalkContext) (state : σ) :
    let passed := left.resolveInPlace source method context state
    let resolved := right.resolve source method context state
    passed.1 = resolved.1.map some ∧ Alike passed.2.1 resolved.2.1 ∧
      passed.2.2 = resolved.2.2 := by
  have same : left.names[method]? = right.names[method]? := alike.names.getElem?_eq
  rw [RecentNames.resolveInPlace, resolve, contains_eq]
  cases found : right.names[method]? with
  | some cached =>
      rw [found] at same
      have touched : ({ left with clock := left.clock + 1, hits := left.hits + 1 }.touch method) =
          (some cached.name, left.hit method cached) := touch_of_found same
      dsimp only
      rw [same, Option.isSome_some, if_pos rfl, touched]
      exact ⟨rfl, alike.alike_hit method cached, rfl⟩
  | none =>
      rw [found] at same
      dsimp only
      rw [same, Option.isSome_none, if_neg Bool.false_ne_true]
      rcases Naming.methodName source method context state with ⟨panic | name, left⟩
      · exact ⟨rfl, alike.alike_miss, rfl⟩
      · obtain ⟨named, kept⟩ := alike.alike_miss.touch_stored method name
        exact ⟨congrArg Except.ok named, kept, rfl⟩

theorem Alike.alike_serve_in_place (source : Metadata σ) (requests : List (NameRequest σ)) :
    (left.serveInPlace source requests).1 =
        (right.serveAll source requests).1.map (fun lookup => lookup.outcome.map some) ∧
      Alike (left.serveInPlace source requests).2 (right.serveAll source requests).2 := by
  induction requests generalizing left right with
  | nil => exact ⟨rfl, alike⟩
  | cons request later induction =>
      obtain ⟨found, next, -⟩ :=
        alike.alike_resolve_in_place source request.method request.context request.state
      obtain ⟨outcome, served, -⟩ := serve_eq_resolve source right request
      rw [← outcome] at found
      rw [← served] at next
      obtain ⟨rest, last⟩ := induction next
      exact ⟨congrArg₂ List.cons found rest, last⟩

end Alike

section InStep

variable {cache : RecentNames} (inStep : cache.InStep)
include inStep

theorem InStep.size_uses : cache.uses.size = cache.names.size := by
  have counted := inStep.length_order
  rw [order, List.length_map, Std.TreeMap.length_toList] at counted
  exact counted

theorem InStep.eq_of_last_use {method other : MethodId} {cached cachedOther : CachedName}
    (first : cache.names[method]? = some cached)
    (second : cache.names[other]? = some cachedOther)
    (same : cached.lastUse = cachedOther.lastUse) : method = other := by
  have used := (inStep.linked cached.lastUse method).mpr ⟨cached.name, first⟩
  have usedOther := (inStep.linked cachedOther.lastUse other).mpr ⟨cachedOther.name, second⟩
  rw [same, usedOther, Option.some.injEq] at used
  exact used.symm

theorem InStep.last_use_le_clock {method : MethodId} {cached : CachedName}
    (found : cache.names[method]? = some cached) : cached.lastUse ≤ cache.clock :=
  inStep.past _ method ((inStep.linked _ _).mpr ⟨cached.name, found⟩)

/-- A cache that holds a name finds the one whose last use is oldest, in both tables. -/
theorem InStep.exists_oldest (occupied : 0 < cache.size) :
    ∃ use method name, cache.uses.minEntry? = some (use, method) ∧
      cache.names[method]? = some (CachedName.mk name use) := by
  rw [size, ← inStep.size_uses, ← Std.TreeMap.length_toList] at occupied
  obtain ⟨⟨use, method⟩, later, listed⟩ := List.exists_cons_of_length_pos occupied
  have member : (use, method) ∈ cache.uses.toList := listed ▸ List.mem_cons_self
  obtain ⟨name, found⟩ := (inStep.mem_toList use method).mp member
  refine ⟨use, method, name, ?_, found⟩
  rw [← head?_toList, listed]
  rfl

theorem InStep.size_evict : cache.evict.size = cache.size - 1 := by
  rw [← inStep.in_step_evict.length_order, order_evict, List.length_tail, inStep.length_order]

end InStep

/-- A miss in a full cache is an eviction, but for the use that it counts. -/
theorem miss_of_full {cache : RecentNames} (full : cache.capacity ≤ cache.size) :
    cache.miss = { cache.evict with clock := cache.clock + 1, misses := cache.misses + 1 } := by
  have evicted : cache.miss =
      { cache with clock := cache.clock + 1, misses := cache.misses + 1 }.evict := if_pos full
  rw [evicted, evict, evict]
  cases cache.uses.minEntry? <;> rfl

theorem Served.clock_of_next {cache next : RecentNames} {request : NameRequest σ}
    {asked : List Question} {lookup : Lookup} (served : Served cache request asked lookup next) :
    next.clock = cache.clock + 1 := by
  cases served with
  | hit cached found => rfl
  | miss absent name => exact cache.miss_cases.2.1
  | panicked absent panic => exact cache.miss_cases.2.1

theorem clock_serve_all (source : Metadata σ) (cache : RecentNames)
    (requests : List (NameRequest σ)) :
    (cache.serveAll source requests).2.clock = cache.clock + requests.length := by
  induction requests using List.reverseRecOn with
  | nil => rfl
  | append_singleton requests request induction =>
      rw [serve_all_concat, (served_serve source _ request).clock_of_next, induction,
        List.length_append]
      rfl

end RecentNames

/-- Whatever a source answers, and wherever it panics, behind every run of a cache: a use has a
method in the one table if and only if that method has a name with that last use in the other one,
so the tables are equally long and no two names share their last use. The clock shows how many
requests there were, so that its numbers fit a machine word as long as that does, and no last use is
later. There are never more names than there is room for, which is at least one. If a cache is full,
evicting finds the oldest use and takes its method out of both tables, and that is what a miss does
before it looks a name up. A run that works on the tables in place panics where the source does,
finds every other name again that it stored, and leaves the same tables. -/
theorem tables_stay_in_step (source : Metadata σ) (capacity : Nat)
    (requests : List (NameRequest σ)) :
    let run := (RecentNames.ofCapacity capacity).serveAll source requests
    let inPlace := (RecentNames.ofCapacity capacity).serveInPlace source requests
    let cache := run.2
    (∀ (use : Nat) (method : MethodId), cache.uses[use]? = some method ↔
      ∃ name, cache.names[method]? = some (CachedName.mk name use)) ∧
    cache.uses.size = cache.names.size ∧
    (∀ (method other : MethodId) (cached cachedOther : CachedName),
      cache.names[method]? = some cached → cache.names[other]? = some cachedOther →
        cached.lastUse = cachedOther.lastUse → method = other) ∧
    (∀ (method : MethodId) (cached : CachedName),
      cache.names[method]? = some cached → cached.lastUse ≤ cache.clock) ∧
    cache.clock = requests.length ∧
    cache.capacity = max capacity 1 ∧ cache.size ≤ cache.capacity ∧
    (cache.size = cache.capacity → ∃ use method name,
      cache.uses.minEntry? = some (use, method) ∧
      cache.names[method]? = some (CachedName.mk name use) ∧
      cache.evict =
        { cache with
          uses := cache.uses.erase use
          names := cache.names.erase method
          evictions := cache.evictions + 1 } ∧
      cache.evict.size + 1 = cache.size ∧ cache.evict.uses.size + 1 = cache.uses.size ∧
      cache.miss =
        { cache.evict with clock := cache.clock + 1, misses := cache.misses + 1 }) ∧
    inPlace.1 = run.1.map (fun lookup => lookup.outcome.map some) ∧
    RecentNames.Alike inPlace.2 cache := by
  intro run inPlace cache
  have behind : cache.Behind capacity requests run.1 :=
    RecentNames.behind_serve_all source capacity requests
  have inStep := behind.latest.inStep
  have clock : cache.clock = 0 + requests.length :=
    RecentNames.clock_serve_all source (RecentNames.ofCapacity capacity) requests
  refine ⟨inStep.linked, inStep.size_uses, ?_, ?_, clock.trans (Nat.zero_add _),
    behind.capacity, behind.latest.bounded, ?_,
    (RecentNames.Alike.refl _).alike_serve_in_place source requests⟩
  · intro method other cached cachedOther
    exact inStep.eq_of_last_use
  · intro method cached
    exact inStep.last_use_le_clock
  · intro full
    have occupied : 0 < cache.size := full ▸ behind.latest.positive
    obtain ⟨use, method, name, oldest, found⟩ := inStep.exists_oldest occupied
    have size : cache.evict.size + 1 = cache.size := by
      rw [inStep.size_evict, Nat.sub_add_cancel occupied]
    have erased : cache.evict =
        { cache with
          uses := cache.uses.erase use
          names := cache.names.erase method
          evictions := cache.evictions + 1 } := by
      rw [RecentNames.evict, oldest]
    have sizeUses : cache.evict.uses.size + 1 = cache.uses.size := by
      rw [inStep.in_step_evict.size_uses, inStep.size_uses]
      exact size
    exact ⟨use, method, name, oldest, found, erased, size, sizeUses,
      RecentNames.miss_of_full (Nat.le_of_eq full.symm)⟩

/-- The second lookup panics behind the eviction, which has emptied both tables by then. -/
example :
    let cache := ((RecentNames.ofCapacity 1).serveInPlace forgetfulSource
      [⟨⟨1⟩, ⟨0⟩, ()⟩, ⟨⟨9⟩, ⟨0⟩, ()⟩]).2
    (cache.names.size, cache.uses.size, cache.clock) = (0, 0, 2) := by
  cbv

end StackSampler
