import StackSampler.Proofs.Method.Serving

/-!
# The counters of a cache balance

Every request is a hit or a miss, and every miss is still cached, or was evicted, or was left by a
panic. This holds behind every run, whether or not the source panics, because the two tables of a
cache always list the same methods.
-/

namespace StackSampler

variable {σ : Type}

namespace RecentNames

/-- One name is what a request finds, keeps or loses to a panic, if what it displaces is counted
in. -/
theorem InStep.size_serve {cache : RecentNames} (inStep : cache.InStep) (source : Metadata σ)
    (request : NameRequest σ) :
    let served := cache.serve source request
    served.2.size + (cache.displaced? request.method).toList.length + served.1.cached.toNat +
      served.1.panicked.toNat = cache.size + 1 := by
  intro served
  obtain ⟨kept, reordered⟩ := inStep.in_step_serve source request
  have step := cache.served_serve source request
  have method : served.1.use.method = request.method := step.lookup_method
  have known := inStep.mem_order request.method
  have room := congrArg List.length cache.victim_append_roomy_order
  rw [List.length_append, inStep.length_order] at room
  rw [← kept.length_order, displaced?, Lookup.panicked, step.lookup_cached]
  cases reordered with
  | hit resolved cached order =>
      have same := length_filter_ne_concat inStep.nodup_order cached
      rw [inStep.length_order] at same
      rw [method, known] at cached
      rw [cached, resolved, order, same]
      rfl
  | miss resolved absent order =>
      rw [method, known, Bool.not_eq_true] at absent
      rw [absent, resolved, order, List.length_append, ← room]
      simp only [Bool.false_eq_true, if_false, Bool.toNat_false, Option.isNone_some,
        List.length_singleton]
      omega
  | panicked unresolved absent order =>
      rw [method, known, Bool.not_eq_true] at absent
      rw [absent, unresolved, order, ← room]
      simp only [Bool.false_eq_true, if_false, Bool.toNat_false, Option.isNone_none,
        Bool.toNat_true]
      omega

structure Balanced (cache : RecentNames) (log : List Lookup) : Prop where
  requests : cache.hits + cache.misses = log.length
  misses : cache.misses = cache.size + cache.evictions + log.countP Lookup.panicked

theorem Balanced.balanced_serve {log : List Lookup} {cache : RecentNames}
    (balanced : cache.Balanced log) (inStep : cache.InStep) (source : Metadata σ)
    (request : NameRequest σ) :
    (cache.serve source request).2.Balanced (log ++ [(cache.serve source request).1]) := by
  have step := cache.served_serve source request
  obtain ⟨hits, misses, evictions, -⟩ := step.counted_lookup
  have sizes := inStep.size_serve source request
  rw [step.lookup_method] at evictions
  obtain ⟨requests, missed⟩ := balanced
  generalize cache.serve source request = served at hits misses evictions sizes ⊢
  obtain ⟨lookup, next⟩ := served
  dsimp only at hits misses evictions sizes ⊢
  have either : lookup.cached.toNat + (!lookup.cached).toNat = 1 := by
    cases lookup.cached <;> rfl
  have counted : [lookup].countP Lookup.panicked = lookup.panicked.toNat := by
    rw [List.countP_singleton]
    cases lookup.panicked <;> rfl
  constructor
  · rw [List.length_append, List.length_singleton, hits, misses]
    omega
  · rw [List.countP_append, counted, misses, evictions]
    omega

theorem balanced_serve_all (source : Metadata σ) (capacity : Nat)
    (requests : List (NameRequest σ)) :
    ((ofCapacity capacity).serveAll source requests).2.Balanced
      ((ofCapacity capacity).serveAll source requests).1 := by
  induction requests using List.reverseRecOn with
  | nil => exact ⟨rfl, rfl⟩
  | append_singleton requests request induction =>
      have inStep := (behind_serve_all source capacity requests).latest.inStep
      rw [serve_all_concat]
      exact induction.balanced_serve inStep source request

end RecentNames

/-- Whatever a source answers, and wherever it panics, as long as the counters cannot wrap: hits and
misses add up to the requests, and misses to the entries, the evictions and the panics. The entries
are those that are cached, and never too many. A request evicts a name if and only if its own one is
missed and the cache is full, and then one that was cached; no other name changes. -/
theorem counters_balance (source : Metadata σ) (capacity : Nat) (requests : List (NameRequest σ))
    (few : requests.length < UInt64.size) :
    let run := (RecentNames.ofCapacity capacity).serveAll source requests
    let shown := run.2.counts
    shown.hits.toNat + shown.misses.toNat = requests.length ∧
    shown.misses.toNat =
      shown.entries.toNat + shown.evictions.toNat + run.1.countP Lookup.panicked ∧
    shown.entries.toNat = run.2.size ∧ run.2.size ≤ max capacity 1 ∧
    ∀ request : NameRequest σ,
      let served := run.2.serve source request
      ∃ victim? : Option MethodId,
        (victim?.isSome = true ↔
          run.2.contains request.method = false ∧ run.2.size = max capacity 1) ∧
        (∀ victim, victim? = some victim → run.2.contains victim = true) ∧
        served.2.counts.evictions.toNat = shown.evictions.toNat + victim?.toList.length ∧
        ∀ method, served.2.nameOf method =
          if victim? = some method then none
          else if request.method = method then served.1.outcome.toOption
          else run.2.nameOf method := by
  intro run shown
  have behind : run.2.Behind capacity requests run.1 :=
    RecentNames.behind_serve_all source capacity requests
  have balanced : run.2.Balanced run.1 := RecentNames.balanced_serve_all source capacity requests
  have length : run.1.length = requests.length := RecentNames.length_serve_all source _ requests
  have inStep := behind.latest.inStep
  obtain ⟨total, missed⟩ := balanced
  have word : ∀ count, count ≤ run.1.length → (UInt64.ofNat count).toNat = count :=
    fun count counted =>
      UInt64.toNat_ofNat_of_lt' (Nat.lt_of_le_of_lt (length ▸ counted) few)
  have hits : shown.hits.toNat = run.2.hits := word _ (by omega)
  have misses : shown.misses.toNat = run.2.misses := word _ (by omega)
  have entries : shown.entries.toNat = run.2.size := word _ (by omega)
  have evictions : shown.evictions.toNat = run.2.evictions := word _ (by omega)
  refine ⟨by omega, by omega, entries, ?_, ?_⟩
  · rw [← behind.capacity]
    exact behind.latest.bounded
  · intro request served
    have step := run.2.served_serve source request
    have full := behind.latest.isSome_displaced request.method
    have evicted : served.2.evictions =
        run.2.evictions + (run.2.displaced? request.method).toList.length := by
      rw [← step.lookup_method]
      exact step.counted_lookup.evictions
    refine ⟨run.2.displaced? request.method, ?_, ?_, ?_, step.name_of_next inStep⟩
    · rw [← behind.capacity]
      exact full
    · exact fun victim displaced => (inStep.contains_displaced displaced).1
    · -- A full cache holds a name, so one more eviction is still no more than the misses.
      have bound : (run.2.displaced? request.method).toList.length ≤ run.2.size := by
        have occupied := behind.latest.positive
        cases displaced : run.2.displaced? request.method with
        | none => exact Nat.zero_le _
        | some victim =>
            rw [displaced] at full
            rw [(full.mp rfl).2]
            exact occupied
      rw [evictions, ← evicted]
      exact word _ (by omega)

/-- The last request evicts the first method and panics, so only the second one stays. -/
theorem counters_balance_forgetful :
    let requests : List (NameRequest Unit) :=
      [⟨⟨1⟩, ⟨0⟩, ()⟩, ⟨⟨2⟩, ⟨0⟩, ()⟩, ⟨⟨2⟩, ⟨0⟩, ()⟩, ⟨⟨9⟩, ⟨0⟩, ()⟩]
    let run := (RecentNames.ofCapacity 2).serveAll forgetfulSource requests
    requests.length < UInt64.size ∧ run.1.countP Lookup.panicked = 1 ∧
      run.2.counts.hits.toNat = 1 ∧ run.2.counts.misses.toNat = 3 ∧
      run.2.counts.entries.toNat + run.2.counts.evictions.toNat = 2 := by
  intro requests run
  have few : requests.length < UInt64.size := by decide
  have panics : run.1.countP Lookup.panicked = 1 := by decide +kernel
  have absent : run.1.countP (!·.cached) = 3 := by decide +kernel
  have misses : run.2.counts.misses.toNat = 3 := by
    rw [← absent, RecentNames.counts, (RecentNames.counted_serve_all _ _ _).1]
    rfl
  obtain ⟨total, missed, -⟩ := counters_balance forgetfulSource 2 requests few
  have four : run.2.counts.hits.toNat + run.2.counts.misses.toNat = 4 := total
  have three : run.2.counts.misses.toNat =
      run.2.counts.entries.toNat + run.2.counts.evictions.toNat + run.1.countP Lookup.panicked :=
    missed
  exact ⟨few, panics, by omega, misses, by omega⟩

end StackSampler
