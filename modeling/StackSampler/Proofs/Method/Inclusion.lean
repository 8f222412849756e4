import Mathlib.Data.List.Forall2
import StackSampler.Proofs.Method.Serving

/-!
# Larger caches hold more

Of two caches that serve the same requests, the larger one holds all that the smaller one does: both
hold the methods that were wanted last, and the larger one holds as many or more. So wherever the
larger one evicts a name or asks the source, the smaller one does as well.
-/

namespace StackSampler

variable {σ : Type}

/-- Whether a lookup takes no more than another one of the same method. -/
structure Lookup.Spares (less more : Lookup) : Prop where
  method : less.method = more.method
  cached : more.cached = true → less.cached = true
  evicted : less.evicted = true → more.evicted = true
  asked : less.asked = [] ∨ less.asked = more.asked

theorem count_if_le_of_imp {first second : Bool} (implies : first = true → second = true) :
    (if first = true then 1 else 0) ≤ if second = true then 1 else 0 := by
  cases first with
  | false => exact Nat.zero_le _
  | true => rw [implies rfl]

/-- What a part of a run adds to the counters and asks is no more than what another part does. -/
theorem Lookup.totals_of_spares {less more : List Lookup}
    (spares : List.Forall₂ Lookup.Spares less more) :
    less.countP (!·.cached) ≤ more.countP (!·.cached) ∧
      less.countP (·.evicted) ≤ more.countP (·.evicted) ∧
      (less.flatMap Lookup.asked).Sublist (more.flatMap Lookup.asked) := by
  induction spares with
  | nil => exact ⟨Nat.le_refl _, Nat.le_refl _, List.Sublist.refl _⟩
  | cons first _ induction =>
      obtain ⟨misses, evictions, asked⟩ := induction
      obtain ⟨-, cached, evicted, asks⟩ := first
      refine ⟨?_, ?_, ?_⟩
      · rw [List.countP_cons, List.countP_cons]
        apply Nat.add_le_add misses
        apply count_if_le_of_imp
        rw [Bool.not_eq_true', Bool.not_eq_true', ← Bool.not_eq_true, ← Bool.not_eq_true]
        exact mt cached
      · rw [List.countP_cons, List.countP_cons]
        exact Nat.add_le_add evictions (count_if_le_of_imp evicted)
      · rw [List.flatMap_cons, List.flatMap_cons]
        apply List.Sublist.append _ asked
        rcases asks with none | same
        · rw [none]
          exact List.nil_sublist _
        · rw [same]

namespace RecentNames

section Includes

variable {capacity larger : Nat} {requests others : List (NameRequest σ)}
  {log wideLog : List Lookup} {cache wide : RecentNames}
  (behind : cache.Behind capacity requests log) (behindWide : wide.Behind larger others wideLog)
  (calm : ∀ lookup ∈ log, lookup.panicked = false)
  (calmWide : ∀ lookup ∈ wideLog, lookup.panicked = false) (bound : capacity ≤ larger)
  (same : requests.map NameRequest.wanted = others.map NameRequest.wanted)
include behind behindWide calm calmWide bound same

/-- Both caches hold a part of the same ranking. -/
theorem Behind.order_suffix :
    cache.order <:+ wide.order ∧ (wide.size = wide.capacity → cache.size = cache.capacity) := by
  have methods : requests.map (·.method) = others.map (·.method) := by
    have firsts := congrArg (List.map Prod.fst) same
    rw [List.map_map, List.map_map] at firsts
    exact firsts
  obtain ⟨ranks, size⟩ := behind.ranked_of_calm calm
  obtain ⟨ranksWide, sizeWide⟩ := behindWide.ranked_of_calm calmWide
  rw [← methods] at ranksWide sizeWide
  constructor
  · have latest := behind.latest.latest
    have latestWide := behindWide.latest.latest
    rw [ranks] at latest
    rw [ranksWide] at latestWide
    apply List.suffix_of_suffix_length_le latest latestWide
    rw [behind.latest.inStep.length_order, behindWide.latest.inStep.length_order]
    omega
  · rw [behind.capacity, behindWide.capacity]
    omega

theorem Behind.contains_of_smaller (method : MethodId) (cached : cache.contains method = true) :
    wide.contains method = true := by
  obtain ⟨suffix, -⟩ := behind.order_suffix behindWide calm calmWide bound same
  rw [← behind.latest.inStep.mem_order] at cached
  rw [← behindWide.latest.inStep.mem_order]
  exact suffix.mem cached

theorem Behind.spares_serve {source : Metadata σ} (constant : source.Constant)
    {request other : NameRequest σ} (alike : request.wanted = other.wanted) :
    (wide.serve source other).1.Spares (cache.serve source request).1 := by
  obtain ⟨-, full⟩ := behind.order_suffix behindWide calm calmWide bound same
  have includes := behind.contains_of_smaller behindWide calm calmWide bound same request.method
  have step := cache.served_serve source request
  have stepWide := wide.served_serve source other
  obtain ⟨method, context, state⟩ := request
  obtain ⟨methodWide, contextWide, stateWide⟩ := other
  cases alike
  refine ⟨?_, ?_, ?_, ?_⟩
  · rw [step.lookup_method, stepWide.lookup_method]
  · rw [step.lookup_cached, stepWide.lookup_cached]
    exact includes
  · rw [step.lookup_evicted, stepWide.lookup_evicted, behind.latest.isSome_displaced,
      behindWide.latest.isSome_displaced]
    rintro ⟨absent, filled⟩
    exact ⟨Bool.eq_false_iff.mpr (mt includes (Bool.eq_false_iff.mp absent)), full filled⟩
  · cases known : wide.contains method with
    | true => exact .inl (stepWide.of_cached known).1
    | false =>
        have absent : cache.contains method = false :=
          Bool.eq_false_iff.mpr (mt includes (Bool.eq_false_iff.mp known))
        rw [(step.of_absent absent).1, (stepWide.of_absent known).1]
        exact .inr (constant.asked_eq method context stateWide state)

end Includes

section Runs

variable {source : Metadata σ} (calm : source.Calm) (constant : source.Constant)
  {capacity larger : Nat} (bound : capacity ≤ larger)
include calm constant bound

theorem spares_serve_all {requests others : List (NameRequest σ)}
    (same : requests.map NameRequest.wanted = others.map NameRequest.wanted) :
    List.Forall₂ Lookup.Spares ((ofCapacity larger).serveAll source others).1
      ((ofCapacity capacity).serveAll source requests).1 := by
  induction requests using List.reverseRecOn generalizing others with
  | nil =>
      rw [List.map_eq_nil_iff.mp same.symm]
      exact .nil
  | append_singleton requests request induction =>
      rw [List.map_append, List.map_singleton] at same
      obtain ⟨others, last, rfl, front, back⟩ := List.map_eq_append_iff.mp same.symm
      obtain ⟨other, rfl, alike⟩ := List.map_eq_singleton_iff.mp back
      have behind := behind_serve_all source capacity requests
      have behindWide := behind_serve_all source larger others
      rw [serve_all_concat, serve_all_concat]
      apply List.rel_append (induction front.symm)
      exact .cons (behind.spares_serve behindWide (resolved_serve_all calm _ requests)
        (resolved_serve_all calm _ others) bound front.symm constant alike.symm) .nil

theorem spares_serve_all_later {requests others later laterWide : List (NameRequest σ)}
    (same : requests.map NameRequest.wanted = others.map NameRequest.wanted)
    (sameLater : later.map NameRequest.wanted = laterWide.map NameRequest.wanted) :
    List.Forall₂ Lookup.Spares
      (((ofCapacity larger).serveAll source others).2.serveAll source laterWide).1
      (((ofCapacity capacity).serveAll source requests).2.serveAll source later).1 := by
  have whole : (requests ++ later).map NameRequest.wanted =
      (others ++ laterWide).map NameRequest.wanted := by
    rw [List.map_append, List.map_append, same, sameLater]
  have lengths := congrArg List.length same
  rw [List.length_map, List.length_map] at lengths
  have rest := List.forall₂_drop requests.length (spares_serve_all calm constant bound whole)
  rw [serve_all_append, serve_all_append, List.drop_left' (by rw [length_serve_all, lengths]),
    List.drop_left' (length_serve_all _ _ _)] at rest
  exact rest

end Runs

end RecentNames

end StackSampler
