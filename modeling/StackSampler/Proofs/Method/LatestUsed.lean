import Mathlib.Data.List.Dedup
import StackSampler.Proofs.Method.UseOrder

/-!
# A cache keeps the methods that were used last

Whatever the metadata source answers, and also if it panics, a cache holds the methods that were
resolved last, and would evict them in the order of their last uses. Asking what is cached, or for
the counters, is no use.
-/

namespace StackSampler

/-- What anyone wants of a cache: a name, or an answer that is no use of one. -/
inductive Consultation where
  | resolve (method : MethodId) (context : WalkContext)
  | contains (method : MethodId)
  | counts
deriving DecidableEq, Repr

def Consultation.isUse : Consultation → Bool
  | .resolve _ _ => true
  | _ => false

structure Use where
  method : MethodId
  outcome : Except Panic String

def Use.resolved? (use : Use) : Option MethodId :=
  match use.outcome with
  | .ok _ => some use.method
  | .error _ => none

/-- The methods that were resolved, each once, the one whose last use is oldest first. -/
def ranked (uses : List Use) : List MethodId := (uses.filterMap Use.resolved?).dedup

namespace RecentNames

variable {σ : Type}

/-- The uses of a run, and the cache and the source behind it. A panic that leaves a use is
caught. -/
def consult (source : Metadata σ) (cache : RecentNames) (state : σ) :
    List Consultation → List Use × RecentNames × σ
  | [] => ([], cache, state)
  | .resolve method context :: later =>
      let (outcome, cache, state) := cache.resolve source method context state
      let (uses, left) := cache.consult source state later
      (⟨method, outcome⟩ :: uses, left)
  | .contains _ :: later => cache.consult source state later
  | .counts :: later => cache.consult source state later

theorem consult_resolve (source : Metadata σ) (cache : RecentNames) (state : σ)
    (method : MethodId) (context : WalkContext) (later : List Consultation) :
    cache.consult source state (.resolve method context :: later) =
      let used := cache.resolve source method context state
      let rest := used.2.1.consult source used.2.2 later
      (⟨method, used.1⟩ :: rest.1, rest.2) :=
  rfl

/-- The methods that are left in the order where there is room for one more. -/
def roomyOrder (cache : RecentNames) : List MethodId :=
  if cache.capacity ≤ cache.size then cache.order.tail else cache.order

inductive Reordered (cache next : RecentNames) (use : Use) : Prop where
  | hit (resolved : use.resolved? = some use.method) (cached : use.method ∈ cache.order)
      (order : next.order = cache.order.filter (· ≠ use.method) ++ [use.method])
  | miss (resolved : use.resolved? = some use.method) (absent : use.method ∉ cache.order)
      (order : next.order = cache.roomyOrder ++ [use.method])
  | panicked (unresolved : use.resolved? = none) (absent : use.method ∉ cache.order)
      (order : next.order = cache.roomyOrder)

/-- Making room changes nothing, or it takes one name out of both tables. -/
theorem make_room_cases (cache : RecentNames) :
    cache.makeRoom = cache ∨ ∃ use method evictions, cache.makeRoom =
      { cache with
        uses := cache.uses.erase use, names := cache.names.erase method, evictions } := by
  rw [makeRoom, evict]
  split
  · split
    · exact .inl rfl
    · exact .inr ⟨_, _, _, rfl⟩
  · exact .inl rfl

theorem miss_cases (cache : RecentNames) :
    cache.miss.capacity = cache.capacity ∧ cache.miss.clock = cache.clock + 1 ∧
      (∀ (use : Nat) (method : MethodId),
        cache.miss.uses[use]? = some method → cache.uses[use]? = some method) ∧
      ∀ method : MethodId, cache.names[method]? = none → cache.miss.names[method]? = none := by
  rw [miss]
  rcases make_room_cases { cache with clock := cache.clock + 1, misses := cache.misses + 1 } with
    same | ⟨victimUse, victim, evictions, erased⟩
  · rw [same]
    exact ⟨rfl, rfl, fun _ _ => id, fun _ => id⟩
  · rw [erased]
    refine ⟨rfl, rfl, ?_, ?_⟩
    · intro use method found
      exact (getElem?_erase_eq_some_iff.mp found).2
    · intro method absent
      rw [Option.eq_none_iff_forall_not_mem] at absent ⊢
      intro cached found
      exact absent cached (getElem?_erase_eq_some_iff.mp found).2

theorem InStep.in_step_resolve {cache : RecentNames} (inStep : cache.InStep) (source : Metadata σ)
    (method : MethodId) (context : WalkContext) (state : σ) :
    (cache.resolve source method context state).2.1.InStep ∧
      (cache.resolve source method context state).2.1.capacity = cache.capacity ∧
      Reordered cache (cache.resolve source method context state).2.1
        ⟨method, (cache.resolve source method context state).1⟩ := by
  have known := inStep.mem_order method
  rw [contains_eq] at known
  rw [RecentNames.resolve]
  cases found : cache.names[method]? with
  | some cached =>
      obtain ⟨inStepNext, order⟩ := inStep.in_step_hit found
      exact ⟨inStepNext, rfl, .hit rfl (known.mpr (by rw [found]; rfl)) order⟩
  | none =>
      have absent : method ∉ cache.order := by
        rw [known, found]
        exact Bool.false_ne_true
      obtain ⟨capacity, clock, kept, absentLeft⟩ := cache.miss_cases
      have counted : ({ cache with
          clock := cache.clock + 1, misses := cache.misses + 1 } : RecentNames).InStep :=
        ⟨inStep.linked, fun use other used => Nat.le_succ_of_le (inStep.past use other used)⟩
      have missed : cache.miss.InStep := counted.in_step_make_room
      dsimp only
      rcases Naming.methodName source method context state with ⟨panic | name, left⟩
      · exact ⟨missed, capacity, .panicked rfl absent cache.order_miss⟩
      · have newest : ∀ use other, cache.miss.uses[use]? = some other →
            use < cache.miss.clock := by
          intro use other used
          rw [clock]
          exact Nat.lt_succ_of_le (inStep.past use other (kept use other used))
        obtain ⟨inStepNext, order⟩ := missed.in_step_keep (absentLeft method found) newest name
        rw [order_miss] at order
        exact ⟨inStepNext, capacity, .miss rfl absent order⟩

end RecentNames

theorem dedup_concat (methods : List MethodId) (method : MethodId) :
    (methods ++ [method]).dedup = methods.dedup.filter (· ≠ method) ++ [method] := by
  induction methods with
  | nil => rfl
  | cons first methods induction =>
      rw [List.cons_append]
      by_cases again : first ∈ methods
      · rw [List.dedup_cons_of_mem again, List.dedup_cons_of_mem (List.mem_append_left _ again),
          induction]
      · rw [List.dedup_cons_of_notMem again]
        by_cases same : first = method
        · rw [List.dedup_cons_of_mem (by simp [same]), induction,
            List.filter_cons_of_neg (by simp [same])]
        · rw [List.dedup_cons_of_notMem (by simp [again, same]), induction,
            List.filter_cons_of_pos (by simp [same]), List.cons_append]

theorem ranked_concat_of_resolved {use : Use} (resolved : use.resolved? = some use.method)
    (uses : List Use) :
    ranked (uses ++ [use]) = (ranked uses).filter (· ≠ use.method) ++ [use.method] := by
  rw [ranked, ranked, List.filterMap_append, List.filterMap_cons_some resolved,
    List.filterMap_nil, dedup_concat]

theorem ranked_concat_of_unresolved {use : Use} (unresolved : use.resolved? = none)
    (uses : List Use) : ranked (uses ++ [use]) = ranked uses := by
  rw [ranked, ranked, List.filterMap_append, List.filterMap_cons_none unresolved,
    List.filterMap_nil, List.append_nil]

theorem length_filter_ne_concat {methods : List MethodId} (distinct : methods.Nodup)
    {method : MethodId} (member : method ∈ methods) :
    (methods.filter (· ≠ method) ++ [method]).length = methods.length := by
  have erased : methods.filter (· ≠ method) = methods.erase method := by
    rw [distinct.erase_eq_filter]
    apply List.filter_congr
    intro other _
    by_cases same : other = method <;> simp [same]
  rw [erased, List.length_append, List.length_singleton, List.length_erase_of_mem member]
  have occupied := List.length_pos_of_mem member
  omega

namespace RecentNames

section Roomy

variable {cache : RecentNames}

theorem roomy_order_suffix (cache : RecentNames) : cache.roomyOrder <:+ cache.order := by
  rw [roomyOrder]
  split
  · exact List.tail_suffix _
  · exact List.suffix_refl _

theorem InStep.length_roomy_order_lt (inStep : cache.InStep) (positive : 0 < cache.capacity)
    (bounded : cache.size ≤ cache.capacity) : cache.roomyOrder.length < cache.capacity := by
  have counted := inStep.length_order
  rw [roomyOrder]
  split
  · rw [List.length_tail]
    omega
  · omega

end Roomy

/-- Whether a cache holds the methods that were resolved last, in the order of their last uses, and
as many as there are or as it may hold if no use panicked. -/
structure KeepsLatest (uses : List Use) (cache : RecentNames) : Prop where
  inStep : cache.InStep
  positive : 0 < cache.capacity
  bounded : cache.size ≤ cache.capacity
  latest : cache.order <:+ ranked uses
  full : (∀ use ∈ uses, use.resolved? ≠ none) →
    cache.size = min cache.capacity (ranked uses).length

theorem keeps_latest_of_capacity (capacity : Nat) : (ofCapacity capacity).KeepsLatest [] where
  inStep := in_step_of_capacity capacity
  positive := Nat.le_max_right capacity 1
  bounded := Nat.zero_le _
  latest := List.suffix_refl []
  full _ := (Nat.min_zero _).symm

section Step

variable {uses : List Use} {cache next : RecentNames} {use : Use}
  (keeps : cache.KeepsLatest uses) (inStepNext : next.InStep)
  (capacity : next.capacity = cache.capacity)
include keeps inStepNext capacity

theorem KeepsLatest.keeps_latest_hit (resolved : use.resolved? = some use.method)
    (cached : use.method ∈ cache.order)
    (order : next.order = cache.order.filter (· ≠ use.method) ++ [use.method]) :
    next.KeepsLatest (uses ++ [use]) := by
  have ranks := ranked_concat_of_resolved resolved uses
  have size : next.size = cache.size := by
    rw [← inStepNext.length_order, order, length_filter_ne_concat keeps.inStep.nodup_order cached,
      keeps.inStep.length_order]
  have lengths : (ranked (uses ++ [use])).length = (ranked uses).length := by
    rw [ranks]
    exact length_filter_ne_concat (List.nodup_dedup _) (keeps.latest.mem cached)
  refine ⟨inStepNext, ?_, ?_, ?_, ?_⟩
  · rw [capacity]
    exact keeps.positive
  · rw [size, capacity]
    exact keeps.bounded
  · rw [order, ranks]
    obtain ⟨front, split⟩ := keeps.latest.filter (· ≠ use.method)
    exact ⟨front, by rw [← split, List.append_assoc]⟩
  · intro calm
    rw [size, capacity, lengths]
    exact keeps.full fun other member => calm other (List.mem_append_left _ member)

theorem KeepsLatest.keeps_latest_panicked (unresolved : use.resolved? = none)
    (order : next.order = cache.roomyOrder) : next.KeepsLatest (uses ++ [use]) := by
  have room := keeps.inStep.length_roomy_order_lt keeps.positive keeps.bounded
  refine ⟨inStepNext, ?_, ?_, ?_, ?_⟩
  · rw [capacity]
    exact keeps.positive
  · rw [← inStepNext.length_order, order, capacity]
    exact Nat.le_of_lt room
  · rw [order, ranked_concat_of_unresolved unresolved]
    exact cache.roomy_order_suffix.trans keeps.latest
  · intro calm
    exact absurd unresolved (calm use (by simp))

theorem KeepsLatest.keeps_latest_miss (resolved : use.resolved? = some use.method)
    (absent : use.method ∉ cache.order) (order : next.order = cache.roomyOrder ++ [use.method]) :
    next.KeepsLatest (uses ++ [use]) := by
  have ranks := ranked_concat_of_resolved resolved uses
  have room := keeps.inStep.length_roomy_order_lt keeps.positive keeps.bounded
  have size : next.size = cache.roomyOrder.length + 1 := by
    rw [← inStepNext.length_order, order, List.length_append, List.length_singleton]
  have latest : next.order <:+ ranked (uses ++ [use]) := by
    have apart : cache.roomyOrder.filter (· ≠ use.method) = cache.roomyOrder := by
      rw [List.filter_eq_self]
      intro other member
      rw [decide_eq_true_eq]
      rintro rfl
      exact absent (cache.roomy_order_suffix.mem member)
    obtain ⟨front, split⟩ :=
      (cache.roomy_order_suffix.trans keeps.latest).filter (· ≠ use.method)
    rw [apart] at split
    rw [order, ranks]
    exact ⟨front, by rw [← split, List.append_assoc]⟩
  refine ⟨inStepNext, ?_, ?_, latest, ?_⟩
  · rw [capacity]
    exact keeps.positive
  · rw [size, capacity]
    exact room
  · intro calm
    have before := keeps.full fun other member => calm other (List.mem_append_left _ member)
    have least := latest.length_le
    rw [inStepNext.length_order, size] at least
    rw [size, capacity]
    by_cases filled : cache.capacity ≤ cache.size
    · have bounded := keeps.bounded
      have counted := keeps.inStep.length_order
      have positive := keeps.positive
      rw [roomyOrder, if_pos filled, List.length_tail] at least ⊢
      omega
    · -- A cache that is not full holds all that was resolved, so this method is a new one.
      have whole : cache.order = ranked uses := by
        apply keeps.latest.eq_of_length
        rw [keeps.inStep.length_order]
        omega
      have apart : (ranked uses).filter (· ≠ use.method) = ranked uses := by
        rw [List.filter_eq_self]
        intro other member
        rw [decide_eq_true_eq]
        rintro rfl
        exact absent (whole ▸ member)
      rw [ranks, apart, List.length_append, List.length_singleton, roomyOrder, if_neg filled,
        whole]
      have counted := keeps.inStep.length_order
      rw [whole] at counted
      omega

end Step

variable {uses : List Use} {cache : RecentNames}

theorem KeepsLatest.keeps_latest_resolve (keeps : cache.KeepsLatest uses) (source : Metadata σ)
    (method : MethodId) (context : WalkContext) (state : σ) :
    (cache.resolve source method context state).2.1.KeepsLatest
      (uses ++ [⟨method, (cache.resolve source method context state).1⟩]) := by
  obtain ⟨inStep, capacity, reordered⟩ := keeps.inStep.in_step_resolve source method context state
  cases reordered with
  | hit resolved cached order =>
      exact keeps.keeps_latest_hit inStep capacity resolved cached order
  | miss resolved absent order =>
      exact keeps.keeps_latest_miss inStep capacity resolved absent order
  | panicked unresolved absent order =>
      exact keeps.keeps_latest_panicked inStep capacity unresolved order

/-- Whatever a cache is consulted for, it keeps the latest of all uses. -/
theorem KeepsLatest.keeps_latest_consult (keeps : cache.KeepsLatest uses) (source : Metadata σ)
    (state : σ) (consultations : List Consultation) :
    (cache.consult source state consultations).2.1.KeepsLatest
        (uses ++ (cache.consult source state consultations).1) ∧
      (cache.consult source state consultations).2.1.capacity = cache.capacity := by
  induction consultations generalizing uses cache state with
  | nil =>
      rw [RecentNames.consult, List.append_nil]
      exact ⟨keeps, rfl⟩
  | cons consultation later induction =>
      cases consultation with
      | contains method => exact induction keeps state
      | counts => exact induction keeps state
      | resolve method context =>
          obtain ⟨-, capacity, -⟩ := keeps.inStep.in_step_resolve source method context state
          obtain ⟨last, same⟩ := induction (keeps.keeps_latest_resolve source method context state)
            (cache.resolve source method context state).2.2
          rw [List.append_assoc] at last
          exact ⟨last, same.trans capacity⟩

/-- Evicting again and again takes the methods out in the order of their last uses. -/
theorem InStep.iterate_evict (inStep : cache.InStep) (count : Nat) :
    (RecentNames.evict^[count] cache).InStep ∧
      (RecentNames.evict^[count] cache).order = cache.order.drop count := by
  induction count with
  | zero => exact ⟨inStep, rfl⟩
  | succ count induction =>
      rw [Function.iterate_succ_apply', order_evict, induction.2, List.tail_drop]
      exact ⟨induction.1.in_step_evict, rfl⟩

theorem consult_filter_is_use (cache : RecentNames) (source : Metadata σ) (state : σ)
    (consultations : List Consultation) :
    cache.consult source state (consultations.filter Consultation.isUse) =
      cache.consult source state consultations := by
  induction consultations generalizing cache state with
  | nil => rfl
  | cons consultation later induction =>
      cases consultation with
      | contains method => exact induction cache state
      | counts => exact induction cache state
      | resolve method context =>
          rw [List.filter_cons_of_pos rfl, consult_resolve, consult_resolve]
          dsimp only
          rw [induction]

end RecentNames

theorem ranked_of_calm {uses : List Use} (calm : ∀ use ∈ uses, use.resolved? ≠ none) :
    ranked uses = (uses.map Use.method).dedup := by
  have all : uses.filterMap Use.resolved? = uses.map Use.method := by
    rw [← List.filterMap_eq_map]
    apply List.filterMap_congr
    rintro ⟨method, outcome⟩ member
    have resolved := calm _ member
    cases outcome with
    | error panic => exact absurd rfl resolved
    | ok name => rfl
  rw [ranked, all]

/-- Whatever a metadata source answers, and wherever it panics: the methods that a cache holds are
those whose names were resolved last, as many as its size, and it would evict them in the order of
their last uses, the oldest first. It never holds more than it may, and if nothing panicked it holds
as many as were ever resolved or as it may hold. What is asked of it besides names changes
nothing. -/
theorem holds_latest_used {σ : Type} (source : Metadata σ) (capacity : Nat) (state : σ)
    (consultations : List Consultation) :
    let run := (RecentNames.ofCapacity capacity).consult source state consultations
    let uses := run.1
    let cache := run.2.1
    let kept := (ranked uses).drop ((ranked uses).length - cache.size)
    kept.length = cache.size ∧
    (∀ count method,
      (RecentNames.evict^[count] cache).contains method = true ↔ method ∈ kept.drop count) ∧
    cache.size ≤ max capacity 1 ∧
    ((∀ use ∈ uses, use.resolved? ≠ none) →
      cache.size = min (max capacity 1) (uses.map Use.method).dedup.length) ∧
    (RecentNames.ofCapacity capacity).consult source state
      (consultations.filter Consultation.isUse) = run := by
  intro run uses cache kept
  obtain ⟨keeps, bound⟩ :=
    (RecentNames.keeps_latest_of_capacity capacity).keeps_latest_consult source state consultations
  rw [List.nil_append] at keeps
  have order : cache.order = kept := by
    have split := List.suffix_iff_eq_drop.mp keeps.latest
    rw [keeps.inStep.length_order] at split
    exact split
  refine ⟨?_, ?_, ?_, ?_, RecentNames.consult_filter_is_use _ source state consultations⟩
  · rw [← order]
    exact keeps.inStep.length_order
  · intro count method
    obtain ⟨inStep, left⟩ := keeps.inStep.iterate_evict count
    rw [← inStep.mem_order, left, ← order]
  · exact keeps.bounded.trans (Nat.le_of_eq bound)
  · intro calm
    have full := keeps.full calm
    rw [bound, ranked_of_calm calm] at full
    exact full

def forgetfulSource : Metadata Unit where
  describe method _ _ :=
    (if method = ⟨9⟩ then .panic "gone" else .ok ⟨none, "m"⟩, ())
  typeName _ _ := (.error .notFound, ())

/-- The third use keeps the first method from being the oldest one, and asking for the second one
does not. -/
theorem holds_latest_used_touched :
    let run := (RecentNames.ofCapacity 2).consult forgetfulSource ()
      [.resolve ⟨1⟩ ⟨0⟩, .resolve ⟨2⟩ ⟨0⟩, .resolve ⟨1⟩ ⟨0⟩, .contains ⟨2⟩, .resolve ⟨3⟩ ⟨0⟩]
    (∀ use ∈ run.1, use.resolved? ≠ none) ∧ run.2.1.size = 2 ∧
      run.2.1.contains ⟨1⟩ = true ∧ run.2.1.contains ⟨2⟩ = false ∧
      run.2.1.evict.contains ⟨1⟩ = false ∧ run.2.1.evict.contains ⟨3⟩ = true := by
  intro run
  have calm : ∀ use ∈ run.1, use.resolved? ≠ none := by decide +kernel
  have latest : ranked run.1 = [⟨2⟩, ⟨1⟩, ⟨3⟩] := by decide +kernel
  obtain ⟨-, held, -, full, -⟩ := holds_latest_used forgetfulSource 2 ()
    [.resolve ⟨1⟩ ⟨0⟩, .resolve ⟨2⟩ ⟨0⟩, .resolve ⟨1⟩ ⟨0⟩, .contains ⟨2⟩, .resolve ⟨3⟩ ⟨0⟩]
  have size : run.2.1.size = 2 := full calm
  have kept : ∀ count method, (RecentNames.evict^[count] run.2.1).contains method = true ↔
      method ∈ ([⟨1⟩, ⟨3⟩] : List MethodId).drop count := by
    intro count method
    rw [held, latest, size]
    rfl
  refine ⟨calm, size, (kept 0 ⟨1⟩).mpr (by decide), ?_, ?_, (kept 1 ⟨3⟩).mpr (by decide)⟩
  · exact Bool.eq_false_iff.mpr (mt (kept 0 ⟨2⟩).mp (by decide))
  · exact Bool.eq_false_iff.mpr (mt (kept 1 ⟨1⟩).mp (by decide))

/-- A panic behind an eviction leaves one name less. -/
example : ((RecentNames.ofCapacity 2).consult forgetfulSource ()
    [.resolve ⟨1⟩ ⟨0⟩, .resolve ⟨2⟩ ⟨0⟩, .resolve ⟨9⟩ ⟨0⟩]).2.1.order = [⟨2⟩] := by
  cbv

end StackSampler
