import Mathlib.Data.List.Sort
import StackSampler.Method.RecentNames

/-!
# The order of last uses

A cache numbers uses and keeps, beside its names, a second table from the number of each name's last
use to its method. As long as the two tables say the same, the second one read by its numbers lists
the cached methods, the one whose last use is oldest first. Each operation is described here by what
it does to that list.
-/

namespace StackSampler

section Entries

variable {α : Type}

section Keys

variable {κ : Type} [Ord κ] [Std.TransOrd κ] [Std.LawfulEqOrd κ] {table : Std.TreeMap κ α}
  {key other : κ} {value found : α}

theorem getElem?_erase_eq_some_iff :
    (table.erase key)[other]? = some found ↔ key ≠ other ∧ table[other]? = some found := by
  by_cases same : key = other
  · simp [same]
  · have apart : compare key other ≠ .eq := mt Std.LawfulEqOrd.eq_of_compare same
    simp [Std.TreeMap.getElem?_erase, apart, same]

theorem getElem?_insert_eq_some_iff :
    (table.insert key value)[other]? = some found ↔
      (key = other ∧ value = found) ∨ (key ≠ other ∧ table[other]? = some found) := by
  by_cases same : key = other
  · simp [same]
  · have apart : compare key other ≠ .eq := mt Std.LawfulEqOrd.eq_of_compare same
    simp [Std.TreeMap.getElem?_insert, apart, same]

end Keys

/-- Lists of entries with ascending keys are equal if they hold the same entries. -/
theorem eq_of_ascending_of_mem_iff {first second : List (Nat × α)}
    (ascending : first.Pairwise (fun left right => left.1 < right.1))
    (ascendingOther : second.Pairwise (fun left right => left.1 < right.1))
    (same : ∀ key value, (key, value) ∈ first ↔ (key, value) ∈ second) : first = second := by
  have distinct : ∀ {entries : List (Nat × α)},
      entries.Pairwise (fun left right => left.1 < right.1) → entries.Nodup :=
    fun ascending => ascending.imp fun less same => Nat.ne_of_lt less (congrArg Prod.fst same)
  have permuted : first.Perm second :=
    (List.perm_ext_iff_of_nodup (distinct ascending) (distinct ascendingOther)).mpr
      fun entry => same entry.1 entry.2
  apply permuted.eq_of_pairwise _ ascending ascendingOther
  intro left right _ _ less greater
  exact absurd (Nat.lt_trans less greater) (Nat.lt_irrefl _)

variable (table : Std.TreeMap Nat α)

theorem ascending_toList : table.toList.Pairwise (fun left right => left.1 < right.1) :=
  Std.TreeMap.ordered_keys_toList.imp Nat.compare_eq_lt.mp

theorem head?_toList : table.toList.head? = table.minEntry? := by
  change (Std.DTreeMap.Internal.Impl.Const.toList table.inner.inner).head? =
    Std.DTreeMap.Internal.Impl.Const.minEntry? table.inner.inner
  rw [Std.DTreeMap.Internal.Impl.Const.toList_eq_toListModel_map]
  generalize table.inner.inner = tree
  fun_induction Std.DTreeMap.Internal.Impl.Const.minEntry? tree with
  | case1 => rfl
  | case2 => rfl
  | case3 size key value size' key' value' left right other induction =>
      rw [← induction]
      simp [Std.DTreeMap.Internal.Impl.toListModel, List.head?_append]

theorem toList_erase (key : Nat) :
    (table.erase key).toList = table.toList.filter (·.1 ≠ key) := by
  apply eq_of_ascending_of_mem_iff (ascending_toList _) ((ascending_toList table).filter _)
  intro other value
  rw [List.mem_filter, Std.TreeMap.mem_toList_iff_getElem?_eq_some,
    Std.TreeMap.mem_toList_iff_getElem?_eq_some, getElem?_erase_eq_some_iff, decide_eq_true_eq,
    and_comm, ne_comm]

theorem toList_insert_of_lt {key : Nat} (newest : ∀ entry ∈ table.toList, entry.1 < key)
    (value : α) : (table.insert key value).toList = table.toList ++ [(key, value)] := by
  apply eq_of_ascending_of_mem_iff (ascending_toList _)
  · rw [List.pairwise_append]
    exact ⟨ascending_toList table, List.pairwise_singleton _ _, by simpa using newest⟩
  · intro other found
    have before : (other, found) ∈ table.toList → key ≠ other :=
      fun member => Nat.ne_of_gt (newest _ member)
    rw [List.mem_append, List.mem_singleton, Std.TreeMap.mem_toList_iff_getElem?_eq_some,
      getElem?_insert_eq_some_iff, ← Std.TreeMap.mem_toList_iff_getElem?_eq_some, Prod.mk.injEq]
    constructor
    · rintro (⟨rfl, rfl⟩ | ⟨-, member⟩)
      · exact .inr ⟨rfl, rfl⟩
      · exact .inl member
    · rintro (member | ⟨rfl, rfl⟩)
      · exact .inr ⟨before member, member⟩
      · exact .inl ⟨rfl, rfl⟩

end Entries

namespace RecentNames

def order (cache : RecentNames) : List MethodId := cache.uses.toList.map Prod.snd

/-- Whether the two tables say the same of every last use, and no use is still to come. -/
structure InStep (cache : RecentNames) : Prop where
  linked : ∀ use method, cache.uses[use]? = some method ↔
    ∃ name, cache.names[method]? = some (CachedName.mk name use)
  past : ∀ use method, cache.uses[use]? = some method → use ≤ cache.clock

theorem in_step_of_capacity (capacity : Nat) : (ofCapacity capacity).InStep where
  linked := by simp [ofCapacity]
  past := by simp [ofCapacity]

theorem contains_eq (cache : RecentNames) (method : MethodId) :
    cache.contains method = cache.names[method]?.isSome :=
  Std.TreeMap.contains_eq_isSome_getElem?

section InStep

variable {cache : RecentNames} (inStep : cache.InStep)
include inStep

theorem InStep.mem_toList (use : Nat) (method : MethodId) :
    (use, method) ∈ cache.uses.toList ↔
      ∃ name, cache.names[method]? = some (CachedName.mk name use) := by
  rw [Std.TreeMap.mem_toList_iff_getElem?_eq_some, inStep.linked]

theorem InStep.eq_of_method {use other : Nat} {method : MethodId}
    (first : cache.uses[use]? = some method) (second : cache.uses[other]? = some method) :
    use = other := by
  obtain ⟨name, found⟩ := (inStep.linked use method).mp first
  obtain ⟨nameOther, foundOther⟩ := (inStep.linked other method).mp second
  rw [found, Option.some.injEq, CachedName.mk.injEq] at foundOther
  exact foundOther.2

theorem InStep.mem_order (method : MethodId) :
    method ∈ cache.order ↔ cache.contains method = true := by
  rw [contains_eq, order, List.mem_map]
  constructor
  · rintro ⟨⟨use, _⟩, listed, rfl⟩
    obtain ⟨name, found⟩ := (inStep.mem_toList use _).mp listed
    rw [found]
    rfl
  · intro cached
    obtain ⟨⟨name, use⟩, found⟩ := Option.isSome_iff_exists.mp cached
    exact ⟨(use, method), (inStep.mem_toList use method).mpr ⟨name, found⟩, rfl⟩

theorem InStep.nodup_order : cache.order.Nodup := by
  rw [order, List.Nodup, List.pairwise_map]
  apply (ascending_toList cache.uses).imp_of_mem
  rintro ⟨use, method⟩ ⟨other, methodOther⟩ first second less same
  cases same
  have uses := inStep.eq_of_method (Std.TreeMap.mem_toList_iff_getElem?_eq_some.mp first)
    (Std.TreeMap.mem_toList_iff_getElem?_eq_some.mp second)
  exact Nat.ne_of_lt less uses

theorem InStep.length_order : cache.order.length = cache.size := by
  have permuted : cache.order.Perm cache.names.keys := by
    rw [List.perm_ext_iff_of_nodup inStep.nodup_order Std.TreeMap.nodup_keys]
    intro method
    rw [inStep.mem_order, Std.TreeMap.mem_keys]
    rfl
  rw [permuted.length_eq, Std.TreeMap.length_keys, size]

end InStep

/-- What is evicted is the method whose last use is oldest. -/
theorem order_evict (cache : RecentNames) : cache.evict.order = cache.order.tail := by
  have oldest := head?_toList cache.uses
  have ascending := ascending_toList cache.uses
  rw [evict, order]
  cases listed : cache.uses.toList with
  | nil =>
      rw [← oldest, listed]
      simp [order, listed]
  | cons entry entries =>
      rw [← oldest, listed]
      rw [listed, List.pairwise_cons] at ascending
      change ((cache.uses.erase entry.1).toList).map Prod.snd = _
      rw [toList_erase, listed, List.filter_cons_of_neg (by simp), List.filter_eq_self.mpr]
      · rw [order, listed]
        rfl
      · intro later member
        exact decide_eq_true (Nat.ne_of_gt (ascending.1 later member))

theorem order_make_room (cache : RecentNames) :
    cache.makeRoom.order =
      if cache.capacity ≤ cache.size then cache.order.tail else cache.order := by
  rw [makeRoom]
  split
  · exact cache.order_evict
  · rfl

theorem order_miss (cache : RecentNames) :
    cache.miss.order =
      if cache.capacity ≤ cache.size then cache.order.tail else cache.order :=
  order_make_room _

section InStep

variable {cache : RecentNames} (inStep : cache.InStep)
include inStep

theorem InStep.in_step_evict : cache.evict.InStep := by
  rw [RecentNames.evict, ← head?_toList]
  cases listed : cache.uses.toList with
  | nil => exact inStep
  | cons entry entries =>
      obtain ⟨oldest, victim⟩ := entry
      have own : cache.uses[oldest]? = some victim := by
        rw [← Std.TreeMap.mem_toList_iff_getElem?_eq_some, listed]
        exact List.mem_cons_self
      constructor
      · intro use method
        change (cache.uses.erase oldest)[use]? = some method ↔
          ∃ name, (cache.names.erase victim)[method]? = some (CachedName.mk name use)
        rw [getElem?_erase_eq_some_iff, inStep.linked]
        constructor
        · rintro ⟨other, name, found⟩
          refine ⟨name, getElem?_erase_eq_some_iff.mpr ⟨?_, found⟩⟩
          rintro rfl
          exact other (inStep.eq_of_method own ((inStep.linked use _).mpr ⟨name, found⟩))
        · rintro ⟨name, kept⟩
          obtain ⟨other, found⟩ := getElem?_erase_eq_some_iff.mp kept
          refine ⟨?_, name, found⟩
          rintro rfl
          rw [(inStep.linked oldest _).mpr ⟨name, found⟩, Option.some.injEq] at own
          exact other own.symm
      · intro use method found
        exact inStep.past use method (getElem?_erase_eq_some_iff.mp found).2

theorem InStep.in_step_make_room : cache.makeRoom.InStep := by
  rw [RecentNames.makeRoom]
  split
  · exact inStep.in_step_evict
  · exact inStep

theorem InStep.in_step_hit {method : MethodId} {cached : CachedName}
    (found : cache.names[method]? = some cached) :
    (cache.hit method cached).InStep ∧
      (cache.hit method cached).order = cache.order.filter (· ≠ method) ++ [method] := by
  have own : cache.uses[cached.lastUse]? = some method :=
    (inStep.linked _ _).mpr ⟨cached.name, found⟩
  refine ⟨⟨?_, ?_⟩, ?_⟩
  · intro use other
    change ((cache.uses.erase cached.lastUse).insert (cache.clock + 1) method)[use]? = some other ↔
      ∃ name, (cache.names.insert method ⟨cached.name, cache.clock + 1⟩)[other]? =
        some (CachedName.mk name use)
    rw [getElem?_insert_eq_some_iff, getElem?_erase_eq_some_iff]
    constructor
    · rintro (⟨rfl, rfl⟩ | ⟨-, earlier, used⟩)
      · exact ⟨cached.name, getElem?_insert_eq_some_iff.mpr (.inl ⟨rfl, rfl⟩)⟩
      · obtain ⟨name, listed⟩ := (inStep.linked use other).mp used
        refine ⟨name, getElem?_insert_eq_some_iff.mpr (.inr ⟨?_, listed⟩)⟩
        rintro rfl
        exact earlier (inStep.eq_of_method own used)
    · rintro ⟨name, listed⟩
      rcases getElem?_insert_eq_some_iff.mp listed with ⟨rfl, same⟩ | ⟨apart, kept⟩
      · cases same
        exact .inl ⟨rfl, rfl⟩
      · have used := (inStep.linked use other).mpr ⟨name, kept⟩
        refine .inr ⟨?_, ?_, used⟩
        · exact Nat.ne_of_gt (Nat.lt_succ_of_le (inStep.past use other used))
        · rintro rfl
          rw [own, Option.some.injEq] at used
          exact apart used
  · intro use other found
    rcases getElem?_insert_eq_some_iff.mp found with ⟨rfl, -⟩ | ⟨-, kept⟩
    · exact Nat.le_refl _
    · exact Nat.le_succ_of_le (inStep.past use other (getElem?_erase_eq_some_iff.mp kept).2)
  · have newest : ∀ entry ∈ (cache.uses.erase cached.lastUse).toList,
        entry.1 < cache.clock + 1 := by
      intro entry member
      rw [toList_erase, List.mem_filter, Std.TreeMap.mem_toList_iff_getElem?_eq_some] at member
      exact Nat.lt_succ_of_le (inStep.past _ _ member.1)
    change (((cache.uses.erase cached.lastUse).insert (cache.clock + 1) method).toList).map
      Prod.snd = _
    rw [toList_insert_of_lt _ newest, toList_erase, order, List.filter_map, List.map_append]
    congr 2
    apply List.filter_congr
    rintro ⟨use, other⟩ member
    have used := Std.TreeMap.mem_toList_iff_getElem?_eq_some.mp member
    have same : use = cached.lastUse ↔ other = method := by
      constructor
      · rintro rfl
        rw [own, Option.some.injEq] at used
        exact used.symm
      · rintro rfl
        exact inStep.eq_of_method used own
    simp [same]

end InStep

theorem InStep.in_step_keep {cache : RecentNames} (inStep : cache.InStep) {method : MethodId}
    (absent : cache.names[method]? = none)
    (newest : ∀ use other, cache.uses[use]? = some other → use < cache.clock) (name : String) :
    (cache.keep method name).InStep ∧
      (cache.keep method name).order = cache.order ++ [method] := by
  refine ⟨⟨?_, ?_⟩, ?_⟩
  · intro use other
    change (cache.uses.insert cache.clock method)[use]? = some other ↔
      ∃ kept, (cache.names.insert method ⟨name, cache.clock⟩)[other]? =
        some (CachedName.mk kept use)
    rw [getElem?_insert_eq_some_iff]
    constructor
    · rintro (⟨rfl, rfl⟩ | ⟨-, used⟩)
      · exact ⟨name, getElem?_insert_eq_some_iff.mpr (.inl ⟨rfl, rfl⟩)⟩
      · obtain ⟨kept, listed⟩ := (inStep.linked use other).mp used
        refine ⟨kept, getElem?_insert_eq_some_iff.mpr (.inr ⟨?_, listed⟩)⟩
        rintro rfl
        rw [absent] at listed
        cases listed
    · rintro ⟨kept, listed⟩
      rcases getElem?_insert_eq_some_iff.mp listed with ⟨rfl, same⟩ | ⟨-, earlier⟩
      · cases same
        exact .inl ⟨rfl, rfl⟩
      · have used := (inStep.linked use other).mpr ⟨kept, earlier⟩
        exact .inr ⟨Nat.ne_of_gt (newest use other used), used⟩
  · intro use other found
    rcases getElem?_insert_eq_some_iff.mp found with ⟨rfl, -⟩ | ⟨-, earlier⟩
    · exact Nat.le_refl _
    · exact inStep.past use other earlier
  · have listed : ∀ entry ∈ cache.uses.toList, entry.1 < cache.clock :=
      fun entry member => newest _ _ (Std.TreeMap.mem_toList_iff_getElem?_eq_some.mp member)
    change ((cache.uses.insert cache.clock method).toList).map Prod.snd = _
    rw [toList_insert_of_lt _ listed, List.map_append]
    rfl

end RecentNames

end StackSampler
