import StackSampler.Proofs.Wire.Stacks

/-!
# The code table of a writer

The codes that a writer gave so far are the ranks of the methods among the frames that it wrote. A
method that has a code keeps it, and the next new one gets the next code.
-/

namespace StackSampler.Wire

structure Ranks (codes : Std.TreeMap MethodId Nat) (frames : List NamedMethod) : Prop where
  rank : ∀ method, codes[method]? =
    if method ∈ methodsOf frames then some ((methodsOf frames).idxOf method + 1) else none
  count : codes.size = (methodsOf frames).length
  bounded : codes.size ≤ Writer.maxCode

theorem ranks_empty : Ranks ∅ [] := by
  constructor
  · intro method
    simp [methodsOf]
  · rfl
  · exact Nat.zero_le _

namespace Ranks

variable {codes : Std.TreeMap MethodId Nat} {frames : List NamedMethod} {method : MethodId}
  {code : Nat} (ranks : Ranks codes frames)
include ranks

theorem eq_of_found (found : codes[method]? = some code) :
    method ∈ methodsOf frames ∧ code = (methodsOf frames).idxOf method + 1 := by
  have table := ranks.rank method
  rw [found] at table
  by_cases seen : method ∈ methodsOf frames
  · rw [if_pos seen, Option.some.injEq] at table
    exact ⟨seen, table⟩
  · rw [if_neg seen] at table
    cases table

theorem new_of_absent (absent : codes[method]? = none) : method ∉ methodsOf frames := by
  intro seen
  have table := ranks.rank method
  rw [absent, if_pos seen] at table
  cases table

theorem toNat_of_found (found : codes[method]? = some code) :
    (UInt16.ofNat code).toNat = code ∧ code ≤ Writer.maxCode := by
  obtain ⟨seen, rank⟩ := ranks.eq_of_found found
  have position : (methodsOf frames).idxOf method < (methodsOf frames).length :=
    List.idxOf_lt_length_of_mem seen
  have count := ranks.count
  have bounded := ranks.bounded
  unfold Writer.maxCode at bounded ⊢
  rw [UInt16.toNat_ofNat', Nat.mod_eq_of_lt (by omega)]
  exact ⟨rfl, by omega⟩

theorem of_named_of_found (found : codes[method]? = some code) (name : String) :
    Frame.ofNamed (frames ++ [(method, name)]) frames (method, name) =
      ⟨UInt16.ofNat code, nameIn frames method, false⟩ := by
  obtain ⟨seen, rank⟩ := ranks.eq_of_found found
  have named : method ∈ frames.map Prod.fst := mem_methods_of.mp seen
  rw [of_named_append named, Frame.ofNamed, rank]
  simp [named]

theorem ranks_of_known (found : codes[method]? = some code) (name : String) :
    Ranks codes (frames ++ [(method, name)]) := by
  have same : methodsOf (frames ++ [(method, name)]) = methodsOf frames :=
    methods_of_concat_of_mem (mem_methods_of.mp (ranks.eq_of_found found).1)
  constructor
  · rw [same]
    exact ranks.rank
  · rw [same]
    exact ranks.count
  · exact ranks.bounded

theorem methods_of_absent (absent : codes[method]? = none) (name : String) :
    methodsOf (frames ++ [(method, name)]) = methodsOf frames ++ [method] :=
  methods_of_concat_of_not_mem (mt mem_methods_of.mpr (ranks.new_of_absent absent))

theorem of_named_of_absent (absent : codes[method]? = none) (name : String) :
    Frame.ofNamed (frames ++ [(method, name)]) frames (method, name) =
      ⟨UInt16.ofNat (codes.size + 1), name, true⟩ := by
  have new := ranks.new_of_absent absent
  have unnamed : method ∉ frames.map Prod.fst := mt mem_methods_of.mpr new
  rw [Frame.ofNamed, ranks.methods_of_absent absent, name_in_concat_of_not_mem unnamed,
    List.idxOf_append_of_notMem new, List.idxOf_cons_self, ranks.count]
  simp [unnamed]

theorem ranks_insert_next (absent : codes[method]? = none)
    (codeLeft : codes.size + 1 ≤ Writer.maxCode) (name : String) :
    Ranks (codes.insert method (codes.size + 1)) (frames ++ [(method, name)]) := by
  have new := ranks.new_of_absent absent
  have longer := ranks.methods_of_absent absent name
  have missing : codes.contains method = false := by
    rw [Std.TreeMap.contains_eq_isSome_getElem?, absent]
    rfl
  have size : (codes.insert method (codes.size + 1)).size = codes.size + 1 := by
    rw [Std.TreeMap.size_insert, missing]
    rfl
  constructor
  · intro other
    rw [longer]
    by_cases same : method = other
    · subst same
      rw [Std.TreeMap.getElem?_insert_self, if_pos (by simp), List.idxOf_append_of_notMem new,
        List.idxOf_cons_self, ranks.count]
    · -- The list grows at its end, so the ranks of the others stay.
      rw [Std.TreeMap.getElem?_insert, if_neg (mt Std.LawfulEqOrd.eq_of_compare same), ranks.rank]
      by_cases seen : other ∈ methodsOf frames
      · rw [if_pos seen, if_pos (by simp [seen]), List.idxOf_append_of_mem seen]
      · rw [if_neg seen, if_neg (by simp [seen, Ne.symm same])]
  · rw [longer, List.length_append, List.length_singleton, ← ranks.count]
    exact size
  · rw [size]
    exact codeLeft

end Ranks

end StackSampler.Wire
