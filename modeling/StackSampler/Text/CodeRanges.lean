/-!
Sets of characters as ranges of their codes.

Ranges are closed, ascend and do not touch, so a look-up stops at the first range that starts behind
the code it looks for. The main statement is that this early stop loses nothing.
-/

namespace StackSampler.Text

abbrev CodeRanges := List (Nat × Nat)

namespace CodeRanges

/-- Whether a code is in one of the ranges, the first range behind it ending the search. -/
def contains : CodeRanges → Nat → Bool
  | [], _ => false
  | (first, last) :: more, code => first ≤ code && (code ≤ last || contains more code)

/-- No range is empty and each one leaves a gap behind the one before it. -/
def ascend : CodeRanges → Bool
  | [] => true
  | [(first, last)] => first ≤ last
  | (first, last) :: (next, final) :: more =>
      first ≤ last && last + 1 < next && ascend ((next, final) :: more)

theorem first_le_of_ascend {first last : Nat} {more : CodeRanges}
    (ascending : ascend ((first, last) :: more) = true) :
    ∀ range ∈ more, first ≤ range.1 := by
  induction more generalizing first last with
  | nil => intro range inside; cases inside
  | cons next more ih =>
      obtain ⟨next, final⟩ := next
      simp only [ascend, Bool.and_eq_true, decide_eq_true_eq] at ascending
      intro range inside
      cases inside with
      | head => simp only; omega
      | tail _ behind =>
          have := ih ascending.2 range behind
          omega

theorem ascend_tail {range : Nat × Nat} {more : CodeRanges}
    (ascending : ascend (range :: more) = true) : ascend more = true := by
  cases more with
  | nil => rfl
  | cons next more =>
      simp only [ascend, Bool.and_eq_true] at ascending
      exact ascending.2

/-- The early stop loses nothing: a look-up answers for all of the ranges. -/
theorem contains_iff {ranges : CodeRanges} (ascending : ascend ranges = true) (code : Nat) :
    ranges.contains code = true ↔ ∃ range ∈ ranges, range.1 ≤ code ∧ code ≤ range.2 := by
  induction ranges with
  | nil => simp [contains]
  | cons range more ih =>
      obtain ⟨first, last⟩ := range
      have behind := first_le_of_ascend ascending
      simp only [contains, Bool.and_eq_true, Bool.or_eq_true, decide_eq_true_eq,
        ih (ascend_tail ascending), List.mem_cons, exists_eq_or_imp]
      constructor
      · rintro ⟨above, below | found⟩
        · exact Or.inl ⟨above, below⟩
        · exact Or.inr found
      · rintro (⟨above, below⟩ | ⟨range, inside, above, below⟩)
        · exact ⟨above, Or.inl below⟩
        · exact ⟨Nat.le_trans (behind range inside) above, Or.inr ⟨range, inside, above, below⟩⟩

end CodeRanges

end StackSampler.Text
