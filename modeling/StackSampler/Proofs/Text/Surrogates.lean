import Mathlib.Data.List.Basic
import StackSampler.Text.Units

/-!
# Surrogates without a partner

A unit sequence is no text exactly if one of its surrogates stands alone: a leading unit that no
trailing one follows, or a trailing unit that follows no leading one. A reader takes the units from
the front and pairs them as it goes, but which of them are pairs is settled by their neighbours.
-/

namespace StackSampler.Text

/-- Whether a surrogate of a unit sequence has no partner beside it. -/
def HasLoneSurrogate (units : List UInt16) : Prop :=
  ∃ front unit back, units = front ++ unit :: back ∧
    ((isLeading unit = true ∧ ∀ next ∈ back.head?, isTrailing next = false) ∨
      (isTrailing unit = true ∧ ∀ previous ∈ front.getLast?, isLeading previous = false))

theorem is_trailing_of_is_leading {unit : UInt16} (isLead : isLeading unit = true) :
    isTrailing unit = false := by
  rw [is_leading_iff] at isLead
  rw [← Bool.not_eq_true, is_trailing_iff]
  omega

theorem is_leading_of_is_trailing {unit : UInt16} (isTrail : isTrailing unit = true) :
    isLeading unit = false := by
  rw [← Bool.not_eq_true]
  intro isLead
  rw [is_trailing_of_is_leading isLead] at isTrail
  cases isTrail

section

variable {unit next : UInt16} {units : List UInt16}

theorem has_lone_surrogate_of_is_trailing (isTrail : isTrailing unit = true) :
    HasLoneSurrogate (unit :: units) :=
  ⟨[], unit, units, rfl, .inr ⟨isTrail, nofun⟩⟩

theorem has_lone_surrogate_of_is_leading (isLead : isLeading unit = true)
    (alone : ∀ next ∈ units.head?, isTrailing next = false) : HasLoneSurrogate (unit :: units) :=
  ⟨[], unit, units, rfl, .inl ⟨isLead, alone⟩⟩

/-- Only a leading unit in front of a sequence could be the partner of its first unit. -/
theorem HasLoneSurrogate.append_left (lone : HasLoneSurrogate units) (before : List UInt16)
    (ends : ∀ last ∈ before.getLast?, isLeading last = false) :
    HasLoneSurrogate (before ++ units) := by
  obtain ⟨front, found, back, rfl, lone⟩ := lone
  refine ⟨before ++ front, found, back, (List.append_assoc ..).symm, ?_⟩
  rcases lone with leading | ⟨isTrail, alone⟩
  · exact .inl leading
  · refine .inr ⟨isTrail, ?_⟩
    intro previous last
    rw [Option.mem_def, List.getLast?_append, Option.or_eq_some_iff] at last
    rcases last with own | ⟨-, earlier⟩
    · exact alone previous own
    · exact ends previous earlier

theorem has_lone_surrogate_cons_iff (notTrail : isTrailing unit = false)
    (notLead : isLeading unit = false) :
    HasLoneSurrogate (unit :: units) ↔ HasLoneSurrogate units := by
  constructor
  · rintro ⟨_ | ⟨first, front⟩, found, back, split, lone⟩
    · cases split
      rw [notTrail, notLead] at lone
      simp at lone
    · cases split
      refine ⟨front, found, back, rfl, lone.imp_right ?_⟩
      rintro ⟨isTrail, alone⟩
      exact ⟨isTrail, fun previous last => alone previous (List.mem_getLast?_cons last)⟩
  · intro lone
    exact lone.append_left [unit] (by simpa using notLead)

theorem has_lone_surrogate_pair_iff (isLead : isLeading unit = true)
    (isTrail : isTrailing next = true) :
    HasLoneSurrogate (unit :: next :: units) ↔ HasLoneSurrogate units := by
  constructor
  · rintro ⟨_ | ⟨first, _ | ⟨second, front⟩⟩, found, back, split, lone⟩
    · cases split
      rw [is_trailing_of_is_leading isLead] at lone
      simp [isTrail] at lone
    · cases split
      rw [is_leading_of_is_trailing isTrail] at lone
      simp [isLead] at lone
    · cases split
      refine ⟨front, found, back, rfl, lone.imp_right ?_⟩
      rintro ⟨isTrailFound, alone⟩
      refine ⟨isTrailFound, fun previous last => alone previous ?_⟩
      exact List.mem_getLast?_cons (List.mem_getLast?_cons last)
  · intro lone
    exact lone.append_left [unit, next] (by simpa using is_leading_of_is_trailing isTrail)

end

theorem not_has_lone_surrogate_nil : ¬HasLoneSurrogate [] := by
  rintro ⟨front, unit, back, split, -⟩
  simp at split

/-- Reading fails exactly for a surrogate without a partner. The unit that waits for one counts as
unread. -/
theorem chars_of_units_eq_none_iff (before : List Char) (waiting : Option UInt16)
    (lead : ∀ leading, waiting = some leading → isLeading leading = true) (units : List UInt16) :
    charsOfUnits? before waiting units = none ↔
      HasLoneSurrogate (waiting.toList ++ units) := by
  fun_induction charsOfUnits? before waiting units with
  | case1 before => simp [not_has_lone_surrogate_nil]
  | case2 before leading =>
      exact iff_of_true rfl (has_lone_surrogate_of_is_leading (lead leading rfl) (by simp))
  | case3 before leading unit rest isTrail induction =>
      rw [induction (by simp)]
      exact (has_lone_surrogate_pair_iff (lead leading rfl) isTrail).symm
  | case4 before leading unit rest notTrail =>
      refine iff_of_true rfl (has_lone_surrogate_of_is_leading (lead leading rfl) ?_)
      simpa using notTrail
  | case5 before unit rest isTrail =>
      exact iff_of_true rfl (has_lone_surrogate_of_is_trailing isTrail)
  | case6 before unit rest notTrail isLead induction =>
      exact induction (by simpa using isLead)
  | case7 before unit rest notTrail notLead induction =>
      rw [induction (by simp)]
      rw [Bool.not_eq_true] at notTrail notLead
      exact (has_lone_surrogate_cons_iff notTrail notLead).symm

theorem of_units_eq_none_iff (units : List UInt16) :
    ofUnits? units = none ↔ HasLoneSurrogate units := by
  rw [ofUnits?, Option.map_eq_none_iff]
  exact chars_of_units_eq_none_iff [] none (by simp) units

end StackSampler.Text
