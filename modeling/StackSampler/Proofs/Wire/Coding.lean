import Mathlib.Data.List.Basic
import Mathlib.Data.List.Induction
import StackSampler.Wire.Written

/-!
# The code table of a buffer

A reader checks frames one by one against the names defined so far, which is what `CodedAfter`
says. The rules of a buffer are stated over its whole frame list instead: definitions are numbered
in order, and every other frame repeats the code and the name of an earlier definition. The two
agree, because among numbered definitions a code is a position.
-/

namespace StackSampler.Wire

def definitions (frames : List Frame) : List Frame := frames.filter (·.defines)

def definedNames (frames : List Frame) : List String := (definitions frames).map (·.name)

theorem definitions_append (front back : List Frame) :
    definitions (front ++ back) = definitions front ++ definitions back :=
  List.filter_append ..

theorem defined_names_append (front back : List Frame) :
    definedNames (front ++ back) = definedNames front ++ definedNames back := by
  rw [definedNames, definitions_append, List.map_append]
  rfl

theorem coded_after_append (names : List String) (front back : List Frame) :
    CodedAfter names (front ++ back) ↔
      CodedAfter names front ∧ CodedAfter (names ++ definedNames front) back := by
  induction front generalizing names with
  | nil => simp [CodedAfter, definedNames, definitions]
  | cons frame front induction =>
      obtain ⟨code, name, defines⟩ := frame
      cases defines with
      | true =>
          have names : names ++ definedNames (⟨code, name, true⟩ :: front) =
              names ++ [name] ++ definedNames front := by
            simp [definedNames, definitions]
          simp only [List.cons_append, CodedAfter, induction, names, and_assoc]
      | false =>
          have names : names ++ definedNames (⟨code, name, false⟩ :: front) =
              names ++ definedNames front := by
            simp [definedNames, definitions]
          simp only [List.cons_append, CodedAfter, induction, names, and_assoc]

theorem concat_eq_append_cons {α : Type} {items front back : List α} {item last : α}
    (split : items ++ [last] = front ++ item :: back) :
    (items = front ∧ last = item ∧ back = []) ∨
      ∃ rest, items = front ++ item :: rest ∧ back = rest ++ [last] := by
  rcases List.eq_nil_or_concat back with rfl | ⟨rest, final, rfl⟩
  · obtain ⟨rfl, same⟩ := List.append_inj' split rfl
    cases same
    exact .inl ⟨rfl, rfl, rfl⟩
  · rw [List.concat_eq_append, ← List.cons_append, ← List.append_assoc] at split
    obtain ⟨rfl, same⟩ := List.append_inj' split rfl
    cases same
    exact .inr ⟨rest, rfl, List.concat_eq_append⟩

/-- The rules that tie the frames of one buffer together. -/
structure Coherent (frames : List Frame) : Prop where
  numbered : ∀ position frame, (definitions frames)[position]? = some frame →
    frame.code.toNat = position + 1 ∧ frame.code.toNat ≤ 0x8000 ∧ CountedText.Fits frame.name
  repeated : ∀ front frame back, frames = front ++ frame :: back → frame.defines = false →
    1 ≤ frame.code.toNat ∧ frame.code.toNat ≤ 0x7fff ∧
      ∃ definition ∈ front, definition.defines = true ∧ definition.code = frame.code ∧
        definition.name = frame.name

theorem coherent_nil : Coherent [] where
  numbered position frame found := by simp [definitions] at found
  repeated front frame back split := by simp at split

theorem Coherent.of_append {front back : List Frame} (coherent : Coherent (front ++ back)) :
    Coherent front where
  numbered position frame found := by
    apply coherent.numbered
    have bound := (List.getElem?_eq_some_iff.mp found).1
    rw [definitions_append, List.getElem?_append_left bound, found]
  repeated before frame after split := by
    apply coherent.repeated before frame (after ++ back)
    rw [split, List.append_assoc, List.cons_append]

theorem Coherent.getElem?_defined_names {frames : List Frame} (coherent : Coherent frames)
    (code : UInt16) (positive : 1 ≤ code.toNat) (name : String) :
    (definedNames frames)[code.toNat - 1]? = some name ↔
      ∃ definition ∈ frames, definition.defines = true ∧ definition.code = code ∧
        definition.name = name := by
  rw [definedNames, List.getElem?_map, Option.map_eq_some_iff]
  constructor
  · rintro ⟨definition, found, named⟩
    have member := List.mem_filter.mp (List.mem_of_getElem? found)
    -- What stands at a position carries the number of that position.
    have number := (coherent.numbered _ _ found).1
    refine ⟨definition, member.1, member.2, ?_, named⟩
    apply UInt16.toNat_inj.mp
    omega
  · rintro ⟨definition, member, defines, rfl, named⟩
    have listed : definition ∈ definitions frames := List.mem_filter.mpr ⟨member, defines⟩
    obtain ⟨position, found⟩ := List.mem_iff_getElem?.mp listed
    have number := (coherent.numbered _ _ found).1
    refine ⟨definition, ?_, named⟩
    rw [number, Nat.add_sub_cancel]
    exact found

theorem coherent_snoc (frames : List Frame) (last : Frame) (coherent : Coherent frames) :
    Coherent (frames ++ [last]) ↔ CodedAfter (definedNames frames) [last] := by
  obtain ⟨code, name, defines⟩ := last
  have count : (definedNames frames).length = (definitions frames).length := List.length_map ..
  cases defines with
  | true =>
      have listed : definitions (frames ++ [⟨code, name, true⟩]) =
          definitions frames ++ [⟨code, name, true⟩] := definitions_append ..
      simp only [CodedAfter, and_true, count]
      constructor
      · intro whole
        apply whole.numbered (definitions frames).length ⟨code, name, true⟩
        rw [listed, List.getElem?_concat_length]
      · intro next
        constructor
        · intro position frame found
          rw [listed] at found
          -- Only the last position is new.
          rcases Nat.lt_trichotomy position (definitions frames).length with early | same | late
          · rw [List.getElem?_append_left early] at found
            exact coherent.numbered position frame found
          · subst same
            rw [List.getElem?_concat_length] at found
            cases found
            exact next
          · rw [List.getElem?_eq_none (by simp; omega)] at found
            cases found
        · intro front frame back split references
          rcases concat_eq_append_cons split with ⟨-, rfl, -⟩ | ⟨rest, earlier, -⟩
          · cases references
          · exact coherent.repeated front frame rest earlier references
  | false =>
      have listed : definitions (frames ++ [⟨code, name, false⟩]) = definitions frames := by
        simp [definitions]
      simp only [CodedAfter, and_true]
      constructor
      · intro whole
        obtain ⟨positive, small, earlier⟩ := whole.repeated frames ⟨code, name, false⟩ [] rfl rfl
        exact ⟨positive, small, (coherent.getElem?_defined_names code positive name).mpr earlier⟩
      · rintro ⟨positive, small, found⟩
        constructor
        · rw [listed]
          exact coherent.numbered
        · intro front frame back split references
          rcases concat_eq_append_cons split with ⟨rfl, rfl, -⟩ | ⟨rest, earlier, -⟩
          · exact ⟨positive, small, (coherent.getElem?_defined_names code positive name).mp found⟩
          · exact coherent.repeated front frame rest earlier references

/-- The frame by frame check accepts exactly the coherent frame lists. -/
theorem coded_after_nil_iff_coherent (frames : List Frame) :
    CodedAfter [] frames ↔ Coherent frames := by
  induction frames using List.reverseRecOn with
  | nil => exact ⟨fun _ => coherent_nil, fun _ => trivial⟩
  | append_singleton frames last induction =>
      rw [coded_after_append, induction, List.nil_append]
      constructor
      · rintro ⟨coherent, next⟩
        exact (coherent_snoc frames last coherent).mpr next
      · intro whole
        exact ⟨whole.of_append, (coherent_snoc frames last whole.of_append).mp whole⟩

end StackSampler.Wire
