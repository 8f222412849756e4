import StackSampler.Proofs.Method.UseOrder
import StackSampler.Proofs.Wire.Effects

/-!
# Renaming methods

A writer asks of two methods only whether they are the same one. If the methods of a run get other
numbers, different ones for different methods, every call is therefore answered as before and the
buffer is the same to the byte.
-/

namespace StackSampler.Wire

def Call.rename (naming : MethodId → MethodId) : Call → Call
  | .addFrame method name => .addFrame (naming method) name
  | call => call

/-- What a caller sees of a call, and of the writer behind it. Only a frame's call has a result. -/
structure Sight where
  answer : Except Misuse (Option Bool)
  position : Nat
  truncated : Bool
  refused : Nat
  methodCount : Nat
deriving DecidableEq

/-- Whether a table gives the renamed methods the codes that another one gives the methods. -/
structure Recodes (naming : MethodId → MethodId) (codes renamed : Std.TreeMap MethodId Nat) :
    Prop where
  code : ∀ method : MethodId, renamed[naming method]? = codes[method]?
  count : renamed.size = codes.size

/-- The next new method gets the next code in both tables. Another method does not get it, since no
two methods are renamed alike. -/
theorem Recodes.recodes_insert {naming : MethodId → MethodId}
    {codes renamed : Std.TreeMap MethodId Nat} (recodes : Recodes naming codes renamed)
    (injective : Function.Injective naming) (method : MethodId) (code : Nat) :
    Recodes naming (codes.insert method code) (renamed.insert (naming method) code) := by
  constructor
  · intro other
    ext found
    rw [getElem?_insert_eq_some_iff, getElem?_insert_eq_some_iff, recodes.code, injective.eq_iff,
      injective.ne_iff]
  · rw [Std.TreeMap.size_insert, Std.TreeMap.size_insert, Std.TreeMap.contains_eq_isSome_getElem?,
      Std.TreeMap.contains_eq_isSome_getElem?, recodes.code, recodes.count]

namespace Writer

def answer (writer : Writer) : Call → Except Misuse (Option Bool)
  | .addFrame method name => .ok (some (writer.addFrame method name).1)
  | .openSample thread identity => (writer.openSample thread identity).map fun _ => none
  | _ => .ok none

def sight (writer : Writer) (call : Call) : Sight where
  answer := writer.answer call
  position := (writer.after call).position
  truncated := (writer.after call).truncated
  refused := (writer.after call).refused
  methodCount := (writer.after call).methodCount

def sights (writer : Writer) : List Call → List Sight
  | [] => []
  | call :: calls => writer.sight call :: (writer.after call).sights calls

def recoded (writer : Writer) (codes : Std.TreeMap MethodId Nat) : Writer := { writer with codes }

variable (writer : Writer) (codes : Std.TreeMap MethodId Nat)

theorem append_recoded (record : List UInt8) :
    (writer.recoded codes).append record =
      ((writer.append record).1, (writer.append record).2.recoded codes) := by
  change (if writer.phase = .finished then (false, writer.recoded codes)
    else if writer.admits record.length then (true, (writer.put record).recoded codes)
    else (false, writer.refuse.recoded codes)) = _
  rw [append]
  split
  · rfl
  · split <;> rfl

theorem open_sample_recoded (thread : ThreadHandle) (identity : ThreadIdentity) :
    (writer.recoded codes).openSample thread identity =
      (writer.openSample thread identity).map (·.recoded codes) := by
  rw [openSample, openSample, append_recoded]
  change (if writer.phase = .inSample then _ else _) = _
  split
  · rfl
  · rcases writer.append (sampleHeader thread identity) with ⟨_ | _, next⟩ <;> rfl

theorem close_sample_recoded :
    (writer.recoded codes).closeSample = writer.closeSample.recoded codes := by
  rw [closeSample, closeSample]
  change (if writer.phase = .inSample then _ else _) = _
  split <;> rfl

theorem close_batch_recoded :
    (writer.recoded codes).closeBatch = writer.closeBatch.recoded codes := by
  rw [closeBatch, closeBatch, close_sample_recoded]
  change (if writer.phase = .finished then _ else _) = _
  split <;> rfl

variable {writer codes}

theorem add_frame_of_found {method : MethodId} {code : Nat} (inside : writer.phase = .inSample)
    (found : writer.codes[method]? = some code) (name : String) :
    writer.addFrame method name = writer.append (reference code) := by
  rw [addFrame, if_neg (not_not_intro inside), found]

theorem add_frame_of_absent {method : MethodId} (inside : writer.phase = .inSample)
    (absent : writer.codes[method]? = none) (name : String) :
    writer.addFrame method name =
      if maxCode < writer.methodCount + 1 then (false, writer.refuse)
      else
        match writer.append (definition (writer.methodCount + 1) name) with
        | (true, next) =>
            (true, { next with codes := next.codes.insert method (writer.methodCount + 1) })
        | (false, next) => (false, next) := by
  rw [addFrame, if_neg (not_not_intro inside)]
  generalize writer.codes[method]? = code at absent ⊢
  cases absent
  rfl

theorem codes_append (writer : Writer) (record : List UInt8) :
    (writer.append record).2.codes = writer.codes := by
  rcases writer.append_cases record with ⟨written, -⟩ | ⟨same, refused, kept, -⟩
  · rw [written]
    rfl
  · rw [refused]
    exact kept.codes

section Renamed

variable {naming : MethodId → MethodId} (injective : Function.Injective naming)
  (recodes : Recodes naming writer.codes codes)
include injective recodes

theorem add_frame_recoded (method : MethodId) (name : String) :
    ∃ next, Recodes naming (writer.addFrame method name).2.codes next ∧
      (writer.recoded codes).addFrame (naming method) name =
        ((writer.addFrame method name).1, (writer.addFrame method name).2.recoded next) := by
  have count : (writer.recoded codes).methodCount = writer.methodCount := recodes.count
  have code : (writer.recoded codes).codes[naming method]? = writer.codes[method]? :=
    recodes.code method
  by_cases inside : writer.phase = .inSample
  · have insideRecoded : (writer.recoded codes).phase = .inSample := inside
    cases found : writer.codes[method]? with
    | some known =>
        rw [add_frame_of_found inside found,
          add_frame_of_found insideRecoded (code.trans found), append_recoded, codes_append]
        exact ⟨codes, recodes, rfl⟩
    | none =>
        rw [add_frame_of_absent inside found, add_frame_of_absent insideRecoded (code.trans found),
          count, append_recoded]
        by_cases exhausted : maxCode < writer.methodCount + 1
        · rw [if_pos exhausted, if_pos exhausted]
          exact ⟨codes, recodes, rfl⟩
        · rw [if_neg exhausted, if_neg exhausted]
          rw [← codes_append writer (definition (writer.methodCount + 1) name)] at recodes
          generalize writer.append (definition _ name) = appended at recodes ⊢
          rcases appended with ⟨_ | _, next⟩
          · exact ⟨codes, recodes, rfl⟩
          · exact ⟨_, recodes.recodes_insert injective method (writer.methodCount + 1), rfl⟩
  · have outside : (writer.recoded codes).phase ≠ .inSample := inside
    rw [add_frame_outside inside, add_frame_outside outside]
    exact ⟨codes, recodes, rfl⟩

theorem after_recoded (call : Call) :
    ∃ next, Recodes naming (writer.after call).codes next ∧
      (writer.recoded codes).after (call.rename naming) = (writer.after call).recoded next ∧
      (writer.recoded codes).answer (call.rename naming) = writer.answer call := by
  have kept : (∀ method name, call ≠ .addFrame method name) →
      Recodes naming (writer.after call).codes codes := by
    intro notFrame
    rw [codes_after_of_ne_add_frame notFrame]
    exact recodes
  cases call with
  | addFrame method name =>
      obtain ⟨next, keptNext, same⟩ := add_frame_recoded injective recodes method name
      refine ⟨next, keptNext, congrArg Prod.snd same, ?_⟩
      change Except.ok (some ((writer.recoded codes).addFrame (naming method) name).1) = _
      rw [same]
      rfl
  | openBatch =>
      have same := writer.append_recoded codes [batchStart]
      exact ⟨codes, kept (by rintro _ _ ⟨⟩), congrArg Prod.snd same, rfl⟩
  | openSample thread identity =>
      have same := writer.open_sample_recoded codes thread identity
      refine ⟨codes, kept (by rintro _ _ ⟨⟩), ?_, ?_⟩
      · change (writer.recoded codes).after (.openSample thread identity) = _
        rw [after, after, same]
        cases writer.openSample thread identity <;> rfl
      · change (writer.recoded codes).answer (.openSample thread identity) = _
        rw [answer, answer, same]
        cases writer.openSample thread identity <;> rfl
  | closeSample => exact ⟨codes, kept (by rintro _ _ ⟨⟩), writer.close_sample_recoded codes, rfl⟩
  | closeBatch => exact ⟨codes, kept (by rintro _ _ ⟨⟩), writer.close_batch_recoded codes, rfl⟩

theorem run_recoded (calls : List Call) :
    ∃ next, Recodes naming (writer.run calls).codes next ∧
      (writer.recoded codes).run (calls.map (Call.rename naming)) =
        (writer.run calls).recoded next ∧
      (writer.recoded codes).sights (calls.map (Call.rename naming)) = writer.sights calls := by
  induction calls generalizing writer codes with
  | nil => exact ⟨codes, recodes, rfl, rfl⟩
  | cons call calls induction =>
      obtain ⟨next, kept, reached, answered⟩ := after_recoded injective recodes call
      obtain ⟨last, keptLast, ran, seen⟩ := induction kept
      have sight : (writer.recoded codes).sight (call.rename naming) = writer.sight call := by
        rw [Writer.sight, Writer.sight, answered, reached]
        congr 1
        exact kept.count
      refine ⟨last, keptLast, ?_, ?_⟩
      · rw [List.map_cons, run, List.foldl_cons, reached]
        exact ran
      · rw [List.map_cons, sights, sights, sight, reached, seen]

end Renamed

/-- If the methods of a run get other numbers, different ones for different methods, every call is
answered as before, the writer shows the same behind every call, and the finished buffer has the
same bytes. -/
theorem renaming_is_invisible {naming : MethodId → MethodId}
    (injective : Function.Injective naming) (capacity : Nat) (calls : List Call) :
    (ofCapacity capacity).sights (calls.map (Call.rename naming)) =
        (ofCapacity capacity).sights calls ∧
      ((ofCapacity capacity).run (calls.map (Call.rename naming))).finish =
        ((ofCapacity capacity).run calls).finish := by
  have fresh : Recodes naming (ofCapacity capacity).codes ∅ := by
    constructor
    · intro method
      simp [ofCapacity]
    · rfl
  obtain ⟨next, -, ran, seen⟩ := run_recoded injective fresh calls
  refine ⟨seen, ?_⟩
  have closed := ((ofCapacity capacity).run calls).close_batch_recoded next
  change ((((ofCapacity capacity).recoded ∅).run _).closeBatch).bytes.toList = _
  rw [ran, closed]
  rfl

/-- The next number; behind the largest one comes the number of native frames. -/
def nextMethod (method : MethodId) : MethodId := ⟨method.word + 1⟩

def crowdedCalls : List Call :=
  [.openBatch, .addFrame ⟨7⟩ "outside", .openSample ⟨1⟩ {}, .addFrame ⟨0⟩ "A",
    .addFrame ⟨0xffffffffffffffff⟩ "B", .addFrame ⟨0⟩ "again", .openSample ⟨2⟩ {},
    .addFrame ⟨9⟩ "C", .closeBatch]

theorem renaming_is_invisible_crowded :
    Function.Injective nextMethod ∧
      (ofCapacity 36).sights (crowdedCalls.map (Call.rename nextMethod)) =
        [⟨.ok none, 1, false, 0, 0⟩, ⟨.ok (some false), 1, false, 0, 0⟩,
          ⟨.ok none, 14, false, 0, 0⟩, ⟨.ok (some true), 22, false, 0, 1⟩,
          ⟨.ok (some true), 30, false, 0, 2⟩, ⟨.ok (some true), 32, false, 0, 2⟩,
          ⟨.error .sampleInsideSample, 32, false, 0, 2⟩, ⟨.ok (some false), 32, true, 1, 2⟩,
          ⟨.ok none, 35, true, 1, 2⟩] ∧
      ((ofCapacity 36).run (crowdedCalls.map (Call.rename nextMethod))).finish =
        [1, 2, 0, 0, 0, 1, 0, 0, 0, 0, 0, 0, 0, 0,
          255, 255, 0, 0, 0, 1, 0, 65, 255, 254, 0, 0, 0, 1, 0, 66, 0, 1, 0, 0, 6] := by
  have injective : Function.Injective nextMethod := by
    intro method other same
    have words : method.word + 1 = other.word + 1 := congrArg MethodId.word same
    cases method
    cases other
    rw [MethodId.mk.injEq]
    exact (UInt64.add_left_inj 1).mp words
  obtain ⟨seen, written⟩ := renaming_is_invisible injective 36 crowdedCalls
  exact ⟨injective, seen.trans (by decide +kernel), written.trans (by decide +kernel)⟩

/-- Methods that are given one number can no longer be told apart. -/
example :
    ((ofCapacity 36).run (crowdedCalls.map (Call.rename fun _ => ⟨0⟩))).methodCount = 1 := by
  decide +kernel

end Writer

end StackSampler.Wire
