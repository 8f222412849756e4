import Mathlib.Data.List.Induction
import StackSampler.Proofs.Method.UseOrder
import StackSampler.Proofs.Wire.Ranks
import StackSampler.Proofs.Wire.Refusals

/-!
# What the codes stand for

Along any run of a writer the code table numbers the methods whose definitions are in the buffer, in
the order of the definitions. Since the largest code is the largest signed 16-bit word, the code of
a frame is a positive word and that of a definition, which is its negation, a negative one; zero is
left to the end of a sample.
-/

namespace StackSampler.Wire

theorem toInt_code {code : Nat} (bounded : code ≤ Writer.maxCode) :
    (Int16.ofNat code).toInt = code ∧ (-Int16.ofNat code).toInt = -(code : Int) := by
  have value : (Int16.ofNat code).toInt = code := by
    apply Int16.toInt_ofNat_of_lt
    unfold Writer.maxCode at bounded
    omega
  refine ⟨value, ?_⟩
  rw [Int16.toInt_neg, value, Int.bmod_def]
  unfold Writer.maxCode at bounded
  omega

namespace Writer

theorem reference_eq (code : Nat) :
    reference code = BigEndian.bytes16 (Int16.ofNat code).toUInt16 := rfl

theorem definition_eq (code : Nat) (name : String) :
    definition code name =
      BigEndian.bytes16 (-Int16.ofNat code).toUInt16 ++ CountedText.encode name := rfl

end Writer

section Ranks

variable {codes : Std.TreeMap MethodId Nat} {frames : List NamedMethod} (ranks : Ranks codes frames)
include ranks

/-- A code tells the place of its method among all methods, counted from one. -/
theorem Ranks.found_iff (method : MethodId) (code : Nat) :
    codes[method]? = some code ↔
      ∃ place, (methodsOf frames)[place]? = some method ∧ code = place + 1 := by
  constructor
  · intro found
    obtain ⟨seen, rank⟩ := ranks.eq_of_found found
    exact ⟨_, List.getElem?_idxOf seen, rank⟩
  · rintro ⟨place, listed, rfl⟩
    have distinct : (methodsOf frames).Nodup := nodup_eraseDups _
    obtain ⟨within, rfl⟩ := List.getElem?_eq_some_iff.mp listed
    rw [ranks.rank, if_pos (List.getElem_mem within), distinct.idxOf_getElem]

theorem Ranks.exists_method_iff (code : Nat) :
    (∃ method : MethodId, codes[method]? = some code) ↔ 1 ≤ code ∧ code ≤ codes.size := by
  rw [ranks.count]
  constructor
  · rintro ⟨method, found⟩
    obtain ⟨place, listed, rfl⟩ := (ranks.found_iff method code).mp found
    have within := (List.getElem?_eq_some_iff.mp listed).1
    omega
  · rintro ⟨positive, bounded⟩
    have within : code - 1 < (methodsOf frames).length := by omega
    refine ⟨_, (ranks.found_iff _ code).mpr ⟨code - 1, List.getElem?_eq_getElem within, ?_⟩⟩
    omega

theorem Ranks.eq_of_code {method other : MethodId} {code : Nat}
    (found : codes[method]? = some code) (foundOther : codes[other]? = some code) :
    method = other := by
  obtain ⟨place, listed, rfl⟩ := (ranks.found_iff method code).mp found
  obtain ⟨placeOther, listedOther, same⟩ := (ranks.found_iff other _).mp foundOther
  cases Nat.succ.inj same
  exact Option.some.inj (listed.symm.trans listedOther)

end Ranks

namespace Writer

variable {writer : Writer}

theorem exists_ranks_after {frames : List NamedMethod} (ranks : Ranks writer.codes frames)
    (call : Call) : ∃ later, Ranks (writer.after call).codes (frames ++ later) := by
  have unchanged : (writer.after call).codes = writer.codes →
      ∃ later, Ranks (writer.after call).codes (frames ++ later) := by
    intro same
    rw [same]
    exact ⟨[], by rw [List.append_nil]; exact ranks⟩
  cases call with
  | addFrame method name =>
      rcases writer.add_frame_cases method name with
        ⟨code, -, -, -, referred⟩ | ⟨absent, -, codeLeft, -, defined⟩ | ⟨same, refused, kept, -⟩
      · exact unchanged (by rw [after, referred]; rfl)
      · rw [after, defined]
        exact ⟨[(method, name)], ranks.ranks_insert_next absent codeLeft name⟩
      · exact unchanged (by rw [after, refused]; exact kept.codes)
  | openBatch | openSample _ _ | closeSample | closeBatch =>
      exact unchanged (codes_after_of_ne_add_frame (by rintro _ _ ⟨⟩))

theorem exists_ranks_run {frames : List NamedMethod} (ranks : Ranks writer.codes frames)
    (calls : List Call) : ∃ later, Ranks (writer.run calls).codes (frames ++ later) := by
  induction calls generalizing writer frames with
  | nil => exact ⟨[], by rw [List.append_nil]; exact ranks⟩
  | cons call calls induction =>
      obtain ⟨next, kept⟩ := exists_ranks_after ranks call
      obtain ⟨later, last⟩ := induction kept
      rw [List.append_assoc] at last
      exact ⟨next ++ later, last⟩

/-- Whether a call writes the whole definition of a method, with a code that fits a frame. -/
def Defines (writer : Writer) (call : Call) (method : MethodId) (code : Nat) : Prop :=
  1 ≤ code ∧ code ≤ maxCode ∧ ∃ name, call = .addFrame method name ∧
    (writer.after call).bytes.toList = writer.bytes.toList ++ definition code name

/-- Whether some call of a run writes the definition. -/
def DefinesAlong (writer : Writer) (calls : List Call) (method : MethodId) (code : Nat) : Prop :=
  ∃ front call back, calls = front ++ call :: back ∧ (writer.run front).Defines call method code

theorem defines_along_cons (writer : Writer) (call : Call) (calls : List Call) (method : MethodId)
    (code : Nat) :
    writer.DefinesAlong (call :: calls) method code ↔
      writer.Defines call method code ∨ (writer.after call).DefinesAlong calls method code := by
  constructor
  · rintro ⟨front, found, back, split, defines⟩
    rcases List.cons_eq_append_iff.mp split with ⟨rfl, same⟩ | ⟨rest, rfl, rfl⟩
    · cases same
      exact .inl defines
    · exact .inr ⟨rest, found, back, rfl, defines⟩
  · rintro (defines | ⟨front, found, back, rfl, defines⟩)
    · exact ⟨[], call, calls, rfl, defines⟩
    · exact ⟨call :: front, found, back, rfl, defines⟩

theorem length_definition (code : Nat) (name : String) :
    (definition code name).length = 2 + CountedText.size name := by
  rw [definition, List.length_append, CountedText.length_encode]
  rfl

theorem code_of_definition {code other : Nat} {name : String} (bounded : code ≤ maxCode)
    (boundedOther : other ≤ maxCode) (same : definition code name = definition other name) :
    code = other := by
  have words := BigEndian.bytes16_inj.mp (List.append_cancel_right same)
  have values := congrArg UInt16.toNat (UInt16.neg_inj.mp words)
  unfold maxCode at bounded boundedOther
  rw [UInt16.toNat_ofNat_of_lt' (Nat.lt_of_le_of_lt bounded (by decide)),
    UInt16.toNat_ofNat_of_lt' (Nat.lt_of_le_of_lt boundedOther (by decide))] at values
  exact values

theorem not_defines_of_bytes {call : Call} {record : List UInt8}
    (written : (writer.after call).bytes.toList = writer.bytes.toList ++ record)
    (short : record.length ≤ 2) (method : MethodId) (code : Nat) :
    ¬writer.Defines call method code := by
  rintro ⟨-, -, name, -, defined⟩
  rw [written] at defined
  have lengths := congrArg List.length (List.append_cancel_left defined)
  rw [length_definition, CountedText.size] at lengths
  omega

/-- A call gives a method a code exactly by writing the definition that says so. -/
theorem found_after_iff (writer : Writer) (call : Call) (method : MethodId) (code : Nat) :
    (writer.after call).codes[method]? = some code ↔
      writer.codes[method]? = some code ∨ writer.Defines call method code := by
  by_cases frame : ∃ added name, call = .addFrame added name
  · obtain ⟨added, name, rfl⟩ := frame
    rcases writer.add_frame_cases added name with
      ⟨known, -, -, -, referred⟩ | ⟨absent, -, codeLeft, -, defined⟩ | ⟨same, refused, kept, -⟩
    · have written : (writer.after (.addFrame added name)).bytes.toList =
          writer.bytes.toList ++ reference known := by
        rw [after, referred]
        exact writer.toList_put _
      rw [or_iff_left (not_defines_of_bytes written (Nat.le_refl 2) method code), after, referred]
      rfl
    · have written : (writer.after (.addFrame added name)).bytes.toList =
          writer.bytes.toList ++ definition (writer.methodCount + 1) name := by
        rw [after, defined]
        exact writer.toList_put _
      have codes : (writer.after (.addFrame added name)).codes =
          writer.codes.insert added (writer.methodCount + 1) := by
        rw [after, defined]
      rw [codes, getElem?_insert_eq_some_iff]
      constructor
      · rintro (⟨rfl, rfl⟩ | ⟨-, earlier⟩)
        · exact .inr ⟨Nat.succ_pos _, codeLeft, name, rfl, written⟩
        · exact .inl earlier
      · rintro (earlier | ⟨-, bounded, _, same, found⟩)
        · refine .inr ⟨?_, earlier⟩
          rintro rfl
          rw [absent] at earlier
          cases earlier
        · cases same
          rw [written] at found
          exact .inl
            ⟨rfl, code_of_definition codeLeft bounded (List.append_cancel_left found)⟩
    · have written : (writer.after (.addFrame added name)).bytes.toList =
          writer.bytes.toList ++ [] := by
        rw [after, refused, List.append_nil, kept.bytes]
      rw [or_iff_left (not_defines_of_bytes written (Nat.zero_le 2) method code), after, refused,
        kept.codes]
  · have notFrame : ∀ added name, call ≠ .addFrame added name :=
      fun added name same => frame ⟨added, name, same⟩
    have notDefining : ¬writer.Defines call method code := by
      rintro ⟨-, -, name, same, -⟩
      exact notFrame method name same
    rw [codes_after_of_ne_add_frame notFrame, or_iff_left notDefining]

/-- A run gives a method a code exactly by writing its definition. -/
theorem found_run_iff (writer : Writer) (calls : List Call) (method : MethodId) (code : Nat) :
    (writer.run calls).codes[method]? = some code ↔
      writer.codes[method]? = some code ∨ writer.DefinesAlong calls method code := by
  induction calls generalizing writer with
  | nil =>
      have none : ¬writer.DefinesAlong [] method code := by
        rintro ⟨front, call, back, split, -⟩
        simp at split
      exact (or_iff_left none).symm
  | cons call calls induction =>
      rw [defines_along_cons, ← or_assoc, ← found_after_iff]
      exact induction (writer.after call)

theorem bytes16_ne_of_toInt {word : Int16} (nonzero : word.toInt ≠ 0) :
    BigEndian.bytes16 word.toUInt16 ≠ [0, 0] := by
  intro same
  obtain ⟨unsigned⟩ := word
  have zero : unsigned = 0 := BigEndian.bytes16_inj.mp same
  subst zero
  exact nonzero rfl

/-- A frame that is written starts with the code of its method as a signed word, or with the
negation of the next code and then the name. -/
theorem word_of_added {frames : List NamedMethod} (ranks : Ranks writer.codes frames)
    {method : MethodId} {name : String} (added : (writer.addFrame method name).1 = true) :
    ∃ (word : Int16) (behind : List UInt8),
      (writer.addFrame method name).2.bytes.toList =
        writer.bytes.toList ++ (BigEndian.bytes16 word.toUInt16 ++ behind) ∧
      BigEndian.bytes16 word.toUInt16 ≠ [0, 0] ∧
      (writer.addFrame method name).2.codes[method]? = some word.toInt.natAbs ∧
      (0 < word.toInt ∧ behind = [] ∨
        word.toInt < 0 ∧ word = -(Int16.ofNat writer.methodCount + 1) ∧
          behind = CountedText.encode name) := by
  rcases writer.add_frame_cases method name with
    ⟨code, found, -, -, referred⟩ | ⟨-, -, codeLeft, -, defined⟩ | ⟨same, refused, -⟩
  · have positive := (ranks.exists_method_iff code).mp ⟨method, found⟩
    have value := (toInt_code (Nat.le_trans positive.2 ranks.bounded)).1
    rw [referred]
    refine ⟨Int16.ofNat code, [], ?_, bytes16_ne_of_toInt (by omega), ?_, .inl ⟨by omega, rfl⟩⟩
    · rw [List.append_nil, ← reference_eq]
      exact writer.toList_put _
    · rw [value]
      exact found
  · have value := (toInt_code codeLeft).2
    rw [defined]
    refine ⟨-Int16.ofNat (writer.methodCount + 1), CountedText.encode name, ?_,
      bytes16_ne_of_toInt (by omega), ?_, .inr ⟨by omega, ?_, rfl⟩⟩
    · rw [← definition_eq]
      exact writer.toList_put _
    · rw [value, Int.natAbs_neg]
      exact Std.TreeMap.getElem?_insert_self ..
    · rw [Int16.ofNat_add]
      rfl
  · rw [refused] at added
    cases added

/-- Whatever calls were made of a writer, its code table numbers the methods whose definitions were
written whole, each with the code that its definition says, by all numbers from one to their count,
which is at most the largest signed word; and a code that was given never changes. Where a code is
left, the count as a signed word, the next code and its negation do not overflow. A frame starts
with the code of its method, or with the negation if it is the definition, and neither is the word
that ends a sample. -/
theorem codes_number_definitions (capacity : Nat) (calls : List Call) :
    let writer := (ofCapacity capacity).run calls
    (∀ (method : MethodId) (code : Nat), writer.codes[method]? = some code ↔
        (ofCapacity capacity).DefinesAlong calls method code) ∧
      (∀ code, (∃ method : MethodId, writer.codes[method]? = some code) ↔
        1 ≤ code ∧ code ≤ writer.methodCount) ∧
      (∀ (method other : MethodId) (code : Nat), writer.codes[method]? = some code →
        writer.codes[other]? = some code → method = other) ∧
      writer.methodCount ≤ maxCode ∧
      (∀ (later : List Call) (method : MethodId) (code : Nat),
        writer.codes[method]? = some code → (writer.run later).codes[method]? = some code) ∧
      (writer.methodCount < maxCode →
        (Int16.ofNat writer.methodCount).toInt = writer.methodCount ∧
          (Int16.ofNat writer.methodCount + 1).toInt = writer.methodCount + 1 ∧
          (-(Int16.ofNat writer.methodCount + 1)).toInt = -(writer.methodCount + 1)) ∧
      ∀ method name, (writer.addFrame method name).1 = true →
        ∃ (word : Int16) (behind : List UInt8),
          (writer.addFrame method name).2.bytes.toList =
            writer.bytes.toList ++ (BigEndian.bytes16 word.toUInt16 ++ behind) ∧
          BigEndian.bytes16 word.toUInt16 ≠ [0, 0] ∧
          (writer.addFrame method name).2.codes[method]? = some word.toInt.natAbs ∧
          (0 < word.toInt ∧ behind = [] ∨
            word.toInt < 0 ∧ word = -(Int16.ofNat writer.methodCount + 1) ∧
              behind = CountedText.encode name) := by
  intro writer
  obtain ⟨frames, ranks⟩ : ∃ frames, Ranks writer.codes ([] ++ frames) :=
    @exists_ranks_run (ofCapacity capacity) [] ranks_empty calls
  refine ⟨?_, ranks.exists_method_iff, ?_, ranks.bounded, ?_, ?_, ?_⟩
  · intro method code
    have fresh : (ofCapacity capacity).codes[method]? ≠ some code := by simp [ofCapacity]
    rw [found_run_iff, or_iff_right fresh]
  · intro method other code
    exact ranks.eq_of_code
  · intro later method code found
    exact (found_run_iff writer later method code).mpr (.inl found)
  · intro codeLeft
    have next : Int16.ofNat writer.methodCount + 1 = Int16.ofNat (writer.methodCount + 1) :=
      (Int16.ofNat_add ..).symm
    obtain ⟨positive, negative⟩ := toInt_code codeLeft
    rw [next]
    exact ⟨(toInt_code (Nat.le_of_lt codeLeft)).1, positive, negative⟩
  · intro method name
    exact word_of_added ranks

end Writer

end StackSampler.Wire
