import StackSampler.Proofs.Text.Surrogates
import StackSampler.Proofs.Wire.Grammar

/-!
# Reading a text

A text is read from its written form and from nothing else, and what is refused says why: its length
is negative, one of its units is a surrogate without a partner, or the bytes end before the length
or before the last unit.
-/

namespace StackSampler.Wire.Cursor

theorem toInt_count (count : Int32) :
    count.toInt = if count.toUInt32.toNat < 0x80000000 then (count.toUInt32.toNat : Int)
      else count.toUInt32.toNat - 0x100000000 := by
  have unsigned : count.toBitVec.toNat = count.toUInt32.toNat := rfl
  change count.toBitVec.toInt = _
  rw [BitVec.toInt_eq_toNat_cond, unsigned]
  split <;> split <;> omega

theorem count_neg_iff (count : Int32) : 0x80000000 ≤ count.toUInt32 ↔ count.toInt < 0 := by
  have bound := count.toUInt32.toNat_lt
  rw [UInt32.le_iff_toNat_le, toInt_count]
  change 0x80000000 ≤ count.toUInt32.toNat ↔ _
  split <;> omega

theorem toNat_count {count : Int32} (positive : ¬count.toInt < 0) :
    (count.toUInt32.toNat : Int) = count.toInt := by
  have value := toInt_count count
  have bound := count.toUInt32.toNat_lt
  split at value <;> omega

/-- A signed word stands at a cursor unless fewer than four bytes do. -/
theorem exists_count_of_length {bytes : List UInt8} (enough : 4 ≤ bytes.length) :
    ∃ (count : Int32) (behind : List UInt8),
      bytes = BigEndian.bytes32 count.toUInt32 ++ behind := by
  match bytes, enough with
  | first :: second :: third :: fourth :: behind, _ =>
      refine ⟨⟨BigEndian.word32 first second third fourth⟩, behind, ?_⟩
      rw [BigEndian.bytes32_word32]
      rfl

theorem take_units_eq_none_iff (before : List UInt16) (count : Nat) (bytes : List UInt8) :
    takeUnits? before count bytes = none ↔ bytes.length < 2 * count := by
  fun_induction takeUnits? before count bytes with
  | case1 before bytes => simp
  | case2 before count high low bytes induction =>
      rw [induction]
      simp only [List.length_cons]
      omega
  | case3 before count bytes short =>
      refine iff_of_true rfl ?_
      rcases bytes with _ | ⟨high, _ | ⟨low, bytes⟩⟩
      · simp only [List.length_nil]
        omega
      · simp only [List.length_cons, List.length_nil]
        omega
      · exact absurd rfl (short high low bytes)

/-- A text cannot be read where fewer than four bytes stand. -/
theorem text_of_short {cursor : Cursor} (short : cursor.rest.length < 4) :
    cursor.text = .error (.endsEarly cursor.offset) := by
  obtain ⟨offset, rest⟩ := cursor
  dsimp only at short
  have cut : (Cursor.mk offset rest).word32 = .error (.endsEarly offset) := by
    match rest, short with
    | [], _ | [_], _ | [_, _], _ | [_, _, _], _ => rfl
  rw [text, cut]

theorem text_of_count {cursor : Cursor} {count : Int32} {behind : List UInt8}
    (split : cursor.rest = BigEndian.bytes32 count.toUInt32 ++ behind) :
    cursor.text =
      if count.toInt < 0 then .error (.badText cursor.offset)
      else
        match takeUnits? [] count.toUInt32.toNat behind with
        | none => .error (.endsEarly (cursor.offset + 4))
        | some (units, rest) =>
            match Text.ofUnits? units with
            | none => .error (.badText cursor.offset)
            | some text => .ok (text, ⟨cursor.offset + 4 + 2 * count.toUInt32.toNat, rest⟩) := by
  obtain ⟨offset, rest⟩ := cursor
  dsimp only at split ⊢
  subst split
  rw [text, word32_bytes32]
  dsimp only
  exact if_congr (count_neg_iff count) rfl rfl

inductive Reads (cursor : Cursor) : Except Fault (String × Cursor) → Prop where
  | written (text : String) (next : Cursor) : CountedText.Fits text →
      cursor.rest = CountedText.encode text ++ next.rest →
      next.offset = cursor.offset + CountedText.size text → Reads cursor (.ok (text, next))
  | short : cursor.rest.length < 4 → Reads cursor (.error (.endsEarly cursor.offset))
  | negative (count : Int32) (behind : List UInt8) :
      cursor.rest = BigEndian.bytes32 count.toUInt32 ++ behind → count.toInt < 0 →
      Reads cursor (.error (.badText cursor.offset))
  | cut (count : Int32) (behind : List UInt8) :
      cursor.rest = BigEndian.bytes32 count.toUInt32 ++ behind →
      behind.length < 2 * count.toInt → Reads cursor (.error (.endsEarly (cursor.offset + 4)))
  | lone (count : Int32) (units : List UInt16) (after : List UInt8) :
      cursor.rest =
        BigEndian.bytes32 count.toUInt32 ++ (units.flatMap BigEndian.bytes16 ++ after) →
      count.toInt = units.length → Text.HasLoneSurrogate units →
      Reads cursor (.error (.badText cursor.offset))

variable {cursor : Cursor}

theorem reads_text (cursor : Cursor) : cursor.Reads cursor.text := by
  rcases Nat.lt_or_ge cursor.rest.length 4 with short | enough
  · rw [text_of_short short]
    exact .short short
  · obtain ⟨count, behind, split⟩ := exists_count_of_length enough
    by_cases negative : count.toInt < 0
    · rw [text_of_count split, if_pos negative]
      exact .negative count behind split negative
    · have value := toNat_count negative
      have counted := text_of_count split
      rw [if_neg negative] at counted
      rcases taken : takeUnits? [] count.toUInt32.toNat behind with _ | ⟨units, after⟩
      · have short := (take_units_eq_none_iff ..).mp taken
        rw [counted, taken]
        exact .cut count behind split (by omega)
      · rw [taken] at counted
        dsimp only at counted
        rcases read : Text.ofUnits? units with _ | text
        · obtain ⟨_, rfl, length, rfl⟩ := CountedText.flatMap_of_take_units taken
          rw [counted, read]
          refine .lone count _ after split ?_ ((Text.of_units_eq_none_iff _).mp read)
          rw [← value, ← length]
        · rw [read] at counted
          obtain ⟨fits, written, moved⟩ := CountedText.encode_of_text counted
          rw [counted]
          exact .written text _ fits written moved

theorem Reads.text_eq {outcome : Except Fault (String × Cursor)} (reads : cursor.Reads outcome) :
    cursor.text = outcome := by
  cases reads with
  | written text next fits written moved =>
      obtain ⟨offset, rest⟩ := cursor
      obtain ⟨nextOffset, behind⟩ := next
      dsimp only at written moved
      rw [written, moved]
      exact CountedText.text_encode fits offset behind
  | short short => exact text_of_short short
  | negative count behind split negative => rw [text_of_count split, if_pos negative]
  | cut count behind split short =>
      have positive : ¬count.toInt < 0 := by omega
      have value := toNat_count positive
      have taken : takeUnits? [] count.toUInt32.toNat behind = none :=
        (take_units_eq_none_iff ..).mpr (by omega)
      rw [text_of_count split, if_neg positive, taken]
  | lone count units after split length lone =>
      have positive : ¬count.toInt < 0 := by omega
      have value := toNat_count positive
      have counted : count.toUInt32.toNat = units.length := by omega
      rw [text_of_count split, if_neg positive, counted, CountedText.take_units_flatMap]
      dsimp only
      rw [List.reverse_nil, List.nil_append, (Text.of_units_eq_none_iff units).mpr lone]

theorem text_eq_iff {outcome : Except Fault (String × Cursor)} :
    cursor.text = outcome ↔ cursor.Reads outcome :=
  ⟨fun same => same ▸ cursor.reads_text, Reads.text_eq⟩

/-- A text is read exactly where its written form stands, whose size is known beforehand, and the
cursor moves behind it. A text is refused as bad exactly if its length is negative or its units are
all there and one of them is a surrogate without a partner, and as ending early exactly if there are
fewer bytes than its length or its units take. There is no other fault. -/
theorem texts_are_read_from_written_form (cursor : Cursor) :
    (∀ text next, cursor.text = .ok (text, next) ↔
      CountedText.Fits text ∧ cursor.rest = CountedText.encode text ++ next.rest ∧
        next.offset = cursor.offset + CountedText.size text) ∧
      (∀ text, (CountedText.encode text).length = CountedText.size text) ∧
      (∀ offset, cursor.text = .error (.badText offset) ↔
        offset = cursor.offset ∧
          ((∃ (count : Int32) (behind : List UInt8),
              cursor.rest = BigEndian.bytes32 count.toUInt32 ++ behind ∧ count.toInt < 0) ∨
            ∃ (count : Int32) (units : List UInt16) (after : List UInt8),
              cursor.rest =
                BigEndian.bytes32 count.toUInt32 ++ (units.flatMap BigEndian.bytes16 ++ after) ∧
              count.toInt = units.length ∧ Text.HasLoneSurrogate units)) ∧
      (∀ offset, cursor.text = .error (.endsEarly offset) ↔
        (offset = cursor.offset ∧ cursor.rest.length < 4) ∨
          offset = cursor.offset + 4 ∧ ∃ (count : Int32) (behind : List UInt8),
            cursor.rest = BigEndian.bytes32 count.toUInt32 ++ behind ∧
              behind.length < 2 * count.toInt) ∧
      ∀ fault, cursor.text = .error fault →
        ∃ offset, fault = .badText offset ∨ fault = .endsEarly offset := by
  refine ⟨?_, CountedText.length_encode, ?_, ?_, ?_⟩
  · intro text next
    rw [text_eq_iff]
    constructor
    · intro reads
      cases reads with
      | written _ _ fits written moved => exact ⟨fits, written, moved⟩
    · rintro ⟨fits, written, moved⟩
      exact .written text next fits written moved
  · intro offset
    rw [text_eq_iff]
    constructor
    · intro reads
      cases reads with
      | negative count behind split negative => exact ⟨rfl, .inl ⟨count, behind, split, negative⟩⟩
      | lone count units after split length lone =>
          exact ⟨rfl, .inr ⟨count, units, after, split, length, lone⟩⟩
    · rintro ⟨rfl, ⟨count, behind, split, negative⟩ | ⟨count, units, after, split, length, lone⟩⟩
      · exact .negative count behind split negative
      · exact .lone count units after split length lone
  · intro offset
    rw [text_eq_iff]
    constructor
    · intro reads
      cases reads with
      | short short => exact .inl ⟨rfl, short⟩
      | cut count behind split short => exact .inr ⟨rfl, count, behind, split, short⟩
    · rintro (⟨rfl, short⟩ | ⟨rfl, count, behind, split, short⟩)
      · exact .short short
      · exact .cut count behind split short
  · intro fault refused
    cases text_eq_iff.mp refused with
    | short => exact ⟨_, .inr rfl⟩
    | negative => exact ⟨_, .inl rfl⟩
    | cut => exact ⟨_, .inr rfl⟩
    | lone => exact ⟨_, .inl rfl⟩

end StackSampler.Wire.Cursor
