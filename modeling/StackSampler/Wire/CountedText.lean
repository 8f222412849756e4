import StackSampler.Wire.Cursor

/-!
The written form of a text: its number of code units as a word, then the units. A text whose length
fits the word's positive half is read back from its written form, and from nothing else.
-/

namespace StackSampler.Wire.CountedText

def encode (text : String) : List UInt8 :=
  BigEndian.bytes32 (UInt32.ofNat (Text.units text).length) ++
    (Text.units text).flatMap BigEndian.bytes16

def size (text : String) : Nat := 4 + 2 * (Text.units text).length

theorem length_encode (text : String) : (encode text).length = size text := by
  simp only [encode, size, List.length_append, BigEndian.length_bytes32, List.length_flatMap,
    BigEndian.length_bytes16]
  induction Text.units text with
  | nil => rfl
  | cons unit units induction =>
      simp only [List.map_cons, List.sum_cons, List.length_cons]
      omega

/-- Whether the length of a text fits its signed length word. -/
def Fits (text : String) : Prop := (Text.units text).length < 0x80000000

theorem take_units_flatMap (before units : List UInt16) (suffix : List UInt8) :
    Cursor.takeUnits? before units.length (units.flatMap BigEndian.bytes16 ++ suffix) =
      some (before.reverse ++ units, suffix) := by
  induction units generalizing before with
  | nil => rw [List.append_nil]; rfl
  | cons unit units induction =>
      rw [List.flatMap_cons, BigEndian.bytes16, List.length_cons]
      change Cursor.takeUnits? (BigEndian.word16 _ _ :: before) units.length _ = _
      rw [BigEndian.word16_bytes16]
      change Cursor.takeUnits? _ _ (units.flatMap BigEndian.bytes16 ++ suffix) = _
      rw [induction, List.reverse_cons, List.append_assoc, List.singleton_append]

theorem flatMap_of_take_units {before units : List UInt16} {count : Nat} {bytes rest : List UInt8}
    (taken : Cursor.takeUnits? before count bytes = some (units, rest)) :
    ∃ found, units = before.reverse ++ found ∧ found.length = count ∧
      bytes = found.flatMap BigEndian.bytes16 ++ rest := by
  fun_induction Cursor.takeUnits? before count bytes with
  | case1 before bytes =>
      cases taken
      exact ⟨[], (List.append_nil _).symm, rfl, rfl⟩
  | case2 before count high low bytes induction =>
      obtain ⟨found, same, length, written⟩ := induction taken
      refine ⟨BigEndian.word16 high low :: found, ?_, ?_, ?_⟩
      · rw [same, List.reverse_cons, List.append_assoc, List.singleton_append]
      · rw [List.length_cons, length]
      · rw [List.flatMap_cons, BigEndian.bytes16_word16, written]
        rfl
  | case3 => cases taken

/-- A text is read back from its written form, whatever follows it. -/
theorem text_encode {text : String} (fits : Fits text) (offset : Nat) (suffix : List UInt8) :
    (Cursor.mk offset (encode text ++ suffix)).text =
      .ok (text, ⟨offset + size text, suffix⟩) := by
  have length : (UInt32.ofNat (Text.units text).length).toNat = (Text.units text).length := by
    have bound : (Text.units text).length < 0x80000000 := fits
    rw [UInt32.toNat_ofNat', Nat.mod_eq_of_lt (by omega)]
  have counted : (Cursor.mk offset (encode text ++ suffix)).word32 =
      .ok (UInt32.ofNat (Text.units text).length,
        ⟨offset + 4, (Text.units text).flatMap BigEndian.bytes16 ++ suffix⟩) := by
    rw [encode, BigEndian.bytes32]
    change Except.ok (BigEndian.word32 _ _ _ _, _) = _
    rw [BigEndian.word32_bytes32]
    rfl
  have positive : ¬0x80000000 ≤ UInt32.ofNat (Text.units text).length := by
    have bound : (Text.units text).length < 0x80000000 := fits
    rw [UInt32.le_iff_toNat_le, length]
    exact Nat.not_le.mpr bound
  unfold Cursor.text
  rw [counted]
  dsimp only
  rw [if_neg positive, length, take_units_flatMap]
  dsimp only
  rw [List.reverse_nil, List.nil_append, Text.of_units_units, size, Nat.add_assoc]

/-- What is read as a text is its written form. -/
theorem encode_of_text {cursor next : Cursor} {text : String}
    (read : cursor.text = .ok (text, next)) :
    Fits text ∧ cursor.rest = encode text ++ next.rest ∧
      next.offset = cursor.offset + size text := by
  unfold Cursor.text at read
  split at read
  · cases read
  · rename_i count body counted
    split at read
    · cases read
    · rename_i positive
      split at read
      · cases read
      · rename_i units rest taken
        split at read
        · cases read
        · rename_i found unitsRead
          cases read
          have same := Text.eq_units_of_some unitsRead
          obtain ⟨found, nothingBefore, length, written⟩ := flatMap_of_take_units taken
          rw [List.reverse_nil, List.nil_append] at nothingBefore
          subst nothingBefore
          subst same
          unfold Cursor.word32 at counted
          split at counted
          · rename_i first second third fourth behind split
            cases counted
            rw [UInt32.le_iff_toNat_le] at positive
            have countValue : UInt32.ofNat (Text.units text).length =
                BigEndian.word32 first second third fourth := by
              rw [length, UInt32.ofNat_toNat]
            refine ⟨?_, ?_, ?_⟩
            · rw [Fits, length]
              exact Nat.not_le.mp positive
            · rw [split, encode, countValue, BigEndian.bytes32_word32, List.append_assoc, ← written]
              rfl
            · rw [size, length, Nat.add_assoc]
          · cases counted

end StackSampler.Wire.CountedText
