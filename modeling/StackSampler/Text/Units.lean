/-!
The 16-bit code units of a text. A character below 0x10000 is one unit; any other is a leading unit
from 0xd800 on followed by a trailing unit from 0xdc00 on. A unit sequence is a text exactly when
its leading and trailing units stand in such pairs.
-/

namespace StackSampler.Text

def isLeading (unit : UInt16) : Bool := 0xd800 ≤ unit && unit < 0xdc00

def isTrailing (unit : UInt16) : Bool := 0xdc00 ≤ unit && unit < 0xe000

def unitsOfChar (char : Char) : List UInt16 :=
  if char.toNat < 0x10000 then
    [UInt16.ofNat char.toNat]
  else
    [UInt16.ofNat (0xd800 + (char.toNat - 0x10000) / 0x400),
      UInt16.ofNat (0xdc00 + (char.toNat - 0x10000) % 0x400)]

def units (text : String) : List UInt16 := text.toList.flatMap unitsOfChar

def charOfPair (leading trailing : UInt16) : Char :=
  Char.ofNat (0x10000 + (leading.toNat - 0xd800) * 0x400 + (trailing.toNat - 0xdc00))

/-- Reads units behind the characters already read, which are kept last one first, and behind a
leading unit that waits for its partner, if there is one. -/
def charsOfUnits? (before : List Char) : Option UInt16 → List UInt16 → Option (List Char)
  | none, [] => some before.reverse
  | some _, [] => none
  | some leading, unit :: rest =>
      if isTrailing unit then charsOfUnits? (charOfPair leading unit :: before) none rest else none
  | none, unit :: rest =>
      if isTrailing unit then none
      else if isLeading unit then charsOfUnits? before (some unit) rest
      else charsOfUnits? (Char.ofNat unit.toNat :: before) none rest

def ofUnits? (units : List UInt16) : Option String :=
  (charsOfUnits? [] none units).map String.ofList

theorem is_leading_iff (unit : UInt16) :
    isLeading unit = true ↔ 0xd800 ≤ unit.toNat ∧ unit.toNat < 0xdc00 := by
  simp [isLeading, UInt16.le_iff_toNat_le, UInt16.lt_iff_toNat_lt]

theorem is_trailing_iff (unit : UInt16) :
    isTrailing unit = true ↔ 0xdc00 ≤ unit.toNat ∧ unit.toNat < 0xe000 := by
  simp [isTrailing, UInt16.le_iff_toNat_le, UInt16.lt_iff_toNat_lt]

/-- The units of a character read back as that character, whatever follows. -/
theorem chars_of_units_of_char (before : List Char) (char : Char) (rest : List UInt16) :
    charsOfUnits? before none (unitsOfChar char ++ rest) =
      charsOfUnits? (char :: before) none rest := by
  have valid : char.toNat < 0xd800 ∨ (0xdfff < char.toNat ∧ char.toNat < 0x110000) := char.valid
  by_cases small : char.toNat < 0x10000
  · have value : (UInt16.ofNat char.toNat).toNat = char.toNat := by
      rw [UInt16.toNat_ofNat', Nat.mod_eq_of_lt small]
    have notTrailing : ¬isTrailing (UInt16.ofNat char.toNat) = true := by
      rw [is_trailing_iff, value]
      omega
    have notLeading : ¬isLeading (UInt16.ofNat char.toNat) = true := by
      rw [is_leading_iff, value]
      omega
    rw [unitsOfChar, if_pos small, List.singleton_append, charsOfUnits?, if_neg notTrailing,
      if_neg notLeading, value, Char.ofNat_toNat]
  · have leadingValue : (UInt16.ofNat (0xd800 + (char.toNat - 0x10000) / 0x400)).toNat =
        0xd800 + (char.toNat - 0x10000) / 0x400 := by
      rw [UInt16.toNat_ofNat', Nat.mod_eq_of_lt (by omega)]
    have trailingValue : (UInt16.ofNat (0xdc00 + (char.toNat - 0x10000) % 0x400)).toNat =
        0xdc00 + (char.toNat - 0x10000) % 0x400 := by
      rw [UInt16.toNat_ofNat', Nat.mod_eq_of_lt (by omega)]
    have leading : isLeading (UInt16.ofNat (0xd800 + (char.toNat - 0x10000) / 0x400)) = true := by
      rw [is_leading_iff, leadingValue]
      omega
    have notTrailing :
        ¬isTrailing (UInt16.ofNat (0xd800 + (char.toNat - 0x10000) / 0x400)) = true := by
      rw [is_trailing_iff, leadingValue]
      omega
    have trailing : isTrailing (UInt16.ofNat (0xdc00 + (char.toNat - 0x10000) % 0x400)) = true := by
      rw [is_trailing_iff, trailingValue]
      omega
    have pair : charOfPair (UInt16.ofNat (0xd800 + (char.toNat - 0x10000) / 0x400))
        (UInt16.ofNat (0xdc00 + (char.toNat - 0x10000) % 0x400)) = char := by
      have back : 0x10000 + (0xd800 + (char.toNat - 0x10000) / 0x400 - 0xd800) * 0x400 +
          (0xdc00 + (char.toNat - 0x10000) % 0x400 - 0xdc00) = char.toNat := by
        omega
      rw [charOfPair, leadingValue, trailingValue, back, Char.ofNat_toNat]
    rw [unitsOfChar, if_neg small, List.cons_append, List.singleton_append, charsOfUnits?,
      if_neg notTrailing, if_pos leading, charsOfUnits?, if_pos trailing, pair]

theorem chars_of_units_flatMap (before chars : List Char) (rest : List UInt16) :
    charsOfUnits? before none (chars.flatMap unitsOfChar ++ rest) =
      charsOfUnits? (chars.reverse ++ before) none rest := by
  induction chars generalizing before with
  | nil => rfl
  | cons char chars induction =>
      rw [List.flatMap_cons, List.append_assoc, chars_of_units_of_char, induction,
        List.reverse_cons, List.append_assoc, List.singleton_append]

/-- Every text is read back from its units. -/
theorem of_units_units (text : String) : ofUnits? (units text) = some text := by
  have read := chars_of_units_flatMap [] text.toList []
  rw [List.append_nil, List.append_nil, charsOfUnits?, List.reverse_reverse] at read
  rw [ofUnits?, units, read, Option.map_some, String.ofList_toList]

theorem toNat_char_of_nat {value : Nat} (valid : value.isValidChar) :
    (Char.ofNat value).toNat = value := by
  rw [Char.ofNat, dif_pos valid]
  rfl

theorem units_of_char_ofNat {unit : UInt16} (notTrailing : ¬isTrailing unit = true)
    (notLeading : ¬isLeading unit = true) : unitsOfChar (Char.ofNat unit.toNat) = [unit] := by
  rw [is_trailing_iff] at notTrailing
  rw [is_leading_iff] at notLeading
  have bound := unit.toNat_lt
  have valid : unit.toNat.isValidChar := by
    rw [Nat.isValidChar]
    omega
  have value := toNat_char_of_nat valid
  rw [unitsOfChar, value, if_pos (by omega), UInt16.ofNat_toNat]

theorem units_of_char_pair {leading trailing : UInt16} (isLead : isLeading leading = true)
    (isTrail : isTrailing trailing = true) :
    unitsOfChar (charOfPair leading trailing) = [leading, trailing] := by
  rw [is_leading_iff] at isLead
  rw [is_trailing_iff] at isTrail
  have valid :
      (0x10000 + (leading.toNat - 0xd800) * 0x400 + (trailing.toNat - 0xdc00)).isValidChar := by
    rw [Nat.isValidChar]
    omega
  have value : (charOfPair leading trailing).toNat =
      0x10000 + (leading.toNat - 0xd800) * 0x400 + (trailing.toNat - 0xdc00) := by
    rw [charOfPair, toNat_char_of_nat valid]
  have high : 0xd800 + (0x10000 + (leading.toNat - 0xd800) * 0x400 + (trailing.toNat - 0xdc00) -
      0x10000) / 0x400 = leading.toNat := by
    omega
  have low : 0xdc00 + (0x10000 + (leading.toNat - 0xd800) * 0x400 + (trailing.toNat - 0xdc00) -
      0x10000) % 0x400 = trailing.toNat := by
    omega
  rw [unitsOfChar, value, if_neg (by omega), high, low, UInt16.ofNat_toNat, UInt16.ofNat_toNat]

theorem flatMap_of_chars_of_units {before chars : List Char} {waiting : Option UInt16}
    {units : List UInt16} (lead : ∀ unit ∈ waiting, isLeading unit = true)
    (read : charsOfUnits? before waiting units = some chars) :
    ∃ found, chars = before.reverse ++ found ∧
      waiting.toList ++ units = found.flatMap unitsOfChar := by
  fun_induction charsOfUnits? before waiting units with
  | case1 before =>
      cases read
      exact ⟨[], (List.append_nil _).symm, rfl⟩
  | case2 => cases read
  | case3 before leading unit rest isTrail induction =>
      obtain ⟨found, same, written⟩ := induction (by simp) read
      refine ⟨charOfPair leading unit :: found, ?_, ?_⟩
      · rw [same, List.reverse_cons, List.append_assoc, List.singleton_append]
      · rw [List.flatMap_cons, units_of_char_pair (lead leading rfl) isTrail, ← written]
        rfl
  | case4 => cases read
  | case5 => cases read
  | case6 before unit rest notTrail isLead induction =>
      exact induction (by simpa using isLead) read
  | case7 before unit rest notTrail notLead induction =>
      obtain ⟨found, same, written⟩ := induction (by simp) read
      refine ⟨Char.ofNat unit.toNat :: found, ?_, ?_⟩
      · rw [same, List.reverse_cons, List.append_assoc, List.singleton_append]
      · rw [List.flatMap_cons, units_of_char_ofNat notTrail notLead, ← written]
        rfl

/-- Only the units of a text are read back as it. -/
theorem eq_units_of_some {found : List UInt16} {text : String}
    (read : ofUnits? found = some text) : found = units text := by
  obtain ⟨chars, charsRead, rfl⟩ := Option.map_eq_some_iff.mp read
  obtain ⟨same, rfl, written⟩ := flatMap_of_chars_of_units (by simp) charsRead
  rw [units, String.toList_ofList]
  exact written

end StackSampler.Text
