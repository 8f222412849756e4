import StackSampler.Text.Units
import StackSampler.Wire.BigEndian
import StackSampler.Wire.Fault

/-!
Reading from the front of a buffer. A cursor holds the bytes not yet read and how many were read
before them; every reader either fails with a located fault or moves the cursor behind what it read.
-/

namespace StackSampler.Wire

structure Cursor where
  offset : Nat
  rest : List UInt8
deriving DecidableEq, Repr

namespace Cursor

def ofBytes (bytes : List UInt8) : Cursor := ⟨0, bytes⟩

def byte (cursor : Cursor) : Except Fault (UInt8 × Cursor) :=
  match cursor.rest with
  | byte :: rest => .ok (byte, ⟨cursor.offset + 1, rest⟩)
  | [] => .error (.endsEarly cursor.offset)

def word16 (cursor : Cursor) : Except Fault (UInt16 × Cursor) :=
  match cursor.rest with
  | high :: low :: rest => .ok (BigEndian.word16 high low, ⟨cursor.offset + 2, rest⟩)
  | _ => .error (.endsEarly cursor.offset)

def word32 (cursor : Cursor) : Except Fault (UInt32 × Cursor) :=
  match cursor.rest with
  | first :: second :: third :: fourth :: rest =>
      .ok (BigEndian.word32 first second third fourth, ⟨cursor.offset + 4, rest⟩)
  | _ => .error (.endsEarly cursor.offset)

/-- The first `count` units of a byte sequence and the bytes behind them, or nothing if the
sequence is shorter. Units already read are kept last one first. -/
def takeUnits? (before : List UInt16) : Nat → List UInt8 → Option (List UInt16 × List UInt8)
  | 0, bytes => some (before.reverse, bytes)
  | count + 1, high :: low :: bytes =>
      takeUnits? (BigEndian.word16 high low :: before) count bytes
  | _ + 1, _ => none

/-- A text is its number of units as a signed word, then the units. The length is checked before
the units are looked at, so a short buffer is reported as such whatever its units are. -/
def text (cursor : Cursor) : Except Fault (String × Cursor) :=
  match cursor.word32 with
  | .error fault => .error fault
  | .ok (count, body) =>
      if 0x80000000 ≤ count then .error (.badText cursor.offset)
      else
        match takeUnits? [] count.toNat body.rest with
        | none => .error (.endsEarly body.offset)
        | some (units, rest) =>
            match Text.ofUnits? units with
            | none => .error (.badText cursor.offset)
            | some text => .ok (text, ⟨body.offset + 2 * count.toNat, rest⟩)

theorem length_lt_of_byte {cursor next : Cursor} {byte : UInt8}
    (read : cursor.byte = .ok (byte, next)) : next.rest.length < cursor.rest.length := by
  unfold Cursor.byte at read
  split at read
  · rename_i split
    cases read
    simp only [split, List.length_cons]
    omega
  · cases read

theorem length_lt_of_word16 {cursor next : Cursor} {word : UInt16}
    (read : cursor.word16 = .ok (word, next)) : next.rest.length < cursor.rest.length := by
  unfold Cursor.word16 at read
  split at read
  · rename_i split
    cases read
    simp only [split, List.length_cons]
    omega
  · cases read

theorem length_lt_of_word32 {cursor next : Cursor} {word : UInt32}
    (read : cursor.word32 = .ok (word, next)) : next.rest.length < cursor.rest.length := by
  unfold Cursor.word32 at read
  split at read
  · rename_i split
    cases read
    simp only [split, List.length_cons]
    omega
  · cases read

theorem length_of_take_units {before units : List UInt16} {count : Nat} {bytes rest : List UInt8}
    (taken : takeUnits? before count bytes = some (units, rest)) :
    2 * count + rest.length = bytes.length := by
  fun_induction takeUnits? before count bytes with
  | case1 before bytes =>
      cases taken
      exact Nat.zero_add _
  | case2 before count high low bytes induction =>
      have counted := induction taken
      simp only [List.length_cons]
      omega
  | case3 => cases taken

theorem length_lt_of_text {cursor next : Cursor} {text : String}
    (read : cursor.text = .ok (text, next)) : next.rest.length < cursor.rest.length := by
  unfold Cursor.text at read
  split at read
  · cases read
  · rename_i count body counted
    have bodyShorter := length_lt_of_word32 counted
    split at read
    · cases read
    · split at read
      · cases read
      · rename_i units rest taken
        have counted := length_of_take_units taken
        split at read
        · cases read
        · cases read
          dsimp only
          omega

end Cursor

end StackSampler.Wire
