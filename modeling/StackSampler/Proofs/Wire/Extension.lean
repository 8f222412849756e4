import StackSampler.Wire.CountedText
import StackSampler.Wire.Decode

/-!
# Reading a longer buffer

A buffer and that buffer with bytes behind it are read alike for as long as the shorter one lasts.
Each reader is compared on both at once: it gives both the same value and leaves them at the same
byte, or it refuses both for the same reason, or the shorter buffer ends inside what it reads. Only
in the last case may the bytes behind it change the outcome, and only then is the shorter buffer
said to end early. So a buffer that is read whole is never the first part of another.
-/

namespace StackSampler.Wire

/-- The byte that a fault points at; trailing bytes are counted, not pointed at. -/
def Fault.offset? : Fault → Option Nat
  | endsEarly offset | strayMarker _ offset | unknownCode _ offset | misnumberedCode _ offset
  | badText offset => some offset
  | trailing _ => none

/-- Whether a fault is about bytes that are there, so that no bytes behind them mend it. -/
def Fault.IsLasting : Fault → Prop
  | strayMarker _ _ | unknownCode _ _ | misnumberedCode _ _ | badText _ => True
  | endsEarly _ | trailing _ => False

/-- Whether two cursors stand at the same byte, one of a buffer of `total` bytes and the other of
that buffer with `suffix` behind it. -/
structure Cursor.Prolonged (suffix : List UInt8) (total : Nat) (cursor longer : Cursor) : Prop where
  longer_eq : longer = ⟨cursor.offset, cursor.rest ++ suffix⟩
  total_eq : cursor.offset + cursor.rest.length = total

def SameThen {α τ : Type} (related : τ → τ → Prop) (first second : α × τ) : Prop :=
  first.1 = second.1 ∧ related first.2 second.2

/-- How the outcome of reading a buffer of `total` bytes bears on the outcome of reading it with
bytes behind it: both are read, both are refused for bytes that are in both, or the shorter one ends
early, which says nothing of the longer one. -/
inductive ReadAlike {τ : Type} (total : Nat) (related : τ → τ → Prop) :
    Except Fault τ → Except Fault τ → Prop
  | read {first second : τ} : related first second →
      ReadAlike total related (.ok first) (.ok second)
  | refused {fault : Fault} {offset : Nat} : fault.IsLasting → fault.offset? = some offset →
      offset ≤ total → ReadAlike total related (.error fault) (.error fault)
  | cut {offset : Nat} (longer : Except Fault τ) : offset ≤ total →
      ReadAlike total related (.error (.endsEarly offset)) longer

section

variable {τ υ : Type} {total : Nat} {related : τ → τ → Prop} {after : υ → υ → Prop}

theorem ReadAlike.of_ok {first : τ} {shorter longer : Except Fault τ}
    (alike : ReadAlike total related shorter longer) (read : shorter = .ok first) :
    ∃ second, longer = .ok second ∧ related first second := by
  subst read
  cases alike with
  | read same => exact ⟨_, rfl, same⟩

theorem ReadAlike.of_error {fault : Fault} {shorter longer : Except Fault τ}
    {result : Except Fault υ} (alike : ReadAlike total related shorter longer)
    (failed : shorter = .error fault)
    (handsOn : ∀ fault, longer = .error fault → result = .error fault) :
    ReadAlike total after (.error fault) result := by
  subst failed
  cases alike with
  | refused lasting located within =>
      rw [handsOn fault rfl]
      exact .refused lasting located within
  | cut longer within => exact .cut _ within

theorem ReadAlike.read_alike_bind {shorter longer : Except Fault τ}
    (alike : ReadAlike total related shorter longer) {next : τ → Except Fault υ}
    (step : ∀ first second, related first second →
      ReadAlike total after (next first) (next second)) :
    ReadAlike total after (shorter >>= next) (longer >>= next) := by
  rcases shorter with fault | first
  · refine alike.of_error rfl ?_
    rintro fault rfl
    rfl
  · obtain ⟨second, rfl, same⟩ := alike.of_ok rfl
    exact step first second same

end

namespace Cursor

variable {suffix : List UInt8} {total : Nat} {cursor longer : Cursor}

theorem Prolonged.offset_le (prolonged : cursor.Prolonged suffix total longer) :
    cursor.offset ≤ total :=
  prolonged.total_eq ▸ Nat.le_add_right _ _

theorem byte_alike (prolonged : cursor.Prolonged suffix total longer) :
    ReadAlike total (SameThen (Prolonged suffix total)) cursor.byte longer.byte := by
  have within := prolonged.offset_le
  obtain ⟨rfl, length⟩ := prolonged
  obtain ⟨offset, _ | ⟨value, rest⟩⟩ := cursor
  · exact .cut _ within
  · exact .read ⟨rfl, rfl, by simp only [List.length_cons] at length ⊢; omega⟩

theorem word16_alike (prolonged : cursor.Prolonged suffix total longer) :
    ReadAlike total (SameThen (Prolonged suffix total)) cursor.word16 longer.word16 := by
  have within := prolonged.offset_le
  obtain ⟨rfl, length⟩ := prolonged
  obtain ⟨offset, _ | ⟨high, _ | ⟨low, rest⟩⟩⟩ := cursor
  · exact .cut _ within
  · exact .cut _ within
  · exact .read ⟨rfl, rfl, by simp only [List.length_cons] at length ⊢; omega⟩

theorem word32_alike (prolonged : cursor.Prolonged suffix total longer) :
    ReadAlike total (SameThen (Prolonged suffix total)) cursor.word32 longer.word32 := by
  have within := prolonged.offset_le
  obtain ⟨rfl, length⟩ := prolonged
  obtain ⟨offset, _ | ⟨first, _ | ⟨second, _ | ⟨third, _ | ⟨fourth, rest⟩⟩⟩⟩⟩ := cursor
  iterate 4 exact .cut _ within
  exact .read ⟨rfl, rfl, by simp only [List.length_cons] at length ⊢; omega⟩

theorem take_units_append {before units : List UInt16} {count : Nat} {bytes rest : List UInt8}
    (taken : takeUnits? before count bytes = some (units, rest)) (suffix : List UInt8) :
    takeUnits? before count (bytes ++ suffix) = some (units, rest ++ suffix) := by
  obtain ⟨found, rfl, rfl, rfl⟩ := CountedText.flatMap_of_take_units taken
  rw [List.append_assoc, CountedText.take_units_flatMap]

/-- A text whose units are cut is refused as cut, whatever its units are; its units are looked at
once they are all there. -/
theorem text_alike (prolonged : cursor.Prolonged suffix total longer) :
    ReadAlike total (SameThen (Prolonged suffix total)) cursor.text longer.text := by
  have within := prolonged.offset_le
  have sameStart : longer.offset = cursor.offset := by rw [prolonged.longer_eq]
  have alike := word32_alike prolonged
  unfold Cursor.text
  rcases counted : cursor.word32 with fault | ⟨count, body⟩
  · refine alike.of_error counted ?_
    intro fault failed
    rw [failed]
  · obtain ⟨⟨_, behind⟩, longCounted, rfl, beside⟩ := alike.of_ok counted
    rw [longCounted]
    dsimp only
    split
    · rw [sameStart]
      exact .refused trivial rfl within
    · have bodyWithin := beside.offset_le
      obtain ⟨rfl, length⟩ := beside
      dsimp only
      rcases taken : takeUnits? [] count.toNat body.rest with _ | ⟨units, rest⟩
      · exact .cut _ bodyWithin
      · rw [take_units_append taken]
        dsimp only
        rcases Text.ofUnits? units with _ | text
        · rw [sameStart]
          exact .refused trivial rfl within
        · have shorter := length_of_take_units taken
          exact .read ⟨rfl, rfl, by dsimp only at length ⊢; omega⟩

end Cursor

section

variable {suffix : List UInt8} {total : Nat} {cursor longer : Cursor}

theorem read_frame_alike (names : Array String)
    (prolonged : cursor.Prolonged suffix total longer) :
    ReadAlike total (SameThen (Cursor.Prolonged suffix total)) (readFrame? names cursor)
      (readFrame? names longer) := by
  have within := prolonged.offset_le
  have sameStart : longer.offset = cursor.offset := by rw [prolonged.longer_eq]
  have alike := Cursor.word16_alike prolonged
  unfold readFrame?
  rw [sameStart]
  rcases worded : cursor.word16 with fault | ⟨word, next⟩
  · refine alike.of_error worded ?_
    intro fault failed
    rw [failed]
  · obtain ⟨⟨_, behind⟩, longWorded, rfl, beside⟩ := alike.of_ok worded
    rw [longWorded]
    dsimp only
    split
    · exact .read ⟨rfl, beside⟩
    · split
      · rcases names[word.toNat - 1]? with _ | name
        · exact .refused trivial rfl within
        · exact .read ⟨rfl, beside⟩
      · split
        · exact .refused trivial rfl within
        · have textAlike := Cursor.text_alike beside
          rcases named : next.text with fault | ⟨name, last⟩
          · refine textAlike.of_error named ?_
            intro fault failed
            rw [failed]
          · obtain ⟨⟨_, longLast⟩, longNamed, rfl, besideLast⟩ := textAlike.of_ok named
            rw [longNamed]
            exact .read ⟨rfl, besideLast⟩

theorem read_frames_alike (names : Array String) (before : Array Frame)
    (prolonged : cursor.Prolonged suffix total longer) :
    ReadAlike total (SameThen (SameThen (Cursor.Prolonged suffix total)))
      (readFrames names before cursor) (readFrames names before longer) := by
  fun_induction readFrames names before cursor generalizing longer with
  | case1 names before cursor fault read =>
      exact (read_frame_alike names prolonged).of_error read fun _ => read_frames_of_error
  | case2 names before cursor next read =>
      obtain ⟨⟨_, behind⟩, longRead, rfl, beside⟩ := (read_frame_alike names prolonged).of_ok read
      rw [read_frames_of_end longRead]
      exact .read ⟨rfl, rfl, beside⟩
  | case3 names before cursor frame next read induction =>
      obtain ⟨⟨_, behind⟩, longRead, rfl, beside⟩ := (read_frame_alike names prolonged).of_ok read
      rw [read_frames_of_frame longRead]
      exact induction beside

theorem read_sample_alike (names : Array String)
    (prolonged : cursor.Prolonged suffix total longer) :
    ReadAlike total (SameThen (SameThen (Cursor.Prolonged suffix total)))
      (readSample names cursor) (readSample names longer) := by
  refine (Cursor.word32_alike prolonged).read_alike_bind ?_
  rintro ⟨thread, next⟩ ⟨_, longNext⟩ ⟨rfl, threadRead⟩
  refine (Cursor.word32_alike threadRead).read_alike_bind ?_
  rintro ⟨nativeId, next⟩ ⟨_, longNext⟩ ⟨rfl, nativeRead⟩
  refine (Cursor.text_alike nativeRead).read_alike_bind ?_
  rintro ⟨threadName, next⟩ ⟨_, longNext⟩ ⟨rfl, nameRead⟩
  refine (read_frames_alike names #[] nameRead).read_alike_bind ?_
  rintro ⟨frames, after, next⟩ ⟨_, _, longNext⟩ ⟨rfl, rfl, framesRead⟩
  exact .read ⟨rfl, rfl, framesRead⟩

theorem read_samples_alike (names : Array String) (before : Array Sample)
    (prolonged : cursor.Prolonged suffix total longer) :
    ReadAlike total (SameThen (Cursor.Prolonged suffix total))
      (readSamples names before cursor) (readSamples names before longer) := by
  fun_induction readSamples names before cursor generalizing longer with
  | case1 names before cursor fault started =>
      refine (Cursor.byte_alike prolonged).of_error started ?_
      intro fault failed
      rw [read_samples_eq, failed]
      rfl
  | case2 names before cursor next started =>
      obtain ⟨⟨_, behind⟩, longStarted, rfl, beside⟩ := (Cursor.byte_alike prolonged).of_ok started
      rw [read_samples_of_end longStarted]
      exact .read ⟨rfl, beside⟩
  | case3 names before cursor next fault failed started _ =>
      obtain ⟨⟨_, behind⟩, longStarted, rfl, beside⟩ := (Cursor.byte_alike prolonged).of_ok started
      refine (read_sample_alike names beside).of_error failed ?_
      intro fault longFailed
      rw [read_samples_eq, longStarted]
      dsimp only [bind, Except.bind]
      rw [longFailed]
      rfl
  | case4 names before cursor next sample after last read started _ induction =>
      obtain ⟨⟨_, behind⟩, longStarted, rfl, beside⟩ := (Cursor.byte_alike prolonged).of_ok started
      obtain ⟨⟨_, _, longLast⟩, longRead, rfl, rfl, besideLast⟩ :=
        (read_sample_alike names beside).of_ok read
      rw [read_samples_of_sample longStarted longRead]
      exact induction besideLast
  | case5 names before cursor marker next started notEnd notStart =>
      obtain ⟨⟨_, behind⟩, longStarted, rfl, beside⟩ := (Cursor.byte_alike prolonged).of_ok started
      rw [read_samples_eq names before longer, longStarted, prolonged.longer_eq]
      dsimp only [bind, Except.bind]
      rw [if_neg notEnd, if_neg notStart]
      exact .refused trivial rfl prolonged.offset_le

end

def readBatch (bytes : List UInt8) : Except Fault (Batch × Cursor) := do
  let (marker, cursor) ← (Cursor.ofBytes bytes).byte
  if marker ≠ batchStart then throw (.strayMarker marker 0)
  let (samples, cursor) ← readSamples #[] #[] cursor
  return (⟨samples⟩, cursor)

theorem decode_eq_read_batch (bytes : List UInt8) :
    decode bytes = (do
      let (batch, cursor) ← readBatch bytes
      if cursor.rest = [] then return batch
      else throw (.trailing cursor.rest.length)) := by
  unfold decode readBatch
  rcases (Cursor.ofBytes bytes).byte with fault | ⟨marker, cursor⟩
  · rfl
  · dsimp only [bind, Except.bind]
    split
    · rfl
    · rcases readSamples #[] #[] cursor with fault | ⟨samples, last⟩ <;> rfl

theorem read_batch_alike (bytes suffix : List UInt8) :
    ReadAlike bytes.length (SameThen (Cursor.Prolonged suffix bytes.length))
      (readBatch bytes) (readBatch (bytes ++ suffix)) := by
  have atStart : (Cursor.ofBytes bytes).Prolonged suffix bytes.length
      (Cursor.ofBytes (bytes ++ suffix)) := ⟨rfl, Nat.zero_add _⟩
  refine (Cursor.byte_alike atStart).read_alike_bind ?_
  rintro ⟨marker, next⟩ ⟨_, longNext⟩ ⟨rfl, beside⟩
  dsimp only
  split
  · exact .refused trivial rfl (Nat.zero_le _)
  · refine (read_samples_alike #[] #[] beside).read_alike_bind ?_
    rintro ⟨samples, last⟩ ⟨_, longLast⟩ ⟨rfl, besideLast⟩
    exact .read ⟨rfl, besideLast⟩

theorem decode_of_read {bytes : List UInt8} {batch : Batch} {cursor : Cursor}
    (read : readBatch bytes = .ok (batch, cursor)) :
    decode bytes = if cursor.rest = [] then .ok batch
      else .error (.trailing cursor.rest.length) := by
  rw [decode_eq_read_batch, read]
  rfl

theorem decode_of_refused {bytes : List UInt8} {fault : Fault}
    (refused : readBatch bytes = .error fault) : decode bytes = .error fault := by
  rw [decode_eq_read_batch, refused]
  rfl

/-- Behind a batch that was read up to its end marker, more bytes are only counted. -/
theorem decode_append_of_read {bytes : List UInt8} {batch : Batch} {cursor : Cursor}
    (read : readBatch bytes = .ok (batch, cursor)) (suffix : List UInt8) :
    decode (bytes ++ suffix) = if cursor.rest ++ suffix = [] then .ok batch
      else .error (.trailing (cursor.rest.length + suffix.length)) := by
  obtain ⟨⟨_, longer⟩, longRead, rfl, rfl, -⟩ := (read_batch_alike bytes suffix).of_ok read
  rw [decode_of_read longRead, List.length_append]

/-- A buffer that is refused before its end marker ends too early, or is refused for bytes that more
bytes do not mend. -/
theorem refused_cases {bytes : List UInt8} {fault : Fault}
    (refused : readBatch bytes = .error fault) (suffix : List UInt8) :
    (∃ offset ≤ bytes.length, fault = .endsEarly offset) ∨
      (∃ offset ≤ bytes.length, fault.offset? = some offset) ∧
        decode (bytes ++ suffix) = .error fault := by
  have alike := read_batch_alike bytes suffix
  rw [refused] at alike
  generalize longRead : readBatch (bytes ++ suffix) = longer at alike
  cases alike with
  | refused lasting located within => exact .inr ⟨⟨_, within, located⟩, decode_of_refused longRead⟩
  | cut longer within => exact .inl ⟨_, within, rfl⟩

theorem decode_append_of_ok {bytes suffix : List UInt8} {batch : Batch}
    (accepted : decode bytes = .ok batch) (longer : suffix ≠ []) :
    decode (bytes ++ suffix) = .error (.trailing suffix.length) := by
  rcases read : readBatch bytes with fault | ⟨found, cursor⟩
  · rw [decode_of_refused read] at accepted
    cases accepted
  · rw [decode_of_read read] at accepted
    split at accepted
    · rename_i nothingBehind
      rw [decode_append_of_read read, nothingBehind, List.nil_append, if_neg longer,
        List.length_nil, Nat.zero_add]
    · cases accepted

theorem decode_append_of_trailing {bytes : List UInt8} {count : Nat}
    (refused : decode bytes = .error (.trailing count)) (suffix : List UInt8) :
    decode (bytes ++ suffix) = .error (.trailing (count + suffix.length)) := by
  rcases read : readBatch bytes with fault | ⟨found, cursor⟩
  · rw [decode_of_refused read] at refused
    cases refused
    rcases refused_cases read suffix with ⟨_, -, impossible⟩ | ⟨⟨_, -, impossible⟩, -⟩ <;>
      cases impossible
  · rw [decode_of_read read] at refused
    split at refused
    · cases refused
    · rename_i behind
      cases refused
      have behindStill : cursor.rest ++ suffix ≠ [] :=
        fun empty => behind (List.append_eq_nil_iff.mp empty).1
      rw [decode_append_of_read read, if_neg behindStill]

theorem decode_append_of_lasting {bytes : List UInt8} {fault : Fault} (lasting : fault.IsLasting)
    (refused : decode bytes = .error fault) (suffix : List UInt8) :
    decode (bytes ++ suffix) = .error fault := by
  rcases read : readBatch bytes with found | ⟨found, cursor⟩
  · rw [decode_of_refused read] at refused
    cases refused
    rcases refused_cases read suffix with ⟨_, -, rfl⟩ | ⟨-, same⟩
    · exact lasting.elim
    · exact same
  · rw [decode_of_read read] at refused
    split at refused <;> cases refused
    exact lasting.elim

theorem offset_le_of_decode {bytes : List UInt8} {fault : Fault} {offset : Nat}
    (refused : decode bytes = .error fault) (located : fault.offset? = some offset) :
    offset ≤ bytes.length := by
  rcases read : readBatch bytes with found | ⟨found, cursor⟩
  · rw [decode_of_refused read] at refused
    cases refused
    rcases refused_cases read [] with ⟨_, within, rfl⟩ | ⟨⟨_, within, found⟩, -⟩
    · cases located
      exact within
    · cases located.symm.trans found
      exact within
  · rw [decode_of_read read] at refused
    split at refused <;> cases refused
    cases located

/-- All that is wrong with a first part of a readable buffer is that it ends: any other outcome
would be the outcome of the whole buffer too, up to the count of the bytes behind it. -/
theorem decode_of_prefix {bytes part : List UInt8} {batch : Batch}
    (accepted : decode bytes = .ok batch) (first : part <+: bytes) (shorter : part ≠ bytes) :
    ∃ offset ≤ part.length, decode part = .error (.endsEarly offset) := by
  obtain ⟨suffix, rfl⟩ := first
  have longer : suffix ≠ [] := by
    rintro rfl
    exact shorter (List.append_nil part).symm
  rcases decoded : decode part with fault | partBatch
  · cases fault with
    | endsEarly offset => exact ⟨offset, offset_le_of_decode decoded rfl, rfl⟩
    | trailing count =>
        rw [decode_append_of_trailing decoded] at accepted
        cases accepted
    | _ =>
        rw [decode_append_of_lasting (by trivial) decoded] at accepted
        cases accepted
  · rw [decode_append_of_ok decoded longer] at accepted
    cases accepted

/-- What is read of a buffer stays what it is when bytes are put behind it, up to the count of bytes
behind its end marker, unless the buffer ended too early. Every part cut off a readable buffer is
refused as ending early, at a byte within it, so no readable buffer is the first part of another;
and no fault points behind the buffer. -/
theorem decode_stable_under_extension (bytes : List UInt8) :
    (∀ batch, decode bytes = .ok batch → ∀ suffix, suffix ≠ [] →
        decode (bytes ++ suffix) = .error (.trailing suffix.length)) ∧
      (∀ count, decode bytes = .error (.trailing count) → ∀ suffix,
        decode (bytes ++ suffix) = .error (.trailing (count + suffix.length))) ∧
      (∀ fault : Fault, fault.IsLasting → decode bytes = .error fault → ∀ suffix,
        decode (bytes ++ suffix) = .error fault) ∧
      (∀ batch, decode bytes = .ok batch → ∀ part, part <+: bytes → part ≠ bytes →
        ∃ offset ≤ part.length, decode part = .error (.endsEarly offset)) ∧
      (∀ batch, decode bytes = .ok batch → ∀ other otherBatch, decode other = .ok otherBatch →
        other <+: bytes → other = bytes) ∧
      ∀ fault offset, decode bytes = .error fault → fault.offset? = some offset →
        offset ≤ bytes.length := by
  refine ⟨?_, ?_, ?_, ?_, ?_, ?_⟩
  · intro batch accepted suffix longer
    exact decode_append_of_ok accepted longer
  · intro count refused suffix
    exact decode_append_of_trailing refused suffix
  · intro fault lasting refused suffix
    exact decode_append_of_lasting lasting refused suffix
  · intro batch accepted part first shorter
    exact decode_of_prefix accepted first shorter
  · intro batch accepted other otherBatch otherAccepted first
    refine Decidable.byContradiction fun shorter => ?_
    obtain ⟨offset, -, cut⟩ := decode_of_prefix accepted first shorter
    rw [cut] at otherAccepted
    cases otherAccepted
  · intro fault offset refused located
    exact offset_le_of_decode refused located

end StackSampler.Wire
