import StackSampler.Proofs.Wire.Coding

/-!
# What a reader accepts

Each reader of a buffer is inverted twice: it reads back every written form, whatever follows it,
and whatever it reads is a written form. Together the two say that a buffer is read as a batch
exactly when it is the written form of that batch and the batch keeps the rules of a buffer; every
other buffer is refused with a fault.
-/

namespace StackSampler.Wire

namespace Cursor

theorem byte_cons (offset : Nat) (value : UInt8) (suffix : List UInt8) :
    (Cursor.mk offset (value :: suffix)).byte = .ok (value, ⟨offset + 1, suffix⟩) := rfl

theorem word16_bytes16 (offset : Nat) (word : UInt16) (suffix : List UInt8) :
    (Cursor.mk offset (BigEndian.bytes16 word ++ suffix)).word16 =
      .ok (word, ⟨offset + 2, suffix⟩) := by
  change Except.ok (BigEndian.word16 _ _, _) = _
  rw [BigEndian.word16_bytes16]
  rfl

theorem word32_bytes32 (offset : Nat) (word : UInt32) (suffix : List UInt8) :
    (Cursor.mk offset (BigEndian.bytes32 word ++ suffix)).word32 =
      .ok (word, ⟨offset + 4, suffix⟩) := by
  change Except.ok (BigEndian.word32 _ _ _ _, _) = _
  rw [BigEndian.word32_bytes32]
  rfl

theorem rest_of_byte {cursor next : Cursor} {value : UInt8}
    (read : cursor.byte = .ok (value, next)) : cursor.rest = value :: next.rest := by
  unfold Cursor.byte at read
  split at read
  · rename_i split
    cases read
    exact split
  · cases read

theorem rest_of_word16 {cursor next : Cursor} {word : UInt16}
    (read : cursor.word16 = .ok (word, next)) :
    cursor.rest = BigEndian.bytes16 word ++ next.rest := by
  unfold Cursor.word16 at read
  split at read
  · rename_i split
    cases read
    rw [split, BigEndian.bytes16_word16]
    rfl
  · cases read

theorem rest_of_word32 {cursor next : Cursor} {word : UInt32}
    (read : cursor.word32 = .ok (word, next)) :
    cursor.rest = BigEndian.bytes32 word ++ next.rest := by
  unfold Cursor.word32 at read
  split at read
  · rename_i split
    cases read
    rw [split, BigEndian.bytes32_word32]
    rfl
  · cases read

end Cursor

theorem toNat_neg_word {word : UInt16} (positive : 1 ≤ word.toNat) :
    (-word).toNat = 0x10000 - word.toNat := by
  rw [UInt16.toNat_neg]
  exact Nat.mod_eq_of_lt (Nat.sub_lt (by decide) positive)

theorem toList_learn (names : Array String) (frame : Frame) :
    (learn names frame).toList = names.toList ++ definedNames [frame] := by
  obtain ⟨code, name, defines⟩ := frame
  cases defines <;> simp [learn, definedNames, definitions]

/-- A frame that fits the code table is read back from its written form. -/
theorem read_frame_written {names : Array String} {frame : Frame}
    (coded : CodedAfter names.toList [frame]) (offset : Nat) (suffix : List UInt8) :
    readFrame? names ⟨offset, frame.written ++ suffix⟩ =
      .ok (some frame, ⟨offset + frame.written.length, suffix⟩) := by
  obtain ⟨code, name, defines⟩ := frame
  cases defines with
  | true =>
      obtain ⟨number, bounded, fits, -⟩ := coded
      have value : (-code).toNat = 0x10000 - code.toNat := toNat_neg_word (by omega)
      have nonzero : -code ≠ 0 := by
        intro zero
        rw [zero, UInt16.toNat_zero] at value
        omega
      -- Code 32768 is its own complement and still counts as negative.
      have negative : ¬-code < 0x8000 := by
        rw [UInt16.lt_iff_toNat_lt, value]
        exact Nat.not_lt.mpr (by change 0x8000 ≤ _; omega)
      have next : (-(-code)).toNat = names.size + 1 := by
        rw [UInt16.neg_neg, number, Array.length_toList]
      have written : Frame.written ⟨code, name, true⟩ =
          BigEndian.bytes16 (-code) ++ CountedText.encode name := rfl
      unfold readFrame?
      rw [written, List.append_assoc, Cursor.word16_bytes16]
      dsimp only
      rw [if_neg nonzero, if_neg negative, if_neg (not_not_intro next),
        CountedText.text_encode fits, List.length_append, CountedText.length_encode,
        BigEndian.length_bytes16, UInt16.neg_neg, Nat.add_assoc]
  | false =>
      obtain ⟨positive, small, found, -⟩ := coded
      have nonzero : code ≠ 0 := by
        rintro rfl
        simp at positive
      have low : code < 0x8000 := by
        rw [UInt16.lt_iff_toNat_lt]
        exact Nat.lt_succ_of_le small
      have lookup : names[code.toNat - 1]? = some name := by
        rw [← Array.getElem?_toList]
        exact found
      have written : Frame.written ⟨code, name, false⟩ = BigEndian.bytes16 code := rfl
      unfold readFrame?
      rw [written, Cursor.word16_bytes16]
      dsimp only
      rw [if_neg nonzero, if_pos low, lookup]
      rfl

theorem read_frame_end (names : Array String) (offset : Nat) (suffix : List UInt8) :
    readFrame? names ⟨offset, 0 :: 0 :: suffix⟩ = .ok (none, ⟨offset + 2, suffix⟩) := rfl

/-- What is read as a frame is the written form of a frame that fits the code table; what is read
as the end of a frame list is a zero word. -/
theorem rest_of_read_frame {names : Array String} {cursor next : Cursor} {found : Option Frame}
    (read : readFrame? names cursor = .ok (found, next)) :
    match found with
    | none => cursor.rest = [0, 0] ++ next.rest
    | some frame => CodedAfter names.toList [frame] ∧ cursor.rest = frame.written ++ next.rest := by
  unfold readFrame? at read
  split at read
  · cases read
  · rename_i word behind wordRead
    have start := Cursor.rest_of_word16 wordRead
    split at read
    · rename_i zero
      cases read
      rw [start, zero]
      rfl
    · rename_i nonzero
      have positive : 1 ≤ word.toNat := by
        by_contra none
        apply nonzero
        apply UInt16.toNat_inj.mp
        rw [UInt16.toNat_zero]
        omega
      split at read
      · rename_i low
        rw [UInt16.lt_iff_toNat_lt] at low
        split at read
        · cases read
        · rename_i name lookup
          cases read
          rw [← Array.getElem?_toList] at lookup
          exact ⟨⟨positive, Nat.le_of_lt_succ low, lookup, trivial⟩, start⟩
      · rename_i high
        rw [UInt16.lt_iff_toNat_lt] at high
        have least : 0x8000 ≤ word.toNat := Nat.le_of_not_lt high
        split at read
        · cases read
        · rename_i number
          rw [not_not] at number
          split at read
          · cases read
          · rename_i name after textRead
            cases read
            obtain ⟨fits, written, -⟩ := CountedText.encode_of_text textRead
            have bounded : (-word).toNat ≤ 0x8000 := by
              rw [toNat_neg_word positive]
              omega
            refine ⟨⟨?_, bounded, fits, trivial⟩, ?_⟩
            · rw [number, Array.length_toList]
            · rw [start, written, ← List.append_assoc]
              simp only [Frame.written, if_true, UInt16.neg_neg]

theorem read_frames_written {names : Array String} {frames : List Frame}
    (coded : CodedAfter names.toList frames) (before : Array Frame) (offset : Nat)
    (suffix : List UInt8) :
    ∃ after : Array String, after.toList = names.toList ++ definedNames frames ∧
      readFrames names before ⟨offset, frames.flatMap Frame.written ++ 0 :: 0 :: suffix⟩ =
        .ok (before.toList ++ frames, after,
          ⟨offset + (frames.flatMap Frame.written).length + 2, suffix⟩) := by
  induction frames generalizing names before offset with
  | nil =>
      refine ⟨names, by simp [definedNames, definitions], ?_⟩
      rw [List.append_nil]
      exact read_frames_of_end (read_frame_end names offset suffix)
  | cons frame frames induction =>
      obtain ⟨headCoded, tailCoded⟩ := (coded_after_append names.toList [frame] frames).mp coded
      rw [← toList_learn] at tailCoded
      obtain ⟨after, table, read⟩ :=
        induction tailCoded (before.push frame) (offset + frame.written.length)
      refine ⟨after, ?_, ?_⟩
      · rw [table, toList_learn, List.append_assoc, ← defined_names_append, List.singleton_append]
      · rw [List.flatMap_cons, List.append_assoc,
          read_frames_of_frame (read_frame_written headCoded offset _), read, Array.toList_push,
          List.append_assoc, List.singleton_append, List.length_append, Nat.add_assoc offset]

theorem rest_of_read_frames {names after : Array String} {before : Array Frame}
    {cursor next : Cursor} {frames : List Frame}
    (read : readFrames names before cursor = .ok (frames, after, next)) :
    ∃ found, frames = before.toList ++ found ∧ CodedAfter names.toList found ∧
      after.toList = names.toList ++ definedNames found ∧
      cursor.rest = found.flatMap Frame.written ++ 0 :: 0 :: next.rest := by
  fun_induction readFrames names before cursor with
  | case1 => cases read
  | case2 names before cursor last frameRead =>
      cases read
      refine ⟨[], (List.append_nil _).symm, trivial, ?_, rest_of_read_frame frameRead⟩
      simp [definedNames, definitions]
  | case3 names before cursor frame last frameRead induction =>
      obtain ⟨found, same, coded, table, written⟩ := induction read
      obtain ⟨headCoded, headWritten⟩ := rest_of_read_frame frameRead
      refine ⟨frame :: found, ?_, ?_, ?_, ?_⟩
      · rw [same, Array.toList_push, List.append_assoc, List.singleton_append]
      · rw [toList_learn] at coded
        exact (coded_after_append names.toList [frame] found).mpr ⟨headCoded, coded⟩
      · rw [table, toList_learn, List.append_assoc, ← defined_names_append, List.singleton_append]
      · rw [headWritten, written, List.flatMap_cons, List.append_assoc]

theorem read_sample_of_reads {names after : Array String} {cursor first second third last : Cursor}
    {thread nativeId : UInt32} {threadName : String} {frames : List Frame}
    (threadRead : cursor.word32 = .ok (thread, first))
    (nativeRead : first.word32 = .ok (nativeId, second))
    (nameRead : second.text = .ok (threadName, third))
    (framesRead : readFrames names #[] third = .ok (frames, after, last)) :
    readSample names cursor = .ok (⟨thread, nativeId, threadName, frames⟩, after, last) := by
  simp only [readSample, bind, Except.bind, pure, Except.pure, threadRead, nativeRead, nameRead,
    framesRead]

theorem read_sample_written {names : Array String} {sample : Sample}
    (fits : CountedText.Fits sample.threadName) (coded : CodedAfter names.toList sample.frames)
    (offset : Nat) (suffix : List UInt8) :
    ∃ after : Array String, after.toList = names.toList ++ definedNames sample.frames ∧
      ∃ behind, readSample names ⟨offset, sample.written.tail ++ suffix⟩ =
        .ok (sample, after, ⟨behind, suffix⟩) := by
  obtain ⟨thread, nativeId, threadName, frames⟩ := sample
  obtain ⟨after, table, read⟩ := read_frames_written coded #[]
    (offset + 4 + 4 + CountedText.size threadName) suffix
  refine ⟨after, table, offset + 4 + 4 + CountedText.size threadName +
    (frames.flatMap Frame.written).length + 2, ?_⟩
  have layout : (Sample.written ⟨thread, nativeId, threadName, frames⟩).tail ++ suffix =
      BigEndian.bytes32 thread ++ (BigEndian.bytes32 nativeId ++
        (CountedText.encode threadName ++ (frames.flatMap Frame.written ++ 0 :: 0 :: suffix))) := by
    simp [Sample.written]
  rw [layout]
  exact read_sample_of_reads (Cursor.word32_bytes32 ..) (Cursor.word32_bytes32 ..)
    (CountedText.text_encode fits ..) read

theorem rest_of_read_sample {names after : Array String} {cursor next : Cursor} {sample : Sample}
    (read : readSample names cursor = .ok (sample, after, next)) :
    CountedText.Fits sample.threadName ∧ CodedAfter names.toList sample.frames ∧
      after.toList = names.toList ++ definedNames sample.frames ∧
      sampleStart :: cursor.rest = sample.written ++ next.rest := by
  simp only [readSample, bind, Except.bind, pure, Except.pure] at read
  split at read
  · cases read
  · rename_i threadRead
    have thread := Cursor.rest_of_word32 threadRead
    split at read
    · cases read
    · rename_i nativeRead
      have native := Cursor.rest_of_word32 nativeRead
      split at read
      · cases read
      · rename_i nameRead
        obtain ⟨fits, name, -⟩ := CountedText.encode_of_text nameRead
        split at read
        · cases read
        · rename_i framesRead
          obtain ⟨found, same, coded, table, written⟩ := rest_of_read_frames framesRead
          cases read
          rw [List.nil_append] at same
          subst same
          refine ⟨fits, coded, table, ?_⟩
          rw [thread, native, name, written]
          simp [Sample.written]

theorem read_samples_written {names : Array String} {samples : List Sample}
    (fits : ∀ sample ∈ samples, CountedText.Fits sample.threadName)
    (coded : CodedAfter names.toList (samples.flatMap (·.frames))) (before : Array Sample)
    (offset : Nat) (suffix : List UInt8) :
    ∃ behind, readSamples names before
        ⟨offset, samples.flatMap Sample.written ++ batchEnd :: suffix⟩ =
      .ok (before.toList ++ samples, ⟨behind, suffix⟩) := by
  induction samples generalizing names before offset with
  | nil =>
      refine ⟨offset + 1, ?_⟩
      rw [List.append_nil]
      exact read_samples_of_end (Cursor.byte_cons offset batchEnd suffix)
  | cons sample samples induction =>
      rw [List.flatMap_cons, coded_after_append] at coded
      obtain ⟨after, table, middle, read⟩ := read_sample_written (fits sample (by simp)) coded.1
        (offset + 1) (samples.flatMap Sample.written ++ batchEnd :: suffix)
      rw [← table] at coded
      obtain ⟨behind, rest⟩ := induction (fun later member => fits later (by simp [member]))
        coded.2 (before.push sample) middle
      refine ⟨behind, ?_⟩
      have start := Cursor.byte_cons offset sampleStart
        (sample.written.tail ++ (samples.flatMap Sample.written ++ batchEnd :: suffix))
      have written : sample.written = sampleStart :: sample.written.tail := rfl
      rw [List.flatMap_cons, List.append_assoc, written, List.cons_append,
        read_samples_of_sample start read, rest, Array.toList_push, List.append_assoc,
        List.singleton_append]

theorem rest_of_read_samples {names : Array String} {before : Array Sample} {cursor next : Cursor}
    {samples : List Sample} (read : readSamples names before cursor = .ok (samples, next)) :
    ∃ found, samples = before.toList ++ found ∧
      (∀ sample ∈ found, CountedText.Fits sample.threadName) ∧
      CodedAfter names.toList (found.flatMap (·.frames)) ∧
      cursor.rest = found.flatMap Sample.written ++ batchEnd :: next.rest := by
  fun_induction readSamples names before cursor with
  | case1 => cases read
  | case2 names before cursor last markerRead =>
      cases read
      exact ⟨[], (List.append_nil _).symm, by simp, trivial, Cursor.rest_of_byte markerRead⟩
  | case3 => cases read
  | case4 names before cursor behind sample after last sampleRead markerRead notEnd induction =>
      obtain ⟨found, same, fits, coded, written⟩ := induction read
      obtain ⟨headFits, headCoded, table, headWritten⟩ := rest_of_read_sample sampleRead
      refine ⟨sample :: found, ?_, ?_, ?_, ?_⟩
      · rw [same, Array.toList_push, List.append_assoc, List.singleton_append]
      · intro member listed
        rcases List.mem_cons.mp listed with rfl | later
        · exact headFits
        · exact fits member later
      · rw [List.flatMap_cons, coded_after_append, ← table]
        exact ⟨headCoded, coded⟩
      · rw [Cursor.rest_of_byte markerRead, headWritten, written, List.flatMap_cons,
          List.append_assoc]
  | case5 => cases read

theorem decode_written {batch : Batch} (coded : batch.WellCoded) :
    decode batch.written = .ok batch := by
  have fromNothing : CodedAfter (#[] : Array String).toList batch.frames := coded.2
  -- The code table is empty before the first sample and is kept from one sample to the next.
  obtain ⟨behind, read⟩ := read_samples_written coded.1 fromNothing #[] 1 []
  have start : (Cursor.ofBytes batch.written).byte =
      .ok (batchStart, ⟨1, batch.samples.flatMap Sample.written ++ [batchEnd]⟩) := rfl
  unfold decode
  rw [start]
  dsimp only [bind, Except.bind]
  rw [if_neg (not_not_intro rfl)]
  dsimp only [pure, Except.pure]
  rw [read]
  rfl

theorem written_of_decode {bytes : List UInt8} {batch : Batch} (read : decode bytes = .ok batch) :
    batch.WellCoded ∧ bytes = batch.written := by
  simp only [decode, bind, Except.bind, pure, Except.pure] at read
  split at read
  · cases read
  · rename_i markerRead
    have start := Cursor.rest_of_byte markerRead
    split at read
    · cases read
    · rename_i marked
      split at read
      · cases read
      · rename_i samplesRead
        split at read
        · rename_i nothingBehind
          obtain ⟨found, same, fits, coded, written⟩ := rest_of_read_samples samplesRead
          cases read
          rw [List.nil_append] at same
          rw [not_not] at marked
          rw [nothingBehind] at written
          refine ⟨⟨?_, ?_⟩, ?_⟩
          · rw [same]
            exact fits
          · rw [Batch.frames, same]
            exact coded
          · change bytes = _ at start
            rw [start, marked, written, Batch.written, same]
        · cases read

/-- A batch keeps the rules of a buffer: its texts fit their length words and its frames are
coherent. -/
structure Batch.Lawful (batch : Batch) : Prop where
  threadNames : ∀ sample ∈ batch.samples, CountedText.Fits sample.threadName
  frames : Coherent batch.frames

theorem Batch.well_coded_iff_lawful (batch : Batch) : batch.WellCoded ↔ batch.Lawful := by
  rw [Batch.WellCoded, coded_after_nil_iff_coherent]
  exact ⟨fun coded => ⟨coded.1, coded.2⟩, fun lawful => ⟨lawful.threadNames, lawful.frames⟩⟩

/-- A buffer is read as a batch exactly when it is the written form of that batch and the batch
keeps the rules of a buffer, and it is refused exactly when it is no such form. -/
theorem decode_eq_ok_iff (bytes : List UInt8) :
    (∀ batch, decode bytes = .ok batch ↔ bytes = batch.written ∧ batch.Lawful) ∧
      ((∃ fault, decode bytes = .error fault) ↔
        ¬∃ batch : Batch, bytes = batch.written ∧ batch.Lawful) := by
  have exact : ∀ batch, decode bytes = .ok batch ↔ bytes = batch.written ∧ batch.Lawful := by
    intro batch
    rw [← batch.well_coded_iff_lawful]
    constructor
    · intro read
      exact (written_of_decode read).symm
    · rintro ⟨rfl, coded⟩
      exact decode_written coded
  refine ⟨exact, ?_, ?_⟩
  · rintro ⟨fault, refused⟩ ⟨batch, form⟩
    rw [(exact batch).mpr form] at refused
    cases refused
  · intro other
    cases read : decode bytes with
    | error fault => exact ⟨fault, rfl⟩
    | ok batch => exact absurd ⟨batch, (exact batch).mp read⟩ other

end StackSampler.Wire
