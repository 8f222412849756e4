import StackSampler.Wire.Batch
import StackSampler.Wire.Cursor

/-!
Reading a whole capture buffer.

A buffer is the start marker, its samples, and the end marker with nothing behind it. A frame list
ends at a zero word; a word from 1 to 0x7fff refers to a name already defined in this buffer, and
any other word is the two's complement of the code that the following text defines. Definitions
come in the order 1, 2, 3, ..., so the names defined so far, in order, are the whole code table.
-/

namespace StackSampler.Wire

def batchStart : UInt8 := 0x01

def sampleStart : UInt8 := 0x02

def batchEnd : UInt8 := 0x06

/-- Reads one entry of a frame list against the names defined so far; `none` is the end of it. -/
def readFrame? (names : Array String) (cursor : Cursor) : Except Fault (Option Frame × Cursor) :=
  match cursor.word16 with
  | .error fault => .error fault
  | .ok (word, next) =>
      if word = 0 then .ok (none, next)
      else if word < 0x8000 then
        match names[word.toNat - 1]? with
        | none => .error (.unknownCode word cursor.offset)
        | some name => .ok (some ⟨word, name, false⟩, next)
      else if (-word).toNat ≠ names.size + 1 then .error (.misnumberedCode (-word) cursor.offset)
      else
        match next.text with
        | .error fault => .error fault
        | .ok (name, after) => .ok (some ⟨-word, name, true⟩, after)

def learn (names : Array String) (frame : Frame) : Array String :=
  if frame.defines then names.push frame.name else names

theorem length_lt_of_read_frame {names : Array String} {cursor next : Cursor}
    {frame : Option Frame} (read : readFrame? names cursor = .ok (frame, next)) :
    next.rest.length < cursor.rest.length := by
  unfold readFrame? at read
  split at read
  · cases read
  · rename_i word after wordRead
    have shorter := Cursor.length_lt_of_word16 wordRead
    split at read
    · cases read
      exact shorter
    · split at read
      · split at read
        · cases read
        · cases read
          exact shorter
      · split at read
        · cases read
        · split at read
          · cases read
          · rename_i textRead
            cases read
            exact Nat.lt_trans (Cursor.length_lt_of_text textRead) shorter

def readFrames (names : Array String) (before : Array Frame) (cursor : Cursor) :
    Except Fault (List Frame × Array String × Cursor) :=
  match _read : readFrame? names cursor with
  | .error fault => .error fault
  | .ok (none, next) => .ok (before.toList, names, next)
  | .ok (some frame, next) => readFrames (learn names frame) (before.push frame) next
termination_by cursor.rest.length
decreasing_by exact length_lt_of_read_frame ‹_›

theorem read_frames_of_error {names : Array String} {before : Array Frame} {cursor : Cursor}
    {fault : Fault} (read : readFrame? names cursor = .error fault) :
    readFrames names before cursor = .error fault := by
  rw [readFrames]
  split <;> simp_all

theorem read_frames_of_end {names : Array String} {before : Array Frame} {cursor next : Cursor}
    (read : readFrame? names cursor = .ok (none, next)) :
    readFrames names before cursor = .ok (before.toList, names, next) := by
  rw [readFrames]
  split <;> simp_all

theorem read_frames_of_frame {names : Array String} {before : Array Frame} {cursor next : Cursor}
    {frame : Frame} (read : readFrame? names cursor = .ok (some frame, next)) :
    readFrames names before cursor = readFrames (learn names frame) (before.push frame) next := by
  rw [readFrames]
  split <;> simp_all

theorem length_lt_of_read_frames {names after : Array String} {before : Array Frame}
    {cursor next : Cursor} {frames : List Frame}
    (read : readFrames names before cursor = .ok (frames, after, next)) :
    next.rest.length < cursor.rest.length := by
  fun_induction readFrames names before cursor with
  | case1 => cases read
  | case2 names before cursor last frameRead =>
      cases read
      exact length_lt_of_read_frame frameRead
  | case3 names before cursor frame last frameRead induction =>
      exact Nat.lt_trans (induction read) (length_lt_of_read_frame frameRead)

def readSample (names : Array String) (cursor : Cursor) :
    Except Fault (Sample × Array String × Cursor) := do
  let (thread, cursor) ← cursor.word32
  let (nativeId, cursor) ← cursor.word32
  let (threadName, cursor) ← cursor.text
  let (frames, names, cursor) ← readFrames names #[] cursor
  return (⟨thread, nativeId, threadName, frames⟩, names, cursor)

theorem length_lt_of_read_sample {names after : Array String} {cursor next : Cursor}
    {sample : Sample} (read : readSample names cursor = .ok (sample, after, next)) :
    next.rest.length < cursor.rest.length := by
  simp only [readSample, bind, Except.bind, pure, Except.pure] at read
  split at read
  · cases read
  · rename_i threadRead
    have threadShorter := Cursor.length_lt_of_word32 threadRead
    split at read
    · cases read
    · rename_i nativeRead
      have nativeShorter := Cursor.length_lt_of_word32 nativeRead
      split at read
      · cases read
      · rename_i nameRead
        have nameShorter := Cursor.length_lt_of_text nameRead
        split at read
        · cases read
        · rename_i framesRead
          have framesShorter := length_lt_of_read_frames framesRead
          cases read
          omega

def readSamples (names : Array String) (before : Array Sample) (cursor : Cursor) :
    Except Fault (List Sample × Cursor) :=
  match _marker : cursor.byte with
  | .error fault => .error fault
  | .ok (marker, next) =>
      if marker = batchEnd then .ok (before.toList, next)
      else if marker = sampleStart then
        match _read : readSample names next with
        | .error fault => .error fault
        | .ok (sample, after, last) => readSamples after (before.push sample) last
      else .error (.strayMarker marker cursor.offset)
termination_by cursor.rest.length
decreasing_by
  exact Nat.lt_trans (length_lt_of_read_sample ‹_›) (Cursor.length_lt_of_byte ‹_›)

theorem read_samples_of_end {names : Array String} {before : Array Sample} {cursor next : Cursor}
    (read : cursor.byte = .ok (batchEnd, next)) :
    readSamples names before cursor = .ok (before.toList, next) := by
  rw [readSamples]
  split <;> simp_all

theorem read_samples_of_sample {names after : Array String} {before : Array Sample}
    {cursor next last : Cursor} {sample : Sample} (started : cursor.byte = .ok (sampleStart, next))
    (read : readSample names next = .ok (sample, after, last)) :
    readSamples names before cursor = readSamples after (before.push sample) last := by
  rw [readSamples]
  split
  · simp_all
  · rename_i marker behind markerRead
    rw [started] at markerRead
    cases markerRead
    rw [if_neg (by decide), if_pos rfl]
    split <;> simp_all

theorem read_samples_eq (names : Array String) (before : Array Sample) (cursor : Cursor) :
    readSamples names before cursor = (do
      let (marker, next) ← cursor.byte
      if marker = batchEnd then return (before.toList, next)
      else if marker = sampleStart then do
        let (sample, after, last) ← readSample names next
        readSamples after (before.push sample) last
      else throw (.strayMarker marker cursor.offset)) := by
  rw [readSamples]
  rcases cursor.byte with fault | ⟨marker, next⟩
  · rfl
  · dsimp only [bind, Except.bind]
    split
    · rfl
    · split
      · rcases readSample names next with fault | ⟨sample, after, last⟩ <;> rfl
      · rfl

/-- Reads one complete buffer. -/
def decode (bytes : List UInt8) : Except Fault Batch := do
  let (marker, cursor) ← (Cursor.ofBytes bytes).byte
  if marker ≠ batchStart then throw (.strayMarker marker 0)
  let (samples, cursor) ← readSamples #[] #[] cursor
  if cursor.rest = [] then return ⟨samples⟩
  else throw (.trailing cursor.rest.length)

end StackSampler.Wire
