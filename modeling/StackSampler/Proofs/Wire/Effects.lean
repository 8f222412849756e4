import StackSampler.Proofs.Wire.Calls

/-!
# What a call comes to

There are three things that a call can come to. In a phase that has no use for it, it does nothing.
Otherwise its whole record is written, with the code it assigns and the phase it leads to, or it is
refused, which counts it and leaves the buffer alone. What holds along every run of a writer follows
from these three cases.
-/

namespace StackSampler.Wire

/-- Calls that write a sample's header or a frame, which the buffer may have no room for. -/
def Call.isRecord : Call → Bool
  | .openSample _ _ => true
  | .addFrame _ _ => true
  | _ => false

/-- Calls that write closing markers, for which room is kept back. -/
def Call.isClosing : Call → Bool
  | .closeSample => true
  | .closeBatch => true
  | _ => false

/-- Whether a call has something to write in a phase. -/
def Phase.Takes (phase : Phase) : Call → Prop
  | .openBatch | .closeBatch => phase ≠ .finished
  | .openSample _ _ => phase = .betweenSamples
  | .addFrame _ _ | .closeSample => phase = .inSample

def Phase.behind (phase : Phase) : Call → Phase
  | .openBatch | .addFrame _ _ => phase
  | .openSample _ _ => .inSample
  | .closeSample => .betweenSamples
  | .closeBatch => .finished

namespace Writer

def record (writer : Writer) : Call → List UInt8
  | .openBatch => [batchStart]
  | .openSample thread identity => sampleHeader thread identity
  | .addFrame method name =>
      match writer.codes[method]? with
      | some code => reference code
      | none => definition (writer.methodCount + 1) name
  | .closeSample => [0, 0]
  | .closeBatch => writer.phase.closing

/-- The code table behind a call that was written: the first frame of a method gives it the next
code. -/
def codesBehind (writer : Writer) : Call → Std.TreeMap MethodId Nat
  | .addFrame method _ =>
      match writer.codes[method]? with
      | some _ => writer.codes
      | none => writer.codes.insert method (writer.methodCount + 1)
  | _ => writer.codes

def writing (writer : Writer) (call : Call) : Writer :=
  { writer.put (writer.record call) with
    codes := writer.codesBehind call
    phase := writer.phase.behind call }

theorem put_put (writer : Writer) (front back : List UInt8) :
    (writer.put front).put back = writer.put (front ++ back) := by
  simp [put, ← Array.toList_inj]

theorem unwritten_of_same_buffer {writer : Writer} {call : Call}
    (same : (writer.after call).SameBuffer writer) (notFrame : ∀ method name,
      call ≠ .addFrame method name) : writer.wrote call = false := by
  have unmoved : ¬writer.position < (writer.after call).position := by
    rw [position, position, same.bytes]
    exact Nat.lt_irrefl _
  cases call with
  | addFrame method name => exact absurd rfl (notFrame method name)
  | _ => exact decide_eq_false unmoved

theorem record_ne_nil {writer : Writer} {call : Call} (takes : writer.phase.Takes call) :
    writer.record call ≠ [] := by
  cases call with
  | openBatch => exact nofun
  | openSample thread identity => exact nofun
  | addFrame method name =>
      rw [record]
      split
      · exact nofun
      · exact nofun
  | closeSample => exact nofun
  | closeBatch =>
      rw [record]
      cases phase : writer.phase with
      | betweenSamples => exact nofun
      | inSample => exact nofun
      | finished => exact absurd phase takes

/-- What a call comes to. In a phase that does not take it, it changes nothing. Otherwise its whole
record is written, or it is refused, which only counts it; closing markers are never refused. -/
inductive Effect (writer : Writer) (call : Call) : Prop where
  | idle : ¬writer.phase.Takes call → writer.wrote call = false → writer.after call = writer →
      Effect writer call
  | written : writer.phase.Takes call → writer.wrote call = true →
      writer.after call = writer.writing call →
      (call.isClosing = false → writer.HasRoom (writer.record call).length) → Effect writer call
  | refused : writer.phase.Takes call → call.isClosing = false → writer.wrote call = false →
      writer.after call = writer.refuse → Effect writer call

section

variable {writer : Writer} {call : Call} (notFrame : ∀ method name, call ≠ .addFrame method name)

include notFrame

theorem Effect.of_same (untaken : ¬writer.phase.Takes call) (same : writer.after call = writer) :
    writer.Effect call := by
  refine .idle untaken (unwritten_of_same_buffer ?_ notFrame) same
  rw [same]
  exact .refl writer

theorem Effect.of_writing (takes : writer.phase.Takes call)
    (reached : writer.after call = writer.writing call)
    (room : call.isClosing = false → writer.HasRoom (writer.record call).length) :
    writer.Effect call := by
  refine .written takes (wrote_of_put ?_ (record_ne_nil takes) notFrame) reached room
  rw [reached]
  rfl

theorem Effect.of_refuse (takes : writer.phase.Takes call) (notClosing : call.isClosing = false)
    (reached : writer.after call = writer.refuse) : writer.Effect call := by
  refine .refused takes notClosing (unwritten_of_same_buffer ?_ notFrame) reached
  rw [reached]
  exact writer.same_buffer_refuse

end

theorem effect_open_batch (writer : Writer) : writer.Effect .openBatch := by
  by_cases finished : writer.phase = .finished
  · refine .of_same (by simp) (absurd finished) ?_
    rw [after, openBatch, append, if_pos finished]
  · rcases writer.append_cases [batchStart] with
      ⟨appended, -, room⟩ | ⟨same, refused, -, counted⟩
    · exact .of_writing (by simp) finished (congrArg Prod.snd appended) fun _ => room
    · exact .of_refuse (by simp) finished rfl ((congrArg Prod.snd refused).trans (counted finished))

theorem effect_open_sample (writer : Writer) (thread : ThreadHandle) (identity : ThreadIdentity) :
    writer.Effect (.openSample thread identity) := by
  cases phase : writer.phase with
  | betweenSamples =>
      rcases writer.open_sample_cases thread identity (by rw [phase]; decide) with
        ⟨opened, -, room⟩ | ⟨same, refused, -, counted⟩
      · refine .of_writing (by simp) phase ?_ fun _ => room
        rw [after, opened]
        rfl
      · refine .of_refuse (by simp) phase rfl ?_
        rw [after, refused]
        exact counted phase
  | inSample =>
      refine .of_same (by simp) (by simp [Phase.Takes, phase]) ?_
      rw [after, openSample, if_pos phase]
  | finished =>
      refine .of_same (by simp) (by simp [Phase.Takes, phase]) ?_
      rw [after, openSample, if_neg (by rw [phase]; decide), append, if_pos phase]

theorem effect_add_frame (writer : Writer) (method : MethodId) (name : String) :
    writer.Effect (.addFrame method name) := by
  rcases writer.add_frame_cases method name with
    ⟨code, found, inside, room, referred⟩ | ⟨absent, inside, -, room, defined⟩ |
      ⟨same, refused, -, counted⟩
  · refine .written inside (congrArg Prod.fst referred) ?_ fun _ => ?_
    · rw [after, referred, writing, record, codesBehind, found]
      rfl
    · rw [record, found]
      exact room
  · refine .written inside (congrArg Prod.fst defined) ?_ fun _ => ?_
    · rw [after, defined, writing, record, codesBehind, absent]
      rfl
    · rw [record, absent]
      exact room
  · by_cases inside : writer.phase = .inSample
    · exact .refused inside rfl (congrArg Prod.fst refused)
        ((congrArg Prod.snd refused).trans (counted inside))
    · have outside := add_frame_outside inside method name
      exact .idle inside (congrArg Prod.fst outside) (congrArg Prod.snd outside)

theorem effect_close_sample (writer : Writer) : writer.Effect .closeSample := by
  by_cases inside : writer.phase = .inSample
  · refine .of_writing (by simp) inside ?_ (by simp [Call.isClosing])
    rw [after, closeSample, if_pos inside]
    rfl
  · refine .of_same (by simp) inside ?_
    rw [after, closeSample, if_neg inside]

theorem effect_close_batch (writer : Writer) : writer.Effect .closeBatch := by
  cases phase : writer.phase with
  | betweenSamples =>
      refine .of_writing (by simp) (by simp [Phase.Takes, phase]) ?_ (by simp [Call.isClosing])
      rw [after, closeBatch, if_neg (by rw [phase]; decide), closeSample,
        if_neg (by rw [phase]; decide), writing, record, phase]
      rfl
  | inSample =>
      refine .of_writing (by simp) (by simp [Phase.Takes, phase]) ?_ (by simp [Call.isClosing])
      have joined := put_put writer [0, 0] [batchEnd]
      rw [after, closeBatch, if_neg (by rw [phase]; decide), closeSample, if_pos phase, writing,
        record, phase]
      change _ = { writer.put ([0, 0] ++ [batchEnd]) with phase := .finished }
      rw [← joined]
      rfl
  | finished =>
      refine .of_same (by simp) (absurd phase) ?_
      rw [after, closeBatch, if_pos phase]

theorem effect_of_call (writer : Writer) : (call : Call) → writer.Effect call
  | .openBatch => writer.effect_open_batch
  | .openSample thread identity => writer.effect_open_sample thread identity
  | .addFrame method name => writer.effect_add_frame method name
  | .closeSample => writer.effect_close_sample
  | .closeBatch => writer.effect_close_batch

/-- What a call to write a record comes to: it writes the record into a buffer that was never full,
or it leaves the buffer alone and counts as refused. -/
def Offers (writer : Writer) (call : Call) : Prop :=
  (writer.wrote call = true ∧ (writer.after call).phase = .inSample ∧
      writer.truncated = false ∧ (writer.after call).truncated = false) ∨
    (writer.wrote call = false ∧ writer.after call = writer.refuse)

theorem offers_of_takes {writer : Writer} {call : Call} (record : call.isRecord = true)
    (takes : writer.phase.Takes call) : writer.Offers call := by
  cases writer.effect_of_call call with
  | idle untaken => exact absurd takes untaken
  | written _ wrote reached room =>
      refine .inl ⟨wrote, ?_⟩
      rw [reached]
      cases call with
      | openSample thread identity => exact ⟨rfl, (room rfl).1, (room rfl).1⟩
      | addFrame method name => exact ⟨takes, (room rfl).1, (room rfl).1⟩
      | openBatch | closeSample | closeBatch => cases record
  | refused _ _ unwritten reached => exact .inr ⟨unwritten, reached⟩

theorem capacity_after (writer : Writer) (call : Call) :
    (writer.after call).capacity = writer.capacity := by
  cases writer.effect_of_call call with
  | idle _ _ reached => rw [reached]
  | written _ _ reached _ | refused _ _ _ reached =>
      rw [reached]
      rfl

theorem codes_after_of_ne_add_frame {writer : Writer} {call : Call}
    (notFrame : ∀ method name, call ≠ .addFrame method name) :
    (writer.after call).codes = writer.codes := by
  cases writer.effect_of_call call with
  | idle _ _ reached => rw [reached]
  | written _ _ reached _ =>
      rw [reached]
      cases call with
      | addFrame method name => exact absurd rfl (notFrame method name)
      | openBatch | openSample _ _ | closeSample | closeBatch => rfl
  | refused _ _ _ reached =>
      rw [reached]
      rfl

end Writer

end StackSampler.Wire
