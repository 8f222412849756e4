import StackSampler.Proofs.Pass.Recorded
import StackSampler.Proofs.Wire.Stacks

/-!
# The stacks that a journal shows

The journal of a pass says which threads were walked, which frames each walk visited, and what the
metadata source answered. With the cache that the pass began with, this determines the name of every
frame.
-/

namespace StackSampler

open Wire (NamedMethod Stack)

abbrev Visit := MethodId × WalkContext

structure Walked where
  thread : ThreadHandle
  visits : List Visit
deriving DecidableEq, Repr

/-- The visits of a walk that is under way, and the walks that begin after it. -/
def walksFrom : List Event → List Visit × List Walked
  | [] => ([], [])
  | .walkBegan thread :: events =>
      ([], ⟨thread, (walksFrom events).1⟩ :: (walksFrom events).2)
  | .offered method context _ :: events =>
      ((method, context) :: (walksFrom events).1, (walksFrom events).2)
  | _ :: events => walksFrom events

def visitsOf (events : List Event) : List Visit := (walksFrom events).1

def walksOf (events : List Event) : List Walked := (walksFrom events).2

def answersOf (events : List Event) : List Event := events.filter Event.isAnswer

/-- Names visited frames with recorded answers, and gives the cache and the answers that are left.
A panic is the last answer. -/
def namesHeard (names : RecentNames) (answers : List Event) :
    List Visit → List NamedMethod × RecentNames × List Event
  | [] => ([], names, answers)
  | (method, context) :: visits =>
      match names.resolve recorded method context answers with
      | (.error _, names, answers) => ([], names, answers)
      | (.ok name, names, answers) =>
          ((method, name) :: (namesHeard names answers visits).1,
            (namesHeard names answers visits).2)

/-- The stacks of some walks, each cut at a depth. -/
def stacksHeard (directory : Directory) (maxFrames : Nat) (names : RecentNames)
    (answers : List Event) : List Walked → List Stack × RecentNames × List Event
  | [] => ([], names, answers)
  | walk :: walks =>
      match namesHeard names answers (walk.visits.take maxFrames) with
      | (frames, names, answers) =>
          (⟨walk.thread, directory.identity walk.thread, frames⟩ ::
              (stacksHeard directory maxFrames names answers walks).1,
            (stacksHeard directory maxFrames names answers walks).2)

def Wire.Stack.shown (stack : Stack) :
    ThreadHandle × ThreadIdentity × List MethodId :=
  (stack.thread, stack.identity, stack.frames.map Prod.fst)

/-- What a stack shows of a walk that is cut at a depth. -/
def Walked.shown (directory : Directory) (maxFrames : Nat) (walk : Walked) :
    ThreadHandle × ThreadIdentity × List MethodId :=
  (walk.thread, directory.identity walk.thread, (walk.visits.take maxFrames).map Prod.fst)

theorem names_heard_cons {names left : RecentNames} {answers rest : List Event} {method : MethodId}
    {context : WalkContext} {name : String}
    (resolved : names.resolve recorded method context answers = (.ok name, left, rest))
    (visits : List Visit) :
    namesHeard names answers ((method, context) :: visits) =
      ((method, name) :: (namesHeard left rest visits).1, (namesHeard left rest visits).2) := by
  rw [namesHeard, resolved]

theorem stacks_heard_cons (directory : Directory) {maxFrames : Nat} {names left : RecentNames}
    {answers rest : List Event} {walk : Walked} {frames : List NamedMethod}
    (heard : namesHeard names answers (walk.visits.take maxFrames) = (frames, left, rest))
    (walks : List Walked) :
    stacksHeard directory maxFrames names answers (walk :: walks) =
      (⟨walk.thread, directory.identity walk.thread, frames⟩ ::
          (stacksHeard directory maxFrames left rest walks).1,
        (stacksHeard directory maxFrames left rest walks).2) := by
  rw [stacksHeard, heard]

theorem answers_of_append (front back : List Event) :
    answersOf (front ++ back) = answersOf front ++ answersOf back :=
  List.filter_append ..

theorem answers_of_answers {events : List Event}
    (answers : ∀ event ∈ events, event.isAnswer = true) : answersOf events = events :=
  List.filter_eq_self.mpr answers

theorem walks_from_answers {events : List Event} (answers : ∀ event ∈ events, event.isAnswer = true)
    (later : List Event) : walksFrom (events ++ later) = walksFrom later := by
  induction events with
  | nil => rfl
  | cons event events induction =>
      have first := answers event (by simp)
      rw [List.cons_append, ← induction (fun other member => answers other (by simp [member]))]
      cases event <;> first | rfl | cases first

theorem walks_from_visits {events : List Event} (visits : ∀ event ∈ events, event.isVisit = true)
    (later : List Event) :
    walksFrom (events ++ later) = (visitsOf events ++ visitsOf later, walksOf later) := by
  induction events with
  | nil => rfl
  | cons event events induction =>
      have first := visits event (by simp)
      have rest := induction (fun other member => visits other (by simp [member]))
      rw [List.cons_append]
      cases event with
      | offered method context verdict =>
          rw [walksFrom, rest]
          rfl
      | methodAsked method context reply => exact rest
      | typeAsked classId reply => exact rest
      | walkEnded reply => exact rest
      | _ => cases first

/-- Entries that belong to no walk change nothing of what the walks before them show. -/
theorem walks_from_append_others {others : List Event}
    (none : ∀ event ∈ others, event.isWalk = false) (events : List Event) :
    walksFrom (events ++ others) = walksFrom events := by
  induction events with
  | nil =>
      induction others with
      | nil => rfl
      | cons event others induction =>
          have first := none event (by simp)
          have rest := induction (fun other member => none other (by simp [member]))
          cases event <;> first | exact rest | cases first
  | cons event events induction =>
      rw [List.cons_append]
      cases event <;> simp only [walksFrom, induction]

theorem answers_of_others {others : List Event}
    (none : ∀ event ∈ others, event.isWalk = false) : answersOf others = [] := by
  rw [answersOf, List.filter_eq_nil_iff]
  intro event member answer
  have walk := Event.is_walk_of_is_visit (Event.is_visit_of_is_answer answer)
  rw [none event member] at walk
  cases walk

section Frame

variable {asked : List Event} (answers : ∀ event ∈ asked, event.isAnswer = true)
include answers

theorem answers_of_frame (method : MethodId) (context : WalkContext) (verdict : Verdict)
    (later : List Event) :
    answersOf ([.offered method context verdict] ++ asked ++ later) = asked ++ answersOf later := by
  rw [answers_of_append, answers_of_append, answers_of_answers answers]
  rfl

theorem visits_of_frame (method : MethodId) (context : WalkContext) (verdict : Verdict)
    (later : List Event) :
    visitsOf ([.offered method context verdict] ++ asked ++ later) =
      (method, context) :: visitsOf later := by
  rw [List.append_assoc, List.singleton_append, visitsOf, walksFrom, walks_from_answers answers]
  rfl

end Frame

end StackSampler
