import StackSampler.Pass.Window

/-!
# What the calls of a pass add to its journal

The entries of a pass itself are told apart from what others did to the mailbox meanwhile, which may
stand anywhere between them.
-/

namespace StackSampler

namespace Event

def isShared : Event → Bool
  | .shared _ _ => true
  | _ => false

def isAnswer : Event → Bool
  | .methodAsked _ _ _ => true
  | .typeAsked _ _ => true
  | _ => false

def isVisit : Event → Bool
  | .offered _ _ _ => true
  | .walkEnded _ => true
  | event => event.isAnswer

def isWalk : Event → Bool
  | .walkBegan _ => true
  | event => event.isVisit

def isPanic : Event → Bool
  | .suspended (.panic _) => true
  | .listed _ (.panic _) => true
  | .methodAsked _ _ (.panic _) => true
  | .typeAsked _ (.panic _) => true
  | .walkEnded (.panic _) => true
  | .resumed (.panic _) => true
  | _ => false

theorem is_visit_of_is_answer {event : Event} (answer : event.isAnswer = true) :
    event.isVisit = true := by
  cases event with
  | offered _ _ _ => rfl
  | walkEnded _ => rfl
  | _ => exact answer

theorem is_walk_of_is_visit {event : Event} (visit : event.isVisit = true) :
    event.isWalk = true := by
  cases event with
  | walkBegan _ => rfl
  | _ => exact visit

end Event

/-- What is left out of some entries makes no difference to what is picked from the others. -/
theorem filterMap_filter_of_unpicked {α : Type} {pick : Event → Option α} {shows : Event → Bool}
    (unpicked : ∀ event, shows event = false → pick event = none) (events : List Event) :
    (events.filter shows).filterMap pick = events.filterMap pick := by
  rw [List.filterMap_filter]
  congr 1
  funext event
  cases shown : shows event with
  | false => exact (unpicked event shown).symm
  | true => rfl

/-- The entries of a pass itself. -/
def ownEvents (journal : Array Event) : List Event := journal.toList.filter (!·.isShared)

theorem own_events_push {journal : Array Event} {event : Event} (own : event.isShared = false) :
    ownEvents (journal.push event) = ownEvents journal ++ [event] := by
  simp [ownEvents, List.filter_append, own]

namespace World

variable {ρ : Type}

def own (world : World ρ) : List Event := ownEvents world.journal

theorem own_note (world : World ρ) {event : Event} (own : event.isShared = false) :
    (world.note event).own = world.own ++ [event] :=
  own_events_push own

theorem own_share (world : World ρ) (op : Mailbox.Op) : (world.share op).own = world.own := by
  simp [World.own, share, note, ownEvents, List.filter_append, Event.isShared]

theorem own_foldl_share (ops : List Mailbox.Op) (world : World ρ) :
    (ops.foldl share world).own = world.own := by
  induction ops generalizing world with
  | nil => rfl
  | cons op ops induction => rw [List.foldl_cons, induction, own_share]

theorem own_settle (world : World ρ) (answer : Answer ρ) {event : Event}
    (own : event.isShared = false) : (world.settle answer event).own = world.own ++ [event] := by
  rw [settle, own_note _ own]
  exact congrArg (· ++ [event]) (own_foldl_share answer.meanwhile world)

theorem own_suspend (api : Host ρ) (world : World ρ) :
    (world.suspend api).2.own = world.own ++ [.suspended (world.suspend api).1] :=
  world.own_settle _ rfl

theorem own_resume (api : Host ρ) (world : World ρ) :
    (world.resume api).2.own = world.own ++ [.resumed (world.resume api).1] :=
  world.own_settle _ rfl

theorem own_threads (api : Host ρ) (world : World ρ) :
    (world.threads api).2.2.own =
      world.own ++ [.listed (world.threads api).1 (world.threads api).2.1] :=
  world.own_settle _ rfl

theorem own_publish (world : World ρ) (capture : Capture) :
    (world.publish capture).2.own =
      world.own ++ [.published capture (world.publish capture).1] :=
  own_events_push rfl

theorem own_log (world : World ρ) (lines : List LogLine) :
    (world.log lines).own = world.own ++ lines.map Event.logged := by
  have none : (lines.map Event.logged).filter (!·.isShared) = lines.map Event.logged := by
    rw [List.filter_eq_self]
    intro event member
    obtain ⟨line, -, rfl⟩ := List.mem_map.mp member
    rfl
  simp [own, log, ownEvents, List.filter_append, none]

/-- Whether the entries of a world continue those of an earlier one by some events. -/
def Continues (before after : World ρ) (events : List Event) : Prop :=
  after.own = before.own ++ events

theorem Continues.refl (world : World ρ) : Continues world world [] :=
  (List.append_nil world.own).symm

theorem Continues.trans {first second third : World ρ} {front back : List Event}
    (start : Continues first second front) (rest : Continues second third back) :
    Continues first third (front ++ back) := by
  rw [Continues, rest, start, List.append_assoc]

end World

end StackSampler
