import StackSampler.Proofs.Pass.FrozenWindow

/-!
# What a pass captures

A pass whose host does not panic publishes one capture. Reading it gives a first part of the batch
that the journal of the pass shows: a sample for each listed thread in order, with the identity that
the directory had, and in it the first frames that its walk visited, each with the name that the
cache of the pass gives it.
-/

namespace StackSampler

open Wire (Batch Stack)

namespace Event

def listed? : Event → Option (List ThreadHandle × Reply HostError Unit)
  | .listed threads reply => some (threads, reply)
  | _ => none

def published? : Event → Option (Capture × Bool)
  | .published capture stored => some (capture, stored)
  | _ => none

end Event

section Entries

variable {threads : List ThreadHandle} {listing resuming : Reply HostError Unit}
  {walks : List Event} {capture : Capture} {stored : Bool} {lines : List LogLine}

def passEntries (threads : List ThreadHandle) (listing : Reply HostError Unit)
    (walks : List Event) (resuming : Reply HostError Unit) (capture : Capture) (stored : Bool)
    (lines : List LogLine) : List Event :=
  [.suspended (.ok ()), .listed threads listing] ++
    (walks ++ ([.resumed resuming, .published capture stored] ++ lines.map Event.logged))

theorem filterMap_walks {α : Type} {other : Event → Option α}
    (outside : ∀ event : Event, event.isWalk = true → other event = none)
    (areWalks : ∀ event ∈ walks, event.isWalk = true) : walks.filterMap other = [] := by
  rw [List.filterMap_eq_nil_iff]
  intro event member
  exact outside event (areWalks event member)

theorem listed_pass_entries (areWalks : ∀ event ∈ walks, event.isWalk = true) :
    (passEntries threads listing walks resuming capture stored lines).filterMap Event.listed? =
      [(threads, listing)] := by
  have none : walks.filterMap Event.listed? = [] := by
    apply filterMap_walks _ areWalks
    intro event walk
    cases event <;> first | rfl | cases walk
  simp [passEntries, List.filterMap_cons, List.filterMap_append, none, Event.listed?]

theorem not_is_walk_ending : ∀ event ∈ [Event.resumed resuming, Event.published capture stored] ++
    lines.map Event.logged, event.isWalk = false := by
  intro event member
  rcases List.mem_append.mp member with first | logged
  · rcases List.mem_pair.mp first with rfl | rfl <;> rfl
  · obtain ⟨line, -, rfl⟩ := List.mem_map.mp logged
    rfl

theorem walks_of_pass_entries :
    walksOf (passEntries threads listing walks resuming capture stored lines) = walksOf walks := by
  rw [walksOf, walksOf, ← walks_from_append_others not_is_walk_ending walks]
  rfl

end Entries

variable {ρ : Type}

def heedlessWalk (own : MethodId) : Walk Unit :=
  .offer ⟨10⟩ ⟨1⟩ () fun _ _ => .offer own ⟨2⟩ () fun _ _ => .offer ⟨30⟩ ⟨3⟩ () fun _ _ =>
    .finish ⟨.error ⟨-1⟩, (), []⟩

def failingHost : Host Unit where
  metadata :=
    { describe := fun method _ _ =>
        (if method = ⟨10⟩ then .ok ⟨some ⟨1⟩, "f"⟩ else .error .notFound, ())
      typeName := fun _ _ => (.ok "A", ()) }
  suspend _ := ⟨.ok (), (), []⟩
  threads _ := ([⟨0x100000007⟩, ⟨2⟩], ⟨.error ⟨-2⟩, (), []⟩)
  walk thread _ := heedlessWalk ⟨thread.word⟩
  resume _ := ⟨.error ⟨-3⟩, (), []⟩
  clock _ := 0

def smallProfiler : Profiler where
  settings := { bufferCapacity := 150, maxFrames := 2 }
  directory := ({} : Directory).notify (.renamed ⟨0x100000007⟩ "T1")

end StackSampler
