import Std.Data.TreeMap

/-!
What is known of the host's threads, gathered from life-cycle notices. The notices of one thread
may come in any order, so each of them that says something makes the entry if there is none.
-/

namespace StackSampler

/-- The host's key for a thread; it may be used again once the thread is gone. -/
structure ThreadHandle where
  word : UInt64
deriving DecidableEq, Repr

namespace ThreadHandle

instance : Ord ThreadHandle := ⟨compareOn ThreadHandle.word⟩

instance : Std.TransOrd ThreadHandle := inferInstanceAs (Std.TransCmp (compareOn ThreadHandle.word))

instance : Std.LawfulEqOrd ThreadHandle where
  eq_of_compare {left right} same := by
    have words : left.word = right.word := Std.LawfulEqOrd.eq_of_compare same
    cases left
    cases right
    simp_all

end ThreadHandle

structure ThreadIdentity where
  nativeId : UInt32 := 0
  name : String := ""
deriving DecidableEq, Repr

inductive Notice where
  | created (thread : ThreadHandle)
  | assigned (thread : ThreadHandle) (nativeId : UInt32)
  | renamed (thread : ThreadHandle) (name : String)
  | destroyed (thread : ThreadHandle)
deriving DecidableEq, Repr

structure Directory where
  entries : Std.TreeMap ThreadHandle ThreadIdentity := ∅

namespace Directory

def lookup? (directory : Directory) (thread : ThreadHandle) : Option ThreadIdentity :=
  directory.entries[thread]?

/-- The identity of a thread; an unknown thread has number zero and no name. -/
def identity (directory : Directory) (thread : ThreadHandle) : ThreadIdentity :=
  (directory.lookup? thread).getD {}

def size (directory : Directory) : Nat := directory.entries.size

def isEmpty (directory : Directory) : Bool := directory.entries.isEmpty

/-- A creation says nothing that a later notice would not, so it makes no entry. -/
def notify (directory : Directory) : Notice → Directory
  | .created _ => directory
  | .assigned thread nativeId =>
      ⟨directory.entries.insert thread { directory.identity thread with nativeId }⟩
  | .renamed thread name =>
      ⟨directory.entries.insert thread { directory.identity thread with name }⟩
  | .destroyed thread => ⟨directory.entries.erase thread⟩

end Directory

end StackSampler
