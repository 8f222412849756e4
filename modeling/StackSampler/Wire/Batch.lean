/-!
What one capture buffer says: a batch of samples, one for each thread, each with its stack.
-/

namespace StackSampler.Wire

/-- One stack entry. Codes number the names of a buffer in the order in which it defines them, and
the entry that defines a code carries the name. -/
structure Frame where
  code : UInt16
  name : String
  defines : Bool
deriving DecidableEq, Repr

/-- A stack, innermost frame first, with the low 32 bits of the thread's handle. -/
structure Sample where
  thread : UInt32
  nativeId : UInt32
  threadName : String
  frames : List Frame
deriving DecidableEq, Repr

structure Batch where
  samples : List Sample := []
deriving DecidableEq, Repr

end StackSampler.Wire
