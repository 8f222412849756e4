import StackSampler.Text.Hex
import Std.Data.TreeMap

/-!
Methods and classes of the host, and how the host answers questions about them.
-/

namespace StackSampler

structure MethodId where
  word : UInt64
deriving DecidableEq, Repr

/-- What a stack walk hands out beside each method; it means nothing once that walk is over. -/
structure WalkContext where
  word : UInt64
deriving DecidableEq, Repr

structure ClassId where
  word : UInt64
deriving DecidableEq, Repr

namespace MethodId

/-- Frames of native code have no managed method; they are reported with the number zero. -/
def isNative (method : MethodId) : Bool := method.word = 0

instance : Ord MethodId := ⟨compareOn MethodId.word⟩

instance : Std.TransOrd MethodId := inferInstanceAs (Std.TransCmp (compareOn MethodId.word))

instance : Std.LawfulEqOrd MethodId where
  eq_of_compare {left right} same := by
    have words : left.word = right.word := Std.LawfulEqOrd.eq_of_compare same
    cases left
    cases right
    simp_all

end MethodId

/-- Whatever is asked of the host, it answers, reports an error, or panics. -/
inductive Reply (ε α : Type) where
  | ok (value : α)
  | error (error : ε)
  | panic (message : String)
deriving DecidableEq, Repr

structure Panic where
  message : String
deriving DecidableEq, Repr

structure MethodDescription where
  declaringClass : Option ClassId
  name : String
deriving DecidableEq, Repr

inductive LookupError where
  | arrayClass
  | compositeClass
  | incomplete
  | notFound
  | failed (status : Int32)
deriving DecidableEq, Repr

def LookupError.message : LookupError → String
  | arrayClass => "class is an array"
  | compositeClass => "class is a composite"
  | incomplete => "type loading is not complete"
  | notFound => "no metadata found"
  | failed status => s!"metadata lookup failed with status {Text.hexStatus status}"

/-- A source of metadata. Its answers may depend on its state and change it. -/
structure Metadata (σ : Type) where
  describe : MethodId → WalkContext → σ → Reply LookupError MethodDescription × σ
  typeName : ClassId → σ → Reply LookupError String × σ

end StackSampler
