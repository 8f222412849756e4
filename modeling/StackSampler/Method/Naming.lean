import StackSampler.Method.Metadata

/-!
The qualified name of a method. Errors of the metadata source never come out of here: each stands
for a fixed name. Only a panic does.
-/

namespace StackSampler.Naming

def nativeFunction : String := "Unknown_Native_Function"

def unresolvedFunction : String := "Unknown::UnresolvedFunction"

def sharedGenericClass : String := "SharedGenericFunction"

def classPlaceholder : LookupError → String
  | .arrayClass => "ArrayClass"
  | .compositeClass => "CompositeClass"
  | .incomplete => "DataIncomplete"
  | .notFound => "Unknown"
  | .failed _ => "Unknown"

def qualified (className methodName : String) : String := className ++ "::" ++ methodName

variable {σ : Type}

def className (source : Metadata σ) (classId : ClassId) (state : σ) : Except Panic String × σ :=
  match source.typeName classId state with
  | (.ok name, state) => (.ok name, state)
  | (.error error, state) => (.ok (classPlaceholder error), state)
  | (.panic message, state) => (.error ⟨message⟩, state)

/-- Looks a method up. Native frames are named without asking; any other method takes one question
about the method and, if it has a class, one about that class. -/
def methodName (source : Metadata σ) (method : MethodId) (context : WalkContext) (state : σ) :
    Except Panic String × σ :=
  if method.isNative then (.ok nativeFunction, state)
  else
    match source.describe method context state with
    | (.panic message, state) => (.error ⟨message⟩, state)
    | (.error _, state) => (.ok unresolvedFunction, state)
    | (.ok ⟨none, name⟩, state) => (.ok (qualified sharedGenericClass name), state)
    | (.ok ⟨some classId, name⟩, state) =>
        match className source classId state with
        | (.ok className, state) => (.ok (qualified className name), state)
        | (.error panic, state) => (.error panic, state)

end StackSampler.Naming
