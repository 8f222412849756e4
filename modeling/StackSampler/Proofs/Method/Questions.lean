import StackSampler.Proofs.Pass.Recorded

/-!
# What a lookup asks

Looking a method up takes a question about the method, and a further one about its class if the
first reply names a class. Native code is named without a question. What is asked shows in a source
that also notes its questions; the journal of a pass is such a source, and so is any source with a
list beside its state.
-/

namespace StackSampler

inductive Question where
  | aboutMethod (method : MethodId) (context : WalkContext)
      (reply : Reply LookupError MethodDescription)
  | aboutClass (classId : ClassId) (reply : Reply LookupError String)
deriving DecidableEq, Repr

/-- What a lookup asks, in order, and what it comes to with the replies. -/
inductive LooksUp (method : MethodId) (context : WalkContext) :
    List Question → Except Panic String → Prop where
  | native (native : method.isNative = true) :
      LooksUp method context [] (.ok Naming.nativeFunction)
  | undescribed (managed : method.isNative = false) (error : LookupError) :
      LooksUp method context [.aboutMethod method context (.error error)]
        (.ok Naming.unresolvedFunction)
  | shared (managed : method.isNative = false) (name : String) :
      LooksUp method context [.aboutMethod method context (.ok ⟨none, name⟩)]
        (.ok (Naming.qualified Naming.sharedGenericClass name))
  | classNamed (managed : method.isNative = false) (classId : ClassId) (className name : String) :
      LooksUp method context
        [.aboutMethod method context (.ok ⟨some classId, name⟩),
          .aboutClass classId (.ok className)]
        (.ok (Naming.qualified className name))
  | classUnnamed (managed : method.isNative = false) (classId : ClassId) (error : LookupError)
      (name : String) :
      LooksUp method context
        [.aboutMethod method context (.ok ⟨some classId, name⟩), .aboutClass classId (.error error)]
        (.ok (Naming.qualified (Naming.classPlaceholder error) name))
  | methodPanicked (managed : method.isNative = false) (message : String) :
      LooksUp method context [.aboutMethod method context (.panic message)] (.error ⟨message⟩)
  | classPanicked (managed : method.isNative = false) (classId : ClassId) (message name : String) :
      LooksUp method context
        [.aboutMethod method context (.ok ⟨some classId, name⟩),
          .aboutClass classId (.panic message)]
        (.error ⟨message⟩)

variable {α ρ σ τ : Type}

namespace Metadata

/-- What a source is asked when a method is looked up, with its replies. -/
def asked (source : Metadata σ) (method : MethodId) (context : WalkContext) (state : σ) :
    List Question :=
  if method.isNative then []
  else
    .aboutMethod method context (source.describe method context state).1 ::
      match source.describe method context state with
      | (.ok ⟨some classId, _⟩, state) => [.aboutClass classId (source.typeName classId state).1]
      | _ => []

theorem looks_up_asked (source : Metadata σ) (method : MethodId) (context : WalkContext)
    (state : σ) :
    LooksUp method context (source.asked method context state)
      (Naming.methodName source method context state).1 := by
  rw [method_name_eq, asked]
  cases native : method.isNative with
  | true => exact .native native
  | false =>
      simp only [Bool.false_eq_true, if_false]
      rcases source.describe method context state with ⟨reply, left⟩
      match reply with
      | .ok ⟨none, name⟩ => exact .shared native name
      | .ok ⟨some classId, name⟩ =>
          dsimp only
          rw [Naming.className]
          rcases source.typeName classId left with ⟨reply, left⟩
          cases reply with
          | ok className => exact .classNamed native classId className name
          | error error => exact .classUnnamed native classId error name
          | panic message => exact .classPanicked native classId message name
      | .error error => exact .undescribed native error
      | .panic message => exact .methodPanicked native message

structure Calm (source : Metadata σ) : Prop where
  describe : ∀ method context state message,
    (source.describe method context state).1 ≠ .panic message
  typeName : ∀ classId state message, (source.typeName classId state).1 ≠ .panic message

/-- Whether the replies of a source depend only on what it is asked. -/
structure Constant (source : Metadata σ) : Prop where
  describe : ∀ method context state other,
    (source.describe method context state).1 = (source.describe method context other).1
  typeName : ∀ classId state other,
    (source.typeName classId state).1 = (source.typeName classId other).1

theorem Calm.exists_name {source : Metadata σ} (calm : source.Calm) (method : MethodId)
    (context : WalkContext) (state : σ) :
    ∃ name, (Naming.methodName source method context state).1 = .ok name := by
  have quiet := calm.describe method context state
  rw [method_name_eq]
  split
  · exact ⟨_, rfl⟩
  · generalize source.describe method context state = said at quiet ⊢
    obtain ⟨reply, left⟩ := said
    match reply with
    | .ok ⟨none, name⟩ => exact ⟨_, rfl⟩
    | .ok ⟨some classId, name⟩ =>
        have quietLater := calm.typeName classId left
        dsimp only
        rw [Naming.className]
        generalize source.typeName classId left = said at quietLater ⊢
        obtain ⟨reply, left⟩ := said
        cases reply with
        | ok className => exact ⟨_, rfl⟩
        | error error => exact ⟨_, rfl⟩
        | panic message => exact absurd rfl (quietLater message)
    | .error error => exact ⟨_, rfl⟩
    | .panic message => exact absurd rfl (quiet message)

theorem Constant.asked_eq {source : Metadata σ} (constant : source.Constant) (method : MethodId)
    (context : WalkContext) (state other : σ) :
    source.asked method context state = source.asked method context other := by
  have same := constant.describe method context state other
  rw [asked, asked]
  generalize source.describe method context state = said at same ⊢
  generalize source.describe method context other = saidOther at same ⊢
  obtain ⟨reply, left⟩ := said
  obtain ⟨replyOther, leftOther⟩ := saidOther
  cases same
  match reply with
  | .ok ⟨none, name⟩ => rfl
  | .ok ⟨some classId, name⟩ =>
      dsimp only
      rw [constant.typeName classId left leftOther]
  | .error error => rfl
  | .panic message => rfl

end Metadata

section Notes

variable (seen : τ → σ) (noted : τ → List Question)

/-- Whether a step of a noting source goes like that of the source, and notes some questions. -/
structure Noted (state : τ) (questions : List Question) (said : α × σ) (heard : α × τ) :
    Prop where
  same : heard.1 = said.1
  left : seen heard.2 = said.2
  questions : noted heard.2 = noted state ++ questions

/-- Whether a source replies like another one and notes each question with its reply. -/
structure Metadata.Notes (source : Metadata σ) (noting : Metadata τ) : Prop where
  describe : ∀ method context state,
    Noted seen noted state
      [.aboutMethod method context (source.describe method context (seen state)).1]
      (source.describe method context (seen state)) (noting.describe method context state)
  typeName : ∀ classId state,
    Noted seen noted state [.aboutClass classId (source.typeName classId (seen state)).1]
      (source.typeName classId (seen state)) (noting.typeName classId state)

variable {seen noted} {source : Metadata σ} {noting : Metadata τ}
  (notes : source.Notes seen noted noting)
include notes

theorem Metadata.Notes.noted_class_name (classId : ClassId) (state : τ) :
    Noted seen noted state [.aboutClass classId (source.typeName classId (seen state)).1]
      (Naming.className source classId (seen state)) (Naming.className noting classId state) := by
  have step := notes.typeName classId state
  rw [Naming.className, Naming.className]
  generalize source.typeName classId (seen state) = said at step ⊢
  generalize noting.typeName classId state = heard at step ⊢
  obtain ⟨reply, left⟩ := said
  obtain ⟨replyNoting, leftNoting⟩ := heard
  obtain ⟨same, reached, questions⟩ := step
  cases same
  cases reply <;> exact ⟨rfl, reached, questions⟩

theorem Metadata.Notes.noted_method_name (method : MethodId) (context : WalkContext) (state : τ) :
    Noted seen noted state (source.asked method context (seen state))
      (Naming.methodName source method context (seen state))
      (Naming.methodName noting method context state) := by
  have step := notes.describe method context state
  rw [method_name_eq source, method_name_eq noting, asked]
  split
  · exact ⟨rfl, rfl, (List.append_nil _).symm⟩
  · generalize source.describe method context (seen state) = said at step ⊢
    generalize noting.describe method context state = heard at step ⊢
    obtain ⟨reply, left⟩ := said
    obtain ⟨replyNoting, leftNoting⟩ := heard
    obtain ⟨same, reached, questions⟩ := step
    cases same
    match reply with
    | .ok ⟨none, name⟩ => exact ⟨rfl, reached, questions⟩
    | .ok ⟨some classId, name⟩ =>
        -- The question about the class is noted behind the one about the method.
        have later := notes.noted_class_name classId leftNoting
        dsimp only at reached questions ⊢
        rw [reached] at later
        refine ⟨congrArg (Except.map (Naming.qualified · name)) later.same, later.left, ?_⟩
        rw [later.questions, questions, List.append_assoc, List.singleton_append]
    | .error error => exact ⟨rfl, reached, questions⟩
    | .panic message => exact ⟨rfl, reached, questions⟩

/-- A cache in front of a noting source goes like one in front of the source, and asks only for what
it does not hold. -/
theorem Metadata.Notes.noted_resolve (cache : RecentNames) (method : MethodId)
    (context : WalkContext) (state : τ) :
    let said := cache.resolve source method context (seen state)
    let heard := cache.resolve noting method context state
    heard.1 = said.1 ∧ heard.2.1 = said.2.1 ∧ seen heard.2.2 = said.2.2 ∧
      noted heard.2.2 = noted state ++
        if cache.names[method]?.isSome then [] else source.asked method context (seen state) := by
  intro said heard
  have named := notes.noted_method_name method context state
  unfold said heard RecentNames.resolve
  cases cache.names[method]? with
  | some cached => exact ⟨rfl, rfl, rfl, (List.append_nil _).symm⟩
  | none =>
      dsimp only
      generalize Naming.methodName source method context (seen state) = said at named ⊢
      generalize Naming.methodName noting method context state = heard at named ⊢
      obtain ⟨outcome, left⟩ := said
      obtain ⟨outcomeNoting, leftNoting⟩ := heard
      obtain ⟨same, reached, questions⟩ := named
      cases same
      cases outcome <;> exact ⟨rfl, rfl, reached, questions⟩

end Notes

def Metadata.noting (source : Metadata σ) : Metadata (σ × List Question) where
  describe method context state :=
    let (reply, left) := source.describe method context state.1
    (reply, left, state.2 ++ [.aboutMethod method context reply])
  typeName classId state :=
    let (reply, left) := source.typeName classId state.1
    (reply, left, state.2 ++ [.aboutClass classId reply])

theorem Metadata.notes_noting (source : Metadata σ) :
    source.Notes Prod.fst Prod.snd source.noting where
  describe _ _ _ := ⟨rfl, rfl, rfl⟩
  typeName _ _ := ⟨rfl, rfl, rfl⟩

def Event.question? : Event → Option Question
  | .methodAsked method context reply => some (.aboutMethod method context reply)
  | .typeAsked classId reply => some (.aboutClass classId reply)
  | _ => none

def questionsOf (events : List Event) : List Question := events.filterMap Event.question?

theorem questions_of_concat (events : List Event) (event : Event) :
    questionsOf (events ++ [event]) = questionsOf events ++ event.question?.toList := by
  rw [questionsOf, List.filterMap_append]
  cases event <;> rfl

theorem World.notes_metadata (api : Host ρ) :
    api.metadata.Notes World.host (fun world => questionsOf world.own) (World.metadata api) where
  describe method context world := by
    refine ⟨rfl, rfl, ?_⟩
    rw [describe_continues api method context world, questions_of_concat]
    rfl
  typeName classId world := by
    refine ⟨rfl, rfl, ?_⟩
    rw [type_name_continues api classId world, questions_of_concat]
    rfl

end StackSampler
