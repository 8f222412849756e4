import StackSampler.Proofs.Pass.Journal

/-!
# Names from recorded answers

The journal of a pass holds every answer of the metadata source. Looking a method up again with
these answers alone, without the host, gives the same name and leaves the same cache.
-/

namespace StackSampler

/-- A source that gives recorded answers again to the same questions. -/
def recorded : Metadata (List Event) where
  describe method context
    | .methodAsked asked within reply :: answers =>
        (if asked = method ∧ within = context then reply else .error .notFound, answers)
    | answers => (.error .notFound, answers)
  typeName classId
    | .typeAsked asked reply :: answers =>
        (if asked = classId then reply else .error .notFound, answers)
    | answers => (.error .notFound, answers)

variable {ρ α : Type}

/-- What a lookup did in a world: the answers that it got are in the journal, and they determine
its outcome. -/
structure Looked (before after : World ρ) (asked : List Event) (outcome : Except Panic α)
    (again : List Event → Except Panic α × List Event) : Prop where
  continues : World.Continues before after asked
  answers : ∀ event ∈ asked, event.isAnswer = true
  repeats : ∀ later, again (asked ++ later) = (outcome, later)
  panics : ∀ panic, outcome = .error panic → ∃ event ∈ asked, event.isPanic = true

section Looked

variable {before middle after : World ρ} {asked : List Event} {outcome : Except Panic α}
  {again later : List Event → Except Panic α × List Event} {event : Event}

theorem Looked.looked_of_no_question (world : World ρ) (value : α) :
    Looked world world [] (.ok value) (fun answers => (.ok value, answers)) where
  continues := .refl world
  answers := nofun
  repeats _ := rfl
  panics := nofun

theorem Looked.looked_of_answer (grown : World.Continues before after [event])
    (answer : event.isAnswer = true)
    (same : ∀ answers, again (event :: answers) = (outcome, answers))
    (panics : ∀ panic, outcome = .error panic → event.isPanic = true) :
    Looked before after [event] outcome again where
  continues := grown
  answers := by
    intro other member
    rw [List.mem_singleton.mp member]
    exact answer
  repeats := same
  panics panic panicked := ⟨event, List.mem_singleton_self event, panics panic panicked⟩

theorem Looked.looked_cons (grown : World.Continues before middle [event])
    (answer : event.isAnswer = true) (rest : Looked middle after asked outcome later)
    (same : ∀ answers, again (event :: answers) = later answers) :
    Looked before after (event :: asked) outcome again where
  continues := grown.trans rest.continues
  answers := by
    intro other member
    rcases List.mem_cons.mp member with rfl | within
    · exact answer
    · exact rest.answers other within
  repeats rest' := by rw [List.cons_append, same, rest.repeats]
  panics panic panicked := by
    obtain ⟨other, member, isPanic⟩ := rest.panics panic panicked
    exact ⟨other, List.mem_cons_of_mem event member, isPanic⟩

theorem Looked.looked_map {β : Type} (looked : Looked before after asked outcome again)
    (f : α → β) :
    Looked before after asked (outcome.map f)
      (fun answers => ((again answers).1.map f, (again answers).2)) where
  continues := looked.continues
  answers := looked.answers
  repeats rest := by rw [looked.repeats]
  panics panic panicked := by
    cases outcome with
    | ok value => cases panicked
    | error raised => exact looked.panics raised rfl

end Looked

theorem type_name_continues (api : Host ρ) (classId : ClassId) (world : World ρ) :
    World.Continues world ((World.metadata api).typeName classId world).2
      [.typeAsked classId ((World.metadata api).typeName classId world).1] :=
  World.own_note _ rfl

theorem describe_continues (api : Host ρ) (method : MethodId) (context : WalkContext)
    (world : World ρ) :
    World.Continues world ((World.metadata api).describe method context world).2
      [.methodAsked method context ((World.metadata api).describe method context world).1] :=
  World.own_note _ rfl

theorem class_name_looked (api : Host ρ) (classId : ClassId) (world : World ρ) :
    ∃ asked, Looked world (Naming.className (World.metadata api) classId world).2 asked
      (Naming.className (World.metadata api) classId world).1
      (Naming.className recorded classId) := by
  have grown := type_name_continues api classId world
  have again : ∀ reply answers, recorded.typeName classId (.typeAsked classId reply :: answers) =
      (reply, answers) := by
    simp [recorded]
  rw [Naming.className]
  rcases said : (World.metadata api).typeName classId world with ⟨reply, after⟩
  rw [said] at grown
  refine ⟨[.typeAsked classId reply], ?_⟩
  cases reply with
  | ok name => exact .looked_of_answer grown rfl (by simp [Naming.className, again]) nofun
  | error error => exact .looked_of_answer grown rfl (by simp [Naming.className, again]) nofun
  | panic message =>
      exact .looked_of_answer grown rfl (by simp [Naming.className, again]) (fun _ _ => rfl)

/-- The name of a method that has a class is the name of the class, qualified. -/
theorem method_name_eq {σ : Type} (source : Metadata σ) (method : MethodId) (context : WalkContext)
    (state : σ) :
    Naming.methodName source method context state =
      if method.isNative then (.ok Naming.nativeFunction, state)
      else
        match source.describe method context state with
        | (.panic message, state) => (.error ⟨message⟩, state)
        | (.error _, state) => (.ok Naming.unresolvedFunction, state)
        | (.ok ⟨none, name⟩, state) =>
            (.ok (Naming.qualified Naming.sharedGenericClass name), state)
        | (.ok ⟨some classId, name⟩, state) =>
            ((Naming.className source classId state).1.map (Naming.qualified · name),
              (Naming.className source classId state).2) := by
  rw [Naming.methodName]
  rcases source.describe method context state with ⟨reply, after⟩
  match reply with
  | .ok ⟨none, name⟩ => rfl
  | .ok ⟨some classId, name⟩ =>
      dsimp only
      rcases Naming.className source classId after with ⟨outcome, left⟩
      cases outcome <;> rfl
  | .error error => rfl
  | .panic message => rfl

theorem method_name_looked (api : Host ρ) (method : MethodId) (context : WalkContext)
    (world : World ρ) :
    ∃ asked, Looked world (Naming.methodName (World.metadata api) method context world).2 asked
      (Naming.methodName (World.metadata api) method context world).1
      (Naming.methodName recorded method context) := by
  rw [method_name_eq (World.metadata api)]
  by_cases native : method.isNative = true
  · have again : Naming.methodName recorded method context =
        fun answers => (.ok Naming.nativeFunction, answers) := by
      funext answers
      rw [method_name_eq, if_pos native]
    rw [if_pos native, again]
    exact ⟨[], .looked_of_no_question world _⟩
  · -- The class is asked for only when the first answer names one.
    rw [if_neg native]
    have grown := describe_continues api method context world
    have again : ∀ reply answers, recorded.describe method context
        (.methodAsked method context reply :: answers) = (reply, answers) := by
      simp [recorded]
    rcases said : (World.metadata api).describe method context world with ⟨reply, after⟩
    rw [said] at grown
    match reply with
    | .ok ⟨none, name⟩ =>
        exact ⟨_, .looked_of_answer grown rfl (by simp [method_name_eq, native, again]) nofun⟩
    | .ok ⟨some classId, name⟩ =>
        obtain ⟨asked, looked⟩ := class_name_looked api classId after
        exact ⟨_, .looked_cons grown rfl (looked.looked_map (Naming.qualified · name))
          (by simp [method_name_eq, native, again])⟩
    | .error error =>
        exact ⟨_, .looked_of_answer grown rfl (by simp [method_name_eq, native, again]) nofun⟩
    | .panic message =>
        exact ⟨_, .looked_of_answer grown rfl (by simp [method_name_eq, native, again])
          (fun _ _ => rfl)⟩

/-- A cache that looks a method up again with recorded answers goes the same way. -/
theorem resolve_looked (api : Host ρ) (names : RecentNames) (method : MethodId)
    (context : WalkContext) (world : World ρ) :
    ∃ asked, Looked world (names.resolve (World.metadata api) method context world).2.2 asked
        (names.resolve (World.metadata api) method context world).1
        (fun answers => ((names.resolve recorded method context answers).1,
          (names.resolve recorded method context answers).2.2)) ∧
      ∀ later, (names.resolve recorded method context (asked ++ later)).2.1 =
        (names.resolve (World.metadata api) method context world).2.1 := by
  unfold RecentNames.resolve
  cases found : names.names[method]? with
  | some cached => exact ⟨[], .looked_of_no_question world _, fun _ => rfl⟩
  | none =>
      obtain ⟨asked, looked⟩ := method_name_looked api method context world
      refine ⟨asked, ?_⟩
      dsimp only
      generalize Naming.methodName (World.metadata api) method context world = named at looked
      obtain ⟨outcome, settled⟩ := named
      have repeats := looked.repeats
      refine ⟨⟨?_, looked.answers, ?_, ?_⟩, ?_⟩
      · cases outcome <;> exact looked.continues
      · intro later
        rw [repeats later]
        cases outcome <;> rfl
      · intro panic panicked
        cases outcome with
        | ok name => cases panicked
        | error raised => exact looked.panics raised rfl
      · intro later
        rw [repeats later]
        cases outcome <;> rfl

end StackSampler
