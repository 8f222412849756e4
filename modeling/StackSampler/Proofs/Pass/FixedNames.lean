import StackSampler.Proofs.Pass.Recorded

/-!
# Names from a source that does not change its mind

If the answers of a metadata source depend neither on its state nor on the frame that a question is
asked for, the name of a method is a function of these answers alone. A cache that such a source
fills is only ever a shorter way to that name: what it keeps is right, whatever it throws away.
-/

namespace StackSampler

structure FixedAnswers where
  describe : MethodId → Except LookupError MethodDescription
  typeName : ClassId → Except LookupError String

def Reply.ofExcept {ε α : Type} : Except ε α → Reply ε α
  | .ok value => .ok value
  | .error reason => .error reason

/-- Whether a source gives these answers in every state and to every frame. -/
structure FixedAnswers.GivenBy {σ : Type} (answers : FixedAnswers) (source : Metadata σ) :
    Prop where
  describe : ∀ method context state,
    (source.describe method context state).1 = .ofExcept (answers.describe method)
  typeName : ∀ classId state,
    (source.typeName classId state).1 = .ofExcept (answers.typeName classId)

namespace FixedAnswers

def className (answers : FixedAnswers) (classId : ClassId) : String :=
  match answers.typeName classId with
  | .ok name => name
  | .error error => Naming.classPlaceholder error

def name (answers : FixedAnswers) (method : MethodId) : String :=
  if method.isNative then Naming.nativeFunction
  else
    match answers.describe method with
    | .error _ => Naming.unresolvedFunction
    | .ok ⟨none, name⟩ => Naming.qualified Naming.sharedGenericClass name
    | .ok ⟨some classId, name⟩ => Naming.qualified (answers.className classId) name

variable {σ ρ : Type} {answers : FixedAnswers} {source : Metadata σ}

theorem class_name_given (given : answers.GivenBy source) (classId : ClassId) (state : σ) :
    (Naming.className source classId state).1 = .ok (answers.className classId) := by
  have said := given.typeName classId state
  rw [Naming.className, className]
  generalize source.typeName classId state = asked at said ⊢
  obtain ⟨reply, after⟩ := asked
  cases said
  cases answers.typeName classId <;> rfl

theorem method_name_given (given : answers.GivenBy source) (method : MethodId)
    (context : WalkContext) (state : σ) :
    (Naming.methodName source method context state).1 = .ok (answers.name method) := by
  have said := given.describe method context state
  rw [method_name_eq, name]
  split
  · rfl
  · generalize source.describe method context state = asked at said ⊢
    obtain ⟨reply, after⟩ := asked
    cases said
    match answers.describe method with
    | .error error => rfl
    | .ok ⟨none, name⟩ => rfl
    | .ok ⟨some classId, name⟩ =>
        change (Naming.className source classId after).1.map _ = _
        rw [class_name_given given]
        rfl

theorem GivenBy.given_by_world {api : Host ρ} (given : answers.GivenBy api.metadata) :
    answers.GivenBy (World.metadata api) where
  describe method context world := given.describe method context world.host
  typeName classId world := given.typeName classId world.host

end FixedAnswers

namespace RecentNames

variable {σ : Type} {answers : FixedAnswers} {source : Metadata σ}

/-- Whether every name in a cache is the one that these answers give. -/
def Truthful (cache : RecentNames) (answers : FixedAnswers) : Prop :=
  ∀ method cached, cache.names[method]? = some cached → cached.name = answers.name method

theorem truthful_of_capacity (capacity : Nat) (answers : FixedAnswers) :
    (ofCapacity capacity).Truthful answers := by
  intro method cached found
  simp [ofCapacity] at found

theorem Truthful.truthful_insert {cache next : RecentNames} (truthful : cache.Truthful answers)
    {method : MethodId} {cached : CachedName} (right : cached.name = answers.name method)
    (inserted : next.names = cache.names.insert method cached) : next.Truthful answers := by
  intro other found listed
  rw [inserted, Std.TreeMap.getElem?_insert] at listed
  split at listed
  · rename_i same
    cases listed
    rw [right, Std.LawfulEqOrd.eq_of_compare same]
  · exact truthful other found listed

theorem Truthful.truthful_make_room {cache : RecentNames} (truthful : cache.Truthful answers) :
    cache.makeRoom.Truthful answers := by
  rw [RecentNames.makeRoom, evict]
  split
  · split
    · exact truthful
    · intro method cached listed
      rw [Std.TreeMap.getElem?_erase] at listed
      split at listed
      · cases listed
      · exact truthful method cached listed
  · exact truthful

/-- With a truthful cache a lookup gives the right name, whether or not it is cached, and leaves the
cache truthful. -/
theorem Truthful.truthful_resolve {cache : RecentNames} (truthful : cache.Truthful answers)
    (given : answers.GivenBy source) (method : MethodId) (context : WalkContext) (state : σ) :
    (cache.resolve source method context state).1 = .ok (answers.name method) ∧
      (cache.resolve source method context state).2.1.Truthful answers := by
  rw [RecentNames.resolve]
  cases found : cache.names[method]? with
  | some cached =>
      have right := truthful method cached found
      have used : (cache.hit method cached).Truthful answers := by
        apply truthful.truthful_insert _ rfl
        exact right
      exact ⟨congrArg Except.ok right, used⟩
  | none =>
      have named := FixedAnswers.method_name_given given method context state
      dsimp only
      generalize Naming.methodName source method context state = asked at named ⊢
      obtain ⟨outcome, after⟩ := asked
      cases named
      have kept : (cache.miss.keep method (answers.name method)).Truthful answers := by
        have roomy : cache.miss.Truthful answers := truthful_make_room truthful
        apply roomy.truthful_insert _ rfl
        rfl
      exact ⟨rfl, kept⟩

end RecentNames

end StackSampler
