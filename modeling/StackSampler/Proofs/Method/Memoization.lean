import Mathlib.Data.List.Perm.Subperm
import StackSampler.Proofs.Method.Serving
import StackSampler.Proofs.Pass.FixedNames

/-!
# A cache in front of a source that may change its mind

A name that is cached is returned as it was when it was looked up last, and nothing is asked for it.
Any other name is what the source answers now. If the source does not change its mind, nobody can
tell the cache from the source, and a cache with room for all methods asks for each of them once.
-/

namespace StackSampler

variable {σ : Type}

def Question.isAbout (method : MethodId) : Question → Bool
  | .aboutMethod asked _ _ => asked = method
  | .aboutClass _ _ => false

/-- A managed method is asked about once when it is looked up, and no other one is. -/
theorem LooksUp.countP_is_about {method : MethodId} {context : WalkContext} {asked : List Question}
    {outcome : Except Panic String} (looked : LooksUp method context asked outcome)
    {other : MethodId} (managed : other.isNative = false) :
    asked.countP (Question.isAbout other) = if method = other then 1 else 0 := by
  by_cases same : method = other
  · subst same
    cases looked with
    | native native => exact absurd native (by rw [managed]; exact Bool.false_ne_true)
    | _ => simp [Question.isAbout]
  · cases looked <;> simp [Question.isAbout, same]

/-- The name that a method had when the source was asked for it last. -/
def nameLookedUp (log : List Lookup) (method : MethodId) : Option String :=
  log.reverse.findSome? fun lookup =>
    if lookup.method = method ∧ lookup.cached = false then lookup.outcome.toOption else none

theorem name_looked_up_concat (log : List Lookup) (lookup : Lookup) (method : MethodId) :
    nameLookedUp (log ++ [lookup]) method =
      (if lookup.method = method ∧ lookup.cached = false then lookup.outcome.toOption
        else none).or (nameLookedUp log method) := by
  rw [nameLookedUp, List.reverse_concat, List.findSome?_cons]
  split <;> simp_all [nameLookedUp]

namespace RecentNames

/-- Whether every name in a cache is the one that its method had when it was looked up last. -/
def Recalls (log : List Lookup) (cache : RecentNames) : Prop :=
  ∀ method name, cache.nameOf method = some name → nameLookedUp log method = some name

section Served

variable {cache next : RecentNames} {request : NameRequest σ}
  {asked : List Question} {lookup : Lookup} (served : Served cache request asked lookup next)
include served

theorem Served.recalls_concat {log : List Lookup} (recalls : cache.Recalls log)
    (inStep : cache.InStep) :
    next.Recalls (log ++ [lookup]) := by
  intro method name kept
  rw [served.name_of_next inStep] at kept
  rw [name_looked_up_concat, served.lookup_method, served.lookup_cached]
  split at kept
  · cases kept
  · by_cases same : request.method = method
    · subst same
      rw [if_pos rfl] at kept
      cases known : cache.contains request.method with
      | true =>
          rw [(served.of_cached known).2] at kept
          rw [if_neg (by simp), Option.none_or]
          exact recalls request.method name kept
      | false =>
          rw [if_pos ⟨rfl, rfl⟩, kept]
          rfl
    · rw [if_neg same] at kept
      rw [if_neg (same ·.1), Option.none_or]
      exact recalls method name kept

/-- A request asks about a managed method if that is its own one and not cached. -/
theorem Served.countP_is_about {method : MethodId} (managed : method.isNative = false) :
    lookup.asked.countP (Question.isAbout method) =
      if request.method = method ∧ cache.contains method = false then 1 else 0 := by
  cases known : cache.contains request.method with
  | true =>
      have none : ¬(request.method = method ∧ cache.contains method = false) := by
        rintro ⟨rfl, absent⟩
        rw [known] at absent
        cases absent
      rw [(served.of_cached known).1, if_neg none]
      rfl
  | false =>
      obtain ⟨asks, looked⟩ := served.of_absent known
      rw [asks, looked.countP_is_about managed]
      by_cases same : request.method = method
      · rw [if_pos same, if_pos ⟨same, same ▸ known⟩]
      · rw [if_neg same, if_neg (same ·.1)]

end Served

theorem recalls_serve_all (source : Metadata σ) (capacity : Nat) (requests : List (NameRequest σ)) :
    ((ofCapacity capacity).serveAll source requests).2.Recalls
      ((ofCapacity capacity).serveAll source requests).1 := by
  induction requests using List.reverseRecOn with
  | nil => simp [serveAll, Recalls, nameOf, ofCapacity]
  | append_singleton requests request induction =>
      have behind := behind_serve_all source capacity requests
      rw [serve_all_concat]
      exact (served_serve source _ request).recalls_concat induction behind.latest.inStep

/-- A cache that has room for all methods asks about each managed one once. -/
theorem countP_is_about_serve_all {source : Metadata σ} (calm : source.Calm) {capacity : Nat}
    {requests : List (NameRequest σ)}
    (room : (requests.map (·.method)).dedup.length ≤ max capacity 1) {method : MethodId}
    (managed : method.isNative = false) :
    (((ofCapacity capacity).serveAll source requests).1.flatMap Lookup.asked).countP
        (Question.isAbout method) =
      if method ∈ requests.map (·.method) then 1 else 0 := by
  induction requests using List.reverseRecOn with
  | nil => rfl
  | append_singleton requests request induction =>
      have fewer : (requests.map (·.method)).dedup.length ≤ max capacity 1 := by
        refine le_trans (List.Nodup.subperm (List.nodup_dedup _) ?_).length_le room
        intro other member
        rw [List.mem_dedup] at member ⊢
        rw [List.map_append]
        exact List.mem_append_left _ member
      have known := contains_serve_all_iff calm capacity requests method
      rw [Nat.sub_eq_zero_of_le fewer, List.drop_zero, List.mem_dedup] at known
      have wanted : method ∈ (requests ++ [request]).map (·.method) ↔
          method ∈ requests.map (·.method) ∨ request.method = method := by
        rw [List.map_append, List.mem_append, List.map_singleton, List.mem_singleton, eq_comm]
      rw [serve_all_concat, List.flatMap_append, List.countP_append, induction fewer,
        List.flatMap_singleton, (served_serve source _ request).countP_is_about managed]
      by_cases earlier : method ∈ requests.map (·.method)
      · rw [if_pos earlier, if_neg (by simp [known.mpr earlier]),
          if_pos (wanted.mpr (.inl earlier))]
      · have absent := Bool.eq_false_iff.mpr (mt known.mp earlier)
        rw [if_neg earlier, Nat.zero_add]
        by_cases same : request.method = method
        · rw [if_pos ⟨same, absent⟩, if_pos (wanted.mpr (.inr same))]
        · rw [if_neg (same ·.1), if_neg (mt wanted.mp (not_or.mpr ⟨earlier, same⟩))]

theorem outcome_serve_all {source : Metadata σ} {answers : FixedAnswers}
    (given : answers.GivenBy source) {cache : RecentNames} (truthful : cache.Truthful answers)
    (requests : List (NameRequest σ)) :
    ∀ lookup ∈ (cache.serveAll source requests).1,
      lookup.outcome = .ok (answers.name lookup.method) := by
  induction requests generalizing cache with
  | nil => exact nofun
  | cons request later induction =>
      obtain ⟨outcome, next, -⟩ := cache.serve_eq_resolve source request
      obtain ⟨right, kept⟩ :=
        truthful.truthful_resolve given request.method request.context request.state
      intro lookup member
      rw [serve_all_cons] at member
      rcases List.mem_cons.mp member with same | within
      · rw [same, outcome, right]
        rfl
      · rw [← next] at kept
        exact induction kept lookup within

end RecentNames

/-- A source that does not panic may answer as it likes, and every time differently. A name that is
cached costs no question and is the one that its method had when it was looked up last. Any other
name is looked up, which asks what a lookup asks and nothing else, and is kept. So where the answers
are always the same, every name is the one that the source itself gives, and where there is room for
all methods, each managed one is asked about once. -/
theorem cache_is_transparent {source : Metadata σ} (calm : source.Calm) (capacity : Nat)
    (requests : List (NameRequest σ)) :
    let run := (RecentNames.ofCapacity capacity).serveAll source requests
    (∀ request : NameRequest σ,
      let served := run.2.serve source request
      ∃ name, served.1.outcome = .ok name ∧ served.2.nameOf request.method = some name ∧
        (run.2.contains request.method = true →
          served.1.asked = [] ∧ nameLookedUp run.1 request.method = some name) ∧
        (run.2.contains request.method = false →
          LooksUp request.method request.context served.1.asked (.ok name))) ∧
    (∀ answers : FixedAnswers, answers.GivenBy source → ∀ lookup ∈ run.1, ∀ context state,
      lookup.outcome = (Naming.methodName source lookup.method context state).1) ∧
    ((requests.map (·.method)).dedup.length ≤ max capacity 1 →
      ∀ method ∈ requests.map (·.method), method.isNative = false →
        (run.1.flatMap Lookup.asked).countP (Question.isAbout method) = 1) := by
  intro run
  have inStep : run.2.InStep :=
    (RecentNames.behind_serve_all source capacity requests).latest.inStep
  refine ⟨?_, ?_, ?_⟩
  · intro request served
    obtain ⟨name, named⟩ := RecentNames.exists_outcome_serve calm run.2 request
    have step := run.2.served_serve source request
    have stored : served.2.nameOf request.method = some name := by
      rw [step.name_of_request inStep, named]
      rfl
    refine ⟨name, named, stored, ?_, ?_⟩
    · intro cached
      obtain ⟨asked, same⟩ := step.of_cached cached
      rw [named] at same
      exact ⟨asked, RecentNames.recalls_serve_all source capacity requests _ name same.symm⟩
    · intro absent
      obtain ⟨asked, looked⟩ := step.of_absent absent
      rw [named, ← asked] at looked
      exact looked
  · intro answers given lookup member context state
    rw [FixedAnswers.method_name_given given]
    exact RecentNames.outcome_serve_all given (RecentNames.truthful_of_capacity capacity answers)
      requests lookup member
  · intro room method member managed
    rw [RecentNames.countP_is_about_serve_all calm room managed, if_pos member]

def learningSource : Metadata Bool where
  describe _ _ learned := (.ok ⟨if learned then some ⟨7⟩ else none, "m"⟩, learned)
  typeName _ learned := (.ok "C", learned)

def FixedAnswers.source (answers : FixedAnswers) : Metadata Unit where
  describe method _ state := (.ofExcept (answers.describe method), state)
  typeName classId state := (.ofExcept (answers.typeName classId), state)

/-- A name outlives the answers that it was built from until it is evicted, and a source with fixed
answers is asked about each of two methods once. -/
theorem cache_is_transparent_learning :
    let early := (RecentNames.ofCapacity 1).serveAll learningSource [⟨⟨1⟩, ⟨0⟩, false⟩]
    let late := (RecentNames.ofCapacity 1).serveAll learningSource
      [⟨⟨1⟩, ⟨0⟩, false⟩, ⟨⟨2⟩, ⟨0⟩, true⟩]
    let again : NameRequest Bool := ⟨⟨1⟩, ⟨5⟩, true⟩
    let answers : FixedAnswers := ⟨fun _ => .ok ⟨none, "m"⟩, fun _ => .error .notFound⟩
    let fixed := (RecentNames.ofCapacity 2).serveAll answers.source
      [⟨⟨1⟩, ⟨0⟩, ()⟩, ⟨⟨2⟩, ⟨0⟩, ()⟩, ⟨⟨1⟩, ⟨3⟩, ()⟩]
    learningSource.Calm ∧ answers.GivenBy answers.source ∧
    (early.2.serve learningSource again).1.outcome = .ok "SharedGenericFunction::m" ∧
    (late.2.serve learningSource again).1.outcome = .ok "C::m" ∧
    (∀ lookup ∈ fixed.1, ∀ context state,
      lookup.outcome = (Naming.methodName answers.source lookup.method context state).1) ∧
    (fixed.1.flatMap Lookup.asked).countP (Question.isAbout ⟨1⟩) = 1 := by
  intro early late again answers fixed
  have calm : learningSource.Calm := ⟨fun _ _ _ _ => nofun, fun _ _ _ => nofun⟩
  have given : answers.GivenBy answers.source := ⟨fun _ _ _ => rfl, fun _ _ => rfl⟩
  have calmFixed : answers.source.Calm := ⟨fun _ _ _ _ => nofun, fun _ _ _ => nofun⟩
  obtain ⟨served, -, -⟩ := cache_is_transparent calm 1 [⟨⟨1⟩, ⟨0⟩, false⟩]
  obtain ⟨servedLate, -, -⟩ := cache_is_transparent calm 1
    [⟨⟨1⟩, ⟨0⟩, false⟩, ⟨⟨2⟩, ⟨0⟩, true⟩]
  obtain ⟨-, right, once⟩ := cache_is_transparent calmFixed 2
    [⟨⟨1⟩, ⟨0⟩, ()⟩, ⟨⟨2⟩, ⟨0⟩, ()⟩, ⟨⟨1⟩, ⟨3⟩, ()⟩]
  refine ⟨calm, given, ?_, ?_, ?_, ?_⟩
  · obtain ⟨name, outcome, -, remembered, -⟩ := served again
    obtain ⟨-, same⟩ := remembered (by decide +kernel)
    have stored : nameLookedUp early.1 ⟨1⟩ = some "SharedGenericFunction::m" := by decide +kernel
    rw [outcome]
    exact congrArg Except.ok (Option.some.inj (same.symm.trans stored))
  · obtain ⟨name, outcome, -, -, looked⟩ := servedLate again
    have evicted : late.2.contains again.method = false := by
      rw [← Bool.not_eq_true, RecentNames.contains_serve_all_iff calm]
      decide
    have asked := looked evicted
    rw [((late.2.served_serve learningSource again).of_absent evicted).1] at asked
    rw [outcome]
    cases asked
    rfl
  · exact right answers given
  · exact once (by decide) ⟨1⟩ (by decide) (by decide)

end StackSampler
