import Mathlib.Data.List.Induction
import StackSampler.Proofs.FirstOccurrences
import StackSampler.Speedscope.File

/-!
# What is gathered of samples

The samples of many threads come in mixed, and one table of frame names grows beside them. What is
gathered of them is stated here without either table: the distinct frame names in the order in which
they are first read, and for each thread its own samples in order, each as the places of its names.
A name keeps its place when more samples follow, so the stacks that were gathered earlier stay
right.
-/

namespace StackSampler.Speedscope

def ThreadKey.ofSample (sample : Wire.Sample) : ThreadKey := ⟨sample.thread, sample.nativeId⟩

def rootFirst (sample : Wire.Sample) : List String := (sample.frames.map (·.name)).reverse

def namesRead (samples : List Wire.Sample) : List String := samples.flatMap rootFirst

def ownSamples (key : ThreadKey) (samples : List Wire.Sample) : List Wire.Sample :=
  samples.filter (ThreadKey.ofSample · = key)

def firstNamed? (own : List Wire.Sample) : Option String :=
  (own.map (·.threadName)).find? (!·.isEmpty)

def stackPlaces (read : List String) (sample : Wire.Sample) : List Nat :=
  (rootFirst sample).map (read.eraseDups.idxOf ·)

def ThreadTrack.ofOwn (read : List String) (own : List Wire.Sample) : ThreadTrack where
  name := (firstNamed? own).getD ""
  traces := (own.map (stackPlaces read)).toArray

theorem mem_names_read {samples : List Wire.Sample} {sample : Wire.Sample} {name : String}
    (member : sample ∈ samples) (named : name ∈ rootFirst sample) : name ∈ namesRead samples :=
  List.mem_flatMap.mpr ⟨sample, member, named⟩

theorem names_read_append (front back : List Wire.Sample) :
    namesRead (front ++ back) = namesRead front ++ namesRead back :=
  List.flatMap_append

theorem own_samples_append (key : ThreadKey) (front back : List Wire.Sample) :
    ownSamples key (front ++ back) = ownSamples key front ++ ownSamples key back :=
  List.filter_append front back

theorem mem_of_mem_own_samples {key : ThreadKey} {samples : List Wire.Sample} :
    ∀ sample ∈ ownSamples key samples, sample ∈ samples :=
  fun _ member => (List.mem_filter.mp member).1

/-- Whether a table holds the distinct ones of the names that were read, each at its place. -/
structure NameTable.Lists (table : NameTable) (read : List String) : Prop where
  names : table.names.toList = read.eraseDups
  places : ∀ name, table.places[name]? =
    if name ∈ read then some (read.eraseDups.idxOf name) else none

namespace NameTable

theorem lists_empty : Lists {} [] := by
  constructor
  · rfl
  · intro name
    exact Std.TreeMap.getElem?_emptyc

variable {table : NameTable} {read : List String}

theorem Lists.lists_place (lists : table.Lists read) (name : String) :
    (table.place name).1 = (read ++ [name]).eraseDups.idxOf name ∧
      (table.place name).2.Lists (read ++ [name]) := by
  have found := lists.places name
  by_cases seen : name ∈ read
  · have same : (read ++ [name]).eraseDups = read.eraseDups := eraseDups_concat_of_mem seen
    rw [if_pos seen] at found
    rw [NameTable.place, found, same]
    refine ⟨rfl, ?_, ?_⟩
    · rw [same]
      exact lists.names
    · intro other
      rw [same, lists.places other]
      by_cases own : other = name
      · subst own
        simp [seen]
      · simp [own]
  · have longer : (read ++ [name]).eraseDups = read.eraseDups ++ [name] :=
      eraseDups_concat_of_not_mem seen
    have absent : name ∉ read.eraseDups := mt List.mem_eraseDups.mp seen
    have next : (read ++ [name]).eraseDups.idxOf name = table.names.size := by
      rw [longer, List.idxOf_append_of_notMem absent, List.idxOf_cons_self, ← lists.names,
        Array.length_toList, Nat.add_zero]
    rw [if_neg seen] at found
    rw [NameTable.place, found, next]
    refine ⟨rfl, ?_, ?_⟩
    · rw [longer, Array.toList_push, lists.names]
    · intro other
      by_cases own : name = other
      · subst own
        rw [Std.TreeMap.getElem?_insert_self, if_pos (by simp), next]
      · -- The names before the new one keep their places.
        rw [Std.TreeMap.getElem?_insert, if_neg (mt Std.LawfulEqOrd.eq_of_compare own),
          lists.places other]
        by_cases known : other ∈ read
        · rw [if_pos known, if_pos (by simp [known]), idxOf_eraseDups_append known]
        · rw [if_neg known, if_neg (by simp [known, Ne.symm own])]

theorem Lists.lists_places_after (lists : table.Lists read) (before : List Nat)
    (names : List String) :
    (table.placesAfter before names).1 =
        before.reverse ++ names.map ((read ++ names).eraseDups.idxOf ·) ∧
      (table.placesAfter before names).2.Lists (read ++ names) := by
  induction names generalizing table read before with
  | nil =>
      rw [List.map_nil, List.append_nil, List.append_nil]
      exact ⟨rfl, lists⟩
  | cons name names induction =>
      obtain ⟨place, placed⟩ := lists.lists_place name
      obtain ⟨rest, listed⟩ := induction placed ((table.place name).1 :: before)
      have kept : (read ++ name :: names).eraseDups.idxOf name =
          (read ++ [name]).eraseDups.idxOf name := by
        rw [List.append_cons]
        exact idxOf_eraseDups_append (by simp) names
      rw [← List.append_cons] at rest listed
      refine ⟨?_, listed⟩
      rw [List.map_cons, kept, ← place]
      exact rest.trans (by simp)

end NameTable

theorem first_named_append (front back : List Wire.Sample) :
    firstNamed? (front ++ back) = (firstNamed? front).or (firstNamed? back) := by
  rw [firstNamed?, List.map_append, List.find?_append]
  rfl

theorem first_named_eq_none_iff {own : List Wire.Sample} :
    firstNamed? own = none ↔ ∀ sample ∈ own, sample.threadName = "" := by
  simp [firstNamed?]

/-- A name that was found is not empty, so the label never takes it for a missing one. -/
theorem ne_empty_of_first_named {own : List Wire.Sample} {name : String}
    (found : firstNamed? own = some name) : name.isEmpty = false := by
  have named := List.find?_some found
  simpa using named

/-- The places of a stack that was read do not change when more names are read. -/
theorem stack_places_append {read : List String} {sample : Wire.Sample}
    (seen : ∀ name ∈ rootFirst sample, name ∈ read) (more : List String) :
    stackPlaces (read ++ more) sample = stackPlaces read sample :=
  List.map_congr_left fun name member => idxOf_eraseDups_append (seen name member) more

theorem map_stack_places_append {samples own : List Wire.Sample}
    (within : ∀ sample ∈ own, sample ∈ samples) (more : List String) :
    own.map (stackPlaces (namesRead samples ++ more)) = own.map (stackPlaces (namesRead samples)) :=
  List.map_congr_left fun sample member =>
    stack_places_append (fun _ named => mem_names_read (within sample member) named) more

namespace ThreadTrack

theorem of_own_concat (read : List String) (own : List Wire.Sample) (sample : Wire.Sample) :
    ofOwn read (own ++ [sample]) =
      (ofOwn read own).add sample.threadName (stackPlaces read sample) := by
  have name : ((firstNamed? (own ++ [sample])).getD "") =
      if ((firstNamed? own).getD "").isEmpty then sample.threadName
      else (firstNamed? own).getD "" := by
    rw [first_named_append]
    cases found : firstNamed? own with
    | some name => simp [ne_empty_of_first_named found]
    | none =>
        cases unnamed : sample.threadName.isEmpty with
        | true => simp [firstNamed?, String.isEmpty_iff.mp unnamed]
        | false => simp [firstNamed?, unnamed]
  rw [ofOwn, name, List.map_append, add]
  simp [ofOwn]

/-- What the own samples of a thread came to does not change when more names are read. -/
theorem of_own_read_append (key : ThreadKey) (samples : List Wire.Sample) (more : List String) :
    ofOwn (namesRead samples ++ more) (ownSamples key samples) =
      ofOwn (namesRead samples) (ownSamples key samples) := by
  rw [ofOwn, ofOwn, map_stack_places_append mem_of_mem_own_samples]

end ThreadTrack

structure Gathered.Holds (gathered : Gathered) (samples : List Wire.Sample) : Prop where
  frames : gathered.frames.Lists (namesRead samples)
  threads : ∀ key, gathered.threads[key]? =
    if ownSamples key samples = [] then none
    else some (.ofOwn (namesRead samples) (ownSamples key samples))

namespace Gathered

theorem holds_empty : Holds {} [] :=
  ⟨NameTable.lists_empty, fun _ => Std.TreeMap.getElem?_emptyc⟩

theorem Holds.holds_add {gathered : Gathered} {samples : List Wire.Sample}
    (holds : gathered.Holds samples) (sample : Wire.Sample) :
    (gathered.add sample).Holds (samples ++ [sample]) := by
  obtain ⟨stack, listed⟩ := holds.frames.lists_places_after [] (rootFirst sample)
  have read : namesRead (samples ++ [sample]) = namesRead samples ++ rootFirst sample := by
    rw [names_read_append]
    simp [namesRead]
  refine ⟨read ▸ listed, ?_⟩
  intro key
  have before := holds.threads key
  rw [read, own_samples_append]
  by_cases own : ThreadKey.ofSample sample = key
  · have single : ownSamples key [sample] = [sample] := by simp [ownSamples, own]
    rw [single, if_neg (by simp), ThreadTrack.of_own_concat, ThreadTrack.of_own_read_append]
    subst own
    refine Std.TreeMap.getElem?_insert_self.trans ?_
    rw [Std.TreeMap.getD_eq_getD_getElem?]
    change some ((gathered.threads[ThreadKey.ofSample sample]?.getD _).add _
      (gathered.frames.placesAfter [] (rootFirst sample)).1) = _
    rw [before, stack]
    -- A thread without samples begins with the name that its first sample gives it.
    by_cases first : ownSamples (ThreadKey.ofSample sample) samples = []
    · rw [if_pos first, first]
      simp [ThreadTrack.add, ThreadTrack.ofOwn, firstNamed?, stackPlaces]
    · rw [if_neg first]
      rfl
  · have none : ownSamples key [sample] = [] := by simp [ownSamples, own]
    rw [none, List.append_nil, ThreadTrack.of_own_read_append, ← before]
    exact Std.TreeMap.getElem?_insert.trans (if_neg (mt Std.LawfulEqOrd.eq_of_compare own))

theorem holds_foldl (samples : List Wire.Sample) : (samples.foldl add {}).Holds samples := by
  induction samples using List.reverseRecOn with
  | nil => exact holds_empty
  | append_singleton samples sample induction =>
      rw [List.foldl_concat]
      exact induction.holds_add sample

end Gathered

/-- The order of threads: by handle, and by native number where the handles agree. -/
def ThreadKey.Before (left right : ThreadKey) : Prop :=
  left.thread < right.thread ∨ left.thread = right.thread ∧ left.nativeId < right.nativeId

theorem ThreadKey.before_of_compare {left right : ThreadKey} (less : compare left right = .lt) :
    left.Before right := by
  change (compare left.thread right.thread).then (compare left.nativeId right.nativeId) = .lt
    at less
  rcases Ordering.then_eq_lt.mp less with thread | ⟨thread, nativeId⟩
  · exact .inl (Std.compare_eq_lt.mp thread)
  · exact .inr ⟨Std.LawfulEqOrd.eq_of_compare thread, Std.compare_eq_lt.mp nativeId⟩

def threadsOf (samples : List Wire.Sample) : List ThreadKey :=
  (samples.map ThreadKey.ofSample).eraseDups.mergeSort fun left right => (compare left right).isLE

theorem mem_threads_of {samples : List Wire.Sample} {key : ThreadKey} :
    key ∈ threadsOf samples ↔ ∃ sample ∈ samples, ThreadKey.ofSample sample = key := by
  rw [threadsOf, List.mem_mergeSort, List.mem_eraseDups, List.mem_map]

theorem mem_threads_of_iff_ne_nil {samples : List Wire.Sample} {key : ThreadKey} :
    key ∈ threadsOf samples ↔ ownSamples key samples ≠ [] := by
  rw [mem_threads_of, ownSamples, ne_eq, List.filter_eq_nil_iff]
  simp

theorem nodup_threads_of (samples : List Wire.Sample) : (threadsOf samples).Nodup :=
  (List.mergeSort_perm _ _).nodup_iff.mpr (nodup_eraseDups _)

theorem ascending_threads_of (samples : List Wire.Sample) :
    (threadsOf samples).Pairwise (compare · · = .lt) := by
  have sorted : (threadsOf samples).Pairwise (fun left right => (compare left right).isLE) := by
    apply List.pairwise_mergeSort
    · intro first second third
      exact Std.TransOrd.isLE_trans
    · intro left right
      rw [← Std.OrientedCmp.isGE_eq_isLE]
      cases compare right left <;> rfl
  refine (sorted.and (nodup_threads_of samples)).imp ?_
  rintro left right ⟨atMost, distinct⟩
  cases order : compare left right with
  | lt => rfl
  | eq => exact absurd (Std.LawfulEqOrd.eq_of_compare order) distinct
  | gt =>
      rw [order] at atMost
      cases atMost

/-- Only one list has the threads of samples in their order. -/
theorem eq_threads_of {samples : List Wire.Sample} {keys : List ThreadKey}
    (ascending : keys.Pairwise (compare · · = .lt))
    (same : ∀ key, key ∈ keys ↔ key ∈ threadsOf samples) : keys = threadsOf samples := by
  have distinct : keys.Nodup := ascending.imp fun less equal => by
    rw [equal, Std.ReflOrd.compare_self] at less
    cases less
  apply List.Perm.eq_of_pairwise _ ascending (ascending_threads_of samples)
  · exact (List.perm_ext_iff_of_nodup distinct (nodup_threads_of samples)).mpr same
  · intro left right _ _ less greater
    rw [Std.OrientedOrd.eq_swap, greater] at less
    cases less

def samplesIn (batches : List Wire.Batch) : List Wire.Sample := batches.flatMap (·.samples)

def profileAmong (samples : List Wire.Sample) (key : ThreadKey) : Profile :=
  (ThreadTrack.ofOwn (namesRead samples) (ownSamples key samples)).profile key

/-- Where one batch ends and the next begins makes no difference. -/
theorem foldl_add_batch (batches : List Wire.Batch) (gathered : Gathered) :
    batches.foldl Gathered.addBatch gathered = (samplesIn batches).foldl Gathered.add gathered := by
  induction batches generalizing gathered with
  | nil => rfl
  | cons batch batches induction =>
      rw [List.foldl_cons, induction, Gathered.addBatch, samplesIn, samplesIn, List.flatMap_cons,
        List.foldl_append]

theorem File.of_batches_eq_file (batches : List Wire.Batch) :
    File.ofBatches batches = ((samplesIn batches).foldl Gathered.add {}).file := by
  rw [File.ofBatches, foldl_add_batch]

theorem File.frames_of_batches (batches : List Wire.Batch) :
    (File.ofBatches batches).frames = (namesRead (samplesIn batches)).eraseDups := by
  rw [File.of_batches_eq_file]
  exact (Gathered.holds_foldl (samplesIn batches)).frames.names

theorem Gathered.Holds.keys_of_holds {gathered : Gathered} {samples : List Wire.Sample}
    (holds : gathered.Holds samples) : gathered.threads.keys = threadsOf samples := by
  apply eq_threads_of Std.TreeMap.ordered_keys
  intro key
  rw [Std.TreeMap.mem_keys, Std.TreeMap.mem_iff_isSome_getElem?, holds.threads key,
    mem_threads_of_iff_ne_nil]
  split <;> simp [*]

theorem File.profiles_of_batches (batches : List Wire.Batch) :
    (File.ofBatches batches).profiles =
      (threadsOf (samplesIn batches)).map (profileAmong (samplesIn batches)) := by
  have holds := Gathered.holds_foldl (samplesIn batches)
  rw [← holds.keys_of_holds, ← Std.TreeMap.map_fst_toList_eq_keys, List.map_map,
    File.of_batches_eq_file]
  change ((samplesIn batches).foldl Gathered.add {}).threads.toList.map _ = _
  apply List.map_congr_left
  rintro ⟨key, track⟩ member
  have found := Std.TreeMap.mem_toList_iff_getElem?_eq_some.mp member
  rw [holds.threads key] at found
  split at found
  · cases found
  · cases found
    rfl

end StackSampler.Speedscope
