import Mathlib.Data.List.Zip
import StackSampler.Proofs.Speedscope.Fidelity

/-!
# Files of more batches

Only the samples of batches count, not where one batch ends and the next begins. A file of more
batches continues the file of fewer: the shared names stand at the same places with more behind
them, and so do the stacks of a thread, wherever new threads put its profile.
-/

namespace StackSampler.Speedscope

/-- The profiles of a file, each with its thread. Profiles come in the order of their threads. -/
def profilesByThread (batches : List Wire.Batch) : List (ThreadKey × Profile) :=
  (threadsOf (samplesIn batches)).zip (File.ofBatches batches).profiles

theorem samples_in_append (batches more : List Wire.Batch) :
    samplesIn (batches ++ more) = samplesIn batches ++ samplesIn more :=
  List.flatMap_append

theorem profiles_by_thread_eq (batches : List Wire.Batch) :
    profilesByThread batches =
      (threadsOf (samplesIn batches)).map
        fun key => (key, profileAmong (samplesIn batches) key) := by
  have paired : ((threadsOf (samplesIn batches)).map id).zip
      ((threadsOf (samplesIn batches)).map (profileAmong (samplesIn batches))) = _ := List.zip_map'
  rw [List.map_id] at paired
  rw [profilesByThread, File.profiles_of_batches]
  exact paired

theorem mem_profiles_by_thread {batches : List Wire.Batch} {key : ThreadKey} {profile : Profile} :
    (key, profile) ∈ profilesByThread batches ↔
      key ∈ threadsOf (samplesIn batches) ∧ profileAmong (samplesIn batches) key = profile := by
  rw [profiles_by_thread_eq, List.mem_map]
  constructor
  · rintro ⟨other, member, same⟩
    cases same
    exact ⟨member, rfl⟩
  · rintro ⟨member, rfl⟩
    exact ⟨key, member, rfl⟩

theorem map_snd_profiles_by_thread (batches : List Wire.Batch) :
    (profilesByThread batches).map Prod.snd = (File.ofBatches batches).profiles := by
  rw [profiles_by_thread_eq, List.map_map, File.profiles_of_batches]
  rfl

theorem threads_of_subset_append {front : List Wire.Sample} {key : ThreadKey}
    (sampled : key ∈ threadsOf front) (back : List Wire.Sample) :
    key ∈ threadsOf (front ++ back) := by
  obtain ⟨sample, member, own⟩ := mem_threads_of.mp sampled
  exact mem_threads_of.mpr ⟨sample, List.mem_append_left back member, own⟩

theorem samples_profile_among_prefix (front back : List Wire.Sample) (key : ThreadKey) :
    (profileAmong front key).samples <+: (profileAmong (front ++ back) key).samples := by
  rw [samples_profile_among, samples_profile_among, own_samples_append, List.map_append,
    names_read_append, map_stack_places_append mem_of_mem_own_samples]
  exact List.prefix_append _ _

theorem label_of_append {own : List Wire.Sample} (named : ∃ sample ∈ own, sample.threadName ≠ "")
    (key : ThreadKey) (more : List Wire.Sample) : labelOf key (own ++ more) = labelOf key own := by
  obtain ⟨sample, member, notEmpty⟩ := named
  have found : firstNamed? own ≠ none :=
    fun unnamed => notEmpty (first_named_eq_none_iff.mp unnamed sample member)
  obtain ⟨name, first⟩ := Option.ne_none_iff_exists'.mp found
  rw [labelOf, labelOf, first_named_append, first, Option.some_or]

/-- Whatever the batches: a file depends only on their samples in order, and more batches only
extend it. The shared names keep their places. Each profile stays, with its stacks before any that
are new, and keeps its label if one of its samples had a name. -/
theorem more_batches_extend_file (batches more : List Wire.Batch) :
    File.ofBatches batches = File.ofBatches [⟨samplesIn batches⟩] ∧
    (File.ofBatches batches).frames <+: (File.ofBatches (batches ++ more)).frames ∧
    (profilesByThread batches).map Prod.snd = (File.ofBatches batches).profiles ∧
    ∀ key profile, (key, profile) ∈ profilesByThread batches →
      ∃ longer, (key, longer) ∈ profilesByThread (batches ++ more) ∧
        profile.samples <+: longer.samples ∧
        ((∃ sample ∈ ownSamples key (samplesIn batches), sample.threadName ≠ "") →
          longer.name = profile.name) := by
  refine ⟨?_, ?_, map_snd_profiles_by_thread batches, ?_⟩
  · have merged : samplesIn [⟨samplesIn batches⟩] = samplesIn batches := List.flatMap_singleton ..
    rw [File.of_batches_eq_file, File.of_batches_eq_file, merged]
  · rw [File.frames_of_batches, File.frames_of_batches, samples_in_append, names_read_append]
    exact eraseDups_prefix_append _ _
  · intro key profile shown
    obtain ⟨sampled, rfl⟩ := mem_profiles_by_thread.mp shown
    have still := threads_of_subset_append sampled (samplesIn more)
    rw [← samples_in_append] at still
    refine ⟨_, mem_profiles_by_thread.mpr ⟨still, rfl⟩, ?_, ?_⟩
    · rw [samples_in_append]
      exact samples_profile_among_prefix _ _ key
    · intro named
      have first := (profile_among_shows (samplesIn batches) key).label
      have longer := (profile_among_shows (samplesIn (batches ++ more)) key).label
      rw [longer, first, samples_in_append, own_samples_append]
      exact label_of_append named key _

def begun : List Wire.Batch := [⟨[⟨9, 1, "worker", [⟨1, "leaf", true⟩, ⟨2, "main", true⟩]⟩]⟩]

def overtaking : List Wire.Batch :=
  [⟨[⟨4, 2, "", [⟨1, "main", true⟩]⟩, ⟨9, 1, "renamed", [⟨2, "other", true⟩, ⟨1, "main", false⟩]⟩]⟩]

theorem more_batches_extend_file_overtaken :
    (⟨9, 1⟩, profileAmong (samplesIn begun) ⟨9, 1⟩) ∈ profilesByThread begun ∧
    (∃ sample ∈ ownSamples ⟨9, 1⟩ (samplesIn begun), sample.threadName ≠ "") ∧
    ∃ longer, (⟨9, 1⟩, longer) ∈ profilesByThread (begun ++ overtaking) ∧
      [[0, 1]] <+: longer.samples ∧ longer.name = "worker (os 1)" := by
  obtain ⟨-, -, -, continued⟩ := more_batches_extend_file begun overtaking
  have sampled : ⟨9, 1⟩ ∈ threadsOf (samplesIn begun) :=
    mem_threads_of.mpr ⟨_, List.mem_singleton_self _, rfl⟩
  have shown := mem_profiles_by_thread.mpr ⟨sampled, rfl⟩
  have named : ∃ sample ∈ ownSamples ⟨9, 1⟩ (samplesIn begun), sample.threadName ≠ "" := by decide
  obtain ⟨longer, still, kept, label⟩ := continued ⟨9, 1⟩ _ shown
  have first : (profileAmong (samplesIn begun) ⟨9, 1⟩).samples = [[0, 1]] := by decide
  rw [first] at kept
  exact ⟨shown, named, longer, still, kept, (label named).trans (by decide)⟩

end StackSampler.Speedscope
