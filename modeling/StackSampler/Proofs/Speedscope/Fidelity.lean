import Mathlib.Data.List.Forall2
import StackSampler.Proofs.Speedscope.Gathering

/-!
# What a speedscope file shows

A file is read here as its viewer reads it: the places of a stack stand for the shared names at
those places. So read, each profile shows the stacks of the samples of its thread, all of them and
no others, and the file shows nothing else of its batches.
-/

namespace StackSampler.Speedscope

def labelOf (key : ThreadKey) (own : List Wire.Sample) : String :=
  match firstNamed? own with
  | some name => s!"{name} (os {key.nativeId.toNat})"
  | none => s!"thread {Text.hex key.thread.toNat} (os {key.nativeId.toNat})"

/-- What a profile shows of its thread and of the thread's own samples, read with the shared names
of its file. -/
structure Profile.Shows (names : List String) (key : ThreadKey) (own : List Wire.Sample)
    (profile : Profile) : Prop where
  samples : profile.samples.map (·.map (names[·]?)) =
    own.map fun sample => (rootFirst sample).map some
  places : ∀ stack ∈ profile.samples, ∀ place ∈ stack, place < names.length
  weights : profile.weights = List.replicate profile.samples.length 1.0
  endValue : profile.endValue = (UInt64.ofNat profile.samples.length).toFloat
  label : profile.name = labelOf key own

theorem label_of_own (read : List String) (key : ThreadKey) (own : List Wire.Sample) :
    (ThreadTrack.ofOwn read own).label key = labelOf key own := by
  rw [ThreadTrack.label, labelOf, ThreadTrack.ofOwn]
  cases found : firstNamed? own with
  | some name => simp [ne_empty_of_first_named found]
  | none => rfl

theorem samples_profile_among (samples : List Wire.Sample) (key : ThreadKey) :
    (profileAmong samples key).samples =
      (ownSamples key samples).map (stackPlaces (namesRead samples)) :=
  List.toList_toArray

theorem map_getElem?_stack_places {samples : List Wire.Sample} {sample : Wire.Sample}
    (member : sample ∈ samples) :
    (stackPlaces (namesRead samples) sample).map ((namesRead samples).eraseDups[·]?) =
      (rootFirst sample).map some := by
  rw [stackPlaces, List.map_map]
  apply List.map_congr_left
  intro name named
  exact List.getElem?_idxOf (List.mem_eraseDups.mpr (mem_names_read member named))

theorem profile_among_shows (samples : List Wire.Sample) (key : ThreadKey) :
    (profileAmong samples key).Shows (namesRead samples).eraseDups key
      (ownSamples key samples) where
  samples := by
    rw [samples_profile_among, List.map_map]
    apply List.map_congr_left
    intro sample member
    exact map_getElem?_stack_places (mem_of_mem_own_samples sample member)
  places := by
    rw [samples_profile_among]
    intro stack among place within
    obtain ⟨sample, member, rfl⟩ := List.mem_map.mp among
    obtain ⟨name, named, rfl⟩ := List.mem_map.mp within
    have read := mem_names_read (mem_of_mem_own_samples sample member) named
    exact List.idxOf_lt_length_of_mem (List.mem_eraseDups.mpr read)
  weights := rfl
  endValue := rfl
  label := label_of_own _ _ _

def uncodedSample (sample : Wire.Sample) : Wire.Sample :=
  { sample with
    frames := sample.frames.map fun frame => { frame with code := 0, defines := false } }

def uncoded (batch : Wire.Batch) : Wire.Batch := ⟨batch.samples.map uncodedSample⟩

theorem add_uncoded_sample (gathered : Gathered) (sample : Wire.Sample) :
    gathered.add (uncodedSample sample) = gathered.add sample := by
  have names : (uncodedSample sample).frames.map (·.name) = sample.frames.map (·.name) := by
    rw [uncodedSample, List.map_map]
    rfl
  rw [Gathered.add, names]
  rfl

theorem of_batches_uncoded (batches : List Wire.Batch) :
    File.ofBatches (batches.map uncoded) = File.ofBatches batches := by
  have samples : samplesIn (batches.map uncoded) = (samplesIn batches).map uncodedSample := by
    rw [samplesIn, samplesIn, List.flatMap_map, List.map_flatMap]
    rfl
  rw [File.of_batches_eq_file, File.of_batches_eq_file, samples, List.foldl_map]
  simp only [add_uncoded_sample]

/-- Whatever the batches: the profiles come in the order of their threads, one for each thread that
was sampled and no other, and each shows the samples of its thread. The shared names are those of
all stacks, each where it is first read. The codes of the frames make no difference. -/
theorem file_shows_samples (batches : List Wire.Batch) :
    let samples := samplesIn batches
    let file := File.ofBatches batches
    (threadsOf samples).Pairwise ThreadKey.Before ∧
    (∀ key, key ∈ threadsOf samples ↔ ∃ sample ∈ samples, ThreadKey.ofSample sample = key) ∧
    List.Forall₂ (fun key profile => profile.Shows file.frames key (ownSamples key samples))
      (threadsOf samples) file.profiles ∧
    file.frames.Nodup ∧
    file.frames = (samples.flatMap rootFirst).eraseDups ∧
    ∀ others, others.map uncoded = batches.map uncoded → File.ofBatches others = file := by
  intro samples file
  have frames : file.frames = (namesRead samples).eraseDups := File.frames_of_batches batches
  refine ⟨?_, fun _ => mem_threads_of, ?_, ?_, frames, ?_⟩
  · exact (ascending_threads_of samples).imp ThreadKey.before_of_compare
  · have profiles : file.profiles = (threadsOf samples).map (profileAmong samples) :=
      File.profiles_of_batches batches
    rw [profiles, frames, List.forall₂_map_right_iff, List.forall₂_same]
    intro key _
    exact profile_among_shows samples key
  · rw [frames]
    exact nodup_eraseDups _
  · intro others same
    rw [← of_batches_uncoded others, same, of_batches_uncoded]

def interleaved : List Wire.Batch :=
  [⟨[⟨9, 1, "", [⟨1, "leaf", true⟩, ⟨2, "main", true⟩]⟩, ⟨4, 2, "", [⟨2, "main", false⟩]⟩]⟩,
    ⟨[⟨9, 1, "worker", [⟨1, "other", true⟩, ⟨2, "main", true⟩]⟩]⟩]

def recoded : List Wire.Batch :=
  [⟨[⟨9, 1, "", [⟨2, "leaf", false⟩, ⟨1, "main", false⟩]⟩, ⟨4, 2, "", [⟨1, "main", true⟩]⟩]⟩,
    ⟨[⟨9, 1, "worker", [⟨7, "other", false⟩, ⟨7, "main", true⟩]⟩]⟩]

theorem file_shows_samples_recoded :
    recoded.map uncoded = interleaved.map uncoded ∧
    File.ofBatches recoded = File.ofBatches interleaved ∧
    (File.ofBatches interleaved).frames = ["main", "leaf", "other"] ∧
    threadsOf (samplesIn interleaved) = [⟨4, 2⟩, ⟨9, 1⟩] ∧
    (File.ofBatches interleaved).profiles.map (·.samples) = [[[0]], [[0, 1], [0, 2]]] ∧
    (File.ofBatches interleaved).profiles.map (·.name) =
      ["thread 0x4 (os 2)", "worker (os 1)"] := by
  obtain ⟨-, -, -, -, frames, same⟩ := file_shows_samples interleaved
  have sampled : (samplesIn interleaved).map ThreadKey.ofSample =
      [⟨9, 1⟩, ⟨4, 2⟩, ⟨9, 1⟩] := rfl
  have threads : [⟨4, 2⟩, ⟨9, 1⟩] = threadsOf (samplesIn interleaved) := by
    apply eq_threads_of (by decide)
    intro key
    rw [mem_threads_of, ← List.mem_map, sampled]
    grind
  have profiles := File.profiles_of_batches interleaved
  rw [← threads] at profiles
  refine ⟨rfl, same recoded rfl, ?_, threads.symm, ?_, ?_⟩
  · rw [frames]
    decide
  · rw [profiles]
    decide
  · rw [profiles]
    decide

end StackSampler.Speedscope
