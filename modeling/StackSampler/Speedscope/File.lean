import StackSampler.Text.Hex
import StackSampler.Wire.Batch
import Std.Data.TreeMap

/-!
Batches as a speedscope file of the sampled kind: one profile for each thread, one stack for each of
its samples, and one table of frame names for all of them.

Codes mean something only within their batch, so frames are brought together by name. Stacks are
written root first.
-/

namespace StackSampler.Speedscope

/-- Each sample is a list of places in the table of shared names. -/
structure Profile where
  name : String
  startValue : Float
  endValue : Float
  samples : List (List Nat)
  weights : List Float

structure File where
  schema : String
  profiles : List Profile
  frames : List String
  activeProfileIndex : Option Float := none
  exporter : Option String := none
  name : Option String := none

/-- The distinct names seen so far. A name keeps the place that it got when it was first seen. -/
structure NameTable where
  names : Array String := #[]
  places : Std.TreeMap String Nat := ∅

namespace NameTable

def place (table : NameTable) (name : String) : Nat × NameTable :=
  match table.places[name]? with
  | some place => (place, table)
  | none =>
      let place := table.names.size
      (place, { names := table.names.push name, places := table.places.insert name place })

/-- The places of names in order, behind places already found, which are kept last one first. -/
def placesAfter (before : List Nat) (table : NameTable) : List String → List Nat × NameTable
  | [] => (before.reverse, table)
  | name :: names =>
      let (place, table) := table.place name
      placesAfter (place :: before) table names

end NameTable

/-- Threads are told apart by handle and native number together, and are ordered by them. -/
structure ThreadKey where
  thread : UInt32
  nativeId : UInt32
deriving DecidableEq, Repr

namespace ThreadKey

instance : Ord ThreadKey := ⟨compareLex (compareOn ThreadKey.thread) (compareOn ThreadKey.nativeId)⟩

instance : Std.TransOrd ThreadKey :=
  inferInstanceAs
    (Std.TransCmp (compareLex (compareOn ThreadKey.thread) (compareOn ThreadKey.nativeId)))

instance : Std.LawfulEqOrd ThreadKey where
  eq_of_compare {left right} same := by
    have both := compareLex_eq_eq.mp same
    have threads : left.thread = right.thread := Std.LawfulEqOrd.eq_of_compare both.1
    have numbers : left.nativeId = right.nativeId := Std.LawfulEqOrd.eq_of_compare both.2
    cases left
    cases right
    simp_all

end ThreadKey

structure ThreadTrack where
  name : String
  traces : Array (List Nat) := #[]
deriving DecidableEq, Repr

namespace ThreadTrack

/-- The first name that is not empty stays. -/
def add (track : ThreadTrack) (name : String) (stack : List Nat) : ThreadTrack where
  name := if track.name.isEmpty then name else track.name
  traces := track.traces.push stack

def label (track : ThreadTrack) (key : ThreadKey) : String :=
  let name :=
    if track.name.isEmpty then s!"thread {Text.hex key.thread.toNat}" else track.name
  s!"{name} (os {key.nativeId.toNat})"

def profile (track : ThreadTrack) (key : ThreadKey) : Profile where
  name := track.label key
  startValue := 0.0
  endValue := (UInt64.ofNat track.traces.size).toFloat
  samples := track.traces.toList
  weights := List.replicate track.traces.size 1.0

end ThreadTrack

structure Gathered where
  frames : NameTable := {}
  threads : Std.TreeMap ThreadKey ThreadTrack := ∅

namespace Gathered

def add (gathered : Gathered) (sample : Wire.Sample) : Gathered :=
  let key : ThreadKey := ⟨sample.thread, sample.nativeId⟩
  let (stack, frames) := gathered.frames.placesAfter [] (sample.frames.map (·.name)).reverse
  let track := gathered.threads.getD key ⟨sample.threadName, #[]⟩
  { frames, threads := gathered.threads.insert key (track.add sample.threadName stack) }

def addBatch (gathered : Gathered) (batch : Wire.Batch) : Gathered :=
  batch.samples.foldl add gathered

def file (gathered : Gathered) : File where
  schema := "https://www.speedscope.app/file-format-schema.json"
  profiles := gathered.threads.toList.map fun (key, track) => track.profile key
  frames := gathered.frames.names.toList
  exporter := some "stackshot@0.1.0"
  name := some "stackshot profile"

end Gathered

def File.ofBatches (batches : List Wire.Batch) : File :=
  (batches.foldl Gathered.addBatch {}).file

end StackSampler.Speedscope
