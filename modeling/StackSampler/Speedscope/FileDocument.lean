import StackSampler.Json.Document
import StackSampler.Json.Reader
import StackSampler.Speedscope.File

/-!
Speedscope files as JSON documents. The kind of a profile and the unit of its weights are members
with one possible value each.
-/

namespace StackSampler.Speedscope

open Json.Reader (member record)

def Profile.document (profile : Profile) : Json.Document :=
  .record [("type", .text "sampled"), ("name", .text profile.name), ("unit", .text "none"),
    ("startValue", .real profile.startValue), ("endValue", .real profile.endValue),
    ("samples", .list (profile.samples.map fun stack => .list (stack.map .natural))),
    ("weights", .list (profile.weights.map .real))]

def File.document (file : File) : Json.Document :=
  .record [("$schema", .text file.schema), ("profiles", .list (file.profiles.map Profile.document)),
    ("shared", .record [("frames",
      .list (file.frames.map fun name => .record [("name", .text name)]))]),
    ("activeProfileIndex", (file.activeProfileIndex.map .real).getD .null),
    ("exporter", (file.exporter.map .text).getD .null),
    ("name", (file.name.map .text).getD .null)]

structure ProfileDraft where
  kind : Option Unit := none
  name : Option String := none
  measure : Option Unit := none
  startValue : Option Float := none
  endValue : Option Float := none
  samples : Option (List (List Nat)) := none
  weights : Option (List Float) := none

def ProfileDraft.profile? (draft : ProfileDraft) : Option Profile := do
  draft.kind
  draft.measure
  return {
    name := ← draft.name
    startValue := ← draft.startValue
    endValue := ← draft.endValue
    samples := ← draft.samples
    weights := ← draft.weights }

def Profile.reader : Json.Reader Profile :=
  record
    [member "type" ProfileDraft.kind (fun draft kind => { draft with kind })
        (.name [("sampled", ())]),
      member "name" ProfileDraft.name (fun draft name => { draft with name }) .text,
      member "unit" ProfileDraft.measure (fun draft measure => { draft with measure })
        (.name [("none", ())]),
      member "startValue" ProfileDraft.startValue
        (fun draft startValue => { draft with startValue }) .real,
      member "endValue" ProfileDraft.endValue (fun draft endValue => { draft with endValue }) .real,
      member "samples" ProfileDraft.samples (fun draft samples => { draft with samples })
        (.list (.list (.natural 0xffffffffffffffff))),
      member "weights" ProfileDraft.weights (fun draft weights => { draft with weights })
        (.list .real)]
    false {} ProfileDraft.profile?

def frameReader : Json.Reader String :=
  record [member "name" id (fun _ name => some name) .text] false none id

def sharedReader : Json.Reader (List String) :=
  record [member "frames" id (fun _ frames => some frames) (.list frameReader)] false none id

/-- The last three members may be absent or null, which is told apart here: null counts as given. -/
structure FileDraft where
  schema : Option String := none
  profiles : Option (List Profile) := none
  frames : Option (List String) := none
  activeProfileIndex : Option (Option Float) := none
  exporter : Option (Option String) := none
  name : Option (Option String) := none

def FileDraft.file? (draft : FileDraft) : Option File :=
  return {
    schema := ← draft.schema
    profiles := ← draft.profiles
    frames := ← draft.frames
    activeProfileIndex := draft.activeProfileIndex.join
    exporter := draft.exporter.join
    name := draft.name.join }

def File.reader : Json.Reader File :=
  record
    [member "$schema" FileDraft.schema (fun draft schema => { draft with schema }) .text,
      member "profiles" FileDraft.profiles (fun draft profiles => { draft with profiles })
        (.list Profile.reader),
      member "shared" FileDraft.frames (fun draft frames => { draft with frames }) sharedReader,
      member "activeProfileIndex" FileDraft.activeProfileIndex
        (fun draft given => { draft with activeProfileIndex := some given }) (.optional .real),
      member "exporter" FileDraft.exporter
        (fun draft given => { draft with exporter := some given }) (.optional .text),
      member "name" FileDraft.name (fun draft given => { draft with name := some given })
        (.optional .text)]
    false {} FileDraft.file?

end StackSampler.Speedscope
