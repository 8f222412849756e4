import StackSampler.Json.Document
import StackSampler.Json.Reader
import StackSampler.Tally

/-!
Counters as JSON documents.
-/

namespace StackSampler

open Json.Reader (member record)

def NameCounts.document (counts : NameCounts) : Json.Document :=
  .record [("hits", .word counts.hits), ("misses", .word counts.misses),
    ("evictions", .word counts.evictions), ("entries", .word counts.entries)]

structure NameCountsDraft where
  hits : Option UInt64 := none
  misses : Option UInt64 := none
  evictions : Option UInt64 := none
  entries : Option UInt64 := none

def NameCountsDraft.counts? (draft : NameCountsDraft) : Option NameCounts :=
  return ⟨← draft.hits, ← draft.misses, ← draft.evictions, ← draft.entries⟩

def NameCounts.reader : Json.Reader NameCounts :=
  record
    [member "hits" NameCountsDraft.hits (fun draft hits => { draft with hits }) .word64,
      member "misses" NameCountsDraft.misses (fun draft misses => { draft with misses })
        .word64,
      member "evictions" NameCountsDraft.evictions
        (fun draft evictions => { draft with evictions }) .word64,
      member "entries" NameCountsDraft.entries (fun draft entries => { draft with entries })
        .word64]
    false {} NameCountsDraft.counts?

def Snapshot.document (snapshot : Snapshot) : Json.Document :=
  .record [("passes", .word snapshot.passes), ("skipped", .word snapshot.skipped),
    ("published", .word snapshot.published), ("dropped", .word snapshot.dropped),
    ("truncated", .word snapshot.truncated), ("failed_resumes", .word snapshot.failedResumes),
    ("last_frozen_micros", .word snapshot.lastFrozenMicros),
    ("max_frozen_micros", .word snapshot.maxFrozenMicros),
    ("total_frozen_micros", .word snapshot.totalFrozenMicros),
    ("names", snapshot.names.document)]

structure SnapshotDraft where
  passes : Option UInt64 := none
  skipped : Option UInt64 := none
  published : Option UInt64 := none
  dropped : Option UInt64 := none
  truncated : Option UInt64 := none
  failedResumes : Option UInt64 := none
  lastFrozenMicros : Option UInt64 := none
  maxFrozenMicros : Option UInt64 := none
  totalFrozenMicros : Option UInt64 := none
  names : Option NameCounts := none

def SnapshotDraft.snapshot? (draft : SnapshotDraft) : Option Snapshot :=
  return {
    passes := ← draft.passes
    skipped := ← draft.skipped
    published := ← draft.published
    dropped := ← draft.dropped
    truncated := ← draft.truncated
    failedResumes := ← draft.failedResumes
    lastFrozenMicros := ← draft.lastFrozenMicros
    maxFrozenMicros := ← draft.maxFrozenMicros
    totalFrozenMicros := ← draft.totalFrozenMicros
    names := ← draft.names }

def Snapshot.reader : Json.Reader Snapshot :=
  record
    [member "passes" SnapshotDraft.passes (fun draft passes => { draft with passes }) .word64,
      member "skipped" SnapshotDraft.skipped (fun draft skipped => { draft with skipped }) .word64,
      member "published" SnapshotDraft.published (fun draft published => { draft with published })
        .word64,
      member "dropped" SnapshotDraft.dropped (fun draft dropped => { draft with dropped }) .word64,
      member "truncated" SnapshotDraft.truncated (fun draft truncated => { draft with truncated })
        .word64,
      member "failed_resumes" SnapshotDraft.failedResumes
        (fun draft failedResumes => { draft with failedResumes }) .word64,
      member "last_frozen_micros" SnapshotDraft.lastFrozenMicros
        (fun draft lastFrozenMicros => { draft with lastFrozenMicros }) .word64,
      member "max_frozen_micros" SnapshotDraft.maxFrozenMicros
        (fun draft maxFrozenMicros => { draft with maxFrozenMicros }) .word64,
      member "total_frozen_micros" SnapshotDraft.totalFrozenMicros
        (fun draft totalFrozenMicros => { draft with totalFrozenMicros }) .word64,
      member "names" SnapshotDraft.names (fun draft names => { draft with names })
        NameCounts.reader]
    false {} SnapshotDraft.snapshot?

end StackSampler
