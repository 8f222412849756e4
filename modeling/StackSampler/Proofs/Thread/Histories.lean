import Mathlib.Data.Set.Card
import StackSampler.Thread.Directory

/-!
# What the directory knows of a thread

The notices of many threads come in mixed, and those of one thread in any order. What the directory
knows of a thread is read off the notices of that thread alone: the last number and the last name
that it was given since it was last destroyed. A creation says nothing.
-/

namespace StackSampler

namespace Notice

def thread : Notice → ThreadHandle
  | created thread => thread
  | assigned thread _ => thread
  | renamed thread _ => thread
  | destroyed thread => thread

def isDestruction : Notice → Bool
  | destroyed _ => true
  | _ => false

def nativeId? : Notice → Option UInt32
  | assigned _ nativeId => some nativeId
  | _ => none

def name? : Notice → Option String
  | renamed _ name => some name
  | _ => none

def informs (notice : Notice) : Bool := notice.nativeId?.isSome || notice.name?.isSome

end Notice

/-- The notices of a thread since it was last destroyed, newest first. -/
def recentOf (thread : ThreadHandle) (notices : List Notice) : List Notice :=
  (notices.filter (·.thread = thread)).reverse.takeWhile (!·.isDestruction)

/-- The identity that some notices give, newest first. -/
def identityTold (recent : List Notice) : ThreadIdentity where
  nativeId := (recent.findSome? Notice.nativeId?).getD 0
  name := (recent.findSome? Notice.name?).getD ""

def assignmentsOf (thread : ThreadHandle) (notices : List Notice) : List Notice :=
  (notices.filter (·.thread = thread)).filter fun notice =>
    notice.nativeId?.isSome || notice.isDestruction

def renamingsOf (thread : ThreadHandle) (notices : List Notice) : List Notice :=
  (notices.filter (·.thread = thread)).filter fun notice =>
    notice.name?.isSome || notice.isDestruction

section Concat

variable {thread : ThreadHandle} (notices : List Notice) {notice : Notice}

theorem recent_of_concat_of_ne (other : notice.thread ≠ thread) :
    recentOf thread (notices ++ [notice]) = recentOf thread notices := by
  simp [recentOf, other]

theorem recent_of_concat_of_destruction (own : notice.thread = thread)
    (gone : notice.isDestruction = true) : recentOf thread (notices ++ [notice]) = [] := by
  simp [recentOf, own, gone]

theorem recent_of_concat (own : notice.thread = thread) (stays : notice.isDestruction = false) :
    recentOf thread (notices ++ [notice]) = notice :: recentOf thread notices := by
  simp [recentOf, own, stays]

end Concat

theorem any_informs (recent : List Notice) :
    recent.any Notice.informs =
      ((recent.findSome? Notice.nativeId?).isSome || (recent.findSome? Notice.name?).isSome) := by
  induction recent with
  | nil => rfl
  | cons notice recent induction =>
      rw [List.any_cons, induction, List.findSome?_cons, List.findSome?_cons]
      cases notice <;> simp [Notice.informs, Notice.nativeId?, Notice.name?]

theorem identity_told_of_silent {recent : List Notice}
    (silent : recent.any Notice.informs = false) : identityTold recent = {} := by
  rw [any_informs, Bool.or_eq_false_iff, Option.isSome_eq_false_iff, Option.isSome_eq_false_iff,
    Option.isNone_iff_eq_none, Option.isNone_iff_eq_none] at silent
  rw [identityTold, silent.1, silent.2]
  rfl

namespace Directory

def ofNotices (notices : List Notice) : Directory := notices.foldl notify {}

def told (recent : List Notice) : Option ThreadIdentity :=
  if recent.any Notice.informs then some (identityTold recent) else none

theorem getD_told (recent : List Notice) : (told recent).getD {} = identityTold recent := by
  rw [told]
  split
  · rfl
  · exact (identity_told_of_silent (Bool.eq_false_iff.mpr ‹_›)).symm

section Notify

variable (directory : Directory) {thread : ThreadHandle}

theorem lookup_notify_of_ne {notice : Notice} (other : notice.thread ≠ thread) :
    (directory.notify notice).lookup? thread = directory.lookup? thread := by
  have apart : compare notice.thread thread ≠ .eq :=
    fun same => other (Std.LawfulEqOrd.eq_of_compare same)
  cases notice with
  | created => rfl
  | assigned => exact Std.TreeMap.getElem?_insert.trans (if_neg apart)
  | renamed => exact Std.TreeMap.getElem?_insert.trans (if_neg apart)
  | destroyed => exact Std.TreeMap.getElem?_erase.trans (if_neg apart)

theorem lookup_notify_assigned (nativeId : UInt32) :
    (directory.notify (.assigned thread nativeId)).lookup? thread =
      some { directory.identity thread with nativeId } :=
  Std.TreeMap.getElem?_insert_self

theorem lookup_notify_renamed (name : String) :
    (directory.notify (.renamed thread name)).lookup? thread =
      some { directory.identity thread with name } :=
  Std.TreeMap.getElem?_insert_self

theorem lookup_notify_destroyed :
    (directory.notify (.destroyed thread)).lookup? thread = none :=
  Std.TreeMap.getElem?_erase_self

/-- A notice of a thread changes what is known of it as it changes what was told. -/
theorem lookup_notify_of_told {notice : Notice} {notices : List Notice}
    (known : directory.lookup? thread = told (recentOf thread notices)) :
    (directory.notify notice).lookup? thread = told (recentOf thread (notices ++ [notice])) := by
  by_cases own : notice.thread = thread
  · have identity : directory.identity thread = identityTold (recentOf thread notices) := by
      rw [Directory.identity, known, getD_told]
    cases notice with
    | created other =>
        rw [recent_of_concat notices own rfl]
        exact known
    | assigned other nativeId =>
        rw [recent_of_concat notices own rfl]
        subst own
        exact (directory.lookup_notify_assigned nativeId).trans
          (congrArg (fun before : ThreadIdentity => some { before with nativeId }) identity)
    | renamed other name =>
        rw [recent_of_concat notices own rfl]
        subst own
        exact (directory.lookup_notify_renamed name).trans
          (congrArg (fun before : ThreadIdentity => some { before with name }) identity)
    | destroyed other =>
        rw [recent_of_concat_of_destruction notices own rfl]
        subst own
        exact directory.lookup_notify_destroyed
  · rw [lookup_notify_of_ne directory own, recent_of_concat_of_ne notices own, known]

end Notify

theorem lookup_of_notices (notices : List Notice) (thread : ThreadHandle) :
    (ofNotices notices).lookup? thread = told (recentOf thread notices) := by
  induction notices using List.reverseRecOn with
  | nil => exact Std.TreeMap.getElem?_emptyc
  | append_singleton notices notice induction =>
      rw [ofNotices, List.foldl_concat]
      exact lookup_notify_of_told _ induction

theorem encard_known (directory : Directory) :
    {thread | (directory.lookup? thread).isSome}.encard = directory.size := by
  have listed : {thread | (directory.lookup? thread).isSome} =
      (directory.entries.keys.toFinset : Set ThreadHandle) := by
    ext thread
    rw [List.coe_toFinset, Set.mem_ofPred_eq, Set.mem_ofPred_eq, Std.TreeMap.mem_keys,
      Std.TreeMap.mem_iff_isSome_getElem?, lookup?]
  rw [listed, Set.encard_coe_eq_coe_finsetCard,
    List.toFinset_card_of_nodup Std.TreeMap.nodup_keys, Std.TreeMap.length_keys, size]

end Directory

theorem findSome?_takeWhile_filter {α β : Type} {keep stays : α → Bool} {value? : α → Option β}
    (skipped : ∀ entry, keep entry = false → stays entry = true ∧ value? entry = none)
    (entries : List α) :
    ((entries.filter keep).takeWhile stays).findSome? value? =
      (entries.takeWhile stays).findSome? value? := by
  induction entries with
  | nil => rfl
  | cons entry entries induction =>
      cases kept : keep entry with
      | true =>
          rw [List.filter_cons_of_pos kept, List.takeWhile_cons, List.takeWhile_cons]
          split
          · rw [List.findSome?_cons, List.findSome?_cons, induction]
          · rfl
      | false =>
          obtain ⟨within, silent⟩ := skipped entry kept
          rw [List.filter_cons_of_neg (by simp [kept]), List.takeWhile_cons_of_pos within,
            List.findSome?_cons_of_isNone (by simp [silent]), induction]

/-- Two runs of notices that number a thread alike and name it alike say the same of it. -/
theorem told_recent_of_congr {thread : ThreadHandle} {notices others : List Notice}
    (assignments : assignmentsOf thread notices = assignmentsOf thread others)
    (renamings : renamingsOf thread notices = renamingsOf thread others) :
    Directory.told (recentOf thread notices) = Directory.told (recentOf thread others) := by
  have nativeIds : ∀ notices, (recentOf thread notices).findSome? Notice.nativeId? =
      ((assignmentsOf thread notices).reverse.takeWhile (!·.isDestruction)).findSome?
        Notice.nativeId? := by
    intro notices
    rw [assignmentsOf, ← List.filter_reverse, recentOf]
    refine (findSome?_takeWhile_filter ?_ _).symm
    intro notice
    cases notice <;> simp [Notice.nativeId?, Notice.isDestruction]
  have names : ∀ notices, (recentOf thread notices).findSome? Notice.name? =
      ((renamingsOf thread notices).reverse.takeWhile (!·.isDestruction)).findSome?
        Notice.name? := by
    intro notices
    rw [renamingsOf, ← List.filter_reverse, recentOf]
    refine (findSome?_takeWhile_filter ?_ _).symm
    intro notice
    cases notice <;> simp [Notice.name?, Notice.isDestruction]
  rw [Directory.told, Directory.told, any_informs, any_informs, identityTold, identityTold,
    nativeIds, nativeIds, names, names, assignments, renamings]

/-- Whatever notices came in: a thread is known exactly if it was given a number or a name since it
was last destroyed, and then by the last of each, also in a pass. The directory is as large as there
are known threads. Two runs of notices give the same directory if each thread is numbered and named
alike in them, with its destructions at the same places among both; how creations and the notices of
different threads are mixed makes no difference. -/
theorem directory_tells_recent (notices : List Notice) :
    let directory := Directory.ofNotices notices
    (∀ thread,
      let recent := recentOf thread notices
      (directory.lookup? thread = none ↔
        ∀ notice ∈ recent, notice.nativeId? = none ∧ notice.name? = none) ∧
      (∀ known, directory.lookup? thread = some known → known = identityTold recent) ∧
      directory.identity thread = identityTold recent) ∧
    {thread | (directory.lookup? thread).isSome}.encard = directory.size ∧
    directory.isEmpty = (directory.size == 0) ∧
    ∀ others,
      (∀ thread, assignmentsOf thread notices = assignmentsOf thread others ∧
        renamingsOf thread notices = renamingsOf thread others) →
      directory.entries.Equiv (Directory.ofNotices others).entries := by
  intro directory
  refine ⟨?_, directory.encard_known, Std.TreeMap.isEmpty_eq_size_eq_zero, ?_⟩
  · intro thread recent
    have known : directory.lookup? thread = Directory.told recent :=
      Directory.lookup_of_notices notices thread
    refine ⟨?_, ?_, ?_⟩
    · rw [known, Directory.told, ite_eq_right_iff]
      simp [Notice.informs]
    · intro identity found
      rw [known, Directory.told] at found
      split at found
      · exact (Option.some.inj found).symm
      · cases found
    · rw [Directory.identity, known, Directory.getD_told]
  · intro others alike
    apply Std.TreeMap.Equiv.of_forall_constGet?_eq
    intro thread
    have first : directory.entries[thread]? = _ := Directory.lookup_of_notices notices thread
    have second : (Directory.ofNotices others).entries[thread]? = _ :=
      Directory.lookup_of_notices others thread
    rw [first, second]
    exact told_recent_of_congr (alike thread).1 (alike thread).2

def returningNotices : List Notice :=
  [.assigned ⟨7⟩ 1, .renamed ⟨7⟩ "old", .destroyed ⟨7⟩, .created ⟨8⟩, .renamed ⟨7⟩ "new",
    .assigned ⟨8⟩ 2, .renamed ⟨8⟩ "other"]

def reorderedNotices : List Notice :=
  [.renamed ⟨8⟩ "other", .renamed ⟨7⟩ "old", .assigned ⟨7⟩ 1, .created ⟨7⟩, .destroyed ⟨7⟩,
    .assigned ⟨8⟩ 2, .renamed ⟨7⟩ "new"]

theorem directory_tells_recent_reordered :
    (∀ thread, assignmentsOf thread returningNotices = assignmentsOf thread reorderedNotices ∧
      renamingsOf thread returningNotices = renamingsOf thread reorderedNotices) ∧
    (Directory.ofNotices returningNotices).lookup? ⟨7⟩ = some ⟨0, "new"⟩ ∧
    (Directory.ofNotices returningNotices).entries.Equiv
      (Directory.ofNotices reorderedNotices).entries := by
  have alike : ∀ thread,
      assignmentsOf thread returningNotices = assignmentsOf thread reorderedNotices ∧
        renamingsOf thread returningNotices = renamingsOf thread reorderedNotices := by
    intro thread
    by_cases seven : thread = ⟨7⟩
    · subst seven
      decide
    · by_cases eight : thread = ⟨8⟩
      · subst eight
        decide
      · simp [assignmentsOf, renamingsOf, returningNotices, reorderedNotices, Notice.thread,
          Ne.symm seven, Ne.symm eight]
  obtain ⟨-, -, -, same⟩ := directory_tells_recent returningNotices
  refine ⟨alike, ?_, same reorderedNotices alike⟩
  rw [Directory.lookup_of_notices]
  decide

end StackSampler
