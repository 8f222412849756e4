import Mathlib.Data.List.Induction
import StackSampler.Proofs.Pull.Reads
import StackSampler.Proofs.Wire.Coding

/-!
# Who owns the pull slot

Mailboxes are installed, taken out and replaced in any order, also by profilers that come and go,
and a mailbox may come back after its profiler is gone. Which one is installed is told by the
history alone: the last one that was installed, unless it was taken out since. A read reaches that
mailbox and no other one.
-/

namespace StackSampler.PullSlot

inductive Op where
  | install (id : MailboxId)
  | installProfiler (own : MailboxId)
  | clear
  | withdraw (id : MailboxId)
  | retireProfiler (own : MailboxId)
  | publish (id : MailboxId) (capture : Capture)
  | read (request : Mailbox.Request)

def perform (slot : PullSlot) : Op → PullSlot
  | .install id => (slot.install id).2
  | .installProfiler own => (slot.installProfiler own).2
  | .clear => slot.clear.2
  | .withdraw id => (slot.withdraw id).2
  | .retireProfiler own => (slot.retireProfiler own).2
  | .publish id capture => (slot.publish id capture).2
  | .read request => (slot.read request).2

def run (slot : PullSlot) (ops : List Op) : PullSlot := ops.foldl perform slot

namespace Op

def installed? : Op → Option MailboxId
  | install id => some id
  | installProfiler own => some own
  | _ => none

def removes (id : MailboxId) : Op → Bool
  | clear => true
  | withdraw other => other = id
  | retireProfiler own => own = id
  | _ => false

end Op

/-- Whether a mailbox was the last one to be installed, and was not taken out since. -/
def InstalledLast (ops : List Op) (id : MailboxId) : Prop :=
  ∃ front op back, ops = front ++ op :: back ∧ op.installed? = some id ∧
    ∀ later ∈ back, later.installed? = none ∧ later.removes id = false

theorem withdraw_of_ne {slot : PullSlot} {id : MailboxId} (other : slot.installed ≠ some id) :
    slot.withdraw id = (false, slot) :=
  if_neg other

theorem retire_profiler_of_ne {slot : PullSlot} {own : MailboxId}
    (other : slot.installed ≠ some own) : slot.retireProfiler own = ([], slot) := by
  rw [retireProfiler, withdraw_of_ne other]

theorem withdraw_snd (slot : PullSlot) (id : MailboxId) :
    (slot.withdraw id).2 =
      { slot with installed := if slot.installed = some id then none else slot.installed } := by
  rw [withdraw]
  split <;> rfl

theorem retire_profiler_snd (slot : PullSlot) (own : MailboxId) :
    (slot.retireProfiler own).2 = (slot.withdraw own).2 := by
  rw [retireProfiler]
  rcases slot.withdraw own with ⟨removed, left⟩
  cases removed <;> rfl

theorem install_profiler_snd (slot : PullSlot) (own : MailboxId) :
    (slot.installProfiler own).2 = { slot with installed := some own } := by
  rw [installProfiler, install]
  cases slot.installed <;> rfl

theorem installed_read (slot : PullSlot) (request : Mailbox.Request) :
    (slot.read request).2.installed = slot.installed := by
  rw [read]
  split <;> rfl

theorem remaining_eq_some_iff (installed : Option MailboxId) (id other : MailboxId) :
    (if installed = some other then none else installed) = some id ↔
      installed = some id ∧ decide (other = id) = false := by
  split
  · rename_i own
    rw [own, Option.some.injEq, decide_eq_false_iff_not]
    exact ⟨nofun, fun both => absurd both.1 both.2⟩
  · rename_i apart
    rw [decide_eq_false_iff_not]
    refine ⟨fun own => ⟨own, ?_⟩, And.left⟩
    rintro rfl
    exact apart own

theorem installed_perform (slot : PullSlot) (op : Op) (id : MailboxId) :
    (slot.perform op).installed = some id ↔
      op.installed? = some id ∨
        (slot.installed = some id ∧ op.installed? = none ∧ op.removes id = false) := by
  cases op with
  | install other => simp [perform, install, Op.installed?]
  | installProfiler own => simp [perform, install_profiler_snd, Op.installed?]
  | clear => simp [perform, clear, Op.installed?, Op.removes]
  | withdraw other =>
      rw [perform, withdraw_snd, remaining_eq_some_iff]
      simp [Op.installed?, Op.removes]
  | retireProfiler own =>
      rw [perform, retire_profiler_snd, withdraw_snd, remaining_eq_some_iff]
      simp [Op.installed?, Op.removes]
  | publish other capture => simp [perform, publish, Op.installed?, Op.removes]
  | read request => simp [perform, installed_read, Op.installed?, Op.removes]

theorem installed_last_concat (ops : List Op) (op : Op) (id : MailboxId) :
    InstalledLast (ops ++ [op]) id ↔
      op.installed? = some id ∨
        (InstalledLast ops id ∧ op.installed? = none ∧ op.removes id = false) := by
  constructor
  · rintro ⟨front, first, back, split, installs, quiet⟩
    rcases Wire.concat_eq_append_cons split with ⟨-, rfl, -⟩ | ⟨rest, rfl, rfl⟩
    · exact .inl installs
    · refine .inr ⟨⟨front, first, rest, rfl, installs, ?_⟩, quiet op (by simp)⟩
      exact fun later member => quiet later (by simp [member])
  · rintro (installs | ⟨⟨front, first, back, rfl, installs, quiet⟩, last⟩)
    · exact ⟨ops, op, [], rfl, installs, nofun⟩
    · refine ⟨front, first, back ++ [op], by simp, installs, ?_⟩
      intro later member
      rcases List.mem_append.mp member with within | final
      · exact quiet later within
      · rw [List.mem_singleton.mp final]
        exact last

theorem installed_run (ops : List Op) (id : MailboxId) :
    (run {} ops).installed = some id ↔ InstalledLast ops id := by
  induction ops using List.reverseRecOn with
  | nil => simp [run, InstalledLast]
  | append_singleton ops op induction =>
      rw [run, List.foldl_concat, installed_perform, installed_last_concat, ← induction]
      rfl

theorem mailbox_insert (slot : PullSlot) (id : MailboxId) (mailbox : Mailbox) :
    PullSlot.mailbox { slot with mailboxes := slot.mailboxes.insert id mailbox } id = mailbox :=
  Std.TreeMap.getD_insert_self

theorem mailbox_insert_of_ne (slot : PullSlot) {id other : MailboxId} (apart : id ≠ other)
    (mailbox : Mailbox) :
    PullSlot.mailbox { slot with mailboxes := slot.mailboxes.insert id mailbox } other =
      slot.mailbox other :=
  Std.TreeMap.getD_insert.trans (if_neg (mt Std.LawfulEqOrd.eq_of_compare apart))

theorem read_of_installed {slot : PullSlot} {id : MailboxId} (installed : slot.installed = some id)
    (request : Mailbox.Request) :
    slot.read request =
      (((slot.mailbox id).pull request).1,
        { slot with
          mailboxes := slot.mailboxes.insert id ((slot.mailbox id).pull request).2 }) := by
  rw [read, installed]

theorem read_of_none {slot : PullSlot} (installed : slot.installed = none)
    (request : Mailbox.Request) : slot.read request = (⟨0, request.memory⟩, slot) := by
  rw [read, installed]

/-- Whether every mailbox of a process holds a second capture only behind a first one. -/
def Ordered (slot : PullSlot) : Prop := ∀ id, (slot.mailbox id).slots.Ordered

theorem Ordered.ordered_insert {slot : PullSlot} (ordered : slot.Ordered) (id : MailboxId)
    {mailbox : Mailbox} (own : mailbox.slots.Ordered) :
    PullSlot.Ordered { slot with mailboxes := slot.mailboxes.insert id mailbox } := by
  intro other
  by_cases same : id = other
  · cases same
    rw [mailbox_insert]
    exact own
  · rw [mailbox_insert_of_ne slot same]
    exact ordered other

theorem Ordered.ordered_perform {slot : PullSlot} (ordered : slot.Ordered) (op : Op) :
    (slot.perform op).Ordered := by
  cases op with
  | install other => exact ordered
  | installProfiler own =>
      rw [PullSlot.perform, install_profiler_snd]
      exact ordered
  | clear => exact ordered
  | withdraw other =>
      rw [PullSlot.perform, withdraw_snd]
      exact ordered
  | retireProfiler own =>
      rw [PullSlot.perform, retire_profiler_snd, withdraw_snd]
      exact ordered
  | publish id capture =>
      exact ordered.ordered_insert id (Mailbox.perform_conserves (ordered id) (.publish capture)).1
  | read request =>
      rw [PullSlot.perform]
      cases installed : slot.installed with
      | none =>
          rw [read_of_none installed]
          exact ordered
      | some id =>
          rw [read_of_installed installed]
          exact ordered.ordered_insert id (Mailbox.ordered_pull (ordered id) request)

theorem Ordered.ordered_run {slot : PullSlot} (ordered : slot.Ordered) (ops : List Op) :
    (slot.run ops).Ordered := by
  induction ops generalizing slot with
  | nil => exact ordered
  | cons op ops induction => exact induction (ordered.ordered_perform op)

theorem ordered_empty : PullSlot.Ordered {} := by
  intro id free
  rfl

/-- What a read does: it is answered by the installed mailbox, and changes that one alone. -/
structure ReadsInstalled (slot : PullSlot) (request : Mailbox.Request) : Prop where
  installed : (slot.read request).2.installed = slot.installed
  others : ∀ id, slot.installed ≠ some id →
    (slot.read request).2.mailbox id = slot.mailbox id
  pulled : ∀ id, slot.installed = some id → Mailbox.Pulled request (slot.mailbox id)
    ((slot.read request).1, (slot.read request).2.mailbox id)
  nothing : slot.installed = none → (slot.read request).1 = ⟨0, request.memory⟩

theorem Ordered.reads_installed {slot : PullSlot} (ordered : slot.Ordered)
    {request : Mailbox.Request} (valid : request.Valid) : slot.ReadsInstalled request := by
  cases installed : slot.installed with
  | none =>
      have done := read_of_none installed request
      refine ⟨installed_read slot request, ?_, ?_, fun _ => congrArg Prod.fst done⟩
      · intro id _
        rw [done]
      · intro id own
        rw [installed] at own
        cases own
  | some own =>
      have done := read_of_installed installed request
      refine ⟨installed_read slot request, ?_, ?_, ?_⟩
      · intro id other
        rw [done]
        have apart : own ≠ id := by
          rintro rfl
          exact other installed
        exact mailbox_insert_of_ne slot apart _
      · intro id same
        rw [installed, Option.some.injEq] at same
        cases same
        rw [done, mailbox_insert]
        exact Mailbox.pulled_pull (ordered own) valid
      · intro none
        rw [installed] at none
        cases none

/-- However profilers come and go and mailboxes are installed, taken out and used: the installed
mailbox is the last one that was installed, if it was not taken out since, and otherwise there is
none. Installing and clearing answer with the one that was; a mailbox that is not installed is not
withdrawn, and neither that nor the end of its profiler changes anything. A read is answered by the
installed mailbox, which loses its oldest capture, and every other mailbox stays as it is. -/
theorem slot_follows_installs (ops : List Op) :
    let slot := run {} ops
    (∀ id, slot.installed = some id ↔ InstalledLast ops id) ∧
    (∀ id displaced, (slot.install id).1 = some displaced ↔ InstalledLast ops displaced) ∧
    (∀ displaced, slot.clear.1 = some displaced ↔ InstalledLast ops displaced) ∧
    (∀ id, (slot.withdraw id).1 = true ↔ InstalledLast ops id) ∧
    (∀ id, ¬InstalledLast ops id →
      slot.withdraw id = (false, slot) ∧ slot.retireProfiler id = ([], slot)) ∧
    ∀ request : Mailbox.Request, request.Valid → slot.ReadsInstalled request := by
  intro slot
  have installed : ∀ id, slot.installed = some id ↔ InstalledLast ops id := installed_run ops
  refine ⟨installed, fun _ => installed, installed, ?_, ?_, ?_⟩
  · intro id
    rw [← installed, withdraw]
    split <;> simp_all
  · intro id other
    have apart := mt (installed id).mp other
    exact ⟨withdraw_of_ne apart, retire_profiler_of_ne apart⟩
  · intro request valid
    exact (ordered_empty.ordered_run ops).reads_installed valid

def succession : List Op :=
  [.installProfiler ⟨1⟩, .publish ⟨1⟩ [1, 6], .installProfiler ⟨2⟩, .publish ⟨2⟩ [1, 2, 6],
    .retireProfiler ⟨1⟩]

theorem slot_follows_installs_succession :
    let slot := run {} succession
    let request : Mailbox.Request := ⟨4, some [9, 9, 9, 9]⟩
    request.Valid ∧ ¬InstalledLast succession ⟨1⟩ ∧ slot.installed = some ⟨2⟩ ∧
      slot.withdraw ⟨1⟩ = (false, slot) ∧
      (slot.read request).1 = ⟨3, some [1, 2, 6, 9]⟩ ∧
      (slot.read request).2.mailbox ⟨1⟩ = slot.mailbox ⟨1⟩ ∧ (slot.mailbox ⟨1⟩).pending = 1 := by
  intro slot request
  have valid : request.Valid := by
    intro memory same
    cases same
    decide
  obtain ⟨installed, -, -, -, stays, reads⟩ := slot_follows_installs succession
  have newer : slot.installed = some ⟨2⟩ := by decide +kernel
  have older : ¬InstalledLast succession ⟨1⟩ := by
    rw [← installed ⟨1⟩]
    change slot.installed ≠ _
    rw [newer]
    decide
  refine ⟨valid, older, newer, (stays ⟨1⟩ older).1, by decide +kernel, ?_, by decide +kernel⟩
  apply (reads request valid).others
  change slot.installed ≠ _
  rw [newer]
  decide

end StackSampler.PullSlot
