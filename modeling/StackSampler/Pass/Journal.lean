import StackSampler.LogLine

/-!
The journal of a pass: what it asked of the host and what it heard, what others did to the mailbox
meanwhile, what it published, and what it logged, in order. The calls of this module are the only
way in which a pass reaches the host and the mailbox, and each of them writes its entry.
-/

namespace StackSampler

inductive Event where
  | suspended (reply : Reply HostError Unit)
  | listed (threads : List ThreadHandle) (reply : Reply HostError Unit)
  | walkBegan (thread : ThreadHandle)
  | offered (method : MethodId) (context : WalkContext) (verdict : Verdict)
  | methodAsked (method : MethodId) (context : WalkContext)
      (reply : Reply LookupError MethodDescription)
  | typeAsked (classId : ClassId) (reply : Reply LookupError String)
  | walkEnded (reply : Reply HostError Unit)
  | resumed (reply : Reply HostError Unit)
  | shared (op : Mailbox.Op) (outcome : Mailbox.Outcome)
  | published (capture : Capture) (stored : Bool)
  | logged (line : LogLine)
deriving DecidableEq, Repr

/-- The surroundings of a sampler: the host, the mailbox, and the journal so far. -/
structure World (ρ : Type) where
  host : ρ
  mailbox : Mailbox
  journal : Array Event := #[]

namespace World

variable {ρ : Type}

def note (world : World ρ) (event : Event) : World ρ :=
  { world with journal := world.journal.push event }

def share (world : World ρ) (op : Mailbox.Op) : World ρ :=
  let (outcome, mailbox) := world.mailbox.perform op
  { world with mailbox }.note (.shared op outcome)

/-- The world behind a call to the runtime, which ends after what others did meanwhile. -/
def settle (world : World ρ) (answer : Answer ρ) (event : Event) : World ρ :=
  { answer.meanwhile.foldl share world with host := answer.host }.note event

def suspend (api : Host ρ) (world : World ρ) : Reply HostError Unit × World ρ :=
  let answer := api.suspend world.host
  (answer.reply, world.settle answer (.suspended answer.reply))

def resume (api : Host ρ) (world : World ρ) : Reply HostError Unit × World ρ :=
  let answer := api.resume world.host
  (answer.reply, world.settle answer (.resumed answer.reply))

def threads (api : Host ρ) (world : World ρ) :
    List ThreadHandle × Reply HostError Unit × World ρ :=
  let (threads, answer) := api.threads world.host
  (threads, answer.reply, world.settle answer (.listed threads answer.reply))

def metadata (api : Host ρ) : Metadata (World ρ) where
  describe method context world :=
    let (reply, host) := api.metadata.describe method context world.host
    (reply, { world with host }.note (.methodAsked method context reply))
  typeName classId world :=
    let (reply, host) := api.metadata.typeName classId world.host
    (reply, { world with host }.note (.typeAsked classId reply))

def publish (world : World ρ) (capture : Capture) : Bool × World ρ :=
  let (stored, mailbox) := world.mailbox.publish capture
  (stored, { world with mailbox }.note (.published capture stored))

def log (world : World ρ) (lines : List LogLine) : World ρ :=
  { world with journal := world.journal ++ lines.map Event.logged }

end World

end StackSampler
