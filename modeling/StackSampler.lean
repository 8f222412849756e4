import StackSampler.Main
import StackSampler.PullSlot
import StackSampler.Sampling
import StackSampler.SettingsDocument
import StackSampler.TallyDocument
import StackSampler.Thread.IdentityDocument
import StackSampler.Wire.Written
import StackSampler.Proofs.Wire.Coding
import StackSampler.Proofs.Wire.Grammar
import StackSampler.Proofs.Wire.Calls
import StackSampler.Proofs.Wire.RoundTrip
import StackSampler.Proofs.Pass.Journal
import StackSampler.Proofs.Pass.Recorded
import StackSampler.Proofs.Pass.Sessions
import StackSampler.Proofs.Wire.Truncation
import StackSampler.Proofs.Pass.Heard
import StackSampler.Proofs.Pass.Steps
import StackSampler.Proofs.Pass.FrozenWindow
import StackSampler.Proofs.Pass.Capture
import StackSampler.Proofs.Wire.Room
import StackSampler.Proofs.Wire.Longest
import StackSampler.Proofs.Wire.Reencoding
import StackSampler.Proofs.Mailbox.Queue
import StackSampler.Proofs.Mailbox.Refinement
import StackSampler.Proofs.Pass.SideBySide
import StackSampler.Proofs.Pass.Readers
import StackSampler.Proofs.Pass.Backpressure
import StackSampler.Proofs.Pass.FixedNames
import StackSampler.Proofs.Pass.Transparency
import StackSampler.Proofs.Mailbox.Interleaving
import StackSampler.Proofs.Pass.Upkeep
import StackSampler.Proofs.Pass.Outcomes
import StackSampler.Proofs.Pass.Told
import StackSampler.Proofs.Pass.Atomicity
import StackSampler.Proofs.Pass.Accounts
import StackSampler.Proofs.Thread.Histories
import StackSampler.Proofs.Method.UseOrder
import StackSampler.Proofs.Method.LatestUsed
import StackSampler.Proofs.Pass.Published
import StackSampler.Proofs.Pull.Reads
import StackSampler.Proofs.Pull.Ownership
import StackSampler.Proofs.Pull.AmpleReaders
import StackSampler.Proofs.Method.Questions
import StackSampler.Proofs.Method.Serving
import StackSampler.Proofs.Method.Memoization
import StackSampler.Proofs.Method.Counters
import StackSampler.Proofs.Method.Inclusion
import StackSampler.Proofs.Pass.Workload
import StackSampler.Proofs.Pass.Reports
import StackSampler.Proofs.Wire.Extension
import StackSampler.Proofs.Wire.Refusals
import StackSampler.Proofs.Wire.Capacity
import StackSampler.Proofs.Pass.DepthCut
import StackSampler.Proofs.Speedscope.Fidelity
import StackSampler.Proofs.Speedscope.Growth
import StackSampler.Proofs.Schedule.Rounds
import StackSampler.Proofs.Schedule.LongIntervals
import StackSampler.Proofs.Wire.Renaming
import StackSampler.Proofs.Method.Tables
import StackSampler.Proofs.Wire.CodeTable
import StackSampler.Proofs.Wire.TextReading
