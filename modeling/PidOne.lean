import PidOne.Main
import PidOne.Proofs.Sharing
import PidOne.Proofs.Table.Progress
import PidOne.Proofs.Table.Waiters
import PidOne.Session
import PidOne.Proofs.Sharing.Agreement
import PidOne.Proofs.Sharing.Invariant
import PidOne.Proofs.Sharing.Preservation
import PidOne.Proofs.Sharing.Delivery
import PidOne.Proofs.Sharing.Serial
import PidOne.Proofs.Sharing.Atomicity
import PidOne.Proofs.Sharing.Tracking
import PidOne.Proofs.Forwarder
import PidOne.Proofs.Runner
import PidOne.Proofs.Succession
import PidOne.Proofs.Phases
import PidOne.Proofs.Reading
import PidOne.Proofs.Reaper
import PidOne.Proofs.Supervisor
import PidOne.Proofs.Supervision
import PidOne.Proofs.Supervision.Backing
import PidOne.Proofs.Supervision.Groups
import PidOne.Proofs.Supervision.Refinement
import PidOne.Proofs.Supervision.Sequential
import PidOne.Proofs.Supervision.Whole
import PidOne.Proofs.Vigil
import PidOne.Proofs.Career
import PidOne.Proofs.Career.Refusal
import PidOne.Proofs.Recall
import PidOne.Proofs.Layout
import PidOne.Proofs.Supervision.Recorded
import PidOne.Proofs.Table.Clones
import PidOne.Proofs.Table.Ledger
import PidOne.Proofs.Table.Ownership
import PidOne.Proofs.Holdings
import PidOne.Proofs.Holdings.Invariant
import PidOne.Proofs.Holdings.Ownership
import PidOne.Proofs.Holdings.Lifetimes
import PidOne.Proofs.Table.Handover
import PidOne.Proofs.Table.Sweep
import PidOne.Proofs.Draining
import PidOne.Proofs.Reaper.Rounds
import PidOne.Proofs.Tenure
import PidOne.Proofs.Conduct
import PidOne.Proofs.Table.Disregard
import PidOne.Proofs.Sharing.Sight
import PidOne.Proofs.Sharing.Dropping
import PidOne.Proofs.Words
import PidOne.Proofs.Display
import PidOne.Proofs.ExitStatus
import PidOne.Proofs.SignalName
import PidOne.Proofs.StatusText
import PidOne.Proofs.Supervisor.Order
import PidOne.Proofs.Supervisor.Rounds
import PidOne.Proofs.Supervisor.Progress
import PidOne.Proofs.Supervisor.Returning
