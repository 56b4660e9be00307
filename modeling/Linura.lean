import Linura.Lib.Framing
import Linura.Lib.Text
import Linura.Core.Identifiers
import Linura.Transaction.Binding
import Linura.Control.Approval
import Linura.Lib.BTreeMap
import Linura.Lib.Retention
import Linura.Control.DesiredRequest
import Linura.Transaction.Requests
import Linura.Transaction.Sealing
import Linura.Control.RetainedRequest
import Linura.Lib.Program
import Linura.Lib.Table
import Linura.Lib.Words
import Linura.Persistence.Records
import Linura.Lib.SparseFile
import Linura.Persistence.FilesystemReserve
import Linura.Persistence.Operations
import Linura.Persistence.Ledger
import Linura.Persistence.Integrity
import Linura.Persistence.Effects
import Linura.Persistence.Simulation
import Linura.Persistence.Refinement
import Linura.Persistence.Reachable
import Linura.Persistence.Chronicle
import Linura.Persistence.Concurrency
import Linura.Persistence.Progress
import Linura.Persistence.ReserveResidue
import Linura.Persistence.ReserveCrash
import Linura.Policy.Review
import Linura.Control.ApprovalReview
import Linura.Control.ApprovalAccounts
import Linura.Control.ApprovalHistory
import Linura.Lib.Disk
import Linura.Lib.Runs
import Linura.Migrations.Runner
import Linura.Migrations.AtMostOnce
import Linura.Update.Coordinator
import Linura.Update.Journal
import Linura.Observation.Envelope
import Linura.Planner.Plan
import Linura.Planner.PlanStore
import Linura.SecurityOwner.Discovery
import Linura.Core.Session
import Linura.Control.PolicyReview
import Linura.Observation.Coordinator
import Linura.Persistence.LedgerStore
import Linura.Persistence.LedgerRefinement
import Linura.Lib.Guarantee
import Linura.Control.SessionSafety
import Linura.Control.World
import Linura.Control.AuthorityDigests
import Linura.Control.PlanPreview
import Linura.Control.PreviewStore
import Linura.Control.RiskFloor
import Linura.Control.DurableAuthority
import Linura.Control.AuthorityFacts
import Linura.Control.AuthorityMachine
import Linura.Control.HandoffOrder
import Linura.Control.ProtectiveSleepGate
import Linura.Provisioning.State
import Linura.Provisioning.Documents
import Linura.Provisioning.Operations
import Linura.Provisioning.Codec
import Linura.Provisioning.RoundTrip
import Linura.Provisioning.Transitions
import Linura.Provisioning.Store
import Linura.Provisioning.Calls
import Linura.Provisioning.Acceptance
import Linura.Provisioning.Ledger
import Linura.Provisioning.Reload
import Linura.Provisioning.CrashSafety
import Linura.Provisioning.History
import Linura.Lib.SelfDelimiting
import Linura.Intents.Model
import Linura.Intents.Proposal
import Linura.Intents.Acceptance
import Linura.Lib.Traversal
import Linura.Capability.Catalog
import Linura.Planner.Diff
import Linura.Planner.Compile
import Linura.Persistence.TamperEvidence
