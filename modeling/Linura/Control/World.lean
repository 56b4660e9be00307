import Linura.Control.PolicyReview
import Linura.Control.RetainedRequest
import Linura.Lib.Guarantee
import Linura.Observation.Coordinator
import Linura.Persistence.LedgerStore

/-!
# Control and its surroundings

The state that Control works on, and the ports through which it meets clocks, observers and
settings.  These answer as they like: every answer is an arbitrary function of everything that has
happened so far.

What happened is recorded in a trace, the newest event first.  The trace also records the
moments that the guarantees of Control are about: a process started, a time was accepted, a
plan was made, evidence was issued or validated, a generation was handed off, a transaction
was committed.  No computation reads these records.
-/

namespace Linura.Control

open Linura.Lib Linura.Core Linura.Observation Linura.Persistence Linura.Planner Linura.Policy
open Linura.Transaction

/-! ### Events -/

/-- What happens while Control works. -/
inductive Event (sha256 : Sha256)
  | started
  | authorityTime (sample : Nat)
  | clockRead (sample : Option Nat)
  | observed (request : ObservationRequest) (answer : Except String ObservationEnvelope)
  | settingRead (answer : Except String (Option ProtectiveLockSetting))
  | planned (request : PlanDesiredStateRequest) (observation : PlanningObservation)
      (plan : ReconciliationPlan)
  | issued (evidence : PolicyApprovalEvidence)
  | validated (evidenceId : ApprovalEvidenceId) (review : TrustedPolicyReview)
      (record : Option ApprovalRecord) (sample : Option Nat)
      (verdict : Except ApprovalControlError ApprovalValidation)
  | handedOff (review : TrustedPolicyReview) (binding : AuthorityBinding sha256)
      (commit : HandoffCommit)
  | committed (snapshot : TransactionSnapshot)

/-- Everything that happened, the newest event first. -/
abbrev Trace (sha256 : Sha256) := List (Event sha256)

/-- `NormalizedPlanInput::desired_resource` -/
def PlanDesiredStateRequest.desiredResource (request : PlanDesiredStateRequest) : DesiredResource :=
  ⟨request.provider, request.resource, request.observationCapability, request.desiredState,
    request.reason⟩

/-- Events that hand nothing off.  A recorded plan was made under the
observation it is recorded with. -/
def Event.IsQuiet {sha256 : Sha256} : Event sha256 → Prop
  | .handedOff .. => False
  | .planned request observation plan =>
    PlannedUnder request.requestId request.desiredResource observation plan
  | _ => True

/-- The `Debug` texts that Rust derives for values in error messages and findings. -/
structure DebugTexts where
  text : String → String
  attributes : BTreeMap String ObservedValue → String
  approvalControlError : ApprovalControlError → String

/-! ### The world -/

/-- Everything outside Control.  Each answer may depend on all that happened before. -/
structure Environment (sha256 : Sha256) where
  debug : DebugTexts
  /-- The key of the authority signer. -/
  key : TransactionAuthorityKey
  /-- Milliseconds since 1970, absent before. -/
  clock : Trace sha256 → Option Nat
  observer : Trace sha256 → ObservationRequest → Except String ObservationEnvelope
  settings : Trace sha256 → PrincipalId → SessionEpoch →
    Except String (Option ProtectiveLockSetting)

/-- The state of Control.  The ledger and the journal are durable; the rest is lost when the
process ends. -/
structure World (sha256 : Sha256) where
  ledger : List (Lifecycle sha256)
  journal : List (RetainedRequest sha256)
  journalInstalled : Bool
  settingsInstalled : Bool
  coordinator : ObservationCoordinator
  approvals : ApprovalReviewControl
  lastAuthorityUnixMs : Nat
  trace : Trace sha256

namespace World

variable {sha256 : Sha256}

/-- Record an event. -/
def log (event : Event sha256) (world : World sha256) : World sha256 :=
  { world with trace := event :: world.trace }

@[simp]
theorem trace_log (event : Event sha256) (world : World sha256) :
    (world.log event).trace = event :: world.trace := rfl

end World

section Ports

variable {sha256 : Sha256} (env : Environment sha256) {ε : Type}

/-- `SystemTime::now`, in milliseconds since 1970. -/
def readClock : Program (World sha256) ε (Option Nat) :=
  .ask (fun world => env.clock world.trace) fun sample => World.log (.clockRead sample)

/-- The clock as a 64-bit number of milliseconds. -/
def readMillis (unavailable overflow : ε) : Program (World sha256) ε Nat := do
  match ← readClock env with
  | none => .fail unavailable
  | some sampled => if u64Max < sampled then .fail overflow else pure sampled

def askObserver (request : ObservationRequest) :
    Program (World sha256) ε (Except String ObservationEnvelope) :=
  .ask (fun world => env.observer world.trace request) fun answer =>
    World.log (.observed request answer)

/-- `ProtectiveLockSettingsControl::current` -/
def currentSetting (owner : PrincipalId) (epoch : SessionEpoch) :
    Program (World sha256) ε (Except String (Option ProtectiveLockSetting)) :=
  .ask (fun world => env.settings world.trace owner epoch) fun answer =>
    World.log (.settingRead answer)

end Ports

/-! ### Stores -/

section Stores

variable {sha256 : Sha256}

/-- A call of the transaction store. -/
def onLedger {α : Type} (call : LedgerProgram sha256 α) :
    Program (World sha256) TransactionStoreError α :=
  call.zoom World.ledger fun ledger world => { world with ledger }

end Stores

/-! ### Quiet programs -/

section Quiet

variable {sha256 : Sha256}

/-- The times that the running process has accepted, the newest first. -/
def acceptedTimes : Trace sha256 → List Nat
  | [] => []
  | .started :: _ => []
  | .authorityTime sample :: rest => sample :: acceptedTimes rest
  | _ :: rest => acceptedTimes rest

/-- Events that do not concern the times accepted. -/
def Event.isUntimed : Event sha256 → Bool
  | .started | .authorityTime _ => false
  | _ => true

variable {event : Event sha256}

theorem acceptedTimes_cons (untimed : event.isUntimed = true) (rest : Trace sha256) :
    acceptedTimes (event :: rest) = acceptedTimes rest := by
  cases event with
  | started | authorityTime => cases untimed
  | _ => rfl

/-- Quiet events were recorded, and the times accepted did not fall. -/
structure Records (world world' : World sha256) : Prop where
  events : ∃ events : Trace sha256, world'.trace = events ++ world.trace ∧
    ∀ event ∈ events, event.IsQuiet
  last_le : world.lastAuthorityUnixMs ≤ world'.lastAuthorityUnixMs
  times : ∃ times, acceptedTimes world'.trace = times ++ acceptedTimes world.trace ∧
    times.Pairwise (· ≥ ·) ∧
    ∀ time ∈ times, world.lastAuthorityUnixMs ≤ time ∧ time ≤ world'.lastAuthorityUnixMs

instance : IsPreorder (World sha256) Records where
  refl world := ⟨⟨[], rfl, by simp⟩, le_refl _, [], rfl, by simp, by simp⟩
  trans world world' world'' first second := by
    obtain ⟨⟨events, trace, quiet⟩, le, times, accepted, sorted, bounded⟩ := first
    obtain ⟨⟨events', trace', quiet'⟩, le', times', accepted', sorted', bounded'⟩ := second
    refine ⟨⟨events' ++ events, ?_, ?_⟩, le.trans le', times' ++ times, ?_, ?_, ?_⟩
    · rw [trace', trace, List.append_assoc]
    · intro event member
      rcases List.mem_append.mp member with later | earlier
      · exact quiet' event later
      · exact quiet event earlier
    · rw [accepted', accepted, List.append_assoc]
    · -- what was accepted later is not before the last time accepted earlier
      refine List.pairwise_append.mpr ⟨sorted', sorted, fun later member earlier member' => ?_⟩
      exact (bounded earlier member').2.trans (bounded' later member).1
    · intro time member
      rcases List.mem_append.mp member with later | earlier
      · exact ⟨le.trans (bounded' time later).1, (bounded' time later).2⟩
      · exact ⟨(bounded time earlier).1, (bounded time earlier).2.trans le'⟩

/-- The trace only grows. -/
theorem Records.suffix {world world' : World sha256} (records : Records world world') :
    world.trace <:+ world'.trace := by
  obtain ⟨events, same, -⟩ := records.events
  exact ⟨events, same.symm⟩

theorem records_log (untimed : event.isUntimed = true) (world : World sha256)
    (quiet : event.IsQuiet := by trivial) : Records world (world.log event) :=
  ⟨⟨[event], rfl, by simpa using quiet⟩, le_refl _, [],
    acceptedTimes_cons untimed _, by simp, by simp⟩

/-- Nothing was handed off, and the ledger is what it was. -/
structure Quiet (world world' : World sha256) : Prop where
  ledger_eq : world'.ledger = world.ledger
  records : Records world world'

instance : IsPreorder (World sha256) Quiet where
  refl world := ⟨rfl, refl_of Records world⟩
  trans _ _ _ first second :=
    ⟨second.ledger_eq.trans first.ledger_eq, trans_of Records first.records second.records⟩

theorem quiet_log (untimed : event.isUntimed = true) (world : World sha256)
    (quiet : event.IsQuiet := by trivial) : Quiet world (world.log event) :=
  ⟨rfl, records_log untimed world quiet⟩

/-- A change of something else than the ledger. -/
theorem quiet_of_eq {world world' : World sha256} (ledger : world'.ledger = world.ledger)
    (trace : world'.trace = world.trace)
    (last : world'.lastAuthorityUnixMs = world.lastAuthorityUnixMs) : Quiet world world' :=
  ⟨ledger, ⟨[], by simpa using trace, by simp⟩, last.ge,
    [], by rw [trace, List.nil_append], by simp,
    by simp⟩

variable (env : Environment sha256) {ε : Type}

theorem quiet_modify {update : World sha256 → World sha256}
    (quiet : ∀ world, Quiet world (update world)) :
    Program.Guarantees Quiet (Program.modify update : Program (World sha256) ε Unit) :=
  .modify quiet

theorem quiet_readClock : Program.Guarantees Quiet (readClock env : Program (World sha256) ε _) :=
  .ask fun world => quiet_log rfl world

theorem quiet_readMillis (unavailable overflow : ε) :
    Program.Guarantees Quiet (readMillis env unavailable overflow) := by
  refine (quiet_readClock env).bind fun sample => ?_
  cases sample with
  | none => exact .fail
  | some sampled =>
    dsimp only
    split
    · exact .fail
    · exact .pure

theorem quiet_askObserver (request : ObservationRequest) :
    Program.Guarantees Quiet (askObserver env request : Program (World sha256) ε _) :=
  .ask fun world => quiet_log rfl world

theorem quiet_currentSetting (owner : PrincipalId) (epoch : SessionEpoch) :
    Program.Guarantees Quiet (currentSetting env owner epoch : Program (World sha256) ε _) :=
  .ask fun world => quiet_log rfl world

/-- A call of the store that leaves the ledger alone. -/
theorem quiet_onLedger {α : Type} {call : LedgerProgram sha256 α}
    (reads : Program.Guarantees (· = ·) call) : Program.Guarantees Quiet (onLedger call) :=
  reads.zoom fun _ _ same => quiet_of_eq same.symm rfl rfl

end Quiet

end Linura.Control
