import Linura.Lib.Disk
import Linura.Lib.Text
import Linura.Lib.Words

/-!
# The update coordinator

An update goes through a fixed order of stages, which a journal file remembers.  The
coordinators of several processes may work on one journal.  Each keeps the state and the
generation of the journal that it last saw, and commits a new state only if both are still
those of the file.

The journal holds a state here, not text, together with the generation that the system gives
to the file.  A generation is told by the identity and the times of the file, so each write
brings its own.  Every access may fail and a process may crash at each of them.
-/

namespace Linura.Update

open Linura.Lib
open Program (access fail lift query)

/-- `SNAPSHOT_EVIDENCE_MAX_AGE_MS` -/
def snapshotEvidenceMaxAgeMs : Nat := 15 * 60 * 1000
/-- `SNAPSHOT_EVIDENCE_FUTURE_SKEW_MS` -/
def snapshotEvidenceFutureSkewMs : Nat := 30 * 1000
/-- `PACKAGE_VERIFICATION_MAX_AGE_MS` -/
def packageVerificationMaxAgeMs : Nat := 15 * 60 * 1000
/-- `PACKAGE_VERIFICATION_FUTURE_SKEW_MS` -/
def packageVerificationFutureSkewMs : Nat := 30 * 1000

inductive UpdateStage
  | acquireLock
  | preflight
  | diskSpace
  | snapshot
  | packageTransaction
  | migrations
  | reconcile
  | restartAssessment
  | verify
  | complete
  | recoveryRequired
  deriving DecidableEq, Repr

/-- `Debug` of `UpdateStage` -/
def UpdateStage.debug : UpdateStage → String
  | .acquireLock => "AcquireLock"
  | .preflight => "Preflight"
  | .diskSpace => "DiskSpace"
  | .snapshot => "Snapshot"
  | .packageTransaction => "PackageTransaction"
  | .migrations => "Migrations"
  | .reconcile => "Reconcile"
  | .restartAssessment => "RestartAssessment"
  | .verify => "Verify"
  | .complete => "Complete"
  | .recoveryRequired => "RecoveryRequired"

inductive ExternalEffectState
  | none
  | prepared
  | dispatchStarted
  | verified
  deriving DecidableEq, Repr

inductive UpdateError
  | invalidTransition (source target : UpdateStage)
  | invalidOperation (message : String)
  | invalidField (label : String)
  | snapshotRequired
  | externalEffectNotVerified
  | evidenceBindingMismatch (message : String)
  | journalBindingMismatch
  | untrustedJournalPath
  | untrustedLockPath
  | staleCoordinator
  | unsupportedJournalVersion
  | corruptJournal (reason : String)
  | durabilityUncertain (reason : String)
  | recoveryRequired (reason : String)
  | io (message : String)
  deriving DecidableEq, Repr

/-- `Display` of `UpdateError` -/
def UpdateError.display : UpdateError → String
  | .invalidTransition source target =>
    "invalid update transition " ++ source.debug ++ " -> " ++ target.debug
  | .invalidOperation message => message
  | .invalidField label => "invalid " ++ label
  | .snapshotRequired =>
    "the current update policy requires trusted snapshot evidence before package dispatch"
  | .externalEffectNotVerified => "package transaction cannot advance until authoritative " ++
    "exact-bound verification evidence succeeds"
  | .evidenceBindingMismatch message => message
  | .journalBindingMismatch =>
    "update journal is bound to another update attempt or target and cannot be reused"
  | .untrustedJournalPath =>
    "update journal must be a regular non-symlink file without group/other write access"
  | .untrustedLockPath =>
    "update lock must be a stable regular non-symlink file without group/other write access"
  | .staleCoordinator =>
    "update coordinator observed stale durable state/generation and must be reopened/reconciled"
  | .unsupportedJournalVersion => "unsupported update journal version"
  | .corruptJournal reason => "corrupt update journal: " ++ reason
  | .durabilityUncertain reason => "update journal rename may have committed but durable " ++
    "directory sync/generation is uncertain: " ++ reason
  | .recoveryRequired reason => "update coordinator is poisoned by uncertain durable state and " ++
    "must be reopened/reconciled before continuing: " ++ reason
  | .io message => "update persistence/evidence I/O failed: " ++ message

/-- `io_error` -/
def ioError (code : Nat) : UpdateError := .io (osErrorText code)

/-- The faults of a control file: it is not trusted, or the system fails. -/
def pathFault (untrusted : UpdateError) : Nat → UpdateError
  | 0 => untrusted
  | code => ioError code

/-! ### States -/

structure UpdateState where
  updateId : Option String
  targetId : Option String
  stage : UpdateStage
  snapshotId : Option String
  snapshotReceiptId : Option String
  transactionId : Option String
  verificationReceiptId : Option String
  recoveryReason : Option String
  externalEffect : ExternalEffectState
  deriving DecidableEq, Repr

def UpdateState.default : UpdateState where
  updateId := none
  targetId := none
  stage := .acquireLock
  snapshotId := none
  snapshotReceiptId := none
  transactionId := none
  verificationReceiptId := none
  recoveryReason := none
  externalEffect := .none

/-- `normalize_identifier` -/
def normalizeIdentifier (label value : String) : Except UpdateError String :=
  if isPathSafe 256 (trim value) then .ok (trim value) else .error (.invalidField label)

/-- `normalize_text` -/
def normalizeText (label value : String) (maxLen : Nat) : Except UpdateError String :=
  if (trim value).isEmpty ∨ maxLen < (trim value).utf8ByteSize ∨ hasControl (trim value) then
    .error (.invalidField label)
  else .ok (trim value)

/-- `valid_transition` -/
def validTransition : UpdateStage → UpdateStage → Bool
  | .acquireLock, .preflight => true
  | .preflight, .diskSpace => true
  | .diskSpace, .snapshot => true
  | .snapshot, .packageTransaction => true
  | .packageTransaction, .migrations => true
  | .migrations, .reconcile => true
  | .reconcile, .restartAssessment => true
  | .restartAssessment, .verify => true
  | .verify, .complete => true
  | _, _ => false

variable (state : UpdateState)

def UpdateState.transition (next : UpdateStage) : Except UpdateError UpdateState :=
  if next = .recoveryRequired then
    .error (.invalidOperation
      "use require_recovery to enter recovery-required state with an explicit reason")
  else if ¬ validTransition state.stage next then .error (.invalidTransition state.stage next)
  else if state.stage = .packageTransaction ∧ next = .migrations ∧
      (state.externalEffect ≠ .verified ∨ state.verificationReceiptId = none) then
    .error .externalEffectNotVerified
  else if next = .migrations then .ok { state with stage := next, externalEffect := .none }
  else .ok { state with stage := next }

/-- `UpdateState::require_recovery` -/
def UpdateState.requireRecovery (reason : String) : Except UpdateError UpdateState := do
  let reason ← normalizeText "recovery reason" reason 4096
  pure { state with
    stage := .recoveryRequired
    recoveryReason := some reason
    externalEffect := .none }

def checkIdentifier (label : String) : Option String → Except UpdateError Unit
  | none => .ok ()
  | some value => do
    let _ ← normalizeIdentifier label value
    pure ()

def checkReason : Option String → Except UpdateError Unit
  | none => .ok ()
  | some value => do
    let _ ← normalizeText "recovery reason" value 4096
    pure ()

/-- Fail unless a condition holds. -/
def require (condition : Prop) [Decidable condition] (reason : String) : Except UpdateError Unit :=
  if condition then .ok () else .error (.corruptJournal reason)

/-- The stages before the package transaction. -/
def UpdateStage.isPrePackage : UpdateStage → Bool
  | .acquireLock | .preflight | .diskSpace | .snapshot => true
  | _ => false

/-- The stages after the package transaction. -/
def UpdateStage.isPostPackage : UpdateStage → Bool
  | .migrations | .reconcile | .restartAssessment | .verify | .complete => true
  | _ => false

/-- The package stage has a verification receipt when its effect is verified. -/
def checkVerificationReceipt : Except UpdateError Unit :=
  match state.externalEffect with
  | .verified => require (state.verificationReceiptId ≠ none)
      "verified package state lacks authoritative verification receipt identity"
  | .prepared | .dispatchStarted => require (state.verificationReceiptId = none)
      "unverified package state retained a verification receipt"
  | .none => .ok ()

/-- The external effect of a state fits its stage. -/
def checkExternalEffect : Except UpdateError Unit :=
  if state.stage = .packageTransaction then do
    require (¬ (state.externalEffect = .none ∨ state.transactionId = none))
      "package stage lacks exact prepared transaction identity/state"
    checkVerificationReceipt state
  else require (state.externalEffect = .none)
    "transient package external-effect state is only valid at package-transaction stage"

/-- `validate_persisted_state` -/
def validatePersistedState : Except UpdateError Unit := do
  require (state.updateId ≠ none) "journal lacks update binding"
  require (state.targetId ≠ none) "journal lacks target binding"
  checkIdentifier "update id" state.updateId
  checkIdentifier "update target id" state.targetId
  checkIdentifier "snapshot id" state.snapshotId
  checkIdentifier "snapshot receipt id" state.snapshotReceiptId
  require (state.snapshotId.isSome = state.snapshotReceiptId.isSome)
    "snapshot identity and trusted receipt identity must be retained together"
  checkIdentifier "transaction id" state.transactionId
  checkIdentifier "verification receipt id" state.verificationReceiptId
  checkReason state.recoveryReason
  checkExternalEffect state
  require (¬ (state.stage.isPrePackage ∧
      (state.transactionId ≠ none ∨ state.verificationReceiptId ≠ none)))
    "pre-package stage retained package transaction/verification identity"
  require (¬ (state.stage.isPostPackage ∧
      (state.transactionId = none ∨ state.verificationReceiptId = none)))
    ("post-package stage lacks retained package transaction or authoritative verification " ++
      "receipt identity")
  if state.stage = .recoveryRequired then
    require (state.recoveryReason ≠ none) "recovery-required state lacks a reason"
  else require (state.recoveryReason = none) "non-recovery stage retained a recovery reason"

/-! ### The journal -/

structure JournalGeneration where
  token : String
  committedUnixMs : Nat
  deriving DecidableEq, Repr

structure JournalFile where
  state : UpdateState
  generation : JournalGeneration
  deriving DecidableEq, Repr

/-- `SnapshotReceipt`, as the coordinator uses it -/
structure SnapshotReceipt where
  receiptId : String
  updateId : String
  targetId : String
  snapshotId : String
  attemptGeneration : String
  issuedUnixMs : Nat

/-- `PackageVerificationReceipt`, as the coordinator uses it -/
structure PackageVerificationReceipt where
  receiptId : String
  updateId : String
  targetId : String
  transactionId : String
  dispatchGeneration : String
  issuedUnixMs : Nat

/-- `UpdateCoordinator`, of an opened journal.  Of the policy it uses one field. -/
structure UpdateCoordinator where
  state : UpdateState
  requireSnapshotWhenAvailable : Bool
  updateId : String
  targetId : String
  journalGeneration : JournalGeneration
  durabilityUncertain : Option String
  deriving DecidableEq, Repr

/-- What the system contributes to a call: the generation of a file that it writes, and its clock,
which a call may read twice. -/
structure Ambient where
  stamp : JournalGeneration
  now : Except UpdateError Nat
  later : Except UpdateError Nat

/-- The disk with the journal, if there is one, and the memory of the coordinator at work. -/
structure World where
  disk : Disk (Option JournalFile)
  coordinator : UpdateCoordinator

/-- What the coordinator does. -/
abbrev Action := Program World UpdateError

/-- Put a new journal in place. -/
def World.write (file : JournalFile) (world : World) : World :=
  { world with disk := world.disk.change fun _ => some file }

/-- Sync the directory of the journal. -/
def World.sync (world : World) : World := { world with disk := world.disk.sync }

/-- The faults of the journal when it is read. -/
def journalFault : Nat → UpdateError
  | 0 => .untrustedJournalPath
  | 1 => .corruptJournal "unreadable"
  | code => ioError code

/-- `UpdateJournalStore::acquire_exclusive`.  While a call has the lock, no other call works. -/
def acquireExclusive : Action Unit := access (pathFault .untrustedLockPath)

/-- `UpdateJournalStore::load`; a journal that is missing counts as the default state -/
def load : Action UpdateState := do
  access journalFault
  query fun world =>
    match world.disk.visible with
    | none => .ok .default
    | some file => do
      validatePersistedState file.state
      pure file.state

/-- `UpdateJournalStore::generation` -/
def generation : Action JournalGeneration := do
  access (pathFault .untrustedJournalPath)
  query fun world =>
    match world.disk.visible with
    | none => .error (ioError 2)
    | some file => .ok file.generation

/-- `UpdateJournalStore::persist` -/
def persist (stamp : JournalGeneration) : Action Unit :=
  atomicWrite ioError (fun code => .durabilityUncertain
    ("journal rename completed but parent-directory fsync failed: " ++ osErrorText code))
    (World.write ⟨state, stamp⟩) World.sync

/-- Bind an unbound journal, or check that it is bound to this update and target. -/
def bindJournal (updateId targetId : String) (stamp : JournalGeneration) : Action UpdateState :=
  if state.updateId = none ∧ state.targetId = none then
    if state ≠ .default then
      fail (.corruptJournal "unbound journal contains non-default state")
    else do
      let bound := { state with updateId := some updateId, targetId := some targetId }
      lift (validatePersistedState bound)
      persist bound stamp
      pure bound
  else if state.updateId ≠ some updateId ∨ state.targetId ≠ some targetId then
    fail .journalBindingMismatch
  else pure state

/-- `UpdateCoordinator::open` -/
def openCoordinator (requireSnapshotWhenAvailable : Bool) (updateId targetId : String)
    (stamp : JournalGeneration) : Action UpdateCoordinator := do
  let updateId ← lift (normalizeIdentifier "update id" updateId)
  let targetId ← lift (normalizeIdentifier "update target id" targetId)
  acquireExclusive
  let loaded ← load
  let state ← bindJournal loaded updateId targetId stamp
  lift (validatePersistedState state)
  let journalGeneration ← generation
  pure ⟨state, requireSnapshotWhenAvailable, updateId, targetId, journalGeneration, none⟩

/-! ### Commits -/

variable (coordinator : UpdateCoordinator)

/-- `ensure_usable` -/
def UpdateCoordinator.ensureUsable : Except UpdateError Unit :=
  match coordinator.durabilityUncertain with
  | some reason => .error (.recoveryRequired reason)
  | none => .ok ()

/-- Poison the coordinator. -/
def World.poison (reason : String) (world : World) : World :=
  { world with coordinator := { world.coordinator with durabilityUncertain := some reason } }

/-- The coordinator has committed a state. -/
def World.adopt (journalGeneration : JournalGeneration) (world : World) : World :=
  { world with coordinator := { world.coordinator with state, journalGeneration } }

/-- `handle_persist_failure` -/
def handlePersistFailure {α : Type} : UpdateError → Action α
  | .durabilityUncertain reason => do
    Program.modify (World.poison reason)
    fail (.durabilityUncertain reason)
  | other => fail other

/-- Evidence is not older than what it is about, not from the future, and not too old. -/
def validateFreshness (issued started : Nat) (futureSkew maxAge : Nat) (message : String)
    (now : Except UpdateError Nat) : Except UpdateError Unit := do
  let now ← now
  if issued < started ∨ saturatingAdd now futureSkew < issued ∨
    maxAge < saturatingSub now issued then
    .error (.evidenceBindingMismatch message)
  else .ok ()

/-- `validate_snapshot_evidence_freshness` -/
def validateSnapshotEvidenceFreshness (issued snapshotStarted : Nat) :
    Except UpdateError Nat → Except UpdateError Unit :=
  validateFreshness issued snapshotStarted snapshotEvidenceFutureSkewMs snapshotEvidenceMaxAgeMs
    "snapshot receipt is stale, predates this snapshot attempt, or is implausibly future-dated"

/-- `validate_package_evidence_freshness` -/
def validatePackageEvidenceFreshness (issued dispatchStarted : Nat) :
    Except UpdateError Nat → Except UpdateError Unit :=
  validateFreshness issued dispatchStarted packageVerificationFutureSkewMs
    packageVerificationMaxAgeMs
    "package verification receipt is stale, predates this dispatch, or is implausibly future-dated"

def staleReason : String :=
  "durable update state/generation changed through another coordinator; " ++
  "reopen and reconcile before continuing"

/-- The check of a commit that rests on package evidence. -/
def checkPackageFreshness (issued : Option Nat) (generation : JournalGeneration)
    (now : Except UpdateError Nat) : Except UpdateError Unit :=
  match issued with
  | none => .ok ()
  | some issued => validatePackageEvidenceFreshness issued generation.committedUnixMs now

/-- Write a new state and look at the generation that it got. -/
def persistAndObserve (candidate : UpdateState) (stamp : JournalGeneration) : Action Unit := do
  (persist candidate stamp).handle handlePersistFailure
  let observed ← generation.handle fun error => handlePersistFailure (.durabilityUncertain
    ("journal commit succeeded but the new durable generation could not be re-observed: " ++
      error.display))
  Program.modify (World.adopt candidate observed)

/-- `commit_with_validation` -/
def commitWithValidation (candidate : UpdateState) (issued : Option Nat) (ambient : Ambient) :
    Action Unit := do
  query fun world => world.coordinator.ensureUsable
  lift (validatePersistedState candidate)
  acquireExclusive
  let durable ← load
  let durableGeneration ← generation
  let same ← query fun world =>
    .ok (decide (durable = world.coordinator.state ∧
      durableGeneration = world.coordinator.journalGeneration))
  if same then do
    lift (checkPackageFreshness issued durableGeneration ambient.later)
    persistAndObserve candidate ambient.stamp
  else do
    Program.modify (World.poison staleReason)
    fail .staleCoordinator

/-- Whether the snapshot that the policy requires is there. -/
def UpdateCoordinator.snapshotPolicySatisfied : Bool :=
  !coordinator.requireSnapshotWhenAvailable ||
    (coordinator.state.snapshotId.isSome && coordinator.state.snapshotReceiptId.isSome)

/-- `ensure_snapshot_policy_satisfied` -/
def UpdateCoordinator.ensureSnapshotPolicySatisfied : Except UpdateError Unit :=
  if coordinator.snapshotPolicySatisfied then .ok () else .error .snapshotRequired

/-! ### Operations -/

/-- The operations that commit a new state. -/
inductive UpdateCall
  | transition (next : UpdateStage)
  | recordSnapshot (receipt : SnapshotReceipt)
  | preparePackageTransaction (transactionId : String)
  | markDispatchStarted
  | markPackageVerified (receipt : PackageVerificationReceipt)
  | requireRecovery (reason : String)

namespace UpdateCoordinator

variable (coordinator : UpdateCoordinator)

/-- The state that `record_snapshot` commits. -/
def snapshotCandidate (receipt : SnapshotReceipt) (now : Except UpdateError Nat) :
    Except UpdateError UpdateState :=
  if coordinator.state.stage ≠ .snapshot then
    .error (.invalidOperation "snapshot evidence can only be recorded at Snapshot stage")
  else if receipt.updateId ≠ coordinator.updateId ∨ receipt.targetId ≠ coordinator.targetId ∨
      receipt.attemptGeneration ≠ coordinator.journalGeneration.token then
    .error (.evidenceBindingMismatch
      "snapshot receipt belongs to another update, target or snapshot attempt")
  else do
    validateSnapshotEvidenceFreshness receipt.issuedUnixMs
      coordinator.journalGeneration.committedUnixMs
      now
    pure { coordinator.state with
      snapshotId := some receipt.snapshotId
      snapshotReceiptId := some receipt.receiptId }

/-- The state that `prepare_package_transaction` commits. -/
def prepareCandidate (transactionId : String) : Except UpdateError UpdateState :=
  if coordinator.state.stage ≠ .snapshot then
    .error (.invalidOperation "package transaction may only be prepared after Snapshot stage")
  else do
    coordinator.ensureSnapshotPolicySatisfied
    let transactionId ← normalizeIdentifier "transaction id" transactionId
    pure { coordinator.state with
      stage := .packageTransaction
      transactionId := some transactionId
      verificationReceiptId := none
      externalEffect := .prepared }

/-- The state that `mark_dispatch_started` commits. -/
def dispatchCandidate : Except UpdateError UpdateState :=
  if coordinator.state.stage ≠ .packageTransaction ∨ coordinator.state.externalEffect ≠ .prepared ∨
      coordinator.state.transactionId = none ∨ coordinator.state.verificationReceiptId ≠ none then
    .error (.invalidOperation
      "dispatch start requires an exact durably prepared package transaction")
  else do
    coordinator.ensureSnapshotPolicySatisfied
    pure { coordinator.state with externalEffect := .dispatchStarted }

/-- The state that `mark_package_verified` commits. -/
def verifiedCandidate (receipt : PackageVerificationReceipt) (now : Except UpdateError Nat) :
    Except UpdateError UpdateState :=
  if coordinator.state.stage ≠ .packageTransaction ∨
      coordinator.state.externalEffect ≠ .dispatchStarted then
    .error (.invalidOperation "package verification requires a previously dispatched transaction")
  else
    match coordinator.state.transactionId with
    | none =>
      .error (.corruptJournal "dispatched package transaction lost its transaction identity")
    | some transactionId =>
      if receipt.updateId ≠ coordinator.updateId ∨ receipt.targetId ≠ coordinator.targetId ∨
          receipt.transactionId ≠ transactionId ∨
          receipt.dispatchGeneration ≠ coordinator.journalGeneration.token then
        .error
          (.evidenceBindingMismatch ("package verification receipt belongs to another update, " ++
          "target, transaction or dispatch instance"))
      else do
        validatePackageEvidenceFreshness receipt.issuedUnixMs
          coordinator.journalGeneration.committedUnixMs now
        pure { coordinator.state with
          verificationReceiptId := some receipt.receiptId
          externalEffect := .verified }

/-- The state that an operation commits. -/
def candidate (now : Except UpdateError Nat) : UpdateCall → Except UpdateError UpdateState
  | .transition next => coordinator.state.transition next
  | .recordSnapshot receipt => coordinator.snapshotCandidate receipt now
  | .preparePackageTransaction transactionId => coordinator.prepareCandidate transactionId
  | .markDispatchStarted => coordinator.dispatchCandidate
  | .markPackageVerified receipt => coordinator.verifiedCandidate receipt now
  | .requireRecovery reason => coordinator.state.requireRecovery reason

end UpdateCoordinator

/-- When the evidence of an operation was issued that is checked again at the commit. -/
def UpdateCall.issued : UpdateCall → Option Nat
  | .markPackageVerified receipt => some receipt.issuedUnixMs
  | _ => none

/-- `transition`, `record_snapshot`, `prepare_package_transaction`, `mark_dispatch_started`,
`mark_package_verified` and `require_recovery` of the coordinator -/
def perform (call : UpdateCall) (ambient : Ambient) : Action Unit := do
  query fun world => world.coordinator.ensureUsable
  let candidate ← query fun world => world.coordinator.candidate ambient.now call
  commitWithValidation candidate call.issued ambient

inductive UpdateResumeDecision
  | continue (stage : UpdateStage)
  | safeToDispatchPrepared
  | reobserveBeforeContinuing
  | safeToAdvanceAfterVerification
  | manualRecoveryRequired
  | complete
  deriving DecidableEq, Repr

/-- `resume_decision` -/
def UpdateCoordinator.resumeDecision : UpdateResumeDecision :=
  if coordinator.durabilityUncertain.isSome then .manualRecoveryRequired
  else
    match coordinator.state.stage, coordinator.state.externalEffect with
    | .complete, _ => .complete
    | .recoveryRequired, _ => .manualRecoveryRequired
    | .packageTransaction, .prepared =>
      if coordinator.snapshotPolicySatisfied then .safeToDispatchPrepared else
        .manualRecoveryRequired
    | .packageTransaction, .dispatchStarted => .reobserveBeforeContinuing
    | .packageTransaction, .verified => .safeToAdvanceAfterVerification
    | .packageTransaction, .none => .manualRecoveryRequired
    | stage, _ => .continue stage

/-! ### Runs -/

/-- Processes open coordinators, each in its own place, and perform operations with them.  A call
meets the listed faults.  A power loss ends all processes and keeps the marked changes. -/
inductive Step
  | opens (place : Nat) (requireSnapshotWhenAvailable : Bool) (updateId targetId : String)
      (ambient : Ambient) (faults : List Fault)
  | performs (place : Nat) (call : UpdateCall) (ambient : Ambient) (faults : List Fault)
  | powerLoss (keep : List Bool)

/-- A journal with the coordinators that are open on it, and the operations that succeeded. -/
structure Machine where
  disk : Disk (Option JournalFile)
  coordinators : Nat → Option UpdateCoordinator
  succeeded : List UpdateCall

namespace Machine

def new (journal : Option JournalFile) : Machine := ⟨.holding journal, fun _ => none, []⟩

/-- What a coordinator that is not open yet remembers. -/
def blank : UpdateCoordinator := ⟨.default, false, "", "", ⟨"", 0⟩, none⟩

-- The equations of `step` are to mention the two programs, never to run them.
attribute [irreducible] openCoordinator perform

/-- The coordinator in a place works until it returns or crashes, which ends it. -/
def step (machine : Machine) : Step → Machine
  | .opens place requireSnapshotWhenAvailable updateId targetId ambient faults =>
    match openCoordinator requireSnapshotWhenAvailable updateId targetId ambient.stamp
        ⟨⟨machine.disk, blank⟩, faults⟩ with
    | (.ok coordinator, s) =>
      { machine with
        disk := s.state.disk
        coordinators := Function.update machine.coordinators place (some coordinator) }
    | (_, s) => { machine with disk := s.state.disk }
  | .performs place call ambient faults =>
    match machine.coordinators place with
    | none => machine
    | some coordinator =>
      match perform call ambient ⟨⟨machine.disk, coordinator⟩, faults⟩ with
      | (.ok _, s) =>
        ⟨s.state.disk, Function.update machine.coordinators place (some s.state.coordinator),
          machine.succeeded ++ [call]⟩
      | (.error _, s) =>
        { machine with
          disk := s.state.disk
          coordinators := Function.update machine.coordinators place (some s.state.coordinator) }
      | (.crashed, s) =>
        { machine with
          disk := s.state.disk
          coordinators := Function.update machine.coordinators place none }
  | .powerLoss keep =>
    { machine with disk := machine.disk.powerLoss keep, coordinators := fun _ => none }

/-- The journal after a sequence of steps. -/
def run (journal : Option JournalFile) (steps : List Step) : Machine :=
  steps.foldl step (new journal)

end Machine

end Linura.Update
