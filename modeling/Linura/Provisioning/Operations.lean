import Linura.Provisioning.Documents

/-!
# The operations of a bootstrap

Each operation of the coordinator computes a candidate from the state that the coordinator
remembers, and the documents and clock samples that it is given.  Whatever the operation, the
candidate is valid and keeps the identities, the generation and everything that is settled.
-/

namespace Linura.Bootstrap

open Linura.Lib Linura.Transaction

namespace DurableBootstrapState

variable (state : DurableBootstrapState)

/-- `active_stage_for` -/
def activeStageFor (required : BootstrapStage) :
    Except DurableBootstrapError ActiveBootstrapStage :=
  match state.active with
  | none => .error (.stageContextRequired required)
  | some active =>
    if active.stage = required then .ok active else .error (.stageContextRequired required)

variable (operationId : String)

def activeOperation : Except DurableBootstrapError ActiveBootstrapStage :=
  match state.active with
  | none => .error .noActiveStage
  | some active =>
    if active.operationId = operationId then .ok active else .error .operationBindingMismatch

/-- `prepare_stage` -/
def prepareStage (stage : BootstrapStage) (operationId : String) :
    Except DurableBootstrapError DurableBootstrapState := do
  demand (state.active = none) .stageAlreadyActive
  match state.nextStage with
  | none => .error .alreadyComplete
  | some expected => do
    demand (expected = stage) (.unexpectedStage expected stage)
    let operationId ← normalizeIdentifier "bootstrap operation id" operationId
    checked { state with active := some ⟨stage, operationId, .prepared⟩ }

/-- `mark_effect_started` -/
def markEffectStarted : Except DurableBootstrapError DurableBootstrapState := do
  let active ← state.activeOperation operationId
  demand (active.effectState = .prepared) .effectAlreadyStarted
  checked { state with active := some { active with effectState := .effectStarted } }

/-- `complete_verified` -/
def completeVerified : Except DurableBootstrapError DurableBootstrapState := do
  let active ← state.activeOperation operationId
  demand (active.stage.requiresEffectBoundary = true → active.effectState = .effectStarted)
    (.effectNotStarted active.stage)
  checked { state with completed := state.completed ++ [active.stage], active := none }

/-- The selections of a manifest. -/
def withManifest (manifest : ProvisioningManifest) : DurableBootstrapState :=
  { state with provisioning := { state.provisioning with
      manifestIdentity := some manifest.identity
      manifestId := some manifest.manifestId
      manifestConnectivity := some manifest.connectivity
      manifestDeferOwnerEnrollment := some manifest.deferOwnerEnrollment
      manifestSourceRef := manifest.sourceRef
      manifestSetupRef := manifest.setupRef
      manifestMachineProfileRef := manifest.machineProfileRef
      manifestHostIdentity := manifest.hostIdentity } }

def withMode (mode : ProvisioningMode) : DurableBootstrapState :=
  { state with provisioning := { state.provisioning with mode := some mode } }

/-- `select_provisioning` -/
def selectProvisioning (mode : ProvisioningMode) (manifest : Option ProvisioningManifest) :
    Except DurableBootstrapError DurableBootstrapState := do
  let _ ← state.activeStageFor .provisioningModeSelection
  demand (state.provisioning.mode = none) .provisioningModeAlreadySelected
  demand (¬ (mode = .unattendedLocal ∧ manifest = none)) .manifestRequired
  match manifest with
  | none => checkedTwice (state.withMode mode)
  | some manifest => do
    manifest.validateBinding state.sessionId state.machineId mode
    checkedTwice ((state.withManifest manifest).withMode mode)

def withPlan (planSha256 : String) (planCount : UInt32) : DurableBootstrapState :=
  { state with provisioning := { state.provisioning with
      firstBootPlanSha256 := some planSha256
      firstBootPlanCount := planCount } }

/-- `bind_first_boot_plan` -/
def bindFirstBootPlan (planSha256 : String) (planCount : UInt32) :
    Except DurableBootstrapError DurableBootstrapState := do
  let active ← state.activeStageFor .firstBootPlanning
  demand (active.effectState = .prepared)
    (.corruptState "First Boot plan binding requires the prepared planning stage")
  demand (isSha256Text planSha256 = true)
    (.corruptState "First Boot plan binding is not a SHA-256 digest")
  demand (¬ (state.provisioning.isLibraryBacked = true ∧ planCount = 0))
    (.corruptState "Library-backed First Boot planning produced no canonical plans")
  match state.provisioning.firstBootPlanSha256 with
  | some existing =>
    -- The same plan is bound again without a further check.
    if existing = planSha256 ∧ state.provisioning.firstBootPlanCount = planCount then .ok state
    else .error (.corruptState
      "prepared First Boot planning attempted to substitute its durable plan binding")
  | none => checked (state.withPlan planSha256 planCount)

/-- The active stage that resolves the owner, once its effect has started. -/
def ownerResolution : Except DurableBootstrapError Unit := do
  let active ← state.activeStageFor .ownerEnrollmentResolution
  demand (active.effectState = .effectStarted) (.effectNotStarted .ownerEnrollmentResolution)

/-- The owner is to be enrolled later. -/
def withOwnerPending : DurableBootstrapState :=
  { state with provisioning := { state.provisioning with
      preparerAuthorityRetired := true
      ownerAuthority := none
      authorityGeneration := 0
      ownerEnrollment := .pending } }

/-- `enter_owner_enrollment_pending` -/
def enterOwnerEnrollmentPending (revocation : TrustedPreparerAuthorityRevocationReceipt)
    (now : ClockSample) : Except DurableBootstrapError DurableBootstrapState := do
  revocation.validateBinding state now
  state.ownerResolution
  demand (state.provisioning.mode.any (·.isHandoff) = true) .ownerPendingNotAllowed
  demand (state.provisioning.ownerEnrollment = .unresolved) .ownerStateAlreadyResolved
  checkedTwice state.withOwnerPending

def nextAuthorityGeneration : Except DurableBootstrapError Nat :=
  (checkedAdd state.provisioning.authorityGeneration 1).elim (.error .generationOverflow) .ok

def withOwner (ownerId enrollmentId : String) (generation : Nat) : DurableBootstrapState :=
  { state with provisioning := { state.provisioning with
      preparerAuthorityRetired := true
      authorityGeneration := generation
      ownerAuthority := some ⟨ownerId, enrollmentId, generation⟩
      ownerEnrollment := .enrolled } }

/-- `enroll_owner_fresh` -/
def enrollOwnerFresh (ownerId enrollmentId : String) :
    Except DurableBootstrapError DurableBootstrapState := do
  demand (state.provisioning.mode = some .interactiveOwner
    ∧ state.provisioning.ownerEnrollment = .unresolved) .freshOwnerEnrollmentRequired
  state.ownerResolution
  let generation ← state.nextAuthorityGeneration
  let ownerId ← normalizeIdentifier "owner id" ownerId
  let enrollmentId ← normalizeIdentifier "owner enrollment id" enrollmentId
  checkedTwice (state.withOwner ownerId enrollmentId generation)

/-- `enroll_pending_owner_fresh`; the preparer's authority was retired before. -/
def enrollPendingOwnerFresh (ownerId enrollmentId : String) :
    Except DurableBootstrapError DurableBootstrapState := do
  demand (state.active = none ∧ state.completed.contains .ownerEnrollmentResolution = true
    ∧ state.provisioning.mode.any (·.isHandoff) = true
    ∧ state.provisioning.ownerEnrollment = .pending) .freshOwnerEnrollmentRequired
  demand (state.provisioning.preparerAuthorityRetired = true) .preparerAuthorityStillActive
  let generation ← state.nextAuthorityGeneration
  let ownerId ← normalizeIdentifier "owner id" ownerId
  let enrollmentId ← normalizeIdentifier "owner enrollment id" enrollmentId
  checkedTwice (state.withOwner ownerId enrollmentId generation)

/-- `complete_effect_verified` -/
def completeEffectVerified (evidence : BootstrapVerificationEvidence) (now : ClockSample) :
    Except DurableBootstrapError DurableBootstrapState :=
  match state.active with
  | none => .error .noActiveStage
  | some active => do
    demand (active.stage.requiresEffectBoundary = true)
      (.verificationEvidenceUnexpected active.stage)
    demand (active.effectState = .effectStarted) (.effectNotStarted active.stage)
    evidence.validateBinding active state.sessionId state.machineId now
    checked { state with
      effectVerifications := state.effectVerifications ++ [evidence.toVerification]
      completed := state.completed ++ [active.stage]
      active := none }

/-- No owner is enrolled. -/
def withRecoveryResolved : DurableBootstrapState :=
  { state with provisioning := { state.provisioning with
      ownerAuthority := none
      authorityGeneration := 0
      preparerAuthorityRetired := false
      ownerEnrollment := .recoveryResolved } }

/-- `enter_recovery_owner_resolution` -/
def enterRecoveryOwnerResolution : Except DurableBootstrapError DurableBootstrapState := do
  state.ownerResolution
  demand (state.provisioning.mode = some .recovery) .recoveryOwnerResolutionNotAllowed
  demand (state.provisioning.ownerEnrollment = .unresolved) .ownerStateAlreadyResolved
  checkedTwice state.withRecoveryResolved

/-! ### Verifiers -/

/-- `active_effect_context` -/
def activeEffectContext (required : BootstrapStage) :
    Except DurableBootstrapError ActiveBootstrapStage :=
  match state.active with
  | none => .error .noActiveStage
  | some active =>
    if active.stage ≠ required then .error (.stageContextRequired required)
    else if active.effectState ≠ .effectStarted then .error (.effectNotStarted required)
    else .ok active

/-- What the verifier of a stage observes. -/
def observationId : BootstrapStage → String
  | .linuraInstallation => "managed-installation-observation"
  | .persistentStateInitialization => "protected-state-root-observation"
  | .securityBaseline => "q8-system-security-observation"
  | .bootstrapConnectivityResolution => "kernel-network-interface-observation"
  | .recoveryCheckpoint => "recovery-checkpoint-bundle-observation"
  | _ => "durable-owner-resolution-observation"

/-- The postcondition of `verify_owner_resolution`. -/
def ownerPostcondition : Except DurableBootstrapError Bytes := do
  demand (state.provisioning.ownerEnrollment ≠ .unresolved)
    (.invalidVerificationEvidence "owner enrollment remains unresolved")
  return asBytes ("owner-state=" ++ state.provisioning.ownerEnrollment.asStr ++
    ";authority-generation="
    ++ toString state.provisioning.authorityGeneration ++ ";preparer-retired="
    ++ (if state.provisioning.preparerAuthorityRetired then "true" else "false"))

/-- `issue_system_evidence` -/
def issueSystemEvidence (sha256 : Sha256) (stage : BootstrapStage) (postcondition : Bytes)
    (now : ClockSample) : Except DurableBootstrapError BootstrapVerificationEvidence := do
  let active ← state.activeEffectContext stage
  BootstrapVerificationEvidence.issue sha256 stage active.operationId
    state.sessionId state.machineId
    "linura-bootstrap-system-verifier-v2" (observationId stage) postcondition now

/-- What a verifier sees: the postcondition of the system, or of the owner's resolution. -/
def postconditionOf (stage : BootstrapStage) (observed : Except DurableBootstrapError Bytes) :
    Except DurableBootstrapError Bytes :=
  match stage with
  | .linuraInstallation => observed
  | .ownerEnrollmentResolution => do
    let _ ← state.activeEffectContext stage
    state.ownerPostcondition
  | _ => do
    let _ ← state.activeEffectContext stage
    observed

/-- The verifiers `verify_linura_installation`, `verify_persistent_state_root`,
`verify_security_baseline`, `verify_connectivity_observation`,
`verify_recovery_checkpoint_manifest` and `verify_owner_resolution`.  What the system shows, or why
it is refused, is given. -/
def verifySystem (sha256 : Sha256) (stage : BootstrapStage)
    (observed : Except DurableBootstrapError Bytes) (issuedAt now : ClockSample) :
    Except DurableBootstrapError DurableBootstrapState := do
  let postcondition ← state.postconditionOf stage observed
  let evidence ← state.issueSystemEvidence sha256 stage postcondition issuedAt
  state.completeEffectVerified evidence now

end DurableBootstrapState

/-! ### Calls -/

/-- The arguments of `BootstrapVerificationEvidence::issue`. -/
structure EvidenceArguments where
  stage : BootstrapStage
  operationId : String
  sessionId : String
  machineId : String
  verifierId : String
  observationId : String
  canonicalPostcondition : Bytes

/-- The operations of a coordinator.  A manifest or receipt is given as the bytes of its file, and
evidence by what it was issued for. -/
inductive BootstrapCall
  | prepareStage (stage : BootstrapStage) (operationId : String)
  | markEffectStarted (operationId : String)
  | completeVerified (operationId : String)
  | selectProvisioning (mode : ProvisioningMode) (manifest : Option Bytes)
  | bindFirstBootPlan (planSha256 : String) (planCount : UInt32)
  | enterOwnerEnrollmentPending (key : TransactionAuthorityKey) (receipt : Bytes)
  | enrollPendingOwner (key : TransactionAuthorityKey) (receipt : Bytes)
      (expectedSessionId expectedMachineId : String)
  | enrollInteractiveOwner (key : TransactionAuthorityKey) (receipt : Bytes)
      (expectedSessionId expectedMachineId : String)
  | completeEffectVerified (evidence : EvidenceArguments)
  | verifySystem (stage : BootstrapStage) (observed : Except DurableBootstrapError Bytes)
  | enterRecoveryOwnerResolution

/-- The clock as it is read during a call. -/
structure ClockSamples where
  first : ClockSample
  second : ClockSample
  third : ClockSample

namespace DurableBootstrapState

variable (sha256 : Sha256) (clock : ClockSamples) (state : DurableBootstrapState)

/-- `DurableBootstrapCoordinator::complete_verified`, before the commit. -/
def completeVerifiedCandidate (operationId : String) :
    Except DurableBootstrapError DurableBootstrapState :=
  match state.active with
  | some active =>
    if active.stage.requiresEffectBoundary then .error (.verificationEvidenceRequired active.stage)
    else state.completeVerified operationId
  | none => state.completeVerified operationId

def parseSelected : Option Bytes → Except DurableBootstrapError (Option ProvisioningManifest)
  | none => .ok none
  | some bytes => do
    let manifest ← ProvisioningManifest.parse sha256 bytes
    return some manifest

variable (key : TransactionAuthorityKey)

variable (receipt : Bytes)

/-- `DurableBootstrapCoordinator::enter_owner_enrollment_pending`, before the commit. -/
def ownerPendingCandidate : Except DurableBootstrapError DurableBootstrapState := do
  let revocation ← TrustedPreparerAuthorityRevocationReceipt.load sha256 key
    receipt state clock.first
  revocation.validateBinding state clock.second
  state.enterOwnerEnrollmentPending revocation clock.third

/-- `enroll_pending_owner_from_receipt`, before the commit. -/
def pendingOwnerCandidate (expectedSessionId expectedMachineId : String) :
    Except DurableBootstrapError DurableBootstrapState := do
  let receipt ← TrustedOwnerEnrollmentReceipt.load sha256 key receipt
    expectedSessionId expectedMachineId
    clock.first
  receipt.validateBinding state clock.second
  state.enrollPendingOwnerFresh receipt.ownerId receipt.enrollmentId

/-- `enroll_interactive_owner_from_receipt`, before the commit. -/
def interactiveOwnerCandidate (expectedSessionId expectedMachineId : String) :
    Except DurableBootstrapError DurableBootstrapState := do
  let receipt ← TrustedOwnerEnrollmentReceipt.load sha256 key receipt
    expectedSessionId expectedMachineId
    clock.first
  demand (state.provisioning.mode = some .interactiveOwner) .freshOwnerEnrollmentRequired
  receipt.validateBinding state clock.second
  state.enrollOwnerFresh receipt.ownerId receipt.enrollmentId

/-- `complete_effect_verified` of the coordinator, before the commit. -/
def effectVerifiedCandidate (arguments : EvidenceArguments) :
    Except DurableBootstrapError DurableBootstrapState := do
  let evidence ← BootstrapVerificationEvidence.issue sha256 arguments.stage arguments.operationId
    arguments.sessionId arguments.machineId arguments.verifierId arguments.observationId
    arguments.canonicalPostcondition clock.first
  state.completeEffectVerified evidence clock.second

def candidate : BootstrapCall → Except DurableBootstrapError DurableBootstrapState
  | .prepareStage stage operationId => state.prepareStage stage operationId
  | .markEffectStarted operationId => state.markEffectStarted operationId
  | .completeVerified operationId => state.completeVerifiedCandidate operationId
  | .selectProvisioning mode manifest => do
    let manifest ← parseSelected sha256 manifest
    state.selectProvisioning mode manifest
  | .bindFirstBootPlan planSha256 planCount => state.bindFirstBootPlan planSha256 planCount
  | .enterOwnerEnrollmentPending key receipt => state.ownerPendingCandidate sha256 clock key receipt
  | .enrollPendingOwner key receipt expectedSessionId expectedMachineId =>
    state.pendingOwnerCandidate sha256 clock key receipt expectedSessionId expectedMachineId
  | .enrollInteractiveOwner key receipt expectedSessionId expectedMachineId =>
    state.interactiveOwnerCandidate sha256 clock key receipt expectedSessionId expectedMachineId
  | .completeEffectVerified arguments => state.effectVerifiedCandidate sha256 clock arguments
  | .verifySystem stage observed =>
    state.verifySystem sha256 stage observed clock.first clock.second
  | .enterRecoveryOwnerResolution => state.enterRecoveryOwnerResolution

end DurableBootstrapState

end Linura.Bootstrap
