import Linura.Lib.Except
import Linura.Lib.Lines
import Linura.Transaction.Digest

/-!
# The state of a bootstrap

A machine is bootstrapped in stages of a fixed order.  A stage is prepared under an operation id,
perhaps marked as having started its external effect, and completed; an effectful stage is completed
by evidence that is bound to the stage and its operation.  Beside the stages the state holds the
provisioning mode with the selections of a manifest, the plan of the first boot, and the authority
of the owner.

Operations compute a candidate from a state and check it.  Nothing here is written to a disk.
-/

namespace Linura.Bootstrap

open Linura.Lib Linura.Transaction

/-! ### Stages and modes -/

inductive BootstrapStage
  | baseEnvironmentVerification
  | linuraInstallation
  | persistentStateInitialization
  | securityBaseline
  | provisioningModeSelection
  | bootstrapConnectivityResolution
  | hardwareDiscovery
  | sourceSelection
  | targetObservation
  | firstBootPlanning
  | recoveryCheckpoint
  | ownerEnrollmentResolution
  | firstBootReady
  deriving DecidableEq, Repr

namespace BootstrapStage

/-- `BootstrapStage::ORDERED` -/
def ordered : List BootstrapStage :=
  [.baseEnvironmentVerification, .linuraInstallation, .persistentStateInitialization,
    .securityBaseline, .provisioningModeSelection, .bootstrapConnectivityResolution,
    .hardwareDiscovery, .sourceSelection, .targetObservation, .firstBootPlanning,
    .recoveryCheckpoint, .ownerEnrollmentResolution, .firstBootReady]

/-- `stage_str` -/
def asStr : BootstrapStage → String
  | .baseEnvironmentVerification => "base-environment-verification"
  | .linuraInstallation => "linura-installation"
  | .persistentStateInitialization => "persistent-state-initialization"
  | .securityBaseline => "security-baseline"
  | .provisioningModeSelection => "provisioning-mode-selection"
  | .bootstrapConnectivityResolution => "bootstrap-connectivity-resolution"
  | .hardwareDiscovery => "hardware-discovery"
  | .sourceSelection => "source-selection"
  | .targetObservation => "target-observation"
  | .firstBootPlanning => "firstboot-planning"
  | .recoveryCheckpoint => "recovery-checkpoint"
  | .ownerEnrollmentResolution => "owner-enrollment-resolution"
  | .firstBootReady => "firstboot-ready"

/-- The name of a stage, as `Debug` writes it. -/
def debug : BootstrapStage → String
  | .baseEnvironmentVerification => "BaseEnvironmentVerification"
  | .linuraInstallation => "LinuraInstallation"
  | .persistentStateInitialization => "PersistentStateInitialization"
  | .securityBaseline => "SecurityBaseline"
  | .provisioningModeSelection => "ProvisioningModeSelection"
  | .bootstrapConnectivityResolution => "BootstrapConnectivityResolution"
  | .hardwareDiscovery => "HardwareDiscovery"
  | .sourceSelection => "SourceSelection"
  | .targetObservation => "TargetObservation"
  | .firstBootPlanning => "FirstBootPlanning"
  | .recoveryCheckpoint => "RecoveryCheckpoint"
  | .ownerEnrollmentResolution => "OwnerEnrollmentResolution"
  | .firstBootReady => "FirstBootReady"

/-- `stage_requires_effect_boundary` -/
def requiresEffectBoundary : BootstrapStage → Bool
  | .linuraInstallation | .persistentStateInitialization | .securityBaseline
  | .bootstrapConnectivityResolution | .recoveryCheckpoint | .ownerEnrollmentResolution => true
  | _ => false

/-- `canonical_stage_index`; every stage is in the order. -/
def index (stage : BootstrapStage) : Nat := ordered.idxOf stage

end BootstrapStage

inductive ProvisioningMode
  | interactiveOwner
  | prepareForAnotherOwner
  | unattendedLocal
  | recovery
  deriving DecidableEq, Repr

/-- The owner is enrolled after the machine was prepared. -/
def ProvisioningMode.isHandoff : ProvisioningMode → Bool
  | .prepareForAnotherOwner | .unattendedLocal => true
  | .interactiveOwner | .recovery => false

inductive BootstrapConnectivity
  | offline
  | boundedNetwork
  deriving DecidableEq, Repr

/-! ### Errors -/

inductive DurableBootstrapError
  | io (error : String)
  | invalidIdentifier (label : String)
  | invalidManifest (reason : String)
  | unsupportedManifestVersion
  | manifestSizeExceeded
  | manifestIntegrityMismatch
  | manifestBindingMismatch
  | manifestRequired
  | stateSizeExceeded
  | unsupportedStateVersion
  | stateIntegrityMismatch
  | corruptState (reason : String)
  | untrustedStatePath
  | untrustedControlPath
  | stateBindingMismatch
  | unexpectedStage (expected actual : BootstrapStage)
  | stageAlreadyActive
  | stageContextRequired (stage : BootstrapStage)
  | noActiveStage
  | operationBindingMismatch
  | effectAlreadyStarted
  | effectNotStarted (stage : BootstrapStage)
  | verificationEvidenceRequired (stage : BootstrapStage)
  | verificationEvidenceUnexpected (stage : BootstrapStage)
  | invalidVerificationEvidence (reason : String)
  | verificationEvidenceBindingMismatch
  | verificationEvidenceStale
  | alreadyComplete
  | provisioningModeAlreadySelected
  | ownerPendingNotAllowed
  | ownerStateAlreadyResolved
  | recoveryOwnerResolutionNotAllowed
  | preparerAuthorityStillActive
  | freshOwnerEnrollmentRequired
  | generationOverflow
  | generationAnchorMissing
  | unsupportedGenerationAnchorVersion
  | generationAnchorIntegrityMismatch
  | corruptGenerationAnchor (reason : String)
  | generationRollbackDetected (stateGeneration anchorGeneration : Nat)
  | staleCoordinator
  | durabilityUncertain (reason : String)
  | recoveryRequired (reason : String)
  deriving DecidableEq, Repr

/-- The text of a refusal, as `Display` writes it. -/
def DurableBootstrapError.display : DurableBootstrapError → String
  | .io error => "durable bootstrap I/O failed: " ++ error
  | .invalidIdentifier label => "invalid " ++ label
  | .invalidManifest reason => "invalid Provisioning Manifest: " ++ reason
  | .unsupportedManifestVersion => "unsupported Provisioning Manifest version"
  | .manifestSizeExceeded => "Provisioning Manifest exceeds the supported byte bound"
  | .manifestIntegrityMismatch =>
    "Provisioning Manifest integrity binding does not match its canonical payload"
  | .manifestBindingMismatch => "Provisioning Manifest is not bound to this bootstrap session, " ++
      "machine, and provisioning mode"
  | .manifestRequired => "unattended-local provisioning requires a validated Provisioning Manifest"
  | .stateSizeExceeded => "durable bootstrap state exceeds the supported byte bound"
  | .unsupportedStateVersion => "unsupported durable bootstrap state version"
  | .stateIntegrityMismatch =>
    "durable bootstrap state integrity binding does not match its canonical payload"
  | .corruptState reason => "corrupt durable bootstrap state: " ++ reason
  | .untrustedStatePath =>
    "durable bootstrap state path must resolve through trusted directories " ++
      "to a protected single-link regular file owned by the bootstrap process identity"
  | .untrustedControlPath =>
    "durable bootstrap lock/control file must be a protected single-link " ++
      "regular file owned by the bootstrap process identity"
  | .stateBindingMismatch =>
    "durable bootstrap state is bound to another bootstrap session or machine"
  | .unexpectedStage expected actual => "bootstrap stage must advance monotonically: expected "
      ++ expected.debug ++ ", got " ++ actual.debug
  | .stageAlreadyActive =>
    "a bootstrap stage is already active and must be reconciled before another starts"
  | .stageContextRequired stage => "bootstrap operation is valid only while the canonical "
      ++ stage.debug ++ " stage is active"
  | .noActiveStage => "no bootstrap stage is active"
  | .operationBindingMismatch =>
    "bootstrap operation id does not match the durable active-stage binding"
  | .effectAlreadyStarted => "bootstrap external effect has already crossed the started boundary"
  | .effectNotStarted stage => "bootstrap stage " ++ stage.debug
      ++ " cannot be verified complete before its external-effect start boundary is durable"
  | .verificationEvidenceRequired stage => "bootstrap stage " ++ stage.debug
      ++ " crossed an external-effect boundary and requires fresh exact-bound postcondition "
      ++ "evidence before completion"
  | .verificationEvidenceUnexpected stage =>
    "bootstrap verification evidence is not valid for non-effectful stage " ++ stage.debug
  | .invalidVerificationEvidence reason => "invalid bootstrap verification evidence: " ++ reason
  | .verificationEvidenceBindingMismatch =>
    "bootstrap verification evidence is not bound to the " ++
      "exact machine, stage, and durable operation instance"
  | .verificationEvidenceStale => "bootstrap verification evidence is stale or implausibly " ++
      "future-dated and must be freshly re-observed"
  | .alreadyComplete => "durable bootstrap state is already complete"
  | .provisioningModeAlreadySelected => "provisioning mode is already durably selected"
  | .ownerPendingNotAllowed => "owner-enrollment-pending is valid only for " ++
      "prepare-for-another-owner or unattended-local provisioning"
  | .ownerStateAlreadyResolved =>
    "owner-enrollment state is already pending, enrolled, or recovery-resolved"
  | .recoveryOwnerResolutionNotAllowed =>
    "recovery owner resolution is valid only for Recovery provisioning mode"
  | .preparerAuthorityStillActive =>
    "preparer authority must be retired before final-owner enrollment"
  | .freshOwnerEnrollmentRequired =>
    "final-owner authority requires a fresh enrollment transition " ++
      "and cannot be inherited from preparer state"
  | .generationOverflow => "durable bootstrap generation overflow"
  | .generationAnchorMissing =>
    "durable bootstrap generation anchor is missing; historical rollback cannot be excluded"
  | .unsupportedGenerationAnchorVersion =>
    "unsupported durable bootstrap generation-anchor version"
  | .generationAnchorIntegrityMismatch =>
    "durable bootstrap generation-anchor integrity binding " ++
      "does not match its canonical payload"
  | .corruptGenerationAnchor reason => "corrupt durable bootstrap generation anchor: " ++ reason
  | .generationRollbackDetected state anchor =>
    "durable bootstrap history moved backwards or became "
      ++ "inconsistent: state generation " ++ toString state ++ ", protected anchor generation "
      ++ toString anchor
  | .staleCoordinator =>
    "bootstrap coordinator observed stale durable state/generation and must be reopened"
  | .durabilityUncertain reason => "bootstrap durable commit is uncertain: " ++ reason
  | .recoveryRequired reason =>
    "bootstrap coordinator requires reopen/recovery before continuing: " ++ reason

/-! ### Texts that are accepted -/

def isIdentifierChar (c : Char) : Bool :=
  c.isAlphanum || c == '-' || c == '_' || c == '.' || c == ':' || c == '/' || c == '@' || c == '+'

/-- The texts that `normalize_identifier` accepts, unchanged. -/
def isIdentifier (value : String) : Bool :=
  value == trim value && !value.isEmpty && value.utf8ByteSize ≤ 256 && !startsWith value "/" &&
    !endsWith value "/" && !hasDoubleDot value.toList && value.toList.all isIdentifierChar

/-- `normalize_identifier` -/
def normalizeIdentifier (label value : String) : Except DurableBootstrapError String :=
  if isIdentifier value then .ok value else .error (.invalidIdentifier label)

/-- An ASCII hexadecimal digit of either case. -/
def isHexDigit (c : Char) : Bool := c.isDigit || ('a' ≤ c && c ≤ 'f') || ('A' ≤ c && c ≤ 'F')

/-- Sixty-four hexadecimal digits. -/
def isSha256Text (value : String) : Bool := value.utf8ByteSize = 64 && value.toList.all isHexDigit

/-- `sha256` -/
def sha256Hex (sha256 : Sha256) (bytes : Bytes) : String := hexEncode (sha256 bytes).toList

/-! ### States -/

inductive OwnerEnrollmentState
  | unresolved
  | pending
  | enrolled
  | recoveryResolved
  deriving DecidableEq, Repr

/-- `OwnerEnrollmentState::as_str` -/
def OwnerEnrollmentState.asStr : OwnerEnrollmentState → String
  | .unresolved => "unresolved"
  | .pending => "owner-enrollment-pending"
  | .enrolled => "enrolled"
  | .recoveryResolved => "recovery-resolved"

inductive BootstrapEffectState
  | prepared
  | effectStarted
  deriving DecidableEq, Repr

/-- `BootstrapEffectState::as_str` -/
def BootstrapEffectState.asStr : BootstrapEffectState → String
  | .prepared => "prepared"
  | .effectStarted => "effect-started"

structure ActiveBootstrapStage where
  stage : BootstrapStage
  operationId : String
  effectState : BootstrapEffectState
  deriving DecidableEq, Repr

structure CompletedEffectVerification where
  stage : BootstrapStage
  operationId : String
  verifierId : String
  observationId : String
  postconditionSha256 : String
  observedUnixMs : Nat
  deriving DecidableEq, Repr

structure OwnerAuthorityRecord where
  ownerId : String
  enrollmentId : String
  generation : Nat
  deriving DecidableEq, Repr

/-- `ProvisioningState`, with the values of `Default` -/
structure ProvisioningState where
  mode : Option ProvisioningMode := none
  manifestIdentity : Option String := none
  manifestId : Option String := none
  manifestConnectivity : Option BootstrapConnectivity := none
  manifestDeferOwnerEnrollment : Option Bool := none
  manifestSourceRef : Option String := none
  manifestSetupRef : Option String := none
  manifestMachineProfileRef : Option String := none
  manifestHostIdentity : Option String := none
  firstBootPlanSha256 : Option String := none
  firstBootPlanCount : UInt32 := 0
  ownerEnrollment : OwnerEnrollmentState := .unresolved
  ownerAuthority : Option OwnerAuthorityRecord := none
  authorityGeneration : Nat := 0
  preparerAuthorityRetired : Bool := false
  deriving DecidableEq, Repr

structure DurableBootstrapState where
  generation : Nat
  sessionId : String
  machineId : String
  completed : List BootstrapStage
  effectVerifications : List CompletedEffectVerification
  active : Option ActiveBootstrapStage
  provisioning : ProvisioningState
  deriving DecidableEq, Repr

/-! ### Checks -/

def CompletedEffectVerification.validate (verification : CompletedEffectVerification) :
    Except DurableBootstrapError Unit := do
  demand (verification.stage.requiresEffectBoundary = true)
    (.corruptState "completed effect verification names a non-effectful stage")
  let _ ← normalizeIdentifier "verified bootstrap operation id" verification.operationId
  let _ ← normalizeIdentifier "bootstrap verifier id" verification.verifierId
  let _ ← normalizeIdentifier "bootstrap observation id" verification.observationId
  demand (isSha256Text verification.postconditionSha256 = true ∧ verification.observedUnixMs ≠ 0)
    (.corruptState "completed effect verification contains invalid digest or timestamp")

namespace ProvisioningState

variable (provisioning : ProvisioningState)

def typedManifestPresent : Bool :=
  provisioning.manifestId.isSome && provisioning.manifestConnectivity.isSome
    && provisioning.manifestDeferOwnerEnrollment.isSome

/-- The plan comes from the library. -/
def isLibraryBacked : Bool :=
  provisioning.manifestSetupRef.isSome || provisioning.manifestMachineProfileRef.isSome

/-- The checks of `validate` on the manifest. -/
def validateManifest : Except DurableBootstrapError Unit := do
  demand (¬ (provisioning.mode = some .unattendedLocal ∧ provisioning.manifestIdentity = none))
    (.corruptState "unattended-local provisioning lacks manifest identity")
  demand (¬ (provisioning.manifestIdentity ≠ none ∧ provisioning.mode = none))
    (.corruptState "manifest identity exists before provisioning mode selection")
  demand (provisioning.manifestIdentity.isSome = provisioning.typedManifestPresent)
    (.corruptState "manifest identity and typed selections must be persisted together")
  demand (¬ (provisioning.manifestIdentity = none ∧ (provisioning.manifestSourceRef.isSome
      || provisioning.manifestSetupRef.isSome || provisioning.manifestMachineProfileRef.isSome
      || provisioning.manifestHostIdentity.isSome)))
    (.corruptState "manifest references exist without a validated manifest identity")

/-- The checks of `validate` on the plan of the first boot. -/
def validatePlan : Except DurableBootstrapError Unit := do
  match provisioning.firstBootPlanSha256 with
    | some digest =>
      demand (isSha256Text digest = true)
        (.corruptState "First Boot plan binding is not a SHA-256 digest")
    | none =>
      demand (provisioning.firstBootPlanCount = 0)
        (.corruptState "First Boot plan count exists without a durable plan binding")
  demand (¬ (provisioning.isLibraryBacked = true ∧ provisioning.firstBootPlanSha256 ≠ none
      ∧ provisioning.firstBootPlanCount = 0))
    (.corruptState "Library-backed First Boot planning completed without canonical plans")

/-- The checks of `validate` on the mode and the deferral of the manifest. -/
def validateDeferral : Except DurableBootstrapError Unit :=
  match provisioning.mode, provisioning.manifestDeferOwnerEnrollment with
  | some mode, some defer => do
    demand (¬ (mode.isHandoff = true ∧ defer = false))
      (.corruptState "deferred-owner provisioning lost its manifest handoff selection")
    demand (¬ (mode = .interactiveOwner ∧ defer = true))
      (.corruptState "interactive-owner state cannot persist deferred owner enrollment")
    demand (mode ≠ .recovery)
      (.corruptState "Recovery mode cannot carry Provisioning Manifest selections")
  | _, _ => .ok ()

/-- The checks of `validate` on the authority of the owner. -/
def validateOwner : Except DurableBootstrapError Unit :=
  match provisioning.ownerEnrollment with
  | .unresolved =>
    demand (provisioning.ownerAuthority = none ∧ provisioning.authorityGeneration = 0)
      (.corruptState "unresolved owner state retained owner authority")
  | .pending =>
    demand (provisioning.mode.any (·.isHandoff) = true ∧
      provisioning.preparerAuthorityRetired = true
        ∧ provisioning.ownerAuthority = none ∧ provisioning.authorityGeneration = 0)
      (.corruptState "owner-enrollment-pending violates handoff authority separation")
  | .enrolled =>
    match provisioning.ownerAuthority with
    | none => .error (.corruptState "enrolled owner state lacks authority record")
    | some authority =>
      demand (provisioning.preparerAuthorityRetired = true ∧ provisioning.authorityGeneration ≠ 0
          ∧ authority.generation = provisioning.authorityGeneration)
        (.corruptState "owner authority generation is not fresh and separated")
  | .recoveryResolved =>
    demand (provisioning.mode = some .recovery ∧ provisioning.preparerAuthorityRetired = false
        ∧ provisioning.ownerAuthority = none ∧ provisioning.authorityGeneration = 0)
      (.corruptState ("recovery owner resolution must not mint, inherit, retire, or defer owner " ++
        "authority"))

/-- `ProvisioningState::validate` -/
def validate : Except DurableBootstrapError Unit := do
  provisioning.validateManifest
  provisioning.validatePlan
  provisioning.validateDeferral
  provisioning.validateOwner

end ProvisioningState

namespace DurableBootstrapState

variable (state : DurableBootstrapState)

/-- `DurableBootstrapState::next_stage` -/
def nextStage : Option BootstrapStage := BootstrapStage.ordered[state.completed.length]?

variable (stage : BootstrapStage)

def isActive : Bool := state.active.any (·.stage == stage)

/-- The stage comes before the first incomplete one. -/
def isPast : Bool := stage.index < state.completed.length

/-- What was completed is verified, stage by stage. -/
def checkLineage : List BootstrapStage → List CompletedEffectVerification →
    Except DurableBootstrapError Unit
  | [], [] => .ok ()
  | [], _ :: _ =>
    .error (.corruptState "durable verification lineage contains an uncompleted effect")
  | _ :: _, [] =>
    .error (.corruptState "completed effectful stage lacks durable verification lineage")
  | stage :: stages, verification :: verifications => do
    demand (verification.stage = stage)
      (.corruptState "durable verification lineage does not match completed effect order")
    verification.validate
    checkLineage stages verifications

/-- The checks of `validate` on the active stage. -/
def validateActive : Except DurableBootstrapError Unit :=
  match state.active with
  | none => .ok ()
  | some active => do
    demand (state.nextStage = some active.stage)
      (.corruptState "active bootstrap stage does not equal first incomplete stage")
    let _ ← normalizeIdentifier "bootstrap operation id" active.operationId
    return ()

/-- What is settled in a stage is there once the stage is complete, and not before it is active. -/
def checkSettled (settled : Bool) (early late : String) : Except DurableBootstrapError Unit := do
  demand (¬ (settled = true ∧ state.isActive stage = false ∧ state.isPast stage = false))
    (.corruptState early)
  demand (¬ (state.isPast stage = true ∧ settled = false)) (.corruptState late)

/-- `DurableBootstrapState::validate` -/
def validate : Except DurableBootstrapError Unit := do
  demand (state.completed.length ≤ BootstrapStage.ordered.length)
    (.corruptState "bootstrap completed prefix is longer than canonical stage order")
  demand (BootstrapStage.ordered.take state.completed.length = state.completed)
    (.corruptState "bootstrap completed stages are not a canonical ordered prefix")
  checkLineage (state.completed.filter (·.requiresEffectBoundary)) state.effectVerifications
  state.validateActive
  state.checkSettled .provisioningModeSelection state.provisioning.mode.isSome
    "provisioning state exists before provisioning-mode-selection stage"
    "provisioning-mode-selection completed without a provisioning mode"
  state.checkSettled .firstBootPlanning state.provisioning.firstBootPlanSha256.isSome
    "First Boot plan binding exists before the planning stage"
    "First Boot planning completed without a durable canonical plan binding"
  state.checkSettled .ownerEnrollmentResolution (state.provisioning.ownerEnrollment != .unresolved)
    "owner-enrollment state exists before owner-enrollment-resolution stage"
    "owner-enrollment-resolution completed without a resolved owner state"
  let _ ← normalizeIdentifier "bootstrap session id" state.sessionId
  let _ ← normalizeIdentifier "machine id" state.machineId
  state.provisioning.validate

/-- Return a candidate that passes the check. -/
def checked (candidate : DurableBootstrapState) :
    Except DurableBootstrapError DurableBootstrapState := do
  candidate.validate
  return candidate

/-- Return a candidate that passes both checks, as the operations on the provisioning state do. -/
def checkedTwice (candidate : DurableBootstrapState) :
    Except DurableBootstrapError DurableBootstrapState := do
  candidate.provisioning.validate
  candidate.checked

/-- `DurableBootstrapState::new` -/
def new (sessionId machineId : String) : Except DurableBootstrapError DurableBootstrapState := do
  let sessionId ← normalizeIdentifier "bootstrap session id" sessionId
  let machineId ← normalizeIdentifier "machine id" machineId
  checked ⟨0, sessionId, machineId, [], [], none, {}⟩

end DurableBootstrapState

/-! ### What the checks establish -/

theorem normalizeIdentifier_eq_ok {label value value' : String} :
    normalizeIdentifier label value = .ok value' ↔ isIdentifier value = true ∧ value = value' := by
  unfold normalizeIdentifier
  split
  · simp [*]
  · simp [*]

/-- What `validate` establishes of a verification. -/
structure CompletedEffectVerification.Valid
    (verification : CompletedEffectVerification) : Prop where
  effectful : verification.stage.requiresEffectBoundary = true
  operation : isIdentifier verification.operationId = true
  verifier : isIdentifier verification.verifierId = true
  observation : isIdentifier verification.observationId = true
  digest : isSha256Text verification.postconditionSha256 = true
  observed : verification.observedUnixMs ≠ 0

theorem CompletedEffectVerification.validate_eq_ok {verification : CompletedEffectVerification}
    {value : Unit} : verification.validate = .ok value ↔ verification.Valid := by
  simp only [validate, bind_eq_ok, demand_eq_ok, normalizeIdentifier_eq_ok]
  constructor
  · rintro ⟨_, effectful, _, ⟨operation, -⟩, _, ⟨verifier, -⟩, _,
      ⟨observation, -⟩, digest, observed⟩
    exact ⟨effectful, operation, verifier, observation, digest, observed⟩
  · rintro ⟨effectful, operation, verifier, observation, digest, observed⟩
    exact ⟨(), effectful, _, ⟨operation, rfl⟩, _, ⟨verifier, rfl⟩, _, ⟨observation, rfl⟩, digest,
      observed⟩

namespace ProvisioningState

/-- What `validate` establishes of the authority of the owner. -/
def OwnerValid (provisioning : ProvisioningState) : Prop :=
  match provisioning.ownerEnrollment with
  | .unresolved => provisioning.ownerAuthority = none ∧ provisioning.authorityGeneration = 0
  | .pending => provisioning.mode.any (·.isHandoff) = true ∧
      provisioning.preparerAuthorityRetired = true
      ∧ provisioning.ownerAuthority = none ∧ provisioning.authorityGeneration = 0
  | .enrolled => ∃ authority, provisioning.ownerAuthority = some authority
      ∧ provisioning.preparerAuthorityRetired = true ∧ provisioning.authorityGeneration ≠ 0
      ∧ authority.generation = provisioning.authorityGeneration
  | .recoveryResolved => provisioning.mode = some .recovery
      ∧ provisioning.preparerAuthorityRetired = false ∧ provisioning.ownerAuthority = none
      ∧ provisioning.authorityGeneration = 0

/-- What `validate` establishes. -/
structure Valid (provisioning : ProvisioningState) : Prop where
  manifestRequired : ¬ (provisioning.mode = some .unattendedLocal ∧
    provisioning.manifestIdentity = none)
  manifestLate : ¬ (provisioning.manifestIdentity ≠ none ∧ provisioning.mode = none)
  typed : provisioning.manifestIdentity.isSome = provisioning.typedManifestPresent
  references : ¬ (provisioning.manifestIdentity = none ∧ (provisioning.manifestSourceRef.isSome
    || provisioning.manifestSetupRef.isSome || provisioning.manifestMachineProfileRef.isSome
    || provisioning.manifestHostIdentity.isSome))
  planDigest : ∀ digest, provisioning.firstBootPlanSha256 = some digest → isSha256Text digest = true
  planCount : provisioning.firstBootPlanSha256 = none → provisioning.firstBootPlanCount = 0
  library : ¬ (provisioning.isLibraryBacked = true ∧ provisioning.firstBootPlanSha256 ≠ none
    ∧ provisioning.firstBootPlanCount = 0)
  deferral : ∀ mode defer, provisioning.mode = some mode →
    provisioning.manifestDeferOwnerEnrollment = some defer →
    ¬ (mode.isHandoff = true ∧ defer = false) ∧ ¬ (mode = .interactiveOwner ∧ defer = true)
      ∧ mode ≠ .recovery
  owner : provisioning.OwnerValid

variable {provisioning : ProvisioningState}

variable {value : Unit}

theorem validatePlan_eq_ok : provisioning.validatePlan = .ok value ↔
    (∀ digest, provisioning.firstBootPlanSha256 = some digest → isSha256Text digest = true) ∧
      (provisioning.firstBootPlanSha256 = none → provisioning.firstBootPlanCount = 0) ∧
      ¬ (provisioning.isLibraryBacked = true ∧ provisioning.firstBootPlanSha256 ≠ none
        ∧ provisioning.firstBootPlanCount = 0) := by
  unfold validatePlan
  cases provisioning.firstBootPlanSha256 with
  | none | some => simp [bind_eq_ok, demand_eq_ok]

theorem validateDeferral_eq_ok : provisioning.validateDeferral = .ok value ↔
    ∀ mode defer, provisioning.mode = some mode →
      provisioning.manifestDeferOwnerEnrollment = some defer →
      ¬ (mode.isHandoff = true ∧ defer = false) ∧ ¬ (mode = .interactiveOwner ∧ defer = true)
        ∧ mode ≠ .recovery := by
  unfold validateDeferral
  cases provisioning.mode with
  | none => simp
  | some mode =>
    cases provisioning.manifestDeferOwnerEnrollment with
    | none => simp
    | some defer => simp [bind_eq_ok, demand_eq_ok]

/-- What the check of the owner accepts. -/
theorem validateOwner_eq_ok : provisioning.validateOwner = .ok value ↔ provisioning.OwnerValid := by
  unfold validateOwner OwnerValid
  cases provisioning.ownerEnrollment with
  | unresolved | pending | recoveryResolved => exact demand_eq_ok
  | enrolled =>
    cases provisioning.ownerAuthority with
    | none => simp
    | some authority => simp [demand_eq_ok]

theorem validate_eq_ok : provisioning.validate = .ok value ↔ provisioning.Valid := by
  simp only [validate, validateManifest, bind_eq_ok, demand_eq_ok, validatePlan_eq_ok,
    validateDeferral_eq_ok, validateOwner_eq_ok]
  constructor
  · rintro ⟨_, ⟨_, required, _, late, _, typed, references⟩, _, ⟨digest, count, library⟩,
      _, deferral,
      owner⟩
    exact ⟨required, late, typed, references, digest, count, library, deferral, owner⟩
  · rintro ⟨required, late, typed, references, digest, count, library, deferral, owner⟩
    exact ⟨(), ⟨(), required, (), late, (), typed, references⟩, (), ⟨digest, count, library⟩, (),
      deferral, owner⟩

end ProvisioningState

namespace DurableBootstrapState

/-- What is settled in a stage is there once the stage is complete, and not before it is active. -/
structure Settled (state : DurableBootstrapState) (stage : BootstrapStage)
    (settled : Bool) : Prop where
  early : settled = true → state.isActive stage = true ∨ state.isPast stage = true
  late : state.isPast stage = true → settled = true

def Verifies (stage : BootstrapStage) (verification : CompletedEffectVerification) : Prop :=
  verification.stage = stage ∧ verification.Valid

/-- What `validate` establishes. -/
structure Valid (state : DurableBootstrapState) : Prop where
  order : BootstrapStage.ordered.take state.completed.length = state.completed
  lineage : List.Forall₂ Verifies (state.completed.filter (·.requiresEffectBoundary))
    state.effectVerifications
  active : ∀ active, state.active = some active →
    state.nextStage = some active.stage ∧ isIdentifier active.operationId = true
  mode : state.Settled .provisioningModeSelection state.provisioning.mode.isSome
  plan : state.Settled .firstBootPlanning state.provisioning.firstBootPlanSha256.isSome
  owner : state.Settled .ownerEnrollmentResolution
    (state.provisioning.ownerEnrollment != .unresolved)
  session : isIdentifier state.sessionId = true
  machine : isIdentifier state.machineId = true
  provisioning : state.provisioning.Valid

variable {state : DurableBootstrapState}

variable {value : Unit}

/-- Each completed stage has its verification, in order. -/
theorem checkLineage_eq_ok {stages : List BootstrapStage}
    {verifications : List CompletedEffectVerification} :
    checkLineage stages verifications = .ok value ↔ List.Forall₂ Verifies stages verifications := by
  induction stages generalizing verifications with
  | nil =>
    cases verifications with
    | nil | cons => simp [checkLineage]
  | cons stage stages ih =>
    cases verifications with
    | nil => simp [checkLineage]
    | cons verification rest =>
      simp only [checkLineage, bind_eq_ok, demand_eq_ok,
        CompletedEffectVerification.validate_eq_ok, ih,
        exists_const, List.forall₂_cons, Verifies, and_assoc]

theorem validateActive_eq_ok :
    state.validateActive = .ok value ↔ ∀ active, state.active = some active →
    state.nextStage = some active.stage ∧ isIdentifier active.operationId = true := by
  unfold validateActive
  cases state.active with
  | none => simp
  | some active => simp [bind_eq_ok, demand_eq_ok, normalizeIdentifier_eq_ok, pure_eq_ok]

theorem checkSettled_eq_ok {stage : BootstrapStage} {settled : Bool} {early late : String} :
    state.checkSettled stage settled early late = .ok value ↔ state.Settled stage settled := by
  simp only [checkSettled, bind_eq_ok, demand_eq_ok, exists_const]
  constructor
  · rintro ⟨before, after⟩
    constructor
    · intro settled
      by_contra neither
      obtain ⟨inactive, ahead⟩ := not_or.mp neither
      exact before ⟨settled, by simpa using inactive, by simpa using ahead⟩
    · intro past
      by_contra unsettled
      exact after ⟨past, by simpa using unsettled⟩
  · rintro ⟨before, after⟩
    constructor
    · rintro ⟨settled, inactive, ahead⟩
      rcases before settled with active | past
      · rw [inactive] at active
        cases active
      · rw [ahead] at past
        cases past
    · rintro ⟨past, unsettled⟩
      rw [after past] at unsettled
      cases unsettled

theorem length_le_of_order
    (order : BootstrapStage.ordered.take state.completed.length = state.completed) :
    state.completed.length ≤ BootstrapStage.ordered.length := by
  have length := congrArg List.length order
  rw [List.length_take] at length
  omega

theorem validate_eq_ok : state.validate = .ok value ↔ state.Valid := by
  simp only [validate, bind_eq_ok, demand_eq_ok, checkLineage_eq_ok, validateActive_eq_ok,
    checkSettled_eq_ok, normalizeIdentifier_eq_ok, ProvisioningState.validate_eq_ok]
  constructor
  · rintro ⟨_, -, _, order, _, lineage, _, active, _, mode, _, plan, _, owner, _, ⟨session, -⟩, _,
      ⟨machine, -⟩, provisioning⟩
    exact ⟨order, lineage, active, mode, plan, owner, session, machine, provisioning⟩
  · rintro ⟨order, lineage, active, mode, plan, owner, session, machine, provisioning⟩
    exact ⟨(), length_le_of_order order, (), order, (), lineage, (), active, (), mode, (), plan, (),
      owner, _, ⟨session, rfl⟩, _, ⟨machine, rfl⟩, provisioning⟩

theorem checked_eq_ok {candidate state' : DurableBootstrapState} :
    candidate.checked = .ok state' ↔ candidate.Valid ∧ candidate = state' := by
  simp [checked, bind_eq_ok, validate_eq_ok, pure_eq_ok]

/-- Checking twice accepts what checking once does. -/
theorem checkedTwice_eq_ok {candidate state' : DurableBootstrapState} :
    candidate.checkedTwice = .ok state' ↔ candidate.Valid ∧ candidate = state' := by
  simp only [checkedTwice, bind_eq_ok, ProvisioningState.validate_eq_ok,
    checked_eq_ok, exists_const]
  exact ⟨fun ⟨_, both⟩ => both, fun both => ⟨both.1.provisioning, both⟩⟩

end DurableBootstrapState

end Linura.Bootstrap
