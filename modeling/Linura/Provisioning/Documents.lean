import Linura.Provisioning.State
import Linura.Transaction.Requests

/-!
# Documents that a bootstrap accepts

A provisioning manifest is a text of fixed lines with a trailer that repeats the digest of the
lines. Receipts of the control service have a trailer with a keyed digest instead.  Evidence of a
completed effect is issued by the verifiers of the bootstrap itself.
-/

namespace Linura.Bootstrap

open Linura.Lib Linura.Transaction

/-! ### Reading lines -/

/-- A reader of the lines of a text, from the first one on. -/
abbrev LineReader := StateT (List String) (Except DurableBootstrapError)

namespace LineReader

/-- The next line, if there is one. -/
def next : LineReader (Option String) := fun
  | [] => .ok (none, [])
  | line :: rest => .ok (some line, rest)

/-- The value on the next line, which has the form `name=value`. -/
def field (name : String) (missing invalid : DurableBootstrapError) : LineReader String := do
  match ← next with
  | none => throw missing
  | some line =>
    match stripLead line (name ++ "=") with
    | none => throw invalid
    | some value => return value

/-- The next line is this one. -/
def expect (line : String) (error : DurableBootstrapError) : LineReader Unit := do
  match ← next with
  | some found => if found = line then return () else throw error
  | none => throw error

/-- Fail unless a condition holds. -/
def check (condition : Prop) [Decidable condition] (error : DurableBootstrapError) :
    LineReader Unit :=
  if condition then return () else throw error

/-- There is no further line. -/
def finish (error : DurableBootstrapError) : LineReader Unit := do
  match ← next with
  | some _ => throw error
  | none => return ()

end LineReader

/-- The lines before the trailer of a text, which is named and checked. -/
def openTrailer (text name : String) (missing malformed : DurableBootstrapError)
    (check : String → String → Except DurableBootstrapError Unit) :
    Except DurableBootstrapError String :=
  match splitTrailer text name with
  | none => .error missing
  | some (_, none) => .error malformed
  | some (payload, some value) => do
    check payload value
    return payload

/-! ### Manifests -/

/-- `mode_str` -/
def ProvisioningMode.asStr : ProvisioningMode → String
  | .interactiveOwner => "interactive-owner"
  | .prepareForAnotherOwner => "prepare-for-another-owner"
  | .unattendedLocal => "unattended-local"
  | .recovery => "recovery"

def ProvisioningMode.ofText? (value : String) : Option ProvisioningMode :=
  [.interactiveOwner, .prepareForAnotherOwner, .unattendedLocal, .recovery].find? (·.asStr = value)

/-- `connectivity_str` -/
def BootstrapConnectivity.asStr : BootstrapConnectivity → String
  | .offline => "offline"
  | .boundedNetwork => "bounded-network"

def BootstrapConnectivity.ofText? (value : String) : Option BootstrapConnectivity :=
  [.offline, .boundedNetwork].find? (·.asStr = value)

structure ProvisioningManifest where
  manifestId : String
  sessionId : String
  machineId : String
  mode : ProvisioningMode
  connectivity : BootstrapConnectivity
  deferOwnerEnrollment : Bool
  sourceRef : Option String
  setupRef : Option String
  machineProfileRef : Option String
  hostIdentity : Option String
  identity : String
  deriving DecidableEq, Repr

namespace ProvisioningManifest

/-- `parse_exact_field` -/
def exactField (name : String) : LineReader String :=
  LineReader.field name (.invalidManifest "manifest field is missing")
    (.invalidManifest "manifest field order/name is invalid")

/-- `parse_identifier_field` -/
def identifierField (name : String) : LineReader String := do
  let value ← exactField name
  normalizeIdentifier name value

/-- `parse_optional_reference` -/
def optionalReference (name : String) : LineReader (Option String) := do
  let value ← exactField name
  if value = "-" then return none
  else
    let value ← normalizeIdentifier name value
    return some value

/-- `parse_mode` -/
def modeField : LineReader ProvisioningMode := do
  let value ← exactField "mode"
  match ProvisioningMode.ofText? value with
  | none => throw (.invalidManifest "unknown provisioning mode")
  | some .recovery =>
    throw (.invalidManifest "recovery is not selectable through Provisioning Manifest")
  | some mode => return mode

/-- `parse_connectivity` -/
def connectivityField : LineReader BootstrapConnectivity := do
  let value ← exactField "connectivity"
  match BootstrapConnectivity.ofText? value with
  | none => throw (.invalidManifest "unknown bootstrap connectivity mode")
  | some connectivity => return connectivity

def deferralField : LineReader Bool := do
  let value ← exactField "defer_owner_enrollment"
  if value = "true" then return true
  else if value = "false" then return false
  else throw (.invalidManifest "defer_owner_enrollment must be true or false")

def read (identity : String) : LineReader ProvisioningManifest := do
  LineReader.expect "linura-provisioning-manifest-v1" .unsupportedManifestVersion
  let manifestId ← identifierField "manifest_id"
  let sessionId ← identifierField "session_id"
  let machineId ← identifierField "machine_id"
  let mode ← modeField
  let connectivity ← connectivityField
  let deferOwnerEnrollment ← deferralField
  let sourceRef ← optionalReference "source_ref"
  let setupRef ← optionalReference "setup_ref"
  let machineProfileRef ← optionalReference "machine_profile_ref"
  let hostIdentity ← optionalReference "host_identity"
  LineReader.finish (.invalidManifest "manifest contains unknown or duplicate fields")
  LineReader.check (¬ (mode.isHandoff = true ∧ deferOwnerEnrollment = false))
    (.invalidManifest "non-interactive ownership handoff must defer owner enrollment")
  LineReader.check (¬ (mode = .interactiveOwner ∧ deferOwnerEnrollment = true))
    (.invalidManifest "interactive-owner cannot request deferred owner enrollment")
  return ⟨manifestId, sessionId, machineId, mode, connectivity, deferOwnerEnrollment, sourceRef,
    setupRef, machineProfileRef, hostIdentity, identity⟩

/-- The checks of `parse` on the digest of a manifest. -/
def checkIntegrity (sha256 : Sha256) (payload expected : String) :
    Except DurableBootstrapError Unit := do
  demand (isSha256Text expected = true)
    (.invalidManifest "integrity must be a 64-character SHA-256 hex digest")
  demand (sha256Hex sha256 (asBytes payload) = expected) .manifestIntegrityMismatch

/-- `ProvisioningManifest::parse` -/
def parse (sha256 : Sha256) (bytes : Bytes) :
    Except DurableBootstrapError ProvisioningManifest := do
  demand (bytes ≠ [] ∧ bytes.length ≤ 16 * 1024) .manifestSizeExceeded
  match fromUtf8 bytes with
  | none => .error (.invalidManifest "manifest must be UTF-8")
  | some text => do
    demand (text.toList.all (fun c => 0x20 ≤ c.toNat || c == '\n') = true)
      (.invalidManifest "manifest contains forbidden control characters")
    let payload ← openTrailer text "integrity"
      (.invalidManifest "manifest integrity record is missing")
      (.invalidManifest "manifest integrity record is malformed") (checkIntegrity sha256)
    let (manifest, _) ← (read (sha256Hex sha256 (asBytes payload))).run (lines payload)
    return manifest

/-- `ProvisioningManifest::validate_binding` -/
def validateBinding (manifest : ProvisioningManifest) (sessionId machineId : String)
    (mode : ProvisioningMode) : Except DurableBootstrapError Unit :=
  demand (manifest.sessionId = sessionId ∧ manifest.machineId = machineId ∧ manifest.mode = mode)
    .manifestBindingMismatch

end ProvisioningManifest

/-! ### Receipts -/

/-- A clock that was read, or the error of reading it. -/
abbrev ClockSample := Except DurableBootstrapError Nat

/-- `validate_owner_receipt_freshness` -/
def validateOwnerReceiptFreshness (issuedUnixMs : Nat) (now : ClockSample) :
    Except DurableBootstrapError Unit := do
  let now ← now
  demand (now ≤ u64Max) (.io "owner enrollment timestamp exceeds u64")
  demand (issuedUnixMs ≤ saturatingAdd now (30 * 1000) ∧
    saturatingSub now issuedUnixMs ≤ 5 * 60 * 1000) .verificationEvidenceStale

/-- `split_authenticated_receipt` and `OwnerEnrollmentAuthorityVerifier::verify`: the lines of a
receipt that the holder of the key wrote. -/
def openReceipt (sha256 : Sha256) (key : TransactionAuthorityKey) (label : String) (bytes : Bytes) :
    Except DurableBootstrapError String := do
  demand (bytes ≠ [] ∧ bytes.length ≤ 4096) .untrustedControlPath
  match fromUtf8 bytes with
  | none => .error (.corruptState (label ++ " is not UTF-8"))
  | some text =>
    openTrailer text "authentication"
      (.corruptState (label ++ " authentication record is missing"))
      (.corruptState (label ++ " authentication record is malformed"))
      fun payload authentication => do
        demand (isSha256Text authentication = true)
          (.corruptState "Control receipt authentication is not HMAC-SHA-256")
        demand (hexEncode (hmacSha256 sha256 key.bytes (asBytes payload)).toList = authentication)
          .stateIntegrityMismatch

/-- `receipt_identifier` -/
def receiptIdentifier (field label : String) : LineReader String := do
  let error := DurableBootstrapError.corruptState ("Control receipt lacks " ++ field)
  let value ← LineReader.field field error error
  normalizeIdentifier label value

/-- `receipt_timestamp` -/
def receiptTimestamp : LineReader Nat := do
  let error := DurableBootstrapError.corruptState "Control receipt lacks issue timestamp"
  let value ← LineReader.field "issued_unix_ms" error error
  match parseUnsigned (2 ^ 64) value with
  | none => throw (.corruptState "Control receipt timestamp is invalid")
  | some issued => return issued

structure TrustedOwnerEnrollmentReceipt where
  sessionId : String
  machineId : String
  ownerId : String
  enrollmentId : String
  issuedUnixMs : Nat
  deriving DecidableEq, Repr

namespace TrustedOwnerEnrollmentReceipt

def read : LineReader TrustedOwnerEnrollmentReceipt := do
  let foreign := DurableBootstrapError.corruptState
    "owner enrollment receipt is not authenticated Control v2 evidence"
  LineReader.expect "linura-owner-enrollment-receipt-v2" foreign
  LineReader.expect "producer=linura-control-owner-enrollment-v2" foreign
  let sessionId ← receiptIdentifier "session_id" "owner enrollment receipt session id"
  let machineId ← receiptIdentifier "machine_id" "owner enrollment receipt machine id"
  let ownerId ← receiptIdentifier "owner_id" "owner id"
  let enrollmentId ← receiptIdentifier "enrollment_id" "owner enrollment id"
  let issuedUnixMs ← receiptTimestamp
  LineReader.finish (.corruptState "owner enrollment receipt contains unexpected fields")
  return ⟨sessionId, machineId, ownerId, enrollmentId, issuedUnixMs⟩

/-- `TrustedOwnerEnrollmentReceipt::load`, for the bytes of a protected file. -/
def load (sha256 : Sha256) (key : TransactionAuthorityKey) (bytes : Bytes)
    (expectedSessionId expectedMachineId : String) (now : ClockSample) :
    Except DurableBootstrapError TrustedOwnerEnrollmentReceipt := do
  let payload ← openReceipt sha256 key "owner enrollment receipt" bytes
  let (receipt, _) ← read.run (lines payload)
  demand (receipt.sessionId = expectedSessionId ∧ receipt.machineId = expectedMachineId)
    .stateBindingMismatch
  validateOwnerReceiptFreshness receipt.issuedUnixMs now
  return receipt

/-- `TrustedOwnerEnrollmentReceipt::validate_binding` -/
def validateBinding (receipt : TrustedOwnerEnrollmentReceipt) (state : DurableBootstrapState)
    (now : ClockSample) : Except DurableBootstrapError Unit := do
  demand (receipt.sessionId = state.sessionId ∧ receipt.machineId = state.machineId)
    .stateBindingMismatch
  validateOwnerReceiptFreshness receipt.issuedUnixMs now

end TrustedOwnerEnrollmentReceipt

structure TrustedPreparerAuthorityRevocationReceipt where
  sessionId : String
  machineId : String
  operationId : String
  postconditionSha256 : String
  issuedUnixMs : Nat
  deriving DecidableEq, Repr

namespace TrustedPreparerAuthorityRevocationReceipt

def read : LineReader TrustedPreparerAuthorityRevocationReceipt := do
  let foreign := DurableBootstrapError.corruptState
    "preparer revocation receipt is not authenticated Control evidence"
  LineReader.expect "linura-preparer-revocation-receipt-v1" foreign
  LineReader.expect "producer=linura-firstboot-preparer-revocation-v1" foreign
  let sessionId ← receiptIdentifier "session_id" "preparer revocation session id"
  let machineId ← receiptIdentifier "machine_id" "preparer revocation machine id"
  let operationId ← receiptIdentifier "operation_id" "preparer revocation operation id"
  let unbound := DurableBootstrapError.corruptState
    "preparer revocation receipt has an invalid stage/effect/scope binding"
  LineReader.expect "stage=owner-enrollment-resolution" unbound
  LineReader.expect "effect_state=effect-started" unbound
  LineReader.expect "scope=preparer-os-authority-v1" unbound
  let lacking := DurableBootstrapError.corruptState
    "preparer revocation receipt lacks postcondition digest"
  let postconditionSha256 ← LineReader.field "postcondition_sha256" lacking lacking
  LineReader.check (isSha256Text postconditionSha256 = true)
    (.corruptGenerationAnchor "generation anchor contains an invalid state SHA-256")
  let issuedUnixMs ← receiptTimestamp
  LineReader.finish (.corruptState "preparer revocation receipt contains unexpected fields")
  return ⟨sessionId, machineId, operationId, postconditionSha256, issuedUnixMs⟩

/-- `TrustedPreparerAuthorityRevocationReceipt::validate_binding` -/
def validateBinding (receipt : TrustedPreparerAuthorityRevocationReceipt)
    (state : DurableBootstrapState) (now : ClockSample) : Except DurableBootstrapError Unit :=
  match state.active with
  | none => .error .noActiveStage
  | some active => do
    demand (active.stage = .ownerEnrollmentResolution ∧ active.effectState = .effectStarted
      ∧ receipt.sessionId = state.sessionId ∧ receipt.machineId = state.machineId
      ∧ receipt.operationId = active.operationId) .stateBindingMismatch
    validateOwnerReceiptFreshness receipt.issuedUnixMs now

/-- `TrustedPreparerAuthorityRevocationReceipt::load`, for the bytes of a protected file. -/
def load (sha256 : Sha256) (key : TransactionAuthorityKey) (bytes : Bytes)
    (state : DurableBootstrapState) (now : ClockSample) :
    Except DurableBootstrapError TrustedPreparerAuthorityRevocationReceipt := do
  let payload ← openReceipt sha256 key "preparer revocation receipt" bytes
  let (receipt, _) ← read.run (lines payload)
  receipt.validateBinding state now
  return receipt

end TrustedPreparerAuthorityRevocationReceipt

/-! ### Evidence -/

structure BootstrapVerificationEvidence where
  stage : BootstrapStage
  operationId : String
  sessionId : String
  machineId : String
  verifierId : String
  observationId : String
  postconditionSha256 : String
  observedUnixMs : Nat
  deriving DecidableEq, Repr

namespace BootstrapVerificationEvidence

/-- `BootstrapVerificationEvidence::issue` -/
def issue (sha256 : Sha256) (stage : BootstrapStage)
    (operationId sessionId machineId verifierId observationId : String)
    (canonicalPostcondition : Bytes) (now : ClockSample) :
    Except DurableBootstrapError BootstrapVerificationEvidence := do
  demand (stage.requiresEffectBoundary = true) (.verificationEvidenceUnexpected stage)
  demand (canonicalPostcondition ≠ [] ∧ canonicalPostcondition.length ≤ 16 * 1024)
    (.invalidVerificationEvidence "canonical postcondition is empty or exceeds the supported bound")
  let observed ← now
  demand (observed ≤ u64Max) (.io "bootstrap verification timestamp exceeds u64")
  let operationId ← normalizeIdentifier "bootstrap verification operation id" operationId
  let sessionId ← normalizeIdentifier "bootstrap verification session id" sessionId
  let machineId ← normalizeIdentifier "bootstrap verification machine id" machineId
  let verifierId ← normalizeIdentifier "bootstrap verification producer id" verifierId
  let observationId ← normalizeIdentifier "bootstrap verification observation id" observationId
  return ⟨stage, operationId, sessionId, machineId, verifierId, observationId,
    sha256Hex sha256 canonicalPostcondition, observed⟩

/-- `BootstrapVerificationEvidence::validate_binding` -/
def validateBinding (evidence : BootstrapVerificationEvidence) (active : ActiveBootstrapStage)
    (expectedSessionId expectedMachineId : String) (now : ClockSample) :
    Except DurableBootstrapError Unit := do
  demand (evidence.stage = active.stage ∧ evidence.operationId = active.operationId
      ∧ evidence.sessionId = expectedSessionId ∧ evidence.machineId = expectedMachineId)
    .verificationEvidenceBindingMismatch
  let now ← now
  demand (now ≤ u64Max) (.io "bootstrap verification timestamp exceeds u64")
  demand (evidence.observedUnixMs ≤ saturatingAdd now (30 * 1000)
    ∧ saturatingSub now evidence.observedUnixMs ≤ 5 * 60 * 1000) .verificationEvidenceStale
  demand (isSha256Text evidence.postconditionSha256 = true)
    (.invalidVerificationEvidence "postcondition digest is not SHA-256")

/-- The evidence as it is kept. -/
def toVerification (evidence : BootstrapVerificationEvidence) : CompletedEffectVerification :=
  ⟨evidence.stage, evidence.operationId, evidence.verifierId, evidence.observationId,
    evidence.postconditionSha256, evidence.observedUnixMs⟩

end BootstrapVerificationEvidence

end Linura.Bootstrap
