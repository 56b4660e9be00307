import Linura.Provisioning.Documents

/-!
# The texts of states and anchors

A state is written as fixed lines of the form `name=value` with a trailer that repeats the digest of
the lines; an absent value is written as a dash.  The anchor names the generation and digest of the
state that was committed last, and perhaps of the one that is being committed.

What is written is read back, provided that no identifier is itself a dash: the check of identifiers
accepts a dash, but the reader takes it for an absent value.
-/

namespace Linura.Bootstrap

open Linura.Lib Linura.Transaction

/-! ### Writing a state -/

/-- One line of a text. -/
def fieldLine (name value : String) : String := name ++ "=" ++ value

def optional (value : Option String) : String := value.getD "-"

/-- A list with commas, or a dash if it is empty. -/
def listText (words : List String) : String := if words = [] then "-" else joinWords ',' words

def boolText (value : Bool) : String := if value then "true" else "false"

/-- The six parts of a verification. -/
def CompletedEffectVerification.words (verification : CompletedEffectVerification) : List String :=
  [verification.stage.asStr, verification.operationId, verification.verifierId,
    verification.observationId, verification.postconditionSha256,
      toString verification.observedUnixMs]

/-- The text of a verification. -/
def CompletedEffectVerification.encode (verification : CompletedEffectVerification) : String :=
  joinWords '|' verification.words

def activeLines : Option ActiveBootstrapStage → List String
  | some active => [fieldLine "active_stage" active.stage.asStr,
      fieldLine "active_operation" active.operationId,
        fieldLine "active_effect" active.effectState.asStr]
  | none => [fieldLine "active_stage" "-", fieldLine "active_operation" "-",
      fieldLine "active_effect" "-"]

variable (provisioning : ProvisioningState)

def manifestLines : List String :=
  [fieldLine "provisioning_mode" ((provisioning.mode.map ProvisioningMode.asStr).getD "-"),
    fieldLine "manifest_identity" (optional provisioning.manifestIdentity),
    fieldLine "manifest_id" (optional provisioning.manifestId),
    fieldLine "manifest_connectivity"
      ((provisioning.manifestConnectivity.map BootstrapConnectivity.asStr).getD "-"),
    fieldLine "manifest_defer_owner_enrollment"
      ((provisioning.manifestDeferOwnerEnrollment.map boolText).getD "-"),
    fieldLine "manifest_source_ref" (optional provisioning.manifestSourceRef),
    fieldLine "manifest_setup_ref" (optional provisioning.manifestSetupRef),
    fieldLine "manifest_machine_profile_ref" (optional provisioning.manifestMachineProfileRef),
    fieldLine "manifest_host_identity" (optional provisioning.manifestHostIdentity)]

/-- The identity of an owner as it is written. -/
def ownerTexts : Option OwnerAuthorityRecord → String × String × String
  | some authority => (authority.ownerId, authority.enrollmentId, toString authority.generation)
  | none => ("-", "-", "0")

/-- The lines about the plan and the owner. -/
def ownerLines : List String :=
  [fieldLine "first_boot_plan_sha256" (optional provisioning.firstBootPlanSha256),
    fieldLine "first_boot_plan_count" (toString provisioning.firstBootPlanCount.toNat),
    fieldLine "owner_enrollment" provisioning.ownerEnrollment.asStr,
    fieldLine "owner_id" (ownerTexts provisioning.ownerAuthority).1,
    fieldLine "owner_enrollment_id" (ownerTexts provisioning.ownerAuthority).2.1,
    fieldLine "authority_generation" (toString provisioning.authorityGeneration),
    fieldLine "owner_authority_generation" (ownerTexts provisioning.ownerAuthority).2.2,
    fieldLine "preparer_authority_retired" (boolText provisioning.preparerAuthorityRetired)]

/-- `MAX_BOOTSTRAP_STATE_BYTES` -/
def maxBootstrapStateBytes : Nat := 64 * 1024

/-- `BOOTSTRAP_STATE_SCHEMA` -/
def stateSchema : String := "linura-bootstrap-state-v1"

def stageLines (state : DurableBootstrapState) : List String :=
  [fieldLine "generation" (toString state.generation), fieldLine "session_id" state.sessionId,
    fieldLine "machine_id" state.machineId,
    fieldLine "completed" (listText (state.completed.map BootstrapStage.asStr)),
    fieldLine "effect_verifications"
      (listText (state.effectVerifications.map CompletedEffectVerification.encode))]

def stateLines (state : DurableBootstrapState) : List String :=
  stateSchema :: (stageLines state ++ activeLines state.active ++ manifestLines state.provisioning
    ++ ownerLines state.provisioning)

variable (sha256 : Sha256)

/-- Lines with a trailer that repeats their digest. -/
def sealLines (list : List String) : Bytes :=
  asBytes
    (unlines list ++ ("integrity" ++ "=" ++ sha256Hex sha256 (asBytes (unlines list)) ++ "\n"))

/-- `serialize_state` -/
def serializeState (state : DurableBootstrapState) : Bytes :=
  sealLines sha256 (stateLines state)

/-! ### Reading a state -/

variable (value : String)

/-- `parse_stage` -/
def parseStage : Except DurableBootstrapError BootstrapStage :=
  (BootstrapStage.ordered.find? (·.asStr = value)).elim
    (.error (.corruptState "unknown bootstrap stage"))
    .ok

def OwnerEnrollmentState.parse : Except DurableBootstrapError OwnerEnrollmentState :=
  ([OwnerEnrollmentState.unresolved, .pending, .enrolled, .recoveryResolved].find?
    (·.asStr = value)).elim
    (.error (.corruptState "unknown owner-enrollment state")) .ok

def BootstrapEffectState.parse : Except DurableBootstrapError BootstrapEffectState :=
  ([BootstrapEffectState.prepared, .effectStarted].find? (·.asStr = value)).elim
    (.error (.corruptState "unknown bootstrap effect state")) .ok

def parseNumber (bound : Nat) (error value : String) : Except DurableBootstrapError Nat :=
  (parseUnsigned bound value).elim (.error (.corruptState error)) .ok

/-- A value that may be absent. -/
def parseOptional {α : Type} (parse : String → Except DurableBootstrapError α) (value : String) :
    Except DurableBootstrapError (Option α) :=
  if value = "-" then .ok none else some <$> parse value

/-- A digest, or an error. -/
def parseSha256 (error value : String) : Except DurableBootstrapError String := do
  demand (isSha256Text value = true) (.corruptState error)
  return value

def parseBool (error value : String) : Except DurableBootstrapError Bool :=
  if value = "true" then .ok true
  else if value = "false" then .ok false
  else .error (.corruptState error)

/-- `state_field` -/
def stateField (name : String) : LineReader String :=
  LineReader.field name (.corruptState ("missing " ++ name ++ " field"))
    (.corruptState ("invalid " ++ name ++ " field"))

def stateFieldWith {α : Type} (name : String) (parse : String → Except DurableBootstrapError α) :
    LineReader α := do
  let value ← stateField name
  parse value

/-- The next part of a verification. -/
def verificationWord (error : String) : LineReader String := do
  match ← LineReader.next with
  | none => throw (.corruptState error)
  | some word => return word

/-- The parts of a verification. -/
def readVerification : LineReader CompletedEffectVerification := do
  let stage ← parseStage (← verificationWord "effect verification lacks stage")
  let operationId ← normalizeIdentifier "verified bootstrap operation id"
    (← verificationWord "effect verification lacks operation id")
  let verifierId ← normalizeIdentifier "bootstrap verifier id"
    (← verificationWord "effect verification lacks verifier id")
  let observationId ← normalizeIdentifier "bootstrap observation id"
    (← verificationWord "effect verification lacks observation id")
  let postconditionSha256 ← verificationWord "effect verification lacks postcondition digest"
  let observedUnixMs ← parseNumber (2 ^ 64) "effect verification timestamp is invalid"
    (← verificationWord "effect verification lacks observation timestamp")
  LineReader.finish (.corruptState "effect verification contains unexpected fields")
  let verification : CompletedEffectVerification :=
    ⟨stage, operationId, verifierId, observationId, postconditionSha256, observedUnixMs⟩
  verification.validate
  return verification

/-- A verification from its text. -/
def CompletedEffectVerification.decode (encoded : String) :
    Except DurableBootstrapError CompletedEffectVerification := do
  let (verification, _) ← readVerification.run (splitAll encoded '|')
  return verification

/-- A list from its text. -/
def parseList {α : Type} (parse : String → Except DurableBootstrapError α) (value : String) :
    Except DurableBootstrapError (List α) :=
  if value = "-" then .ok [] else (splitAll value ',').mapM parse

def parseCompleted : Except DurableBootstrapError (List BootstrapStage) := do
  let completed ← parseList parseStage value
  demand (completed.length ≤ BootstrapStage.ordered.length)
    (.corruptState "too many completed bootstrap stages")
  return completed

/-- The active stage from its three texts. -/
def parseActive (stage operation effect : String) :
    Except DurableBootstrapError (Option ActiveBootstrapStage) :=
  if stage = "-" ∧ operation = "-" ∧ effect = "-" then .ok none
  else if stage ≠ "-" ∧ operation ≠ "-" ∧ effect ≠ "-" then do
    let stage ← parseStage stage
    let operationId ← normalizeIdentifier "bootstrap operation id" operation
    let effectState ← BootstrapEffectState.parse effect
    return some ⟨stage, operationId, effectState⟩
  else .error (.corruptState "active bootstrap stage fields must be present together")

def readActive : LineReader (Option ActiveBootstrapStage) := do
  let stage ← stateField "active_stage"
  let operation ← stateField "active_operation"
  let effect ← stateField "active_effect"
  parseActive stage operation effect

def parsePersistedMode : Except DurableBootstrapError ProvisioningMode :=
  (ProvisioningMode.ofText? value).elim (.error (.corruptState "unknown provisioning mode")) .ok

def parsePersistedConnectivity : Except DurableBootstrapError BootstrapConnectivity :=
  (BootstrapConnectivity.ofText? value).elim
    (.error (.corruptState "unknown persisted manifest connectivity")) .ok

/-- The mode and the manifest; the rest of the provisioning state is read later. -/
def readManifest : LineReader ProvisioningState := do
  let mode ← stateFieldWith "provisioning_mode" (parseOptional parsePersistedMode)
  let manifestIdentity ← stateFieldWith "manifest_identity"
    (parseOptional (parseSha256 "manifest identity is not SHA-256"))
  let manifestId ← stateFieldWith "manifest_id" (parseOptional (normalizeIdentifier "manifest_id"))
  let manifestConnectivity ← stateFieldWith "manifest_connectivity"
    (parseOptional parsePersistedConnectivity)
  let manifestDeferOwnerEnrollment ← stateFieldWith "manifest_defer_owner_enrollment"
    (parseOptional (parseBool "invalid persisted manifest owner-defer selection"))
  let manifestSourceRef ← stateFieldWith "manifest_source_ref"
    (parseOptional (normalizeIdentifier "manifest source_ref"))
  let manifestSetupRef ← stateFieldWith "manifest_setup_ref"
    (parseOptional (normalizeIdentifier "manifest setup_ref"))
  let manifestMachineProfileRef ← stateFieldWith "manifest_machine_profile_ref"
    (parseOptional (normalizeIdentifier "manifest machine_profile_ref"))
  let manifestHostIdentity ← stateFieldWith "manifest_host_identity"
    (parseOptional (normalizeIdentifier "manifest host_identity"))
  return {
    mode := mode
    manifestIdentity := manifestIdentity
    manifestId := manifestId
    manifestConnectivity := manifestConnectivity
    manifestDeferOwnerEnrollment := manifestDeferOwnerEnrollment
    manifestSourceRef := manifestSourceRef
    manifestSetupRef := manifestSetupRef
    manifestMachineProfileRef := manifestMachineProfileRef
    manifestHostIdentity := manifestHostIdentity }

/-- The authority of the owner from its three values. -/
def parseOwnerAuthority (owner enrollment : String) (generation : Nat) :
    Except DurableBootstrapError (Option OwnerAuthorityRecord) :=
  if owner = "-" ∧ enrollment = "-" ∧ generation = 0 then .ok none
  else if owner ≠ "-" ∧ enrollment ≠ "-" ∧ 0 < generation then do
    let ownerId ← normalizeIdentifier "owner id" owner
    let enrollmentId ← normalizeIdentifier "owner enrollment id" enrollment
    return some ⟨ownerId, enrollmentId, generation⟩
  else .error (.corruptState "owner authority fields must be present together")

/-- The plan and the owner, which end the text. -/
def readOwner : LineReader ProvisioningState := do
  let firstBootPlanSha256 ← stateFieldWith "first_boot_plan_sha256"
    (parseOptional (parseSha256 "invalid First Boot plan SHA-256 binding"))
  let firstBootPlanCount ← stateFieldWith "first_boot_plan_count"
    (parseNumber (2 ^ 32) "invalid First Boot plan count")
  let ownerEnrollment ← stateFieldWith "owner_enrollment" OwnerEnrollmentState.parse
  let owner ← stateField "owner_id"
  let enrollment ← stateField "owner_enrollment_id"
  let authorityGeneration ← stateFieldWith "authority_generation"
    (parseNumber (2 ^ 64) "invalid authority generation")
  let generation ← stateFieldWith "owner_authority_generation"
    (parseNumber (2 ^ 64) "invalid owner authority generation")
  let preparerAuthorityRetired ← stateFieldWith "preparer_authority_retired"
    (parseBool "invalid preparer-authority-retired flag")
  LineReader.finish (.corruptState "unexpected durable bootstrap state field")
  let ownerAuthority ← parseOwnerAuthority owner enrollment generation
  return { provisioning with
    firstBootPlanSha256 := firstBootPlanSha256
    firstBootPlanCount := .ofNat firstBootPlanCount
    ownerEnrollment := ownerEnrollment
    ownerAuthority := ownerAuthority
    authorityGeneration := authorityGeneration
    preparerAuthorityRetired := preparerAuthorityRetired }

def readState : LineReader DurableBootstrapState := do
  LineReader.expect stateSchema .unsupportedStateVersion
  let generation ← stateFieldWith "generation" (parseNumber (2 ^ 64) "invalid generation")
  let sessionId ← stateFieldWith "session_id" (normalizeIdentifier "bootstrap session id")
  let machineId ← stateFieldWith "machine_id" (normalizeIdentifier "machine id")
  let completed ← stateFieldWith "completed" parseCompleted
  let effectVerifications ← stateFieldWith "effect_verifications"
    (parseList CompletedEffectVerification.decode)
  let active ← readActive
  let manifest ← readManifest
  let provisioning ← readOwner manifest
  return ⟨generation, sessionId, machineId, completed, effectVerifications, active, provisioning⟩

/-- The checks of `parse_state` on the digest. -/
def checkStateIntegrity (payload expected : String) : Except DurableBootstrapError Unit := do
  demand (isSha256Text expected = true) (.corruptState "invalid state integrity digest")
  demand (sha256Hex sha256 (asBytes payload) = expected) .stateIntegrityMismatch

/-- `parse_state` -/
def parseState (bytes : Bytes) : Except DurableBootstrapError DurableBootstrapState :=
  match fromUtf8 bytes with
  | none => .error (.corruptState "state is not UTF-8")
  | some text => do
    let payload ← openTrailer text "integrity" (.corruptState "state integrity record is missing")
      (.corruptState "invalid integrity record") (checkStateIntegrity sha256)
    let (state, _) ← readState.run (lines payload)
    state.validate
    return state

/-! ### Anchors -/

structure GenerationAnchor where
  committedGeneration : Nat
  committedStateSha256 : String
  pendingGeneration : Option Nat
  pendingStateSha256 : Option String
  deriving DecidableEq, Repr

/-- `bootstrap_state_digest` -/
def stateDigest (state : DurableBootstrapState) : String :=
  sha256Hex sha256 (serializeState sha256 state)

def GenerationAnchor.committed (state : DurableBootstrapState) : GenerationAnchor :=
  ⟨state.generation, stateDigest sha256 state, none, none⟩

/-- `GenerationAnchor::with_pending` -/
def GenerationAnchor.withPending (current candidate : DurableBootstrapState) :
    Except DurableBootstrapError GenerationAnchor := do
  demand (candidate.generation = saturatingAdd current.generation 1)
    (.corruptGenerationAnchor "pending anchor transition is not the next ledger generation")
  return ⟨current.generation, stateDigest sha256 current,
    some candidate.generation, some (stateDigest sha256 candidate)⟩

/-- `validate_anchor_sha256` -/
def validateAnchorSha256 : Except DurableBootstrapError Unit :=
  demand (isSha256Text value = true)
    (.corruptGenerationAnchor "generation anchor contains an invalid state SHA-256")

variable (anchor : GenerationAnchor)

def GenerationAnchor.validate : Except DurableBootstrapError Unit := do
  validateAnchorSha256 anchor.committedStateSha256
  match anchor.pendingGeneration, anchor.pendingStateSha256 with
  | none, none => .ok ()
  | some generation, some digest => do
    demand (generation = saturatingAdd anchor.committedGeneration 1) (.corruptGenerationAnchor
      "pending generation does not immediately follow committed generation")
    validateAnchorSha256 digest
  | _, _ => .error (.corruptGenerationAnchor "pending generation/digest must be present together")

/-- `GENERATION_ANCHOR_MAGIC` -/
def anchorMagic : String := "linura-bootstrap-generation-anchor-v2"

def anchorLines : List String :=
  [anchorMagic, fieldLine "committed_generation" (toString anchor.committedGeneration),
    fieldLine "committed_state_sha256" anchor.committedStateSha256,
    fieldLine "pending_generation" (optional (anchor.pendingGeneration.map toString)),
    fieldLine "pending_state_sha256" (optional anchor.pendingStateSha256)]

/-- `serialize_generation_anchor` -/
def serializeGenerationAnchor : Bytes :=
  sealLines sha256 (anchorLines anchor)

def anchorField (name lacking : String) : LineReader String :=
  LineReader.field name (.corruptGenerationAnchor lacking) (.corruptGenerationAnchor lacking)

/-- A generation of an anchor. -/
def parseGeneration (error value : String) : Except DurableBootstrapError Nat :=
  (parseUnsigned (2 ^ 64) value).elim (.error (.corruptGenerationAnchor error)) .ok

def readGenerationAnchor : LineReader GenerationAnchor := do
  LineReader.expect anchorMagic .unsupportedGenerationAnchorVersion
  let committed ← anchorField "committed_generation" "generation anchor lacks committed generation"
  let committedGeneration ←
    parseGeneration "generation anchor contains an invalid committed generation" committed
  let committedStateSha256 ← anchorField "committed_state_sha256"
    "generation anchor lacks committed state digest"
  let generation ← anchorField "pending_generation" "generation anchor lacks pending generation"
  let digest ← anchorField "pending_state_sha256" "generation anchor lacks pending state digest"
  LineReader.finish (.corruptGenerationAnchor "generation anchor contains unexpected fields")
  let pendingGeneration ← parseOptional
    (parseGeneration "generation anchor contains an invalid pending generation") generation
  let pendingStateSha256 ← parseOptional .ok digest
  return ⟨committedGeneration, committedStateSha256, pendingGeneration, pendingStateSha256⟩

/-- The checks of `parse_generation_anchor` on the digest. -/
def checkAnchorIntegrity (payload expected : String) : Except DurableBootstrapError Unit := do
  validateAnchorSha256 expected
  demand (sha256Hex sha256 (asBytes payload) = expected) .generationAnchorIntegrityMismatch

/-- `parse_generation_anchor` -/
def parseGenerationAnchor (bytes : Bytes) : Except DurableBootstrapError GenerationAnchor := do
  demand (bytes.length ≤ 4096)
    (.corruptGenerationAnchor "generation anchor exceeds the supported byte bound")
  match fromUtf8 bytes with
  | none => .error (.corruptGenerationAnchor "generation anchor is not UTF-8")
  | some text => do
    let payload ← openTrailer text "integrity"
      (.corruptGenerationAnchor "generation anchor integrity record is missing")
      (.corruptGenerationAnchor "generation anchor integrity record is malformed")
      (checkAnchorIntegrity sha256)
    let (anchor, _) ← readGenerationAnchor.run (lines payload)
    anchor.validate
    return anchor

end Linura.Bootstrap
