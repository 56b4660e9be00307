import Linura.Transaction.Binding

/-!
# Sealed requests of the transaction store

The states of a durable transaction, the snapshots the store returns, and the
requests that move a transaction between states.  Requests other than aborts are
sealed: a signer builds them from a snapshot and tags their canonical bytes with
HMAC-SHA256, and the store's verifier recomputes the tag.
-/

namespace Linura.Transaction

open Linura.Lib Linura.Core

/-! ### Keyed hashes -/

variable (sha256 : Sha256)

/-- HMAC over a 64-byte block, for keys no longer than a block. -/
def hmacSha256 (key message : Bytes) : Vector UInt8 32 :=
  let block := key ++ List.replicate (64 - key.length) 0
  let inner := sha256 (block.map (· ^^^ 0x36) ++ message)
  sha256 (block.map (· ^^^ 0x5c) ++ inner.toList)

/-- A key that a signer and a verifier share: 32 bytes, not all zero. -/
structure TransactionAuthorityKey where
  bytes : Bytes
  valid : bytes.length = 32 ∧ ¬ bytes.all (· == 0)

/-- `authority_tag`: the tag of canonical bytes in a domain. -/
def authorityTag (key : TransactionAuthorityKey) (domain : String) (canonical : Bytes) :
    Vector UInt8 32 :=
  hmacSha256 sha256 key.bytes (frames [asBytes domain, canonical])

/-- `verify_authority_tag` -/
def verifyAuthorityTag (key : TransactionAuthorityKey) (domain : String) (canonical : Bytes)
    (tag : Vector UInt8 32) : Bool :=
  authorityTag sha256 key domain canonical == tag

/-! ### States and snapshots -/

inductive TransactionState
  | prepared
  | indeterminate
  | verified
  | committed
  | aborted
  | recoveryBlocked
  deriving DecidableEq, Repr

namespace TransactionState

/-- The stored text of a state. -/
def asStr : TransactionState → String
  | .prepared => "prepared"
  | .indeterminate => "indeterminate"
  | .verified => "verified"
  | .committed => "committed"
  | .aborted => "aborted"
  | .recoveryBlocked => "recovery-blocked"

/-- Read a state from its stored text. -/
def parse (value : String) : Except TransactionValidationError TransactionState :=
  match value with
  | "prepared" => .ok .prepared
  | "indeterminate" => .ok .indeterminate
  | "verified" => .ok .verified
  | "committed" => .ok .committed
  | "aborted" => .ok .aborted
  | "recovery-blocked" => .ok .recoveryBlocked
  | _ => .error .invalidState

@[simp]
theorem parse_asStr (state : TransactionState) : parse state.asStr = .ok state := by
  cases state <;> rfl

end TransactionState

/-- What the store knows about a transaction at one moment. -/
structure TransactionSnapshot where
  transactionId : TransactionId
  principal : PrincipalId
  requestId : RequestId
  currentGeneration : Nat
  stateVersion : Nat
  state : TransactionState
  bindingDigest : ContentDigest
  deriving DecidableEq

/-- The answer to a preparation. -/
inductive PrepareOutcome
  | created (snapshot : TransactionSnapshot)
  | existing (snapshot : TransactionSnapshot)
  deriving DecidableEq

/-- What recovery compares a fresh observation with. -/
structure RecoveryAnchor where
  snapshot : TransactionSnapshot
  requestDigest : ContentDigest
  preconditionDigest : ContentDigest
  deriving DecidableEq

/-- The digests recorded when an effect was verified. -/
structure VerifiedCommitMaterial where
  snapshot : TransactionSnapshot
  desiredStateDigest : ContentDigest
  graphDigest : ContentDigest
  provenanceDigest : ContentDigest
  deriving DecidableEq

/-- Why the store refused a request. -/
inductive TransactionStoreError
  | idempotencyConflict
  | stateConflict
  | notFound
  | capacityExceeded
  | authorityRejected
  | corruption (reason : String)
  | unsupportedSchema (reason : String)
  | storage (reason : String)
  deriving DecidableEq, Repr

/-! ### Requests -/

/-- A sealed request to hand a prepared transaction to an executor. -/
structure HandoffRequest where
  transactionId : TransactionId
  expectedGeneration : Nat
  expectedStateVersion : Nat
  expectedBindingDigest : ContentDigest
  authorityUseDigest : ContentDigest
  authorizedAtUnixMs : Nat
  expiresAtUnixMs : Nat
  authorityTag : Vector UInt8 32
  deriving DecidableEq

def HandoffRequest.canonicalBytes (request : HandoffRequest) : Bytes :=
  frames [asBytes request.transactionId.value, be64 request.expectedGeneration,
    be64 request.expectedStateVersion, asBytes request.expectedBindingDigest.value,
    asBytes request.authorityUseDigest.value, be64 request.authorizedAtUnixMs,
    be64 request.expiresAtUnixMs]

/-- The receipt of a handoff. -/
structure HandoffCommit where
  transactionId : TransactionId
  generation : Nat
  stateVersion : Nat
  bindingDigest : ContentDigest
  authorityUseDigest : ContentDigest
  deriving DecidableEq

/-- What recovery found out about an indeterminate transaction. -/
inductive RecoveryResolution (sha256 : Sha256)
  | intendedStateVerified (observationDigest desiredStateDigest graphDigest provenanceDigest :
      ContentDigest)
  | intendedEffectAbsent (observationDigest : ContentDigest) (nextBinding : AuthorityBinding sha256)
  | conflictingState (observationDigest : ContentDigest)
  | ambiguous (observationDigest : ContentDigest)

def RecoveryResolution.canonicalFields {sha256 : Sha256} : RecoveryResolution sha256 → List Bytes
  | .intendedStateVerified observation desired graph provenance =>
    [asBytes "intended-state-verified", asBytes observation.value, asBytes desired.value,
      asBytes graph.value, asBytes provenance.value]
  | .intendedEffectAbsent observation nextBinding =>
    [asBytes "intended-effect-absent", asBytes observation.value, asBytes nextBinding.digest.value]
  | .conflictingState observation => [asBytes "conflicting-state", asBytes observation.value]
  | .ambiguous observation => [asBytes "ambiguous", asBytes observation.value]

/-- A sealed request to settle an indeterminate transaction. -/
structure RecoveryRequest (sha256 : Sha256) where
  transactionId : TransactionId
  expectedGeneration : Nat
  expectedStateVersion : Nat
  expectedBindingDigest : ContentDigest
  authorizedAtUnixMs : Nat
  expiresAtUnixMs : Nat
  resolution : RecoveryResolution sha256
  authorityTag : Vector UInt8 32

def RecoveryRequest.canonicalBytes {sha256 : Sha256} (request : RecoveryRequest sha256) : Bytes :=
  frames ([asBytes request.transactionId.value, be64 request.expectedGeneration,
    be64 request.expectedStateVersion, asBytes request.expectedBindingDigest.value,
    be64 request.authorizedAtUnixMs, be64 request.expiresAtUnixMs] ++
    request.resolution.canonicalFields)

/-- The answer to a recovery. -/
inductive RecoveryOutcome
  | verified (snapshot : TransactionSnapshot)
  | reprepared (snapshot : TransactionSnapshot)
  | blocked (snapshot : TransactionSnapshot)
  | stillIndeterminate (snapshot : TransactionSnapshot)
  deriving DecidableEq

/-- A sealed request to commit a verified transaction. -/
structure CommitRequest where
  transactionId : TransactionId
  expectedGeneration : Nat
  expectedStateVersion : Nat
  expectedBindingDigest : ContentDigest
  desiredStateDigest : ContentDigest
  graphDigest : ContentDigest
  provenanceDigest : ContentDigest
  authorityTag : Vector UInt8 32
  deriving DecidableEq

def CommitRequest.canonicalBytes (request : CommitRequest) : Bytes :=
  frames [asBytes request.transactionId.value, be64 request.expectedGeneration,
    be64 request.expectedStateVersion, asBytes request.expectedBindingDigest.value,
    asBytes request.desiredStateDigest.value, asBytes request.graphDigest.value,
    asBytes request.provenanceDigest.value]

/-- A request to abort a prepared transaction.  It is not sealed. -/
structure AbortRequest where
  transactionId : TransactionId
  expectedGeneration : Nat
  expectedStateVersion : Nat
  reasonDigest : ContentDigest
  deriving DecidableEq

/-! ### Signing and verifying -/

section Authority

variable (sha256 : Sha256) (key : TransactionAuthorityKey)

/-- `TransactionAuthorityVerifier::verify_handoff` -/
def verifyHandoff (request : HandoffRequest) : Bool :=
  verifyAuthorityTag sha256 key "linura.transaction-authority.handoff.v1" request.canonicalBytes
    request.authorityTag

/-- `TransactionAuthorityVerifier::verify_recovery` -/
def verifyRecovery (request : RecoveryRequest sha256) : Bool :=
  verifyAuthorityTag sha256 key "linura.transaction-authority.recovery.v1" request.canonicalBytes
    request.authorityTag

/-- `TransactionAuthorityVerifier::verify_commit` -/
def verifyCommit (request : CommitRequest) : Bool :=
  verifyAuthorityTag sha256 key "linura.transaction-authority.commit.v1" request.canonicalBytes
    request.authorityTag

variable (snapshot : TransactionSnapshot)

/-- `TransactionAuthoritySigner::authorize_handoff` -/
def authorizeHandoff (authorityUseDigest : ContentDigest) (authorizedAt expiresAt : Nat) :
    Except TransactionValidationError HandoffRequest :=
  if snapshot.state ≠ .prepared ∨ authorityUseDigest = .zero ∨ authorizedAt = 0
      ∨ expiresAt < authorizedAt then .error .invalidAuthorityMutation
  else
    let request : HandoffRequest :=
      { transactionId := snapshot.transactionId
        expectedGeneration := snapshot.currentGeneration
        expectedStateVersion := snapshot.stateVersion
        expectedBindingDigest := snapshot.bindingDigest
        authorityUseDigest := authorityUseDigest
        authorizedAtUnixMs := authorizedAt
        expiresAtUnixMs := expiresAt
        authorityTag := .replicate 32 0 }
    .ok { request with
      authorityTag := authorityTag sha256 key "linura.transaction-authority.handoff.v1"
        request.canonicalBytes }

/-- The conditions that `authorize_recovery` puts on each resolution. -/
def RecoveryResolution.signable {sha256 : Sha256} : RecoveryResolution sha256 → Bool
  | .intendedEffectAbsent _ nextBinding => nextBinding.transactionId = snapshot.transactionId
  | .intendedStateVerified _ desired graph provenance =>
    desired ≠ .zero && graph ≠ .zero && provenance ≠ .zero
  | .conflictingState _ => true
  | .ambiguous _ => true

/-- `TransactionAuthoritySigner::authorize_recovery` -/
def authorizeRecovery (resolution : RecoveryResolution sha256) (authorizedAt expiresAt : Nat) :
    Except TransactionValidationError (RecoveryRequest sha256) :=
  if snapshot.state ≠ .indeterminate ∨ authorizedAt = 0 ∨ expiresAt < authorizedAt then
    .error .invalidAuthorityMutation
  else if !resolution.signable snapshot then .error .invalidAuthorityMutation
  else
    let request : RecoveryRequest sha256 :=
      { transactionId := snapshot.transactionId
        expectedGeneration := snapshot.currentGeneration
        expectedStateVersion := snapshot.stateVersion
        expectedBindingDigest := snapshot.bindingDigest
        authorizedAtUnixMs := authorizedAt
        expiresAtUnixMs := expiresAt
        resolution := resolution
        authorityTag := .replicate 32 0 }
    .ok { request with
      authorityTag := authorityTag sha256 key "linura.transaction-authority.recovery.v1"
        request.canonicalBytes }

/-- `TransactionAuthoritySigner::authorize_commit` -/
def authorizeCommit (desiredStateDigest graphDigest provenanceDigest : ContentDigest) :
    Except TransactionValidationError CommitRequest :=
  if snapshot.state ≠ .verified ∨ desiredStateDigest = .zero ∨ graphDigest = .zero
      ∨ provenanceDigest = .zero then .error .invalidAuthorityMutation
  else
    let request : CommitRequest :=
      { transactionId := snapshot.transactionId
        expectedGeneration := snapshot.currentGeneration
        expectedStateVersion := snapshot.stateVersion
        expectedBindingDigest := snapshot.bindingDigest
        desiredStateDigest := desiredStateDigest
        graphDigest := graphDigest
        provenanceDigest := provenanceDigest
        authorityTag := .replicate 32 0 }
    .ok { request with
      authorityTag := authorityTag sha256 key "linura.transaction-authority.commit.v1"
        request.canonicalBytes }

end Authority

/-! ### Retained requests -/

/-- `MAX_RETAINED_REQUEST_BYTES` -/
def maxRetainedRequestBytes : Nat := 256 * 1024

/-- The canonical bytes of an approved request, kept for recovery after a restart. -/
@[ext]
structure RetainedRequest (sha256 : Sha256) where
  principal : PrincipalId
  requestId : RequestId
  canonical : Bytes
  digest : ContentDigest
  bounded : canonical ≠ [] ∧ canonical.length ≤ maxRetainedRequestBytes
  digest_eq : digest = .ofHash (sha256 canonical)

def RetainedRequest.new (principal : PrincipalId) (requestId : RequestId) (canonical : Bytes) :
    Except TransactionStoreError (RetainedRequest sha256) :=
  if bounded : canonical ≠ [] ∧ canonical.length ≤ maxRetainedRequestBytes then
    .ok ⟨principal, requestId, canonical, .ofHash (sha256 canonical), bounded, rfl⟩
  else .error .capacityExceeded

end Linura.Transaction
