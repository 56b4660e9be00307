import Linura.Transaction.Requests

/-!
# What a seal covers

Handoffs, recoveries and commits are sealed under one key.  The tag covers the name of the
request's kind and its canonical bytes, each after its length, and the canonical bytes are
framed fields in turn.  The bytes under a seal are therefore read in one way only: they
determine the kind of the request and everything in it but the tag.
-/

namespace Linura.Transaction

open Linura.Lib Linura.Core

inductive SealedRequest (sha256 : Sha256)
  | handoff (request : HandoffRequest)
  | recovery (request : RecoveryRequest sha256)
  | commit (request : CommitRequest)

/-- What a resolution says, with the next binding given by its digest. -/
inductive ResolutionContent
  | intendedStateVerified (observationDigest desiredStateDigest graphDigest provenanceDigest :
      ContentDigest)
  | intendedEffectAbsent (observationDigest nextBindingDigest : ContentDigest)
  | conflictingState (observationDigest : ContentDigest)
  | ambiguous (observationDigest : ContentDigest)

/-- What a sealed request says, that is its kind and every field except the tag. -/
inductive SealedContent
  | handoff (transactionId : TransactionId) (expectedGeneration expectedStateVersion : Nat)
      (expectedBindingDigest authorityUseDigest : ContentDigest)
      (authorizedAtUnixMs expiresAtUnixMs : Nat)
  | recovery (transactionId : TransactionId) (expectedGeneration expectedStateVersion : Nat)
      (expectedBindingDigest : ContentDigest) (authorizedAtUnixMs expiresAtUnixMs : Nat)
      (resolution : ResolutionContent)
  | commit (transactionId : TransactionId) (expectedGeneration expectedStateVersion : Nat)
      (expectedBindingDigest desiredStateDigest graphDigest provenanceDigest : ContentDigest)

variable {sha256 : Sha256}

def RecoveryResolution.content : RecoveryResolution sha256 → ResolutionContent
  | .intendedStateVerified observation desired graph provenance =>
    .intendedStateVerified observation desired graph provenance
  | .intendedEffectAbsent observation nextBinding =>
    .intendedEffectAbsent observation nextBinding.digest
  | .conflictingState observation => .conflictingState observation
  | .ambiguous observation => .ambiguous observation

/-- A resolution has at most five fields, all of them short. -/
theorem RecoveryResolution.canonicalFields_bounds (resolution : RecoveryResolution sha256) :
    resolution.canonicalFields.length ≤ 5 ∧
      ∀ field ∈ resolution.canonicalFields, field.length ≤ 256 := by
  cases resolution <;>
    simp [canonicalFields, ContentDigest.utf8ByteSize_value] <;> exact Nat.le_of_ble_eq_true rfl

/-- The fields of a resolution determine its content. -/
theorem RecoveryResolution.content_eq_of_canonicalFields
    {resolution resolution' : RecoveryResolution sha256}
    (same : resolution.canonicalFields = resolution'.canonicalFields) :
    resolution.content = resolution'.content := by
  -- Two variants either differ in their first field, or are the same and agree field by field.
  cases resolution <;> cases resolution' <;>
    simp_all [canonicalFields, content, asBytes_inj, ContentDigest.ext_iff]

namespace SealedRequest

variable {sha256 : Sha256}

def domain : SealedRequest sha256 → String
  | handoff _ => "linura.transaction-authority.handoff.v1"
  | recovery _ => "linura.transaction-authority.recovery.v1"
  | commit _ => "linura.transaction-authority.commit.v1"

/-- `canonical_bytes` -/
def canonicalBytes : SealedRequest sha256 → Bytes
  | handoff request => request.canonicalBytes
  | recovery request => request.canonicalBytes
  | commit request => request.canonicalBytes

def tag : SealedRequest sha256 → Vector UInt8 32
  | handoff request => request.authorityTag
  | recovery request => request.authorityTag
  | commit request => request.authorityTag

/-- The verifier's check for requests of this kind. -/
def verify (key : TransactionAuthorityKey) : SealedRequest sha256 → Bool
  | handoff request => verifyHandoff sha256 key request
  | recovery request => verifyRecovery sha256 key request
  | commit request => verifyCommit sha256 key request

/-- `mutation_mac_input`: the bytes under the seal. -/
def macInput (request : SealedRequest sha256) : Bytes :=
  frames [asBytes request.domain, request.canonicalBytes]

def content : SealedRequest sha256 → SealedContent
  | handoff r => .handoff r.transactionId r.expectedGeneration r.expectedStateVersion
      r.expectedBindingDigest r.authorityUseDigest r.authorizedAtUnixMs r.expiresAtUnixMs
  | recovery r => .recovery r.transactionId r.expectedGeneration r.expectedStateVersion
      r.expectedBindingDigest r.authorizedAtUnixMs r.expiresAtUnixMs r.resolution.content
  | commit r => .commit r.transactionId r.expectedGeneration r.expectedStateVersion
      r.expectedBindingDigest r.desiredStateDigest r.graphDigest r.provenanceDigest

/-- The numbers of a request are unsigned 64-bit numbers. -/
def InRange : SealedRequest sha256 → Prop
  | handoff r => r.expectedGeneration < 2 ^ 64 ∧ r.expectedStateVersion < 2 ^ 64 ∧
      r.authorizedAtUnixMs < 2 ^ 64 ∧ r.expiresAtUnixMs < 2 ^ 64
  | recovery r => r.expectedGeneration < 2 ^ 64 ∧ r.expectedStateVersion < 2 ^ 64 ∧
      r.authorizedAtUnixMs < 2 ^ 64 ∧ r.expiresAtUnixMs < 2 ^ 64
  | commit r => r.expectedGeneration < 2 ^ 64 ∧ r.expectedStateVersion < 2 ^ 64

/-- The request is an answer of the signer that holds the key. -/
def Issued (key : TransactionAuthorityKey) : SealedRequest sha256 → Prop
  | handoff request => ∃ snapshot authorityUse authorizedAt expiresAt,
      authorizeHandoff sha256 key snapshot authorityUse authorizedAt expiresAt = .ok request
  | recovery request => ∃ snapshot resolution authorizedAt expiresAt,
      authorizeRecovery sha256 key snapshot resolution authorizedAt expiresAt = .ok request
  | commit request => ∃ snapshot desired graph provenance,
      authorizeCommit sha256 key snapshot desired graph provenance = .ok request

variable {request : SealedRequest sha256}

/-- The verifier recomputes the tag from the bytes under the seal. -/
theorem verify_eq_true_iff {key : TransactionAuthorityKey} :
    request.verify key = true ↔ hmacSha256 sha256 key.bytes request.macInput = request.tag := by
  cases request <;> exact beq_iff_eq

/-- What the signer issues carries the tag of the bytes under its seal. -/
theorem tag_of_issued {key : TransactionAuthorityKey} (issued : request.Issued key) :
    hmacSha256 sha256 key.bytes request.macInput = request.tag := by
  cases request with
  | handoff request =>
    obtain ⟨snapshot, use, start, deadline, signed⟩ := issued
    unfold authorizeHandoff at signed
    split at signed
    · cases signed
    · obtain rfl := Except.ok.inj signed
      rfl
  | recovery request =>
    obtain ⟨snapshot, resolution, start, deadline, signed⟩ := issued
    unfold authorizeRecovery at signed
    split at signed
    · cases signed
    · split at signed
      · cases signed
      · obtain rfl := Except.ok.inj signed
        rfl
  | commit request =>
    obtain ⟨snapshot, desired, graph, provenance, signed⟩ := issued
    unfold authorizeCommit at signed
    split at signed
    · cases signed
    · obtain rfl := Except.ok.inj signed
      rfl

/-- The fields whose frames are the canonical bytes. -/
def fields : SealedRequest sha256 → List Bytes
  | handoff r => [asBytes r.transactionId.value, be64 r.expectedGeneration,
      be64 r.expectedStateVersion, asBytes r.expectedBindingDigest.value,
      asBytes r.authorityUseDigest.value, be64 r.authorizedAtUnixMs, be64 r.expiresAtUnixMs]
  | recovery r => [asBytes r.transactionId.value, be64 r.expectedGeneration,
      be64 r.expectedStateVersion, asBytes r.expectedBindingDigest.value,
      be64 r.authorizedAtUnixMs, be64 r.expiresAtUnixMs] ++ r.resolution.canonicalFields
  | commit r => [asBytes r.transactionId.value, be64 r.expectedGeneration,
      be64 r.expectedStateVersion, asBytes r.expectedBindingDigest.value,
      asBytes r.desiredStateDigest.value, asBytes r.graphDigest.value,
      asBytes r.provenanceDigest.value]

theorem canonicalBytes_eq (request : SealedRequest sha256) :
    request.canonicalBytes = frames request.fields := by
  cases request <;> rfl

/-- Identities are short and everything else has a fixed length, so that no length wraps. -/
theorem macInput_length_lt (request : SealedRequest sha256) : request.macInput.length < 2 ^ 64 := by
  have short : request.fields.length ≤ 11 ∧ ∀ field ∈ request.fields, field.length ≤ 256 := by
    cases request with
    | handoff r | commit r =>
      have id := r.transactionId.utf8ByteSize_bounds.2
      simp [fields, ContentDigest.utf8ByteSize_value, id]
    | recovery r =>
      have id := r.transactionId.utf8ByteSize_bounds.2
      obtain ⟨count, tail⟩ := r.resolution.canonicalFields_bounds
      refine ⟨?_, ?_⟩
      · simp only [fields, List.length_append, List.length_cons, List.length_nil]
        omega
      · simpa [fields, ContentDigest.utf8ByteSize_value, id] using tail
  have label : (asBytes request.domain).length ≤ 64 := by
    cases request <;> exact Nat.le_of_ble_eq_true rfl
  have record := frames_length_le short.2
  have product : request.fields.length * (8 + 256) ≤ 11 * (8 + 256) :=
    Nat.mul_le_mul_right _ short.1
  rw [macInput, canonicalBytes_eq]
  simp only [frames_cons, frames_nil, List.length_append, frame_length, List.length_nil]
  omega

/-- In one domain, the fields determine the content. -/
theorem content_eq_of_fields {request' : SealedRequest sha256} (inRange : request.InRange)
    (inRange' : request'.InRange) (kind : request.domain = request'.domain)
    (same : request.fields = request'.fields) : request.content = request'.content := by
  cases request <;> cases request' <;> simp only [domain, String.reduceEq] at kind
  case handoff.handoff =>
    obtain ⟨generation, version, start, deadline⟩ := inRange
    obtain ⟨generation', version', start', deadline'⟩ := inRange'
    simpa [fields, content, be64_inj generation generation', be64_inj version version',
      be64_inj start start', be64_inj deadline deadline', TransactionId.ext_iff,
      ContentDigest.ext_iff] using same
  case recovery.recovery =>
    obtain ⟨generation, version, start, deadline⟩ := inRange
    obtain ⟨generation', version', start', deadline'⟩ := inRange'
    simp only [fields, List.cons_append, List.nil_append, List.cons.injEq] at same
    obtain ⟨id, gen, ver, binding, authorized, expires, rest⟩ := same
    have resolutions := RecoveryResolution.content_eq_of_canonicalFields rest
    rw [be64_inj generation generation'] at gen
    rw [be64_inj version version'] at ver
    rw [be64_inj start start'] at authorized
    rw [be64_inj deadline deadline'] at expires
    simp only [content, TransactionId.ext (asBytes_injective id), gen, ver,
      ContentDigest.ext (asBytes_injective binding), authorized, expires, resolutions]
  case commit.commit =>
    obtain ⟨generation, version⟩ := inRange
    obtain ⟨generation', version'⟩ := inRange'
    simpa [fields, content, be64_inj generation generation', be64_inj version version',
      TransactionId.ext_iff, ContentDigest.ext_iff] using same

/-- The bytes under a seal determine the content. -/
theorem content_eq_of_macInput {request' : SealedRequest sha256} (inRange : request.InRange)
    (inRange' : request'.InRange) (same : request.macInput = request'.macInput) :
    request.content = request'.content := by
  have small := request.macInput_length_lt
  rw [macInput, canonicalBytes_eq] at small
  rw [macInput, macInput, canonicalBytes_eq, canonicalBytes_eq] at same
  obtain ⟨labels, sameFields⟩ := sealed_frames_inj [_] [_] small same
  exact content_eq_of_fields inRange inRange'
    (asBytes_injective (List.singleton_inj.mp labels)) sameFields

end SealedRequest

/-- Sealed mutations cannot be re-targeted.  Requests with the same bytes under the seal have the
same content, whatever their kinds are.  If the keyed hash tells the bytes of an issued request from
those of a presented one, then the issued tag is accepted for the issued content only. -/
theorem sealed_content_exact (key : TransactionAuthorityKey)
    (issued presented : SealedRequest sha256) (inRange : issued.InRange)
    (inRange' : presented.InRange) :
    (issued.macInput = presented.macInput → issued.content = presented.content) ∧
      (issued.Issued key →
        Set.InjOn (hmacSha256 sha256 key.bytes) {issued.macInput, presented.macInput} →
        presented.tag = issued.tag → presented.verify key = true →
        presented.content = issued.content) := by
  refine ⟨SealedRequest.content_eq_of_macInput inRange inRange', ?_⟩
  intro signed ideal sameTag accepted
  have stored := SealedRequest.verify_eq_true_iff.mp accepted
  have sameInput : presented.macInput = issued.macInput := by
    apply ideal (by simp) (by simp)
    rw [stored, sameTag, SealedRequest.tag_of_issued signed]
  exact SealedRequest.content_eq_of_macInput inRange' inRange sameInput

/-- A handoff and a commit of one transaction never have the same bytes under the seal. -/
theorem sealed_handoff_ne_commit :
    (@SealedRequest.handoff zeroSha256
        ⟨⟨"t", by decide⟩, 1, 1, .zero, .zero, 1, 2, .replicate 32 0⟩).macInput ≠
      (@SealedRequest.commit zeroSha256
        ⟨⟨"t", by decide⟩, 1, 1, .zero, .zero, .zero, .zero, .replicate 32 0⟩).macInput := by
  intro same
  cases (sealed_content_exact ⟨1 :: List.replicate 31 0, by decide⟩ _ _
    (by simp [SealedRequest.InRange]) (by simp [SealedRequest.InRange])).1 same

end Linura.Transaction
