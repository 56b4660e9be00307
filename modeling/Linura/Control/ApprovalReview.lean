import Linura.Control.Approval
import Linura.Lib.BTreeMap
import Linura.Lib.Words
import Linura.Policy.Review

/-!
# The approval registry of Control

`ApprovalReviewControl` issues approval evidence for reviews, validates and revokes it.
Evidence that expired or was revoked is reclaimed before the next issue, and leaves a
tombstone that refuses its request identity for a day.  The clock is read anew by every
call; a sample earlier than one before is an error.
-/

namespace Linura.Control

open Linura.Lib Linura.Core Linura.Policy

/-- `MAX_APPROVAL_ENTRIES` -/
def maxApprovalEntries : Nat := 256
/-- `MAX_APPROVAL_ENTRY_BYTES` -/
def maxApprovalEntryBytes : Nat := 256 * 1024
/-- `MAX_APPROVAL_TOTAL_BYTES` -/
def maxApprovalTotalBytes : Nat := 4 * 1024 * 1024
/-- `MAX_APPROVAL_TOMBSTONES` -/
def maxApprovalTombstones : Nat := 4096
/-- `MAX_APPROVAL_TOMBSTONE_BYTES` -/
def maxApprovalTombstoneBytes : Nat := 2 * 1024 * 1024
/-- `APPROVAL_TOMBSTONE_RETENTION_SECONDS` -/
def approvalTombstoneRetentionSeconds : Nat := maxApprovalTtlSeconds
/-- `APPROVAL_RECORD_OVERHEAD_BYTES` -/
def approvalRecordOverheadBytes : Nat := 256
/-- `APPROVAL_TOMBSTONE_OVERHEAD_BYTES` -/
def approvalTombstoneOverheadBytes : Nat := 64

abbrev PolicyApprovalEvidence := ApprovalEvidence PolicyEvaluation ApprovalClass
abbrev PolicyAuthenticatedApprover := AuthenticatedApprover ApprovalClass

/-- `TrustedPolicyReview`: an evaluation that Control made itself. -/
structure TrustedPolicyReview where
  evaluation : PolicyEvaluation
  deriving DecidableEq

inductive ApprovalRequirementError
  | notRequired
  | notApprovable
  deriving DecidableEq, Repr

/-- `required_approval_class` -/
def requiredApprovalClass (review : TrustedPolicyReview) :
    Except ApprovalRequirementError ApprovalClass :=
  match review.evaluation.decision with
  | .requireApproval approvalClass _ => .ok approvalClass
  | .allow => .error .notRequired
  | .deny _ | .blocked _ => .error .notApprovable

inductive PolicyApprovalIssueError
  | requirement (reason : ApprovalRequirementError)
  | evidence (reason : ApprovalIssueError ApprovalClass)
  deriving DecidableEq

/-- `validate_policy_approval` -/
def validatePolicyApproval (evidence : PolicyApprovalEvidence) (review : TrustedPolicyReview)
    (now : Nat) (revocation : Option ApprovalRevocation) : ApprovalValidation :=
  match requiredApprovalClass review with
  | .error _ => .bindingMismatch
  | .ok approvalClass => validateApproval evidence review.evaluation approvalClass now revocation

/-- The texts whose lengths `approval_binding_bytes` adds up. -/
def approvalBindingTexts (evaluation : PolicyEvaluation) : List String :=
  let subject := evaluation.subject
  let binding := evaluation.binding
  [subject.principal.value, subject.planId.value, subject.requestId.value, subject.actor.id.value,
    subject.provider.value, subject.resource.value, subject.capability.value,
    subject.observedEvidenceId, subject.reason.summary] ++
  subject.reason.intentIds.map (·.value) ++
  subject.reason.requirementIds.map (·.value) ++
  subject.reason.capabilityIds.map (·.value) ++
  subject.changes.flatMap (fun change => change.key :: change.current.toList ++ [change.desired]) ++
  subject.findings.flatMap (fun finding => [finding.code, finding.message]) ++
  [binding.principal.value, binding.planId.value, binding.requestId.value,
    binding.observedEvidenceId, binding.provider.value, binding.resource.value,
    binding.capability.value, binding.policyId.value, binding.policyRevisionId.value] ++
  match evaluation.decision with
  | .allow => []
  | .deny reason | .requireApproval _ reason | .blocked reason => [reason]

/-- `approval_binding_bytes` -/
def approvalBindingBytes (evaluation : PolicyEvaluation) : Nat :=
  (approvalBindingTexts evaluation).foldl
    (fun total text => saturatingAdd total text.utf8ByteSize) 0

/-- `approval_tombstone_bytes` -/
def approvalTombstoneBytes (requestId : ApprovalRequestId) : Nat :=
  saturatingAdd requestId.value.utf8ByteSize approvalTombstoneOverheadBytes

structure ApprovalRecord where
  evidence : PolicyApprovalEvidence
  revocation : Option ApprovalRevocation
  accountedBytes : Nat
  deriving DecidableEq

structure ApprovalTombstone where
  retiredAtUnixSeconds : Nat
  accountedBytes : Nat
  deriving DecidableEq

/-- A record that was revoked or has expired. -/
def ApprovalRecord.isInactive (record : ApprovalRecord) (now : Nat) : Bool :=
  record.revocation.isSome || record.evidence.expiresAtUnixSeconds ≤ now

/-- A tombstone that has been kept long enough. -/
def ApprovalTombstone.isExpired (tombstone : ApprovalTombstone) (now : Nat) : Bool :=
  saturatingAdd tombstone.retiredAtUnixSeconds approvalTombstoneRetentionSeconds ≤ now

inductive ApprovalControlError
  | issue (reason : PolicyApprovalIssueError)
  | invalidEvidenceId (reason : ValidationError)
  | idempotencyConflict
  | capacityExceeded
  | entryTooLarge
  | totalCapacityExceeded
  | tombstoneCapacityExceeded
  | tombstoneTotalCapacityExceeded
  | sequenceExhausted
  | evidenceNotFound
  | revokerNotAuthorized
  | clockUnavailable
  | clockRollback
  deriving DecidableEq

/-- `ApprovalReviewControl`, without its clock. -/
structure ApprovalReviewControl where
  lastAuthorityUnixSeconds : Nat
  records : BTreeMap ApprovalEvidenceId ApprovalRecord
  requests : BTreeMap ApprovalRequestId ApprovalEvidenceId
  tombstones : BTreeMap ApprovalRequestId ApprovalTombstone
  nextEvidenceSequence : Nat
  totalAccountedBytes : Nat
  tombstoneAccountedBytes : Nat

namespace ApprovalReviewControl

/-- `ApprovalReviewControl::with_clock` -/
def new : ApprovalReviewControl := ⟨0, .empty, .empty, .empty, 0, 0, 0⟩

variable (control : ApprovalReviewControl)

variable (sample : Option Nat)

/-- `authority_now_unix_seconds`, for a sample that is absent if the clock is before 1970.  The
latest time is kept even if the sample is refused. -/
def authorityNowUnixSeconds : Except ApprovalControlError Nat × ApprovalReviewControl :=
  match sample with
  | none => (.error .clockUnavailable, control)
  | some sampled =>
    let previous := control.lastAuthorityUnixSeconds
    let control := { control with lastAuthorityUnixSeconds := max previous sampled }
    if sampled < previous then (.error .clockRollback, control) else (.ok sampled, control)

variable (requestId : ApprovalRequestId)

/-- Forget a tombstone and its bytes. -/
def removeTombstone : ApprovalReviewControl :=
  match control.tombstones.get? requestId with
  | some tombstone =>
    { control with
      tombstones := control.tombstones.remove requestId
      tombstoneAccountedBytes :=
        saturatingSub control.tombstoneAccountedBytes tombstone.accountedBytes }
  | none => control

variable (now : Nat)

/-- `prune_tombstones` -/
def pruneTombstones : ApprovalReviewControl :=
  let expired := (control.tombstones.entries.filter fun entry =>
    entry.2.isExpired now).map Prod.fst
  expired.foldl removeTombstone control

/-- Replace a record by a tombstone. -/
def retire (candidate : ApprovalEvidenceId × ApprovalRequestId × Nat) : ApprovalReviewControl :=
  let (evidenceId, requestId, accountedBytes) := candidate
  match control.records.get? evidenceId with
  | some record =>
    { control with
      records := control.records.remove evidenceId
      requests := control.requests.remove requestId
      totalAccountedBytes := saturatingSub control.totalAccountedBytes record.accountedBytes
      tombstones := control.tombstones.insert requestId ⟨now, accountedBytes⟩
      tombstoneAccountedBytes := saturatingAdd control.tombstoneAccountedBytes accountedBytes }
  | none => control

/-- The records that `reclaim_inactive` retires, with the bytes of their tombstones. -/
def candidates : List (ApprovalEvidenceId × ApprovalRequestId × Nat) :=
  (control.records.entries.filter fun entry => entry.2.isInactive now).map fun entry =>
    (entry.1, entry.2.evidence.requestId, approvalTombstoneBytes entry.2.evidence.requestId)

/-- The capacities that `reclaim_inactive` checks before it retires anything. -/
def checkTombstoneCapacity (candidates : List (ApprovalEvidenceId × ApprovalRequestId × Nat)) :
    Except ApprovalControlError Unit := do
  let newTombstoneCount ←
    (checkedAdd control.tombstones.len candidates.length).elim
      (.error .tombstoneCapacityExceeded) .ok
  if maxApprovalTombstones < newTombstoneCount then throw .tombstoneCapacityExceeded
  let candidateBytes ← candidates.foldlM (fun total candidate =>
    (checkedAdd total candidate.2.2).elim (.error .tombstoneTotalCapacityExceeded) .ok) 0
  let newTombstoneBytes ← (checkedAdd control.tombstoneAccountedBytes candidateBytes).elim
    (.error .tombstoneTotalCapacityExceeded) .ok
  if maxApprovalTombstoneBytes < newTombstoneBytes then throw .tombstoneTotalCapacityExceeded

/-- `reclaim_inactive` -/
def reclaimInactive : Except ApprovalControlError Unit × ApprovalReviewControl :=
  let control := control.pruneTombstones now
  let candidates := control.candidates now
  if candidates.isEmpty then (.ok (), control)
  else
    match control.checkTombstoneCapacity candidates with
    | .error reason => (.error reason, control)
    | .ok () => (.ok (), candidates.foldl (fun control => control.retire now) control)

/-- The evidence identity of a sequence number, with 16 hexadecimal digits. -/
def evidenceIdText (sequence : Nat) : String := "approval:evidence:" ++ hexEncode (be64 sequence)

variable (review : TrustedPolicyReview) (approver : PolicyAuthenticatedApprover)

/-- The bytes that a new record is accounted for. -/
def recordBytes : Nat :=
  saturatingAdd (saturatingAdd (saturatingAdd (approvalBindingBytes review.evaluation)
    requestId.value.utf8ByteSize) approver.principal.value.utf8ByteSize) approvalRecordOverheadBytes

/-- The part of `issue_at` for a request identity that is not in use. -/
def issueNew (approvalClass : ApprovalClass) (issuedAt expiresAt : Nat) :
    Except ApprovalControlError PolicyApprovalEvidence × ApprovalReviewControl :=
  let accountedBytes := recordBytes requestId review approver
  if maxApprovalEntryBytes < accountedBytes then (.error .entryTooLarge, control)
  else if maxApprovalEntries ≤ control.records.len then (.error .capacityExceeded, control)
  else
    match checkedAdd control.totalAccountedBytes accountedBytes with
    | none => (.error .totalCapacityExceeded, control)
    | some newTotal =>
      if maxApprovalTotalBytes < newTotal then (.error .totalCapacityExceeded, control)
      else
        match TypedId.new "approval evidence id" (evidenceIdText control.nextEvidenceSequence) with
        | .error reason => (.error (.invalidEvidenceId reason), control)
        | .ok evidenceId =>
          match checkedAdd control.nextEvidenceSequence 1 with
          | none => (.error .sequenceExhausted, control)
          | some nextSequence =>
            -- the sequence number is used up, whether or not evidence is issued
            let control := { control with nextEvidenceSequence := nextSequence }
            match ApprovalEvidence.tryIssue evidenceId requestId ⟨approvalClass, review.evaluation⟩
                approver issuedAt expiresAt with
            | .error reason => (.error (.issue (.evidence reason)), control)
            | .ok evidence =>
              (.ok evidence,
                { control with
                  requests := control.requests.insert requestId evidenceId
                  records := control.records.insert evidenceId ⟨evidence, none, accountedBytes⟩
                  totalAccountedBytes := newTotal })

/-- The part of `issue_at` for a request identity that has evidence. -/
def issueExisting (existingId : ApprovalEvidenceId) (review : TrustedPolicyReview)
    (approver : PolicyAuthenticatedApprover) (approvalClass : ApprovalClass) (expiresAt : Nat) :
    Except ApprovalControlError PolicyApprovalEvidence :=
  match control.records.get? existingId with
  | none => .error .idempotencyConflict
  | some existing =>
    if existing.evidence.requirement.binding = review.evaluation ∧
        existing.evidence.requirement.approvalClass = approvalClass ∧
        existing.evidence.approver = approver.principal ∧
        existing.evidence.expiresAtUnixSeconds = expiresAt then .ok existing.evidence
    else .error .idempotencyConflict

/-- `issue_at` -/
def issueAt (issuedAt expiresAt : Nat) :
    Except ApprovalControlError PolicyApprovalEvidence × ApprovalReviewControl :=
  match control.reclaimInactive issuedAt with
  | (.error reason, control) => (.error reason, control)
  | (.ok (), control) =>
    if control.tombstones.containsKey requestId then (.error .idempotencyConflict, control)
    else
      match requiredApprovalClass review with
      | .error reason => (.error (.issue (.requirement reason)), control)
      | .ok approvalClass =>
        match control.requests.get? requestId with
        | some existingId =>
          (control.issueExisting existingId review approver approvalClass expiresAt, control)
        | none => control.issueNew requestId review approver approvalClass issuedAt expiresAt

def issue (expiresAt : Nat) :
    Except ApprovalControlError PolicyApprovalEvidence × ApprovalReviewControl :=
  match control.authorityNowUnixSeconds sample with
  | (.error reason, control) => (.error reason, control)
  | (.ok now, control) => control.issueAt requestId review approver now expiresAt

variable (evidenceId : ApprovalEvidenceId)

/-- `validate_at` -/
def validateAt (review : TrustedPolicyReview) (now : Nat) : ApprovalValidation :=
  match control.records.get? evidenceId with
  | none => .bindingMismatch
  | some record => validatePolicyApproval record.evidence review now record.revocation

def validate (review : TrustedPolicyReview) :
    Except ApprovalControlError ApprovalValidation × ApprovalReviewControl :=
  match control.authorityNowUnixSeconds sample with
  | (.error reason, control) => (.error reason, control)
  | (.ok now, control) => (.ok (control.validateAt evidenceId review now), control)

/-- `revoke_at` -/
def revokeAt (revoker : PolicyAuthenticatedApprover) (now : Nat) :
    Except ApprovalControlError Unit × ApprovalReviewControl :=
  match control.records.get? evidenceId with
  | none => (.error .evidenceNotFound, control)
  | some record =>
    if !revoker.canSatisfy record.evidence.requirement.approvalClass then
      (.error .revokerNotAuthorized, control)
    else if record.revocation.isNone then
      (.ok (), { control with
        records := control.records.insert evidenceId
          { record with revocation := some ⟨revoker.principal, now⟩ } })
    else (.ok (), control)

def revoke (revoker : PolicyAuthenticatedApprover) :
    Except ApprovalControlError Unit × ApprovalReviewControl :=
  match control.authorityNowUnixSeconds sample with
  | (.error reason, control) => (.error reason, control)
  | (.ok now, control) => control.revokeAt evidenceId revoker now

end ApprovalReviewControl

/-! ### Runs -/

/-- A call, with the clock it samples. -/
inductive ApprovalCall
  | issue (sample : Option UInt64) (requestId : ApprovalRequestId) (review : TrustedPolicyReview)
      (approver : PolicyAuthenticatedApprover) (expiresAt : UInt64)
  | revoke (sample : Option UInt64) (evidenceId : ApprovalEvidenceId)
      (revoker : PolicyAuthenticatedApprover)
  | validate (sample : Option UInt64) (evidenceId : ApprovalEvidenceId)
      (review : TrustedPolicyReview)

def ApprovalCall.sample : ApprovalCall → Option Nat
  | .issue sample .. | .revoke sample .. | .validate sample .. => sample.map (·.toNat)

/-- What a call returns. -/
inductive ApprovalResponse
  | issued (evidence : PolicyApprovalEvidence)
  | revoked
  | validated (validation : ApprovalValidation)
  deriving DecidableEq

namespace ApprovalReviewControl

/-- Carry out a call. -/
def call (control : ApprovalReviewControl) :
    ApprovalCall → Except ApprovalControlError ApprovalResponse × ApprovalReviewControl
  | .issue sample requestId review approver expiresAt =>
    (control.issue (sample.map (·.toNat)) requestId review approver expiresAt.toNat).map
      (Except.map .issued) id
  | .revoke sample evidenceId revoker =>
    (control.revoke (sample.map (·.toNat)) evidenceId revoker).map
      (Except.map fun _ => .revoked) id
  | .validate sample evidenceId review =>
    (control.validate (sample.map (·.toNat)) evidenceId review).map (Except.map .validated) id

/-- The registry after a sequence of calls. -/
def run (calls : List ApprovalCall) : ApprovalReviewControl :=
  calls.foldl (fun control call => (control.call call).2) new

end ApprovalReviewControl

end Linura.Control
