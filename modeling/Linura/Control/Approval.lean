import Linura.Core.Identifiers
import Mathlib.Data.Finset.Basic

/-!
# Approval evidence

The approval protocol of `linura-control` without its registry: what an approver
is, when evidence may be issued and when evidence satisfies a review.  The
subject an approval is bound to and the approval classes are arbitrary types.
-/

namespace Linura.Control

open Linura.Core

/-- `MAX_APPROVAL_TTL_SECONDS` -/
def maxApprovalTtlSeconds : Nat := 86400

/-- What an approval must cover. -/
structure ApprovalRequirement (β γ : Type) where
  approvalClass : γ
  binding : β
  deriving DecidableEq

/-- An approver whose identity and classes a trusted boundary has established. -/
structure AuthenticatedApprover (γ : Type) where
  principal : PrincipalId
  kind : ActorKind
  approvalClasses : Finset γ

/-- Evidence that a requirement was approved for a time. -/
structure ApprovalEvidence (β γ : Type) where
  id : ApprovalEvidenceId
  requestId : ApprovalRequestId
  requirement : ApprovalRequirement β γ
  approver : PrincipalId
  issuedAtUnixSeconds : Nat
  expiresAtUnixSeconds : Nat
  deriving DecidableEq

/-- Who withdrew an approval, and when. -/
structure ApprovalRevocation where
  revokedBy : PrincipalId
  revokedAtUnixSeconds : Nat
  deriving DecidableEq

/-- Why evidence was not issued. -/
inductive ApprovalIssueError (γ : Type)
  | nonHumanApprover
  | missingApprovalClass (approvalClass : γ)
  | invalidValidityWindow
  | validityWindowTooLong
  deriving DecidableEq

/-- The verdict on evidence presented for a review. -/
inductive ApprovalValidation
  | satisfied
  | bindingMismatch
  | notYetValid
  | expired
  | revoked
  deriving DecidableEq, Repr

section

variable {β γ : Type} [DecidableEq γ]

/-- Only a human approver that holds the class can satisfy it. -/
def AuthenticatedApprover.canSatisfy (approver : AuthenticatedApprover γ) (approvalClass : γ) :
    Bool :=
  approver.kind == .human && decide (approvalClass ∈ approver.approvalClasses)

/-- `ApprovalEvidence::try_issue` -/
def ApprovalEvidence.tryIssue (id : ApprovalEvidenceId) (requestId : ApprovalRequestId)
    (requirement : ApprovalRequirement β γ) (approver : AuthenticatedApprover γ)
    (issuedAt expiresAt : Nat) : Except (ApprovalIssueError γ) (ApprovalEvidence β γ) :=
  if approver.kind ≠ .human then .error .nonHumanApprover
  else if !approver.canSatisfy requirement.approvalClass then
    .error (.missingApprovalClass requirement.approvalClass)
  else if expiresAt ≤ issuedAt then .error .invalidValidityWindow
  else if maxApprovalTtlSeconds < expiresAt - issuedAt then .error .validityWindowTooLong
  else .ok ⟨id, requestId, requirement, approver.principal, issuedAt, expiresAt⟩

/-- `validate_approval` -/
def validateApproval [DecidableEq β] (evidence : ApprovalEvidence β γ)
    (currentBinding : β) (currentClass : γ)
    (now : Nat) (revocation : Option ApprovalRevocation) : ApprovalValidation :=
  if evidence.requirement.binding ≠ currentBinding
      ∨ evidence.requirement.approvalClass ≠ currentClass then .bindingMismatch
  else if now < evidence.issuedAtUnixSeconds then .notYetValid
  else if evidence.expiresAtUnixSeconds ≤ now then .expired
  else if revocation.isSome then .revoked
  else .satisfied

/-- Issued evidence names a human approver of the class and is valid for a positive time of at
most a day. -/
theorem ApprovalEvidence.of_tryIssue_eq_ok {id : ApprovalEvidenceId}
    {requestId : ApprovalRequestId} {requirement : ApprovalRequirement β γ}
    {approver : AuthenticatedApprover γ} {issuedAt expiresAt : Nat}
    {evidence : ApprovalEvidence β γ}
    (issued : tryIssue id requestId requirement approver issuedAt expiresAt = .ok evidence) :
    approver.kind = .human ∧ requirement.approvalClass ∈ approver.approvalClasses ∧
      issuedAt < expiresAt ∧ expiresAt - issuedAt ≤ maxApprovalTtlSeconds ∧
      evidence = ⟨id, requestId, requirement, approver.principal, issuedAt, expiresAt⟩ := by
  unfold tryIssue at issued
  split_ifs at issued with kind holds window ttl
  have human := not_not.mp kind
  refine ⟨human, ?_, not_le.mp window, not_lt.mp ttl, (Except.ok.inj issued).symm⟩
  simpa [AuthenticatedApprover.canSatisfy, human] using holds

theorem validateApproval_eq_satisfied [DecidableEq β] {evidence : ApprovalEvidence β γ}
    {currentBinding : β} {currentClass : γ} {now : Nat} {revocation : Option ApprovalRevocation}
    (verdict : validateApproval evidence currentBinding currentClass now revocation = .satisfied) :
    evidence.requirement = ⟨currentClass, currentBinding⟩ ∧
      evidence.issuedAtUnixSeconds ≤ now ∧ now < evidence.expiresAtUnixSeconds ∧
      revocation = none := by
  unfold validateApproval at verdict
  split_ifs at verdict with mismatch early late revoked
  obtain ⟨sameBinding, sameClass⟩ := not_or.mp mismatch
  refine ⟨?_, not_lt.mp early, not_le.mp late, by simpa using revoked⟩
  rw [← not_not.mp sameBinding, ← not_not.mp sameClass]

end

end Linura.Control
