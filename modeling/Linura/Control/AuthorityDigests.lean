import Linura.Control.DesiredRequest
import Linura.Control.PolicyReview
import Linura.Observation.Envelope
import Linura.Transaction.Requests

/-!
# Digests of plans, observations and reviews

Control seals what an authority was granted for as digests of framed fields.

The precondition of a plan records the attributes that it would change together with the
values they have.  Its fields are read back unambiguously, so that two plans with the same
precondition start from the same values.
-/

namespace Linura.Control

open Linura.Lib Linura.Core Linura.Observation Linura.Planner Linura.Policy Linura.Transaction

variable (sha256 : Sha256)

/-- The digest of a sequence of fields.  A count must fit 64 bits and a field a bound; the error
is the same for both. -/
def digestFields (counts : List Nat) (fields : List Bytes) :
    Except DurableAuthorityError ContentDigest :=
  if counts.any (2 ^ 64 ≤ ·) then .error .digestFieldTooLarge
  else (·.finish sha256) <$> CanonicalHasher.fields ⟨[]⟩ fields

theorem digestFields_eq_ok {sha256 : Sha256} {counts : List Nat} {fields : List Bytes}
    {digest : ContentDigest} (accepted : digestFields sha256 counts fields = .ok digest) :
    digest = .ofHash (sha256 (frames fields)) ∧
      (∀ field ∈ fields, field.length ≤ maxCanonicalDigestFieldBytes) ∧
      ∀ count ∈ counts, count < 2 ^ 64 := by
  unfold digestFields at accepted
  split at accepted
  · cases accepted
  · rename_i fit
    cases fed : CanonicalHasher.fields ⟨[]⟩ fields with
    | error reason =>
      rw [fed] at accepted
      cases accepted
    | ok hasher =>
      rw [fed] at accepted
      cases accepted
      obtain ⟨bytes, small⟩ := CanonicalHasher.fed_of_fields fed
      refine ⟨?_, small, by simpa using fit⟩
      change ContentDigest.ofHash (sha256 hasher.fed) = _
      rw [bytes, List.nil_append]

/-! ### Plans -/

def currentFields : Option String → List Bytes
  | some value => [asBytes "some", asBytes value]
  | none => [asBytes "none"]

def changeFields (change : String × Option String) : List Bytes :=
  asBytes change.1 :: currentFields change.2

/-- The fields that `digest_plan_precondition` feeds. -/
def preconditionFields (plan : ReconciliationPlan) : List Bytes :=
  [asBytes "linura.control.plan-precondition.v1", asBytes plan.provider.value,
    asBytes plan.resource.value, asBytes plan.observationCapability.value,
    be64 plan.changes.length] ++ (currents plan.changes).flatMap changeFields

/-- `digest_plan_precondition` -/
def digestPlanPrecondition (plan : ReconciliationPlan) :
    Except DurableAuthorityError ContentDigest :=
  digestFields sha256 [plan.changes.length] (preconditionFields plan)

private theorem changeFields_inj {changes changes' : List (String × Option String)}
    (same : changes.flatMap changeFields = changes'.flatMap changeFields) : changes = changes' := by
  -- the second field of each attribute tells how many follow
  induction changes generalizing changes' with
  | nil =>
    cases changes' with
    | nil => rfl
    | cons change' rest' => simp [changeFields] at same
  | cons change rest ih =>
    cases changes' with
    | nil => simp [changeFields] at same
    | cons change' rest' =>
      obtain ⟨key, current⟩ := change
      obtain ⟨key', current'⟩ := change'
      simp only [List.flatMap_cons, changeFields, List.cons_append, List.cons.injEq,
        asBytes_inj] at same
      obtain ⟨sameKey, same⟩ := same
      cases current with
      | none =>
        cases current' with
        | none =>
          simp only [currentFields, List.cons_append, List.nil_append, List.cons.injEq,
            true_and] at same
          rw [sameKey, ih same]
        | some value' =>
          simp only [currentFields, List.cons_append, List.cons.injEq, asBytes_inj] at same
          exact absurd same.1 (by decide)
      | some value =>
        cases current' with
        | none =>
          simp only [currentFields, List.cons_append, List.cons.injEq, asBytes_inj] at same
          exact absurd same.1 (by decide)
        | some value' =>
          simp only [currentFields, List.cons_append, List.nil_append, List.cons.injEq,
            asBytes_inj, true_and] at same
          rw [sameKey, same.1, ih same.2]

/-- The precondition fields determine which attributes change and the values they have. -/
theorem currents_eq_of_preconditionFields {plan plan' : ReconciliationPlan}
    (same : preconditionFields plan = preconditionFields plan') :
    currents plan.changes = currents plan'.changes := by
  simp only [preconditionFields, List.cons_append, List.nil_append, List.cons.injEq] at same
  exact changeFields_inj same.2.2.2.2.2

/-- Where the hash does not collide, plans with one precondition digest start from the same
values. -/
theorem currents_eq_of_digestPlanPrecondition_eq {sha256 : Sha256} {plan plan' : ReconciliationPlan}
    {digest : ContentDigest} (accepted : digestPlanPrecondition sha256 plan = .ok digest)
    (accepted' : digestPlanPrecondition sha256 plan' = .ok digest)
    (collisionFree :
      sha256 (frames (preconditionFields plan)) = sha256 (frames (preconditionFields plan')) →
        frames (preconditionFields plan) = frames (preconditionFields plan')) :
    currents plan.changes = currents plan'.changes := by
  obtain ⟨hashed, small, -⟩ := digestFields_eq_ok accepted
  obtain ⟨hashed', small', -⟩ := digestFields_eq_ok accepted'
  have fits : maxCanonicalDigestFieldBytes < 2 ^ 64 := by decide
  have sameBytes := collisionFree (ContentDigest.ofHash_injective (hashed.symm.trans hashed'))
  exact currents_eq_of_preconditionFields
    (frames_inj (fun field member => (small field member).trans_lt fits)
      (fun field member => (small' field member).trans_lt fits) sameBytes)

/-! ### Observations -/

def observedFields : ObservedValue → List Bytes
  | .text value => [asBytes "text", asBytes value]
  | .bool value => [asBytes "bool", asBytes (if value then "true" else "false")]
  | .u64 value => [asBytes "u64", be64 value]
  | .i64 value => [asBytes "i64", be64 (value % 2 ^ 64).toNat]

/-- `digest_observation` -/
def digestObservation (observation : ObservationEnvelope) :
    Except DurableAuthorityError ContentDigest :=
  digestFields sha256 [observation.attributes.len]
    ([asBytes "linura.control.observation.v1", asBytes observation.provider.value,
      asBytes observation.resource.value, asBytes observation.capability.value,
      asBytes observation.authority.asStr, be64 observation.observedAtUnixMs,
      be64 observation.validForMs, be64 observation.sequence, be64 observation.attributes.len] ++
    observation.attributes.entries.flatMap fun entry => asBytes entry.1 :: observedFields entry.2)

/-! ### Reviews -/

/-- `approval_class_name` -/
def approvalClassName : ApprovalClass → String
  | .interactiveUser => "interactive-user"
  | .sessionOwnerAuthentication => "session-owner-authentication"
  | .administrator => "administrator"
  | .destructiveAction => "destructive-action"

/-- `actor_kind_name` -/
def actorKindName : ActorKind → String
  | .human => "human"
  | .service => "service"
  | .agent => "agent"
  | .remote => "remote"

/-- `review_status_name` -/
def reviewStatusName : ReviewPlanStatus → String
  | .noChange => "no-change"
  | .changeProposed => "change-proposed"
  | .blocked => "blocked"

/-- `finding_level_name` -/
def findingLevelName : ReviewFindingLevel → String
  | .pass => "pass"
  | .warning => "warning"
  | .blocker => "blocker"

def decisionFields : PolicyDecision → List String
  | .allow => ["allow"]
  | .deny reason => ["deny", reason]
  | .requireApproval approvalClass reason =>
    ["require-approval", approvalClassName approvalClass, reason]
  | .blocked reason => ["blocked", reason]

/-- `digest_review` -/
def digestReview (review : TrustedPolicyReview) : Except DurableAuthorityError ContentDigest :=
  let subject := review.evaluation.subject
  let binding := review.evaluation.binding
  let texts (values : List String) := values.map asBytes
  let counted (values : List String) := be64 values.length :: texts values
  digestFields sha256
    [subject.reason.intentIds.length, subject.reason.requirementIds.length,
      subject.reason.capabilityIds.length, subject.changes.length, subject.findings.length]
    (texts ["linura.control.trusted-review.v1", subject.principal.value, subject.planId.value,
      subject.requestId.value, subject.actor.id.value, actorKindName subject.actor.kind,
      (if subject.actor.interactive then "interactive" else "non-interactive"),
      subject.provider.value, subject.resource.value, subject.capability.value,
      subject.observedEvidenceId, riskName subject.prospectiveRisk,
      reviewStatusName subject.status, subject.reason.summary] ++
    counted (subject.reason.intentIds.map (·.value)) ++
    counted (subject.reason.requirementIds.map (·.value)) ++
    counted (subject.reason.capabilityIds.map (·.value)) ++
    be64 subject.changes.length :: (subject.changes.flatMap fun change =>
      asBytes change.key :: currentFields change.current ++ [asBytes change.desired]) ++
    be64 subject.findings.length :: (subject.findings.flatMap fun finding =>
      texts [finding.code, findingLevelName finding.level, finding.message]) ++
    texts ([binding.policyId.value, binding.policyRevisionId.value] ++
      decisionFields review.evaluation.decision))

/-- `digest_authority_use` -/
def digestAuthorityUse (snapshot : TransactionSnapshot) (nowUnixMs : Nat) :
    Except DurableAuthorityError ContentDigest :=
  digestFields sha256 []
    [asBytes "linura.control.authority-use.v1", asBytes snapshot.transactionId.value,
      be64 snapshot.currentGeneration, be64 snapshot.stateVersion,
      asBytes snapshot.bindingDigest.value, be64 nowUnixMs]

end Linura.Control
