import Linura.Lib.Except
import Linura.Policy.Review
import Linura.Transaction.Digest

/-!
# Authority bindings

An authority binding is the canonical record of what was approved: who asked, for
which request, plan, resource and capability, under which policy and risk rules,
and on which basis it was authorised.  `AuthorityBinding.tryNew` sorts the risk
rules, checks them, and frames every field into one byte string.

The record is canonical: two accepted argument tuples give the same bytes exactly
when they agree up to the order of the risk rules.
-/

namespace Linura.Transaction

open Linura.Lib Linura.Core

/-- `MAX_AUTHORITY_BINDING_BYTES` -/
def maxAuthorityBindingBytes : Nat := 256 * 1024
/-- `MAX_RISK_RULES` -/
def maxRiskRules : Nat := 128
/-- `MAX_RISK_RULE_ID_BYTES` -/
def maxRiskRuleIdBytes : Nat := 512
/-- `MAX_REVISION_BYTES` -/
def maxRevisionBytes : Nat := 1024

/-- `encode_field`: append a framed field to the canonical bytes. -/
def encodeField (buffer bytes : Bytes) : Except TransactionValidationError Bytes :=
  pushFrame maxAuthorityBindingBytes .bindingTooLarge buffer bytes

/-- The canonical bytes of a sequence of texts, each appended by `encode_str`. -/
def encodeStrs (texts : List String) : Except TransactionValidationError Bytes :=
  (texts.map asBytes).foldlM encodeField []

/-- `risk_name` -/
def riskName : RiskClass → String
  | .readOnly => "read-only"
  | .userState => "user-state"
  | .systemMutation => "system-mutation"
  | .securitySensitive => "security-sensitive"
  | .destructive => "destructive"

theorem riskName_injective : Function.Injective riskName := by
  intro risk risk' same
  cases risk <;> cases risk' <;> first | rfl | exact absurd same (by decide)

/-! ### Authorisation bases -/

/-- A human approval that authorises a binding. -/
@[ext]
structure ApprovalAuthority where
  evidenceId : ApprovalEvidenceId
  requestId : ApprovalRequestId
  approver : PrincipalId
  approvalClass : String
  issuedAtUnixSeconds : Nat
  expiresAtUnixSeconds : Nat
  classValid : validateToken "approval class" approvalClass 256 = .ok ()
  window : issuedAtUnixSeconds ≠ 0 ∧ issuedAtUnixSeconds < expiresAtUnixSeconds
  deriving DecidableEq

/-- `ApprovalAuthority::try_new` -/
def ApprovalAuthority.tryNew (evidenceId : ApprovalEvidenceId) (requestId : ApprovalRequestId)
    (approver : PrincipalId) (approvalClass : String) (issuedAt expiresAt : Nat) :
    Except TransactionValidationError ApprovalAuthority :=
  match classValid : validateToken "approval class" approvalClass 256 with
  | .error reason => .error reason
  | .ok () =>
    if window : issuedAt ≠ 0 ∧ issuedAt < expiresAt then
      .ok ⟨evidenceId, requestId, approver, approvalClass, issuedAt, expiresAt, classValid, window⟩
    else .error .invalidAuthorization

/-- What authorised a binding. -/
inductive AuthorizationBasis
  | policyAllow
  | approval (authority : ApprovalAuthority)
  deriving DecidableEq

def AuthorizationBasis.canonicalFields : AuthorizationBasis → List String
  | .policyAllow => ["policy-allow"]
  | .approval authority =>
    ["approval", authority.evidenceId.value, authority.requestId.value, authority.approver.value,
      authority.approvalClass, Nat.repr authority.issuedAtUnixSeconds,
      Nat.repr authority.expiresAtUnixSeconds]

theorem AuthorizationBasis.canonicalFields_injective :
    Function.Injective AuthorizationBasis.canonicalFields := by
  intro basis basis' same
  cases basis with
  | policyAllow =>
    cases basis' with
    | policyAllow => rfl
    | approval authority' => simp [canonicalFields] at same
  | approval authority =>
    cases basis' with
    | policyAllow => simp [canonicalFields] at same
    | approval authority' =>
      simp only [canonicalFields, List.cons.injEq, and_true, true_and, repr_inj] at same
      obtain ⟨evidence, request, approver, approvalClass, issued, expires⟩ := same
      exact congrArg approval (ApprovalAuthority.ext (TypedId.ext evidence) (TypedId.ext request)
        (TypedId.ext approver) approvalClass issued expires)

/-! ### Bindings -/

/-- The arguments of `AuthorityBinding::try_new`. -/
@[ext]
structure BindingArguments where
  principal : PrincipalId
  requestId : RequestId
  planId : PlanId
  requestDigest : ContentDigest
  preconditionDigest : ContentDigest
  observationDigest : ContentDigest
  provider : ProviderId
  resource : ResourceId
  capability : CapabilityId
  policyId : PolicyId
  policyRevisionId : PolicyRevisionId
  trustedRisk : RiskClass
  riskPolicyRevision : String
  riskRuleIds : List String
  reviewDigest : ContentDigest
  authorization : AuthorizationBasis
  deriving DecidableEq

namespace BindingArguments

/-- The same arguments with the risk rules in order. -/
def sortRules (arguments : BindingArguments) : BindingArguments :=
  { arguments with riskRuleIds := arguments.riskRuleIds.insertionSort (· ≤ ·) }

/-- The fields of the canonical record, in the order they are written. -/
def canonicalFields (arguments : BindingArguments) : List String :=
  ["linura.authority-binding.v1", arguments.principal.value, arguments.requestId.value,
    arguments.planId.value, arguments.requestDigest.value, arguments.preconditionDigest.value,
    arguments.observationDigest.value, arguments.provider.value, arguments.resource.value,
    arguments.capability.value, arguments.policyId.value, arguments.policyRevisionId.value,
    riskName arguments.trustedRisk, arguments.riskPolicyRevision,
    Nat.repr arguments.riskRuleIds.length] ++
  arguments.riskRuleIds ++ arguments.reviewDigest.value :: arguments.authorization.canonicalFields

/-- The rule count and the rules after it are read back unambiguously, so the fields determine
the arguments. -/
theorem canonicalFields_injective : Function.Injective canonicalFields := by
  intro arguments arguments' same
  simp only [canonicalFields, List.cons_append, List.nil_append, List.cons.injEq, true_and,
    repr_inj] at same
  obtain ⟨principal, request, plan, requestDigest, precondition, observation, provider, resource,
    capability, policy, revision, risk, riskRevision, count, tail⟩ := same
  obtain ⟨rules, tail⟩ := List.append_inj tail count
  obtain ⟨review, authorization⟩ := List.cons.inj tail
  exact BindingArguments.ext (TypedId.ext principal) (TypedId.ext request) (TypedId.ext plan)
    (ContentDigest.ext requestDigest) (ContentDigest.ext precondition)
    (ContentDigest.ext observation) (TypedId.ext provider) (TypedId.ext resource)
    (TypedId.ext capability) (TypedId.ext policy) (TypedId.ext revision)
    (riskName_injective risk) riskRevision rules (ContentDigest.ext review)
    (AuthorizationBasis.canonicalFields_injective authorization)

end BindingArguments

/-- Two neighbouring rules are equal; the source scans windows of length two. -/
def hasAdjacentDuplicate : List String → Bool
  | first :: second :: rest => first == second || hasAdjacentDuplicate (second :: rest)
  | _ => false

/-- An accepted binding.  The stored bytes and digest are those of its fields. -/
structure AuthorityBinding (sha256 : Sha256) extends BindingArguments where
  canonical : Bytes
  digest : ContentDigest
  canonical_eq : canonical = frames (toBindingArguments.canonicalFields.map asBytes)
  canonical_length_le : canonical.length ≤ maxAuthorityBindingBytes
  digest_eq : digest = digestBytes sha256 "linura.authority-binding.digest.v1" canonical

theorem encodeStrs_eq_ok {texts : List String} {canonical : Bytes}
    (encoded : encodeStrs texts = .ok canonical) :
    canonical = frames (texts.map asBytes) ∧ canonical.length ≤ maxAuthorityBindingBytes :=
  pushFrames_nil_eq_ok maxAuthorityBindingBytes _ encoded

namespace AuthorityBinding

variable {sha256 : Sha256}

/-- `AuthorityBinding::try_new` -/
def tryNew (sha256 : Sha256) (arguments : BindingArguments) :
    Except TransactionValidationError (AuthorityBinding sha256) := do
  validateToken "risk-policy revision" arguments.riskPolicyRevision maxRevisionBytes
  if maxRiskRules < arguments.riskRuleIds.length then
    throw .tooManyRiskRules
  let sorted := arguments.sortRules
  if hasAdjacentDuplicate sorted.riskRuleIds then
    throw .duplicateRiskRule
  sorted.riskRuleIds.forM fun rule => validateToken "risk rule id" rule maxRiskRuleIdBytes
  match encoded : encodeStrs sorted.canonicalFields with
  | .error reason => .error reason
  | .ok canonical =>
    -- the appends above already refuse a longer buffer, so this second check never fires
    if maxAuthorityBindingBytes < canonical.length then .error .bindingTooLarge
    else
      .ok { sorted with
        canonical := canonical
        digest := digestBytes sha256 "linura.authority-binding.digest.v1" canonical
        canonical_eq := (encodeStrs_eq_ok encoded).1
        canonical_length_le := (encodeStrs_eq_ok encoded).2
        digest_eq := rfl }

/-- The identity of the transaction a binding belongs to. -/
def transactionId (binding : AuthorityBinding sha256) : TransactionId :=
  .forNamespace sha256 binding.principal binding.requestId

/-- Accepted arguments are kept, with their rules sorted. -/
theorem toBindingArguments_of_tryNew {arguments : BindingArguments}
    {binding : AuthorityBinding sha256} (accepted : tryNew sha256 arguments = .ok binding) :
    binding.toBindingArguments = arguments.sortRules := by
  simp only [tryNew, bind, Except.bind] at accepted
  split at accepted
  · cases accepted
  split at accepted
  · cases accepted
  split at accepted
  · cases accepted
  split at accepted
  · cases accepted
  split at accepted
  · cases accepted
  split at accepted
  · cases accepted
  · cases accepted
    rfl

/-- The canonical bytes determine the arguments up to the order of the rules. -/
theorem canonical_inj {sha256' : Sha256} {binding : AuthorityBinding sha256}
    {binding' : AuthorityBinding sha256'} :
    binding.canonical = binding'.canonical ↔
      binding.toBindingArguments = binding'.toBindingArguments := by
  constructor
  · intro same
    rw [binding.canonical_eq, binding'.canonical_eq] at same
    have small : (frames (binding.canonicalFields.map asBytes)).length < 2 ^ 64 := by
      rw [← binding.canonical_eq]
      exact lt_of_le_of_lt binding.canonical_length_le (by decide)
    have fields := frames_inj_of_length_lt small same
    exact BindingArguments.canonicalFields_injective
      (List.map_injective_iff.mpr asBytes_injective fields)
  · intro same
    rw [binding.canonical_eq, binding'.canonical_eq, same]

end AuthorityBinding

/-- Sorting makes rule lists equal exactly when they are permutations of each other. -/
private theorem insertionSort_eq_iff_perm {rules rules' : List String} :
    rules.insertionSort (· ≤ ·) = rules'.insertionSort (· ≤ ·) ↔ rules.Perm rules' := by
  constructor
  · intro same
    exact (List.perm_insertionSort _ rules).symm.trans
      (same ▸ List.perm_insertionSort _ rules')
  · intro perm
    refine List.Perm.eq_of_pairwise' (List.pairwise_insertionSort _ rules)
      (List.pairwise_insertionSort _ rules') ?_
    exact (List.perm_insertionSort _ rules).trans
      (perm.trans (List.perm_insertionSort _ rules').symm)

private theorem sortRules_eq_iff {arguments arguments' : BindingArguments} :
    arguments.sortRules = arguments'.sortRules ↔
      { arguments with riskRuleIds := [] } = { arguments' with riskRuleIds := [] } ∧
        arguments.riskRuleIds.Perm arguments'.riskRuleIds := by
  rw [← insertionSort_eq_iff_perm]
  simp only [BindingArguments.sortRules, BindingArguments.mk.injEq]
  tauto

/-- Two accepted argument tuples have the same canonical bytes exactly when every field apart
from the risk rules is equal and the risk rules are permutations of each other. -/
theorem tryNew_canonical_eq_iff {sha256 sha256' : Sha256} {arguments arguments' : BindingArguments}
    {binding : AuthorityBinding sha256} {binding' : AuthorityBinding sha256'}
    (accepted : AuthorityBinding.tryNew sha256 arguments = .ok binding)
    (accepted' : AuthorityBinding.tryNew sha256' arguments' = .ok binding') :
    binding.canonical = binding'.canonical ↔
      { arguments with riskRuleIds := [] } = { arguments' with riskRuleIds := [] } ∧
        arguments.riskRuleIds.Perm arguments'.riskRuleIds := by
  rw [AuthorityBinding.canonical_inj, AuthorityBinding.toBindingArguments_of_tryNew accepted,
    AuthorityBinding.toBindingArguments_of_tryNew accepted', sortRules_eq_iff]

def testProvider : ProviderId := ⟨"systemd", by decide⟩
def testCapability : CapabilityId := ⟨"systemd.unit.observe", by decide⟩

/-- The arguments of the binding that the source's unit tests build, for a given rule list. -/
def testArguments (riskRuleIds : List String) : BindingArguments where
  principal := ⟨"uid:1000", by decide⟩
  requestId := ⟨"request:test", by decide⟩
  planId := ⟨"request:test", by decide⟩
  requestDigest := .zero
  preconditionDigest := .zero
  observationDigest := .zero
  provider := testProvider
  resource := ⟨"systemd:unit:test.service", by decide⟩
  capability := testCapability
  policyId := Policy.baselinePolicy.snapshot.policyId
  policyRevisionId := Policy.baselinePolicy.snapshot.revisionId
  trustedRisk := .securitySensitive
  riskPolicyRevision := "risk-policy:v0.4:1"
  riskRuleIds := riskRuleIds
  reviewDigest := .zero
  authorization := .policyAllow

/-- Reordered rules give the same bytes. -/
theorem tryNew_canonical_eq_of_reordered :
    ∃ binding binding' : AuthorityBinding zeroSha256,
      AuthorityBinding.tryNew zeroSha256 (testArguments ["z", "a"]) = .ok binding ∧
      AuthorityBinding.tryNew zeroSha256 (testArguments ["a", "z"]) = .ok binding' ∧
      binding.canonical = binding'.canonical := by
  have accepts : ((AuthorityBinding.tryNew zeroSha256 (testArguments ["z", "a"])).isOk &&
      (AuthorityBinding.tryNew zeroSha256 (testArguments ["a", "z"])).isOk) = true := by
    decide +kernel
  obtain ⟨first, second⟩ := (Bool.and_eq_true _ _).mp accepts
  obtain ⟨binding, accepted⟩ := exists_eq_ok_of_isOk first
  obtain ⟨binding', accepted'⟩ := exists_eq_ok_of_isOk second
  refine ⟨binding, binding', accepted, accepted', ?_⟩
  rw [tryNew_canonical_eq_iff accepted accepted']
  exact ⟨rfl, List.Perm.swap "a" "z" []⟩

end Linura.Transaction
