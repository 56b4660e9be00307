import Linura.Control.Approval
import Linura.Lib.BTreeMap
import Linura.Lib.Except
import Linura.Transaction.Binding

/-!
# Desired-state requests and their digest

A request asks that attributes of one resource take given values, and says why.
Control identifies a request by a digest that it computes field by field with a
streaming hasher.
-/

namespace Linura.Control

open Linura.Lib Linura.Core Linura.Transaction

/-- A request for a desired state (`linura_protocol::PlanDesiredStateRequest`). -/
@[ext]
structure PlanDesiredStateRequest where
  requestId : RequestId
  provider : ProviderId
  resource : ResourceId
  observationCapability : CapabilityId
  reason : SemanticReason
  desiredState : BTreeMap String String
  deriving DecidableEq

/-- Why Control refused to grant, keep or settle durable authority. -/
inductive DurableAuthorityError
  | preview (reason : String)
  | candidateNotMutation
  | candidateBlocked
  | riskNotClassified
  | missingApproval
  | unexpectedApproval
  | approval (reason : String)
  | approvalUnsatisfied (validation : ApprovalValidation)
  | authorityChanged
  | clockUnavailable
  | clockRollback
  | digestFieldTooLarge
  | transaction (reason : String)
  | alreadyHandedOff
  | recoveryRequestMismatch
  | recoveryNotIndeterminate
  deriving DecidableEq, Repr

/-! ### The streaming hasher -/

/-- `MAX_CANONICAL_DIGEST_FIELD_BYTES` -/
def maxCanonicalDigestFieldBytes : Nat := 256 * 1024

/-- A hasher, as the bytes that were fed to it. -/
structure CanonicalHasher where
  fed : Bytes

namespace CanonicalHasher

variable (hasher : CanonicalHasher)

/-- Feed one framed field. -/
def field (bytes : Bytes) : Except DurableAuthorityError CanonicalHasher :=
  if maxCanonicalDigestFieldBytes < bytes.length then .error .digestFieldTooLarge
  else .ok ⟨hasher.fed ++ frame bytes⟩

/-- Start with a framed domain. -/
def new (domain : String) : Except DurableAuthorityError CanonicalHasher :=
  field ⟨[]⟩ (asBytes domain)

/-- Feed a text. -/
def text (value : String) : Except DurableAuthorityError CanonicalHasher :=
  hasher.field (asBytes value)

/-- Feed a 64-bit number. -/
def number (value : Nat) : Except DurableAuthorityError CanonicalHasher :=
  hasher.field (be64 value)

/-- Feed a collection's length, which must fit 64 bits. -/
def length (size : Nat) : Except DurableAuthorityError CanonicalHasher :=
  if 2 ^ 64 ≤ size then .error .digestFieldTooLarge else hasher.number size

/-- The digest of what was fed. -/
def finish (sha256 : Sha256) (hasher : CanonicalHasher) : ContentDigest :=
  .ofHash (sha256 hasher.fed)

/-- Feed several fields, one after the other. -/
def fields (list : List Bytes) : Except DurableAuthorityError CanonicalHasher :=
  list.foldlM field hasher

/-- Fields within the bound are all fed. -/
theorem fields_eq_ok {list : List Bytes}
    (small : ∀ bytes ∈ list, bytes.length ≤ maxCanonicalDigestFieldBytes)
    (hasher : CanonicalHasher) : hasher.fields list = .ok ⟨hasher.fed ++ frames list⟩ := by
  induction list generalizing hasher with
  | nil =>
    rw [frames_nil, List.append_nil]
    rfl
  | cons bytes rest ih =>
    have fits := small bytes List.mem_cons_self
    rw [fields, List.foldlM_cons, field, if_neg (Nat.not_lt.mpr fits)]
    refine (ih (fun bytes' later => small bytes' (List.mem_cons_of_mem _ later)) _).trans ?_
    rw [frames_cons, List.append_assoc]

/-- A hasher that accepted its fields was fed exactly their frames. -/
theorem fed_of_fields {list : List Bytes} {hasher hasher' : CanonicalHasher}
    (accepted : hasher.fields list = .ok hasher') :
    hasher'.fed = hasher.fed ++ frames list ∧
      ∀ bytes ∈ list, bytes.length ≤ maxCanonicalDigestFieldBytes := by
  induction list generalizing hasher with
  | nil =>
    cases accepted
    simp
  | cons bytes rest ih =>
    rw [fields, List.foldlM_cons, field] at accepted
    split at accepted
    · cases accepted
    · rename_i fits
      obtain ⟨fed, small⟩ := ih accepted
      refine ⟨by rw [fed, frames_cons, List.append_assoc], ?_⟩
      intro bytes' member
      rcases List.mem_cons.mp member with rfl | later
      · exact Nat.not_lt.mp fits
      · exact small bytes' later

end CanonicalHasher

/-! ### The request digest -/

/-- `digest_request` -/
def digestRequest (sha256 : Sha256) (request : PlanDesiredStateRequest) :
    Except DurableAuthorityError ContentDigest := do
  let digest ← CanonicalHasher.new "linura.control.desired-request.v1"
  let digest ← digest.text request.requestId.value
  let digest ← digest.text request.provider.value
  let digest ← digest.text request.resource.value
  let digest ← digest.text request.observationCapability.value
  let digest ← digest.text request.reason.summary
  let digest ← digest.length request.reason.intentIds.length
  let digest ← request.reason.intentIds.foldlM (fun digest id => digest.text id.value) digest
  let digest ← digest.length request.reason.requirementIds.length
  let digest ← request.reason.requirementIds.foldlM (fun digest id => digest.text id.value) digest
  let digest ← digest.length request.reason.capabilityIds.length
  let digest ← request.reason.capabilityIds.foldlM (fun digest id => digest.text id.value) digest
  let digest ← digest.length request.desiredState.len
  let digest ← request.desiredState.entries.foldlM
    (fun digest entry => do (← digest.text entry.1).text entry.2) digest
  return digest.finish sha256

/-- The fields before the desired state, in the order they are written. -/
def PlanDesiredStateRequest.headerFields (request : PlanDesiredStateRequest) : List Bytes :=
  [asBytes "linura.control.desired-request.v1", asBytes request.requestId.value,
    asBytes request.provider.value, asBytes request.resource.value,
    asBytes request.observationCapability.value, asBytes request.reason.summary] ++
  be64 request.reason.intentIds.length :: request.reason.intentIds.map (asBytes ·.value) ++
  be64 request.reason.requirementIds.length ::
    request.reason.requirementIds.map (asBytes ·.value) ++
  be64 request.reason.capabilityIds.length :: request.reason.capabilityIds.map (asBytes ·.value)

/-- The fields of a counted list of key-value pairs. -/
def entryFields (entries : List (String × String)) : List Bytes :=
  be64 entries.length :: entries.flatMap fun entry => [asBytes entry.1, asBytes entry.2]

def PlanDesiredStateRequest.canonicalFields (request : PlanDesiredStateRequest) : List Bytes :=
  request.headerFields ++ entryFields request.desiredState.entries

theorem foldlM_flatMap_pair {m : Type → Type} [Monad m] [LawfulMonad m] {α β γ : Type}
    (step : β → γ → m β) (first second : α → γ) (list : List α) (init : β) :
    (list.flatMap fun a => [first a, second a]).foldlM step init =
      list.foldlM (fun b a => do step (← step b (first a)) (second a)) init := by
  induction list generalizing init with
  | nil => rfl
  | cons head rest ih => simp [ih]

/-- The origin lists of a request have lengths of at most 64 bits. -/
structure PlanDesiredStateRequest.OriginsFit (request : PlanDesiredStateRequest) : Prop where
  intents : request.reason.intentIds.length < 2 ^ 64
  requirements : request.reason.requirementIds.length < 2 ^ 64
  capabilities : request.reason.capabilityIds.length < 2 ^ 64

/-- All collections of a request have lengths of at most 64 bits. -/
structure PlanDesiredStateRequest.LengthsFit (request : PlanDesiredStateRequest) : Prop extends
    request.OriginsFit where
  entries : request.desiredState.entries.length < 2 ^ 64

namespace CanonicalHasher

theorem length_eq_number {size : Nat} (fits : size < 2 ^ 64) (hasher : CanonicalHasher) :
    hasher.length size = hasher.number size :=
  if_neg (Nat.not_le.mpr fits)

theorem lt_of_length_eq_ok {size : Nat} {hasher hasher' : CanonicalHasher}
    (accepted : hasher.length size = .ok hasher') : size < 2 ^ 64 := by
  unfold length at accepted
  split at accepted
  · cases accepted
  · omega

end CanonicalHasher

variable {request : PlanDesiredStateRequest}

/-- The hasher is fed the canonical fields in order. -/
theorem digestRequest_eq (sha256 : Sha256) (fit : request.LengthsFit) :
    digestRequest sha256 request =
      (·.finish sha256) <$> CanonicalHasher.fields ⟨[]⟩ request.canonicalFields := by
  simp only [digestRequest, BTreeMap.len, CanonicalHasher.length_eq_number fit.intents,
    CanonicalHasher.length_eq_number fit.requirements,
    CanonicalHasher.length_eq_number fit.capabilities,
    CanonicalHasher.length_eq_number fit.entries]
  simp [PlanDesiredStateRequest.canonicalFields, PlanDesiredStateRequest.headerFields, entryFields,
    CanonicalHasher.fields, List.foldlM_map, foldlM_flatMap_pair, CanonicalHasher.text,
    CanonicalHasher.number, CanonicalHasher.new]

variable {digest : ContentDigest}

variable {sha256 : Sha256}

/-- A request that is digested has lengths of 64 bits. -/
theorem lengthsFit_of_digestRequest (accepted : digestRequest sha256 request = .ok digest) :
    request.LengthsFit := by
  simp only [digestRequest, bind_eq_ok] at accepted
  obtain ⟨_, -, _, -, _, -, _, -, _, -, _, -, _, intents, _, -, _, requirements, _, -, _,
    capabilities, _, -, _, entries, -⟩ := accepted
  exact ⟨⟨CanonicalHasher.lt_of_length_eq_ok intents,
    CanonicalHasher.lt_of_length_eq_ok requirements,
    CanonicalHasher.lt_of_length_eq_ok capabilities⟩,
    CanonicalHasher.lt_of_length_eq_ok entries⟩

/-- A digested request was hashed as its framed canonical fields. -/
theorem digestRequest_eq_ok (accepted : digestRequest sha256 request = .ok digest) :
    digest = .ofHash (sha256 (frames request.canonicalFields)) ∧
      ∀ field ∈ request.canonicalFields, field.length ≤ maxCanonicalDigestFieldBytes := by
  rw [digestRequest_eq sha256 (lengthsFit_of_digestRequest accepted)] at accepted
  cases fed : CanonicalHasher.fields ⟨[]⟩ request.canonicalFields with
  | error reason =>
    rw [fed] at accepted
    cases accepted
  | ok hasher =>
    rw [fed] at accepted
    cases accepted
    obtain ⟨bytes, small⟩ := CanonicalHasher.fed_of_fields fed
    refine ⟨?_, small⟩
    change ContentDigest.ofHash (sha256 hasher.fed) = _
    rw [bytes, List.nil_append]

/-! ### Fields determine the request -/

/-- A counted list of identifiers followed by anything is read back unambiguously. -/
private theorem counted_ids_inj {label : String} {ids ids' : List (TypedId label)}
    {rest rest' : List Bytes} (fits : ids.length < 2 ^ 64) (fits' : ids'.length < 2 ^ 64)
    (same : be64 ids.length :: (ids.map (asBytes ·.value) ++ rest) =
      be64 ids'.length :: (ids'.map (asBytes ·.value) ++ rest')) :
    ids = ids' ∧ rest = rest' := by
  obtain ⟨sameLength, sameRest⟩ := List.cons.inj same
  have lengths := (be64_inj fits fits').mp sameLength
  obtain ⟨sameIds, sameTail⟩ := List.append_inj sameRest (by simpa using lengths)
  refine ⟨List.map_injective_iff.mpr ?_ sameIds, sameTail⟩
  intro id id' sameBytes
  exact TypedId.ext (asBytes_injective sameBytes)

/-- The fields of a map determine it. -/
theorem entryFields_inj {entries entries' : List (String × String)}
    (same : entryFields entries = entryFields entries') : entries = entries' := by
  have pairs := (List.cons.inj same).2
  clear same
  induction entries generalizing entries' with
  | nil =>
    cases entries' with
    | nil => rfl
    | cons entry' later' => simp at pairs
  | cons entry later ih =>
    cases entries' with
    | nil => simp at pairs
    | cons entry' later' =>
      simp only [List.flatMap_cons, List.cons_append, List.nil_append, List.cons.injEq,
        asBytes_inj] at pairs
      obtain ⟨key, value, rest⟩ := pairs
      rw [ih rest, Prod.ext key value]

/-- The fields determine the request apart from its desired state, and the listed entries. -/
theorem canonicalFields_inj {request' : PlanDesiredStateRequest}
    {entries entries' : List (String × String)} (fit : request.OriginsFit)
    (fit' : request'.OriginsFit) (same : request.headerFields ++ entryFields entries =
      request'.headerFields ++ entryFields entries') :
    { request with desiredState := .empty } = { request' with desiredState := .empty } ∧
      entries = entries' := by
  simp only [PlanDesiredStateRequest.headerFields, List.cons_append, List.nil_append,
    List.append_assoc, List.cons.injEq, true_and, asBytes_inj] at same
  obtain ⟨requestId, provider, resource, capability, summary, lists⟩ := same
  obtain ⟨intents, lists⟩ := counted_ids_inj fit.intents fit'.intents (List.cons_eq_cons.mpr lists)
  obtain ⟨requirements, lists⟩ := counted_ids_inj fit.requirements fit'.requirements lists
  obtain ⟨capabilities, lists⟩ := counted_ids_inj fit.capabilities fit'.capabilities lists
  refine ⟨?_, entryFields_inj lists⟩
  have reason := SemanticReason.ext summary intents requirements capabilities
  exact PlanDesiredStateRequest.ext (TypedId.ext requestId) (TypedId.ext provider)
    (TypedId.ext resource) (TypedId.ext capability) reason rfl

/-- Where the hash does not collide, requests with one digest are one request. -/
theorem eq_of_digestRequest_eq {request' : PlanDesiredStateRequest}
    (accepted : digestRequest sha256 request = .ok digest)
    (accepted' : digestRequest sha256 request' = .ok digest)
    (collisionFree : sha256 (frames request.canonicalFields) =
      sha256 (frames request'.canonicalFields) →
      frames request.canonicalFields = frames request'.canonicalFields) : request = request' := by
  obtain ⟨hashed, small⟩ := digestRequest_eq_ok accepted
  obtain ⟨hashed', small'⟩ := digestRequest_eq_ok accepted'
  have fits : maxCanonicalDigestFieldBytes < 2 ^ 64 := by decide
  have sameBytes := collisionFree (ContentDigest.ofHash_injective (hashed.symm.trans hashed'))
  have sameFields := frames_inj (fun field member => (small field member).trans_lt fits)
    (fun field member => (small' field member).trans_lt fits) sameBytes
  obtain ⟨header, entries⟩ :=
    canonicalFields_inj (lengthsFit_of_digestRequest accepted).toOriginsFit
    (lengthsFit_of_digestRequest accepted').toOriginsFit sameFields
  have desired : request.desiredState = request'.desiredState := by
    refine BTreeMap.ext_get? fun key => ?_
    rw [BTreeMap.get?, BTreeMap.get?, entries]
  obtain ⟨requestId, provider, resource, capability, reason, state⟩ := request
  obtain ⟨requestId', provider', resource', capability', reason', state'⟩ := request'
  simp only [PlanDesiredStateRequest.mk.injEq] at header ⊢
  exact ⟨header.1, header.2.1, header.2.2.1, header.2.2.2.1, header.2.2.2.2.1, desired⟩

/-- Fields that fit a record of at most 64-bit length come from lists of such lengths. -/
theorem originsFit_of_length_lt {rest : List Bytes}
    (small : (frames (request.headerFields ++ rest)).length < 2 ^ 64) : request.OriginsFit := by
  have size := lt_of_le_of_lt (length_le_length_frames_self (request.headerFields ++ rest)) small
  simp only [PlanDesiredStateRequest.headerFields, List.cons_append, List.nil_append,
    List.length_append, List.length_cons, List.length_map] at size
  constructor <;> omega

end Linura.Control
