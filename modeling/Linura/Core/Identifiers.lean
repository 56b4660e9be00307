import Linura.Lib.Text
import Mathlib.Data.String.Basic

/-!
# Typed identifiers and semantic reasons

The identifier types of `linura-core`.  Every identifier kind runs one token check
and differs in the label its errors carry, so the kinds are instances of one
structure that keeps the proof that its text passed the check.
-/

namespace Linura.Core

open Linura.Lib

/-- Why a core value was refused. -/
inductive ValidationError
  | empty (label : String)
  | tooLong (label : String)
  | controlCharacter (label : String)
  | missingSemanticOrigin
  | duplicateSemanticOrigin (kind : String)
  deriving DecidableEq, Repr

/-- The text of a refusal, as `Display` writes it. -/
def ValidationError.display : ValidationError → String
  | .empty label => label ++ " cannot be empty"
  | .tooLong label => label ++ " is too long"
  | .controlCharacter label => label ++ " contains control characters"
  | .missingSemanticOrigin =>
    "managed state must retain an intent, requirement, or capability origin"
  | .duplicateSemanticOrigin kind => "semantic reason contains duplicate " ++ kind ++ " origin"

/-- The check that every typed identifier runs on its text. -/
def validateToken (label value : String) : Except ValidationError Unit :=
  if value.utf8ByteSize = 0 then .error (.empty label)
  else if 256 < value.utf8ByteSize then .error (.tooLong label)
  else if hasControl value then .error (.controlCharacter label)
  else .ok ()

/-- An identifier of the kind named by `label`. -/
structure TypedId (label : String) where
  value : String
  valid : validateToken label value = .ok ()
  deriving DecidableEq

namespace TypedId

variable {label : String}

/-- Build an identifier from its text. -/
def new (label value : String) : Except ValidationError (TypedId label) :=
  match checked : validateToken label value with
  | .ok () => .ok ⟨value, checked⟩
  | .error reason => .error reason

@[ext]
theorem ext {id id' : TypedId label} (same : id.value = id'.value) : id = id' := by
  cases id
  cases id'
  simpa using same

@[simp]
theorem new_value (id : TypedId label) : new label id.value = .ok id := by
  unfold new
  split
  · rfl
  · rename_i failed
    rw [id.valid] at failed
    cases failed

theorem value_of_new {value : String} {id : TypedId label} (built : new label value = .ok id) :
    id.value = value := by
  unfold new at built
  split at built
  · cases built
    rfl
  · cases built

private theorem bounds_of_validateToken {value : String}
    (valid : validateToken label value = .ok ()) :
    0 < value.utf8ByteSize ∧ value.utf8ByteSize ≤ 256 := by
  unfold validateToken at valid
  split_ifs at valid with empty long control
  omega

/-- Identifiers have between one and 256 bytes. -/
theorem utf8ByteSize_bounds (id : TypedId label) :
    0 < id.value.utf8ByteSize ∧ id.value.utf8ByteSize ≤ 256 :=
  bounds_of_validateToken id.valid

/-- Identifiers are ordered by their text. -/
instance : LinearOrder (TypedId label) :=
  LinearOrder.lift' TypedId.value fun _ _ same => ext same

end TypedId

/-- `typed_id!(ActorId, "actor id")`. -/
abbrev ActorId := TypedId "actor id"
/-- `typed_id!(PrincipalId, "principal id")`. -/
abbrev PrincipalId := TypedId "principal id"
/-- `typed_id!(RequestId, "request id")`. -/
abbrev RequestId := TypedId "request id"
/-- `typed_id!(PlanId, "plan id")`. -/
abbrev PlanId := TypedId "plan id"
/-- `typed_id!(ApprovalRequestId, "approval request id")`. -/
abbrev ApprovalRequestId := TypedId "approval request id"
/-- `typed_id!(ApprovalEvidenceId, "approval evidence id")`. -/
abbrev ApprovalEvidenceId := TypedId "approval evidence id"
/-- `typed_id!(IntentId, "intent id")`. -/
abbrev IntentId := TypedId "intent id"
/-- `typed_id!(RequirementId, "requirement id")`. -/
abbrev RequirementId := TypedId "requirement id"
/-- `typed_id!(ResourceId, "resource id")`. -/
abbrev ResourceId := TypedId "resource id"
/-- `typed_id!(CapabilityId, "capability id")`. -/
abbrev CapabilityId := TypedId "capability id"
/-- `typed_id!(ProviderId, "provider id")`. -/
abbrev ProviderId := TypedId "provider id"
/-- `typed_id!(PolicyId, "policy id")`. -/
abbrev PolicyId := TypedId "policy id"
/-- `typed_id!(PolicyRevisionId, "policy revision id")`. -/
abbrev PolicyRevisionId := TypedId "policy revision id"

/-- Who acts. -/
inductive ActorKind
  | human
  | service
  | agent
  | remote
  deriving DecidableEq, Repr

structure Actor where
  id : ActorId
  kind : ActorKind
  interactive : Bool
  deriving DecidableEq

/-- Risk classes, in increasing order of risk. -/
inductive RiskClass
  | readOnly
  | userState
  | systemMutation
  | securitySensitive
  | destructive
  deriving DecidableEq, Repr

/-! ### Semantic reasons -/

/-- The source's scan with a set of the values seen so far. -/
def hasDuplicates {α : Type} [DecidableEq α] (values : List α) : Bool :=
  scan [] values
where
  scan (seen : List α) : List α → Bool
    | [] => false
    | value :: rest => if value ∈ seen then true else scan (value :: seen) rest

/-- Why managed state exists. -/
@[ext]
structure SemanticReason where
  summary : String
  intentIds : List IntentId
  requirementIds : List RequirementId
  capabilityIds : List CapabilityId
  deriving DecidableEq

/-- A reason has a summary and at least one origin, and names no origin twice. -/
def SemanticReason.validate (reason : SemanticReason) : Except ValidationError Unit :=
  if trimIsEmpty reason.summary then .error (.empty "semantic reason")
  else if reason.intentIds.isEmpty && reason.requirementIds.isEmpty
      && reason.capabilityIds.isEmpty then .error .missingSemanticOrigin
  else if hasDuplicates reason.intentIds then .error (.duplicateSemanticOrigin "intent")
  else if hasDuplicates reason.requirementIds then .error (.duplicateSemanticOrigin "requirement")
  else if hasDuplicates reason.capabilityIds then .error (.duplicateSemanticOrigin "capability")
  else .ok ()

end Linura.Core
