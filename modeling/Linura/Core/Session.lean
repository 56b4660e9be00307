import Linura.Core.Identifiers
import Linura.Lib.Split
import Mathlib.Data.Prod.Lex

/-!
# Session identities

Identities of login sessions, native locks, session transitions and sleep invocations.
Each names one generation of what it identifies and is written as a resource identifier;
reading one back checks that it is canonical.
-/

namespace Linura.Core

open Linura.Lib

inductive SessionEpochError
  | invalidBootId
  | invalidSessionId
  | invalidCreationGeneration
  | invalidLockGeneration
  | invalidSecurityOwnerInvocation
  | invalidResource
  deriving DecidableEq, Repr

/-- The text of a refusal, as `Display` writes it. -/
def SessionEpochError.display : SessionEpochError → String
  | .invalidBootId => "boot identity must be a nonzero canonical lowercase UUID"
  | .invalidSessionId => "session identity must be 1..64 ASCII letters, digits, '_' or '-', " ++
      "excluding ambient logind aliases"
  | .invalidCreationGeneration => "session creation generation must be nonzero"
  | .invalidLockGeneration => "native lock generation must be nonzero"
  | .invalidSecurityOwnerInvocation =>
    "security-owner invocation must be a nonzero canonical lowercase UUID"
  | .invalidResource => "session epoch resource is not canonical"

variable (value : String)

/-- `canonical_nonzero_uuid` -/
def canonicalNonzeroUuid : Bool :=
  value.utf8ByteSize = 36 && value ≠ "00000000-0000-0000-0000-000000000000" &&
    value.toList.zipIdx.all fun (c, index) =>
      if index = 8 ∨ index = 13 ∨ index = 18 ∨ index = 23 then c = '-' else isLowerHex c

structure BootId where
  value : String
  valid : canonicalNonzeroUuid value = true
  deriving DecidableEq

def BootId.new : Except SessionEpochError BootId :=
  if valid : canonicalNonzeroUuid value then .ok ⟨value, valid⟩ else .error .invalidBootId

structure SecurityOwnerInvocationId where
  value : String
  valid : canonicalNonzeroUuid value = true
  deriving DecidableEq

def SecurityOwnerInvocationId.new : Except SessionEpochError SecurityOwnerInvocationId :=
  if valid : canonicalNonzeroUuid value then .ok ⟨value, valid⟩
  else .error .invalidSecurityOwnerInvocation

/-- `canonical_u64` -/
def canonicalU64 : Except SessionEpochError Nat :=
  (canonicalDecimal value).elim (.error .invalidResource) .ok

/-- A logind session identity that names one session, not an alias. -/
def isSessionId (sessionId : String) : Bool :=
  !sessionId.isEmpty && sessionId.utf8ByteSize ≤ 64
    && !(["self", "auto", "current"].contains sessionId)
    && sessionId.toList.all fun c => c.isAlphanum || c = '_' || c = '-'

/-- `SessionEpoch`: one login session of one boot. -/
structure SessionEpoch where
  boot : BootId
  uid : Nat
  sessionId : String
  createdMonotonicUs : Nat
  valid : isSessionId sessionId = true ∧ createdMonotonicUs ≠ 0
  deriving DecidableEq

namespace SessionEpoch

/-- `SessionEpoch::new` -/
def new (boot : BootId) (uid : Nat) (sessionId : String) (createdMonotonicUs : Nat) :
    Except SessionEpochError SessionEpoch :=
  if session : isSessionId sessionId then
    if created : createdMonotonicUs = 0 then .error .invalidCreationGeneration
    else .ok ⟨boot, uid, sessionId, createdMonotonicUs, session, created⟩
  else .error .invalidSessionId

/-- `SessionEpoch::from_resource`, for the text after `session:epoch:`. -/
def fromSuffix (suffix : String) : Except SessionEpochError SessionEpoch :=
  match splitAll suffix ':' with
  | [boot, uid, sessionId, created] => do
    let uid ← canonicalU64 uid
    if 2 ^ 32 ≤ uid then throw .invalidResource
    new (← BootId.new boot) uid sessionId (← canonicalU64 created)
  | _ => .error .invalidResource

/-- `SessionEpoch::from_resource` -/
def fromResource (resource : ResourceId) : Except SessionEpochError SessionEpoch :=
  match stripLead resource.value "session:epoch:" with
  | none => .error .invalidResource
  | some suffix => fromSuffix suffix

variable (epoch : SessionEpoch)

/-- The text after `session:epoch:`. -/
def suffix : String :=
  epoch.boot.value ++ ":" ++ toString epoch.uid ++ ":" ++ epoch.sessionId ++ ":"
    ++ toString epoch.createdMonotonicUs

/-- `SessionEpoch::resource_id` -/
def resourceId : Except SessionEpochError ResourceId :=
  match TypedId.new "resource id" ("session:epoch:" ++ epoch.suffix) with
  | .ok id => .ok id
  | .error _ => .error .invalidResource

/-- The principal who owns the session. -/
def ownerText : String := "unix:uid:" ++ toString epoch.uid

/-- What epochs are ordered by, one field after the other. -/
def orderKey : String ×ₗ Nat ×ₗ String ×ₗ Nat :=
  toLex (epoch.boot.value, toLex (epoch.uid, toLex (epoch.sessionId, epoch.createdMonotonicUs)))

theorem orderKey_injective : Function.Injective orderKey := by
  intro epoch epoch' same
  obtain ⟨⟨boot, _⟩, uid, session, created, _⟩ := epoch
  obtain ⟨⟨boot', _⟩, uid', session', created', _⟩ := epoch'
  simp only [orderKey, EmbeddingLike.apply_eq_iff_eq, Prod.mk.injEq] at same
  obtain ⟨rfl, rfl, rfl, rfl⟩ := same
  rfl

instance : LinearOrder SessionEpoch := LinearOrder.lift' orderKey orderKey_injective

end SessionEpoch

/-- `SessionLockId`: one lock of the compositor. -/
structure SessionLockId where
  epoch : SessionEpoch
  securityOwnerInvocation : SecurityOwnerInvocationId
  generation : Nat
  valid : generation ≠ 0
  deriving DecidableEq

namespace SessionLockId

/-- `SessionLockId::new` -/
def new (epoch : SessionEpoch) (invocation : SecurityOwnerInvocationId) (generation : Nat) :
    Except SessionEpochError SessionLockId :=
  if valid : generation = 0 then .error .invalidLockGeneration
  else .ok ⟨epoch, invocation, generation, valid⟩

/-- `SessionLockId::from_resource` -/
def fromResource (resource : ResourceId) : Except SessionEpochError SessionLockId := do
  let some suffix := stripLead resource.value "session:lock:" | throw .invalidResource
  let some (scope, generation) := rsplitOnce suffix ':' | throw .invalidResource
  let some (epoch, invocation) := rsplitOnce scope ':' | throw .invalidResource
  let epoch ← match TypedId.new "resource id" ("session:epoch:" ++ epoch) with
    | .ok id => SessionEpoch.fromResource id
    | .error _ => .error .invalidResource
  new epoch (← SecurityOwnerInvocationId.new invocation) (← canonicalU64 generation)

/-- The text after `session:lock:`. -/
def suffix (lock : SessionLockId) : String :=
  lock.epoch.suffix ++ ":" ++ lock.securityOwnerInvocation.value ++ ":" ++ toString lock.generation

/-- `SessionLockId::resource_id` -/
def resourceId (lock : SessionLockId) : Except SessionEpochError ResourceId := do
  let _ ← lock.epoch.resourceId
  match TypedId.new "resource id" ("session:lock:" ++ lock.suffix) with
  | .ok id => .ok id
  | .error _ => .error .invalidResource

end SessionLockId

/-! ### Transitions -/

inductive SessionTransition
  | suspend (successfulCyclesBefore : Nat)
  | logout
  | reboot
  | powerOff
  deriving DecidableEq, Repr

/-- `SessionTransition::as_str` -/
def SessionTransition.asStr : SessionTransition → String
  | .suspend _ => "suspend"
  | .logout => "logout"
  | .reboot => "reboot"
  | .powerOff => "power-off"

/-- `successful_cycles_before`, zero for transitions that do not count cycles. -/
def SessionTransition.baseline : SessionTransition → Nat
  | .suspend cycles => cycles
  | .logout | .reboot | .powerOff => 0

inductive SessionTransitionError
  | unsupportedOwner
  | exhaustedSuspendGeneration
  | invalidResource
  deriving DecidableEq, Repr

/-- The text of a refusal, as `Display` writes it. -/
def SessionTransitionError.display : SessionTransitionError → String
  | .unsupportedOwner => "root graphical session transitions are unsupported"
  | .exhaustedSuspendGeneration => "native suspend generation cannot advance"
  | .invalidResource => "session transition identity is not canonical"

structure SessionTransitionId where
  lock : SessionLockId
  transition : SessionTransition
  valid : lock.epoch.uid ≠ 0 ∧ transition ≠ .suspend u64Max
  deriving DecidableEq

namespace SessionTransitionId

/-- `SessionTransitionId::new` -/
def new (lock : SessionLockId) (transition : SessionTransition) :
    Except SessionTransitionError SessionTransitionId :=
  if owner : lock.epoch.uid = 0 then .error .unsupportedOwner
  else if generation : transition = .suspend u64Max then .error .exhaustedSuspendGeneration
  else .ok ⟨lock, transition, owner, generation⟩

/-- The transition that an action with a baseline stands for. -/
def transitionOf (action : String) (baseline : Nat) : Option SessionTransition :=
  if action = "suspend" then some (.suspend baseline)
  else if baseline ≠ 0 then none
  else if action = "logout" then some .logout
  else if action = "reboot" then some .reboot
  else if action = "power-off" then some .powerOff
  else none

/-- `SessionTransitionId::from_resource`.  The length bound of 256 bytes holds of every resource
identifier, and a baseline of more than 20 digits does not fit 64 bits. -/
def fromResource (resource : ResourceId) : Except SessionTransitionError SessionTransitionId := do
  let some suffix := stripLead resource.value "session:transition:" | throw .invalidResource
  let some (action, rest) := splitOnce suffix ':' | throw .invalidResource
  let some (baseline, lockSuffix) := splitOnce rest ':' | throw .invalidResource
  let some baseline := canonicalDecimal baseline | throw .invalidResource
  let some transition := transitionOf action baseline | throw .invalidResource
  match TypedId.new "resource id" ("session:lock:" ++ lockSuffix) with
  | .error _ => throw .invalidResource
  | .ok lockResource =>
    match SessionLockId.fromResource lockResource with
    | .error _ => throw .invalidResource
    | .ok lock => new lock transition

variable (target : SessionTransitionId)

/-- The text after `session:transition:`. -/
def suffix : String :=
  target.transition.asStr ++ ":" ++ toString target.transition.baseline ++ ":" ++ target.lock.suffix

/-- `SessionTransitionId::resource_id` -/
def resourceId : Except SessionTransitionError ResourceId :=
  match target.lock.resourceId with
  | .error _ => .error .invalidResource
  | .ok _ =>
    match TypedId.new "resource id" ("session:transition:" ++ target.suffix) with
    | .ok id => .ok id
    | .error _ => .error .invalidResource

/-- `SessionTransitionId::permission_resource_id` -/
def permissionResourceId : Except SessionTransitionError ResourceId := do
  let _ ← target.resourceId
  if target.transition = .logout then throw .invalidResource
  match TypedId.new "resource id" ("session:power-permission:" ++ target.suffix) with
  | .ok id => .ok id
  | .error _ => .error .invalidResource

end SessionTransitionId

/-! ### Sleep invocations -/

/-- The text of `SleepInvocationError`. -/
def sleepInvocationErrorText : String :=
  "native sleep invocation or session scope is not canonical"

structure SleepInvocationId where
  boot : BootId
  invocation : String
  valid : canonicalNonzeroUuid invocation = true
  deriving DecidableEq

namespace SleepInvocationId

/-- `SleepInvocationId::new` -/
def new (boot : BootId) (invocation : String) : Except String SleepInvocationId :=
  if valid : canonicalNonzeroUuid invocation then .ok ⟨boot, invocation, valid⟩
  else .error sleepInvocationErrorText

/-- `SleepInvocationId::resource_id` -/
def resourceId (event : SleepInvocationId) : Except String ResourceId :=
  match TypedId.new "resource id"
      ("session:sleep-entry:" ++ event.boot.value ++ ":" ++ event.invocation) with
  | .ok id => .ok id
  | .error _ => .error sleepInvocationErrorText

/-- `SleepInvocationId::protective_request_id` -/
def protectiveRequestId (event : SleepInvocationId) (epoch : SessionEpoch) :
    Except String RequestId :=
  if event.boot ≠ epoch.boot ∨ epoch.uid = 0 then .error sleepInvocationErrorText
  else
    match TypedId.new "request id" ("request:v010:protective-lock:" ++ event.boot.value ++ ":"
        ++ event.invocation ++ ":" ++ toString epoch.uid ++ ":" ++ epoch.sessionId ++ ":"
        ++ toString epoch.createdMonotonicUs) with
    | .ok id => .ok id
    | .error _ => .error sleepInvocationErrorText

/-- `SleepInvocationId::from_protective_request_id` -/
def fromProtectiveRequestId (request : RequestId) (epoch : SessionEpoch) :
    Except String SleepInvocationId := do
  let some suffix := stripLead request.value "request:v010:protective-lock:"
    | throw sleepInvocationErrorText
  match splitAll suffix ':' with
  | boot :: invocation :: _ =>
    match BootId.new boot with
    | .error _ => throw sleepInvocationErrorText
    | .ok boot =>
      let event ← new boot invocation
      if (← event.protectiveRequestId epoch) ≠ request then throw sleepInvocationErrorText
      return event
  | _ => throw sleepInvocationErrorText

end SleepInvocationId

end Linura.Core
