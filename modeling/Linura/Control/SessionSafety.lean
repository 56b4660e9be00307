import Linura.Control.PolicyReview
import Linura.Observation.Envelope

/-!
# Reviews of native session facts

Observations of the login manager, of the locker and of the sleep entry count only if they
come from the native interface, are about the exact session generation and are fresh.  The
reviews here check this; they authorise nothing.  Planning consults them, and so does the gate
in front of a suspend.

A native observation counts for at most two seconds and until just before the end of its
window.  A review of a session keeps the window of the observation that it rests on, so that
newer evidence of a lock does not renew it.
-/

namespace Linura.Control

open Linura.Lib Linura.Core Linura.Observation Linura.Policy

inductive SessionAction
  | lock
  | unlock
  | suspend
  | logout
  | reboot
  | powerOff
  deriving DecidableEq, Repr

inductive SessionSafetyError
  | principalMismatch
  | identityMismatch
  | untrustedEvidence
  | expiredEvidence
  | unsupportedSession
  | unverifiedScreenCoverage
  | powerUnavailable
  | powerInhibited
  | otherSessionsPresent
  | transitionInProgress
  deriving DecidableEq, Repr

/-- The text of a refusal, as `Display` writes it. -/
def SessionSafetyError.display : SessionSafetyError → String
  | .principalMismatch => "session owner differs from the authenticated principal"
  | .identityMismatch => "session evidence does not bind the exact current epoch"
  | .untrustedEvidence => "session evidence is not a qualified native observation"
  | .expiredEvidence => "session evidence is expired or from a future clock"
  | .unsupportedSession => "session state is unsupported, ambiguous or unsafe"
  | .unverifiedScreenCoverage => "compositor has not verified exact-session secure coverage"
  | .powerUnavailable => "native power operation is unavailable"
  | .powerInhibited => "native power operation is inhibited"
  | .otherSessionsPresent => "machine power operation affects another user session"
  | .transitionInProgress => "native power transition is already in progress or unknown"

/-! ### Envelopes -/

/-- A window that started and has not ended: `checked_sub`, and less than the length. -/
def isWithin (observedAtUnixMs validForMs nowUnixMs : Nat) : Bool :=
  (checkedSub nowUnixMs observedAtUnixMs).any (· < validForMs)

variable (observation : ObservationEnvelope)

/-- `validate_envelope` -/
def validateEnvelope (provider capability : String) (resource : ResourceId) (nowUnixMs : Nat) :
    Except SessionSafetyError Unit := do
  demand (observation.provider.value = provider ∧ observation.capability.value = capability
    ∧ observation.resource = resource) .identityMismatch
  demand (observation.authority = .nativeApi ∧ observation.sequence ≠ 0
    ∧ observation.validForMs ≠ 0 ∧ observation.validForMs ≤ 2000) .untrustedEvidence
  demand (isWithin observation.observedAtUnixMs observation.validForMs nowUnixMs = true)
    .expiredEvidence

/-- `require_text` -/
def requireText (key expected : String) : Except SessionSafetyError Unit :=
  demand (observation.attributes.get? key = some (.text expected)) .unsupportedSession

/-- `require_u64` -/
def requireU64 (key : String) (expected : Nat) : Except SessionSafetyError Unit :=
  demand (observation.attributes.get? key = some (.u64 expected)) .identityMismatch

/-- `require_bool` -/
def requireBool (key : String) (expected : Bool) : Except SessionSafetyError Unit :=
  demand (observation.attributes.get? key = some (.bool expected)) .unsupportedSession

/-- `validate_native_lock`: whether the lock is secure. -/
def validateNativeLock (lock : SessionLockId) (observation : ObservationEnvelope)
    (nowUnixMs : Nat) :
    Except SessionSafetyError Bool := do
  let resource ← lock.resourceId.mapError fun _ => .identityMismatch
  validateEnvelope observation "session-locker" "session.secure-lock.observe" resource nowUnixMs
  requireText observation "boot_id" lock.epoch.boot.value
  requireText observation "session_id" lock.epoch.sessionId
  requireU64 observation "uid" lock.epoch.uid
  requireU64 observation "created_monotonic_us" lock.epoch.createdMonotonicUs
  requireU64 observation "lock_generation" lock.generation
  (requireText observation "security_owner_invocation" lock.securityOwnerInvocation.value).mapError
    fun _ => .identityMismatch
  requireText observation "lock_protocol" "ext-session-lock-v1"
  match observation.attributes.get? "secure" with
  | some (.bool value) => .ok value
  | _ => .error .unverifiedScreenCoverage

/-! ### Sessions -/

structure SessionSafetyReview where
  epoch : SessionEpoch
  action : SessionAction
  observedAtUnixMs : Nat
  validForMs : Nat
  deriving DecidableEq

/-- A sample that names a seat of the login manager. -/
def hasSeat (logind : ObservationEnvelope) : Bool :=
  match logind.attributes.get? "seat" with
  | some (.text seat) => !seat.isEmpty && seat.utf8ByteSize ≤ 64
      && seat.toList.all fun c => c.isAlphanum || c = '-' || c = '_'
  | _ => false

namespace SessionSafetyReview

/-- `SessionSafetyReview::review_native_session` -/
def reviewNativeSession (principal : AuthenticatedPrincipal) (epoch : SessionEpoch)
    (action : SessionAction) (logind : ObservationEnvelope) (nowUnixMs : Nat)
    (capability : String) :
    Except SessionSafetyError SessionSafetyReview := do
  demand (principal.value = epoch.ownerText) .principalMismatch
  demand (epoch.uid ≠ 0) .unsupportedSession
  let resource ← epoch.resourceId.mapError fun _ => SessionSafetyError.identityMismatch
  validateEnvelope logind "logind" capability resource nowUnixMs
  requireText logind "boot_id" epoch.boot.value
  requireText logind "session_id" epoch.sessionId
  requireU64 logind "uid" epoch.uid
  requireU64 logind "created_monotonic_us" epoch.createdMonotonicUs
  requireText logind "session_type" "wayland"
  requireText logind "session_class" "user"
  requireText logind "state" "active"
  requireBool logind "active" true
  requireBool logind "remote" false
  demand (hasSeat logind = true) .unsupportedSession
  requireBool logind "leader_present" true
  return ⟨epoch, action, logind.observedAtUnixMs, logind.validForMs⟩

/-- `SessionSafetyReview::review` -/
def review (principal : AuthenticatedPrincipal) (epoch : SessionEpoch) (action : SessionAction)
    (logind : ObservationEnvelope) (nowUnixMs : Nat) :
      Except SessionSafetyError SessionSafetyReview :=
  reviewNativeSession principal epoch action logind nowUnixMs "session.epoch.observe"

/-- `SessionSafetyReview::require_secure_coverage` -/
def requireSecureCoverage (reviewed : SessionSafetyReview) (locker : ObservationEnvelope)
    (nowUnixMs : Nat) : Except SessionSafetyError SessionLockId := do
  demand (isWithin reviewed.observedAtUnixMs reviewed.validForMs nowUnixMs = true) .expiredEvidence
  let lock ← (SessionLockId.fromResource locker.resource).mapError fun _ =>
    SessionSafetyError.identityMismatch
  demand (lock.epoch = reviewed.epoch) .identityMismatch
  let secure ← validateNativeLock lock locker nowUnixMs
  demand (secure = true) .unverifiedScreenCoverage
  return lock

end SessionSafetyReview

/-! ### Power -/

structure SessionPowerSafetyReview where
  session : SessionSafetyReview
  nativeAuthenticationRequired : Bool
  delayInhibitors : Nat
  inhibitDelayMaxUs : Nat

namespace SessionPowerSafetyReview

/-- A count of a sample that is not too large. -/
def boundedCount (power : ObservationEnvelope) (key : String) (maximum : Nat) :
    Except SessionSafetyError Nat :=
  match power.attributes.get? key with
  | some (.u64 count) => if count ≤ maximum then .ok count else .error .unsupportedSession
  | _ => .error .unsupportedSession

/-- `SessionPowerSafetyReview::review_conditions` -/
def reviewConditions (session : SessionSafetyReview) (power : ObservationEnvelope)
    (nativeAuthenticationRequired : Bool) (blockKey delayKey : String) :
    Except SessionSafetyError SessionPowerSafetyReview := do
  demand (power.attributes.get? "preparing_for_sleep" = some (.bool false)
    ∧ power.attributes.get? "preparing_for_shutdown" = some (.bool false)) .transitionInProgress
  let others ← boundedCount power "other_user_session_count" 16
  demand (others = 0) .otherSessionsPresent
  let blocks ← boundedCount power blockKey 32
  demand (blocks = 0) .powerInhibited
  let delayInhibitors ← boundedCount power delayKey 32
  let inhibitDelayMaxUs ← boundedCount power "inhibit_delay_max_us" 60000000
  demand (inhibitDelayMaxUs ≠ 0) .unsupportedSession
  return ⟨session, nativeAuthenticationRequired, delayInhibitors, inhibitDelayMaxUs⟩

/-- The action of a power transition, with the counts of what blocks and what delays it. -/
def conditionsOf : SessionTransition → Except SessionSafetyError (SessionAction × String × String)
  | .suspend _ => .ok (.suspend, "sleep_block_count", "sleep_delay_count")
  | .reboot => .ok (.reboot, "shutdown_block_count", "shutdown_delay_count")
  | .powerOff => .ok (.powerOff, "shutdown_block_count", "shutdown_delay_count")
  | .logout => .error .unsupportedSession

/-- The review of a session, for as long as a permission counts too. -/
def restrictedBy (session : SessionSafetyReview) (permission : ObservationEnvelope) :
    Except SessionSafetyError SessionSafetyReview :=
  match checkedAdd session.observedAtUnixMs session.validForMs,
      checkedAdd permission.observedAtUnixMs permission.validForMs with
  | some left, some right =>
    let observedAt := min session.observedAtUnixMs permission.observedAtUnixMs
    match (checkedSub (min left right) observedAt).filter (0 < ·) with
    | some validFor => .ok { session with observedAtUnixMs := observedAt, validForMs := validFor }
    | none => .error .expiredEvidence
  | _, _ => .error .expiredEvidence

/-- `SessionPowerSafetyReview::review_with_permission` -/
def reviewWithPermission (principal : AuthenticatedPrincipal) (target : SessionTransitionId)
    (conditions permission : ObservationEnvelope) (nowUnixMs : Nat) :
    Except SessionSafetyError SessionPowerSafetyReview := do
  let (action, blockKey, delayKey) ← conditionsOf target.transition
  let epoch := target.lock.epoch
  let session ← SessionSafetyReview.reviewNativeSession principal epoch action conditions nowUnixMs
    "session.power.conditions.observe"
  let resource ← target.permissionResourceId.mapError fun _ => .identityMismatch
  validateEnvelope permission "polkit" "session.power.permission.observe" resource nowUnixMs
  (requireText permission "permission_query_principal" principal.value).mapError
    fun _ => .identityMismatch
  let epochResource ← epoch.resourceId.mapError fun _ => .identityMismatch
  (requireText permission "permission_query_session_epoch" epochResource.value).mapError
    fun _ => .identityMismatch
  let authenticates ← match permission.attributes.get? "availability" with
    | some (.text "yes") => .ok false
    | some (.text "challenge") => .ok true
    | some (.text "no") => .error .powerUnavailable
    | _ => .error .unsupportedSession
  let session ← restrictedBy session permission
  reviewConditions session conditions authenticates blockKey delayKey

/-- `SessionPowerSafetyReview::require_secure_suspend` -/
def requireSecureSuspend (reviewed : SessionPowerSafetyReview) (locker : ObservationEnvelope)
    (nowUnixMs : Nat) : Except SessionSafetyError SessionLockId := do
  demand (reviewed.session.action = .suspend) .unsupportedSession
  reviewed.session.requireSecureCoverage locker nowUnixMs

end SessionPowerSafetyReview

/-! ### Transitions -/

inductive SessionTransitionPostcondition
  | notSatisfied
  | indeterminate
  | secureCoverageRequired
  | resumedSecurely
  | originalSessionEnded
  | originalBootEnded
  deriving DecidableEq, Repr

/-- A flag of a sample. -/
def nativeFlag (native : ObservationEnvelope) (key : String) : Except SessionSafetyError Bool :=
  match native.attributes.get? key with
  | some (.bool value) => .ok value
  | _ => .error .unsupportedSession

/-- The classification of a suspend on the original boot, with its session present. -/
def suspendPostcondition (lock : SessionLockId) (successfulCyclesBefore : Nat)
    (native : ObservationEnvelope) (secureCoverage : Option ObservationEnvelope) (nowUnixMs : Nat) :
    Except SessionSafetyError SessionTransitionPostcondition := do
  requireText native "suspend_test_mode" "none"
  let preparing ← nativeFlag native "preparing_for_sleep"
  let cycles ← match native.attributes.get? "successful_suspend_cycles" with
    | some (.u64 value) => .ok value
    | _ => .error .unsupportedSession
  if preparing then return .indeterminate
  if cycles = successfulCyclesBefore then return .notSatisfied
  if checkedAdd successfulCyclesBefore 1 ≠ some cycles then return .indeterminate
  match secureCoverage with
  | none => return .secureCoverageRequired
  | some coverage =>
    let secure ← validateNativeLock lock coverage nowUnixMs
    return if secure then .resumedSecurely else .indeterminate

/-- `review_session_transition_postcondition` -/
def reviewSessionTransitionPostcondition (target : SessionTransitionId)
    (native : ObservationEnvelope) (secureCoverage : Option ObservationEnvelope)
    (nowUnixMs : Nat) : Except SessionSafetyError SessionTransitionPostcondition := do
  let resource ← target.resourceId.mapError fun _ => .identityMismatch
  validateEnvelope native "logind" "session.transition.observe" resource nowUnixMs
  let currentBoot ← match native.attributes.get? "current_boot_id" with
    | some (.text boot) => (BootId.new boot).mapError fun _ => .identityMismatch
    | _ => .error .identityMismatch
  let present ← nativeFlag native "target_epoch_present"
  let originalBoot := decide (target.lock.epoch.boot = currentBoot)
  demand (originalBoot = true ∨ present = false) .identityMismatch
  match target.transition with
  | .logout => return if present then .notSatisfied else .originalSessionEnded
  | .reboot | .powerOff => return if originalBoot then .notSatisfied else .originalBootEnded
  | .suspend before =>
    if !originalBoot || !present then return .indeterminate
    suspendPostcondition target.lock before native secureCoverage nowUnixMs

/-! ### Protective locks -/

inductive ProtectiveLockSafetyError
  | principalMismatch
  | settingDisabled
  | scopeChanged
  | unqualifiedSleepEntry
  | clockUnavailable
  | native (error : SessionSafetyError)
  deriving DecidableEq, Repr

/-- The text of a refusal, as `Display` writes it. -/
def ProtectiveLockSafetyError.display : ProtectiveLockSafetyError → String
  | .principalMismatch => "protective-lock initiator is not the attested native sleep service"
  | .settingDisabled => "owner protective-lock setting is disabled or revoked"
  | .scopeChanged => "protective-lock policy, native event or session scope changed"
  | .unqualifiedSleepEntry => "native sleep entry has no qualified authenticated pre-kernel gate"
  | .clockUnavailable => "protective-lock evidence clock is unavailable or overflowing"
  | .native error => error.display

structure ProtectiveLockSafetyReview where
  context : ProtectiveLockContext
  alreadySecure : Bool
  firstValidUnixMs : Nat
  expiresAtUnixMs : Nat

/-- The end of the first window to end. -/
def earliestExpiry (samples : List ObservationEnvelope) : Except ProtectiveLockSafetyError Nat :=
  samples.foldlM (fun expiry sample =>
    match checkedAdd sample.observedAtUnixMs sample.validForMs with
    | some ends => .ok (min expiry ends)
    | none => .error .clockUnavailable) u64Max

/-- `ProtectiveLockSafetyReview::review`, with the samples of the sleep entry, the session and the
lock. -/
def ProtectiveLockSafetyReview.review (principal : AuthenticatedPrincipal)
    (context : ProtectiveLockContext) (event session lock : ObservationEnvelope) (nowUnixMs : Nat) :
    Except ProtectiveLockSafetyError ProtectiveLockSafetyReview := do
  let setting := context.setting
  demand (principal.value = protectiveSleepPrincipal) .principalMismatch
  demand (setting.enabled = true) .settingDisabled
  demand (context.lock.epoch = setting.epoch ∧
    context.event.boot = setting.epoch.boot) .scopeChanged
  demand (∀ sample ∈ [event, session, lock], sample.observedAtUnixMs ≠ 0)
    (.native .untrustedEvidence)
  let resource ← context.event.resourceId.mapError fun _ => .scopeChanged
  (validateEnvelope event "system-sleep" "session.sleep-entry.observe" resource nowUnixMs).mapError
    .native
  for (key, expected) in [("boot_id", context.event.boot.value),
      ("sleep_invocation", context.event.invocation), ("sleep_operation", "suspend")] do
    demand (event.attributes.get? key = some (.text expected)) .scopeChanged
  for key in ["pre_kernel_gate", "helper_attested"] do
    demand (event.attributes.get? key = some (.bool true)) .unqualifiedSleepEntry
  let owner ← (AuthenticatedPrincipal.new setting.owner.value).mapError fun _ => .scopeChanged
  let _ ← (SessionSafetyReview.review owner setting.epoch .lock session nowUnixMs).mapError .native
  let alreadySecure ← (validateNativeLock context.lock lock nowUnixMs).mapError .native
  let firstValid := max event.observedAtUnixMs (max session.observedAtUnixMs lock.observedAtUnixMs)
  let expiresAt ← earliestExpiry [event, session, lock]
  demand (firstValid < expiresAt ∧ nowUnixMs < expiresAt) (.native .expiredEvidence)
  return ⟨context, alreadySecure, firstValid, expiresAt⟩

/-! ### What a review establishes -/

section Establishes

variable {observation : ObservationEnvelope} {now : Nat}

/-- A native observation of a resource that counts at some time. -/
structure FreshNative (observation : ObservationEnvelope) (provider capability : String)
    (resource : ResourceId) (now : Nat) : Prop where
  provider_eq : observation.provider.value = provider
  capability_eq : observation.capability.value = capability
  resource_eq : observation.resource = resource
  authority_eq : observation.authority = .nativeApi
  sequence_ne : observation.sequence ≠ 0
  short : observation.validForMs ≤ 2000
  notBefore : observation.observedAtUnixMs ≤ now
  notAfter : now < observation.observedAtUnixMs + observation.validForMs

theorem isWithin_iff {observedAt validFor now : Nat} :
    isWithin observedAt validFor now = true ↔ observedAt ≤ now ∧ now < observedAt + validFor := by
  unfold isWithin checkedSub
  by_cases started : observedAt ≤ now
  · rw [if_pos started]
    simp only [Option.any_some, decide_eq_true_eq]
    omega
  · rw [if_neg started]
    simp [started]

theorem freshNative_of_validateEnvelope {provider capability : String} {resource : ResourceId}
    {value : Unit}
    (accepted : validateEnvelope observation provider capability resource now = .ok value) :
    FreshNative observation provider capability resource now := by
  simp only [validateEnvelope, bind_eq_ok, demand_eq_ok] at accepted
  obtain ⟨_, identity, _, trusted, within⟩ := accepted
  obtain ⟨notBefore, notAfter⟩ := isWithin_iff.mp within
  exact ⟨identity.1, identity.2.1, identity.2.2, trusted.1, trusted.2.1, trusted.2.2.2, notBefore,
    notAfter⟩

/-- A fresh native sample of one lock generation, secure or not. -/
structure LockSample (lock : SessionLockId) (observation : ObservationEnvelope) (now : Nat)
    (secure : Bool) : Prop where
  fresh : ∃ resource, lock.resourceId = .ok resource ∧
    FreshNative observation "session-locker" "session.secure-lock.observe" resource now
  boot : observation.attributes.get? "boot_id" = some (.text lock.epoch.boot.value)
  session : observation.attributes.get? "session_id" = some (.text lock.epoch.sessionId)
  uid : observation.attributes.get? "uid" = some (.u64 lock.epoch.uid)
  created : observation.attributes.get? "created_monotonic_us" =
    some (.u64 lock.epoch.createdMonotonicUs)
  generation : observation.attributes.get? "lock_generation" = some (.u64 lock.generation)
  invocation : observation.attributes.get? "security_owner_invocation" =
    some (.text lock.securityOwnerInvocation.value)
  secure_eq : observation.attributes.get? "secure" = some (.bool secure)

/-- An accepted lock was sampled in time. -/
theorem lockSample_of_validateNativeLock {lock : SessionLockId} {secure : Bool}
    (accepted : validateNativeLock lock observation now = .ok secure) :
    LockSample lock observation now secure := by
  simp only [validateNativeLock, requireText, requireU64, bind_eq_ok, mapError_eq_ok,
    demand_eq_ok] at accepted
  obtain ⟨resource, named, _, valid, _, boot, _, session, _, uid, _, created, _, generation, _,
    invocation, _, protocol, last⟩ := accepted
  refine ⟨⟨resource, named, freshNative_of_validateEnvelope valid⟩, boot, session, uid, created,
    generation, invocation, ?_⟩
  split at last
  · rename_i value present
    cases last
    exact present
  · cases last

/-- A fresh native sample of an owner's active session. -/
structure OwnerSession (epoch : SessionEpoch) (observation : ObservationEnvelope) (now : Nat)
    (capability : String) : Prop where
  owner : epoch.uid ≠ 0
  fresh : ∃ resource, epoch.resourceId = .ok resource ∧
    FreshNative observation "logind" capability resource now
  boot : observation.attributes.get? "boot_id" = some (.text epoch.boot.value)
  session : observation.attributes.get? "session_id" = some (.text epoch.sessionId)
  uid : observation.attributes.get? "uid" = some (.u64 epoch.uid)
  created : observation.attributes.get? "created_monotonic_us" =
    some (.u64 epoch.createdMonotonicUs)
  active : observation.attributes.get? "active" = some (.bool true)

namespace SessionSafetyReview

/-- An accepted session is that of the owner. -/
theorem ownerSession_of_reviewNativeSession {principal : AuthenticatedPrincipal}
    {epoch : SessionEpoch}
    {action : SessionAction} {capability : String} {reviewed : SessionSafetyReview}
    (accepted : reviewNativeSession principal epoch action observation now capability =
      .ok reviewed) :
    OwnerSession epoch observation now capability ∧ principal.value = epoch.ownerText ∧
      reviewed = ⟨epoch, action, observation.observedAtUnixMs, observation.validForMs⟩ := by
  simp only [reviewNativeSession, requireText, requireU64, requireBool, bind_eq_ok, mapError_eq_ok,
    demand_eq_ok] at accepted
  obtain ⟨_, owner, _, user, resource, named, _, valid, _, boot, _, session, _,
    uid, _, created, _, -,
    _, -, _, -, _, active, _, -, _, -, _, -, last⟩ := accepted
  cases last
  exact ⟨⟨user, ⟨resource, named, freshNative_of_validateEnvelope valid⟩, boot,
    session, uid, created,
    active⟩, owner, rfl⟩

/-- Coverage is secure while the session that was reviewed still counts. -/
theorem requireSecureCoverage_eq_ok {reviewed : SessionSafetyReview} {lock : SessionLockId}
    (accepted : reviewed.requireSecureCoverage observation now = .ok lock) :
    lock.epoch = reviewed.epoch ∧ LockSample lock observation now true ∧
      reviewed.observedAtUnixMs ≤ now ∧ now < reviewed.observedAtUnixMs + reviewed.validForMs := by
  simp only [requireSecureCoverage, bind_eq_ok, mapError_eq_ok, demand_eq_ok] at accepted
  obtain ⟨_, within, lock', named, _, epoch, secure, valid, _, isSecure, last⟩ := accepted
  cases last
  cases isSecure
  obtain ⟨notBefore, notAfter⟩ := isWithin_iff.mp within
  exact ⟨epoch, lockSample_of_validateNativeLock valid, notBefore, notAfter⟩

end SessionSafetyReview

end Establishes

end Linura.Control
