import Linura.Control.AuthorityDigests
import Linura.Control.SessionSafety
import Linura.Control.World

/-!
# Fresh plans

Control plans a request from an observation that it takes for the purpose.  For locks and
session transitions it also collects native facts from other providers, which narrow how
long the observation counts, add findings to the plan and, for a transition, decide whether
it has completed.

Every plan is made by the planner from one planning observation and only gains findings
afterwards; the plan is recorded with that observation.
-/

namespace Linura.Control

open Linura.Lib Linura.Core Linura.Observation Linura.Planner Linura.Policy Linura.Transaction

/-- The errors of `PlanPreviewControlError` that fresh planning can report. -/
inductive PlanPreviewControlError
  | invalidRequest (reason : String)
  | observation (reason : String)
  | planning (reason : String)
  deriving DecidableEq, Repr

/-- The text of an error, as `Display` writes it. -/
def PlanPreviewControlError.display : PlanPreviewControlError → String
  | .invalidRequest reason => "invalid plan preview request: " ++ reason
  | .observation reason => "authoritative observation failed: " ++ reason
  | .planning reason => "deterministic planning failed: " ++ reason

def PlanPreviewControlError.reason : PlanPreviewControlError → String
  | .invalidRequest reason | .observation reason | .planning reason => reason

/-- An identifier, or the text of the reason why it is none. -/
def typedId (label value : String) : Except String (TypedId label) :=
  (TypedId.new label value).mapError (·.display)

/-! ### Requests -/

/-- The bytes of a request that `validate_request` adds up. -/
def requestBytes (request : PlanDesiredStateRequest) : Nat :=
  ([request.requestId.value, request.provider.value, request.resource.value,
      request.observationCapability.value, request.reason.summary] ++
    request.reason.intentIds.map (·.value) ++ request.reason.requirementIds.map (·.value) ++
    request.reason.capabilityIds.map (·.value) ++
    request.desiredState.entries.flatMap fun entry => [entry.1, entry.2]).foldl
      (fun total text => saturatingAdd total text.utf8ByteSize) 0

/-- `validate_request` -/
def validateRequest (debugText : String → String) (request : PlanDesiredStateRequest) :
    Except PlanPreviewControlError Unit := do
  let reason := request.reason
  if 4096 < reason.summary.utf8ByteSize then
    throw (.invalidRequest "semantic summary exceeds 4096 UTF-8 bytes")
  if hasControl reason.summary then
    throw (.invalidRequest "semantic summary contains control characters")
  if 64 < reason.intentIds.length ∨ 64 < reason.requirementIds.length
      ∨ 64 < reason.capabilityIds.length then
    throw (.invalidRequest "semantic origin kind exceeds 64 entries")
  if 128 < reason.intentIds.length + reason.requirementIds.length + reason.capabilityIds.length then
    throw (.invalidRequest "semantic origins exceed 128 total entries")
  if request.desiredState.entries.isEmpty ∨ 128 < request.desiredState.len then
    throw (.invalidRequest "desired state must contain between 1 and 128 attributes")
  if 64 * 1024 < requestBytes request then
    throw (.invalidRequest "normalized planning request exceeds 65536 UTF-8 bytes")
  reason.validate.mapError fun error => .invalidRequest error.display
  (validateDesiredState [request.desiredResource]).mapError fun error =>
    .invalidRequest (error.display debugText)

/-- `protective_actor` -/
def protectiveActor : Actor := ⟨⟨protectiveSleepActor, by decide⟩, .service, false⟩

namespace ProtectiveLockContext

/-- `ProtectiveLockContext::request` -/
def request (context : ProtectiveLockContext) : Except String PlanDesiredStateRequest := do
  return {
    requestId := ← context.event.protectiveRequestId context.lock.epoch
    provider := ← typedId _ "session-locker"
    resource := ← context.lock.resourceId.mapError (·.display)
    observationCapability := ← typedId _ "session.secure-lock.observe"
    reason :=
      { summary := "Protect the current owner session before this authenticated native suspend "
          ++ "invocation"
        intentIds := [context.setting.intent]
        requirementIds := []
        capabilityIds := [] }
    desiredState := BTreeMap.empty.insert "secure" "true" }

/-- `ProtectiveLockContext::require_request` -/
def requireRequest (context : ProtectiveLockContext) (principal : AuthenticatedPrincipal)
    (actor : Actor) (request : PlanDesiredStateRequest) : Except String Unit := do
  let expected ← context.request
  if principal.value ≠ protectiveSleepPrincipal ∨ actor ≠ protectiveActor ∨ request ≠ expected then
    throw "protective-lock initiator or exact approved request changed"

end ProtectiveLockContext

/-- `retained_protective_request` -/
def retainedProtectiveRequest (principal : AuthenticatedPrincipal)
    (request : PlanDesiredStateRequest) :
    Bool :=
  principal.value = protectiveSleepPrincipal && request.provider.value = "session-locker"
    && request.observationCapability.value = "session.secure-lock.observe"
    && request.desiredState = BTreeMap.empty.insert "secure" "true"
    && request.reason.intentIds.length = 1 && request.reason.requirementIds.isEmpty
    && request.reason.capabilityIds.isEmpty
    && match SessionLockId.fromResource request.resource with
      | .error _ => false
      | .ok lock => (SleepInvocationId.fromProtectiveRequestId request.requestId lock.epoch).isOk

/-! ### Validity windows -/

/-- The last moment at which an observation with an exclusive deadline counts. -/
def lastValid (observation : ObservationEnvelope) : Except PlanPreviewControlError Nat :=
  if observation.validForMs = 0 then .error (.planning "native session validity is empty")
  else
    match (checkedAdd observation.observedAtUnixMs observation.validForMs).bind
      (checkedSub · 1) with
    | none => .error (.planning "native session validity overflow")
    | some last => .ok last

/-- `restrict_session_validity`: the locker's observation with its window narrowed. -/
def restrictSessionValidity (locker session : ObservationEnvelope) (nowUnixMs : Nat) :
    Except PlanPreviewControlError ObservationEnvelope := do
  let deadline := min (← lastValid locker) (← lastValid session)
  match (checkedSub deadline locker.observedAtUnixMs).filter (0 < ·) with
  | none => throw (.planning "native session prerequisite validity is exhausted")
  | some window =>
    if nowUnixMs < session.observedAtUnixMs then
      throw (.planning "native session prerequisite is in the future")
    let narrowed := { locker with validForMs := window }
    (narrowed.requireCurrent nowUnixMs).mapError fun error => .planning error.display
    return narrowed

section Planning

variable {sha256 : Sha256} (env : Environment sha256)

/-- A program that may fail as fresh planning does. -/
abbrev PreviewProgram (sha256 : Sha256) := Program (World sha256) PlanPreviewControlError

/-- `ObservationCoordinator::observe`, with the text of its error. -/
def coordinatorObserve (request : ObservationRequest) :
    Program (World sha256) String ObservationResponse := do
  match ← askObserver env request with
  | .error reason => .fail reason
  | .ok observation =>
    let now ← readClock env
    let result ← .query fun world : World sha256 =>
      .ok (world.coordinator.accept request observation now)
    .modify fun world => { world with coordinator := result.2 }
    .lift result.1

def observeNamed (provider capability : String) (resource : ResourceId) :
    PreviewProgram sha256 ObservationEnvelope := do
  let provider ← .lift ((typedId "provider id" provider).mapError .planning)
  let capability ← .lift ((typedId "capability id" capability).mapError .planning)
  let response ← (coordinatorObserve env ⟨provider, resource, capability⟩).mapError .observation
  return response.observation

/-- The clock, as the session facts read it. -/
def sessionClock : PreviewProgram sha256 Nat :=
  readMillis env (.planning "session authority clock unavailable")
    (.planning "session authority clock overflow")

/-- The clock, as the transition facts read it. -/
def transitionClock : PreviewProgram sha256 Nat :=
  readMillis env (.planning "second time provided was later than self")
    (.planning "out of range integral type conversion attempted")

/-! ### Native facts about locks -/

variable (principal : AuthenticatedPrincipal)

/-- The part of `validate_session_lock_facts` for a protective lock: the sleep event is observed
and reviewed, narrows the window, and is bound into the observation. -/
def protectiveFacts (session observation : ObservationEnvelope) (context : ProtectiveLockContext) :
    PreviewProgram sha256 ObservationEnvelope := do
  let resource ← .lift (context.event.resourceId.mapError .planning)
  let event ← (observeNamed env "system-sleep" "session.sleep-entry.observe" resource).mapError
    fun error => .planning error.reason
  let now ← sessionClock env
  let _ ← .lift ((ProtectiveLockSafetyReview.review principal context event session observation
    now).mapError (.planning ·.display))
  let observation ← .lift (restrictSessionValidity observation event now)
  let digest ← .lift ((digestObservation sha256 event).mapError fun _ =>
    .planning "canonical authority digest input exceeds the per-field bound")
  return { observation with
    attributes := (observation.attributes.insert "protective_sleep_entry_digest"
      (.text digest.value)).insert "protective_policy_revision"
        (.text context.setting.revision.value) }

variable (request : PlanDesiredStateRequest)

/-- The action that a desired lock state asks for. -/
def lockAction : Except PlanPreviewControlError SessionAction :=
  if request.desiredState.get? "secure" = some "true" then .ok .lock
  else if request.desiredState.get? "secure" = some "false" then .ok .unlock
  else .error (.planning "session-lock desired state is unsupported")

/-- The finding that binds the session behind a lock into the plan. -/
def sessionFinding (lock : SessionLockId) (session : ObservationEnvelope) :
    Except PlanPreviewControlError PlanFinding :=
  match session.attributes.get? "seat" with
  | some (.text seat) => .ok ⟨"native-session-lock-precondition", .pass,
      "NativeApi logind/session.epoch.observe " ++ session.resource.value ++ ": owner="
        ++ toString lock.epoch.uid ++
          " type=wayland class=user state=active active=true remote=false "
        ++ "seat=" ++ seat ++ " leader_present=true"⟩
  | _ => .error (.planning "native session seat is missing")

/-- `validate_session_lock_facts`: the finding, and the observation with its window narrowed. -/
def validateSessionLockFacts (observation : ObservationEnvelope)
    (protective : Option ProtectiveLockContext) (observeOnlyProtective : Bool) :
    PreviewProgram sha256 (Option PlanFinding × ObservationEnvelope) :=
  if request.provider.value ≠ "session-locker" then pure (none, observation)
  else do
    let lock ← .lift ((SessionLockId.fromResource request.resource).mapError (.planning ·.display))
    let resource ← .lift (lock.epoch.resourceId.mapError (.planning ·.display))
    let session ← observeNamed env "logind" "session.epoch.observe" resource
    let now ← sessionClock env
    let action ← .lift (lockAction request)
    -- owner predicates are checked for the owner, also when a service asks
    let owner ← .lift (if protective.isSome || observeOnlyProtective then
        (AuthenticatedPrincipal.new lock.epoch.ownerText).mapError .planning
      else .ok principal)
    let _ ← .lift ((SessionSafetyReview.review owner lock.epoch action session now).mapError
      (.planning ·.display))
    let _ ← .lift ((validateNativeLock lock observation now).mapError (.planning ·.display))
    let observation ← .lift (restrictSessionValidity observation session now)
    let observation ← match protective with
      | none => pure observation
      | some context => protectiveFacts env principal session observation context
    let finding ← .lift (sessionFinding lock session)
    return (some finding, observation)

/-! ### Native facts about transitions -/

structure SessionPowerPlanFacts where
  completed : Bool
  findings : List PlanFinding

/-- `finding` of the transition facts. -/
def nativeFinding (observation : ObservationEnvelope) : PlanFinding :=
  ⟨"native-session-transition-" ++ observation.capability.value, .pass,
    "NativeApi " ++ observation.provider.value ++ "/" ++ observation.capability.value ++ "/"
      ++ observation.resource.value ++ ": " ++ env.debug.attributes observation.attributes⟩

/-- Narrow the window of the native observation by further evidence. -/
def narrowBy (native : ObservationEnvelope) :
    List ObservationEnvelope → PreviewProgram sha256 ObservationEnvelope
  | [] => pure native
  | evidence :: rest => do
    let now ← transitionClock env
    let native ← .lift (restrictSessionValidity native evidence now)
    narrowBy native rest

variable (target : SessionTransitionId)

/-- Observe the lock that covers a transition. -/
def observeCoverage : PreviewProgram sha256 ObservationEnvelope := do
  let resource ← .lift (target.lock.resourceId.mapError (.planning ·.display))
  observeNamed env "session-locker" "session.secure-lock.observe" resource

variable (native : ObservationEnvelope)

/-- The first classification of a transition, with the coverage it asked for. -/
def transitionStatus :
    PreviewProgram sha256 (SessionTransitionPostcondition × Option ObservationEnvelope) := do
  let now ← transitionClock env
  let postcondition ← .lift ((reviewSessionTransitionPostcondition target native none now).mapError
    (.planning ·.display))
  if postcondition = .secureCoverageRequired then
    let coverage ← observeCoverage env target
    let now ← transitionClock env
    let postcondition ← .lift ((reviewSessionTransitionPostcondition target native (some coverage)
      now).mapError (.planning ·.display))
    return (postcondition, some coverage)
  else return (postcondition, none)

/-- Whether a classified transition has completed. -/
def transitionCompleted : SessionTransitionPostcondition → Except PlanPreviewControlError Bool
  | .resumedSecurely | .originalSessionEnded | .originalBootEnded => .ok true
  | .notSatisfied => .ok false
  | .indeterminate | .secureCoverageRequired =>
    .error (.planning "native transition remains ambiguous; no replay is permitted")

def transitionAction : SessionTransition → SessionAction
  | .suspend _ => .suspend
  | .logout => .logout
  | .reboot => .reboot
  | .powerOff => .powerOff

/-- The power conditions and the permission that a suspend, reboot or shutdown needs. -/
def powerFacts (action : SessionAction) (coverage native : ObservationEnvelope) :
    PreviewProgram sha256 (List PlanFinding × ObservationEnvelope) := do
  let epochResource ← .lift (target.lock.epoch.resourceId.mapError (.planning ·.display))
  let conditions ← observeNamed env "logind" "session.power.conditions.observe" epochResource
  let permissionResource ← .lift (target.permissionResourceId.mapError (.planning ·.display))
  let permission ← observeNamed env "polkit" "session.power.permission.observe" permissionResource
  let now ← transitionClock env
  let safety ← .lift ((SessionPowerSafetyReview.reviewWithPermission principal target conditions
    permission now).mapError (.planning ·.display))
  if action = .suspend then
    let later ← transitionClock env
    let lock ← .lift ((safety.requireSecureSuspend coverage later).mapError (.planning ·.display))
    .require (lock = target.lock) (.planning "power secure coverage generation changed")
  let native ← narrowBy env native [conditions, permission]
  return ([nativeFinding env conditions, nativeFinding env permission], native)

/-- The facts that a transition which has not happened needs before it is planned. -/
def pendingFacts : PreviewProgram sha256 (List PlanFinding × ObservationEnvelope) := do
  let epochResource ← .lift (target.lock.epoch.resourceId.mapError (.planning ·.display))
  let session ← observeNamed env "logind" "session.epoch.observe" epochResource
  let action := transitionAction target.transition
  let now ← transitionClock env
  let ownership ← .lift ((SessionSafetyReview.review principal target.lock.epoch action session
    now).mapError (.planning ·.display))
  let coverage ← observeCoverage env target
  let later ← transitionClock env
  let lock ← .lift ((ownership.requireSecureCoverage coverage later).mapError (.planning ·.display))
  .require (lock = target.lock) (.planning "transition secure coverage generation changed")
  let native ← narrowBy env native [session, coverage]
  let findings := [nativeFinding env session, nativeFinding env coverage]
  if action = .logout then return (findings, native)
  else
    let (more, native) ← powerFacts env principal target action coverage native
    return (findings ++ more, native)

/-- `is_session_transition` -/
def isSessionTransition : Bool :=
  request.provider.value = managedSessionTransitionProvider
    && request.observationCapability.value = managedSessionTransitionCapability

/-- `session_power_plan_facts`: the facts, and the native observation with its window narrowed. -/
def sessionPowerPlanFacts :
    PreviewProgram sha256 (Option SessionPowerPlanFacts × ObservationEnvelope) :=
  if !isSessionTransition request then pure (none, native)
  else do
    let target ← .lift ((SessionTransitionId.fromResource request.resource).mapError
      (.planning ·.display))
    .require (request.desiredState.len = 1 ∧ request.desiredState.get? "completed" = some "true"
        ∧ principal.value = target.lock.epoch.ownerText)
      (.planning "transition requires exact owner and the sole completed=true postcondition")
    let (postcondition, coverage) ← transitionStatus env target native
    let completed ← .lift (transitionCompleted postcondition)
    let first := nativeFinding env native
    let native ← narrowBy env native coverage.toList
    let findings := first :: coverage.toList.map (nativeFinding env)
    if completed then return (some ⟨true, findings⟩, native)
    else
      let (more, native) ← pendingFacts env principal target native
      return (some ⟨false, findings ++ more⟩, native)

/-! ### Plans -/

/-- `planning_observation`, with the completion that Control derived. -/
def planningObservation (response : ObservationResponse) (power : Option SessionPowerPlanFacts) :
    PlanningObservation :=
  let observation := response.observation
  let attributes : BTreeMap String String := observation.attributes.entries.foldl
    (fun map entry => map.insert entry.1 entry.2.display) .empty
  { provider := observation.provider
    resource := observation.resource
    observationCapability := observation.capability
    authority := observation.authority.asStr
    evidenceId := observation.evidenceId
    freshness := match response.freshness with
      | .current => .current
      | .stale => .stale
      | .future => .future
    attributes := power.elim attributes fun facts =>
      attributes.insert "completed" (if facts.completed then "true" else "false") }

/-- The finding that binds a sleep event into a protective plan. -/
def protectiveFinding (context : ProtectiveLockContext) :
    Except PlanPreviewControlError PlanFinding := do
  let event ← context.event.resourceId.mapError .planning
  return ⟨"protective-native-sleep-precondition", .pass,
    "exact authenticated pre-kernel native event=" ++ event.value ++ " owner-intent="
      ++ context.setting.intent.value ++ " current-policy=" ++ context.setting.revision.value⟩

variable (actor : Actor)

/-- `build_fresh_plan_with_context`, for a request that was validated. -/
def buildFreshPlan (request : PlanDesiredStateRequest) (protective : Option ProtectiveLockContext)
    (observeOnlyProtective : Bool) :
    PreviewProgram sha256 (ReconciliationPlan × ObservationEnvelope) := do
  let response ← (coordinatorObserve env ⟨request.provider, request.resource,
    request.observationCapability⟩).mapError .observation
  let (prerequisite, locked) ← validateSessionLockFacts env principal request response.observation
    protective observeOnlyProtective
  let (power, native) ← sessionPowerPlanFacts env principal request locked
  let observation := planningObservation { response with observation := native } power
  let plan ← .lift ((planResource env.debug.text request.requestId actor request.desiredResource
    observation).mapError (.planning ·.display))
  let protectiveFindings ← .lift (match protective with
    | none => .ok []
    | some context => (protectiveFinding context).map ([·]))
  let plan := { plan with
    findings := plan.findings ++ prerequisite.toList ++ protectiveFindings
      ++ power.elim [] (·.findings) }
  .modify (World.log (.planned request observation plan))
  return (plan, native)

/-- `authority_candidate` -/
def previewAuthorityCandidate (request : PlanDesiredStateRequest) :
    PreviewProgram sha256 (ReconciliationPlan × ObservationEnvelope) := do
  .lift (validateRequest env.debug.text request)
  buildFreshPlan env principal actor request none false

/-- `protective_authority_candidate` -/
def previewProtectiveCandidate (request : PlanDesiredStateRequest)
    (context : ProtectiveLockContext) :
    PreviewProgram sha256 (ReconciliationPlan × ObservationEnvelope) := do
  .lift ((context.requireRequest principal actor request).mapError .planning)
  .lift (validateRequest env.debug.text request)
  buildFreshPlan env principal actor request (some context) false

/-- `protective_recovery_candidate` -/
def previewProtectiveRecovery (request : PlanDesiredStateRequest) :
    PreviewProgram sha256 (ReconciliationPlan × ObservationEnvelope) := do
  .require (retainedProtectiveRequest principal request = true ∧ actor = protectiveActor)
    (.planning "invalid protective observe-only scope")
  .lift (validateRequest env.debug.text request)
  buildFreshPlan env principal actor request none true

/-- The plan that recovery and reconciliation make: a retained protective request is only observed.
-/
def freshPlan (protective : Bool) (principal : AuthenticatedPrincipal) (actor : Actor)
    (request : PlanDesiredStateRequest) :
    PreviewProgram sha256 (ReconciliationPlan × ObservationEnvelope) :=
  if protective then previewProtectiveRecovery env principal actor request
  else previewAuthorityCandidate env principal actor request

/-! ### What planning does -/

section Facts

open Program

theorem quiet_coordinatorObserve (request : ObservationRequest) :
    Guarantees Quiet (coordinatorObserve env request) := by
  refine (quiet_askObserver env request).bind fun answer => ?_
  cases answer with
  | error reason => exact .fail
  | ok observation =>
    refine (quiet_readClock env).bind fun now => .bind .query fun result => ?_
    refine .bind (Guarantees.modify ?_) fun _ => .lift
    exact fun world => quiet_of_eq rfl rfl rfl

theorem quiet_observeNamed (provider capability : String) (resource : ResourceId) :
    Guarantees Quiet (observeNamed env provider capability resource) :=
  Guarantees.lift.bind fun _ => .bind .lift fun _ =>
    (quiet_coordinatorObserve env _).mapError.bind fun _ => .pure

variable (principal : AuthenticatedPrincipal)

theorem quiet_protectiveFacts (session observation : ObservationEnvelope)
    (context : ProtectiveLockContext) :
    Guarantees Quiet (protectiveFacts env principal session observation context) := by
  refine .bind .lift fun _ => (quiet_observeNamed env _ _ _).mapError.bind fun event => ?_
  refine (quiet_readMillis env _ _).bind fun now => .bind .lift fun _ => ?_
  exact .bind .lift fun _ => .bind .lift fun _ => .pure

theorem quiet_validateSessionLockFacts (request : PlanDesiredStateRequest)
    (observation : ObservationEnvelope) (protective : Option ProtectiveLockContext)
    (observeOnly : Bool) :
    Guarantees Quiet
      (validateSessionLockFacts env principal request observation protective observeOnly) := by
  unfold validateSessionLockFacts
  split
  · exact .pure
  · refine .bind .lift fun lock => .bind .lift fun resource => ?_
    refine (quiet_observeNamed env _ _ _).bind fun session => ?_
    refine (quiet_readMillis env _ _).bind fun now => .bind .lift fun action => ?_
    refine .bind .lift fun owner => .bind .lift fun _ => ?_
    refine .bind .lift fun _ => .bind .lift fun narrowed => ?_
    cases protective with
    | none => exact .bind .pure fun _ => .bind .lift fun _ => .pure
    | some context =>
      exact (quiet_protectiveFacts env _ _ _ _).bind fun _ => .bind .lift fun _ => .pure

theorem quiet_narrowBy (native : ObservationEnvelope) (evidence : List ObservationEnvelope) :
    Guarantees Quiet (narrowBy env native evidence) := by
  induction evidence generalizing native with
  | nil => exact .pure
  | cons first rest ih =>
    exact (quiet_readMillis env _ _).bind fun _ => .bind .lift fun narrowed => ih narrowed

variable (target : SessionTransitionId)

theorem quiet_observeCoverage : Guarantees Quiet (observeCoverage env target) :=
  Guarantees.lift.bind fun _ => quiet_observeNamed env _ _ _

theorem quiet_transitionStatus (native : ObservationEnvelope) :
    Guarantees Quiet (transitionStatus env target native) := by
  refine (quiet_readMillis env _ _).bind fun now => .bind .lift fun postcondition => ?_
  split
  · refine (quiet_observeCoverage env target).bind fun coverage => ?_
    exact (quiet_readMillis env _ _).bind fun _ => .bind .lift fun _ => .pure
  · exact .pure

theorem quiet_powerFacts (action : SessionAction) (coverage native : ObservationEnvelope) :
    Guarantees Quiet (powerFacts env principal target action coverage native) := by
  refine .bind .lift fun _ => (quiet_observeNamed env _ _ _).bind fun conditions => ?_
  refine .bind .lift fun _ => (quiet_observeNamed env _ _ _).bind fun permission => ?_
  refine (quiet_readMillis env _ _).bind fun now => .bind .lift fun _ => ?_
  have narrowed : Guarantees Quiet (do
      let native ← narrowBy env native [conditions, permission]
      return ([nativeFinding env conditions, nativeFinding env permission], native)) :=
    (quiet_narrowBy env _ _).bind fun _ => .pure
  dsimp only
  split
  · exact (quiet_readMillis env _ _).bind fun _ => .bind .lift fun _ =>
      Guarantees.require.bind fun _ => narrowed
  · exact narrowed

theorem quiet_pendingFacts (native : ObservationEnvelope) :
    Guarantees Quiet (pendingFacts env principal target native) := by
  refine .bind .lift fun _ => (quiet_observeNamed env _ _ _).bind fun session => ?_
  refine (quiet_readMillis env _ _).bind fun now => .bind .lift fun _ => ?_
  refine (quiet_observeCoverage env target).bind fun coverage => ?_
  refine (quiet_readMillis env _ _).bind fun later => .bind .lift fun lock => ?_
  refine .bind .require fun _ => (quiet_narrowBy env _ _).bind fun narrowed => ?_
  dsimp only
  split
  · exact .pure
  · exact (quiet_powerFacts env _ _ _ _ _).bind fun _ => .pure

theorem quiet_sessionPowerPlanFacts (request : PlanDesiredStateRequest)
    (native : ObservationEnvelope) :
    Guarantees Quiet (sessionPowerPlanFacts env principal request native) := by
  unfold sessionPowerPlanFacts
  split
  · exact .pure
  · refine .bind .lift fun target => .bind .require fun _ => ?_
    refine (quiet_transitionStatus env _ _).bind fun status =>
      Guarantees.lift.bind fun completed => ?_
    refine (quiet_narrowBy env _ _).bind fun narrowed => ?_
    dsimp only
    split
    · exact .pure
    · exact (quiet_pendingFacts env _ _ _).bind fun _ => .pure

/-- Building a plan observes, and changes nothing else. -/
theorem quiet_buildFreshPlan (actor : Actor) (request : PlanDesiredStateRequest)
    (protective : Option ProtectiveLockContext) (observeOnly : Bool) :
    Guarantees Quiet (buildFreshPlan env principal actor request protective observeOnly) := by
  refine (quiet_coordinatorObserve env _).mapError.bind fun response => ?_
  refine (quiet_validateSessionLockFacts env _ _ _ _ _).bind fun locked => ?_
  refine (quiet_sessionPowerPlanFacts env _ _ _).bind fun power => ?_
  refine .lift_bind fun plan computed => .bind .lift fun findings => ?_
  obtain ⟨under, -, -⟩ := plannedUnder_of_planResource (mapError_eq_ok.mp computed)
  refine .bind (quiet_modify fun world => ?_) fun _ => .pure
  exact quiet_log rfl world (under.withFindings _)

/-- A plan was made for a request between two states, and is the newest event in the second. -/
structure FreshPlan (request : PlanDesiredStateRequest) (actor : Actor) (plan : ReconciliationPlan)
    (world world' : World sha256) : Prop where
  recorded : ∃ observation earlier, world'.trace = .planned request observation plan :: earlier ∧
    world.trace <:+ earlier ∧
      PlannedUnder request.requestId request.desiredResource observation plan
  actor_eq : plan.actor = actor
  disabled : plan.executionAuthorized = false

/-- A plan that was built is fresh. -/
theorem freshPlan_of_buildFreshPlan {principal : AuthenticatedPrincipal} {actor : Actor}
    {request : PlanDesiredStateRequest} {protective : Option ProtectiveLockContext}
    {observeOnly : Bool} {world world' : World sha256} {plan : ReconciliationPlan}
    {observation : ObservationEnvelope}
    (built : Returns (buildFreshPlan env principal actor request protective observeOnly) world
      (plan, observation) world') : FreshPlan request actor plan world world' := by
  obtain ⟨response, _, observed, facts⟩ := built.bind
  obtain ⟨⟨prerequisite, locked⟩, _, lockFacts, power⟩ := facts.bind
  obtain ⟨⟨power, native⟩, before, powerFacts, planning⟩ := power.bind
  have quiet :=
    trans_of Quiet (trans_of Quiet ((quiet_coordinatorObserve env _).mapError.related observed)
    ((quiet_validateSessionLockFacts env _ _ _ _ _).related lockFacts))
    ((quiet_sessionPowerPlanFacts env _ _ _).related powerFacts)
  obtain ⟨base, computed, listing⟩ := planning.bind_lift
  obtain ⟨findings, -, logging⟩ := listing.bind_lift
  obtain ⟨_, _, logged, last⟩ := logging.bind
  obtain ⟨same, rfl⟩ := last.pure
  cases logged.modify
  cases same
  obtain ⟨under, actorEq, disabled⟩ := plannedUnder_of_planResource (mapError_eq_ok.mp computed)
  refine ⟨⟨_, _, rfl, quiet.records.suffix, under.withFindings _⟩, actorEq, ?_⟩
  rw [ReconciliationPlan.executionAuthorized]

section Previews

variable {principal : AuthenticatedPrincipal} {actor : Actor} {request : PlanDesiredStateRequest}
variable {world world' : World sha256} {plan : ReconciliationPlan}
    {observation : ObservationEnvelope}

/-- So is the plan of a preview. -/
theorem freshPlan_of_previewAuthorityCandidate
    (ended : Returns (previewAuthorityCandidate env principal actor request) world
      (plan, observation) world') : FreshPlan request actor plan world world' := by
  obtain ⟨_, -, built⟩ := ended.bind_lift
  exact freshPlan_of_buildFreshPlan env built

theorem freshPlan_of_previewProtectiveCandidate {context : ProtectiveLockContext}
    (ended : Returns (previewProtectiveCandidate env principal actor request context) world
      (plan, observation) world') : FreshPlan request actor plan world world' := by
  obtain ⟨_, -, validating⟩ := ended.bind_lift
  obtain ⟨_, -, built⟩ := validating.bind_lift
  exact freshPlan_of_buildFreshPlan env built

theorem freshPlan_of_freshPlan {protective : Bool}
    (ended : Returns (freshPlan env protective principal actor request) world
      (plan, observation) world') : FreshPlan request actor plan world world' := by
  unfold freshPlan at ended
  split at ended
  · obtain ⟨-, validating⟩ := ended.bind_require
    obtain ⟨_, -, built⟩ := validating.bind_lift
    exact freshPlan_of_buildFreshPlan env built
  · exact freshPlan_of_previewAuthorityCandidate env ended

end Previews

theorem quiet_previewAuthorityCandidate (actor : Actor) (request : PlanDesiredStateRequest) :
    Guarantees Quiet (previewAuthorityCandidate env principal actor request) :=
  Guarantees.lift.bind fun _ => quiet_buildFreshPlan env _ _ _ _ _

theorem quiet_previewProtectiveCandidate (actor : Actor) (request : PlanDesiredStateRequest)
    (context : ProtectiveLockContext) :
    Guarantees Quiet (previewProtectiveCandidate env principal actor request context) :=
  Guarantees.lift.bind fun _ => .bind .lift fun _ => quiet_buildFreshPlan env _ _ _ _ _

end Facts

end Planning

end Linura.Control
