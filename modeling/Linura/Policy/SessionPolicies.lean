import Linura.Core.Session
import Linura.Policy.Review

/-!
# Policies for session locks

The policy for lock requests of a session's owner, and the policy for protective locks
before a sleep, which rests on a setting of the owner and on the sleep event.
-/

namespace Linura.Policy

open Linura.Lib Linura.Core

/-- `SessionLockPolicy` -/
def sessionLockPolicy : PolicyEngine where
  snapshot := ⟨⟨"policy:session-lock", by decide⟩, ⟨"policy:session-lock:v1", by decide⟩⟩
  evaluateDecision subject :=
    let deny : PolicyDecision :=
      .deny "session-lock policy requires an exact owner-bound native lock plan"
    if subject.status = .blocked ∨ subject.hasBlockers then
      .blocked "session-lock plan contains blockers"
    else
      match SessionLockId.fromResource subject.resource with
      | .error _ => deny
      | .ok lock =>
        if lock.epoch.uid = 0 ∨ subject.provider.value ≠ "session-locker"
            ∨ subject.capability.value ≠ "session.secure-lock.observe"
            ∨ subject.principal.value ≠ lock.epoch.ownerText
            ∨ subject.actor.kind ≠ .human ∨ !subject.actor.interactive then deny
        else if subject.status = .noChange ∧ subject.prospectiveRisk = .readOnly
            ∧ subject.changes = [] then .allow
        else if subject.status ≠ .changeProposed ∨ subject.prospectiveRisk ≠ .securitySensitive then
          deny
        else
          match subject.changes with
          | [change] =>
            if change.key ≠ "secure" then deny
            else if change.current = some "false" ∧ change.desired = "true" then
              .requireApproval .interactiveUser
                "explicit owner request to secure this native lock generation"
            else if change.current = some "true" ∧ change.desired = "false" then
              .requireApproval .sessionOwnerAuthentication
                "native session-owner authentication for this exact unlock only"
            else deny
          | _ => deny

/-- `PROTECTIVE_SLEEP_PRINCIPAL` -/
def protectiveSleepPrincipal : String := "service:system-sleep-protection"
/-- `PROTECTIVE_SLEEP_ACTOR` -/
def protectiveSleepActor : String := "actor:system-sleep-protection"

/-- The revision of a setting is the digest of its record. -/
def isSettingRevision (revision : PolicyRevisionId) : Bool :=
  match stripLead revision.value "policy:protective-lock:v1:" with
  | none => false
  | some digest => digest.utf8ByteSize = 64 && digest.toList.all isLowerHex

structure ProtectiveLockSetting where
  owner : PrincipalId
  epoch : SessionEpoch
  intent : IntentId
  revision : PolicyRevisionId
  enabled : Bool
  valid : isSettingRevision revision = true ∧ epoch.uid ≠ 0 ∧ owner.value = epoch.ownerText
  deriving DecidableEq

/-- `ProtectiveLockPolicy` -/
def protectiveLockPolicy (setting : ProtectiveLockSetting) (event : SleepInvocationId)
    (lock : SessionLockId) : PolicyEngine where
  snapshot := ⟨⟨"policy:protective-lock", by decide⟩, setting.revision⟩
  evaluateDecision subject :=
    let deny : PolicyDecision :=
      .deny "protective-lock policy does not cover this exact event and canonical lock plan"
    if subject.status = .blocked ∨ subject.hasBlockers then
      .blocked "protective-lock plan contains blockers"
    else
      match event.protectiveRequestId setting.epoch, lock.resourceId with
      | .ok request, .ok resource =>
        if !setting.enabled ∨ lock.epoch ≠ setting.epoch
            ∨ subject.principal.value ≠ protectiveSleepPrincipal
            ∨ subject.actor.kind ≠ .service ∨ subject.actor.interactive
            ∨ subject.actor.id.value ≠ protectiveSleepActor
            ∨ subject.provider.value ≠ "session-locker"
            ∨ subject.capability.value ≠ "session.secure-lock.observe"
            ∨ subject.resource ≠ resource ∨ subject.requestId ≠ request
            ∨ subject.planId.value ≠ request.value
            ∨ subject.reason.intentIds ≠ [setting.intent] then deny
        else if subject.status = .noChange ∧ subject.prospectiveRisk = .readOnly
            ∧ subject.changes = [] then .allow
        else if subject.status ≠ .changeProposed ∨ subject.prospectiveRisk ≠ .securitySensitive then
          deny
        else
          match subject.changes with
          | [change] =>
            if change.key = "secure" ∧ change.current = some "false" ∧ change.desired = "true" then
              .allow
            else deny
          | _ => deny
      | _, _ => deny

end Linura.Policy
