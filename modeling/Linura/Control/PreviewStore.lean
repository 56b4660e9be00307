import Linura.Control.PlanPreview
import Linura.Lib.Retention

/-!
# Retained previews

Control retains the plans that it previewed, so that a repeated request is answered with the plan it
was answered with before.  The store is bounded by a number of entries and by a number of bytes, and
makes room by dropping its oldest previews.

The plan that a call would make afresh is an argument here: what is retained and replayed does not
depend on how plans are made.
-/

namespace Linura.Control

open Linura.Lib Linura.Core Linura.Planner

/-- Principals are ordered by their text. -/
instance : LinearOrder AuthenticatedPrincipal :=
  LinearOrder.lift' AuthenticatedPrincipal.value fun principal principal' same => by
    cases principal
    cases principal'
    simpa using same

/-- The errors that planning with retention can report: those of fresh planning, and two more of
`PlanPreviewControlError`. -/
inductive PreviewError
  | planning (error : PlanPreviewControlError)
  | idempotencyConflict (planId : PlanId)
  | retention (reason : String)
  deriving DecidableEq

structure NormalizedPlanInput where
  principal : AuthenticatedPrincipal
  request : PlanDesiredStateRequest
  deriving DecidableEq

abbrev PreviewKey := AuthenticatedPrincipal ×ₗ PlanId

structure StoredPreview where
  input : NormalizedPlanInput
  plan : ReconciliationPlan
  retainedBytes : Nat

namespace NormalizedPlanInput

/-- `NormalizedPlanInput::new` -/
def new (debugText : String → String) (principal : AuthenticatedPrincipal)
    (request : PlanDesiredStateRequest) : Except PreviewError NormalizedPlanInput := do
  (validateRequest debugText request).mapError .planning
  return ⟨principal, request⟩

/-- `NormalizedPlanInput::plan_id` -/
def planId (input : NormalizedPlanInput) : Except PreviewError PlanId :=
  (typedId "plan id" input.request.requestId.value).mapError fun reason =>
    .planning (.invalidRequest reason)

/-- `PreviewKey::from_input` -/
def key (input : NormalizedPlanInput) : Except PreviewError PreviewKey := do
  return toLex (input.principal, ← input.planId)

end NormalizedPlanInput

/-! ### Estimates -/

/-- A sum that stops at the largest number. -/
def saturatingSum (numbers : List Nat) : Nat := numbers.foldl saturatingAdd 0

/-- `estimate_key_bytes` -/
def estimateKeyBytes (key : PreviewKey) : Nat :=
  saturatingAdd (ofLex key).1.value.utf8ByteSize (ofLex key).2.value.utf8ByteSize

/-- `semantic_reason_bytes` -/
def semanticReasonBytes (reason : SemanticReason) : Nat :=
  saturatingSum [reason.summary.utf8ByteSize,
    saturatingSum (reason.intentIds.map (·.value.utf8ByteSize)),
    saturatingSum (reason.requirementIds.map (·.value.utf8ByteSize)),
    saturatingSum (reason.capabilityIds.map (·.value.utf8ByteSize))]

/-- `estimate_input_bytes` -/
def estimateInputBytes (input : NormalizedPlanInput) : Nat :=
  saturatingSum [input.principal.value.utf8ByteSize, input.request.requestId.value.utf8ByteSize,
    input.request.provider.value.utf8ByteSize, input.request.resource.value.utf8ByteSize,
    input.request.observationCapability.value.utf8ByteSize,
    semanticReasonBytes input.request.reason,
    saturatingSum (input.request.desiredState.entries.map fun entry =>
      saturatingAdd entry.1.utf8ByteSize entry.2.utf8ByteSize)]

/-- `estimate_plan_bytes` -/
def estimatePlanBytes (plan : ReconciliationPlan) : Nat :=
  saturatingSum [plan.id.value.utf8ByteSize, plan.requestId.value.utf8ByteSize,
    plan.actor.id.value.utf8ByteSize, plan.provider.value.utf8ByteSize,
    plan.resource.value.utf8ByteSize, plan.observationCapability.value.utf8ByteSize,
    semanticReasonBytes plan.reason, plan.observedEvidenceId.utf8ByteSize,
    saturatingSum (plan.changes.map fun change => saturatingAdd (saturatingAdd
      change.key.utf8ByteSize ((change.current.map String.utf8ByteSize).getD 0))
      change.desired.utf8ByteSize),
    saturatingSum (plan.findings.map fun finding =>
      saturatingAdd finding.code.utf8ByteSize finding.message.utf8ByteSize)]

/-! ### The store -/

/-- The limits of a preview store that `with_limits` accepts. -/
structure PreviewLimits where
  capacity : Nat
  maxEntryBytes : Nat
  maxTotalBytes : Nat
  valid : 0 < capacity ∧ 0 < maxEntryBytes ∧ 0 < maxTotalBytes ∧ maxEntryBytes ≤ maxTotalBytes
  words : maxTotalBytes ≤ u64Max

/-- The limits of `PreviewStore::default`. -/
def PreviewLimits.default : PreviewLimits :=
  ⟨256, 128 * 1024, 8 * 1024 * 1024, by decide, by decide⟩

structure PreviewStore extends Retention PreviewKey StoredPreview where
  limits : PreviewLimits

namespace PreviewStore

/-- `PreviewStore::with_limits`, for limits that it accepts. -/
def new (limits : PreviewLimits) : PreviewStore where
  entries := .empty
  order := []
  retained := 0
  limits := limits

variable (store : PreviewStore) (input : NormalizedPlanInput) (plan : ReconciliationPlan)

/-- `PreviewStore::replay` -/
def replay : Except PreviewError (Option ReconciliationPlan) := do
  let key ← input.key
  match store.entries.get? key with
  | none => return none
  | some stored =>
    if stored.input = input then return some stored.plan
    else throw (.idempotencyConflict (ofLex key).2)

/-- The bytes that `insert` charges a preview with. -/
def previewBytes (key : PreviewKey) : Nat :=
  saturatingAdd (saturatingAdd (estimateKeyBytes key) (estimateInputBytes input))
    (estimatePlanBytes plan)

/-- The checks of `insert` up to its eviction loop.  They answer whether the preview is already
there, under which key it goes and what it weighs. -/
def admission : Except PreviewError (Bool × PreviewKey × Nat) := do
  let key ← input.key
  demand (plan.id = (ofLex key).2 ∧ plan.requestId = input.request.requestId)
    (.retention "retained preview identity does not match normalized request")
  demand (plan.provider = input.request.provider ∧ plan.resource = input.request.resource
      ∧ plan.observationCapability = input.request.observationCapability
      ∧ plan.reason = input.request.reason)
    (.retention "retained preview route or semantic reason does not match request")
  match store.entries.get? key with
  | some stored =>
    demand (stored.input = input ∧ stored.plan = plan) (.idempotencyConflict (ofLex key).2)
    return (true, key, stored.retainedBytes)
  | none =>
    let bytes := previewBytes input plan key
    demand (bytes ≤ store.limits.maxEntryBytes ∧ bytes ≤ store.limits.maxTotalBytes)
      (.retention ("preview requires " ++ toString bytes
        ++ " retained bytes, exceeding per-entry limit " ++ toString store.limits.maxEntryBytes))
    return (false, key, bytes)

/-- The error of an eviction loop that finds nothing to drop. -/
def inconsistent : PreviewError := .retention "preview retention accounting is inconsistent"

/-- `PreviewStore::insert`: its answer and the store it leaves. -/
def insert : Except PreviewError Unit × PreviewStore :=
  match store.admission input plan with
  | .error error => (.error error, store)
  | .ok (true, _, _) => (.ok (), store)
  | .ok (false, key, bytes) =>
    match Retention.evict StoredPreview.retainedBytes store.limits.capacity
        store.limits.maxTotalBytes bytes store.entries store.retained store.order with
    | (false, rest) => (.error inconsistent, { rest with limits := store.limits })
    | (true, rest) => (.ok (), { rest.push StoredPreview.retainedBytes key ⟨input, plan, bytes⟩ with
        limits := store.limits })

/-- The accounts of a store agree with each other and keep to its limits. -/
def Accounted : Prop :=
  store.toRetention.Accounted StoredPreview.retainedBytes store.limits.capacity
    store.limits.maxTotalBytes

/-- All that is retained and the new preview are in memory at once, so that their bytes are counted
by a word.  Only the largest possible limit makes this matter. -/
def Addressable : Prop :=
  store.limits.maxTotalBytes = u64Max → ∀ key, input.key = .ok key →
    store.retained + previewBytes input plan key ≤ u64Max

variable {store input plan}

variable {key : PreviewKey}

/-- What the checks before the loop establish. -/
theorem admit_eq_ok {present : Bool} {bytes : Nat}
    (admitted : store.admission input plan = .ok (present, key, bytes)) :
    input.key = .ok key ∧
      (present = true → store.entries.get? key = some ⟨input, plan, bytes⟩) ∧
      (present = false → store.entries.get? key = none ∧ bytes = previewBytes input plan key ∧
        bytes ≤ store.limits.maxTotalBytes) := by
  unfold admission at admitted
  obtain ⟨built, keyed, rest⟩ := bind_eq_ok.mp admitted
  obtain ⟨-, rest⟩ := check_bind_eq_ok.mp rest
  obtain ⟨-, rest⟩ := check_bind_eq_ok.mp rest
  cases found : store.entries.get? built with
  | some stored =>
    rw [found] at rest
    obtain ⟨same, done⟩ := check_bind_eq_ok.mp rest
    obtain ⟨rfl, rfl⟩ := demand_eq_ok.mp same
    cases done
    exact ⟨keyed, fun _ => found, fun absent => by cases absent⟩
  | none =>
    rw [found] at rest
    obtain ⟨small, done⟩ := check_bind_eq_ok.mp rest
    cases done
    exact ⟨keyed, fun absent => (by cases absent), fun _ => ⟨found, rfl, (demand_eq_ok.mp small).2⟩⟩

/-- The three ways in which an insertion ends: refused without a change, already there, or added
after the oldest `count` previews were dropped. -/
theorem insert_cases (accounted : store.Accounted) (addressable : store.Addressable input plan) :
    (∃ error, store.insert input plan = (.error error, store) ∧
        store.admission input plan = .error error) ∨
      (∃ key stored, input.key = .ok key ∧ store.entries.get? key = some stored ∧
        stored.input = input ∧ stored.plan = plan ∧ store.insert input plan = (.ok (), store)) ∨
      ∃ key count after, input.key = .ok key ∧ store.entries.get? key = none ∧
        store.insert input plan = (.ok (), after) ∧ after.limits = store.limits ∧
        after.Accounted ∧ after.order = store.order.drop count ++ [key] ∧
        ∀ other, after.entries.get? other =
          if other = key then some ⟨input, plan, previewBytes input plan key⟩
          else if other ∈ store.order.take count then none else store.entries.get? other := by
  cases admitted : store.admission input plan with
  | error error => exact .inl ⟨error, by rw [insert, admitted], rfl⟩
  | ok answer =>
    obtain ⟨present, key, bytes⟩ := answer
    obtain ⟨keyed, ifPresent, ifAbsent⟩ := admit_eq_ok admitted
    cases present with
    | true =>
      exact .inr (.inl ⟨key, _, keyed, ifPresent rfl, rfl, rfl, by rw [insert, admitted]⟩)
    | false =>
      obtain ⟨fresh, rfl, small⟩ := ifAbsent rfl
      have words := store.limits.words
      have noOverflow : store.limits.maxTotalBytes < u64Max ∨
          store.retained + previewBytes input plan key ≤ u64Max :=
        (Nat.lt_or_eq_of_le words).imp_right fun largest => addressable largest key keyed
      obtain ⟨count, rest, evicted, order, lookups, balanced, lenRoom, room⟩ :=
        Retention.evict_spec store.limits.valid.1 small accounted.toBalanced noOverflow
      have stillFresh : rest.entries.get? key = none := by
        rw [lookups, fresh, ite_self]
      let stored : StoredPreview := ⟨input, plan, previewBytes input plan key⟩
      have accounts : Retention.Accounted StoredPreview.retainedBytes store.limits.capacity
          store.limits.maxTotalBytes (rest.push StoredPreview.retainedBytes key stored) :=
        Retention.accounted_push balanced stillFresh lenRoom room words
      refine .inr (.inr ⟨key, count, { rest.push StoredPreview.retainedBytes key stored with
        limits := store.limits }, keyed, fresh, by simp only [insert, admitted, evicted]; rfl, rfl,
        accounts, ?_, fun other => ?_⟩)
      · rw [← order]
        rfl
      · change (rest.entries.insert key _).get? other = _
        rw [BTreeMap.get?_insert, lookups]
        congr

/-- What is retained under a key is never replaced: an insertion keeps it or drops it. -/
theorem get?_insert (accounted : store.Accounted) (addressable : store.Addressable input plan)
    {stored : StoredPreview} (kept : store.entries.get? key = some stored) :
    (store.insert input plan).2.entries.get? key = some stored ∨
      (store.insert input plan).2.entries.get? key = none := by
  obtain ⟨error, same, -⟩ | ⟨_, _, -, -, -, -, same⟩ | ⟨key', count, after, -, fresh, same, -, -, -,
    lookups⟩ := insert_cases accounted addressable
  · exact .inl (by rw [same, kept])
  · exact .inl (by rw [same, kept])
  · rw [same, lookups]
    by_cases new : key = key'
    · rw [new, fresh] at kept
      cases kept
    · rw [if_neg new, kept]
      by_cases dropped : key ∈ store.order.take count
      · exact .inr (if_pos dropped)
      · exact .inl (if_neg dropped)

/-! ### Runs -/

/-- A call of the store. -/
inductive Call
  | replay (input : NormalizedPlanInput)
  | insert (input : NormalizedPlanInput) (plan : ReconciliationPlan)

def after (store : PreviewStore) : Call → PreviewStore
  | .replay _ => store
  | .insert input plan => (store.insert input plan).2

/-- The memory holds what a call adds to the store. -/
def Fits (store : PreviewStore) : Call → Prop
  | .replay _ => True
  | .insert input plan => store.Addressable input plan

/-- `Run store calls store'`: the calls lead from one store to the other, within the memory. -/
inductive Run : PreviewStore → List Call → PreviewStore → Prop
  | nil (store : PreviewStore) : Run store [] store
  | cons {store store' : PreviewStore} {call : Call} {calls : List Call} (fits : store.Fits call)
      (rest : Run (store.after call) calls store') : Run store (call :: calls) store'

theorem accounted_new (limits : PreviewLimits) : (new limits).Accounted where
  nodup := List.nodup_nil
  mem_order key := by simp [new, BTreeMap.keys, BTreeMap.empty]
  retained_eq := rfl
  len_le := Nat.zero_le _
  retained_le := Nat.zero_le _

/-- A call that fits keeps the accounts. -/
theorem accounted_after {call : Call} (accounted : store.Accounted) (fits : store.Fits call) :
    (store.after call).Accounted := by
  cases call with
  | replay input => exact accounted
  | insert input plan =>
    obtain ⟨error, same, -⟩ | ⟨_, _, -, -, -, -, same⟩ | ⟨_, _, later, -, -, same, -, keeps, -⟩ :=
      insert_cases accounted fits
    · simpa only [after, same] using accounted
    · simpa only [after, same] using accounted
    · simpa only [after, same] using keeps

/-- So does a run of them. -/
theorem accounted_run {store' : PreviewStore} {calls : List Call} (run : Run store calls store')
    (accounted : store.Accounted) : store'.Accounted := by
  induction run with
  | nil store => exact accounted
  | cons fits rest ih => exact ih (accounted_after accounted fits)

/-- A key is retained by every store along a run. -/
def RetainedAlong (key : PreviewKey) (store : PreviewStore) : List Call → Prop
  | [] => store.entries.get? key ≠ none
  | call :: calls => store.entries.get? key ≠ none ∧ RetainedAlong key (store.after call) calls

/-- As long as a preview is not dropped, it stays what it is. -/
theorem get?_run {store' : PreviewStore} {calls : List Call} {stored : StoredPreview}
    (run : Run store calls store') (accounted : store.Accounted)
    (retained : RetainedAlong key store calls) (kept : store.entries.get? key = some stored) :
    store'.entries.get? key = some stored := by
  induction run with
  | nil store => exact kept
  | @cons store store' call calls fits rest ih =>
    obtain ⟨-, later⟩ := retained
    refine ih (accounted_after accounted fits) later ?_
    have notDropped : (store.after call).entries.get? key ≠ none := by
      cases calls with
      | nil => exact later
      | cons next calls => exact later.1
    cases call with
    | replay input => exact kept
    | insert input plan => exact (get?_insert accounted fits kept).resolve_right notDropped

end PreviewStore

/-! ### Planning with retention -/

/-- `PlanPreview`.  Its status and finding levels are those of the plan, under the same names. -/
structure PlanPreview where
  planId : PlanId
  requestId : RequestId
  actor : Actor
  provider : ProviderId
  resource : ResourceId
  observationCapability : CapabilityId
  reason : SemanticReason
  observedEvidenceId : String
  prospectiveRisk : RiskClass
  status : PlanStatus
  executionAuthorized : Bool
  changes : List StateChange
  findings : List PlanFinding

/-- `preview_from_plan` -/
def previewFromPlan (plan : ReconciliationPlan) : PlanPreview where
  planId := plan.id
  requestId := plan.requestId
  actor := plan.actor
  provider := plan.provider
  resource := plan.resource
  observationCapability := plan.observationCapability
  reason := plan.reason
  observedEvidenceId := plan.observedEvidenceId
  prospectiveRisk := plan.prospectiveRisk
  status := plan.status
  executionAuthorized := plan.executionAuthorized
  changes := plan.changes
  findings := plan.findings

/-- `plan_desired_state`, where `fresh` is what `build_fresh_plan` would answer now: the answer, and
the store it leaves. -/
def planDesiredState (debugText : String → String) (store : PreviewStore)
    (principal : AuthenticatedPrincipal) (request : PlanDesiredStateRequest)
    (fresh : Except PreviewError ReconciliationPlan) :
      Except PreviewError PlanPreview × PreviewStore :=
  match NormalizedPlanInput.new debugText principal request with
  | .error error => (.error error, store)
  | .ok input =>
    match store.replay input, fresh with
    | .error error, _ => (.error error, store)
    | .ok (some retained), _ => (.ok (previewFromPlan retained), store)
    | .ok none, .error error => (.error error, store)
    | .ok none, .ok plan =>
      match store.insert input plan with
      | (.error error, store') => (.error error, store')
      | (.ok (), store') => (.ok (previewFromPlan plan), store')

section Replay

variable {debugText : String → String} {store : PreviewStore} {principal : AuthenticatedPrincipal}
variable {request : PlanDesiredStateRequest} {key : PreviewKey} {stored : StoredPreview}

theorem new_eq_ok {input : NormalizedPlanInput}
    (built : NormalizedPlanInput.new debugText principal request = .ok input) :
    validateRequest debugText request = .ok () ∧ input = ⟨principal, request⟩ := by
  obtain ⟨valid, same⟩ := check_bind_eq_ok.mp built
  cases same
  exact ⟨mapError_eq_ok.mp valid, rfl⟩

/-- A request under the key of a retained preview is answered with it, if it is the request that was
answered then, and refused otherwise. -/
theorem planDesiredState_eq (valid : validateRequest debugText request = .ok ())
    (keyed : NormalizedPlanInput.key ⟨principal, request⟩ = .ok key)
    (kept : store.entries.get? key = some stored) (fresh : Except PreviewError ReconciliationPlan) :
    planDesiredState debugText store principal request fresh =
      (if stored.input = ⟨principal, request⟩ then .ok (previewFromPlan stored.plan)
        else .error (.idempotencyConflict (ofLex key).2), store) := by
  have built : NormalizedPlanInput.new debugText principal request = .ok ⟨principal, request⟩ := by
    rw [NormalizedPlanInput.new, valid]
    rfl
  have replayed : store.replay ⟨principal, request⟩ =
      if stored.input = ⟨principal, request⟩ then .ok (some stored.plan)
      else .error (.idempotencyConflict (ofLex key).2) := by
    simp only [PreviewStore.replay, keyed, ok_bind, kept]
    rfl
  simp only [planDesiredState, built, replayed]
  by_cases same : stored.input = ⟨principal, request⟩
  · simp only [if_pos same]
  · simp only [if_neg same]

/-- An answered request has its preview retained, from before or as the fresh plan. -/
theorem retained_of_planDesiredState {fresh : Except PreviewError ReconciliationPlan}
    {preview : PlanPreview} {store' : PreviewStore} (accounted : store.Accounted)
    (addressable : ∀ plan, fresh = .ok plan → store.Addressable ⟨principal, request⟩ plan)
    (answered : planDesiredState debugText store principal request fresh = (.ok preview, store')) :
    validateRequest debugText request = .ok () ∧ store'.Accounted ∧
      ∃ key stored, NormalizedPlanInput.key ⟨principal, request⟩ = .ok key ∧
        store'.entries.get? key = some stored ∧ stored.input = ⟨principal, request⟩ ∧
        preview = previewFromPlan stored.plan ∧ (store.entries.get? key = some stored ∨
          store.entries.get? key = none ∧ fresh = .ok stored.plan) := by
  unfold planDesiredState at answered
  split at answered
  · cases answered
  · rename_i input built
    obtain ⟨valid, rfl⟩ := new_eq_ok built
    split at answered
    · cases answered
    · rename_i retained replayed
      cases answered
      obtain ⟨key, keyed, rest⟩ := bind_eq_ok.mp replayed
      split at rest
      · cases rest
      · rename_i stored kept
        split at rest
        · rename_i same
          cases rest
          exact ⟨valid, accounted, key, stored, keyed, kept, same, rfl, .inl kept⟩
        · cases rest
    · cases answered
    · rename_i plan replayed
      obtain ⟨error, same, -⟩ | ⟨key, stored, keyed, kept, sameInput, samePlan, same⟩ |
          ⟨key, count, after, keyed, absent, same, -, accounts, -, lookups⟩ :=
        PreviewStore.insert_cases accounted (addressable plan rfl)
      · rw [same] at answered
        cases answered
      · rw [same] at answered
        cases answered
        exact ⟨valid, accounted, key, stored, keyed, kept, sameInput, by rw [samePlan], .inl kept⟩
      · rw [same] at answered
        cases answered
        exact ⟨valid, accounts, key, _, keyed, by rw [lookups, if_pos rfl], rfl, rfl,
          .inr ⟨absent, rfl⟩⟩

end Replay

/-- The accounts of retained previews are exact.  In every reachable store the queue, the map and
the sum agree and keep to the limits.  An insertion that fails leaves the store as it is, and fails
in the checks before the eviction loop, never in the loop itself; one that succeeds finds the
preview there, or drops a number of the oldest previews only and adds it.  A request that is
answered has its preview retained, the old one or the fresh plan; from then on, as long as the
preview is retained, it is answered in the same way, and another request under its key is refused.
-/
theorem preview_retention_exact (debugText : String → String) (limits : PreviewLimits)
    (calls : List PreviewStore.Call) (store : PreviewStore)
    (run : PreviewStore.Run (.new limits) calls store) :
    store.Accounted ∧
    (∀ input plan, store.Addressable input plan →
      (∀ error, (store.insert input plan).1 = .error error →
        (store.insert input plan).2 = store ∧ store.admission input plan = .error error) ∧
      ((store.insert input plan).1 = .ok () → ∃ key, input.key = .ok key ∧
        ((∃ stored, store.entries.get? key = some stored ∧ stored.input = input ∧
            stored.plan = plan ∧ (store.insert input plan).2 = store) ∨
          store.entries.get? key = none ∧ ∃ count,
            (store.insert input plan).2.order = store.order.drop count ++ [key] ∧
            ∀ other, (store.insert input plan).2.entries.get? other =
              if other = key then some ⟨input, plan, PreviewStore.previewBytes input plan key⟩
              else if other ∈ store.order.take count then none else store.entries.get? other))) ∧
    (∀ principal request fresh preview answered,
      (∀ plan, fresh = .ok plan → store.Addressable ⟨principal, request⟩ plan) →
      planDesiredState debugText store principal request fresh = (.ok preview, answered) →
      ∃ key stored, NormalizedPlanInput.key ⟨principal, request⟩ = .ok key ∧
        answered.entries.get? key = some stored ∧ stored.input = ⟨principal, request⟩ ∧
        preview = previewFromPlan stored.plan ∧
        (store.entries.get? key = some stored ∨
          store.entries.get? key = none ∧ fresh = .ok stored.plan) ∧
        ∀ later last, PreviewStore.Run answered later last →
          PreviewStore.RetainedAlong key answered later →
          (∀ fresh', planDesiredState debugText last principal request fresh' =
            (.ok preview, last)) ∧
          ∀ request' fresh', request'.requestId = request.requestId → request' ≠ request →
            validateRequest debugText request' = .ok () →
            planDesiredState debugText last principal request' fresh' =
              (.error (.idempotencyConflict (ofLex key).2), last)) := by
  have accounted := PreviewStore.accounted_run run (PreviewStore.accounted_new limits)
  refine ⟨accounted, fun input plan addressable => ?_, ?_⟩
  · obtain ⟨error, same, refused⟩ | ⟨key, stored, keyed, kept, sameInput, samePlan, same⟩ |
        ⟨key, count, after, keyed, absent, same, -, -, order, lookups⟩ :=
      PreviewStore.insert_cases accounted addressable
    · rw [same]
      refine ⟨fun error' failed => ⟨rfl, ?_⟩, fun done => by cases done⟩
      cases failed
      exact refused
    · rw [same]
      exact ⟨fun error failed => (by cases failed),
        fun _ => ⟨key, keyed, .inl ⟨stored, kept, sameInput, samePlan, rfl⟩⟩⟩
    · rw [same]
      exact ⟨fun error failed => (by cases failed),
        fun _ => ⟨key, keyed, .inr ⟨absent, count, order, lookups⟩⟩⟩
  · intro principal request fresh preview answered addressable answer
    obtain ⟨valid, accounts, key, stored, keyed, kept, same, rfl, origin⟩ :=
      retained_of_planDesiredState accounted addressable answer
    refine ⟨key, stored, keyed, kept, same, rfl, origin, fun later last run retained => ?_⟩
    have still := PreviewStore.get?_run run accounts retained kept
    refine ⟨fun fresh' => ?_, ?_⟩
    · rw [planDesiredState_eq valid keyed still, if_pos same]
    intro request' fresh' sameId differs valid'
    have keyed' : NormalizedPlanInput.key ⟨principal, request'⟩ = .ok key := by
      rw [← keyed, NormalizedPlanInput.key, NormalizedPlanInput.key, NormalizedPlanInput.planId,
        NormalizedPlanInput.planId, sameId]
    rw [planDesiredState_eq valid' keyed' still, if_neg fun other => ?_]
    rw [same] at other
    exact differs (congrArg NormalizedPlanInput.request other).symm

/-- A request of one principal to start a unit. -/
def unitInput (requestId : RequestId) : NormalizedPlanInput :=
  ⟨⟨"unix:uid:1001", by decide⟩, ⟨requestId, Transaction.testProvider,
    ⟨"systemd:unit:a", by decide⟩, Transaction.testCapability,
    ⟨"start", [⟨"intent:start", by decide⟩], [], []⟩,
    BTreeMap.empty.insert "active_state" "active"⟩⟩

def unitPlan (id : PlanId) (requestId : RequestId) : ReconciliationPlan :=
  let request := (unitInput requestId).request
  ⟨id, requestId, ⟨⟨"actor:1", by decide⟩, .human, true⟩, request.provider, request.resource,
    request.observationCapability, request.reason, "evidence", .readOnly,
      .noChange, .disabled, [], []⟩

/-- A store with room for one preview, which has answered a first request. -/
def fullStore : PreviewStore :=
  (PreviewStore.new ⟨1, 4096, 4096, by decide, by decide⟩).after
    (.insert (unitInput ⟨"request:1", by decide⟩)
      (unitPlan ⟨"request:1", by decide⟩ ⟨"request:1", by decide⟩))

/-- A second request drops the preview of the first one, and is answered in the same way again,
whatever would be planned afresh. -/
theorem second_preview_replayed :
    let input := unitInput ⟨"request:2", by decide⟩
    let plan := unitPlan ⟨"request:2", by decide⟩ ⟨"request:2", by decide⟩
    let answered := (planDesiredState id fullStore input.principal input.request (.ok plan)).2
    (fullStore.entries.get? (toLex (input.principal, ⟨"request:1", by decide⟩))).isSome = true ∧
      (answered.entries.get? (toLex (input.principal, ⟨"request:1", by decide⟩))).isNone = true ∧
      ∃ preview, (planDesiredState id fullStore input.principal input.request (.ok plan)).1 =
          .ok preview ∧
        ∀ fresh, planDesiredState id answered input.principal input.request fresh =
          (.ok preview, answered) := by
  intro input plan answered
  have run : PreviewStore.Run (.new ⟨1, 4096, 4096, by decide, by decide⟩)
      [.insert (unitInput ⟨"request:1", by decide⟩) _] fullStore :=
    .cons (fun largest => absurd largest (by decide)) (.nil _)
  obtain ⟨preview, answer⟩ := exists_eq_ok_of_isOk (show (planDesiredState id fullStore
    input.principal input.request (.ok plan)).1.isOk = true by decide +kernel)
  obtain ⟨-, -, replays⟩ := preview_retention_exact id _ _ _ run
  obtain ⟨key, stored, -, kept, -, -, -, replays⟩ := replays _ _ _ preview answered
    (fun _ _ largest => absurd largest (by decide)) (Prod.ext answer rfl)
  refine ⟨by decide +kernel, by decide +kernel, preview, answer, (replays [] _ (.nil _) ?_).1⟩
  rw [PreviewStore.RetainedAlong, kept]
  exact Option.some_ne_none _

end Linura.Control
