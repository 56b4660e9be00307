import Linura.Provisioning.Operations
import Linura.Provisioning.RoundTrip

/-!
# What an operation does to a state

The documents that a bootstrap accepts are well formed.  Each operation of the coordinator that
computes a candidate does one of a few things, which are listed here with everything that was
checked; what holds along runs is derived from this list.
-/

namespace Linura.Bootstrap

open Linura.Lib Linura.Transaction

/-! ### What readers yield -/

namespace LineReader

variable {α β : Type}

/-- Whatever the lines are, a value that is read satisfies `P`. -/
def Yields (reader : LineReader α) (P : α → Prop) : Prop :=
  ∀ list value rest, reader.run list = .ok (value, rest) → P value

variable {P : α → Prop} {first : LineReader α} {next : α → LineReader β} {Q : β → Prop}

theorem Yields.bind (yields : Yields first P) (then_ : ∀ value, P value → Yields (next value) Q) :
    Yields (first >>= next) Q := by
  intro list value rest read
  rw [StateT.run_bind] at read
  obtain ⟨⟨middle, rest'⟩, before, after⟩ := bind_eq_ok.mp read
  exact then_ middle (yields _ _ _ before) _ _ _ after

/-- What follows a step decides alone, whatever the step read. -/
theorem Yields.skip (then_ : ∀ value, Yields (next value) Q) : Yields (first >>= next) Q :=
  Yields.bind (fun _ _ _ _ => trivial) fun value (_ : True) => then_ value

theorem Yields.pure {value : α} (holds : P value) : Yields (Pure.pure value : LineReader α) P := by
  rintro list value' rest ⟨⟩
  exact holds

theorem Yields.lift {computed : Except DurableBootstrapError α}
    (holds : ∀ value, computed = .ok value → P value) :
    Yields (liftM computed : LineReader α) P := by
  intro list value rest read
  cases computed with
  | error reason => cases read
  | ok value' =>
    cases read
    exact holds value rfl

theorem yields_normalize (label value : String) :
    Yields (liftM (normalizeIdentifier label value) : LineReader String)
      (isIdentifier · = true) := by
  refine .lift fun value' ok => ?_
  obtain ⟨identifier, rfl⟩ := normalizeIdentifier_eq_ok.mp ok
  exact identifier

end LineReader

open LineReader (Yields)

/-! ### Documents -/

/-- What is known of a manifest that was read. -/
structure ProvisioningManifest.Accepted (manifest : ProvisioningManifest) : Prop where
  manifestId : isIdentifier manifest.manifestId = true
  sourceRef : ∀ value, manifest.sourceRef = some value → value ≠ "-" ∧ isIdentifier value = true
  setupRef : ∀ value, manifest.setupRef = some value → value ≠ "-" ∧ isIdentifier value = true
  profileRef : ∀ value, manifest.machineProfileRef = some value → value ≠ "-" ∧
    isIdentifier value = true
  hostIdentity : ∀ value, manifest.hostIdentity = some value → value ≠ "-" ∧
    isIdentifier value = true
  identity : isSha256Text manifest.identity = true

theorem yields_identifierField (name : String) :
    Yields (ProvisioningManifest.identifierField name) (isIdentifier · = true) :=
  .skip fun value => LineReader.yields_normalize name value

theorem yields_optionalReference (name : String) :
    Yields (ProvisioningManifest.optionalReference name)
    fun found => ∀ value, found = some value → value ≠ "-" ∧ isIdentifier value = true := by
  refine .skip fun text => ?_
  by_cases dash : text = "-"
  · rw [if_pos dash]
    exact .pure nofun
  · rw [if_neg dash]
    intro list value rest read
    rw [StateT.run_bind] at read
    obtain ⟨⟨name', rest'⟩, before, after⟩ := bind_eq_ok.mp read
    cases after
    cases normal : normalizeIdentifier name text with
    | error reason =>
      rw [normal] at before
      cases before
    | ok text' =>
      rw [normal] at before
      cases before
      obtain ⟨identifier, rfl⟩ := normalizeIdentifier_eq_ok.mp normal
      rintro _ ⟨⟩
      exact ⟨dash, identifier⟩

/-- A manifest that is read is well formed. -/
theorem yields_manifest {identity : String} (digest : isSha256Text identity = true) :
    Yields (ProvisioningManifest.read identity) ProvisioningManifest.Accepted := by
  refine .skip fun _ => ?_
  refine (yields_identifierField _).bind fun manifestId known => ?_
  refine .skip fun sessionId => ?_
  refine .skip fun machineId => ?_
  refine .skip fun mode => ?_
  refine .skip fun connectivity => ?_
  refine .skip fun deferral => ?_
  refine (yields_optionalReference _).bind fun sourceRef source => ?_
  refine (yields_optionalReference _).bind fun setupRef setup => ?_
  refine (yields_optionalReference _).bind fun profileRef profile => ?_
  refine (yields_optionalReference _).bind fun hostIdentity host => ?_
  refine .skip fun _ => ?_
  refine .skip fun _ => ?_
  refine .skip fun _ => ?_
  exact .pure ⟨known, source, setup, profile, host, digest⟩

variable {sha256 : Sha256}

/-- So is one that is parsed with its digest. -/
theorem accepted_of_parse {bytes : Bytes} {manifest : ProvisioningManifest}
    (parsed : ProvisioningManifest.parse sha256 bytes = .ok manifest) : manifest.Accepted := by
  obtain ⟨_, -, parsed⟩ := bind_eq_ok.mp parsed
  cases text : fromUtf8 bytes with
  | none =>
    rw [text] at parsed
    cases parsed
  | some text' =>
    rw [text] at parsed
    obtain ⟨_, -, parsed⟩ := bind_eq_ok.mp parsed
    obtain ⟨payload, -, parsed⟩ := bind_eq_ok.mp parsed
    obtain ⟨⟨found, rest⟩, read, same⟩ := bind_eq_ok.mp parsed
    cases same
    exact yields_manifest (isSha256Text_sha256Hex _ _) _ _ _ read

/-- The identities of a receipt that is read are identifiers. -/
theorem yields_ownerReceipt : Yields TrustedOwnerEnrollmentReceipt.read
    fun receipt => isIdentifier receipt.ownerId = true ∧
      isIdentifier receipt.enrollmentId = true := by
  refine .skip fun _ => ?_
  refine .skip fun _ => ?_
  refine .skip fun sessionId => ?_
  refine .skip fun machineId => ?_
  refine .bind (.skip fun _ => LineReader.yields_normalize _ _)
    fun ownerId owner => ?_
  refine .bind (.skip fun _ => LineReader.yields_normalize _ _)
    fun enrollmentId enrollment => ?_
  refine .skip fun issued => ?_
  refine .skip fun _ => ?_
  exact .pure ⟨owner, enrollment⟩

/-- So are those of a receipt that is loaded. -/
theorem identifiers_of_load {key : TransactionAuthorityKey} {bytes : Bytes}
    {sessionId machineId : String} {now : ClockSample} {receipt : TrustedOwnerEnrollmentReceipt}
    (loaded : TrustedOwnerEnrollmentReceipt.load sha256 key bytes sessionId machineId now =
      .ok receipt) :
    isIdentifier receipt.ownerId = true ∧ isIdentifier receipt.enrollmentId = true := by
  obtain ⟨payload, -, loaded⟩ := bind_eq_ok.mp loaded
  obtain ⟨⟨found, rest⟩, read, loaded⟩ := bind_eq_ok.mp loaded
  obtain ⟨_, -, loaded⟩ := bind_eq_ok.mp loaded
  obtain ⟨_, -, same⟩ := bind_eq_ok.mp loaded
  cases same
  exact yields_ownerReceipt _ _ _ read

/-- Evidence is observed at a time that fits a machine word. -/
theorem observed_of_issue {stage : BootstrapStage}
    {operationId sessionId machineId verifierId observationId : String} {postcondition : Bytes}
    {now : ClockSample} {evidence : BootstrapVerificationEvidence}
    (issued : BootstrapVerificationEvidence.issue sha256 stage operationId sessionId
      machineId verifierId
      observationId postcondition now = .ok evidence) : evidence.observedUnixMs < 2 ^ 64 := by
  simp only [BootstrapVerificationEvidence.issue, bind_eq_ok, demand_eq_ok, pure_eq_ok] at issued
  obtain ⟨_, -, _, -, observed, -, _, within, _, -, _, -, _, -, _, -, _, -, same⟩ := issued
  cases same
  exact Nat.lt_of_le_of_lt within (by decide)

/-! ### Steps -/

/-- Evidence that is bound to the active stage of a state. -/
structure BoundTo (evidence : BootstrapVerificationEvidence) (active : ActiveBootstrapStage)
    (state : DurableBootstrapState) : Prop where
  stage : evidence.stage = active.stage
  operation : evidence.operationId = active.operationId
  session : evidence.sessionId = state.sessionId
  machine : evidence.machineId = state.machineId
  observed : evidence.observedUnixMs < 2 ^ 64

/-- A stage is completed by evidence. -/
def DurableBootstrapState.withVerified (state : DurableBootstrapState) (stage : BootstrapStage)
    (verification : CompletedEffectVerification) : DurableBootstrapState :=
  { state with
    effectVerifications := state.effectVerifications ++ [verification]
    completed := state.completed ++ [stage]
    active := none }

/-- The call completes a stage by evidence. -/
def BootstrapCall.verifies : BootstrapCall → Bool
  | .completeEffectVerified _ => true
  | .verifySystem _ _ => true
  | _ => false

/-- What a call does to a state, with what was checked before. -/
inductive BootstrapStep (sha256 : Sha256) (clock : ClockSamples) (state : DurableBootstrapState) :
    BootstrapCall → DurableBootstrapState → Prop
  | prepare {stage : BootstrapStage} {operationId : String} (idle : state.active = none)
      (next : state.nextStage = some stage) (identifier : isIdentifier operationId = true) :
      BootstrapStep sha256 clock state (.prepareStage stage operationId)
        { state with active := some ⟨stage, operationId, .prepared⟩ }
  | mark {operationId : String} {active : ActiveBootstrapStage} (here : state.active = some active)
      (operation : active.operationId = operationId) (prepared : active.effectState = .prepared) :
      BootstrapStep sha256 clock state (.markEffectStarted operationId)
        { state with active := some { active with effectState := .effectStarted } }
  | complete {operationId : String} {active : ActiveBootstrapStage}
      (here : state.active = some active)
      (operation : active.operationId = operationId)
      (quiet : active.stage.requiresEffectBoundary = false) :
      BootstrapStep sha256 clock state (.completeVerified operationId)
        { state with completed := state.completed ++ [active.stage], active := none }
  | verify {call : BootstrapCall} {active : ActiveBootstrapStage}
      {evidence : BootstrapVerificationEvidence} (verifies : call.verifies = true)
      (here : state.active = some active) (effectful : active.stage.requiresEffectBoundary = true)
      (started : active.effectState = .effectStarted) (bound : BoundTo evidence active state) :
      BootstrapStep sha256 clock state call
        (state.withVerified active.stage evidence.toVerification)
  | selectMode {mode : ProvisioningMode} {active : ActiveBootstrapStage}
      (here : state.active = some active) (stage : active.stage = .provisioningModeSelection)
      (unset : state.provisioning.mode = none) :
      BootstrapStep sha256 clock state (.selectProvisioning mode none) (state.withMode mode)
  | selectManifest {mode : ProvisioningMode} {bytes : Bytes} {manifest : ProvisioningManifest}
      {active : ActiveBootstrapStage} (here : state.active = some active)
      (stage : active.stage = .provisioningModeSelection) (unset : state.provisioning.mode = none)
      (parsed : ProvisioningManifest.parse sha256 bytes = .ok manifest) :
      BootstrapStep sha256 clock state (.selectProvisioning mode (some bytes))
        ((state.withManifest manifest).withMode mode)
  | bindPlan {planSha256 : String} {planCount : UInt32} {active : ActiveBootstrapStage}
      (here : state.active = some active) (stage : active.stage = .firstBootPlanning)
      (prepared : active.effectState = .prepared)
      (unset : state.provisioning.firstBootPlanSha256 = none) :
      BootstrapStep sha256 clock state (.bindFirstBootPlan planSha256 planCount)
        (state.withPlan planSha256 planCount)
  | rebindPlan {planSha256 : String} {planCount : UInt32}
      (same : state.provisioning.firstBootPlanSha256 = some planSha256) :
      BootstrapStep sha256 clock state (.bindFirstBootPlan planSha256 planCount) state
  | ownerPending {key : TransactionAuthorityKey} {receipt : Bytes} {active : ActiveBootstrapStage}
      (here : state.active = some active) (stage : active.stage = .ownerEnrollmentResolution)
      (handoff : state.provisioning.mode.any (·.isHandoff) = true)
      (unresolved : state.provisioning.ownerEnrollment = .unresolved) :
      BootstrapStep sha256 clock state (.enterOwnerEnrollmentPending key receipt)
        state.withOwnerPending
  | enrollPending {key : TransactionAuthorityKey} {bytes : Bytes} {sessionId machineId : String}
      {receipt : TrustedOwnerEnrollmentReceipt}
      (loaded : TrustedOwnerEnrollmentReceipt.load sha256 key bytes sessionId
        machineId clock.first =
        .ok receipt)
      (handoff : state.provisioning.mode.any (·.isHandoff) = true)
      (pending : state.provisioning.ownerEnrollment = .pending) :
      BootstrapStep sha256 clock state (.enrollPendingOwner key bytes sessionId machineId)
        (state.withOwner receipt.ownerId receipt.enrollmentId
          (state.provisioning.authorityGeneration + 1))
  | enrollInteractive {key : TransactionAuthorityKey} {bytes : Bytes} {sessionId machineId : String}
      {receipt : TrustedOwnerEnrollmentReceipt}
      (loaded : TrustedOwnerEnrollmentReceipt.load sha256 key bytes sessionId
        machineId clock.first =
        .ok receipt)
      (interactive : state.provisioning.mode = some .interactiveOwner)
      (unresolved : state.provisioning.ownerEnrollment = .unresolved) :
      BootstrapStep sha256 clock state (.enrollInteractiveOwner key bytes sessionId machineId)
        (state.withOwner receipt.ownerId receipt.enrollmentId
          (state.provisioning.authorityGeneration + 1))
  | recovery {active : ActiveBootstrapStage} (here : state.active = some active)
      (stage : active.stage = .ownerEnrollmentResolution)
      (mode : state.provisioning.mode = some .recovery)
      (unresolved : state.provisioning.ownerEnrollment = .unresolved) :
      BootstrapStep sha256 clock state .enterRecoveryOwnerResolution state.withRecoveryResolved

/-! ### Calls are steps -/

namespace DurableBootstrapState

variable {sha256 : Sha256} {clock : ClockSamples} {state next : DurableBootstrapState}

/-- The active stage is the required one. -/
theorem activeStageFor_eq_ok {required : BootstrapStage} {active : ActiveBootstrapStage} :
    state.activeStageFor required = .ok active ↔ state.active = some active ∧
      active.stage = required := by
  unfold activeStageFor
  cases state.active with
  | none => simp
  | some here =>
    by_cases same : here.stage = required
    · simp only [same, if_true, Except.ok.injEq, Option.some.injEq]
      exact ⟨fun eq => ⟨eq, eq ▸ same⟩, fun both => both.1⟩
    · simp only [same, if_false, Option.some.injEq, reduceCtorEq, false_iff, not_and]
      exact fun eq stage => same (eq ▸ stage)

variable {operationId : String}

theorem activeOperation_eq_ok {active : ActiveBootstrapStage} :
    state.activeOperation operationId = .ok active ↔
      state.active = some active ∧ active.operationId = operationId := by
  unfold activeOperation
  cases state.active with
  | none => simp
  | some here =>
    by_cases same : here.operationId = operationId
    · simp only [same, if_true, Except.ok.injEq, Option.some.injEq]
      exact ⟨fun eq => ⟨eq, eq ▸ same⟩, fun both => both.1⟩
    · simp only [same, if_false, Option.some.injEq, reduceCtorEq, false_iff, not_and]
      exact fun eq operation => same (eq ▸ operation)

/-- The owner is resolved in the started stage for it. -/
theorem ownerResolution_eq_ok {value : Unit} : state.ownerResolution = .ok value ↔
    ∃ active, state.active = some active ∧ active.stage = .ownerEnrollmentResolution ∧
      active.effectState = .effectStarted := by
  simp only [ownerResolution, bind_eq_ok, activeStageFor_eq_ok, demand_eq_ok, and_assoc]

theorem nextAuthorityGeneration_eq_ok {generation : Nat} :
    state.nextAuthorityGeneration = .ok generation ↔
      state.provisioning.authorityGeneration + 1 = generation ∧ generation ≤ u64Max := by
  unfold nextAuthorityGeneration
  rw [← checkedAdd_eq_some]
  cases checkedAdd state.provisioning.authorityGeneration 1 with
  | none | some => simp

/-- Preparing a stage is a step. -/
theorem step_prepareStage {stage : BootstrapStage}
    (computed : state.prepareStage stage operationId = .ok next) :
    BootstrapStep sha256 clock state (.prepareStage stage operationId) next := by
  obtain ⟨_, idle, computed⟩ := bind_eq_ok.mp computed
  cases expected : state.nextStage with
  | none =>
    rw [expected] at computed
    cases computed
  | some stage' =>
    rw [expected] at computed
    simp only [bind_eq_ok, demand_eq_ok, normalizeIdentifier_eq_ok, checked_eq_ok] at computed
    obtain ⟨_, rfl, _, ⟨identifier, rfl⟩, -, rfl⟩ := computed
    exact .prepare (demand_eq_ok.mp idle) expected identifier

/-- Completing a stage without an effect is a step. -/
theorem step_completeVerified (computed : state.completeVerifiedCandidate operationId = .ok next) :
    BootstrapStep sha256 clock state (.completeVerified operationId) next := by
  unfold completeVerifiedCandidate at computed
  cases here : state.active with
  | none =>
    -- Without an active stage there is nothing to complete.
    simp [here, completeVerified, activeOperation] at computed
  | some active =>
    simp only [here] at computed
    split at computed
    · cases computed
    · rename_i quiet
      simp only [completeVerified, bind_eq_ok, activeOperation_eq_ok, demand_eq_ok,
        checked_eq_ok] at computed
      obtain ⟨active', ⟨here', operation⟩, _, -, -, rfl⟩ := computed
      rw [here] at here'
      cases here'
      exact .complete here operation (by simpa using quiet)

/-- Completing a stage with verified evidence is a step. -/
theorem step_completeEffectVerified {call : BootstrapCall}
    {evidence : BootstrapVerificationEvidence}
    {now : ClockSample} (verifies : call.verifies = true)
    (observed : evidence.observedUnixMs < 2 ^ 64)
    (computed : state.completeEffectVerified evidence now = .ok next) :
    BootstrapStep sha256 clock state call next := by
  unfold completeEffectVerified at computed
  cases here : state.active with
  | none =>
    rw [here] at computed
    cases computed
  | some active =>
    simp only [here, bind_eq_ok, demand_eq_ok, checked_eq_ok,
      BootstrapVerificationEvidence.validateBinding] at computed
    obtain ⟨_, effectful, _, started, _, ⟨_, ⟨stage, operation, session, machine⟩, -⟩, -, rfl⟩ :=
      computed
    exact .verify verifies here effectful started ⟨stage, operation, session, machine, observed⟩

/-- Selecting how to provision is a step. -/
theorem step_selectProvisioning {mode : ProvisioningMode} {bytes : Option Bytes}
    (computed : state.candidate sha256 clock (.selectProvisioning mode bytes) = .ok next) :
    BootstrapStep sha256 clock state (.selectProvisioning mode bytes) next := by
  obtain ⟨manifest, parsed, computed⟩ := bind_eq_ok.mp computed
  obtain ⟨active, here, computed⟩ := bind_eq_ok.mp computed
  obtain ⟨_, unset, computed⟩ := bind_eq_ok.mp computed
  obtain ⟨_, -, computed⟩ := bind_eq_ok.mp computed
  obtain ⟨here, stage⟩ := activeStageFor_eq_ok.mp here
  have unset := demand_eq_ok.mp unset
  cases bytes with
  | none =>
    cases parsed
    obtain ⟨-, rfl⟩ := checkedTwice_eq_ok.mp computed
    exact .selectMode here stage unset
  | some bytes =>
    obtain ⟨manifest', read, same⟩ := bind_eq_ok.mp parsed
    cases same
    obtain ⟨_, -, computed⟩ := bind_eq_ok.mp computed
    obtain ⟨-, rfl⟩ := checkedTwice_eq_ok.mp computed
    exact .selectManifest here stage unset read

theorem step_bindFirstBootPlan {planSha256 : String} {planCount : UInt32}
    (computed : state.bindFirstBootPlan planSha256 planCount = .ok next) :
    BootstrapStep sha256 clock state (.bindFirstBootPlan planSha256 planCount) next := by
  obtain ⟨active, here, computed⟩ := bind_eq_ok.mp computed
  obtain ⟨_, prepared, computed⟩ := bind_eq_ok.mp computed
  obtain ⟨_, -, computed⟩ := bind_eq_ok.mp computed
  obtain ⟨_, -, computed⟩ := bind_eq_ok.mp computed
  obtain ⟨here, stage⟩ := activeStageFor_eq_ok.mp here
  cases bound : state.provisioning.firstBootPlanSha256 with
  | none =>
    rw [bound] at computed
    obtain ⟨-, rfl⟩ := checked_eq_ok.mp computed
    exact .bindPlan here stage (demand_eq_ok.mp prepared) bound
  | some existing =>
    rw [bound] at computed
    dsimp only at computed
    split_ifs at computed with same
    cases computed
    exact .rebindPlan (same.1 ▸ bound)

variable {key : TransactionAuthorityKey}

/-- Leaving the owner pending is a step. -/
theorem step_ownerPending {receipt : Bytes}
    (computed : state.ownerPendingCandidate sha256 clock key receipt = .ok next) :
    BootstrapStep sha256 clock state (.enterOwnerEnrollmentPending key receipt) next := by
  simp only [ownerPendingCandidate, enterOwnerEnrollmentPending, bind_eq_ok, ownerResolution_eq_ok,
    demand_eq_ok, checkedTwice_eq_ok] at computed
  obtain ⟨_, -, _, -, _, -, _, ⟨active, here, stage, -⟩, _, handoff, _, unresolved, -, rfl⟩ :=
    computed
  exact .ownerPending here stage handoff unresolved

/-- Enrolling a pending owner is a step. -/
theorem step_pendingOwner {bytes : Bytes} {sessionId machineId : String}
    (computed : state.pendingOwnerCandidate sha256 clock key bytes sessionId machineId = .ok next) :
    BootstrapStep sha256 clock state (.enrollPendingOwner key bytes sessionId machineId) next := by
  simp only [pendingOwnerCandidate, enrollPendingOwnerFresh, bind_eq_ok, demand_eq_ok,
    nextAuthorityGeneration_eq_ok, normalizeIdentifier_eq_ok, checkedTwice_eq_ok] at computed
  obtain ⟨receipt, loaded, _, -, _, ⟨-, -, handoff, pending⟩, _, -, _, ⟨rfl, -⟩, _, ⟨-, rfl⟩, _,
    ⟨-, rfl⟩, -, rfl⟩ := computed
  exact .enrollPending loaded handoff pending

/-- Enrolling an owner in the session is a step. -/
theorem step_interactiveOwner {bytes : Bytes} {sessionId machineId : String}
    (computed : state.interactiveOwnerCandidate sha256 clock key bytes sessionId
      machineId = .ok next) :
    BootstrapStep sha256 clock state
      (.enrollInteractiveOwner key bytes sessionId machineId) next := by
  simp only [interactiveOwnerCandidate, enrollOwnerFresh, bind_eq_ok, demand_eq_ok,
    ownerResolution_eq_ok, nextAuthorityGeneration_eq_ok, normalizeIdentifier_eq_ok,
    checkedTwice_eq_ok] at computed
  obtain ⟨receipt, loaded, _, -, _, -, _, ⟨interactive, unresolved⟩, _, -, _,
    ⟨rfl, -⟩, _, ⟨-, rfl⟩, _,
    ⟨-, rfl⟩, -, rfl⟩ := computed
  exact .enrollInteractive loaded interactive unresolved

/-- Every call that computes a candidate is a step. -/
theorem step_of_candidate {call : BootstrapCall}
    (computed : state.candidate sha256 clock call = .ok next) :
    BootstrapStep sha256 clock state call next := by
  cases call with
  | prepareStage stage operationId => exact step_prepareStage computed
  | markEffectStarted operationId =>
    simp only [candidate, markEffectStarted, bind_eq_ok, activeOperation_eq_ok, demand_eq_ok,
      checked_eq_ok] at computed
    obtain ⟨active, ⟨here, operation⟩, _, prepared, -, rfl⟩ := computed
    exact .mark here operation prepared
  | completeVerified operationId => exact step_completeVerified computed
  | selectProvisioning mode manifest => exact step_selectProvisioning computed
  | bindFirstBootPlan planSha256 planCount => exact step_bindFirstBootPlan computed
  | enterOwnerEnrollmentPending key receipt => exact step_ownerPending computed
  | enrollPendingOwner key receipt sessionId machineId => exact step_pendingOwner computed
  | enrollInteractiveOwner key receipt sessionId machineId => exact step_interactiveOwner computed
  | completeEffectVerified arguments =>
    obtain ⟨evidence, issued, computed⟩ := bind_eq_ok.mp computed
    exact step_completeEffectVerified rfl (observed_of_issue issued) computed
  | verifySystem stage observed =>
    obtain ⟨postcondition, -, computed⟩ := bind_eq_ok.mp computed
    obtain ⟨evidence, issued, computed⟩ := bind_eq_ok.mp computed
    obtain ⟨active, -, issued⟩ := bind_eq_ok.mp issued
    exact step_completeEffectVerified rfl (observed_of_issue issued) computed
  | enterRecoveryOwnerResolution =>
    simp only [candidate, enterRecoveryOwnerResolution, bind_eq_ok, ownerResolution_eq_ok,
      demand_eq_ok,
      checkedTwice_eq_ok] at computed
    obtain ⟨_, ⟨active, here, stage, -⟩, _, mode, _, unresolved, -, rfl⟩ := computed
    exact .recovery here stage mode unresolved

end DurableBootstrapState

/-! ### What every step keeps -/

/-- The identifiers that a call brings in are not dashes. -/
def BootstrapCall.dashFree (sha256 : Sha256) (clock : ClockSamples) : BootstrapCall → Bool
  | .prepareStage _ operationId => operationId != "-"
  | .selectProvisioning _ (some bytes) =>
    match ProvisioningManifest.parse sha256 bytes with
    | .ok manifest => manifest.manifestId != "-"
    | .error _ => true
  | .enrollPendingOwner key bytes sessionId machineId
  | .enrollInteractiveOwner key bytes sessionId machineId =>
    match TrustedOwnerEnrollmentReceipt.load sha256 key bytes sessionId machineId clock.first with
    | .ok receipt => receipt.ownerId != "-" && receipt.enrollmentId != "-"
    | .error _ => true
  | _ => true

namespace BootstrapStep

variable {sha256 : Sha256} {clock : ClockSamples} {state next : DurableBootstrapState}
    {call : BootstrapCall}

/-- The identities and the generation stay. -/
theorem identities (step : BootstrapStep sha256 clock state call next) :
    next.sessionId = state.sessionId ∧ next.machineId = state.machineId ∧
      next.generation = state.generation := by
  cases step <;> exact ⟨rfl, rfl, rfl⟩

/-- A state with an accepted manifest can be written. -/
theorem encodable_withManifest (encodable : state.Encodable) {manifest : ProvisioningManifest}
    (accepted : manifest.Accepted) (mode : ProvisioningMode) :
    ((state.withManifest manifest).withMode mode).Encodable := by
  refine ⟨encodable.generation, encodable.observed, ?_⟩
  constructor
  · rfl
  · rintro _ ⟨⟩
    exact accepted.identity
  · rintro _ ⟨⟩
    exact accepted.manifestId
  · exact accepted.sourceRef
  · exact accepted.setupRef
  · exact accepted.profileRef
  · exact accepted.hostIdentity
  · exact encodable.provisioning.authority
  · exact encodable.provisioning.generation

/-- Everything but the manifest and the authority of the owner may change freely. -/
theorem encodable_other {provisioning : ProvisioningState} (before : provisioning.Encodable)
    {mode : Option ProvisioningMode} {plan : Option String} {count : UInt32}
    {enrollment : OwnerEnrollmentState} {authority : Option OwnerAuthorityRecord} {generation : Nat}
    {retired : Bool} (known : ∀ record, authority = some record →
      isIdentifier record.ownerId = true ∧ isIdentifier record.enrollmentId = true)
    (within : generation < 2 ^ 64) : ProvisioningState.Encodable { provisioning with
      mode := mode
      firstBootPlanSha256 := plan
      firstBootPlanCount := count
      ownerEnrollment := enrollment
      ownerAuthority := authority
      authorityGeneration := generation
      preparerAuthorityRetired := retired } :=
  ⟨before.together, before.identity, before.manifestId, before.sourceRef, before.setupRef,
    before.profileRef, before.hostIdentity, known, within⟩

theorem encodable_withOwner (encodable : state.Encodable) {ownerId enrollmentId : String}
    (owner : isIdentifier ownerId = true) (enrollment : isIdentifier enrollmentId = true)
    (generation : Nat) (within : generation < 2 ^ 64) :
    (state.withOwner ownerId enrollmentId generation).Encodable := by
  refine ⟨encodable.generation, encodable.observed,
    encodable_other encodable.provisioning ?_ within⟩
  rintro _ ⟨⟩
  exact ⟨owner, enrollment⟩

/-- An owner who is not enrolled has authority of generation zero. -/
theorem authorityGeneration_eq_zero (valid : state.provisioning.Valid)
    (notEnrolled : state.provisioning.ownerEnrollment ≠ .enrolled) :
    state.provisioning.authorityGeneration = 0 ∧ state.provisioning.ownerAuthority = none := by
  have owner := valid.owner
  unfold ProvisioningState.OwnerValid at owner
  cases enrollment : state.provisioning.ownerEnrollment with
  | unresolved =>
    rw [enrollment] at owner
    exact ⟨owner.2, owner.1⟩
  | pending =>
    rw [enrollment] at owner
    exact ⟨owner.2.2.2, owner.2.2.1⟩
  | enrolled => exact absurd enrollment notEnrolled
  | recoveryResolved =>
    rw [enrollment] at owner
    exact ⟨owner.2.2.2, owner.2.2.1⟩

/-- A step keeps the texts and numbers of a state in bounds. -/
theorem encodable (step : BootstrapStep sha256 clock state call next) (valid : state.Valid)
    (encodable : state.Encodable) : next.Encodable := by
  have before := encodable.provisioning
  cases step with
  | prepare | mark | complete => exact ⟨encodable.generation, encodable.observed, before⟩
  | verify _ _ _ _ bound =>
    refine ⟨encodable.generation, ?_, before⟩
    intro verification member
    rcases List.mem_append.mp member with earlier | last
    · exact encodable.observed verification earlier
    · obtain rfl := List.mem_singleton.mp last
      exact bound.observed
  | selectMode =>
    exact ⟨encodable.generation, encodable.observed,
      encodable_other before before.authority before.generation⟩
  | selectManifest _ _ _ parsed =>
    exact encodable_withManifest encodable (accepted_of_parse parsed) _
  | bindPlan =>
    exact ⟨encodable.generation, encodable.observed,
      encodable_other before before.authority before.generation⟩
  | rebindPlan => exact encodable
  | ownerPending =>
    exact ⟨encodable.generation, encodable.observed,
      encodable_other before nofun (Nat.two_pow_pos 64)⟩
  | enrollPending loaded _ pending =>
    obtain ⟨owner, enrollment⟩ := identifiers_of_load loaded
    obtain ⟨zero, -⟩ := authorityGeneration_eq_zero valid.provisioning (by rw [pending]; decide)
    exact encodable_withOwner encodable owner enrollment _ (by rw [zero]; decide)
  | enrollInteractive loaded _ unresolved =>
    obtain ⟨owner, enrollment⟩ := identifiers_of_load loaded
    obtain ⟨zero, -⟩ := authorityGeneration_eq_zero valid.provisioning (by rw [unresolved]; decide)
    exact encodable_withOwner encodable owner enrollment _ (by rw [zero]; decide)
  | recovery =>
    exact ⟨encodable.generation, encodable.observed,
      encodable_other before nofun (Nat.two_pow_pos 64)⟩

/-- A step brings in no dash if the call does not. -/
theorem dashFree (step : BootstrapStep sha256 clock state call next)
    (plain : call.dashFree sha256 clock = true) (dashFree : state.DashFree) : next.DashFree := by
  cases step with
  | prepare =>
    refine ⟨?_, dashFree.manifestId, dashFree.owner⟩
    rintro _ ⟨⟩
    simpa [BootstrapCall.dashFree] using plain
  | mark here =>
    have visible := dashFree.operation _ here
    refine ⟨?_, dashFree.manifestId, dashFree.owner⟩
    rintro _ ⟨⟩
    exact visible
  | complete | verify => exact ⟨nofun, dashFree.manifestId, dashFree.owner⟩
  | selectMode => exact ⟨dashFree.operation, dashFree.manifestId, dashFree.owner⟩
  | selectManifest _ _ _ parsed =>
    refine ⟨dashFree.operation, ?_, dashFree.owner⟩
    simp only [BootstrapCall.dashFree, parsed, bne_iff_ne] at plain
    exact fun dash => plain (Option.some.inj dash)
  | bindPlan => exact ⟨dashFree.operation, dashFree.manifestId, dashFree.owner⟩
  | rebindPlan => exact dashFree
  | ownerPending => exact ⟨dashFree.operation, dashFree.manifestId, nofun⟩
  | enrollPending loaded =>
    refine ⟨dashFree.operation, dashFree.manifestId, ?_⟩
    simp only [BootstrapCall.dashFree, loaded, Bool.and_eq_true, bne_iff_ne] at plain
    rintro _ ⟨⟩
    exact plain
  | enrollInteractive loaded =>
    refine ⟨dashFree.operation, dashFree.manifestId, ?_⟩
    simp only [BootstrapCall.dashFree, loaded, Bool.and_eq_true, bne_iff_ne] at plain
    rintro _ ⟨⟩
    exact plain
  | recovery => exact ⟨dashFree.operation, dashFree.manifestId, nofun⟩

end BootstrapStep

end Linura.Bootstrap
