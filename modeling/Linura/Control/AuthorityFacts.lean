import Linura.Control.DurableAuthority

/-!
# What durable authority does

Most of what Control does is quiet: it observes, plans, reviews and asks without touching the
ledger.  Preparing, recovering, committing and aborting advance the ledger.  Only a handoff
ends with a record of its own, and it does so once the generation it is about has left the
prepared state.

What a call that returned has checked is stated next to the call.
-/

namespace Linura.Control

open Linura.Lib Linura.Core Linura.Observation Linura.Persistence Linura.Planner Linura.Policy
open Linura.Transaction Program

variable {sha256 : Sha256}
variable {anchor : RecoveryAnchor} {principal : AuthenticatedPrincipal}
    {observation : ObservationEnvelope}
  {floor : Option TrustedRiskFloor} {plan : ReconciliationPlan} {review : TrustedPolicyReview}
  {settings : Bool} {observationDigest : ContentDigest} {α : Type} {call : LedgerProgram sha256 α}
  {resolution : RecoveryResolution sha256} {protective : Option ProtectiveLockContext}
  {authorization : AuthorizationBasis} {binding : AuthorityBinding sha256}
    {approval : RecoveryApproval}

/-! ### Advancing the ledger -/

/-- Nothing was handed off or executed, and the ledger made progress. -/
structure Advances (allowed : ContentDigest × ContentDigest → Prop) (world world' : World sha256) :
    Prop where
  progress : Progress allowed world.ledger world'.ledger
  records : Records world world'

variable {allowed allowed' : ContentDigest × ContentDigest →
    Prop} {world world' world'' : World sha256}

instance : IsPreorder (World sha256) (Advances allowed) where
  refl world := ⟨refl_of _ world.ledger, refl_of Records world⟩
  trans _ _ _ first second :=
    ⟨trans_of _ first.progress second.progress, trans_of Records first.records second.records⟩

theorem Quiet.advances (quiet : Quiet world world') : Advances allowed world world' :=
  ⟨quiet.ledger_eq ▸ refl_of (Progress allowed) world.ledger, quiet.records⟩

/-- What is allowed was granted before. -/
theorem Advances.absorb {granted : ContentDigest × ContentDigest}
    (advances : Advances (· = granted) world world')
    (known : ∃ lifecycle ∈ world.ledger, bindingGrounds lifecycle.binding = granted) :
    Advances allowed world world' := by
  refine ⟨⟨advances.progress.forward, fun lifecycle' member => .inr ?_⟩, advances.records⟩
  rcases advances.progress.grounds lifecycle' member with new | old
  · rw [new]
    exact known
  · exact old

/-- A quiet program advances. -/
theorem advances_of_quiet {ε α : Type} {program : Program (World sha256) ε α}
    (quiet : Guarantees Quiet program) : Guarantees (Advances allowed) program :=
  quiet.mono fun _ _ => Quiet.advances

/-- A call of the store that makes progress advances. -/
theorem advances_transactions (progress : Guarantees (Progress allowed) call) :
    Guarantees (Advances allowed) (transactions call) :=
  (progress.zoom fun _ _ moved =>
    ⟨moved, ⟨[], rfl, by simp⟩, le_refl _, [], rfl, by simp, by simp⟩).mapError

/-- One that only reads is quiet. -/
theorem quiet_transactions (reads : Guarantees (· = ·) call) :
    Guarantees Quiet (transactions call) :=
  (quiet_onLedger reads).mapError

/-- A call of the store that returned did so on the ledger, and changed nothing else. -/
theorem returns_transactions {value : α} (ended : Returns (transactions call) world value world') :
    ∃ ledger, Returns call world.ledger value ledger ∧ world' = { world with ledger } :=
  ended.mapError.zoom

theorem returns_readClock (env : Environment sha256) {ε : Type} {sample : Option Nat}
    (ended : Returns (readClock env : Program (World sha256) ε _) world sample world') :
    world' = world.log (.clockRead sample) := by
  obtain ⟨rfl, rfl⟩ := ended.ask
  rfl

/-- A read of the store returned what it makes of the lifecycle, and changed nothing. -/
theorem returns_read {id : TransactionId} {read : Lifecycle sha256 → α} {value : α}
    (ended : Returns (transactions do return read (← LedgerStore.lookup id)) world value world') :
    (∃ lifecycle : Lifecycle sha256, findLifecycle world.ledger id = some lifecycle ∧
      value = read lifecycle) ∧ world' = world := by
  obtain ⟨ledger, ran, rfl⟩ := returns_transactions ended
  obtain ⟨lifecycle, _, looked, ran⟩ := ran.bind
  obtain ⟨found, rfl⟩ := returns_lookup looked
  obtain ⟨rfl, rfl⟩ := ran.pure
  exact ⟨⟨lifecycle, found, rfl⟩, rfl⟩

theorem returns_snapshot {id : TransactionId} {snapshot : TransactionSnapshot}
    (ended : Returns (transactions (LedgerStore.snapshot id)) world snapshot world') :
    (∃ lifecycle : Lifecycle sha256, findLifecycle world.ledger id = some lifecycle ∧
      snapshot = lifecycle.snapshot) ∧ world' = world := returns_read ended

theorem returns_recoveryAnchor {id : TransactionId}
    (ended : Returns (transactions (LedgerStore.recoveryAnchor id)) world anchor world') :
    (∃ lifecycle : Lifecycle sha256, findLifecycle world.ledger id = some lifecycle ∧
      anchor = ⟨lifecycle.snapshot, lifecycle.binding.requestDigest,
        lifecycle.binding.preconditionDigest⟩) ∧ world' = world := returns_read ended

/-! ### Quiet calls -/

section Quiet

variable (env : Environment sha256)

theorem quiet_authorityNowUnixMs : Guarantees Quiet (authorityNowUnixMs env) := by
  refine (quiet_readMillis env _ _).bind fun sampled => Guarantees.query.bind_from ?_
  intro world _ world' ended faults
  obtain ⟨computed, rfl⟩ := ended.query
  have notBefore : world.lastAuthorityUnixMs ≤ sampled := by
    split at computed
    · cases computed
    · omega
  refine ⟨rfl, ⟨[_], rfl, by simp [Event.IsQuiet]⟩, notBefore, [sampled], rfl, by simp, ?_⟩
  intro time member
  cases List.mem_singleton.mp member
  exact ⟨notBefore, le_refl _⟩

/-- Planning is quiet. -/
theorem quiet_freshPlan (protective : Bool) (principal : AuthenticatedPrincipal) (actor : Actor)
    (request : PlanDesiredStateRequest) :
    Guarantees Quiet (freshPlan env protective principal actor request) := by
  unfold freshPlan
  split
  · exact .bind .require fun _ => .bind .lift fun _ =>
      quiet_buildFreshPlan env _ _ _ _ _
  · exact quiet_previewAuthorityCandidate env _ _ _

theorem quiet_candidateInner (principal : AuthenticatedPrincipal) (actor : Actor)
    (request : PlanDesiredStateRequest) (floor : Option TrustedRiskFloor)
    (protective : Option ProtectiveLockContext) :
    Guarantees Quiet (candidateInner env principal actor request floor protective) := by
  refine .bind .lift fun _ => .bind (Guarantees.mapError ?_) fun _ => .lift
  cases protective with
  | some context => exact quiet_previewProtectiveCandidate env _ _ _ _
  | none => exact quiet_previewAuthorityCandidate env _ _ _

theorem quiet_protectiveCandidate (principal : AuthenticatedPrincipal) (actor : Actor)
    (context : ProtectiveLockContext) (floor : TrustedRiskFloor) :
    Guarantees Quiet (protectiveCandidate env principal actor context floor) :=
  Guarantees.lift.bind fun _ => quiet_candidateInner env _ _ _ _ _

/-- Approvals are kept apart from the ledger. -/
theorem quiet_issueApproval (requestId : ApprovalRequestId) (candidate : DurableAuthorityCandidate)
    (approver : PolicyAuthenticatedApprover) (expires : Nat) :
    Guarantees Quiet (issueApproval env requestId candidate approver expires) := by
  refine (quiet_readClock env).bind fun _ => .bind .query fun before => ?_
  dsimp only
  refine .bind (quiet_modify ?_) fun _ => ?_
  · exact fun world => quiet_of_eq rfl rfl rfl
  · split
    · exact .fail
    · split
      · exact .pure
      · refine .bind (quiet_modify ?_) fun _ => .pure
        exact fun world => quiet_log rfl world

theorem quiet_revokeApproval (evidenceId : ApprovalEvidenceId)
    (revoker : PolicyAuthenticatedApprover) :
    Guarantees Quiet (revokeApproval env evidenceId revoker) := by
  refine (quiet_readClock env).bind fun _ => .bind .query fun _ => ?_
  refine .bind (quiet_modify ?_) fun _ => .lift
  exact fun world => quiet_of_eq rfl rfl rfl

theorem quiet_validateApprovalNow (evidenceId : ApprovalEvidenceId) (review : TrustedPolicyReview) :
    Guarantees Quiet (validateApprovalNow env evidenceId review) := by
  refine (quiet_readClock env).bind fun sample => .bind .query fun before => ?_
  dsimp only
  refine .bind (quiet_modify ?_) fun _ => ?_
  · exact fun world =>
      ⟨rfl, ⟨[_], rfl, by simp [Event.IsQuiet]⟩, le_refl _, [], rfl, by simp, by simp⟩
  · split
    · exact .fail
    · exact .pure

theorem quiet_authorizationFor (review : TrustedPolicyReview)
    (evidenceId : Option ApprovalEvidenceId) :
    Guarantees Quiet (authorizationFor env review evidenceId) := by
  unfold authorizationFor
  split
  · exact .fail
  · exact .pure
  · exact .fail
  · refine (quiet_validateApprovalNow env _ _).bind fun _ => .bind .require fun _ => ?_
    split
    · exact .fail
    · exact .bind .lift fun _ => .pure
  · exact .fail
  · exact .fail

theorem quiet_requireCurrentSetting (context : ProtectiveLockContext) :
    Guarantees Quiet (requireCurrentSetting env context) := by
  refine (quiet_currentSetting env _ _).bind fun current => ?_
  cases current with
  | error reason => exact .fail
  | ok current => exact .require

theorem quiet_requireProtective (protective : Option ProtectiveLockContext) (settings : Bool) :
    Guarantees Quiet (requireProtective env protective settings) := by
  unfold requireProtective
  split
  · exact quiet_requireCurrentSetting env _
  · exact .pure
  · exact .fail

variable (candidate : DurableAuthorityCandidate)

/-- Binding a candidate is quiet. -/
theorem quiet_revalidateAndBind (evidenceId : Option ApprovalEvidenceId) (now : Nat)
    (settings : Bool) :
    Guarantees Quiet (revalidateAndBind env candidate evidenceId now settings) :=
  (quiet_requireProtective env _ _).bind fun _ => .bind .lift fun _ =>
    (quiet_authorizationFor env _ _).bind fun _ => .bind .lift fun _ => .lift

theorem quiet_validateProtectiveNow : Guarantees Quiet (validateProtectiveNow env candidate) := by
  unfold validateProtectiveNow
  split
  · exact .fail
  · exact (quiet_requireCurrentSetting env _).bind fun _ => .fail
  · exact (quiet_requireCurrentSetting env _).bind fun _ =>
      (quiet_protectiveCandidate env _ _ _ _).bind fun _ => .require

theorem quiet_currentNow (observation : ObservationEnvelope) :
    Guarantees Quiet (currentNow env observation) :=
  (quiet_authorityNowUnixMs env).bind fun _ => .bind .lift fun _ => .pure

theorem quiet_recoveryEvidence (approval : RecoveryApproval) :
    Guarantees Quiet (recoveryEvidence env candidate approval) := by
  unfold recoveryEvidence
  split
  · exact .fail
  · exact .pure
  · split
    · exact .pure
    · exact (quiet_issueApproval env _ _ _ _).bind fun _ => .pure
    · exact .fail
    · exact .fail

theorem quiet_recoveryAnchorFor (principal : AuthenticatedPrincipal)
    (request : PlanDesiredStateRequest) :
    Guarantees Quiet (recoveryAnchorFor principal request : AuthorityProgram sha256 _) :=
  Guarantees.lift.bind fun _ =>
    (quiet_transactions (LedgerStore.reads_recoveryAnchor _)).bind fun _ =>
      Guarantees.require.bind fun _ => .bind .require fun _ =>
        Guarantees.lift.bind fun _ => .bind .require fun _ => .pure

theorem quiet_resumeVerified (principal : AuthenticatedPrincipal) (id : TransactionId) :
    Guarantees Quiet (resumeVerified principal id : AuthorityProgram sha256 _) :=
  (quiet_transactions (LedgerStore.reads_verifiedCommitMaterial _)).bind fun _ =>
    Guarantees.require.bind fun _ => .pure

end Quiet

/-! ### Signed requests -/

section Signed

variable {key : TransactionAuthorityKey} {snapshot : TransactionSnapshot}
    {authorizedAt expiresAt : Nat}

theorem authorizeHandoff_eq_ok {authorityUse : ContentDigest} {request : HandoffRequest}
    (authorized : authorizeHandoff sha256 key snapshot authorityUse authorizedAt expiresAt =
      .ok request) :
    request.transactionId = snapshot.transactionId ∧
      request.expectedGeneration = snapshot.currentGeneration ∧
      request.authorizedAtUnixMs = authorizedAt ∧ request.expiresAtUnixMs = expiresAt := by
  unfold authorizeHandoff at authorized
  split at authorized
  · cases authorized
  · cases authorized
    exact ⟨rfl, rfl, rfl, rfl⟩

/-- A recovery is authorized for the snapshot and the resolution. -/
theorem authorizeRecovery_eq_ok {request : RecoveryRequest sha256}
    (authorized : authorizeRecovery sha256 key snapshot resolution authorizedAt expiresAt =
      .ok request) :
    request.transactionId = snapshot.transactionId ∧ request.resolution = resolution := by
  unfold authorizeRecovery at authorized
  split at authorized
  · cases authorized
  · split at authorized
    · cases authorized
    · cases authorized
      exact ⟨rfl, rfl⟩

/-- What was signed was computed. -/
theorem signed_bind {α β : Type} {R : World sha256 → World sha256 → Prop}
    [IsPreorder (World sha256) R] {result : Except TransactionValidationError α}
    {next : α → AuthorityProgram sha256 β}
    (second : ∀ value, result = .ok value → Guarantees R (next value)) :
    Guarantees R (signed result >>= next) :=
  Guarantees.lift_bind fun value computed => second value (mapError_eq_ok.mp computed)

end Signed

/-! ### Candidates and bindings -/

section Candidates

variable (env : Environment sha256)

/-- What a candidate was made of. -/
theorem grounds_of_sealCandidate {risk : RiskProvenance} {requestDigest : ContentDigest}
    (built : sealCandidate sha256 principal plan observation review risk floor requestDigest
      protective = .ok candidate) :
    digestPlanPrecondition sha256 plan = .ok candidate.preconditionDigest ∧
      candidate.requestDigest = requestDigest := by
  obtain ⟨precondition, computed, built⟩ := bind_eq_ok.mp built
  obtain ⟨observed, -, built⟩ := bind_eq_ok.mp built
  obtain ⟨reviewed, -, built⟩ := bind_eq_ok.mp built
  cases built
  exact ⟨computed, rfl⟩

theorem fields_of_sealCandidate {risk : RiskProvenance} {requestDigest : ContentDigest}
    (built : sealCandidate sha256 principal plan observation review risk floor requestDigest
      protective = .ok candidate) :
    candidate.principal = principal ∧ candidate.plan = plan ∧ candidate.review = review ∧
      candidate.risk = risk ∧ candidate.riskFloor = floor ∧ candidate.protective = protective := by
  obtain ⟨_, -, built⟩ := bind_eq_ok.mp built
  obtain ⟨_, -, built⟩ := bind_eq_ok.mp built
  obtain ⟨_, -, built⟩ := bind_eq_ok.mp built
  cases built
  exact ⟨rfl, rfl, rfl, rfl, rfl, rfl⟩

/-- What a candidate is: a fresh plan that proposes a change, with an open review and the digests
that seal both. -/
structure CandidateOf (principal : AuthenticatedPrincipal) (actor : Actor)
    (request : PlanDesiredStateRequest) (floor : Option TrustedRiskFloor)
    (protective : Option ProtectiveLockContext) (candidate : DurableAuthorityCandidate)
    (world world' : World sha256) : Prop where
  principal_eq : candidate.principal = principal
  riskFloor_eq : candidate.riskFloor = floor
  protective_eq : candidate.protective = protective
  requestDigest : digestRequest sha256 request = .ok candidate.requestDigest
  preconditionDigest : digestPlanPrecondition sha256 candidate.plan =
    .ok candidate.preconditionDigest
  planned : FreshPlan request actor candidate.plan world world'
  proposed : candidate.plan.status = .changeProposed
  reviewed : reviewCandidate env.debug.text principal candidate.plan floor protective =
    .ok (candidate.risk, candidate.review)
  isOpen : reviewIsOpen candidate.review = true

/-- A candidate that was returned rests on a fresh plan and an open review. -/
theorem returns_candidateInner {actor : Actor} {request : PlanDesiredStateRequest}
    (ended : Returns (candidateInner env principal actor request floor protective) world candidate
      world') : CandidateOf env principal actor request floor protective
        candidate world world' := by
  obtain ⟨requestDigest, digest, rest⟩ := ended.bind_lift
  obtain ⟨⟨plan, observation⟩, mid, previewed, checks⟩ := rest.bind
  obtain ⟨built, rfl⟩ := checks.lift
  have planned : FreshPlan request actor plan world mid := by
    cases protective with
    | some context => exact freshPlan_of_previewProtectiveCandidate env previewed.mapError
    | none => exact freshPlan_of_previewAuthorityCandidate env previewed.mapError
  unfold candidateOfPlan at built
  split at built
  · cases built
  · rename_i mutation
    obtain ⟨-, -, built⟩ := bind_eq_ok.mp built
    obtain ⟨⟨risk, review⟩, reviewed, built⟩ := bind_eq_ok.mp built
    dsimp only at built
    split at built
    · cases built
    · rename_i isOpen
      obtain ⟨-, -, built⟩ := bind_eq_ok.mp built
      obtain ⟨precondition, computed, built⟩ := bind_eq_ok.mp built
      obtain ⟨_, -, built⟩ := bind_eq_ok.mp built
      obtain ⟨_, -, built⟩ := bind_eq_ok.mp built
      cases built
      push Not at mutation
      exact ⟨rfl, rfl, rfl, digest, computed, planned, mutation.1, reviewed, by simpa using isOpen⟩

variable {candidate : DurableAuthorityCandidate}

theorem returns_bindCandidate
    (ended : Returns (bindCandidate candidate authorization) world binding world') :
    (∃ principal : PrincipalId, principal.value = candidate.principal.value ∧
      binding.toBindingArguments =
        (candidateArguments candidate principal authorization).sortRules) ∧ world' = world := by
  obtain ⟨principal, typed, ended⟩ := ended.bind_lift
  obtain ⟨bound, rfl⟩ := Returns.lift ended
  have value := TypedId.value_of_new (mapError_eq_ok.mp (mapError_eq_ok.mp typed))
  exact ⟨⟨principal, value, AuthorityBinding.toBindingArguments_of_tryNew
    (mapError_eq_ok.mp bound)⟩,
    rfl⟩

/-- What `revalidate_and_bind` has checked when it returns a binding. -/
structure Revalidated (candidate : DurableAuthorityCandidate)
    (evidenceId : Option ApprovalEvidenceId) (now : Nat) (settings : Bool)
    (world : World sha256) (binding : AuthorityBinding sha256) (world' : World sha256) : Prop where
  consented : ∃ mid, Returns (requireProtective env candidate.protective settings) world () mid ∧
    Returns (authorizationFor env candidate.review evidenceId) mid binding.authorization world'
  rechecked : recheckCandidate env candidate now = .ok ()
  bound : ∃ principal : PrincipalId, principal.value = candidate.principal.value ∧
    binding.toBindingArguments =
      (candidateArguments candidate principal binding.authorization).sortRules

/-- A binding that was returned was revalidated. -/
theorem returns_revalidateAndBind {evidenceId : Option ApprovalEvidenceId} {now : Nat}
    (ended : Returns (revalidateAndBind env candidate evidenceId now settings)
      world binding world') :
    Revalidated env candidate evidenceId now settings world binding world' := by
  obtain ⟨_, mid, consented, ended⟩ := ended.bind
  obtain ⟨_, computed, ended⟩ := ended.bind_lift
  obtain ⟨authorization, after, authorized, ended⟩ := ended.bind
  obtain ⟨⟨principal, value, arguments⟩, rfl⟩ := returns_bindCandidate ended
  have same : binding.authorization = authorization := congrArg (·.authorization) arguments
  rw [← same] at authorized arguments
  exact ⟨⟨mid, consented, authorized⟩, computed, principal, value, arguments⟩

/-- A binding is about what its candidate is about. -/
theorem Revalidated.grounds_eq {evidenceId : Option ApprovalEvidenceId} {now : Nat}
    (revalidated : Revalidated env candidate evidenceId now settings world binding world') :
    bindingGrounds binding = (candidate.requestDigest, candidate.preconditionDigest) := by
  obtain ⟨principal, -, arguments⟩ := revalidated.bound
  have requestDigest := congrArg (·.requestDigest) arguments
  have preconditionDigest := congrArg (·.preconditionDigest) arguments
  exact Prod.ext requestDigest preconditionDigest

end Candidates

/-! ### Calls that advance the ledger -/

section Advancing

variable (env : Environment sha256)

/-- Settling advances, with new authority only for what is allowed. -/
theorem advances_settleBy (authorizedAt expiresAt : Nat)
    (renewed : ∀ observation next, resolution = .intendedEffectAbsent observation next →
      allowed (bindingGrounds next)) :
    Guarantees (Advances allowed) (settleBy env anchor resolution authorizedAt expiresAt) := by
  refine signed_bind fun recovery authorized => ?_
  refine (advances_of_quiet (quiet_readClock env)).bind fun now => advances_transactions ?_
  refine LedgerStore.progress_recover fun observation next same => ?_
  rw [(authorizeRecovery_eq_ok authorized).2] at same
  exact renewed observation next same

theorem advances_recoverVerified (anchor : RecoveryAnchor) (plan : ReconciliationPlan)
    (observation : ObservationEnvelope) (observationDigest : ContentDigest) :
    Guarantees (Advances allowed)
      (recoverVerified env anchor plan observation observationDigest) := by
  refine (advances_of_quiet (quiet_currentNow env _)).bind fun _ => ?_
  refine (advances_of_quiet (quiet_currentNow env _)).bind fun _ => .bind .lift fun _ => ?_
  refine (advances_settleBy env _ _ (by rintro _ _ ⟨⟩)).bind fun outcome => ?_
  split
  · refine (advances_of_quiet (quiet_transactions
      (LedgerStore.reads_verifiedCommitMaterial _))).bind fun _ => ?_
    exact .bind .require fun _ => .pure
  · exact .fail

theorem advances_recoverConflicting (anchor : RecoveryAnchor) (observation : ObservationEnvelope)
    (observationDigest : ContentDigest) :
    Guarantees (Advances allowed)
      (recoverConflicting env anchor observation observationDigest) := by
  refine (advances_of_quiet (quiet_currentNow env _)).bind fun _ => ?_
  refine (advances_of_quiet (quiet_currentNow env _)).bind fun _ => .bind .lift fun _ => ?_
  refine (advances_settleBy env _ _ (by rintro _ _ ⟨⟩)).bind fun outcome => ?_
  split
  · exact .pure
  · exact .fail

theorem advances_recoverAmbiguous (anchor : RecoveryAnchor) (observation : ObservationEnvelope)
    (observationDigest : ContentDigest) :
    Guarantees (Advances allowed) (recoverAmbiguous env anchor observation observationDigest) := by
  refine (advances_of_quiet (quiet_currentNow env _)).bind fun _ => .bind .lift fun _ => ?_
  refine (advances_settleBy env _ _ (by rintro _ _ ⟨⟩)).bind fun outcome => ?_
  split
  · exact .pure
  · exact .fail

/-- A recovery that prepares the next generation grants it for what the candidate is about. -/
theorem advances_recoverAbsent (approval : RecoveryApproval)
    (granted : allowed (candidate.requestDigest, candidate.preconditionDigest)) :
    Guarantees (Advances allowed) (recoverAbsent env anchor candidate approval) := by
  refine (advances_of_quiet (quiet_recoveryEvidence env _ _)).bind fun evidenceId => ?_
  refine (advances_of_quiet (quiet_authorityNowUnixMs env)).bind fun now => ?_
  refine (advances_of_quiet (quiet_revalidateAndBind env _ _ _ _)).bind_returns ?_
  intro before next after revalidated
  refine (advances_of_quiet (quiet_currentNow env _)).bind fun _ => .bind .lift fun _ => ?_
  refine (advances_settleBy env _ _ ?_).bind fun outcome => ?_
  · rintro observation binding ⟨⟩
    rw [(returns_revalidateAndBind env revalidated).grounds_eq]
    exact granted
  · split
    · exact .pure
    · exact .fail

/-- A recovery from a plan that proposes a change advances. -/
theorem advances_recoverChange (principal : AuthenticatedPrincipal)
    (plan : ReconciliationPlan) (observation : ObservationEnvelope)
    (observationDigest : ContentDigest) (approval : RecoveryApproval)
    (floor : Option TrustedRiskFloor)
    (granted : allowed (anchor.requestDigest, anchor.preconditionDigest)) :
    Guarantees (Advances allowed)
      (recoverChange env anchor principal plan observation observationDigest approval floor) := by
  refine .lift_bind fun preconditionDigest computed => ?_
  split
  · exact advances_recoverConflicting env _ _ _
  · rename_i same
    split
    · exact advances_recoverAmbiguous env _ _ _
    · refine .bind .lift fun reviewed => ?_
      obtain ⟨risk, review⟩ := reviewed
      dsimp only
      split
      · exact advances_recoverAmbiguous env _ _ _
      · refine .lift_bind fun candidate built => advances_recoverAbsent env _ ?_
        -- the candidate is made of the anchor's request and of the precondition compared above
        obtain ⟨precondition, request⟩ := grounds_of_sealCandidate built
        rw [computed] at precondition
        cases precondition
        rw [request, not_not.mp same]
        exact granted

/-- The anchor of a recovery: the transaction of the request, which was handed off. -/
structure Anchored (principal : AuthenticatedPrincipal) (request : PlanDesiredStateRequest)
    (world : World sha256) (lifecycle : Lifecycle sha256) : Prop where
  found : ∃ principalId : PrincipalId, principalId.value = principal.value ∧
    findLifecycle world.ledger (.forNamespace sha256 principalId request.requestId) = some lifecycle
  indeterminate : lifecycle.state = .indeterminate
  requestDigest : digestRequest sha256 request = .ok lifecycle.binding.requestDigest

theorem returns_recoveryAnchorFor {request : PlanDesiredStateRequest}
    (ended : Returns (recoveryAnchorFor principal request : AuthorityProgram sha256 _) world anchor
      world') :
    (∃ lifecycle : Lifecycle sha256, Anchored principal request world lifecycle ∧
      anchor = ⟨lifecycle.snapshot, lifecycle.binding.requestDigest,
        lifecycle.binding.preconditionDigest⟩) ∧ world' = world := by
  obtain ⟨principalId, typed, rest⟩ := ended.bind_lift
  obtain ⟨read, _, anchored, checks⟩ := rest.bind
  obtain ⟨⟨lifecycle, found, rfl⟩, rfl⟩ := returns_recoveryAnchor anchored
  obtain ⟨indeterminate, checks'⟩ := checks.bind_require
  obtain ⟨-, digests⟩ := checks'.bind_require
  obtain ⟨digest, computed, last⟩ := digests.bind_lift
  obtain ⟨same, returned⟩ := last.bind_require
  obtain ⟨rfl, rfl⟩ := returned.pure
  have value := TypedId.value_of_new (mapError_eq_ok.mp (mapError_eq_ok.mp typed))
  exact ⟨⟨lifecycle, ⟨⟨principalId, value, found⟩, indeterminate,
    computed.trans (congrArg Except.ok same.symm)⟩, rfl⟩, rfl⟩

/-- Recovery grants nothing new: a generation that it prepares is for the request and the
precondition of the one before. -/
theorem advances_recoverIndeterminateInner (principal : AuthenticatedPrincipal) (actor : Actor)
    (request : PlanDesiredStateRequest) (approval : RecoveryApproval)
    (floor : Option TrustedRiskFloor) :
    Guarantees (Advances allowed)
      (recoverIndeterminateInner env principal actor request approval floor) := by
  refine (advances_of_quiet (quiet_recoveryAnchorFor principal request)).bind_from ?_
  intro start anchor start' anchored faults
  obtain ⟨⟨lifecycle, found, rfl⟩, rfl⟩ := returns_recoveryAnchorFor anchored
  have granted : ∃ known ∈ start'.ledger,
      bindingGrounds known.binding = bindingGrounds lifecycle.binding := by
    obtain ⟨principalId, -, found⟩ := found.found
    exact ⟨lifecycle, List.mem_of_find?_eq_some found, rfl⟩
  refine Advances.absorb ?_ granted
  · refine (?_ : Guarantees (Advances _) _) ⟨_, faults⟩
    refine .bind .require fun _ => ?_
    refine (advances_of_quiet (quiet_freshPlan env _ _ _ _).mapError).bind fun planned => ?_
    obtain ⟨plan, observation⟩ := planned
    refine .bind .lift fun _ => .bind .lift fun observationDigest => ?_
    split
    · exact advances_recoverVerified env _ _ _ _
    · exact advances_recoverChange env _ _ _ _ _ _ rfl
    · exact advances_recoverAmbiguous env _ _ _

/-- Preparing advances for what the candidate is about. -/
theorem advances_prepareInner (evidenceId : Option ApprovalEvidenceId) (settings : Bool)
    (granted : allowed (candidate.requestDigest, candidate.preconditionDigest)) :
    Guarantees (Advances allowed) (prepareInner env candidate evidenceId settings) := by
  refine (advances_of_quiet (quiet_authorityNowUnixMs env)).bind fun now => ?_
  refine (advances_of_quiet (quiet_revalidateAndBind env _ _ _ _)).bind_returns ?_
  intro before binding after revalidated
  refine (advances_transactions (LedgerStore.progress_prepare ?_)).bind fun _ => ?_
  · rw [(returns_revalidateAndBind env revalidated).grounds_eq]
    exact granted
  · exact .bind .require fun _ => .pure

theorem advances_prepareProtective
    (granted : allowed (candidate.requestDigest, candidate.preconditionDigest)) :
    Guarantees (Advances allowed) (prepareProtective env candidate) :=
  (advances_of_quiet (quiet_validateProtectiveNow env _)).bind fun _ =>
    advances_prepareInner env none true granted

theorem advances_commitVerified (principal : AuthenticatedPrincipal)
    (verified : VerifiedDurableAuthority) :
    Guarantees (Advances allowed) (commitVerified env principal verified) := by
  refine .bind .require fun _ => ?_
  refine (advances_of_quiet (quiet_transactions (LedgerStore.reads_snapshot _))).bind fun _ => ?_
  refine .bind .require fun _ => .bind .lift fun _ => ?_
  refine (advances_transactions (LedgerStore.progress_commit _)).bind fun snapshot => ?_
  refine .bind (advances_of_quiet (quiet_modify ?_)) fun _ => .pure
  exact fun world => quiet_log rfl world

theorem advances_retireAll (snapshots : List TransactionSnapshot) :
    Guarantees (Advances allowed) (retireAll snapshots : AuthorityProgram sha256 _) := by
  induction snapshots with
  | nil => exact .pure
  | cons snapshot rest ih =>
    exact (advances_transactions (LedgerStore.progress_abortPrepared _)).bind fun _ =>
      ih.bind fun _ => .pure

theorem advances_abortPreparedAfterRestart :
    Guarantees (Advances allowed) (abortPreparedAfterRestart : AuthorityProgram sha256 _) :=
  (advances_of_quiet (quiet_transactions (LedgerStore.reads_listState _))).bind fun _ =>
    advances_retireAll _

/-! ### What preparing and recovering leave behind -/

/-- What a preparation that returned has done. -/
structure PreparedBy (candidate : DurableAuthorityCandidate)
    (evidenceId : Option ApprovalEvidenceId) (settings : Bool) (world : World sha256)
    (prepared : PreparedDurableAuthority sha256) (world' : World sha256) : Prop where
  candidate_eq : prepared.candidate = candidate
  evidenceId_eq : prepared.approvalEvidenceId = evidenceId
  fresh : prepared.handedOff = false
  revalidated : ∃ now timed bound, Quiet world timed ∧ Quiet timed bound ∧
    Revalidated env candidate evidenceId now settings timed prepared.binding bound
  digest_eq : prepared.snapshot.bindingDigest = prepared.binding.digest
  stored : ∃ lifecycle : Lifecycle sha256,
    findLifecycle world'.ledger prepared.binding.transactionId = some lifecycle ∧
    lifecycle.snapshot = prepared.snapshot ∧
    (findLifecycle world.ledger prepared.binding.transactionId = none → lifecycle.generation = 0)

/-- What was prepared was revalidated and recorded. -/
theorem returns_prepareInner {evidenceId : Option ApprovalEvidenceId}
    {prepared : PreparedDurableAuthority sha256}
    (ended : Returns (prepareInner env candidate evidenceId settings) world prepared world') :
    PreparedBy env candidate evidenceId settings world prepared world' := by
  obtain ⟨now, timed, sampled, rest⟩ := ended.bind
  have timedQuiet := (quiet_authorityNowUnixMs env).related sampled
  obtain ⟨binding, bound, revalidated, preparing⟩ := rest.bind
  have boundQuiet := (quiet_revalidateAndBind env _ _ _ _).related revalidated
  obtain ⟨outcome, after, stored, checking⟩ := preparing.bind
  obtain ⟨ledger, written, rfl⟩ := returns_transactions stored
  obtain ⟨lifecycle, found, outcomeIs, digest, generation⟩ := returns_prepare written
  rw [(trans_of Quiet timedQuiet boundQuiet).ledger_eq] at generation
  have snapshotIs : preparedSnapshot outcome = lifecycle.snapshot := by
    rcases outcomeIs with rfl | rfl
    · rfl
    · rfl
  obtain ⟨-, last⟩ := checking.bind_require
  obtain ⟨rfl, rfl⟩ := last.pure
  exact ⟨rfl, rfl, rfl, ⟨now, timed, bound, timedQuiet, boundQuiet,
    returns_revalidateAndBind env revalidated⟩,
    (congrArg (·.bindingDigest) snapshotIs).trans digest,
    lifecycle, found, snapshotIs.symm, generation⟩

/-- A recovery that returned has moved the anchored transaction as its resolution says. -/
theorem returns_settleBy {authorizedAt expiresAt : Nat} {outcome : RecoveryOutcome}
    (ended : Returns (settleBy env anchor resolution authorizedAt expiresAt) world outcome world') :
    ∃ old new : Lifecycle sha256,
      findLifecycle world.ledger anchor.snapshot.transactionId = some old ∧
      findLifecycle world'.ledger anchor.snapshot.transactionId = some new ∧
      old.apply (RecoveryResolution.transition resolution) = some new.toHistory ∧
      outcome = LedgerStore.recoveryOutcome resolution new.snapshot := by
  obtain ⟨recovery, signedOk, rest⟩ := ended.bind_lift
  obtain ⟨sameId, sameResolution⟩ := authorizeRecovery_eq_ok (mapError_eq_ok.mp signedOk)
  obtain ⟨storeNow, _, clock, recovering⟩ := rest.bind
  cases returns_readClock env clock
  obtain ⟨ledger, moved, rfl⟩ := returns_transactions recovering
  obtain ⟨_, -, settling⟩ := moved.bind_lift
  obtain ⟨new, _, moving, last⟩ := settling.bind
  obtain ⟨⟨old, settled⟩, rfl⟩ := returns_settle moving
  obtain ⟨rfl, rfl⟩ := last.pure
  refine ⟨old, new, ?_, ?_, ?_, by rw [sameResolution]⟩
  · rw [← sameId]
    exact settled.found
  · rw [← sameId]
    exact (settled.findLifecycle_eq _).trans (if_pos rfl)
  · have applied := settled.applied
    change old.apply (RecoveryResolution.transition recovery.resolution) = _ at applied
    rwa [sameResolution] at applied

variable {outcome : DurableRecoveryOutcome sha256}

/-- What a recovery that verified the desired state leaves behind. -/
theorem returns_recoverVerified
    (ended : Returns (recoverVerified env anchor plan observation observationDigest) world outcome
      world') :
    ∃ (old new : Lifecycle sha256) (authority : VerifiedDurableAuthority),
      findLifecycle world.ledger anchor.snapshot.transactionId = some old ∧
      findLifecycle world'.ledger anchor.snapshot.transactionId = some new ∧
      new.binding = old.binding ∧ new.state = .verified ∧ authority.snapshot = new.snapshot ∧
      outcome = .verified authority := by
  obtain ⟨_, first, timed, rest⟩ := ended.bind
  obtain ⟨authorizedAt, second, timed', rest'⟩ := rest.bind
  have quiet := trans_of Quiet ((quiet_currentNow env _).related timed)
    ((quiet_currentNow env _).related timed')
  obtain ⟨expiresAt, -, settling⟩ := rest'.bind_lift
  obtain ⟨recovered, after, settled, reading⟩ := settling.bind
  obtain ⟨old, new, found, found', applied, rfl⟩ := returns_settleBy env settled
  obtain ⟨material, _, read, checking⟩ := reading.bind
  obtain ⟨ledger, looked, same⟩ := returns_transactions read
  have unchanged := (LedgerStore.reads_verifiedCommitMaterial _).related looked
  obtain ⟨⟨sameSnapshot, -⟩, last⟩ := checking.bind_require
  obtain ⟨rfl, rfl⟩ := last.pure
  obtain ⟨-, moved⟩ := Option.ite_none_right_eq_some.mp applied
  have newIs := Option.some.inj moved
  refine ⟨old, new, _, quiet.ledger_eq ▸ found, ?_, ?_, ?_, sameSnapshot, rfl⟩
  · rw [same]
    exact unchanged ▸ found'
  · rw [← newIs]
    rfl
  · rw [← newIs]
    rfl

/-- What a recovery that prepared the next generation leaves behind. -/
structure RepreparedBy (anchor : RecoveryAnchor) (candidate : DurableAuthorityCandidate)
    (approval : RecoveryApproval) (world : World sha256)
    (prepared : PreparedDurableAuthority sha256) (world' : World sha256) : Prop where
  candidate_eq : prepared.candidate = candidate
  fresh : prepared.handedOff = false
  evidence : ∃ before after, Returns (recoveryEvidence env candidate approval) before
    prepared.approvalEvidenceId after
  revalidated : ∃ now timed bound, Quiet world timed ∧ Quiet timed bound ∧
    Revalidated env candidate prepared.approvalEvidenceId now false timed prepared.binding bound
  digest_eq : prepared.snapshot.bindingDigest = prepared.binding.digest
  stored : ∃ old new : Lifecycle sha256,
    findLifecycle world.ledger anchor.snapshot.transactionId = some old ∧
    findLifecycle world'.ledger anchor.snapshot.transactionId = some new ∧
    new.snapshot = prepared.snapshot ∧ new.generation = old.generation + 1

/-- A recovery without effect prepares the next generation. -/
theorem returns_recoverAbsent
    (ended : Returns (recoverAbsent env anchor candidate approval) world outcome world') :
    ∃ prepared, outcome = .reprepared prepared ∧
      RepreparedBy env anchor candidate approval world prepared world' := by
  obtain ⟨evidenceId, issued, approving, rest⟩ := ended.bind
  have issuedQuiet := (quiet_recoveryEvidence env _ _).related approving
  obtain ⟨now, timed, sampled, revalidating⟩ := rest.bind
  have timedQuiet := trans_of Quiet issuedQuiet ((quiet_authorityNowUnixMs env).related sampled)
  obtain ⟨next, bound, revalidated, signing⟩ := revalidating.bind
  have boundQuiet := (quiet_revalidateAndBind env _ _ _ _).related revalidated
  obtain ⟨authorizedAt, checkedAt, checked, expiring⟩ := signing.bind
  have quiet := trans_of Quiet (trans_of Quiet timedQuiet boundQuiet)
    ((quiet_currentNow env _).related checked)
  obtain ⟨expiresAt, -, settling⟩ := expiring.bind_lift
  obtain ⟨recovered, after, settled, last⟩ := settling.bind
  obtain ⟨old, new, found, found', applied, rfl⟩ := returns_settleBy env settled
  obtain ⟨rfl, rfl⟩ := last.pure
  obtain ⟨-, moved⟩ := Option.ite_none_right_eq_some.mp applied
  have newIs := Option.some.inj moved
  refine ⟨_, rfl, rfl, rfl, ⟨_, _, approving⟩, ⟨now, timed, bound, timedQuiet, boundQuiet,
    returns_revalidateAndBind env revalidated⟩, ?_, old, new, quiet.ledger_eq ▸ found,
      found', rfl, ?_⟩
  · change new.binding.digest = next.digest
    rw [← newIs]
    rfl
  · rw [← newIs]
    simp [History.renew, History.generation]

/-- What a recovery that returned has found out and done. -/
structure Recovered (principal : AuthenticatedPrincipal) (actor : Actor)
    (request : PlanDesiredStateRequest) (approval : RecoveryApproval)
    (floor : Option TrustedRiskFloor) (world : World sha256)
    (outcome : DurableRecoveryOutcome sha256) (lifecycle : Lifecycle sha256)
    (plan : ReconciliationPlan) (mid world' : World sha256) : Prop where
  anchored : Anchored principal request world lifecycle
  planned : FreshPlan request actor plan world mid
  before : Quiet world mid
  after : Advances (· = bindingGrounds lifecycle.binding) mid world'
  verified : ∀ authority, outcome = .verified authority → plan.status = .noChange ∧
    ∃ new : Lifecycle sha256, findLifecycle world'.ledger lifecycle.transactionId = some new ∧
      new.binding = lifecycle.binding ∧ new.state = .verified ∧ authority.snapshot = new.snapshot
  reprepared : ∀ prepared, outcome = .reprepared prepared →
    CandidateOf env principal actor request floor none prepared.candidate world mid ∧
    prepared.candidate.plan = plan ∧ approval.isObserveOnly = false ∧
    digestPlanPrecondition sha256 plan = .ok lifecycle.binding.preconditionDigest ∧
    RepreparedBy env ⟨lifecycle.snapshot, lifecycle.binding.requestDigest,
      lifecycle.binding.preconditionDigest⟩ prepared.candidate approval mid prepared world'

theorem returns_recoverConflicting
    (ended : Returns (recoverConflicting env anchor observation observationDigest) world outcome
      world') : ∃ snapshot, outcome = .blocked snapshot := by
  obtain ⟨_, _, -, rest⟩ := ended.bind
  obtain ⟨_, _, -, rest'⟩ := rest.bind
  obtain ⟨_, _, -, settling⟩ := rest'.bind
  obtain ⟨recovered, _, -, last⟩ := settling.bind
  split at last
  · exact ⟨_, last.pure.1.symm⟩
  · exact last.not_fail.elim

theorem returns_recoverAmbiguous
    (ended : Returns (recoverAmbiguous env anchor observation observationDigest) world outcome
      world') : ∃ snapshot, outcome = .stillIndeterminate snapshot := by
  obtain ⟨_, _, -, rest⟩ := ended.bind
  obtain ⟨_, _, -, settling⟩ := rest.bind
  obtain ⟨recovered, _, -, last⟩ := settling.bind
  split at last
  · exact ⟨_, last.pure.1.symm⟩
  · exact last.not_fail.elim

/-- A recovery from a plan that proposes a change blocks, leaves things open, or prepares the next
generation for the candidate of that plan. -/
theorem returns_recoverChange
    (ended : Returns (recoverChange env anchor principal plan observation observationDigest approval
      floor) world outcome world') :
    (∃ snapshot, outcome = .blocked snapshot ∨ outcome = .stillIndeterminate snapshot) ∨
    ∃ prepared risk review, outcome = .reprepared prepared ∧ approval.isObserveOnly = false ∧
      digestPlanPrecondition sha256 plan = .ok anchor.preconditionDigest ∧
      reviewCandidate env.debug.text principal plan floor none = .ok (risk, review) ∧
      reviewIsOpen review = true ∧
      sealCandidate sha256 principal plan observation review risk floor anchor.requestDigest none =
        .ok prepared.candidate ∧
      RepreparedBy env anchor prepared.candidate approval world prepared world' := by
  obtain ⟨preconditionDigest, computed, rest⟩ := ended.bind_lift
  split at rest
  · obtain ⟨snapshot, blocked⟩ := returns_recoverConflicting env rest
    exact .inl ⟨snapshot, .inl blocked⟩
  · rename_i same
    split at rest
    · obtain ⟨snapshot, stays⟩ := returns_recoverAmbiguous env rest
      exact .inl ⟨snapshot, .inr stays⟩
    · rename_i mayAct
      obtain ⟨⟨risk, review⟩, reviewed, rest'⟩ := rest.bind_lift
      dsimp only at rest'
      split at rest'
      · obtain ⟨snapshot, stays⟩ := returns_recoverAmbiguous env rest'
        exact .inl ⟨snapshot, .inr stays⟩
      · rename_i isOpen
        obtain ⟨candidate, built, acting⟩ := rest'.bind_lift
        obtain ⟨prepared, rfl, reprepared⟩ := returns_recoverAbsent env acting
        cases reprepared.candidate_eq
        exact .inr ⟨prepared, risk, review, rfl, by simpa using mayAct, not_not.mp same ▸ computed,
          reviewed, by simpa using isOpen, built, reprepared⟩

/-- What a recovery that returned has done. -/
theorem returns_recoverIndeterminateInner {actor : Actor} {request : PlanDesiredStateRequest}
    (ended : Returns (recoverIndeterminateInner env principal actor request approval floor) world
      outcome world') :
    ∃ lifecycle plan mid,
      Recovered env principal actor request approval floor world outcome lifecycle
        plan mid world' := by
  obtain ⟨anchor, _, anchoring, rest⟩ := ended.bind
  obtain ⟨⟨lifecycle, anchored, rfl⟩, rfl⟩ := returns_recoveryAnchorFor anchoring
  obtain ⟨-, planning⟩ := rest.bind_require
  obtain ⟨⟨plan, observation⟩, mid, previewed, checking⟩ := planning.bind
  have planned := freshPlan_of_freshPlan env previewed.mapError
  have before := (quiet_freshPlan env _ _ _ _).related previewed.mapError
  obtain ⟨_, -, digesting⟩ := checking.bind_lift
  obtain ⟨observationDigest, -, acting⟩ := digesting.bind_lift
  split at acting
  · -- the desired state is observed
    rename_i status
    obtain ⟨old, new, authority, found, found', binding, state, view, rfl⟩ :=
      returns_recoverVerified env acting
    obtain ⟨principalId, -, sameLifecycle⟩ := anchored.found
    have own := transactionId_of_findLifecycle sameLifecycle
    rw [before.ledger_eq] at found
    change findLifecycle _ lifecycle.transactionId = _ at found
    rw [own, sameLifecycle] at found
    cases found
    refine ⟨lifecycle, plan, _, anchored, planned, before,
      (advances_recoverVerified env _ _ _ _).related acting, ?_, ?_⟩
    · rintro _ ⟨⟩
      exact ⟨status, new, found', binding, state, view⟩
    · rintro _ ⟨⟩
  · rename_i status
    refine ⟨lifecycle, plan, _, anchored, planned, before,
      Guarantees.related (advances_recoverChange env _ _ _ _ _ _ ?_) acting, ?_, ?_⟩
    · rfl
    · rintro authority rfl
      rcases returns_recoverChange env acting with ⟨_, same | same⟩ | ⟨_, _, _, same, -⟩
      · cases same
      · cases same
      · cases same
    · rintro prepared rfl
      rcases returns_recoverChange env acting with ⟨_, same | same⟩ |
        ⟨prepared', risk, review, same, mayAct, precondition, reviewed, isOpen, built, reprepared⟩
      · cases same
      · cases same
      · cases same
        obtain ⟨computed, requestDigest⟩ := grounds_of_sealCandidate built
        obtain ⟨principalEq, planEq, reviewEq, riskEq, floorEq, protectiveEq⟩ :=
          fields_of_sealCandidate built
        refine ⟨⟨principalEq, floorEq, protectiveEq, ?_, ?_, ?_, ?_, ?_, ?_⟩, planEq, mayAct,
          precondition, reprepared⟩
        · rw [requestDigest]
          exact anchored.requestDigest
        · rw [planEq]
          exact computed
        · rw [planEq]
          exact planned
        · rw [planEq]
          exact status
        · rw [planEq, reviewEq, riskEq]
          exact reviewed
        · rw [reviewEq]
          exact isOpen
  · refine ⟨lifecycle, plan, _, anchored, planned, before,
      (advances_recoverAmbiguous env _ _ _).related acting, ?_, ?_⟩
    · rintro authority rfl
      obtain ⟨_, same⟩ := returns_recoverAmbiguous env acting
      cases same
    · rintro prepared rfl
      obtain ⟨_, same⟩ := returns_recoverAmbiguous env acting
      cases same

end Advancing

/-! ### What an authority rests on -/

section Authorization

variable (env : Environment sha256)

/-- The observation of a candidate that was rechecked counts at the time of the check. -/
theorem observedAt_le_of_recheckCandidate {now : Nat}
    (rechecked : recheckCandidate env candidate now = .ok ()) :
    candidate.observation.observedAtUnixMs ≤ now := by
  obtain ⟨_, current, -⟩ := bind_eq_ok.mp rechecked
  have current := mapError_eq_ok.mp current
  unfold ObservationEnvelope.requireCurrent ObservationEnvelope.freshnessAt at current
  by_cases future : now < candidate.observation.observedAtUnixMs
  · rw [if_pos future] at current
    cases current
  · exact Nat.le_of_not_lt future

/-- An authority expires with its observation, and before its approval does. -/
theorem authorityExpiresAtUnixMs_eq_ok {expiresAt : Nat}
    (computed : authorityExpiresAtUnixMs observation authorization = .ok expiresAt) :
    expiresAt ≤ observation.observedAtUnixMs + observation.validForMs ∧
      observation.observedAtUnixMs + observation.validForMs ≤ u64Max ∧
      ∀ approval, authorization = .approval approval →
        expiresAt < approval.expiresAtUnixSeconds * 1000 := by
  obtain ⟨observationExpiry, expiry, computed⟩ := bind_eq_ok.mp computed
  obtain ⟨rfl, fits⟩ := checkedAdd_eq_some.mp (elim_eq_ok.mp expiry)
  cases authorization with
  | policyAllow =>
    cases computed
    exact ⟨le_refl _, fits, by rintro _ ⟨⟩⟩
  | approval approval =>
    obtain ⟨deadline, converted, computed⟩ := bind_eq_ok.mp computed
    cases computed
    obtain ⟨product, multiplied, subtracted⟩ := Option.bind_eq_some_iff.mp (elim_eq_ok.mp converted)
    obtain ⟨rfl, -⟩ := checkedMul_eq_some.mp multiplied
    unfold checkedSub at subtracted
    split at subtracted
    · rename_i positive
      cases subtracted
      refine ⟨Nat.min_le_left _ _, fits, ?_⟩
      rintro _ ⟨⟩
      exact Nat.lt_of_le_of_lt (Nat.min_le_right _ _) (by omega)
    · cases subtracted

/-- What an authority rests on: an open policy, or evidence that was validated for the review. -/
inductive Authorized (review : TrustedPolicyReview) (evidenceId : Option ApprovalEvidenceId)
    (world : World sha256) : AuthorizationBasis → World sha256 → Prop
  | allowed (decision : review.evaluation.decision = .allow) (none : evidenceId = none) :
      Authorized review evidenceId world .policyAllow world
  | approved {world' : World sha256} (approvalClass : ApprovalClass) (reason : String)
      (id : ApprovalEvidenceId) (record : ApprovalRecord) (sample seconds : Option Nat)
      (authority : ApprovalAuthority)
      (decision : review.evaluation.decision = .requireApproval approvalClass reason)
      (given : evidenceId = some id)
      (validated : world'.trace = .validated id review (some record) seconds (.ok .satisfied) ::
        .clockRead sample :: world.trace)
      (fields : authority.evidenceId = record.evidence.id ∧
        authority.expiresAtUnixSeconds = record.evidence.expiresAtUnixSeconds)
      (quiet : Quiet world world') :
      Authorized review evidenceId world (.approval authority) world'

theorem fields_of_tryNew {evidenceId : ApprovalEvidenceId} {requestId : ApprovalRequestId}
    {approver : PrincipalId} {approvalClass : String} {issuedAt expiresAt : Nat}
    {authority : ApprovalAuthority}
    (built : ApprovalAuthority.tryNew evidenceId requestId approver approvalClass
      issuedAt expiresAt =
      .ok authority) :
    authority.evidenceId = evidenceId ∧ authority.expiresAtUnixSeconds = expiresAt := by
  unfold ApprovalAuthority.tryNew at built
  split at built
  · cases built
  · split at built
    · cases built
      exact ⟨rfl, rfl⟩
    · cases built

theorem returns_validateApprovalNow {id : ApprovalEvidenceId}
    {verdict : ApprovalValidation × Option ApprovalRecord}
    (ended : Returns (validateApprovalNow env id review) world verdict world') :
    ∃ sample seconds, world'.trace = .validated id review verdict.2 seconds (.ok verdict.1) ::
      .clockRead sample :: world.trace := by
  obtain ⟨sample, _, clock, rest⟩ := ended.bind
  cases returns_readClock env clock
  obtain ⟨before, _, queried, rest'⟩ := rest.bind
  obtain ⟨-, rfl⟩ := queried.query
  dsimp only at rest'
  obtain ⟨_, _, logged, last⟩ := rest'.bind
  cases logged.modify
  split at last
  · exact last.not_fail.elim
  · rename_i validation satisfied
    obtain ⟨rfl, rfl⟩ := last.pure
    exact ⟨sample, sample.map (· / 1000), by rw [World.trace_log, satisfied]; rfl⟩

theorem returns_authorizationFor {evidenceId : Option ApprovalEvidenceId}
    (ended : Returns (authorizationFor env review evidenceId) world authorization world') :
    Authorized review evidenceId world authorization world' := by
  have quiet := (quiet_authorizationFor env _ _).related ended
  unfold authorizationFor at ended
  split at ended
  · exact ended.not_fail.elim
  · rename_i decision
    obtain ⟨rfl, rfl⟩ := ended.pure
    exact .allowed decision rfl
  · exact ended.not_fail.elim
  · rename_i approvalClass reason id decision
    obtain ⟨⟨validation, record⟩, _, validating, rest⟩ := ended.bind
    obtain ⟨sample, seconds, trace⟩ := returns_validateApprovalNow env validating
    obtain ⟨satisfied, rest'⟩ := rest.bind_require
    cases satisfied
    cases record with
    | none => exact rest'.not_fail.elim
    | some record =>
      obtain ⟨authority, built, last⟩ := rest'.bind_lift
      obtain ⟨rfl, rfl⟩ := last.pure
      exact .approved approvalClass reason id record sample seconds authority decision rfl trace
        (fields_of_tryNew (mapError_eq_ok.mp built)) quiet
  · exact ended.not_fail.elim
  · exact ended.not_fail.elim

end Authorization

/-! ### Handoff -/

section Handoff

variable (env : Environment sha256)

/-- The generation that a commit names was prepared in the first ledger and has been handed off
in the second. -/
structure HandedOver (commit : HandoffCommit)
    (ledger ledger' : List (Lifecycle sha256)) : Prop where
  before : ∃ old, findLifecycle ledger commit.transactionId = some old ∧ old.state = .prepared ∧
    old.generation = commit.generation
  after : ∃ new, findLifecycle ledger' commit.transactionId = some new ∧
    new.state = .indeterminate ∧ new.generation = commit.generation

/-- A handoff that returned moved a prepared lifecycle. -/
theorem returns_handoff {request : HandoffRequest} {now : Option Nat} {commit : HandoffCommit}
    {ledger ledger' : List (Lifecycle sha256)}
    (ended : Returns (LedgerStore.handoff request now) ledger commit ledger') :
    HandedOver commit ledger ledger' ∧ commit.transactionId = request.transactionId ∧
      commit.generation = request.expectedGeneration ∧
      enforceAuthorityWindow now request.authorizedAtUnixMs request.expiresAtUnixMs = .ok () := by
  obtain ⟨_, open_, rest⟩ := ended.bind_lift
  obtain ⟨new, _, moving, last⟩ := rest.bind
  obtain ⟨⟨old, settled⟩, rfl⟩ := returns_settle moving
  obtain ⟨rfl, rfl⟩ := last.pure
  -- a handoff starts from the prepared state and stays in its generation
  obtain ⟨prepared, moved⟩ := Option.ite_none_right_eq_some.mp settled.applied
  have same := Option.some.inj moved
  have generation : new.generation = old.generation := by
    rw [← same]
    rfl
  refine ⟨⟨⟨old, settled.found, prepared, generation.symm⟩, new, ?_, ?_, rfl⟩, rfl,
    generation.trans settled.meets.generation, open_⟩
  · exact (settled.findLifecycle_eq _).trans (if_pos rfl)
  · rw [← same]
    rfl

/-- What a handoff can leave behind: the ledger advanced with nothing recorded, or the handoff
of a generation that was prepared is the newest record. -/
inductive HandsOff (world world' : World sha256) : Prop
  | unrecorded (advances : Advances (fun _ => False) world world')
  | recorded (mid : World sha256) (review : TrustedPolicyReview) (binding : AuthorityBinding sha256)
      (commit : HandoffCommit) (advances : Advances (fun _ => False) world mid)
      (handed : HandedOver commit world.ledger mid.ledger)
      (same : world' = mid.log (.handedOff review binding commit))

/-- What a handoff that returned a permit has checked. -/
structure HandoffChecked (principal : AuthenticatedPrincipal)
    (prepared : PreparedDurableAuthority sha256) (settings : Bool) (world : World sha256)
    (permit : DispatchPermit) (world' : World sha256) : Prop where
  fresh : prepared.handedOff = false
  principal_eq : principal.value = prepared.snapshot.principal.value
  used : ∃ (now storeNow : Nat) (current : AuthorityBinding sha256) (commit : HandoffCommit)
      (expiresAt : Nat) (start timed bound asked mid : World sha256),
    Quiet world start ∧ Returns (authorityNowUnixMs env) start now timed ∧
    Revalidated env prepared.candidate prepared.approvalEvidenceId now settings
      timed current bound ∧
    Quiet timed bound ∧ current.digest = prepared.binding.digest ∧
    (∃ lifecycle : Lifecycle sha256,
      findLifecycle bound.ledger prepared.snapshot.transactionId = some lifecycle ∧
      lifecycle.snapshot = prepared.snapshot) ∧
    authorityExpiresAtUnixMs prepared.candidate.observation current.authorization = .ok expiresAt ∧
    asked = bound.log (.clockRead (some storeNow)) ∧ now ≤ storeNow ∧ storeNow ≤ expiresAt ∧
    mid = { asked with ledger := mid.ledger } ∧
    HandedOver commit world.ledger mid.ledger ∧
    commit.transactionId = prepared.snapshot.transactionId ∧
    commit.generation = prepared.snapshot.currentGeneration ∧
    permit = .fromCommit commit ∧
    world' = mid.log (.handedOff prepared.candidate.review current commit)

/-- A handoff hands off at most once. -/
theorem handsOff_handoffInner (principal : AuthenticatedPrincipal)
    (prepared : PreparedDurableAuthority sha256) (settings : Bool) :
    Guarantees HandsOff (handoffInner env principal prepared settings) := by
  refine .of_triple fun start => ?_
  -- everything before the store is called is quiet
  have quietly : ∀ {α : Type} {program : AuthorityProgram sha256 α}, Guarantees Quiet program →
      Triple (Quiet start) program (fun _ => Quiet start) (HandsOff start) := by
    intro α program quiet
    refine quiet.returns ?_ ?_
    · exact fun _ _ _ earlier later _ => trans_of Quiet earlier later
    · exact fun _ _ earlier later => .unrecorded (trans_of Quiet earlier later).advances
  refine .consequence (P := Quiet start) ?_ ?_ (fun _ _ => id) (fun _ => id)
  rotate_left
  · exact fun state same => same ▸ refl_of Quiet start
  unfold handoffInner
  refine (quietly .require).bind fun _ => (quietly .require).bind fun _ => ?_
  refine (quietly (quiet_authorityNowUnixMs env)).bind fun now => ?_
  refine (quietly (quiet_revalidateAndBind env _ _ _ _)).bind fun current => ?_
  refine (quietly .require).bind fun _ => ?_
  refine (quietly (quiet_transactions (LedgerStore.reads_snapshot _))).bind fun durable => ?_
  refine (quietly .require).bind fun _ => (quietly .lift).bind fun authorityUse => ?_
  refine (quietly .lift).bind fun expiresAt => (quietly .lift).bind fun handoff => ?_
  refine (quietly (quiet_readClock env)).bind fun storeNow => ?_
  refine .bind (Q := fun commit mid => Advances (fun _ => False) start mid ∧
    HandedOver commit start.ledger mid.ledger) ?_ fun commit => ?_
  · have advanced : Guarantees (Advances fun _ => False)
        (transactions (LedgerStore.handoff handoff storeNow) : AuthorityProgram sha256 _) :=
      advances_transactions (LedgerStore.progress_handoff _ _)
    refine advanced.returns ?_ ?_
    · intro before commit after quiet advances ended
      obtain ⟨ledger, moved, rfl⟩ := returns_transactions ended
      have handed := (returns_handoff moved).1
      rw [quiet.ledger_eq] at handed
      exact ⟨trans_of _ quiet.advances advances, handed⟩
    · exact fun _ _ quiet advances => .unrecorded (trans_of _ quiet.advances advances)
  · refine .bind (Q := fun _ => HandsOff start) (Triple.modify ?_) fun _ => .pure ?_
    · rintro mid ⟨advances, handed⟩
      exact .recorded mid _ _ commit advances handed rfl
    · exact fun _ => id

/-- The window is enforced on a sample of the clock. -/
theorem enforceAuthorityWindow_eq_ok {now : Option Nat} {authorizedAt expiresAt : Nat}
    (accepted : enforceAuthorityWindow now authorizedAt expiresAt = .ok ()) :
    ∃ sample, now = some sample ∧ authorizedAt ≤ sample ∧ sample ≤ expiresAt := by
  unfold enforceAuthorityWindow at accepted
  split at accepted
  · cases accepted
  · rename_i sample
    split at accepted
    · cases accepted
    · rename_i inside
      exact ⟨sample, rfl, by omega, by omega⟩

/-- A handoff that returned had passed every check. -/
theorem returns_handoffInner {prepared : PreparedDurableAuthority sha256} {permit : DispatchPermit}
    (ended : Returns (handoffInner env principal prepared settings) world permit world') :
    HandoffChecked env principal prepared settings world permit world' := by
  obtain ⟨fresh, rest⟩ := ended.bind_require
  obtain ⟨owner, rest'⟩ := rest.bind_require
  obtain ⟨now, timed, sampled, revalidating⟩ := rest'.bind
  obtain ⟨current, bound, revalidated, digests⟩ := revalidating.bind
  have quiet := (quiet_revalidateAndBind env _ _ _ _).related revalidated
  have sameLedger :=
    (trans_of Quiet ((quiet_authorityNowUnixMs env).related sampled) quiet).ledger_eq
  obtain ⟨sameDigest, reading⟩ := digests.bind_require
  obtain ⟨durable, _, read, comparing⟩ := reading.bind
  obtain ⟨⟨lifecycle, found, rfl⟩, rfl⟩ := returns_snapshot read
  obtain ⟨sameSnapshot, using_⟩ := comparing.bind_require
  obtain ⟨authorityUse, -, expiring⟩ := using_.bind_lift
  obtain ⟨expiresAt, expiry, authorizing⟩ := expiring.bind_lift
  obtain ⟨handoff, signedOk, storing⟩ := authorizing.bind_lift
  have authorized := mapError_eq_ok.mp signedOk
  obtain ⟨storeNow, asked, clock, handing⟩ := storing.bind
  cases returns_readClock env clock
  obtain ⟨commit, mid, moving, logging⟩ := handing.bind
  obtain ⟨ledger, moved, rfl⟩ := returns_transactions moving
  obtain ⟨handed, sameId, sameGeneration, window⟩ := returns_handoff moved
  obtain ⟨_, _, logged, last⟩ := logging.bind
  cases logged.modify
  obtain ⟨rfl, rfl⟩ := last.pure
  obtain ⟨idEq, generationEq, authorizedAt, expiresEq⟩ := authorizeHandoff_eq_ok authorized
  obtain ⟨sample, rfl, afterControl, beforeExpiry⟩ := enforceAuthorityWindow_eq_ok window
  rw [authorizedAt] at afterControl
  rw [expiresEq] at beforeExpiry
  refine ⟨fresh, owner.2.2, now, sample, current, commit, expiresAt, _, timed, _, _, _,
    refl_of Quiet _, sampled, returns_revalidateAndBind env revalidated, quiet, sameDigest,
    ⟨lifecycle, found, sameSnapshot⟩, expiry, rfl, afterControl, beforeExpiry, rfl, ?_, ?_, ?_, rfl,
    rfl⟩
  · rw [← sameLedger]
    exact handed
  · rw [sameId, idEq, ← sameSnapshot]
  · rw [sameGeneration, generationEq, ← sameSnapshot]

end Handoff

end Linura.Control
