import Linura.Control.PolicyReview
import Linura.Planner.Diff

/-!
# Risk is only raised

Control classifies the risk of a plan by trusted rules, under the floor of a registered operation.
The class that a plan gets is at least what the planner proposed and at least the floor, and one
rule covers all that the plan changes.  A plan that cannot be classified is blocked.  A plan that
proposes a change therefore never passes review without an approval, unless a registered transient
operation refined its risk by a rule that covers the complete requested state.
-/

namespace Linura.Control

open Linura.Lib Linura.Core Linura.Planner Linura.Policy

variable {debugText : String → String} {principal : AuthenticatedPrincipal}
    {plan : ReconciliationPlan}
variable {classification : RiskClassification} {review : TrustedPolicyReview}

/-- A rule is about the route of a plan and covers the given keys. -/
structure RiskRule.Covers (rule : RiskRule) (plan : ReconciliationPlan)
    (keys : List String) : Prop where
  provider_eq : plan.provider.value = rule.provider
  capability_eq : plan.observationCapability.value = rule.capability
  resource : startsWith plan.resource.value rule.resourceLead = true
  keys_subset : ∀ key ∈ keys, key ∈ rule.changeKeys

theorem RiskRule.covers_of_matches {rule : RiskRule} {keys : List String}
    (matched : rule.matchesMaterialKeys plan keys = true) : rule.Covers plan keys := by
  simp only [matchesMaterialKeys, Bool.and_eq_true, decide_eq_true_eq, List.all_eq_true,
    List.contains_iff_mem] at matched
  exact ⟨matched.1.1.1.1, matched.1.1.1.2, matched.1.1.2, matched.2⟩

/-- What a policy classifies is covered by one of its rules, and stays below the planner's risk only
where refinement is allowed. -/
theorem classify_eq_classified {policy : RiskPolicy} {refine_ : Bool}
    {requested : Option (BTreeMap String String)} {risk : RiskClass} {revision : String}
    {ruleIds : List String}
    (classified : policy.classify debugText plan refine_ requested =
      .classified risk revision ruleIds) :
    (∃ rule ∈ policy.rules, rule.Covers plan
      (if refine_ then requested.elim (plan.changes.map (·.key)) (·.keys)
        else plan.changes.map (·.key))) ∧
      (refine_ = false → riskRank plan.prospectiveRisk ≤ riskRank risk) := by
  unfold RiskPolicy.classify at classified
  dsimp only at classified
  split at classified
  · cases classified
  split at classified
  · cases classified
  split at classified
  · cases classified
  · rename_i first rest matched
    have member : first ∈ policy.rules.filter _ :=
      (List.mem_insertionSort _).mp (matched ▸ List.mem_cons_self)
    obtain ⟨listed, covers⟩ := List.mem_filter.mp member
    refine ⟨⟨first, listed, RiskRule.covers_of_matches covers⟩, ?_⟩
    rintro rfl
    split at classified
    · cases classified
    · rename_i notBelow
      cases classified
      simpa using notBelow

/-- The risk of a plan that proposes changes, as the planner states it. -/
theorem systemMutation_of_planResource {requestId : RequestId} {actor : Actor}
    {desired : DesiredResource}
    {observation : PlanningObservation}
    (planned : planResource debugText requestId actor desired observation = .ok plan)
    (proposes : plan.status = .changeProposed) :
    plan.changes ≠ [] ∧ plan.prospectiveRisk = .systemMutation := by
  have some := (plannedUnder_of_planResource planned).1.changeProposed proposes
  refine ⟨some, ?_⟩
  unfold planResource at planned
  obtain ⟨_, -, planned⟩ := bind_eq_ok.mp planned
  split at planned
  · cases planned
  · cases planned
    simpa using some

/-- Under a floor, too, one rule covers the changes and the risk is not lowered. -/
theorem classifyPlanRiskWithFloor_eq_classified {floor risk : RiskClass} {ruleId revision : String}
    {ruleIds : List String} (classified : classifyPlanRiskWithFloor debugText plan floor ruleId =
      .classified risk revision ruleIds) :
    riskRank plan.prospectiveRisk ≤ riskRank risk ∧
      ∃ rule ∈ (riskPolicyFor plan).rules, rule.Covers plan (plan.changes.map (·.key)) := by
  unfold classifyPlanRiskWithFloor at classified
  split at classified
  · rename_i risk' revision' ruleIds' plain
    cases classified
    obtain ⟨covered, notLowered⟩ := classify_eq_classified plain
    exact ⟨(notLowered rfl).trans (le_riskMax_left _ _), covered⟩
  · cases classified
  · rename_i notClassified _
    exact absurd classified (notClassified _ _ _)

/-! ### Reviews -/

/-- The classifications of a plan that Control asks for: by its rules, or under a floor. -/
inductive Classifies (debugText : String → String) (plan : ReconciliationPlan) :
    RiskClassification → Prop
  | plain : Classifies debugText plan (classifyPlanRisk debugText plan)
  | floored (floor : RiskClass) (ruleId : String) :
    Classifies debugText plan (classifyPlanRiskWithFloor debugText plan floor ruleId)

/-- A plan that proposes changes is blocked, or keeps its status and the risk of a mutation. -/
theorem result_of_changes (classifies : Classifies debugText plan classification)
    (proposes : plan.status = .changeProposed) (changes : plan.changes ≠ [])
    (mutation : plan.prospectiveRisk = .systemMutation) :
    (classificationResult plan classification).2.1 = .blocked ∨
      (classificationResult plan classification).2.1 = .changeProposed ∧
        riskRank .systemMutation ≤ riskRank (classificationResult plan classification).1 := by
  have applicable (risk : RiskClass) : classifyPlanRisk debugText plan ≠ .notApplicable risk := by
    unfold classifyPlanRisk RiskPolicy.classify
    rw [if_neg (by simp [proposes, changes])]
    dsimp only
    split
    · simp
    · split
      · simp
      · split <;> simp
  have raised {risk : RiskClass} {revision : String} {ruleIds : List String}
      (plain : classifyPlanRisk debugText plan = .classified risk revision ruleIds) :
      riskRank .systemMutation ≤ riskRank risk := by
    have notLowered := (classify_eq_classified plain).2 rfl
    rwa [mutation] at notLowered
  cases plain : classifyPlanRisk debugText plan with
  | notApplicable risk => exact absurd plain (applicable risk)
  | classified risk revision ruleIds =>
    right
    cases classifies with
    | plain =>
      rw [plain]
      exact ⟨congrArg mapStatus proposes, raised plain⟩
    | floored floor ruleId =>
      rw [classifyPlanRiskWithFloor, plain]
      exact ⟨congrArg mapStatus proposes, (raised plain).trans (le_riskMax_left _ _)⟩
  | unclassified revision reason =>
    left
    cases classifies with
    | plain => rw [plain]; rfl
    | floored floor ruleId => rw [classifyPlanRiskWithFloor, plain]; rfl
  | downgradeRejected revision floor risk ruleIds =>
    left
    cases classifies with
    | plain => rw [plain]; rfl
    | floored floor ruleId => rw [classifyPlanRiskWithFloor, plain]; rfl

/-- The subject of a review and what was decided about it. -/
theorem subject_of_review
    (reviewed : reviewPlanWithClassification debugText principal plan classification = .ok review) :
    ∃ subject, SubjectOf principal plan classification subject ∧
      review.evaluation.decision = (if subject.provider.value = "session-locker" then
        sessionLockPolicy.evaluateDecision subject else baselinePolicy.evaluateDecision
          subject) := by
  unfold reviewPlanWithClassification at reviewed
  cases derived : policySubjectFromPlan debugText principal plan classification with
  | error reason =>
    rw [derived] at reviewed
    cases reviewed
  | ok subject =>
    rw [derived] at reviewed
    cases reviewed
    refine ⟨subject, subjectOf_of_policySubjectFromPlan derived, ?_⟩
    unfold reviewSubjectForControl
    split <;> rfl

/-- A blocked subject is not decided otherwise. -/
theorem blocked_of_review
    (reviewed : reviewPlanWithClassification debugText principal plan classification = .ok review)
    (status : (classificationResult plan classification).2.1 = .blocked) :
    ∃ reason, review.evaluation.decision = .blocked reason := by
  obtain ⟨subject, of, decided⟩ := subject_of_review reviewed
  have blocked : subject.status = .blocked ∨ subject.hasBlockers = true :=
    .inl (of.status_eq.trans status)
  rw [decided]
  split
  · exact ⟨_, if_pos blocked⟩
  · exact ⟨_, if_pos blocked⟩

/-- The policy for locks allows only what changes nothing, and only to people. -/
theorem allow_of_sessionLockPolicy {subject : PolicySubject}
    (allowed : sessionLockPolicy.evaluateDecision subject = .allow) :
    subject.status = .noChange ∧ subject.actor.kind = .human := by
  unfold sessionLockPolicy at allowed
  dsimp only at allowed
  split at allowed
  · cases allowed
  split at allowed
  · cases allowed
  split at allowed
  · cases allowed
  · rename_i lock found denied
    split at allowed
    · rename_i unchanged
      simp only [not_or, not_not] at denied
      exact ⟨unchanged.1, denied.2.2.2.2.1⟩
    · -- a proposed change needs an approval or is denied
      split at allowed
      · cases allowed
      · split at allowed
        · split_ifs at allowed
        · cases allowed

theorem remote_of_baselinePolicy {subject : PolicySubject} (remote : subject.actor.kind = .remote) :
    baselinePolicy.evaluateDecision subject ≠ .allow := by
  unfold baselinePolicy
  dsimp only
  rw [if_pos remote]
  split <;> simp

/-- Risk is only raised.  A class given under a floor is at least the planner's risk and the floor,
and one rule covers the changes.  What cannot be classified is blocked.  A planned change is never
allowed without more, and nothing is allowed to a remote actor.  A risk below that of a system
mutation needs a refinement by a rule that covers the complete requested state. -/
theorem risk_only_raised (debugText : String → String) (principal : AuthenticatedPrincipal)
    (plan : ReconciliationPlan) :
    (∀ floor ruleId risk revision ruleIds,
      classifyPlanRiskWithFloor debugText plan floor ruleId = .classified risk revision ruleIds →
      riskRank plan.prospectiveRisk ≤ riskRank risk ∧ riskRank floor ≤ riskRank risk ∧
        ∃ rule ∈ (riskPolicyFor plan).rules, rule.Covers plan (plan.changes.map (·.key))) ∧
    (∀ classification review, (∃ revision reason, classification = .unclassified revision reason) ∨
        (∃ revision floor risk ruleIds,
          classification = .downgradeRejected revision floor risk ruleIds) →
      reviewPlanWithClassification debugText principal plan classification = .ok review →
      ∃ reason, review.evaluation.decision = .blocked reason) ∧
    (∀ requestId actor desired observation,
      planResource debugText requestId actor desired observation = .ok plan →
      plan.status = .changeProposed →
      (∀ classification review, Classifies debugText plan classification →
        reviewPlanWithClassification debugText principal plan classification = .ok review →
        review.evaluation.decision ≠ .allow) ∧
      ∀ policy refine_ requested risk revision ruleIds,
        RiskPolicy.classify debugText policy plan refine_ requested =
          .classified risk revision ruleIds →
        riskRank risk < riskRank .systemMutation → refine_ = true ∧
          ∃ rule ∈ policy.rules, rule.Covers plan
            (requested.elim (plan.changes.map (·.key)) (·.keys))) ∧
    (plan.actor.kind = .remote → ∀ classification review,
      reviewPlanWithClassification debugText principal plan classification = .ok review →
      review.evaluation.decision ≠ .allow) := by
  refine ⟨?_, ?_, ?_, ?_⟩
  · intro floor ruleId risk revision ruleIds classified
    obtain ⟨notLowered, covered⟩ := classifyPlanRiskWithFloor_eq_classified classified
    exact ⟨notLowered, floor_le_classified classified, covered⟩
  · rintro _ review (⟨revision, reason, rfl⟩ | ⟨revision, floor, risk, ruleIds, rfl⟩) reviewed
    · exact blocked_of_review reviewed rfl
    · exact blocked_of_review reviewed rfl
  · intro requestId actor desired observation planned proposes
    obtain ⟨changes, mutation⟩ := systemMutation_of_planResource planned proposes
    constructor
    · intro classification review classifies reviewed allowed
      obtain blocked | ⟨status, risky⟩ := result_of_changes classifies proposes changes mutation
      · obtain ⟨reason, decided⟩ := blocked_of_review reviewed blocked
        rw [allowed] at decided
        cases decided
      · obtain ⟨subject, of, decided⟩ := subject_of_review reviewed
        rw [allowed] at decided
        split at decided
        · have unchanged := (allow_of_sessionLockPolicy decided.symm).1
          rw [of.status_eq, status] at unchanged
          cases unchanged
        · exact baselinePolicy_ne_allow (of.risk_eq ▸ risky) decided.symm
    · intro policy refine_ requested risk revision ruleIds classified below
      obtain ⟨covered, notLowered⟩ := classify_eq_classified classified
      cases refine_ with
      | true => exact ⟨rfl, covered⟩
      | false =>
        have raised := notLowered rfl
        rw [mutation] at raised
        omega
  · intro remote classification review reviewed allowed
    obtain ⟨subject, of, decided⟩ := subject_of_review reviewed
    have remote' : subject.actor.kind = .remote := by rw [of.actor_eq, remote]
    rw [allowed] at decided
    split at decided
    · have human := (allow_of_sessionLockPolicy decided.symm).2
      rw [remote'] at human
      cases human
    · exact remote_of_baselinePolicy remote' decided.symm

end Linura.Control
