import Linura.Planner.Plan

/-!
# A plan is the difference of what is desired and what is observed

Whatever `plan_resource` accepts it plans, and the plan is determined by the desired attributes and
by what is observed of them: attributes that are only observed play no role.  A resource that is
brought to the desired values of the changes needs no further change.
-/

namespace Linura.Planner

open Linura.Lib Linura.Core

variable {debugText : String → String} {requestId : RequestId} {actor : Actor}
variable {desired : DesiredResource} {observation : PlanningObservation}

/-- A plan lists what differs, in key order, and its status and risk say whether anything does. -/
structure IsDiff (desired : DesiredResource) (attributes : BTreeMap String String)
    (plan : ReconciliationPlan) : Prop where
  mem_changes : ∀ change, change ∈ plan.changes ↔
    desired.state.get? change.key = some change.desired ∧
      change.current = attributes.get? change.key ∧
      change.current ≠ some change.desired
  ordered : plan.changes.Pairwise fun change later => change.key < later.key
  blocked : plan.status = .blocked ↔
    ∃ key value, desired.state.get? key = some value ∧ attributes.get? key = none
  noChange : plan.status = .noChange ↔
    ∀ key value, desired.state.get? key = some value → attributes.get? key = some value
  changeProposed : plan.status = .changeProposed ↔
    (∀ key value, desired.state.get? key = some value → attributes.get? key ≠ none) ∧
      ∃ key value, desired.state.get? key = some value ∧ attributes.get? key ≠ some value
  readOnly : plan.prospectiveRisk = .readOnly ↔ plan.changes = []

/-- The desired values of the changes, written over what was observed. -/
def overwrite (attributes : BTreeMap String String) (changes : List StateChange) :
    BTreeMap String String :=
  changes.foldl (fun attributes change => attributes.insert change.key change.desired) attributes

/-! ### What is accepted is planned -/

/-- The checks on one observation that matches. -/
theorem checkPlannable_eq (valid : validateDesiredResource desired = .ok ())
    (current : observation.freshness = .current)
    (provider : observation.provider = desired.provider)
    (resource : observation.resource = desired.resource)
    (capability : observation.observationCapability = desired.observationCapability) :
    checkPlannable debugText desired observation = validatePlanningObservation observation := by
  unfold checkPlannable
  rw [valid]
  cases validatePlanningObservation observation with
  | error reason => rfl
  | ok _ => simp [current, provider, resource, capability, pure_eq_ok]

/-- A text that is a request id is a plan id. -/
theorem exists_planId (requestId : RequestId) :
    ∃ id, TypedId.new "plan id" requestId.value = .ok id := by
  have valid := requestId.valid
  have same : validateToken "plan id" requestId.value = .ok () := by
    unfold validateToken at valid ⊢
    split_ifs at valid ⊢
    rfl
  exact ⟨⟨requestId.value, same⟩, TypedId.new_value ⟨requestId.value, same⟩⟩

/-- What was checked is planned. -/
theorem exists_plan (requestId : RequestId) (actor : Actor)
    (checked : checkPlannable debugText desired observation = .ok ()) :
    ∃ plan, planResource debugText requestId actor desired observation = .ok plan := by
  obtain ⟨id, built⟩ := exists_planId requestId
  unfold planResource
  rw [checked, built]
  exact ⟨_, rfl⟩

/-! ### The difference -/

theorem mem_filterMap_changeFor (state : BTreeMap String String) (change : StateChange) :
    change ∈ state.entries.filterMap (changeFor observation) ↔
      state.get? change.key = some change.desired ∧
        change.current = observation.attributes.get? change.key ∧
          change.current ≠ some change.desired := by
  rw [List.mem_filterMap]
  constructor
  · rintro ⟨⟨key, value⟩, member, found⟩
    obtain ⟨sameKey, sameDesired, sameCurrent⟩ := changeFor_eq_some found
    dsimp only at sameKey sameDesired sameCurrent
    subst sameKey sameDesired
    refine ⟨BTreeMap.mem_entries_iff.mp member, sameCurrent, fun satisfied => ?_⟩
    have none : changeFor observation (change.key, change.desired) = none :=
      changeFor_eq_none.mpr (sameCurrent.symm.trans satisfied)
    rw [none] at found
    cases found
  · rintro ⟨wanted, seen, differs⟩
    refine ⟨(change.key, change.desired), BTreeMap.mem_entries_iff.mpr wanted, ?_⟩
    cases found : changeFor observation (change.key, change.desired) with
    | none => exact absurd (seen.trans (changeFor_eq_none.mp found)) differs
    | some other =>
      obtain ⟨sameKey, sameDesired, sameCurrent⟩ := changeFor_eq_some found
      cases change
      cases other
      simp_all

/-- The changes come in the order of the desired keys. -/
theorem ordered_filterMap_changeFor {entries : List (String × String)}
    (sorted : entries.Pairwise fun entry later => entry.1 < later.1) :
    (entries.filterMap (changeFor observation)).Pairwise fun change later =>
      change.key < later.key := by
  refine sorted.filterMap _ fun entry later less change found change' found' => ?_
  rw [(changeFor_eq_some found).1, (changeFor_eq_some found').1]
  exact less

theorem filterMap_changeFor_eq_nil {state : BTreeMap String String} :
    state.entries.filterMap (changeFor observation) = [] ↔
      ∀ key value, state.get? key = some value → observation.attributes.get? key = some value := by
  simp only [List.filterMap_eq_nil_iff, Prod.forall, changeFor_eq_none, BTreeMap.mem_entries_iff]

/-- A plan is blocked by a desired attribute that is not observed, and by nothing else. -/
theorem any_blocker_iff {state : BTreeMap String String} :
    (baseFindings observation ++ state.entries.filterMap (findingFor debugText observation)).any
        (fun finding => finding.level = .blocker) = true ↔
      ∃ key value, state.get? key = some value ∧ observation.attributes.get? key = none := by
  simp only [List.any_append, Bool.or_eq_true, List.any_eq_true, List.mem_filterMap, Prod.exists,
    BTreeMap.mem_entries_iff, decide_eq_true_eq]
  constructor
  · rintro (⟨finding, member, blocks⟩ | ⟨finding, ⟨key, value, wanted, found⟩, -⟩)
    · -- the findings that every plan starts with pass
      simp only [baseFindings, List.mem_cons, List.not_mem_nil, or_false] at member
      rcases member with rfl | rfl | rfl <;> cases blocks
    · refine ⟨key, value, wanted, ?_⟩
      cases seen : observation.attributes.get? key with
      | none => rfl
      | some current => simp [findingFor, seen] at found
  · rintro ⟨key, value, wanted, missing⟩
    refine .inr ⟨⟨"attribute-not-observed", .blocker,
      "authoritative observation does not expose desired attribute " ++ debugText key
        ++ "; planning fails closed"⟩, ⟨key, value, wanted, ?_⟩, rfl⟩
    simp only [findingFor, missing]

/-- A plan is the difference to what was observed. -/
theorem isDiff_of_planResource {plan : ReconciliationPlan}
    (planned : planResource debugText requestId actor desired observation = .ok plan) :
    IsDiff desired observation.attributes plan := by
  unfold planResource at planned
  obtain ⟨_, -, planned⟩ := bind_eq_ok.mp planned
  split at planned
  · cases planned
  cases planned
  have blocks := @any_blocker_iff debugText observation desired.state
  have nothing := @filterMap_changeFor_eq_nil observation desired.state
  have open_ : (∀ key value, desired.state.get? key = some value →
      observation.attributes.get? key = some value) →
      ¬∃ key value, desired.state.get? key = some value ∧
        observation.attributes.get? key = none := by
    rintro satisfied ⟨key, value, wanted, missing⟩
    rw [satisfied key value wanted] at missing
    cases missing
  constructor
  · exact mem_filterMap_changeFor desired.state
  · exact ordered_filterMap_changeFor desired.state.sorted
  all_goals dsimp only
  all_goals rw [← List.isEmpty_iff] at nothing
  · rw [← blocks]
    split_ifs <;> simp_all
  · rw [← nothing]
    split_ifs <;> simp_all
  · have seen : (∀ key value, desired.state.get? key = some value →
          observation.attributes.get? key ≠ none) ↔
        ¬∃ key value, desired.state.get? key = some value ∧
          observation.attributes.get? key = none := by
      simp only [not_exists, not_and, ne_eq]
    have differs : (∃ key value, desired.state.get? key = some value ∧
        observation.attributes.get? key ≠ some value) ↔
        ¬∀ key value, desired.state.get? key = some value →
          observation.attributes.get? key = some value := by
      simp only [not_forall, exists_prop, ne_eq]
    rw [seen, differs, ← blocks, ← nothing]
    clear seen differs blocks nothing open_
    split_ifs <;> simp_all
  · split_ifs <;> simp_all

/-! ### What is only observed -/

variable {attributes : BTreeMap String String}

/-- Observations that agree on the desired attributes give one plan. -/
theorem planResource_congr (agree : ∀ key value, desired.state.get? key = some value →
      attributes.get? key = observation.attributes.get? key)
    (checked : checkPlannable debugText desired observation =
      checkPlannable debugText desired { observation with attributes }) :
    planResource debugText requestId actor desired { observation with attributes } =
      planResource debugText requestId actor desired observation := by
  have changes : desired.state.entries.filterMap (changeFor { observation with attributes }) =
      desired.state.entries.filterMap (changeFor observation) := by
    refine List.filterMap_congr fun entry member => ?_
    simp only [changeFor, agree entry.1 entry.2 (BTreeMap.mem_entries_iff.mp member)]
  have findings :
    desired.state.entries.filterMap (findingFor debugText { observation with attributes }) =
      desired.state.entries.filterMap (findingFor debugText observation) := by
    refine List.filterMap_congr fun entry member => ?_
    simp only [findingFor, agree entry.1 entry.2 (BTreeMap.mem_entries_iff.mp member)]
  unfold planResource
  rw [checked, changes, findings]
  rfl

/-! ### Planning again -/

/-- The value under a key after a list of changes that all want this value for it. -/
theorem get?_overwrite {changes : List StateChange} {key value : String}
    (wanted : ∀ change ∈ changes, change.key = key → change.desired = value)
    (listed : attributes.get? key = some value ∨ ∃ change ∈ changes, change.key = key) :
    (overwrite attributes changes).get? key = some value := by
  induction changes generalizing attributes with
  | nil => simpa [overwrite] using listed
  | cons change rest ih =>
    -- the first change writes the value, or leaves the key as it is
    refine ih (fun later member => wanted later (List.mem_cons_of_mem _ member)) ?_
    rw [BTreeMap.get?_insert]
    by_cases same : key = change.key
    · rw [if_pos same, wanted change List.mem_cons_self same.symm]
      exact .inl rfl
    · rw [if_neg same]
      refine listed.imp_right ?_
      rintro ⟨other, member, named⟩
      rcases List.mem_cons.mp member with rfl | later
      · exact absurd named.symm same
      · exact ⟨other, later, named⟩

/-- Writing the changes of a plan gives every desired attribute its desired value. -/
theorem IsDiff.get?_overwrite {plan : ReconciliationPlan} (diff : IsDiff desired attributes plan)
    {key value : String} (wanted : desired.state.get? key = some value) :
    (overwrite attributes plan.changes).get? key = some value := by
  apply Planner.get?_overwrite
  · rintro change member rfl
    have named := ((diff.mem_changes change).mp member).1
    exact Option.some.inj (named.symm.trans wanted)
  · by_cases satisfied : attributes.get? key = some value
    · exact .inl satisfied
    · exact .inr ⟨⟨key, attributes.get? key, value⟩,
        (diff.mem_changes _).mpr ⟨wanted, rfl, satisfied⟩, rfl⟩

/-- `plan_resource` on a valid desired resource and an observation that matches it and is current:
the observation is refused for what it lacks itself, or there is a plan.  The plan is the
difference, what is only observed has no influence on it, and once its changes are written a plan
has none. -/
theorem planResource_isDiff (debugText : String → String) (requestId : RequestId) (actor : Actor)
    (desired : DesiredResource) (observation : PlanningObservation)
    (valid : validateDesiredResource desired = .ok ()) (current : observation.freshness = .current)
    (provider : observation.provider = desired.provider)
    (resource : observation.resource = desired.resource)
    (capability : observation.observationCapability = desired.observationCapability) :
    (∀ reason, validatePlanningObservation observation = .error reason →
      planResource debugText requestId actor desired observation = .error reason) ∧
    (validatePlanningObservation observation = .ok () →
      ∃ plan, planResource debugText requestId actor desired observation = .ok plan ∧
        IsDiff desired observation.attributes plan ∧
        (∀ attributes : BTreeMap String String, attributes.entries ≠ [] →
          (∀ key value, desired.state.get? key = some value →
            attributes.get? key = observation.attributes.get? key) →
          planResource debugText requestId actor desired
            { observation with attributes } = .ok plan) ∧
        ∃ again, planResource debugText requestId actor desired
            { observation with
              attributes := overwrite observation.attributes plan.changes } = .ok again ∧
          again.status = .noChange ∧ again.changes = []) := by
  have checked :=
    @checkPlannable_eq debugText desired observation valid current provider resource capability
  constructor
  · intro reason refused
    unfold planResource
    rw [checked, refused]
    rfl
  intro accepted
  have checkedAgain : ∀ attributes : BTreeMap String String, attributes.entries ≠ [] →
      checkPlannable debugText desired { observation with attributes } = .ok () := by
    intro attributes some
    have same : checkPlannable debugText desired { observation with attributes } =
        validatePlanningObservation { observation with attributes } :=
      checkPlannable_eq valid current provider resource capability
    rw [same]
    unfold validatePlanningObservation at accepted ⊢
    split_ifs at accepted with authority evidence
    simp [authority, evidence, some]
  rw [accepted] at checked
  obtain ⟨plan, planned⟩ := exists_plan requestId actor checked
  have diff := isDiff_of_planResource planned
  refine ⟨plan, planned, diff, ?_, ?_⟩
  · intro attributes some agree
    rw [planResource_congr agree (checked.trans (checkedAgain attributes some).symm), planned]
  · have some : (overwrite observation.attributes plan.changes).entries ≠ [] := by
      -- a valid desired resource wants some attribute, and it is there now
      intro none
      unfold validateDesiredResource at valid
      cases wanted : desired.state.entries with
      | nil => simp [wanted, throw_eq_error] at valid
      | cons entry rest =>
        have member : (entry.1, entry.2) ∈ desired.state.entries := wanted ▸ List.mem_cons_self
        have held :=
          BTreeMap.mem_entries_iff.mpr (diff.get?_overwrite (BTreeMap.mem_entries_iff.mp member))
        rw [none] at held
        cases held
    obtain ⟨again, replanned⟩ := exists_plan requestId actor (checkedAgain _ some)
    have diffAgain := isDiff_of_planResource replanned
    have settled : again.status = .noChange :=
      diffAgain.noChange.mpr fun key value wanted => diff.get?_overwrite wanted
    exact ⟨again, replanned, settled, (plannedUnder_of_planResource replanned).1.noChange settled⟩

def runningUnit : DesiredResource :=
  ⟨⟨"system", by decide⟩, ⟨"unit", by decide⟩, ⟨"observe", by decide⟩,
    BTreeMap.empty.insert "state" "on",
    ⟨"run it", [⟨"intent", by decide⟩], [], []⟩⟩

/-- The unit is observed as stopped, with its description. -/
def stoppedUnit : PlanningObservation :=
  ⟨⟨"system", by decide⟩, ⟨"unit", by decide⟩, ⟨"observe", by decide⟩, "native", "e1", .current,
    (BTreeMap.empty.insert "state" "off").insert "text" "a unit"⟩

/-- The unit is to be changed. -/
theorem exists_diff_stoppedUnit :
    ∃ plan, planResource id ⟨"request", by decide⟩ ⟨⟨"owner", by decide⟩, .human, true⟩ runningUnit
        stoppedUnit = .ok plan ∧ IsDiff runningUnit stoppedUnit.attributes plan := by
  obtain ⟨plan, planned, diff, -⟩ := (planResource_isDiff id ⟨"request", by decide⟩
    ⟨⟨"owner", by decide⟩, .human, true⟩ runningUnit stoppedUnit (by decide) rfl rfl
      rfl rfl).2 (by decide)
  exact ⟨plan, planned, diff⟩

end Linura.Planner
