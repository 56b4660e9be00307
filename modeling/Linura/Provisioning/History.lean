import Linura.Provisioning.Reload
import Mathlib.Logic.Relation

/-!
# The history of a bootstrap ledger

The laws of single calls become laws of whole runs: stages are completed in order, an effectful one
after the ledger showed it prepared and then marked; what is selected or bound stays; and an owner
is enrolled once.

A coordinator decides how to resume from the state that it remembers.  One that was opened before
another one marked a stage goes on to report that the prepared stage may be executed; it cannot mark
the stage itself.
-/

namespace Linura.Bootstrap

open Linura.Lib Linura.Transaction
open Program (Triple)

variable {sha256 : Sha256}

/-! ### States -/

variable {state next : DurableBootstrapState}

/-- The selections of a manifest. -/
def ProvisioningState.selection (provisioning : ProvisioningState) :=
  (provisioning.manifestIdentity, provisioning.manifestId, provisioning.manifestConnectivity,
    provisioning.manifestDeferOwnerEnrollment, provisioning.manifestSourceRef,
    provisioning.manifestSetupRef,
    provisioning.manifestMachineProfileRef, provisioning.manifestHostIdentity)

/-- What was selected, bound or enrolled is kept. -/
structure Keeps (state next : DurableBootstrapState) : Prop where
  session : next.sessionId = state.sessionId
  machine : next.machineId = state.machineId
  mode : ∀ mode, state.provisioning.mode = some mode →
    next.provisioning.mode = some mode ∧ next.provisioning.selection = state.provisioning.selection
  plan : ∀ digest, state.provisioning.firstBootPlanSha256 = some digest →
    next.provisioning.firstBootPlanSha256 = some digest ∧
      next.provisioning.firstBootPlanCount = state.provisioning.firstBootPlanCount
  authority : ∀ authority, state.provisioning.ownerAuthority = some authority →
    next.provisioning.ownerAuthority = some authority

theorem Keeps.refl (state : DurableBootstrapState) : Keeps state state :=
  ⟨rfl, rfl, fun _ set => ⟨set, rfl⟩, fun _ set => ⟨set, rfl⟩, fun _ => id⟩

theorem Keeps.trans {later : DurableBootstrapState} (first : Keeps state next)
    (second : Keeps next later) :
    Keeps state later where
  session := second.session.trans first.session
  machine := second.machine.trans first.machine
  mode := fun mode set => by
    obtain ⟨mode', selection⟩ := first.mode mode set
    obtain ⟨mode'', selection'⟩ := second.mode mode mode'
    exact ⟨mode'', selection'.trans selection⟩
  plan := fun digest set => by
    obtain ⟨bound, count⟩ := first.plan digest set
    obtain ⟨bound', count'⟩ := second.plan digest bound
    exact ⟨bound', count'.trans count⟩
  authority := fun authority set => second.authority authority (first.authority authority set)

/-- What a state says about its owner beyond what `validate` checks: without a mode, or in recovery,
nobody was enrolled and the preparer is not retired; and an owner who is enrolled has authority of
generation one. -/
structure Lawful (state : DurableBootstrapState) : Prop where
  unowned : state.provisioning.mode = none ∨ state.provisioning.mode = some .recovery →
    state.provisioning.ownerAuthority = none ∧ state.provisioning.preparerAuthorityRetired = false
  owned : ∀ authority, state.provisioning.ownerAuthority = some authority →
    state.provisioning.ownerEnrollment = .enrolled ∧
      state.provisioning.preparerAuthorityRetired = true ∧
      state.provisioning.authorityGeneration = 1 ∧ authority.generation = 1

theorem lawful_fresh (sessionId machineId : String) : Lawful (.fresh sessionId machineId) :=
  ⟨fun _ => ⟨rfl, rfl⟩, nofun⟩

/-- A mode that hands the machine over is neither missing nor recovery. -/
theorem not_unowned_of_handoff {mode : Option ProvisioningMode}
    (handoff : mode.any (·.isHandoff) = true) :
    ¬ (mode = none ∨ mode = some .recovery) := by
  rintro (rfl | rfl)
  · cases handoff
  · cases handoff

namespace BootstrapStep

variable {clock : ClockSamples} {call : BootstrapCall}

/-- While nobody is enrolled there is no record of authority to keep. -/
theorem no_authority (valid : state.Valid)
    (notEnrolled : state.provisioning.ownerEnrollment ≠ .enrolled)
    (authority : OwnerAuthorityRecord) : state.provisioning.ownerAuthority ≠ some authority := by
  rw [(authorityGeneration_eq_zero valid.provisioning notEnrolled).2]
  nofun

/-- A step keeps the identities and what was selected, bound and enrolled. -/
theorem keeps (step : BootstrapStep sha256 clock state call next) (valid : state.Valid) :
    Keeps state next := by
  have refl := Keeps.refl state
  cases step with
  | prepare | mark | complete | verify => exact ⟨rfl, rfl, refl.mode, refl.plan, refl.authority⟩
  | selectMode _ _ unset =>
    refine ⟨rfl, rfl, ?_, refl.plan, refl.authority⟩
    intro mode set
    rw [unset] at set
    cases set
  | selectManifest _ _ unset _ =>
    refine ⟨rfl, rfl, ?_, refl.plan, refl.authority⟩
    intro mode set
    rw [unset] at set
    cases set
  | bindPlan _ _ _ unset =>
    refine ⟨rfl, rfl, refl.mode, ?_, refl.authority⟩
    intro digest set
    rw [unset] at set
    cases set
  | rebindPlan => exact refl
  | ownerPending _ _ _ unresolved =>
    have none_ := no_authority valid (by rw [unresolved]; decide)
    exact ⟨rfl, rfl, refl.mode, refl.plan, fun authority set => absurd set (none_ authority)⟩
  | enrollPending _ _ pending =>
    have none_ := no_authority valid (by rw [pending]; decide)
    exact ⟨rfl, rfl, refl.mode, refl.plan, fun authority set => absurd set (none_ authority)⟩
  | enrollInteractive _ _ unresolved =>
    have none_ := no_authority valid (by rw [unresolved]; decide)
    exact ⟨rfl, rfl, refl.mode, refl.plan, fun authority set => absurd set (none_ authority)⟩
  | recovery _ _ _ unresolved =>
    have none_ := no_authority valid (by rw [unresolved]; decide)
    exact ⟨rfl, rfl, refl.mode, refl.plan, fun authority set => absurd set (none_ authority)⟩

/-- A state in which an owner is enrolled is lawful. -/
theorem lawful_withOwner (valid : state.Valid)
    (notEnrolled : state.provisioning.ownerEnrollment ≠ .enrolled)
    (owned : ¬ (state.provisioning.mode = none ∨ state.provisioning.mode = some .recovery))
    (ownerId enrollmentId : String) :
    Lawful (state.withOwner ownerId enrollmentId (state.provisioning.authorityGeneration + 1)) := by
  obtain ⟨zero, -⟩ := authorityGeneration_eq_zero valid.provisioning notEnrolled
  rw [zero]
  refine ⟨fun unowned => absurd unowned owned, ?_⟩
  rintro _ ⟨⟩
  exact ⟨rfl, rfl, rfl, rfl⟩

/-- A step keeps a state lawful. -/
theorem lawful (step : BootstrapStep sha256 clock state call next) (valid : state.Valid)
    (before : Lawful state) : Lawful next := by
  cases step with
  | prepare | mark | complete | verify => exact ⟨before.unowned, before.owned⟩
  | selectMode _ _ unset => exact ⟨fun _ => before.unowned (.inl unset), before.owned⟩
  | selectManifest _ _ unset _ => exact ⟨fun _ => before.unowned (.inl unset), before.owned⟩
  | bindPlan => exact ⟨before.unowned, before.owned⟩
  | rebindPlan => exact before
  | ownerPending _ _ handoff _ =>
    exact ⟨fun unowned => absurd unowned (not_unowned_of_handoff handoff), nofun⟩
  | enrollPending _ handoff pending =>
    exact lawful_withOwner valid (by rw [pending]; decide) (not_unowned_of_handoff handoff) _ _
  | enrollInteractive _ interactive unresolved =>
    have owned : ¬ (state.provisioning.mode = none ∨ state.provisioning.mode = some .recovery) := by
      rw [interactive]
      decide
    exact lawful_withOwner valid (by rw [unresolved]; decide) owned _ _
  | recovery => exact ⟨fun _ => ⟨rfl, rfl⟩, nofun⟩

end BootstrapStep

/-! ### How far a bootstrap is -/

/-- How far the active stage is. -/
def ActiveBootstrapStage.progress (active : ActiveBootstrapStage) : Nat :=
  if active.effectState = .prepared then 1 else 2

/-- How far a bootstrap is: three steps for each stage. -/
def DurableBootstrapState.progress (state : DurableBootstrapState) : Nat :=
  3 * state.completed.length + state.active.elim 0 ActiveBootstrapStage.progress

theorem progress_le (active : ActiveBootstrapStage) : active.progress ≤ 2 := by
  unfold ActiveBootstrapStage.progress
  split <;> omega

namespace BootstrapStep

variable {clock : ClockSamples} {call : BootstrapCall}

/-- A step never goes back. -/
theorem progress (step : BootstrapStep sha256 clock state call next) :
    state.progress ≤ next.progress := by
  unfold DurableBootstrapState.progress
  cases step with
  | prepare idle => simp [idle]
  | @mark _ active here _ prepared =>
    simp [here, ActiveBootstrapStage.progress, prepared]
  | @complete _ active here =>
    have bound := progress_le active
    simp only [here, Option.elim, List.length_append, List.length_singleton]
    omega
  | @verify _ active _ _ here =>
    have bound := progress_le active
    simp only [here, Option.elim, DurableBootstrapState.withVerified, List.length_append,
      List.length_singleton]
    omega
  | selectMode | selectManifest | bindPlan | rebindPlan | ownerPending
      | enrollPending | enrollInteractive
  | recovery => exact Nat.le_refl _

end BootstrapStep

/-! ### What the ledger showed -/

section Shown

variable {steps : List Step} {step : Step} {stage : BootstrapStage} {operationId : String}

/-- After the steps, the ledger that is seen is read as the state. -/
def Shows (sha256 : Sha256) (steps : List Step) (state : DurableBootstrapState) : Prop :=
  readLedger sha256 (Machine.run sha256 steps).ledger.visible = .ok (some state)

/-- At some moment of the run, the ledger showed the stage prepared under the operation id. -/
def PreparedIn (sha256 : Sha256) (steps : List Step) (stage : BootstrapStage)
    (operationId : String) :
    Prop :=
  ∃ earlier state, earlier <+: steps ∧ Shows sha256 earlier state ∧
    state.active = some ⟨stage, operationId, .prepared⟩

/-- At some moment of the run, the ledger showed that the effect of the stage had started, and at an
earlier one it showed the stage prepared, under the same operation id.  The next step then completed
the stage in the ledger, by evidence that is bound to it. -/
def CompletedIn (sha256 : Sha256) (steps : List Step) (stage : BootstrapStage) : Prop :=
  ∃ operationId earlier step started evidence identity, earlier ++ [step] <+: steps ∧
    PreparedIn sha256 earlier stage operationId ∧
    Shows sha256 earlier started ∧ started.active = some ⟨stage, operationId, .effectStarted⟩ ∧
    BoundTo evidence ⟨stage, operationId, .effectStarted⟩ started ∧
    (Machine.run sha256 (earlier ++ [step])).ledger.visible = some (stateFile sha256
      ((started.withVerified stage evidence.toVerification).withGeneration (started.generation + 1))
      identity)

theorem PreparedIn.concat (prepared : PreparedIn sha256 steps stage operationId) (step : Step) :
    PreparedIn sha256 (steps ++ [step]) stage operationId := by
  obtain ⟨earlier, state, before, shows_, here⟩ := prepared
  exact ⟨earlier, state, before.trans (List.prefix_append _ _), shows_, here⟩

theorem CompletedIn.concat (completed : CompletedIn sha256 steps stage) (step : Step) :
    CompletedIn sha256 (steps ++ [step]) stage := by
  obtain ⟨operationId, earlier, step', started, evidence, identity, before, rest⟩ := completed
  exact ⟨operationId, earlier, step', started, evidence, identity,
    before.trans (List.prefix_append _ _), rest⟩

/-- What the run has shown of the stages of a state that may be left. -/
structure Accounted (sha256 : Sha256) (steps : List Step)
    (state : DurableBootstrapState) : Prop where
  started : ∀ stage operationId, state.active = some ⟨stage, operationId, .effectStarted⟩ →
    PreparedIn sha256 steps stage operationId
  completed : ∀ stage ∈ state.completed, stage.requiresEffectBoundary = true →
    CompletedIn sha256 steps stage

theorem accounted_fresh (sessionId machineId : String) :
    Accounted sha256 steps (.fresh sessionId machineId) :=
  ⟨nofun, nofun⟩

theorem Accounted.concat (accounted : Accounted sha256 steps state) (step : Step) :
    Accounted sha256 (steps ++ [step]) state where
  started := fun stage operationId here => (accounted.started stage operationId here).concat step
  completed := fun stage member effectful =>
    (accounted.completed stage member effectful).concat step

/-- A state that is computed from what the ledger shows is accounted for, once the ledger shows it.
-/
theorem Accounted.advance {identity : FileIdentity} (accounted : Accounted sha256 steps state)
    (shows_ : Shows sha256 steps state) (advances : Advances sha256 state next)
    (written : (Machine.run sha256 (steps ++ [step])).ledger.visible =
      some (stateFile sha256 next identity)) :
    Accounted sha256 (steps ++ [step]) next := by
  have earlier := accounted.concat step
  obtain ⟨clock, call, candidate, taken, rfl⟩ := advances
  cases taken with
  | prepare => exact ⟨nofun, earlier.completed⟩
  | @mark operationId active here operation prepared =>
    obtain ⟨stage, operationId', effect⟩ := active
    cases operation
    cases prepared
    refine ⟨?_, earlier.completed⟩
    rintro _ _ ⟨⟩
    exact ⟨steps, state, List.prefix_append _ _, shows_, here⟩
  | @complete operationId active here operation quiet =>
    refine ⟨nofun, ?_⟩
    intro stage member effectful
    rcases List.mem_append.mp member with old | last
    · exact earlier.completed stage old effectful
    · obtain rfl := List.mem_singleton.mp last
      rw [quiet] at effectful
      cases effectful
  | @verify call active evidence verifies here effectful started bound =>
    obtain ⟨stage, operationId, effect⟩ := active
    cases started
    refine ⟨nofun, ?_⟩
    intro stage' member effectful'
    rcases List.mem_append.mp member with old | last
    · exact earlier.completed stage' old effectful'
    · obtain rfl := List.mem_singleton.mp last
      exact ⟨operationId, steps, step, state, evidence, identity, List.prefix_rfl,
        accounted.started stage' operationId here, shows_, here, bound, written⟩
  | selectMode | selectManifest | bindPlan | rebindPlan | ownerPending
      | enrollPending | enrollInteractive
  | recovery => exact ⟨earlier.started, earlier.completed⟩

/-- Whatever may be left of the ledger, the run has shown how its stages were completed. -/
theorem accounted_run (steps : List Step) :
    (Machine.run sha256 steps).ledger.Anyhow (MaybeHeld sha256 (Accounted sha256 steps)) := by
  refine Machine.run_rule (P := fun steps machine =>
    machine.ledger.Anyhow (MaybeHeld sha256 (Accounted sha256 steps))) ?_ ?_ steps
  · exact Disk.anyhow_of_synced (.inl rfl)
  · intro steps step ih
    refine anyhow_ledger_step ih ?_ ?_
    · rintro ledger (missing | ⟨state, identity, same, valid, encodable, accounted⟩)
      · exact .inl missing
      · exact .inr ⟨state, identity, same, valid, encodable, accounted.concat step⟩
    · intro next identity written seen
      rw [← Machine.run_concat] at seen
      have held := ih.visible
      generalize visible : (Machine.run sha256 steps).ledger.visible = ledger at held written
      right
      cases written with
      | create session machine =>
        have readable := readable_fresh session machine
        exact ⟨_, identity, rfl, readable.valid, readable.encodable, accounted_fresh _ _⟩
      | commit read advances valid within =>
        obtain ⟨readable, accounted, -⟩ := held.of_read read
        have shows_ : Shows sha256 steps _ := (congrArg (readLedger sha256) visible).trans read
        exact ⟨next, identity, rfl, valid, advances.encodable readable within,
          accounted.advance shows_ advances seen⟩

end Shown

/-! ### What is synced is kept -/

/-- One state comes after another. -/
abbrev Path (sha256 : Sha256) : DurableBootstrapState → DurableBootstrapState → Prop :=
  Relation.ReflTransGen (Advances sha256)

/-- One state comes after another, and what was settled in the first one is kept. -/
def Follows (sha256 : Sha256) (first state : DurableBootstrapState) : Prop :=
  Path sha256 first state ∧ Keeps first state

/-- Every ledger that may be left comes after the one that is synced. -/
def AfterSynced (sha256 : Sha256) (ledger : Disk (Option LedgerFile)) : Prop :=
  ∀ state, readLedger sha256 ledger.synced = .ok (some state) →
    ledger.Anyhow (Held sha256 (Follows sha256 state))

theorem closed_follows (first : DurableBootstrapState) : Closed sha256 (Follows sha256 first) := by
  rintro state next valid advances ⟨path, keeps⟩
  refine ⟨path.tail advances, keeps.trans ?_⟩
  obtain ⟨clock, call, candidate, step, rfl⟩ := advances
  have kept := step.keeps valid
  exact ⟨kept.session, kept.machine, kept.mode, kept.plan, kept.authority⟩

/-- Of a ledger that is synced there is only one. -/
theorem afterSynced_of_synced {contents : Option LedgerFile}
    (held : MaybeHeld sha256 (fun _ => True) contents) : AfterSynced sha256 ⟨contents, []⟩ := by
  intro state read
  change readLedger sha256 contents = .ok (some state) at read
  obtain ⟨readable, -, identity, rfl⟩ := held.of_read read
  exact Disk.anyhow_of_synced ⟨state, identity, rfl, readable.valid,
    readable.encodable, .refl, .refl _⟩

/-- After every run the ledger comes after what was synced. -/
theorem afterSynced_run (steps : List Step) :
    AfterSynced sha256 (Machine.run sha256 steps).ledger := by
  refine Machine.run_rule (P := fun _ machine => AfterSynced sha256 machine.ledger) ?_ ?_ steps
  · exact afterSynced_of_synced (.inl rfl)
  · intro steps step ih
    have held := anyhow_written sha256 (steps ++ [step])
    rw [Machine.run_concat] at held
    have outcome := ledger_outcome sha256 (Machine.run sha256 steps) step
    generalize ((Machine.run sha256 steps).step sha256 step).ledger = ledger' at outcome held ⊢
    cases outcome with
    | unchanged => exact ih
    | writes written writes =>
      cases writes with
      | unchanged => exact ih
      | written =>
        intro state read
        have before := ih state read
        exact Writes.written.anyhow before
          fun _ => before.visible.step (closed_follows state) written _
      | synced => exact afterSynced_of_synced held.visible
    | syncs | loses => exact afterSynced_of_synced held.visible

/-! ### What happens at most once -/

/-- The successes of a run are steps from a valid state. -/
structure IsStep (sha256 : Sha256) (success : Success) : Prop where
  valid : success.before.Valid
  step : ∃ clock candidate, BootstrapStep sha256 clock success.before success.call candidate ∧
    success.after = candidate.withGeneration (success.before.generation + 1)

/-- If certain successes turn a property of states from false to true, and calls keep it, then there
is at most one of them, and the ledger tells of it. -/
theorem at_most_once {T : DurableBootstrapState → Prop} {M : Success → Bool}
    (closed : Closed sha256 T)
    (fires : ∀ success, IsStep sha256 success → M success = true →
      ¬ T success.before ∧ T success.after) (steps : List Step) :
    (Machine.run sha256 steps).succeeded.countP M ≤ 1 ∧
      ((Machine.run sha256 steps).succeeded.any M = true →
        (Machine.run sha256 steps).ledger.Anyhow (Held sha256 T)) := by
  refine Machine.run_rule (P := fun _ machine => machine.succeeded.countP M ≤ 1 ∧
    (machine.succeeded.any M = true → machine.ledger.Anyhow (Held sha256 T))) ?_ ?_ steps
  · exact ⟨Nat.zero_le _, nofun⟩
  · rintro steps step ⟨once, told⟩
    have sound := anyhow_written sha256 steps
    generalize Machine.run sha256 steps = machine at once told sound ⊢
    have kept : machine.succeeded.any M = true →
        (machine.step sha256 step).ledger.Anyhow (Held sha256 T) := fun marked =>
      anyhow_ledger_step (told marked) (fun _ => id) fun _ identity written _ =>
        (told marked).visible.step closed written identity
    have same : (machine.step sha256 step).succeeded = machine.succeeded →
        (machine.step sha256 step).succeeded.countP M ≤ 1 ∧
          ((machine.step sha256 step).succeeded.any M = true →
          (machine.step sha256 step).ledger.Anyhow (Held sha256 T)) := by
      intro same
      rw [same]
      exact ⟨once, kept⟩
    cases step with
    | opens place sessionId machineId identity faults =>
      apply same
      exact Machine.step_opens (P := fun after => after.succeeded = machine.succeeded)
        triple_openCoordinator
        (fun _ _ _ => rfl) fun _ _ => rfl
    | performs place call identity clock faults =>
      cases here : machine.coordinators place with
      | none =>
        apply same
        rw [Machine.step_performs_absent here]
      | some coordinator =>
        have outcome :
          (machine.step sha256 (.performs place call identity clock faults)).succeeded =
            machine.succeeded ∨
              ∃ world, Succeeded sha256 clock call identity (machine.world coordinator) world ∧
              (machine.step sha256 (.performs place call identity clock faults)).ledger =
                world.ledger ∧
              (machine.step sha256 (.performs place call identity clock faults)).succeeded =
                machine.succeeded ++ [⟨call, coordinator.state, world.coordinator.state⟩] :=
          Machine.step_performs (P := fun after => after.succeeded = machine.succeeded ∨
            ∃ world, Succeeded sha256 clock call identity (machine.world coordinator) world ∧
              after.ledger = world.ledger ∧
              after.succeeded = machine.succeeded ++
                [⟨call, coordinator.state, world.coordinator.state⟩])
            here triple_perform (fun world succeeded => .inr ⟨world, succeeded, rfl, rfl⟩)
            (fun _ _ => .inl rfl) fun _ _ => .inl rfl
        rcases outcome with unchanged | ⟨world, succeeded, ledger, added⟩
        · exact same unchanged
        rw [added, List.countP_append, List.any_append]
        by_cases marks : M ⟨call, coordinator.state, world.coordinator.state⟩ = true
        · -- The property was false before, so there was no earlier success of this kind.
          have commits := succeeded.commits
          have readable := (sound.visible.of_read commits.known).1
          obtain ⟨candidate, computed, next⟩ := commits.computed
          have step := DurableBootstrapState.step_of_candidate computed
          obtain ⟨unmarked, marked⟩ := fires _ ⟨readable.valid, clock, candidate, step, next⟩ marks
          have none_ : machine.succeeded.countP M = 0 := by
            rw [List.countP_eq_zero]
            intro earlier member fired
            have held := (told (List.any_eq_true.mpr ⟨earlier, member, fired⟩)).visible
            exact unmarked (held.of_read commits.known).2.1
          constructor
          · rw [none_, Nat.zero_add]
            exact List.countP_le_length
          · intro _
            rw [ledger, succeeded.ledger]
            exact Disk.anyhow_of_synced ⟨world.coordinator.state, identity, visible_written _ _,
              commits.valid, commits.encodable readable, marked⟩
        · constructor
          · simpa [List.countP_cons, marks] using once
          · intro any
            apply kept
            simpa [marks] using any
    | writesBack | powerLoss => exact same rfl

def Success.marks (stage : BootstrapStage) (success : Success) : Bool :=
  match success.call with
  | .markEffectStarted _ => success.before.active.any (·.stage == stage)
  | _ => false

/-- The call creates the record of the owner's authority. -/
def Success.enrolls (success : Success) : Bool :=
  success.before.provisioning.ownerAuthority.isNone &&
    success.after.provisioning.ownerAuthority.isSome

def Started (stage : BootstrapStage) (state : DurableBootstrapState) : Prop :=
  3 * stage.index + 2 ≤ state.progress

/-- The active stage is the next one in order. -/
theorem index_of_active (valid : state.Valid) {active : ActiveBootstrapStage}
    (here : state.active = some active) : active.stage.index = state.completed.length := by
  obtain ⟨next, -⟩ := valid.active active here
  have nodup : BootstrapStage.ordered.Nodup := by decide
  obtain ⟨lt, same⟩ := List.getElem?_eq_some_iff.mp next
  rw [BootstrapStage.index, ← same]
  exact nodup.idxOf_getElem _ lt

variable {stage : BootstrapStage}

variable {operationId : String}

/-- A stage whose effect started has started. -/
theorem started_of_active (valid : state.Valid)
    (here : state.active = some ⟨stage, operationId, .effectStarted⟩) : Started stage state := by
  have index : stage.index = state.completed.length := index_of_active valid here
  unfold Started DurableBootstrapState.progress
  rw [here, index]
  exact Nat.le_refl _

/-- A stage that is only prepared has not. -/
theorem not_started_of_prepared (valid : state.Valid)
    (here : state.active = some ⟨stage, operationId, .prepared⟩) : ¬ Started stage state := by
  have index : stage.index = state.completed.length := index_of_active valid here
  unfold Started DurableBootstrapState.progress
  rw [here, index]
  exact Nat.not_succ_le_self _

/-- A stage that has started stays so. -/
theorem Started.path (started : Started stage state) (path : Path sha256 state next) :
    Started stage next := by
  induction path with
  | refl => exact started
  | tail _ advances ih =>
    obtain ⟨clock, call, candidate, step, rfl⟩ := advances
    exact Nat.le_trans ih step.progress

theorem closed_started (stage : BootstrapStage) : Closed sha256 (Started stage) := by
  rintro state next - ⟨clock, call, candidate, step, rfl⟩ started
  exact Nat.le_trans started step.progress

theorem closed_enrolled : Closed sha256 fun state =>
    state.provisioning.ownerAuthority.isSome = true := by
  rintro state next valid ⟨clock, call, candidate, step, rfl⟩ enrolled
  obtain ⟨authority, set⟩ := Option.isSome_iff_exists.mp enrolled
  have kept : candidate.provisioning.ownerAuthority = some authority :=
    (step.keeps valid).authority authority set
  exact Option.isSome_iff_exists.mpr ⟨authority, kept⟩

theorem closed_lawful : Closed sha256 Lawful := by
  rintro state next valid ⟨clock, call, candidate, step, rfl⟩ before
  have after := step.lawful valid before
  exact ⟨after.unowned, after.owned⟩

/-- A success that marks a stage is the first to start it. -/
theorem marks_started {success : Success} (is_step : IsStep sha256 success)
    (marks : success.marks stage = true) :
    ¬ Started stage success.before ∧ Started stage success.after := by
  obtain ⟨call, before, after⟩ := success
  obtain ⟨valid, clock, candidate, step, same⟩ := is_step
  change BootstrapStep sha256 clock before call candidate at step
  change after = candidate.withGeneration (before.generation + 1) at same
  subst same
  cases step with
  | @mark operationId active here operation prepared =>
    obtain ⟨stage', operationId', effect⟩ := active
    cases prepared
    simp only [Success.marks, here, Option.any_some, beq_iff_eq] at marks
    subst marks
    have index : stage'.index = before.completed.length := index_of_active valid here
    refine ⟨not_started_of_prepared valid here, ?_⟩
    unfold Started DurableBootstrapState.progress
    rw [index]
    exact Nat.le_refl _
  | verify verifies =>
    cases call with
    | markEffectStarted => cases verifies
    | _ => cases marks
  | _ => cases marks

section Returned

variable {machine : Machine} {place : Nat} {identity : FileIdentity} {faults : List Fault}
  {coordinator : DurableBootstrapCoordinator}

/-- A coordinator that is opened knows a state with every property that the ledger tells of. -/
theorem held_of_opened {P : DurableBootstrapState → Prop} {sessionId machineId : String}
    (held : machine.ledger.Anyhow (Held sha256 P))
    (returned : machine.returned sha256 (.opens place sessionId machineId identity faults) =
      some coordinator) : P coordinator.state ∧ coordinator.state.Valid := by
  obtain ⟨world, ⟨-, ⟨opens, -⟩, valid, -, -⟩, -⟩ :=
    Machine.returned_opens triple_openCoordinator returned
  refine ⟨?_, valid⟩
  generalize world.ledger = ledger at opens
  cases opens with
  | found read bound => exact (held.visible.of_read read).2.1
  | created creates short =>
    obtain ⟨_, _, present, -⟩ := held.visible
    cases creates.missing.symm.trans present

/-- A call returns only if the coordinator knows the ledger. -/
theorem known_of_returned {call : BootstrapCall} {clock : ClockSamples}
    {after : DurableBootstrapCoordinator} (here : machine.coordinators place = some coordinator)
    (returned : machine.returned sha256 (.performs place call identity clock faults) = some after) :
    readLedger sha256 machine.ledger.visible = .ok (some coordinator.state) := by
  obtain ⟨before, world, here', succeeded, -⟩ :=
    Machine.returned_performs (fun _ => triple_perform) returned
  rw [here] at here'
  cases here'
  exact succeeded.commits.known

end Returned

/-- The coordinator reports a prepared stage only if it knows of one. -/
theorem prepared_of_executePrepared {coordinator : DurableBootstrapCoordinator}
    (decision : coordinator.resumeDecision = .executePrepared stage operationId) :
    coordinator.state.active = some ⟨stage, operationId, .prepared⟩ := by
  unfold DurableBootstrapCoordinator.resumeDecision at decision
  split_ifs at decision
  cases here : coordinator.state.active with
  | none =>
    rw [here] at decision
    cases next : coordinator.state.nextStage with
    | none | some => simp [next] at decision
  | some active =>
    obtain ⟨stage', operationId', effect⟩ := active
    rw [here] at decision
    cases effect with
    | prepared =>
      cases decision
      rfl
    | effectStarted => cases decision

namespace Machine

/-- In every run, every state that may be left in the ledger is the result of a path of calls from a
new one: its completed stages are the first ones in order; each effectful one was completed by
evidence bound to it, from a ledger that showed its effect started, after an earlier one that showed
it prepared under the same operation id; an owner has authority only if enrolled, with the preparer
retired and in generation one, and never in recovery.  Once a state is synced, the states left later
follow it, with the same selections, plan and authority.  Each stage is marked at most once, and an
owner is enrolled at most once.  Once the effect of a stage has started in the synced ledger, no
coordinator that is opened reports that the prepared stage may be executed, and one that still
reports it does not know the ledger: none of its calls returns. -/
theorem run_bootstrap_history (steps : List Step) :
    (∀ keep state, readLedger sha256 ((run sha256 steps).ledger.remains keep) = .ok (some state) →
      BootstrapStage.ordered.take state.completed.length = state.completed ∧
      (∃ sessionId machineId, Path sha256 (.fresh sessionId machineId) state) ∧
      (∀ stage ∈ state.completed, stage.requiresEffectBoundary = true →
        CompletedIn sha256 steps stage) ∧
      (∀ authority, state.provisioning.ownerAuthority = some authority →
        state.provisioning.ownerEnrollment = .enrolled ∧
        state.provisioning.preparerAuthorityRetired = true ∧
        state.provisioning.authorityGeneration = 1 ∧ authority.generation = 1) ∧
      (state.provisioning.mode = some .recovery → state.provisioning.ownerAuthority = none ∧
        state.provisioning.preparerAuthorityRetired = false)) ∧
    (∀ state later keep state', readLedger sha256 (run sha256 steps).ledger.synced =
      .ok (some state) →
      readLedger sha256 ((run sha256 (steps ++ later)).ledger.remains keep) = .ok (some state') →
      Path sha256 state state' ∧ Keeps state state') ∧
    (∀ stage, (run sha256 steps).succeeded.countP (Success.marks stage) ≤ 1) ∧
    (run sha256 steps).succeeded.countP Success.enrolls ≤ 1 ∧
    (∀ state stage operationId later,
      readLedger sha256 (run sha256 steps).ledger.synced = .ok (some state) →
      state.active = some ⟨stage, operationId, .effectStarted⟩ →
      (∀ place sessionId machineId identity faults coordinator,
        (run sha256 (steps ++ later)).returned sha256
          (.opens place sessionId machineId identity faults) = some coordinator →
        ∀ operationId', coordinator.resumeDecision ≠ .executePrepared stage operationId') ∧
      (∀ place coordinator operationId',
        (run sha256 (steps ++ later)).coordinators place = some coordinator →
        coordinator.resumeDecision = .executePrepared stage operationId' →
        readLedger sha256 (run sha256 (steps ++ later)).ledger.visible ≠
          .ok (some coordinator.state) ∧
        ∀ call identity clock faults, (run sha256 (steps ++ later)).returned sha256
          (.performs place call identity clock faults) = none)) := by
  refine ⟨?_, ?_, ?_, ?_, ?_⟩
  · intro keep state read
    have closed : Closed sha256 fun state => Lawful state ∧
        ∃ sessionId machineId, Path sha256 (.fresh sessionId machineId) state := by
      rintro state next valid advances ⟨lawful, sessionId, machineId, path⟩
      exact ⟨closed_lawful state next valid advances lawful, sessionId,
        machineId, path.tail advances⟩
    have held := anyhow_maybeHeld closed (fun _ _ => ⟨lawful_fresh _ _, _, _, .refl⟩) steps keep
    obtain ⟨readable, ⟨lawful, path⟩, -⟩ := held.of_read read
    obtain ⟨-, accounted, -⟩ := (accounted_run steps keep).of_read read
    exact ⟨readable.valid.order, path, accounted.completed, lawful.owned,
      fun mode => lawful.unowned (.inr mode)⟩
  · intro state later keep state' synced read
    have held := anyhow_held (closed_follows state) (afterSynced_run steps state synced) later keep
    exact (held.of_read read).2.1
  · intro stage
    exact (at_most_once (closed_started stage) (fun _ => marks_started) steps).1
  · refine (at_most_once closed_enrolled ?_ steps).1
    intro success _ enrolls
    simp only [Success.enrolls, Bool.and_eq_true] at enrolls
    exact ⟨by simp [Option.isNone_iff_eq_none.mp enrolls.1], enrolls.2⟩
  · intro state stage operationId later synced here
    -- The effect has started in whatever may be left of the ledger.
    have after := afterSynced_run steps state synced
    have valid : state.Valid := ((after []).of_read synced).1.valid
    have started : (run sha256 steps).ledger.Anyhow (Held sha256 (Started stage)) := by
      intro keep
      obtain ⟨left, identity, same, valid', encodable, path, -⟩ := after keep
      exact ⟨left, identity, same, valid', encodable, (started_of_active valid here).path path⟩
    have told := anyhow_held (closed_started stage) started later
    constructor
    · intro place sessionId machineId identity faults coordinator returned operationId' decision
      obtain ⟨held, known⟩ := held_of_opened told returned
      exact not_started_of_prepared known (prepared_of_executePrepared decision) held
    · intro place coordinator operationId' at_ decision
      have stale : readLedger sha256 (run sha256 (steps ++ later)).ledger.visible ≠
          .ok (some coordinator.state) := by
        intro read
        obtain ⟨known, held, -⟩ := told.visible.of_read read
        exact not_started_of_prepared known.valid (prepared_of_executePrepared decision) held
      refine ⟨stale, fun call identity clock faults => ?_⟩
      rw [Option.eq_none_iff_forall_ne_some]
      exact fun after returned => stale (known_of_returned at_ returned)

def openingSecond : Step := .opens 1 "session" "machine" someFile []

/-- The first coordinator marks the stage. -/
def marking : Step := .performs 0 (.markEffectStarted "check") someFile noon []

/-- The state after the stage was marked. -/
def markedState : DurableBootstrapState :=
  ⟨2, "session", "machine", [], [],
    some ⟨.baseEnvironmentVerification, "check", .effectStarted⟩, {}⟩

/-- Two coordinators see a prepared stage, and the first one marks it.  The second one goes on to
report that the stage may be executed. -/
theorem marked_executePrepared :
    (run zeros (opening ++ [preparing "check", openingSecond, marking])).ledger.visible =
      some (stateFile zeros markedState someFile) ∧
    ((run zeros (opening ++ [preparing "check", openingSecond, marking])).coordinators 1).map
      DurableBootstrapCoordinator.resumeDecision =
        some (.executePrepared .baseEnvironmentVerification "check") := by
  have prepares : (DurableBootstrapState.fresh "session" "machine").prepareStage
      .baseEnvironmentVerification "check" = .ok ((preparedState "check").withGeneration 0) := by
    decide +kernel
  have valid : ((preparedState "check").withGeneration 0).validate = .ok () := by decide +kernel
  have marks : (preparedState "check").markEffectStarted "check" =
      .ok (markedState.withGeneration 1) := by
    decide +kernel
  have valid' : (markedState.withGeneration 1).validate = .ok () := by decide +kernel
  have within : (DurableBootstrapState.fresh "session" "machine").generation + 1 < 2 ^ 64 := by
    decide +kernel
  have within' : (preparedState "check").generation + 1 < 2 ^ 64 := by decide +kernel
  have next : preparedState "check" = ((preparedState "check").withGeneration 0).withGeneration
    ((DurableBootstrapState.fresh "session" "machine").generation + 1) := rfl
  have next' : markedState =
    (markedState.withGeneration 1).withGeneration ((preparedState "check").generation + 1) := rfl
  have prepared := (current_opening zeros).next (.prepareStage .baseEnvironmentVerification "check")
    someFile noon prepares (DurableBootstrapState.validate_eq_ok.mp valid) within next (by decide)
  obtain ⟨first, second⟩ := prepared.opens (show 0 ≠ 1 by decide) someFile
  have session : (preparedState "check").sessionId = "session" := rfl
  have machine : (preparedState "check").machineId = "machine" := rfl
  rw [session, machine] at first second
  obtain ⟨-, -, seen, -, others⟩ := first.performs (.markEffectStarted "check") someFile noon marks
    (DurableBootstrapState.validate_eq_ok.mp valid') within' next'
  obtain ⟨file, -, here, -⟩ := second.known
  rw [run_append, List.foldl_cons, List.foldl_cons, List.foldl_cons, List.foldl_nil,
    marking, openingSecond,
    preparing]
  refine ⟨seen, ?_⟩
  rw [others 1 (by decide), here]
  rfl

end Machine

end Linura.Bootstrap
