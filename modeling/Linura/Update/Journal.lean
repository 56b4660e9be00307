import Linura.Lib.Except
import Linura.Update.Coordinator
import Mathlib.Logic.Relation

/-!
# The history of an update journal

Every write of the journal replaces a state by the next one of a fixed order, by the same stage
with another snapshot, or by the state that requires recovery, and leaves the identities alone
once they are set.  What is synced is never taken back, so over a whole run with any crashes the
dispatch of the package transaction is marked at most once.

A coordinator decides how to resume from the state that it remembers.  One that was opened before
another one marked the dispatch goes on to report that the prepared transaction may be
dispatched; it cannot mark the dispatch itself.
-/

namespace Linura.Update

open Linura.Lib
open Program (Triple)

variable {state candidate : UpdateState} {coordinator : UpdateCoordinator}
    {stamp : JournalGeneration}
  {journal : Option JournalFile} {now : Except UpdateError Nat}
    {disk disk' : Disk (Option JournalFile)}
  {file : JournalFile} {machine : Machine}

def order : List (UpdateStage × ExternalEffectState) :=
  [(.acquireLock, .none), (.preflight, .none), (.diskSpace, .none), (.snapshot, .none),
    (.packageTransaction, .prepared), (.packageTransaction, .dispatchStarted),
    (.packageTransaction, .verified), (.migrations, .none), (.reconcile, .none),
    (.restartAssessment, .none), (.verify, .none), (.complete, .none)]

/-- One step in order, another snapshot, or the step to recovery, which is not in the order. -/
inductive Moves (state state' : UpdateState) : Prop
  | next (n : Nat) (source : order[n]? = some (state.stage, state.externalEffect))
      (target : order[n + 1]? = some (state'.stage, state'.externalEffect))
  | snapshot (source : (state.stage, state.externalEffect) = (.snapshot, .none))
      (target : (state'.stage, state'.externalEffect) = (.snapshot, .none))
  | recovery (target : state'.stage = .recoveryRequired)

/-- A step that keeps the identities that are set. -/
structure Advances (state state' : UpdateState) : Prop where
  moves : Moves state state'
  updateId : state'.updateId = state.updateId
  targetId : state'.targetId = state.targetId
  transactionId : ∀ id, state.transactionId = some id → state'.transactionId = some id

/-- A write of the journal. -/
inductive JournalStep : Option JournalFile → Option JournalFile → Prop
  | bind {file : JournalFile}
      (first : order[0]? = some (file.state.stage, file.state.externalEffect))
      (unprepared : file.state.transactionId = none) : JournalStep none (some file)
  | advance {file file' : JournalFile} (advances : Advances file.state file'.state) :
      JournalStep (some file) (some file')

/-! ### Candidates -/

theorem require_eq_ok {condition : Prop} [Decidable condition] {reason : String} {value : Unit} :
    require condition reason = .ok value ↔ condition := by
  unfold require
  by_cases holds : condition
  · simp [holds]
  · simp [holds]

/-- What a valid state says about its stage. -/
structure Consistent (state : UpdateState) : Prop where
  outside : state.stage ≠ .packageTransaction → state.externalEffect = .none
  inside : state.stage = .packageTransaction →
    state.externalEffect ≠ .none ∧ state.transactionId ≠ none
  before : state.stage.isPrePackage = true → state.transactionId = none

theorem consistent_of_valid (valid : validatePersistedState state = .ok ()) : Consistent state := by
  simp only [validatePersistedState, bind_eq_ok, require_eq_ok, exists_const] at valid
  obtain ⟨-, -, -, -, -, -, -, -, -, -, -, -, -, -, -, -, -, _, effect, pre, -⟩ := valid
  unfold checkExternalEffect at effect
  refine ⟨?_, ?_, ?_⟩
  · intro outside
    rw [if_neg outside] at effect
    exact require_eq_ok.mp effect
  · intro inside
    rw [if_pos inside] at effect
    obtain ⟨_, prepared, -⟩ := bind_eq_ok.mp effect
    exact not_or.mp (require_eq_ok.mp prepared)
  · intro before
    by_contra prepared
    exact pre ⟨before, .inl prepared⟩

/-- A transition of the stage alone moves one step on, if its result is valid. -/
theorem advances_of_transition {state state' : UpdateState} {next : UpdateStage}
    (moved : state.transition next = .ok state') (consistent : Consistent state)
    (consistent' : Consistent state') : Advances state state' := by
  unfold UpdateState.transition at moved
  split_ifs at moved with forbidden refused unverified last
  all_goals cases moved
  · -- to the migrations, from a verified package transaction
    subst last
    have stage : state.stage = .packageTransaction := by
      revert refused
      cases state.stage <;> simp [validTransition]
    have effect : state.externalEffect = .verified := by
      by_contra other
      exact unverified ⟨stage, rfl, .inl other⟩
    exact ⟨.next 6 (by rw [stage, effect]; rfl) rfl, rfl, rfl, fun _ => id⟩
  · -- between two stages without external effects
    have allowed : validTransition state.stage next = true := by simpa using refused
    have quiet : state.stage ≠ .packageTransaction := by
      intro package
      rw [package] at allowed
      cases next <;> simp_all [validTransition]
    have effect := consistent.outside quiet
    refine ⟨?_, rfl, rfl, fun _ => id⟩
    have apart : next ≠ .packageTransaction := by
      intro package
      exact (consistent'.inside package).1 effect
    cases stage : state.stage <;> cases next <;>
      first
      | (rw [stage] at allowed; exact absurd allowed (by decide))
      | exact absurd rfl apart
      | exact absurd rfl last
      | skip
    · exact .next 0 (by rw [stage, effect]; rfl) (by rw [effect]; rfl)
    · exact .next 1 (by rw [stage, effect]; rfl) (by rw [effect]; rfl)
    · exact .next 2 (by rw [stage, effect]; rfl) (by rw [effect]; rfl)
    · exact .next 7 (by rw [stage, effect]; rfl) (by rw [effect]; rfl)
    · exact .next 8 (by rw [stage, effect]; rfl) (by rw [effect]; rfl)
    · exact .next 9 (by rw [stage, effect]; rfl) (by rw [effect]; rfl)
    · exact .next 10 (by rw [stage, effect]; rfl) (by rw [effect]; rfl)

/-- Every operation commits a state that is a step on from the one that the coordinator knows. -/
theorem advances_of_candidate {call : UpdateCall}
    (computed : coordinator.candidate now call = .ok candidate)
    (consistent : Consistent coordinator.state) (consistent' : Consistent candidate) :
    Advances coordinator.state candidate := by
  cases call with
  | transition next => exact advances_of_transition computed consistent consistent'
  | recordSnapshot receipt =>
    simp only [UpdateCoordinator.candidate, UpdateCoordinator.snapshotCandidate] at computed
    split_ifs at computed with stage
    obtain ⟨_, -, same⟩ := bind_eq_ok.mp computed
    cases same
    have snapshot : coordinator.state.stage = .snapshot := not_not.mp stage
    have effect := consistent.outside (by rw [snapshot]; decide)
    exact ⟨.snapshot (by rw [snapshot, effect]) (by rw [snapshot, effect]), rfl, rfl, fun _ => id⟩
  | preparePackageTransaction transactionId =>
    simp only [UpdateCoordinator.candidate, UpdateCoordinator.prepareCandidate] at computed
    split_ifs at computed with stage
    obtain ⟨_, -, rest⟩ := bind_eq_ok.mp computed
    obtain ⟨transactionId', -, same⟩ := bind_eq_ok.mp rest
    cases same
    have snapshot : coordinator.state.stage = .snapshot := not_not.mp stage
    have effect := consistent.outside (by rw [snapshot]; decide)
    refine ⟨.next 3 (by rw [snapshot, effect]; rfl) rfl, rfl, rfl, ?_⟩
    -- there was no transaction before the package stage
    intro id set
    rw [consistent.before (by rw [snapshot]; rfl)] at set
    cases set
  | markDispatchStarted =>
    simp only [UpdateCoordinator.candidate, UpdateCoordinator.dispatchCandidate] at computed
    split_ifs at computed with wrong
    obtain ⟨_, -, same⟩ := bind_eq_ok.mp computed
    cases same
    simp only [not_or, not_not] at wrong
    exact ⟨.next 4 (by rw [wrong.1, wrong.2.1]; rfl) (by rw [wrong.1]; rfl), rfl, rfl, fun _ => id⟩
  | markPackageVerified receipt =>
    simp only [UpdateCoordinator.candidate, UpdateCoordinator.verifiedCandidate] at computed
    split_ifs at computed with wrong
    simp only [not_or, not_not] at wrong
    split at computed
    · cases computed
    · split_ifs at computed
      obtain ⟨_, -, same⟩ := bind_eq_ok.mp computed
      cases same
      exact ⟨.next 5 (by rw [wrong.1, wrong.2]; rfl) (by rw [wrong.1]; rfl), rfl, rfl, fun _ => id⟩
  | requireRecovery reason =>
    obtain ⟨_, -, same⟩ := bind_eq_ok.mp computed
    cases same
    exact ⟨.recovery rfl, rfl, rfl, fun _ => id⟩

/-! ### What a call can do -/

def written (disk : Disk (Option JournalFile)) (file : JournalFile) : Disk (Option JournalFile) :=
  disk.change fun _ => some file

/-- A call that is cut short has written nothing, or a journal that is a valid step on, which may be
synced. -/
inductive Leaves (disk : Disk (Option JournalFile)) : Disk (Option JournalFile) → Prop
  | unchanged : Leaves disk disk
  | written {file : JournalFile} (step : JournalStep disk.visible (some file))
      (valid : validatePersistedState file.state = .ok ()) : Leaves disk (written disk file)
  | synced {file : JournalFile} (step : JournalStep disk.visible (some file))
      (valid : validatePersistedState file.state = .ok ()) : Leaves disk (written disk file).sync

/-- An operation that succeeds has replaced the state that its coordinator knew, and synced. -/
structure Commits (world : World) (call : UpdateCall) (now : Except UpdateError Nat)
    (world' : World) :
    Prop where
  known : ∃ file, world.disk.visible = some file ∧ file.state = world.coordinator.state
  computed : world.coordinator.candidate now call = .ok world'.coordinator.state
  synced : ∃ file, JournalStep world.disk.visible (some file) ∧
    validatePersistedState file.state = .ok () ∧ world'.disk = (written world.disk file).sync ∧
    file.state = world'.coordinator.state

section Calls

variable {disk : Disk (Option JournalFile)} {world world' : World} {call : UpdateCall}

theorem Leaves.of_eq (world' : World) (same : world' = world) : Leaves world.disk world'.disk :=
  same ▸ .unchanged

/-- A commit is a write that is synced. -/
theorem Commits.leaves (commits : Commits world call now world') :
    Leaves world.disk world'.disk := by
  obtain ⟨file, step, valid, same, -⟩ := commits.synced
  rw [same]
  exact .synced step valid

theorem triple_load {E : World → Prop} {P : World → Prop} (exc : ∀ world, P world → E world) :
    Triple P load (fun state world => P world ∧
      (match world.disk.visible with
        | none => state = .default
        | some file => file.state = state ∧ validatePersistedState state = .ok ())) E := by
  apply (Triple.access exc).bind
  intro _
  apply Triple.query
  · intro world state holds loaded
    refine ⟨holds, ?_⟩
    cases seen : world.disk.visible with
    | none =>
      rw [seen] at loaded
      cases loaded
      rfl
    | some file =>
      simp only [seen] at loaded
      obtain ⟨_, valid, same⟩ := bind_eq_ok.mp loaded
      cases same
      exact ⟨rfl, valid⟩
  · exact exc

theorem triple_generation {E : World → Prop} {P : World → Prop} (exc : ∀ world, P world → E world) :
    Triple P generation (fun found world => P world ∧
      ∃ file, world.disk.visible = some file ∧ file.generation = found) E := by
  apply (Triple.access exc).bind
  intro _
  apply Triple.query
  · intro world found holds read
    refine ⟨holds, ?_⟩
    cases seen : world.disk.visible with
    | none =>
      rw [seen] at read
      cases read
    | some file =>
      rw [seen] at read
      cases read
      exact ⟨file, rfl, rfl⟩
  · exact exc

/-- A valid step is written and synced. -/
theorem triple_persist (step : JournalStep disk.visible (some ⟨state, stamp⟩))
    (valid : validatePersistedState state = .ok ()) :
    Triple (fun world => world.disk = disk ∧ world.coordinator = coordinator) (persist state stamp)
      (fun _ world => world.disk = (written disk ⟨state, stamp⟩).sync ∧
        world.coordinator = coordinator)
      (fun world => Leaves disk world.disk) := by
  apply triple_atomicWrite
    (R := fun world => world.disk = written disk ⟨state, stamp⟩ ∧ world.coordinator = coordinator)
  · rintro world ⟨rfl, -⟩
    exact .unchanged
  · rintro world ⟨rfl, same⟩
    exact ⟨rfl, same⟩
  · rintro world ⟨same, -⟩
    rw [same]
    exact .written step valid
  · rintro world ⟨same, unchanged⟩
    exact ⟨congrArg Disk.sync same, unchanged⟩

/-- A failed write is reported; the memory of the coordinator may change, the disk does not. -/
theorem triple_handlePersistFailure {α : Type} {Q : α → World → Prop} (error : UpdateError) :
    Triple (fun world => Leaves disk world.disk) (handlePersistFailure error : Action α) Q
      (fun world => Leaves disk world.disk) := by
  unfold handlePersistFailure
  split
  · exact .bind (.modify fun _ => id) fun _ => .fail fun _ => id
  · exact .fail fun _ => id

/-- It is then known to the coordinator. -/
theorem triple_persistAndObserve (step : JournalStep disk.visible (some ⟨candidate, stamp⟩))
    (valid : validatePersistedState candidate = .ok ()) :
    Triple (fun world => world.disk = disk ∧ world.coordinator = coordinator)
      (persistAndObserve candidate stamp)
      (fun _ world => world.disk = (written disk ⟨candidate, stamp⟩).sync ∧
        world.coordinator.state = candidate) (fun world => Leaves disk world.disk) := by
  apply Triple.bind
  · apply (triple_persist step valid).handle triple_handlePersistFailure
    exact fun _ => id
  intro _
  apply Triple.bind (Q := fun _ world => world.disk = (written disk ⟨candidate, stamp⟩).sync)
  · apply Triple.handle (F := fun world => Leaves disk world.disk)
    · apply (triple_generation _).consequence
      · exact fun _ => id
      · exact fun _ _ holds => holds.1.1
      · exact fun _ => id
      · rintro world ⟨same, -⟩
        rw [same]
        exact .synced step valid
    · exact fun error => triple_handlePersistFailure _
    · exact fun _ => id
  · intro observed
    exact .modify fun _ same => ⟨same, rfl⟩

/-- A commit replaces the state that the coordinator knows. -/
theorem triple_commitWithValidation {issued : Option Nat} {ambient : Ambient}
    (advances : validatePersistedState world.coordinator.state = .ok () →
      validatePersistedState candidate = .ok () → Advances world.coordinator.state candidate) :
    Triple (fun world' => world' = world) (commitWithValidation candidate issued ambient)
      (fun _ world' =>
        (∃ file, world.disk.visible = some file ∧ file.state = world.coordinator.state) ∧
        (∃ file, JournalStep world.disk.visible (some file) ∧
          validatePersistedState file.state = .ok () ∧
          world'.disk = (written world.disk file).sync ∧
          file.state = candidate) ∧ world'.coordinator.state = candidate)
      (fun world' => Leaves world.disk world'.disk) := by
  refine .peek Leaves.of_eq fun _ => ?_
  refine .bind_lift Leaves.of_eq fun _ valid => ?_
  apply (Triple.access Leaves.of_eq).bind
  intro _
  apply (triple_load Leaves.of_eq).bind
  intro durable
  apply (triple_generation fun world' holds => Leaves.of_eq world' holds.1).bind
  intro generation
  apply Triple.bind (Q := fun same world' => (world' = world ∧ ∃ file,
    world.disk.visible = some file ∧ file.state = durable ∧
    validatePersistedState durable = .ok ()) ∧
    (same = true → durable = world.coordinator.state))
  · apply Triple.query
    · rintro world' same ⟨⟨rfl, loaded⟩, file, seen, -⟩ compared
      rw [seen] at loaded
      refine ⟨⟨rfl, file, seen, loaded⟩, ?_⟩
      rintro rfl
      injection compared with compared
      exact (of_decide_eq_true compared).1
    · exact fun world' holds => Leaves.of_eq world' holds.1.1
  intro same
  apply Triple.assume
  intro current
  cases same with
  | false =>
    apply Triple.bind (Q := fun _ world' => world'.disk = world.disk)
    · apply Triple.modify
      rintro _ ⟨rfl, -⟩
      rfl
    · intro _
      apply Triple.fail
      intro world' same
      rw [same]
      exact .unchanged
  | true =>
    obtain rfl := current rfl
    apply Triple.assume
    rintro ⟨file, seen, known, validState⟩
    have step : JournalStep world.disk.visible (some ⟨candidate, ambient.stamp⟩) := by
      rw [seen]
      exact .advance (known.symm ▸ advances validState valid)
    refine .peek Leaves.of_eq fun _ => ?_
    apply (triple_persistAndObserve step valid).consequence
    · exact fun world' same => ⟨congrArg World.disk same, congrArg World.coordinator same⟩
    · rintro _ world' ⟨sameDisk, sameState⟩
      exact ⟨⟨file, seen, known⟩,
        ⟨⟨candidate, ambient.stamp⟩, step, valid, sameDisk, rfl⟩, sameState⟩
    · exact fun _ => id

/-- Everything that an operation can do to the journal. -/
theorem triple_perform (call : UpdateCall) (ambient : Ambient) :
    Triple (fun world' => world' = world) (perform call ambient)
      (fun _ world' => Commits world call ambient.now world')
      (fun world' => Leaves world.disk world'.disk) := by
  unfold perform
  refine .peek Leaves.of_eq fun _ => ?_
  refine .bind_assume (M := (· = world))
    (φ := fun candidate => world.coordinator.candidate ambient.now call = .ok candidate)
    (.query ?_ Leaves.of_eq) fun candidate computed => ?_
  · rintro _ candidate rfl computed
    exact ⟨rfl, computed⟩
  apply (triple_commitWithValidation fun valid valid' => advances_of_candidate computed
    (consistent_of_valid valid) (consistent_of_valid valid')).consequence
  · exact fun _ => id
  · rintro _ world' ⟨known, synced, rfl⟩
    exact ⟨known, computed, synced⟩
  · exact fun _ => id

/-- Binding a journal that is missing is its first write; one that is bound is left alone. -/
theorem triple_bindJournal {updateId targetId : String} (loaded : match world.disk.visible with
      | none => state = .default
      | some file => file.state = state ∧ validatePersistedState state = .ok ()) :
    Triple (fun world' => world' = world) (bindJournal state updateId targetId stamp)
      (fun bound world' => Leaves world.disk world'.disk ∧
        ∀ file, world'.disk.visible = some file → file.state = bound)
      (fun world' => Leaves world.disk world'.disk) := by
  unfold bindJournal
  by_cases unbound : state.updateId = none ∧ state.targetId = none
  · rw [if_pos unbound]
    by_cases other : state ≠ .default
    · rw [if_pos other]
      exact .fail Leaves.of_eq
    rw [if_neg other]
    refine .bind_lift Leaves.of_eq fun _ valid => ?_
    obtain rfl := not_not.mp other
    have step : JournalStep world.disk.visible
        (some ⟨{ UpdateState.default with updateId := some updateId, targetId := some targetId },
          stamp⟩) := by
      cases seen : world.disk.visible with
      | none => exact .bind rfl rfl
      | some file =>
        -- a journal file is bound
        simp only [seen] at loaded
        have bound := loaded.2
        simp only [validatePersistedState, bind_eq_ok, require_eq_ok, exists_const] at bound
        exact absurd rfl bound.1
    apply Triple.bind (Q := fun _ world' => world'.disk = (written world.disk
      ⟨{ UpdateState.default with updateId := some updateId, targetId := some targetId },
        stamp⟩).sync)
    · apply (triple_persist step valid).consequence
      · exact fun world' same => ⟨congrArg World.disk same, congrArg World.coordinator same⟩
      · exact fun _ _ holds => holds.1
      · exact fun _ => id
    · intro _
      apply Triple.pure
      intro world' same
      rw [same]
      refine ⟨.synced step valid, ?_⟩
      intro file seen
      rw [Disk.visible_sync, written, Disk.visible_change] at seen
      cases seen
      rfl
  · rw [if_neg unbound]
    by_cases mismatch : state.updateId ≠ some updateId ∨ state.targetId ≠ some targetId
    · rw [if_pos mismatch]
      exact .fail Leaves.of_eq
    rw [if_neg mismatch]
    apply Triple.pure
    rintro _ rfl
    refine ⟨.unchanged, ?_⟩
    intro file seen
    simp only [seen] at loaded
    exact loaded.1

/-- Everything that opening can do to the journal; the coordinator knows the state that is seen. -/
theorem triple_openCoordinator {requireSnapshot : Bool} {updateId targetId : String}
    {stamp : JournalGeneration} :
    Triple (fun world' => world' = world) (openCoordinator requireSnapshot updateId targetId stamp)
      (fun coordinator world' => Leaves world.disk world'.disk ∧
        ∃ file, world'.disk.visible = some file ∧ file.state = coordinator.state)
      (fun world' => Leaves world.disk world'.disk) := by
  unfold openCoordinator
  refine .bind_lift Leaves.of_eq fun updateId _ => .bind_lift Leaves.of_eq fun targetId _ => ?_
  apply (Triple.access Leaves.of_eq).bind
  intro _
  apply (triple_load Leaves.of_eq).bind
  intro loaded
  apply Triple.bind (Q := fun state world' => Leaves world.disk world'.disk ∧
    ∀ file, world'.disk.visible = some file → file.state = state)
  · apply Triple.of_forall
    rintro _ ⟨rfl, found⟩
    exact triple_bindJournal found
  intro state
  refine .peek (fun _ holds => holds.1) fun _ => ?_
  apply (triple_generation fun _ holds => holds.1).bind
  intro generation
  apply Triple.pure
  rintro world' ⟨⟨leaves, known⟩, file, seen, -⟩
  exact ⟨leaves, file, seen, known file seen⟩

end Calls

/-! ### Invariants of the journal -/

/-- What holds of the journal and after every valid step holds anyhow after a call. -/
theorem Leaves.anyhow {P : Option JournalFile → Prop} (leaves : Leaves disk disk')
    (holds : disk.Anyhow P)
    (closed : ∀ journal file, P journal → JournalStep journal (some file) →
      validatePersistedState file.state = .ok () → P (some file)) : disk'.Anyhow P := by
  cases leaves with
  | unchanged => exact holds
  | written step valid => exact holds.change fun _ _ => closed _ _ holds.visible step valid
  | synced step valid => exact (holds.change fun _ _ => closed _ _ holds.visible step valid).sync

/-- A call keeps the changes a chain of steps. -/
theorem Leaves.chain (leaves : Leaves disk disk') (chain : disk.Chain JournalStep) :
    disk'.Chain JournalStep := by
  cases leaves with
  | unchanged => exact chain
  | written step valid => exact chain.change step
  | synced step valid => exact Disk.chain_of_synced _

/-- Whatever a power loss may leave still comes after what is synced. -/
theorem Leaves.after (leaves : Leaves disk disk')
    (after : disk.Anyhow (Relation.ReflTransGen JournalStep disk.synced)) :
    disk'.Anyhow (Relation.ReflTransGen JournalStep disk'.synced) := by
  cases leaves with
  | unchanged => exact after
  | written step valid => exact after.change fun _ _ => after.visible.tail step
  | synced step valid => exact Disk.anyhow_of_synced .refl

/-- The journal, if there is one, is valid. -/
def ValidJournal (journal : Option JournalFile) : Prop :=
  ∀ file, journal = some file → validatePersistedState file.state = .ok ()

theorem validJournal_some (valid : validatePersistedState file.state = .ok ()) :
    ValidJournal (some file) := by
  rintro _ ⟨⟩
  exact valid

/-- The dispatch has been marked, or the update requires recovery. -/
def Dispatched (state : UpdateState) : Prop :=
  state.stage = .recoveryRequired ∨
    ∃ n, 5 ≤ n ∧ order[n]? = some (state.stage, state.externalEffect)

theorem eq_of_order {n m : Nat} {entry : UpdateStage × ExternalEffectState}
    (source : order[n]? = some entry) (target : order[m]? = some entry) : n = m := by
  have nodup : order.Nodup := by decide
  obtain ⟨inRange, -⟩ := List.getElem?_eq_some_iff.mp source
  exact (List.getElem?_inj inRange nodup).mp (source.trans target.symm)

theorem stage_of_order {n : Nat} {stage : UpdateStage} {effect : ExternalEffectState}
    (source : order[n]? = some (stage, effect)) : stage ≠ .recoveryRequired := by
  have every : ∀ entry ∈ order, entry.1 ≠ .recoveryRequired := by decide
  exact every _ (List.mem_of_getElem? source)

/-- The dispatch is never taken back. -/
theorem Dispatched.advances {state state' : UpdateState} (dispatched : Dispatched state)
    (advances : Advances state state') : Dispatched state' := by
  cases advances.moves with
  | recovery target => exact .inl target
  | next n source target =>
    rcases dispatched with recovery | ⟨m, late, found⟩
    · exact absurd recovery (stage_of_order source)
    · have same := eq_of_order source found
      exact .inr ⟨n + 1, by omega, target⟩
  | snapshot source target =>
    rcases dispatched with recovery | ⟨m, late, found⟩
    · rw [(Prod.mk.inj source).1] at recovery
      cases recovery
    · rw [source] at found
      have same := eq_of_order found (show order[3]? = some (.snapshot, .none) from rfl)
      omega

theorem not_dispatched_of_prepared (stage : state.stage = .packageTransaction)
    (effect : state.externalEffect = .prepared) : ¬ Dispatched state := by
  rintro (recovery | ⟨n, late, found⟩)
  · rw [stage] at recovery
    cases recovery
  · rw [stage, effect] at found
    have same := eq_of_order found (show order[4]? = some (.packageTransaction, .prepared) from rfl)
    omega

/-- The journal tells that the dispatch has been marked. -/
def DispatchedJournal (journal : Option JournalFile) : Prop :=
  ∃ file, journal = some file ∧ Dispatched file.state

/-- What was dispatched stays so. -/
theorem DispatchedJournal.step
    (dispatched : DispatchedJournal journal) (step : JournalStep journal (some file)) :
    DispatchedJournal (some file) := by
  obtain ⟨before, rfl, dispatched⟩ := dispatched
  cases step with
  | advance advances => exact ⟨file, rfl, dispatched.advances advances⟩

/-- Marking the dispatch succeeds from a prepared transaction, and the journal tells of it. -/
theorem Commits.marks {world world' : World}
    (commits : Commits world .markDispatchStarted now world') :
    ¬ DispatchedJournal world.disk.visible ∧ world'.disk.Anyhow DispatchedJournal := by
  obtain ⟨file, seen, known⟩ := commits.known
  have computed := commits.computed
  simp only [UpdateCoordinator.candidate, UpdateCoordinator.dispatchCandidate] at computed
  split_ifs at computed with wrong
  obtain ⟨_, -, same⟩ := bind_eq_ok.mp computed
  simp only [not_or, not_not] at wrong
  refine ⟨?_, ?_⟩
  · rintro ⟨file', seen', dispatched⟩
    rw [seen] at seen'
    cases seen'
    rw [known] at dispatched
    exact not_dispatched_of_prepared wrong.1 wrong.2.1 dispatched
  · obtain ⟨file', step, -, disk, state⟩ := commits.synced
    rw [disk]
    refine Disk.anyhow_of_synced ⟨file', ?_, .inr ⟨5, le_rfl, ?_⟩⟩
    · rw [written, Disk.visible_change]
    · injection same with same
      rw [state, ← same, wrong.1]
      rfl

/-- A journal persists over any number of steps, and so do its identities. -/
theorem identities_of_steps (steps : Relation.ReflTransGen JournalStep (some file) journal) :
    ∃ file', journal = some file' ∧ file'.state.updateId = file.state.updateId ∧
      file'.state.targetId = file.state.targetId ∧
      ∀ id, file.state.transactionId = some id → file'.state.transactionId = some id := by
  induction steps with
  | refl => exact ⟨file, rfl, rfl, rfl, fun _ => id⟩
  | tail _ step ih =>
    obtain ⟨before, rfl, update, target, transaction⟩ := ih
    cases step with
    | @advance _ file' advances =>
      exact ⟨file', rfl, advances.updateId.trans update, advances.targetId.trans target,
        fun id set => advances.transactionId id (transaction id set)⟩

/-! ### Runs -/

def UpdateCall.isMarkDispatchStarted : UpdateCall → Bool
  | .markDispatchStarted => true
  | _ => false

namespace Machine

/-- What a step of the machine can do: lose power, leave the journal as a call may leave it, or
commit. -/
inductive StepOutcome (machine : Machine) (step : Step) (machine' : Machine) : Prop
  | powerLoss (keep : List Bool) (loses : step = .powerLoss keep)
      (lost : machine'.disk = machine.disk.powerLoss keep)
      (same : machine'.succeeded = machine.succeeded)
  | leaves (leaves : Leaves machine.disk machine'.disk)
      (same : machine'.succeeded = machine.succeeded)
  | commits {coordinator : UpdateCoordinator} {call : UpdateCall}
      {now : Except UpdateError Nat} {world' : World}
      (commits : Commits ⟨machine.disk, coordinator⟩ call now world')
      (disk : machine'.disk = world'.disk)
      (succeeded : machine'.succeeded = machine.succeeded ++ [call])

/-- Everything that a step does to a machine. -/
theorem step_outcome (machine : Machine) (step : Step) :
    StepOutcome machine step (machine.step step) := by
  cases step with
  | opens place requireSnapshot updateId targetId ambient faults =>
    have opened := (@triple_openCoordinator ⟨machine.disk, blank⟩ requireSnapshot updateId targetId
      ambient.stamp).cases (s := ⟨⟨machine.disk, blank⟩, faults⟩) rfl
    rw [Machine.step]
    rcases opened with ⟨coordinator, s, ended, leaves, -⟩ | ⟨reason, s, ended, leaves⟩
      | ⟨s, ended, leaves⟩
    · rw [ended]
      exact .leaves leaves rfl
    · rw [ended]
      exact .leaves leaves rfl
    · rw [ended]
      exact .leaves leaves rfl
  | performs place call ambient faults =>
    rw [Machine.step]
    cases machine.coordinators place with
    | none => exact .leaves .unchanged rfl
    | some coordinator =>
      dsimp only
      rcases (@triple_perform ⟨machine.disk, coordinator⟩ call ambient).cases
        (s := ⟨⟨machine.disk, coordinator⟩, faults⟩) rfl with
        ⟨value, s, ended, commits⟩ | ⟨reason, s, ended, leaves⟩ | ⟨s, ended, leaves⟩
      · rw [ended]
        exact .commits commits rfl rfl
      · rw [ended]
        exact .leaves leaves rfl
      · rw [ended]
        exact .leaves leaves rfl
  | powerLoss keep => exact .powerLoss keep rfl rfl rfl

/-- A step that does not lose power leaves the journal as a call may leave it. -/
theorem leaves_step (machine : Machine) (step : Step) :
    (∃ keep, step = .powerLoss keep) ∨ Leaves machine.disk (machine.step step).disk := by
  cases step_outcome machine step with
  | powerLoss keep loses => exact .inl ⟨keep, loses⟩
  | leaves leaves => exact .inr leaves
  | commits commits disk =>
    rw [disk]
    exact .inr commits.leaves

/-- An assertion that steps of the journal keep holds anyhow after every step of the machine. -/
theorem anyhow_step {P : Option JournalFile → Prop} (holds : machine.disk.Anyhow P)
    (closed : ∀ journal file, P journal → JournalStep journal (some file) →
      validatePersistedState file.state = .ok () → P (some file)) (step : Step) :
    (machine.step step).disk.Anyhow P := by
  rcases leaves_step machine step with ⟨keep, rfl⟩ | leaves
  · exact holds.powerLoss keep
  · exact leaves.anyhow holds closed

theorem anyhow_foldl {P : Option JournalFile → Prop} (holds : machine.disk.Anyhow P)
    (closed : ∀ journal file, P journal → JournalStep journal (some file) →
      validatePersistedState file.state = .ok () → P (some file)) (steps : List Step) :
    (steps.foldl step machine).disk.Anyhow P := by
  induction steps generalizing machine with
  | nil => exact holds
  | cons step rest ih => exact ih (anyhow_step holds closed step)

/-- What holds of every journal: it is valid, each write since the last sync is one step, and
whatever a power loss may leave comes after what is synced. -/
structure Ordered (machine : Machine) : Prop where
  valid : machine.disk.Anyhow ValidJournal
  chain : machine.disk.Chain JournalStep
  after : machine.disk.Anyhow (Relation.ReflTransGen JournalStep machine.disk.synced)
  dispatched : machine.succeeded.any UpdateCall.isMarkDispatchStarted = true →
    machine.disk.Anyhow DispatchedJournal
  once : machine.succeeded.countP UpdateCall.isMarkDispatchStarted ≤ 1

theorem ordered_new (valid : ValidJournal journal) :
    Ordered (new journal) where
  valid := Disk.anyhow_of_synced valid
  chain := Disk.chain_of_synced _
  after := Disk.anyhow_of_synced .refl
  dispatched := nofun
  once := Nat.zero_le _

/-- Every step keeps the order. -/
theorem Ordered.step (ordered : Ordered machine) (step : Step) : Ordered (machine.step step) := by
  have valid := anyhow_step ordered.valid (fun _ _ _ _ valid => validJournal_some valid) step
  have keeps : machine.disk.Anyhow DispatchedJournal →
    (machine.step step).disk.Anyhow DispatchedJournal :=
    fun holds => anyhow_step holds (fun _ _ dispatched next _ => dispatched.step next) step
  cases step_outcome machine step with
  | powerLoss keep _ lost same =>
    refine ⟨valid, ?_, ?_, ?_, same ▸ ordered.once⟩
    · rw [lost]
      exact Disk.chain_of_synced _
    · rw [lost]
      exact Disk.anyhow_of_synced .refl
    · intro marked
      exact keeps (ordered.dispatched (same ▸ marked))
  | leaves leaves same =>
    refine ⟨valid, leaves.chain ordered.chain, leaves.after ordered.after, ?_, same ▸ ordered.once⟩
    intro marked
    exact keeps (ordered.dispatched (same ▸ marked))
  | @commits coordinator call now world' commits disk succeeded =>
    have leaves := commits.leaves
    refine ⟨valid, ?_, ?_, ?_, ?_⟩
    · rw [disk]
      exact leaves.chain ordered.chain
    · rw [disk]
      exact leaves.after ordered.after
    · intro marked
      rw [succeeded, List.any_append, Bool.or_eq_true] at marked
      rcases marked with earlier | now
      · exact keeps (ordered.dispatched earlier)
      · cases call with
        | markDispatchStarted =>
          rw [disk]
          exact commits.marks.2
        | _ => cases now
    · rw [succeeded, List.countP_append]
      cases call with
      | markDispatchStarted =>
        -- the dispatch was not marked before, or the journal would tell
        have unmarked : machine.succeeded.countP UpdateCall.isMarkDispatchStarted = 0 := by
          rw [List.countP_eq_zero]
          intro call member marked
          exact commits.marks.1
            (ordered.dispatched (List.any_eq_true.mpr ⟨call, member, marked⟩)).visible
        rw [unmarked]
        rfl
      | _ => exact ordered.once

/-- The order holds after every run. -/
theorem ordered_run (valid : ValidJournal journal) (steps : List Step) :
    Ordered (run journal steps) := by
  induction steps using List.reverseRecOn with
  | nil => exact ordered_new valid
  | append_singleton steps step ih =>
    rw [run, List.foldl_concat]
    exact ih.step step

theorem run_append (journal : Option JournalFile) (steps later : List Step) :
    run journal (steps ++ later) = later.foldl step (run journal steps) := List.foldl_append

/-- A dispatch is safe only of what is prepared. -/
theorem prepared_of_safeToDispatch (safe : coordinator.resumeDecision = .safeToDispatchPrepared) :
    coordinator.state.stage = .packageTransaction ∧
      coordinator.state.externalEffect = .prepared := by
  unfold UpdateCoordinator.resumeDecision at safe
  by_cases uncertain : coordinator.durabilityUncertain.isSome = true
  · rw [if_pos uncertain] at safe
    cases safe
  rw [if_neg uncertain] at safe
  cases stage : coordinator.state.stage with
  | packageTransaction =>
    cases effect : coordinator.state.externalEffect with
    | prepared => exact ⟨rfl, rfl⟩
    | _ => simp [stage, effect] at safe
  | _ => simp [stage] at safe

/-- A call that returns was made by a coordinator that knew the journal. -/
theorem commits_of_perform {world : World} {call : UpdateCall} {ambient : Ambient}
    {faults : List Fault} {value : Unit} {s : Faulty World}
    (returned : perform call ambient ⟨world, faults⟩ = (.ok value, s)) :
    Commits world call ambient.now s.state := by
  rcases (triple_perform call ambient).cases (s := ⟨world, faults⟩) rfl with
    ⟨_, _, ended, commits⟩ | ⟨_, _, ended, -⟩ | ⟨_, ended, -⟩
  · rw [returned] at ended
    cases ended
    exact commits
  · cases returned.symm.trans ended
  · cases returned.symm.trans ended

/-- In every run, whatever a power loss may leave of the journal is valid; each write, synced or
not, is one step in order from the state seen before, and a call that returns has replaced the state
that its coordinator knew; what is left later comes after what was synced earlier, with the same
identities; and the dispatch is marked at most once.  Once it is marked, a coordinator that is
opened does not report that the prepared transaction may be dispatched, and one that still reports
it is stale, so that none of its calls succeeds. -/
theorem run_update_journal (journal : Option JournalFile) (valid : ValidJournal journal)
    (steps : List Step) :
    (∀ keep file, (run journal steps).disk.remains keep = some file →
      validatePersistedState file.state = .ok ()) ∧
    (run journal steps).disk.Chain JournalStep ∧
    (∀ step, (∃ keep, step = .powerLoss keep) ∨
      Leaves (run journal steps).disk (run journal (steps ++ [step])).disk) ∧
    (∀ coordinator call ambient faults value s,
      perform call ambient ⟨⟨(run journal steps).disk, coordinator⟩, faults⟩ = (.ok value, s) →
      Commits ⟨(run journal steps).disk, coordinator⟩ call ambient.now s.state) ∧
    (∀ later keep, Relation.ReflTransGen JournalStep (run journal steps).disk.synced
      ((run journal (steps ++ later)).disk.remains keep)) ∧
    (∀ file later keep, (run journal steps).disk.synced = some file →
      ∃ file', (run journal (steps ++ later)).disk.remains keep = some file' ∧
        file'.state.updateId = file.state.updateId ∧ file'.state.targetId = file.state.targetId ∧
        ∀ id, file.state.transactionId = some id → file'.state.transactionId = some id) ∧
    (run journal steps).succeeded.countP UpdateCall.isMarkDispatchStarted ≤ 1 ∧
    ((run journal steps).succeeded.any UpdateCall.isMarkDispatchStarted = true →
      (∀ requireSnapshot updateId targetId stamp faults coordinator s,
        openCoordinator requireSnapshot updateId targetId stamp
          ⟨⟨(run journal steps).disk, blank⟩, faults⟩ = (.ok coordinator, s) →
        coordinator.resumeDecision ≠ .safeToDispatchPrepared) ∧
      (∀ place coordinator, (run journal steps).coordinators place = some coordinator →
        coordinator.resumeDecision = .safeToDispatchPrepared →
        (∃ file, (run journal steps).disk.visible = some file ∧ file.state ≠ coordinator.state) ∧
        ∀ call ambient faults value s,
          perform call ambient ⟨⟨(run journal steps).disk, coordinator⟩, faults⟩ ≠
            (.ok value, s))) := by
  have ordered := ordered_run valid steps
  have reach : ∀ later keep, Relation.ReflTransGen JournalStep (run journal steps).disk.synced
      ((run journal (steps ++ later)).disk.remains keep) := by
    intro later
    rw [run_append]
    exact anyhow_foldl ordered.after (fun _ _ reached next _ => reached.tail next) later
  refine ⟨fun keep file found => ordered.valid keep file found, ordered.chain, ?_,
    fun _ _ _ _ _ _ => commits_of_perform, reach, ?_, ordered.once, ?_⟩
  · intro step
    rw [run_append]
    exact leaves_step _ step
  · intro file later keep synced
    have steps := reach later keep
    rw [synced] at steps
    exact identities_of_steps steps
  · intro marked
    have dispatched := ordered.dispatched marked
    refine ⟨?_, ?_⟩
    · intro requireSnapshot updateId targetId stamp faults coordinator s opened safe
      rcases (@triple_openCoordinator ⟨(run journal steps).disk, blank⟩
        requireSnapshot updateId targetId
          stamp).cases (s := ⟨⟨(run journal steps).disk, blank⟩, faults⟩) rfl with
        ⟨_, _, ended, leaves, file, seen, known⟩ | ⟨_, _, ended, -⟩ | ⟨_, ended, -⟩
      · rw [opened] at ended
        cases ended
        obtain ⟨file', seen', late⟩ := (leaves.anyhow dispatched
          fun _ _ before next _ => before.step next).visible
        rw [seen] at seen'
        cases seen'
        obtain ⟨stage, effect⟩ := prepared_of_safeToDispatch safe
        rw [known] at late
        exact not_dispatched_of_prepared stage effect late
      · cases opened.symm.trans ended
      · cases opened.symm.trans ended
    · intro place coordinator open_ safe
      obtain ⟨file, seen, late⟩ := dispatched.visible
      have stale : file.state ≠ coordinator.state := by
        intro same
        obtain ⟨stage, effect⟩ := prepared_of_safeToDispatch safe
        rw [same] at late
        exact not_dispatched_of_prepared stage effect late
      refine ⟨⟨file, seen, stale⟩, ?_⟩
      intro call ambient faults value s returned
      obtain ⟨file', seen', known⟩ := (commits_of_perform returned).known
      cases seen.symm.trans seen'
      exact stale known

/-- Two coordinators see a prepared transaction, and the first one marks its dispatch. -/
def twoCoordinators : List Step :=
  [opens 0 "a", .performs 0 (.transition .preflight) (ambient "b") [],
    .performs 0 (.transition .diskSpace) (ambient "c") [],
    .performs 0 (.transition .snapshot) (ambient "d") [],
    .performs 0 (.preparePackageTransaction "x") (ambient "e") [], opens 1 "f",
    .performs 0 .markDispatchStarted (ambient "g") []]
where
  ambient (token : String) : Ambient := ⟨⟨token, 0⟩, .ok 0, .ok 0⟩
  opens (place : Nat) (token : String) : Step := .opens place false "u" "t" (ambient token) []

/-- The dispatch of a missing journal's transaction is marked once. -/
theorem run_update_journal_twoCoordinators : ValidJournal none ∧
    (run none twoCoordinators).succeeded.countP UpdateCall.isMarkDispatchStarted ≤ 1 := by
  have missing : ValidJournal none := by
    intro file found
    cases found
  obtain ⟨-, -, -, -, -, -, once, -⟩ := run_update_journal none missing twoCoordinators
  exact ⟨missing, once⟩

/-- The second coordinator goes on to report, after the dispatch was marked, that the transaction
may be dispatched. -/
theorem twoCoordinators_safeToDispatch :
    (run none twoCoordinators).succeeded.any UpdateCall.isMarkDispatchStarted = true ∧
      ((run none twoCoordinators).coordinators 1).map UpdateCoordinator.resumeDecision =
        some .safeToDispatchPrepared := by
  decide +kernel

end Machine

end Linura.Update
