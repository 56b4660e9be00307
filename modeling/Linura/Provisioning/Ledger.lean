import Linura.Lib.Runs
import Linura.Provisioning.Acceptance

/-!
# What a run writes to the ledger

Whatever happens to the processes that work on a ledger, each write replaces the state that was read
by one that a call computes from it.  So every ledger that may be left is the text of a valid state,
and a property of states that every call keeps holds of whatever may be left.
-/

namespace Linura.Bootstrap

open Linura.Lib Linura.Transaction
open Program (Triple)

variable {sha256 : Sha256}
variable {sessionId machineId : String} {place : Nat} {identity : FileIdentity}
    {call : BootstrapCall}
  {clock : ClockSamples} {faults : List Fault} {state next : DurableBootstrapState} {taken : Step}
  {world world' : World} {machine : Machine} {coordinator : DurableBootstrapCoordinator}

namespace Machine

/-! ### One step -/

variable {Q : DurableBootstrapCoordinator → World → Prop}

variable {E : World → Prop}

/-- Opening, by what is known of the program. -/
theorem step_opens {P : Machine → Prop} (triple : Triple (fun world => world = machine.world blank)
      (openCoordinator sha256 sessionId machineId identity) Q E)
    (opened : ∀ coordinator world, Q coordinator world →
      P { (machine.leave world).put place (some coordinator) with
        inFlight := none
        last := some coordinator.state }) (failed : ∀ world, E world → P (machine.leave world)) :
    P (machine.step sha256 (.opens place sessionId machineId identity faults)) := by
  have outcome := triple.cases (s := ⟨machine.world blank, faults⟩) rfl
  rw [step]
  rcases outcome with ⟨coordinator, s, ended, holds⟩ | ⟨reason, s, ended, holds⟩ | ⟨s, ended, holds⟩
  · rw [ended]
    exact opened coordinator s.state holds
  · rw [ended]
    exact failed s.state holds
  · rw [ended]
    exact failed s.state holds

/-- A call, by what is known of the program. -/
theorem step_performs {P : Machine → Prop} {Q : Unit → World → Prop}
    (here : machine.coordinators place = some coordinator)
    (triple : Triple (fun world => world = machine.world coordinator)
      (perform sha256 call identity clock) Q E) (returned : ∀ world, Q () world →
      P { (machine.leave world).put place (some world.coordinator) with
        inFlight := none
        last := some world.coordinator.state
        succeeded := machine.succeeded ++ [⟨call, coordinator.state, world.coordinator.state⟩] })
    (failed : ∀ world, E world → P ((machine.leave world).put place (some world.coordinator)))
    (crashed : ∀ world, E world → P ((machine.leave world).put place none)) :
    P (machine.step sha256 (.performs place call identity clock faults)) := by
  have outcome := triple.cases (s := ⟨machine.world coordinator, faults⟩) rfl
  rw [step, here]
  dsimp only
  rcases outcome with ⟨value, s, ended, holds⟩ | ⟨reason, s, ended, holds⟩ | ⟨s, ended, holds⟩
  · rw [ended]
    exact returned s.state holds
  · rw [ended]
    exact failed s.state holds
  · rw [ended]
    exact crashed s.state holds

/-- A call in a place without a coordinator. -/
theorem step_performs_absent (absent : machine.coordinators place = none) :
    machine.step sha256 (.performs place call identity clock faults) = machine := by
  rw [step, absent]

/-- The coordinator with which a step returned, if it did. -/
def returned (sha256 : Sha256) (machine : Machine) : Step → Option DurableBootstrapCoordinator
  | .opens _ sessionId machineId identity faults =>
    match openCoordinator sha256 sessionId machineId identity ⟨machine.world blank, faults⟩ with
    | (.ok coordinator, _) => some coordinator
    | _ => none
  | .performs place call identity clock faults =>
    match machine.coordinators place with
    | none => none
    | some coordinator =>
      match perform sha256 call identity clock ⟨machine.world coordinator, faults⟩ with
      | (.ok _, s) => some s.state.coordinator
      | _ => none
  | _ => none

/-- An opening that returned has met what is known of the program. -/
theorem returned_opens (triple : Triple (fun world => world = machine.world blank)
      (openCoordinator sha256 sessionId machineId identity) Q E)
    (returned : machine.returned sha256 (.opens place sessionId machineId identity faults) =
      some coordinator) :
    ∃ world, Q coordinator world ∧
      (machine.step sha256 (.opens place sessionId machineId identity faults)).ledger =
        world.ledger := by
  rw [Machine.returned] at returned
  rw [Machine.step]
  rcases triple.cases (s := ⟨machine.world blank, faults⟩) rfl with
    ⟨opened, s, ended, holds⟩ | ⟨reason, s, ended, -⟩ | ⟨s, ended, -⟩
  · rw [ended] at returned ⊢
    cases returned
    exact ⟨s.state, holds, rfl⟩
  · rw [ended] at returned
    cases returned
  · rw [ended] at returned
    cases returned

/-- A call that returned has met what is known of the program. -/
theorem returned_performs {E : DurableBootstrapCoordinator → World → Prop}
    (triple : ∀ before, Triple (fun world => world = machine.world before)
      (perform sha256 call identity clock) (fun _ => Q before) (E before))
    (returned : machine.returned sha256 (.performs place call identity clock faults) =
      some coordinator) :
    ∃ before world, machine.coordinators place = some before ∧ Q before world ∧
      world.coordinator = coordinator ∧
      (machine.step sha256 (.performs place call identity clock faults)).ledger = world.ledger := by
  rw [Machine.returned] at returned
  rw [Machine.step]
  cases here : machine.coordinators place with
  | none =>
    rw [here] at returned
    cases returned
  | some before =>
    rw [here] at returned
    dsimp only at returned ⊢
    rcases (triple before).cases (s := ⟨machine.world before, faults⟩) rfl with
      ⟨value, s, ended, holds⟩ | ⟨reason, s, ended, -⟩ | ⟨s, ended, -⟩
    · rw [ended] at returned ⊢
      exact ⟨before, s.state, rfl, holds, Option.some.inj returned, rfl⟩
    · rw [ended] at returned
      cases returned
    · rw [ended] at returned
      cases returned

theorem run_append (steps later : List Step) :
    run sha256 (steps ++ later) = later.foldl (Machine.step sha256) (run sha256 steps) :=
  List.foldl_append

theorem run_concat (steps : List Step) (step : Step) :
    run sha256 (steps ++ [step]) = (run sha256 steps).step sha256 step :=
  run_append steps [step]

/-- What holds of a new machine and is carried over by each step holds of every run. -/
theorem run_rule {P : List Step → Machine → Prop} (nil : P [] new)
    (concat : ∀ steps step, P steps (run sha256 steps) →
      P (steps ++ [step]) ((run sha256 steps).step sha256 step)) (steps : List Step) :
    P steps (run sha256 steps) :=
  run_induction nil concat steps

end Machine

def Step.isPowerLoss : Step → Bool
  | .powerLoss _ _ => true
  | _ => false

/-! ### States that are written -/

/-- A call computes the next state. -/
def Advances (sha256 : Sha256) (state next : DurableBootstrapState) : Prop :=
  ∃ clock call candidate, BootstrapStep sha256 clock state call candidate ∧
    next = candidate.withGeneration (state.generation + 1)

/-- A state that is written to the ledger: a new one, or one that is computed from what is read. -/
inductive LedgerStep (sha256 : Sha256) : Option LedgerFile → DurableBootstrapState → Prop
  | create {sessionId machineId : String} (session : isIdentifier sessionId = true)
      (machine : isIdentifier machineId = true) : LedgerStep sha256 none
        (.fresh sessionId machineId)
  | commit {file : LedgerFile} {state next : DurableBootstrapState}
      (read : readLedger sha256 (some file) = .ok (some state))
      (advances : Advances sha256 state next)
      (valid : next.Valid) (within : next.generation < 2 ^ 64) : LedgerStep sha256 (some file) next

/-- The ledger holds a state with the property. -/
def Held (sha256 : Sha256) (P : DurableBootstrapState → Prop) (ledger : Option LedgerFile) : Prop :=
  ∃ state identity, ledger = some (stateFile sha256 state identity) ∧ state.Valid ∧
    state.Encodable ∧ P state

/-- There is no ledger, or it holds a state with the property. -/
def MaybeHeld (sha256 : Sha256) (P : DurableBootstrapState → Prop)
    (ledger : Option LedgerFile) : Prop :=
  ledger = none ∨ Held sha256 P ledger

variable {P : DurableBootstrapState → Prop} {ledger : Option LedgerFile}

/-- What is read from a ledger is what was written, and has no dash. -/
theorem Held.of_read (held : Held sha256 P ledger)
    (read : readLedger sha256 ledger = .ok (some state)) :
    state.Readable ∧ P state ∧ ∃ identity, ledger = some (stateFile sha256 state identity) := by
  obtain ⟨written, identity, rfl, valid, encodable, holds⟩ := held
  obtain ⟨_, -, read⟩ := bind_eq_ok.mp read
  obtain ⟨found, parsed, same⟩ := bind_eq_ok.mp read
  cases same
  obtain ⟨dashFree, rfl⟩ := dashFree_of_parseState sha256 valid encodable parsed
  exact ⟨⟨valid, encodable, dashFree⟩, holds, identity, rfl⟩

/-- A ledger that is read is held, and is the file of its state. -/
theorem MaybeHeld.of_read (held : MaybeHeld sha256 P ledger)
    (read : readLedger sha256 ledger = .ok (some state)) :
    state.Readable ∧ P state ∧ ∃ identity, ledger = some (stateFile sha256 state identity) := by
  rcases held with rfl | held
  · cases read
  · exact held.of_read read

/-- An advance of a readable state can be written. -/
theorem Advances.encodable (advances : Advances sha256 state next) (readable : state.Readable)
    (within : next.generation < 2 ^ 64) : next.Encodable := by
  obtain ⟨clock, call, candidate, step, rfl⟩ := advances
  have encodable := step.encodable readable.valid readable.encodable
  exact ⟨within, encodable.observed, encodable.provisioning⟩

/-- A property is kept by calls. -/
def Closed (sha256 : Sha256) (P : DurableBootstrapState → Prop) : Prop :=
  ∀ state next, state.Valid → Advances sha256 state next → P state → P next

theorem closed_true : Closed sha256 fun _ => True := fun _ _ _ _ _ => trivial

/-- A step of the ledger keeps what is closed. -/
theorem Held.step (closed : Closed sha256 P) (held : Held sha256 P ledger)
    (step : LedgerStep sha256 ledger next) (identity : FileIdentity) :
    Held sha256 P (some (stateFile sha256 next identity)) := by
  cases step with
  | create =>
    obtain ⟨_, _, missing, -⟩ := held
    cases missing
  | commit read advances valid within =>
    obtain ⟨readable, holds, -⟩ := held.of_read read
    exact ⟨next, identity, rfl, valid, advances.encodable readable within,
      closed _ _ readable.valid advances holds⟩

/-- A step of the ledger keeps it also if there was none. -/
theorem MaybeHeld.step (closed : Closed sha256 P)
    (fresh : ∀ sessionId machineId, P (.fresh sessionId machineId))
    (held : MaybeHeld sha256 P ledger)
    (step : LedgerStep sha256 ledger next) (identity : FileIdentity) :
    MaybeHeld sha256 P (some (stateFile sha256 next identity)) := by
  rcases held with rfl | held
  · cases step with
    | create session machine =>
      have readable := readable_fresh session machine
      exact .inr ⟨_, identity, rfl, readable.valid, readable.encodable, fresh _ _⟩
  · exact .inr (held.step closed step identity)

/-- A ledger is created with a fresh state. -/
theorem Creates.fresh_eq {ledger : Disk (Option LedgerFile)}
    (creates : Creates sessionId machineId ledger state) :
    isIdentifier sessionId = true ∧ isIdentifier machineId = true ∧
    state = .fresh sessionId machineId := by
  obtain ⟨session, machine, -, rfl⟩ := new_eq_ok.mp creates.fresh
  exact ⟨session, machine, rfl⟩

theorem Creates.ledgerStep {ledger : Disk (Option LedgerFile)}
    (creates : Creates sessionId machineId ledger state) :
      LedgerStep sha256 ledger.visible state := by
  obtain ⟨session, machine, rfl⟩ := creates.fresh_eq
  rw [creates.missing]
  exact .create session machine

namespace Commits

variable (commits : Commits sha256 clock world call next)
include commits

/-- A call that is carried out advances the state. -/
theorem advances : Advances sha256 world.coordinator.state next := by
  obtain ⟨candidate, computed, same⟩ := commits.computed
  exact ⟨clock, call, candidate, DurableBootstrapState.step_of_candidate computed, same⟩

theorem ledgerStep : LedgerStep sha256 world.ledger.visible next := by
  have read := commits.known
  cases seen : world.ledger.visible with
  | none =>
    rw [seen] at read
    cases read
  | some file =>
    rw [seen] at read
    exact .commit read commits.advances commits.valid commits.within

theorem identities : next.sessionId = world.coordinator.state.sessionId ∧
    next.machineId = world.coordinator.state.machineId := by
  obtain ⟨candidate, computed, rfl⟩ := commits.computed
  obtain ⟨session, machine, -⟩ := (DurableBootstrapState.step_of_candidate computed).identities
  exact ⟨session, machine⟩

theorem generation : next.generation = world.coordinator.state.generation + 1 := by
  obtain ⟨candidate, -, rfl⟩ := commits.computed
  rfl

theorem encodable (before : world.coordinator.state.Readable) : next.Encodable :=
  commits.advances.encodable before commits.within

/-- What is computed from a state that is read back has no dash, unless the call brings one in. -/
theorem dashFree (before : world.coordinator.state.Readable)
    (plain : call.dashFree sha256 clock = true) : next.DashFree := by
  obtain ⟨candidate, computed, rfl⟩ := commits.computed
  have kept := (DurableBootstrapState.step_of_candidate computed).dashFree plain before.dashFree
  exact ⟨kept.operation, kept.manifestId, kept.owner⟩

/-- What it writes is readable if the call holds no dash. -/
theorem readable (before : world.coordinator.state.Readable)
    (plain : call.dashFree sha256 clock = true) : next.Readable :=
  ⟨commits.valid, commits.encodable before, commits.dashFree before plain⟩

end Commits

/-! ### Writes of a run -/

/-- A write keeps what holds of the new file too. -/
theorem Writes.anyhow {ledger ledger' : Disk (Option LedgerFile)} {file : LedgerFile}
    {P : Option LedgerFile → Prop} (writes : Writes ledger file ledger') (sound : ledger.Anyhow P)
    (next : ledger'.visible = some file → P (some file)) : ledger'.Anyhow P := by
  have changed : P (some file) → (Bootstrap.written ledger file).Anyhow P :=
    fun next => sound.change fun _ _ => next
  cases writes with
  | unchanged => exact sound
  | written => exact changed (next (visible_written _ _))
  | synced => exact (changed (next (visible_written _ _))).sync

/-- What a step can do to the ledger. -/
inductive LedgerOutcome (sha256 : Sha256) (step : Step) (ledger : Disk (Option LedgerFile)) :
    Disk (Option LedgerFile) → Prop
  | unchanged : LedgerOutcome sha256 step ledger ledger
  | writes {next : DurableBootstrapState} {identity : FileIdentity}
      {ledger' : Disk (Option LedgerFile)}
      (written : LedgerStep sha256 ledger.visible next)
      (writes : Writes ledger (stateFile sha256 next identity) ledger') :
      LedgerOutcome sha256 step ledger ledger'
  | syncs : LedgerOutcome sha256 step ledger ledger.sync
  | loses (keep : List Bool) (lost : step.isPowerLoss = true) :
      LedgerOutcome sha256 step ledger (ledger.powerLoss keep)

/-- What a failed call did to the ledger. -/
theorem Failed.outcome (failed : Failed sha256 clock call identity world world') :
    LedgerOutcome sha256 taken world.ledger world'.ledger := by
  obtain ⟨-, same | ⟨next, commits, writes⟩⟩ := failed
  · rw [same]
    exact .unchanged
  · exact .writes commits.ledgerStep writes

/-- What a call that returned did to the ledger. -/
theorem Succeeded.outcome (succeeded : Succeeded sha256 clock call identity world world') :
    LedgerOutcome sha256 taken world.ledger world'.ledger := by
  rw [succeeded.ledger]
  exact .writes succeeded.commits.ledgerStep .synced

/-- Everything that a step can do to the ledger. -/
theorem ledger_outcome (sha256 : Sha256) (machine : Machine) (step : Step) :
    LedgerOutcome sha256 step machine.ledger (machine.step sha256 step).ledger := by
  cases step with
  | opens place sessionId machineId identity faults =>
    apply Machine.step_opens (P := fun after => LedgerOutcome sha256 _ machine.ledger after.ledger)
      triple_openCoordinator
    · rintro coordinator world ⟨-, ⟨opens, -⟩, -, -, -⟩
      change LedgerOutcome sha256 _ machine.ledger world.ledger
      generalize world.ledger = ledger at opens
      cases opens with
      | found => exact .unchanged
      | created creates => exact .writes creates.ledgerStep .synced
    · rintro world (same | ⟨next, creates, writes⟩)
      · change LedgerOutcome sha256 _ machine.ledger world.ledger
        rw [same]
        exact .unchanged
      · exact .writes creates.ledgerStep writes
  | performs place call identity clock faults =>
    cases here : machine.coordinators place with
    | none =>
      rw [Machine.step_performs_absent here]
      exact .unchanged
    | some coordinator =>
      exact Machine.step_performs (P := fun after =>
        LedgerOutcome sha256 _ machine.ledger after.ledger)
        here triple_perform (fun _ succeeded => succeeded.outcome) (fun _ failed => failed.outcome)
        fun _ failed => failed.outcome
  | writesBack => exact .syncs
  | powerLoss keepLedger keepAnchor => exact .loses keepLedger rfl

section Anyhow

variable {C D : Option LedgerFile → Prop}

/-- After a step, what may be left is what might have been left before, or what the step wrote. -/
theorem anyhow_ledger_step (holds : machine.ledger.Anyhow C)
    (weaker : ∀ ledger, C ledger → D ledger)
    (writes : ∀ next identity, LedgerStep sha256 machine.ledger.visible next →
      (machine.step sha256 taken).ledger.visible = some (stateFile sha256 next identity) →
      D (some (stateFile sha256 next identity))) :
    (machine.step sha256 taken).ledger.Anyhow D := by
  have outcome := ledger_outcome sha256 machine taken
  have holds := Disk.Anyhow.mono holds weaker
  generalize (machine.step sha256 taken).ledger = ledger' at outcome writes ⊢
  cases outcome with
  | unchanged => exact holds
  | writes written left => exact left.anyhow holds (writes _ _ written)
  | syncs => exact holds.sync
  | loses keep => exact holds.powerLoss keep

/-- What is closed under steps of the ledger holds along runs. -/
theorem anyhow_ledger_foldl (holds : machine.ledger.Anyhow C)
    (closed : ∀ ledger next identity, C ledger → LedgerStep sha256 ledger next →
      C (some (stateFile sha256 next identity))) (steps : List Step) :
    (steps.foldl (Machine.step sha256) machine).ledger.Anyhow C := by
  induction steps generalizing machine with
  | nil => exact holds
  | cons step steps ih =>
    exact ih (anyhow_ledger_step holds (fun _ => id) fun _ _ written _ =>
      closed _ _ _ holds.visible written)

end Anyhow

/-- Every ledger that a run may leave holds what is closed. -/
theorem anyhow_maybeHeld (closed : Closed sha256 P)
    (fresh : ∀ sessionId machineId, P (.fresh sessionId machineId)) (steps : List Step) :
    (Machine.run sha256 steps).ledger.Anyhow (MaybeHeld sha256 P) :=
  anyhow_ledger_foldl (Disk.anyhow_of_synced (.inl rfl))
    (fun _ _ identity held step => held.step closed fresh step identity) steps

/-- Whatever may be left of the ledger is the text of a valid state. -/
theorem anyhow_written (sha256 : Sha256) (steps : List Step) :
    (Machine.run sha256 steps).ledger.Anyhow (MaybeHeld sha256 fun _ => True) :=
  anyhow_maybeHeld closed_true (fun _ _ => trivial) steps

/-- What is synced is never taken back. -/
theorem anyhow_held (closed : Closed sha256 P) {steps : List Step}
    (held : (Machine.run sha256 steps).ledger.Anyhow (Held sha256 P)) (later : List Step) :
    (Machine.run sha256 (steps ++ later)).ledger.Anyhow (Held sha256 P) := by
  rw [Machine.run_append]
  exact anyhow_ledger_foldl held (fun _ _ identity held step =>
    held.step closed step identity) later

end Linura.Bootstrap
