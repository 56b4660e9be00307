import Linura.Provisioning.Ledger

/-!
# What is committed is read again

A state that is committed can be read from the ledger if and only if none of its identifiers in an
optional place is a dash, and then the coordinator can be opened again.  A dash is an identifier
like any other to the calls that take identifiers, but it is also how the ledger writes that there
is none.
-/

namespace Linura.Bootstrap

open Linura.Lib Linura.Transaction
open Program (Triple Completes Runs)

variable {sha256 : Sha256}
variable {sessionId machineId : String} {place : Nat} {identity : FileIdentity}
    {call : BootstrapCall}
  {clock : ClockSamples} {faults : List Fault} {state : DurableBootstrapState} {step : Step}
  {steps : List Step} {world : World} {machine : Machine}
    {coordinator : DurableBootstrapCoordinator}

/-- The identifiers that a step brings in are not dashes. -/
def Step.dashFree (sha256 : Sha256) : Step → Bool
  | .performs _ call _ clock _ => call.dashFree sha256 clock
  | _ => true

/-! ### Ledgers that are not read -/

/-- There is a ledger, and it is not read as a state. -/
def Unread (sha256 : Sha256) (ledger : Option LedgerFile) : Prop :=
  ledger ≠ none ∧ ∀ state, readLedger sha256 ledger ≠ .ok (some state)

/-- A ledger with a dash is not read. -/
theorem unread_stateFile (valid : state.Valid) (encodable : state.Encodable)
    (dash : ¬ state.DashFree) (identity : FileIdentity) :
    Unread sha256 (some (stateFile sha256 state identity)) := by
  refine ⟨nofun, fun found read => ?_⟩
  have held : Held sha256 (fun found => found = state) (some (stateFile sha256 state identity)) :=
    ⟨state, identity, rfl, valid, encodable, rfl⟩
  obtain ⟨readable, rfl, -⟩ := held.of_read read
  exact dash readable.dashFree

/-- Nothing but a power loss replaces a ledger that is not read. -/
theorem unread_step (unread : Unread sha256 machine.ledger.visible)
    (powered : step.isPowerLoss = false) :
    Unread sha256 (machine.step sha256 step).ledger.visible := by
  have outcome := ledger_outcome sha256 machine step
  generalize (machine.step sha256 step).ledger = ledger' at outcome ⊢
  cases outcome with
  | unchanged | syncs => exact unread
  | writes written =>
    generalize machine.ledger.visible = ledger at unread written
    cases written with
    | create => exact absurd rfl unread.1
    | commit read => exact absurd read (unread.2 _)
  | loses keep lost =>
    rw [powered] at lost
    cases lost

theorem unread_foldl (unread : Unread sha256 machine.ledger.visible)
    (powered : ∀ step ∈ steps, step.isPowerLoss = false) :
    Unread sha256 (steps.foldl (Machine.step sha256) machine).ledger.visible := by
  induction steps generalizing machine with
  | nil => exact unread
  | cons step steps ih =>
    exact ih (unread_step unread (powered step List.mem_cons_self))
      fun later member => powered later (List.mem_cons_of_mem _ member)

/-- A ledger that is not read cannot be opened. -/
theorem not_opened_of_unread (unread : Unread sha256 machine.ledger.visible) :
    machine.returned sha256 (.opens place sessionId machineId identity faults) = none := by
  rw [Option.eq_none_iff_forall_ne_some]
  intro coordinator returned
  obtain ⟨world, ⟨-, ⟨opens, -⟩, -, -, -⟩, -⟩ :=
    Machine.returned_opens triple_openCoordinator returned
  generalize world.ledger = ledger at opens
  cases opens with
  | found read bound => exact unread.2 _ read
  | created creates short => exact unread.1 creates.missing

/-! ### Opening again -/

/-- The ledger holds a state of this session and machine, and the anchor that is seen accepts it. -/
def Holding (sha256 : Sha256) (sessionId machineId : String) (ledger : Disk (Option LedgerFile))
    (anchor : Disk (Option Bytes)) : Prop :=
  ∃ state : DurableBootstrapState, ∃ identity, state.Readable ∧
    ledger.visible = some (stateFile sha256 state identity) ∧
    (state.sessionId = sessionId ∧ state.machineId = machineId) ∧
    Accepted sha256 state anchor.visible

/-- There is neither a ledger nor an anchor, and nothing was opened; or the ledger holds a state; or
it is not read. -/
def Paired (sha256 : Sha256) (machine : Machine) : Prop :=
  (machine.ledger.visible = none ∧ machine.anchor.visible = none ∧
      ∀ place, machine.coordinators place = none) ∨
    (∃ sessionId machineId, Holding sha256 sessionId machineId machine.ledger machine.anchor) ∨
    Unread sha256 machine.ledger.visible

/-- A ledger that is held is held after every step but a power loss, unless the step leaves a dash.
-/
theorem holding_step (holding : Holding sha256 sessionId machineId machine.ledger machine.anchor)
    (powered : step.isPowerLoss = false) :
    Holding sha256 sessionId machineId (machine.step sha256 step).ledger
        (machine.step sha256 step).anchor ∨
      (Unread sha256 (machine.step sha256 step).ledger.visible ∧ step.dashFree sha256 = false) := by
  obtain ⟨state, identity, readable, seen, ids, accepted⟩ := holding
  cases step with
  | opens place sessionId' machineId' identity' faults =>
    have completes : Completes (state.sessionId = sessionId' ∧ state.machineId = machineId')
        (fun world => Frame machine.ledger Machine.blank machine.inFlight world ∧
          Accepted sha256 state world.anchor.visible)
        (openCoordinator sha256 sessionId' machineId' identity') _ _ :=
      completes_openFound Disk.modality_visible seen (readable.read identity) readable.valid
    have kept : ∀ world, Frame machine.ledger Machine.blank machine.inFlight world ∧
        Accepted sha256 state world.anchor.visible →
        Holding sha256 sessionId machineId world.ledger world.anchor := by
      rintro world ⟨⟨same, -⟩, accepted'⟩
      exact ⟨state, identity, readable, same ▸ seen, ids, accepted'⟩
    have triple := completes.triple.start (machine.world Machine.blank) ⟨⟨rfl, rfl, rfl⟩, accepted⟩
    left
    apply Machine.step_opens
      (P := fun after => Holding sha256 sessionId machineId after.ledger after.anchor) triple
    · exact fun _ world holds => kept world holds.1
    · exact kept
  | performs place call identity' clock faults =>
    cases here : machine.coordinators place with
    | none =>
      rw [Machine.step_performs_absent here]
      exact .inl ⟨state, identity, readable, seen, ids, accepted⟩
    | some coordinator =>
      have completes := completes_perform Disk.modality_visible (machine.world coordinator) call
        identity' clock seen (readable.read identity)
      have triple := completes.triple.start (machine.world coordinator) ⟨⟨rfl, rfl, rfl⟩, accepted⟩
      have known : ∀ {next}, Commits sha256 clock (machine.world coordinator) call next →
          coordinator.state = state := by
        intro next commits
        have read := commits.known
        change readLedger sha256 machine.ledger.visible = .ok (some coordinator.state) at read
        rw [seen, readable.read identity] at read
        exact (Option.some.inj (Except.ok.inj read)).symm
      -- What is committed is held if it has no dash, and not read otherwise.
      have next : ∀ {next ledger anchor},
        Commits sha256 clock (machine.world coordinator) call next →
          ledger.visible = some (stateFile sha256 next identity') →
          Accepted sha256 next anchor.visible →
          Holding sha256 sessionId machineId ledger anchor ∨
            (Unread sha256 ledger.visible ∧ call.dashFree sha256 clock = false) := by
        intro next ledger anchor commits written accepted'
        have same := known commits
        have before : (machine.world coordinator).coordinator.state.Readable := same ▸ readable
        have session : next.sessionId = coordinator.state.sessionId := commits.identities.1
        have machine_ : next.machineId = coordinator.state.machineId := commits.identities.2
        rw [same] at session machine_
        by_cases dashFree : next.DashFree
        · exact .inl ⟨next, identity', ⟨commits.valid, commits.encodable before, dashFree⟩, written,
            ⟨session.trans ids.1, machine_.trans ids.2⟩, accepted'⟩
        · refine .inr ⟨?_, ?_⟩
          · rw [written]
            exact unread_stateFile commits.valid (commits.encodable before) dashFree identity'
          · rw [← Bool.not_eq_true]
            exact fun plain => dashFree (commits.dashFree before plain)
      have kept : ∀ world, Interrupted sha256 (fun P disk =>
        P disk.visible) clock call identity' state
          (machine.world coordinator) world →
          Holding sha256 sessionId machineId world.ledger world.anchor ∨
            (Unread sha256 world.ledger.visible ∧ call.dashFree sha256 clock = false) := by
        rintro world (⟨same, accepted', -⟩ | ⟨committed, commits, -, -, torn⟩)
        · exact .inl ⟨state, identity, readable, same ▸ seen, ids, accepted'⟩
        · have succ : committed.generation = coordinator.state.generation + 1 := commits.generation
          rw [known commits] at succ
          generalize world.ledger = ledger at torn ⊢
          generalize world.anchor = anchor at torn ⊢
          cases torn with
          | before accepted' => exact .inl ⟨state, identity, readable, seen, ids, accepted'⟩
          | between staged =>
            apply next commits (visible_written _ _)
            rw [staged]
            exact accepted_pending_candidate succ commits.within
          | after accepted' => exact next commits (visible_written _ _) accepted'
      apply Machine.step_performs
        (P := fun after => Holding sha256 sessionId machineId after.ledger after.anchor ∨
          (Unread sha256 after.ledger.visible ∧ call.dashFree sha256 clock = false)) here triple
      · rintro world ⟨commits, ⟨same, -⟩, accepted'⟩
        refine next commits ?_ accepted'
        change world.ledger.visible = _
        rw [same]
        exact visible_written _ _
      · exact kept
      · exact kept
  | writesBack => exact .inl ⟨state, identity, readable, seen, ids, accepted⟩
  | powerLoss keepLedger keepAnchor => cases powered

/-- A machine that holds a ledger goes on holding it without power losses. -/
theorem holding_foldl (holding : Holding sha256 sessionId machineId machine.ledger machine.anchor)
    (plain : ∀ step ∈ steps, step.dashFree sha256 = true)
    (powered : ∀ step ∈ steps, step.isPowerLoss = false) :
    Holding sha256 sessionId machineId (steps.foldl (Machine.step sha256) machine).ledger
      (steps.foldl (Machine.step sha256) machine).anchor := by
  induction steps generalizing machine with
  | nil => exact holding
  | cons step steps ih =>
    rcases holding_step holding (powered step List.mem_cons_self) with now | ⟨-, dash⟩
    · exact ih now (fun later member => plain later (List.mem_cons_of_mem _ member))
        fun later member => powered later (List.mem_cons_of_mem _ member)
    · rw [plain step List.mem_cons_self] at dash
      cases dash

/-- A ledger that was just created is held, at whatever point its creation is cut short. -/
theorem paired_created (missing : machine.ledger.visible = none)
    (absent : machine.anchor.visible = none) (idle : ∀ place, machine.coordinators place = none) :
    Paired sha256 (machine.step sha256 (.opens place sessionId machineId identity faults)) := by
  have completes : Completes (isIdentifier sessionId = true ∧ isIdentifier machineId = true)
      (fun world => Frame machine.ledger Machine.blank machine.inFlight world ∧
        world.anchor.visible = none)
      (openCoordinator sha256 sessionId machineId identity) _ _ :=
    completes_openCreated Disk.modality_visible missing
  have triple := completes.triple.start (machine.world Machine.blank) ⟨⟨rfl, rfl, rfl⟩, absent⟩
  apply Machine.step_opens (P := Paired sha256) triple
  · rintro coordinator world ⟨-, accepted, same, fresh, session, machine_⟩
    have readable : coordinator.state.Readable := fresh ▸ readable_fresh session machine_
    refine .inr (.inl ⟨_, _, coordinator.state, identity, readable, ?_, ⟨rfl, rfl⟩, accepted⟩)
    change world.ledger.visible = _
    rw [same]
    exact visible_written _ _
  · rintro world ⟨-, ⟨same, absent'⟩ | ⟨session, machine_, torn⟩⟩
    · refine .inl ⟨?_, absent', idle⟩
      change world.ledger.visible = none
      rw [same]
      exact missing
    · have readable := readable_fresh session machine_
      unfold Paired Machine.leave
      dsimp only
      generalize world.ledger = ledger at torn ⊢
      generalize world.anchor = anchor at torn ⊢
      cases torn with
      | before absent' => exact .inl ⟨missing, absent', idle⟩
      | between absent' =>
        refine .inr (.inl ⟨_, _, _, identity, readable, visible_written _ _, ⟨rfl, rfl⟩, ?_⟩)
        rw [absent']
        exact ⟨none, rfl, rfl⟩
      | after accepted =>
        exact .inr (.inl ⟨_, _, _, identity, readable, visible_written _ _, ⟨rfl, rfl⟩, accepted⟩)

/-- A step without power loss keeps ledger and anchor paired. -/
theorem paired_step (paired : Paired sha256 machine) (powered : step.isPowerLoss = false) :
    Paired sha256 (machine.step sha256 step) := by
  rcases paired with ⟨missing, absent, idle⟩ | ⟨sessionId, machineId, holding⟩ | unread
  · cases step with
    | opens place sessionId machineId identity faults => exact paired_created missing absent idle
    | performs place call identity clock faults =>
      rw [Machine.step_performs_absent (idle place)]
      exact .inl ⟨missing, absent, idle⟩
    | writesBack => exact .inl ⟨missing, absent, idle⟩
    | powerLoss keepLedger keepAnchor => cases powered
  · rcases holding_step holding powered with holding' | ⟨unread, -⟩
    · exact .inr (.inl ⟨sessionId, machineId, holding'⟩)
    · exact .inr (.inr unread)
  · exact .inr (.inr (unread_step unread powered))

theorem paired_foldl (paired : Paired sha256 machine)
    (powered : ∀ step ∈ steps, step.isPowerLoss = false) :
    Paired sha256 (steps.foldl (Machine.step sha256) machine) := by
  induction steps generalizing machine with
  | nil => exact paired
  | cons step steps ih =>
    exact ih (paired_step paired (powered step List.mem_cons_self))
      fun later member => powered later (List.mem_cons_of_mem _ member)

/-- A held ledger is opened when nothing fails. -/
theorem Holding.opens
    (holding : Holding sha256 sessionId machineId machine.ledger machine.anchor)
    (identity : FileIdentity) :
    ∃ coordinator world, Runs (openCoordinator sha256 sessionId machineId identity)
        (machine.world Machine.blank) coordinator world ∧
      readLedger sha256 machine.ledger.visible = .ok (some coordinator.state) := by
  obtain ⟨state, identity', readable, seen, ids, accepted⟩ := holding
  have completes : Completes (state.sessionId = sessionId ∧ state.machineId = machineId)
      (fun world => Frame machine.ledger Machine.blank machine.inFlight world ∧
        Accepted sha256 state world.anchor.visible)
      (openCoordinator sha256 sessionId machineId identity) _ _ :=
    completes_openFound Disk.modality_visible seen (readable.read identity') readable.valid
  obtain ⟨coordinator, world, ran, -, opened⟩ :=
    completes.succeeds ids (machine.world Machine.blank)
    ⟨⟨rfl, rfl, rfl⟩, accepted⟩
  refine ⟨coordinator, world, ran, ?_⟩
  rw [seen, readable.read identity', opened]

/-! ### Without faults -/

/-- The coordinator in a place knows the ledger as it is, and the anchor that is seen accepts it. -/
structure Current (sha256 : Sha256) (machine : Machine) (place : Nat)
    (state : DurableBootstrapState) :
    Prop where
  known : ∃ file, machine.ledger.visible = some file ∧
    machine.coordinators place =
      some ⟨state, ⟨state.generation, file.identity, file.bytes.length⟩, none⟩ ∧
    readLedger sha256 (some file) = .ok (some state)
  readable : state.Readable
  accepted : Accepted sha256 state machine.anchor.visible

/-- Opening for the first time. -/
theorem current_opens (session : isIdentifier sessionId = true)
    (machine : isIdentifier machineId = true) (place : Nat) (identity : FileIdentity) :
    Current sha256 (Machine.new.step sha256 (.opens place sessionId machineId identity [])) place
      (.fresh sessionId machineId) := by
  have missing : Machine.new.ledger.visible = none := rfl
  have completes : Completes (isIdentifier sessionId = true ∧ isIdentifier machineId = true)
      (fun world => Frame Machine.new.ledger Machine.blank none world ∧ world.anchor.visible = none)
      (openCoordinator sha256 sessionId machineId identity) _ _ :=
    completes_openCreated Disk.modality_visible missing
  obtain ⟨coordinator, world, ran, -, accepted, ledger, fresh, -⟩ := completes.succeeds
    ⟨session, machine⟩ (Machine.new.world Machine.blank) ⟨⟨rfl, rfl, rfl⟩, rfl⟩
  have triple : Triple (fun world => world = Machine.new.world Machine.blank)
    (openCoordinator sha256 sessionId machineId identity) _ _ := triple_openCoordinator
  have opened := triple.run ⟨Machine.new.world Machine.blank, []⟩ rfl
  rw [ran] at opened
  obtain ⟨-, -, -, ⟨file, seen, observed⟩, usable⟩ := opened
  have readable := readable_fresh session machine
  rw [Machine.step, ran]
  have same : coordinator =
      ⟨.fresh sessionId machineId, ⟨(DurableBootstrapState.fresh sessionId machineId).generation,
        file.identity, file.bytes.length⟩, none⟩ := by
    rw [← fresh, ← observed, ← usable]
  refine ⟨⟨file, seen, ?_, ?_⟩, readable, fresh ▸ accepted⟩
  · exact (Function.update_self _ _ _).trans (congrArg some same)
  · have written_ : world.ledger.visible = some (stateFile sha256 coordinator.state identity) := by
      rw [ledger]
      exact visible_written _ _
    rw [seen] at written_
    rw [written_, fresh]
    exact readable.read identity

/-- Opening a ledger that a coordinator knows: the new coordinator knows it too, and the old one
still does. -/
theorem Current.opens {place place' : Nat}
    (current : Current sha256 machine place state) (apart : place ≠ place')
    (identity : FileIdentity) :
    Current sha256
      (machine.step sha256 (.opens place' state.sessionId state.machineId identity [])) place
      state ∧
    Current sha256
      (machine.step sha256 (.opens place' state.sessionId state.machineId identity [])) place'
      state := by
  obtain ⟨⟨file, seen, here, read⟩, readable, accepted⟩ := current
  have completes : Completes (state.sessionId = state.sessionId ∧ state.machineId = state.machineId)
      (fun world => Frame machine.ledger Machine.blank machine.inFlight world ∧
        Accepted sha256 state world.anchor.visible)
      (openCoordinator sha256 state.sessionId state.machineId identity) _ _ :=
    completes_openFound Disk.modality_visible seen read readable.valid
  obtain ⟨coordinator, world, ran, ⟨⟨same, -⟩, accepted'⟩, opened⟩ := completes.succeeds ⟨rfl, rfl⟩
    (machine.world Machine.blank) ⟨⟨rfl, rfl, rfl⟩, accepted⟩
  have seen' : world.ledger.visible = some file := (congrArg Disk.visible same).trans seen
  rw [Machine.step, ran]
  constructor
  · exact ⟨⟨file, seen', (Function.update_of_ne apart _ _).trans here, read⟩, readable, accepted'⟩
  · exact ⟨⟨file, seen', (Function.update_self _ _ _).trans (congrArg some opened), read⟩,
      readable, accepted'⟩

/-- The coordinator that has just written a state. -/
def committed (sha256 : Sha256) (state : DurableBootstrapState) (identity : FileIdentity) :
    DurableBootstrapCoordinator :=
  ⟨state, ⟨state.generation, identity, (stateFile sha256 state identity).bytes.length⟩, none⟩

theorem withGeneration_valid (valid : state.Valid) (generation : Nat) :
    (state.withGeneration generation).Valid :=
  ⟨valid.order, valid.lineage, valid.active, ⟨valid.mode.early, valid.mode.late⟩,
    ⟨valid.plan.early, valid.plan.late⟩, ⟨valid.owner.early, valid.owner.late⟩,
    valid.session, valid.machine,
    valid.provisioning⟩

/-- A call with a valid candidate returns, and the ledger holds what it computed. -/
theorem Current.performs {state candidate next : DurableBootstrapState}
    (current : Current sha256 machine place state) (call : BootstrapCall) (identity : FileIdentity)
    (clock : ClockSamples) (computed : state.candidate sha256 clock call = .ok candidate)
    (valid : candidate.Valid) (within : state.generation + 1 < 2 ^ 64)
    (is_next : next = candidate.withGeneration (state.generation + 1)) :
    machine.returned sha256 (.performs place call identity clock []) =
      some (committed sha256 next identity) ∧
    (machine.step sha256 (.performs place call identity clock [])).coordinators place =
      some (committed sha256 next identity) ∧
    (machine.step sha256 (.performs place call identity clock [])).ledger.visible =
      some (stateFile sha256 next identity) ∧
    Accepted sha256 next
      (machine.step sha256 (.performs place call identity clock [])).anchor.visible ∧
    ∀ other, other ≠ place →
      (machine.step sha256 (.performs place call identity clock [])).coordinators other =
        machine.coordinators other := by
  obtain ⟨⟨file, seen, here, read⟩, readable, accepted⟩ := current
  have step := DurableBootstrapState.step_of_candidate computed
  have encodable := step.encodable readable.valid readable.encodable
  have validNext := withGeneration_valid valid (state.generation + 1)
  generalize at_ : (⟨state, ⟨state.generation, file.identity, file.bytes.length⟩, none⟩ :
    DurableBootstrapCoordinator) = coordinator at here
  have ready : Ready sha256 clock (machine.world coordinator) file call candidate := by
    subst at_
    exact ⟨rfl, read, rfl, computed, valid, within, validNext, fun identity =>
      length_serializeState_le sha256 validNext ⟨within, encodable.observed,
        encodable.provisioning⟩⟩
  have completes :=
    completes_perform Disk.modality_visible (machine.world coordinator) call identity
    clock seen read
  obtain ⟨_, world, ran, commits, ⟨ledger, coordinator', -⟩, accepted'⟩ := completes.succeeds
    ⟨candidate, ready⟩ (machine.world coordinator) ⟨⟨rfl, rfl, rfl⟩, accepted⟩
  have knows : world.coordinator.state = next := by
    obtain ⟨candidate', computed', same⟩ := commits.computed
    subst at_
    rw [ready.computed] at computed'
    cases computed'
    rw [same, is_next]
    rfl
  rw [knows] at coordinator' ledger accepted'
  have returned : world.coordinator = committed sha256 next identity := by
    rw [coordinator']
    subst at_
    rfl
  refine ⟨?_, ?_, ?_, ?_, ?_⟩
  · rw [Machine.returned, here]
    dsimp only
    rw [ran, ← returned]
  · rw [Machine.step, here]
    dsimp only
    rw [ran]
    exact (Function.update_self _ _ _).trans (congrArg some returned)
  · rw [Machine.step, here]
    dsimp only
    rw [ran]
    change world.ledger.visible = _
    rw [ledger]
    exact visible_written _ _
  · rw [Machine.step, here]
    dsimp only
    rw [ran]
    exact accepted'
  · intro other apart
    rw [Machine.step, here]
    dsimp only
    rw [ran]
    exact Function.update_of_ne apart _ _

/-- The coordinator is current after the call if the call brings in no dash. -/
theorem Current.next {state candidate next : DurableBootstrapState}
    (current : Current sha256 machine place state) (call : BootstrapCall) (identity : FileIdentity)
    (clock : ClockSamples) (computed : state.candidate sha256 clock call = .ok candidate)
    (valid : candidate.Valid) (within : state.generation + 1 < 2 ^ 64)
    (is_next : next = candidate.withGeneration (state.generation + 1))
    (plain : call.dashFree sha256 clock = true) :
    Current sha256 (machine.step sha256 (.performs place call identity clock [])) place next := by
  obtain ⟨-, here, seen, accepted, -⟩ :=
    current.performs call identity clock computed valid within is_next
  have step := DurableBootstrapState.step_of_candidate computed
  have encodable := step.encodable current.readable.valid current.readable.encodable
  have dashFree := step.dashFree plain current.readable.dashFree
  have readable : next.Readable := by
    rw [is_next]
    exact ⟨withGeneration_valid valid _, ⟨within, encodable.observed, encodable.provisioning⟩,
      ⟨dashFree.operation, dashFree.manifestId, dashFree.owner⟩⟩
  exact ⟨⟨_, seen, here, readable.read identity⟩, readable, accepted⟩

/-! ### After a step that returned -/

/-- What is seen in the ledger after a step that returned. -/
theorem seen_of_returned (sound : machine.ledger.Anyhow (MaybeHeld sha256 fun _ => True))
    (returned : machine.returned sha256 step = some coordinator) :
    coordinator.state.Valid ∧ coordinator.state.Encodable ∧
    (step.dashFree sha256 = true → coordinator.state.DashFree) ∧
    ∃ identity, (machine.step sha256 step).ledger.visible =
      some (stateFile sha256 coordinator.state identity) := by
  cases step with
  | opens place sessionId machineId identity faults =>
    obtain ⟨world, ⟨-, ⟨opens, -⟩, -, -, -⟩, same⟩ :=
      Machine.returned_opens triple_openCoordinator returned
    rw [same]
    generalize world.ledger = ledger at opens ⊢
    cases opens with
    | found read bound =>
      obtain ⟨readable, -, seen⟩ := sound.visible.of_read read
      exact ⟨readable.valid, readable.encodable, fun _ => readable.dashFree, seen⟩
    | created creates short =>
      obtain ⟨session, machine_, fresh⟩ := creates.fresh_eq
      have readable : coordinator.state.Readable := fresh ▸ readable_fresh session machine_
      exact ⟨readable.valid, readable.encodable, fun _ => readable.dashFree, identity,
        visible_written _ _⟩
  | performs place call identity clock faults =>
    obtain ⟨before, world, -, succeeded, rfl, same⟩ :=
      Machine.returned_performs (fun _ => triple_perform) returned
    have commits := succeeded.commits
    have readable := (sound.visible.of_read commits.known).1
    refine ⟨commits.valid, commits.encodable readable, commits.dashFree readable, identity, ?_⟩
    rw [same, succeeded.ledger]
    exact visible_written _ _
  | writesBack | powerLoss => cases returned

namespace Machine

/-- After every call that returns, the ledger is short enough and is read as the state that the
coordinator knows, if and only if this state has no dash in an optional place; the call itself must
have brought the dash in.  If there is none, then as long as there is no power loss and no later
call brings in a dash, the ledger can be opened again, with this state if nothing happens in
between.  If there is one, then the ledger is never opened again before a power loss. -/
theorem run_commits_reload (steps : List Step) (step : Step)
    (coordinator : DurableBootstrapCoordinator)
    (returned : (run sha256 steps).returned sha256 step = some coordinator) :
    ((∃ file, (run sha256 (steps ++ [step])).ledger.visible = some file ∧
        file.bytes.length ≤ maxBootstrapStateBytes ∧
        parseState sha256 file.bytes = .ok coordinator.state) ↔ coordinator.state.DashFree) ∧
    (step.dashFree sha256 = true → coordinator.state.DashFree) ∧
    ∀ later, (∀ taken ∈ steps ++ step :: later, taken.isPowerLoss = false) →
      (coordinator.state.DashFree → (∀ taken ∈ later, taken.dashFree sha256 = true) →
        ∀ identity, ∃ coordinator' world', Program.Runs
          (openCoordinator sha256 coordinator.state.sessionId coordinator.state.machineId identity)
          ((run sha256 (steps ++ step :: later)).world blank) coordinator' world' ∧
        (later = [] → coordinator'.state = coordinator.state)) ∧
      (¬ coordinator.state.DashFree → ∀ place sessionId machineId identity faults,
        (run sha256 (steps ++ step :: later)).returned sha256
          (.opens place sessionId machineId identity faults) = none) := by
  obtain ⟨valid, encodable, plain, identity, seen⟩ :=
    seen_of_returned (anyhow_written sha256 steps) returned
  refine ⟨⟨?_, ?_⟩, plain, fun later powered => ⟨?_, ?_⟩⟩
  · rintro ⟨file, seen', -, read⟩
    rw [run_concat, seen] at seen'
    cases seen'
    exact (dashFree_of_parseState sha256 valid encodable read).1
  · intro dashFree
    have readable : coordinator.state.Readable := ⟨valid, encodable, dashFree⟩
    rw [run_concat]
    exact ⟨stateFile sha256 coordinator.state identity, seen, readable.short identity,
      parseState_serializeState sha256 valid encodable dashFree⟩
  · intro dashFree plainLater identity'
    have readable : coordinator.state.Readable := ⟨valid, encodable, dashFree⟩
    -- The ledger is held after the step, and the later steps keep it.
    have paired : Paired sha256 ((run sha256 steps).step sha256 step) := by
      apply paired_step
      · exact paired_foldl (.inl ⟨rfl, rfl, fun _ => rfl⟩)
          fun taken member => powered taken (List.mem_append_left _ member)
      · exact powered step (List.mem_append_right _ List.mem_cons_self)
    have holding : Holding sha256 coordinator.state.sessionId coordinator.state.machineId
        ((run sha256 steps).step sha256 step).ledger
          ((run sha256 steps).step sha256 step).anchor := by
      rcases paired with ⟨missing, -⟩ |
        ⟨sessionId, machineId, state, identity'', readable', seen', ids, accepted⟩ | unread
      · rw [seen] at missing
        cases missing
      · have same : some coordinator.state = some state := by
          have both : readLedger sha256 (some (stateFile sha256 state identity'')) =
            .ok (some state) :=
            readable'.read identity''
          rw [← seen', seen, readable.read identity] at both
          exact Except.ok.inj both
        cases same
        exact ⟨_, identity, readable, seen, ⟨rfl, rfl⟩, accepted⟩
      · rw [seen] at unread
        exact absurd (readable.read identity) (unread.2 _)
    have after : Holding sha256 coordinator.state.sessionId coordinator.state.machineId
        (run sha256 (steps ++ step :: later)).ledger
          (run sha256 (steps ++ step :: later)).anchor := by
      rw [run_append, List.foldl_cons]
      exact holding_foldl holding plainLater
        fun taken member => powered taken (List.mem_append_right _ (List.mem_cons_of_mem _ member))
    obtain ⟨coordinator', world', ran, read⟩ := after.opens identity'
    refine ⟨coordinator', world', ran, ?_⟩
    rintro rfl
    rw [run_concat, seen, readable.read identity] at read
    exact (Option.some.inj (Except.ok.inj read)).symm
  · intro dash place sessionId machineId identity' faults
    apply not_opened_of_unread
    rw [run_append, List.foldl_cons]
    apply unread_foldl
    · rw [seen]
      exact unread_stateFile valid encodable dash identity
    · exact fun taken member =>
        powered taken (List.mem_append_right _ (List.mem_cons_of_mem _ member))

/-- A hash, a file and a clock for runs that are worked out. -/
def zeros : Sha256 := fun _ => Vector.replicate 32 0

def someFile : FileIdentity := ⟨0, 1, 0, 0, 0, 0⟩

def noon : ClockSamples := ⟨.ok 1, .ok 1, .ok 1⟩

/-- A coordinator is opened. -/
def opening : List Step := [.opens 0 "session" "machine" someFile []]

/-- The first stage is prepared. -/
def preparing (operationId : String) : Step :=
  .performs 0 (.prepareStage .baseEnvironmentVerification operationId) someFile noon []

/-- The state after the first stage was prepared. -/
def preparedState (operationId : String) : DurableBootstrapState :=
  ⟨1, "session", "machine", [], [], some ⟨.baseEnvironmentVerification, operationId, .prepared⟩, {}⟩

theorem current_opening (sha256 : Sha256) :
    Current sha256 (run sha256 opening) 0 (.fresh "session" "machine") := by
  have session : isIdentifier "session" = true := by decide +kernel
  have machine : isIdentifier "machine" = true := by decide +kernel
  unfold run opening
  rw [List.foldl_cons, List.foldl_nil]
  exact current_opens session machine 0 someFile

theorem prepared_opening (sha256 : Sha256) {operationId : String}
    (computed : (DurableBootstrapState.fresh "session" "machine").prepareStage
      .baseEnvironmentVerification
      operationId = .ok ((preparedState operationId).withGeneration 0)) :
    (run sha256 opening).returned sha256 (preparing operationId) =
      some (committed sha256 (preparedState operationId) someFile) ∧
    (run sha256 (opening ++ [preparing operationId])).ledger.visible =
      some (stateFile sha256 (preparedState operationId) someFile) := by
  have valid : ((preparedState operationId).withGeneration 0).Valid := by
    obtain ⟨_, -, computed⟩ := bind_eq_ok.mp computed
    obtain ⟨_, -, computed⟩ := bind_eq_ok.mp computed
    obtain ⟨_, -, computed⟩ := bind_eq_ok.mp computed
    obtain ⟨valid, same⟩ := DurableBootstrapState.checked_eq_ok.mp computed
    exact same ▸ valid
  have current := current_opening sha256
  have within : (DurableBootstrapState.fresh "session" "machine").generation + 1 <
    2 ^ 64 := by decide +kernel
  obtain ⟨returned, -, seen, -, -⟩ := current.performs
    (.prepareStage .baseEnvironmentVerification operationId) someFile noon computed valid within rfl
  rw [run_append, List.foldl_cons, List.foldl_nil]
  exact ⟨returned, seen⟩

/-- A stage is prepared, the ledger is read again, and a coordinator is opened on it. -/
theorem run_commits_reload_prepared : ∃ coordinator,
    (run zeros opening).returned zeros (preparing "check") = some coordinator ∧
    (∃ file, (run zeros (opening ++ [preparing "check"])).ledger.visible = some file ∧
      file.bytes.length ≤ maxBootstrapStateBytes ∧
      parseState zeros file.bytes = .ok (preparedState "check")) ∧
    ∃ coordinator' world', Program.Runs (openCoordinator zeros "session" "machine" someFile)
      ((run zeros (opening ++ [preparing "check"])).world blank) coordinator' world' ∧
      coordinator'.state = preparedState "check" := by
  have computed : (DurableBootstrapState.fresh "session" "machine").prepareStage
      .baseEnvironmentVerification "check" = .ok ((preparedState "check").withGeneration 0) := by
    decide +kernel
  obtain ⟨returned, -⟩ := prepared_opening zeros computed
  obtain ⟨reads, plain, reopens⟩ := run_commits_reload opening (preparing "check") _ returned
  have dashFree : (preparedState "check").DashFree := plain (by decide)
  have powered : ∀ taken ∈ opening ++ [preparing "check"], taken.isPowerLoss = false := by
    simp [opening, preparing, Step.isPowerLoss]
  have none_ : ∀ taken ∈ ([] : List Step), taken.dashFree zeros = true := by simp
  obtain ⟨coordinator', world', ran, same⟩ := (reopens [] powered).1 dashFree none_ someFile
  exact ⟨_, returned, reads.mpr dashFree, coordinator', world', ran, same rfl⟩

/-- Preparing the first stage under the identifier `-` returns, and leaves a ledger that is not read
and a coordinator that cannot be opened again. -/
theorem dash_not_reloaded : ∃ coordinator,
    (run zeros opening).returned zeros (preparing "-") = some coordinator ∧
    (∀ file, (run zeros (opening ++ [preparing "-"])).ledger.visible = some file →
      parseState zeros file.bytes ≠ .ok coordinator.state) ∧
    ∀ place identity faults, (run zeros (opening ++ [preparing "-"])).returned zeros
      (.opens place "session" "machine" identity faults) = none := by
  have computed : (DurableBootstrapState.fresh "session" "machine").prepareStage
      .baseEnvironmentVerification "-" = .ok ((preparedState "-").withGeneration 0) := by
    decide +kernel
  obtain ⟨returned, seen⟩ := prepared_opening zeros computed
  have passes : (preparedState "-").validate = .ok () := by decide +kernel
  have valid := DurableBootstrapState.validate_eq_ok.mp passes
  have encodable : (preparedState "-").Encodable :=
    ⟨Nat.one_lt_two_pow (by decide), nofun,
      ⟨rfl, nofun, nofun, nofun, nofun, nofun, nofun, nofun, Nat.two_pow_pos 64⟩⟩
  have dash : ¬ (preparedState "-").DashFree := fun dashFree => dashFree.operation _ rfl rfl
  refine ⟨_, returned, ?_, ?_⟩
  · intro file same read
    rw [seen] at same
    obtain rfl := Option.some.inj same
    exact dash (dashFree_of_parseState zeros valid encodable read).1
  · intro place identity faults
    apply not_opened_of_unread
    rw [seen]
    exact unread_stateFile valid encodable dash someFile

end Machine

end Linura.Bootstrap
