import Linura.Provisioning.Reload

/-!
# Crashes and rollbacks

A commit writes the anchor, the ledger and the anchor again.  Whenever it is cut short, the next
opening finds either the state from which it started or its candidate, and the anchor accepts what
it finds.  A ledger that the anchor does not name is refused, and the anchor is left as it is.

This holds as long as no power loss takes back a ledger that an opening or a call has already found.
Between the renaming of a ledger and the sync of its directory, an opening takes the new ledger for
committed and says so in the anchor; if a power loss then brings the old ledger back, it is refused
for ever.
-/

namespace Linura.Bootstrap

open Linura.Lib Linura.Transaction
open Program (Triple Completes Runs)

variable {sha256 : Sha256}
variable {place : Nat} {sessionId machineId : String} {call : BootstrapCall} {clock : ClockSamples}
  {coordinator : DurableBootstrapCoordinator} {faults : List Fault}

/-! ### Ledgers that are refused -/

section Refused

variable {world : World} {file : LedgerFile} {identity : FileIdentity}

end Refused

/-! ### Phases of a run -/

/-- Where the state of the ledger comes from: it is the state that was opened or committed last, or
the candidate that followed it, or nothing was ever opened and it is of generation zero. -/
inductive Origin (machine : Machine) (state : DurableBootstrapState) : Prop
  | last (known : machine.last = some state)
  | inFlight {before : DurableBootstrapState} (known : machine.last = some before)
      (noted : machine.inFlight = some state) (succ : state.generation = before.generation + 1)
      (session : state.sessionId = before.sessionId)
      (machineId : state.machineId = before.machineId)
  | first (unknown : machine.last = none) (zero : state.generation = 0)

/-- There is no ledger and no anchor, and nothing was opened. -/
structure Vacant (machine : Machine) : Prop where
  ledger : machine.ledger = .holding none
  anchor : machine.anchor.Anyhow fun anchor => anchor = none
  unknown : machine.last = none

/-- The ledger that is seen holds a state that whatever is left of the anchor accepts. -/
structure Found (sha256 : Sha256) (machine : Machine) (state : DurableBootstrapState)
    (identity : FileIdentity) : Prop where
  readable : state.Readable
  seen : machine.ledger.visible = some (stateFile sha256 state identity)
  anchor : machine.anchor.Anyhow (Accepted sha256 state)
  origin : Origin machine state

/-- What the two files may be between calls, if only such ledgers may be left as `U` tells.  In the
phases `born` and `flying`, what is left may also be what was there before. -/
inductive Phase (sha256 : Sha256) (U : Option LedgerFile → Prop) (machine : Machine) : Prop
  | vacant (vacant : Vacant machine)
  | born {sessionId machineId : String} {identity : FileIdentity}
      (session : isIdentifier sessionId = true) (machineName : isIdentifier machineId = true)
      (seen : machine.ledger.visible =
        some (stateFile sha256 (.fresh sessionId machineId) identity))
      (left : machine.ledger.Anyhow fun ledger => ledger = none ∨
        ledger = some (stateFile sha256 (.fresh sessionId machineId) identity))
      (anchor : machine.anchor.Anyhow fun anchor => anchor = none) (unknown : machine.last = none)
  | based {state : DurableBootstrapState} {identity : FileIdentity}
      (found : Found sha256 machine state identity)
      (left : machine.ledger.Anyhow fun ledger => U ledger →
        ledger = some (stateFile sha256 state identity))
  | flying {state next : DurableBootstrapState} {identity identity' : FileIdentity}
      (readable : state.Readable) (readable' : next.Readable)
      (seen : machine.ledger.visible = some (stateFile sha256 next identity'))
      (left : machine.ledger.Anyhow fun ledger => U ledger →
        ledger = some (stateFile sha256 state identity) ∨
          ledger = some (stateFile sha256 next identity'))
      (anchor : machine.anchor.Anyhow fun anchor => anchor = some (pendingText sha256 state next))
      (origin : Origin machine state) (candidate : Origin machine next)
      (succ : next.generation = state.generation + 1)

/-- Every coordinator knows the state that was opened or committed last, or an older one. -/
def KnowsLast (machine : Machine) : Prop :=
  ∀ place coordinator, machine.coordinators place = some coordinator → ∃ last,
    machine.last = some last ∧
    (coordinator.state = last ∨ coordinator.state.generation < last.generation)

section Steps

variable {machine : Machine} {state : DurableBootstrapState} {U : Option LedgerFile → Prop}

variable {machine' : Machine}

theorem Origin.congr (origin : Origin machine state) (last : machine'.last = machine.last)
    (inFlight : machine'.inFlight = machine.inFlight) : Origin machine' state := by
  cases origin with
  | last known => exact .last (last.trans known)
  | inFlight known noted succ session machineName =>
    exact .inFlight (last.trans known) (inFlight.trans noted) succ session machineName
  | first unknown zero => exact .first (last.trans unknown) zero

/-- The coordinators do not matter to the phase. -/
theorem Phase.congr (phase : Phase sha256 U machine) (ledger : machine'.ledger = machine.ledger)
    (anchor : machine'.anchor = machine.anchor) (last : machine'.last = machine.last)
    (inFlight : machine'.inFlight = machine.inFlight) : Phase sha256 U machine' := by
  cases phase with
  | vacant vacant =>
    exact .vacant ⟨ledger.trans vacant.ledger, anchor ▸ vacant.anchor, last.trans vacant.unknown⟩
  | born session machineName seen left absent unknown =>
    exact .born session machineName (ledger ▸ seen) (ledger ▸ left) (anchor ▸ absent)
      (last.trans unknown)
  | based found left =>
    exact .based ⟨found.readable, ledger ▸ found.seen, anchor ▸ found.anchor,
      found.origin.congr last inFlight⟩ (ledger ▸ left)
  | flying readable readable' seen left staged origin candidate succ =>
    exact .flying readable readable' (ledger ▸ seen) (ledger ▸ left) (anchor ▸ staged)
      (origin.congr last inFlight) (candidate.congr last inFlight) succ

variable {V : Option LedgerFile → Prop}

/-- If fewer ledgers may be left, the phase is the same. -/
theorem Phase.mono (phase : Phase sha256 U machine) (fewer : ∀ ledger, V ledger → U ledger) :
    Phase sha256 V machine := by
  cases phase with
  | vacant vacant => exact .vacant vacant
  | born session machineName seen left anchor unknown =>
    exact .born session machineName seen left anchor unknown
  | based found left => exact .based found fun keep upToDate => left keep (fewer _ upToDate)
  | flying readable readable' seen left anchor origin candidate succ =>
    exact .flying readable readable' seen (fun keep upToDate => left keep (fewer _ upToDate)) anchor
      origin candidate succ

theorem accepted_of_absent {anchor : Disk (Option Bytes)}
    (absent : anchor.Anyhow fun anchor => anchor = none) :
    anchor.Anyhow (Accepted sha256 (.fresh sessionId machineId)) := by
  refine Disk.Anyhow.mono absent ?_
  rintro _ rfl
  exact ⟨none, rfl, rfl⟩

/-- The anchor of a candidate that is on its way accepts both states. -/
theorem accepted_of_staged {anchor : Disk (Option Bytes)} {next : DurableBootstrapState}
    (staged : anchor.Anyhow fun anchor => anchor = some (pendingText sha256 state next))
    (succ : next.generation = state.generation + 1) (readable : next.Readable) :
    anchor.Anyhow (Accepted sha256 state) ∧ anchor.Anyhow (Accepted sha256 next) := by
  constructor
  · refine Disk.Anyhow.mono staged ?_
    rintro _ rfl
    exact accepted_pending_current succ readable.encodable.generation
  · refine Disk.Anyhow.mono staged ?_
    rintro _ rfl
    exact accepted_pending_candidate succ readable.encodable.generation

/-- In every phase with a ledger, the state that is seen is accepted, and what else may be left is
older. -/
theorem Phase.found (phase : Phase sha256 U machine) :
    Vacant machine ∨ ∃ state identity, Found sha256 machine state identity ∧
      machine.ledger.Anyhow fun ledger => U ledger →
        ledger = some (stateFile sha256 state identity) ∨
        ∀ older, readLedger sha256 ledger = .ok (some older) →
        older.generation < state.generation := by
  cases phase with
  | vacant vacant => exact .inl vacant
  | born session machineName seen left anchor unknown =>
    refine .inr ⟨_, _, ⟨readable_fresh session machineName, seen, accepted_of_absent anchor,
      .first unknown rfl⟩, fun keep _ => ?_⟩
    rcases left keep with missing | same
    · refine .inr fun older read => ?_
      rw [missing] at read
      cases read
    · exact .inl same
  | based found left => exact .inr ⟨_, _, found, fun keep upToDate => .inl (left keep upToDate)⟩
  | flying readable readable' seen left anchor origin candidate succ =>
    refine .inr ⟨_, _, ⟨readable', seen, (accepted_of_staged anchor succ readable').2, candidate⟩,
      fun keep upToDate => ?_⟩
    rcases left keep upToDate with same | same
    · refine .inr fun older read => ?_
      rw [same, readable.read] at read
      cases read
      omega
    · exact .inl same

/-- Once the ledger that is seen must not be taken back, nothing older may be left. -/
theorem Phase.acted (phase : Phase sha256 U machine) (fewer : ∀ ledger, V ledger → U ledger)
    (acted : ∀ ledger state, V ledger →
      readLedger sha256 machine.ledger.visible = .ok (some state) →
      ∃ left, readLedger sha256 ledger = .ok (some left) ∧ state.generation ≤ left.generation) :
    Vacant machine ∨ ∃ state identity, Found sha256 machine state identity ∧
      machine.ledger.Anyhow fun ledger => V ledger →
        ledger = some (stateFile sha256 state identity) := by
  rcases phase.found with vacant | ⟨state, identity, found, left⟩
  · exact .inl vacant
  · refine .inr ⟨state, identity, found, fun keep upToDate => ?_⟩
    rcases left keep (fewer _ upToDate) with same | older
    · exact same
    · have read : readLedger sha256 machine.ledger.visible = .ok (some state) := by
        rw [found.seen]
        exact found.readable.read identity
      obtain ⟨other, readOther, le⟩ := acted _ state upToDate read
      have lt := older other readOther
      omega

/-- After a call that did not return, a coordinator knows what it knew before. -/
theorem KnowsLast.put (knows : KnowsLast machine) {left : Option DurableBootstrapCoordinator}
    (known : ∀ coordinator, left = some coordinator → ∃ before,
      machine.coordinators place = some before ∧ coordinator.state = before.state) (world : World) :
    KnowsLast ((machine.leave world).put place left) := by
  intro place' coordinator found
  change Function.update machine.coordinators place left place' = _ at found
  by_cases at_ : place' = place
  · subst at_
    rw [Function.update_self] at found
    obtain ⟨before, here, same⟩ := known coordinator found
    rw [same]
    exact knows place' before here
  · rw [Function.update_of_ne at_] at found
    exact knows place' coordinator found

/-! ### One step -/

/-- The invariant of a run. -/
def Safe (sha256 : Sha256) (U : Option LedgerFile → Prop) (machine : Machine) : Prop :=
  Phase sha256 U machine ∧ KnowsLast machine

variable {identity : FileIdentity}

/-- A ledger that did not change is the only one that may be left if it was so before. -/
theorem Phase.unchanged (readable : state.Readable)
    (seen : machine.ledger.visible = some (stateFile sha256 state identity))
    (left : machine.ledger.Anyhow fun ledger =>
      U ledger → ledger = some (stateFile sha256 state identity))
    (same : machine'.ledger = machine.ledger)
    (anchor : machine'.anchor.Anyhow (Accepted sha256 state)) (origin : Origin machine' state) :
    Phase sha256 U machine' :=
  .based ⟨readable, same ▸ seen, anchor, origin⟩ (same ▸ left)

/-- A ledger that was written and synced is the only one that may be left. -/
theorem Phase.synced {ledger : Disk (Option LedgerFile)} (readable : state.Readable)
    (same : machine.ledger = (written ledger (stateFile sha256 state identity)).sync)
    (anchor : machine.anchor.Anyhow (Accepted sha256 state)) (origin : Origin machine state) :
    Phase sha256 U machine := by
  refine .based ⟨readable, (congrArg Disk.visible same).trans (visible_written _ _),
    anchor, origin⟩ ?_
  rw [same]
  exact Disk.anyhow_of_synced fun _ => visible_written _ _

end Steps

/-! ### Runs that are given -/

section Torn

variable {state next candidate : DurableBootstrapState} {identity : FileIdentity}

-- The programs are run here, on worlds that are given, to see what they do.
attribute [local simp] Program.pure_apply Program.bind_apply Program.lift
    Program.query Program.access
  Program.atomically Program.effect Program.modify Program.handle demand
    openCoordinator openState load
  persist replaceLedger atomicWrite replaceFile reconcileGenerationAnchor loadGenerationAnchor
  persistGenerationAnchorRecord replaceAnchor acquireExclusive generation perform
    commit loadCommitted
  writeCandidate stageGenerationAnchor World.writeLedger World.syncLedger World.writeAnchor
  World.syncAnchor World.attempt Disk.sync_eq

/-- What the programs find of a readable state and of its anchor. -/
theorem DurableBootstrapState.Readable.texts (readable : state.Readable) (sha256 : Sha256)
    (identity : FileIdentity) :
    readLedger sha256 (some (stateFile sha256 state identity)) = .ok (some state) ∧
    (stateFile sha256 state identity).identity = identity ∧
    (stateFile sha256 state identity).bytes.length ≤ maxBootstrapStateBytes ∧
    state.validate = .ok () ∧
    (GenerationAnchor.committed sha256 state).validate = .ok () ∧
    (GenerationAnchor.committed sha256 state).commits sha256 state = true ∧
    readAnchor sha256 (some (committedText sha256 state)) = .ok (some (.committed sha256 state)) ∧
    (serializeGenerationAnchor sha256 (.committed sha256 state)).length ≤
      maxBootstrapStateBytes := by
  have valid : (GenerationAnchor.committed sha256 state).Valid :=
    valid_committed readable.encodable.generation
  exact ⟨readable.read identity, rfl, readable.short identity, readable.valid.validate,
    valid.validate,
    commits_iff.mpr ⟨rfl, rfl⟩, readAnchor_serialize valid,
    (length_serializeGenerationAnchor_le sha256 valid).trans (by decide)⟩

end Torn

/-! ### Runs -/

variable {machine : Machine}

variable (steps : List Step)

section TornCommit

variable {candidate next : DurableBootstrapState} {identity : FileIdentity}
variable (session : isIdentifier sessionId = true) (machineName : isIdentifier machineId = true)
  (computed : (DurableBootstrapState.fresh sessionId machineId).candidate sha256 clock call =
    .ok candidate)
  (valid : candidate.Valid) (plain : call.dashFree sha256 clock = true)
  (is_next : candidate.withGeneration 1 = next)
include session machineName computed valid plain is_next

end TornCommit

end Linura.Bootstrap
