import Linura.Provisioning.Operations
import Linura.Provisioning.Codec
import Linura.Lib.Disk

/-!
# The ledger, its anchor, and coordinators

The state is kept in a ledger file, and an anchor in another directory names the generation and
digest of the state that was committed.  A commit first writes an anchor that also names the
candidate, then replaces the ledger, and then writes an anchor with the candidate alone.  Both files
are replaced by renaming a temporary file and syncing the directory, and every one of these actions
may fail or be the last one before a crash.

A coordinator remembers the state that it read or wrote last.  Before it commits it looks at the
ledger again; if the ledger has changed, or if it does not know whether its own commit lasts, it
refuses all further work.
-/

namespace Linura.Bootstrap

open Linura.Lib Linura.Transaction
open Program (access atomically fail lift query)

/-- What the system reports about a file. -/
structure FileIdentity where
  device : Nat
  inode : Nat
  ctime : Int
  ctimeNsec : Int
  mtime : Int
  mtimeNsec : Int
  deriving DecidableEq, Repr

structure StoreGeneration where
  stateGeneration : Nat
  identity : FileIdentity
  len : Nat
  deriving DecidableEq, Repr

structure LedgerFile where
  bytes : Bytes
  identity : FileIdentity
  deriving DecidableEq, Repr

/-- `DurableBootstrapCoordinator`; its store is the only one. -/
structure DurableBootstrapCoordinator where
  state : DurableBootstrapState
  storeGeneration : StoreGeneration
  durabilityUncertain : Option String
  deriving DecidableEq, Repr

/-- The directories of the ledger and of the anchor, and the memory of the coordinator at work.  The
candidate of the last commit that got as far as the anchor is noted for what is said about runs; no
program looks at it. -/
structure World where
  ledger : Disk (Option LedgerFile)
  anchor : Disk (Option Bytes)
  coordinator : DurableBootstrapCoordinator
  inFlight : Option DurableBootstrapState

/-- What the coordinator does. -/
abbrev Action := Program World DurableBootstrapError

namespace World

/-- Put a new ledger in place. -/
def writeLedger (file : LedgerFile) (world : World) : World :=
  { world with ledger := world.ledger.change fun _ => some file }

def syncLedger (world : World) : World := { world with ledger := world.ledger.sync }

/-- Put a new anchor in place. -/
def writeAnchor (bytes : Bytes) (world : World) : World :=
  { world with anchor := world.anchor.change fun _ => some bytes }

def syncAnchor (world : World) : World := { world with anchor := world.anchor.sync }

/-- Poison the coordinator. -/
def poison (reason : String) (world : World) : World :=
  { world with coordinator := { world.coordinator with durabilityUncertain := some reason } }

/-- The coordinator has committed a state. -/
def adopt (state : DurableBootstrapState) (storeGeneration : StoreGeneration)
    (world : World) : World :=
  { world with coordinator :=
      { world.coordinator with state := state, storeGeneration := storeGeneration } }

/-- Note the candidate of a commit. -/
def attempt (candidate : DurableBootstrapState) (world : World) : World :=
  { world with inFlight := some candidate }

end World

/-! ### Files -/

/-- The faults of files: one is not trusted, or the system fails. -/
def storeFault : Nat → DurableBootstrapError
  | 0 => .untrustedStatePath
  | 1 => .untrustedControlPath
  | code => .io (osErrorText code)

/-- The fault of a sync after a rename. -/
def syncFault (code : Nat) : DurableBootstrapError := .durabilityUncertain
  ("bootstrap state/control rename completed but parent-directory fsync failed: " ++
    osErrorText code)

/-- What `atomic_write` does with a text that is not too long. -/
def replaceFile (change sync : World → World) : Action Unit := do
  -- The temporary file is written and synced.
  access storeFault
  atomically storeFault change
  -- The path is checked again after the rename; a fault here is not reported as uncertain.
  access storeFault
  atomically syncFault sync

/-- `atomic_write` -/
def atomicWrite (bytes : Bytes) (change sync : World → World) : Action Unit := do
  lift (demand (bytes.length ≤ maxBootstrapStateBytes) .stateSizeExceeded)
  replaceFile change sync

variable (sha256 : Sha256)

/-- `BootstrapStateStore::acquire_exclusive`.  While a call has the lock, no other call works. -/
def acquireExclusive : Action Unit := access storeFault

/-- The state in a ledger, if there is one. -/
def readLedger (ledger : Option LedgerFile) : Except DurableBootstrapError
    (Option DurableBootstrapState) :=
  match ledger with
  | none => .ok none
  | some file => do
    demand (file.bytes.length ≤ maxBootstrapStateBytes) .stateSizeExceeded
    let state ← parseState sha256 file.bytes
    return some state

/-- `BootstrapStateStore::load` -/
def load : Action (Option DurableBootstrapState) := do
  access storeFault
  query fun world => readLedger sha256 world.ledger.visible

variable (state : DurableBootstrapState)

/-- `BootstrapStateStore::generation` -/
def generation : Action StoreGeneration := do
  access storeFault
  query fun world =>
    match world.ledger.visible with
    | none => .error (.io (osErrorText 2))
    | some file => .ok ⟨state.generation, file.identity, file.bytes.length⟩

def stateFile (identity : FileIdentity) : LedgerFile :=
  ⟨serializeState sha256 state, identity⟩

def replaceLedger (file : LedgerFile) : Action Unit :=
  atomicWrite file.bytes (World.writeLedger file) World.syncLedger

/-- `BootstrapStateStore::persist` -/
def persist (identity : FileIdentity) : Action Unit :=
  replaceLedger (stateFile sha256 state identity)

/-! ### The anchor -/

/-- The anchor in its file, if there is one. -/
def readAnchor (anchor : Option Bytes) : Except DurableBootstrapError (Option GenerationAnchor) :=
  match anchor with
  | none => .ok none
  | some bytes => do
    let anchor ← parseGenerationAnchor sha256 bytes
    return some anchor

/-- `load_generation_anchor` -/
def loadGenerationAnchor : Action (Option GenerationAnchor) := do
  access storeFault
  query fun world => readAnchor sha256 world.anchor.visible

def replaceAnchor (bytes : Bytes) : Action Unit :=
  atomicWrite bytes (World.writeAnchor bytes) World.syncAnchor

variable (anchor : GenerationAnchor)

/-- `persist_generation_anchor_record` -/
def persistGenerationAnchorRecord : Action Unit := do
  lift anchor.validate
  replaceAnchor (serializeGenerationAnchor sha256 anchor)

/-- The anchor names this state as the one that was committed. -/
def GenerationAnchor.commits (state : DurableBootstrapState) : Bool :=
  anchor.committedGeneration = state.generation ∧
    anchor.committedStateSha256 = stateDigest sha256 state

/-- The anchor names this state as the one that is being committed. -/
def GenerationAnchor.stages (state : DurableBootstrapState) : Bool :=
  anchor.pendingGeneration = some state.generation ∧
    anchor.pendingStateSha256 = some (stateDigest sha256 state)

/-- `reconcile_generation_anchor` -/
def reconcileGenerationAnchor : Action Unit := do
  match ← loadGenerationAnchor sha256 with
  | none =>
    if state.generation = 0 then persistGenerationAnchorRecord sha256 (.committed sha256 state)
    else fail .generationAnchorMissing
  | some anchor =>
    if anchor.commits sha256 state then
      -- A candidate that did not reach the ledger is dropped.
      if anchor.pendingGeneration.isSome then
        persistGenerationAnchorRecord sha256 (.committed sha256 state)
      else pure ()
    else if anchor.stages sha256 state ∧
      state.generation = saturatingAdd anchor.committedGeneration 1 then
      -- A candidate that reached the ledger is committed.
      persistGenerationAnchorRecord sha256 (.committed sha256 state)
    else fail (.generationRollbackDetected state.generation anchor.committedGeneration)

/-- `stage_generation_anchor` -/
def stageGenerationAnchor (current candidate : DurableBootstrapState) : Action Unit := do
  reconcileGenerationAnchor sha256 current
  let anchor ← lift (GenerationAnchor.withPending sha256 current candidate)
  persistGenerationAnchorRecord sha256 anchor

variable (candidate : DurableBootstrapState)

/-- `finalize_generation_anchor` -/
def finalizeGenerationAnchor : Action Unit := do
  match ← loadGenerationAnchor sha256 with
  | none => fail .generationAnchorMissing
  | some anchor =>
    if anchor.stages sha256 candidate then
      persistGenerationAnchorRecord sha256 (.committed sha256 candidate)
    else fail (.corruptGenerationAnchor
      "finalization does not match the precommitted ledger generation/digest")

/-! ### Opening -/

/-- The state with which a coordinator starts: that of the ledger, or a new one. -/
def openState (sessionId machineId : String) (identity : FileIdentity) :
    Action DurableBootstrapState := do
  match ← load sha256 with
  | some state =>
    lift (demand (state.sessionId = sessionId ∧ state.machineId = machineId) .stateBindingMismatch)
    reconcileGenerationAnchor sha256 state
    pure state
  | none =>
    let state ← lift (DurableBootstrapState.new sessionId machineId)
    persist sha256 state identity
    reconcileGenerationAnchor sha256 state
    pure state

/-- `DurableBootstrapCoordinator::open` -/
def openCoordinator (sessionId machineId : String) (identity : FileIdentity) :
    Action DurableBootstrapCoordinator := do
  let sessionId ← lift (normalizeIdentifier "bootstrap session id" sessionId)
  let machineId ← lift (normalizeIdentifier "machine id" machineId)
  acquireExclusive
  let state ← openState sha256 sessionId machineId identity
  lift state.validate
  let storeGeneration ← generation state
  pure ⟨state, storeGeneration, none⟩

/-! ### Commits -/

/-- `ensure_usable` -/
def DurableBootstrapCoordinator.ensureUsable (coordinator : DurableBootstrapCoordinator) :
    Except DurableBootstrapError Unit :=
  match coordinator.durabilityUncertain with
  | some reason => .error (.recoveryRequired reason)
  | none => .ok ()

def staleReason : String :=
  "durable bootstrap state/generation changed through another coordinator; " ++
  "reopen and reconcile before continuing"

/-- Refuse all further work, for a reason that is reported. -/
def becomeUncertain {α : Type} (reason : String) : Action α := do
  Program.modify (World.poison reason)
  fail (.durabilityUncertain reason)

/-- What a commit reports if the ledger could not be replaced. -/
def handlePersistFailure {α : Type} : DurableBootstrapError → Action α
  | .durabilityUncertain reason => becomeUncertain reason
  | other => fail other

/-- The text of a commit whose anchor could not be finalized. -/
def unfinalizedReason (error : DurableBootstrapError) : String :=
  "bootstrap state generation " ++ toString candidate.generation ++
    " committed but external generation anchor could not be finalized: " ++ error.display

/-- What `commit` does once the ledger is seen to be unchanged and the candidate has its
generation. -/
def writeCandidate (current candidate : DurableBootstrapState) (identity : FileIdentity) :
    Action Unit := do
  Program.modify (World.attempt candidate)
  stageGenerationAnchor sha256 current candidate
  (persist sha256 candidate identity).handle handlePersistFailure
  (finalizeGenerationAnchor sha256 candidate).handle fun error =>
    becomeUncertain (unfinalizedReason candidate error)
  (reconcileGenerationAnchor sha256 candidate).handle fun error => becomeUncertain
    ("bootstrap state/anchor commit could not be re-observed consistently: " ++ error.display)
  let observed ← (generation candidate).handle fun error => becomeUncertain
    ("bootstrap state commit succeeded but durable generation could not be re-observed: " ++
      error.display)
  Program.modify (World.adopt candidate observed)

/-- The generation is set when a candidate is committed. -/
def DurableBootstrapState.withGeneration (generation : Nat) :
    DurableBootstrapState := { state with generation := generation }

def DurableBootstrapState.nextGeneration : Except DurableBootstrapError Nat :=
  (checkedAdd state.generation 1).elim (.error .generationOverflow) .ok

/-- The ledger as `commit` finds it. -/
def loadCommitted : Action DurableBootstrapState := do
  match ← load sha256 with
  | none => fail (.corruptState "durable bootstrap state disappeared")
  | some durable =>
    reconcileGenerationAnchor sha256 durable
    pure durable

def commit (identity : FileIdentity) : Action Unit := do
  query fun world => world.coordinator.ensureUsable
  lift candidate.validate
  acquireExclusive
  let durable ← loadCommitted sha256
  let durableGeneration ← generation durable
  let current ← query fun world => .ok world.coordinator
  if durable ≠ current.state ∨ durableGeneration ≠ current.storeGeneration then do
    Program.modify (World.poison staleReason)
    fail .staleCoordinator
  else do
    let next ← lift current.state.nextGeneration
    lift (candidate.withGeneration next).validate
    writeCandidate sha256 current.state (candidate.withGeneration next) identity

/-- A call of the coordinator. -/
def perform (call : BootstrapCall) (identity : FileIdentity) (clock : ClockSamples) :
    Action Unit := do
  let candidate ← query fun world => world.coordinator.state.candidate sha256 clock call
  commit sha256 candidate identity

inductive BootstrapResumeDecision
  | continueAt (stage : BootstrapStage)
  | executePrepared (stage : BootstrapStage) (operationId : String)
  | reobserveBeforeContinuing (stage : BootstrapStage) (operationId : String)
  | complete
  | recoveryRequired
  deriving DecidableEq, Repr

/-- `resume_decision` -/
def DurableBootstrapCoordinator.resumeDecision (coordinator : DurableBootstrapCoordinator) :
    BootstrapResumeDecision :=
  if coordinator.durabilityUncertain.isSome then .recoveryRequired
  else
    match coordinator.state.active with
    | some active =>
      if active.effectState = .prepared then .executePrepared active.stage active.operationId
      else .reobserveBeforeContinuing active.stage active.operationId
    | none =>
      match coordinator.state.nextStage with
      | some stage => .continueAt stage
      | none => .complete

/-! ### Runs -/

/-- Processes open coordinators, each in its own place, and make calls with them.  A call meets the
listed faults.  The system may sync both directories by itself.  A power loss ends all processes and
keeps the marked changes. -/
inductive Step
  | opens (place : Nat) (sessionId machineId : String) (identity : FileIdentity)
      (faults : List Fault)
  | performs (place : Nat) (call : BootstrapCall) (identity : FileIdentity) (clock : ClockSamples)
      (faults : List Fault)
  | writesBack
  | powerLoss (keepLedger keepAnchor : List Bool)

/-- A call that succeeded, with the states that the coordinator knew before and after. -/
structure Success where
  call : BootstrapCall
  before : DurableBootstrapState
  after : DurableBootstrapState

/-- The two files with the coordinators that are open on them, the candidate noted last, the state
with which a coordinator was last opened or committed, and the calls that succeeded. -/
structure Machine where
  ledger : Disk (Option LedgerFile)
  anchor : Disk (Option Bytes)
  coordinators : Nat → Option DurableBootstrapCoordinator
  inFlight : Option DurableBootstrapState
  last : Option DurableBootstrapState
  succeeded : List Success

namespace Machine

/-- Two empty directories. -/
def new : Machine := ⟨.holding none, .holding none, fun _ => none, none, none, []⟩

/-- What a coordinator that is not open yet remembers. -/
def blank : DurableBootstrapCoordinator :=
  ⟨⟨0, "", "", [], [], none, {}⟩, ⟨0, ⟨0, 0, 0, 0, 0, 0⟩, 0⟩, none⟩

variable (machine : Machine)

def world (coordinator : DurableBootstrapCoordinator) : World :=
  ⟨machine.ledger, machine.anchor, coordinator, machine.inFlight⟩

/-- The two files as a call leaves them. -/
def leave (world : World) : Machine :=
  { machine with ledger := world.ledger, anchor := world.anchor, inFlight := world.inFlight }

/-- Another coordinator, or none, in a place. -/
def put (place : Nat) (coordinator : Option DurableBootstrapCoordinator) : Machine :=
  { machine with coordinators := Function.update machine.coordinators place coordinator }

-- The equations of `step` are to mention the two programs, never to run them.
attribute [irreducible] openCoordinator perform

/-- The coordinator in a place works until it returns or crashes, which ends it. -/
def step : Step → Machine
  | .opens place sessionId machineId identity faults =>
    match openCoordinator sha256 sessionId machineId identity ⟨machine.world blank, faults⟩ with
    | (.ok coordinator, s) =>
      { (machine.leave s.state).put place (some coordinator) with
        inFlight := none
        last := some coordinator.state }
    | (_, s) => machine.leave s.state
  | .performs place call identity clock faults =>
    match machine.coordinators place with
    | none => machine
    | some coordinator =>
      match perform sha256 call identity clock ⟨machine.world coordinator, faults⟩ with
      | (.ok _, s) =>
        { (machine.leave s.state).put place (some s.state.coordinator) with
          inFlight := none
          last := some s.state.coordinator.state
          succeeded := machine.succeeded ++ [⟨call, coordinator.state, s.state.coordinator.state⟩] }
      | (.error _, s) => (machine.leave s.state).put place (some s.state.coordinator)
      | (.crashed, s) => (machine.leave s.state).put place none
  | .writesBack => { machine with ledger := machine.ledger.sync, anchor := machine.anchor.sync }
  | .powerLoss keepLedger keepAnchor =>
    { machine with
      ledger := machine.ledger.powerLoss keepLedger
      anchor := machine.anchor.powerLoss keepAnchor
      coordinators := fun _ => none }

/-- The two files after a sequence of steps. -/
def run (steps : List Step) : Machine := steps.foldl (step sha256) new

end Machine

end Linura.Bootstrap
