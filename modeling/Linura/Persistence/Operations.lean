import Linura.Persistence.Store

/-!
# Operations and runs of the store

The five operations that move transactions, the integrity check, and opening a store;
then the whole system: a database with the file beside it, which one process at a time
has open.  A run is any sequence of openings, requests and closings, each with any
faults; a crash ends the process and leaves what is durable.
-/

namespace Linura.Persistence

open Linura.Lib Linura.Core Linura.Transaction
open Program (atomically fail lift query)

section Operations

variable (config : StoreConfig)

/-- The current snapshot of a transaction, if it exists. -/
def findCurrent (tables : Tables) (id : TransactionId) :
    Except TransactionStoreError (Option TransactionSnapshot) :=
  match loadCurrent config tables id with
  | .ok (_, _, snapshot) => .ok (some snapshot)
  | .error .notFound => .ok none
  | .error reason => .error reason

variable (binding : AuthorityBinding config.sha256)

/-- The row of a newly prepared transaction. -/
def newTransactionRow : StoredTransaction :=
  StoredTransaction.withTag config.sha256 config.integrityKey
    { transactionId := binding.transactionId.value
      principal := binding.principal.value
      requestId := binding.requestId.value
      currentGeneration := 0
      stateVersion := 1
      integrityTag := [] }

/-- The snapshot of a newly prepared transaction. -/
def newSnapshot : TransactionSnapshot where
  transactionId := binding.transactionId
  principal := binding.principal
  requestId := binding.requestId
  currentGeneration := 0
  stateVersion := 1
  state := .prepared
  bindingDigest := binding.digest

/-- The part of `prepare` that creates a transaction. -/
def createTransaction : SqlProgram Unit := do
  select fun tables => checkCountCapacity tables .transactions config.limits.maxTransactions 1
  select fun tables => checkCountCapacity tables .generations config.limits.maxGenerations 1
  select fun tables => checkLogicalAuditReserve tables config.limits 1 1
  let _ ← execute (·.insertTransaction (newTransactionRow config binding))
  insertGeneration config binding 0
  appendAudit config binding.transactionId 0 1 "prepared" binding.digest false
  ensureAuditReservations config binding.transactionId 1

/-- The SQLite transaction of `prepare`. -/
def prepareBody : SqlProgram PrepareOutcome := do
  match ← select fun tables => findCurrent config tables binding.transactionId with
  | some snapshot =>
    if snapshot.state = .prepared ∧ snapshot.bindingDigest = binding.digest ∧
        snapshot.principal = binding.principal ∧ snapshot.requestId = binding.requestId then
      return .existing snapshot
    else fail .idempotencyConflict
  | none =>
    createTransaction config binding
    return .created (newSnapshot config binding)

def prepare : StoreProgram PrepareOutcome := do
  requireNormalOpen
  transaction (prepareBody config binding)

/-- The SQLite transaction of `handoff`. -/
def handoffBody (request : HandoffRequest) (now : Option Nat) : SqlProgram HandoffCommit := do
  lift (enforceAuthorityWindow now request.authorizedAtUnixMs request.expiresAtUnixMs)
  let (record, generation, snapshot) ← select fun tables =>
    loadCurrent config tables request.transactionId
  lift (assertExpected snapshot request.expectedGeneration request.expectedStateVersion
    request.expectedBindingDigest .prepared)
  if request.authorityUseDigest = .zero then fail .stateConflict
  else
    reserveEvents config request.transactionId 1 0 2
    let nextVersion ← nextStateVersion snapshot
    advance config request.transactionId record snapshot.currentGeneration nextVersion
      (updateGenerationState config generation .prepared .indeterminate) "handoff-indeterminate"
      request.authorityUseDigest
    return {
      transactionId := request.transactionId
      generation := snapshot.currentGeneration
      stateVersion := nextVersion
      bindingDigest := snapshot.bindingDigest
      authorityUseDigest := request.authorityUseDigest }

def handoff (request : HandoffRequest) (now : Option Nat) : StoreProgram HandoffCommit := do
  requireNormalOpen
  if !verifyHandoff config.sha256 config.authorityKey request then
    fail .authorityRejected
  else
    let receipt ← transaction (handoffBody config request now)
    reconcileFilesystemReserveAfterCommit config
    return receipt

/-- The branch of `recover` that retires a generation without effect and prepares the next one. -/
def reprepare (id : TransactionId) (record : StoredTransaction) (generation : StoredGeneration)
    (snapshot : TransactionSnapshot) (nextVersion : Nat) (observationDigest : ContentDigest)
    (nextBinding : AuthorityBinding config.sha256) : SqlProgram RecoveryOutcome := do
  if nextBinding.transactionId ≠ id then fail .idempotencyConflict
  else
    let nextGeneration ← lift
      (orFail .capacityExceeded (checkedAdd snapshot.currentGeneration 1))
    if maxTransactionGenerations ≤ nextGeneration then fail .capacityExceeded
    else
      select fun tables => checkCountCapacity tables .generations config.limits.maxGenerations 1
      reserveEvents config id 2 0 3
      updateGenerationState config generation .indeterminate .aborted
      insertGeneration config nextBinding nextGeneration
      updateTransactionPointer config record nextGeneration nextVersion
      appendAudit config id snapshot.currentGeneration nextVersion "recovery-retired-no-effect"
        observationDigest true
      appendAudit config id nextGeneration nextVersion "recovery-reprepared" nextBinding.digest true
      return .reprepared {
        transactionId := id
        principal := nextBinding.principal
        requestId := nextBinding.requestId
        currentGeneration := nextGeneration
        stateVersion := nextVersion
        state := .prepared
        bindingDigest := nextBinding.digest }

/-- The SQLite transaction of `recover`. -/
def recoverBody (request : RecoveryRequest config.sha256) (now : Option Nat) :
    SqlProgram RecoveryOutcome := do
  lift (enforceAuthorityWindow now request.authorizedAtUnixMs request.expiresAtUnixMs)
  let (record, generation, snapshot) ← select fun tables =>
    loadCurrent config tables request.transactionId
  lift (assertExpected snapshot request.expectedGeneration request.expectedStateVersion
    request.expectedBindingDigest .indeterminate)
  let nextVersion ← nextStateVersion snapshot
  match request.resolution with
  | .intendedStateVerified observationDigest desired graph provenance =>
    reserveEvents config request.transactionId 1 0 2
    advance config request.transactionId record snapshot.currentGeneration nextVersion
      (updateGenerationToVerified config generation desired graph provenance) "recovery-verified"
      observationDigest
    return .verified { snapshot with state := .verified, stateVersion := nextVersion }
  | .conflictingState observationDigest =>
    reserveEvents config request.transactionId 1 (-1) 1
    advance config request.transactionId record snapshot.currentGeneration nextVersion
      (updateGenerationState config generation .indeterminate .recoveryBlocked) "recovery-blocked"
      observationDigest
    return .blocked { snapshot with state := .recoveryBlocked, stateVersion := nextVersion }
  | .ambiguous observationDigest =>
    reserveEvents config request.transactionId 1 0 2
    advance config request.transactionId record snapshot.currentGeneration nextVersion (pure ())
      "recovery-ambiguous" observationDigest
    return .stillIndeterminate { snapshot with stateVersion := nextVersion }
  | .intendedEffectAbsent observationDigest nextBinding =>
    reprepare config request.transactionId record generation snapshot nextVersion observationDigest
      nextBinding

def recover (request : RecoveryRequest config.sha256) (now : Option Nat) :
    StoreProgram RecoveryOutcome := do
  requireNormalOpen
  if !verifyRecovery config.sha256 config.authorityKey request then
    fail .authorityRejected
  else
    let outcome ← transaction (recoverBody config request now)
    reconcileFilesystemReserveAfterCommit config
    return outcome

/-- The SQLite transaction of `commit`. -/
def commitBody (request : CommitRequest) : SqlProgram TransactionSnapshot := do
  let (record, generation, snapshot) ← select fun tables =>
    loadCurrent config tables request.transactionId
  lift (assertExpected snapshot request.expectedGeneration request.expectedStateVersion
    request.expectedBindingDigest .verified)
  if generation.desiredStateDigest ≠ some request.desiredStateDigest.value ∨
      generation.graphDigest ≠ some request.graphDigest.value ∨
      generation.provenanceDigest ≠ some request.provenanceDigest.value then
    fail .stateConflict
  else
    reserveEvents config request.transactionId 1 (-1) 1
    let nextVersion ← nextStateVersion snapshot
    advance config request.transactionId record snapshot.currentGeneration nextVersion
      (updateGenerationState config generation .verified .committed) "committed"
      (commitPayload config.sha256 request.desiredStateDigest request.graphDigest
        request.provenanceDigest)
    return { snapshot with state := .committed, stateVersion := nextVersion }

def commit (request : CommitRequest) : StoreProgram TransactionSnapshot := do
  requireNormalOpen
  if !verifyCommit config.sha256 config.authorityKey request then
    fail .authorityRejected
  else
    let snapshot ← transaction (commitBody config request)
    reconcileFilesystemReserveAfterCommit config
    return snapshot

/-- The SQLite transaction of `abort_prepared`. -/
def abortBody (request : AbortRequest) : SqlProgram TransactionSnapshot := do
  let (record, generation, snapshot) ← select fun tables =>
    loadCurrent config tables request.transactionId
  if snapshot.currentGeneration ≠ request.expectedGeneration ∨
      snapshot.stateVersion ≠ request.expectedStateVersion ∨ snapshot.state ≠ .prepared then
    fail .stateConflict
  else
    reserveEvents config request.transactionId 1 (-1) 1
    let nextVersion ← nextStateVersion snapshot
    advance config request.transactionId record snapshot.currentGeneration nextVersion
      (updateGenerationState config generation .prepared .aborted) "aborted-prepared"
      request.reasonDigest
    return { snapshot with state := .aborted, stateVersion := nextVersion }

/-- `abort_prepared`, the one operation that a store opened for terminal recovery allows. -/
def abortPrepared (request : AbortRequest) : StoreProgram TransactionSnapshot := do
  let snapshot ← transaction (abortBody config request)
  reconcileFilesystemReserveAfterCommit config
  Program.modify fun state => { state with openerReleased := false }
  return snapshot

/-- `integrity_check` -/
def integrityCheck : StoreProgram Unit := do
  let openerReleased ← query fun state => .ok state.openerReleased
  transaction do
    let rows ← select (validateTables config)
    onSidecar (config.reserve.validateAndReconcile rows openerReleased)

/-- `release_preopen_recovery_headroom` -/
def releasePreopenRecoveryHeadroom : ReserveProgram Bool := do
  let present ← query fun file => .ok file.isSome
  if !present then return false
  else
    config.reserve.releaseOpenerHeadroom
    return true

/-- Release the opener's slot of a file that is there, to open for terminal recovery. -/
def enterTerminalRecovery : StoreProgram Unit := do
  let released ← (releasePreopenRecoveryHeadroom config).mapError ioStore |>.zoom (·.sidecar)
    fun sidecar state => { state with sidecar := sidecar }
  if released then pure () else fail .stateConflict

/-- `open_with_limits_mode`.  Configuring the connection and the schema may fail too. -/
def openStore (terminalRecovery : Bool) : StoreProgram Unit := do
  let _ ← lift config.limits.validate
  Program.modify fun state => { state with openerReleased := terminalRecovery }
  (if terminalRecovery then enterTerminalRecovery config else pure ())
  atomically sqliteError id
  integrityCheck config

end Operations

/-! ### Runs -/

section Runs

variable (config : StoreConfig)

/-- A request to an open store, with the clock it meets. -/
inductive Request
  | prepare (binding : AuthorityBinding config.sha256)
  | handoff (request : HandoffRequest) (now : Option Nat)
  | recover (request : RecoveryRequest config.sha256) (now : Option Nat)
  | commit (request : CommitRequest)
  | abortPrepared (request : AbortRequest)
  | integrityCheck

/-- The answer to a request. -/
inductive Response
  | prepared (outcome : PrepareOutcome)
  | handedOff (receipt : HandoffCommit)
  | recovered (outcome : RecoveryOutcome)
  | committed (snapshot : TransactionSnapshot)
  | aborted (snapshot : TransactionSnapshot)
  | checked

def serve : Request config → StoreProgram Response
  | .prepare binding => return .prepared (← prepare config binding)
  | .handoff request now => return .handedOff (← handoff config request now)
  | .recover request now => return .recovered (← recover config request now)
  | .commit request => return .committed (← commit config request)
  | .abortPrepared request => return .aborted (← abortPrepared config request)
  | .integrityCheck => do
    integrityCheck config
    return .checked

/-- What happens to the system. -/
inductive Event
  | openStore (terminalRecovery : Bool) (faults : List Fault)
  | request (request : Request config) (faults : List Fault)
  | close

/-- The store on disk, and whether a process has it open. -/
structure System where
  store : StoreState
  isOpen : Bool

/-- A freshly initialised database, before it is opened. -/
def System.fresh : System := ⟨⟨.empty, none, false⟩, false⟩

/-- A process that crashed has nothing open. -/
def survives {α : Type} : Outcome TransactionStoreError α → Bool
  | .crashed => false
  | _ => true

/-- The outcome of serving a request with some faults, and the store after it. -/
def respond (system : System) (request : Request config) (faults : List Fault) :
    Outcome TransactionStoreError Response × Faulty StoreState :=
  serve config request ⟨system.store, faults⟩

/-- What an event does to the system.  Only a closed store is opened, and only an open one is asked
or closed. -/
def System.step (system : System) : Event config → System
  | .openStore terminalRecovery faults =>
    if system.isOpen then system
    else
      match openStore config terminalRecovery ⟨system.store, faults⟩ with
      | (.ok (), s) => ⟨s.state, true⟩
      | (_, s) => ⟨s.state, false⟩
  | .request request faults =>
    if !system.isOpen then system
    else
      match respond config system request faults with
      | (outcome, s) => ⟨s.state, survives outcome⟩
  | .close => { system with isOpen := false }

/-- The system after a sequence of events. -/
def System.run (events : List (Event config)) : System := events.foldl (System.step config) .fresh

end Runs

end Linura.Persistence
