import Linura.Persistence.FilesystemReserve

/-!
# The SQLite transaction store

The operations of `SqliteTransactionStore` as programs.  A SQLite transaction works on
its own copy of the tables, which `COMMIT` makes durable at once and everything else
abandons; statements may fail, and so may `BEGIN` and `COMMIT`.  The file beside the
database is changed outside of that: when a reservation row is inserted, and when the
file is reconciled after a commit.
-/

namespace Linura.Persistence

open Linura.Lib Linura.Core Linura.Transaction
open Program (atomically fail lift query)

/-- What a SQLite transaction changes: its own view of the tables, and the file beside the
database. -/
structure Workspace where
  tables : Tables
  sidecar : Option SparseFile

/-- Programs inside a SQLite transaction. -/
abbrev SqlProgram (α : Type) := Program Workspace TransactionStoreError α

/-- The database, the file beside it, and whether the opener's slot was released for terminal
recovery. -/
structure StoreState where
  durable : Tables
  sidecar : Option SparseFile
  openerReleased : Bool

abbrev StoreProgram (α : Type) := Program StoreState TransactionStoreError α

/-- `sqlite`: SQLite's code 13 says that the disk or the database is full. -/
def sqliteError (code : Nat) : TransactionStoreError :=
  if code = 13 then .capacityExceeded else .storage ("SQLite error " ++ toString code)

def select {α : Type} (read : Tables → Except TransactionStoreError α) : SqlProgram α :=
  query fun workspace => read workspace.tables

/-- Execute a statement and return the number of rows it changed. -/
def execute (statement : Tables → Except TransactionStoreError (Nat × Tables)) :
    SqlProgram Nat := do
  let (changed, tables) ← select statement
  atomically sqliteError fun workspace => { workspace with tables := tables }
  return changed

/-- Run a program on the file beside the database. -/
def onSidecar {ε α : Type} (program : Program (Option SparseFile) ε α) : Program Workspace ε α :=
  program.zoom (·.sidecar) fun sidecar workspace => { workspace with sidecar := sidecar }

/-- `BEGIN IMMEDIATE`, the body, and `COMMIT`.  Until then the body's tables are its own: a body
that fails is rolled back, and only what it did to the file remains. -/
def transaction {α : Type} (body : SqlProgram α) : StoreProgram α := do
  atomically sqliteError id
  let run : SqlProgram (α × Tables) := do
    let result ← body
    let tables ← select .ok
    return (result, tables)
  let (result, tables) ← run.zoom (fun state => ⟨state.durable, state.sidecar⟩)
    fun workspace state => { state with sidecar := workspace.sidecar }
  atomically sqliteError fun state => { state with durable := tables }
  return result

/-! ### Statements -/

namespace Tables

variable (tables : Tables)

/-- A row of `transactions` has this identity. -/
def hasTransaction (id : String) : Bool := tables.transactions.any fun row => row.transactionId = id

/-- `INSERT INTO transactions` -/
def insertTransaction (row : StoredTransaction) : Except TransactionStoreError (Nat × Tables) :=
  if tables.transactions.any fun old => old.transactionId = row.transactionId ∨
      (old.principal = row.principal ∧ old.requestId = row.requestId) then
    .error (.storage "immutable transaction identity conflict")
  else if !row.check then .error (.storage "CHECK constraint failed: transactions")
  else .ok (1, { tables with transactions := tables.transactions ++ [row] })

/-- `INSERT INTO generations` -/
def insertGeneration (row : StoredGeneration) : Except TransactionStoreError (Nat × Tables) :=
  if tables.generations.any fun old => old.transactionId = row.transactionId ∧
      old.generation = row.generation then
    .error (.storage "immutable generation history conflict")
  else if !row.check then .error (.storage "CHECK constraint failed: generations")
  else if !tables.hasTransaction row.transactionId then
    .error (.storage "FOREIGN KEY constraint failed")
  else .ok (1, { tables with generations := tables.generations ++ [row] })

/-- `INSERT INTO audit_events` -/
def insertAuditEvent (row : StoredAuditEvent) : Except TransactionStoreError (Nat × Tables) :=
  if tables.auditEvents.any fun old => old.transactionId = row.transactionId ∧
      old.eventSequence = row.eventSequence then
    .error (.storage "append-only audit history conflict")
  else if !row.check then .error (.storage "CHECK constraint failed: audit_events")
  else if !tables.hasTransaction row.transactionId then
    .error (.storage "FOREIGN KEY constraint failed")
  else .ok (1, { tables with auditEvents := tables.auditEvents ++ [row] })

/-- `INSERT INTO audit_reservations`, after its trigger. -/
def insertReservation (row : AuditReservation) : Except TransactionStoreError (Nat × Tables) :=
  if tables.auditReservations.any fun old => old.transactionId = row.transactionId ∧
      old.slot = row.slot then
    .error (.storage "UNIQUE constraint failed: audit_reservations")
  else if !row.check then .error (.storage "CHECK constraint failed: audit_reservations")
  else if !tables.hasTransaction row.transactionId then
    .error (.storage "FOREIGN KEY constraint failed")
  else .ok (1, { tables with auditReservations := tables.auditReservations ++ [row] })

/-- `DELETE FROM audit_reservations`; the trigger of schema version 2 does nothing. -/
def deleteReservations (condition : AuditReservation → Bool) :
    Except TransactionStoreError (Nat × Tables) :=
  .ok (tables.auditReservations.countP condition,
    { tables with auditReservations := tables.auditReservations.filter fun row => !condition row })

/-- `UPDATE transactions` -/
def updateTransactions (condition : StoredTransaction → Bool)
    (change : StoredTransaction → StoredTransaction) :
    Except TransactionStoreError (Nat × Tables) :=
  if (tables.transactions.filter condition).all fun row => (change row).check then
    .ok (tables.transactions.countP condition,
      { tables with transactions := updateRows condition change tables.transactions })
  else .error (.storage "CHECK constraint failed: transactions")

/-- `UPDATE generations`, where `guard` is what the triggers ask of the old and the new row. -/
def updateGenerations (guard : StoredGeneration → StoredGeneration → Bool)
    (condition : StoredGeneration → Bool) (change : StoredGeneration → StoredGeneration) :
    Except TransactionStoreError (Nat × Tables) :=
  if !(tables.generations.filter condition).all fun row => guard row (change row) then
    .error (.storage "immutable verified commit material")
  else if (tables.generations.filter condition).all fun row => (change row).check then
    .ok (tables.generations.countP condition,
      { tables with generations := updateRows condition change tables.generations })
  else .error (.storage "CHECK constraint failed: generations")

end Tables

/-- `generations_commit_provenance_guard`, which an update of the commit material has to pass. -/
def commitProvenanceGuard (old new : StoredGeneration) : Bool :=
  old.state = "indeterminate" && new.state = "verified" &&
    old.desiredStateDigest.isNone && old.graphDigest.isNone && old.provenanceDigest.isNone &&
    new.desiredStateDigest.isSome && new.graphDigest.isSome && new.provenanceDigest.isSome

/-- Convert the integer parameters of a statement. -/
def asI64Parameters (values : List Nat) : SqlProgram Unit :=
  lift (values.forM fun value => discard (asI64 value))

/-! ### Helpers of the operations -/

section Helpers

variable (config : StoreConfig)

/-- The reserve of the database's file. -/
def StoreConfig.reserve : RecoveryReserve := .fromPageSize config.pageSize

/-- `require_normal_open` -/
def requireNormalOpen : StoreProgram Unit :=
  query fun state => if state.openerReleased then .error .stateConflict else .ok ()

/-- `assert_expected` -/
def assertExpected (snapshot : TransactionSnapshot) (expectedGeneration expectedStateVersion : Nat)
    (expectedBindingDigest : ContentDigest) (expectedState : TransactionState) :
    Except TransactionStoreError Unit :=
  if snapshot.currentGeneration ≠ expectedGeneration ∨
      snapshot.stateVersion ≠ expectedStateVersion ∨
      snapshot.bindingDigest ≠ expectedBindingDigest ∨ snapshot.state ≠ expectedState then
    .error .stateConflict
  else .ok ()

variable (id : TransactionId)

/-- Insert the reservation of a slot.  The trigger first grows the file for the row to come and the
opener. -/
def insertReservationRow (slot : Nat) : SqlProgram Unit := do
  asI64Parameters [slot, reservationBytes config]
  let count ← select fun tables => .ok tables.auditReservations.length
  let code ← (onSidecar (config.reserve.reserveSlots (count + 2))).mapError ioStore
  if code = 1 then
    let _ ← execute (·.insertReservation ⟨id.value, slot, reservationBytes config⟩)
  else if code = 0 then
    fail (.storage "filesystem recovery reserve capacity exceeded")
  else fail (.storage "filesystem recovery reserve failure")

/-- `ensure_audit_reservations` -/
def ensureAuditReservations (required : Nat) : SqlProgram Unit := do
  let existing ← select fun tables => countReservations config tables id
  if required < existing then
    fail
      (.corruption "physical audit reservation count exceeds transition requirement")
  else (List.range' existing (required - existing)).forM (insertReservationRow config id)

/-- The row reserves this slot of this transaction. -/
def AuditReservation.isSlot (slot : Nat) (row : AuditReservation) : Bool :=
  row.transactionId = id.value ∧ row.slot = slot

/-- `consume_audit_reservation` -/
def consumeAuditReservation : SqlProgram Unit := do
  let row ← select fun tables =>
    orFail (.corruption "required physical audit reservation is missing")
      (lastBy (·.slot) (tables.auditReservationsOf id.value))
  if row.reservedLength ≠ reservationBytes config then
    fail (.corruption "physical audit reservation byte length is invalid")
  else
    let deleted ← execute (·.deleteReservations (AuditReservation.isSlot id row.slot))
    if deleted ≠ 1 then
      fail (.corruption "physical audit reservation could not be consumed")
    else pure ()

/-- The sequence number and the previous digest of a transaction's next audit event. -/
def nextLink (tables : Tables) (id : TransactionId) :
    Except TransactionStoreError (Nat × ContentDigest) := do
  match ← loadLastAuditEvent config tables id with
  | some previous =>
    let digest ← readDigest previous.eventDigest
    let sequence ← orFail .capacityExceeded (checkedAdd previous.eventSequence 1)
    return (sequence, digest)
  | none => return (0, .zero)

def auditRow (sequence generation stateVersion : Nat) (eventKind : String)
    (payloadDigest previousDigest : ContentDigest) : StoredAuditEvent :=
  StoredAuditEvent.withTag config.sha256 config.integrityKey
    { transactionId := id.value
      eventSequence := sequence
      generation := generation
      stateVersion := stateVersion
      eventKind := eventKind
      payloadDigest := payloadDigest.value
      previousDigest := previousDigest.value
      eventDigest := (auditDigest config.sha256 id sequence generation stateVersion eventKind
        payloadDigest previousDigest).value
      integrityTag := [] }

/-- `append_audit` -/
def appendAudit (generation stateVersion : Nat) (eventKind : String) (payloadDigest : ContentDigest)
    (consumeReservation : Bool) : SqlProgram Unit := do
  if !isBoundedText maxAuditEventKindBytes eventKind then
    fail (.corruption "internal audit event kind exceeds persisted byte bound")
  else
    select fun tables => checkCountCapacity tables .auditEvents config.limits.maxAuditEvents 1
    let (sequence, previousDigest) ← select fun tables => nextLink config tables id
    if consumeReservation then consumeAuditReservation config id
    asI64Parameters [sequence, generation, stateVersion]
    let _ ← execute (·.insertAuditEvent
      (auditRow config id sequence generation stateVersion eventKind payloadDigest previousDigest))

variable (record : StoredTransaction)

/-- The rows that `update_transaction_pointer` replaces: those that are still what was read. -/
def StoredTransaction.isUnchanged (row : StoredTransaction) : Bool :=
  row.transactionId = record.transactionId ∧ row.currentGeneration = record.currentGeneration ∧
    row.stateVersion = record.stateVersion ∧ row.integrityTag = record.integrityTag

/-- The columns that `update_transaction_pointer` sets. -/
def StoredTransaction.pointTo (next row : StoredTransaction) : StoredTransaction :=
  { row with
    currentGeneration := next.currentGeneration
    stateVersion := next.stateVersion
    integrityTag := next.integrityTag }

/-- The pointer that `update_transaction_pointer` writes. -/
def repointed (nextGeneration nextVersion : Nat) : StoredTransaction :=
  StoredTransaction.withTag config.sha256 config.integrityKey
    { record with currentGeneration := nextGeneration, stateVersion := nextVersion }

/-- `update_transaction_pointer` -/
def updateTransactionPointer (nextGeneration nextVersion : Nat) : SqlProgram Unit := do
  let next := repointed config record nextGeneration nextVersion
  asI64Parameters
    [record.currentGeneration, record.stateVersion, nextGeneration, nextVersion]
  let updated ← execute (·.updateTransactions record.isUnchanged next.pointTo)
  if updated ≠ 1 then fail .stateConflict else pure ()

variable (record : StoredGeneration)

/-- The rows that an update of a generation replaces: those that are still what was read. -/
def StoredGeneration.isUnchanged (state : String) (row : StoredGeneration) : Bool :=
  row.transactionId = record.transactionId ∧ row.generation = record.generation ∧
    row.state = state ∧ row.integrityTag = record.integrityTag

/-- The columns that `update_generation_state` sets. -/
def StoredGeneration.moveTo (next row : StoredGeneration) : StoredGeneration :=
  { row with state := next.state, integrityTag := next.integrityTag }

/-- The columns that `update_generation_to_verified` sets. -/
def StoredGeneration.verifyTo (next row : StoredGeneration) : StoredGeneration :=
  { row with
    state := next.state
    desiredStateDigest := next.desiredStateDigest
    graphDigest := next.graphDigest
    provenanceDigest := next.provenanceDigest
    integrityTag := next.integrityTag }

/-- The generation that `update_generation_state` writes. -/
def moved (nextState : TransactionState) : StoredGeneration :=
  StoredGeneration.withTag config.sha256 config.integrityKey
    { record with state := nextState.asStr }

/-- The generation that `update_generation_to_verified` writes. -/
def verified (desiredStateDigest graphDigest provenanceDigest : ContentDigest) : StoredGeneration :=
  StoredGeneration.withTag config.sha256 config.integrityKey
    { record with
      state := TransactionState.verified.asStr
      desiredStateDigest := some desiredStateDigest.value
      graphDigest := some graphDigest.value
      provenanceDigest := some provenanceDigest.value }

/-- `update_generation_state` -/
def updateGenerationState (expectedState nextState : TransactionState) : SqlProgram Unit := do
  if record.state ≠ expectedState.asStr then fail .stateConflict
  else
    let next := moved config record nextState
    asI64Parameters [record.generation]
    let updated ← execute (·.updateGenerations (fun _ _ => true)
      (record.isUnchanged expectedState.asStr) next.moveTo)
    if updated ≠ 1 then fail .stateConflict else pure ()

/-- `update_generation_to_verified` -/
def updateGenerationToVerified (desiredStateDigest graphDigest provenanceDigest : ContentDigest) :
    SqlProgram Unit := do
  if record.state ≠ TransactionState.indeterminate.asStr ∨ record.desiredStateDigest.isSome ∨
      record.graphDigest.isSome ∨ record.provenanceDigest.isSome then
    fail .stateConflict
  else
    let next := verified config record desiredStateDigest graphDigest provenanceDigest
    asI64Parameters [record.generation]
    let updated ← execute (·.updateGenerations commitProvenanceGuard
      (record.isUnchanged TransactionState.indeterminate.asStr) next.verifyTo)
    if updated ≠ 1 then fail .stateConflict else pure ()

def preparedRow (binding : AuthorityBinding config.sha256) (generation : Nat) : StoredGeneration :=
  StoredGeneration.withTag config.sha256 config.integrityKey
    { transactionId := binding.transactionId.value
      generation := generation
      state := TransactionState.prepared.asStr
      bindingDigest := binding.digest.value
      bindingCanonical := binding.canonical
      requestDigest := binding.requestDigest.value
      preconditionDigest := binding.preconditionDigest.value
      observationDigest := binding.observationDigest.value
      desiredStateDigest := none
      graphDigest := none
      provenanceDigest := none
      integrityTag := [] }

/-- `insert_generation` -/
def insertGeneration (binding : AuthorityBinding config.sha256) (generation : Nat) :
    SqlProgram Unit := do
  asI64Parameters [generation]
  let _ ← execute (·.insertGeneration (preparedRow config binding generation))

def nextStateVersion (snapshot : TransactionSnapshot) : SqlProgram Nat :=
  lift (orFail .capacityExceeded (checkedAdd snapshot.stateVersion 1))

/-- `validate_physical_reservations_locked` -/
def validatePhysicalReservationsLocked (openerReleased : Bool) : SqlProgram Unit := do
  let rows ← select (validateReservationRows config)
  onSidecar (config.reserve.validateAndReconcile rows openerReleased)

/-- `reconcile_filesystem_reserve_after_commit` -/
def reconcileFilesystemReserveAfterCommit : StoreProgram Unit :=
  transaction (validatePhysicalReservationsLocked config false)

/-- `enforce_authority_window`, at a time that is absent if the clock is before 1970. -/
def enforceAuthorityWindow (now : Option Nat) (authorizedAtUnixMs expiresAtUnixMs : Nat) :
    Except TransactionStoreError Unit :=
  match now with
  | none => .error .authorityRejected
  | some now =>
    if now < authorizedAtUnixMs ∨ expiresAtUnixMs < now then .error .authorityRejected else .ok ()

/-- Reserve room for events and for finishing: `check_logical_audit_reserve` and
`ensure_audit_reservations`, as every operation runs them. -/
def reserveEvents (additionalEvents : Nat) (nonterminalDelta : Int) (required : Nat) :
    SqlProgram Unit := do
  select fun tables =>
    checkLogicalAuditReserve tables config.limits additionalEvents nonterminalDelta
  ensureAuditReservations config id required

/-- Move a transaction on within its generation: change the generation, then the pointer, and append
the event, as every operation but preparation and re-preparation does. -/
def advance (record : StoredTransaction) (generation nextVersion : Nat)
    (changeGeneration : SqlProgram Unit) (eventKind : String) (payload : ContentDigest) :
    SqlProgram Unit := do
  changeGeneration
  updateTransactionPointer config record generation nextVersion
  appendAudit config id generation nextVersion eventKind payload true

end Helpers

end Linura.Persistence
