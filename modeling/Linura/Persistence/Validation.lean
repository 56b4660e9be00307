import Linura.Lib.Except
import Linura.Persistence.Records

/-!
# Reading and validating the tables

The readers of the store, which authenticate every row they return, and the
validators that `integrity_check` runs: each re-derives from the rows alone what
the writers should have maintained.
-/

namespace Linura.Persistence

open Linura.Lib Linura.Core Linura.Transaction

/-- Report a refused value as corruption of the database. -/
def orCorruption {ε α : Type} (display : ε → String) (result : Except ε α) :
    Except TransactionStoreError α :=
  result.mapError fun reason => .corruption (display reason)

@[simp]
theorem orCorruption_ok {ε α : Type} (display : ε → String) (value : α) :
    orCorruption display (.ok value) = .ok value := rfl

def readDigest (value : String) : Except TransactionStoreError ContentDigest :=
  orCorruption TransactionValidationError.display (ContentDigest.new value)

/-- `as_i64` -/
def asI64 (value : Nat) : Except TransactionStoreError Nat :=
  if value ≤ i64Max then .ok value else .error .capacityExceeded

/-- The value of an option, or a failure. -/
def orFail {ε α : Type} (reason : ε) : Option α → Except ε α
  | some value => .ok value
  | none => .error reason

theorem orFail_eq_ok {ε α : Type} {reason : ε} {value : Option α} {result : α} :
    orFail reason value = .ok result ↔ value = some result := by
  cases value with
  | none | some => simp [orFail]

@[simp]
theorem readDigest_value (digest : ContentDigest) : readDigest digest.value = .ok digest := by
  rw [readDigest, ContentDigest.new_value, orCorruption_ok]

/-! ### Authenticated rows -/

section Load

variable (config : StoreConfig)

/-- `authenticate_transaction` -/
def authenticateTransaction (record : StoredTransaction) : Except TransactionStoreError Unit :=
  if !config.integrityKey.verify config.sha256 "linura.sqlite.transaction-record.v1"
      record.canonical record.integrityTag then
    .error (.corruption "transaction record integrity tag mismatch")
  else .ok ()

/-- `authenticate_generation` -/
def authenticateGeneration (record : StoredGeneration) : Except TransactionStoreError Unit :=
  if !config.integrityKey.verify config.sha256 "linura.sqlite.generation-record.v1"
      record.canonical record.integrityTag then
    .error (.corruption "generation record integrity tag mismatch")
  else .ok ()

/-- `authenticate_audit` -/
def authenticateAudit (record : StoredAuditEvent) : Except TransactionStoreError Unit :=
  if !config.integrityKey.verify config.sha256 "linura.sqlite.audit-record.v1"
      record.canonical record.integrityTag then
    .error (.corruption "audit record integrity tag mismatch")
  else .ok ()

variable (tables : Tables) (id : TransactionId)

/-- `load_transaction` -/
def loadTransaction : Except TransactionStoreError StoredTransaction := do
  let row ← orFail .notFound (tables.transactions.find? fun row => row.transactionId = id.value)
  if !row.withinBounds then throw (.corruption "transaction record exceeds persisted byte bounds")
  authenticateTransaction config row
  return row

/-- `load_generation` -/
def loadGeneration (generation : Nat) : Except TransactionStoreError StoredGeneration := do
  let generation ← asI64 generation
  let row ← orFail .notFound
    ((tables.generationsOf id.value).find? fun row => row.generation = generation)
  if !row.withinBounds then throw (.corruption "generation record exceeds persisted byte bounds")
  authenticateGeneration config row
  return row

/-- What `bounded_audit_query` does with each row. -/
def readAuditEvent (row : StoredAuditEvent) : Except TransactionStoreError StoredAuditEvent := do
  if !row.withinBounds then throw (.corruption "audit record exceeds persisted byte bounds")
  authenticateAudit config row
  return row

/-- `load_last_audit_event` -/
def loadLastAuditEvent : Except TransactionStoreError (Option StoredAuditEvent) :=
  (lastBy (·.eventSequence) (tables.auditEventsOf id.value)).mapM (readAuditEvent config)

/-- `load_all_audit_events` -/
def loadAllAuditEvents : Except TransactionStoreError (List StoredAuditEvent) :=
  (orderBy (·.eventSequence) (tables.auditEventsOf id.value)).mapM (readAuditEvent config)

/-- `state_for_event_kind` -/
def stateForEventKind (kind : String) : Except TransactionStoreError TransactionState :=
  match kind with
  | "prepared" | "recovery-reprepared" => .ok .prepared
  | "handoff-indeterminate" | "recovery-ambiguous" => .ok .indeterminate
  | "recovery-verified" => .ok .verified
  | "committed" => .ok .committed
  | "aborted-prepared" | "recovery-retired-no-effect" => .ok .aborted
  | "recovery-blocked" => .ok .recoveryBlocked
  | _ => .error (.corruption ("unknown audit event kind " ++ config.debugText kind))

/-- `snapshot_from_records` -/
def snapshotFromRecords (transaction : StoredTransaction) (generation : StoredGeneration) :
    Except TransactionStoreError TransactionSnapshot := do
  if transaction.transactionId ≠ generation.transactionId ∨
      transaction.currentGeneration ≠ generation.generation then
    throw (.corruption "transaction pointer does not identify the authenticated generation")
  let transactionId ← orCorruption TransactionValidationError.display
    (TransactionId.new transaction.transactionId)
  let principal ← orCorruption ValidationError.display
    (TypedId.new "principal id" transaction.principal)
  let requestId ← orCorruption ValidationError.display
    (TypedId.new "request id" transaction.requestId)
  if TransactionId.forNamespace config.sha256 principal requestId ≠ transactionId then
    throw (.corruption "transaction identity does not match principal/request namespace")
  let state ← orCorruption TransactionValidationError.display
    (TransactionState.parse generation.state)
  let bindingDigest ← readDigest generation.bindingDigest
  return {
    transactionId := transactionId
    principal := principal
    requestId := requestId
    currentGeneration := transaction.currentGeneration
    stateVersion := transaction.stateVersion
    state := state
    bindingDigest := bindingDigest }

/-- `load_current` -/
def loadCurrent :
    Except TransactionStoreError (StoredTransaction × StoredGeneration × TransactionSnapshot) := do
  let transaction ← loadTransaction config tables id
  let generation ← loadGeneration config tables id transaction.currentGeneration
  let snapshot ← snapshotFromRecords config transaction generation
  let tail ← loadLastAuditEvent config tables id
  let tail ← orFail (.corruption "transaction has no authenticated audit history") tail
  -- The three disagreements are tried in turn, and only the last one reads the event kind.
  if tail.generation ≠ snapshot.currentGeneration ∨ tail.stateVersion ≠ snapshot.stateVersion then
    throw (.corruption "authenticated audit tail disagrees with current transaction state")
  let state ← stateForEventKind config tail.eventKind
  if state ≠ snapshot.state then
    throw (.corruption "authenticated audit tail disagrees with current transaction state")
  return (transaction, generation, snapshot)

end Load

/-! ### History of a transaction -/

section Histories

variable (config : StoreConfig)

/-- The digest that `AuthorityBinding` gives to its canonical bytes. -/
def bindingDigestOf (canonical : Bytes) : ContentDigest :=
  digestBytes config.sha256 "linura.authority-binding.digest.v1" canonical

/-- What `validate_generation_history` checks of the digests kept for a commit. -/
def validateCommitMaterial (state : TransactionState) (material : List (Option String)) :
    Except TransactionStoreError Unit :=
  if state = .verified ∨ state = .committed then
    if material.any Option.isNone then
      .error (.corruption "verified/committed generation is missing durable commit material")
    else material.reduceOption.forM fun value => discard (readDigest value)
  else if material.any Option.isSome then
    .error (.corruption "non-verified generation contains durable commit material")
  else .ok ()

variable (tables : Tables) (id : TransactionId) (currentGeneration : Nat)

/-- One round of the loop of `validate_generation_history`. -/
def validateGeneration (expected : Nat) : Except TransactionStoreError Unit := do
  let record ← match loadGeneration config tables id expected with
    | .ok record => .ok record
    | .error .notFound => .error (.corruption "retained generation history is not contiguous")
    | .error reason => .error reason
  let state ← orCorruption TransactionValidationError.display (TransactionState.parse record.state)
  let bindingDigest ← readDigest record.bindingDigest
  let _ ← readDigest record.requestDigest
  let _ ← readDigest record.preconditionDigest
  let _ ← readDigest record.observationDigest
  if bindingDigestOf config record.bindingCanonical ≠ bindingDigest then
    throw (.corruption "stored authority binding digest mismatch")
  validateCommitMaterial state
    [record.desiredStateDigest, record.graphDigest, record.provenanceDigest]
  if expected < currentGeneration ∧ state ≠ .aborted then
    throw (.corruption "historical generation is not safely retired")

/-- `validate_generation_history` -/
def validateGenerationHistory : Except TransactionStoreError Unit := do
  if maxTransactionGenerations ≤ currentGeneration then
    throw (.corruption "current generation exceeds domain bound")
  let expectedRows ← orFail .capacityExceeded (checkedAdd currentGeneration 1)
  if config.limits.maxGenerations < expectedRows then throw .capacityExceeded
  if (tables.generationsOf id.value).length ≠ expectedRows then
    throw (.corruption "retained generation row count disagrees with authenticated current pointer")
  (List.range (currentGeneration + 1)).forM (validateGeneration config tables id currentGeneration)

/-- `audit_digest` -/
def auditDigest (sha256 : Sha256) (id : TransactionId) (sequence generation stateVersion : Nat)
    (eventKind : String) (payloadDigest previousDigest : ContentDigest) : ContentDigest :=
  digestParts sha256 "linura.sqlite.audit-event.v1"
    [asBytes id.value, asBytes (toString sequence), asBytes (toString generation),
      asBytes (toString stateVersion), asBytes eventKind, asBytes payloadDigest.value,
      asBytes previousDigest.value]

/-- `digest_parts("linura.sqlite.commit-payload.v1", …)` -/
def commitPayload (sha256 : Sha256) (desired graph provenance : ContentDigest) : ContentDigest :=
  digestParts sha256 "linura.sqlite.commit-payload.v1"
    [asBytes desired.value, asBytes graph.value, asBytes provenance.value]

/-- The last event that a walk along an audit chain has seen. -/
structure AuditTail where
  generation : Nat
  stateVersion : Nat
  eventKind : String
  payload : ContentDigest

/-- How far a walk along an audit chain has come. -/
structure ChainWalk where
  expectedSequence : Nat
  previous : ContentDigest
  last : Option AuditTail

/-- One round of the loop of `validate_audit_chain`. -/
def validateAuditEvent (walk : ChainWalk) (event : StoredAuditEvent) :
    Except TransactionStoreError ChainWalk := do
  if event.eventSequence ≠ walk.expectedSequence then
    throw (.corruption "audit sequence is not contiguous")
  let payload ← readDigest event.payloadDigest
  let storedPrevious ← readDigest event.previousDigest
  let storedDigest ← readDigest event.eventDigest
  if storedPrevious ≠ walk.previous then
    throw (.corruption "audit previous-digest chain is broken")
  if auditDigest config.sha256 id event.eventSequence event.generation event.stateVersion
      event.eventKind payload walk.previous ≠ storedDigest then
    throw (.corruption "audit event digest mismatch")
  let expectedSequence ← orFail .capacityExceeded (checkedAdd walk.expectedSequence 1)
  if config.limits.maxAuditEvents < expectedSequence then throw .capacityExceeded
  return ⟨expectedSequence, storedDigest,
    some ⟨event.generation, event.stateVersion, event.eventKind, payload⟩⟩

/-- What `validate_audit_chain` checks of a committed transaction. -/
def validateCommitPayload (generation : StoredGeneration) (payload : ContentDigest) :
    Except TransactionStoreError Unit := do
  let desired ← orFail (.corruption "committed desired-state digest missing")
    generation.desiredStateDigest
  let desired ← readDigest desired
  let graph ← orFail (.corruption "committed graph digest missing") generation.graphDigest
  let graph ← readDigest graph
  let provenance ← orFail (.corruption "committed provenance digest missing")
    generation.provenanceDigest
  let provenance ← readDigest provenance
  if payload ≠ commitPayload config.sha256 desired graph provenance then
    throw (.corruption "committed provenance digests disagree with audit payload")

/-- `validate_audit_chain` -/
def validateAuditChain (stateVersion : Nat) : Except TransactionStoreError Unit := do
  let events ← loadAllAuditEvents config tables id
  let walk ← events.foldlM (validateAuditEvent config id) ⟨0, .zero, none⟩
  let last ← orFail (.corruption "transaction has no audit history") walk.last
  if last.generation ≠ currentGeneration ∨ last.stateVersion ≠ stateVersion then
    throw (.corruption "transaction pointer/version disagrees with authenticated audit tail")
  let (_, generation, snapshot) ← loadCurrent config tables id
  let state ← stateForEventKind config last.eventKind
  if state ≠ snapshot.state then
    throw (.corruption "current transaction state disagrees with authenticated audit tail")
  if snapshot.state = .committed then validateCommitPayload config generation last.payload

end Histories

/-! ### Capacities -/

/-- The tables whose row counts are bounded. -/
inductive CapacityTable
  | transactions
  | generations
  | auditEvents
  deriving DecidableEq

variable (tables : Tables)

/-- `SELECT COUNT(*)` of a table. -/
def Tables.count : CapacityTable → Nat
  | .transactions => tables.transactions.length
  | .generations => tables.generations.length
  | .auditEvents => tables.auditEvents.length

/-- The state text of a transaction that is not finished. -/
def isNonterminalText (state : String) : Bool :=
  ["prepared", "indeterminate", "verified"].contains state

/-- The number of transactions joined with a current generation in a nonterminal state. -/
def Tables.nonterminalCount : Nat :=
  (tables.transactions.flatMap fun t => tables.generations.filter fun g =>
    g.transactionId = t.transactionId ∧ g.generation = t.currentGeneration ∧
      isNonterminalText g.state).length

/-- `check_count_capacity` -/
def checkCountCapacity (table : CapacityTable) (maximum additional : Nat) :
    Except TransactionStoreError Unit :=
  if maximum < saturatingAdd (tables.count table) additional then .error .capacityExceeded
  else .ok ()

/-- `validate_aggregate_capacity` -/
def validateAggregateCapacity (table : CapacityTable) (maximum : Nat) :
    Except TransactionStoreError Unit :=
  if maximum < tables.count table then .error .capacityExceeded else .ok ()

/-- `check_logical_audit_reserve` -/
def checkLogicalAuditReserve (limits : StoreLimits) (additionalEvents : Nat)
    (nonterminalDelta : Int) : Except TransactionStoreError Unit := do
  let resultingNonterminal ←
    if 0 ≤ nonterminalDelta then
      orFail .capacityExceeded (checkedAdd tables.nonterminalCount nonterminalDelta.toNat)
    else
      orFail (.corruption "nonterminal reserve underflow")
        (checkedSub tables.nonterminalCount nonterminalDelta.natAbs)
  let required ← orFail .capacityExceeded
    ((checkedAdd tables.auditEvents.length additionalEvents).bind
      (checkedAdd · resultingNonterminal))
  if limits.maxAuditEvents < required then throw .capacityExceeded

/-- `validate_logical_audit_reserve` -/
def validateLogicalAuditReserve (limits : StoreLimits) : Except TransactionStoreError Unit := do
  let required ← orFail .capacityExceeded
    (checkedAdd tables.auditEvents.length tables.nonterminalCount)
  if limits.maxAuditEvents < required then throw .capacityExceeded

/-! ### Reservations -/

section Reservations

variable (config : StoreConfig)

/-- `reservation_bytes`; the page size is far too small for the product to overflow. -/
def reservationBytes : Nat := config.pageSize * 2

variable (tables : Tables)

/-- `list_transaction_ids` -/
def listTransactionIds : Except TransactionStoreError (List TransactionId) :=
  (orderBy (·.transactionId) tables.transactions).mapM fun row => do
    if !isBoundedText maxTransactionIdBytes row.transactionId then
      throw (.corruption "transaction id exceeds persisted byte bound")
    orCorruption TransactionValidationError.display (TransactionId.new row.transactionId)

/-- The number of reservations of a transaction, if their slots are `0, 1, …` and each has the
right length. -/
def countReservations (id : TransactionId) : Except TransactionStoreError Nat :=
  (orderBy (·.slot) (tables.auditReservationsOf id.value)).foldlM
    (fun count row =>
      if row.slot ≠ count ∨ row.reservedLength ≠ reservationBytes config then
        .error (.corruption "physical audit reservation is malformed")
      else orFail .capacityExceeded (checkedAdd count 1)) 0

/-- The states of a transaction that is not finished. -/
def isNonterminal (state : TransactionState) : Bool :=
  state = .prepared || state = .indeterminate || state = .verified

/-- One round of the loop of `validate_physical_reservations_locked`. -/
def validateReservationsOf (expectedTotal : Nat) (id : TransactionId) :
    Except TransactionStoreError Nat := do
  let (_, _, snapshot) ← loadCurrent config tables id
  let expected := (isNonterminal snapshot.state).toNat
  let expectedTotal ← orFail .capacityExceeded (checkedAdd expectedTotal expected)
  let count ← countReservations config tables id
  if count ≠ expected then
    throw (.corruption "physical audit reservation count disagrees with current state")
  return expectedTotal

/-- The part of `validate_physical_reservations_locked` that reads the tables.  It returns the
number of reservations, which the file beside the database has to match. -/
def validateReservationRows : Except TransactionStoreError Nat := do
  let ids ← listTransactionIds tables
  let expectedTotal ← ids.foldlM (validateReservationsOf config tables) 0
  if tables.auditReservations.length ≠ expectedTotal then
    throw (.corruption "aggregate physical audit reservation count mismatch")
  return tables.auditReservations.length

/-- `PRAGMA foreign_key_check`: every row belongs to a transaction. -/
def foreignKeyCheck : Except TransactionStoreError Unit :=
  let parent (id : String) : Bool := tables.transactions.any fun row => row.transactionId = id
  if tables.generations.all (fun row => parent row.transactionId) &&
      tables.auditEvents.all (fun row => parent row.transactionId) &&
      tables.auditReservations.all (fun row => parent row.transactionId) then .ok ()
  else .error (.corruption "SQLite foreign_key_check reported violations")

/-- What `integrity_check` runs for each transaction. -/
def validateTransaction (id : TransactionId) : Except TransactionStoreError Unit := do
  let (transaction, _, _) ← loadCurrent config tables id
  validateGenerationHistory config tables id transaction.currentGeneration
  validateAuditChain config tables id transaction.currentGeneration transaction.stateVersion

/-- The part of `integrity_check` that reads the tables; the settings and the schema, which no
operation changes, are left out. -/
def validateTables : Except TransactionStoreError Nat := do
  validateAggregateCapacity tables .transactions config.limits.maxTransactions
  validateAggregateCapacity tables .generations config.limits.maxGenerations
  validateAggregateCapacity tables .auditEvents config.limits.maxAuditEvents
  validateLogicalAuditReserve tables config.limits
  foreignKeyCheck tables
  let ids ← listTransactionIds tables
  ids.forM (validateTransaction config tables)
  validateReservationRows config tables

end Reservations

end Linura.Persistence
