import Linura.Persistence.Lifecycle
import Linura.Persistence.Operations

/-!
# The tables of a ledger

A ledger is a list of lifecycles with distinct identities.  This file says which rows a
lifecycle has and when tables represent a ledger, and what the readers of the store find
in such tables: exactly the lifecycle that was written.
-/

namespace Linura.Persistence

open Linura.Lib Linura.Core Linura.Transaction

/-! ### Rows of a history -/

section Rows

variable (config : StoreConfig)

def generationRow (binding : AuthorityBinding config.sha256) (generation : Nat)
    (state : TransactionState) (material : Option CommitMaterial) : StoredGeneration :=
  StoredGeneration.withTag config.sha256 config.integrityKey
    { transactionId := binding.transactionId.value
      generation := generation
      state := state.asStr
      bindingDigest := binding.digest.value
      bindingCanonical := binding.canonical
      requestDigest := binding.requestDigest.value
      preconditionDigest := binding.preconditionDigest.value
      observationDigest := binding.observationDigest.value
      desiredStateDigest := material.map (·.desired.value)
      graphDigest := material.map (·.graph.value)
      provenanceDigest := material.map (·.provenance.value)
      integrityTag := [] }

/-- The digest of an entry at a place in a chain. -/
def entryDigest (id : TransactionId) (sequence : Nat) (previous : ContentDigest)
    (entry : AuditEntry) : ContentDigest :=
  auditDigest config.sha256 id sequence entry.generation entry.stateVersion entry.kind.asStr
    entry.payload previous

/-- The row of an entry at a place in a chain. -/
def entryRow (id : TransactionId) (sequence : Nat) (previous : ContentDigest)
    (entry : AuditEntry) : StoredAuditEvent :=
  auditRow config id sequence entry.generation entry.stateVersion entry.kind.asStr entry.payload
    previous

/-- The chain of a log from a place on. -/
def chainFrom (id : TransactionId) : Nat → ContentDigest → List AuditEntry → List StoredAuditEvent
  | _, _, [] => []
  | sequence, previous, entry :: rest =>
    entryRow config id sequence previous entry ::
      chainFrom id (sequence + 1) (entryDigest config id sequence previous entry) rest

/-- The digest that the event after a log has to repeat. -/
def chainDigest (id : TransactionId) : Nat → ContentDigest → List AuditEntry → ContentDigest
  | _, previous, [] => previous
  | sequence, previous, entry :: rest =>
    chainDigest id (sequence + 1) (entryDigest config id sequence previous entry) rest

namespace History

variable (history : History config.sha256)

/-- The pointer of a transaction. -/
def transactionRow : StoredTransaction :=
  StoredTransaction.withTag config.sha256 config.integrityKey
    { transactionId := history.transactionId.value
      principal := history.principal.value
      requestId := history.requestId.value
      currentGeneration := history.generation
      stateVersion := history.stateVersion
      integrityTag := [] }

def currentRow : StoredGeneration :=
  generationRow config history.binding history.generation history.state history.material

def retiredRows : List StoredGeneration :=
  history.retired.mapIdx fun generation binding =>
    generationRow config binding generation .aborted none

def generationRows : List StoredGeneration :=
  history.retiredRows config ++ [history.currentRow config]

def auditRows : List StoredAuditEvent := chainFrom config history.transactionId 0 .zero history.log

/-- The reservations: one as long as the transaction is not finished. -/
def reservationRows : List AuditReservation :=
  if isNonterminal history.state then [⟨history.transactionId.value, 0, reservationBytes config⟩]
  else []

end History

end Rows

/-! ### Chains -/

section Chains

variable {config : StoreConfig} {id : TransactionId}

variable (sequence : Nat) (previous : ContentDigest) (log : List AuditEntry)

/-- A longer log is chained on from the digest so far. -/
theorem chainFrom_append (more : List AuditEntry) :
    chainFrom config id sequence previous (log ++ more) =
      chainFrom config id sequence previous log ++
        chainFrom config id (sequence + log.length) (chainDigest config id sequence previous log)
          more := by
  induction log generalizing sequence previous with
  | nil => rfl
  | cons entry rest ih =>
    simp only [List.cons_append, chainFrom, chainDigest, ih, List.length_cons]
    rw [Nat.add_right_comm, Nat.add_assoc]

theorem chainDigest_append (more : List AuditEntry) :
    chainDigest config id sequence previous (log ++ more) =
      chainDigest config id (sequence + log.length)
        (chainDigest config id sequence previous log) more := by
  induction log generalizing sequence previous with
  | nil => rfl
  | cons entry rest ih =>
    simp only [List.cons_append, chainDigest, ih, List.length_cons]
    rw [Nat.add_right_comm, Nat.add_assoc]

theorem eventSequence_chainFrom :
    (chainFrom config id sequence previous log).map (·.eventSequence) =
      List.range' sequence log.length := by
  induction log generalizing sequence previous with
  | nil => rfl
  | cons entry rest ih =>
    simp only [chainFrom, List.map_cons, ih, List.length_cons, List.range'_succ]
    rfl

theorem chainFrom_length : (chainFrom config id sequence previous log).length = log.length := by
  have sequences := congrArg List.length (@eventSequence_chainFrom config id sequence previous log)
  simpa using sequences

theorem eventKind_chainFrom :
    (chainFrom config id sequence previous log).map (·.eventKind) =
      log.map fun entry => entry.kind.asStr := by
  induction log generalizing sequence previous with
  | nil => rfl
  | cons entry rest ih =>
    simp only [chainFrom, List.map_cons, ih]
    rfl

theorem transactionId_of_mem_chainFrom {sequence : Nat} {previous : ContentDigest}
    {log : List AuditEntry} {row : StoredAuditEvent}
    (member : row ∈ chainFrom config id sequence previous log) : row.transactionId = id.value := by
  induction log generalizing sequence previous with
  | nil => cases member
  | cons entry rest ih =>
    rcases List.mem_cons.mp member with rfl | later
    · rfl
    · exact ih later

/-- Every row of a chain is the row of an entry. -/
theorem exists_entryRow_of_mem_chainFrom {sequence : Nat} {previous : ContentDigest}
    {log : List AuditEntry} {row : StoredAuditEvent}
    (member : row ∈ chainFrom config id sequence previous log) :
    ∃ sequence previous entry, row = entryRow config id sequence previous entry := by
  induction log generalizing sequence previous with
  | nil => cases member
  | cons entry rest ih =>
    rcases List.mem_cons.mp member with rfl | later
    · exact ⟨_, _, _, rfl⟩
    · exact ih later

end Chains

/-! ### What the readers check of a row -/

section Checks

variable {config : StoreConfig}

variable (id : TransactionId)

theorem isBoundedText_transactionId : isBoundedText maxTransactionIdBytes id.value = true := by
  have bounds := id.utf8ByteSize_bounds
  simp only [isBoundedText, Bool.and_eq_true, decide_eq_true_eq]
  exact bounds

theorem isBoundedText_typedId {label : String} (id : TypedId label) {limit : Nat}
    (large : 256 ≤ limit) : isBoundedText limit id.value = true := by
  have bounds := id.utf8ByteSize_bounds
  simp only [isBoundedText, Bool.and_eq_true, decide_eq_true_eq]
  omega

theorem isBoundedText_state (state : TransactionState) :
    isBoundedText maxStateTextBytes state.asStr = true := by
  cases state <;> decide

theorem hasOptionalDigestLength_map {α : Type} (read : α → ContentDigest) (value : Option α) :
    hasOptionalDigestLength (value.map fun a => (read a).value) = true := by
  cases value with
  | none => rfl
  | some a => exact hasDigestLength_value (read a)

/-- A row with its tag is authentic. -/
theorem authenticateTransaction_withTag (record : StoredTransaction) :
    authenticateTransaction config (record.withTag config.sha256 config.integrityKey) = .ok () := by
  show (if !config.integrityKey.verify config.sha256 "linura.sqlite.transaction-record.v1"
    record.canonical (config.integrityKey.tag config.sha256 "linura.sqlite.transaction-record.v1"
      record.canonical) then _ else _) = _
  rw [SqliteIntegrityKey.verify_tag]
  rfl

theorem authenticateGeneration_withTag (record : StoredGeneration) :
    authenticateGeneration config (record.withTag config.sha256 config.integrityKey) = .ok () := by
  show (if !config.integrityKey.verify config.sha256 "linura.sqlite.generation-record.v1"
    record.canonical (config.integrityKey.tag config.sha256 "linura.sqlite.generation-record.v1"
      record.canonical) then _ else _) = _
  rw [SqliteIntegrityKey.verify_tag]
  rfl

theorem authenticateAudit_withTag (record : StoredAuditEvent) :
    authenticateAudit config (record.withTag config.sha256 config.integrityKey) = .ok () := by
  show (if !config.integrityKey.verify config.sha256 "linura.sqlite.audit-record.v1"
    record.canonical (config.integrityKey.tag config.sha256 "linura.sqlite.audit-record.v1"
      record.canonical) then _ else _) = _
  rw [SqliteIntegrityKey.verify_tag]
  rfl

theorem withinBounds_transactionRow (history : History config.sha256) :
    (history.transactionRow config).withinBounds = true := by
  simp only [StoredTransaction.withinBounds, History.transactionRow, StoredTransaction.withTag,
    transactionTag, SqliteIntegrityKey.tag_length, isBoundedText_transactionId,
    isBoundedText_typedId _ (show 256 ≤ maxPersistedPrincipalBytes by decide),
    isBoundedText_typedId _ (show 256 ≤ maxPersistedRequestIdBytes by decide)]
  rfl

theorem withinBounds_generationRow (binding : AuthorityBinding config.sha256) (generation : Nat)
    (state : TransactionState) (material : Option CommitMaterial) :
    (generationRow config binding generation state material).withinBounds = true := by
  simp only [StoredGeneration.withinBounds, generationRow, StoredGeneration.withTag, generationTag,
    SqliteIntegrityKey.tag_length, isBoundedText_transactionId, isBoundedText_state,
    hasDigestLength_value, hasOptionalDigestLength_map, binding.canonical_length_le, decide_true]
  rfl

theorem withinBounds_entryRow (sequence : Nat) (previous : ContentDigest) (entry : AuditEntry) :
    (entryRow config id sequence previous entry).withinBounds = true := by
  simp only [StoredAuditEvent.withinBounds, entryRow, auditRow, StoredAuditEvent.withTag, auditTag,
    SqliteIntegrityKey.tag_length, isBoundedText_transactionId, EventKind.isBoundedText_asStr,
    hasDigestLength_value]
  rfl

theorem check_generationRow (binding : AuthorityBinding config.sha256) (generation : Nat)
    (state : TransactionState) (material : Option CommitMaterial) :
    (generationRow config binding generation state material).check = true := by
  rw [StoredGeneration.check, withinBounds_generationRow, Bool.true_and, List.contains_iff_mem]
  exact asStr_mem_stateTexts state

/-- The row of an entry is read as it was written. -/
theorem readAuditEvent_entryRow (sequence : Nat) (previous : ContentDigest) (entry : AuditEntry) :
    readAuditEvent config (entryRow config id sequence previous entry) =
      .ok (entryRow config id sequence previous entry) := by
  rw [readAuditEvent, withinBounds_entryRow, entryRow, auditRow, authenticateAudit_withTag]
  rfl

end Checks

/-! ### Tables that represent a ledger -/

/-- The stored identities of a ledger. -/
def ledgerIds {sha256 : Sha256} (ledger : List (Lifecycle sha256)) : List String :=
  ledger.map fun lifecycle => lifecycle.transactionId.value

/-- The tables hold the rows of the lifecycles of a ledger and no others. -/
structure Represents (config : StoreConfig) (tables : Tables)
    (ledger : List (Lifecycle config.sha256)) : Prop where
  nodup : (ledgerIds ledger).Nodup
  transactions : tables.transactions = ledger.map fun lifecycle => lifecycle.transactionRow config
  generations : ∀ lifecycle ∈ ledger,
    tables.generationsOf lifecycle.transactionId.value = lifecycle.generationRows config
  auditEvents : ∀ lifecycle ∈ ledger,
    tables.auditEventsOf lifecycle.transactionId.value = lifecycle.auditRows config
  auditReservations : ∀ lifecycle ∈ ledger,
    tables.auditReservationsOf lifecycle.transactionId.value = lifecycle.reservationRows config
  generations_owned : ∀ row ∈ tables.generations, row.transactionId ∈ ledgerIds ledger
  auditEvents_owned : ∀ row ∈ tables.auditEvents, row.transactionId ∈ ledgerIds ledger
  auditReservations_owned : ∀ row ∈ tables.auditReservations, row.transactionId ∈ ledgerIds ledger

/-- Empty tables represent no transaction. -/
theorem represents_empty (config : StoreConfig) : Represents config .empty [] where
  nodup := List.nodup_nil
  transactions := rfl
  generations := by simp
  auditEvents := by simp
  auditReservations := by simp
  generations_owned := by simp [Tables.empty]
  auditEvents_owned := by simp [Tables.empty]
  auditReservations_owned := by simp [Tables.empty]

section Reading

variable {config : StoreConfig} {tables : Tables} {ledger : List (Lifecycle config.sha256)}
variable {lifecycle : Lifecycle config.sha256}

section Represented

variable (represents : Represents config tables ledger)
include represents

theorem map_transactionId_eq : tables.transactions.map (·.transactionId) = ledgerIds ledger := by
  rw [represents.transactions, List.map_map]
  rfl

/-- A stored transaction is one of the ledger. -/
theorem Represents.exists_lifecycle {row : StoredTransaction} (stored : row ∈ tables.transactions) :
    ∃ lifecycle ∈ ledger, row = lifecycle.transactionRow config := by
  rw [represents.transactions] at stored
  obtain ⟨lifecycle, member, rfl⟩ := List.mem_map.mp stored
  exact ⟨lifecycle, member, rfl⟩

theorem Represents.exists_transaction {id : String}
    (known : id ∈ ledgerIds ledger) : ∃ row ∈ tables.transactions, row.transactionId = id := by
  rw [← map_transactionId_eq represents] at known
  exact List.mem_map.mp known

/-- Lifecycles of a ledger with one identity are one lifecycle. -/
theorem Represents.eq_of_id_eq {lifecycle' : Lifecycle config.sha256} (member : lifecycle ∈ ledger)
    (member' : lifecycle' ∈ ledger)
    (same : lifecycle.transactionId.value = lifecycle'.transactionId.value) :
    lifecycle = lifecycle' :=
  List.inj_on_of_nodup_map represents.nodup member member' same

theorem Represents.nodup_transactions : (tables.transactions.map (·.transactionId)).Nodup := by
  rw [map_transactionId_eq represents]
  exact represents.nodup

theorem Represents.mem_transactions (member : lifecycle ∈ ledger) :
    lifecycle.transactionRow config ∈ tables.transactions := by
  rw [represents.transactions]
  exact List.mem_map_of_mem member

/-- A lifecycle of the ledger is found by its identity. -/
theorem Represents.find?_transaction (member : lifecycle ∈ ledger) :
    (tables.transactions.find? fun row => row.transactionId = lifecycle.transactionId.value) =
      some (lifecycle.transactionRow config) :=
  find?_key represents.nodup_transactions (represents.mem_transactions member)

/-- A transaction of the ledger is loaded. -/
theorem loadTransaction_eq (member : lifecycle ∈ ledger) :
    loadTransaction config tables lifecycle.transactionId =
      .ok (lifecycle.transactionRow config) := by
  rw [loadTransaction, represents.find?_transaction member, orFail, ok_bind,
    withinBounds_transactionRow, History.transactionRow, authenticateTransaction_withTag]
  rfl

/-- Any other is not found. -/
theorem loadTransaction_eq_notFound {id : TransactionId} (absent : id.value ∉ ledgerIds ledger) :
    loadTransaction config tables id = .error .notFound := by
  rw [← map_transactionId_eq represents] at absent
  rw [loadTransaction, find?_key_eq_none absent]
  rfl

end Represented

variable (history : History config.sha256)

theorem generation_retiredRows :
    (history.retiredRows config).map (·.generation) = List.range history.generation := by
  refine List.ext_getElem (by simp [History.retiredRows, History.generation]) fun i _ _ => ?_
  simp [History.retiredRows, generationRow, StoredGeneration.withTag]

/-- Generations are numbered from zero. -/
theorem generation_generationRows :
    (history.generationRows config).map (·.generation) = List.range (history.generation + 1) := by
  rw [History.generationRows, List.map_append, generation_retiredRows, List.range_succ]
  rfl

/-- Among the generations of a lifecycle, a row is found by its number. -/
theorem loadGeneration_eq (represents : Represents config tables ledger)
    (member : lifecycle ∈ ledger) {row : StoredGeneration}
    (stored : row ∈ lifecycle.generationRows config)
    (built : ∃ binding generation state material,
      row = generationRow config binding generation state material) :
    loadGeneration config tables lifecycle.transactionId row.generation = .ok row := by
  have nodup : ((lifecycle.generationRows config).map (·.generation)).Nodup := by
    rw [generation_generationRows]
    exact List.nodup_range
  have small : row.generation ≤ i64Max := by
    have mapped := List.mem_map_of_mem (f := fun r : StoredGeneration => r.generation) stored
    rw [generation_generationRows, List.mem_range] at mapped
    have bound := lifecycle.wellFormed.generation_lt
    simp only [maxTransactionGenerations] at bound
    simp only [i64Max]
    omega
  have found := find?_key nodup stored
  obtain ⟨binding, generation, state, material, rfl⟩ := built
  rw [loadGeneration, asI64, if_pos small, ok_bind, represents.generations lifecycle member, found,
    orFail, ok_bind, withinBounds_generationRow, generationRow, authenticateGeneration_withTag]
  rfl

theorem currentRow_mem : history.currentRow config ∈ history.generationRows config :=
  List.mem_append_right _ (List.mem_singleton_self _)

/-- The current generation is loaded. -/
theorem loadGeneration_current (represents : Represents config tables ledger)
    (member : lifecycle ∈ ledger) :
    loadGeneration config tables lifecycle.transactionId lifecycle.generation =
      .ok (lifecycle.currentRow config) :=
  loadGeneration_eq represents member (currentRow_mem _) ⟨_, _, _, _, rfl⟩

/-- The rows give the snapshot of the lifecycle. -/
theorem snapshotFromRecords_eq (wellFormed : history.WellFormed) :
    snapshotFromRecords config (history.transactionRow config) (history.currentRow config) =
      .ok history.snapshot := by
  have own :=
    wellFormed.bindings history.binding (List.mem_append_right _ (List.mem_singleton_self _))
  have pointed : ¬ ((history.transactionRow config).transactionId ≠
      (history.currentRow config).transactionId ∨
      (history.transactionRow config).currentGeneration ≠
        (history.currentRow config).generation) := by
    simp [History.transactionRow, History.currentRow, generationRow, StoredTransaction.withTag,
      StoredGeneration.withTag, own]
  rw [snapshotFromRecords, if_neg pointed]
  simp only [History.transactionRow, History.currentRow, generationRow, StoredTransaction.withTag,
    StoredGeneration.withTag, TransactionId.new_value, TypedId.new_value, orCorruption_ok, ok_bind,
    TransactionState.parse_asStr, readDigest_value, wellFormed.namespace_eq,
    ne_eq, not_true_eq_false,
    if_false]
  rfl

theorem chainFrom_sorted (id : TransactionId) (sequence : Nat) (previous : ContentDigest)
    (log : List AuditEntry) : (chainFrom config id sequence previous log).Pairwise
      fun row row' => row.eventSequence ≤ row'.eventSequence := by
  rw [← List.pairwise_map (f := fun row : StoredAuditEvent => row.eventSequence) (R := (· ≤ ·)),
    eventSequence_chainFrom]
  exact List.pairwise_le_range' _

variable {id : TransactionId}

/-- The last event of a chain is that of the last entry. -/
theorem loadLastAuditEvent_eq {log before : List AuditEntry} {entry : AuditEntry}
    (chain : tables.auditEventsOf id.value = chainFrom config id 0 .zero log)
    (split : log = before ++ [entry]) :
    loadLastAuditEvent config tables id =
      .ok (some
        (entryRow config id before.length (chainDigest config id 0 .zero before) entry)) := by
  have rows : chainFrom config id 0 .zero log = chainFrom config id 0 .zero before ++
      [entryRow config id before.length (chainDigest config id 0 .zero before) entry] := by
    rw [split, chainFrom_append, Nat.zero_add]
    rfl
  rw [loadLastAuditEvent, chain, lastBy_eq_getLast? (chainFrom_sorted _ _ _ _), rows,
    List.getLast?_concat]
  show some <$> readAuditEvent config _ = _
  rw [readAuditEvent_entryRow]
  rfl

/-- The next event of a chain follows the last one. -/
theorem nextLink_eq {log : List AuditEntry}
    (chain : tables.auditEventsOf id.value = chainFrom config id 0 .zero log)
    (few : log.length ≤ u64Max) :
    nextLink config tables id = .ok (log.length, chainDigest config id 0 .zero log) := by
  rcases List.eq_nil_or_concat log with rfl | ⟨before, entry, rfl⟩
  · rw [nextLink, loadLastAuditEvent, chain]
    rfl
  · rw [List.concat_eq_append, List.length_append, List.length_singleton] at few ⊢
    have next : checkedAdd before.length 1 = some (before.length + 1) :=
      checkedAdd_eq_some.mpr ⟨rfl, few⟩
    rw [nextLink, loadLastAuditEvent_eq chain List.concat_eq_append, ok_bind]
    show (readDigest (entryDigest config id before.length (chainDigest config id 0 .zero before)
      entry).value >>= _) = _
    rw [readDigest_value, ok_bind]
    show (orFail _ (checkedAdd before.length 1) >>= _) = _
    rw [next, orFail, ok_bind, chainDigest_append, Nat.zero_add]
    rfl

/-- Reading a transaction of a ledger gives its lifecycle. -/
theorem loadCurrent_eq (represents : Represents config tables ledger)
    (member : lifecycle ∈ ledger) :
    loadCurrent config tables lifecycle.transactionId =
      .ok (lifecycle.transactionRow config, lifecycle.currentRow config, lifecycle.snapshot) := by
  obtain ⟨before, entry, split, generation, version, state, -⟩ := lifecycle.wellFormed.tail
  have current : (lifecycle.transactionRow config).currentGeneration = lifecycle.generation := rfl
  have agrees : ¬ (entry.generation ≠ lifecycle.snapshot.currentGeneration ∨
      entry.stateVersion ≠ lifecycle.snapshot.stateVersion) := by
    rintro (differs | differs)
    · exact differs generation
    · exact differs version
  have sameState : ¬ entry.kind.state ≠ lifecycle.snapshot.state := not_not_intro state
  rw [loadCurrent, loadTransaction_eq represents member, ok_bind, current,
    loadGeneration_current represents member, ok_bind,
    snapshotFromRecords_eq lifecycle.toHistory lifecycle.wellFormed, ok_bind,
    loadLastAuditEvent_eq (represents.auditEvents lifecycle member) split, ok_bind, orFail, ok_bind]
  refine (if_neg agrees).trans ?_
  show (stateForEventKind config entry.kind.asStr >>= _) = _
  rw [EventKind.stateForEventKind_asStr, ok_bind, if_neg sameState]
  rfl

theorem loadCurrent_eq_notFound (represents : Represents config tables ledger)
    (absent : id.value ∉ ledgerIds ledger) : loadCurrent config tables id = .error .notFound := by
  rw [loadCurrent, loadTransaction_eq_notFound represents absent, error_bind]

end Reading

end Linura.Persistence
