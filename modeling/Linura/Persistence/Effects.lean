import Linura.Persistence.Operations

/-!
# What the statements of the store do to the tables

A program inside a SQLite transaction that returns, whatever faults the file met, has
changed the tables in a way that depends on the tables only.  This file says how, for each
helper of the store's operations.
-/

namespace Linura.Persistence

open Linura.Lib Linura.Core Linura.Transaction

variable {α β : Type} {tables tables' : Tables}

/-- Some run of a program on these tables, with some file and some faults, returns `value` and
leaves `tables'`. -/
def Yields (program : SqlProgram α) (tables : Tables) (value : α) (tables' : Tables) : Prop :=
  ∃ sidecar sidecar', program.Returns ⟨tables, sidecar⟩ value ⟨tables', sidecar'⟩

namespace Yields

variable {value : α} {result : β}

variable {next : α → SqlProgram β}

/-- A sequence yields what its parts do. -/
theorem bind {program : SqlProgram α} (yields : Yields (program >>= next) tables result tables') :
    ∃ value between, Yields program tables value between ∧
      Yields (next value) between result tables' := by
  obtain ⟨sidecar, sidecar', ended⟩ := yields
  obtain ⟨value, between, first, second⟩ := ended.bind
  exact ⟨value, between.tables, ⟨_, _, first⟩, ⟨_, _, second⟩⟩

theorem pure {value' : α} (yields : Yields (Pure.pure value) tables value' tables') :
    value = value' ∧ tables = tables' := by
  obtain ⟨sidecar, sidecar', ended⟩ := yields
  obtain ⟨rfl, same⟩ := ended.pure
  exact ⟨rfl, congrArg Workspace.tables same⟩

theorem not_fail {reason : TransactionStoreError}
    (yields : Yields (Program.fail reason) tables value tables') : False := by
  obtain ⟨sidecar, sidecar', ended⟩ := yields
  exact ended.not_fail

theorem query {compute : Workspace → Except TransactionStoreError α}
    (yields : Yields (Program.query compute) tables value tables') :
    (∃ sidecar, compute ⟨tables, sidecar⟩ = .ok value) ∧ tables = tables' := by
  obtain ⟨sidecar, sidecar', ended⟩ := yields
  obtain ⟨computed, same⟩ := ended.query
  exact ⟨⟨sidecar, computed⟩, congrArg Workspace.tables same⟩

theorem select {read : Tables → Except TransactionStoreError α}
    (yields : Yields (Persistence.select read) tables value tables') :
    read tables = .ok value ∧ tables = tables' := by
  obtain ⟨⟨_, computed⟩, same⟩ := query yields
  exact ⟨computed, same⟩

theorem lift {computed : Except TransactionStoreError α}
    (yields : Yields (Program.lift computed) tables value tables') :
    computed = .ok value ∧ tables = tables' := by
  obtain ⟨⟨_, computed⟩, same⟩ := query yields
  exact ⟨computed, same⟩

/-- A program that starts with a query goes on with its answer. -/
theorem bind_select {read : Tables → Except TransactionStoreError α}
    (yields : Yields (Persistence.select read >>= next) tables result tables') :
    ∃ value, read tables = .ok value ∧ Yields (next value) tables result tables' := by
  obtain ⟨value, _, first, yields⟩ := yields.bind
  obtain ⟨computed, rfl⟩ := select first
  exact ⟨value, computed, yields⟩

theorem bind_lift {computed : Except TransactionStoreError α}
    (yields : Yields (Program.lift computed >>= next) tables result tables') :
    ∃ value, computed = .ok value ∧ Yields (next value) tables result tables' := by
  obtain ⟨value, _, first, yields⟩ := yields.bind
  obtain ⟨computed, rfl⟩ := lift first
  exact ⟨value, computed, yields⟩

theorem execute {statement : Tables → Except TransactionStoreError (Nat × Tables)} {changed : Nat}
    (yields : Yields (Persistence.execute statement) tables changed tables') :
    statement tables = .ok (changed, tables') := by
  obtain ⟨⟨changed', next⟩, between, selected, yields⟩ := bind yields
  obtain ⟨computed, rfl⟩ := select selected
  obtain ⟨_, after, updated, returned⟩ := bind yields
  obtain ⟨rfl, rfl⟩ := pure returned
  obtain ⟨sidecar, sidecar', ended⟩ := updated
  have same : next = after := congrArg Workspace.tables ended.effect
  rw [computed, same]

/-- A program that leaves the tables yields the same ones. -/
theorem leaves {program : SqlProgram α} (yields : Yields program tables value tables')
    (leaves : program.Leaves Workspace.tables) : tables = tables' := by
  obtain ⟨sidecar, sidecar', ended⟩ := yields
  exact (ended.leaves leaves).symm

theorem onSidecar {ε : Type} {f : ε → TransactionStoreError}
    {program : Program (Option SparseFile) ε α}
    (yields : Yields ((Persistence.onSidecar program).mapError f) tables value tables') :
    tables = tables' :=
  yields.leaves (Program.Leaves.mapError (Program.Leaves.zoom fun _ _ => rfl))

/-- Converting parameters changes no table. -/
theorem bind_asI64Parameters {values : List Nat} {next : Unit → SqlProgram β}
    (yields : Yields (Persistence.asI64Parameters values >>= next) tables result tables') :
    Yields (next ()) tables result tables' := by
  obtain ⟨_, -, yields⟩ := bind_lift yields
  exact yields

variable {statement : Tables → Except TransactionStoreError (Nat × Tables)} {values : List Nat}

/-- A statement with its parameters changes the tables as the statement does. -/
theorem inserts {value : Unit}
    (yields : Yields (do
      Persistence.asI64Parameters values
      let _ ← Persistence.execute statement) tables value tables') :
    ∃ changed, statement tables = .ok (changed, tables') := by
  obtain ⟨changed, _, executed, yields⟩ := (bind_asI64Parameters yields).bind
  obtain ⟨-, rfl⟩ := yields.pure
  exact ⟨changed, executed.execute⟩

/-- So does one that has to find its row. -/
theorem updates {value : Unit}
    (yields : Yields (do
      Persistence.asI64Parameters values
      let updated ← Persistence.execute statement
      if updated ≠ 1 then Program.fail .stateConflict else Pure.pure ()) tables value tables') :
    ∃ changed, statement tables = .ok (changed, tables') := by
  obtain ⟨changed, _, executed, yields⟩ := (bind_asI64Parameters yields).bind
  split at yields
  · exact yields.not_fail.elim
  · obtain ⟨-, rfl⟩ := yields.pure
    exact ⟨changed, executed.execute⟩

end Yields

/-! ### Inserted rows -/

section Inserts

variable {changed : Nat}

theorem insertTransaction_eq_ok {row : StoredTransaction}
    (inserted : tables.insertTransaction row = .ok (changed, tables')) :
    tables' = { tables with transactions := tables.transactions ++ [row] } := by
  unfold Tables.insertTransaction at inserted
  split_ifs at inserted
  cases inserted
  rfl

theorem insertGeneration_eq_ok {row : StoredGeneration}
    (inserted : tables.insertGeneration row = .ok (changed, tables')) :
    tables' = { tables with generations := tables.generations ++ [row] } := by
  unfold Tables.insertGeneration at inserted
  split_ifs at inserted
  cases inserted
  rfl

theorem insertAuditEvent_eq_ok {row : StoredAuditEvent}
    (inserted : tables.insertAuditEvent row = .ok (changed, tables')) :
    tables' = { tables with auditEvents := tables.auditEvents ++ [row] } := by
  unfold Tables.insertAuditEvent at inserted
  split_ifs at inserted
  cases inserted
  rfl

theorem insertReservation_eq_ok {row : AuditReservation}
    (inserted : tables.insertReservation row = .ok (changed, tables')) :
    tables' = { tables with auditReservations := tables.auditReservations ++ [row] } := by
  unfold Tables.insertReservation at inserted
  split_ifs at inserted
  cases inserted
  rfl

theorem updateTransactions_eq_ok {condition : StoredTransaction → Bool}
    {change : StoredTransaction → StoredTransaction}
    (updated : tables.updateTransactions condition change = .ok (changed, tables')) :
    tables' = { tables with transactions := updateRows condition change tables.transactions } := by
  unfold Tables.updateTransactions at updated
  split_ifs at updated
  cases updated
  rfl

theorem updateGenerations_eq_ok {guard : StoredGeneration → StoredGeneration → Bool}
    {condition : StoredGeneration → Bool} {change : StoredGeneration → StoredGeneration}
    (updated : tables.updateGenerations guard condition change = .ok (changed, tables')) :
    tables' = { tables with generations := updateRows condition change tables.generations } := by
  unfold Tables.updateGenerations at updated
  split_ifs at updated
  cases updated
  rfl

end Inserts

/-! ### Reservations -/

section Helpers

variable {config : StoreConfig} {id : TransactionId} {value : Unit}

def slotRow (config : StoreConfig) (id : TransactionId) (slot : Nat) : AuditReservation :=
  ⟨id.value, slot, reservationBytes config⟩

theorem Yields.insertReservationRow {slot : Nat}
    (yields : Yields (Persistence.insertReservationRow config id slot) tables value tables') :
    tables' = { tables with
      auditReservations := tables.auditReservations ++ [slotRow config id slot] } := by
  obtain ⟨count, -, yields⟩ := (Yields.bind_asI64Parameters yields).bind_select
  obtain ⟨code, _, grown, yields⟩ := yields.bind
  obtain rfl := grown.onSidecar
  split at yields
  · obtain ⟨changed, _, inserted, yields⟩ := yields.bind
    obtain ⟨-, rfl⟩ := yields.pure
    exact insertReservation_eq_ok inserted.execute
  · split at yields
    · exact yields.not_fail.elim
    · exact yields.not_fail.elim

theorem Yields.insertReservationRows {slots : List Nat}
    (yields : Yields (slots.forM (Persistence.insertReservationRow config id))
      tables value tables') :
    tables' = { tables with
      auditReservations := tables.auditReservations ++ slots.map (slotRow config id) } := by
  induction slots generalizing tables with
  | nil =>
    obtain ⟨-, rfl⟩ := Yields.pure yields
    simp
  | cons slot rest ih =>
    obtain ⟨_, between, first, yields⟩ := Yields.bind yields
    rw [ih yields, first.insertReservationRow]
    simp

/-- The missing reservations are inserted. -/
theorem Yields.ensureAuditReservations {required : Nat}
    (yields : Yields (Persistence.ensureAuditReservations config id required)
      tables value tables') :
    ∃ existing, countReservations config tables id = .ok existing ∧ existing ≤ required ∧
      tables' = { tables with auditReservations := tables.auditReservations ++
        (List.range' existing (required - existing)).map (slotRow config id) } := by
  obtain ⟨existing, counted, yields⟩ := yields.bind_select
  split at yields
  · exact yields.not_fail.elim
  · rename_i enough
    exact ⟨existing, counted, Nat.not_lt.mp enough, yields.insertReservationRows⟩

def withoutSlot (tables : Tables) (id : TransactionId) (slot : Nat) : Tables :=
  { tables with
    auditReservations := tables.auditReservations.filter fun row => !row.isSlot id slot }

/-- The last reservation is deleted. -/
theorem Yields.consumeAuditReservation
    (yields : Yields (Persistence.consumeAuditReservation config id) tables value tables') :
    ∃ row, lastBy (·.slot) (tables.auditReservationsOf id.value) = some row ∧
      tables' = withoutSlot tables id row.slot := by
  obtain ⟨row, selected, yields⟩ := yields.bind_select
  refine ⟨row, orFail_eq_ok.mp selected, ?_⟩
  split at yields
  · exact yields.not_fail.elim
  · obtain ⟨deleted, _, executed, yields⟩ := yields.bind
    have removed := executed.execute
    split at yields
    · exact yields.not_fail.elim
    · obtain ⟨-, rfl⟩ := yields.pure
      cases removed
      rfl

/-! ### Audit events -/

/-- An event is chained to the last one. -/
theorem Yields.appendAudit {generation stateVersion : Nat} {eventKind : String}
    {payload : ContentDigest} {consume : Bool}
    (yields : Yields (Persistence.appendAudit config id generation stateVersion eventKind payload
      consume) tables value tables') :
    ∃ sequence previous between, nextLink config tables id = .ok (sequence, previous) ∧
      (if consume then ∃ row, lastBy (·.slot) (tables.auditReservationsOf id.value) = some row ∧
        between = withoutSlot tables id row.slot else between = tables) ∧
      tables' = { between with auditEvents := between.auditEvents ++
        [auditRow config id sequence generation stateVersion eventKind payload previous] } := by
  unfold Persistence.appendAudit at yields
  split at yields
  · exact yields.not_fail.elim
  · obtain ⟨_, -, yields⟩ := yields.bind_select
    obtain ⟨⟨sequence, previous⟩, linked, yields⟩ := yields.bind_select
    refine ⟨sequence, previous, ?_⟩
    cases consume with
    | true =>
      obtain ⟨_, between, consumed, yields⟩ := yields.bind
      obtain ⟨_, inserted⟩ := Yields.inserts yields
      exact ⟨between, linked, consumed.consumeAuditReservation, insertAuditEvent_eq_ok inserted⟩
    | false =>
      obtain ⟨_, inserted⟩ := Yields.inserts yields
      exact ⟨tables, linked, rfl, insertAuditEvent_eq_ok inserted⟩

/-! ### Updates -/

/-- The pointer moves from the expected row. -/
theorem Yields.updateTransactionPointer {record : StoredTransaction}
    {nextGeneration nextVersion : Nat}
    (yields : Yields (Persistence.updateTransactionPointer config record nextGeneration nextVersion)
      tables value tables') :
    tables' = { tables with
      transactions := updateRows record.isUnchanged
        (repointed config record nextGeneration nextVersion).pointTo tables.transactions } := by
  obtain ⟨_, updated⟩ := Yields.updates yields
  exact updateTransactions_eq_ok updated

theorem Yields.updateGenerationState {record : StoredGeneration}
    {expectedState nextState : TransactionState}
    (yields : Yields
      (Persistence.updateGenerationState config record expectedState nextState) tables
      value tables') :
    tables' = { tables with
      generations := updateRows (record.isUnchanged expectedState.asStr)
        (moved config record nextState).moveTo tables.generations } := by
  unfold Persistence.updateGenerationState at yields
  split at yields
  · exact yields.not_fail.elim
  · obtain ⟨_, updated⟩ := Yields.updates yields
    exact updateGenerations_eq_ok updated

theorem Yields.updateGenerationToVerified {record : StoredGeneration}
    {desired graph provenance : ContentDigest}
    (yields : Yields (Persistence.updateGenerationToVerified config record desired graph provenance)
      tables value tables') :
    tables' = { tables with
      generations := updateRows (record.isUnchanged TransactionState.indeterminate.asStr)
        (verified config record desired graph provenance).verifyTo tables.generations } := by
  unfold Persistence.updateGenerationToVerified at yields
  split at yields
  · exact yields.not_fail.elim
  · obtain ⟨_, updated⟩ := Yields.updates yields
    exact updateGenerations_eq_ok updated

/-- A prepared generation is inserted. -/
theorem Yields.insertGeneration {binding : AuthorityBinding config.sha256} {generation : Nat}
    (yields : Yields (Persistence.insertGeneration config binding generation)
      tables value tables') :
    tables' = { tables with
      generations := tables.generations ++ [preparedRow config binding generation] } := by
  obtain ⟨_, inserted⟩ := Yields.inserts yields
  exact insertGeneration_eq_ok inserted

theorem Yields.nextStateVersion {snapshot : TransactionSnapshot} {version : Nat}
    (yields : Yields (Persistence.nextStateVersion snapshot) tables version tables') :
    version = snapshot.stateVersion + 1 ∧ tables = tables' := by
  obtain ⟨computed, same⟩ := yields.lift
  exact ⟨(checkedAdd_eq_some.mp (orFail_eq_ok.mp computed)).1.symm, same⟩

/-- Events are reserved within the limits. -/
theorem Yields.reserveEvents {additional required : Nat} {delta : Int}
    (yields : Yields (Persistence.reserveEvents config id additional delta required) tables value
      tables') :
    checkLogicalAuditReserve tables config.limits additional delta = .ok () ∧
      ∃ existing, countReservations config tables id = .ok existing ∧ existing ≤ required ∧
        tables' = { tables with auditReservations := tables.auditReservations ++
          (List.range' existing (required - existing)).map (slotRow config id) } := by
  obtain ⟨_, checked, yields⟩ := yields.bind_select
  exact ⟨checked, yields.ensureAuditReservations⟩

end Helpers

end Linura.Persistence
