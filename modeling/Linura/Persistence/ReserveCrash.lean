import Linura.Persistence.Progress
import Linura.Persistence.ReserveResidue

/-!
# The reserve across crashes

The rows of `audit_reservations` change with a commit, and the file beside the database
at once.  Inside a SQLite transaction the file backs both the durable rows and the rows
that would become durable, because it grows before a row is inserted and shrinks only
after a commit.  So a crash, wherever it happens, leaves a file from which the next
opening reaches the length that the durable rows need.
-/

namespace Linura.Persistence

open Linura.Lib Linura.Core Linura.Transaction
open Program (Triple Keeps Runs)

namespace Tables

/-- The number of reservations. -/
def reservationRows (tables : Tables) : Nat := tables.auditReservations.length

end Tables

/-- The file backs the rows that are durable and the rows of the transaction. -/
structure Covers (config : StoreConfig) (hole : Nat) (durable : Tables) (workspace : Workspace) :
    Prop where
  durable : config.reserve.Backs hole durable.reservationRows workspace.sidecar
  working : config.reserve.Backs hole workspace.tables.reservationRows workspace.sidecar

section Statements

variable {config : StoreConfig} {hole : Nat} {durable : Tables}

/-- A statement that adds no reservation keeps the file large enough. -/
theorem keeps_execute {statement : Tables → Except TransactionStoreError (Nat × Tables)}
    (fewer : ∀ {tables changed tables'}, statement tables = .ok (changed, tables') →
      tables'.reservationRows ≤ tables.reservationRows) :
    (execute statement).Keeps (Covers config hole durable) := by
  refine Triple.bind (Q := fun result workspace => Covers config hole durable workspace ∧
    result.2.reservationRows ≤ workspace.tables.reservationRows) (.query ?_ fun _ => id)
    fun result => ?_
  · intro workspace result covers computed
    exact ⟨covers, fewer computed⟩
  refine .bind (Q := fun _ => Covers config hole durable) (.effect ?_ ?_)
    fun _ => .pure fun _ => id
  · rintro workspace ⟨covers, le⟩
    exact ⟨covers.durable, covers.working.mono le_rfl le⟩
  · exact fun workspace _ holds => holds.1

theorem keeps_insertTransaction (row : StoredTransaction) :
    (execute (·.insertTransaction row)).Keeps (Covers config hole durable) := by
  apply keeps_execute
  intro tables changed tables' inserted
  rw [insertTransaction_eq_ok inserted]
  exact le_rfl

theorem keeps_insertGenerationRow (row : StoredGeneration) :
    (execute (·.insertGeneration row)).Keeps (Covers config hole durable) := by
  apply keeps_execute
  intro tables changed tables' inserted
  rw [insertGeneration_eq_ok inserted]
  exact le_rfl

theorem keeps_insertAuditEvent (row : StoredAuditEvent) :
    (execute (·.insertAuditEvent row)).Keeps (Covers config hole durable) := by
  apply keeps_execute
  intro tables changed tables' inserted
  rw [insertAuditEvent_eq_ok inserted]
  exact le_rfl

/-- Deleting reservations needs less of the reserve. -/
theorem keeps_deleteReservations (condition : AuditReservation → Bool) :
    (execute (·.deleteReservations condition)).Keeps (Covers config hole durable) := by
  apply keeps_execute
  intro tables changed tables' deleted
  cases deleted
  exact List.length_filter_le _ _

theorem keeps_updateTransactions (condition : StoredTransaction → Bool)
    (change : StoredTransaction → StoredTransaction) :
    (execute (·.updateTransactions condition change)).Keeps (Covers config hole durable) := by
  apply keeps_execute
  intro tables changed tables' updated
  rw [updateTransactions_eq_ok updated]
  exact le_rfl

theorem keeps_updateGenerations (guard : StoredGeneration → StoredGeneration → Bool)
    (condition : StoredGeneration → Bool) (change : StoredGeneration → StoredGeneration) :
    (execute (·.updateGenerations guard condition change)).Keeps (Covers config hole durable) := by
  apply keeps_execute
  intro tables changed tables' updated
  rw [updateGenerations_eq_ok updated]
  exact le_rfl

/-! ### Helpers of the operations -/

theorem keeps_asI64Parameters {I : Workspace → Prop} (values : List Nat) :
    (asI64Parameters values).Keeps I := by
  unfold asI64Parameters Program.lift
  exact .query

variable (id : TransactionId)

theorem keeps_consumeAuditReservation :
    (consumeAuditReservation config id).Keeps (Covers config hole durable) := by
  refine .bind .query fun row => ?_
  split
  · exact .fail
  · refine (keeps_deleteReservations _).bind fun deleted => ?_
    split
    · exact .fail
    · exact .pure

/-- Appending an event leaves the reserve covered. -/
theorem keeps_appendAudit (generation stateVersion : Nat) (eventKind : String)
    (payloadDigest : ContentDigest) (consumeReservation : Bool) :
    (appendAudit config id generation stateVersion eventKind payloadDigest consumeReservation).Keeps
      (Covers config hole durable) := by
  have rest : ∀ link : Nat × ContentDigest, Keeps (Covers config hole durable) (do
      asI64Parameters [link.1, generation, stateVersion]
      let _ ← execute (·.insertAuditEvent
        (auditRow config id link.1 generation stateVersion eventKind payloadDigest link.2))) :=
    fun link => (keeps_asI64Parameters _).bind fun _ =>
      (keeps_insertAuditEvent _).bind fun _ => .pure
  unfold appendAudit
  split
  · exact .fail
  · refine .bind .query fun _ => .bind .query fun link => ?_
    cases consumeReservation with
    | true => exact (keeps_consumeAuditReservation id).bind fun _ => rest link
    | false => exact rest link

/-- An update with its parameters, which has to find its row. -/
theorem keeps_updates {statement : Tables → Except TransactionStoreError (Nat × Tables)}
    (keeps : (execute statement).Keeps (Covers config hole durable)) (values : List Nat) :
    Keeps (Covers config hole durable) (do
      asI64Parameters values
      let updated ← execute statement
      if updated ≠ 1 then Program.fail .stateConflict else pure ()) := by
  refine (keeps_asI64Parameters _).bind fun _ => keeps.bind fun updated => ?_
  split
  · exact .fail
  · exact .pure

theorem keeps_updateTransactionPointer (record : StoredTransaction)
    (nextGeneration nextVersion : Nat) :
    (updateTransactionPointer config record nextGeneration nextVersion).Keeps
      (Covers config hole durable) :=
  keeps_updates (keeps_updateTransactions _ _) _

theorem keeps_updateGenerationState (record : StoredGeneration)
    (expectedState nextState : TransactionState) :
    (updateGenerationState config record expectedState nextState).Keeps
      (Covers config hole durable) := by
  unfold updateGenerationState
  split
  · exact .fail
  · exact keeps_updates (keeps_updateGenerations _ _ _) _

theorem keeps_updateGenerationToVerified (record : StoredGeneration)
    (desired graph provenance : ContentDigest) :
    (updateGenerationToVerified config record desired graph provenance).Keeps
      (Covers config hole durable) := by
  unfold updateGenerationToVerified
  split
  · exact .fail
  · exact keeps_updates (keeps_updateGenerations _ _ _) _

variable (binding : AuthorityBinding config.sha256)

theorem keeps_insertGeneration (generation : Nat) :
    (insertGeneration config binding generation).Keeps (Covers config hole durable) :=
  (keeps_asI64Parameters _).bind fun _ => (keeps_insertGenerationRow _).bind fun _ => .pure

/-- So does moving a transaction on. -/
theorem keeps_advance {change : SqlProgram Unit} (keeps : change.Keeps (Covers config hole durable))
    (id : TransactionId) (record : StoredTransaction) (generation nextVersion : Nat)
    (eventKind : String) (payload : ContentDigest) :
    (advance config id record generation nextVersion change eventKind payload).Keeps
      (Covers config hole durable) :=
  keeps.bind fun _ => (keeps_updateTransactionPointer _ _ _).bind fun _ =>
    keeps_appendAudit _ _ _ _ _ _

theorem reservationRows_insertReservation {tables tables' : Tables} {changed : Nat}
    {row : AuditReservation} (inserted : tables.insertReservation row = .ok (changed, tables')) :
    tables'.reservationRows = tables.reservationRows + 1 := by
  unfold Tables.insertReservation at inserted
  split_ifs at inserted
  cases inserted
  exact List.length_append

/-- The file grows for the row to come before the row is inserted. -/
theorem keeps_insertReservationRow (slot : Nat) :
    (insertReservationRow config id slot).Keeps (Covers config 0 durable) := by
  refine (keeps_asI64Parameters _).bind fun _ => ?_
  refine Triple.bind (Q := fun count workspace => Covers config 0 durable workspace ∧
    count = workspace.tables.reservationRows) (.query ?_ fun _ holds => holds) fun count => ?_
  · rintro workspace count covers computed
    cases computed
    exact ⟨covers, rfl⟩
  refine .bind (Q := fun code workspace => Covers config 0 durable workspace ∧
    (code = 1 → config.reserve.Backs 0 (workspace.tables.reservationRows + 1) workspace.sidecar))
    (Triple.mapError (.zoom ?_)) fun code => ?_
  · rintro workspace ⟨covers, rfl⟩
    -- One run of the growth keeps both sets of rows backed, so the two triples are joined.
    refine ((RecoveryReserve.triple_reserveSlots durable.reservationRows _).and
      (RecoveryReserve.triple_reserveSlots workspace.tables.reservationRows _)).consequence ?_ ?_ ?_
    · rintro _ rfl
      exact ⟨covers.durable, covers.working⟩
    · rintro code sidecar ⟨⟨backs, -⟩, working, grown⟩
      refine ⟨⟨backs, working⟩, fun one => RecoveryReserve.backs_of_present ?_⟩
      refine of_present ?_ sidecar (grown one)
      rintro file ⟨residue, room⟩
      exact ⟨room, residue.bounded, residue.full, residue.unaligned⟩
    · rintro sidecar ⟨backs, working⟩
      exact ⟨backs, working⟩
  · by_cases one : code = 1
    · rw [if_pos one]
      refine .bind (Q := fun _ => Covers config 0 durable) ?_ fun _ =>
        .pure fun _ holds => holds
      refine .bind (Q := fun result workspace => Covers config 0 durable workspace ∧
        config.reserve.Backs 0 result.2.reservationRows workspace.sidecar)
        (.query ?_ fun _ holds => holds.1) fun result => ?_
      · rintro workspace ⟨changed, tables'⟩ ⟨covers, grown⟩ inserted
        exact ⟨covers, reservationRows_insertReservation inserted ▸ grown one⟩
      · exact .bind (Q := fun _ => Covers config 0 durable)
          (.effect (fun workspace holds => ⟨holds.1.durable, holds.2⟩) fun _ _ holds => holds.1)
          fun _ => .pure fun _ holds => holds
    · rw [if_neg one]
      split
      · exact .fail fun _ holds => holds.1
      · exact .fail fun _ holds => holds.1

/-- Reservations are inserted only after the file has grown. -/
theorem keeps_ensureAuditReservations (required : Nat) :
    (ensureAuditReservations config id required).Keeps (Covers config 0 durable) := by
  refine .bind .query fun existing => ?_
  split
  · exact .fail
  · exact .forM fun slot => keeps_insertReservationRow id slot

theorem keeps_reserveEvents (additionalEvents : Nat) (nonterminalDelta : Int) (required : Nat) :
    (reserveEvents config id additionalEvents nonterminalDelta required).Keeps
      (Covers config 0 durable) :=
  Keeps.query.bind fun _ => keeps_ensureAuditReservations id required

/-! ### The bodies of the operations -/

theorem keeps_nextStateVersion {I : Workspace → Prop} (snapshot : TransactionSnapshot) :
    (nextStateVersion snapshot).Keeps I := by
  unfold nextStateVersion Program.lift
  exact .query

theorem keeps_createTransaction :
    (createTransaction config binding).Keeps (Covers config 0 durable) :=
  Keeps.query.bind fun _ => .bind .query fun _ =>
    Keeps.query.bind fun _ => (keeps_insertTransaction _).bind fun _ =>
      (keeps_insertGeneration _ _).bind fun _ => (keeps_appendAudit _ _ _ _ _ _).bind fun _ =>
        keeps_ensureAuditReservations _ _

/-- Preparing leaves the reserve covered. -/
theorem keeps_prepareBody : (prepareBody config binding).Keeps (Covers config 0 durable) := by
  refine .bind .query fun found => ?_
  cases found with
  | some snapshot =>
    dsimp only
    split
    · exact .pure
    · exact .fail
  | none => exact (keeps_createTransaction binding).bind fun _ => .pure

/-- So does handing off. -/
theorem keeps_handoffBody (request : HandoffRequest) (now : Option Nat) :
    (handoffBody config request now).Keeps (Covers config 0 durable) := by
  refine .bind .query fun _ => .bind .query fun loaded =>
    Keeps.query.bind fun _ => ?_
  split
  · exact .fail
  · exact (keeps_reserveEvents _ _ _ _).bind fun _ => (keeps_nextStateVersion _).bind fun _ =>
      (keeps_advance (keeps_updateGenerationState _ _ _) _ _ _ _ _ _).bind fun _ => .pure

theorem keeps_reprepare (record : StoredTransaction) (generation : StoredGeneration)
    (snapshot : TransactionSnapshot) (nextVersion : Nat) (observationDigest : ContentDigest)
    (nextBinding : AuthorityBinding config.sha256) :
    (reprepare config id record generation snapshot nextVersion observationDigest nextBinding).Keeps
      (Covers config 0 durable) := by
  unfold reprepare
  split
  · exact .fail
  refine .bind .query fun nextGeneration => ?_
  split
  · exact .fail
  · exact .bind .query fun _ => (keeps_reserveEvents _ _ _ _).bind fun _ =>
      (keeps_updateGenerationState _ _ _).bind fun _ => (keeps_insertGeneration _ _).bind fun _ =>
        (keeps_updateTransactionPointer _ _ _).bind fun _ =>
          (keeps_appendAudit _ _ _ _ _ _).bind fun _ =>
            (keeps_appendAudit _ _ _ _ _ _).bind fun _ => .pure

/-- So does recovering. -/
theorem keeps_recoverBody (request : RecoveryRequest config.sha256) (now : Option Nat) :
    (recoverBody config request now).Keeps (Covers config 0 durable) := by
  refine .bind .query fun _ => .bind .query fun loaded =>
    Keeps.query.bind fun _ => (keeps_nextStateVersion _).bind fun nextVersion => ?_
  have moves : ∀ {change : SqlProgram Unit}, change.Keeps (Covers config 0 durable) →
      ∀ (required : Nat) (delta : Int) (eventKind : String) (payload : ContentDigest)
        (outcome : RecoveryOutcome), Keeps (Covers config 0 durable) (do
          reserveEvents config request.transactionId 1 delta required
          advance config request.transactionId loaded.1 loaded.2.2.currentGeneration nextVersion
            change eventKind payload
          return outcome) :=
    fun keeps _ _ _ _ _ => (keeps_reserveEvents _ _ _ _).bind fun _ =>
      (keeps_advance keeps _ _ _ _ _ _).bind fun _ => .pure
  cases request.resolution with
  | intendedStateVerified observation desired graph provenance =>
    exact moves (keeps_updateGenerationToVerified _ _ _ _) _ _ _ _ _
  | conflictingState observation => exact moves (keeps_updateGenerationState _ _ _) _ _ _ _ _
  | ambiguous observation => exact moves .pure _ _ _ _ _
  | intendedEffectAbsent observation nextBinding => exact keeps_reprepare _ _ _ _ _ _ _

/-- So does committing. -/
theorem keeps_commitBody (request : CommitRequest) :
    (commitBody config request).Keeps (Covers config 0 durable) := by
  refine .bind .query fun loaded => .bind .query fun _ => ?_
  split
  · exact .fail
  · exact (keeps_reserveEvents _ _ _ _).bind fun _ => (keeps_nextStateVersion _).bind fun _ =>
      (keeps_advance (keeps_updateGenerationState _ _ _) _ _ _ _ _ _).bind fun _ => .pure

/-- So does aborting. -/
theorem keeps_abortBody (request : AbortRequest) :
    (abortBody config request).Keeps (Covers config 0 durable) := by
  refine .bind .query fun loaded => ?_
  dsimp only
  split
  · exact .fail
  · exact (keeps_reserveEvents _ _ _ _).bind fun _ => (keeps_nextStateVersion _).bind fun _ =>
      (keeps_advance (keeps_updateGenerationState _ _ _) _ _ _ _ _ _).bind fun _ => .pure

/-- A prepared transaction has its reservation, so that aborting it inserts none.  This is what
makes it safe while the opener's slot is released, when the file must not grow. -/
theorem triple_abortBody {ledger : List (Lifecycle config.sha256)}
    (consistent : Consistent config durable ledger) (request : AbortRequest) :
    Triple (fun workspace => workspace.tables = durable ∧ Covers config hole durable workspace)
      (abortBody config request) (fun _ => Covers config hole durable)
        (Covers config hole durable) := by
  refine .bind (Q := fun loaded workspace =>
    (workspace.tables = durable ∧ Covers config hole durable workspace) ∧
      loadCurrent config durable request.transactionId = .ok loaded)
    (.query ?_ fun _ holds => holds.2) fun loaded => .assume fun found => ?_
  · rintro workspace loaded ⟨rfl, covers⟩ found
    exact ⟨⟨rfl, covers⟩, found⟩
  obtain ⟨record, generation, snapshot⟩ := loaded
  obtain ⟨lifecycle, member, own, rfl, rfl, rfl⟩ := consistent.represents.of_loadCurrent found
  dsimp only
  split
  · exact .fail fun _ holds => holds.2
  rename_i agrees
  simp only [not_or, not_not] at agrees
  obtain ⟨-, -, prepared⟩ := agrees
  change lifecycle.state = .prepared at prepared
  have counted := countReservations_eq consistent.represents member
  rw [own, prepared] at counted
  refine .bind (Q := fun _ => Covers config hole durable) ?_ fun _ =>
    (keeps_nextStateVersion _).bind fun _ =>
      (keeps_advance (keeps_updateGenerationState _ _ _) _ _ _ _ _ _).bind fun _ => .pure
  refine .peek (fun _ holds => holds.2) fun _ => ?_
  refine .bind (Q := fun existing workspace =>
    Covers config hole durable workspace ∧ existing = 1)
    (.query ?_ fun _ holds => holds.2) fun existing => .assume ?_
  · rintro workspace existing ⟨rfl, covers⟩ computed
    cases counted.symm.trans computed
    exact ⟨covers, rfl⟩
  · rintro rfl
    exact .pure fun _ => id

end Statements

/-! ### The operations of the store -/

section Sessions

variable {config : StoreConfig} {hole hole' : Nat} {released : Bool} {durable : Tables} {α : Type}

/-- Between SQLite transactions: the file backs the durable rows, and the opener's slot is released
or not. -/
structure Session (config : StoreConfig) (hole : Nat) (released : Bool)
    (state : StoreState) : Prop where
  backs : config.reserve.Backs hole state.durable.reservationRows state.sidecar
  released_eq : state.openerReleased = released

variable {body : SqlProgram α}

/-- The step from the body of a transaction to the transaction: what the body made of the file
remains in any case, and what it made of the rows if it commits. -/
theorem triple_transaction_session (triple : Triple
      (fun workspace => workspace.tables = durable ∧ Covers config hole durable workspace) body
      (fun _ workspace => config.reserve.Backs hole durable.reservationRows workspace.sidecar ∧
        config.reserve.Backs hole' workspace.tables.reservationRows workspace.sidecar)
      fun workspace => config.reserve.Backs hole durable.reservationRows workspace.sidecar) :
    Triple (fun state => state.durable = durable ∧ Session config hole released state)
      (transaction body) (fun _ => Session config hole' released)
        (Session config hole released) := by
  refine .bind
    (Q := fun _ state => state.durable = durable ∧ Session config hole released state)
    (.effect (fun _ => id) fun _ _ holds => holds.2) fun _ => ?_
  refine .bind (Q := fun result state => (state.durable = durable ∧
    Session config hole released state) ∧
      config.reserve.Backs hole' result.2.reservationRows state.sidecar)
    (.zoom ?_) fun result => ?_
  · rintro state ⟨rfl, session⟩
    refine .bind (triple.consequence ?_ (fun _ _ => id) ?_) fun value => ?_
    · rintro _ rfl
      exact ⟨rfl, session.backs, session.backs⟩
    · exact fun workspace backs => ⟨backs, session.released_eq⟩
    · refine .bind (Q := fun tables workspace =>
        config.reserve.Backs hole state.durable.reservationRows workspace.sidecar ∧
          config.reserve.Backs hole' tables.reservationRows workspace.sidecar)
        (.query ?_ fun workspace holds => ⟨holds.1, session.released_eq⟩) fun tables =>
          .pure fun workspace holds => ⟨⟨rfl, holds.1, session.released_eq⟩, holds.2⟩
      rintro workspace tables holds computed
      cases computed
      exact holds
  · refine .bind (Q := fun _ => Session config hole' released) (.effect ?_ ?_)
      fun _ => .pure fun _ => id
    · exact fun state holds => ⟨holds.2, holds.1.2.released_eq⟩
    · exact fun state _ holds => holds.1.2

/-- A transaction in a normal session, whose body keeps the file large enough. -/
theorem keeps_transaction (keeps : ∀ durable, body.Keeps (Covers config 0 durable)) :
    (transaction body).Keeps (Session config 0 released) := by
  refine Triple.of_exists fun state session =>
    ⟨_, ⟨rfl, session⟩, triple_transaction_session ?_⟩
  exact (keeps state.durable).consequence (fun _ holds => holds.2)
    (fun _ _ covers => ⟨covers.durable, covers.working⟩) fun _ covers => covers.durable

theorem rows_of_validateReservationRows {tables : Tables} {rows : Nat}
    (validated : validateReservationRows config tables = .ok rows) :
      rows = tables.reservationRows := by
  unfold validateReservationRows at validated
  obtain ⟨ids, -, validated⟩ := bind_eq_ok.mp validated
  obtain ⟨total, -, validated⟩ := bind_eq_ok.mp validated
  split at validated
  · cases validated
  · cases validated
    rfl

theorem rows_of_validateTables {tables : Tables} {rows : Nat}
    (validated : validateTables config tables = .ok rows) : rows = tables.reservationRows := by
  unfold validateTables at validated
  obtain ⟨_, -, validated⟩ := bind_eq_ok.mp validated
  obtain ⟨_, -, validated⟩ := bind_eq_ok.mp validated
  obtain ⟨_, -, validated⟩ := bind_eq_ok.mp validated
  obtain ⟨_, -, validated⟩ := bind_eq_ok.mp validated
  obtain ⟨_, -, validated⟩ := bind_eq_ok.mp validated
  obtain ⟨_, -, validated⟩ := bind_eq_ok.mp validated
  obtain ⟨_, -, validated⟩ := bind_eq_ok.mp validated
  exact rows_of_validateReservationRows validated

/-- Validating the tables and then reconciling the file with their rows, in a transaction of its
own. -/
theorem triple_reconciling {validate : Tables → Except TransactionStoreError Nat} {opener : Bool}
    (counts : ∀ {tables rows}, validate tables = .ok rows → rows = tables.reservationRows)
    (reconciles : ∀ rows, (config.reserve.validateAndReconcile rows opener).Triple
      (config.reserve.Backs hole rows) (fun _ => config.reserve.Backs hole' rows)
      (config.reserve.Backs hole rows)) (hole_le : hole' ≤ hole) :
    Triple (Session config hole released)
      (transaction do
        let rows ← select validate
        onSidecar (config.reserve.validateAndReconcile rows opener))
      (fun _ => Session config hole' released) (Session config hole released) := by
  refine Triple.of_exists fun state session =>
    ⟨_, ⟨rfl, session⟩, triple_transaction_session ?_⟩
  refine .bind (Q := fun rows workspace => (workspace.tables = state.durable ∧
    Covers config hole state.durable workspace) ∧ rows = state.durable.reservationRows)
    (.query ?_ fun _ holds => holds.2.durable) fun rows => .assume ?_
  · rintro workspace rows ⟨same, covers⟩ validated
    exact ⟨⟨same, covers⟩, same ▸ counts validated⟩
  rintro rfl
  refine .zoom ?_
  rintro workspace ⟨same, covers⟩
  refine (reconciles state.durable.reservationRows).consequence ?_ ?_ fun _ => id
  · rintro _ rfl
    exact covers.durable
  · intro _ sidecar backs
    exact ⟨backs.mono hole_le le_rfl, same ▸ backs⟩

/-- Reconciling after a commit closes every hole. -/
theorem triple_reconcile (hole_le : hole ≤ config.reserve.slotBytes) :
    Triple (Session config hole released) (reconcileFilesystemReserveAfterCommit config)
      (fun _ => Session config 0 released) (Session config hole released) := by
  refine triple_reconciling rows_of_validateReservationRows (fun rows => ?_) (Nat.zero_le _)
  exact (RecoveryReserve.completes_validateAndReconcile hole_le).triple.consequence
    (fun _ => id) (fun _ _ reconciled => reconciled.backs) fun _ => id

/-- The integrity check closes every hole too, unless the opener's slot is released. -/
theorem triple_integrityCheck (hole_le : hole ≤ config.reserve.slotBytes) :
    Triple (Session config hole released) (integrityCheck config)
      (fun _ => Session config (if released then hole else 0) released)
      (Session config hole released) := by
  refine .bind (Q := fun opener state => Session config hole released state ∧
    opener = released) (.query ?_ fun _ => id) fun opener => .assume ?_
  · rintro state opener session computed
    cases computed
    exact ⟨session, session.released_eq⟩
  rintro rfl
  refine triple_reconciling rows_of_validateTables (fun rows => ?_) ?_
  · cases opener with
    | true => exact RecoveryReserve.keeps_validateAndReconcile hole_le true
    | false =>
      exact (RecoveryReserve.completes_validateAndReconcile hole_le).triple.consequence
        (fun _ => id) (fun _ _ reconciled => reconciled.backs) fun _ => id
  · split
    · exact le_rfl
    · exact Nat.zero_le _

/-- A sealed operation in a normal session. -/
theorem keeps_sealed (authorized : Bool) (keeps : ∀ durable, body.Keeps (Covers config 0 durable)) :
    Keeps (Session config 0 false) (do
      requireNormalOpen
      if !authorized then Program.fail .authorityRejected
      else
        let value ← transaction body
        reconcileFilesystemReserveAfterCommit config
        return value) := by
  refine .bind .query fun _ => ?_
  cases authorized with
  | false => exact .fail
  | true =>
    exact (keeps_transaction keeps).bind fun _ =>
      Keeps.bind (triple_reconcile (Nat.zero_le _)) fun _ => .pure

/-- Aborting ends terminal recovery with a file without holes. -/
theorem triple_abortPrepared {request : AbortRequest} (hole_le : hole ≤ config.reserve.slotBytes)
    (body : Triple
      (fun workspace => workspace.tables = durable ∧ Covers config hole durable workspace)
      (abortBody config request) (fun _ => Covers config hole durable)
      (Covers config hole durable)) :
    Triple (fun state => state.durable = durable ∧ Session config hole released state)
      (abortPrepared config request) (fun _ => Session config 0 false)
      (Session config hole released) := by
  refine .bind (triple_transaction_session (body.consequence (fun _ => id)
    (fun _ _ covers => ⟨covers.durable, covers.working⟩) fun _ covers =>
      covers.durable)) fun _ => ?_
  refine .bind (triple_reconcile hole_le) fun _ => ?_
  refine .bind (Q := fun _ => Session config 0 false) (.modify ?_) fun _ =>
    .pure fun _ => id
  exact fun state session => ⟨session.backs, rfl⟩

/-- In a normal session the file has no holes, whatever is asked. -/
theorem keeps_serve (request : Request config) :
    (serve config request).Keeps (Session config 0 false) := by
  cases request with
  | prepare binding =>
    refine .bind (Keeps.query.bind fun _ => ?_) fun _ => .pure
    exact keeps_transaction fun _ => keeps_prepareBody binding
  | handoff request now =>
    exact (keeps_sealed _ fun _ => keeps_handoffBody request now).bind fun _ => .pure
  | recover request now =>
    exact (keeps_sealed _ fun _ => keeps_recoverBody request now).bind fun _ => .pure
  | commit request =>
    exact (keeps_sealed _ fun _ => keeps_commitBody request).bind fun _ => .pure
  | abortPrepared request =>
    refine .bind ?_ fun _ => .pure
    refine Triple.of_exists fun state session =>
      ⟨_, ⟨rfl, session⟩, triple_abortPrepared (Nat.zero_le _) ?_⟩
    exact (keeps_abortBody request).consequence (fun _ holds => holds.2) (fun _ _ => id)
      fun _ => id
  | integrityCheck =>
    exact .bind (triple_integrityCheck (Nat.zero_le _)) fun _ => .pure

theorem triple_requireNormalOpen {Q : Unit → StoreState → Prop} :
    Triple (Session config hole true) requireNormalOpen Q (Session config hole true) := by
  refine .query ?_ fun _ => id
  intro state _ session computed
  rw [session.released_eq] at computed
  cases computed

/-- While the opener's slot is released, the file keeps everything but its last slot, and an
answered request other than the integrity check ends that. -/
theorem triple_serve_terminal {ledger : List (Lifecycle config.sha256)}
    (consistent : Consistent config durable ledger) (request : Request config) :
    Triple
      (fun state => state.durable = durable ∧ Session config config.reserve.slotBytes true state)
      (serve config request)
      (fun _ state => Session config 0 false state ∨
        Session config config.reserve.slotBytes true state)
      (Session config config.reserve.slotBytes true) := by
  have refused : ∀ {β : Type} (rest : Unit → StoreProgram β), Triple
      (fun state => state.durable = durable ∧ Session config config.reserve.slotBytes true state)
      (requireNormalOpen >>= rest) (fun _ _ => False)
      (Session config config.reserve.slotBytes true) :=
    fun rest => .bind (Q := fun _ _ => False)
      (triple_requireNormalOpen.consequence (fun _ holds => holds.2) (fun _ _ => id)
        fun _ => id) fun _ => .of_false
  cases request with
  | prepare | handoff | recover | commit =>
    exact (refused _).bind fun _ => .pure fun _ never => never.elim
  | abortPrepared request =>
    refine (triple_abortPrepared le_rfl (triple_abortBody consistent request)).bind fun _ => ?_
    exact .pure fun _ => Or.inl
  | integrityCheck =>
    refine .bind ((triple_integrityCheck le_rfl).consequence (fun _ holds => holds.2)
      (fun _ _ => id) fun _ => id) fun _ => .pure fun _ => Or.inr

/-- Opening a store makes the file exact, or releases at most its last slot. -/
theorem triple_openStore (terminalRecovery : Bool) :
    Triple
      (fun state => config.reserve.Backs config.reserve.slotBytes state.durable.reservationRows
        state.sidecar)
      (openStore config terminalRecovery)
      (fun _ => Session config (if terminalRecovery then config.reserve.slotBytes else 0)
        terminalRecovery)
      fun state => config.reserve.Backs config.reserve.slotBytes state.durable.reservationRows
        state.sidecar := by
  refine .bind (.query (fun _ _ backs _ => backs) fun _ => id) fun _ => ?_
  refine .bind (Q := fun _ => Session config config.reserve.slotBytes terminalRecovery)
    (.modify fun state backs => ⟨backs, rfl⟩) fun _ => ?_
  refine Triple.consequence (E := Session config config.reserve.slotBytes terminalRecovery) ?_
    (fun _ => id) (fun _ _ => id) fun _ session => session.backs
  refine .bind (Q := fun _ => Session config config.reserve.slotBytes terminalRecovery)
    ?_ fun _ => .bind (Q := fun _ => Session config config.reserve.slotBytes terminalRecovery)
      (.effect (fun _ => id) fun _ _ => id) fun _ =>
        triple_integrityCheck le_rfl
  cases terminalRecovery with
  | false => exact .pure fun _ => id
  | true =>
    refine .bind (Q := fun _ => Session config config.reserve.slotBytes true) (.zoom ?_)
      fun released => ?_
    · intro state session
      have keeps : (releasePreopenRecoveryHeadroom config).Keeps
          (config.reserve.Backs config.reserve.slotBytes state.durable.reservationRows) := by
        refine .bind .query fun present => ?_
        cases present with
        | false => exact .pure
        | true => exact .bind RecoveryReserve.keeps_releaseOpenerHeadroom fun _ => .pure
      refine (Triple.mapError keeps).consequence ?_ ?_ ?_
      · rintro _ rfl
        exact session.backs
      · exact fun _ sidecar backs => ⟨backs, session.released_eq⟩
      · exact fun sidecar backs => ⟨backs, session.released_eq⟩
    · cases released with
      | true => exact .pure fun _ => id
      | false => exact .fail fun _ => id

end Sessions

/-! ### Runs -/

section Runs

variable {config : StoreConfig} {system : System}

/-- What holds of the file at every moment of a run: at most its last slot has a hole, and none
while a process has the store open normally. -/
structure Guarded (config : StoreConfig) (system : System) : Prop where
  backs : config.reserve.Backs config.reserve.slotBytes system.store.durable.reservationRows
    system.store.sidecar
  normal : system.isOpen = true → system.store.openerReleased = false →
    config.reserve.Backs 0 system.store.durable.reservationRows system.store.sidecar

variable {state : StoreState}

theorem Guarded.of_session {hole : Nat} {released opened : Bool}
    (session : Session config hole released state) (hole_le : hole ≤ config.reserve.slotBytes)
    (closed : released = false → hole = 0) : Guarded config ⟨state, opened⟩ where
  backs := session.backs.mono hole_le le_rfl
  normal _ released_eq := closed (session.released_eq.symm.trans released_eq) ▸ session.backs

/-- Every event keeps the reserve guarded. -/
theorem guarded_step {ledger : List (Lifecycle config.sha256)}
    (consistent : Consistent config system.store.durable ledger) (guarded : Guarded config system)
    (event : Event config) : Guarded config (system.step config event) := by
  cases event with
  | openStore terminalRecovery faults =>
    by_cases opened : system.isOpen = true
    · simpa [System.step, opened] using guarded
    have triple := (triple_openStore terminalRecovery).run ⟨system.store, faults⟩ guarded.backs
    simp only [System.step, opened, Bool.false_eq_true, if_false]
    rcases ended : openStore config terminalRecovery ⟨system.store, faults⟩ with ⟨outcome, s⟩
    rw [ended] at triple
    cases outcome with
    | ok value =>
      refine .of_session triple ?_ ?_
      · split
        · exact le_rfl
        · exact Nat.zero_le _
      · rintro rfl
        rfl
    | error | crashed => exact ⟨triple, Bool.noConfusion⟩
  | request request faults =>
    by_cases opened : system.isOpen = true
    · simp only [System.step, opened, Bool.not_true, Bool.false_eq_true, if_false, respond]
      cases released : system.store.openerReleased with
      | false =>
        have triple := (keeps_serve request).run ⟨system.store, faults⟩
          ⟨guarded.normal opened released, released⟩
        rcases ended : serve config request ⟨system.store, faults⟩ with ⟨outcome, s⟩
        rw [ended] at triple
        cases outcome with
        | ok | error | crashed => exact .of_session triple (Nat.zero_le _) fun _ => rfl
      | true =>
        have triple := (triple_serve_terminal consistent request).run ⟨system.store, faults⟩
          ⟨rfl, guarded.backs, released⟩
        rcases ended : serve config request ⟨system.store, faults⟩ with ⟨outcome, s⟩
        rw [ended] at triple
        cases outcome with
        | ok value =>
          rcases triple with session | session
          · exact .of_session session (Nat.zero_le _) fun _ => rfl
          · exact .of_session session le_rfl Bool.noConfusion
        | error | crashed => exact .of_session triple le_rfl Bool.noConfusion
    · simpa [System.step, opened] using guarded
  | close => exact ⟨guarded.backs, Bool.noConfusion⟩

/-- The reserve is guarded after every run. -/
theorem guarded_run (events : List (Event config)) : Guarded config (System.run config events) := by
  induction events using List.reverseRecOn with
  | nil => exact ⟨Or.inl ⟨rfl, rfl⟩, nofun⟩
  | append_singleton events event ih =>
    obtain ⟨ledger, consistent⟩ := exists_consistent_run events
    rw [run_concat]
    exact guarded_step consistent ih event

/-- Without faults a transaction commits what its body made. -/
theorem runs_transaction {α : Type} {body : SqlProgram α} {value : α} {tables : Tables}
    {sidecar : Option SparseFile}
    (ran : body.Runs ⟨state.durable, state.sidecar⟩ value ⟨tables, sidecar⟩) :
    (transaction body).Runs state value ⟨tables, sidecar, state.openerReleased⟩ := by
  refine Runs.atomically.bind ?_
  refine .bind (Runs.zoom (ran.bind ((runs_select rfl).bind Runs.pure))) ?_
  exact Runs.atomically.bind Runs.pure

/-- Without faults, opening a store whose tables are valid leaves the file that
`validate_and_reconcile` makes. -/
theorem runs_openStore {sidecar : Option SparseFile} {limits : StoreLimits} {rows : Nat}
    (valid : config.limits.validate = .ok limits)
    (validated : validateTables config state.durable = .ok rows)
    (reconciles : (config.reserve.validateAndReconcile rows false).Runs state.sidecar () sidecar) :
    (openStore config false).Runs state () ⟨state.durable, sidecar, false⟩ := by
  refine (Runs.lift valid).bind (Runs.modify.bind ?_)
  refine Runs.pure.bind (Runs.atomically.bind ?_)
  refine .bind (Runs.query rfl) ?_
  refine runs_transaction ?_
  exact (runs_select validated).bind (Runs.zoom reconciles)

/-- After every run, with failures and crashes anywhere, reconciling the file with the durable
reservations succeeds: it leaves exactly the slots of the reservations and of the opener, all of
them with storage, and nothing if there are no reservations.  So the next normal opening succeeds
and leaves that file. -/
theorem run_reserve_reconciles (config : StoreConfig) (events : List (Event config)) :
    let store := (System.run config events).store
    let rows := store.durable.auditReservations.length
    ∃ sidecar, (config.reserve.validateAndReconcile rows false).Runs store.sidecar () sidecar ∧
      (0 < rows → ∃ file, sidecar = some file ∧
        file.length = config.reserve.slotBytes * (rows + 1) ∧
        file.FullBelow file.length ∧ file.allocatedBytes = file.length) ∧
      (rows = 0 → sidecar = none ∨ ∃ file, sidecar = some file ∧ file.length = 0) ∧
      ∀ limits, config.limits.validate = .ok limits →
        (openStore config false).Runs store () ⟨store.durable, sidecar, false⟩ := by
  intro store rows
  obtain ⟨ledger, represents, within⟩ := exists_consistent_run events
  obtain ⟨⟨⟩, sidecar, ran, reconciled⟩ :=
    (RecoveryReserve.completes_validateAndReconcile le_rfl).succeeds
    trivial store.sidecar (guarded_run events).backs
  refine ⟨sidecar, ran, ?_, ?_, ?_⟩
  · intro rows_pos
    rcases reconciled with ⟨-, none⟩ | present
    · exact absurd none rows_pos.ne'
    cases sidecar with
    | none => exact present.elim
    | some file =>
      refine ⟨file, rfl, present.length_eq.trans (RecoveryReserve.neededLen_of_pos rows_pos),
        present.full, ?_⟩
      exact le_antisymm (Nat.count_le _) (SparseFile.length_le_allocatedBytes_iff.mpr present.full)
  · intro none
    rcases reconciled with ⟨absent, -⟩ | present
    · exact Or.inl absent
    cases sidecar with
    | none => exact present.elim
    | some file =>
      exact Or.inr ⟨file, rfl, present.length_eq.trans (RecoveryReserve.neededLen_zero none)⟩
  · intro limits valid
    exact runs_openStore valid (validateTables_eq_ok represents within) ran

end Runs

end Linura.Persistence
