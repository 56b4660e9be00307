import Linura.Persistence.Refinement

/-!
# Whatever was started can be finished

The reserve is there so that no transaction is ever stuck because the store is full.  At every
reachable state an unfinished transaction can be finished: a prepared one is aborted, an
indeterminate one is blocked, and a verified one is committed, and none of the capacity checks on
the way fails.
-/

namespace Linura.Persistence

open Linura.Lib Linura.Core Linura.Transaction
open Program (Runs)

variable {config : StoreConfig} {tables tables' : Tables} {sidecar : Option SparseFile}
variable {ledger : List (Lifecycle config.sha256)} {lifecycle : Lifecycle config.sha256}

/-! ### Statements that succeed -/

section Statements

variable {α : Type} {value : α}

theorem runs_select {read : Tables → Except TransactionStoreError α}
    (computed : read tables = .ok value) :
    (select read).Runs ⟨tables, sidecar⟩ value ⟨tables, sidecar⟩ :=
  Runs.query computed

theorem runs_execute {statement : Tables → Except TransactionStoreError (Nat × Tables)}
    {changed : Nat} (executed : statement tables = .ok (changed, tables')) :
    (execute statement).Runs ⟨tables, sidecar⟩ changed ⟨tables', sidecar⟩ :=
  (runs_select executed).bind (Runs.effect.bind Runs.pure)

theorem runs_asI64Parameters {values : List Nat} (fit : ∀ value ∈ values, value ≤ i64Max) :
    (asI64Parameters values).Runs ⟨tables, sidecar⟩ () ⟨tables, sidecar⟩ := by
  have converted : values.forM (fun value => discard (asI64 value)) = .ok () := by
    apply forM_eq_ok
    intro value member
    rw [asI64, if_pos (fit value member)]
    rfl
  exact .lift converted

end Statements

/-! ### Rows that are there -/

/-- A selection within the rows of one transaction. -/
private theorem filter_of_implies {ρ : Type} {rows : List ρ} {select condition : ρ → Bool}
    (implies : ∀ row, condition row = true → select row = true) :
    rows.filter condition = (rows.filter select).filter condition := by
  rw [List.filter_filter]
  refine List.filter_congr fun row _ => ?_
  cases holds : condition row with
  | false => rfl
  | true => simp [implies row holds]

section Represented

variable (represents : Represents config tables ledger) (member : lifecycle ∈ ledger)
include represents member

/-- The row that `update_transaction_pointer` replaces is there, once. -/
theorem Represents.filter_isUnchanged_transactions :
    tables.transactions.filter (lifecycle.transactionRow config).isUnchanged =
      [lifecycle.transactionRow config] := by
  rw [filter_of_implies fun row unchanged => ?_,
    filter_key represents.nodup_transactions (represents.mem_transactions member)]
  · simp [StoredTransaction.isUnchanged]
  · simp only [StoredTransaction.isUnchanged, decide_eq_true_eq] at unchanged ⊢
    exact unchanged.1

/-- The row that an update of the current generation replaces is there, once. -/
theorem Represents.filter_isUnchanged_generations :
    tables.generations.filter
      ((lifecycle.currentRow config).isUnchanged lifecycle.state.asStr) =
      [lifecycle.currentRow config] := by
  have own := represents.generations lifecycle member
  rw [Tables.generationsOf] at own
  have retired : (lifecycle.retiredRows config).filter
      ((lifecycle.currentRow config).isUnchanged lifecycle.state.asStr) = [] := by
    rw [List.filter_eq_nil_iff]
    exact fun row stored => by simp [isUnchanged_retiredRows stored]
  rw [filter_of_implies fun row unchanged => ?_, own, History.generationRows, List.filter_append,
    retired, List.nil_append]
  · simp [isUnchanged_currentRow]
  · simp only [StoredGeneration.isUnchanged, decide_eq_true_eq] at unchanged ⊢
    rw [unchanged.1]
    exact transactionId_currentRow lifecycle.toHistory lifecycle.wellFormed

/-! ### Helpers that succeed -/

theorem runs_updateGenerationState (next : TransactionState) :
    (updateGenerationState config (lifecycle.currentRow config) lifecycle.state next).Runs
      ⟨tables, sidecar⟩ ()
      ⟨{ tables with
        generations := updateRows ((lifecycle.currentRow config).isUnchanged lifecycle.state.asStr)
          (moved config (lifecycle.currentRow config) next).moveTo tables.generations },
            sidecar⟩ := by
  have only := represents.filter_isUnchanged_generations member
  have executed : tables.updateGenerations (fun _ _ => true)
      ((lifecycle.currentRow config).isUnchanged lifecycle.state.asStr)
      (moved config (lifecycle.currentRow config) next).moveTo = .ok (1, { tables with
        generations := updateRows ((lifecycle.currentRow config).isUnchanged lifecycle.state.asStr)
          (moved config (lifecycle.currentRow config) next).moveTo tables.generations }) := by
    have check : ((moved config (lifecycle.currentRow config) next).moveTo
        (lifecycle.currentRow config)).check = true :=
      check_generationRow lifecycle.binding lifecycle.generation next lifecycle.material
    rw [Tables.updateGenerations, List.countP_eq_length_filter, only]
    simp [check]
  have small : lifecycle.generation ≤ i64Max :=
    lifecycle.wellFormed.generation_lt.le.trans (by decide)
  have current : ¬ (lifecycle.currentRow config).state ≠ lifecycle.state.asStr :=
    not_not_intro rfl
  unfold updateGenerationState
  rw [if_neg current]
  refine (runs_asI64Parameters ?_).bind ((runs_execute executed).bind Runs.pure)
  intro value same
  rw [List.mem_singleton.mp same]
  exact small

theorem runs_updateTransactionPointer (same : tables'.transactions = tables.transactions)
    (fits : lifecycle.stateVersion + 1 ≤ i64Max) :
    (updateTransactionPointer config (lifecycle.transactionRow config) lifecycle.generation
      (lifecycle.stateVersion + 1)).Runs ⟨tables', sidecar⟩ ()
      ⟨{ tables' with
        transactions := updateRows (lifecycle.transactionRow config).isUnchanged
          (repointed config (lifecycle.transactionRow config) lifecycle.generation
            (lifecycle.stateVersion + 1)).pointTo tables'.transactions }, sidecar⟩ := by
  have only := represents.filter_isUnchanged_transactions member
  rw [← same] at only
  -- the new row is that of the lifecycle after any event of this generation
  have row : (repointed config (lifecycle.transactionRow config) lifecycle.generation
      (lifecycle.stateVersion + 1)).pointTo (lifecycle.transactionRow config) =
      (lifecycle.advance .committed .zero none).transactionRow config := rfl
  have check : ((repointed config (lifecycle.transactionRow config) lifecycle.generation
      (lifecycle.stateVersion + 1)).pointTo (lifecycle.transactionRow config)).check = true := by
    rw [row, StoredTransaction.check, withinBounds_transactionRow]
    simp [History.transactionRow, StoredTransaction.withTag, History.advance]
  have executed : tables'.updateTransactions (lifecycle.transactionRow config).isUnchanged
      (repointed config (lifecycle.transactionRow config) lifecycle.generation
        (lifecycle.stateVersion + 1)).pointTo = .ok (1, { tables' with
        transactions := updateRows (lifecycle.transactionRow config).isUnchanged
          (repointed config (lifecycle.transactionRow config) lifecycle.generation
            (lifecycle.stateVersion + 1)).pointTo tables'.transactions }) := by
    rw [Tables.updateTransactions, List.countP_eq_length_filter, only]
    simp [check]
  have small : lifecycle.generation ≤ i64Max :=
    lifecycle.wellFormed.generation_lt.le.trans (by decide)
  refine (runs_asI64Parameters ?_).bind ((runs_execute executed).bind Runs.pure)
  intro value listed
  simp only [History.transactionRow, StoredTransaction.withTag, List.mem_cons, List.not_mem_nil,
    or_false] at listed
  rcases listed with rfl | rfl | rfl | rfl
  · exact small
  · exact (Nat.le_succ _).trans fits
  · exact small
  · exact fits

end Represented

section Append

variable {id : TransactionId} {log : List AuditEntry}

theorem runs_consumeAuditReservation
    (reserved : tables.auditReservationsOf id.value = [slotRow config id 0]) :
    (consumeAuditReservation config id).Runs ⟨tables, sidecar⟩ ()
      ⟨withoutSlot tables id 0, sidecar⟩ := by
  have last : lastBy (·.slot) (tables.auditReservationsOf id.value) =
      some (slotRow config id 0) := by
    rw [reserved]
    exact lastBy_slotRows 0
  have only : tables.auditReservations.filter (AuditReservation.isSlot id 0) =
      [slotRow config id 0] := by
    rw [Tables.auditReservationsOf] at reserved
    rw [filter_of_implies fun row isSlot => ?_, reserved]
    · simp [AuditReservation.isSlot, slotRow]
    · simp only [AuditReservation.isSlot, decide_eq_true_eq] at isSlot ⊢
      exact isSlot.1
  have executed : tables.deleteReservations (AuditReservation.isSlot id 0) =
      .ok (1, withoutSlot tables id 0) := by
    rw [Tables.deleteReservations, List.countP_eq_length_filter, only]
    rfl
  refine (runs_select (orFail_eq_ok.mpr last)).bind ?_
  have sized : ¬ (slotRow config id 0).reservedLength ≠ reservationBytes config :=
    not_not_intro rfl
  rw [if_neg sized]
  exact (runs_execute executed).bind Runs.pure

/-- The next event of a chain is inserted where none is. -/
theorem insertAuditEvent_eq_of_chain
    (chain : tables.auditEventsOf id.value = chainFrom config id 0 .zero log)
    (known : tables.hasTransaction id.value = true) {entry : AuditEntry}
    (positive : 1 ≤ entry.stateVersion) (previous : ContentDigest) :
    tables.insertAuditEvent (entryRow config id log.length previous entry) = .ok (1, { tables with
      auditEvents := tables.auditEvents ++ [entryRow config id log.length previous entry] }) := by
  have fresh : ¬ (tables.auditEvents.any fun old =>
      old.transactionId = (entryRow config id log.length previous entry).transactionId ∧
        old.eventSequence = (entryRow config id log.length previous entry).eventSequence)
          = true := by
    intro clash
    obtain ⟨row, stored, same⟩ := List.any_eq_true.mp clash
    simp only [decide_eq_true_eq] at same
    have own : row ∈ tables.auditEventsOf id.value :=
      List.mem_filter.mpr ⟨stored, decide_eq_true same.1⟩
    rw [chain] at own
    have number := List.mem_map_of_mem (f := fun e : StoredAuditEvent => e.eventSequence) own
    rw [eventSequence_chainFrom, List.mem_range'_1] at number
    have last : row.eventSequence = log.length := same.2
    omega
  have check : (entryRow config id log.length previous entry).check = true := by
    rw [StoredAuditEvent.check, withinBounds_entryRow]
    exact decide_eq_true positive
  have parent : tables.hasTransaction (entryRow config id log.length previous entry).transactionId =
      true := known
  rw [Tables.insertAuditEvent, if_neg fresh, check, parent]
  rfl

/-- The event is appended. -/
theorem runs_appendAudit (kind : EventKind) (generation stateVersion : Nat)
    (payload : ContentDigest)
    (chain : tables.auditEventsOf id.value = chainFrom config id 0 .zero log)
    (reserved : tables.auditReservationsOf id.value = [slotRow config id 0])
    (known : tables.hasTransaction id.value = true)
    (room : checkCountCapacity tables .auditEvents config.limits.maxAuditEvents 1 = .ok ())
    (positive : 1 ≤ stateVersion)
    (fits : log.length ≤ i64Max ∧ generation ≤ i64Max ∧ stateVersion ≤ i64Max) :
    ∃ tables', (appendAudit config id generation stateVersion kind.asStr payload true).Runs
      ⟨tables, sidecar⟩ () ⟨tables', sidecar⟩ := by
  have small : log.length ≤ u64Max := fits.1.trans (by decide)
  have linked := nextLink_eq chain small
  have inserted := @insertAuditEvent_eq_of_chain config (withoutSlot tables id 0) id log chain known
    ⟨generation, stateVersion, kind, payload⟩ positive (chainDigest config id 0 .zero log)
  unfold appendAudit
  rw [kind.isBoundedText_asStr]
  refine ⟨_, (runs_select room).bind ((runs_select linked).bind
    ((runs_consumeAuditReservation reserved).bind ((runs_asI64Parameters ?_).bind
      ((runs_execute inserted).bind Runs.pure))))⟩
  intro value listed
  simp only [List.mem_cons, List.not_mem_nil, or_false] at listed
  rcases listed with rfl | rfl | rfl
  · exact fits.1
  · exact fits.2.1
  · exact fits.2.2

end Append

/-! ### Capacity -/

theorem unfinished_pos (member : lifecycle ∈ ledger)
    (nonterminal : isNonterminal lifecycle.state = true) : 0 < unfinished ledger :=
  List.countP_pos_iff.mpr ⟨lifecycle, member, nonterminal⟩

/-- There is room for the event that finishes an unfinished transaction. -/
theorem Consistent.room (consistent : Consistent config tables ledger) (member : lifecycle ∈ ledger)
    (nonterminal : isNonterminal lifecycle.state = true) :
    tables.auditEvents.length + 1 ≤ config.limits.maxAuditEvents := by
  have room := consistent.within.auditEvents
  have pos := unfinished_pos member nonterminal
  rw [nonterminalCount_eq consistent.represents] at room
  omega

/-- The logical reserve allows the finishing event. -/
theorem Consistent.checkLogicalAuditReserve_finish (consistent : Consistent config tables ledger)
    (member : lifecycle ∈ ledger) (nonterminal : isNonterminal lifecycle.state = true) :
    checkLogicalAuditReserve tables config.limits 1 (-1) = .ok () := by
  have room := consistent.within.auditEvents
  have pos := unfinished_pos member nonterminal
  rw [checkLogicalAuditReserve_eq_ok]
  rw [nonterminalCount_eq consistent.represents] at room ⊢
  omega

/-- So does the count of events. -/
theorem Consistent.checkCountCapacity_finish (consistent : Consistent config tables ledger)
    (member : lifecycle ∈ ledger) (nonterminal : isNonterminal lifecycle.state = true) :
    checkCountCapacity tables .auditEvents config.limits.maxAuditEvents 1 = .ok () := by
  have room := consistent.room member nonterminal
  exact (checkCountCapacity_eq_ok (room.trans config.limits.fits.2.2.1)).mpr room

/-- The reservation that the finishing event consumes is there. -/
theorem runs_ensureAuditReservations (represents : Represents config tables ledger)
    (member : lifecycle ∈ ledger) (nonterminal : isNonterminal lifecycle.state = true) :
    (ensureAuditReservations config lifecycle.transactionId 1).Runs ⟨tables, sidecar⟩ ()
      ⟨tables, sidecar⟩ := by
  have counted := countReservations_eq represents member
  rw [nonterminal] at counted
  exact (runs_select counted).bind Runs.pure

theorem runs_reserveEvents (consistent : Consistent config tables ledger)
    (member : lifecycle ∈ ledger) (nonterminal : isNonterminal lifecycle.state = true) :
    (reserveEvents config lifecycle.transactionId 1 (-1) 1).Runs ⟨tables, sidecar⟩ ()
      ⟨tables, sidecar⟩ :=
  (runs_select (consistent.checkLogicalAuditReserve_finish member nonterminal)).bind
    (runs_ensureAuditReservations consistent.represents member nonterminal)

/-- The numbers of the next event fit into the database's integers if the number of events does. -/
theorem Represents.fits (represents : Represents config tables ledger) (member : lifecycle ∈ ledger)
    (small : tables.auditEvents.length < i64Max) :
    lifecycle.log.length ≤ i64Max ∧ lifecycle.generation ≤ i64Max ∧
      lifecycle.stateVersion + 1 ≤ i64Max := by
  have few := represents.log_length_le member
  have length := lifecycle.wellFormed.log_length
  omega

/-- An event that finishes a transaction, after the reserve was checked. -/
theorem runs_advance (consistent : Consistent config tables ledger) (member : lifecycle ∈ ledger)
    (nonterminal : isNonterminal lifecycle.state = true)
    (small : tables.auditEvents.length < i64Max) (next : TransactionState) (kind : EventKind)
    (payload : ContentDigest) :
    ∃ tables', (advance config lifecycle.transactionId (lifecycle.transactionRow config)
      lifecycle.generation (lifecycle.stateVersion + 1)
      (updateGenerationState config (lifecycle.currentRow config) lifecycle.state next)
      kind.asStr payload).Runs ⟨tables, sidecar⟩ () ⟨tables', sidecar⟩ := by
  have represents := consistent.represents
  obtain ⟨fewEvents, fewGenerations, fewVersions⟩ := consistent.represents.fits member small
  have reserved := represents.auditReservations lifecycle member
  rw [History.reservationRows, if_pos nonterminal] at reserved
  -- the tables when the event is appended
  let changed : Tables := { tables with
    generations := updateRows ((lifecycle.currentRow config).isUnchanged lifecycle.state.asStr)
      (moved config (lifecycle.currentRow config) next).moveTo tables.generations
    transactions := updateRows (lifecycle.transactionRow config).isUnchanged
      (repointed config (lifecycle.transactionRow config) lifecycle.generation
        (lifecycle.stateVersion + 1)).pointTo tables.transactions }
  have known : changed.hasTransaction lifecycle.transactionId.value = true := by
    refine List.any_eq_true.mpr
      ⟨_, List.mem_map_of_mem (represents.mem_transactions member), decide_eq_true ?_⟩
    split
    · rfl
    · rfl
  have chain : changed.auditEventsOf lifecycle.transactionId.value =
      chainFrom config lifecycle.transactionId 0 .zero lifecycle.log :=
    represents.auditEvents lifecycle member
  obtain ⟨tables', appended⟩ := @runs_appendAudit config changed sidecar _ _ kind
    lifecycle.generation (lifecycle.stateVersion + 1) payload chain reserved known
    (consistent.checkCountCapacity_finish member nonterminal) (Nat.le_add_left _ _)
    ⟨fewEvents, fewGenerations, fewVersions⟩
  refine ⟨tables', (runs_updateGenerationState represents member next).bind
    (Runs.bind (runs_updateTransactionPointer represents member ?_ fewVersions) appended)⟩
  rfl

/-! ### Operations that finish -/

section Finish

theorem runs_nextStateVersion {snapshot : TransactionSnapshot}
    (fits : snapshot.stateVersion + 1 ≤ i64Max) :
    (nextStateVersion snapshot).Runs ⟨tables, sidecar⟩ (snapshot.stateVersion + 1)
      ⟨tables, sidecar⟩ :=
  Runs.lift (orFail_eq_ok.mpr
    (checkedAdd_eq_some.mpr ⟨rfl, fits.trans (by decide)⟩))

variable (consistent : Consistent config tables ledger) (member : lifecycle ∈ ledger)
include consistent member

/-- A prepared transaction can be aborted. -/
theorem runs_abortBody
    (prepared : lifecycle.state = .prepared) (small : tables.auditEvents.length < i64Max)
    {request : AbortRequest} (addressed : request.transactionId = lifecycle.transactionId)
    (generation : request.expectedGeneration = lifecycle.generation)
    (stateVersion : request.expectedStateVersion = lifecycle.stateVersion) :
    ∃ tables', (abortBody config request).Runs ⟨tables, sidecar⟩
      { lifecycle.snapshot with
        state := .aborted
        stateVersion := lifecycle.stateVersion + 1 } ⟨tables', sidecar⟩ := by
  have nonterminal : isNonterminal lifecycle.state = true := by rw [prepared]; rfl
  obtain ⟨-, -, fits⟩ := consistent.represents.fits member small
  have loaded := loadCurrent_eq consistent.represents member
  rw [← addressed] at loaded
  obtain ⟨tables', advances⟩ := @runs_advance config tables sidecar ledger lifecycle consistent
    member nonterminal small .aborted .abortedPrepared request.reasonDigest
  rw [prepared] at advances
  refine ⟨tables', (runs_select loaded).bind ?_⟩
  have expected : ¬ (lifecycle.snapshot.currentGeneration ≠ request.expectedGeneration ∨
      lifecycle.snapshot.stateVersion ≠ request.expectedStateVersion ∨
      lifecycle.snapshot.state ≠ .prepared) := by
    rw [generation, stateVersion]
    simp [History.snapshot, prepared]
  dsimp only
  rw [if_neg expected, addressed]
  exact (runs_reserveEvents consistent member nonterminal).bind
    ((runs_nextStateVersion fits).bind (advances.bind Runs.pure))

/-- A verified transaction can be committed with its material. -/
theorem runs_commitBody
    (verified : lifecycle.state = .verified) (small : tables.auditEvents.length < i64Max)
    {request : CommitRequest} (addressed : request.transactionId = lifecycle.transactionId)
    (generation : request.expectedGeneration = lifecycle.generation)
    (stateVersion : request.expectedStateVersion = lifecycle.stateVersion)
    (binding : request.expectedBindingDigest = lifecycle.binding.digest)
    (recorded : lifecycle.material =
      some ⟨request.desiredStateDigest, request.graphDigest, request.provenanceDigest⟩) :
    ∃ tables', (commitBody config request).Runs ⟨tables, sidecar⟩
      { lifecycle.snapshot with
        state := .committed
        stateVersion := lifecycle.stateVersion + 1 } ⟨tables', sidecar⟩ := by
  have nonterminal : isNonterminal lifecycle.state = true := by rw [verified]; rfl
  obtain ⟨-, -, fits⟩ := consistent.represents.fits member small
  have loaded := loadCurrent_eq consistent.represents member
  rw [← addressed] at loaded
  have expected : assertExpected lifecycle.snapshot request.expectedGeneration
      request.expectedStateVersion request.expectedBindingDigest .verified = .ok () :=
    assertExpected_eq_ok.mpr ⟨generation.symm, stateVersion.symm, binding.symm, verified⟩
  have repeats : ¬ ((lifecycle.currentRow config).desiredStateDigest ≠
        some request.desiredStateDigest.value ∨
      (lifecycle.currentRow config).graphDigest ≠ some request.graphDigest.value ∨
      (lifecycle.currentRow config).provenanceDigest ≠ some request.provenanceDigest.value) := by
    simp [History.currentRow, generationRow, StoredGeneration.withTag, recorded]
  obtain ⟨tables', advances⟩ := @runs_advance config tables sidecar ledger lifecycle consistent
    member nonterminal small .committed .committed (commitPayload config.sha256
      request.desiredStateDigest request.graphDigest request.provenanceDigest)
  rw [verified] at advances
  refine ⟨tables', (runs_select loaded).bind ((Runs.lift expected).bind ?_)⟩
  rw [if_neg repeats, addressed]
  exact (runs_reserveEvents consistent member nonterminal).bind
    ((runs_nextStateVersion fits).bind (advances.bind Runs.pure))

/-- An indeterminate transaction can be blocked. -/
theorem runs_recoverBody (indeterminate : lifecycle.state = .indeterminate)
    (small : tables.auditEvents.length < i64Max) {request : RecoveryRequest config.sha256}
    {now : Option Nat} {observation : ContentDigest}
    (addressed : request.transactionId = lifecycle.transactionId)
    (generation : request.expectedGeneration = lifecycle.generation)
    (stateVersion : request.expectedStateVersion = lifecycle.stateVersion)
    (binding : request.expectedBindingDigest = lifecycle.binding.digest)
    (window : enforceAuthorityWindow now request.authorizedAtUnixMs
      request.expiresAtUnixMs = .ok ())
    (resolution : request.resolution = .conflictingState observation) :
    ∃ tables', (recoverBody config request now).Runs ⟨tables, sidecar⟩
      (.blocked { lifecycle.snapshot with
        state := .recoveryBlocked
        stateVersion := lifecycle.stateVersion + 1 }) ⟨tables', sidecar⟩ := by
  have nonterminal : isNonterminal lifecycle.state = true := by rw [indeterminate]; rfl
  obtain ⟨-, -, fits⟩ := consistent.represents.fits member small
  have loaded := loadCurrent_eq consistent.represents member
  rw [← addressed] at loaded
  have expected : assertExpected lifecycle.snapshot request.expectedGeneration
      request.expectedStateVersion request.expectedBindingDigest .indeterminate = .ok () :=
    assertExpected_eq_ok.mpr ⟨generation.symm, stateVersion.symm, binding.symm, indeterminate⟩
  obtain ⟨tables', advances⟩ := @runs_advance config tables sidecar ledger lifecycle consistent
    member nonterminal small .recoveryBlocked .recoveryBlocked observation
  rw [indeterminate] at advances
  refine ⟨tables', (Runs.lift window).bind ((runs_select loaded).bind
    ((Runs.lift expected).bind ((runs_nextStateVersion fits).bind ?_)))⟩
  simp only [resolution, addressed]
  exact (runs_reserveEvents consistent member nonterminal).bind (advances.bind Runs.pure)

end Finish

/-- After every run, however full the store is, there is room to finish every unfinished
transaction: the logical reserve, the count of audit events and the reservation that the finishing
event needs are there.  So, as long as the number of audit events fits into the database's integers,
the SQLite transaction of an abort of a prepared transaction, of a recovery that finds an
indeterminate one in conflict and of a commit of a verified one succeeds, unless a statement fails. 
Moreover there are never more audit events and unfinished transactions than the limit. -/
theorem run_can_finish (config : StoreConfig) (events : List (Event config)) :
    let tables := (System.run config events).store.durable
    tables.auditEvents.length + tables.nonterminalCount ≤ config.limits.maxAuditEvents ∧
    ∀ id record generation snapshot,
      loadCurrent config tables id = .ok (record, generation, snapshot) →
      isNonterminal snapshot.state = true →
      (checkLogicalAuditReserve tables config.limits 1 (-1) = .ok () ∧
        checkCountCapacity tables .auditEvents config.limits.maxAuditEvents 1 = .ok () ∧
        ∀ sidecar, (ensureAuditReservations config id 1).Runs ⟨tables, sidecar⟩ ()
          ⟨tables, sidecar⟩) ∧
      (tables.auditEvents.length < i64Max → ∀ sidecar,
        (snapshot.state = .prepared → ∀ request : AbortRequest, request.transactionId = id →
          request.expectedGeneration = snapshot.currentGeneration →
          request.expectedStateVersion = snapshot.stateVersion →
          ∃ tables', (abortBody config request).Runs ⟨tables, sidecar⟩
            { snapshot with state := .aborted, stateVersion := snapshot.stateVersion + 1 }
            ⟨tables', sidecar⟩) ∧
        (snapshot.state = .indeterminate →
          ∀ (request : RecoveryRequest config.sha256) (now : Option Nat)
            (observation : ContentDigest),
          request.transactionId = id → request.expectedGeneration = snapshot.currentGeneration →
          request.expectedStateVersion = snapshot.stateVersion →
          request.expectedBindingDigest = snapshot.bindingDigest →
          enforceAuthorityWindow now request.authorizedAtUnixMs request.expiresAtUnixMs = .ok () →
          request.resolution = .conflictingState observation →
          ∃ tables', (recoverBody config request now).Runs ⟨tables, sidecar⟩
            (.blocked { snapshot with
              state := .recoveryBlocked
              stateVersion := snapshot.stateVersion + 1 }) ⟨tables', sidecar⟩) ∧
        (snapshot.state = .verified → ∀ request : CommitRequest, request.transactionId = id →
          request.expectedGeneration = snapshot.currentGeneration →
          request.expectedStateVersion = snapshot.stateVersion →
          request.expectedBindingDigest = snapshot.bindingDigest →
          generation.desiredStateDigest = some request.desiredStateDigest.value →
          generation.graphDigest = some request.graphDigest.value →
          generation.provenanceDigest = some request.provenanceDigest.value →
          ∃ tables', (commitBody config request).Runs ⟨tables, sidecar⟩
            { snapshot with state := .committed, stateVersion := snapshot.stateVersion + 1 }
            ⟨tables', sidecar⟩)) := by
  obtain ⟨ledger, consistent⟩ := exists_consistent_run events
  refine ⟨consistent.within.auditEvents, ?_⟩
  intro id record generation snapshot loaded nonterminal
  obtain ⟨lifecycle, member, rfl, rfl, rfl, rfl⟩ := consistent.represents.of_loadCurrent loaded
  refine ⟨⟨consistent.checkLogicalAuditReserve_finish member nonterminal,
    consistent.checkCountCapacity_finish member nonterminal,
    fun sidecar => runs_ensureAuditReservations consistent.represents member nonterminal⟩, ?_⟩
  intro small sidecar
  refine ⟨?_, ?_, ?_⟩
  · intro prepared request addressed generation stateVersion
    exact runs_abortBody consistent member prepared small addressed generation stateVersion
  · intro indeterminate request now observation addressed generation stateVersion binding window
      resolution
    exact runs_recoverBody consistent member indeterminate small addressed generation stateVersion
      binding window resolution
  · intro verified request addressed generation stateVersion binding desired graph provenance
    exact runs_commitBody consistent member verified small addressed generation stateVersion binding
      (material_of_currentRow desired graph provenance)

end Linura.Persistence
