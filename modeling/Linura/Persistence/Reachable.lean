import Linura.Persistence.Refinement

/-!
# What holds after every run

Whatever was asked of the store, in whatever order and with whatever failures and crashes, its
own integrity check passes.
-/

namespace Linura.Persistence

open Linura.Lib Linura.Core Linura.Transaction

/-- After every run, every check of `integrity_check` that reads the tables passes: the capacities,
the logical reserve, and for each transaction its current records, its generations and its audit
chain.  A transaction has one reservation, at slot 0, exactly as long as it is not finished. -/
theorem run_integrity (config : StoreConfig) (events : List (Event config)) :
    let tables := (System.run config events).store.durable
    validateTables config tables = .ok tables.auditReservations.length ∧
      validateAggregateCapacity tables .transactions config.limits.maxTransactions = .ok () ∧
      validateAggregateCapacity tables .generations config.limits.maxGenerations = .ok () ∧
      validateAggregateCapacity tables .auditEvents config.limits.maxAuditEvents = .ok () ∧
      validateLogicalAuditReserve tables config.limits = .ok () ∧
      (∀ row ∈ tables.transactions, ∃ id record generation snapshot,
        id.value = row.transactionId ∧
        loadCurrent config tables id = .ok (record, generation, snapshot) ∧
        validateGenerationHistory config tables id record.currentGeneration = .ok () ∧
        validateAuditChain config tables id record.currentGeneration record.stateVersion = .ok () ∧
        tables.auditReservationsOf id.value =
          if isNonterminal snapshot.state then [⟨id.value, 0, reservationBytes config⟩] else []) ∧
      ∀ reservation ∈ tables.auditReservations, ∃ row ∈ tables.transactions,
        row.transactionId = reservation.transactionId := by
  obtain ⟨ledger, represents, within⟩ := exists_consistent_run events
  refine ⟨validateTables_eq_ok represents within,
    validateAggregateCapacity_eq_ok within.transactions,
    validateAggregateCapacity_eq_ok within.generations,
    validateAggregateCapacity_eq_ok (le_trans (Nat.le_add_right _ _) within.auditEvents),
    validateLogicalAuditReserve_eq_ok within.auditEvents, ?_, ?_⟩
  · intro row stored
    obtain ⟨lifecycle, member, rfl⟩ := represents.exists_lifecycle stored
    exact ⟨lifecycle.transactionId, _, _, _, rfl, loadCurrent_eq represents member,
      validateGenerationHistory_eq_ok represents within member,
      validateAuditChain_eq_ok represents within member,
      represents.auditReservations lifecycle member⟩
  · intro reservation stored
    exact represents.exists_transaction (represents.auditReservations_owned reservation stored)

end Linura.Persistence
