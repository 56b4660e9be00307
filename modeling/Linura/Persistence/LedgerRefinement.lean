import Linura.Persistence.Chronicle
import Linura.Persistence.LedgerStore

/-!
# The database refines the ledger store

Whatever fails, crashes and is opened again, the tables tell what the ledger store tells that
serves the requests carried out, in their order and without faults.
-/

namespace Linura.Persistence

open Linura.Lib Linura.Core Linura.Transaction Program

variable {config : StoreConfig}

/-- What a request asks of the ledger once its authority window is checked. -/
def LedgerStore.change : Request config → LedgerProgram config.sha256 Unit
  | .prepare binding => do
    let _ ← prepare binding
  | request => request.demand.elim (pure ()) fun demand => do
    let _ ← settle demand

/-- The ledger after requests that are served one after another, each with success. -/
inductive LedgerStore.Serves : List (Request config) → List (Lifecycle config.sha256) → Prop
  | nil : Serves [] []
  | concat {requests ledger request ledger'} (served : Serves requests ledger)
      (ran : Runs (change request) ledger () ledger') : Serves (requests ++ [request]) ledger'

variable {ledger ledger' : List (Lifecycle config.sha256)} {request : Request config}

theorem findLifecycle_of_mem {lifecycle : Lifecycle config.sha256}
    (nodup : (ledgerIds ledger).Nodup)
    (member : lifecycle ∈ ledger) : findLifecycle ledger lifecycle.transactionId =
      some lifecycle := by
  refine find?_key (.of_map TransactionId.value ?_) member
  rwa [List.map_map]

theorem findLifecycle_eq_none {id : TransactionId} (absent : id.value ∉ ledgerIds ledger) :
    findLifecycle ledger id = none := by
  refine find?_key_eq_none fun known => ?_
  obtain ⟨lifecycle, member, rfl⟩ := List.mem_map.mp known
  exact absent (List.mem_map_of_mem member)

theorem Settled.runs {demand : Demand config.sha256} {old new : Lifecycle config.sha256}
    (settled : Settled demand ledger old new) :
    Runs (settle demand) ledger new (replaceLifecycle ledger new) := by
  have stepped : old.step demand.transition = some new := by
    unfold Lifecycle.step
    split
    · rename_i refused
      cases refused.symm.trans settled.applied
    · rename_i applied
      cases applied.symm.trans settled.applied
      rfl
  refine Runs.atomically.bind ((Runs.query ?_).bind (Runs.effect.bind .pure))
  simp [moveLifecycle, settled.found, settled.meets, stepped]

/-- What is carried out on the tables succeeds on the ledger. -/
theorem LedgerStep.runs (step : LedgerStep config ledger request ledger')
    (nodup : (ledgerIds ledger).Nodup) : Runs (LedgerStore.change request) ledger () ledger' := by
  cases step with
  | @prepare binding absent =>
    have ran : Runs (LedgerStore.prepare binding) ledger
      (.created (Lifecycle.prepared binding).snapshot)
        (ledger ++ [Lifecycle.prepared binding]) :=
      Runs.bind .atomically (Runs.bind (.query (congrArg Except.ok (findLifecycle_eq_none absent)))
        (Runs.bind .effect .pure))
    exact ran.bind .pure
  | move asked member meets applied =>
    have found := meets.transactionId ▸ findLifecycle_of_mem nodup member
    have ran := Settled.runs ⟨found, meets, applied⟩
    cases request with
    | prepare | integrityCheck => cases asked
    | handoff | recover | commit | abortPrepared =>
      cases asked
      exact ran.bind .pure

/-- After every run, the tables know the transactions that the ledger store knows which serves the
requests carried out one after another. -/
theorem run_refines_ledgerStore (config : StoreConfig) (events : List (Event config)) :
    ∃ ledger, LedgerStore.Serves (applied events) ledger ∧ ∀ id,
      findCurrent config (System.run config events).store.durable id =
        .ok ((findLifecycle ledger id).map fun lifecycle => lifecycle.snapshot) := by
  obtain ⟨ledger, ⟨represents, -⟩, serves⟩ :=
    @exists_ledger_of_along config [] LedgerStore.Serves .fresh
    ⟨represents_empty config, withinLimits_empty _⟩ .nil
    (fun nodup served step => served.concat (step.runs nodup)) events
  refine ⟨ledger, serves, fun id => ?_⟩
  by_cases known : id.value ∈ ledgerIds ledger
  · obtain ⟨lifecycle, member, same⟩ := List.mem_map.mp known
    obtain rfl := TransactionId.ext same
    rw [findLifecycle_of_mem represents.nodup member]
    exact findCurrent_eq represents member
  · rw [findLifecycle_eq_none known]
    exact findCurrent_eq_none represents known

end Linura.Persistence
