import Linura.Persistence.Effects
import Linura.Persistence.Integrity

/-!
# The store follows the ledger

The SQLite transaction of each operation takes tables that represent a ledger to tables that
represent the ledger with one transaction moved on, or with a new one: the store refines the
lifecycles.
-/

namespace Linura.Persistence

open Linura.Lib Linura.Core Linura.Transaction

/-! ### One transaction changes -/

variable {sha256 : Sha256}

def replaceLifecycle (ledger : List (Lifecycle sha256)) (new : Lifecycle sha256) :
    List (Lifecycle sha256) :=
  updateRows (fun lifecycle => lifecycle.transactionId.value = new.transactionId.value)
    (fun _ => new) ledger

/-- The rows of all other transactions are what they were. -/
structure AgreesOff (id : TransactionId) (tables tables' : Tables) : Prop where
  generations : ∀ other, other ≠ id.value → tables'.generationsOf other = tables.generationsOf other
  auditEvents : ∀ other, other ≠ id.value → tables'.auditEventsOf other = tables.auditEventsOf other
  auditReservations : ∀ other, other ≠ id.value →
    tables'.auditReservationsOf other = tables.auditReservationsOf other

variable {config : StoreConfig} {tables tables' : Tables}
variable {ledger : List (Lifecycle config.sha256)} {lifecycle new : Lifecycle config.sha256}

theorem ledgerIds_replaceLifecycle (ledger : List (Lifecycle sha256)) (new : Lifecycle sha256) :
    ledgerIds (replaceLifecycle ledger new) = ledgerIds ledger := by
  rw [ledgerIds, replaceLifecycle, updateRows, List.map_map]
  refine List.map_congr_left fun lifecycle _ => ?_
  simp only [Function.comp_apply]
  split
  · rename_i same
    exact (of_decide_eq_true same).symm
  · rfl

/-- A lifecycle of the changed ledger is the new one or an unchanged one of another transaction. -/
theorem mem_replaceLifecycle {ledger : List (Lifecycle sha256)} {new other : Lifecycle sha256}
    (member : other ∈ replaceLifecycle ledger new) :
    other = new ∨ (other ∈ ledger ∧ other.transactionId.value ≠ new.transactionId.value) := by
  obtain ⟨old, oldMember, rfl⟩ := List.mem_map.mp member
  by_cases same : old.transactionId.value = new.transactionId.value
  · simp [same]
  · simp [same, oldMember]

theorem new_mem_replaceLifecycle {ledger : List (Lifecycle sha256)}
    {lifecycle new : Lifecycle sha256} (member : lifecycle ∈ ledger)
    (sameId : new.transactionId = lifecycle.transactionId) : new ∈ replaceLifecycle ledger new :=
  List.mem_map.mpr ⟨lifecycle, member, by simp [sameId]⟩

theorem mem_replaceLifecycle_of_ne {ledger : List (Lifecycle sha256)} {new other : Lifecycle sha256}
    (member : other ∈ ledger) (differs : other.transactionId.value ≠ new.transactionId.value) :
    other ∈ replaceLifecycle ledger new :=
  List.mem_map.mpr ⟨other, member, by simp [differs]⟩

private theorem owned_of_agreesOff {ρ : Type} {key : ρ → String} {rows rows' : List ρ}
    {ids : List String} {id : String} (known : id ∈ ids) (owned : ∀ row ∈ rows, key row ∈ ids)
    (agrees : ∀ other, other ≠ id → (rows'.filter fun row => key row = other) =
      rows.filter fun row => key row = other) : ∀ row ∈ rows', key row ∈ ids := by
  intro row stored
  by_cases own : key row = id
  · rw [own]
    exact known
  · have selected : row ∈ rows'.filter fun r => key r = key row :=
      List.mem_filter.mpr ⟨stored, by simp⟩
    rw [agrees (key row) own] at selected
    exact owned row (List.mem_filter.mp selected).1

/-- Tables that change only in the rows of one transaction, which become those of its new lifecycle,
represent the ledger with that lifecycle replaced. -/
theorem Represents.replace (represents : Represents config tables ledger)
    (member : lifecycle ∈ ledger) (sameId : new.transactionId = lifecycle.transactionId)
    (agrees : AgreesOff lifecycle.transactionId tables tables')
    (transactions : tables'.transactions = tables.transactions.map fun row =>
      if row.transactionId = lifecycle.transactionId.value then new.transactionRow config else row)
    (generations : tables'.generationsOf lifecycle.transactionId.value = new.generationRows config)
    (auditEvents : tables'.auditEventsOf lifecycle.transactionId.value = new.auditRows config)
    (auditReservations : tables'.auditReservationsOf lifecycle.transactionId.value =
      new.reservationRows config) :
    Represents config tables' (replaceLifecycle ledger new) := by
  have known : lifecycle.transactionId.value ∈ ledgerIds ledger := List.mem_map_of_mem member
  have ids := ledgerIds_replaceLifecycle ledger new
  refine
    { nodup := by rw [ids]; exact represents.nodup
      transactions := ?_
      generations := ?_
      auditEvents := ?_
      auditReservations := ?_
      generations_owned := ?_
      auditEvents_owned := ?_
      auditReservations_owned := ?_ }
  · rw [transactions, represents.transactions, List.map_map, replaceLifecycle, updateRows,
      List.map_map]
    refine List.map_congr_left fun other _ => ?_
    by_cases same : other.transactionId.value = lifecycle.transactionId.value
    · simp [same, sameId, History.transactionRow, StoredTransaction.withTag]
    · simp [same, sameId, History.transactionRow, StoredTransaction.withTag]
  · intro other otherMember
    rcases mem_replaceLifecycle otherMember with rfl | ⟨old, differs⟩
    · rw [sameId]
      exact generations
    · rw [sameId] at differs
      rw [agrees.generations _ differs]
      exact represents.generations other old
  · intro other otherMember
    rcases mem_replaceLifecycle otherMember with rfl | ⟨old, differs⟩
    · rw [sameId]
      exact auditEvents
    · rw [sameId] at differs
      rw [agrees.auditEvents _ differs]
      exact represents.auditEvents other old
  · intro other otherMember
    rcases mem_replaceLifecycle otherMember with rfl | ⟨old, differs⟩
    · rw [sameId]
      exact auditReservations
    · rw [sameId] at differs
      rw [agrees.auditReservations _ differs]
      exact represents.auditReservations other old
  · rw [ids]
    exact owned_of_agreesOff known represents.generations_owned agrees.generations
  · rw [ids]
    exact owned_of_agreesOff known represents.auditEvents_owned agrees.auditEvents
  · rw [ids]
    exact owned_of_agreesOff known represents.auditReservations_owned agrees.auditReservations

/-! ### Pointers and generations -/

/-- The compare-and-swap on the pointer replaces the row of the transaction that was read. -/
theorem updateRows_pointer (represents : Represents config tables ledger)
    (member : lifecycle ∈ ledger) {generation version : Nat} :
    updateRows (lifecycle.transactionRow config).isUnchanged
      (repointed config (lifecycle.transactionRow config) generation version).pointTo
      tables.transactions =
    tables.transactions.map fun row => if row.transactionId = lifecycle.transactionId.value then
      repointed config (lifecycle.transactionRow config) generation version else row := by
  rw [represents.transactions, updateRows, List.map_map, List.map_map]
  refine List.map_congr_left fun other otherMember => ?_
  simp only [Function.comp_apply]
  by_cases same : other.transactionId.value = lifecycle.transactionId.value
  · obtain rfl := represents.eq_of_id_eq otherMember member same
    have unchanged : (other.transactionRow config).isUnchanged (other.transactionRow config) =
        true := by
      simp [StoredTransaction.isUnchanged]
    rw [if_pos unchanged]
    exact (if_pos rfl).symm
  · have changed : (lifecycle.transactionRow config).isUnchanged (other.transactionRow config) =
        false := by
      simp [StoredTransaction.isUnchanged, History.transactionRow, StoredTransaction.withTag, same]
    rw [changed]
    exact (if_neg same).symm

section Generations

variable {change : StoredGeneration → StoredGeneration}

theorem isUnchanged_currentRow (history : History config.sha256) :
    (history.currentRow config).isUnchanged history.state.asStr (history.currentRow config) =
      true := by
  simp [StoredGeneration.isUnchanged, History.currentRow, generationRow, StoredGeneration.withTag]

/-- An earlier generation is not the one that an update expects. -/
theorem isUnchanged_retiredRows {history : History config.sha256} {row : StoredGeneration}
    (stored : row ∈ history.retiredRows config) :
    (history.currentRow config).isUnchanged history.state.asStr row = false := by
  have number := List.mem_map_of_mem (f := fun g : StoredGeneration => g.generation) stored
  rw [generation_retiredRows, List.mem_range] at number
  simp [StoredGeneration.isUnchanged, History.currentRow, generationRow, StoredGeneration.withTag,
    number.ne]

theorem transactionId_currentRow (history : History config.sha256)
    (wellFormed : history.WellFormed) :
    (history.currentRow config).transactionId = history.transactionId.value :=
  congrArg TransactionId.value
    (wellFormed.bindings history.binding (List.mem_append_right _ (List.mem_singleton_self _)))

/-- An update of the current generation changes its row and no other row of the transaction. -/
theorem updateRows_generations_own (represents : Represents config tables ledger)
    (member : lifecycle ∈ ledger) (keeps : ∀ row, (change row).transactionId = row.transactionId) :
    ((updateRows ((lifecycle.currentRow config).isUnchanged lifecycle.state.asStr) change
      tables.generations).filter fun row => row.transactionId = lifecycle.transactionId.value) =
    lifecycle.retiredRows config ++ [change (lifecycle.currentRow config)] := by
  have own := represents.generations lifecycle member
  rw [Tables.generationsOf] at own
  have retired : updateRows ((lifecycle.currentRow config).isUnchanged lifecycle.state.asStr) change
      (lifecycle.retiredRows config) = lifecycle.retiredRows config := by
    exact updateRows_eq_self fun row => isUnchanged_retiredRows
  rw [filter_updateRows fun row _ => by rw [keeps row], own, History.generationRows,
    updateRows_append, retired]
  simp [updateRows, isUnchanged_currentRow]

/-- The rows of other transactions stay. -/
theorem updateRows_generations_other (keeps : ∀ row, (change row).transactionId = row.transactionId)
    {other : String} (ne : other ≠ lifecycle.transactionId.value) :
    ((updateRows ((lifecycle.currentRow config).isUnchanged lifecycle.state.asStr) change
      tables.generations).filter fun row => row.transactionId = other) =
    tables.generations.filter fun row => row.transactionId = other := by
  have own := transactionId_currentRow lifecycle.toHistory lifecycle.wellFormed
  apply filter_updateRows_of_disjoint
  · intro row _
    rw [keeps row]
  · intro row unchanged
    simp only [StoredGeneration.isUnchanged, own, decide_eq_true_eq] at unchanged
    simp [unchanged.1, ne.symm]

end Generations

/-! ### Audit events and reservations -/

section Events

variable {id : TransactionId}

theorem lastBy_slotRows (slots : Nat) :
    lastBy (·.slot) ((List.range (slots + 1)).map (slotRow config id)) =
      some (slotRow config id slots) := by
  have sorted : ((List.range (slots + 1)).map (slotRow config id)).Pairwise
      fun row row' => row.slot ≤ row'.slot := by
    rw [List.pairwise_map]
    exact List.pairwise_le_range
  rw [lastBy_eq_getLast? sorted, List.range_succ, List.map_append, List.map_singleton,
    List.getLast?_concat]

theorem auditReservationsOf_withoutSlot_own {slots : Nat}
    (reserved : tables.auditReservationsOf id.value =
      (List.range (slots + 1)).map (slotRow config id)) :
    (withoutSlot tables id slots).auditReservationsOf id.value =
      (List.range slots).map (slotRow config id) := by
  have others : ((List.range slots).map (slotRow config id)).filter
      (fun row => !row.isSlot id slots) = (List.range slots).map (slotRow config id) := by
    rw [List.filter_eq_self]
    intro row stored
    obtain ⟨slot, inRange, rfl⟩ := List.mem_map.mp stored
    simp [AuditReservation.isSlot, slotRow, (List.mem_range.mp inRange).ne]
  rw [Tables.auditReservationsOf] at reserved
  rw [Tables.auditReservationsOf, withoutSlot, List.filter_comm, reserved, List.range_succ,
    List.map_append, List.filter_append, others]
  simp [AuditReservation.isSlot, slotRow]

theorem auditReservationsOf_withoutSlot_other {slot : Nat} {other : String}
    (ne : other ≠ id.value) :
    (withoutSlot tables id slot).auditReservationsOf other = tables.auditReservationsOf other := by
  rw [Tables.auditReservationsOf, withoutSlot, List.filter_comm, Tables.auditReservationsOf,
    List.filter_eq_self]
  intro row stored
  have key := (List.mem_filter.mp stored).2
  simp only [decide_eq_true_eq] at key
  simp [AuditReservation.isSlot, key, ne]

/-- Appending an event that consumes a reservation, seen from the transaction and from outside. -/
structure Appended (config : StoreConfig) (id : TransactionId) (log : List AuditEntry) (slots : Nat)
    (tables tables' : Tables) : Prop where
  transactions : tables'.transactions = tables.transactions
  generations : tables'.generations = tables.generations
  auditEvents_length : tables'.auditEvents.length = tables.auditEvents.length + 1
  auditEvents : tables'.auditEventsOf id.value = chainFrom config id 0 .zero log
  auditReservations : tables'.auditReservationsOf id.value =
    (List.range slots).map (slotRow config id)
  agrees : AgreesOff id tables tables'

/-- An appended event extends the log of its transaction. -/
theorem Yields.appended (kind : EventKind) {generation stateVersion : Nat} {payload : ContentDigest}
    {value : Unit} {log : List AuditEntry} {slots : Nat}
    (yields : Yields (Persistence.appendAudit config id generation stateVersion kind.asStr payload
      true) tables value tables')
    (chain : tables.auditEventsOf id.value = chainFrom config id 0 .zero log)
    (few : log.length ≤ u64Max)
    (reserved : tables.auditReservationsOf id.value =
      (List.range (slots + 1)).map (slotRow config id)) :
    Appended config id (log ++ [⟨generation, stateVersion, kind, payload⟩]) slots
      tables tables' := by
  obtain ⟨sequence, previous, between, linked, consumed, rfl⟩ := yields.appendAudit
  rw [nextLink_eq chain few] at linked
  cases linked
  obtain ⟨row, last, rfl⟩ := consumed
  rw [reserved, lastBy_slotRows] at last
  cases last
  have row : entryRow config id log.length (chainDigest config id 0 .zero log)
      ⟨generation, stateVersion, kind, payload⟩ = auditRow config id log.length generation
        stateVersion kind.asStr payload (chainDigest config id 0 .zero log) := rfl
  have keys : ∀ event ∈ [auditRow config id log.length generation stateVersion kind.asStr payload
      (chainDigest config id 0 .zero log)], event.transactionId = id.value := by
    intro event stored
    rw [List.mem_singleton.mp stored]
    rfl
  refine
    { transactions := rfl
      generations := rfl
      auditEvents_length := by simp [withoutSlot]
      auditEvents := ?_
      auditReservations := auditReservationsOf_withoutSlot_own reserved
      agrees := ⟨fun _ _ => rfl, fun other ne => filter_append_of_ne keys ne,
        fun other ne => auditReservationsOf_withoutSlot_other ne⟩ }
  have appended := filter_append_of_eq tables.auditEvents keys
  rw [Tables.auditEventsOf] at chain
  rw [chain] at appended
  rw [chainFrom_append, Nat.zero_add, chainFrom, chainFrom, row]
  exact appended

end Events

/-- Tables in which a transaction has some reservations and nothing else changed. -/
structure Reserved (config : StoreConfig) (id : TransactionId) (slots : Nat)
    (tables tables' : Tables) : Prop where
  transactions : tables'.transactions = tables.transactions
  generations : tables'.generations = tables.generations
  auditEvents : tables'.auditEvents = tables.auditEvents
  auditReservations : tables'.auditReservationsOf id.value =
    (List.range slots).map (slotRow config id)
  others : ∀ other, other ≠ id.value →
    tables'.auditReservationsOf other = tables.auditReservationsOf other

/-- An unfinished transaction has the first reservation, and the others are added. -/
theorem Yields.reserved {additional required : Nat} {delta : Int} {value : Unit}
    (yields : Yields (Persistence.reserveEvents config lifecycle.transactionId additional
      delta required) tables
      value tables')
    (represents : Represents config tables ledger) (member : lifecycle ∈ ledger)
    (nonterminal : isNonterminal lifecycle.state = true) :
    checkLogicalAuditReserve tables config.limits additional delta = .ok () ∧
      Reserved config lifecycle.transactionId required tables tables' := by
  obtain ⟨checked, existing, counted, enough, rfl⟩ := yields.reserveEvents
  rw [countReservations_eq represents member, nonterminal] at counted
  cases counted
  have own := represents.auditReservations lifecycle member
  rw [History.reservationRows, if_pos nonterminal, Tables.auditReservationsOf] at own
  have keys : ∀ row ∈ (List.range' 1 (required - 1)).map (slotRow config lifecycle.transactionId),
      row.transactionId = lifecycle.transactionId.value := by
    intro row stored
    obtain ⟨slot, -, rfl⟩ := List.mem_map.mp stored
    rfl
  refine ⟨checked, rfl, rfl, rfl, ?_, fun other ne => filter_append_of_ne keys ne⟩
  have grown := filter_append_of_eq tables.auditReservations keys
  have slots : List.range required = 0 :: List.range' 1 (required - 1) := by
    have positive : required = required - 1 + 1 := (Nat.sub_add_cancel enough).symm
    rw [List.range_eq_range', positive, List.range'_succ, Nat.add_sub_cancel]
  rw [own] at grown
  rw [slots]
  exact grown

/-! ### Moving on within a generation -/

/-- The tables represent a ledger and stay within the limits. -/
structure Consistent (config : StoreConfig) (tables : Tables)
    (ledger : List (Lifecycle config.sha256)) : Prop where
  represents : Represents config tables ledger
  within : WithinLimits config.limits tables

/-- Replacing a lifecycle changes the number of unfinished ones by its own. -/
theorem unfinished_replaceLifecycle {ledger : List (Lifecycle sha256)}
    {lifecycle new : Lifecycle sha256} (nodup : (ledgerIds ledger).Nodup)
    (member : lifecycle ∈ ledger) (sameId : new.transactionId = lifecycle.transactionId) :
    unfinished (replaceLifecycle ledger new) + (isNonterminal lifecycle.state).toNat =
      unfinished ledger + (isNonterminal new.state).toNat := by
  have count : ∀ (head : Lifecycle sha256) rest, unfinished (head :: rest) =
      unfinished rest + (isNonterminal head.state).toNat := by
    intro head rest
    rw [unfinished, List.countP_cons, unfinished]
    cases isNonterminal head.state <;> rfl
  induction ledger with
  | nil => cases member
  | cons head rest ih =>
    obtain ⟨fresh, nodupRest⟩ := List.nodup_cons.mp nodup
    have step : replaceLifecycle (head :: rest) new =
        (if head.transactionId.value = new.transactionId.value then new else head) ::
          replaceLifecycle rest new := by
      simp [replaceLifecycle, updateRows]
    rcases List.mem_cons.mp member with rfl | later
    · have same : replaceLifecycle rest new = rest := by
        apply updateRows_eq_self
        intro other otherMember
        simp only [decide_eq_false_iff_not, sameId]
        intro clash
        exact fresh (List.mem_map.mpr ⟨other, otherMember, clash⟩)
      rw [step, if_pos (by rw [sameId]), same, count, count]
      omega
    · have distinct : head.transactionId.value ≠ new.transactionId.value := by
        intro clash
        rw [sameId] at clash
        exact fresh (List.mem_map.mpr ⟨lifecycle, later, clash.symm⟩)
      have rest := ih nodupRest later
      rw [step, if_neg distinct, count, count]
      omega

/-- Tables that represent the ledger with a lifecycle replaced stay within the limits if there was
room for the events and for finishing. -/
theorem Consistent.of_replace {additional : Nat} {delta : Int}
    (consistent : Consistent config tables ledger) (member : lifecycle ∈ ledger)
    (sameId : new.transactionId = lifecycle.transactionId)
    (represents : Represents config tables' (replaceLifecycle ledger new))
    (generations : tables'.generations.length ≤ config.limits.maxGenerations)
    (auditEvents : tables'.auditEvents.length = tables.auditEvents.length + additional)
    (checked : checkLogicalAuditReserve tables config.limits additional delta = .ok ())
    (balance : (isNonterminal new.state).toNat = (isNonterminal lifecycle.state).toNat + delta) :
    Consistent config tables' (replaceLifecycle ledger new) := by
  have count := unfinished_replaceLifecycle consistent.represents.nodup member sameId
  obtain ⟨-, room⟩ := checkLogicalAuditReserve_eq_ok.mp checked
  rw [nonterminalCount_eq consistent.represents] at room
  have transactions : tables'.transactions.length = tables.transactions.length := by
    rw [represents.transactions, consistent.represents.transactions, List.length_map,
      List.length_map, replaceLifecycle, length_updateRows]
  refine ⟨represents, ?_, generations, ?_⟩
  · rw [transactions]
    exact consistent.within.transactions
  · rw [nonterminalCount_eq represents, auditEvents]
    omega

/-- The current generation of a lifecycle becomes a given row, and nothing else changes. -/
structure CurrentBecomes (lifecycle : Lifecycle config.sha256) (row : StoredGeneration)
    (tables tables' : Tables) : Prop where
  rest : tables' = { tables with generations := tables'.generations }
  length : tables'.generations.length = tables.generations.length
  own : tables'.generationsOf lifecycle.transactionId.value = lifecycle.retiredRows config ++ [row]
  others : ∀ other, other ≠ lifecycle.transactionId.value →
    tables'.generationsOf other = tables.generationsOf other

section Change

variable {between after : Tables} {slots : Nat} {value : Unit}

section Represented

variable (represents : Represents config tables ledger) (member : lifecycle ∈ ledger)
include represents member

theorem currentBecomes_update (same : between.generations = tables.generations)
    (change : StoredGeneration → StoredGeneration)
    (keeps : ∀ row, (change row).transactionId = row.transactionId) :
    CurrentBecomes lifecycle (change (lifecycle.currentRow config)) between
      { between with
        generations := updateRows ((lifecycle.currentRow config).isUnchanged lifecycle.state.asStr)
          change between.generations } where
  rest := rfl
  length := length_updateRows
  own := by
    rw [same]
    exact updateRows_generations_own represents member keeps
  others := by
    intro other ne
    exact updateRows_generations_other keeps ne

/-- `update_generation_state` moves the current generation to another state. -/
theorem Yields.currentBecomes_moved {state next : TransactionState}
    {material : Option CommitMaterial}
    (yields : Yields (Persistence.updateGenerationState config (lifecycle.currentRow config) state
      next) between value after)
    (same : between.generations = tables.generations) (current : lifecycle.state = state)
    (recorded : lifecycle.material = material) :
    CurrentBecomes lifecycle
      (generationRow config lifecycle.binding lifecycle.generation next material)
        between after := by
  obtain rfl := yields.updateGenerationState
  subst current recorded
  exact currentBecomes_update represents member same
    (moved config (lifecycle.currentRow config) next).moveTo fun _ => rfl

/-- `update_generation_to_verified` also records the commit material. -/
theorem Yields.currentBecomes_verified {material : CommitMaterial}
    (yields : Yields (Persistence.updateGenerationToVerified config (lifecycle.currentRow config)
      material.desired material.graph material.provenance) between value after)
    (same : between.generations = tables.generations)
    (current : lifecycle.state = .indeterminate) :
    CurrentBecomes lifecycle
      (generationRow config lifecycle.binding lifecycle.generation .verified (some material))
      between after := by
  obtain rfl := yields.updateGenerationToVerified
  rw [← current]
  exact currentBecomes_update represents member same
    (verified config (lifecycle.currentRow config) material.desired material.graph
      material.provenance).verifyTo fun _ => rfl

/-- A recovery that cannot tell leaves the generation alone. -/
theorem currentBecomes_self (same : between.generations = tables.generations) :
    CurrentBecomes lifecycle (lifecycle.currentRow config) between between where
  rest := rfl
  length := rfl
  own := by
    rw [Tables.generationsOf, same]
    exact represents.generations lifecycle member
  others := fun _ _ => rfl

/-- No log is longer than the table of events. -/
theorem Represents.log_length_le : lifecycle.log.length ≤ tables.auditEvents.length := by
  calc
    lifecycle.log.length = (lifecycle.auditRows config).length := (chainFrom_length _ _ _).symm
    _ = (tables.auditEventsOf lifecycle.transactionId.value).length := by
      rw [represents.auditEvents lifecycle member]
    _ ≤ tables.auditEvents.length := List.length_filter_le _ _

end Represented

theorem Consistent.auditEvents_length_le (consistent : Consistent config tables ledger) :
    tables.auditEvents.length ≤ u64Max :=
  (le_trans (Nat.le_add_right _ _) consistent.within.auditEvents).trans config.limits.fits.2.2.1

/-- Moving a lifecycle on within its generation. -/
theorem Yields.advance_consistent {changeGeneration : SqlProgram Unit} {kind : EventKind}
    {payload : ContentDigest} {material : Option CommitMaterial} {delta : Int}
    (yields : Yields (Persistence.advance config lifecycle.transactionId
      (lifecycle.transactionRow config) lifecycle.generation (lifecycle.stateVersion + 1)
      changeGeneration kind.asStr payload) between value tables')
    (consistent : Consistent config tables ledger) (member : lifecycle ∈ ledger)
    (checked : checkLogicalAuditReserve tables config.limits 1 delta = .ok ())
    (reserved : Reserved config lifecycle.transactionId
      ((isNonterminal kind.state).toNat + 1) tables
      between)
    (balance : (isNonterminal kind.state).toNat = 1 + delta)
    (follows : Follows lifecycle.state kind)
    (fits : History.MaterialFits config.sha256 kind payload material)
    (changes : ∀ value after, Yields changeGeneration between value after →
      CurrentBecomes lifecycle
        (generationRow config lifecycle.binding lifecycle.generation kind.state material)
        between after) :
    Consistent config tables' (replaceLifecycle ledger
      ⟨lifecycle.advance kind payload material, lifecycle.wellFormed.advance follows fits⟩) := by
  have represents := consistent.represents
  obtain ⟨_, after, changed, yields⟩ := yields.bind
  obtain ⟨_, pointed, moves, yields⟩ := yields.bind
  have becomes := changes _ _ changed
  -- the pointer moves, and then the event is appended, in what the generation's change left
  have repointing := moves.updateTransactionPointer
  have transactions : after.transactions = tables.transactions := by
    rw [becomes.rest, ← reserved.transactions]
  have events : pointed.auditEvents = tables.auditEvents := by
    rw [repointing, ← reserved.auditEvents, becomes.rest]
  have reservations : pointed.auditReservations = between.auditReservations := by
    rw [repointing, becomes.rest]
  rw [transactions, updateRows_pointer represents member] at repointing
  have chain : pointed.auditEventsOf lifecycle.transactionId.value =
      chainFrom config lifecycle.transactionId 0 .zero lifecycle.log := by
    rw [Tables.auditEventsOf, events]
    exact represents.auditEvents lifecycle member
  have slots : pointed.auditReservationsOf lifecycle.transactionId.value =
      (List.range ((isNonterminal kind.state).toNat + 1)).map
        (slotRow config lifecycle.transactionId) := by
    rw [Tables.auditReservationsOf, reservations]
    exact reserved.auditReservations
  have appended := yields.appended kind chain
    ((represents.log_length_le member).trans consistent.auditEvents_length_le) slots
  have generations : tables'.generations = after.generations := by
    rw [appended.generations, repointing]
  have agrees : AgreesOff lifecycle.transactionId tables tables' := by
    refine ⟨fun other ne => ?_, fun other ne => ?_, fun other ne => ?_⟩
    · rw [Tables.generationsOf, generations]
      refine (becomes.others other ne).trans ?_
      rw [Tables.generationsOf, reserved.generations, Tables.generationsOf]
    · rw [appended.agrees.auditEvents other ne, Tables.auditEventsOf, events, Tables.auditEventsOf]
    · rw [appended.agrees.auditReservations other ne, Tables.auditReservationsOf, reservations]
      exact reserved.others other ne
  refine consistent.of_replace member rfl ?_ ?_ ?_ checked ?_
  · refine represents.replace member rfl agrees ?_ ?_ appended.auditEvents ?_
    · rw [appended.transactions, repointing]
      rfl
    · rw [Tables.generationsOf, generations]
      exact becomes.own
    · rw [appended.auditReservations]
      cases nonterminal : isNonterminal kind.state with
      | false => simp [History.reservationRows, History.advance, nonterminal]
      | true => simp [History.reservationRows, History.advance, nonterminal, slotRow]
  · rw [generations, becomes.length, reserved.generations]
    exact consistent.within.generations
  · rw [appended.auditEvents_length, events]
  · rw [follows.isNonterminal]
    exact balance

end Change

/-! ### The next generation -/

theorem History.generation_renew (history : History sha256) (observation : ContentDigest)
    (next : AuthorityBinding sha256) :
    (history.renew observation next).generation = history.generation + 1 := by
  simp [History.renew, History.generation]

theorem transactionRow_renew (history : History config.sha256) (observation : ContentDigest)
    (next : AuthorityBinding config.sha256) :
    (history.renew observation next).transactionRow config =
      repointed config (history.transactionRow config) (history.generation + 1)
        (history.stateVersion + 1) := by
  rw [History.transactionRow, History.generation_renew]
  rfl

theorem retiredRows_renew (history : History config.sha256) (observation : ContentDigest)
    (next : AuthorityBinding config.sha256) :
    (history.renew observation next).retiredRows config = history.retiredRows config ++
      [generationRow config history.binding history.generation .aborted none] := by
  simp [History.retiredRows, History.renew, List.mapIdx_append, History.generation]

/-- Only verified and committed transactions have commit material. -/
theorem Lifecycle.material_eq_none (lifecycle : Lifecycle sha256)
    (unverified : lifecycle.state ≠ .verified) (uncommitted : lifecycle.state ≠ .committed) :
    lifecycle.material = none := by
  have isSome := lifecycle.wellFormed.material_isSome
  rw [← Option.not_isSome_iff_eq_none, isSome]
  simp [unverified, uncommitted]

section Renewal

variable {between retired pointed first : Tables} {observation : ContentDigest}
variable {next : AuthorityBinding config.sha256}

/-- The tables after a generation was retired and the next one was inserted and pointed to. -/
structure Renewed (lifecycle : Lifecycle config.sha256) (next : AuthorityBinding config.sha256)
    (tables between pointed : Tables) : Prop where
  transactions : pointed.transactions = updateRows (lifecycle.transactionRow config).isUnchanged
    (repointed config (lifecycle.transactionRow config) (lifecycle.generation + 1)
      (lifecycle.stateVersion + 1)).pointTo tables.transactions
  generations_length : pointed.generations.length = tables.generations.length + 1
  own : pointed.generationsOf lifecycle.transactionId.value = lifecycle.retiredRows config ++
    [generationRow config lifecycle.binding lifecycle.generation .aborted none] ++
    [preparedRow config next (lifecycle.generation + 1)]
  others : ∀ other, other ≠ lifecycle.transactionId.value →
    pointed.generationsOf other = tables.generationsOf other
  auditEvents : pointed.auditEvents = tables.auditEvents
  auditReservations : pointed.auditReservations = between.auditReservations

theorem renewed_of_reserved {slots : Nat}
    (reserved : Reserved config lifecycle.transactionId slots tables between)
    (becomes : CurrentBecomes lifecycle
      (generationRow config lifecycle.binding lifecycle.generation .aborted none) between retired)
    (own : next.transactionId = lifecycle.transactionId)
    (repointing : pointed = { retired with
      generations := retired.generations ++ [preparedRow config next (lifecycle.generation + 1)]
      transactions := updateRows (lifecycle.transactionRow config).isUnchanged
        (repointed config (lifecycle.transactionRow config) (lifecycle.generation + 1)
          (lifecycle.stateVersion + 1)).pointTo retired.transactions }) :
    Renewed lifecycle next tables between pointed := by
  have keys : ∀ row ∈ [preparedRow config next (lifecycle.generation + 1)],
      row.transactionId = lifecycle.transactionId.value := by
    intro row stored
    rw [List.mem_singleton.mp stored, ← own]
    rfl
  refine
    { transactions := ?_
      generations_length := ?_
      own := ?_
      others := ?_
      auditEvents := ?_
      auditReservations := ?_ }
  · rw [repointing, ← reserved.transactions, becomes.rest]
  · rw [repointing, ← reserved.generations, ← becomes.length, List.length_append,
      List.length_singleton]
  · rw [repointing, ← becomes.own]
    exact filter_append_of_eq _ keys
  · intro other ne
    rw [Tables.generationsOf, repointing]
    refine (filter_append_of_ne keys ne).trans ((becomes.others other ne).trans ?_)
    rw [Tables.generationsOf, reserved.generations, Tables.generationsOf]
  · rw [repointing, ← reserved.auditEvents, becomes.rest]
  · rw [repointing, becomes.rest]

/-- A renewed transaction stays consistent. -/
theorem Renewed.consistent (renewed : Renewed lifecycle next tables between pointed)
    (consistent : Consistent config tables ledger) (member : lifecycle ∈ ledger)
    (indeterminate : lifecycle.state = .indeterminate)
    (own : next.transactionId = lifecycle.transactionId)
    (lt : lifecycle.generation + 1 < maxTransactionGenerations)
    (capacity : tables.generations.length + 1 ≤ config.limits.maxGenerations)
    (checked : checkLogicalAuditReserve tables config.limits 2 0 = .ok ())
    (reserved : Reserved config lifecycle.transactionId 3 tables between)
    (appended : Appended config lifecycle.transactionId (lifecycle.log ++
      [⟨lifecycle.generation, lifecycle.stateVersion + 1, .recoveryRetiredNoEffect, observation⟩]) 2
      pointed first)
    (appendedNext : Appended config lifecycle.transactionId
      (lifecycle.renew observation next).log 1 first tables') :
    Consistent config tables' (replaceLifecycle ledger ⟨lifecycle.renew observation next,
      lifecycle.wellFormed.renew indeterminate own lt⟩) := by
  have represents := consistent.represents
  have generations : tables'.generations = pointed.generations :=
    appendedNext.generations.trans appended.generations
  have agrees : AgreesOff lifecycle.transactionId tables tables' := by
    refine ⟨fun other ne => ?_, fun other ne => ?_, fun other ne => ?_⟩
    · rw [Tables.generationsOf, generations]
      exact renewed.others other ne
    · rw [appendedNext.agrees.auditEvents other ne, appended.agrees.auditEvents other ne,
        Tables.auditEventsOf, renewed.auditEvents, Tables.auditEventsOf]
    · rw [appendedNext.agrees.auditReservations other ne,
        appended.agrees.auditReservations other ne,
        Tables.auditReservationsOf, renewed.auditReservations]
      exact reserved.others other ne
  refine consistent.of_replace member rfl ?_ ?_ ?_ checked ?_
  · refine represents.replace member rfl agrees ?_ ?_ appendedNext.auditEvents ?_
    · rw [appendedNext.transactions, appended.transactions, renewed.transactions,
        updateRows_pointer represents member, transactionRow_renew]
    · rw [Tables.generationsOf, generations, History.generationRows, retiredRows_renew,
        History.currentRow, History.generation_renew]
      have material :=
        lifecycle.material_eq_none (by simp [indeterminate]) (by simp [indeterminate])
      have current : generationRow config next (lifecycle.generation + 1) .prepared
          (lifecycle.renew observation next).material =
            preparedRow config next (lifecycle.generation + 1) := by
        rw [History.renew, material]
        rfl
      exact renewed.own.trans (by rw [← current]; rfl)
    · rw [appendedNext.auditReservations]
      rfl
  · rw [generations, renewed.generations_length]
    exact capacity
  · rw [appendedNext.auditEvents_length, appended.auditEvents_length, renewed.auditEvents]
  · rw [indeterminate]
    rfl

/-- Retiring a generation and preparing the next one. -/
theorem Yields.reprepare_consistent {outcome : RecoveryOutcome}
    (yields : Yields (Persistence.reprepare config lifecycle.transactionId
      (lifecycle.transactionRow config) (lifecycle.currentRow config) lifecycle.snapshot
      (lifecycle.stateVersion + 1) observation next) tables outcome tables')
    (consistent : Consistent config tables ledger) (member : lifecycle ∈ ledger)
    (indeterminate : lifecycle.state = .indeterminate) :
    ∃ (own : next.transactionId = lifecycle.transactionId)
      (lt : lifecycle.generation + 1 < maxTransactionGenerations),
      Consistent config tables' (replaceLifecycle ledger ⟨lifecycle.renew observation next,
        lifecycle.wellFormed.renew indeterminate own lt⟩) := by
  have represents := consistent.represents
  have nonterminal : isNonterminal lifecycle.state = true := by rw [indeterminate]; rfl
  unfold Persistence.reprepare at yields
  split at yields
  · exact yields.not_fail.elim
  rename_i own
  rw [not_not] at own
  obtain ⟨nextGeneration, computed, yields⟩ := yields.bind_lift
  obtain ⟨rfl, -⟩ := checkedAdd_eq_some.mp (orFail_eq_ok.mp computed)
  split at yields
  · exact yields.not_fail.elim
  rename_i lt
  rw [Nat.not_le] at lt
  refine ⟨own, lt, ?_⟩
  obtain ⟨_, capacity, yields⟩ := yields.bind_select
  obtain ⟨_, between, reserves, yields⟩ := yields.bind
  obtain ⟨checked, reserved⟩ := reserves.reserved represents member nonterminal
  obtain ⟨_, retired, retires, yields⟩ := yields.bind
  have becomes := retires.currentBecomes_moved represents member reserved.generations indeterminate
    (lifecycle.material_eq_none (by simp [indeterminate]) (by simp [indeterminate]))
  obtain ⟨_, inserted, inserts, yields⟩ := yields.bind
  obtain ⟨_, pointed, moves, yields⟩ := yields.bind
  have repointing := moves.updateTransactionPointer
  rw [inserts.insertGeneration] at repointing
  have renewed := renewed_of_reserved reserved becomes own repointing
  obtain ⟨_, first, appends, yields⟩ := yields.bind
  obtain ⟨_, second, appendsNext, yields⟩ := yields.bind
  obtain ⟨-, rfl⟩ := yields.pure
  -- there was room for both events, so neither the chain's numbers nor the counts overflow
  have room : tables.auditEvents.length + 1 ≤ u64Max := by
    have fits := (checkLogicalAuditReserve_eq_ok.mp checked).2
    have small := config.limits.fits.2.2.1
    omega
  have few := represents.log_length_le member
  have generations := generations_length_le represents
  have chain : pointed.auditEventsOf lifecycle.transactionId.value =
      chainFrom config lifecycle.transactionId 0 .zero lifecycle.log := by
    rw [Tables.auditEventsOf, renewed.auditEvents]
    exact represents.auditEvents lifecycle member
  have slots : pointed.auditReservationsOf lifecycle.transactionId.value =
      (List.range (2 + 1)).map (slotRow config lifecycle.transactionId) := by
    rw [Tables.auditReservationsOf, renewed.auditReservations]
    exact reserved.auditReservations
  have appended := appends.appended .recoveryRetiredNoEffect chain (by omega) slots
  have appendedNext := appendsNext.appended .recoveryReprepared appended.auditEvents
    (by rw [List.length_append, List.length_singleton]; omega) appended.auditReservations
  refine renewed.consistent consistent member indeterminate own lt ?_ checked reserved appended
    appendedNext
  exact (checkCountCapacity_eq_ok (show tables.generations.length + 1 ≤
    u64Max by omega)).mp capacity

end Renewal

/-! ### A new transaction -/

section Creation

variable {binding : AuthorityBinding config.sha256}

/-- The lifecycle of a transaction that was just prepared. -/
def Lifecycle.prepared {sha256 : Sha256} (binding : AuthorityBinding sha256) : Lifecycle sha256 :=
  ⟨History.prepared binding, History.wellFormed_prepared binding⟩

theorem transactionId_of_mem_generationRows {row : StoredGeneration}
    (stored : row ∈ lifecycle.generationRows config) :
    row.transactionId = lifecycle.transactionId.value := by
  have bindings := lifecycle.wellFormed.bindings
  rcases List.mem_append.mp stored with retired | current
  · obtain ⟨generation, lt, rfl⟩ := List.mem_mapIdx.mp retired
    exact congrArg TransactionId.value
      (bindings _ (List.mem_append_left _ (List.getElem_mem lt)))
  · rw [List.mem_singleton.mp current]
    exact transactionId_currentRow lifecycle.toHistory lifecycle.wellFormed

theorem transactionId_of_mem_reservationRows {row : AuditReservation}
    (stored : row ∈ lifecycle.reservationRows config) :
    row.transactionId = lifecycle.transactionId.value := by
  unfold History.reservationRows at stored
  split at stored
  · rw [List.mem_singleton.mp stored]
  · cases stored

/-- No row belongs to a transaction that is not in the ledger. -/
private theorem filter_eq_nil_of_absent {ρ : Type} {key : ρ → String} {rows : List ρ}
    {ids : List String} {id : String} (owned : ∀ row ∈ rows, key row ∈ ids) (absent : id ∉ ids) :
    (rows.filter fun row => key row = id) = [] := by
  rw [List.filter_eq_nil_iff]
  intro row stored
  simp only [decide_eq_true_eq]
  rintro rfl
  exact absent (owned row stored)

private theorem view_append {ρ : Type} {key : ρ → String} {rows : List ρ}
    {view : Lifecycle config.sha256 → List ρ}
    (views : ∀ lifecycle ∈ ledger,
      (rows.filter fun row => key row = lifecycle.transactionId.value) = view lifecycle)
    (owned : ∀ row ∈ rows, key row ∈ ledgerIds ledger)
    (absent : new.transactionId.value ∉ ledgerIds ledger)
    (keys : ∀ row ∈ view new, key row = new.transactionId.value) :
    (∀ lifecycle ∈ ledger ++ [new], ((rows ++ view new).filter fun row =>
      key row = lifecycle.transactionId.value) = view lifecycle) ∧
    ∀ row ∈ rows ++ view new, key row ∈ ledgerIds (ledger ++ [new]) := by
  have ids : ledgerIds (ledger ++ [new]) = ledgerIds ledger ++ [new.transactionId.value] := by
    simp [ledgerIds]
  constructor
  · intro lifecycle member
    rcases List.mem_append.mp member with old | added
    · have known : lifecycle.transactionId.value ∈ ledgerIds ledger := List.mem_map_of_mem old
      have ne : lifecycle.transactionId.value ≠ new.transactionId.value := by
        intro same
        exact absent (same ▸ known)
      rw [filter_append_of_ne keys ne]
      exact views lifecycle old
    · rw [List.mem_singleton.mp added, filter_append_of_eq rows keys,
        filter_eq_nil_of_absent owned absent, List.nil_append]
  · intro row stored
    rw [ids]
    rcases List.mem_append.mp stored with old | added
    · exact List.mem_append_left _ (owned row old)
    · rw [keys row added]
      exact List.mem_append_right _ (List.mem_singleton_self _)

/-- The tables with the rows of another transaction. -/
def Tables.with (tables : Tables) (new : Lifecycle config.sha256) : Tables where
  transactions := tables.transactions ++ [new.transactionRow config]
  generations := tables.generations ++ new.generationRows config
  auditEvents := tables.auditEvents ++ new.auditRows config
  auditReservations := tables.auditReservations ++ new.reservationRows config

/-- Tables to which the rows of another transaction were added represent the longer ledger. -/
theorem Represents.append (represents : Represents config tables ledger)
    (absent : new.transactionId.value ∉ ledgerIds ledger) :
    Represents config (tables.with new) (ledger ++ [new]) := by
  obtain ⟨generations, generationsOwned⟩ := view_append represents.generations
    represents.generations_owned absent fun _ => transactionId_of_mem_generationRows
  obtain ⟨auditEvents, auditEventsOwned⟩ := view_append represents.auditEvents
    represents.auditEvents_owned absent fun _ => transactionId_of_mem_chainFrom
  obtain ⟨auditReservations, auditReservationsOwned⟩ := view_append represents.auditReservations
    represents.auditReservations_owned absent fun _ => transactionId_of_mem_reservationRows
  refine
    { nodup := ?_
      transactions := ?_
      generations := generations
      auditEvents := auditEvents
      auditReservations := auditReservations
      generations_owned := generationsOwned
      auditEvents_owned := auditEventsOwned
      auditReservations_owned := auditReservationsOwned }
  · rw [ledgerIds, List.map_append, List.map_singleton, List.nodup_append_comm]
    exact List.nodup_cons.mpr ⟨absent, represents.nodup⟩
  · rw [Tables.with, represents.transactions, List.map_append, List.map_singleton]

/-- The rows that `prepare` inserts are those of a prepared transaction. -/
theorem Yields.createTransaction_eq {value : Unit}
    (yields : Yields (Persistence.createTransaction config binding) tables value tables')
    (represents : Represents config tables ledger)
    (absent : binding.transactionId.value ∉ ledgerIds ledger) :
    checkCountCapacity tables .transactions config.limits.maxTransactions 1 = .ok () ∧
      checkCountCapacity tables .generations config.limits.maxGenerations 1 = .ok () ∧
      checkLogicalAuditReserve tables config.limits 1 1 = .ok () ∧
      tables' = tables.with (Lifecycle.prepared binding) := by
  obtain ⟨_, transactions, yields⟩ := yields.bind_select
  obtain ⟨_, generations, yields⟩ := yields.bind_select
  obtain ⟨_, checked, yields⟩ := yields.bind_select
  obtain ⟨_, inserted, executes, yields⟩ := yields.bind
  have insertedEq := insertTransaction_eq_ok executes.execute
  obtain ⟨_, grown, grows, yields⟩ := yields.bind
  have grownEq := grows.insertGeneration
  obtain ⟨_, logged, appends, reserving⟩ := yields.bind
  obtain ⟨sequence, previous, between, linked, rfl, loggedEq⟩ := appends.appendAudit
  obtain ⟨existing, counted, -, reserves⟩ := reserving.ensureAuditReservations
  -- nothing is there of the transaction yet: its chain and its slots start at zero
  have chain : between.auditEventsOf binding.transactionId.value =
      chainFrom config binding.transactionId 0 .zero [] := by
    rw [grownEq, insertedEq]
    exact filter_eq_nil_of_absent represents.auditEvents_owned absent
  rw [nextLink_eq chain (Nat.zero_le _)] at linked
  cases linked
  have none : logged.auditReservationsOf binding.transactionId.value = [] := by
    rw [loggedEq, grownEq, insertedEq]
    exact filter_eq_nil_of_absent represents.auditReservations_owned absent
  rw [countReservations, none] at counted
  cases counted
  refine ⟨transactions, generations, checked, ?_⟩
  rw [reserves, loggedEq, grownEq, insertedEq]
  rfl

/-- A prepared transaction is added to the ledger. -/
theorem Yields.createTransaction_consistent {value : Unit}
    (yields : Yields (Persistence.createTransaction config binding) tables value tables')
    (consistent : Consistent config tables ledger)
    (absent : binding.transactionId.value ∉ ledgerIds ledger) :
    Consistent config tables' (ledger ++ [Lifecycle.prepared binding]) := by
  have represents := consistent.represents
  obtain ⟨transactions, generations, checked, rfl⟩ := yields.createTransaction_eq represents absent
  have room := (checkLogicalAuditReserve_eq_ok.mp checked).2
  have small := config.limits.fits.2.2.1
  have fewer := transactions_length_le represents
  have fewerGenerations := generations_length_le represents
  have longer : Represents config _ (ledger ++ [Lifecycle.prepared binding]) :=
    represents.append absent
  have count : unfinished (ledger ++ [Lifecycle.prepared binding]) = unfinished ledger + 1 := by
    rw [unfinished, List.countP_append, unfinished]
    rfl
  rw [nonterminalCount_eq represents] at room
  refine ⟨longer, ?_, ?_, ?_⟩
  · rw [Tables.with, List.length_append]
    exact (checkCountCapacity_eq_ok (show tables.transactions.length + 1 ≤ u64Max by omega)).mp
      transactions
  · rw [Tables.with, List.length_append]
    exact (checkCountCapacity_eq_ok (show tables.generations.length + 1 ≤ u64Max by omega)).mp
      generations
  · have events : (tables.with (Lifecycle.prepared binding)).auditEvents.length =
        tables.auditEvents.length + 1 := List.length_append
    rw [nonterminalCount_eq longer, count, events]
    omega

end Creation

end Linura.Persistence
