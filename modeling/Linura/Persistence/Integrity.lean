import Linura.Persistence.Ledger
import Mathlib.Algebra.Order.BigOperators.Group.List

/-!
# Validation of represented tables

The validators of the store, which re-derive everything from the rows, accept tables that
represent a ledger within the limits.
-/

namespace Linura.Persistence

open Linura.Lib Linura.Core Linura.Transaction

/-- The row counts respect the limits, with room for one more event of each unfinished
transaction. -/
structure WithinLimits (limits : StoreLimits) (tables : Tables) : Prop where
  transactions : tables.transactions.length ≤ limits.maxTransactions
  generations : tables.generations.length ≤ limits.maxGenerations
  auditEvents : tables.auditEvents.length + tables.nonterminalCount ≤ limits.maxAuditEvents

/-- Empty tables are within every limit. -/
theorem withinLimits_empty (limits : StoreLimits) : WithinLimits limits .empty where
  transactions := Nat.zero_le _
  generations := Nat.zero_le _
  auditEvents := Nat.zero_le _

variable {config : StoreConfig} {tables : Tables} {ledger : List (Lifecycle config.sha256)}
variable {lifecycle : Lifecycle config.sha256}

/-! ### Generations -/

theorem isNonterminalText_asStr (state : TransactionState) :
    isNonterminalText state.asStr = isNonterminal state := by
  cases state <;> decide

/-- A generation row of a history is retired or current. -/
theorem mem_generationRows {history : History config.sha256} {row : StoredGeneration}
    (member : row ∈ history.generationRows config) :
    (∃ binding generation, generation < history.generation ∧
      row = generationRow config binding generation .aborted none) ∨
    row = history.currentRow config := by
  rcases List.mem_append.mp member with retired | current
  · obtain ⟨generation, lt, rfl⟩ := List.mem_mapIdx.mp retired
    exact .inl ⟨_, generation, lt, rfl⟩
  · exact .inr (List.mem_singleton.mp current)

theorem generationRows_length (history : History config.sha256) :
    (history.generationRows config).length = history.generation + 1 := by
  have numbers := congrArg List.length (generation_generationRows history)
  simpa using numbers

theorem validateCommitMaterial_eq_ok {state : TransactionState} {material : Option CommitMaterial}
    (fits : material.isSome ↔ state = .verified ∨ state = .committed) :
    validateCommitMaterial state [material.map (·.desired.value), material.map (·.graph.value),
      material.map (·.provenance.value)] = .ok () := by
  cases material with
  | none =>
    have unverified : ¬ (state = .verified ∨ state = .committed) := by simpa using fits
    rw [validateCommitMaterial, if_neg unverified]
    rfl
  | some material =>
    have verified : state = .verified ∨ state = .committed := by simpa using fits
    rw [validateCommitMaterial, if_pos verified]
    refine (if_neg (by simp)).trans ?_
    apply forM_eq_ok
    intro value stored
    have digest : ∃ digest : ContentDigest, value = digest.value := by
      simp only [List.reduceOption, Option.map_some, List.filterMap_cons, id_eq, List.filterMap_nil,
        List.mem_cons, List.not_mem_nil, or_false] at stored
      rcases stored with rfl | rfl | rfl
      · exact ⟨_, rfl⟩
      · exact ⟨_, rfl⟩
      · exact ⟨_, rfl⟩
    obtain ⟨digest, rfl⟩ := digest
    rw [readDigest_value]
    rfl

/-- A generation row passes its round of the history check if its material goes with its state and
it is current or retired. -/
theorem validateGeneration_eq_ok (represents : Represents config tables ledger)
    (member : lifecycle ∈ ledger) {binding : AuthorityBinding config.sha256} {generation : Nat}
    {state : TransactionState} {material : Option CommitMaterial}
    (stored : generationRow config binding generation state material ∈
      lifecycle.generationRows config)
    (fits : material.isSome ↔ state = .verified ∨ state = .committed)
    (retired : generation < lifecycle.generation → state = .aborted) :
    validateGeneration config tables lifecycle.transactionId lifecycle.generation generation =
      .ok () := by
  have loaded := loadGeneration_eq represents member stored ⟨_, _, _, _, rfl⟩
  change loadGeneration config tables lifecycle.transactionId generation = .ok _ at loaded
  have digest : ¬ bindingDigestOf config binding.canonical ≠ binding.digest :=
    not_not_intro binding.digest_eq.symm
  have history : ¬ (generation < lifecycle.generation ∧ state ≠ .aborted) :=
    fun ⟨lt, notAborted⟩ => notAborted (retired lt)
  have material := validateCommitMaterial_eq_ok fits
  rw [validateGeneration, loaded]
  simp only [generationRow, StoredGeneration.withTag, ok_bind, TransactionState.parse_asStr,
    orCorruption_ok, readDigest_value, if_neg digest, material, if_neg history]
  rfl

/-- The generations of a represented transaction are accepted. -/
theorem validateGenerationHistory_eq_ok (represents : Represents config tables ledger)
    (within : WithinLimits config.limits tables) (member : lifecycle ∈ ledger) :
    validateGenerationHistory config tables lifecycle.transactionId lifecycle.generation =
      .ok () := by
  have lt := lifecycle.wellFormed.generation_lt
  have rows : (tables.generationsOf lifecycle.transactionId.value).length =
      lifecycle.generation + 1 := by
    rw [represents.generations lifecycle member, generationRows_length]
  have few : lifecycle.generation + 1 ≤ config.limits.maxGenerations := by
    calc
      lifecycle.generation + 1 = _ := rows.symm
      _ ≤ tables.generations.length := List.length_filter_le _ _
      _ ≤ config.limits.maxGenerations := within.generations
  have fits := config.limits.fits.2.1
  have next : checkedAdd lifecycle.generation 1 = some (lifecycle.generation + 1) :=
    checkedAdd_eq_some.mpr ⟨rfl, few.trans fits⟩
  rw [validateGenerationHistory, if_neg (Nat.not_le.mpr lt), next, orFail, ok_bind,
    if_neg (Nat.not_lt.mpr few), if_neg (not_not_intro rows)]
  apply forM_eq_ok
  intro generation inRange
  rw [← generation_generationRows, List.mem_map] at inRange
  obtain ⟨row, stored, rfl⟩ := inRange
  rcases mem_generationRows stored with ⟨binding, generation, old, rfl⟩ | rfl
  · exact validateGeneration_eq_ok represents member stored (by simp) fun _ => rfl
  · exact validateGeneration_eq_ok represents member stored lifecycle.wellFormed.material_isSome
      fun lt => absurd lt (Nat.lt_irrefl _)

/-! ### Audit chains -/

/-- What a walk remembers of an entry. -/
def AuditEntry.asTail (entry : AuditEntry) : AuditTail :=
  ⟨entry.generation, entry.stateVersion, entry.kind.asStr, entry.payload⟩

theorem validateAuditEvent_entryRow {id : TransactionId} {walk : ChainWalk} {entry : AuditEntry}
    (few : walk.expectedSequence + 1 ≤ config.limits.maxAuditEvents) :
    validateAuditEvent config id walk
      (entryRow config id walk.expectedSequence walk.previous entry) =
      .ok ⟨walk.expectedSequence + 1,
        entryDigest config id walk.expectedSequence walk.previous entry, some entry.asTail⟩ := by
  have next : checkedAdd walk.expectedSequence 1 = some (walk.expectedSequence + 1) :=
    checkedAdd_eq_some.mpr ⟨rfl, few.trans config.limits.fits.2.2.1⟩
  rw [validateAuditEvent]
  simp only [entryRow, auditRow, StoredAuditEvent.withTag, readDigest_value, ok_bind, ne_eq,
    not_true_eq_false, if_false, next, orFail, if_neg (Nat.not_lt.mpr few)]
  rfl

/-- A walk along the chain of a log remembers the last entry. -/
theorem foldlM_validateAuditEvent {id : TransactionId} (walk : ChainWalk) (log : List AuditEntry)
    (entry : AuditEntry)
    (few : walk.expectedSequence + log.length + 1 ≤ config.limits.maxAuditEvents) :
    ∃ walk' : ChainWalk, (chainFrom config id walk.expectedSequence walk.previous
      (log ++ [entry])).foldlM (validateAuditEvent config id) walk = .ok walk' ∧
      walk'.last = some entry.asTail := by
  induction log generalizing walk with
  | nil =>
    refine ⟨⟨walk.expectedSequence + 1,
      entryDigest config id walk.expectedSequence walk.previous entry, some entry.asTail⟩, ?_, rfl⟩
    rw [List.nil_append, chainFrom, List.foldlM_cons, validateAuditEvent_entryRow few, ok_bind]
    rfl
  | cons first rest ih =>
    rw [List.length_cons] at few
    rw [List.cons_append, chainFrom, List.foldlM_cons,
      validateAuditEvent_entryRow (by omega), ok_bind]
    exact ih ⟨_, _, _⟩ (by simp only; omega)

theorem validateCommitPayload_eq_ok {history : History config.sha256} {material : CommitMaterial}
    (recorded : history.material = some material) :
    validateCommitPayload config (history.currentRow config)
      (commitPayload config.sha256 material.desired material.graph material.provenance) =
        .ok () := by
  rw [validateCommitPayload]
  simp only [History.currentRow, generationRow, StoredGeneration.withTag, recorded, Option.map_some,
    orFail, ok_bind, readDigest_value, ne_eq, not_true_eq_false, if_false]
  rfl

def unfinished {sha256 : Sha256} (ledger : List (Lifecycle sha256)) : Nat :=
  ledger.countP fun lifecycle => isNonterminal lifecycle.state

private theorem sum_toNat_eq_countP {α : Type} (p : α → Bool) (values : List α) :
    (values.map fun value => (p value).toNat).sum = values.countP p := by
  induction values with
  | nil => rfl
  | cons value rest ih =>
    rw [List.map_cons, List.sum_cons, ih, List.countP_cons, Nat.add_comm]
    cases p value <;> rfl

section Represented

variable (represents : Represents config tables ledger)
include represents

/-- So is the chain of its events. -/
theorem validateAuditChain_eq_ok
    (within : WithinLimits config.limits tables) (member : lifecycle ∈ ledger) :
    validateAuditChain config tables lifecycle.transactionId lifecycle.generation
      lifecycle.stateVersion = .ok () := by
  obtain ⟨before, entry, split, generation, version, state, payload⟩ := lifecycle.wellFormed.tail
  have chain := represents.auditEvents lifecycle member
  have few : before.length + 1 ≤ config.limits.maxAuditEvents := by
    calc
      before.length + 1 = (lifecycle.auditRows config).length := by
        rw [History.auditRows, chainFrom_length, split, List.length_append, List.length_singleton]
      _ ≤ tables.auditEvents.length := by
        rw [← chain]
        exact List.length_filter_le _ _
      _ ≤ config.limits.maxAuditEvents := le_trans (Nat.le_add_right _ _) within.auditEvents
  have loaded : loadAllAuditEvents config tables lifecycle.transactionId =
      .ok (lifecycle.auditRows config) := by
    rw [loadAllAuditEvents, chain, History.auditRows, orderBy_eq_self (chainFrom_sorted _ _ _ _)]
    have read : ∀ row ∈ chainFrom config lifecycle.transactionId 0 .zero lifecycle.log,
        readAuditEvent config row = .ok row := by
      intro row stored
      obtain ⟨sequence, previous, entry', rfl⟩ := exists_entryRow_of_mem_chainFrom stored
      exact readAuditEvent_entryRow _ _ _ _
    rw [mapM_eq_ok read, List.map_id']
  obtain ⟨walk, walked, last⟩ := @foldlM_validateAuditEvent config lifecycle.transactionId
    ⟨0, .zero, none⟩ before entry (by simpa using few)
  rw [← split] at walked
  have agrees : ¬ (entry.generation ≠ lifecycle.generation ∨
      entry.stateVersion ≠ lifecycle.stateVersion) := by
    rintro (differs | differs)
    · exact differs generation
    · exact differs version
  have sameState : ¬ entry.kind.state ≠ lifecycle.snapshot.state := not_not_intro state
  rw [validateAuditChain, loaded, ok_bind]
  refine (congrArg (· >>= _) walked).trans ?_
  rw [ok_bind, last, orFail, ok_bind]
  refine (if_neg agrees).trans ?_
  rw [loadCurrent_eq represents member, ok_bind]
  show (stateForEventKind config entry.kind.asStr >>= _) = _
  rw [EventKind.stateForEventKind_asStr, ok_bind, if_neg sameState]
  by_cases committed : lifecycle.state = .committed
  · obtain ⟨material, recorded⟩ := Option.isSome_iff_exists.mp
      (lifecycle.wellFormed.material_isSome.mpr (.inr committed))
    refine (if_pos committed).trans ?_
    show validateCommitPayload config _ entry.payload = _
    rw [payload material committed recorded]
    exact validateCommitPayload_eq_ok recorded
  · exact if_neg committed

/-- So is the transaction. -/
theorem validateTransaction_eq_ok
    (within : WithinLimits config.limits tables) (member : lifecycle ∈ ledger) :
    validateTransaction config tables lifecycle.transactionId = .ok () := by
  rw [validateTransaction, loadCurrent_eq represents member, ok_bind]
  refine (congrArg (· >>= _) (validateGenerationHistory_eq_ok represents within member)).trans ?_
  exact validateAuditChain_eq_ok represents within member

/-! ### Reservations and counts -/

/-- The identities of a ledger, in the order in which the store lists them. -/
theorem listTransactionIds_eq :
    listTransactionIds tables =
      .ok ((orderBy (·.transactionId.value) ledger).map (·.transactionId)) := by
  have sorted : orderBy (·.transactionId) tables.transactions =
      (orderBy (·.transactionId.value) ledger).map fun lifecycle =>
        lifecycle.transactionRow config := by
    rw [represents.transactions, orderBy_map]
    rfl
  rw [listTransactionIds, sorted, List.mapM_map, mapM_eq_ok]
  intro lifecycle _
  show (if !isBoundedText maxTransactionIdBytes lifecycle.transactionId.value then _ else _) = _
  rw [isBoundedText_transactionId]
  show orCorruption _ (TransactionId.new lifecycle.transactionId.value) = _
  rw [TransactionId.new_value, orCorruption_ok]

/-- An unfinished transaction has one reservation. -/
theorem countReservations_eq (member : lifecycle ∈ ledger) :
    countReservations config tables lifecycle.transactionId =
      .ok (isNonterminal lifecycle.state).toNat := by
  rw [countReservations, represents.auditReservations lifecycle member, History.reservationRows]
  cases nonterminal : isNonterminal lifecycle.state with
  | false => rfl
  | true =>
    rw [if_pos rfl, orderBy_eq_self (List.pairwise_singleton _ _), List.foldlM_cons,
      if_neg (by simp)]
    rfl

theorem foldlM_validateReservationsOf
    {part : List (Lifecycle config.sha256)} (members : part ⊆ ledger) {total : Nat}
    (few : total + unfinished part ≤ u64Max) :
    (part.map (·.transactionId)).foldlM (validateReservationsOf config tables) total =
      .ok (total + unfinished part) := by
  induction part generalizing total with
  | nil => rfl
  | cons lifecycle rest ih =>
    have member := members List.mem_cons_self
    have count : unfinished (lifecycle :: rest) =
        (isNonterminal lifecycle.state).toNat + unfinished rest := by
      rw [unfinished, List.countP_cons, unfinished, Nat.add_comm]
      cases isNonterminal lifecycle.state <;> rfl
    rw [count] at few ⊢
    have next : checkedAdd total (isNonterminal lifecycle.state).toNat =
        some (total + (isNonterminal lifecycle.state).toNat) :=
      checkedAdd_eq_some.mpr ⟨rfl, by omega⟩
    have validated : validateReservationsOf config tables total lifecycle.transactionId =
        .ok (total + (isNonterminal lifecycle.state).toNat) := by
      rw [validateReservationsOf, loadCurrent_eq represents member, ok_bind]
      show (orFail _ (checkedAdd total (isNonterminal lifecycle.state).toNat) >>= _) = _
      rw [next, orFail, ok_bind, countReservations_eq represents member, ok_bind]
      exact if_neg (not_not_intro rfl)
    rw [List.map_cons, List.foldlM_cons, validated, ok_bind, ih
      (fun _ later => members (List.mem_cons_of_mem _ later)) (by omega), Nat.add_assoc]

/-- A table of rows that belong to the transactions of a ledger, counted transaction by
transaction. -/
theorem Represents.length_eq_sum {ρ : Type}
    {key : ρ → String} {rows : List ρ} (owned : ∀ row ∈ rows, key row ∈ ledgerIds ledger) :
    rows.length = (ledger.map fun lifecycle =>
      (rows.filter fun row => key row = lifecycle.transactionId.value).length).sum := by
  rw [length_eq_sum_filter represents.nodup owned, ledgerIds, List.map_map]
  rfl

/-- There is one reservation for each unfinished transaction. -/
theorem auditReservations_length : tables.auditReservations.length = unfinished ledger := by
  rw [represents.length_eq_sum represents.auditReservations_owned, unfinished,
    ← sum_toNat_eq_countP]
  congr 1
  refine List.map_congr_left fun lifecycle member => ?_
  have rows := represents.auditReservations lifecycle member
  rw [Tables.auditReservationsOf] at rows
  rw [rows, History.reservationRows]
  cases isNonterminal lifecycle.state <;> rfl

/-- Every transaction has a generation. -/
theorem transactions_length_le : tables.transactions.length ≤ tables.generations.length := by
  have ones : tables.transactions.length = (ledger.map fun _ => 1).sum := by
    simp [represents.transactions]
  rw [ones, represents.length_eq_sum represents.generations_owned]
  refine List.sum_le_sum fun lifecycle member => ?_
  have rows := represents.generations lifecycle member
  rw [Tables.generationsOf] at rows
  rw [rows, generationRows_length]
  exact Nat.le_add_left _ _

/-- Every generation has an audit event. -/
theorem generations_length_le : tables.generations.length ≤ tables.auditEvents.length := by
  rw [represents.length_eq_sum represents.generations_owned,
    represents.length_eq_sum represents.auditEvents_owned]
  refine List.sum_le_sum fun lifecycle member => ?_
  have rows := represents.generations lifecycle member
  have events := represents.auditEvents lifecycle member
  rw [Tables.generationsOf] at rows
  rw [Tables.auditEventsOf] at events
  rw [rows, events, generationRows_length, History.auditRows, chainFrom_length,
    lifecycle.wellFormed.log_length, Nat.add_comm]
  exact Nat.add_le_add_right lifecycle.wellFormed.stateVersion_pos _

theorem unfinished_le (within : WithinLimits config.limits tables) :
    unfinished ledger ≤ u64Max := by
  calc
    unfinished ledger ≤ ledger.length := List.countP_le_length
    _ = tables.transactions.length := by rw [represents.transactions, List.length_map]
    _ ≤ config.limits.maxTransactions := within.transactions
    _ ≤ u64Max := config.limits.fits.1

/-- The reservations are accepted and counted. -/
theorem validateReservationRows_eq_ok (within : WithinLimits config.limits tables) :
    validateReservationRows config tables = .ok tables.auditReservations.length := by
  have sorted := @orderBy_perm _ _ _ (fun lifecycle : Lifecycle config.sha256 =>
    lifecycle.transactionId.value) ledger
  have count : unfinished (orderBy (·.transactionId.value) ledger) = unfinished ledger :=
    sorted.countP_eq _
  have total := @foldlM_validateReservationsOf config tables ledger represents
    (orderBy (·.transactionId.value) ledger) sorted.subset 0
    (by rw [count, Nat.zero_add]; exact unfinished_le represents within)
  rw [validateReservationRows, listTransactionIds_eq represents, ok_bind, total, ok_bind, count,
    Nat.zero_add, if_neg (not_not_intro (auditReservations_length represents))]
  rfl

/-- The join that counts unfinished transactions finds the current generation of each. -/
theorem nonterminalCount_eq : tables.nonterminalCount = unfinished ledger := by
  have joined : ∀ lifecycle ∈ ledger, (tables.generations.filter fun g =>
      g.transactionId = lifecycle.transactionId.value ∧ g.generation = lifecycle.generation ∧
        isNonterminalText g.state).length = (isNonterminal lifecycle.state).toNat := by
    intro lifecycle member
    have split : (tables.generations.filter fun g =>
        g.transactionId = lifecycle.transactionId.value ∧ g.generation = lifecycle.generation ∧
          isNonterminalText g.state) = (lifecycle.generationRows config).filter fun g =>
        g.generation = lifecycle.generation ∧ isNonterminalText g.state := by
      rw [← represents.generations lifecycle member, Tables.generationsOf, List.filter_filter]
      refine List.filter_congr fun g _ => ?_
      simp [Bool.and_comm]
    have old : (lifecycle.retiredRows config).filter (fun g =>
        g.generation = lifecycle.generation ∧ isNonterminalText g.state) = [] := by
      rw [List.filter_eq_nil_iff]
      intro row stored
      have number := List.mem_map_of_mem (f := fun g : StoredGeneration => g.generation) stored
      rw [generation_retiredRows, List.mem_range] at number
      simp [number.ne]
    rw [split, History.generationRows, List.filter_append, old, List.nil_append]
    simp only [History.currentRow, generationRow, StoredGeneration.withTag, List.filter_cons,
      isNonterminalText_asStr, true_and, List.filter_nil]
    cases isNonterminal lifecycle.state <;> rfl
  rw [Tables.nonterminalCount, represents.transactions, List.length_flatMap,
    List.map_map, unfinished,
    ← sum_toNat_eq_countP]
  congr 1
  exact List.map_congr_left joined

/-- Every row belongs to a transaction. -/
theorem foreignKeyCheck_eq_ok : foreignKeyCheck tables = .ok () := by
  have parent : ∀ id ∈ ledgerIds ledger,
      (tables.transactions.any fun row => row.transactionId = id) = true := by
    intro id known
    rw [← map_transactionId_eq represents, List.mem_map] at known
    obtain ⟨row, stored, rfl⟩ := known
    exact List.any_eq_true.mpr ⟨row, stored, by simp⟩
  refine if_pos ?_
  simp only [Bool.and_eq_true, List.all_eq_true]
  exact ⟨⟨fun row stored => parent _ (represents.generations_owned row stored),
    fun row stored => parent _ (represents.auditEvents_owned row stored)⟩,
    fun row stored => parent _ (represents.auditReservations_owned row stored)⟩

end Represented

theorem validateAggregateCapacity_eq_ok {table : CapacityTable} {maximum : Nat}
    (few : tables.count table ≤ maximum) :
      validateAggregateCapacity tables table maximum = .ok () :=
  if_neg (Nat.not_lt.mpr few)

theorem validateLogicalAuditReserve_eq_ok {limits : StoreLimits}
    (few : tables.auditEvents.length + tables.nonterminalCount ≤ limits.maxAuditEvents) :
    validateLogicalAuditReserve tables limits = .ok () := by
  have sum : checkedAdd tables.auditEvents.length tables.nonterminalCount =
      some (tables.auditEvents.length + tables.nonterminalCount) :=
    checkedAdd_eq_some.mpr ⟨rfl, few.trans limits.fits.2.2.1⟩
  rw [validateLogicalAuditReserve, sum, orFail, ok_bind, if_neg (Nat.not_lt.mpr few)]
  rfl

/-- A table has room for more rows, as long as the count cannot saturate. -/
theorem checkCountCapacity_eq_ok {table : CapacityTable} {maximum additional : Nat}
    (small : tables.count table + additional ≤ u64Max) :
    checkCountCapacity tables table maximum additional = .ok () ↔
      tables.count table + additional ≤ maximum := by
  unfold checkCountCapacity saturatingAdd
  rw [min_eq_left small]
  split
  · rename_i full
    simp [Nat.not_le.mpr full]
  · rename_i room
    simp [Nat.not_lt.mp room]

/-- There is room for some events and for finishing what will then be unfinished. -/
theorem checkLogicalAuditReserve_eq_ok {limits : StoreLimits} {additional : Nat} {delta : Int} :
    checkLogicalAuditReserve tables limits additional delta = .ok () ↔
      0 ≤ tables.nonterminalCount + delta ∧
        tables.auditEvents.length + additional + (tables.nonterminalCount + delta) ≤
          limits.maxAuditEvents := by
  have fits := limits.fits.2.2.1
  have sum : ∀ count value, (checkedAdd tables.auditEvents.length additional).bind
      (checkedAdd · count) = some value ↔
        tables.auditEvents.length + additional + count = value ∧ value ≤ u64Max := by
    intro count value
    simp only [Option.bind_eq_some_iff, checkedAdd_eq_some]
    constructor
    · rintro ⟨partly, ⟨rfl, -⟩, rfl, le⟩
      exact ⟨rfl, le⟩
    · rintro ⟨rfl, le⟩
      exact ⟨_, ⟨rfl, by omega⟩, rfl, le⟩
  -- what follows once the number of unfinished transactions is known
  have room : ∀ count, (do
      let required ← orFail TransactionStoreError.capacityExceeded
        ((checkedAdd tables.auditEvents.length additional).bind (checkedAdd · count))
      if limits.maxAuditEvents < required then throw TransactionStoreError.capacityExceeded) =
        Except.ok () ↔
        tables.auditEvents.length + additional + count ≤ limits.maxAuditEvents := by
    intro count
    simp only [bind_eq_ok, orFail_eq_ok, sum]
    constructor
    · rintro ⟨required, ⟨rfl, -⟩, checked⟩
      split at checked
      · cases checked
      · omega
    · intro le
      exact ⟨_, ⟨rfl, by omega⟩, if_neg (by omega)⟩
  unfold checkLogicalAuditReserve
  split
  · simp only [bind_eq_ok, orFail_eq_ok, checkedAdd_eq_some, room]
    constructor
    · rintro ⟨count, ⟨rfl, -⟩, le⟩
      omega
    · rintro ⟨-, le⟩
      exact ⟨_, ⟨rfl, by omega⟩, by omega⟩
  · simp only [bind_eq_ok, orFail_eq_ok, checkedSub_eq_some, room]
    constructor
    · rintro ⟨count, ⟨le, rfl⟩, fewer⟩
      omega
    · rintro ⟨nonneg, le⟩
      exact ⟨_, ⟨by omega, rfl⟩, by omega⟩

/-- The validators accept every represented ledger within the limits. -/
theorem validateTables_eq_ok (represents : Represents config tables ledger)
    (within : WithinLimits config.limits tables) :
    validateTables config tables = .ok tables.auditReservations.length := by
  have transactions := @validateAggregateCapacity_eq_ok tables .transactions _ within.transactions
  have generations := @validateAggregateCapacity_eq_ok tables .generations _ within.generations
  have auditEvents := @validateAggregateCapacity_eq_ok tables .auditEvents _
    (le_trans (Nat.le_add_right _ _) within.auditEvents)
  rw [validateTables, transactions, ok_bind, generations, ok_bind, auditEvents, ok_bind,
    validateLogicalAuditReserve_eq_ok within.auditEvents, ok_bind, foreignKeyCheck_eq_ok represents,
    ok_bind, listTransactionIds_eq represents, ok_bind, forM_eq_ok, ok_bind]
  · exact validateReservationRows_eq_ok represents within
  · intro id listed
    obtain ⟨lifecycle, member, rfl⟩ := List.mem_map.mp listed
    exact validateTransaction_eq_ok represents within (mem_orderBy.mp member)

end Linura.Persistence
