import Linura.Persistence.Simulation

/-!
# The store refines the ledger

Seen from outside, a request asks one transaction for one transition, if the transaction is still
what the request expects.  Whatever faults an operation of the store meets, it either leaves the
tables as they were or carries out exactly that transition, and if it returns it did the latter.
Hence, over any run, the tables represent a ledger whose lifecycles only ever moved on by the
transitions that were asked for.
-/

namespace Linura.Persistence

open Linura.Lib Linura.Core Linura.Transaction
open Program (Triple Leaves)

/-! ### What requests ask for -/

/-- A transition asked of a transaction, and what the transaction is expected to be. -/
structure Demand (sha256 : Sha256) where
  transactionId : TransactionId
  expectedGeneration : Nat
  expectedStateVersion : Nat
  /-- Absent in a request to abort. -/
  expectedBindingDigest : Option ContentDigest
  transition : Transition sha256

/-- The transaction is what is expected. -/
structure Demand.Meets {sha256 : Sha256} (demand : Demand sha256) (history : History sha256) :
    Prop where
  transactionId : history.transactionId = demand.transactionId
  generation : history.generation = demand.expectedGeneration
  stateVersion : history.stateVersion = demand.expectedStateVersion
  bindingDigest : ∀ digest ∈ demand.expectedBindingDigest, history.binding.digest = digest

variable {sha256 : Sha256}

def RecoveryResolution.transition : RecoveryResolution sha256 → Transition sha256
  | .intendedStateVerified observation desired graph provenance =>
    .verify observation ⟨desired, graph, provenance⟩
  | .intendedEffectAbsent observation next => .reprepare observation next
  | .conflictingState observation => .block observation
  | .ambiguous observation => .leaveIndeterminate observation

/-- What a handoff asks for. -/
def handoffDemand (request : HandoffRequest) : Demand sha256 where
  transactionId := request.transactionId
  expectedGeneration := request.expectedGeneration
  expectedStateVersion := request.expectedStateVersion
  expectedBindingDigest := some request.expectedBindingDigest
  transition := .handOff request.authorityUseDigest

/-- What a recovery asks for. -/
def recoveryDemand (request : RecoveryRequest sha256) : Demand sha256 where
  transactionId := request.transactionId
  expectedGeneration := request.expectedGeneration
  expectedStateVersion := request.expectedStateVersion
  expectedBindingDigest := some request.expectedBindingDigest
  transition := RecoveryResolution.transition request.resolution

/-- What a commit asks for. -/
def commitDemand (request : CommitRequest) : Demand sha256 where
  transactionId := request.transactionId
  expectedGeneration := request.expectedGeneration
  expectedStateVersion := request.expectedStateVersion
  expectedBindingDigest := some request.expectedBindingDigest
  transition :=
    .commit ⟨request.desiredStateDigest, request.graphDigest, request.provenanceDigest⟩

/-- What an abort asks for. -/
def abortDemand (request : AbortRequest) : Demand sha256 where
  transactionId := request.transactionId
  expectedGeneration := request.expectedGeneration
  expectedStateVersion := request.expectedStateVersion
  expectedBindingDigest := none
  transition := .abort request.reasonDigest

/-- What a request asks for.  A preparation names no expected transaction, and a check changes
nothing. -/
def Request.demand {config : StoreConfig} : Request config → Option (Demand config.sha256)
  | .prepare _ | .integrityCheck => none
  | .handoff request _ => some (handoffDemand request)
  | .recover request _ => some (recoveryDemand request)
  | .commit request => some (commitDemand request)
  | .abortPrepared request => some (abortDemand request)

/-- What carrying out a request does to a ledger. -/
inductive LedgerStep (config : StoreConfig) (ledger : List (Lifecycle config.sha256)) :
    Request config → List (Lifecycle config.sha256) → Prop
  | prepare {binding : AuthorityBinding config.sha256}
      (absent : binding.transactionId.value ∉ ledgerIds ledger) :
      LedgerStep config ledger (.prepare binding) (ledger ++ [Lifecycle.prepared binding])
  | move {request : Request config} {demand : Demand config.sha256}
      {lifecycle new : Lifecycle config.sha256} (asked : request.demand = some demand)
      (member : lifecycle ∈ ledger) (meets : demand.Meets lifecycle.toHistory)
      (applied : lifecycle.apply demand.transition = some new.toHistory) :
      LedgerStep config ledger request (replaceLifecycle ledger new)

/-- The tables are those of a ledger on which the request was carried out. -/
def CarriedOut (config : StoreConfig) (ledger : List (Lifecycle config.sha256))
    (request : Request config) (tables : Tables) : Prop :=
  ∃ ledger', LedgerStep config ledger request ledger' ∧ Consistent config tables ledger'

variable {config : StoreConfig} {tables tables' : Tables}
variable {ledger ledger' : List (Lifecycle config.sha256)} {lifecycle new : Lifecycle config.sha256}

/-! ### The bodies of the operations -/

variable {snapshot : TransactionSnapshot}

/-- What is loaded is what the lifecycle of that transaction says. -/
theorem Represents.of_loadCurrent (represents : Represents config tables ledger)
    {id : TransactionId} {record : StoredTransaction} {generation : StoredGeneration}
    (loaded : loadCurrent config tables id = .ok (record, generation, snapshot)) :
    ∃ lifecycle ∈ ledger, lifecycle.transactionId = id ∧
      record = lifecycle.transactionRow config ∧ generation = lifecycle.currentRow config ∧
      snapshot = lifecycle.snapshot := by
  by_cases known : id.value ∈ ledgerIds ledger
  · obtain ⟨lifecycle, member, same⟩ := List.mem_map.mp known
    have own : lifecycle.transactionId = id := TransactionId.ext same
    rw [← own, loadCurrent_eq represents member] at loaded
    cases loaded
    exact ⟨lifecycle, member, own, rfl, rfl, rfl⟩
  · rw [loadCurrent_eq_notFound represents known] at loaded
    cases loaded

/-- What a request expects is what the snapshot has. -/
theorem assertExpected_eq_ok {generation stateVersion : Nat} {bindingDigest : ContentDigest}
    {state : TransactionState} :
    assertExpected snapshot generation stateVersion bindingDigest state = .ok () ↔
      snapshot.currentGeneration = generation ∧ snapshot.stateVersion = stateVersion ∧
        snapshot.bindingDigest = bindingDigest ∧ snapshot.state = state := by
  unfold assertExpected
  split
  · rename_i differs
    simp only [reduceCtorEq, false_iff]
    tauto
  · rename_i agrees
    simp only [true_iff]
    tauto

/-- Moving a lifecycle on, as the operations do: reserve, then advance. -/
theorem carriedOut_of_advance (kind : EventKind) {request : Request config}
    {demand : Demand config.sha256} {between : Tables} {changeGeneration : SqlProgram Unit}
    {payload : ContentDigest} {material : Option CommitMaterial} {delta : Int} {required : Nat}
    {value value' : Unit} (consistent : Consistent config tables ledger)
    (member : lifecycle ∈ ledger) (asked : request.demand = some demand)
    (meets : demand.Meets lifecycle.toHistory)
    (applied : lifecycle.apply demand.transition =
      some (lifecycle.advance kind payload material))
    (follows : Follows lifecycle.state kind)
    (fits : History.MaterialFits config.sha256 kind payload material)
    (balance : (isNonterminal kind.state).toNat = 1 + delta)
    (slots : required = (isNonterminal kind.state).toNat + 1)
    (reserves : Yields (reserveEvents config lifecycle.transactionId 1 delta required) tables value
      between)
    (advances : Yields (advance config lifecycle.transactionId (lifecycle.transactionRow config)
      lifecycle.generation (lifecycle.stateVersion + 1) changeGeneration kind.asStr payload) between
      value' tables')
    (changes : ∀ value after, between.generations = tables.generations →
      Yields changeGeneration between value after →
      CurrentBecomes lifecycle
        (generationRow config lifecycle.binding lifecycle.generation kind.state material)
        between after) :
    CarriedOut config ledger request tables' := by
  obtain ⟨checked, reserved⟩ := reserves.reserved consistent.represents member follows.isNonterminal
  rw [slots] at reserved
  have moved := advances.advance_consistent consistent member checked reserved balance follows fits
    fun value after => changes value after reserved.generations
  exact ⟨_, .move asked member meets applied, moved⟩

/-- `handoff` hands off the current generation of a prepared transaction. -/
theorem Yields.handoffBody {request : HandoffRequest} {now : Option Nat} {receipt : HandoffCommit}
    (yields : Yields (Persistence.handoffBody config request now) tables receipt tables')
    (consistent : Consistent config tables ledger) :
    CarriedOut config ledger (.handoff request now) tables' := by
  have represents := consistent.represents
  obtain ⟨_, -, yields⟩ := yields.bind_lift
  obtain ⟨⟨record, generation, snapshot⟩, loaded, yields⟩ := yields.bind_select
  obtain ⟨lifecycle, member, own, rfl, rfl, rfl⟩ := represents.of_loadCurrent loaded
  obtain ⟨_, expected, yields⟩ := yields.bind_lift
  obtain ⟨sameGeneration, sameVersion, sameBinding, prepared⟩ := assertExpected_eq_ok.mp expected
  change lifecycle.state = .prepared at prepared
  split at yields
  · exact yields.not_fail.elim
  obtain ⟨_, between, reserves, yields⟩ := yields.bind
  obtain ⟨version, _, versions, yields⟩ := yields.bind
  obtain ⟨rfl, rfl⟩ := versions.nextStateVersion
  obtain ⟨_, _, advances, yields⟩ := yields.bind
  obtain ⟨-, rfl⟩ := yields.pure
  rw [← own] at reserves advances
  refine carriedOut_of_advance .handoffIndeterminate consistent member rfl
    ⟨own, sameGeneration, sameVersion, ?_⟩ (if_pos prepared) (prepared ▸ .handOff)
    (History.materialFits_none ?_ ?_) rfl rfl reserves advances ?_
  · rintro digest ⟨⟩
    exact sameBinding
  · decide
  · decide
  · intro value after same changed
    exact changed.currentBecomes_moved represents member same prepared
      (lifecycle.material_eq_none (by simp [prepared]) (by simp [prepared]))

theorem material_of_currentRow {history : History config.sha256}
    {desired graph provenance : ContentDigest}
    (sameDesired : (history.currentRow config).desiredStateDigest = some desired.value)
    (sameGraph : (history.currentRow config).graphDigest = some graph.value)
    (sameProvenance : (history.currentRow config).provenanceDigest = some provenance.value) :
    history.material = some ⟨desired, graph, provenance⟩ := by
  simp only [History.currentRow, generationRow, StoredGeneration.withTag, Option.map_eq_some_iff]
    at sameDesired sameGraph sameProvenance
  obtain ⟨material, recorded, eqDesired⟩ := sameDesired
  obtain ⟨_, recordedGraph, eqGraph⟩ := sameGraph
  obtain ⟨_, recordedProvenance, eqProvenance⟩ := sameProvenance
  rw [recorded] at recordedGraph recordedProvenance
  cases recordedGraph
  cases recordedProvenance
  rw [recorded, ← ContentDigest.ext eqDesired, ← ContentDigest.ext eqGraph,
    ← ContentDigest.ext eqProvenance]

/-- `commit` commits a verified transaction whose material it repeats. -/
theorem Yields.commitBody {request : CommitRequest}
    (yields : Yields (Persistence.commitBody config request) tables snapshot tables')
    (consistent : Consistent config tables ledger) :
    CarriedOut config ledger (.commit request) tables' := by
  have represents := consistent.represents
  obtain ⟨⟨record, generation, snapshot⟩, loaded, yields⟩ := yields.bind_select
  obtain ⟨lifecycle, member, own, rfl, rfl, rfl⟩ := represents.of_loadCurrent loaded
  obtain ⟨_, expected, yields⟩ := yields.bind_lift
  obtain ⟨sameGeneration, sameVersion, sameBinding, verified⟩ := assertExpected_eq_ok.mp expected
  change lifecycle.state = .verified at verified
  split at yields
  · exact yields.not_fail.elim
  rename_i repeats
  simp only [not_or, not_not] at repeats
  have recorded := material_of_currentRow repeats.1 repeats.2.1 repeats.2.2
  obtain ⟨_, between, reserves, yields⟩ := yields.bind
  obtain ⟨version, _, versions, yields⟩ := yields.bind
  obtain ⟨rfl, rfl⟩ := versions.nextStateVersion
  obtain ⟨_, _, advances, yields⟩ := yields.bind
  obtain ⟨-, rfl⟩ := yields.pure
  rw [← own] at reserves advances
  refine carriedOut_of_advance .committed consistent member rfl
    ⟨own, sameGeneration, sameVersion, ?_⟩ (if_pos ⟨verified, recorded⟩) (verified ▸ .commit)
    ⟨?_, ?_⟩ rfl rfl reserves advances ?_
  · rintro digest ⟨⟩
    exact sameBinding
  · simp [EventKind.state]
  · rintro material - ⟨⟩
    rfl
  · intro value after same changed
    exact changed.currentBecomes_moved represents member same verified recorded

/-- `abort_prepared` aborts a prepared transaction. -/
theorem Yields.abortBody {request : AbortRequest}
    (yields : Yields (Persistence.abortBody config request) tables snapshot tables')
    (consistent : Consistent config tables ledger) :
    CarriedOut config ledger (.abortPrepared request) tables' := by
  have represents := consistent.represents
  obtain ⟨⟨record, generation, snapshot⟩, loaded, yields⟩ := yields.bind_select
  obtain ⟨lifecycle, member, own, rfl, rfl, rfl⟩ := represents.of_loadCurrent loaded
  dsimp only at yields
  split at yields
  · exact yields.not_fail.elim
  rename_i agrees
  simp only [not_or, not_not] at agrees
  obtain ⟨sameGeneration, sameVersion, prepared⟩ := agrees
  change lifecycle.state = .prepared at prepared
  obtain ⟨_, between, reserves, yields⟩ := yields.bind
  obtain ⟨version, _, versions, yields⟩ := yields.bind
  obtain ⟨rfl, rfl⟩ := versions.nextStateVersion
  obtain ⟨_, _, advances, yields⟩ := yields.bind
  obtain ⟨-, rfl⟩ := yields.pure
  rw [← own] at reserves advances
  refine carriedOut_of_advance .abortedPrepared consistent member rfl
    ⟨own, sameGeneration, sameVersion, ?_⟩ (if_pos prepared) (prepared ▸ .abort)
    (History.materialFits_none ?_ ?_) rfl rfl reserves advances ?_
  · rintro digest ⟨⟩
  · decide
  · decide
  · intro value after same changed
    exact changed.currentBecomes_moved represents member same prepared
      (lifecycle.material_eq_none (by simp [prepared]) (by simp [prepared]))

/-- `recover` resolves an indeterminate transaction as the request says. -/
theorem Yields.recoverBody {request : RecoveryRequest config.sha256} {now : Option Nat}
    {outcome : RecoveryOutcome}
    (yields : Yields (Persistence.recoverBody config request now) tables outcome tables')
    (consistent : Consistent config tables ledger) :
    CarriedOut config ledger (.recover request now) tables' := by
  have represents := consistent.represents
  obtain ⟨_, -, yields⟩ := yields.bind_lift
  obtain ⟨⟨record, generation, snapshot⟩, loaded, yields⟩ := yields.bind_select
  obtain ⟨lifecycle, member, own, rfl, rfl, rfl⟩ := represents.of_loadCurrent loaded
  obtain ⟨_, expected, yields⟩ := yields.bind_lift
  obtain ⟨sameGeneration, sameVersion, sameBinding, indeterminate⟩ :=
    assertExpected_eq_ok.mp expected
  change lifecycle.state = .indeterminate at indeterminate
  have immaterial := lifecycle.material_eq_none (by simp [indeterminate]) (by simp [indeterminate])
  obtain ⟨version, _, versions, yields⟩ := yields.bind
  obtain ⟨rfl, rfl⟩ := versions.nextStateVersion
  obtain ⟨demand, asked, meets, transition⟩ : ∃ demand : Demand config.sha256,
      (Request.recover request now).demand = some demand ∧ demand.Meets lifecycle.toHistory ∧
        demand.transition = RecoveryResolution.transition request.resolution := by
    refine ⟨_, rfl, ⟨own, sameGeneration, sameVersion, ?_⟩, rfl⟩
    rintro digest ⟨⟩
    exact sameBinding
  rw [← own] at yields
  cases resolution : request.resolution with
  | intendedStateVerified observation desired graph provenance =>
    simp only [resolution] at yields transition
    obtain ⟨_, between, reserves, yields⟩ := yields.bind
    obtain ⟨_, _, advances, yields⟩ := yields.bind
    obtain ⟨-, rfl⟩ := yields.pure
    refine carriedOut_of_advance .recoveryVerified consistent member asked meets
      (by rw [transition]; exact if_pos indeterminate) (indeterminate ▸ .verify) ⟨?_, ?_⟩ rfl rfl
      reserves advances ?_
    · simp [EventKind.state]
    · intro material committed
      cases committed
    · intro value after same changed
      exact Yields.currentBecomes_verified represents member changed same indeterminate
  | conflictingState observation =>
    simp only [resolution] at yields transition
    obtain ⟨_, between, reserves, yields⟩ := yields.bind
    obtain ⟨_, _, advances, yields⟩ := yields.bind
    obtain ⟨-, rfl⟩ := yields.pure
    refine carriedOut_of_advance .recoveryBlocked consistent member asked meets
      (by rw [transition]; exact if_pos indeterminate) (indeterminate ▸ .block)
      (History.materialFits_none (by decide) (by decide)) rfl rfl reserves advances ?_
    intro value after same changed
    exact changed.currentBecomes_moved represents member same indeterminate immaterial
  | ambiguous observation =>
    simp only [resolution] at yields transition
    obtain ⟨_, between, reserves, yields⟩ := yields.bind
    obtain ⟨_, _, advances, yields⟩ := yields.bind
    obtain ⟨-, rfl⟩ := yields.pure
    refine carriedOut_of_advance .recoveryAmbiguous consistent member asked meets
      (by rw [transition]; exact if_pos indeterminate) (indeterminate ▸ .leaveIndeterminate)
      (History.materialFits_none (by decide) (by decide)) rfl rfl reserves advances ?_
    intro value after same unchanged
    obtain ⟨-, rfl⟩ := unchanged.pure
    have current := currentBecomes_self represents member same
    rw [History.currentRow, indeterminate, immaterial] at current
    exact current
  | intendedEffectAbsent observation next =>
    simp only [resolution] at yields transition
    obtain ⟨ownNext, lt, renewed⟩ := yields.reprepare_consistent consistent member indeterminate
    refine ⟨_, .move asked member meets ?_, renewed⟩
    rw [transition]
    exact if_pos ⟨indeterminate, ownNext, lt⟩

theorem findCurrent_eq (represents : Represents config tables ledger)
    (member : lifecycle ∈ ledger) :
    findCurrent config tables lifecycle.transactionId = .ok (some lifecycle.snapshot) := by
  rw [findCurrent, loadCurrent_eq represents member]

theorem findCurrent_eq_none (represents : Represents config tables ledger) {id : TransactionId}
    (absent : id.value ∉ ledgerIds ledger) : findCurrent config tables id = .ok none := by
  rw [findCurrent, loadCurrent_eq_notFound represents absent]

/-- `prepare` adds a transaction that is not there, and finds one that is. -/
theorem Yields.prepareBody {binding : AuthorityBinding config.sha256} {outcome : PrepareOutcome}
    (yields : Yields (Persistence.prepareBody config binding) tables outcome tables')
    (consistent : Consistent config tables ledger) :
    CarriedOut config ledger (.prepare binding) tables' ∨ tables' = tables := by
  have represents := consistent.represents
  obtain ⟨result, found, yields⟩ := yields.bind_select
  by_cases known : binding.transactionId.value ∈ ledgerIds ledger
  · obtain ⟨lifecycle, member, same⟩ := List.mem_map.mp known
    rw [← TransactionId.ext same, findCurrent_eq represents member] at found
    cases found
    dsimp only at yields
    split at yields
    · obtain ⟨-, rfl⟩ := yields.pure
      exact .inr rfl
    · exact yields.not_fail.elim
  · rw [findCurrent_eq_none represents known] at found
    cases found
    obtain ⟨_, _, creates, yields⟩ := yields.bind
    obtain ⟨-, rfl⟩ := yields.pure
    exact .inl ⟨_, .prepare known, creates.createTransaction_consistent consistent known⟩

/-! ### The operations -/

section Operations

variable {α : Type} {durable : Tables}

/-- A transaction either commits what its body yields or leaves the database as it was. -/
theorem triple_transaction (body : SqlProgram α) :
    Triple (fun state : StoreState => state.durable = durable) (transaction body)
      (fun value state => Yields body durable value state.durable)
      fun state => state.durable = durable := by
  refine .bind (Q := fun _ state => state.durable = durable)
    (Triple.effect (fun _ => id) fun _ _ => id) fun _ => ?_
  refine .bind
    (Q := fun result state => state.durable = durable ∧ Yields body durable result.1 result.2)
    (Triple.zoom fun outer holds => ?_) fun result => ?_
  · -- the body works on its own tables, so only what it returns matters
    subst holds
    refine .consequence Triple.returns (fun _ => id) ?_
      fun _ _ => rfl
    rintro ⟨value, tables⟩ workspace ended
    obtain ⟨_, ⟨tables', sidecar⟩, first, ended⟩ := ended.bind
    obtain ⟨_, _, selects, ended⟩ := ended.bind
    obtain ⟨selected, -⟩ := selects.query
    obtain ⟨same, -⟩ := ended.pure
    cases selected
    cases same
    exact ⟨rfl, _, _, first⟩
  · refine .bind
      (Q := fun _ state => Yields body durable result.1 state.durable)
      (Triple.effect (fun _ holds => holds.2) fun _ _ holds => holds.1) fun _ => ?_
    exact .pure fun _ => id

variable {body : SqlProgram α}

/-- A transaction that only reads the tables leaves the database alone. -/
theorem leaves_transaction (leaves : body.Leaves Workspace.tables) :
    (transaction body).Leaves StoreState.durable := by
  intro durable
  refine (triple_transaction body).consequence (fun _ => id) ?_ fun _ => id
  intro value state yields
  exact (yields.leaves leaves).symm

/-- Running a program on the file leaves the tables alone. -/
theorem leaves_onSidecar {ε : Type} (program : Program (Option SparseFile) ε α) :
    (onSidecar program).Leaves Workspace.tables :=
  Leaves.zoom fun _ _ => rfl

/-- Reconciling the reserve leaves the tables. -/
theorem leaves_reconcile (config : StoreConfig) :
    (reconcileFilesystemReserveAfterCommit config).Leaves StoreState.durable :=
  leaves_transaction (Leaves.query.bind fun _ => leaves_onSidecar _)

theorem leaves_integrityCheck (config : StoreConfig) :
    (integrityCheck config).Leaves StoreState.durable :=
  Leaves.query.bind fun _ =>
    leaves_transaction (Leaves.query.bind fun _ => leaves_onSidecar _)

/-- An operation that runs a transaction and then reconciles: once the body committed, the request
is carried out, even if reconciling fails. -/
theorem triple_transaction_reconcile {β : Type} {request : Request config}
    {finish : α → StoreProgram β} (leaves : ∀ value, (finish value).Leaves StoreState.durable)
    (carries : ∀ {value tables'}, Yields body durable value tables' →
      CarriedOut config ledger request tables') :
    Triple (fun state : StoreState => state.durable = durable)
      (transaction body >>= fun value =>
        reconcileFilesystemReserveAfterCommit config >>= fun _ => finish value)
      (fun _ state => CarriedOut config ledger request state.durable)
      fun state => CarriedOut config ledger request state.durable ∨ state.durable = durable := by
  refine .bind (Q := fun _ state => CarriedOut config ledger request state.durable)
    ((triple_transaction body).consequence (fun _ => id) (fun _ _ => carries)
      fun _ same => .inr same) fun value => ?_
  have rest := (leaves_reconcile config).bind fun _ => leaves value
  exact (rest.keeps (CarriedOut config ledger request)).weaken fun _ holds => .inl holds

/-- An operation on a sealed request, which has to be authorized. -/
theorem triple_sealed {request : Request config} (authorized : Bool)
    (carries : ∀ {value tables'}, Yields body durable value tables' →
      CarriedOut config ledger request tables') :
    Triple (fun state : StoreState => state.durable = durable) (do
      requireNormalOpen
      if !authorized then Program.fail .authorityRejected
      else
        let value ← transaction body
        reconcileFilesystemReserveAfterCommit config
        return value)
      (fun _ state => CarriedOut config ledger request state.durable)
      fun state => CarriedOut config ledger request state.durable ∨ state.durable = durable := by
  refine .peek (fun _ same => .inr same) fun _ => ?_
  cases authorized with
  | false => exact .fail fun _ same => .inr same
  | true =>
    refine triple_transaction_reconcile ?_ carries
    intro value
    exact .pure

/-- What the store does when it serves a request: it carries it out or leaves the tables alone, and
if it returns from a request that asks for a transition, it did the former. -/
theorem triple_serve (consistent : Consistent config durable ledger) (request : Request config) :
    Triple (fun state : StoreState => state.durable = durable) (serve config request)
      (fun _ state => CarriedOut config ledger request state.durable ∨
        (request.demand = none ∧ state.durable = durable))
      fun state => CarriedOut config ledger request state.durable ∨ state.durable = durable := by
  cases request with
  | prepare binding =>
    refine .bind (Q := fun _ state =>
      CarriedOut config ledger (.prepare binding) state.durable ∨ state.durable = durable) ?_
      fun _ => .pure fun _ holds => holds.imp_right fun same => ⟨rfl, same⟩
    refine .peek (fun _ same => .inr same) fun _ => ?_
    exact (triple_transaction _).consequence (fun _ => id)
      (fun _ _ yields => yields.prepareBody consistent) fun _ same => .inr same
  | handoff request now =>
    refine (triple_sealed _ ?_).bind fun _ => .pure fun _ holds => .inl holds
    exact fun yields => yields.handoffBody consistent
  | recover request now =>
    refine (triple_sealed _ ?_).bind fun _ => .pure fun _ holds => .inl holds
    exact fun yields => yields.recoverBody consistent
  | commit request =>
    refine (triple_sealed _ ?_).bind fun _ => .pure fun _ holds => .inl holds
    exact fun yields => yields.commitBody consistent
  | abortPrepared request =>
    refine .bind (Q := fun _ state =>
      CarriedOut config ledger (.abortPrepared request) state.durable) ?_
      fun _ => .pure fun _ holds => .inl holds
    -- aborting needs no authority, and may end terminal recovery
    refine triple_transaction_reconcile ?_ fun yields => yields.abortBody consistent
    intro value
    apply Leaves.bind
    · apply Leaves.modify
      intro state
      rfl
    · intro _
      exact .pure
  | integrityCheck =>
    have rest : (serve config .integrityCheck).Leaves StoreState.durable :=
      (leaves_integrityCheck config).bind fun _ => .pure
    exact (rest durable).consequence (fun _ => id) (fun _ _ same => .inr ⟨rfl, same⟩)
      fun _ same => .inr same

/-- So does opening the store. -/
theorem leaves_openStore (config : StoreConfig) (terminalRecovery : Bool) :
    (openStore config terminalRecovery).Leaves StoreState.durable := by
  refine .bind .query fun _ => ?_
  refine .bind (Leaves.modify ?_) fun _ => .bind ?_ fun _ =>
    Leaves.bind (Leaves.atomically ?_) fun _ => leaves_integrityCheck config
  · intro state
    rfl
  · cases terminalRecovery with
    | false => exact .pure
    | true =>
      refine .bind (Leaves.zoom ?_) fun released => ?_
      · intro sidecar state
        rfl
      · cases released with
        | false => exact .fail
        | true => exact .pure
  · intro state
    rfl

end Operations

/-! ### Runs -/

section Runs

variable {system : System}

/-- Serving a request, in terms of the ledger. -/
theorem respond_refines (consistent : Consistent config system.store.durable ledger)
    (request : Request config) (faults : List Fault) :
    CarriedOut config ledger request (respond config system request faults).2.state.durable ∨
      ((respond config system request faults).2.state.durable = system.store.durable ∧
        ∀ response, (respond config system request faults).1 = .ok response →
          request.demand = none) := by
  have served := (triple_serve consistent request).run ⟨system.store, faults⟩ rfl
  unfold respond
  rcases ended : serve config request ⟨system.store, faults⟩ with ⟨outcome, s⟩
  rw [ended] at served
  cases outcome with
  | ok response => exact served.imp_right fun same => ⟨same.2, fun _ _ => same.1⟩
  | error | crashed =>
    refine served.imp_right fun same => ⟨same, ?_⟩
    intro _ ok
    cases ok

theorem step_request (opened : system.isOpen = true) (request : Request config)
    (faults : List Fault) :
    (system.step config (.request request faults)).store =
      (respond config system request faults).2.state := by
  simp only [System.step, opened]
  rfl

/-- An event leaves the tables alone, or it is a request that is carried out. -/
theorem step_refines (consistent : Consistent config system.store.durable ledger)
    (event : Event config) :
    (system.step config event).store.durable = system.store.durable ∨
      ∃ request faults, event = .request request faults ∧ system.isOpen = true ∧
        CarriedOut config ledger request (system.step config event).store.durable := by
  cases event with
  | openStore terminalRecovery faults =>
    left
    have same := (leaves_openStore config terminalRecovery).state_eq ⟨system.store, faults⟩
    by_cases opened : system.isOpen = true
    · simp [System.step, opened]
    · simp only [System.step, opened, Bool.false_eq_true, if_false]
      rcases ended : openStore config terminalRecovery ⟨system.store, faults⟩ with ⟨outcome, s⟩
      rw [ended] at same
      cases outcome <;> exact same
  | request request faults =>
    by_cases opened : system.isOpen = true
    · rw [step_request opened]
      rcases respond_refines consistent request faults with carried | ⟨same, -⟩
      · exact .inr ⟨request, faults, rfl, opened, carried⟩
      · exact .inl same
    · left
      simp [System.step, opened]
  | close => exact .inl rfl

variable (events : List (Event config))

theorem run_concat (event : Event config) :
    System.run config (events ++ [event]) = (System.run config events).step config event :=
  List.foldl_concat _ _ _ _

theorem run_append (more : List (Event config)) :
    System.run config (events ++ more) =
      more.foldl (System.step config) (System.run config events) :=
  List.foldl_append

/-- After every run the tables represent a ledger, within the limits. -/
theorem exists_consistent_run :
    ∃ ledger, Consistent config (System.run config events).store.durable ledger := by
  induction events using List.reverseRecOn with
  | nil => exact ⟨[], represents_empty config, withinLimits_empty _⟩
  | append_singleton events event ih =>
    obtain ⟨ledger, consistent⟩ := ih
    rw [run_concat]
    rcases step_refines consistent event with same | ⟨_, _, -, -, ledger', -, carried⟩
    · rw [same]
      exact ⟨ledger, consistent⟩
    · exact ⟨ledger', carried⟩

end Runs

end Linura.Persistence
