import Linura.Persistence.Chronicle

/-!
# Requests made from snapshots

Clients read a snapshot of a transaction and ask for a transition from it.  The version of a
transaction rises with every transition that is carried out, so a request is carried out only
while the snapshot is current: of all requests made from one snapshot, in any order and with
any repetitions, at most one succeeds.
-/

namespace Linura.Persistence

open Linura.Lib Linura.Core Linura.Transaction

variable {config : StoreConfig}

/-! ### Lifecycles over time -/

/-- A lifecycle at a later time: unchanged, or moved on, which only an unfinished one does. -/
structure Lifecycle.Precedes {sha256 : Sha256} (lifecycle later : Lifecycle sha256) : Prop where
  transactionId : later.transactionId = lifecycle.transactionId
  progress : later = lifecycle ∨
    (isNonterminal lifecycle.state = true ∧ lifecycle.stateVersion < later.stateVersion)

namespace Lifecycle.Precedes

variable {sha256 : Sha256} {first second third : Lifecycle sha256}

theorem refl (lifecycle : Lifecycle sha256) : lifecycle.Precedes lifecycle := ⟨rfl, .inl rfl⟩

theorem trans (before : first.Precedes second) (after : second.Precedes third) :
    first.Precedes third := by
  refine ⟨after.transactionId.trans before.transactionId, ?_⟩
  rcases before.progress with rfl | ⟨nonterminal, lt⟩
  · exact after.progress
  · rcases after.progress with rfl | ⟨-, lt'⟩
    · exact .inr ⟨nonterminal, lt⟩
    · exact .inr ⟨nonterminal, lt.trans lt'⟩

theorem stateVersion_le (precedes : first.Precedes second) :
    first.stateVersion ≤ second.stateVersion := by
  rcases precedes.progress with rfl | ⟨-, lt⟩
  · exact le_rfl
  · exact lt.le

/-- A version names one state of a lifecycle. -/
theorem eq_of_stateVersion_le (precedes : first.Precedes second)
    (le : second.stateVersion ≤ first.stateVersion) : second = first := by
  rcases precedes.progress with same | ⟨-, lt⟩
  · exact same
  · exact absurd lt (Nat.not_lt.mpr le)

theorem of_apply {transition : Transition sha256}
    (applied : first.apply transition = some second.toHistory) : first.Precedes second := by
  obtain ⟨nonterminal, version, sameId⟩ := History.apply_facts applied
  refine ⟨sameId, .inr ⟨nonterminal, ?_⟩⟩
  rw [version]
  exact Nat.lt_succ_self _

end Lifecycle.Precedes

/-! ### Ledgers over time -/

section Ledgers

variable {ledger ledger' : List (Lifecycle config.sha256)} {lifecycle : Lifecycle config.sha256}
variable {request : Request config}

/-- The request is one to this transaction. -/
def Request.Addresses (request : Request config) (id : TransactionId) : Prop :=
  ∃ demand, request.demand = some demand ∧ demand.transactionId = id

/-- A step of the ledger moves the transaction that is addressed and no other. -/
theorem LedgerStep.exists_later (step : LedgerStep config ledger request ledger')
    (nodup : (ledgerIds ledger).Nodup) (member : lifecycle ∈ ledger) :
    ∃ later ∈ ledger', lifecycle.Precedes later ∧
      (request.Addresses lifecycle.transactionId →
        lifecycle.stateVersion < later.stateVersion) := by
  cases step with
  | prepare absent =>
    refine ⟨lifecycle, List.mem_append_left _ member, .refl _, ?_⟩
    rintro ⟨demand, asked, -⟩
    cases asked
  | @move _ demand moved new asked movedMember meets applied =>
    obtain ⟨-, version, sameId⟩ := History.apply_facts applied
    by_cases same : lifecycle.transactionId = moved.transactionId
    · obtain rfl : lifecycle = moved :=
        List.inj_on_of_nodup_map nodup member movedMember (congrArg TransactionId.value same)
      refine ⟨new, new_mem_replaceLifecycle member sameId, .of_apply applied, fun _ => ?_⟩
      rw [version]
      exact Nat.lt_succ_self _
    · refine ⟨lifecycle, mem_replaceLifecycle_of_ne member ?_, .refl _, ?_⟩
      · rw [sameId]
        exact fun clash => same (TransactionId.ext clash)
      · rintro ⟨demand', asked', addressed⟩
        rw [asked] at asked'
        cases asked'
        exact absurd (addressed.symm.trans meets.transactionId.symm) same

/-- Over a run, every transaction is what it was or has moved on, and it has moved on if a request
to it was carried out. -/
theorem exists_later_ledger {system : System}
    (consistent : Consistent config system.store.durable ledger) (events : List (Event config)) :
    ∃ ledger', Consistent config (events.foldl (System.step config) system).store.durable ledger' ∧
      ∀ lifecycle ∈ ledger, ∃ later ∈ ledger', lifecycle.Precedes later ∧
        ∀ request ∈ along System.applied system events,
          request.Addresses lifecycle.transactionId →
            lifecycle.stateVersion < later.stateVersion := by
  refine exists_ledger_of_along (I := fun requests ledger' => ∀ lifecycle ∈ ledger,
    ∃ later ∈ ledger', lifecycle.Precedes later ∧ ∀ request ∈ requests,
      request.Addresses lifecycle.transactionId → lifecycle.stateVersion < later.stateVersion)
    consistent ?_ ?_ events
  · intro lifecycle member
    exact ⟨lifecycle, member, .refl _, by simp⟩
  · intro requests current request next nodup holds step lifecycle member
    obtain ⟨between, betweenMember, precedes, moved⟩ := holds lifecycle member
    obtain ⟨later, laterMember, follows, movedLast⟩ := step.exists_later nodup betweenMember
    refine ⟨later, laterMember, precedes.trans follows, ?_⟩
    intro earlier earlierMember addressed
    rcases List.mem_append.mp earlierMember with old | last
    · exact (moved earlier old addressed).trans_le follows.stateVersion_le
    · rw [List.mem_singleton.mp last] at addressed
      rw [← precedes.transactionId] at addressed
      exact precedes.stateVersion_le.trans_lt (movedLast addressed)

/-- The requests carried out, and the versions they were made from. -/
structure Versions (requests : List (Request config)) (ledger : List (Lifecycle config.sha256)) :
    Prop where
  /-- Every transaction is beyond the versions that requests to it were made from. -/
  past : ∀ request ∈ requests, ∀ demand, request.demand = some demand → ∃ lifecycle ∈ ledger,
    lifecycle.transactionId = demand.transactionId ∧
      demand.expectedStateVersion < lifecycle.stateVersion
  increasing : requests.Pairwise fun request request' => ∀ demand demand',
    request.demand = some demand → request'.demand = some demand' →
    demand.transactionId = demand'.transactionId →
    demand.expectedStateVersion < demand'.expectedStateVersion

/-- A step of the ledger uses up a version. -/
theorem Versions.step {requests : List (Request config)} (versions : Versions requests ledger)
    (nodup : (ledgerIds ledger).Nodup) (step : LedgerStep config ledger request ledger') :
    Versions (requests ++ [request]) ledger' := by
  -- the transaction that a request was carried out on had the version it was made from
  have current : ∀ demand, request.demand = some demand → ∃ lifecycle ∈ ledger,
      lifecycle.transactionId = demand.transactionId ∧
        lifecycle.stateVersion = demand.expectedStateVersion := by
    intro demand asked
    cases step with
    | prepare absent => cases asked
    | move asked' member meets applied =>
      rw [asked] at asked'
      cases asked'
      exact ⟨_, member, meets.transactionId, meets.stateVersion⟩
  refine ⟨?_, ?_⟩
  · intro earlier member demand asked
    rcases List.mem_append.mp member with old | last
    · obtain ⟨lifecycle, lifecycleMember, own, lt⟩ := versions.past earlier old demand asked
      obtain ⟨later, laterMember, precedes, -⟩ := step.exists_later nodup lifecycleMember
      exact ⟨later, laterMember, precedes.transactionId.trans own,
        lt.trans_le precedes.stateVersion_le⟩
    · rw [List.mem_singleton.mp last] at asked
      obtain ⟨lifecycle, lifecycleMember, own, same⟩ := current demand asked
      obtain ⟨later, laterMember, precedes, moved⟩ := step.exists_later nodup lifecycleMember
      refine ⟨later, laterMember, precedes.transactionId.trans own, ?_⟩
      rw [← same]
      exact moved ⟨demand, asked, own.symm⟩
  · rw [List.pairwise_append]
    refine ⟨versions.increasing, List.pairwise_singleton _ _, ?_⟩
    intro earlier member last lastMember demand demand' asked asked' same
    rw [List.mem_singleton.mp lastMember] at asked'
    obtain ⟨lifecycle, lifecycleMember, own, lt⟩ := versions.past earlier member demand asked
    obtain ⟨lifecycle', lifecycleMember', own', version⟩ := current demand' asked'
    obtain rfl : lifecycle = lifecycle' := List.inj_on_of_nodup_map nodup lifecycleMember
      lifecycleMember' (congrArg TransactionId.value (own.trans (same.trans own'.symm)))
    rw [← version]
    exact lt

/-- Along every run, the versions of a transaction increase. -/
theorem increasing_of_run (events : List (Event config)) :
    (applied events).Pairwise fun request request' => ∀ demand demand',
      request.demand = some demand → request'.demand = some demand' →
      demand.transactionId = demand'.transactionId →
      demand.expectedStateVersion < demand'.expectedStateVersion := by
  obtain ⟨ledger, -, versions⟩ := @exists_ledger_of_along config [] Versions .fresh
    ⟨represents_empty config, withinLimits_empty _⟩ ⟨by simp, List.Pairwise.nil⟩
    (fun nodup versions step => versions.step nodup step) events
  exact versions.increasing

end Ledgers

/-! ### Rows over time -/

/-- The rows of one transaction are the same in two databases. -/
structure SameRows (id : TransactionId) (tables tables' : Tables) : Prop where
  transaction : (tables'.transactions.find? fun row => row.transactionId = id.value) =
    tables.transactions.find? fun row => row.transactionId = id.value
  generations : tables'.generationsOf id.value = tables.generationsOf id.value
  auditEvents : tables'.auditEventsOf id.value = tables.auditEventsOf id.value
  auditReservations : tables'.auditReservationsOf id.value = tables.auditReservationsOf id.value

section Rows

variable {tables tables' : Tables} {ledger ledger' : List (Lifecycle config.sha256)}
variable {lifecycle : Lifecycle config.sha256}

theorem sameRows_of_mem (represents : Represents config tables ledger)
    (represents' : Represents config tables' ledger') (member : lifecycle ∈ ledger)
    (member' : lifecycle ∈ ledger') : SameRows lifecycle.transactionId tables tables' where
  transaction := by
    rw [represents.find?_transaction member, represents'.find?_transaction member']
  generations := by
    rw [represents.generations lifecycle member, represents'.generations lifecycle member']
  auditEvents := by
    rw [represents.auditEvents lifecycle member, represents'.auditEvents lifecycle member']
  auditReservations := by
    rw [represents.auditReservations lifecycle member,
      represents'.auditReservations lifecycle member']

/-- A snapshot that is found is that of a lifecycle. -/
theorem Represents.of_findCurrent (represents : Represents config tables ledger)
    {id : TransactionId} {snapshot : TransactionSnapshot}
    (found : findCurrent config tables id = .ok (some snapshot)) :
    ∃ lifecycle ∈ ledger, lifecycle.transactionId = id ∧ lifecycle.snapshot = snapshot := by
  by_cases known : id.value ∈ ledgerIds ledger
  · obtain ⟨lifecycle, member, same⟩ := List.mem_map.mp known
    have own : lifecycle.transactionId = id := TransactionId.ext same
    rw [← own, findCurrent_eq represents member] at found
    cases found
    exact ⟨lifecycle, member, own, rfl⟩
  · rw [findCurrent_eq_none represents known] at found
    cases found

/-- A request made from a snapshot, served after more has happened: it fails and changes nothing, or
it is carried out, and then nothing had happened to the transaction since. -/
theorem respond_of_snapshot {system : System}
    (consistent : Consistent config system.store.durable ledger) (member : lifecycle ∈ ledger)
    (between : List (Event config)) {request : Request config} {demand : Demand config.sha256}
    (asked : request.demand = some demand)
    (addressed : demand.transactionId = lifecycle.transactionId)
    (version : demand.expectedStateVersion = lifecycle.stateVersion) (faults : List Fault) :
    let current := between.foldl (System.step config) system
    let served := respond config current request faults
    ((∀ response, served.1 ≠ .ok response) ∧
      served.2.state.durable = current.store.durable) ∨
    ((∀ other ∈ along System.applied system between, ¬ other.Addresses lifecycle.transactionId) ∧
      (∃ ledger', Consistent config current.store.durable ledger' ∧ lifecycle ∈ ledger') ∧
      ∃ snapshot', findCurrent config served.2.state.durable lifecycle.transactionId =
        .ok (some snapshot') ∧ snapshot'.stateVersion = lifecycle.stateVersion + 1) := by
  obtain ⟨ledger', consistent', successors⟩ := exists_later_ledger consistent between
  obtain ⟨later, laterMember, precedes, moved⟩ := successors lifecycle member
  rcases respond_refines consistent' request faults with ⟨ledger'', step, carried⟩ | ⟨same, none⟩
  · right
    cases step with
    | prepare absent => cases asked
    | @move _ demand' acted new asked' actedMember meets applied =>
      rw [asked] at asked'
      cases asked'
      obtain ⟨-, newVersion, sameId⟩ := History.apply_facts applied
      -- the transaction acted on is the one of the snapshot, and still has its version
      obtain rfl : later = acted := consistent'.represents.eq_of_id_eq laterMember actedMember
        (congrArg TransactionId.value
          (precedes.transactionId.trans (addressed.symm.trans meets.transactionId.symm)))
      have le : later.stateVersion ≤ lifecycle.stateVersion :=
        (meets.stateVersion.trans version).le
      obtain rfl := precedes.eq_of_stateVersion_le le
      refine ⟨?_, ⟨ledger', consistent', laterMember⟩, new.snapshot, ?_, newVersion⟩
      · intro other otherMember toIt
        exact lt_irrefl _ (moved other otherMember toIt)
      · rw [← sameId]
        exact findCurrent_eq carried.represents (new_mem_replaceLifecycle actedMember sameId)
  · left
    refine ⟨fun response ok => ?_, same⟩
    rw [none response ok] at asked
    cases asked

/-- A lifecycle that is there before and after was there all along. -/
theorem findCurrent_of_unchanged {system : System}
    (consistent : Consistent config system.store.durable ledger) (member : lifecycle ∈ ledger)
    (earlier later : List (Event config))
    (consistent' : Consistent config
      ((earlier ++ later).foldl (System.step config) system).store.durable ledger')
    (member' : lifecycle ∈ ledger') :
    findCurrent config (earlier.foldl (System.step config) system).store.durable
      lifecycle.transactionId = .ok (some lifecycle.snapshot) := by
  obtain ⟨middle, consistentMiddle, successors⟩ := exists_later_ledger consistent earlier
  obtain ⟨between, betweenMember, precedes, -⟩ := successors lifecycle member
  obtain ⟨final, consistentFinal, successors⟩ := exists_later_ledger consistentMiddle later
  obtain ⟨last, lastMember, precedesLast, -⟩ := successors between betweenMember
  -- both ledgers at the end say what the tables say
  rw [List.foldl_append] at consistent'
  have found := findCurrent_eq consistentFinal.represents lastMember
  rw [precedesLast.transactionId, precedes.transactionId,
    findCurrent_eq consistent'.represents member'] at found
  have same : lifecycle.stateVersion = last.stateVersion := by
    injection found with found
    injection found with found
    exact congrArg TransactionSnapshot.stateVersion found
  have le : between.stateVersion ≤ lifecycle.stateVersion := by
    rw [same]
    exact precedesLast.stateVersion_le
  rw [precedes.eq_of_stateVersion_le le] at betweenMember
  exact findCurrent_eq consistentMiddle.represents betweenMember

end Rows

/-- Of the requests that a run carries out, which include those that succeed, any two to one
transaction were made from different versions, the later from the greater: so of all requests made
from one snapshot at most one is carried out, and none is carried out twice.

Let a snapshot of a transaction be current at some point of the run.  At the end, either the rows of
the transaction are what they were, or the transaction was not finished and its version has risen.
A request made from the snapshot and served at the end fails and leaves all tables unchanged, unless
no request to the transaction was carried out since, so that the snapshot was current all along;
then it raises the version by one. -/
theorem run_requests_serialized (config : StoreConfig) (events : List (Event config)) :
    ((applied events).Pairwise fun request request' => ∀ demand demand',
      request.demand = some demand → request'.demand = some demand' →
      demand.transactionId = demand'.transactionId →
      demand.expectedStateVersion < demand'.expectedStateVersion) ∧
    ((succeeded events).filter fun request => request.demand.isSome).Sublist (applied events) ∧
    ∀ before between, events = before ++ between → ∀ id snapshot,
      findCurrent config (System.run config before).store.durable id = .ok (some snapshot) →
      (SameRows id (System.run config before).store.durable
          (System.run config events).store.durable ∨
        isNonterminal snapshot.state = true ∧ ∃ snapshot',
          findCurrent config (System.run config events).store.durable id = .ok (some snapshot') ∧
            snapshot.stateVersion < snapshot'.stateVersion) ∧
      ∀ request demand faults, request.demand = some demand → demand.transactionId = id →
        demand.expectedStateVersion = snapshot.stateVersion →
        let served := respond config (System.run config events) request faults
        ((∀ response, served.1 ≠ .ok response) ∧
          served.2.state.durable = (System.run config events).store.durable) ∨
        ((∀ other ∈ along System.applied (System.run config before) between,
            ¬ other.Addresses id) ∧
          (∀ earlier later, between = earlier ++ later →
            findCurrent config (System.run config (before ++ earlier)).store.durable id =
              .ok (some snapshot)) ∧
          ∃ snapshot', findCurrent config served.2.state.durable id = .ok (some snapshot') ∧
            snapshot'.stateVersion = snapshot.stateVersion + 1) := by
  refine ⟨increasing_of_run events, succeeded_sublist_applied events, ?_⟩
  rintro before between rfl id snapshot found
  obtain ⟨ledger, consistent⟩ := exists_consistent_run before
  obtain ⟨lifecycle, member, rfl, rfl⟩ := consistent.represents.of_findCurrent found
  rw [run_append]
  constructor
  · obtain ⟨ledger', consistent', successors⟩ := exists_later_ledger consistent between
    obtain ⟨later, laterMember, precedes, -⟩ := successors lifecycle member
    rcases precedes.progress with rfl | ⟨nonterminal, lt⟩
    · exact .inl (sameRows_of_mem consistent.represents consistent'.represents member laterMember)
    · refine .inr ⟨nonterminal, later.snapshot, ?_, lt⟩
      rw [← precedes.transactionId]
      exact findCurrent_eq consistent'.represents laterMember
  · intro request demand faults asked addressed version
    rcases respond_of_snapshot consistent member between asked addressed version faults with
      failed | ⟨unaddressed, ⟨ledger', consistent', member'⟩, risen⟩
    · exact .inl failed
    · refine .inr ⟨unaddressed, ?_, risen⟩
      rintro earlier later rfl
      rw [run_append]
      exact findCurrent_of_unchanged consistent member earlier later consistent' member'

end Linura.Persistence
