import Linura.Lib.Guarantee
import Linura.Lib.Split
import Linura.Persistence.Refinement

/-!
# The transaction store as its users see it

Control uses the transaction store through a trait.  Here the store is a ledger of
lifecycles: a request moves one lifecycle by one transition, or is refused.  Any call may
fail or be cut short; a call that was cut short has moved the ledger entirely or not at
all.
-/

namespace Linura.Persistence

open Linura.Lib Linura.Core Linura.Transaction

variable {sha256 : Sha256}
variable {ledger ledger' : List (Lifecycle sha256)} {binding : AuthorityBinding sha256}

/-- The text of a refusal, as `Display` writes it. -/
def storeErrorText : TransactionStoreError → String
  | .idempotencyConflict => "durable request idempotency conflict"
  | .stateConflict => "durable transaction state/version conflict"
  | .notFound => "durable transaction not found"
  | .capacityExceeded => "durable transaction capacity exceeded"
  | .authorityRejected => "durable transaction mutation authority rejected"
  | .corruption reason => "durable transaction corruption: " ++ reason
  | .unsupportedSchema reason => "unsupported durable transaction schema: " ++ reason
  | .storage reason => "durable transaction storage failure: " ++ reason

/-! ### Lookups -/

def findLifecycle (ledger : List (Lifecycle sha256)) (id : TransactionId) :
    Option (Lifecycle sha256) :=
  ledger.find? fun lifecycle => lifecycle.transactionId = id

section Lookups

variable {ledger : List (Lifecycle sha256)} {id : TransactionId}
    {lifecycle old new : Lifecycle sha256}

theorem transactionId_of_findLifecycle (found : findLifecycle ledger id = some lifecycle) :
    lifecycle.transactionId = id := by
  simpa using List.find?_some found

/-- What is found after a lifecycle was added. -/
theorem findLifecycle_append (ledger : List (Lifecycle sha256)) (new : Lifecycle sha256)
    (id : TransactionId) :
    findLifecycle (ledger ++ [new]) id =
      (findLifecycle ledger id).or (if new.transactionId = id then some new else none) := by
  unfold findLifecycle
  rw [List.find?_append]
  by_cases own : new.transactionId = id
  · simp [own]
  · simp [own]

/-- Replacing a lifecycle changes the lookup of its transaction only. -/
theorem findLifecycle_replaceLifecycle
    (found : findLifecycle ledger new.transactionId = some old) (id : TransactionId) :
    findLifecycle (replaceLifecycle ledger new) id =
      if id = new.transactionId then some new else findLifecycle ledger id := by
  unfold findLifecycle replaceLifecycle updateRows at *
  induction ledger with
  | nil => simp at found
  | cons first rest ih =>
    by_cases own : first.transactionId = new.transactionId
    · by_cases asked : id = new.transactionId
      · simp [own, asked]
      · -- the replaced lifecycle is not the one asked for; the others are compared one by one
        have elsewhere : ∀ list : List (Lifecycle sha256),
            (list.map fun lifecycle =>
              if decide (lifecycle.transactionId.value = new.transactionId.value) = true then new
              else lifecycle).find? (fun lifecycle => decide (lifecycle.transactionId = id)) =
              list.find? fun lifecycle => decide (lifecycle.transactionId = id) := by
          intro list
          induction list with
          | nil => rfl
          | cons head tail ihTail =>
            rw [List.map_cons, List.find?_cons, List.find?_cons, ihTail]
            by_cases same : head.transactionId = new.transactionId
            · simp [same, Ne.symm asked]
            · have differs : head.transactionId.value ≠ new.transactionId.value :=
                fun equal => same (TransactionId.ext equal)
              simp [differs]
        rw [elsewhere, if_neg asked]
    · have differs : first.transactionId.value ≠ new.transactionId.value :=
        fun equal => own (TransactionId.ext equal)
      rw [List.find?_cons] at found
      simp only [own, decide_false] at found
      rw [List.map_cons, List.find?_cons, List.find?_cons]
      simp only [differs, decide_false, Bool.false_eq_true, if_false]
      by_cases asked : first.transactionId = id
      · simp [asked, asked ▸ own]
      · simp only [asked, decide_false]
        exact ih found

end Lookups

/-! ### Operations -/

abbrev LedgerProgram (sha256 : Sha256) := Program (List (Lifecycle sha256)) TransactionStoreError

instance (demand : Demand sha256) (history : History sha256) : Decidable (demand.Meets history) :=
  decidable_of_iff (history.transactionId = demand.transactionId ∧
      history.generation = demand.expectedGeneration ∧
      history.stateVersion = demand.expectedStateVersion ∧
      demand.expectedBindingDigest.all (fun digest => history.binding.digest = digest) = true)
    ⟨fun ⟨id, generation, version, digest⟩ => ⟨id, generation, version, by
        intro expected member
        simpa [Option.mem_def.mp member] using digest⟩,
      fun meets => ⟨meets.transactionId, meets.generation, meets.stateVersion, by
        cases expected : demand.expectedBindingDigest with
        | none => rfl
        | some digest => simpa using meets.bindingDigest digest expected⟩⟩

/-- A lifecycle after a transition, if it allows it. -/
def Lifecycle.step (lifecycle : Lifecycle sha256) (transition : Transition sha256) :
    Option (Lifecycle sha256) :=
  match applied : lifecycle.apply transition with
  | none => none
  | some history => some ⟨history, lifecycle.wellFormed.apply applied⟩

theorem Lifecycle.apply_of_step {lifecycle new : Lifecycle sha256} {transition : Transition sha256}
    (stepped : lifecycle.step transition = some new) :
    lifecycle.apply transition = some new.toHistory := by
  unfold Lifecycle.step at stepped
  split at stepped
  · cases stepped
  · rename_i history applied
    cases stepped
    exact applied

/-- Move the lifecycle that a demand is about, if it is what the demand expects. -/
def moveLifecycle (demand : Demand sha256) (ledger : List (Lifecycle sha256)) :
    Except TransactionStoreError (Lifecycle sha256) :=
  match findLifecycle ledger demand.transactionId with
  | none => .error .notFound
  | some lifecycle =>
    if demand.Meets lifecycle.toHistory then
      (lifecycle.step demand.transition).elim (.error .stateConflict) .ok
    else .error .stateConflict

/-- Make a change of the ledger durable.  The change happened if the interrupted call made any
progress. -/
def store (change : List (Lifecycle sha256) → List (Lifecycle sha256)) :
    LedgerProgram sha256 Unit :=
  Program.effect sqliteError (fun progress ledger => if progress = 0 then ledger else change ledger)
    change

/-- Carry out a demand. -/
def settle (demand : Demand sha256) : LedgerProgram sha256 (Lifecycle sha256) := do
  Program.access sqliteError
  let new ← Program.query (moveLifecycle demand)
  store fun ledger => replaceLifecycle ledger new
  return new

namespace LedgerStore

variable (id : TransactionId)

def lookup : LedgerProgram sha256 (Lifecycle sha256) := do
  Program.access sqliteError
  Program.query fun ledger => (findLifecycle ledger id).elim (.error .notFound) .ok

/-- `TransactionStore::snapshot` -/
def snapshot : LedgerProgram sha256 TransactionSnapshot := do
  return (← lookup id).snapshot

/-- `TransactionStore::recovery_anchor` -/
def recoveryAnchor : LedgerProgram sha256 RecoveryAnchor := do
  let lifecycle ← lookup id
  return ⟨lifecycle.snapshot, lifecycle.binding.requestDigest, lifecycle.binding.preconditionDigest⟩

/-- `TransactionStore::verified_commit_material` -/
def verifiedCommitMaterial : LedgerProgram sha256 VerifiedCommitMaterial := do
  let lifecycle ← lookup id
  match lifecycle.state, lifecycle.material with
  | .verified, some material =>
    return ⟨lifecycle.snapshot, material.desired, material.graph, material.provenance⟩
  | _, _ => Program.fail .stateConflict

/-- `TransactionStore::list_state` -/
def listState (state : TransactionState) : LedgerProgram sha256 (List TransactionSnapshot) := do
  Program.access sqliteError
  Program.query fun ledger =>
    .ok ((ledger.filter fun lifecycle => lifecycle.state = state).map fun lifecycle =>
      lifecycle.snapshot)

/-- `TransactionStore::prepare` -/
def prepare (binding : AuthorityBinding sha256) : LedgerProgram sha256 PrepareOutcome := do
  Program.access sqliteError
  match ← Program.query fun ledger => .ok (findLifecycle ledger binding.transactionId) with
  | some lifecycle =>
    let snapshot := lifecycle.snapshot
    if snapshot.state = .prepared ∧ snapshot.bindingDigest = binding.digest ∧
        snapshot.principal = binding.principal ∧ snapshot.requestId = binding.requestId then
      return .existing snapshot
    else Program.fail .idempotencyConflict
  | none =>
    store fun ledger => ledger ++ [Lifecycle.prepared binding]
    return .created (Lifecycle.prepared binding).snapshot

/-- `TransactionStore::handoff` -/
def handoff (request : HandoffRequest) (now : Option Nat) : LedgerProgram sha256 HandoffCommit := do
  Program.lift (enforceAuthorityWindow now request.authorizedAtUnixMs request.expiresAtUnixMs)
  let new ← settle (handoffDemand request)
  return ⟨request.transactionId, new.generation, new.stateVersion, request.expectedBindingDigest,
    request.authorityUseDigest⟩

/-- The answer that goes with a resolution. -/
def recoveryOutcome (resolution : RecoveryResolution sha256) (snapshot : TransactionSnapshot) :
    RecoveryOutcome :=
  match resolution with
  | .intendedStateVerified .. => .verified snapshot
  | .intendedEffectAbsent .. => .reprepared snapshot
  | .conflictingState .. => .blocked snapshot
  | .ambiguous .. => .stillIndeterminate snapshot

/-- `TransactionStore::recover` -/
def recover (request : RecoveryRequest sha256) (now : Option Nat) :
    LedgerProgram sha256 RecoveryOutcome := do
  Program.lift (enforceAuthorityWindow now request.authorizedAtUnixMs request.expiresAtUnixMs)
  let new ← settle (recoveryDemand request)
  return recoveryOutcome request.resolution new.snapshot

/-- `TransactionStore::commit` -/
def commit (request : CommitRequest) : LedgerProgram sha256 TransactionSnapshot := do
  let new ← settle (commitDemand request)
  return new.snapshot

/-- `TransactionStore::abort_prepared` -/
def abortPrepared (request : AbortRequest) : LedgerProgram sha256 TransactionSnapshot := do
  let new ← settle (abortDemand request)
  return new.snapshot

end LedgerStore

/-! ### What a call does -/

section Calls

open Program

/-- A transaction met a demand and is moved by it. -/
structure Settled (demand : Demand sha256) (ledger : List (Lifecycle sha256))
    (old new : Lifecycle sha256) : Prop where
  found : findLifecycle ledger demand.transactionId = some old
  meets : demand.Meets old.toHistory
  applied : old.apply demand.transition = some new.toHistory

variable {demand : Demand sha256}

variable {new : Lifecycle sha256}

/-- A move that succeeded met its demand. -/
theorem settled_of_moveLifecycle (moved : moveLifecycle demand ledger = .ok new) :
    ∃ old, Settled demand ledger old new := by
  unfold moveLifecycle at moved
  split at moved
  · cases moved
  · rename_i old found
    split at moved
    · rename_i meets
      cases stepped : old.step demand.transition with
      | none =>
        rw [stepped] at moved
        cases moved
      | some next =>
        rw [stepped] at moved
        cases moved
        exact ⟨old, found, meets, Lifecycle.apply_of_step stepped⟩
    · cases moved

namespace Settled

variable {demand : Demand sha256} {ledger : List (Lifecycle sha256)} {old new : Lifecycle sha256}

theorem transactionId_eq (settled : Settled demand ledger old new) :
    new.transactionId = demand.transactionId := by
  rw [(History.apply_facts settled.applied).2.2]
  exact settled.meets.transactionId

/-- What is found after a lifecycle was settled. -/
theorem findLifecycle_eq (settled : Settled demand ledger old new) (id : TransactionId) :
    findLifecycle (replaceLifecycle ledger new) id =
      if id = demand.transactionId then some new else findLifecycle ledger id := by
  have found := settled.found
  rw [← settled.transactionId_eq] at found ⊢
  exact findLifecycle_replaceLifecycle found id

end Settled

/-- Settling a demand relates the ledgers if every transaction that may be moved does. -/
theorem guarantees_settle {R : List (Lifecycle sha256) → List (Lifecycle sha256) → Prop}
    [IsPreorder (List (Lifecycle sha256)) R]
    (related : ∀ ledger old new, Settled demand ledger old new →
      R ledger (replaceLifecycle ledger new)) :
    Guarantees R (settle demand) := by
  refine .of_triple fun ledger => ?_
  refine (Triple.access fun state same => same ▸ refl_of R ledger).bind fun _ => ?_
  refine .bind (Q := fun new state => state = ledger ∧ ∃ old, Settled demand ledger old new)
    (Triple.query ?_ ?_) fun new => ?_
  · intro state new same moved
    subst same
    exact ⟨rfl, settled_of_moveLifecycle moved⟩
  · intro state same
    exact same ▸ refl_of R ledger
  · refine (Triple.effect (Q := fun _ state => R ledger state) ?_ ?_).bind fun _ => .pure ?_
    · rintro state ⟨rfl, old, settled⟩
      exact related _ _ _ settled
    · rintro state progress ⟨rfl, old, settled⟩
      dsimp only
      split
      · exact refl_of R _
      · exact related _ _ _ settled
    · exact fun _ => id

/-- A call that settled replaced one lifecycle. -/
theorem returns_settle (ended : Returns (settle demand) ledger new ledger') :
    (∃ old, Settled demand ledger old new) ∧ ledger' = replaceLifecycle ledger new := by
  obtain ⟨_, _, accessed, ended⟩ := ended.bind
  cases accessed.access
  obtain ⟨moved, _, queried, ended⟩ := ended.bind
  obtain ⟨computed, rfl⟩ := queried.query
  obtain ⟨_, _, stored, ended⟩ := ended.bind
  cases stored.effect
  obtain ⟨rfl, rfl⟩ := ended.pure
  exact ⟨settled_of_moveLifecycle computed, rfl⟩

theorem returns_lookup {id : TransactionId}
    {lifecycle : Lifecycle sha256}
    (ended : Returns (LedgerStore.lookup id) ledger lifecycle ledger') :
    findLifecycle ledger id = some lifecycle ∧ ledger' = ledger := by
  obtain ⟨_, _, accessed, ended⟩ := ended.bind
  cases accessed.access
  obtain ⟨computed, rfl⟩ := ended.query
  exact ⟨elim_eq_ok.mp computed, rfl⟩

/-- A preparation returns the transaction as it stands after the call, which is a new one if there
was none. -/
theorem returns_prepare {outcome : PrepareOutcome}
    (ended : Returns (LedgerStore.prepare binding) ledger outcome ledger') :
    ∃ lifecycle, findLifecycle ledger' binding.transactionId = some lifecycle ∧
      (outcome = .created lifecycle.snapshot ∨ outcome = .existing lifecycle.snapshot) ∧
      lifecycle.snapshot.bindingDigest = binding.digest ∧
      (findLifecycle ledger binding.transactionId = none → lifecycle.generation = 0) := by
  obtain ⟨_, _, accessed, rest⟩ := ended.bind
  cases accessed.access
  obtain ⟨looked, _, queried, rest'⟩ := rest.bind
  obtain ⟨computed, rfl⟩ := queried.query
  have found : findLifecycle ledger binding.transactionId = looked := Except.ok.inj computed
  cases looked with
  | some lifecycle =>
    dsimp only at rest'
    split at rest'
    · rename_i same
      obtain ⟨rfl, rfl⟩ := rest'.pure
      exact ⟨lifecycle, found, .inr rfl, same.2.1, fun none => by rw [none] at found; cases found⟩
    · exact rest'.not_fail.elim
  | none =>
    obtain ⟨_, _, stored, last⟩ := rest'.bind
    cases stored.effect
    obtain ⟨rfl, rfl⟩ := last.pure
    refine ⟨Lifecycle.prepared binding, ?_, .inl rfl, rfl, fun _ => rfl⟩
    rw [findLifecycle_append, found]
    exact if_pos rfl

/-! ### Progress -/

/-- What a binding was granted for: the digests of the request and of its precondition. -/
def bindingGrounds (binding : AuthorityBinding sha256) : ContentDigest × ContentDigest :=
  (binding.requestDigest, binding.preconditionDigest)

/-- A transition keeps the binding or reprepares with another one. -/
theorem binding_of_apply {history history' : History sha256} {transition : Transition sha256}
    (applied : history.apply transition = some history') :
    history'.binding = history.binding ∨
      ∃ observation, transition = .reprepare observation history'.binding := by
  cases transition with
  | reprepare observation next =>
    obtain ⟨-, same⟩ := Option.ite_none_right_eq_some.mp applied
    cases same
    exact .inr ⟨observation, rfl⟩
  | handOff _ | verify _ _ | block _ | leaveIndeterminate _ | commit _ | abort _ =>
    obtain ⟨-, same⟩ := Option.ite_none_right_eq_some.mp applied
    cases same
    exact .inl rfl

/-- A later stage of a transaction: in a later generation, or in the same generation, which does
not become prepared again. -/
def Lifecycle.Before (lifecycle lifecycle' : Lifecycle sha256) : Prop :=
  lifecycle.generation < lifecycle'.generation ∨
    lifecycle.generation = lifecycle'.generation ∧
      (lifecycle'.state = .prepared → lifecycle.state = .prepared)

/-- The ledger moves on: transactions stay and reach later stages, and bindings are granted for
what they were granted for before or for something new that is allowed. -/
structure Progress (allowed : ContentDigest × ContentDigest → Prop)
    (ledger ledger' : List (Lifecycle sha256)) : Prop where
  forward : ∀ id lifecycle, findLifecycle ledger id = some lifecycle →
    ∃ lifecycle', findLifecycle ledger' id = some lifecycle' ∧ lifecycle.Before lifecycle'
  grounds : ∀ lifecycle' ∈ ledger', allowed (bindingGrounds lifecycle'.binding) ∨
    ∃ lifecycle ∈ ledger, bindingGrounds lifecycle.binding =
      bindingGrounds lifecycle'.binding

variable {allowed : ContentDigest × ContentDigest → Prop}

instance : IsPreorder (List (Lifecycle sha256)) (Progress allowed) where
  refl ledger :=
    ⟨fun _ lifecycle found => ⟨lifecycle, found, .inr ⟨rfl, id⟩⟩,
      fun lifecycle member => .inr ⟨lifecycle, member, rfl⟩⟩
  trans ledger ledger' ledger'' first second := by
    refine ⟨fun id lifecycle found => ?_, fun lifecycle'' member => ?_⟩
    · obtain ⟨lifecycle', found', before⟩ := first.forward id lifecycle found
      obtain ⟨lifecycle'', found'', before'⟩ := second.forward id lifecycle' found'
      refine ⟨lifecycle'', found'', ?_⟩
      rcases before with less | ⟨same, back⟩
      · rcases before' with less' | ⟨same', -⟩
        · exact .inl (less.trans less')
        · exact .inl (same' ▸ less)
      · rcases before' with less' | ⟨same', back'⟩
        · exact .inl (same ▸ less')
        · exact .inr ⟨same.trans same', fun prepared => back (back' prepared)⟩
    · rcases second.grounds lifecycle'' member with new | ⟨lifecycle', member', same'⟩
      · exact .inl new
      · rw [← same']
        exact first.grounds lifecycle' member'

/-- A transaction that settles a demand makes progress, if what it is reprepared for is allowed. -/
theorem Settled.progress {old : Lifecycle sha256} (settled : Settled demand ledger old new)
    (renewed : ∀ observation next, demand.transition = .reprepare observation next →
      allowed (bindingGrounds next)) : Progress allowed ledger (replaceLifecycle ledger new) := by
  refine ⟨fun id lifecycle found => ?_, fun lifecycle' member => ?_⟩
  · rw [settled.findLifecycle_eq]
    by_cases own : id = demand.transactionId
    · -- the transaction itself: it left the prepared state or started the next generation
      rw [own, settled.found] at found
      cases found
      rw [if_pos own]
      refine ⟨new, rfl, ?_⟩
      rcases History.apply_progress settled.applied with ⟨same, unprepared⟩ | next
      · exact .inr ⟨same.symm, fun prepared => absurd prepared unprepared⟩
      · exact .inl (next ▸ Nat.lt_succ_self _)
    · rw [if_neg own]
      exact ⟨lifecycle, found, .inr ⟨rfl, fun prepared => prepared⟩⟩
  · rcases mem_replaceLifecycle member with rfl | ⟨listed, -⟩
    · rcases binding_of_apply settled.applied with kept | ⟨observation, next⟩
      · exact .inr ⟨old, List.mem_of_find?_eq_some settled.found, by rw [kept]⟩
      · exact .inl (renewed observation _ next)
    · exact .inr ⟨lifecycle', listed, rfl⟩

/-- Settling makes progress, with new authority only if allowed. -/
theorem progress_settle
    (renewed : ∀ observation next, demand.transition = .reprepare observation next →
      allowed (bindingGrounds next)) : Guarantees (Progress allowed) (settle demand) :=
  guarantees_settle fun _ _ _ settled => settled.progress renewed

theorem progress_append (granted : allowed (bindingGrounds binding)) :
    Progress allowed ledger (ledger ++ [Lifecycle.prepared binding]) := by
  refine ⟨fun id lifecycle found => ⟨lifecycle, ?_, .inr ⟨rfl, fun prepared => prepared⟩⟩,
    fun lifecycle' member => ?_⟩
  · rw [findLifecycle_append, found, Option.some_or]
  · rcases List.mem_append.mp member with old | new
    · exact .inr ⟨lifecycle', old, rfl⟩
    · rw [List.mem_singleton.mp new]
      exact .inl granted

namespace LedgerStore

theorem progress_prepare (granted : allowed (bindingGrounds binding)) :
    Guarantees (Progress allowed) (prepare binding) := by
  refine .bind .access fun _ => .bind .query fun found => ?_
  cases found with
  | some lifecycle =>
    dsimp only
    split
    · exact .pure
    · exact .fail
  | none =>
    refine (Guarantees.effect (fun _ => progress_append granted) fun ledger progress => ?_).bind
      fun _ => .pure
    split
    · exact refl_of (Progress allowed) ledger
    · exact progress_append granted

theorem progress_handoff (request : HandoffRequest) (now : Option Nat) :
    Guarantees (Progress allowed) (handoff request now : LedgerProgram sha256 _) :=
  Guarantees.lift.bind fun _ => (progress_settle (by rintro _ _ ⟨⟩)).bind fun _ => .pure

theorem progress_recover {request : RecoveryRequest sha256} {now : Option Nat}
    (renewed : ∀ observation next, request.resolution = .intendedEffectAbsent observation next →
      allowed (bindingGrounds next)) :
    Guarantees (Progress allowed) (recover request now) := by
  refine .bind .lift fun _ => (progress_settle fun observation next same => ?_).bind
    fun _ => .pure
  change RecoveryResolution.transition request.resolution = _ at same
  cases resolution : request.resolution with
  | intendedEffectAbsent _ _ =>
    rw [resolution] at same
    cases same
    exact renewed _ _ resolution
  | intendedStateVerified _ _ _ _ | conflictingState _ | ambiguous _ =>
    rw [resolution] at same
    cases same

theorem progress_commit (request : CommitRequest) :
    Guarantees (Progress allowed) (commit request : LedgerProgram sha256 _) :=
  (progress_settle (by rintro _ _ ⟨⟩)).bind fun _ => .pure

theorem progress_abortPrepared (request : AbortRequest) :
    Guarantees (Progress allowed) (abortPrepared request : LedgerProgram sha256 _) :=
  (progress_settle (by rintro _ _ ⟨⟩)).bind fun _ => .pure

/-! ### Reading -/

variable (id : TransactionId)

theorem reads_lookup : Guarantees (· = ·) (lookup id : LedgerProgram sha256 _) :=
  Guarantees.access.bind fun _ => .query

theorem reads_snapshot : Guarantees (· = ·) (snapshot id : LedgerProgram sha256 _) :=
  (reads_lookup id).bind fun _ => .pure

theorem reads_recoveryAnchor : Guarantees (· = ·) (recoveryAnchor id : LedgerProgram sha256 _) :=
  (reads_lookup id).bind fun _ => .pure

theorem reads_verifiedCommitMaterial :
    Guarantees (· = ·) (verifiedCommitMaterial id : LedgerProgram sha256 _) := by
  refine (reads_lookup id).bind fun lifecycle => ?_
  split
  · exact .pure
  · exact .fail

theorem reads_listState (state : TransactionState) :
    Guarantees (· = ·) (listState state : LedgerProgram sha256 _) :=
  Guarantees.access.bind fun _ => .query

end LedgerStore

end Calls

end Linura.Persistence
