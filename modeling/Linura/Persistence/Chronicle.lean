import Linura.Persistence.Refinement

/-!
# The order in which requests are carried out

A run leaves behind the list of the requests that it carried out: those that changed the
tables.  What has become of a transaction tells which requests are in that list and in which
order.  No generation is handed off twice, a later generation is handed off only after recovery
found no effect of the one before, and what is committed was handed off and verified first,
with the material that is committed.
-/

namespace Linura.Persistence

open Linura.Lib Linura.Core Linura.Transaction

variable {config : StoreConfig}

/-! ### Requests and what they ask for -/

/-- A request asks a generation of a transaction for a transition. -/
def Request.Asks (request : Request config) (id : TransactionId) (generation : Nat)
    (transition : Transition config.sha256) : Prop :=
  ∃ demand, request.demand = some demand ∧ demand.transactionId = id ∧
    demand.expectedGeneration = generation ∧ demand.transition = transition

section Asks

variable {request : Request config} {id : TransactionId} {generation : Nat}

theorem Request.Asks.of_demand {demand : Demand config.sha256}
    (asked : request.demand = some demand)
    {lifecycle : Lifecycle config.sha256} (meets : demand.Meets lifecycle.toHistory) :
    request.Asks lifecycle.transactionId lifecycle.generation demand.transition :=
  ⟨demand, asked, meets.transactionId.symm, meets.generation.symm, rfl⟩

/-- A request asks for at most one transition of one generation. -/
theorem Request.Asks.unique {id' : TransactionId} {generation' : Nat}
    {transition transition' : Transition config.sha256}
    (asks : request.Asks id generation transition)
    (asks' : request.Asks id' generation' transition') :
    id = id' ∧ generation = generation' ∧ transition = transition' := by
  obtain ⟨demand, asked, rfl, rfl, rfl⟩ := asks
  obtain ⟨demand', asked', rfl, rfl, rfl⟩ := asks'
  rw [asked] at asked'
  cases asked'
  exact ⟨rfl, rfl, rfl⟩

/-- The requests that ask for something, each with what it asks for. -/
theorem Request.Asks.cases {transition : Transition config.sha256}
    (asks : request.Asks id generation transition) :
    (∃ handoff now, request = .handoff handoff now ∧ handoff.transactionId = id ∧
      handoff.expectedGeneration = generation ∧
      transition = .handOff handoff.authorityUseDigest) ∨
    (∃ recovery now, request = .recover recovery now ∧ recovery.transactionId = id ∧
      recovery.expectedGeneration = generation ∧
      transition = RecoveryResolution.transition recovery.resolution) ∨
    (∃ commit, request = .commit commit ∧ commit.transactionId = id ∧
      commit.expectedGeneration = generation ∧ transition = .commit
        ⟨commit.desiredStateDigest, commit.graphDigest, commit.provenanceDigest⟩) ∨
    ∃ abort, request = .abortPrepared abort ∧ abort.transactionId = id ∧
      abort.expectedGeneration = generation ∧ transition = .abort abort.reasonDigest := by
  obtain ⟨demand, asked, rfl, rfl, rfl⟩ := asks
  cases request with
  | prepare binding => cases asked
  | handoff handoff now =>
    cases asked
    exact .inl ⟨handoff, now, rfl, rfl, rfl, rfl⟩
  | recover recovery now =>
    cases asked
    exact .inr (.inl ⟨recovery, now, rfl, rfl, rfl, rfl⟩)
  | commit commit =>
    cases asked
    exact .inr (.inr (.inl ⟨commit, rfl, rfl, rfl, rfl⟩))
  | abortPrepared abort =>
    cases asked
    exact .inr (.inr (.inr ⟨abort, rfl, rfl, rfl, rfl⟩))
  | integrityCheck => cases asked

/-- Only a handoff asks to hand off. -/
theorem Request.Asks.handoff {use : ContentDigest}
    (asks : request.Asks id generation (.handOff use)) :
    ∃ handoff now, request = .handoff handoff now ∧ handoff.transactionId = id ∧
      handoff.expectedGeneration = generation := by
  rcases asks.cases with ⟨handoff, now, eq, own, same, -⟩ | ⟨recovery, _, -, -, -, transition⟩ |
    ⟨_, -, -, -, transition⟩ | ⟨_, -, -, -, transition⟩
  · exact ⟨handoff, now, eq, own, same⟩
  · cases resolution : recovery.resolution <;> rw [resolution] at transition <;> cases transition
  · cases transition
  · cases transition

theorem transition_injective :
    Function.Injective (RecoveryResolution.transition : _ → Transition config.sha256) := by
  intro resolution resolution' same
  cases resolution <;> cases resolution' <;> cases same <;> rfl

/-- Only a recovery asks for what a resolution means. -/
theorem Request.Asks.resolves {resolution : RecoveryResolution config.sha256}
    (asks : request.Asks id generation (RecoveryResolution.transition resolution)) :
    ∃ recovery now, request = .recover recovery now ∧ recovery.transactionId = id ∧
      recovery.expectedGeneration = generation ∧ recovery.resolution = resolution := by
  rcases asks.cases with ⟨_, _, -, -, -, transition⟩ | ⟨recovery, now, eq, own, same, transition⟩ |
    ⟨_, -, -, -, transition⟩ | ⟨_, -, -, -, transition⟩
  · cases resolution <;> cases transition
  · exact ⟨recovery, now, eq, own, same, transition_injective transition.symm⟩
  · cases resolution <;> cases transition
  · cases resolution <;> cases transition

/-- Only a recovery asks to verify, and its resolution has the material. -/
theorem Request.Asks.verify {observation : ContentDigest} {material : CommitMaterial}
    (asks : request.Asks id generation (.verify observation material)) :
    ∃ recovery now, request = .recover recovery now ∧ recovery.transactionId = id ∧
      recovery.expectedGeneration = generation ∧
      recovery.resolution = .intendedStateVerified observation material.desired material.graph
        material.provenance :=
  Request.Asks.resolves asks

/-- Only a recovery asks to prepare the next generation. -/
theorem Request.Asks.reprepare {observation : ContentDigest} {next : AuthorityBinding config.sha256}
    (asks : request.Asks id generation (.reprepare observation next)) :
    ∃ recovery now, request = .recover recovery now ∧ recovery.transactionId = id ∧
      recovery.expectedGeneration = generation ∧
      recovery.resolution = .intendedEffectAbsent observation next :=
  Request.Asks.resolves asks

/-- Only a commit asks to commit, and it carries the material. -/
theorem Request.Asks.commit {material : CommitMaterial}
    (asks : request.Asks id generation (.commit material)) :
    ∃ commit, request = .commit commit ∧ commit.transactionId = id ∧
      commit.expectedGeneration = generation ∧
      material = ⟨commit.desiredStateDigest, commit.graphDigest, commit.provenanceDigest⟩ := by
  rcases asks.cases with ⟨_, _, -, -, -, transition⟩ | ⟨recovery, _, -, -, -, transition⟩ |
    ⟨commit, eq, own, same, transition⟩ | ⟨_, -, -, -, transition⟩
  · cases transition
  · cases resolution : recovery.resolution <;> rw [resolution] at transition <;> cases transition
  · cases transition
    exact ⟨commit, eq, own, same, rfl⟩
  · cases transition

end Asks

/-! ### What a lifecycle tells about the requests -/

/-- What was carried out for a lifecycle to be what it is. -/
structure Evidence (requests : List (Request config)) (lifecycle : Lifecycle config.sha256) :
    Prop where
  /-- Every earlier generation was found to have had no effect. -/
  retried : ∀ generation < lifecycle.generation, ∃ request ∈ requests, ∃ observation next,
    request.Asks lifecycle.transactionId generation (.reprepare observation next)
  /-- A generation that is not as it was prepared, and was not aborted, was handed off. -/
  handedOff : lifecycle.state ≠ .prepared → lifecycle.state ≠ .aborted →
    ∃ request ∈ requests, ∃ use,
      request.Asks lifecycle.transactionId lifecycle.generation (.handOff use)
  /-- Commit material was recorded by a verification after the handoff. -/
  verified : ∀ material, lifecycle.material = some material → ∃ handoff verification,
    [handoff, verification].Sublist requests ∧
      (∃ use, handoff.Asks lifecycle.transactionId lifecycle.generation (.handOff use)) ∧
      ∃ observation, verification.Asks lifecycle.transactionId lifecycle.generation
        (.verify observation material)
  /-- What is committed was committed, after that, with this material. -/
  committed : lifecycle.state = .committed → ∃ material commit,
    lifecycle.material = some material ∧ commit ∈ requests ∧
      commit.Asks lifecycle.transactionId lifecycle.generation (.commit material)

namespace Evidence

variable {requests requests' : List (Request config)} {lifecycle new : Lifecycle config.sha256}

/-- Evidence stays with more requests. -/
theorem mono (evidence : Evidence requests lifecycle) (more : requests.Sublist requests') :
    Evidence requests' lifecycle where
  retried := by
    intro generation lt
    obtain ⟨request, member, rest⟩ := evidence.retried generation lt
    exact ⟨request, more.subset member, rest⟩
  handedOff := by
    intro unprepared unaborted
    obtain ⟨request, member, rest⟩ := evidence.handedOff unprepared unaborted
    exact ⟨request, more.subset member, rest⟩
  verified := by
    intro material recorded
    obtain ⟨handoff, verification, order, rest⟩ := evidence.verified material recorded
    exact ⟨handoff, verification, order.trans more, rest⟩
  committed := by
    intro committed
    obtain ⟨material, commit, recorded, member, rest⟩ := evidence.committed committed
    exact ⟨material, commit, recorded, more.subset member, rest⟩

/-- A prepared transaction needs no evidence. -/
theorem prepared (binding : AuthorityBinding config.sha256) :
    Evidence requests (Lifecycle.prepared binding) where
  retried := fun _ lt => absurd lt (Nat.not_lt_zero _)
  handedOff := fun unprepared => absurd rfl unprepared
  verified := by
    intro material recorded
    cases recorded
  committed := by
    intro committed
    cases committed

/-- An event within a generation leaves no more to explain than the generation's own progress. -/
private theorem of_advance {request : Request config} {kind : EventKind} {payload : ContentDigest}
    {material : Option CommitMaterial} (evidence : Evidence requests lifecycle)
    (same : new.toHistory = lifecycle.advance kind payload material)
    (handedOff : kind.state ≠ .aborted → ∃ earlier ∈ requests ++ [request], ∃ use,
      earlier.Asks lifecycle.transactionId lifecycle.generation (.handOff use))
    (verified : ∀ recorded, material = some recorded → ∃ handoff verification,
      [handoff, verification].Sublist (requests ++ [request]) ∧
        (∃ use, handoff.Asks lifecycle.transactionId lifecycle.generation (.handOff use)) ∧
        ∃ observation, verification.Asks lifecycle.transactionId lifecycle.generation
          (.verify observation recorded))
    (committed : kind.state = .committed → ∃ recorded, material = some recorded ∧
      request.Asks lifecycle.transactionId lifecycle.generation (.commit recorded)) :
    Evidence (requests ++ [request]) new := by
  obtain ⟨history, wellFormed⟩ := new
  subst same
  refine ⟨(evidence.mono (List.sublist_append_left _ _)).retried, fun _ => handedOff, verified, ?_⟩
  intro isCommitted
  obtain ⟨recorded, same, asks⟩ := committed isCommitted
  exact ⟨recorded, request, same, List.mem_append_right _ (List.mem_singleton_self _), asks⟩

/-- Carrying out a request explains what it does to the lifecycle. -/
theorem apply {request : Request config} {transition : Transition config.sha256}
    (evidence : Evidence requests lifecycle)
    (asks : request.Asks lifecycle.transactionId lifecycle.generation transition)
    (applied : lifecycle.apply transition = some new.toHistory) :
    Evidence (requests ++ [request]) new := by
  have own : request ∈ requests ++ [request] :=
    List.mem_append_right _ (List.mem_singleton_self _)
  have grown := evidence.mono (List.sublist_append_left requests [request])
  have none : ∀ recorded, (Option.none : Option CommitMaterial) = some recorded → False := by
    intro recorded same
    cases same
  cases transition with
  | handOff use =>
    obtain ⟨prepared, same⟩ := Option.ite_none_right_eq_some.mp applied
    refine evidence.of_advance (Option.some.inj same).symm (fun _ => ⟨request, own, use, asks⟩)
      (fun recorded same => (none recorded same).elim) ?_
    intro committed
    cases committed
  | verify observation material =>
    obtain ⟨indeterminate, same⟩ := Option.ite_none_right_eq_some.mp applied
    have handedOff := evidence.handedOff (by simp [indeterminate]) (by simp [indeterminate])
    refine evidence.of_advance (Option.some.inj same).symm ?_ ?_ ?_
    · intro _
      exact grown.handedOff (by simp [indeterminate]) (by simp [indeterminate])
    · rintro recorded ⟨⟩
      obtain ⟨handoff, member, asked⟩ := handedOff
      exact ⟨handoff, request, (List.singleton_sublist.mpr member).append (List.Sublist.refl _),
        asked, observation, asks⟩
    · intro committed
      cases committed
  | block | leaveIndeterminate =>
    obtain ⟨indeterminate, same⟩ := Option.ite_none_right_eq_some.mp applied
    refine evidence.of_advance (Option.some.inj same).symm ?_
      (fun recorded same => (none recorded same).elim) ?_
    · intro _
      exact grown.handedOff (by simp [indeterminate]) (by simp [indeterminate])
    · intro committed
      cases committed
  | commit material =>
    obtain ⟨⟨verified, recorded⟩, same⟩ := Option.ite_none_right_eq_some.mp applied
    refine evidence.of_advance (Option.some.inj same).symm ?_ ?_ fun _ => ⟨material, rfl, asks⟩
    · intro _
      exact grown.handedOff (by simp [verified]) (by simp [verified])
    · rintro recorded' ⟨⟩
      exact grown.verified material recorded
  | abort reason =>
    obtain ⟨prepared, same⟩ := Option.ite_none_right_eq_some.mp applied
    refine evidence.of_advance (Option.some.inj same).symm (fun unaborted => absurd rfl unaborted)
      (fun recorded same => (none recorded same).elim) ?_
    intro committed
    cases committed
  | reprepare observation next =>
    obtain ⟨⟨indeterminate, -, -⟩, same⟩ := Option.ite_none_right_eq_some.mp applied
    have immaterial := new.material_eq_none
    obtain ⟨history, wellFormed⟩ := new
    obtain rfl : lifecycle.renew observation next = history := Option.some.inj same
    refine ⟨?_, fun unprepared => absurd rfl unprepared, ?_, ?_⟩
    · intro generation lt
      change generation < (lifecycle.renew observation next).generation at lt
      rw [History.generation_renew, Nat.lt_succ_iff_lt_or_eq] at lt
      rcases lt with earlier | rfl
      · exact grown.retried generation earlier
      · exact ⟨request, own, observation, next, asks⟩
    · intro material recorded
      rw [immaterial (fun h => by cases h) (fun h => by cases h)] at recorded
      cases recorded
    · intro committed
      cases committed

end Evidence

/-! ### Ledgers and the requests that were carried out -/

/-- The handoff of a generation is behind a lifecycle. -/
def Lifecycle.IsPast {sha256 : Sha256} (lifecycle : Lifecycle sha256) (generation : Nat) : Prop :=
  generation < lifecycle.generation ∨
    (generation = lifecycle.generation ∧ lifecycle.state ≠ .prepared)

theorem Lifecycle.IsPast.apply {sha256 : Sha256} {lifecycle new : Lifecycle sha256}
    {transition : Transition sha256} {generation : Nat} (past : lifecycle.IsPast generation)
    (applied : lifecycle.apply transition = some new.toHistory) : new.IsPast generation := by
  rcases past with lt | ⟨rfl, -⟩
  · left
    rcases History.apply_progress applied with ⟨same, -⟩ | next
    · rw [same]
      exact lt
    · rw [next]
      exact Nat.lt_succ_of_lt lt
  · rcases History.apply_progress applied with ⟨same, unprepared⟩ | next
    · exact .inr ⟨same.symm, unprepared⟩
    · left
      rw [next]
      exact Nat.lt_succ_self _

/-- What holds between a ledger and the requests that were carried out to get there. -/
structure Chronicle (requests : List (Request config)) (ledger : List (Lifecycle config.sha256)) :
    Prop where
  evidence : ∀ lifecycle ∈ ledger, Evidence requests lifecycle
  past : ∀ request ∈ requests, ∀ id generation use,
    request.Asks id generation (.handOff use) →
    ∃ lifecycle ∈ ledger, lifecycle.transactionId = id ∧ lifecycle.IsPast generation
  /-- No generation was handed off twice. -/
  once : requests.Pairwise fun request request' => ∀ id generation use use',
    request.Asks id generation (.handOff use) → ¬ request'.Asks id generation (.handOff use')
  /-- A later generation was handed off after the one before was found to have had no effect. -/
  later : ∀ handoff ∈ requests, ∀ id generation use,
    handoff.Asks id (generation + 1) (.handOff use) →
    ∃ recovery observation next, [recovery, handoff].Sublist requests ∧
      recovery.Asks id generation (.reprepare observation next)
  /-- What was committed had been handed off and then verified, with the same material. -/
  commits : ∀ commit ∈ requests, ∀ id generation material,
    commit.Asks id generation (.commit material) →
    ∃ handoff verification, [handoff, verification, commit].Sublist requests ∧
      (∃ use, handoff.Asks id generation (.handOff use)) ∧
      ∃ observation, verification.Asks id generation (.verify observation material)

namespace Chronicle

variable {requests : List (Request config)} {ledger ledger' : List (Lifecycle config.sha256)}

theorem nil : Chronicle ([] : List (Request config)) [] where
  evidence := by simp
  past := by simp
  once := List.Pairwise.nil
  later := by simp
  commits := by simp

/-- A request that asks for nothing adds nothing to what is known of the others. -/
theorem concat_prepare (chronicle : Chronicle requests ledger)
    (binding : AuthorityBinding config.sha256) :
    Chronicle (requests ++ [.prepare binding]) (ledger ++ [Lifecycle.prepared binding]) := by
  have more : requests.Sublist (requests ++ [.prepare binding]) := List.sublist_append_left _ _
  have silent : ∀ {id generation transition},
      ¬ (Request.prepare binding : Request config).Asks id generation transition := by
    rintro id generation transition ⟨demand, asked, -⟩
    cases asked
  have split : ∀ {request : Request config} {id generation transition},
      request ∈ requests ++ [.prepare binding] → request.Asks id generation transition →
      request ∈ requests := by
    intro request id generation transition member asks
    rcases List.mem_append.mp member with old | new
    · exact old
    · rw [List.mem_singleton.mp new] at asks
      exact (silent asks).elim
  refine ⟨?_, ?_, ?_, ?_, ?_⟩
  · intro lifecycle member
    rcases List.mem_append.mp member with old | new
    · exact (chronicle.evidence lifecycle old).mono more
    · rw [List.mem_singleton.mp new]
      exact Evidence.prepared binding
  · intro request member id generation use asks
    obtain ⟨lifecycle, old, rest⟩ :=
      chronicle.past request (split member asks) id generation use asks
    exact ⟨lifecycle, List.mem_append_left _ old, rest⟩
  · rw [List.pairwise_append]
    refine ⟨chronicle.once, List.pairwise_singleton _ _, ?_⟩
    intro request _ request' member id generation use use' _ asks
    rw [List.mem_singleton.mp member] at asks
    exact silent asks
  · intro handoff member id generation use asks
    obtain ⟨recovery, observation, next, order, rest⟩ :=
      chronicle.later handoff (split member asks) id generation use asks
    exact ⟨recovery, observation, next, order.trans more, rest⟩
  · intro commit member id generation material asks
    obtain ⟨handoff, verification, order, rest⟩ :=
      chronicle.commits commit (split member asks) id generation material asks
    exact ⟨handoff, verification, order.trans more, rest⟩

/-- Carrying out a request that asks for a transition. -/
theorem concat_move (chronicle : Chronicle requests ledger) (nodup : (ledgerIds ledger).Nodup)
    {request : Request config} {demand : Demand config.sha256}
    {lifecycle new : Lifecycle config.sha256} (asked : request.demand = some demand)
    (member : lifecycle ∈ ledger) (meets : demand.Meets lifecycle.toHistory)
    (applied : lifecycle.apply demand.transition = some new.toHistory) :
    Chronicle (requests ++ [request]) (replaceLifecycle ledger new) := by
  have more : requests.Sublist (requests ++ [request]) := List.sublist_append_left _ _
  have asks := Request.Asks.of_demand asked meets
  have sameId : new.transactionId = lifecycle.transactionId := (History.apply_facts applied).2.2
  have evidence := chronicle.evidence lifecycle member
  have unique : ∀ other ∈ ledger, other.transactionId = lifecycle.transactionId →
      other = lifecycle := by
    intro other otherMember same
    exact List.inj_on_of_nodup_map nodup otherMember member (congrArg TransactionId.value same)
  refine ⟨?_, ?_, ?_, ?_, ?_⟩
  · intro other otherMember
    rcases mem_replaceLifecycle otherMember with rfl | ⟨old, -⟩
    · exact evidence.apply asks applied
    · exact (chronicle.evidence other old).mono more
  · intro earlier earlierMember id generation use handsOff
    rcases List.mem_append.mp earlierMember with old | last
    · obtain ⟨other, otherMember, rfl, past⟩ :=
        chronicle.past earlier old id generation use handsOff
      by_cases same : other.transactionId = lifecycle.transactionId
      · obtain rfl := unique other otherMember same
        exact ⟨new, new_mem_replaceLifecycle member sameId, sameId, past.apply applied⟩
      · refine ⟨other, mem_replaceLifecycle_of_ne otherMember ?_, rfl, past⟩
        rw [sameId]
        exact fun clash => same (TransactionId.ext clash)
    · rw [List.mem_singleton.mp last] at handsOff
      obtain ⟨rfl, rfl, transition⟩ := handsOff.unique asks
      refine ⟨new, new_mem_replaceLifecycle member sameId, sameId, ?_⟩
      rcases History.apply_progress applied with ⟨same, unprepared⟩ | next
      · exact .inr ⟨same.symm, unprepared⟩
      · left
        rw [next]
        exact Nat.lt_succ_self _
  · rw [List.pairwise_append]
    refine ⟨chronicle.once, List.pairwise_singleton _ _, ?_⟩
    intro earlier earlierMember last lastMember id generation use use' handsOff again
    rw [List.mem_singleton.mp lastMember] at again
    obtain ⟨rfl, rfl, transition⟩ := again.unique asks
    rw [← transition] at applied
    obtain ⟨prepared, -⟩ := Option.ite_none_right_eq_some.mp applied
    obtain ⟨other, otherMember, same, past⟩ :=
      chronicle.past earlier earlierMember _ _ use handsOff
    obtain rfl := unique other otherMember same
    rcases past with lt | ⟨-, unprepared⟩
    · exact lt_irrefl _ lt
    · exact unprepared prepared
  · intro handoff handoffMember id generation use handsOff
    rcases List.mem_append.mp handoffMember with old | last
    · obtain ⟨recovery, observation, next, order, rest⟩ :=
        chronicle.later handoff old id generation use handsOff
      exact ⟨recovery, observation, next, order.trans more, rest⟩
    · rw [List.mem_singleton.mp last] at handsOff ⊢
      obtain ⟨rfl, current, -⟩ := handsOff.unique asks
      obtain ⟨recovery, old, observation, next, asksNext⟩ :=
        evidence.retried generation (by rw [← current]; exact Nat.lt_succ_self _)
      exact ⟨recovery, observation, next,
        (List.singleton_sublist.mpr old).append (List.Sublist.refl _), asksNext⟩
  · intro commit commitMember id generation material commits
    rcases List.mem_append.mp commitMember with old | last
    · obtain ⟨handoff, verification, order, rest⟩ :=
        chronicle.commits commit old id generation material commits
      exact ⟨handoff, verification, order.trans more, rest⟩
    · rw [List.mem_singleton.mp last] at commits ⊢
      obtain ⟨rfl, rfl, transition⟩ := commits.unique asks
      rw [← transition] at applied
      obtain ⟨⟨-, recorded⟩, -⟩ := Option.ite_none_right_eq_some.mp applied
      obtain ⟨handoff, verification, order, rest⟩ := evidence.verified material recorded
      exact ⟨handoff, verification, order.append (List.Sublist.refl _), rest⟩

/-- A step of the ledger keeps the chronicle. -/
theorem step (chronicle : Chronicle requests ledger) (nodup : (ledgerIds ledger).Nodup)
    {request : Request config} (step : LedgerStep config ledger request ledger') :
    Chronicle (requests ++ [request]) ledger' := by
  cases step with
  | prepare absent => exact chronicle.concat_prepare _
  | move asked member meets applied => exact chronicle.concat_move nodup asked member meets applied

end Chronicle

/-! ### Runs -/

section Runs

variable {α β : Type}

/-- What is seen of the events of a run, in order. -/
def along (observe : System → Event config → List α) : System → List (Event config) → List α
  | _, [] => []
  | system, event :: rest => observe system event ++ along observe (system.step config event) rest

theorem along_concat (observe : System → Event config → List α) (system : System)
    (events : List (Event config)) (event : Event config) :
    along observe system (events ++ [event]) = along observe system events ++
      observe (events.foldl (System.step config) system) event := by
  induction events generalizing system with
  | nil => exact List.append_nil _
  | cons first rest ih =>
    rw [List.cons_append, along, along, ih, List.append_assoc]
    rfl

/-- The request of an event, if it changes the tables. -/
def System.applied (system : System) (event : Event config) : List (Request config) :=
  match event with
  | .request request _ =>
    if (system.step config event).store.durable = system.store.durable then [] else [request]
  | _ => []

/-- The request of an event, if the store returns from it. -/
def System.succeeded (system : System) (event : Event config) : List (Request config) :=
  match event with
  | .request request faults =>
    match system.isOpen, (respond config system request faults).1 with
    | true, .ok _ => [request]
    | _, _ => []
  | _ => []

variable (events : List (Event config))

/-- The requests that are carried out in a run. -/
def applied : List (Request config) :=
  along System.applied .fresh events

def succeeded : List (Request config) :=
  along System.succeeded .fresh events

theorem applied_concat (event : Event config) :
    applied (events ++ [event]) = applied events ++ (System.run config events).applied event :=
  along_concat _ _ _ _

theorem succeeded_concat (event : Event config) :
    succeeded (events ++ [event]) =
      succeeded events ++ (System.run config events).succeeded event :=
  along_concat _ _ _ _

variable {ledger : List (Lifecycle config.sha256)}

/-- The invariant rule: what holds between the requests carried out and the ledger at the start, and
is kept by every step of the ledger, holds after every run. -/
theorem exists_ledger_of_along {I : List (Request config) → List (Lifecycle config.sha256) → Prop}
    {system : System} (consistent : Consistent config system.store.durable ledger)
    (start : I [] ledger)
    (step : ∀ {requests ledger request ledger'}, (ledgerIds ledger).Nodup → I requests ledger →
      LedgerStep config ledger request ledger' → I (requests ++ [request]) ledger')
    (events : List (Event config)) :
    ∃ ledger', Consistent config (events.foldl (System.step config) system).store.durable ledger' ∧
      I (along System.applied system events) ledger' := by
  induction events using List.reverseRecOn with
  | nil => exact ⟨ledger, consistent, start⟩
  | append_singleton events event ih =>
    obtain ⟨between, consistent, holds⟩ := ih
    rw [List.foldl_concat, along_concat]
    generalize events.foldl (System.step config) system = current at consistent
    by_cases same : (current.step config event).store.durable = current.store.durable
    · have nothing : current.applied event = [] := by
        cases event <;> simp [System.applied, same]
      rw [same, nothing, List.append_nil]
      exact ⟨between, consistent, holds⟩
    · rcases step_refines consistent event with unchanged |
        ⟨request, faults, rfl, -, ledger', moved, carried⟩
      · exact absurd unchanged same
      · refine ⟨ledger', carried, ?_⟩
        simp only [System.applied, if_neg same]
        exact step consistent.represents.nodup holds moved

/-- After every run, the tables represent a ledger that the requests carried out explain. -/
theorem exists_chronicle_run :
    ∃ ledger, Consistent config (System.run config events).store.durable ledger ∧
      Chronicle (applied events) ledger :=
  @exists_ledger_of_along config [] Chronicle .fresh ⟨represents_empty config, withinLimits_empty _⟩
    Chronicle.nil (fun nodup chronicle step => chronicle.step nodup step) events

/-- Carrying out a request changes the tables. -/
theorem LedgerStep.tables_ne {tables tables' : Tables} {ledger' : List (Lifecycle config.sha256)}
    {request : Request config} (step : LedgerStep config ledger request ledger')
    (represents : Represents config tables ledger)
    (represents' : Represents config tables' ledger') : tables' ≠ tables := by
  rintro rfl
  cases step with
  | prepare absent =>
    rw [← map_transactionId_eq represents, map_transactionId_eq represents'] at absent
    exact absent (List.mem_map_of_mem (List.mem_append_right _ (List.mem_singleton_self _)))
  | @move _ _ lifecycle new asked member meets applied =>
    obtain ⟨-, version, sameId⟩ := History.apply_facts applied
    have loaded := loadCurrent_eq represents' (new_mem_replaceLifecycle member sameId)
    rw [sameId, loadCurrent_eq represents member] at loaded
    have same : lifecycle.stateVersion = new.stateVersion := by
      injection loaded with loaded
      injection loaded with _ loaded
      injection loaded with _ loaded
      exact congrArg TransactionSnapshot.stateVersion loaded
    rw [version] at same
    exact Nat.succ_ne_self _ same.symm

/-- A request that asks for a transition and succeeds is carried out. -/
theorem applied_of_ok {system : System} (consistent : Consistent config system.store.durable ledger)
    (opened : system.isOpen = true) {request : Request config} {faults : List Fault}
    {response : Response} (ok : (respond config system request faults).1 = .ok response)
    (asks : request.demand ≠ none) : system.applied (.request request faults) = [request] := by
  rcases respond_refines consistent request faults with ⟨ledger', step, carried⟩ | ⟨-, none⟩
  · rw [← step_request opened] at carried
    exact if_neg (step.tables_ne consistent.represents carried.represents)
  · exact absurd (none response ok) asks

/-- A request that succeeded was served by an open store. -/
theorem succeeded_cases (system : System) (request : Request config) (faults : List Fault) :
    system.succeeded (.request request faults) = [] ∨
      system.isOpen = true ∧ (∃ response, (respond config system request faults).1 = .ok response) ∧
        system.succeeded (.request request faults) = [request] := by
  unfold System.succeeded
  dsimp only
  cases opened : system.isOpen with
  | false => exact .inl rfl
  | true =>
    cases outcome : (respond config system request faults).1 with
    | ok response => exact .inr ⟨rfl, ⟨response, rfl⟩, rfl⟩
    | error | crashed => exact .inl rfl

/-- Requests that succeeded were carried out, in order. -/
theorem succeeded_sublist_applied :
    ((succeeded events).filter fun request => request.demand.isSome).Sublist (applied events) := by
  induction events using List.reverseRecOn with
  | nil => exact List.Sublist.slnil
  | append_singleton events event ih =>
    rw [succeeded_concat, applied_concat, List.filter_append]
    refine ih.append ?_
    obtain ⟨ledger, consistent⟩ := exists_consistent_run events
    cases event with
    | openStore | close => exact List.Sublist.slnil
    | request request faults =>
      rcases succeeded_cases (System.run config events) request faults with
        failed | ⟨opened, ⟨response, ok⟩, returned⟩
      · rw [failed]
        exact List.nil_sublist _
      · rw [returned]
        by_cases asks : request.demand = none
        · simp [asks]
        · rw [applied_of_ok consistent opened ok asks]
          exact List.filter_sublist

/-- The audit chain of a transaction, in the order of its events, is that of its lifecycle. -/
theorem orderBy_auditEventsOf {tables : Tables} {lifecycle : Lifecycle config.sha256}
    (represents : Represents config tables ledger) (member : lifecycle ∈ ledger) :
    orderBy (·.eventSequence) (tables.auditEventsOf lifecycle.transactionId.value) =
      chainFrom config lifecycle.transactionId 0 .zero lifecycle.log := by
  rw [represents.auditEvents lifecycle member]
  exact orderBy_eq_self (chainFrom_sorted _ _ _ _)

theorem generation_kind_chainFrom (id : TransactionId) (sequence : Nat) (previous : ContentDigest)
    (log : List AuditEntry) :
    (chainFrom config id sequence previous log).map (fun row => (row.generation, row.eventKind)) =
      log.map fun entry => (entry.generation, entry.kind.asStr) := by
  induction log generalizing sequence previous with
  | nil => rfl
  | cons entry rest ih =>
    simp only [chainFrom, List.map_cons, ih]
    rfl

/-- Along a chain, events carry the number of re-preparations up to them. -/
theorem generation_of_chainFrom {id : TransactionId} {log : List AuditEntry}
    (numbered : Numbered log) {before after : List StoredAuditEvent} {event : StoredAuditEvent}
    (split : chainFrom config id 0 .zero log = before ++ event :: after) :
    event.generation = (before ++ [event]).countP fun other =>
      other.eventKind = EventKind.recoveryReprepared.asStr := by
  have images := congrArg (List.map fun row => (row.generation, row.eventKind)) split
  rw [generation_kind_chainFrom, List.map_append, List.map_eq_append_iff] at images
  obtain ⟨entries, rest, splitLog, sameBefore, sameRest⟩ := images
  obtain ⟨entry, _, rfl, sameEntry, -⟩ := List.map_eq_cons_iff.mp sameRest
  obtain ⟨sameGeneration, sameKind⟩ := Prod.mk.inj sameEntry
  -- counting the events is counting their kinds, which are those of the entries
  have count : (before ++ [event]).countP (fun other =>
      other.eventKind = EventKind.recoveryReprepared.asStr) =
      (entries ++ [entry]).countP AuditEntry.startsGeneration := by
    have kinds : (before ++ [event]).map (fun row => (row.generation, row.eventKind)) =
        (entries ++ [entry]).map fun entry => (entry.generation, entry.kind.asStr) := by
      rw [List.map_append, List.map_append, sameBefore, List.map_singleton, List.map_singleton,
        sameEntry]
    have counted := congrArg
      (List.countP fun pair => pair.2 = EventKind.recoveryReprepared.asStr) kinds
    rw [List.countP_map, List.countP_map] at counted
    refine counted.trans (List.countP_congr fun other _ => ?_)
    simp [AuditEntry.startsGeneration, EventKind.asStr_injective.eq_iff]
  rw [count, ← sameGeneration]
  exact numbered entries entry _ splitLog

/-- After every run, the event kinds of every audit chain form a word of the language, and an event
carries the number of re-preparations up to it.  Of the requests that the run carried out, which
include those that succeeded, no two hand off the same generation of a transaction; a later
generation is handed off after a recovery that found no effect of the one before; and a commit
comes after a handoff of its generation and then a recovery that verified it with the same three
digests.  What is committed was committed by such a request. -/
theorem run_audit_history (config : StoreConfig) (events : List (Event config)) :
    let tables := (System.run config events).store.durable
    (∀ row ∈ tables.transactions,
      let chain := orderBy (·.eventSequence) (tables.auditEventsOf row.transactionId)
      chain.map (·.eventKind) ∈ auditLanguage ∧
        ∀ before event after, chain = before ++ event :: after →
          event.generation = (before ++ [event]).countP fun other =>
            other.eventKind = "recovery-reprepared") ∧
    ((succeeded events).filter fun request => request.demand.isSome).Sublist (applied events) ∧
    ((applied events).Pairwise fun request request' => ∀ handoff now handoff' now',
      request = .handoff handoff now → request' = .handoff handoff' now' →
      ¬ (handoff.transactionId = handoff'.transactionId ∧
        handoff.expectedGeneration = handoff'.expectedGeneration)) ∧
    (∀ handoff now generation, .handoff handoff now ∈ applied events →
      handoff.expectedGeneration = generation + 1 →
      ∃ recovery now' observation next,
        [.recover recovery now', .handoff handoff now].Sublist (applied events) ∧
        recovery.transactionId = handoff.transactionId ∧
        recovery.expectedGeneration = generation ∧
        recovery.resolution = .intendedEffectAbsent observation next) ∧
    (∀ commit, .commit commit ∈ applied events →
      ∃ handoff now recovery now' observation,
        [.handoff handoff now, .recover recovery now', .commit commit].Sublist (applied events) ∧
        handoff.transactionId = commit.transactionId ∧
        handoff.expectedGeneration = commit.expectedGeneration ∧
        recovery.transactionId = commit.transactionId ∧
        recovery.expectedGeneration = commit.expectedGeneration ∧
        recovery.resolution = .intendedStateVerified observation commit.desiredStateDigest
          commit.graphDigest commit.provenanceDigest) ∧
    ∀ id record generation snapshot, loadCurrent config tables id =
      .ok (record, generation, snapshot) →
      snapshot.state = .committed → ∃ commit, .commit commit ∈ applied events ∧
        commit.transactionId = id ∧ commit.expectedGeneration = snapshot.currentGeneration ∧
        generation.desiredStateDigest = some commit.desiredStateDigest.value ∧
        generation.graphDigest = some commit.graphDigest.value ∧
        generation.provenanceDigest = some commit.provenanceDigest.value := by
  obtain ⟨ledger, ⟨represents, -⟩, chronicle⟩ := exists_chronicle_run events
  refine ⟨?_, succeeded_sublist_applied events, ?_, ?_, ?_, ?_⟩
  · intro row stored
    obtain ⟨lifecycle, member, rfl⟩ := represents.exists_lifecycle stored
    have chain := orderBy_auditEventsOf represents member
    have word := logsIn_le_auditLanguage _ lifecycle.wellFormed.word
    change orderBy _ (Tables.auditEventsOf _ (lifecycle.transactionRow config).transactionId) = _
      at chain
    simp only [chain]
    refine ⟨?_, fun before event after split =>
      generation_of_chainFrom lifecycle.wellFormed.numbered split⟩
    rw [eventKind_chainFrom]
    exact word
  · refine chronicle.once.imp fun {request request'} once => ?_
    rintro handoff now handoff' now' rfl rfl ⟨sameId, sameGeneration⟩
    refine once handoff.transactionId handoff.expectedGeneration _ _ ⟨_, rfl, rfl, rfl, rfl⟩
      ⟨_, rfl, sameId.symm, sameGeneration.symm, rfl⟩
  · intro handoff now generation member later
    obtain ⟨recovery, observation, next, order, asks⟩ := chronicle.later _ member
      handoff.transactionId generation _ ⟨_, rfl, rfl, later, rfl⟩
    obtain ⟨recovery, now', rfl, own, same, resolution⟩ := asks.reprepare
    exact ⟨recovery, now', observation, next, order, own, same, resolution⟩
  · intro commit member
    obtain ⟨handoff, verification, order, ⟨use, handsOff⟩, observation, verifies⟩ :=
      chronicle.commits _ member commit.transactionId commit.expectedGeneration _
        ⟨_, rfl, rfl, rfl, rfl⟩
    obtain ⟨handoff, now, rfl, ownHandoff, sameHandoff⟩ := handsOff.handoff
    obtain ⟨recovery, now', rfl, own, same, resolution⟩ := verifies.verify
    exact ⟨handoff, now, recovery, now', observation, order, ownHandoff, sameHandoff, own, same,
      resolution⟩
  · intro id record generation snapshot loaded committed
    obtain ⟨lifecycle, member, rfl, rfl, rfl, rfl⟩ := represents.of_loadCurrent loaded
    obtain ⟨material, commit, recorded, carried, asks⟩ :=
      (chronicle.evidence lifecycle member).committed committed
    obtain ⟨commit, rfl, own, same, rfl⟩ := asks.commit
    refine ⟨commit, carried, own, same, ?_⟩
    simp [History.currentRow, generationRow, StoredGeneration.withTag, recorded]

end Runs

end Linura.Persistence
