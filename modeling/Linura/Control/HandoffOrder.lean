import Linura.Control.AuthorityMachine
import Linura.Persistence.Chronicle

/-!
# One handoff for each generation

A handoff is recorded with the generation that the store moved.  Whatever fails or crashes, a
generation that was handed off is never prepared again; so those of a transaction are handed off in
increasing order, and none twice.
-/

namespace Linura.Control

open Linura.Lib Linura.Persistence Linura.Planner Linura.Transaction Program

variable {sha256 : Sha256} {world world' : World sha256}

/-- The generations that were handed off, the newest first. -/
def handoffs (trace : Trace sha256) : List (TransactionId × Nat) :=
  trace.filterMap fun
    | .handedOff _ _ commit => some (commit.transactionId, commit.generation)
    | _ => none

theorem Records.handoffs_eq (records : Records world world') :
    handoffs world'.trace = handoffs world.trace := by
  obtain ⟨events, same, quiet⟩ := records.events
  rw [same, handoffs, List.filterMap_append, List.filterMap_eq_nil_iff.mpr,
    List.nil_append, handoffs]
  intro event member
  cases event with
  | handedOff => exact (quiet _ member).elim
  | _ => rfl

/-- Each transaction handed its generations off in order, and one that it did is not prepared. -/
structure World.InOrder (world : World sha256) : Prop where
  increasing : (handoffs world.trace).Pairwise fun later earlier =>
    later.1 = earlier.1 → earlier.2 < later.2
  spent : ∀ handed ∈ handoffs world.trace, ∃ lifecycle,
    findLifecycle world.ledger handed.1 = some lifecycle ∧ lifecycle.IsPast handed.2

/-- The order of the handoffs is kept. -/
def Orderly (world world' : World sha256) : Prop := world.InOrder → world'.InOrder

instance : IsPreorder (World sha256) Orderly where
  refl _ := id
  trans _ _ _ first second := second ∘ first

/-- Who advances hands nothing off. -/
theorem Advances.orderly {allowed : ContentDigest × ContentDigest → Prop}
    (advances : Advances allowed world world') : Orderly world world' := by
  rintro ⟨increasing, spent⟩
  rw [← advances.records.handoffs_eq] at increasing spent
  refine ⟨increasing, fun handed member => ?_⟩
  obtain ⟨lifecycle, found, past⟩ := spent handed member
  obtain ⟨lifecycle', found', before⟩ := advances.progress.forward _ _ found
  refine ⟨lifecycle', found', ?_⟩
  rcases before with later | ⟨same, back⟩
  · exact .inl (past.elim (·.trans later) fun past => past.1 ▸ later)
  · exact past.imp (same ▸ ·) fun past =>
      ⟨past.1.trans same, fun prepared => past.2 (back prepared)⟩

/-- A handoff starts from the prepared state, so that none of its generation came before. -/
theorem HandsOff.orderly (hands : HandsOff world world') : Orderly world world' := by
  cases hands with
  | unrecorded advances => exact advances.orderly
  | recorded mid review binding commit advances handed same =>
    intro inOrder
    obtain ⟨increasing, spent⟩ := advances.orderly inOrder
    obtain ⟨old, foundOld, prepared, generation⟩ := handed.before
    obtain ⟨new, foundNew, indeterminate, generation'⟩ := handed.after
    subst same
    refine ⟨List.Pairwise.cons (fun earlier member own => ?_) increasing, fun handed member => ?_⟩
    · obtain ⟨lifecycle, found, past⟩ :=
        inOrder.spent earlier (advances.records.handoffs_eq ▸ member)
      rw [← own, foundOld] at found
      cases found
      rcases past with less | ⟨-, unprepared⟩
      · exact generation ▸ less
      · exact absurd prepared unprepared
    · rcases List.mem_cons.mp member with rfl | earlier
      · exact ⟨new, foundNew, .inr ⟨generation'.symm, by simp [indeterminate]⟩⟩
      · exact spent handed earlier

theorem orderly_of_advances {α : Type} {program : AuthorityProgram sha256 α}
    (advances : Guarantees (Advances fun _ => False) program) : Guarantees Orderly program :=
  advances.mono fun _ _ => Advances.orderly

theorem orderly_of_quiet {α : Type} {program : AuthorityProgram sha256 α}
    (quiet : Guarantees Quiet program) : Guarantees Orderly program :=
  orderly_of_advances (advances_of_quiet quiet)

namespace Holdings

variable (env : Environment sha256) (holdings : Holdings sha256)

theorem orderly_perform {α : Type} {program : AuthorityProgram sha256 α} {faults : List Fault}
    {keep : α → Holdings sha256 → Holdings sha256} (keeps : Guarantees Orderly program)
    (kept : ∀ value holdings, (keep value holdings).world = holdings.world := by intros; rfl) :
    Orderly holdings.world (holdings.perform program faults keep).world := by
  have ended := keeps ⟨holdings.world, faults⟩
  unfold perform
  rcases ran : program ⟨holdings.world, faults⟩ with ⟨outcome, s⟩
  rw [ran] at ended
  cases outcome with
  | ok value => exact (kept value _).symm ▸ ended
  | error | crashed => exact ended

theorem orderly_elim {α : Type} {held : Option α} {next : α → Holdings sha256}
    (each : ∀ value, Orderly holdings.world (next value).world) :
    Orderly holdings.world (held.elim holdings next).world := by
  cases held with
  | none => exact id
  | some value => exact each value

/-- Every call keeps the order of handoffs. -/
theorem orderly_call (faults : List Fault) (call : AuthorityCall) :
    Orderly holdings.world (holdings.call env faults call).world := by
  cases call with
  | start => exact id
  | candidate =>
    exact orderly_perform _ (orderly_of_quiet (quiet_candidateInner env _ _ _ _ _))
  | protectiveCandidate =>
    exact orderly_perform _ (orderly_of_quiet (quiet_protectiveCandidate env _ _ _ _))
  | issueApproval =>
    refine orderly_elim _ fun _ => orderly_perform _ (orderly_of_quiet ?_)
    exact quiet_issueApproval env _ _ _ _
  | revokeApproval =>
    exact orderly_perform _ (orderly_of_quiet (quiet_revokeApproval env _ _))
  | prepare =>
    refine orderly_elim _ fun _ => orderly_perform _ ?_
    exact (advances_prepareInner env _ _ rfl).mono fun _ _ => Advances.orderly
  | prepareProtective =>
    refine orderly_elim _ fun _ => orderly_perform _ ?_
    exact (advances_prepareProtective env rfl).mono fun _ _ => Advances.orderly
  | handoff principal index protective =>
    refine orderly_elim _ fun prepared => orderly_perform _ ?_
    have handed : ∀ settings, Guarantees Orderly (handoffInner env principal prepared settings) :=
      fun settings => (handsOff_handoffInner env principal prepared settings).mono fun _ _ =>
        HandsOff.orderly
    unfold handoffCall
    split
    · exact (orderly_of_quiet (quiet_validateProtectiveNow env _)).bind fun _ => handed true
    · exact handed false
  | recover =>
    refine orderly_perform _ (orderly_of_advances ?_) fun outcome _ => ?_
    · exact advances_recoverIndeterminateInner env _ _ _ _ _
    · cases outcome with
      | verified | reprepared | blocked | stillIndeterminate => rfl
  | resumeVerified =>
    exact orderly_perform _ (orderly_of_quiet (quiet_resumeVerified _ _))
  | commitVerified =>
    refine orderly_elim _ fun _ => orderly_perform _ (orderly_of_advances ?_)
    exact advances_commitVerified env _ _

/-- So does every step. -/
theorem orderly_step (entry : AuthorityCall × List Fault) :
    Orderly holdings.world (holdings.step env entry).world := by
  unfold step
  split
  · -- a new process leaves the ledger and the handoffs as they are
    rename_i maxResources _
    intro inOrder
    have ended := orderly_of_advances advances_abortPreparedAfterRestart
      ⟨holdings.world.boot maxResources, entry.2⟩ ⟨inOrder.increasing, inOrder.spent⟩
    unfold start
    split <;> simp_all only
  · split
    · exact orderly_call env _ _ _
    · exact id

/-- Along every run, whatever fails, crashes and is started again, the generations of a transaction
are handed off in increasing order, so that none is handed off twice; and one that was handed off
has left the prepared state for good. -/
theorem run_handoffs_increase (calls : List (AuthorityCall × List Fault)) :
    (run env calls).world.InOrder := by
  refine List.foldlRecOn calls _ (motive := fun holdings : Holdings sha256 =>
    holdings.world.InOrder) ?_ ?_
  · exact ⟨.nil, fun _ member => by cases member⟩
  · exact fun holdings inOrder entry _ => orderly_step env holdings entry inOrder

/-- Along every run, each transaction of the ledger is bound to the digests of a request and of a
precondition for which a plan was recorded: it proposed a change, and it compares the state asked
for with the observation beside it. -/
theorem run_ledger_planned (calls : List (AuthorityCall × List Fault))
    (lifecycle : Lifecycle sha256)
    (member : lifecycle ∈ (run env calls).world.ledger) : ∃ request observation plan,
      .planned request observation plan ∈ (run env calls).world.trace ∧
      plan.status = .changeProposed ∧
      digestRequest sha256 request = .ok lifecycle.binding.requestDigest ∧
      digestPlanPrecondition sha256 plan = .ok lifecycle.binding.preconditionDigest ∧
      PlannedUnder request.requestId request.desiredResource observation plan := by
  have sound := (sound_run env calls).world
  obtain ⟨request, observation, plan, recorded, proposed, asked, expected⟩ :=
    sound.grounds lifecycle member
  exact ⟨request, observation, plan, recorded, proposed, asked, expected,
    sound.planned _ _ _ recorded⟩

/-- The transaction of the activation was planned. -/
theorem run_ledger_planned_activation : ∃ request observation plan,
    .planned request observation plan ∈
      (run Activation.environment Activation.handing).world.trace := by
  obtain ⟨_, _, ended, -⟩ := Activation.exists_recovery
  obtain ⟨_, _, _, recovered⟩ := returns_recoverIndeterminateInner _ ⟨[], _, ended⟩
  obtain ⟨_, -, found⟩ := recovered.anchored.found
  obtain ⟨request, observation, plan, recorded, -⟩ :=
    run_ledger_planned _ _ _ (List.mem_of_find?_eq_some found)
  exact ⟨request, observation, plan, recorded⟩

end Holdings

end Linura.Control
