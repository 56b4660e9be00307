import Linura.Control.AuthorityFacts

/-!
# Durable authority over whole runs

A caller of durable authority holds candidates, prepared authorities and verified authorities,
and uses them in any order.  Any call may fail or be cut short at any point; a process that
crashed is started again, with nothing but the ledger left.

Along every run, each transaction is bound to a request and a precondition that Control once
planned.  Recovery compares what it observes with that plan only through digests; where SHA-256
does not collide on what was planned, a reprepared transaction therefore starts from the values
it started from before.

A handoff reads two clocks, its own before it revalidates and the store's when it writes; the
authority that it uses is live at the second.
-/

namespace Linura.Control

open Linura.Lib Linura.Core Linura.Observation Linura.Persistence Linura.Planner Linura.Policy
open Linura.Transaction Program

/-- Control, and what its caller holds. -/
structure Holdings (sha256 : Sha256) where
  world : World sha256
  running : Bool
  candidates : List DurableAuthorityCandidate
  prepared : List (PreparedDurableAuthority sha256)
  verified : List VerifiedDurableAuthority

/-- The calls of durable authority.  What the caller holds is named by its position, and may be
used again, which the source does not even allow. -/
inductive AuthorityCall
  | start (maxResources : Nat)
  | candidate (principal : AuthenticatedPrincipal) (actor : Actor)
      (request : PlanDesiredStateRequest) (floor : Option TrustedRiskFloor)
  | protectiveCandidate (principal : AuthenticatedPrincipal) (actor : Actor)
      (context : ProtectiveLockContext) (floor : TrustedRiskFloor)
  | issueApproval (requestId : ApprovalRequestId) (candidate : Nat)
      (approver : PolicyAuthenticatedApprover) (expiresAtUnixSeconds : Nat)
  | revokeApproval (evidenceId : ApprovalEvidenceId) (revoker : PolicyAuthenticatedApprover)
  | prepare (candidate : Nat) (evidenceId : Option ApprovalEvidenceId)
  | prepareProtective (candidate : Nat)
  | handoff (principal : AuthenticatedPrincipal) (prepared : Nat) (protective : Bool)
  | recover (principal : AuthenticatedPrincipal) (actor : Actor)
      (request : PlanDesiredStateRequest) (approval : RecoveryApproval)
      (floor : Option TrustedRiskFloor)
  | resumeVerified (principal : AuthenticatedPrincipal) (id : TransactionId)
  | commitVerified (principal : AuthenticatedPrincipal) (verified : Nat)

variable {sha256 : Sha256} (env : Environment sha256)

/-- A new process: what was not durable is gone. -/
def World.boot (maxResources : Nat) (world : World sha256) : World sha256 :=
  World.log .started { world with
    coordinator := .withLimit maxResources
    approvals := .new
    lastAuthorityUnixMs := 0 }

/-- `handoff` and `handoff_protective` -/
def handoffCall (principal : AuthenticatedPrincipal) (prepared : PreparedDurableAuthority sha256)
    (protective : Bool) : AuthorityProgram sha256 DispatchPermit :=
  if protective then handoffProtective env principal prepared
  else handoffInner env principal prepared false

namespace Holdings

variable (holdings : Holdings sha256)

/-- Nothing durable yet, and no process. -/
def initial (sha256 : Sha256) : Holdings sha256 where
  world := ⟨[], [], false, false, .withLimit 0, .new, 0, []⟩
  running := false
  candidates := []
  prepared := []
  verified := []

/-- Make a call and keep what it returned.  A crash takes the process and its values. -/
def perform {α : Type} (program : AuthorityProgram sha256 α) (faults : List Fault)
    (keep : α → Holdings sha256 → Holdings sha256) : Holdings sha256 :=
  match program ⟨holdings.world, faults⟩ with
  | (.ok value, s) => keep value { holdings with world := s.state }
  | (.error _, s) => { holdings with world := s.state }
  | (.crashed, s) => ⟨s.state, false, [], [], []⟩

/-- Keep what a recovery returned. -/
def keepRecovered (outcome : DurableRecoveryOutcome sha256) (holdings : Holdings sha256) :
    Holdings sha256 :=
  match outcome with
  | .verified authority => { holdings with verified := holdings.verified ++ [authority] }
  | .reprepared prepared => { holdings with prepared := holdings.prepared ++ [prepared] }
  | .blocked _ | .stillIndeterminate _ => holdings

/-- One call of a running process. -/
def call (faults : List Fault) : AuthorityCall → Holdings sha256
  | .start _ => holdings
  | .candidate principal actor request floor =>
    holdings.perform (candidateInner env principal actor request floor none) faults
      fun candidate holdings => { holdings with candidates := holdings.candidates ++ [candidate] }
  | .protectiveCandidate principal actor context floor =>
    holdings.perform (protectiveCandidate env principal actor context floor) faults
      fun candidate holdings => { holdings with candidates := holdings.candidates ++ [candidate] }
  | .issueApproval requestId index approver expires =>
    (holdings.candidates[index]?).elim holdings fun candidate =>
      holdings.perform (issueApproval env requestId candidate approver expires) faults
        fun _ => id
  | .revokeApproval evidenceId revoker =>
    holdings.perform (revokeApproval env evidenceId revoker) faults fun _ => id
  | .prepare index evidenceId =>
    (holdings.candidates[index]?).elim holdings fun candidate =>
      holdings.perform (prepareInner env candidate evidenceId false) faults
        fun prepared holdings => { holdings with prepared := holdings.prepared ++ [prepared] }
  | .prepareProtective index =>
    (holdings.candidates[index]?).elim holdings fun candidate =>
      holdings.perform (prepareProtective env candidate) faults
        fun prepared holdings => { holdings with prepared := holdings.prepared ++ [prepared] }
  | .handoff principal index protective =>
    (holdings.prepared[index]?).elim holdings fun prepared =>
      holdings.perform (handoffCall env principal prepared protective) faults
        fun _ holdings =>
          { holdings with prepared :=
            holdings.prepared.set index { prepared with handedOff := true } }
  | .recover principal actor request approval floor =>
    holdings.perform (recoverIndeterminateInner env principal actor request approval floor) faults
      keepRecovered
  | .resumeVerified principal id =>
    holdings.perform (resumeVerified principal id) faults
      fun authority holdings => { holdings with verified := holdings.verified ++ [authority] }
  | .commitVerified principal index =>
    (holdings.verified[index]?).elim holdings fun authority =>
      holdings.perform (commitVerified env principal authority) faults fun _ => id

/-- `DurableAuthorityControl::new`: the process runs once everything prepared was retired. -/
def start (maxResources : Nat) (faults : List Fault) : Holdings sha256 :=
  match (abortPreparedAfterRestart : AuthorityProgram sha256 _)
    ⟨holdings.world.boot maxResources, faults⟩ with
  | (.ok _, s) => ⟨s.state, true, [], [], []⟩
  | (_, s) => ⟨s.state, false, [], [], []⟩

/-- One step of a run. -/
def step (entry : AuthorityCall × List Fault) : Holdings sha256 :=
  match entry.1 with
  | .start maxResources => holdings.start maxResources entry.2
  | call => if holdings.running then holdings.call env entry.2 call else holdings

/-- A run: calls with the faults they meet, the first one first. -/
def run (calls : List (AuthorityCall × List Fault)) : Holdings sha256 :=
  calls.foldl (fun holdings entry => holdings.step env entry) (initial sha256)

end Holdings

/-! ### What every step keeps -/

section Keeps

variable {env} {world world' : World sha256}

/-- A plan that proposed a change was made, and the digests are those of its request and its
precondition. -/
def Sealed (trace : Trace sha256) (grounds : ContentDigest × ContentDigest) : Prop :=
  ∃ request observation plan, .planned request observation plan ∈ trace ∧
    plan.status = .changeProposed ∧ digestRequest sha256 request = .ok grounds.1 ∧
    digestPlanPrecondition sha256 plan = .ok grounds.2

theorem Sealed.mono {trace trace' : Trace sha256} {grounds : ContentDigest × ContentDigest}
    (sealed : Sealed trace grounds) (suffix : trace <:+ trace') : Sealed trace' grounds := by
  obtain ⟨request, observation, plan, member, rest⟩ := sealed
  exact ⟨request, observation, plan, suffix.subset member, rest⟩

/-- The grounds of a candidate are sealed from the moment it is made. -/
theorem CandidateOf.sealed {principal : AuthenticatedPrincipal} {actor : Actor}
    {request : PlanDesiredStateRequest} {floor : Option TrustedRiskFloor}
    {protective : Option ProtectiveLockContext} {candidate : DurableAuthorityCandidate}
    (made : CandidateOf env principal actor request floor protective candidate world world') :
    Sealed world'.trace (candidate.requestDigest, candidate.preconditionDigest) := by
  obtain ⟨observation, earlier, newest, -, -⟩ := made.planned.recorded
  exact ⟨request, observation, candidate.plan, newest ▸ List.mem_cons_self, made.proposed,
    made.requestDigest, made.preconditionDigest⟩

/-- Every transaction is bound to something that was planned, plans were made under the
observations they are recorded with, and the times that the process accepted did not fall. -/
structure World.Sound (world : World sha256) : Prop where
  grounds : ∀ lifecycle ∈ world.ledger, Sealed world.trace (bindingGrounds lifecycle.binding)
  planned : ∀ request observation plan, .planned request observation plan ∈ world.trace →
    PlannedUnder request.requestId request.desiredResource observation plan
  sorted : (acceptedTimes world.trace).Pairwise (· ≥ ·)
  accepted_le : ∀ time ∈ acceptedTimes world.trace, time ≤ world.lastAuthorityUnixMs

/-- What was recorded stays, and soundness is kept. -/
structure Carries (world world' : World sha256) : Prop where
  suffix : world.trace <:+ world'.trace
  sound : world.Sound → world'.Sound

instance : IsPreorder (World sha256) Carries where
  refl _ := ⟨List.suffix_refl _, id⟩
  trans _ _ _ first second :=
    ⟨first.suffix.trans second.suffix, fun sound => second.sound (first.sound sound)⟩

/-- Accepted times never go back. -/
theorem Records.accepted_sound (records : Records world world')
    (sorted : (acceptedTimes world.trace).Pairwise (· ≥ ·))
    (accepted_le : ∀ time ∈ acceptedTimes world.trace, time ≤ world.lastAuthorityUnixMs) :
    (acceptedTimes world'.trace).Pairwise (· ≥ ·) ∧
      ∀ time ∈ acceptedTimes world'.trace, time ≤ world'.lastAuthorityUnixMs := by
  obtain ⟨times, same, newSorted, bounded⟩ := records.times
  rw [same]
  refine ⟨List.pairwise_append.mpr ⟨newSorted, sorted, fun later member earlier member' => ?_⟩, ?_⟩
  · exact (accepted_le earlier member').trans (bounded later member).1
  · intro time member
    rcases List.mem_append.mp member with later | earlier
    · exact (bounded time later).2
    · exact (accepted_le time earlier).trans records.last_le

/-- Advancing the ledger carries on, if what may be bound was sealed before. -/
theorem Advances.carries {allowed : ContentDigest × ContentDigest → Prop}
    (advances : Advances allowed world world')
    (granted : ∀ grounds, allowed grounds → Sealed world.trace grounds) : Carries world world' := by
  have suffix := advances.records.suffix
  refine ⟨suffix, fun sound => ?_⟩
  obtain ⟨sorted, bounded⟩ := advances.records.accepted_sound sound.sorted sound.accepted_le
  refine ⟨fun lifecycle' member => ?_, ?_, sorted, bounded⟩
  · rcases advances.progress.grounds lifecycle' member with new | ⟨lifecycle, old, same⟩
    · exact (granted _ new).mono suffix
    · rw [← same]
      exact (sound.grounds lifecycle old).mono suffix
  · obtain ⟨events, same, quiet⟩ := advances.records.events
    intro request observation plan member
    rw [same] at member
    rcases List.mem_append.mp member with new | old
    · exact quiet _ new
    · exact sound.planned request observation plan old

theorem carries_of_advances {ε α : Type} {program : Program (World sha256) ε α}
    (advances : Guarantees (Advances fun _ => False) program) : Guarantees Carries program :=
  advances.mono fun _ _ moved => moved.carries fun _ => False.elim

theorem carries_of_quiet {ε α : Type} {program : Program (World sha256) ε α}
    (quiet : Guarantees Quiet program) : Guarantees Carries program :=
  carries_of_advances (advances_of_quiet quiet)

/-- A handoff carries on: its record is no plan and no time. -/
theorem HandsOff.carries (hands : HandsOff world world') : Carries world world' := by
  cases hands with
  | unrecorded advances => exact advances.carries fun _ => False.elim
  | recorded mid review binding commit advances handed same =>
    have before := advances.carries fun _ => False.elim
    have logged : mid.trace <:+ world'.trace := by
      rw [same]
      exact List.suffix_cons _ _
    refine ⟨before.suffix.trans logged, fun sound => ?_⟩
    have earlier := before.sound sound
    rw [same]
    refine ⟨fun lifecycle member => ?_, ?_, earlier.sorted, earlier.accepted_le⟩
    · exact (earlier.grounds lifecycle member).mono (List.suffix_cons _ _)
    · intro request observation plan member
      exact earlier.planned request observation plan (List.mem_of_ne_of_mem (by simp) member)

/-- A new process starts sound. -/
theorem World.carries_boot (maxResources : Nat) (world : World sha256) :
    Carries world (world.boot maxResources) := by
  refine ⟨⟨[.started], rfl⟩, fun sound => ⟨fun lifecycle member => ?_, ?_, List.Pairwise.nil, ?_⟩⟩
  · exact (sound.grounds lifecycle member).mono (List.suffix_cons _ _)
  · intro request observation plan member
    exact sound.planned request observation plan (List.mem_of_ne_of_mem (by simp) member)
  · intro time member
    cases member

variable (env) in
/-- A handoff keeps what is carried. -/
theorem carries_handoffCall (principal : AuthenticatedPrincipal)
    (prepared : PreparedDurableAuthority sha256) (protective : Bool) :
    Guarantees Carries (handoffCall env principal prepared protective) := by
  have handed : ∀ settings, Guarantees Carries (handoffInner env principal prepared settings) :=
    fun settings => (handsOff_handoffInner env principal prepared settings).mono
      fun _ _ => HandsOff.carries
  unfold handoffCall
  split
  · exact (carries_of_quiet (quiet_validateProtectiveNow env _)).bind fun _ => handed true
  · exact handed false

end Keeps

/-! ### Runs -/

namespace Holdings

variable {env} {holdings : Holdings sha256}

/-- What holds along every run. -/
structure Sound (holdings : Holdings sha256) : Prop where
  world : holdings.world.Sound
  candidates : ∀ candidate ∈ holdings.candidates,
    Sealed holdings.world.trace (candidate.requestDigest, candidate.preconditionDigest)
  prepared : ∀ prepared ∈ holdings.prepared, prepared.snapshot.bindingDigest =
    prepared.binding.digest

/-- An installation without holdings is sound. -/
theorem sound_initial : (initial sha256).Sound := by
  refine ⟨⟨?_, ?_, List.Pairwise.nil, ?_⟩, ?_, ?_⟩
  · intro lifecycle member
    cases member
  · intro request observation plan member
    cases member
  · intro time member
    cases member
  · intro candidate member
    cases member
  · intro prepared member
    cases member

/-- It stays so under every call that carries. -/
theorem Sound.carried (sound : holdings.Sound) {world' : World sha256}
    (carries : Carries holdings.world world') :
      ({ holdings with world := world' } : Holdings sha256).Sound :=
  ⟨carries.sound sound.world, fun candidate member => (sound.candidates candidate member).mono
    carries.suffix, sound.prepared⟩

/-- A call keeps soundness if its program carries on and what is kept of its value is sound. -/
theorem sound_perform (sound : holdings.Sound) {α : Type} {program : AuthorityProgram sha256 α}
    {faults : List Fault} {keep : α → Holdings sha256 → Holdings sha256}
    (carries : ∀ faults, Carries holdings.world (program ⟨holdings.world, faults⟩).2.state)
    (kept : ∀ value world', Returns program holdings.world value world' →
      ({ holdings with world := world' } : Holdings sha256).Sound →
        (keep value { holdings with world := world' }).Sound) :
    (holdings.perform program faults keep).Sound := by
  have carried := carries faults
  unfold perform
  rcases ended : program ⟨holdings.world, faults⟩ with ⟨outcome, s⟩
  rw [ended] at carried
  cases outcome with
  | ok value => exact kept value s.state ⟨faults, s.faults, ended⟩ (sound.carried carried)
  | error reason => exact sound.carried carried
  | crashed =>
    refine ⟨carried.sound sound.world, fun candidate member => ?_, fun prepared member => ?_⟩
    · cases member
    · cases member

theorem Sound.hold (sound : holdings.Sound) {candidate : DurableAuthorityCandidate}
    (sealed : Sealed holdings.world.trace (candidate.requestDigest, candidate.preconditionDigest)) :
    ({ holdings with candidates := holdings.candidates ++ [candidate] } :
      Holdings sha256).Sound := by
  refine ⟨sound.world, fun held member => ?_, sound.prepared⟩
  rcases List.mem_append.mp member with old | new
  · exact sound.candidates held old
  · rw [List.mem_singleton.mp new]
    exact sealed

theorem Sound.holdPrepared (sound : holdings.Sound) {prepared : PreparedDurableAuthority sha256}
    (digest : prepared.snapshot.bindingDigest = prepared.binding.digest) :
    ({ holdings with prepared := holdings.prepared ++ [prepared] } : Holdings sha256).Sound := by
  refine ⟨sound.world, sound.candidates, fun held member => ?_⟩
  rcases List.mem_append.mp member with old | new
  · exact sound.prepared held old
  · rw [List.mem_singleton.mp new]
    exact digest

/-- A call that uses something held keeps soundness if it does so whatever is held. -/
theorem sound_elim (sound : holdings.Sound) {α : Type} {held : Option α}
    {next : α → Holdings sha256} (each : ∀ value, held = some value → (next value).Sound) :
    (held.elim holdings next).Sound := by
  cases held with
  | none => exact sound
  | some value => exact each value rfl

variable (env) in
/-- Every call of a running process keeps soundness. -/
theorem sound_call (sound : holdings.Sound) (faults : List Fault) (call : AuthorityCall) :
    (holdings.call env faults call).Sound := by
  unfold Holdings.call
  cases call with
  | start maxResources => exact sound
  | candidate principal actor request floor =>
    refine sound_perform sound ?_ ?_
    · exact fun faults => carries_of_quiet (quiet_candidateInner env _ _ _ _ _) ⟨_, faults⟩
    · exact fun candidate world' ended sound' =>
        sound'.hold (returns_candidateInner env ended).sealed
  | protectiveCandidate principal actor context floor =>
    refine sound_perform sound ?_ ?_
    · exact fun faults => carries_of_quiet (quiet_protectiveCandidate env _ _ _ _) ⟨_, faults⟩
    · intro candidate world' ended sound'
      obtain ⟨request, _, -, made⟩ := ended.bind
      exact sound'.hold (returns_candidateInner env made).sealed
  | issueApproval requestId index approver expires =>
    refine sound_elim sound fun candidate held => sound_perform sound ?_ ?_
    · exact fun faults => carries_of_quiet (quiet_issueApproval env _ _ _ _) ⟨_, faults⟩
    · exact fun _ _ _ sound' => sound'
  | revokeApproval evidenceId revoker =>
    refine sound_perform sound ?_ ?_
    · exact fun faults => carries_of_quiet (quiet_revokeApproval env _ _) ⟨_, faults⟩
    · exact fun _ _ _ sound' => sound'
  | prepare index evidenceId =>
    refine sound_elim sound fun candidate held => sound_perform sound ?_ ?_
    · intro faults
      have sealed := sound.candidates candidate (List.mem_of_getElem? held)
      have advances :
        Guarantees (Advances (· = (candidate.requestDigest, candidate.preconditionDigest)))
          (prepareInner env candidate evidenceId false) := advances_prepareInner env _ _ rfl
      exact (advances ⟨_, faults⟩).carries fun grounds same => same ▸ sealed
    · exact fun prepared _ ended sound' =>
        sound'.holdPrepared (returns_prepareInner env ended).digest_eq
  | prepareProtective index =>
    refine sound_elim sound fun candidate held => sound_perform sound ?_ ?_
    · intro faults
      have sealed := sound.candidates candidate (List.mem_of_getElem? held)
      have advances :
        Guarantees (Advances (· = (candidate.requestDigest, candidate.preconditionDigest)))
          (prepareProtective env candidate) := advances_prepareProtective env rfl
      exact (advances ⟨_, faults⟩).carries fun grounds same => same ▸ sealed
    · intro prepared _ ended sound'
      obtain ⟨_, _, -, preparing⟩ := ended.bind
      exact sound'.holdPrepared (returns_prepareInner env preparing).digest_eq
  | handoff principal index protective =>
    refine sound_elim sound fun prepared held => sound_perform sound ?_ ?_
    · exact fun faults => carries_handoffCall env _ _ _ ⟨_, faults⟩
    · intro permit world' ended sound'
      refine ⟨sound'.world, sound'.candidates, fun other member => ?_⟩
      rcases List.mem_or_eq_of_mem_set member with old | same
      · exact sound'.prepared other old
      · rw [same]
        exact sound.prepared prepared (List.mem_of_getElem? held)
  | recover principal actor request approval floor =>
    refine sound_perform sound ?_ ?_
    · exact fun faults => carries_of_advances
        (advances_recoverIndeterminateInner env _ _ _ _ _) ⟨_, faults⟩
    · intro outcome world' ended sound'
      obtain ⟨lifecycle, plan, mid, recovered⟩ := returns_recoverIndeterminateInner env ended
      cases outcome with
      | verified authority => exact ⟨sound'.world, sound'.candidates, sound'.prepared⟩
      | reprepared prepared =>
        exact sound'.holdPrepared (recovered.reprepared prepared rfl).2.2.2.2.digest_eq
      | blocked | stillIndeterminate => exact sound'
  | resumeVerified principal id =>
    refine sound_perform sound ?_ ?_
    · exact fun faults => carries_of_quiet (quiet_resumeVerified _ _) ⟨_, faults⟩
    · exact fun _ _ _ sound' => ⟨sound'.world, sound'.candidates, sound'.prepared⟩
  | commitVerified principal index =>
    refine sound_elim sound fun authority held => sound_perform sound ?_ ?_
    · exact fun faults => carries_of_advances (advances_commitVerified env _ _) ⟨_, faults⟩
    · exact fun _ _ _ sound' => sound'

/-- A restart keeps it sound. -/
theorem sound_start (sound : holdings.Sound) (maxResources : Nat) (faults : List Fault) :
    (holdings.start maxResources faults).Sound := by
  have carried := trans_of Carries (holdings.world.carries_boot maxResources)
    (carries_of_advances advances_abortPreparedAfterRestart
      ⟨holdings.world.boot maxResources, faults⟩)
  have empty : ∀ (world : World sha256) (running : Bool), world.Sound →
      (⟨world, running, [], [], []⟩ : Holdings sha256).Sound := by
    refine fun world running sound => ⟨sound, fun candidate member => ?_, fun prepared member => ?_⟩
    · cases member
    · cases member
  unfold start
  rcases ended : (abortPreparedAfterRestart : AuthorityProgram sha256 _)
    ⟨holdings.world.boot maxResources, faults⟩ with ⟨outcome, s⟩
  rw [ended] at carried
  cases outcome with
  | ok | error | crashed => exact empty _ _ (carried.sound sound.world)

variable (env) in
/-- So does every call. -/
theorem sound_step (sound : holdings.Sound) (entry : AuthorityCall × List Fault) :
    (holdings.step env entry).Sound := by
  unfold step
  split
  · exact sound_start sound _ _
  · split
    · exact sound_call env sound _ _
    · exact sound

variable (env) in
/-- Every run is sound. -/
theorem sound_run (calls : List (AuthorityCall × List Fault)) : (run env calls).Sound :=
  List.foldlRecOn calls _ sound_initial fun _ sound entry _ => sound_step env sound entry

end Holdings

/-! ### What is hashed for plans -/

/-- The byte strings that were hashed for the requests and the preconditions of recorded plans. -/
def plannedBytes (trace : Trace sha256) : List Bytes :=
  trace.flatMap fun
    | .planned request _ plan => [frames request.canonicalFields, frames (preconditionFields plan)]
    | _ => []

theorem mem_plannedBytes {trace : Trace sha256} {request : PlanDesiredStateRequest}
    {observation : PlanningObservation} {plan : ReconciliationPlan}
    (member : .planned request observation plan ∈ trace) :
    frames request.canonicalFields ∈ plannedBytes trace ∧
      frames (preconditionFields plan) ∈ plannedBytes trace := by
  constructor
  · exact List.mem_flatMap.mpr ⟨_, member, List.mem_cons_self⟩
  · exact List.mem_flatMap.mpr ⟨_, member, List.mem_cons_of_mem _ List.mem_cons_self⟩

/-! ### A unit that is activated

An administrator approves that a unit is started; the transaction is prepared and handed off.
Nothing starts the unit, so that recovery observes it as before and prepares the next
generation. -/

namespace Activation

open Holdings

/-- A hash that only tells the length of its input, to evaluate the model on concrete inputs. -/
def lengthSha256 : Sha256 := fun bytes => .replicate 32 (UInt8.ofNat bytes.length)

/-- The unit is observed as inactive whenever it is asked about. -/
def environment : Environment lengthSha256 where
  debug := ⟨id, fun _ => "", fun _ => ""⟩
  key := ⟨List.replicate 32 1, by decide⟩
  clock _ := some 5000
  observer trace request := .ok ⟨request.provider, request.resource, request.capability, .nativeApi,
    4000, 10000, trace.length, BTreeMap.empty.insert "active_state" (.text "inactive")⟩
  settings _ _ _ := .ok none

def request : PlanDesiredStateRequest where
  requestId := ⟨"request:activate", by decide⟩
  provider := testProvider
  resource := ⟨"systemd:unit:demo.service", by decide⟩
  observationCapability := testCapability
  reason := ⟨"Start the unit", [⟨"intent:demo", by decide⟩], [], []⟩
  desiredState := BTreeMap.empty.insert "active_state" "active"

def principal : AuthenticatedPrincipal := ⟨"unix:uid:1000", by decide⟩
def actor : Actor := ⟨⟨"actor:owner", by decide⟩, .human, true⟩
def approver : PolicyAuthenticatedApprover :=
  ⟨⟨"approver:admin", by decide⟩, .human, {.administrator}⟩

/-- A process starts, and prepares the request with an approval. -/
def preparing : List (AuthorityCall × List Fault) :=
  [(.start 8, []), (.candidate principal actor request none, []),
    (.issueApproval ⟨"approval:1", by decide⟩ 0 approver 600, []),
    (.prepare 0 (some ⟨"approval:evidence:0000000000000000", by decide⟩), [])]

def handing : List (AuthorityCall × List Fault) := preparing ++ [(.handoff principal 0 false, [])]

/-- Recovery may ask for a fresh approval. -/
def renewal : RecoveryApproval := .onDemand ⟨⟨"approval:2", by decide⟩, approver, 600⟩

/-- The calls that return, with no collision among what was hashed. -/
def evaluation : Bool :=
  ((run environment preparing).prepared[0]?).any (fun prepared =>
    match handoffCall environment principal prepared false
      ⟨(run environment preparing).world, []⟩ with
    | (.ok _, _) => true
    | _ => false) &&
  match recoverIndeterminateInner environment principal actor request renewal none
      ⟨(run environment handing).world, []⟩ with
  | (.ok (.reprepared _), after) => (plannedBytes after.state.trace).all fun bytes =>
      (plannedBytes after.state.trace).all fun bytes' =>
        lengthSha256 bytes ≠ lengthSha256 bytes' || bytes = bytes'
  | _ => false

theorem evaluation_eq_true : evaluation = true := by decide +kernel

/-- The handoff returns. -/
theorem exists_handoff : ∃ prepared permit after, (run environment preparing).prepared[0]? =
    some prepared ∧
    handoffCall environment principal prepared false ⟨(run environment preparing).world, []⟩ =
      (.ok permit, after) := by
  have evaluated := ((Bool.and_eq_true _ _).mp evaluation_eq_true).1
  obtain ⟨prepared, held, handed⟩ := (Option.any_eq_true _ _).mp evaluated
  rcases ended : handoffCall environment principal prepared false
    ⟨(run environment preparing).world, []⟩ with ⟨outcome, after⟩
  rw [ended] at handed
  cases outcome with
  | ok permit => exact ⟨prepared, permit, after, held, ended⟩
  | error | crashed => cases handed

/-- The recovery prepares the next generation. -/
theorem exists_recovery : ∃ prepared after,
    recoverIndeterminateInner environment principal actor request renewal none
      ⟨(run environment handing).world, []⟩ = (.ok (.reprepared prepared), after) ∧
    Set.InjOn lengthSha256 {bytes | bytes ∈ plannedBytes after.state.trace} := by
  have evaluated := ((Bool.and_eq_true _ _).mp evaluation_eq_true).2
  rcases ended : recoverIndeterminateInner environment principal actor request renewal none
    ⟨(run environment handing).world, []⟩ with ⟨outcome, after⟩
  rw [ended] at evaluated
  cases outcome with
  | ok outcome =>
    cases outcome with
    | reprepared prepared =>
      refine ⟨prepared, after, rfl, fun bytes member bytes' member' same => ?_⟩
      have compared :=
        List.all_eq_true.mp (List.all_eq_true.mp evaluated bytes member) bytes' member'
      rcases (Bool.or_eq_true _ _).mp compared with differs | equal
      · exact absurd same (of_decide_eq_true differs)
      · exact of_decide_eq_true equal
    | verified | blocked | stillIndeterminate => cases evaluated
  | error | crashed => cases evaluated

end Activation

namespace Holdings

variable {env}

/-! ### Handoffs use live authority -/

/-- The authority of a handoff is live at the time that the store read, and was validated during
the call. -/
structure LiveAt (storeNow : Nat) (prepared : PreparedDurableAuthority sha256)
    (current : AuthorityBinding sha256) (events : Trace sha256) : Prop where
  observed : prepared.candidate.observation.freshnessAt storeNow = .current
  window : prepared.candidate.observation.observedAtUnixMs ≤ storeNow ∧
    storeNow ≤ prepared.candidate.observation.observedAtUnixMs +
      prepared.candidate.observation.validForMs ∧
    prepared.candidate.observation.observedAtUnixMs +
      prepared.candidate.observation.validForMs ≤ u64Max
  required : ∀ approvalClass reason,
    prepared.candidate.review.evaluation.decision = .requireApproval approvalClass reason →
      ∃ approval, current.authorization = .approval approval
  approved : ∀ approval, current.authorization = .approval approval →
    storeNow < approval.expiresAtUnixSeconds * 1000 ∧
    ∃ id record seconds, prepared.approvalEvidenceId = some id ∧
      .validated id prepared.candidate.review (some record) seconds (.ok .satisfied) ∈ events ∧
      approval.evidenceId = record.evidence.id ∧
      approval.expiresAtUnixSeconds = record.evidence.expiresAtUnixSeconds

theorem freshnessAt_eq_current {observation : ObservationEnvelope} {now : Nat}
    (notBefore : observation.observedAtUnixMs ≤ now)
    (notAfter : now ≤ observation.observedAtUnixMs + observation.validForMs)
    (fits : observation.observedAtUnixMs + observation.validForMs ≤ u64Max) :
    observation.freshnessAt now = .current := by
  unfold ObservationEnvelope.freshnessAt saturatingAdd
  rw [if_neg (Nat.not_lt.mpr notBefore), min_eq_left fits, if_pos notAfter]

variable (env) in
/-- What a handoff that returned did, read off the records it made. -/
theorem liveAt_of_handoffInner {principal : AuthenticatedPrincipal}
    {prepared : PreparedDurableAuthority sha256} {settings : Bool} {permit : DispatchPermit}
    {world world' : World sha256}
    (ended : Returns (handoffInner env principal prepared settings) world permit world') :
    ∃ storeNow current commit events lifecycle,
      world'.trace = .handedOff prepared.candidate.review current commit ::
        .clockRead (some storeNow) :: (events ++ world.trace) ∧
      LiveAt storeNow prepared current events ∧ current.digest = prepared.binding.digest ∧
      findLifecycle world.ledger prepared.snapshot.transactionId = some lifecycle ∧
      lifecycle.snapshot = prepared.snapshot := by
  obtain ⟨now, storeNow, current, commit, expiresAt, start, timed, bound, asked,
    mid, before, sampled,
    revalidated, quiet, sameDigest, ⟨lifecycle, found, sameSnapshot⟩, expiry, rfl, afterControl,
    beforeExpiry, midEq, -, -, -, -, rfl⟩ := (returns_handoffInner env ended).used
  have untilTimed := trans_of Quiet before ((quiet_authorityNowUnixMs env).related sampled)
  have untilBound := trans_of Quiet untilTimed quiet
  have midTrace : mid.trace = .clockRead (some storeNow) :: bound.trace := by rw [midEq]; rfl
  obtain ⟨inWindow, fits, inApproval⟩ := authorityExpiresAtUnixMs_eq_ok expiry
  have notBefore := (observedAt_le_of_recheckCandidate env revalidated.rechecked).trans afterControl
  have notAfter := beforeExpiry.trans inWindow
  obtain ⟨events, recorded, -⟩ := untilBound.records.events
  obtain ⟨consentedWorld, consented, authorized⟩ := revalidated.consented
  refine ⟨storeNow, current, commit, events, lifecycle, ?_,
    ⟨?_, ⟨notBefore, notAfter, fits⟩, ?_, ?_⟩,
    sameDigest, untilBound.ledger_eq ▸ found, sameSnapshot⟩
  · rw [World.trace_log, midTrace, recorded]
  · exact freshnessAt_eq_current notBefore notAfter fits
  · intro approvalClass reason decision
    generalize current.authorization = authorization at authorized
    cases returns_authorizationFor env authorized with
    | allowed allow none =>
      rw [decision] at allow
      cases allow
    | approved _ _ _ _ _ _ authority _ _ _ _ _ => exact ⟨authority, rfl⟩
  · intro approval rests
    refine ⟨Nat.lt_of_le_of_lt beforeExpiry (inApproval approval rests), ?_⟩
    rw [rests] at authorized
    cases returns_authorizationFor env authorized with
    | approved approvalClass reason id record sample seconds authority decision given validated
        fields _ =>
      refine ⟨id, record, seconds, given, ?_, fields.1, fields.2⟩
      -- the record was made after the call started, so it is among the new events
      obtain ⟨earlier, untilConsent, -⟩ := (trans_of Quiet untilTimed
        ((quiet_requireProtective env _ _).related consented)).records.events
      have same : events ++ world.trace = (.validated id prepared.candidate.review (some record)
          seconds (.ok .satisfied) :: .clockRead sample :: earlier) ++ world.trace := by
        rw [← recorded, validated, untilConsent]
        rfl
      rw [List.append_cancel_right same]
      exact List.mem_cons_self

/-- Along every run: a handoff that returns used authority that was live when the store read the
clock, for the binding and the state that were stored when it was prepared; and the times that
one process accepts never fall. -/
theorem run_handoff_live (env : Environment sha256) (calls : List (AuthorityCall × List Fault)) :
    (acceptedTimes (run env calls).world.trace).Pairwise (· ≥ ·) ∧
    ∀ (index : Nat) (prepared : PreparedDurableAuthority sha256)
      (principal : AuthenticatedPrincipal)
      (protective : Bool) (faults : List Fault) (permit : DispatchPermit)
      (after : Faulty (World sha256)),
      (run env calls).prepared[index]? = some prepared →
      handoffCall env principal prepared protective ⟨(run env calls).world, faults⟩ =
        (.ok permit, after) →
      ∃ storeNow current commit events lifecycle,
        after.state.trace = .handedOff prepared.candidate.review current commit ::
          .clockRead (some storeNow) :: (events ++ (run env calls).world.trace) ∧
        LiveAt storeNow prepared current events ∧
        current.digest = prepared.binding.digest ∧
        prepared.snapshot.bindingDigest = prepared.binding.digest ∧
        findLifecycle (run env calls).world.ledger prepared.snapshot.transactionId =
          some lifecycle ∧
        lifecycle.snapshot = prepared.snapshot := by
  have sound := sound_run env calls
  refine ⟨sound.world.sorted, fun index prepared principal protective faults permit
    after held ended => ?_⟩
  have stored := sound.prepared prepared (List.mem_of_getElem? held)
  have returned : Returns (handoffCall env principal prepared protective)
    (run env calls).world permit
      after.state := ⟨faults, after.faults, ended⟩
  unfold handoffCall at returned
  split at returned
  · -- what validating the protective candidate records comes before the handoff itself
    obtain ⟨_, mid, validated, handed⟩ := returned.bind
    have quiet := (quiet_validateProtectiveNow env _).related validated
    obtain ⟨earlier, trace, -⟩ := quiet.records.events
    obtain ⟨storeNow, current, commit, events, lifecycle, recorded, live, digest, found, view⟩ :=
      liveAt_of_handoffInner env handed
    refine ⟨storeNow, current, commit, events ++ earlier, lifecycle, ?_, ?_,
      digest, stored, ?_, view⟩
    · rw [recorded, trace, List.append_assoc]
    · refine ⟨live.observed, live.window, live.required, fun approval rests => ?_⟩
      obtain ⟨unexpired, id, record, seconds, given, member, fields⟩ := live.approved approval rests
      exact ⟨unexpired, id, record, seconds, given, List.mem_append_left _ member, fields⟩
    · exact quiet.ledger_eq ▸ found
  · obtain ⟨storeNow, current, commit, events, lifecycle, recorded, live, digest, found, view⟩ :=
      liveAt_of_handoffInner env returned
    exact ⟨storeNow, current, commit, events, lifecycle, recorded, live, digest,
      stored, found, view⟩

/-- The handoff of the activation was live. -/
theorem run_handoff_live_activation :
    ∃ prepared permit after, (run Activation.environment Activation.preparing).prepared[0]? =
      some prepared ∧
      handoffCall Activation.environment Activation.principal prepared false
        ⟨(run Activation.environment Activation.preparing).world, []⟩ = (.ok permit, after) ∧
      ∃ storeNow current events, LiveAt storeNow prepared current events := by
  obtain ⟨prepared, permit, after, held, ended⟩ := Activation.exists_handoff
  obtain ⟨storeNow, current, commit, events, lifecycle, -, live, -⟩ :=
    (run_handoff_live Activation.environment Activation.preparing).2 0 prepared Activation.principal
      false [] permit after held ended
  exact ⟨prepared, permit, after, held, ended, storeNow, current, events, live⟩

/-! ### Recovery compares values -/

/-- Along every run: a recovery that returns has planned anew from the transaction of its request,
which was handed off.  If it prepared the next generation, the fresh observation agrees on every
desired attribute with each observation from which the transaction's request and precondition were
planned, and there is one; if it found the transaction verified, the fresh observation has every
desired value.  SHA-256 does not collide on what was hashed for the plans. -/
theorem run_recovery_agrees (env : Environment sha256) (calls : List (AuthorityCall × List Fault))
    (principal : AuthenticatedPrincipal) (actor : Actor) (request : PlanDesiredStateRequest)
    (approval : RecoveryApproval) (floor : Option TrustedRiskFloor) (faults : List Fault)
    (outcome : DurableRecoveryOutcome sha256) (after : Faulty (World sha256))
    (ended : recoverIndeterminateInner env principal actor request approval floor
      ⟨(run env calls).world, faults⟩ = (.ok outcome, after))
    (collisionFree : Set.InjOn sha256 {bytes | bytes ∈ plannedBytes after.state.trace}) :
    ∃ lifecycle observation plan events,
      Anchored principal request (run env calls).world lifecycle ∧
      after.state.trace = events ++ (run env calls).world.trace ∧
      .planned request observation plan ∈ events ∧
      (∀ prepared, outcome = .reprepared prepared →
        Sealed (run env calls).world.trace (bindingGrounds lifecycle.binding) ∧
        ∀ request₀ observation₀ plan₀,
          .planned request₀ observation₀ plan₀ ∈ (run env calls).world.trace →
          digestRequest sha256 request₀ = .ok lifecycle.binding.requestDigest →
          digestPlanPrecondition sha256 plan₀ = .ok lifecycle.binding.preconditionDigest →
          plan₀.status = .changeProposed →
          ∀ key value, request.desiredState.get? key = some value →
            ∃ current, observation₀.attributes.get? key = some current ∧
              observation.attributes.get? key = some current) ∧
      (∀ authority, outcome = .verified authority →
        ∀ key value, request.desiredState.get? key = some value →
          observation.attributes.get? key = some value) := by
  have sound := (sound_run env calls).world
  obtain ⟨lifecycle, plan, mid, recovered⟩ :=
    returns_recoverIndeterminateInner env ⟨faults, after.faults, ended⟩
  obtain ⟨observation, earlier, newest, ⟨early, untilPlanned⟩, under⟩ := recovered.planned.recorded
  obtain ⟨late, untilEnd, -⟩ := recovered.after.records.events
  have inAfter : .planned request observation plan ∈ after.state.trace := by
    rw [untilEnd, newest]
    exact List.mem_append_right _ List.mem_cons_self
  refine ⟨lifecycle, observation, plan, late ++ .planned request observation plan :: early,
    recovered.anchored, ?_, List.mem_append_right _ List.mem_cons_self, ?_, ?_⟩
  · rw [untilEnd, newest, ← untilPlanned, List.append_assoc, List.cons_append]
  · rintro prepared rfl
    obtain ⟨made, samePlan, -, precondition, -⟩ := recovered.reprepared prepared rfl
    obtain ⟨principalId, -, found⟩ := recovered.anchored.found
    refine ⟨sound.grounds lifecycle (List.mem_of_find?_eq_some found), ?_⟩
    intro request₀ observation₀ plan₀ recorded digest₀ precondition₀ proposed key value wanted
    have inAfter₀ : .planned request₀ observation₀ plan₀ ∈ after.state.trace := by
      rw [untilEnd, newest, ← untilPlanned]
      exact List.mem_append_right _ (List.mem_cons_of_mem _ (List.mem_append_right _ recorded))
    obtain ⟨hashed, hashedPrecondition⟩ := mem_plannedBytes inAfter
    obtain ⟨hashed₀, hashedPrecondition₀⟩ := mem_plannedBytes inAfter₀
    -- the digests are equal, so the requests are, and the plans start from the same values
    cases eq_of_digestRequest_eq digest₀ recovered.anchored.requestDigest
      (collisionFree hashed₀ hashed)
    have same := currents_eq_of_digestPlanPrecondition_eq precondition₀ precondition
      (collisionFree hashedPrecondition₀ hashedPrecondition)
    have under₀ := sound.planned request observation₀ plan₀ recorded
    have agree := under₀.agree under same wanted
    obtain ⟨current, present⟩ := under₀.observed (by rw [proposed]; decide) key value wanted
    exact ⟨current, present, agree ▸ present⟩
  · rintro authority rfl key value wanted
    exact under.satisfied (recovered.verified authority rfl).1 wanted

/-- The recovery of the activation observed the unit as it was planned before. -/
theorem run_recovery_agrees_activation :
    ∃ prepared after, recoverIndeterminateInner Activation.environment Activation.principal
        Activation.actor Activation.request Activation.renewal none
        ⟨(run Activation.environment Activation.handing).world, []⟩ =
          (.ok (.reprepared prepared), after) ∧
      ∃ (observation₀ observation : PlanningObservation) (current : String),
        observation₀.attributes.get? "active_state" = some current ∧
        observation.attributes.get? "active_state" = some current := by
  obtain ⟨prepared, after, ended, collisionFree⟩ := Activation.exists_recovery
  obtain ⟨lifecycle, observation, plan, events, -, -, -, reprepared, -⟩ :=
    run_recovery_agrees Activation.environment Activation.handing
      Activation.principal Activation.actor
      Activation.request Activation.renewal none [] _ after ended collisionFree
  obtain ⟨⟨request₀, observation₀, plan₀, member, proposed, digest, precondition⟩, agree⟩ :=
    reprepared prepared rfl
  obtain ⟨current, before, fresh⟩ := agree request₀ observation₀ plan₀ member digest precondition
    proposed "active_state" "active" (by decide)
  exact ⟨prepared, after, ended, observation₀, observation, current, before, fresh⟩

end Holdings

end Linura.Control
