import Linura.Provisioning.Calls

/-!
# Calls on a ledger that its anchor accepts

If the anchor accepts the state of the ledger, then opening succeeds unless there are faults, and so
does every commit of a coordinator that knows this state.  A commit that is cut short leaves the
ledger with the old state, with the new one, or with the new one before it is synced, and in each
case an anchor that accepts whatever the ledger holds.

All this is said of an anchor in a given modality: of the anchor that is seen, which is enough as
long as there is no power loss, or of every anchor that a power loss may leave.
-/

namespace Linura.Bootstrap

open Linura.Lib Linura.Transaction
open Program (Triple Completes)

variable {sha256 : Sha256} {state candidate : DurableBootstrapState}
variable {K : (Option Bytes → Prop) → Disk (Option Bytes) → Prop}

/-! ### The anchor during a commit -/

section Anchor

variable {ledger : Disk (Option LedgerFile)} {coordinator : DurableBootstrapCoordinator}
variable {inFlight : Option DurableBootstrapState}

/-- The ledger is read, surely if nothing fails. -/
theorem completes_load {found : Option DurableBootstrapState} {K : Disk (Option Bytes) → Prop}
    (read : readLedger sha256 ledger.visible = .ok found) :
    Completes True (Anchored ledger coordinator inFlight K)
      (load sha256)
      (fun value world => (Frame ledger coordinator inFlight world ∧ K world.anchor) ∧
        value = found)
      (Anchored ledger coordinator inFlight K) := by
  apply (Completes.access fun _ => id).bind
  intro _
  apply Completes.query
  · intro world holds
    refine ⟨found, ?_, holds, rfl⟩
    rw [holds.1.1, read]
  · exact fun _ => id

theorem completes_generation {file : LedgerFile} {K : Disk (Option Bytes) → Prop}
    (seen : ledger.visible = some file) :
    Completes True (Anchored ledger coordinator inFlight K)
      (generation state)
      (fun value world => (Frame ledger coordinator inFlight world ∧ K world.anchor) ∧
        value = ⟨state.generation, file.identity, file.bytes.length⟩)
      (Anchored ledger coordinator inFlight K) := by
  apply (Completes.access fun _ => id).bind
  intro _
  apply Completes.query
  · intro world holds
    rw [holds.1.1, seen]
    exact ⟨_, rfl, holds, rfl⟩
  · exact fun _ => id

/-- Staging a candidate. -/
theorem completes_stage (modal : Disk.Modality K)
    (next : candidate.generation = state.generation + 1)
    (within : candidate.generation < 2 ^ 64) :
    Completes True
      (Anchored ledger coordinator inFlight (K (Accepted sha256 state)))
      (stageGenerationAnchor sha256 state candidate)
      (fun _ => Anchored ledger coordinator inFlight
        (K (fun anchor => anchor = some (pendingText sha256 state candidate))))
      (Anchored ledger coordinator inFlight (K (Accepted sha256 state))) := by
  have within' : state.generation < 2 ^ 64 := by omega
  have valid : (pendingAnchor sha256 state candidate).Valid := valid_pendingAnchor next within
  unfold stageGenerationAnchor
  apply (completes_reconcile within' (lasting_of_modality modal within')).bind
  intro _
  refine .bind_ok (withPending_of_next next within) ?_
  -- Until the anchor is synced, both the old one and the new one accept the state.
  apply (completes_persistGenerationAnchorRecord valid (E := K (Accepted sha256 state)) ?_
    (fun _ => id) fun disk (holds : K (Accepted sha256 state) disk ∧
      disk.visible = some (pendingText sha256 state candidate)) => holds.1).consequence
  · exact fun _ => id
  · rintro _ world ⟨frame, disk, ⟨-, seen⟩, synced⟩
    exact ⟨frame, synced ▸ modal.sync seen⟩
  · exact fun _ => id
  · exact fun disk holds =>
      ⟨modal.replace holds (accepted_pending_current next within), Disk.visible_change⟩

/-- Finalizing a staged candidate. -/
theorem completes_finalize (modal : Disk.Modality K)
    (next : candidate.generation = state.generation + 1)
    (within : candidate.generation < 2 ^ 64) :
    Completes True
      (Anchored ledger coordinator inFlight
        (K (fun anchor => anchor = some (pendingText sha256 state candidate))))
      (finalizeGenerationAnchor sha256 candidate)
      (fun _ => Anchored ledger coordinator inFlight (K (Accepted sha256 candidate)))
      (Anchored ledger coordinator inFlight (K (Accepted sha256 candidate))) := by
  have accepts : ∀ disk, K (fun anchor => anchor = some (pendingText sha256 state candidate)) disk →
      K (Accepted sha256 candidate) disk := by
    intro disk staged
    apply modal.mono staged
    rintro _ rfl
    exact accepted_pending_candidate next within
  unfold finalizeGenerationAnchor
  apply Completes.bind (Q := fun found world =>
    Anchored ledger coordinator inFlight (K (Accepted sha256 candidate)) world ∧
      found = some (pendingAnchor sha256 state candidate))
  · apply (Completes.access fun world holds => ⟨holds.1, accepts _ holds.2⟩).bind
    intro _
    apply Completes.query
    · intro world holds
      refine ⟨some (pendingAnchor sha256 state candidate), ?_, ⟨holds.1, accepts _ holds.2⟩, rfl⟩
      rw [modal.visible holds.2]
      exact readAnchor_serialize (valid_pendingAnchor next within)
    · exact fun world holds => ⟨holds.1, accepts _ holds.2⟩
  intro found
  apply Completes.assume
  rintro rfl
  have stages : (pendingAnchor sha256 state candidate).stages sha256 candidate = true :=
    stages_iff.mpr ⟨rfl, rfl⟩
  dsimp only
  rw [if_pos stages]
  exact completes_persist_committed within (lasting_of_modality modal within)

end Anchor

/-! ### A commit -/

/-- The two files after a commit that was cut short: the ledger has the old state, the new one that
may not last, or the new one. -/
inductive Torn (sha256 : Sha256) (K : (Option Bytes → Prop) → Disk (Option Bytes) → Prop)
    (state candidate : DurableBootstrapState) (ledger : Disk (Option LedgerFile))
    (file : LedgerFile) :
    Disk (Option LedgerFile) → Disk (Option Bytes) → Prop
  | before {anchor : Disk (Option Bytes)} (accepted : K (Accepted sha256 state) anchor) :
      Torn sha256 K state candidate ledger file ledger anchor
  | between {anchor : Disk (Option Bytes)}
      (staged : K (fun anchor => anchor = some (pendingText sha256 state candidate)) anchor) :
      Torn sha256 K state candidate ledger file (written ledger file) anchor
  | after {anchor : Disk (Option Bytes)} (accepted : K (Accepted sha256 candidate) anchor) :
      Torn sha256 K state candidate ledger file (written ledger file).sync anchor

section Commit

variable {ledger : Disk (Option LedgerFile)} {coordinator : DurableBootstrapCoordinator}
variable {inFlight : Option DurableBootstrapState} {file : LedgerFile} {identity : FileIdentity}

/-- The candidate was noted, the coordinator knows the same state, and the files may be torn. -/
def TornWorld (sha256 : Sha256) (K : (Option Bytes → Prop) → Disk (Option Bytes) → Prop)
    (known state candidate : DurableBootstrapState) (ledger : Disk (Option LedgerFile))
    (file : LedgerFile) (world : World) : Prop :=
  world.coordinator.state = known ∧ world.inFlight = some candidate ∧
    Torn sha256 K state candidate ledger file world.ledger world.anchor

theorem tornWorld_before {world : World}
    (holds : Frame ledger coordinator (some candidate) world ∧
      K (Accepted sha256 state) world.anchor) :
    TornWorld sha256 K coordinator.state state candidate ledger file world := by
  obtain ⟨⟨same, knows, noted⟩, accepted⟩ := holds
  exact ⟨congrArg _ knows, noted, same ▸ .before accepted⟩

theorem tornWorld_after {world : World}
    (holds : Frame (written ledger file).sync coordinator (some candidate) world ∧
      K (Accepted sha256 candidate) world.anchor) :
    TornWorld sha256 K coordinator.state state candidate ledger file world := by
  obtain ⟨⟨same, knows, noted⟩, accepted⟩ := holds
  exact ⟨congrArg _ knows, noted, same ▸ .after accepted⟩

/-- Replacing the ledger when the candidate is staged. -/
theorem completes_replaceLedger (modal : Disk.Modality K)
    (next : candidate.generation = state.generation + 1) (within : candidate.generation < 2 ^ 64)
    {sure : Prop} (short : sure → file.bytes.length ≤ maxBootstrapStateBytes) :
    Completes sure
      (fun world => Frame ledger coordinator (some candidate) world ∧
        K (fun anchor => anchor = some (pendingText sha256 state candidate)) world.anchor)
      (replaceLedger file)
      (fun _ world => Frame (written ledger file).sync coordinator (some candidate) world ∧
        K (fun anchor => anchor = some (pendingText sha256 state candidate)) world.anchor)
      (TornWorld sha256 K coordinator.state state candidate ledger file) := by
  have early : ∀ world, Frame ledger coordinator (some candidate) world ∧
      K (fun anchor => anchor = some (pendingText sha256 state candidate)) world.anchor →
      TornWorld sha256 K coordinator.state state candidate ledger file world := by
    intro world holds
    apply tornWorld_before ⟨holds.1, modal.mono holds.2 ?_⟩
    rintro _ rfl
    exact accepted_pending_current next within
  unfold replaceLedger atomicWrite
  refine .bind_lift (fun certain => ⟨(), demand_eq_ok.mpr (short certain)⟩) early fun _ _ => ?_
  apply completes_replaceFile (R := fun world =>
    Frame (written ledger file) coordinator (some candidate) world ∧
      K (fun anchor => anchor = some (pendingText sha256 state candidate)) world.anchor)
  · exact early
  · rintro world ⟨⟨same, rest⟩, staged⟩
    exact ⟨⟨congrArg (written · file) same, rest⟩, staged⟩
  · rintro world ⟨⟨same, knows, noted⟩, staged⟩
    exact ⟨congrArg _ knows, noted, same ▸ .between staged⟩
  · rintro world ⟨⟨same, rest⟩, staged⟩
    exact ⟨⟨congrArg Disk.sync same, rest⟩, staged⟩

/-- A commit of the next state. -/
theorem completes_writeCandidate (modal : Disk.Modality K)
    (next : candidate.generation = state.generation + 1) (within : candidate.generation < 2 ^ 64)
    {sure : Prop}
    (short : sure → (stateFile sha256 candidate identity).bytes.length ≤ maxBootstrapStateBytes) :
    Completes sure
      (Anchored ledger coordinator inFlight (K (Accepted sha256 state)))
      (writeCandidate sha256 state candidate identity)
      (fun _ world => Frame (written ledger (stateFile sha256 candidate identity)).sync
          (committedCoordinator coordinator candidate (stateFile sha256 candidate identity))
          (some candidate) world ∧ K (Accepted sha256 candidate) world.anchor)
      (TornWorld sha256 K coordinator.state state candidate ledger
        (stateFile sha256 candidate identity)) := by
  unfold writeCandidate persist
  generalize stateFile sha256 candidate identity = file at short ⊢
  apply Completes.bind (Q := fun _ world =>
    Frame ledger coordinator (some candidate) world ∧ K (Accepted sha256 state) world.anchor)
  · exact .modify fun world holds => ⟨⟨holds.1.1, holds.1.2.1, rfl⟩, holds.2⟩
  intro _
  apply Completes.bind (Q := fun _ world =>
    Frame ledger coordinator (some candidate) world ∧
      K (fun anchor => anchor = some (pendingText sha256 state candidate)) world.anchor)
  · exact (completes_stage modal next within).of_true.weaken fun _ => tornWorld_before
  intro _
  have torn : ∀ text world, TornWorld sha256 K coordinator.state state candidate ledger file world →
      TornWorld sha256 K coordinator.state state candidate ledger file (.poison text world) :=
    fun _ _ => id
  apply ((completes_replaceLedger modal next within short).handle
    (triple_handlePersistFailure torn) fun _ => id).bind
  intro _
  apply (completes_orUncertain torn
    ((completes_finalize modal next within).of_true.weaken fun _ => tornWorld_after)).bind
  intro _
  apply (completes_orUncertain torn ((completes_reconcile within
    (lasting_of_modality modal within)).of_true.weaken fun _ => tornWorld_after)).bind
  intro _
  have seen : (written ledger file).sync.visible = some file := visible_written _ _
  apply (completes_orUncertain torn
    ((completes_generation seen).of_true.weaken fun _ => tornWorld_after)).bind_assume
  rintro _ rfl
  apply Completes.modify
  rintro world ⟨⟨same, knows, noted⟩, accepted⟩
  refine ⟨⟨same, ?_, noted⟩, accepted⟩
  rw [World.adopt, knows]
  rfl

end Commit

theorem DurableBootstrapState.Valid.validate (valid : state.Valid) : state.validate = .ok () :=
  DurableBootstrapState.validate_eq_ok.mpr valid

/-! ### Opening -/

/-- The state of a new ledger. -/
def DurableBootstrapState.fresh (sessionId machineId : String) : DurableBootstrapState :=
  ⟨0, sessionId, machineId, [], [], none, {}⟩

/-- A fresh state is readable. -/
theorem readable_fresh {sessionId machineId : String} (session : isIdentifier sessionId = true)
    (machine : isIdentifier machineId = true) :
    (DurableBootstrapState.fresh sessionId machineId).Readable := by
  have unsettled : ∀ stage, (DurableBootstrapState.fresh sessionId machineId).Settled stage false :=
    fun stage =>
      ⟨nofun,
      fun past => by simp [DurableBootstrapState.isPast, DurableBootstrapState.fresh] at past⟩
  constructor
  · refine ⟨rfl, .nil, nofun, unsettled _, unsettled _, unsettled _, session, machine, ?_⟩
    have passes : ({} : ProvisioningState).validate = .ok () := by decide
    exact ProvisioningState.validate_eq_ok.mp passes
  · refine ⟨Nat.two_pow_pos 64, nofun, ?_⟩
    exact ⟨rfl, nofun, nofun, nofun, nofun, nofun, nofun, nofun, Nat.two_pow_pos 64⟩
  · exact ⟨nofun, nofun, nofun⟩

theorem new_eq_fresh {sessionId machineId : String} (session : isIdentifier sessionId = true)
    (machine : isIdentifier machineId = true) :
    DurableBootstrapState.new sessionId machineId = .ok (.fresh sessionId machineId) :=
  new_eq_ok.mpr ⟨session, machine, (readable_fresh session machine).valid, rfl⟩

section Opening

variable {ledger : Disk (Option LedgerFile)} {coordinator : DurableBootstrapCoordinator}
variable {inFlight : Option DurableBootstrapState} {identity : FileIdentity}
    {sessionId machineId : String}

/-- Opening a ledger that holds a state. -/
theorem completes_openFound (modal : Disk.Modality K) {file : LedgerFile}
    (seen : ledger.visible = some file) (read : readLedger sha256 (some file) = .ok (some state))
    (valid : state.Valid) :
    Completes (state.sessionId = sessionId ∧ state.machineId = machineId)
      (Anchored ledger coordinator inFlight (K (Accepted sha256 state)))
      (openCoordinator sha256 sessionId machineId identity)
      (fun opened world =>
        Anchored ledger coordinator inFlight (K (Accepted sha256 state)) world ∧
        opened = ⟨state, ⟨state.generation, file.identity, file.bytes.length⟩, none⟩)
      (Anchored ledger coordinator inFlight (K (Accepted sha256 state))) := by
  have read' : readLedger sha256 ledger.visible = .ok (some state) := by rw [seen, read]
  have within : state.generation < 2 ^ 64 := generation_lt_of_readLedger read'
  unfold openCoordinator openState
  refine .bind_lift ?_ (fun _ => id) fun _ named => ?_
  · rintro ⟨rfl, -⟩
    exact ⟨_, normalizeIdentifier_eq_ok.mpr ⟨valid.session, rfl⟩⟩
  obtain ⟨-, rfl⟩ := normalizeIdentifier_eq_ok.mp named
  refine .bind_lift ?_ (fun _ => id) fun _ named => ?_
  · rintro ⟨-, rfl⟩
    exact ⟨_, normalizeIdentifier_eq_ok.mpr ⟨valid.machine, rfl⟩⟩
  obtain ⟨-, rfl⟩ := normalizeIdentifier_eq_ok.mp named
  apply (Completes.access fun _ => id).bind
  intro _
  refine .bind_assume (M := Anchored ledger coordinator inFlight (K (Accepted sha256 state)))
    (φ := fun value => state = value) ?_ ?_
  · apply (completes_load read').of_true.bind_assume
    rintro _ rfl
    refine .bind_lift (fun bound => ⟨(), demand_eq_ok.mpr bound⟩) (fun _ => id) fun _ _ => ?_
    apply (completes_reconcile within (lasting_of_modality modal within)).of_true.bind
    intro _
    exact .pure fun _ holds => ⟨holds, rfl⟩
  rintro _ rfl
  refine .bind_ok valid.validate ?_
  apply (completes_generation seen).of_true.bind_assume
  rintro _ rfl
  exact .pure fun _ holds => ⟨holds, rfl⟩

/-- The two files after the creation of a ledger was cut short. -/
inductive TornCreation (sha256 : Sha256) (K : (Option Bytes → Prop) → Disk (Option Bytes) → Prop)
    (state : DurableBootstrapState) (ledger : Disk (Option LedgerFile)) (file : LedgerFile) :
    Disk (Option LedgerFile) → Disk (Option Bytes) → Prop
  | before {anchor : Disk (Option Bytes)} (absent : K (fun anchor => anchor = none) anchor) :
      TornCreation sha256 K state ledger file ledger anchor
  | between {anchor : Disk (Option Bytes)} (absent : K (fun anchor => anchor = none) anchor) :
      TornCreation sha256 K state ledger file (written ledger file) anchor
  | after {anchor : Disk (Option Bytes)} (accepted : K (Accepted sha256 state) anchor) :
      TornCreation sha256 K state ledger file (written ledger file).sync anchor

/-- What is known if opening is cut short. -/
def TornOpening (sha256 : Sha256) (K : (Option Bytes → Prop) → Disk (Option Bytes) → Prop)
    (sessionId machineId : String) (identity : FileIdentity) (ledger : Disk (Option LedgerFile))
    (inFlight : Option DurableBootstrapState) (world : World) : Prop :=
  world.inFlight = inFlight ∧
    ((world.ledger = ledger ∧ K (fun anchor => anchor = none) world.anchor) ∨
    (isIdentifier sessionId = true ∧ isIdentifier machineId = true ∧
      TornCreation sha256 K (.fresh sessionId machineId) ledger
        (stateFile sha256 (.fresh sessionId machineId) identity) world.ledger world.anchor))

/-- Writing a new ledger and its anchor. -/
theorem completes_openState_created (modal : Disk.Modality K) (missing : ledger.visible = none)
    (session : isIdentifier sessionId = true) (machine : isIdentifier machineId = true) :
    Completes True
      (Anchored ledger coordinator inFlight (K (fun anchor => anchor = none)))
      (openState sha256 sessionId machineId identity)
      (fun value world =>
        (Frame
          (written ledger (stateFile sha256 (.fresh sessionId machineId) identity)).sync coordinator
          inFlight world ∧ K (Accepted sha256 (.fresh sessionId machineId)) world.anchor) ∧
        DurableBootstrapState.fresh sessionId machineId = value)
      (TornOpening sha256 K sessionId machineId identity ledger inFlight) := by
  have early : ∀ world, Frame ledger coordinator inFlight world ∧
      K (fun anchor => anchor = none) world.anchor →
      TornOpening sha256 K sessionId machineId identity ledger inFlight world :=
    fun world holds => ⟨holds.1.2.2, .inl ⟨holds.1.1, holds.2⟩⟩
  have read : readLedger sha256 ledger.visible = .ok none := by
    rw [missing]
    rfl
  have readable := readable_fresh session machine
  have within : (DurableBootstrapState.fresh sessionId machineId).generation < 2 ^ 64 :=
    readable.encodable.generation
  have short : (stateFile sha256 (.fresh sessionId machineId) identity).bytes.length ≤
      maxBootstrapStateBytes := readable.short identity
  unfold TornOpening at early ⊢
  unfold openState persist
  apply ((completes_load read).weaken early).bind_assume
  rintro _ rfl
  refine .bind_ok (new_eq_fresh session machine) ?_
  generalize stateFile sha256 (.fresh sessionId machineId) identity = file at early short ⊢
  have accepts : ∀ disk, K (fun anchor => anchor = none) disk →
      K (Accepted sha256 (.fresh sessionId machineId)) disk := by
    intro disk absent
    apply modal.mono absent
    rintro _ rfl
    exact ⟨none, rfl, rfl⟩
  apply Completes.bind (Q := fun _ world =>
    Frame (written ledger file).sync coordinator inFlight world ∧
      K (Accepted sha256 (.fresh sessionId machineId)) world.anchor)
  · apply completes_atomicWrite (R := fun world =>
      Frame (written ledger file) coordinator inFlight world ∧
        K (fun anchor => anchor = none) world.anchor) short
    · exact early
    · rintro world ⟨⟨same, rest⟩, absent⟩
      exact ⟨⟨congrArg (written · file) same, rest⟩, absent⟩
    · rintro world ⟨⟨same, -, noted⟩, absent⟩
      exact ⟨noted, .inr ⟨session, machine, same ▸ .between absent⟩⟩
    · rintro world ⟨⟨same, rest⟩, absent⟩
      exact ⟨⟨congrArg Disk.sync same, rest⟩, accepts _ absent⟩
  intro _
  have late : ∀ world, Frame (written ledger file).sync coordinator inFlight world ∧
      K (Accepted sha256 (.fresh sessionId machineId)) world.anchor →
      world.inFlight = inFlight ∧
      ((world.ledger = ledger ∧ K (fun anchor => anchor = none) world.anchor) ∨
        (isIdentifier sessionId = true ∧ isIdentifier machineId = true ∧
          TornCreation sha256 K (.fresh sessionId machineId) ledger file world.ledger
            world.anchor)) := by
    rintro world ⟨⟨same, -, noted⟩, accepted⟩
    exact ⟨noted, .inr ⟨session, machine, same ▸ .after accepted⟩⟩
  apply ((completes_reconcile within (lasting_of_modality modal within)).weaken late).bind
  intro _
  exact .pure fun _ holds => ⟨holds, rfl⟩

/-- Opening where there is no ledger. -/
theorem completes_openCreated (modal : Disk.Modality K) (missing : ledger.visible = none) :
    Completes (isIdentifier sessionId = true ∧ isIdentifier machineId = true)
      (Anchored ledger coordinator inFlight (K (fun anchor => anchor = none)))
      (openCoordinator sha256 sessionId machineId identity)
      (fun opened world => world.inFlight = inFlight ∧
        K (Accepted sha256 opened.state) world.anchor ∧
        world.ledger = (written ledger (stateFile sha256 opened.state identity)).sync ∧
        opened.state = .fresh sessionId machineId ∧
        isIdentifier sessionId = true ∧ isIdentifier machineId = true)
      (TornOpening sha256 K sessionId machineId identity ledger inFlight) := by
  have early : ∀ world, Frame ledger coordinator inFlight world ∧
      K (fun anchor => anchor = none) world.anchor →
      TornOpening sha256 K sessionId machineId identity ledger inFlight world :=
    fun world holds => ⟨holds.1.2.2, .inl ⟨holds.1.1, holds.2⟩⟩
  unfold openCoordinator
  refine .bind_lift (fun certain => ⟨_, normalizeIdentifier_eq_ok.mpr ⟨certain.1, rfl⟩⟩) early
    fun _ named => ?_
  obtain ⟨session, rfl⟩ := normalizeIdentifier_eq_ok.mp named
  refine .bind_lift (fun certain => ⟨_, normalizeIdentifier_eq_ok.mpr ⟨certain.2, rfl⟩⟩) early
    fun _ named => ?_
  obtain ⟨machine, rfl⟩ := normalizeIdentifier_eq_ok.mp named
  have readable := readable_fresh session machine
  apply (Completes.access early).bind
  intro _
  apply (completes_openState_created modal missing session machine).of_true.bind_assume
  rintro _ rfl
  have late : ∀ world,
      Frame
        (written ledger (stateFile sha256 (.fresh sessionId machineId) identity)).sync coordinator
        inFlight world ∧ K (Accepted sha256 (.fresh sessionId machineId)) world.anchor →
      TornOpening sha256 K sessionId machineId identity ledger inFlight world := by
    rintro world ⟨⟨same, -, noted⟩, accepted⟩
    exact ⟨noted, .inr ⟨session, machine, same ▸ .after accepted⟩⟩
  refine .bind_ok readable.valid.validate ?_
  have seen :
    (written ledger (stateFile sha256 (.fresh sessionId machineId) identity)).sync.visible =
      some (stateFile sha256 (.fresh sessionId machineId) identity) := visible_written _ _
  apply ((completes_generation seen).of_true.weaken late).bind
  intro _
  apply Completes.pure
  rintro world ⟨⟨⟨same, -, noted⟩, accepted⟩, -⟩
  exact ⟨noted, accepted, same, rfl, session, machine⟩

end Opening

/-! ### Calls -/

section Calls

variable {world : World} {file : LedgerFile} {identity : FileIdentity} {clock : ClockSamples}
variable {call : BootstrapCall}

/-- A call of a coordinator that knows the ledger as it is, with a candidate that can be written. -/
structure Ready (sha256 : Sha256) (clock : ClockSamples) (world : World) (file : LedgerFile)
    (call : BootstrapCall) (candidate : DurableBootstrapState) : Prop where
  usable : world.coordinator.durabilityUncertain = none
  known : readLedger sha256 (some file) = .ok (some world.coordinator.state)
  observed : world.coordinator.storeGeneration =
    ⟨world.coordinator.state.generation, file.identity, file.bytes.length⟩
  computed : world.coordinator.state.candidate sha256 clock call = .ok candidate
  valid : candidate.Valid
  within : world.coordinator.state.generation + 1 < 2 ^ 64
  validNext : (candidate.withGeneration (world.coordinator.state.generation + 1)).Valid
  short : ∀ identity,
    (stateFile sha256 (candidate.withGeneration (world.coordinator.state.generation + 1))
    identity).bytes.length ≤ maxBootstrapStateBytes

/-- The files after a call that failed: as before, or torn by a commit. -/
def Interrupted (sha256 : Sha256) (K : (Option Bytes → Prop) → Disk (Option Bytes) → Prop)
    (clock : ClockSamples) (call : BootstrapCall) (identity : FileIdentity)
    (state : DurableBootstrapState)
    (world world' : World) : Prop :=
  (world'.ledger = world.ledger ∧ K (Accepted sha256 state) world'.anchor ∧
      world'.inFlight = world.inFlight ∧ world'.coordinator.state = world.coordinator.state) ∨
    ∃ next, Commits sha256 clock world call next ∧
      TornWorld sha256 K world.coordinator.state state next world.ledger
        (stateFile sha256 next identity) world'

/-- A call on a ledger whose state the anchor accepts. -/
theorem completes_perform (modal : Disk.Modality K) (world : World) (call : BootstrapCall)
    (identity : FileIdentity) (clock : ClockSamples) (seen : world.ledger.visible = some file)
    (read : readLedger sha256 (some file) = .ok (some state)) :
    Completes (∃ candidate, Ready sha256 clock world file call candidate)
      (fun world' => Frame world.ledger world.coordinator world.inFlight world' ∧
        K (Accepted sha256 state) world'.anchor)
      (perform sha256 call identity clock)
      (fun _ world' => Commits sha256 clock world call world'.coordinator.state ∧
        Frame (written world.ledger (stateFile sha256 world'.coordinator.state identity)).sync
          (committedCoordinator world.coordinator world'.coordinator.state
            (stateFile sha256 world'.coordinator.state identity))
              (some world'.coordinator.state) world' ∧
        K (Accepted sha256 world'.coordinator.state) world'.anchor)
      (Interrupted sha256 K clock call identity state world) := by
  have read' : readLedger sha256 world.ledger.visible = .ok (some state) := by rw [seen, read]
  have within : state.generation < 2 ^ 64 := generation_lt_of_readLedger read'
  have early : ∀ world', Frame world.ledger world.coordinator world.inFlight world' ∧
      K (Accepted sha256 state) world'.anchor →
      Interrupted sha256 K clock call identity state world world' := by
    rintro world' ⟨⟨ledger, coordinator, noted⟩, accepted⟩
    exact .inl ⟨ledger, accepted, noted, congrArg _ coordinator⟩
  unfold perform commit loadCommitted
  apply Completes.bind (Q := fun candidate world' =>
    (Frame world.ledger world.coordinator world.inFlight world' ∧
      K (Accepted sha256 state) world'.anchor) ∧
      world.coordinator.state.candidate sha256 clock call = .ok candidate)
  · apply Completes.ask
    · intro world' candidate holds computed
      rw [holds.1.2.1] at computed
      exact ⟨holds, computed⟩
    · rintro ⟨candidate, ready⟩ world' holds
      rw [holds.1.2.1]
      exact ⟨candidate, ready.computed⟩
    · exact early
  intro candidate
  apply Completes.assume
  intro computed
  have same : ∀ {candidate'}, Ready sha256 clock world file call candidate' →
      candidate' = candidate := by
    intro candidate' ready
    have both := ready.computed
    rw [computed] at both
    exact (Except.ok.inj both).symm
  apply Completes.bind (Q := fun _ world' =>
    (Frame world.ledger world.coordinator world.inFlight world' ∧
      K (Accepted sha256 state) world'.anchor) ∧
      world.coordinator.durabilityUncertain = none)
  · apply Completes.ask
    · intro world' _ holds usable
      rw [holds.1.2.1] at usable
      exact ⟨holds, ensureUsable_eq_ok.mp usable⟩
    · rintro ⟨_, ready⟩ world' holds
      rw [holds.1.2.1]
      exact ⟨(), ensureUsable_eq_ok.mpr ready.usable⟩
    · exact early
  intro _
  apply Completes.assume
  intro usable
  refine .bind_lift ?_ early fun _ _ => ?_
  · rintro ⟨_, ready⟩
    obtain rfl := same ready
    exact ⟨(), ready.valid.validate⟩
  apply (Completes.access early).bind
  intro _
  apply Completes.bind (Q := fun durable world' =>
    (Frame world.ledger world.coordinator world.inFlight world' ∧
      K (Accepted sha256 state) world'.anchor) ∧
      state = durable)
  · apply ((completes_load read').of_true.weaken early).bind_assume
    rintro _ rfl
    refine .bind ((completes_reconcile within
      (lasting_of_modality modal within)).of_true.weaken early) ?_
    intro _
    exact .pure fun _ holds => ⟨holds, rfl⟩
  intro _
  apply Completes.assume
  rintro rfl
  apply ((completes_generation seen).of_true.weaken early).bind_assume
  rintro _ rfl
  apply Completes.bind (Q := fun current world' =>
    (Frame world.ledger world.coordinator world.inFlight world' ∧
      K (Accepted sha256 state) world'.anchor) ∧
      world.coordinator = current)
  · exact .query (fun _ holds => ⟨_, rfl, holds, holds.1.2.1.symm⟩) early
  intro _
  apply Completes.assume
  rintro rfl
  split
  · -- The ledger has changed since the coordinator looked at it, so the call was not ready.
    rename_i stale
    constructor
    · apply Triple.bind (Q := fun _ => Interrupted sha256 K clock call identity state world)
      · apply Triple.modify
        rintro world' ⟨⟨ledger, coordinator, noted⟩, accepted⟩
        refine .inl ⟨ledger, accepted, noted, ?_⟩
        change world'.coordinator.state = world.coordinator.state
        rw [coordinator]
      · exact fun _ => .fail fun _ => id
    · rintro ⟨_, ready⟩
      have known := ready.known
      rw [read] at known
      cases known
      exact absurd stale (not_or.mpr ⟨not_not.mpr rfl, not_not.mpr ready.observed.symm⟩)
  · rename_i current
    obtain rfl := not_not.mp (not_or.mp current).1
    refine .bind_lift ?_ early fun _ next => ?_
    · rintro ⟨_, ready⟩
      exact ⟨_, nextGeneration_eq_ok.mpr ⟨rfl, Nat.le_of_lt_succ ready.within⟩⟩
    obtain ⟨rfl, bounded⟩ := nextGeneration_eq_ok.mp next
    have within' : world.coordinator.state.generation + 1 < 2 ^ 64 :=
      Nat.lt_of_le_of_lt bounded (by decide)
    refine .bind_lift ?_ early fun _ valid => ?_
    · rintro ⟨_, ready⟩
      obtain rfl := same ready
      exact ⟨(), ready.validNext.validate⟩
    replace valid := DurableBootstrapState.validate_eq_ok.mp valid
    have commits : Commits sha256 clock world call
        (candidate.withGeneration (world.coordinator.state.generation + 1)) :=
      ⟨usable, read', ⟨candidate, computed, rfl⟩, within', valid⟩
    have short : (∃ candidate, Ready sha256 clock world file call candidate) →
        (stateFile sha256 (candidate.withGeneration (world.coordinator.state.generation + 1))
          identity).bytes.length ≤ maxBootstrapStateBytes := by
      rintro ⟨_, ready⟩
      obtain rfl := same ready
      exact ready.short identity
    apply (completes_writeCandidate modal rfl within' short).consequence
    · exact fun _ => id
    · rintro _ world' ⟨⟨ledger, coordinator, noted⟩, accepted⟩
      have knows : world'.coordinator.state =
          candidate.withGeneration (world.coordinator.state.generation + 1) := by
        rw [coordinator]
        rfl
      rw [← knows] at commits ledger accepted coordinator noted
      exact ⟨commits, ⟨ledger, coordinator, noted⟩, accepted⟩
    · exact fun world' torn => .inr ⟨_, commits, torn⟩

end Calls

end Linura.Bootstrap
