import Linura.Provisioning.Store
import Linura.Provisioning.Transitions
import Linura.Lib.Guarantee

/-!
# What the calls of a coordinator do to the two files

An anchor accepts the state that it names as committed or as being committed.  Reconciling an anchor
with a state that it accepts succeeds if there are no faults, and whatever happens leaves an anchor
that accepts the state.  A ledger is changed only by opening, which creates it, and by a commit,
which replaces the state that its coordinator knows by the next one.
-/

namespace Linura.Bootstrap

open Linura.Lib Linura.Transaction
open Program (Triple Completes Keeps Leaves)

variable {world' : World} {anchor : GenerationAnchor} {sessionId machineId : String} {α : Type}

/-! ### States and anchors that are accepted -/

/-- A state that is read back when it is written. -/
structure DurableBootstrapState.Readable (state : DurableBootstrapState) : Prop where
  valid : state.Valid
  encodable : state.Encodable
  dashFree : state.DashFree

variable {sha256 : Sha256} {state candidate : DurableBootstrapState}

theorem DurableBootstrapState.Readable.short (readable : state.Readable) (identity : FileIdentity) :
    (stateFile sha256 state identity).bytes.length ≤ maxBootstrapStateBytes :=
  length_serializeState_le sha256 readable.valid readable.encodable

/-- The ledger of a readable state is read as it. -/
theorem DurableBootstrapState.Readable.read (readable : state.Readable) (identity : FileIdentity) :
    readLedger sha256 (some (stateFile sha256 state identity)) = .ok (some state) := by
  have short : (stateFile sha256 state identity).bytes.length ≤ maxBootstrapStateBytes :=
    readable.short identity
  rw [readLedger, demand, if_pos short, ok_bind, stateFile,
    parseState_serializeState sha256 readable.valid readable.encodable readable.dashFree]
  rfl

/-- The anchor during a commit. -/
def pendingAnchor (sha256 : Sha256) (state candidate : DurableBootstrapState) : GenerationAnchor :=
  ⟨state.generation, stateDigest sha256 state, some candidate.generation,
    some (stateDigest sha256 candidate)⟩

/-- The anchor of a committed state is valid. -/
theorem valid_committed (within : state.generation < 2 ^ 64) :
    (GenerationAnchor.committed sha256 state).Valid :=
  ⟨within, isSha256Text_sha256Hex _ _, .inl ⟨rfl, rfl⟩⟩

theorem valid_pendingAnchor (next : candidate.generation = state.generation + 1)
    (within : candidate.generation < 2 ^ 64) : (pendingAnchor sha256 state candidate).Valid := by
  refine ⟨?_, isSha256Text_sha256Hex _ _,
    .inr ⟨stateDigest sha256 candidate, congrArg some next, rfl, ?_, isSha256Text_sha256Hex _ _⟩⟩
  · change state.generation < 2 ^ 64
    omega
  · change state.generation + 1 < 2 ^ 64
    omega

/-- The anchor names the state as committed, or as the one that is being committed.  A state of
generation zero needs no anchor. -/
def Names (sha256 : Sha256) (state : DurableBootstrapState) : Option GenerationAnchor → Prop
  | none => state.generation = 0
  | some anchor => anchor.commits sha256 state = true ∨
      (anchor.stages sha256 state = true ∧
        state.generation = saturatingAdd anchor.committedGeneration 1)

/-- The anchor in its file names the state. -/
def Accepted (sha256 : Sha256) (state : DurableBootstrapState) (anchor : Option Bytes) : Prop :=
  ∃ found, readAnchor sha256 anchor = .ok found ∧ Names sha256 state found

/-- An anchor is read as it was written. -/
theorem readAnchor_serialize (valid : anchor.Valid) :
    readAnchor sha256 (some (serializeGenerationAnchor sha256 anchor)) = .ok (some anchor) := by
  rw [readAnchor, parseGenerationAnchor_serialize sha256 valid]
  rfl

theorem commits_iff : anchor.commits sha256 state = true ↔
    anchor.committedGeneration = state.generation ∧
      anchor.committedStateSha256 = stateDigest sha256 state := by
  simp [GenerationAnchor.commits]

theorem stages_iff : anchor.stages sha256 state = true ↔
    anchor.pendingGeneration = some state.generation ∧
      anchor.pendingStateSha256 = some (stateDigest sha256 state) := by
  simp [GenerationAnchor.stages]

/-- The anchor of a committed state, as it is written. -/
def committedText (sha256 : Sha256) (state : DurableBootstrapState) : Bytes :=
  serializeGenerationAnchor sha256 (.committed sha256 state)

/-- The anchor during a commit, as it is written. -/
def pendingText (sha256 : Sha256) (state candidate : DurableBootstrapState) : Bytes :=
  serializeGenerationAnchor sha256 (pendingAnchor sha256 state candidate)

/-- The anchor of a committed state accepts it. -/
theorem accepted_committed (within : state.generation < 2 ^ 64) :
    Accepted sha256 state (some (committedText sha256 state)) :=
  ⟨_, readAnchor_serialize (valid_committed within), .inl (commits_iff.mpr ⟨rfl, rfl⟩)⟩

/-- An anchor that stages the next state still accepts the current one. -/
theorem accepted_pending_current (next : candidate.generation = state.generation + 1)
    (within : candidate.generation < 2 ^ 64) :
    Accepted sha256 state (some (pendingText sha256 state candidate)) :=
  ⟨_, readAnchor_serialize (valid_pendingAnchor next within), .inl (commits_iff.mpr ⟨rfl, rfl⟩)⟩

/-- It accepts the next state too. -/
theorem accepted_pending_candidate (next : candidate.generation = state.generation + 1)
    (within : candidate.generation < 2 ^ 64) :
    Accepted sha256 candidate (some (pendingText sha256 state candidate)) := by
  refine ⟨_, readAnchor_serialize (valid_pendingAnchor next within),
    .inr ⟨stages_iff.mpr ⟨rfl, rfl⟩, ?_⟩⟩
  change candidate.generation = saturatingAdd state.generation 1
  rw [saturatingAdd, u64Max]
  omega

theorem withPending_of_next (next : candidate.generation = state.generation + 1)
    (within : candidate.generation < 2 ^ 64) :
    GenerationAnchor.withPending sha256 state candidate =
      .ok (pendingAnchor sha256 state candidate) := by
  have succ : candidate.generation = saturatingAdd state.generation 1 := by
    rw [saturatingAdd, u64Max]
    omega
  rw [GenerationAnchor.withPending, demand, if_pos succ]
  rfl

/-! ### Writing a file -/

section AtomicWrite

variable {bytes : Bytes} {change sync : World → World} {P R Q E : World → Prop} {sure : Prop}

/-- A file that is replaced is as before, or changed and perhaps not synced, or synced. -/
theorem completes_replaceFile (early : ∀ world, P world → E world)
    (changes : ∀ world, P world → R (change world)) (late : ∀ world, R world → E world)
    (syncs : ∀ world, R world → Q (sync world)) :
    Completes sure P (replaceFile change sync) (fun _ => Q) E := by
  apply (Completes.access early).bind
  intro _
  apply Completes.bind (Q := fun _ => R)
  · exact .atomically changes early
  intro _
  apply (Completes.access late).bind
  intro _
  exact .atomically syncs late

/-- A replacement leaves what was there or what was written. -/
theorem completes_atomicWrite (short : bytes.length ≤ maxBootstrapStateBytes)
    (early : ∀ world, P world → E world) (changes : ∀ world, P world → R (change world))
    (late : ∀ world, R world → E world) (syncs : ∀ world, R world → Q (sync world)) :
    Completes sure P (atomicWrite bytes change sync) (fun _ => Q) E :=
  .bind_lift (fun _ => ⟨(), demand_eq_ok.mpr short⟩) early fun _ _ =>
    completes_replaceFile early changes late syncs

/-- A text that is written is not too long. -/
theorem triple_atomicWrite (early : ∀ world, P world → E world)
    (changes : ∀ world, P world → R (change world)) (late : ∀ world, R world → E world)
    (syncs : ∀ world, R world → Q (sync world)) :
    Triple P (atomicWrite bytes change sync)
      (fun _ world => Q world ∧ bytes.length ≤ maxBootstrapStateBytes) E := by
  refine .bind_lift early fun _ short => ?_
  have replaced : Completes True P (replaceFile change sync) (fun _ => Q) E :=
    completes_replaceFile early changes late syncs
  exact replaced.triple.consequence (fun _ => id)
    (fun _ _ holds => ⟨holds, demand_eq_ok.mp short⟩) fun _ => id

end AtomicWrite

/-! ### The anchor -/

variable (ledger : Disk (Option LedgerFile))

/-- Everything but the anchor is as given. -/
def Frame (coordinator : DurableBootstrapCoordinator) (inFlight : Option DurableBootstrapState)
    (world : World) : Prop :=
  world.ledger = ledger ∧ world.coordinator = coordinator ∧ world.inFlight = inFlight

/-- Everything but the anchor is as given, and the anchor satisfies `K`. -/
abbrev Anchored (coordinator : DurableBootstrapCoordinator)
    (inFlight : Option DurableBootstrapState) (K : Disk (Option Bytes) → Prop) (world : World) :
    Prop :=
  Frame ledger coordinator inFlight world ∧ K world.anchor

/-- An assertion about the anchor that lasts while it is reconciled with a state: what is seen
accepts the state, and the anchor of the committed state may be written and synced. -/
structure Lasting (sha256 : Sha256) (state : DurableBootstrapState)
    (K : Disk (Option Bytes) → Prop) :
    Prop where
  accepted : ∀ anchor, K anchor → Accepted sha256 state anchor.visible
  written : ∀ anchor, K anchor → K (anchor.change fun _ => some (committedText sha256 state))
  synced : ∀ anchor, K anchor → K anchor.sync

theorem lasting_of_modality {K : (Option Bytes → Prop) → Disk (Option Bytes) → Prop}
    (modal : Disk.Modality K) (within : state.generation < 2 ^ 64) :
    Lasting sha256 state (K (Accepted sha256 state)) where
  accepted := fun _ => modal.visible
  written := fun _ holds => modal.replace holds (accepted_committed within)
  synced := fun _ holds => modal.sync (modal.visible holds)

section Anchor

variable {ledger : Disk (Option LedgerFile)} {coordinator : DurableBootstrapCoordinator}
variable {inFlight : Option DurableBootstrapState} {K K' : Disk (Option Bytes) → Prop}

/-- Writing an anchor. -/
theorem completes_replaceAnchor {bytes : Bytes} (short : bytes.length ≤ maxBootstrapStateBytes)
    {E : Disk (Option Bytes) → Prop}
    (written : ∀ disk, K disk → K' (disk.change fun _ => some bytes))
    (early : ∀ disk, K disk → E disk) (late : ∀ disk, K' disk → E disk) :
    Completes True (Anchored ledger coordinator inFlight K)
      (replaceAnchor bytes)
      (fun _ world => Frame ledger coordinator inFlight world ∧ ∃ disk, K' disk ∧
        world.anchor = disk.sync)
      (Anchored ledger coordinator inFlight E) := by
  apply completes_atomicWrite
    (R := fun world => Frame ledger coordinator inFlight world ∧ K' world.anchor) short
  · exact fun world holds => ⟨holds.1, early _ holds.2⟩
  · exact fun world holds => ⟨holds.1, written _ holds.2⟩
  · exact fun world holds => ⟨holds.1, late _ holds.2⟩
  · exact fun world holds => ⟨holds.1, _, holds.2, rfl⟩

/-- Writing the anchor completes, and leaves the rest. -/
theorem completes_persistGenerationAnchorRecord (valid : anchor.Valid)
    {E : Disk (Option Bytes) → Prop}
    (written : ∀ disk, K disk →
      K' (disk.change fun _ => some (serializeGenerationAnchor sha256 anchor)))
    (early : ∀ disk, K disk → E disk) (late : ∀ disk, K' disk → E disk) :
    Completes True (Anchored ledger coordinator inFlight K)
      (persistGenerationAnchorRecord sha256 anchor)
      (fun _ world => Frame ledger coordinator inFlight world ∧ ∃ disk, K' disk ∧
        world.anchor = disk.sync)
      (Anchored ledger coordinator inFlight E) := by
  have short : (serializeGenerationAnchor sha256 anchor).length ≤ maxBootstrapStateBytes :=
    (length_serializeGenerationAnchor_le sha256 valid).trans (by decide)
  exact .bind_ok valid.validate (completes_replaceAnchor short written early late)

/-- The anchor of a state that it accepts may be written anew. -/
theorem completes_persist_committed (within : state.generation < 2 ^ 64)
    (lasting : Lasting sha256 state K) :
    Completes True (Anchored ledger coordinator inFlight K)
      (persistGenerationAnchorRecord sha256 (.committed sha256 state))
      (fun _ => Anchored ledger coordinator inFlight K)
      (Anchored ledger coordinator inFlight K) := by
  apply (completes_persistGenerationAnchorRecord (valid_committed within) lasting.written
    (fun _ => id) fun _ => id).consequence
  · exact fun _ => id
  · rintro _ world ⟨frame, disk, holds, same⟩
    exact ⟨frame, same ▸ lasting.synced disk holds⟩
  · exact fun _ => id

/-- The anchor that is read names the state it accepts. -/
theorem completes_loadGenerationAnchor
    (accepted : ∀ anchor, K anchor → Accepted sha256 state anchor.visible) :
    Completes True (Anchored ledger coordinator inFlight K)
      (loadGenerationAnchor sha256)
      (fun found world => (Frame ledger coordinator inFlight world ∧ K world.anchor) ∧
        Names sha256 state found)
      (Anchored ledger coordinator inFlight K) := by
  apply (Completes.access fun _ => id).bind
  intro _
  apply Completes.query
  · intro world holds
    obtain ⟨found, read, named⟩ := accepted _ holds.2
    exact ⟨found, read, holds, named⟩
  · exact fun _ => id

/-- Reconciling the anchor with a state that it accepts. -/
theorem completes_reconcile (within : state.generation < 2 ^ 64)
    (lasting : Lasting sha256 state K) :
    Completes True (Anchored ledger coordinator inFlight K)
      (reconcileGenerationAnchor sha256 state)
      (fun _ => Anchored ledger coordinator inFlight K)
      (Anchored ledger coordinator inFlight K) := by
  apply (completes_loadGenerationAnchor lasting.accepted).bind_assume
  intro found named
  have write : Completes True
      (Anchored ledger coordinator inFlight K)
      (persistGenerationAnchorRecord sha256 (.committed sha256 state))
      (fun _ => Anchored ledger coordinator inFlight K)
      (Anchored ledger coordinator inFlight K) :=
    completes_persist_committed within lasting
  cases found with
  | none =>
    change state.generation = 0 at named
    dsimp only
    rw [if_pos named]
    exact write
  | some anchor =>
    dsimp only
    by_cases commits : anchor.commits sha256 state = true
    · rw [if_pos commits]
      by_cases pending : anchor.pendingGeneration.isSome = true
      · rw [if_pos pending]
        exact write
      · rw [if_neg pending]
        exact .pure fun _ => id
    · rw [if_neg commits, if_pos (named.resolve_left commits)]
      exact write

end Anchor

/-! ### What is not touched -/

/-- Everything but the anchor. -/
def World.aside (world : World) :
    Disk (Option LedgerFile) × DurableBootstrapCoordinator × Option DurableBootstrapState :=
  (world.ledger, world.coordinator, world.inFlight)

theorem frame_iff {world world' : World} :
    Frame world.ledger world.coordinator world.inFlight world' ↔ world'.aside = world.aside := by
  simp only [Frame, World.aside, Prod.mk.injEq]

theorem leaves_loadGenerationAnchor : Leaves World.aside (loadGenerationAnchor sha256) :=
  (Leaves.atomically fun _ => rfl).bind fun _ => .query

theorem leaves_atomicWrite {τ : Type} {f : World → τ} {bytes : Bytes} {change sync : World → World}
    (changed : ∀ world, f (change world) = f world) (synced : ∀ world, f (sync world) = f world) :
    Leaves f (atomicWrite bytes change sync) := by
  unfold atomicWrite replaceFile
  apply Leaves.query.bind
  intro _
  apply (Leaves.atomically fun _ => rfl).bind
  intro _
  apply (Leaves.atomically changed).bind
  intro _
  apply (Leaves.atomically fun _ => rfl).bind
  exact fun _ => .atomically synced

theorem leaves_replaceAnchor (bytes : Bytes) : Leaves World.aside (replaceAnchor bytes) :=
  leaves_atomicWrite (fun _ => rfl) fun _ => rfl

theorem leaves_persistGenerationAnchorRecord (anchor : GenerationAnchor) :
    Leaves World.aside (persistGenerationAnchorRecord sha256 anchor) :=
  Leaves.query.bind fun _ => leaves_replaceAnchor _

/-- Reconciling the anchor leaves the ledger and the coordinator. -/
theorem leaves_reconcile (state : DurableBootstrapState) :
    Leaves World.aside (reconcileGenerationAnchor sha256 state) := by
  apply leaves_loadGenerationAnchor.bind
  intro found
  cases found with
  | none =>
    dsimp only
    split
    · exact leaves_persistGenerationAnchorRecord _
    · exact .fail
  | some anchor =>
    dsimp only
    split
    · split
      · exact leaves_persistGenerationAnchorRecord _
      · exact .pure
    · split
      · exact leaves_persistGenerationAnchorRecord _
      · exact .fail

/-- So does staging it. -/
theorem leaves_stage (current candidate : DurableBootstrapState) :
    Leaves World.aside (stageGenerationAnchor sha256 current candidate) := by
  apply (leaves_reconcile current).bind
  intro _
  apply Leaves.query.bind
  exact fun anchor => leaves_persistGenerationAnchorRecord anchor

theorem leaves_finalize (candidate : DurableBootstrapState) :
    Leaves World.aside (finalizeGenerationAnchor sha256 candidate) := by
  apply leaves_loadGenerationAnchor.bind
  intro found
  cases found with
  | none => exact .fail
  | some anchor =>
    dsimp only
    split
    · exact leaves_persistGenerationAnchorRecord _
    · exact .fail

/-- An anchor that does not accept a state is left as it is, and reconciling fails. -/
theorem triple_reconcile_refused {world : World}
    (refused : ¬ Accepted sha256 state world.anchor.visible) :
    Triple (fun world' => world' = world) (reconcileGenerationAnchor sha256 state)
      (fun _ _ => False) (fun world' => world' = world) := by
  apply Triple.bind (Q := fun found world' => world' = world ∧ ¬ Names sha256 state found)
  · apply (Triple.access fun _ => id).bind
    intro _
    apply Triple.query
    · rintro _ found rfl read
      exact ⟨rfl, fun named => refused ⟨found, read, named⟩⟩
    · exact fun _ => id
  intro found
  apply Triple.assume
  intro unnamed
  cases found with
  | none =>
    have later : ¬ state.generation = 0 := unnamed
    dsimp only
    rw [if_neg later]
    exact .fail fun _ => id
  | some anchor =>
    obtain ⟨other, unstaged⟩ := not_or.mp unnamed
    dsimp only
    rw [if_neg other, if_neg unstaged]
    exact .fail fun _ => id

/-- Reconciling changes nothing but the anchor, and returns only if the anchor accepts the state. -/
theorem triple_reconcile {world : World} (within : state.generation < 2 ^ 64) :
    Triple (fun world' => world' = world) (reconcileGenerationAnchor sha256 state)
      (fun _ world' => world'.aside = world.aside ∧ Accepted sha256 state world.anchor.visible ∧
        Accepted sha256 state world'.anchor.visible)
      (fun world' => world'.aside = world.aside) := by
  by_cases accepted : Accepted sha256 state world.anchor.visible
  · apply (completes_reconcile within
      (lasting_of_modality Disk.modality_visible within)).triple.consequence
    · rintro _ rfl
      exact ⟨⟨rfl, rfl, rfl⟩, accepted⟩
    · rintro _ world' ⟨frame, accepted'⟩
      exact ⟨frame_iff.mp frame, accepted, accepted'⟩
    · exact fun world' holds => frame_iff.mp holds.1
  · apply (triple_reconcile_refused accepted).consequence
    · exact fun _ => id
    · exact fun _ _ never => never.elim
    · rintro _ rfl
      rfl

/-! ### The ledger -/

/-- The ledger with a new file, which may not last yet. -/
def written (file : LedgerFile) : Disk (Option LedgerFile) :=
  ledger.change fun _ => some file

@[simp]
theorem visible_written (file : LedgerFile) :
    (written ledger file).visible = some file := Disk.visible_change

/-- A write of the ledger that may have been cut short. -/
inductive Writes (ledger : Disk (Option LedgerFile)) (file : LedgerFile) :
    Disk (Option LedgerFile) → Prop
  | unchanged : Writes ledger file ledger
  | written : Writes ledger file (written ledger file)
  | synced : Writes ledger file (written ledger file).sync

/-- What is read is the ledger that is seen. -/
theorem triple_load {P E : World → Prop} (exc : ∀ world, P world → E world) :
    Triple P (load sha256) (fun found world => P world ∧
      readLedger sha256 world.ledger.visible = .ok found) E := by
  apply (Triple.access exc).bind
  intro _
  exact .query (fun _ _ holds read => ⟨holds, read⟩) exc

theorem triple_generation {P E : World → Prop} (exc : ∀ world, P world → E world) :
    Triple P (generation state) (fun found world => P world ∧ ∃ file,
      world.ledger.visible = some file ∧
        found = ⟨state.generation, file.identity, file.bytes.length⟩) E := by
  apply (Triple.access exc).bind
  intro _
  apply Triple.query
  · intro world found holds read
    cases seen : world.ledger.visible with
    | none =>
      rw [seen] at read
      cases read
    | some file =>
      rw [seen] at read
      cases read
      exact ⟨holds, file, rfl, rfl⟩
  · exact exc

section Uncertain

variable {I P : World → Prop} {Q : α → World → Prop} {program : Action α}
  {reason : DurableBootstrapError → String}
  (poisoned : ∀ text world, I world → I (.poison text world))
include poisoned

theorem triple_becomeUncertain (text : String) :
    Triple I (becomeUncertain text : Action α) Q I :=
  .bind (Q := fun _ => I) (.modify (poisoned text)) fun _ => .fail fun _ => id

theorem triple_handlePersistFailure (error : DurableBootstrapError) :
    Triple I (handlePersistFailure error : Action α) Q I := by
  unfold handlePersistFailure
  split
  · exact triple_becomeUncertain poisoned _
  · exact .fail fun _ => id

/-- An error that leaves the coordinator uncertain leaves the files as they are. -/
theorem triple_orUncertain (triple : Triple P program Q I) :
    Triple P (program.handle fun error => becomeUncertain (reason error)) Q I :=
  triple.handle (fun _ => triple_becomeUncertain poisoned _) fun _ => id

theorem completes_orUncertain {sure : Prop} (completes : Completes sure P program Q I) :
    Completes sure P (program.handle fun error => becomeUncertain (reason error)) Q I :=
  completes.handle (fun _ => triple_becomeUncertain poisoned _) fun _ => id

end Uncertain

section WriteCandidate

variable {world : World} {file : LedgerFile} {identity : FileIdentity}

/-- What is known of the ledger and the coordinator after a write that was cut short. -/
def CutShort (world : World) (file : LedgerFile) (world' : World) : Prop :=
  Writes world.ledger file world'.ledger ∧ world'.coordinator.state = world.coordinator.state

/-- The ledger and the coordinator are as given. -/
def Holds (ledger : Disk (Option LedgerFile)) (coordinator : DurableBootstrapCoordinator)
    (world : World) :
    Prop := world.ledger = ledger ∧ world.coordinator = coordinator

theorem keeps_holds {program : Action α} (leaves : Leaves World.aside program)
    (ledger : Disk (Option LedgerFile)) (coordinator : DurableBootstrapCoordinator) :
    Keeps (Holds ledger coordinator) program :=
  leaves.keeps fun aside => aside.1 = ledger ∧ aside.2.1 = coordinator

variable {ledger : Disk (Option LedgerFile)}

theorem holds_of_aside {coordinator : DurableBootstrapCoordinator} {world world' : World}
    (holds : Holds ledger coordinator world) (aside : world'.aside = world.aside) :
    Holds ledger coordinator world' := by
  simp only [World.aside, Prod.mk.injEq] at aside
  exact ⟨aside.1.trans holds.1, aside.2.1.trans holds.2⟩

theorem cutShort_of_unchanged (holds : Holds world.ledger world.coordinator world') :
    CutShort world file world' := ⟨holds.1 ▸ .unchanged, congrArg _ holds.2⟩

theorem cutShort_of_synced
    (holds : Holds (written world.ledger file).sync world.coordinator world') :
    CutShort world file world' := ⟨holds.1 ▸ .synced, congrArg _ holds.2⟩

/-- A ledger is replaced and synced, or cut short. -/
theorem triple_replaceLedger :
    Triple (Holds world.ledger world.coordinator) (replaceLedger file)
      (fun _ world' => Holds (written world.ledger file).sync world.coordinator world' ∧
        file.bytes.length ≤ maxBootstrapStateBytes)
      (CutShort world file) := by
  apply triple_atomicWrite (R := Holds (written world.ledger file) world.coordinator)
  · exact fun _ holds => cutShort_of_unchanged holds
  · rintro world' ⟨ledger, coordinator⟩
    exact ⟨congrArg (written · file) ledger, coordinator⟩
  · rintro world' ⟨ledger, coordinator⟩
    exact ⟨ledger ▸ .written, congrArg _ coordinator⟩
  · rintro world' ⟨ledger, coordinator⟩
    exact ⟨congrArg Disk.sync ledger, coordinator⟩

/-- The coordinator after a commit. -/
def committedCoordinator (coordinator : DurableBootstrapCoordinator)
    (candidate : DurableBootstrapState)
    (file : LedgerFile) : DurableBootstrapCoordinator :=
  { coordinator with
    state := candidate
    storeGeneration := ⟨candidate.generation, file.identity, file.bytes.length⟩ }

/-- Reconciling after the ledger was synced. -/
theorem triple_reconcile_synced {coordinator : DurableBootstrapCoordinator}
    (within : candidate.generation < 2 ^ 64) :
    Triple (Holds ledger coordinator) (reconcileGenerationAnchor sha256 candidate)
      (fun _ world' => Holds ledger coordinator world' ∧
        Accepted sha256 candidate world'.anchor.visible)
      (Holds ledger coordinator) := by
  apply Triple.of_forall
  intro world holds
  apply (triple_reconcile within).consequence
  · exact fun _ => id
  · rintro _ world' ⟨aside, -, accepted⟩
    exact ⟨holds_of_aside holds aside, accepted⟩
  · exact fun world' aside => holds_of_aside holds aside

theorem triple_generation_synced {P : World → Prop} (seen : ledger.visible = some file)
    (known : ∀ world', P world' → world'.ledger = ledger) :
    Triple P (generation candidate) (fun found world' => P world' ∧
      found = ⟨candidate.generation, file.identity, file.bytes.length⟩) P := by
  have exc : ∀ world', P world' → P world' := fun _ => id
  apply (triple_generation exc).consequence
  · exact fun _ => id
  · rintro found world' ⟨holds, file', seen', same⟩
    rw [known world' holds, seen] at seen'
    cases seen'
    exact ⟨holds, same⟩
  · exact fun _ => id

/-- A commit writes the ledger, and returns only if the anchor accepts the new state. -/
theorem triple_writeCandidate {current : DurableBootstrapState}
    (within : candidate.generation < 2 ^ 64) :
    Triple (Holds world.ledger world.coordinator) (writeCandidate sha256 current candidate identity)
      (fun _ world' => Holds (written world.ledger (stateFile sha256 candidate identity)).sync
          (committedCoordinator world.coordinator candidate
            (stateFile sha256 candidate identity)) world' ∧
        Accepted sha256 candidate world'.anchor.visible ∧
        (stateFile sha256 candidate identity).bytes.length ≤ maxBootstrapStateBytes)
      (CutShort world (stateFile sha256 candidate identity)) := by
  unfold writeCandidate persist
  generalize stateFile sha256 candidate identity = file
  apply Triple.bind (Q := fun _ => Holds world.ledger world.coordinator)
  · exact .modify fun _ => id
  intro _
  have cut : ∀ text world', CutShort world file world' →
      CutShort world file (.poison text world') := fun _ _ => id
  apply Triple.bind
    ((keeps_holds (leaves_stage current candidate) _ _).weaken fun _ => cutShort_of_unchanged)
  intro _
  apply (triple_replaceLedger.handle (triple_handlePersistFailure cut) fun _ => id).bind_assume
  intro _ short
  apply (triple_orUncertain cut
    (Triple.weaken (keeps_holds (leaves_finalize candidate) _ _) fun _ => cutShort_of_synced)).bind
  intro _
  apply (triple_orUncertain cut
    ((triple_reconcile_synced within).weaken fun _ => cutShort_of_synced)).bind
  intro _
  have seen : (written world.ledger file).sync.visible = some file := visible_written _ _
  apply (triple_orUncertain cut ((triple_generation_synced seen fun _ holds => holds.1.1).weaken
    fun _ holds => cutShort_of_synced holds.1)).bind_assume
  rintro _ rfl
  apply Triple.modify
  rintro world' ⟨⟨ledger, coordinator⟩, accepted⟩
  refine ⟨⟨ledger, ?_⟩, accepted, short⟩
  rw [World.adopt, coordinator]
  rfl

end WriteCandidate

/-! ### Calls -/

/-- The state that a call commits: the ledger holds the state that the coordinator knows, and the
call computes the next one from it. -/
structure Commits (sha256 : Sha256) (clock : ClockSamples) (world : World) (call : BootstrapCall)
    (next : DurableBootstrapState) : Prop where
  usable : world.coordinator.durabilityUncertain = none
  known : readLedger sha256 world.ledger.visible = .ok (some world.coordinator.state)
  computed : ∃ candidate, world.coordinator.state.candidate sha256 clock call = .ok candidate ∧
    next = candidate.withGeneration (world.coordinator.state.generation + 1)
  within : next.generation < 2 ^ 64
  valid : next.Valid

/-- A call that failed or crashed: the coordinator knows the same state as before, and the ledger is
as before or holds the state that the call commits. -/
def Failed (sha256 : Sha256) (clock : ClockSamples) (call : BootstrapCall) (identity : FileIdentity)
    (world world' : World) : Prop :=
  world'.coordinator.state = world.coordinator.state ∧ (world'.ledger = world.ledger ∨
    ∃ next, Commits sha256 clock world call next ∧
      Writes world.ledger (stateFile sha256 next identity) world'.ledger)

structure Succeeded (sha256 : Sha256) (clock : ClockSamples) (call : BootstrapCall)
    (identity : FileIdentity) (world world' : World) : Prop where
  commits : Commits sha256 clock world call world'.coordinator.state
  ledger : world'.ledger =
    (written world.ledger (stateFile sha256 world'.coordinator.state identity)).sync
  short : (stateFile sha256 world'.coordinator.state identity).bytes.length ≤ maxBootstrapStateBytes
  accepted : Accepted sha256 world'.coordinator.state world'.anchor.visible
  coordinator : world'.coordinator = committedCoordinator world.coordinator world'.coordinator.state
    (stateFile sha256 world'.coordinator.state identity)

section Calls

variable {world : World} {identity : FileIdentity} {clock : ClockSamples} {call : BootstrapCall}

theorem ensureUsable_eq_ok {coordinator : DurableBootstrapCoordinator} {value : Unit} :
    coordinator.ensureUsable = .ok value ↔ coordinator.durabilityUncertain = none := by
  unfold DurableBootstrapCoordinator.ensureUsable
  cases coordinator.durabilityUncertain with
  | none | some => simp

theorem nextGeneration_eq_ok {generation : Nat} : state.nextGeneration = .ok generation ↔
    state.generation + 1 = generation ∧ generation ≤ u64Max := by
  rw [← checkedAdd_eq_some]
  exact elim_eq_ok

theorem holds_of_frame (aside : world'.aside = world.aside) :
    Holds world.ledger world.coordinator world' := holds_of_aside ⟨rfl, rfl⟩ aside

theorem ledger_of_aside (aside : world'.aside = world.aside) :
    world'.ledger = world.ledger := (holds_of_frame aside).1

/-- The ledger is read, and nothing changes. -/
theorem triple_load_aside :
    Triple (fun world' => world'.aside = world.aside) (load sha256)
      (fun found world' => world'.aside = world.aside ∧
        readLedger sha256 world.ledger.visible = .ok found)
      (fun world' => world'.aside = world.aside) := by
  have exc : ∀ world' : World, world'.aside = world.aside → world'.aside = world.aside :=
    fun _ => id
  apply (triple_load exc).consequence
  · exact fun _ => id
  · rintro found world' ⟨aside, read⟩
    rw [ledger_of_aside aside] at read
    exact ⟨aside, read⟩
  · exact fun _ => id

/-- What a commit finds. -/
theorem triple_loadCommitted :
    Triple (fun world' => world'.aside = world.aside) (loadCommitted sha256)
      (fun durable world' => world'.aside = world.aside ∧
        readLedger sha256 world.ledger.visible = .ok (some durable))
      (fun world' => world'.aside = world.aside) := by
  unfold loadCommitted
  apply triple_load_aside.bind_assume
  intro found read
  cases found with
  | none => exact .fail fun _ => id
  | some durable =>
    apply Triple.bind (leaves_reconcile durable world.aside)
    exact fun _ => .pure fun _ same => ⟨same, read⟩

/-- Everything that a commit can do to the ledger. -/
theorem triple_commit {candidate : DurableBootstrapState}
    (computed : world.coordinator.state.candidate sha256 clock call = .ok candidate) :
    Triple (fun world' => world' = world) (commit sha256 candidate identity)
      (fun _ world' => Succeeded sha256 clock call identity world world')
      (Failed sha256 clock call identity world) := by
  have unchanged : ∀ world' : World, world'.aside = world.aside →
      Failed sha256 clock call identity world world' := by
    intro world' aside
    have holds := holds_of_frame aside
    exact ⟨congrArg _ holds.2, .inl holds.1⟩
  unfold commit
  apply Triple.bind (Q := fun _ world' => world'.aside = world.aside ∧
    world.coordinator.durabilityUncertain = none)
  · apply Triple.query
    · rintro _ value rfl usable
      exact ⟨rfl, ensureUsable_eq_ok.mp usable⟩
    · rintro _ rfl
      exact unchanged _ rfl
  intro _
  apply Triple.assume
  intro usable
  refine .peek unchanged fun _ => ?_
  apply (Triple.access unchanged).bind
  intro _
  apply (triple_loadCommitted.weaken unchanged).bind_assume
  intro durable read
  apply Triple.bind (Q := fun _ world' => world'.aside = world.aside)
  · exact (triple_generation unchanged).consequence (fun _ => id) (fun _ _ holds => holds.1)
      fun _ => id
  intro durableGeneration
  apply Triple.bind (Q := fun current world' => world'.aside = world.aside ∧
    current = world.coordinator)
  · apply Triple.query
    · rintro world' current aside ⟨⟩
      exact ⟨aside, (holds_of_frame aside).2⟩
    · exact unchanged
  intro current
  apply Triple.assume
  rintro rfl
  split
  · -- The ledger has changed since the coordinator looked at it.
    apply Triple.bind (Q := fun _ world' => world'.ledger = world.ledger ∧
      world'.coordinator.state = world.coordinator.state)
    · apply Triple.modify
      intro world' aside
      have holds := holds_of_frame aside
      refine ⟨holds.1, ?_⟩
      change world'.coordinator.state = world.coordinator.state
      rw [holds.2]
    · exact fun _ => .fail fun world' same => ⟨same.2, .inl same.1⟩
  · rename_i same
    obtain ⟨same, -⟩ := not_or.mp same
    obtain rfl := not_not.mp same
    refine .bind_lift unchanged fun _ next => ?_
    obtain ⟨rfl, within⟩ := nextGeneration_eq_ok.mp next
    have within : world.coordinator.state.generation + 1 < 2 ^ 64 :=
      Nat.lt_of_le_of_lt within (by decide)
    refine .bind_lift unchanged fun _ valid => ?_
    replace valid := DurableBootstrapState.validate_eq_ok.mp valid
    have commits : Commits sha256 clock world call
        (candidate.withGeneration (world.coordinator.state.generation + 1)) :=
      ⟨usable, read, ⟨candidate, computed, rfl⟩, within, valid⟩
    apply (triple_writeCandidate within).consequence
    · exact fun _ aside => holds_of_frame aside
    · rintro _ world' ⟨⟨ledger, coordinator⟩, accepted, short⟩
      have state : world'.coordinator.state =
          candidate.withGeneration (world.coordinator.state.generation + 1) := by
        rw [coordinator]
        rfl
      rw [← state] at commits ledger accepted short coordinator
      exact ⟨commits, ledger, short, accepted, coordinator⟩
    · rintro world' ⟨writes, state⟩
      exact ⟨state, .inr ⟨_, commits, writes⟩⟩

/-- Everything that a call can do to the ledger. -/
theorem triple_perform :
    Triple (fun world' => world' = world) (perform sha256 call identity clock)
      (fun _ world' => Succeeded sha256 clock call identity world world')
      (Failed sha256 clock call identity world) := by
  unfold perform
  apply Triple.bind (Q := fun candidate world' => world' = world ∧
    world.coordinator.state.candidate sha256 clock call = .ok candidate)
  · apply Triple.query
    · rintro _ candidate rfl computed
      exact ⟨rfl, computed⟩
    · rintro _ rfl
      exact ⟨rfl, .inl rfl⟩
  intro candidate
  apply Triple.assume
  intro computed
  exact triple_commit computed

/-! ### Opening -/

theorem lt_of_parseUnsigned {reason : DurableBootstrapError} {bound n : Nat} {text : String}
    (parsed : (parseUnsigned bound text).elim (Except.error reason) .ok = .ok n) : n < bound :=
  parseUnsigned_lt (elim_eq_ok.mp parsed)

/-- A generation that is read fits into 64 bits. -/
theorem yields_generation : LineReader.Yields readState fun state => state.generation < 2 ^ 64 := by
  refine .skip fun _ => ?_
  refine LineReader.Yields.bind (P := (· < 2 ^ 64)) ?_ fun generation within => ?_
  · refine .skip fun text => ?_
    exact LineReader.Yields.lift fun _ => lt_of_parseUnsigned
  refine .skip fun sessionId => ?_
  refine .skip fun machineId => ?_
  refine .skip fun completed => ?_
  refine .skip fun verifications => ?_
  refine .skip fun active => ?_
  refine .skip fun manifest => ?_
  refine .skip fun provisioning => ?_
  exact LineReader.Yields.pure within

theorem generation_lt_of_readLedger {ledger : Option LedgerFile}
    (read : readLedger sha256 ledger = .ok (some state)) : state.generation < 2 ^ 64 := by
  cases ledger with
  | none => cases read
  | some file =>
    obtain ⟨_, -, read⟩ := bind_eq_ok.mp read
    obtain ⟨found, parsed, same⟩ := bind_eq_ok.mp read
    cases same
    unfold parseState at parsed
    cases text : fromUtf8 file.bytes with
    | none =>
      rw [text] at parsed
      cases parsed
    | some text' =>
      rw [text] at parsed
      obtain ⟨payload, -, parsed⟩ := bind_eq_ok.mp parsed
      obtain ⟨⟨found', rest⟩, lines, parsed⟩ := bind_eq_ok.mp parsed
      obtain ⟨_, -, same⟩ := bind_eq_ok.mp parsed
      cases same
      exact yields_generation _ _ _ lines

/-- The state with which a missing ledger is created. -/
structure Creates (sessionId machineId : String) (ledger : Disk (Option LedgerFile))
    (next : DurableBootstrapState) : Prop where
  missing : ledger.visible = none
  fresh : DurableBootstrapState.new sessionId machineId = .ok next

/-- A new state has nothing but valid identities. -/
theorem new_eq_ok :
    DurableBootstrapState.new sessionId machineId = .ok state ↔
      isIdentifier sessionId = true ∧ isIdentifier machineId = true ∧
        (⟨0, sessionId, machineId, [], [], none, {}⟩ : DurableBootstrapState).Valid ∧
        state = ⟨0, sessionId, machineId, [], [], none, {}⟩ := by
  simp only [DurableBootstrapState.new, bind_eq_ok, normalizeIdentifier_eq_ok,
    DurableBootstrapState.checked_eq_ok]
  constructor
  · rintro ⟨_, ⟨session, rfl⟩, _, ⟨machine, rfl⟩, valid, same⟩
    exact ⟨session, machine, valid, same.symm⟩
  · rintro ⟨session, machine, valid, same⟩
    exact ⟨_, ⟨session, rfl⟩, _, ⟨machine, rfl⟩, valid, same.symm⟩

/-- What opening does to the ledger if it is cut short. -/
def OpenFailed (sha256 : Sha256) (sessionId machineId : String) (identity : FileIdentity)
    (world world' : World) : Prop :=
  world'.ledger = world.ledger ∨
    ∃ next, Creates sessionId machineId world.ledger next ∧
      Writes world.ledger (stateFile sha256 next identity) world'.ledger

/-- The ledger after opening: it holds the state that it had, or was created with a new one. -/
inductive Opens (sha256 : Sha256) (sessionId machineId : String) (identity : FileIdentity)
    (ledger : Disk (Option LedgerFile)) (state : DurableBootstrapState) :
    Disk (Option LedgerFile) → Prop
  | found (read : readLedger sha256 ledger.visible = .ok (some state))
      (bound : state.sessionId = sessionId ∧ state.machineId = machineId) :
      Opens sha256 sessionId machineId identity ledger state ledger
  | created (creates : Creates sessionId machineId ledger state)
      (short : (stateFile sha256 state identity).bytes.length ≤ maxBootstrapStateBytes) :
      Opens sha256 sessionId machineId identity ledger state
        (written ledger (stateFile sha256 state identity)).sync

/-- What is known after opening. -/
structure Opened (sha256 : Sha256) (sessionId machineId : String) (identity : FileIdentity)
    (world : World) (state : DurableBootstrapState) (world' : World) : Prop where
  ledger : Opens sha256 sessionId machineId identity world.ledger state world'.ledger
  accepted : Accepted sha256 state world'.anchor.visible

theorem visible_of_readLedger_none {ledger : Option LedgerFile}
    (read : readLedger sha256 ledger = .ok none) :
    ledger = none := by
  cases ledger with
  | none => rfl
  | some file =>
    obtain ⟨_, -, read⟩ := bind_eq_ok.mp read
    obtain ⟨_, -, same⟩ := bind_eq_ok.mp read
    cases same

/-- What opening the state does to the ledger. -/
theorem triple_openState :
    Triple (fun world' => world' = world) (openState sha256 sessionId machineId identity)
      (fun state world' => Opened sha256 sessionId machineId identity world state world')
      (OpenFailed sha256 sessionId machineId identity world) := by
  have unchanged : ∀ world' : World, world' = world →
      OpenFailed sha256 sessionId machineId identity world world' :=
    fun _ same => .inl (congrArg World.ledger same)
  unfold openState persist
  apply Triple.bind (Q := fun found world' => world' = world ∧
    readLedger sha256 world.ledger.visible = .ok found)
  · apply (triple_load unchanged).consequence
    · exact fun _ => id
    · rintro found _ ⟨rfl, read⟩
      exact ⟨rfl, read⟩
    · exact fun _ => id
  intro found
  apply Triple.assume
  intro read
  cases found with
  | some state =>
    apply Triple.bind (Q := fun _ world' => world' = world ∧
      (state.sessionId = sessionId ∧ state.machineId = machineId))
    · exact .query (fun _ _ same bound => ⟨same, demand_eq_ok.mp bound⟩) unchanged
    intro _
    apply Triple.assume
    intro bound
    apply Triple.bind
    · exact (triple_reconcile (generation_lt_of_readLedger read)).weaken fun _ aside =>
        .inl (ledger_of_aside aside)
    intro _
    apply Triple.pure
    rintro world' ⟨aside, -, accepted⟩
    refine ⟨?_, accepted⟩
    rw [ledger_of_aside aside]
    exact .found read bound
  | none =>
    apply Triple.bind (Q := fun state world' => world' = world ∧
      DurableBootstrapState.new sessionId machineId = .ok state)
    · exact .query (fun _ _ same fresh => ⟨same, fresh⟩) unchanged
    intro state
    generalize written_ : stateFile sha256 state identity = file
    apply Triple.assume
    intro fresh
    have creates : Creates sessionId machineId world.ledger state :=
      ⟨visible_of_readLedger_none read, fresh⟩
    have within : state.generation < 2 ^ 64 := by
      rw [(new_eq_ok.mp fresh).2.2.2]
      exact Nat.two_pow_pos 64
    apply Triple.bind (Q := fun _ world' =>
      Holds (written world.ledger file).sync world.coordinator world' ∧
        file.bytes.length ≤ maxBootstrapStateBytes)
    · have replaced : Triple (Holds world.ledger world.coordinator) (replaceLedger file) _
        (CutShort world file) := triple_replaceLedger
      apply replaced.consequence
      · rintro _ rfl
        exact ⟨rfl, rfl⟩
      · exact fun _ _ => id
      · rintro world' ⟨writes, -⟩
        exact .inr ⟨state, creates, written_ ▸ writes⟩
    intro _
    apply Triple.assume
    intro short
    apply Triple.bind
    · apply (triple_reconcile_synced within).consequence
      · exact fun _ => id
      · exact fun _ _ => id
      · rintro world' ⟨ledger, -⟩
        exact .inr ⟨state, creates, by rw [written_, ledger]; exact .synced⟩
    intro _
    apply Triple.pure
    rintro world' ⟨⟨ledger, -⟩, accepted⟩
    refine ⟨?_, accepted⟩
    rw [ledger, ← written_]
    exact .created creates (written_ ▸ short)

/-- A coordinator that was opened. -/
structure OpenedAs (sha256 : Sha256) (sessionId machineId : String) (identity : FileIdentity)
    (world : World) (coordinator : DurableBootstrapCoordinator) (world' : World) : Prop where
  identifiers : isIdentifier sessionId = true ∧ isIdentifier machineId = true
  opened : Opened sha256 sessionId machineId identity world coordinator.state world'
  valid : coordinator.state.Valid
  file : ∃ file, world'.ledger.visible = some file ∧
    coordinator.storeGeneration = ⟨coordinator.state.generation, file.identity, file.bytes.length⟩
  usable : coordinator.durabilityUncertain = none

theorem Opens.failed
    (opens : Opens sha256 sessionId machineId identity world.ledger state world'.ledger) :
    OpenFailed sha256 sessionId machineId identity world world' := by
  unfold OpenFailed
  generalize world'.ledger = ledger' at opens
  cases opens with
  | found read bound => exact .inl rfl
  | created creates short => exact .inr ⟨state, creates, .synced⟩

/-- Everything that opening can do to the ledger. -/
theorem triple_openCoordinator :
    Triple (fun world' => world' = world) (openCoordinator sha256 sessionId machineId identity)
      (fun coordinator world' =>
        OpenedAs sha256 sessionId machineId identity world coordinator world')
      (OpenFailed sha256 sessionId machineId identity world) := by
  have unchanged : ∀ world' : World, world' = world →
      OpenFailed sha256 sessionId machineId identity world world' :=
    fun _ same => .inl (congrArg World.ledger same)
  unfold openCoordinator
  apply Triple.bind (Q := fun name world' => world' = world ∧
    (isIdentifier sessionId = true ∧ sessionId = name))
  · exact .query (fun _ _ same named => ⟨same, normalizeIdentifier_eq_ok.mp named⟩) unchanged
  intro name
  apply Triple.assume
  rintro ⟨session, rfl⟩
  apply Triple.bind (Q := fun name world' => world' = world ∧
    (isIdentifier machineId = true ∧ machineId = name))
  · exact .query (fun _ _ same named => ⟨same, normalizeIdentifier_eq_ok.mp named⟩) unchanged
  intro name
  apply Triple.assume
  rintro ⟨machine, rfl⟩
  apply (Triple.access unchanged).bind
  intro _
  apply triple_openState.bind
  intro state
  have failed : ∀ world', Opened sha256 sessionId machineId identity world state world' →
      OpenFailed sha256 sessionId machineId identity world world' := fun _ opened =>
        opened.ledger.failed
  apply Triple.bind (Q := fun _ world' =>
    Opened sha256 sessionId machineId identity world state world' ∧ state.Valid)
  · exact .query
      (fun _ _ opened valid => ⟨opened, DurableBootstrapState.validate_eq_ok.mp valid⟩) failed
  intro _
  apply Triple.assume
  intro valid
  apply (triple_generation failed).bind
  intro storeGeneration
  apply Triple.pure
  rintro world' ⟨opened, file⟩
  exact ⟨⟨session, machine⟩, opened, valid, file, rfl⟩

end Calls

end Linura.Bootstrap
