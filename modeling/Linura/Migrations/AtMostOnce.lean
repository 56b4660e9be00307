import Linura.Lib.Except
import Linura.Lib.Runs
import Linura.Migrations.Runner

/-!
# A migration is applied at most once

Whatever the processes do and wherever they crash, a migration whose `apply` was called
is accounted for by the files: it is in the ledger, or the recovery marker names it, unless
it was rolled back.  Since the next `apply` is called only when there was no marker, the
migration before it is in the ledger by then.

This needs that a power loss keeps changes in order.  The runner that opens a store removes
the marker of a migration that it sees in the ledger, and it may see a ledger that was never
synced.  If the removal is kept and the ledger is not, nothing tells of the migration.
-/

namespace Linura.Migrations

open Linura.Lib
open Program (Triple Keeps)

variable (log : List Event)

/-- Of two calls of `apply`, the first was rolled back before the second, or is in the ledger on
disk when the second one is made for another migration. -/
def AtMostOnce : Prop :=
  ∀ before id disk between id' disk' after,
    log = before ++ .apply id disk :: (between ++ .apply id' disk' :: after) →
    .rolledBack id ∈ between ∨
      (id' ≠ id ∧ disk'.pending = [] ∧ disk'.synced.applied.isApplied id = true)

/-- A migration was applied and then verified. -/
def Earned (id : String) : Prop :=
  ∃ disk, [.apply id disk, .applied id, .verified id] <:+: log

/-- `apply` of a migration was called, and the migration was not rolled back since. -/
def Unresolved (id : String) : Prop :=
  ∃ before disk after, log = before ++ .apply id disk :: after ∧ .rolledBack id ∉ after

/-- The files tell that `apply` of a migration was called. -/
def StoreFiles.Accounts (files : StoreFiles) (id : String) : Prop :=
  files.applied.isApplied id = true ∨ ∃ record, files.recovery = some record ∧
    record.migrationId = id

/-! ### Logs -/

variable {log : List Event} {event : Event} {id id' : String}

/-- What the next event does to the migrations that are not resolved. -/
theorem unresolved_concat (unresolved : Unresolved (log ++ [event]) id) :
    (Unresolved log id ∧ event ≠ .rolledBack id) ∨ ∃ disk, event = .apply id disk := by
  obtain ⟨before, disk, after, same, kept⟩ := unresolved
  rcases concat_eq_append_cons same with ⟨-, -, last⟩ | ⟨after', rfl, earlier⟩
  · exact .inr ⟨disk, last⟩
  · refine .inl ⟨⟨before, disk, after', earlier, ?_⟩, ?_⟩
    · intro member
      exact kept (List.mem_append_left _ member)
    · rintro rfl
      exact kept (List.mem_append_right _ List.mem_cons_self)

/-- An event other than a call of `apply` keeps the calls apart. -/
theorem AtMostOnce.concat (once : AtMostOnce log) (other : ∀ id disk, event ≠ .apply id disk) :
    AtMostOnce (log ++ [event]) := by
  intro before id disk between id' disk' after same
  rw [← List.cons_append, ← List.append_assoc] at same
  rcases concat_eq_append_cons same with ⟨-, -, last⟩ | ⟨after', rfl, earlier⟩
  · exact absurd last (other id' disk')
  · apply once before id disk between id' disk' after'
    rw [earlier, List.append_assoc, List.cons_append]

/-- `apply` is called when every migration before is in the ledger on disk. -/
theorem AtMostOnce.apply (once : AtMostOnce log) {disk : Disk StoreFiles}
    (pending : disk.pending = [])
    (settled : ∀ id, Unresolved log id → disk.synced.applied.isApplied id = true)
    (new : disk.synced.applied.isApplied id' = false) : AtMostOnce (log ++ [.apply id' disk]) := by
  intro before id disk₁ between id₂ disk₂ after same
  rw [← List.cons_append, ← List.append_assoc] at same
  rcases concat_eq_append_cons same with ⟨-, earlier, last⟩ | ⟨after', rfl, earlier⟩
  · cases last
    by_cases rolledBack : .rolledBack id ∈ between
    · exact .inl rolledBack
    · -- the earlier migration is in the ledger, the later one is not
      have entered := settled id ⟨before, disk₁, between, earlier, rolledBack⟩
      refine .inr ⟨?_, pending, entered⟩
      rintro rfl
      rw [new] at entered
      cases entered
  · apply once before id disk₁ between id₂ disk₂ after'
    rw [earlier, List.append_assoc, List.cons_append]

theorem Earned.concat (earned : Earned log id) (event : Event) : Earned (log ++ [event]) id := by
  obtain ⟨disk, within⟩ := earned
  exact ⟨disk, within.trans (List.prefix_append _ _).isInfix⟩

/-! ### The invariant -/

/-- The files account for every migration that is not resolved, and what is in the ledger was there
at the beginning or has been earned.  The first part holds if power losses keep changes in order. -/
structure Sound (inOrder : Prop) (initial : MigrationLedger) (disk : Disk StoreFiles)
    (log : List Event) : Prop where
  accounts : inOrder → ∀ id, Unresolved log id → disk.Throughout (·.Accounts id)
  once : inOrder → AtMostOnce log
  earned : disk.Anyhow fun files => ∀ id, files.applied.isApplied id = true →
    initial.isApplied id = true ∨ Earned log id

section

variable {inOrder : Prop} {initial ledger : MigrationLedger} {disk : Disk StoreFiles}
  {update : StoreFiles → StoreFiles}

theorem Sound.sync (sound : Sound inOrder initial disk log) :
    Sound inOrder initial disk.sync log where
  accounts ordered id unresolved := (sound.accounts ordered id unresolved).sync
  once := sound.once
  earned := sound.earned.sync

/-- A change of the files that accounts for the same migrations and adds none that is not earned. -/
theorem Sound.change (sound : Sound inOrder initial disk log)
    (accounts : inOrder → ∀ id, Unresolved log id → (update disk.visible).Accounts id)
    (earned : ∀ files : StoreFiles, ∀ id, (update files).applied.isApplied id = true →
      files.applied.isApplied id = true ∨ initial.isApplied id = true ∨ Earned log id) :
    Sound inOrder initial (disk.change update) log where
  accounts ordered id unresolved :=
    (sound.accounts ordered id unresolved).change (accounts ordered id unresolved)
  once := sound.once
  earned := by
    apply sound.earned.change
    intro files known id entered
    rcases earned files id entered with before | new
    · exact known id before
    · exact new

/-- Any event but a call of `apply`. -/
theorem Sound.tell (sound : Sound inOrder initial disk log)
    (other : ∀ id disk, event ≠ .apply id disk) :
    Sound inOrder initial disk (log ++ [event]) where
  accounts ordered id unresolved := by
    rcases unresolved_concat unresolved with ⟨earlier, -⟩ | ⟨disk', applied⟩
    · exact sound.accounts ordered id earlier
    · exact absurd applied (other id disk')
  once ordered := (sound.once ordered).concat other
  earned := sound.earned.mono fun files known id entered =>
    (known id entered).imp_right fun earned => earned.concat event

/-- The migration before a call of `apply` is settled, and the marker tells of the call. -/
theorem Sound.apply (sound : Sound inOrder initial disk log) (pending : disk.pending = [])
    (settled : inOrder → ∀ id, Unresolved log id → disk.synced.applied.isApplied id = true)
    (new : disk.synced.applied.isApplied id = false) (marked : disk.synced.Accounts id) :
    Sound inOrder initial disk (log ++ [.apply id disk]) where
  accounts ordered id' unresolved := by
    rcases unresolved_concat unresolved with ⟨earlier, -⟩ | ⟨disk', applied⟩
    · exact sound.accounts ordered id' earlier
    · cases applied
      intro n
      rw [pending, List.take_nil]
      exact marked
  once ordered := (sound.once ordered).apply pending (settled ordered) new
  earned := sound.earned.mono fun files known id entered =>
    (known id entered).imp_right fun earned => earned.concat _

/-- A new machine is sound. -/
theorem sound_new (files : StoreFiles) : Sound inOrder files.applied (.holding files) [] where
  accounts _ id unresolved := by
    obtain ⟨before, disk, after, same, -⟩ := unresolved
    simp at same
  once _ := by
    intro before id disk between id' disk' after same
    simp at same
  earned := Disk.anyhow_of_synced fun id entered => .inl entered

/-- It stays so after a power loss that keeps changes in order. -/
theorem Sound.powerLoss (sound : Sound inOrder initial disk log) {keep : List Bool}
    (ordered : inOrder → Disk.InOrder keep) : Sound inOrder initial (disk.powerLoss keep) log where
  accounts holds id unresolved := (sound.accounts holds id unresolved).powerLoss (ordered holds)
  once := sound.once
  earned := sound.earned.powerLoss keep

end

/-! ### The actions -/

section Actions

variable (inOrder : Prop) (initial : MigrationLedger)

/-- The invariant of the store. -/
def Safe (world : World) : Prop := Sound inOrder initial world.disk world.log

/-- Every migration that is not resolved is in the ledger, or is the one in progress. -/
def Tracked (current : Option String) (world : World) : Prop :=
  Safe inOrder initial world ∧ (inOrder → ∀ id, Unresolved world.log id →
    current = some id ∨ world.disk.visible.applied.isApplied id = true)

variable (ledger : MigrationLedger)

/-- Nothing is in progress, and the ledger is known. -/
def Ready (world : World) : Prop :=
  Tracked inOrder initial none world ∧ world.disk.visible.applied = ledger

/-- The marker of a migration that is not in the ledger is on disk. -/
def Marked (id : String) (world : World) : Prop :=
  Ready inOrder initial ledger world ∧ world.disk.pending = [] ∧
    ∃ record, world.disk.synced.recovery = some record ∧ record.migrationId = id

/-- A migration in progress has got as far as the events say. -/
def Underway (id : String) (events : List Event) (world : World) : Prop :=
  Tracked inOrder initial (some id) world ∧ world.disk.visible.applied = ledger ∧
    (∃ record, world.disk.visible.recovery = some record ∧ record.migrationId = id) ∧
    ∃ before disk, world.log = before ++ .apply id disk :: events

variable {inOrder initial} {ledger : MigrationLedger} {current : Option String} {world : World}
  {P : World → Prop} {update : MigrationRunner → MigrationRunner}

theorem Tracked.safe (tracked : Tracked inOrder initial current world) :
    Safe inOrder initial world :=
  tracked.1

theorem Ready.safe (ready : Ready inOrder initial ledger world) :
    Safe inOrder initial world := ready.1.1

/-- A marker names the only migration that may be missing from the ledger. -/
theorem Safe.tracked (safe : Safe inOrder initial world)
    (marker : ∀ record, world.disk.visible.recovery = some record →
      world.disk.visible.applied.isApplied record.migrationId = true) :
    Tracked inOrder initial none world := by
  refine ⟨safe, ?_⟩
  intro ordered id unresolved
  rcases (safe.accounts ordered id unresolved).visible with entered | ⟨record, found, rfl⟩
  · exact .inr entered
  · exact .inr (marker record found)

theorem Tracked.sync (tracked : Tracked inOrder initial current world) :
    Tracked inOrder initial current world.sync := ⟨tracked.1.sync, tracked.2⟩

/-- A change that leaves the ledger alone. -/
theorem Tracked.changeRecovery (tracked : Tracked inOrder initial none world)
    (recovery : Option MigrationRecoveryRecord) :
    Tracked inOrder initial none (world.change fun files =>
      { files with recovery := recovery }) := by
  have entered : inOrder → ∀ id, Unresolved world.log id →
      world.disk.visible.applied.isApplied id = true :=
    fun ordered id unresolved => (tracked.2 ordered id unresolved).resolve_left nofun
  refine ⟨tracked.1.change ?_ ?_, ?_⟩
  · intro ordered id unresolved
    exact .inl (entered ordered id unresolved)
  · intro files id known
    exact .inl known
  · intro ordered id unresolved
    right
    rw [World.change, Disk.visible_change]
    exact entered ordered id unresolved

/-- A migration that was rolled back is no longer in progress. -/
theorem Tracked.rolledBack {id : String} (tracked : Tracked inOrder initial (some id) world) :
    Tracked inOrder initial none (world.tell (.rolledBack id)) := by
  refine ⟨tracked.1.tell nofun, ?_⟩
  intro ordered id' unresolved
  right
  rcases unresolved_concat unresolved with ⟨earlier, other⟩ | ⟨disk, applied⟩
  · rcases tracked.2 ordered id' earlier with same | entered
    · cases same
      exact absurd rfl other
    · exact entered
  · cases applied

/-- An event other than an application keeps the track. -/
theorem Tracked.tell {event : Event} (tracked : Tracked inOrder initial current world)
    (other : ∀ id disk, event ≠ .apply id disk) :
    Tracked inOrder initial current (world.tell event) := by
  refine ⟨tracked.1.tell other, ?_⟩
  intro ordered id unresolved
  rcases unresolved_concat unresolved with ⟨earlier, -⟩ | ⟨disk, applied⟩
  · exact tracked.2 ordered id earlier
  · exact absurd applied (other id disk)

theorem triple_load (exc : ∀ world, P world → Safe inOrder initial world) :
    Triple P load (fun ledger world => P world ∧ world.disk.visible.applied = ledger)
      (Safe inOrder initial) := by
  apply (Triple.access exc).bind
  intro _
  apply Triple.query
  · rintro world ledger holds ⟨⟩
    exact ⟨holds, rfl⟩
  · exact exc

variable {α : Type} {Q : α → World → Prop}

/-- An error that is passed on after the runner's memory changed. -/
theorem triple_latch {reason : String} {error : MigrationError}
    (safe : ∀ world, P world → Safe inOrder initial world) :
    Triple P (do latchRecovery reason; Program.fail error : Action α) Q (Safe inOrder initial) := by
  apply Triple.bind (Q := fun _ => Safe inOrder initial)
  · exact .modify safe
  · intro _
    exact .fail fun _ => id

theorem triple_clearRecoveryMarker :
    Triple (Ready inOrder initial ledger) clearRecoveryMarker
      (fun _ world => Ready inOrder initial ledger world ∧ world.disk.visible.recovery = none)
      (Safe inOrder initial) := by
  apply (Triple.access fun _ ready => ready.safe).bind
  intro _
  apply Triple.bind (Q := fun present world => Ready inOrder initial ledger world ∧
    world.disk.visible.recovery.isSome = present)
  · apply Triple.query
    · rintro world present ready ⟨⟩
      exact ⟨ready, rfl⟩
    · exact fun _ ready => ready.safe
  intro present
  cases present with
  | false =>
    apply Triple.pure
    rintro world ⟨ready, missing⟩
    exact ⟨ready, by simpa using missing⟩
  | true =>
    apply Triple.bind (Q := fun _ world => Ready inOrder initial ledger world ∧
      world.disk.visible.recovery = none)
    · apply Triple.atomically
      · rintro world ⟨⟨tracked, known⟩, -⟩
        refine ⟨⟨tracked.changeRecovery none, ?_⟩, ?_⟩
        · rw [World.change, Disk.visible_change]
          exact known
        · rw [World.change, Disk.visible_change]
          rfl
      · exact fun _ holds => holds.1.safe
    · intro _
      apply Triple.atomically
      · rintro world ⟨⟨tracked, known⟩, missing⟩
        exact ⟨⟨tracked.sync, known⟩, missing⟩
      · exact fun _ holds => holds.1.safe

theorem triple_cleanUp :
    Triple (Tracked inOrder initial none) cleanUp (fun _ => Safe inOrder initial)
      (Safe inOrder initial) := by
  apply Triple.bind (Q := fun _ => Safe inOrder initial)
  · apply Triple.handle (F := Safe inOrder initial)
    · exact .of_exists fun world tracked => ⟨_, ⟨tracked, rfl⟩,
        triple_clearRecoveryMarker.consequence (fun _ => id)
          (fun _ _ holds => holds.1.safe) fun _ => id⟩
    · exact fun _ => triple_latch fun _ => id
    · exact fun _ => id
  · exact fun _ => .modify fun _ => id

/-- If no marker is reported, none is left. -/
theorem triple_reconcileRecoveryMarker :
    Triple (fun world => Safe inOrder initial world ∧ world.disk.visible.applied = ledger)
      (reconcileRecoveryMarker ledger)
      (fun found world => Safe inOrder initial world ∧ world.disk.visible.applied = ledger ∧
        (found = none → world.disk.visible.recovery = none)) (Safe inOrder initial) := by
  apply Triple.bind (Q := fun found world => (Safe inOrder initial world ∧
    world.disk.visible.applied = ledger) ∧ world.disk.visible.recovery = found)
  · apply (Triple.access fun _ holds => holds.1).bind
    intro _
    apply Triple.query
    · rintro world found holds ⟨⟩
      exact ⟨holds, rfl⟩
    · exact fun _ holds => holds.1
  intro found
  cases found with
  | none =>
    apply Triple.pure
    rintro world ⟨⟨safe, known⟩, missing⟩
    exact ⟨safe, known, fun _ => missing⟩
  | some record =>
    by_cases entered : ledger.isApplied record.migrationId = true
    · simp only [if_pos entered]
      apply Triple.bind (Q := fun _ world => Ready inOrder initial ledger world ∧
        world.disk.visible.recovery = none)
      · refine triple_clearRecoveryMarker.consequence ?_ (fun _ _ => id) fun _ => id
        -- the marker names a migration of the ledger, so it may go
        rintro world ⟨⟨safe, known⟩, found⟩
        refine ⟨safe.tracked ?_, known⟩
        intro record' found'
        rw [found] at found'
        cases found'
        rw [known]
        exact entered
      · intro _
        apply Triple.pure
        rintro world ⟨⟨tracked, known⟩, missing⟩
        exact ⟨tracked.safe, known, fun _ => missing⟩
    · simp only [if_neg entered]
      apply Triple.pure
      rintro world ⟨⟨safe, known⟩, -⟩
      exact ⟨safe, known, nofun⟩

theorem triple_passOn {reason : String} (error : MigrationError)
    (safe : ∀ world, P world → Safe inOrder initial world) :
    Triple P (do
      if error.isDurabilityUncertain then latchRecovery reason else pure ()
      Program.fail error : Action α) Q (Safe inOrder initial) := by
  cases error.isDurabilityUncertain with
  | true => exact triple_latch safe
  | false => exact .fail safe

theorem triple_reconcileBeforeRun :
    Triple (fun world => Safe inOrder initial world ∧ world.disk.visible.applied = ledger)
      (reconcileBeforeRun ledger) (fun _ => Ready inOrder initial ledger)
        (Safe inOrder initial) := by
  apply Triple.bind (Q := fun found world => Safe inOrder initial world ∧
    world.disk.visible.applied = ledger ∧ (found = none → world.disk.visible.recovery = none))
  · apply triple_reconcileRecoveryMarker.handle
    · exact fun error => triple_passOn error fun _ => id
    · exact fun _ => id
  intro found
  cases found with
  | none =>
    apply Triple.pure
    rintro world ⟨safe, known, missing⟩
    refine ⟨safe.tracked ?_, known⟩
    intro record found
    rw [missing rfl] at found
    cases found
  | some record =>
    apply Triple.bind (Q := fun _ => Safe inOrder initial)
    · exact .modify fun _ holds => holds.1
    · exact fun _ => triple_latch fun _ => id

/-! ### Applying a migration -/

variable (migration : Migration)

/-- The marker is written before anything is applied. -/
theorem triple_persistInProgress {record : MigrationRecoveryRecord} :
    Triple (Ready inOrder initial ledger) (persistInProgress migration record)
      (fun _ => Marked inOrder initial ledger record.migrationId) (Safe inOrder initial) := by
  apply Triple.bind (Q := fun _ => Marked inOrder initial ledger record.migrationId)
  · apply Triple.handle (F := Safe inOrder initial)
    · apply triple_atomicWrite (R := fun world => Ready inOrder initial ledger world ∧
        world.disk.visible.recovery = some record)
      · exact fun _ ready => ready.safe
      · rintro world ⟨tracked, known⟩
        refine ⟨⟨tracked.changeRecovery (some record), ?_⟩, ?_⟩
        · rw [World.change, Disk.visible_change]
          exact known
        · rw [World.change, Disk.visible_change]
      · exact fun _ holds => holds.1.safe
      · rintro world ⟨⟨tracked, known⟩, found⟩
        exact ⟨⟨tracked.sync, known⟩, rfl, record, found, rfl⟩
    · exact fun error => triple_passOn error fun _ => id
    · exact fun _ => id
  · exact fun _ => .modify fun _ => id

theorem triple_assertStable {id : String} (held : Option HeldBackup) :
    Triple (Marked inOrder initial ledger id) (assertStable held)
      (fun _ => Marked inOrder initial ledger id) (Safe inOrder initial) := by
  cases held with
  | none => exact .pure fun _ marked => marked
  | some backup =>
    rw [assertStable]
    cases backup.assertStable with
    | ok value => exact .pure fun _ marked => marked
    | error error =>
      apply Triple.bind (Q := fun _ => Safe inOrder initial)
      · exact triple_cleanUp.consequence (fun _ marked => marked.1.1) (fun _ _ safe => safe)
          fun _ safe => safe
      · exact fun _ => .fail fun _ safe => safe

/-- A callback keeps what its success keeps, and fails as it began. -/
theorem triple_callback {Q E : World → Prop} {answer : Except MigrationError Unit} {success : Event}
    (returns : ∀ world, P world → Q (world.tell success)) (fails : ∀ world, P world → E world) :
    Triple P (callback answer success) (fun _ => Q) E := by
  apply (Triple.access fails).bind
  intro _
  exact .peek fails fun _ => .modify returns

/-- A rollback resolves the application. -/
theorem triple_callRollback :
    Triple (Tracked inOrder initial (some migration.descriptor.id)) (callRollback migration)
      (fun _ => Tracked inOrder initial none) (Safe inOrder initial) := by
  apply Triple.handle (F := Safe inOrder initial)
  · exact triple_callback (fun _ tracked => tracked.rolledBack) fun _ tracked => tracked.safe
  · exact fun _ => triple_latch fun _ => id
  · exact fun _ => id

/-- The runner rolls back and cleans up. -/
theorem triple_rollBackAndFail (error : MigrationError) :
    Triple (Tracked inOrder initial (some migration.descriptor.id))
      (if migration.descriptor.reversible then do
        callRollback migration
        cleanUp
        Program.fail error
      else manualRecovery migration.descriptor.id : Action α) Q (Safe inOrder initial) := by
  by_cases reversible : migration.descriptor.reversible = true
  · rw [if_pos reversible]
    apply (triple_callRollback migration).bind
    intro _
    apply triple_cleanUp.bind
    exact fun _ => .fail fun _ => id
  · rw [if_neg reversible]
    exact triple_latch fun _ tracked => tracked.safe

theorem triple_handlePersistFailure (error : MigrationError) :
    Triple (Tracked inOrder initial (some migration.descriptor.id))
      (handlePersistFailure migration error : Action α) Q (Safe inOrder initial) := by
  unfold handlePersistFailure
  split
  · exact triple_latch fun _ tracked => tracked.safe
  · exact triple_rollBackAndFail migration _

/-- The application is recorded as underway. -/
theorem triple_callApply (new : ledger.isApplied migration.descriptor.id = false) :
    Triple (Marked inOrder initial ledger migration.descriptor.id) (callApply migration)
      (fun _ => Underway inOrder initial ledger migration.descriptor.id
        [.applied migration.descriptor.id])
      (Safe inOrder initial) := by
  apply Triple.bind (Q := fun _ => Underway inOrder initial ledger migration.descriptor.id [])
  · apply Triple.modify
    rintro world ⟨⟨⟨safe, settled⟩, known⟩, pending, record, found, named⟩
    -- nothing is pending, so what is seen is what is on disk
    have visible : world.disk.visible = world.disk.synced := by
      rw [Disk.visible, pending]
      rfl
    have applied : world.disk.synced.applied = ledger := visible ▸ known
    refine ⟨⟨safe.apply pending ?_ ?_ (.inr ⟨record, found, named⟩), ?_⟩, known,
      ⟨record, visible.symm ▸ found, named⟩, world.log, world.disk, rfl⟩
    · intro ordered id unresolved
      rw [← visible]
      exact (settled ordered id unresolved).resolve_left (Option.some_ne_none id).symm
    · rw [applied]
      exact new
    · intro ordered id unresolved
      rcases unresolved_concat unresolved with ⟨earlier, -⟩ | ⟨disk, called⟩
      · exact .inr ((settled ordered id earlier).resolve_left (Option.some_ne_none id).symm)
      · cases called
        exact .inl rfl
  · intro _
    apply triple_callback
    · rintro world ⟨tracked, known, found, before, disk, log⟩
      refine ⟨tracked.tell (by simp), known, found, before, disk, ?_⟩
      rw [World.tell, log, List.append_assoc]
      rfl
    · exact fun _ underway => underway.1.safe

/-- So is its verification. -/
theorem triple_callVerify :
    Triple
      (Underway inOrder initial ledger migration.descriptor.id [.applied migration.descriptor.id])
      ((callback migration.verify (.verified migration.descriptor.id)).handle
        (handlePostApplyFailure migration))
      (fun _ => Underway inOrder initial ledger migration.descriptor.id
        [.applied migration.descriptor.id, .verified migration.descriptor.id])
      (Safe inOrder initial) := by
  apply Triple.handle (F := Tracked inOrder initial (some migration.descriptor.id))
  · apply triple_callback
    · rintro world ⟨tracked, known, found, before, disk, log⟩
      refine ⟨tracked.tell nofun, known, found, before, disk, ?_⟩
      rw [World.tell, log, List.append_assoc]
      rfl
    · exact fun _ underway => underway.1
  · exact fun error => triple_rollBackAndFail migration _
  · exact fun _ tracked => tracked.safe

theorem isApplied_markApplied {id : String} {next : MigrationLedger}
    (marked : ledger.markApplied id = .ok next)
    (id' : String) : next.isApplied id' = true ↔ id' = id ∨ ledger.isApplied id' = true := by
  unfold MigrationLedger.markApplied at marked
  split at marked
  · cases marked
    simp [MigrationLedger.isApplied]
  · cases marked

/-- A verified migration is entered in the ledger. -/
theorem triple_persist {next : MigrationLedger}
    (marked : ledger.markApplied migration.descriptor.id = .ok next) :
    Triple
      (Underway inOrder initial ledger migration.descriptor.id
        [.applied migration.descriptor.id, .verified migration.descriptor.id])
      ((persist next).handle (handlePersistFailure migration))
      (fun _ => Tracked inOrder initial none) (Safe inOrder initial) := by
  have entered := isApplied_markApplied marked
  apply Triple.handle (F := Tracked inOrder initial (some migration.descriptor.id))
  · apply triple_atomicWrite (R := fun world =>
      Tracked inOrder initial (some migration.descriptor.id) world ∧
        world.disk.visible.applied = next)
    · exact fun _ underway => underway.1
    · rintro world ⟨⟨safe, settled⟩, known, -, before, disk, log⟩
      have visible : (world.change fun files =>
        { files with ledger := some next }).disk.visible.applied =
          next := by
        rw [World.change, Disk.visible_change]
        rfl
      -- what was in the ledger stays there, and the new entry has been earned
      have grows : inOrder → ∀ id, Unresolved world.log id → next.isApplied id = true := by
        intro ordered id unresolved
        apply (entered id).mpr
        rcases settled ordered id unresolved with same | earlier
        · cases same
          exact .inl rfl
        · exact .inr (known ▸ earlier)
      refine ⟨⟨safe.change ?_ ?_, ?_⟩, visible⟩
      · intro ordered id unresolved
        exact .inl (grows ordered id unresolved)
      · intro files id holds
        right
        rcases (entered id).mp holds with rfl | earlier
        · exact .inr ⟨disk, before, [], by rw [log, List.append_nil]⟩
        · exact safe.earned.visible id (known ▸ earlier)
      · intro ordered id unresolved
        rw [visible]
        exact .inr (grows ordered id unresolved)
    · exact fun _ holds => holds.1
    · rintro world ⟨tracked, known⟩
      refine ⟨tracked.1.sync, ?_⟩
      intro ordered id unresolved
      rcases tracked.2 ordered id unresolved with same | earlier
      · cases same
        right
        change world.disk.visible.applied.isApplied _ = true
        rw [known]
        exact (entered _).mpr (.inl rfl)
      · exact .inr earlier
  · exact fun error => triple_handlePersistFailure migration error
  · exact fun _ tracked => tracked.safe

/-- Applying, verifying and recording is safe. -/
theorem triple_applyAndRecord (new : ledger.isApplied migration.descriptor.id = false) :
    Triple (Marked inOrder initial ledger migration.descriptor.id)
      (applyAndRecord migration ledger) (fun _ => Safe inOrder initial) (Safe inOrder initial) := by
  apply Triple.bind
  · apply (triple_callApply migration new).handle
    · exact fun _ => triple_latch fun _ => id
    · exact fun _ => id
  intro _
  apply (triple_callVerify migration).bind
  intro _
  refine .bind_lift (fun _ underway => underway.1.safe) fun next marked => ?_
  apply (triple_persist migration marked).bind
  intro _
  apply Triple.bind (Q := fun _ => Tracked inOrder initial none)
  · exact .modify fun _ => id
  intro _
  apply triple_cleanUp.bind
  exact fun _ => .pure fun _ => id

theorem migrationId_of_recoveryRecordOf {migration : Migration} {held : Option HeldBackup}
    {record : MigrationRecoveryRecord} (built : recoveryRecordOf migration held = .ok record) :
    record.migrationId = migration.descriptor.id := by
  obtain ⟨checkpoint, -, created⟩ := bind_eq_ok.mp built
  unfold MigrationRecoveryRecord.new at created
  split at created
  · split at created
    · cases created
      rfl
    · cases created
  · cases created

/-- So is the run of a migration that is not applied. -/
theorem triple_runUnapplied (backup : Option HeldBackup)
    (new : ledger.isApplied migration.descriptor.id = false) :
    Triple (Ready inOrder initial ledger) (runUnapplied migration backup ledger)
      (fun _ => Safe inOrder initial) (Safe inOrder initial) := by
  have safe : ∀ world, Ready inOrder initial ledger world → Safe inOrder initial world :=
    fun _ ready => ready.safe
  refine .bind_lift safe fun applicable _ => ?_
  cases applicable with
  | false => exact .pure safe
  | true =>
    refine .bind_lift safe fun held _ => .bind_lift safe fun record built => ?_
    apply (triple_persistInProgress migration).bind
    intro _
    apply (triple_assertStable held).bind
    intro _
    rw [migrationId_of_recoveryRecordOf built]
    exact triple_applyAndRecord migration new

/-- Every run is safe. -/
theorem triple_runWithBackup (backup : Option HeldBackup) :
    Triple (Safe inOrder initial) (runWithBackup migration backup)
      (fun _ => Safe inOrder initial) (Safe inOrder initial) := by
  have same : ∀ world, Safe inOrder initial world → Safe inOrder initial world := fun _ => id
  refine .peek same fun _ => ?_
  apply (Triple.access same).bind
  intro _
  apply (triple_load same).bind
  intro ledger
  apply Triple.bind (Q := fun _ world =>
    Safe inOrder initial world ∧ world.disk.visible.applied = ledger)
  · exact .modify fun _ => id
  intro _
  apply triple_reconcileBeforeRun.bind
  intro _
  refine .peek (fun _ ready => ready.safe) fun _ => ?_
  cases applied : ledger.isApplied migration.descriptor.id with
  | true => exact .pure fun _ ready => ready.safe
  | false => exact triple_runUnapplied migration backup applied

/-- So is opening. -/
theorem triple_openRunner :
    Triple (Safe inOrder initial) openRunner (fun _ => Safe inOrder initial)
      (Safe inOrder initial) := by
  have same : ∀ world, Safe inOrder initial world → Safe inOrder initial world := fun _ => id
  apply (Triple.access same).bind
  intro _
  apply (triple_load same).bind
  intro ledger
  apply triple_reconcileRecoveryMarker.bind
  exact fun _ => .pure fun _ holds => holds.1

end Actions

/-! ### What is in the ledger is left alone -/

section Frame

/-- The log and the ledger are as they were. -/
def Unchanged (log : List Event) (ledger : MigrationLedger) (world : World) : Prop :=
  world.log = log ∧ world.disk.visible.applied = ledger

variable {ledger : MigrationLedger}

theorem keeps_latch {I : World → Prop} {α : Type} {reason : String} {error : MigrationError}
    (memory : ∀ world update, I world → I (world.remember update)) :
    Keeps I (do latchRecovery reason; Program.fail error : Action α) := by
  apply Keeps.bind
  · exact .modify fun world => memory world _
  · exact fun _ => .fail

theorem keeps_clearRecoveryMarker : Keeps (Unchanged log ledger) clearRecoveryMarker := by
  apply Keeps.access.bind
  intro _
  apply Keeps.query.bind
  intro present
  cases present with
  | false => exact .pure
  | true =>
    apply Keeps.bind
    · apply Triple.atomically
      · rintro world ⟨sameLog, known⟩
        refine ⟨sameLog, ?_⟩
        rw [World.change, Disk.visible_change]
        exact known
      · exact fun _ => id
    · intro _
      apply Triple.atomically
      · exact fun _ => id
      · exact fun _ => id

theorem keeps_reconcileBeforeRun (found : MigrationLedger) :
    Keeps (Unchanged log ledger) (reconcileBeforeRun found) := by
  apply Keeps.bind
  · apply Triple.handle (F := Unchanged log ledger)
    · apply Keeps.bind
      · exact .bind .access fun _ => .query
      intro record
      cases record with
      | none => exact .pure
      | some record =>
        dsimp only
        split
        · exact keeps_clearRecoveryMarker.bind fun _ => .pure
        · exact .pure
    · intro error
      cases error.isDurabilityUncertain with
      | true => exact keeps_latch fun _ _ => id
      | false => exact Keeps.fail
    · exact fun _ => id
  · intro record
    cases record with
    | none => exact .pure
    | some record =>
      apply Keeps.bind
      · exact .modify fun _ => id
      · exact fun _ => keeps_latch fun _ _ => id

/-- A migration of the ledger is not applied; it is only reported. -/
theorem triple_runWithBackup_applied (migration : Migration) (backup : Option HeldBackup)
    (applied : ledger.isApplied migration.descriptor.id = true) :
    Triple (Unchanged log ledger) (runWithBackup migration backup)
      (fun outcome world => outcome = .alreadyApplied ∧ world.log = log)
        (fun world => world.log = log) := by
  have sameLog : ∀ world, Unchanged log ledger world → world.log = log := fun _ holds => holds.1
  refine .peek sameLog fun _ => ?_
  apply (Triple.access sameLog).bind
  intro _
  refine .bind_assume (M := Unchanged log ledger) (φ := (· = ledger))
    ((Triple.access sameLog).bind fun _ => .query ?_ sameLog) ?_
  · rintro world found holds ⟨⟩
    exact ⟨holds, holds.2⟩
  rintro found rfl
  apply Triple.bind (Q := fun _ => Unchanged log found)
  · exact .modify fun _ => id
  intro _
  apply Triple.bind (Q := fun _ => Unchanged log found)
  · exact (keeps_reconcileBeforeRun found).weaken sameLog
  intro _
  refine .peek sameLog fun _ => ?_
  rw [applied]
  exact .pure fun _ holds => ⟨rfl, holds.1⟩

end Frame

/-! ### Runs -/

namespace Machine

variable {inOrder : Prop} {initial : MigrationLedger} {machine : Machine}

/-- Every step keeps the machine sound. -/
theorem sound_step (sound : Sound inOrder initial machine.disk machine.log) (step : Step)
    (ordered : inOrder → ∀ keep, step = .powerLoss keep → Disk.InOrder keep) :
    Sound inOrder initial (machine.step step).disk (machine.step step).log := by
  cases step with
  | opens place faults =>
    have opened := triple_openRunner.run ⟨machine.world blank, faults⟩ sound
    rw [Machine.step]
    rcases ended : openRunner ⟨machine.world blank, faults⟩ with ⟨outcome, s⟩
    rw [ended] at opened
    cases outcome with
    | ok | error | crashed => exact opened
  | runs place migration backup faults =>
    rw [Machine.step]
    cases machine.runners place with
    | none => exact sound
    | some runner =>
      have ran := (triple_runWithBackup migration backup).run ⟨machine.world runner, faults⟩ sound
      dsimp only
      rcases ended : runWithBackup migration backup ⟨machine.world runner, faults⟩ with ⟨outcome, s⟩
      rw [ended] at ran
      cases outcome with
      | ok | error | crashed => exact ran
  | powerLoss keep => exact sound.powerLoss fun holds => ordered holds keep rfl

/-- The machine is sound after every run. -/
theorem sound_run (files : StoreFiles) (steps : List Step) :
    Sound (∀ keep, .powerLoss keep ∈ steps → Disk.InOrder keep) files.applied (run files steps).disk
      (run files steps).log := by
  -- the steps that are still to come do not matter to the invariant
  suffices every : ∀ inOrder : Prop, (inOrder → ∀ keep, .powerLoss keep ∈ steps →
    Disk.InOrder keep) →
      Sound inOrder files.applied (run files steps).disk (run files steps).log from every _ id
  induction steps using List.reverseRecOn with
  | nil => exact fun _ _ => sound_new files
  | append_singleton steps step ih =>
    intro inOrder ordered
    rw [run, List.foldl_concat]
    apply sound_step
    · apply ih inOrder
      intro holds keep member
      exact ordered holds keep (List.mem_append_left _ member)
    · intro holds keep same
      exact ordered holds keep (List.mem_append_right _ (List.mem_singleton.mpr same.symm))

/-- In every run in which power losses keep changes in order, `apply` is called again only after the
migration before was rolled back, or for another migration when the one before is in the ledger on
disk.  In every run, whatever may be found in the ledger was there at the beginning or was applied
and verified, and a migration that is seen in the ledger is not applied but reported. -/
theorem run_migrations_at_most_once (files : StoreFiles) (steps : List Step) :
    ((∀ keep, .powerLoss keep ∈ steps → Disk.InOrder keep) → AtMostOnce (run files steps).log) ∧
    (∀ keep id, ((run files steps).disk.remains keep).applied.isApplied id = true →
      files.applied.isApplied id = true ∨ Earned (run files steps).log id) ∧
    (∀ migration backup runner faults,
      (run files steps).disk.visible.applied.isApplied migration.descriptor.id = true →
      match runWithBackup migration backup ⟨(run files steps).world runner, faults⟩ with
      | (.ok outcome, s) => outcome = .alreadyApplied ∧ s.state.log = (run files steps).log
      | (_, s) => s.state.log = (run files steps).log) := by
  have sound := sound_run files steps
  refine ⟨sound.once, sound.earned, ?_⟩
  intro migration backup runner faults applied
  have reported := (triple_runWithBackup_applied migration backup applied).run
    ⟨(run files steps).world runner, faults⟩ ⟨rfl, rfl⟩
  rcases ended : runWithBackup migration backup ⟨(run files steps).world runner, faults⟩
    with ⟨outcome, s⟩
  rw [ended] at reported
  cases outcome with
  | ok | error | crashed => exact reported

/-- A migration that always succeeds. -/
def sampleMigration : Migration where
  descriptor := ⟨"m", "1", false, false⟩
  precondition := .ok true
  apply := .ok ()
  verify := .ok ()
  recoveryTarget := none
  rollback := .ok ()

/-- The first run of the migration crashes when the ledger is renamed and not yet synced.  The
runner that is opened next sees the ledger, and crashes when the marker is removed and not yet
synced. -/
def lossySteps (keep : List Bool) : List Step :=
  [.opens 0 [], .runs 0 sampleMigration none (List.replicate 10 .none ++ [.crash 0]),
    .opens 0 (List.replicate 5 .none ++ [.crash 0]), .powerLoss keep, .opens 0 [],
    .runs 0 sampleMigration none []]

/-- If the power loss keeps the removal of the marker but not the ledger, the migration is applied
twice. -/
theorem lossySteps_not_at_most_once :
    ¬ AtMostOnce (run ⟨none, none⟩ (lossySteps [false, true])).log := by
  intro once
  have twice := once [] "m" _ [.applied "m", .verified "m"] "m" _ [.applied "m", .verified "m"] rfl
  simp at twice

end Machine

end Linura.Migrations
