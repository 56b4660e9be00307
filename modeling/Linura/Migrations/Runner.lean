import Linura.Lib.Disk
import Linura.Lib.Program
import Linura.Lib.Text
import Mathlib.Data.Finset.Insert

/-!
# The migration runner

A migration changes the system once.  The runner keeps a ledger of the migrations that
were applied and a recovery marker for the one in progress, two files in one directory.
The marker is written before a migration is applied, the ledger after it was verified,
and the marker is removed last.  Whoever finds a marker whose migration is not in the
ledger refuses to go on.

The files hold values here, not text.  Every access to a file may fail, and a process may
crash at each of them and while a migration works.
-/

namespace Linura.Migrations

open Linura.Lib
open Program (access atomically fail lift query)

/-- `MAX_RECOVERY_PATH_BYTES` -/
def maxRecoveryPathBytes : Nat := 4096

inductive MigrationError
  | invalidDescriptor (message : String)
  | operation (message : String)
  | recoveryCheckpointRequired (id : String)
  | recoveryTargetRequired (id : String)
  | recoveryCheckpointUnavailable (id : String)
  | backupNotIndependent
  | backupMismatch
  | backupTargetMismatch
  | backupArtifactNotRegular
  | untrustedBackupArtifact
  | untrustedLedgerPath
  | untrustedLockPath
  | untrustedRecoveryPath
  | unsupportedLedgerVersion
  | corruptLedger (reason : String)
  | corruptRecoveryMarker (reason : String)
  | ledgerCommitFailed (migrationId reason : String)
  | durabilityUncertain (reason : String)
  | recoveryRequired (reason : String)
  | verificationFailed (migrationId reason : String)
  | manualRecoveryRequired (id : String)
  | io (message : String)
  deriving DecidableEq, Repr

/-- `Display` of `MigrationError` -/
def MigrationError.display : MigrationError → String
  | .invalidDescriptor message => message
  | .operation message => message
  | .recoveryCheckpointRequired id => "migration " ++ id ++ " requires a validated recovery backup"
  | .recoveryTargetRequired id => "migration " ++ id ++ " requires an exact recovery target binding"
  | .recoveryCheckpointUnavailable id =>
    "migration " ++ id ++ " has no persisted recovery checkpoint to revalidate"
  | .backupNotIndependent => "migration backup must be a distinct single-purpose file/inode"
  | .backupMismatch => "migration backup no longer matches its validated source bytes/identity"
  | .backupTargetMismatch => "migration backup is not bound to the exact migration target"
  | .backupArtifactNotRegular => "migration backup evidence must use regular non-symlink files"
  | .untrustedBackupArtifact =>
    "migration backup must be a single-link artifact without group/other write access"
  | .untrustedLedgerPath =>
    "migration ledger must be a regular non-symlink file without group/other write access"
  | .untrustedLockPath =>
    "migration lock must be a stable regular non-symlink file without group/other write access"
  | .untrustedRecoveryPath =>
    "migration recovery marker must be a regular non-symlink file without group/other write access"
  | .unsupportedLedgerVersion => "unsupported migration ledger version"
  | .corruptLedger reason => "corrupt migration ledger: " ++ reason
  | .corruptRecoveryMarker reason => "corrupt migration recovery marker: " ++ reason
  | .ledgerCommitFailed migrationId reason => "migration " ++ migrationId ++
    " ledger commit failed before the commit point and the effect was rolled back: " ++ reason
  | .durabilityUncertain reason =>
    "migration effect or recovery state has uncertain durability: " ++ reason
  | .recoveryRequired reason =>
    "migration runner requires reopen/recovery before further work: " ++ reason
  | .verificationFailed migrationId reason =>
    "migration " ++ migrationId ++ " verification failed after rollback: " ++ reason
  | .manualRecoveryRequired id => "migration " ++ id ++ " requires manual recovery"
  | .io message => "migration persistence I/O failed: " ++ message

/-- `matches!(error, MigrationError::DurabilityUncertain(_))` -/
def MigrationError.isDurabilityUncertain : MigrationError → Bool
  | .durabilityUncertain _ => true
  | _ => false

/-- `io_error` -/
def ioError (code : Nat) : MigrationError := .io (osErrorText code)

/-! ### Descriptors, ledgers and recovery records -/

/-- `valid_identifier` -/
def validIdentifier (value : String) (maxLen : Nat) : Bool := isPathSafe maxLen value

structure MigrationDescriptor where
  id : String
  introducedIn : String
  reversible : Bool
  requiresSnapshot : Bool
  deriving DecidableEq, Repr

def MigrationDescriptor.validate (descriptor : MigrationDescriptor) : Except MigrationError Unit :=
  if ¬ validIdentifier descriptor.id 128 then
    .error (.invalidDescriptor "migration id must be a bounded path-safe identifier")
  else if trimIsEmpty descriptor.introducedIn ∨ 64 < descriptor.introducedIn.utf8ByteSize ∨
      hasControl descriptor.introducedIn then
    .error (.invalidDescriptor "introduced_in must be a bounded version identifier")
  else .ok ()

structure MigrationLedger where
  applied : Finset String
  valid : ∀ id ∈ applied, validIdentifier id 128 = true

def MigrationLedger.default : MigrationLedger := ⟨∅, by simp⟩

variable (ledger : MigrationLedger)

/-- `MigrationLedger::is_applied` -/
def MigrationLedger.isApplied (id : String) : Bool := id ∈ ledger.applied

/-- `MigrationLedger::mark_applied` -/
def MigrationLedger.markApplied (id : String) : Except MigrationError MigrationLedger :=
  if valid : validIdentifier id 128 = true then
    .ok ⟨insert id ledger.applied, by
      intro id' member
      rcases Finset.mem_insert.mp member with rfl | earlier
      · exact valid
      · exact ledger.valid id' earlier⟩
  else .error (.invalidDescriptor "migration id must be a bounded path-safe identifier")

structure ValidatedBackup where
  sourcePath : Bytes
  backupPath : Bytes
  sourceDevice : UInt64
  sourceInode : UInt64
  backupDevice : UInt64
  backupInode : UInt64
  size : UInt64
  integrityTag : UInt64
  deriving DecidableEq

structure MigrationRecoveryCheckpoint where
  targetPath : Bytes
  backupPath : Bytes
  targetDevice : UInt64
  targetInode : UInt64
  backupDevice : UInt64
  backupInode : UInt64
  size : UInt64
  integrityTag : UInt64
  deriving DecidableEq

/-- `Path::is_absolute` -/
def isAbsolute (path : Bytes) : Bool := path.head? == some 0x2f

/-- `MigrationRecoveryCheckpoint::validate_descriptor` -/
def MigrationRecoveryCheckpoint.validateDescriptor (checkpoint : MigrationRecoveryCheckpoint) :
    Except MigrationError Unit :=
  if checkpoint.targetPath = checkpoint.backupPath ∨ ¬ isAbsolute checkpoint.targetPath ∨
      ¬ isAbsolute checkpoint.backupPath ∨ checkpoint.targetPath = [] ∨ checkpoint.backupPath = [] ∨
      maxRecoveryPathBytes < checkpoint.targetPath.length ∨
      maxRecoveryPathBytes < checkpoint.backupPath.length ∨ checkpoint.size = 0 then
    .error (.corruptRecoveryMarker "recovery checkpoint descriptor is invalid")
  else .ok ()

/-- `MigrationRecoveryCheckpoint::from_validated_backup` -/
def MigrationRecoveryCheckpoint.fromValidatedBackup (backup : ValidatedBackup) :
    Except MigrationError MigrationRecoveryCheckpoint := do
  let checkpoint : MigrationRecoveryCheckpoint :=
    { targetPath := backup.sourcePath
      backupPath := backup.backupPath
      targetDevice := backup.sourceDevice
      targetInode := backup.sourceInode
      backupDevice := backup.backupDevice
      backupInode := backup.backupInode
      size := backup.size
      integrityTag := backup.integrityTag }
  checkpoint.validateDescriptor
  pure checkpoint

def checkCheckpoint : Option MigrationRecoveryCheckpoint → Except MigrationError Unit
  | none => .ok ()
  | some checkpoint => checkpoint.validateDescriptor

structure MigrationRecoveryRecord where
  migrationId : String
  checkpoint : Option MigrationRecoveryCheckpoint
  validId : validIdentifier migrationId 128 = true
  validCheckpoint : checkCheckpoint checkpoint = .ok ()

def MigrationRecoveryRecord.new (migrationId : String)
    (checkpoint : Option MigrationRecoveryCheckpoint) :
      Except MigrationError MigrationRecoveryRecord :=
  if validId : validIdentifier migrationId 128 = true then
    match validCheckpoint : checkCheckpoint checkpoint with
    | .ok () => .ok ⟨migrationId, checkpoint, validId, validCheckpoint⟩
    | .error reason => .error reason
  else .error (.corruptRecoveryMarker "recovery record contains an invalid migration id")

/-- A migration with the answers that it gives in one call of the runner. -/
structure Migration where
  descriptor : MigrationDescriptor
  precondition : Except MigrationError Bool
  apply : Except MigrationError Unit
  verify : Except MigrationError Unit
  recoveryTarget : Option Bytes
  rollback : Except MigrationError Unit

/-- A validated backup with the results, in one call of the runner, of `hold_for_target` and of
`assert_stable`, which compare files outside of the store. -/
structure HeldBackup where
  evidence : ValidatedBackup
  holdForTarget : Bytes → Except MigrationError Unit
  assertStable : Except MigrationError Unit

inductive MigrationOutcome
  | applied
  | alreadyApplied
  | notApplicable
  deriving DecidableEq, Repr

/-! ### The store and the runner -/

structure StoreFiles where
  ledger : Option MigrationLedger
  recovery : Option MigrationRecoveryRecord

/-- The migrations in the ledger file; a file that is missing counts as empty. -/
def StoreFiles.applied (files : StoreFiles) : MigrationLedger := files.ledger.getD .default

/-- What happens to migrations: `apply` is called, with the disk of the store as it is then, and the
three callbacks return successfully. -/
inductive Event
  | apply (id : String) (disk : Disk StoreFiles)
  | applied (id : String)
  | verified (id : String)
  | rolledBack (id : String)

/-- `MigrationRunner`, of an opened store -/
structure MigrationRunner where
  ledger : MigrationLedger
  recoveryRequired : Option String
  recoveryRecord : Option MigrationRecoveryRecord

/-- The disk, the memory of the runner at work, and what has happened. -/
structure World where
  disk : Disk StoreFiles
  runner : MigrationRunner
  log : List Event

/-- What the runner does. -/
abbrev Action := Program World MigrationError

def World.change (update : StoreFiles → StoreFiles) (world : World) : World :=
  { world with disk := world.disk.change update }

/-- Sync the directory of the files. -/
def World.sync (world : World) : World := { world with disk := world.disk.sync }

/-- Tell what happens. -/
def World.tell (event : Event) (world : World) : World := { world with log := world.log ++ [event] }

/-- Change the memory of the runner. -/
def World.remember (update : MigrationRunner → MigrationRunner) (world : World) : World :=
  { world with runner := update world.runner }

/-- The faults of a control file: it is not trusted, or the system fails. -/
def pathFault (untrusted : MigrationError) : Nat → MigrationError
  | 0 => untrusted
  | code => ioError code

/-- The faults of a file that is read: moreover, it may be corrupt. -/
def readFault (untrusted : MigrationError) (corrupt : String → MigrationError) :
    Nat → MigrationError
  | 0 => untrusted
  | 1 => corrupt "unreadable"
  | code => ioError code

/-- `atomic_write` -/
def writeFile (update : StoreFiles → StoreFiles) (label : String) : Action Unit :=
  atomicWrite ioError (fun code => .durabilityUncertain
    (label ++ " rename completed but parent-directory fsync failed: " ++ osErrorText code))
    (World.change update) World.sync

/-- `MigrationLedgerStore::acquire_exclusive`.  While a call has the lock, no other call works. -/
def acquireExclusive : Action Unit := access (pathFault .untrustedLockPath)

/-- `MigrationLedgerStore::load` -/
def load : Action MigrationLedger := do
  access (readFault .untrustedLedgerPath .corruptLedger)
  query fun world => .ok world.disk.visible.applied

/-- `MigrationLedgerStore::persist` -/
def persist : Action Unit :=
  writeFile (fun files => { files with ledger := some ledger }) "migration ledger"

/-- `MigrationLedgerStore::load_recovery_record` -/
def loadRecoveryRecord : Action (Option MigrationRecoveryRecord) := do
  access (readFault .untrustedRecoveryPath .corruptRecoveryMarker)
  query fun world => .ok world.disk.visible.recovery

/-- `MigrationLedgerStore::persist_recovery_record` -/
def persistRecoveryRecord (record : MigrationRecoveryRecord) : Action Unit :=
  writeFile (fun files => { files with recovery := some record }) "migration recovery marker"

def StoreFiles.removeRecovery (files : StoreFiles) : StoreFiles := { files with recovery := none }

/-- `MigrationLedgerStore::clear_recovery_marker` -/
def clearRecoveryMarker : Action Unit := do
  access (pathFault .untrustedRecoveryPath)
  let present ← query fun world => .ok world.disk.visible.recovery.isSome
  if present then do
    atomically ioError (World.change .removeRecovery)
    atomically (fun code => .durabilityUncertain
      ("migration recovery marker removal completed but parent-directory fsync failed: " ++
        osErrorText code)) World.sync
  else pure ()

/-- `MigrationLedgerStore::reconcile_recovery_marker` -/
def reconcileRecoveryMarker : Action (Option MigrationRecoveryRecord) := do
  match ← loadRecoveryRecord with
  | none => pure none
  | some record =>
    if ledger.isApplied record.migrationId then do
      clearRecoveryMarker
      pure none
    else pure (some record)

/-- The reason for which a runner refuses to work when it finds a recovery marker. -/
def persistedReason (record : MigrationRecoveryRecord) : String :=
  "persisted recovery record for migration " ++ record.migrationId

/-- `MigrationRunner::open` -/
def openRunner : Action MigrationRunner := do
  acquireExclusive
  let ledger ← load
  let recoveryRecord ← reconcileRecoveryMarker ledger
  pure ⟨ledger, recoveryRecord.map persistedReason, recoveryRecord⟩

/-- `latch_recovery` -/
def latchRecovery (reason : String) : Action Unit :=
  Program.modify (World.remember fun runner => { runner with recoveryRequired := some reason })

/-- Set the recovery record in memory. -/
def rememberRecord (record : Option MigrationRecoveryRecord) : Action Unit :=
  Program.modify (World.remember fun runner => { runner with recoveryRecord := record })

/-- Set the ledger in memory. -/
def rememberLedger : Action Unit :=
  Program.modify (World.remember fun runner => { runner with ledger := ledger })

/-- Fail with the error of `manual_recovery_error`. -/
def manualRecovery {α : Type} (migrationId : String) : Action α := do
  latchRecovery ("migration " ++ migrationId ++ " requires manual recovery")
  fail (.manualRecoveryRequired migrationId)

/-- `handle_cleanup_failure` -/
def handleCleanupFailure {α : Type} (error : MigrationError) : Action α := do
  let reason := "migration recovery marker cleanup is uncertain: " ++ error.display
  latchRecovery reason
  fail (.durabilityUncertain reason)

/-- Clear the marker, on disk and in memory. -/
def cleanUp : Action Unit := do
  clearRecoveryMarker.handle handleCleanupFailure
  rememberRecord none

/-- Call a migration, which may crash, and tell of its success. -/
def callback (answer : Except MigrationError Unit) (success : Event) : Action Unit := do
  access fun code => .operation (osErrorText code)
  lift answer
  Program.modify (World.tell success)

variable (migration : Migration)

/-- Call `apply`. -/
def callApply : Action Unit := do
  Program.modify fun world => world.tell (.apply migration.descriptor.id world.disk)
  callback migration.apply (.applied migration.descriptor.id)

/-- Call `rollback`; if it fails, the operator has to recover. -/
def callRollback : Action Unit :=
  (callback migration.rollback (.rolledBack migration.descriptor.id)).handle fun _ =>
    manualRecovery migration.descriptor.id

/-- `handle_post_apply_failure` -/
def handlePostApplyFailure {α : Type} (error : MigrationError) : Action α :=
  if migration.descriptor.reversible then do
    callRollback migration
    cleanUp
    fail (.verificationFailed migration.descriptor.id error.display)
  else manualRecovery migration.descriptor.id

/-- `handle_persist_failure` -/
def handlePersistFailure {α : Type} : MigrationError → Action α
  | .durabilityUncertain reason => do
    let reason := migration.descriptor.id ++ ": " ++ reason
    latchRecovery reason
    fail (.durabilityUncertain reason)
  | error =>
    if migration.descriptor.reversible then do
      callRollback migration
      cleanUp
      fail (.ledgerCommitFailed migration.descriptor.id error.display)
    else manualRecovery migration.descriptor.id

/-- Reconcile the marker before a migration is run; a marker that stays ends the call. -/
def reconcileBeforeRun : Action Unit := do
  let found ← (reconcileRecoveryMarker ledger).handle fun error => do
    if error.isDurabilityUncertain then
      latchRecovery ("migration recovery marker reconciliation is durability-uncertain: " ++
        error.display)
    else pure ()
    fail error
  match found with
  | none => pure ()
  | some record => do
    rememberRecord (some record)
    latchRecovery (persistedReason record)
    fail (.recoveryRequired (persistedReason record))

variable (backup : Option HeldBackup)

/-- The backup that a migration has to hold, if it requires a snapshot. -/
def checkpointGuard : Except MigrationError (Option HeldBackup) :=
  if migration.descriptor.requiresSnapshot then
    match migration.recoveryTarget with
    | none => .error (.recoveryTargetRequired migration.descriptor.id)
    | some target =>
      match backup with
      | none => .error (.recoveryCheckpointRequired migration.descriptor.id)
      | some backup => do
        backup.holdForTarget target
        pure (some backup)
  else .ok none

/-- The record that is persisted while a migration is in progress. -/
def recoveryRecordOf (held : Option HeldBackup) :
    Except MigrationError MigrationRecoveryRecord := do
  let checkpoint ← held.mapM fun backup =>
    MigrationRecoveryCheckpoint.fromValidatedBackup backup.evidence
  MigrationRecoveryRecord.new migration.descriptor.id checkpoint

def persistInProgress (record : MigrationRecoveryRecord) : Action Unit := do
  (persistRecoveryRecord record).handle fun error => do
    if error.isDurabilityUncertain then
      latchRecovery (migration.descriptor.id ++
        ": durable in-progress recovery record is uncertain")
    else pure ()
    fail error
  rememberRecord (some record)

/-- Check the held backup once more before the migration is applied. -/
def assertStable : Option HeldBackup → Action Unit
  | none => pure ()
  | some backup =>
    match backup.assertStable with
    | .ok () => pure ()
    | .error error => do
      cleanUp
      fail error

def applyAndRecord (ledger : MigrationLedger) : Action MigrationOutcome := do
  (callApply migration).handle fun _ => manualRecovery migration.descriptor.id
  (callback migration.verify (.verified migration.descriptor.id)).handle
    (handlePostApplyFailure migration)
  let next ← lift (ledger.markApplied migration.descriptor.id)
  (persist next).handle (handlePersistFailure migration)
  rememberLedger next
  cleanUp
  pure .applied

def runUnapplied (ledger : MigrationLedger) : Action MigrationOutcome := do
  let applicable ← lift migration.precondition
  if applicable then do
    let held ← lift (checkpointGuard migration backup)
    let record ← lift (recoveryRecordOf migration held)
    persistInProgress migration record
    assertStable held
    applyAndRecord migration ledger
  else pure .notApplicable

/-- Refuse to work after something went wrong. -/
def ensureUsable : Action Unit :=
  query fun world =>
    match world.runner.recoveryRequired with
    | some reason => .error (.recoveryRequired reason)
    | none => .ok ()

/-- `MigrationRunner::run_with_backup`; `run` has no backup -/
def runWithBackup : Action MigrationOutcome := do
  ensureUsable
  acquireExclusive
  let ledger ← load
  rememberLedger ledger
  reconcileBeforeRun ledger
  lift migration.descriptor.validate
  if ledger.isApplied migration.descriptor.id then pure .alreadyApplied
  else runUnapplied migration backup ledger

/-! ### Runs -/

/-- Processes open runners, each in its own place, and run migrations with them.  A call meets the
listed faults.  A power loss ends all processes and keeps the marked changes. -/
inductive Step
  | opens (place : Nat) (faults : List Fault)
  | runs (place : Nat) (migration : Migration) (backup : Option HeldBackup) (faults : List Fault)
  | powerLoss (keep : List Bool)

/-- A store with the runners that are open on it. -/
structure Machine where
  disk : Disk StoreFiles
  runners : Nat → Option MigrationRunner
  log : List Event

namespace Machine

/-- A store with no runner. -/
def new (files : StoreFiles) : Machine := ⟨.holding files, fun _ => none, []⟩

def world (machine : Machine) (runner : MigrationRunner) : World :=
  ⟨machine.disk, runner, machine.log⟩

/-- What a runner that is not open yet remembers. -/
def blank : MigrationRunner := ⟨.default, none, none⟩

/-- The runner in a place works until it returns or crashes, which ends it. -/
def step (machine : Machine) : Step → Machine
  | .opens place faults =>
    match openRunner ⟨machine.world blank, faults⟩ with
    | (.ok runner, s) =>
      ⟨s.state.disk, Function.update machine.runners place (some runner), s.state.log⟩
    | (_, s) => ⟨s.state.disk, machine.runners, s.state.log⟩
  | .runs place migration backup faults =>
    match machine.runners place with
    | none => machine
    | some runner =>
      match runWithBackup migration backup ⟨machine.world runner, faults⟩ with
      | (.crashed, s) => ⟨s.state.disk, Function.update machine.runners place none, s.state.log⟩
      | (_, s) =>
        ⟨s.state.disk, Function.update machine.runners place (some s.state.runner), s.state.log⟩
  | .powerLoss keep => ⟨machine.disk.powerLoss keep, fun _ => none, machine.log⟩

/-- The store after a sequence of steps. -/
def run (files : StoreFiles) (steps : List Step) : Machine := steps.foldl step (new files)

end Machine

end Linura.Migrations
