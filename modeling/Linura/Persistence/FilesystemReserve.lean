import Linura.Lib.Program
import Linura.Lib.SparseFile
import Linura.Persistence.Validation

/-!
# The recovery reserve beside the database

A file beside the database keeps storage allocated for the audit events that
unfinished transactions may still need: one slot for each reservation and one for
the opener.  Every change of the file is an effect that may fail or be cut short, a
write after any number of its bytes.  The path always names a regular file with one
link on the database's filesystem, and only the store changes it.
-/

namespace Linura.Persistence

open Linura.Lib Linura.Transaction
open Program (atomically effect fail lift query)

/-- Why a file operation failed: the operating system's code, or a check of the store. -/
inductive IoError
  | os (code : Nat)
  | invalidData (reason : String)
  | other (reason : String)
  deriving DecidableEq, Repr

/-- `io_store`; of the operating system's texts only the code is kept. -/
def ioStore : IoError → TransactionStoreError
  | .os code =>
    if code = 28 then .storage "physical storage exhausted (ENOSPC): os error 28"
    else .storage ("os error " ++ toString code)
  | .invalidData reason => .corruption reason
  | .other reason => .storage reason

/-- `MIN_RECOVERY_RESERVE_SLOT_BYTES` -/
def minRecoveryReserveSlotBytes : Nat := 1024 * 1024
/-- `RECOVERY_RESERVE_WAL_PAGES` -/
def recoveryReserveWalPages : Nat := 32
/-- `RESERVE_WRITE_CHUNK_BYTES` -/
def reserveWriteChunkBytes : Nat := 64 * 1024

/-- `RecoveryReserve`: the size of a slot. -/
structure RecoveryReserve where
  slotBytes : Nat
  positive : 0 < slotBytes

/-- `RecoveryReserve::from_database_path` for a page size too small to overflow. -/
def RecoveryReserve.fromPageSize (pageSize : Nat) : RecoveryReserve where
  slotBytes := max (pageSize * recoveryReserveWalPages) minRecoveryReserveSlotBytes
  positive := lt_of_lt_of_le (by decide) (le_max_right _ _)

/-- Programs on the file, which may be absent. -/
abbrev ReserveProgram (α : Type) := Program (Option SparseFile) IoError α

/-! ### File operations -/

/-- Read something off the open file. -/
def inspect {α : Type} (read : SparseFile → Except IoError α) : ReserveProgram α :=
  query fun
    | some file => read file
    | none => .error (.other "entity not found")

/-- `File::sync_all`, and every other call that may fail without changing the file. -/
def syncAll : ReserveProgram Unit := atomically .os id

/-- `File::set_len` -/
def setLen (length : Nat) : ReserveProgram Unit :=
  atomically .os (Option.map (SparseFile.setLen length))

/-- `Write::write_all` at an offset. -/
def writeAll (offset count : Nat) : ReserveProgram Unit :=
  effect .os (fun progress => Option.map (SparseFile.write offset (min progress count)))
    (Option.map (SparseFile.write offset count))

/-- `fallocate` with `PUNCH_HOLE | KEEP_SIZE` -/
def punchHole (offset count : Nat) : ReserveProgram Unit :=
  effect .os (fun progress => Option.map (SparseFile.punch offset (min progress count)))
    (Option.map (SparseFile.punch offset count))

/-- `open_locked`: open the file, after creating it if it is absent. -/
def openLocked : ReserveProgram Unit := do
  let present ← query fun file => .ok file.isSome
  if present then syncAll
  else
    atomically .os fun _ => some .empty
    syncAll

/-- `file.metadata()?.len()` -/
def fileLength : ReserveProgram Nat := inspect fun file => .ok file.length

/-- `verify_physical_allocation` -/
def verifyPhysicalAllocation (expectedLen : Nat) (file : SparseFile) : Except IoError Unit :=
  if file.length ≠ expectedLen then
    .error (.invalidData "filesystem recovery reserve length changed unexpectedly")
  else if file.allocatedBytes < expectedLen then
    .error (.invalidData "filesystem recovery reserve is sparse or not physically allocated")
  else .ok ()

/-- `verify_released_opener_headroom` -/
def verifyReleasedOpenerHeadroom (expectedLen slotBytes : Nat) (file : SparseFile) :
    Except IoError Unit :=
  if file.length ≠ expectedLen ∨ expectedLen < slotBytes then
    .error (.invalidData "filesystem recovery reserve released-opener length is invalid")
  else if file.allocatedBytes < expectedLen - slotBytes ∨ expectedLen ≤ file.allocatedBytes then
    .error (.invalidData
      "filesystem recovery reserve does not contain exactly bounded opener headroom")
  else .ok ()

/-- The loop that fills the file from `position` to `stop` in chunks. -/
def writeChunks (position stop : Nat) : ReserveProgram Unit :=
  if position < stop then do
    let length := min (stop - position) reserveWriteChunkBytes
    writeAll position length
    writeChunks (position + length) stop
  else pure ()
termination_by stop - position
decreasing_by
  have chunk : 0 < reserveWriteChunkBytes := by decide
  omega

/-- `rollback_growth`, which ignores its own failures. -/
def rollbackGrowth (original : Nat) : ReserveProgram Unit := do
  (setLen original).handle fun _ => pure ()
  syncAll.handle fun _ => pure ()

/-! ### Operations of the reserve -/

namespace RecoveryReserve

variable (reserve : RecoveryReserve)

/-- `target_len` -/
def targetLen (slots : Nat) : Except IoError Nat :=
  orFail (.other "recovery reserve size overflow") (checkedMul reserve.slotBytes slots)

/-- `require_aligned` -/
def requireAligned (length : Nat) : Except IoError Unit :=
  if length % reserve.slotBytes ≠ 0 then
    .error (.invalidData "filesystem recovery reserve length is not slot-aligned")
  else .ok ()

/-- `release_opener_headroom`: punch a hole into the last slot. -/
def releaseOpenerHeadroom : ReserveProgram Unit := do
  openLocked
  let length ← fileLength
  lift (reserve.requireAligned length)
  let minimum ← lift (orFail (.other "recovery reserve size overflow")
    (checkedMul reserve.slotBytes 2))
  if length < minimum then
    fail (.invalidData "filesystem recovery reserve has no dedicated opener slot to release")
  else
    let allocated ← inspect fun file => .ok file.allocatedBytes
    let minimumAllocated := length - reserve.slotBytes
    if allocated < minimumAllocated then
      fail
        (.invalidData "filesystem recovery reserve has allocation loss beyond the opener slot")
    else
      punchHole minimumAllocated reserve.slotBytes
      syncAll
      inspect (verifyReleasedOpenerHeadroom length reserve.slotBytes)

/-- `restore_opener_headroom`: write the last slot again. -/
def restoreOpenerHeadroom (expectedLen : Nat) : ReserveProgram Unit := do
  openLocked
  let length ← fileLength
  if length ≠ expectedLen ∨ expectedLen < reserve.slotBytes then
    fail
      (.invalidData "filesystem recovery reserve opener restoration target is invalid")
  else
    writeChunks (expectedLen - reserve.slotBytes) expectedLen
    syncAll
    inspect (verifyPhysicalAllocation expectedLen)

/-- `ensure_slots`: grow the file to a number of slots, or leave it as it was. -/
def ensureSlots (desiredSlots : Nat) : ReserveProgram Unit := do
  let target ← lift (reserve.targetLen desiredSlots)
  openLocked
  let original ← fileLength
  lift (reserve.requireAligned original)
  if target ≤ original then inspect (verifyPhysicalAllocation original)
  else
    (do writeChunks original target
        syncAll).handle fun error => do
      rollbackGrowth original
      fail error
    inspect (verifyPhysicalAllocation target)

/-- `release_to_slots`: cut the file to a number of slots. -/
def releaseToSlots (desiredSlots : Nat) : ReserveProgram Unit := do
  let target ← lift (reserve.targetLen desiredSlots)
  openLocked
  let current ← fileLength
  lift (reserve.requireAligned current)
  if current < target then
    fail (.invalidData
      "filesystem recovery reserve is smaller than the requested release target")
  else
    if target < current then
      setLen target
      syncAll
    inspect (verifyPhysicalAllocation target)

/-- The slots that a number of reservations needs: none, or one each and one for the opener. -/
def expectedSlots (reservationRows : Nat) : Except TransactionStoreError Nat :=
  if reservationRows = 0 then .ok 0 else orFail .capacityExceeded (checkedAdd reservationRows 1)

/-- What `validate_and_reconcile` does with a file of exactly the expected length. -/
def reconcileEqual (expectedLen reservationRows : Nat) (openerReleased : Bool) :
    Program (Option SparseFile) TransactionStoreError Unit := do
  openLocked.mapError ioStore
  if openerReleased then
    if reservationRows = 0 then fail .stateConflict
    else (inspect (verifyReleasedOpenerHeadroom expectedLen reserve.slotBytes)).mapError ioStore
  else
    let verified ← query fun file =>
      .ok (file.map (verifyPhysicalAllocation expectedLen))
    let released ← query fun file =>
      .ok (file.map (verifyReleasedOpenerHeadroom expectedLen reserve.slotBytes))
    match verified with
    | some (.ok ()) => pure ()
    | some (.error error) =>
      if 0 < reservationRows ∧ released = some (.ok ()) then
        (reserve.restoreOpenerHeadroom expectedLen).mapError ioStore
      else fail (ioStore error)
    | none => fail (ioStore (.other "entity not found"))

/-- `validate_and_reconcile`: bring the file to the length that a number of reservations needs, as
far as what it finds can be the residue of a crash. -/
def validateAndReconcile (reservationRows : Nat) (openerReleased : Bool) :
    Program (Option SparseFile) TransactionStoreError Unit := do
  let slots ← lift (expectedSlots reservationRows)
  let expectedLen ← (lift (reserve.targetLen slots)).mapError ioStore
  let present ← query fun file => .ok file.isSome
  if !present then
    if reservationRows = 0 then pure ()
    else fail (.corruption
      "filesystem recovery reserve is missing for nonterminal authority state")
  else
    openLocked.mapError ioStore
    let current ← fileLength.mapError ioStore
    if current % reserve.slotBytes ≠ 0 then
      if current ≤ expectedLen then
        fail (.corruption ("filesystem recovery reserve is unaligned and does not " ++
          "contain provably excess crash residue"))
      else
        (do setLen expectedLen
            syncAll
            inspect (verifyPhysicalAllocation expectedLen)).mapError ioStore
    else if slots < current / reserve.slotBytes then
      (reserve.releaseToSlots slots).mapError ioStore
    else if current / reserve.slotBytes = slots then
      reserve.reconcileEqual expectedLen reservationRows openerReleased
    else if current / reserve.slotBytes + 1 = slots then
      (reserve.ensureSlots slots).mapError ioStore
    else
      fail (.corruption
        "filesystem recovery reserve deficit exceeds the single provable rollback slot")

/-- `linura_fs_reserve_slots`, with the codes of `reserve_result`. -/
def reserveSlots (desired : Nat) : ReserveProgram Int :=
  (do reserve.ensureSlots desired
      return 1 : ReserveProgram Int).handle fun error => pure (if error = .os 28 then 0 else -1)

end RecoveryReserve

end Linura.Persistence
