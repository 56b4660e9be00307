import Linura.Persistence.FilesystemReserve

/-!
# What a crash leaves of the recovery reserve

Whatever interrupts the operations of the reserve, the file stays long enough for the
reservations it has to back, and storage is missing only in its last slot, where the
opener's slot is released and restored.  A file that is not a whole number of slots is
an interrupted growth, and all of its bytes were written.  From every such file
`validate_and_reconcile` reaches the one length that the reservations need.
-/

namespace Linura.Persistence

open Linura.Lib Linura.Transaction

namespace RecoveryReserve

variable (reserve : RecoveryReserve)

/-- The slots that a number of reservations needs. -/
def neededSlots (rows : Nat) : Nat := if rows = 0 then 0 else rows + 1

/-- The length that a number of reservations needs. -/
def neededLen (rows : Nat) : Nat := reserve.slotBytes * neededSlots rows

/-- The file has room for a number of reservations, and at most its last `hole` bytes lack
storage. -/
structure Residue (hole rows : Nat) (file : SparseFile) : Prop where
  room : reserve.neededLen rows ≤ file.length
  bounded : file.length ≤ u64Max
  full : file.FullBelow (file.length - hole)
  unaligned : ¬ reserve.slotBytes ∣ file.length → file.FullBelow file.length

/-- The file is exactly what a number of reservations needs. -/
structure Settled (rows : Nat) (file : SparseFile) : Prop where
  length_eq : file.length = reserve.neededLen rows
  bounded : file.length ≤ u64Max
  full : file.FullBelow file.length

end RecoveryReserve

/-- The file is there and satisfies `P`. -/
def Present (P : SparseFile → Prop) : Option SparseFile → Prop
  | some file => P file
  | none => False

/-- What holds of a file that is there. -/
theorem of_present {P : SparseFile → Prop} {R : Option SparseFile → Prop}
    (each : ∀ file, P file → R (some file)) : ∀ sidecar, Present P sidecar → R sidecar
  | some file, present => each file present

namespace RecoveryReserve

variable (reserve : RecoveryReserve) {hole hole' rows rows' length : Nat} {file : SparseFile}
variable {sidecar : Option SparseFile}

/-- The file backs a number of reservations, up to a hole at its end.  Without reservations it may
be absent. -/
def Backs (hole rows : Nat) (sidecar : Option SparseFile) : Prop :=
  sidecar = none ∧ rows = 0 ∨ Present (reserve.Residue hole rows) sidecar

/-- The file beside the database is exactly what a number of reservations needs; if there are none
it may be absent. -/
def Reconciled (rows : Nat) (sidecar : Option SparseFile) : Prop :=
  sidecar = none ∧ rows = 0 ∨ Present (reserve.Settled rows) sidecar

variable {reserve}

theorem neededLen_mono (le : rows' ≤ rows) : reserve.neededLen rows' ≤ reserve.neededLen rows := by
  apply Nat.mul_le_mul_left
  unfold neededSlots
  split <;> split <;> omega

theorem neededLen_zero (none : rows = 0) : reserve.neededLen rows = 0 := by
  rw [neededLen, neededSlots, if_pos none, Nat.mul_zero]

theorem neededLen_of_pos (pos : 0 < rows) : reserve.neededLen rows = reserve.slotBytes *
    (rows + 1) := by
  rw [neededLen, neededSlots, if_neg pos.ne']

theorem slotBytes_le_neededLen (some : rows ≠ 0) : reserve.slotBytes ≤ reserve.neededLen rows := by
  rw [neededLen_of_pos (Nat.pos_of_ne_zero some)]
  exact Nat.le_mul_of_pos_right _ (Nat.succ_pos rows)

theorem dvd_neededLen : reserve.slotBytes ∣ reserve.neededLen rows := Nat.dvd_mul_right _ _

/-- A residue backs fewer reservations too, up to a larger hole. -/
theorem Residue.mono (residue : reserve.Residue hole rows file) (hole_le : hole ≤ hole')
    (rows_le : rows' ≤ rows) : reserve.Residue hole' rows' file where
  room := (neededLen_mono rows_le).trans residue.room
  bounded := residue.bounded
  full := residue.full.mono (by omega)
  unaligned := residue.unaligned

theorem Settled.residue (settled : reserve.Settled rows file) : reserve.Residue hole rows file where
  room := settled.length_eq.ge
  bounded := settled.bounded
  full := settled.full.mono (Nat.sub_le _ _)
  unaligned _ := settled.full

theorem Backs.mono (backs : reserve.Backs hole rows sidecar) (hole_le : hole ≤ hole')
    (rows_le : rows' ≤ rows) : reserve.Backs hole' rows' sidecar := by
  rcases backs with ⟨absent, none⟩ | present
  · exact Or.inl ⟨absent, by omega⟩
  · exact Or.inr (of_present (fun _ residue => residue.mono hole_le rows_le) sidecar present)

theorem Reconciled.backs (reconciled : reserve.Reconciled rows sidecar) :
    reserve.Backs hole rows sidecar :=
  reconciled.imp_right (of_present (fun _ settled => settled.residue) sidecar)

/-- A file with residue can be cut to any length that it has storage for. -/
theorem Residue.setLen (residue : reserve.Residue hole rows file)
    (full : file.FullBelow (reserve.neededLen rows)) :
    reserve.Settled rows (file.setLen (reserve.neededLen rows)) where
  length_eq := rfl
  bounded := residue.room.trans residue.bounded
  full := full.setLen residue.room

/-- The hole of an aligned file lies behind every shorter aligned length. -/
theorem Residue.full_of_lt (residue : reserve.Residue hole rows file)
    (hole_le : hole ≤ reserve.slotBytes)
    (aligned : reserve.slotBytes ∣ file.length) (lt : reserve.neededLen rows < file.length) :
    file.FullBelow (reserve.neededLen rows) := by
  obtain ⟨slots, length_eq⟩ := aligned
  have fewer : neededSlots rows + 1 ≤ slots := by
    rw [length_eq] at lt
    exact Nat.lt_of_mul_lt_mul_left lt
  have slot_le : reserve.neededLen rows + reserve.slotBytes ≤ file.length := by
    rw [length_eq, neededLen, ← Nat.mul_succ]
    exact Nat.mul_le_mul_left _ fewer
  exact residue.full.mono (by omega)

/-- The sizes that `validate_and_reconcile` computes fit as long as the file does. -/
theorem Backs.sizes (backs : reserve.Backs hole rows sidecar) :
    expectedSlots rows = .ok (neededSlots rows) ∧
      reserve.targetLen (neededSlots rows) = .ok (reserve.neededLen rows) := by
  have fits : reserve.neededLen rows ≤ u64Max := by
    rcases backs with ⟨-, rfl⟩ | present
    · exact Nat.zero_le _
    · exact of_present (R := fun _ => _) (fun _ residue => residue.room.trans residue.bounded)
        sidecar present
  constructor
  · unfold expectedSlots neededSlots
    split
    · rfl
    · rename_i some
      have slots_le : rows + 1 ≤ reserve.neededLen rows := by
        rw [neededLen_of_pos (Nat.pos_of_ne_zero some)]
        exact Nat.le_mul_of_pos_left _ reserve.positive
      exact orFail_eq_ok.mpr (checkedAdd_eq_some.mpr ⟨rfl, slots_le.trans fits⟩)
  · exact orFail_eq_ok.mpr (checkedMul_eq_some.mpr ⟨rfl, fits⟩)

end RecoveryReserve

/-! ### File operations -/

section Files

open Program

variable {sure : Prop} {P Q E : SparseFile → Prop}

theorem completes_inspect {α : Type} {read : SparseFile → Except IoError α}
    {R : α → SparseFile → Prop}
    (reads : ∀ file, P file → ∃ value, read file = .ok value ∧ R value file)
    (exc : ∀ file, P file → E file) :
    Completes sure (Present P) (inspect read) (fun value => Present (R value)) (Present E) :=
  .query (of_present reads) (of_present exc)

theorem triple_inspect {α : Type} {read : SparseFile → Except IoError α} :
    Triple (Present P) (inspect read)
      (fun value => Present fun file => P file ∧ read file = .ok value) (Present P) := by
  apply Triple.query
  · rintro (_ | file) value present found
    · exact present.elim
    · exact ⟨present, found⟩
  · exact fun _ => id

/-- The length that is read is the file's, and satisfies what is known of it. -/
theorem completes_fileLength (p : Nat → Prop) (known : ∀ file, P file → p file.length)
    (exc : ∀ file, P file → E file) :
    Completes sure (Present P) fileLength
      (fun length sidecar => Present (fun file => P file ∧ file.length = length) sidecar ∧ p length)
      (Present E) := by
  unfold fileLength inspect
  apply Completes.query
  · exact of_present fun file holds => ⟨file.length, rfl, ⟨holds, rfl⟩, known file holds⟩
  · exact of_present exc

theorem completes_syncAll {P E : Option SparseFile → Prop}
    (exc : ∀ sidecar, P sidecar → E sidecar) :
    Completes sure P syncAll (fun _ => P) E :=
  .atomically (fun _ => id) exc

theorem completes_setLen {length : Nat} (holds : ∀ file, P file → Q (file.setLen length))
    (exc : ∀ file, P file → E file) :
    Completes sure (Present P) (setLen length) (fun _ => Present Q) (Present E) :=
  .atomically (of_present holds) (of_present exc)

/-- Writing to a file that is there, whole or in part. -/
theorem completes_writeAll {offset count : Nat}
    (holds : ∀ file, P file → Q (file.write offset count))
    (exc : ∀ file progress, P file → progress ≤ count → E (file.write offset progress)) :
    Completes sure (Present P) (writeAll offset count) (fun _ => Present Q) (Present E) := by
  refine .effect (of_present holds) ?_
  rintro (_ | file) progress present
  · exact present.elim
  · exact exc file _ present (min_le_right _ _)

/-- A file that is there is opened and stays as it is. -/
theorem completes_openLocked (exc : ∀ file, P file → E file) :
    Completes sure (Present P) openLocked (fun _ => Present P) (Present E) := by
  refine .bind_assume (M := Present P) (φ := (· = true))
    (.query (of_present fun file present => ⟨true, rfl, present, rfl⟩) (of_present exc)) ?_
  rintro _ rfl
  exact completes_syncAll (of_present exc)

/-- Bytes are written up to `position`: the file has grown if it was shorter than that, and `bound`
bytes had storage before. -/
structure Filled (original bound position : Nat) (file : SparseFile) : Prop where
  length_eq : file.length = max original position
  full : file.FullBelow position
  kept : file.FullBelow bound

theorem Filled.write {original bound position count : Nat} {file : SparseFile}
    (filled : Filled original bound position file) (inside : bound ≤ original) :
    Filled original bound (position + count) (file.write position count) where
  length_eq := by rw [SparseFile.length_write, filled.length_eq]; omega
  full := filled.full.write (by rw [filled.length_eq]; exact le_max_right _ _)
  kept := filled.kept.write_of_le (by rw [filled.length_eq]; exact inside.trans (le_max_left _ _))

/-- The chunks are written one after the other, and an interruption leaves the bytes written so
far. -/
theorem completes_writeChunks {original bound : Nat} (inside : bound ≤ original)
    (position stop : Nat)
    (le : position ≤ stop) :
    Completes sure (Present (Filled original bound position)) (writeChunks position stop)
      (fun _ => Present (Filled original bound stop))
      (Present fun file => ∃ reached, position ≤ reached ∧ reached ≤ stop ∧
        Filled original bound reached file) := by
  -- The induction follows the recursion: each chunk brings `position` closer to `stop`.
  fun_induction writeChunks position stop with
  | case1 position lt length rest =>
    have length_le : length ≤ stop - position := min_le_left _ _
    refine .bind (Q := fun _ => Present (Filled original bound (position + length)))
      (completes_writeAll (fun file filled => filled.write inside) ?_) fun _ => ?_
    · intro file progress filled progress_le
      exact ⟨position + progress, by omega, by omega, filled.write inside⟩
    · refine (rest (by omega)).weaken (of_present ?_)
      rintro file ⟨reached, start, finish, filled⟩
      exact ⟨reached, by omega, finish, filled⟩
  | case2 position done =>
    obtain rfl : position = stop := by omega
    exact .pure fun _ => id

end Files

/-! ### Checks of the allocation -/

/-- The check asks for the length and for all of its storage. -/
theorem verifyPhysicalAllocation_eq_ok {expectedLen : Nat} {file : SparseFile} :
    verifyPhysicalAllocation expectedLen file = .ok () ↔
      file.length = expectedLen ∧ file.FullBelow file.length := by
  rw [← SparseFile.length_le_allocatedBytes_iff]
  unfold verifyPhysicalAllocation
  split
  · rename_i other
    simp [other]
  · rename_i same
    rw [not_not] at same
    subst same
    simp

theorem verifyReleasedOpenerHeadroom_eq_ok {expectedLen slotBytes : Nat} {file : SparseFile}
    (length_eq : file.length = expectedLen) (slot_le : slotBytes ≤ expectedLen)
    (full : file.FullBelow (expectedLen - slotBytes)) (hole : ¬ file.FullBelow file.length) :
    verifyReleasedOpenerHeadroom expectedLen slotBytes file = .ok () := by
  have enough := full.le_allocatedBytes (by omega)
  rw [← SparseFile.length_le_allocatedBytes_iff] at hole
  rw [verifyReleasedOpenerHeadroom, if_neg (by omega), if_neg (by omega)]

/-! ### Operations of the reserve -/

namespace RecoveryReserve

section Reconcile

open Program

variable {sure : Prop} {reserve : RecoveryReserve} {hole rows : Nat} {sidecar : Option SparseFile}

/-- The length is a whole number of slots. -/
theorem requireAligned_eq_ok {length : Nat} :
    reserve.requireAligned length = .ok () ↔ reserve.slotBytes ∣ length := by
  rw [Nat.dvd_iff_mod_eq_zero, requireAligned]
  split
  · rename_i rest
    simp [rest]
  · rename_i aligned
    rw [not_not] at aligned
    simp [aligned]

theorem backs_of_present (present : Present (reserve.Residue hole rows) sidecar) :
    reserve.Backs hole rows sidecar := Or.inr present

/-- A file that is exactly what is needed passes the check. -/
theorem completes_verify :
    Completes sure (Present (reserve.Settled rows))
      (inspect (verifyPhysicalAllocation (reserve.neededLen rows)))
      (fun _ => Present (reserve.Settled rows)) (Present (reserve.Residue hole rows)) := by
  apply completes_inspect
  · intro file settled
    exact ⟨(), verifyPhysicalAllocation_eq_ok.mpr ⟨settled.length_eq, settled.full⟩, settled⟩
  · exact fun file settled => settled.residue

/-- Cutting a file whose storage reaches far enough. -/
theorem completes_cut :
    Completes sure (Present fun file => reserve.Residue hole rows file ∧
        file.FullBelow (reserve.neededLen rows))
      (do setLen (reserve.neededLen rows)
          syncAll
          inspect (verifyPhysicalAllocation (reserve.neededLen rows)))
      (fun _ => Present (reserve.Settled rows)) (Present (reserve.Residue hole rows)) := by
  refine .bind (Q := fun _ => Present (reserve.Settled rows)) ?_ fun _ =>
    Completes.bind (completes_syncAll (of_present fun _ settled => settled.residue)) fun _ =>
      completes_verify
  exact completes_setLen (fun file holds => holds.1.setLen holds.2) fun file holds => holds.1

/-- A longer file is cut to what is needed. -/
theorem completes_releaseToSlots (hole_le : hole ≤ reserve.slotBytes) :
    Completes sure (Present fun file => reserve.Residue hole rows file ∧
        reserve.slotBytes ∣ file.length ∧ reserve.neededLen rows < file.length)
      (reserve.releaseToSlots (neededSlots rows))
      (fun _ => Present (reserve.Settled rows)) (Present (reserve.Residue hole rows)) := by
  have weaken : ∀ file : SparseFile, (reserve.Residue hole rows file ∧
      reserve.slotBytes ∣ file.length ∧ reserve.neededLen rows < file.length) →
        reserve.Residue hole rows file := fun file holds => holds.1
  refine .bind_assume (φ := (· = reserve.neededLen rows)) (.query (fun sidecar present =>
    ⟨_, (backs_of_present (of_present weaken sidecar present)).sizes.2, present, rfl⟩)
    (of_present weaken)) ?_
  rintro _ rfl
  refine .bind (completes_openLocked weaken) fun _ => .bind (completes_fileLength
    (fun current => reserve.slotBytes ∣ current ∧ reserve.neededLen rows < current)
    (fun file holds => holds.2) weaken) fun current => .assume ?_
  rintro ⟨aligned, lt⟩
  refine .bind_ok (requireAligned_eq_ok.mpr aligned) ?_
  rw [if_neg (by omega), if_pos lt]
  exact completes_cut.consequence (of_present fun file holds =>
    ⟨holds.1.1, holds.1.1.full_of_lt hole_le holds.1.2.1 holds.1.2.2⟩) (fun _ _ => id) fun _ => id

/-- Writing the last slot again. -/
theorem completes_restoreOpenerHeadroom (hole_le : hole ≤ reserve.slotBytes)
    (slot_le : reserve.slotBytes ≤ reserve.neededLen rows) :
    Completes sure (Present fun file => reserve.Residue hole rows file ∧
        file.length = reserve.neededLen rows)
      (reserve.restoreOpenerHeadroom (reserve.neededLen rows))
      (fun _ => Present (reserve.Settled rows)) (Present (reserve.Residue hole rows)) := by
  have weaken : ∀ file : SparseFile, (reserve.Residue hole rows file ∧
      file.length = reserve.neededLen rows) → reserve.Residue hole rows file :=
    fun file holds => holds.1
  refine .bind (completes_openLocked weaken) fun _ => .bind (completes_fileLength
    (fun length => length = reserve.neededLen rows ∧ length ≤ u64Max)
    (fun file holds => ⟨holds.2, holds.1.bounded⟩) weaken) fun length => .assume ?_
  rintro ⟨rfl, bounded⟩
  rw [if_neg (by omega)]
  -- The chunks cover the last slot, and everything outside of the hole keeps its storage.
  refine .bind (Q := fun _ => Present (reserve.Settled rows)) ?_ fun _ =>
    Completes.bind (completes_syncAll (of_present fun _ settled => settled.residue)) fun _ =>
      completes_verify
  refine (completes_writeChunks (Nat.sub_le (reserve.neededLen rows) hole)
    (reserve.neededLen rows - reserve.slotBytes) (reserve.neededLen rows)
    (Nat.sub_le _ _)).consequence
    (of_present ?_) (fun _ => of_present ?_) (of_present ?_)
  · rintro file ⟨⟨residue, -⟩, length_eq⟩
    have full := residue.full
    rw [length_eq] at full
    exact ⟨by omega, full.mono (by omega), full⟩
  · intro file filled
    have length_eq := filled.length_eq
    rw [max_self] at length_eq
    exact ⟨length_eq, length_eq.trans_le bounded, length_eq ▸ filled.full⟩
  · rintro file ⟨reached, -, reached_le, filled⟩
    have length_eq : file.length = reserve.neededLen rows := by
      rw [filled.length_eq, max_eq_left reached_le]
    have kept := filled.kept
    rw [← length_eq] at kept
    exact ⟨length_eq.ge, length_eq.trans_le bounded, kept,
      fun unaligned => absurd (length_eq ▸ dvd_neededLen) unaligned⟩

/-- A file of the needed length with a hole in its last slot. -/
structure Punched (reserve : RecoveryReserve) (hole rows : Nat) (file : SparseFile) : Prop where
  residue : reserve.Residue hole rows file
  length_eq : file.length = reserve.neededLen rows
  hole : ¬ file.FullBelow file.length

variable {file : SparseFile}

theorem Punched.rows_pos (punched : reserve.Punched hole rows file) : 0 < rows := by
  by_contra none
  obtain rfl : rows = 0 := by omega
  apply punched.hole
  rw [punched.length_eq]
  exact fun i lt => absurd lt (Nat.not_lt_zero i)

theorem Punched.verify (punched : reserve.Punched hole rows file) :
    ∃ reason, verifyPhysicalAllocation (reserve.neededLen rows) file = .error reason := by
  cases result : verifyPhysicalAllocation (reserve.neededLen rows) file with
  | error reason => exact ⟨reason, rfl⟩
  | ok _ => exact absurd (verifyPhysicalAllocation_eq_ok.mp result).2 punched.hole

theorem Punched.verifyReleased (punched : reserve.Punched hole rows file)
    (hole_le : hole ≤ reserve.slotBytes) :
    verifyReleasedOpenerHeadroom (reserve.neededLen rows) reserve.slotBytes file = .ok () := by
  have full := punched.residue.full
  rw [punched.length_eq] at full
  exact verifyReleasedOpenerHeadroom_eq_ok punched.length_eq
    (slotBytes_le_neededLen punched.rows_pos.ne') (full.mono (by omega)) punched.hole

/-- A file of the needed length is full or has a hole. -/
theorem settled_or_punched (residue : reserve.Residue hole rows file)
    (length_eq : file.length = reserve.neededLen rows) :
    reserve.Settled rows file ∨ reserve.Punched hole rows file := by
  by_cases full : file.FullBelow file.length
  · exact Or.inl ⟨length_eq, residue.bounded, full⟩
  · exact Or.inr ⟨residue, length_eq, full⟩

/-- A file of the needed length is left as it is, or its last slot is written again. -/
theorem completes_reconcileEqual (hole_le : hole ≤ reserve.slotBytes) :
    Completes sure (Present fun file => reserve.Residue hole rows file ∧
        file.length = reserve.neededLen rows)
      (reserve.reconcileEqual (reserve.neededLen rows) rows false)
      (fun _ => Present (reserve.Settled rows)) (Present (reserve.Residue hole rows)) := by
  refine .bind (completes_openLocked fun file holds => holds.1).mapError fun _ => ?_
  rw [if_neg (by simp)]
  suffices both : Completes sure (fun sidecar => Present (reserve.Settled rows) sidecar ∨
      Present (reserve.Punched hole rows) sidecar) _ _ _ by
    exact both.consequence (of_present fun file holds => settled_or_punched holds.1 holds.2)
      (fun _ _ => id) fun _ => id
  apply Completes.cases
  · -- Nothing is missing: the first check passes, and the second is not looked at.
    refine .bind_assume (M := Present (reserve.Settled rows)) (φ := (· = some (.ok ())))
      (.query (of_present fun file settled =>
      ⟨_, rfl, settled, congrArg some (verifyPhysicalAllocation_eq_ok.mpr
        ⟨settled.length_eq, settled.full⟩)⟩) (of_present fun _ settled => settled.residue)) ?_
    rintro _ rfl
    exact .bind (Q := fun _ => Present (reserve.Settled rows))
      (.query (fun sidecar settled => ⟨_, rfl, settled⟩)
        (of_present fun _ settled => settled.residue)) fun _ => .pure fun _ => id
  · -- The hole is within the opener's slot, which is what the second check asks.
    have weaken := of_present (R := Present (reserve.Residue hole rows))
      fun _ (punched : reserve.Punched hole rows _) => punched.residue
    refine .bind_assume (M := Present (reserve.Punched hole rows))
      (φ := fun verified => ∃ reason, verified = some (.error reason))
      (.query (of_present fun file punched => ?_) weaken) ?_
    · obtain ⟨reason, failed⟩ := punched.verify
      exact ⟨_, rfl, punched, reason, congrArg some failed⟩
    rintro _ ⟨reason, rfl⟩
    refine .bind_assume (M := Present (reserve.Punched hole rows))
      (φ := fun released => 0 < rows ∧ released = some (.ok ()))
      (.query (of_present fun file punched => ⟨_, rfl, punched, punched.rows_pos,
        congrArg some (punched.verifyReleased hole_le)⟩) weaken) ?_
    rintro _ ⟨rows_pos, rfl⟩
    change Completes _ _ (if _ then _ else _) _ _
    rw [if_pos ⟨rows_pos, rfl⟩]
    refine .mapError ((completes_restoreOpenerHeadroom hole_le
      (slotBytes_le_neededLen rows_pos.ne')).consequence (of_present ?_)
      (fun _ _ => id) fun _ => id)
    exact fun file punched => ⟨punched.residue, punched.length_eq⟩

/-- `validate_and_reconcile` brings a file to the needed length whatever crash left it, as soon as
the case of equal lengths is dealt with. -/
theorem completes_reconcile {released : Bool} {Q : Unit → Option SparseFile → Prop}
    (hole_le : hole ≤ reserve.slotBytes)
    (post : ∀ sidecar, reserve.Reconciled rows sidecar → Q () sidecar)
    (equal : Completes sure (Present fun file => reserve.Residue hole rows file ∧
        file.length = reserve.neededLen rows)
      (reserve.reconcileEqual (reserve.neededLen rows) rows released) Q
      (Present (reserve.Residue hole rows))) :
    Completes sure (reserve.Backs hole rows) (reserve.validateAndReconcile rows released) Q
      (reserve.Backs hole rows) := by
  refine .bind_assume (φ := (· = neededSlots rows))
    (.query (fun sidecar backs => ⟨_, backs.sizes.1, backs, rfl⟩) fun _ => id) ?_
  rintro _ rfl
  refine .bind_assume (φ := (· = reserve.neededLen rows)) (Completes.mapError
    (.query (fun sidecar backs => ⟨_, backs.sizes.2, backs, rfl⟩) fun _ => id)) ?_
  rintro _ rfl
  -- The file is absent, which only no reservation allows, or it is there.
  refine .bind (Q := fun present sidecar =>
    (sidecar = none ∧ rows = 0) ∧ present = false ∨
      Present (reserve.Residue hole rows) sidecar ∧ present = true)
    (.query ?_ fun _ => id) fun present => .cases (.assume ?_) (.assume ?_)
  · rintro sidecar (⟨rfl, rfl⟩ | present)
    · exact ⟨false, rfl, Or.inl ⟨⟨rfl, rfl⟩, rfl⟩⟩
    · cases sidecar with
      | none => exact present.elim
      | some file => exact ⟨true, rfl, Or.inr ⟨present, rfl⟩⟩
  · rintro rfl
    refine .assume fun none => ?_
    rw [if_pos Bool.not_false, if_pos none]
    exact .pure fun sidecar absent => post sidecar (Or.inl ⟨absent, none⟩)
  · rintro rfl
    rw [Bool.not_true, if_neg Bool.false_ne_true]
    refine .consequence (E := Present (reserve.Residue hole rows)) ?_ (fun _ => id)
      (fun _ _ => id) fun _ => Or.inr
    refine .bind (completes_openLocked fun _ => id).mapError fun _ => .bind
      (Completes.mapError (completes_fileLength (reserve.neededLen rows ≤ ·)
        (fun file residue => residue.room) fun _ => id)) fun current => .assume fun room => ?_
    have settled : ∀ (_ : Unit) sidecar, Present (reserve.Settled rows) sidecar → Q () sidecar :=
      fun _ sidecar present => post sidecar (Or.inr present)
    by_cases aligned : reserve.slotBytes ∣ current
    · rw [if_neg (by rw [not_not]; exact Nat.mod_eq_zero_of_dvd aligned)]
      obtain ⟨slots, rfl⟩ := aligned
      have slots_le : neededSlots rows ≤ slots := Nat.le_of_mul_le_mul_left room reserve.positive
      rw [Nat.mul_div_cancel_left _ reserve.positive]
      rcases slots_le.lt_or_eq with fewer | same
      · -- Aligned excess, of a growth that was not committed or of events that were.
        rw [if_pos fewer]
        refine .mapError ((completes_releaseToSlots hole_le).consequence
          (of_present ?_) settled fun _ => id)
        rintro file ⟨residue, length_eq⟩
        refine ⟨residue, length_eq ▸ Nat.dvd_mul_right _ _, length_eq ▸ ?_⟩
        exact Nat.mul_lt_mul_of_pos_left fewer reserve.positive
      · rw [if_neg (by omega), if_pos same.symm]
        refine equal.consequence (of_present ?_) (fun _ _ => id) fun _ => id
        rintro file ⟨residue, length_eq⟩
        exact ⟨residue, by rw [length_eq, ← same]; rfl⟩
    · -- An interrupted growth, which is longer than what is needed.
      have longer : ¬ current ≤ reserve.neededLen rows := by
        intro le
        exact aligned (le_antisymm le room ▸ dvd_neededLen)
      rw [if_pos fun whole => aligned (Nat.dvd_of_mod_eq_zero whole), if_neg longer]
      refine .mapError (completes_cut.consequence (of_present ?_) settled
        fun _ => id)
      rintro file ⟨residue, rfl⟩
      exact ⟨residue, (residue.unaligned aligned).mono room⟩

/-- In a normal open, a residue is brought to the needed length, and surely so without faults. -/
theorem completes_validateAndReconcile (hole_le : hole ≤ reserve.slotBytes) :
    Completes True (reserve.Backs hole rows) (reserve.validateAndReconcile rows false)
      (fun _ => reserve.Reconciled rows) (reserve.Backs hole rows) := by
  apply completes_reconcile hole_le (fun _ => id)
  exact (completes_reconcileEqual hole_le).consequence (fun _ => id) (fun _ _ => Or.inr)
    fun _ => id

/-- With the opener's slot released, a residue may be refused but stays one. -/
theorem keeps_validateAndReconcile (hole_le : hole ≤ reserve.slotBytes) (released : Bool) :
    Keeps (reserve.Backs hole rows) (reserve.validateAndReconcile rows released) := by
  cases released with
  | false =>
    exact (completes_validateAndReconcile hole_le).triple.consequence
      (fun _ => id) (fun _ _ reconciled => reconciled.backs) fun _ => id
  | true =>
    -- The check of the released slot may fail, so nothing is promised about success.
    apply Completes.sound
    refine completes_reconcile hole_le (fun _ reconciled => reconciled.backs) ?_
    refine .bind (completes_openLocked fun file holds => holds.1).mapError fun _ => ?_
    refine ⟨?_, False.elim⟩
    rw [if_pos rfl]
    by_cases none : rows = 0
    · rw [if_pos none]
      exact .fail (of_present fun file holds => holds.1)
    · rw [if_neg none]
      refine .mapError (triple_inspect.consequence (fun _ => id)
        (fun _ sidecar present =>
          backs_of_present (of_present (fun file holds => holds.1.1) _ present))
        (of_present fun file holds => holds.1))

/-! ### Growing and punching -/

/-- Opening creates an absent file, which backs no reservation. -/
theorem triple_openLocked :
    Triple (reserve.Backs hole rows) openLocked (fun _ => Present (reserve.Residue hole rows))
      (reserve.Backs hole rows) := by
  refine .bind (Q := fun present sidecar => reserve.Backs hole rows sidecar ∧
    present = sidecar.isSome) (.query ?_ fun _ => id) fun present => ?_
  · rintro sidecar present backs found
    cases found
    exact ⟨backs, rfl⟩
  cases present with
  | true =>
    rw [if_pos rfl]
    refine (completes_syncAll (P := fun sidecar => reserve.Backs hole rows sidecar ∧
      true = sidecar.isSome) fun _ holds => holds.1).sound.consequence (fun _ => id) ?_
      fun _ => id
    rintro _ (_ | file) ⟨backs, there⟩
    · cases there
    · exact backs.resolve_left fun absent => nomatch absent.1
  | false =>
    rw [if_neg Bool.false_ne_true]
    refine .bind (Q := fun _ => Present (reserve.Residue hole rows))
      (Completes.atomically ?_ fun _ holds => holds.1).sound fun _ =>
        (completes_syncAll fun _ => backs_of_present).sound
    rintro (_ | file) ⟨backs, there⟩
    · obtain rfl : rows = 0 := (backs.resolve_right id).2
      exact ⟨Nat.zero_le _, Nat.zero_le _, fun i lt => absurd lt (by simp [SparseFile.empty]),
        fun _ i lt => absurd lt (Nat.not_lt_zero i)⟩
    · cases there

/-- An interrupted growth of a full file is a residue that is no shorter. -/
theorem residue_of_filled {original reached target : Nat} (room : reserve.neededLen rows ≤ original)
    (fits : target ≤ u64Max) (start : original ≤ reached) (finish : reached ≤ target)
    (filled : Filled original 0 reached file) :
    reserve.Residue 0 rows file ∧ file.length = reached := by
  have length_eq : file.length = reached := by rw [filled.length_eq, max_eq_right start]
  have full : file.FullBelow file.length := length_eq ▸ filled.full
  exact ⟨⟨by omega, by omega, full, fun _ => full⟩, length_eq⟩

/-- Rolling back a growth may fail too, but never cuts off what was there before. -/
theorem triple_rollbackGrowth {original : Nat} (room : reserve.neededLen rows ≤ original) :
    Triple (Present fun file => reserve.Residue 0 rows file ∧ original ≤ file.length)
      (rollbackGrowth original) (fun _ => Present (reserve.Residue 0 rows))
      (Present (reserve.Residue 0 rows)) := by
  refine .bind (Triple.handle (F := Present (reserve.Residue 0 rows))
    (completes_setLen ?_ fun file holds => holds.1).sound
    (fun _ => .pure fun _ => id) fun _ => id)
    fun _ => (completes_syncAll fun _ => id).sound.handle
      (fun _ => .pure fun _ => id) fun _ => id
  rintro file ⟨residue, longer⟩
  have full : (file.setLen original).FullBelow original := by
    exact (residue.full.mono longer).setLen longer
  exact ⟨room, longer.trans residue.bounded, full, fun _ => full⟩

/-- Growing a full file leaves it full, and long enough if the growth succeeds. -/
theorem triple_ensureSlots (desired : Nat) :
    Triple (reserve.Backs 0 rows) (reserve.ensureSlots desired)
      (fun _ => Present fun file => reserve.Residue 0 rows file ∧
        reserve.slotBytes * desired ≤ file.length) (reserve.Backs 0 rows) := by
  refine .bind_lift (fun _ => id) fun target computed => ?_
  obtain ⟨rfl, fits⟩ := checkedMul_eq_some.mp (orFail_eq_ok.mp computed)
  refine .bind triple_openLocked fun _ => ?_
  refine .consequence (E := Present (reserve.Residue 0 rows)) ?_ (fun _ => id)
    (fun _ _ => id) fun _ => backs_of_present
  refine .bind (completes_fileLength (reserve.neededLen rows ≤ ·)
    (fun file residue => residue.room) fun _ => id).sound fun original => .assume fun room => ?_
  have weaken := of_present (R := Present (reserve.Residue 0 rows)) fun file
    (holds : reserve.Residue 0 rows file ∧ file.length = original) => holds.1
  refine .peek weaken fun _ => ?_
  by_cases enough : reserve.slotBytes * desired ≤ original
  · rw [if_pos enough]
    refine triple_inspect.consequence (fun _ => id) (fun _ => of_present ?_) weaken
    rintro file ⟨⟨residue, rfl⟩, -⟩
    exact ⟨residue, enough⟩
  · rw [if_neg enough]
    refine .bind (Q := fun _ => Present fun file => reserve.Residue 0 rows file ∧
      reserve.slotBytes * desired ≤ file.length) ?_ fun _ => ?_
    · -- On an error the growth is rolled back; a crash leaves what was written so far.
      refine .handle (F := Present fun file => reserve.Residue 0 rows file ∧
        original ≤ file.length) (Triple.bind (Q := fun _ => Present fun file =>
          reserve.Residue 0 rows file ∧ file.length = reserve.slotBytes * desired)
        ((completes_writeChunks (Nat.zero_le original) original (reserve.slotBytes * desired)
          (by omega)).sound.consequence (of_present ?_) (fun _ => of_present ?_)
          (of_present ?_)) fun _ => ?_)
        (fun _ => ?_) (of_present fun _ holds => holds.1)
      · rintro file ⟨residue, rfl⟩
        exact ⟨(max_self _).symm, residue.full, fun i lt => absurd lt (Nat.not_lt_zero i)⟩
      · intro file filled
        exact residue_of_filled room fits (by omega) le_rfl filled
      · rintro file ⟨reached, start, finish, filled⟩
        obtain ⟨residue, length_eq⟩ := residue_of_filled room fits start finish filled
        exact ⟨residue, by omega⟩
      · refine (completes_syncAll fun _ => id).sound.consequence (fun _ => id)
          (fun _ => of_present ?_) (of_present ?_)
        · exact fun file holds => ⟨holds.1, holds.2.ge⟩
        · exact fun file holds => ⟨holds.1, by omega⟩
      · exact .bind (triple_rollbackGrowth room) fun _ => .fail fun _ => id
    · exact triple_inspect.consequence (fun _ => id)
        (fun _ => of_present fun file holds => holds.1) (of_present fun file holds => holds.1)

/-- The code 1 promises the room; with the other codes the file is only not damaged. -/
theorem triple_reserveSlots (rows desired : Nat) :
    Triple (reserve.Backs 0 rows) (reserve.reserveSlots desired)
      (fun code sidecar => reserve.Backs 0 rows sidecar ∧ (code = 1 →
        Present (fun file => reserve.Residue 0 rows file ∧
          reserve.slotBytes * desired ≤ file.length)
          sidecar)) (reserve.Backs 0 rows) := by
  refine .handle (F := reserve.Backs 0 rows) (Triple.bind (triple_ensureSlots desired)
    fun _ => .pure ?_) (fun reason => .pure ?_) fun _ => id
  · exact fun sidecar grown =>
      ⟨backs_of_present (of_present (fun _ holds => holds.1) _ grown), fun _ => grown⟩
  · intro sidecar backs
    refine ⟨backs, fun one => ?_⟩
    split at one
    · cases one
    · cases one

/-- Punching the last slot of a file, entirely or in part, leaves the others as they are. -/
theorem keeps_releaseOpenerHeadroom :
    Keeps (reserve.Backs reserve.slotBytes rows) reserve.releaseOpenerHeadroom := by
  refine Triple.bind triple_openLocked fun _ => ?_
  refine .consequence (E := Present (reserve.Residue reserve.slotBytes rows))
    (Q := fun _ => Present (reserve.Residue reserve.slotBytes rows)) ?_ (fun _ => id)
    (fun _ _ => backs_of_present) fun _ => backs_of_present
  refine .bind (completes_fileLength (fun _ => True) (fun _ _ => trivial) fun _ => id).sound
    fun length => .assume fun _ => ?_
  have weaken := of_present (R := Present (reserve.Residue reserve.slotBytes rows)) fun file
    (holds : reserve.Residue reserve.slotBytes rows file ∧ file.length = length) => holds.1
  refine .bind_lift weaken fun _ aligned => .peek weaken fun minimum => ?_
  have aligned := requireAligned_eq_ok.mp aligned
  by_cases short : length < minimum
  · rw [if_pos short]
    exact .fail weaken
  rw [if_neg short]
  refine .peek weaken fun allocated => ?_
  by_cases lost : allocated < length - reserve.slotBytes
  · simp only [if_pos lost]
    exact .fail weaken
  simp only [if_neg lost]
  have punched : ∀ count (file : SparseFile), (reserve.Residue reserve.slotBytes rows file ∧
      file.length = length) → reserve.Residue reserve.slotBytes rows
        (file.punch (length - reserve.slotBytes) count) := by
    rintro count file ⟨residue, rfl⟩
    exact ⟨residue.room, residue.bounded, residue.full.punch le_rfl,
      fun unaligned => absurd aligned unaligned⟩
  refine .bind (Q := fun _ => Present (reserve.Residue reserve.slotBytes rows))
    (.effect (of_present (punched _)) ?_) fun _ => .bind (completes_syncAll fun _ => id).sound
      fun _ => triple_inspect.consequence (fun _ => id)
        (fun _ => of_present fun file holds => holds.1) fun _ => id
  rintro (_ | file) progress present
  · exact present
  · exact punched _ file present

end Reconcile

end RecoveryReserve

end Linura.Persistence
