import Mathlib.Data.Nat.Count

/-!
# Sparse files

A file has a length and, for each of its bytes, the information whether the byte is
backed by storage.  Writing allocates the bytes it covers; extending a file or
punching a hole does not.  The bytes themselves are left out.
-/

namespace Linura.Lib

/-- A file that may have holes.  What `allocated` says at or beyond the length is irrelevant. -/
structure SparseFile where
  length : Nat
  allocated : Nat → Bool

namespace SparseFile

/-- A new file. -/
def empty : SparseFile := ⟨0, fun _ => false⟩

def allocatedBytes (file : SparseFile) : Nat :=
  Nat.count (fun i => file.allocated i = true) file.length

/-- Write `count` bytes at an offset. -/
def write (offset count : Nat) (file : SparseFile) : SparseFile where
  length := max file.length (offset + count)
  allocated i := (offset ≤ i ∧ i < offset + count) || (i < file.length && file.allocated i)

/-- Truncate or extend to a length. -/
def setLen (length : Nat) (file : SparseFile) : SparseFile where
  length := length
  allocated i := i < file.length && file.allocated i

/-- Release the storage of `count` bytes at an offset, and keep the length. -/
def punch (offset count : Nat) (file : SparseFile) : SparseFile where
  length := file.length
  allocated i := !(offset ≤ i ∧ i < offset + count) && file.allocated i

/-- Every byte before `bound` is allocated. -/
def FullBelow (file : SparseFile) (bound : Nat) : Prop := ∀ i < bound, file.allocated i = true

variable {file : SparseFile} {offset count bound : Nat}

theorem FullBelow.mono {bound' : Nat} (full : file.FullBelow bound) (le : bound' ≤ bound) :
    file.FullBelow bound' := fun i lt => full i (lt.trans_le le)

theorem FullBelow.le_allocatedBytes (full : file.FullBelow bound) (le : bound ≤ file.length) :
    bound ≤ file.allocatedBytes := by
  calc
    bound = Nat.count (fun i => file.allocated i = true) bound :=
      (Nat.count_iff_forall.mpr full).symm
    _ ≤ file.allocatedBytes := Nat.count_monotone _ le

/-- A file without holes, told by the number of its allocated bytes. -/
theorem length_le_allocatedBytes_iff :
    file.length ≤ file.allocatedBytes ↔ file.FullBelow file.length := by
  constructor
  · intro le
    exact Nat.count_iff_forall.mp (le_antisymm (Nat.count_le _) le)
  · intro full
    exact full.le_allocatedBytes le_rfl

/-- Writing where the allocated part ends extends it. -/
theorem FullBelow.write (full : file.FullBelow offset) (le : offset ≤ file.length) :
    (file.write offset count).FullBelow (offset + count) := by
  intro i lt
  by_cases before : i < offset
  · simp [SparseFile.write, full i before, before.trans_le le]
  · simp [SparseFile.write, lt, Nat.le_of_not_lt before]

/-- Writing inside a file keeps what is allocated. -/
theorem FullBelow.write_of_le (full : file.FullBelow bound) (le : bound ≤ file.length) :
    (file.write offset count).FullBelow bound := by
  intro i lt
  simp [SparseFile.write, full i lt, lt.trans_le le]

theorem FullBelow.setLen {length : Nat} (full : file.FullBelow bound) (le : bound ≤ file.length) :
    (file.setLen length).FullBelow bound := by
  intro i lt
  simp [SparseFile.setLen, full i lt, lt.trans_le le]

theorem FullBelow.punch (full : file.FullBelow bound) (le : bound ≤ offset) :
    (file.punch offset count).FullBelow bound := by
  intro i lt
  have before : ¬ offset ≤ i := by omega
  simp [SparseFile.punch, before, full i lt]

@[simp]
theorem length_write : (file.write offset count).length = max file.length (offset + count) := rfl

end SparseFile

end Linura.Lib
