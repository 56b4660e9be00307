import Linura.Lib.Program
import Mathlib.Data.List.Basic

/-!
# A disk behind a cache

Changes to the contents of a disk are seen at once, but they last only once the disk
is synced.  A power loss keeps some of the changes made since the last sync.  Which
ones is not known: a disk may write them in any order, and one that writes them in the
order in which they were made keeps a first part of them.

An assertion holds *throughout* if it holds of the synced contents and after each change
since, and *anyhow* if it holds of whatever a power loss may leave.

A file is replaced by a program that first writes another file, renames it, and then syncs
the directory, and may fail or crash between any two of these.
-/

namespace Linura.Lib

/-- The contents of the last sync, and the changes made since, oldest first. -/
structure Disk (σ : Type) where
  synced : σ
  pending : List (σ → σ)

namespace Disk

variable {σ : Type}

variable (contents : σ)

/-- Make changes one after another. -/
def changed (changes : List (σ → σ)) : σ :=
  changes.foldl (fun contents change => change contents) contents

/-- A disk on which everything is synced. -/
def holding : Disk σ := ⟨contents, []⟩

variable (disk : Disk σ)

/-- The contents that programs see. -/
def visible : σ := changed disk.synced disk.pending

/-- Make a change. -/
def change (update : σ → σ) (disk : Disk σ) : Disk σ := ⟨disk.synced, disk.pending ++ [update]⟩

def sync : Disk σ := ⟨disk.visible, []⟩

theorem sync_eq : disk.sync = .holding disk.visible := rfl

/-- The changes that are marked. -/
def survivors : List Bool → List (σ → σ) → List (σ → σ)
  | true :: keep, change :: rest => change :: survivors keep rest
  | false :: keep, _ :: rest => survivors keep rest
  | [], _ => []
  | _, [] => []

variable (keep : List Bool)

/-- What a power loss leaves if it keeps the marked changes. -/
def remains : σ := changed disk.synced (survivors keep disk.pending)

/-- A power loss that keeps the marked changes. -/
def powerLoss (disk : Disk σ) : Disk σ := ⟨disk.remains keep, []⟩

/-- No change is kept unless the earlier ones are. -/
def InOrder : Prop := keep.Pairwise fun earlier later => later = true → earlier = true

instance (keep : List Bool) : Decidable (InOrder keep) := inferInstanceAs
    (Decidable (List.Pairwise _ _))

variable {disk : Disk σ} {update : σ → σ} {P Q : σ → Prop}

@[simp]
theorem visible_sync : disk.sync.visible = disk.visible := rfl

@[simp]
theorem visible_change : (disk.change update).visible = update disk.visible := by
  simp [visible, change, changed]

/-! ### Assertions -/

/-- Of the synced contents, and after each change since. -/
def Throughout (P : σ → Prop) (disk : Disk σ) : Prop :=
  ∀ n, P (changed disk.synced (disk.pending.take n))

/-- Of whatever a power loss may leave. -/
def Anyhow (P : σ → Prop) (disk : Disk σ) : Prop := ∀ keep, P (disk.remains keep)

theorem Throughout.visible (holds : disk.Throughout P) : P disk.visible := by
  have all := holds disk.pending.length
  rwa [List.take_length] at all

theorem throughout_of_synced {contents : σ} (holds : P contents) :
    (⟨contents, []⟩ : Disk σ).Throughout P := by
  intro n
  rw [List.take_nil]
  exact holds

theorem Throughout.sync (holds : disk.Throughout P) : disk.sync.Throughout P :=
  throughout_of_synced holds.visible

theorem Throughout.change (holds : disk.Throughout P) (next : P (update disk.visible)) :
    (disk.change update).Throughout P := by
  intro n
  by_cases within : n ≤ disk.pending.length
  · -- the new change is not among the first `n`
    rw [Disk.change, List.take_append_of_le_length within]
    exact holds n
  · have all : (disk.pending ++ [update]).length ≤ n := by
      rw [List.length_append, List.length_singleton]
      exact Nat.lt_of_not_le within
    rw [Disk.change, List.take_of_length_le all]
    rw [changed, List.foldl_concat]
    exact next

theorem survivors_nil : survivors keep ([] : List (σ → σ)) = [] := by
  cases keep with
  | nil => rfl
  | cons first rest => cases first <;> rfl

/-- In order, a first part of the changes is kept. -/
theorem survivors_of_inOrder {keep : List Bool} (inOrder : InOrder keep) (changes : List (σ → σ)) :
    ∃ n, survivors keep changes = changes.take n := by
  induction keep generalizing changes with
  | nil => exact ⟨0, rfl⟩
  | cons first keep ih =>
    obtain ⟨before, rest⟩ := List.pairwise_cons.mp inOrder
    cases changes with
    | nil => exact ⟨0, survivors_nil _⟩
    | cons change changes =>
      cases first with
      | true =>
        obtain ⟨n, same⟩ := ih rest changes
        exact ⟨n + 1, congrArg (change :: ·) same⟩
      | false =>
        -- nothing later is marked
        refine ⟨0, ?_⟩
        rw [List.take_zero, survivors]
        have unmarked : ∀ later ∈ keep, later = false := by
          intro later member
          by_contra marked
          exact absurd (before later member (by simpa using marked)) (by simp)
        clear ih inOrder before rest
        induction keep generalizing changes with
        | nil => rfl
        | cons later keep ih =>
          rw [unmarked later List.mem_cons_self]
          cases changes with
          | nil => rfl
          | cons change' changes =>
            exact ih changes fun later member => unmarked later (List.mem_cons_of_mem _ member)

/-- What holds throughout holds after a loss in order. -/
theorem Throughout.powerLoss (holds : disk.Throughout P) {keep : List Bool}
    (inOrder : InOrder keep) :
    (disk.powerLoss keep).Throughout P := by
  obtain ⟨n, same⟩ := survivors_of_inOrder inOrder disk.pending
  apply throughout_of_synced
  rw [remains, same]
  exact holds n

theorem anyhow_of_synced {contents : σ} (holds : P contents) :
    (⟨contents, []⟩ : Disk σ).Anyhow P := by
  intro keep
  rw [remains, survivors_nil]
  exact holds

theorem survivors_append (changes : List (σ → σ)) (last : σ → σ) :
    survivors keep (changes ++ [last]) = survivors keep changes ∨
      survivors keep (changes ++ [last]) = survivors keep changes ++ [last] := by
  induction changes generalizing keep with
  | nil =>
    cases keep with
    | nil => exact .inl rfl
    | cons first keep =>
      cases first with
      | true => exact .inr (by simp [survivors, survivors_nil])
      | false => exact .inl (by simp [survivors, survivors_nil])
  | cons change changes ih =>
    cases keep with
    | nil => exact .inl rfl
    | cons first keep =>
      cases first with
      | true => exact (ih keep).imp (congrArg (change :: ·)) (congrArg (change :: ·))
      | false => exact ih keep

theorem survivors_replicate (changes : List (σ → σ)) :
    survivors (List.replicate changes.length true) changes = changes := by
  induction changes with
  | nil => rfl
  | cons change changes ih => exact congrArg (change :: ·) ih

/-- A power loss may keep everything. -/
theorem Anyhow.visible (holds : disk.Anyhow P) : P disk.visible := by
  have all := holds (List.replicate disk.pending.length true)
  rwa [remains, survivors_replicate] at all

theorem Anyhow.sync (holds : disk.Anyhow P) : disk.sync.Anyhow P := anyhow_of_synced holds.visible

/-- A change may follow any of the contents that a power loss may leave. -/
theorem Anyhow.change (holds : disk.Anyhow P)
    (next : ∀ contents, P contents → P (update contents)) :
    (disk.change update).Anyhow P := by
  intro keep
  rw [remains, Disk.change]
  rcases survivors_append keep disk.pending update with same | same
  · rw [same]
    exact holds keep
  · rw [same, changed, List.foldl_concat]
    exact next _ (holds keep)

/-- What holds anyhow holds after any loss. -/
theorem Anyhow.powerLoss (holds : disk.Anyhow P) (keep : List Bool) :
    (disk.powerLoss keep).Anyhow P :=
  anyhow_of_synced (holds keep)

theorem Anyhow.mono (holds : disk.Anyhow P) (weaker : ∀ contents, P contents → Q contents) :
    disk.Anyhow Q := fun keep => weaker _ (holds keep)

/-- A way to assert something of a disk whose contents are replaced as a whole: of what is seen, or
of whatever a power loss may leave. -/
structure Modality (K : (σ → Prop) → Disk σ → Prop) : Prop where
  visible : ∀ {P : σ → Prop} {disk : Disk σ}, K P disk → P disk.visible
  replace : ∀ {P : σ → Prop} {disk : Disk σ} {contents : σ}, K P disk → P contents →
    K P (disk.change fun _ => contents)
  sync : ∀ {P : σ → Prop} {disk : Disk σ}, P disk.visible → K P disk.sync
  mono : ∀ {P Q : σ → Prop} {disk : Disk σ}, K P disk →
    (∀ contents, P contents → Q contents) → K Q disk

/-- What is seen is a modality. -/
theorem modality_visible : Modality fun (P : σ → Prop) disk => P disk.visible where
  visible := fun holds => holds
  replace := fun _ holds => by rwa [visible_change]
  sync := fun holds => holds
  mono := fun holds weaker => weaker _ holds

/-- Each change since the last sync is a step of a relation. -/
def Chain (R : σ → σ → Prop) (disk : Disk σ) : Prop :=
  ∀ n < disk.pending.length, R (changed disk.synced (disk.pending.take n))
    (changed disk.synced (disk.pending.take (n + 1)))

variable {R : σ → σ → Prop}

theorem chain_of_synced : (⟨contents, []⟩ : Disk σ).Chain R := by
  intro n lt
  simp at lt

/-- A change by a step extends the chain. -/
theorem Chain.change (chain : disk.Chain R) (next : R disk.visible (update disk.visible)) :
    (disk.change update).Chain R := by
  intro n lt
  rw [Disk.change, List.length_append, List.length_singleton] at lt
  by_cases last : n = disk.pending.length
  · -- the new change comes after all the others
    rw [last, Disk.change, List.take_append_of_le_length (Nat.le_refl _), List.take_length,
      List.take_of_length_le (by simp), changed, changed,
      List.foldl_concat]
    exact next
  · have earlier : n < disk.pending.length := by omega
    rw [Disk.change, List.take_append_of_le_length (Nat.le_of_lt earlier),
      List.take_append_of_le_length earlier]
    exact chain n earlier

end Disk

/-! ### Replacing a file -/

section AtomicWrite

variable {ω ε : Type}

/-- The text of an error of the system, which is told by its number. -/
def osErrorText (code : Nat) : String := "os error " ++ toString code

/-- Write and sync a temporary file, rename it, which makes the change, and sync the directory. -/
def atomicWrite (io uncertain : Nat → ε) (change sync : ω → ω) : Program ω ε Unit := do
  Program.access io
  Program.atomically io change
  Program.atomically uncertain sync

/-- A file that is replaced is as before, or changed and perhaps not synced, or synced. -/
theorem triple_atomicWrite {io uncertain : Nat → ε} {change sync : ω → ω} {P R Q E : ω → Prop}
    (early : ∀ world, P world → E world) (changes : ∀ world, P world → R (change world))
    (late : ∀ world, R world → E world) (syncs : ∀ world, R world → Q (sync world)) :
    Program.Triple P (atomicWrite io uncertain change sync) (fun _ => Q) E := by
  apply (Program.Triple.access early).bind
  intro _
  apply Program.Triple.bind (Q := fun _ => R)
  · exact Program.Triple.atomically changes early
  · exact fun _ => Program.Triple.atomically syncs late

end AtomicWrite

end Linura.Lib
