import Mathlib.Algebra.Order.Ring.Nat
import Mathlib.Data.List.Basic
import Mathlib.Tactic.Common

/-!
# Length-framed byte strings

A field is framed by its length as an eight-byte big-endian word followed by its
bytes, and a record is the concatenation of its framed fields.  Reading one frame
back consumes exactly that frame, so a concatenation of frames determines its
fields and no record is a proper prefix of another reading of the same fields.

The encoder truncates lengths to 64 bits; every injectivity statement therefore
asks that the fields are shorter than `2 ^ 64` bytes.
-/

namespace Linura.Lib

/-- Byte strings. -/
abbrev Bytes := List UInt8

/-- The eight big-endian bytes of a 64-bit word. -/
def be64 (n : Nat) : Bytes :=
  [UInt8.ofNat (n >>> 56), UInt8.ofNat (n >>> 48), UInt8.ofNat (n >>> 40), UInt8.ofNat (n >>> 32),
    UInt8.ofNat (n >>> 24), UInt8.ofNat (n >>> 16), UInt8.ofNat (n >>> 8), UInt8.ofNat n]

/-- The word denoted by big-endian bytes. -/
def fromBe (bytes : Bytes) : Nat :=
  bytes.foldl (fun word byte => word * 256 + byte.toNat) 0

@[simp]
theorem be64_length (n : Nat) : (be64 n).length = 8 := rfl

theorem fromBe_be64 {n : Nat} (fits : n < 2 ^ 64) : fromBe (be64 n) = n := by
  simp only [be64, fromBe, List.foldl_cons, List.foldl_nil, UInt8.toNat_ofNat',
    Nat.shiftRight_eq_div_pow]
  omega

theorem be64_inj {n n' : Nat} (fits : n < 2 ^ 64) (fits' : n' < 2 ^ 64) :
    be64 n = be64 n' ↔ n = n' := by
  refine ⟨fun same => ?_, congrArg be64⟩
  have read := congrArg fromBe same
  rwa [fromBe_be64 fits, fromBe_be64 fits'] at read

/-- A field preceded by its length. -/
def frame (field : Bytes) : Bytes :=
  be64 field.length ++ field

def frames (fields : List Bytes) : Bytes :=
  fields.flatMap frame

@[simp]
theorem frame_length (field : Bytes) : (frame field).length = 8 + field.length := by
  simp [frame]

@[simp]
theorem frames_nil : frames [] = [] := rfl

@[simp]
theorem frames_cons (field : Bytes) (fields : List Bytes) :
    frames (field :: fields) = frame field ++ frames fields := rfl

@[simp]
theorem frames_append (front back : List Bytes) :
    frames (front ++ back) = frames front ++ frames back :=
  List.flatMap_append

variable {fields : List Bytes}

/-- No field is longer than the record that contains it. -/
theorem length_le_length_frames {field : Bytes} (member : field ∈ fields) :
    field.length ≤ (frames fields).length := by
  induction fields with
  | nil => simp at member
  | cons head rest ih =>
    rcases List.mem_cons.mp member with rfl | later
    · simp only [frames_cons, List.length_append, frame_length]
      omega
    · have := ih later
      simp only [frames_cons, List.length_append]
      omega

/-- A record has at least as many bytes as fields. -/
theorem length_le_length_frames_self (fields : List Bytes) :
    fields.length ≤ (frames fields).length := by
  induction fields with
  | nil => exact Nat.le_refl _
  | cons field rest ih =>
    simp only [frames_cons, List.length_append, List.length_cons, frame_length]
    omega

/-- Read one frame: the field and the bytes after it. -/
def unframe (bytes : Bytes) : Option (Bytes × Bytes) :=
  if bytes.length < 8 then none
  else
    let length := fromBe (bytes.take 8)
    let rest := bytes.drop 8
    if rest.length < length then none else some (rest.take length, rest.drop length)

/-- Reading after a frame returns the field and leaves the rest. -/
theorem unframe_frame_append {field : Bytes} (fits : field.length < 2 ^ 64) (rest : Bytes) :
    unframe (frame field ++ rest) = some (field, rest) := by
  have long : ¬ (frame field ++ rest).length < 8 := by
    simp only [List.length_append, frame_length]
    omega
  have takeLength : (frame field ++ rest).take 8 = be64 field.length := rfl
  have dropLength : (frame field ++ rest).drop 8 = field ++ rest := rfl
  simp only [unframe, long, if_false, takeLength, dropLength, fromBe_be64 fits]
  simp

/-- Equal concatenations of frames, followed by anything, agree field by field as long as
both have fields. -/
theorem frame_append_inj {field field' rest rest' : Bytes} (fits : field.length < 2 ^ 64)
    (fits' : field'.length < 2 ^ 64) (same : frame field ++ rest = frame field' ++ rest') :
    field = field' ∧ rest = rest' := by
  have read := unframe_frame_append fits rest
  rw [same, unframe_frame_append fits' rest'] at read
  simp only [Option.some.injEq, Prod.mk.injEq] at read
  exact ⟨read.1.symm, read.2.symm⟩

variable {fields' : List Bytes}

/-- A record determines its fields. -/
theorem frames_inj (fits : ∀ field ∈ fields, field.length < 2 ^ 64)
    (fits' : ∀ field ∈ fields', field.length < 2 ^ 64) (same : frames fields = frames fields') :
    fields = fields' := by
  induction fields generalizing fields' with
  | nil =>
    cases fields' with
    | nil => rfl
    | cons field' rest' =>
      have := congrArg List.length same
      simp only [frames_nil, List.length_nil, frames_cons, List.length_append,
        frame_length] at this
      omega
  | cons field rest ih =>
    cases fields' with
    | nil =>
      have := congrArg List.length same
      simp only [frames_nil, List.length_nil, frames_cons, List.length_append,
        frame_length] at this
      omega
    | cons field' rest' =>
      obtain ⟨rfl, sameRest⟩ := frame_append_inj (fits field List.mem_cons_self)
        (fits' field' List.mem_cons_self) same
      rw [ih (fun f hf => fits f (List.mem_cons_of_mem _ hf))
        (fun f hf => fits' f (List.mem_cons_of_mem _ hf)) sameRest]

/-- A record of bounded size determines its fields. -/
theorem frames_inj_of_length_lt (small : (frames fields).length < 2 ^ 64)
    (same : frames fields = frames fields') : fields = fields' := by
  refine frames_inj (fun field member => ?_) (fun field member => ?_) same
  · exact Nat.lt_of_le_of_lt (length_le_length_frames member) small
  · rw [same] at small
    exact Nat.lt_of_le_of_lt (length_le_length_frames member) small

/-- A record of short fields is short. -/
theorem frames_length_le {limit : Nat} (short : ∀ field ∈ fields, field.length ≤ limit) :
    (frames fields).length ≤ fields.length * (8 + limit) := by
  induction fields with
  | nil => exact Nat.zero_le _
  | cons field rest ih =>
    have first := short field List.mem_cons_self
    have later := ih fun other member => short other (List.mem_cons_of_mem _ member)
    rw [frames_cons, List.length_append, frame_length, List.length_cons, Nat.succ_mul]
    omega

/-- A record that is sealed under labels determines the labels and its own fields. -/
theorem sealed_frames_inj (labels labels' : List Bytes)
    (small : (frames (labels ++ [frames fields])).length < 2 ^ 64)
    (same : frames (labels ++ [frames fields]) = frames (labels' ++ [frames fields'])) :
    labels = labels' ∧ fields = fields' := by
  obtain ⟨sameLabels, sameRecord⟩ := List.append_inj' (frames_inj_of_length_lt small same) rfl
  refine ⟨sameLabels, frames_inj_of_length_lt ?_ (List.singleton_inj.mp sameRecord)⟩
  exact Nat.lt_of_le_of_lt (length_le_length_frames (by simp)) small

/-! ### Bounded buffers -/

section Bounded

variable {ε : Type} (limit : Nat) (full : ε)

/-- Append one frame to a buffer that may hold at most `limit` bytes. -/
def pushFrame (buffer field : Bytes) : Except ε Bytes :=
  if limit < (buffer ++ frame field).length then .error full else .ok (buffer ++ frame field)

/-- Append the frames of several fields, one after the other. -/
def pushFrames (buffer : Bytes) (fields : List Bytes) : Except ε Bytes :=
  fields.foldlM (pushFrame limit full) buffer

/-- Appending frames fails exactly when the finished buffer would be too long. -/
theorem pushFrames_eq {buffer : Bytes} (room : buffer.length ≤ limit) (fields : List Bytes) :
    pushFrames limit full buffer fields =
      if limit < (buffer ++ frames fields).length then .error full
      else .ok (buffer ++ frames fields) := by
  induction fields generalizing buffer with
  | nil =>
    simp only [frames_nil, List.append_nil, if_neg (Nat.not_lt.mpr room)]
    rfl
  | cons field rest ih =>
    -- a prefix that is already too long stays too long, whatever follows
    have regroup : buffer ++ frames (field :: rest) = (buffer ++ frame field) ++ frames rest := by
      simp
    rw [pushFrames, List.foldlM_cons, pushFrame, regroup]
    by_cases tooLong : limit < (buffer ++ frame field).length
    · have stillTooLong : limit < (buffer ++ frame field ++ frames rest).length := by
        rw [List.length_append]
        omega
      rw [if_pos tooLong, if_pos stillTooLong]
      rfl
    · rw [if_neg tooLong]
      exact ih (Nat.not_lt.mp tooLong)

/-- Frames that were pushed follow the buffer, within its limit. -/
theorem pushFrames_eq_ok {buffer result : Bytes} (room : buffer.length ≤ limit)
    {fields : List Bytes} (pushed : pushFrames limit full buffer fields = .ok result) :
    result = buffer ++ frames fields ∧ result.length ≤ limit := by
  rw [pushFrames_eq limit full room] at pushed
  split at pushed
  · cases pushed
  · cases pushed
    exact ⟨rfl, by omega⟩

theorem pushFrames_nil_eq_ok {result : Bytes} {fields : List Bytes}
    (pushed : pushFrames limit full [] fields = .ok result) :
    result = frames fields ∧ result.length ≤ limit := by
  obtain ⟨same, small⟩ := pushFrames_eq_ok limit full (Nat.zero_le _) pushed
  exact ⟨by rw [same, List.nil_append], small⟩

end Bounded

end Linura.Lib
