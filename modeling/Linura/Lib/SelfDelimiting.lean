import Linura.Lib.Text
import Mathlib.Data.Set.Function

/-!
# Self-delimiting encodings

An encoding is self-delimiting on a class of values if a value of the class can be read off the
front of any byte string: whatever follows, the value and what follows it are determined.  A record
whose fields are written one after the other by self-delimiting encodings is then read field by
field, and nothing has to separate the fields.
-/

namespace Linura.Lib

variable {α β : Type}

/-- The values that satisfy `P` can be read off the front of a byte string. -/
def SelfDelimiting (P : α → Prop) (encode : α → Bytes) : Prop :=
  ∀ ⦃value value' : α⦄ ⦃rest rest' : Bytes⦄, P value → P value' →
    encode value ++ rest = encode value' ++ rest' → value = value' ∧ rest = rest'

/-- Two lists of blocks of one width, each followed by something: the shorter list is the first part
of the longer one, whose other blocks are the first part of what follows the shorter one. -/
theorem flatMap_blocks_append {f : α → List β} {values values' : List α} {rest rest' : List β}
    (width : ∀ value value', (f value).length = (f value').length)
    (injective : Function.Injective f)
    (le : values'.length ≤ values.length)
    (same : values.flatMap f ++ rest = values'.flatMap f ++ rest') :
    ∃ extra, values = values' ++ extra ∧ rest' = extra.flatMap f ++ rest := by
  induction values' generalizing values with
  | nil => exact ⟨values, rfl, same.symm⟩
  | cons value' tail' ih =>
    cases values with
    | nil => simp at le
    | cons value tail =>
      simp only [List.flatMap_cons, List.append_assoc] at same
      obtain ⟨head, later⟩ := List.append_inj same (width value value')
      obtain ⟨extra, rfl, follows⟩ := ih (Nat.le_of_succ_le_succ le) later
      exact ⟨extra, by rw [injective head, List.cons_append], follows⟩

namespace SelfDelimiting

variable {P : α → Prop} {encode : α → Bytes}

/-- Words of eight bytes. -/
theorem word : SelfDelimiting (· < 2 ^ 64) be64 := by
  intro n n' rest rest' fits fits' same
  obtain ⟨head, tail⟩ := List.append_inj same rfl
  have read := congrArg fromBe head
  rw [fromBe_be64 fits, fromBe_be64 fits'] at read
  exact ⟨read, tail⟩

/-- Framed texts. -/
theorem text : SelfDelimiting (fun text : String => text.utf8ByteSize < 2 ^ 64)
    fun text => frame (asBytes text) := by
  intro text text' rest rest' fits fits' same
  obtain ⟨bytes, tail⟩ := frame_append_inj fits fits' same
  exact ⟨asBytes_injective bytes, tail⟩

/-- What is encoded through values that determine it. -/
theorem through {Q : β → Prop} {f : β → α} (delimiting : SelfDelimiting P encode)
    (maps : ∀ value, Q value → P (f value)) (injective : Set.InjOn f {value | Q value}) :
    SelfDelimiting Q fun value => encode (f value) := by
  intro value value' rest rest' holds holds' same
  obtain ⟨image, tail⟩ := delimiting (maps _ holds) (maps _ holds') same
  exact ⟨injective holds holds' image, tail⟩

/-- Two values, one after the other. -/
theorem pair {Q : β → Prop} {encode' : β → Bytes} (first : SelfDelimiting P encode)
    (second : SelfDelimiting Q encode') :
    SelfDelimiting (fun value : α × β => P value.1 ∧ Q value.2)
      fun value => encode value.1 ++ encode' value.2 := by
  rintro ⟨a, b⟩ ⟨a', b'⟩ rest rest' ⟨holds, also⟩ ⟨holds', also'⟩ same
  simp only [List.append_assoc] at same
  obtain ⟨rfl, tail⟩ := first holds holds' same
  obtain ⟨rfl, tail'⟩ := second also also' tail
  exact ⟨rfl, tail'⟩

/-- Lists of one length, without a count. -/
theorem flatMap_append_inj (delimiting : SelfDelimiting P encode) {values values' : List α}
    {rest rest' : Bytes} (all : ∀ value ∈ values, P value) (all' : ∀ value ∈ values', P value)
    (count : values.length = values'.length)
    (same : values.flatMap encode ++ rest = values'.flatMap encode ++ rest') :
    values = values' ∧ rest = rest' := by
  induction values generalizing values' with
  | nil =>
    obtain rfl := List.length_eq_zero_iff.mp count.symm
    exact ⟨rfl, same⟩
  | cons value tail ih =>
    cases values' with
    | nil => simp at count
    | cons value' tail' =>
      simp only [List.flatMap_cons, List.append_assoc] at same
      obtain ⟨rfl, later⟩ :=
        delimiting (all value List.mem_cons_self) (all' value' List.mem_cons_self) same
      obtain ⟨rfl, after⟩ := ih (fun _ member => all _ (List.mem_cons_of_mem _ member))
        (fun _ member => all' _ (List.mem_cons_of_mem _ member)) (by simpa using count) later
      exact ⟨rfl, after⟩

/-- Lists after their length. -/
theorem list (delimiting : SelfDelimiting P encode) :
    SelfDelimiting (fun values : List α => values.length < 2 ^ 64 ∧ ∀ value ∈ values, P value)
      fun values => be64 values.length ++ values.flatMap encode := by
  rintro values values' rest rest' ⟨short, all⟩ ⟨short', all'⟩ same
  simp only [List.append_assoc] at same
  obtain ⟨count, tail⟩ := word short short' same
  exact delimiting.flatMap_append_inj all all' count tail

/-- Without anything after it, the encoding of a value determines it. -/
theorem injOn (delimiting : SelfDelimiting P encode) : Set.InjOn encode {value | P value} := by
  intro value holds value' holds' same
  have alone : encode value ++ [] = encode value' ++ [] := by rw [same]
  exact (delimiting holds holds' alone).1

end SelfDelimiting

end Linura.Lib
