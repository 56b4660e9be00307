import Linura.Lib.Framing
import Mathlib.Data.Nat.Digits.Lemmas

/-!
# Text as bytes

The UTF-8 bytes of a text, the two Unicode character classes that token checks
rely on, and lower-case hexadecimal text.  A text is determined by its bytes and
a byte string by its hexadecimal text.
-/

namespace Linura.Lib

/-! ### UTF-8 -/

variable (text : String)

/-- The UTF-8 bytes of a text. -/
def asBytes : Bytes :=
  text.toByteArray.data.toList

variable (bytes : Bytes)

/-- The text with these UTF-8 bytes, if they are well formed. -/
def fromUtf8 : Option String :=
  String.fromUTF8? ⟨bytes.toArray⟩

/-- A text is read from its own bytes. -/
theorem fromUtf8_asBytes : fromUtf8 (asBytes text) = some text := by
  have same : (⟨(asBytes text).toArray⟩ : ByteArray) = text.toByteArray := by
    simp [asBytes]
  rw [fromUtf8, same, String.fromUTF8?, dif_pos text.isValidUTF8]
  rfl

theorem asBytes_injective : Function.Injective asBytes := by
  intro text text' same
  have read := fromUtf8_asBytes text
  rw [same, fromUtf8_asBytes] at read
  exact (Option.some.inj read).symm

@[simp]
theorem asBytes_inj {text text' : String} : asBytes text = asBytes text' ↔ text = text' :=
  asBytes_injective.eq_iff

/-! ### Character classes -/

/-- The control characters of Unicode, general category `Cc`. -/
def isControl (c : Char) : Bool :=
  c.toNat < 0x20 || (0x7f ≤ c.toNat && c.toNat ≤ 0x9f)

/-- The characters with the Unicode property `White_Space`. -/
def isWhitespace (c : Char) : Bool :=
  (0x09 ≤ c.toNat && c.toNat ≤ 0x0d) || c.toNat == 0x20 || c.toNat == 0x85 || c.toNat == 0xa0 ||
    c.toNat == 0x1680 || (0x2000 ≤ c.toNat && c.toNat ≤ 0x200a) || c.toNat == 0x2028 ||
    c.toNat == 0x2029 || c.toNat == 0x202f || c.toNat == 0x205f || c.toNat == 0x3000

/-- The text without the white space at both ends. -/
def trim : String :=
  String.ofList (((text.toList.dropWhile isWhitespace).reverse.dropWhile isWhitespace).reverse)

/-- Nothing remains of the text once the white space at both ends is removed. -/
def trimIsEmpty : Bool :=
  text.toList.all isWhitespace

/-- Some character of the text is a control character. -/
def hasControl : Bool :=
  text.toList.any isControl

/-- The text has two dots in a row. -/
def hasDoubleDot : List Char → Bool
  | [] => false
  | c :: rest => (c == '.' && rest.head? == some '.') || hasDoubleDot rest

/-- A bounded text of ASCII letters, digits and `-`, `_`, `.`, `:` without two dots in a row. -/
def isPathSafe (maxBytes : Nat) (text : String) : Bool :=
  !text.isEmpty && text.utf8ByteSize ≤ maxBytes &&
    text.toList.all (fun c => c.isAlphanum || c == '-' || c == '_' || c == '.' || c == ':') &&
    !hasDoubleDot text.toList

/-! ### Hexadecimal text -/

/-- A lower-case hexadecimal digit. -/
def isLowerHex (c : Char) : Bool :=
  ('0' ≤ c && c ≤ '9') || ('a' ≤ c && c ≤ 'f')

/-- The two hexadecimal digits of a byte. -/
def hexByte (byte : UInt8) : List Char :=
  [Nat.digitChar (byte.toNat / 16), Nat.digitChar (byte.toNat % 16)]

/-- Lower-case hexadecimal text of a byte string. -/
def hexEncode : String :=
  String.ofList (bytes.flatMap hexByte)

private theorem isLowerHex_digitChar : ∀ digit < 16, isLowerHex (Nat.digitChar digit) = true := by
  decide

private theorem digitChar_inj :
    ∀ digit < 16, ∀ digit' < 16, Nat.digitChar digit = Nat.digitChar digit' → digit = digit' := by
  decide

theorem isLowerHex_hexEncode {bytes : Bytes} {c : Char} (member : c ∈ (hexEncode bytes).toList) :
    isLowerHex c = true := by
  rw [hexEncode, String.toList_ofList, List.mem_flatMap] at member
  obtain ⟨byte, -, digit⟩ := member
  have bound := byte.toNat_lt
  rcases List.mem_pair.mp digit with rfl | rfl
  · exact isLowerHex_digitChar _ (by omega)
  · exact isLowerHex_digitChar _ (by omega)

@[simp]
theorem hexEncode_length : (hexEncode bytes).toList.length = 2 * bytes.length := by
  rw [hexEncode, String.toList_ofList]
  induction bytes with
  | nil => rfl
  | cons byte rest ih =>
    simp only [List.flatMap_cons, List.length_append, ih, hexByte, List.length_cons,
      List.length_nil]
    omega

private theorem hexByte_injective {byte byte' : UInt8} (same : hexByte byte = hexByte byte') :
    byte = byte' := by
  have bound := byte.toNat_lt
  have bound' := byte'.toNat_lt
  simp only [hexByte, List.cons.injEq, and_true] at same
  have high := digitChar_inj _ (by omega) _ (by omega) same.1
  have low := digitChar_inj _ (by omega) _ (by omega) same.2
  exact UInt8.toNat_inj.mp (by omega)

/-- Bytes are determined by their hexadecimal text. -/
theorem hexEncode_injective : Function.Injective hexEncode := by
  intro bytes bytes' same
  have digits := congrArg String.toList same
  simp only [hexEncode, String.toList_ofList] at digits
  clear same
  induction bytes generalizing bytes' with
  | nil =>
    cases bytes' with
    | nil => rfl
    | cons byte' rest' => simp [hexByte] at digits
  | cons byte rest ih =>
    cases bytes' with
    | nil => simp [hexByte] at digits
    | cons byte' rest' =>
      rw [List.flatMap_cons, List.flatMap_cons] at digits
      obtain ⟨head, tail⟩ := List.append_inj digits rfl
      rw [hexByte_injective head, ih tail]

private theorem bounds_of_isLowerHex {c : Char} (hex : isLowerHex c = true) :
    48 ≤ c.toNat ∧ c.toNat ≤ 102 := by
  simp only [isLowerHex, Bool.or_eq_true, Bool.and_eq_true, decide_eq_true_eq, Char.le_def,
    UInt32.le_iff_toNat_le] at hex
  rcases hex with ⟨low, high⟩ | ⟨low, high⟩
  · exact ⟨low, high.trans (by decide)⟩
  · exact ⟨le_trans (by decide) low, high⟩

theorem isControl_of_isLowerHex {c : Char} (hex : isLowerHex c = true) : isControl c = false := by
  have bounds := bounds_of_isLowerHex hex
  simp only [isControl, Bool.or_eq_false_iff, Bool.and_eq_false_iff, decide_eq_false_iff_not]
  omega

private theorem utf8ByteSize_ofList_ascii {chars : List Char}
    (ascii : ∀ c ∈ chars, c.utf8Size = 1) : (String.ofList chars).utf8ByteSize = chars.length := by
  rw [← String.size_toByteArray, String.toByteArray_ofList]
  induction chars with
  | nil => rfl
  | cons c rest ih =>
    rw [List.utf8Encode_cons, ByteArray.size_append, List.utf8Encode_singleton,
      ih fun d later => ascii d (List.mem_cons_of_mem _ later)]
    simp only [List.size_toByteArray, String.length_utf8EncodeChar, ascii c List.mem_cons_self,
      List.length_cons]
    omega

/-- ASCII text has one byte for each character. -/
theorem utf8ByteSize_eq_length {text : String} (ascii : ∀ c ∈ text.toList, c.utf8Size = 1) :
    text.utf8ByteSize = text.toList.length := by
  have size := utf8ByteSize_ofList_ascii ascii
  rwa [String.ofList_toList] at size

theorem utf8Size_of_isLowerHex {c : Char} (hex : isLowerHex c = true) : c.utf8Size = 1 := by
  rw [Char.utf8Size_eq_one_iff, UInt32.le_iff_toNat_le]
  exact (bounds_of_isLowerHex hex).2.trans (by decide)

theorem hexEncode_utf8ByteSize : (hexEncode bytes).utf8ByteSize = 2 * bytes.length := by
  rw [utf8ByteSize_eq_length fun c member => utf8Size_of_isLowerHex (isLowerHex_hexEncode member),
    hexEncode_length]

/-- The decimal text of a number determines it. -/
theorem repr_inj {n m : Nat} : Nat.repr n = Nat.repr m ↔ n = m := by
  refine ⟨fun same => ?_, congrArg Nat.repr⟩
  have digits : Nat.toDigits 10 n = Nat.toDigits 10 m := String.ofList_injective same
  rw [← Nat.ofDigitChars_ten_toDigits (n := n), digits, Nat.ofDigitChars_ten_toDigits]

@[simp]
theorem asBytes_length : (asBytes text).length = text.utf8ByteSize := rfl

end Linura.Lib
