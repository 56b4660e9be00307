import Linura.Core.Identifiers
import Mathlib.Data.Set.Function

/-!
# Content digests and transaction identities

`linura-transaction` names content by SHA-256 digests of length-framed fields and
derives a transaction's identity from the principal and request it belongs to.
SHA-256 itself is third-party code: it is a parameter of every definition, and no
result assumes anything about it unless it says so.
-/

namespace Linura.Transaction

open Linura.Lib Linura.Core

/-- A 256-bit hash function. -/
abbrev Sha256 := Bytes → Vector UInt8 32

/-- A constant hash, to evaluate the model on concrete inputs. -/
def zeroSha256 : Sha256 := fun _ => .replicate 32 0

/-- Why a transaction value was refused. -/
inductive TransactionValidationError
  | invalidToken (label : String)
  | tokenTooLong (label : String)
  | invalidDigest
  | bindingTooLarge
  | tooManyRiskRules
  | duplicateRiskRule
  | invalidAuthorization
  | invalidAuthorityKey
  | invalidAuthorityMutation
  | invalidState
  | core (reason : String)
  deriving DecidableEq, Repr

/-- The text of a refusal, as `Display` writes it. -/
def TransactionValidationError.display : TransactionValidationError → String
  | .invalidToken label => label ++ " is empty or contains control characters"
  | .tokenTooLong label => label ++ " exceeds its UTF-8 byte bound"
  | .invalidDigest => "content digest must be sha256:<64 lowercase hex>"
  | .bindingTooLarge => "authority binding exceeds 262144 bytes"
  | .tooManyRiskRules => "authority binding exceeds 128 risk rules"
  | .duplicateRiskRule => "authority binding contains duplicate risk rule"
  | .invalidAuthorization => "authority authorization basis is invalid"
  | .invalidAuthorityKey =>
    "durable transaction authority key must be a non-zero 256-bit secret"
  | .invalidAuthorityMutation => "durable transaction authority mutation request is invalid"
  | .invalidState => "durable transaction state is invalid"
  | .core reason => "invalid core identity: " ++ reason

/-- The token check of `linura-transaction`: visible text within a byte bound. -/
def validateToken (label value : String) (maxBytes : Nat) :
    Except TransactionValidationError Unit :=
  if trimIsEmpty value || hasControl value then .error (.invalidToken label)
  else if maxBytes < value.utf8ByteSize then .error (.tokenTooLong label)
  else .ok ()

theorem utf8ByteSize_le_of_validateToken {label value : String} {maxBytes : Nat}
    (valid : validateToken label value maxBytes = .ok ()) : value.utf8ByteSize ≤ maxBytes := by
  unfold validateToken at valid
  split_ifs at valid
  omega

/-! ### Content digests -/

/-- `DIGEST_PREFIX` -/
def digestPrefix : String := "sha256:"

/-- `ZERO_DIGEST_HEX` -/
def zeroDigestHex : String := "0000000000000000000000000000000000000000000000000000000000000000"

/-- The text is `sha256:` followed by 64 lower-case hexadecimal digits. -/
def isContentDigest (value : String) : Bool :=
  digestPrefix.toList.isPrefixOf value.toList &&
    (value.toList.drop digestPrefix.length).length == 64 &&
    (value.toList.drop digestPrefix.length).all isLowerHex

/-- The digest of some content, as text. -/
structure ContentDigest where
  value : String
  valid : isContentDigest value = true
  deriving DecidableEq

namespace ContentDigest

/-- Read a digest from its text. -/
def new (value : String) : Except TransactionValidationError ContentDigest :=
  if valid : isContentDigest value = true then .ok ⟨value, valid⟩ else .error .invalidDigest

/-- The digest with all digits zero, which names no content. -/
def zero : ContentDigest := ⟨digestPrefix ++ zeroDigestHex, by decide⟩

variable (digest : ContentDigest)

/-- The hexadecimal digits of a digest. -/
def hex : String :=
  String.ofList (digest.value.toList.drop digestPrefix.length)

@[ext]
theorem ext {digest digest' : ContentDigest} (same : digest.value = digest'.value) :
    digest = digest' := by
  cases digest
  cases digest'
  simpa using same

@[simp]
theorem new_value : new digest.value = .ok digest :=
  dif_pos digest.valid

private theorem prefix_drop_chars (value : String) :
    (digestPrefix ++ value).toList.drop digestPrefix.length = value.toList := by
  rw [String.toList_append]
  exact List.drop_left' String.length_toList

private theorem isContentDigest_prefix_append {value : String} (length : value.toList.length = 64)
    (digits : ∀ c ∈ value.toList, isLowerHex c = true) :
    isContentDigest (digestPrefix ++ value) = true := by
  rw [isContentDigest, prefix_drop_chars, length, String.toList_append, Bool.and_eq_true,
    Bool.and_eq_true]
  refine ⟨⟨?_, rfl⟩, List.all_eq_true.mpr digits⟩
  exact List.isPrefixOf_iff_prefix.mpr (List.prefix_append _ _)

/-- The text of a hash output. -/
def ofHash (hash : Vector UInt8 32) : ContentDigest :=
  ⟨digestPrefix ++ hexEncode hash.toList,
    isContentDigest_prefix_append (by simp) fun _ => isLowerHex_hexEncode⟩

theorem hex_ofHash (hash : Vector UInt8 32) : (ofHash hash).hex = hexEncode hash.toList := by
  rw [hex, ofHash, prefix_drop_chars, String.ofList_toList]

theorem ofHash_injective : Function.Injective ofHash := by
  intro hash hash' same
  have digits := congrArg hex same
  rw [hex_ofHash, hex_ofHash] at digits
  exact Vector.toList_inj.mp (hexEncode_injective digits)

/-- Every digest is 71 bytes long. -/
theorem utf8ByteSize_value : digest.value.utf8ByteSize = 71 := by
  have valid := digest.valid
  rw [isContentDigest, Bool.and_eq_true, Bool.and_eq_true, List.isPrefixOf_iff_prefix] at valid
  obtain ⟨⟨⟨digits, split⟩, length⟩, hexDigits⟩ := valid
  rw [← split, List.drop_left' String.length_toList] at length hexDigits
  have asciiPrefix : ∀ c ∈ digestPrefix.toList, c.utf8Size = 1 := by
    have all : (digestPrefix.toList.all fun c => c.utf8Size == 1) = true := by decide
    exact fun c member => beq_iff_eq.mp (List.all_eq_true.mp all c member)
  have ascii : ∀ c ∈ digest.value.toList, c.utf8Size = 1 := by
    intro c member
    rw [← split] at member
    rcases List.mem_append.mp member with label | digit
    · exact asciiPrefix c label
    · exact utf8Size_of_isLowerHex (List.all_eq_true.mp hexDigits c digit)
  rw [utf8ByteSize_eq_length ascii, ← split, List.length_append, eq_of_beq length]
  rfl

end ContentDigest

/-! ### Digests of framed fields -/

/-- `digest_parts`: the hash of the framed domain and parts. -/
def digestParts (sha256 : Sha256) (domain : String) (parts : List Bytes) : ContentDigest :=
  .ofHash (sha256 (frames (asBytes domain :: parts)))

/-- `digest_bytes` -/
def digestBytes (sha256 : Sha256) (domain : String) (bytes : Bytes) : ContentDigest :=
  digestParts sha256 domain [bytes]

/-! ### Transaction identities -/

/-- The identity of a durable transaction. -/
structure TransactionId where
  value : String
  valid : validateToken "transaction id" value 256 = .ok ()
  deriving DecidableEq

namespace TransactionId

/-- Read a transaction identity from its text. -/
def new (value : String) : Except TransactionValidationError TransactionId :=
  match checked : validateToken "transaction id" value 256 with
  | .ok () => .ok ⟨value, checked⟩
  | .error reason => .error reason

@[ext]
theorem ext {id id' : TransactionId} (same : id.value = id'.value) : id = id' := by
  cases id
  cases id'
  simpa using same

@[simp]
theorem new_value (id : TransactionId) : new id.value = .ok id := by
  unfold new
  split
  · rfl
  · rename_i failed
    rw [id.valid] at failed
    cases failed

/-- Transaction identities have between one and 256 bytes. -/
theorem utf8ByteSize_bounds (id : TransactionId) :
    0 < id.value.utf8ByteSize ∧ id.value.utf8ByteSize ≤ 256 := by
  have bounded := utf8ByteSize_le_of_validateToken id.valid
  refine ⟨Nat.pos_of_ne_zero fun zero => ?_, bounded⟩
  have empty : id.value = "" := String.utf8ByteSize_eq_zero_iff.mp zero
  have valid := id.valid
  rw [empty] at valid
  cases valid

/-- A fixed visible ASCII label followed by a digest's digits is a token. -/
private theorem valid_namespace (hash : Vector UInt8 32) :
    validateToken "transaction id" ("transaction:v1:" ++ (ContentDigest.ofHash hash).hex) 256
      = .ok () := by
  rw [ContentDigest.hex_ofHash]
  have visible : trimIsEmpty ("transaction:v1:" ++ hexEncode hash.toList) = false := by
    rw [trimIsEmpty, String.toList_append, List.all_append,
      show List.all "transaction:v1:".toList isWhitespace = false by decide, Bool.false_and]
  have noControl : hasControl ("transaction:v1:" ++ hexEncode hash.toList) = false := by
    rw [hasControl, String.toList_append, List.any_append,
      show List.any "transaction:v1:".toList isControl = false by decide, Bool.false_or,
      List.any_eq_false]
    intro c member
    simp [isControl_of_isLowerHex (isLowerHex_hexEncode member)]
  have size : ("transaction:v1:" ++ hexEncode hash.toList).utf8ByteSize = 79 := by
    rw [String.utf8ByteSize_append, hexEncode_utf8ByteSize, Vector.length_toList]
    decide
  simp [validateToken, visible, noControl, size]

/-- The identity that belongs to a request of a principal. -/
def forNamespace (sha256 : Sha256) (principal : PrincipalId) (requestId : RequestId) :
    TransactionId :=
  ⟨"transaction:v1:" ++ (digestParts sha256 "linura.transaction.id.v1"
    [asBytes principal.value, asBytes requestId.value]).hex, valid_namespace _⟩

end TransactionId

end Linura.Transaction
