import Linura.Control.DesiredRequest
import Linura.Lib.Except
import Linura.Transaction.Requests

/-!
# The retained-request codec

Control keeps an approved request as canonical bytes so that it can recover the
request after a restart.  The encoder appends framed fields to a bounded buffer;
the decoder reads them back, rebuilds the request and refuses bytes that differ
from the encoding of what it read.

The codec is a canonical bijection between the requests the encoder accepts and
the records the decoder accepts, and its bytes hash to the request digest.
-/

namespace Linura.Control

open Linura.Lib Linura.Core Linura.Transaction

/-- `ManagedLifecycleError`, as far as the codec raises it. -/
inductive ManagedLifecycleError
  | authority (reason : String)
  deriving DecidableEq, Repr

namespace RetainedCodec

/-- `DOMAIN` -/
def domain : String := "linura.control.desired-request.v1"

/-- `MAX_ENTRIES` -/
def maxEntries : Nat := 1024

/-- The one error of the codec. -/
def invalid : ManagedLifecycleError :=
  .authority "retained structured request is malformed or noncanonical"

/-! ### Encoding -/

/-- Append one framed field, within the bound on retained requests. -/
def field (bytes value : Bytes) : Except ManagedLifecycleError Bytes :=
  if maxRetainedRequestBytes < value.length ∨
      maxRetainedRequestBytes < bytes.length + 8 + value.length then .error invalid
  else .ok (bytes ++ (be64 value.length ++ value))

/-- Append an entry count as a field of eight bytes. -/
def count (bytes : Bytes) (entries : Nat) : Except ManagedLifecycleError Bytes :=
  if maxEntries < entries then .error invalid else field bytes (be64 entries)

variable {sha256 : Sha256}

def encode (sha256 : Sha256) (principal : PrincipalId) (request : PlanDesiredStateRequest) :
    Except ManagedLifecycleError (RetainedRequest sha256) := do
  if [request.reason.intentIds.length, request.reason.requirementIds.length,
      request.reason.capabilityIds.length, request.desiredState.len].any (maxEntries < ·) then
    throw invalid
  request.reason.validate.mapError fun _ => invalid
  let bytes ← field [] (asBytes domain)
  let bytes ← [request.requestId.value, request.provider.value, request.resource.value,
    request.observationCapability.value, request.reason.summary].foldlM
      (fun bytes value => field bytes (asBytes value)) bytes
  let bytes ← count bytes request.reason.intentIds.length
  let bytes ← request.reason.intentIds.foldlM (fun bytes id => field bytes (asBytes id.value)) bytes
  let bytes ← count bytes request.reason.requirementIds.length
  let bytes ← request.reason.requirementIds.foldlM
    (fun bytes id => field bytes (asBytes id.value)) bytes
  let bytes ← count bytes request.reason.capabilityIds.length
  let bytes ← request.reason.capabilityIds.foldlM
    (fun bytes id => field bytes (asBytes id.value)) bytes
  let bytes ← count bytes request.desiredState.len
  let bytes ← request.desiredState.entries.foldlM
    (fun bytes entry => do field (← field bytes (asBytes entry.1)) (asBytes entry.2)) bytes
  (RetainedRequest.new sha256 principal request.requestId bytes).mapError fun _ => invalid

/-! ### Decoding -/

/-- A reader consumes bytes from the front. -/
abbrev Reader := StateT Bytes (Except ManagedLifecycleError)

namespace Reader

/-- Read one framed field. -/
def field : Reader Bytes := fun bytes =>
  match unframe bytes with
  | some read => .ok read
  | none => .error invalid

def text : Reader String := do
  match fromUtf8 (← field) with
  | some text => pure text
  | none => throw invalid

def count : Reader Nat := do
  let value ← field
  if value.length ≠ 8 then throw invalid
  if maxEntries < fromBe value then throw invalid
  return fromBe value

/-- Read an identifier. -/
def id (label : String) : Reader (TypedId label) := do
  match TypedId.new label (← text) with
  | .ok id => pure id
  | .error _ => throw invalid

/-- Read a given number of identifiers. -/
def ids (label : String) : Nat → Reader (List (TypedId label))
  | 0 => pure []
  | remaining + 1 => do return (← id label) :: (← ids label remaining)

/-- Read a given number of key-value pairs into a map; a repeated key is an error. -/
def entries : Nat → BTreeMap String String → Reader (BTreeMap String String)
  | 0, map => pure map
  | remaining + 1, map => do
    let key ← text
    let value ← text
    if map.containsKey key then throw invalid
    entries remaining (map.insert key value)

/-- Read a request that carries the expected identity. -/
def request (expected : RequestId) : Reader PlanDesiredStateRequest := do
  if (← field) ≠ asBytes domain then throw invalid
  let requestId ← id "request id"
  if requestId ≠ expected then throw invalid
  let provider ← id "provider id"
  let resource ← id "resource id"
  let observationCapability ← id "capability id"
  let summary ← text
  let intentIds ← ids "intent id" (← count)
  let requirementIds ← ids "requirement id" (← count)
  let capabilityIds ← ids "capability id" (← count)
  let reason : SemanticReason := ⟨summary, intentIds, requirementIds, capabilityIds⟩
  if reason.validate ≠ .ok () then throw invalid
  let desiredState ← entries (← count) .empty
  return ⟨requestId, provider, resource, observationCapability, reason, desiredState⟩

end Reader

def decode (record : RetainedRequest sha256) :
    Except ManagedLifecycleError PlanDesiredStateRequest := do
  let (request, rest) ← (Reader.request record.requestId).run record.canonical
  if rest ≠ [] then throw invalid
  if (← encode sha256 record.principal request).canonical ≠ record.canonical then throw invalid
  return request

/-- The conditions under which a request has an encoding. -/
structure Encodable (request : PlanDesiredStateRequest) : Prop where
  intents : request.reason.intentIds.length ≤ maxEntries
  requirements : request.reason.requirementIds.length ≤ maxEntries
  capabilities : request.reason.capabilityIds.length ≤ maxEntries
  entries : request.desiredState.len ≤ maxEntries
  reason : request.reason.validate = .ok ()
  small : (frames request.canonicalFields).length ≤ maxRetainedRequestBytes

theorem field_eq_pushFrame : field = pushFrame maxRetainedRequestBytes invalid := by
  funext bytes value
  have size : (bytes ++ frame value).length = bytes.length + 8 + value.length := by
    rw [List.length_append, frame_length]
    omega
  unfold field pushFrame
  rw [size]
  congr 1
  rw [eq_iff_iff]
  omega

theorem count_eq_field {entries : Nat} (few : entries ≤ maxEntries) (bytes : Bytes) :
    count bytes entries = field bytes (be64 entries) :=
  if_neg (Nat.not_lt.mpr few)

variable {request : PlanDesiredStateRequest}

/-- Within the entry bounds the encoder appends the canonical fields in order. -/
theorem encode_eq_pushFrames (principal : PrincipalId)
    (intents : request.reason.intentIds.length ≤ maxEntries)
    (requirements : request.reason.requirementIds.length ≤ maxEntries)
    (capabilities : request.reason.capabilityIds.length ≤ maxEntries)
    (entries : request.desiredState.len ≤ maxEntries) (reason : request.reason.validate = .ok ()) :
    encode sha256 principal request = (do
      let bytes ← pushFrames maxRetainedRequestBytes invalid [] request.canonicalFields
      (RetainedRequest.new sha256 principal request.requestId bytes).mapError fun _ =>
        invalid) := by
  have within : ([request.reason.intentIds.length, request.reason.requirementIds.length,
      request.reason.capabilityIds.length, request.desiredState.len].any
        fun count => decide (maxEntries < count)) = false := by
    simp only [List.any_cons, List.any_nil, Bool.or_false, Bool.or_eq_false_iff,
      decide_eq_false_iff_not, not_lt]
    exact ⟨intents, requirements, capabilities, entries⟩
  unfold encode
  rw [if_neg (by rw [within]; exact Bool.false_ne_true), reason]
  simp only [Except.mapError, ok_bind, count_eq_field intents, count_eq_field requirements,
    count_eq_field capabilities, count_eq_field entries, pushFrames,
    PlanDesiredStateRequest.canonicalFields, PlanDesiredStateRequest.headerFields, entryFields,
    domain, ← field_eq_pushFrame]
  simp only [List.foldlM_cons, List.foldlM_nil, List.foldlM_append, List.foldlM_map,
    foldlM_flatMap_pair, BTreeMap.len, bind_assoc, pure_bind, List.cons_append, List.nil_append,
    List.append_assoc]

private theorem bounds_of_encode {principal : PrincipalId} {record : RetainedRequest sha256}
    (accepted : encode sha256 principal request = .ok record) :
    (request.reason.intentIds.length ≤ maxEntries ∧
      request.reason.requirementIds.length ≤ maxEntries ∧
      request.reason.capabilityIds.length ≤ maxEntries ∧
      request.desiredState.len ≤ maxEntries) ∧ request.reason.validate = .ok () := by
  unfold encode at accepted
  split at accepted
  · rw [throw_eq_error, error_bind] at accepted
    exact absurd accepted (by exact nofun)
  rename_i within
  constructor
  · simpa only [List.any_cons, List.any_nil, Bool.or_false, Bool.or_eq_true, decide_eq_true_eq,
      not_or, not_lt] using within
  · obtain ⟨passed, valid, rest⟩ := bind_eq_ok.mp accepted
    clear rest accepted
    revert valid
    cases request.reason.validate with
    | ok passed => exact fun _ => rfl
    | error refused => exact nofun

/-- The encoder accepts exactly the encodable requests, and its bytes are their framed fields. -/
theorem encode_eq_ok_iff {principal : PrincipalId} {record : RetainedRequest sha256} :
    encode sha256 principal request = .ok record ↔
      Encodable request ∧ record.principal = principal ∧ record.requestId = request.requestId ∧
        record.canonical = frames request.canonicalFields := by
  constructor
  · intro accepted
    obtain ⟨⟨intents, requirements, capabilities, entries⟩, reason⟩ := bounds_of_encode accepted
    rw [encode_eq_pushFrames principal intents requirements capabilities entries reason,
      bind_eq_ok] at accepted
    obtain ⟨bytes, pushed, built⟩ := accepted
    obtain ⟨rfl, small⟩ := pushFrames_nil_eq_ok _ _ pushed
    unfold RetainedRequest.new at built
    split at built
    · cases built
      exact ⟨⟨intents, requirements, capabilities, entries, reason, small⟩, rfl, rfl, rfl⟩
    · cases built
  · rintro ⟨encodable, rfl, same, canonical⟩
    rw [encode_eq_pushFrames _ encodable.intents encodable.requirements encodable.capabilities
      encodable.entries encodable.reason, pushFrames_eq _ _ (Nat.zero_le _), List.nil_append,
      if_neg (Nat.not_lt.mpr encodable.small), ok_bind, ← canonical, RetainedRequest.new,
      dif_pos record.bounded]
    exact congrArg Except.ok (RetainedRequest.ext rfl same.symm rfl record.digest_eq.symm)

/-! ### Reading what was written -/

namespace Reader

theorem field_run {value : Bytes} (fits : value.length < 2 ^ 64) (rest : Bytes) :
    field.run (frame value ++ rest) = .ok (value, rest) := by
  change field (frame value ++ rest) = _
  rw [field, unframe_frame_append fits]

theorem text_run {value : String} (fits : (asBytes value).length < 2 ^ 64) (rest : Bytes) :
    text.run (frame (asBytes value) ++ rest) = .ok (value, rest) := by
  simp [text, field_run fits, fromUtf8_asBytes, pure_eq_ok]

theorem count_run {entries : Nat} (few : entries ≤ maxEntries) (rest : Bytes) :
    count.run (frame (be64 entries) ++ rest) = .ok (entries, rest) := by
  have word : fromBe (be64 entries) = entries :=
    fromBe_be64 (lt_of_le_of_lt few (by decide))
  have fits : (be64 entries).length < 2 ^ 64 := by
    rw [be64_length]
    decide
  simp [count, field_run fits, word, Nat.not_lt.mpr few, pure_eq_ok]

theorem id_run {label : String} {value : TypedId label}
    (fits : (asBytes value.value).length < 2 ^ 64) (rest : Bytes) :
    (id label).run (frame (asBytes value.value) ++ rest) = .ok (value, rest) := by
  simp [id, text_run fits, pure_eq_ok]

theorem ids_run {label : String} {values : List (TypedId label)}
    (fits : ∀ value ∈ values, (asBytes value.value).length < 2 ^ 64) (rest : Bytes) :
    (ids label values.length).run (frames (values.map (asBytes ·.value)) ++ rest)
      = .ok (values, rest) := by
  induction values with
  | nil => rfl
  | cons value values ih =>
    have later := ih fun value' member => fits value' (List.mem_cons_of_mem _ member)
    simp [ids, id_run (fits value List.mem_cons_self), later]

/-- Pairs with keys above those already read, in increasing order, are appended. -/
theorem entries_run {list : List (String × String)} {map result : BTreeMap String String}
    (appended : result.entries = map.entries ++ list)
    (fits : ∀ entry ∈ list, (asBytes entry.1).length < 2 ^ 64 ∧ (asBytes entry.2).length < 2 ^ 64)
    (rest : Bytes) :
    (entries list.length map).run
        (frames (list.flatMap fun entry => [asBytes entry.1, asBytes entry.2]) ++ rest)
      = .ok (result, rest) := by
  induction list generalizing map with
  | nil =>
    obtain rfl : result = map := by
      cases result
      cases map
      simpa using appended
    rfl
  | cons entry later ih =>
    obtain ⟨keyFits, valueFits⟩ := fits entry List.mem_cons_self
    -- the result is sorted, so this key is above all keys read before it
    have sorted := result.sorted
    rw [appended, List.pairwise_append] at sorted
    have above : ∀ before ∈ map.entries, before.1 < entry.1 := fun before member =>
      sorted.2.2 before member entry List.mem_cons_self
    have fresh : map.containsKey entry.1 = false := by
      rw [BTreeMap.containsKey_eq_false, BTreeMap.get?_eq_none_iff]
      exact fun before member => (above before member).ne
    have longer : result.entries = (map.insert entry.1 entry.2).entries ++ later := by
      rw [BTreeMap.entries_insert_of_forall_lt _ above, appended, List.append_assoc]
      rfl
    have next := ih longer fun entry' member => fits entry' (List.mem_cons_of_mem _ member)
    simp [entries, text_run keyFits, text_run valueFits, fresh, next]

/-- The reader returns an encoded request and leaves what follows it. -/
theorem request_run {request : PlanDesiredStateRequest} (encodable : Encodable request)
    (rest : Bytes) :
    (Reader.request request.requestId).run (frames request.canonicalFields ++ rest)
      = .ok (request, rest) := by
  have fits : ∀ field ∈ request.canonicalFields, field.length < 2 ^ 64 := fun field member =>
    lt_of_le_of_lt ((length_le_length_frames member).trans encodable.small) (by decide)
  simp only [PlanDesiredStateRequest.canonicalFields, PlanDesiredStateRequest.headerFields,
    entryFields, List.cons_append, List.nil_append, List.append_assoc, List.forall_mem_cons,
    List.forall_mem_append, List.forall_mem_map, List.forall_mem_flatMap] at fits
  obtain ⟨domainFits, requestId, provider, resource, capability, summary, -, intents, -,
    requirements, -, capabilities, -, pairs⟩ := fits
  have pairsFit : ∀ entry ∈ request.desiredState.entries,
      (asBytes entry.1).length < 2 ^ 64 ∧ (asBytes entry.2).length < 2 ^ 64 :=
    fun entry member => ⟨(pairs entry member).1, (pairs entry member).2.1⟩
  have count : request.desiredState.entries.length ≤ maxEntries := encodable.entries
  have reason : (SemanticReason.mk request.reason.summary request.reason.intentIds
      request.reason.requirementIds request.reason.capabilityIds).validate = .ok () :=
    encodable.reason
  have empty_append : request.desiredState.entries =
      (BTreeMap.empty : BTreeMap String String).entries ++ request.desiredState.entries := rfl
  -- every read returns its field and leaves the later ones
  simp only [Reader.request, domain, PlanDesiredStateRequest.canonicalFields,
    PlanDesiredStateRequest.headerFields, entryFields, List.cons_append, List.nil_append,
    List.append_assoc, frames_cons, frames_append, StateT.run_bind, ok_bind, ne_eq,
    not_true_eq_false, if_false, field_run domainFits, id_run requestId, id_run provider,
    id_run resource, id_run capability, text_run summary, count_run encodable.intents,
    ids_run intents, count_run encodable.requirements, ids_run requirements,
    count_run encodable.capabilities, ids_run capabilities, reason, count_run count,
    entries_run empty_append pairsFit]
  rfl

/-- The reader returns only requests with the expected identity. -/
theorem requestId_of_request_run {expected : RequestId} {request : PlanDesiredStateRequest}
    {bytes rest : Bytes} (read : (Reader.request expected).run bytes = .ok (request, rest)) :
    request.requestId = expected := by
  simp only [Reader.request, StateT.run_bind, bind_eq_ok] at read
  obtain ⟨_, -, read⟩ := read
  split at read
  · rw [StateT.run_bind, bind_eq_ok] at read
    obtain ⟨_, thrown, -⟩ := read
    cases thrown
  simp only [StateT.run_bind, bind_eq_ok] at read
  obtain ⟨identity, -, read⟩ := read
  split at read
  · rw [StateT.run_bind, bind_eq_ok] at read
    obtain ⟨_, thrown, -⟩ := read
    cases thrown
  rename_i same
  simp only [StateT.run_bind, bind_eq_ok] at read
  obtain ⟨_, -, _, -, _, -, _, -, _, -, _, -, _, -, _, -, _, -, _, -, read⟩ := read
  split at read
  · rw [StateT.run_bind, bind_eq_ok] at read
    obtain ⟨_, thrown, -⟩ := read
    cases thrown
  simp only [StateT.run_bind, bind_eq_ok] at read
  obtain ⟨_, -, _, -, built⟩ := read
  cases built
  exact not_not.mp same

end Reader

/-! ### The codec is a canonical bijection -/

variable {principal : PrincipalId} {request : PlanDesiredStateRequest}
    {record : RetainedRequest sha256}
/-- A retained request is read as it was retained. -/
theorem decode_encode (accepted : encode sha256 principal request = .ok record) :
    decode record = .ok request := by
  obtain ⟨encodable, rfl, same, canonical⟩ := encode_eq_ok_iff.mp accepted
  have read := Reader.request_run encodable []
  rw [List.append_nil, ← canonical, ← same] at read
  rw [decode, read, ok_bind]
  simp [accepted, pure_eq_ok]

/-- An accepted record is the encoding of the request it was read as. -/
theorem encode_of_decode
    (read : decode record = .ok request) : encode sha256 record.principal request = .ok record := by
  simp only [decode, bind_eq_ok] at read
  obtain ⟨⟨parsed, rest⟩, parse, read⟩ := read
  have identity := Reader.requestId_of_request_run parse
  dsimp only at read
  split at read
  · cases read
  simp only [bind_eq_ok] at read
  obtain ⟨record', accepted, read⟩ := read
  split at read
  · cases read
  rename_i same
  obtain rfl : parsed = request := Except.ok.inj read
  obtain ⟨encodable, principal, requestId, canonical⟩ := encode_eq_ok_iff.mp accepted
  rw [encode_eq_ok_iff]
  exact ⟨encodable, rfl, identity.symm, by rw [← not_not.mp same, canonical]⟩

/-- A record is the canonical text of the request it is read as. -/
theorem canonical_of_decode
    (read : decode record = .ok request) : record.canonical = frames request.canonicalFields :=
  (encode_eq_ok_iff.mp (encode_of_decode read)).2.2.2

theorem encodable_of_decode (read : decode record = .ok request) : Encodable request :=
  (encode_eq_ok_iff.mp (encode_of_decode read)).1

theorem Encodable.small_lt (encodable : Encodable request) :
    (frames request.canonicalFields).length < 2 ^ 64 :=
  lt_of_le_of_lt encodable.small (by decide)

/-- No accepted record is a proper prefix of another: truncated and extended encodings are
refused. -/
theorem canonical_eq_of_prefix {record record' : RetainedRequest sha256}
    {request request' : PlanDesiredStateRequest} (read : decode record = .ok request)
    (read' : decode record' = .ok request') (shorter : record.canonical <+: record'.canonical) :
    record.canonical = record'.canonical := by
  obtain ⟨tail, split⟩ := shorter
  have encodable := encodable_of_decode read
  have encodable' := encodable_of_decode read'
  rw [canonical_of_decode read, canonical_of_decode read'] at split ⊢
  -- the identities stand in the same place, so one reader accepts both
  have identity : request.requestId = request'.requestId := by
    have fits (id : RequestId) : (asBytes id.value).length < 2 ^ 64 := by
      have := id.utf8ByteSize_bounds
      rw [asBytes_length]
      omega
    simp only [PlanDesiredStateRequest.canonicalFields, PlanDesiredStateRequest.headerFields,
      List.cons_append, frames_cons, List.append_assoc, List.append_cancel_left_eq] at split
    obtain ⟨same, -⟩ := frame_append_inj (fits _) (fits _) split
    exact TypedId.ext (asBytes_injective same)
  have whole := Reader.request_run encodable' []
  rw [List.append_nil, ← split, ← identity, Reader.request_run encodable tail] at whole
  obtain ⟨rfl, -⟩ := Prod.mk.inj (Except.ok.inj whole)
  rfl

/-- Entries listed in another order, or twice, are refused: an accepted record lists the entries
of the map it is read as. -/
theorem entries_of_decode {request header : PlanDesiredStateRequest}
    {entries : List (String × String)}
    (read : decode record = .ok request)
    (bytes : record.canonical = frames (header.headerFields ++ entryFields entries)) :
    entries = request.desiredState.entries := by
  have canonical := canonical_of_decode read
  have small : record.canonical.length < 2 ^ 64 := by
    rw [canonical]
    exact (encodable_of_decode read).small_lt
  have fields : header.headerFields ++ entryFields entries = request.canonicalFields :=
    frames_inj_of_length_lt (bytes ▸ small) (bytes.symm.trans canonical)
  have headerFit : header.OriginsFit := originsFit_of_length_lt (bytes ▸ small)
  have requestFit : request.OriginsFit := originsFit_of_length_lt (canonical ▸ small)
  exact (canonicalFields_inj headerFit requestFit fields).2

/-- The streaming hasher computes the digest of the encoded bytes. -/
theorem digestRequest_of_encode (accepted : encode sha256 principal request = .ok record) :
    digestRequest sha256 request = .ok record.digest := by
  obtain ⟨encodable, -, -, canonical⟩ := encode_eq_ok_iff.mp accepted
  have fit : request.LengthsFit :=
    ⟨originsFit_of_length_lt encodable.small_lt, lt_of_le_of_lt encodable.entries (by decide)⟩
  have small : ∀ field ∈ request.canonicalFields, field.length ≤ maxCanonicalDigestFieldBytes :=
    fun field member => (length_le_length_frames member).trans encodable.small
  rw [digestRequest_eq sha256 fit, CanonicalHasher.fields_eq_ok small, map_ok, List.nil_append,
    CanonicalHasher.finish, record.digest_eq, canonical]

end RetainedCodec

open RetainedCodec in
/-- The retained-request codec is a canonical bijection.  An encoded request is read back and its
record carries the request digest; an accepted record is the encoding of what was read.  So no two
byte strings are read as one request, no accepted record extends another, and a record whose
entries are listed in any order is accepted only if they are the sorted entries of the map. -/
theorem retainedRequest_codec_canonical (sha256 : Sha256) :
    (∀ principal request (record : RetainedRequest sha256),
      encode sha256 principal request = .ok record →
        decode record = .ok request ∧ digestRequest sha256 request = .ok record.digest) ∧
    (∀ (record : RetainedRequest sha256) request, decode record = .ok request →
      encode sha256 record.principal request = .ok record) ∧
    (∀ (record record' : RetainedRequest sha256) request,
      decode record = .ok request → decode record' = .ok request →
        record.canonical = record'.canonical) ∧
    (∀ (record record' : RetainedRequest sha256) request request',
      decode record = .ok request → decode record' = .ok request' →
        record.canonical <+: record'.canonical → record.canonical = record'.canonical) ∧
    (∀ (record : RetainedRequest sha256) request (header : PlanDesiredStateRequest) entries,
      decode record = .ok request →
        record.canonical = frames (header.headerFields ++ entryFields entries) →
          entries = request.desiredState.entries) := by
  refine ⟨fun _ _ _ accepted => ⟨decode_encode accepted, digestRequest_of_encode accepted⟩,
    fun _ _ read => encode_of_decode read, fun _ _ _ read read' => ?_,
    fun _ _ _ _ read read' shorter => canonical_eq_of_prefix read read' shorter,
    fun _ _ _ _ read bytes => entries_of_decode read bytes⟩
  rw [canonical_of_decode read, canonical_of_decode read']

/-- The request of the source's codec tests. -/
def testRequest : PlanDesiredStateRequest where
  requestId := ⟨"request:codec:a", by decide⟩
  provider := ⟨"session-locker", by decide⟩
  resource := ⟨"resource:codec", by decide⟩
  observationCapability := ⟨"session.secure-lock.observe", by decide⟩
  reason := ⟨"Protect my session — 保護", [⟨"intent:protect", by decide⟩],
    [⟨"requirement:private", by decide⟩], [⟨"capability:lock", by decide⟩]⟩
  desiredState := (BTreeMap.empty.insert "secure" "true").insert "z" "last"

open RetainedCodec in
/-- The test request is encoded, read back and digested. -/
theorem retainedRequest_codec_canonical_testRequest :
    ∃ record : RetainedRequest zeroSha256,
      encode zeroSha256 ⟨"unix:uid:1000", by decide⟩ testRequest = .ok record ∧
      decode record = .ok testRequest ∧
      digestRequest zeroSha256 testRequest = .ok record.digest := by
  have accepts : (encode zeroSha256 ⟨"unix:uid:1000", by decide⟩ testRequest).isOk = true := by
    decide +kernel
  obtain ⟨record, accepted⟩ := exists_eq_ok_of_isOk accepts
  exact ⟨record, accepted, (retainedRequest_codec_canonical _).1 _ _ _ accepted⟩

end Linura.Control
