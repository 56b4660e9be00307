import Linura.Provisioning.Codec

/-!
# States and anchors are read back

The reader of a state takes back what the writer put there if every identifier that may be absent is
not a dash.  Anchors are always read back.
-/

namespace Linura.Bootstrap

open Linura.Lib Linura.Transaction

variable {state : DurableBootstrapState} {provisioning : ProvisioningState}
    {anchor : GenerationAnchor}

/-! ### Words -/

/-- A text without line ends and without the separators of lists. -/
def IsWord (text : String) : Prop := ∀ c ∈ text.toList, c ∉ ['\n', '\r', ',', '|']

variable {text : String}

theorem IsWord.onOneLine (word : IsWord text) : OnOneLine text :=
  ⟨fun member => word _ member (by decide), fun member => word _ member (by decide)⟩

theorem IsWord.not_mem_comma (word : IsWord text) : ',' ∉ text.toList :=
  fun member => word _ member (by decide)

theorem IsWord.not_mem_bar (word : IsWord text) : '|' ∉ text.toList :=
  fun member => word _ member (by decide)

/-- A text whose characters all pass a test that no separator passes is a word. -/
theorem isWord_of_all (accepts : Char → Bool) (all : text.toList.all accepts = true)
    (apart : ['\n', '\r', ',', '|'].any accepts = false) : IsWord text := by
  intro c member separator
  exact List.any_eq_false.mp apart c separator (List.all_eq_true.mp all c member)

theorem isWord_of_isIdentifier (identifier : isIdentifier text = true) : IsWord text := by
  simp only [isIdentifier, Bool.and_eq_true] at identifier
  exact isWord_of_all isIdentifierChar identifier.2 (by decide)

theorem isWord_of_isSha256Text (digest : isSha256Text text = true) : IsWord text := by
  simp only [isSha256Text, Bool.and_eq_true] at digest
  exact isWord_of_all isHexDigit digest.2 (by decide)

theorem isWord_toString (n : Nat) : IsWord (toString n) :=
  isWord_of_all Char.isDigit
    (List.all_eq_true.mpr fun _ member => isDigit_of_mem_toString member) (by decide)

variable (stage : BootstrapStage)

theorem isWord_asStr : IsWord stage.asStr := by
  refine isWord_of_all (fun c => c.isAlphanum || c == '-') ?_ (by decide)
  cases stage <;> decide

theorem isSha256Text_hexEncode (digest : Vector UInt8 32) :
    isSha256Text (hexEncode digest.toList) = true := by
  simp only [isSha256Text, Bool.and_eq_true, decide_eq_true_eq, hexEncode_utf8ByteSize,
    Vector.length_toList, List.all_eq_true]
  refine ⟨trivial, fun c member => ?_⟩
  have hex := isLowerHex_hexEncode member
  simp only [isLowerHex, Bool.or_eq_true, Bool.and_eq_true, decide_eq_true_eq] at hex
  simp only [isHexDigit, Bool.or_eq_true, Bool.and_eq_true, decide_eq_true_eq, Char.isDigit]
  rcases hex with digit | letter
  · exact .inl (.inl ⟨digit.1, digit.2⟩)
  · exact .inl (.inr letter)

variable (sha256 : Sha256)

/-- A digest is written as a digest is read. -/
theorem isSha256Text_sha256Hex (bytes : Bytes) :
    isSha256Text (sha256Hex sha256 bytes) = true := isSha256Text_hexEncode _

/-! ### Readers -/

namespace LineReader

variable {α β : Type}

variable {first : LineReader α} {next : α → LineReader β} {list rest : List String} {value : α}

/-- A reader goes on with the lines that the first part left. -/
theorem run_bind (read : first.run list = .ok (value, rest)) :
    (first >>= next).run list = (next value).run rest := by
  rw [StateT.run_bind, read]
  rfl

theorem run_lift {computed : Except DurableBootstrapError α} (ok : computed = .ok value) :
    ((liftM computed : LineReader α) >>= next).run list = (next value).run list := by
  subst ok
  rfl

/-- A field takes the value of its line. -/
theorem run_field (name value : String) (missing invalid : DurableBootstrapError) :
    (field name missing invalid).run (fieldLine name value :: rest) = .ok (value, rest) := by
  have strip : stripLead (fieldLine name value) (name ++ "=") = some value := stripLead_append _ _
  have read : LineReader.next.run (fieldLine name value :: rest) =
      .ok (some (fieldLine name value), rest) := rfl
  unfold field
  rw [run_bind read]
  dsimp only
  rw [strip]
  rfl

theorem run_expect {next : Unit → LineReader β} (line : String) (error : DurableBootstrapError) :
    (expect line error >>= next).run (line :: rest) = (next ()).run rest := by
  have read : LineReader.next.run (line :: rest) = .ok (some line, rest) := rfl
  refine run_bind ?_
  unfold expect
  rw [run_bind read]
  dsimp only
  rw [if_pos rfl]
  rfl

theorem run_finish {next : Unit → LineReader β} (error : DurableBootstrapError) :
    (finish error >>= next).run [] = (next ()).run [] := rfl

end LineReader

open LineReader (run_bind run_lift run_field run_expect run_finish)

variable {α β : Type} {parse : String → Except DurableBootstrapError α} {name : String}
  {rest : List String}

variable {value : String}

/-- A field line is read as the value it was written with. -/
theorem run_stateField {next : String → LineReader β} :
    (stateField name >>= next).run (fieldLine name value :: rest) = (next value).run rest :=
  run_bind (run_field _ _ _ _)

/-- A field whose value is accepted is read, and the reader goes on. -/
theorem run_stateFieldWith {result : α} {next : α → LineReader β} (ok : parse value = .ok result) :
    (stateFieldWith name parse >>= next).run (fieldLine name value :: rest) =
      (next result).run rest := by
  refine run_bind ?_
  unfold stateFieldWith
  rw [run_stateField, ok]
  rfl

theorem run_anchorField {lacking : String} {next : String → LineReader β} :
    (anchorField name lacking >>= next).run (fieldLine name value :: rest) =
      (next value).run rest :=
  run_bind (run_field _ _ _ _)

/-! ### Values -/

/-- Stages are read as they are written. -/
theorem parseStage_asStr : parseStage stage.asStr = .ok stage := by
  cases stage <;> decide

theorem asStr_ne_dash : stage.asStr ≠ "-" := by
  cases stage <;> decide

theorem parse_ownerEnrollment (owner : OwnerEnrollmentState) :
    OwnerEnrollmentState.parse owner.asStr = .ok owner := by
  cases owner <;> decide

theorem parse_effectState (effect : BootstrapEffectState) :
    BootstrapEffectState.parse effect.asStr = .ok effect := by
  cases effect <;> decide

variable (error : String)

theorem parseNumber_toString {bound n : Nat} (within : n < bound) :
    parseNumber bound error (toString n) = .ok n := by
  rw [parseNumber, parseUnsigned_toString within]
  rfl

theorem parseBool_boolText (value : Bool) : parseBool error (boolText value) = .ok value := by
  cases value
  · rw [boolText, if_neg (by decide), parseBool, if_neg (by decide), if_pos rfl]
  · rfl

theorem normalizeIdentifier_of_isIdentifier (label : String)
    (identifier : isIdentifier value = true) : normalizeIdentifier label value = .ok value :=
  normalizeIdentifier_eq_ok.mpr ⟨identifier, rfl⟩

theorem parseSha256_of_isSha256Text (digest : isSha256Text value = true) :
    parseSha256 error value = .ok value := by
  simp [parseSha256, demand, digest, pure_eq_ok]

/-- A value that may be absent is read back unless it is a dash. -/
theorem parseOptional_getD (text : α → String)
    {value : Option α}
    (present : ∀ inner, value = some inner → text inner ≠ "-" ∧ parse (text inner) = .ok inner) :
    parseOptional parse ((value.map text).getD "-") = .ok value := by
  cases value with
  | none => rfl
  | some inner =>
    obtain ⟨visible, parsed⟩ := present inner rfl
    rw [Option.map_some, Option.getD_some, parseOptional, if_neg visible, parsed]
    rfl

variable {value : Option String}

/-- An optional value other than a dash is read as it was written. -/
theorem parseOptional_optional {parse : String → Except DurableBootstrapError String}
    (present : ∀ inner, value = some inner → inner ≠ "-" ∧ parse inner = .ok inner) :
    parseOptional parse (optional value) = .ok value := by
  have read := parseOptional_getD id present
  rwa [Option.map_id] at read

theorem ne_dash_of_isSha256Text {value : String} (digest : isSha256Text value = true) :
    value ≠ "-" := by
  rintro rfl
  exact absurd digest (by decide)

theorem mode_ofText? (mode : ProvisioningMode) : parsePersistedMode mode.asStr = .ok mode := by
  cases mode <;> decide

theorem mode_ne_dash (mode : ProvisioningMode) : mode.asStr ≠ "-" := by
  cases mode <;> decide

theorem connectivity_ofText? (connectivity : BootstrapConnectivity) :
    parsePersistedConnectivity connectivity.asStr = .ok connectivity := by
  cases connectivity <;> decide

theorem connectivity_ne_dash (connectivity : BootstrapConnectivity) : connectivity.asStr ≠ "-" := by
  cases connectivity <;> decide

theorem boolText_ne_dash (value : Bool) : boolText value ≠ "-" := by
  cases value <;> decide

/-! ### Lists -/

theorem mapM_decode {text : α → String}
    {values : List α} (each : ∀ value ∈ values, parse (text value) = .ok value) :
    (values.map text).mapM parse = .ok values := by
  induction values with
  | nil => rfl
  | cons value rest ih =>
    obtain ⟨first, others⟩ := List.forall_mem_cons.mp each
    rw [List.map_cons, List.mapM_cons, first, ok_bind, ih others]
    rfl

/-- A list is read back if no word holds a comma or is a dash alone. -/
theorem parseList_listText {text : α → String} {values : List α}
    (each : ∀ value ∈ values, parse (text value) = .ok value ∧ ',' ∉ (text value).toList ∧
      text value ≠ "-") :
    parseList parse (listText (values.map text)) = .ok values := by
  cases values with
  | nil => rfl
  | cons value rest =>
    have some_ : (value :: rest).map text ≠ [] := List.cons_ne_nil _ _
    have apart : ∀ word ∈ (value :: rest).map text, ',' ∉ word.toList := by
      intro word member
      obtain ⟨value', known, rfl⟩ := List.mem_map.mp member
      exact (each value' known).2.1
    have split := splitAll_joinWords some_ apart
    have visible : joinWords ',' ((value :: rest).map text) ≠ "-" := by
      intro dash
      -- A dash alone would be the only word.
      rw [dash] at split
      have alone : splitAll "-" ',' = ["-"] := by decide
      rw [alone, List.map_cons] at split
      exact (each value List.mem_cons_self).2.2 (List.cons.inj split).1.symm
    rw [listText, if_neg some_, parseList, if_neg visible, split]
    exact mapM_decode fun value' known => (each value' known).1

section Verification

variable {verification : CompletedEffectVerification}

theorem isWord_words (valid : verification.Valid) : ∀ word ∈ verification.words, IsWord word := by
  intro word member
  simp only [CompletedEffectVerification.words, List.mem_cons, List.not_mem_nil, or_false] at member
  rcases member with rfl | rfl | rfl | rfl | rfl | rfl
  · exact isWord_asStr _
  · exact isWord_of_isIdentifier valid.operation
  · exact isWord_of_isIdentifier valid.verifier
  · exact isWord_of_isIdentifier valid.observation
  · exact isWord_of_isSha256Text valid.digest
  · exact isWord_toString _

theorem splitAll_encode (valid : verification.Valid) :
    splitAll verification.encode '|' = verification.words :=
  splitAll_joinWords (List.cons_ne_nil _ _) fun word member =>
    (isWord_words valid word member).not_mem_bar

theorem mem_encode (valid : verification.Valid) {c : Char}
    (member : c ∈ verification.encode.toList) : c = '|' ∨ c ∉ ['\n', '\r', ',', '|'] := by
  rcases mem_joinWords member with bar | ⟨word, known, found⟩
  · exact .inl bar
  · exact .inr (isWord_words valid word known c found)

theorem run_verificationWord {error word : String} {next : String → LineReader β} :
    (verificationWord error >>= next).run (word :: rest) = (next word).run rest := rfl

theorem run_readVerification (valid : verification.Valid)
    (within : verification.observedUnixMs < 2 ^ 64) :
    readVerification.run verification.words = .ok (verification, []) := by
  unfold readVerification CompletedEffectVerification.words
  rw [run_verificationWord, run_lift (parseStage_asStr _),
    run_verificationWord,
    run_lift (normalizeIdentifier_of_isIdentifier _ valid.operation),
    run_verificationWord,
    run_lift (normalizeIdentifier_of_isIdentifier _ valid.verifier),
    run_verificationWord,
    run_lift (normalizeIdentifier_of_isIdentifier _ valid.observation),
    run_verificationWord, run_verificationWord,
    run_lift (parseNumber_toString _ within), run_finish]
  have passes : verification.validate = .ok () :=
    CompletedEffectVerification.validate_eq_ok.mpr valid
  dsimp only
  rw [run_lift passes]
  rfl

/-- A verification is read as it was written. -/
theorem decode_encode (valid : verification.Valid)
    (within : verification.observedUnixMs < 2 ^ 64) :
    CompletedEffectVerification.decode verification.encode = .ok verification := by
  rw [CompletedEffectVerification.decode, splitAll_encode valid, run_readVerification valid within]
  rfl

theorem encode_ne_dash (valid : verification.Valid) : verification.encode ≠ "-" := by
  intro dash
  have words := splitAll_encode valid
  have alone : splitAll "-" '|' = ["-"] := by decide
  rw [dash, alone] at words
  exact absurd (congrArg List.length words) (by simp [CompletedEffectVerification.words])

end Verification

/-! ### States -/

/-- What is known of the texts and numbers of a provisioning state, however it came about. -/
structure ProvisioningState.Encodable (provisioning : ProvisioningState) : Prop where
  together : provisioning.manifestId.isSome = provisioning.manifestIdentity.isSome
  identity : ∀ value, provisioning.manifestIdentity = some value → isSha256Text value = true
  manifestId : ∀ value, provisioning.manifestId = some value → isIdentifier value = true
  sourceRef : ∀ value, provisioning.manifestSourceRef = some value → value ≠ "-" ∧
    isIdentifier value = true
  setupRef : ∀ value, provisioning.manifestSetupRef = some value → value ≠ "-" ∧
    isIdentifier value = true
  profileRef : ∀ value, provisioning.manifestMachineProfileRef = some value →
    value ≠ "-" ∧ isIdentifier value = true
  hostIdentity : ∀ value, provisioning.manifestHostIdentity = some value →
    value ≠ "-" ∧ isIdentifier value = true
  authority : ∀ authority, provisioning.ownerAuthority = some authority →
    isIdentifier authority.ownerId = true ∧ isIdentifier authority.enrollmentId = true
  generation : provisioning.authorityGeneration < 2 ^ 64

/-- What is known of the texts and numbers of a state, however it came about. -/
structure DurableBootstrapState.Encodable (state : DurableBootstrapState) : Prop where
  generation : state.generation < 2 ^ 64
  observed : ∀ verification ∈ state.effectVerifications, verification.observedUnixMs < 2 ^ 64
  provisioning : state.provisioning.Encodable

/-- No identifier that may be absent is a dash. -/
structure DurableBootstrapState.DashFree (state : DurableBootstrapState) : Prop where
  operation : ∀ active, state.active = some active → active.operationId ≠ "-"
  manifestId : state.provisioning.manifestId ≠ some "-"
  owner : ∀ authority, state.provisioning.ownerAuthority = some authority →
    authority.ownerId ≠ "-" ∧ authority.enrollmentId ≠ "-"

theorem run_readActive {active : Option ActiveBootstrapStage}
    (identifier : ∀ here, active = some here → isIdentifier here.operationId = true)
    (visible : ∀ here, active = some here → here.operationId ≠ "-") (rest : List String) :
    readActive.run (activeLines active ++ rest) = .ok (active, rest) := by
  unfold readActive
  cases active with
  | none =>
    simp only [activeLines, List.cons_append, List.nil_append]
    rw [run_stateField, run_stateField,
      run_stateField]
    rfl
  | some here =>
    have effectVisible : here.effectState.asStr ≠ "-" := by
      cases here.effectState <;> decide
    have parsed : parseActive here.stage.asStr here.operationId here.effectState.asStr =
        .ok (some here) := by
      rw [parseActive, if_neg fun all => asStr_ne_dash _ all.1,
        if_pos ⟨asStr_ne_dash _, visible here rfl, effectVisible⟩, parseStage_asStr, ok_bind,
        normalizeIdentifier_of_isIdentifier _ (identifier here rfl), ok_bind, parse_effectState]
      rfl
    simp only [activeLines, List.cons_append, List.nil_append]
    rw [run_stateField, run_stateField,
      run_stateField, parsed]
    rfl

/-- An operation whose id is a dash is refused. -/
theorem run_readActive_dash {here : ActiveBootstrapStage} (dash : here.operationId = "-")
    (rest : List String) : readActive.run (activeLines (some here) ++ rest) =
      .error (.corruptState "active bootstrap stage fields must be present together") := by
  have refused : parseActive here.stage.asStr here.operationId here.effectState.asStr =
      .error (.corruptState "active bootstrap stage fields must be present together") := by
    rw [parseActive, if_neg fun all => asStr_ne_dash _ all.1, if_neg fun all => all.2.1 dash]
  unfold readActive
  simp only [activeLines, List.cons_append, List.nil_append]
  rw [run_stateField, run_stateField,
    run_stateField, refused]
  rfl

/-- The part of a provisioning state that the manifest fills, as it is read: the id of the manifest
is lost if it is a dash. -/
def ProvisioningState.manifestPart (provisioning : ProvisioningState) : ProvisioningState where
  mode := provisioning.mode
  manifestIdentity := provisioning.manifestIdentity
  manifestId := provisioning.manifestId.filter (· ≠ "-")
  manifestConnectivity := provisioning.manifestConnectivity
  manifestDeferOwnerEnrollment := provisioning.manifestDeferOwnerEnrollment
  manifestSourceRef := provisioning.manifestSourceRef
  manifestSetupRef := provisioning.manifestSetupRef
  manifestMachineProfileRef := provisioning.manifestMachineProfileRef
  manifestHostIdentity := provisioning.manifestHostIdentity

theorem parseOptional_reference (label : String)
    (known : ∀ inner, value = some inner → inner ≠ "-" ∧ isIdentifier inner = true) :
    parseOptional (normalizeIdentifier label) (optional value) = .ok value :=
  parseOptional_optional fun inner present =>
    ⟨(known inner present).1, normalizeIdentifier_of_isIdentifier label (known inner present).2⟩

theorem parseOptional_digest (known : ∀ inner, value = some inner → isSha256Text inner = true) :
    parseOptional (parseSha256 error) (optional value) = .ok value :=
  parseOptional_optional fun inner present =>
    ⟨ne_dash_of_isSha256Text (known inner present),
      parseSha256_of_isSha256Text error (known inner present)⟩

/-- An optional identifier is read as it was written, a dash as none. -/
theorem parseOptional_filter (label : String)
    (known : ∀ inner, value = some inner → isIdentifier inner = true) :
    parseOptional (normalizeIdentifier label) (optional value) = .ok (value.filter (· ≠ "-")) := by
  cases value with
  | none => rfl
  | some inner =>
    by_cases dash : inner = "-"
    · subst dash
      rfl
    · rw [optional, Option.getD_some, parseOptional, if_neg dash,
        normalizeIdentifier_of_isIdentifier label (known inner rfl)]
      simp [Option.filter, dash]

/-- The manifest's part is read as it was written. -/
theorem run_readManifest (encodable : provisioning.Encodable) (rest : List String) :
    readManifest.run (manifestLines provisioning ++ rest) =
      .ok (provisioning.manifestPart, rest) := by
  unfold readManifest manifestLines
  simp only [List.cons_append, List.nil_append]
  rw [run_stateFieldWith (parseOptional_getD _ fun mode _ =>
      ⟨mode_ne_dash mode, mode_ofText? mode⟩),
    run_stateFieldWith (parseOptional_digest _ encodable.identity),
    run_stateFieldWith (parseOptional_filter _ encodable.manifestId),
    run_stateFieldWith (parseOptional_getD _ fun connectivity _ =>
      ⟨connectivity_ne_dash connectivity, connectivity_ofText? connectivity⟩),
    run_stateFieldWith (parseOptional_getD _ fun value _ =>
      ⟨boolText_ne_dash value, parseBool_boolText _ value⟩),
    run_stateFieldWith (parseOptional_reference _ encodable.sourceRef),
    run_stateFieldWith (parseOptional_reference _ encodable.setupRef),
    run_stateFieldWith (parseOptional_reference _ encodable.profileRef),
    run_stateFieldWith (parseOptional_reference _ encodable.hostIdentity)]
  rfl

/-- An authority belongs to an enrolled owner, and its generation is the current one. -/
theorem ProvisioningState.Valid.authority (valid : provisioning.Valid)
    {authority : OwnerAuthorityRecord} (present : provisioning.ownerAuthority = some authority) :
    provisioning.ownerEnrollment = .enrolled ∧ provisioning.preparerAuthorityRetired = true ∧
      authority.generation = provisioning.authorityGeneration ∧ 0 < authority.generation := by
  have owner := valid.owner
  unfold ProvisioningState.OwnerValid at owner
  cases enrollment : provisioning.ownerEnrollment with
  | unresolved =>
    rw [enrollment] at owner
    rw [owner.1] at present
    cases present
  | pending | recoveryResolved =>
    rw [enrollment] at owner
    rw [owner.2.2.1] at present
    cases present
  | enrolled =>
    rw [enrollment] at owner
    obtain ⟨authority', present', retired, fresh, same⟩ := owner
    rw [present] at present'
    cases present'
    exact ⟨rfl, retired, same, by omega⟩

theorem parseOwnerAuthority_ownerTexts {authority : Option OwnerAuthorityRecord}
    (known : ∀ here, authority = some here → isIdentifier here.ownerId = true ∧
      isIdentifier here.enrollmentId = true ∧ here.ownerId ≠ "-" ∧ here.enrollmentId ≠ "-" ∧
      0 < here.generation) :
    parseOwnerAuthority (ownerTexts authority).1 (ownerTexts authority).2.1
      ((authority.map (·.generation)).getD 0) = .ok authority := by
  cases authority with
  | none => rfl
  | some here =>
    obtain ⟨owner, enrollment, visible, visible', positive⟩ := known here rfl
    simp only [ownerTexts, Option.map_some, Option.getD_some]
    rw [parseOwnerAuthority, if_neg fun all => visible all.1, if_pos ⟨visible, visible', positive⟩,
      normalizeIdentifier_of_isIdentifier _ owner, ok_bind,
      normalizeIdentifier_of_isIdentifier _ enrollment, ok_bind]
    rfl

theorem ownerTexts_generation (authority : Option OwnerAuthorityRecord) :
    (ownerTexts authority).2.2 = toString ((authority.map (·.generation)).getD 0) := by
  cases authority with
  | none => decide
  | some here => rfl

def ProvisioningState.asRead (provisioning : ProvisioningState) : ProvisioningState :=
  { provisioning with manifestId := provisioning.manifestId.filter (· ≠ "-") }

def DurableBootstrapState.asRead (state : DurableBootstrapState) : DurableBootstrapState :=
  { state with provisioning := state.provisioning.asRead }

/-- The lines about the owner are read as far as the authority of the owner, which may be refused.
-/
theorem run_readOwner_eq (valid : provisioning.Valid) (encodable : provisioning.Encodable) :
    (readOwner provisioning.manifestPart).run (ownerLines provisioning) =
      (parseOwnerAuthority (ownerTexts provisioning.ownerAuthority).1
        (ownerTexts provisioning.ownerAuthority).2.1
        ((provisioning.ownerAuthority.map (·.generation)).getD 0)).map
        fun authority => ({ provisioning.asRead with ownerAuthority := authority }, []) := by
  have within : (provisioning.ownerAuthority.map (·.generation)).getD 0 < 2 ^ 64 := by
    cases present : provisioning.ownerAuthority with
    | none => exact Nat.two_pow_pos 64
    | some authority =>
      rw [Option.map_some, Option.getD_some, (valid.authority present).2.2.1]
      exact encodable.generation
  unfold readOwner ownerLines
  rw [ownerTexts_generation,
    run_stateFieldWith (parseOptional_digest _ valid.planDigest),
    run_stateFieldWith (parseNumber_toString _ provisioning.firstBootPlanCount.toNat_lt),
    run_stateFieldWith (parse_ownerEnrollment _),
    run_stateField, run_stateField,
    run_stateFieldWith (parseNumber_toString _ encodable.generation),
    run_stateFieldWith (parseNumber_toString _ within),
    run_stateFieldWith (parseBool_boolText _ _),
    run_finish]
  cases parseOwnerAuthority (ownerTexts provisioning.ownerAuthority).1
      (ownerTexts provisioning.ownerAuthority).2.1
      ((provisioning.ownerAuthority.map (·.generation)).getD 0) with
  | error reason => rfl
  | ok authority =>
    simp only [ProvisioningState.manifestPart, UInt32.ofNat_toNat]
    rfl

theorem run_readOwner (valid : provisioning.Valid) (encodable : provisioning.Encodable)
    (visible : ∀ authority, provisioning.ownerAuthority = some authority →
      authority.ownerId ≠ "-" ∧ authority.enrollmentId ≠ "-") :
    (readOwner provisioning.manifestPart).run (ownerLines provisioning) = .ok
      (provisioning.asRead, []) := by
  have owner := parseOwnerAuthority_ownerTexts fun here present =>
    ⟨(encodable.authority here present).1, (encodable.authority here present).2,
      (visible here present).1, (visible here present).2, (valid.authority present).2.2.2⟩
  rw [run_readOwner_eq valid encodable, owner]
  rfl

/-- An owner or enrolment whose id is a dash is refused. -/
theorem run_readOwner_dash (valid : provisioning.Valid)
    (encodable : provisioning.Encodable) {authority : OwnerAuthorityRecord}
    (present : provisioning.ownerAuthority = some authority)
    (dash : authority.ownerId = "-" ∨ authority.enrollmentId = "-") :
    (readOwner provisioning.manifestPart).run (ownerLines provisioning) =
      .error (.corruptState "owner authority fields must be present together") := by
  have positive := (valid.authority present).2.2.2
  rw [run_readOwner_eq valid encodable, present]
  simp only [ownerTexts, Option.map_some, Option.getD_some]
  rw [parseOwnerAuthority, if_neg fun all => Nat.ne_of_gt positive all.2.2,
    if_neg fun all => dash.elim all.1 all.2.1]
  rfl

theorem length_le_of_valid (valid : state.Valid) :
    state.completed.length ≤ BootstrapStage.ordered.length :=
  DurableBootstrapState.length_le_of_order valid.order

/-- Each verification is valid. -/
theorem DurableBootstrapState.Valid.verification (valid : state.Valid)
    {verification : CompletedEffectVerification}
    (member : verification ∈ state.effectVerifications) :
    verification.Valid := by
  have lineage := valid.lineage
  generalize state.completed.filter (·.requiresEffectBoundary) = stages at lineage
  generalize state.effectVerifications = verifications at lineage member
  induction lineage with
  | nil => cases member
  | cons verifies _ ih =>
    rcases List.mem_cons.mp member with rfl | later
    · exact verifies.2
    · exact ih later

/-- The lines about the stages are read, and the rest follows. -/
theorem run_readState_eq (valid : state.Valid) (encodable : state.Encodable) :
    readState.run (stateLines state) =
      (do
        let active ← readActive
        let manifest ← readManifest
        let provisioning ← readOwner manifest
        return { state with active := active, provisioning := provisioning } : LineReader _).run
        (activeLines state.active ++
          (manifestLines state.provisioning ++ ownerLines state.provisioning)) := by
  have completed : parseCompleted (listText (state.completed.map BootstrapStage.asStr)) =
      .ok state.completed := by
    have read := parseList_listText fun stage (_ : stage ∈ state.completed) =>
      ⟨parseStage_asStr stage, (isWord_asStr stage).not_mem_comma, asStr_ne_dash stage⟩
    rw [parseCompleted, read, ok_bind]
    simp [demand, length_le_of_valid valid, pure_eq_ok]
  have verifications : parseList CompletedEffectVerification.decode
      (listText (state.effectVerifications.map CompletedEffectVerification.encode)) =
      .ok state.effectVerifications := by
    refine parseList_listText fun verification member => ?_
    have known := valid.verification member
    refine ⟨decode_encode known (encodable.observed verification member), ?_, encode_ne_dash known⟩
    intro comma
    rcases mem_encode known comma with bar | word
    · exact absurd bar (by decide)
    · exact word (by decide)
  unfold readState stateLines stageLines
  simp only [List.cons_append, List.nil_append, List.append_assoc]
  rw [run_expect,
    run_stateFieldWith (parseNumber_toString _ encodable.generation),
    run_stateFieldWith (normalizeIdentifier_of_isIdentifier _ valid.session),
    run_stateFieldWith (normalizeIdentifier_of_isIdentifier _ valid.machine),
    run_stateFieldWith completed,
    run_stateFieldWith verifications]

/-- The lines of a state are read as the state. -/
theorem run_readState (valid : state.Valid) (encodable : state.Encodable)
    (operation : ∀ active, state.active = some active → active.operationId ≠ "-")
    (owner : ∀ authority, state.provisioning.ownerAuthority = some authority →
      authority.ownerId ≠ "-" ∧ authority.enrollmentId ≠ "-") :
    readState.run (stateLines state) = .ok (state.asRead, []) := by
  rw [run_readState_eq valid encodable,
    run_bind (run_readActive (fun here present => (valid.active here present).2) operation _),
    run_bind (run_readManifest encodable.provisioning _),
    run_bind (run_readOwner valid.provisioning encodable.provisioning owner)]
  rfl

/-- What is read back has no operation or owner whose id is a dash. -/
theorem visible_of_run_readState {state state' : DurableBootstrapState} (valid : state.Valid)
    (encodable : state.Encodable) {rest : List String}
    (read : readState.run (stateLines state) = .ok (state', rest)) :
    (∀ active, state.active = some active → active.operationId ≠ "-") ∧
      ∀ authority, state.provisioning.ownerAuthority = some authority →
        authority.ownerId ≠ "-" ∧ authority.enrollmentId ≠ "-" := by
  rw [run_readState_eq valid encodable] at read
  have operation : ∀ active, state.active = some active → active.operationId ≠ "-" := by
    intro active present dash
    rw [present, StateT.run_bind, run_readActive_dash dash] at read
    cases read
  refine ⟨operation, ?_⟩
  intro authority present
  rw [run_bind (run_readActive (fun here present => (valid.active here present).2) operation _),
    run_bind (run_readManifest encodable.provisioning _)] at read
  by_contra dash
  rw [← not_or, not_not] at dash
  rw [StateT.run_bind, run_readOwner_dash valid.provisioning encodable.provisioning
    present dash] at read
  cases read

/-! ### Lines -/

theorem fits_identifier (identifier : isIdentifier text = true) : Fits 256 text := by
  refine ⟨(isWord_of_isIdentifier identifier).onOneLine, ?_⟩
  simp only [isIdentifier, Bool.and_eq_true, decide_eq_true_eq] at identifier
  exact identifier.1.1.1.1.2

theorem fits_sha256 (digest : isSha256Text text = true) : Fits 256 text := by
  refine ⟨(isWord_of_isSha256Text digest).onOneLine, ?_⟩
  simp only [isSha256Text, Bool.and_eq_true, decide_eq_true_eq] at digest
  exact digest.1.trans_le (by decide)

theorem fits_toString {n : Nat} (within : n < 2 ^ 64) : Fits 256 (toString n) := by
  have wide : n < 10 ^ 20 := within.trans (by decide)
  have short := utf8ByteSize_toString_le (by decide) wide
  exact ⟨(isWord_toString n).onOneLine, short.trans (by decide)⟩

theorem fits_asStr : Fits 256 stage.asStr := by
  cases stage <;> decide

theorem fits_getD {text : α → String} (known : ∀ inner, Fits 256 (text inner)) (value : Option α) :
    Fits 256 ((value.map text).getD "-") := by
  cases value with
  | none =>
    change Fits 256 "-"
    decide
  | some inner => exact known inner

theorem fits_optional (known : ∀ inner, value = some inner → Fits 256 inner) :
    Fits 256 (optional value) := by
  cases value with
  | none => decide
  | some inner => exact known inner rfl

/-- The names of the fields are short. -/
theorem fits_fieldLine {bound : Nat} {value : String} (named : Fits 40 name)
    (fits : Fits bound value) : Fits (41 + bound) (fieldLine name value) := by
  have equals : Fits 1 "=" := by decide
  exact (named.append equals).append fits

theorem fits_listText {bound count : Nat} {words : List String} (few : words.length ≤ count)
    (each : ∀ word ∈ words, Fits bound word) : Fits (1 + count * (bound + 1)) (listText words) := by
  unfold listText
  by_cases empty : words = []
  · rw [if_pos empty]
    have dash : Fits 1 "-" := by decide
    exact dash.mono (Nat.le_add_right _ _)
  · rw [if_neg empty]
    refine (fits_joinWords (by decide) (by decide) each).mono ?_
    have more := Nat.mul_le_mul_right (bound + 1) few
    omega

theorem fits_words {verification : CompletedEffectVerification} (valid : verification.Valid)
    (within : verification.observedUnixMs < 2 ^ 64) : ∀ word ∈ verification.words,
      Fits 256 word := by
  simp only [CompletedEffectVerification.words, List.forall_mem_cons]
  exact ⟨fits_asStr _, fits_identifier valid.operation, fits_identifier valid.verifier,
    fits_identifier valid.observation, fits_sha256 valid.digest, fits_toString within, by simp⟩

theorem length_verifications_le (valid : state.Valid) :
    state.effectVerifications.length ≤ BootstrapStage.ordered.length := by
  rw [← valid.lineage.length_eq]
  exact (List.length_filter_le _ _).trans (length_le_of_valid valid)

theorem fits_completed (valid : state.Valid) :
    Fits 3400 (fieldLine "completed" (listText (state.completed.map BootstrapStage.asStr))) := by
  have few : (state.completed.map BootstrapStage.asStr).length ≤ 13 := by
    rw [List.length_map]
    exact length_le_of_valid valid
  have each : ∀ word ∈ state.completed.map BootstrapStage.asStr, Fits 256 word := by
    intro word member
    obtain ⟨stage, -, rfl⟩ := List.mem_map.mp member
    exact fits_asStr stage
  exact (fits_fieldLine (by decide) (fits_listText few each)).mono (by decide)

/-- The verifications fit on a line of bounded length. -/
theorem fits_verifications (valid : state.Valid)
    (encodable : state.Encodable) : Fits 20200 (fieldLine "effect_verifications"
      (listText (state.effectVerifications.map CompletedEffectVerification.encode))) := by
  have few : (state.effectVerifications.map CompletedEffectVerification.encode).length ≤ 13 := by
    rw [List.length_map]
    exact length_verifications_le valid
  have each : ∀ word ∈ state.effectVerifications.map CompletedEffectVerification.encode,
      Fits (6 * 257) word := by
    intro word member
    obtain ⟨verification, known, rfl⟩ := List.mem_map.mp member
    have fits := fits_words (valid.verification known) (encodable.observed verification known)
    have bar : '|'.utf8Size = 1 := by decide
    exact fits_joinWords bar (by decide) fits
  exact (fits_fieldLine (by decide) (fits_listText few each)).mono (by decide)

theorem fits_stageLines (valid : state.Valid) (encodable : state.Encodable) :
    ∀ line ∈ stageLines state, Fits 20200 line := by
  simp only [stageLines, List.forall_mem_cons]
  exact ⟨(fits_fieldLine (by decide) (fits_toString encodable.generation)).mono (by decide),
    (fits_fieldLine (by decide) (fits_identifier valid.session)).mono (by decide),
    (fits_fieldLine (by decide) (fits_identifier valid.machine)).mono (by decide),
    (fits_completed valid).mono (by decide), fits_verifications valid encodable, by simp⟩

/-- Only the list of verifications may be long. -/
theorem size_stageLines_le (valid : state.Valid) (encodable : state.Encodable) :
    ((stageLines state).map fun line => line.utf8ByteSize + 1).sum ≤ 30000 := by
  have generation :=
    (fits_fieldLine (show Fits 40 "generation" by decide) (fits_toString encodable.generation)).2
  have session :=
    (fits_fieldLine (show Fits 40 "session_id" by decide) (fits_identifier valid.session)).2
  have machine :=
    (fits_fieldLine (show Fits 40 "machine_id" by decide) (fits_identifier valid.machine)).2
  have completed := (fits_completed valid).2
  have verifications := (fits_verifications valid encodable).2
  simp only [stageLines, List.map_cons, List.map_nil, List.sum_cons, List.sum_nil]
  omega

theorem fits_activeLines {active : Option ActiveBootstrapStage}
    (identifier : ∀ here, active = some here → isIdentifier here.operationId = true) :
    ∀ line ∈ activeLines active, Fits 297 line := by
  cases active with
  | none =>
    simp only [activeLines, List.forall_mem_cons]
    exact ⟨by decide, by decide, by decide, by simp⟩
  | some here =>
    have effect : Fits 256 here.effectState.asStr := by
      cases here.effectState <;> decide
    simp only [activeLines, List.forall_mem_cons]
    refine ⟨fits_fieldLine ?_ (fits_asStr _),
      fits_fieldLine ?_ (fits_identifier (identifier here rfl)),
      fits_fieldLine ?_ effect, by simp⟩ <;> decide

theorem fits_manifestLines (encodable : provisioning.Encodable) :
    ∀ line ∈ manifestLines provisioning, Fits 297 line := by
  have mode (mode : ProvisioningMode) : Fits 256 mode.asStr := by
    cases mode <;> decide
  have connectivity (connectivity : BootstrapConnectivity) : Fits 256 connectivity.asStr := by
    cases connectivity <;> decide
  have deferral (deferral : Bool) : Fits 256 (boolText deferral) := by
    cases deferral <;> decide
  have digest := fits_optional fun value present => fits_sha256 (encodable.identity value present)
  have manifestId := fits_optional fun value present =>
    fits_identifier (encodable.manifestId value present)
  have source := fits_optional fun value present =>
    fits_identifier (encodable.sourceRef value present).2
  have setup := fits_optional fun value present =>
    fits_identifier (encodable.setupRef value present).2
  have profile := fits_optional fun value present =>
    fits_identifier (encodable.profileRef value present).2
  have host := fits_optional fun value present =>
    fits_identifier (encodable.hostIdentity value present).2
  simp only [manifestLines, List.forall_mem_cons]
  refine ⟨fits_fieldLine ?_ (fits_getD mode _), fits_fieldLine ?_ digest,
    fits_fieldLine ?_ manifestId, fits_fieldLine ?_ (fits_getD connectivity _),
    fits_fieldLine ?_ (fits_getD deferral _), fits_fieldLine ?_ source, fits_fieldLine ?_ setup,
    fits_fieldLine ?_ profile, fits_fieldLine ?_ host, by simp⟩ <;> decide

theorem fits_ownerLines (valid : provisioning.Valid)
    (encodable : provisioning.Encodable) : ∀ line ∈ ownerLines provisioning, Fits 297 line := by
  have plan := fits_optional fun value present => fits_sha256 (valid.planDigest value present)
  have count := fits_toString (provisioning.firstBootPlanCount.toNat_lt.trans (by decide))
  have enrollment : Fits 256 provisioning.ownerEnrollment.asStr := by
    cases provisioning.ownerEnrollment <;> decide
  have retired : Fits 256 (boolText provisioning.preparerAuthorityRetired) := by
    cases provisioning.preparerAuthorityRetired <;> decide
  have owner : Fits 256 (ownerTexts provisioning.ownerAuthority).1 ∧
      Fits 256 (ownerTexts provisioning.ownerAuthority).2.1 ∧
      Fits 256 (ownerTexts provisioning.ownerAuthority).2.2 := by
    cases present : provisioning.ownerAuthority with
    | none => decide
    | some authority =>
      obtain ⟨owner, enrolled⟩ := encodable.authority authority present
      have current := (valid.authority present).2.2.1
      exact ⟨fits_identifier owner, fits_identifier enrolled,
        fits_toString (current ▸ encodable.generation)⟩
  simp only [ownerLines, List.forall_mem_cons]
  refine ⟨fits_fieldLine ?_ plan, fits_fieldLine ?_ count, fits_fieldLine ?_ enrollment,
    fits_fieldLine ?_ owner.1, fits_fieldLine ?_ owner.2.1,
    fits_fieldLine ?_ (fits_toString encodable.generation), fits_fieldLine ?_ owner.2.2,
    fits_fieldLine ?_ retired, by simp⟩ <;> decide

/-- The lines after those about the stages. -/
theorem fits_laterLines (valid : state.Valid) (encodable : state.Encodable) :
    ∀ line ∈ activeLines state.active ++ manifestLines state.provisioning ++
      ownerLines state.provisioning,
      Fits 297 line := by
  intro line member
  simp only [List.mem_append] at member
  rcases member with (active | manifest) | owner
  · exact fits_activeLines (fun here present => (valid.active here present).2) line active
  · exact fits_manifestLines encodable.provisioning line manifest
  · exact fits_ownerLines valid.provisioning encodable.provisioning line owner

theorem stateLines_eq (state : DurableBootstrapState) :
    stateLines state = stateSchema :: (stageLines state ++
    (activeLines state.active ++ manifestLines state.provisioning ++
      ownerLines state.provisioning)) := by
  simp only [stateLines, List.append_assoc]

/-- No line of a state holds a line break. -/
theorem onOneLine_stateLines (valid : state.Valid)
    (encodable : state.Encodable) : ∀ line ∈ stateLines state, OnOneLine line := by
  intro line member
  rw [stateLines_eq, List.mem_cons, List.mem_append] at member
  rcases member with rfl | stage | later
  · decide
  · exact (fits_stageLines valid encodable line stage).1
  · exact (fits_laterLines valid encodable line later).1

/-! ### The whole text -/

/-- The size of a sealed text, by its lines. -/
theorem length_sealLines (list : List String) :
    (sealLines sha256 list).length = (list.map fun line => line.utf8ByteSize + 1).sum + 75 := by
  have digest : (sha256Hex sha256 (asBytes (unlines list))).utf8ByteSize = 64 := by
    rw [sha256Hex, hexEncode_utf8ByteSize, Vector.length_toList]
  have label : "integrity".utf8ByteSize = 9 ∧ "=".utf8ByteSize = 1 ∧
    "\n".utf8ByteSize = 1 := by decide
  rw [sealLines, asBytes_length, String.utf8ByteSize_append, String.utf8ByteSize_append,
    String.utf8ByteSize_append, String.utf8ByteSize_append, digest, label.1, label.2.1, label.2.2,
    utf8ByteSize_unlines]

/-- Every state fits into the ledger. -/
theorem length_serializeState_le (valid : state.Valid) (encodable : state.Encodable) :
    (serializeState sha256 state).length ≤ maxBootstrapStateBytes := by
  have schema : stateSchema.utf8ByteSize = 25 := by decide
  have stages := size_stageLines_le valid encodable
  have later := sum_sizes_le fun line member => (fits_laterLines valid encodable line member).2
  have count : (activeLines state.active ++ manifestLines state.provisioning ++
      ownerLines state.provisioning).length = 20 := by
    cases state.active <;> rfl
  rw [count] at later
  rw [serializeState, length_sealLines, stateLines_eq, List.map_cons,
    List.map_append, List.sum_cons,
    List.sum_append, schema, maxBootstrapStateBytes]
  omega

/-- The trailer of sealed lines is found, and it has the digest of the lines. -/
theorem openTrailer_sealLines {list : List String} (some_ : list ≠ [])
    {missing malformed : DurableBootstrapError}
    {check : String → String → Except DurableBootstrapError Unit}
    (passes : ∀ digest, isSha256Text digest = true →
      sha256Hex sha256 (asBytes (unlines list)) = digest →
      check (unlines list) digest = .ok ()) :
    openTrailer
      (unlines list ++ ("integrity" ++ "=" ++ sha256Hex sha256 (asBytes (unlines list)) ++ "\n"))
      "integrity" missing malformed check = .ok (unlines list) := by
  have digest := isSha256Text_sha256Hex sha256 (asBytes (unlines list))
  have plain : '\n' ∉ "integrity".toList := by decide
  have split := splitTrailer_append some_ plain (isWord_of_isSha256Text digest).onOneLine.1
  rw [openTrailer, split]
  dsimp only
  rw [passes _ digest rfl]
  rfl

/-- What is written is read as the lines of the state are. -/
theorem parseState_serializeState_eq (valid : state.Valid) (encodable : state.Encodable) :
    parseState sha256 (serializeState sha256 state) = (do
      let (read, _) ← readState.run (stateLines state)
      read.checked) := by
  have passes : ∀ digest, isSha256Text digest = true →
      sha256Hex sha256 (asBytes (unlines (stateLines state))) = digest →
      checkStateIntegrity sha256 (unlines (stateLines state)) digest = .ok () := by
    intro digest shaped same
    simp [checkStateIntegrity, bind_eq_ok, demand_eq_ok, shaped, same]
  have some_ : stateLines state ≠ [] := List.cons_ne_nil _ _
  rw [parseState, serializeState, sealLines, fromUtf8_asBytes]
  dsimp only
  rw [openTrailer_sealLines sha256 some_ passes, ok_bind,
    lines_unlines (onOneLine_stateLines valid encodable)]
  rfl

/-- A state without dashes is read as itself. -/
theorem asRead_of_dashFree (dashFree : state.DashFree) : state.asRead = state := by
  have same : state.provisioning.manifestId.filter (· ≠ "-") = state.provisioning.manifestId := by
    cases present : state.provisioning.manifestId with
    | none => rfl
    | some value =>
      have visible : value ≠ "-" := fun dash => dashFree.manifestId (dash ▸ present)
      simp [visible]
  rw [DurableBootstrapState.asRead, ProvisioningState.asRead, same]

/-- A state without dashes is read back. -/
theorem parseState_serializeState (valid : state.Valid) (encodable : state.Encodable)
    (dashFree : state.DashFree) : parseState sha256 (serializeState sha256 state) = .ok state := by
  rw [parseState_serializeState_eq sha256 valid encodable,
    run_readState valid encodable dashFree.operation dashFree.owner, ok_bind,
      asRead_of_dashFree dashFree]
  exact DurableBootstrapState.checked_eq_ok.mpr ⟨valid, rfl⟩

/-- Only a state without dashes is read back, and as what it is. -/
theorem dashFree_of_parseState {state state' : DurableBootstrapState} (valid : state.Valid)
    (encodable : state.Encodable)
    (read : parseState sha256 (serializeState sha256 state) = .ok state') :
    state.DashFree ∧ state' = state := by
  have dashFree : state.DashFree := by
    rw [parseState_serializeState_eq sha256 valid encodable] at read
    obtain ⟨⟨found, rest⟩, lines, checked⟩ := bind_eq_ok.mp read
    obtain ⟨operation, owner⟩ := visible_of_run_readState valid encodable lines
    refine ⟨operation, ?_, owner⟩
    intro dash
    -- The id is lost, but not the digest of the manifest.
    rw [run_readState valid encodable operation owner] at lines
    cases lines
    have typed := (DurableBootstrapState.checked_eq_ok.mp checked).1.provisioning.typed
    have identity := encodable.provisioning.together
    rw [dash] at identity
    simp [DurableBootstrapState.asRead, ProvisioningState.asRead,
      ProvisioningState.typedManifestPresent,
      dash] at typed
    rw [typed] at identity
    cases identity
  rw [parseState_serializeState sha256 valid encodable dashFree] at read
  cases read
  exact ⟨dashFree, rfl⟩

/-! ### Anchors -/

/-- What is known of an anchor that is written. -/
structure GenerationAnchor.Valid (anchor : GenerationAnchor) : Prop where
  committed : anchor.committedGeneration < 2 ^ 64
  digest : isSha256Text anchor.committedStateSha256 = true
  pending : (anchor.pendingGeneration = none ∧ anchor.pendingStateSha256 = none) ∨
    ∃ digest, anchor.pendingGeneration = some (anchor.committedGeneration + 1) ∧
      anchor.pendingStateSha256 = some digest ∧ anchor.committedGeneration + 1 < 2 ^ 64 ∧
      isSha256Text digest = true

/-- A pending generation is a machine word. -/
theorem GenerationAnchor.Valid.pending_lt (valid : anchor.Valid) {generation : Nat}
    (present : anchor.pendingGeneration = some generation) : generation < 2 ^ 64 := by
  rcases valid.pending with ⟨absent, -⟩ | ⟨digest, same, -, within, -⟩
  · cases absent.symm.trans present
  · cases same.symm.trans present
    exact within

theorem GenerationAnchor.Valid.pending_digest (valid : anchor.Valid) {digest : String}
    (present : anchor.pendingStateSha256 = some digest) : isSha256Text digest = true := by
  rcases valid.pending with ⟨-, absent⟩ | ⟨digest', -, same, -, shaped⟩
  · cases absent.symm.trans present
  · cases same.symm.trans present
    exact shaped

theorem GenerationAnchor.Valid.validate (valid : anchor.Valid) : anchor.validate = .ok () := by
  have digest : validateAnchorSha256 anchor.committedStateSha256 = .ok () :=
    demand_eq_ok.mpr valid.digest
  rw [GenerationAnchor.validate, digest, ok_bind]
  rcases valid.pending with ⟨generation, none_⟩ | ⟨next, generation, some_, within, shaped⟩
  · rw [generation, none_]
  · have succ : anchor.committedGeneration + 1 = saturatingAdd anchor.committedGeneration 1 := by
      rw [saturatingAdd, u64Max]
      omega
    rw [generation, some_]
    simp only [bind_eq_ok, demand_eq_ok, validateAnchorSha256]
    exact ⟨(), succ, shaped⟩

theorem parseGeneration_toString {n : Nat} (within : n < 2 ^ 64) :
    parseGeneration error (toString n) = .ok n := by
  rw [parseGeneration, parseUnsigned_toString within]
  rfl

theorem toString_ne_dash (n : Nat) : toString n ≠ "-" := by
  intro dash
  have digit := isDigit_of_mem_toString (n := n) (c := '-') (by rw [dash]; decide)
  exact absurd digit (by decide)

/-- The lines of an anchor are read as the anchor. -/
theorem run_readGenerationAnchor (valid : anchor.Valid) :
    readGenerationAnchor.run (anchorLines anchor) = .ok (anchor, []) := by
  have generation : parseOptional
      (parseGeneration "generation anchor contains an invalid pending generation")
      (optional (anchor.pendingGeneration.map toString)) = .ok anchor.pendingGeneration :=
    parseOptional_getD toString fun generation present =>
      ⟨toString_ne_dash generation, parseGeneration_toString _ (valid.pending_lt present)⟩
  have digest : parseOptional .ok (optional anchor.pendingStateSha256) =
    .ok anchor.pendingStateSha256 :=
    parseOptional_optional fun digest present =>
      ⟨ne_dash_of_isSha256Text (valid.pending_digest present), rfl⟩
  unfold readGenerationAnchor anchorLines
  rw [run_expect, run_anchorField,
    run_lift (parseGeneration_toString _ valid.committed),
    run_anchorField, run_anchorField,
    run_anchorField, run_finish,
    run_lift generation, run_lift digest]
  rfl

theorem fits_anchorLines (valid : anchor.Valid) : ∀ line ∈ anchorLines anchor, Fits 297 line := by
  have generation : Fits 256 (optional (anchor.pendingGeneration.map toString)) := by
    refine fits_optional fun text present => ?_
    obtain ⟨generation, pending, rfl⟩ := Option.map_eq_some_iff.mp present
    exact fits_toString (valid.pending_lt pending)
  have digest := fits_optional fun value present => fits_sha256 (valid.pending_digest present)
  simp only [anchorLines, List.forall_mem_cons]
  refine ⟨?_, fits_fieldLine ?_ (fits_toString valid.committed),
    fits_fieldLine ?_ (fits_sha256 valid.digest), fits_fieldLine ?_ generation,
    fits_fieldLine ?_ digest, by simp⟩ <;> decide

/-- An anchor is small. -/
theorem length_serializeGenerationAnchor_le (valid : anchor.Valid) :
    (serializeGenerationAnchor sha256 anchor).length ≤ 4096 := by
  have total := sum_sizes_le fun line member => (fits_anchorLines valid line member).2
  have count : (anchorLines anchor).length = 5 := rfl
  rw [count] at total
  rw [serializeGenerationAnchor, length_sealLines]
  omega

/-- An anchor is read back. -/
theorem parseGenerationAnchor_serialize (valid : anchor.Valid) :
    parseGenerationAnchor sha256 (serializeGenerationAnchor sha256 anchor) = .ok anchor := by
  have passes : ∀ digest, isSha256Text digest = true →
      sha256Hex sha256 (asBytes (unlines (anchorLines anchor))) = digest →
      checkAnchorIntegrity sha256 (unlines (anchorLines anchor)) digest = .ok () := by
    intro digest shaped same
    simp [checkAnchorIntegrity, validateAnchorSha256, bind_eq_ok, demand_eq_ok, shaped, same]
  have some_ : anchorLines anchor ≠ [] := List.cons_ne_nil _ _
  have short := length_serializeGenerationAnchor_le sha256 valid
  rw [parseGenerationAnchor, demand, if_pos short, ok_bind, serializeGenerationAnchor, sealLines,
    fromUtf8_asBytes]
  dsimp only
  rw [openTrailer_sealLines sha256 some_ passes, ok_bind,
    lines_unlines fun line member => (fits_anchorLines valid line member).1,
    run_readGenerationAnchor valid, ok_bind]
  dsimp only
  rw [valid.validate]
  rfl

end Linura.Bootstrap
