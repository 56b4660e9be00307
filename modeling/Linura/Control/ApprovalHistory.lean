import Linura.Control.ApprovalAccounts

/-!
# Histories of the approval registry

A run is a sequence of calls by anyone with any clock samples; its log pairs each call
with its answer.  The registry forgets records and later their tombstones, so what holds
over a whole run is stated about the log: every record stems from an issue in it, what it
says is revoked stays unusable, and a request identity is not reused for a day after its
evidence ended.
-/

namespace Linura.Control

open Linura.Lib Linura.Core Linura.Policy

variable {evidence : PolicyApprovalEvidence} {review : TrustedPolicyReview}
  {approver : PolicyAuthenticatedApprover} {expiresAt : UInt64} {evidenceId : ApprovalEvidenceId}
  {call : ApprovalCall} {time : Nat} {record : ApprovalRecord}

namespace ApprovalReviewControl

/-- A call and its answer. -/
abbrev ApprovalEntry := ApprovalCall × Except ApprovalControlError ApprovalResponse

/-- The calls of a sequence with their answers, from a registry on. -/
def answers (control : ApprovalReviewControl) : List ApprovalCall → List ApprovalEntry
  | [] => []
  | call :: rest => (call, (control.call call).1) :: answers (control.call call).2 rest

variable (calls : List ApprovalCall)

/-- The calls of a run with their answers. -/
def log : List ApprovalEntry := answers new calls

theorem run_concat (call : ApprovalCall) : run (calls ++ [call]) = ((run calls).call call).2 :=
  List.foldl_concat _ _ _ _

theorem answers_append (control : ApprovalReviewControl) (calls later : List ApprovalCall) :
    answers control (calls ++ later) = answers control calls ++
      answers (calls.foldl (fun control call => (control.call call).2) control) later := by
  induction calls generalizing control with
  | nil => rfl
  | cons call rest ih => exact congrArg _ (ih _)

theorem log_concat (call : ApprovalCall) :
    log (calls ++ [call]) = log calls ++ [(call, ((run calls).call call).1)] :=
  answers_append _ _ _

/-! ### What the log says about the registry -/

/-- Evidence ended by a time: it expired, or a revocation of it succeeded. -/
def Ended (entries : List ApprovalEntry) (evidence : PolicyApprovalEvidence) (time : Nat) : Prop :=
  evidence.expiresAtUnixSeconds ≤ time ∨ ∃ sample revoker,
    ((.revoke (some sample) evidence.id revoker, .ok .revoked) : ApprovalEntry) ∈ entries ∧
      sample.toNat ≤ time

/-- Evidence was properly issued by a call of the log. -/
structure Origin (entries : List ApprovalEntry) (evidence : PolicyApprovalEvidence)
    (sample : UInt64) (review : TrustedPolicyReview) (approver : PolicyAuthenticatedApprover)
    (expiresAt : UInt64) : Prop where
  answered : ((.issue (some sample) evidence.requestId review approver expiresAt,
    .ok (.issued evidence)) : ApprovalEntry) ∈ entries
  required : requiredApprovalClass review = .ok evidence.requirement.approvalClass
  binding : evidence.requirement.binding = review.evaluation
  human : approver.kind = .human
  holds : evidence.requirement.approvalClass ∈ approver.approvalClasses
  issued : evidence.issuedAtUnixSeconds = sample.toNat
  expires : evidence.expiresAtUnixSeconds = expiresAt.toNat
  later : evidence.issuedAtUnixSeconds < evidence.expiresAtUnixSeconds
  short : evidence.expiresAtUnixSeconds - evidence.issuedAtUnixSeconds ≤ maxApprovalTtlSeconds

/-- What became of issued evidence: it has its record, or it ended, and its request identity is
buried or was so for a day.  At the end of time tombstones are forgotten early, when nothing can be
issued any more. -/
def Fate (entries : List ApprovalEntry) (control : ApprovalReviewControl)
    (evidence : PolicyApprovalEvidence) : Prop :=
  (∃ record, control.records.get? evidence.id = some record) ∨
    ∃ time, Ended entries evidence time ∧
      ((∃ tombstone, control.tombstones.get? evidence.requestId = some tombstone ∧
        time ≤ tombstone.retiredAtUnixSeconds) ∨
      time + approvalTombstoneRetentionSeconds ≤ control.lastAuthorityUnixSeconds ∨
      control.lastAuthorityUnixSeconds = u64Max)

/-- An evidence identity whose number was given out. -/
def GivenOut (control : ApprovalReviewControl) (evidenceId : ApprovalEvidenceId) : Prop :=
  ∃ sequence < control.nextEvidenceSequence, evidenceId.value = evidenceIdText sequence

/-- The registry is what the log makes of it. -/
structure Chronicle (entries : List ApprovalEntry) (control : ApprovalReviewControl) : Prop where
  accounted : Accounted control
  last_le : control.lastAuthorityUnixSeconds ≤ u64Max
  clock : ∀ entry ∈ entries, ∀ time, entry.1.sample = some time →
    time ≤ control.lastAuthorityUnixSeconds
  origin : ∀ {evidenceId record}, control.records.get? evidenceId = some record →
    ∃ sample review approver expiresAt,
      Origin entries record.evidence sample review approver expiresAt
  revoked : ∀ {sample evidenceId revoker},
    ((.revoke sample evidenceId revoker, .ok .revoked) : ApprovalEntry) ∈ entries →
      GivenOut control evidenceId ∧ ∀ {record}, control.records.get? evidenceId = some record →
        record.revocation.isSome = true
  revocation : ∀ {evidenceId record}, control.records.get? evidenceId = some record →
    record.revocation.isSome = true → ∃ sample revoker,
      ((.revoke (some sample) evidenceId revoker, .ok .revoked) : ApprovalEntry) ∈ entries
  issued : ∀ {call evidence}, ((call, .ok (.issued evidence)) : ApprovalEntry) ∈ entries →
    GivenOut control evidence.id ∧ Fate entries control evidence ∧
      ∀ {record}, control.records.get? evidence.id = some record → record.evidence = evidence

variable {entries : List ApprovalEntry} {control control' : ApprovalReviewControl} {now : Nat}

theorem chronicle_new : Chronicle [] new where
  accounted := accounted_new
  last_le := Nat.zero_le _
  clock := fun _ member => absurd member List.not_mem_nil
  origin := by simp [new]
  revoked := fun member => absurd member List.not_mem_nil
  revocation := by simp [new]
  issued := fun member => absurd member List.not_mem_nil

theorem Ended.append (ended : Ended entries evidence time) (more : List ApprovalEntry) :
    Ended (entries ++ more) evidence time := by
  rcases ended with expired | ⟨sample, revoker, member, le⟩
  · exact .inl expired
  · exact .inr ⟨sample, revoker, List.mem_append_left _ member, le⟩

variable {sample : UInt64}

theorem Origin.append (origin : Origin entries evidence sample review approver expiresAt)
    (more : List ApprovalEntry) :
    Origin (entries ++ more) evidence sample review approver expiresAt :=
  { origin with answered := List.mem_append_left _ origin.answered }

theorem Fate.append (fate : Fate entries control evidence)
    (more : List ApprovalEntry) : Fate (entries ++ more) control evidence :=
  fate.imp_right fun ⟨time, ended, rest⟩ => ⟨time, ended.append more, rest⟩

/-! ### One step -/

/-- The registry with a new latest time. -/
def withLast (control : ApprovalReviewControl) (time : Nat) : ApprovalReviewControl :=
  { control with lastAuthorityUnixSeconds := time }

/-- A later time changes nothing but the clock. -/
theorem Chronicle.tick (chronicle : Chronicle entries control)
    (later : control.lastAuthorityUnixSeconds ≤ time) (bounded : time ≤ u64Max) :
    Chronicle entries (control.withLast time) where
  accounted := { chronicle.accounted with }
  last_le := bounded
  clock entry member sampled found := (chronicle.clock entry member sampled found).trans later
  origin := chronicle.origin
  revoked := chronicle.revoked
  revocation := chronicle.revocation
  issued member := by
    obtain ⟨given, fate, same⟩ := chronicle.issued member
    refine ⟨given, ?_, same⟩
    rcases fate with live | ⟨sampled, ended, buried | day | last⟩
    · exact .inl live
    · exact .inr ⟨sampled, ended, .inl buried⟩
    · exact .inr ⟨sampled, ended, .inr (.inl (day.trans later))⟩
    · exact .inr ⟨sampled, ended, .inr (.inr (le_antisymm bounded (last.symm.trans_le later)))⟩

/-- An inactive record belongs to evidence that ended. -/
theorem Chronicle.ended (chronicle : Chronicle entries control)
    (found : control.records.get? evidenceId = some record)
    (inactive : record.isInactive control.lastAuthorityUnixSeconds = true) :
    Ended entries record.evidence control.lastAuthorityUnixSeconds := by
  rw [ApprovalRecord.isInactive, Bool.or_eq_true, decide_eq_true_eq] at inactive
  rcases inactive with revoked | expired
  · obtain ⟨sample, revoker, member⟩ := chronicle.revocation found revoked
    refine .inr ⟨sample, revoker, ?_, chronicle.clock _ member _ rfl⟩
    rwa [chronicle.accounted.id_eq found]
  · exact .inl expired

/-- A tombstone is forgotten a day after its request was retired, or at the end of time. -/
theorem day_of_isExpired {tombstone : ApprovalTombstone} (bounded : now ≤ u64Max)
    (expired : tombstone.isExpired now = true) :
    tombstone.retiredAtUnixSeconds + approvalTombstoneRetentionSeconds ≤ now ∨ now = u64Max := by
  rw [ApprovalTombstone.isExpired, saturatingAdd, decide_eq_true_eq] at expired
  omega

/-- Reclaiming at the latest time moves records to tombstones and forgets old tombstones. -/
theorem Chronicle.reclaim (chronicle : Chronicle entries control)
    (current : control.lastAuthorityUnixSeconds = now) :
    Chronicle entries (control.reclaimInactive now).2 := by
  have outcome := reclaimInactive_spec chronicle.accounted now
  have given : ∀ {evidenceId}, GivenOut control evidenceId →
      GivenOut (control.reclaimInactive now).2 evidenceId := by
    intro evidenceId
    unfold GivenOut
    rw [outcome.sequence]
    exact id
  refine
    { accounted := outcome.accounted
      last_le := outcome.last.trans_le chronicle.last_le
      clock := fun entry member time found =>
        (chronicle.clock entry member time found).trans outcome.last.ge
      origin := fun found => chronicle.origin (outcome.records found).1
      revoked := fun member => ?_
      revocation := fun found => chronicle.revocation (outcome.records found).1
      issued := fun member => ?_ }
  · obtain ⟨known, marked⟩ := chronicle.revoked member
    exact ⟨given known, fun found => marked (outcome.records found).1⟩
  · rename_i call evidence
    obtain ⟨known, fate, same⟩ := chronicle.issued member
    refine ⟨given known, ?_, fun found => same (outcome.records found).1⟩
    rcases fate with ⟨record, found⟩ | ⟨time, ended, ⟨tombstone, found, le⟩ | day⟩
    · cases remaining : (control.reclaimInactive now).2.records.get? evidence.id with
      | some record' => exact .inl ⟨record', remaining⟩
      | none =>
        -- the record was retired now, and its evidence has ended
        obtain ⟨inactive, tombstone, buried, retired⟩ := outcome.retired found remaining
        have own := same found
        rw [own] at buried
        have ended := chronicle.ended found (current ▸ inactive)
        rw [own, current] at ended
        exact .inr ⟨now, ended, .inl ⟨tombstone, buried, retired.ge⟩⟩
    · rcases outcome.tombstones found with kept | expired
      · exact .inr ⟨time, ended, .inl ⟨tombstone, kept, le⟩⟩
      · refine .inr ⟨time, ended, .inr ?_⟩
        rw [outcome.last, current]
        rcases day_of_isExpired (current ▸ chronicle.last_le) expired with day | last
        · exact .inl (by omega)
        · exact .inr last
    · refine .inr ⟨time, ended, .inr ?_⟩
      rwa [outcome.last]

theorem Chronicle.withSequence (chronicle : Chronicle entries control) {sequence : Nat}
    (grows : control.nextEvidenceSequence ≤ sequence) (bounded : sequence ≤ u64Max) :
    Chronicle entries { control with nextEvidenceSequence := sequence } := by
  have given : ∀ {evidenceId}, GivenOut control evidenceId →
      GivenOut { control with nextEvidenceSequence := sequence } evidenceId :=
    fun ⟨number, lt, named⟩ => ⟨number, lt.trans_le grows, named⟩
  exact
    { accounted := accounted_withSequence chronicle.accounted grows bounded
      last_le := chronicle.last_le
      clock := chronicle.clock
      origin := chronicle.origin
      revoked := fun member => (chronicle.revoked member).imp_left given
      revocation := chronicle.revocation
      issued := fun member => (chronicle.issued member).imp_left given }

/-- An entry that tells of nothing new. -/
theorem Chronicle.append (chronicle : Chronicle entries control) {entry : ApprovalEntry}
    (sampled : ∀ time, entry.1.sample = some time → time ≤ control.lastAuthorityUnixSeconds)
    (issues : ∀ evidence, entry.2 = .ok (.issued evidence) → ∃ record,
      control.records.get? evidence.id = some record ∧ record.evidence = evidence)
    (revokes : ∀ sample evidenceId revoker,
      entry = (.revoke sample evidenceId revoker, .ok .revoked) → ∃ record,
        control.records.get? evidenceId = some record ∧ record.revocation.isSome = true) :
    Chronicle (entries ++ [entry]) control where
  accounted := chronicle.accounted
  last_le := chronicle.last_le
  clock other member time found := by
    rcases List.mem_append.mp member with earlier | new
    · exact chronicle.clock other earlier time found
    · exact sampled time (List.mem_singleton.mp new ▸ found)
  origin found := by
    obtain ⟨sample, review, approver, expiresAt, origin⟩ := chronicle.origin found
    exact ⟨sample, review, approver, expiresAt, origin.append _⟩
  revoked member := by
    rcases List.mem_append.mp member with earlier | new
    · exact chronicle.revoked earlier
    · obtain ⟨record, found, marked⟩ := revokes _ _ _ (List.mem_singleton.mp new).symm
      refine ⟨chronicle.accounted.numbered found, fun found' => ?_⟩
      rw [found] at found'
      cases found'
      exact marked
  revocation found marked := by
    obtain ⟨sample, revoker, member⟩ := chronicle.revocation found marked
    exact ⟨sample, revoker, List.mem_append_left _ member⟩
  issued member := by
    rcases List.mem_append.mp member with earlier | new
    · obtain ⟨given, fate, same⟩ := chronicle.issued earlier
      exact ⟨given, fate.append _, same⟩
    · obtain ⟨record, found, own⟩ := issues _ (congrArg Prod.snd (List.mem_singleton.mp new)).symm
      refine ⟨chronicle.accounted.numbered found, .inl ⟨record, found⟩, fun found' => ?_⟩
      rw [found] at found'
      cases found'
      exact own

/-- A call that failed tells of nothing. -/
theorem Chronicle.append_error (chronicle : Chronicle entries control)
    {reason : ApprovalControlError}
    (sampled : ∀ time, call.sample = some time → time ≤ control.lastAuthorityUnixSeconds) :
    Chronicle (entries ++ [(call, .error reason)]) control := by
  apply chronicle.append sampled
  · intro evidence answered
    cases answered
  · intro sample evidenceId revoker same
    cases congrArg Prod.snd same

/-- New evidence gets a record, which stems from the entry that is appended. -/
theorem Chronicle.created (chronicle : Chronicle entries control) {accountedBytes : Nat}
    (current : control.lastAuthorityUnixSeconds = sample.toNat)
    (issued : evidence.issuedAtUnixSeconds = sample.toNat)
    (expires : evidence.expiresAtUnixSeconds = expiresAt.toNat)
    (issuable : Issuable control review approver evidence accountedBytes) :
    Chronicle (entries ++ [(.issue (some sample) evidence.requestId review approver expiresAt,
      .ok (.issued evidence))]) (control.withEvidence evidence accountedBytes) := by
  have fresh := chronicle.accounted.fresh issuable.id_eq
  have given : ∀ {evidenceId}, GivenOut control evidenceId →
      GivenOut (control.withEvidence evidence accountedBytes) evidenceId :=
    fun ⟨number, lt, named⟩ => ⟨number, Nat.lt_succ_of_lt lt, named⟩
  -- an identity that was given out is not the new one, so its record is what it was
  have older : ∀ {evidenceId}, GivenOut control evidenceId →
      (control.withEvidence evidence accountedBytes).records.get? evidenceId =
        control.records.get? evidenceId := by
    rintro evidenceId ⟨number, lt, named⟩
    have bounded := chronicle.accounted.sequence_le
    rw [withEvidence, BTreeMap.get?_insert, if_neg]
    rintro rfl
    have same := evidenceIdText_injective (by omega) bounded (named.symm.trans issuable.id_eq)
    omega
  refine
    { accounted := accounted_withEvidence chronicle.accounted issuable
      last_le := chronicle.last_le
      clock := ?_
      origin := ?_
      revoked := ?_
      revocation := ?_
      issued := ?_ }
  · intro entry member time found
    rcases List.mem_append.mp member with earlier | new
    · exact chronicle.clock entry earlier time found
    · rw [List.mem_singleton.mp new] at found
      cases found
      exact current.ge
  · intro evidenceId record found
    rw [withEvidence, BTreeMap.get?_insert] at found
    split at found
    · cases found
      exact ⟨sample, review, approver, expiresAt,
        List.mem_append_right _ List.mem_cons_self, issuable.required, issuable.binding,
        issuable.human, issuable.holds, issued, expires, issuable.later, issuable.short⟩
    · obtain ⟨sample', review', approver', expiresAt', origin⟩ := chronicle.origin found
      exact ⟨sample', review', approver', expiresAt', origin.append _⟩
  · intro sample' evidenceId revoker member
    rcases List.mem_append.mp member with earlier | new
    · obtain ⟨known, marked⟩ := chronicle.revoked earlier
      refine ⟨given known, fun found => marked ?_⟩
      rwa [older known] at found
    · cases congrArg Prod.fst (List.mem_singleton.mp new)
  · intro evidenceId record found marked
    rw [withEvidence, BTreeMap.get?_insert] at found
    split at found
    · cases found
      cases marked
    · obtain ⟨sample', revoker, member⟩ := chronicle.revocation found marked
      exact ⟨sample', revoker, List.mem_append_left _ member⟩
  · intro call evidence' member
    rcases List.mem_append.mp member with earlier | new
    · obtain ⟨known, fate, same⟩ := chronicle.issued earlier
      refine ⟨given known, ?_, fun found => same ?_⟩
      · rcases fate with ⟨record, found⟩ | ⟨time, ended, rest⟩
        · exact .inl ⟨record, (older known).trans found⟩
        · exact .inr ⟨time, ended.append _, rest⟩
      · rwa [older known] at found
    · cases congrArg Prod.snd (List.mem_singleton.mp new)
      refine ⟨⟨_, Nat.lt_succ_self _, issuable.id_eq⟩,
        .inl ⟨⟨evidence, none, accountedBytes⟩, ?_⟩, ?_⟩
      · simp [withEvidence]
      · intro record found
        rw [withEvidence, BTreeMap.get?_insert, if_pos rfl] at found
        cases found
        rfl

/-- A revocation marks a record, and stems from the entry that is appended. -/
theorem Chronicle.revoke (chronicle : Chronicle entries control)
    {revoker : PolicyAuthenticatedApprover}
    (current : control.lastAuthorityUnixSeconds = sample.toNat)
    (found : control.records.get? evidenceId = some record) :
    Chronicle (entries ++ [(.revoke (some sample) evidenceId revoker, .ok .revoked)]) { control with
        records := control.records.insert evidenceId
          { record with revocation := some ⟨revoker.principal, sample.toNat⟩ } } := by
  -- a lookup finds the evidence that it found before, and the record is either the old one or
  -- marked
  have lookup : ∀ {evidenceId' record'},
      (control.records.insert evidenceId { record with
        revocation := some ⟨revoker.principal, sample.toNat⟩ }).get? evidenceId' = some record' →
      ∃ record'', control.records.get? evidenceId' = some record'' ∧
        record''.evidence = record'.evidence ∧
        (record' = record'' ∨ evidenceId' = evidenceId ∧ record'.revocation.isSome = true) := by
    intro evidenceId' record' found'
    rw [BTreeMap.get?_insert] at found'
    split at found'
    · rename_i same
      cases found'
      exact ⟨record, same ▸ found, rfl, .inr ⟨same, rfl⟩⟩
    · exact ⟨record', found', rfl, .inl rfl⟩
  refine
    { accounted := accounted_revoked chronicle.accounted found _
      last_le := chronicle.last_le
      clock := ?_
      origin := ?_
      revoked := ?_
      revocation := ?_
      issued := ?_ }
  · intro entry member time sampled
    rcases List.mem_append.mp member with earlier | new
    · exact chronicle.clock entry earlier time sampled
    · rw [List.mem_singleton.mp new] at sampled
      cases sampled
      exact current.ge
  · intro evidenceId' record' found'
    obtain ⟨record'', found'', same, -⟩ := lookup found'
    obtain ⟨sample', review, approver, expiresAt, origin⟩ := chronicle.origin found''
    exact ⟨sample', review, approver, expiresAt, same ▸ origin.append _⟩
  · intro sample' evidenceId' revoker' member
    rcases List.mem_append.mp member with earlier | new
    · obtain ⟨known, marked⟩ := chronicle.revoked earlier
      refine ⟨known, fun found' => ?_⟩
      obtain ⟨record'', found'', -, unchanged | ⟨-, revoked⟩⟩ := lookup found'
      · exact unchanged ▸ marked found''
      · exact revoked
    · cases congrArg Prod.fst (List.mem_singleton.mp new)
      refine ⟨chronicle.accounted.numbered found, fun found' => ?_⟩
      rw [BTreeMap.get?_insert, if_pos rfl] at found'
      cases found'
      rfl
  · intro evidenceId' record' found' marked
    obtain ⟨record'', found'', -, unchanged | ⟨same, -⟩⟩ := lookup found'
    · obtain ⟨sample', revoker', member⟩ := chronicle.revocation found'' (unchanged ▸ marked)
      exact ⟨sample', revoker', List.mem_append_left _ member⟩
    · exact ⟨sample, revoker, same ▸ List.mem_append_right _ List.mem_cons_self⟩
  · intro call evidence member
    rcases List.mem_append.mp member with earlier | new
    · obtain ⟨known, fate, same⟩ := chronicle.issued earlier
      refine ⟨known, ?_, fun found' => ?_⟩
      · rcases fate with ⟨record', found'⟩ | ⟨time, ended, rest⟩
        · refine .inl ?_
          dsimp only
          rw [BTreeMap.get?_insert]
          split
          · exact ⟨_, rfl⟩
          · exact ⟨record', found'⟩
        · exact .inr ⟨time, ended.append _, rest⟩
      · obtain ⟨record'', found'', unchanged, -⟩ := lookup found'
        exact unchanged.symm.trans (same found'')
    · cases congrArg Prod.snd (List.mem_singleton.mp new)

/-! ### Calls -/

/-- A sample is refused, and at most the latest time changes, or it is the latest time now. -/
theorem authorityNow_spec (sample : Option UInt64) :
    (∃ reason time, control.authorityNowUnixSeconds (sample.map (·.toNat)) =
        (.error reason, { control with lastAuthorityUnixSeconds := time }) ∧
      control.lastAuthorityUnixSeconds ≤ time ∧
      (control.lastAuthorityUnixSeconds ≤ u64Max → time ≤ u64Max) ∧
      ∀ sampled, sample = some sampled → sampled.toNat ≤ time) ∨
    ∃ sampled, sample = some sampled ∧ control.lastAuthorityUnixSeconds ≤ sampled.toNat ∧
      control.authorityNowUnixSeconds (sample.map (·.toNat)) =
        (.ok sampled.toNat, { control with lastAuthorityUnixSeconds := sampled.toNat }) := by
  cases sample with
  | none => exact .inl ⟨.clockUnavailable, _, rfl, le_rfl, id, nofun⟩
  | some sampled =>
    simp only [authorityNowUnixSeconds, Option.map_some]
    by_cases back : sampled.toNat < control.lastAuthorityUnixSeconds
    · rw [if_pos back]
      refine .inl ⟨.clockRollback, _, rfl, le_max_left _ _, ?_, ?_⟩
      · intro bounded
        exact max_le bounded (back.le.trans bounded)
      · rintro _ ⟨⟩
        exact le_max_right _ _
    · rw [if_neg back, max_eq_right (not_lt.mp back)]
      exact .inr ⟨sampled, rfl, not_lt.mp back, rfl⟩

theorem toNat_le_u64Max (value : UInt64) : value.toNat ≤ u64Max := by
  have bound := value.toNat_lt
  unfold u64Max
  omega

/-- Everything that a call can do. -/
inductive CallOutcome (control : ApprovalReviewControl) :
    ApprovalCall → Except ApprovalControlError ApprovalResponse → ApprovalReviewControl → Prop
  | clock {call : ApprovalCall} (reason : ApprovalControlError) (time : Nat)
      (later : control.lastAuthorityUnixSeconds ≤ time)
      (bounded : control.lastAuthorityUnixSeconds ≤ u64Max → time ≤ u64Max)
      (sampled : ∀ sampled, call.sample = some sampled → sampled ≤ time) :
      CallOutcome control call (.error reason) (control.withLast time)
  | unreclaimed {sampled : UInt64} {requestId : ApprovalRequestId} {review : TrustedPolicyReview}
      {approver : PolicyAuthenticatedApprover} {expiresAt : UInt64} (reason : ApprovalControlError)
      (later : control.lastAuthorityUnixSeconds ≤ sampled.toNat)
      (failed : ((control.withLast sampled.toNat).reclaimInactive sampled.toNat).1 =
        .error reason) :
      CallOutcome control (.issue (some sampled) requestId review approver expiresAt)
        (.error reason)
        ((control.withLast sampled.toNat).reclaimInactive sampled.toNat).2
  | issue {sampled : UInt64} {requestId : ApprovalRequestId} {review : TrustedPolicyReview}
      {approver : PolicyAuthenticatedApprover} {expiresAt : UInt64}
      {result : Except ApprovalControlError PolicyApprovalEvidence}
      {control' : ApprovalReviewControl}
      (later : control.lastAuthorityUnixSeconds ≤ sampled.toNat)
      (succeeded : ((control.withLast sampled.toNat).reclaimInactive sampled.toNat).1 = .ok ())
      (outcome : IssueOutcome
        ((control.withLast sampled.toNat).reclaimInactive sampled.toNat).2 requestId
        review approver sampled.toNat expiresAt.toNat result control') :
      CallOutcome control (.issue (some sampled) requestId review approver expiresAt)
        (result.map .issued) control'
  | revoke {sampled : UInt64} {evidenceId : ApprovalEvidenceId}
      {revoker : PolicyAuthenticatedApprover}
      {result : Except ApprovalControlError Unit} {control' : ApprovalReviewControl}
      (later : control.lastAuthorityUnixSeconds ≤ sampled.toNat)
      (outcome : RevokeOutcome (control.withLast sampled.toNat) evidenceId revoker
        sampled.toNat result
        control') :
      CallOutcome control (.revoke (some sampled) evidenceId revoker)
        (result.map fun _ => .revoked) control'
  | validate {sampled : UInt64} {evidenceId : ApprovalEvidenceId} {review : TrustedPolicyReview}
      (later : control.lastAuthorityUnixSeconds ≤ sampled.toNat) :
      CallOutcome control (.validate (some sampled) evidenceId review)
        (.ok (.validated (control.validateAt evidenceId review sampled.toNat)))
        (control.withLast sampled.toNat)

variable {sample : Option UInt64}

theorem sampled_le (sampled : ∀ sampled, sample = some sampled → sampled.toNat ≤ time) :
    ∀ value, sample.map (·.toNat) = some value → value ≤ time := by
  intro value found
  obtain ⟨sampled', same, rfl⟩ := Option.map_eq_some_iff.mp found
  exact sampled sampled' same

/-- Everything that a call does. -/
theorem call_outcome (control : ApprovalReviewControl) (call : ApprovalCall) :
    CallOutcome control call (control.call call).1 (control.call call).2 := by
  cases call with
  | issue sample requestId review approver expiresAt =>
    simp only [ApprovalReviewControl.call, ApprovalReviewControl.issue]
    rcases @authorityNow_spec control sample with ⟨reason, time, refused, later, bounded, sampled⟩ |
      ⟨sampled, rfl, later, accepted⟩
    · rw [refused]
      exact .clock reason time later bounded (sampled_le sampled)
    · rw [accepted]
      rcases @issueAt_spec (control.withLast sampled.toNat) requestId review approver sampled.toNat
        expiresAt.toNat with ⟨reason, unreclaimed, failed⟩ | ⟨succeeded, outcome⟩
      · change CallOutcome control _
          (Prod.map _ _ (issueAt (control.withLast sampled.toNat) _ _ _ _ _)).1
          (Prod.map _ _ (issueAt (control.withLast sampled.toNat) _ _ _ _ _)).2
        rw [failed]
        exact .unreclaimed reason later unreclaimed
      · exact .issue later succeeded outcome
  | revoke sample evidenceId revoker =>
    simp only [ApprovalReviewControl.call, ApprovalReviewControl.revoke]
    rcases @authorityNow_spec control sample with ⟨reason, time, refused, later, bounded, sampled⟩ |
      ⟨sampled, rfl, later, accepted⟩
    · rw [refused]
      exact .clock reason time later bounded (sampled_le sampled)
    · rw [accepted]
      exact .revoke later (revokeAt_spec evidenceId revoker sampled.toNat)
  | validate sample evidenceId review =>
    simp only [ApprovalReviewControl.call, ApprovalReviewControl.validate]
    rcases @authorityNow_spec control sample with ⟨reason, time, refused, later, bounded, sampled⟩ |
      ⟨sampled, rfl, later, accepted⟩
    · rw [refused]
      exact .clock reason time later bounded (sampled_le sampled)
    · rw [accepted]
      exact .validate later

/-- Every call keeps the registry what the log makes of it. -/
theorem Chronicle.step (chronicle : Chronicle entries control) (call : ApprovalCall) :
    Chronicle (entries ++ [(call, (control.call call).1)]) (control.call call).2 := by
  have outcome := call_outcome control call
  generalize control.call call = answer at outcome ⊢
  obtain ⟨result, control'⟩ := answer
  dsimp only at outcome ⊢
  cases outcome with
  | clock reason time later bounded sampled =>
    exact (chronicle.tick later (bounded chronicle.last_le)).append_error sampled
  | @unreclaimed sampled requestId review approver expiresAt reason later failed =>
    have ticked := chronicle.tick later (toNat_le_u64Max sampled)
    refine (ticked.reclaim rfl).append_error ?_
    rintro _ ⟨⟩
    exact (reclaimInactive_spec ticked.accounted sampled.toNat).last.ge
  | @issue sampled requestId review approver expiresAt result _ later succeeded outcome =>
    have ticked := chronicle.tick later (toNat_le_u64Max sampled)
    have reclaimed := ticked.reclaim rfl
    have last := (reclaimInactive_spec ticked.accounted sampled.toNat).last
    have sampledNow : ∀ time, (ApprovalCall.issue (some sampled) requestId review approver
        expiresAt).sample = some time → time ≤ ((control.withLast sampled.toNat).reclaimInactive
          sampled.toNat).2.lastAuthorityUnixSeconds := by
      rintro _ ⟨⟩
      exact last.ge
    cases outcome with
    | refused reason sequence grows fits =>
      exact (reclaimed.withSequence grows (fits reclaimed.accounted.sequence_le)).append_error
        sampledNow
    | existing evidenceId record mapped found same =>
      refine reclaimed.append sampledNow ?_ ?_
      · rintro evidence ⟨⟩
        exact ⟨record, (reclaimed.accounted.id_eq found).symm ▸ found, rfl⟩
      · intro sample evidenceId revoker same
        cases congrArg Prod.snd same
    | created evidence accountedBytes own issued expires issuable =>
      subst own
      exact reclaimed.created last issued expires issuable
  | @revoke sampled evidenceId revoker result _ later outcome =>
    have ticked := chronicle.tick later (toNat_le_u64Max sampled)
    have sampledNow : ∀ time, (ApprovalCall.revoke (some sampled) evidenceId revoker).sample =
        some time → time ≤ sampled.toNat := by
      rintro _ ⟨⟩
      exact le_rfl
    cases outcome with
    | refused reason => exact ticked.append_error sampledNow
    | again record found revoked =>
      refine ticked.append sampledNow ?_ ?_
      · rintro evidence ⟨⟩
      · rintro _ _ _ ⟨⟩
        exact ⟨record, found, revoked⟩
    | revoked record found live => exact ticked.revoke rfl found
  | @validate sampled evidenceId review later =>
    refine (chronicle.tick later (toNat_le_u64Max sampled)).append ?_ ?_ ?_
    · rintro _ ⟨⟩
      exact le_rfl
    · rintro evidence ⟨⟩
    · intro sample evidenceId' revoker same
      cases congrArg Prod.snd same

/-- The registry after a run is what the log of the run makes of it. -/
theorem chronicle_run : Chronicle (log calls) (run calls) := by
  induction calls using List.reverseRecOn with
  | nil => exact chronicle_new
  | append_singleton calls call ih =>
    rw [log_concat, run_concat]
    exact ih.step call

/-! ### What holds of every run -/

theorem mem_log_append (later : List ApprovalCall) {entry : ApprovalEntry}
    (member : entry ∈ log calls) : entry ∈ log (calls ++ later) := by
  rw [log, answers_append]
  exact List.mem_append_left _ member

/-- An answer is in the log of the run. -/
theorem answer_mem_log (earlier : List ApprovalCall) (call : ApprovalCall)
    (later : List ApprovalCall) :
    (call, ((run earlier).call call).1) ∈ log (earlier ++ call :: later) := by
  rw [List.append_cons]
  apply mem_log_append
  rw [log_concat]
  exact List.mem_append_right _ List.mem_cons_self

/-- Evidence is issued by an issue whose reclaiming succeeded. -/
theorem exists_issueOutcome (answered : (control.call call).1 = .ok (.issued evidence)) :
    ∃ sampled requestId review approver expiresAt control',
      call = .issue (some sampled) requestId review approver expiresAt ∧
      control.lastAuthorityUnixSeconds ≤ sampled.toNat ∧
      ((control.withLast sampled.toNat).reclaimInactive sampled.toNat).1 = .ok () ∧
      IssueOutcome ((control.withLast sampled.toNat).reclaimInactive sampled.toNat).2 requestId
        review approver sampled.toNat expiresAt.toNat (.ok evidence) control' := by
  have outcome := call_outcome control call
  rw [answered] at outcome
  generalize (control.call call).2 = control' at outcome
  generalize answer :
    (Except.ok (.issued evidence) : Except ApprovalControlError ApprovalResponse) =
    result at outcome
  cases outcome with
  | clock | unreclaimed | validate => cases answer
  | @revoke _ _ _ result => cases result <;> cases answer
  | @issue _ _ _ _ _ result _ later succeeded outcome =>
    cases result with
    | error reason => cases answer
    | ok issued =>
      cases answer
      exact ⟨_, _, _, _, _, _, rfl, later, succeeded, outcome⟩

/-- Issued evidence names the request it was issued for. -/
theorem requestId_of_issued (accounted : Accounted control) {requestId : ApprovalRequestId}
    (answered : (control.call (.issue sample requestId review approver expiresAt)).1 =
      .ok (.issued evidence)) : evidence.requestId = requestId := by
  obtain ⟨sampled, _, _, _, _, _, same, -, -, outcome⟩ := exists_issueOutcome answered
  cases same
  have reclaimed := (@reclaimInactive_spec (control.withLast sampled.toNat)
    { accounted with } sampled.toNat).accounted
  cases outcome with
  | existing evidenceId record mapped found same =>
    obtain ⟨record', found', own⟩ := (reclaimed.requests_iff _ _).mp mapped
    rw [found] at found'
    cases found'
    exact own
  | created _ accountedBytes own => exact own

/-- What a satisfied validation says about the registry. -/
theorem satisfied_spec (answered : (control.call (.validate sample evidenceId review)).1 =
      .ok (.validated .satisfied)) :
    ∃ sampled record, sample = some sampled ∧
      control.lastAuthorityUnixSeconds ≤ sampled.toNat ∧
      control.records.get? evidenceId = some record ∧ record.revocation = none ∧
      requiredApprovalClass review = .ok record.evidence.requirement.approvalClass ∧
      record.evidence.requirement.binding = review.evaluation ∧
      record.evidence.issuedAtUnixSeconds ≤ sampled.toNat ∧
      sampled.toNat < record.evidence.expiresAtUnixSeconds := by
  have outcome := call_outcome control (.validate sample evidenceId review)
  rw [answered] at outcome
  generalize (control.call (.validate sample evidenceId review)).2 = control' at outcome
  generalize answer : (Except.ok (.validated .satisfied) :
    Except ApprovalControlError ApprovalResponse) = result at outcome
  cases outcome with
  | clock => cases answer
  | @validate sampled _ _ later =>
    injection answer with answer
    injection answer with verdict
    unfold validateAt at verdict
    cases found : control.records.get? evidenceId with
    | none =>
      rw [found] at verdict
      cases verdict
    | some record =>
      simp only [found, validatePolicyApproval] at verdict
      cases required : requiredApprovalClass review with
      | error reason =>
        rw [required] at verdict
        cases verdict
      | ok approvalClass =>
        rw [required] at verdict
        obtain ⟨requirement, issued, expires, live⟩ := validateApproval_eq_satisfied verdict.symm
        exact ⟨sampled, record, rfl, later, rfl, live, by rw [requirement], by rw [requirement],
          issued, expires⟩

/-- Whether an issue finds no record of its request, once the inactive ones are reclaimed, and so
makes a new one when it succeeds. -/
def createsRecord (control : ApprovalReviewControl) : ApprovalCall → Bool
  | .issue (some sampled) requestId _ _ _ =>
    (((control.withLast sampled.toNat).reclaimInactive sampled.toNat).2.requests.get?
      requestId).isNone
  | _ => false

/-- A new record has the next number. -/
theorem id_of_createsRecord (accounted : Accounted control)
    (creates : control.createsRecord call = true)
    (answered : (control.call call).1 = .ok (.issued evidence)) :
    evidence.id.value = evidenceIdText control.nextEvidenceSequence := by
  obtain ⟨sampled, _, _, _, _, _, rfl, -, -, outcome⟩ := exists_issueOutcome answered
  have reclaimed := @reclaimInactive_spec (control.withLast sampled.toNat)
    { accounted with } sampled.toNat
  cases outcome with
  | existing evidenceId record mapped =>
    -- the request had a record, so nothing was created
    simp only [createsRecord, mapped] at creates
    cases creates
  | created _ accountedBytes own issued expires issuable =>
    rw [issuable.id_eq, reclaimed.sequence]
    rfl

/-- In every run, a validation is satisfied only by evidence that a call before it issued to a human
approver for the same evaluation and class, within its time, and that no call revoked; what was
revoked or was seen to expire is never satisfied again; and new records have new identities. -/
theorem run_approval_sound (earlier : List ApprovalCall) :
    (∀ sample evidenceId review,
      ((run earlier).call (.validate sample evidenceId review)).1 = .ok (.validated .satisfied) →
      ∃ now evidence issuedAt reviewed approver expiresAt, sample = some now ∧
      evidence.id = evidenceId ∧
        Origin (log earlier) evidence issuedAt reviewed approver expiresAt ∧
        reviewed.evaluation = review.evaluation ∧
        requiredApprovalClass reviewed = requiredApprovalClass review ∧
        evidence.issuedAtUnixSeconds ≤ now.toNat ∧ now.toNat < evidence.expiresAtUnixSeconds ∧
        ∀ revokedAt revoker,
        ((.revoke revokedAt evidenceId revoker, .ok .revoked) : ApprovalEntry) ∉
          log earlier) ∧
    (∀ revokedAt evidenceId revoker,
      ((.revoke revokedAt evidenceId revoker, .ok .revoked) : ApprovalEntry) ∈ log earlier →
      ∀ sample review, ((run earlier).call (.validate sample evidenceId review)).1 ≠
        .ok (.validated .satisfied)) ∧
    (∀ call evidence, ((call, .ok (.issued evidence)) : ApprovalEntry) ∈ log earlier →
      ∀ entry ∈ log earlier, ∀ time, entry.1.sample = some time →
      evidence.expiresAtUnixSeconds ≤ time →
      ∀ sample review, ((run earlier).call (.validate sample evidence.id review)).1 ≠
        .ok (.validated .satisfied)) ∧
    (∀ call between later evidence evidence',
      (run earlier).createsRecord call = true →
      ((run earlier).call call).1 = .ok (.issued evidence) →
      (run (earlier ++ call :: between)).createsRecord later = true →
      ((run (earlier ++ call :: between)).call later).1 = .ok (.issued evidence') →
      evidence.id ≠ evidence'.id) := by
  have chronicle := chronicle_run earlier
  refine ⟨?_, ?_, ?_, ?_⟩
  · intro sample evidenceId review answered
    obtain ⟨now, record, rfl, later, found, live, required, binding, issued, expires⟩ :=
      satisfied_spec answered
    obtain ⟨issuedAt, reviewed, approver, expiresAt, origin⟩ := chronicle.origin found
    refine ⟨now, record.evidence, issuedAt, reviewed, approver, expiresAt, rfl,
      chronicle.accounted.id_eq found, origin, origin.binding.symm.trans binding,
      origin.required.trans required.symm, issued, expires, ?_⟩
    intro revokedAt revoker member
    have marked := (chronicle.revoked member).2 found
    rw [live] at marked
    cases marked
  · intro revokedAt evidenceId revoker member sample review answered
    obtain ⟨now, record, -, -, found, live, -⟩ := satisfied_spec answered
    have marked := (chronicle.revoked member).2 found
    rw [live] at marked
    cases marked
  · intro call evidence member entry entryMember time sampled expired sample review answered
    obtain ⟨now, record, -, later, found, -, -, -, -, expires⟩ := satisfied_spec answered
    rw [(chronicle.issued member).2.2 found] at expires
    have seen := chronicle.clock entry entryMember time sampled
    omega
  · intro call between later evidence evidence' creates answered creates' answered' same
    -- the first identity has been given out, the second is the next number
    have chronicle' := chronicle_run (earlier ++ call :: between)
    have member := answer_mem_log earlier call between
    rw [answered] at member
    obtain ⟨⟨number, lt, named⟩, -⟩ := chronicle'.issued member
    have next := id_of_createsRecord chronicle'.accounted creates' answered'
    have bounded := chronicle'.accounted.sequence_le
    rw [same] at named
    have := evidenceIdText_injective (by omega) bounded (named.symm.trans next)
    omega

/-- A call that fails keeps every record that is still active, and its request. -/
theorem active_of_error (accounted : Accounted control)
    {reason : ApprovalControlError} (failed : (control.call call).1 = .error reason)
    (found : control.records.get? evidenceId = some record)
    (active : ∀ time, call.sample = some time → record.isInactive time = false) :
    (control.call call).2.records.get? evidenceId = some record ∧
      (control.call call).2.requests.get? record.evidence.requestId = some evidenceId := by
  have requested : control.requests.get? record.evidence.requestId = some evidenceId :=
    (accounted.requests_iff _ _).mpr ⟨record, found, rfl⟩
  have outcome := call_outcome control call
  rw [failed] at outcome
  generalize (control.call call).2 = control' at outcome ⊢
  generalize answer : (Except.error reason : Except ApprovalControlError ApprovalResponse) =
    result at outcome
  -- what reclaiming keeps, in the two cases of an issue
  have kept : ∀ sampled : UInt64, call.sample = some sampled.toNat →
      ((control.withLast sampled.toNat).reclaimInactive sampled.toNat).2.records.get? evidenceId =
        some record ∧
      ((control.withLast sampled.toNat).reclaimInactive sampled.toNat).2.requests.get?
        record.evidence.requestId = some evidenceId := by
    intro sampled same
    have reclaimed := @reclaimInactive_spec (control.withLast sampled.toNat)
      { accounted with } sampled.toNat
    have remains := reclaimed.active found (active _ same)
    exact ⟨remains, (reclaimed.accounted.requests_iff _ _).mpr ⟨record, remains, rfl⟩⟩
  cases outcome with
  | clock => exact ⟨found, requested⟩
  | unreclaimed => exact kept _ rfl
  | validate => cases answer
  | @revoke _ _ _ result _ _ outcome =>
    cases outcome with
    | refused => exact ⟨found, requested⟩
    | again | revoked => cases answer
  | @issue sampled _ _ _ _ result _ later succeeded outcome =>
    cases outcome with
    | refused => exact kept _ rfl
    | existing | created => cases answer

/-- A request that has evidence gets other evidence only a day after the first one ended. -/
theorem Chronicle.reissued (chronicle : Chronicle entries control)
    {evidence evidence' : PolicyApprovalEvidence} {sampled : UInt64}
    (member : ((call, .ok (.issued evidence)) : ApprovalEntry) ∈ entries)
    (answered :
      (control.call (.issue (some sampled) evidence.requestId review approver expiresAt)).1 =
      .ok (.issued evidence')) (other : evidence.id ≠ evidence'.id) :
    ∃ time, Ended entries evidence time ∧
      time + approvalTombstoneRetentionSeconds ≤ sampled.toNat := by
  obtain ⟨sampled, _, _, _, _, _, same, later, succeeded, outcome⟩ := exists_issueOutcome answered
  cases same
  have ticked := chronicle.tick later (toNat_le_u64Max sampled)
  have reclaimed : Chronicle entries
      ((control.withLast sampled.toNat).reclaimInactive sampled.toNat).2 := ticked.reclaim rfl
  have spec := reclaimInactive_spec ticked.accounted sampled.toNat
  obtain ⟨-, fate, same⟩ := reclaimed.issued member
  have bounded := toNat_le_u64Max expiresAt
  -- the request has other evidence now, which has not expired yet, and no tombstone
  have present : (∀ record, ((control.withLast sampled.toNat).reclaimInactive
        sampled.toNat).2.records.get? evidence.id ≠ some record) ∧
      (∀ tombstone, ((control.withLast sampled.toNat).reclaimInactive
        sampled.toNat).2.tombstones.get? evidence.requestId ≠ some tombstone) ∧
      sampled.toNat < expiresAt.toNat := by
    cases outcome with
    | existing evidenceId record mapped found expires =>
      obtain ⟨record'', found'', own⟩ := (reclaimed.accounted.requests_iff _ _).mp mapped
      rw [found] at found''
      cases found''
      refine ⟨?_, ?_, ?_⟩
      · intro record' found'
        apply other
        rw [reclaimed.accounted.id_eq found]
        apply reclaimed.accounted.eq_of_requestId found' found
        rw [same found', own]
      · intro tombstone buried
        cases (reclaimed.accounted.apart mapped).symm.trans buried
      · have active := (spec.records found).2 succeeded
        rw [ApprovalRecord.isInactive, Bool.or_eq_false_iff, decide_eq_false_iff_not] at active
        omega
    | created _ accountedBytes own issued expires issuable =>
      refine ⟨?_, ?_, ?_⟩
      · intro record' found'
        have mapped := (reclaimed.accounted.requests_iff _ _).mpr ⟨record', found', rfl⟩
        rw [same found', ← own, issuable.unused] at mapped
        cases mapped
      · intro tombstone buried
        rw [← own, issuable.unburied] at buried
        cases buried
      · have later := issuable.later
        omega
  obtain ⟨unrecorded, unburied, early⟩ := present
  rcases fate with ⟨record, found⟩ | ⟨time, ended, ⟨tombstone, buried, -⟩ | day | last⟩
  · exact absurd found (unrecorded record)
  · exact absurd buried (unburied tombstone)
  · exact ⟨time, ended, day.trans_eq spec.last⟩
  · have current : sampled.toNat = u64Max := spec.last.symm.trans last
    omega

/-- In every reachable registry the four collections and both byte counters agree and are bounded, a
call that fails keeps the active records, and a request gets other evidence only a day after its
first evidence expired or was revoked. -/
theorem run_approval_accounts :
    (∀ requestId evidenceId, (run calls).requests.get? requestId = some evidenceId ↔
      ∃ record, (run calls).records.get? evidenceId = some record ∧
        record.evidence.requestId = requestId) ∧
    (∀ requestId evidenceId, (run calls).requests.get? requestId = some evidenceId →
      (run calls).tombstones.get? requestId = none) ∧
    (run calls).totalAccountedBytes = (run calls).records.total (·.accountedBytes) ∧
    (run calls).tombstoneAccountedBytes = (run calls).tombstones.total (·.accountedBytes) ∧
    (run calls).records.len ≤ 256 ∧ (run calls).tombstones.len ≤ 4096 ∧
    (run calls).totalAccountedBytes ≤ maxApprovalTotalBytes ∧
    (run calls).tombstoneAccountedBytes ≤ maxApprovalTombstoneBytes ∧
    (∀ call reason, ((run calls).call call).1 = .error reason →
      ∀ evidenceId record, (run calls).records.get? evidenceId = some record →
      (∀ time, call.sample = some time → record.isInactive time = false) →
      ((run calls).call call).2.records.get? evidenceId = some record ∧
        ((run calls).call call).2.requests.get? record.evidence.requestId = some evidenceId) ∧
    (∀ sample requestId review approver expiresAt evidence between,
      ((run calls).call (.issue sample requestId review approver expiresAt)).1 =
        .ok (.issued evidence) →
      ∀ sampled review' approver' expiresAt' evidence',
      ((run (calls ++ .issue sample requestId review approver expiresAt :: between)).call
        (.issue (some sampled) requestId review' approver' expiresAt')).1 =
          .ok (.issued evidence') →
      evidence.id ≠ evidence'.id →
      evidence.expiresAtUnixSeconds + 86400 ≤ sampled.toNat ∨
        ∃ revokedAt revoker,
          ((.revoke (some revokedAt) evidence.id revoker, .ok .revoked) : ApprovalEntry) ∈
            log (calls ++ .issue sample requestId review approver expiresAt :: between) ∧
          revokedAt.toNat + 86400 ≤ sampled.toNat) := by
  have accounted := (chronicle_run calls).accounted
  refine ⟨accounted.requests_iff, fun _ _ => accounted.apart, accounted.total,
    accounted.tombstoneTotal, accounted.records_len, accounted.tombstones_len, accounted.total_le,
    accounted.tombstoneTotal_le, ?_, ?_⟩
  · intro call reason failed evidenceId record found active
    exact active_of_error accounted failed found active
  · intro sample requestId review approver expiresAt evidence between answered
      sampled review' approver' expiresAt' evidence' answered' other
    have member := answer_mem_log calls (.issue sample requestId review approver expiresAt) between
    rw [answered] at member
    obtain rfl := requestId_of_issued accounted answered
    obtain ⟨time, ended, day⟩ := (chronicle_run _).reissued member answered' other
    simp only [approvalTombstoneRetentionSeconds, maxApprovalTtlSeconds] at day
    rcases ended with expired | ⟨revokedAt, revoker, revoked, le⟩
    · exact .inl (by omega)
    · exact .inr ⟨revokedAt, revoker, revoked, by omega⟩

end ApprovalReviewControl

end Linura.Control
