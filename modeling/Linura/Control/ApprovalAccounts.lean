import Linura.Control.ApprovalReview
import Linura.Lib.Except

/-!
# The accounts of the approval registry

The four collections of the registry agree with each other and with the two byte
counters, and each stays within its bound.  Pruning, reclaiming, issuing and revoking
keep that, whether they succeed or not, and this file says for each of them what it
does to a record and to a tombstone.
-/

namespace Linura.Control

open Linura.Lib Linura.Core Linura.Policy

namespace ApprovalReviewControl

/-- The collections agree, the counters are exact, and everything is within its bound. -/
structure Accounted (control : ApprovalReviewControl) : Prop where
  requests_iff : ∀ requestId evidenceId, control.requests.get? requestId = some evidenceId ↔
    ∃ record, control.records.get? evidenceId = some record ∧ record.evidence.requestId = requestId
  id_eq : ∀ {evidenceId record}, control.records.get? evidenceId = some record →
    record.evidence.id = evidenceId
  apart : ∀ {requestId evidenceId}, control.requests.get? requestId = some evidenceId →
    control.tombstones.get? requestId = none
  total : control.totalAccountedBytes = control.records.total (·.accountedBytes)
  tombstoneTotal : control.tombstoneAccountedBytes = control.tombstones.total (·.accountedBytes)
  records_len : control.records.len ≤ maxApprovalEntries
  total_le : control.totalAccountedBytes ≤ maxApprovalTotalBytes
  tombstones_len : control.tombstones.len ≤ maxApprovalTombstones
  tombstoneTotal_le : control.tombstoneAccountedBytes ≤ maxApprovalTombstoneBytes
  numbered : ∀ {evidenceId record}, control.records.get? evidenceId = some record →
    ∃ sequence < control.nextEvidenceSequence, evidenceId.value = evidenceIdText sequence
  sequence_le : control.nextEvidenceSequence ≤ u64Max

variable {control control' : ApprovalReviewControl} {now : Nat}

theorem accounted_new : Accounted new where
  requests_iff := by simp [new]
  id_eq := by simp [new]
  apart := by simp [new]
  total := rfl
  tombstoneTotal := rfl
  records_len := Nat.zero_le _
  total_le := Nat.zero_le _
  tombstones_len := Nat.zero_le _
  tombstoneTotal_le := Nat.zero_le _
  numbered := by simp [new]
  sequence_le := Nat.zero_le _

variable {evidenceId : ApprovalEvidenceId} {record : ApprovalRecord}

/-- The evidence of a request is unique. -/
theorem Accounted.eq_of_requestId (accounted : Accounted control) {evidenceId' : ApprovalEvidenceId}
    {record' : ApprovalRecord} (found : control.records.get? evidenceId = some record)
    (found' : control.records.get? evidenceId' = some record')
    (same : record.evidence.requestId = record'.evidence.requestId) : evidenceId = evidenceId' := by
  have first := (accounted.requests_iff _ _).mpr ⟨record, found, rfl⟩
  have second := (accounted.requests_iff _ _).mpr ⟨record', found', same.symm⟩
  exact Option.some.inj (first.symm.trans second)

/-! ### Pruning -/

theorem removeTombstone_eq (accounted : Accounted control) (requestId : ApprovalRequestId) :
    control.removeTombstone requestId =
      { control with
        tombstones := control.tombstones.remove requestId
        tombstoneAccountedBytes :=
          (control.tombstones.remove requestId).total (·.accountedBytes) } := by
  unfold removeTombstone
  split
  · rename_i tombstone found
    have exact := BTreeMap.total_eq_add_remove (·.accountedBytes) found
    rw [accounted.tombstoneTotal, exact, saturatingSub, Nat.add_sub_cancel_left]
  · rename_i missing
    rw [BTreeMap.remove_eq_self missing, ← accounted.tombstoneTotal]

/-- Without a tombstone a registry stays accounted for. -/
theorem accounted_removeTombstone (accounted : Accounted control) (requestId : ApprovalRequestId) :
    Accounted (control.removeTombstone requestId) := by
  rw [removeTombstone_eq accounted]
  have fewer : (control.tombstones.remove requestId).total (·.accountedBytes) ≤
      control.tombstones.total (·.accountedBytes) := by
    cases found : control.tombstones.get? requestId with
    | none => rw [BTreeMap.remove_eq_self found]
    | some tombstone =>
      rw [BTreeMap.total_eq_add_remove _ found]
      exact Nat.le_add_left _ _
  exact
    { requests_iff := accounted.requests_iff
      id_eq := accounted.id_eq
      apart := by
        intro requestId' evidenceId mapped
        simp [accounted.apart mapped]
      total := accounted.total
      tombstoneTotal := rfl
      records_len := accounted.records_len
      total_le := accounted.total_le
      tombstones_len := (List.length_filter_le _ _).trans accounted.tombstones_len
      tombstoneTotal_le :=
        (fewer.trans accounted.tombstoneTotal.ge).trans accounted.tombstoneTotal_le
      numbered := accounted.numbered
      sequence_le := accounted.sequence_le }

/-- What pruning leaves alone. -/
structure SameRecords (control control' : ApprovalReviewControl) : Prop where
  records : control'.records = control.records
  requests : control'.requests = control.requests
  sequence : control'.nextEvidenceSequence = control.nextEvidenceSequence
  last : control'.lastAuthorityUnixSeconds = control.lastAuthorityUnixSeconds

theorem SameRecords.trans {middle : ApprovalReviewControl} (first : SameRecords control middle)
    (second : SameRecords middle control') : SameRecords control control' where
  records := second.records.trans first.records
  requests := second.requests.trans first.requests
  sequence := second.sequence.trans first.sequence
  last := second.last.trans first.last

theorem sameRecords_removeTombstone (accounted : Accounted control)
    (requestId : ApprovalRequestId) :
    SameRecords control (control.removeTombstone requestId) := by
  rw [removeTombstone_eq accounted]
  exact ⟨rfl, rfl, rfl, rfl⟩

/-- Pruning removes the expired tombstones and keeps the records. -/
theorem foldl_removeTombstone (expired : List ApprovalRequestId) (accounted : Accounted control) :
    Accounted (expired.foldl removeTombstone control) ∧
      SameRecords control (expired.foldl removeTombstone control) ∧
      ∀ requestId, (expired.foldl removeTombstone control).tombstones.get? requestId =
        if requestId ∈ expired then none else control.tombstones.get? requestId := by
  induction expired generalizing control with
  | nil => exact ⟨accounted, ⟨rfl, rfl, rfl, rfl⟩, fun _ => by simp⟩
  | cons first rest ih =>
    obtain ⟨kept, same, lookups⟩ := ih (accounted_removeTombstone accounted first)
    refine ⟨kept, (sameRecords_removeTombstone accounted first).trans same, ?_⟩
    intro requestId
    refine (lookups requestId).trans ?_
    rw [removeTombstone_eq accounted, BTreeMap.get?_remove]
    by_cases head : requestId = first
    · simp [head]
    · simp [head]

/-- Pruning forgets exactly the tombstones that were kept long enough. -/
theorem pruneTombstones_spec (accounted : Accounted control) (now : Nat) :
    Accounted (control.pruneTombstones now) ∧ SameRecords control (control.pruneTombstones now) ∧
      ∀ requestId, (control.pruneTombstones now).tombstones.get? requestId =
        (control.tombstones.get? requestId).filter fun tombstone => !tombstone.isExpired now := by
  obtain ⟨kept, same, lookups⟩ := foldl_removeTombstone
    ((control.tombstones.entries.filter fun entry => entry.2.isExpired now).map Prod.fst) accounted
  refine ⟨kept, same, ?_⟩
  intro requestId
  refine (lookups requestId).trans ?_
  have listed : requestId ∈ (control.tombstones.entries.filter fun entry =>
      entry.2.isExpired now).map Prod.fst ↔
        ∃ tombstone, control.tombstones.get? requestId = some tombstone ∧
          tombstone.isExpired now = true := by
    simp [BTreeMap.mem_entries_iff]
  cases found : control.tombstones.get? requestId with
  | none => simp
  | some tombstone =>
    rw [Option.filter_some]
    cases expired : tombstone.isExpired now with
    | true =>
      rw [if_pos (listed.mpr ⟨tombstone, found, expired⟩)]
      simp
    | false =>
      have unlisted : requestId ∉ (control.tombstones.entries.filter fun entry =>
          entry.2.isExpired now).map Prod.fst := by
        intro member
        obtain ⟨other, found', expired'⟩ := listed.mp member
        rw [found] at found'
        cases found'
        rw [expired] at expired'
        cases expired'
      rw [if_neg unlisted]
      simp

/-! ### Reclaiming -/

variable {requestId : ApprovalRequestId}

/-- What retiring a record does. -/
theorem retire_eq (now : Nat) {bytes : Nat}
    (found : control.records.get? evidenceId = some record) :
    control.retire now (evidenceId, requestId, bytes) =
      { control with
        records := control.records.remove evidenceId
        requests := control.requests.remove requestId
        totalAccountedBytes := control.totalAccountedBytes - record.accountedBytes
        tombstones := control.tombstones.insert requestId ⟨now, bytes⟩
        tombstoneAccountedBytes := saturatingAdd control.tombstoneAccountedBytes bytes } := by
  simp only [retire, found, saturatingSub]

/-- Retiring a record buries its request. -/
theorem accounted_retire (accounted : Accounted control) {bytes : Nat}
    (found : control.records.get? evidenceId = some record)
    (own : record.evidence.requestId = requestId)
    (few : control.tombstones.len + 1 ≤ maxApprovalTombstones)
    (small : control.tombstoneAccountedBytes + bytes ≤ maxApprovalTombstoneBytes) :
    Accounted (control.retire now (evidenceId, requestId, bytes)) := by
  have mapped := (accounted.requests_iff requestId evidenceId).mpr ⟨record, found, own⟩
  have fresh := accounted.apart mapped
  have fits : maxApprovalTombstoneBytes ≤ u64Max := by decide
  have exact : control.records.total (·.accountedBytes) = record.accountedBytes +
      (control.records.remove evidenceId).total (·.accountedBytes) :=
    BTreeMap.total_eq_add_remove _ found
  have grown : saturatingAdd control.tombstoneAccountedBytes bytes =
      control.tombstoneAccountedBytes + bytes := min_eq_left (by omega)
  rw [retire_eq now found, grown]
  refine
    { requests_iff := ?_
      id_eq := ?_
      apart := ?_
      total := ?_
      tombstoneTotal := ?_
      records_len := (List.length_filter_le _ _).trans accounted.records_len
      total_le := (Nat.sub_le _ _).trans accounted.total_le
      tombstones_len := ?_
      tombstoneTotal_le := small
      numbered := ?_
      sequence_le := accounted.sequence_le }
  · intro requestId' evidenceId'
    simp only [BTreeMap.get?_remove]
    by_cases other : requestId' = requestId
    · -- the request of the retired record has no other record
      rw [if_pos other]
      constructor
      · exact nofun
      · rintro ⟨record', found', own'⟩
        by_cases same : evidenceId' = evidenceId
        · rw [if_pos same] at found'
          cases found'
        · rw [if_neg same] at found'
          exact absurd
            (accounted.eq_of_requestId found' found (own'.trans (other.trans own.symm))) same
    · rw [if_neg other, accounted.requests_iff]
      constructor
      · rintro ⟨record', found', own'⟩
        have different : evidenceId' ≠ evidenceId := by
          rintro rfl
          rw [found] at found'
          cases found'
          exact other (own'.symm.trans own)
        exact ⟨record', by rw [if_neg different]; exact found', own'⟩
      · rintro ⟨record', found', own'⟩
        split at found'
        · cases found'
        · exact ⟨record', found', own'⟩
  · intro evidenceId' record' found'
    rw [BTreeMap.get?_remove] at found'
    split at found'
    · cases found'
    · exact accounted.id_eq found'
  · intro requestId' evidenceId' mapped'
    rw [BTreeMap.get?_remove] at mapped'
    split at mapped'
    · cases mapped'
    · rename_i other
      rw [BTreeMap.get?_insert, if_neg other]
      exact accounted.apart mapped'
  · rw [accounted.total, exact, Nat.add_sub_cancel_left]
  · rw [BTreeMap.total_insert_of_fresh _ _ fresh, accounted.tombstoneTotal, Nat.add_comm]
  · rw [BTreeMap.len_eq_total, BTreeMap.total_insert_of_fresh _ _ fresh, ← BTreeMap.len_eq_total]
    omega
  · intro evidenceId' record' found'
    rw [BTreeMap.get?_remove] at found'
    split at found'
    · cases found'
    · exact accounted.numbered found'

/-- What reclaiming does to the records of some evidence: they make room for tombstones. -/
structure Reclaimed (now : Nat) (retired : List (ApprovalEvidenceId × ApprovalRequestId × Nat))
    (control control' : ApprovalReviewControl) : Prop where
  accounted : Accounted control'
  records : ∀ evidenceId, control'.records.get? evidenceId =
    if evidenceId ∈ retired.map (·.1) then none else control.records.get? evidenceId
  buried : ∀ requestId ∈ retired.map (·.2.1), ∃ tombstone,
    control'.tombstones.get? requestId = some tombstone ∧ tombstone.retiredAtUnixSeconds = now
  unburied : ∀ requestId, requestId ∉ retired.map (·.2.1) →
    control'.tombstones.get? requestId = control.tombstones.get? requestId
  sequence : control'.nextEvidenceSequence = control.nextEvidenceSequence
  last : control'.lastAuthorityUnixSeconds = control.lastAuthorityUnixSeconds

/-- The loop of `reclaim_inactive`, over candidates that have records of their own and for whose
tombstones there is room. -/
theorem foldl_retire (now : Nat) (retired : List (ApprovalEvidenceId × ApprovalRequestId × Nat))
    (accounted : Accounted control)
    (listed : ∀ candidate ∈ retired, ∃ record, control.records.get? candidate.1 = some record ∧
      record.evidence.requestId = candidate.2.1)
    (nodup : (retired.map (·.1)).Nodup)
    (few : control.tombstones.len + retired.length ≤ maxApprovalTombstones)
    (small : control.tombstoneAccountedBytes + (retired.map (·.2.2)).sum ≤
      maxApprovalTombstoneBytes) :
    Reclaimed now retired control (retired.foldl (fun control => control.retire now) control) := by
  induction retired generalizing control with
  | nil => exact ⟨accounted, fun _ => by simp, nofun, fun _ _ => rfl, rfl, rfl⟩
  | cons candidate rest ih =>
    obtain ⟨evidenceId, requestId, bytes⟩ := candidate
    obtain ⟨record, found, own⟩ := listed _ List.mem_cons_self
    simp only [List.map_cons, List.nodup_cons, List.length_cons, List.sum_cons] at nodup few small
    have mapped := (accounted.requests_iff requestId evidenceId).mpr ⟨record, found, own⟩
    have fresh := accounted.apart mapped
    have fits : maxApprovalTombstoneBytes ≤ u64Max := by decide
    have kept : Accounted (control.retire now (evidenceId, requestId, bytes)) :=
      accounted_retire accounted found own (by omega) (by omega)
    have step := @retire_eq control evidenceId record requestId now bytes found
    have length : (control.retire now (evidenceId, requestId, bytes)).tombstones.len =
        control.tombstones.len + 1 := by
      rw [step, BTreeMap.len_eq_total, BTreeMap.total_insert_of_fresh _ _ fresh,
        ← BTreeMap.len_eq_total, Nat.add_comm]
    have total : (control.retire now (evidenceId, requestId, bytes)).tombstoneAccountedBytes =
        control.tombstoneAccountedBytes + bytes := by
      rw [step]
      exact min_eq_left (by omega)
    have later : ∀ candidate ∈ rest, ∃ record',
        (control.retire now (evidenceId, requestId, bytes)).records.get? candidate.1 =
          some record' ∧
          record'.evidence.requestId = candidate.2.1 := by
      intro candidate member
      obtain ⟨record', found', own'⟩ := listed _ (List.mem_cons_of_mem _ member)
      have different : candidate.1 ≠ evidenceId := by
        intro same
        exact nodup.1 (same ▸ List.mem_map_of_mem member)
      refine ⟨record', ?_, own'⟩
      rw [step, BTreeMap.get?_remove, if_neg different]
      exact found'
    have reclaimed := ih kept later nodup.2 (by omega) (by omega)
    refine ⟨reclaimed.accounted, ?_, ?_, ?_, ?_, ?_⟩
    · intro evidenceId'
      refine (reclaimed.records evidenceId').trans ?_
      rw [step, BTreeMap.get?_remove]
      by_cases head : evidenceId' = evidenceId
      · simp only [List.map_cons, List.mem_cons, head, true_or, if_true, ite_self]
      · simp only [List.map_cons, List.mem_cons, head, false_or, if_false]
    · intro requestId' member
      by_cases again : requestId' ∈ rest.map (·.2.1)
      · exact reclaimed.buried requestId' again
      · have head : requestId' = requestId := by simpa [again] using member
        refine ⟨⟨now, bytes⟩, ?_, rfl⟩
        refine (reclaimed.unburied requestId' again).trans ?_
        rw [step, BTreeMap.get?_insert, if_pos head]
    · intro requestId' absent
      simp only [List.map_cons, List.mem_cons, not_or] at absent
      refine (reclaimed.unburied requestId' absent.2).trans ?_
      rw [step, BTreeMap.get?_insert, if_neg absent.1]
    · exact reclaimed.sequence.trans (by rw [step])
    · exact reclaimed.last.trans (by rw [step])

theorem foldlM_checkedAdd {retired : List (ApprovalEvidenceId × ApprovalRequestId × Nat)}
    {start total : Nat}
    (added : retired.foldlM (fun total candidate =>
      (checkedAdd total candidate.2.2).elim
        (.error ApprovalControlError.tombstoneTotalCapacityExceeded) Except.ok) start = .ok total) :
    total = start + (retired.map (·.2.2)).sum := by
  induction retired generalizing start with
  | nil =>
    cases added
    rfl
  | cons candidate rest ih =>
    rw [List.foldlM_cons] at added
    obtain ⟨middle, first, added⟩ := bind_eq_ok.mp added
    rw [ih added, List.map_cons, List.sum_cons, ← (checkedAdd_eq_some.mp (elim_eq_ok.mp first)).1]
    omega

/-- The capacity check leaves room for all the tombstones to come. -/
theorem room_of_checkTombstoneCapacity
    {retired : List (ApprovalEvidenceId × ApprovalRequestId × Nat)}
    (checked : control.checkTombstoneCapacity retired = .ok ()) :
    control.tombstones.len + retired.length ≤ maxApprovalTombstones ∧
      control.tombstoneAccountedBytes + (retired.map (·.2.2)).sum ≤ maxApprovalTombstoneBytes := by
  unfold checkTombstoneCapacity at checked
  obtain ⟨count, counted, checked⟩ := bind_eq_ok.mp checked
  split at checked
  · cases checked
  rename_i few
  obtain ⟨bytes, added, checked⟩ := bind_eq_ok.mp checked
  obtain ⟨total, summed, checked⟩ := bind_eq_ok.mp checked
  split at checked
  · cases checked
  rename_i small
  have bytes_eq := foldlM_checkedAdd added
  have count_eq := (checkedAdd_eq_some.mp (elim_eq_ok.mp counted)).1
  have total_eq := (checkedAdd_eq_some.mp (elim_eq_ok.mp summed)).1
  constructor
  · omega
  · omega

theorem mem_candidates {bytes : Nat} :
    (evidenceId, requestId, bytes) ∈ control.candidates now ↔
      ∃ record, control.records.get? evidenceId = some record ∧ record.isInactive now = true ∧
        record.evidence.requestId = requestId ∧ approvalTombstoneBytes requestId = bytes := by
  simp only [candidates, List.mem_map, List.mem_filter, Prod.exists, BTreeMap.mem_entries_iff,
    Prod.mk.injEq]
  constructor
  · rintro ⟨_, record, ⟨found, inactive⟩, rfl, rfl, rfl⟩
    exact ⟨record, found, inactive, rfl, rfl⟩
  · rintro ⟨record, found, inactive, rfl, rfl⟩
    exact ⟨evidenceId, record, ⟨found, inactive⟩, rfl, rfl, rfl⟩

/-- What `reclaim_inactive` does, whether it succeeds or is refused for lack of room. -/
structure ReclaimOutcome (control : ApprovalReviewControl) (now : Nat)
    (result : Except ApprovalControlError Unit) (control' : ApprovalReviewControl) : Prop where
  accounted : Accounted control'
  sequence : control'.nextEvidenceSequence = control.nextEvidenceSequence
  last : control'.lastAuthorityUnixSeconds = control.lastAuthorityUnixSeconds
  active : ∀ {evidenceId record}, control.records.get? evidenceId = some record →
    record.isInactive now = false → control'.records.get? evidenceId = some record
  records : ∀ {evidenceId record}, control'.records.get? evidenceId = some record →
    control.records.get? evidenceId = some record ∧
      (result = .ok () → record.isInactive now = false)
  retired : ∀ {evidenceId record}, control.records.get? evidenceId = some record →
    control'.records.get? evidenceId = none → record.isInactive now = true ∧
      ∃ tombstone, control'.tombstones.get? record.evidence.requestId = some tombstone ∧
        tombstone.retiredAtUnixSeconds = now
  tombstones : ∀ {requestId tombstone}, control.tombstones.get? requestId = some tombstone →
    control'.tombstones.get? requestId = some tombstone ∨ tombstone.isExpired now = true

theorem pruned_tombstone {tombstone : ApprovalTombstone} (accounted : Accounted control) (now : Nat)
    (found : control.tombstones.get? requestId = some tombstone) :
    (control.pruneTombstones now).tombstones.get? requestId = some tombstone ∨
      tombstone.isExpired now = true := by
  rw [(pruneTombstones_spec accounted now).2.2, found, Option.filter_some]
  cases tombstone.isExpired now with
  | true => exact .inr rfl
  | false => exact .inl (by simp)

/-- Reclaiming that retires nothing only prunes. -/
theorem reclaimOutcome_prune (accounted : Accounted control)
    {result : Except ApprovalControlError Unit}
    (inactive : result = .ok () → (control.pruneTombstones now).candidates now = []) :
    ReclaimOutcome control now result (control.pruneTombstones now) := by
  obtain ⟨kept, same, -⟩ := pruneTombstones_spec accounted now
  refine
    { accounted := kept
      sequence := same.sequence
      last := same.last
      active := ?_
      records := ?_
      retired := ?_
      tombstones := pruned_tombstone accounted now }
  · intro evidenceId record found _
    rw [same.records]
    exact found
  · intro evidenceId record found
    refine ⟨same.records ▸ found, ?_⟩
    intro ok
    have empty := inactive ok
    by_contra live
    have member := (@mem_candidates (control.pruneTombstones now) now _ _ _).mpr
      ⟨record, found, by simpa using live, rfl, rfl⟩
    rw [empty] at member
    cases member
  · intro evidenceId record found missing
    rw [same.records, found] at missing
    cases missing

/-- Everything that reclaiming does. -/
theorem reclaimInactive_spec (accounted : Accounted control) (now : Nat) :
    ReclaimOutcome control now (control.reclaimInactive now).1 (control.reclaimInactive now).2 := by
  obtain ⟨kept, same, pruned⟩ := pruneTombstones_spec accounted now
  unfold reclaimInactive
  dsimp only
  by_cases none : ((control.pruneTombstones now).candidates now).isEmpty = true
  · rw [if_pos none]
    exact reclaimOutcome_prune accounted fun _ => List.isEmpty_iff.mp none
  rw [if_neg none]
  cases checked : (control.pruneTombstones now).checkTombstoneCapacity
      ((control.pruneTombstones now).candidates now) with
  | error reason => exact reclaimOutcome_prune accounted nofun
  | ok _ =>
    obtain ⟨few, small⟩ := room_of_checkTombstoneCapacity checked
    have listed : ∀ candidate ∈ (control.pruneTombstones now).candidates now, ∃ record,
        (control.pruneTombstones now).records.get? candidate.1 = some record ∧
          record.evidence.requestId = candidate.2.1 := by
      rintro ⟨evidenceId, requestId, bytes⟩ member
      obtain ⟨record, found, -, own, -⟩ := mem_candidates.mp member
      exact ⟨record, found, own⟩
    have nodup : (((control.pruneTombstones now).candidates now).map (·.1)).Nodup := by
      rw [candidates, List.map_map]
      exact (control.pruneTombstones now).records.keys_nodup.sublist
        (List.filter_sublist.map _)
    have reclaimed := foldl_retire now _ kept listed nodup few small
    -- a record is retired exactly if it is inactive
    have retired_iff : ∀ {evidenceId record}, control.records.get? evidenceId = some record →
        (evidenceId ∈ ((control.pruneTombstones now).candidates now).map (·.1) ↔
          record.isInactive now = true) := by
      intro evidenceId record found
      rw [← same.records] at found
      constructor
      · intro member
        obtain ⟨⟨_, requestId, bytes⟩, candidate, rfl⟩ := List.mem_map.mp member
        obtain ⟨record', found', inactive, -⟩ := mem_candidates.mp candidate
        rw [found] at found'
        cases found'
        exact inactive
      · intro inactive
        exact List.mem_map.mpr ⟨_, mem_candidates.mpr ⟨record, found, inactive, rfl, rfl⟩, rfl⟩
    refine
      { accounted := reclaimed.accounted
        sequence := reclaimed.sequence.trans same.sequence
        last := reclaimed.last.trans same.last
        active := ?_
        records := ?_
        retired := ?_
        tombstones := ?_ }
    · intro evidenceId record found active
      rw [reclaimed.records, if_neg, same.records, found]
      rw [retired_iff found, active]
      exact Bool.false_ne_true
    · intro evidenceId record found
      rw [reclaimed.records] at found
      split at found
      · cases found
      · rename_i kept'
        rw [same.records] at found
        refine ⟨found, fun _ => ?_⟩
        rw [retired_iff found] at kept'
        simpa using kept'
    · intro evidenceId record found missing
      have inactive : record.isInactive now = true := by
        by_contra active
        rw [reclaimed.records, if_neg, same.records, found] at missing
        · cases missing
        · rwa [retired_iff found]
      refine ⟨inactive, reclaimed.buried _ ?_⟩
      rw [← same.records] at found
      exact List.mem_map.mpr ⟨_, mem_candidates.mpr ⟨record, found, inactive, rfl, rfl⟩, rfl⟩
    · intro requestId tombstone found
      have untouched : requestId ∉ ((control.pruneTombstones now).candidates now).map (·.2.1) := by
        intro member
        obtain ⟨⟨evidenceId, _, bytes⟩, candidate, rfl⟩ := List.mem_map.mp member
        obtain ⟨record, found', -, own, -⟩ := mem_candidates.mp candidate
        rw [same.records] at found'
        have mapped := (accounted.requests_iff _ _).mpr ⟨record, found', own⟩
        rw [accounted.apart mapped] at found
        cases found
      rw [reclaimed.unburied _ untouched]
      exact pruned_tombstone accounted now found

/-! ### Issuing -/

section Issue

variable {requestId : ApprovalRequestId} {review : TrustedPolicyReview}
variable {approver : PolicyAuthenticatedApprover} {issuedAt expiresAt : Nat}

/-- The registry after new evidence was issued. -/
def withEvidence (control : ApprovalReviewControl) (evidence : PolicyApprovalEvidence)
    (accountedBytes : Nat) : ApprovalReviewControl :=
  { control with
    nextEvidenceSequence := control.nextEvidenceSequence + 1
    requests := control.requests.insert evidence.requestId evidence.id
    records := control.records.insert evidence.id ⟨evidence, none, accountedBytes⟩
    totalAccountedBytes := control.totalAccountedBytes + accountedBytes }

/-- Evidence is new and fit to be stored. -/
structure Issuable (control : ApprovalReviewControl) (review : TrustedPolicyReview)
    (approver : PolicyAuthenticatedApprover) (evidence : PolicyApprovalEvidence)
    (accountedBytes : Nat) : Prop where
  unused : control.requests.get? evidence.requestId = none
  unburied : control.tombstones.get? evidence.requestId = none
  required : requiredApprovalClass review = .ok evidence.requirement.approvalClass
  binding : evidence.requirement.binding = review.evaluation
  approver_eq : evidence.approver = approver.principal
  human : approver.kind = .human
  holds : evidence.requirement.approvalClass ∈ approver.approvalClasses
  later : evidence.issuedAtUnixSeconds < evidence.expiresAtUnixSeconds
  short : evidence.expiresAtUnixSeconds - evidence.issuedAtUnixSeconds ≤ maxApprovalTtlSeconds
  id_eq : evidence.id.value = evidenceIdText control.nextEvidenceSequence
  sequence : control.nextEvidenceSequence + 1 ≤ u64Max
  room : control.records.len < maxApprovalEntries
  fits : control.totalAccountedBytes + accountedBytes ≤ maxApprovalTotalBytes

/-- What `issue_at` does to a reclaimed registry. -/
inductive IssueOutcome (control : ApprovalReviewControl) (requestId : ApprovalRequestId)
    (review : TrustedPolicyReview) (approver : PolicyAuthenticatedApprover)
    (issuedAt expiresAt : Nat) :
    Except ApprovalControlError PolicyApprovalEvidence → ApprovalReviewControl → Prop
  | refused (reason : ApprovalControlError) (sequence : Nat)
      (grows : control.nextEvidenceSequence ≤ sequence)
      (bounded : control.nextEvidenceSequence ≤ u64Max → sequence ≤ u64Max) :
      IssueOutcome control requestId review approver issuedAt expiresAt (.error reason)
        { control with nextEvidenceSequence := sequence }
  | existing (evidenceId : ApprovalEvidenceId) (record : ApprovalRecord)
      (mapped : control.requests.get? requestId = some evidenceId)
      (found : control.records.get? evidenceId = some record)
      (same : record.evidence.expiresAtUnixSeconds = expiresAt) :
      IssueOutcome control requestId review approver issuedAt expiresAt
        (.ok record.evidence) control
  | created (evidence : PolicyApprovalEvidence) (accountedBytes : Nat)
      (own : evidence.requestId = requestId) (issued : evidence.issuedAtUnixSeconds = issuedAt)
      (expires : evidence.expiresAtUnixSeconds = expiresAt)
      (issuable : Issuable control review approver evidence accountedBytes) :
      IssueOutcome control requestId review approver issuedAt expiresAt (.ok evidence)
        (control.withEvidence evidence accountedBytes)

theorem IssueOutcome.unchanged (reason : ApprovalControlError) :
    IssueOutcome control requestId review approver issuedAt expiresAt (.error reason) control :=
  .refused reason control.nextEvidenceSequence le_rfl id

/-- Everything that an issue for an unused request does. -/
theorem issueNew_spec {approvalClass : ApprovalClass}
    (unused : control.requests.get? requestId = none)
    (unburied : control.tombstones.get? requestId = none)
    (required : requiredApprovalClass review = .ok approvalClass) :
    IssueOutcome control requestId review approver issuedAt expiresAt
      (control.issueNew requestId review approver approvalClass issuedAt expiresAt).1
      (control.issueNew requestId review approver approvalClass issuedAt expiresAt).2 := by
  unfold issueNew
  dsimp only
  by_cases large : maxApprovalEntryBytes < recordBytes requestId review approver
  · rw [if_pos large]
    exact .unchanged _
  rw [if_neg large]
  by_cases full : maxApprovalEntries ≤ control.records.len
  · rw [if_pos full]
    exact .unchanged _
  rw [if_neg full]
  cases summed : checkedAdd control.totalAccountedBytes (recordBytes requestId review approver) with
  | none => exact .unchanged _
  | some newTotal =>
    dsimp only
    by_cases heavy : maxApprovalTotalBytes < newTotal
    · rw [if_pos heavy]
      exact .unchanged _
    rw [if_neg heavy]
    cases named :
      TypedId.new "approval evidence id" (evidenceIdText control.nextEvidenceSequence) with
    | error reason => exact .unchanged _
    | ok evidenceId =>
      dsimp only
      cases next : checkedAdd control.nextEvidenceSequence 1 with
      | none => exact .unchanged _
      | some nextSequence =>
        obtain ⟨rfl, bounded⟩ := checkedAdd_eq_some.mp next
        dsimp only
        cases issued : ApprovalEvidence.tryIssue evidenceId requestId
            ⟨approvalClass, review.evaluation⟩ approver issuedAt expiresAt with
        | error reason => exact .refused _ _ (Nat.le_succ _) fun _ => bounded
        | ok evidence =>
          obtain ⟨human, holds, later, short, rfl⟩ := ApprovalEvidence.of_tryIssue_eq_ok issued
          obtain ⟨rfl, -⟩ := checkedAdd_eq_some.mp summed
          refine .created ⟨evidenceId, requestId, ⟨approvalClass, review.evaluation⟩,
            approver.principal, issuedAt, expiresAt⟩
              (recordBytes requestId review approver) rfl rfl rfl
            ⟨unused, unburied, required, rfl, rfl, human, holds, later, short,
              TypedId.value_of_new named, bounded, not_le.mp full, not_lt.mp heavy⟩

/-- An issue reclaims first, and goes on if that succeeded. -/
theorem issueAt_spec :
    (∃ reason, (control.reclaimInactive issuedAt).1 = .error reason ∧
      control.issueAt requestId review approver issuedAt expiresAt =
        (.error reason, (control.reclaimInactive issuedAt).2)) ∨
    ((control.reclaimInactive issuedAt).1 = .ok () ∧
      IssueOutcome (control.reclaimInactive issuedAt).2 requestId review approver issuedAt expiresAt
        (control.issueAt requestId review approver issuedAt expiresAt).1
        (control.issueAt requestId review approver issuedAt expiresAt).2) := by
  unfold issueAt
  rcases ended : control.reclaimInactive issuedAt with ⟨result, reclaimed⟩
  cases result with
  | error reason => exact .inl ⟨reason, rfl, rfl⟩
  | ok _ =>
    refine .inr ⟨rfl, ?_⟩
    dsimp only
    by_cases buried : reclaimed.tombstones.containsKey requestId = true
    · rw [if_pos buried]
      exact .unchanged _
    rw [if_neg buried]
    have unburied : reclaimed.tombstones.get? requestId = none := by
      rwa [Bool.not_eq_true, BTreeMap.containsKey_eq_false] at buried
    cases required : requiredApprovalClass review with
    | error reason => exact .unchanged _
    | ok approvalClass =>
      dsimp only
      cases mapped : reclaimed.requests.get? requestId with
      | none => exact issueNew_spec mapped unburied required
      | some existingId =>
        dsimp only
        unfold issueExisting
        cases found : reclaimed.records.get? existingId with
        | none => exact .unchanged _
        | some record =>
          dsimp only
          split
          · rename_i agrees
            exact .existing existingId record mapped found agrees.2.2.2
          · exact .unchanged _

/-- Different sequence numbers give different identities. -/
theorem evidenceIdText_injective {sequence sequence' : Nat} (bound : sequence ≤ u64Max)
    (bound' : sequence' ≤ u64Max) (same : evidenceIdText sequence = evidenceIdText sequence') :
    sequence = sequence' := by
  have digits := hexEncode_injective (String.append_right_inj _ |>.mp same)
  have numbers := congrArg fromBe digits
  rwa [fromBe_be64 (by unfold u64Max at bound; omega),
    fromBe_be64 (by unfold u64Max at bound'; omega)] at numbers

/-- Evidence with the next number has no record yet. -/
theorem Accounted.fresh (accounted : Accounted control) {evidenceId : ApprovalEvidenceId}
    (named : evidenceId.value = evidenceIdText control.nextEvidenceSequence) :
    control.records.get? evidenceId = none := by
  cases found : control.records.get? evidenceId with
  | none => rfl
  | some record =>
    obtain ⟨sequence, lt, named'⟩ := accounted.numbered found
    have bound := accounted.sequence_le
    have same := evidenceIdText_injective (by omega) bound (named'.symm.trans named)
    omega

/-- New evidence is accounted for. -/
theorem accounted_withEvidence (accounted : Accounted control) {evidence : PolicyApprovalEvidence}
    {accountedBytes : Nat} (issuable : Issuable control review approver evidence accountedBytes) :
    Accounted (control.withEvidence evidence accountedBytes) := by
  have fresh := accounted.fresh issuable.id_eq
  refine
    { requests_iff := ?_
      id_eq := ?_
      apart := ?_
      total := ?_
      tombstoneTotal := accounted.tombstoneTotal
      records_len := ?_
      total_le := issuable.fits
      tombstones_len := accounted.tombstones_len
      tombstoneTotal_le := accounted.tombstoneTotal_le
      numbered := ?_
      sequence_le := issuable.sequence }
  · intro requestId evidenceId
    simp only [withEvidence, BTreeMap.get?_insert]
    by_cases own : requestId = evidence.requestId
    · rw [if_pos own]
      constructor
      · rintro ⟨⟩
        exact ⟨⟨evidence, none, accountedBytes⟩, if_pos rfl, own.symm⟩
      · rintro ⟨record, found, same⟩
        split at found
        · rename_i named
          rw [named]
        · -- no older record belongs to this request
          have mapped := (accounted.requests_iff _ _).mpr ⟨record, found, same⟩
          rw [own, issuable.unused] at mapped
          cases mapped
    · rw [if_neg own, accounted.requests_iff]
      constructor
      · rintro ⟨record, found, same⟩
        have other : evidenceId ≠ evidence.id := by
          rintro rfl
          rw [fresh] at found
          cases found
        exact ⟨record, by rw [if_neg other]; exact found, same⟩
      · rintro ⟨record, found, same⟩
        split at found
        · cases found
          exact absurd same.symm own
        · exact ⟨record, found, same⟩
  · intro evidenceId record found
    rw [withEvidence, BTreeMap.get?_insert] at found
    split at found
    · rename_i named
      cases found
      exact named.symm
    · exact accounted.id_eq found
  · intro requestId evidenceId mapped
    rw [withEvidence, BTreeMap.get?_insert] at mapped
    split at mapped
    · rename_i own
      rw [own]
      exact issuable.unburied
    · exact accounted.apart mapped
  · simp only [withEvidence, BTreeMap.total_insert_of_fresh _ _ fresh, accounted.total]
    exact Nat.add_comm _ _
  · simp only [withEvidence]
    rw [BTreeMap.len_eq_total, BTreeMap.total_insert_of_fresh _ _ fresh, ← BTreeMap.len_eq_total]
    have room := issuable.room
    omega
  · intro evidenceId record found
    rw [withEvidence, BTreeMap.get?_insert] at found
    split at found
    · rename_i named
      exact ⟨control.nextEvidenceSequence, Nat.lt_succ_self _, named ▸ issuable.id_eq⟩
    · obtain ⟨sequence, lt, named⟩ := accounted.numbered found
      exact ⟨sequence, Nat.lt_succ_of_lt lt, named⟩

theorem accounted_withSequence (accounted : Accounted control) {sequence : Nat}
    (grows : control.nextEvidenceSequence ≤ sequence) (bounded : sequence ≤ u64Max) :
    Accounted { control with nextEvidenceSequence := sequence } :=
  { accounted with
    numbered := fun found => by
      obtain ⟨number, lt, named⟩ := accounted.numbered found
      exact ⟨number, lt.trans_le grows, named⟩
    sequence_le := bounded }

end Issue

/-! ### Revoking -/

/-- What `revoke_at` does. -/
inductive RevokeOutcome (control : ApprovalReviewControl) (evidenceId : ApprovalEvidenceId)
    (revoker : PolicyAuthenticatedApprover) (now : Nat) :
    Except ApprovalControlError Unit → ApprovalReviewControl → Prop
  | refused (reason : ApprovalControlError) :
      RevokeOutcome control evidenceId revoker now (.error reason) control
  | again (record : ApprovalRecord) (found : control.records.get? evidenceId = some record)
      (revoked : record.revocation.isSome = true) :
      RevokeOutcome control evidenceId revoker now (.ok ()) control
  | revoked (record : ApprovalRecord) (found : control.records.get? evidenceId = some record)
      (live : record.revocation = none) :
      RevokeOutcome control evidenceId revoker now (.ok ())
        { control with
          records := control.records.insert evidenceId
            { record with revocation := some ⟨revoker.principal, now⟩ } }

/-- Everything that a revocation does. -/
theorem revokeAt_spec (evidenceId : ApprovalEvidenceId) (revoker : PolicyAuthenticatedApprover)
    (now : Nat) :
    RevokeOutcome control evidenceId revoker now (control.revokeAt evidenceId revoker now).1
      (control.revokeAt evidenceId revoker now).2 := by
  unfold revokeAt
  cases found : control.records.get? evidenceId with
  | none => exact .refused _
  | some record =>
    dsimp only
    by_cases allowed : (!revoker.canSatisfy record.evidence.requirement.approvalClass) = true
    · rw [if_pos allowed]
      exact .refused _
    rw [if_neg allowed]
    by_cases live : record.revocation.isNone = true
    · rw [if_pos live]
      exact .revoked record found (Option.isNone_iff_eq_none.mp live)
    · rw [if_neg live]
      exact .again record found (by simpa [Option.isSome_iff_ne_none] using live)

/-- Marking a record as revoked changes no account. -/
theorem accounted_revoked (accounted : Accounted control)
    (found : control.records.get? evidenceId = some record)
    (revocation : Option ApprovalRevocation) :
    Accounted { control with
      records := control.records.insert evidenceId { record with revocation := revocation } } := by
  have total : ∀ f : ApprovalRecord → Nat, (f { record with revocation := revocation } = f record) →
      (control.records.insert evidenceId { record with revocation := revocation }).total f =
        control.records.total f := by
    intro f same
    rw [BTreeMap.total_insert, BTreeMap.total_eq_add_remove f found, same]
  -- every lookup finds a record with the same evidence as before
  have lookup : ∀ evidenceId' record',
      (control.records.insert evidenceId { record with revocation := revocation }).get?
        evidenceId' =
        some record' → ∃ record'', control.records.get? evidenceId' = some record'' ∧
          record''.evidence = record'.evidence := by
    intro evidenceId' record' found'
    rw [BTreeMap.get?_insert] at found'
    split at found'
    · rename_i same
      cases found'
      exact ⟨record, same ▸ found, rfl⟩
    · exact ⟨record', found', rfl⟩
  refine
    { requests_iff := ?_
      id_eq := ?_
      apart := accounted.apart
      total := ?_
      tombstoneTotal := accounted.tombstoneTotal
      records_len := ?_
      total_le := accounted.total_le
      tombstones_len := accounted.tombstones_len
      tombstoneTotal_le := accounted.tombstoneTotal_le
      numbered := ?_
      sequence_le := accounted.sequence_le }
  · intro requestId evidenceId'
    refine (accounted.requests_iff requestId evidenceId').trans ?_
    constructor
    · rintro ⟨record', found', own⟩
      by_cases same : evidenceId' = evidenceId
      · subst same
        rw [found] at found'
        cases found'
        exact ⟨{ record with revocation := revocation }, by simp, own⟩
      · exact ⟨record', by simpa [same] using found', own⟩
    · rintro ⟨record', found', own⟩
      obtain ⟨record'', found'', same⟩ := lookup _ _ found'
      exact ⟨record'', found'', same ▸ own⟩
  · intro evidenceId' record' found'
    obtain ⟨record'', found'', same⟩ := lookup _ _ found'
    rw [← same]
    exact accounted.id_eq found''
  · exact accounted.total.trans (total _ rfl).symm
  · have records_len := accounted.records_len
    rw [BTreeMap.len_eq_total] at records_len ⊢
    exact (total _ rfl).trans_le records_len
  · intro evidenceId' record' found'
    obtain ⟨record'', found'', -⟩ := lookup _ _ found'
    exact accounted.numbered found''

end ApprovalReviewControl

end Linura.Control
