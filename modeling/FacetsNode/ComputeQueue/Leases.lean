import FacetsNode.ComputeQueue.Assignment

/-!
# Lease histories

`validatedLeaseHistory` rebuilds the leases of an assignment from an unordered list of receipts. A
record that `validateAuthorizedBy` accepts has a chain of renewals from its initial lease to its
current one, and the chain leaves no instant between the two without a lease.
-/

namespace FacetsNode.ComputeQueue

variable {sha256 : List UInt8 → List UInt8}

/-! ## Chains of renewals -/

/-- `next` is the lease that the receipt makes of `previous`. -/
structure LeaseBinding.Renews (previous next : LeaseBinding) (receipt : ReceiptRecord) : Prop where
  stage : receipt.stage = .leaseRenewed
  carries : receipt.leaseRevision = some next.revision ∧
    receipt.leaseExpiresAt = some next.expiresAt
  recorded : receipt.recordedAt = next.issuedAt
  inTime : receipt.recordedAt ≤ previous.expiresAt
  longer : previous.expiresAt < next.expiresAt
  successor : next.revision.toNat = previous.revision.toNat + 1
  limit : next.maximumExpiresAt = previous.maximumExpiresAt ∧ next.expiresAt ≤ next.maximumExpiresAt

/-- The receipts make the leases of a lease, one after the other, and the last of them is
`current`. -/
inductive Renewed (current : LeaseBinding) :
    LeaseBinding → List VerifiedReceipt → List LeaseBinding → Prop
  | done : Renewed current current [] []
  | renew {previous next receipt receipts leases} (h : previous.Renews next receipt.record)
      (hrest : Renewed current next receipts leases) :
      Renewed current previous (receipt :: receipts) (next :: leases)

namespace Renewed

variable {current initial : LeaseBinding} {receipts : List VerifiedReceipt}
    {leases : List LeaseBinding}

theorem revision (h : Renewed current initial receipts leases) :
    current.revision.toNat = initial.revision.toNat + receipts.length := by
  induction h with
  | done => rfl
  | renew h hrest ih =>
    rw [ih, h.successor, List.length_cons]
    omega

/-- The renewals carry the revisions that follow, without a gap. -/
theorem revisions (h : Renewed current initial receipts leases) :
    receipts.map (fun r => r.record.leaseRevision.map UInt64.toNat) =
      (List.range' (initial.revision.toNat + 1) receipts.length).map some := by
  induction h with
  | done => rfl
  | renew h hrest ih =>
    rw [List.length_cons, List.range'_succ, List.map_cons, List.map_cons, ih, h.carries.1,
      Option.map_some, h.successor]

theorem expiresAt_le (h : Renewed current initial receipts leases)
    (hinitial : initial.expiresAt ≤ initial.maximumExpiresAt) :
    current.expiresAt ≤ initial.maximumExpiresAt := by
  induction h with
  | done => exact hinitial
  | renew h hrest ih => exact h.limit.1 ▸ ih h.limit.2

/-- **No gap.** An instant is in the first lease, or it is after its end; then it is after the next
lease was issued. -/
theorem covers (h : Renewed current initial receipts leases) {t}
    (hissued : initial.issuedAt ≤ t) (hexpires : t ≤ current.expiresAt) :
    ∃ lease ∈ initial :: leases, lease.issuedAt ≤ t ∧ t ≤ lease.expiresAt := by
  induction h with
  | done => exact ⟨current, List.mem_singleton_self _, hissued, hexpires⟩
  | @renew previous next receipt receipts leases h hrest ih =>
    by_cases ht : t ≤ previous.expiresAt
    · exact ⟨previous, List.mem_cons_self, hissued, ht⟩
    · have hlate : previous.expiresAt < t := Int64.not_le.mp ht
      have hnext : next.issuedAt ≤ t := by
        rw [← h.recorded]
        exact Int64.le_trans h.inTime (Int64.le_of_lt hlate)
      obtain ⟨lease, hlease, hin⟩ := ih hnext
      exact ⟨lease, List.mem_cons_of_mem _ hlease, hin⟩

end Renewed

/-! ## The loop -/

theorem toNat_successor {a b} (hmax : a ≠ maxUint64) (h : b = a + 1) : b.toNat = a.toNat + 1 := by
  have hlt : a.toNat < 2 ^ 64 := a.toNat_lt
  have hne : a.toNat ≠ 2 ^ 64 - 1 := fun heq => hmax (UInt64.toNat_inj.mp heq)
  rw [h, UInt64.toNat_add, UInt64.toNat_one]
  omega

variable {v : AssignmentRecord} {receipts : List VerifiedReceipt}

theorem LeaseBinding.Renews.of_renew {previous next receipt}
    (h : v.renew sha256 previous receipt = .ok next) :
    previous.Renews next receipt.record := by
  unfold AssignmentRecord.renew at h
  dsimp only at h
  split at h
  · next revision expiresAt signer hrevision hexpires hsigner =>
    simp only [then_eq_ok, rejectIf_eq_ok, LeaseBinding.validateRenewal, LeaseBinding.validate,
      not_or, not_not, Except.ok.injEq] at h
    obtain ⟨⟨-, -, -, hstage, -, htime, -⟩,
      ⟨⟨-, -, -, -, hmaximum⟩, -, ⟨-, -⟩, ⟨hmax, hnext⟩, -, -, hlonger⟩,
      rfl⟩ := h
    exact ⟨hstage, ⟨hrevision, hexpires⟩, rfl, Int64.not_lt.mp htime, Int64.not_le.mp hlonger,
      toNat_successor hmax hnext, rfl, Int64.not_lt.mp hmaximum⟩
  · cases h

theorem Renewed.of_renewAll {previous} {history result : List LeaseBinding}
    (h : v.renewAll sha256 previous history receipts = .ok result) :
    ∃ current leases, v.currentLease = some current ∧ result = history ++ leases ∧
      Renewed current previous receipts leases := by
  induction receipts generalizing previous history with
  | nil =>
    unfold AssignmentRecord.renewAll at h
    split at h
    · next hcurrent =>
      cases h
      exact ⟨previous, [], hcurrent, (List.append_nil _).symm, .done⟩
    · cases h
  | cons receipt receipts ih =>
    unfold AssignmentRecord.renewAll at h
    obtain ⟨renewal, hrenew, h⟩ := bind_eq_ok.mp h
    split at h
    · cases h
    · obtain ⟨current, leases, hcurrent, hresult, hrest⟩ := ih h
      refine ⟨current, renewal :: leases, hcurrent, ?_, .renew (.of_renew hrenew) hrest⟩
      rw [hresult, List.append_assoc, List.singleton_append]

/-! ## The order of the receipts -/

/-- No key of the one is a key of the other. -/
def VerifiedReceipt.Apart (sha256 : List UInt8 → List UInt8) (a b : VerifiedReceipt) : Prop :=
  ∀ key ∈ a.keys sha256, key ∉ b.keys sha256

theorem indexReceipts_eq_ok {seen : List VerifiedReceipt} :
    indexReceipts sha256 seen receipts = .ok () ↔
      (∀ r ∈ receipts, r.record.validate sha256 = .ok () ∧ ∀ e ∈ seen, r.Apart sha256 e) ∧
        receipts.Pairwise (VerifiedReceipt.Apart sha256) := by
  induction receipts generalizing seen with
  | nil => simp [indexReceipts]
  | cons r receipts ih =>
    have hkeys : (∀ key ∈ r.keys sha256,
        (if ∃ e ∈ seen, key ∈ e.keys sha256 then duplicateValue key.1 else .ok () : Check) =
          .ok ()) ↔ ∀ e ∈ seen, r.Apart sha256 e := by
      constructor
      · intro h e he key hkey hmem
        have := h key hkey
        rw [if_pos ⟨e, he, hmem⟩] at this
        cases this
      · intro h key hkey
        rw [if_neg]
        rintro ⟨e, he, hmem⟩
        exact h e he key hkey hmem
    simp only [indexReceipts, then_eq_ok, all_eq_ok, hkeys, ih, List.forall_mem_cons,
      List.pairwise_cons]
    constructor
    · rintro ⟨hr, hseen, hrest, hpair⟩
      refine ⟨⟨⟨hr, hseen⟩, fun a ha => ⟨(hrest a ha).1, (hrest a ha).2.2⟩⟩, fun a ha => ?_, hpair⟩
      exact fun key hkey hmem => (hrest a ha).2.1 key hmem hkey
    · rintro ⟨⟨⟨hr, hseen⟩, hrest⟩, hapart, hpair⟩
      refine ⟨hr, hseen, fun a ha => ⟨(hrest a ha).1, ?_, (hrest a ha).2⟩, hpair⟩
      exact fun key hkey hmem => hapart a ha key hmem hkey

theorem newVerifiedReceiptIndex_eq_ok {index : List VerifiedReceipt} :
    newVerifiedReceiptIndex sha256 receipts = .ok index ↔
      receipts.length ≤ maximumReceipts ∧ (∀ r ∈ receipts, r.record.validate sha256 = .ok ()) ∧
        receipts.Pairwise (VerifiedReceipt.Apart sha256) ∧ receipts = index := by
  simp [newVerifiedReceiptIndex, indexReceipts_eq_ok, and_assoc]

/-- An index finds a receipt by its identifier, wherever it stands. -/
theorem VerifiedReceiptIndex.get_eq_some {index : VerifiedReceiptIndex} {id : GoString}
    {r : VerifiedReceipt} (hpair : index.Pairwise (VerifiedReceipt.Apart sha256)) :
    index.get id = some r ↔ r ∈ index ∧ r.record.id = id := by
  induction index with
  | nil => simp [get]
  | cons a index ih =>
    obtain ⟨hapart, hpair⟩ := List.pairwise_cons.mp hpair
    by_cases ha : a.record.id = id
    · have hget : get (a :: index) id = some a := by simp [get, ha]
      rw [hget, Option.some.injEq]
      constructor
      · rintro rfl
        exact ⟨List.mem_cons_self, ha⟩
      · rintro ⟨hmem, hr⟩
        rcases List.mem_cons.mp hmem with rfl | hmem
        · rfl
        · refine absurd ?_ (hapart r hmem ("receipts.id", a.record.id) List.mem_cons_self)
          rw [ha, ← hr]
          exact List.mem_cons_self
    · have hget : get (a :: index) id = get index id := by simp [get, ha]
      rw [hget, ih hpair, List.mem_cons]
      refine and_congr_left fun hr => (or_iff_right ?_).symm
      rintro rfl
      exact ha hr

theorem VerifiedReceiptIndex.get_perm {index index' : VerifiedReceiptIndex}
    (hpair : index.Pairwise (VerifiedReceipt.Apart sha256))
    (hpair' : index'.Pairwise (VerifiedReceipt.Apart sha256)) (hperm : index'.Perm index)
    (id : GoString) : index'.get id = index.get id := by
  refine Option.ext fun r => ?_
  rw [get_eq_some hpair', get_eq_some hpair, hperm.mem_iff]

theorem AssignmentRecord.validateAuthorizedBy_perm {attempt : AuthorizedAttempt}
    {receipts' : List VerifiedReceipt} (hperm : receipts'.Perm receipts)
    (h : v.validateAuthorizedBy sha256 attempt receipts = .ok ()) :
    v.validateAuthorizedBy sha256 attempt receipts' = .ok () := by
  unfold validateAuthorizedBy at h ⊢
  simp only [then_eq_ok] at h ⊢
  obtain ⟨hvalid, hattempt, h⟩ := h
  refine ⟨hvalid, hattempt, ?_⟩
  split at h
  · cases h
  · simp only [then_eq_ok] at h ⊢
    obtain ⟨hplanned, hfence, hcapsule, h⟩ := h
    obtain ⟨index, hindex, h⟩ := bind_eq_ok.mp h
    obtain ⟨leases, hleases, htrust⟩ := bind_eq_ok.mp h
    obtain ⟨hlength, hreceipts, hpair, rfl⟩ := newVerifiedReceiptIndex_eq_ok.mp hindex
    have hpair' := (hperm.pairwise_iff fun h key hkey hmem => h key hmem hkey).mpr hpair
    have hindex' : newVerifiedReceiptIndex sha256 receipts' = .ok receipts' := by
      refine newVerifiedReceiptIndex_eq_ok.mpr ⟨?_, fun r hr => ?_, hpair', rfl⟩
      · rw [hperm.length_eq]
        exact hlength
      · exact hreceipts r (hperm.mem_iff.mp hr)
    have hget := VerifiedReceiptIndex.get_perm hpair hpair' hperm
    refine ⟨hplanned, hfence, hcapsule, bind_eq_ok.mpr ⟨receipts', hindex', ?_⟩⟩
    refine bind_eq_ok.mpr ⟨leases, ?_, ?_⟩
    · have hrenewals : v.orderedRenewals receipts' = v.orderedRenewals receipts := by
        unfold orderedRenewals renewals
        rw [funext hget]
      unfold validatedLeaseHistory at hleases ⊢
      rw [hrenewals]
      exact hleases
    · simp only [hget]
      exact htrust

/-! ## Accepted histories -/

theorem AssignmentRecord.history_of_validateAuthorizedBy {attempt}
    (h : v.validateAuthorizedBy sha256 attempt receipts = .ok ()) :
    v.validate sha256 = .ok () ∧ ∃ history,
      v.validatedLeaseHistory sha256 receipts = .ok history := by
  unfold validateAuthorizedBy at h
  simp only [then_eq_ok] at h
  obtain ⟨hvalid, -, h⟩ := h
  split at h
  · cases h
  · simp only [then_eq_ok] at h
    obtain ⟨-, -, -, h⟩ := h
    obtain ⟨index, hindex, h⟩ := bind_eq_ok.mp h
    obtain ⟨history, hhistory, -⟩ := bind_eq_ok.mp h
    obtain ⟨-, -, -, rfl⟩ := newVerifiedReceiptIndex_eq_ok.mp hindex
    exact ⟨hvalid, history, hhistory⟩

/-- The initial lease of a valid record of a Worker ends by its maximum. -/
theorem AssignmentRecord.initialLease_of_validate {initial}
    (hworker : v.executor.kind = .worker) (hinitial : v.initialLease = some initial)
    (h : v.validate sha256 = .ok ()) : initial.expiresAt ≤ initial.maximumExpiresAt := by
  simp only [validate, then_eq_ok] at h
  obtain ⟨-, -, -, -, -, -, -, -, -, -, -, h, -⟩ := h
  rw [if_neg (by rw [hworker]; rintro ⟨⟩)] at h
  unfold validateWorker at h
  rw [hinitial] at h
  split at h
  · next current hsome hcurrent =>
    cases hsome
    simp only [then_eq_ok, LeaseBinding.validate, rejectIf_eq_ok, not_or] at h
    obtain ⟨-, ⟨-, -, -, -, hmaximum⟩, -⟩ := h
    exact Int64.not_lt.mp hmaximum
  · cases h

/-- **Accepted lease histories are chains without a gap.** The order of the receipts does not
matter. When the record of a Worker is accepted, its renewals make the current lease of the initial
one: they carry the revisions in between once each, each is recorded before the lease it replaces is
over and makes it longer, the leases leave no instant out, and none outlives the maximum. -/
theorem lease_history (v : AssignmentRecord) (attempt : AuthorizedAttempt)
    (receipts : List VerifiedReceipt) : (∀ receipts', receipts'.Perm receipts →
      (v.validateAuthorizedBy sha256 attempt receipts' = .ok () ↔
        v.validateAuthorizedBy sha256 attempt receipts = .ok ())) ∧
    (v.executor.kind = .worker → v.validateAuthorizedBy sha256 attempt receipts = .ok () →
      ∃ initial current renewals leases, v.initialLease = some initial ∧
        v.currentLease = some current ∧ renewals.Perm (v.renewals receipts) ∧
        v.validatedLeaseHistory sha256 receipts = .ok (initial :: leases) ∧
        Renewed current initial renewals leases ∧
        renewals.map (fun r => r.record.leaseRevision.map UInt64.toNat) =
          (List.range' (initial.revision.toNat + 1)
            (current.revision.toNat - initial.revision.toNat)).map some ∧
        (∀ t, initial.issuedAt ≤ t → t ≤ current.expiresAt →
          ∃ lease ∈ initial :: leases, lease.issuedAt ≤ t ∧ t ≤ lease.expiresAt) ∧
        current.expiresAt ≤ initial.maximumExpiresAt) := by
  refine ⟨fun receipts' hperm => ?_, fun hworker h => ?_⟩
  · exact ⟨AssignmentRecord.validateAuthorizedBy_perm hperm.symm,
      AssignmentRecord.validateAuthorizedBy_perm hperm⟩
  obtain ⟨hvalid, history, hhistory⟩ := AssignmentRecord.history_of_validateAuthorizedBy h
  have hrenewed := hhistory
  unfold AssignmentRecord.validatedLeaseHistory at hrenewed
  rw [if_neg (by rw [hworker]; rintro ⟨⟩)] at hrenewed
  split at hrenewed
  · next initial _ hinitial _ =>
    obtain ⟨current, leases, hcurrent, rfl, hchain⟩ := Renewed.of_renewAll hrenewed
    have hlength : (v.orderedRenewals receipts).length =
        current.revision.toNat - initial.revision.toNat := by
      have := hchain.revision
      omega
    refine ⟨initial, current, _, leases, hinitial, hcurrent, List.mergeSort_perm _ _, hhistory,
      hchain,
      ?_, fun t => hchain.covers, ?_⟩
    · rw [← hlength]
      exact hchain.revisions
    · exact hchain.expiresAt_le (AssignmentRecord.initialLease_of_validate hworker hinitial hvalid)
  · cases hrenewed

namespace Sample

/-- A stand-in for the digest, which tells the texts of the samples apart. -/
def tally (text : List UInt8) : List UInt8 :=
  List.replicate 31 0 ++ [text.foldl (fun n byte => 31 * n + byte) 0]

def signer : ReceiptSignerBinding := ⟨goString "signer", goString "key", 1, goString "profile"⟩

def worker : ExecutorBinding :=
  ⟨.worker, none,
    some ⟨id 1, goString "executor", 1, id 2, 1, digest 0, goString "recipient", 1, signer⟩⟩

/-- The initial lease and two renewals of it. -/
def lease : LeaseBinding := ⟨id 3, 1, 10, 20, 40⟩

def renewal : LeaseBinding := ⟨id 3, 2, 15, 30, 40⟩

def secondRenewal : LeaseBinding := ⟨id 3, 3, 25, 38, 40⟩

def authorization : AssignmentAuthorization :=
  ⟨id 7, worker, [id 8], makeAssignmentItemSetDigest tally [id 8], digest 0, some (id 9),
    some (digest 0), some lease, 1⟩

def attempt : AuthorizedAttempt :=
  ⟨⟨1, id 6, id 5, 1, 1, .claimed, .fixedWorkers,
    ⟨goString "a", goString "b", goString "c", digest 0, goString "d", goString "e", digest 0,
      digest 0,
      none⟩,
    digest 0, digest 0, digest 0, digest 0, none, none, none,
    ⟨[authorization], AssignmentPlan.makeDigest tally ⟨[authorization], []⟩⟩,
    some (digest 0), none, none, none, signer, some signer, none, 1, none, some []⟩⟩

def assignment : AssignmentRecord :=
  ⟨1, id 7, id 5, id 6, 1, .claimed, worker, [id 8], makeAssignmentItemSetDigest tally [id 8],
    digest 0,
    some (id 9), some (digest 0), some lease, some secondRenewal, 1, 1, signer, some signer, 1,
      none,
    some [id 0, id 4]⟩

/-- The receipt that makes this the current lease. -/
def renewed (receiptID : GoString) (lease : LeaseBinding) : VerifiedReceipt :=
  let record : ReceiptRecord :=
    ⟨1, receiptID, id 5, id 6, some (id 7), none, .leaseRenewed, .worker, none, none, none, none,
      none,
      some lease.id, some lease.revision, some lease.expiresAt, 1, goString "signer",
        goString "key", 1,
      [], [], lease.issuedAt⟩
  let subject := assignment.receiptSubjectDigest tally record
  let signed := { record with subjectDigest := subject }
  ⟨{ signed with idempotencyKey := signed.makeIdempotencyKey tally }, signer, subject⟩

/-- Their receipts; the identifiers are in the order of the leases. -/
def renewalReceipts : List VerifiedReceipt := [renewed (id 0) renewal, renewed (id 4) secondRenewal]

end Sample

open Sample

/-- The receipts stand in the order of the revisions, so that sorting leaves them. -/
theorem Sample.history : assignment.validatedLeaseHistory tally renewalReceipts =
    .ok [lease, renewal, secondRenewal] := by
  unfold AssignmentRecord.validatedLeaseHistory AssignmentRecord.orderedRenewals
  rw [List.mergeSort_of_pairwise (by decide +kernel)]
  decide +kernel

theorem Sample.accepted :
    assignment.validateAuthorizedBy tally attempt renewalReceipts = .ok () := by
  have hfind : attempt.record.assignmentPlan.assignments.find? (·.assignmentID == assignment.id) =
      some authorization := rfl
  have hindex : newVerifiedReceiptIndex tally renewalReceipts = .ok renewalReceipts :=
    bind_eq_ok.mpr ⟨(), by decide +kernel, bind_eq_ok.mpr ⟨(), by decide +kernel, rfl⟩⟩
  refine bind_eq_ok.mpr ⟨(), by decide +kernel, bind_eq_ok.mpr ⟨(), by decide +kernel, ?_⟩⟩
  simp only [hfind]
  refine bind_eq_ok.mpr ⟨(), by decide +kernel, bind_eq_ok.mpr ⟨(), by decide +kernel, ?_⟩⟩
  refine bind_eq_ok.mpr ⟨(), by decide +kernel, bind_eq_ok.mpr ⟨_, hindex, ?_⟩⟩
  exact bind_eq_ok.mpr ⟨_, history, by decide +kernel⟩

/-- The receipts are accepted in the other order too, and make the leases in the order of the
revisions. -/
theorem lease_history_sample :
    assignment.validateAuthorizedBy tally attempt renewalReceipts = .ok () ∧
      assignment.validateAuthorizedBy tally attempt renewalReceipts.reverse = .ok () ∧
      ∃ current ∈ assignment.currentLease, ∃ renewals leases,
        Renewed current lease renewals leases ∧
        renewals.map (fun r => r.record.leaseRevision.map UInt64.toNat) = [some 2, some 3] ∧
        current.expiresAt ≤ lease.maximumExpiresAt := by
  obtain ⟨hperm, hworker⟩ := @lease_history tally assignment attempt renewalReceipts
  obtain ⟨initial, current, renewals, leases, hinitial, hcurrent, -, -, hrenewed, hrevisions, -,
    hlimit⟩ :=
    hworker rfl accepted
  obtain rfl : lease = initial := Option.some.inj hinitial
  obtain rfl : secondRenewal = current := Option.some.inj hcurrent
  exact ⟨accepted, (hperm _ (List.reverse_perm _)).mpr accepted, _, hcurrent, renewals, leases,
    hrenewed, hrevisions,
    hlimit⟩

end FacetsNode.ComputeQueue
