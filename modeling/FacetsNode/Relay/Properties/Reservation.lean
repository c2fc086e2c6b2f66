import FacetsNode.Relay.Properties.Representation

/-!
# Blob reservations

An upload reserves its capacity when it is created and gives it back when it is finalized; two
running totals of the domain stand for the reservations of the uploads that are still pending.
Finalizing asks whether its own retry identifier is known, not whether the upload is finalized
already, so a second finalization under another retry identifier gives the same reservation back
twice. Without that, the totals are right.

* `PendingOK` — the totals, as sums over the upload table;
* `reserved_of_run` — they are right in every run in which no upload is finalized twice.
-/

namespace FacetsNode.Relay

/-- The uploads that are not finalized. -/
def MemoryDomain.pendingUploads (d : MemoryDomain) : List MemoryBlobUpload :=
  (d.blobUploads.pairs.map Prod.snd).filter (fun upload => upload.status.finalized = false)

/-- A finalization under a new retry identifier is for a pending upload. -/
def FinalizesPending (s : MemoryStore) : Operation → Prop
  | .finalizeBlobUpload credential request _ _ =>
    ∀ d, s.domains.get? ⟨credential.tenantID, credential.domainID⟩ = some d →
      d.blobUploadFinalizations.get? request.retryID = none →
        ∀ upload, d.blobUploads.get? request.uploadID = some upload →
          upload.status.finalized = false
  | _ => True

namespace MemoryDomain

variable {s : MemoryStore} {op : Operation} {key : DomainKey} {d d' : MemoryDomain} {now : Int}

/-! ## The invariant -/

/-- What one upload adds to the two totals. -/
def pendingCount (upload : MemoryBlobUpload) : Int := if upload.status.finalized then 0 else 1

def pendingBytes (upload : MemoryBlobUpload) : Int :=
  if upload.status.finalized then 0 else upload.status.byteCount

/-- The two totals are sums over the uploads, and no upload has a negative size. -/
structure PendingOK (d : MemoryDomain) : Prop where
  count : d.reservedBlobCount = d.blobUploads.sumBy pendingCount
  bytes : d.reservedBlobBytes = d.blobUploads.sumBy pendingBytes
  nonneg : ∀ {id upload}, d.blobUploads.get? id = some upload → 0 ≤ upload.status.byteCount

theorem PendingOK.congr (h : d.PendingOK) (hcount : d'.reservedBlobCount = d.reservedBlobCount)
    (hbytes : d'.reservedBlobBytes = d.reservedBlobBytes)
    (huploads : d'.blobUploads = d.blobUploads) : d'.PendingOK := by
  refine ⟨?_, ?_, ?_⟩
  · rw [hcount, huploads]
    exact h.count
  · rw [hbytes, huploads]
    exact h.bytes
  · rw [huploads]
    exact h.nonneg

theorem PendingOK.expiry (h : d.PendingOK) (hexpiry : Expiry op d d') : d'.PendingOK :=
  h.congr (hexpiry.frame MemoryDomain.reservedBlobCount fun _ _ _ _ _ => rfl)
    (hexpiry.frame MemoryDomain.reservedBlobBytes fun _ _ _ _ _ => rfl) hexpiry.blobUploads

open GoMap

theorem PendingOK.fileUpload (h : d.PendingOK) {request}
    (hcount : 0 ≤ request.byteCount) (hnew : d.blobUploads.get? request.uploadID = none)
    (subscriptionID memberID : UUID) :
    (d.fileUpload (newUpload request subscriptionID memberID)).PendingOK where
  count := by
    show d.reservedBlobCount + 1 = sumBy pendingCount (set _ request.uploadID _)
    rw [sumBy_set_of_none hnew, h.count]
    simp [pendingCount, newUpload]
    omega
  bytes := by
    show d.reservedBlobBytes + request.byteCount = sumBy pendingBytes (set _ request.uploadID _)
    rw [sumBy_set_of_none hnew, h.bytes]
    simp [pendingBytes, newUpload]
    omega
  nonneg := by
    intro id upload hget
    have hget : (d.blobUploads.set request.uploadID (newUpload request subscriptionID
      memberID)).get? id = some upload := hget
    rw [get?_set] at hget
    split at hget
    · cases hget
      exact hcount
    · exact h.nonneg hget

/-- An upload is replaced by one of the same size; the totals move with its flag. -/
theorem PendingOK.setUpload (h : d.PendingOK) {id old u}
    (hold : d.blobUploads.get? id = some old) (hsize : u.status.byteCount = old.status.byteCount)
    (huploads : d'.blobUploads = d.blobUploads.set id u)
    (hcount : d'.reservedBlobCount = d.reservedBlobCount - pendingCount old + pendingCount u)
    (hbytes : d'.reservedBlobBytes = d.reservedBlobBytes - pendingBytes old + pendingBytes u) :
    d'.PendingOK where
  count := by rw [huploads, sumBy_set_of_some hold, hcount, h.count]
  bytes := by rw [huploads, sumBy_set_of_some hold, hbytes, h.bytes]
  nonneg := by
    intro id' upload hget
    rw [huploads, get?_set] at hget
    split at hget
    · cases hget
      exact hsize ▸ h.nonneg hold
    · exact h.nonneg hget

/-- Giving the reservation of a pending upload back. -/
theorem PendingOK.release (h : d.PendingOK) {request upload result}
    (hupload : d.blobUploads.get? request.uploadID = some upload)
    (hcount : request.byteCount = upload.status.byteCount)
    (hpending : upload.status.finalized = false) :
    (d.releaseUpload request upload now result).PendingOK := by
  refine h.setUpload hupload (u := finalizedUpload upload now) rfl rfl ?_ ?_
  · show d.reservedBlobCount - 1 = _
    simp [pendingCount, finalizedUpload, hpending]
  · show d.reservedBlobBytes - request.byteCount = _
    simp [pendingBytes, finalizedUpload, hpending, hcount]

/-! ## Steps and runs -/

theorem PendingOK.step (h : d.PendingOK) (hd : s.domains.get? key = some d)
    (hpending : FinalizesPending s op) (hstep : DomainStep s key op d d') : d'.PendingOK := by
  obtain @⟨d₁, hexpiry, heffect⟩ := hstep
  have h₁ := h.expiry hexpiry
  cases heffect with
  | authority heq =>
    rw [heq]
    exact h₁.congr rfl rfl rfl
  | testSubscription _ heq => exact ensured heq fun _ => h₁.congr rfl rfl rfl
  | createUpload _ hcount hnew => exact h₁.fileUpload hcount hnew _ _
  | @appendChunk _ request now _ upload _ hupload =>
    rw [← hexpiry.blobUploads] at hupload
    refine h₁.setUpload hupload (u := appendedUpload upload request now) rfl rfl ?_ ?_
    · show d₁.reservedBlobCount = _ - pendingCount upload + pendingCount upload
      omega
    · show d₁.reservedBlobBytes = _ - pendingBytes upload + pendingBytes upload
      omega
  | finalizeExisting hkey _ _ hupload hcount hfresh =>
    subst hkey
    have hflag := hpending d hd hfresh _ hupload
    rw [← hexpiry.blobUploads] at hupload
    exact h₁.release hupload hcount hflag
  | finalizeNew hkey _ _ hupload hcount _ _ hfresh =>
    subst hkey
    have hflag := hpending d hd hfresh _ hupload
    rw [← hexpiry.blobUploads] at hupload
    refine PendingOK.release ?_ hupload hcount hflag
    exact h₁.congr rfl rfl rfl
  | _ => exact h₁.congr rfl rfl rfl

theorem PendingOK.create (p : DomainProvisioning) : (MemoryDomain.create p).PendingOK :=
  ⟨rfl, rfl, fun hget => by cases hget⟩

theorem PendingOK.of_run {ttl : Option Int} {ops : List Operation}
    (hops : Along Operation.apply FinalizesPending (MemoryStore.newMemoryStore ttl) ops)
    (hd : (run Operation.apply (MemoryStore.newMemoryStore ttl) ops).domains.get? key = some d) :
    d.PendingOK :=
  domain_invariant_along (I := fun _ d => d.PendingOK) (fun _ p _ => .create p)
    (fun _ _ _ _ _ _ hpending hd h hstep => h.step hd hpending hstep) hops hd

/-- The sums, over the list of the pending uploads. -/
theorem sumBy_pending (f : MemoryBlobUpload → Int) (uploads : GoMap UUID MemoryBlobUpload) :
    uploads.sumBy (fun upload => if upload.status.finalized then 0 else f upload) =
      (((uploads.pairs.map Prod.snd).filter (fun upload => upload.status.finalized = false)).map
        f).sum := by
  unfold sumBy pairs
  rw [List.map_map]
  induction uploads.entries with
  | nil => rfl
  | cons e entries ih =>
    rw [List.map_cons, List.sum_cons, ih, List.map_cons, List.filter_cons]
    cases hflag : e.2.status.finalized <;> simp [hflag]

/-- What the two totals of a domain stand for. -/
structure Reserved (d : MemoryDomain) : Prop where
  count : d.reservedBlobCount = d.pendingUploads.length
  bytes : d.reservedBlobBytes = (d.pendingUploads.map (fun u => u.status.byteCount)).sum
  count_nonneg : 0 ≤ d.reservedBlobCount
  bytes_nonneg : 0 ≤ d.reservedBlobBytes

theorem PendingOK.reserved (h : d.PendingOK) : d.Reserved := by
  have hcount : d.reservedBlobCount = d.pendingUploads.length := by
    rw [h.count]
    refine (sumBy_pending (fun _ => 1) d.blobUploads).trans ?_
    rw [List.map_const', List.sum_replicate]
    simp [pendingUploads]
  have hbytes : d.reservedBlobBytes = (d.pendingUploads.map (fun u => u.status.byteCount)).sum := by
    rw [h.bytes]
    exact sumBy_pending (fun upload => upload.status.byteCount) d.blobUploads
  refine ⟨hcount, hbytes, ?_, ?_⟩
  · rw [hcount]
    exact Int.natCast_nonneg _
  · rw [hbytes]
    refine List.sum_nonneg fun bytes hbytes => ?_
    obtain ⟨upload, hupload, rfl⟩ := List.mem_map.mp hbytes
    obtain ⟨⟨id, _⟩, hp, rfl⟩ := List.mem_map.mp (List.mem_of_mem_filter hupload)
    exact h.nonneg (mem_pairs.mp hp)

/-- **Reservation accounting.** In every run in which no upload is finalized twice, the totals of
every domain are the count and the size of its pending uploads. -/
theorem reserved_of_run {ttl : Option Int} {ops : List Operation}
    (hops : Along Operation.apply FinalizesPending (MemoryStore.newMemoryStore ttl) ops)
    (hd : (run Operation.apply (MemoryStore.newMemoryStore ttl) ops).domains.get? key = some d) :
    d.Reserved := (PendingOK.of_run hops hd).reserved

end MemoryDomain

/-! ## Sample uploads -/

namespace Sample

def blobID (byte : UInt8) : GoString := Base64Url.encode (List.replicate 32 byte)

/-- A blob whose bytes arrive in one chunk. -/
def upload (uploadID : UUID) (blobID : GoString) (byteCount : Int) : List Operation :=
  [.createBlobUpload writer ⟨uploadID + 1000, uploadID, blobID, byteCount, 5⟩ 5,
   .appendBlobUploadChunk writer ⟨uploadID, 0, byteCount, List.replicate 64 48⟩ 6
     (some fun _ => .ok ())]

def finalization (retryID uploadID : UUID) (blobID : GoString) (byteCount : Int) : Operation :=
  .finalizeBlobUpload writer ⟨retryID, uploadID, blobID, byteCount, 7⟩ 7 (some fun _ => .ok ())

end Sample

open Sample

theorem reserved_sample : ∃ d, (store (upload 90 (blobID 1) 8 ++ upload 91 (blobID 2) 9 ++
          [finalization 92 90 (blobID 1) 8])).domains.get? ⟨1, 2⟩ = some d ∧
      (d.reservedBlobCount = 1 ∧ d.reservedBlobBytes = 9) ∧ d.Reserved := by
  have hbefore : ∀ d ∈ (store (upload 90 (blobID 1) 8 ++
      upload 91 (blobID 2) 9)).domains.get? ⟨1, 2⟩,
      ∀ upload ∈ d.blobUploads.get? 90, upload.status.finalized = false := by
    decide +kernel
  have hops : Along Operation.apply FinalizesPending (MemoryStore.newMemoryStore none)
      (setup ++ (upload 90 (blobID 1) 8 ++ upload 91 (blobID 2) 9 ++
          [finalization 92 90 (blobID 1) 8])) := by
    rw [← List.append_assoc, along_concat]
    refine ⟨by simp [Along, setup, upload, FinalizesPending], ?_⟩
    intro d hd _ upload hupload
    exact hbefore d hd upload hupload
  obtain ⟨d, hd, hafter⟩ : ∃ d ∈ (store (upload 90 (blobID 1) 8 ++ upload 91 (blobID 2) 9 ++
      [finalization 92 90 (blobID 1) 8])).domains.get? ⟨1, 2⟩,
        d.reservedBlobCount = 1 ∧ d.reservedBlobBytes = 9 := by
    decide +kernel
  exact ⟨d, hd, hafter, MemoryDomain.reserved_of_run hops hd⟩

/-- The same upload, finalized under two retry identifiers. -/
theorem reserved_below_zero : ∃ d, (store (upload 90 (blobID 1) 8 ++
        [finalization 92 90 (blobID 1) 8,
         finalization 93 90 (blobID 1) 8])).domains.get? ⟨1, 2⟩ = some d ∧
      d.pendingUploads.length = 0 ∧ d.reservedBlobCount = -1 ∧ d.reservedBlobBytes = -8 := by
  show ∃ d ∈ GoMap.get? _ _, _
  decide +kernel

end FacetsNode.Relay
