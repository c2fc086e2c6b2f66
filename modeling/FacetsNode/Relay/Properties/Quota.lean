import FacetsNode.Relay.Properties.Reservation

/-!
# Quotas are ceilings

A domain and its tenant each bound four resources. What counts against a bound is what is stored and
what is reserved (`MemoryDomain.usage`); every operation frees resources or charges some of them,
and one that charges has looked at the bounds first (`UsageStep`). The one exception is a direct
blob publication, which looks at the domain's bound as if nothing were reserved: the ceilings hold
in every run in which it leaves the reservations their room, and in which no reservation is given
back twice.

* `usageStep_of_step` — what one step of a domain does to its usage;
* `Within.of_run` — every domain and every tenant of every such run is within its bounds.
-/

namespace FacetsNode.Relay

/-! ## Usage -/

inductive Resource where
  | messageCount
  | messageBytes
  | blobCount
  | blobBytes

def DomainRegistration.ceiling (r : DomainRegistration) : Resource → Int
  | .messageCount => r.maximumMessageCount
  | .messageBytes => r.maximumMessageByteCount
  | .blobCount => r.maximumBlobCount
  | .blobBytes => r.maximumBlobByteCount

def TenantQuota.ceiling (q : TenantQuota) : Resource → Int
  | .messageCount => q.maximumAggregateMessageCount
  | .messageBytes => q.maximumAggregateMessageByteCount
  | .blobCount => q.maximumAggregateBlobCount
  | .blobBytes => q.maximumAggregateBlobByteCount

/-- What a domain stores. -/
def MemoryDomain.stored (d : MemoryDomain) : Resource → Int
  | .messageCount => d.messages.length
  | .messageBytes => d.messageBytes
  | .blobCount => d.blobs.len
  | .blobBytes => d.blobBytes

/-- What a domain stores or has promised to store. -/
def MemoryDomain.usage (d : MemoryDomain) : Resource → Int
  | .messageCount => d.messages.length
  | .messageBytes => d.messageBytes
  | .blobCount => d.blobs.len + d.reservedBlobCount
  | .blobBytes => d.blobBytes + d.reservedBlobBytes

/-- One more message of `n` bytes. -/
def messageCost (n : Int) : Resource → Int
  | .messageCount => 1
  | .messageBytes => n
  | .blobCount => 0
  | .blobBytes => 0

/-- One more blob of `n` bytes, stored or reserved. -/
def blobCost (n : Int) : Resource → Int
  | .messageCount => 0
  | .messageBytes => 0
  | .blobCount => 1
  | .blobBytes => n

/-- A direct publication of a new blob in a bounded domain finds room beside the reservations, once
the fences that are due are closed. This is the test an upload has to pass. -/
def LeavesRoom (s : MemoryStore) : Operation → Prop
  | .commitBlobPublish credential blobID byteCount now =>
    ∀ d, s.domains.get? ⟨credential.tenantID, credential.domainID⟩ = some d →
      d.blobs.get? blobID = none → d.registration.usesSharedCapacity = false →
        ((d.refreshMemoryFence now).blobs.len : Int) +
          (d.refreshMemoryFence now).reservedBlobCount <
            d.registration.maximumBlobCount ∧
          byteCount ≤ d.registration.maximumBlobByteCount - (d.refreshMemoryFence now).blobBytes -
            (d.refreshMemoryFence now).reservedBlobBytes
  | _ => True

open GoMap

open List

namespace MemoryDomain

variable {s : MemoryStore} {op : Operation} {key : DomainKey} {d d' : MemoryDomain} {now : Int}
  {id fenceID : UUID} {fence : MemoryCheckpointFence} {status : CheckpointFenceStatus}

/-! ## Sizes -/

/-- Nothing stored has a negative size. -/
structure SizesOK (d : MemoryDomain) : Prop where
  messages : ∀ m ∈ d.messages, 0 ≤ m.byteCount
  blobs : ∀ {blobID blob}, d.blobs.get? blobID = some blob → 0 ≤ blob.byteCount

theorem SizesOK.fewer (h : d.SizesOK) (hmessages : ∀ m ∈ d'.messages, m ∈ d.messages)
    (hblobs : ∀ blobID blob, d'.blobs.get? blobID = some blob → d.blobs.get? blobID = some blob) :
    d'.SizesOK :=
  ⟨fun m hm => h.messages m (hmessages m hm), fun hget => h.blobs (hblobs _ _ hget)⟩

theorem get?_of_get?_deleteAll {blobs : GoMap GoString BlobMetadata} {ids : List GoString}
    {blobID blob} (h : (blobs.deleteAll ids).get? blobID = some blob) :
    blobs.get? blobID = some blob := by
  rw [get?_deleteAll] at h
  split at h
  · cases h
  · exact h

theorem SizesOK.closeFence (h : d.SizesOK) (fenceID : UUID) :
    (d.closeFence id fence status fenceID).SizesOK :=
  h.fewer (fun _ hm => mem_of_mem_filter hm) fun _ _ hget => get?_of_get?_deleteAll hget

theorem SizesOK.expiry (h : d.SizesOK) (hexpiry : Expiry op d d') : d'.SizesOK :=
  hexpiry.induction (fun _ _ _ h _ _ => h.closeFence _) h

/-- One more blob. -/
theorem SizesOK.addBlob (h : d.SizesOK) {b}
    (hcount : 0 ≤ b.byteCount) (hmessages : d'.messages = d.messages)
    (hblobs : d'.blobs = d.blobs.set b.blobID b) : d'.SizesOK := by
  refine ⟨hmessages ▸ h.messages, fun hget => ?_⟩
  rw [hblobs, get?_set] at hget
  split at hget
  · cases hget
    exact hcount
  · exact h.blobs hget

theorem ciphertextByteCount_nonneg {envelope : Envelope} {byteCount : Int}
    (h : envelope.ciphertextByteCount = .ok byteCount) : 0 ≤ byteCount := by
  obtain ⟨_, -, h⟩ := bind_eq_ok.mp h
  split at h
  · cases h
    exact Int.natCast_nonneg _
  · cases h

theorem SizesOK.step (h : d.SizesOK) (hstep : DomainStep s key op d d') : d'.SizesOK := by
  obtain ⟨hexpiry, heffect⟩ := hstep
  have h₁ := h.expiry hexpiry
  cases heffect with
  | authority heq => rw [heq]; exact ⟨h₁.messages, h₁.blobs⟩
  | testSubscription _ heq => exact ensured heq fun _ => ⟨h₁.messages, h₁.blobs⟩
  | publish _ _ _ _ _ _ hbytes =>
    refine ⟨fun m hm => ?_, h₁.blobs⟩
    rcases mem_append.mp hm with hm | hm
    · exact h₁.messages m hm
    · rw [mem_singleton] at hm
      rw [hm]
      exact ciphertextByteCount_nonneg hbytes
  | abortFence => exact ⟨(h₁.closeFence _).messages, (h₁.closeFence _).blobs⟩
  | collect =>
    exact h₁.fewer (fun _ hm => mem_of_mem_filter hm)
      fun _ _ hget => get?_of_get?_deleteAll hget
  | @commitBlob credential blobID byteCount now _ _ _ hcount =>
    exact h₁.addBlob (b := ⟨credential.tenantID, credential.domainID, blobID,
      credential.memberID, byteCount, now⟩) hcount rfl rfl
  | @finalizeNew credential request now _ upload _ _ _ _ _ _ _ hnonneg =>
    exact h₁.addBlob (b := ⟨credential.tenantID, credential.domainID,
      request.relayBlobID, upload.publisherMemberID, request.byteCount, now⟩) hnonneg rfl rfl
  | _ => exact ⟨h₁.messages, h₁.blobs⟩

theorem SizesOK.of_reachable (hs : Reachable s) (hd : s.domains.get? key = some d) : d.SizesOK :=
  hs.domain_invariant (fun _ _ => ⟨fun _ hm => (not_mem_nil hm).elim, fun hget => by cases hget⟩)
    (fun _ _ _ _ _ h hstep => h.step hstep) hd

/-! ## What frees resources -/

theorem usage_closeFence_le (h : d.SizesOK) (r : Resource) :
    (d.closeFence id fence status fenceID).usage r ≤ d.usage r := by
  cases r with
  | messageCount => exact Int.ofNat_le.mpr (length_filter_le _ _)
  | messageBytes =>
    show d.messageBytes - ((d.fenceMessages fenceID).map MemoryMessage.byteCount).sum ≤ _
    have hremoved : 0 ≤ ((d.fenceMessages fenceID).map MemoryMessage.byteCount).sum := by
      refine sum_nonneg fun bytes hbytes => ?_
      obtain ⟨m, hm, rfl⟩ := mem_map.mp hbytes
      exact h.messages m (mem_of_mem_filter hm)
    exact Int.sub_le_self _ hremoved
  | blobCount =>
    have hlen := d.blobs.len_deleteAll_le (d.fenceBlobIDs fenceID)
    show ((d.blobs.deleteAll (d.fenceBlobIDs fenceID)).len : Int) + d.reservedBlobCount ≤
      (d.blobs.len : Int) + d.reservedBlobCount
    omega
  | blobBytes =>
    have hremoved : 0 ≤
        ((d.blobsAmong (d.fenceBlobIDs fenceID)).map (fun p => p.2.byteCount)).sum := by
      refine sum_nonneg fun bytes hbytes => ?_
      obtain ⟨p, hp, rfl⟩ := mem_map.mp hbytes
      obtain ⟨blobID, -, hblob⟩ := mem_filterMap.mp hp
      obtain ⟨blob, hget, rfl⟩ := Option.map_eq_some_iff.mp hblob
      exact h.blobs hget
    show d.blobBytes - ((d.blobsAmong (d.fenceBlobIDs fenceID)).map
      (fun p => p.2.byteCount)).sum + d.reservedBlobBytes ≤ d.blobBytes + d.reservedBlobBytes
    omega

theorem usage_expiry_le (h : d.SizesOK) (hexpiry : Expiry op d d') (r : Resource) :
    d'.usage r ≤ d.usage r := by
  refine (hexpiry.induction (P := fun d' => d'.SizesOK ∧ d'.usage r ≤ d.usage r) ?_
    ⟨h, le_rfl⟩).2
  rintro d₁ id fence ⟨h₁, hle⟩ - -
  exact ⟨h₁.closeFence _, (usage_closeFence_le h₁ r).trans hle⟩

theorem usage_deleteCollected_le (h : d.SizesOK) (hwf : d.WellFormed) (checkpointID : UUID)
    {checkpoint} (hlatest : d.latestCheckpoint = some checkpoint)
    (messageLimit blobLimit : Nat) (r : Resource) :
    (d.deleteCollected checkpointID checkpoint (collectedMessages checkpoint messageLimit)
      (collectedBlobs checkpoint blobLimit)).usage r ≤ d.usage r := by
  cases r with
  | messageCount => exact Int.ofNat_le.mpr (length_filter_le _ _)
  | messageBytes =>
    have hremoved : 0 ≤
        ((collectedMessages checkpoint messageLimit).map MemoryMessage.byteCount).sum := by
      refine sum_nonneg fun bytes hbytes => ?_
      obtain ⟨m, hm, rfl⟩ := mem_map.mp hbytes
      exact h.messages m (hwf.checkpoints.of_mem_collectedMessages hlatest hm).2.1
    exact Int.sub_le_self _ hremoved
  | blobCount =>
    have hlen := d.blobs.len_deleteAll_le ((collectedBlobs checkpoint blobLimit).map Prod.fst)
    show ((d.blobs.deleteAll ((collectedBlobs checkpoint blobLimit).map Prod.fst)).len : Int) +
      d.reservedBlobCount ≤ (d.blobs.len : Int) + d.reservedBlobCount
    omega
  | blobBytes =>
    have hremoved : 0 ≤
        ((collectedBlobs checkpoint blobLimit).map (fun p => p.2.byteCount)).sum := by
      refine sum_nonneg fun bytes hbytes => ?_
      obtain ⟨p, hp, rfl⟩ := mem_map.mp hbytes
      exact h.blobs (hwf.checkpoints.deletionBlobs hlatest (get?_of_mem_collectedBlobs hp)).1
    show d.blobBytes - ((collectedBlobs checkpoint blobLimit).map (fun p => p.2.byteCount)).sum +
      d.reservedBlobBytes ≤ d.blobBytes + d.reservedBlobBytes
    omega

end MemoryDomain

/-! ## What one step does -/

/-- A tenant with this registration lets the domains of `s` grow by `cost`. -/
def Affords (s : MemoryStore) (tenantID : UUID) (cost : Resource → Int) : Prop :=
  ∃ tenant, s.tenants.get? tenantID = some tenant ∧
    (tenant.registration.usesSharedCapacity = false → ∀ r, cost r = 0 ∨
      s.tenantSum tenantID (fun d => d.usage r) + cost r ≤ tenant.registration.quota.ceiling r)

/-- A step of the domain under `key` frees resources, or charges some after looking at the bounds of
the domain and of its tenant. -/
inductive UsageStep (s : MemoryStore) (key : DomainKey) (d d' : MemoryDomain) : Prop
  | frees (h : ∀ r, d'.usage r ≤ d.usage r)
  | charges {d₁ : MemoryDomain} {c : Resource → Int} (hfrees : ∀ r, d₁.usage r ≤ d.usage r)
      (hcost : ∀ r, d'.usage r = d₁.usage r + c r)
      (hdomain : d.registration.usesSharedCapacity = false →
        ∀ r, c r = 0 ∨ d₁.usage r + c r ≤ d.registration.ceiling r)
      (htenant : Affords (s.setDomain key d₁) key.tenantID c)

open MemoryStore

namespace MemoryDomain

variable {s : MemoryStore} {op : Operation} {key : DomainKey} {d d' : MemoryDomain}

/-- The bounds of a domain are for good. -/
theorem bounds_step (hstep : DomainStep s key op d d') :
    d'.registration.usesSharedCapacity = d.registration.usesSharedCapacity ∧
      d'.registration.ceiling = d.registration.ceiling := by
  obtain @⟨d₁, hexpiry, heffect⟩ := hstep
  have hsame : d₁.registration = d.registration :=
    hexpiry.frame MemoryDomain.registration fun _ _ _ _ _ => rfl
  rw [← hsame]
  cases heffect with
  | authority heq => rw [heq]; exact ⟨rfl, rfl⟩
  | testSubscription _ heq => exact ensured heq fun _ => ⟨rfl, rfl⟩
  | _ => exact ⟨rfl, rfl⟩

theorem affords_message {tenantID} {n : Int}
    (h : s.ensureTenantMessageCapacityLocked tenantID n = .ok ()) :
    Affords s tenantID (messageCost n) := by
  unfold ensureTenantMessageCapacityLocked at h
  split at h
  · cases h
  · next tenant htenant =>
    rw [rejectWhen_eq_ok] at h
    refine ⟨tenant, htenant, fun hbounded r => ?_⟩
    have hroom := not_or.mp fun hfull => h ⟨hbounded, hfull⟩
    cases r with
    | messageCount =>
      right
      show s.tenantSum tenantID (fun d => d.messages.length) + 1 ≤
        tenant.registration.maximumAggregateMessageCount
      omega
    | messageBytes =>
      right
      show s.tenantSum tenantID (fun d => d.messageBytes) + n ≤
        tenant.registration.maximumAggregateMessageByteCount
      omega
    | blobCount => exact .inl rfl
    | blobBytes => exact .inl rfl

theorem tenantSum_add (tenantID : UUID) (f g : MemoryDomain → Int) :
    s.tenantSum tenantID (fun d => f d + g d) =
      s.tenantSum tenantID f + s.tenantSum tenantID g := sum_map_add

theorem affords_blob {tenantID} {n : Int}
    (h : s.ensureTenantBlobCapacityLocked tenantID n = .ok ()) :
    Affords s tenantID (blobCost n) := by
  unfold ensureTenantBlobCapacityLocked at h
  split at h
  · cases h
  · next tenant htenant =>
    rw [rejectWhen_eq_ok] at h
    refine ⟨tenant, htenant, fun hbounded r => ?_⟩
    have hroom := not_or.mp fun hfull => h ⟨hbounded, hfull⟩
    cases r with
    | messageCount => exact .inl rfl
    | messageBytes => exact .inl rfl
    | blobCount =>
      right
      have hsum := tenantSum_add (s := s) tenantID (fun d => (d.blobs.len : Int))
        (fun d => d.reservedBlobCount)
      show s.tenantSum tenantID (fun d => (d.blobs.len : Int) + d.reservedBlobCount) + 1 ≤
        tenant.registration.maximumAggregateBlobCount
      omega
    | blobBytes =>
      right
      have hsum := tenantSum_add (s := s) tenantID (fun d => d.blobBytes)
        (fun d => d.reservedBlobBytes)
      show s.tenantSum tenantID (fun d => d.blobBytes + d.reservedBlobBytes) + n ≤
        tenant.registration.maximumAggregateBlobByteCount
      omega

/-- A blob is charged if there is room for it beside what is stored and reserved. -/
theorem blob_room {n : Int}
    (hcount : (d'.blobs.len : Int) + d'.reservedBlobCount < d.registration.maximumBlobCount)
    (hbytes : n ≤ d.registration.maximumBlobByteCount - d'.blobBytes - d'.reservedBlobBytes)
    (r : Resource) : blobCost n r = 0 ∨ d'.usage r + blobCost n r ≤ d.registration.ceiling r := by
  cases r with
  | messageCount => exact .inl rfl
  | messageBytes => exact .inl rfl
  | blobCount =>
    right
    show (d'.blobs.len : Int) + d'.reservedBlobCount + 1 ≤ d.registration.maximumBlobCount
    omega
  | blobBytes =>
    right
    show d'.blobBytes + d'.reservedBlobBytes + n ≤ d.registration.maximumBlobByteCount
    omega

theorem message_room {n : Int}
    (hcount : (d'.messages.length : Int) < d.registration.maximumMessageCount)
    (hbytes : n ≤ d.registration.maximumMessageByteCount - d'.messageBytes) (r : Resource) :
    messageCost n r = 0 ∨ d'.usage r + messageCost n r ≤ d.registration.ceiling r := by
  cases r with
  | messageCount => exact .inr hcount
  | messageBytes =>
    right
    show d'.messageBytes + n ≤ d.registration.maximumMessageByteCount
    omega
  | blobCount => exact .inl rfl
  | blobBytes => exact .inl rfl

/-- A new blob is charged where it is stored. -/
theorem usage_storeBlob {b} (hnew : d.blobs.get? b.blobID = none)
    (subscriptionID : UUID) (r : Resource) :
    (d.storeBlob b subscriptionID).usage r = d.usage r + blobCost b.byteCount r := by
  cases r with
  | messageCount | messageBytes => exact (Int.add_zero _).symm
  | blobCount =>
    show ((d.blobs.set b.blobID b).len : Int) + d.reservedBlobCount =
      d.blobs.len + d.reservedBlobCount + 1
    rw [len_set_of_none hnew]
    omega
  | blobBytes =>
    show d.blobBytes + b.byteCount + d.reservedBlobBytes =
      d.blobBytes + d.reservedBlobBytes + b.byteCount
    omega

/-- A reservation is freed when it is released. -/
theorem usage_releaseUpload (d : MemoryDomain) (request : BlobUploadFinalizationRequest)
    (upload : MemoryBlobUpload) (now : Int) (result : BlobUploadFinalizationResponse)
    (r : Resource) :
    (d.releaseUpload request upload now result).usage r + blobCost request.byteCount r =
      d.usage r := by
  cases r with
  | messageCount | messageBytes => exact Int.add_zero _
  | blobCount =>
    show (d.blobs.len : Int) + (d.reservedBlobCount - 1) + 1 = d.blobs.len + d.reservedBlobCount
    omega
  | blobBytes =>
    show d.blobBytes + (d.reservedBlobBytes - request.byteCount) + request.byteCount =
      d.blobBytes + d.reservedBlobBytes
    omega

theorem blobCost_nonneg {n : Int} (hn : 0 ≤ n) (r : Resource) : 0 ≤ blobCost n r := by
  cases r <;> simp [blobCost, hn]

theorem usageStep_of_step (hwf : d.WellFormed) (hsizes : d.SizesOK) (hreserved : d.PendingOK)
    (hd : s.domains.get? key = some d) (hroom : LeavesRoom s op)
    (hstep : DomainStep s key op d d') : UsageStep s key d d' := by
  obtain @⟨d₁, hexpiry, heffect⟩ := hstep
  have hfrees := usage_expiry_le hsizes hexpiry
  have hsame : d₁.registration = d.registration :=
    hexpiry.frame MemoryDomain.registration fun _ _ _ _ _ => rfl
  cases heffect with
  | authority heq => rw [heq]; exact .frees hfrees
  | testSubscription _ heq => exact ensured heq fun _ => .frees hfrees
  | @publish _ _ _ byteCount _ _ hkey _ _ _ _ _ _ hquota htenant =>
    subst hkey
    refine .charges (c := messageCost byteCount) hfrees ?_ ?_ (affords_message htenant)
    · intro r
      cases r with
      | messageCount =>
        show ((d₁.messages ++ [_]).length : Int) = d₁.messages.length + 1
        rw [length_append]
        rfl
      | messageBytes => rfl
      | blobCount | blobBytes => exact (Int.add_zero _).symm
    · intro hbounded r
      obtain ⟨hcount, hbytes⟩ := hquota (hsame ▸ hbounded)
      rw [hsame] at hcount hbytes
      exact message_room hcount hbytes r
  | @commitBlob _ _ byteCount _ _ _ hkey _ hnew _ htenant hexpired =>
    subst hkey hexpired
    refine .charges (c := blobCost byteCount) hfrees ?_ ?_ (affords_blob htenant)
    · exact usage_storeBlob (blobs_none_of_expiry hexpiry hnew) _
    · intro hbounded
      obtain ⟨hcount, hbytes⟩ := hroom d hd hnew hbounded
      exact blob_room hcount hbytes
  | @createUpload _ request _ _ _ hkey _ _ hquota htenant =>
    subst hkey
    refine .charges (c := blobCost request.byteCount) hfrees ?_ ?_ (affords_blob htenant)
    · intro r
      cases r with
      | messageCount | messageBytes => exact (Int.add_zero _).symm
      | blobCount | blobBytes => exact (Int.add_assoc _ _ _).symm
    · intro hbounded
      obtain ⟨hcount, hbytes⟩ := hquota (hsame ▸ hbounded)
      rw [hsame] at hcount hbytes
      exact blob_room hcount hbytes
  | abortFence =>
    exact .frees fun r => (usage_closeFence_le (hsizes.expiry hexpiry) r).trans (hfrees r)
  | @collect _ request _ _ _ _ hcheckpoint hplan =>
    have hlatest := (latestCheckpoint_of_plan hplan hcheckpoint).2
    refine .frees fun r => le_trans ?_ (hfrees r)
    exact usage_deleteCollected_le (hsizes.expiry hexpiry) (hwf.expiry hexpiry)
      request.checkpointID hlatest _ _ r
  | @finalizeExisting _ request _ _ upload _ _ _ _ _ hupload hcount =>
    have hnonneg := hcount ▸ hreserved.nonneg hupload
    refine .frees fun r => le_trans ?_ (hfrees r)
    rw [← usage_releaseUpload d₁ request upload]
    exact Int.le_add_of_nonneg_right (blobCost_nonneg hnonneg r)
  | @finalizeNew credential request now _ upload result _ _ _ _ _ _ _ hnew =>
    -- The reservation turns into the blob.
    refine .frees fun r => le_trans (le_of_eq ?_) (hfrees r)
    have hstored := usage_storeBlob (b := ⟨credential.tenantID, credential.domainID,
      request.relayBlobID, upload.publisherMemberID, request.byteCount, now⟩) hnew
        upload.subscriptionID r
    have hreleased := usage_releaseUpload (d₁.storeBlob ⟨credential.tenantID, credential.domainID,
      request.relayBlobID, upload.publisherMemberID, request.byteCount, now⟩
        upload.subscriptionID) request upload now result r
    dsimp only at hstored
    omega
  | _ => exact .frees hfrees

end MemoryDomain

/-! ## The sums of a tenant -/

namespace MemoryStore

variable {s : MemoryStore} {key : DomainKey} {d d' : MemoryDomain} {f g : MemoryDomain → Int}
  {tenantID : UUID}

theorem tenantSum_eq (s : MemoryStore) (tenantID : UUID) (f : MemoryDomain → Int) :
    s.tenantSum tenantID f =
      s.domains.sumPairs (fun key d => if key.tenantID = tenantID then f d else 0) := by
  unfold tenantSum tenantDomains pairs sumPairs
  induction s.domains.entries with
  | nil => rfl
  | cons e entries ih =>
    rw [map_cons, map_cons, sum_cons, ← ih, filter_cons]
    by_cases htenant : e.1.tenantID = tenantID <;> simp [htenant]

theorem tenantSum_setDomain (hd : s.domains.get? key = some d) :
    (s.setDomain key d').tenantSum tenantID f =
      if key.tenantID = tenantID then s.tenantSum tenantID f - f d + f d'
      else s.tenantSum tenantID f := by
  rw [tenantSum_eq, tenantSum_eq]
  show sumPairs _ (s.domains.set key d') = _
  rw [sumPairs_set_of_some hd]
  split
  · rfl
  · omega

/-- A domain without usage adds nothing. -/
theorem tenantSum_newDomain (hnew : s.domains.get? key = none) (hd : f d = 0) :
    (s.setDomain key d).tenantSum tenantID f = s.tenantSum tenantID f := by
  rw [tenantSum_eq, tenantSum_eq]
  show sumPairs _ (s.domains.set key d) = _
  rw [sumPairs_set_of_none hnew, hd, ite_self, Int.zero_add]

/-- A tenant that is not filed has no domains. -/
theorem tenantSum_eq_zero (hs : s.TenantsFiled) (hnone : s.tenants.get? tenantID = none) :
    s.tenantSum tenantID f = 0 := by
  have hempty : s.tenantDomains tenantID = [] := by
    unfold tenantDomains
    rw [map_eq_nil_iff, filter_eq_nil_iff]
    rintro ⟨key, d⟩ hp htenant
    have hfiled := hs key d (mem_pairs.mp hp)
    rw [of_decide_eq_true htenant, hnone] at hfiled
    cases hfiled
  unfold tenantSum
  rw [hempty]
  rfl

theorem tenantSum_le (h : ∀ key d, s.domains.get? key = some d → f d ≤ g d) :
    s.tenantSum tenantID f ≤ s.tenantSum tenantID g := by
  refine sum_le_sum fun d hd => ?_
  obtain ⟨⟨key, _⟩, hp, rfl⟩ := mem_map.mp hd
  exact h key _ (mem_pairs.mp (mem_of_mem_filter hp))

end MemoryStore

/-! ## Stores within their bounds -/

/-- Every domain and every tenant with bounds is within them, reservations included. -/
structure Within (s : MemoryStore) : Prop where
  reachable : Reachable s
  pending : ∀ {key d}, s.domains.get? key = some d → d.PendingOK
  domains : ∀ {key d}, s.domains.get? key = some d → d.registration.usesSharedCapacity = false →
    ∀ r, d.usage r ≤ d.registration.ceiling r
  tenants : ∀ {tenantID tenant}, s.tenants.get? tenantID = some tenant →
    tenant.registration.usesSharedCapacity = false →
    ∀ r, s.tenantSum tenantID (fun d => d.usage r) ≤ tenant.registration.quota.ceiling r

variable {s s' : MemoryStore} {op : Operation} {key : DomainKey} {d d' : MemoryDomain}
  {tenantID : UUID}

/-- The condition on the steps of a run. -/
def KeepsPromises (s : MemoryStore) (op : Operation) : Prop :=
  FinalizesPending s op ∧ LeavesRoom s op

theorem Within.usageStep (h : Within s) (hd : s.domains.get? key = some d)
    (hop : KeepsPromises s op) (hstep : DomainStep s key op d d') : UsageStep s key d d' :=
  MemoryDomain.usageStep_of_step (.of_reachable h.reachable hd) (.of_reachable h.reachable hd)
    (h.pending hd) hd hop.2 hstep

/-- A domain keeps to its own bounds. -/
theorem UsageStep.domain_le (h : UsageStep s key d d')
    (hd : ∀ r, d.usage r ≤ d.registration.ceiling r)
    (hbounded : d.registration.usesSharedCapacity = false) (r : Resource) :
    d'.usage r ≤ d.registration.ceiling r := by
  cases h with
  | frees h => exact (h r).trans (hd r)
  | charges hfrees hcost hdomain =>
    rw [hcost]
    rcases hdomain hbounded r with hzero | hle
    · rw [hzero, Int.add_zero]
      exact (hfrees r).trans (hd r)
    · exact hle

/-- What a step of the store does to the sum of a tenant: nothing, it frees, or it charges what the
tenant affords. -/
inductive SumStep (s s' : MemoryStore) (tenantID : UUID) (r : Resource) : Prop
  | frees (h : s'.tenantSum tenantID (fun d => d.usage r) ≤
      s.tenantSum tenantID (fun d => d.usage r))
  | within {tenant} (htenant : s.tenants.get? tenantID = some tenant)
      (h : tenant.registration.usesSharedCapacity = false →
        s'.tenantSum tenantID (fun d => d.usage r) ≤ tenant.registration.quota.ceiling r)

theorem UsageStep.sum (h : UsageStep s key d d') (hd : s.domains.get? key = some d)
    (tenantID : UUID) (r : Resource) : SumStep s (s.setDomain key d') tenantID r := by
  by_cases htenant : key.tenantID = tenantID
  · subst htenant
    have hsum : (s.setDomain key d').tenantSum key.tenantID (fun d => d.usage r) =
        s.tenantSum key.tenantID (fun d => d.usage r) - d.usage r + d'.usage r := by
      rw [tenantSum_setDomain hd, if_pos rfl]
    cases h with
    | frees h =>
      refine .frees ?_
      have := h r
      omega
    | @charges d₁ c hfrees hcost _ htenant =>
      have hsum₁ : (s.setDomain key d₁).tenantSum key.tenantID (fun d => d.usage r) =
          s.tenantSum key.tenantID (fun d => d.usage r) - d.usage r + d₁.usage r := by
        rw [tenantSum_setDomain hd, if_pos rfl]
      have hcost := hcost r
      have hfrees := hfrees r
      obtain ⟨tenant, hfiled, hroom⟩ := htenant
      by_cases hbounded : tenant.registration.usesSharedCapacity = false
      · rcases hroom hbounded r with hzero | hle
        · exact .frees (by omega)
        · exact .within hfiled fun _ => by omega
      · exact .within hfiled fun hbounded' => absurd hbounded' hbounded
  · refine .frees (le_of_eq ?_)
    rw [tenantSum_setDomain hd, if_neg htenant]

theorem tenantSum_foldl_revokeTarget {revokedAt : Int}
    (targets : List TenantMembershipRevocationItem) (id : UUID) (r : Resource) :
    (targets.foldl (revokeTarget tenantID revokedAt) s).tenantSum id
      (fun d => d.usage r) = s.tenantSum id (fun d => d.usage r) := by
  induction targets generalizing s with
  | nil => rfl
  | cons target targets ih =>
    rw [foldl_cons, ih]
    unfold revokeTarget
    split
    · rfl
    · next d hd =>
      split
      · next member subscription _ _ =>
        -- A revoked membership stores nothing and frees nothing.
        have hsame : (d.revokeMembership target member subscription revokedAt).usage r =
          d.usage r := rfl
        rw [tenantSum_setDomain hd, hsame]
        split
        · omega
        · rfl
      · rfl

theorem usage_create (p : DomainProvisioning) (r : Resource) :
    (MemoryDomain.create p).usage r = 0 := by
  cases r <;> rfl

theorem Within.sumStep (h : Within s) (hop : KeepsPromises s op) (hstep : StoreStep s op s')
    (id : UUID) (r : Resource) : SumStep s s' id r := by
  cases hstep with
  | unchanged | tenant => exact .frees le_rfl
  | domain hd hstep => exact (h.usageStep hd hop hstep).sum hd id r
  | @newDomain _ tenants p hnew =>
    refine .frees (le_of_eq ?_)
    exact tenantSum_newDomain (s := { s with tenants := tenants }) hnew
      (usage_create p r)
  | revocation => exact .frees (le_of_eq (tenantSum_foldl_revokeTarget _ id r))

/-- A tenant was filed before, with the same quota, or is new and its quota is valid. -/
theorem StoreStep.tenant_before (h : StoreStep s op s') {tenant'}
    (htenant' : s'.tenants.get? tenantID = some tenant') :
    (∃ tenant, s.tenants.get? tenantID = some tenant ∧
        tenant'.registration.quota = tenant.registration.quota) ∨
      (s.tenants.get? tenantID = none ∧ tenant'.registration.quota.valid = true) := by
  cases hbefore : s.tenants.get? tenantID with
  | some tenant =>
    obtain ⟨tenant₁, htenant₁, hquota⟩ := h.tenant_kept hbefore
    rw [htenant', Option.some.injEq] at htenant₁
    exact .inl ⟨tenant, rfl, htenant₁ ▸ hquota⟩
  | none =>
    refine .inr ⟨rfl, ?_⟩
    cases h with
    | unchanged => rw [hbefore] at htenant'; cases htenant'
    | domain => rw [show s.tenants.get? tenantID = _ from htenant'] at hbefore; cases hbefore
    | tenant hold =>
      rw [get?_setTenant] at htenant'
      split at htenant'
      · next hid => rw [hid, hold] at hbefore; cases hbefore
      · rw [hbefore] at htenant'; cases htenant'
    | newDomain _ hfor =>
      cases hfor with
      | existing =>
        rw [show s.tenants.get? tenantID = _ from htenant'] at hbefore
        cases hbefore
      | filed tenant _ hvalid =>
        have htenant' : (s.tenants.set _ tenant).get? tenantID = some tenant' := htenant'
        rw [get?_set] at htenant'
        split at htenant'
        · cases htenant'
          exact hvalid
        · rw [hbefore] at htenant'; cases htenant'
    | revocation _ _ hold =>
      rw [get?_setTenant, foldl_revokeTarget_tenants] at htenant'
      split at htenant'
      · next hid => rw [hid, hold] at hbefore; cases hbefore
      · rw [hbefore] at htenant'; cases htenant'

theorem TenantQuota.ceiling_nonneg {q : TenantQuota} (h : q.valid = true)
    (hbounded : q.usesSharedCapacity = false) (r : Resource) : 0 ≤ q.ceiling r := by
  unfold TenantQuota.valid at h
  rw [hbounded] at h
  simp only [Bool.false_or, Bool.and_eq_true, decide_eq_true_eq] at h
  cases r <;> simp only [TenantQuota.ceiling] <;> omega

theorem DomainProvisioning.ceiling_nonneg {p : DomainProvisioning} (h : p.validate = .ok ())
    (hbounded : p.registration.usesSharedCapacity = false) (r : Resource) :
    0 ≤ p.registration.ceiling r := by
  obtain ⟨_, -, h⟩ := bind_eq_ok.mp h
  obtain ⟨_, hregistration, -⟩ := bind_eq_ok.mp h
  unfold DomainRegistration.validate at hregistration
  split at hregistration
  · cases hregistration
  · rw [rejectWhen_eq_ok] at hregistration
    have hfields := not_and.mp hregistration hbounded
    cases r <;> simp only [DomainRegistration.ceiling] <;> omega

theorem Within.step (h : Within s) (hop : KeepsPromises s op) : Within (op.apply s) := by
  have hstep := h.reachable.apply_step op
  refine ⟨h.reachable.apply op, ?_, ?_, ?_⟩
  · intro key d' hd'
    cases hd : s.domains.get? key with
    | some d =>
      obtain ⟨d₁, hd₁, hmoved⟩ := hstep.domain_step hd
      rw [hd'] at hd₁
      cases hd₁
      exact (h.pending hd).step hd hop.1 hmoved
    | none =>
      obtain ⟨p, -, rfl, -⟩ := hstep.domain_new hd hd'
      exact .create p
  · intro key d' hd' hbounded r
    cases hd : s.domains.get? key with
    | some d =>
      obtain ⟨d₁, hd₁, hmoved⟩ := hstep.domain_step hd
      rw [hd'] at hd₁
      cases hd₁
      obtain ⟨hshared, hceiling⟩ := MemoryDomain.bounds_step hmoved
      rw [hceiling]
      rw [hshared] at hbounded
      exact (h.usageStep hd hop hmoved).domain_le (h.domains hd hbounded) hbounded r
    | none =>
      obtain ⟨p, hvalid, rfl, -⟩ := hstep.domain_new hd hd'
      rw [usage_create]
      exact p.ceiling_nonneg hvalid hbounded r
  · -- The sum over the tenant's domains: it rises only under the tenant's own check.
    intro id tenant' htenant' hbounded r
    rcases hstep.tenant_before htenant' with ⟨tenant, htenant, hquota⟩ | ⟨hnone, hvalid⟩
    · have hsame : tenant.registration.usesSharedCapacity = false := by
        rw [← hbounded]
        exact (congrArg TenantQuota.usesSharedCapacity hquota).symm
      rw [hquota]
      rcases h.sumStep hop hstep id r with hle | ⟨hfiled, hle⟩
      · exact hle.trans (h.tenants htenant hsame r)
      · rw [htenant] at hfiled
        cases hfiled
        exact hle hsame
    · rcases h.sumStep hop hstep id r with hle | ⟨hfiled, -⟩
      · rw [tenantSum_eq_zero h.reachable.tenantsFiled hnone] at hle
        exact hle.trans (TenantQuota.ceiling_nonneg hvalid hbounded r)
      · rw [hnone] at hfiled
        cases hfiled

theorem Within.of_run {ttl : Option Int} {ops : List Operation}
    (hops : Along Operation.apply KeepsPromises (newMemoryStore ttl) ops) :
    Within (run Operation.apply (newMemoryStore ttl) ops) := by
  refine invariant ⟨.new ttl, ?_, ?_, ?_⟩ (fun _ _ h hop => h.step hop) hops
  · intro key d hd
    rw [newMemoryStore_get?] at hd
    cases hd
  · intro key d hd
    rw [newMemoryStore_get?] at hd
    cases hd
  · intro id tenant htenant
    rw [newMemoryStore_tenants_get?] at htenant
    cases htenant

/-! ## The ceilings -/

/-- What is stored is within the bounds of every domain and tenant that has bounds. -/
structure Ceilings (s : MemoryStore) : Prop where
  domains : ∀ key d, s.domains.get? key = some d → d.registration.usesSharedCapacity = false →
    ∀ r, d.stored r ≤ d.registration.ceiling r
  tenants : ∀ tenantID tenant, s.tenants.get? tenantID = some tenant →
    tenant.registration.usesSharedCapacity = false →
    ∀ r, s.tenantSum tenantID (fun d => d.stored r) ≤ tenant.registration.quota.ceiling r

theorem MemoryDomain.PendingOK.stored_le (h : d.PendingOK) (r : Resource) :
    d.stored r ≤ d.usage r := by
  obtain ⟨-, -, hcount, hbytes⟩ := h.reserved
  cases r with
  | messageCount => exact le_rfl
  | messageBytes => exact le_rfl
  | blobCount => exact Int.le_add_of_nonneg_right hcount
  | blobBytes => exact Int.le_add_of_nonneg_right hbytes

/-- **Quotas are ceilings**, in every run in which a direct publication leaves the reservations
their room and no upload is finalized twice. -/
theorem ceilings_of_run {ttl : Option Int} {ops : List Operation}
    (hops : Along Operation.apply KeepsPromises (newMemoryStore ttl) ops) :
    Ceilings (run Operation.apply (newMemoryStore ttl) ops) := by
  have h := Within.of_run hops
  refine ⟨fun key d hd hbounded r => ?_, fun id tenant htenant hbounded r => ?_⟩
  · exact ((h.pending hd).stored_le r).trans (h.domains hd hbounded r)
  · refine le_trans ?_ (h.tenants htenant hbounded r)
    exact tenantSum_le fun key d hd => (h.pending hd).stored_le r

open Sample

/-- An upload of all the bytes there are. -/
theorem ceilings_sample : ∃ d, (store (upload 90 (blobID 1) 1000 ++
        [finalization 92 90 (blobID 1) 1000])).domains.get? ⟨1, 2⟩ = some d ∧
      d.stored .blobBytes = 1000 ∧ Ceilings (store (upload 90 (blobID 1) 1000 ++
        [finalization 92 90 (blobID 1) 1000])) := by
  have hbefore : ∀ d ∈ (store (upload 90 (blobID 1) 1000)).domains.get? ⟨1, 2⟩,
      ∀ upload ∈ d.blobUploads.get? 90, upload.status.finalized = false := by
    decide +kernel
  have hops : Along Operation.apply KeepsPromises (newMemoryStore none)
      (setup ++ (upload 90 (blobID 1) 1000 ++ [finalization 92 90 (blobID 1) 1000])) := by
    rw [← append_assoc, along_concat]
    refine ⟨by simp [Along, setup, upload, KeepsPromises, FinalizesPending,
      LeavesRoom], fun d hd _ upload hupload => ?_, trivial⟩
    exact hbefore d hd upload hupload
  obtain ⟨d, hd, hafter⟩ : ∃ d ∈ (store (upload 90 (blobID 1) 1000 ++
      [finalization 92 90 (blobID 1) 1000])).domains.get? ⟨1, 2⟩, d.stored .blobBytes = 1000 := by
    decide +kernel
  exact ⟨d, hd, hafter, ceilings_of_run hops⟩

/-- The same upload, and beside it a direct publication of as many bytes: the domain stores twice
what it may. -/
theorem ceilings_exceeded : ∃ d, (store (upload 90 (blobID 1) 1000 ++
        [.commitBlobPublish writer (blobID 2) 1000 7,
         finalization 92 90 (blobID 1) 1000])).domains.get? ⟨1, 2⟩ = some d ∧
      d.registration.usesSharedCapacity = false ∧ d.registration.ceiling .blobBytes = 1000 ∧
      d.stored .blobBytes = 2000 := by
  show ∃ d ∈ GoMap.get? _ _, _
  decide +kernel

end FacetsNode.Relay
