import FacetsNode.Relay.Properties.Fences

/-!
# Messages and blobs

A domain keeps its messages twice — in sequence order and by identifier — with a running total
beside them, and a running total of its blobs.

* `LogOK` — the log is strictly increasing, the index lists the same messages, the total is right;
* `MessagesOK` — moreover no stored message is tombstoned or held by a closed fence;
* `BlobsOK` — the blob total is right, and no blob is held by a closed fence.

A closing fence and a collection take messages out in the same way (`LogOK.remove`).
-/

namespace FacetsNode.Relay

namespace MemoryDomain

variable {s : MemoryStore} {op : Operation} {key : DomainKey} {d d' : MemoryDomain} {now : Int}
  {id fenceID : UUID} {fence : MemoryCheckpointFence} {status : CheckpointFenceStatus}

/-! ## The log and its index -/

/-- The log in sequence order, its index, and its total. -/
structure LogOK (messages : List MemoryMessage) (nextSequence : Nat)
    (messageByID : GoMap UUID MemoryMessage) (messageBytes : Int) : Prop where
  sorted : messages.Pairwise (fun m m' => m.sequence < m'.sequence)
  bounded : ∀ m ∈ messages, m.sequence ≤ nextSequence
  indexed : ∀ {id m}, messageByID.get? id = some m ↔ m ∈ messages ∧ m.messageID = id
  bytes : messageBytes = messageByID.sumBy MemoryMessage.byteCount

open GoMap

open List

section
variable {messages : List MemoryMessage} {nextSequence : Nat}
  {messageByID : GoMap UUID MemoryMessage} {messageBytes : Int}

theorem LogOK.get? (h : LogOK messages nextSequence messageByID messageBytes) {m}
    (hm : m ∈ messages) : messageByID.get? m.messageID = some m := h.indexed.mpr ⟨hm, rfl⟩

/-- An identifier names one stored message. -/
theorem LogOK.eq_of_messageID (h : LogOK messages nextSequence messageByID messageBytes)
    {m m'} (hm : m ∈ messages) (hm' : m' ∈ messages)
    (hid : m.messageID = m'.messageID) : m = m' := by
  have hget := h.get? hm
  rw [hid, h.get? hm', Option.some.injEq] at hget
  exact hget.symm

theorem LogOK.nodup (h : LogOK messages nextSequence messageByID messageBytes) :
    (messages.map MemoryMessage.messageID).Nodup := by
  rw [List.Nodup, pairwise_map]
  refine h.sorted.imp_of_mem fun hm hm' hlt heq => ?_
  rw [h.eq_of_messageID hm hm' heq] at hlt
  exact lt_irrefl _ hlt

/-- Taking stored messages out, from the log, the index and the total. -/
theorem LogOK.remove (h : LogOK messages nextSequence messageByID messageBytes)
    (removed : List MemoryMessage) {keep : MemoryMessage → Bool}
    (hnodup : (removed.map MemoryMessage.messageID).Nodup) (hremoved : ∀ m ∈ removed, m ∈ messages)
    (hkeep : ∀ m ∈ messages, keep m = true ↔ m.messageID ∉ removed.map MemoryMessage.messageID) :
    LogOK (messages.filter keep) nextSequence
      (messageByID.deleteAll (removed.map MemoryMessage.messageID))
      (messageBytes - (removed.map MemoryMessage.byteCount).sum) where
  sorted := h.sorted.filter _
  bounded := fun m hm => h.bounded m (mem_of_mem_filter hm)
  indexed := by
    intro id m
    rw [get?_deleteAll, mem_filter]
    split
    · next hid =>
      simp only [reduceCtorEq, false_iff]
      rintro ⟨⟨hm, hkept⟩, rfl⟩
      exact (hkeep m hm).mp hkept hid
    · next hid =>
      rw [h.indexed]
      constructor
      · rintro ⟨hm, rfl⟩
        exact ⟨⟨hm, (hkeep m hm).mpr hid⟩, rfl⟩
      · rintro ⟨⟨hm, -⟩, heq⟩
        exact ⟨hm, heq⟩
  bytes := by
    have hpairs : removed.map MemoryMessage.messageID =
        (removed.map (fun m => (m.messageID, m))).map Prod.fst := by
      rw [map_map]
      rfl
    rw [h.bytes, hpairs, sumBy_deleteAll (by rwa [← hpairs]), map_map]
    · rfl
    · intro p hp
      obtain ⟨m, hm, rfl⟩ := mem_map.mp hp
      exact h.get? (hremoved m hm)

/-- One new message at the end. -/
theorem LogOK.append (h : LogOK messages nextSequence messageByID messageBytes) {m}
    (hnew : messageByID.get? m.messageID = none) (hsequence : m.sequence = nextSequence + 1) :
    LogOK (messages ++ [m]) (nextSequence + 1) (messageByID.set m.messageID m)
      (messageBytes + m.byteCount) where
  sorted := by
    rw [pairwise_append]
    refine ⟨h.sorted, pairwise_singleton _ _, fun m₁ hm₁ m₂ hm₂ => ?_⟩
    rw [mem_singleton] at hm₂
    subst hm₂
    have := h.bounded m₁ hm₁
    omega
  bounded := by
    intro m' hm'
    rcases mem_append.mp hm' with hm' | hm'
    · exact Nat.le_succ_of_le (h.bounded m' hm')
    · rw [mem_singleton] at hm'
      rw [hm', hsequence]
  indexed := by
    intro id m'
    rw [get?_set, mem_append, mem_singleton]
    split
    · next hid =>
      subst hid
      rw [Option.some.injEq]
      constructor
      · rintro rfl
        exact ⟨.inr rfl, rfl⟩
      · rintro ⟨hm' | hm', heq⟩
        · rw [← heq, h.get? hm'] at hnew
          cases hnew
        · exact hm'.symm
    · next hid =>
      rw [h.indexed]
      constructor
      · rintro ⟨hm', heq⟩
        exact ⟨.inl hm', heq⟩
      · rintro ⟨hm' | rfl, heq⟩
        · exact ⟨hm', heq⟩
        · exact absurd heq.symm hid
  bytes := by
    rw [sumBy_set_of_none hnew, h.bytes]
    omega

/-- The total is the sum over the log: the index lists the same messages. -/
theorem LogOK.sum_eq (h : LogOK messages nextSequence messageByID messageBytes) :
    messageBytes = (messages.map MemoryMessage.byteCount).sum := by
  have hperm : (messageByID.pairs.map Prod.snd).Perm messages := by
    have hvalues : (messageByID.pairs.map Prod.snd).Nodup := by
      rw [List.Nodup, pairwise_map]
      refine (pairwise_map.mp messageByID.pairs_keys_nodup).imp_of_mem ?_
      intro p q hp hq hne heq
      have hp' := h.indexed.mp (mem_pairs.mp hp)
      have hq' := h.indexed.mp (mem_pairs.mp hq)
      exact hne (by rw [← hp'.2, ← hq'.2, heq])
    rw [perm_ext_iff_of_nodup hvalues (List.Nodup.of_map _ h.nodup)]
    intro m
    rw [mem_map]
    constructor
    · rintro ⟨⟨id, m'⟩, hp, rfl⟩
      exact (h.indexed.mp (mem_pairs.mp hp)).1
    · intro hm
      exact ⟨(m.messageID, m), mem_pairs.mpr (h.get? hm), rfl⟩
  rw [h.bytes, ← (hperm.map MemoryMessage.byteCount).sum_eq, map_map]
  unfold sumBy pairs
  rw [map_map]
  rfl

end

/-! ## Messages -/

/-- The message log, disjoint from the tombstones and held by no closed fence. -/
structure MessagesOK (d : MemoryDomain) : Prop where
  log : LogOK d.messages d.nextSequence d.messageByID d.messageBytes
  untombstoned : ∀ {id tombstone}, d.fenceMessageTombstones.get? id = some tombstone →
    d.messageByID.get? id = none
  live : ∀ m ∈ d.messages, FenceLive d.checkpointFences m.checkpointFenceID

/-- A valid envelope has a digest, so a fence that takes its message down leaves a tombstone. -/
theorem tombstoneOf_eq_some {m} (hvalid : m.message.envelope.validate = .ok ()) :
    ∃ digest, m.message.envelope.referenceDigest = .ok digest ∧
      tombstoneOf m = some (m.messageID, ⟨m.publisherMember, digest, m.sequence⟩) := by
  obtain ⟨digest, hdigest⟩ : ∃ digest, m.message.envelope.referenceDigest = .ok digest := by
    unfold Envelope.referenceDigest
    rw [hvalid]
    exact ⟨_, rfl⟩
  refine ⟨digest, hdigest, ?_⟩
  unfold tombstoneOf
  rw [hdigest]

/-- A fence leaves tombstones under the identifiers of the messages it held. -/
theorem tombstones_sublist (removed : List MemoryMessage) :
    ((removed.filterMap tombstoneOf).map Prod.fst).Sublist
      (removed.map MemoryMessage.messageID) := by
  induction removed with
  | nil => exact .slnil
  | cons m removed ih =>
    rw [map_cons]
    cases htombstone : tombstoneOf m with
    | none =>
      rw [filterMap_cons_none htombstone]
      exact ih.cons _
    | some p =>
      have hp : p.1 = m.messageID := by
        unfold tombstoneOf at htombstone
        split at htombstone <;> cases htombstone
        rfl
      rw [filterMap_cons_some htombstone, map_cons, hp]
      exact ih.cons_cons _

theorem tombstoneOf_fst {removed : List MemoryMessage} {id}
    (h : id ∈ (removed.filterMap tombstoneOf).map Prod.fst) :
    id ∈ removed.map MemoryMessage.messageID := (tombstones_sublist removed).subset h

theorem MessagesOK.closeFence (h : d.MessagesOK) (fence : MemoryCheckpointFence)
    (status : CheckpointFenceStatus) : (d.closeFence id fence status id).MessagesOK where
  log := by
    refine h.log.remove (d.fenceMessages id) ?_ ?_ ?_
    · exact h.log.nodup.sublist (filter_sublist.map _)
    · exact fun m hm => mem_of_mem_filter hm
    · intro m hm
      rw [decide_eq_true_iff]
      constructor
      · rintro hne hmem
        obtain ⟨m', hm', heq⟩ := mem_map.mp hmem
        obtain ⟨hm', hheld⟩ := mem_filter.mp hm'
        rw [h.log.eq_of_messageID hm' hm heq, decide_eq_true_iff] at hheld
        exact hne hheld
      · intro hmem hheld
        exact hmem (mem_map_of_mem (mem_filter.mpr ⟨hm, decide_eq_true hheld⟩))
  untombstoned := by
    intro id' tombstone htombstone
    rw [closeFence_messageByID, get?_deleteAll]
    split
    · rfl
    · next hremoved =>
      rw [closeFence_tombstones,
        get?_setAll_of_notMem fun hmem => hremoved (tombstoneOf_fst hmem)] at htombstone
      exact h.untombstoned htombstone
  live := by
    intro m hm
    obtain ⟨hm, hne⟩ := mem_filter.mp hm
    exact (h.live m hm).set (of_decide_eq_true hne)

/-- A message whose fence is the publisher's own, if any. -/
theorem memoryActiveFenceForSubscription_eq_some {subscriptionID}
    (h : d.memoryActiveFenceForSubscription subscriptionID = some fence) :
    ∃ id, d.checkpointFences.get? id = some fence ∧ fence.state.status = .active ∧
      fence.holderSubscriptionID = subscriptionID := by
  unfold memoryActiveFenceForSubscription at h
  obtain ⟨⟨id, fence'⟩, hfind, rfl⟩ := Option.map_eq_some_iff.mp h
  have hmem := mem_of_find?_eq_some hfind
  have hprop := List.find?_some hfind
  rw [decide_eq_true_iff] at hprop
  exact ⟨id, mem_pairs.mp hmem, hprop⟩

/-- What is stored now is attributed to a fence that is open now. -/
theorem FencesOK.live_of_active (h : FencesOK d.checkpointFences) (subscriptionID : UUID) :
    FenceLive d.checkpointFences
      ((d.memoryActiveFenceForSubscription subscriptionID).map (fun f => f.state.fenceID)) := by
  intro id hid
  obtain ⟨fence, hfence, rfl⟩ := Option.map_eq_some_iff.mp hid
  obtain ⟨id, hget, hactive, -⟩ := memoryActiveFenceForSubscription_eq_some hfence
  exact ⟨fence, (h.keyed hget).symm ▸ hget, .inl hactive⟩

theorem MessagesOK.storeMessage (h : d.MessagesOK) {m}
    (hstored : d.messageByID.get? m.messageID = none)
    (htombstone : d.fenceMessageTombstones.get? m.messageID = none)
    (hsequence : m.sequence = d.nextSequence + 1)
    (hlive : FenceLive d.checkpointFences m.checkpointFenceID) : (d.storeMessage m).MessagesOK where
  log := h.log.append hstored hsequence
  untombstoned := by
    intro id tombstone hget
    show get? (set _ _ _) id = none
    rw [get?_set_ne]
    · exact h.untombstoned hget
    · rintro rfl
      rw [show d.fenceMessageTombstones.get? m.messageID = some tombstone from hget] at htombstone
      cases htombstone
  live := by
    intro m' hm'
    rcases mem_append.mp hm' with hm' | hm'
    · exact h.live m' hm'
    · rw [mem_singleton] at hm'
      exact hm' ▸ hlive

/-! ### Sequences along a run -/

theorem mem_messages_of_expiry (hexpiry : Expiry op d d') {m}
    (hm : m ∈ d'.messages) : m ∈ d.messages :=
  hexpiry.induction (P := fun d' => ∀ m ∈ d'.messages, m ∈ d.messages)
    (fun _ _ _ h _ _ m hm => h m (mem_of_mem_filter hm)) (fun _ hm => hm) m hm

/-- **Sequences are not reused.** A message that is stored after a step was stored before it, or has
a sequence nothing had before. -/
theorem messages_step (hstep : DomainStep s key op d d') : d.nextSequence ≤ d'.nextSequence ∧
      ∀ m ∈ d'.messages, m ∈ d.messages ∨ d.nextSequence < m.sequence := by
  obtain @⟨d₁, hexpiry, heffect⟩ := hstep
  have hnext : d₁.nextSequence = d.nextSequence :=
    hexpiry.frame MemoryDomain.nextSequence fun _ _ _ _ _ => rfl
  have hold : ∀ m ∈ d₁.messages, m ∈ d.messages ∨ d.nextSequence < m.sequence :=
    fun m hm => .inl (mem_messages_of_expiry hexpiry hm)
  rw [← hnext] at hold ⊢
  cases heffect with
  | authority heq => rw [heq]; exact ⟨le_rfl, hold⟩
  | testSubscription _ heq => exact ensured heq fun _ => ⟨le_rfl, hold⟩
  | publish =>
    refine ⟨Nat.le_succ _, fun m hm => ?_⟩
    rcases mem_append.mp hm with hm | hm
    · exact hold m hm
    · rw [mem_singleton] at hm
      subst hm
      exact .inr (Nat.lt_succ_self _)
  | abortFence | collect => exact ⟨le_rfl, fun m hm => hold m (mem_of_mem_filter hm)⟩
  | _ => exact ⟨le_rfl, hold⟩

/-! ## Blobs -/

/-- The blob total, and no blob of a closed fence. -/
structure BlobsOK (d : MemoryDomain) : Prop where
  bytes : d.blobBytes = d.blobs.sumBy BlobMetadata.byteCount
  live : ∀ {blobID fenceID}, d.blobFenceIDs.get? blobID = some fenceID →
    FenceLive d.checkpointFences (some fenceID)

theorem mem_fenceBlobIDs {blobID} :
    blobID ∈ d.fenceBlobIDs id ↔ d.blobFenceIDs.get? blobID = some id := by
  unfold fenceBlobIDs
  rw [mem_map]
  constructor
  · rintro ⟨⟨blobID', id'⟩, hp, rfl⟩
    obtain ⟨hp, heq⟩ := mem_filter.mp hp
    rw [decide_eq_true_iff] at heq
    exact heq ▸ mem_pairs.mp hp
  · intro hget
    exact ⟨(blobID, id), mem_filter.mpr ⟨mem_pairs.mpr hget, decide_eq_true rfl⟩, rfl⟩

theorem fenceBlobIDs_nodup (d : MemoryDomain) (id : UUID) : (d.fenceBlobIDs id).Nodup :=
  d.blobFenceIDs.pairs_keys_nodup.sublist (filter_sublist.map _)

theorem BlobsOK.closeFence (h : d.BlobsOK) (fence : MemoryCheckpointFence)
    (status : CheckpointFenceStatus) : (d.closeFence id fence status id).BlobsOK where
  bytes := by
    show d.blobBytes - ((d.blobsAmong (d.fenceBlobIDs id)).map (fun p => p.2.byteCount)).sum =
      sumBy BlobMetadata.byteCount (d.blobs.deleteAll (d.fenceBlobIDs id))
    rw [sumBy_deleteAll_keys (d.fenceBlobIDs_nodup id), h.bytes]
    rfl
  live := by
    intro blobID fenceID hget
    rw [closeFence_blobFenceIDs, get?_deleteAll] at hget
    split at hget
    · cases hget
    · next hnot =>
      refine (h.live hget).set fun heq => hnot ?_
      rw [Option.some.injEq] at heq
      exact mem_fenceBlobIDs.mpr (heq ▸ hget)

theorem BlobsOK.storeBlob (h : d.BlobsOK) (hfences : FencesOK d.checkpointFences)
    {metadata} (hnew : d.blobs.get? metadata.blobID = none) (subscriptionID : UUID) :
    (d.storeBlob metadata subscriptionID).BlobsOK where
  bytes := by
    show d.blobBytes + _ = sumBy _ (set _ _ _)
    rw [sumBy_set_of_none hnew, h.bytes]
    omega
  live := by
    intro blobID fenceID hget
    unfold MemoryDomain.storeBlob at hget
    dsimp only at hget
    split at hget
    · next fence hfence =>
      rw [get?_set] at hget
      split at hget
      · refine hget ▸ ?_
        have := hfences.live_of_active subscriptionID
        rw [hfence] at this
        exact this
      · exact h.live hget
    · exact h.live hget

end MemoryDomain

end FacetsNode.Relay
