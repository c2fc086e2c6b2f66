import FacetsNode.Relay.Properties.Delivery
import FacetsNode.Relay.Properties.Retention

/-!
# Quarantine

What is stored while a fence is active is for the holder of the fence alone until the fence is
activated; if the fence ends in any other way it is gone for good. All the read paths look at the
fence. `acknowledge` does not, so the receipts are quarantined only as long as nobody gives one for
a message that only the fence's holder should know of.

* `ReceiptsOK` — no two stored messages share their receipts;
* `Quarantine` — a message of the fence is hidden, and without receipts of others;
* `BlobQuarantine` — a blob of the fence is hidden until it is published anew;
* `quarantine_of_run` — both, along every run.
-/

namespace FacetsNode.Relay

open Attempt

/-- A receipt is for a message the caller may read, or holds under its own fence. -/
def AcknowledgesVisible (s : MemoryStore) : Operation → Prop
  | .acknowledge credential messageID _ _ =>
    ∀ d, s.domains.get? ⟨credential.tenantID, credential.domainID⟩ = some d →
      ∀ m, d.messageByID.get? messageID = some m →
        ∀ subscription, d.readableMemberSubscription credential.memberID = .ok subscription →
          d.fenceVisible m.checkpointFenceID = true ∨ ∀ fenceID ∈ m.checkpointFenceID, ∀ fence,
              d.checkpointFences.get? fenceID = some fence →
                fence.holderSubscriptionID = subscription.subscriptionID
  | _ => True

/-- The blob is published anew, the fence having ended. -/
def Republishes (key : DomainKey) (fenceID : UUID) (blobID : GoString) (s : MemoryStore)
    (op : Operation) : Prop :=
  Acknowledges s key blobID op ∧ ∀ d', (op.apply s).domains.get? key = some d' →
    ∀ fence, d'.checkpointFences.get? fenceID = some fence → fence.state.status ≠ .active

open MemoryStore

/-- The message cannot be read by anyone. -/
structure Withheld (s : MemoryStore) (key : DomainKey) (messageID : UUID) : Prop where
  fetch : ∀ {credential afterSequence limit now result},
    key = ⟨credential.tenantID, credential.domainID⟩ →
    (fetch credential afterSequence limit now s).1 = .ok result →
    ∀ m ∈ result.messages, m.envelope.messageID ≠ messageID
  getMessage : ∀ {credential now m}, key = ⟨credential.tenantID, credential.domainID⟩ →
    (getMessage credential messageID now s).1 ≠ .ok m

open List

open Option

namespace MemoryDomain

variable {s : MemoryStore} {op : Operation} {key : DomainKey} {d d' : MemoryDomain} {now : Int}
  {id fenceID holder : UUID} {fence : MemoryCheckpointFence} {status : CheckpointFenceStatus}
  {m m' : MemoryMessage} {blobID : GoString}

/-! ## Receipts -/

/-- Every stored message has receipts of its own. -/
structure ReceiptsOK (d : MemoryDomain) : Prop where
  bounded : ∀ m ∈ d.messages, m.acknowledgments < d.acknowledgmentMaps.length
  distinct : ∀ m ∈ d.messages, ∀ m' ∈ d.messages, m.acknowledgments = m'.acknowledgments → m = m'

theorem ReceiptsOK.of_subset (h : d.ReceiptsOK) (hmessages : ∀ m ∈ d'.messages, m ∈ d.messages)
    (hlength : d'.acknowledgmentMaps.length = d.acknowledgmentMaps.length) : d'.ReceiptsOK where
  bounded := fun m hm => hlength ▸ h.bounded m (hmessages m hm)
  distinct := fun m hm m' hm' heq => h.distinct m (hmessages m hm) m' (hmessages m' hm') heq

theorem ReceiptsOK.storeMessage (h : d.ReceiptsOK)
    (hnew : m.acknowledgments = d.acknowledgmentMaps.length) : (d.storeMessage m).ReceiptsOK where
  bounded := by
    intro m' hm'
    show m'.acknowledgments < (d.acknowledgmentMaps ++ [∅]).length
    rw [length_append, length_singleton]
    rcases mem_append.mp hm' with hm' | hm'
    · exact Nat.lt_succ_of_lt (h.bounded m' hm')
    · rw [mem_singleton] at hm'
      rw [hm', hnew]
      exact Nat.lt_succ_self _
  distinct := by
    intro m₁ hm₁ m₂ hm₂ heq
    rcases mem_append.mp hm₁ with hm₁ | hm₁ <;> rcases mem_append.mp hm₂ with hm₂ | hm₂
    · exact h.distinct m₁ hm₁ m₂ hm₂ heq
    · rw [mem_singleton] at hm₂
      have := h.bounded m₁ hm₁
      rw [heq, hm₂, hnew] at this
      exact absurd this (lt_irrefl _)
    · rw [mem_singleton] at hm₁
      have := h.bounded m₂ hm₂
      rw [← heq, hm₁, hnew] at this
      exact absurd this (lt_irrefl _)
    · rw [mem_singleton] at hm₁ hm₂
      rw [hm₁, hm₂]

theorem length_withdrawAcknowledgments (d : MemoryDomain) (subscriptionID : UUID) (n : Nat) :
    (d.withdrawAcknowledgments subscriptionID n).acknowledgmentMaps.length =
      d.acknowledgmentMaps.length := by
  have hloop : ∀ (l : List MemoryMessage) (maps : List (GoMap UUID AcknowledgmentStage)),
      (l.foldl (fun maps m => maps.modify m.acknowledgments
        (fun acks => acks.delete subscriptionID)) maps).length = maps.length := by
    intro l
    induction l with
    | nil => exact fun _ => rfl
    | cons m l ih =>
      intro maps
      rw [foldl_cons, ih, length_modify]
  exact hloop _ _

theorem ReceiptsOK.step (h : d.ReceiptsOK) (hstep : DomainStep s key op d d') : d'.ReceiptsOK := by
  obtain ⟨hexpiry, heffect⟩ := hstep
  replace h := hexpiry.induction (P := ReceiptsOK)
    (fun _ _ _ h _ _ => h.of_subset (fun _ hm => mem_of_mem_filter hm) rfl) h
  cases heffect with
  | authority heq =>
    rw [heq]
    exact h.of_subset (fun _ hm => hm) rfl
  | testSubscription _ heq => exact ensured heq fun _ => h.of_subset (fun _ hm => hm) rfl
  | requestRebootstrap =>
    exact h.of_subset (fun _ hm => hm) (length_withdrawAcknowledgments _ _ _)
  | publish => exact h.storeMessage rfl
  | acknowledge => exact h.of_subset (fun _ hm => hm) (length_modify _ _ _)
  | abortFence | collect => exact h.of_subset (fun _ hm => mem_of_mem_filter hm) rfl
  | _ => exact h.of_subset (fun _ hm => hm) rfl

theorem ReceiptsOK.of_reachable (hs : Reachable s) (hd : s.domains.get? key = some d) :
    d.ReceiptsOK := by
  refine hs.domain_invariant (I := ReceiptsOK) (fun p _ => ?_)
    (fun _ _ _ _ _ h hstep => h.step hstep) hd
  constructor <;> simp [create]

/-- A new message brings empty receipts and leaves those of the others alone. -/
theorem acknowledgmentsOf_storeMessage (hm : m.acknowledgments < d.acknowledgmentMaps.length) :
    (d.storeMessage m').acknowledgmentsOf m = d.acknowledgmentsOf m := by
  unfold acknowledgmentsOf MemoryDomain.storeMessage
  rw [getD_eq_getElem?_getD, List.getElem?_append_left hm, getD_eq_getElem?_getD]

open GoMap

theorem acknowledgmentsOf_recordAcknowledgment {subscriptionID stage}
    (h : m.acknowledgments ≠ m'.acknowledgments ∨ id ≠ subscriptionID) :
    ((d.recordAcknowledgment m' subscriptionID stage).acknowledgmentsOf m).get? id =
      (d.acknowledgmentsOf m).get? id := by
  unfold acknowledgmentsOf recordAcknowledgment
  rw [getD_eq_getElem?_getD, getD_eq_getElem?_getD, List.getElem?_modify]
  split
  · next heq =>
    have hne : id ≠ subscriptionID := h.resolve_left fun hne => hne heq.symm
    cases d.acknowledgmentMaps[m.acknowledgments]? with
    | none => rfl
    | some acks => exact get?_set_ne _ _ hne
  · simp

/-- Taking receipts back records none. -/
theorem acknowledgmentsOf_withdrawAcknowledgments {subscriptionID} {n : Nat}
    (h : (d.acknowledgmentsOf m).get? id = none) :
    ((d.withdrawAcknowledgments subscriptionID n).acknowledgmentsOf m).get? id = none := by
  have hloop : ∀ (l : List MemoryMessage) (maps : List (GoMap UUID AcknowledgmentStage)),
      (maps.getD m.acknowledgments ∅).get? id = none →
      ((l.foldl (fun maps m => maps.modify m.acknowledgments
        (fun acks => acks.delete subscriptionID)) maps).getD m.acknowledgments ∅).get? id =
          none := by
    intro l
    induction l with
    | nil => exact fun _ h => h
    | cons m₁ l ih =>
      intro maps h
      rw [foldl_cons]
      apply ih
      rw [getD_eq_getElem?_getD, List.getElem?_modify]
      rw [getD_eq_getElem?_getD] at h
      cases hget : maps[m.acknowledgments]? with
      | none => simp
      | some acks =>
        rw [hget] at h
        split
        · show (acks.delete subscriptionID).get? id = none
          rw [get?_delete]
          split
          · rfl
          · exact h
        · exact h
  exact hloop _ _ h

/-! ## Messages of a fence -/

/-- A message whose tombstone is there is not stored. -/
theorem WellFormed.notMem_of_tombstone (hwf : d.WellFormed)
    (h : (d.fenceMessageTombstones.get? m.messageID).isSome = true) : m ∉ d.messages := by
  intro hm
  obtain ⟨tombstone, htombstone⟩ := isSome_iff_exists.mp h
  have hnone := hwf.messages.untombstoned htombstone
  rw [hwf.messages.log.get? hm] at hnone
  cases hnone

/-- Where message `m` of the fence stands: as long as the fence is not activated the message is
stored under it without receipts of others, or a tombstone says that it is gone. -/
structure Quarantine (d : MemoryDomain) (fenceID holder : UUID) (m : MemoryMessage) : Prop where
  fence : ∃ fence, d.checkpointFences.get? fenceID = some fence ∧
    fence.holderSubscriptionID = holder
  kept : d.fenceVisible (some fenceID) = true ∨ m ∈ d.messages ∨
    (d.fenceMessageTombstones.get? m.messageID).isSome = true
  receipts : d.fenceVisible (some fenceID) = false → m ∈ d.messages →
    ∀ id, id ≠ holder → (d.acknowledgmentsOf m).get? id = none

/-- Under the identifier of a message of the fence, nothing is visible. -/
theorem Quarantine.hidden (h : d.Quarantine fenceID holder m) (hwf : d.WellFormed)
    (hfenced : m.checkpointFenceID = some fenceID)
    (hclosed : d.fenceVisible (some fenceID) = false) (hm' : m' ∈ d.messages)
    (hid : m'.messageID = m.messageID) : d.fenceVisible m'.checkpointFenceID = false := by
  rcases h.kept with hvisible | hm | htombstone
  · rw [hclosed] at hvisible
    cases hvisible
  · rw [hwf.messages.log.eq_of_messageID hm' hm hid, hfenced]
    exact hclosed
  · rw [← hid] at htombstone
    exact absurd hm' (hwf.notMem_of_tombstone htombstone)

/-! ### Steps -/

/-- Tombstones stay. -/
theorem isSome_tombstone_step (hstep : DomainStep s key op d d')
    (h : (d.fenceMessageTombstones.get? id).isSome = true) :
    (d'.fenceMessageTombstones.get? id).isSome = true := by
  obtain ⟨hexpiry, heffect⟩ := hstep
  replace h := hexpiry.induction
    (P := fun d => (d.fenceMessageTombstones.get? id).isSome = true)
    (fun _ _ _ h _ _ => isSome_get?_setAll (.inl h)) h
  cases heffect with
  | authority heq => rw [heq]; exact h
  | testSubscription _ heq => exact ensured heq fun _ => h
  | abortFence => exact isSome_get?_setAll (.inl h)
  | _ => exact h

/-- A closing fence keeps a message or leaves a tombstone for it. -/
theorem kept_closeFence (hvalid : m.message.envelope.validate = .ok ()) (hm : m ∈ d.messages) :
    m ∈ (d.closeFence id fence status id).messages ∨
      ((d.closeFence id fence status id).fenceMessageTombstones.get? m.messageID).isSome =
        true := by
  by_cases hheld : m.checkpointFenceID = some id
  · obtain ⟨digest, -, htombstone⟩ := tombstoneOf_eq_some hvalid
    refine .inr (isSome_get?_setAll (.inr ?_))
    refine mem_map.mpr ⟨_, mem_filterMap.mpr ⟨m, ?_, htombstone⟩, rfl⟩
    exact mem_filter.mpr ⟨hm, decide_eq_true hheld⟩
  · exact .inl (mem_filter.mpr ⟨hm, decide_eq_true hheld⟩)

/-- A message that is not visible stays, or leaves a tombstone: only visible ones are collected. -/
theorem kept_step (hwf : d.WellFormed) (hvalid : m.message.envelope.validate = .ok ())
    (hhidden : d.fenceVisible m.checkpointFenceID = false) (hstep : DomainStep s key op d d')
    (hm : m ∈ d.messages) :
    m ∈ d'.messages ∨ (d'.fenceMessageTombstones.get? m.messageID).isSome = true := by
  have hclose : ∀ {d : MemoryDomain} {id fence status}, m ∈ d.messages ∨
      (d.fenceMessageTombstones.get? m.messageID).isSome = true →
      m ∈ (d.closeFence id fence status id).messages ∨
        ((d.closeFence id fence status id).fenceMessageTombstones.get? m.messageID).isSome =
          true := by
    rintro d id fence status (hm | htombstone)
    · exact kept_closeFence hvalid hm
    · exact .inr (isSome_get?_setAll (.inl htombstone))
  obtain @⟨d₁, hexpiry, heffect⟩ := hstep
  have hwf₁ := hwf.expiry hexpiry
  rw [← fenceVisible_expiry hexpiry] at hhidden
  have h := hwf.expiry_induction hexpiry (P := fun d => m ∈ d.messages ∨
    (d.fenceMessageTombstones.get? m.messageID).isSome = true) (fun _ _ _ _ h _ _ => hclose h)
    (.inl hm)
  cases heffect with
  | authority heq => rw [heq]; exact h
  | testSubscription _ heq => exact ensured heq fun _ => h
  | publish => exact h.imp_left (mem_append_left _)
  | abortFence => exact hclose h
  | collect hcheckpoint hplan =>
    obtain ⟨-, hlatest⟩ := latestCheckpoint_of_plan hplan hcheckpoint
    refine h.imp_left fun hm => mem_filter.mpr ⟨hm, decide_eq_true fun hcollected => ?_⟩
    obtain ⟨m', hm', hid⟩ := mem_map.mp hcollected
    obtain ⟨-, hstored, -, hvisible⟩ := hwf₁.checkpoints.of_mem_collectedMessages hlatest hm'
    rw [hwf₁.messages.log.eq_of_messageID hstored hm hid, hhidden] at hvisible
    cases hvisible
  | _ => exact h

/-- A receipt that was not there is not recorded by a step that only acknowledges visible messages,
unless it is the holder's. -/
theorem receipts_step (hwf : d.WellFormed) (hreceipts : d.ReceiptsOK)
    (hd : s.domains.get? key = some d) (hop : AcknowledgesVisible s op)
    (hstep : DomainStep s key op d d') (hm : m ∈ d.messages)
    (hfenced : m.checkpointFenceID = some fenceID)
    (hhidden : d.fenceVisible m.checkpointFenceID = false)
    (hfence : d.checkpointFences.get? fenceID = some fence)
    (hne : id ≠ fence.holderSubscriptionID) (h : (d.acknowledgmentsOf m).get? id = none) :
    (d'.acknowledgmentsOf m).get? id = none := by
  obtain @⟨d₁, hexpiry, heffect⟩ := hstep
  have hmaps : d₁.acknowledgmentMaps = d.acknowledgmentMaps :=
    hexpiry.frame MemoryDomain.acknowledgmentMaps fun _ _ _ _ _ => rfl
  have hsame : d₁.acknowledgmentsOf m = d.acknowledgmentsOf m := by
    unfold acknowledgmentsOf
    rw [hmaps]
  have h₁ : (d₁.acknowledgmentsOf m).get? id = none := by rw [hsame]; exact h
  cases heffect with
  | authority heq => rw [heq]; exact h₁
  | testSubscription _ heq => exact ensured heq fun _ => h₁
  | requestRebootstrap => exact acknowledgmentsOf_withdrawAcknowledgments h₁
  | publish =>
    rw [acknowledgmentsOf_storeMessage (hmaps ▸ hreceipts.bounded m hm)]
    exact h₁
  | @acknowledge _ _ _ _ subscription m₁ _ hget hkey hsub hplain =>
    subst hkey hplain
    obtain ⟨hstored, -⟩ := hwf.messages.log.indexed.mp hget
    refine (acknowledgmentsOf_recordAcknowledgment ?_).trans h
    by_cases hsame : m.acknowledgments = m₁.acknowledgments
    · -- The receipt is for this very message, so the caller is its holder.
      have heq := hreceipts.distinct m hm m₁ hstored hsame
      subst heq
      rcases hop _ hd m hget subscription hsub with hvisible | hholder
      · rw [hhidden] at hvisible
        cases hvisible
      · exact .inr (hholder fenceID hfenced fence hfence ▸ hne)
    · exact .inl hsame
  | _ => exact h₁

theorem Quarantine.step (h : d.Quarantine fenceID holder m) (hwf : d.WellFormed)
    (hwf' : d'.WellFormed) (hreceipts : d.ReceiptsOK) (hd : s.domains.get? key = some d)
    (hop : AcknowledgesVisible s op) (hfenced : m.checkpointFenceID = some fenceID)
    (hvalid : m.message.envelope.validate = .ok ()) (hstep : DomainStep s key op d d') :
    d'.Quarantine fenceID holder m := by
  refine ⟨holder_step hstep h.fence, ?_, ?_⟩
  · rcases h.kept with hvisible | hm | htombstone
    · exact .inl (fenceVisible_step hstep hvisible)
    · by_cases hvisible : d.fenceVisible (some fenceID) = true
      · exact .inl (fenceVisible_step hstep hvisible)
      · rw [← hfenced, Bool.not_eq_true] at hvisible
        exact .inr (kept_step hwf hvalid hvisible hstep hm)
    · exact .inr (.inr (isSome_tombstone_step hstep htombstone))
  · intro hhidden hm id hne
    have hhidden₀ : d.fenceVisible (some fenceID) = false := by
      rw [← Bool.not_eq_true] at hhidden ⊢
      exact fun hvisible => hhidden (fenceVisible_step hstep hvisible)
    -- A message that was gone stays gone, so this one was there before the step.
    have hbefore : m ∈ d.messages := by
      rcases h.kept with hvisible | hm | htombstone
      · rw [hhidden₀] at hvisible
        cases hvisible
      · exact hm
      · exact absurd hm (hwf'.notMem_of_tombstone (isSome_tombstone_step hstep htombstone))
    obtain ⟨fence, hfence, rfl⟩ := h.fence
    exact receipts_step hwf hreceipts hd hop hstep hbefore hfenced (hfenced ▸ hhidden₀) hfence hne
      (h.receipts hhidden₀ hbefore id hne)

/-- **What an active fence holds.** A message that is new while a fence is active is held by it. -/
theorem quarantine_of_stored (hwf : d.WellFormed) (hstep : DomainStep s key op d d')
    (hfence : d'.checkpointFences.get? fenceID = some fence)
    (hactive : fence.state.status = .active) (hm : m ∈ d'.messages) (hnew : m ∉ d.messages) :
    m.checkpointFenceID = some fenceID ∧ m.message.envelope.validate = .ok () ∧
      d'.Quarantine fenceID fence.holderSubscriptionID m := by
  obtain @⟨d₁, hexpiry, heffect⟩ := hstep
  have hwf₁ := hwf.expiry hexpiry
  have hnew₁ : m ∉ d₁.messages := by
    intro hm
    refine hnew (hexpiry.induction (P := fun d' => ∀ m ∈ d'.messages, m ∈ d.messages) ?_
      (fun _ hm => hm) m hm)
    exact fun _ _ _ h _ _ m hm => h m (mem_of_mem_filter hm)
  cases heffect with
  | authority heq => rw [heq] at hm; exact absurd hm hnew₁
  | testSubscription _ heq =>
    rw [heq] at hm
    unfold ensureTestSubscription at hm
    split at hm <;> exact absurd hm hnew₁
  | publish _ hvalid _ _ _ hallowed =>
    rcases mem_append.mp hm with hm | hm
    · exact absurd hm hnew₁
    · rw [mem_singleton] at hm
      subst hm
      refine ⟨hwf₁.fences.held_of_active hallowed hfence hactive, hvalid, ⟨fence, hfence, rfl⟩,
        .inr (.inl (mem_append_right _ (mem_singleton.mpr rfl))), fun _ _ id _ => ?_⟩
      show ((d₁.acknowledgmentMaps ++ [∅]).getD d₁.acknowledgmentMaps.length ∅).get? id = none
      simp
  | abortFence | collect => exact absurd (mem_of_mem_filter hm) hnew₁
  | _ => exact absurd hm hnew₁

/-! ## Blobs of a fence -/

/-- Where a blob of the fence stands: the fence is activated, or the blob is stored under it, or the
fence has ended and the blob is gone. -/
inductive BlobQuarantine (d : MemoryDomain) (fenceID : UUID) (blobID : GoString) : Prop
  | released (hvisible : d.fenceVisible (some fenceID) = true)
  | held (hstored : (d.blobs.get? blobID).isSome = true)
      (hfenced : d.blobFenceIDs.get? blobID = some fenceID)
  | gone {f} (hfence : d.checkpointFences.get? fenceID = some f)
      (hended : f.state.status ≠ .active) (hgone : d.blobs.get? blobID = none)

/-- Anything that leaves the fences, the blobs and their fences alone. -/
theorem BlobQuarantine.congr (h : d.BlobQuarantine fenceID blobID)
    (hfences : d'.checkpointFences = d.checkpointFences) (hblobs : d'.blobs = d.blobs)
    (hfenceIDs : d'.blobFenceIDs = d.blobFenceIDs) : d'.BlobQuarantine fenceID blobID := by
  cases h with
  | released hvisible => exact .released ((fenceVisible_congr hfences _).trans hvisible)
  | held hstored hfenced => exact .held (hblobs ▸ hstored) (hfenceIDs ▸ hfenced)
  | gone hfence hended hgone => exact .gone (hfences ▸ hfence) hended (hblobs ▸ hgone)

/-- A closing fence takes the blob down if the blob is its own. -/
theorem BlobQuarantine.closeFence (h : d.BlobQuarantine fenceID blobID)
    (hfence : d.checkpointFences.get? id = some fence) (hactive : fence.state.status = .active)
    (hclosed : status ≠ .active) :
    (d.closeFence id fence status id).BlobQuarantine fenceID blobID := by
  cases h with
  | released hvisible => exact .released (fenceVisible_closeFence hfence hactive _ _ hvisible)
  | gone hfence' hended hgone =>
    refine .gone (get?_set_of_closed hfence' hended hfence hactive) hended ?_
    rw [closeFence_blobs, get?_deleteAll, hgone, ite_self]
  | held hstored hfenced =>
    by_cases hown : id = fenceID
    · subst hown
      refine .gone (get?_set_self _ _ _) hclosed ?_
      rw [closeFence_blobs, get?_deleteAll, if_pos (mem_fenceBlobIDs.mpr hfenced)]
    · have hnot : blobID ∉ d.fenceBlobIDs id := by
        intro hmem
        rw [mem_fenceBlobIDs, hfenced, some.injEq] at hmem
        exact hown hmem.symm
      refine .held ?_ ?_
      · rw [closeFence_blobs, get?_deleteAll, if_neg hnot]
        exact hstored
      · rw [closeFence_blobFenceIDs, get?_deleteAll, if_neg hnot]
        exact hfenced

/-- Publishing another blob leaves this one where it stands. -/
theorem BlobQuarantine.storeBlob (h : d.BlobQuarantine fenceID blobID) {metadata}
    (subscriptionID : UUID) (hnew : d.blobs.get? metadata.blobID = none)
    (hother : ∀ fence, d.checkpointFences.get? fenceID = some fence →
      fence.state.status ≠ .active → blobID ≠ metadata.blobID) :
    (d.storeBlob metadata subscriptionID).BlobQuarantine fenceID blobID := by
  cases h with
  | released hvisible => exact .released hvisible
  | held hstored hfenced =>
    have hne : blobID ≠ metadata.blobID := by
      rintro rfl
      rw [hnew] at hstored
      cases hstored
    obtain ⟨hblobs, hfences⟩ := storeBlob_of_ne (d := d) subscriptionID hne
    exact .held (hblobs ▸ hstored) (hfences.trans hfenced)
  | gone hfence hended hgone =>
    obtain ⟨hblobs, -⟩ := storeBlob_of_ne (d := d) subscriptionID (hother _ hfence hended)
    exact .gone hfence hended (hblobs.trans hgone)

theorem BlobQuarantine.step (h : d.BlobQuarantine fenceID blobID) (hwf : d.WellFormed)
    (hd' : (op.apply s).domains.get? key = some d')
    (hop : ¬ Republishes key fenceID blobID s op) (hstep : DomainStep s key op d d') :
    d'.BlobQuarantine fenceID blobID := by
  by_cases hvisible : d'.fenceVisible (some fenceID) = true
  · exact .released hvisible
  -- So far the fence is not activated.
  have hhidden : d.fenceVisible (some fenceID) = false := by
    rw [← Bool.not_eq_true]
    exact fun h => hvisible (fenceVisible_step hstep h)
  obtain @⟨d₁, hexpiry, heffect⟩ := hstep
  have hwf₁ := hwf.expiry hexpiry
  rw [← fenceVisible_expiry hexpiry] at hhidden
  have h₁ : d₁.BlobQuarantine fenceID blobID :=
    hwf.expiry_induction hexpiry (P := fun d => d.BlobQuarantine fenceID blobID)
      (fun _ _ _ _ h hfence hactive => h.closeFence hfence hactive (by decide)) h
  -- A blob that is new to a domain where the fence has ended is published anew.
  have hother : ∀ {newID}, d'.checkpointFences = d₁.checkpointFences → Acknowledges s key newID op →
      ∀ fence, d₁.checkpointFences.get? fenceID = some fence → fence.state.status ≠ .active →
        blobID ≠ newID := by
    rintro newID hfences hack fence hfence hended rfl
    refine hop ⟨hack, fun d'' hd'' fence' hfence' => ?_⟩
    rw [hd', some.injEq] at hd''
    rw [← hd'', hfences, hfence, some.injEq] at hfence'
    exact hfence' ▸ hended
  cases heffect with
  | authority heq =>
    rw [heq]
    exact h₁.congr rfl rfl rfl
  | testSubscription _ heq => exact ensured heq fun _ => h₁.congr rfl rfl rfl
  | createFence hnew =>
    cases h₁ with
    | released h => rw [hhidden] at h; cases h
    | held hstored hfenced => exact .held hstored hfenced
    | gone hfence hended hgone => exact .gone (get?_fileFence hfence hnew) hended hgone
  | abortFence hfence hactive =>
    exact (h₁.closeFence hfence hactive (by decide)).congr rfl rfl rfl
  | activate _ _ _ _ _ hfence' hactive =>
    cases h₁ with
    | released h => rw [hhidden] at h; cases h
    | held hstored hfenced => exact .held hstored hfenced
    | gone hfence hended hgone =>
      exact .gone (get?_set_of_closed hfence hended hfence' hactive) hended hgone
  | @collect _ request checkpoint _ _ _ hcheckpoint hplan =>
    obtain ⟨-, hlatest⟩ := latestCheckpoint_of_plan hplan hcheckpoint
    cases h₁ with
    | released h => rw [hhidden] at h; cases h
    | held hstored hfenced =>
      -- What is frozen for deletion is visible.
      have hnot : blobID ∉ (collectedBlobs checkpoint request.maximumBlobCount.toNat).map
          Prod.fst := by
        intro hcollected
        obtain ⟨p, hp, rfl⟩ := mem_map.mp hcollected
        obtain ⟨-, hseen⟩ :=
          hwf₁.checkpoints.deletionBlobs hlatest (get?_of_mem_collectedBlobs hp)
        rw [hfenced, hhidden] at hseen
        cases hseen
      refine .held ?_ hfenced
      show ((d₁.blobs.deleteAll _).get? blobID).isSome = true
      rw [get?_deleteAll, if_neg hnot]
      exact hstored
    | gone hfence hended hgone =>
      refine .gone hfence hended ?_
      show (d₁.blobs.deleteAll _).get? blobID = none
      rw [get?_deleteAll, hgone, ite_self]
  | commitBlob hkey _ hnew _ _ _ _ haccepted =>
    exact h₁.storeBlob _ (blobs_none_of_expiry hexpiry hnew)
      (hother rfl (.committed hkey haccepted))
  | finalizeNew hkey haccepted _ _ _ _ hnew =>
    have hack := Acknowledges.finalized hkey rfl haccepted
    exact (h₁.storeBlob _ hnew (hother rfl hack)).congr rfl rfl rfl
  | _ => exact h₁.congr rfl rfl rfl

/-- A blob that is new while a fence is active is held by it. -/
theorem blobQuarantine_of_stored (hwf : d.WellFormed) (hstep : DomainStep s key op d d')
    (hfence : d'.checkpointFences.get? fenceID = some fence)
    (hactive : fence.state.status = .active) (hnew : d.blobs.get? blobID = none)
    (hstored : (d'.blobs.get? blobID).isSome = true) : d'.BlobQuarantine fenceID blobID := by
  obtain @⟨d₁, hexpiry, heffect⟩ := hstep
  have hwf₁ := hwf.expiry hexpiry
  have hnew₁ := blobs_none_of_expiry hexpiry hnew
  -- The blob is stored under the one fence that is active.
  have hstore : ∀ {metadata : BlobMetadata} {subscriptionID : UUID},
      d₁.checkpointFences.pairs.any (fun p => p.2.state.status = .active ∧
        p.2.holderSubscriptionID ≠ subscriptionID) = false →
      d₁.checkpointFences.get? fenceID = some fence →
      ((d₁.storeBlob metadata subscriptionID).blobs.get? blobID).isSome = true →
      (d₁.storeBlob metadata subscriptionID).BlobQuarantine fenceID blobID := by
    intro metadata subscriptionID hallowed hfence hstored
    have hheld := hwf₁.fences.held_of_active hallowed hfence hactive
    have hid : blobID = metadata.blobID := by
      by_contra hne
      rw [(storeBlob_of_ne subscriptionID hne).1, hnew₁] at hstored
      cases hstored
    refine .held hstored ?_
    unfold MemoryDomain.storeBlob
    cases hown : d₁.memoryActiveFenceForSubscription subscriptionID with
    | none =>
      rw [hown] at hheld
      cases hheld
    | some own =>
      rw [hown] at hheld
      rw [hid]
      exact (get?_set_self _ _ _).trans hheld
  have habsent : ∀ {blobs : GoMap GoString BlobMetadata}, blobs.get? blobID = none →
      (blobs.get? blobID).isSome = true → d'.BlobQuarantine fenceID blobID := by
    intro blobs hnone hstored
    rw [hnone] at hstored
    cases hstored
  have hdeleted : ∀ ids, (d₁.blobs.deleteAll ids).get? blobID = none := by
    intro ids
    rw [get?_deleteAll, hnew₁, ite_self]
  cases heffect with
  | authority heq =>
    rw [heq] at hstored
    exact habsent hnew₁ hstored
  | testSubscription _ heq =>
    rw [heq] at hstored
    unfold ensureTestSubscription at hstored
    split at hstored <;> exact habsent hnew₁ hstored
  | abortFence | collect => exact habsent (hdeleted _) hstored
  | commitBlob _ _ _ _ _ _ hallowed => exact hstore hallowed hfence hstored
  | finalizeNew _ _ _ _ _ _ _ _ hallowed =>
    exact (hstore hallowed hfence hstored).congr rfl rfl rfl
  | _ => exact habsent hnew₁ hstored

end MemoryDomain

/-! ## Reading -/

section
variable {s : MemoryStore} {key : DomainKey} {d : MemoryDomain} {fenceID holder : UUID}
  {m : MemoryMessage} {blobID : GoString} {credential : Credential} {now : Int}

/-- `getMessage` answers with a message everybody may read. -/
theorem MemoryStore.getMessage_eq_ok {messageID result}
    (h : (getMessage credential messageID now s).1 = .ok result) :
    ∃ d m, s.domains.get? ⟨credential.tenantID, credential.domainID⟩ = some d ∧
      (d.refreshMemoryFence now).messageByID.get? messageID = some m ∧
      (d.refreshMemoryFence now).fenceVisible m.checkpointFenceID = true := by
  have hends : Ends (getMessage credential messageID now) s (fun r _ =>
      r = .ok result → ∃ d m, s.domains.get? ⟨credential.tenantID, credential.domainID⟩ = some d ∧
        (d.refreshMemoryFence now).messageByID.get? messageID = some m ∧
        (d.refreshMemoryFence now).fenceVisible m.checkpointFenceID = true) := by
    refine ends_rejectIf (fun _ h => by cases h) fun _ => ?_
    refine ends_asMember (fun _ h => by cases h) fun d hd => ends_modify (ends_get ?_)
    refine ends_ofExcept (fun _ _ h => by cases h) fun subscription _ => ?_
    split
    · exact ends_fail fun h => by cases h
    · next m hm =>
      refine ends_rejectIf (fun _ h => by cases h) fun hallowed => ends_pure fun _ => ?_
      rw [not_or, Bool.not_eq_false] at hallowed
      exact ⟨d, m, hd, hm, hallowed.2⟩
  exact hends h

theorem MemoryStore.getBlobMetadata_eq_ok {metadata}
    (h : getBlobMetadata s credential blobID now = .ok metadata) :
    ∃ d, s.domains.get? ⟨credential.tenantID, credential.domainID⟩ = some d ∧
      (d.blobs.get? blobID).isSome = true ∧ d.fenceVisible (d.blobFenceIDs.get? blobID) = true := by
  obtain ⟨_, -, h⟩ := bind_eq_ok.mp h
  obtain ⟨d, hmember, h⟩ := bind_eq_ok.mp h
  refine ⟨d, authorizedMember_eq_ok hmember, ?_⟩
  split at h
  · cases h
  · next metadata' hget =>
    obtain ⟨_, hvisible, -⟩ := bind_eq_ok.mp h
    rw [rejectWhen_eq_ok, Bool.not_eq_false] at hvisible
    exact ⟨by rw [hget]; rfl, hvisible⟩

/-- A message of the fence cannot be read, whatever the time is when somebody tries. -/
theorem MemoryDomain.Quarantine.withheld (h : d.Quarantine fenceID holder m) (hwf : d.WellFormed)
    (hreceipts : d.ReceiptsOK) (hfenced : m.checkpointFenceID = some fenceID)
    (hvalid : m.message.envelope.validate = .ok ())
    (hhidden : d.fenceVisible (some fenceID) = false) (hd : s.domains.get? key = some d) :
    Withheld s key m.messageID := by
  -- Reading closes the fences that are due first, which keeps the message hidden.
  have hread : ∀ (credential : Credential) (now : Int), ∀ m' ∈ (d.refreshMemoryFence now).messages,
      m'.messageID = m.messageID →
        (d.refreshMemoryFence now).fenceVisible m'.checkpointFenceID = false := by
    intro credential now m' hm' hid
    have hstep : DomainStep s key (.getMessage credential m.messageID now) d
        (d.refreshMemoryFence now) := .refresh rfl
    have hwf' := hwf.step hstep
    have hop : AcknowledgesVisible s (.getMessage credential m.messageID now) := trivial
    have h' := h.step hwf hwf' hreceipts hd hop hfenced hvalid hstep
    have hexpiry : Expiry (.getMessage credential m.messageID now) d (d.refreshMemoryFence now) :=
      .due rfl
    exact h'.hidden hwf' hfenced ((fenceVisible_expiry hexpiry _).trans hhidden) hm' hid
  constructor
  · intro credential afterSequence limit now result hkey hfetch message hmessage hid
    obtain ⟨-, d', subscription, start, hd', -, -, -, rfl⟩ := fetch_eq_ok hfetch
    replace hd' := authorizedMember_eq_ok hd'
    rw [← hkey, hd, some.injEq] at hd'
    subst hd'
    obtain ⟨m', hm', rfl⟩ := mem_map.mp hmessage
    obtain ⟨hm', hdeliverable⟩ := mem_filter.mp (mem_of_mem_take hm')
    have hvisible := (Bool.and_eq_true _ _ ▸ hdeliverable).2
    rw [hread credential now m' hm' hid] at hvisible
    cases hvisible
  · intro credential now result hkey hget
    obtain ⟨d', m', hd', hm', hvisible⟩ := getMessage_eq_ok hget
    rw [← hkey, hd, some.injEq] at hd'
    subst hd'
    have hexpiry : Expiry (.getMessage credential m.messageID now) d (d.refreshMemoryFence now) :=
      .due rfl
    have hwf' : (d.refreshMemoryFence now).WellFormed := hwf.expiry hexpiry
    obtain ⟨hm', hid⟩ := hwf'.messages.log.indexed.mp hm'
    rw [hread credential now m' hm' hid] at hvisible
    cases hvisible

end

namespace MemoryDomain

variable {s : MemoryStore} {op : Operation} {key : DomainKey} {d d' : MemoryDomain}
  {fenceID : UUID} {fence : MemoryCheckpointFence} {blobID : GoString}

/-- A blob of the fence cannot be read. -/
theorem BlobQuarantine.unreadable (h : d.BlobQuarantine fenceID blobID)
    (hhidden : d.fenceVisible (some fenceID) = false) (hd : s.domains.get? key = some d)
    {credential} {now : Int} {metadata}
    (hkey : key = ⟨credential.tenantID, credential.domainID⟩) :
    getBlobMetadata s credential blobID now ≠ .ok metadata := by
  intro hget
  obtain ⟨d', hd', hstored, hvisible⟩ := getBlobMetadata_eq_ok hget
  rw [← hkey, hd, some.injEq] at hd'
  subst hd'
  cases h with
  | released h => rw [hhidden] at h; cases h
  | held _ hfenced =>
    rw [hfenced, hhidden] at hvisible
    cases hvisible
  | gone _ _ hgone =>
    rw [hgone] at hstored
    cases hstored

/-! ## Runs -/

/-- A message of the fence stands where a message of the fence stands, along every run. -/
theorem Quarantine.run {holder m} {ops : List Operation}
    (h : d.Quarantine fenceID holder m) (hs : Reachable s) (hd : s.domains.get? key = some d)
    (hfenced : m.checkpointFenceID = some fenceID) (hvalid : m.message.envelope.validate = .ok ())
    (hops : Along Operation.apply AcknowledgesVisible s ops)
    (hd' : (FacetsNode.run Operation.apply s ops).domains.get? key = some d') :
    d'.Quarantine fenceID holder m := by
  obtain ⟨d₁, hd₁, h₁⟩ := domain_history (fun s => s) (fun _ _ => rfl)
    (I := fun _ d => d.Quarantine fenceID holder m)
    (fun s op d d' hs hop hd h hstep => h.step (.of_reachable hs hd)
      (WellFormed.step (.of_reachable hs hd) hstep) (.of_reachable hs hd) hd hop hfenced hvalid
      hstep) hs hd h hops
  rw [hd', some.injEq] at hd₁
  exact hd₁ ▸ h₁

/-- A blob of the fence stands where a blob of the fence stands, unless it is published anew. -/
theorem BlobQuarantine.run {ops : List Operation} (h : d.BlobQuarantine fenceID blobID)
    (hs : Reachable s) (hd : s.domains.get? key = some d)
    (hops : Along Operation.apply (fun s op => ¬ Republishes key fenceID blobID s op) s ops)
    (hd' : (FacetsNode.run Operation.apply s ops).domains.get? key = some d') :
    d'.BlobQuarantine fenceID blobID := by
  have hkept := invariant (P := fun s op => ¬ Republishes key fenceID blobID s op)
    (I := fun s => Reachable s ∧ ∃ d, s.domains.get? key = some d ∧
      d.BlobQuarantine fenceID blobID) ⟨hs, d, hd, h⟩ ?_ hops
  · obtain ⟨-, d₁, hd₁, h₁⟩ := hkept
    rw [hd', some.injEq] at hd₁
    exact hd₁ ▸ h₁
  · rintro s op ⟨hs, d, hd, h⟩ hop
    obtain ⟨d₁, hd₁, hstep⟩ := (hs.apply_step op).domain_step hd
    exact ⟨hs.apply op, d₁, hd₁, h.step (.of_reachable hs hd) hd₁ hop hstep⟩

theorem fenceVisible_some (hfence : d.checkpointFences.get? fenceID = some fence)
    (hstatus : fence.state.status ≠ .activated) : d.fenceVisible (some fenceID) = false := by
  unfold fenceVisible
  simp [hfence, hstatus]

/-- **Quarantine.** Take a step after which a fence is active, and any run from there in which
receipts are given for visible messages or by the holder. As long as the fence is not activated
nobody reads a message the step stored, and only the holder has a receipt for it; nobody reads a
blob the step stored, unless it is published anew when the fence has ended. A fence that ends
otherwise is never activated. -/
theorem quarantine_of_run {ops : List Operation} (hs : Reachable s)
    (hd : s.domains.get? key = some d) (hd' : (op.apply s).domains.get? key = some d')
    (hfence : d'.checkpointFences.get? fenceID = some fence)
    (hactive : fence.state.status = .active)
    (hops : Along Operation.apply AcknowledgesVisible (op.apply s) ops) :
    ∃ d'' fence'', (run Operation.apply (op.apply s) ops).domains.get? key = some d'' ∧
      d''.checkpointFences.get? fenceID = some fence'' ∧
      fence''.holderSubscriptionID = fence.holderSubscriptionID ∧
      (fence''.state.status ≠ .activated → (∀ m ∈ d'.messages, m ∉ d.messages →
          Withheld (run Operation.apply (op.apply s) ops) key m.messageID ∧
            ∀ m' ∈ d''.messages, m'.messageID = m.messageID →
              ∀ id ≠ fence.holderSubscriptionID, (d''.acknowledgmentsOf m').get? id = none) ∧
        ∀ blobID, d.blobs.get? blobID = none → (d'.blobs.get? blobID).isSome = true →
          ∀ credential now metadata, key = ⟨credential.tenantID, credential.domainID⟩ →
            getBlobMetadata (run Operation.apply (op.apply s) ops) credential blobID
              now = .ok metadata →
            ∃ ops₁ op' ops₂, ops = ops₁ ++ op' :: ops₂ ∧ Republishes key fenceID blobID
              (run Operation.apply (op.apply s) ops₁) op') ∧
      (fence''.state.status = .aborted ∨ fence''.state.status = .expired → ∀ ops', ∃ d₃,
        (run Operation.apply (op.apply s) (ops ++ ops')).domains.get? key = some d₃ ∧
          d₃.checkpointFences.get? fenceID = some fence'') := by
  have hwf : d.WellFormed := .of_reachable hs hd
  have hs' : Reachable (op.apply s) := hs.apply op
  obtain ⟨d₀, hd₀, hstep⟩ := (hs.apply_step op).domain_step hd
  rw [hd'] at hd₀
  cases hd₀
  -- the fence stays filed, with its holder
  obtain ⟨d'', hd'', fence'', hfence'', hholder⟩ := domain_history (fun s => s) (fun _ _ => rfl)
    (I := fun _ d => ∃ f, d.checkpointFences.get? fenceID = some f ∧
      f.holderSubscriptionID = fence.holderSubscriptionID)
    (fun _ _ _ _ _ _ _ h hstep => holder_step hstep h) hs' hd' ⟨fence, hfence, rfl⟩ hops
  have hs'' : Reachable (run Operation.apply (op.apply s) ops) :=
    reachable_run (fun s => s) (fun _ _ => rfl) hs' ops
  have hwf'' : d''.WellFormed := .of_reachable hs'' hd''
  refine ⟨d'', fence'', hd'', hfence'', hholder, fun hstatus => ⟨?_, ?_⟩, ?_⟩
  · intro m hm hnew
    obtain ⟨hfenced, hvalid, hquarantine⟩ := quarantine_of_stored hwf hstep hfence hactive hm hnew
    have hhidden := fenceVisible_some hfence'' hstatus
    replace hquarantine := hquarantine.run hs' hd' hfenced hvalid hops hd''
    refine ⟨hquarantine.withheld hwf'' (.of_reachable hs'' hd'') hfenced hvalid hhidden hd'', ?_⟩
    intro m' hm' hid id hne
    -- the message is still stored or has left a tombstone, which keeps its identifier from coming back
    rcases hquarantine.kept with hvisible | hm | htombstone
    · rw [hhidden] at hvisible
      cases hvisible
    · rw [hwf''.messages.log.eq_of_messageID hm' hm hid]
      exact hquarantine.receipts hhidden hm id hne
    · rw [← hid] at htombstone
      exact absurd hm' (hwf''.notMem_of_tombstone htombstone)
  · intro blobID hnew hstored credential now metadata hkey hget
    have hquarantine := blobQuarantine_of_stored hwf hstep hfence hactive hnew hstored
    -- either nothing publishes the blob anew on the way, or the first operation that does is named
    rcases @along_or_first _ _ Operation.apply
      (fun s op => ¬ Republishes key fenceID blobID s op) (op.apply s) ops with
      halong | ⟨ops₁, op', ops₂, hsplit, -, hop'⟩
    · have h'' := hquarantine.run hs' hd' halong hd''
      exact absurd hget (h''.unreadable (fenceVisible_some hfence'' hstatus) hd'' hkey)
    · exact ⟨ops₁, op', ops₂, hsplit, not_not.mp hop'⟩
  · intro hended ops'
    have hclosed : fence''.state.status ≠ .active := by
      rcases hended with h | h <;> rw [h] <;> decide
    rw [run_append]
    exact domain_history (fun s => s) (fun _ _ => rfl)
      (I := fun _ d => d.checkpointFences.get? fenceID = some fence'') (P := fun _ _ => True)
      (fun _ _ _ _ _ _ _ h hstep => fence_closed_step hstep h hclosed) hs'' hd'' hfence''
      (along_true _)

end MemoryDomain

/-! ## A sample fence -/

namespace Sample

/-- A message everybody may read, and the writer's fence. -/
def fencing : List Operation :=
  [.publish writer (envelope 100 3) 5, .createCheckpointFence writer ⟨50, 51, 5⟩ 7]

/-- The next message, which the fence holds. -/
def storing : Operation := .publish writer (envelope 101 3) 8

end Sample

open Sample

theorem quarantine_sample : ∃ d d' fence m, (store fencing).domains.get? ⟨1, 2⟩ = some d ∧
      (storing.apply (store fencing)).domains.get? ⟨1, 2⟩ = some d' ∧
      (d'.checkpointFences.get? 51 = some fence ∧ fence.state.status = .active) ∧
      (m ∈ d'.messages ∧ m ∉ d.messages ∧ m.messageID = 101) ∧
      Withheld ((Operation.acknowledge reader 100 .accepted 9).apply
        (storing.apply (store fencing))) ⟨1, 2⟩ 101 := by
  have hreach := reachable fencing
  generalize hs : store fencing = s at hreach ⊢
  obtain ⟨d, hd, d', hd', fence, hfence, m, hm, hvisible, hactive, hid, hnew, hstill⟩ :
      ∃ d ∈ s.domains.get? ⟨1, 2⟩, ∃ d' ∈ (storing.apply s).domains.get? ⟨1, 2⟩,
      ∃ fence ∈ d'.checkpointFences.get? 51, ∃ m ∈ d'.messages,
        (∀ m ∈ d'.messageByID.get? 100, d'.fenceVisible m.checkpointFenceID = true) ∧
        fence.state.status = .active ∧ m.messageID = 101 ∧
        m.messageID ∉ d.messages.map MemoryMessage.messageID ∧
        ∀ d'' ∈ ((Operation.acknowledge reader 100 .accepted 9).apply
          (storing.apply s)).domains.get? ⟨1, 2⟩, ∀ fence'' ∈ d''.checkpointFences.get? 51,
            fence''.state.status ≠ .activated := by
    subst hs
    decide +kernel
  have hops : Along Operation.apply AcknowledgesVisible (storing.apply s)
      [.acknowledge reader 100 .accepted 9] := by
    refine And.intro ?_ trivial
    intro d₁ hd₁ m₁ hm₁ _ _
    have heq : d₁ = d' := some.inj (hd₁.symm.trans hd')
    subst heq
    exact .inl (hvisible m₁ hm₁)
  have hnotMem : m ∉ d.messages := fun hmem => hnew (mem_map_of_mem hmem)
  obtain ⟨d'', fence'', hd'', hfence'', -, hquarantine, -⟩ :=
    MemoryDomain.quarantine_of_run hreach hd hd' hfence hactive hops
  have hstatus := hstill d'' hd'' fence'' hfence''
  have hwithheld := ((hquarantine hstatus).1 m hm hnotMem).1
  rw [hid] at hwithheld
  exact ⟨d, d', fence, m, hd, hd', ⟨hfence, hactive⟩, ⟨hm, hnotMem, hid⟩, hwithheld⟩

/-- The reader gives a receipt for the message the writer's fence still holds. -/
theorem quarantine_acknowledged : ∃ d d' d'' fence m, (store fencing).domains.get? ⟨1, 2⟩ = some d ∧
      (storing.apply (store fencing)).domains.get? ⟨1, 2⟩ = some d' ∧
      (d'.checkpointFences.get? 51 = some fence ∧ fence.state.status = .active) ∧
      (m ∈ d'.messages ∧ m ∉ d.messages ∧ m.messageID = 101) ∧
      ((Operation.acknowledge reader 101 .accepted 9).apply (storing.apply
        (store fencing))).domains.get? ⟨1, 2⟩ = some d'' ∧
      d''.checkpointFences.get? 51 = some fence ∧ fence.holderSubscriptionID = 30 ∧
      m ∈ d''.messages ∧ (d''.acknowledgmentsOf m).get? 31 = some .accepted := by
  generalize hs : store fencing = s
  obtain ⟨d, hd, d', hd', d'', hd'', fence, hfence, m, hm, hactive, hid, hnew, hkept⟩ :
      ∃ d ∈ s.domains.get? ⟨1, 2⟩, ∃ d' ∈ (storing.apply s).domains.get? ⟨1, 2⟩,
      ∃ d'' ∈ ((Operation.acknowledge reader 101 .accepted 9).apply
        (storing.apply s)).domains.get? ⟨1, 2⟩,
      ∃ fence ∈ d'.checkpointFences.get? 51, ∃ m ∈ d'.messages,
        fence.state.status = .active ∧ m.messageID = 101 ∧
        m.messageID ∉ d.messages.map MemoryMessage.messageID ∧
        d''.checkpointFences.get? 51 = some fence ∧ fence.holderSubscriptionID = 30 ∧
        m ∈ d''.messages ∧ (d''.acknowledgmentsOf m).get? 31 = some .accepted := by
    subst hs
    set_option synthInstance.maxSize 1024 in decide +kernel
  exact ⟨d, d', d'', fence, m, hd, hd', ⟨hfence, hactive⟩,
    ⟨hm, fun hmem => hnew (mem_map_of_mem hmem), hid⟩, hd'', hkept⟩

end FacetsNode.Relay
