import FacetsNode.Relay.Properties.Latest
import FacetsNode.Relay.Properties.Reservation

/-!
# Retained and republished blobs

A candidate may only be staged with blobs that are published, and an activation spares what its
candidate and the checkpoint before it retain. But the candidate is staged some time before it is
activated, and meanwhile the latest checkpoint may still be collected, with a blob of the candidate
among what it deletes; the activation does not look again. Where every activation finds the blobs of
its candidate published, the latest two checkpoints always have theirs.

A publication after an activation is not part of what the checkpoint deletes, unless the blob was
already there when the activation froze the deletion set: such a publication is acknowledged and the
blob stays in the set.

* `RetainedOK` — the retained blobs are published, visible, and spared;
* `retainedBlobs_of_run` — so they are in every such run;
* `publication_survives` — a blob published outside the deletion set survives the collection.
-/

namespace FacetsNode.Relay

/-- An activation finds every blob its candidate retains published, once the fences that are due are
closed. This is the test staging makes. -/
def ActivatesPublished (s : MemoryStore) : Operation → Prop
  | .activateCheckpoint credential request now =>
    ∀ d, s.domains.get? ⟨credential.tenantID, credential.domainID⟩ = some d → ∀ checkpoint,
        (d.refreshMemoryFence now).checkpoints.get? request.checkpointID = some checkpoint →
        checkpoint.state = .staged → ∀ blobID ∈ checkpoint.candidate.retainedBlobIDs,
          ((d.refreshMemoryFence now).blobs.get? blobID).isSome = true
  | _ => True

/-- A publication is of a blob the latest checkpoint has not frozen for deletion. -/
def PublishesOutside (s : MemoryStore) : Operation → Prop
  | .commitBlobPublish credential blobID _ _ =>
    ∀ d, s.domains.get? ⟨credential.tenantID, credential.domainID⟩ = some d →
      ∀ latest, d.latestCheckpoint = some latest → latest.deletionBlobs.get? blobID = none
  | .finalizeBlobUpload credential request _ _ =>
    ∀ d, s.domains.get? ⟨credential.tenantID, credential.domainID⟩ = some d →
      ∀ latest, d.latestCheckpoint = some latest →
        latest.deletionBlobs.get? request.relayBlobID = none
  | _ => True

/-- The operation is a publication of the blob in the domain, and succeeds, be it as accepted or as
a duplicate. -/
inductive Acknowledges (s : MemoryStore) (key : DomainKey) (blobID : GoString) : Operation → Prop
  | committed {credential byteCount now result}
      (hkey : key = ⟨credential.tenantID, credential.domainID⟩)
      (hok : (MemoryStore.commitBlobPublish credential blobID byteCount now s).1 = .ok result) :
      Acknowledges s key blobID (.commitBlobPublish credential blobID byteCount now)
  | finalized {credential request now publish result}
      (hkey : key = ⟨credential.tenantID, credential.domainID⟩)
      (hblob : request.relayBlobID = blobID)
      (hok : (MemoryStore.finalizeBlobUpload credential request now publish s).1 = .ok result) :
      Acknowledges s key blobID (.finalizeBlobUpload credential request now publish)

theorem Acknowledges.outside {s key blobID op d latest}
    (h : Acknowledges s key blobID op) (hop : PublishesOutside s op)
    (hd : s.domains.get? key = some d) (hlatest : d.latestCheckpoint = some latest) :
    latest.deletionBlobs.get? blobID = none := by
  cases h with
  | committed hkey =>
    subst hkey
    exact hop d hd latest hlatest
  | finalized hkey hblob =>
    subst hkey hblob
    exact hop d hd latest hlatest

open Option

namespace MemoryDomain

variable {s : MemoryStore} {op : Operation} {key : DomainKey} {d d' : MemoryDomain} {now : Int}
  {id : UUID} {fence : MemoryCheckpointFence} {status : CheckpointFenceStatus}

/-! ## The invariant -/

/-- The blob is published for everyone to read. -/
def BlobReadable (d : MemoryDomain) (blobID : GoString) : Prop :=
  (d.blobs.get? blobID).isSome = true ∧ d.fenceVisible (d.blobFenceIDs.get? blobID) = true

/-- What the latest two checkpoints retain is readable, and the latest does not delete it. -/
structure RetainedOK (d : MemoryDomain) : Prop where
  readable : ∀ {id checkpoint blobID}, id ∈ d.latestTwo → d.checkpoints.get? id = some checkpoint →
    blobID ∈ checkpoint.candidate.retainedBlobIDs → d.BlobReadable blobID
  spared : ∀ {latest id checkpoint blobID}, d.latestCheckpoint = some latest → id ∈ d.latestTwo →
    d.checkpoints.get? id = some checkpoint → blobID ∈ checkpoint.candidate.retainedBlobIDs →
      latest.deletionBlobs.get? blobID = none

/-- Any step that leaves the activated checkpoints alone and keeps readable blobs. -/
theorem RetainedOK.kept (h : d.RetainedOK) (hblobs : ∀ {blobID}, d.BlobReadable blobID →
      d'.BlobReadable blobID) (hlatestTwo : d'.latestTwo = d.latestTwo)
    (hget : ∀ {id checkpoint}, id ∈ d.latestTwo → d'.checkpoints.get? id = some checkpoint →
      d.checkpoints.get? id = some checkpoint)
    (hlatest : d'.latestCheckpoint = d.latestCheckpoint) : d'.RetainedOK := by
  constructor
  · intro id checkpoint blobID hmem hfiled hretained
    rw [hlatestTwo] at hmem
    exact hblobs (h.readable hmem (hget hmem hfiled) hretained)
  · intro latest id checkpoint blobID hl hmem hfiled hretained
    rw [hlatestTwo] at hmem
    rw [hlatest] at hl
    exact h.spared hl hmem (hget hmem hfiled) hretained

theorem RetainedOK.congr (h : d.RetainedOK) (hsame : SameContent d d') : d'.RetainedOK := by
  refine h.kept (fun hblob => ?_) hsame.latestTwo ?_ hsame.latestCheckpoint
  · unfold BlobReadable
    rw [hsame.blobs, hsame.blobFenceIDs, fenceVisible_congr hsame.fences]
    exact hblob
  · intro id checkpoint _ hget
    rwa [hsame.checkpoints] at hget

/-! ## The operations -/

theorem RetainedOK.closeFence (h : d.RetainedOK) (hwf : d.WellFormed)
    (hfence : d.checkpointFences.get? id = some fence) (hactive : fence.state.status = .active) :
    (d.closeFence id fence status id).RetainedOK := by
  refine h.kept (fun hblob => ?_) rfl (fun hmem hget => hwf.checkpoints.get?_closeFence hmem hget)
    (hwf.checkpoints.closeFence_latestCheckpoint id fence status id)
  obtain ⟨hsame, hvisible⟩ := visibleBlob_closeFence hfence hactive hblob.2
  exact ⟨hsame ▸ hblob.1, hvisible⟩

theorem RetainedOK.expiry (h : d.RetainedOK) (hwf : d.WellFormed) (hexpiry : Expiry op d d') :
    d'.RetainedOK :=
  hwf.expiry_induction hexpiry (fun _ _ _ hwf h hfence hactive => h.closeFence hwf hfence hactive) h

theorem RetainedOK.storeBlob (h : d.RetainedOK) {metadata} (subscriptionID : UUID)
    (hnew : d.blobs.get? metadata.blobID = none) :
    (d.storeBlob metadata subscriptionID).RetainedOK := by
  refine h.kept (fun {blobID} hblob => ?_) rfl (fun _ hget => hget) rfl
  have hne : blobID ≠ metadata.blobID := by
    rintro rfl
    have hstored := hblob.1
    rw [hnew] at hstored
    cases hstored
  obtain ⟨hblobs, hfences⟩ := storeBlob_of_ne (d := d) subscriptionID hne
  refine ⟨hblobs ▸ hblob.1, ?_⟩
  rw [hfences]
  exact hblob.2

theorem RetainedOK.fileFence (h : d.RetainedOK) {f}
    (hnew : d.checkpointFences.get? f.request.fenceID = none) : (d.fileFence f).RetainedOK := by
  refine h.kept (fun hblob => ⟨hblob.1, ?_⟩) rfl (fun _ hget => hget) rfl
  exact fenceVisible_set ((FenceLive.of_visible hblob.2).ne_of_none hnew) rfl hblob.2

theorem RetainedOK.fileActivation (h : d.RetainedOK) (hwf : d.WellFormed)
    {checkpoint request result}
    (hcheckpoint : d.checkpoints.get? request.checkpointID = some checkpoint)
    (hstate : checkpoint.state = .staged)
    (hfence : d.checkpointFences.get? checkpoint.candidate.fenceID = some fence)
    (hactive : fence.state.status = .active)
    (hpublished : ∀ blobID ∈ checkpoint.candidate.retainedBlobIDs,
      (d.blobs.get? blobID).isSome = true) :
    (d.fileActivation checkpoint fence request result).RetainedOK := by
  have hlatest := hwf.checkpoints.latest_fileActivation fence result hcheckpoint hstate
  constructor
  · intro id checkpoint' blobID hmem hget hretained
    refine ⟨?_, ?_⟩
    · rcases hwf.checkpoints.live_fileActivation hcheckpoint hstate hmem hget with
        ⟨-, rfl⟩ | ⟨hmem, hget, -⟩
      · exact hpublished blobID hretained
      · exact (h.readable hmem hget hretained).1
    · -- The one open fence is the one just activated.
      refine FenceLive.fenceVisible ?_ hwf.fences hfence hactive rfl
      exact fun id hid => hwf.blobs.live hid id rfl
  · intro latest id checkpoint' blobID hlatest' hmem hget hretained
    rw [hlatest, some.injEq] at hlatest'
    subst hlatest'
    rw [eq_none_iff_forall_ne_some]
    intro blob hblob
    have hnot := of_decide_eq_true ((GoMap.get?_filter _ _).mp hblob).2
    refine hnot (List.mem_append.mpr ?_)
    rcases hwf.checkpoints.live_fileActivation hcheckpoint hstate hmem hget with
      ⟨-, rfl⟩ | ⟨-, -, hprevious⟩
    · exact .inl hretained
    · rw [hprevious]
      exact .inr hretained

theorem RetainedOK.deleteCollected (h : d.RetainedOK) {checkpoint}
    {messages : List MemoryMessage} {blobLimit : Nat} {plan}
    (hcheckpoint : d.checkpoints.get? id = some checkpoint)
    (hplan : d.memoryCheckpointPlan id = .ok plan) :
    (d.deleteCollected id checkpoint messages
      (collectedBlobs checkpoint blobLimit)).RetainedOK := by
  obtain ⟨hlatestID, hlatest⟩ := latestCheckpoint_of_plan hplan hcheckpoint
  constructor
  · intro id' checkpoint' blobID hmem hget hretained
    obtain ⟨checkpoint₀, hget₀, -, hcandidate⟩ := get?_checkpoints_deleteCollected hcheckpoint hget
    rw [hcandidate] at hretained
    obtain ⟨hstored, hvisible⟩ := h.readable hmem hget₀ hretained
    refine ⟨?_, hvisible⟩
    have hnot : blobID ∉ (collectedBlobs checkpoint blobLimit).map Prod.fst := by
      intro hcollected
      obtain ⟨p, hp, rfl⟩ := List.mem_map.mp hcollected
      have hfrozen := get?_of_mem_collectedBlobs hp
      rw [h.spared hlatest hmem hget₀ hretained] at hfrozen
      cases hfrozen
    show ((d.blobs.deleteAll _).get? blobID).isSome = true
    rw [GoMap.get?_deleteAll, if_neg hnot]
    exact hstored
  · intro latest id' checkpoint' blobID hlatest' hmem hget hretained
    rw [latestCheckpoint_deleteCollected hlatestID, some.injEq] at hlatest'
    subst hlatest'
    obtain ⟨checkpoint₀, hget₀, -, hcandidate⟩ := get?_checkpoints_deleteCollected hcheckpoint hget
    rw [hcandidate] at hretained
    show (checkpoint.deletionBlobs.deleteAll _).get? blobID = none
    rw [GoMap.get?_deleteAll, h.spared hlatest hmem hget₀ hretained, ite_self]

/-! ## Steps and runs -/

theorem RetainedOK.step (h : d.RetainedOK) (hwf : d.WellFormed) (hd : s.domains.get? key = some d)
    (hop : ActivatesPublished s op) (hstep : DomainStep s key op d d') : d'.RetainedOK := by
  obtain @⟨d₁, hexpiry, heffect⟩ := hstep
  have hwf₁ := hwf.expiry hexpiry
  have h₁ := h.expiry hwf hexpiry
  cases heffect with
  | authority heq =>
    rw [heq]
    exact h₁.congr (by constructor <;> rfl)
  | testSubscription _ heq => exact ensured heq fun _ => h₁.congr (by constructor <;> rfl)
  | publish => exact h₁.kept (fun hblob => hblob) rfl (fun _ hget => hget) rfl
  | createFence hnew => exact h₁.fileFence hnew
  | abortFence hfence hactive =>
    exact (h₁.closeFence hwf₁ hfence hactive).congr (by constructor <;> rfl)
  | stage _ _ _ _ hnew =>
    refine h₁.kept (fun hblob => hblob) rfl (fun hmem hget => ?_)
      (hwf₁.checkpoints.latestCheckpoint_fileCheckpoint hnew)
    rwa [hwf₁.checkpoints.get?_fileCheckpoint hnew (mem_activated_of_mem_latestTwo hmem)] at hget
  | activate hkey _ _ hcheckpoint hstate hfence hactive _ _ _ hexpired =>
    subst hkey hexpired
    exact h₁.fileActivation hwf₁ hcheckpoint hstate hfence hactive
      (hop d hd _ hcheckpoint hstate)
  | collect hcheckpoint hplan =>
    exact (h₁.deleteCollected hcheckpoint hplan).congr (by constructor <;> rfl)
  | commitBlob _ _ hnew => exact h₁.storeBlob _ (blobs_none_of_expiry hexpiry hnew)
  | finalizeNew _ _ _ _ _ _ hnew =>
    exact (h₁.storeBlob _ hnew).congr (by constructor <;> rfl)
  | _ => exact h₁.congr (by constructor <;> rfl)

theorem RetainedOK.create (p : DomainProvisioning) : (MemoryDomain.create p).RetainedOK := by
  constructor <;> simp [MemoryDomain.create, MemoryDomain.latestTwo]

/-- **Retained blobs exist.** In every run whose activations find the blobs of their candidates
published, every blob the latest two checkpoints retain is published. -/
theorem retainedBlobs_of_run {ttl : Option Int} {ops : List Operation}
    (hops : Along Operation.apply ActivatesPublished (MemoryStore.newMemoryStore ttl) ops)
    (hd : (run Operation.apply (MemoryStore.newMemoryStore ttl) ops).domains.get? key = some d) :
    ∀ id ∈ d.latestTwo, ∃ checkpoint, d.checkpoints.get? id = some checkpoint ∧
      ∀ blobID ∈ checkpoint.candidate.retainedBlobIDs, (d.blobs.get? blobID).isSome = true := by
  have hwf : d.WellFormed := .of_reachable ⟨ttl, ops, rfl⟩ hd
  have h : d.RetainedOK := domain_invariant_along (I := fun _ d => d.RetainedOK)
    (fun _ p _ => .create p)
    (fun s op key d d' hs hop hd h hstep => h.step (.of_reachable hs hd) hd hop hstep) hops hd
  intro id hmem
  obtain ⟨checkpoint, hget, -⟩ := hwf.checkpoints.filed id (mem_activated_of_mem_latestTwo hmem)
  exact ⟨checkpoint, hget, fun blobID hretained => (h.readable hmem hget hretained).1⟩

/-! ## Republication -/

/-- The checkpoint was activated, and as long as it is the latest it does not delete the blob. -/
structure Spares (d : MemoryDomain) (checkpointID : UUID) (blobID : GoString) : Prop where
  activated : checkpointID ∈ d.activatedCheckpoints
  outside : ∀ {latest}, d.latestCheckpointID = some checkpointID →
    d.latestCheckpoint = some latest → latest.deletionBlobs.get? blobID = none

/-- The deletion set only shrinks, and a checkpoint another one has followed is never the latest
again. -/
theorem Spares.step {checkpointID blobID} (h : d.Spares checkpointID blobID)
    (hwf : d.WellFormed) (hstep : DomainStep s key op d d') : d'.Spares checkpointID blobID := by
  rcases hwf.latest_step hstep with ⟨hsame, hactivated⟩ | ⟨id, hnew, hactivated⟩
  · refine ⟨hactivated ▸ h.activated, fun {latest'} hid hlatest' => ?_⟩
    obtain ⟨latest, hlatest, hcollected⟩ := hsame.before hlatest'
    rw [hsame.latestID] at hid
    rw [eq_none_iff_forall_ne_some]
    intro blob hblob
    have hfrozen := hcollected.blobs hblob
    rw [h.outside hid hlatest] at hfrozen
    cases hfrozen
  · refine ⟨hactivated ▸ List.mem_append_left _ h.activated, fun {latest'} hid _ => ?_⟩
    have hlast : id = checkpointID := by
      unfold latestCheckpointID at hid
      rw [hactivated, List.getLast?_concat] at hid
      exact some.inj hid
    exact absurd (hlast ▸ h.activated) hnew

theorem Spares.collect {checkpointID blobID credential request}
    (h : d.Spares checkpointID blobID) (hrequest : request.checkpointID = checkpointID)
    (hstep : DomainStep s key (.collectCheckpoint credential request) d d') :
    d'.blobs.get? blobID = d.blobs.get? blobID := by
  obtain @⟨d₁, hexpiry, heffect⟩ := hstep
  cases hexpiry with
  | due hnow => cases hnow
  | none =>
    cases heffect with
    | unchanged => rfl
    | authority heq =>
      rw [heq]
      rfl
    | testSubscription hop => cases hop
    | @collect _ _ checkpoint _ _ _ hcheckpoint hplan =>
      obtain ⟨hlatestID, hlatest⟩ := latestCheckpoint_of_plan hplan hcheckpoint
      rw [hrequest] at hlatestID
      have hnot : blobID ∉ (collectedBlobs checkpoint request.maximumBlobCount.toNat).map
          Prod.fst := by
        intro hcollected
        obtain ⟨p, hp, rfl⟩ := List.mem_map.mp hcollected
        have hfrozen := get?_of_mem_collectedBlobs hp
        rw [h.outside hlatestID hlatest] at hfrozen
        cases hfrozen
      show (d.blobs.deleteAll _).get? blobID = _
      rw [GoMap.get?_deleteAll, if_neg hnot]

/-- **Republication.** A blob published after the activation of a checkpoint, and not in the
checkpoint's deletion set at that moment, is not removed by any later collection of it. -/
theorem publication_survives {checkpointID : UUID} {blobID : GoString} {ops : List Operation}
    {credential : AdministrationCredential} {request : CheckpointCollectionRequest}
    {d₁ d₂ : MemoryDomain} (hs : Reachable s) (hd : s.domains.get? key = some d)
    (hactivated : checkpointID ∈ d.activatedCheckpoints) (hack : Acknowledges s key blobID op)
    (hop : PublishesOutside s op)
    (hd₁ : (run Operation.apply (op.apply s) ops).domains.get? key = some d₁)
    (hrequest : request.checkpointID = checkpointID)
    (hd₂ : ((Operation.collectCheckpoint credential request).apply
      (run Operation.apply (op.apply s) ops)).domains.get? key = some d₂) :
    d₂.blobs.get? blobID = d₁.blobs.get? blobID := by
  have hspares : d.Spares checkpointID blobID :=
    ⟨hactivated, fun _ hlatest => hack.outside hop hd hlatest⟩
  have halong : Along Operation.apply (fun _ _ => True) s (op :: ops) := along_true _
  obtain ⟨d', hd', h⟩ := domain_history (fun s => s) (fun _ _ => rfl)
    (I := fun _ d => d.Spares checkpointID blobID)
    (fun s op d d' hs _ hd h hstep => h.step (.of_reachable hs hd) hstep) hs hd hspares halong
  have heq : d' = d₁ := some.inj (hd'.symm.trans hd₁)
  subst heq
  have hreachable : Reachable (run Operation.apply (op.apply s) ops) :=
    reachable_run (fun s => s) (fun _ _ => rfl) (hs.apply op) ops
  obtain ⟨d₃, hd₃, hstep⟩ :=
    (hreachable.apply_step (.collectCheckpoint credential request)).domain_step hd₁
  rw [hd₂] at hd₃
  cases hd₃
  exact h.collect hrequest hstep

end MemoryDomain

/-! ## Sample checkpoints -/

namespace Sample

/-- A message and a blob, and a fence to replace them. -/
def published : List Operation :=
  [.publish writer (envelope 100 3) 5, .commitBlobPublish writer (blobID 1) 8 5,
   .acknowledge reader 100 .accepted 6,
   .createCheckpointFence writer ⟨50, 51, 5⟩ 7,
   .publish writer (envelope 101 3) 8]

/-- The candidate over them, which retains the blobs listed. -/
def staging (blobIDs : List GoString) : Operation :=
  .stageCheckpoint writer (candidate 60 51 1 [101] blobIDs 8) 9

def activating : Operation := .activateCheckpoint administrator ⟨61, 60, 9⟩ 10

/-- The checkpoint that retains no blob is activated. -/
def activated : List Operation := published ++ [staging [], activating]

/-- The checkpoint that retains no blob deletes the message and the blob. -/
def collecting : Operation :=
  .collectCheckpoint administrator
    ⟨80, 60, checkpointPlanDigest 1 2 60 1 [⟨1, 100, 1⟩] [⟨blobID 1, 8⟩], 10, 10, 20⟩

/-- A second candidate, which retains the blob. -/
def restaging : List Operation :=
  [.createCheckpointFence writer ⟨52, 53, 11⟩ 11, .publish writer (envelope 102 3) 12,
   .stageCheckpoint writer (candidate 70 53 2 [102] [blobID 1] 12) 13]

end Sample

open Sample

theorem retainedBlobs_sample : ∃ d, (store (published ++ [staging [blobID 1],
        activating])).domains.get? ⟨1, 2⟩ = some d ∧
      (d.latestTwo = [60] ∧ (d.checkpoints.get? 60).any
        (fun c => c.candidate.retainedBlobIDs = [blobID 1]) = true) ∧
      ∀ id ∈ d.latestTwo, ∃ checkpoint, d.checkpoints.get? id = some checkpoint ∧
        ∀ blobID ∈ checkpoint.candidate.retainedBlobIDs, (d.blobs.get? blobID).isSome = true := by
  have hbefore : ∀ d ∈ (store (published ++ [staging [blobID 1]])).domains.get? ⟨1, 2⟩,
      ∀ c ∈ (d.refreshMemoryFence 10).checkpoints.get? 60,
      ∀ blobID ∈ c.candidate.retainedBlobIDs,
        ((d.refreshMemoryFence 10).blobs.get? blobID).isSome = true := by
    decide +kernel
  have hops : Along Operation.apply ActivatesPublished (MemoryStore.newMemoryStore none)
      (setup ++ ((published ++ [staging [blobID 1]]) ++ [activating])) := by
    rw [← List.append_assoc, along_concat]
    refine ⟨by simp [Along, setup, published, staging, ActivatesPublished], ?_⟩
    intro d hd checkpoint hcheckpoint _ blobID hretained
    exact hbefore d hd checkpoint hcheckpoint blobID hretained
  obtain ⟨d, hd, hafter⟩ : ∃ d ∈ (store (published ++ [staging [blobID 1],
      activating])).domains.get? ⟨1, 2⟩, d.latestTwo = [60] ∧ (d.checkpoints.get? 60).any
        (fun c => c.candidate.retainedBlobIDs = [blobID 1]) = true := by
    decide +kernel
  exact ⟨d, hd, hafter, MemoryDomain.retainedBlobs_of_run hops hd⟩

/-- The first checkpoint is collected between the staging and the activation of the second. -/
theorem retainedBlobs_lost : ∃ d checkpoint, (store (activated ++ restaging ++ [collecting,
        .activateCheckpoint administrator ⟨71, 70, 14⟩ 21])).domains.get? ⟨1, 2⟩ = some d ∧
      70 ∈ d.latestTwo ∧ d.checkpoints.get? 70 = some checkpoint ∧
      blobID 1 ∈ checkpoint.candidate.retainedBlobIDs ∧ d.blobs.get? (blobID 1) = none := by
  obtain ⟨d, hd, checkpoint, hcheckpoint, hlatest, hlost⟩ :
      ∃ d ∈ (store (activated ++ restaging ++ [collecting,
        .activateCheckpoint administrator ⟨71, 70, 14⟩ 21])).domains.get? ⟨1, 2⟩,
      ∃ checkpoint ∈ d.checkpoints.get? 70, 70 ∈ d.latestTwo ∧
        blobID 1 ∈ checkpoint.candidate.retainedBlobIDs ∧ d.blobs.get? (blobID 1) = none := by
    decide +kernel
  exact ⟨d, checkpoint, hd, hlatest, hcheckpoint, hlost⟩

theorem publication_survives_sample :
    ∃ d d₁ d₂ result, (store activated).domains.get? ⟨1, 2⟩ = some d ∧ 60 ∈ d.activatedCheckpoints ∧
      (MemoryStore.commitBlobPublish writer (blobID 2) 9 11 (store activated)).1 = .ok result ∧
      ((Operation.commitBlobPublish writer (blobID 2) 9 11).apply
        (store activated)).domains.get? ⟨1, 2⟩ = some d₁ ∧
      (collecting.apply ((Operation.commitBlobPublish writer (blobID 2) 9
        11).apply (store activated))).domains.get? ⟨1, 2⟩ = some d₂ ∧
      (d₁.blobs.get? (blobID 1)).isSome = true ∧ d₂.blobs.get? (blobID 1) = none ∧
      (d₁.blobs.get? (blobID 2)).isSome = true ∧
      d₂.blobs.get? (blobID 2) = d₁.blobs.get? (blobID 2) := by
  have hreach := reachable activated
  generalize hs : store activated = s at hreach ⊢
  obtain ⟨d, hd, result, hresult, d₁, hd₁, d₂, hd₂, hfrozen, hactivated, hold, hgone, hnew⟩ :
      ∃ d ∈ s.domains.get? ⟨1, 2⟩,
      ∃ result, (MemoryStore.commitBlobPublish writer (blobID 2) 9 11 s).1 = .ok result ∧
      ∃ d₁ ∈ ((Operation.commitBlobPublish writer (blobID 2) 9 11).apply s).domains.get? ⟨1, 2⟩,
      ∃ d₂ ∈ (collecting.apply ((Operation.commitBlobPublish writer (blobID 2) 9 11).apply
        s)).domains.get? ⟨1, 2⟩,
        (∀ latest ∈ d.latestCheckpoint, latest.deletionBlobs.get? (blobID 2) = none) ∧
        60 ∈ d.activatedCheckpoints ∧ (d₁.blobs.get? (blobID 1)).isSome = true ∧
        d₂.blobs.get? (blobID 1) = none ∧ (d₁.blobs.get? (blobID 2)).isSome = true := by
    subst hs
    decide +kernel
  refine ⟨d, d₁, d₂, result, hd, hactivated, hresult, hd₁, hd₂, hold, hgone, hnew, ?_⟩
  have hend : (run Operation.apply ((Operation.commitBlobPublish writer (blobID 2) 9
      11).apply s) []).domains.get? ⟨1, 2⟩ = some d₁ := hd₁
  refine MemoryDomain.publication_survives hreach hd hactivated (.committed rfl hresult) ?_ hend
    rfl hd₂
  intro d' hd' latest hlatest
  have heq : d' = d := some.inj (hd'.symm.trans hd)
  subst heq
  exact hfrozen latest hlatest

/-- The blob of before the activation is published again, and is collected all the same. -/
theorem publication_collected : ∃ d d₁ d₂, (store activated).domains.get? ⟨1, 2⟩ = some d ∧
      60 ∈ d.activatedCheckpoints ∧ (MemoryStore.commitBlobPublish writer (blobID 1) 8 11
        (store activated)).1 = .ok ⟨.duplicate, 8⟩ ∧
      ((Operation.commitBlobPublish writer (blobID 1) 8 11).apply
        (store activated)).domains.get? ⟨1, 2⟩ = some d₁ ∧
      (d₁.blobs.get? (blobID 1)).isSome = true ∧
      (collecting.apply ((Operation.commitBlobPublish writer (blobID 1) 8
        11).apply (store activated))).domains.get? ⟨1, 2⟩ = some d₂ ∧
      d₂.blobs.get? (blobID 1) = none := by
  generalize hs : store activated = s
  obtain ⟨d, hd, d₁, hd₁, d₂, hd₂, hactivated, hresult, hold, hgone⟩ :
      ∃ d ∈ s.domains.get? ⟨1, 2⟩,
      ∃ d₁ ∈ ((Operation.commitBlobPublish writer (blobID 1) 8 11).apply s).domains.get? ⟨1, 2⟩,
      ∃ d₂ ∈ (collecting.apply ((Operation.commitBlobPublish writer (blobID 1) 8 11).apply
        s)).domains.get? ⟨1, 2⟩, 60 ∈ d.activatedCheckpoints ∧
        (∃ result, (MemoryStore.commitBlobPublish writer (blobID 1) 8 11 s).1 = .ok result ∧
          result = ⟨.duplicate, 8⟩) ∧
        (d₁.blobs.get? (blobID 1)).isSome = true ∧ d₂.blobs.get? (blobID 1) = none := by
    subst hs
    decide +kernel
  obtain ⟨_, hresult, rfl⟩ := hresult
  exact ⟨d, d₁, d₂, hd, hactivated, hresult, hd₁, hold, hd₂, hgone⟩

end FacetsNode.Relay
