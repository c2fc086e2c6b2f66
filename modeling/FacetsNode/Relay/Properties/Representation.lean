import FacetsNode.Relay.Properties.Checkpoints

/-!
# The representation invariant of a domain

`WellFormed` joins the invariants of the fences, the messages, the blobs and the checkpoints of a
domain. Every operation keeps it, so every domain of every reachable store has it.
-/

namespace FacetsNode.Relay

namespace MemoryDomain

variable {s : MemoryStore} {op : Operation} {key : DomainKey} {d d' : MemoryDomain} {now : Int}
  {id fenceID : UUID} {fence : MemoryCheckpointFence} {status : CheckpointFenceStatus}

/-! ## The whole invariant -/

/-- **The representation invariant.** -/
structure WellFormed (d : MemoryDomain) : Prop where
  fences : FencesOK d.checkpointFences
  messages : d.MessagesOK
  blobs : d.BlobsOK
  checkpoints : d.CheckpointsOK

/-- Two domains that agree on everything the invariant speaks of. -/
structure SameContent (d d' : MemoryDomain) : Prop where
  messages : d'.messages = d.messages
  nextSequence : d'.nextSequence = d.nextSequence
  messageByID : d'.messageByID = d.messageByID
  messageBytes : d'.messageBytes = d.messageBytes
  tombstones : d'.fenceMessageTombstones = d.fenceMessageTombstones
  blobs : d'.blobs = d.blobs
  blobBytes : d'.blobBytes = d.blobBytes
  blobFenceIDs : d'.blobFenceIDs = d.blobFenceIDs
  fences : d'.checkpointFences = d.checkpointFences
  checkpoints : d'.checkpoints = d.checkpoints
  activated : d'.activatedCheckpoints = d.activatedCheckpoints

theorem SameContent.latestTwo (h : SameContent d d') : d'.latestTwo = d.latestTwo := by
  unfold MemoryDomain.latestTwo
  rw [h.activated]

theorem SameContent.latestCheckpoint (h : SameContent d d') :
    d'.latestCheckpoint = d.latestCheckpoint := by
  unfold MemoryDomain.latestCheckpoint latestCheckpointID
  rw [h.activated, h.checkpoints]

theorem WellFormed.congr (h : d.WellFormed) (hsame : SameContent d d') : d'.WellFormed := by
  have hvisible := fenceVisible_congr hsame.fences
  refine ⟨hsame.fences ▸ h.fences, ⟨?_, ?_, ?_⟩, ⟨?_, ?_⟩, ⟨?_, ?_, ?_, ?_, ?_, ?_, ?_⟩⟩
  · rw [hsame.messages, hsame.nextSequence, hsame.messageByID, hsame.messageBytes]
    exact h.messages.log
  · rw [hsame.tombstones, hsame.messageByID]
    exact h.messages.untombstoned
  · rw [hsame.messages, hsame.fences]
    exact h.messages.live
  · rw [hsame.blobBytes, hsame.blobs]
    exact h.blobs.bytes
  · rw [hsame.blobFenceIDs, hsame.fences]
    exact h.blobs.live
  · rw [hsame.activated]
    exact h.checkpoints.nodup
  · rw [hsame.activated, hsame.checkpoints]
    exact h.checkpoints.filed
  · rw [hsame.latestTwo, hsame.checkpoints]
    exact h.checkpoints.activated
  · rw [hsame.latestCheckpoint, hsame.messages]
    simp only [hvisible]
    exact h.checkpoints.deletionMessages
  · rw [hsame.latestCheckpoint, hsame.blobs, hsame.blobFenceIDs]
    simp only [hvisible]
    exact h.checkpoints.deletionBlobs
  · rw [hsame.latestTwo, hsame.checkpoints, hsame.messages]
    simp only [hvisible]
    exact h.checkpoints.retained
  · rw [hsame.latestCheckpoint, hsame.latestTwo, hsame.checkpoints]
    exact h.checkpoints.spared

theorem WellFormed.closeFence (h : d.WellFormed)
    (hfence : d.checkpointFences.get? id = some fence) (hactive : fence.state.status = .active)
    (status : CheckpointFenceStatus) (hstatus : status ≠ .active) :
    (d.closeFence id fence status id).WellFormed :=
  ⟨h.fences.setStatus hfence hstatus, h.messages.closeFence fence status,
   h.blobs.closeFence fence status, h.checkpoints.closeFence hfence hactive status⟩

/-- **Expiry, in a well-formed domain.** The loop closes fences under their own identifiers. -/
theorem WellFormed.expiry_induction {P : MemoryDomain → Prop} (h : d.WellFormed)
    (hexpiry : Expiry op d d')
    (hclose : ∀ d id fence, d.WellFormed → P d → d.checkpointFences.get? id = some fence →
      fence.state.status = .active → P (d.closeFence id fence .expired id)) (hd : P d) : P d' := by
  refine (hexpiry.induction (P := fun d => d.WellFormed ∧ P d) ?_ ⟨h, hd⟩).2
  rintro d id fence ⟨h, hd⟩ hfence hactive
  rw [h.fences.keyed hfence]
  exact ⟨h.closeFence hfence hactive .expired (by decide), hclose d id fence h hd hfence hactive⟩

theorem WellFormed.expiry (h : d.WellFormed) (hexpiry : Expiry op d d') : d'.WellFormed :=
  h.expiry_induction hexpiry
    (fun _ _ _ h _ hfence hactive => h.closeFence hfence hactive .expired (by decide)) h

/-- An identifier that is neither stored nor tombstoned is still neither after expiry. -/
theorem WellFormed.absent_of_expiry (h : d.WellFormed) (hexpiry : Expiry op d d') {messageID : UUID}
    (hstored : d.messageByID.get? messageID = none)
    (htombstone : d.fenceMessageTombstones.get? messageID = none) :
    d'.messageByID.get? messageID = none ∧ d'.fenceMessageTombstones.get? messageID = none := by
  refine h.expiry_induction (P := fun d => d.messageByID.get? messageID = none ∧
    d.fenceMessageTombstones.get? messageID = none) hexpiry ?_ ⟨hstored, htombstone⟩
  rintro d id fence h ⟨hstored, htombstone⟩ - -
  refine ⟨?_, ?_⟩
  · rw [closeFence_messageByID, GoMap.get?_deleteAll, hstored, ite_self]
  · rw [closeFence_tombstones, ← htombstone]
    refine GoMap.get?_setAll_of_notMem fun hmem => ?_
    obtain ⟨m, hm, rfl⟩ := List.mem_map.mp (tombstoneOf_fst hmem)
    rw [h.messages.log.get? (List.mem_of_mem_filter hm)] at hstored
    cases hstored

theorem blobs_none_of_expiry (hexpiry : Expiry op d d') {blobID}
    (hblob : d.blobs.get? blobID = none) : d'.blobs.get? blobID = none := by
  refine hexpiry.induction (P := fun d => d.blobs.get? blobID = none) ?_ hblob
  intro d id fence hblob _ _
  rw [closeFence_blobs, GoMap.get?_deleteAll, hblob, ite_self]

/-! ### The operations -/

theorem WellFormed.storeMessage (h : d.WellFormed) {credential envelope}
    {byteCount : Int} {subscriptionID : UUID}
    (hstored : d.messageByID.get? envelope.messageID = none)
    (htombstone : d.fenceMessageTombstones.get? envelope.messageID = none) :
    (d.storeMessage (d.newMessage credential envelope byteCount subscriptionID)).WellFormed where
  fences := h.fences
  messages := h.messages.storeMessage hstored htombstone rfl (h.fences.live_of_active _)
  blobs := ⟨h.blobs.bytes, h.blobs.live⟩
  checkpoints :=
    { h.checkpoints with
      deletionMessages := by
        intro latest id m hlatest hget
        obtain ⟨⟨hm, hid⟩, hrest⟩ := h.checkpoints.deletionMessages hlatest hget
        exact ⟨⟨List.mem_append_left _ hm, hid⟩, hrest⟩
      retained := by
        intro id checkpoint messageID hmem hget hretained
        obtain ⟨m, hm, hrest⟩ := h.checkpoints.retained hmem hget hretained
        exact ⟨m, List.mem_append_left _ hm, hrest⟩ }

/-- A new blob leaves the others where they are. -/
theorem storeBlob_of_ne {metadata blobID} (subscriptionID : UUID) (hne : blobID ≠ metadata.blobID) :
    (d.storeBlob metadata subscriptionID).blobs.get? blobID = d.blobs.get? blobID ∧
      (d.storeBlob metadata subscriptionID).blobFenceIDs.get? blobID =
        d.blobFenceIDs.get? blobID := by
  refine ⟨GoMap.get?_set_ne _ _ hne, ?_⟩
  unfold MemoryDomain.storeBlob
  dsimp only
  split
  · exact GoMap.get?_set_ne _ _ hne
  · rfl

theorem WellFormed.storeBlob (h : d.WellFormed) {metadata} {subscriptionID : UUID}
    (hnew : d.blobs.get? metadata.blobID = none) :
    (d.storeBlob metadata subscriptionID).WellFormed where
  fences := h.fences
  messages := { h.messages with }
  blobs := h.blobs.storeBlob h.fences hnew subscriptionID
  checkpoints :=
    { h.checkpoints with
      deletionBlobs := by
        intro latest blobID blob hlatest hget
        obtain ⟨hblob, hvisible⟩ := h.checkpoints.deletionBlobs hlatest hget
        have hne : blobID ≠ metadata.blobID := by
          rintro rfl
          rw [hblob] at hnew
          cases hnew
        obtain ⟨hblobs, hfences⟩ := storeBlob_of_ne (d := d) subscriptionID hne
        refine ⟨hblobs.trans hblob, ?_⟩
        rw [hfences]
        exact hvisible }

theorem WellFormed.fileFence (h : d.WellFormed) {request} {holder : UUID}
    {now lifetime : Int} (hnew : d.checkpointFences.get? request.fenceID = none)
    (hidle : d.checkpointFences.pairs.any (fun p => p.2.state.status = .active) = false) :
    (d.fileFence (d.newFence request holder now lifetime)).WellFormed := by
  have hvisible : ∀ {o}, d.fenceVisible o = true →
      (d.fileFence (d.newFence request holder now lifetime)).fenceVisible o = true :=
    fun ho => fenceVisible_set ((FenceLive.of_visible ho).ne_of_none hnew) rfl ho
  refine ⟨h.fences.file hidle rfl, ⟨h.messages.log, h.messages.untombstoned, ?_⟩,
    ⟨h.blobs.bytes, ?_⟩, ⟨h.checkpoints.nodup, h.checkpoints.filed, h.checkpoints.activated, ?_, ?_,
      ?_, h.checkpoints.spared⟩⟩
  · exact fun m hm => (h.messages.live m hm).set ((h.messages.live m hm).ne_of_none hnew)
  · exact fun hget => (h.blobs.live hget).set ((h.blobs.live hget).ne_of_none hnew)
  · intro latest id m hlatest hget
    obtain ⟨hm, hle, ho⟩ := h.checkpoints.deletionMessages hlatest hget
    exact ⟨hm, hle, hvisible ho⟩
  · intro latest blobID blob hlatest hget
    obtain ⟨hblob, ho⟩ := h.checkpoints.deletionBlobs hlatest hget
    exact ⟨hblob, hvisible ho⟩
  · intro id checkpoint messageID hmem hget hretained
    obtain ⟨m, hm, hid, ho⟩ := h.checkpoints.retained hmem hget hretained
    exact ⟨m, hm, hid, hvisible ho⟩

variable {checkpoint : MemoryCheckpoint}

/-- A new candidate is none of the activated checkpoints. -/
theorem CheckpointsOK.get?_fileCheckpoint (h : d.CheckpointsOK)
    (hnew : d.checkpoints.get? checkpoint.candidate.checkpointID = none)
    (hmem : id ∈ d.activatedCheckpoints) :
    (d.fileCheckpoint checkpoint).checkpoints.get? id = d.checkpoints.get? id := by
  refine GoMap.get?_set_ne _ _ ?_
  rintro rfl
  obtain ⟨checkpoint', hget, -⟩ := h.filed _ hmem
  rw [hnew] at hget
  cases hget

theorem CheckpointsOK.latestCheckpoint_fileCheckpoint (h : d.CheckpointsOK)
    (hnew : d.checkpoints.get? checkpoint.candidate.checkpointID = none) :
    (d.fileCheckpoint checkpoint).latestCheckpoint = d.latestCheckpoint := by
  have hsame : (d.fileCheckpoint checkpoint).latestCheckpointID = d.latestCheckpointID := rfl
  unfold latestCheckpoint
  rw [hsame]
  cases hlast : d.latestCheckpointID with
  | none => rfl
  | some id =>
    exact h.get?_fileCheckpoint hnew
      (mem_activated_of_mem_latestTwo (mem_latestTwo_of_latestCheckpointID hlast))

theorem WellFormed.fileCheckpoint (h : d.WellFormed)
    (hnew : d.checkpoints.get? checkpoint.candidate.checkpointID = none) :
    (d.fileCheckpoint checkpoint).WellFormed := by
  have hlatest := h.checkpoints.latestCheckpoint_fileCheckpoint hnew
  have hget : ∀ {id checkpoint'}, id ∈ d.latestTwo →
      (d.fileCheckpoint checkpoint).checkpoints.get? id = some checkpoint' →
      d.checkpoints.get? id = some checkpoint' := by
    intro id checkpoint' hmem hget
    rwa [h.checkpoints.get?_fileCheckpoint hnew (mem_activated_of_mem_latestTwo hmem)] at hget
  refine ⟨h.fences, { h.messages with }, { h.blobs with }, ⟨h.checkpoints.nodup, ?_, ?_, ?_, ?_,
    ?_, ?_⟩⟩
  · intro id hid
    rw [h.checkpoints.get?_fileCheckpoint hnew hid]
    exact h.checkpoints.filed id hid
  · exact fun hmem hfiled => h.checkpoints.activated hmem (hget hmem hfiled)
  · rw [hlatest]
    exact h.checkpoints.deletionMessages
  · rw [hlatest]
    exact h.checkpoints.deletionBlobs
  · exact fun hmem hfiled => h.checkpoints.retained hmem (hget hmem hfiled)
  · rw [hlatest]
    exact fun hl hmem hfiled => h.checkpoints.spared hl hmem (hget hmem hfiled)

theorem WellFormed.fileActivation (h : d.WellFormed) {request result}
    (hcheckpoint : d.checkpoints.get? request.checkpointID = some checkpoint)
    (hstate : checkpoint.state = .staged)
    (hfence : d.checkpointFences.get? checkpoint.candidate.fenceID = some fence)
    (hactive : fence.state.status = .active)
    (hsuffix : d.memoryFenceSuffixMatches fence checkpoint.candidate.retainedMessageIDs = true) :
    (d.fileActivation checkpoint fence request result).WellFormed where
  fences := h.fences.setStatus hfence (by decide)
  messages := ⟨h.messages.log, h.messages.untombstoned, fun m hm => FenceLive.of_visible
    ((h.messages.live m hm).fenceVisible h.fences hfence hactive rfl)⟩
  blobs := ⟨h.blobs.bytes, fun hget => FenceLive.of_visible
    ((h.blobs.live hget).fenceVisible h.fences hfence hactive rfl)⟩
  checkpoints := h.checkpoints.fileActivation h.messages h.blobs h.fences hcheckpoint hstate hfence
    hactive hsuffix

theorem WellFormed.deleteCollected (h : d.WellFormed) {plan} {messageLimit blobLimit : Nat}
    (hcheckpoint : d.checkpoints.get? id = some checkpoint)
    (hplan : d.memoryCheckpointPlan id = .ok plan) :
    (d.deleteCollected id checkpoint (collectedMessages checkpoint messageLimit)
      (collectedBlobs checkpoint blobLimit)).WellFormed := by
  obtain ⟨hlatestID, hlatest⟩ := latestCheckpoint_of_plan hplan hcheckpoint
  exact ⟨h.fences, h.messages.deleteCollected h.checkpoints hlatest,
    h.blobs.deleteCollected h.checkpoints hlatest,
    h.checkpoints.deleteCollected hcheckpoint hlatestID hlatest⟩

theorem WellFormed.step (h : d.WellFormed) (hstep : DomainStep s key op d d') : d'.WellFormed := by
  obtain ⟨hexpiry, heffect⟩ := hstep
  have h₁ := h.expiry hexpiry
  cases heffect with
  | authority heq =>
    rw [heq]
    exact h₁.congr (by constructor <;> rfl)
  | testSubscription _ heq => exact ensured heq fun _ => h₁.congr (by constructor <;> rfl)
  | publish _ _ _ hstored htombstone =>
    obtain ⟨hstored, htombstone⟩ := h.absent_of_expiry hexpiry hstored htombstone
    exact h₁.storeMessage hstored htombstone
  | createFence hnew hidle => exact h₁.fileFence hnew hidle
  | abortFence hfence hactive =>
    have hclosed := h₁.closeFence hfence hactive .aborted (by decide)
    exact hclosed.congr (by constructor <;> rfl)
  | stage _ _ _ _ hnew => exact h₁.fileCheckpoint hnew
  | activate _ _ _ hcheckpoint hstate hfence hactive hsuffix =>
    exact h₁.fileActivation hcheckpoint hstate hfence hactive hsuffix
  | collect hcheckpoint hplan =>
    exact (h₁.deleteCollected hcheckpoint hplan).congr (by constructor <;> rfl)
  | commitBlob _ _ hnew => exact h₁.storeBlob (blobs_none_of_expiry hexpiry hnew)
  | finalizeNew _ _ _ _ _ _ hnew => exact (h₁.storeBlob hnew).congr (by constructor <;> rfl)
  | _ => exact h₁.congr (by constructor <;> rfl)

/-- A new domain is empty. -/
theorem WellFormed.create (p : DomainProvisioning) : (MemoryDomain.create p).WellFormed := by
  refine ⟨⟨?_, ?_⟩, ⟨⟨.nil, ?_, ?_, rfl⟩, ?_, ?_⟩, ⟨rfl, ?_⟩, ⟨.nil, ?_, ?_, ?_, ?_, ?_, ?_⟩⟩
  all_goals simp [MemoryDomain.create, MemoryDomain.latestTwo, latestCheckpoint, latestCheckpointID]

theorem WellFormed.of_reachable (hs : Reachable s) (hd : s.domains.get? key = some d) :
    d.WellFormed :=
  hs.domain_invariant (fun p _ => WellFormed.create p) (fun _ _ _ _ _ h hstep => h.step hstep) hd

/-! ## The invariant in the terms of the store -/

/-- What a reader of the store may rely on. -/
structure Represented (d : MemoryDomain) : Prop where
  /-- The log is strictly increasing in sequence. -/
  sorted : d.messages.Pairwise (fun m m' => m.sequence < m'.sequence)
  /-- No sequence is ahead of the counter. -/
  bounded : ∀ m ∈ d.messages, m.sequence ≤ d.nextSequence
  /-- The log and the index list the same messages. -/
  indexed : ∀ id m, d.messageByID.get? id = some m ↔ m ∈ d.messages ∧ m.messageID = id
  messageBytes : d.messageBytes = (d.messages.map MemoryMessage.byteCount).sum
  blobBytes : d.blobBytes = d.blobs.sumBy BlobMetadata.byteCount
  /-- No identifier is both stored and tombstoned. -/
  untombstoned : ∀ id, (d.messageByID.get? id).isSome = true →
    d.fenceMessageTombstones.get? id = none
  /-- What the latest checkpoint may still delete is stored and covered. -/
  deletionMessages : ∀ latest, d.latestCheckpoint = some latest → ∀ id m,
    latest.deletionMessages.get? id = some m →
      m ∈ d.messages ∧ m.messageID = id ∧ m.sequence ≤ latest.coveredThrough
  /-- What the latest two checkpoints retain is stored. -/
  retained : ∀ id ∈ d.latestTwo, ∃ checkpoint, d.checkpoints.get? id = some checkpoint ∧
    checkpoint.state = .activated ∧
    ∀ messageID ∈ checkpoint.candidate.retainedMessageIDs, ∃ m ∈ d.messages, m.messageID = messageID

/-- **The representation invariant.** It holds of every domain in every reachable state. -/
theorem represented_of_reachable (hs : Reachable s) (hd : s.domains.get? key = some d) :
    d.Represented := by
  have h := WellFormed.of_reachable hs hd
  refine ⟨h.messages.log.sorted, h.messages.log.bounded, fun _ _ => h.messages.log.indexed,
    h.messages.log.sum_eq, h.blobs.bytes, ?_, ?_, ?_⟩
  · intro id hstored
    rw [Option.eq_none_iff_forall_ne_some]
    intro tombstone htombstone
    rw [h.messages.untombstoned htombstone] at hstored
    cases hstored
  · intro latest hlatest id m hget
    obtain ⟨⟨hm, hid⟩, hle, -⟩ := h.checkpoints.deletionMessages hlatest hget
    exact ⟨hm, hid, hle⟩
  · intro id hmem
    obtain ⟨checkpoint, hget, -⟩ := h.checkpoints.filed id (mem_activated_of_mem_latestTwo hmem)
    refine ⟨checkpoint, hget, h.checkpoints.activated hmem hget, fun messageID hretained => ?_⟩
    obtain ⟨m, hm, hid, -⟩ := h.checkpoints.retained hmem hget hretained
    exact ⟨m, hm, hid⟩

end MemoryDomain

/-! ### A sample domain

One tenant, one domain, two subscriptions with one member each. The writer publishes a message, the
reader accepts it, and the writer fences the domain, publishes a root under the fence, stages a
checkpoint that retains it, and has it activated. -/

namespace Sample

def token : GoString := Base64Url.encode (List.replicate 32 7)
def administrator : AdministrationCredential := ⟨1, 2, token⟩
def writer : Credential := ⟨1, 2, 3, token⟩
def reader : Credential := ⟨1, 2, 4, token⟩

def capabilities : List Capability :=
  [.fetchBlob, .publishBlob, .publishCheckpoint, .acknowledgeMessage, .fetchMessage,
   .publishMessage]

def tenant : TenantRegistration :=
  ⟨1, 20, 1, (tenantAuthorizationDigest ⟨1, token⟩).getD [], 0, 5, 100, 10000, 100, 10000⟩

def provisioning : DomainProvisioning :=
  { version := 1
    retryID := 21
    registration := ⟨1, 1, 2, (administrationDigest administrator).getD [], 0, 10, 1000, 10, 1000⟩
    subscription := ⟨1, 1, 2, 30, .active, none, 0, 0⟩
    initialMember :=
      ⟨1, 1, 2, 3, (authorizationDigest writer).getD [], capabilities, 0, none, none⟩ }

def readerRegistration : MemberRegistration :=
  ⟨1, 1, 2, 4, (authorizationDigest reader).getD [], capabilities, 0, none, none⟩

/-- A message of one byte. -/
def envelope (messageID memberID : UUID) : Envelope :=
  ⟨1, envelopeAlgorithm, 1, 2, messageID, memberID, 1, 0, Base64Url.encode (List.replicate 12 0),
   Base64Url.encode [0], Base64Url.encode (List.replicate 16 0)⟩

/-- The domain with its two members. -/
def setup : List Operation :=
  [.provisionTenant tenant provisioning, .createSubscription administrator ⟨40, 31, 0⟩,
   .createSubscriptionMember administrator 31 readerRegistration 1]

/-- A checkpoint over the log up to `covered`, under `fenceID`. -/
def candidate (checkpointID fenceID : UUID) (covered : Nat) (messageIDs : List UUID)
    (blobIDs : List GoString) (now : Int) : CheckpointCandidate :=
  ⟨1, checkpointID + 1000, checkpointID, fenceID, 1, 2, 30, 1, encodeCursor covered, messageIDs,
   blobIDs, now⟩

def activation : List Operation :=
  [.publish writer (envelope 100 3) 5, .acknowledge reader 100 .accepted 6,
   .createCheckpointFence writer ⟨50, 51, 5⟩ 7,
   .publish writer (envelope 101 3) 8,
   .stageCheckpoint writer (candidate 60 51 1 [101] [] 8) 9,
   .activateCheckpoint administrator ⟨61, 60, 9⟩ 10]

/-- The store some operations after the setup lead to. -/
def store (ops : List Operation) : MemoryStore :=
  run Operation.apply (MemoryStore.newMemoryStore none) (setup ++ ops)

theorem reachable (ops : List Operation) : Reachable (store ops) := ⟨none, _, rfl⟩

end Sample

theorem represented_sample : ∃ d, (run Operation.apply (MemoryStore.newMemoryStore none)
        (Sample.setup ++ Sample.activation)).domains.get? ⟨1, 2⟩ = some d ∧
      (d.messages.map MemoryMessage.messageID = [100, 101] ∧ d.latestTwo = [60]) ∧
      d.Represented := by
  obtain ⟨d, hd, hsample⟩ : ∃ d ∈ (run Operation.apply (MemoryStore.newMemoryStore none)
      (Sample.setup ++ Sample.activation)).domains.get? ⟨1, 2⟩,
        d.messages.map MemoryMessage.messageID = [100, 101] ∧ d.latestTwo = [60] := by
    decide +kernel
  exact ⟨d, hd, hsample, MemoryDomain.represented_of_reachable ⟨none, _, rfl⟩ hd⟩

end FacetsNode.Relay
