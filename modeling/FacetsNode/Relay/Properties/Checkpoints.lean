import FacetsNode.Relay.Properties.Messages

/-!
# Checkpoints

The activation order, and what the activated checkpoints refer to. The latest one holds the messages
and blobs it may still delete; the latest two hold the messages they retain. `CheckpointsOK` says
that all of this is stored and that nothing is in both sets.

The argument rests on visibility: what a closing fence takes down was never visible, and everything
a checkpoint refers to is — when a checkpoint is activated, the only open fence is its own.
-/

namespace FacetsNode.Relay

namespace MemoryDomain

variable {s : MemoryStore} {op : Operation} {key : DomainKey} {d d' : MemoryDomain} {now : Int}
  {id fenceID : UUID} {fence : MemoryCheckpointFence} {status : CheckpointFenceStatus}

/-! ## Checkpoints -/

/-- The latest activated checkpoint and the one activated immediately before it. -/
def latestTwo (d : MemoryDomain) : List UUID := d.activatedCheckpoints.reverse.take 2

open List

theorem mem_latestTwo_of_latestCheckpointID (h : d.latestCheckpointID = some id) :
    id ∈ d.latestTwo := by
  unfold latestCheckpointID at h
  rw [List.getLast?_eq_head?_reverse] at h
  unfold latestTwo
  cases hl : d.activatedCheckpoints.reverse with
  | nil => rw [hl] at h; cases h
  | cons x l =>
    rw [hl] at h
    cases h
    exact mem_cons_self

theorem mem_activated_of_mem_latestTwo (h : id ∈ d.latestTwo) : id ∈ d.activatedCheckpoints :=
  mem_reverse.mp (mem_of_mem_take h)

variable {checkpoint : MemoryCheckpoint} {id' : UUID}

theorem latestCheckpoint_eq_some (h : d.latestCheckpoint = some checkpoint) :
    ∃ id, d.latestCheckpointID = some id ∧ d.checkpoints.get? id = some checkpoint :=
  Option.bind_eq_some_iff.mp h

/-- The activation order, what the latest checkpoint may still delete, what the latest two
retain. -/
structure CheckpointsOK (d : MemoryDomain) : Prop where
  nodup : d.activatedCheckpoints.Nodup
  filed : ∀ id ∈ d.activatedCheckpoints, ∃ checkpoint, d.checkpoints.get? id = some checkpoint ∧
    (checkpoint.state = .activated ∨ checkpoint.state = .retired)
  activated : ∀ {id checkpoint}, id ∈ d.latestTwo → d.checkpoints.get? id = some checkpoint →
    checkpoint.state = .activated
  deletionMessages : ∀ {latest id m}, d.latestCheckpoint = some latest →
    latest.deletionMessages.get? id = some m →
      (m ∈ d.messages ∧ m.messageID = id) ∧ m.sequence ≤ latest.coveredThrough ∧
        d.fenceVisible m.checkpointFenceID = true
  deletionBlobs : ∀ {latest blobID blob}, d.latestCheckpoint = some latest →
    latest.deletionBlobs.get? blobID = some blob →
      d.blobs.get? blobID = some blob ∧ d.fenceVisible (d.blobFenceIDs.get? blobID) = true
  retained : ∀ {id checkpoint messageID}, id ∈ d.latestTwo →
    d.checkpoints.get? id = some checkpoint →
    messageID ∈ checkpoint.candidate.retainedMessageIDs →
      ∃ m ∈ d.messages, m.messageID = messageID ∧ d.fenceVisible m.checkpointFenceID = true
  spared : ∀ {latest id checkpoint messageID}, d.latestCheckpoint = some latest →
    id ∈ d.latestTwo → d.checkpoints.get? id = some checkpoint →
    messageID ∈ checkpoint.candidate.retainedMessageIDs →
      latest.deletionMessages.get? messageID = none

/-- The latest checkpoint is filed, and activated. -/
theorem CheckpointsOK.latest (h : d.CheckpointsOK) (hlatest : d.latestCheckpointID = some id) :
    ∃ checkpoint, d.checkpoints.get? id = some checkpoint ∧ d.latestCheckpoint = some checkpoint ∧
      checkpoint.state = .activated := by
  have hmem := mem_latestTwo_of_latestCheckpointID hlatest
  obtain ⟨checkpoint, hget, -⟩ := h.filed id (mem_activated_of_mem_latestTwo hmem)
  refine ⟨checkpoint, hget, ?_, h.activated hmem hget⟩
  unfold latestCheckpoint
  rw [hlatest]
  exact hget

/-! ### Closing a fence -/

open GoMap

/-- A closing fence takes its own staged candidates down and leaves every other checkpoint. -/
theorem get?_checkpoints_closeFence {checkpoint'}
    (h : (d.closeFence id fence status fenceID).checkpoints.get? id' = some checkpoint') :
    ∃ checkpoint, d.checkpoints.get? id' = some checkpoint ∧ (checkpoint' = checkpoint ∨
        checkpoint.state = .staged ∧ checkpoint'.state = .invalidated) := by
  have hget : (d.checkpoints.mapValues _).get? id' = some checkpoint' := h
  rw [get?_mapValues] at hget
  obtain ⟨checkpoint, hcheckpoint, heq⟩ := Option.map_eq_some_iff.mp hget
  refine ⟨checkpoint, hcheckpoint, ?_⟩
  split at heq
  · next hstaged => exact .inr ⟨hstaged.2, heq ▸ rfl⟩
  · exact .inl heq.symm

theorem get?_checkpoints_closeFence_of_ne
    (hget : d.checkpoints.get? id' = some checkpoint) (hstate : checkpoint.state ≠ .staged) :
    (d.closeFence id fence status fenceID).checkpoints.get? id' = some checkpoint := by
  show (d.checkpoints.mapValues _).get? id' = some checkpoint
  rw [get?_mapValues, hget, Option.map_some, if_neg fun h => hstate h.2]

/-- The checkpoints that count are untouched. -/
theorem CheckpointsOK.get?_closeFence (h : d.CheckpointsOK) (hmem : id' ∈ d.latestTwo)
    (hget : (d.closeFence id fence status fenceID).checkpoints.get? id' = some checkpoint) :
    d.checkpoints.get? id' = some checkpoint := by
  obtain ⟨checkpoint₀, hget₀, rfl | ⟨hstaged, -⟩⟩ := get?_checkpoints_closeFence hget
  · exact hget₀
  · rw [h.activated hmem hget₀] at hstaged
    cases hstaged

theorem CheckpointsOK.latestCheckpoint_closeFence (h : d.CheckpointsOK)
    (hlatest : (d.closeFence id fence status fenceID).latestCheckpoint = some checkpoint) :
    d.latestCheckpoint = some checkpoint := by
  obtain ⟨id', hid', hget⟩ := latestCheckpoint_eq_some hlatest
  have hid : d.latestCheckpointID = some id' := hid'
  unfold latestCheckpoint
  rw [hid]
  exact h.get?_closeFence (mem_latestTwo_of_latestCheckpointID hid) hget

/-- Visible messages stay stored, and visible. -/
theorem visible_closeFence (hfence : d.checkpointFences.get? id = some fence)
    (hactive : fence.state.status = .active) {m} (hm : m ∈ d.messages)
    (hvisible : d.fenceVisible m.checkpointFenceID = true) :
    m ∈ (d.closeFence id fence status id).messages ∧
      (d.closeFence id fence status id).fenceVisible m.checkpointFenceID = true := by
  have hne := ne_of_fenceVisible hfence hactive hvisible
  exact ⟨mem_filter.mpr ⟨hm, decide_eq_true hne⟩,
    fenceVisible_set hne (closeFence_checkpointFences ..) hvisible⟩

/-- Visible blobs stay published, and visible. -/
theorem visibleBlob_closeFence (hfence : d.checkpointFences.get? id = some fence)
    (hactive : fence.state.status = .active) {blobID}
    (hvisible : d.fenceVisible (d.blobFenceIDs.get? blobID) = true) :
    (d.closeFence id fence status id).blobs.get? blobID = d.blobs.get? blobID ∧
      (d.closeFence id fence status id).fenceVisible
        ((d.closeFence id fence status id).blobFenceIDs.get? blobID) = true := by
  have hne := ne_of_fenceVisible hfence hactive hvisible
  have hnot : blobID ∉ d.fenceBlobIDs id := fun hmem => hne (mem_fenceBlobIDs.mp hmem)
  have hsame : (d.closeFence id fence status id).blobFenceIDs.get? blobID =
      d.blobFenceIDs.get? blobID := by
    rw [closeFence_blobFenceIDs, get?_deleteAll, if_neg hnot]
  refine ⟨?_, ?_⟩
  · rw [closeFence_blobs, get?_deleteAll, if_neg hnot]
  · rw [hsame]
    exact fenceVisible_set hne (closeFence_checkpointFences ..) hvisible

theorem CheckpointsOK.closeFence (h : d.CheckpointsOK)
    (hfence : d.checkpointFences.get? id = some fence) (hactive : fence.state.status = .active)
    (status : CheckpointFenceStatus) : (d.closeFence id fence status id).CheckpointsOK where
  nodup := h.nodup
  filed := by
    intro id' hid'
    obtain ⟨checkpoint, hget, hstate⟩ := h.filed id' hid'
    refine ⟨checkpoint, get?_checkpoints_closeFence_of_ne hget ?_, hstate⟩
    rcases hstate with hstate | hstate <;> rw [hstate] <;> decide
  activated := fun hmem hget => h.activated hmem (h.get?_closeFence hmem hget)
  deletionMessages := by
    intro latest id' m hlatest hget
    obtain ⟨⟨hm, hid⟩, hle, hvisible⟩ :=
      h.deletionMessages (h.latestCheckpoint_closeFence hlatest) hget
    obtain ⟨hm, hvisible⟩ := visible_closeFence hfence hactive hm hvisible
    exact ⟨⟨hm, hid⟩, hle, hvisible⟩
  deletionBlobs := by
    intro latest blobID blob hlatest hget
    obtain ⟨hblob, hvisible⟩ := h.deletionBlobs (h.latestCheckpoint_closeFence hlatest) hget
    obtain ⟨hsame, hvisible⟩ := visibleBlob_closeFence hfence hactive hvisible
    exact ⟨hsame.trans hblob, hvisible⟩
  retained := by
    intro id' checkpoint messageID hmem hget hretained
    obtain ⟨m, hm, hid, hvisible⟩ := h.retained hmem (h.get?_closeFence hmem hget) hretained
    obtain ⟨hm, hvisible⟩ := visible_closeFence hfence hactive hm hvisible
    exact ⟨m, hm, hid, hvisible⟩
  spared := fun hlatest hmem hget hretained =>
    h.spared (h.latestCheckpoint_closeFence hlatest) hmem (h.get?_closeFence hmem hget) hretained

/-! ### Activation -/

/-- The activation of the one active fence makes everything stored visible. -/
theorem FenceLive.fenceVisible {o : Option UUID} (h : FenceLive d.checkpointFences o)
    (hfences : FencesOK d.checkpointFences) (hfence : d.checkpointFences.get? id = some fence)
    (hactive : fence.state.status = .active) (hset : d'.checkpointFences =
      d.checkpointFences.set id { fence with state := { fence.state with status := .activated } }) :
    d'.fenceVisible o = true := by
  rw [fenceVisible_iff]
  intro id' hid'
  rw [hset, get?_set]
  obtain ⟨fence', hfence', hstatus⟩ := h id' hid'
  split
  · exact ⟨_, rfl, rfl⟩
  · next hne =>
    rcases hstatus with hstatus | hstatus
    · exact absurd (hfences.one hfence' hfence hstatus hactive) hne
    · exact ⟨fence', hfence', hstatus⟩

/-- What a candidate retains is stored. -/
theorem exists_of_memoryFenceSuffixMatches {retained : List UUID}
    (h : d.memoryFenceSuffixMatches fence retained = true) {messageID}
    (hmem : messageID ∈ retained) : ∃ m ∈ d.messages, m.messageID = messageID := by
  unfold memoryFenceSuffixMatches at h
  split at h
  · rw [decide_eq_true_iff] at h
    rw [← h] at hmem
    unfold fenceSuffix at hmem
    rw [mem_insertionSort, mem_map] at hmem
    obtain ⟨m, hm, hid⟩ := hmem
    exact ⟨m, mem_of_mem_filter hm, hid⟩
  · cases h

/-- Retirement reaches the third-last checkpoint only. -/
theorem get?_retireThirdLast {activated : List UUID} (checkpoints : GoMap UUID MemoryCheckpoint)
    (hnodup : activated.Nodup) (id : UUID) :
    (retireThirdLast activated checkpoints).get? id = checkpoints.get? id ∨
      id ∉ activated.reverse.take 2 ∧ ∃ checkpoint, checkpoints.get? id = some checkpoint ∧
        (retireThirdLast activated checkpoints).get? id = some (retiredCheckpoint checkpoint) := by
  unfold retireThirdLast
  split
  · next a b retiredID l hl =>
    split
    · next retired hretired =>
      rw [get?_set]
      split
      · next heq =>
        subst heq
        refine .inr ⟨?_, retired, hretired, rfl⟩
        have hrev := nodup_reverse.mpr hnodup
        rw [hl] at hrev ⊢
        simp only [nodup_cons, mem_cons, not_or] at hrev
        simp only [take_succ_cons, take_zero, mem_cons, not_mem_nil, or_false, not_or]
        exact ⟨fun h => hrev.1.2.1 h.symm, fun h => hrev.2.1.1 h.symm⟩
      · exact .inl rfl
    · exact .inl rfl
  · exact .inl rfl

section Activation
variable {checkpoint : MemoryCheckpoint} {request : CheckpointActivationRequest}
  {result : CheckpointActivationResponse}

/-- A staged checkpoint is none of the activated ones. -/
theorem CheckpointsOK.notMem_of_staged (h : d.CheckpointsOK)
    (hcheckpoint : d.checkpoints.get? id = some checkpoint) (hstate : checkpoint.state = .staged) :
    id ∉ d.activatedCheckpoints := by
  intro hmem
  obtain ⟨checkpoint', hget, hstate'⟩ := h.filed id hmem
  rw [hcheckpoint, Option.some.injEq] at hget
  rw [← hget, hstate] at hstate'
  rcases hstate' with hstate' | hstate' <;> cases hstate'

theorem latestTwo_fileActivation : (d.fileActivation checkpoint fence request result).latestTwo =
      request.checkpointID :: d.activatedCheckpoints.reverse.take 1 := by
  show (d.activatedCheckpoints ++ [request.checkpointID]).reverse.take 2 = _
  rw [reverse_append, reverse_singleton, singleton_append, take_succ_cons]

theorem latestCheckpointID_fileActivation :
    (d.fileActivation checkpoint fence request result).latestCheckpointID =
      some request.checkpointID := List.getLast?_concat

theorem CheckpointsOK.nodup_fileActivation (h : d.CheckpointsOK)
    (hcheckpoint : d.checkpoints.get? request.checkpointID = some checkpoint)
    (hstate : checkpoint.state = .staged) :
    (d.activatedCheckpoints ++ [request.checkpointID]).Nodup := by
  rw [nodup_append]
  refine ⟨h.nodup, nodup_singleton _, fun a ha b hb => ?_⟩
  rw [mem_singleton] at hb
  rintro rfl
  exact h.notMem_of_staged hcheckpoint hstate (hb ▸ ha)

/-- The latest two after an activation: the activated checkpoint, and what was the latest before. -/
theorem CheckpointsOK.live_fileActivation (h : d.CheckpointsOK)
    (hcheckpoint : d.checkpoints.get? request.checkpointID = some checkpoint)
    (hstate : checkpoint.state = .staged) {id checkpoint'}
    (hmem : id ∈ (d.fileActivation checkpoint fence request result).latestTwo)
    (hget : (d.fileActivation checkpoint fence request result).checkpoints.get? id =
      some checkpoint') :
    (id = request.checkpointID ∧ checkpoint' = d.activatedCheckpoint checkpoint request) ∨
      (id ∈ d.latestTwo ∧ d.checkpoints.get? id = some checkpoint' ∧
        d.latestCheckpoint = some checkpoint') := by
  -- Neither of the two is retired.
  have hget' : (d.checkpoints.set request.checkpointID
      (d.activatedCheckpoint checkpoint request)).get? id = some checkpoint' := by
    rcases get?_retireThirdLast (d.checkpoints.set request.checkpointID
      (d.activatedCheckpoint checkpoint request)) (h.nodup_fileActivation hcheckpoint hstate) id
      with hsame | ⟨hnot, -⟩
    · exact hsame ▸ hget
    · exact absurd hmem hnot
  rw [latestTwo_fileActivation, mem_cons] at hmem
  rw [get?_set] at hget'
  split at hget'
  · next heq => exact .inl ⟨heq, (Option.some.inj hget').symm⟩
  · next hne =>
    have hlast : d.latestCheckpointID = some id := by
      unfold latestCheckpointID
      rw [List.getLast?_eq_head?_reverse]
      cases hl : d.activatedCheckpoints.reverse with
      | nil => rw [hl] at hmem; simp [hne] at hmem
      | cons x l =>
        rw [hl] at hmem
        simp only [take_succ_cons, take_zero, mem_cons, not_mem_nil,
          or_false, hne, false_or] at hmem
        rw [hmem]
        rfl
    refine .inr ⟨mem_latestTwo_of_latestCheckpointID hlast, hget', ?_⟩
    unfold latestCheckpoint
    rw [hlast]
    exact hget'

/-- The activated checkpoint is the latest. -/
theorem CheckpointsOK.latest_fileActivation (h : d.CheckpointsOK) (fence : MemoryCheckpointFence)
    (result : CheckpointActivationResponse)
    (hcheckpoint : d.checkpoints.get? request.checkpointID = some checkpoint)
    (hstate : checkpoint.state = .staged) :
    (d.fileActivation checkpoint fence request result).latestCheckpoint =
      some (d.activatedCheckpoint checkpoint request) := by
  unfold latestCheckpoint
  rw [latestCheckpointID_fileActivation, Option.bind_some]
  rcases get?_retireThirdLast (d.checkpoints.set request.checkpointID
    (d.activatedCheckpoint checkpoint request)) (h.nodup_fileActivation hcheckpoint hstate)
    request.checkpointID with hsame | ⟨hnot, -⟩
  · exact hsame.trans (get?_set_self _ _ _)
  · refine absurd ?_ hnot
    rw [reverse_append, reverse_singleton, singleton_append, take_succ_cons]
    exact mem_cons_self

/-- The messages an activation freezes for deletion. -/
theorem MessagesOK.get?_deletionMessages (h : d.MessagesOK) {messageID m} :
    (d.activatedCheckpoint checkpoint request).deletionMessages.get? messageID = some m ↔
      (m ∈ d.messages ∧ m.messageID = messageID) ∧ m.sequence ≤ checkpoint.coveredThrough ∧
        messageID ∉ d.retainedMessages checkpoint := by
  unfold activatedCheckpoint
  dsimp only
  rw [get?_setAll_empty]
  · unfold deletionSet
    simp only [mem_map, mem_filter, decide_eq_true_iff, Prod.mk.injEq]
    constructor
    · rintro ⟨m', ⟨hm', hle, hnot⟩, rfl, rfl⟩
      exact ⟨⟨hm', rfl⟩, hle, hnot⟩
    · rintro ⟨⟨hm, rfl⟩, hle, hnot⟩
      exact ⟨m, ⟨hm, hle, hnot⟩, rfl, rfl⟩
  · rw [map_map]
    exact h.log.nodup.sublist (filter_sublist.map _)

theorem CheckpointsOK.fileActivation (h : d.CheckpointsOK) (hmessages : d.MessagesOK)
    (hblobs : d.BlobsOK) (hfences : FencesOK d.checkpointFences)
    (hcheckpoint : d.checkpoints.get? request.checkpointID = some checkpoint)
    (hstate : checkpoint.state = .staged)
    (hfence : d.checkpointFences.get? checkpoint.candidate.fenceID = some fence)
    (hactive : fence.state.status = .active)
    (hsuffix : d.memoryFenceSuffixMatches fence checkpoint.candidate.retainedMessageIDs = true) :
    (d.fileActivation checkpoint fence request result).CheckpointsOK := by
  have hvisible : ∀ m ∈ d.messages,
      (d.fileActivation checkpoint fence request result).fenceVisible m.checkpointFenceID = true :=
    fun m hm => (hmessages.live m hm).fenceVisible hfences hfence hactive rfl
  have hlatest := h.latest_fileActivation fence result hcheckpoint hstate
  refine ⟨h.nodup_fileActivation hcheckpoint hstate, ?_, ?_, ?_, ?_, ?_, ?_⟩
  · -- Every activated checkpoint is filed; at most one of them has just been retired.
    intro id hid
    have hbase : ∃ checkpoint', (d.checkpoints.set request.checkpointID
        (d.activatedCheckpoint checkpoint request)).get? id = some checkpoint' ∧
        (checkpoint'.state = .activated ∨ checkpoint'.state = .retired) := by
      rw [get?_set]
      split
      · exact ⟨_, rfl, .inl rfl⟩
      · next hne =>
        refine h.filed id ?_
        rcases mem_append.mp hid with hid | hid
        · exact hid
        · exact absurd (mem_singleton.mp hid) hne
    obtain ⟨checkpoint', hget', hstate'⟩ := hbase
    rcases get?_retireThirdLast (d.checkpoints.set request.checkpointID
      (d.activatedCheckpoint checkpoint request)) (h.nodup_fileActivation hcheckpoint hstate) id
      with hsame | ⟨-, retired, -, hretired⟩
    · exact ⟨checkpoint', hsame.trans hget', hstate'⟩
    · exact ⟨retiredCheckpoint retired, hretired, .inr rfl⟩
  · intro id checkpoint' hmem hget
    rcases h.live_fileActivation hcheckpoint hstate hmem hget with ⟨-, rfl⟩ | ⟨hmem, hget, -⟩
    · rfl
    · exact h.activated hmem hget
  · intro latest messageID m hlatest' hget
    rw [hlatest, Option.some.injEq] at hlatest'
    subst hlatest'
    obtain ⟨hm, hle, -⟩ := hmessages.get?_deletionMessages.mp hget
    exact ⟨hm, hle, hvisible m hm.1⟩
  · intro latest blobID blob hlatest' hget
    rw [hlatest, Option.some.injEq] at hlatest'
    subst hlatest'
    obtain ⟨hblob, -⟩ := (get?_filter _ _).mp hget
    refine ⟨hblob, FenceLive.fenceVisible ?_ hfences hfence hactive rfl⟩
    exact fun id hid => hblobs.live hid id rfl
  · intro id checkpoint' messageID hmem hget hretained
    have hstored : ∃ m ∈ d.messages, m.messageID = messageID := by
      rcases h.live_fileActivation hcheckpoint hstate hmem hget with ⟨-, rfl⟩ | ⟨hmem, hget, -⟩
      · exact exists_of_memoryFenceSuffixMatches hsuffix hretained
      · obtain ⟨m, hm, hid, -⟩ := h.retained hmem hget hretained
        exact ⟨m, hm, hid⟩
    obtain ⟨m, hm, hid⟩ := hstored
    exact ⟨m, hm, hid, hvisible m hm⟩
  · intro latest id checkpoint' messageID hlatest' hmem hget hretained
    rw [hlatest, Option.some.injEq] at hlatest'
    subst hlatest'
    rw [Option.eq_none_iff_forall_ne_some]
    intro m hm
    obtain ⟨-, -, hnot⟩ := hmessages.get?_deletionMessages.mp hm
    refine hnot (mem_append.mpr ?_)
    rcases h.live_fileActivation hcheckpoint hstate hmem hget with ⟨-, rfl⟩ | ⟨-, -, hprevious⟩
    · exact .inl hretained
    · rw [hprevious]
      exact .inr hretained

end Activation

/-! ### Collection -/

/-- Only the latest activated checkpoint has a collection plan. -/
theorem memoryCheckpointPlan_eq_ok {plan} (h : d.memoryCheckpointPlan id = .ok plan) :
    ∃ checkpoint, d.checkpoints.get? id = some checkpoint ∧ checkpoint.state = .activated ∧
      d.latestCheckpointID = some id ∧ plan.eligible = (d.missingCustody checkpoint).isEmpty := by
  unfold memoryCheckpointPlan at h
  split at h
  · cases h
  · next checkpoint hcheckpoint =>
    obtain ⟨_, hready, hplan⟩ := bind_eq_ok.mp h
    have hready := rejectWhen_eq_ok.mp hready
    rw [not_or, not_not, not_not] at hready
    cases hplan
    exact ⟨checkpoint, hcheckpoint, hready.1, hready.2, rfl⟩

theorem latestCheckpoint_of_plan {plan} (hplan : d.memoryCheckpointPlan id = .ok plan)
    (hcheckpoint : d.checkpoints.get? id = some checkpoint) :
    d.latestCheckpointID = some id ∧ d.latestCheckpoint = some checkpoint := by
  obtain ⟨checkpoint', hget, -, hlatest, -⟩ := memoryCheckpointPlan_eq_ok hplan
  rw [hcheckpoint, Option.some.injEq] at hget
  refine ⟨hlatest, ?_⟩
  unfold latestCheckpoint
  rw [hlatest]
  exact hcheckpoint

section Collection
variable {checkpoint : MemoryCheckpoint} {maximum : Nat}

theorem exists_of_mem_collectedMessages {m} (h : m ∈ collectedMessages checkpoint maximum) :
    ∃ id, checkpoint.deletionMessages.get? id = some m := by
  have hmem := mem_of_mem_take h
  rw [mem_insertionSort, mem_map] at hmem
  obtain ⟨⟨id, m'⟩, hp, rfl⟩ := hmem
  exact ⟨id, mem_pairs.mp hp⟩

theorem get?_of_mem_collectedBlobs {p : GoString × BlobMetadata}
    (h : p ∈ collectedBlobs checkpoint maximum) :
    checkpoint.deletionBlobs.get? p.1 = some p.2 := by
  have hmem := mem_of_mem_take h
  rw [mem_insertionSort] at hmem
  exact mem_pairs.mp hmem

theorem collectedBlobs_nodup (checkpoint : MemoryCheckpoint) (maximum : Nat) :
    ((collectedBlobs checkpoint maximum).map Prod.fst).Nodup := by
  refine List.Nodup.sublist ((take_sublist _ _).map _) ?_
  exact ((perm_insertionSort _ _).map _).nodup_iff.mpr
    checkpoint.deletionBlobs.pairs_keys_nodup

/-- The frozen messages are filed under their own identifiers, so a batch has no identifier
twice. -/
theorem collectedMessages_nodup
    (hkeyed : ∀ id m, checkpoint.deletionMessages.get? id = some m → m.messageID = id) :
    ((collectedMessages checkpoint maximum).map MemoryMessage.messageID).Nodup := by
  refine List.Nodup.sublist ((take_sublist _ _).map _) ?_
  rw [((perm_insertionSort _ _).map _).nodup_iff, map_map]
  have heq : checkpoint.deletionMessages.pairs.map (MemoryMessage.messageID ∘ Prod.snd) =
      checkpoint.deletionMessages.pairs.map Prod.fst :=
    map_congr_left fun p hp => hkeyed p.1 p.2 (mem_pairs.mp hp)
  rw [heq]
  exact checkpoint.deletionMessages.pairs_keys_nodup

/-- A collected message is stored, covered and visible. -/
theorem CheckpointsOK.of_mem_collectedMessages (h : d.CheckpointsOK)
    (hlatest : d.latestCheckpoint = some checkpoint) {m}
    (hm : m ∈ collectedMessages checkpoint maximum) :
    checkpoint.deletionMessages.get? m.messageID = some m ∧ m ∈ d.messages ∧
      m.sequence ≤ checkpoint.coveredThrough ∧ d.fenceVisible m.checkpointFenceID = true := by
  obtain ⟨id, hget⟩ := exists_of_mem_collectedMessages hm
  obtain ⟨⟨hmem, rfl⟩, hle, hvisible⟩ := h.deletionMessages hlatest hget
  exact ⟨hget, hmem, hle, hvisible⟩

variable {messageLimit blobLimit : Nat}

theorem MessagesOK.deleteCollected (h : d.MessagesOK) (hcheckpoints : d.CheckpointsOK)
    (hlatest : d.latestCheckpoint = some checkpoint) :
    (d.deleteCollected id checkpoint (collectedMessages checkpoint messageLimit)
      (collectedBlobs checkpoint blobLimit)).MessagesOK where
  log := by
    refine h.log.remove _ (collectedMessages_nodup ?_) ?_ ?_
    · exact fun id m hget => (hcheckpoints.deletionMessages hlatest hget).1.2
    · exact fun m hm => (hcheckpoints.of_mem_collectedMessages hlatest hm).2.1
    · intro m _
      rw [decide_eq_true_iff]
  untombstoned := by
    intro id' tombstone hget
    show get? (deleteAll _ _) id' = none
    rw [get?_deleteAll]
    split
    · rfl
    · exact h.untombstoned hget
  live := fun m hm => h.live m (mem_of_mem_filter hm)

theorem BlobsOK.deleteCollected (h : d.BlobsOK) (hcheckpoints : d.CheckpointsOK)
    (hlatest : d.latestCheckpoint = some checkpoint) :
    (d.deleteCollected id checkpoint (collectedMessages checkpoint messageLimit)
      (collectedBlobs checkpoint blobLimit)).BlobsOK where
  bytes := by
    show d.blobBytes - _ = sumBy _ (d.blobs.deleteAll _)
    rw [sumBy_deleteAll (collectedBlobs_nodup checkpoint blobLimit), h.bytes]
    exact fun p hp => (hcheckpoints.deletionBlobs hlatest (get?_of_mem_collectedBlobs hp)).1
  live := h.live

/-- After a collection, the checkpoint filed under an identifier retains what it retained before. -/
theorem get?_checkpoints_deleteCollected {messages : List MemoryMessage}
    {blobs : List (GoString × BlobMetadata)} {id' checkpoint'}
    (hcheckpoint : d.checkpoints.get? id = some checkpoint)
    (hget : (d.deleteCollected id checkpoint messages blobs).checkpoints.get? id' =
      some checkpoint') :
    ∃ checkpoint₀, d.checkpoints.get? id' = some checkpoint₀ ∧
      checkpoint'.state = checkpoint₀.state ∧ checkpoint'.candidate = checkpoint₀.candidate := by
  have hget' : (d.checkpoints.set id (collectedCheckpoint checkpoint messages blobs)).get? id' =
    some checkpoint' := hget
  rw [get?_set] at hget'
  split at hget'
  · next heq =>
    cases hget'
    exact ⟨checkpoint, heq ▸ hcheckpoint, rfl, rfl⟩
  · exact ⟨checkpoint', hget', rfl, rfl⟩

theorem latestCheckpoint_deleteCollected {messages : List MemoryMessage}
    {blobs : List (GoString × BlobMetadata)} (hlatest : d.latestCheckpointID = some id) :
    (d.deleteCollected id checkpoint messages blobs).latestCheckpoint =
      some (collectedCheckpoint checkpoint messages blobs) := by
  have hlatest' : (d.deleteCollected id checkpoint messages blobs).latestCheckpointID = some id :=
    hlatest
  unfold latestCheckpoint
  rw [hlatest', Option.bind_some]
  exact get?_set_self _ _ _

/-- What the latest two retain is in no batch. -/
theorem CheckpointsOK.notMem_collected (h : d.CheckpointsOK) (maximum : Nat)
    (hlatest : d.latestCheckpoint = some checkpoint) {id' messageID checkpoint'}
    (hmem : id' ∈ d.latestTwo)
    (hget : d.checkpoints.get? id' = some checkpoint')
    (hretained : messageID ∈ checkpoint'.candidate.retainedMessageIDs) :
    messageID ∉ (collectedMessages checkpoint maximum).map MemoryMessage.messageID := by
  intro hcollected
  obtain ⟨m, hm, rfl⟩ := mem_map.mp hcollected
  have hfrozen := (h.of_mem_collectedMessages hlatest hm).1
  rw [h.spared hlatest hmem hget hretained] at hfrozen
  cases hfrozen

theorem CheckpointsOK.deleteCollected (h : d.CheckpointsOK)
    (hcheckpoint : d.checkpoints.get? id = some checkpoint)
    (hlatestID : d.latestCheckpointID = some id) (hlatest : d.latestCheckpoint = some checkpoint) :
    (d.deleteCollected id checkpoint (collectedMessages checkpoint messageLimit)
      (collectedBlobs checkpoint blobLimit)).CheckpointsOK where
  nodup := h.nodup
  filed := by
    intro id' hid'
    obtain ⟨checkpoint', hget, hstate⟩ := h.filed id' hid'
    show ∃ c, (d.checkpoints.set id _).get? id' = some c ∧ _
    rw [get?_set]
    split
    · next heq =>
      rw [heq, hcheckpoint, Option.some.injEq] at hget
      exact ⟨_, rfl, hget ▸ hstate⟩
    · exact ⟨checkpoint', hget, hstate⟩
  activated := by
    intro id' checkpoint' hmem hget
    obtain ⟨checkpoint₀, hget₀, hstate, -⟩ := get?_checkpoints_deleteCollected hcheckpoint hget
    rw [hstate]
    exact h.activated hmem hget₀
  deletionMessages := by
    -- The latest checkpoint is the collected one, whose deletion sets have lost what is collected.
    intro latest id' m hlatest' hget
    rw [latestCheckpoint_deleteCollected hlatestID, Option.some.injEq] at hlatest'
    subst hlatest'
    have hget' : (checkpoint.deletionMessages.deleteAll _).get? id' = some m := hget
    rw [get?_deleteAll] at hget'
    split at hget'
    · cases hget'
    · next hnot =>
      obtain ⟨⟨hm, rfl⟩, hle, hvisible⟩ := h.deletionMessages hlatest hget'
      exact ⟨⟨mem_filter.mpr ⟨hm, decide_eq_true hnot⟩, rfl⟩, hle, hvisible⟩
  deletionBlobs := by
    intro latest blobID blob hlatest' hget
    rw [latestCheckpoint_deleteCollected hlatestID, Option.some.injEq] at hlatest'
    subst hlatest'
    have hget' : (checkpoint.deletionBlobs.deleteAll _).get? blobID = some blob := hget
    rw [get?_deleteAll] at hget'
    split at hget'
    · cases hget'
    · next hnot =>
      obtain ⟨hblob, hvisible⟩ := h.deletionBlobs hlatest hget'
      refine ⟨?_, hvisible⟩
      show (d.blobs.deleteAll _).get? blobID = some blob
      rw [get?_deleteAll, if_neg hnot]
      exact hblob
  retained := by
    intro id' checkpoint' messageID hmem hget hretained
    obtain ⟨checkpoint₀, hget₀, -, hcandidate⟩ := get?_checkpoints_deleteCollected hcheckpoint hget
    rw [hcandidate] at hretained
    obtain ⟨m, hm, rfl, hvisible⟩ := h.retained hmem hget₀ hretained
    -- what any activated checkpoint retains is spared by the deletion set of the latest
    have hnot := h.notMem_collected messageLimit hlatest hmem hget₀ hretained
    exact ⟨m, mem_filter.mpr ⟨hm, decide_eq_true hnot⟩, rfl, hvisible⟩
  spared := by
    intro latest id' checkpoint' messageID hlatest' hmem hget hretained
    rw [latestCheckpoint_deleteCollected hlatestID, Option.some.injEq] at hlatest'
    subst hlatest'
    obtain ⟨checkpoint₀, hget₀, -, hcandidate⟩ := get?_checkpoints_deleteCollected hcheckpoint hget
    rw [hcandidate] at hretained
    show (checkpoint.deletionMessages.deleteAll _).get? messageID = none
    rw [get?_deleteAll, h.spared hlatest hmem hget₀ hretained, ite_self]

end Collection

end MemoryDomain

end FacetsNode.Relay
