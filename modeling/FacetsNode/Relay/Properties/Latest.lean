import FacetsNode.Relay.Properties.Representation

/-!
# The latest checkpoint along a run

Between two activations the latest checkpoint stays the same one, and only its frozen sets shrink.

* `CollectedFrom c c'` — `c'` is `c` with part of its frozen sets gone;
* `SameLatest d d'` — no activation lies between `d` and `d'`;
* `CoverageOK` — an activated checkpoint starts where it covers, within the range of cursors;
* `WellFormed.visible_kept` — a readable message the latest checkpoint does not cover stays.
-/

namespace FacetsNode.Relay

namespace MemoryDomain

variable {s : MemoryStore} {op : Operation} {key : DomainKey} {d d' d'' : MemoryDomain} {now : Int}
  {id fenceID : UUID} {fence : MemoryCheckpointFence} {status : CheckpointFenceStatus}

/-! ## Between two activations -/

/-- The same checkpoint, with less left to delete. -/
structure CollectedFrom (c c' : MemoryCheckpoint) : Prop where
  same : c' = { c with deletionMessages := c'.deletionMessages, deletionBlobs := c'.deletionBlobs }
  messages : ∀ {id m}, c'.deletionMessages.get? id = some m → c.deletionMessages.get? id = some m
  blobs : ∀ {id blob}, c'.deletionBlobs.get? id = some blob → c.deletionBlobs.get? id = some blob

section
variable {c c' : MemoryCheckpoint}

theorem CollectedFrom.rfl : CollectedFrom c c := ⟨Eq.refl _, id, id⟩

theorem CollectedFrom.candidate (h : CollectedFrom c c') : c'.candidate = c.candidate := by
  rw [h.same]

theorem CollectedFrom.startSequence (h : CollectedFrom c c') :
    c'.startSequence = c.startSequence := by
  rw [h.same]

theorem CollectedFrom.required (h : CollectedFrom c c') : c'.required = c.required := by
  rw [h.same]

theorem collectedFrom_collected (c : MemoryCheckpoint) (messages : List MemoryMessage)
    (blobs : List (GoString × BlobMetadata)) :
    CollectedFrom c (collectedCheckpoint c messages blobs) where
  same := Eq.refl _
  messages := by
    intro id m hget
    have hget' : (c.deletionMessages.deleteAll _).get? id = some m := hget
    rw [GoMap.get?_deleteAll] at hget'
    split at hget'
    · cases hget'
    · exact hget'
  blobs := by
    intro id blob hget
    have hget' : (c.deletionBlobs.deleteAll _).get? id = some blob := hget
    rw [GoMap.get?_deleteAll] at hget'
    split at hget'
    · cases hget'
    · exact hget'

end

/-- The latest checkpoint is the one it was. -/
structure SameLatest (d d' : MemoryDomain) : Prop where
  latestID : d'.latestCheckpointID = d.latestCheckpointID
  latest : Option.Rel CollectedFrom d.latestCheckpoint d'.latestCheckpoint

theorem SameLatest.of_latest_eq (hid : d'.latestCheckpointID = d.latestCheckpointID)
    (hlatest : d'.latestCheckpoint = d.latestCheckpoint) : SameLatest d d' := by
  refine ⟨hid, ?_⟩
  rw [hlatest]
  cases d.latestCheckpoint with
  | none => exact .none
  | some c => exact .some .rfl

/-- A step that does not touch the checkpoints. -/
theorem SameLatest.of_eq (hcheckpoints : d'.checkpoints = d.checkpoints)
    (hactivated : d'.activatedCheckpoints = d.activatedCheckpoints) : SameLatest d d' := by
  have hid : d'.latestCheckpointID = d.latestCheckpointID := by
    unfold latestCheckpointID
    rw [hactivated]
  refine .of_latest_eq hid ?_
  unfold latestCheckpoint
  rw [hid, hcheckpoints]

theorem SameLatest.before (h : SameLatest d d') {c'} (hc' : d'.latestCheckpoint = some c') :
    ∃ c, d.latestCheckpoint = some c ∧ CollectedFrom c c' := by
  have hrel := h.latest
  rw [hc'] at hrel
  cases hc : d.latestCheckpoint with
  | none => rw [hc] at hrel; cases hrel
  | some c =>
    rw [hc] at hrel
    cases hrel with
    | some hcollected => exact ⟨c, Eq.refl _, hcollected⟩

variable {c checkpoint : MemoryCheckpoint}

theorem SameLatest.after (h : SameLatest d d') (hc : d.latestCheckpoint = some c) :
    ∃ c', d'.latestCheckpoint = some c' ∧ CollectedFrom c c' := by
  have hrel := h.latest
  rw [hc] at hrel
  cases hc' : d'.latestCheckpoint with
  | none => rw [hc'] at hrel; cases hrel
  | some c' =>
    rw [hc'] at hrel
    cases hrel with
    | some hcollected => exact ⟨c', Eq.refl _, hcollected⟩

theorem CollectedFrom.trans {c' c''} (h : CollectedFrom c c')
    (h' : CollectedFrom c' c'') : CollectedFrom c c'' where
  same := by
    rw [h'.same, h.same]
  messages := fun hget => h.messages (h'.messages hget)
  blobs := fun hget => h.blobs (h'.blobs hget)

theorem SameLatest.trans (h : SameLatest d d') (h' : SameLatest d' d'') : SameLatest d d'' := by
  refine ⟨h'.latestID.trans h.latestID, ?_⟩
  cases hc : d.latestCheckpoint with
  | none =>
    have hnone : d''.latestCheckpoint = none := by
      rw [Option.eq_none_iff_forall_ne_some]
      intro c'' hc''
      obtain ⟨c', hc', -⟩ := h'.before hc''
      obtain ⟨c, hsome, -⟩ := h.before hc'
      rw [hc] at hsome
      cases hsome
    rw [hnone]
    exact .none
  | some c =>
    obtain ⟨c', hc', hcollected⟩ := h.after hc
    obtain ⟨c'', hc'', hcollected'⟩ := h'.after hc'
    rw [hc'']
    exact .some (hcollected.trans hcollected')

/-- A closing fence takes down candidates, never an activated checkpoint. -/
theorem CheckpointsOK.closeFence_latestCheckpoint (h : d.CheckpointsOK) (id : UUID)
    (fence : MemoryCheckpointFence) (status : CheckpointFenceStatus) (fenceID : UUID) :
    (d.closeFence id fence status fenceID).latestCheckpoint = d.latestCheckpoint := by
  have hsame : (d.closeFence id fence status fenceID).latestCheckpointID = d.latestCheckpointID :=
    rfl
  unfold latestCheckpoint
  rw [hsame]
  cases hlast : d.latestCheckpointID with
  | none => rfl
  | some latestID =>
    obtain ⟨c, hget, -, hactivated⟩ := h.latest hlast
    rw [Option.bind_some, Option.bind_some, hget]
    refine get?_checkpoints_closeFence_of_ne hget ?_
    rw [hactivated]
    decide

/-- Expiry changes nothing about the latest checkpoint. -/
theorem WellFormed.latestCheckpoint_expiry (h : d.WellFormed) (hexpiry : Expiry op d d') :
    d'.latestCheckpoint = d.latestCheckpoint := by
  refine h.expiry_induction (P := fun d' => d'.latestCheckpoint = d.latestCheckpoint) hexpiry ?_ rfl
  intro d' id fence h' heq _ _
  rw [h'.checkpoints.closeFence_latestCheckpoint, heq]

theorem SameLatest.of_expiry (hwf : d.WellFormed) (hexpiry : Expiry op d d') : SameLatest d d' := by
  refine .of_latest_eq ?_ (hwf.latestCheckpoint_expiry hexpiry)
  unfold latestCheckpointID
  rw [hexpiry.activatedCheckpoints]

theorem SameLatest.closeFence (hwf : d.WellFormed) (id : UUID) (fence : MemoryCheckpointFence)
    (status : CheckpointFenceStatus) (fenceID : UUID) :
    SameLatest d (d.closeFence id fence status fenceID) :=
  .of_latest_eq rfl (hwf.checkpoints.closeFence_latestCheckpoint id fence status fenceID)

theorem SameLatest.fileCheckpoint (hwf : d.WellFormed)
    (hnew : d.checkpoints.get? checkpoint.candidate.checkpointID = none) :
    SameLatest d (d.fileCheckpoint checkpoint) :=
  .of_latest_eq rfl (hwf.checkpoints.latestCheckpoint_fileCheckpoint hnew)

theorem SameLatest.collect {plan} (hplan : d.memoryCheckpointPlan id = .ok plan)
    (hcheckpoint : d.checkpoints.get? id = some checkpoint) (messages : List MemoryMessage)
    (blobs : List (GoString × BlobMetadata)) :
    SameLatest d (d.deleteCollected id checkpoint messages blobs) := by
  obtain ⟨hlatestID, hlatest⟩ := latestCheckpoint_of_plan hplan hcheckpoint
  refine ⟨rfl, ?_⟩
  rw [hlatest, latestCheckpoint_deleteCollected hlatestID]
  exact .some (collectedFrom_collected checkpoint messages blobs)

/-- The latest checkpoint is the one it was, or one activated for the first time. -/
theorem WellFormed.latest_step (hwf : d.WellFormed) (hstep : DomainStep s key op d d') :
    (SameLatest d d' ∧ d'.activatedCheckpoints = d.activatedCheckpoints) ∨
      ∃ id, id ∉ d.activatedCheckpoints ∧
        d'.activatedCheckpoints = d.activatedCheckpoints ++ [id] := by
  obtain @⟨d₁, hexpiry, heffect⟩ := hstep
  have hwf₁ := hwf.expiry hexpiry
  have hactivated := hexpiry.activatedCheckpoints
  have hlatest := SameLatest.of_expiry hwf hexpiry
  -- What the effect does not change is what it was before the expiry.
  have hkept : ∀ {d'}, SameLatest d₁ d' → d'.activatedCheckpoints = d₁.activatedCheckpoints →
      SameLatest d d' ∧ d'.activatedCheckpoints = d.activatedCheckpoints := by
    intro d' hsame heq
    exact ⟨hlatest.trans hsame, heq.trans hactivated⟩
  cases heffect with
  | authority heq =>
    rw [heq]
    exact .inl (hkept (.of_eq rfl rfl) rfl)
  | testSubscription _ heq => exact ensured heq fun _ => .inl (hkept (.of_eq rfl rfl) rfl)
  | @abortFence _ request now fence =>
    have hsame := SameLatest.closeFence hwf₁ request.fenceID fence .aborted request.fenceID
    exact .inl (hkept (hsame.trans (.of_eq rfl rfl)) rfl)
  | stage _ _ _ _ hnew => exact .inl (hkept (.fileCheckpoint hwf₁ hnew) rfl)
  | activate _ _ _ hcheckpoint hstate =>
    refine .inr ⟨_, ?_, congrArg (· ++ _) hactivated⟩
    rw [← hactivated]
    exact hwf₁.checkpoints.notMem_of_staged hcheckpoint hstate
  | collect hcheckpoint hplan =>
    have hsame := SameLatest.collect hplan hcheckpoint
    exact .inl (hkept ((hsame _ _).trans (.of_eq rfl rfl)) rfl)
  | _ => exact .inl (hkept (.of_eq rfl rfl) rfl)

/-! ## Coverage -/

/-- Every checkpoint covers up to a sequence a cursor can carry, and an activated one starts
there. -/
def CoverageOK (checkpoints : GoMap UUID MemoryCheckpoint) : Prop :=
  ∀ id c, checkpoints.get? id = some c →
    c.coveredThrough ≤ maximumSequence ∧ (c.state = .activated → c.startSequence = c.coveredThrough)

theorem CoverageOK.closeFence (h : CoverageOK d.checkpoints) (id : UUID)
    (fence : MemoryCheckpointFence) (status : CheckpointFenceStatus) (fenceID : UUID) :
    CoverageOK (d.closeFence id fence status fenceID).checkpoints := by
  intro id' c' hget
  have hget' : (d.checkpoints.mapValues _).get? id' = some c' := hget
  rw [GoMap.get?_mapValues] at hget'
  obtain ⟨c, hc, heq⟩ := Option.map_eq_some_iff.mp hget'
  subst heq
  split
  · refine ⟨(h id' c hc).1, fun hstate => ?_⟩
    cases hstate
  · exact h id' c hc

theorem CoverageOK.expiry (h : CoverageOK d.checkpoints) (hexpiry : Expiry op d d') :
    CoverageOK d'.checkpoints :=
  hexpiry.induction (P := fun d => CoverageOK d.checkpoints)
    (fun _ id fence h _ _ => h.closeFence id fence _ _) h

theorem CoverageOK.set {checkpoints : GoMap UUID MemoryCheckpoint} (h : CoverageOK checkpoints)
    (hcovered : c.coveredThrough ≤ maximumSequence)
    (hstart : c.state = .activated → c.startSequence = c.coveredThrough) :
    CoverageOK (checkpoints.set id c) := by
  intro id' c' hget
  rw [GoMap.get?_set] at hget
  split at hget
  · cases hget
    exact ⟨hcovered, hstart⟩
  · exact h id' c' hget

theorem CoverageOK.fileActivation (h : CoverageOK d.checkpoints) (hwf : d.WellFormed)
    {request result}
    (hcheckpoint : d.checkpoints.get? request.checkpointID = some checkpoint)
    (hstate : checkpoint.state = .staged) :
    CoverageOK (d.fileActivation checkpoint fence request result).checkpoints := by
  intro id c hget
  have hset : CoverageOK (d.checkpoints.set request.checkpointID
      (d.activatedCheckpoint checkpoint request)) :=
    h.set (h _ _ hcheckpoint).1 fun _ => rfl
  rcases get?_retireThirdLast (d.checkpoints.set request.checkpointID
    (d.activatedCheckpoint checkpoint request))
    (hwf.checkpoints.nodup_fileActivation hcheckpoint hstate) id with hsame | ⟨-, c₀, hc₀, hretired⟩
  · exact hset id c (hsame ▸ hget)
  · -- A retired checkpoint is no longer activated.
    have hc : c = retiredCheckpoint c₀ := Option.some.inj (hget.symm.trans hretired)
    subst hc
    exact ⟨(hset id c₀ hc₀).1, fun hactivated => by cases hactivated⟩

theorem CoverageOK.step (h : CoverageOK d.checkpoints) (hwf : d.WellFormed)
    (hstep : DomainStep s key op d d') : CoverageOK d'.checkpoints := by
  obtain ⟨hexpiry, heffect⟩ := hstep
  replace h := h.expiry hexpiry
  have hwf₁ := hwf.expiry hexpiry
  cases heffect with
  | authority heq => rw [heq]; exact h
  | testSubscription _ heq => exact ensured heq fun _ => h
  | @abortFence _ request now fence =>
    exact h.closeFence request.fenceID fence .aborted request.fenceID
  | stage hcovered =>
    refine h.set (decodeCursor_le hcovered) fun hstate => ?_
    cases hstate
  | activate _ _ _ hcheckpoint hstate => exact h.fileActivation hwf₁ hcheckpoint hstate
  | collect hcheckpoint =>
    obtain ⟨hcovered, hstart⟩ := h _ _ hcheckpoint
    exact h.set hcovered hstart
  | _ => exact h

/-- The latest checkpoint starts where it covers. -/
theorem CoverageOK.latest (h : CoverageOK d.checkpoints) (hwf : d.WellFormed)
    (hc : d.latestCheckpoint = some c) :
    c.startSequence = c.coveredThrough ∧ c.startSequence ≤ maximumSequence := by
  obtain ⟨id, hid, hget⟩ := latestCheckpoint_eq_some hc
  have hactivated := hwf.checkpoints.activated (mem_latestTwo_of_latestCheckpointID hid) hget
  have hstart := (h id c hget).2 hactivated
  exact ⟨hstart, hstart ▸ (h id c hget).1⟩

/-! ## Readable messages past the coverage -/

theorem WellFormed.visible_expiry (h : d.WellFormed) (hexpiry : Expiry op d d') {m}
    (hm : m ∈ d.messages) (hvisible : d.fenceVisible m.checkpointFenceID = true) :
    m ∈ d'.messages ∧ d'.fenceVisible m.checkpointFenceID = true := by
  refine h.expiry_induction (P := fun d => m ∈ d.messages ∧
    d.fenceVisible m.checkpointFenceID = true) hexpiry ?_ ⟨hm, hvisible⟩
  rintro d id fence - ⟨hm, hvisible⟩ hfence hactive
  exact visible_closeFence hfence hactive hm hvisible

/-- **Nothing readable is lost past the coverage.** Only a collection takes readable messages, and
only those its checkpoint covers. -/
theorem WellFormed.visible_kept (hwf : d.WellFormed) (hstep : DomainStep s key op d d')
    {m} (hm : m ∈ d.messages) (hvisible : d.fenceVisible m.checkpointFenceID = true)
    (hpast : ∀ c, d.latestCheckpoint = some c → c.coveredThrough < m.sequence) :
    m ∈ d'.messages ∧ d'.fenceVisible m.checkpointFenceID = true := by
  refine ⟨?_, fenceVisible_step hstep hvisible⟩
  obtain ⟨hexpiry, heffect⟩ := hstep
  obtain ⟨hm, hvisible⟩ := hwf.visible_expiry hexpiry hm hvisible
  rw [← hwf.latestCheckpoint_expiry hexpiry] at hpast
  have hwf₁ := hwf.expiry hexpiry
  cases heffect with
  | authority heq => rw [heq]; exact hm
  | testSubscription _ heq => exact ensured heq fun _ => hm
  | publish => exact List.mem_append_left _ hm
  | abortFence hfence hactive => exact (visible_closeFence hfence hactive hm hvisible).1
  | collect hcheckpoint hplan =>
    obtain ⟨-, hlatest⟩ := latestCheckpoint_of_plan hplan hcheckpoint
    refine List.mem_filter.mpr ⟨hm, decide_eq_true fun hcollected => ?_⟩
    obtain ⟨m', hm', hid⟩ := List.mem_map.mp hcollected
    obtain ⟨-, hstored, hle, -⟩ := hwf₁.checkpoints.of_mem_collectedMessages hlatest hm'
    rw [hwf₁.messages.log.eq_of_messageID hstored hm hid] at hle
    exact absurd hle (not_le.mpr (hpast _ hlatest))
  | _ => exact hm

end MemoryDomain

end FacetsNode.Relay
