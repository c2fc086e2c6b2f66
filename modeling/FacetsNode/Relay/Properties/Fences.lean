import FacetsNode.Relay.Memory.Invariants

/-!
# Fences

The lazy expiry loop and the invariant of the fence table. `Expiry.induction` is how every other
module deals with expiry: it is a sequence of closings of active fences, so what closing one active
fence preserves, expiry preserves.

* `FencesOK` — every fence is filed under its own identifier, and at most one is active;
* `fence_closed_step` — a fence that has ended stays as it is;
* `fenceVisible_step` — a fence that was activated stays activated, so visibility is for good.
-/

namespace FacetsNode.Relay

open GoMap

namespace MemoryDomain

variable {d : MemoryDomain} {now : Int}

/-! ## What closing a fence does -/

section
variable (d : MemoryDomain) (id : UUID) (fence : MemoryCheckpointFence)
  (status : CheckpointFenceStatus) (fenceID : UUID)

theorem closeFence_checkpointFences : (d.closeFence id fence status fenceID).checkpointFences =
      d.checkpointFences.set id { fence with state := { fence.state with status := status } } := rfl

theorem closeFence_messageByID : (d.closeFence id fence status fenceID).messageByID =
      d.messageByID.deleteAll ((d.fenceMessages fenceID).map MemoryMessage.messageID) := rfl

theorem closeFence_tombstones : (d.closeFence id fence status fenceID).fenceMessageTombstones =
      d.fenceMessageTombstones.setAll ((d.fenceMessages fenceID).filterMap tombstoneOf) := rfl

theorem closeFence_blobs :
    (d.closeFence id fence status fenceID).blobs = d.blobs.deleteAll (d.fenceBlobIDs fenceID) := rfl

theorem closeFence_blobFenceIDs : (d.closeFence id fence status fenceID).blobFenceIDs =
      d.blobFenceIDs.deleteAll (d.fenceBlobIDs fenceID) := rfl

end

/-! ## Expiry, one fence at a time -/

/-- **Expiry.** What closing one expired active fence preserves, the whole loop preserves. -/
theorem refreshMemoryFence_induction {P : MemoryDomain → Prop}
    (hclose : ∀ d id fence, P d → d.checkpointFences.get? id = some fence →
      fence.state.status = .active → fence.state.expiresAtMilliseconds ≤ now →
      P (d.closeFence id fence .expired fence.state.fenceID))
    (hd : P d) : P (d.refreshMemoryFence now) := by
  -- The entries still to be visited are unchanged: a closing writes its own entry only.
  have hloop : ∀ (l : List (UUID × MemoryCheckpointFence)) (d : MemoryDomain),
      (l.map Prod.fst).Nodup → (∀ e ∈ l, d.checkpointFences.get? e.1 = some e.2) → P d →
      P (l.foldl (refreshOne now) d) := by
    intro l
    induction l with
    | nil => exact fun d _ _ hd => hd
    | cons e l ih =>
      intro d hnodup hfiled hd
      rw [List.map_cons, List.nodup_cons] at hnodup
      have hfirst := hfiled e List.mem_cons_self
      have hrest := fun e' he' => hfiled e' (List.mem_cons_of_mem _ he')
      rw [List.foldl_cons]
      unfold refreshOne
      split
      · next hdue =>
        refine ih _ hnodup.2 (fun e' he' => ?_) (hclose d e.1 e.2 hd hfirst hdue.1 hdue.2)
        rw [closeFence_checkpointFences, get?_set_ne]
        · exact hrest e' he'
        · exact fun heq => hnodup.1 (heq ▸ List.mem_map_of_mem he')
      · exact ih d hnodup.2 hrest hd
  exact hloop _ d d.checkpointFences.pairs_keys_nodup (fun e he => mem_pairs.mp he) hd

end MemoryDomain

namespace Expiry

variable {op : Operation} {d d' : MemoryDomain}

theorem induction {P : MemoryDomain → Prop}
    (hclose : ∀ d id fence, P d → d.checkpointFences.get? id = some fence →
      fence.state.status = .active → P (d.closeFence id fence .expired fence.state.fenceID))
    (hexpiry : Expiry op d d') (hd : P d) : P d' := by
  cases hexpiry with
  | none => exact hd
  | due =>
    exact MemoryDomain.refreshMemoryFence_induction
      (fun d id fence h hfence hactive _ => hclose d id fence h hfence hactive) hd

/-- Whatever no closing touches, expiry does not touch. -/
theorem frame {α : Type} (hexpiry : Expiry op d d') (f : MemoryDomain → α)
    (hf : ∀ d id fence status fenceID,
      f (MemoryDomain.closeFence d id fence status fenceID) = f d) :
    f d' = f d :=
  induction (P := fun d' => f d' = f d) (fun _ _ _ h _ _ => (hf _ _ _ _ _).trans h) hexpiry rfl

section
variable (hexpiry : Expiry op d d')
include hexpiry

theorem subscriptions : d'.subscriptions = d.subscriptions :=
  hexpiry.frame MemoryDomain.subscriptions fun _ _ _ _ _ => rfl

theorem rebootstrapRequests : d'.rebootstrapRequests = d.rebootstrapRequests :=
  hexpiry.frame MemoryDomain.rebootstrapRequests fun _ _ _ _ _ => rfl

theorem rebootstrapCancellations : d'.rebootstrapCancellations = d.rebootstrapCancellations :=
  hexpiry.frame MemoryDomain.rebootstrapCancellations fun _ _ _ _ _ => rfl

theorem rebootstrapCompletions : d'.rebootstrapCompletions = d.rebootstrapCompletions :=
  hexpiry.frame MemoryDomain.rebootstrapCompletions fun _ _ _ _ _ => rfl

theorem activatedCheckpoints : d'.activatedCheckpoints = d.activatedCheckpoints :=
  hexpiry.frame MemoryDomain.activatedCheckpoints fun _ _ _ _ _ => rfl

theorem blobUploads : d'.blobUploads = d.blobUploads :=
  hexpiry.frame MemoryDomain.blobUploads fun _ _ _ _ _ => rfl

end

end Expiry

namespace MemoryDomain

variable {s : MemoryStore} {op : Operation} {key : DomainKey} {d d' : MemoryDomain}
  {id : UUID} {fence : MemoryCheckpointFence} {status : CheckpointFenceStatus} {o : Option UUID}

/-! ## The fence table -/

/-- Fences are filed under their own identifiers, and at most one of them is active. -/
structure FencesOK (fences : GoMap UUID MemoryCheckpointFence) : Prop where
  keyed : ∀ {id fence}, fences.get? id = some fence → fence.state.fenceID = id
  one : ∀ {id fence id' fence'}, fences.get? id = some fence → fences.get? id' = some fence' →
    fence.state.status = .active → fence'.state.status = .active → id = id'

variable {fences : GoMap UUID MemoryCheckpointFence} {fence' : MemoryCheckpointFence}

/-- Any change of one fence's status, unless it would open a second one. -/
theorem FencesOK.setStatus (h : FencesOK fences)
    (hfence : fences.get? id = some fence) (hclosed : status ≠ .active) :
    FencesOK (fences.set id { fence with state := { fence.state with status := status } }) where
  keyed := by
    intro id' fence' hget
    rw [get?_set] at hget
    split at hget
    · next heq =>
      cases hget
      exact (h.keyed hfence).trans heq.symm
    · exact h.keyed hget
  one := by
    intro id₁ fence₁ id₂ fence₂ hget₁ hget₂ hactive₁ hactive₂
    rw [get?_set] at hget₁ hget₂
    split at hget₁
    · cases hget₁
      exact absurd hactive₁ hclosed
    · split at hget₂
      · cases hget₂
        exact absurd hactive₂ hclosed
      · exact h.one hget₁ hget₂ hactive₁ hactive₂

/-- A new fence, when no fence is active. -/
theorem FencesOK.file (h : FencesOK fences)
    (hidle : fences.pairs.any (fun p => p.2.state.status = .active) = false)
    (hid : fence.state.fenceID = id) : FencesOK (fences.set id fence) where
  keyed := by
    intro id' fence' hget
    rw [get?_set] at hget
    split at hget
    · next heq => cases hget; exact hid.trans heq.symm
    · exact h.keyed hget
  one := by
    have hnone : ∀ {id fence}, fences.get? id = some fence → fence.state.status ≠ .active := by
      intro id fence hget hactive
      have hany : fences.pairs.any (fun p => p.2.state.status = .active) = true :=
        any_pairs.mpr ⟨id, fence, hget, decide_eq_true hactive⟩
      rw [hany] at hidle
      cases hidle
    intro id₁ fence₁ id₂ fence₂ hget₁ hget₂ hactive₁ hactive₂
    rw [get?_set] at hget₁ hget₂
    split at hget₁
    · split at hget₂
      · next heq₁ heq₂ => exact heq₁.trans heq₂.symm
      · exact absurd hactive₂ (hnone hget₂)
    · exact absurd hactive₁ (hnone hget₁)

/-! ### The life of a fence -/

/-- Whatever ends an active fence leaves the others alone. -/
theorem get?_set_of_closed {fence'' id'}
    (hfence : d.checkpointFences.get? id = some fence) (hclosed : fence.state.status ≠ .active)
    (hfence' : d.checkpointFences.get? id' = some fence')
    (hactive : fence'.state.status = .active) :
    (d.checkpointFences.set id' fence'').get? id = some fence := by
  rw [get?_set_ne]
  · exact hfence
  · rintro rfl
    rw [hfence, Option.some.injEq] at hfence'
    exact hclosed (hfence' ▸ hactive)

/-- A new fence leaves the others alone. -/
theorem get?_fileFence (hfence : d.checkpointFences.get? id = some fence)
    (hnew : d.checkpointFences.get? fence'.request.fenceID = none) :
    (d.fileFence fence').checkpointFences.get? id = some fence := by
  refine (get?_set_ne _ _ ?_).trans hfence
  rintro rfl
  rw [hnew] at hfence
  cases hfence

/-- **A fence that has ended stays as it is.** -/
theorem fence_closed_step (hstep : DomainStep s key op d d')
    (hfence : d.checkpointFences.get? id = some fence) (hclosed : fence.state.status ≠ .active) :
    d'.checkpointFences.get? id = some fence := by
  obtain ⟨hexpiry, heffect⟩ := hstep
  replace hfence := hexpiry.induction (P := fun d => d.checkpointFences.get? id = some fence)
    (fun _ _ _ hfence hfence' hactive => get?_set_of_closed hfence hclosed hfence' hactive) hfence
  cases heffect with
  | authority heq => rw [heq]; exact hfence
  | testSubscription _ heq => exact ensured heq fun _ => hfence
  | createFence hnew => exact get?_fileFence hfence hnew
  | abortFence hfence' hactive | activate _ _ _ _ _ hfence' hactive =>
    exact get?_set_of_closed hfence hclosed hfence' hactive
  | _ => exact hfence

/-- Changing the status of a fence leaves the holders as they are. -/
theorem holder_setStatus {holder id'}
    (h : ∃ fence, d.checkpointFences.get? id = some fence ∧ fence.holderSubscriptionID = holder)
    (hfence' : d.checkpointFences.get? id' = some fence') :
    ∃ fence, (d.checkpointFences.set id'
        { fence' with state := { fence'.state with status := status } }).get? id = some fence ∧
      fence.holderSubscriptionID = holder := by
  obtain ⟨fence, hfence, hholder⟩ := h
  rw [get?_set]
  split
  · next heq =>
    rw [heq, hfence', Option.some.injEq] at hfence
    exact ⟨_, rfl, hfence ▸ hholder⟩
  · exact ⟨fence, hfence, hholder⟩

/-- A fence keeps its holder. -/
theorem holder_step {holder} (hstep : DomainStep s key op d d')
    (h : ∃ fence, d.checkpointFences.get? id = some fence ∧ fence.holderSubscriptionID = holder) :
    ∃ fence, d'.checkpointFences.get? id = some fence ∧ fence.holderSubscriptionID = holder := by
  obtain ⟨hexpiry, heffect⟩ := hstep
  replace h := hexpiry.induction (P := fun d => ∃ fence, d.checkpointFences.get? id = some fence ∧
    fence.holderSubscriptionID = holder) (fun _ _ _ h hfence' _ => holder_setStatus h hfence') h
  cases heffect with
  | authority heq => rw [heq]; exact h
  | testSubscription _ heq => exact ensured heq fun _ => h
  | createFence hnew =>
    obtain ⟨fence, hfence, hholder⟩ := h
    exact ⟨fence, get?_fileFence hfence hnew, hholder⟩
  | abortFence hfence' | activate _ _ _ _ _ hfence' => exact holder_setStatus h hfence'
  | _ => exact h

/-! ## Visibility -/

/-- What carries no fence is visible, and what carries one is visible once it is activated. -/
theorem fenceVisible_iff :
    d.fenceVisible o = true ↔ ∀ id ∈ o, ∃ fence, d.checkpointFences.get? id = some fence ∧
      fence.state.status = .activated := by
  unfold fenceVisible
  split
  · simp
  · next id =>
    split
    · next fence hfence => simp [hfence]
    · next hnone => simp [hnone]

/-- Visibility is a matter of the fence table alone. -/
theorem fenceVisible_congr (h : d'.checkpointFences = d.checkpointFences) (o : Option UUID) :
    d'.fenceVisible o = d.fenceVisible o := by
  unfold fenceVisible
  rw [h]

/-- What an active fence holds is not visible. -/
theorem ne_of_fenceVisible (hfence : d.checkpointFences.get? id = some fence)
    (hactive : fence.state.status = .active) (hvisible : d.fenceVisible o = true) :
    o ≠ some id := by
  rintro rfl
  obtain ⟨fence', hfence', hactivated⟩ := fenceVisible_iff.mp hvisible id rfl
  rw [hfence, Option.some.injEq] at hfence'
  rw [hfence', hactivated] at hactive
  cases hactive

/-- Whatever happens to one fence, the rest stays visible. -/
theorem fenceVisible_set (hne : o ≠ some id)
    (hset : d'.checkpointFences = d.checkpointFences.set id fence')
    (hvisible : d.fenceVisible o = true) : d'.fenceVisible o = true := by
  rw [fenceVisible_iff] at hvisible ⊢
  intro id' hid'
  obtain ⟨fence'', hfence'', hactivated⟩ := hvisible id' hid'
  refine ⟨fence'', ?_, hactivated⟩
  rw [hset, get?_set_ne]
  · exact hfence''
  · rintro rfl
    exact hne hid'

/-- The fence of a stored message or blob is open or was activated, never closed. -/
def FenceLive (fences : GoMap UUID MemoryCheckpointFence) (o : Option UUID) : Prop :=
  ∀ id ∈ o, ∃ fence, fences.get? id = some fence ∧
    (fence.state.status = .active ∨ fence.state.status = .activated)

/-- Closing a fence leaves every other fence as it was. -/
theorem FenceLive.set (h : FenceLive fences o)
    (hne : o ≠ some id) : FenceLive (fences.set id fence') o := by
  intro id' hid'
  obtain ⟨fence'', hfence'', hstatus⟩ := h id' hid'
  refine ⟨fence'', ?_, hstatus⟩
  rw [get?_set_ne]
  · exact hfence''
  · rintro rfl
    exact hne hid'

theorem FenceLive.of_visible (h : d.fenceVisible o = true) : FenceLive d.checkpointFences o := by
  intro id hid
  obtain ⟨fence, hfence, hactivated⟩ := fenceVisible_iff.mp h id hid
  exact ⟨fence, hfence, .inr hactivated⟩

/-- A live fence is filed. -/
theorem FenceLive.ne_of_none {o : Option UUID}
    (h : FenceLive fences o) (hnew : fences.get? id = none) : o ≠ some id := by
  rintro rfl
  obtain ⟨fence, hfence, -⟩ := h id rfl
  rw [hnew] at hfence
  cases hfence

/-! ### Visibility along a run -/

/-- Closing an open fence hides nothing that was visible, … -/
theorem fenceVisible_closeFence (hfence : d.checkpointFences.get? id = some fence)
    (hactive : fence.state.status = .active) (status : CheckpointFenceStatus) (fenceID : UUID)
    (h : d.fenceVisible o = true) : (d.closeFence id fence status fenceID).fenceVisible o = true :=
  fenceVisible_set (ne_of_fenceVisible hfence hactive h) rfl h

/-- … and shows nothing that was not. -/
theorem fenceVisible_of_closeFence {fenceID} (hstatus : status ≠ .activated)
    (h : (d.closeFence id fence status fenceID).fenceVisible o = true) :
    d.fenceVisible o = true := by
  rw [fenceVisible_iff] at h ⊢
  intro id' hid'
  obtain ⟨fence', hget, hactivated⟩ := h id' hid'
  rw [closeFence_checkpointFences, get?_set] at hget
  split at hget
  · cases hget
    exact absurd hactivated hstatus
  · exact ⟨fence', hget, hactivated⟩

theorem fenceVisible_expiry (hexpiry : Expiry op d d') (o : Option UUID) :
    d'.fenceVisible o = d.fenceVisible o := by
  refine hexpiry.induction (P := fun d' => d'.fenceVisible o = d.fenceVisible o) ?_ rfl
  intro d' id fence heq hfence hactive
  rw [← heq, Bool.eq_iff_iff]
  exact ⟨fenceVisible_of_closeFence (by decide), fenceVisible_closeFence hfence hactive _ _⟩

/-- **Visibility is for good.** No operation reopens or closes an activated fence. -/
theorem fenceVisible_step (hstep : DomainStep s key op d d') (h : d.fenceVisible o = true) :
    d'.fenceVisible o = true := by
  obtain ⟨hexpiry, heffect⟩ := hstep
  rw [← fenceVisible_expiry hexpiry] at h
  cases heffect with
  | authority heq => rw [heq]; exact h
  | testSubscription _ heq => exact ensured heq fun _ => h
  | createFence hnew => exact fenceVisible_set ((FenceLive.of_visible h).ne_of_none hnew) rfl h
  | @abortFence _ request _ _ _ _ hfence hactive =>
    exact fenceVisible_closeFence hfence hactive .aborted request.fenceID h
  | activate _ _ _ _ _ hfence hactive =>
    exact fenceVisible_set (ne_of_fenceVisible hfence hactive h) rfl h
  | _ => exact h

end MemoryDomain

end FacetsNode.Relay
