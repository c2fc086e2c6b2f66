import FacetsNode.Relay.Properties.Credentials
import FacetsNode.Relay.Properties.Subscriptions

/-!
# The journal of a domain

Every control operation files its request, together with the answer, under the caller's retry
identifier. These tables only grow: no step overwrites or removes an entry. Two kinds of entry are
looked up again through something else that must still be there — the fence a retry names, and the
checkpoint a collection names — and one, the recovery request, has its lease extended in place.

* `Tables` — the tables of a domain that record requests, with the fences and the checkpoints;
* `Journal d d'` — nothing recorded in `d` is lost in `d'`;
* `DomainStep.journal` — every step of a domain keeps its journal;
* `domains_later` — over a run, so do outcomes of fences and revocations.
-/

namespace FacetsNode.Relay

open GoMap

namespace MemoryDomain

/-! ## The tables -/

/-- The tables that record requests and answers, apart from the authority records, and apart from
those for created subscriptions, staged checkpoints and created uploads: staging blanks its
candidate later on, and an upload answers with its status of the moment. -/
structure Tables where
  subscriptionChanges : GoMap UUID MemorySubscriptionChange
  rebootstrapRequests : GoMap UUID MemorySubscriptionRebootstrapRequest
  rebootstrapRenewals : GoMap UUID MemorySubscriptionRebootstrapRenewal
  rebootstrapCancellations : GoMap UUID MemorySubscriptionRebootstrapCancellation
  rebootstrapCompletions : GoMap UUID MemorySubscriptionRebootstrapCompletion
  checkpoints : GoMap UUID MemoryCheckpoint
  checkpointActivations : GoMap UUID MemoryCheckpointActivation
  checkpointCollections : GoMap UUID MemoryCheckpointCollection
  checkpointFences : GoMap UUID MemoryCheckpointFence
  checkpointFenceRetries : GoMap UUID UUID
  checkpointFenceAborts : GoMap UUID MemoryFenceAbort
  blobUploadFinalizations : GoMap UUID MemoryBlobUploadFinalization

def tables (d : MemoryDomain) : Tables :=
  ⟨d.subscriptionChanges, d.rebootstrapRequests, d.rebootstrapRenewals, d.rebootstrapCancellations,
   d.rebootstrapCompletions, d.checkpoints, d.checkpointActivations, d.checkpointCollections,
   d.checkpointFences, d.checkpointFenceRetries, d.checkpointFenceAborts,
   d.blobUploadFinalizations⟩

/-- The same fence, in whichever status. -/
def SameFence (fence fence' : MemoryCheckpointFence) : Prop :=
  ∃ status, fence' = { fence with state := { fence.state with status := status } }

/-- A checkpoint that is past staging keeps the request it was activated with. -/
structure SameActivation (checkpoint checkpoint' : MemoryCheckpoint) : Prop where
  past : checkpoint'.state ≠ .staged
  request : checkpoint'.activationRequest = checkpoint.activationRequest

/-- Nothing recorded in `t` is lost in `t'`. -/
structure Tables.Grow (t t' : Tables) : Prop where
  subscriptionChanges : t.subscriptionChanges.Extends t'.subscriptionChanges
  rebootstrapRequests : ∀ {id r}, t.rebootstrapRequests.get? id = some r →
    ∃ expiresAt, r.expiresAtMilliseconds ≤ expiresAt ∧
      t'.rebootstrapRequests.get? id = some { r with expiresAtMilliseconds := expiresAt }
  rebootstrapRenewals : t.rebootstrapRenewals.Extends t'.rebootstrapRenewals
  rebootstrapCancellations : t.rebootstrapCancellations.Extends t'.rebootstrapCancellations
  rebootstrapCompletions : t.rebootstrapCompletions.Extends t'.rebootstrapCompletions
  checkpoints : ∀ {id checkpoint}, t.checkpoints.get? id = some checkpoint →
    checkpoint.state ≠ .staged →
    ∃ checkpoint', t'.checkpoints.get? id = some checkpoint' ∧ SameActivation checkpoint checkpoint'
  checkpointActivations : t.checkpointActivations.Extends t'.checkpointActivations
  checkpointCollections : t.checkpointCollections.Extends t'.checkpointCollections
  checkpointFences : ∀ {id fence}, t.checkpointFences.get? id = some fence →
    ∃ fence', t'.checkpointFences.get? id = some fence' ∧ SameFence fence fence'
  checkpointFenceRetries : t.checkpointFenceRetries.Extends t'.checkpointFenceRetries
  checkpointFenceAborts : t.checkpointFenceAborts.Extends t'.checkpointFenceAborts
  blobUploadFinalizations : t.blobUploadFinalizations.Extends t'.blobUploadFinalizations

theorem Tables.Grow.refl (t : Tables) : t.Grow t where
  subscriptionChanges := .refl _
  rebootstrapRequests := fun {_ r} hget => ⟨r.expiresAtMilliseconds, le_rfl, hget⟩
  rebootstrapRenewals := .refl _
  rebootstrapCancellations := .refl _
  rebootstrapCompletions := .refl _
  checkpoints := fun {_ checkpoint} hget hpast => ⟨checkpoint, hget, hpast, rfl⟩
  checkpointActivations := .refl _
  checkpointCollections := .refl _
  checkpointFences := fun {_ fence} hget => ⟨fence, hget, fence.state.status, rfl⟩
  checkpointFenceRetries := .refl _
  checkpointFenceAborts := .refl _
  blobUploadFinalizations := .refl _

theorem Tables.Grow.trans {t t' t'' : Tables} (h : t.Grow t') (h' : t'.Grow t'') : t.Grow t'' where
  subscriptionChanges := h.subscriptionChanges.trans h'.subscriptionChanges
  rebootstrapRequests := by
    intro id r hget
    obtain ⟨expiresAt, hle, hget⟩ := h.rebootstrapRequests hget
    obtain ⟨expiresAt', hle', hget⟩ := h'.rebootstrapRequests hget
    exact ⟨expiresAt', hle.trans hle', hget⟩
  rebootstrapRenewals := h.rebootstrapRenewals.trans h'.rebootstrapRenewals
  rebootstrapCancellations := h.rebootstrapCancellations.trans h'.rebootstrapCancellations
  rebootstrapCompletions := h.rebootstrapCompletions.trans h'.rebootstrapCompletions
  checkpoints := by
    intro id checkpoint hget hpast
    obtain ⟨checkpoint', hget, hsame⟩ := h.checkpoints hget hpast
    obtain ⟨checkpoint'', hget, hsame'⟩ := h'.checkpoints hget hsame.past
    exact ⟨checkpoint'', hget, hsame'.past, hsame'.request.trans hsame.request⟩
  checkpointActivations := h.checkpointActivations.trans h'.checkpointActivations
  checkpointCollections := h.checkpointCollections.trans h'.checkpointCollections
  checkpointFences := by
    intro id fence hget
    obtain ⟨fence', hget, _, rfl⟩ := h.checkpointFences hget
    obtain ⟨fence'', hget, status, rfl⟩ := h'.checkpointFences hget
    exact ⟨_, hget, status, rfl⟩
  checkpointFenceRetries := h.checkpointFenceRetries.trans h'.checkpointFenceRetries
  checkpointFenceAborts := h.checkpointFenceAborts.trans h'.checkpointFenceAborts
  blobUploadFinalizations := h.blobUploadFinalizations.trans h'.blobUploadFinalizations

/-! ## Fences and checkpoints -/

section
variable {d : MemoryDomain} {id : UUID} {fence : MemoryCheckpointFence}

theorem fences_setStatus (hfence : d.checkpointFences.get? id = some fence)
    (status : CheckpointFenceStatus) {id' fence'}
    (hget : d.checkpointFences.get? id' = some fence') :
    ∃ fence'', (d.checkpointFences.set id
      { fence with state := { fence.state with status := status } }).get? id' = some fence'' ∧
        SameFence fence' fence'' := by
  rw [get?_set]
  by_cases hid : id' = id
  · subst hid
    rw [hget, Option.some.injEq] at hfence
    exact ⟨_, if_pos rfl, status, by rw [hfence]⟩
  · exact ⟨fence', by rw [if_neg hid, hget], fence'.state.status, rfl⟩

/-- Invalidation touches staged candidates only. -/
theorem checkpoints_invalidate (fenceID : UUID) {checkpoint}
    (hget : d.checkpoints.get? id = some checkpoint) (hpast : checkpoint.state ≠ .staged) :
    (d.invalidateMemoryFenceCandidate fenceID).checkpoints.get? id = some checkpoint := by
  unfold invalidateMemoryFenceCandidate
  rw [get?_mapValues, hget, Option.map_some, if_neg fun h => hpast h.2]

theorem tables_closeFence (hfence : d.checkpointFences.get? id = some fence)
    (status : CheckpointFenceStatus) (fenceID : UUID) :
    d.tables.Grow (d.closeFence id fence status fenceID).tables :=
  { Tables.Grow.refl d.tables with
    checkpoints := fun {_ checkpoint} hget hpast =>
      ⟨checkpoint, checkpoints_invalidate fenceID hget hpast, hpast, rfl⟩
    checkpointFences := fun hget => fences_setStatus hfence status hget }

theorem retireThirdLast_get? {activated : List UUID} {checkpoints : GoMap UUID MemoryCheckpoint}
    {checkpoint} (hget : checkpoints.get? id = some checkpoint)
    (hpast : checkpoint.state ≠ .staged) :
    ∃ checkpoint', (retireThirdLast activated checkpoints).get? id = some checkpoint' ∧
      SameActivation checkpoint checkpoint' := by
  unfold retireThirdLast
  split
  · next retiredID _ _ =>
    split
    · next retired hretired =>
      rw [get?_set]
      by_cases hid : id = retiredID
      · subst hid
        rw [hget, Option.some.injEq] at hretired
        refine ⟨_, if_pos rfl, ?_, ?_⟩
        · exact fun h => by cases h
        · exact hretired ▸ rfl
      · exact ⟨checkpoint, by rw [if_neg hid, hget], hpast, rfl⟩
    · exact ⟨checkpoint, hget, hpast, rfl⟩
  · exact ⟨checkpoint, hget, hpast, rfl⟩

end

end MemoryDomain

open MemoryDomain

/-! ## One step -/

section
variable {s : MemoryStore} {key : DomainKey} {op : Operation} {d d' : MemoryDomain} {id : UUID}

theorem Expiry.tables (hexpiry : Expiry op d d') : d.tables.Grow d'.tables :=
  hexpiry.induction (P := fun d' => d.tables.Grow d'.tables)
    (fun _ _ _ h hfence _ => h.trans (tables_closeFence hfence _ _)) (.refl _)

/-- What an effect of one table files there. -/
theorem Effect.tables {d₀ d₁} (hexpiry : Expiry op d₀ d₁)
    (heffect : Effect s key d₀ op d₁ d') : d₁.tables.Grow d'.tables := by
  -- The guards of some effects speak of the tables before the fences that are due were closed.
  have hactivations : d₁.checkpointActivations = d₀.checkpointActivations :=
    hexpiry.frame MemoryDomain.checkpointActivations fun _ _ _ _ _ => rfl
  have haborts : d₁.checkpointFenceAborts = d₀.checkpointFenceAborts :=
    hexpiry.frame MemoryDomain.checkpointFenceAborts fun _ _ _ _ _ => rfl
  have hfinalizations : d₁.blobUploadFinalizations = d₀.blobUploadFinalizations :=
    hexpiry.frame MemoryDomain.blobUploadFinalizations fun _ _ _ _ _ => rfl
  cases heffect with
  | authority heq =>
    rw [heq]
    exact .refl _
  | testSubscription _ heq => exact ensured heq fun _ => .refl _
  | changeSubscriptionStatus _ _ _ _ hfresh =>
    exact { Tables.Grow.refl d₁.tables with subscriptionChanges := extends_set _ hfresh }
  | requestRebootstrap _ _ hfresh =>
    refine { Tables.Grow.refl d₁.tables with rebootstrapRequests := ?_ }
    intro id r hget
    exact ⟨r.expiresAtMilliseconds, le_rfl, extends_set _ hfresh id r hget⟩
  | @renewRebootstrap _ renewal _ expiresAt _ recovery _ _ hrecovery _ _ hfresh _ hlonger =>
    refine { Tables.Grow.refl d₁.tables with
      rebootstrapRequests := ?_
      rebootstrapRenewals := extends_set _ hfresh }
    intro id r hget
    show ∃ t, _ ∧ (d₁.rebootstrapRequests.set renewal.requestRetryID
      { recovery with expiresAtMilliseconds := expiresAt }).get? id = _
    by_cases hid : id = renewal.requestRetryID
    · subst hid
      have heq : r = recovery := Option.some.inj (hget.symm.trans hrecovery)
      subst heq
      exact ⟨expiresAt, hlonger, get?_set_self _ _ _⟩
    · exact ⟨r.expiresAtMilliseconds, le_rfl, by rw [get?_set_ne _ _ hid]; exact hget⟩
  | cancelRebootstrap hfresh =>
    exact { Tables.Grow.refl d₁.tables with
      rebootstrapCancellations := extends_set _ hfresh }
  | completeRebootstrap _ hfresh =>
    exact { Tables.Grow.refl d₁.tables with
      rebootstrapCompletions := extends_set _ hfresh }
  | createFence hnew _ hfresh =>
    refine { Tables.Grow.refl d₁.tables with
      checkpointFences := ?_
      checkpointFenceRetries := extends_set _ hfresh }
    intro id fence hget
    exact ⟨fence, extends_set _ hnew id fence hget, fence.state.status, rfl⟩
  | abortFence hfence _ hfresh =>
    rw [← haborts] at hfresh
    have hclosed := tables_closeFence hfence .aborted
    exact { hclosed _ with checkpointFenceAborts := extends_set _ hfresh }
  | stage _ _ _ _ hnew =>
    refine { Tables.Grow.refl d₁.tables with checkpoints := ?_ }
    intro id checkpoint hget hpast
    exact ⟨checkpoint, extends_set _ hnew id checkpoint hget, hpast, rfl⟩
  | @activate _ request _ staged _ _ _ _ _ _ hstaged hstate hfence _ _ _ _ _ hfresh =>
    rw [← hactivations] at hfresh
    refine { Tables.Grow.refl d₁.tables with
      checkpoints := ?_
      checkpointActivations := extends_set _ hfresh
      checkpointFences := fun hget => fences_setStatus hfence .activated hget }
    intro id checkpoint hget hpast
    have hne : id ≠ request.checkpointID := by
      rintro rfl
      have heq : checkpoint = staged := Option.some.inj (hget.symm.trans hstaged)
      exact hpast (heq ▸ hstate)
    refine retireThirdLast_get? ?_ hpast
    rw [get?_set_ne _ _ hne]
    exact hget
  | @collect _ request collected _ _ _ hcollected _ _ _ hfresh =>
    refine { Tables.Grow.refl d₁.tables with
      checkpoints := ?_
      checkpointCollections := extends_set _ hfresh }
    intro id checkpoint hget hpast
    show ∃ checkpoint', (d₁.checkpoints.set request.checkpointID _).get? id = _ ∧ _
    by_cases hid : id = request.checkpointID
    · subst hid
      have heq : checkpoint = collected := Option.some.inj (hget.symm.trans hcollected)
      subst heq
      exact ⟨_, get?_set_self _ _ _, hpast, rfl⟩
    · exact ⟨checkpoint, by rw [get?_set_ne _ _ hid]; exact hget, hpast, rfl⟩
  | finalizeExisting _ _ _ _ _ hfresh =>
    rw [← hfinalizations] at hfresh
    exact { Tables.Grow.refl d₁.tables with
      blobUploadFinalizations := extends_set _ hfresh }
  | finalizeNew _ _ _ _ _ _ _ hfresh =>
    rw [← hfinalizations] at hfresh
    unfold MemoryDomain.storeBlob
    split <;> exact { Tables.Grow.refl d₁.tables with
      blobUploadFinalizations := extends_set _ hfresh }
  | commitBlob =>
    unfold MemoryDomain.storeBlob
    split <;> exact .refl _
  | _ => exact .refl _

/-- Nothing recorded in `d` is lost in `d'`. -/
structure Journal (d d' : MemoryDomain) : Prop where
  tables : d.tables.Grow d'.tables
  capabilityChanges : d.capabilityChanges.Extends d'.capabilityChanges

theorem Journal.refl (d : MemoryDomain) : Journal d d := ⟨.refl _, .refl _⟩

theorem Journal.trans {d'' : MemoryDomain} (h : Journal d d') (h' : Journal d' d'') :
    Journal d d'' := ⟨h.tables.trans h'.tables, h.capabilityChanges.trans h'.capabilityChanges⟩

theorem AuthorityChange.capabilityChanges {a a'} (h : AuthorityChange key op a a') :
    a.capabilityChanges.Extends a'.capabilityChanges := by
  cases h with
  | changeCapabilities hfresh _ _ _ hchanges => exact hchanges ▸ extends_set _ hfresh
  | none _ _ hchanges | rotateAdministration _ _ _ _ hchanges
  | rotateMember _ _ _ _ _ _ hchanges | newMember _ _ _ hchanges
  | replaceMember _ _ _ _ _ _ _ _ hchanges | revokeMember _ _ _ hchanges => exact hchanges ▸ .refl _

/-- **Journal.** No step of a domain loses what was recorded. -/
theorem DomainStep.journal (hstep : DomainStep s key op d d') : Journal d d' := by
  refine ⟨?_, hstep.authorityChange.capabilityChanges⟩
  obtain @⟨d₁, hexpiry, heffect⟩ := hstep
  exact hexpiry.tables.trans (heffect.tables hexpiry)

/-- Closing the fences that are due keeps the journal. -/
theorem journal_refresh (d : MemoryDomain) (now : Int) : Journal d (d.refreshMemoryFence now) := by
  have hexpiry : Expiry (.getCheckpointFence ⟨0, 0, 0, []⟩ 0 now) d (d.refreshMemoryFence now) :=
    .due rfl
  refine ⟨hexpiry.tables, ?_⟩
  have hsame : (d.refreshMemoryFence now).capabilityChanges = d.capabilityChanges :=
    hexpiry.frame MemoryDomain.capabilityChanges fun _ _ _ _ _ => rfl
  exact hsame ▸ .refl _

/-! ## Leases -/

/-- The operation asks to renew the lease that was granted under `retryID`. -/
def RenewsLease (key : DomainKey) (retryID : UUID) (op : Operation) : Prop :=
  ∃ credential renewal now, op = .renewSubscriptionRebootstrap credential renewal now ∧
    key = ⟨credential.tenantID, credential.domainID⟩ ∧ renewal.requestRetryID = retryID

/-- Only a renewal extends a lease. -/
theorem DomainStep.lease_kept {r} (hstep : DomainStep s key op d d') (hop : ¬ RenewsLease key id op)
    (hget : d.rebootstrapRequests.get? id = some r) :
    d'.rebootstrapRequests.get? id = some r := by
  obtain @⟨d₁, hexpiry, heffect⟩ := hstep
  rw [← hexpiry.rebootstrapRequests] at hget
  cases heffect with
  | authority heq =>
    rw [heq]
    exact hget
  | testSubscription _ heq => exact ensured heq fun _ => hget
  | requestRebootstrap _ _ hfresh => exact extends_set _ hfresh id r hget
  | renewRebootstrap _ _ _ _ _ hkey =>
    have hne : id ≠ _ := fun hid => hop ⟨_, _, _, rfl, hkey, hid.symm⟩
    exact (get?_set_ne _ _ hne).trans hget
  | commitBlob | finalizeNew =>
    unfold MemoryDomain.storeBlob
    split <;> exact hget
  | _ => exact hget

/-! ## Later states -/

/-- What a domain still has later: its journal, the fences that have ended as they ended, and its
subscriptions, the revoked ones revoked. -/
structure MemoryDomain.Later (d d' : MemoryDomain) : Prop where
  journal : Journal d d'
  ended : ∀ {id fence}, d.checkpointFences.get? id = some fence → fence.state.status ≠ .active →
    d'.checkpointFences.get? id = some fence
  subscriptions : ∀ {id subscription}, id ≠ uuidNil → d.subscriptions.get? id = some subscription →
    ∃ subscription', d'.subscriptions.get? id = some subscription' ∧
      (subscription.status = .revoked → subscription'.status = .revoked)

theorem MemoryDomain.Later.step {d''} (h : Later d d')
    (hkeyed : SubscriptionsKeyed d'.subscriptions)
    (hstep : DomainStep s key op d' d'') : Later d d'' where
  journal := h.journal.trans hstep.journal
  ended hfence hended := fence_closed_step hstep (h.ended hfence hended) hended
  subscriptions hnil hget := by
    obtain ⟨old, hold, hrevoked⟩ := h.subscriptions hnil hget
    obtain ⟨new, hnew, hcases⟩ := (SubscriptionsStep.of_step hkeyed hstep).get? hnil hold
    refine ⟨new, hnew, fun hover => ?_⟩
    replace hover := hrevoked hover
    rcases hcases with rfl | ⟨-, hkept⟩ | ⟨hwaiting, -⟩
    · exact hover
    · exact hkept hover
    · cases hover.symm.trans hwaiting

/-- **Domains go on.** From any state a run reaches, each domain stays over all further operations,
and loses neither what its `Journal` records, nor a fence, whose outcome is final, nor a
subscription, whose revocation is final. -/
theorem domains_later (ttl : Option Int) (earlier later : List Operation) :
    (run Operation.apply (.newMemoryStore ttl) earlier).domains.Evolves Later
      (run Operation.apply (.newMemoryStore ttl) (earlier ++ later)).domains := by
  intro key d hd
  rw [run_append]
  have hrefl : Later d d := ⟨.refl d, fun h _ => h, fun _ h => ⟨_, h, id⟩⟩
  refine domain_history (fun s => s) (fun _ _ => rfl) (I := fun _ d' => Later d d') ?_
    ⟨ttl, earlier, rfl⟩ hd hrefl (along_true later)
  intro s op d₁ d₂ hs _ hd₁ h hstep
  exact h.step (.of_reachable hs hd₁) hstep

end

end FacetsNode.Relay
