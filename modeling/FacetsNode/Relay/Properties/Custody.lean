import FacetsNode.Relay.Properties.Lease

/-!
# Custody of what a collection deletes

Activation freezes the set of subscriptions whose custody a collection has to see. A subscription
that is active at the collection but is not in the set came back or came in between: it completed a
recovery, and the lease it held was on this very checkpoint; or it was created, and starts where the
checkpoint does.

* `Accounted` — the three ways in which an active subscription is accounted for;
* `CustodyState` — every active subscription is, at every moment of a run;
* `custody_of_collect` — so nobody active loses a message it has not got.
-/

namespace FacetsNode.Relay

/-- Subscription `subscriptionID` was created after checkpoint `checkpointID` was activated: at some
moment of the run the one was activated and the other not there. -/
def CreatedAfter (m : Moment) (key : DomainKey) (ops : List Operation)
    (checkpointID subscriptionID : UUID) : Prop :=
  ∃ ops₁ ops₂ d, ops = ops₁ ++ ops₂ ∧ (run Moment.step m ops₁).store.domains.get? key = some d ∧
    checkpointID ∈ d.activatedCheckpoints ∧ d.subscriptions.get? subscriptionID = none

namespace MemoryDomain

variable {s : MemoryStore} {op : Operation} {key : DomainKey} {d d' : MemoryDomain} {t : Int}
  {id : UUID} {c c' : MemoryCheckpoint} {subscription : Subscription}
  {created created' : UUID → UUID → Prop}

/-! ## Accounting for active subscriptions -/

/-- The subscription recovered from `sequence` or later. -/
def RecoveredFrom (d : MemoryDomain) (subscriptionID : UUID) (sequence : Nat) : Prop :=
  ∃ k completion, d.rebootstrapCompletions.get? k = some completion ∧
    completion.subscriptionID = subscriptionID ∧ sequence ≤ completion.recoveryStartSequence

/-- An active subscription, as seen from checkpoint `c`: frozen with it, recovered from it, or
created behind it. -/
inductive Accounted (created : Prop) (d : MemoryDomain) (c : MemoryCheckpoint) (id : UUID)
    (subscription : Subscription) : Prop
  | required (h : (c.required.get? id).isSome = true)
  | recovered (h : d.RecoveredFrom id c.startSequence)
  | created (h : created) (hstart : subscription.startCursor = some (encodeCursor c.startSequence))

/-- Every active subscription is accounted for by the latest checkpoint. -/
def CustodyState (created : UUID → UUID → Prop) (d : MemoryDomain) : Prop :=
  ∀ checkpointID c, d.latestCheckpointID = some checkpointID → d.latestCheckpoint = some c →
    ∀ id subscription, d.subscriptions.get? id = some subscription →
      subscription.status = .active → Accounted (created checkpointID id) d c id subscription

theorem CustodyState.mono (h : CustodyState created d)
    (hcreated : ∀ checkpointID id, created checkpointID id → created' checkpointID id) :
    CustodyState created' d := by
  intro checkpointID c hid hc id subscription hget hactive
  cases h checkpointID c hid hc id subscription hget hactive with
  | required h => exact .required h
  | recovered h => exact .recovered h
  | created h hstart => exact .created (hcreated _ _ h) hstart

theorem RecoveredFrom.mono {sequence : Nat} (h : d.RecoveredFrom id sequence)
    (hcompletions : ∀ {k completion}, d.rebootstrapCompletions.get? k = some completion →
      d'.rebootstrapCompletions.get? k = some completion) : d'.RecoveredFrom id sequence := by
  obtain ⟨k, completion, hget, hrest⟩ := h
  exact ⟨k, completion, hcompletions hget, hrest⟩

/-- The frozen set and the start of a checkpoint outlive its collection. -/
theorem Accounted.collected {p : Prop} (h : Accounted p d c id subscription)
    (hcollected : CollectedFrom c c')
    (hcompletions : ∀ {k completion}, d.rebootstrapCompletions.get? k = some completion →
      d'.rebootstrapCompletions.get? k = some completion) :
    Accounted p d' c' id subscription := by
  cases h with
  | required h => exact .required (hcollected.required ▸ h)
  | recovered h => exact .recovered (hcollected.startSequence ▸ h.mono hcompletions)
  | created h hstart => exact .created h (hcollected.startSequence ▸ hstart)

/-- A step that activates nothing: an active subscription was there before, or is accounted for by
the checkpoint that is the latest. -/
theorem CustodyState.of_sameLatest (h : CustodyState created d) (hlatest : SameLatest d d')
    (hcompletions : ∀ {k completion}, d.rebootstrapCompletions.get? k = some completion →
      d'.rebootstrapCompletions.get? k = some completion)
    (hsubs : ∀ id subscription, d'.subscriptions.get? id = some subscription →
      subscription.status = .active → d.subscriptions.get? id = some subscription ∨
        ∀ checkpointID c, d.latestCheckpointID = some checkpointID → d.latestCheckpoint = some c →
          (d'.RecoveredFrom id c.startSequence ∨ created checkpointID id ∧
            subscription.startCursor = some (encodeCursor c.startSequence))) :
    CustodyState created d' := by
  intro checkpointID c' hid hc' id subscription hget hactive
  obtain ⟨c, hc, hcollected⟩ := hlatest.before hc'
  rw [hlatest.latestID] at hid
  rcases hsubs id subscription hget hactive with hold | hnew
  · exact (h checkpointID c hid hc id subscription hold hactive).collected hcollected hcompletions
  · rcases hnew checkpointID c hid hc with hrecovered | ⟨hcreated, hstart⟩
    · exact .recovered (hcollected.startSequence ▸ hrecovered)
    · exact .created hcreated (hcollected.startSequence ▸ hstart)

/-- A step that touches neither checkpoints nor subscriptions. -/
theorem CustodyState.congr (h : CustodyState created d) (hlatest : SameLatest d d')
    (hcompletions : d'.rebootstrapCompletions = d.rebootstrapCompletions)
    (hsubs : d'.subscriptions = d.subscriptions) : CustodyState created d' :=
  h.of_sameLatest hlatest (fun hget => hcompletions ▸ hget)
    (fun _ _ hget _ => .inl (hsubs ▸ hget))

open GoMap

/-- One subscription is taken out of use. -/
theorem CustodyState.setInactive (h : CustodyState created d) (hlatest : SameLatest d d')
    (hcompletions : d'.rebootstrapCompletions = d.rebootstrapCompletions)
    (hsubs : d'.subscriptions = d.subscriptions.set id subscription)
    (hstatus : subscription.status ≠ .active) : CustodyState created d' := by
  refine h.of_sameLatest hlatest
    (fun hget => hcompletions ▸ hget) fun id' subscription' hget hact => ?_
  rw [hsubs, get?_set] at hget
  split at hget
  · cases hget
    exact absurd hact hstatus
  · exact .inl hget

/-! ## The operations -/

theorem CustodyState.fileSubscription (h : CustodyState created d) (hwf : d.WellFormed)
    {request credential}
    (hcreated : ∀ checkpointID, d.latestCheckpointID = some checkpointID →
      created checkpointID request.subscriptionID) :
    CustodyState created (d.fileSubscription request (d.newSubscription credential request)) := by
  refine h.of_sameLatest (.of_eq rfl rfl) (fun hget => hget) fun id subscription hget hactive => ?_
  have hget' : (d.subscriptions.set request.subscriptionID
    (d.newSubscription credential request)).get? id = some subscription := hget
  rw [get?_set] at hget'
  split at hget'
  · next heq =>
    cases hget'
    subst heq
    -- It starts where the latest checkpoint does.
    exact .inr fun checkpointID c hid hc =>
      .inr ⟨hcreated checkpointID hid, latestCheckpointStartCursor_eq hwf hc⟩
  · exact .inl hget'

/-- The sequence a recovery starts from is the start of the latest checkpoint. -/
theorem LeaseState.recoveryStart_eq (h : LeaseState t d) {memberID retryID r cursor}
    {startSequence : Nat}
    (hsub : d.readableMemberSubscription memberID = .ok subscription)
    (hcursor : subscription.startCursor = some cursor)
    (hstatus : subscription.status = .rebootstrapRequired)
    (hlease : d.ActiveLease t retryID r) (hown : r.subscriptionID = subscription.subscriptionID)
    (hstart : decodeCursor cursor = .ok startSequence) :
    ∃ c, d.latestCheckpoint = some c ∧ startSequence = c.startSequence := by
  obtain ⟨hget, -⟩ := h.keyed.readable hsub
  obtain ⟨c, hc⟩ := h.leases.pinned hlease (hown ▸ hget) hstatus
  refine ⟨c, hc.latest, ?_⟩
  have hsame := hc.cursor
  rw [hcursor, Option.some.injEq] at hsame
  rw [hsame, decodeCursor_encodeCursor (h.coverage.latest h.wellFormed hc.latest).2] at hstart
  exact (Except.ok.inj hstart).symm

theorem CustodyState.fileCompletion (h : CustodyState created d)
    {completion} {startSequence : Nat} (now : Int)
    (hfresh : d.rebootstrapCompletions.get? completion.retryID = none)
    (hc : ∃ c, d.latestCheckpoint = some c ∧ startSequence = c.startSequence) :
    CustodyState created (d.fileRebootstrapCompletion completion
      (restoredSubscription subscription now) startSequence) := by
  obtain ⟨c, hc, rfl⟩ := hc
  refine h.of_sameLatest (.of_eq rfl rfl) ?_ fun id subscription' hget _ => ?_
  · intro k completion' hget
    refine (get?_set_ne _ _ ?_).trans hget
    rintro rfl
    rw [hfresh] at hget
    cases hget
  · have hget' : (d.subscriptions.set subscription.subscriptionID
      (restoredSubscription subscription now)).get? id = some subscription' := hget
    rw [get?_set] at hget'
    split at hget'
    · next heq =>
      subst heq
      refine .inr fun _ c' _ hc' => .inl ⟨_, _, get?_set_self _ _ _, rfl, ?_⟩
      rw [hc, Option.some.injEq] at hc'
      rw [hc']
    · exact .inl hget'

/-- Whoever is active at the activation is frozen with the checkpoint. -/
theorem CustodyState.fileActivation (hwf : d.WellFormed) {checkpoint fence request result}
    (hcheckpoint : d.checkpoints.get? request.checkpointID = some checkpoint)
    (hstate : checkpoint.state = .staged) :
    CustodyState created (d.fileActivation checkpoint fence request result) := by
  intro checkpointID c _ hc id subscription hget hactive
  refine .required ?_
  have hlatest := hwf.checkpoints.latest_fileActivation fence result hcheckpoint hstate
  rw [hlatest, Option.some.injEq] at hc
  rw [← hc]
  have hfrozen : (d.subscriptions.filter (fun _ s => decide (s.status = .active))).get? id =
      some subscription := (get?_filter _ _).mpr ⟨hget, decide_eq_true hactive⟩
  show ((mapValues _ _).get? id).isSome = true
  rw [get?_mapValues, hfrozen]
  rfl

theorem CustodyState.step (h : CustodyState created d) (hstate : LeaseState t d)
    (hadmits : ∀ now ∈ op.now, t ≤ now) (hhelper : op.isTestHelper = false)
    (hstep : DomainStep s key op d d')
    (hgrow : ∀ checkpointID id, created checkpointID id → created' checkpointID id)
    (hcreated : ∀ checkpointID id, d.latestCheckpointID = some checkpointID →
      d.subscriptions.get? id = none → created' checkpointID id) :
    CustodyState created' d' := by
  replace h := h.mono hgrow
  obtain @⟨d₁, hexpiry, heffect⟩ := hstep
  have hsame := SameLatest.of_expiry hstate.wellFormed hexpiry
  replace h := h.congr hsame hexpiry.rebootstrapCompletions hexpiry.subscriptions
  have hwf := hstate.wellFormed.expiry hexpiry
  have hstate₁ := hstate.expiry hadmits hexpiry
  cases heffect with
  | authority heq =>
    rw [heq]
    exact h.congr (.of_eq rfl rfl) rfl rfl
  | testSubscription hop =>
    rw [hhelper] at hop
    cases hop
  | createSubscription _ hnew =>
    refine h.fileSubscription hwf fun checkpointID hid => hcreated checkpointID _ ?_ ?_
    · rw [← hsame.latestID]; exact hid
    · rw [← hexpiry.subscriptions]; exact hnew
  | changeSubscriptionStatus _ _ _ hstatus =>
    exact h.setInactive (.of_eq rfl rfl) rfl rfl hstatus
  | requestRebootstrap =>
    exact h.setInactive (.of_eq rfl rfl) rfl rfl (by simp [fencedSubscription])
  | revokeMembership => exact h.setInactive (.of_eq rfl rfl) rfl rfl (by simp)
  | completeRebootstrap hsub hfresh hcursor hstatus hrecovery hown hactive hstart =>
    exact h.fileCompletion _ hfresh
      (hstate₁.recoveryStart_eq hsub hcursor hstatus ⟨hrecovery, hactive⟩ hown hstart)
  | stage _ _ _ _ hnew => exact h.congr (.fileCheckpoint hwf hnew) rfl rfl
  | activate _ _ _ hcheckpoint hstaged => exact .fileActivation hwf hcheckpoint hstaged
  | collect hcheckpoint hplan =>
    exact (h.congr (.collect hplan hcheckpoint _ _) rfl rfl).congr (.of_eq rfl rfl) rfl rfl
  | @abortFence _ request now fence =>
    have hsame := SameLatest.closeFence hwf request.fenceID fence .aborted request.fenceID
    exact (h.congr hsame rfl rfl).congr (.of_eq rfl rfl) rfl rfl
  | _ => exact h.congr (.of_eq rfl rfl) rfl rfl

theorem CustodyState.of_run {ttl : Option Int} {start : Int} {ops : List Operation}
    (hops : Along Moment.step (fun m op => m.Admits op ∧ op.isTestHelper = false)
      (Moment.new ttl start) ops)
    (hd : (run Moment.step (Moment.new ttl start) ops).store.domains.get? key = some d) :
    CustodyState (CreatedAfter (Moment.new ttl start) key ops) d := by
  refine domain_induction Moment.store (fun _ _ => rfl)
    (I := fun ops d => CustodyState (CreatedAfter (Moment.new ttl start) key ops) d)
    (Reachable.new ttl) (newMemoryStore_get? ttl key) ?_ ?_ hops hd
  · intro ops p _ checkpointID c hid
    simp [create, latestCheckpointID] at hid
  · rintro ops op d d' hops ⟨hadmits, hhelper⟩ hd h hstep
    have hstate := LeaseState.of_run (hops.mono fun _ _ h => h.1) hd
    refine h.step hstate hadmits hhelper hstep ?_ ?_
    · rintro checkpointID id ⟨ops₁, ops₂, d₁, rfl, hrest⟩
      exact ⟨ops₁, ops₂ ++ [op], d₁, List.append_assoc _ _ _, hrest⟩
    · intro checkpointID id hlatest hnone
      exact ⟨ops, [op], d, rfl, hd, List.mem_of_getLast? hlatest, hnone⟩

/-! ## Collection -/

/-- A required subscription that is active has custody of everything an eligible plan lists. -/
theorem hasCustody_of_eligible {plan checkpointID messageID m}
    (hcheckpoint : d.checkpoints.get? checkpointID = some c)
    (hplan : d.memoryCheckpointPlan checkpointID = .ok plan) (heligible : plan.eligible = true)
    (hrequired : (c.required.get? id).isSome = true)
    (hsub : d.subscriptions.get? id = some subscription) (hactive : subscription.status = .active)
    (hm : c.deletionMessages.get? messageID = some m) : d.hasCustody id m = true := by
  obtain ⟨c', hget, -, -, hmissing⟩ := memoryCheckpointPlan_eq_ok hplan
  rw [hcheckpoint] at hget
  cases hget
  rw [heligible, eq_comm, List.isEmpty_iff] at hmissing
  by_contra hnot
  -- Otherwise the subscription would be listed as missing.
  have hmem : id ∈ d.missingCustody c := by
    unfold missingCustody
    rw [List.mem_insertionSort, List.mem_filter, List.mem_map]
    obtain ⟨u, hu⟩ := Option.isSome_iff_exists.mp hrequired
    refine ⟨⟨(id, u), mem_pairs.mpr hu, rfl⟩, decide_eq_true ⟨⟨subscription, hsub, hactive⟩, ?_⟩⟩
    refine any_pairs.mpr ⟨messageID, m, hm, ?_⟩
    simpa using hnot
  rw [hmissing] at hmem
  cases hmem

/-- The ways in which a subscription can do without message `m` of the store. -/
inductive Custody (created : Prop) (d : MemoryDomain) (id : UUID) (subscription : Subscription)
    (m : MemoryMessage) : Prop
  | published (h : m.publisherSubscription = id)
  | acknowledged (h : (d.acknowledgmentsOf m).get? id = some .accepted ∨
      (d.acknowledgmentsOf m).get? id = some .applied)
  | recovered (h : d.RecoveredFrom id m.sequence)
  | created {cursor n} (h : created) (hcursor : subscription.startCursor = some cursor)
      (hn : decodeCursor cursor = .ok n) (hle : m.sequence ≤ n)

theorem Custody.of_hasCustody {p : Prop} {m} (h : d.hasCustody id m = true) :
    Custody p d id subscription m := by
  unfold hasCustody at h
  rw [Bool.or_eq_true, Bool.or_eq_true] at h
  rcases h with (hpublished | hcovers) | hreceipt
  · exact .published (of_decide_eq_true hpublished)
  · obtain ⟨k, completion, hget, h⟩ := any_pairs.mp hcovers
    exact .recovered ⟨k, completion, hget, of_decide_eq_true h⟩
  · obtain ⟨stage, hstage⟩ := Option.isSome_iff_exists.mp hreceipt
    cases stage with
    | accepted => exact .acknowledged (.inl hstage)
    | applied => exact .acknowledged (.inr hstage)

/-- Accounted for by a checkpoint, in custody of what the checkpoint covers. -/
theorem Accounted.custody {p : Prop} {m} (h : Accounted p d c id subscription)
    (hrequired : (c.required.get? id).isSome = true → d.hasCustody id m = true)
    (hcovered : m.sequence ≤ c.startSequence) (hmaximum : c.startSequence ≤ maximumSequence) :
    Custody p d id subscription m := by
  cases h with
  | required h => exact .of_hasCustody (hrequired h)
  | recovered h =>
    obtain ⟨k, completion, hget, hown, hle⟩ := h
    exact .recovered ⟨k, completion, hget, hown, hcovered.trans hle⟩
  | created h hstart =>
    exact .created h hstart (decodeCursor_encodeCursor hmaximum) hcovered

/-- **Custody.** Whoever is active when a collection deletes a message has published it, has given a
receipt for it, has recovered past it, or was created later and starts past it. -/
theorem custody_of_collect {ttl : Option Int} {start : Int} {ops : List Operation}
    {credential : AdministrationCredential} {request : CheckpointCollectionRequest}
    {m : MemoryMessage}
    (hops : Along Moment.step (fun m op => m.Admits op ∧ op.isTestHelper = false)
      (Moment.new ttl start) ops)
    (hd : (run Moment.step (Moment.new ttl start) ops).store.domains.get? key = some d)
    (hd' : ((Operation.collectCheckpoint credential request).apply
      (run Moment.step (Moment.new ttl start) ops).store).domains.get? key = some d')
    (hm : m ∈ d.messages) (hdeleted : m ∉ d'.messages)
    (hsub : d.subscriptions.get? id = some subscription) (hactive : subscription.status = .active) :
    Custody (CreatedAfter (Moment.new ttl start) key ops request.checkpointID id) d id
      subscription m := by
  have hcustody := CustodyState.of_run hops hd
  have hstate := LeaseState.of_run (hops.mono fun _ _ h => h.1) hd
  obtain ⟨d₁, hd₁, hstep⟩ := ((Moment.reachable_run ttl start ops).apply_step
    (.collectCheckpoint credential request)).domain_step hd
  rw [hd'] at hd₁
  cases hd₁
  obtain @⟨d₁, hexpiry, heffect⟩ := hstep
  cases hexpiry with
  | due hnow => cases hnow
  | none =>
    cases heffect with
    | unchanged => exact absurd hm hdeleted
    | authority heq =>
      rw [heq] at hdeleted
      exact absurd hm hdeleted
    | testSubscription hop => cases hop
    | @collect _ _ c plan _ _ hcheckpoint hplan heligible =>
      obtain ⟨hlatestID, hlatest⟩ := latestCheckpoint_of_plan hplan hcheckpoint
      -- The message is in the batch, so it is frozen with the checkpoint.
      have hbatch : m.messageID ∈ (collectedMessages c request.maximumMessageCount.toNat).map
          MemoryMessage.messageID := by
        by_contra hnot
        exact hdeleted (List.mem_filter.mpr ⟨hm, decide_eq_true hnot⟩)
      obtain ⟨m', hm', hid⟩ := List.mem_map.mp hbatch
      obtain ⟨hfrozen, hstored, hle, -⟩ :=
        hstate.wellFormed.checkpoints.of_mem_collectedMessages hlatest hm'
      rw [hstate.wellFormed.messages.log.eq_of_messageID hstored hm hid] at hfrozen hle
      obtain ⟨hstart, hmaximum⟩ := hstate.coverage.latest hstate.wellFormed hlatest
      refine (hcustody _ c hlatestID hlatest id subscription hsub hactive).custody ?_
        (hstart ▸ hle) hmaximum
      exact fun hrequired =>
        hasCustody_of_eligible hcheckpoint hplan heligible hrequired hsub hactive hfrozen

end MemoryDomain

/-- The collection of the sample checkpoint; its plan lists the one message it covers. -/
def Sample.collection : CheckpointCollectionRequest :=
  ⟨80, 60, checkpointPlanDigest 1 2 60 1 [⟨1, 100, 1⟩] [], 10, 10, 20⟩

open Sample

theorem custody_sample : ∃ d d' m subscription, (run Moment.step (Moment.new none 0)
        (setup ++ activation)).store.domains.get? ⟨1, 2⟩ = some d ∧
      ((Operation.collectCheckpoint administrator collection).apply
        (run Moment.step (Moment.new none 0)
          (setup ++ activation)).store).domains.get? ⟨1, 2⟩ = some d' ∧
      (m ∈ d.messages ∧ m ∉ d'.messages) ∧
      (d.subscriptions.get? 31 = some subscription ∧ subscription.status = .active) ∧
      MemoryDomain.Custody (CreatedAfter (Moment.new none 0) ⟨1, 2⟩
        (setup ++ activation) collection.checkpointID 31) d 31 subscription m := by
  have hops : Along Moment.step (fun m op => m.Admits op ∧ op.isTestHelper = false)
      (Moment.new none 0) (setup ++ activation) := by decide +kernel
  obtain ⟨d, hd, d', hd', m, hm, subscription, hsub, hgone, hactive⟩ :
      ∃ d ∈ (run Moment.step (Moment.new none 0)
        (setup ++ activation)).store.domains.get? ⟨1, 2⟩,
      ∃ d' ∈ ((Operation.collectCheckpoint administrator collection).apply
        (run Moment.step (Moment.new none 0) (setup ++ activation)).store).domains.get? ⟨1, 2⟩,
      ∃ m ∈ d.messages, ∃ subscription ∈ d.subscriptions.get? 31,
        m.messageID ∉ d'.messages.map MemoryMessage.messageID ∧
        subscription.status = .active := by decide +kernel
  have hdeleted : m ∉ d'.messages := fun hmem => hgone (List.mem_map_of_mem hmem)
  exact ⟨d, d', m, subscription, hd, hd', ⟨hm, hdeleted⟩, ⟨hsub, hactive⟩,
    MemoryDomain.custody_of_collect hops hd hd' hm hdeleted hsub hactive⟩

end FacetsNode.Relay
