import FacetsNode.Relay.Properties.Representation

/-!
# Delivery by cursor

A reader polls `fetch` with the cursor it was last given. The page is cut off by its limit, and the
cursor it returns by the boundary of the active fence, so nothing is skipped: whatever a returned
cursor has passed is in the page.

* `BoundariesOK` — past the boundary of an active fence lies exactly what the fence holds;
* `fetch_eq_ok` — what a successful `fetch` read and answered;
* `fetch_delivers` — the contract of a page.
-/

namespace FacetsNode.Relay

open Attempt

/-- Where a subscription starts to read; without a start cursor, at the beginning. -/
def Subscription.startSequence (s : Subscription) : Nat :=
  match s.startCursor with
  | none => 0
  | some cursor => (decodeCursor cursor).toOption.getD 0

open List

namespace MemoryDomain

variable {s : MemoryStore} {op : Operation} {key : DomainKey} {d d' : MemoryDomain} {now : Int}
  {id fenceID : UUID} {fence : MemoryCheckpointFence} {subscription : Subscription}

/-! ## Boundaries -/

/-- Fence `id` was opened at sequence `b`, and holds exactly what was stored since. -/
structure Boundary (d : MemoryDomain) (id : UUID) (fence : MemoryCheckpointFence) (b : Nat) :
    Prop where
  cursor : fence.state.boundaryCursor = encodeCursor b
  passed : b ≤ d.nextSequence
  held : ∀ m ∈ d.messages, b < m.sequence ↔ m.checkpointFenceID = some id

/-- Every active fence has its boundary. -/
def BoundariesOK (d : MemoryDomain) : Prop :=
  ∀ id fence, d.checkpointFences.get? id = some fence → fence.state.status = .active →
    ∃ b, d.Boundary id fence b

/-- Messages may go and the counter may grow. -/
theorem Boundary.of_subset {b : Nat} (h : d.Boundary id fence b)
    (hmessages : ∀ m ∈ d'.messages, m ∈ d.messages) (hnext : d.nextSequence ≤ d'.nextSequence) :
    d'.Boundary id fence b :=
  ⟨h.cursor, h.passed.trans hnext, fun m hm => h.held m (hmessages m hm)⟩

/-- Any change that opens no fence and stores no message. -/
theorem BoundariesOK.of_subset (h : d.BoundariesOK)
    (hfences : ∀ {id fence}, d'.checkpointFences.get? id = some fence →
      fence.state.status = .active → d.checkpointFences.get? id = some fence)
    (hmessages : ∀ m ∈ d'.messages, m ∈ d.messages) (hnext : d.nextSequence ≤ d'.nextSequence) :
    d'.BoundariesOK := by
  intro id fence hget hactive
  obtain ⟨b, hb⟩ := h id fence (hfences hget hactive) hactive
  exact ⟨b, hb.of_subset hmessages hnext⟩

theorem BoundariesOK.congr (h : d.BoundariesOK) (hsame : SameContent d d') : d'.BoundariesOK :=
  h.of_subset (fun hget _ => hsame.fences ▸ hget) (fun _ hm => hsame.messages ▸ hm)
    hsame.nextSequence.ge

/-- Ending a fence, in whichever way, opens none. -/
theorem get?_of_setStatus {fences : GoMap UUID MemoryCheckpointFence} {id' fence' status}
    (hstatus : status ≠ .active)
    (hget : (fences.set id { fence with state := { fence.state with status := status } }).get? id' =
      some fence') (hactive : fence'.state.status = .active) : fences.get? id' = some fence' := by
  rw [GoMap.get?_set] at hget
  split at hget
  · cases hget
    exact absurd hactive hstatus
  · exact hget

theorem BoundariesOK.closeFence (h : d.BoundariesOK) (id : UUID) (fence : MemoryCheckpointFence)
    (status : CheckpointFenceStatus) (fenceID : UUID) (hstatus : status ≠ .active) :
    (d.closeFence id fence status fenceID).BoundariesOK :=
  h.of_subset (fun hget hactive => get?_of_setStatus hstatus hget hactive)
    (fun _ hm => mem_of_mem_filter hm) le_rfl

theorem BoundariesOK.expiry (h : d.BoundariesOK) (hexpiry : Expiry op d d') : d'.BoundariesOK :=
  hexpiry.induction (P := fun d => d.BoundariesOK)
    (fun _ id fence h _ _ => h.closeFence id fence .expired _ (by decide)) h

/-- When nobody else's fence is active, what is stored now is held by the fence that is. -/
theorem FencesOK.held_of_active (h : FencesOK d.checkpointFences) {subscriptionID}
    (hfence : d.checkpointFences.pairs.any (fun p =>
      p.2.state.status = .active ∧ p.2.holderSubscriptionID ≠ subscriptionID) = false)
    (hget : d.checkpointFences.get? id = some fence) (hactive : fence.state.status = .active) :
    (d.memoryActiveFenceForSubscription subscriptionID).map (fun f => f.state.fenceID) =
      some id := by
  have hholder : fence.holderSubscriptionID = subscriptionID := by
    by_contra hne
    have hany : d.checkpointFences.pairs.any (fun p =>
        p.2.state.status = .active ∧ p.2.holderSubscriptionID ≠ subscriptionID) = true :=
      GoMap.any_pairs.mpr ⟨id, fence, hget, decide_eq_true ⟨hactive, hne⟩⟩
    rw [hany] at hfence
    cases hfence
  cases hfind : d.memoryActiveFenceForSubscription subscriptionID with
  | none =>
    unfold memoryActiveFenceForSubscription at hfind
    rw [Option.map_eq_none_iff, List.find?_eq_none] at hfind
    exact absurd (decide_eq_true ⟨hactive, hholder⟩) (hfind _ (GoMap.mem_pairs.mpr hget))
  | some fence' =>
    obtain ⟨id', hget', hactive', -⟩ := memoryActiveFenceForSubscription_eq_some hfind
    rw [Option.map_some, h.keyed hget', h.one hget' hget hactive' hactive]

theorem BoundariesOK.storeMessage (h : d.BoundariesOK) (hfences : FencesOK d.checkpointFences)
    {credential envelope} {byteCount : Int} {subscriptionID}
    (hfence : d.checkpointFences.pairs.any (fun p =>
      p.2.state.status = .active ∧ p.2.holderSubscriptionID ≠ subscriptionID) = false) :
    (d.storeMessage (d.newMessage credential envelope byteCount subscriptionID)).BoundariesOK := by
  intro id fence hget hactive
  obtain ⟨b, hb⟩ := h id fence hget hactive
  refine ⟨b, hb.cursor, Nat.le_succ_of_le hb.passed, fun m hm => ?_⟩
  rcases mem_append.mp hm with hm | hm
  · exact hb.held m hm
  · rw [mem_singleton] at hm
    subst hm
    -- The new message is past every boundary, and the one active fence holds it.
    exact iff_of_true (Nat.lt_succ_of_le hb.passed) (hfences.held_of_active hfence hget hactive)

theorem BoundariesOK.fileFence (h : d.WellFormed) {request holder} {now lifetime : Int}
    (hnew : d.checkpointFences.get? request.fenceID = none)
    (hidle : d.checkpointFences.pairs.any (fun p => p.2.state.status = .active) = false) :
    (d.fileFence (d.newFence request holder now lifetime)).BoundariesOK := by
  intro id fence hget hactive
  have hget' : (d.checkpointFences.set request.fenceID
    (d.newFence request holder now lifetime)).get? id = some fence := hget
  rw [GoMap.get?_set] at hget'
  split at hget'
  · next hid =>
    cases hget'
    refine ⟨d.nextSequence, rfl, le_rfl, fun m hm => iff_of_false ?_ ?_⟩
    · exact not_lt.mpr (h.messages.log.bounded m hm)
    · exact (h.messages.live m hm).ne_of_none (hid ▸ hnew)
  · have hany : d.checkpointFences.pairs.any (fun p => p.2.state.status = .active) = true :=
      GoMap.any_pairs.mpr ⟨id, fence, hget', decide_eq_true hactive⟩
    rw [hany] at hidle
    cases hidle

theorem BoundariesOK.step (h : d.BoundariesOK) (hwf : d.WellFormed)
    (hstep : DomainStep s key op d d') : d'.BoundariesOK := by
  obtain ⟨hexpiry, heffect⟩ := hstep
  replace h := h.expiry hexpiry
  have hwf₁ := hwf.expiry hexpiry
  cases heffect with
  | authority heq =>
    rw [heq]
    exact h.congr (by constructor <;> rfl)
  | testSubscription _ heq => exact ensured heq fun _ => h.congr (by constructor <;> rfl)
  | publish _ _ _ _ _ hfence => exact h.storeMessage hwf₁.fences hfence
  | createFence hnew hidle => exact BoundariesOK.fileFence hwf₁ hnew hidle
  | @abortFence _ request now fence =>
    have hclosed := h.closeFence request.fenceID fence .aborted request.fenceID (by decide)
    exact hclosed.congr (by constructor <;> rfl)
  | activate =>
    exact h.of_subset (fun hget hactive => get?_of_setStatus (by decide) hget hactive)
      (fun _ hm => hm) le_rfl
  | collect =>
    exact h.of_subset (fun hget _ => hget) (fun _ hm => mem_of_mem_filter hm) le_rfl
  | _ => exact h.of_subset (fun hget _ => hget) (fun _ hm => hm) le_rfl

theorem BoundariesOK.of_reachable (hs : Reachable s) (hd : s.domains.get? key = some d) :
    d.BoundariesOK := by
  refine (hs.domain_invariant (I := fun d => d.WellFormed ∧ d.BoundariesOK) (fun p _ => ?_) ?_ hd).2
  · refine ⟨WellFormed.create p, fun id fence hget => ?_⟩
    simp [create] at hget
  · rintro s op key d d' ⟨hwf, h⟩ hstep
    exact ⟨hwf.step hstep, h.step hwf hstep⟩

/-! ## The watermark -/

theorem boundWatermark_le (watermark : Nat) (fence : MemoryCheckpointFence) :
    boundWatermark watermark fence ≤ watermark := by
  unfold boundWatermark
  split
  · split
    · split
      · next hlt => exact le_of_lt hlt
      · exact le_rfl
    · exact le_rfl
  · exact le_rfl

theorem boundWatermark_le_boundary {b : Nat} (watermark : Nat)
    (hactive : fence.state.status = .active)
    (hb : decodeCursor fence.state.boundaryCursor = .ok b) : boundWatermark watermark fence ≤ b := by
  unfold boundWatermark
  rw [if_pos hactive, hb]
  dsimp only
  split
  · exact le_rfl
  · next hge => exact not_lt.mp hge

theorem foldl_boundWatermark_le (fences : List MemoryCheckpointFence) (watermark : Nat) :
    fences.foldl boundWatermark watermark ≤ watermark := by
  induction fences generalizing watermark with
  | nil => exact le_rfl
  | cons fence fences ih => exact (ih _).trans (boundWatermark_le _ _)

/-- The watermark stops at the boundary of every active fence. -/
theorem visibleHighWatermark_le {b : Nat} (hget : d.checkpointFences.get? id = some fence)
    (hactive : fence.state.status = .active)
    (hb : decodeCursor fence.state.boundaryCursor = .ok b) : d.visibleHighWatermark ≤ b := by
  have hloop : ∀ (fences : List MemoryCheckpointFence) (watermark : Nat), fence ∈ fences →
      fences.foldl boundWatermark watermark ≤ b := by
    intro fences
    induction fences with
    | nil => intro _ hmem; cases hmem
    | cons fence' fences ih =>
      intro watermark hmem
      rw [foldl_cons]
      rcases mem_cons.mp hmem with rfl | hmem
      · exact (foldl_boundWatermark_le _ _).trans (boundWatermark_le_boundary _ hactive hb)
      · exact ih _ hmem
  exact hloop _ _ (mem_map_of_mem (GoMap.mem_pairs.mpr hget))

/-! ## Pages -/

/-- What is not in the first part of a sorted list is past its last element. -/
theorem mem_take_of_le_getLast {l : List MemoryMessage} {k : Nat}
    (hl : l.Pairwise (fun m m' => m.sequence < m'.sequence)) {m last} (hm : m ∈ l)
    (hlast : (l.take k).getLast? = some last) (hle : m.sequence ≤ last.sequence) :
    m ∈ l.take k := by
  by_contra hnot
  rw [← take_append_drop k l] at hl hm
  have hdrop := (mem_append.mp hm).resolve_left hnot
  have hlt := (pairwise_append.mp hl).2.2 last (mem_of_getLast? hlast) m hdrop
  omega

/-- A page that is not full has everything. -/
theorem take_of_length_ne {l : List MemoryMessage} {k : Nat} (h : (l.take k).length ≠ k) :
    l.take k = l := by
  rw [length_take] at h
  exact take_of_length_le (by omega)

section Page
variable {start limit : Nat}

/-- The cursor of a page: its last message if it is full, the watermark if not. -/
theorem fetchPage_nextSequence (d : MemoryDomain) (subscription : Subscription) (start : Nat)
    (now : Int) (hlimit : 0 < limit) :
    (∃ last ∈ d.messages, d.deliverable subscription start now last = true ∧
        ((d.messages.filter (d.deliverable subscription start now)).take limit).getLast? =
          some last ∧
        (d.fetchPage subscription start limit now).nextSequence = last.sequence) ∨
      ((d.messages.filter (d.deliverable subscription start now)).take limit =
          d.messages.filter (d.deliverable subscription start now) ∧
        (d.fetchPage subscription start limit now).nextSequence =
          max start d.visibleHighWatermark) := by
  unfold fetchPage
  dsimp only
  split
  · next hfull =>
    cases hlast : ((d.messages.filter
        (d.deliverable subscription start now)).take limit).getLast? with
    | none =>
      rw [List.getLast?_eq_none_iff] at hlast
      rw [hlast] at hfull
      exact absurd hfull.symm (by simpa using hlimit.ne')
    | some last =>
      have hmem := mem_filter.mp (mem_of_mem_take (mem_of_getLast? hlast))
      exact .inl ⟨last, hmem.1, hmem.2, rfl, rfl⟩
  · next hshort => exact .inr ⟨take_of_length_ne hshort, rfl⟩

variable {m : MemoryMessage}

/-- Whatever the cursor has passed and the loop does not skip is in the page. -/
theorem mem_fetchPage (hwf : d.WellFormed) (hlimit : 0 < limit)
    (hm : m ∈ d.messages) (hdeliverable : d.deliverable subscription start now m = true)
    (hle : m.sequence ≤ (d.fetchPage subscription start limit now).nextSequence) :
    m.message ∈ (d.fetchPage subscription start limit now).messages := by
  have hfilter : m ∈ d.messages.filter (d.deliverable subscription start now) :=
    mem_filter.mpr ⟨hm, hdeliverable⟩
  refine mem_map_of_mem (f := MemoryMessage.message) ?_
  rcases fetchPage_nextSequence d subscription start now hlimit with ⟨last, -, -, hlast, hnext⟩ |
    ⟨hall, -⟩
  · exact mem_take_of_le_getLast (hwf.messages.log.sorted.filter _) hfilter hlast (hnext ▸ hle)
  · exact hall.symm ▸ hfilter

theorem fetchPage_increasing (hwf : d.WellFormed) :
    (d.fetchPage subscription start limit now).messages.Pairwise
      (fun m m' => m.sequence < m'.sequence) := by
  unfold fetchPage
  rw [pairwise_map]
  exact (hwf.messages.log.sorted.filter _).sublist (take_sublist _ _)

theorem start_lt_of_deliverable
    (h : d.deliverable subscription start now m = true) : start < m.sequence := by
  unfold deliverable at h
  simp only [Bool.and_eq_true, decide_eq_true_iff] at h
  exact h.1.1.1

theorem fenceVisible_of_deliverable (h : d.deliverable subscription start now m = true) :
    d.fenceVisible m.checkpointFenceID = true := by
  unfold deliverable at h
  rw [Bool.and_eq_true] at h
  exact h.2

/-- The cursor does not go back. -/
theorem start_le_fetchPage (hlimit : 0 < limit) :
    start ≤ (d.fetchPage subscription start limit now).nextSequence := by
  rcases fetchPage_nextSequence d subscription start now hlimit with ⟨last, -, hlast, -, hnext⟩ |
    ⟨-, hnext⟩
  · rw [hnext]
    exact (start_lt_of_deliverable hlast).le
  · rw [hnext]
    exact le_max_left _ _

/-- The message is held by a fence that is still active. -/
def Quarantined (d : MemoryDomain) (m : MemoryMessage) : Prop :=
  ∃ fence ∈ m.checkpointFenceID.bind d.checkpointFences.get?, fence.state.status = .active

instance (d : MemoryDomain) (m : MemoryMessage) : Decidable (d.Quarantined m) :=
  inferInstanceAs (Decidable (∃ fence ∈ m.checkpointFenceID.bind d.checkpointFences.get?,
    fence.state.status = .active))

/-- A stored message is readable or quarantined. -/
theorem WellFormed.visible_or_quarantined (hwf : d.WellFormed)
    (hm : m ∈ d.messages) : d.fenceVisible m.checkpointFenceID = true ∨ d.Quarantined m := by
  have hlive := hwf.messages.live m hm
  cases hfence : m.checkpointFenceID with
  | none => exact .inl rfl
  | some id =>
    obtain ⟨fence, hget, hstatus⟩ := hlive id hfence
    rcases hstatus with hactive | hactivated
    · exact .inr ⟨fence, Option.bind_eq_some_iff.mpr ⟨id, hfence, hget⟩, hactive⟩
    · refine .inl (fenceVisible_iff.mpr fun id' hid' => ?_)
      cases hid'
      exact ⟨fence, hget, hactivated⟩

/-- A cursor within range stays below every quarantined message it was below at the start. -/
theorem fetchPage_lt_of_quarantined (hboundaries : d.BoundariesOK) (hlimit : 0 < limit)
    (hcursor : (d.fetchPage subscription start limit now).nextSequence ≤ maximumSequence)
    (hm : m ∈ d.messages) (hquarantined : d.Quarantined m) (hstart : start < m.sequence) :
    (d.fetchPage subscription start limit now).nextSequence < m.sequence := by
  obtain ⟨fence, hbind, hactive⟩ := hquarantined
  obtain ⟨id, hid, hget⟩ := Option.bind_eq_some_iff.mp hbind
  obtain ⟨b, hb⟩ := hboundaries id fence hget hactive
  have hpast : b < m.sequence := (hb.held m hm).mpr hid
  by_cases hrange : b ≤ maximumSequence
  · rcases fetchPage_nextSequence d subscription start now hlimit with ⟨last, hmem, hlast, -,
      hnext⟩ | ⟨-, hnext⟩
    · -- The last message of a full page is visible, so the fence does not hold it.
      have hne := ne_of_fenceVisible hget hactive (fenceVisible_of_deliverable hlast)
      have hbefore : last.sequence ≤ b := not_lt.mp fun h => hne ((hb.held last hmem).mp h)
      omega
    · have hdecode : decodeCursor fence.state.boundaryCursor = .ok b :=
        hb.cursor ▸ decodeCursor_encodeCursor hrange
      have hbefore := visibleHighWatermark_le hget hactive hdecode
      rw [hnext]
      exact max_lt hstart (lt_of_le_of_lt hbefore hpast)
  · omega

end Page

/-! ## Fetch -/

theorem readableMemberSubscription_of_active {memberID}
    (h : d.activeMemberSubscription memberID = .ok subscription) :
    d.readableMemberSubscription memberID = .ok subscription ∧ subscription.status = .active := by
  obtain ⟨subscription', hreadable, h⟩ := bind_eq_ok.mp h
  obtain ⟨_, hactive, heq⟩ := bind_eq_ok.mp h
  cases heq
  exact ⟨hreadable, not_not.mp (rejectWhen_eq_ok.mp hactive)⟩

/-- An active subscription reads from its start cursor or the given one, whichever is later. -/
theorem fetchStart_of_active {afterSequence start : Nat} (hactive : subscription.status = .active)
    (h : fetchStart subscription afterSequence = .ok start) :
    start = max afterSequence subscription.startSequence := by
  unfold fetchStart at h
  unfold Subscription.startSequence
  cases hcursor : subscription.startCursor with
  | none =>
    rw [hcursor] at h
    cases h
    exact (max_eq_left (Nat.zero_le _)).symm
  | some cursor =>
    rw [hcursor] at h
    obtain ⟨n, hn, h⟩ := bind_eq_ok.mp h
    rw [if_neg (by rw [hactive]; decide)] at h
    cases h
    dsimp only
    rw [hn, max_comm]
    rfl

/-- To an active subscription everything readable is delivered but what it published. -/
theorem deliverable_of_active {start : Nat} (hactive : subscription.status = .active) {m} :
    d.deliverable subscription start now m = true ↔ start < m.sequence ∧
      m.publisherSubscription ≠ subscription.subscriptionID ∧
      d.fenceVisible m.checkpointFenceID = true := by
  have hrecovery : d.memorySubscriptionHasAuthorizedRecovery subscription now = false := by
    unfold memorySubscriptionHasAuthorizedRecovery
    split
    · rfl
    · rw [hactive]
      rfl
  unfold deliverable memoryOwnMessageIsInAuthorizedRecovery
  rw [hrecovery]
  simp [and_assoc]

end MemoryDomain

variable {s : MemoryStore} {credential : Credential} {afterSequence : Nat} {limit now : Int}
  {result : FetchResult}

open MemoryStore

/-- What a successful `fetch` has read, and what it leaves. -/
theorem MemoryStore.fetch_eq_ok (h : (fetch credential afterSequence limit now s).1 = .ok result) :
    (0 < limit ∧ limit ≤ maximumPageSize ∧ afterSequence ≤ maximumSequence) ∧
      ∃ d subscription start, s.authorizedMember credential .fetchMessage now = .ok d ∧
        (fetch credential afterSequence limit now s).2 =
          s.setDomain ⟨credential.tenantID, credential.domainID⟩ (d.refreshMemoryFence now) ∧
        (d.refreshMemoryFence now).readableMemberSubscription credential.memberID =
          .ok subscription ∧
        MemoryDomain.fetchStart subscription afterSequence = .ok start ∧
        result = (d.refreshMemoryFence now).fetchPage subscription start limit.toNat now := by
  have hends : Ends (fetch credential afterSequence limit now) s (fun r s' =>
      r = .ok result → (0 < limit ∧ limit ≤ maximumPageSize ∧ afterSequence ≤ maximumSequence) ∧
        ∃ d subscription start, s.authorizedMember credential .fetchMessage now = .ok d ∧
          s' = s.setDomain ⟨credential.tenantID, credential.domainID⟩ (d.refreshMemoryFence now) ∧
          (d.refreshMemoryFence now).readableMemberSubscription credential.memberID =
            .ok subscription ∧
          MemoryDomain.fetchStart subscription afterSequence = .ok start ∧
          result = (d.refreshMemoryFence now).fetchPage subscription start limit.toNat now) := by
    refine ends_rejectIf (fun _ h => by cases h) fun hlimit => ?_
    refine ends_authorizedMember (fun _ h => by cases h) fun d hd => ends_modify (ends_get ?_)
    refine ends_ofExcept (fun _ _ h => by cases h) fun subscription hsub => ?_
    refine ends_rejectIf (fun _ h => by cases h) fun _ => ?_
    refine ends_ofExcept (fun _ _ h => by cases h) fun start hstart => ends_pure fun h => ?_
    cases h
    simp only [not_or, not_le, not_lt] at hlimit
    exact ⟨hlimit, d, subscription, start, hd, rfl, hsub, hstart, rfl⟩
  exact hends h

/-- The contract of a page, for the domain `fetch` leaves and an active subscription. -/
structure Delivers (d : MemoryDomain) (subscription : Subscription) (afterSequence : Nat)
    (result : FetchResult) : Prop where
  /-- Whatever the returned cursor has passed is in the page. -/
  delivered : ∀ m ∈ d.messages, max afterSequence subscription.startSequence < m.sequence →
    m.sequence ≤ result.nextSequence →
    m.publisherSubscription ≠ subscription.subscriptionID → m.message ∈ result.messages
  increasing : result.messages.Pairwise (fun m m' => m.sequence < m'.sequence)
  advances : afterSequence ≤ result.nextSequence
  /-- What is quarantined is still to come. -/
  quarantined : ∀ m ∈ d.messages, d.Quarantined m →
    max afterSequence subscription.startSequence < m.sequence → result.nextSequence < m.sequence

/-- **Polling skips nothing.** -/
theorem MemoryStore.fetch_delivers {d : MemoryDomain} {subscription : Subscription}
    (hs : Reachable s)
    (hfetch : (fetch credential afterSequence limit now s).1 = .ok result)
    (hd : (fetch credential afterSequence limit now s).2.domains.get?
      ⟨credential.tenantID, credential.domainID⟩ = some d)
    (hsub : d.activeMemberSubscription credential.memberID = .ok subscription)
    (hcursor : result.nextSequence ≤ maximumSequence) :
    Delivers d subscription afterSequence result := by
  have hpost := hs.apply (.fetch credential afterSequence limit now)
  have hwf : d.WellFormed := .of_reachable hpost hd
  have hboundaries : d.BoundariesOK := .of_reachable hpost hd
  obtain ⟨⟨hlimit, -⟩, d₀, subscription', start, -, hleft, hsub', hstart, rfl⟩ :=
    fetch_eq_ok hfetch
  rw [hleft, get?_setDomain, if_pos rfl] at hd
  cases hd
  obtain ⟨hreadable, hactive⟩ := MemoryDomain.readableMemberSubscription_of_active hsub
  rw [hreadable, Except.ok.injEq] at hsub'
  subst hsub'
  have hmax := MemoryDomain.fetchStart_of_active hactive hstart
  have hlimit : 0 < limit.toNat := by omega
  have hquarantined := fun m hm hq hlt =>
    MemoryDomain.fetchPage_lt_of_quarantined hboundaries hlimit hcursor (m := m) hm hq hlt
  refine ⟨?_, MemoryDomain.fetchPage_increasing hwf, ?_, fun m hm hq hlt => ?_⟩
  · intro m hm hlt hle hpublisher
    rw [← hmax] at hlt
    rcases hwf.visible_or_quarantined hm with hvisible | hq
    · refine MemoryDomain.mem_fetchPage hwf hlimit hm ?_ hle
      exact (MemoryDomain.deliverable_of_active hactive).mpr ⟨hlt, hpublisher, hvisible⟩
    · exact absurd (hquarantined m hm hq hlt) (not_lt.mpr hle)
  · have hle : afterSequence ≤ start := hmax ▸ le_max_left _ _
    exact hle.trans (MemoryDomain.start_le_fetchPage hlimit)
  · exact hquarantined m hm hq (hmax ▸ hlt)

open Sample

/-- One message everybody may read, and one under the writer's fence. -/
def Sample.fenced : List Operation :=
  [.publish writer (envelope 100 3) 5, .createCheckpointFence writer ⟨50, 51, 5⟩ 7,
   .publish writer (envelope 101 3) 8]

theorem fetch_delivers_sample : ∃ d subscription result,
      (fetch reader 0 10 9 (store fenced)).1 = .ok result ∧
      (fetch reader 0 10 9 (store fenced)).2.domains.get? ⟨1, 2⟩ = some d ∧
      d.activeMemberSubscription reader.memberID = .ok subscription ∧
      (result.messages.map Message.sequence = [1] ∧ result.nextSequence = 1) ∧
      Delivers d subscription 0 result := by
  have hreach := reachable fenced
  generalize hs : store fenced = s at hreach ⊢
  obtain ⟨result, hfetch, d, hd, subscription, hsub, hpage⟩ :
      ∃ result, (fetch reader 0 10 9 s).1 = .ok result ∧
      ∃ d ∈ (fetch reader 0 10 9 s).2.domains.get? ⟨1, 2⟩,
      ∃ subscription, d.activeMemberSubscription reader.memberID = .ok subscription ∧
        result.messages.map Message.sequence = [1] ∧ result.nextSequence = 1 := by
    subst hs
    decide +kernel
  exact ⟨d, subscription, result, hfetch, hd, hsub, hpage,
    fetch_delivers hreach hfetch hd hsub (by rw [hpage.2]; decide)⟩

/-- A reader that asks from beyond the log is answered with a cursor that has passed what the fence
still holds. -/
theorem fetch_passes_quarantined : ∃ d subscription result m,
      (fetch reader 5 10 9 (store fenced)).1 = .ok result ∧
      (fetch reader 5 10 9 (store fenced)).2.domains.get? ⟨1, 2⟩ = some d ∧
      d.activeMemberSubscription reader.memberID = .ok subscription ∧
      m ∈ d.messages ∧ d.Quarantined m ∧ m.sequence ≤ result.nextSequence := by
  generalize hs : store fenced = s
  obtain ⟨result, hfetch, d, hd, subscription, hsub, m, hm⟩ :
      ∃ result, (fetch reader 5 10 9 s).1 = .ok result ∧
      ∃ d ∈ (fetch reader 5 10 9 s).2.domains.get? ⟨1, 2⟩,
      ∃ subscription, d.activeMemberSubscription reader.memberID = .ok subscription ∧
      ∃ m ∈ d.messages, d.Quarantined m ∧ m.sequence ≤ result.nextSequence := by
    subst hs
    decide +kernel
  exact ⟨d, subscription, result, m, hfetch, hd, hsub, hm⟩

end FacetsNode.Relay
