import FacetsNode.Relay.Properties.Latest
import FacetsNode.Relay.Properties.Subscriptions

/-!
# Recovery leases

A lease has no state of its own, so what it promises has to be read off the maps it appears in, at
every instant, whether or not an operation runs then. `LeasesOK t d` collects this for the instant
`t`; it survives the passing of time (`LeasesOK.later`) and every operation (`LeasesOK.step`).

The lease pins its checkpoint: while a subscription awaiting recovery holds one, no checkpoint is
activated, and what lies past the start cursor is not collected (`KeptSince`).
-/

namespace FacetsNode.Relay

open Option

namespace MemoryDomain

variable {s : MemoryStore} {op : Operation} {key : DomainKey} {d d' : MemoryDomain} {t t' now : Int}
  {id retryID retryID' : UUID} {r r' : MemorySubscriptionRebootstrapRequest}
  {subscription : Subscription}

/-! ## Active leases -/

/-- The lease was cancelled or completed. -/
def Finished (d : MemoryDomain) (subscriptionID retryID : UUID) : Prop :=
  (∃ k c, d.rebootstrapCancellations.get? k = some c ∧ c.subscriptionID = subscriptionID ∧
    c.request.requestRetryID = retryID) ∨
  ∃ k c, d.rebootstrapCompletions.get? k = some c ∧ c.subscriptionID = subscriptionID ∧
    c.request.requestRetryID = retryID

open GoMap

theorem isActive_iff : d.memoryRebootstrapRequestIsActive retryID r t = true ↔
      0 ≤ t ∧ t < r.expiresAtMilliseconds ∧ ¬ d.Finished r.subscriptionID retryID := by
  unfold memoryRebootstrapRequestIsActive Finished
  simp only [Bool.and_eq_true, decide_eq_true_iff, Bool.not_eq_true', Bool.eq_false_iff, ne_eq,
    any_pairs, not_or, and_assoc]

/-- The lease filed under `retryID` is active at `t`. -/
structure ActiveLease (d : MemoryDomain) (t : Int) (retryID : UUID)
    (r : MemorySubscriptionRebootstrapRequest) : Prop where
  filed : d.rebootstrapRequests.get? retryID = some r
  active : d.memoryRebootstrapRequestIsActive retryID r t = true

/-- A lease that is active later was active before, as long as there was a clock to speak of. -/
theorem ActiveLease.earlier (h : d.ActiveLease t' retryID r) (h0 : 0 ≤ t) (hle : t ≤ t') :
    d.ActiveLease t retryID r := by
  obtain ⟨-, hexpires, hopen⟩ := isActive_iff.mp h.active
  exact ⟨h.filed, isActive_iff.mpr ⟨h0, lt_of_le_of_lt hle hexpires, hopen⟩⟩

theorem memorySubscriptionHasActiveRebootstrap_iff :
    d.memorySubscriptionHasActiveRebootstrap id t = true ↔
      ∃ retryID r, d.ActiveLease t retryID r ∧ r.subscriptionID = id := by
  unfold memorySubscriptionHasActiveRebootstrap
  rw [any_pairs]
  constructor
  · rintro ⟨retryID, r, hget, h⟩
    obtain ⟨hid, hactive⟩ := of_decide_eq_true h
    exact ⟨retryID, r, ⟨hget, hactive⟩, hid⟩
  · rintro ⟨retryID, r, h, hid⟩
    exact ⟨retryID, r, h.filed, decide_eq_true ⟨hid, h.active⟩⟩

/-! ## The invariant -/

/-- The lease is on the latest checkpoint, and the subscription is fenced where it starts. -/
structure Pinned (d : MemoryDomain) (r : MemorySubscriptionRebootstrapRequest)
    (subscription : Subscription) (c : MemoryCheckpoint) : Prop where
  latestID : d.latestCheckpointID = some r.request.checkpointID
  latest : d.latestCheckpoint = some c
  cursor : subscription.startCursor = some (encodeCursor c.startSequence)
  result : r.result.startCursor = some (encodeCursor c.startSequence)
  root : r.request.rootMessageID ∈ c.candidate.retainedMessageIDs

/-- What holds of leases at the instant `t`. -/
structure LeasesOK (t : Int) (d : MemoryDomain) : Prop where
  clocked : ∀ {retryID r}, d.rebootstrapRequests.get? retryID = some r → 0 ≤ t
  owned : ∀ {retryID r}, d.rebootstrapRequests.get? retryID = some r → r.subscriptionID ≠ uuidNil
  one : ∀ {retryID r retryID' r'}, d.ActiveLease t retryID r → d.ActiveLease t retryID' r' →
    r.subscriptionID = r'.subscriptionID → retryID = retryID'
  fenced : ∀ {retryID r}, d.ActiveLease t retryID r →
    ∃ subscription, d.subscriptions.get? r.subscriptionID = some subscription ∧
      subscription.status ≠ .active
  pinned : ∀ {retryID r subscription}, d.ActiveLease t retryID r →
    d.subscriptions.get? r.subscriptionID = some subscription →
    subscription.status = .rebootstrapRequired → ∃ c, d.Pinned r subscription c

theorem LeasesOK.later (h : LeasesOK t d) (hle : t ≤ t') : LeasesOK t' d where
  clocked := fun hget => (h.clocked hget).trans hle
  owned := h.owned
  one := fun hr hr' => h.one (hr.earlier (h.clocked hr.filed) hle)
    (hr'.earlier (h.clocked hr.filed) hle)
  fenced := fun hr => h.fenced (hr.earlier (h.clocked hr.filed) hle)
  pinned := fun hr => h.pinned (hr.earlier (h.clocked hr.filed) hle)

theorem Pinned.sameLatest {c} (h : d.Pinned r subscription c)
    (hlatest : SameLatest d d') : ∃ c', d'.Pinned r subscription c' := by
  obtain ⟨c', hc', hcollected⟩ := hlatest.after h.latest
  refine ⟨c', hlatest.latestID.trans h.latestID, hc', ?_, ?_, ?_⟩
  · rw [hcollected.startSequence]; exact h.cursor
  · rw [hcollected.startSequence]; exact h.result
  · rw [hcollected.candidate]; exact h.root

/-- Fewer leases may be active, and nothing else about them changes. -/
theorem LeasesOK.fewer (h : LeasesOK t d) (hsubs : d'.subscriptions = d.subscriptions)
    (hrequests : d'.rebootstrapRequests = d.rebootstrapRequests)
    (hfinished : ∀ {id retryID}, d.Finished id retryID → d'.Finished id retryID)
    (hlatest : SameLatest d d') : LeasesOK t d' := by
  have hback : ∀ {retryID r}, d'.ActiveLease t retryID r → d.ActiveLease t retryID r := by
    intro retryID r hr
    obtain ⟨h0, hexpires, hopen⟩ := isActive_iff.mp hr.active
    refine ⟨hrequests ▸ hr.filed, isActive_iff.mpr ⟨h0, hexpires, fun hdone => ?_⟩⟩
    exact hopen (hfinished hdone)
  refine ⟨?_, ?_, ?_, ?_, ?_⟩
  · rw [hrequests]; exact h.clocked
  · rw [hrequests]; exact h.owned
  · exact fun hr hr' => h.one (hback hr) (hback hr')
  · rw [hsubs]; exact fun hr => h.fenced (hback hr)
  · rw [hsubs]
    intro retryID r subscription hr hget hstatus
    obtain ⟨c, hc⟩ := h.pinned (hback hr) hget hstatus
    exact hc.sameLatest hlatest

/-- Cancellations and completions alone finish a lease. -/
theorem finished_congr (hcancel : d'.rebootstrapCancellations = d.rebootstrapCancellations)
    (hcomplete : d'.rebootstrapCompletions = d.rebootstrapCompletions) :
    d'.Finished id retryID ↔ d.Finished id retryID := by
  unfold Finished
  rw [hcancel, hcomplete]

theorem activeLease_congr (hrequests : d'.rebootstrapRequests = d.rebootstrapRequests)
    (hcancel : d'.rebootstrapCancellations = d.rebootstrapCancellations)
    (hcomplete : d'.rebootstrapCompletions = d.rebootstrapCompletions) :
    d'.ActiveLease t retryID r ↔ d.ActiveLease t retryID r := by
  constructor
  · rintro ⟨hfiled, hactive⟩
    rw [isActive_iff, finished_congr hcancel hcomplete, ← isActive_iff] at hactive
    exact ⟨hrequests ▸ hfiled, hactive⟩
  · rintro ⟨hfiled, hactive⟩
    rw [isActive_iff, ← finished_congr hcancel hcomplete, ← isActive_iff] at hactive
    exact ⟨hrequests ▸ hfiled, hactive⟩

/-- One subscription is written, in a way its active leases allow. -/
theorem LeasesOK.setSubscription (h : LeasesOK t d)
    (hsubs : d'.subscriptions = d.subscriptions.set id subscription)
    (hrequests : d'.rebootstrapRequests = d.rebootstrapRequests)
    (hcancel : d'.rebootstrapCancellations = d.rebootstrapCancellations)
    (hcomplete : d'.rebootstrapCompletions = d.rebootstrapCompletions) (hlatest : SameLatest d d')
    (hfenced : ∀ {retryID r}, d.ActiveLease t retryID r → r.subscriptionID = id →
      subscription.status ≠ .active)
    (hpinned : ∀ {retryID r}, d.ActiveLease t retryID r → r.subscriptionID = id →
      subscription.status = .rebootstrapRequired → ∃ c, d.Pinned r subscription c) :
    LeasesOK t d' := by
  have hlease : ∀ {retryID r}, d'.ActiveLease t retryID r → d.ActiveLease t retryID r :=
    (activeLease_congr hrequests hcancel hcomplete).mp
  refine ⟨?_, ?_, ?_, ?_, ?_⟩
  · rw [hrequests]; exact h.clocked
  · rw [hrequests]; exact h.owned
  · exact fun hr hr' => h.one (hlease hr) (hlease hr')
  · rw [hsubs]
    intro retryID r hr
    rw [get?_set]
    split
    · next heq => exact ⟨subscription, rfl, hfenced (hlease hr) heq⟩
    · exact h.fenced (hlease hr)
  · rw [hsubs]
    intro retryID r subscription' hr hget hstatus
    rw [get?_set] at hget
    have hbefore : ∃ c, d.Pinned r subscription' c := by
      split at hget
      · next heq =>
        cases hget
        exact hpinned (hlease hr) heq hstatus
      · exact h.pinned (hlease hr) hget hstatus
    obtain ⟨c, hc⟩ := hbefore
    exact hc.sameLatest hlatest

/-! ## The operations -/

/-- An active subscription holds no lease. -/
theorem LeasesOK.not_active (h : LeasesOK t d) (hr : d.ActiveLease t retryID r)
    (hget : d.subscriptions.get? r.subscriptionID = some subscription) :
    subscription.status ≠ .active := by
  obtain ⟨subscription', hget', hstatus⟩ := h.fenced hr
  rw [hget, some.injEq] at hget'
  exact hget' ▸ hstatus

theorem LeasesOK.fileRequest (h : LeasesOK t d) (hkeyed : SubscriptionsKeyed d.subscriptions)
    {request checkpoint memberID} {expiresAt : Int} (h0 : 0 ≤ t)
    (hsub : d.readableMemberSubscription memberID = .ok subscription)
    (hcheckpoint : d.checkpoints.get? request.checkpointID = some checkpoint)
    (hroot : request.rootMessageID ∈ checkpoint.candidate.retainedMessageIDs)
    (hidle : subscription.status = .rebootstrapRequired →
      d.memorySubscriptionHasActiveRebootstrap subscription.subscriptionID t = false)
    (hlatest : d.latestCheckpointID = some request.checkpointID) (now : Int) :
    LeasesOK t ((d.withdrawAcknowledgments subscription.subscriptionID
      checkpoint.startSequence).fileRebootstrapRequest request
        (fencedSubscription subscription checkpoint now) expiresAt) := by
  obtain ⟨hget, hnil, hstatus⟩ := hkeyed.readable hsub
  -- The subscription holds no lease: awaiting recovery it was asked, and active it cannot.
  have hnone : ∀ {retryID r}, d.ActiveLease t retryID r →
      r.subscriptionID ≠ subscription.subscriptionID := by
    intro retryID r hr hid
    rcases hstatus with hactive | hwaiting
    · exact h.not_active hr (hid ▸ hget) hactive
    · have hany := memorySubscriptionHasActiveRebootstrap_iff.mpr ⟨retryID, r, hr, hid⟩
      rw [hidle hwaiting] at hany
      cases hany
  have hlease : ∀ {retryID r}, ((d.withdrawAcknowledgments subscription.subscriptionID
      checkpoint.startSequence).fileRebootstrapRequest request
        (fencedSubscription subscription checkpoint now) expiresAt).ActiveLease t retryID r →
      (retryID = request.retryID ∧ r = ⟨subscription.subscriptionID, request, expiresAt,
        fencedSubscription subscription checkpoint now⟩) ∨ d.ActiveLease t retryID r := by
    rintro retryID r ⟨hfiled, hactive⟩
    have hfiled' : (d.rebootstrapRequests.set request.retryID _).get? retryID = some r := hfiled
    rw [get?_set] at hfiled'
    split at hfiled'
    · next heq => exact .inl ⟨heq, (some.inj hfiled').symm⟩
    · exact .inr ⟨hfiled', hactive⟩
  have hc : d.latestCheckpoint = some checkpoint := by
    unfold latestCheckpoint
    rw [hlatest]
    exact hcheckpoint
  refine ⟨fun _ => h0, ?_, ?_, ?_, ?_⟩
  · intro retryID r hfiled
    have hfiled' : (d.rebootstrapRequests.set request.retryID _).get? retryID = some r := hfiled
    rw [get?_set] at hfiled'
    split at hfiled'
    · cases hfiled'; exact hnil
    · exact h.owned hfiled'
  · intro retryID r retryID' r' hr hr' hsame
    rcases hlease hr with ⟨rfl, rfl⟩ | hr
    · rcases hlease hr' with ⟨rfl, -⟩ | hr'
      · rfl
      · exact absurd hsame.symm (hnone hr')
    · rcases hlease hr' with ⟨-, rfl⟩ | hr'
      · exact absurd hsame (hnone hr)
      · exact h.one hr hr' hsame
  · intro retryID r hr
    show ∃ subscription', (d.subscriptions.set subscription.subscriptionID _).get? _ = _ ∧ _
    rcases hlease hr with ⟨-, rfl⟩ | hr
    · refine ⟨fencedSubscription subscription checkpoint now, get?_set_self _ _ _, ?_⟩
      intro hactive
      cases hactive
    · rw [get?_set_ne _ _ (hnone hr)]
      exact h.fenced hr
  · intro retryID r subscription' hr hget' hstatus'
    have hget'' : (d.subscriptions.set subscription.subscriptionID
      (fencedSubscription subscription checkpoint now)).get? r.subscriptionID =
        some subscription' := hget'
    rcases hlease hr with ⟨-, rfl⟩ | hr
    · rw [get?_set_self, some.injEq] at hget''
      subst hget''
      exact ⟨checkpoint, hlatest, hc, rfl, rfl, hroot⟩
    · rw [get?_set_ne _ _ (hnone hr)] at hget''
      obtain ⟨c, hpinned⟩ := h.pinned hr hget'' hstatus'
      exact hpinned.sameLatest (.of_eq rfl rfl)

/-- A renewal moves the end of a lease that is active, and nothing else. -/
theorem LeasesOK.fileRenewal (h : LeasesOK t d) {renewal}
    (hr : d.ActiveLease t renewal.requestRetryID r) (expiresAt : Int) :
    LeasesOK t (d.fileRebootstrapRenewal renewal subscription r expiresAt) := by
  have hget : ∀ {retryID r'}, (d.fileRebootstrapRenewal renewal subscription r
      expiresAt).rebootstrapRequests.get? retryID = some r' →
      (retryID = renewal.requestRetryID ∧ r' = { r with expiresAtMilliseconds := expiresAt }) ∨
        d.rebootstrapRequests.get? retryID = some r' := by
    intro retryID r' hfiled
    have hfiled' : (d.rebootstrapRequests.set renewal.requestRetryID _).get? retryID = some r' :=
      hfiled
    rw [get?_set] at hfiled'
    split at hfiled'
    · next heq => exact .inl ⟨heq, (some.inj hfiled').symm⟩
    · exact .inr hfiled'
  -- A lease that is active after the renewal was active before it, for the same subscription.
  have hlease : ∀ {retryID r'}, (d.fileRebootstrapRenewal renewal subscription r
      expiresAt).ActiveLease t retryID r' → ∃ r₀, d.ActiveLease t retryID r₀ ∧
        r'.subscriptionID = r₀.subscriptionID ∧ r'.request = r₀.request ∧
        r'.result = r₀.result := by
    rintro retryID r' ⟨hfiled, hactive⟩
    rcases hget hfiled with ⟨rfl, rfl⟩ | hfiled
    · exact ⟨r, hr, rfl, rfl, rfl⟩
    · exact ⟨r', ⟨hfiled, hactive⟩, rfl, rfl, rfl⟩
  refine ⟨fun _ => h.clocked hr.filed, ?_, ?_, ?_, ?_⟩
  · intro retryID r' hfiled
    rcases hget hfiled with ⟨-, rfl⟩ | hfiled
    · have hnil := h.owned hr.filed
      exact hnil
    · exact h.owned hfiled
  · intro retryID₁ r₁ retryID₂ r₂ hr₁ hr₂ hsame
    obtain ⟨r₁', hr₁', hsub₁, -⟩ := hlease hr₁
    obtain ⟨r₂', hr₂', hsub₂, -⟩ := hlease hr₂
    exact h.one hr₁' hr₂' (by rw [← hsub₁, ← hsub₂, hsame])
  · intro retryID r' hr'
    obtain ⟨r₀, hr₀, hsub, -⟩ := hlease hr'
    rw [hsub]
    exact h.fenced hr₀
  · intro retryID r' subscription' hr' hsubscription hstatus
    obtain ⟨r₀, hr₀, hsub, hrequest, hresult⟩ := hlease hr'
    rw [hsub] at hsubscription
    obtain ⟨c, hc⟩ := h.pinned hr₀ hsubscription hstatus
    refine ⟨c, ?_, hc.latest, hc.cursor, ?_, ?_⟩
    · rw [hrequest]; exact hc.latestID
    · rw [hresult]; exact hc.result
    · rw [hrequest]; exact hc.root

theorem finished_fileCancellation {cancellation}
    (hfresh : d.rebootstrapCancellations.get? cancellation.retryID = none)
    (h : d.Finished id retryID) :
    (d.fileRebootstrapCancellation cancellation subscription).Finished id retryID := by
  rcases h with ⟨k, c, hget, hrest⟩ | hcompleted
  · refine .inl ⟨k, c, ?_, hrest⟩
    refine (get?_set_ne _ _ ?_).trans hget
    rintro rfl
    rw [hfresh] at hget
    cases hget
  · exact .inr hcompleted

theorem finished_fileCompletion {completion}
    {startSequence : Nat} (hfresh : d.rebootstrapCompletions.get? completion.retryID = none)
    (h : d.Finished id retryID) :
    (d.fileRebootstrapCompletion completion subscription startSequence).Finished id retryID := by
  rcases h with hcancelled | ⟨k, c, hget, hrest⟩
  · exact .inl hcancelled
  · refine .inr ⟨k, c, ?_, hrest⟩
    refine (get?_set_ne _ _ ?_).trans hget
    rintro rfl
    rw [hfresh] at hget
    cases hget

/-- The completion, without the subscription it restores. -/
def recordCompletion (d : MemoryDomain) (completion : SubscriptionRebootstrapCompletion)
    (subscription : Subscription) (startSequence : Nat) : MemoryDomain :=
  { d with
    rebootstrapCompletions := d.rebootstrapCompletions.set completion.retryID
      ⟨subscription.subscriptionID, startSequence, completion, subscription⟩ }

theorem LeasesOK.fileCompletion (h : LeasesOK t d) {completion} {startSequence : Nat}
    (hfresh : d.rebootstrapCompletions.get? completion.retryID = none)
    (hr : d.ActiveLease t completion.requestRetryID r)
    (hown : r.subscriptionID = subscription.subscriptionID) (now : Int) :
    LeasesOK t (d.fileRebootstrapCompletion completion
      (restoredSubscription subscription now) startSequence) := by
  have hdone : (d.recordCompletion completion (restoredSubscription subscription now)
      startSequence).Finished subscription.subscriptionID completion.requestRetryID :=
    .inr ⟨completion.retryID, _, get?_set_self _ _ _, rfl, rfl⟩
  have hfinished : ∀ {id retryID}, d.Finished id retryID →
      (d.recordCompletion completion (restoredSubscription subscription now)
        startSequence).Finished id retryID :=
    fun hdone => (finished_congr rfl rfl).mp (finished_fileCompletion hfresh hdone)
  have hrecorded : LeasesOK t (d.recordCompletion completion
      (restoredSubscription subscription now) startSequence) :=
    h.fewer rfl rfl hfinished (.of_eq rfl rfl)
  -- The completed lease was the subscription's only one.
  have hnone : ∀ {retryID r'}, (d.recordCompletion completion
      (restoredSubscription subscription now) startSequence).ActiveLease t retryID r' →
      r'.subscriptionID ≠ subscription.subscriptionID := by
    intro retryID r' hr' hid
    obtain ⟨h0, hexpires, hopen⟩ := isActive_iff.mp hr'.active
    have hbefore : d.ActiveLease t retryID r' :=
      ⟨hr'.filed, isActive_iff.mpr ⟨h0, hexpires, fun hdone => hopen (hfinished hdone)⟩⟩
    have heq := h.one hbefore hr (hid.trans hown.symm)
    rw [hid, heq] at hopen
    exact hopen hdone
  exact hrecorded.setSubscription rfl rfl rfl rfl (.of_eq rfl rfl)
    (fun hr' hid => absurd hid (hnone hr')) (fun hr' hid => absurd hid (hnone hr'))

/-! ## Every step -/

theorem LeasesOK.congr (h : LeasesOK t d) (hsubs : d'.subscriptions = d.subscriptions)
    (hrequests : d'.rebootstrapRequests = d.rebootstrapRequests)
    (hcancel : d'.rebootstrapCancellations = d.rebootstrapCancellations)
    (hcomplete : d'.rebootstrapCompletions = d.rebootstrapCompletions)
    (hlatest : SameLatest d d') : LeasesOK t d' :=
  h.fewer hsubs hrequests (finished_congr hcancel hcomplete).mpr hlatest

theorem LeasesOK.expiry (h : LeasesOK t d) (hwf : d.WellFormed) (hexpiry : Expiry op d d') :
    LeasesOK t d' :=
  h.congr hexpiry.subscriptions hexpiry.rebootstrapRequests hexpiry.rebootstrapCancellations
    hexpiry.rebootstrapCompletions (.of_expiry hwf hexpiry)

theorem LeasesOK.ensureTestSubscription (h : LeasesOK t d)
    (hkeyed : SubscriptionsKeyed d.subscriptions) (credential : AdministrationCredential)
    (id : UUID)
    (createdAt : Int) :
    LeasesOK t (d.ensureTestSubscription credential id createdAt) := by
  unfold MemoryDomain.ensureTestSubscription
  split
  · next hmissing =>
    -- A lease belongs to a subscription that is filed, under an identifier that is not nil.
    have hnone : ∀ {retryID r}, d.ActiveLease t retryID r → r.subscriptionID ≠ id := by
      rintro retryID r hr rfl
      obtain ⟨subscription, hget, -⟩ := h.fenced hr
      rw [hget] at hmissing
      exact h.owned hr.filed ((hkeyed _ _ hget).symm.trans hmissing)
    exact h.setSubscription rfl rfl rfl rfl (.of_eq rfl rfl)
      (fun hr hid => absurd hid (hnone hr)) (fun hr hid => absurd hid (hnone hr))
  · exact h

theorem LeasesOK.fileSubscription (h : LeasesOK t d) {request}
    (hnew : d.subscriptions.get? request.subscriptionID = none) :
    LeasesOK t (d.fileSubscription request subscription) := by
  -- Nobody holds a lease for a subscription that is not there.
  have hnone : ∀ {retryID r}, d.ActiveLease t retryID r →
      r.subscriptionID ≠ request.subscriptionID := by
    intro retryID r hr hsame
    obtain ⟨subscription, hget, -⟩ := h.fenced hr
    rw [hsame, hnew] at hget
    cases hget
  exact h.setSubscription rfl rfl rfl rfl (.of_eq rfl rfl)
    (fun hr hid => absurd hid (hnone hr)) (fun hr hid => absurd hid (hnone hr))

theorem latestCheckpointStartCursor_eq (hwf : d.WellFormed) {c} (hc : d.latestCheckpoint = some c) :
    d.latestCheckpointStartCursor = some (encodeCursor c.startSequence) := by
  obtain ⟨id, hid, hget⟩ := latestCheckpoint_eq_some hc
  unfold latestCheckpointStartCursor
  rw [hc]
  exact if_pos (hwf.checkpoints.activated (mem_latestTwo_of_latestCheckpointID hid) hget)

theorem LeasesOK.fileStatusChange (h : LeasesOK t d) (hwf : d.WellFormed) {request}
    (hget : d.subscriptions.get? id = some subscription) (hlive : subscription.status ≠ .revoked)
    (hstatus : request.status ≠ .active) :
    LeasesOK t (d.fileStatusChange id request (d.changedSubscription subscription request)) := by
  refine h.setSubscription rfl rfl rfl rfl (.of_eq rfl rfl) (fun _ _ => hstatus) ?_
  rintro retryID r hr rfl hwaiting
  have hbefore : subscription.status = .rebootstrapRequired := by
    cases hcase : subscription.status with
    | active => exact absurd hcase (h.not_active hr hget)
    | rebootstrapRequired => rfl
    | revoked => exact absurd hcase hlive
  obtain ⟨c, hc⟩ := h.pinned hr hget hbefore
  refine ⟨c, hc.latestID, hc.latest, ?_, hc.result, hc.root⟩
  exact (if_pos hwaiting).trans (latestCheckpointStartCursor_eq hwf hc.latest)

/-- Nobody waits under a lease when a checkpoint is activated. -/
theorem LeasesOK.fileActivation (h : LeasesOK t d)
    (hidle : d.memoryHasBoundRebootstrap t = false) (checkpoint : MemoryCheckpoint)
    (fence : MemoryCheckpointFence) (request : CheckpointActivationRequest)
    (result : CheckpointActivationResponse) :
    LeasesOK t (d.fileActivation checkpoint fence request result) := by
  refine ⟨h.clocked, h.owned, fun hr hr' => h.one ⟨hr.filed, hr.active⟩
    ⟨hr'.filed, hr'.active⟩, fun hr => h.fenced ⟨hr.filed, hr.active⟩, ?_⟩
  intro retryID r subscription hr hget hwaiting
  have hbound : d.memoryHasBoundRebootstrap t = true :=
    any_pairs.mpr ⟨retryID, r, hr.filed, decide_eq_true ⟨⟨subscription, hget, hwaiting⟩, hr.active⟩⟩
  rw [hidle] at hbound
  cases hbound

theorem LeasesOK.closeFence (h : LeasesOK t d) (hwf : d.WellFormed) (id : UUID)
    (fence : MemoryCheckpointFence) (status : CheckpointFenceStatus) (fenceID : UUID) :
    LeasesOK t (d.closeFence id fence status fenceID) :=
  h.congr rfl rfl rfl rfl (.closeFence hwf id fence status fenceID)

theorem LeasesOK.deleteCollected (h : LeasesOK t d) {plan checkpoint}
    (hplan : d.memoryCheckpointPlan id = .ok plan)
    (hcheckpoint : d.checkpoints.get? id = some checkpoint) (messages : List MemoryMessage)
    (blobs : List (GoString × BlobMetadata)) :
    LeasesOK t (d.deleteCollected id checkpoint messages blobs) :=
  h.congr rfl rfl rfl rfl (.collect hplan hcheckpoint messages blobs)

theorem le_now {op : Operation} (hadmits : ∀ now ∈ op.now, t ≤ now) : t ≤ op.now.getD t := by
  cases hnow : op.now with
  | none => exact le_rfl
  | some now => exact hadmits now hnow

theorem LeasesOK.step (h : LeasesOK t d) (hwf : d.WellFormed)
    (hkeyed : SubscriptionsKeyed d.subscriptions) (hadmits : ∀ now ∈ op.now, t ≤ now)
    (hstep : DomainStep s key op d d') :
    LeasesOK (op.now.getD t) d' := by
  obtain ⟨hexpiry, heffect⟩ := hstep
  -- First the clock moves on and the fences that are due close, then the effect of the operation.
  replace h := (h.later (le_now hadmits)).expiry hwf hexpiry
  have hwf₁ := hwf.expiry hexpiry
  rw [← hexpiry.subscriptions] at hkeyed
  cases heffect with
  | authority heq =>
    rw [heq]
    exact h.congr rfl rfl rfl rfl (.of_eq rfl rfl)
  | @testSubscription _ _ _ credential id createdAt _ heq =>
    rw [heq]
    exact (h.ensureTestSubscription hkeyed credential id createdAt).congr rfl rfl rfl rfl
      (.of_eq rfl rfl)
  | createSubscription _ hnew => exact h.fileSubscription hnew
  | changeSubscriptionStatus _ hsub hlive hstatus =>
    exact h.fileStatusChange hwf₁ hsub hlive hstatus
  | requestRebootstrap hnow hsub _ hcheckpoint _ hroot hidle hlatest =>
    exact h.fileRequest hkeyed hnow hsub hcheckpoint hroot hidle hlatest _
  | renewRebootstrap _ hrecovery _ hactive => exact h.fileRenewal ⟨hrecovery, hactive⟩ _
  | cancelRebootstrap hfresh =>
    exact h.fewer rfl rfl (finished_fileCancellation hfresh) (.of_eq rfl rfl)
  | completeRebootstrap _ hfresh _ _ hrecovery hown hactive =>
    exact h.fileCompletion hfresh ⟨hrecovery, hactive⟩ hown _
  | revokeMembership =>
    refine h.setSubscription rfl rfl rfl rfl (.of_eq rfl rfl) ?_ ?_
    · intro _ _ _ _ hactive
      cases hactive
    · intro _ _ _ _ hwaiting
      cases hwaiting
  | activate _ _ _ _ _ _ _ _ _ hidle => exact h.fileActivation hidle _ _ _ _
  | stage _ _ _ _ hnew => exact h.congr rfl rfl rfl rfl (.fileCheckpoint hwf₁ hnew)
  | collect hcheckpoint hplan =>
    exact (h.deleteCollected hplan hcheckpoint _ _).congr rfl rfl rfl rfl (.of_eq rfl rfl)
  | @abortFence _ request now fence =>
    have hclosed := h.closeFence hwf₁ request.fenceID fence .aborted request.fenceID
    exact hclosed.congr rfl rfl rfl rfl (.of_eq rfl rfl)
  | _ => exact h.congr rfl rfl rfl rfl (.of_eq rfl rfl)

theorem LeasesOK.create (t : Int) (p : DomainProvisioning) :
    LeasesOK t (MemoryDomain.create p) := by
  have hempty : ∀ {retryID r}, (MemoryDomain.create p).rebootstrapRequests.get? retryID ≠ some r := by
    intro retryID r hget
    simp [MemoryDomain.create] at hget
  exact ⟨fun hget => absurd hget hempty, fun hget => absurd hget hempty,
    fun hr => absurd hr.filed hempty, fun hr => absurd hr.filed hempty,
    fun hr => absurd hr.filed hempty⟩

/-- What every moment of a run has, for each of its domains. -/
structure LeaseState (t : Int) (d : MemoryDomain) : Prop where
  wellFormed : d.WellFormed
  keyed : SubscriptionsKeyed d.subscriptions
  coverage : CoverageOK d.checkpoints
  leases : LeasesOK t d

theorem LeaseState.expiry (h : LeaseState t d) (hadmits : ∀ now ∈ op.now, t ≤ now)
    (hexpiry : Expiry op d d') : LeaseState (op.now.getD t) d' :=
  ⟨h.wellFormed.expiry hexpiry, hexpiry.subscriptions ▸ h.keyed, h.coverage.expiry hexpiry,
   (h.leases.later (le_now hadmits)).expiry h.wellFormed hexpiry⟩

theorem LeaseState.step (h : LeaseState t d) (hadmits : ∀ now ∈ op.now, t ≤ now)
    (hstep : DomainStep s key op d d') : LeaseState (op.now.getD t) d' :=
  ⟨h.wellFormed.step hstep, h.keyed.step hstep, h.coverage.step h.wellFormed hstep,
   h.leases.step h.wellFormed h.keyed hadmits hstep⟩

theorem LeaseState.of_run {ttl : Option Int} {start : Int} {ops : List Operation}
    (hclock : Along Moment.step Moment.Admits (Moment.new ttl start) ops)
    (hd : (run Moment.step (Moment.new ttl start) ops).store.domains.get? key = some d) :
    LeaseState (run Moment.step (Moment.new ttl start) ops).clock d := by
  refine Moment.domain_invariant (I := LeaseState) ?_ ?_ hclock hd
  · intro t p _
    refine ⟨WellFormed.create p, .create p, fun id c hget => ?_, LeasesOK.create t p⟩
    simp [MemoryDomain.create] at hget
  · intro m op key d d' _ hadmits _ h hstep
    exact h.step hadmits hstep

/-! ## Backwards along a run -/

/-- The identity of a lease: everything but its end. -/
structure SameLease (r r' : MemorySubscriptionRebootstrapRequest) : Prop where
  subscriptionID : r'.subscriptionID = r.subscriptionID
  request : r'.request = r.request
  result : r'.result = r.result

/-- **Leases are not revived.** A lease stays filed, and one that is active after a step was active
before it, at the same instant. -/
theorem lease_kept (hstep : DomainStep s key op d d')
    (hfiled : d.rebootstrapRequests.get? retryID = some r) :
    ∃ r', d'.rebootstrapRequests.get? retryID = some r' ∧ SameLease r r' ∧
      (d'.ActiveLease (op.now.getD t) retryID r' → d.ActiveLease (op.now.getD t) retryID r) := by
  obtain @⟨d₁, hexpiry, heffect⟩ := hstep
  rw [← hexpiry.rebootstrapRequests] at hfiled
  rw [← activeLease_congr hexpiry.rebootstrapRequests hexpiry.rebootstrapCancellations
    hexpiry.rebootstrapCompletions]
  have hframe : ∀ {d' : MemoryDomain}, d'.rebootstrapRequests = d₁.rebootstrapRequests →
      d'.rebootstrapCancellations = d₁.rebootstrapCancellations →
      d'.rebootstrapCompletions = d₁.rebootstrapCompletions →
      ∃ r', d'.rebootstrapRequests.get? retryID = some r' ∧ SameLease r r' ∧
        (d'.ActiveLease (op.now.getD t) retryID r' → d₁.ActiveLease (op.now.getD t) retryID r) := by
    intro d' hrequests hcancel hcomplete
    exact ⟨r, hrequests ▸ hfiled, ⟨rfl, rfl, rfl⟩,
      (activeLease_congr hrequests hcancel hcomplete).mp⟩
  cases heffect with
  | authority heq => exact hframe (by rw [heq]; rfl) (by rw [heq]; rfl) (by rw [heq]; rfl)
  | @testSubscription _ _ _ credential id createdAt _ heq =>
    rw [heq]
    unfold MemoryDomain.ensureTestSubscription
    split <;> exact hframe rfl rfl rfl
  | requestRebootstrap _ _ hfresh =>
    refine ⟨r, ?_, ⟨rfl, rfl, rfl⟩, fun h => ⟨hfiled, h.active⟩⟩
    refine (get?_set_ne _ _ ?_).trans hfiled
    rintro rfl
    rw [hfresh] at hfiled
    cases hfiled
  | @renewRebootstrap _ renewal now expiresAt subscription recovery _ _ hrecovery _ hactive =>
    by_cases hid : retryID = renewal.requestRetryID
    · subst hid
      rw [hrecovery] at hfiled
      cases hfiled
      exact ⟨_, get?_set_self _ _ _, ⟨rfl, rfl, rfl⟩, fun _ => ⟨hrecovery, hactive⟩⟩
    · exact ⟨r, (get?_set_ne _ _ hid).trans hfiled, ⟨rfl, rfl, rfl⟩, fun h => ⟨hfiled, h.active⟩⟩
  | cancelRebootstrap hfresh =>
    refine ⟨r, hfiled, ⟨rfl, rfl, rfl⟩, fun h => ⟨hfiled, ?_⟩⟩
    obtain ⟨h0, hexpires, hopen⟩ := isActive_iff.mp h.active
    exact isActive_iff.mpr ⟨h0, hexpires, fun hdone =>
      hopen (finished_fileCancellation hfresh hdone)⟩
  | completeRebootstrap _ hfresh =>
    refine ⟨r, hfiled, ⟨rfl, rfl, rfl⟩, fun h => ⟨hfiled, ?_⟩⟩
    obtain ⟨h0, hexpires, hopen⟩ := isActive_iff.mp h.active
    exact isActive_iff.mpr ⟨h0, hexpires, fun hdone =>
      hopen (finished_fileCompletion hfresh hdone)⟩
  | _ => exact hframe rfl rfl rfl

/-! ## Waiting under a lease -/

/-- The subscription awaits recovery under the lease filed as `retryID`. -/
structure Waiting (d : MemoryDomain) (t : Int) (retryID : UUID)
    (r : MemorySubscriptionRebootstrapRequest) (subscription : Subscription) : Prop where
  lease : d.ActiveLease t retryID r
  filed : d.subscriptions.get? r.subscriptionID = some subscription
  status : subscription.status = .rebootstrapRequired

/-- Whoever waits under a lease that was there before has waited before. -/
theorem LeaseState.waiting_before (h : LeaseState t d) (hadmits : ∀ now ∈ op.now, t ≤ now)
    (hstep : DomainStep s key op d d') (hfiled : d.rebootstrapRequests.get? retryID = some r)
    {subscription' : Subscription}
    (hwaiting : d'.Waiting (op.now.getD t) retryID r' subscription') :
    SameLease r r' ∧ ∃ subscription, d.Waiting t retryID r subscription := by
  obtain ⟨r'', hfiled', hsame, hback⟩ := lease_kept (t := t) hstep hfiled
  rw [hwaiting.lease.filed, some.injEq] at hfiled'
  subst hfiled'
  have hlease := (hback hwaiting.lease).earlier (h.leases.clocked hfiled) (le_now hadmits)
  obtain ⟨subscription, hget, hfenced⟩ := h.leases.fenced hlease
  refine ⟨hsame, subscription, hlease, hget, ?_⟩
  cases hstatus : subscription.status with
  | active => exact absurd hstatus hfenced
  | rebootstrapRequired => rfl
  | revoked =>
    -- Revocation is for good.
    obtain ⟨subscription'', hget', hkept⟩ :=
      (SubscriptionsStep.of_step h.keyed hstep).get? (h.leases.owned hfiled) hget
    rw [← hsame.subscriptionID, hwaiting.filed, some.injEq] at hget'
    subst hget'
    simp [hwaiting.status, hstatus] at hkept
    simp [← hkept, hwaiting.status] at hstatus

/-- What was readable in `granted` past the start of the lease is stored and readable still. -/
structure KeptSince (granted : MemoryDomain) (retryID : UUID) (t : Int) (d : MemoryDomain) :
    Prop where
  state : LeaseState t d
  filed : ∃ r, d.rebootstrapRequests.get? retryID = some r
  kept : ∀ r subscription, d.Waiting t retryID r subscription → ∀ c, d.latestCheckpoint = some c →
    ∀ m ∈ granted.messages, granted.fenceVisible m.checkpointFenceID = true →
      c.startSequence < m.sequence →
      m ∈ d.messages ∧ d.fenceVisible m.checkpointFenceID = true

/-- Two leases of one identity start at the same sequence. -/
theorem SameLease.startSequence_eq {d d' : MemoryDomain} {subscription subscription' : Subscription}
    {c c' : MemoryCheckpoint} (hsame : SameLease r r') (hc : d.Pinned r subscription c)
    (hc' : d'.Pinned r' subscription' c') (hle : c.startSequence ≤ maximumSequence)
    (hle' : c'.startSequence ≤ maximumSequence) : c'.startSequence = c.startSequence := by
  have hcursor := hc'.result
  rw [hsame.result, hc.result, some.injEq] at hcursor
  have hdecode := decodeCursor_encodeCursor hle
  rw [hcursor, decodeCursor_encodeCursor hle'] at hdecode
  exact Except.ok.inj hdecode

theorem KeptSince.step {granted : MemoryDomain} (h : KeptSince granted retryID t d)
    (hadmits : ∀ now ∈ op.now, t ≤ now) (hstep : DomainStep s key op d d') :
    KeptSince granted retryID (op.now.getD t) d' := by
  obtain ⟨r, hfiled⟩ := h.filed
  have hstate := h.state.step hadmits hstep
  obtain ⟨r', hfiled', -⟩ := lease_kept (t := t) hstep hfiled
  refine ⟨hstate, ⟨r', hfiled'⟩, ?_⟩
  intro r' subscription' hwaiting' c' hc' m hm hvisible hpast
  obtain ⟨hsame, subscription, hwaiting⟩ := h.state.waiting_before hadmits hstep hfiled hwaiting'
  obtain ⟨c, hpinned⟩ := h.state.leases.pinned hwaiting.lease hwaiting.filed hwaiting.status
  obtain ⟨c'', hpinned'⟩ := hstate.leases.pinned hwaiting'.lease hwaiting'.filed hwaiting'.status
  have heq := hpinned'.latest
  rw [hc'] at heq
  cases heq
  obtain ⟨hcovered, hle⟩ := h.state.coverage.latest h.state.wellFormed hpinned.latest
  obtain ⟨-, hle'⟩ := hstate.coverage.latest hstate.wellFormed hpinned'.latest
  rw [hsame.startSequence_eq hpinned hpinned' hle hle'] at hpast
  obtain ⟨hm, hvisible⟩ := h.kept r subscription hwaiting c hpinned.latest m hm hvisible hpast
  refine h.state.wellFormed.visible_kept hstep hm hvisible fun c₀ hc₀ => ?_
  rw [hpinned.latest, some.injEq] at hc₀
  rw [← hc₀, ← hcovered]
  exact hpast

/-! ## The contract of a lease -/

/-- What leases promise at the instant `t`; `granted` is the domain as it was some time before. -/
structure LeaseContract (granted d : MemoryDomain) (t : Int) : Prop where
  /-- A subscription has at most one active lease. -/
  exclusive : ∀ retryID r retryID' r', d.ActiveLease t retryID r → d.ActiveLease t retryID' r' →
    r.subscriptionID = r'.subscriptionID → retryID = retryID'
  /-- A subscription with an active lease is not active. -/
  fenced : ∀ retryID r, d.ActiveLease t retryID r →
    ∃ subscription, d.subscriptions.get? r.subscriptionID = some subscription ∧
      (subscription.status = .rebootstrapRequired ∨ subscription.status = .revoked)
  /-- Whoever waits under a lease finds its checkpoint the latest one, with the root and everything
  retained in place, and nothing readable past its start deleted since the lease was there. -/
  pinned : ∀ retryID r subscription, d.Waiting t retryID r subscription →
    ∃ c, d.Pinned r subscription c ∧ c.state = .activated ∧
      (∃ m ∈ d.messages, m.messageID = r.request.rootMessageID) ∧
      (∀ messageID ∈ c.candidate.retainedMessageIDs, ∃ m ∈ d.messages, m.messageID = messageID) ∧
      ((granted.rebootstrapRequests.get? retryID).isSome = true →
        ∀ m ∈ granted.messages, granted.fenceVisible m.checkpointFenceID = true →
          c.startSequence < m.sequence → m ∈ d.messages)

/-- **Leases are exclusive and pin their checkpoint**, at every instant of every run whose clock
does not go back. -/
theorem leaseContract_of_run {granted : MemoryDomain} {ttl : Option Int} {start : Int}
    {ops ops' : List Operation}
    (hclock : Along Moment.step Moment.Admits (Moment.new ttl start) (ops ++ ops'))
    (hgranted : (run Moment.step (Moment.new ttl start) ops).store.domains.get? key = some granted)
    (hd : (run Moment.step (Moment.new ttl start) (ops ++ ops')).store.domains.get? key = some d)
    (ht : (run Moment.step (Moment.new ttl start) (ops ++ ops')).clock ≤ t) :
    LeaseContract granted d t := by
  have hstate := LeaseState.of_run hclock hd
  have hleases := hstate.leases.later ht
  refine ⟨fun _ _ _ _ => hleases.one, fun retryID r hr => ?_, fun retryID r subscription hr => ?_⟩
  · obtain ⟨subscription, hget, hstatus⟩ := hleases.fenced hr
    refine ⟨subscription, hget, ?_⟩
    cases hcase : subscription.status with
    | active => exact absurd hcase hstatus
    | rebootstrapRequired => exact .inl rfl
    | revoked => exact .inr rfl
  · obtain ⟨c, hpinned⟩ := hleases.pinned hr.lease hr.filed hr.status
    obtain ⟨id, hid, hget⟩ := latestCheckpoint_eq_some hpinned.latest
    have hmem := mem_latestTwo_of_latestCheckpointID hid
    have hretained : ∀ messageID ∈ c.candidate.retainedMessageIDs,
        ∃ m ∈ d.messages, m.messageID = messageID := by
      intro messageID hretained
      obtain ⟨m, hm, hid, -⟩ := hstate.wellFormed.checkpoints.retained hmem hget hretained
      exact ⟨m, hm, hid⟩
    refine ⟨c, hpinned, hstate.wellFormed.checkpoints.activated hmem hget,
      hretained _ hpinned.root, hretained, fun hfiled m hm hvisible hpast => ?_⟩
    -- From the earlier moment on, follow the domain with what has been kept since.
    obtain ⟨hbefore, hsince⟩ := along_append.mp hclock
    obtain ⟨r₁, hr₁⟩ := isSome_iff_exists.mp hfiled
    have hstart : KeptSince granted retryID (run Moment.step (Moment.new ttl start) ops).clock
        granted :=
      ⟨LeaseState.of_run hbefore hgranted, ⟨r₁, hr₁⟩, fun _ _ _ _ _ m hm hvisible _ =>
        ⟨hm, hvisible⟩⟩
    obtain ⟨d', hd', hkept⟩ := domain_history Moment.store (fun _ _ => rfl)
      (I := fun m d => KeptSince granted retryID m.clock d)
      (fun m op d d' _ hadmits _ h hstep => h.step hadmits hstep)
      (Moment.reachable_run ttl start ops) hgranted hstart hsince
    rw [← run_append] at hd' hkept
    rw [hd, some.injEq] at hd'
    subst hd'
    have hwaiting := hr.lease.earlier (hstate.leases.clocked hr.lease.filed) ht
    exact (hkept.kept r subscription ⟨hwaiting, hr.filed, hr.status⟩ c hpinned.latest m hm hvisible
      hpast).1

end MemoryDomain

open Sample

/-- The reader asks for recovery from the checkpoint, and the writer goes on. -/
def Sample.recovery : List Operation :=
  [.requestSubscriptionRebootstrap reader ⟨70, 60, 101, 0, 300000⟩ 11,
   .publish writer (envelope 102 3) 12]

theorem leaseContract_sample : ∃ granted d r subscription, (run Moment.step (Moment.new none 0)
        (setup ++ activation ++ recovery)).store.domains.get? ⟨1, 2⟩ = some granted ∧
      (run Moment.step (Moment.new none 0) ((setup ++ activation ++ recovery) ++
        [.publish writer (envelope 103 3) 13])).store.domains.get? ⟨1, 2⟩ = some d ∧
      (granted.messages.map MemoryMessage.messageID = [100, 101, 102] ∧
        (granted.rebootstrapRequests.get? 70).isSome = true) ∧
      d.Waiting 14 70 r subscription ∧ granted.LeaseContract d 14 := by
  have hclock : Along Moment.step Moment.Admits (Moment.new none 0)
      ((setup ++ activation ++ recovery) ++
        [.publish writer (envelope 103 3) 13]) := by decide +kernel
  have hlast : (run Moment.step (Moment.new none 0)
      ((setup ++ activation ++ recovery) ++
        [.publish writer (envelope 103 3) 13])).clock ≤ 14 := by decide +kernel
  obtain ⟨granted, hgranted, hsample⟩ : ∃ granted ∈ (run Moment.step (Moment.new none 0)
      (setup ++ activation ++ recovery)).store.domains.get? ⟨1, 2⟩,
        granted.messages.map MemoryMessage.messageID = [100, 101, 102] ∧
        (granted.rebootstrapRequests.get? 70).isSome = true := by decide +kernel
  obtain ⟨d, hd, r, hr, subscription, hsub, hactive, hstatus⟩ :
      ∃ d ∈ (run Moment.step (Moment.new none 0) ((setup ++ activation ++ recovery) ++
        [.publish writer (envelope 103 3) 13])).store.domains.get? ⟨1, 2⟩,
      ∃ r ∈ d.rebootstrapRequests.get? 70,
      ∃ subscription ∈ d.subscriptions.get? r.subscriptionID,
        d.memoryRebootstrapRequestIsActive 70 r 14 = true ∧
        subscription.status = .rebootstrapRequired := by decide +kernel
  exact ⟨granted, d, r, subscription, hgranted, hd, hsample, ⟨⟨hr, hactive⟩, hsub, hstatus⟩,
    MemoryDomain.leaseContract_of_run hclock hgranted hd hlast⟩

end FacetsNode.Relay
