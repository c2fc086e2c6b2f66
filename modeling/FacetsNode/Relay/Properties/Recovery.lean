import FacetsNode.Relay.Properties.Delivery
import FacetsNode.Relay.Properties.Latest
import FacetsNode.Relay.Properties.Subscriptions

/-!
# What a completed recovery leaves to read

`completeSubscriptionRebootstrap` lets the client say how far it has applied its tail, and asks for
receipts up to there only. The rest is left to ordinary polling, and polling does not return what
the subscription published itself. So a completion loses nothing exactly when the subscription has
applied its own messages past the cursor it completes with.

* `Polling` — a client that polls, whatever else happens to the store in between;
* `Polling.returns` — it is given every readable message of the others;
* `exists_polling` — it is never given its own;
* `MemoryStore.completion_losesNothing` — the two halves, put together.
-/

namespace FacetsNode.Relay

open Attempt

/-! ## Polling -/

open MemoryStore

/-- `k` rounds of polling from the cursor `after`: any operations, and then a `fetch` from where the
round before ended. All along the member's subscription `id` is active and `m` is stored. -/
inductive Polling (credential : Credential) (id : UUID) (m : MemoryMessage) :
    Nat → Nat → MemoryStore → List Message → Prop
  | done {after s} : Polling credential id m 0 after s []
  | round {k after s ops d subscription limit now page received}
      (hd : (run Operation.apply s ops).domains.get? ⟨credential.tenantID, credential.domainID⟩ =
        some d)
      (hm : m ∈ d.messages)
      (hsub : d.activeMemberSubscription credential.memberID = .ok subscription)
      (hid : subscription.subscriptionID = id)
      (hfetch : (fetch credential after limit now (run Operation.apply s ops)).1 = .ok page)
      (hrest : Polling credential id m k page.nextSequence
        (fetch credential after limit now (run Operation.apply s ops)).2 received) :
      Polling credential id m (k + 1) after s (page.messages ++ received)

/-- Whoever polls from `after` is given `m`, at the latest after as many rounds as there are
sequences in between. -/
def Brings (credential : Credential) (id : UUID) (after : Nat) (s : MemoryStore)
    (m : MemoryMessage) : Prop :=
  ∀ k received, Polling credential id m k after s received → m.sequence - after ≤ k →
    m.message ∈ received

variable {s : MemoryStore} {op : Operation} {key : DomainKey} {credential : Credential}
  {m : MemoryMessage} {id : UUID} {k after : Nat} {received : List Message}

namespace MemoryDomain

variable {d d' : MemoryDomain} {subscription : Subscription} {now : Int} {start limit : Nat}

/-- What stays true of a message and a subscription that may read it: while the one is stored it is
readable, and while the other is active it reads from wherever it likes. -/
structure Settled (m : MemoryMessage) (id : UUID) (d : MemoryDomain) : Prop where
  counted : m.sequence ≤ d.nextSequence
  visible : m ∈ d.messages → d.fenceVisible m.checkpointFenceID = true
  unbound : ∃ subscription, d.subscriptions.get? id = some subscription ∧
    (subscription.status = .active → subscription.startCursor = none)

theorem Settled.step (h : Settled m id d) (hkeyed : SubscriptionsKeyed d.subscriptions)
    (hnil : id ≠ uuidNil) (hstep : DomainStep s key op d d') : Settled m id d' := by
  obtain ⟨hnext, hmessages⟩ := messages_step hstep
  refine ⟨h.counted.trans hnext, fun hm => ?_, ?_⟩
  · -- Its sequence was given before, so it is not a new message.
    have hold := (hmessages m hm).resolve_right (not_lt.mpr h.counted)
    exact fenceVisible_step hstep (h.visible hold)
  · obtain ⟨subscription, hget, hstart⟩ := h.unbound
    obtain ⟨subscription', hget', hkept⟩ :=
      (SubscriptionsStep.of_step hkeyed hstep).get? hnil hget
    refine ⟨subscription', hget', fun hactive => ?_⟩
    rcases hkept with rfl | ⟨hsuspended, -⟩ | ⟨-, hrestored⟩
    · exact hstart hactive
    · exact absurd hactive hsuspended
    · exact hrestored

theorem Settled.run (hs : Reachable s) (hd : s.domains.get? key = some d) (h : Settled m id d)
    (hnil : id ≠ uuidNil) (ops : List Operation) :
    ∃ d', (FacetsNode.run Operation.apply s ops).domains.get? key = some d' ∧ Settled m id d' := by
  refine domain_history (fun s => s) (fun _ _ => rfl) (P := fun _ _ => True)
    (I := fun _ d => Settled m id d) ?_ hs hd h (along_true ops)
  intro s op d d' hs _ hd h hstep
  exact h.step (.of_reachable hs hd) hnil hstep

theorem readableMemberSubscription_expiry (hexpiry : Expiry op d d') (memberID : UUID) :
    d'.readableMemberSubscription memberID = d.readableMemberSubscription memberID :=
  hexpiry.frame (fun d => d.readableMemberSubscription memberID) fun _ _ _ _ _ => rfl

/-- A page without a message it could have had ends before that message, and past its start. -/
theorem fetchPage_progress (hwf : d.WellFormed) (hlimit : 0 < limit) (hm : m ∈ d.messages)
    (hdeliverable : d.deliverable subscription start now m = true)
    (hnot : m.message ∉ (d.fetchPage subscription start limit now).messages) :
    start < (d.fetchPage subscription start limit now).nextSequence ∧
      (d.fetchPage subscription start limit now).nextSequence < m.sequence := by
  refine ⟨?_, not_le.mp fun hle => hnot (mem_fetchPage hwf hlimit hm hdeliverable hle)⟩
  rcases fetchPage_nextSequence d subscription start now hlimit with
    ⟨last, -, hlast, -, hnext⟩ | ⟨hall, -⟩
  · rw [hnext]
    exact start_lt_of_deliverable hlast
  · -- A page that is not full has everything.
    refine absurd ?_ hnot
    refine List.mem_map_of_mem (f := MemoryMessage.message) ?_
    rw [hall]
    exact List.mem_filter.mpr ⟨hm, hdeliverable⟩

end MemoryDomain

open MemoryDomain

variable {d : MemoryDomain} {subscription : Subscription} {limit now : Int} {start : Nat}

/-- What a `fetch` of an active subscription without a start cursor answers. -/
theorem MemoryStore.fetch_active
    {page} (hd : s.domains.get? ⟨credential.tenantID, credential.domainID⟩ = some d)
    (hsub : d.activeMemberSubscription credential.memberID = .ok subscription)
    (hstart : subscription.startCursor = none)
    (hfetch : (fetch credential after limit now s).1 = .ok page) :
    0 < limit.toNat ∧ page = (d.refreshMemoryFence now).fetchPage subscription after limit.toNat now ∧
      (fetch credential after limit now s).2 =
        s.setDomain ⟨credential.tenantID, credential.domainID⟩ (d.refreshMemoryFence now) := by
  obtain ⟨⟨hlimit, -⟩, d₀, subscription', start, hd₀, hleft, hreadable, hfetchStart, rfl⟩ :=
    fetch_eq_ok hfetch
  rw [authorizedMember_eq_ok hd₀, Option.some.injEq] at hd
  subst hd
  have hexpiry : Expiry (.fetch credential after limit now) d₀ (d₀.refreshMemoryFence now) :=
    .due rfl
  rw [readableMemberSubscription_expiry hexpiry,
    (readableMemberSubscription_of_active hsub).1, Except.ok.injEq] at hreadable
  subst hreadable
  rw [fetchStart, hstart, Except.ok.injEq] at hfetchStart
  subst hfetchStart
  exact ⟨by omega, rfl, hleft⟩

/-- **Polling returns what the others wrote.** Every round that does not bring the message moves the
cursor towards it. -/
theorem Polling.returns (hnil : id ≠ uuidNil) (hother : m.publisherSubscription ≠ id)
    (hpolling : Polling credential id m k after s received) (hs : Reachable s)
    (hd : s.domains.get? ⟨credential.tenantID, credential.domainID⟩ = some d)
    (h : Settled m id d) (hafter : after < m.sequence) (hk : m.sequence - after ≤ k) :
    m.message ∈ received := by
  induction hpolling generalizing d with
  | done => omega
  | @round k after s ops d₁ subscription limit now page received hd₁ hm hsub hid hfetch _ ih =>
    obtain ⟨d₁', hd₁', h₁⟩ := h.run hs hd hnil ops
    rw [hd₁, Option.some.injEq] at hd₁'
    subst hd₁'
    have hs₁ : Reachable (run Operation.apply s ops) :=
      reachable_run (fun s => s) (fun _ _ => rfl) hs ops
    obtain ⟨hreadable, hactive⟩ := readableMemberSubscription_of_active hsub
    obtain ⟨hget, -⟩ := (SubscriptionsKeyed.of_reachable hs₁ hd₁).readable hreadable
    have hstart : subscription.startCursor = none := by
      obtain ⟨subscription', hget', hstart⟩ := h₁.unbound
      rw [← hid, hget, Option.some.injEq] at hget'
      subst hget'
      exact hstart hactive
    obtain ⟨hlimit, rfl, hleft⟩ := fetch_active hd₁ hsub hstart hfetch
    have hwf := WellFormed.of_reachable hs₁ hd₁
    have hexpiry : Expiry (.fetch credential after limit now) d₁ (d₁.refreshMemoryFence now) :=
      .due rfl
    obtain ⟨hm', hvisible⟩ := hwf.visible_expiry hexpiry hm (h₁.visible hm)
    have hdeliverable : (d₁.refreshMemoryFence now).deliverable subscription after now m = true :=
      (deliverable_of_active hactive).mpr ⟨hafter, hid ▸ hother, hvisible⟩
    rw [List.mem_append]
    by_cases hmem : m.message ∈ ((d₁.refreshMemoryFence now).fetchPage subscription after
        limit.toNat now).messages
    · exact .inl hmem
    · obtain ⟨hpast, hbefore⟩ :=
        fetchPage_progress (hwf.expiry hexpiry) hlimit hm' hdeliverable hmem
      -- The next round starts in a store one `fetch` later.
      obtain ⟨d₂, hd₂, h₂⟩ := h₁.run hs₁ hd₁ hnil [.fetch credential after limit now]
      exact .inr (ih (hs₁.apply (.fetch credential after limit now)) hd₂ h₂ hbefore (by omega))

/-! ## A subscription's own messages -/

/-- The wire form of a message names its sequence, so the page tells stored messages apart. -/
theorem MemoryDomain.own_notMem_fetchPage
    {limit : Nat} (hwf : d.WellFormed) (hactive : subscription.status = .active)
    (hm : m ∈ d.messages) (hown : m.publisherSubscription = subscription.subscriptionID) :
    m.message ∉ (d.fetchPage subscription start limit now).messages := by
  intro hmem
  obtain ⟨m', hm', heq⟩ := List.mem_map.mp hmem
  obtain ⟨hstored, hdeliverable⟩ := List.mem_filter.mp (List.mem_of_mem_take hm')
  have hsame : m' = m := by
    refine hwf.messages.log.eq_of_messageID hstored hm ?_
    exact congrArg (fun message : Message => message.envelope.messageID) heq
  subst hsame
  exact ((deliverable_of_active hactive).mp hdeliverable).2.1 hown

theorem MemoryDomain.fetchPage_le (hwf : d.WellFormed)
    (subscription : Subscription) (now : Int) {limit n : Nat} (hlimit : 0 < limit)
    (hstart : start ≤ n) (hnext : d.nextSequence ≤ n) :
    (d.fetchPage subscription start limit now).nextSequence ≤ n := by
  rcases fetchPage_nextSequence d subscription start now hlimit with
    ⟨last, hlast, -, -, hpage⟩ | ⟨-, hpage⟩
  · rw [hpage]
    exact (hwf.messages.log.bounded last hlast).trans hnext
  · rw [hpage]
    exact max_le hstart ((foldl_boundWatermark_le _ _).trans hnext)

/-- An active subscription without a start cursor may fetch whenever its member may. -/
theorem MemoryStore.fetch_of_active
    (hlimit : 0 < limit ∧ limit ≤ maximumPageSize ∧ after ≤ maximumSequence)
    (hauth : s.authorizedMember credential .fetchMessage now = .ok d)
    (hsub : d.activeMemberSubscription credential.memberID = .ok subscription)
    (hstart : subscription.startCursor = none) :
    ∃ page, (fetch credential after limit now s).1 = .ok page := by
  obtain ⟨hreadable, hactive⟩ := readableMemberSubscription_of_active hsub
  have hexpiry : Expiry (.fetch credential after limit now) d (d.refreshMemoryFence now) := .due rfl
  rw [← readableMemberSubscription_expiry hexpiry] at hreadable
  have hvalid : ¬ (limit ≤ 0 ∨ limit > maximumPageSize ∨ after > maximumSequence) := by omega
  refine ⟨(d.refreshMemoryFence now).fetchPage subscription after limit.toNat now, ?_⟩
  have hbody : (MemoryDomain.fetch credential.memberID after limit.toNat now d).1 =
      .ok ((d.refreshMemoryFence now).fetchPage subscription after limit.toNat now) := by
    simp [MemoryDomain.fetch, Attempt.modify, Attempt.get, Attempt.ofExcept, rejectIf, bind, pure,
      hreadable, hactive, fetchStart, hstart]
  simp only [fetch, asMember, onDomain, hauth, rejectIf, bind, if_neg hvalid]
  exact hbody

/-- Expiry takes no authority from a member. -/
theorem MemoryStore.authorizedMember_setDomain {capability}
    (hauth : s.authorizedMember credential capability now = .ok d) (now' : Int) :
    (s.setDomain ⟨credential.tenantID, credential.domainID⟩
      (d.refreshMemoryFence now')).authorizedMember credential capability now =
        .ok (d.refreshMemoryFence now') := by
  have hexpiry : Expiry (.fetch credential 0 0 now') d (d.refreshMemoryFence now') := .due rfl
  have hmembers : (d.refreshMemoryFence now').members = d.members :=
    hexpiry.frame MemoryDomain.members fun _ _ _ _ _ => rfl
  unfold authorizedMember at hauth ⊢
  rw [get?_setDomain, if_pos rfl]
  dsimp only
  rw [authorizedMember_eq_ok hauth] at hauth
  dsimp only at hauth
  rw [hmembers]
  split at hauth
  · cases hauth
  · next member hmember =>
    obtain ⟨_, hmay, -⟩ := bind_eq_ok.mp hauth
    exact bind_eq_ok.mpr ⟨_, hmay, rfl⟩

/-- **Polling never returns what the subscription wrote itself**, for any number of rounds. -/
theorem exists_polling {page} (hs : Reachable s)
    (hd : s.domains.get? ⟨credential.tenantID, credential.domainID⟩ = some d)
    (hm : m ∈ d.messages) (hvisible : d.fenceVisible m.checkpointFenceID = true)
    (hsub : d.activeMemberSubscription credential.memberID = .ok subscription)
    (hstart : subscription.startCursor = none)
    (hown : m.publisherSubscription = subscription.subscriptionID)
    (hrange : d.nextSequence ≤ maximumSequence)
    (hfetch : (fetch credential after limit now s).1 = .ok page) (k : Nat) :
    ∃ received, Polling credential subscription.subscriptionID m k after s received ∧
      m.message ∉ received := by
  induction k generalizing s d after page with
  | zero => exact ⟨[], .done, by simp⟩
  | succ k ih =>
    obtain ⟨⟨hpositive, hmaximum, hafter⟩, d₀, -, -, hauth, -⟩ := fetch_eq_ok hfetch
    obtain ⟨hlimit, rfl, hleft⟩ := fetch_active hd hsub hstart hfetch
    have hd₀ := authorizedMember_eq_ok hauth
    rw [hd, Option.some.injEq] at hd₀
    subst hd₀
    have hexpiry : Expiry (.fetch credential after limit now) d (d.refreshMemoryFence now) :=
      .due rfl
    have hwf := WellFormed.of_reachable hs hd
    have hwf₁ := hwf.expiry hexpiry
    obtain ⟨hm₁, hvisible₁⟩ := hwf.visible_expiry hexpiry hm hvisible
    have hnext : (d.refreshMemoryFence now).nextSequence = d.nextSequence :=
      hexpiry.frame MemoryDomain.nextSequence fun _ _ _ _ _ => rfl
    have hsub₁ : (d.refreshMemoryFence now).activeMemberSubscription credential.memberID =
        .ok subscription :=
      (hexpiry.frame (fun d => d.activeMemberSubscription credential.memberID)
        fun _ _ _ _ _ => rfl).trans hsub
    have hactive := (readableMemberSubscription_of_active hsub).2
    -- The cursor stays in range, so the next `fetch` is answered too.
    have hcursor := fetchPage_le hwf₁ subscription now hlimit hafter (hnext ▸ hrange)
    obtain ⟨page', hfetch'⟩ := fetch_of_active ⟨hpositive, hmaximum, hcursor⟩
      (authorizedMember_setDomain hauth now) hsub₁ hstart
    rw [← hleft] at hfetch'
    have hd₁ : (fetch credential after limit now s).2.domains.get?
        ⟨credential.tenantID, credential.domainID⟩ = some (d.refreshMemoryFence now) := by
      rw [hleft, get?_setDomain, if_pos rfl]
    obtain ⟨received, hpolling, hnot⟩ := ih (hs.apply (.fetch credential after limit now)) hd₁
      hm₁ hvisible₁ hsub₁ (hnext ▸ hrange) hfetch'
    have hround : Polling credential subscription.subscriptionID m (k + 1) after s
        (((d.refreshMemoryFence now).fetchPage subscription after limit.toNat now).messages ++
          received) :=
      @Polling.round credential _ m k after s [] d subscription limit now _ received hd hm hsub rfl
        hfetch hpolling
    refine ⟨_, hround, ?_⟩
    rw [List.mem_append, not_or]
    exact ⟨own_notMem_fetchPage hwf₁ hactive hm₁ hown, hnot⟩

/-! ## Completion -/

/-- What an accepted completion has checked, and what it leaves. -/
theorem MemoryStore.completion_eq_ok {completion result}
    (h : (completeSubscriptionRebootstrap credential completion now s).1 = .ok result)
    (haccepted : result.acceptance = .accepted) :
    ∃ d subscription cursor start through,
      s.domains.get? ⟨credential.tenantID, credential.domainID⟩ = some d ∧
      decodeCursor completion.completedThroughCursor = .ok through ∧
      (d.refreshMemoryFence now).readableMemberSubscription credential.memberID = .ok subscription ∧
      subscription.startCursor = some cursor ∧ decodeCursor cursor = .ok start ∧ start ≤ through ∧
      (∀ m ∈ (d.refreshMemoryFence now).messages, (d.refreshMemoryFence now).missesReceipt
        subscription.subscriptionID start through m = false) ∧
      (completeSubscriptionRebootstrap credential completion now s).2 =
        s.setDomain ⟨credential.tenantID, credential.domainID⟩
          ((d.refreshMemoryFence now).fileRebootstrapCompletion completion
            (restoredSubscription subscription now) start) := by
  have hends : Ends (completeSubscriptionRebootstrap credential completion now) s (fun r s' =>
      r = .ok result → ∃ d subscription cursor start through,
        s.domains.get? ⟨credential.tenantID, credential.domainID⟩ = some d ∧
        decodeCursor completion.completedThroughCursor = .ok through ∧
        (d.refreshMemoryFence now).readableMemberSubscription credential.memberID =
          .ok subscription ∧
        subscription.startCursor = some cursor ∧ decodeCursor cursor = .ok start ∧
        start ≤ through ∧
        (∀ m ∈ (d.refreshMemoryFence now).messages, (d.refreshMemoryFence now).missesReceipt
          subscription.subscriptionID start through m = false) ∧
        s' = s.setDomain ⟨credential.tenantID, credential.domainID⟩
          ((d.refreshMemoryFence now).fileRebootstrapCompletion completion
            (restoredSubscription subscription now) start)) := by
    -- Down the one path of the source that answers `accepted`; every other one ends in an error, or
    -- in the answer of a repeated request.
    refine ends_ofExcept (fun _ _ h => by cases h) fun _ _ => ?_
    refine ends_ofExcept (fun _ _ h => by cases h) fun through hthrough => ?_
    refine ends_asMember (fun _ h => by cases h) fun d hd => ?_
    unfold MemoryDomain.completeSubscriptionRebootstrap
    refine ends_modify (ends_get ?_)
    refine ends_ofExcept (fun _ _ h => by cases h) fun subscription hsub => ?_
    split
    · split
      · refine ends_pure fun h => ?_
        cases h
        cases haccepted
      · exact ends_fail fun h => by cases h
    · split
      · exact ends_fail fun h => by cases h
      · next cursor hcursor =>
        refine ends_rejectIf (fun _ h => by cases h) fun _ => ?_
        refine ends_ofExcept (fun _ _ h => by cases h) fun _ _ => ?_
        refine ends_rejectIf (fun _ h => by cases h) fun _ => ?_
        refine ends_ofExcept (fun _ _ h => by cases h) fun start hstart => ?_
        refine ends_rejectIf (fun _ h => by cases h) fun hthroughs => ?_
        refine ends_rejectIf (fun _ h => by cases h) fun hreceipts => ?_
        refine ends_modify (ends_pure fun _ => ?_)
        refine ⟨d, subscription, cursor, start, through, hd, hthrough, hsub, hcursor, hstart,
          by omega, ?_, rfl⟩
        intro m hm
        simp only [List.any_eq_true, not_exists, not_and, Bool.not_eq_true] at hreceipts
        exact hreceipts m hm
  exact hends h

/-- The member's subscription is active once its recovery is completed. -/
theorem MemoryDomain.activeMemberSubscription_restored {memberID}
    (hkeyed : SubscriptionsKeyed d.subscriptions)
    (hsub : d.readableMemberSubscription memberID = .ok subscription)
    (completion : SubscriptionRebootstrapCompletion) (start : Nat) (now : Int) :
    (d.fileRebootstrapCompletion completion (restoredSubscription subscription now)
      start).activeMemberSubscription memberID = .ok (restoredSubscription subscription now) := by
  unfold readableMemberSubscription at hsub
  split at hsub
  · cases hsub
  · next subscriptionID hmember =>
    split at hsub
    · cases hsub
    · next hnil =>
      split at hsub
      · cases hsub
      · next subscription' hget =>
        have hid := hkeyed _ _ hget
        split at hsub
        · cases hsub
        · cases hsub
          have hrestored : (d.fileRebootstrapCompletion completion
              (restoredSubscription subscription now) start).subscriptions.get?
                subscriptionID = some (restoredSubscription subscription now) := by
            rw [← hid]
            exact GoMap.get?_set_self _ _ _
          have hmember' : (d.fileRebootstrapCompletion completion
              (restoredSubscription subscription now) start).memberSubscriptions.get?
                memberID = some subscriptionID := hmember
          simp only [activeMemberSubscription, readableMemberSubscription, hmember',
            if_neg hnil, hrestored]
          simp [restoredSubscription, rejectWhen, bind, Except.bind]

/-- Every readable message past `start` is applied, or polling from `through` brings it. -/
def LosesNothing (credential : Credential) (id : UUID) (start through : Nat) (d : MemoryDomain)
    (s : MemoryStore) : Prop :=
  ∀ m ∈ d.messages, d.fenceVisible m.checkpointFenceID = true → start < m.sequence →
    (d.acknowledgmentsOf m).get? id = some .applied ∨ Brings credential id through s m

/-- The subscription has applied every readable message past `through` that it published. -/
def MemoryDomain.OwnTailApplied (d : MemoryDomain) (id : UUID) (through : Nat) : Prop :=
  ∀ m ∈ d.messages, d.fenceVisible m.checkpointFenceID = true → m.publisherSubscription = id →
    through < m.sequence → (d.acknowledgmentsOf m).get? id = some .applied

/-- Everything readable up to the completed cursor is applied. -/
theorem MemoryDomain.applied_of_missesReceipt {through : Nat}
    (h : d.missesReceipt id start through m = false) (hstart : start < m.sequence)
    (hthrough : m.sequence ≤ through) (hvisible : d.fenceVisible m.checkpointFenceID = true) :
    (d.acknowledgmentsOf m).get? id = some .applied := by
  unfold missesReceipt at h
  simpa [hstart, hthrough, hvisible] using h

/-- **A completed recovery.** It loses nothing if the subscription has applied its own messages past
the completed cursor; and where the member may fetch and the cursors are in range, only then. -/
theorem MemoryStore.completion_losesNothing {completion : SubscriptionRebootstrapCompletion}
    {now : Int} {result : SubscriptionRebootstrapCompletionResponse} {through : Nat}
    {d d' : MemoryDomain} {subscription : Subscription} (hs : Reachable s)
    (hcomplete : (completeSubscriptionRebootstrap credential completion now s).1 = .ok result)
    (haccepted : result.acceptance = .accepted)
    (hthrough : decodeCursor completion.completedThroughCursor = .ok through)
    (hd : s.domains.get? ⟨credential.tenantID, credential.domainID⟩ = some d)
    (hsub : d.readableMemberSubscription credential.memberID = .ok subscription)
    (hd' : (completeSubscriptionRebootstrap credential completion now s).2.domains.get?
      ⟨credential.tenantID, credential.domainID⟩ = some d') :
    (d.OwnTailApplied subscription.subscriptionID through →
      LosesNothing credential subscription.subscriptionID subscription.startSequence through d'
        (completeSubscriptionRebootstrap credential completion now s).2) ∧
    ((∃ limit now' page, (fetch credential through limit now'
        (completeSubscriptionRebootstrap credential completion now s).2).1 = .ok page) →
      d'.nextSequence ≤ maximumSequence →
      LosesNothing credential subscription.subscriptionID subscription.startSequence through d'
        (completeSubscriptionRebootstrap credential completion now s).2 →
      d.OwnTailApplied subscription.subscriptionID through) := by
  have hs' : Reachable (completeSubscriptionRebootstrap credential completion now s).2 :=
    hs.apply (.completeSubscriptionRebootstrap credential completion now)
  obtain ⟨d₀, subscription', cursor, start, through', hd₀, hthrough', hsub', hcursor, hstart, hle,
    hreceipts, hleft⟩ := completion_eq_ok hcomplete haccepted
  rw [hd, Option.some.injEq] at hd₀
  subst hd₀
  rw [hthrough, Except.ok.injEq] at hthrough'
  subst hthrough'
  have hexpiry : Expiry (.completeSubscriptionRebootstrap credential completion now) d
    (d.refreshMemoryFence now) := .due rfl
  rw [readableMemberSubscription_expiry hexpiry, hsub, Except.ok.injEq] at hsub'
  subst hsub'
  have hfrom : subscription.startSequence = start := by
    unfold Subscription.startSequence
    simp [hcursor, hstart, Except.toOption]
  rw [hleft, get?_setDomain, if_pos rfl, Option.some.injEq] at hd'
  rw [hfrom]
  have hwf := WellFormed.of_reachable hs hd
  have hkeyed := SubscriptionsKeyed.of_reachable hs hd
  obtain ⟨hget, hnil, -⟩ := hkeyed.readable hsub
  -- What is readable is the same before and after, and so are the receipts for it.
  have hacks : ∀ m, d'.acknowledgmentsOf m = d.acknowledgmentsOf m := by
    intro m
    rw [← hd']
    exact hexpiry.frame (fun d => d.acknowledgmentsOf m) fun _ _ _ _ _ => rfl
  have hvisible : ∀ o, d'.fenceVisible o = d.fenceVisible o := by
    intro o
    rw [← hd']
    exact fenceVisible_expiry hexpiry o
  have hmessages : d'.messages = (d.refreshMemoryFence now).messages := by rw [← hd']; rfl
  have hd'' : (completeSubscriptionRebootstrap credential completion now s).2.domains.get?
      ⟨credential.tenantID, credential.domainID⟩ = some d' := by
    rw [hleft, get?_setDomain, if_pos rfl, hd']
  have hrestored : d'.subscriptions.get? subscription.subscriptionID =
      some (restoredSubscription subscription now) := by
    rw [← hd']
    exact GoMap.get?_set_self _ _ _
  constructor
  · intro hown m hm hvis hpast
    by_cases hbound : m.sequence ≤ through
    · -- Up to the completed cursor the completion has asked for the receipt.
      refine .inl ?_
      rw [hmessages] at hm
      rw [hvisible, ← fenceVisible_expiry hexpiry] at hvis
      rw [← hd']
      exact applied_of_missesReceipt (hreceipts m hm) hpast hbound hvis
    · rw [not_le] at hbound
      by_cases hpublisher : m.publisherSubscription = subscription.subscriptionID
      · refine .inl ?_
        rw [hacks]
        refine hown m ?_ (hvisible _ ▸ hvis) hpublisher hbound
        exact mem_messages_of_expiry hexpiry (hmessages ▸ hm)
      · refine .inr fun k received hpolling hk => ?_
        have hwf' := WellFormed.of_reachable hs' hd''
        exact hpolling.returns hnil hpublisher hs' hd''
          ⟨hwf'.messages.log.bounded m hm, fun _ => hvis, _, hrestored, fun _ => rfl⟩ hbound hk
  · rintro ⟨limit, now', page, hfetch⟩ hrange hloses m hm hvis hpublisher hbound
    obtain ⟨hm₁, hvis₁⟩ := hwf.visible_expiry hexpiry hm hvis
    rcases hloses m (hmessages ▸ hm₁) (hvisible _ ▸ hvis) (by omega) with happlied | hbrings
    · rw [← hacks]
      exact happlied
    · -- The session of fetches and nothing else does not bring it.
      have hactive : d'.activeMemberSubscription credential.memberID =
          .ok (restoredSubscription subscription now) := by
        rw [← hd']
        refine activeMemberSubscription_restored ?_ ?_ completion start now
        · rw [hexpiry.subscriptions]
          exact hkeyed
        · exact (readableMemberSubscription_expiry hexpiry _).trans hsub
      obtain ⟨received, hpolling, hnot⟩ := exists_polling hs' hd'' (hmessages ▸ hm₁)
        (hvisible _ ▸ hvis) hactive rfl hpublisher hrange hfetch (m.sequence - through)
      exact absurd (hbrings _ received hpolling le_rfl) hnot

open Sample

/-- The reader recovers from the activated checkpoint and has applied its root message. -/
def Sample.recovering : List Operation :=
  [.requestSubscriptionRebootstrap reader ⟨70, 60, 101, 0, 300000⟩ 11,
   .acknowledge reader 101 .accepted 12,
   .acknowledge reader 101 .applied 12]

/-- It completes with the cursor of that message. -/
def Sample.completion : SubscriptionRebootstrapCompletion :=
  ⟨71, 70, 60, 101, encodeCursor 2, 13⟩

/-- The reader publishes before it recovers, and has applied its own message too. -/
def Sample.ownApplied : List Operation :=
  activation ++ .publish reader (envelope 102 4) 11 :: recovering ++
    [.acknowledge reader 102 .accepted 12, .acknowledge reader 102 .applied 12]

theorem completion_losesNothing_sample : ∃ d d' result, ∃ subscription : Subscription,
      (store ownApplied).domains.get? ⟨1, 2⟩ = some d ∧
      (completeSubscriptionRebootstrap reader completion 13
        (store ownApplied)).2.domains.get? ⟨1, 2⟩ = some d' ∧
      (completeSubscriptionRebootstrap reader completion 13 (store ownApplied)).1 = .ok result ∧
      result.acceptance = .accepted ∧
      (∃ m ∈ d.messages, m.publisherSubscription = subscription.subscriptionID ∧ 2 < m.sequence) ∧
      d.OwnTailApplied subscription.subscriptionID 2 ∧
      LosesNothing reader subscription.subscriptionID subscription.startSequence 2 d'
        (completeSubscriptionRebootstrap reader completion 13 (store ownApplied)).2 := by
  have hreach := reachable ownApplied
  generalize hs : store ownApplied = s at hreach ⊢
  obtain ⟨d, hd, d', hd', result, hresult, subscription, hsub, haccepted, htail, happlied⟩ :
      ∃ d ∈ s.domains.get? ⟨1, 2⟩,
      ∃ d' ∈ (completeSubscriptionRebootstrap reader completion 13 s).2.domains.get? ⟨1, 2⟩,
      ∃ result, (completeSubscriptionRebootstrap reader completion 13 s).1 = .ok result ∧
      ∃ subscription, d.readableMemberSubscription 4 = .ok subscription ∧
        result.acceptance = .accepted ∧
        (∃ m ∈ d.messages, m.publisherSubscription = subscription.subscriptionID ∧ 2 < m.sequence) ∧
        ∀ m ∈ d.messages, m.publisherSubscription = subscription.subscriptionID → 2 < m.sequence →
          (d.acknowledgmentsOf m).get? subscription.subscriptionID = some .applied := by
    subst hs
    set_option synthInstance.maxSize 1024 in decide +kernel
  have hown : d.OwnTailApplied subscription.subscriptionID 2 :=
    fun m hm _ hpublisher hpast => happlied m hm hpublisher hpast
  have hthrough : decodeCursor completion.completedThroughCursor = .ok 2 := by decide +kernel
  exact ⟨d, d', result, subscription, hd, hd', hresult, haccepted, htail, hown,
    (completion_losesNothing hreach hresult haccepted hthrough hd hsub hd').1 hown⟩

/-- The reader publishes before it recovers, and completes as before: its message is not applied,
and polling does not bring it. -/
theorem completion_loses_own : ∃ d d' subscription result,
      (store (activation ++ .publish reader (envelope 102 4) 11 ::
        recovering)).domains.get? ⟨1, 2⟩ = some d ∧
      (completeSubscriptionRebootstrap reader completion 13
        (store (activation ++ .publish reader (envelope 102 4) 11 ::
          recovering))).2.domains.get? ⟨1, 2⟩ = some d' ∧
      (completeSubscriptionRebootstrap reader completion 13
        (store (activation ++ .publish reader (envelope 102 4) 11 :: recovering))).1 = .ok result ∧
      result.acceptance = .accepted ∧ d.readableMemberSubscription 4 = .ok subscription ∧
      ¬ LosesNothing reader subscription.subscriptionID subscription.startSequence 2 d'
        (completeSubscriptionRebootstrap reader completion 13
          (store (activation ++ .publish reader (envelope 102 4) 11 :: recovering))).2 := by
  generalize hs : store (activation ++ .publish reader (envelope 102 4) 11 :: recovering) = s
  obtain ⟨d, hd, subscription, hsub, hstart, result, hresult, haccepted, d', hd', active, hactive,
      hsame, page, hpage, m, hm, hsequence, hvisible, hunapplied, hempty⟩ :
      ∃ d ∈ s.domains.get? ⟨1, 2⟩,
      ∃ subscription, d.readableMemberSubscription 4 = .ok subscription ∧
        subscription.startSequence = 1 ∧
      ∃ result, (completeSubscriptionRebootstrap reader completion 13 s).1 = .ok result ∧
        result.acceptance = .accepted ∧
      ∃ d' ∈ (completeSubscriptionRebootstrap reader completion 13 s).2.domains.get? ⟨1, 2⟩,
      ∃ active, d'.activeMemberSubscription 4 = .ok active ∧
        active.subscriptionID = subscription.subscriptionID ∧
      ∃ page, (fetch reader 2 10 14
        (completeSubscriptionRebootstrap reader completion 13 s).2).1 = .ok page ∧
      ∃ m ∈ d'.messages, m.sequence = 3 ∧ d'.fenceVisible m.checkpointFenceID = true ∧
        (d'.acknowledgmentsOf m).get? subscription.subscriptionID ≠ some .applied ∧
        page.messages = [] := by
    subst hs
    set_option synthInstance.maxSize 1024 in decide +kernel
  refine ⟨d, d', subscription, result, hd, hd', hresult, haccepted, hsub, fun hloses => ?_⟩
  -- One round of polling is enough for the one sequence past the cursor, and it is empty.
  have hpolling : Polling reader subscription.subscriptionID m 1 2
      (completeSubscriptionRebootstrap reader completion 13 s).2
      (page.messages ++ []) :=
    @Polling.round reader _ m 0 2 _ [] d' active 10 14 page [] hd' hm hactive hsame hpage
      .done
  rcases hloses m hm hvisible (by omega) with happlied | hbrings
  · exact hunapplied happlied
  · have hmem := hbrings 1 _ hpolling (by omega)
    rw [hempty] at hmem
    cases hmem

end FacetsNode.Relay
