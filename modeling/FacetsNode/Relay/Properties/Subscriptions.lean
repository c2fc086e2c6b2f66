import FacetsNode.Relay.Properties.Fences

/-!
# The subscription table

What one step can do to the subscriptions of a domain, said once (`SubscriptionsStep`): a
subscription is created active, is suspended or revoked, or comes back from a recovery. What a
subscription keeps along a run is read off it.
-/

namespace FacetsNode.Relay

namespace MemoryDomain

variable {s : MemoryStore} {op : Operation} {key : DomainKey} {d d' : MemoryDomain} {id : UUID}
  {subscription : Subscription} {subscriptions subscriptions' : GoMap UUID Subscription}

/-- Subscriptions are filed under their own identifiers. -/
def SubscriptionsKeyed (subscriptions : GoMap UUID Subscription) : Prop :=
  ∀ id subscription, subscriptions.get? id = some subscription → subscription.subscriptionID = id

/-- A member's subscription is filed, under an identifier that is not nil, and is not revoked. -/
theorem SubscriptionsKeyed.readable (h : SubscriptionsKeyed d.subscriptions) {memberID : UUID}
    (hsub : d.readableMemberSubscription memberID = .ok subscription) :
    d.subscriptions.get? subscription.subscriptionID = some subscription ∧
      subscription.subscriptionID ≠ uuidNil ∧
      (subscription.status = .active ∨ subscription.status = .rebootstrapRequired) := by
  unfold readableMemberSubscription at hsub
  split at hsub
  · cases hsub
  · next subscriptionID hmember =>
    split at hsub
    · cases hsub
    · next hnil =>
      split at hsub
      · cases hsub
      · next subscription' hget =>
        split at hsub
        · cases hsub
        · next hstatus =>
          cases hsub
          rw [h _ _ hget]
          refine ⟨hget, hnil, ?_⟩
          by_contra hnot
          rw [not_or] at hnot
          exact hstatus hnot

/-- What one operation can do to the subscriptions. -/
inductive SubscriptionsStep (subscriptions : GoMap UUID Subscription) :
    GoMap UUID Subscription → Prop
  | same : SubscriptionsStep subscriptions subscriptions
  /-- A new subscription; only under the nil identifier may it replace one. -/
  | created {id : UUID} {subscription : Subscription} (hid : subscription.subscriptionID = id)
      (hnew : (subscriptions.get? id).isSome = true → id = uuidNil) :
      SubscriptionsStep subscriptions (subscriptions.set id subscription)
  /-- It awaits recovery from now on, or is revoked; a revoked one stays so. -/
  | suspended {id : UUID} {old subscription : Subscription}
      (hget : subscriptions.get? id = some old)
      (hid : subscription.subscriptionID = old.subscriptionID)
      (hstatus : subscription.status ≠ .active)
      (hrevoked : old.status = .revoked → subscription.status = .revoked) :
      SubscriptionsStep subscriptions (subscriptions.set id subscription)
  /-- It has recovered. -/
  | restored {id : UUID} {old subscription : Subscription} (hget : subscriptions.get? id = some old)
      (hid : subscription.subscriptionID = old.subscriptionID)
      (hwaiting : old.status = .rebootstrapRequired) (hactive : subscription.status = .active)
      (hstart : subscription.startCursor = none) :
      SubscriptionsStep subscriptions (subscriptions.set id subscription)

theorem SubscriptionsKeyed.set (h : SubscriptionsKeyed subscriptions)
    (hid : subscription.subscriptionID = id) :
    SubscriptionsKeyed (subscriptions.set id subscription) := by
  intro id' subscription' hget
  rw [GoMap.get?_set] at hget
  split at hget
  · next heq =>
    cases hget
    exact hid.trans heq.symm
  · exact h id' subscription' hget

theorem SubscriptionsStep.keyed (hstep : SubscriptionsStep subscriptions subscriptions')
    (h : SubscriptionsKeyed subscriptions) : SubscriptionsKeyed subscriptions' := by
  cases hstep with
  | same => exact h
  | created hid => exact h.set hid
  | suspended hget hid | restored hget hid => exact h.set (hid.trans (h _ _ hget))

/-- **One subscription through one step**: as it was, suspended, or restored. -/
theorem SubscriptionsStep.get? (hstep : SubscriptionsStep subscriptions subscriptions')
    (hnil : id ≠ uuidNil) (hget : subscriptions.get? id = some subscription) :
    ∃ subscription', subscriptions'.get? id = some subscription' ∧ (subscription' = subscription ∨
        (subscription'.status ≠ .active ∧
          (subscription.status = .revoked → subscription'.status = .revoked)) ∨
        (subscription.status = .rebootstrapRequired ∧ subscription'.startCursor = none)) := by
  cases hstep with
  | same => exact ⟨subscription, hget, .inl rfl⟩
  | @created id' new hid hnew =>
    refine ⟨subscription, ?_, .inl rfl⟩
    refine (GoMap.get?_set_ne _ _ ?_).trans hget
    rintro rfl
    exact hnil (hnew (by simp [hget]))
  | @suspended id' old new hget' _ hstatus hrevoked =>
    by_cases heq : id = id'
    · subst heq
      rw [hget, Option.some.injEq] at hget'
      subst hget'
      exact ⟨new, GoMap.get?_set_self _ _ _, .inr (.inl ⟨hstatus, hrevoked⟩)⟩
    · exact ⟨subscription, (GoMap.get?_set_ne _ _ heq).trans hget, .inl rfl⟩
  | @restored id' old new hget' _ hwaiting _ hstart =>
    by_cases heq : id = id'
    · subst heq
      rw [hget, Option.some.injEq] at hget'
      subst hget'
      exact ⟨new, GoMap.get?_set_self _ _ _, .inr (.inr ⟨hwaiting, hstart⟩)⟩
    · exact ⟨subscription, (GoMap.get?_set_ne _ _ heq).trans hget, .inl rfl⟩

theorem SubscriptionsStep.of_step (h : SubscriptionsKeyed d.subscriptions)
    (hstep : DomainStep s key op d d') : SubscriptionsStep d.subscriptions d'.subscriptions := by
  obtain ⟨hexpiry, heffect⟩ := hstep
  rw [← hexpiry.subscriptions] at h ⊢
  cases heffect with
  | authority heq => rw [heq]; exact .same
  | testSubscription _ heq =>
    rw [heq]
    unfold ensureTestSubscription
    split
    · next hmissing =>
      refine .created rfl fun hold => ?_
      obtain ⟨old, hget⟩ := Option.isSome_iff_exists.mp hold
      rw [hget] at hmissing
      exact (h _ _ hget).symm.trans hmissing
    · exact .same
  | createSubscription _ hnew => exact .created rfl fun hold => by simp [hnew] at hold
  | changeSubscriptionStatus _ hsub hlive hstatus =>
    exact .suspended hsub rfl hstatus fun hrevoked => absurd hrevoked hlive
  | requestRebootstrap _ hsub =>
    obtain ⟨hget, -, hstatus⟩ := h.readable hsub
    refine .suspended hget rfl (by simp [fencedSubscription]) fun hrevoked => ?_
    simp [hrevoked] at hstatus
  | completeRebootstrap hsub _ _ hstatus => exact .restored (h.readable hsub).1 rfl hstatus rfl rfl
  | revokeMembership _ hsub => exact .suspended hsub rfl (by simp) fun _ => rfl
  | _ => exact .same

theorem SubscriptionsKeyed.step (h : SubscriptionsKeyed d.subscriptions)
    (hstep : DomainStep s key op d d') : SubscriptionsKeyed d'.subscriptions :=
  (SubscriptionsStep.of_step h hstep).keyed h

theorem SubscriptionsKeyed.create (p : DomainProvisioning) :
    SubscriptionsKeyed (MemoryDomain.create p).subscriptions := by
  have hempty : SubscriptionsKeyed ∅ := fun id subscription hget => by simp at hget
  exact hempty.set rfl

theorem SubscriptionsKeyed.of_reachable (hs : Reachable s) (hd : s.domains.get? key = some d) :
    SubscriptionsKeyed d.subscriptions :=
  hs.domain_invariant (I := fun d => SubscriptionsKeyed d.subscriptions)
    (fun p _ => SubscriptionsKeyed.create p) (fun _ _ _ _ _ h hstep => h.step hstep) hd

end MemoryDomain

end FacetsNode.Relay
