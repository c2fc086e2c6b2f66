import FacetsNode.Relay.Memory.Coverage

/-!
# Invariants of one domain, over whole runs

A run of the store moves every domain along: what happens to the domain filed under a key is a
sequence of `DomainStep`s, one per operation, starting where the domain is provisioned. So a
property of single domains that a new domain has and every `DomainStep` keeps holds of every domain
of every reachable store (`Reachable.domain_invariant`); the same with a condition on the steps of
the run (`domain_invariant_along`) and under the clock (`Moment.domain_invariant`). All of them come
from `domain_induction`, for properties that speak of the run itself. `domain_history` follows one
domain from some moment of a run on.
-/

namespace FacetsNode.Relay

variable {s s' : MemoryStore} {op : Operation} {key : DomainKey} {d d' : MemoryDomain}

/-! ## What a step of the store does to one domain -/

open GoMap

theorem MemoryStore.get?_setDomain (s : MemoryStore) (key key' : DomainKey) (d : MemoryDomain) :
    (s.setDomain key d).domains.get? key' = if key' = key then some d else s.domains.get? key' :=
  get?_set _ _ _ _

theorem MemoryStore.setTenant_domains (s : MemoryStore) (id : UUID) (tenant : MemoryTenant) :
    (s.setTenant id tenant).domains = s.domains := rfl

theorem MemoryStore.get?_setTenant (s : MemoryStore) (id id' : UUID) (tenant : MemoryTenant) :
    (s.setTenant id tenant).tenants.get? id' =
      if id' = id then some tenant else s.tenants.get? id' := get?_set _ _ _ _

/-- The revocation loop touches the domain under `key` only for a target of that domain. -/
inductive RevokedBy (tenantID : UUID) (revokedAt : Int) (key : DomainKey) (d : MemoryDomain)
    (targets : List TenantMembershipRevocationItem) : MemoryDomain → Prop
  | untouched : RevokedBy tenantID revokedAt key d targets d
  | revoked {target member subscription} (hmem : target ∈ targets)
      (hkey : key = ⟨tenantID, target.domainID⟩)
      (hsub : d.subscriptions.get? target.subscriptionID = some subscription)
      (hmember : d.members.get? target.memberID = some member) :
      RevokedBy tenantID revokedAt key d targets
        (d.revokeMembership target member subscription revokedAt)

open MemoryStore

section
variable {tenantID : UUID} {revokedAt : Int}

theorem get?_revokeTarget (target : TenantMembershipRevocationItem)
    (hd : s.domains.get? key = some d) :
    ∃ d', (s.revokeTarget tenantID revokedAt target).domains.get? key = some d' ∧
      RevokedBy tenantID revokedAt key d [target] d' := by
  unfold revokeTarget
  split
  · exact ⟨d, hd, .untouched⟩
  · next d₀ hd₀ =>
    split
    · next member subscription hmember hsub =>
      rw [get?_setDomain]
      split
      · next hkey =>
        subst hkey
        rw [hd] at hd₀
        cases hd₀
        exact ⟨_, rfl, .revoked (List.mem_singleton_self _) rfl hsub hmember⟩
      · exact ⟨d, hd, .untouched⟩
    · exact ⟨d, hd, .untouched⟩

/-- The targets name distinct domains, so the loop touches no domain twice. -/
theorem get?_foldl_revokeTarget {targets : List TenantMembershipRevocationItem}
    (hdistinct : (targets.map (·.domainID)).Nodup) (hd : s.domains.get? key = some d) :
    ∃ d', (targets.foldl (revokeTarget tenantID revokedAt) s).domains.get? key =
        some d' ∧ RevokedBy tenantID revokedAt key d targets d' := by
  induction targets generalizing s d with
  | nil => exact ⟨d, hd, .untouched⟩
  | cons target targets ih =>
    rw [List.map_cons, List.nodup_cons] at hdistinct
    obtain ⟨d₁, hd₁, hfirst⟩ := get?_revokeTarget target hd
    obtain ⟨d₂, hd₂, hrest⟩ := ih hdistinct.2 hd₁
    refine ⟨d₂, hd₂, ?_⟩
    cases hrest with
    | untouched =>
      cases hfirst with
      | untouched => exact .untouched
      | revoked hmem hkey hsub hmember =>
        rw [List.mem_singleton] at hmem
        subst hmem
        exact .revoked List.mem_cons_self hkey hsub hmember
    | revoked hmem hkey hsub hmember =>
      cases hfirst with
      | untouched => exact .revoked (List.mem_cons_of_mem _ hmem) hkey hsub hmember
      | revoked hmem' hkey' _ =>
        rw [List.mem_singleton] at hmem'
        subst hmem'
        rw [hkey, DomainKey.mk.injEq] at hkey'
        exact absurd (List.mem_map.mpr ⟨_, hmem, hkey'.2⟩) hdistinct.1

/-- The revocation loop files no domain. -/
theorem get?_foldl_revokeTarget_eq_none {targets : List TenantMembershipRevocationItem}
    (hd : s.domains.get? key = none) :
    (targets.foldl (revokeTarget tenantID revokedAt) s).domains.get? key = none := by
  induction targets generalizing s with
  | nil => exact hd
  | cons target targets ih =>
    refine ih ?_
    unfold revokeTarget
    split
    · exact hd
    · next d₀ hd₀ =>
      split
      · rw [get?_setDomain, if_neg]
        · exact hd
        · rintro rfl
          rw [hd] at hd₀
          cases hd₀
      · exact hd

theorem foldl_revokeTarget_tenants (targets : List TenantMembershipRevocationItem) :
    (targets.foldl (revokeTarget tenantID revokedAt) s).tenants = s.tenants := by
  induction targets generalizing s with
  | nil => rfl
  | cons target targets ih =>
    rw [List.foldl_cons, ih]
    unfold revokeTarget
    split
    · rfl
    · split <;> rfl

end

/-- A domain stays filed, and moves by one `DomainStep`. -/
theorem StoreStep.domain_step (h : StoreStep s op s') (hd : s.domains.get? key = some d) :
    ∃ d', s'.domains.get? key = some d' ∧ DomainStep s key op d d' := by
  cases h with
  | unchanged | tenant => exact ⟨d, hd, .unchanged⟩
  | @domain _ key₀ d₀ d₀' hd₀ h =>
    rw [get?_setDomain]
    split
    · next hkey =>
      subst hkey
      rw [hd] at hd₀
      cases hd₀
      exact ⟨_, rfl, h⟩
    · exact ⟨d, hd, .unchanged⟩
  | newDomain hnew =>
    refine ⟨d, ?_, .unchanged⟩
    unfold createDomainLocked
    rw [get?_setDomain, if_neg]
    · exact hd
    · rintro rfl
      rw [hd] at hnew
      cases hnew
  | revocation htargets hdistinct =>
    obtain ⟨d', hd', hrevoked⟩ := get?_foldl_revokeTarget hdistinct hd
    refine ⟨d', hd', ?_⟩
    cases hrevoked with
    | untouched => exact .unchanged
    | revoked hmem _ hsub hmember =>
      exact .plain (.revokeMembership (htargets _ hmem) hsub hmember)

theorem TenantFor.get? {tenantID} {tenants : GoMap UUID MemoryTenant}
    (h : TenantFor s tenantID tenants) : (tenants.get? tenantID).isSome = true := by
  cases h with
  | existing h => rw [h]; rfl
  | filed => rw [get?_set_self]; rfl

/-- A domain that was not there before was just provisioned, under its own key and with a tenant. -/
theorem StoreStep.domain_new (h : StoreStep s op s') (hnone : s.domains.get? key = none)
    (hd' : s'.domains.get? key = some d') :
    ∃ p, p.validate = .ok () ∧ d' = MemoryDomain.create p ∧
      key = ⟨p.registration.tenantID, p.registration.domainID⟩ ∧
      (s'.tenants.get? key.tenantID).isSome = true := by
  cases h with
  | unchanged => rw [hnone] at hd'; cases hd'
  | domain hd₀ =>
    rw [get?_setDomain] at hd'
    split at hd'
    · next hkey => rw [hkey, hd₀] at hnone; cases hnone
    · rw [hnone] at hd'; cases hd'
  | tenant => rw [setTenant_domains, hnone] at hd'; cases hd'
  | @newDomain _ _ p _ htenant hvalid =>
    unfold createDomainLocked at hd'
    rw [get?_setDomain] at hd'
    split at hd'
    · next hkey =>
      subst hkey
      exact ⟨p, hvalid, (Option.some.inj hd').symm, rfl, htenant.get?⟩
    · rw [hnone] at hd'; cases hd'
  | revocation =>
    rw [setTenant_domains, get?_foldl_revokeTarget_eq_none hnone] at hd'
    cases hd'

/-- A tenant stays filed, with its quota. -/
theorem StoreStep.tenant_kept (h : StoreStep s op s') {tenantID tenant}
    (htenant : s.tenants.get? tenantID = some tenant) :
    ∃ tenant', s'.tenants.get? tenantID = some tenant' ∧
      tenant'.registration.quota = tenant.registration.quota := by
  cases h with
  | unchanged | domain => exact ⟨tenant, htenant, rfl⟩
  | @tenant _ id old new hold hquota =>
    rw [get?_setTenant]
    split
    · next hid =>
      rw [← hid, htenant, Option.some.injEq] at hold
      exact ⟨new, rfl, hold ▸ hquota⟩
    · exact ⟨tenant, htenant, rfl⟩
  | newDomain _ hfor =>
    cases hfor with
    | existing => exact ⟨tenant, htenant, rfl⟩
    | filed _ hnone =>
      refine ⟨tenant, ?_, rfl⟩
      show get? (set _ _ _) _ = _
      rw [get?_set_ne]
      · exact htenant
      · rintro rfl
        rw [htenant] at hnone
        cases hnone
  | @revocation _ _ old new _ _ hold hquota =>
    rw [get?_setTenant, foldl_revokeTarget_tenants]
    split
    · next hid =>
      rw [← hid, htenant, Option.some.injEq] at hold
      exact ⟨new, rfl, hold ▸ hquota⟩
    · exact ⟨tenant, htenant, rfl⟩

/-! ## Runs -/

theorem MemoryStore.TenantsFiled.step (hs : s.TenantsFiled) (h : StoreStep s op s') :
    s'.TenantsFiled := by
  intro key d' hd'
  cases hd : s.domains.get? key with
  | some d =>
    obtain ⟨tenant, htenant⟩ := Option.isSome_iff_exists.mp (hs key d hd)
    obtain ⟨tenant', htenant', -⟩ := h.tenant_kept htenant
    rw [htenant']
    rfl
  | none =>
    obtain ⟨p, -, -, -, htenant⟩ := h.domain_new hd hd'
    exact htenant

theorem newMemoryStore_get? (ttl : Option Int) (key : DomainKey) :
    (newMemoryStore ttl).domains.get? key = none := by
  unfold newMemoryStore
  dsimp only
  split
  · split
    · exact get?_empty key
    · exact get?_empty key
  · exact get?_empty key

theorem newMemoryStore_tenants_get? (ttl : Option Int) (tenantID : UUID) :
    (newMemoryStore ttl).tenants.get? tenantID = none := by
  unfold newMemoryStore
  dsimp only
  split
  · split
    · exact get?_empty tenantID
    · exact get?_empty tenantID
  · exact get?_empty tenantID

theorem newMemoryStore_tenantsFiled (ttl : Option Int) : (newMemoryStore ttl).TenantsFiled := by
  intro key d hd
  rw [newMemoryStore_get?] at hd
  cases hd

theorem run_tenantsFiled (ttl : Option Int) (ops : List Operation) :
    (run Operation.apply (newMemoryStore ttl) ops).TenantsFiled := by
  have hops : Along Operation.apply (fun _ _ => True) (newMemoryStore ttl) ops :=
    along_true ops
  exact invariant (newMemoryStore_tenantsFiled ttl)
    (fun s op hs _ => hs.step (Operation.apply_step hs op)) hops

theorem Reachable.tenantsFiled (hs : Reachable s) : s.TenantsFiled := by
  obtain ⟨ttl, ops, rfl⟩ := hs
  exact run_tenantsFiled ttl ops

/-- In a reachable store every operation takes a step. -/
theorem Reachable.apply_step (hs : Reachable s) (op : Operation) : StoreStep s op (op.apply s) :=
  Operation.apply_step hs.tenantsFiled op

theorem Reachable.apply (hs : Reachable s) (op : Operation) : Reachable (op.apply s) := by
  obtain ⟨ttl, ops, rfl⟩ := hs
  exact ⟨ttl, ops ++ [op], (run_concat _ _ _ _).symm⟩

theorem Reachable.new (ttl : Option Int) : Reachable (newMemoryStore ttl) :=
  ⟨ttl, [], rfl⟩

section Machine

/-! ### Machines over a store

A machine may carry more than the store, such as a clock. -/

variable {σ : Type} {step : Operation → σ → σ} (store : σ → MemoryStore)
  (hstore : ∀ op m, store (step op m) = op.apply (store m)) {P : σ → Operation → Prop}
include hstore

theorem reachable_run {m : σ} (hm : Reachable (store m)) (ops : List Operation) :
    Reachable (store (run step m ops)) :=
  invariant (P := fun _ _ => True) (I := fun m => Reachable (store m)) hm
    (fun m op hm _ => hstore op m ▸ hm.apply op) (along_true ops)

/-- **Induction along a run**, for one domain and for properties that speak of the run itself: a new
domain has the property, and every step of the domain under `P` keeps it. -/
theorem domain_induction {I : List Operation → MemoryDomain → Prop} {m : σ}
    (hm : Reachable (store m)) (hempty : (store m).domains.get? key = none)
    (hnew : ∀ ops p, p.validate = .ok () → I ops (MemoryDomain.create p))
    (hstep : ∀ ops op d d', Along step P m ops → P (run step m ops) op →
      (store (run step m ops)).domains.get? key = some d → I ops d →
      DomainStep (store (run step m ops)) key op d d' → I (ops ++ [op]) d')
    {ops : List Operation} (hops : Along step P m ops)
    (hd : (store (run step m ops)).domains.get? key = some d) : I ops d := by
  refine run_induction (P := P) (motive := fun ops =>
    ∀ d, (store (run step m ops)).domains.get? key = some d → I ops d) ?_ ?_ hops d hd
  · intro d hd
    rw [run_nil, hempty] at hd
    cases hd
  · intro ops op hops ih hP d' hd'
    have hmoved := (reachable_run store hstore hm ops).apply_step op
    rw [run_concat, hstore] at hd'
    cases hd : (store (run step m ops)).domains.get? key with
    | some d =>
      obtain ⟨d₁, hd₁, h⟩ := hmoved.domain_step hd
      rw [hd'] at hd₁
      cases hd₁
      exact hstep ops op d d' hops hP hd (ih d hd) h
    | none =>
      obtain ⟨p, hvalid, rfl, -⟩ := hmoved.domain_new hd hd'
      exact hnew _ p hvalid

/-- **Histories.** What a domain has at one moment and every later step of it keeps, it has at the
end. -/
theorem domain_history {I : σ → MemoryDomain → Prop}
    (hstep : ∀ m op d d', Reachable (store m) → P m op → (store m).domains.get? key = some d →
      I m d → DomainStep (store m) key op d d' → I (step op m) d')
    {m : σ} {ops : List Operation} (hm : Reachable (store m))
    (hd : (store m).domains.get? key = some d) (hinit : I m d) (hops : Along step P m ops) :
    ∃ d', (store (run step m ops)).domains.get? key = some d' ∧ I (run step m ops) d' := by
  have hall : Reachable (store (run step m ops)) ∧
      ∃ d', (store (run step m ops)).domains.get? key = some d' ∧ I (run step m ops) d' := by
    refine invariant (P := P) (I := fun m => Reachable (store m) ∧
      ∃ d', (store m).domains.get? key = some d' ∧ I m d') ⟨hm, d, hd, hinit⟩ ?_ hops
    rintro m op ⟨hm, d, hd, hinv⟩ hP
    obtain ⟨d', hd', hmoved⟩ := (hm.apply_step op).domain_step hd
    rw [← hstore] at hd'
    exact ⟨hstore op m ▸ hm.apply op, d', hd', hstep m op d d' hm hP hd hinv hmoved⟩
  exact hall.2

end Machine

/-- **Conditional invariants.** In a run whose steps all satisfy `P`, a property of domains that new
domains have and every step under `P` keeps holds of every domain. -/
theorem domain_invariant_along {P : MemoryStore → Operation → Prop}
    {I : DomainKey → MemoryDomain → Prop}
    (hnew : ∀ key p, p.validate = .ok () → I key (MemoryDomain.create p))
    (hstep : ∀ s op key d d', Reachable s → P s op → s.domains.get? key = some d → I key d →
      DomainStep s key op d d' → I key d') {ttl : Option Int} {ops : List Operation}
    (hops : Along Operation.apply P (newMemoryStore ttl) ops)
    (hd : (run Operation.apply (newMemoryStore ttl) ops).domains.get? key = some d) :
    I key d := by
  refine domain_induction id (fun _ _ => rfl) (I := fun _ d => I key d) (Reachable.new ttl)
    (newMemoryStore_get? ttl key) (fun _ p hp => hnew key p hp) ?_ hops hd
  intro ops op d d' _ hP hd h hmoved
  exact hstep _ op key d d' ⟨ttl, ops, rfl⟩ hP hd h hmoved

/-- **Invariants.** A property of domains that new domains have and every step keeps holds of every
domain of a reachable store. -/
theorem Reachable.domain_invariant {I : MemoryDomain → Prop}
    (hnew : ∀ p, p.validate = .ok () → I (MemoryDomain.create p))
    (hstep : ∀ s op key d d', I d → DomainStep s key op d d' → I d')
    (hs : Reachable s) (hd : s.domains.get? key = some d) : I d := by
  obtain ⟨ttl, ops, rfl⟩ := hs
  exact domain_invariant_along (P := fun _ _ => True) (I := fun _ d => I d)
    (fun _ p hp => hnew p hp) (fun s op key d d' _ _ _ hinv h => hstep s op key d d' hinv h)
    (along_true ops) hd

/-- **Invariants under the clock.** As before, for properties that speak of the latest instant an
operation was given, in runs where that instant never goes back. -/
theorem Moment.domain_invariant {I : Int → MemoryDomain → Prop}
    (hnew : ∀ t p, p.validate = .ok () → I t (MemoryDomain.create p))
    (hstep : ∀ m op key d d', Reachable m.store → m.Admits op →
      m.store.domains.get? key = some d → I m.clock d → DomainStep m.store key op d d' →
      I (Moment.step op m).clock d') {ttl : Option Int} {start : Int} {ops : List Operation}
    (hclock : Along Moment.step Moment.Admits (Moment.new ttl start) ops)
    (hd : (run Moment.step (Moment.new ttl start) ops).store.domains.get? key = some d) :
    I (run Moment.step (Moment.new ttl start) ops).clock d := by
  refine domain_induction Moment.store (fun _ _ => rfl)
    (I := fun ops d => I (run Moment.step (Moment.new ttl start) ops).clock d) (Reachable.new ttl)
    (newMemoryStore_get? ttl key) (fun _ p hp => hnew _ p hp) ?_ hclock hd
  intro ops op d d' _ hadmits hd h hmoved
  rw [run_concat]
  exact hstep _ op key d d' (Moment.reachable_run ttl start ops) hadmits hd h hmoved

end FacetsNode.Relay
