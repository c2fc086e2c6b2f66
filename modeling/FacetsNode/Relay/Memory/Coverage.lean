import FacetsNode.Relay.Memory.Step

/-!
# The steps cover the code

One lemma per operation: the store it leaves behind is related by `StoreStep` to the store it found.
Each proof follows the operation line by line — the refused branches first, then the one that
writes. `Operation.apply_step` collects them.
-/

namespace FacetsNode.Relay

open Attempt

section
variable {s : MemoryStore}

/-! ## Authority -/

/-- The answer that is on record, or an error; nothing is written. -/
theorem ends_found {σ α ε : Type} {s : σ} {P : σ → Prop} {c : Prop} [Decidable c] {a : α} {e : ε}
    (h : P s) : Ends (if c then pure a else fail e) s (fun _ s' => P s') := by
  split
  · exact ends_pure h
  · exact ends_fail h

/-- What a write of authority records leaves. -/
structure AuthorityLeft (key : DomainKey) (op : Operation) (d d' : MemoryDomain) : Prop where
  only : d' = d.withAuthority d'.authority
  change : AuthorityChange key op d.authority d'.authority
  enrollment : EnrollmentChange op d.authority d'.authority

variable {op : Operation} {d : MemoryDomain}

theorem AuthorityLeft.refl {key} : AuthorityLeft key op d d := ⟨rfl, .refl, .refl⟩

/-- The admissions, and who holds which subscription, stay as they are. -/
theorem EnrollmentChange.same {a a'} (hheld : a'.memberSubscriptions = a.memberSubscriptions)
    (hopen : a'.admissionSubscriptions = a.admissionSubscriptions)
    (hadmissions : a'.admissions = a.admissions) : EnrollmentChange op a a' :=
  .kept hheld hopen fun _ admission h => ⟨admission, hadmissions ▸ h, rfl⟩

/-- The body writes authority records only. -/
def AuthorityOnly {α : Type} (key : DomainKey) (op : Operation)
    (body : Attempt MemoryDomain RelayError α) : Prop :=
  ∀ d, Ends body d (fun _ d' => AuthorityLeft key op d d')

/-- Nothing, or authority records of the domain filed under `key`. -/
inductive AuthorityWrite (s : MemoryStore) (key : DomainKey) (op : Operation) : MemoryStore → Prop
  | unchanged : AuthorityWrite s key op s
  | write {d d'} (hd : s.domains.get? key = some d) (h : AuthorityLeft key op d d') :
      AuthorityWrite s key op (s.setDomain key d')

theorem AuthorityWrite.step {key s'} (h : AuthorityWrite s key op s') : StoreStep s op s' := by
  cases h with
  | unchanged => exact .unchanged
  | write hd h => exact .domain hd (.plain (.authority h.only h.change h.enrollment))

open MemoryStore

section
variable {α : Type} {op : Operation} {key : DomainKey} {body : Attempt MemoryDomain RelayError α}

theorem AuthorityOnly.asAdministrator {credential}
    (hbody : AuthorityOnly ⟨credential.tenantID, credential.domainID⟩ op body) :
    Ends (asAdministrator credential body) s (fun _ s' =>
      AuthorityWrite s ⟨credential.tenantID, credential.domainID⟩ op s') :=
  ends_asAdministrator (fun _ => .unchanged) fun d hd => (hbody d).mono fun _ _ h => .write hd h

theorem AuthorityOnly.onDomain (hbody : AuthorityOnly key op body) :
    Ends (onDomain key (s.findDomain key) body) s (fun _ s' => AuthorityWrite s key op s') :=
  ends_onDomain (fun _ => .unchanged) fun d hd =>
    (hbody d).mono fun _ _ h => .write (findDomain_eq_ok hd) h

theorem rotateAdministrationCredential_authorityOnly (credential digest rotation now) :
    AuthorityOnly key op
      (MemoryDomain.rotateAdministrationCredential credential digest rotation now) := by
  intro d
  unfold MemoryDomain.rotateAdministrationCredential
  refine ends_get ?_
  split
  · exact .refl
  · next hfresh =>
    refine ends_ofExcept (fun _ _ => .refl) fun _ _ => ?_
    refine ends_reject .refl fun _ => ends_reject .refl fun _ => ?_
    refine ends_ofExcept (fun _ _ => .refl) fun _ _ => ends_modify (ends_pure ⟨rfl, ?_, ?_⟩)
    · exact .rotateAdministration hfresh rfl rfl rfl rfl
    · exact .same rfl rfl rfl

theorem rotateMemberCredential_authorityOnly (credential digest rotation now) :
    AuthorityOnly key op (MemoryDomain.rotateMemberCredential credential digest rotation now) := by
  intro d
  unfold MemoryDomain.rotateMemberCredential
  refine ends_get ?_
  split
  · exact .refl
  · next hfresh =>
    split
    · exact ends_fail .refl
    · next member hmember =>
      refine ends_ofExcept (fun _ _ => .refl) fun _ _ => ?_
      refine ends_reject .refl fun hunused => ?_
      refine ends_ofExcept (fun _ _ => .refl) fun _ _ => ends_modify (ends_pure ⟨rfl, ?_, ?_⟩)
      · rw [not_or, Bool.not_eq_true] at hunused
        exact .rotateMember hfresh hmember hunused.1 hunused.2 rfl rfl rfl
      · exact .same rfl rfl rfl

theorem createSubscriptionMember_authorityOnly (credential subscriptionID registration now)
    (hop : op.enrolls = true) :
    AuthorityOnly ⟨credential.tenantID, credential.domainID⟩ op
      (MemoryDomain.createSubscriptionMember credential subscriptionID registration now) := by
  intro d
  refine ends_reject .refl fun hscope => ends_get ?_
  split
  · exact ends_found .refl
  · next hnew =>
    refine ends_reject .refl fun _ => ends_ofExcept (fun _ _ => .refl) fun _ _ => ?_
    refine ends_reject .refl fun _ => ends_modify (ends_pure ⟨rfl, ?_, .enrolled hop⟩)
    rw [not_or, not_not, not_not] at hscope
    exact .newMember hnew rfl rfl rfl hop hscope

theorem revokeMember_authorityOnly (memberID now) (hop : op.revokesMembers = true) :
    AuthorityOnly key op (MemoryDomain.revokeMember memberID now) := by
  intro d
  unfold MemoryDomain.revokeMember
  refine ends_get ?_
  split
  · exact ends_fail .refl
  · next member hmember =>
    split
    · exact ends_pure .refl
    · refine ends_reject .refl fun _ => ends_modify (ends_pure ⟨rfl, ?_, ?_⟩)
      · exact .revokeMember hmember rfl rfl rfl hop
      · exact .same rfl rfl rfl

theorem changeMemberCapabilities_authorityOnly (change now) :
    AuthorityOnly key op (MemoryDomain.changeMemberCapabilities change now) := by
  intro d
  unfold MemoryDomain.changeMemberCapabilities
  refine ends_get ?_
  split
  · split
    · exact ends_fail .refl
    · exact ends_pure .refl
  · next hfresh =>
    split
    · exact ends_fail .refl
    · next member hmember =>
      refine ends_reject .refl fun _ => ends_reject .refl fun _ => ?_
      refine ends_reject .refl fun _ => ends_reject .refl fun _ => ?_
      refine ends_modify (ends_pure ⟨rfl, ?_, ?_⟩)
      · exact .changeCapabilities hfresh hmember rfl rfl rfl
      · exact .same rfl rfl rfl

theorem createSubscriptionAdmission_authorityOnly (credential subscriptionID registration now)
    (hop : op.enrolls = true) :
    AuthorityOnly key op (MemoryDomain.createSubscriptionAdmission credential subscriptionID
      registration now) := by
  intro d
  refine ends_reject .refl fun _ => ends_get ?_
  split
  · exact ends_found .refl
  · refine ends_reject .refl fun _ => ends_reject .refl fun _ => ?_
    refine ends_reject .refl fun _ => ends_modify (ends_pure ⟨rfl, ?_, .enrolled hop⟩)
    exact .none rfl rfl rfl

/-- A replacement finds the member, and brings another digest. -/
theorem checkReplacement_eq_ok {d : MemoryDomain} {claim : MemberAdmissionClaim}
    {subscriptionID previousSubscriptionID : UUID} {now : Int} {u : Unit}
    (h : d.checkReplacement claim subscriptionID previousSubscriptionID now = .ok u) :
    ∃ previous, d.members.get? claim.memberID = some previous ∧
      claim.authorizationDigest ≠ previous.authorizationDigest := by
  unfold MemoryDomain.checkReplacement at h
  split at h
  · next previous _ hprevious _ =>
    obtain ⟨_, hallowed, -⟩ := bind_eq_ok.mp h
    rw [rejectWhen_eq_ok, not_or, not_or, not_or] at hallowed
    exact ⟨previous, hprevious, fun heq => hallowed.2.2.1 heq.symm⟩
  · cases h

/-- A verified credential names the admission it claims. -/
theorem verifyCredential_scope {a : MemberAdmission} {credential : AdmissionCredential} {u : Unit}
    (h : a.verifyCredential credential = .ok u) :
    a.tenantID = credential.tenantID ∧ a.domainID = credential.domainID ∧
      a.admissionID = credential.admissionID := by
  obtain ⟨_, -, h⟩ := bind_eq_ok.mp h
  obtain ⟨_, hscope, -⟩ := bind_eq_ok.mp h
  rw [rejectWhen_eq_ok, not_or, not_or, not_not, not_not, not_not] at hscope
  exact ⟨hscope.1.symm, hscope.2.1.symm, hscope.2.2.symm⟩

theorem claimSubscriptionAdmission_authorityOnly {credential : AdmissionCredential}
    {claim : MemberAdmissionClaim} {previousSubscriptionID : UUID} {now : Int}
    (henrolls : op.enrolls = true) (hop : previousSubscriptionID ≠ uuidNil →
      op = .claimReplacingInactiveMembership credential claim previousSubscriptionID now) :
    AuthorityOnly ⟨credential.tenantID, credential.domainID⟩ op
      (MemoryDomain.claimSubscriptionAdmission credential claim previousSubscriptionID now) := by
  intro d
  unfold MemoryDomain.claimSubscriptionAdmission
  refine ends_get ?_
  split
  · exact ends_fail .refl
  · refine ends_ofExcept (fun _ _ => .refl) fun _ hverified => ?_
    obtain ⟨htenantID, hdomainID, -⟩ := verifyCredential_scope hverified
    split
    · exact .refl
    · refine ends_ofExcept (fun _ _ => .refl) fun _ _ => ends_reject .refl fun _ => ?_
      refine ends_ofExcept (fun _ _ => .refl) fun _ hchecked => ?_
      refine ends_ofExcept (fun _ _ => .refl) fun _ _ =>
        ends_modify (ends_pure ⟨rfl, ?_, .enrolled henrolls⟩)
      split at hchecked
      · next hnil =>
        obtain ⟨previous, hprevious, hnew⟩ := checkReplacement_eq_ok hchecked
        exact .replaceMember (hop hnil) rfl hprevious hnew rfl rfl rfl rfl rfl
          ⟨htenantID, hdomainID⟩
      · obtain ⟨_, hnew, -⟩ := bind_eq_ok.mp hchecked
        refine .newMember ?_ rfl rfl rfl henrolls ⟨htenantID, hdomainID⟩
        exact Option.not_isSome_iff_eq_none.mp (rejectWhen_eq_ok.mp hnew)

theorem collectAdmissions_authorityOnly (now) :
    AuthorityOnly key op (MemoryDomain.collectAdmissions now) := by
  intro d
  refine ends_get (ends_modify (ends_pure ⟨rfl, .none rfl rfl rfl, .kept rfl rfl ?_⟩))
  intro id admission h
  have hkept : (d.admissions.deleteAll _).get? id = some admission := h
  rw [GoMap.get?_deleteAll] at hkept
  split at hkept
  · cases hkept
  · exact ⟨admission, hkept, rfl⟩

theorem revokeAdmission_authorityOnly (admissionID now) :
    AuthorityOnly key op (MemoryDomain.revokeAdmission admissionID now) := by
  intro d
  unfold MemoryDomain.revokeAdmission
  refine ends_get ?_
  split
  · exact ends_fail .refl
  · next admission hadmission =>
    refine ends_reject .refl fun _ => ?_
    split
    · exact ends_pure .refl
    · refine ends_reject .refl fun _ => ends_modify (ends_pure ⟨rfl, ?_, ?_⟩)
      · exact .none rfl rfl rfl
      · refine .kept rfl rfl fun id admission' h => ?_
        have hset : (d.admissions.set admissionID _).get? id = some admission' := h
        rw [GoMap.get?_set] at hset
        split at hset
        · next heq =>
          cases hset
          exact ⟨admission, heq ▸ hadmission, rfl⟩
        · exact ⟨admission', hset, rfl⟩

end

/-! ### The operations that write authority records -/

/-- A request that is checked before anything is written. -/
theorem StoreStep.checked {α β : Type} {x : Except RelayError α} {op}
    {f : α → Attempt MemoryStore RelayError β}
    (h : ∀ a, x = .ok a → Ends (f a) s (fun _ s' => StoreStep s op s')) :
    StoreStep s op ((ofExcept x >>= f) s).2 := ends_ofExcept (fun _ _ => .unchanged) h

/-- An operation of a member is a step of its domain. -/
theorem ends_memberStep {α : Type} {credential capability now} {op : Operation}
    {body : MemoryStore → Attempt MemoryDomain RelayError α} (h : ∀ d, Ends (body s) d (fun _ d' =>
      DomainStep s ⟨credential.tenantID, credential.domainID⟩ op d d')) :
    Ends (asMember credential capability now body) s (fun _ s' => StoreStep s op s') :=
  ends_asMember (fun _ => .unchanged) fun d hd => (h d).mono fun _ _ => .domain hd

theorem ends_administratorStep {α : Type} {credential} {op : Operation}
    {body : Attempt MemoryDomain RelayError α} (h : ∀ d, Ends body d (fun _ d' =>
      DomainStep s ⟨credential.tenantID, credential.domainID⟩ op d d')) :
    Ends (asAdministrator credential body) s (fun _ s' => StoreStep s op s') :=
  ends_asAdministrator (fun _ => .unchanged) fun d hd => (h d).mono fun _ _ => .domain hd

theorem rotateAdministrationCredential_step (credential rotation now) :
    StoreStep s (.rotateAdministrationCredential credential rotation now)
      (rotateAdministrationCredential credential rotation now s).2 := by
  refine .checked fun _ _ => ?_
  split
  · exact ends_fail .unchanged
  · exact ends_get ((rotateAdministrationCredential_authorityOnly _ _ _ _).onDomain.mono
      fun _ _ => AuthorityWrite.step)

theorem rotateMemberCredential_step (credential rotation now) :
    StoreStep s (.rotateMemberCredential credential rotation now)
      (rotateMemberCredential credential rotation now s).2 := by
  refine .checked fun _ _ => ?_
  split
  · exact ends_fail .unchanged
  · exact ends_get ((rotateMemberCredential_authorityOnly _ _ _ _).onDomain.mono
      fun _ _ => AuthorityWrite.step)

theorem createSubscriptionMember_writes (credential subscriptionID registration now op)
    (hop : op.enrolls = true) :
    Ends (createSubscriptionMember credential subscriptionID registration now) s
      (fun _ s' => AuthorityWrite s ⟨credential.tenantID, credential.domainID⟩ op s') := by
  refine ends_ofExcept (fun _ _ => .unchanged) fun _ _ => ?_
  refine ends_reject .unchanged fun _ => ends_reject .unchanged fun _ => ?_
  exact (createSubscriptionMember_authorityOnly _ _ _ _ hop).asAdministrator

theorem revokeMember_step (credential memberID now) :
    StoreStep s (.revokeMember credential memberID now)
      (revokeMember credential memberID now s).2 :=
  (revokeMember_authorityOnly _ _ rfl).asAdministrator.mono fun _ _ => AuthorityWrite.step

theorem changeMemberCapabilities_step (credential change now) :
    StoreStep s (.changeMemberCapabilities credential change now)
      (changeMemberCapabilities credential change now s).2 := by
  refine .checked fun _ _ => ?_
  exact (changeMemberCapabilities_authorityOnly _ _).asAdministrator.mono
    fun _ _ => AuthorityWrite.step

theorem createSubscriptionAdmission_writes (credential subscriptionID registration now op)
    (hop : op.enrolls = true) :
    Ends (createSubscriptionAdmission credential subscriptionID registration now) s
      (fun _ s' => AuthorityWrite s ⟨credential.tenantID, credential.domainID⟩ op s') := by
  refine ends_ofExcept (fun _ _ => .unchanged) fun _ _ => ?_
  refine ends_reject .unchanged fun _ => ends_reject .unchanged fun _ => ?_
  refine ends_reject .unchanged fun _ => ?_
  exact (createSubscriptionAdmission_authorityOnly _ _ _ _ hop).asAdministrator

theorem claimAdmissionLocked_step {credential claim previousSubscriptionID} {now : Int}
    (henrolls : op.enrolls = true)
    (hop : previousSubscriptionID ≠ uuidNil →
      op = .claimReplacingInactiveMembership credential claim previousSubscriptionID now) :
    Ends (claimAdmissionLocked credential claim previousSubscriptionID now) s
      (fun _ s' => StoreStep s op s') := by
  refine ends_ofExcept (fun _ _ => .unchanged) fun _ _ => ends_get ?_
  exact (claimSubscriptionAdmission_authorityOnly henrolls hop).onDomain.mono
    fun _ _ => AuthorityWrite.step

theorem claimSubscriptionAdmission_step (credential claim now) :
    StoreStep s (.claimSubscriptionAdmission credential claim now)
      (claimSubscriptionAdmission credential claim now s).2 :=
  ends_final (claimAdmissionLocked_step rfl fun h => absurd rfl h)

theorem claimReplacingInactiveMembership_step (credential claim previousSubscriptionID now) :
    StoreStep s (.claimReplacingInactiveMembership credential claim previousSubscriptionID now)
      (claimSubscriptionAdmissionReplacingInactiveMembership credential claim
        previousSubscriptionID now s).2 :=
  ends_final (ends_reject .unchanged fun _ => claimAdmissionLocked_step rfl fun _ => rfl)

theorem collectAdmissions_step (credential now) : StoreStep s (.collectAdmissions credential now)
      (collectAdmissions credential now s).2 :=
  (collectAdmissions_authorityOnly _).asAdministrator.mono fun _ _ => AuthorityWrite.step

theorem revokeAdmission_step (credential admissionID now) :
    StoreStep s (.revokeAdmission credential admissionID now)
      (revokeAdmission credential admissionID now s).2 :=
  (revokeAdmission_authorityOnly _ _).asAdministrator.mono fun _ _ => AuthorityWrite.step

/-! ### The test helpers -/

/-- Making up a subscription leaves the authority records alone. -/
theorem authority_ensureTestSubscription (d : MemoryDomain) (credential : AdministrationCredential)
    (id : UUID) (createdAt : Int) :
    (d.ensureTestSubscription credential id createdAt).authority = d.authority := by
  unfold MemoryDomain.ensureTestSubscription
  split <;> rfl

/-- A test helper makes up a subscription and then runs an operation of the administrator in the
same domain: the two writes are one. -/
theorem ends_ensureTestSubscription {α : Type} {credential id}
    {createdAt : Int} (hop : op.isTestHelper = true) {f : Unit → Attempt MemoryStore RelayError α}
    (hf : ∀ s, Ends (f ()) s (fun _ s' =>
      AuthorityWrite s ⟨credential.tenantID, credential.domainID⟩ op s')) :
    Ends (ensureTestSubscription credential id createdAt >>= f) s
      (fun _ s' => StoreStep s op s') := by
  refine ends_bind (ends_asAdministrator (fun _ => .unchanged) fun d hd => ?_)
  show Ends (f ()) (s.setDomain ⟨credential.tenantID, credential.domainID⟩
    (d.ensureTestSubscription credential id createdAt)) (fun _ s' => StoreStep s op s')
  refine (hf _).mono fun _ s' h => ?_
  cases h with
  | unchanged =>
    have hsame := authority_ensureTestSubscription d credential id createdAt
    exact .domain hd (.plain (.testSubscription hop rfl (hsame ▸ .refl)))
  | write hd₁ h =>
    unfold setDomain at hd₁ ⊢
    rw [GoMap.get?_set_self] at hd₁
    cases hd₁
    rw [GoMap.set_set]
    have hchange := h.change
    rw [authority_ensureTestSubscription] at hchange
    exact .domain hd (.plain (.testSubscription hop h.only hchange))

theorem createMember_step (credential registration now) :
    StoreStep s (.createMember credential registration now)
      (createMember credential registration now s).2 :=
  ends_ensureTestSubscription rfl fun _ => createSubscriptionMember_writes _ _ _ _ _ rfl

theorem createAdmission_step (credential registration now) :
    StoreStep s (.createAdmission credential registration now)
      (createAdmission credential registration now s).2 := by
  refine ends_final (ends_ensureTestSubscription rfl fun _ => ends_bind ?_)
  refine (createSubscriptionAdmission_writes credential registration.admissionID registration now
    (.createAdmission credential registration now) rfl).mono fun r s' h => ?_
  cases r with
  | ok a => exact ends_pure h
  | error e => exact h

/-! ## Tenants and domains -/

theorem rotateTenantCredential_step (credential rotation) :
    StoreStep s (.rotateTenantCredential credential rotation)
      (rotateTenantCredential credential rotation s).2 := by
  refine .checked fun _ _ => ?_
  split
  · exact ends_fail .unchanged
  · refine ends_get ?_
    split
    · exact ends_fail .unchanged
    · next tenant htenant =>
      split
      · exact ends_found .unchanged
      · refine ends_reject .unchanged fun _ => ?_
        refine ends_ofExcept (fun _ _ => .unchanged) fun _ _ => ?_
        refine ends_reject .unchanged fun _ => ?_
        refine ends_reject .unchanged fun _ => ?_
        exact ends_modify (ends_pure (.tenant htenant rfl rfl))

/-- A registration without ceilings is as valid as the one it was made from. -/
theorem DomainRegistration.validate_withSharedCapacity {r : DomainRegistration} {u : Unit}
    (h : r.validate = .ok u) : r.withSharedCapacity.validate = .ok u := by
  unfold DomainRegistration.validate at h ⊢
  split at h
  · cases h
  · next hfields =>
    rw [if_neg (by exact hfields)]
    refine rejectWhen_eq_ok.mpr fun hshared => ?_
    simp [DomainRegistration.usesSharedCapacity, DomainRegistration.withSharedCapacity] at hshared

theorem DomainProvisioning.validate_shared {p : DomainProvisioning} (h : p.validate = .ok ()) :
    { p with registration := p.registration.withSharedCapacity }.validate = .ok () := by
  obtain ⟨u, h₁, h⟩ := bind_eq_ok.mp h
  obtain ⟨v, h₂, h⟩ := bind_eq_ok.mp h
  exact bind_eq_ok.mpr ⟨u, h₁, bind_eq_ok.mpr
    ⟨v, DomainRegistration.validate_withSharedCapacity h₂, h⟩⟩

/-- The capacity policy moves neither the scope nor the validity of a domain. -/
theorem applyCapacityPolicy_spec {r : TenantRegistration} {p p' : DomainProvisioning}
    (h : r.applyCapacityPolicy p = .ok p') (hp : p.validate = .ok ()) :
    p'.validate = .ok () ∧ p'.registration.tenantID = p.registration.tenantID := by
  unfold TenantRegistration.applyCapacityPolicy at h
  split at h
  · cases h
    exact ⟨DomainProvisioning.validate_shared hp, rfl⟩
  · split at h
    · cases h
    · cases h
      exact ⟨hp, rfl⟩

theorem createDomain_step (registration initialMember) :
    StoreStep s (.createDomain registration initialMember)
      (createDomain registration initialMember s).2 := by
  refine .checked fun u hvalid => ends_get ?_
  split
  · exact ends_found .unchanged
  · next hnew =>
    refine ends_modify (ends_pure ?_)
    cases htenant : s.tenants.get? registration.tenantID with
    | some tenant =>
      exact .newDomain hnew (.existing htenant) hvalid rfl
    | none =>
      exact .newDomain hnew (.filed (legacyTenant registration) htenant rfl rfl) hvalid rfl

theorem provisionTenant_step (tenant : TenantRegistration) (initialDomain : DomainProvisioning) :
    Ends (provisionTenant tenant initialDomain) s (fun _ s' =>
      (∀ key d, s.domains.get? key = some d → (s.tenants.get? key.tenantID).isSome) →
        StoreStep s (.provisionTenant tenant initialDomain) s') := by
  refine ends_ofExcept (fun _ _ _ => .unchanged) fun _ htenant => ?_
  refine ends_ofExcept (fun _ _ _ => .unchanged) fun _ hvalid => ?_
  refine ends_rejectIf (fun _ _ => .unchanged) fun hscope => ?_
  refine ends_ofExcept (fun _ _ _ => .unchanged) fun p hp => ends_get ?_
  refine ends_rejectIf (fun _ _ => .unchanged) fun _ => ?_
  split
  · exact ends_found fun _ => .unchanged
  · next hnone =>
    refine ends_modify (ends_pure fun hdomains => ?_)
    obtain ⟨hvalid, htenantID⟩ := applyCapacityPolicy_spec hp hvalid
    rw [not_or, not_not, ← htenantID] at hscope
    have hnew : s.domains.get? ⟨p.registration.tenantID, p.registration.domainID⟩ = none := by
      cases hd : s.domains.get? ⟨p.registration.tenantID, p.registration.domainID⟩ with
      | none => rfl
      | some d =>
        have := hdomains _ _ hd
        rw [← hscope.1, hnone] at this
        cases this
    have hquota : tenant.quota.valid = true := by
      by_contra h
      exact rejectWhen_eq_ok.mp htenant (by simp [h])
    rw [hscope.1] at hnone ⊢
    exact .newDomain hnew (.filed { registration := tenant } hnone hquota rfl) hvalid rfl

theorem provisionDomain_step (credential provisioning now) :
    StoreStep s (.provisionDomain credential provisioning now)
      (provisionDomain credential provisioning now s).2 := by
  refine .checked fun _ hvalid => ?_
  refine ends_reject .unchanged fun hscope => ends_get ?_
  split
  · exact ends_fail .unchanged
  · next tenant htenant =>
    refine ends_ofExcept (fun _ _ => .unchanged) fun _ _ => ?_
    refine ends_ofExcept (fun _ _ => .unchanged) fun p hp => ?_
    obtain ⟨hvalid, htenantID⟩ := applyCapacityPolicy_spec hp hvalid
    rw [not_or, not_not, ← htenantID] at hscope
    split
    · exact ends_found .unchanged
    · next hnew =>
      refine ends_reject .unchanged fun _ => ?_
      refine ends_reject .unchanged fun _ => ends_modify (ends_pure ?_)
      rw [← hscope.1] at hnew htenant
      exact .newDomain hnew (.existing htenant) hvalid rfl

/-! ## Subscriptions and leases -/

theorem createSubscription_step (credential request) :
    StoreStep s (.createSubscription credential request)
      (createSubscription credential request s).2 := by
  refine .checked fun _ hvalid => ?_
  refine ends_administratorStep fun d => ?_
  unfold MemoryDomain.createSubscription
  refine ends_get ?_
  split
  · split
    · split
      · exact ends_pure .unchanged
      · exact ends_fail .unchanged
    · exact ends_fail .unchanged
  · refine ends_reject .unchanged fun hnew => ?_
    refine ends_reject .unchanged fun _ => ?_
    refine ends_modify (ends_pure (.plain (.createSubscription ?_ ?_)))
    · exact fun h => rejectWhen_eq_ok.mp hvalid (.inr (.inl h))
    · exact Option.not_isSome_iff_eq_none.mp hnew

theorem changeSubscriptionStatus_step (credential subscriptionID request) :
    StoreStep s (.changeSubscriptionStatus credential subscriptionID request)
      (changeSubscriptionStatus credential subscriptionID request s).2 := by
  refine ends_final (ends_reject .unchanged fun hnil => ?_)
  refine ends_ofExcept (fun _ _ => .unchanged) fun u hvalid => ?_
  refine ends_administratorStep fun d => ?_
  unfold MemoryDomain.changeSubscriptionStatus
  refine ends_get ?_
  split
  · exact ends_found .unchanged
  · next hfresh =>
    split
    · exact ends_fail .unchanged
    · next subscription hsub =>
      refine ends_reject .unchanged fun hlive => ?_
      refine ends_reject .unchanged fun _ => ?_
      refine ends_modify (ends_pure (.plain ?_))
      exact .changeSubscriptionStatus hnil hsub hlive
        (fun h => rejectWhen_eq_ok.mp hvalid (.inr (.inl h))) hfresh

/-- A lease is granted at a nonnegative instant. -/
theorem SubscriptionRebootstrapRequest.now_nonneg {r : SubscriptionRebootstrapRequest}
    {now expiresAt : Int} (h : r.leaseExpiresAt now = .ok expiresAt) : 0 ≤ now := by
  obtain ⟨_, _, h⟩ := bind_eq_ok.mp h
  obtain ⟨_, hnow, _⟩ := bind_eq_ok.mp h
  by_contra hneg
  exact rejectWhen_eq_ok.mp hnow (.inl (by omega))

theorem requestSubscriptionRebootstrap_step (credential request now) :
    StoreStep s (.requestSubscriptionRebootstrap credential request now)
      (requestSubscriptionRebootstrap credential request now s).2 := by
  refine .checked fun _ _ => ?_
  refine ends_ofExcept (fun _ _ => .unchanged) fun expiresAt hexpires => ?_
  refine ends_memberStep fun d => ?_
  unfold MemoryDomain.requestSubscriptionRebootstrap
  refine ends_get (ends_ofExcept (fun _ _ => .unchanged) fun subscription hsub => ?_)
  split
  · exact ends_found .unchanged
  · next hfresh =>
    refine ends_reject .unchanged fun _ => ?_
    split
    · exact ends_fail .unchanged
    · next checkpoint hcheckpoint =>
      refine ends_reject .unchanged fun hroot => ?_
      refine ends_reject .unchanged fun hidle => ?_
      refine ends_reject .unchanged fun hlatest => ?_
      refine ends_modify (ends_pure (.plain ?_))
      rw [not_or, not_not, Bool.not_eq_false] at hroot
      refine .requestRebootstrap (SubscriptionRebootstrapRequest.now_nonneg hexpires) hsub
        hfresh hcheckpoint hroot.1 ?_ ?_ (not_not.mp hlatest)
      · simpa [MemoryDomain.checkpointRetainsMessage] using hroot.2
      · exact fun h => Bool.eq_false_iff.mpr fun hactive => hidle ⟨h, hactive⟩

theorem matchingRecovery_eq_ok {subscriptionID requestRetryID checkpointID
    rootMessageID : UUID} {mismatch recovery}
    (h : d.matchingRecovery subscriptionID requestRetryID checkpointID rootMessageID mismatch =
      .ok recovery) :
    d.rebootstrapRequests.get? requestRetryID = some recovery ∧
      recovery.subscriptionID = subscriptionID := by
  unfold MemoryDomain.matchingRecovery at h
  split at h
  · cases h
  · next found hfound =>
    split at h
    · cases h
    · next hmatch =>
      cases h
      rw [not_or, not_not] at hmatch
      exact ⟨hfound, hmatch.1⟩

theorem renewSubscriptionRebootstrap_step (credential renewal now) :
    StoreStep s (.renewSubscriptionRebootstrap credential renewal now)
      (renewSubscriptionRebootstrap credential renewal now s).2 := by
  refine .checked fun _ _ => ?_
  refine ends_ofExcept (fun _ _ => .unchanged) fun _ _ => ?_
  refine ends_memberStep fun d => ?_
  unfold MemoryDomain.renewSubscriptionRebootstrap
  refine ends_get (ends_ofExcept (fun _ _ => .unchanged) fun subscription hsub => ?_)
  split
  · exact ends_found .unchanged
  · next hfresh =>
    refine ends_ofExcept (fun _ _ => .unchanged) fun recovery hrecovery => ?_
    refine ends_reject .unchanged fun _ => ?_
    refine ends_reject .unchanged fun hactive => ?_
    refine ends_reject .unchanged fun _ => ?_
    obtain ⟨hrecovery, hown⟩ := matchingRecovery_eq_ok hrecovery
    refine ends_modify (ends_pure (.plain ?_))
    exact .renewRebootstrap hsub hrecovery hown (Bool.not_eq_false _ ▸ hactive) hfresh rfl
      (le_max_left _ _)

theorem cancelSubscriptionRebootstrap_step (credential cancellation now) :
    StoreStep s (.cancelSubscriptionRebootstrap credential cancellation now)
      (cancelSubscriptionRebootstrap credential cancellation now s).2 := by
  refine .checked fun _ _ => ?_
  refine ends_memberStep fun d => ?_
  unfold MemoryDomain.cancelSubscriptionRebootstrap
  refine ends_get (ends_ofExcept (fun _ _ => .unchanged) fun subscription hsub => ?_)
  split
  · exact ends_found .unchanged
  · next hfresh =>
    refine ends_ofExcept (fun _ _ => .unchanged) fun _ _ => ?_
    refine ends_reject .unchanged fun _ => ?_
    exact ends_modify (ends_pure (.plain (.cancelRebootstrap hfresh)))

theorem completeSubscriptionRebootstrap_step (credential completion now) :
    StoreStep s (.completeSubscriptionRebootstrap credential completion now)
      (completeSubscriptionRebootstrap credential completion now s).2 := by
  refine .checked fun _ _ => ?_
  refine ends_ofExcept (fun _ _ => .unchanged) fun _ _ => ?_
  refine ends_memberStep fun d => ?_
  unfold MemoryDomain.completeSubscriptionRebootstrap
  refine ends_modify (ends_get ?_)
  refine ends_ofExcept (fun _ _ => .refresh rfl) fun subscription hsub => ?_
  split
  · exact ends_found (.refresh rfl)
  · next hfresh =>
    split
    · exact ends_fail (.refresh rfl)
    · next cursor hcursor =>
      refine ends_reject (.refresh rfl) fun hstatus => ?_
      refine ends_ofExcept (fun _ _ => .refresh rfl) fun recovery hrecovery => ?_
      refine ends_reject (.refresh rfl) fun hactive => ?_
      refine ends_ofExcept (fun _ _ => .refresh rfl) fun startSequence hstart => ?_
      refine ends_reject (.refresh rfl) fun _ => ?_
      refine ends_reject (.refresh rfl) fun _ => ?_
      obtain ⟨hrecovery, hown⟩ := matchingRecovery_eq_ok hrecovery
      refine ends_modify (ends_pure (.due rfl ?_))
      exact .completeRebootstrap hsub hfresh hcursor (not_not.mp hstatus) hrecovery hown
        (Bool.not_eq_false _ ▸ hactive) hstart

/-! ### Tenant-wide revocation -/

/-- The targets of a valid revocation name distinct domains and real subscriptions. -/
theorem validateRevocationTargets_eq_ok {seen : List UUID}
    {items : List TenantMembershipRevocationItem} {u}
    (h : validateRevocationTargets seen items = .ok u) :
    (∀ item ∈ items, item.subscriptionID ≠ uuidNil ∧ item.domainID ∉ seen) ∧
      (items.map (·.domainID)).Nodup := by
  induction items generalizing seen with
  | nil => simp
  | cons item items ih =>
    unfold validateRevocationTargets at h
    split at h
    · cases h
    · next hfields =>
      split at h
      · cases h
      · next hseen =>
        obtain ⟨hitems, hnodup⟩ := ih h
        rw [not_or, not_or] at hfields
        refine ⟨?_, ?_⟩
        · intro item' hmem
          rcases List.mem_cons.mp hmem with rfl | hmem
          · exact ⟨hfields.2.1, hseen⟩
          · exact ⟨(hitems item' hmem).1, fun h => (hitems item' hmem).2 (.tail _ h)⟩
        · rw [List.map_cons, List.nodup_cons]
          refine ⟨fun hmem => ?_, hnodup⟩
          obtain ⟨item', hmem', heq⟩ := List.mem_map.mp hmem
          exact (hitems item' hmem').2 (heq ▸ .head _)

theorem revokeTenantMemberships_step (credential revocation) :
    StoreStep s (.revokeTenantMemberships credential revocation)
      (revokeTenantMemberships credential revocation s).2 := by
  refine .checked fun _ hvalid => ends_get ?_
  split
  · exact ends_fail .unchanged
  · next tenant htenant =>
    refine ends_ofExcept (fun _ _ => .unchanged) fun _ _ => ?_
    split
    · exact ends_found .unchanged
    · refine ends_ofExcept (fun _ _ => .unchanged) fun _ _ => ends_modify (ends_pure ?_)
      obtain ⟨_, _, htargets⟩ := bind_eq_ok.mp hvalid
      obtain ⟨htargets, hdistinct⟩ := validateRevocationTargets_eq_ok htargets
      exact .revocation (fun target hmem => (htargets target hmem).1) hdistinct htenant rfl

/-! ## Messages -/

theorem publish_step (credential envelope now) : StoreStep s (.publish credential envelope now)
      (publish credential envelope now s).2 := by
  refine ends_final (ends_memberStep fun d => ?_)
  unfold MemoryDomain.publish
  refine ends_ofExcept (fun _ _ => .unchanged) fun _ hvalid => ends_get ?_
  refine ends_ofExcept (fun _ _ => .unchanged) fun subscription hsub => ?_
  split
  · exact .unchanged
  · next hstored =>
    split
    · exact .unchanged
    · next htombstone =>
      unfold MemoryDomain.publishNew
      refine ends_memoryFenceAllowsWrite (fun _ => .refresh rfl) fun hfence => ?_
      refine ends_get (ends_reject (.refresh rfl) fun hcount => ?_)
      refine ends_ofExcept (fun _ _ => .refresh rfl) fun byteCount hbytes => ?_
      refine ends_reject (.refresh rfl) fun hlimit => ?_
      refine ends_ofExcept (fun _ _ => .refresh rfl) fun _ htenant => ?_
      refine ends_modify (ends_pure (.due rfl ?_))
      obtain ⟨_, hvalid, _⟩ := bind_eq_ok.mp hvalid
      refine .publish rfl hvalid hsub hstored htombstone hfence hbytes (fun hbounded => ?_)
        htenant
      exact ⟨not_le.mp fun h => hcount ⟨hbounded, h⟩, not_lt.mp fun h => hlimit ⟨hbounded, h⟩⟩

theorem fetch_step (credential afterSequence limit now) :
    StoreStep s (.fetch credential afterSequence limit now)
      (fetch credential afterSequence limit now s).2 := by
  refine ends_final (ends_reject .unchanged fun _ => ?_)
  refine ends_memberStep fun d => ends_modify (ends_get ?_)
  refine ends_ofExcept (fun _ _ => .refresh rfl) fun _ _ => ?_
  refine ends_reject (.refresh rfl) fun _ => ?_
  exact ends_ofExcept (fun _ _ => .refresh rfl) fun _ _ =>
    ends_pure (.refresh rfl)

theorem getMessage_step (credential messageID now) :
    StoreStep s (.getMessage credential messageID now)
      (getMessage credential messageID now s).2 := by
  refine ends_final (ends_reject .unchanged fun _ => ?_)
  refine ends_memberStep fun d => ends_modify (ends_get ?_)
  refine ends_ofExcept (fun _ _ => .refresh rfl) fun _ _ => ?_
  split
  · exact ends_fail (.refresh rfl)
  · exact ends_reject (.refresh rfl) fun _ =>
      ends_pure (.refresh rfl)

theorem acknowledge_step (credential messageID stage now) :
    StoreStep s (.acknowledge credential messageID stage now)
      (acknowledge credential messageID stage now s).2 := by
  refine ends_final (ends_memberStep fun d => ?_)
  unfold MemoryDomain.acknowledge
  refine ends_get (ends_ofExcept (fun _ _ => .unchanged) fun subscription hsub => ?_)
  refine ends_reject .unchanged fun _ => ?_
  split
  · exact ends_fail .unchanged
  · next m hm =>
    refine ends_reject .unchanged fun _ => ?_
    split
    · split
      · exact ends_pure .unchanged
      · exact ends_modify (ends_pure (.plain (.acknowledge hm rfl hsub rfl)))
    · refine ends_reject .unchanged fun _ => ?_
      exact ends_modify (ends_pure (.plain (.acknowledge hm rfl hsub rfl)))

/-! ## Fences -/

theorem createCheckpointFence_step (credential request now) :
    StoreStep s (.createCheckpointFence credential request now)
      (createCheckpointFence credential request now s).2 := by
  refine .checked fun _ _ => ?_
  refine ends_reject .unchanged fun _ => ?_
  refine ends_memberStep fun d => ?_
  unfold MemoryDomain.createCheckpointFence
  refine ends_get (ends_ofExcept (fun _ _ => .unchanged) fun subscription _ => ?_)
  refine ends_modify (ends_get ?_)
  split
  · split
    · exact ends_found (.refresh rfl)
    · exact ends_fail (.refresh rfl)
  · next hfresh =>
    refine ends_reject (.refresh rfl) fun hnew => ?_
    refine ends_reject (.refresh rfl) fun hidle => ?_
    exact ends_modify (ends_pure (.due rfl (.createFence
      (Option.not_isSome_iff_eq_none.mp hnew) (Bool.eq_false_iff.mpr hidle) hfresh)))

theorem getCheckpointFence_step (credential fenceID now) :
    StoreStep s (.getCheckpointFence credential fenceID now)
      (getCheckpointFence credential fenceID now s).2 := by
  refine ends_final (ends_memberStep fun d => ?_)
  unfold MemoryDomain.getCheckpointFence
  refine ends_get (ends_ofExcept (fun _ _ => .unchanged) fun subscription _ => ?_)
  refine ends_modify (ends_get ?_)
  split
  · exact ends_fail (.refresh rfl)
  · exact ends_reject (.refresh rfl) fun _ =>
      ends_pure (.refresh rfl)

theorem abortCheckpointFence_step (credential request now) :
    StoreStep s (.abortCheckpointFence credential request now)
      (abortCheckpointFence credential request now s).2 := by
  refine .checked fun _ _ => ?_
  refine ends_reject .unchanged fun _ => ?_
  refine ends_memberStep fun d => ?_
  unfold MemoryDomain.abortCheckpointFence
  refine ends_get (ends_ofExcept (fun _ _ => .unchanged) fun subscription _ => ?_)
  split
  · split
    · exact ends_found .unchanged
    · exact ends_fail .unchanged
  · next hfresh =>
    refine ends_modify (ends_get ?_)
    split
    · exact ends_fail (.refresh rfl)
    · next fence hfence =>
      refine ends_reject (.refresh rfl) fun _ => ?_
      refine ends_reject (.refresh rfl) fun hactive => ?_
      refine ends_modify (ends_pure (.due rfl ?_))
      exact .abortFence hfence (not_not.mp hactive) hfresh

/-! ## Checkpoints -/

theorem stageCheckpoint_step (credential candidate now) :
    StoreStep s (.stageCheckpoint credential candidate now)
      (stageCheckpoint credential candidate now s).2 := by
  refine .checked fun _ _ => ?_
  refine ends_reject .unchanged fun _ => ?_
  refine ends_ofExcept (fun _ _ => .unchanged) fun coveredThrough hcovered => ?_
  refine ends_memberStep fun d => ?_
  unfold MemoryDomain.stageCheckpoint
  refine ends_get (ends_ofExcept (fun _ _ => .unchanged) fun subscription _ => ?_)
  refine ends_reject .unchanged fun _ => ?_
  split
  · split
    · exact ends_found .unchanged
    · exact ends_fail .unchanged
  · refine ends_reject .unchanged fun _ => ends_modify (ends_get ?_)
    split
    · exact ends_fail (.refresh rfl)
    · next fence hfence =>
      refine ends_reject (.refresh rfl) fun hmatch => ?_
      refine ends_reject (.refresh rfl) fun hnew => ?_
      refine ends_reject (.refresh rfl) fun hsuffix => ?_
      refine ends_reject (.refresh rfl) fun _ => ?_
      refine ends_modify (ends_pure (.due rfl ?_))
      rw [not_or, not_or, not_or, not_not, not_not, not_not] at hmatch
      exact .stage hcovered hfence hmatch.1 hmatch.2.2.2 (Option.not_isSome_iff_eq_none.mp hnew)
        (Bool.not_eq_false _ ▸ hsuffix)

theorem activateCheckpoint_step (credential request now) :
    StoreStep s (.activateCheckpoint credential request now)
      (activateCheckpoint credential request now s).2 := by
  refine ends_outcome (ends_ofExcept (fun _ _ _ => .unchanged) fun _ _ => ?_)
  refine ends_asAdministrator (fun _ _ => .unchanged) fun d hd => ?_
  unfold MemoryDomain.activateCheckpoint
  refine ends_get ?_
  split
  · split
    · exact ends_pure fun _ => .domain hd .unchanged
    · exact ends_fail fun _ => .domain hd .unchanged
  · next hfresh =>
    split
    · exact ends_fail fun _ => .domain hd .unchanged
    · refine ends_modify (ends_get ?_)
      split
      · exact ends_fail fun _ => .domain hd (.refresh rfl)
      · next checkpoint hcheckpoint =>
        dsimp only
        split
        · split
          · exact ends_fail fun _ => .domain hd (.refresh rfl)
          · exact ends_fail fun _ => .domain hd (.refresh rfl)
        · next hstate =>
          refine ends_rejectIf (fun _ _ => .domain hd (.refresh rfl)) fun hregress => ?_
          split
          · exact ends_fail fun _ => .domain hd (.refresh rfl)
          · next fence hfence =>
            refine ends_rejectIf (fun _ _ => .domain hd (.refresh rfl)) fun hready => ?_
            refine ends_rejectIf (fun _ _ => .domain hd (.refresh rfl)) fun hidle => ?_
            refine ends_modify (ends_pure fun haccepted => .domain hd (.due rfl ?_))
            rw [not_or, not_not] at hstate
            rw [not_or, not_not, Bool.not_eq_false] at hready
            exact .activate rfl haccepted rfl hcheckpoint hstate.1 hfence hready.1 hready.2
              (Bool.eq_false_iff.mpr hregress) (Bool.eq_false_iff.mpr hidle) rfl hfresh

theorem collectCheckpoint_step (credential request) :
    StoreStep s (.collectCheckpoint credential request)
      (collectCheckpoint credential request s).2 := by
  refine .checked fun _ _ => ?_
  refine ends_administratorStep fun d => ?_
  unfold MemoryDomain.collectCheckpoint
  refine ends_get ?_
  split
  · exact ends_fail .unchanged
  · next checkpoint hcheckpoint =>
    refine ends_reject .unchanged fun _ => ?_
    split
    · exact ends_found .unchanged
    · next hfresh =>
      refine ends_ofExcept (fun _ _ => .unchanged) fun plan hplan => ?_
      refine ends_reject .unchanged fun _ => ?_
      refine ends_reject .unchanged fun heligible => ?_
      exact ends_modify (ends_pure (.plain
        (.collect hcheckpoint hplan (Bool.not_eq_false _ ▸ heligible) rfl hfresh)))

/-! ## Blobs -/

theorem commitBlobPublish_step (credential blobID byteCount now) :
    StoreStep s (.commitBlobPublish credential blobID byteCount now)
      (commitBlobPublish credential blobID byteCount now s).2 := by
  refine ends_outcome (ends_ofExcept (fun _ _ _ => .unchanged) fun _ hvalid => ?_)
  refine ends_asMember (fun _ _ => .unchanged) fun d hd => ?_
  unfold MemoryDomain.commitBlobPublish
  refine ends_get ?_
  split
  · split
    · exact ends_pure fun _ => .domain hd .unchanged
    · exact ends_fail fun _ => .domain hd .unchanged
  · next hnew =>
    refine ends_ofExcept (fun _ _ _ => .domain hd .unchanged) fun subscription _ => ?_
    refine ends_memoryFenceAllowsWrite (fun _ _ => .domain hd (.refresh rfl)) fun hfence => ?_
    refine ends_get ?_
    refine ends_ofExcept (fun _ _ _ => .domain hd (.refresh rfl)) fun _ hcapacity => ?_
    refine ends_ofExcept (fun _ _ _ => .domain hd (.refresh rfl)) fun _ htenant => ?_
    refine ends_ofExcept (fun _ _ _ => .domain hd (.refresh rfl)) fun _ _ => ?_
    refine ends_modify (ends_pure fun haccepted => .domain hd (.due rfl ?_))
    refine .commitBlob rfl ?_ hnew hcapacity htenant rfl hfence haccepted
    obtain ⟨_, _, hcount⟩ := bind_eq_ok.mp hvalid
    exact not_lt.mp fun h => rejectWhen_eq_ok.mp hcount (.inl h)

theorem createBlobUpload_step (credential request now) :
    StoreStep s (.createBlobUpload credential request now)
      (createBlobUpload credential request now s).2 := by
  refine .checked fun _ hvalid => ?_
  refine ends_reject .unchanged fun _ => ?_
  refine ends_memberStep fun d => ?_
  unfold MemoryDomain.createBlobUpload
  refine ends_get (ends_ofExcept (fun _ _ => .unchanged) fun subscription _ => ?_)
  split
  · split
    · exact ends_found .unchanged
    · exact ends_fail .unchanged
  · refine ends_memoryFenceAllowsWrite (fun _ => .refresh rfl) fun _ => ends_get ?_
    refine ends_reject (.refresh rfl) fun hnew => ?_
    refine ends_reject (.refresh rfl) fun _ => ?_
    refine ends_reject (.refresh rfl) fun hquota => ?_
    refine ends_ofExcept (fun _ _ => .refresh rfl) fun _ htenant => ?_
    refine ends_modify (ends_pure (.due rfl (.createUpload rfl ?_
      (Option.not_isSome_iff_eq_none.mp hnew) (fun hbounded => ?_) htenant)))
    · obtain ⟨_, hfields, _⟩ := bind_eq_ok.mp hvalid
      exact not_lt.mp fun h => rejectWhen_eq_ok.mp hfields (.inr (.inr (.inl h)))
    · exact ⟨not_le.mp fun h => hquota ⟨hbounded, .inl h⟩,
        not_lt.mp fun h => hquota ⟨hbounded, .inr h⟩⟩

theorem ownUpload_eq_ok {memberID uploadID upload}
    (h : d.ownUpload memberID uploadID = .ok upload) :
    d.blobUploads.get? uploadID = some upload := by
  unfold MemoryDomain.ownUpload at h
  split at h
  · cases h
  · next found hfound =>
    split at h
    · cases h
    · split at h
      · cases h
      · cases h
        exact hfound

theorem appendBlobUploadChunk_step (credential request now write) :
    StoreStep s (.appendBlobUploadChunk credential request now write)
      (appendBlobUploadChunk credential request now write s).2 := by
  refine .checked fun _ hvalid => ?_
  refine ends_memberStep fun d => ?_
  unfold MemoryDomain.appendBlobUploadChunk
  refine ends_get (ends_ofExcept (fun _ _ => .unchanged) fun upload hupload => ?_)
  split
  · exact ends_found .unchanged
  · refine ends_memoryFenceAllowsWrite (fun _ => .refresh rfl) fun _ => ?_
    refine ends_reject (.refresh rfl) fun _ => ?_
    refine ends_ofExcept (fun _ _ => .refresh rfl) fun _ _ => ?_
    exact ends_modify (ends_pure (.due rfl (.appendChunk (ownUpload_eq_ok hupload))))

theorem finalizeBlobUpload_step (credential request now publish) :
    StoreStep s (.finalizeBlobUpload credential request now publish)
      (finalizeBlobUpload credential request now publish s).2 := by
  refine ends_outcome (ends_ofExcept (fun _ _ _ => .unchanged) fun _ hvalid => ?_)
  refine ends_asMember (fun _ _ => .unchanged) fun d hd => ?_
  unfold MemoryDomain.finalizeBlobUpload
  refine ends_get ?_
  split
  · split
    · exact ends_pure fun _ => .domain hd .unchanged
    · exact ends_fail fun _ => .domain hd .unchanged
  · next hfresh =>
    refine ends_ofExcept (fun _ _ _ => .domain hd .unchanged) fun upload hupload => ?_
    refine ends_memoryFenceAllowsWrite (fun _ _ => .domain hd (.refresh rfl)) fun hfence => ?_
    refine ends_rejectIf (fun _ _ => .domain hd (.refresh rfl)) fun hmatch => ends_get ?_
    rw [not_or, not_or, not_not, not_not] at hmatch
    split
    · refine ends_rejectIf (fun _ _ => .domain hd (.refresh rfl)) fun _ => ?_
      exact ends_modify (ends_pure fun haccepted => .domain hd (.due rfl
        (.finalizeExisting rfl haccepted rfl (ownUpload_eq_ok hupload) hmatch.2.1 hfresh)))
    · next hnew =>
      refine ends_ofExcept (fun _ _ _ => .domain hd (.refresh rfl)) fun _ _ => ?_
      refine ends_modify (ends_pure fun haccepted => .domain hd (.due rfl
        (.finalizeNew rfl haccepted rfl (ownUpload_eq_ok hupload) hmatch.2.1 ?_ hnew hfresh
          hfence)))
      obtain ⟨_, hfields, _⟩ := bind_eq_ok.mp hvalid
      exact not_lt.mp fun h => rejectWhen_eq_ok.mp hfields (.inr (.inr (.inl h)))

end

/-! ## The whole operation -/

/-- Every domain belongs to a tenant of the store. -/
def MemoryStore.TenantsFiled (s : MemoryStore) : Prop :=
  ∀ key d, s.domains.get? key = some d → (s.tenants.get? key.tenantID).isSome = true

/-- **The step relation covers the code.** -/
theorem Operation.apply_step {s} (hs : s.TenantsFiled) (op : Operation) :
    StoreStep s op (op.apply s) := by
  cases op with
  | createDomain => exact createDomain_step _ _
  | createMember => exact createMember_step _ _ _
  | createAdmission => exact createAdmission_step _ _ _
  | provisionTenant => exact provisionTenant_step _ _ hs
  | provisionDomain => exact provisionDomain_step _ _ _
  | rotateTenantCredential => exact rotateTenantCredential_step _ _
  | rotateAdministrationCredential => exact rotateAdministrationCredential_step _ _ _
  | rotateMemberCredential => exact rotateMemberCredential_step _ _ _
  | createSubscriptionMember =>
    exact (createSubscriptionMember_writes _ _ _ _ _ rfl).mono fun _ _ => AuthorityWrite.step
  | revokeMember => exact revokeMember_step _ _ _
  | changeMemberCapabilities => exact changeMemberCapabilities_step _ _ _
  | createSubscriptionAdmission =>
    exact (createSubscriptionAdmission_writes _ _ _ _ _ rfl).mono fun _ _ => AuthorityWrite.step
  | claimSubscriptionAdmission => exact claimSubscriptionAdmission_step _ _ _
  | claimReplacingInactiveMembership => exact claimReplacingInactiveMembership_step _ _ _ _
  | collectAdmissions => exact collectAdmissions_step _ _
  | revokeAdmission => exact revokeAdmission_step _ _ _
  | createSubscription => exact createSubscription_step _ _
  | changeSubscriptionStatus => exact changeSubscriptionStatus_step _ _ _
  | requestSubscriptionRebootstrap => exact requestSubscriptionRebootstrap_step _ _ _
  | renewSubscriptionRebootstrap => exact renewSubscriptionRebootstrap_step _ _ _
  | cancelSubscriptionRebootstrap => exact cancelSubscriptionRebootstrap_step _ _ _
  | completeSubscriptionRebootstrap => exact completeSubscriptionRebootstrap_step _ _ _
  | revokeTenantMemberships => exact revokeTenantMemberships_step _ _
  | publish => exact publish_step _ _ _
  | fetch => exact fetch_step _ _ _ _
  | getMessage => exact getMessage_step _ _ _
  | acknowledge => exact acknowledge_step _ _ _ _
  | createCheckpointFence => exact createCheckpointFence_step _ _ _
  | getCheckpointFence => exact getCheckpointFence_step _ _ _
  | abortCheckpointFence => exact abortCheckpointFence_step _ _ _
  | stageCheckpoint => exact stageCheckpoint_step _ _ _
  | activateCheckpoint => exact activateCheckpoint_step _ _ _
  | collectCheckpoint => exact collectCheckpoint_step _ _
  | commitBlobPublish => exact commitBlobPublish_step _ _ _ _
  | createBlobUpload => exact createBlobUpload_step _ _ _
  | appendBlobUploadChunk => exact appendBlobUploadChunk_step _ _ _ _
  | finalizeBlobUpload => exact finalizeBlobUpload_step _ _ _ _

end FacetsNode.Relay
