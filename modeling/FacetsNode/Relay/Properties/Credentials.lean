import FacetsNode.Relay.Properties.Representation

/-!
# Retired credentials

A member's credential is replaced by a rotation, or by a claim that takes over a membership whose
subscription is no longer active. Rotations are listed, and a rotation to a listed digest is
refused. A replacing claim neither lists the digest it replaces nor looks at the list, so it is on
the claims that retired digests depend.

* `DomainStep.authorityChange` — everything a step can do to members, rotations and capabilities;
* `Retired` — a listed digest that is not the member's;
* `retired_of_run` — a digest that was replaced never comes back.
-/

namespace FacetsNode.Relay

/-- A claim that replaces a membership replaces a digest the rotations list. -/
def ReplacesListed (s : MemoryStore) : Operation → Prop
  | .claimReplacingInactiveMembership credential claim _ _ =>
    ∀ d, s.domains.get? ⟨credential.tenantID, credential.domainID⟩ = some d →
      ∀ member, d.members.get? claim.memberID = some member →
        rotationDigestWasUsed d.rotations .member claim.memberID member.authorizationDigest = true
  | _ => True

/-- A claim that replaces a membership brings a digest the rotations do not list. -/
def BringsUnlisted (s : MemoryStore) : Operation → Prop
  | .claimReplacingInactiveMembership credential claim _ _ =>
    ∀ d, s.domains.get? ⟨credential.tenantID, credential.domainID⟩ = some d →
      rotationDigestWasUsed d.rotations .member claim.memberID claim.authorizationDigest = false
  | _ => True

/-! ## The list of rotations -/

section
variable {rotations : GoMap UUID MemoryCredentialRotation} {subject : RotationSubject}
  {rotationID id : UUID} {digest : GoString} {rotation : MemoryCredentialRotation}

theorem rotationDigestWasUsed_eq_true : rotationDigestWasUsed rotations subject id digest = true ↔
      ∃ rotationID rotation, rotations.get? rotationID = some rotation ∧
        rotation.subjectType = subject ∧ rotation.subjectID = id ∧
        (rotation.previousAuthorizationDigest = digest ∨
          rotation.newAuthorizationDigest = digest) := by
  simp only [rotationDigestWasUsed, GoMap.any_pairs, decide_eq_true_eq]

/-- A new rotation keeps the list. -/
theorem rotationDigestWasUsed_set (hfresh : rotations.get? rotationID = none)
    (h : rotationDigestWasUsed rotations subject id digest = true) :
    rotationDigestWasUsed (rotations.set rotationID rotation) subject id digest = true := by
  rw [rotationDigestWasUsed_eq_true] at h ⊢
  obtain ⟨rotationID', rotation', hget, hlisted⟩ := h
  have hne : rotationID' ≠ rotationID := by
    rintro rfl
    rw [hfresh] at hget
    cases hget
  exact ⟨rotationID', rotation', by rw [GoMap.get?_set_ne _ _ hne, hget], hlisted⟩

/-- A rotation lists the digest it replaces. -/
theorem rotationDigestWasUsed_set_self {previous new} {now : Int} :
    rotationDigestWasUsed (rotations.set rotationID ⟨subject, id, previous, new, now⟩) subject id
      previous = true :=
  rotationDigestWasUsed_eq_true.mpr ⟨rotationID, _, GoMap.get?_set_self _ _ _, rfl, rfl, .inl rfl⟩

end

/-! ## What a step does to the authority records -/

section
variable {s : MemoryStore} {key : DomainKey} {op : Operation} {d d' : MemoryDomain}

/-- **Authority.** Whatever a step does to the members, the rotations and the capability changes, it
is one of the changes of `AuthorityChange`. -/
theorem DomainStep.authorityChange (hstep : DomainStep s key op d d') :
    AuthorityChange key op d.authority d'.authority := by
  obtain @⟨d₁, hexpiry, heffect⟩ := hstep
  have hsame : d₁.authority = d.authority :=
    hexpiry.frame MemoryDomain.authority fun _ _ _ _ _ => rfl
  rw [← hsame]
  cases heffect with
  | authority _ hchange => exact hchange
  | testSubscription _ _ hchange => exact hchange
  | revokeMembership _ _ hmember => exact .revokeMember hmember rfl rfl rfl rfl
  | _ => exact .none rfl rfl rfl

end

/-! ## Members -/

/-- Every member is filed under its own identifier. -/
def MembersKeyed (a : Authority) : Prop :=
  ∀ id member, a.members.get? id = some member → member.memberID = id

/-- The digest is listed, and the member has another one. -/
structure Retired (a : Authority) (id : UUID) (digest : GoString) : Prop where
  listed : rotationDigestWasUsed a.rotations .member id digest = true
  present : ∃ member, a.members.get? id = some member ∧ member.authorizationDigest ≠ digest

open Option

section
variable {key : DomainKey} {op : Operation} {a a' : Authority} {id : UUID} {digest : GoString}

variable {member : MemberRegistration}

theorem MembersKeyed.set (h : MembersKeyed a)
    (hmembers : a'.members = a.members.set id member) (hid : member.memberID = id) :
    MembersKeyed a' := by
  intro id' member' hget
  rw [hmembers, GoMap.get?_set] at hget
  split at hget
  · next heq =>
    cases hget
    rw [hid, heq]
  · exact h _ _ hget

theorem MembersKeyed.change (h : MembersKeyed a) (hchange : AuthorityChange key op a a') :
    MembersKeyed a' := by
  cases hchange with
  | none hmembers | rotateAdministration _ _ hmembers =>
    exact fun id member hget => h id member (hmembers ▸ hget)
  | rotateMember _ hmember _ _ hmembers | revokeMember hmember hmembers =>
    have hid := h _ _ hmember
    exact h.set hmembers hid
  | newMember _ hmembers | changeCapabilities _ hmember hmembers => exact h.set hmembers rfl
  | replaceMember _ _ _ _ hid _ hmembers => exact h.set hmembers hid

/-- Whoever gets a digest other than the retired one leaves it retired. -/
theorem Retired.set {id'} (h : Retired a id digest)
    (hlisted : rotationDigestWasUsed a'.rotations .member id digest = true)
    (hmembers : a'.members = a.members.set id' member)
    (hdigest : id' = id → member.authorizationDigest ≠ digest) : Retired a' id digest := by
  refine ⟨hlisted, ?_⟩
  rw [hmembers]
  by_cases hid : id' = id
  · subst hid
    exact ⟨member, GoMap.get?_set_self _ _ _, hdigest rfl⟩
  · obtain ⟨member', hget, hne⟩ := h.present
    exact ⟨member', by rw [GoMap.get?_set_ne _ _ (Ne.symm hid), hget], hne⟩

/-- The digest of a member that is filed under the retired identifier is not the retired one. -/
theorem Retired.ne (h : Retired a id digest)
    (hget : a.members.get? id = some member) : member.authorizationDigest ≠ digest := by
  obtain ⟨member', hget', hne⟩ := h.present
  rw [hget, some.injEq] at hget'
  exact hget' ▸ hne

/-- **Step.** A retired digest stays retired, provided a replacing claim does not bring it. -/
theorem Retired.change (h : Retired a id digest) (hkeyed : MembersKeyed a)
    (hchange : AuthorityChange key op a a') (hclaim : ∀ credential claim previousSubscriptionID now,
      op = .claimReplacingInactiveMembership credential claim previousSubscriptionID now →
      key = ⟨credential.tenantID, credential.domainID⟩ →
      rotationDigestWasUsed a.rotations .member claim.memberID claim.authorizationDigest = false) :
    Retired a' id digest := by
  cases hchange with
  | none hmembers hrotations => exact ⟨hrotations ▸ h.listed, hmembers ▸ h.present⟩
  | rotateAdministration hfresh _ hmembers hrotations =>
    exact ⟨hrotations ▸ rotationDigestWasUsed_set hfresh h.listed, hmembers ▸ h.present⟩
  | rotateMember hfresh hmember hunused _ hmembers hrotations =>
    refine h.set (hrotations ▸ rotationDigestWasUsed_set hfresh h.listed) hmembers ?_
    -- The new digest is not listed, the retired one is.
    rintro rfl rfl
    rw [h.listed] at hunused
    cases hunused
  | newMember hnew hmembers hrotations =>
    refine h.set (hrotations ▸ h.listed) hmembers ?_
    rintro rfl
    obtain ⟨member', hget, -⟩ := h.present
    rw [hnew] at hget
    cases hget
  | replaceMember hop hkey _ _ _ hdigest hmembers hrotations =>
    refine h.set (hrotations ▸ h.listed) hmembers ?_
    rintro rfl heq
    have hunlisted := hclaim _ _ _ _ hop hkey
    rw [← hdigest, heq, h.listed] at hunlisted
    cases hunlisted
  | revokeMember hmember hmembers hrotations =>
    refine h.set (hrotations ▸ h.listed) hmembers ?_
    rintro rfl
    have hne := h.ne hmember
    exact hne
  | changeCapabilities _ hmember hmembers hrotations =>
    refine h.set (hrotations ▸ h.listed) hmembers fun hid => ?_
    rw [hkeyed _ _ hmember] at hid
    subst hid
    have hne := h.ne hmember
    exact hne

/-- A step that replaces a digest leaves it retired, provided a replacing claim finds it listed. -/
theorem retired_of_change {member'} (hkeyed : MembersKeyed a)
    (hchange : AuthorityChange key op a a') (hmember : a.members.get? id = some member)
    (hmember' : a'.members.get? id = some member')
    (hreplaced : member'.authorizationDigest ≠ member.authorizationDigest)
    (hclaim : ∀ credential claim previousSubscriptionID now,
      op = .claimReplacingInactiveMembership credential claim previousSubscriptionID now →
      key = ⟨credential.tenantID, credential.domainID⟩ →
      ∀ member, a.members.get? claim.memberID = some member →
        rotationDigestWasUsed a.rotations .member claim.memberID
          member.authorizationDigest = true) :
    Retired a' id member.authorizationDigest := by
  refine ⟨?_, member', hmember', hreplaced⟩
  -- Only a write under the member's identifier replaces its digest.
  have hset : ∀ {id' : UUID} {written : MemberRegistration},
      a'.members = a.members.set id' written →
        id' = id ∧ written.authorizationDigest ≠ member.authorizationDigest := by
    intro id' written hmembers
    rw [hmembers, GoMap.get?_set] at hmember'
    split at hmember'
    · next hid =>
      cases hmember'
      exact ⟨hid.symm, hreplaced⟩
    · rw [hmember, some.injEq] at hmember'
      exact absurd (hmember' ▸ rfl) hreplaced
  have hsame : a'.members ≠ a.members := by
    intro hmembers
    rw [hmembers, hmember, some.injEq] at hmember'
    exact hreplaced (hmember' ▸ rfl)
  cases hchange with
  | none hmembers | rotateAdministration _ _ hmembers => exact absurd hmembers hsame
  | rotateMember _ hprevious _ _ hmembers hrotations =>
    obtain ⟨rfl, -⟩ := hset hmembers
    rw [hmember, some.injEq] at hprevious
    rw [hrotations, hprevious]
    exact rotationDigestWasUsed_set_self
  | newMember hnew hmembers =>
    obtain ⟨rfl, -⟩ := hset hmembers
    rw [hmember] at hnew
    cases hnew
  | replaceMember hop hkey hprevious _ _ _ hmembers hrotations =>
    obtain ⟨rfl, -⟩ := hset hmembers
    rw [hrotations]
    exact hclaim _ _ _ _ hop hkey member hmember
  | revokeMember hprevious hmembers =>
    obtain ⟨rfl, hne⟩ := hset hmembers
    rw [hmember, some.injEq] at hprevious
    exact absurd (hprevious ▸ rfl) hne
  | changeCapabilities _ hprevious hmembers =>
    obtain ⟨hid, hne⟩ := hset hmembers
    rw [hkeyed _ _ hprevious] at hid
    subst hid
    rw [hmember, some.injEq] at hprevious
    exact absurd (hprevious ▸ rfl) hne

end

/-! ## Digests

Presented and registered digest are compared as bytes; both are in lower case, so they are the same
text. -/

theorem encode_of_validDigest {digest} {bytes : List UInt8}
    (h : validDigest digest = true) (hbytes : Hex.decode digest = some bytes) :
    Hex.encode bytes = digest := by
  unfold validDigest at h
  rw [Bool.and_eq_true, Bool.and_eq_true, decide_eq_true_eq, decide_eq_true_eq] at h
  exact Hex.encode_of_decode hbytes h.1.2

theorem decode_authorizationDigest {credential digest}
    (h : authorizationDigest credential = some digest) :
    ∃ bytes, Hex.decode digest = some bytes ∧ Hex.encode bytes = digest := by
  unfold authorizationDigest at h
  split at h
  · cases h
  · rw [some.injEq] at h
    exact ⟨_, h ▸ Hex.decode_encode _, h⟩

theorem digest_eq_of_matches {credential presented registered}
    (hpresented : authorizationDigest credential = some presented)
    (hregistered : validDigest registered = true)
    (hmatches : digestMatches (some presented) registered = true) : presented = registered := by
  obtain ⟨bytes, hdecode, hencode⟩ := decode_authorizationDigest hpresented
  unfold digestMatches constantTimeDigestEqual at hmatches
  dsimp only at hmatches
  rw [hdecode] at hmatches
  cases hright : Hex.decode registered with
  | none =>
    rw [hright] at hmatches
    cases hmatches
  | some bytes' =>
    rw [hright] at hmatches
    have hbytes : bytes = bytes' := of_decide_eq_true hmatches
    rw [← hencode, hbytes, encode_of_validDigest hregistered hright]

/-! ## Along a run -/

section
variable {s : MemoryStore} {key : DomainKey} {op : Operation} {d d' : MemoryDomain} {id : UUID}
  {digest : GoString}

theorem membersKeyed_of_reachable (hs : Reachable s) (hd : s.domains.get? key = some d) :
    MembersKeyed d.authority := by
  refine hs.domain_invariant (I := fun d => MembersKeyed d.authority) ?_ ?_ hd
  · intro p _ id member hget
    have hget' : ((∅ : GoMap UUID MemberRegistration).set p.initialMember.memberID
      p.initialMember).get? id = some member := hget
    rw [GoMap.get?_set] at hget'
    split at hget'
    · next hid =>
      cases hget'
      exact hid.symm
    · simp at hget'
  · intro s op key d d' h hstep
    exact h.change hstep.authorityChange

/-- Whoever is authorized as a member presents the member's digest. -/
theorem digest_of_authorizedMember {credential capability} {now : Int}
    (hauth : s.authorizedMember credential capability now = .ok d')
    (hd : s.domains.get? ⟨credential.tenantID, credential.domainID⟩ = some d)
    {member} (hmember : d.members.get? credential.memberID = some member) :
    authorizationDigest credential = some member.authorizationDigest := by
  unfold MemoryStore.authorizedMember at hauth
  simp only [hd, hmember] at hauth
  obtain ⟨_, hauth, -⟩ := bind_eq_ok.mp hauth
  obtain ⟨_, hauth, -⟩ := bind_eq_ok.mp hauth
  obtain ⟨_, hvalid, hauth⟩ := bind_eq_ok.mp hauth
  obtain ⟨_, -, hauth⟩ := bind_eq_ok.mp hauth
  obtain ⟨_, -, hauth⟩ := bind_eq_ok.mp hauth
  obtain ⟨_, -, hauth⟩ := bind_eq_ok.mp hauth
  obtain ⟨_, hfields, -⟩ := bind_eq_ok.mp hvalid
  rw [rejectWhen_eq_ok] at hauth hfields
  have hdigest : validDigest member.authorizationDigest = true :=
    Bool.not_eq_false _ ▸ fun h => hfields (.inr (.inr (.inr (.inr (.inl h)))))
  cases hpresented : authorizationDigest credential with
  | none =>
    rw [hpresented] at hauth
    exact absurd rfl hauth
  | some digest =>
    rw [hpresented, Bool.not_eq_false] at hauth
    rw [digest_eq_of_matches hpresented hdigest hauth]

/-- **Retirement.** Once a member's digest was replaced — by a claim only if the rotations list it —
no later step makes it the member's digest again, as long as replacing claims bring unlisted
digests; so nobody who presents it is authorized as the member. -/
theorem retired_of_run {ops : List Operation} {d₁ d₂ : MemoryDomain}
    {member member₁ : MemberRegistration} (hs : Reachable s) (hd : s.domains.get? key = some d)
    (hmember : d.members.get? id = some member) (hd₁ : (op.apply s).domains.get? key = some d₁)
    (hmember₁ : d₁.members.get? id = some member₁)
    (hreplaced : member₁.authorizationDigest ≠ member.authorizationDigest)
    (hop : ReplacesListed s op) (hops : Along Operation.apply BringsUnlisted (op.apply s) ops)
    (hd₂ : (run Operation.apply (op.apply s) ops).domains.get? key = some d₂) :
    (∃ member₂, d₂.members.get? id = some member₂ ∧
      member₂.authorizationDigest ≠ member.authorizationDigest) ∧
    ∀ credential capability now, key = ⟨credential.tenantID, credential.domainID⟩ →
      credential.memberID = id → authorizationDigest credential = some member.authorizationDigest →
      ∀ d', (run Operation.apply (op.apply s) ops).authorizedMember credential capability now ≠
        .ok d' := by
  obtain ⟨d', hd', hstep⟩ := (hs.apply_step op).domain_step hd
  rw [hd₁, some.injEq] at hd'
  subst hd'
  have hretired : Retired d₁.authority id member.authorizationDigest := by
    refine retired_of_change (membersKeyed_of_reachable hs hd) hstep.authorityChange hmember hmember₁
      hreplaced ?_
    rintro credential claim previousSubscriptionID now rfl rfl member hmember
    exact hop d hd member hmember
  -- From then on the list and the claims keep it retired.
  have hkept : ∀ (s : MemoryStore) (op : Operation) (d d' : MemoryDomain), Reachable s →
      BringsUnlisted s op → s.domains.get? key = some d →
      Retired d.authority id member.authorizationDigest → DomainStep s key op d d' →
      Retired d'.authority id member.authorizationDigest := by
    intro s op d d' hs hop hd h hstep
    refine h.change (membersKeyed_of_reachable hs hd) hstep.authorityChange ?_
    rintro credential claim previousSubscriptionID now rfl rfl
    exact hop d hd
  obtain ⟨d', hd', hretired⟩ := domain_history (fun s => s) (fun _ _ => rfl)
    (I := fun _ d => Retired d.authority id member.authorizationDigest) hkept (hs.apply op) hd₁
    hretired hops
  rw [hd₂, some.injEq] at hd'
  subst hd'
  refine ⟨hretired.present, ?_⟩
  rintro credential capability now rfl rfl hdigest d' hauth
  obtain ⟨member₂, hmember₂, hne⟩ := hretired.present
  rw [digest_of_authorizedMember hauth hd₂ hmember₂, some.injEq] at hdigest
  exact hne hdigest

end

/-! ## A sample replacement -/

namespace Sample

/-- An admission to a third subscription. -/
def admission : AdmissionCredential := ⟨1, 2, 70, token⟩

/-- The reader's subscription is revoked while an admission to another one is open. -/
def admitting : List Operation :=
  [.createSubscription administrator ⟨41, 32, 0⟩, .createSubscriptionAdmission administrator 32
    ⟨1, 1, 2, 70, (admissionAuthorizationDigest admission).getD [], capabilities, 5, 1000, none,
     none, none, none⟩ 5,
   .changeSubscriptionStatus administrator 31 ⟨71, .revoked, 6⟩]

/-- The digest of a token nobody has. -/
def digest (n : Nat) : GoString := Hex.encode (List.replicate 32 (UInt8.ofNat n))

/-- The reader's credential is rotated. -/
def rotating : Operation := .rotateMemberCredential reader ⟨72, digest 1⟩ 7

/-- The reader's membership is replaced, under the digest given. -/
def replacing (digest : GoString) : Operation :=
  .claimReplacingInactiveMembership admission ⟨4, digest⟩ 31 8

end Sample

open Sample

/-- The rotated credential is replaced once more, by a claim: the reader's token stays retired. -/
theorem retired_sample : ∃ d₂, (run Operation.apply (rotating.apply (store admitting))
        [replacing (digest 2)]).domains.get? ⟨1, 2⟩ = some d₂ ∧
      (d₂.members.get? 4).map MemberRegistration.authorizationDigest = some (digest 2) ∧
      ∀ d', (run Operation.apply (rotating.apply (store admitting))
        [replacing (digest 2)]).authorizedMember reader .fetchMessage 9 ≠ .ok d' := by
  have hreach := reachable admitting
  generalize hs : store admitting = s at hreach ⊢
  obtain ⟨d, hd, member, hmember, d₁, hd₁, member₁, hmember₁, d₂, hd₂, hreader, hreplaced,
      hunlisted, hdigest⟩ : ∃ d ∈ s.domains.get? ⟨1, 2⟩, ∃ member ∈ d.members.get? 4,
      ∃ d₁ ∈ (rotating.apply s).domains.get? ⟨1, 2⟩, ∃ member₁ ∈ d₁.members.get? 4,
      ∃ d₂ ∈ (run Operation.apply (rotating.apply s) [replacing (digest 2)]).domains.get? ⟨1, 2⟩,
        authorizationDigest reader = some member.authorizationDigest ∧
        member₁.authorizationDigest ≠ member.authorizationDigest ∧
        rotationDigestWasUsed d₁.rotations .member 4 (digest 2) = false ∧
        (d₂.members.get? 4).map MemberRegistration.authorizationDigest = some (digest 2) := by
    subst hs
    decide +kernel
  have hops : Along Operation.apply BringsUnlisted (rotating.apply s)
      [replacing (digest 2)] := by
    refine And.intro ?_ trivial
    intro d' hd'
    have heq : d' = d₁ := some.inj (hd'.symm.trans hd₁)
    exact heq ▸ hunlisted
  have hop : ReplacesListed s rotating := trivial
  have hretired := retired_of_run hreach hd hmember hd₁ hmember₁ hreplaced hop hops hd₂
  exact ⟨d₂, hd₂, hdigest, hretired.2 reader .fetchMessage 9 rfl rfl hreader⟩

/-- The claim brings the retired digest back: the reader's old token is authorized again. -/
theorem retired_readmitted : ∃ d d₁ d₂ member member₁ member₂,
      (store admitting).domains.get? ⟨1, 2⟩ = some d ∧ d.members.get? 4 = some member ∧
      (rotating.apply (store admitting)).domains.get? ⟨1, 2⟩ = some d₁ ∧
      d₁.members.get? 4 = some member₁ ∧ member₁.authorizationDigest ≠ member.authorizationDigest ∧
      ((replacing ((authorizationDigest reader).getD [])).apply
        (rotating.apply (store admitting))).domains.get? ⟨1, 2⟩ = some d₂ ∧
      d₂.members.get? 4 = some member₂ ∧ member₂.authorizationDigest = member.authorizationDigest ∧
      ∃ d', ((replacing ((authorizationDigest reader).getD [])).apply
        (rotating.apply (store admitting))).authorizedMember reader .fetchMessage 9 = .ok d' := by
  generalize hs : store admitting = s
  obtain ⟨d, hd, member, hmember, d₁, hd₁, member₁, hmember₁, d₂, hd₂, member₂, hmember₂, d', hauth,
      hreplaced, hback⟩ : ∃ d ∈ s.domains.get? ⟨1, 2⟩, ∃ member ∈ d.members.get? 4,
      ∃ d₁ ∈ (rotating.apply s).domains.get? ⟨1, 2⟩, ∃ member₁ ∈ d₁.members.get? 4,
      ∃ d₂ ∈ ((replacing ((authorizationDigest reader).getD [])).apply
        (rotating.apply s)).domains.get? ⟨1, 2⟩, ∃ member₂ ∈ d₂.members.get? 4,
      ∃ d', ((replacing ((authorizationDigest reader).getD [])).apply
        (rotating.apply s)).authorizedMember reader .fetchMessage 9 = .ok d' ∧
        member₁.authorizationDigest ≠ member.authorizationDigest ∧
        member₂.authorizationDigest = member.authorizationDigest := by
    subst hs
    decide +kernel
  exact ⟨d, d₁, d₂, member, member₁, member₂, hd, hmember, hd₁, hmember₁, hreplaced, hd₂, hmember₂,
    hback, d', hauth⟩

end FacetsNode.Relay
