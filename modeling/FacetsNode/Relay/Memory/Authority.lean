import FacetsNode.Relay.Memory.State

/-!
# Provisioning, credentials, members and admissions

The administrative operations: who exists in a tenant and a domain, under which credential and with
which capabilities. On a domain these operations touch its authority records only — never its
messages, blobs, checkpoints or leases — apart from the subscription a new domain starts with and
the subscriptions a tenant-wide revocation takes down.
-/

namespace FacetsNode.Relay

open Attempt

/-! ## Domains and tenants -/

/-- The domain `createDomainLocked` files. -/
def MemoryDomain.create (provisioning : DomainProvisioning) : MemoryDomain :=
  { provisioningRetryID := provisioning.retryID
    registration := provisioning.registration
    subscriptions :=
      (∅ : GoMap UUID Subscription).set provisioning.subscription.subscriptionID
        provisioning.subscription
    memberSubscriptions :=
      (∅ : GoMap UUID UUID).set provisioning.initialMember.memberID
        provisioning.subscription.subscriptionID
    members :=
      (∅ : GoMap UUID MemberRegistration).set provisioning.initialMember.memberID
        provisioning.initialMember }

def domainProvisioningEqual (domain : Option MemoryDomain) (provisioning : DomainProvisioning) :
    Bool :=
  match domain with
  | none => false
  | some d =>
    d.provisioningRetryID = provisioning.retryID && d.registration = provisioning.registration &&
      d.subscriptions.get? provisioning.subscription.subscriptionID =
        some provisioning.subscription &&
      d.members.get? provisioning.initialMember.memberID = some provisioning.initialMember &&
      d.memberSubscriptions.get? provisioning.initialMember.memberID =
        some provisioning.subscription.subscriptionID

def domainProvisioningResult (p : DomainProvisioning) (acceptance : Acceptance) :
    DomainProvisioningResult :=
  { acceptance := acceptance
    retryID := p.retryID
    tenantID := p.registration.tenantID
    domainID := p.registration.domainID
    subscriptionID := p.subscription.subscriptionID
    memberID := p.initialMember.memberID
    administrationAuthorizationDigest := p.registration.administrationDigest
    memberAuthorizationDigest := p.initialMember.authorizationDigest }

def tenantProvisioningResult (t : TenantRegistration) (p : DomainProvisioning)
    (acceptance : Acceptance) : TenantProvisioningResult :=
  { acceptance := acceptance
    retryID := t.retryID
    tenantProvisioningAuthorizationDigest := t.authorizationDigest
    initialDomain := domainProvisioningResult p acceptance }

/-- The subscription `CreateDomain` makes up for the initial member. -/
def legacySubscription (registration : DomainRegistration) (memberID : UUID) : Subscription :=
  { version := schemaVersion
    tenantID := registration.tenantID
    domainID := registration.domainID
    subscriptionID := memberID
    status := .active
    startCursor := none
    createdAtMilliseconds := registration.createdAtMilliseconds
    updatedAtMilliseconds := registration.createdAtMilliseconds }

/-- The tenant `CreateDomain` makes up, with the default ceilings. -/
def legacyTenant (registration : DomainRegistration) : MemoryTenant :=
  { registration :=
      { version := schemaVersion
        retryID := registration.domainID
        tenantID := registration.tenantID
        authorizationDigest := registration.administrationDigest
        createdAtMilliseconds := registration.createdAtMilliseconds
        maximumDomainCount := 256
        maximumAggregateMessageCount := 1000000
        maximumAggregateMessageByteCount := 1024 * 1024 * 1024 * 1024
        maximumAggregateBlobCount := 1000000
        maximumAggregateBlobByteCount := 1024 * 1024 * 1024 * 1024 } }

namespace MemoryStore

def createDomainLocked (s : MemoryStore) (provisioning : DomainProvisioning) : MemoryStore :=
  s.setDomain ⟨provisioning.registration.tenantID, provisioning.registration.domainID⟩
    (MemoryDomain.create provisioning)

def setTenant (s : MemoryStore) (tenantID : UUID) (tenant : MemoryTenant) : MemoryStore :=
  { s with tenants := s.tenants.set tenantID tenant }

/-- `CreateDomain`, kept by the source for focused store tests. -/
def createDomain (registration : DomainRegistration) (initialMember : MemberRegistration) :
    Attempt MemoryStore RelayError Acceptance := do
  let provisioning : DomainProvisioning :=
    { version := schemaVersion
      retryID := initialMember.memberID
      registration := registration
      subscription := legacySubscription registration initialMember.memberID
      initialMember := initialMember }
  ofExcept provisioning.validate
  let s ← get
  match s.domains.get? ⟨registration.tenantID, registration.domainID⟩ with
  | some existing =>
    if domainProvisioningEqual (some existing) provisioning then pure .duplicate
    else fail (protocolError .domainCollision "domain ID was reused")
  | none => do
    modify (fun s =>
      let s := if (s.tenants.get? registration.tenantID).isSome then s
        else s.setTenant registration.tenantID (legacyTenant registration)
      s.createDomainLocked provisioning)
    pure .accepted

def provisionTenant (tenant : TenantRegistration) (initialDomain : DomainProvisioning) :
    Attempt MemoryStore RelayError TenantProvisioningResult := do
  ofExcept tenant.validate
  ofExcept initialDomain.validate
  rejectIf (tenant.tenantID ≠ initialDomain.registration.tenantID ∨
      tenant.createdAtMilliseconds ≠ initialDomain.registration.createdAtMilliseconds)
    (protocolError .wrongScope "initial domain belongs to another tenant")
  let initialDomain ← ofExcept (tenant.applyCapacityPolicy initialDomain)
  let s ← get
  rejectIf (s.tenants.pairs.any (fun p =>
      p.1 ≠ tenant.tenantID ∧ p.2.registration.retryID = tenant.retryID) = true)
    (protocolError .tenantCollision "tenant retry ID was reused")
  match s.tenants.get? tenant.tenantID with
  | some existing =>
    if existing.registration = tenant ∧ domainProvisioningEqual
          (s.domains.get? ⟨tenant.tenantID, initialDomain.registration.domainID⟩)
          initialDomain = true then
      pure (tenantProvisioningResult tenant initialDomain .duplicate)
    else fail (protocolError .tenantCollision "tenant ID or retry ID was reused")
  | none => do
    modify (fun s =>
      (s.setTenant tenant.tenantID { registration := tenant }).createDomainLocked initialDomain)
    pure (tenantProvisioningResult tenant initialDomain .accepted)

def provisionDomain (credential : TenantCredential) (provisioning : DomainProvisioning)
    (nowMilliseconds : Int) : Attempt MemoryStore RelayError DomainProvisioningResult := do
  ofExcept provisioning.validate
  rejectIf (provisioning.registration.tenantID ≠ credential.tenantID ∨
      provisioning.registration.createdAtMilliseconds > nowMilliseconds)
    (protocolError .wrongScope "domain belongs to another tenant")
  let s ← get
  match s.tenants.get? credential.tenantID with
  | none => fail (protocolError .tenantNotFound "tenant was not found")
  | some tenant => do
    ofExcept (tenant.registration.authorize credential)
    let provisioning ← ofExcept (tenant.registration.applyCapacityPolicy provisioning)
    match s.domains.get? ⟨credential.tenantID, provisioning.registration.domainID⟩ with
    | some existing =>
      if domainProvisioningEqual (some existing) provisioning then
        pure (domainProvisioningResult provisioning .duplicate)
      else fail (protocolError .domainCollision "domain ID was reused")
    | none => do
      rejectIf (s.domains.pairs.any (fun p => p.1.tenantID = credential.tenantID ∧
          p.2.provisioningRetryID = provisioning.retryID) = true)
        (protocolError .domainCollision "domain retry ID was reused")
      rejectIf (tenant.registration.usesSharedCapacity = false ∧
          ((s.tenantDomains credential.tenantID).length : Int) ≥
            tenant.registration.maximumDomainCount)
        (protocolError .tenantFull "tenant reached its domain limit")
      modify (·.createDomainLocked provisioning)
      pure (domainProvisioningResult provisioning .accepted)

def rotateTenantCredential (credential : TenantCredential) (rotation : TenantCredentialRotation) :
    Attempt MemoryStore RelayError TenantCredentialRotationResult := do
  ofExcept rotation.validate
  match tenantAuthorizationDigest credential with
  | none => fail (protocolError .unauthorized "tenant credential is invalid")
  | some actualDigest => do
    let s ← get
    match s.tenants.get? credential.tenantID with
    | none => fail (protocolError .tenantNotFound "tenant was not found")
    | some tenant =>
      match tenant.rotations.get? rotation.rotationID with
      | some existing =>
        if (digestEqual actualDigest existing.previousAuthorizationDigest ||
              digestEqual actualDigest existing.newAuthorizationDigest) = true ∧
            rotation.tenantID = credential.tenantID ∧
            rotation.replacementAuthorizationDigest = existing.newAuthorizationDigest ∧
            rotation.rotatedAtMilliseconds = existing.rotatedAtMilliseconds then
          pure ⟨.duplicate, rotation.rotationID, credential.tenantID,
            existing.newAuthorizationDigest, existing.rotatedAtMilliseconds⟩
        else
          fail (protocolError .credentialRotationCollision "tenant rotation ID was reused")
      | none => do
        rejectIf (rotation.tenantID ≠ credential.tenantID)
          (protocolError .wrongScope "rotation belongs to another tenant")
        ofExcept (tenant.registration.authorize credential)
        rejectIf (rotation.rotatedAtMilliseconds < tenant.registration.createdAtMilliseconds ∨
            digestEqual rotation.replacementAuthorizationDigest
              tenant.registration.authorizationDigest = true)
          (protocolError .invalidCredentialRotation "tenant credential rotation is invalid")
        rejectIf (tenant.rotations.pairs.any (fun p =>
            digestEqual rotation.replacementAuthorizationDigest p.2.previousAuthorizationDigest ||
              digestEqual rotation.replacementAuthorizationDigest
                p.2.newAuthorizationDigest) = true)
          (protocolError .credentialReuse "tenant credential digest was already used")
        modify (·.setTenant credential.tenantID
          { tenant with
            rotations := tenant.rotations.set rotation.rotationID
              ⟨tenant.registration.authorizationDigest, rotation.replacementAuthorizationDigest,
               rotation.rotatedAtMilliseconds⟩
            registration :=
              { tenant.registration with
                authorizationDigest := rotation.replacementAuthorizationDigest } })
        pure ⟨.accepted, rotation.rotationID, credential.tenantID,
          rotation.replacementAuthorizationDigest, rotation.rotatedAtMilliseconds⟩

end MemoryStore

/-! ## Credential rotation -/

def memoryRotationRetryResult (existing : MemoryCredentialRotation) (subjectType : RotationSubject)
    (subjectID : UUID) (actualDigest : GoString) (rotation : CredentialRotation) :
    Except RelayError CredentialRotationResult :=
  if actualDigest ≠ existing.previousAuthorizationDigest ∧
      actualDigest ≠ existing.newAuthorizationDigest then
    .error (protocolError .unauthorized "credential is not authorized for this rotation")
  else if existing.subjectType ≠ subjectType ∨ existing.subjectID ≠ subjectID ∨
      existing.newAuthorizationDigest ≠ rotation.authorizationDigest then
    .error (protocolError .credentialRotationCollision "credential rotation ID was reused")
  else .ok ⟨.duplicate, rotation.rotationID, existing.newAuthorizationDigest,
    existing.rotatedAtMilliseconds⟩

def rotationDigestWasUsed (rotations : GoMap UUID MemoryCredentialRotation)
    (subjectType : RotationSubject) (subjectID : UUID) (digest : GoString) : Bool :=
  rotations.pairs.any (fun p => p.2.subjectType = subjectType ∧ p.2.subjectID = subjectID ∧
    (p.2.previousAuthorizationDigest = digest ∨ p.2.newAuthorizationDigest = digest))

def ensureCredentialRotationCapacity (rotations : GoMap UUID MemoryCredentialRotation)
    (subjectType : RotationSubject) (subjectID : UUID) : Except RelayError Unit := do
  rejectWhen (rotations.len ≥ maximumCredentialRotationsPerDomain)
    .domainFull "domain reached its credential rotation limit"
  rejectWhen ((rotations.pairs.filter (fun p =>
      p.2.subjectType = subjectType ∧ p.2.subjectID = subjectID)).length ≥
        maximumCredentialRotationsPerSubject)
    .domainFull "subject reached its credential rotation limit"

namespace MemoryDomain

def rotateAdministrationCredential (credential : AdministrationCredential) (actualDigest : GoString)
    (rotation : CredentialRotation) (nowMilliseconds : Int) :
    Attempt MemoryDomain RelayError CredentialRotationResult := do
  let d ← get
  match d.rotations.get? rotation.rotationID with
  | some existing =>
    ofExcept (memoryRotationRetryResult existing .administration credential.domainID actualDigest
      rotation)
  | none => do
    ofExcept (d.registration.authorize credential)
    rejectIf (nowMilliseconds < d.registration.createdAtMilliseconds)
      (protocolError .invalidCredentialRotation "credential rotation precedes domain creation")
    rejectIf (rotationDigestWasUsed d.rotations .administration credential.domainID
          rotation.authorizationDigest = true ∨
        rotation.authorizationDigest = d.registration.administrationDigest)
      (protocolError .credentialReuse "administration credential digest was already used")
    ofExcept (ensureCredentialRotationCapacity d.rotations .administration credential.domainID)
    modify (fun d =>
      { d with
        rotations := d.rotations.set rotation.rotationID
          ⟨.administration, credential.domainID, d.registration.administrationDigest,
           rotation.authorizationDigest, nowMilliseconds⟩
        registration :=
          { d.registration with administrationDigest := rotation.authorizationDigest } })
    pure ⟨.accepted, rotation.rotationID, rotation.authorizationDigest, nowMilliseconds⟩

def rotateMemberCredential (credential : Credential) (actualDigest : GoString)
    (rotation : CredentialRotation) (nowMilliseconds : Int) :
    Attempt MemoryDomain RelayError CredentialRotationResult := do
  let d ← get
  match d.rotations.get? rotation.rotationID with
  | some existing =>
    ofExcept (memoryRotationRetryResult existing .member credential.memberID actualDigest rotation)
  | none =>
    match d.members.get? credential.memberID with
    | none => fail (protocolError .memberNotFound "member was not found")
    | some member => do
      ofExcept (member.verifyCredential credential nowMilliseconds)
      rejectIf (rotationDigestWasUsed d.rotations .member credential.memberID
            rotation.authorizationDigest = true ∨
          rotation.authorizationDigest = member.authorizationDigest)
        (protocolError .credentialReuse "member credential digest was already used")
      ofExcept (ensureCredentialRotationCapacity d.rotations .member credential.memberID)
      modify (fun d =>
        { d with
          rotations := d.rotations.set rotation.rotationID
            ⟨.member, credential.memberID, member.authorizationDigest,
             rotation.authorizationDigest, nowMilliseconds⟩
          members := d.members.set credential.memberID
            { member with authorizationDigest := rotation.authorizationDigest } })
      pure ⟨.accepted, rotation.rotationID, rotation.authorizationDigest, nowMilliseconds⟩

end MemoryDomain

namespace MemoryStore

/-- The domain lookup of the operations that check a credential only later. -/
def findDomain (s : MemoryStore) (key : DomainKey) : Except RelayError MemoryDomain :=
  match s.domains.get? key with
  | none => .error (protocolError .domainNotFound "domain was not found")
  | some d => .ok d

def rotateAdministrationCredential (credential : AdministrationCredential)
    (rotation : CredentialRotation) (nowMilliseconds : Int) :
    Attempt MemoryStore RelayError CredentialRotationResult := do
  ofExcept rotation.validate
  match administrationDigest credential with
  | none => fail (protocolError .unauthorized "administration credential is invalid")
  | some actualDigest => do
    let s ← get
    let key : DomainKey := ⟨credential.tenantID, credential.domainID⟩
    onDomain key (s.findDomain key)
      (MemoryDomain.rotateAdministrationCredential credential actualDigest rotation
        nowMilliseconds)

def rotateMemberCredential (credential : Credential) (rotation : CredentialRotation)
    (nowMilliseconds : Int) : Attempt MemoryStore RelayError CredentialRotationResult := do
  ofExcept rotation.validate
  match authorizationDigest credential with
  | none => fail (protocolError .unauthorized "member credential is invalid")
  | some actualDigest => do
    let s ← get
    let key : DomainKey := ⟨credential.tenantID, credential.domainID⟩
    onDomain key (s.findDomain key)
      (MemoryDomain.rotateMemberCredential credential actualDigest rotation nowMilliseconds)

end MemoryStore

/-! ## Members -/

def memberActiveAt (member : MemberRegistration) (nowMilliseconds : Int) : Bool :=
  decide (nowMilliseconds ≥ member.createdAtMilliseconds) &&
    (match member.expiresAtMilliseconds with
     | none => true
     | some t => decide (nowMilliseconds < t)) &&
    (match member.revokedAtMilliseconds with
     | none => true
     | some t => decide (nowMilliseconds < t))

def ensureMemberCapacity (members : GoMap UUID MemberRegistration) (nowMilliseconds : Int) :
    Except RelayError Unit := do
  rejectWhen (members.len ≥ maximumRetainedMemberCountPerDomain)
    .domainFull "domain reached its retained member limit"
  rejectWhen ((members.pairs.filter (fun p => memberActiveAt p.2 nowMilliseconds)).length ≥
      maximumActiveMemberCountPerDomain)
    .domainFull "domain reached its active member limit"

namespace MemoryDomain

def createSubscriptionMember (credential : AdministrationCredential) (subscriptionID : UUID)
    (registration : MemberRegistration) (nowMilliseconds : Int) :
    Attempt MemoryDomain RelayError Acceptance := do
  rejectIf (registration.tenantID ≠ credential.tenantID ∨
      registration.domainID ≠ credential.domainID)
    (protocolError .wrongScope "member belongs to another domain")
  let d ← get
  match d.members.get? registration.memberID with
  | some existing =>
    if existing = registration ∧
        d.memberSubscriptions.get? registration.memberID = some subscriptionID then
      pure .duplicate
    else fail (protocolError .memberCollision "member ID was reused")
  | none => do
    rejectIf (∃ t ∈ registration.expiresAtMilliseconds, t ≤ nowMilliseconds)
      (protocolError .invalidMember "member is not currently issuable")
    ofExcept (ensureMemberCapacity d.members nowMilliseconds)
    rejectIf (¬ ∃ subscription ∈ d.subscriptions.get? subscriptionID, subscription.status = .active)
      (protocolError .subscriptionNotFound "active subscription was not found")
    modify (fun d =>
      { d with
        members := d.members.set registration.memberID registration
        memberSubscriptions := d.memberSubscriptions.set registration.memberID subscriptionID })
    pure .accepted

def revokeMember (memberID : UUID) (nowMilliseconds : Int) :
    Attempt MemoryDomain RelayError Acceptance := do
  let d ← get
  match d.members.get? memberID with
  | none => fail (protocolError .memberNotFound "member was not found")
  | some member =>
    if member.revokedAtMilliseconds.isSome then pure .duplicate
    else do
      rejectIf (nowMilliseconds < member.createdAtMilliseconds)
        (protocolError .invalidMember "revocation precedes membership")
      modify (fun d =>
        { d with
          members :=
            d.members.set memberID { member with revokedAtMilliseconds := some nowMilliseconds } })
      pure .accepted

def changeMemberCapabilities (change : MemberCapabilityChange) (nowMilliseconds : Int) :
    Attempt MemoryDomain RelayError MemberCapabilityChangeResult := do
  let d ← get
  match d.capabilityChanges.get? change.retryID with
  | some existing =>
    if existing.request ≠ change then
      fail (protocolError .memberCapabilityCollision "member capability retry ID was reused")
    else pure { existing.result with acceptance := .duplicate }
  | none =>
    match d.members.get? change.memberID with
    | none => fail (protocolError .memberNotFound "member was not found")
    | some member => do
      rejectIf (memberActiveAt member nowMilliseconds = false ∧
          ∃ t ∈ member.revokedAtMilliseconds, nowMilliseconds ≥ t)
        (protocolError .memberRevoked "member is revoked")
      rejectIf (memberActiveAt member nowMilliseconds = false)
        (protocolError .memberExpired "member is not active")
      rejectIf (change.changedAtMilliseconds > nowMilliseconds ∨
          change.changedAtMilliseconds < member.createdAtMilliseconds)
        (protocolError .invalidMember "member capability change time is invalid")
      rejectIf (member.capabilities ≠ change.previousCapabilities)
        (protocolError .memberCapabilityCollision "member capabilities changed concurrently")
      let result : MemberCapabilityChangeResult :=
        ⟨.accepted, change.retryID, change.memberID, change.previousCapabilities,
         change.nextCapabilities, change.changedAtMilliseconds⟩
      modify (fun d =>
        { d with
          members :=
            d.members.set member.memberID { member with capabilities := change.nextCapabilities }
          capabilityChanges := d.capabilityChanges.set change.retryID ⟨change, result⟩ })
      pure result

/-! ## Admissions -/

/-- `admissionCreationEqual`: the creation instant and the claim may differ. -/
def admissionCreationEqual (lhs rhs : MemberAdmission) : Bool :=
  lhs.version = rhs.version && lhs.tenantID = rhs.tenantID && lhs.domainID = rhs.domainID &&
    lhs.admissionID = rhs.admissionID && lhs.authorizationDigest = rhs.authorizationDigest &&
    lhs.expiresAtMilliseconds = rhs.expiresAtMilliseconds &&
    lhs.memberExpiresAtMilliseconds = rhs.memberExpiresAtMilliseconds &&
    lhs.capabilities = rhs.capabilities

def countOutstandingAdmissions (admissions : GoMap UUID MemberAdmission) (nowMilliseconds : Int) :
    Nat :=
  (admissions.pairs.filter (fun p => p.2.claimedAtMilliseconds = none ∧
    (∀ t ∈ p.2.revokedAtMilliseconds, nowMilliseconds < t) ∧
    nowMilliseconds ≥ p.2.createdAtMilliseconds ∧
    nowMilliseconds < p.2.expiresAtMilliseconds)).length

def createSubscriptionAdmission (credential : AdministrationCredential) (subscriptionID : UUID)
    (registration : MemberAdmission) (nowMilliseconds : Int) :
    Attempt MemoryDomain RelayError SubscriptionAdmissionCreateResult := do
  rejectIf (registration.tenantID ≠ credential.tenantID ∨
      registration.domainID ≠ credential.domainID)
    (protocolError .wrongScope "admission belongs to another domain")
  let d ← get
  match d.admissions.get? registration.admissionID with
  | some existing =>
    if admissionCreationEqual existing registration = true ∧
        (d.admissionSubscriptions.get? registration.admissionID).getD uuidNil = subscriptionID then
      pure ⟨.duplicate, ⟨subscriptionID, existing⟩⟩
    else fail (protocolError .admissionCollision "admission ID was reused")
  | none => do
    rejectIf (d.admissions.len ≥ maximumRetainedAdmissionCount)
      (protocolError .domainFull "domain reached its retained admission limit")
    rejectIf (countOutstandingAdmissions d.admissions nowMilliseconds ≥
        maximumOutstandingAdmissionCount)
      (protocolError .domainFull "domain reached its outstanding admission limit")
    rejectIf (¬ ∃ subscription ∈ d.subscriptions.get? subscriptionID, subscription.status = .active)
      (protocolError .subscriptionNotFound "active subscription was not found")
    modify (fun d =>
      { d with
        admissions := d.admissions.set registration.admissionID registration
        admissionSubscriptions :=
          d.admissionSubscriptions.set registration.admissionID subscriptionID })
    pure ⟨.accepted, ⟨subscriptionID, registration⟩⟩

/-- The answer to a claim of an admission that was already claimed. -/
def claimedAdmissionResult (d : MemoryDomain) (admission : MemberAdmission)
    (claimedMemberID : UUID) (claim : MemberAdmissionClaim) (nowMilliseconds : Int) :
    Except RelayError SubscriptionAdmissionClaimResult :=
  let subscriptionID := (d.admissionSubscriptions.get? admission.admissionID).getD uuidNil
  match d.members.get? claimedMemberID with
  | none => .error (protocolError .admissionClaimed "admission was already claimed")
  | some member =>
    if claimedMemberID = claim.memberID ∧ member.authorizationDigest = claim.authorizationDigest ∧
        (∃ subscription ∈ d.subscriptions.get? subscriptionID, subscription.status = .active) ∧
        memberActiveAt member nowMilliseconds = true ∧
        (d.memberSubscriptions.get? member.memberID).getD uuidNil = subscriptionID then
      .ok ⟨.duplicate, ⟨subscriptionID, member⟩⟩
    else .error (protocolError .admissionClaimed "admission was already claimed")

/-- The checks of a claim that replaces a membership whose subscription is no longer active. -/
def checkReplacement (d : MemoryDomain) (claim : MemberAdmissionClaim)
    (subscriptionID previousSubscriptionID : UUID) (nowMilliseconds : Int) :
    Except RelayError Unit :=
  match d.members.get? claim.memberID, d.subscriptions.get? previousSubscriptionID with
  | some previous, some previousSubscription => do
    rejectWhen ((d.memberSubscriptions.get? claim.memberID).getD uuidNil ≠
          previousSubscriptionID ∨
        subscriptionID = previousSubscriptionID ∨
        previous.authorizationDigest = claim.authorizationDigest ∨
        (previousSubscription.status ≠ .revoked ∧
          previousSubscription.status ≠ .rebootstrapRequired))
      .memberCollision "inactive membership changed before replacement"
    rejectWhen ((d.members.pairs.filter (fun p =>
        p.1 ≠ claim.memberID ∧ memberActiveAt p.2 nowMilliseconds = true)).length ≥
          maximumActiveMemberCountPerDomain)
      .domainFull "domain reached its active member limit"
  | _, _ =>
    .error (protocolError .memberCollision "inactive membership changed before replacement")

/-- The checks of a claim for a new member. -/
def checkNewMember (d : MemoryDomain) (claim : MemberAdmissionClaim) (nowMilliseconds : Int) :
    Except RelayError Unit := do
  rejectWhen ((d.members.get? claim.memberID).isSome = true)
    .memberCollision "member ID was reused"
  ensureMemberCapacity d.members nowMilliseconds

/-- `claimSubscriptionAdmission`; a nil `previousSubscriptionID` claims for a new member. -/
def claimSubscriptionAdmission (credential : AdmissionCredential) (claim : MemberAdmissionClaim)
    (previousSubscriptionID : UUID) (nowMilliseconds : Int) :
    Attempt MemoryDomain RelayError SubscriptionAdmissionClaimResult := do
  let d ← get
  match d.admissions.get? credential.admissionID with
  | none => fail (protocolError .admissionNotFound "admission was not found")
  | some admission => do
    ofExcept (admission.verifyCredential credential)
    match admission.claimedMemberID with
    | some claimedMemberID =>
      ofExcept (d.claimedAdmissionResult admission claimedMemberID claim nowMilliseconds)
    | none => do
      ofExcept (admission.requireActive nowMilliseconds)
      let subscriptionID := (d.admissionSubscriptions.get? admission.admissionID).getD uuidNil
      rejectIf (¬ ∃ subscription ∈ d.subscriptions.get? subscriptionID,
          subscription.status = .active)
        (protocolError .invalidSubscription "subscription is not active")
      ofExcept (if previousSubscriptionID ≠ uuidNil then
          d.checkReplacement claim subscriptionID previousSubscriptionID nowMilliseconds
        else d.checkNewMember claim nowMilliseconds)
      let member : MemberRegistration :=
        { version := schemaVersion
          tenantID := admission.tenantID
          domainID := admission.domainID
          memberID := claim.memberID
          authorizationDigest := claim.authorizationDigest
          capabilities := admission.capabilities
          createdAtMilliseconds := nowMilliseconds
          expiresAtMilliseconds := admission.memberExpiresAtMilliseconds
          revokedAtMilliseconds := none }
      ofExcept member.validate
      modify (fun d =>
        { d with
          members := d.members.set member.memberID member
          memberSubscriptions := d.memberSubscriptions.set member.memberID subscriptionID
          admissions := d.admissions.set admission.admissionID
            { admission with
              claimedAtMilliseconds := some nowMilliseconds
              claimedMemberID := some claim.memberID } })
      pure ⟨.accepted, ⟨subscriptionID, member⟩⟩

def admissionCollectionCutoff (nowMilliseconds : Int) : Int :=
  if nowMilliseconds ≤ admissionRecoveryWindowMilliseconds then 0
  else nowMilliseconds - admissionRecoveryWindowMilliseconds

/-- `admissionCollectibleAt`: a claim outranks a revocation, which outranks expiry. -/
def admissionCollectibleAt (admission : MemberAdmission) (cutoff : Int) : Bool :=
  decide ((admission.claimedAtMilliseconds.getD
    (admission.revokedAtMilliseconds.getD admission.expiresAtMilliseconds)) ≤ cutoff)

/-- The admissions `CollectAdmissions` may delete, in the order it deletes them. -/
def eligibleAdmissions (d : MemoryDomain) (nowMilliseconds : Int) : List UUID :=
  if nowMilliseconds > admissionRecoveryWindowMilliseconds then
    ((d.admissions.pairs.filter (fun p =>
      admissionCollectibleAt p.2 (admissionCollectionCutoff nowMilliseconds))).map
        Prod.fst).insertionSort (fun a b => uuidString a ≤ uuidString b)
  else []

def collectAdmissions (nowMilliseconds : Int) :
    Attempt MemoryDomain RelayError AdmissionCollectionResult := do
  let d ← get
  let eligible := d.eligibleAdmissions nowMilliseconds
  let collected := eligible.take maximumAdmissionCollectionBatch
  modify (fun d => { d with admissions := d.admissions.deleteAll collected })
  pure ⟨collected.length, decide (eligible.length > maximumAdmissionCollectionBatch),
    admissionCollectionCutoff nowMilliseconds⟩

def revokeAdmission (admissionID : UUID) (nowMilliseconds : Int) :
    Attempt MemoryDomain RelayError Acceptance := do
  let d ← get
  match d.admissions.get? admissionID with
  | none => fail (protocolError .admissionNotFound "admission was not found")
  | some admission => do
    rejectIf (admission.claimedMemberID.isSome = true)
      (protocolError .admissionClaimed "claimed admission cannot be revoked")
    if admission.revokedAtMilliseconds.isSome then pure .duplicate
    else do
      rejectIf (nowMilliseconds < admission.createdAtMilliseconds)
        (protocolError .invalidAdmission "revocation precedes admission")
      modify (fun d =>
        { d with
          admissions := d.admissions.set admissionID
            { admission with revokedAtMilliseconds := some nowMilliseconds } })
      pure .accepted

end MemoryDomain

namespace MemoryStore

def createSubscriptionMember (credential : AdministrationCredential) (subscriptionID : UUID)
    (registration : MemberRegistration) (nowMilliseconds : Int) :
    Attempt MemoryStore RelayError Acceptance := do
  ofExcept registration.validate
  rejectIf (registration.createdAtMilliseconds > nowMilliseconds)
    (protocolError .invalidMember "member starts in the future")
  rejectIf (subscriptionID = uuidNil)
    (protocolError .invalidSubscription "member subscription is invalid")
  asAdministrator credential
    (MemoryDomain.createSubscriptionMember credential subscriptionID registration nowMilliseconds)

def revokeMember (credential : AdministrationCredential) (memberID : UUID) (nowMilliseconds : Int) :
    Attempt MemoryStore RelayError Acceptance :=
  asAdministrator credential (MemoryDomain.revokeMember memberID nowMilliseconds)

def changeMemberCapabilities (credential : AdministrationCredential)
    (change : MemberCapabilityChange) (nowMilliseconds : Int) :
    Attempt MemoryStore RelayError MemberCapabilityChangeResult := do
  ofExcept change.validate
  asAdministrator credential (MemoryDomain.changeMemberCapabilities change nowMilliseconds)

def createSubscriptionAdmission (credential : AdministrationCredential) (subscriptionID : UUID)
    (registration : MemberAdmission) (nowMilliseconds : Int) :
    Attempt MemoryStore RelayError SubscriptionAdmissionCreateResult := do
  ofExcept registration.validate
  rejectIf (registration.revokedAtMilliseconds.isSome = true ∨
      registration.claimedAtMilliseconds.isSome = true ∨
      registration.claimedMemberID.isSome = true)
    (protocolError .invalidAdmission "new admission already has terminal state")
  rejectIf (subscriptionID = uuidNil)
    (protocolError .invalidSubscription "admission subscription is invalid")
  rejectIf (registration.createdAtMilliseconds > nowMilliseconds ∨
      registration.expiresAtMilliseconds ≤ nowMilliseconds)
    (protocolError .invalidAdmission "admission is not currently issuable")
  asAdministrator credential
    (MemoryDomain.createSubscriptionAdmission credential subscriptionID registration
      nowMilliseconds)

/-- `claimSubscriptionAdmission` of the store, which authorizes by the admission itself. -/
def claimAdmissionLocked (credential : AdmissionCredential) (claim : MemberAdmissionClaim)
    (previousSubscriptionID : UUID) (nowMilliseconds : Int) :
    Attempt MemoryStore RelayError SubscriptionAdmissionClaimResult := do
  ofExcept claim.validate
  let s ← get
  let key : DomainKey := ⟨credential.tenantID, credential.domainID⟩
  onDomain key (s.findDomain key)
    (MemoryDomain.claimSubscriptionAdmission credential claim previousSubscriptionID
      nowMilliseconds)

def claimSubscriptionAdmission (credential : AdmissionCredential) (claim : MemberAdmissionClaim)
    (nowMilliseconds : Int) : Attempt MemoryStore RelayError SubscriptionAdmissionClaimResult :=
  claimAdmissionLocked credential claim uuidNil nowMilliseconds

def claimSubscriptionAdmissionReplacingInactiveMembership (credential : AdmissionCredential)
    (claim : MemberAdmissionClaim) (previousSubscriptionID : UUID) (nowMilliseconds : Int) :
    Attempt MemoryStore RelayError SubscriptionAdmissionClaimResult := do
  rejectIf (previousSubscriptionID = uuidNil)
    (protocolError .invalidSubscription "replacement subscription is missing")
  claimAdmissionLocked credential claim previousSubscriptionID nowMilliseconds

def collectAdmissions (credential : AdministrationCredential) (nowMilliseconds : Int) :
    Attempt MemoryStore RelayError AdmissionCollectionResult :=
  asAdministrator credential (MemoryDomain.collectAdmissions nowMilliseconds)

def revokeAdmission (credential : AdministrationCredential) (admissionID : UUID)
    (nowMilliseconds : Int) : Attempt MemoryStore RelayError Acceptance :=
  asAdministrator credential (MemoryDomain.revokeAdmission admissionID nowMilliseconds)

end MemoryStore

end FacetsNode.Relay
