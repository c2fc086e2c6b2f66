import FacetsNode.SharedSpaces.State

/-!
# Shared Spaces: who is in

The operations that create a Space and change who is in it, with which role and with which devices.
Each follows its source line by line: what is refused, in which order, at which point the relay is
asked, and what is written before something can still be refused.

Answers from outside are arguments: what key custody generates for a managed Space, and what a
deployment says of an initial authority binding. `spare` is the room an array gets when the runtime
has to make one.
-/

namespace FacetsNode.SharedSpaces

open Relay (UUID uuidNil Acceptance AdministrationCredential AdmissionCredential
  SubscriptionCreateRequest MemberCapabilityChange)
open Attempt

/-- What key custody answers: a wrapped key for a Space and an epoch, and the key in one. -/
structure Custody where
  generate : UUID → Nat → Except SpacesError (List UInt8)
  unwrap : UUID → Nat → List UInt8 → Except SpacesError (List UInt8)

/-- An initial authority binding, and what it says of itself. -/
structure InitialServiceAuthorityBinding where
  binding : InitialBinding
  valid : Bool
  sharedSpaceScope : Option UUID
  freshAt : Int → Bool

structure SpaceProvisioningResult where
  acceptance : Acceptance
  (retryID spaceID : UUID)
  securityMode : SecurityMode
  interactionMode : InteractionMode
  currentKeyEpoch : Nat
  initialParticipant : Option FullParticipant
  relay : Relay.TenantProvisioningResult

/-! ## Events -/

/-- What is logged of a new Space. -/
def SpaceProvisioning.event {D : Type} (provisioning : SpaceProvisioning D) : AuthorityEvent where
  eventID := provisioning.retryID
  spaceID := provisioning.spaceID
  domainID := provisioning.domain.registration.domainID
  eventType := .spaceProvisioned
  subjectParticipantID := some provisioning.initialParticipantID
  currentRole := some .host
  currentKeyEpoch := some initialKeyEpoch
  secureRosterDigest := secureRosterDigest provisioning.initialSecureRosterAttestation
  occurredAtMilliseconds := provisioning.createdAtMilliseconds

/-- What is logged of an invitation. -/
def Invitation.event {D : Type} (invitation : Invitation D) (domainID : UUID) (keyEpoch : Nat) :
    AuthorityEvent where
  eventID := invitation.retryID
  spaceID := invitation.spaceID
  domainID := domainID
  eventType := .invitationCreated
  subjectParticipantID := some invitation.participantID
  invitationID := some invitation.invitationID
  currentRole := some invitation.role
  currentKeyEpoch := some keyEpoch
  occurredAtMilliseconds := invitation.createdAtMilliseconds

/-- What is logged of a claim. -/
def InvitationClaim.event {D : Type} (claim : InvitationClaim) (credential : InvitationCredential)
    (invitation : Invitation D) (keyEpoch : Nat) : AuthorityEvent where
  eventID := credential.invitationID
  spaceID := claim.spaceID
  domainID := credential.domainID
  eventType := .invitationClaimed
  subjectParticipantID := some claim.participantID
  invitationID := some credential.invitationID
  currentRole := some invitation.role
  currentKeyEpoch := some keyEpoch
  secureRosterDigest := secureRosterDigest invitation.activationSecureRosterAttestation
  occurredAtMilliseconds := claim.claimedAtMilliseconds

/-- What is logged of a cancellation. -/
def InvitationCancellation.event (cancellation : InvitationCancellation)
    (domainID participantID : UUID) : AuthorityEvent where
  eventID := cancellation.retryID
  spaceID := cancellation.spaceID
  domainID := domainID
  eventType := .invitationCancelled
  subjectParticipantID := some participantID
  invitationID := some cancellation.invitationID
  occurredAtMilliseconds := cancellation.cancelledAtMilliseconds

/-- What is logged of a role change. -/
def ParticipantRoleChange.event (change : ParticipantRoleChange)
    (domainID : UUID) : AuthorityEvent where
  eventID := change.retryID
  spaceID := change.spaceID
  domainID := domainID
  eventType := .participantRoleChanged
  subjectParticipantID := some change.participantID
  previousRole := some change.previousRole
  currentRole := some change.nextRole
  secureRosterDigest := secureRosterDigest change.secureRosterAttestation
  occurredAtMilliseconds := change.changedAtMilliseconds

/-- What is logged of an enrollment. -/
def ParticipantDeviceEnrollment.event (enrollment : ParticipantDeviceEnrollment) (domainID : UUID)
    (keyEpoch : Nat) : AuthorityEvent where
  eventID := enrollment.retryID
  spaceID := enrollment.spaceID
  domainID := domainID
  eventType := .participantDeviceEnrolled
  subjectParticipantID := some enrollment.participantID
  subjectDeviceID := some enrollment.deviceKey.deviceID
  currentKeyEpoch := some keyEpoch
  secureRosterDigest := secureRosterDigest enrollment.secureRosterAttestation
  occurredAtMilliseconds := enrollment.enrolledAtMilliseconds

/-- What is logged of the revocation of a device. -/
def ParticipantDeviceRevocation.event (revocation : ParticipantDeviceRevocation) (domainID : UUID) :
    AuthorityEvent where
  eventID := revocation.retryID
  spaceID := revocation.spaceID
  domainID := domainID
  eventType := .participantDeviceRevoked
  subjectParticipantID := some revocation.participantID
  subjectDeviceID := some revocation.deviceID
  previousKeyEpoch := some revocation.previousKeyEpoch
  currentKeyEpoch := some revocation.nextKeyEpoch
  secureRosterDigest := secureRosterDigest revocation.secureRosterAttestation
  occurredAtMilliseconds := revocation.deviceKey.revokedAtMilliseconds.getD 0

/-- What is logged of a revocation. -/
def ParticipantRevocation.event (revocation : ParticipantRevocation) (domainID : UUID)
    (nowMilliseconds : Int) : AuthorityEvent where
  eventID := revocation.retryID
  spaceID := revocation.spaceID
  domainID := domainID
  eventType := .participantRevoked
  subjectParticipantID := some revocation.participantID
  previousKeyEpoch := some revocation.previousKeyEpoch
  currentKeyEpoch := some revocation.nextKeyEpoch
  secureRosterDigest := secureRosterDigest revocation.secureRosterAttestation
  occurredAtMilliseconds := nowMilliseconds

section
variable {H S : Type} (L : Slices ParticipantDeviceKey H S)

/-- A stored invitation with its device keys. -/
def Invitation.full (h : H) (i : Invitation S) : Invitation (GoSlice ParticipantDeviceKey) :=
  i.withKeys (L.elems h i.participantDeviceKeys)

/-- A stored provisioning request with its device keys. -/
def SpaceProvisioning.full (h : H) (p : SpaceProvisioning S) :
    SpaceProvisioning (GoSlice ParticipantDeviceKey) :=
  p.withKeys (L.elems h p.initialParticipantDeviceKeys)

/-- A new device list. -/
def makeKeys (keys : GoSlice ParticipantDeviceKey) (spare : Nat) :
    Attempt (MemoryStore H S) SpacesError S := fun s =>
  (.ok (L.make s.heap keys spare).2, { s with heap := (L.make s.heap keys spare).1 })

/-! ## Provisioning -/

def spaceProvisioningResult (h : H) (space : MemorySpace S) (acceptance : Acceptance) :
    SpaceProvisioningResult where
  acceptance := acceptance
  retryID := space.provisioning.retryID
  spaceID := space.provisioning.spaceID
  securityMode := space.provisioning.securityMode
  interactionMode := space.provisioning.interactionMode
  currentKeyEpoch := space.keyEpoch
  initialParticipant :=
    (space.participants.get? space.provisioning.initialParticipantID).map (·.full L h)
  relay := space.result

/-- A wrapped key for the epoch, if the Space is a managed one. -/
def managedWrappedKey (custody : Option Custody) (mode : SecurityMode) (spaceID : UUID)
    (keyEpoch : Nat) :
    Except SpacesError (Option (List UInt8)) :=
  if mode = .managed then
    match custody with
    | none => .error (.protocol .invalidSpace "managed Shared Space key custody is unavailable")
    | some custody => (custody.generate spaceID keyEpoch).map some
  else .ok none

/-- The Space a provisioning request describes, with the device list of its host. -/
def MemorySpace.initial (provisioning : SpaceProvisioning S)
    (result : Relay.TenantProvisioningResult)
    (initialAuthority : Option InitialBinding) (managedKey : Option (List UInt8)) : MemorySpace S :=
  let space : MemorySpace S :=
    { provisioning := provisioning
      result := result
      participants := GoMap.set ∅ provisioning.initialParticipantID provisioning.host
      keyEpoch := initialKeyEpoch
      initialAuthority := initialAuthority
      managedContentKeys := match managedKey with
        | none => ∅
        | some key => GoMap.set ∅ initialKeyEpoch key }
  space.attest provisioning.initialSecureRosterAttestation

/-- The request a Space was provisioned with. -/
def MemorySpace.provisionedBy (h : H) (space : MemorySpace S)
    (provisioning : SpaceProvisioning (GoSlice ParticipantDeviceKey))
    (initialAuthority : Option InitialServiceAuthorityBinding) : Bool :=
  space.provisioning.full L h = provisioning &&
    space.initialAuthority = initialAuthority.map (·.binding)

def provisionSpace (custody : Option Custody)
    (provisioning : SpaceProvisioning (GoSlice ParticipantDeviceKey))
    (initialAuthority : Option InitialServiceAuthorityBinding) (spare : Nat)
    (nowMilliseconds : Int) :
    Attempt (MemoryStore H S) SpacesError SpaceProvisioningResult := do
  ofExcept provisioning.validate
  refuse (provisioning.createdAtMilliseconds > nowMilliseconds)
    .invalidSpace "Shared Space starts in the future"
  let s ← get
  match s.spaceRetries.get? provisioning.retryID with
  | some spaceID =>
    match s.spaces.get? spaceID with
    | none => fail (.protocol .spaceCollision "Shared Space retry ID was reused")
    | some existing => do
      refuse (existing.provisionedBy L s.heap provisioning initialAuthority = false)
        .spaceCollision "Shared Space retry ID was reused"
      pure (spaceProvisioningResult L s.heap existing .duplicate)
  | none =>
    match s.spaces.get? provisioning.spaceID with
    | some existing => do
      refuse (existing.provisionedBy L s.heap provisioning initialAuthority = false)
        .spaceCollision "Shared Space ID was reused"
      pure (spaceProvisioningResult L s.heap existing .duplicate)
    | none => do
      refuse ((initialAuthority.all fun b => b.freshAt nowMilliseconds) = false)
        .invalidSpace "initial service authority enrollment is not current"
      let managedKey ← ofExcept (managedWrappedKey custody provisioning.securityMode
        provisioning.spaceID initialKeyEpoch)
      let relayResult ← onRelay (Relay.MemoryStore.provisionTenant provisioning.tenant
        provisioning.domain)
      let keys ← makeKeys L provisioning.initialParticipantDeviceKeys spare
      let space := MemorySpace.initial (provisioning.withKeys keys) relayResult
        (initialAuthority.map (·.binding)) managedKey
      putSpace provisioning.spaceID space
      modify fun s => { s with
        spaceRetries := s.spaceRetries.set provisioning.retryID provisioning.spaceID }
      appendAuthorityEvent (provisioning.event)
      let s ← get
      pure (spaceProvisioningResult L s.heap space .accepted)

/-- `ProvisionSpace`. -/
def provisionSpaceAlone (custody : Option Custody)
    (provisioning : SpaceProvisioning (GoSlice ParticipantDeviceKey)) (spare : Nat)
    (nowMilliseconds : Int) : Attempt (MemoryStore H S) SpacesError SpaceProvisioningResult :=
  provisionSpace L custody provisioning none spare nowMilliseconds

def provisionSpaceWithAuthority (custody : Option Custody)
    (provisioning : SpaceProvisioning (GoSlice ParticipantDeviceKey))
    (initialAuthority : Option InitialServiceAuthorityBinding) (spare : Nat)
    (nowMilliseconds : Int) :
    Attempt (MemoryStore H S) SpacesError SpaceProvisioningResult := do
  rejectIf ((initialAuthority.any fun b =>
      b.valid && b.sharedSpaceScope = some provisioning.spaceID) = false)
    (.plain "service authority record is invalid")
  provisionSpace L custody provisioning initialAuthority spare nowMilliseconds

/-! ## Invitations -/

/-- The participant whose signature a grant carries may issue grants in this Space. -/
def validateGrantIssuer (space : MemorySpace S) :
    Option ParticipantKeyGrant → Except SpacesError Unit
  | none => .ok ()
  | some grant =>
    match space.participants.get? grant.issuerParticipantID with
    | none =>
      .error (.protocol .unauthorized
        "participant key grant issuer is not an active Shared Space host or moderator")
    | some issuer => do
      refuseWhen (issuer.revokedAtMilliseconds ≠ none ∨ issuer.role.mayIssue = false)
        .unauthorized "participant key grant issuer is not an active Shared Space host or moderator"
      refuseWhen (issuer.signingKey.matchesGrantSignature grant.signature = false)
        .unauthorized "participant key grant signature is not bound to its issuer"

def createInvitation (credential : AdministrationCredential)
    (invitation : Invitation (GoSlice ParticipantDeviceKey)) (spare : Nat) (nowMilliseconds : Int) :
    Attempt (MemoryStore H S) SpacesError InvitationCreateResult := do
  ofExcept invitation.validate
  refuse (invitation.createdAtMilliseconds > nowMilliseconds ∨
      invitation.relayAdmission.expiresAtMilliseconds ≤ nowMilliseconds)
    .invalidInvitation "Shared Space invitation is not currently issuable"
  let space ← findSpace invitation.spaceID
  refuse (credential.tenantID ≠ invitation.spaceID ∨ credential.domainID ≠ space.domainID ∨
      invitation.relayAdmission.domainID ≠ credential.domainID)
    .wrongScope "invitation belongs to another Shared Space"
  refuse (invitation.interactionMode ≠ space.provisioning.interactionMode)
    .invalidInvitation "invitation interaction mode differs from its Shared Space"
  let s ← get
  match s.invitationRetries.get? invitation.retryID with
  | some invitationID =>
    match s.invitations.get? invitationID with
    | none => fail (.protocol .invitationCollision "invitation retry ID was reused")
    | some existing => do
      refuse (existing.invitation.full L s.heap ≠ invitation)
        .invitationCollision "invitation retry ID was reused"
      pure ⟨.duplicate, existing.invitation.full L s.heap⟩
  | none =>
    match s.invitations.get? invitation.invitationID with
    | some existing => do
      refuse (existing.invitation.full L s.heap ≠ invitation)
        .invitationCollision "invitation ID was reused"
      pure ⟨.duplicate, existing.invitation.full L s.heap⟩
    | none => do
      refuse (space.activeCheckpointEpoch ≠ space.keyEpoch)
        .bootstrapNotReady
        "Shared Space does not have an activated checkpoint for the current key epoch"
      ofExcept (invitation.validateKeyGrant space.provisioning.securityMode space.keyEpoch)
      ofExcept (validateGrantIssuer space invitation.keyGrant)
      ofExcept (validateInvitationRosterAttestation L s.heap space invitation.participant
        invitation.activationSecureRosterAttestation)
      refuse ((space.participants.get? invitation.participantID).any
          (·.revokedAtMilliseconds.isNone) = true)
        .participantCollision "participant is already active"
      let subscription ← onRelay (Relay.MemoryStore.createSubscription credential
        ⟨invitation.retryID, invitation.subscriptionID, invitation.createdAtMilliseconds⟩)
      let created ← onRelay (Relay.MemoryStore.createSubscriptionAdmission credential
        subscription.subscription.subscriptionID invitation.relayAdmission nowMilliseconds)
      let keys ← makeKeys L invitation.participantDeviceKeys spare
      modify fun s => { s with
        invitations := s.invitations.set invitation.invitationID
          ⟨invitation.withKeys keys, none, none, none⟩
        invitationRetries := s.invitationRetries.set invitation.retryID invitation.invitationID }
      appendAuthorityEvent (invitation.event credential.domainID space.keyEpoch)
      pure ⟨created.acceptance, invitation⟩

def participantCreationTime (space : MemorySpace S) (invitation : Invitation S)
    (nowMilliseconds : Int) : Int :=
  if space.provisioning.securityMode = .secure then invitation.createdAtMilliseconds
  else nowMilliseconds

/-- The answer to a claim, with its device keys. -/
def InvitationClaimResult.full (h : H) (r : InvitationClaimResult S) :
    InvitationClaimResult (GoSlice ParticipantDeviceKey) :=
  ⟨r.acceptance, r.currentKeyEpoch, r.keyGrant, r.secureRosterAttestation, r.participant.full L h,
   r.member⟩

/-- The participant an invitation admits into a Space at this time. -/
def MemorySpace.admitted (space : MemorySpace S) (invitation : Invitation S)
    (nowMilliseconds : Int) :
    Participant S :=
  { invitation.participant with
    createdAtMilliseconds := participantCreationTime space invitation nowMilliseconds }

/-- The Space after a claim. -/
def MemorySpace.claimed (space : MemorySpace S) (invitation : Invitation S)
    (nowMilliseconds : Int) :
    MemorySpace S :=
  let joined := (space.putParticipant (space.admitted invitation nowMilliseconds)).attest
    invitation.activationSecureRosterAttestation
  match invitation.keyGrant with
  | none => joined
  | some grant => joined.putGrant grant.target grant

def claimInvitation (credential : InvitationCredential) (claim : InvitationClaim)
    (nowMilliseconds : Int) :
    Attempt (MemoryStore H S) SpacesError
      (InvitationClaimResult (GoSlice ParticipantDeviceKey)) := do
  ofExcept claim.validate
  refuse (credential.spaceID ≠ claim.spaceID ∨ credential.invitationID = uuidNil)
    .wrongScope "invitation credential belongs to another Shared Space"
  let s ← get
  match s.invitations.get? credential.invitationID with
  | none => fail (.protocol .invitationNotFound "Shared Space invitation was not found")
  | some record => do
    refuse (record.invitation.spaceID ≠ claim.spaceID ∨
        record.invitation.participantID ≠ claim.participantID ∨
        credential.domainID ≠ record.invitation.relayAdmission.domainID)
      .wrongScope "invitation claim scope differs"
    match record.result with
    | some result => do
      refuse (result.participant.participantID ≠ claim.participantID ∨
          result.member.memberRegistration.authorizationDigest ≠ claim.relayClaim.authorizationDigest)
        .invitationClaimed "Shared Space invitation was already claimed"
      pure { result.full L s.heap with acceptance := .duplicate }
    | none => do
      refuse (record.cancellation ≠ none)
        .invitationCancelled "Shared Space invitation was cancelled"
      let space ← findSpace claim.spaceID
      ofExcept ((record.invitation.full L s.heap).validateKeyGrant space.provisioning.securityMode
        space.keyEpoch)
      ofExcept (validateInvitationRosterAttestation L s.heap space
        (record.invitation.full L s.heap).participant
        record.invitation.activationSecureRosterAttestation)
      let relayResult ← onRelay (Relay.MemoryStore.claimSubscriptionAdmission
        ⟨credential.spaceID, credential.domainID, credential.invitationID, credential.token⟩
        claim.relayClaim nowMilliseconds)
      putSpace claim.spaceID (space.claimed record.invitation nowMilliseconds)
      let result : InvitationClaimResult S :=
        { acceptance := relayResult.acceptance
          currentKeyEpoch := space.keyEpoch
          keyGrant := record.invitation.keyGrant
          secureRosterAttestation := record.invitation.activationSecureRosterAttestation
          participant := space.admitted record.invitation nowMilliseconds
          member := relayResult.member }
      modify fun s => { s with
        invitations := s.invitations.set credential.invitationID
          { record with
            result := some result
            claimedAtMilliseconds := some claim.claimedAtMilliseconds } }
      appendAuthorityEvent (claim.event credential record.invitation space.keyEpoch)
      pure (result.full L s.heap)

def cancelInvitation (credential : AdministrationCredential) (cancellation : InvitationCancellation)
    (nowMilliseconds : Int) : Attempt
    (MemoryStore H S) SpacesError InvitationCancellationResult := do
  ofExcept cancellation.validate
  let space ← findSpace cancellation.spaceID
  refuse (credential.tenantID ≠ cancellation.spaceID ∨ credential.domainID ≠ space.domainID)
    .wrongScope "invitation cancellation belongs to another Shared Space"
  let s ← get
  match s.invitationCancellations.get? cancellation.retryID with
  | some (request, response) => do
    refuse (request ≠ cancellation)
      .invitationCancellationCollision "invitation cancellation retry ID was reused"
    pure { response with acceptance := .duplicate }
  | none =>
    match s.invitations.get? cancellation.invitationID with
    | none => fail (.protocol .invitationNotFound "Shared Space invitation was not found")
    | some record => do
      refuse (record.invitation.spaceID ≠ cancellation.spaceID)
        .wrongScope "invitation cancellation belongs to another Shared Space"
      refuse (record.result.isSome = true)
        .invitationClaimed "claimed Shared Space invitation cannot be cancelled"
      refuse (record.cancellation ≠ none)
        .invitationCancellationCollision
        "Shared Space invitation was already cancelled by another request"
      refuse (cancellation.cancelledAtMilliseconds < record.invitation.createdAtMilliseconds ∨
          cancellation.cancelledAtMilliseconds > nowMilliseconds)
        .invalidInvitation "Shared Space invitation cancellation time is invalid"
      let acceptance ← onRelay (Relay.MemoryStore.revokeAdmission credential
        cancellation.invitationID cancellation.cancelledAtMilliseconds)
      let _ ← onRelay (Relay.MemoryStore.changeSubscriptionStatus credential
        record.invitation.subscriptionID
        ⟨cancellation.retryID, .revoked, cancellation.cancelledAtMilliseconds⟩)
      let result : InvitationCancellationResult :=
        { acceptance := acceptance
          retryID := cancellation.retryID
          spaceID := cancellation.spaceID
          invitationID := cancellation.invitationID
          cancelledAtMilliseconds := cancellation.cancelledAtMilliseconds }
      modify fun s => { s with
        invitations := s.invitations.set cancellation.invitationID
          { record with cancellation := some result }
        invitationCancellations := s.invitationCancellations.set cancellation.retryID
          (cancellation, result) }
      appendAuthorityEvent (cancellation.event credential.domainID record.invitation.participantID)
      pure result

/-! ## Roles -/

def changeParticipantRole (credential : AdministrationCredential) (change : ParticipantRoleChange)
    (nowMilliseconds : Int) : Attempt
    (MemoryStore H S) SpacesError ParticipantRoleChangeResult := do
  ofExcept change.validate
  let space ← findSpace change.spaceID
  refuse (credential.tenantID ≠ change.spaceID ∨ credential.domainID ≠ space.domainID)
    .wrongScope "role change belongs to another Shared Space"
  refuse (change.participantID = space.provisioning.initialParticipantID ∨
      change.previousRole = .host ∨ change.nextRole = .host)
    .initialHost "initial host role cannot be changed"
  let s ← get
  match s.roleChanges.get? change.retryID with
  | some (request, response) => do
    refuse (request ≠ change)
      .participantRoleCollision "participant role change retry ID was reused"
    pure { response with acceptance := .duplicate }
  | none =>
    match space.participants.get? change.participantID with
    | none => fail (.protocol .participantNotFound "participant was not found")
    | some participant => do
      refuse (participant.revokedAtMilliseconds ≠ none)
        .participantRevoked "participant is revoked"
      refuse (change.changedAtMilliseconds > nowMilliseconds ∨
          change.changedAtMilliseconds < participant.createdAtMilliseconds)
        .invalidParticipant "participant role change time is invalid"
      refuse (participant.role ≠ change.previousRole)
        .participantRoleCollision "participant role changed concurrently"
      ofExcept (validateRoleChangeRosterAttestation L s.heap space change)
      let relayResult ← onRelay (Relay.MemoryStore.changeMemberCapabilities credential
        { version := Relay.schemaVersion
          retryID := change.retryID
          memberID := change.participantID
          previousCapabilities := change.previousRole.capabilities space.provisioning.interactionMode
          nextCapabilities := change.nextRole.capabilities space.provisioning.interactionMode
          changedAtMilliseconds := change.changedAtMilliseconds } nowMilliseconds)
      putSpace change.spaceID
        ((space.putParticipant { participant with role := change.nextRole }).attest
          change.secureRosterAttestation)
      let result : ParticipantRoleChangeResult :=
        { acceptance := relayResult.acceptance
          retryID := change.retryID
          spaceID := change.spaceID
          participantID := change.participantID
          previousRole := change.previousRole
          currentRole := change.nextRole
          changedAtMilliseconds := change.changedAtMilliseconds }
      modify fun s => { s with roleChanges := s.roleChanges.set change.retryID (change, result) }
      appendAuthorityEvent (change.event credential.domainID)
      pure result

/-! ## Devices -/

/-- What is written once the roster was checked. The grant was checked to be there. -/
def recordEnrollment (credential : AdministrationCredential) (space : MemorySpace S)
    (participant : Participant S) (enrollment : ParticipantDeviceEnrollment) (spare : Nat) :
    Attempt (MemoryStore H S) SpacesError ParticipantDeviceEnrollmentResult := do
  let keys ← onHeap (appendSorted L participant.deviceKeys enrollment.deviceKey spare)
  match enrollment.keyGrant with
  | none => fail (.plain "nil pointer")
  | some grant => do
    putSpace enrollment.spaceID
      (((space.putParticipant { participant with deviceKeys := keys }).putGrant
        ⟨participant.participantID, enrollment.deviceKey.deviceID⟩ grant).attest
        enrollment.secureRosterAttestation)
    let result : ParticipantDeviceEnrollmentResult :=
      { acceptance := .accepted
        retryID := enrollment.retryID
        spaceID := enrollment.spaceID
        participantID := enrollment.participantID
        deviceID := enrollment.deviceKey.deviceID
        currentKeyEpoch := space.keyEpoch
        enrolledAtMilliseconds := enrollment.enrolledAtMilliseconds }
    modify fun s => { s with
      deviceEnrollments := s.deviceEnrollments.set enrollment.retryID (enrollment, result) }
    appendAuthorityEvent (enrollment.event credential.domainID space.keyEpoch)
    pure result

/-- `EnrollParticipantDevice` up to the check of the roster: the answer it gave before, or the Space
and the participant. -/
def checkEnrollment (credential : AdministrationCredential)
    (enrollment : ParticipantDeviceEnrollment) (nowMilliseconds : Int) : Attempt (MemoryStore H S)
      SpacesError (ParticipantDeviceEnrollmentResult ⊕ MemorySpace S × Participant S) := do
  ofExcept enrollment.validate
  let space ← findSpace enrollment.spaceID
  refuse (credential.tenantID ≠ enrollment.spaceID ∨ credential.domainID ≠ space.domainID)
    .wrongScope "device enrollment belongs to another Shared Space"
  let s ← get
  match s.deviceEnrollments.get? enrollment.retryID with
  | some (request, response) => do
    refuse (request ≠ enrollment)
      .participantCollision "participant device enrollment retry ID was reused"
    pure (.inl { response with acceptance := .duplicate })
  | none =>
    match space.participants.get? enrollment.participantID with
    | none => fail (.protocol .participantNotFound "participant was not found")
    | some participant => do
      refuse (participant.revokedAtMilliseconds ≠ none)
        .participantRevoked "participant is revoked"
      refuse (enrollment.enrolledAtMilliseconds > nowMilliseconds ∨
          enrollment.enrolledAtMilliseconds < participant.createdAtMilliseconds)
        .invalidParticipant "participant device enrollment time is invalid"
      refuse (space.activeCheckpointEpoch ≠ space.keyEpoch)
        .bootstrapNotReady
        "Shared Space does not have an activated checkpoint for the current key epoch"
      refuse (((L.elems s.heap participant.deviceKeys).getD []).any
          (·.deviceID = enrollment.deviceKey.deviceID) = true)
        .participantCollision "participant device is already registered"
      ofExcept (enrollment.deviceKey.validate participant)
      ofExcept (enrollment.validateKeyGrant space.provisioning.securityMode space.keyEpoch
        (space.allParticipants L s.heap) nowMilliseconds)
      pure (.inr (space, participant))

/-- The first `spare` is for the check of the roster, which appends to the device list as well. -/
def enrollParticipantDevice (credential : AdministrationCredential)
    (enrollment : ParticipantDeviceEnrollment) (spareOfCheck spare : Nat) (nowMilliseconds : Int) :
    Attempt (MemoryStore H S) SpacesError ParticipantDeviceEnrollmentResult := do
  match ← checkEnrollment L credential enrollment nowMilliseconds with
  | .inl result => pure result
  | .inr (space, participant) => do
    onHeap (validateDeviceEnrollmentRosterAttestation L space enrollment spareOfCheck)
    recordEnrollment L credential space participant enrollment spare

/-- The loop over the device keys of a participant: the place of the last active key of the device,
and how many keys are active. -/
def activeDevices (deviceID : UUID) (keys : List ParticipantDeviceKey) : Option Nat × Nat :=
  keys.zipIdx.foldl (fun (target, count) (key, index) =>
    if key.active then (if key.deviceID = deviceID then some index else target, count + 1)
    else (target, count)) (none, 0)

/-- The Space after a revocation that moves it to another epoch. -/
def MemorySpace.rekeyed (space : MemorySpace S) (keyEpoch : Nat)
    (attestation : Option SecureRosterAttestation)
    (grants : List ParticipantKeyGrant) : MemorySpace S :=
  ({ space with keyEpoch := keyEpoch }.attest attestation).putGrants keyEpoch grants

/-- What is written once the roster was checked. -/
def recordDeviceRevocation (credential : AdministrationCredential) (space : MemorySpace S)
    (participant : Participant S) (revocation : ParticipantDeviceRevocation) (targetIndex : Nat) :
    Attempt (MemoryStore H S) SpacesError ParticipantDeviceRevocationResult := do
  let keys ← onHeap (assignKey L participant.deviceKeys targetIndex revocation.deviceKey)
  putSpace revocation.spaceID
    ((space.putParticipant { participant with deviceKeys := keys }).rekeyed
      revocation.nextKeyEpoch revocation.secureRosterAttestation revocation.keyGrants)
  let revokedAtMilliseconds := revocation.deviceKey.revokedAtMilliseconds.getD 0
  let result : ParticipantDeviceRevocationResult :=
    { acceptance := .accepted
      retryID := revocation.retryID
      spaceID := revocation.spaceID
      participantID := revocation.participantID
      deviceID := revocation.deviceID
      previousKeyEpoch := revocation.previousKeyEpoch
      currentKeyEpoch := revocation.nextKeyEpoch
      revokedAtMilliseconds := revokedAtMilliseconds }
  modify fun s => { s with
    deviceRevocations := s.deviceRevocations.set revocation.retryID (revocation, result) }
  appendAuthorityEvent (revocation.event credential.domainID)
  pure result

/-- `RevokeParticipantDevice` up to the check of the roster: the answer it gave before, or the
Space, the participant and the place of the key. -/
def checkDeviceRevocation (credential : AdministrationCredential)
    (revocation : ParticipantDeviceRevocation) (nowMilliseconds : Int) : Attempt (MemoryStore H S)
      SpacesError (ParticipantDeviceRevocationResult ⊕ MemorySpace S × Participant S × Nat) := do
  ofExcept revocation.validate
  let space ← findSpace revocation.spaceID
  refuse (credential.tenantID ≠ revocation.spaceID ∨ credential.domainID ≠ space.domainID)
    .wrongScope "device revocation belongs to another Shared Space"
  let s ← get
  match s.deviceRevocations.get? revocation.retryID with
  | some (request, response) => do
    refuse (request.equivalent revocation = false)
      .participantCollision "participant device revocation retry ID was reused"
    pure (.inl { response with acceptance := .duplicate })
  | none => do
    refuse (space.provisioning.securityMode = .managed)
      .invalidParticipant "managed Shared Spaces do not revoke participant agreement-key devices"
    refuse (revocation.previousKeyEpoch ≠ space.keyEpoch)
      .wrongKeyEpoch "participant device revocation key epoch is stale"
    refuse (space.activeCheckpointEpoch ≠ space.keyEpoch)
      .bootstrapNotReady
      "Shared Space does not have an activated checkpoint for the current key epoch"
    match space.participants.get? revocation.participantID with
    | none => fail (.protocol .participantNotFound "participant was not found")
    | some participant => do
      refuse (participant.revokedAtMilliseconds ≠ none)
        .participantRevoked "participant is revoked"
      let keys := (L.elems s.heap participant.deviceKeys).getD []
      match (activeDevices revocation.deviceID keys).1 with
      | none => fail (.protocol .participantNotFound "active participant device was not found")
      | some targetIndex => do
        refuse ((activeDevices revocation.deviceID keys).2 = 1)
          .invalidParticipant "participant's last active device cannot be revoked"
        ofExcept (match keys[targetIndex]? with
          | none => .error (.plain "index out of range")
          | some current => revocation.validateDeviceKey participant current nowMilliseconds)
        ofExcept (revocation.validateKeyGrants space.provisioning.securityMode
          (space.allParticipants L s.heap) nowMilliseconds)
        pure (.inr (space, participant, targetIndex))

def revokeParticipantDevice (credential : AdministrationCredential)
    (revocation : ParticipantDeviceRevocation) (nowMilliseconds : Int) :
    Attempt (MemoryStore H S) SpacesError ParticipantDeviceRevocationResult := do
  match ← checkDeviceRevocation L credential revocation nowMilliseconds with
  | .inl result => pure result
  | .inr (space, participant, targetIndex) => do
    onHeap (validateDeviceRevocationRosterAttestation L space revocation)
    recordDeviceRevocation L credential space participant revocation targetIndex

/-! ## Leaving -/

/-- The Space after a participant left it. -/
def MemorySpace.left (space : MemorySpace S) (participant : Participant S)
    (revocation : ParticipantRevocation) (managedKey : Option (List UInt8))
    (nowMilliseconds : Int) :
    MemorySpace S :=
  let left := space.putParticipant
    { participant with revokedAtMilliseconds := some nowMilliseconds }
  match managedKey with
  | some key =>
    { left.rekeyed revocation.nextKeyEpoch revocation.secureRosterAttestation [] with
      managedContentKeys := left.managedContentKeys.set revocation.nextKeyEpoch key }
  | none => left.rekeyed revocation.nextKeyEpoch revocation.secureRosterAttestation
      revocation.keyGrants

def revokeParticipant (custody : Option Custody) (credential : AdministrationCredential)
    (revocation : ParticipantRevocation) (nowMilliseconds : Int) :
    Attempt (MemoryStore H S) SpacesError ParticipantRevocationResult := do
  ofExcept revocation.validate
  let space ← findSpace revocation.spaceID
  refuse (credential.tenantID ≠ revocation.spaceID ∨ credential.domainID ≠ space.domainID)
    .wrongScope "revocation belongs to another Shared Space"
  refuse (revocation.participantID = space.provisioning.initialParticipantID)
    .initialHost "initial host cannot be revoked"
  let s ← get
  match s.revocations.get? revocation.retryID with
  | some (request, response) => do
    refuse (request.equivalent revocation = false)
      .participantCollision "participant revocation retry ID was reused"
    pure { response with acceptance := .duplicate }
  | none => do
    refuse (revocation.previousKeyEpoch ≠ space.keyEpoch)
      .wrongKeyEpoch "participant revocation key epoch is stale"
    match space.participants.get? revocation.participantID with
    | none => fail (.protocol .participantNotFound "participant was not found")
    | some participant => do
      refuse (participant.revokedAtMilliseconds ≠ none)
        .participantRevoked "participant is already revoked"
      ofExcept (revocation.validateKeyGrants space.provisioning.securityMode
        (space.allParticipants L s.heap) nowMilliseconds)
      ofExcept (validateRevocationRosterAttestation L s.heap space revocation)
      let managedKey ← ofExcept (managedWrappedKey custody space.provisioning.securityMode
        revocation.spaceID revocation.nextKeyEpoch)
      let acceptance ← onRelay (Relay.MemoryStore.revokeMember credential revocation.participantID
        nowMilliseconds)
      putSpace revocation.spaceID (space.left participant revocation managedKey nowMilliseconds)
      let result : ParticipantRevocationResult :=
        { acceptance := acceptance
          retryID := revocation.retryID
          spaceID := revocation.spaceID
          participantID := revocation.participantID
          previousKeyEpoch := revocation.previousKeyEpoch
          currentKeyEpoch := revocation.nextKeyEpoch
          revokedAtMilliseconds := nowMilliseconds }
      modify fun s => { s with
        revocations := s.revocations.set revocation.retryID (revocation, result) }
      appendAuthorityEvent (revocation.event credential.domainID nowMilliseconds)
      pure result

end

end FacetsNode.SharedSpaces
