import FacetsNode.SharedSpaces.Membership

/-!
# Shared Spaces: what members and administrators see and do

The status of a Space, its roster and its grants, the changes that leave membership alone, and the
three operations on content that pass through the service because they carry a key epoch.
-/

namespace FacetsNode.SharedSpaces

open Relay (UUID uuidNil uuidString Acceptance AdministrationCredential Credential Capability
  Envelope PublishResult CheckpointCandidate CheckpointStageResponse CheckpointActivationRequest
  CheckpointActivationResponse)
open Attempt

/-! ## Answers -/

structure AuthorityEventPage where
  version : Int
  spaceID : UUID
  events : List AuthorityEvent
  nextSequence : Nat

structure ParticipantKeyGrantResult where
  version : Int
  (spaceID participantID : UUID)
  currentKeyEpoch : Nat
  keyGrant : ParticipantKeyGrant

structure ParticipantStatus where
  version : Int
  (spaceID domainID : UUID)
  securityMode : SecurityMode
  interactionMode : InteractionMode
  currentKeyEpoch : Nat
  bootstrapReady : Bool
  activeCheckpointEpoch : Option Nat
  participant : FullParticipant
  presentation : Option ParticipantPresentation
  capabilities : List Capability
  createdAtMilliseconds : Int

def ParticipantStatus.validate (s : ParticipantStatus) : Except SpacesError Unit := do
  refuseWhen (s.version ≠ schemaVersion ∨ s.spaceID = uuidNil ∨ s.domainID = uuidNil ∨
      s.currentKeyEpoch = 0 ∨ s.createdAtMilliseconds < 0 ∨ s.participant.spaceID ≠ s.spaceID ∨
      s.participant.revokedAtMilliseconds ≠ none)
    .invalidParticipant "Shared Space participant status fields are invalid"
  s.participant.validate
  match s.presentation with
  | none => pure ()
  | some presentation => do
    presentation.validate
    refuseWhen (presentation.spaceID ≠ s.spaceID ∨
        presentation.participantID ≠ s.participant.participantID)
      .invalidParticipantPresentation "Shared Space participant presentation scope is invalid"
  refuseWhen (s.capabilities ≠ s.participant.role.capabilities s.interactionMode)
    .invalidParticipant "Shared Space participant status capabilities are invalid"
  refuseWhen (s.bootstrapReady ≠ decide (s.activeCheckpointEpoch = some s.currentKeyEpoch))
    .invalidParticipant "Shared Space participant bootstrap status is invalid"

structure ParticipantRoster where
  version : Int
  (spaceID domainID : UUID)
  securityMode : SecurityMode
  (authoritySequence currentKeyEpoch : Nat)
  participants : List FullParticipant
  presentations : List ParticipantPresentation
  authorityAttestation : SecureRosterAttestation
  createdAtMilliseconds : Int

namespace ParticipantRoster

/-- The loop over the participants; `previous` is the one before. The test for a duplicate follows
from the order and never fires. -/
def validateParticipants (r : ParticipantRoster) (previous : Option UUID) :
    List FullParticipant → Except SpacesError Unit
  | [] => .ok ()
  | p :: rest => do
    p.validate
    refuseWhen (p.spaceID ≠ r.spaceID ∨ p.revokedAtMilliseconds ≠ none)
      .invalidParticipant "Shared Space participant roster includes an invalid member"
    refuseWhen ((previous.any fun id => ¬ uuidString id < uuidString p.participantID) = true)
      .invalidParticipant "Shared Space participant roster order is invalid"
    validateParticipants r (some p.participantID) rest

/-- The loop over the presentations. -/
def validatePresentations (r : ParticipantRoster) (previous : Option UUID) :
    List ParticipantPresentation → Except SpacesError Unit
  | [] => .ok ()
  | p :: rest => do
    p.validate
    refuseWhen (p.spaceID ≠ r.spaceID)
      .invalidParticipantPresentation "Shared Space participant roster presentation scope is invalid"
    refuseWhen (r.participants.all (·.participantID ≠ p.participantID) = true ∨
        (previous.any fun id => ¬ uuidString id < uuidString p.participantID) = true)
      .invalidParticipantPresentation "Shared Space participant roster presentation is invalid"
    validatePresentations r (some p.participantID) rest

def validate (r : ParticipantRoster) : Except SpacesError Unit := do
  refuseWhen (r.version ≠ schemaVersion ∨ r.spaceID = uuidNil ∨ r.domainID = uuidNil ∨
      r.securityMode ≠ .secure ∨ r.authoritySequence = 0 ∨ r.currentKeyEpoch = 0 ∨
      r.createdAtMilliseconds < 0)
    .invalidParticipant "Shared Space participant roster fields are invalid"
  r.validateParticipants none r.participants
  r.validatePresentations none r.presentations
  r.authorityAttestation.validate
  refuseWhen (r.authorityAttestation.spaceID ≠ r.spaceID ∨
      r.authorityAttestation.domainID ≠ r.domainID ∨
      r.authorityAttestation.currentKeyEpoch ≠ r.currentKeyEpoch ∨
      r.authorityAttestation.members ≠ r.participants)
    .invalidParticipant
    "Shared Space participant roster authority attestation differs from roster state"

end ParticipantRoster

structure SecureRosterAttestationPage where
  version : Int
  (spaceID domainID : UUID)
  attestations : List SecureRosterAttestation
  nextRevision : Nat

namespace SecureRosterAttestationPage

/-- The loop over the attestations; `previous` is the one before. -/
def validateAttestations (p : SecureRosterAttestationPage)
    (previous : Option SecureRosterAttestation) :
    List SecureRosterAttestation → Except SpacesError Unit
  | [] => .ok ()
  | attestation :: rest => do
    attestation.validate
    refuseWhen (attestation.spaceID ≠ p.spaceID ∨ attestation.domainID ≠ p.domainID ∨
        (∃ a ∈ previous, a.revision ≥ attestation.revision))
      .invalidParticipant "Secure Shared Space roster authority page order is invalid"
    refuseWhen (∃ a ∈ previous, attestation.validateSuccessor a attestation.members
        attestation.currentKeyEpoch ≠ .ok ())
      .invalidParticipant "Secure Shared Space roster authority page is discontinuous"
    validateAttestations p (some attestation) rest

def validate (p : SecureRosterAttestationPage) : Except SpacesError Unit := do
  refuseWhen (p.version ≠ schemaVersion ∨ p.spaceID = uuidNil ∨ p.domainID = uuidNil ∨
      (p.attestations.length : Int) > maximumSecureRosterAttestationPageSize)
    .invalidParticipant "Secure Shared Space roster authority page fields are invalid"
  p.validateAttestations none p.attestations
  refuseWhen (∃ a ∈ p.attestations.getLast?, p.nextRevision ≠ a.revision)
    .invalidParticipant "Secure Shared Space roster authority page continuation is invalid"

end SecureRosterAttestationPage

structure ManagedContentKey where
  version : Int
  (spaceID participantID : UUID)
  keyEpoch : Nat
  (algorithm keyMaterial : GoString)

def ManagedContentKey.validate (k : ManagedContentKey) : Except SpacesError Unit :=
  refuseWhen (k.version ≠ schemaVersion ∨ k.spaceID = uuidNil ∨ k.participantID = uuidNil ∨
      k.keyEpoch = 0 ∨ k.algorithm ≠ managedContentKeyAlgorithm ∨
      Relay.validBase64URLSize k.keyMaterial 32 32 = false)
    .invalidParticipant "managed Shared Space content key is invalid"

structure ParticipantBootstrap where
  version : Int
  status : ParticipantStatus
  keyGrant : Option ParticipantKeyGrantResult
  managedContentKey : Option ManagedContentKey
  roster : Option ParticipantRoster

namespace ParticipantBootstrap

/-- The key of a managed Space. -/
def validateManaged (b : ParticipantBootstrap) : Except SpacesError Unit :=
  match b.keyGrant, b.managedContentKey, b.roster with
  | none, some key, none => do
    refuseWhen (key.spaceID ≠ b.status.spaceID ∨
        key.participantID ≠ b.status.participant.participantID ∨
        key.keyEpoch ≠ b.status.currentKeyEpoch)
      .invalidParticipant "managed Shared Space participant bootstrap key is inconsistent"
    key.validate
  | _, _, _ =>
    .error (.protocol .invalidParticipant
      "managed Shared Space participant bootstrap key is inconsistent")

/-- The grant of a content-blind Space. -/
def validateGrant (b : ParticipantBootstrap) : Except SpacesError Unit :=
  match b.managedContentKey, b.keyGrant with
  | none, some result => do
    refuseWhen (result.version ≠ schemaVersion ∨ result.spaceID ≠ b.status.spaceID ∨
        result.participantID ≠ b.status.participant.participantID ∨
        result.currentKeyEpoch ≠ b.status.currentKeyEpoch ∨
        result.keyGrant.spaceID ≠ b.status.spaceID ∨
        result.keyGrant.participantID ≠ b.status.participant.participantID ∨
        result.keyGrant.keyEpoch ≠ b.status.currentKeyEpoch ∨
        hasActiveParticipantDeviceKey b.status.participant.deviceKeys result.keyGrant.recipientDeviceID
          result.keyGrant.recipientAgreementKeyFingerprint = false)
      .invalidParticipant
      "content-blind Shared Space participant bootstrap key grant is inconsistent"
    result.keyGrant.validate
  | _, _ =>
    .error (.protocol .invalidParticipant
      "content-blind Shared Space participant bootstrap key grant is inconsistent")

/-- The roster of a Secure Space. -/
def validateRoster (b : ParticipantBootstrap) : Except SpacesError Unit :=
  match b.roster with
  | none =>
    .error (.protocol .invalidParticipant
      "Secure Shared Space participant bootstrap roster is missing")
  | some roster => do
    roster.validate
    refuseWhen (roster.spaceID ≠ b.status.spaceID ∨ roster.domainID ≠ b.status.domainID ∨
        roster.securityMode ≠ b.status.securityMode ∨
        roster.currentKeyEpoch ≠ b.status.currentKeyEpoch)
      .invalidParticipant "Secure Shared Space participant bootstrap roster is inconsistent"

def validate (b : ParticipantBootstrap) : Except SpacesError Unit := do
  refuseWhen (b.version ≠ schemaVersion)
    .invalidParticipant "Shared Space participant bootstrap version is invalid"
  b.status.validate
  match b.status.securityMode with
  | .managed => b.validateManaged
  | .private => do
    b.validateGrant
    refuseWhen (b.roster ≠ none)
      .invalidParticipant "Private Shared Space participant bootstrap must not include a roster"
  | .secure => do
    b.validateGrant
    b.validateRoster

end ParticipantBootstrap

section
variable {H S : Type} (L : Slices ParticipantDeviceKey H S)

/-! ## Administrators -/

/-- The relay answers for the administrator. -/
def domainStatus (credential : AdministrationCredential) :
    Attempt (MemoryStore H S) SpacesError Relay.DomainStatus := do
  let s ← get
  ofExcept (ofRelay (s.relay.getDomainStatus credential))

/-- The epoch of the active checkpoint, once there is one. -/
def MemorySpace.activeEpoch (space : MemorySpace S) : Option Nat :=
  if space.activeCheckpointEpoch ≠ 0 then some space.activeCheckpointEpoch else none

/-- What a change of a compute binding must agree with. -/
def validateBindingChange (space : MemorySpace S) (change : SpaceComputeBindingChange) :
    Except SpacesError Unit := do
  refuseWhen (change.sourceAuthorityRevision ≠ space.keyEpoch)
    .computeBindingCollision "compute binding source authority revision changed"
  match space.computeBindings.get? change.bindingID with
  | none =>
    refuseWhen (change.previousBindingRevision ≠ 0)
      .computeBindingNotFound "compute binding was not found"
  | some existing => do
    refuseWhen (existing.revision ≠ change.previousBindingRevision)
      .computeBindingCollision "compute binding revision changed"
    refuseWhen (existing.poolAuthority.poolID ≠ change.poolAuthority.poolID ∨
        existing.poolAuthority.trustAnchor ≠ change.poolAuthority.trustAnchor)
      .computeBindingCollision "compute binding cannot silently change Pool authority"
    refuseWhen (change.poolAuthority.acceptedManifestRevision <
          existing.poolAuthority.acceptedManifestRevision ∨
        (change.poolAuthority.acceptedManifestRevision =
            existing.poolAuthority.acceptedManifestRevision ∧
          change.poolAuthority.acceptedManifestDigest ≠
            existing.poolAuthority.acceptedManifestDigest) ∨
        change.sourceAuthorityRevision < existing.sourceAuthorityRevision)
      .computeBindingCollision "compute binding authority revision rolled back"
    refuseWhen (change.changedAtMilliseconds < existing.updatedAtMilliseconds)
      .invalidComputeBinding "compute binding change predates current state"

/-- What is logged of a change of a compute binding. -/
def SpaceComputeBindingChange.event (change : SpaceComputeBindingChange) (domainID : UUID) :
    AuthorityEvent where
  eventID := change.retryID
  spaceID := change.spaceID
  domainID := domainID
  eventType := .spaceComputeBindingChanged
  computeBindingID := some change.bindingID
  computePoolID := some change.poolAuthority.poolID
  previousBindingRevision := some change.previousBindingRevision
  currentBindingRevision := some (increment change.previousBindingRevision)
  occurredAtMilliseconds := change.changedAtMilliseconds

def changeComputeBinding (credential : AdministrationCredential)
    (change : SpaceComputeBindingChange)
    (nowMilliseconds : Int) :
    Attempt (MemoryStore H S) SpacesError SpaceComputeBindingChangeResult := do
  ofExcept change.validate
  refuse (change.changedAtMilliseconds > nowMilliseconds)
    .invalidComputeBinding "Shared Space compute binding change starts in the future"
  let space ← findSpace change.spaceID
  refuse (credential.tenantID ≠ change.spaceID ∨ credential.domainID ≠ space.domainID)
    .wrongScope "compute binding belongs to another Shared Space"
  let _ ← domainStatus credential
  let s ← get
  match s.computeBindingChanges.get? change.retryID with
  | some (request, response) => do
    refuse (request ≠ change) .computeBindingCollision "compute binding retry ID was reused"
    pure { response with acceptance := .duplicate }
  | none => do
    ofExcept (validateBindingChange space change)
    let createdAt := ((space.computeBindings.get? change.bindingID).map
      (·.createdAtMilliseconds)).getD change.changedAtMilliseconds
    let nextRevision := increment change.previousBindingRevision
    let binding := change.binding nextRevision createdAt change.changedAtMilliseconds
    let result : SpaceComputeBindingChangeResult := ⟨.accepted, change.retryID, binding⟩
    putSpace change.spaceID { space with
      computeBindings := space.computeBindings.set change.bindingID binding }
    modify fun s => { s with
      computeBindingChanges := s.computeBindingChanges.set change.retryID (change, result) }
    appendAuthorityEvent (change.event credential.domainID)
    pure result

def listAuthorityEvents (credential : AdministrationCredential) (afterSequence : Nat)
    (limit : Int) :
    Attempt (MemoryStore H S) SpacesError AuthorityEventPage := do
  refuse (limit < 1 ∨ limit > maximumAuthorityEventPageSize)
    .invalidAuthorityEvent "Shared Space authority event page size is invalid"
  let space ← findSpace credential.tenantID
  refuse (credential.domainID ≠ space.domainID)
    .wrongScope "authority event credential belongs to another Shared Space"
  let _ ← domainStatus credential
  let s ← get
  let events := (((s.authorityEvents.get? credential.tenantID).getD []).filter
    (·.sequence > afterSequence)).take limit.toNat
  pure ⟨schemaVersion, credential.tenantID, events,
    (events.getLast?.map (·.sequence)).getD afterSequence⟩

/-! ## Participants -/

/-- A credential that could name a member. -/
def emptyScope (credential : Credential) : Prop :=
  credential.tenantID = uuidNil ∨ credential.domainID = uuidNil ∨ credential.memberID = uuidNil

instance (credential : Credential) : Decidable (emptyScope credential) := by
  unfold emptyScope
  infer_instance

/-- The participant of a credential, if it is active. -/
def activeParticipant (space : MemorySpace S) (participantID : UUID) :
    Except SpacesError (Participant S) :=
  match space.participants.get? participantID with
  | none => .error (.protocol .participantNotFound "participant was not found")
  | some participant => do
    refuseWhen (participant.revokedAtMilliseconds ≠ none) .participantRevoked "participant is revoked"
    .ok participant

/-- `Fetch` authenticates the relay credential and active membership. -/
def authenticate (credential : Credential) (nowMilliseconds : Int) :
    Attempt (MemoryStore H S) SpacesError Unit := do
  let _ ← onRelay (Relay.MemoryStore.fetch credential 0 1 nowMilliseconds)
  pure ()

/-- The participant-scoped status. -/
def participantStatus (h : H) (space : MemorySpace S) (credential : Credential)
    (participant : Participant S) : ParticipantStatus :=
  { version := schemaVersion
    spaceID := space.provisioning.spaceID
    domainID := credential.domainID
    securityMode := space.provisioning.securityMode
    interactionMode := space.provisioning.interactionMode
    currentKeyEpoch := space.keyEpoch
    bootstrapReady := space.activeEpoch = some space.keyEpoch
    activeCheckpointEpoch := space.activeEpoch
    participant := participant.full L h
    presentation := space.presentations.get? credential.memberID
    capabilities := participant.role.capabilities space.provisioning.interactionMode
    createdAtMilliseconds := space.provisioning.createdAtMilliseconds }

def getParticipantStatus (credential : Credential) (nowMilliseconds : Int) :
    Attempt (MemoryStore H S) SpacesError ParticipantStatus := do
  refuse (emptyScope credential) .wrongScope "participant status credential scope is invalid"
  let space ← findSpace credential.tenantID
  refuse (credential.domainID ≠ space.domainID)
    .wrongScope "participant status belongs to another Shared Space"
  let participant ← ofExcept (activeParticipant space credential.memberID)
  authenticate credential nowMilliseconds
  let s ← get
  let status := participantStatus L s.heap space credential participant
  ofExcept status.validate
  pure status

def participantRosterLocked (s : MemoryStore H S) (space : MemorySpace S) (domainID : UUID) :
    Except SpacesError ParticipantRoster := do
  let participants := activeFull L s.heap space
  let presentations := (participants.filterMap fun p =>
    space.presentations.get? p.participantID).insertionSort
    fun a b => uuidString a.participantID ≤ uuidString b.participantID
  match space.secureRosterAttestation with
  | none =>
    .error (.protocol .invalidParticipant
      "Secure Shared Space roster authority attestation is unavailable")
  | some attestation => do
    let roster : ParticipantRoster :=
      { version := schemaVersion
        spaceID := space.provisioning.spaceID
        domainID := domainID
        securityMode := space.provisioning.securityMode
        authoritySequence := (s.nextAuthoritySequences.get? space.provisioning.spaceID).getD 0
        currentKeyEpoch := space.keyEpoch
        participants := participants
        presentations := presentations
        authorityAttestation := attestation
        createdAtMilliseconds := space.provisioning.createdAtMilliseconds }
    roster.validate
    .ok roster

def getParticipantRoster (credential : Credential) (nowMilliseconds : Int) :
    Attempt (MemoryStore H S) SpacesError ParticipantRoster := do
  refuse (emptyScope credential) .wrongScope "participant roster credential scope is invalid"
  let space ← findSpace credential.tenantID
  refuse (credential.domainID ≠ space.domainID)
    .wrongScope "participant roster belongs to another Shared Space"
  refuse (space.provisioning.securityMode ≠ .secure)
    .participantRosterUnavailable "participant roster is available only for Secure Shared Spaces"
  let _ ← ofExcept (activeParticipant space credential.memberID)
  authenticate credential nowMilliseconds
  let s ← get
  ofExcept (participantRosterLocked L s space credential.domainID)

def listSecureRosterAttestations (credential : Credential) (afterRevision : Nat) (limit : Int)
    (nowMilliseconds : Int) : Attempt
    (MemoryStore H S) SpacesError SecureRosterAttestationPage := do
  refuse (limit < 1 ∨ limit > maximumSecureRosterAttestationPageSize)
    .invalidParticipant "Secure Shared Space roster authority page size is invalid"
  refuse (emptyScope credential)
    .wrongScope "Secure Shared Space roster authority credential scope is invalid"
  let space ← findSpace credential.tenantID
  refuse (credential.domainID ≠ space.domainID)
    .wrongScope "Secure Shared Space roster authority belongs to another Shared Space"
  refuse (space.provisioning.securityMode ≠ .secure)
    .participantRosterUnavailable "roster authority is available only for Secure Shared Spaces"
  let _ ← ofExcept (activeParticipant space credential.memberID)
  authenticate credential nowMilliseconds
  let attestations := (space.secureRosterHistory.filter
    (·.revision > afterRevision)).take limit.toNat
  let page : SecureRosterAttestationPage :=
    ⟨schemaVersion, space.provisioning.spaceID, credential.domainID, attestations,
      (attestations.getLast?.map (·.revision)).getD afterRevision⟩
  ofExcept page.validate
  pure page

def updateParticipantPresentation (credential : Credential) (update : ParticipantPresentationUpdate)
    (nowMilliseconds : Int) :
    Attempt (MemoryStore H S) SpacesError ParticipantPresentationUpdateResult := do
  ofExcept update.validate
  refuse (emptyScope credential) .wrongScope "participant presentation credential scope is invalid"
  let space ← findSpace update.spaceID
  refuse (credential.tenantID ≠ update.spaceID ∨ credential.domainID ≠ space.domainID ∨
      credential.memberID ≠ update.participantID)
    .wrongScope "participant presentation belongs to another participant"
  let participant ← ofExcept (activeParticipant space update.participantID)
  authenticate credential nowMilliseconds
  let s ← get
  match s.presentationUpdates.get? update.retryID with
  | some (request, response) => do
    refuse (request ≠ update)
      .participantPresentationCollision "participant presentation retry ID was reused"
    pure { response with acceptance := .duplicate }
  | none => do
    refuse (update.updatedAtMilliseconds > nowMilliseconds ∨
        update.updatedAtMilliseconds < participant.createdAtMilliseconds)
      .invalidParticipantPresentation "participant presentation update time is invalid"
    let currentRevision := ((space.presentations.get? update.participantID).map (·.revision)).getD 0
    refuse (update.previousRevision ≠ currentRevision)
      .participantPresentationCollision "participant presentation changed concurrently"
    let presentation : ParticipantPresentation :=
      { version := schemaVersion
        spaceID := update.spaceID
        participantID := update.participantID
        displayName := update.displayName
        revision := increment currentRevision
        updatedAtMilliseconds := update.updatedAtMilliseconds }
    let result : ParticipantPresentationUpdateResult := ⟨.accepted, update.retryID, presentation⟩
    putSpace update.spaceID { space with
      presentations := space.presentations.set update.participantID presentation }
    modify fun s => { s with
      presentationUpdates := s.presentationUpdates.set update.retryID (update, result) }
    pure result

/-- The current grant of a device, if its key is still the registered one. -/
def currentKeyGrant (h : H) (space : MemorySpace S) (participant : Participant S)
    (target : GrantTarget) : Except SpacesError ParticipantKeyGrant :=
  match ((space.keyGrants.get? space.keyEpoch).getD ∅).get? target with
  | none => .error (.protocol .keyGrantNotFound "current participant key grant was not found")
  | some grant => do
    refuseWhen (hasActiveParticipantDeviceKey
      (L.elems h participant.deviceKeys) grant.recipientDeviceID
        grant.recipientAgreementKeyFingerprint = false)
      .keyGrantNotFound "current participant key grant was not found"
    .ok grant

/-- The service-owned key of a managed Space. -/
def currentManagedKey (custody : Option Custody) (space : MemorySpace S) (credential : Credential) :
    Except SpacesError ManagedContentKey :=
  match space.managedContentKeys.get? space.keyEpoch, custody with
  | some wrapped, some custody => do
    let plaintext ← custody.unwrap space.provisioning.spaceID space.keyEpoch wrapped
    .ok ⟨schemaVersion, credential.tenantID, credential.memberID, space.keyEpoch,
      managedContentKeyAlgorithm, Base64Url.encode plaintext⟩
  | _, _ => .error (.protocol .keyGrantNotFound "current managed content key was not found")

def getParticipantBootstrap (custody : Option Custody) (credential : Credential)
    (recipientDeviceID : UUID) (nowMilliseconds : Int) :
    Attempt (MemoryStore H S) SpacesError ParticipantBootstrap := do
  refuse (emptyScope credential ∨ recipientDeviceID = uuidNil)
    .wrongScope "participant bootstrap credential scope is invalid"
  let space ← findSpace credential.tenantID
  refuse (credential.domainID ≠ space.domainID)
    .wrongScope "participant bootstrap belongs to another Shared Space"
  let participant ← ofExcept (activeParticipant space credential.memberID)
  authenticate credential nowMilliseconds
  let s ← get
  let status := participantStatus L s.heap space credential participant
  let result : ParticipantBootstrap ← ofExcept (
    if space.provisioning.securityMode.contentBlind then do
      let grant ← currentKeyGrant L s.heap space participant
        ⟨credential.memberID, recipientDeviceID⟩
      .ok ⟨schemaVersion, status, some ⟨schemaVersion, credential.tenantID, credential.memberID,
        space.keyEpoch, grant⟩, none, none⟩
    else do
      let key ← currentManagedKey custody space credential
      .ok ⟨schemaVersion, status, none, some key, none⟩)
  let roster ← ofExcept (if space.provisioning.securityMode = .secure then
      (participantRosterLocked L s space credential.domainID).map some
    else .ok none)
  let bootstrap := { result with roster := roster }
  ofExcept bootstrap.validate
  pure bootstrap

def getParticipantKeyGrant (credential : Credential) (recipientDeviceID : UUID)
    (nowMilliseconds : Int) : Attempt (MemoryStore H S) SpacesError ParticipantKeyGrantResult := do
  refuse (emptyScope credential ∨ recipientDeviceID = uuidNil)
    .wrongScope "participant key grant credential scope is invalid"
  let space ← findSpace credential.tenantID
  refuse (credential.domainID ≠ space.domainID)
    .wrongScope "participant key grant belongs to another Shared Space"
  let participant ← ofExcept (activeParticipant space credential.memberID)
  refuse (space.provisioning.securityMode.contentBlind = false)
    .keyGrantNotFound "managed Shared Spaces do not have participant key grants"
  authenticate credential nowMilliseconds
  let s ← get
  let grant ← ofExcept (currentKeyGrant L s.heap space participant
    ⟨credential.memberID, recipientDeviceID⟩)
  pure ⟨schemaVersion, credential.tenantID, credential.memberID, space.keyEpoch, grant⟩

/-! ## Content -/

def publishEnvelope (credential : Credential) (envelope : Envelope) (nowMilliseconds : Int) :
    Attempt (MemoryStore H S) SpacesError PublishResult := do
  let space ← findSpace credential.tenantID
  refuse (credential.domainID ≠ space.domainID ∨ envelope.tenantID ≠ credential.tenantID ∨
      envelope.domainID ≠ credential.domainID)
    .wrongScope "envelope belongs to another Shared Space"
  refuse (envelope.keyEpoch ≠ space.keyEpoch)
    .wrongKeyEpoch "envelope key epoch is not current"
  onRelay (Relay.MemoryStore.publish credential envelope nowMilliseconds)

def stageCheckpoint (credential : Credential) (candidate : CheckpointCandidate)
    (nowMilliseconds : Int) : Attempt (MemoryStore H S) SpacesError CheckpointStageResponse := do
  let space ← findSpace credential.tenantID
  refuse (credential.domainID ≠ space.domainID ∨ candidate.tenantID ≠ credential.tenantID ∨
      candidate.domainID ≠ credential.domainID)
    .wrongScope "checkpoint belongs to another Shared Space"
  refuse (candidate.keyEpoch ≠ space.keyEpoch)
    .wrongKeyEpoch "checkpoint key epoch is not current"
  let result ← onRelay (Relay.MemoryStore.stageCheckpoint credential candidate nowMilliseconds)
  modify fun s => { s with
    checkpointEpochs := s.checkpointEpochs.set candidate.checkpointID candidate.keyEpoch }
  pure result

def activateCheckpoint (credential : AdministrationCredential)
    (request : CheckpointActivationRequest)
    (nowMilliseconds : Int) :
    Attempt (MemoryStore H S) SpacesError CheckpointActivationResponse := do
  let space ← findSpace credential.tenantID
  refuse (credential.domainID ≠ space.domainID)
    .wrongScope "checkpoint belongs to another Shared Space"
  let s ← get
  refuse ((s.checkpointEpochs.get? request.checkpointID).getD 0 ≠ space.keyEpoch)
    .wrongKeyEpoch "checkpoint key epoch is not current"
  let result ← onRelay (Relay.MemoryStore.activateCheckpoint credential request nowMilliseconds)
  putSpace credential.tenantID { space with activeCheckpointEpoch := space.keyEpoch }
  pure result

end

end FacetsNode.SharedSpaces
