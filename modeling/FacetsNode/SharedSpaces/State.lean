import FacetsNode.Relay.Memory.Blob
import FacetsNode.Relay.Memory.Authority
import FacetsNode.SharedSpaces.Model

/-!
# The state of the Shared Spaces store

`MemoryStore` of `sharedspaces` with its Spaces, over the relay's own store. The device keys of a
stored participant are a slice: `S` is the type of its header and `H` the memory the headers point
into, and all code that touches a device list goes through an implementation `L : Slices` of the
two.

The checks of a roster attestation belong here because two of them write. Each builds the roster the
Space would have, out of *copies* of the stored participants — but the copies share their device
lists with the store, and in the checks of an enrollment and of a device revocation the lists are
appended to, sorted and assigned to before the attestation is looked at.
-/

namespace FacetsNode.SharedSpaces

open Relay (UUID uuidNil uuidString RelayError TenantProvisioningResult)
open Attempt

/-! ## Records -/

structure ParticipantPresentation where
  version : Int
  (spaceID participantID : UUID)
  displayName : GoString
  revision : Nat
  updatedAtMilliseconds : Int

def ParticipantPresentation.validate (p : ParticipantPresentation) : Except SpacesError Unit :=
  refuseWhen (p.version ≠ schemaVersion ∨ p.spaceID = uuidNil ∨ p.participantID = uuidNil ∨
      p.revision = 0 ∨ p.updatedAtMilliseconds < 0 ∨
        validParticipantDisplayName p.displayName = false)
    .invalidParticipantPresentation "Shared Space participant presentation fields are invalid"

structure ParticipantPresentationUpdate where
  version : Int
  (retryID spaceID participantID : UUID)
  previousRevision : Nat
  displayName : GoString
  updatedAtMilliseconds : Int
  deriving DecidableEq

def ParticipantPresentationUpdate.validate (u : ParticipantPresentationUpdate) :
    Except SpacesError Unit :=
  refuseWhen (u.version ≠ schemaVersion ∨ u.retryID = uuidNil ∨ u.spaceID = uuidNil ∨
      u.participantID = uuidNil ∨ u.updatedAtMilliseconds < 0 ∨
      validParticipantDisplayName u.displayName = false)
    .invalidParticipantPresentation "Shared Space participant presentation update fields are invalid"

structure ParticipantPresentationUpdateResult where
  acceptance : Relay.Acceptance
  retryID : UUID
  presentation : ParticipantPresentation

abbrev SpaceComputeBinding := ComputePool.SpaceBinding

/-- The lists are the contents of Go slices. The source's retry test is `reflect.DeepEqual`, which
tells a nil slice from an empty one; here both are the empty list, so that a retry that differs in
this alone is repeated here and refused there. -/
structure SpaceComputeBindingChange where
  version : Int
  (retryID spaceID bindingID : UUID)
  poolAuthority : ComputePool.AuthorityReference
  previousBindingRevision : Nat
  allowedOperations : List GoString
  eligiblePrincipalIDs : List UUID
  (eligibleRoleIdentifiers allowedProviderIdentifiers : List GoString)
  resourceCeiling : ComputePool.ResourceCeiling
  budgetCeiling : ComputePool.BudgetCeiling
  pricingRevision : Nat
  dataUseConstraints : List ComputePool.DataUseConstraint
  sourceAuthorityRevision : Nat
  changedAtMilliseconds : Int
  deriving DecidableEq

namespace SpaceComputeBindingChange

def binding (c : SpaceComputeBindingChange) (revision : Nat)
    (createdAtMilliseconds updatedAtMilliseconds : Int) : SpaceComputeBinding where
  version := ComputePool.schemaVersion
  bindingID := c.bindingID
  spaceID := c.spaceID
  poolAuthority := c.poolAuthority
  allowedOperations := c.allowedOperations
  eligiblePrincipalIDs := c.eligiblePrincipalIDs
  eligibleRoleIdentifiers := c.eligibleRoleIdentifiers
  allowedProviderIdentifiers := c.allowedProviderIdentifiers
  resourceCeiling := c.resourceCeiling
  budgetCeiling := c.budgetCeiling
  pricingRevision := c.pricingRevision
  dataUseConstraints := c.dataUseConstraints
  revision := revision
  sourceAuthorityRevision := c.sourceAuthorityRevision
  createdAtMilliseconds := createdAtMilliseconds
  updatedAtMilliseconds := updatedAtMilliseconds

def validate (c : SpaceComputeBindingChange) : Except SpacesError Unit := do
  refuseWhen (c.version ≠ schemaVersion ∨ c.retryID = uuidNil ∨ c.spaceID = uuidNil ∨
      c.bindingID = uuidNil ∨ c.changedAtMilliseconds < 0)
    .invalidComputeBinding "Shared Space compute binding change fields are invalid"
  refuseWhen ((c.binding (increment c.previousBindingRevision) c.changedAtMilliseconds
      c.changedAtMilliseconds).validate = false)
    .invalidComputeBinding "Shared Space compute binding policy is invalid"

end SpaceComputeBindingChange

structure SpaceComputeBindingChangeResult where
  acceptance : Relay.Acceptance
  retryID : UUID
  binding : SpaceComputeBinding

/-! ### Authority events -/

inductive AuthorityEventType where
  | spaceProvisioned
  | invitationCreated
  | invitationClaimed
  | invitationCancelled
  | participantRoleChanged
  | participantDeviceEnrolled
  | participantDeviceRevoked
  | participantRevoked
  | spaceComputeBindingChanged

/-- `AuthorityEvent`; the version and the sequence are given when it is filed. -/
structure AuthorityEvent where
  version : Int := 0
  sequence : Nat := 0
  (eventID spaceID domainID : UUID)
  eventType : AuthorityEventType
  subjectParticipantID : Option UUID := none
  subjectDeviceID : Option UUID := none
  invitationID : Option UUID := none
  previousRole : Option Role := none
  currentRole : Option Role := none
  previousKeyEpoch : Option Nat := none
  currentKeyEpoch : Option Nat := none
  computeBindingID : Option UUID := none
  computePoolID : Option UUID := none
  previousBindingRevision : Option Nat := none
  currentBindingRevision : Option Nat := none
  secureRosterDigest : Option GoString := none
  occurredAtMilliseconds : Int

/-! ### Spaces -/

/-- What is kept of a validated `InitialServiceAuthorityBinding`, and compared on a retry. -/
structure InitialBinding where
  localDeploymentID : UUID
  revision : Nat
  manifestDigest : GoString
  manifestRecord : List UInt8
  deriving DecidableEq

structure MemorySpace (S : Type) where
  provisioning : SpaceProvisioning S
  result : TenantProvisioningResult
  participants : GoMap UUID (Participant S)
  secureRosterAttestation : Option SecureRosterAttestation := none
  secureRosterHistory : List SecureRosterAttestation := []
  presentations : GoMap UUID ParticipantPresentation := ∅
  keyGrants : GoMap Nat (GoMap GrantTarget ParticipantKeyGrant) := ∅
  managedContentKeys : GoMap Nat (List UInt8) := ∅
  computeBindings : GoMap UUID SpaceComputeBinding := ∅
  keyEpoch : Nat
  activeCheckpointEpoch : Nat := 0
  initialAuthority : Option InitialBinding

structure MemoryInvitation (S : Type) where
  invitation : Invitation S
  result : Option (InvitationClaimResult S) := none
  cancellation : Option InvitationCancellationResult := none
  claimedAtMilliseconds : Option Int := none

/-- `MemoryStore`; its lock makes every operation one step. -/
structure MemoryStore (H S : Type) where
  heap : H
  relay : Relay.MemoryStore
  spaces : GoMap UUID (MemorySpace S) := ∅
  spaceRetries : GoMap UUID UUID := ∅
  invitations : GoMap UUID (MemoryInvitation S) := ∅
  invitationRetries : GoMap UUID UUID := ∅
  invitationCancellations : GoMap UUID (InvitationCancellation × InvitationCancellationResult) := ∅
  revocations : GoMap UUID (ParticipantRevocation × ParticipantRevocationResult) := ∅
  roleChanges : GoMap UUID (ParticipantRoleChange × ParticipantRoleChangeResult) := ∅
  deviceEnrollments :
    GoMap UUID (ParticipantDeviceEnrollment × ParticipantDeviceEnrollmentResult) := ∅
  deviceRevocations :
    GoMap UUID (ParticipantDeviceRevocation × ParticipantDeviceRevocationResult) := ∅
  presentationUpdates :
    GoMap UUID (ParticipantPresentationUpdate × ParticipantPresentationUpdateResult) := ∅
  computeBindingChanges :
    GoMap UUID (SpaceComputeBindingChange × SpaceComputeBindingChangeResult) := ∅
  checkpointEpochs : GoMap UUID Nat := ∅
  authorityEvents : GoMap UUID (List AuthorityEvent) := ∅
  nextAuthoritySequences : GoMap UUID Nat := ∅

/-! ## Reading -/

section
variable {H S : Type} (L : Slices ParticipantDeviceKey H S)

/-- A stored participant with its device keys. -/
def Participant.full (h : H) (p : Participant S) : FullParticipant :=
  p.withKeys (L.elems h p.deviceKeys)

/-- Every participant of a Space, as `range` finds them. -/
def MemorySpace.allParticipants (h : H) (space : MemorySpace S) : List FullParticipant :=
  space.participants.pairs.map fun p => p.2.full L h

/-- By the text of their identifier. -/
def byParticipantID {D : Type} (p q : Participant D) : Bool :=
  decide (uuidString p.participantID ≤ uuidString q.participantID)

/-- By the text of their device. -/
def byDeviceID (k l : ParticipantDeviceKey) : Bool :=
  decide (uuidString k.deviceID ≤ uuidString l.deviceID)

def activeMemoryParticipants (space : MemorySpace S) : List (Participant S) :=
  ((space.participants.pairs.map Prod.snd).filter (·.revokedAtMilliseconds = none)).insertionSort
    (byParticipantID · · = true)

/-- The domain a Space lives in. -/
def MemorySpace.domainID (space : MemorySpace S) : UUID :=
  space.provisioning.domain.registration.domainID

/-! ## Commands -/

variable {α : Type}

/-- A call of the relay, whose errors are returned as they are. -/
def onRelay (m : Attempt Relay.MemoryStore RelayError α) : Attempt
    (MemoryStore H S) SpacesError α :=
  fun s => (ofRelay (m s.relay).1, { s with relay := (m s.relay).2 })

/-- A command on the device lists. -/
def onHeap (m : Attempt H SpacesError α) : Attempt (MemoryStore H S) SpacesError α :=
  fun s => ((m s.heap).1, { s with heap := (m s.heap).2 })

/-- `if c { return NewProtocolError(code, message) }`. -/
def refuse {σ : Type} (c : Prop) [Decidable c] (code : ErrorCode) (message : String) :
    Attempt σ SpacesError Unit := rejectIf c (.protocol code message)

/-- A Space by its identifier. -/
def findSpace (spaceID : UUID) : Attempt (MemoryStore H S) SpacesError (MemorySpace S) := do
  let s ← get
  match s.spaces.get? spaceID with
  | none => fail (.protocol .spaceNotFound "Shared Space was not found")
  | some space => pure space

/-- Other contents for a Space. -/
def putSpace (spaceID : UUID) (space : MemorySpace S) : Attempt
    (MemoryStore H S) SpacesError Unit :=
  modify fun s => { s with spaces := s.spaces.set spaceID space }

def appendAuthorityEvent (event : AuthorityEvent) : Attempt (MemoryStore H S) SpacesError Unit :=
  modify fun s =>
    let next := increment ((s.nextAuthoritySequences.get? event.spaceID).getD 0)
    { s with
      nextAuthoritySequences := s.nextAuthoritySequences.set event.spaceID next
      authorityEvents := s.authorityEvents.set event.spaceID
        ((s.authorityEvents.get? event.spaceID).getD [] ++
          [{ event with version := schemaVersion, sequence := next }]) }

def secureRosterDigest (attestation : Option SecureRosterAttestation) : Option GoString :=
  attestation.map SecureRosterAttestation.digest

/-- The attestation a request carries becomes the current one, and the last of the history. -/
def MemorySpace.attest (space : MemorySpace S) : Option SecureRosterAttestation → MemorySpace S
  | none => space
  | some attestation =>
    { space with
      secureRosterAttestation := some attestation
      secureRosterHistory := space.secureRosterHistory ++ [attestation] }

/-- A participant under its identifier. -/
def MemorySpace.putParticipant (space : MemorySpace S) (p : Participant S) : MemorySpace S :=
  { space with participants := space.participants.set p.participantID p }

/-- A grant of the current epoch. -/
def MemorySpace.putGrant (space : MemorySpace S) (target : GrantTarget)
    (grant : ParticipantKeyGrant) :
    MemorySpace S :=
  { space with
    keyGrants := space.keyGrants.set space.keyEpoch
      (((space.keyGrants.get? space.keyEpoch).getD ∅).set target grant) }

/-- The grants of a new epoch replace whatever was filed for it; none at all replace nothing. -/
def MemorySpace.putGrants (space : MemorySpace S) (keyEpoch : Nat)
    (grants : List ParticipantKeyGrant) :
    MemorySpace S :=
  if grants = [] then space
  else { space with
    keyGrants := space.keyGrants.set keyEpoch
      (grants.foldl (fun m grant => m.set grant.target grant) ∅) }

/-! ## Roster attestations -/

/-- What all the checks share: only a Secure Space carries an attestation, and then it has one
already and the request brings the next. -/
def attestationPair (space : MemorySpace S) (attestation : Option SecureRosterAttestation)
    (code : ErrorCode) (missing : String) :
    Except SpacesError (Option (SecureRosterAttestation × SecureRosterAttestation)) :=
  if space.provisioning.securityMode ≠ .secure then do
    refuseWhen (attestation ≠ none) code "only Secure Shared Spaces may carry a roster attestation"
    .ok none
  else
    match space.secureRosterAttestation, attestation with
    | some current, some next => .ok (some (current, next))
    | _, _ => .error (.protocol code missing)

/-- The request's attestation is the successor for this roster, if the Space is Secure. -/
def succeeds (pair : Option (SecureRosterAttestation × SecureRosterAttestation))
    (expected : List FullParticipant) (keyEpoch : Nat) : Except SpacesError Unit :=
  match pair with
  | none => .ok ()
  | some (current, next) => next.validateSuccessor current expected keyEpoch

/-- The active participants, with their device keys. -/
def activeFull (h : H) (space : MemorySpace S) : List FullParticipant :=
  (activeMemoryParticipants space).map (·.full L h)

/-- `validateInvitationRosterAttestation`, for the participant that is invited. -/
def validateInvitationRosterAttestation (h : H) (space : MemorySpace S) (invited : FullParticipant)
    (attestation : Option SecureRosterAttestation) : Except SpacesError Unit := do
  let pair ← attestationPair space attestation .invalidInvitation
    "Secure Shared Space invitation is missing its roster authority attestation"
  succeeds pair ((activeFull L h space ++ [invited]).insertionSort (byParticipantID · · = true))
    space.keyEpoch

/-- The first entry of a participant, with a change. -/
def changeParticipant {D : Type} (participantID : UUID) (f : Participant D → Participant D) :
    List (Participant D) → List (Participant D)
  | [] => []
  | p :: rest =>
    if p.participantID = participantID then f p :: rest
    else p :: changeParticipant participantID f rest

def validateRoleChangeRosterAttestation (h : H) (space : MemorySpace S)
    (change : ParticipantRoleChange) : Except SpacesError Unit := do
  let pair ← attestationPair space change.secureRosterAttestation .invalidParticipant
    "Secure Shared Space role change is missing its roster authority attestation"
  succeeds pair (changeParticipant change.participantID
    (fun p => { p with role := change.nextRole })
    (activeFull L h space)) space.keyEpoch

/-- `append` and `sort.Slice` of one device key: what the check of an enrollment does to its copy of
the participant, and the enrollment to its own. -/
def appendSorted (slice : S) (key : ParticipantDeviceKey) (spare : Nat) : Attempt H SpacesError S :=
  fun h => (.ok (L.appendSorted byDeviceID h slice key spare).2,
    (L.appendSorted byDeviceID h slice key spare).1)

/-- `s[i] = v` on a device list. -/
def assignKey (slice : S) (i : Nat) (key : ParticipantDeviceKey) : Attempt H SpacesError S :=
  fun h => (.ok (L.set h slice i key).2, (L.set h slice i key).1)

/-- The candidate of the roster gets another device list, and the roster is compared as the lists
are *now*: the others are read through the same memory. -/
def succeedsWith (pair : SecureRosterAttestation × SecureRosterAttestation)
    (expected : List (Participant S)) (participantID : UUID) (keys : S) (keyEpoch : Nat) :
    Attempt H SpacesError Unit := do
  let h ← get
  ofExcept (succeeds (some pair)
    ((changeParticipant participantID (fun p => { p with deviceKeys := keys }) expected).map
      (·.full L h)) keyEpoch)

def validateDeviceEnrollmentRosterAttestation (space : MemorySpace S)
    (enrollment : ParticipantDeviceEnrollment) (spare : Nat) : Attempt H SpacesError Unit := do
  let pair ← ofExcept (attestationPair space enrollment.secureRosterAttestation .invalidParticipant
    "Secure Shared Space device enrollment is missing its roster authority attestation")
  match pair with
  | none => pure ()
  | some pair => do
    let expected := activeMemoryParticipants space
    match expected.find? (·.participantID = enrollment.participantID) with
    | none => fail (.protocol .participantNotFound "participant was not found")
    | some candidate => do
      let keys ← appendSorted L candidate.deviceKeys enrollment.deviceKey spare
      succeedsWith L pair expected enrollment.participantID keys space.keyEpoch

def validateRevocationRosterAttestation (h : H) (space : MemorySpace S)
    (revocation : ParticipantRevocation) : Except SpacesError Unit := do
  let pair ← attestationPair space revocation.secureRosterAttestation .invalidParticipant
    "Secure Shared Space revocation is missing its roster authority attestation"
  succeeds pair ((activeFull L h space).filter (·.participantID ≠ revocation.participantID))
    revocation.nextKeyEpoch

def validateDeviceRevocationRosterAttestation (space : MemorySpace S)
    (revocation : ParticipantDeviceRevocation) : Attempt H SpacesError Unit := do
  let pair ← ofExcept (attestationPair space revocation.secureRosterAttestation .invalidParticipant
    "Secure Shared Space device revocation is missing its roster authority attestation")
  match pair with
  | none => pure ()
  | some pair => do
    let expected := activeMemoryParticipants space
    let h ← get
    match expected.find? (·.participantID = revocation.participantID) with
    | none => fail (.protocol .participantNotFound "active participant device was not found")
    | some candidate =>
      match ((L.elems h candidate.deviceKeys).getD []).findIdx? fun key =>
          key.deviceID = revocation.deviceID ∧ key.revokedAtMilliseconds = none with
      | none => fail (.protocol .participantNotFound "active participant device was not found")
      | some i => do
        let keys ← assignKey L candidate.deviceKeys i revocation.deviceKey
        succeedsWith L pair expected revocation.participantID keys revocation.nextKeyEpoch

end

end FacetsNode.SharedSpaces
