import FacetsNode.Lib.GoMap
import FacetsNode.Relay.Model
import Mathlib

/-!
# The records of a Box

A Box pins participants — a root key and one device grant each —, issues challenges to them, lists
the Workers they share, and passes operations from one participant to the Worker of another. This
file has the records and the checks they carry; the two stores that keep them are `Memory` and
`Postgres`.

The JSON decoders, SHA-256, P-256 and the text functions of the standard library come in through a
`Suite`. Times are milliseconds since 1970.
-/

namespace FacetsNode.Box

open Relay (UUID uuidNil uuidString)

/-- The errors of the Box stores. -/
inductive StoreError where
  | participantAuthority
  | participantReplay
  | sharedWorkerAuthority
  | sharedWorkerAccess
  | sharedWorkerAccessCode
  | sharedWorkerAccessLocked
  | sharedWorkerAccessCodeCollision
  | sharedWorkerOperation
  | sharedWorkerOperationNoWork
  | sharedWorkerOperationCollision
  | connectionGrantCollision
  | invalidCredential
  | alreadyInitialized
  | notInitialized
  | alreadyClaimed
  deriving DecidableEq

def maximumParticipantProofAgeMilliseconds : Int := 2 * 60 * 1000
def maximumWorkerCapabilitiesBytes : Nat := 16 * 1024
def maximumWorkerAdvertisementAge : Int := 5 * 60 * 1000
def sharedWorkerAccessRequestLifetimeMilliseconds : Int := 10 * 60 * 1000
def sharedWorkerAccessGrantLifetimeMilliseconds : Int := 180 * 24 * 60 * 60 * 1000
def maximumSharedWorkerAccessCodeFailures : Nat := 5
def maximumSharedWorkerOperationBytes : Nat := 2 * 1024 * 1024
def maximumSharedWorkerOperationLifetimeMilliseconds : Int := 15 * 60 * 1000
def maximumSharedWorkerClaimLifetimeMilliseconds : Int := 30 * 1000
def maxInt64 : Nat := 2 ^ 63 - 1

/-- `State`: the Box is claimed once it has an owner. -/
structure State where
  boxID : UUID
  (activationVerifier ownerVerifier : GoString)

abbrev State.claimed (state : State) : Prop := state.ownerVerifier ≠ []

/-- `ConnectionGrant`; times in nanoseconds, and no revocation time is the zero time. -/
structure ConnectionGrant where
  grantID : UUID
  expiresAt : Int
  revokedAt : Option Int
  deviceName : GoString

/-- The grant can be used at the moment `time.UnixMilli(now)`. -/
abbrev ConnectionGrant.usableAt (grant : ConnectionGrant) (now : Int) : Prop :=
  grant.revokedAt = none ∧ now * 1000000 < grant.expiresAt

/-! ## Participants -/

structure Anchor where
  (boxID participantID boxScopedPrincipalID : UUID)
  rootKeyFingerprint : GoString
  (approvedAtMilliseconds revokedAtMilliseconds : Int)
  deriving DecidableEq

structure Device where
  (participantID deviceID grantID : UUID)
  deviceGeneration : Nat
  signingKeyFingerprint : GoString
  revokedThroughGeneration : Nat
  deriving DecidableEq

structure SignedPrincipalRecord where
  payload : List UInt8
  (algorithm signingKeyFingerprint signature : GoString)
  deriving DecidableEq

structure Enrollment where
  anchor : Anchor
  device : Device
  (rootRecord grantRecord : SignedPrincipalRecord)
  deriving DecidableEq

structure PrincipalRoot where
  version : Int
  principalID : UUID
  (rootPublicSigningKeyX963 rootSigningKeyFingerprint : GoString)
  rootKeyGeneration : Nat
  createdAtMilliseconds : Int

structure PrincipalDeviceGrant where
  version : Int
  (id principalID deviceID : UUID)
  deviceGeneration : Nat
  (deviceName signingPublicKeyX963 signingKeyFingerprint keyAgreementPublicKeyX963 : GoString)
  keyAgreementKeyFingerprint : GoString
  capabilities : List GoString
  (issuedAtMilliseconds notBeforeMilliseconds expiresAtMilliseconds : Int)
  supersedesGrantID : Option UUID

structure PrincipalDeviceRevocation where
  version : Int
  (principalID deviceID : UUID)
  revokedThroughGeneration : Nat
  issuedAtMilliseconds : Int

inductive ParticipantAction where
  | advertiseWorker
  | updateWorkerAvailability
  | withdrawWorker
  | requestWorkerAccess
  | grantWorkerAccess
  | revokeWorkerAccess
  | enqueueWorkerOperation
  | claimWorkerOperation
  | respondWorkerOperation
  | cancelWorkerOperation
  | issueJobCustodyPermit
  | issueJobCustodyResultRetrievalPermit
  | issueJobCustodyResultMutationPermit
  | issueJobCustodyWorkerClaimPermit
  | issueJobCustodyWorkerResultPermit
  deriving DecidableEq

/-- `BoxParticipantActionProofPayload`. A payload whose action is none of the texts above is refused
like one that does not decode, so it has no value here. -/
structure ActionProofPayload where
  version : Int
  (boxID participantID boxScopedPrincipalID deviceID grantID : UUID)
  deviceGeneration : Nat
  challengeID : UUID
  action : ParticipantAction
  requestDigest : GoString
  (issuedAtMilliseconds expiresAtMilliseconds : Int)

/-- `BoxSignedParticipantActionProof`. -/
structure SignedProof where
  payload : List UInt8
  signature : GoString

/-- What the records rest on. The decoders are strict: no unknown fields and nothing after the
value. -/
structure Suite where
  Key : Type
  sha256 : List UInt8 → List UInt8
  decodeRoot : List UInt8 → Option PrincipalRoot
  decodeGrant : List UInt8 → Option PrincipalDeviceGrant
  decodeRevocation : List UInt8 → Option PrincipalDeviceRevocation
  decodeActionProof : List UInt8 → Option ActionProofPayload
  /-- `canonicalParticipantActionProof`: a JSON object, equal to its own encoding. -/
  canonicalObject : List UInt8 → Bool
  /-- `elliptic.Unmarshal` on P-256. -/
  p256Key : List UInt8 → Option Key
  /-- `ecdsa.Verify` of a digest and the 64 bytes of a signature. -/
  ecdsaVerify : Key → List UInt8 → List UInt8 → Bool
  (normalizedDisplayName trimSpace : GoString → GoString)
  (validUTF8 hasControl : GoString → Bool)

def strictParticipantJSON {α : Type} (decode : List UInt8 → Option α)
    (data : List UInt8) : Option α :=
  if data.length = 0 ∨ 65536 < data.length then none else decode data

def validParticipantRequestDigest (value : GoString) : Bool :=
  value.length == 64 && value.map lowerByte == value && (Hex.decode value).any (·.length == 32)

def validParticipantFingerprint (value : GoString) : Bool :=
  value.length == 64 && value.map lowerByte == value && (Hex.decode value).isSome

section

variable (c : Suite)

/-- `BoxParticipantRequestDigest`, `SharedWorkerOperationDigest` and
`SharedWorkerCapabilitiesDigest`: the SHA-256 digest in hexadecimal. -/
def Suite.digestText (bytes : List UInt8) : GoString := Hex.encode (c.sha256 bytes)

def participantPublicKey (encoded fingerprint : GoString) : Option c.Key :=
  match Base64Url.canonical encoded with
  | none => none
  | some bytes =>
    if bytes.length ≠ 65 ∨ ¬ validParticipantFingerprint fingerprint then none
    else if c.digestText bytes ≠ fingerprint then none
    else c.p256Key bytes

def verifyParticipantSignature (encoded : GoString) (key : c.Key) (domain payload : List UInt8) :
    Bool :=
  encoded.length ≤ 128 &&
    match Base64Url.canonical encoded with
    | none => false
    | some signature =>
      signature.length == 64 && payload.length != 0 && payload.length ≤ 65536 &&
        c.ecdsaVerify key (c.sha256 (domain ++ payload)) signature

def verifyPrincipalRecord (record : SignedPrincipalRecord) (key : c.Key) (fingerprint : GoString)
    (domain : List UInt8) : Bool :=
  record.algorithm == goString "ES256" && record.signingKeyFingerprint == fingerprint &&
    verifyParticipantSignature c record.signature key domain record.payload

def principalRootDomain : List UInt8 := goString "Facets principal trust root v1" ++ [0]
def principalDeviceDomain : List UInt8 := goString "Facets principal device grant v1" ++ [0]
def principalRevocationDomain : List UInt8 :=
  goString "Facets principal device revocation v1" ++ [0]
def participantActionProofDomain : List UInt8 :=
  goString "Facets Box participant action proof v1" ++ [0]

abbrev Anchor.activeAt (anchor : Anchor) (now : Int) : Prop :=
  anchor.boxID ≠ uuidNil ∧ anchor.participantID ≠ uuidNil ∧ anchor.boxScopedPrincipalID ≠ uuidNil ∧
    0 < anchor.approvedAtMilliseconds ∧ anchor.approvedAtMilliseconds ≤ now ∧
    ¬ (0 < anchor.revokedAtMilliseconds ∧ anchor.revokedAtMilliseconds ≤ now)

abbrev Device.activeFor (device : Device) (anchor : Anchor) : Prop :=
  device.participantID = anchor.participantID ∧ device.deviceID ≠ uuidNil ∧
    device.grantID ≠ uuidNil ∧ device.deviceGeneration = 1 ∧
    device.revokedThroughGeneration < device.deviceGeneration

abbrev PrincipalRoot.fits (root : PrincipalRoot) (anchor : Anchor) : Prop :=
  root.version = 1 ∧ root.principalID = anchor.boxScopedPrincipalID ∧ root.rootKeyGeneration = 1 ∧
    0 ≤ root.createdAtMilliseconds ∧ root.rootSigningKeyFingerprint = anchor.rootKeyFingerprint

abbrev PrincipalDeviceGrant.fits (grant : PrincipalDeviceGrant) (root : PrincipalRoot)
    (device : Device) (now : Int) : Prop :=
  grant.version = 1 ∧ grant.principalID = root.principalID ∧ grant.id = device.grantID ∧
    grant.deviceID = device.deviceID ∧ grant.deviceName ≠ [] ∧ grant.deviceName.length ≤ 128 ∧
    c.normalizedDisplayName grant.deviceName = grant.deviceName ∧
    c.hasControl grant.deviceName = false ∧ grant.deviceGeneration = device.deviceGeneration ∧
    grant.supersedesGrantID = none ∧ grant.signingKeyFingerprint = device.signingKeyFingerprint ∧
    root.createdAtMilliseconds ≤ grant.issuedAtMilliseconds ∧
    grant.issuedAtMilliseconds ≤ grant.notBeforeMilliseconds ∧
    grant.notBeforeMilliseconds < grant.expiresAtMilliseconds ∧
    grant.notBeforeMilliseconds ≤ now ∧ now < grant.expiresAtMilliseconds ∧
    goString "facets.box.participate" ∈ grant.capabilities

/-- `verifyBoxParticipantEnrollment`: the root key, the device key and the start of the grant. -/
def verifyEnrollment (e : Enrollment) (now : Int) : Option (c.Key × c.Key × Int) := do
  guard (e.anchor.activeAt now ∧ e.device.activeFor e.anchor)
  let root ← strictParticipantJSON c.decodeRoot e.rootRecord.payload
  guard (root.fits e.anchor)
  let rootKey ← participantPublicKey c root.rootPublicSigningKeyX963 root.rootSigningKeyFingerprint
  guard (verifyPrincipalRecord c e.rootRecord rootKey root.rootSigningKeyFingerprint
    principalRootDomain)
  let grant ← strictParticipantJSON c.decodeGrant e.grantRecord.payload
  guard (grant.fits c root e.device now)
  guard (verifyPrincipalRecord c e.grantRecord rootKey root.rootSigningKeyFingerprint
    principalDeviceDomain)
  let deviceKey ← participantPublicKey c grant.signingPublicKeyX963 grant.signingKeyFingerprint
  let _ ← participantPublicKey c grant.keyAgreementPublicKeyX963 grant.keyAgreementKeyFingerprint
  pure (rootKey, deviceKey, grant.notBeforeMilliseconds)

/-- Nothing about the participant or the device has been revoked. -/
abbrev Enrollment.Unrevoked (e : Enrollment) : Prop :=
  e.anchor.revokedAtMilliseconds = 0 ∧ e.device.revokedThroughGeneration = 0

/-- No revocation reaches the device: the condition of the PostgreSQL store. -/
abbrev Enrollment.Active (e : Enrollment) : Prop :=
  e.anchor.revokedAtMilliseconds = 0 ∧ e.device.revokedThroughGeneration < e.device.deviceGeneration

abbrev Enrollment.validInitialAt (e : Enrollment) (now : Int) : Prop :=
  e.Unrevoked ∧ (verifyEnrollment c e now).isSome

/-- The loop of `verifyBoxParticipantIdentity` over the presented revocations. -/
def revocationsAllow (e : Enrollment) (rootKey : c.Key) (now : Int) :
    List SignedPrincipalRecord → Bool
  | [] => true
  | record :: records =>
    match strictParticipantJSON c.decodeRevocation record.payload with
    | none => false
    | some revocation =>
      if revocation.version ≠ 1 ∨ revocation.principalID ≠ e.anchor.boxScopedPrincipalID ∨
          ¬ verifyPrincipalRecord c record rootKey e.anchor.rootKeyFingerprint
            principalRevocationDomain then false
      else if revocation.deviceID = e.device.deviceID ∧ revocation.issuedAtMilliseconds ≤ now ∧
          e.device.deviceGeneration ≤ revocation.revokedThroughGeneration then false
      else revocationsAllow e rootKey now records

/-- `verifyBoxParticipantIdentity`. -/
def verifyIdentity (e : Enrollment) (revocations : List SignedPrincipalRecord) (now : Int) :
    Option (c.Key × Int) := do
  let (rootKey, deviceKey, notBefore) ← verifyEnrollment c e now
  guard (revocationsAllow c e rootKey now revocations)
  pure (deviceKey, notBefore)

/-- The payload names this participant, challenge, action and request. -/
abbrev ActionProofPayload.names (p : ActionProofPayload) (e : Enrollment) (challengeID : UUID)
    (action : ParticipantAction) (request : List UInt8) : Prop :=
  p.version = 1 ∧ p.boxID = e.anchor.boxID ∧ p.participantID = e.anchor.participantID ∧
    p.boxScopedPrincipalID = e.anchor.boxScopedPrincipalID ∧ p.deviceID = e.device.deviceID ∧
    p.grantID = e.device.grantID ∧ p.deviceGeneration = e.device.deviceGeneration ∧
    p.challengeID = challengeID ∧ p.action = action ∧
    p.requestDigest = c.digestText request

/-- `verifyBoxParticipantActionProof`. -/
def verifyActionProof (e : Enrollment) (revocations : List SignedPrincipalRecord)
    (proof : SignedProof)
    (challengeID : UUID) (action : ParticipantAction) (request : List UInt8) (now : Int) :
    Option Unit := do
  let (deviceKey, notBefore) ← verifyIdentity c e revocations now
  guard (challengeID ≠ uuidNil)
  let payload ← strictParticipantJSON c.decodeActionProof proof.payload
  guard (c.canonicalObject proof.payload)
  guard (payload.names c e challengeID action request)
  guard (validParticipantRequestDigest payload.requestDigest)
  guard (notBefore ≤ payload.issuedAtMilliseconds ∧ payload.issuedAtMilliseconds ≤ now ∧
    now < payload.expiresAtMilliseconds ∧
    payload.expiresAtMilliseconds - payload.issuedAtMilliseconds ≤
      maximumParticipantProofAgeMilliseconds)
  guard (verifyParticipantSignature c proof.signature deviceKey participantActionProofDomain
    proof.payload)

/-! ## Challenges -/

structure Challenge where
  (boxID participantID deviceID challengeID : UUID)
  (issuedAtMilliseconds expiresAtMilliseconds : Int)

abbrev Challenge.validAt (challenge : Challenge) (now : Int) : Prop :=
  challenge.boxID ≠ uuidNil ∧ challenge.participantID ≠ uuidNil ∧ challenge.deviceID ≠ uuidNil ∧
    challenge.challengeID ≠ uuidNil ∧ 0 < challenge.issuedAtMilliseconds ∧
    challenge.issuedAtMilliseconds ≤ now ∧ now < challenge.expiresAtMilliseconds ∧
    challenge.expiresAtMilliseconds - challenge.issuedAtMilliseconds ≤
      maximumParticipantProofAgeMilliseconds

structure ChallengeState where
  challenge : Challenge
  consumedAtMilliseconds : Int

/-! ## Shared Workers -/

inductive Availability where
  | available
  | busy
  | unavailable
  | paused

/-- `BoxSharedWorkerAdvertisement`. -/
structure Worker where
  version : Int
  (boxID workerID ownerParticipantID ownerDeviceID : UUID)
  displayName : GoString
  availability : Availability
  revision : Nat
  capabilities : List UInt8
  capabilitiesDigest : GoString
  (updatedAtMilliseconds expiresAtMilliseconds : Int)

abbrev Worker.validAt (w : Worker) (now : Int) : Prop :=
  w.version = 1 ∧ w.boxID ≠ uuidNil ∧ w.workerID ≠ uuidNil ∧ w.ownerParticipantID ≠ uuidNil ∧
    w.ownerDeviceID ≠ uuidNil ∧ w.revision ≠ 0 ∧ w.revision ≤ maxInt64 ∧
    c.validUTF8 w.displayName ∧ w.displayName ≠ [] ∧ w.displayName.length ≤ 128 ∧
    c.trimSpace w.displayName = w.displayName ∧ c.hasControl w.displayName = false ∧
    w.capabilities.length ≠ 0 ∧ w.capabilities.length ≤ maximumWorkerCapabilitiesBytes ∧
    validParticipantRequestDigest w.capabilitiesDigest ∧
    w.capabilitiesDigest = c.digestText w.capabilities ∧
    0 < w.updatedAtMilliseconds ∧ w.updatedAtMilliseconds ≤ now ∧ now < w.expiresAtMilliseconds ∧
    w.expiresAtMilliseconds - w.updatedAtMilliseconds ≤ maximumWorkerAdvertisementAge

inductive AccessDecision where
  | pending
  | approved
  | rejected
  | expired
  | revoked
  deriving DecidableEq

/-- `BoxSharedWorkerAccessRequest`. -/
structure AccessRequest where
  version : Int
  (requestID boxID workerID requesterParticipantID requesterDeviceID : UUID)
  capabilitiesDigest : GoString
  (requestedAtMilliseconds expiresAtMilliseconds : Int)
  connectionGrantID : UUID
  confirmationCodeDigest : List UInt8
  failedCodeAttempts : Nat
  decision : AccessDecision
  decidedAtMilliseconds : Int
  grantID : UUID

abbrev AccessRequest.validAt (r : AccessRequest) (now : Int) : Prop :=
  r.version = 1 ∧ r.requestID ≠ uuidNil ∧ r.boxID ≠ uuidNil ∧ r.workerID ≠ uuidNil ∧
    r.requesterParticipantID ≠ uuidNil ∧ r.requesterDeviceID ≠ uuidNil ∧
    r.connectionGrantID ≠ uuidNil ∧ validParticipantRequestDigest r.capabilitiesDigest ∧
    0 < r.requestedAtMilliseconds ∧ r.requestedAtMilliseconds ≤ now ∧
    now < r.expiresAtMilliseconds ∧
    r.expiresAtMilliseconds - r.requestedAtMilliseconds ≤
      sharedWorkerAccessRequestLifetimeMilliseconds ∧
    r.decision = .pending ∧ r.failedCodeAttempts = 0 ∧ r.decidedAtMilliseconds = 0 ∧
    r.grantID = uuidNil

/-- `BoxSharedWorkerAccessGrant`. -/
structure AccessGrant where
  version : Int
  (grantID requestID boxID workerID ownerParticipantID ownerDeviceID granteeParticipantID : UUID)
  (capabilitiesDigest confirmationCodeDigest : GoString)
  revision : Nat
  (grantedAtMilliseconds expiresAtMilliseconds revokedAtMilliseconds : Int)

abbrev AccessGrant.validAt (g : AccessGrant) (now : Int) : Prop :=
  g.version = 1 ∧ g.grantID ≠ uuidNil ∧ g.requestID ≠ uuidNil ∧ g.boxID ≠ uuidNil ∧
    g.workerID ≠ uuidNil ∧ g.ownerParticipantID ≠ uuidNil ∧ g.ownerDeviceID ≠ uuidNil ∧
    g.granteeParticipantID ≠ uuidNil ∧ g.ownerParticipantID ≠ g.granteeParticipantID ∧
    validParticipantRequestDigest g.capabilitiesDigest ∧
    validParticipantRequestDigest g.confirmationCodeDigest ∧ 0 < g.revision ∧
    g.revision ≤ maxInt64 ∧ 0 < g.grantedAtMilliseconds ∧ g.grantedAtMilliseconds ≤ now ∧
    now < g.expiresAtMilliseconds ∧
    g.expiresAtMilliseconds - g.grantedAtMilliseconds ≤ sharedWorkerAccessGrantLifetimeMilliseconds ∧
    g.revokedAtMilliseconds = 0

inductive OperationState where
  | queued
  | claimed
  | responseReady
  | expired
  deriving DecidableEq

/-- `BoxSharedWorkerOperationResponse`. -/
structure OperationResponse where
  version : Int
  (operationID claimID boxID workerID ownerParticipantID ownerDeviceID : UUID)
  responseDigest : GoString
  responseBytes : List UInt8
  respondedAtMilliseconds : Int
  deriving DecidableEq

/-- What an operation asks for: the fields that `sameSharedWorkerOperation` compares. -/
structure OperationTerms where
  version : Int
  (operationID boxID workerID accessGrantID requesterParticipantID requesterDeviceID jobID : UUID)
  runID : UUID
  attempt : Nat
  (capabilitiesDigest requestDigest : GoString)
  requestBytes : List UInt8
  (requestedAtMilliseconds expiresAtMilliseconds : Int)
  connectionGrantID : UUID
  deriving DecidableEq

/-- `BoxSharedWorkerOperation`. -/
structure Operation extends OperationTerms where
  state : OperationState
  claimID : UUID
  (claimedAtMilliseconds claimExpiresAtMilliseconds : Int)
  response : Option OperationResponse
  deriving DecidableEq

abbrev sameSharedWorkerOperation (left right : Operation) : Prop :=
  left.toOperationTerms = right.toOperationTerms

abbrev Operation.validAt (o : Operation) (now : Int) : Prop :=
  o.version = 1 ∧ o.operationID ≠ uuidNil ∧ o.boxID ≠ uuidNil ∧ o.workerID ≠ uuidNil ∧
    o.accessGrantID ≠ uuidNil ∧ o.requesterParticipantID ≠ uuidNil ∧
    o.requesterDeviceID ≠ uuidNil ∧ o.jobID ≠ uuidNil ∧ o.runID ≠ uuidNil ∧ 0 < o.attempt ∧
    o.attempt ≤ maxInt64 ∧ validParticipantRequestDigest o.capabilitiesDigest ∧
    validParticipantRequestDigest o.requestDigest ∧ 0 < o.requestBytes.length ∧
    o.requestBytes.length ≤ maximumSharedWorkerOperationBytes ∧
    o.requestDigest = c.digestText o.requestBytes ∧ 0 < o.requestedAtMilliseconds ∧
    o.requestedAtMilliseconds ≤ now ∧ now < o.expiresAtMilliseconds ∧
    o.expiresAtMilliseconds - o.requestedAtMilliseconds ≤
      maximumSharedWorkerOperationLifetimeMilliseconds ∧
    o.connectionGrantID ≠ uuidNil ∧ o.state = .queued ∧ o.claimID = uuidNil ∧
    o.claimedAtMilliseconds = 0 ∧ o.claimExpiresAtMilliseconds = 0 ∧ o.response = none

/-- `BoxSharedWorkerOperationClaim`. -/
structure OperationClaim where
  version : Int
  (claimID boxID workerID ownerParticipantID ownerDeviceID : UUID)
  (requestedAtMilliseconds expiresAtMilliseconds : Int)

abbrev OperationClaim.validAt (claim : OperationClaim) (now : Int) : Prop :=
  claim.version = 1 ∧ claim.claimID ≠ uuidNil ∧ claim.boxID ≠ uuidNil ∧ claim.workerID ≠ uuidNil ∧
    claim.ownerParticipantID ≠ uuidNil ∧ claim.ownerDeviceID ≠ uuidNil ∧
    0 < claim.requestedAtMilliseconds ∧ claim.requestedAtMilliseconds ≤ now ∧
    now < claim.expiresAtMilliseconds ∧
    claim.expiresAtMilliseconds - claim.requestedAtMilliseconds ≤
      maximumSharedWorkerClaimLifetimeMilliseconds

abbrev OperationResponse.validAt (r : OperationResponse) (now : Int) : Prop :=
  r.version = 1 ∧ r.operationID ≠ uuidNil ∧ r.claimID ≠ uuidNil ∧ r.boxID ≠ uuidNil ∧
    r.workerID ≠ uuidNil ∧ r.ownerParticipantID ≠ uuidNil ∧ r.ownerDeviceID ≠ uuidNil ∧
    validParticipantRequestDigest r.responseDigest ∧ 0 < r.responseBytes.length ∧
    r.responseBytes.length ≤ maximumSharedWorkerOperationBytes ∧
    r.responseDigest = c.digestText r.responseBytes ∧ 0 < r.respondedAtMilliseconds ∧
    r.respondedAtMilliseconds ≤ now

/-- The claim on the operation is dropped: it waits again, or it is over. -/
def Operation.unclaimed (o : Operation) (state : OperationState) : Operation :=
  { o with
    state := state, claimID := uuidNil, claimedAtMilliseconds := 0,
      claimExpiresAtMilliseconds := 0 }

/-- The operation is handed out under `claim`. -/
def Operation.claimedBy (o : Operation) (claim : OperationClaim) (now : Int) : Operation :=
  { o with
    state := .claimed, claimID := claim.claimID, claimedAtMilliseconds := now
    claimExpiresAtMilliseconds := claim.expiresAtMilliseconds }

/-- The operation still waits for its answer and its time is over. -/
abbrev Operation.overdue (o : Operation) (now : Int) : Prop :=
  (o.state = .queued ∨ o.state = .claimed) ∧ o.expiresAtMilliseconds ≤ now

/-- The order in which operations are handed out: by request time, then by the text of the ID. -/
abbrev Operation.before (left right : Operation) : Prop :=
  if left.requestedAtMilliseconds = right.requestedAtMilliseconds then
    uuidString left.operationID ≤ uuidString right.operationID
  else left.requestedAtMilliseconds ≤ right.requestedAtMilliseconds

end

end FacetsNode.Box
