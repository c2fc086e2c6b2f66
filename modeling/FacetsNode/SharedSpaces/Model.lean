import FacetsNode.ComputePool.Binding
import FacetsNode.Lib.GoMap
import FacetsNode.Lib.Slice
import FacetsNode.Relay.DataPlane

/-!
# Shared Spaces: records and their validation

The requests and records of `sharedspaces`, with the checks the service makes on each of them before
it looks at its own state, signatures included. A record that holds a participant's device keys is
generic in what a list of device keys is: in a request it is a value, in the store it is a slice.
-/

namespace FacetsNode.SharedSpaces

open Relay (UUID uuidNil uuidString Capability Acceptance RelayError TenantRegistration
  DomainProvisioning TenantProvisioningResult MemberAdmission MemberAdmissionClaim
  SubscriptionMemberRegistration validBase64URLSize)

/-! ## Errors -/

inductive ErrorCode where
  | invalidSpace
  | spaceCollision
  | spaceNotFound
  | invalidInvitation
  | invitationCollision
  | invitationNotFound
  | invitationClaimed
  | invitationCancelled
  | invitationCancellationCollision
  | invalidParticipant
  | invalidParticipantPresentation
  | participantCollision
  | participantPresentationCollision
  | participantRoleCollision
  | participantNotFound
  | participantRevoked
  | participantRosterUnavailable
  | initialHost
  | unauthorized
  | wrongScope
  | wrongKeyEpoch
  | keyGrantNotFound
  | bootstrapNotReady
  | invalidAuthorityEvent
  | invalidComputeBinding
  | computeBindingCollision
  | computeBindingNotFound
  deriving DecidableEq

/-- A refusal of the service itself, one the relay handed up, or a failure outside both. -/
inductive SpacesError where
  | protocol (code : ErrorCode) (message : String)
  | relay (e : RelayError)
  | plain (message : String)
  deriving DecidableEq

/-- `if c { return NewProtocolError(code, message) }`. -/
def refuseWhen (c : Prop) [Decidable c] (code : ErrorCode) (message : String) :
    Except SpacesError Unit :=
  if c then .error (.protocol code message) else .ok ()

theorem refuseWhen_eq_ok {c : Prop} [Decidable c] {code : ErrorCode} {message : String} {u : Unit} :
    refuseWhen c code message = .ok u ↔ ¬ c := by
  unfold refuseWhen
  split
  · next h => simp [h]
  · next h => simp [h]

/-- An error of the relay is returned as it is. -/
def ofRelay {α : Type} (x : Except RelayError α) : Except SpacesError α := x.mapError .relay

/-! ## Constants and modes -/

def schemaVersion : Int := 1
def initialKeyEpoch : Nat := 1
def participantKeyGrantAlgorithm : GoString := goString "P256-HKDF-SHA256+A256GCM"
def participantKeyGrantSignatureAlgorithm : GoString := goString "ES256"
def managedContentKeyAlgorithm : GoString := goString "A256GCM"
def maximumParticipantKeyGrantCiphertextByteCount : Nat := 16 * 1024
def maximumAuthorityEventPageSize : Int := 100
def maximumSecureRosterAttestationPageSize : Int := 100
def maximumParticipantDisplayNameBytes : Nat := 512
def maximumParticipantDisplayNameRunes : Nat := 128

/-- One more, of an unsigned word of 64 bits. -/
def increment (value : Nat) : Nat := (value + 1) % 2 ^ 64

inductive SecurityMode where
  | «private»
  | secure
  | managed
  deriving DecidableEq

def SecurityMode.contentBlind : SecurityMode → Bool
  | .private | .secure => true
  | .managed => false

inductive InteractionMode where
  | broadcast
  | community
  | collaborative
  deriving DecidableEq

inductive ParticipantKind where
  | person
  | nonhuman
  deriving DecidableEq

def ParticipantKind.text : ParticipantKind → GoString
  | .person => goString "person"
  | .nonhuman => goString "nonhuman"

inductive Role where
  | host
  | moderator
  | participant
  | reader
  deriving DecidableEq

namespace Role

def text : Role → GoString
  | .host => goString "host"
  | .moderator => goString "moderator"
  | .participant => goString "participant"
  | .reader => goString "reader"

/-- A role that may sign for the Space. -/
def mayIssue (r : Role) : Bool := r = .host || r = .moderator

def capabilities (r : Role) (mode : InteractionMode) : List Capability :=
  let readCapabilities : List Capability := [.acknowledgeMessage, .fetchBlob, .fetchMessage]
  let allCapabilities := readCapabilities ++ [.publishBlob, .publishCheckpoint, .publishMessage]
  let capabilities :=
    if r = .host ∨ r = .moderator then allCapabilities
    else if r = .reader ∨ mode = .broadcast then readCapabilities
    else if mode = .community then readCapabilities ++ [.publishBlob, .publishMessage]
    else allCapabilities
  capabilities.insertionSort (fun a b => a.text ≤ b.text)

end Role

/-! ## Texts -/

def validFingerprint (value : GoString) : Bool := Relay.validDigest value

def bytesOf (value : GoString) : List UInt8 := (Base64Url.decode value).getD []

/-- The fingerprint of a public key. -/
def fingerprintOf (publicKeyX963 : GoString) : GoString :=
  Hex.encode (Sha256.sum (bytesOf publicKeyX963))

/-- The point a public key spells. -/
def pointOf (publicKeyX963 : GoString) : Option (Nat × Nat) :=
  P256.unmarshal (bytesOf publicKeyX963)

/-- `ecdsa.Verify` of a signature over the digest of a payload. -/
def verifies (publicKeyX963 signature : GoString) (payload : List UInt8) : Bool :=
  match pointOf publicKeyX963 with
  | none => false
  | some key =>
    P256.verify key (Sha256.sum payload) (P256.ofBytes ((bytesOf signature).take 32))
      (P256.ofBytes ((bytesOf signature).drop 32))

def validParticipantDisplayName (value : GoString) : Bool :=
  Utf8.valid value && Utf8.trimmed value && value != [] &&
    value.length ≤ maximumParticipantDisplayNameBytes &&
    Utf8.runeCount value ≤ maximumParticipantDisplayNameRunes

/-! ### JSON -/

def jsonID (id : UUID) : Json := .str (uuidString id)

/-- A field that is left out when it is `none`. -/
def jsonOptional (key : String) : Option Json → List (GoString × Json)
  | none => []
  | some v => [(goString key, v)]

/-- A nil slice is written as `null`. -/
def jsonSlice {α : Type} (f : α → Json) : GoSlice α → Json
  | none => .null
  | some l => .arr (l.map f)

/-! ## Keys -/

structure ParticipantKeyGrantSignature where
  (algorithm publicSigningKeyX963 signingKeyFingerprint signature : GoString)
  deriving DecidableEq

def ParticipantKeyGrantSignature.json (s : ParticipantKeyGrantSignature) : Json :=
  .obj [(goString "algorithm", .str s.algorithm),
    (goString "publicSigningKeyX963", .str s.publicSigningKeyX963),
    (goString "signingKeyFingerprint", .str s.signingKeyFingerprint),
    (goString "signature", .str s.signature)]

structure ParticipantSigningKey where
  (algorithm publicKeyX963 signingKeyFingerprint : GoString)
  deriving DecidableEq

namespace ParticipantSigningKey

def json (k : ParticipantSigningKey) : Json :=
  .obj [(goString "algorithm", .str k.algorithm), (goString "publicKeyX963", .str k.publicKeyX963),
    (goString "signingKeyFingerprint", .str k.signingKeyFingerprint)]

def validate (k : ParticipantSigningKey) : Except SpacesError Unit := do
  refuseWhen (k.algorithm ≠ participantKeyGrantSignatureAlgorithm ∨
      validFingerprint k.signingKeyFingerprint = false ∨
      validBase64URLSize k.publicKeyX963 65 65 = false)
    .invalidParticipant "Shared Space participant signing key fields are invalid"
  refuseWhen (fingerprintOf k.publicKeyX963 ≠ k.signingKeyFingerprint)
    .invalidParticipant "Shared Space participant signing-key fingerprint differs"
  refuseWhen (pointOf k.publicKeyX963 = none)
    .invalidParticipant "Shared Space participant signing key is invalid"

def matchesGrantSignature (k : ParticipantSigningKey) (s : ParticipantKeyGrantSignature) : Bool :=
  k.algorithm == s.algorithm && k.publicKeyX963 == s.publicSigningKeyX963 &&
    k.signingKeyFingerprint == s.signingKeyFingerprint

end ParticipantSigningKey

structure ParticipantDeviceKey where
  version : Int
  (spaceID participantID deviceID : UUID)
  (algorithm agreementPublicKeyX963 agreementKeyFingerprint : GoString)
  createdAtMilliseconds : Int
  revokedAtMilliseconds : Option Int
  signature : ParticipantKeyGrantSignature
  deriving DecidableEq

namespace ParticipantDeviceKey

/-- The fields a device key is signed over. -/
def signingFields (k : ParticipantDeviceKey) : List (GoString × Json) :=
  [(goString "version", .ofInt k.version), (goString "spaceID", jsonID k.spaceID),
   (goString "participantID", jsonID k.participantID), (goString "deviceID", jsonID k.deviceID),
   (goString "algorithm", .str k.algorithm),
   (goString "agreementPublicKeyX963", .str k.agreementPublicKeyX963),
   (goString "agreementKeyFingerprint", .str k.agreementKeyFingerprint),
   (goString "createdAtMilliseconds", .ofInt k.createdAtMilliseconds)] ++
  jsonOptional "revokedAtMilliseconds" (k.revokedAtMilliseconds.map .ofInt)

def signingPayload (k : ParticipantDeviceKey) : List UInt8 := Json.marshal (.obj k.signingFields)

def json (k : ParticipantDeviceKey) : Json :=
  .obj (k.signingFields ++ [(goString "signature", k.signature.json)])

/-- The key may receive grants. -/
def active (k : ParticipantDeviceKey) : Bool := k.revokedAtMilliseconds.isNone

end ParticipantDeviceKey

/-- `Participant`; `D` is what a list of device keys is. -/
structure Participant (D : Type) where
  version : Int
  (spaceID participantID subscriptionID : UUID)
  kind : ParticipantKind
  role : Role
  signingKey : ParticipantSigningKey
  deviceKeys : D
  createdAtMilliseconds : Int
  revokedAtMilliseconds : Option Int
  deriving DecidableEq

/-- The same participant with another list of device keys. -/
def Participant.withKeys {D E : Type} (p : Participant D) (keys : E) : Participant E :=
  ⟨p.version, p.spaceID, p.participantID, p.subscriptionID, p.kind, p.role, p.signingKey, keys,
   p.createdAtMilliseconds, p.revokedAtMilliseconds⟩

/-- A participant with its device keys at hand. -/
abbrev FullParticipant := Participant (GoSlice ParticipantDeviceKey)

def ParticipantDeviceKey.validate {D : Type} (k : ParticipantDeviceKey)
    (participant : Participant D) :
    Except SpacesError Unit := do
  refuseWhen (k.version ≠ schemaVersion ∨ k.spaceID ≠ participant.spaceID ∨
      k.participantID ≠ participant.participantID ∨ k.deviceID = uuidNil ∨
      k.algorithm ≠ goString "P256" ∨ k.createdAtMilliseconds < 0 ∨
      (∃ t ∈ k.revokedAtMilliseconds, t < k.createdAtMilliseconds) ∨
      validFingerprint k.agreementKeyFingerprint = false ∨
      validBase64URLSize k.agreementPublicKeyX963 65 65 = false ∨
      participant.signingKey.matchesGrantSignature k.signature = false ∨
      k.signature.algorithm ≠ participantKeyGrantSignatureAlgorithm ∨
      validBase64URLSize k.signature.signature 64 64 = false)
    .invalidParticipant "Shared Space participant device-key fields are invalid"
  refuseWhen (fingerprintOf k.agreementPublicKeyX963 ≠ k.agreementKeyFingerprint)
    .invalidParticipant "Shared Space participant agreement-key fingerprint differs"
  refuseWhen (pointOf k.agreementPublicKeyX963 = none)
    .invalidParticipant "Shared Space participant agreement key is invalid"
  refuseWhen (verifies participant.signingKey.publicKeyX963 k.signature.signature k.signingPayload =
      false)
    .invalidParticipant "Shared Space participant device-key signature is invalid"

def hasActiveParticipantDeviceKey (keys : GoSlice ParticipantDeviceKey) (deviceID : UUID)
    (fingerprint : GoString) : Bool :=
  (keys.getD []).any fun key =>
    key.deviceID == deviceID && key.active && key.agreementKeyFingerprint == fingerprint

namespace Participant

def json (p : FullParticipant) : Json :=
  .obj ([(goString "version", .ofInt p.version), (goString "spaceID", jsonID p.spaceID),
    (goString "participantID", jsonID p.participantID),
    (goString "subscriptionID", jsonID p.subscriptionID), (goString "kind", .str p.kind.text),
    (goString "role", .str p.role.text), (goString "signingKey", p.signingKey.json),
    (goString "deviceKeys", jsonSlice ParticipantDeviceKey.json p.deviceKeys),
    (goString "createdAtMilliseconds", .ofInt p.createdAtMilliseconds)] ++
    jsonOptional "revokedAtMilliseconds" (p.revokedAtMilliseconds.map .ofInt))

/-- The loop over the device keys; `previous` is the text of the key before. -/
def validateDeviceKeys (p : FullParticipant) (previous : GoString) :
    List ParticipantDeviceKey → Except SpacesError Unit
  | [] => .ok ()
  | key :: rest => do
    refuseWhen (key.spaceID ≠ p.spaceID ∨ key.participantID ≠ p.participantID)
      .wrongScope "Shared Space participant device key has the wrong scope"
    key.validate p
    refuseWhen (previous ≠ [] ∧ ¬ previous < uuidString key.deviceID)
      .invalidParticipant "Shared Space participant device keys are invalid"
    validateDeviceKeys p (uuidString key.deviceID) rest

def validate (p : FullParticipant) : Except SpacesError Unit := do
  refuseWhen (p.version ≠ schemaVersion ∨ p.spaceID = uuidNil ∨ p.participantID = uuidNil ∨
      p.subscriptionID = uuidNil ∨ p.createdAtMilliseconds < 0 ∨
      (∃ t ∈ p.revokedAtMilliseconds, t < p.createdAtMilliseconds))
    .invalidParticipant "Shared Space participant fields are invalid"
  p.signingKey.validate
  validateDeviceKeys p [] (p.deviceKeys.getD [])

end Participant

/-! ## Rosters -/

structure SecureRosterAttestation where
  version : Int
  (spaceID domainID : UUID)
  revision : Nat
  previousDigest : GoString
  currentKeyEpoch : Nat
  participants : GoSlice FullParticipant
  issuerParticipantID : UUID
  createdAtMilliseconds : Int
  signature : ParticipantKeyGrantSignature
  deriving DecidableEq

namespace SecureRosterAttestation

/-- The participants, in order. -/
def members (a : SecureRosterAttestation) : List FullParticipant := a.participants.getD []

/-- The fields an attestation is signed over; an empty digest is left out. -/
def signingFields (a : SecureRosterAttestation) : List (GoString × Json) :=
  [(goString "version", .ofInt a.version), (goString "spaceID", jsonID a.spaceID),
   (goString "domainID", jsonID a.domainID), (goString "revision", .ofNat a.revision)] ++
  jsonOptional "previousDigest"
    (if a.previousDigest = [] then none else some (.str a.previousDigest)) ++
  [(goString "currentKeyEpoch", .ofNat a.currentKeyEpoch),
   (goString "participants", jsonSlice Participant.json a.participants),
   (goString "issuerParticipantID", jsonID a.issuerParticipantID),
   (goString "createdAtMilliseconds", .ofInt a.createdAtMilliseconds)]

def signingPayload (a : SecureRosterAttestation) : List UInt8 := Json.marshal (.obj a.signingFields)

/-- `Digest`, which covers the signature too. -/
def digest (a : SecureRosterAttestation) : GoString :=
  Hex.encode (Sha256.sum
    (Json.marshal (.obj (a.signingFields ++ [(goString "signature", a.signature.json)]))))

/-- The device keys of one member: valid, in order, and how many are active. -/
def countDeviceKeys (p : FullParticipant) (previous : GoString) :
    List ParticipantDeviceKey → Except SpacesError Nat
  | [] => .ok 0
  | key :: rest => do
    refuseWhen (key.validate p ≠ .ok () ∨ previous ≠ [] ∧ ¬ previous < uuidString key.deviceID)
      .invalidParticipant "Secure Shared Space roster participant device keys are invalid"
    let count ← countDeviceKeys p (uuidString key.deviceID) rest
    .ok (if key.active then count + 1 else count)

/-- The loop over the participants; `previous` is the one before. The test for a duplicate follows
from the order and never fires. -/
def validateMembers (a : SecureRosterAttestation) (previous : Option UUID) :
    List FullParticipant → Except SpacesError Unit
  | [] => .ok ()
  | p :: rest => do
    p.validate
    refuseWhen (p.deviceKeys.getD [] = [])
      .invalidParticipant "Secure Shared Space roster participant has no device key"
    let count ← countDeviceKeys p [] (p.deviceKeys.getD [])
    refuseWhen (count = 0)
      .invalidParticipant "Secure Shared Space roster participant has no active device key"
    refuseWhen (p.spaceID ≠ a.spaceID ∨ p.revokedAtMilliseconds ≠ none ∨
        (previous.any fun id => ¬ uuidString id < uuidString p.participantID) = true)
      .invalidParticipant "Secure Shared Space roster attestation participants are invalid"
    validateMembers a (some p.participantID) rest

def validate (a : SecureRosterAttestation) : Except SpacesError Unit := do
  refuseWhen (a.version ≠ schemaVersion ∨ a.spaceID = uuidNil ∨ a.domainID = uuidNil ∨
      a.revision = 0 ∨ a.currentKeyEpoch = 0 ∨ a.issuerParticipantID = uuidNil ∨
      a.createdAtMilliseconds < 0 ∨ (a.revision = 1 ∧ a.previousDigest ≠ []) ∨
      (a.revision > 1 ∧ validFingerprint a.previousDigest = false))
    .invalidParticipant "Secure Shared Space roster attestation fields are invalid"
  a.validateMembers none a.members
  refuseWhen (a.members.all (·.participantID ≠ a.issuerParticipantID) = true ∨
      a.signature.algorithm ≠ participantKeyGrantSignatureAlgorithm ∨
      validFingerprint a.signature.signingKeyFingerprint = false ∨
      validBase64URLSize a.signature.publicSigningKeyX963 65 65 = false ∨
      validBase64URLSize a.signature.signature 64 64 = false)
    .invalidParticipant "Secure Shared Space roster attestation issuer or signature is invalid"
  refuseWhen (fingerprintOf a.signature.publicSigningKeyX963 ≠ a.signature.signingKeyFingerprint)
    .invalidParticipant "Secure Shared Space roster attestation signing-key fingerprint differs"
  refuseWhen (pointOf a.signature.publicSigningKeyX963 = none)
    .invalidParticipant "Secure Shared Space roster attestation signing key is invalid"
  refuseWhen (verifies a.signature.publicSigningKeyX963 a.signature.signature a.signingPayload = false)
    .invalidParticipant "Secure Shared Space roster attestation signature is invalid"

def validateInitial (a : SecureRosterAttestation) (host : FullParticipant) :
    Except SpacesError Unit := do
  a.validate
  refuseWhen (a.revision ≠ 1 ∨ a.previousDigest ≠ [] ∨ a.currentKeyEpoch ≠ initialKeyEpoch ∨
      a.issuerParticipantID ≠ host.participantID ∨ host.role ≠ .host ∨
      host.signingKey.matchesGrantSignature a.signature = false ∨ a.members ≠ [host])
    .unauthorized "Secure Shared Space initial roster attestation is not bound to its host"

def validateSuccessor (a previous : SecureRosterAttestation)
    (expectedParticipants : List FullParticipant) (expectedKeyEpoch : Nat) :
    Except SpacesError Unit := do
  a.validate
  previous.validate
  refuseWhen (a.spaceID ≠ previous.spaceID ∨ a.domainID ≠ previous.domainID ∨
      a.revision ≠ increment previous.revision ∨ a.previousDigest ≠ previous.digest ∨
      a.currentKeyEpoch ≠ expectedKeyEpoch ∨ a.members ≠ expectedParticipants)
    .wrongScope "Secure Shared Space roster attestation transition differs from authority state"
  match previous.members.find? (·.participantID = a.issuerParticipantID) with
  | none =>
    .error (.protocol .unauthorized
      "Secure Shared Space roster attestation issuer is not an authorized prior member")
  | some issuer =>
    refuseWhen (issuer.role.mayIssue = false ∨
        issuer.signingKey.matchesGrantSignature a.signature = false)
      .unauthorized "Secure Shared Space roster attestation issuer is not an authorized prior member"

end SecureRosterAttestation

/-! ## Grants -/

structure ParticipantKeyGrant where
  version : Int
  (spaceID participantID recipientDeviceID issuerParticipantID : UUID)
  keyEpoch : Nat
  (algorithm recipientAgreementKeyFingerprint ephemeralAgreementPublicKeyX963 nonce : GoString)
  (ciphertext authenticationTag : GoString)
  createdAtMilliseconds : Int
  signature : ParticipantKeyGrantSignature
  deriving DecidableEq

/-- `participantDeviceGrantTarget` and `grantTarget`. -/
structure GrantTarget where
  (participantID deviceID : UUID)
  deriving DecidableEq

namespace ParticipantKeyGrant

/-- Whom the grant is addressed to. -/
def target (g : ParticipantKeyGrant) : GrantTarget := ⟨g.participantID, g.recipientDeviceID⟩

def signingPayload (g : ParticipantKeyGrant) : List UInt8 :=
  Json.marshal (.obj
    [(goString "version", .ofInt g.version), (goString "spaceID", jsonID g.spaceID),
     (goString "participantID", jsonID g.participantID),
     (goString "recipientDeviceID", jsonID g.recipientDeviceID),
     (goString "issuerParticipantID", jsonID g.issuerParticipantID),
     (goString "keyEpoch", .ofNat g.keyEpoch), (goString "algorithm", .str g.algorithm),
     (goString "recipientAgreementKeyFingerprint", .str g.recipientAgreementKeyFingerprint),
     (goString "ephemeralAgreementPublicKeyX963", .str g.ephemeralAgreementPublicKeyX963),
     (goString "nonce", .str g.nonce), (goString "ciphertext", .str g.ciphertext),
     (goString "authenticationTag", .str g.authenticationTag),
     (goString "createdAtMilliseconds", .ofInt g.createdAtMilliseconds)])

def validate (g : ParticipantKeyGrant) : Except SpacesError Unit := do
  refuseWhen (g.version ≠ schemaVersion ∨ g.spaceID = uuidNil ∨ g.participantID = uuidNil ∨
      g.recipientDeviceID = uuidNil ∨ g.issuerParticipantID = uuidNil ∨ g.keyEpoch = 0 ∨
      g.algorithm ≠ participantKeyGrantAlgorithm ∨ g.createdAtMilliseconds < 0 ∨
      validFingerprint g.recipientAgreementKeyFingerprint = false ∨
      validBase64URLSize g.ephemeralAgreementPublicKeyX963 65 65 = false ∨
      validBase64URLSize g.nonce 12 12 = false ∨
      validBase64URLSize g.ciphertext 1 maximumParticipantKeyGrantCiphertextByteCount = false ∨
      validBase64URLSize g.authenticationTag 16 16 = false ∨
      g.signature.algorithm ≠ participantKeyGrantSignatureAlgorithm ∨
      validFingerprint g.signature.signingKeyFingerprint = false ∨
      validBase64URLSize g.signature.publicSigningKeyX963 65 65 = false ∨
      validBase64URLSize g.signature.signature 64 64 = false)
    .invalidInvitation "Shared Space participant key grant fields are invalid"
  refuseWhen (fingerprintOf g.signature.publicSigningKeyX963 ≠ g.signature.signingKeyFingerprint)
    .invalidInvitation "Shared Space participant key grant signing-key fingerprint differs"
  refuseWhen (pointOf g.signature.publicSigningKeyX963 = none)
    .invalidInvitation "Shared Space participant key grant signing key is invalid"
  refuseWhen (verifies g.signature.publicSigningKeyX963 g.signature.signature g.signingPayload = false)
    .invalidInvitation "Shared Space participant key grant signature is invalid"

end ParticipantKeyGrant

/-! ## Provisioning -/

structure SpaceProvisioning (D : Type) where
  version : Int
  (retryID spaceID : UUID)
  securityMode : SecurityMode
  interactionMode : InteractionMode
  initialParticipantID : UUID
  initialParticipantKind : ParticipantKind
  initialParticipantSigningKey : ParticipantSigningKey
  initialParticipantDeviceKeys : D
  initialSecureRosterAttestation : Option SecureRosterAttestation
  tenant : TenantRegistration
  domain : DomainProvisioning
  createdAtMilliseconds : Int
  deriving DecidableEq

namespace SpaceProvisioning

variable {D E : Type}

def withKeys (p : SpaceProvisioning D) (keys : E) : SpaceProvisioning E :=
  ⟨p.version, p.retryID, p.spaceID, p.securityMode, p.interactionMode, p.initialParticipantID,
   p.initialParticipantKind, p.initialParticipantSigningKey, keys, p.initialSecureRosterAttestation,
   p.tenant, p.domain, p.createdAtMilliseconds⟩

/-- The initial host. -/
def host (p : SpaceProvisioning D) : Participant D where
  version := schemaVersion
  spaceID := p.spaceID
  participantID := p.initialParticipantID
  subscriptionID := p.domain.subscription.subscriptionID
  kind := p.initialParticipantKind
  role := .host
  signingKey := p.initialParticipantSigningKey
  deviceKeys := p.initialParticipantDeviceKeys
  createdAtMilliseconds := p.createdAtMilliseconds
  revokedAtMilliseconds := none

def validate (p : SpaceProvisioning (GoSlice ParticipantDeviceKey)) : Except SpacesError Unit := do
  refuseWhen (p.version ≠ schemaVersion ∨ p.retryID = uuidNil ∨ p.spaceID = uuidNil ∨
      p.initialParticipantID = uuidNil ∨ p.createdAtMilliseconds < 0)
    .invalidSpace "Shared Space provisioning fields are invalid"
  ofRelay p.tenant.validate
  ofRelay p.domain.validate
  p.initialParticipantSigningKey.validate
  p.host.validate
  if p.securityMode = .secure then
    match p.initialSecureRosterAttestation with
    | none =>
      .error (.protocol .invalidSpace
        "Secure Shared Space provisioning is missing its initial roster attestation")
    | some attestation => attestation.validateInitial p.host
  else
    refuseWhen (p.initialSecureRosterAttestation ≠ none)
      .invalidSpace "only Secure Shared Space provisioning may carry a roster attestation"
  refuseWhen (p.spaceID ≠ p.tenant.tenantID ∨ p.spaceID ≠ p.domain.registration.tenantID ∨
      p.initialParticipantID ≠ p.domain.initialMember.memberID ∨
      p.createdAtMilliseconds ≠ p.tenant.createdAtMilliseconds ∨
      p.createdAtMilliseconds ≠ p.domain.registration.createdAtMilliseconds)
    .wrongScope "Shared Space, relay tenant, domain, and initial host scopes differ"
  refuseWhen (p.domain.initialMember.capabilities ≠ Role.host.capabilities p.interactionMode)
    .wrongScope "initial host relay capabilities are invalid"

end SpaceProvisioning

/-! ## Invitations -/

structure Invitation (D : Type) where
  version : Int
  (retryID spaceID invitationID participantID subscriptionID : UUID)
  kind : ParticipantKind
  role : Role
  interactionMode : InteractionMode
  participantSigningKey : ParticipantSigningKey
  participantDeviceKeys : D
  keyGrant : Option ParticipantKeyGrant
  activationSecureRosterAttestation : Option SecureRosterAttestation
  relayAdmission : MemberAdmission
  createdAtMilliseconds : Int
  deriving DecidableEq

namespace Invitation

variable {D E : Type}

def withKeys (i : Invitation D) (keys : E) : Invitation E :=
  ⟨i.version, i.retryID, i.spaceID, i.invitationID, i.participantID, i.subscriptionID, i.kind,
    i.role,
   i.interactionMode, i.participantSigningKey, keys, i.keyGrant,
     i.activationSecureRosterAttestation,
   i.relayAdmission, i.createdAtMilliseconds⟩

/-- `participantFromInvitation`. -/
def participant (i : Invitation D) : Participant D where
  version := schemaVersion
  spaceID := i.spaceID
  participantID := i.participantID
  subscriptionID := i.subscriptionID
  kind := i.kind
  role := i.role
  signingKey := i.participantSigningKey
  deviceKeys := i.participantDeviceKeys
  createdAtMilliseconds := i.createdAtMilliseconds
  revokedAtMilliseconds := none

def validate (i : Invitation (GoSlice ParticipantDeviceKey)) : Except SpacesError Unit := do
  refuseWhen (i.version ≠ schemaVersion ∨ i.retryID = uuidNil ∨ i.spaceID = uuidNil ∨
      i.invitationID = uuidNil ∨ i.participantID = uuidNil ∨ i.subscriptionID = uuidNil ∨
      i.createdAtMilliseconds < 0)
    .invalidInvitation "Shared Space invitation fields are invalid"
  ofRelay i.relayAdmission.validate
  i.participantSigningKey.validate
  i.participant.validate
  match i.keyGrant with
  | none => pure ()
  | some grant => grant.validate
  refuseWhen (∃ a ∈ i.activationSecureRosterAttestation, a.spaceID ≠ i.spaceID)
    .wrongScope "Shared Space invitation roster attestation belongs to another Space"
  refuseWhen (i.spaceID ≠ i.relayAdmission.tenantID ∨
    i.invitationID ≠ i.relayAdmission.admissionID ∨
      i.createdAtMilliseconds ≠ i.relayAdmission.createdAtMilliseconds ∨
      i.relayAdmission.claimedAtMilliseconds ≠ none ∨ i.relayAdmission.claimedMemberID ≠ none ∨
      i.relayAdmission.revokedAtMilliseconds ≠ none ∨
      i.relayAdmission.capabilities ≠ i.role.capabilities i.interactionMode)
    .wrongScope "Shared Space invitation and relay admission scopes differ"

def validateKeyGrant (i : Invitation (GoSlice ParticipantDeviceKey)) (mode : SecurityMode)
    (currentKeyEpoch : Nat) : Except SpacesError Unit :=
  if mode = .managed then
    refuseWhen (i.keyGrant ≠ none)
      .invalidInvitation "managed Shared Space invitations cannot carry participant key grants"
  else
    match i.keyGrant with
    | none =>
      .error (.protocol .invalidInvitation
        "content-blind Shared Space invitation is missing its participant key grant")
    | some grant => do
      refuseWhen ((i.participantDeviceKeys.getD []).countP ParticipantDeviceKey.active ≠ 1)
        .invalidInvitation
        "content-blind Shared Space invitation must admit exactly one active participant device"
      refuseWhen (grant.spaceID ≠ i.spaceID ∨ grant.participantID ≠ i.participantID ∨
          grant.createdAtMilliseconds ≠ i.createdAtMilliseconds)
        .wrongScope "Shared Space invitation and participant key grant scopes differ"
      refuseWhen (grant.keyEpoch ≠ currentKeyEpoch)
        .wrongKeyEpoch "Shared Space participant key grant is not for the current key epoch"
      refuseWhen (hasActiveParticipantDeviceKey i.participantDeviceKeys grant.recipientDeviceID
          grant.recipientAgreementKeyFingerprint = false)
        .wrongScope "Shared Space participant key grant does not target an active invited device key"

end Invitation

structure InvitationCredential where
  (spaceID domainID invitationID : UUID)
  token : GoString

structure InvitationClaim where
  version : Int
  (spaceID participantID : UUID)
  relayClaim : MemberAdmissionClaim
  claimedAtMilliseconds : Int

def InvitationClaim.validate (c : InvitationClaim) : Except SpacesError Unit := do
  refuseWhen (c.version ≠ schemaVersion ∨ c.spaceID = uuidNil ∨ c.participantID = uuidNil ∨
      c.claimedAtMilliseconds < 0)
    .invalidInvitation "Shared Space invitation claim fields are invalid"
  ofRelay c.relayClaim.validate
  refuseWhen (c.participantID ≠ c.relayClaim.memberID)
    .wrongScope "participant and relay member scopes differ"

structure InvitationCreateResult where
  acceptance : Acceptance
  invitation : Invitation (GoSlice ParticipantDeviceKey)

structure InvitationClaimResult (D : Type) where
  acceptance : Acceptance
  currentKeyEpoch : Nat
  keyGrant : Option ParticipantKeyGrant
  secureRosterAttestation : Option SecureRosterAttestation
  participant : Participant D
  member : SubscriptionMemberRegistration

structure InvitationCancellation where
  version : Int
  (retryID spaceID invitationID : UUID)
  cancelledAtMilliseconds : Int
  deriving DecidableEq

def InvitationCancellation.validate (c : InvitationCancellation) : Except SpacesError Unit :=
  refuseWhen (c.version ≠ schemaVersion ∨ c.retryID = uuidNil ∨ c.spaceID = uuidNil ∨
      c.invitationID = uuidNil ∨ c.cancelledAtMilliseconds < 0)
    .invalidInvitation "Shared Space invitation cancellation fields are invalid"

structure InvitationCancellationResult where
  acceptance : Acceptance
  (retryID spaceID invitationID : UUID)
  cancelledAtMilliseconds : Int

/-! ## Roles -/

structure ParticipantRoleChange where
  version : Int
  (retryID spaceID participantID : UUID)
  (previousRole nextRole : Role)
  changedAtMilliseconds : Int
  secureRosterAttestation : Option SecureRosterAttestation
  deriving DecidableEq

def ParticipantRoleChange.validate (c : ParticipantRoleChange) : Except SpacesError Unit :=
  refuseWhen (c.version ≠ schemaVersion ∨ c.retryID = uuidNil ∨ c.spaceID = uuidNil ∨
      c.participantID = uuidNil ∨ c.previousRole = c.nextRole ∨ c.changedAtMilliseconds < 0)
    .invalidParticipant "Shared Space participant role change fields are invalid"

structure ParticipantRoleChangeResult where
  acceptance : Acceptance
  (retryID spaceID participantID : UUID)
  (previousRole currentRole : Role)
  changedAtMilliseconds : Int

/-! ## Devices -/

structure ParticipantDeviceEnrollment where
  version : Int
  (retryID spaceID participantID : UUID)
  deviceKey : ParticipantDeviceKey
  keyGrant : Option ParticipantKeyGrant
  enrolledAtMilliseconds : Int
  secureRosterAttestation : Option SecureRosterAttestation
  deriving DecidableEq

namespace ParticipantDeviceEnrollment

def validate (e : ParticipantDeviceEnrollment) : Except SpacesError Unit := do
  refuseWhen (e.version ≠ schemaVersion ∨ e.retryID = uuidNil ∨ e.spaceID = uuidNil ∨
      e.participantID = uuidNil ∨ e.deviceKey.deviceID = uuidNil ∨ e.enrolledAtMilliseconds < 0 ∨
      e.deviceKey.createdAtMilliseconds < 0 ∨
      e.deviceKey.createdAtMilliseconds > e.enrolledAtMilliseconds ∨
      e.deviceKey.revokedAtMilliseconds ≠ none)
    .invalidParticipant "Shared Space participant device enrollment fields are invalid"
  refuseWhen (e.deviceKey.spaceID ≠ e.spaceID ∨ e.deviceKey.participantID ≠ e.participantID)
    .wrongScope "Shared Space participant device enrollment key has the wrong scope"
  match e.keyGrant with
  | none => pure ()
  | some grant => do
    grant.validate
    refuseWhen (grant.spaceID ≠ e.spaceID ∨ grant.participantID ≠ e.participantID ∨
        grant.recipientDeviceID ≠ e.deviceKey.deviceID ∨
        grant.recipientAgreementKeyFingerprint ≠ e.deviceKey.agreementKeyFingerprint ∨
        grant.createdAtMilliseconds < e.deviceKey.createdAtMilliseconds ∨
        grant.createdAtMilliseconds > e.enrolledAtMilliseconds)
      .wrongScope "Shared Space participant device enrollment grant has the wrong scope"
  match e.secureRosterAttestation with
  | none => pure ()
  | some attestation => do
    refuseWhen (attestation.spaceID ≠ e.spaceID)
      .wrongScope "Shared Space participant device enrollment roster has the wrong scope"
    refuseWhen (attestation.createdAtMilliseconds ≠ e.enrolledAtMilliseconds)
      .invalidParticipant "Shared Space participant device enrollment roster time is invalid"

def validateKeyGrant (e : ParticipantDeviceEnrollment) (mode : SecurityMode) (currentKeyEpoch : Nat)
    (participants : List FullParticipant) (nowMilliseconds : Int) : Except SpacesError Unit :=
  if mode = .managed then
    .error (.protocol .invalidParticipant
      "managed Shared Spaces do not enroll participant agreement-key devices")
  else
    match e.keyGrant with
    | none =>
      .error (.protocol .invalidParticipant
        "content-blind Shared Space device enrollment is missing its key grant")
    | some grant => do
      refuseWhen (grant.keyEpoch ≠ currentKeyEpoch)
        .wrongKeyEpoch "Shared Space participant device enrollment grant is not current"
      refuseWhen (grant.createdAtMilliseconds > nowMilliseconds)
        .invalidParticipant
        "Shared Space participant device enrollment grant was created in the future"
      match participants.find? (fun p =>
          p.participantID = grant.issuerParticipantID ∧ p.revokedAtMilliseconds = none) with
      | none =>
        .error (.protocol .unauthorized
          "Shared Space participant device enrollment grant issuer is not an active host or moderator")
      | some issuer =>
        refuseWhen (issuer.role.mayIssue = false ∨
            issuer.signingKey.matchesGrantSignature grant.signature = false)
          .unauthorized
          "Shared Space participant device enrollment grant issuer is not an active host or moderator"

end ParticipantDeviceEnrollment

structure ParticipantDeviceEnrollmentResult where
  acceptance : Acceptance
  (retryID spaceID participantID deviceID : UUID)
  currentKeyEpoch : Nat
  enrolledAtMilliseconds : Int

structure ParticipantDeviceRevocation where
  version : Int
  (retryID spaceID participantID deviceID : UUID)
  deviceKey : ParticipantDeviceKey
  (previousKeyEpoch nextKeyEpoch : Nat)
  keyGrants : List ParticipantKeyGrant
  secureRosterAttestation : Option SecureRosterAttestation

structure ParticipantRevocation where
  version : Int
  (retryID spaceID participantID : UUID)
  (previousKeyEpoch nextKeyEpoch : Nat)
  keyGrants : List ParticipantKeyGrant
  secureRosterAttestation : Option SecureRosterAttestation

/-- The grants of a request by whom they are addressed to; none if two share an address. -/
def grantsByTarget : List ParticipantKeyGrant → Option (GoMap GrantTarget ParticipantKeyGrant)
  | [] => some ∅
  | grant :: rest =>
    match grantsByTarget rest with
    | none => none
    | some grants =>
      if (grants.get? grant.target).isSome then none else some (grants.set grant.target grant)

/-- The grants of two requests are the same, in any order. -/
def sameGrants (left right : List ParticipantKeyGrant) : Bool :=
  left.length == right.length &&
    match grantsByTarget left with
    | none => false
    | some grants => right.all fun grant => grants.get? grant.target = some grant

/-- The active device keys of participants, by address. -/
def activeTargets (participants : List FullParticipant) : GoMap GrantTarget GoString :=
  participants.foldl (fun targets p =>
    (p.deviceKeys.getD []).foldl (fun targets key =>
      if key.active then targets.set ⟨p.participantID, key.deviceID⟩ key.agreementKeyFingerprint
      else targets) targets) ∅

/-- The signing keys of the participants that may issue grants. -/
def authorizedIssuers (participants : List FullParticipant) : GoMap UUID ParticipantSigningKey :=
  participants.foldl (fun issuers p =>
    if p.role.mayIssue then issuers.set p.participantID p.signingKey else issuers) ∅

namespace ParticipantDeviceRevocation

def validate (r : ParticipantDeviceRevocation) : Except SpacesError Unit := do
  refuseWhen (r.version ≠ schemaVersion ∨ r.retryID = uuidNil ∨ r.spaceID = uuidNil ∨
      r.participantID = uuidNil ∨ r.deviceID = uuidNil ∨ r.deviceKey.spaceID ≠ r.spaceID ∨
      r.deviceKey.participantID ≠ r.participantID ∨ r.deviceKey.deviceID ≠ r.deviceID ∨
      r.deviceKey.revokedAtMilliseconds = none ∨ r.previousKeyEpoch < initialKeyEpoch ∨
      r.nextKeyEpoch < r.previousKeyEpoch ∨ r.nextKeyEpoch > increment r.previousKeyEpoch)
    .invalidParticipant "Shared Space participant device revocation fields are invalid"
  refuseWhen (∃ a ∈ r.secureRosterAttestation,
      some a.createdAtMilliseconds ≠ r.deviceKey.revokedAtMilliseconds)
    .invalidParticipant "Shared Space participant device revocation roster time is invalid"

def validateDeviceKey {D : Type} (r : ParticipantDeviceRevocation) (participant : Participant D)
    (current : ParticipantDeviceKey) (nowMilliseconds : Int) : Except SpacesError Unit := do
  refuseWhen (current.revokedAtMilliseconds ≠ none ∨ r.deviceKey.revokedAtMilliseconds = none ∨
      (∃ t ∈ r.deviceKey.revokedAtMilliseconds, t > nowMilliseconds) ∨
      r.deviceKey.version ≠ current.version ∨ r.deviceKey.spaceID ≠ current.spaceID ∨
      r.deviceKey.participantID ≠ current.participantID ∨ r.deviceKey.deviceID ≠ current.deviceID ∨
      r.deviceKey.algorithm ≠ current.algorithm ∨
      r.deviceKey.agreementPublicKeyX963 ≠ current.agreementPublicKeyX963 ∨
      r.deviceKey.agreementKeyFingerprint ≠ current.agreementKeyFingerprint ∨
      r.deviceKey.createdAtMilliseconds ≠ current.createdAtMilliseconds)
    .wrongScope "Shared Space participant device revocation key differs from the enrolled device"
  r.deviceKey.validate participant

/-- The device that is revoked is not a target any more. -/
def remaining (r : ParticipantDeviceRevocation) (p : FullParticipant) : FullParticipant :=
  p.withKeys (p.deviceKeys.map fun keys => keys.filter fun key =>
    ¬ (p.participantID = r.participantID ∧ key.deviceID = r.deviceID))

/-- The loop over the grants; `seen` are the targets so far. -/
def validateGrants (r : ParticipantDeviceRevocation) (expectedTargets : GoMap GrantTarget GoString)
    (issuers : GoMap UUID ParticipantSigningKey) (nowMilliseconds : Int) (seen : List GrantTarget) :
    List ParticipantKeyGrant → Except SpacesError Unit
  | [] => .ok ()
  | grant :: rest => do
    grant.validate
    refuseWhen (grant.spaceID ≠ r.spaceID ∨
        expectedTargets.get? grant.target ≠ some grant.recipientAgreementKeyFingerprint)
      .wrongScope "Shared Space device revocation key grant does not target a remaining active device"
    refuseWhen (grant.keyEpoch ≠ r.nextKeyEpoch)
      .wrongKeyEpoch "Shared Space device revocation key grant is not for the next key epoch"
    refuseWhen (grant.createdAtMilliseconds > nowMilliseconds)
      .invalidParticipant "Shared Space device revocation key grant was created in the future"
    refuseWhen (∃ t ∈ r.deviceKey.revokedAtMilliseconds, grant.createdAtMilliseconds > t)
      .invalidParticipant "Shared Space device revocation key grant postdates revocation"
    refuseWhen ((issuers.get? grant.issuerParticipantID).all
        (fun key => !key.matchesGrantSignature grant.signature) = true)
      .unauthorized "Shared Space device revocation key grant issuer is not an active host or moderator"
    refuseWhen (grant.target ∈ seen)
      .invalidParticipant "Shared Space device revocation contains duplicate device key grants"
    validateGrants r expectedTargets issuers nowMilliseconds (grant.target :: seen) rest

def validateKeyGrants (r : ParticipantDeviceRevocation) (mode : SecurityMode)
    (participants : List FullParticipant) (nowMilliseconds : Int) : Except SpacesError Unit :=
  match mode with
  | .managed =>
    .error (.protocol .invalidParticipant
      "managed Shared Spaces do not revoke participant agreement-key devices")
  | .private =>
    refuseWhen (r.nextKeyEpoch ≠ r.previousKeyEpoch ∨ r.keyGrants ≠ [])
      .invalidParticipant
      "private Shared Space device revocation must retain its static key epoch without key grants"
  | .secure => do
    refuseWhen (r.nextKeyEpoch ≠ increment r.previousKeyEpoch)
      .invalidParticipant "secure Shared Space device revocation must advance its key epoch"
    refuseWhen (participants.any (·.spaceID ≠ r.spaceID) = true)
      .wrongScope "Shared Space participant belongs to another Space"
    let active := participants.filter (·.revokedAtMilliseconds = none)
    -- the last entry of the device decides, as in the loop
    refuseWhen (((active.filter (·.participantID = r.participantID)).flatMap (fun p =>
        (p.deviceKeys.getD []).filter (·.deviceID = r.deviceID))).getLast?.all
          (fun key => !key.active))
      .participantNotFound "active participant device was not found"
    let expectedTargets := activeTargets (active.map r.remaining)
    refuseWhen (r.keyGrants.length ≠ expectedTargets.len)
      .invalidParticipant
      "secure Shared Space device revocation does not grant the next key epoch to every remaining device"
    r.validateGrants expectedTargets (authorizedIssuers active) nowMilliseconds [] r.keyGrants

def equivalent (r other : ParticipantDeviceRevocation) : Bool :=
  r.version == other.version && r.retryID == other.retryID && r.spaceID == other.spaceID &&
    r.participantID == other.participantID && r.deviceID == other.deviceID &&
    r.deviceKey == other.deviceKey && r.previousKeyEpoch == other.previousKeyEpoch &&
    r.nextKeyEpoch == other.nextKeyEpoch &&
    r.secureRosterAttestation == other.secureRosterAttestation && sameGrants r.keyGrants other.keyGrants

end ParticipantDeviceRevocation

structure ParticipantDeviceRevocationResult where
  acceptance : Acceptance
  (retryID spaceID participantID deviceID : UUID)
  (previousKeyEpoch currentKeyEpoch : Nat)
  revokedAtMilliseconds : Int

namespace ParticipantRevocation

def validate (r : ParticipantRevocation) : Except SpacesError Unit :=
  refuseWhen (r.version ≠ schemaVersion ∨ r.retryID = uuidNil ∨ r.spaceID = uuidNil ∨
      r.participantID = uuidNil ∨ r.previousKeyEpoch < initialKeyEpoch ∨
      r.nextKeyEpoch < r.previousKeyEpoch ∨ r.nextKeyEpoch > increment r.previousKeyEpoch)
    .invalidParticipant "Shared Space participant revocation fields are invalid"

/-- The loop over the grants; `seen` are the targets so far. -/
def validateGrants (r : ParticipantRevocation) (active : List FullParticipant)
    (expectedTargets : GoMap GrantTarget GoString) (issuers : GoMap UUID ParticipantSigningKey)
    (nowMilliseconds : Int) (seen : List GrantTarget) :
    List ParticipantKeyGrant → Except SpacesError Unit
  | [] => .ok ()
  | grant :: rest => do
    grant.validate
    refuseWhen (grant.spaceID ≠ r.spaceID ∨ grant.participantID = r.participantID)
      .wrongScope "Shared Space revocation key grant scope differs"
    refuseWhen (grant.keyEpoch ≠ r.nextKeyEpoch)
      .wrongKeyEpoch "Shared Space revocation key grant is not for the next key epoch"
    refuseWhen (grant.createdAtMilliseconds > nowMilliseconds)
      .invalidParticipant "Shared Space revocation key grant was created in the future"
    refuseWhen (active.all (·.participantID ≠ grant.participantID) = true)
      .wrongScope "Shared Space revocation key grant targets an inactive participant"
    refuseWhen (expectedTargets.get? grant.target ≠ some grant.recipientAgreementKeyFingerprint)
      .wrongScope
      "Shared Space revocation key grant does not target an active participant device key"
    match issuers.get? grant.issuerParticipantID with
    | none =>
      .error (.protocol .unauthorized
        "Shared Space revocation key grant issuer is not an active host or moderator")
    | some key =>
      refuseWhen (key.matchesGrantSignature grant.signature = false)
        .unauthorized "Shared Space revocation key grant signature is not bound to its issuer"
    refuseWhen (grant.target ∈ seen)
      .invalidParticipant "Shared Space revocation contains duplicate participant device key grants"
    validateGrants r active expectedTargets issuers nowMilliseconds (grant.target :: seen) rest

def validateKeyGrants (r : ParticipantRevocation) (mode : SecurityMode)
    (participants : List FullParticipant) (nowMilliseconds : Int) : Except SpacesError Unit :=
  match mode with
  | .private =>
    refuseWhen (r.nextKeyEpoch ≠ r.previousKeyEpoch ∨ r.keyGrants ≠ [])
      .invalidParticipant
      "private Shared Space revocation must retain its static key epoch without key grants"
  | .managed =>
    refuseWhen (r.nextKeyEpoch ≠ increment r.previousKeyEpoch ∨ r.keyGrants ≠ [])
      .invalidParticipant
      "managed Shared Space revocation must rotate its key epoch without participant key grants"
  | .secure => do
    refuseWhen (r.nextKeyEpoch ≠ increment r.previousKeyEpoch)
      .invalidParticipant "secure Shared Space revocation must advance its key epoch"
    refuseWhen (participants.any (·.spaceID ≠ r.spaceID) = true)
      .wrongScope "Shared Space participant belongs to another Space"
    let active := participants.filter fun p =>
      p.revokedAtMilliseconds = none ∧ p.participantID ≠ r.participantID
    let expectedTargets := activeTargets active
    refuseWhen (r.keyGrants.length ≠ expectedTargets.len)
      .invalidParticipant
      "secure Shared Space revocation does not grant the next key epoch to every remaining participant device"
    r.validateGrants active expectedTargets (authorizedIssuers active) nowMilliseconds
      [] r.keyGrants

def equivalent (r other : ParticipantRevocation) : Bool :=
  r.version == other.version && r.retryID == other.retryID && r.spaceID == other.spaceID &&
    r.participantID == other.participantID && r.previousKeyEpoch == other.previousKeyEpoch &&
    r.nextKeyEpoch == other.nextKeyEpoch &&
    r.secureRosterAttestation == other.secureRosterAttestation && sameGrants r.keyGrants other.keyGrants

end ParticipantRevocation

structure ParticipantRevocationResult where
  acceptance : Acceptance
  (retryID spaceID participantID : UUID)
  (previousKeyEpoch currentKeyEpoch : Nat)
  revokedAtMilliseconds : Int

end FacetsNode.SharedSpaces
