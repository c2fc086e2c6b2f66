import FacetsNode.Lib.Encoding
import FacetsNode.Lib.Sha256
import FacetsNode.Relay.Errors

/-!
# Credentials, envelopes, cursors and uploads

The data the relay authenticates and stores, with the check each value must pass before it is
used. Identifiers are 128-bit words (`uuid.UUID`, the zero word being `uuid.Nil`); instants and byte
counts are integers; sequences are naturals. Tokens, digests, cursors and blob identifiers are Go
strings, because the relay compares and decodes them as such.
-/

namespace FacetsNode.Relay

/-! ## Identifiers and bytes -/

/-- `uuid.UUID`, its sixteen bytes read as one big-endian word. -/
abbrev UUID := BitVec 128

-- Membership of an identifier in a list is decided through this one instance everywhere.
instance : LawfulBEq UUID := inferInstance

/-- `uuid.Nil`. -/
def uuidNil : UUID := 0

/-- The sixteen bytes of an identifier. -/
def uuidBytes (id : UUID) : List UInt8 :=
  (List.range 16).map (fun i => UInt8.ofNat (id.toNat / 256 ^ (15 - i)))

/-- `UUID.String`: lower-case hexadecimal in groups of 8-4-4-4-12. -/
def uuidString (id : UUID) : GoString :=
  let cs := Hex.encode (uuidBytes id)
  cs.take 8 ++ 45 :: (cs.drop 8).take 4 ++ 45 :: (cs.drop 12).take 4 ++
    45 :: (cs.drop 16).take 4 ++ 45 :: cs.drop 20

theorem uuidBytes_injective : Function.Injective uuidBytes := by
  intro a b h
  have hdigit : ∀ k < 16, a.toNat / 256 ^ k % 256 = b.toNat / 256 ^ k % 256 := by
    intro k hk
    have hget := congrArg (fun l => l[15 - k]?.map UInt8.toNat) h
    have hlt : 15 - k < 16 := by omega
    have hpow : 15 - (15 - k) = k := by omega
    simpa [uuidBytes, hlt, hpow] using hget
  -- equal digits give equal remainders, and at sixteen digits the remainder is the number
  have hmod : ∀ n ≤ 16, a.toNat % 256 ^ n = b.toNat % 256 ^ n := by
    intro n hn
    induction n with
    | zero => simp [Nat.mod_one]
    | succ n ih => rw [Nat.mod_pow_succ, Nat.mod_pow_succ, ih (by omega), hdigit n (by omega)]
  have h16 := hmod 16 le_rfl
  apply BitVec.eq_of_toNat_eq
  have ha := a.isLt
  have hb := b.isLt
  norm_num at h16 ha hb
  omega

theorem uuidString_injective : Function.Injective uuidString := by
  intro a b h
  have hlen : ∀ id : UUID, (Hex.encode (uuidBytes id)).length = 32 := fun id => by
    rw [Hex.length_encode]
    rfl
  apply uuidBytes_injective
  apply Option.some.inj
  rw [← Hex.decode_encode, ← Hex.decode_encode]
  congr 1
  have hxl := hlen a
  have hyl := hlen b
  unfold uuidString at h
  generalize Hex.encode (uuidBytes a) = x at h hxl ⊢
  generalize Hex.encode (uuidBytes b) = y at h hyl ⊢
  simp only [List.append_assoc, List.cons_append] at h
  obtain ⟨h0, h⟩ := List.append_inj h (by simp [hxl, hyl])
  obtain ⟨h1, h⟩ := List.append_inj (List.cons.inj h).2 (by simp [hxl, hyl])
  obtain ⟨h2, h⟩ := List.append_inj (List.cons.inj h).2 (by simp [hxl, hyl])
  obtain ⟨h3, h⟩ := List.append_inj (List.cons.inj h).2 (by simp [hxl, hyl])
  have h4 := (List.cons.inj h).2
  have hsplit : ∀ l : GoString, l = l.take 8 ++ ((l.drop 8).take 4 ++ ((l.drop 12).take 4 ++
      ((l.drop 16).take 4 ++ l.drop 20))) := fun l => by
    have hcut : ∀ n m : Nat, (l.drop n).take m ++ l.drop (n + m) = l.drop n := fun n m => by
      rw [← List.drop_drop, List.take_append_drop]
    rw [hcut 16 4, hcut 12 4, hcut 8 4, List.take_append_drop]
  rw [hsplit x, hsplit y, h0, h1, h2, h3, h4]

/-! ## Limits -/

def schemaVersion : Int := 1
def envelopeAlgorithm : GoString := goString "HKDF-SHA256+A256GCM"
def maximumCiphertextByteCount : Nat := 16 * 1024 * 1024
def maximumBlobByteCount : Int := 256 * 1024 * 1024
def maximumPageSize : Int := 100
def absoluteMaximumMessageCount : Int := 1000000
def absoluteMaximumBlobCount : Int := 1000000
def absoluteMaximumMessageByteCount : Int := 1024 * 1024 * 1024 * 1024
def absoluteMaximumBlobByteCount : Int := 1024 * 1024 * 1024 * 1024
def maximumAdmissionLifetimeMilliseconds : Int := 7 * 24 * 60 * 60 * 1000
def maximumActiveMemberCountPerDomain : Nat := 256
def maximumRetainedMemberCountPerDomain : Nat := 4096
def maximumOutstandingAdmissionCount : Nat := 64
def maximumRetainedAdmissionCount : Nat := 4096
def maximumAdmissionCollectionBatch : Nat := 256
def admissionRecoveryWindowMilliseconds : Int := 30 * 24 * 60 * 60 * 1000
def maximumCredentialRotationsPerSubject : Nat := 256
def maximumCredentialRotationsPerDomain : Nat := 4096
def minimumAuthorizationTokenSize : Nat := 32

/-- The largest sequence a cursor may name. -/
def maximumSequence : Nat := 2 ^ 63 - 1

/-! ## Digests and texts -/

/-- `validDigest`: 32 bytes in lower-case hexadecimal. -/
def validDigest (value : GoString) : Bool :=
  value.length = 64 && value.map lowerByte = value &&
    (match Hex.decode value with
     | some bytes => bytes.length = 32
     | none => false)

/-- `constantTimeDigestEqual`: both texts decode, to the same bytes. -/
def constantTimeDigestEqual (lhs rhs : GoString) : Bool :=
  match Hex.decode lhs, Hex.decode rhs with
  | some l, some r => l = r
  | _, _ => false

def validBase64URLSize (value : GoString) (minimum maximum : Nat) : Bool :=
  match Base64Url.canonical value with
  | some bytes => minimum ≤ bytes.length ∧ bytes.length ≤ maximum
  | none => false

/-- `validateToken`, whose only outcome its callers look at is whether it failed. -/
def validToken (value : GoString) : Bool :=
  match Base64Url.canonical value with
  | some bytes => bytes.length = minimumAuthorizationTokenSize
  | none => false

def validateBlobID (value : GoString) : Except RelayError Unit :=
  match Base64Url.canonical value with
  | some bytes =>
    rejectWhen (bytes.length ≠ 32) .invalidBlob "blob identifier is invalid"
  | none => .error (protocolError .invalidBlob "blob identifier is invalid")

/-- The material of `scopedDigest` after its domain: fields separated by a zero byte, every field
but the last in lower case. -/
def scopedMaterial : List GoString → List UInt8
  | [] => []
  | [field] => field
  | field :: fields => field.map lowerByte ++ 0 :: scopedMaterial fields

def scopedDigest (domain : String) (fields : List GoString) : GoString :=
  Hex.encode (Sha256.sum (goString domain ++ 0 :: scopedMaterial fields))

/-! ## Cursors -/

def encodeCursor (sequence : Nat) : GoString := Base64Url.encode (beUint64 sequence)

def decodeCursor (cursor : GoString) : Except RelayError Nat :=
  if cursor = [] then .ok 0
  else
    match Base64Url.canonical cursor with
    | none => .error (protocolError .invalidCursor "cursor is invalid")
    | some bytes =>
      if bytes.length ≠ 8 then .error (protocolError .invalidCursor "cursor is invalid")
      else if readBeUint64 bytes > maximumSequence then
        .error (protocolError .invalidCursor "cursor is outside the supported range")
      else .ok (readBeUint64 bytes)

/-- `ValidateOpaqueCursor`: a cursor the relay carries without reading it. -/
def validateOpaqueCursor (cursor : GoString) : Except RelayError Unit :=
  rejectWhen (cursor = [] ∨ cursor.length > 4096 ∨
    cursor.any (fun c => c = 10 || c = 13 || c = 9 || c = 32) = true)
    .invalidCursor "cursor is invalid"

theorem encodeCursor_ne_empty (n : Nat) : encodeCursor n ≠ [] := by
  intro h
  have := Base64Url.decode_encode (beUint64 n)
  rw [show Base64Url.encode (beUint64 n) = [] from h] at this
  simp [Base64Url.decode, Base64Url.joinSextets, beUint64] at this

/-- Within the supported range a cursor names its sequence. -/
theorem decodeCursor_encodeCursor {n : Nat} (h : n ≤ maximumSequence) :
    decodeCursor (encodeCursor n) = .ok n := by
  have hn : n < 2 ^ 64 := lt_of_le_of_lt h (by decide)
  unfold decodeCursor
  rw [if_neg (encodeCursor_ne_empty n)]
  unfold encodeCursor
  rw [Base64Url.canonical_encode]
  simp only [length_beUint64, ne_eq, not_true_eq_false, if_false, readBeUint64_beUint64 hn,
    gt_iff_lt, not_lt.mpr h]

/-- What a cursor decodes to is in the supported range. -/
theorem decodeCursor_le {cursor : GoString} {n : Nat} (h : decodeCursor cursor = .ok n) :
    n ≤ maximumSequence := by
  unfold decodeCursor at h
  split at h
  · cases h; exact Nat.zero_le _
  · split at h
    · cases h
    · split at h
      · cases h
      · split at h
        · cases h
        · next hle => cases h; exact not_lt.mp hle

/-! ## Capabilities -/

/-- `Capability`. A text outside this list is refused where it enters the relay, so `Valid` holds of
every value here. -/
inductive Capability where
  | publishMessage
  | fetchMessage
  | acknowledgeMessage
  | publishBlob
  | fetchBlob
  | publishCheckpoint
  deriving DecidableEq

/-- The text of a capability, which is also what capabilities are ordered by. -/
def Capability.text : Capability → GoString
  | .publishMessage => goString "message_publish"
  | .fetchMessage => goString "message_fetch"
  | .acknowledgeMessage => goString "message_acknowledge"
  | .publishBlob => goString "blob_publish"
  | .fetchBlob => goString "blob_fetch"
  | .publishCheckpoint => goString "checkpoint_publish"

/-- `validCapabilities`: strictly increasing. -/
def validCapabilities : List Capability → Bool
  | [] => true
  | [_] => true
  | c :: d :: cs => decide (c.text < d.text) && validCapabilities (d :: cs)

/-! ## Credentials -/

structure Credential where
  (tenantID domainID memberID : UUID)
  token : GoString

structure AdministrationCredential where
  (tenantID domainID : UUID)
  token : GoString

structure AdmissionCredential where
  (tenantID domainID admissionID : UUID)
  token : GoString

/-- `AuthorizationDigest`; every caller turns its failure into a refusal of its own. -/
def authorizationDigest (credential : Credential) : Option GoString :=
  if credential.tenantID = uuidNil ∨ credential.domainID = uuidNil ∨
      credential.memberID = uuidNil ∨ validToken credential.token = false then none
  else some (scopedDigest "Facets replica relay member authorization v1"
    [uuidString credential.tenantID, uuidString credential.domainID,
     uuidString credential.memberID, credential.token])

def administrationDigest (credential : AdministrationCredential) : Option GoString :=
  if credential.tenantID = uuidNil ∨ credential.domainID = uuidNil ∨
      validToken credential.token = false then none
  else some (scopedDigest "Facets replica relay domain administration v1"
    [uuidString credential.tenantID, uuidString credential.domainID, credential.token])

def admissionAuthorizationDigest (credential : AdmissionCredential) : Option GoString :=
  if credential.tenantID = uuidNil ∨ credential.domainID = uuidNil ∨
      credential.admissionID = uuidNil ∨ validToken credential.token = false then none
  else some (scopedDigest "Facets replica relay member admission v1"
    [uuidString credential.tenantID, uuidString credential.domainID,
     uuidString credential.admissionID, credential.token])

/-- A presented credential's digest is the registered one. -/
def digestMatches (actual : Option GoString) (registered : GoString) : Bool :=
  match actual with
  | some digest => constantTimeDigestEqual digest registered
  | none => false

structure CredentialRotation where
  rotationID : UUID
  authorizationDigest : GoString

def CredentialRotation.validate (r : CredentialRotation) : Except RelayError Unit :=
  rejectWhen (r.rotationID = uuidNil ∨ validDigest r.authorizationDigest = false)
    .invalidCredentialRotation "credential rotation fields are invalid"

inductive Acceptance where
  | accepted
  | duplicate
  deriving DecidableEq

structure CredentialRotationResult where
  acceptance : Acceptance
  rotationID : UUID
  authorizationDigest : GoString
  rotatedAtMilliseconds : Int

structure AdmissionCollectionResult where
  collectedCount : Nat
  hasMore : Bool
  eligibleBeforeMilliseconds : Int

/-! ## Registrations -/

structure DomainRegistration where
  version : Int
  (tenantID domainID : UUID)
  administrationDigest : GoString
  (createdAtMilliseconds maximumMessageCount maximumMessageByteCount maximumBlobCount : Int)
  maximumBlobByteCount : Int
  deriving DecidableEq

namespace DomainRegistration

/-- An all-zero quota selects shared physical capacity. -/
def usesSharedCapacity (r : DomainRegistration) : Bool :=
  r.maximumMessageCount = 0 && r.maximumMessageByteCount = 0 && r.maximumBlobCount = 0 &&
    r.maximumBlobByteCount = 0

def withSharedCapacity (r : DomainRegistration) : DomainRegistration :=
  { r with maximumMessageCount := 0, maximumMessageByteCount := 0, maximumBlobCount := 0,
           maximumBlobByteCount := 0 }

def validate (r : DomainRegistration) : Except RelayError Unit :=
  if r.version ≠ schemaVersion ∨ r.tenantID = uuidNil ∨ r.domainID = uuidNil ∨
      validDigest r.administrationDigest = false ∨ r.createdAtMilliseconds < 0 then
    .error (protocolError .invalidDomain "domain fields are invalid")
  else
    rejectWhen (r.usesSharedCapacity = false ∧ (r.maximumMessageCount ≤ 0 ∨
        r.maximumMessageCount > absoluteMaximumMessageCount ∨ r.maximumBlobCount ≤ 0 ∨
        r.maximumMessageByteCount ≤ 0 ∨
        r.maximumMessageByteCount > absoluteMaximumMessageByteCount ∨
        r.maximumBlobCount > absoluteMaximumBlobCount ∨ r.maximumBlobByteCount ≤ 0 ∨
        r.maximumBlobByteCount > absoluteMaximumBlobByteCount))
      .invalidDomain "domain fields are invalid"

def authorize (r : DomainRegistration) (credential : AdministrationCredential) :
    Except RelayError Unit := do
  r.validate
  rejectWhen (credential.tenantID ≠ r.tenantID ∨ credential.domainID ≠ r.domainID)
    .wrongScope "administration credential belongs to another domain"
  rejectWhen (digestMatches (Relay.administrationDigest credential) r.administrationDigest = false)
    .unauthorized "administration credential is invalid"

end DomainRegistration

structure MemberRegistration where
  version : Int
  (tenantID domainID memberID : UUID)
  authorizationDigest : GoString
  capabilities : List Capability
  createdAtMilliseconds : Int
  (expiresAtMilliseconds revokedAtMilliseconds : Option Int)
  deriving DecidableEq

namespace MemberRegistration

def validate (r : MemberRegistration) : Except RelayError Unit := do
  rejectWhen (r.version ≠ schemaVersion ∨ r.tenantID = uuidNil ∨ r.domainID = uuidNil ∨
      r.memberID = uuidNil ∨ validDigest r.authorizationDigest = false ∨
      r.createdAtMilliseconds < 0 ∨ r.capabilities = [])
    .invalidMember "member fields are invalid"
  rejectWhen (validCapabilities r.capabilities = false)
    .invalidMember "member capabilities are invalid"
  rejectWhen (∃ t ∈ r.expiresAtMilliseconds, t ≤ r.createdAtMilliseconds)
    .invalidMember "member expiry is invalid"
  rejectWhen (∃ t ∈ r.revokedAtMilliseconds, t < r.createdAtMilliseconds)
    .invalidMember "member revocation is invalid"

def verifyCredential (r : MemberRegistration) (credential : Credential) (nowMilliseconds : Int) :
    Except RelayError Unit := do
  r.validate
  rejectWhen (credential.tenantID ≠ r.tenantID ∨ credential.domainID ≠ r.domainID ∨
      credential.memberID ≠ r.memberID)
    .wrongScope "member credential belongs to another scope"
  rejectWhen (nowMilliseconds < r.createdAtMilliseconds ∨
      ∃ t ∈ r.expiresAtMilliseconds, nowMilliseconds ≥ t)
    .memberExpired "member is not active"
  rejectWhen (∃ t ∈ r.revokedAtMilliseconds, nowMilliseconds ≥ t)
    .memberRevoked "member is revoked"
  rejectWhen (digestMatches (Relay.authorizationDigest credential) r.authorizationDigest = false)
    .unauthorized "member credential is invalid"

/-- The binary search of `Authorize` over the strictly increasing capabilities finds the first one
at or above the required one. -/
def authorize (r : MemberRegistration) (credential : Credential) (capability : Capability)
    (nowMilliseconds : Int) : Except RelayError Unit := do
  r.verifyCredential credential nowMilliseconds
  rejectWhen (r.capabilities.find? (fun c => decide (capability.text ≤ c.text)) ≠ some capability)
    .missingCapability "member lacks the required capability"

end MemberRegistration

structure MemberCapabilityChange where
  version : Int
  (retryID memberID : UUID)
  (previousCapabilities nextCapabilities : List Capability)
  changedAtMilliseconds : Int
  deriving DecidableEq

def MemberCapabilityChange.validate (c : MemberCapabilityChange) : Except RelayError Unit :=
  rejectWhen (c.version ≠ schemaVersion ∨ c.retryID = uuidNil ∨ c.memberID = uuidNil ∨
      c.changedAtMilliseconds < 0 ∨ c.previousCapabilities = [] ∨ c.nextCapabilities = [] ∨
      validCapabilities c.previousCapabilities = false ∨
      validCapabilities c.nextCapabilities = false ∨ c.previousCapabilities = c.nextCapabilities)
    .invalidMember "member capability change fields are invalid"

structure MemberCapabilityChangeResult where
  acceptance : Acceptance
  (retryID memberID : UUID)
  (previousCapabilities currentCapabilities : List Capability)
  changedAtMilliseconds : Int
  deriving DecidableEq

/-! ## Admissions -/

structure MemberAdmission where
  version : Int
  (tenantID domainID admissionID : UUID)
  authorizationDigest : GoString
  capabilities : List Capability
  (createdAtMilliseconds expiresAtMilliseconds : Int)
  (memberExpiresAtMilliseconds revokedAtMilliseconds claimedAtMilliseconds : Option Int)
  claimedMemberID : Option UUID
  deriving DecidableEq

namespace MemberAdmission

def validate (a : MemberAdmission) : Except RelayError Unit := do
  rejectWhen (a.version ≠ schemaVersion ∨ a.tenantID = uuidNil ∨ a.domainID = uuidNil ∨
      a.admissionID = uuidNil ∨ validDigest a.authorizationDigest = false ∨ a.capabilities = [] ∨
      a.createdAtMilliseconds < 0 ∨ a.expiresAtMilliseconds ≤ a.createdAtMilliseconds ∨
      a.expiresAtMilliseconds - a.createdAtMilliseconds > maximumAdmissionLifetimeMilliseconds)
    .invalidAdmission "admission fields are invalid"
  rejectWhen (validCapabilities a.capabilities = false)
    .invalidAdmission "admission capabilities are invalid"
  rejectWhen (∃ t ∈ a.memberExpiresAtMilliseconds, t ≤ a.expiresAtMilliseconds)
    .invalidAdmission "member expiry must follow admission expiry"
  rejectWhen (∃ t ∈ a.revokedAtMilliseconds, t < a.createdAtMilliseconds)
    .invalidAdmission "admission revocation is invalid"
  rejectWhen (a.claimedAtMilliseconds.isNone ≠ a.claimedMemberID.isNone)
    .invalidAdmission "admission claim state is incomplete"
  rejectWhen (∃ t ∈ a.claimedAtMilliseconds, t < a.createdAtMilliseconds ∨
      t ≥ a.expiresAtMilliseconds ∨ a.claimedMemberID = some uuidNil)
    .invalidAdmission "admission claim state is invalid"

def verifyCredential (a : MemberAdmission) (credential : AdmissionCredential) :
    Except RelayError Unit := do
  a.validate
  rejectWhen (credential.tenantID ≠ a.tenantID ∨ credential.domainID ≠ a.domainID ∨
      credential.admissionID ≠ a.admissionID)
    .wrongScope "admission credential belongs to another scope"
  rejectWhen
    (digestMatches (admissionAuthorizationDigest credential) a.authorizationDigest = false)
    .unauthorized "admission credential is invalid"

def requireActive (a : MemberAdmission) (nowMilliseconds : Int) : Except RelayError Unit := do
  rejectWhen (nowMilliseconds < a.createdAtMilliseconds ∨ nowMilliseconds ≥ a.expiresAtMilliseconds)
    .admissionExpired "admission is not active"
  rejectWhen (∃ t ∈ a.revokedAtMilliseconds, nowMilliseconds ≥ t)
    .admissionRevoked "admission is revoked"

end MemberAdmission

structure MemberAdmissionClaim where
  memberID : UUID
  authorizationDigest : GoString

def MemberAdmissionClaim.validate (c : MemberAdmissionClaim) : Except RelayError Unit :=
  rejectWhen (c.memberID = uuidNil ∨ validDigest c.authorizationDigest = false)
    .invalidMember "member claim fields are invalid"

structure AdmissionCreateResult where
  acceptance : Acceptance
  admission : MemberAdmission

/-! ## Envelopes and messages -/

structure Envelope where
  version : Int
  algorithm : GoString
  (tenantID domainID messageID publisherMemberID : UUID)
  keyEpoch : Nat
  createdAtMilliseconds : Int
  (nonce ciphertext authenticationTag : GoString)
  deriving DecidableEq

namespace Envelope

def validate (e : Envelope) : Except RelayError Unit := do
  rejectWhen (e.version ≠ schemaVersion ∨ e.algorithm ≠ envelopeAlgorithm ∨
      e.tenantID = uuidNil ∨ e.domainID = uuidNil ∨ e.messageID = uuidNil ∨
      e.publisherMemberID = uuidNil ∨ e.keyEpoch = 0 ∨ e.keyEpoch > maximumSequence ∨
      e.createdAtMilliseconds < 0)
    .invalidEnvelope "envelope fields are invalid"
  rejectWhen (validBase64URLSize e.nonce 12 12 = false ∨
      validBase64URLSize e.authenticationTag 16 16 = false ∨
      validBase64URLSize e.ciphertext 1 maximumCiphertextByteCount = false)
    .invalidEnvelope "envelope binary fields are invalid"

def validateForPublish (e : Envelope) (credential : Credential) : Except RelayError Unit := do
  e.validate
  rejectWhen (e.tenantID ≠ credential.tenantID ∨ e.domainID ≠ credential.domainID ∨
      e.publisherMemberID ≠ credential.memberID)
    .wrongScope "envelope and publisher scopes differ"

def ciphertextByteCount (e : Envelope) : Except RelayError Int := do
  e.validate
  match Base64Url.decode e.ciphertext with
  | some bytes => .ok bytes.length
  | none => .error (protocolError .invalidEnvelope "ciphertext encoding is invalid")

/-- A member of the canonical JSON object whose value is a text; the texts of a valid envelope need
no escaping. -/
def jsonText (key : String) (value : GoString) : GoString :=
  goString ("\"" ++ key ++ "\":\"") ++ value ++ goString "\""

/-- A member of the canonical JSON object whose value is a number. -/
def jsonNumber (key : String) (value : Int) : GoString :=
  goString ("\"" ++ key ++ "\":" ++ toString value)

/-- The JSON object `ReferenceDigest` hashes; `json.Marshal` orders the keys of a map. -/
def canonicalJSON (e : Envelope) : GoString :=
  goString "\x7b" ++ (goString ",").intercalate
    [jsonText "algorithm" e.algorithm, jsonText "authenticationTag" e.authenticationTag,
     jsonText "ciphertext" e.ciphertext,
     jsonNumber "createdAtMilliseconds" e.createdAtMilliseconds,
     jsonText "domainID" (uuidString e.domainID), jsonNumber "keyEpoch" e.keyEpoch,
     jsonText "messageID" (uuidString e.messageID), jsonText "nonce" e.nonce,
     jsonText "publisherMemberID" (uuidString e.publisherMemberID),
     jsonText "tenantID" (uuidString e.tenantID), jsonNumber "version" e.version] ++
    goString "\x7d"

def referenceDigest (e : Envelope) : Except RelayError GoString := do
  e.validate
  .ok (Hex.encode (Sha256.sum
    (goString "Facets replica relay envelope reference v1" ++ 0 :: e.canonicalJSON)))

end Envelope

inductive AcknowledgmentStage where
  | accepted
  | applied
  deriving DecidableEq

structure Message where
  sequence : Nat
  envelope : Envelope
  deriving DecidableEq

structure PublishResult where
  acceptance : Acceptance
  sequence : Nat

structure FetchResult where
  messages : List Message
  nextSequence : Nat

structure AcknowledgmentResult where
  acceptance : Acceptance
  stage : AcknowledgmentStage

/-! ## Blobs and uploads -/

structure BlobMetadata where
  (tenantID domainID : UUID)
  blobID : GoString
  publisherMemberID : UUID
  (byteCount createdAtMilliseconds : Int)

def BlobMetadata.validate (m : BlobMetadata) : Except RelayError Unit := do
  rejectWhen (m.tenantID = uuidNil ∨ m.domainID = uuidNil ∨ m.publisherMemberID = uuidNil ∨
      m.byteCount < 0 ∨ m.byteCount > maximumBlobByteCount ∨ m.createdAtMilliseconds < 0)
    .invalidBlob "blob metadata is invalid"
  validateBlobID m.blobID

structure BlobPublishResult where
  acceptance : Acceptance
  byteCount : Int
  deriving DecidableEq

/-- `ValidateBlobID(id) != nil`, where the caller answers with a text of its own. -/
def invalidBlobID (blobID : GoString) : Bool :=
  match validateBlobID blobID with
  | .ok _ => false
  | .error _ => true

structure BlobUploadRequest where
  (retryID uploadID : UUID)
  relayBlobID : GoString
  (byteCount createdAtMilliseconds : Int)
  deriving DecidableEq

def BlobUploadRequest.validate (r : BlobUploadRequest) : Except RelayError Unit := do
  rejectWhen (r.retryID = uuidNil ∨ r.uploadID = uuidNil ∨ r.byteCount < 0 ∨
      r.byteCount > maximumBlobByteCount ∨ r.createdAtMilliseconds < 0)
    .invalidBlobUpload "blob upload fields are invalid"
  rejectWhen (invalidBlobID r.relayBlobID = true)
    .invalidBlobUpload "blob upload identifier is invalid"

structure BlobUploadChunkRequest where
  uploadID : UUID
  (offset byteCount : Int)
  chunkSHA256 : GoString
  deriving DecidableEq

def BlobUploadChunkRequest.validate (r : BlobUploadChunkRequest) : Except RelayError Unit :=
  rejectWhen (r.uploadID = uuidNil ∨ r.offset < 0 ∨ r.byteCount ≤ 0 ∨
      validDigest r.chunkSHA256 = false)
    .invalidBlobUpload "blob upload chunk is invalid"

structure BlobUploadStatus where
  uploadID : UUID
  relayBlobID : GoString
  (byteCount committedOffset : Int)
  finalized : Bool
  (createdAtMilliseconds updatedAtMilliseconds : Int)

structure BlobUploadCreateResponse where
  acceptance : Acceptance
  retryID : UUID
  status : BlobUploadStatus

structure BlobUploadFinalizationRequest where
  (retryID uploadID : UUID)
  relayBlobID : GoString
  (byteCount finalizedAtMilliseconds : Int)
  deriving DecidableEq

def BlobUploadFinalizationRequest.validate (r : BlobUploadFinalizationRequest) :
    Except RelayError Unit := do
  rejectWhen (r.retryID = uuidNil ∨ r.uploadID = uuidNil ∨ r.byteCount < 0 ∨
      r.byteCount > maximumBlobByteCount ∨ r.finalizedAtMilliseconds < 0)
    .invalidBlobUpload "blob upload finalization is invalid"
  rejectWhen (invalidBlobID r.relayBlobID = true)
    .invalidBlobUpload "blob upload finalization identifier is invalid"

structure BlobUploadFinalizationResponse where
  acceptance : Acceptance
  (retryID uploadID : UUID)
  relayBlobID : GoString
  byteCount : Int
  deriving DecidableEq

end FacetsNode.Relay
