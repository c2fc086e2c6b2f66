import FacetsNode.ComputePool.Binding
import FacetsNode.Lib.GoMap

/-!
# Signed records of a Compute Pool

The records of `computepool` that carry a signature or are named by their digest, with their
validation: pools and what is filed under them, the invocation authorization, the admission, the
transitions and receipts of a job, and the protection policy of a Space. As in `Binding`, every
failed check of the source is the same error, so validation is a Boolean.

The cryptography and the canonical encoding come in through a `Suite`. A record that is signed over
its own fields extends the structure of what is signed, so `signingPayload` is the projection.
-/

namespace FacetsNode.ComputePool

open Relay (UUID uuidNil uuidString)

def workerCardSchemaVersion : Int := 1
def maximumDisplayNameBytes : Nat := 512
def maximumDisplayNameRunes : Nat := 128
def maximumClaimValueBytes : Nat := 1024

def validDisplayName (value : GoString) : Bool :=
  Utf8.valid value && Utf8.trimmed value && value != [] &&
    value.length ≤ maximumDisplayNameBytes && Utf8.runeCount value ≤ maximumDisplayNameRunes

def validClaimValue (value : GoString) : Bool :=
  Utf8.valid value && Utf8.trimmed value && value != [] && value.length ≤ maximumClaimValueBytes

/-! ## Signatures -/

structure ES256Signature where
  algorithm : GoString
  signerID : UUID
  (publicSigningKeyX963 signingKeyFingerprint signature : GoString)
  deriving DecidableEq

structure Ed25519Signature where
  algorithm : GoString
  signerID : UUID
  (publicSigningKeyEd25519 signingKeyFingerprint signature : GoString)
  deriving DecidableEq

structure P256SigningAuthority where
  signerID : UUID
  signingKeyFingerprint : GoString

def P256SigningAuthority.validate (a : P256SigningAuthority) : Bool :=
  a.signerID != uuidNil && validSHA256Hex a.signingKeyFingerprint

def P256SigningAuthority.authorizes (a : P256SigningAuthority) (s : ES256Signature) : Bool :=
  a.signerID == s.signerID && a.signingKeyFingerprint == s.signingKeyFingerprint

def anyP256AuthorityAuthorizes (authorities : List P256SigningAuthority)
    (s : ES256Signature) : Bool :=
  authorities.any fun a => a.validate && a.authorizes s

/-! ## Pools, Workers and Offerings -/

structure Pool where
  version : Int
  (poolID ownerAuthorityID : UUID)
  authorityRevision : Nat
  (authorityManifestDigest displayName : GoString)
  enabled : Bool
  revision : Nat
  (createdAtMilliseconds updatedAtMilliseconds : Int)
  deriving DecidableEq

def Pool.validate (p : Pool) : Bool :=
  p.version == schemaVersion && p.poolID != uuidNil && p.ownerAuthorityID != uuidNil &&
    p.authorityRevision != 0 && p.revision != 0 && validSHA256Hex p.authorityManifestDigest &&
    validDisplayName p.displayName && validTimestamps p.createdAtMilliseconds p.updatedAtMilliseconds

structure WorkerEnrollment where
  version : Int
  (enrollmentID poolID workerID workerOwnerAuthorityID : UUID)
  (publicSigningKeyEd25519 signingKeyFingerprint : GoString)
  consentRevision : Nat
  enabled : Bool
  revision : Nat
  (createdAtMilliseconds updatedAtMilliseconds : Int)
  deriving DecidableEq

inductive AssuranceEvidenceKind where
  | facetsEnforced
  | configurationVerified
  | remotelyAttested
  | workerOperatorDeclared
  | externalProviderDeclared
  | unknown
  deriving DecidableEq

def assuranceDimensions : List GoString :=
  [goString "diagnostic_retention", goString "execution_isolation", goString "network_egress",
    goString "plaintext_location", goString "provider_identity", goString "request_retention",
    goString "result_retention", goString "runtime_integrity", goString "tool_access",
    goString "training_use"]

structure AssuranceClaim where
  (dimensionIdentifier value : GoString)
  evidenceKind : AssuranceEvidenceKind
  issuerIdentifier : GoString
  evidenceDigest : Option GoString
  validFromMilliseconds : Int
  expiresAtMilliseconds : Option Int
  revision : Nat
  deriving DecidableEq

def AssuranceClaim.validate (c : AssuranceClaim) : Bool :=
  validIdentifier c.dimensionIdentifier && validClaimValue c.value &&
    validIdentifier c.issuerIdentifier && c.evidenceDigest.all validSHA256Hex &&
    0 ≤ c.validFromMilliseconds && c.expiresAtMilliseconds.all (c.validFromMilliseconds < ·) &&
    c.revision != 0

structure WorkerCard where
  version : Int
  (workerCardID poolID workerEnrollmentID workerOwnerAuthorityID : UUID)
  (displayName runtimeIdentifier buildIdentifier : GoString)
  claims : List AssuranceClaim
  revision : Nat
  (createdAtMilliseconds updatedAtMilliseconds : Int)
  deriving DecidableEq

def WorkerCard.validate (c : WorkerCard) : Bool :=
  c.version == workerCardSchemaVersion && c.workerCardID != uuidNil && c.poolID != uuidNil &&
    c.workerEnrollmentID != uuidNil && c.workerOwnerAuthorityID != uuidNil &&
    validDisplayName c.displayName && validIdentifier c.runtimeIdentifier &&
    validIdentifier c.buildIdentifier && c.revision != 0 &&
    validTimestamps c.createdAtMilliseconds c.updatedAtMilliseconds &&
    c.claims.all AssuranceClaim.validate &&
    c.claims.map AssuranceClaim.dimensionIdentifier == assuranceDimensions

structure SignedWorkerCard where
  card : WorkerCard
  signature : Ed25519Signature
  deriving DecidableEq

inductive RetentionMode where
  | none
  | transientUntilCompletion
  | encryptedUntilDelivery
  | durationBound
  | providerPolicy
  | unknown
  deriving DecidableEq

structure RetentionPolicy where
  mode : RetentionMode
  maximumDurationMilliseconds : Option Nat
  deriving DecidableEq

def RetentionPolicy.validate (p : RetentionPolicy) : Bool :=
  (p.mode == .durationBound) == p.maximumDurationMilliseconds.isSome &&
    p.maximumDurationMilliseconds != some 0

structure DataHandlingProfile where
  plaintextBoundary : PlaintextBoundary
  networkEgress : NetworkEgress
  (requestRetention resultRetention diagnosticRetention : RetentionPolicy)
  trainingUse : TrainingUse
  toolAccess : ToolAccess
  providerIdentifier : GoString
  deriving DecidableEq

def DataHandlingProfile.validate (p : DataHandlingProfile) : Bool :=
  p.requestRetention.validate && p.resultRetention.validate && p.diagnosticRetention.validate &&
    validIdentifier p.providerIdentifier &&
    !(p.plaintextBoundary == .facetsManagedLocalRuntime && p.networkEgress != .none) &&
    !(p.plaintextBoundary == .externalProvider && p.networkEgress == .none)

inductive InteractionMode where
  | batch
  | streamedRequest
  | interactive
  deriving DecidableEq

def InteractionMode.text : InteractionMode → GoString
  | .batch => goString "batch"
  | .streamedRequest => goString "streamed_request"
  | .interactive => goString "interactive_session"

structure Offering where
  version : Int
  (offeringID poolID workerEnrollmentID workerCardID : UUID)
  workerCardRevision : Nat
  (workerCardDigest providerIdentifier : GoString)
  (modelIdentifiers allowedOperations : List GoString)
  interactionModes : List InteractionMode
  dataHandlingProfile : DataHandlingProfile
  pricingRevision : Nat
  resourceCeiling : ResourceCeiling
  enabled : Bool
  revision : Nat
  (createdAtMilliseconds updatedAtMilliseconds : Int)
  deriving DecidableEq

def Offering.validate (o : Offering) : Bool :=
  o.version == schemaVersion && o.offeringID != uuidNil && o.poolID != uuidNil &&
    o.workerEnrollmentID != uuidNil && o.workerCardID != uuidNil && o.workerCardRevision != 0 &&
    validSHA256Hex o.workerCardDigest && o.pricingRevision != 0 && o.revision != 0 &&
    validIdentifier o.providerIdentifier && validIdentifiers o.modelIdentifiers false &&
    validIdentifiers o.allowedOperations false &&
    validSortedEnum (o.interactionModes.map InteractionMode.text) &&
    o.dataHandlingProfile.validate &&
    o.dataHandlingProfile.providerIdentifier == o.providerIdentifier && o.resourceCeiling.validate &&
    validTimestamps o.createdAtMilliseconds o.updatedAtMilliseconds

/-! ## Jobs -/

/-- What an invocation authority signs. -/
structure InvocationAuthorizationPayload where
  version : Int
  (authorizationID requestID poolID workerCardID : UUID)
  workerCardRevision : Nat
  workerCardDigest : GoString
  offeringID : UUID
  offeringRevision : Nat
  (requestDigest payloadDigest disclosurePlanDigest : GoString)
  consentReceiptDigest : Option GoString
  authorizedPrivacyClass : PrivacyClass
  (authorizedAtMilliseconds expiresAtMilliseconds : Int)

structure InvocationAuthorization extends InvocationAuthorizationPayload where
  signature : ES256Signature

/-- What a pool authority signs to admit a job. -/
structure PoolAdmissionPayload where
  version : Int
  (admissionID jobID poolID invocationAuthorizationID : UUID)
  invocationAuthorizationDigest : GoString
  (workerEnrollmentID workerCardID : UUID)
  workerCardRevision : Nat
  workerCardDigest : GoString
  offeringID : UUID
  offeringRevision : Nat
  resourceCeiling : ResourceCeiling
  budgetCeiling : BudgetCeiling
  (admittedAtMilliseconds expiresAtMilliseconds leaseExpiresAtMilliseconds : Int)

structure PoolAdmission extends PoolAdmissionPayload where
  signature : ES256Signature

inductive JobState where
  | authorized
  | admitted
  | queued
  | leased
  | executing
  | retryWait
  | resultStaged
  | resultDelivered
  | resultApplied
  | completed
  | cancelRequested
  | cancelled
  | paused
  | failed
  | expired
  deriving DecidableEq

/-- What a pool authority signs to move a job. -/
structure PoolJobTransitionPayload where
  version : Int
  (transitionID jobID poolID : UUID)
  sequence : Nat
  predecessorDigest : Option GoString
  state : JobState
  evidenceDigest : Option GoString
  occurredAtMilliseconds : Int
  deriving DecidableEq

structure PoolJobTransition extends PoolJobTransitionPayload where
  signature : ES256Signature
  deriving DecidableEq

/-- What a Worker signs about an execution. -/
structure WorkerExecutionPayload where
  version : Int
  (receiptID jobID admissionID : UUID)
  admissionDigest : GoString
  workerEnrollmentID : UUID
  attempt : Nat
  (requestDigest resultDigest : GoString)
  (startedAtMilliseconds finishedAtMilliseconds : Int)
  deriving DecidableEq

structure WorkerExecutionReceipt extends WorkerExecutionPayload where
  signature : Ed25519Signature
  deriving DecidableEq

/-- What a device signs about applying a result. -/
structure ResultApplicationPayload where
  version : Int
  (receiptID jobID executionReceiptID : UUID)
  (executionReceiptDigest resultDigest applicationDigest : GoString)
  applyingDeviceID : UUID
  appliedAtMilliseconds : Int
  deriving DecidableEq

structure ResultApplicationReceipt extends ResultApplicationPayload where
  signature : ES256Signature
  deriving DecidableEq

/-! ## Protection policies -/

inductive SpaceSecurityProfile where
  | «private»
  | secure
  | managed
  deriving DecidableEq

structure SpaceProtectionCommitments where
  (sharing computation externalAgents localLLM privateInfrastructureLLM : PolicyControl)
  (externalProviderLLM exportCopy disclosureOverrides : PolicyControl)
  (sharedBrowserHistoryEnabled privateUserConfigurationsByDefault : Bool)
  deriving DecidableEq

structure PrivacyClassRule where
  privacyClass : PrivacyClass
  (publicSharing externalProcessing exportCopy : PolicyControl)
  rememberedConsentAllowed : Bool
  deriving DecidableEq

def PrivacyClassRule.validate (r : PrivacyClassRule) : Bool :=
  !(r.rememberedConsentAllowed &&
    (r.privacyClass == .confidential || r.privacyClass == .restricted))

structure SpaceProtectionPolicy where
  version : Int
  (policyID spaceID : UUID)
  sharedSpaceSecurityProfile : Option SpaceSecurityProfile
  revision : Nat
  predecessorDigest : Option GoString
  rules : List PrivacyClassRule
  commitments : SpaceProtectionCommitments
  createdAtMilliseconds : Int
  deriving DecidableEq

def SpaceProtectionPolicy.validate (p : SpaceProtectionPolicy) : Bool :=
  p.version == 1 && p.policyID != uuidNil && p.spaceID != uuidNil && p.revision != 0 &&
    (p.revision == 1) == p.predecessorDigest.isNone && p.predecessorDigest.all validSHA256Hex &&
    0 ≤ p.createdAtMilliseconds && p.rules.all PrivacyClassRule.validate &&
    p.rules.map PrivacyClassRule.privacyClass == privacyClasses &&
    !(p.sharedSpaceSecurityProfile.isSome && p.commitments.sharedBrowserHistoryEnabled)

structure SignedSpaceProtectionPolicy where
  policy : SpaceProtectionPolicy
  signature : ES256Signature

/-- What a participant signs to acknowledge a policy. -/
structure PolicyAcknowledgementPayload where
  version : Int
  (acknowledgementID spaceID policyID : UUID)
  policyRevision : Nat
  policyDigest : GoString
  participantID : UUID
  acknowledgedAtMilliseconds : Int

structure PolicyAcknowledgement extends PolicyAcknowledgementPayload where
  signature : ES256Signature

/-! ## Encoding and signature checks -/

/-- The values the source encodes canonically: what is signed, and what is named by its digest. -/
inductive Record where
  | workerCard (c : WorkerCard)
  | policy (p : SpaceProtectionPolicy)
  | acknowledgementPayload (a : PolicyAcknowledgementPayload)
  | authorizationPayload (a : InvocationAuthorizationPayload)
  | authorization (a : InvocationAuthorization)
  | admissionPayload (a : PoolAdmissionPayload)
  | admission (a : PoolAdmission)
  | transitionPayload (t : PoolJobTransitionPayload)
  | transition (t : PoolJobTransition)
  | executionPayload (r : WorkerExecutionPayload)
  | execution (r : WorkerExecutionReceipt)
  | applicationPayload (r : ResultApplicationPayload)
  | application (r : ResultApplicationReceipt)

/-- The canonical encoding and the library cryptography the checks are made with. -/
structure Suite where
  /-- `canonicalJSON`; `none` when it fails. -/
  canonicalJSON : Record → Option GoString
  sha256 : GoString → GoString
  /-- Whether `elliptic.Unmarshal` finds a point in these bytes. -/
  p256Key : GoString → Bool
  /-- `ecdsa.Verify` of a digest under a point, the signature being `r` and then `s`. -/
  ecdsaVerify : (publicKey digest signature : GoString) → Bool
  ed25519Verify : (publicKey message signature : GoString) → Bool

namespace Suite

variable (c : Suite)

/-- `canonicalDigest`. -/
def digest (r : Record) : Option GoString :=
  (c.canonicalJSON r).map fun encoded => Hex.encode (c.sha256 encoded)

def verifyES256 (s : ES256Signature) (payload : Record) (domain : GoString) : Bool :=
  match Base64Url.canonical s.publicSigningKeyX963, Base64Url.canonical s.signature,
    c.canonicalJSON payload with
  | some key, some signature, some encoded =>
    s.algorithm == goString "ES256" && s.signerID != uuidNil && signature.length == 64 &&
      c.p256Key key && Hex.encode (c.sha256 key) == s.signingKeyFingerprint &&
      c.ecdsaVerify key (c.sha256 (domain ++ encoded)) signature
  | _, _, _ => false

def verifyEd25519 (s : Ed25519Signature) (payload : Record) (domain : GoString) : Bool :=
  match Base64Url.canonical s.publicSigningKeyEd25519, Base64Url.canonical s.signature,
    c.canonicalJSON payload with
  | some key, some signature, some encoded =>
    s.algorithm == goString "Ed25519" && s.signerID != uuidNil && key.length == 32 &&
      signature.length == 64 && Hex.encode (c.sha256 key) == s.signingKeyFingerprint &&
      c.ed25519Verify key (domain ++ encoded) signature
  | _, _, _ => false

end Suite

variable (c : Suite)

def spacePolicyDomain : GoString := goString "Facets Space protection policy v1\x00"
def policyAcknowledgementDomain : GoString :=
  goString "Facets Space protection acknowledgement v1\x00"
def workerCardDomain : GoString := goString "Facets Compute Worker Card v1\x00"
def invocationAuthorizationDomain : GoString :=
  goString "Facets Compute invocation authorization v1\x00"
def poolAdmissionDomain : GoString := goString "Facets Compute Pool admission v1\x00"
def poolJobTransitionDomain : GoString := goString "Facets Compute Pool job transition v1\x00"
def workerExecutionDomain : GoString := goString "Facets Compute Worker execution receipt v1\x00"
def resultApplicationDomain : GoString :=
  goString "Facets Compute result application receipt v1\x00"

def WorkerEnrollment.validate (e : WorkerEnrollment) : Bool :=
  match Base64Url.canonical e.publicSigningKeyEd25519 with
  | none => false
  | some publicKey =>
    e.version == schemaVersion && e.enrollmentID != uuidNil && e.poolID != uuidNil &&
      e.workerID != uuidNil && e.workerOwnerAuthorityID != uuidNil && e.consentRevision != 0 &&
      e.revision != 0 && publicKey.length == 32 &&
      Hex.encode (c.sha256 publicKey) == e.signingKeyFingerprint &&
      validTimestamps e.createdAtMilliseconds e.updatedAtMilliseconds

def SignedWorkerCard.validate (s : SignedWorkerCard) (enrollment : WorkerEnrollment) : Bool :=
  s.card.validate && enrollment.validate c && s.signature.signerID == s.card.workerEnrollmentID &&
    enrollment.enrollmentID == s.card.workerEnrollmentID && enrollment.poolID == s.card.poolID &&
    enrollment.workerOwnerAuthorityID == s.card.workerOwnerAuthorityID &&
    enrollment.publicSigningKeyEd25519 == s.signature.publicSigningKeyEd25519 &&
    enrollment.signingKeyFingerprint == s.signature.signingKeyFingerprint && enrollment.enabled &&
    c.verifyEd25519 s.signature (.workerCard s.card) workerCardDomain

def InvocationAuthorization.validate (a : InvocationAuthorization) : Bool :=
  a.version == 1 && a.authorizationID != uuidNil && a.requestID != uuidNil && a.poolID != uuidNil &&
    a.workerCardID != uuidNil && a.offeringID != uuidNil && a.workerCardRevision != 0 &&
    a.offeringRevision != 0 && validSHA256Hex a.workerCardDigest && validSHA256Hex a.requestDigest &&
    validSHA256Hex a.payloadDigest && validSHA256Hex a.disclosurePlanDigest &&
    a.consentReceiptDigest.all validSHA256Hex && 0 ≤ a.authorizedAtMilliseconds &&
    a.authorizedAtMilliseconds < a.expiresAtMilliseconds &&
    c.verifyES256 a.signature (.authorizationPayload a.toInvocationAuthorizationPayload)
      invocationAuthorizationDomain

def PoolAdmission.validate (a : PoolAdmission) : Bool :=
  a.version == 1 && a.admissionID != uuidNil && a.jobID != uuidNil && a.poolID != uuidNil &&
    a.invocationAuthorizationID != uuidNil && a.workerEnrollmentID != uuidNil &&
    a.workerCardID != uuidNil && a.offeringID != uuidNil && a.workerCardRevision != 0 &&
    a.offeringRevision != 0 && validSHA256Hex a.invocationAuthorizationDigest &&
    validSHA256Hex a.workerCardDigest && a.resourceCeiling.validate && a.budgetCeiling.validate &&
    0 ≤ a.admittedAtMilliseconds && a.admittedAtMilliseconds < a.expiresAtMilliseconds &&
    a.admittedAtMilliseconds < a.leaseExpiresAtMilliseconds &&
    a.leaseExpiresAtMilliseconds ≤ a.expiresAtMilliseconds &&
    c.verifyES256 a.signature (.admissionPayload a.toPoolAdmissionPayload) poolAdmissionDomain

def PoolAdmission.validateAuthorization (a : PoolAdmission)
    (authorization : InvocationAuthorization) :
    Bool :=
  a.validate c && authorization.validate c &&
    authorization.authorizationID == a.invocationAuthorizationID && authorization.poolID == a.poolID &&
    authorization.workerCardID == a.workerCardID &&
    authorization.workerCardRevision == a.workerCardRevision &&
    authorization.workerCardDigest == a.workerCardDigest && authorization.offeringID == a.offeringID &&
    authorization.offeringRevision == a.offeringRevision &&
    authorization.authorizedAtMilliseconds ≤ a.admittedAtMilliseconds &&
    a.expiresAtMilliseconds ≤ authorization.expiresAtMilliseconds &&
    c.digest (.authorization authorization) == some a.invocationAuthorizationDigest

def PoolAdmission.validateInputRelease (a : PoolAdmission) (authorization : InvocationAuthorization)
    (signedWorkerCard : SignedWorkerCard) (enrollment : WorkerEnrollment) (offering : Offering)
    (expectedPoolAuthority : P256SigningAuthority)
    (permittedInvocationAuthorities : List P256SigningAuthority) (evaluatedAtMilliseconds : Int) :
    Bool :=
  a.validateAuthorization c authorization && signedWorkerCard.validate c enrollment &&
    expectedPoolAuthority.validate && expectedPoolAuthority.authorizes a.signature &&
    anyP256AuthorityAuthorizes permittedInvocationAuthorities authorization.signature &&
    a.admittedAtMilliseconds ≤ evaluatedAtMilliseconds &&
    authorization.authorizedAtMilliseconds ≤ evaluatedAtMilliseconds &&
    evaluatedAtMilliseconds < a.leaseExpiresAtMilliseconds &&
    evaluatedAtMilliseconds < a.expiresAtMilliseconds &&
    evaluatedAtMilliseconds < authorization.expiresAtMilliseconds &&
    enrollment.enrollmentID == a.workerEnrollmentID && enrollment.poolID == a.poolID &&
    enrollment.enabled && signedWorkerCard.card.workerCardID == a.workerCardID &&
    signedWorkerCard.card.revision == a.workerCardRevision &&
    c.digest (.workerCard signedWorkerCard.card) == some a.workerCardDigest &&
    offering.offeringID == a.offeringID && offering.poolID == a.poolID &&
    offering.workerEnrollmentID == a.workerEnrollmentID && offering.workerCardID == a.workerCardID &&
    offering.workerCardRevision == a.workerCardRevision &&
    offering.workerCardDigest == a.workerCardDigest && offering.revision == a.offeringRevision &&
    offering.enabled

def PoolJobTransition.validate (t : PoolJobTransition) : Bool :=
  t.version == 1 && t.transitionID != uuidNil && t.jobID != uuidNil && t.poolID != uuidNil &&
    t.sequence != 0 && (t.sequence == 1) == t.predecessorDigest.isNone &&
    t.predecessorDigest.all validSHA256Hex && t.evidenceDigest.all validSHA256Hex &&
    0 ≤ t.occurredAtMilliseconds &&
    c.verifyES256 t.signature (.transitionPayload t.toPoolJobTransitionPayload) poolJobTransitionDomain

def WorkerExecutionReceipt.validate (r : WorkerExecutionReceipt) : Bool :=
  r.version == 1 && r.receiptID != uuidNil && r.jobID != uuidNil && r.admissionID != uuidNil &&
    r.workerEnrollmentID != uuidNil && r.signature.signerID == r.workerEnrollmentID &&
    r.attempt != 0 && validSHA256Hex r.admissionDigest && validSHA256Hex r.requestDigest &&
    validSHA256Hex r.resultDigest && 0 ≤ r.startedAtMilliseconds &&
    r.startedAtMilliseconds ≤ r.finishedAtMilliseconds &&
    c.verifyEd25519 r.signature (.executionPayload r.toWorkerExecutionPayload) workerExecutionDomain

def WorkerExecutionReceipt.validateAdmission (r : WorkerExecutionReceipt)
    (admission : PoolAdmission)
    (authorization : InvocationAuthorization) (enrollment : WorkerEnrollment) : Bool :=
  r.validate c && r.jobID == admission.jobID && r.admissionID == admission.admissionID &&
    r.workerEnrollmentID == admission.workerEnrollmentID &&
    r.requestDigest == authorization.requestDigest && enrollment.validate c &&
    enrollment.enrollmentID == r.workerEnrollmentID && enrollment.poolID == admission.poolID &&
    enrollment.publicSigningKeyEd25519 == r.signature.publicSigningKeyEd25519 &&
    enrollment.signingKeyFingerprint == r.signature.signingKeyFingerprint && enrollment.enabled &&
    c.digest (.admission admission) == some r.admissionDigest &&
    admission.validateAuthorization c authorization

def ResultApplicationReceipt.validate (r : ResultApplicationReceipt) : Bool :=
  r.version == 1 && r.receiptID != uuidNil && r.jobID != uuidNil &&
    r.executionReceiptID != uuidNil && r.applyingDeviceID != uuidNil &&
    r.signature.signerID == r.applyingDeviceID && validSHA256Hex r.executionReceiptDigest &&
    validSHA256Hex r.resultDigest && validSHA256Hex r.applicationDigest &&
    0 ≤ r.appliedAtMilliseconds &&
    c.verifyES256 r.signature (.applicationPayload r.toResultApplicationPayload)
      resultApplicationDomain

def ResultApplicationReceipt.validateExecution (r : ResultApplicationReceipt)
    (execution : WorkerExecutionReceipt) : Bool :=
  execution.validate c && r.jobID == execution.jobID && r.executionReceiptID == execution.receiptID &&
    r.resultDigest == execution.resultDigest &&
    execution.finishedAtMilliseconds ≤ r.appliedAtMilliseconds &&
    c.digest (.execution execution) == some r.executionReceiptDigest

def SignedSpaceProtectionPolicy.validate (s : SignedSpaceProtectionPolicy) : Bool :=
  s.policy.validate && c.verifyES256 s.signature (.policy s.policy) spacePolicyDomain

def PolicyAcknowledgement.validate (a : PolicyAcknowledgement) : Bool :=
  a.version == 1 && a.acknowledgementID != uuidNil && a.spaceID != uuidNil && a.policyID != uuidNil &&
    a.policyRevision != 0 && validSHA256Hex a.policyDigest && a.participantID != uuidNil &&
    0 ≤ a.acknowledgedAtMilliseconds && a.signature.signerID == a.participantID &&
    c.verifyES256 a.signature (.acknowledgementPayload a.toPolicyAcknowledgementPayload)
      policyAcknowledgementDomain

/-! ## A suite to evaluate with -/

/-- A stand-in for the digests: the records of the samples have different numbers. -/
def sampleNumber : Record → UInt8
  | .transition t => UInt8.ofNat t.sequence
  | .execution r => 100 + UInt8.ofNat r.attempt
  | .application _ => 200
  | .authorization _ => 201
  | .admission _ => 202
  | .workerCard card => 210 + UInt8.ofNat card.revision
  | .policy p => 220 + UInt8.ofNat p.revision
  | _ => 0

/-- Every signature verifies, and a record is digested by its number. -/
def sampleSuite : Suite where
  canonicalJSON r := some [sampleNumber r]
  sha256 bytes := List.replicate 31 0 ++ [bytes.getLastD 0]
  p256Key _ := true
  ecdsaVerify _ _ _ := true
  ed25519Verify _ _ _ := true

/-- The digest with this number. -/
def sampleDigest (n : UInt8) : GoString := Hex.encode (List.replicate 31 0 ++ [n])

def sampleEd25519 (signerID : UUID) : Ed25519Signature where
  algorithm := goString "Ed25519"
  signerID := signerID
  publicSigningKeyEd25519 := List.replicate 43 65
  signingKeyFingerprint := sampleDigest 0
  signature := List.replicate 86 65

def sampleES256 (signerID : UUID) : ES256Signature where
  algorithm := goString "ES256"
  signerID := signerID
  publicSigningKeyX963 := List.replicate 43 65
  signingKeyFingerprint := sampleDigest 0
  signature := List.replicate 86 65

def sampleEnrollment : WorkerEnrollment where
  version := 2
  enrollmentID := 2
  poolID := 1
  workerID := 3
  workerOwnerAuthorityID := 4
  publicSigningKeyEd25519 := List.replicate 43 65
  signingKeyFingerprint := sampleDigest 0
  consentRevision := 1
  enabled := true
  revision := 1
  createdAtMilliseconds := 0
  updatedAtMilliseconds := 0

def sampleCard (revision : Nat) : SignedWorkerCard where
  card :=
    { version := 1, workerCardID := 5, poolID := 1, workerEnrollmentID := 2
      workerOwnerAuthorityID := 4, displayName := [87], runtimeIdentifier := [114]
      buildIdentifier := [98]
      claims := assuranceDimensions.map fun dimension =>
        ⟨dimension, [118], .unknown, [105], none, 0, none, 1⟩
      revision := revision, createdAtMilliseconds := 0, updatedAtMilliseconds := 0 }
  signature := sampleEd25519 2

def sampleOffering : Offering where
  version := 2
  offeringID := 6
  poolID := 1
  workerEnrollmentID := 2
  workerCardID := 5
  workerCardRevision := 1
  workerCardDigest := sampleDigest 211
  providerIdentifier := [112]
  modelIdentifiers := [[109]]
  allowedOperations := [[111]]
  interactionModes := [.batch]
  dataHandlingProfile :=
    { plaintextBoundary := .privateInfrastructure, networkEgress := .none
      requestRetention := ⟨.none, none⟩, resultRetention := ⟨.none, none⟩
      diagnosticRetention := ⟨.none, none⟩, trainingUse := .prohibited, toolAccess := .none
      providerIdentifier := [112] }
  pricingRevision := 1
  resourceCeiling := ⟨1, 1, 1, 1⟩
  enabled := true
  revision := 1
  createdAtMilliseconds := 0
  updatedAtMilliseconds := 0

end FacetsNode.ComputePool
