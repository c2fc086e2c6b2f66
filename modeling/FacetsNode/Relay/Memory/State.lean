import FacetsNode.Lib.Attempt
import FacetsNode.Lib.GoMap
import FacetsNode.Relay.Checkpoint

/-!
# The state of the memory store

`MemoryStore` with its tenants and domains, the credential checks in front of every operation, and
the capacity sums over a tenant's domains.

Pointers of the source are values here except where sharing matters. A stored message is reachable
from `messages`, from `messageByID` and from the `deletionMessages` of a checkpoint, and the only
thing written through these pointers is the message's acknowledgment map. So a message holds a
*reference* to its acknowledgments, and the domain holds the maps themselves.
-/

namespace FacetsNode.Relay

open Attempt

/-! ## Records -/

structure DomainKey where
  (tenantID domainID : UUID)
  deriving DecidableEq

/-- The position of an acknowledgment map among the domain's `acknowledgmentMaps`. -/
abbrev AcknowledgmentRef := Nat

structure MemoryMessage where
  message : Message
  byteCount : Int
  (publisherMember publisherSubscription : UUID)
  acknowledgments : AcknowledgmentRef
  checkpointFenceID : Option UUID
  deriving DecidableEq

namespace MemoryMessage

abbrev messageID (m : MemoryMessage) : UUID := m.message.envelope.messageID

abbrev sequence (m : MemoryMessage) : Nat := m.message.sequence

end MemoryMessage

structure MemoryFenceMessageTombstone where
  publisherMember : UUID
  digest : GoString
  sequence : Nat

structure MemorySubscriptionChange where
  subscriptionID : UUID
  request : SubscriptionStatusChangeRequest
  result : Subscription

structure MemorySubscriptionRebootstrapRequest where
  subscriptionID : UUID
  request : SubscriptionRebootstrapRequest
  expiresAtMilliseconds : Int
  result : Subscription

structure MemorySubscriptionRebootstrapRenewal where
  subscriptionID : UUID
  request : SubscriptionRebootstrapRenewal
  (previousExpiresAtMilliseconds expiresAtMilliseconds : Int)
  result : Subscription

structure MemorySubscriptionRebootstrapCancellation where
  subscriptionID : UUID
  request : SubscriptionRebootstrapCancellation
  result : Subscription

structure MemorySubscriptionRebootstrapCompletion where
  subscriptionID : UUID
  recoveryStartSequence : Nat
  request : SubscriptionRebootstrapCompletion
  result : Subscription

inductive RotationSubject where
  | administration
  | member
  deriving DecidableEq

structure MemoryCredentialRotation where
  subjectType : RotationSubject
  subjectID : UUID
  (previousAuthorizationDigest newAuthorizationDigest : GoString)
  rotatedAtMilliseconds : Int

structure MemoryMemberCapabilityChange where
  request : MemberCapabilityChange
  result : MemberCapabilityChangeResult

structure MemoryCheckpointFence where
  request : CheckpointFenceRequest
  state : CheckpointFenceState
  holderSubscriptionID : UUID
  deriving DecidableEq

structure MemoryFenceAbort where
  request : CheckpointFenceAbortRequest
  result : CheckpointFenceAbortResponse

inductive CheckpointState where
  | staged
  | activated
  | retired
  | invalidated
  deriving DecidableEq

structure MemoryCheckpoint where
  candidate : CheckpointCandidate
  candidateDigest : GoString
  publisherMemberID : UUID
  coveredThrough : Nat
  state : CheckpointState
  activationOrdinal : Nat
  activationRequest : CheckpointActivationRequest
  startSequence : Nat
  required : GoMap UUID Unit
  deletionMessages : GoMap UUID MemoryMessage
  deletionBlobs : GoMap GoString BlobMetadata

structure MemoryCheckpointActivation where
  checkpointID : UUID
  request : CheckpointActivationRequest
  result : CheckpointActivationResponse

structure MemoryCheckpointCollection where
  request : CheckpointCollectionRequest
  result : CheckpointCollectionResponse

structure MemoryBlobUpload where
  request : BlobUploadRequest
  status : BlobUploadStatus
  (subscriptionID publisherMemberID : UUID)
  chunks : GoMap Int BlobUploadChunkRequest

structure MemoryBlobUploadFinalization where
  request : BlobUploadFinalizationRequest
  result : BlobUploadFinalizationResponse

/-- `memoryDomain`, with the acknowledgment maps its messages refer to. The 64-bit counters are
numbers without a bound: `nextSequence` and `checkpointOrdinal` rise by one with a publication and an
activation, and the byte counts are of ciphertext in memory, which the limits (1 TiB by default) and
the memory itself hold far below `2 ^ 63`. -/
structure MemoryDomain where
  provisioningRetryID : UUID
  registration : DomainRegistration
  subscriptions : GoMap UUID Subscription
  subscriptionCreates : GoMap UUID SubscriptionCreateRequest := ∅
  subscriptionChanges : GoMap UUID MemorySubscriptionChange := ∅
  rebootstrapRequests : GoMap UUID MemorySubscriptionRebootstrapRequest := ∅
  rebootstrapRenewals : GoMap UUID MemorySubscriptionRebootstrapRenewal := ∅
  rebootstrapCancellations : GoMap UUID MemorySubscriptionRebootstrapCancellation := ∅
  rebootstrapCompletions : GoMap UUID MemorySubscriptionRebootstrapCompletion := ∅
  memberSubscriptions : GoMap UUID UUID
  admissionSubscriptions : GoMap UUID UUID := ∅
  members : GoMap UUID MemberRegistration
  admissions : GoMap UUID MemberAdmission := ∅
  messages : List MemoryMessage := []
  messageByID : GoMap UUID MemoryMessage := ∅
  acknowledgmentMaps : List (GoMap UUID AcknowledgmentStage) := []
  blobs : GoMap GoString BlobMetadata := ∅
  rotations : GoMap UUID MemoryCredentialRotation := ∅
  capabilityChanges : GoMap UUID MemoryMemberCapabilityChange := ∅
  nextSequence : Nat := 0
  messageBytes : Int := 0
  blobBytes : Int := 0
  checkpoints : GoMap UUID MemoryCheckpoint := ∅
  checkpointStageRetries : GoMap UUID UUID := ∅
  checkpointActivations : GoMap UUID MemoryCheckpointActivation := ∅
  checkpointCollections : GoMap UUID MemoryCheckpointCollection := ∅
  activatedCheckpoints : List UUID := []
  checkpointOrdinal : Nat := 0
  checkpointFences : GoMap UUID MemoryCheckpointFence := ∅
  checkpointFenceRetries : GoMap UUID UUID := ∅
  checkpointFenceAborts : GoMap UUID MemoryFenceAbort := ∅
  fenceMessageTombstones : GoMap UUID MemoryFenceMessageTombstone := ∅
  blobFenceIDs : GoMap GoString UUID := ∅
  blobUploads : GoMap UUID MemoryBlobUpload := ∅
  blobUploadCreates : GoMap UUID UUID := ∅
  blobUploadFinalizations : GoMap UUID MemoryBlobUploadFinalization := ∅
  reservedBlobCount : Int := 0
  reservedBlobBytes : Int := 0

structure MemoryTenantRotation where
  (previousAuthorizationDigest newAuthorizationDigest : GoString)
  rotatedAtMilliseconds : Int

structure MemoryTenant where
  registration : TenantRegistration
  rotations : GoMap UUID MemoryTenantRotation := ∅
  membershipRevocations : GoMap UUID TenantMembershipRevocation := ∅

/-- `MemoryStore`; its lock makes every operation one step. `checkpointFence` is in nanoseconds. -/
structure MemoryStore where
  tenants : GoMap UUID MemoryTenant := ∅
  domains : GoMap DomainKey MemoryDomain := ∅
  checkpointFence : Int

/-! ## Reading a domain -/

namespace MemoryDomain

/-- The acknowledgments of a message, through its reference. -/
def acknowledgmentsOf (d : MemoryDomain) (m : MemoryMessage) : GoMap UUID AcknowledgmentStage :=
  d.acknowledgmentMaps.getD m.acknowledgments ∅

/-- The last of `activatedCheckpoints`. -/
def latestCheckpointID (d : MemoryDomain) : Option UUID := d.activatedCheckpoints.getLast?

/-- `domain.checkpoints[domain.activatedCheckpoints[len-1]]`. -/
def latestCheckpoint (d : MemoryDomain) : Option MemoryCheckpoint :=
  d.latestCheckpointID.bind d.checkpoints.get?

def latestCheckpointStartCursor (d : MemoryDomain) : Option GoString :=
  match d.latestCheckpoint with
  | some checkpoint =>
    if checkpoint.state = .activated then some (encodeCursor checkpoint.startSequence) else none
  | none => none

/-- A message or blob of fence `id` may be read: there is no fence, or it was activated. -/
def fenceVisible (d : MemoryDomain) : Option UUID → Bool
  | none => true
  | some id =>
    match d.checkpointFences.get? id with
    | some fence => fence.state.status = .activated
    | none => false

/-- `readableMemberSubscription`: a member awaiting recovery may read and acknowledge. -/
def readableMemberSubscription (d : MemoryDomain) (memberID : UUID) :
    Except RelayError Subscription :=
  match d.memberSubscriptions.get? memberID with
  | none => .error (protocolError .invalidSubscription "member has no subscription")
  | some subscriptionID =>
    if subscriptionID = uuidNil then
      .error (protocolError .invalidSubscription "member has no subscription")
    else
      match d.subscriptions.get? subscriptionID with
      | none => .error (protocolError .subscriptionNotFound "subscription was not found")
      | some subscription =>
        if subscription.status ≠ .active ∧ subscription.status ≠ .rebootstrapRequired then
          .error (protocolError .invalidSubscription "subscription is not readable")
        else .ok subscription

def activeMemberSubscription (d : MemoryDomain) (memberID : UUID) :
    Except RelayError Subscription := do
  let subscription ← d.readableMemberSubscription memberID
  rejectWhen (subscription.status ≠ .active) .invalidSubscription "subscription is not active"
  .ok subscription

end MemoryDomain

/-! ## Authorization and capacity -/

namespace MemoryStore

/-- `NewMemoryStore`: a fence lifetime outside its bounds is replaced by the default. -/
def newMemoryStore (checkpointFenceTTL : Option Int) : MemoryStore :=
  let millisecond : Int := 1000000
  match checkpointFenceTTL with
  | some ttl =>
    if ttl ≥ minimumCheckpointFenceLifetimeMilliseconds * millisecond ∧
        ttl ≤ maximumCheckpointFenceLifetimeMilliseconds * millisecond then
      { checkpointFence := ttl }
    else { checkpointFence := defaultCheckpointFenceLifetimeMilliseconds * millisecond }
  | none => { checkpointFence := defaultCheckpointFenceLifetimeMilliseconds * millisecond }

/-- The store after a write through a domain pointer. -/
def setDomain (s : MemoryStore) (key : DomainKey) (d : MemoryDomain) : MemoryStore :=
  { s with domains := s.domains.set key d }

/-- The domains of one tenant. -/
def tenantDomains (s : MemoryStore) (tenantID : UUID) : List MemoryDomain :=
  (s.domains.pairs.filter (fun p => p.1.tenantID = tenantID)).map Prod.snd

/-- A sum over the domains of one tenant: `tenantUsageLocked` and the two
`tenantReservedBlob…Locked` loops. -/
def tenantSum (s : MemoryStore) (tenantID : UUID) (f : MemoryDomain → Int) : Int :=
  ((s.tenantDomains tenantID).map f).sum

def ensureTenantMessageCapacityLocked (s : MemoryStore) (tenantID : UUID) (additionalBytes : Int) :
    Except RelayError Unit :=
  match s.tenants.get? tenantID with
  | none => .error (protocolError .tenantNotFound "tenant was not found")
  | some tenant =>
    rejectWhen (tenant.registration.usesSharedCapacity = false ∧
        (s.tenantSum tenantID (fun d => d.messages.length) ≥
            tenant.registration.maximumAggregateMessageCount ∨
          additionalBytes > tenant.registration.maximumAggregateMessageByteCount -
            s.tenantSum tenantID (fun d => d.messageBytes)))
      .tenantFull "tenant reached its message or byte limit"

/-- `ensureTenantBlobCapacityLocked`: reservations count as if they were stored. -/
def ensureTenantBlobCapacityLocked (s : MemoryStore) (tenantID : UUID) (additionalBytes : Int) :
    Except RelayError Unit :=
  match s.tenants.get? tenantID with
  | none => .error (protocolError .tenantNotFound "tenant was not found")
  | some tenant =>
    rejectWhen (tenant.registration.usesSharedCapacity = false ∧
        (s.tenantSum tenantID (fun d => d.blobs.len) +
              s.tenantSum tenantID (fun d => d.reservedBlobCount) ≥
            tenant.registration.maximumAggregateBlobCount ∨
          additionalBytes > tenant.registration.maximumAggregateBlobByteCount -
            s.tenantSum tenantID (fun d => d.blobBytes) -
            s.tenantSum tenantID (fun d => d.reservedBlobBytes)))
      .tenantFull "tenant reached its blob or byte limit"

def authorizedDomain (s : MemoryStore) (credential : AdministrationCredential) :
    Except RelayError MemoryDomain :=
  match s.domains.get? ⟨credential.tenantID, credential.domainID⟩ with
  | none => .error (protocolError .domainNotFound "domain was not found")
  | some d => do
    d.registration.authorize credential
    .ok d

def authorizedMember (s : MemoryStore) (credential : Credential) (capability : Capability)
    (nowMilliseconds : Int) : Except RelayError MemoryDomain :=
  match s.domains.get? ⟨credential.tenantID, credential.domainID⟩ with
  | none => .error (protocolError .domainNotFound "domain was not found")
  | some d =>
    match d.members.get? credential.memberID with
    | none => .error (protocolError .memberNotFound "member was not found")
    | some member => do
      member.authorize credential capability nowMilliseconds
      .ok d

variable {α : Type}

/-- Run `body` on a domain, writing back whatever it leaves there: the source works through a
pointer, so an error does not undo the writes before it. -/
def onDomain (key : DomainKey) (found : Except RelayError MemoryDomain)
    (body : Attempt MemoryDomain RelayError α) : Attempt MemoryStore RelayError α := fun s =>
  match found with
  | .error e => (.error e, s)
  | .ok d => ((body d).1, s.setDomain key (body d).2)

/-- The body of an operation of the domain's administrator. -/
def asAdministrator (credential : AdministrationCredential)
    (body : Attempt MemoryDomain RelayError α) : Attempt MemoryStore RelayError α := fun s =>
  onDomain ⟨credential.tenantID, credential.domainID⟩ (s.authorizedDomain credential) body s

/-- The body of an operation of a member; `body` also sees the store, for the tenant-wide sums. -/
def asMember (credential : Credential) (capability : Capability) (nowMilliseconds : Int)
    (body : MemoryStore → Attempt MemoryDomain RelayError α) : Attempt MemoryStore RelayError α :=
  fun s =>
    onDomain ⟨credential.tenantID, credential.domainID⟩
      (s.authorizedMember credential capability nowMilliseconds) (body s) s

end MemoryStore

end FacetsNode.Relay
