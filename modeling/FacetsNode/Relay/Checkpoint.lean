import Mathlib.Data.List.Sort
import FacetsNode.Relay.DataPlane

/-!
# Checkpoint requests and digests

Fences, candidates, activation, dry run and collection: the requests, what each must satisfy before
the store looks at it, and the two digests that commit to a candidate and to a collection plan.
-/

namespace FacetsNode.Relay

def maximumCheckpointCollectionCount : Int := 10000
def minimumCheckpointFenceLifetimeMilliseconds : Int := 5 * 60 * 1000
def defaultCheckpointFenceLifetimeMilliseconds : Int := 2 * 60 * 60 * 1000
def maximumCheckpointFenceLifetimeMilliseconds : Int := 24 * 60 * 60 * 1000

/-! ## Fences -/

inductive CheckpointFenceStatus where
  | active
  | activated
  | expired
  | aborted
  deriving DecidableEq

structure CheckpointFenceRequest where
  (retryID fenceID : UUID)
  requestedAtMilliseconds : Int
  deriving DecidableEq

def CheckpointFenceRequest.validate (r : CheckpointFenceRequest) : Except RelayError Unit :=
  rejectWhen (r.retryID = uuidNil ∨ r.fenceID = uuidNil ∨ r.requestedAtMilliseconds < 0)
    .invalidCheckpointFence "checkpoint fence request is invalid"

structure CheckpointFenceState where
  fenceID : UUID
  status : CheckpointFenceStatus
  boundaryCursor : GoString
  (acquiredAtMilliseconds expiresAtMilliseconds : Int)
  deriving DecidableEq

structure CheckpointFenceResponse where
  acceptance : Acceptance
  (retryID fenceID : UUID)
  boundaryCursor : GoString
  (acquiredAtMilliseconds expiresAtMilliseconds : Int)
  deriving DecidableEq

structure CheckpointFenceAbortRequest where
  (retryID fenceID : UUID)
  abortedAtMilliseconds : Int
  deriving DecidableEq

def CheckpointFenceAbortRequest.validate (r : CheckpointFenceAbortRequest) :
    Except RelayError Unit :=
  rejectWhen (r.retryID = uuidNil ∨ r.fenceID = uuidNil ∨ r.abortedAtMilliseconds < 0)
    .invalidCheckpointFence "checkpoint fence abort is invalid"

structure CheckpointFenceAbortResponse where
  acceptance : Acceptance
  (retryID fenceID : UUID)
  status : CheckpointFenceStatus
  deriving DecidableEq

/-! ## Candidates -/

structure CheckpointCandidate where
  version : Int
  (retryID checkpointID fenceID tenantID domainID publisherSubscriptionID : UUID)
  keyEpoch : Nat
  coveredThroughCursor : GoString
  retainedMessageIDs : List UUID
  retainedBlobIDs : List GoString
  createdAtMilliseconds : Int

/-- The loop over the retained messages: none is nil, and their texts increase strictly. -/
def canonicalMessageIDs : List UUID → Bool
  | [] => true
  | [id] => id ≠ uuidNil
  | id :: id' :: ids =>
    id ≠ uuidNil && decide (uuidString id < uuidString id') && canonicalMessageIDs (id' :: ids)

/-- The loop over the retained blobs: each is an identifier, and they increase strictly. -/
def canonicalBlobIDs : List GoString → Bool
  | [] => true
  | [id] => !invalidBlobID id
  | id :: id' :: ids => !invalidBlobID id && decide (id < id') && canonicalBlobIDs (id' :: ids)

def CheckpointCandidate.validate (c : CheckpointCandidate) : Except RelayError Unit := do
  rejectWhen (c.version ≠ schemaVersion ∨ c.retryID = uuidNil ∨ c.checkpointID = uuidNil ∨
      c.fenceID = uuidNil ∨ c.tenantID = uuidNil ∨ c.domainID = uuidNil ∨
      c.publisherSubscriptionID = uuidNil ∨ c.keyEpoch = 0 ∨ c.createdAtMilliseconds < 0 ∨
      invalidOpaqueCursor c.coveredThroughCursor = true)
    .invalidCheckpoint "checkpoint candidate fields are invalid"
  rejectWhen (canonicalMessageIDs c.retainedMessageIDs = false)
    .invalidCheckpoint "retained message IDs are not canonical"
  rejectWhen (canonicalBlobIDs c.retainedBlobIDs = false)
    .invalidCheckpoint "retained blob IDs are not canonical"

/-- `uint64(v)` of a signed integer. -/
def uint64OfInt (v : Int) : Nat := (v % 2 ^ 64).toNat

/-- `checkpointDigestString`: a text behind its length. -/
def checkpointDigestString (value : GoString) : List UInt8 :=
  beUint64 value.length ++ value

def checkpointCandidateDigest (c : CheckpointCandidate) : GoString :=
  Hex.encode (Sha256.sum
    (goString "Facets replica relay checkpoint candidate v1" ++ 0 ::
      beUint64 (uint64OfInt c.version) ++ uuidBytes c.retryID ++ uuidBytes c.checkpointID ++
      uuidBytes c.fenceID ++ uuidBytes c.tenantID ++ uuidBytes c.domainID ++
      uuidBytes c.publisherSubscriptionID ++ beUint64 c.keyEpoch ++
      checkpointDigestString c.coveredThroughCursor ++
      beUint64 c.retainedMessageIDs.length ++ c.retainedMessageIDs.flatMap uuidBytes ++
      beUint64 c.retainedBlobIDs.length ++ c.retainedBlobIDs.flatMap checkpointDigestString ++
      beUint64 (uint64OfInt c.createdAtMilliseconds)))

structure CheckpointStageResponse where
  acceptance : Acceptance
  (retryID checkpointID : UUID)

/-! ## Activation and collection -/

structure CheckpointActivationRequest where
  (retryID checkpointID : UUID)
  activatedAtMilliseconds : Int
  deriving DecidableEq

def CheckpointActivationRequest.validate (r : CheckpointActivationRequest) :
    Except RelayError Unit :=
  rejectWhen (r.retryID = uuidNil ∨ r.checkpointID = uuidNil ∨ r.activatedAtMilliseconds < 0)
    .invalidCheckpoint "checkpoint activation is invalid"

structure CheckpointActivationResponse where
  acceptance : Acceptance
  (retryID checkpointID : UUID)
  activatedAtMilliseconds : Int
  startCursor : GoString
  deriving DecidableEq

structure CheckpointDryRunResponse where
  checkpointID : UUID
  eligible : Bool
  (messageCount messageByteCount blobCount blobByteCount : Int)
  missingCustodySubscriptionIDs : List UUID
  planDigest : GoString

structure CheckpointCollectionRequest where
  (retryID checkpointID : UUID)
  planDigest : GoString
  (maximumMessageCount maximumBlobCount requestedAtMilliseconds : Int)
  deriving DecidableEq

def CheckpointCollectionRequest.validate (r : CheckpointCollectionRequest) :
    Except RelayError Unit :=
  rejectWhen (r.retryID = uuidNil ∨ r.checkpointID = uuidNil ∨ validDigest r.planDigest = false ∨
      r.maximumMessageCount < 0 ∨ r.maximumMessageCount > maximumCheckpointCollectionCount ∨
      r.maximumBlobCount < 0 ∨ r.maximumBlobCount > maximumCheckpointCollectionCount ∨
      (r.maximumMessageCount = 0 ∧ r.maximumBlobCount = 0) ∨ r.requestedAtMilliseconds < 0)
    .invalidCheckpoint "checkpoint collection is invalid"

structure CheckpointCollectionResponse where
  duplicate : Bool
  (retryID checkpointID : UUID)
  planDigest : GoString
  (deletedMessageCount deletedMessageByteCount deletedBlobCount deletedBlobByteCount : Int)
  completed : Bool
  deriving DecidableEq

structure CheckpointPlanMessage where
  sequence : Nat
  messageID : UUID
  byteCount : Int

structure CheckpointPlanBlob where
  blobID : GoString
  byteCount : Int

/-- Plan messages by sequence, then by the bytes of their identifier. -/
def CheckpointPlanMessage.le (m m' : CheckpointPlanMessage) : Prop :=
  m.sequence < m'.sequence ∨ (m.sequence = m'.sequence ∧ m.messageID.toNat ≤ m'.messageID.toNat)

instance : DecidableRel CheckpointPlanMessage.le := fun _ _ => inferInstanceAs (Decidable (_ ∨ _))

def CheckpointPlanMessage.bytes (m : CheckpointPlanMessage) : List UInt8 :=
  beUint64 m.sequence ++ uuidBytes m.messageID ++ beUint64 (uint64OfInt m.byteCount)

def CheckpointPlanBlob.bytes (b : CheckpointPlanBlob) : List UInt8 :=
  checkpointDigestString b.blobID ++ beUint64 (uint64OfInt b.byteCount)

def checkpointPlanDigest (tenantID domainID checkpointID : UUID) (activationOrdinal : Nat)
    (messages : List CheckpointPlanMessage) (blobs : List CheckpointPlanBlob) : GoString :=
  let messages := messages.insertionSort CheckpointPlanMessage.le
  let blobs := blobs.insertionSort (fun b b' => b.blobID ≤ b'.blobID)
  Hex.encode (Sha256.sum
    (goString "Facets replica relay checkpoint collection plan v1" ++ 0 ::
      uuidBytes tenantID ++ uuidBytes domainID ++ uuidBytes checkpointID ++
      beUint64 activationOrdinal ++
      beUint64 messages.length ++ messages.flatMap CheckpointPlanMessage.bytes ++
      beUint64 blobs.length ++ blobs.flatMap CheckpointPlanBlob.bytes))

end FacetsNode.Relay
