import FacetsNode.Relay.Memory.State

/-!
# Checkpoint fences

At most one subscription at a time holds a domain's fence. Everything it stores meanwhile is
attributed to the fence and stays unreadable until the fence is activated; an aborted or expired
fence takes all of it down again, leaving a tombstone for each message.

Expiry is lazy: `refreshMemoryFence` runs at the start of the operations that care, and what it
closes stays closed even when the operation then fails.
-/

namespace FacetsNode.Relay

open Attempt

/-- `int64` addition. -/
def addInt64 (a b : Int) : Int := Int.bmod (a + b) (2 ^ 64)

/-- `time.Duration.Milliseconds`. -/
def durationMilliseconds (nanoseconds : Int) : Int := nanoseconds.tdiv 1000000

namespace MemoryDomain

/-! ## Closing a fence -/

def invalidateMemoryFenceCandidate (d : MemoryDomain) (fenceID : UUID) : MemoryDomain :=
  { d with
    checkpoints := d.checkpoints.mapValues (fun checkpoint =>
      if checkpoint.candidate.fenceID = fenceID ∧ checkpoint.state = .staged then
        { checkpoint with
          state := .invalidated
          candidate :=
            { checkpoint.candidate with retainedMessageIDs := [], retainedBlobIDs := [] } }
      else checkpoint) }

/-- The messages a fence holds. -/
def fenceMessages (d : MemoryDomain) (fenceID : UUID) : List MemoryMessage :=
  d.messages.filter (fun m => m.checkpointFenceID = some fenceID)

/-- The entry of `fenceMessageTombstones` a removed message leaves behind. -/
def tombstoneOf (m : MemoryMessage) : Option (UUID × MemoryFenceMessageTombstone) :=
  match m.message.envelope.referenceDigest with
  | .ok digest => some (m.messageID, ⟨m.publisherMember, digest, m.sequence⟩)
  | .error _ => none

/-- The identifiers of the blobs a fence holds. -/
def fenceBlobIDs (d : MemoryDomain) (fenceID : UUID) : List GoString :=
  (d.blobFenceIDs.pairs.filter (fun p => p.2 = fenceID)).map Prod.fst

/-- The published blobs among a list of identifiers. -/
def blobsAmong (d : MemoryDomain) (ids : List GoString) : List (GoString × BlobMetadata) :=
  ids.filterMap (fun id => (d.blobs.get? id).map (fun blob => (id, blob)))

def cleanupMemoryFenceAuthority (d : MemoryDomain) (fenceID : UUID) : MemoryDomain :=
  let removed := d.fenceMessages fenceID
  let blobIDs := d.fenceBlobIDs fenceID
  { d with
    messages := d.messages.filter (fun m => m.checkpointFenceID ≠ some fenceID)
    fenceMessageTombstones := d.fenceMessageTombstones.setAll (removed.filterMap tombstoneOf)
    messageByID := d.messageByID.deleteAll (removed.map MemoryMessage.messageID)
    messageBytes := d.messageBytes - (removed.map MemoryMessage.byteCount).sum
    blobs := d.blobs.deleteAll blobIDs
    blobBytes := d.blobBytes - ((d.blobsAmong blobIDs).map (fun p => p.2.byteCount)).sum
    blobFenceIDs := d.blobFenceIDs.deleteAll blobIDs }

/-- `fence.state.Status = status`, through the pointer filed under `key`. -/
def setFenceStatus (d : MemoryDomain) (key : UUID) (fence : MemoryCheckpointFence)
    (status : CheckpointFenceStatus) : MemoryDomain :=
  { d with
    checkpointFences :=
      d.checkpointFences.set key { fence with state := { fence.state with status := status } } }

/-- An active fence ends without activation: its status, its candidate, everything it held. -/
def closeFence (d : MemoryDomain) (key : UUID) (fence : MemoryCheckpointFence)
    (status : CheckpointFenceStatus) (fenceID : UUID) : MemoryDomain :=
  ((d.setFenceStatus key fence status).invalidateMemoryFenceCandidate fenceID)
    |>.cleanupMemoryFenceAuthority fenceID

/-- One round of the loop in `refreshMemoryFence`. -/
def refreshOne (nowMilliseconds : Int) (d : MemoryDomain) (entry : UUID × MemoryCheckpointFence) :
    MemoryDomain :=
  if entry.2.state.status = .active ∧ nowMilliseconds ≥ entry.2.state.expiresAtMilliseconds then
    d.closeFence entry.1 entry.2 .expired entry.2.state.fenceID
  else d

def refreshMemoryFence (d : MemoryDomain) (nowMilliseconds : Int) : MemoryDomain :=
  d.checkpointFences.pairs.foldl (refreshOne nowMilliseconds) d

/-! ## Asking about fences -/

def memoryActiveFenceForSubscription (d : MemoryDomain) (subscriptionID : UUID) :
    Option MemoryCheckpointFence :=
  (d.checkpointFences.pairs.find? (fun p =>
    p.2.state.status = .active ∧ p.2.holderSubscriptionID = subscriptionID)).map Prod.snd

/-- `memoryFenceAllowsWrite`, which expires what is due first. -/
def memoryFenceAllowsWrite (subscriptionID : UUID) (nowMilliseconds : Int) :
    Attempt MemoryDomain RelayError Unit := do
  modify (·.refreshMemoryFence nowMilliseconds)
  let d ← get
  rejectIf (d.checkpointFences.pairs.any (fun p =>
      p.2.state.status = .active ∧ p.2.holderSubscriptionID ≠ subscriptionID) = true)
    (protocolError .checkpointFenceActive "another subscription holds the checkpoint fence")

def fenceResponse (fence : MemoryCheckpointFence) (retryID : UUID) (acceptance : Acceptance) :
    CheckpointFenceResponse :=
  ⟨acceptance, retryID, fence.state.fenceID, fence.state.boundaryCursor,
   fence.state.acquiredAtMilliseconds, fence.state.expiresAtMilliseconds⟩

/-! ## The operations -/

/-- The fence `CreateCheckpointFence` files. -/
def newFence (d : MemoryDomain) (request : CheckpointFenceRequest) (holder : UUID)
    (nowMilliseconds lifetime : Int) : MemoryCheckpointFence :=
  { request := request
    state :=
      { fenceID := request.fenceID
        status := .active
        boundaryCursor := encodeCursor d.nextSequence
        acquiredAtMilliseconds := nowMilliseconds
        expiresAtMilliseconds := addInt64 nowMilliseconds lifetime }
    holderSubscriptionID := holder }

def fileFence (d : MemoryDomain) (fence : MemoryCheckpointFence) : MemoryDomain :=
  { d with
    checkpointFences := d.checkpointFences.set fence.request.fenceID fence
    checkpointFenceRetries :=
      d.checkpointFenceRetries.set fence.request.retryID fence.request.fenceID }

def createCheckpointFence (memberID : UUID) (request : CheckpointFenceRequest)
    (nowMilliseconds lifetime : Int) : Attempt MemoryDomain RelayError CheckpointFenceResponse := do
  let d ← get
  let subscription ← ofExcept (d.activeMemberSubscription memberID)
  modify (·.refreshMemoryFence nowMilliseconds)
  let d ← get
  match d.checkpointFenceRetries.get? request.retryID with
  | some existingID =>
    match d.checkpointFences.get? existingID with
    | some existing =>
      if existing.request = request ∧
          existing.holderSubscriptionID = subscription.subscriptionID then
        pure (fenceResponse existing request.retryID .duplicate)
      else fail (protocolError .checkpointFenceCollision "fence retry ID was reused")
    | none => fail (protocolError .checkpointFenceCollision "fence retry ID was reused")
  | none => do
    rejectIf ((d.checkpointFences.get? request.fenceID).isSome = true)
      (protocolError .checkpointFenceCollision "fence ID was reused")
    rejectIf (d.checkpointFences.pairs.any (fun p => p.2.state.status = .active) = true)
      (protocolError .checkpointFenceActive "domain already has an active fence")
    let fence := d.newFence request subscription.subscriptionID nowMilliseconds lifetime
    modify (·.fileFence fence)
    pure (fenceResponse fence request.retryID .accepted)

def getCheckpointFence (memberID fenceID : UUID) (nowMilliseconds : Int) :
    Attempt MemoryDomain RelayError CheckpointFenceState := do
  let d ← get
  let subscription ← ofExcept (d.activeMemberSubscription memberID)
  modify (·.refreshMemoryFence nowMilliseconds)
  let d ← get
  match d.checkpointFences.get? fenceID with
  | none => fail (protocolError .checkpointFenceNotFound "fence was not found")
  | some fence => do
    rejectIf (fence.holderSubscriptionID ≠ subscription.subscriptionID)
      (protocolError .wrongScope "fence belongs to another subscription")
    pure fence.state

/-- The answer of `AbortCheckpointFence`, recorded under its retry identifier. -/
def recordFenceAbort (d : MemoryDomain) (request : CheckpointFenceAbortRequest)
    (result : CheckpointFenceAbortResponse) : MemoryDomain :=
  { d with
    checkpointFenceAborts := d.checkpointFenceAborts.set request.retryID ⟨request, result⟩ }

def abortCheckpointFence (memberID : UUID) (request : CheckpointFenceAbortRequest)
    (nowMilliseconds : Int) : Attempt MemoryDomain RelayError CheckpointFenceAbortResponse := do
  let d ← get
  let subscription ← ofExcept (d.activeMemberSubscription memberID)
  match d.checkpointFenceAborts.get? request.retryID with
  | some existing =>
    match d.checkpointFences.get? request.fenceID with
    | some fence =>
      if existing.request = request ∧ fence.holderSubscriptionID = subscription.subscriptionID then
        pure { existing.result with acceptance := .duplicate }
      else fail (protocolError .checkpointFenceCollision "fence abort retry ID was reused")
    | none => fail (protocolError .checkpointFenceCollision "fence abort retry ID was reused")
  | none => do
    modify (·.refreshMemoryFence nowMilliseconds)
    let d ← get
    match d.checkpointFences.get? request.fenceID with
    | none => fail (protocolError .checkpointFenceNotFound "fence was not found")
    | some fence => do
      rejectIf (fence.holderSubscriptionID ≠ subscription.subscriptionID)
        (protocolError .wrongScope "fence belongs to another subscription")
      rejectIf (fence.state.status ≠ .active)
        (protocolError .checkpointFenceCollision "fence is not active")
      let result : CheckpointFenceAbortResponse :=
        ⟨.accepted, request.retryID, request.fenceID, .aborted⟩
      modify (fun d =>
        (d.closeFence request.fenceID fence .aborted request.fenceID).recordFenceAbort
          request result)
      pure result

end MemoryDomain

namespace MemoryStore

def createCheckpointFence (credential : Credential) (request : CheckpointFenceRequest)
    (nowMilliseconds : Int) : Attempt MemoryStore RelayError CheckpointFenceResponse := do
  ofExcept request.validate
  rejectIf (request.requestedAtMilliseconds > nowMilliseconds)
    (protocolError .invalidCheckpointFence "fence request is in the future")
  asMember credential .publishCheckpoint nowMilliseconds (fun s =>
    MemoryDomain.createCheckpointFence credential.memberID request nowMilliseconds
      (durationMilliseconds s.checkpointFence))

def getCheckpointFence (credential : Credential) (fenceID : UUID) (nowMilliseconds : Int) :
    Attempt MemoryStore RelayError CheckpointFenceState :=
  asMember credential .publishCheckpoint nowMilliseconds (fun _ =>
    MemoryDomain.getCheckpointFence credential.memberID fenceID nowMilliseconds)

def abortCheckpointFence (credential : Credential) (request : CheckpointFenceAbortRequest)
    (nowMilliseconds : Int) : Attempt MemoryStore RelayError CheckpointFenceAbortResponse := do
  ofExcept request.validate
  rejectIf (request.abortedAtMilliseconds > nowMilliseconds)
    (protocolError .invalidCheckpointFence "fence abort is in the future")
  asMember credential .publishCheckpoint nowMilliseconds (fun _ =>
    MemoryDomain.abortCheckpointFence credential.memberID request nowMilliseconds)

end MemoryStore

end FacetsNode.Relay
