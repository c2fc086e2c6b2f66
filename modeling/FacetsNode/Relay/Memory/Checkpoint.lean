import Mathlib
import FacetsNode.Relay.Memory.Message

/-!
# Staging, activating and collecting checkpoints

A candidate is staged under the active fence and retains exactly what the fence's holder published
since the fence's boundary. Activation makes it the latest checkpoint and freezes two sets: the
subscriptions whose custody collection will require, and the messages and blobs it may delete.
Collection then deletes from the frozen sets, in batches, once every required subscription that is
still active has the messages.
-/

namespace FacetsNode.Relay

open Attempt

namespace MemoryDomain

/-! ## Stage -/

/-- `memoryCheckpointRegresses`, against the latest activated checkpoint if there is one. -/
def memoryCheckpointRegresses (candidate : CheckpointCandidate) (coveredThrough : Nat)
    (active : Option MemoryCheckpoint) : Bool :=
  match active with
  | none => false
  | some checkpoint =>
    decide (candidate.keyEpoch < checkpoint.candidate.keyEpoch) ||
      decide (coveredThrough < checkpoint.coveredThrough)

/-- The identifiers of what the fence's holder published past a boundary, in text order. -/
def fenceSuffix (d : MemoryDomain) (fence : MemoryCheckpointFence) (boundary : Nat) : List UUID :=
  ((d.messages.filter (fun m => m.publisherSubscription = fence.holderSubscriptionID ∧
      m.sequence > boundary)).map MemoryMessage.messageID).insertionSort
    (fun a b => uuidString a ≤ uuidString b)

def memoryFenceSuffixMatches (d : MemoryDomain) (fence : MemoryCheckpointFence)
    (retained : List UUID) : Bool :=
  match decodeCursor fence.state.boundaryCursor with
  | .ok boundary => d.fenceSuffix fence boundary = retained
  | .error _ => false

/-- The checkpoint `StageCheckpoint` files. -/
def stagedCheckpoint (candidate : CheckpointCandidate) (memberID : UUID) (coveredThrough : Nat) :
    MemoryCheckpoint :=
  { candidate := candidate
    candidateDigest := checkpointCandidateDigest candidate
    publisherMemberID := memberID
    coveredThrough := coveredThrough
    state := .staged
    activationOrdinal := 0
    activationRequest := ⟨uuidNil, uuidNil, 0⟩
    startSequence := 0
    required := ∅
    deletionMessages := ∅
    deletionBlobs := ∅ }

def fileCheckpoint (d : MemoryDomain) (checkpoint : MemoryCheckpoint) : MemoryDomain :=
  { d with
    checkpoints := d.checkpoints.set checkpoint.candidate.checkpointID checkpoint
    checkpointStageRetries := d.checkpointStageRetries.set checkpoint.candidate.retryID
      checkpoint.candidate.checkpointID }

def stageCheckpoint (memberID : UUID) (candidate : CheckpointCandidate) (coveredThrough : Nat)
    (nowMilliseconds : Int) : Attempt MemoryDomain RelayError CheckpointStageResponse := do
  let d ← get
  let subscription ← ofExcept (d.activeMemberSubscription memberID)
  rejectIf (subscription.subscriptionID ≠ candidate.publisherSubscriptionID ∨
      coveredThrough > d.nextSequence)
    (protocolError .invalidCheckpoint "checkpoint publisher or covered cursor is invalid")
  match d.checkpointStageRetries.get? candidate.retryID with
  | some existingID =>
    match d.checkpoints.get? existingID with
    | some existing =>
      if existing.candidateDigest = checkpointCandidateDigest candidate ∧
          existing.candidate.publisherSubscriptionID = subscription.subscriptionID then
        pure ⟨.duplicate, candidate.retryID, candidate.checkpointID⟩
      else fail (protocolError .checkpointCollision "checkpoint retry ID was reused")
    | none => fail (protocolError .checkpointCollision "checkpoint retry ID was reused")
  | none => do
    rejectIf (memoryCheckpointRegresses candidate coveredThrough d.latestCheckpoint = true)
      (protocolError .invalidCheckpoint
        "checkpoint candidate regresses the active checkpoint frontier")
    modify (·.refreshMemoryFence nowMilliseconds)
    let d ← get
    match d.checkpointFences.get? candidate.fenceID with
    | none =>
      fail (protocolError .invalidCheckpointFence
        "checkpoint candidate does not match an active fence")
    | some fence => do
      rejectIf (fence.state.status ≠ .active ∨ nowMilliseconds ≥ fence.state.expiresAtMilliseconds ∨
          fence.holderSubscriptionID ≠ subscription.subscriptionID ∨
          candidate.coveredThroughCursor ≠ fence.state.boundaryCursor)
        (protocolError .invalidCheckpointFence
          "checkpoint candidate does not match an active fence")
      rejectIf ((d.checkpoints.get? candidate.checkpointID).isSome = true)
        (protocolError .checkpointCollision "checkpoint ID was reused")
      rejectIf (d.memoryFenceSuffixMatches fence candidate.retainedMessageIDs = false)
        (protocolError .invalidCheckpoint
          "retained messages are not the exact fenced holder suffix")
      rejectIf (candidate.retainedBlobIDs.any (fun id => (d.blobs.get? id).isNone) = true)
        (protocolError .invalidCheckpoint "retained blob is missing")
      modify (·.fileCheckpoint (stagedCheckpoint candidate memberID coveredThrough))
      pure ⟨.accepted, candidate.retryID, candidate.checkpointID⟩

/-! ## Activate -/

/-- `memoryHasBoundRebootstrap`: a subscription awaiting recovery holds an active lease. -/
def memoryHasBoundRebootstrap (d : MemoryDomain) (nowMilliseconds : Int) : Bool :=
  d.rebootstrapRequests.pairs.any (fun p =>
    (∃ subscription ∈ d.subscriptions.get? p.2.subscriptionID,
      subscription.status = .rebootstrapRequired) ∧
    d.memoryRebootstrapRequestIsActive p.1 p.2 nowMilliseconds = true)

/-- The messages an activation keeps: those its candidate and the latest checkpoint retain. -/
def retainedMessages (d : MemoryDomain) (checkpoint : MemoryCheckpoint) : List UUID :=
  checkpoint.candidate.retainedMessageIDs ++
    ((d.latestCheckpoint.map (fun c => c.candidate.retainedMessageIDs)).getD [])

/-- The blobs an activation keeps. -/
def retainedBlobs (d : MemoryDomain) (checkpoint : MemoryCheckpoint) : List GoString :=
  checkpoint.candidate.retainedBlobIDs ++
    ((d.latestCheckpoint.map (fun c => c.candidate.retainedBlobIDs)).getD [])

/-- The messages an activation may delete: covered by the checkpoint and not kept. -/
def deletionSet (d : MemoryDomain) (checkpoint : MemoryCheckpoint) : List MemoryMessage :=
  d.messages.filter (fun m => m.sequence ≤ checkpoint.coveredThrough ∧
    m.messageID ∉ d.retainedMessages checkpoint)

/-- The checkpoint after its activation, with the sets it freezes. -/
def activatedCheckpoint (d : MemoryDomain) (checkpoint : MemoryCheckpoint)
    (request : CheckpointActivationRequest) : MemoryCheckpoint :=
  { checkpoint with
    required :=
      (d.subscriptions.filter (fun _ s => decide (s.status = .active))).mapValues (fun _ => ())
    deletionMessages :=
      (∅ : GoMap UUID MemoryMessage).setAll
        ((d.deletionSet checkpoint).map (fun m => (m.messageID, m)))
    deletionBlobs := d.blobs.filter (fun id _ => decide (id ∉ d.retainedBlobs checkpoint))
    startSequence := checkpoint.coveredThrough
    activationOrdinal := d.checkpointOrdinal + 1
    activationRequest := request
    state := .activated }

/-- A checkpoint two activations back: its sets are dropped. -/
def retiredCheckpoint (checkpoint : MemoryCheckpoint) : MemoryCheckpoint :=
  { checkpoint with
    state := .retired
    candidate := { checkpoint.candidate with retainedMessageIDs := [], retainedBlobIDs := [] }
    required := ∅
    deletionMessages := ∅
    deletionBlobs := ∅ }

/-- The checkpoint an activation retires: the third from the end, once there are three. -/
def retireThirdLast (activated : List UUID) (checkpoints : GoMap UUID MemoryCheckpoint) :
    GoMap UUID MemoryCheckpoint :=
  match activated.reverse with
  | _ :: _ :: retiredID :: _ =>
    match checkpoints.get? retiredID with
    | some retired => checkpoints.set retiredID (retiredCheckpoint retired)
    | none => checkpoints
  | _ => checkpoints

def fileActivation (d : MemoryDomain) (checkpoint : MemoryCheckpoint)
    (fence : MemoryCheckpointFence) (request : CheckpointActivationRequest)
    (result : CheckpointActivationResponse) : MemoryDomain :=
  { d.setFenceStatus checkpoint.candidate.fenceID fence .activated with
    checkpoints := retireThirdLast (d.activatedCheckpoints ++ [request.checkpointID])
      (d.checkpoints.set request.checkpointID (d.activatedCheckpoint checkpoint request))
    checkpointOrdinal := d.checkpointOrdinal + 1
    activatedCheckpoints := d.activatedCheckpoints ++ [request.checkpointID]
    checkpointActivations := d.checkpointActivations.set request.retryID
      ⟨request.checkpointID, request, result⟩ }

def activateCheckpoint (request : CheckpointActivationRequest) (nowMilliseconds : Int) :
    Attempt MemoryDomain RelayError CheckpointActivationResponse := do
  let d ← get
  match d.checkpointActivations.get? request.retryID with
  | some existing =>
    if existing.checkpointID = request.checkpointID ∧ existing.request = request then
      pure { existing.result with acceptance := .duplicate }
    else fail (protocolError .checkpointCollision "checkpoint activation retry ID was reused")
  | none =>
    match d.checkpoints.get? request.checkpointID with
    | none => fail (protocolError .checkpointNotFound "checkpoint was not found")
    | some _ => do
      modify (·.refreshMemoryFence nowMilliseconds)
      let d ← get
      -- The refresh may have invalidated the candidate behind the pointer; read it again.
      match d.checkpoints.get? request.checkpointID with
      | none => fail (protocolError .checkpointNotFound "checkpoint was not found")
      | some checkpoint => do
        let fence := d.checkpointFences.get? checkpoint.candidate.fenceID
        if checkpoint.state ≠ .staged ∨
            request.activatedAtMilliseconds < checkpoint.candidate.createdAtMilliseconds ∨
            request.activatedAtMilliseconds > nowMilliseconds then
          if ∃ f ∈ fence, f.state.status = .expired ∨ f.state.status = .aborted then
            fail (protocolError .invalidCheckpointFence
              "checkpoint fence is no longer activatable")
          else
            fail (protocolError .checkpointCollision
              "checkpoint was already activated or activation time is invalid")
        else do
          rejectIf (memoryCheckpointRegresses checkpoint.candidate checkpoint.coveredThrough
              d.latestCheckpoint = true)
            (protocolError .invalidCheckpoint
              "checkpoint candidate regresses the active checkpoint frontier")
          match fence with
          | none =>
            fail (protocolError .invalidCheckpointFence
              "checkpoint fence is no longer activatable")
          | some fence => do
            rejectIf (fence.state.status ≠ .active ∨
                d.memoryFenceSuffixMatches fence checkpoint.candidate.retainedMessageIDs = false)
              (protocolError .invalidCheckpointFence
                "checkpoint fence is no longer activatable")
            rejectIf (d.memoryHasBoundRebootstrap nowMilliseconds = true)
              (protocolError .checkpointNotEligible
                "checkpoint activation is blocked by an active client-authorized recovery")
            let result : CheckpointActivationResponse :=
              ⟨.accepted, request.retryID, request.checkpointID, request.activatedAtMilliseconds,
               encodeCursor checkpoint.coveredThrough⟩
            modify (·.fileActivation checkpoint fence request result)
            pure result

/-! ## Dry run -/

def memoryRebootstrapCompletionCovers (d : MemoryDomain) (subscriptionID : UUID)
    (sequence : Nat) : Bool :=
  d.rebootstrapCompletions.pairs.any (fun p =>
    p.2.subscriptionID = subscriptionID ∧ p.2.recoveryStartSequence ≥ sequence)

/-- The subscription has custody of the message: it published it, recovered past it, or has a
receipt for it. -/
def hasCustody (d : MemoryDomain) (subscriptionID : UUID) (m : MemoryMessage) : Bool :=
  decide (m.publisherSubscription = subscriptionID) ||
    d.memoryRebootstrapCompletionCovers subscriptionID m.sequence ||
    ((d.acknowledgmentsOf m).get? subscriptionID).isSome

/-- The required subscriptions, still active, that lack custody of some message to be deleted. -/
def missingCustody (d : MemoryDomain) (checkpoint : MemoryCheckpoint) : List UUID :=
  ((checkpoint.required.pairs.map Prod.fst).filter (fun id =>
    (∃ subscription ∈ d.subscriptions.get? id, subscription.status = .active) ∧
    checkpoint.deletionMessages.pairs.any (fun p => !d.hasCustody id p.2) = true)).insertionSort
      (fun a b => uuidString a ≤ uuidString b)

def memoryCheckpointPlan (d : MemoryDomain) (checkpointID : UUID) :
    Except RelayError CheckpointDryRunResponse :=
  match d.checkpoints.get? checkpointID with
  | none => .error (protocolError .checkpointNotFound "checkpoint was not found")
  | some checkpoint => do
    rejectWhen (checkpoint.state ≠ .activated ∨ d.latestCheckpointID ≠ some checkpointID)
      .checkpointNotEligible "only the latest activated checkpoint is collectable"
    let messages := checkpoint.deletionMessages.pairs.map Prod.snd
    let blobs := checkpoint.deletionBlobs.pairs.map Prod.snd
    .ok
      { checkpointID := checkpointID
        eligible := (d.missingCustody checkpoint).isEmpty
        messageCount := messages.length
        messageByteCount := (messages.map MemoryMessage.byteCount).sum
        blobCount := blobs.length
        blobByteCount := (blobs.map BlobMetadata.byteCount).sum
        missingCustodySubscriptionIDs := d.missingCustody checkpoint
        planDigest := checkpointPlanDigest checkpoint.candidate.tenantID
          checkpoint.candidate.domainID checkpointID checkpoint.activationOrdinal
          (messages.map (fun m => ⟨m.sequence, m.messageID, m.byteCount⟩))
          (blobs.map (fun b => ⟨b.blobID, b.byteCount⟩)) }

/-! ## Collect -/

/-- The batch of messages a collection deletes: oldest first. -/
def collectedMessages (checkpoint : MemoryCheckpoint) (maximum : Nat) : List MemoryMessage :=
  ((checkpoint.deletionMessages.pairs.map Prod.snd).insertionSort
    (fun a b => a.sequence ≤ b.sequence)).take maximum

/-- The batch of blobs a collection deletes: in the order of their identifiers. -/
def collectedBlobs (checkpoint : MemoryCheckpoint) (maximum : Nat) :
    List (GoString × BlobMetadata) :=
  (checkpoint.deletionBlobs.pairs.insertionSort (fun a b => a.1 ≤ b.1)).take maximum

/-- The checkpoint once the batches are gone from its frozen sets. -/
def collectedCheckpoint (checkpoint : MemoryCheckpoint) (messages : List MemoryMessage)
    (blobs : List (GoString × BlobMetadata)) : MemoryCheckpoint :=
  { checkpoint with
    deletionMessages :=
      checkpoint.deletionMessages.deleteAll (messages.map MemoryMessage.messageID)
    deletionBlobs := checkpoint.deletionBlobs.deleteAll (blobs.map Prod.fst) }

/-- The domain once the batches are deleted. -/
def deleteCollected (d : MemoryDomain) (checkpointID : UUID) (checkpoint : MemoryCheckpoint)
    (messages : List MemoryMessage) (blobs : List (GoString × BlobMetadata)) : MemoryDomain :=
  { d with
    messageByID := d.messageByID.deleteAll (messages.map MemoryMessage.messageID)
    messageBytes := d.messageBytes - (messages.map MemoryMessage.byteCount).sum
    messages :=
      d.messages.filter (fun m => m.messageID ∉ messages.map MemoryMessage.messageID)
    blobs := d.blobs.deleteAll (blobs.map Prod.fst)
    blobBytes := d.blobBytes - (blobs.map (fun p => p.2.byteCount)).sum
    checkpoints := d.checkpoints.set checkpointID (collectedCheckpoint checkpoint messages blobs) }

def recordCollection (d : MemoryDomain) (request : CheckpointCollectionRequest)
    (result : CheckpointCollectionResponse) : MemoryDomain :=
  { d with
    checkpointCollections := d.checkpointCollections.set request.retryID ⟨request, result⟩ }

def collectCheckpoint (request : CheckpointCollectionRequest) :
    Attempt MemoryDomain RelayError CheckpointCollectionResponse := do
  let d ← get
  match d.checkpoints.get? request.checkpointID with
  | none => fail (protocolError .checkpointNotFound "checkpoint was not found")
  | some checkpoint => do
    rejectIf (request.requestedAtMilliseconds <
        checkpoint.activationRequest.activatedAtMilliseconds)
      (protocolError .invalidCheckpoint "checkpoint collection predates activation")
    match d.checkpointCollections.get? request.retryID with
    | some existing =>
      if existing.request = request then pure { existing.result with duplicate := true }
      else
        fail (protocolError .checkpointCollision "checkpoint collection retry ID was reused")
    | none => do
      let plan ← ofExcept (d.memoryCheckpointPlan request.checkpointID)
      rejectIf (plan.planDigest ≠ request.planDigest)
        (protocolError .collectionPlanStale "collection plan changed")
      rejectIf (plan.eligible = false)
        (protocolError .checkpointNotEligible "checkpoint lacks required custody")
      let messages := collectedMessages checkpoint request.maximumMessageCount.toNat
      let blobs := collectedBlobs checkpoint request.maximumBlobCount.toNat
      let remaining := collectedCheckpoint checkpoint messages blobs
      let result : CheckpointCollectionResponse :=
        { duplicate := false
          retryID := request.retryID
          checkpointID := request.checkpointID
          planDigest := request.planDigest
          deletedMessageCount := messages.length
          deletedMessageByteCount := (messages.map MemoryMessage.byteCount).sum
          deletedBlobCount := blobs.length
          deletedBlobByteCount := (blobs.map (fun p => p.2.byteCount)).sum
          completed := remaining.deletionMessages.len = 0 && remaining.deletionBlobs.len = 0 }
      modify (fun d =>
        (d.deleteCollected request.checkpointID checkpoint messages blobs).recordCollection
          request result)
      pure result

end MemoryDomain

namespace MemoryStore

def stageCheckpoint (credential : Credential) (candidate : CheckpointCandidate)
    (nowMilliseconds : Int) : Attempt MemoryStore RelayError CheckpointStageResponse := do
  ofExcept candidate.validate
  rejectIf (candidate.tenantID ≠ credential.tenantID ∨ candidate.domainID ≠ credential.domainID ∨
      candidate.createdAtMilliseconds > nowMilliseconds)
    (protocolError .wrongScope "checkpoint candidate scope or time is invalid")
  let coveredThrough ← ofExcept (decodeCursor candidate.coveredThroughCursor)
  asMember credential .publishCheckpoint nowMilliseconds (fun _ =>
    MemoryDomain.stageCheckpoint credential.memberID candidate coveredThrough nowMilliseconds)

def activateCheckpoint (credential : AdministrationCredential)
    (request : CheckpointActivationRequest) (nowMilliseconds : Int) :
    Attempt MemoryStore RelayError CheckpointActivationResponse := do
  ofExcept request.validate
  asAdministrator credential (MemoryDomain.activateCheckpoint request nowMilliseconds)

def collectCheckpoint (credential : AdministrationCredential)
    (request : CheckpointCollectionRequest) :
    Attempt MemoryStore RelayError CheckpointCollectionResponse := do
  ofExcept request.validate
  asAdministrator credential (MemoryDomain.collectCheckpoint request)

end MemoryStore

end FacetsNode.Relay
