import FacetsNode.Relay.Memory.Checkpoint

/-!
# Blobs: direct publication and resumable uploads

A blob is published at once (`commitBlobPublish`) or through an upload that first reserves capacity,
then receives its bytes in contiguous chunks, and is finalized. The bytes themselves travel through
a callback of the caller — `write` for a chunk, `publish` for a finalized blob — which sees the
upload's status and may fail; a missing callback is `none`.
-/

namespace FacetsNode.Relay

open Attempt

/-- A callback of an upload: what it answers to the upload's status. -/
abbrev UploadCallback := Option (BlobUploadStatus → Except RelayError Unit)

def validateBlobRequest (blobID : GoString) (byteCount : Int) : Except RelayError Unit := do
  validateBlobID blobID
  rejectWhen (byteCount < 0 ∨ byteCount > maximumBlobByteCount)
    .invalidBlob "blob byte count is invalid"

namespace MemoryDomain

def ensureBlobCapacity (d : MemoryDomain) (byteCount : Int) : Except RelayError Unit := do
  rejectWhen (d.registration.usesSharedCapacity = false ∧
      (d.blobs.len : Int) ≥ d.registration.maximumBlobCount)
    .domainFull "domain reached its blob limit"
  rejectWhen (d.registration.usesSharedCapacity = false ∧
      byteCount > d.registration.maximumBlobByteCount - d.blobBytes)
    .domainFull "domain reached its blob-byte limit"

/-! ## Direct publication -/

/-- Publish a blob, attributing it to the publisher's active fence if there is one. -/
def storeBlob (d : MemoryDomain) (metadata : BlobMetadata) (subscriptionID : UUID) :
    MemoryDomain :=
  { d with
    blobs := d.blobs.set metadata.blobID metadata
    blobFenceIDs :=
      match d.memoryActiveFenceForSubscription subscriptionID with
      | some fence => d.blobFenceIDs.set metadata.blobID fence.state.fenceID
      | none => d.blobFenceIDs
    blobBytes := d.blobBytes + metadata.byteCount }

def commitBlobPublish (s : MemoryStore) (credential : Credential) (blobID : GoString)
    (byteCount nowMilliseconds : Int) : Attempt MemoryDomain RelayError BlobPublishResult := do
  let d ← get
  match d.blobs.get? blobID with
  | some existing =>
    if existing.byteCount = byteCount then pure ⟨.duplicate, byteCount⟩
    else fail (protocolError .blobCollision "blob ID was reused with a different length")
  | none => do
    let subscription ← ofExcept (d.activeMemberSubscription credential.memberID)
    memoryFenceAllowsWrite subscription.subscriptionID nowMilliseconds
    let d ← get
    ofExcept (d.ensureBlobCapacity byteCount)
    ofExcept ((s.setDomain ⟨credential.tenantID, credential.domainID⟩ d)
      |>.ensureTenantBlobCapacityLocked credential.tenantID byteCount)
    let metadata : BlobMetadata :=
      ⟨credential.tenantID, credential.domainID, blobID, credential.memberID, byteCount,
       nowMilliseconds⟩
    ofExcept metadata.validate
    modify (·.storeBlob metadata subscription.subscriptionID)
    pure ⟨.accepted, byteCount⟩

/-! ## Uploads -/

/-- The upload `CreateBlobUpload` files. -/
def newUpload (request : BlobUploadRequest) (subscriptionID memberID : UUID) : MemoryBlobUpload :=
  { request := request
    status :=
      { uploadID := request.uploadID
        relayBlobID := request.relayBlobID
        byteCount := request.byteCount
        committedOffset := 0
        finalized := false
        createdAtMilliseconds := request.createdAtMilliseconds
        updatedAtMilliseconds := request.createdAtMilliseconds }
    subscriptionID := subscriptionID
    publisherMemberID := memberID
    chunks := ∅ }

/-- File an upload and reserve its capacity. -/
def fileUpload (d : MemoryDomain) (upload : MemoryBlobUpload) : MemoryDomain :=
  { d with
    blobUploads := d.blobUploads.set upload.request.uploadID upload
    blobUploadCreates := d.blobUploadCreates.set upload.request.retryID upload.request.uploadID
    reservedBlobCount := d.reservedBlobCount + 1
    reservedBlobBytes := d.reservedBlobBytes + upload.request.byteCount }

def createBlobUpload (s : MemoryStore) (credential : Credential) (request : BlobUploadRequest)
    (nowMilliseconds : Int) : Attempt MemoryDomain RelayError BlobUploadCreateResponse := do
  let d ← get
  let subscription ← ofExcept (d.activeMemberSubscription credential.memberID)
  match d.blobUploadCreates.get? request.retryID with
  | some existingID =>
    match d.blobUploads.get? existingID with
    | some existing =>
      if existing.request = request ∧ existing.subscriptionID = subscription.subscriptionID then
        pure ⟨.duplicate, request.retryID, existing.status⟩
      else fail (protocolError .blobUploadCollision "blob upload retry ID was reused")
    | none => fail (protocolError .blobUploadCollision "blob upload retry ID was reused")
  | none => do
    memoryFenceAllowsWrite subscription.subscriptionID nowMilliseconds
    let d ← get
    rejectIf ((d.blobUploads.get? request.uploadID).isSome = true)
      (protocolError .blobUploadCollision "blob upload ID was reused")
    rejectIf (∃ blob ∈ d.blobs.get? request.relayBlobID, blob.byteCount ≠ request.byteCount)
      (protocolError .blobCollision "blob ID was reused with a different length")
    rejectIf (d.registration.usesSharedCapacity = false ∧
        ((d.blobs.len : Int) + d.reservedBlobCount ≥ d.registration.maximumBlobCount ∨
          request.byteCount >
            d.registration.maximumBlobByteCount - d.blobBytes - d.reservedBlobBytes))
      (protocolError .domainFull "domain reached its blob quota")
    ofExcept ((s.setDomain ⟨credential.tenantID, credential.domainID⟩ d)
      |>.ensureTenantBlobCapacityLocked credential.tenantID request.byteCount)
    let upload := newUpload request subscription.subscriptionID credential.memberID
    modify (·.fileUpload upload)
    pure ⟨.accepted, request.retryID, upload.status⟩

/-- The upload a member may continue: it exists and is of the member's active subscription. -/
def ownUpload (d : MemoryDomain) (memberID uploadID : UUID) :
    Except RelayError MemoryBlobUpload :=
  match d.blobUploads.get? uploadID with
  | none => .error (protocolError .blobUploadNotFound "blob upload was not found")
  | some upload =>
    match d.activeMemberSubscription memberID with
    | .error _ => .error (protocolError .wrongScope "blob upload belongs to another subscription")
    | .ok subscription =>
      if subscription.subscriptionID ≠ upload.subscriptionID then
        .error (protocolError .wrongScope "blob upload belongs to another subscription")
      else .ok upload

/-- An upload that received one more chunk. -/
def appendedUpload (upload : MemoryBlobUpload) (request : BlobUploadChunkRequest)
    (nowMilliseconds : Int) : MemoryBlobUpload :=
  { upload with
    chunks := upload.chunks.set request.offset request
    status :=
      { upload.status with
        committedOffset := upload.status.committedOffset + request.byteCount
        updatedAtMilliseconds := nowMilliseconds } }

/-- Write an upload back. -/
def setUpload (d : MemoryDomain) (uploadID : UUID) (upload : MemoryBlobUpload) : MemoryDomain :=
  { d with blobUploads := d.blobUploads.set uploadID upload }

/-- Run a callback, if there is one. -/
def runCallback (callback : UploadCallback) (status : BlobUploadStatus) (missing : String) :
    Except RelayError Unit :=
  match callback with
  | none => .error (protocolError .invalidBlobUpload missing)
  | some f => f status

def appendBlobUploadChunk (memberID : UUID) (request : BlobUploadChunkRequest)
    (nowMilliseconds : Int) (write : UploadCallback) :
    Attempt MemoryDomain RelayError BlobUploadStatus := do
  let d ← get
  let upload ← ofExcept (d.ownUpload memberID request.uploadID)
  match upload.chunks.get? request.offset with
  | some existing =>
    if existing = request then pure upload.status
    else fail (protocolError .blobUploadCollision "blob upload chunk offset was reused")
  | none => do
    memoryFenceAllowsWrite upload.subscriptionID nowMilliseconds
    rejectIf (upload.status.finalized = true ∨ request.offset ≠ upload.status.committedOffset ∨
        request.byteCount > upload.status.byteCount - request.offset)
      (protocolError .invalidBlobUpload "blob upload chunk is not contiguous")
    ofExcept (runCallback write upload.status "blob upload writer is missing")
    let upload := appendedUpload upload request nowMilliseconds
    modify (·.setUpload request.uploadID upload)
    pure upload.status

/-- A finalized upload. -/
def finalizedUpload (upload : MemoryBlobUpload) (nowMilliseconds : Int) : MemoryBlobUpload :=
  { upload with
    status := { upload.status with finalized := true, updatedAtMilliseconds := nowMilliseconds } }

/-- The bookkeeping of `FinalizeBlobUpload` after the blob is there: the reservation is released,
the upload is marked, the answer recorded. -/
def releaseUpload (d : MemoryDomain) (request : BlobUploadFinalizationRequest)
    (upload : MemoryBlobUpload) (nowMilliseconds : Int)
    (result : BlobUploadFinalizationResponse) : MemoryDomain :=
  { d with
    reservedBlobCount := d.reservedBlobCount - 1
    reservedBlobBytes := d.reservedBlobBytes - request.byteCount
    blobUploads := d.blobUploads.set request.uploadID (finalizedUpload upload nowMilliseconds)
    blobUploadFinalizations :=
      d.blobUploadFinalizations.set request.retryID ⟨request, result⟩ }

def finalizeBlobUpload (credential : Credential) (request : BlobUploadFinalizationRequest)
    (nowMilliseconds : Int) (publish : UploadCallback) :
    Attempt MemoryDomain RelayError BlobUploadFinalizationResponse := do
  let d ← get
  match d.blobUploadFinalizations.get? request.retryID with
  | some existing =>
    if existing.request = request then pure { existing.result with acceptance := .duplicate }
    else
      fail (protocolError .blobUploadCollision "blob upload finalization retry ID was reused")
  | none => do
    let upload ← ofExcept (d.ownUpload credential.memberID request.uploadID)
    memoryFenceAllowsWrite upload.subscriptionID nowMilliseconds
    rejectIf (request.relayBlobID ≠ upload.status.relayBlobID ∨
        request.byteCount ≠ upload.status.byteCount ∨
        upload.status.committedOffset ≠ upload.status.byteCount)
      (protocolError .invalidBlobUpload "blob upload finalization does not match staged content")
    let result : BlobUploadFinalizationResponse :=
      ⟨.accepted, request.retryID, request.uploadID, request.relayBlobID, request.byteCount⟩
    let d ← get
    match d.blobs.get? request.relayBlobID with
    | some existing => do
      rejectIf (existing.byteCount ≠ request.byteCount)
        (protocolError .blobCollision "blob ID was reused with a different length")
      modify (·.releaseUpload request upload nowMilliseconds result)
      pure result
    | none => do
      ofExcept (runCallback publish upload.status "blob upload publisher is missing")
      let metadata : BlobMetadata :=
        ⟨credential.tenantID, credential.domainID, request.relayBlobID, upload.publisherMemberID,
         request.byteCount, nowMilliseconds⟩
      modify (fun d => (d.storeBlob metadata upload.subscriptionID).releaseUpload request upload
        nowMilliseconds result)
      pure result

end MemoryDomain

namespace MemoryStore

def commitBlobPublish (credential : Credential) (blobID : GoString)
    (byteCount nowMilliseconds : Int) : Attempt MemoryStore RelayError BlobPublishResult := do
  ofExcept (validateBlobRequest blobID byteCount)
  asMember credential .publishBlob nowMilliseconds (fun s =>
    MemoryDomain.commitBlobPublish s credential blobID byteCount nowMilliseconds)

/-- `GetBlobMetadata`, which only reads. -/
def getBlobMetadata (s : MemoryStore) (credential : Credential) (blobID : GoString)
    (nowMilliseconds : Int) : Except RelayError BlobMetadata := do
  validateBlobID blobID
  let d ← s.authorizedMember credential .fetchBlob nowMilliseconds
  match d.blobs.get? blobID with
  | none => .error (protocolError .blobNotFound "blob was not found")
  | some metadata => do
    rejectWhen (d.fenceVisible (d.blobFenceIDs.get? blobID) = false)
      .blobNotFound "blob was not found"
    .ok metadata

def createBlobUpload (credential : Credential) (request : BlobUploadRequest)
    (nowMilliseconds : Int) : Attempt MemoryStore RelayError BlobUploadCreateResponse := do
  ofExcept request.validate
  rejectIf (request.createdAtMilliseconds > nowMilliseconds)
    (protocolError .invalidBlobUpload "blob upload creation is in the future")
  asMember credential .publishBlob nowMilliseconds (fun s =>
    MemoryDomain.createBlobUpload s credential request nowMilliseconds)

def appendBlobUploadChunk (credential : Credential) (request : BlobUploadChunkRequest)
    (nowMilliseconds : Int) (write : UploadCallback) :
    Attempt MemoryStore RelayError BlobUploadStatus := do
  ofExcept request.validate
  asMember credential .publishBlob nowMilliseconds (fun _ =>
    MemoryDomain.appendBlobUploadChunk credential.memberID request nowMilliseconds write)

def finalizeBlobUpload (credential : Credential) (request : BlobUploadFinalizationRequest)
    (nowMilliseconds : Int) (publish : UploadCallback) :
    Attempt MemoryStore RelayError BlobUploadFinalizationResponse := do
  ofExcept request.validate
  asMember credential .publishBlob nowMilliseconds (fun _ =>
    MemoryDomain.finalizeBlobUpload credential request nowMilliseconds publish)

/-! ## Status -/

/-- `GetDomainStatus`, which only reads. -/
def getDomainStatus (s : MemoryStore) (credential : AdministrationCredential) :
    Except RelayError DomainStatus := do
  let d ← s.authorizedDomain credential
  .ok
    { tenantID := credential.tenantID
      domainID := credential.domainID
      messageCount := d.messages.length
      messageByteCount := d.messageBytes
      blobCount := d.blobs.len
      blobByteCount := d.blobBytes
      reservedBlobCount := d.reservedBlobCount
      reservedBlobByteCount := d.reservedBlobBytes
      activeSubscriptionCount :=
        (d.subscriptions.pairs.filter (fun p => p.2.status = .active)).length
      oldestUncollectedCursor := d.messages.head?.map (fun m => encodeCursor (m.sequence - 1))
      latestActivatedCheckpointID := d.latestCheckpointID
      quota :=
        ⟨d.registration.maximumMessageCount, d.registration.maximumMessageByteCount,
         d.registration.maximumBlobCount, d.registration.maximumBlobByteCount⟩ }

end MemoryStore

end FacetsNode.Relay
