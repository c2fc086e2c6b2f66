import FacetsNode.Relay.Memory.Subscription

/-!
# Publishing, fetching and acknowledging

`publish` gives a new envelope the next sequence; `fetch` pages through what a subscription may
read, in sequence order; `acknowledge` records a receipt. A message stored under a fence is
invisible until the fence is activated, and the page cursor never passes the boundary of an active
fence.
-/

namespace FacetsNode.Relay

open Attempt

namespace MemoryDomain

/-! ## Publish -/

/-- The message `Publish` stores, its acknowledgment map being the next one to be allocated. -/
def newMessage (d : MemoryDomain) (credential : Credential) (envelope : Envelope)
    (byteCount : Int) (subscriptionID : UUID) : MemoryMessage :=
  { message := ⟨d.nextSequence + 1, envelope⟩
    byteCount := byteCount
    publisherMember := credential.memberID
    publisherSubscription := subscriptionID
    acknowledgments := d.acknowledgmentMaps.length
    checkpointFenceID :=
      (d.memoryActiveFenceForSubscription subscriptionID).map (fun fence => fence.state.fenceID) }

def storeMessage (d : MemoryDomain) (m : MemoryMessage) : MemoryDomain :=
  { d with
    nextSequence := d.nextSequence + 1
    messages := d.messages ++ [m]
    messageByID := d.messageByID.set m.messageID m
    acknowledgmentMaps := d.acknowledgmentMaps ++ [∅]
    messageBytes := d.messageBytes + m.byteCount }

/-- The answer to an envelope whose message is stored. -/
def storedPublishResult (existing : MemoryMessage) (credential : Credential)
    (envelope : Envelope) : Except RelayError PublishResult :=
  if existing.publisherMember = credential.memberID ∧ existing.message.envelope = envelope then
    .ok ⟨.duplicate, existing.sequence⟩
  else .error (protocolError .messageCollision "message ID was reused with different content")

/-- The answer to an envelope whose message a closed fence took down. -/
def tombstonedPublishResult (tombstone : MemoryFenceMessageTombstone) (credential : Credential)
    (envelope : Envelope) : Except RelayError PublishResult := do
  let digest ← envelope.referenceDigest
  if tombstone.publisherMember = credential.memberID ∧ tombstone.digest = digest then
    .ok ⟨.duplicate, tombstone.sequence⟩
  else .error (protocolError .messageCollision "message ID was reused with different content")

/-- The part of `Publish` behind the two duplicate lookups. -/
def publishNew (s : MemoryStore) (credential : Credential) (envelope : Envelope)
    (subscription : Subscription) (nowMilliseconds : Int) :
    Attempt MemoryDomain RelayError PublishResult := do
  memoryFenceAllowsWrite subscription.subscriptionID nowMilliseconds
  let d ← get
  rejectIf (d.registration.usesSharedCapacity = false ∧
      (d.messages.length : Int) ≥ d.registration.maximumMessageCount)
    (protocolError .domainFull "domain reached its message limit")
  let byteCount ← ofExcept envelope.ciphertextByteCount
  rejectIf (d.registration.usesSharedCapacity = false ∧
      byteCount > d.registration.maximumMessageByteCount - d.messageBytes)
    (protocolError .domainFull "domain reached its message-byte limit")
  ofExcept ((s.setDomain ⟨credential.tenantID, credential.domainID⟩ d)
    |>.ensureTenantMessageCapacityLocked credential.tenantID byteCount)
  modify (·.storeMessage (d.newMessage credential envelope byteCount subscription.subscriptionID))
  pure ⟨.accepted, d.nextSequence + 1⟩

def publish (s : MemoryStore) (credential : Credential) (envelope : Envelope)
    (nowMilliseconds : Int) : Attempt MemoryDomain RelayError PublishResult := do
  ofExcept (envelope.validateForPublish credential)
  let d ← get
  let subscription ← ofExcept (d.activeMemberSubscription credential.memberID)
  match d.messageByID.get? envelope.messageID with
  | some existing => ofExcept (storedPublishResult existing credential envelope)
  | none =>
    match d.fenceMessageTombstones.get? envelope.messageID with
    | some tombstone => ofExcept (tombstonedPublishResult tombstone credential envelope)
    | none => publishNew s credential envelope subscription nowMilliseconds

/-! ## Fetch -/

/-- One round of the loop over the active fences in `Fetch`. -/
def boundWatermark (watermark : Nat) (fence : MemoryCheckpointFence) : Nat :=
  if fence.state.status = .active then
    match decodeCursor fence.state.boundaryCursor with
    | .ok boundary => if boundary < watermark then boundary else watermark
    | .error _ => watermark
  else watermark

def visibleHighWatermark (d : MemoryDomain) : Nat :=
  (d.checkpointFences.pairs.map Prod.snd).foldl boundWatermark d.nextSequence

/-- The message survives every `continue` of the loop in `Fetch`. -/
def deliverable (d : MemoryDomain) (subscription : Subscription) (afterSequence : Nat)
    (nowMilliseconds : Int) (m : MemoryMessage) : Bool :=
  decide (afterSequence < m.sequence) &&
    !(d.memorySubscriptionHasAuthorizedRecovery subscription nowMilliseconds &&
      decide ((d.acknowledgmentsOf m).get? subscription.subscriptionID = some .applied)) &&
    !(decide (m.publisherSubscription = subscription.subscriptionID) &&
      !d.memoryOwnMessageIsInAuthorizedRecovery subscription m nowMilliseconds) &&
    d.fenceVisible m.checkpointFenceID

/-- Where the page starts: the subscription's own start cursor wins while it recovers, and is a
lower bound otherwise. -/
def fetchStart (subscription : Subscription) (afterSequence : Nat) : Except RelayError Nat :=
  match subscription.startCursor with
  | none => .ok afterSequence
  | some cursor => do
    let start ← decodeCursor cursor
    if subscription.status = .rebootstrapRequired then .ok start
    else .ok (max start afterSequence)

/-- The page: the first `limit` deliverable messages, and where the next page starts. -/
def fetchPage (d : MemoryDomain) (subscription : Subscription) (afterSequence limit : Nat)
    (nowMilliseconds : Int) : FetchResult :=
  let page := (d.messages.filter
    (d.deliverable subscription afterSequence nowMilliseconds)).take limit
  { messages := page.map MemoryMessage.message
    nextSequence :=
      if page.length = limit then (page.getLast?.map MemoryMessage.sequence).getD 0
      else max afterSequence d.visibleHighWatermark }

def fetch (memberID : UUID) (afterSequence limit : Nat) (nowMilliseconds : Int) :
    Attempt MemoryDomain RelayError FetchResult := do
  modify (·.refreshMemoryFence nowMilliseconds)
  let d ← get
  let subscription ← ofExcept (d.readableMemberSubscription memberID)
  rejectIf (subscription.status = .rebootstrapRequired ∧
      d.memorySubscriptionHasActiveRebootstrap subscription.subscriptionID nowMilliseconds = false)
    (protocolError .rebootstrapExpired
      "subscription rebootstrap lease expired or was cancelled")
  let afterSequence ← ofExcept (fetchStart subscription afterSequence)
  pure (d.fetchPage subscription afterSequence limit nowMilliseconds)

def getMessage (memberID messageID : UUID) (nowMilliseconds : Int) :
    Attempt MemoryDomain RelayError Message := do
  modify (·.refreshMemoryFence nowMilliseconds)
  let d ← get
  let subscription ← ofExcept (d.readableMemberSubscription memberID)
  match d.messageByID.get? messageID with
  | none => fail (protocolError .messageNotFound "message was not found")
  | some stored => do
    rejectIf (stored.publisherSubscription = subscription.subscriptionID ∨
        d.fenceVisible stored.checkpointFenceID = false)
      (protocolError .messageNotFound "message was not found")
    pure stored.message

/-! ## Acknowledge -/

/-- Record a receipt in the message's acknowledgment map. -/
def recordAcknowledgment (d : MemoryDomain) (m : MemoryMessage) (subscriptionID : UUID)
    (stage : AcknowledgmentStage) : MemoryDomain :=
  { d with
    acknowledgmentMaps :=
      d.acknowledgmentMaps.modify m.acknowledgments (fun acks => acks.set subscriptionID stage) }

def acknowledge (memberID messageID : UUID) (stage : AcknowledgmentStage)
    (nowMilliseconds : Int) : Attempt MemoryDomain RelayError AcknowledgmentResult := do
  let d ← get
  let subscription ← ofExcept (d.readableMemberSubscription memberID)
  rejectIf (subscription.status = .rebootstrapRequired ∧
      d.memorySubscriptionHasActiveRebootstrap subscription.subscriptionID nowMilliseconds = false)
    (protocolError .rebootstrapExpired
      "subscription rebootstrap lease expired or was cancelled")
  match d.messageByID.get? messageID with
  | none => fail (protocolError .messageNotFound "message was not found")
  | some m => do
    rejectIf (m.publisherSubscription = subscription.subscriptionID ∧
        d.memoryOwnMessageIsInAuthorizedRecovery subscription m nowMilliseconds = false)
      (protocolError .invalidAcknowledgment "publisher cannot acknowledge its message")
    match (d.acknowledgmentsOf m).get? subscription.subscriptionID with
    | some existing =>
      if existing = stage ∨ existing = .applied then pure ⟨.duplicate, existing⟩
      else do
        modify (·.recordAcknowledgment m subscription.subscriptionID stage)
        pure ⟨.accepted, stage⟩
    | none => do
      rejectIf (stage = .applied)
        (protocolError .invalidAcknowledgment
          "applied requires a durable accepted acknowledgment")
      modify (·.recordAcknowledgment m subscription.subscriptionID stage)
      pure ⟨.accepted, stage⟩

end MemoryDomain

namespace MemoryStore

def publish (credential : Credential) (envelope : Envelope) (nowMilliseconds : Int) :
    Attempt MemoryStore RelayError PublishResult :=
  asMember credential .publishMessage nowMilliseconds (fun s =>
    MemoryDomain.publish s credential envelope nowMilliseconds)

def fetch (credential : Credential) (afterSequence : Nat) (limit nowMilliseconds : Int) :
    Attempt MemoryStore RelayError FetchResult := do
  rejectIf (limit ≤ 0 ∨ limit > maximumPageSize ∨ afterSequence > maximumSequence)
    (protocolError .invalidCursor "page limit is invalid")
  asMember credential .fetchMessage nowMilliseconds (fun _ =>
    MemoryDomain.fetch credential.memberID afterSequence limit.toNat nowMilliseconds)

def getMessage (credential : Credential) (messageID : UUID) (nowMilliseconds : Int) :
    Attempt MemoryStore RelayError Message := do
  rejectIf (messageID = uuidNil) (protocolError .messageNotFound "message was not found")
  asMember credential .fetchMessage nowMilliseconds (fun _ =>
    MemoryDomain.getMessage credential.memberID messageID nowMilliseconds)

def acknowledge (credential : Credential) (messageID : UUID) (stage : AcknowledgmentStage)
    (nowMilliseconds : Int) : Attempt MemoryStore RelayError AcknowledgmentResult :=
  asMember credential .acknowledgeMessage nowMilliseconds (fun _ =>
    MemoryDomain.acknowledge credential.memberID messageID stage nowMilliseconds)

end MemoryStore

end FacetsNode.Relay
