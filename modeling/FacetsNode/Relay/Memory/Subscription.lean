import FacetsNode.Relay.Memory.Fence

/-!
# Subscriptions and recovery leases

A subscription is active, awaiting recovery, or revoked for good. A member that lost its replica
asks for a *recovery lease* on the latest activated checkpoint: its subscription is fenced at the
checkpoint's start cursor, and every receipt it gave for later messages is taken back. It then reads
and acknowledges the tail again and completes the recovery, or cancels it, or lets the lease run
out.

A lease has no state of its own: it is active until it expires, is named by a cancellation or is
named by a completion (`memoryRebootstrapRequestIsActive`).
-/

namespace FacetsNode.Relay

open Attempt

namespace MemoryDomain

/-! ## Creation and status changes -/

def fileSubscription (d : MemoryDomain) (request : SubscriptionCreateRequest)
    (subscription : Subscription) : MemoryDomain :=
  { d with
    subscriptions := d.subscriptions.set request.subscriptionID subscription
    subscriptionCreates := d.subscriptionCreates.set request.retryID request }

/-- The subscription `CreateSubscription` files: active, from the latest checkpoint on. -/
def newSubscription (d : MemoryDomain) (credential : AdministrationCredential)
    (request : SubscriptionCreateRequest) : Subscription :=
  { version := schemaVersion
    tenantID := credential.tenantID
    domainID := credential.domainID
    subscriptionID := request.subscriptionID
    status := .active
    startCursor := d.latestCheckpointStartCursor
    createdAtMilliseconds := request.createdAtMilliseconds
    updatedAtMilliseconds := request.createdAtMilliseconds }

def createSubscription (credential : AdministrationCredential)
    (request : SubscriptionCreateRequest) :
    Attempt MemoryDomain RelayError SubscriptionCreateResponse := do
  let d ← get
  match d.subscriptionCreates.get? request.retryID with
  | some existing =>
    if existing = request then
      match d.subscriptions.get? request.subscriptionID with
      | some subscription => pure ⟨.duplicate, request.retryID, subscription⟩
      -- Never taken: a subscription that was created is never removed.
      | none => fail (protocolError .subscriptionNotFound "subscription was not found")
    else fail (protocolError .subscriptionCollision "subscription retry ID was reused")
  | none => do
    rejectIf ((d.subscriptions.get? request.subscriptionID).isSome = true)
      (protocolError .subscriptionCollision "subscription ID was reused")
    rejectIf (request.createdAtMilliseconds < d.registration.createdAtMilliseconds)
      (protocolError .invalidSubscription "subscription predates its domain")
    let subscription := d.newSubscription credential request
    modify (·.fileSubscription request subscription)
    pure ⟨.accepted, request.retryID, subscription⟩

def fileStatusChange (d : MemoryDomain) (subscriptionID : UUID)
    (request : SubscriptionStatusChangeRequest) (subscription : Subscription) : MemoryDomain :=
  { d with
    subscriptions := d.subscriptions.set subscriptionID subscription
    subscriptionChanges :=
      d.subscriptionChanges.set request.retryID ⟨subscriptionID, request, subscription⟩ }

/-- The subscription after a status change: awaiting recovery it starts at the latest checkpoint. -/
def changedSubscription (d : MemoryDomain) (subscription : Subscription)
    (request : SubscriptionStatusChangeRequest) : Subscription :=
  { subscription with
    status := request.status
    startCursor :=
      if request.status = .rebootstrapRequired then d.latestCheckpointStartCursor else none
    updatedAtMilliseconds := request.changedAtMilliseconds }

def changeSubscriptionStatus (subscriptionID : UUID) (request : SubscriptionStatusChangeRequest) :
    Attempt MemoryDomain RelayError SubscriptionStatusChangeResponse := do
  let d ← get
  match d.subscriptionChanges.get? request.retryID with
  | some existing =>
    if existing.subscriptionID = subscriptionID ∧ existing.request = request then
      pure ⟨.duplicate, request.retryID, existing.result⟩
    else fail (protocolError .subscriptionCollision "subscription status retry ID was reused")
  | none =>
    match d.subscriptions.get? subscriptionID with
    | none => fail (protocolError .subscriptionNotFound "subscription was not found")
    | some subscription => do
      rejectIf (subscription.status = .revoked)
        (protocolError .subscriptionNotFound "revoked subscription cannot be changed")
      rejectIf (request.changedAtMilliseconds < subscription.createdAtMilliseconds ∨
          request.changedAtMilliseconds < subscription.updatedAtMilliseconds)
        (protocolError .invalidSubscription "subscription update is out of order")
      let subscription := d.changedSubscription subscription request
      modify (·.fileStatusChange subscriptionID request subscription)
      pure ⟨.accepted, request.retryID, subscription⟩

/-! ## Active leases -/

def memoryRebootstrapRequestIsActive (d : MemoryDomain) (retryID : UUID)
    (request : MemorySubscriptionRebootstrapRequest) (nowMilliseconds : Int) : Bool :=
  decide (0 ≤ nowMilliseconds) && decide (nowMilliseconds < request.expiresAtMilliseconds) &&
    !d.rebootstrapCancellations.pairs.any (fun p =>
      p.2.subscriptionID = request.subscriptionID ∧ p.2.request.requestRetryID = retryID) &&
    !d.rebootstrapCompletions.pairs.any (fun p =>
      p.2.subscriptionID = request.subscriptionID ∧ p.2.request.requestRetryID = retryID)

def memorySubscriptionHasActiveRebootstrap (d : MemoryDomain) (subscriptionID : UUID)
    (nowMilliseconds : Int) : Bool :=
  d.rebootstrapRequests.pairs.any (fun p => p.2.subscriptionID = subscriptionID ∧
    d.memoryRebootstrapRequestIsActive p.1 p.2 nowMilliseconds = true)

def memorySubscriptionHasAuthorizedRecovery (d : MemoryDomain) (subscription : Subscription)
    (nowMilliseconds : Int) : Bool :=
  match subscription.startCursor with
  | none => false
  | some cursor =>
    subscription.status = .rebootstrapRequired &&
      d.rebootstrapRequests.pairs.any (fun p =>
        p.2.subscriptionID = subscription.subscriptionID ∧
        d.memoryRebootstrapRequestIsActive p.1 p.2 nowMilliseconds = true ∧
        p.2.result.status = .rebootstrapRequired ∧ p.2.result.startCursor = some cursor ∧
        p.2.result.updatedAtMilliseconds = subscription.updatedAtMilliseconds)

def memoryOwnMessageIsInAuthorizedRecovery (d : MemoryDomain) (subscription : Subscription)
    (m : MemoryMessage) (nowMilliseconds : Int) : Bool :=
  d.memorySubscriptionHasAuthorizedRecovery subscription nowMilliseconds &&
    (match decodeCursor (subscription.startCursor.getD []) with
     | .ok startSequence => decide (m.sequence > startSequence)
     | .error _ => false)

/-! ## Requesting a lease -/

def checkpointRetainsMessage (checkpoint : MemoryCheckpoint) (messageID : UUID) : Bool :=
  checkpoint.candidate.retainedMessageIDs.any (fun id => id = messageID)

/-- Take back the subscription's receipts for every message above `startSequence`. -/
def withdrawAcknowledgments (d : MemoryDomain) (subscriptionID : UUID) (startSequence : Nat) :
    MemoryDomain :=
  { d with
    acknowledgmentMaps :=
      (d.messages.filter (fun m => m.sequence > startSequence)).foldl
        (fun maps m => maps.modify m.acknowledgments (fun acks => acks.delete subscriptionID))
        d.acknowledgmentMaps }

/-- The recovery request and the subscription it leaves, filed. -/
def fileRebootstrapRequest (d : MemoryDomain) (request : SubscriptionRebootstrapRequest)
    (subscription : Subscription) (leaseExpiresAt : Int) : MemoryDomain :=
  { d with
    subscriptions := d.subscriptions.set subscription.subscriptionID subscription
    rebootstrapRequests := d.rebootstrapRequests.set request.retryID
      ⟨subscription.subscriptionID, request, leaseExpiresAt, subscription⟩ }

/-- A subscription fenced for recovery at a checkpoint. -/
def fencedSubscription (subscription : Subscription) (checkpoint : MemoryCheckpoint)
    (nowMilliseconds : Int) : Subscription :=
  { subscription with
    status := .rebootstrapRequired
    startCursor := some (encodeCursor checkpoint.startSequence)
    updatedAtMilliseconds := nowMilliseconds }

def requestSubscriptionRebootstrap (memberID : UUID) (request : SubscriptionRebootstrapRequest)
    (leaseExpiresAt nowMilliseconds : Int) :
    Attempt MemoryDomain RelayError SubscriptionRebootstrapResponse := do
  let d ← get
  let subscription ← ofExcept (d.readableMemberSubscription memberID)
  match d.rebootstrapRequests.get? request.retryID with
  | some existing =>
    if existing.subscriptionID = subscription.subscriptionID ∧ existing.request = request then
      pure ⟨.duplicate, request.retryID, request.checkpointID, request.rootMessageID,
        existing.expiresAtMilliseconds, existing.result⟩
    else
      fail (protocolError .subscriptionCollision
        "subscription rebootstrap retry ID was reused")
  | none => do
    rejectIf (subscription.status = .revoked)
      (protocolError .subscriptionNotFound "revoked subscription cannot rebootstrap")
    match d.checkpoints.get? request.checkpointID with
    | none =>
      fail (protocolError .checkpointUnavailable
        "authorized recovery checkpoint/root is unavailable")
    | some checkpoint => do
      rejectIf (checkpoint.state ≠ .activated ∨
          checkpointRetainsMessage checkpoint request.rootMessageID = false)
        (protocolError .checkpointUnavailable
          "authorized recovery checkpoint/root is unavailable")
      rejectIf (subscription.status = .rebootstrapRequired ∧
          d.memorySubscriptionHasActiveRebootstrap subscription.subscriptionID
            nowMilliseconds = true)
        (protocolError .subscriptionCollision
          "subscription recovery already has an active lease")
      rejectIf (d.latestCheckpointID ≠ some request.checkpointID)
        (protocolError .checkpointUnavailable
          "authorized recovery checkpoint is not the latest activated checkpoint")
      -- Both branches of the source, awaiting recovery or active, now do the same.
      let fenced := fencedSubscription subscription checkpoint nowMilliseconds
      modify (fun d =>
        (d.withdrawAcknowledgments subscription.subscriptionID
          checkpoint.startSequence).fileRebootstrapRequest request fenced leaseExpiresAt)
      pure ⟨.accepted, request.retryID, request.checkpointID, request.rootMessageID,
        leaseExpiresAt, fenced⟩

/-! ## Renewal, cancellation, completion -/

/-- The request a renewal, cancellation or completion names: same subscription, checkpoint and
root. -/
def matchingRecovery (d : MemoryDomain) (subscriptionID requestRetryID checkpointID
    rootMessageID : UUID) (mismatch : RelayError) :
    Except RelayError MemorySubscriptionRebootstrapRequest :=
  match d.rebootstrapRequests.get? requestRetryID with
  | none => .error mismatch
  | some recovery =>
    if recovery.subscriptionID ≠ subscriptionID ∨ recovery.request.checkpointID ≠ checkpointID ∨
        recovery.request.rootMessageID ≠ rootMessageID then .error mismatch
    else .ok recovery

def fileRebootstrapRenewal (d : MemoryDomain) (renewal : SubscriptionRebootstrapRenewal)
    (subscription : Subscription) (recovery : MemorySubscriptionRebootstrapRequest)
    (expiresAt : Int) : MemoryDomain :=
  { d with
    rebootstrapRequests := d.rebootstrapRequests.set renewal.requestRetryID
      { recovery with expiresAtMilliseconds := expiresAt }
    rebootstrapRenewals := d.rebootstrapRenewals.set renewal.retryID
      ⟨subscription.subscriptionID, renewal, recovery.expiresAtMilliseconds, expiresAt,
       subscription⟩ }

def renewSubscriptionRebootstrap (memberID : UUID) (renewal : SubscriptionRebootstrapRenewal)
    (candidateExpiresAt nowMilliseconds : Int) :
    Attempt MemoryDomain RelayError SubscriptionRebootstrapRenewalResponse := do
  let d ← get
  let subscription ← ofExcept (d.readableMemberSubscription memberID)
  match d.rebootstrapRenewals.get? renewal.retryID with
  | some existing =>
    if existing.subscriptionID = subscription.subscriptionID ∧ existing.request = renewal then
      pure ⟨.duplicate, renewal.retryID, renewal.requestRetryID, renewal.checkpointID,
        renewal.rootMessageID, existing.previousExpiresAtMilliseconds,
        existing.expiresAtMilliseconds, existing.result⟩
    else
      fail (protocolError .subscriptionCollision
        "subscription rebootstrap renewal retry ID was reused")
  | none => do
    let recovery ← ofExcept (d.matchingRecovery subscription.subscriptionID
      renewal.requestRetryID renewal.checkpointID renewal.rootMessageID
      (protocolError .subscriptionCollision
        "subscription rebootstrap renewal does not match its request"))
    rejectIf (recovery.expiresAtMilliseconds ≠ renewal.expectedLeaseExpiresAtMilliseconds)
      (protocolError .subscriptionCollision "subscription rebootstrap renewal lease is stale")
    rejectIf (d.memoryRebootstrapRequestIsActive renewal.requestRetryID recovery
        nowMilliseconds = false)
      (protocolError .rebootstrapExpired
        "subscription rebootstrap lease expired or was finalized")
    rejectIf (subscription.status ≠ .rebootstrapRequired ∨ subscription.startCursor = none ∨
        recovery.result.startCursor = none ∨
        subscription.startCursor ≠ recovery.result.startCursor)
      (protocolError .subscriptionCollision "subscription rebootstrap renewal state changed")
    let expiresAt := max recovery.expiresAtMilliseconds candidateExpiresAt
    modify (·.fileRebootstrapRenewal renewal subscription recovery expiresAt)
    pure ⟨.accepted, renewal.retryID, renewal.requestRetryID, renewal.checkpointID,
      renewal.rootMessageID, recovery.expiresAtMilliseconds, expiresAt, subscription⟩

def fileRebootstrapCancellation (d : MemoryDomain)
    (cancellation : SubscriptionRebootstrapCancellation) (subscription : Subscription) :
    MemoryDomain :=
  { d with
    rebootstrapCancellations := d.rebootstrapCancellations.set cancellation.retryID
      ⟨subscription.subscriptionID, cancellation, subscription⟩ }

def cancelSubscriptionRebootstrap (memberID : UUID)
    (cancellation : SubscriptionRebootstrapCancellation) :
    Attempt MemoryDomain RelayError SubscriptionRebootstrapCancellationResponse := do
  let d ← get
  let subscription ← ofExcept (d.readableMemberSubscription memberID)
  match d.rebootstrapCancellations.get? cancellation.retryID with
  | some existing =>
    if existing.subscriptionID = subscription.subscriptionID ∧ existing.request = cancellation then
      pure ⟨.duplicate, cancellation.retryID, cancellation.requestRetryID,
        cancellation.checkpointID, cancellation.rootMessageID, existing.result⟩
    else
      fail (protocolError .subscriptionCollision
        "subscription rebootstrap cancellation retry ID was reused")
  | none => do
    let _ ← ofExcept (d.matchingRecovery subscription.subscriptionID
      cancellation.requestRetryID cancellation.checkpointID cancellation.rootMessageID
      (protocolError .subscriptionCollision
        "subscription rebootstrap cancellation does not match its request"))
    rejectIf (d.rebootstrapCompletions.pairs.any (fun p =>
        p.2.subscriptionID = subscription.subscriptionID ∧
        p.2.request.requestRetryID = cancellation.requestRetryID) = true)
      (protocolError .subscriptionCollision
        "completed subscription rebootstrap cannot be cancelled")
    modify (·.fileRebootstrapCancellation cancellation subscription)
    pure ⟨.accepted, cancellation.retryID, cancellation.requestRetryID,
      cancellation.checkpointID, cancellation.rootMessageID, subscription⟩

/-- A message of the recovery tail whose receipt is still missing: above the start, at or below the
claimed cursor, readable, and not applied. -/
def missesReceipt (d : MemoryDomain) (subscriptionID : UUID) (startSequence throughSequence : Nat)
    (m : MemoryMessage) : Bool :=
  decide (startSequence < m.sequence) && decide (m.sequence ≤ throughSequence) &&
    d.fenceVisible m.checkpointFenceID &&
    decide ((d.acknowledgmentsOf m).get? subscriptionID ≠ some .applied)

def fileRebootstrapCompletion (d : MemoryDomain) (completion : SubscriptionRebootstrapCompletion)
    (subscription : Subscription) (startSequence : Nat) : MemoryDomain :=
  { d with
    subscriptions := d.subscriptions.set subscription.subscriptionID subscription
    rebootstrapCompletions := d.rebootstrapCompletions.set completion.retryID
      ⟨subscription.subscriptionID, startSequence, completion, subscription⟩ }

/-- A subscription restored to publication. -/
def restoredSubscription (subscription : Subscription) (nowMilliseconds : Int) : Subscription :=
  { subscription with
    status := .active
    startCursor := none
    updatedAtMilliseconds := nowMilliseconds }

def completeSubscriptionRebootstrap (memberID : UUID)
    (completion : SubscriptionRebootstrapCompletion) (throughSequence : Nat)
    (nowMilliseconds : Int) :
    Attempt MemoryDomain RelayError SubscriptionRebootstrapCompletionResponse := do
  modify (·.refreshMemoryFence nowMilliseconds)
  let d ← get
  let subscription ← ofExcept (d.readableMemberSubscription memberID)
  match d.rebootstrapCompletions.get? completion.retryID with
  | some existing =>
    if existing.subscriptionID = subscription.subscriptionID ∧ existing.request = completion then
      pure ⟨.duplicate, completion.retryID, completion.requestRetryID, completion.checkpointID,
        completion.rootMessageID, existing.result⟩
    else
      fail (protocolError .subscriptionCollision
        "subscription rebootstrap completion retry ID was reused")
  | none =>
    match subscription.startCursor with
    | none =>
      fail (protocolError .invalidSubscription
        "subscription is not awaiting rebootstrap completion")
    | some cursor => do
      rejectIf (subscription.status ≠ .rebootstrapRequired)
        (protocolError .invalidSubscription
          "subscription is not awaiting rebootstrap completion")
      let recovery ← ofExcept (d.matchingRecovery subscription.subscriptionID
        completion.requestRetryID completion.checkpointID completion.rootMessageID
        (protocolError .subscriptionCollision
          "rebootstrap completion does not match its authorized checkpoint/root"))
      rejectIf (d.memoryRebootstrapRequestIsActive completion.requestRetryID recovery
          nowMilliseconds = false)
        (protocolError .rebootstrapExpired
          "subscription rebootstrap lease expired or was cancelled")
      let startSequence ← ofExcept (decodeCursor cursor)
      rejectIf (throughSequence < startSequence ∨ throughSequence > d.nextSequence)
        (protocolError .invalidCursor
          "rebootstrap completion cursor is outside the retained history")
      rejectIf (d.messages.any
          (d.missesReceipt subscription.subscriptionID startSequence throughSequence) = true)
        (protocolError .rebootstrapIncomplete "rebootstrap tail has not been durably applied")
      let restored := restoredSubscription subscription nowMilliseconds
      modify (·.fileRebootstrapCompletion completion restored startSequence)
      pure ⟨.accepted, completion.retryID, completion.requestRetryID, completion.checkpointID,
        completion.rootMessageID, restored⟩

end MemoryDomain

namespace MemoryStore

def createSubscription (credential : AdministrationCredential)
    (request : SubscriptionCreateRequest) :
    Attempt MemoryStore RelayError SubscriptionCreateResponse := do
  ofExcept request.validate
  asAdministrator credential (MemoryDomain.createSubscription credential request)

def changeSubscriptionStatus (credential : AdministrationCredential) (subscriptionID : UUID)
    (request : SubscriptionStatusChangeRequest) :
    Attempt MemoryStore RelayError SubscriptionStatusChangeResponse := do
  rejectIf (subscriptionID = uuidNil)
    (protocolError .invalidSubscription "subscription ID is invalid")
  ofExcept request.validate
  asAdministrator credential (MemoryDomain.changeSubscriptionStatus subscriptionID request)

def requestSubscriptionRebootstrap (credential : Credential)
    (request : SubscriptionRebootstrapRequest) (nowMilliseconds : Int) :
    Attempt MemoryStore RelayError SubscriptionRebootstrapResponse := do
  ofExcept request.validate
  let leaseExpiresAt ← ofExcept (request.leaseExpiresAt nowMilliseconds)
  asMember credential .fetchMessage nowMilliseconds (fun _ =>
    MemoryDomain.requestSubscriptionRebootstrap credential.memberID request leaseExpiresAt
      nowMilliseconds)

def renewSubscriptionRebootstrap (credential : Credential)
    (renewal : SubscriptionRebootstrapRenewal) (nowMilliseconds : Int) :
    Attempt MemoryStore RelayError SubscriptionRebootstrapRenewalResponse := do
  ofExcept renewal.validate
  let candidateExpiresAt ← ofExcept (renewal.leaseExpiresAt nowMilliseconds)
  asMember credential .fetchMessage nowMilliseconds (fun _ =>
    MemoryDomain.renewSubscriptionRebootstrap credential.memberID renewal candidateExpiresAt
      nowMilliseconds)

def cancelSubscriptionRebootstrap (credential : Credential)
    (cancellation : SubscriptionRebootstrapCancellation) (nowMilliseconds : Int) :
    Attempt MemoryStore RelayError SubscriptionRebootstrapCancellationResponse := do
  ofExcept cancellation.validate
  asMember credential .fetchMessage nowMilliseconds (fun _ =>
    MemoryDomain.cancelSubscriptionRebootstrap credential.memberID cancellation)

def completeSubscriptionRebootstrap (credential : Credential)
    (completion : SubscriptionRebootstrapCompletion) (nowMilliseconds : Int) :
    Attempt MemoryStore RelayError SubscriptionRebootstrapCompletionResponse := do
  ofExcept completion.validate
  let throughSequence ← ofExcept (decodeCursor completion.completedThroughCursor)
  asMember credential .acknowledgeMessage nowMilliseconds (fun _ =>
    MemoryDomain.completeSubscriptionRebootstrap credential.memberID completion throughSequence
      nowMilliseconds)

end MemoryStore

/-! ## Tenant-wide revocation -/

namespace MemoryDomain

/-- One target of a tenant-wide revocation, taken down. -/
def revokeMembership (d : MemoryDomain) (target : TenantMembershipRevocationItem)
    (member : MemberRegistration) (subscription : Subscription) (revokedAt : Int) : MemoryDomain :=
  { d with
    members := d.members.set target.memberID { member with revokedAtMilliseconds := some revokedAt }
    subscriptions := d.subscriptions.set target.subscriptionID
      { subscription with
        status := .revoked
        startCursor := none
        updatedAtMilliseconds := revokedAt } }

end MemoryDomain

namespace MemoryStore

/-- The checks `RevokeTenantMemberships` makes of one target before it changes any domain. -/
def checkRevocationTarget (s : MemoryStore) (tenantID : UUID) (revokedAt : Int)
    (target : TenantMembershipRevocationItem) : Except RelayError Unit :=
  match s.domains.get? ⟨tenantID, target.domainID⟩ with
  | none => .error (protocolError .domainNotFound "revocation domain was not found")
  | some d =>
    match d.members.get? target.memberID with
    | none => .error (protocolError .memberNotFound "revocation member was not found")
    | some member =>
      if (d.memberSubscriptions.get? target.memberID).getD uuidNil ≠ target.subscriptionID then
        .error (protocolError .memberNotFound "revocation member was not found")
      else
        match d.subscriptions.get? target.subscriptionID with
        | none => .error (protocolError .subscriptionNotFound "revocation subscription was not found")
        | some subscription => do
          rejectWhen (member.revokedAtMilliseconds.isSome = true)
            .memberRevoked "revocation member was already revoked"
          rejectWhen (revokedAt < member.createdAtMilliseconds ∨
              revokedAt < subscription.createdAtMilliseconds ∨
              revokedAt < subscription.updatedAtMilliseconds)
            .invalidMember "tenant membership revocation is out of order"

/-- The second loop of `RevokeTenantMemberships`, on one target. -/
def revokeTarget (tenantID : UUID) (revokedAt : Int) (s : MemoryStore)
    (target : TenantMembershipRevocationItem) : MemoryStore :=
  match s.domains.get? ⟨tenantID, target.domainID⟩ with
  | none => s
  | some d =>
    match d.members.get? target.memberID, d.subscriptions.get? target.subscriptionID with
    | some member, some subscription =>
      s.setDomain ⟨tenantID, target.domainID⟩
        (d.revokeMembership target member subscription revokedAt)
    | _, _ => s

def revokeTenantMemberships (credential : TenantCredential)
    (revocation : TenantMembershipRevocation) :
    Attempt MemoryStore RelayError TenantMembershipRevocationResult := do
  ofExcept revocation.validate
  let s ← get
  match s.tenants.get? credential.tenantID with
  | none => fail (protocolError .tenantNotFound "tenant was not found")
  | some tenant => do
    ofExcept (tenant.registration.authorize credential)
    match tenant.membershipRevocations.get? revocation.retryID with
    | some existing =>
      if existing = revocation then
        pure ⟨.duplicate, existing.retryID, existing.revokedAtMilliseconds, existing.memberships⟩
      else
        fail (protocolError .memberCollision
          "tenant membership revocation retry ID was reused")
    | none => do
      ofExcept (revocation.memberships.forM
        (s.checkRevocationTarget credential.tenantID revocation.revokedAtMilliseconds))
      modify (fun s =>
        let s := revocation.memberships.foldl
          (revokeTarget credential.tenantID revocation.revokedAtMilliseconds) s
        { s with
          tenants := s.tenants.set credential.tenantID
            { tenant with
              membershipRevocations :=
                tenant.membershipRevocations.set revocation.retryID revocation } })
      pure ⟨.accepted, revocation.retryID, revocation.revokedAtMilliseconds, revocation.memberships⟩

end MemoryStore

end FacetsNode.Relay
