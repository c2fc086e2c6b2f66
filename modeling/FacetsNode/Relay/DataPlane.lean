import FacetsNode.Relay.Model

/-!
# Tenants, subscriptions and recovery requests

The requests of the relay's data plane with their checks, and the capacity policy: a quota is either
all zero — shared physical capacity — or has every ceiling positive.
-/

namespace FacetsNode.Relay

/-! ## Tenants -/

structure TenantCredential where
  tenantID : UUID
  token : GoString

def tenantAuthorizationDigest (credential : TenantCredential) : Option GoString :=
  if credential.tenantID = uuidNil ∨ validToken credential.token = false then none
  else some (scopedDigest "Facets replica relay tenant provisioning v1"
    [uuidString credential.tenantID, credential.token])

structure TenantQuota where
  (maximumDomainCount maximumAggregateMessageCount maximumAggregateMessageByteCount : Int)
  (maximumAggregateBlobCount maximumAggregateBlobByteCount : Int)
  deriving DecidableEq

def TenantQuota.usesSharedCapacity (q : TenantQuota) : Bool := q = ⟨0, 0, 0, 0, 0⟩

def TenantQuota.valid (q : TenantQuota) : Bool :=
  q.usesSharedCapacity ||
    (decide (q.maximumDomainCount > 0) && decide (q.maximumAggregateMessageCount > 0) &&
      decide (q.maximumAggregateMessageByteCount > 0) && decide (q.maximumAggregateBlobCount > 0) &&
      decide (q.maximumAggregateBlobByteCount > 0))

structure TenantRegistration where
  version : Int
  (retryID tenantID : UUID)
  authorizationDigest : GoString
  (createdAtMilliseconds maximumDomainCount maximumAggregateMessageCount : Int)
  (maximumAggregateMessageByteCount maximumAggregateBlobCount maximumAggregateBlobByteCount : Int)
  deriving DecidableEq

namespace TenantRegistration

def quota (r : TenantRegistration) : TenantQuota :=
  ⟨r.maximumDomainCount, r.maximumAggregateMessageCount, r.maximumAggregateMessageByteCount,
   r.maximumAggregateBlobCount, r.maximumAggregateBlobByteCount⟩

def usesSharedCapacity (r : TenantRegistration) : Bool := r.quota.usesSharedCapacity

def validate (r : TenantRegistration) : Except RelayError Unit :=
  rejectWhen (r.version ≠ schemaVersion ∨ r.retryID = uuidNil ∨ r.tenantID = uuidNil ∨
      validDigest r.authorizationDigest = false ∨ r.createdAtMilliseconds < 0 ∨
      r.quota.valid = false)
    .invalidTenant "tenant fields are invalid"

def authorize (r : TenantRegistration) (credential : TenantCredential) :
    Except RelayError Unit := do
  rejectWhen (credential.tenantID ≠ r.tenantID)
    .wrongScope "tenant credential belongs to another tenant"
  rejectWhen (digestMatches (tenantAuthorizationDigest credential) r.authorizationDigest = false)
    .unauthorized "tenant credential is invalid"

end TenantRegistration

structure TenantCredentialRotation where
  version : Int
  (rotationID tenantID : UUID)
  replacementAuthorizationDigest : GoString
  rotatedAtMilliseconds : Int

def TenantCredentialRotation.validate (r : TenantCredentialRotation) : Except RelayError Unit :=
  rejectWhen (r.version ≠ schemaVersion ∨ r.rotationID = uuidNil ∨ r.tenantID = uuidNil ∨
      validDigest r.replacementAuthorizationDigest = false ∨ r.rotatedAtMilliseconds < 0)
    .invalidCredentialRotation "tenant credential rotation is invalid"

structure TenantCredentialRotationResult where
  acceptance : Acceptance
  (rotationID tenantID : UUID)
  authorizationDigest : GoString
  rotatedAtMilliseconds : Int

/-- `digestEqual`: both decode, the left one to a full hash, to the same bytes. -/
def digestEqual (left right : GoString) : Bool :=
  match Hex.decode left, Hex.decode right with
  | some l, some r => l.length = 32 && l = r
  | _, _ => false

/-! ## Subscriptions -/

inductive SubscriptionStatus where
  | active
  | rebootstrapRequired
  | revoked
  deriving DecidableEq

structure Subscription where
  version : Int
  (tenantID domainID subscriptionID : UUID)
  status : SubscriptionStatus
  startCursor : Option GoString
  (createdAtMilliseconds updatedAtMilliseconds : Int)
  deriving DecidableEq

/-- `ValidateOpaqueCursor(cursor) != nil`. -/
def invalidOpaqueCursor (cursor : GoString) : Bool :=
  match validateOpaqueCursor cursor with
  | .ok _ => false
  | .error _ => true

def Subscription.validate (s : Subscription) : Except RelayError Unit := do
  rejectWhen (s.version ≠ schemaVersion ∨ s.tenantID = uuidNil ∨ s.domainID = uuidNil ∨
      s.subscriptionID = uuidNil ∨ s.createdAtMilliseconds < 0 ∨
      s.updatedAtMilliseconds < s.createdAtMilliseconds)
    .invalidSubscription "subscription fields are invalid"
  rejectWhen (∃ cursor ∈ s.startCursor, invalidOpaqueCursor cursor = true)
    .invalidSubscription "subscription start cursor is invalid"

structure SubscriptionCreateRequest where
  (retryID subscriptionID : UUID)
  createdAtMilliseconds : Int
  deriving DecidableEq

def SubscriptionCreateRequest.validate (r : SubscriptionCreateRequest) : Except RelayError Unit :=
  rejectWhen (r.retryID = uuidNil ∨ r.subscriptionID = uuidNil ∨ r.createdAtMilliseconds < 0)
    .invalidSubscription "subscription creation is invalid"

structure SubscriptionCreateResponse where
  acceptance : Acceptance
  retryID : UUID
  subscription : Subscription

structure SubscriptionStatusChangeRequest where
  retryID : UUID
  status : SubscriptionStatus
  changedAtMilliseconds : Int
  deriving DecidableEq

def SubscriptionStatusChangeRequest.validate (r : SubscriptionStatusChangeRequest) :
    Except RelayError Unit :=
  rejectWhen (r.retryID = uuidNil ∨ r.status = .active ∨ r.changedAtMilliseconds < 0)
    .invalidSubscription "subscription status change is invalid"

structure SubscriptionStatusChangeResponse where
  acceptance : Acceptance
  retryID : UUID
  subscription : Subscription
  deriving DecidableEq

/-! ## Recovery: request, renewal, cancellation, completion -/

def minimumSubscriptionRebootstrapLeaseMilliseconds : Int := 5 * 60 * 1000
def maximumSubscriptionRebootstrapLeaseMilliseconds : Int := 24 * 60 * 60 * 1000

def maxInt64 : Int := 2 ^ 63 - 1

structure SubscriptionRebootstrapRequest where
  (retryID checkpointID rootMessageID : UUID)
  (requestedAtMilliseconds leaseDurationMilliseconds : Int)
  deriving DecidableEq

def SubscriptionRebootstrapRequest.validate (r : SubscriptionRebootstrapRequest) :
    Except RelayError Unit :=
  rejectWhen (r.retryID = uuidNil ∨ r.checkpointID = uuidNil ∨ r.rootMessageID = uuidNil ∨
      r.requestedAtMilliseconds < 0 ∨
      r.leaseDurationMilliseconds < minimumSubscriptionRebootstrapLeaseMilliseconds ∨
      r.leaseDurationMilliseconds > maximumSubscriptionRebootstrapLeaseMilliseconds)
    .invalidSubscription "subscription rebootstrap request is invalid"

def SubscriptionRebootstrapRequest.leaseExpiresAt (r : SubscriptionRebootstrapRequest)
    (nowMilliseconds : Int) : Except RelayError Int := do
  r.validate
  rejectWhen (nowMilliseconds < 0 ∨ nowMilliseconds > maxInt64 - r.leaseDurationMilliseconds)
    .invalidSubscription "subscription rebootstrap lease is invalid"
  .ok (nowMilliseconds + r.leaseDurationMilliseconds)

structure SubscriptionRebootstrapResponse where
  acceptance : Acceptance
  (retryID checkpointID rootMessageID : UUID)
  leaseExpiresAtMilliseconds : Int
  subscription : Subscription
  deriving DecidableEq

structure SubscriptionRebootstrapRenewal where
  (retryID requestRetryID checkpointID rootMessageID : UUID)
  (expectedLeaseExpiresAtMilliseconds requestedAtMilliseconds leaseDurationMilliseconds : Int)
  deriving DecidableEq

def SubscriptionRebootstrapRenewal.validate (r : SubscriptionRebootstrapRenewal) :
    Except RelayError Unit :=
  rejectWhen (r.retryID = uuidNil ∨ r.requestRetryID = uuidNil ∨ r.checkpointID = uuidNil ∨
      r.rootMessageID = uuidNil ∨ r.expectedLeaseExpiresAtMilliseconds ≤ 0 ∨
      r.requestedAtMilliseconds < 0 ∨
      r.leaseDurationMilliseconds < minimumSubscriptionRebootstrapLeaseMilliseconds ∨
      r.leaseDurationMilliseconds > maximumSubscriptionRebootstrapLeaseMilliseconds)
    .invalidSubscription "subscription rebootstrap renewal is invalid"

def SubscriptionRebootstrapRenewal.leaseExpiresAt (r : SubscriptionRebootstrapRenewal)
    (nowMilliseconds : Int) : Except RelayError Int := do
  r.validate
  rejectWhen (nowMilliseconds < 0 ∨ nowMilliseconds > maxInt64 - r.leaseDurationMilliseconds)
    .invalidSubscription "subscription rebootstrap renewal lease is invalid"
  .ok (nowMilliseconds + r.leaseDurationMilliseconds)

structure SubscriptionRebootstrapRenewalResponse where
  acceptance : Acceptance
  (retryID requestRetryID checkpointID rootMessageID : UUID)
  (previousLeaseExpiresAtMilliseconds leaseExpiresAtMilliseconds : Int)
  subscription : Subscription
  deriving DecidableEq

structure SubscriptionRebootstrapCancellation where
  (retryID requestRetryID checkpointID rootMessageID : UUID)
  cancelledAtMilliseconds : Int
  deriving DecidableEq

def SubscriptionRebootstrapCancellation.validate (r : SubscriptionRebootstrapCancellation) :
    Except RelayError Unit :=
  rejectWhen (r.retryID = uuidNil ∨ r.requestRetryID = uuidNil ∨ r.checkpointID = uuidNil ∨
      r.rootMessageID = uuidNil ∨ r.cancelledAtMilliseconds < 0)
    .invalidSubscription "subscription rebootstrap cancellation is invalid"

structure SubscriptionRebootstrapCancellationResponse where
  acceptance : Acceptance
  (retryID requestRetryID checkpointID rootMessageID : UUID)
  subscription : Subscription
  deriving DecidableEq

structure SubscriptionRebootstrapCompletion where
  (retryID requestRetryID checkpointID rootMessageID : UUID)
  completedThroughCursor : GoString
  completedAtMilliseconds : Int
  deriving DecidableEq

def SubscriptionRebootstrapCompletion.validate (r : SubscriptionRebootstrapCompletion) :
    Except RelayError Unit := do
  rejectWhen (r.retryID = uuidNil ∨ r.requestRetryID = uuidNil ∨ r.checkpointID = uuidNil ∨
      r.rootMessageID = uuidNil ∨ r.completedAtMilliseconds < 0)
    .invalidSubscription "subscription rebootstrap completion is invalid"
  rejectWhen (invalidOpaqueCursor r.completedThroughCursor = true)
    .invalidCursor "rebootstrap completion cursor is invalid"

structure SubscriptionRebootstrapCompletionResponse where
  acceptance : Acceptance
  (retryID requestRetryID checkpointID rootMessageID : UUID)
  subscription : Subscription
  deriving DecidableEq

/-! ## Tenant-wide revocation -/

structure TenantMembershipRevocationItem where
  (domainID subscriptionID memberID : UUID)
  deriving DecidableEq

structure TenantMembershipRevocation where
  version : Int
  retryID : UUID
  revokedAtMilliseconds : Int
  memberships : List TenantMembershipRevocationItem
  deriving DecidableEq

/-- The loop of `TenantMembershipRevocation.Validate`; `seen` is its `seenDomains`. -/
def validateRevocationTargets (seen : List UUID) :
    List TenantMembershipRevocationItem → Except RelayError Unit
  | [] => .ok ()
  | item :: items =>
    if item.domainID = uuidNil ∨ item.subscriptionID = uuidNil ∨ item.memberID = uuidNil then
      .error (protocolError .invalidMember "tenant membership revocation target is invalid")
    else if item.domainID ∈ seen then
      .error (protocolError .invalidMember "tenant membership revocation repeats a domain")
    else validateRevocationTargets (item.domainID :: seen) items

def TenantMembershipRevocation.validate (r : TenantMembershipRevocation) :
    Except RelayError Unit := do
  rejectWhen (r.version ≠ schemaVersion ∨ r.retryID = uuidNil ∨ r.revokedAtMilliseconds < 0 ∨
      r.memberships = [])
    .invalidMember "tenant membership revocation is invalid"
  validateRevocationTargets [] r.memberships

structure TenantMembershipRevocationResult where
  acceptance : Acceptance
  retryID : UUID
  revokedAtMilliseconds : Int
  memberships : List TenantMembershipRevocationItem

/-! ## Status -/

structure DomainQuota where
  (maximumMessageCount maximumMessageByteCount maximumBlobCount maximumBlobByteCount : Int)

structure DomainStatus where
  (tenantID domainID : UUID)
  (messageCount messageByteCount blobCount blobByteCount reservedBlobCount : Int)
  (reservedBlobByteCount activeSubscriptionCount : Int)
  oldestUncollectedCursor : Option GoString
  latestActivatedCheckpointID : Option UUID
  quota : DomainQuota

/-! ## Memberships -/

structure SubscriptionMemberRegistration where
  subscriptionID : UUID
  memberRegistration : MemberRegistration

structure SubscriptionMemberAdmission where
  subscriptionID : UUID
  admission : MemberAdmission

structure SubscriptionAdmissionClaimResult where
  acceptance : Acceptance
  member : SubscriptionMemberRegistration

structure SubscriptionAdmissionCreateResult where
  acceptance : Acceptance
  admission : SubscriptionMemberAdmission

/-! ## Provisioning -/

structure DomainProvisioning where
  version : Int
  retryID : UUID
  registration : DomainRegistration
  subscription : Subscription
  initialMember : MemberRegistration
  deriving DecidableEq

def DomainProvisioning.validate (p : DomainProvisioning) : Except RelayError Unit := do
  rejectWhen (p.version ≠ schemaVersion ∨ p.retryID = uuidNil)
    .invalidDomain "domain provisioning fields are invalid"
  p.registration.validate
  p.subscription.validate
  p.initialMember.validate
  rejectWhen (p.subscription.tenantID ≠ p.registration.tenantID ∨
      p.subscription.domainID ≠ p.registration.domainID ∨
      p.initialMember.tenantID ≠ p.registration.tenantID ∨
      p.initialMember.domainID ≠ p.registration.domainID ∨ p.subscription.status ≠ .active ∨
      p.subscription.createdAtMilliseconds ≠ p.registration.createdAtMilliseconds ∨
      p.initialMember.createdAtMilliseconds < p.registration.createdAtMilliseconds)
    .wrongScope "initial domain authority has inconsistent scope"

/-- `ApplyCapacityPolicy`: a shared tenant's domains are shared, a bounded tenant's are bounded. -/
def TenantRegistration.applyCapacityPolicy (r : TenantRegistration) (domain : DomainProvisioning) :
    Except RelayError DomainProvisioning :=
  if r.usesSharedCapacity then
    .ok { domain with registration := domain.registration.withSharedCapacity }
  else if domain.registration.usesSharedCapacity then
    .error (protocolError .invalidDomain "bounded tenant requires explicit domain limits")
  else .ok domain

structure DomainProvisioningResult where
  acceptance : Acceptance
  (retryID tenantID domainID subscriptionID memberID : UUID)
  (administrationAuthorizationDigest memberAuthorizationDigest : GoString)

structure TenantProvisioningResult where
  acceptance : Acceptance
  retryID : UUID
  tenantProvisioningAuthorizationDigest : GoString
  initialDomain : DomainProvisioningResult

end FacetsNode.Relay
