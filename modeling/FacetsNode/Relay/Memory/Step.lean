import FacetsNode.Relay.Memory.Operation

/-!
# What one operation can do

`Operation.apply` runs a long list of checks; the invariants only need to know what passes them.
`DomainStep s key op d d'` lists everything operation `op`, issued in store `s`, can do to the
domain filed under `key`: close the fences that are due, or not, and then have one `Effect` — none
at all, a change of the authority records, or exactly one of the effects below, under the guards the
code checked. `StoreStep s op s'` says the same of the store. `Operation.apply_step` proves that the
relation covers the code, and `StoreStep.domain_step` is the form the invariants use.
-/

namespace FacetsNode.Relay

open Attempt

/-! ## Authority records -/

/-- The records of a domain that say who may do what. -/
structure Authority where
  administrationDigest : GoString
  (memberSubscriptions admissionSubscriptions : GoMap UUID UUID)
  members : GoMap UUID MemberRegistration
  admissions : GoMap UUID MemberAdmission
  rotations : GoMap UUID MemoryCredentialRotation
  capabilityChanges : GoMap UUID MemoryMemberCapabilityChange

namespace MemoryDomain

def authority (d : MemoryDomain) : Authority :=
  ⟨d.registration.administrationDigest, d.memberSubscriptions, d.admissionSubscriptions, d.members,
   d.admissions, d.rotations, d.capabilityChanges⟩

/-- The domain with other authority records and nothing else changed. -/
def withAuthority (d : MemoryDomain) (a : Authority) : MemoryDomain :=
  { d with
    registration := { d.registration with administrationDigest := a.administrationDigest }
    memberSubscriptions := a.memberSubscriptions
    admissionSubscriptions := a.admissionSubscriptions
    members := a.members
    admissions := a.admissions
    rotations := a.rotations
    capabilityChanges := a.capabilityChanges }

end MemoryDomain

/-- The member belongs to the domain filed under `key`. -/
def MemberRegistration.InDomain (key : DomainKey) (member : MemberRegistration) : Prop :=
  member.tenantID = key.tenantID ∧ member.domainID = key.domainID

/-- What a write of the authority records does to the members, to the credential rotations and to
the capability changes. -/
inductive AuthorityChange (key : DomainKey) (op : Operation) (a a' : Authority) : Prop
  | none (hmembers : a'.members = a.members) (hrotations : a'.rotations = a.rotations)
      (hchanges : a'.capabilityChanges = a.capabilityChanges)
  | rotateAdministration {rotationID rotation}
      (hfresh : a.rotations.get? rotationID = Option.none)
      (hsubject : rotation.subjectType = .administration) (hmembers : a'.members = a.members)
      (hrotations : a'.rotations = a.rotations.set rotationID rotation)
      (hchanges : a'.capabilityChanges = a.capabilityChanges)
  | rotateMember {memberID member rotationID digest} {now : Int}
      (hfresh : a.rotations.get? rotationID = Option.none)
      (hmember : a.members.get? memberID = some member)
      (hunused : rotationDigestWasUsed a.rotations .member memberID digest = false)
      (hnew : digest ≠ member.authorizationDigest)
      (hmembers : a'.members = a.members.set memberID { member with authorizationDigest := digest })
      (hrotations : a'.rotations = a.rotations.set rotationID
        ⟨.member, memberID, member.authorizationDigest, digest, now⟩)
      (hchanges : a'.capabilityChanges = a.capabilityChanges)
  | newMember {member} (hnew : a.members.get? member.memberID = Option.none)
      (hmembers : a'.members = a.members.set member.memberID member)
      (hrotations : a'.rotations = a.rotations)
      (hchanges : a'.capabilityChanges = a.capabilityChanges) (hop : op.enrolls = true)
      (hscope : member.InDomain key)
  | replaceMember {credential claim previousSubscriptionID now previous member}
      (hop : op = .claimReplacingInactiveMembership credential claim previousSubscriptionID now)
      (hkey : key = ⟨credential.tenantID, credential.domainID⟩)
      (hprevious : a.members.get? claim.memberID = some previous)
      (hnew : claim.authorizationDigest ≠ previous.authorizationDigest)
      (hid : member.memberID = claim.memberID)
      (hdigest : member.authorizationDigest = claim.authorizationDigest)
      (hmembers : a'.members = a.members.set claim.memberID member)
      (hrotations : a'.rotations = a.rotations)
      (hchanges : a'.capabilityChanges = a.capabilityChanges) (hscope : member.InDomain key)
  | revokeMember {memberID member revokedAt} (hmember : a.members.get? memberID = some member)
      (hmembers : a'.members =
        a.members.set memberID { member with revokedAtMilliseconds := some revokedAt })
      (hrotations : a'.rotations = a.rotations)
      (hchanges : a'.capabilityChanges = a.capabilityChanges) (hop : op.revokesMembers = true)
  | changeCapabilities {retryID memberID member capabilities change}
      (hfresh : a.capabilityChanges.get? retryID = Option.none)
      (hmember : a.members.get? memberID = some member)
      (hmembers : a'.members =
        a.members.set member.memberID { member with capabilities := capabilities })
      (hrotations : a'.rotations = a.rotations)
      (hchanges : a'.capabilityChanges = a.capabilityChanges.set retryID change)

theorem AuthorityChange.refl {key op a} : AuthorityChange key op a a := .none rfl rfl rfl

/-- What a write of the authority records does to the subscriptions members hold and admissions lead
to: nothing, and no admission is claimed, unless the operation lets somebody in. -/
inductive EnrollmentChange (op : Operation) (a a' : Authority) : Prop
  | kept (hheld : a'.memberSubscriptions = a.memberSubscriptions)
      (hopen : a'.admissionSubscriptions = a.admissionSubscriptions)
      (hclaims : ∀ id admission', a'.admissions.get? id = some admission' →
        ∃ admission, a.admissions.get? id = some admission ∧
          admission'.claimedMemberID = admission.claimedMemberID)
  | enrolled (hop : op.enrolls = true)

theorem EnrollmentChange.refl {op a} : EnrollmentChange op a a :=
  .kept rfl rfl fun _ admission h => ⟨admission, h, rfl⟩

/-! ## Steps of a domain -/

/-- What operation `op` can do to a domain once the fences that are due are closed. Where the code
looks at the domain before closing them, the guard speaks of `d₀`. -/
inductive Effect (s : MemoryStore) (key : DomainKey) (d₀ : MemoryDomain) :
    Operation → MemoryDomain → MemoryDomain → Prop
  | unchanged {op d} : Effect s key d₀ op d d
  | authority {op d d'} (h : d' = d.withAuthority d'.authority)
      (hchange : AuthorityChange key op d.authority d'.authority)
      (henrollment : EnrollmentChange op d.authority d'.authority) : Effect s key d₀ op d d'
  | testSubscription {op d d' credential id createdAt} (hop : op.isTestHelper = true)
      (h : d' = (d.ensureTestSubscription credential id createdAt).withAuthority d'.authority)
      (hchange : AuthorityChange key op d.authority d'.authority) : Effect s key d₀ op d d'
  | createSubscription {credential request d} (hnil : request.subscriptionID ≠ uuidNil)
      (hnew : d.subscriptions.get? request.subscriptionID = none) :
      Effect s key d₀ (.createSubscription credential request) d
        (d.fileSubscription request (d.newSubscription credential request))
  | changeSubscriptionStatus {credential subscriptionID request subscription d}
      (hnil : subscriptionID ≠ uuidNil)
      (hsub : d.subscriptions.get? subscriptionID = some subscription)
      (hlive : subscription.status ≠ .revoked) (hstatus : request.status ≠ .active)
      (hfresh : d.subscriptionChanges.get? request.retryID = none) :
      Effect s key d₀ (.changeSubscriptionStatus credential subscriptionID request) d
        (d.fileStatusChange subscriptionID request (d.changedSubscription subscription request))
  | requestRebootstrap {credential request now expiresAt subscription checkpoint d}
      (hnow : 0 ≤ now)
      (hsub : d.readableMemberSubscription credential.memberID = .ok subscription)
      (hfresh : d.rebootstrapRequests.get? request.retryID = none)
      (hcheckpoint : d.checkpoints.get? request.checkpointID = some checkpoint)
      (hstate : checkpoint.state = .activated)
      (hroot : request.rootMessageID ∈ checkpoint.candidate.retainedMessageIDs)
      (hidle : subscription.status = .rebootstrapRequired →
        d.memorySubscriptionHasActiveRebootstrap subscription.subscriptionID now = false)
      (hlatest : d.latestCheckpointID = some request.checkpointID) :
      Effect s key d₀ (.requestSubscriptionRebootstrap credential request now) d
        ((d.withdrawAcknowledgments subscription.subscriptionID
          checkpoint.startSequence).fileRebootstrapRequest request
            (MemoryDomain.fencedSubscription subscription checkpoint now) expiresAt)
  | renewRebootstrap {credential renewal now expiresAt subscription recovery d}
      (hsub : d.readableMemberSubscription credential.memberID = .ok subscription)
      (hrecovery : d.rebootstrapRequests.get? renewal.requestRetryID = some recovery)
      (hown : recovery.subscriptionID = subscription.subscriptionID)
      (hactive : d.memoryRebootstrapRequestIsActive renewal.requestRetryID recovery now = true)
      (hfresh : d.rebootstrapRenewals.get? renewal.retryID = none)
      (hkey : key = ⟨credential.tenantID, credential.domainID⟩)
      (hlonger : recovery.expiresAtMilliseconds ≤ expiresAt) :
      Effect s key d₀ (.renewSubscriptionRebootstrap credential renewal now) d
        (d.fileRebootstrapRenewal renewal subscription recovery expiresAt)
  | cancelRebootstrap {credential cancellation now subscription d}
      (hfresh : d.rebootstrapCancellations.get? cancellation.retryID = none) :
      Effect s key d₀ (.cancelSubscriptionRebootstrap credential cancellation now) d
        (d.fileRebootstrapCancellation cancellation subscription)
  | completeRebootstrap {credential completion now subscription recovery cursor startSequence d}
      (hsub : d.readableMemberSubscription credential.memberID = .ok subscription)
      (hfresh : d.rebootstrapCompletions.get? completion.retryID = none)
      (hcursor : subscription.startCursor = some cursor)
      (hstatus : subscription.status = .rebootstrapRequired)
      (hrecovery : d.rebootstrapRequests.get? completion.requestRetryID = some recovery)
      (hown : recovery.subscriptionID = subscription.subscriptionID)
      (hactive : d.memoryRebootstrapRequestIsActive completion.requestRetryID recovery now = true)
      (hstart : decodeCursor cursor = .ok startSequence) :
      Effect s key d₀ (.completeSubscriptionRebootstrap credential completion now) d
        (d.fileRebootstrapCompletion completion
          (MemoryDomain.restoredSubscription subscription now) startSequence)
  | revokeMembership {credential revocation target member subscription d}
      (hnil : target.subscriptionID ≠ uuidNil)
      (hsub : d.subscriptions.get? target.subscriptionID = some subscription)
      (hmember : d.members.get? target.memberID = some member) :
      Effect s key d₀ (.revokeTenantMemberships credential revocation) d
        (d.revokeMembership target member subscription revocation.revokedAtMilliseconds)
  | publish {credential envelope now byteCount subscription d}
      (hkey : key = ⟨credential.tenantID, credential.domainID⟩)
      (hvalid : envelope.validate = .ok ())
      (hsub : d₀.activeMemberSubscription credential.memberID = .ok subscription)
      (hstored : d₀.messageByID.get? envelope.messageID = none)
      (htombstone : d₀.fenceMessageTombstones.get? envelope.messageID = none)
      (hfence : d.checkpointFences.pairs.any (fun p =>
        p.2.state.status = .active ∧ p.2.holderSubscriptionID ≠ subscription.subscriptionID) = false)
      (hbytes : envelope.ciphertextByteCount = .ok byteCount)
      (hquota : d.registration.usesSharedCapacity = false →
        (d.messages.length : Int) < d.registration.maximumMessageCount ∧
          byteCount ≤ d.registration.maximumMessageByteCount - d.messageBytes)
      (htenant : (s.setDomain key d).ensureTenantMessageCapacityLocked credential.tenantID
        byteCount = .ok ()) :
      Effect s key d₀ (.publish credential envelope now) d
        (d.storeMessage (d.newMessage credential envelope byteCount subscription.subscriptionID))
  | acknowledge {credential messageID stage now subscription m d}
      (hm : d.messageByID.get? messageID = some m)
      (hkey : key = ⟨credential.tenantID, credential.domainID⟩)
      (hsub : d.readableMemberSubscription credential.memberID = .ok subscription)
      (hplain : d = d₀) :
      Effect s key d₀ (.acknowledge credential messageID stage now) d
        (d.recordAcknowledgment m subscription.subscriptionID stage)
  | createFence {credential request now holder lifetime d}
      (hnew : d.checkpointFences.get? request.fenceID = none)
      (hidle : d.checkpointFences.pairs.any (fun p => p.2.state.status = .active) = false)
      (hfresh : d.checkpointFenceRetries.get? request.retryID = none) :
      Effect s key d₀ (.createCheckpointFence credential request now) d
        (d.fileFence (d.newFence request holder now lifetime))
  | abortFence {credential request now fence result d}
      (hfence : d.checkpointFences.get? request.fenceID = some fence)
      (hactive : fence.state.status = .active)
      (hfresh : d₀.checkpointFenceAborts.get? request.retryID = none) :
      Effect s key d₀ (.abortCheckpointFence credential request now) d
        ((d.closeFence request.fenceID fence .aborted request.fenceID).recordFenceAbort request
          result)
  | stage {credential candidate now coveredThrough fence d}
      (hcovered : decodeCursor candidate.coveredThroughCursor = .ok coveredThrough)
      (hfence : d.checkpointFences.get? candidate.fenceID = some fence)
      (hactive : fence.state.status = .active)
      (hboundary : candidate.coveredThroughCursor = fence.state.boundaryCursor)
      (hnew : d.checkpoints.get? candidate.checkpointID = none)
      (hsuffix : d.memoryFenceSuffixMatches fence candidate.retainedMessageIDs = true) :
      Effect s key d₀ (.stageCheckpoint credential candidate now) d
        (d.fileCheckpoint
          (MemoryDomain.stagedCheckpoint candidate credential.memberID coveredThrough))
  | activate {credential request now checkpoint fence result d}
      (hkey : key = ⟨credential.tenantID, credential.domainID⟩)
      (haccepted : (MemoryStore.activateCheckpoint credential request now s).1 = .ok result)
      (hresult : result.acceptance = .accepted)
      (hcheckpoint : d.checkpoints.get? request.checkpointID = some checkpoint)
      (hstate : checkpoint.state = .staged)
      (hfence : d.checkpointFences.get? checkpoint.candidate.fenceID = some fence)
      (hactive : fence.state.status = .active)
      (hsuffix : d.memoryFenceSuffixMatches fence checkpoint.candidate.retainedMessageIDs = true)
      (hregress : MemoryDomain.memoryCheckpointRegresses checkpoint.candidate
        checkpoint.coveredThrough d.latestCheckpoint = false)
      (hidle : d.memoryHasBoundRebootstrap now = false)
      (hexpired : d = d₀.refreshMemoryFence now)
      (hfresh : d₀.checkpointActivations.get? request.retryID = none) :
      Effect s key d₀ (.activateCheckpoint credential request now) d
        (d.fileActivation checkpoint fence request result)
  | collect {credential request checkpoint plan result d}
      (hcheckpoint : d.checkpoints.get? request.checkpointID = some checkpoint)
      (hplan : d.memoryCheckpointPlan request.checkpointID = .ok plan)
      (heligible : plan.eligible = true)
      (hkey : key = ⟨credential.tenantID, credential.domainID⟩)
      (hfresh : d.checkpointCollections.get? request.retryID = none) :
      Effect s key d₀ (.collectCheckpoint credential request) d
        ((d.deleteCollected request.checkpointID checkpoint
          (MemoryDomain.collectedMessages checkpoint request.maximumMessageCount.toNat)
          (MemoryDomain.collectedBlobs checkpoint request.maximumBlobCount.toNat)).recordCollection
            request result)
  | commitBlob {credential blobID byteCount now subscription d}
      (hkey : key = ⟨credential.tenantID, credential.domainID⟩)
      (hcount : 0 ≤ byteCount)
      (hnew : d₀.blobs.get? blobID = none)
      (hcapacity : d.ensureBlobCapacity byteCount = .ok ())
      (htenant : (s.setDomain key d).ensureTenantBlobCapacityLocked credential.tenantID
        byteCount = .ok ())
      (hexpired : d = d₀.refreshMemoryFence now)
      (hfence : d.checkpointFences.pairs.any (fun p =>
        p.2.state.status = .active ∧ p.2.holderSubscriptionID ≠ subscription) = false)
      (haccepted : (MemoryStore.commitBlobPublish credential blobID byteCount now s).1 =
        .ok ⟨.accepted, byteCount⟩) :
      Effect s key d₀ (.commitBlobPublish credential blobID byteCount now) d
        (d.storeBlob
          ⟨credential.tenantID, credential.domainID, blobID, credential.memberID, byteCount, now⟩
          subscription)
  | createUpload {credential request now subscription d}
      (hkey : key = ⟨credential.tenantID, credential.domainID⟩)
      (hcount : 0 ≤ request.byteCount)
      (hnew : d.blobUploads.get? request.uploadID = none)
      (hquota : d.registration.usesSharedCapacity = false →
        (d.blobs.len : Int) + d.reservedBlobCount < d.registration.maximumBlobCount ∧
          request.byteCount ≤
            d.registration.maximumBlobByteCount - d.blobBytes - d.reservedBlobBytes)
      (htenant : (s.setDomain key d).ensureTenantBlobCapacityLocked credential.tenantID
        request.byteCount = .ok ()) :
      Effect s key d₀ (.createBlobUpload credential request now) d
        (d.fileUpload (MemoryDomain.newUpload request subscription credential.memberID))
  | appendChunk {credential request now write upload d}
      (hupload : d₀.blobUploads.get? request.uploadID = some upload) :
      Effect s key d₀ (.appendBlobUploadChunk credential request now write) d
        (d.setUpload request.uploadID (MemoryDomain.appendedUpload upload request now))
  | finalizeExisting {credential request now publish upload result d}
      (hkey : key = ⟨credential.tenantID, credential.domainID⟩)
      (haccepted : (MemoryStore.finalizeBlobUpload credential request now publish s).1 = .ok result)
      (hresult : result.acceptance = .accepted)
      (hupload : d₀.blobUploads.get? request.uploadID = some upload)
      (hcount : request.byteCount = upload.status.byteCount)
      (hfresh : d₀.blobUploadFinalizations.get? request.retryID = none) :
      Effect s key d₀ (.finalizeBlobUpload credential request now publish) d
        (d.releaseUpload request upload now result)
  | finalizeNew {credential request now publish upload result d}
      (hkey : key = ⟨credential.tenantID, credential.domainID⟩)
      (haccepted : (MemoryStore.finalizeBlobUpload credential request now publish s).1 = .ok result)
      (hresult : result.acceptance = .accepted)
      (hupload : d₀.blobUploads.get? request.uploadID = some upload)
      (hcount : request.byteCount = upload.status.byteCount)
      (hnonneg : 0 ≤ request.byteCount)
      (hnew : d.blobs.get? request.relayBlobID = none)
      (hfresh : d₀.blobUploadFinalizations.get? request.retryID = none)
      (hfence : d.checkpointFences.pairs.any (fun p =>
        p.2.state.status = .active ∧ p.2.holderSubscriptionID ≠ upload.subscriptionID) = false) :
      Effect s key d₀ (.finalizeBlobUpload credential request now publish) d
        ((d.storeBlob
          ⟨credential.tenantID, credential.domainID, request.relayBlobID, upload.publisherMemberID,
           request.byteCount, now⟩ upload.subscriptionID).releaseUpload request upload now result)

/-- The fences of a domain that are due at the operation's instant are closed, or left for later. -/
inductive Expiry (op : Operation) (d : MemoryDomain) : MemoryDomain → Prop
  | none : Expiry op d d
  | due {now} (hnow : op.now = some now) : Expiry op d (d.refreshMemoryFence now)

/-- Operation `op`, issued in store `s`, takes the domain under `key` from `d` to `d'`. -/
inductive DomainStep (s : MemoryStore) (key : DomainKey) (op : Operation) (d d' : MemoryDomain) :
    Prop
  | mk {d₁} (hexpiry : Expiry op d d₁) (heffect : Effect s key d op d₁ d')

/-- The helper of the tests files a subscription, if anything. -/
@[elab_as_elim] theorem MemoryDomain.ensured {P : MemoryDomain → Prop} {d d' : MemoryDomain}
    {id : UUID} {a : Authority}
    {credential : AdministrationCredential} {createdAt : Int}
    (heq : d' = (d.ensureTestSubscription credential id createdAt).withAuthority a)
    (h : ∀ subscriptions, P ({ d with subscriptions :=
      subscriptions }.withAuthority a)) : P d' := by
  rw [heq]
  unfold ensureTestSubscription
  split
  · exact h _
  · exact h d.subscriptions

namespace DomainStep

variable {s : MemoryStore} {key : DomainKey} {op : Operation} {d d' : MemoryDomain} {now : Int}

/-- An effect without a look at the fences. -/
theorem plain (h : Effect s key d op d d') : DomainStep s key op d d' := ⟨.none, h⟩

/-- An effect after the fences that are due are closed. -/
theorem due (hnow : op.now = some now) (h : Effect s key d op (d.refreshMemoryFence now) d') :
    DomainStep s key op d d' := ⟨.due hnow, h⟩

theorem unchanged : DomainStep s key op d d := plain .unchanged

theorem refresh (hnow : op.now = some now) : DomainStep s key op d (d.refreshMemoryFence now) :=
  due hnow .unchanged

end DomainStep

/-! ## Steps of the store -/

/-- A new domain comes with its tenant: the tenant is there, or is filed along with it. -/
inductive TenantFor (s : MemoryStore) (tenantID : UUID) : GoMap UUID MemoryTenant → Prop
  | existing {tenant} (h : s.tenants.get? tenantID = some tenant) : TenantFor s tenantID s.tenants
  | filed (tenant : MemoryTenant) (h : s.tenants.get? tenantID = none)
      (hvalid : tenant.registration.quota.valid = true)
      (hrevocations : tenant.membershipRevocations = ∅) :
      TenantFor s tenantID (s.tenants.set tenantID tenant)

inductive StoreStep (s : MemoryStore) : Operation → MemoryStore → Prop
  | unchanged {op} : StoreStep s op s
  | domain {op key d d'} (hd : s.domains.get? key = some d) (h : DomainStep s key op d d') :
      StoreStep s op (s.setDomain key d')
  | tenant {op tenantID tenant tenant'} (h : s.tenants.get? tenantID = some tenant)
      (hquota : tenant'.registration.quota = tenant.registration.quota)
      (hrevocations : tenant'.membershipRevocations = tenant.membershipRevocations) :
      StoreStep s op (s.setTenant tenantID tenant')
  | newDomain {op tenants p}
      (hnew : s.domains.get? ⟨p.registration.tenantID, p.registration.domainID⟩ = none)
      (htenant : TenantFor s p.registration.tenantID tenants)
      (hvalid : p.validate = .ok ()) (hop : op.enrolls = true) :
      StoreStep s op ({ s with tenants := tenants }.createDomainLocked p)
  | revocation {credential revocation tenant tenant'}
      (htargets : ∀ target ∈ revocation.memberships, target.subscriptionID ≠ uuidNil)
      (hdistinct : (revocation.memberships.map (·.domainID)).Nodup)
      (h : s.tenants.get? credential.tenantID = some tenant)
      (hquota : tenant'.registration.quota = tenant.registration.quota) :
      StoreStep s (.revokeTenantMemberships credential revocation)
        ((revocation.memberships.foldl (MemoryStore.revokeTarget credential.tenantID
          revocation.revokedAtMilliseconds) s).setTenant credential.tenantID tenant')

/-! ## Rules for the bodies of operations -/

section Rules
variable {α : Type} {s : MemoryStore} {Q : Except RelayError α → MemoryStore → Prop}

theorem ends_final {m : Attempt MemoryStore RelayError α} {P : MemoryStore → Prop}
    (h : Ends m s (fun _ s' => P s')) : P (m s).2 := h

/-- The final state, for a postcondition that speaks of the outcome too. -/
theorem ends_outcome {m : Attempt MemoryStore RelayError α} {P : MemoryStore → Prop}
    (h : Ends m s (fun r s' => (m s).1 = r → P s')) : P (m s).2 := h rfl

theorem ends_onDomain {key} {found : Except RelayError MemoryDomain}
    {body : Attempt MemoryDomain RelayError α} (herr : ∀ e, Q (.error e) s)
    (hok : ∀ d, found = .ok d → Ends body d (fun r d' => Q r (s.setDomain key d'))) :
    Ends (MemoryStore.onDomain key found body) s Q := by
  cases found with
  | error e => exact herr e
  | ok d => exact hok d rfl

variable {d : MemoryDomain} {credential : Credential} {capability : Capability} {now : Int}

theorem authorizedDomain_eq_ok {credential} (h : s.authorizedDomain credential = .ok d) :
    s.domains.get? ⟨credential.tenantID, credential.domainID⟩ = some d := by
  unfold MemoryStore.authorizedDomain at h
  split at h
  · cases h
  · next d' hd =>
    rw [hd]
    cases hr : d'.registration.authorize credential with
    | error e => rw [hr] at h; cases h
    | ok u => rw [hr] at h; cases h; rfl

theorem authorizedMember_eq_ok (h : s.authorizedMember credential capability now = .ok d) :
    s.domains.get? ⟨credential.tenantID, credential.domainID⟩ = some d := by
  unfold MemoryStore.authorizedMember at h
  split at h
  · cases h
  · next d' hd =>
    rw [hd]
    split at h
    · cases h
    · next member _ =>
      cases hr : member.authorize credential capability now with
      | error e => rw [hr] at h; cases h
      | ok u => rw [hr] at h; cases h; rfl

theorem findDomain_eq_ok {key} (h : s.findDomain key = .ok d) : s.domains.get? key = some d := by
  unfold MemoryStore.findDomain at h
  split at h
  · cases h
  · next hd => cases h; exact hd

theorem ends_asAdministrator {credential}
    {body : Attempt MemoryDomain RelayError α} (herr : ∀ e, Q (.error e) s)
    (hok : ∀ d, s.domains.get? ⟨credential.tenantID, credential.domainID⟩ = some d →
      Ends body d (fun r d' => Q r (s.setDomain ⟨credential.tenantID, credential.domainID⟩ d'))) :
    Ends (MemoryStore.asAdministrator credential body) s Q :=
  ends_onDomain herr (fun d hd => hok d (authorizedDomain_eq_ok hd))

theorem ends_authorizedMember
    {body : MemoryStore → Attempt MemoryDomain RelayError α} (herr : ∀ e, Q (.error e) s)
    (hok : ∀ d, s.authorizedMember credential capability now = .ok d → Ends (body s) d (fun r d' =>
        Q r (s.setDomain ⟨credential.tenantID, credential.domainID⟩ d'))) :
    Ends (MemoryStore.asMember credential capability now body) s Q :=
  ends_onDomain herr hok

theorem ends_asMember
    {body : MemoryStore → Attempt MemoryDomain RelayError α} (herr : ∀ e, Q (.error e) s)
    (hok : ∀ d, s.domains.get? ⟨credential.tenantID, credential.domainID⟩ = some d →
      Ends (body s) d (fun r d' =>
        Q r (s.setDomain ⟨credential.tenantID, credential.domainID⟩ d'))) :
    Ends (MemoryStore.asMember credential capability now body) s Q :=
  ends_authorizedMember herr (fun d hd => hok d (authorizedMember_eq_ok hd))

end Rules

/-- Whatever fails behind `memoryFenceAllowsWrite` fails in the refreshed domain. -/
theorem ends_memoryFenceAllowsWrite {α : Type} {subscriptionID} {now : Int}
    {d} {f : Unit → Attempt MemoryDomain RelayError α}
    {Q : Except RelayError α → MemoryDomain → Prop}
    (herr : ∀ e, Q (.error e) (d.refreshMemoryFence now))
    (hok : (d.refreshMemoryFence now).checkpointFences.pairs.any (fun p =>
        p.2.state.status = .active ∧ p.2.holderSubscriptionID ≠ subscriptionID) = false →
      Ends (f ()) (d.refreshMemoryFence now) Q) :
    Ends (MemoryDomain.memoryFenceAllowsWrite subscriptionID now >>= f) d Q := by
  refine ends_bind (ends_modify (ends_get ?_))
  unfold Ends rejectIf
  split
  · exact herr _
  · next h => exact hok (Bool.eq_false_iff.mpr h)

end FacetsNode.Relay
