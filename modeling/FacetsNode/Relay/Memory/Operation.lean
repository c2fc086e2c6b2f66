import FacetsNode.Lib.Run
import FacetsNode.Relay.Memory.Authority
import FacetsNode.Relay.Memory.Blob

/-!
# Operations and runs

`Operation` lists every request that can write to a `MemoryStore`, and `Operation.apply` is the
store it leaves behind, whatever the answer. A store is `Reachable` if some sequence of operations
leads to it from a new store; a `Moment` adds the clock, for the properties that need
`nowMilliseconds` not to run backwards.

The requests that only read return no other store, so they are not steps of a run.
-/

namespace FacetsNode.Relay

open Attempt

/-! ## The helpers of the source's own tests -/

namespace MemoryDomain

/-- `ensureTestSubscription`. The zero value of a missing subscription has a nil identifier. -/
def ensureTestSubscription (d : MemoryDomain) (credential : AdministrationCredential)
    (subscriptionID : UUID) (createdAtMilliseconds : Int) : MemoryDomain :=
  if ((d.subscriptions.get? subscriptionID).map Subscription.subscriptionID).getD uuidNil =
      uuidNil then
    { d with
      subscriptions := d.subscriptions.set subscriptionID
        { version := schemaVersion
          tenantID := credential.tenantID
          domainID := credential.domainID
          subscriptionID := subscriptionID
          status := .active
          startCursor := none
          createdAtMilliseconds := createdAtMilliseconds
          updatedAtMilliseconds := createdAtMilliseconds } }
  else d

end MemoryDomain

namespace MemoryStore

/-- `ensureTestSubscription` of the store. -/
def ensureTestSubscription (credential : AdministrationCredential) (subscriptionID : UUID)
    (createdAtMilliseconds : Int) : Attempt MemoryStore RelayError Unit :=
  asAdministrator credential
    (modify (·.ensureTestSubscription credential subscriptionID createdAtMilliseconds))

def createMember (credential : AdministrationCredential) (registration : MemberRegistration)
    (nowMilliseconds : Int) : Attempt MemoryStore RelayError Acceptance := do
  ensureTestSubscription credential registration.memberID registration.createdAtMilliseconds
  createSubscriptionMember credential registration.memberID registration nowMilliseconds

def createAdmission (credential : AdministrationCredential) (registration : MemberAdmission)
    (nowMilliseconds : Int) : Attempt MemoryStore RelayError AdmissionCreateResult := do
  ensureTestSubscription credential registration.admissionID registration.createdAtMilliseconds
  let result ← createSubscriptionAdmission credential registration.admissionID registration
    nowMilliseconds
  pure ⟨result.acceptance, result.admission.admission⟩

end MemoryStore

/-! ## Operations -/

inductive Operation where
  | createDomain (registration : DomainRegistration) (initialMember : MemberRegistration)
  | createMember (credential : AdministrationCredential) (registration : MemberRegistration)
      (now : Int)
  | createAdmission (credential : AdministrationCredential) (registration : MemberAdmission)
      (now : Int)
  | provisionTenant (tenant : TenantRegistration) (initialDomain : DomainProvisioning)
  | provisionDomain (credential : TenantCredential) (provisioning : DomainProvisioning) (now : Int)
  | rotateTenantCredential (credential : TenantCredential) (rotation : TenantCredentialRotation)
  | rotateAdministrationCredential (credential : AdministrationCredential)
      (rotation : CredentialRotation) (now : Int)
  | rotateMemberCredential (credential : Credential) (rotation : CredentialRotation) (now : Int)
  | createSubscriptionMember (credential : AdministrationCredential) (subscriptionID : UUID)
      (registration : MemberRegistration) (now : Int)
  | revokeMember (credential : AdministrationCredential) (memberID : UUID) (now : Int)
  | changeMemberCapabilities (credential : AdministrationCredential)
      (change : MemberCapabilityChange) (now : Int)
  | createSubscriptionAdmission (credential : AdministrationCredential) (subscriptionID : UUID)
      (registration : MemberAdmission) (now : Int)
  | claimSubscriptionAdmission (credential : AdmissionCredential) (claim : MemberAdmissionClaim)
      (now : Int)
  | claimReplacingInactiveMembership (credential : AdmissionCredential)
      (claim : MemberAdmissionClaim) (previousSubscriptionID : UUID) (now : Int)
  | collectAdmissions (credential : AdministrationCredential) (now : Int)
  | revokeAdmission (credential : AdministrationCredential) (admissionID : UUID) (now : Int)
  | createSubscription (credential : AdministrationCredential)
      (request : SubscriptionCreateRequest)
  | changeSubscriptionStatus (credential : AdministrationCredential) (subscriptionID : UUID)
      (request : SubscriptionStatusChangeRequest)
  | requestSubscriptionRebootstrap (credential : Credential)
      (request : SubscriptionRebootstrapRequest) (now : Int)
  | renewSubscriptionRebootstrap (credential : Credential)
      (renewal : SubscriptionRebootstrapRenewal) (now : Int)
  | cancelSubscriptionRebootstrap (credential : Credential)
      (cancellation : SubscriptionRebootstrapCancellation) (now : Int)
  | completeSubscriptionRebootstrap (credential : Credential)
      (completion : SubscriptionRebootstrapCompletion) (now : Int)
  | revokeTenantMemberships (credential : TenantCredential)
      (revocation : TenantMembershipRevocation)
  | publish (credential : Credential) (envelope : Envelope) (now : Int)
  | fetch (credential : Credential) (afterSequence : Nat) (limit now : Int)
  | getMessage (credential : Credential) (messageID : UUID) (now : Int)
  | acknowledge (credential : Credential) (messageID : UUID) (stage : AcknowledgmentStage)
      (now : Int)
  | createCheckpointFence (credential : Credential) (request : CheckpointFenceRequest) (now : Int)
  | getCheckpointFence (credential : Credential) (fenceID : UUID) (now : Int)
  | abortCheckpointFence (credential : Credential) (request : CheckpointFenceAbortRequest)
      (now : Int)
  | stageCheckpoint (credential : Credential) (candidate : CheckpointCandidate) (now : Int)
  | activateCheckpoint (credential : AdministrationCredential)
      (request : CheckpointActivationRequest) (now : Int)
  | collectCheckpoint (credential : AdministrationCredential)
      (request : CheckpointCollectionRequest)
  | commitBlobPublish (credential : Credential) (blobID : GoString) (byteCount now : Int)
  | createBlobUpload (credential : Credential) (request : BlobUploadRequest) (now : Int)
  | appendBlobUploadChunk (credential : Credential) (request : BlobUploadChunkRequest) (now : Int)
      (write : UploadCallback)
  | finalizeBlobUpload (credential : Credential) (request : BlobUploadFinalizationRequest)
      (now : Int) (publish : UploadCallback)

namespace Operation

/-- The store an operation leaves behind. -/
def apply : Operation → MemoryStore → MemoryStore
  | .createDomain r m, s => (MemoryStore.createDomain r m s).2
  | .createMember c r t, s => (MemoryStore.createMember c r t s).2
  | .createAdmission c r t, s => (MemoryStore.createAdmission c r t s).2
  | .provisionTenant t p, s => (MemoryStore.provisionTenant t p s).2
  | .provisionDomain c p t, s => (MemoryStore.provisionDomain c p t s).2
  | .rotateTenantCredential c r, s => (MemoryStore.rotateTenantCredential c r s).2
  | .rotateAdministrationCredential c r t, s =>
    (MemoryStore.rotateAdministrationCredential c r t s).2
  | .rotateMemberCredential c r t, s => (MemoryStore.rotateMemberCredential c r t s).2
  | .createSubscriptionMember c i r t, s => (MemoryStore.createSubscriptionMember c i r t s).2
  | .revokeMember c i t, s => (MemoryStore.revokeMember c i t s).2
  | .changeMemberCapabilities c r t, s => (MemoryStore.changeMemberCapabilities c r t s).2
  | .createSubscriptionAdmission c i r t, s =>
    (MemoryStore.createSubscriptionAdmission c i r t s).2
  | .claimSubscriptionAdmission c r t, s => (MemoryStore.claimSubscriptionAdmission c r t s).2
  | .claimReplacingInactiveMembership c r p t, s =>
    (MemoryStore.claimSubscriptionAdmissionReplacingInactiveMembership c r p t s).2
  | .collectAdmissions c t, s => (MemoryStore.collectAdmissions c t s).2
  | .revokeAdmission c i t, s => (MemoryStore.revokeAdmission c i t s).2
  | .createSubscription c r, s => (MemoryStore.createSubscription c r s).2
  | .changeSubscriptionStatus c i r, s => (MemoryStore.changeSubscriptionStatus c i r s).2
  | .requestSubscriptionRebootstrap c r t, s =>
    (MemoryStore.requestSubscriptionRebootstrap c r t s).2
  | .renewSubscriptionRebootstrap c r t, s => (MemoryStore.renewSubscriptionRebootstrap c r t s).2
  | .cancelSubscriptionRebootstrap c r t, s =>
    (MemoryStore.cancelSubscriptionRebootstrap c r t s).2
  | .completeSubscriptionRebootstrap c r t, s =>
    (MemoryStore.completeSubscriptionRebootstrap c r t s).2
  | .revokeTenantMemberships c r, s => (MemoryStore.revokeTenantMemberships c r s).2
  | .publish c e t, s => (MemoryStore.publish c e t s).2
  | .fetch c a l t, s => (MemoryStore.fetch c a l t s).2
  | .getMessage c i t, s => (MemoryStore.getMessage c i t s).2
  | .acknowledge c i g t, s => (MemoryStore.acknowledge c i g t s).2
  | .createCheckpointFence c r t, s => (MemoryStore.createCheckpointFence c r t s).2
  | .getCheckpointFence c i t, s => (MemoryStore.getCheckpointFence c i t s).2
  | .abortCheckpointFence c r t, s => (MemoryStore.abortCheckpointFence c r t s).2
  | .stageCheckpoint c r t, s => (MemoryStore.stageCheckpoint c r t s).2
  | .activateCheckpoint c r t, s => (MemoryStore.activateCheckpoint c r t s).2
  | .collectCheckpoint c r, s => (MemoryStore.collectCheckpoint c r s).2
  | .commitBlobPublish c i n t, s => (MemoryStore.commitBlobPublish c i n t s).2
  | .createBlobUpload c r t, s => (MemoryStore.createBlobUpload c r t s).2
  | .appendBlobUploadChunk c r t w, s => (MemoryStore.appendBlobUploadChunk c r t w s).2
  | .finalizeBlobUpload c r t p, s => (MemoryStore.finalizeBlobUpload c r t p s).2

/-- The instant an operation is given, if it is given one. -/
def now : Operation → Option Int
  | .createMember _ _ t => some t
  | .createAdmission _ _ t => some t
  | .provisionDomain _ _ t => some t
  | .rotateAdministrationCredential _ _ t => some t
  | .rotateMemberCredential _ _ t => some t
  | .createSubscriptionMember _ _ _ t => some t
  | .revokeMember _ _ t => some t
  | .changeMemberCapabilities _ _ t => some t
  | .createSubscriptionAdmission _ _ _ t => some t
  | .claimSubscriptionAdmission _ _ t => some t
  | .claimReplacingInactiveMembership _ _ _ t => some t
  | .collectAdmissions _ t => some t
  | .revokeAdmission _ _ t => some t
  | .requestSubscriptionRebootstrap _ _ t => some t
  | .renewSubscriptionRebootstrap _ _ t => some t
  | .cancelSubscriptionRebootstrap _ _ t => some t
  | .completeSubscriptionRebootstrap _ _ t => some t
  | .publish _ _ t => some t
  | .fetch _ _ _ t => some t
  | .getMessage _ _ t => some t
  | .acknowledge _ _ _ t => some t
  | .createCheckpointFence _ _ t => some t
  | .getCheckpointFence _ _ t => some t
  | .abortCheckpointFence _ _ t => some t
  | .stageCheckpoint _ _ t => some t
  | .activateCheckpoint _ _ t => some t
  | .commitBlobPublish _ _ _ t => some t
  | .createBlobUpload _ _ t => some t
  | .appendBlobUploadChunk _ _ t _ => some t
  | .finalizeBlobUpload _ _ t _ => some t
  | .createDomain .. | .provisionTenant .. | .rotateTenantCredential .. | .createSubscription ..
  | .changeSubscriptionStatus .. | .revokeTenantMemberships .. | .collectCheckpoint .. => none

/-- The operations the source keeps for its own tests: they make up a tenant or a subscription. -/
def isTestHelper : Operation → Bool
  | .createDomain .. | .createMember .. | .createAdmission .. => true
  | _ => false

/-- The operations that let somebody in: they file a domain, a member or an admission, or claim
one. -/
def enrolls : Operation → Bool
  | .createDomain .. | .createMember .. | .createAdmission .. | .provisionTenant ..
  | .provisionDomain .. | .createSubscriptionMember .. | .createSubscriptionAdmission ..
  | .claimSubscriptionAdmission .. | .claimReplacingInactiveMembership .. => true
  | _ => false

/-- The operations that revoke members. -/
def revokesMembers : Operation → Bool
  | .revokeMember .. | .revokeTenantMemberships .. => true
  | _ => false

end Operation

/-! ## Runs -/

/-- Some sequence of operations leads to the store from a new one. -/
def Reachable (s : MemoryStore) : Prop :=
  ∃ ttl ops, s = run Operation.apply (MemoryStore.newMemoryStore ttl) ops

/-- A store together with the latest instant an operation was given. -/
structure Moment where
  store : MemoryStore
  clock : Int

namespace Moment

def step (op : Operation) (m : Moment) : Moment := ⟨op.apply m.store, op.now.getD m.clock⟩

/-- The operation's instant, if it has one, is not before the clock. -/
def Admits (m : Moment) (op : Operation) : Prop := ∀ t ∈ op.now, m.clock ≤ t

instance (m : Moment) (op : Operation) : Decidable (m.Admits op) :=
  inferInstanceAs (Decidable (∀ t ∈ op.now, m.clock ≤ t))

/-- Forgetting the clock. -/
theorem run_store (m : Moment) (ops : List Operation) :
    (run step m ops).store = run Operation.apply m.store ops := by
  induction ops generalizing m with
  | nil => rfl
  | cons op ops ih => exact ih (step op m)

/-- A new store, at any instant. -/
def new (ttl : Option Int) (start : Int) : Moment := ⟨MemoryStore.newMemoryStore ttl, start⟩

theorem reachable_run (ttl : Option Int) (start : Int) (ops : List Operation) :
    Reachable (run step (new ttl start) ops).store := ⟨ttl, ops, run_store _ _⟩

end Moment

end FacetsNode.Relay
