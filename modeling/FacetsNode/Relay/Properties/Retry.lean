import FacetsNode.Relay.Properties.Journal
import FacetsNode.Relay.Properties.Recovery
import FacetsNode.Relay.Properties.Quarantine

/-!
# Retries

A control request carries a retry identifier. Once it was accepted, the same request under the same
identifier is answered from the journal, and a different one is refused. What stands between the
caller and the journal are the checks an operation makes first: whether the request is well formed
and not from the future, whether a lease of the asked length still fits, whether the caller is
authorized, and which subscription the caller acts for.

* `ControlRequest`, `ControlAnswer` — the eleven operations with a journal, as one type;
* `Recorded` — the journal holds the request and its answer;
* `Outcome` — what a call does, with and without a record;
* `retry_of_run` — a repeated request gets its answer again, a reused identifier is refused.
-/

namespace FacetsNode.Relay

open Attempt

/-! ## Requests and answers -/

/-- A request of one of the operations that record their answer. -/
inductive ControlRequest where
  | subscriptionStatus (subscriptionID : UUID) (request : SubscriptionStatusChangeRequest)
  | rebootstrap (request : SubscriptionRebootstrapRequest)
  | renewal (request : SubscriptionRebootstrapRenewal)
  | cancellation (request : SubscriptionRebootstrapCancellation)
  | completion (request : SubscriptionRebootstrapCompletion)
  | fence (request : CheckpointFenceRequest)
  | fenceAbort (request : CheckpointFenceAbortRequest)
  | activation (request : CheckpointActivationRequest)
  | collection (request : CheckpointCollectionRequest)
  | finalization (request : BlobUploadFinalizationRequest)
  | capabilities (request : MemberCapabilityChange)

inductive ControlAnswer where
  | subscriptionStatus (response : SubscriptionStatusChangeResponse)
  | rebootstrap (response : SubscriptionRebootstrapResponse)
  | renewal (response : SubscriptionRebootstrapRenewalResponse)
  | cancellation (response : SubscriptionRebootstrapCancellationResponse)
  | completion (response : SubscriptionRebootstrapCompletionResponse)
  | fence (response : CheckpointFenceResponse)
  | fenceAbort (response : CheckpointFenceAbortResponse)
  | activation (response : CheckpointActivationResponse)
  | collection (response : CheckpointCollectionResponse)
  | finalization (response : BlobUploadFinalizationResponse)
  | capabilities (response : MemberCapabilityChangeResult)
  deriving DecidableEq

/-- Everything about a call that is not part of the request. -/
structure Invocation where
  memberID : UUID
  token : GoString
  now : Int
  publish : UploadCallback

namespace Invocation

def administrator (i : Invocation) (key : DomainKey) : AdministrationCredential :=
  ⟨key.tenantID, key.domainID, i.token⟩

def member (i : Invocation) (key : DomainKey) : Credential :=
  ⟨key.tenantID, key.domainID, i.memberID, i.token⟩

end Invocation

namespace ControlAnswer

def acceptance : ControlAnswer → Acceptance
  | .subscriptionStatus r => r.acceptance
  | .rebootstrap r => r.acceptance
  | .renewal r => r.acceptance
  | .cancellation r => r.acceptance
  | .completion r => r.acceptance
  | .fence r => r.acceptance
  | .fenceAbort r => r.acceptance
  | .activation r => r.acceptance
  | .collection r => if r.duplicate then .duplicate else .accepted
  | .finalization r => r.acceptance
  | .capabilities r => r.acceptance

/-- The same answer, marked as a duplicate. -/
def asDuplicate : ControlAnswer → ControlAnswer
  | .subscriptionStatus r => .subscriptionStatus { r with acceptance := .duplicate }
  | .rebootstrap r => .rebootstrap { r with acceptance := .duplicate }
  | .renewal r => .renewal { r with acceptance := .duplicate }
  | .cancellation r => .cancellation { r with acceptance := .duplicate }
  | .completion r => .completion { r with acceptance := .duplicate }
  | .fence r => .fence { r with acceptance := .duplicate }
  | .fenceAbort r => .fenceAbort { r with acceptance := .duplicate }
  | .activation r => .activation { r with acceptance := .duplicate }
  | .collection r => .collection { r with duplicate := true }
  | .finalization r => .finalization { r with acceptance := .duplicate }
  | .capabilities r => .capabilities { r with acceptance := .duplicate }

/-- The same answer, but for a lease that runs longer. -/
inductive Extended : ControlAnswer → ControlAnswer → Prop
  | same {a} : Extended a a
  | lease {r : SubscriptionRebootstrapResponse} {expiresAt : Int}
      (h : r.leaseExpiresAtMilliseconds ≤ expiresAt) :
      Extended (.rebootstrap r) (.rebootstrap { r with leaseExpiresAtMilliseconds := expiresAt })

end ControlAnswer

namespace ControlRequest

/-- The call of the store's operation. -/
def call (key : DomainKey) (i : Invocation) :
    ControlRequest → Attempt MemoryStore RelayError ControlAnswer
  | .subscriptionStatus id r =>
    ControlAnswer.subscriptionStatus <$>
      MemoryStore.changeSubscriptionStatus (i.administrator key) id r
  | .rebootstrap r =>
    ControlAnswer.rebootstrap <$> MemoryStore.requestSubscriptionRebootstrap (i.member key) r i.now
  | .renewal r =>
    ControlAnswer.renewal <$> MemoryStore.renewSubscriptionRebootstrap (i.member key) r i.now
  | .cancellation r =>
    ControlAnswer.cancellation <$> MemoryStore.cancelSubscriptionRebootstrap (i.member key) r i.now
  | .completion r =>
    ControlAnswer.completion <$> MemoryStore.completeSubscriptionRebootstrap (i.member key) r i.now
  | .fence r => ControlAnswer.fence <$> MemoryStore.createCheckpointFence (i.member key) r i.now
  | .fenceAbort r =>
    ControlAnswer.fenceAbort <$> MemoryStore.abortCheckpointFence (i.member key) r i.now
  | .activation r =>
    ControlAnswer.activation <$> MemoryStore.activateCheckpoint (i.administrator key) r i.now
  | .collection r => ControlAnswer.collection <$> MemoryStore.collectCheckpoint
      (i.administrator key) r
  | .finalization r =>
    ControlAnswer.finalization <$> MemoryStore.finalizeBlobUpload (i.member key) r i.now i.publish
  | .capabilities r =>
    ControlAnswer.capabilities <$>
      MemoryStore.changeMemberCapabilities (i.administrator key) r i.now

/-- The call as a step of a run. -/
def operation (key : DomainKey) (i : Invocation) : ControlRequest → Operation
  | .subscriptionStatus id r => .changeSubscriptionStatus (i.administrator key) id r
  | .rebootstrap r => .requestSubscriptionRebootstrap (i.member key) r i.now
  | .renewal r => .renewSubscriptionRebootstrap (i.member key) r i.now
  | .cancellation r => .cancelSubscriptionRebootstrap (i.member key) r i.now
  | .completion r => .completeSubscriptionRebootstrap (i.member key) r i.now
  | .fence r => .createCheckpointFence (i.member key) r i.now
  | .fenceAbort r => .abortCheckpointFence (i.member key) r i.now
  | .activation r => .activateCheckpoint (i.administrator key) r i.now
  | .collection r => .collectCheckpoint (i.administrator key) r
  | .finalization r => .finalizeBlobUpload (i.member key) r i.now i.publish
  | .capabilities r => .changeMemberCapabilities (i.administrator key) r i.now

/-- What a member needs for the call; the administrator needs no capability. -/
def capability : ControlRequest → Option Capability
  | .rebootstrap _ | .renewal _ | .cancellation _ => some .fetchMessage
  | .completion _ => some .acknowledgeMessage
  | .fence _ | .fenceAbort _ => some .publishCheckpoint
  | .finalization _ => some .publishBlob
  | .subscriptionStatus .. | .activation _ | .collection _ | .capabilities _ => none

def Authorized (key : DomainKey) (i : Invocation) (s : MemoryStore) (r : ControlRequest) : Prop :=
  match r.capability with
  | none => ∃ d, s.authorizedDomain (i.administrator key) = .ok d
  | some capability => ∃ d, s.authorizedMember (i.member key) capability i.now = .ok d

/-- The subscription the caller acts for, in the status the operation requires. -/
def callerSubscription (memberID : UUID) (d : MemoryDomain) :
    ControlRequest → Except RelayError UUID
  | .rebootstrap _ | .renewal _ | .cancellation _ | .completion _ =>
    (d.readableMemberSubscription memberID).map Subscription.subscriptionID
  | .fence _ | .fenceAbort _ =>
    (d.activeMemberSubscription memberID).map Subscription.subscriptionID
  | _ => .ok uuidNil

/-- The operation closes the fences that are due before it looks into the journal. -/
def refreshes : ControlRequest → Bool
  | .completion _ | .fence _ => true
  | _ => false

/-- The lease the request asks for ends within the range of instants. -/
def LeaseFits (now : Int) : ControlRequest → Prop
  | .rebootstrap r => now ≤ maxInt64 - r.leaseDurationMilliseconds
  | .renewal r => now ≤ maxInt64 - r.leaseDurationMilliseconds
  | _ => True

/-- The checks an operation makes before it looks at the store. -/
def Ready (now : Int) : ControlRequest → Prop
  | .subscriptionStatus id r => id ≠ uuidNil ∧ r.validate = .ok ()
  | .rebootstrap r => r.validate = .ok () ∧ 0 ≤ now ∧ now ≤ maxInt64 - r.leaseDurationMilliseconds
  | .renewal r => r.validate = .ok () ∧ 0 ≤ now ∧ now ≤ maxInt64 - r.leaseDurationMilliseconds
  | .cancellation r => r.validate = .ok ()
  | .completion r => r.validate = .ok () ∧ ∃ n, decodeCursor r.completedThroughCursor = .ok n
  | .fence r => r.validate = .ok () ∧ r.requestedAtMilliseconds ≤ now
  | .fenceAbort r => r.validate = .ok () ∧ r.abortedAtMilliseconds ≤ now
  | .activation r => r.validate = .ok ()
  | .collection r => r.validate = .ok ()
  | .finalization r => r.validate = .ok ()
  | .capabilities r => r.validate = .ok ()

/-- The second request is for the same operation and under the same retry identifier. -/
inductive Reuses : ControlRequest → ControlRequest → Prop
  | subscriptionStatus {id id' r r'} (h : r.retryID = r'.retryID) :
      Reuses (.subscriptionStatus id r) (.subscriptionStatus id' r')
  | rebootstrap {r r'} (h : r.retryID = r'.retryID) : Reuses (.rebootstrap r) (.rebootstrap r')
  | renewal {r r'} (h : r.retryID = r'.retryID) : Reuses (.renewal r) (.renewal r')
  | cancellation {r r'} (h : r.retryID = r'.retryID) : Reuses (.cancellation r) (.cancellation r')
  | completion {r r'} (h : r.retryID = r'.retryID) : Reuses (.completion r) (.completion r')
  | fence {r r'} (h : r.retryID = r'.retryID) : Reuses (.fence r) (.fence r')
  | fenceAbort {r r'} (h : r.retryID = r'.retryID) : Reuses (.fenceAbort r) (.fenceAbort r')
  | activation {r r'} (h : r.retryID = r'.retryID) : Reuses (.activation r) (.activation r')
  | collection {r r'} (h : r.retryID = r'.retryID) : Reuses (.collection r) (.collection r')
  | finalization {r r'} (h : r.retryID = r'.retryID) : Reuses (.finalization r) (.finalization r')
  | capabilities {r r'} (h : r.retryID = r'.retryID) : Reuses (.capabilities r) (.capabilities r')

theorem Reuses.refl (r : ControlRequest) : Reuses r r := by
  cases r <;> constructor <;> rfl

/-- Nothing changed, but for the fences that were due. -/
def Untouched (r : ControlRequest) (now : Int) (d d' : MemoryDomain) : Prop :=
  d' = d ∨ r.refreshes = true ∧ d' = d.refreshMemoryFence now

end ControlRequest

open ControlRequest

/-! ## Records -/

open MemoryDomain

/-- The journal of the domain holds the request, made for a subscription, with its answer. -/
inductive Recorded (d : MemoryDomain) (subscriptionID : UUID) :
    ControlRequest → ControlAnswer → Prop
  | subscriptionStatus {id r result}
      (h : d.subscriptionChanges.get? r.retryID = some ⟨id, r, result⟩) :
      Recorded d subscriptionID (.subscriptionStatus id r)
        (.subscriptionStatus ⟨.accepted, r.retryID, result⟩)
  | rebootstrap {r expiresAt result}
      (h : d.rebootstrapRequests.get? r.retryID = some ⟨subscriptionID, r, expiresAt, result⟩) :
      Recorded d subscriptionID (.rebootstrap r)
        (.rebootstrap ⟨.accepted, r.retryID, r.checkpointID, r.rootMessageID, expiresAt, result⟩)
  | renewal {r previous expiresAt result}
      (h : d.rebootstrapRenewals.get? r.retryID =
        some ⟨subscriptionID, r, previous, expiresAt, result⟩) :
      Recorded d subscriptionID (.renewal r)
        (.renewal ⟨.accepted, r.retryID, r.requestRetryID, r.checkpointID, r.rootMessageID,
          previous,
          expiresAt, result⟩)
  | cancellation {r result}
      (h : d.rebootstrapCancellations.get? r.retryID = some ⟨subscriptionID, r, result⟩) :
      Recorded d subscriptionID (.cancellation r)
        (.cancellation ⟨.accepted, r.retryID, r.requestRetryID, r.checkpointID, r.rootMessageID,
          result⟩)
  | completion {r start result}
      (h : d.rebootstrapCompletions.get? r.retryID = some ⟨subscriptionID, start, r, result⟩) :
      Recorded d subscriptionID (.completion r)
        (.completion ⟨.accepted, r.retryID, r.requestRetryID, r.checkpointID, r.rootMessageID,
          result⟩)
  | fence {r fence} (h : d.checkpointFenceRetries.get? r.retryID = some r.fenceID)
      (hfence : d.checkpointFences.get? r.fenceID = some fence) (hrequest : fence.request = r)
      (hholder : fence.holderSubscriptionID = subscriptionID) :
      Recorded d subscriptionID (.fence r)
        (.fence (fenceResponse fence r.retryID .accepted))
  | fenceAbort {r result fence} (h : d.checkpointFenceAborts.get? r.retryID = some ⟨r, result⟩)
      (hfence : d.checkpointFences.get? r.fenceID = some fence)
      (hholder : fence.holderSubscriptionID = subscriptionID) :
      Recorded d subscriptionID (.fenceAbort r) (.fenceAbort result)
  | activation {r result}
      (h : d.checkpointActivations.get? r.retryID = some ⟨r.checkpointID, r, result⟩) :
      Recorded d subscriptionID (.activation r) (.activation result)
  | collection {r result checkpoint}
      (h : d.checkpointCollections.get? r.retryID = some ⟨r, result⟩)
      (hcheckpoint : d.checkpoints.get? r.checkpointID = some checkpoint)
      (hpast : checkpoint.state ≠ .staged)
      (hafter : checkpoint.activationRequest.activatedAtMilliseconds ≤ r.requestedAtMilliseconds) :
      Recorded d subscriptionID (.collection r) (.collection result)
  | finalization {r result} (h : d.blobUploadFinalizations.get? r.retryID = some ⟨r, result⟩) :
      Recorded d subscriptionID (.finalization r) (.finalization result)
  | capabilities {r result} (h : d.capabilityChanges.get? r.retryID = some ⟨r, result⟩) :
      Recorded d subscriptionID (.capabilities r) (.capabilities result)

section
variable {d d' : MemoryDomain} {subscriptionID : UUID} {r : ControlRequest} {a : ControlAnswer}

/-- A record lasts as long as the journal; only the lease it grants may be extended. -/
theorem Recorded.kept (h : Recorded d subscriptionID r a) (hjournal : Journal d d') :
    ∃ a', Recorded d' subscriptionID r a' ∧ a.Extended a' := by
  have htables := hjournal.tables
  cases h with
  | subscriptionStatus h =>
    exact ⟨_, .subscriptionStatus (htables.subscriptionChanges _ _ h), .same⟩
  | rebootstrap h =>
    obtain ⟨expiresAt, hle, h⟩ := htables.rebootstrapRequests h
    exact ⟨_, .rebootstrap h, .lease hle⟩
  | renewal h => exact ⟨_, .renewal (htables.rebootstrapRenewals _ _ h), .same⟩
  | cancellation h => exact ⟨_, .cancellation (htables.rebootstrapCancellations _ _ h), .same⟩
  | completion h => exact ⟨_, .completion (htables.rebootstrapCompletions _ _ h), .same⟩
  | fence h hfence hrequest hholder =>
    obtain ⟨_, hfence, status, rfl⟩ := htables.checkpointFences hfence
    exact ⟨_, .fence (htables.checkpointFenceRetries _ _ h) hfence hrequest hholder, .same⟩
  | fenceAbort h hfence hholder =>
    obtain ⟨_, hfence, status, rfl⟩ := htables.checkpointFences hfence
    exact ⟨_, .fenceAbort (htables.checkpointFenceAborts _ _ h) hfence hholder, .same⟩
  | activation h => exact ⟨_, .activation (htables.checkpointActivations _ _ h), .same⟩
  | collection h hcheckpoint hpast hafter =>
    obtain ⟨checkpoint', hcheckpoint, hsame⟩ := htables.checkpoints hcheckpoint hpast
    rw [← hsame.request] at hafter
    exact ⟨_, .collection (htables.checkpointCollections _ _ h) hcheckpoint hsame.past hafter,
      .same⟩
  | finalization h => exact ⟨_, .finalization (htables.blobUploadFinalizations _ _ h), .same⟩
  | capabilities h => exact ⟨_, .capabilities (hjournal.capabilityChanges _ _ h), .same⟩

end

/-! ## What one call does -/

/-- What the part of a call that runs on the domain does there. -/
structure DomainOutcome (r : ControlRequest) (caller : Except RelayError UUID) (now : Int)
    (d : MemoryDomain) (res : Except RelayError ControlAnswer) (d' : MemoryDomain) : Prop where
  accepted : ∀ a, res = .ok a → a.acceptance = .accepted →
    ∃ id, caller = .ok id ∧ Recorded d' id r a
  found : ∀ id r₀ a, Recorded d id r₀ a → Reuses r₀ r →
    Untouched r now d d' ∧ (r₀ = r → caller = .ok id → res = .ok a.asDuplicate) ∧
      (r₀ ≠ r → ∃ e, res = .error e)

/-- Nothing is recorded under the request's retry identifier. -/
def Fresh (d : MemoryDomain) (r : ControlRequest) : Prop :=
  ∀ id r₀ a, Recorded d id r₀ a → ¬ Reuses r₀ r

namespace DomainOutcome

variable {r : ControlRequest} {caller : Except RelayError UUID} {now : Int} {d d' : MemoryDomain}
  {e : RelayError} {a : ControlAnswer} {id : UUID}

/-- The request is refused, and is not what is recorded for the caller. -/
theorem refused (huntouched : Untouched r now d d')
    (h : ∀ id a, Recorded d id r a → caller ≠ .ok id) :
    DomainOutcome r caller now d (.error e) d' where
  accepted := by rintro _ ⟨⟩
  found := by
    intro id r₀ a hrecorded _
    refine ⟨huntouched, ?_, fun _ => ⟨e, rfl⟩⟩
    rintro rfl hcaller
    exact absurd hcaller (h id a hrecorded)

/-- The answer is the recorded one. -/
theorem repeated (huntouched : Untouched r now d d') (hduplicate : a.acceptance = .duplicate)
    (h : ∀ id r₀ a₀, Recorded d id r₀ a₀ → Reuses r₀ r → r₀ = r ∧ a₀.asDuplicate = a) :
    DomainOutcome r caller now d (.ok a) d' where
  accepted := by
    rintro _ ⟨⟩ haccepted
    rw [hduplicate] at haccepted
    cases haccepted
  found := by
    intro id r₀ a₀ hrecorded hreuses
    obtain ⟨rfl, rfl⟩ := h id r₀ a₀ hrecorded hreuses
    exact ⟨huntouched, fun _ _ => rfl, fun hne => absurd rfl hne⟩

/-- A new request fails, wherever that leaves the domain. -/
theorem failed (hfresh : Fresh d r) : DomainOutcome r caller now d (.error e) d' where
  accepted := by rintro _ ⟨⟩
  found := fun id r₀ a hrecorded hreuses => absurd hreuses (hfresh id r₀ a hrecorded)

/-- A new request is accepted and recorded. -/
theorem recorded (hfresh : Fresh d r) (hcaller : caller = .ok id) (h : Recorded d' id r a) :
    DomainOutcome r caller now d (.ok a) d' where
  accepted := by
    rintro _ ⟨⟩ _
    exact ⟨id, hcaller, h⟩
  found := fun id r₀ a hrecorded hreuses => absurd hreuses (hfresh id r₀ a hrecorded)

end DomainOutcome

/-- Nothing is filed under the request's retry identifier. -/
def Unfiled (d : MemoryDomain) : ControlRequest → Prop
  | .subscriptionStatus _ r => d.subscriptionChanges.get? r.retryID = none
  | .rebootstrap r => d.rebootstrapRequests.get? r.retryID = none
  | .renewal r => d.rebootstrapRenewals.get? r.retryID = none
  | .cancellation r => d.rebootstrapCancellations.get? r.retryID = none
  | .completion r => d.rebootstrapCompletions.get? r.retryID = none
  | .fence r => d.checkpointFenceRetries.get? r.retryID = none
  | .fenceAbort r => d.checkpointFenceAborts.get? r.retryID = none
  | .activation r => d.checkpointActivations.get? r.retryID = none
  | .collection r => d.checkpointCollections.get? r.retryID = none
  | .finalization r => d.blobUploadFinalizations.get? r.retryID = none
  | .capabilities r => d.capabilityChanges.get? r.retryID = none

variable {r : ControlRequest} {now : Int}

theorem fresh_of_unfiled {d} (h : Unfiled d r) : Fresh d r := by
  intro id r₀ a hrecorded hreuses
  cases hreuses <;> cases hrecorded <;> simp_all [Unfiled]

open GoMap

open Option

section
variable {d d' : MemoryDomain} {memberID : UUID} {now : Int}

/-- The end of a lookup that found something: it is what was asked for, or it collides. -/
theorem ends_answer {α : Type} {f : α → ControlAnswer} {r}
    {caller : Except RelayError UUID} {c : Prop} [Decidable c] {x : α} {e}
    (huntouched : Untouched r now d d') (hduplicate : (f x).acceptance = .duplicate)
    (h : ∀ id r₀ a, Recorded d id r₀ a → Reuses r₀ r →
      (c → r₀ = r ∧ a.asDuplicate = f x) ∧ (r₀ = r → caller = .ok id → c)) :
    Ends (if c then pure x else fail e) d' (fun res d' =>
      DomainOutcome r caller now d (res.map f) d') := by
  split
  · next hc =>
    exact ends_pure (.repeated huntouched hduplicate
      fun id r₀ a hrecorded hreuses => (h id r₀ a hrecorded hreuses).1 hc)
  · next hc =>
    refine ends_fail (.refused huntouched fun id a hrecorded hcaller => hc ?_)
    exact (h id r a hrecorded (.refl r)).2 rfl hcaller

variable {x : Except RelayError Subscription}

theorem caller_of_ok {subscription} (h : x = .ok subscription) :
    x.map Subscription.subscriptionID = .ok subscription.subscriptionID := by
  rw [h]
  rfl

theorem caller_of_error {e} (h : x = .error e)
    (id : UUID) : x.map Subscription.subscriptionID ≠ .ok id := by
  rw [h]
  rintro ⟨⟩

theorem caller_unique {subscription id}
    (h : x = .ok subscription) (hid : x.map Subscription.subscriptionID = .ok id) :
    id = subscription.subscriptionID := by
  rw [caller_of_ok h] at hid
  exact (Except.ok.inj hid).symm

/-! ### The operations, one by one

Each proof follows its operation to the journal. There are four ends: the request is refused before
the journal is looked at, or is answered from it, or collides with what is there, or is new. -/

theorem changeSubscriptionStatus_outcome (subscriptionID : UUID)
    (r : SubscriptionStatusChangeRequest) :
    Ends (changeSubscriptionStatus subscriptionID r) d (fun res d' =>
      DomainOutcome (.subscriptionStatus subscriptionID r) (.ok uuidNil) now d
        (res.map .subscriptionStatus) d') := by
  unfold changeSubscriptionStatus
  refine ends_get ?_
  split
  · next existing hget =>
    refine ends_answer (.inl rfl) rfl fun id r₀ a hrecorded hreuses => ?_
    cases hreuses with
    | subscriptionStatus hid =>
    cases hrecorded with
    | subscriptionStatus h =>
    rw [hid, hget] at h
    cases h
    constructor
    · rintro ⟨rfl, rfl⟩
      exact ⟨rfl, rfl⟩
    · rintro ⟨⟩ -
      exact ⟨rfl, rfl⟩
  · next hnone =>
    have hfresh : Fresh d (.subscriptionStatus subscriptionID r) := fresh_of_unfiled hnone
    split
    · exact ends_fail (.failed hfresh)
    · refine ends_reject (.failed hfresh) fun _ => ?_
      refine ends_reject (.failed hfresh) fun _ => ?_
      refine ends_modify (ends_pure (.recorded hfresh rfl ?_))
      exact .subscriptionStatus (get?_set_self _ _ _)

theorem requestSubscriptionRebootstrap_outcome (r : SubscriptionRebootstrapRequest)
    (leaseExpiresAt : Int) :
    Ends (requestSubscriptionRebootstrap memberID r leaseExpiresAt now) d
      (fun res d' => DomainOutcome (.rebootstrap r)
        ((d.readableMemberSubscription memberID).map Subscription.subscriptionID) now d
        (res.map .rebootstrap) d') := by
  unfold requestSubscriptionRebootstrap
  refine ends_get (ends_ofExcept (fun e herr => ?_) fun subscription hsub => ?_)
  · exact .refused (.inl rfl) fun id _ _ => caller_of_error herr id
  · split
    · next existing hget =>
      refine ends_answer (.inl rfl) rfl fun id r₀ a hrecorded hreuses => ?_
      cases hreuses with
      | rebootstrap hid =>
      cases hrecorded with
      | rebootstrap h =>
      rw [hid, hget] at h
      cases h
      constructor
      · rintro ⟨-, rfl⟩
        exact ⟨rfl, rfl⟩
      · rintro ⟨⟩ hcaller
        exact ⟨caller_unique hsub hcaller, rfl⟩
    · next hnone =>
      have hfresh : Fresh d (.rebootstrap r) := fresh_of_unfiled hnone
      refine ends_reject (.failed hfresh) fun _ => ?_
      split
      · exact ends_fail (.failed hfresh)
      · refine ends_reject (.failed hfresh) fun _ => ?_
        refine ends_reject (.failed hfresh) fun _ => ?_
        refine ends_reject (.failed hfresh) fun _ => ?_
        refine ends_modify (ends_pure (.recorded hfresh (caller_of_ok hsub) ?_))
        exact .rebootstrap (get?_set_self _ _ _)

theorem renewSubscriptionRebootstrap_outcome (r : SubscriptionRebootstrapRenewal)
    (candidateExpiresAt : Int) :
    Ends (renewSubscriptionRebootstrap memberID r candidateExpiresAt now) d
      (fun res d' => DomainOutcome (.renewal r)
        ((d.readableMemberSubscription memberID).map Subscription.subscriptionID) now d
        (res.map .renewal) d') := by
  unfold renewSubscriptionRebootstrap
  refine ends_get (ends_ofExcept (fun e herr => ?_) fun subscription hsub => ?_)
  · exact .refused (.inl rfl) fun id _ _ => caller_of_error herr id
  · split
    · next existing hget =>
      refine ends_answer (.inl rfl) rfl fun id r₀ a hrecorded hreuses => ?_
      cases hreuses with
      | renewal hid =>
      cases hrecorded with
      | renewal h =>
      rw [hid, hget] at h
      cases h
      constructor
      · rintro ⟨-, rfl⟩
        exact ⟨rfl, rfl⟩
      · rintro ⟨⟩ hcaller
        exact ⟨caller_unique hsub hcaller, rfl⟩
    · next hnone =>
      have hfresh : Fresh d (.renewal r) := fresh_of_unfiled hnone
      refine ends_ofExcept (fun _ _ => .failed hfresh) fun _ _ => ?_
      refine ends_reject (.failed hfresh) fun _ => ?_
      refine ends_reject (.failed hfresh) fun _ => ?_
      refine ends_reject (.failed hfresh) fun _ => ?_
      refine ends_modify (ends_pure (.recorded hfresh (caller_of_ok hsub) ?_))
      exact .renewal (get?_set_self _ _ _)

theorem cancelSubscriptionRebootstrap_outcome (r : SubscriptionRebootstrapCancellation) :
    Ends (cancelSubscriptionRebootstrap memberID r) d (fun res d' => DomainOutcome (.cancellation r)
        ((d.readableMemberSubscription memberID).map Subscription.subscriptionID) now d
        (res.map .cancellation) d') := by
  unfold cancelSubscriptionRebootstrap
  refine ends_get (ends_ofExcept (fun e herr => ?_) fun subscription hsub => ?_)
  · exact .refused (.inl rfl) fun id _ _ => caller_of_error herr id
  · split
    · next existing hget =>
      refine ends_answer (.inl rfl) rfl fun id r₀ a hrecorded hreuses => ?_
      cases hreuses with
      | cancellation hid =>
      cases hrecorded with
      | cancellation h =>
      rw [hid, hget] at h
      cases h
      constructor
      · rintro ⟨-, rfl⟩
        exact ⟨rfl, rfl⟩
      · rintro ⟨⟩ hcaller
        exact ⟨caller_unique hsub hcaller, rfl⟩
    · next hnone =>
      have hfresh : Fresh d (.cancellation r) := fresh_of_unfiled hnone
      refine ends_ofExcept (fun _ _ => .failed hfresh) fun _ _ => ?_
      refine ends_reject (.failed hfresh) fun _ => ?_
      refine ends_modify (ends_pure (.recorded hfresh (caller_of_ok hsub) ?_))
      exact .cancellation (get?_set_self _ _ _)

theorem completeSubscriptionRebootstrap_outcome (r : SubscriptionRebootstrapCompletion)
    (throughSequence : Nat) :
    Ends (completeSubscriptionRebootstrap memberID r throughSequence now) d
      (fun res d' => DomainOutcome (.completion r)
        ((d.readableMemberSubscription memberID).map Subscription.subscriptionID) now d
        (res.map .completion) d') := by
  have hexpiry : Expiry (.getCheckpointFence ⟨0, 0, memberID, []⟩ 0 now) d
    (d.refreshMemoryFence now) := .due rfl
  have hcompletions : (d.refreshMemoryFence now).rebootstrapCompletions =
      d.rebootstrapCompletions :=
    hexpiry.frame rebootstrapCompletions fun _ _ _ _ _ => rfl
  unfold completeSubscriptionRebootstrap
  refine ends_modify (ends_get ?_)
  rw [readableMemberSubscription_expiry hexpiry, hcompletions]
  refine ends_ofExcept (fun e herr => ?_) fun subscription hsub => ?_
  · exact .refused (.inr ⟨rfl, rfl⟩) fun id _ _ => caller_of_error herr id
  · split
    · next existing hget =>
      refine ends_answer (.inr ⟨rfl, rfl⟩) rfl fun id r₀ a hrecorded hreuses => ?_
      cases hreuses with
      | completion hid =>
      cases hrecorded with
      | completion h =>
      rw [hid, hget] at h
      cases h
      constructor
      · rintro ⟨-, rfl⟩
        exact ⟨rfl, rfl⟩
      · rintro ⟨⟩ hcaller
        exact ⟨caller_unique hsub hcaller, rfl⟩
    · next hnone =>
      have hfresh : Fresh d (.completion r) := fresh_of_unfiled hnone
      split
      · exact ends_fail (.failed hfresh)
      · refine ends_reject (.failed hfresh) fun _ => ?_
        refine ends_ofExcept (fun _ _ => .failed hfresh) fun _ _ => ?_
        refine ends_reject (.failed hfresh) fun _ => ?_
        refine ends_ofExcept (fun _ _ => .failed hfresh) fun _ _ => ?_
        refine ends_reject (.failed hfresh) fun _ => ?_
        refine ends_reject (.failed hfresh) fun _ => ?_
        refine ends_modify (ends_pure (.recorded hfresh (caller_of_ok hsub) ?_))
        exact .completion (get?_set_self _ _ _)

theorem createCheckpointFence_outcome (r : CheckpointFenceRequest) (lifetime : Int) :
    Ends (createCheckpointFence memberID r now lifetime) d (fun res d' => DomainOutcome (.fence r)
        ((d.activeMemberSubscription memberID).map Subscription.subscriptionID) now d
        (res.map .fence) d') := by
  have htables := (journal_refresh d now).tables
  unfold createCheckpointFence
  refine ends_get (ends_ofExcept (fun e herr => ?_) fun subscription hsub => ?_)
  · exact .refused (.inl rfl) fun id _ _ => caller_of_error herr id
  · refine ends_modify (ends_get ?_)
    split
    · next existingID hget =>
      -- The fence is still filed after the ones that are due were closed.
      have hfiled : ∀ {id : UUID} {r₀ : CheckpointFenceRequest} {a : ControlAnswer},
          Recorded d id (.fence r₀) a → r₀.retryID = r.retryID →
          ∃ fence, existingID = r₀.fenceID ∧
            (d.refreshMemoryFence now).checkpointFences.get? existingID = some fence ∧
            fence.request = r₀ ∧ fence.holderSubscriptionID = id ∧
            a = .fence (fenceResponse fence r₀.retryID .accepted) := by
        intro id r₀ a hrecorded hid
        cases hrecorded with
        | fence h hfence hrequest hholder =>
        have hsame : existingID = r₀.fenceID :=
          some.inj (hget.symm.trans (hid ▸ htables.checkpointFenceRetries _ _ h))
        obtain ⟨_, hfence, status, rfl⟩ := htables.checkpointFences hfence
        rw [← hsame] at hfence
        exact ⟨_, hsame, hfence, hrequest, hholder, rfl⟩
      split
      · next existing hexisting =>
        split
        · next hmatch =>
          refine ends_pure (.repeated (.inr ⟨rfl, rfl⟩) rfl ?_)
          intro id r₀ a₀ hrecorded hreuses
          cases hreuses with
          | fence hid =>
          obtain ⟨fence, -, hfence, hrequest, -, rfl⟩ := hfiled hrecorded hid
          rw [hexisting] at hfence
          cases hfence
          obtain rfl : _ = r := hrequest.symm.trans hmatch.1
          exact ⟨rfl, rfl⟩
        · next hmatch =>
          refine ends_fail (.refused (.inr ⟨rfl, rfl⟩) ?_)
          intro id a hrecorded hcaller
          obtain ⟨fence, -, hfence, hrequest, hholder, -⟩ := hfiled hrecorded rfl
          rw [hexisting] at hfence
          cases hfence
          exact hmatch ⟨hrequest, hholder.trans (caller_unique hsub hcaller)⟩
      · next hmissing =>
        refine ends_fail (.refused (.inr ⟨rfl, rfl⟩) ?_)
        intro id a hrecorded _
        obtain ⟨fence, -, hfence, -⟩ := hfiled hrecorded rfl
        rw [hmissing] at hfence
        cases hfence
    · next hnone =>
      have hfresh : Fresh d (.fence r) := by
        intro id r₀ a hrecorded hreuses
        cases hreuses with
        | fence hid =>
        cases hrecorded with
        | fence h =>
        have hkept := htables.checkpointFenceRetries _ _ h
        rw [hid] at hkept
        exact absurd (hnone.symm.trans hkept) (by simp)
      refine ends_reject (.failed hfresh) fun _ => ?_
      refine ends_reject (.failed hfresh) fun _ => ?_
      refine ends_modify (ends_pure (.recorded hfresh (caller_of_ok hsub) ?_))
      exact .fence (get?_set_self _ _ _) (get?_set_self _ _ _) rfl rfl

theorem abortCheckpointFence_outcome (r : CheckpointFenceAbortRequest) :
    Ends (abortCheckpointFence memberID r now) d (fun res d' => DomainOutcome (.fenceAbort r)
        ((d.activeMemberSubscription memberID).map Subscription.subscriptionID) now d
        (res.map .fenceAbort) d') := by
  unfold abortCheckpointFence
  refine ends_get (ends_ofExcept (fun e herr => ?_) fun subscription hsub => ?_)
  · exact .refused (.inl rfl) fun id _ _ => caller_of_error herr id
  · split
    · next existing hget =>
      -- A record under this retry ID: the answer is repeated to the holder of the fence alone.
      split
      · next fence hfence =>
        split
        · next hmatch =>
          refine ends_pure (.repeated (.inl rfl) rfl ?_)
          intro id r₀ a₀ hrecorded hreuses
          cases hreuses with
          | fenceAbort hid =>
          cases hrecorded with
          | fenceAbort h =>
          rw [hid, hget] at h
          cases h
          obtain ⟨rfl, -⟩ := hmatch
          exact ⟨rfl, rfl⟩
        · next hmatch =>
          refine ends_fail (.refused (.inl rfl) ?_)
          intro id a hrecorded hcaller
          cases hrecorded with
          | fenceAbort h hfence' hholder =>
          rw [hget, some.injEq] at h
          rw [hfence, some.injEq] at hfence'
          subst h hfence'
          exact hmatch ⟨rfl, hholder.trans (caller_unique hsub hcaller)⟩
      · next hmissing =>
        refine ends_fail (.refused (.inl rfl) ?_)
        intro id a hrecorded _
        cases hrecorded with
        | fenceAbort _ hfence =>
        rw [hmissing] at hfence
        cases hfence
    · next hnone =>
      have hfresh : Fresh d (.fenceAbort r) := fresh_of_unfiled hnone
      refine ends_modify (ends_get ?_)
      split
      · exact ends_fail (.failed hfresh)
      · refine ends_reject (.failed hfresh) fun hholder => ?_
        refine ends_reject (.failed hfresh) fun _ => ?_
        refine ends_modify (ends_pure (.recorded hfresh (caller_of_ok hsub) ?_))
        exact .fenceAbort (get?_set_self _ _ _) (get?_set_self _ _ _)
          (not_not.mp hholder)

theorem activateCheckpoint_outcome (r : CheckpointActivationRequest) :
    Ends (activateCheckpoint r now) d (fun res d' =>
      DomainOutcome (.activation r) (.ok uuidNil) now d (res.map .activation) d') := by
  unfold activateCheckpoint
  refine ends_get ?_
  split
  · next existing hget =>
    refine ends_answer (.inl rfl) rfl fun id r₀ a hrecorded hreuses => ?_
    cases hreuses with
    | activation hid =>
    cases hrecorded with
    | activation h =>
    rw [hid, hget] at h
    cases h
    constructor
    · rintro ⟨-, rfl⟩
      exact ⟨rfl, rfl⟩
    · rintro ⟨⟩ -
      exact ⟨rfl, rfl⟩
  · next hnone =>
    have hfresh : Fresh d (.activation r) := fresh_of_unfiled hnone
    split
    · exact ends_fail (.failed hfresh)
    · refine ends_modify (ends_get ?_)
      split
      · exact ends_fail (.failed hfresh)
      · dsimp only
        split
        · split
          · exact ends_fail (.failed hfresh)
          · exact ends_fail (.failed hfresh)
        · refine ends_reject (.failed hfresh) fun _ => ?_
          split
          · exact ends_fail (.failed hfresh)
          · refine ends_reject (.failed hfresh) fun _ => ?_
            refine ends_reject (.failed hfresh) fun _ => ?_
            refine ends_modify (ends_pure (.recorded hfresh rfl ?_))
            exact .activation (get?_set_self _ _ _)

theorem collectCheckpoint_outcome (r : CheckpointCollectionRequest) :
    Ends (collectCheckpoint r) d (fun res d' =>
      DomainOutcome (.collection r) (.ok uuidNil) now d (res.map .collection) d') := by
  unfold collectCheckpoint
  refine ends_get ?_
  split
  · next hmissing =>
    refine ends_fail (.refused (.inl rfl) ?_)
    intro id a hrecorded _
    cases hrecorded with
    | collection _ hcheckpoint =>
    rw [hmissing] at hcheckpoint
    cases hcheckpoint
  · next checkpoint hcheckpoint =>
    refine ends_rejectIf (fun hearly => ?_) fun hafter => ?_
    · refine .refused (.inl rfl) ?_
      intro id a hrecorded _
      cases hrecorded with
      | collection _ hcheckpoint' _ hafter =>
      rw [hcheckpoint, some.injEq] at hcheckpoint'
      subst hcheckpoint'
      exact absurd hearly (not_lt.mpr hafter)
    · split
      · next existing hget =>
        refine ends_answer (.inl rfl) rfl fun id r₀ a hrecorded hreuses => ?_
        cases hreuses with
        | collection hid =>
        cases hrecorded with
        | collection h =>
        rw [hid, hget] at h
        cases h
        constructor
        · rintro rfl
          exact ⟨rfl, rfl⟩
        · rintro ⟨⟩ -
          exact rfl
      · next hnone =>
        have hfresh : Fresh d (.collection r) := fresh_of_unfiled hnone
        refine ends_ofExcept (fun _ _ => .failed hfresh) fun plan hplan => ?_
        refine ends_reject (.failed hfresh) fun _ => ?_
        refine ends_reject (.failed hfresh) fun _ => ?_
        refine ends_modify (ends_pure (.recorded hfresh rfl ?_))
        refine .collection (get?_set_self _ _ _) (get?_set_self _ _ _) ?_
          (not_lt.mp hafter)
        -- Only an activated checkpoint has a plan.
        obtain ⟨checkpoint', hcheckpoint', hstate, -⟩ :=
          memoryCheckpointPlan_eq_ok hplan
        rw [hcheckpoint, some.injEq] at hcheckpoint'
        subst hcheckpoint'
        show checkpoint.state ≠ .staged
        rw [hstate]
        decide

theorem finalizeBlobUpload_outcome {credential} (r : BlobUploadFinalizationRequest)
    (publish : UploadCallback) :
    Ends (finalizeBlobUpload credential r now publish) d (fun res d' =>
      DomainOutcome (.finalization r) (.ok uuidNil) now d (res.map .finalization) d') := by
  unfold finalizeBlobUpload
  refine ends_get ?_
  split
  · next existing hget =>
    refine ends_answer (.inl rfl) rfl fun id r₀ a hrecorded hreuses => ?_
    cases hreuses with
    | finalization hid =>
    cases hrecorded with
    | finalization h =>
    rw [hid, hget] at h
    cases h
    constructor
    · rintro rfl
      exact ⟨rfl, rfl⟩
    · rintro ⟨⟩ -
      exact rfl
  · next hnone =>
    have hfresh : Fresh d (.finalization r) := fresh_of_unfiled hnone
    refine ends_ofExcept (fun _ _ => .failed hfresh) fun upload _ => ?_
    refine ends_memoryFenceAllowsWrite (fun _ => .failed hfresh) fun _ => ?_
    refine ends_reject (.failed hfresh) fun _ => ends_get ?_
    split
    · refine ends_reject (.failed hfresh) fun _ => ?_
      refine ends_modify (ends_pure (.recorded hfresh rfl ?_))
      exact .finalization (get?_set_self _ _ _)
    · refine ends_ofExcept (fun _ _ => .failed hfresh) fun _ _ => ?_
      refine ends_modify (ends_pure (.recorded hfresh rfl ?_))
      exact .finalization (get?_set_self _ _ _)

theorem changeMemberCapabilities_outcome (r : MemberCapabilityChange) :
    Ends (changeMemberCapabilities r now) d (fun res d' =>
      DomainOutcome (.capabilities r) (.ok uuidNil) now d (res.map .capabilities) d') := by
  unfold changeMemberCapabilities
  refine ends_get ?_
  split
  · next existing hget =>
    split
    · next hmatch =>
      refine ends_fail (.refused (.inl rfl) ?_)
      intro id a hrecorded _
      cases hrecorded with
      | capabilities h =>
      rw [hget] at h
      cases h
      exact hmatch rfl
    · next hmatch =>
      refine ends_pure (.repeated (.inl rfl) rfl ?_)
      intro id r₀ a₀ hrecorded hreuses
      cases hreuses with
      | capabilities hid =>
      cases hrecorded with
      | capabilities h =>
      rw [hid, hget] at h
      cases h
      obtain rfl : _ = r := not_not.mp hmatch
      exact ⟨rfl, rfl⟩
  · next hnone =>
    have hfresh : Fresh d (.capabilities r) := fresh_of_unfiled hnone
    split
    · exact ends_fail (.failed hfresh)
    · refine ends_reject (.failed hfresh) fun _ => ?_
      refine ends_reject (.failed hfresh) fun _ => ?_
      refine ends_reject (.failed hfresh) fun _ => ?_
      refine ends_reject (.failed hfresh) fun _ => ?_
      refine ends_modify (ends_pure (.recorded hfresh rfl ?_))
      exact .capabilities (get?_set_self _ _ _)

end

/-! ## What one call does to the store -/

/-- What a call does to the store. -/
structure Outcome (r : ControlRequest) (key : DomainKey) (i : Invocation) (s : MemoryStore)
    (res : Except RelayError ControlAnswer) (s' : MemoryStore) : Prop where
  accepted : ∀ a, res = .ok a → a.acceptance = .accepted → r.Ready i.now ∧
    ∃ d d' id, s.domains.get? key = some d ∧ r.callerSubscription i.memberID d = .ok id ∧
      s'.domains.get? key = some d' ∧ Recorded d' id r a
  found : ∀ d id r₀ a, s.domains.get? key = some d → Recorded d id r₀ a → Reuses r₀ r →
    (∃ d', s'.domains.get? key = some d' ∧ Untouched r i.now d d') ∧
    (r₀ = r → r.Ready i.now → r.Authorized key i s → r.callerSubscription i.memberID d = .ok id →
      res = .ok a.asDuplicate) ∧
    (r₀ ≠ r → ∃ e, res = .error e)

section
variable {r : ControlRequest} {key : DomainKey} {i : Invocation} {s : MemoryStore}
  {e : RelayError}

/-- The call fails before it reaches the domain. -/
theorem Outcome.refused (h : r.Ready i.now → ¬ r.Authorized key i s) :
    Outcome r key i s (.error e) s where
  accepted := by rintro _ ⟨⟩
  found := by
    intro d id r₀ a hd _ _
    refine ⟨⟨d, hd, .inl rfl⟩, ?_, fun _ => ⟨e, rfl⟩⟩
    rintro _ hready hauthorized _
    exact absurd hauthorized (h hready)

/-- The call reaches the domain. -/
theorem DomainOutcome.lift {res : Except RelayError ControlAnswer} {d d'}
    (hready : r.Ready i.now) (hd : s.domains.get? key = some d)
    (h : DomainOutcome r (r.callerSubscription i.memberID d) i.now d res d') :
    Outcome r key i s res (s.setDomain key d') where
  accepted := by
    intro a hres haccepted
    obtain ⟨id, hcaller, hrecorded⟩ := h.accepted a hres haccepted
    exact ⟨hready, d, d', id, hd, hcaller, get?_set_self _ _ _, hrecorded⟩
  found := by
    intro d₀ id r₀ a hd₀ hrecorded hreuses
    rw [hd] at hd₀
    cases hd₀
    obtain ⟨huntouched, hrepeated, hreused⟩ := h.found id r₀ a hrecorded hreuses
    exact ⟨⟨d', get?_set_self _ _ _, huntouched⟩, fun heq _ _ => hrepeated heq, hreused⟩

variable {α : Type} {f : α → ControlAnswer}

theorem outcome_asAdministrator {body : Attempt MemoryDomain RelayError α} (hready : r.Ready i.now)
    (hcapability : r.capability = none) (hbody : ∀ d, Ends body d (fun res d' =>
      DomainOutcome r (r.callerSubscription i.memberID d) i.now d (res.map f) d')) :
    Ends (MemoryStore.asAdministrator (i.administrator key) body) s (fun res s' =>
      Outcome r key i s (res.map f) s') := by
  unfold Ends MemoryStore.asAdministrator MemoryStore.onDomain
  cases hauth : s.authorizedDomain (i.administrator key) with
  | error e =>
    refine Outcome.refused fun _ hauthorized => ?_
    unfold ControlRequest.Authorized at hauthorized
    rw [hcapability] at hauthorized
    obtain ⟨d, hd⟩ := hauthorized
    rw [hauth] at hd
    cases hd
  | ok d => exact (hbody d).lift hready (authorizedDomain_eq_ok hauth)

theorem outcome_asMember {body : MemoryStore → Attempt MemoryDomain RelayError α}
    {capability} (hready : r.Ready i.now) (hcapability : r.capability = some capability)
    (hbody : ∀ d, Ends (body s) d (fun res d' =>
      DomainOutcome r (r.callerSubscription i.memberID d) i.now d (res.map f) d')) :
    Ends (MemoryStore.asMember (i.member key) capability i.now body) s (fun res s' =>
      Outcome r key i s (res.map f) s') := by
  unfold Ends MemoryStore.asMember MemoryStore.onDomain
  cases hauth : s.authorizedMember (i.member key) capability i.now with
  | error e =>
    refine Outcome.refused fun _ hauthorized => ?_
    unfold ControlRequest.Authorized at hauthorized
    rw [hcapability] at hauthorized
    obtain ⟨d, hd⟩ := hauthorized
    rw [hauth] at hd
    cases hd
  | ok d => exact (hbody d).lift hready (authorizedMember_eq_ok hauth)

/-- A check in front of the call that a ready request passes. -/
theorem outcome_check {β : Type} {x : Except RelayError β}
    {rest : β → Attempt MemoryStore RelayError α} (hcheck : r.Ready i.now → ∃ b, x = .ok b)
    (hrest : ∀ b, x = .ok b → Ends (rest b) s (fun res s' => Outcome r key i s (res.map f) s')) :
    Ends (ofExcept x >>= rest) s (fun res s' => Outcome r key i s (res.map f) s') := by
  refine ends_ofExcept (fun e herr => Outcome.refused fun hready => ?_) hrest
  obtain ⟨b, hb⟩ := hcheck hready
  rw [herr] at hb
  cases hb

theorem outcome_rejectIf {c : Prop} [Decidable c] {e}
    {rest : Unit → Attempt MemoryStore RelayError α} (hcheck : r.Ready i.now → ¬ c)
    (hrest : ¬ c → Ends (rest ()) s (fun res s' => Outcome r key i s (res.map f) s')) :
    Ends (rejectIf c e >>= rest) s (fun res s' => Outcome r key i s (res.map f) s') :=
  ends_rejectIf (fun hc => Outcome.refused fun hready => absurd hc (hcheck hready)) hrest

end

/-- The lease check that a rebootstrap and its renewal share: a lease can be computed exactly when
the request is valid and the lease fits. -/
theorem lease_eq_ok {valid : Except RelayError Unit} {duration : Int} {message : String} :
    (∃ t, (do
      valid
      rejectWhen (now < 0 ∨ now > maxInt64 - duration) .invalidSubscription message
      .ok (now + duration) : Except RelayError Int) = .ok t) ↔
      valid = .ok () ∧ 0 ≤ now ∧ now ≤ maxInt64 - duration := by
  constructor
  · rintro ⟨t, h⟩
    obtain ⟨⟨⟩, hvalid, h⟩ := bind_eq_ok.mp h
    obtain ⟨_, hfits, -⟩ := bind_eq_ok.mp h
    rw [rejectWhen_eq_ok, not_or, not_lt, not_lt] at hfits
    exact ⟨hvalid, hfits⟩
  · rintro ⟨hvalid, hpast, hfits⟩
    refine ⟨_, bind_eq_ok.mpr ⟨(), hvalid, bind_eq_ok.mpr ⟨(), ?_, rfl⟩⟩⟩
    rw [rejectWhen_eq_ok, not_or, not_lt, not_lt]
    exact ⟨hpast, hfits⟩

/-- **Calls.** Whatever is recorded under the retry identifier decides what a call does. -/
theorem ControlRequest.call_outcome (r : ControlRequest) (key : DomainKey) (i : Invocation)
    (s : MemoryStore) : Outcome r key i s (r.call key i s).1 (r.call key i s).2 := by
  -- Each call is its checks, which a ready request passes, the lookup of the caller, and the body.
  cases r with
  | subscriptionStatus id r =>
    refine ends_map (outcome_rejectIf (fun hready => hready.1) fun hid => ?_)
    refine outcome_check (fun hready => ⟨(), hready.2⟩) fun _ hvalid => ?_
    exact outcome_asAdministrator ⟨hid, hvalid⟩ rfl fun _ => changeSubscriptionStatus_outcome id r
  | rebootstrap r =>
    refine ends_map (outcome_check (fun hready => ⟨(), hready.1⟩) fun _ hvalid => ?_)
    refine outcome_check lease_eq_ok.mpr fun t hlease => ?_
    exact outcome_asMember (lease_eq_ok.mp ⟨t, hlease⟩) rfl
      fun _ => requestSubscriptionRebootstrap_outcome r t
  | renewal r =>
    refine ends_map (outcome_check (fun hready => ⟨(), hready.1⟩) fun _ hvalid => ?_)
    refine outcome_check lease_eq_ok.mpr fun t hlease => ?_
    exact outcome_asMember (lease_eq_ok.mp ⟨t, hlease⟩) rfl
      fun _ => renewSubscriptionRebootstrap_outcome r t
  | cancellation r =>
    refine ends_map (outcome_check (fun hready => ⟨(), hready⟩) fun _ hvalid => ?_)
    exact outcome_asMember hvalid rfl fun _ => cancelSubscriptionRebootstrap_outcome r
  | completion r =>
    refine ends_map (outcome_check (fun hready => ⟨(), hready.1⟩) fun _ hvalid => ?_)
    refine outcome_check (fun hready => hready.2) fun n hcursor => ?_
    exact outcome_asMember ⟨hvalid, n, hcursor⟩ rfl
      fun _ => completeSubscriptionRebootstrap_outcome r n
  | fence r =>
    refine ends_map (outcome_check (fun hready => ⟨(), hready.1⟩) fun _ hvalid => ?_)
    refine outcome_rejectIf (fun hready => not_lt.mpr hready.2) fun hpast => ?_
    exact outcome_asMember ⟨hvalid, not_lt.mp hpast⟩ rfl
      fun _ => createCheckpointFence_outcome r _
  | fenceAbort r =>
    refine ends_map (outcome_check (fun hready => ⟨(), hready.1⟩) fun _ hvalid => ?_)
    refine outcome_rejectIf (fun hready => not_lt.mpr hready.2) fun hpast => ?_
    exact outcome_asMember ⟨hvalid, not_lt.mp hpast⟩ rfl
      fun _ => abortCheckpointFence_outcome r
  | activation r =>
    refine ends_map (outcome_check (fun hready => ⟨(), hready⟩) fun _ hvalid => ?_)
    exact outcome_asAdministrator hvalid rfl fun _ => activateCheckpoint_outcome r
  | collection r =>
    refine ends_map (outcome_check (fun hready => ⟨(), hready⟩) fun _ hvalid => ?_)
    exact outcome_asAdministrator hvalid rfl fun _ => collectCheckpoint_outcome r
  | finalization r =>
    refine ends_map (outcome_check (fun hready => ⟨(), hready⟩) fun _ hvalid => ?_)
    exact outcome_asMember hvalid rfl fun _ => finalizeBlobUpload_outcome r i.publish
  | capabilities r =>
    refine ends_map (outcome_check (fun hready => ⟨(), hready⟩) fun _ hvalid => ?_)
    exact outcome_asAdministrator hvalid rfl fun _ => changeMemberCapabilities_outcome r

/-! ## Along a run -/

theorem ControlRequest.apply_operation (r : ControlRequest) (key : DomainKey) (i : Invocation)
    (s : MemoryStore) : (r.operation key i).apply s = (r.call key i s).2 := by
  cases r <;> exact (state_map _ _ _).symm

/-- A request that was ready stays ready, if a lease it asks for still fits. -/
theorem ControlRequest.Ready.later {key i}
    (h : r.Ready i.now) (hle : ∀ t ∈ (r.operation key i).now, t ≤ now)
    (hfits : r.LeaseFits now) : r.Ready now := by
  cases r with
  | rebootstrap r | renewal r => exact ⟨h.1, h.2.1.trans (hle _ rfl), hfits⟩
  | fence r | fenceAbort r => exact ⟨h.1, h.2.trans (hle _ rfl)⟩
  | _ => exact h

/-- The clock never goes back. -/
theorem Moment.clock_le_run {m} {ops : List Operation}
    (hops : Along Moment.step Moment.Admits m ops) : m.clock ≤ (run Moment.step m ops).clock := by
  induction ops generalizing m with
  | nil => exact le_rfl
  | cons op ops ih =>
    refine le_trans ?_ (ih hops.2)
    show m.clock ≤ op.now.getD m.clock
    cases hnow : op.now with
    | none => exact le_rfl
    | some t => exact hops.1 t hnow

/-- An operation reads the clock at every call or at none. -/
theorem ControlRequest.now_operation (r : ControlRequest) (key : DomainKey) :
    (∀ i, (r.operation key i).now = none) ∨ ∀ i, (r.operation key i).now = some i.now := by
  cases r <;> first | exact .inl fun _ => rfl | exact .inr fun _ => rfl

/-- What the next operation of a run reads from the clock is not before what an earlier one read. -/
theorem ControlRequest.now_le_run {key i i₂ m} {ops : List Operation}
    (hops : Along Moment.step Moment.Admits m (r.operation key i :: ops))
    (hadmits : (run Moment.step m (r.operation key i :: ops)).Admits (r.operation key i₂)) :
    ∀ t ∈ (r.operation key i).now, t ≤ i₂.now := by
  rintro t ht
  obtain hnone | hsome := r.now_operation key
  · rw [hnone i] at ht
    cases ht
  · have hclock : (Moment.step (r.operation key i) m).clock = t := by
      show (r.operation key i).now.getD m.clock = t
      rw [mem_def.mp ht]
      rfl
    calc t = (Moment.step (r.operation key i) m).clock := hclock.symm
      _ ≤ (run Moment.step m (r.operation key i :: ops)).clock := Moment.clock_le_run hops.2
      _ ≤ i₂.now := hadmits _ (hsome i₂)

section
variable {key : DomainKey} {m : Moment} {ops : List Operation} {d : MemoryDomain}

/-- The journal only grows along a run. -/
theorem journal_of_run (hm : Reachable m.store) (hd : m.store.domains.get? key = some d)
    (hops : Along Moment.step Moment.Admits m ops) :
    ∃ d', (run Moment.step m ops).store.domains.get? key = some d' ∧ Journal d d' := by
  have hkept : ∀ (m : Moment) (op : Operation) (d₁ d₂ : MemoryDomain), Reachable m.store →
      m.Admits op → m.store.domains.get? key = some d₁ → Journal d d₁ →
      DomainStep m.store key op d₁ d₂ → Journal d d₂ :=
    fun _ _ _ _ _ _ _ hinv hstep => hinv.trans hstep.journal
  exact domain_history Moment.store (fun _ _ => rfl) (I := fun _ d' => Journal d d') hkept hm hd
    (.refl d) hops

/-- Along a run without renewals the lease stays as it was granted. -/
theorem lease_of_run {retryID lease}
    (hm : Reachable m.store) (hd : m.store.domains.get? key = some d)
    (hlease : d.rebootstrapRequests.get? retryID = some lease)
    (hops : Along Moment.step (fun _ op => ¬ RenewsLease key retryID op) m ops) :
    ∃ d', (run Moment.step m ops).store.domains.get? key = some d' ∧
      d'.rebootstrapRequests.get? retryID = some lease := by
  have hkept : ∀ (m : Moment) (op : Operation) (d₁ d₂ : MemoryDomain), Reachable m.store →
      ¬ RenewsLease key retryID op → m.store.domains.get? key = some d₁ →
      d₁.rebootstrapRequests.get? retryID = some lease → DomainStep m.store key op d₁ d₂ →
      d₂.rebootstrapRequests.get? retryID = some lease :=
    fun _ _ _ _ _ hop _ hinv hstep => hstep.lease_kept hop hinv
  exact domain_history Moment.store (fun _ _ => rfl)
    (I := fun _ d' => d'.rebootstrapRequests.get? retryID = some lease) hkept hm hd hlease hops

end

/-- **Retries.** After a request was accepted, along any run with a clock that does not go back:

* repeated by an authorized caller for the same subscription, with room for the lease it asks for,
  it gets the recorded answer, marked as a duplicate; only a lease renewed in between differs, and
  then it runs longer;
* another request under its retry identifier is refused;
* and neither changes the domain, but for closing the fences that are due. -/
theorem retry_of_run {r : ControlRequest} {key : DomainKey} {i : Invocation} {m : Moment}
    {ops : List Operation} {a : ControlAnswer} (hm : Reachable m.store)
    (hops : Along Moment.step Moment.Admits m (r.operation key i :: ops))
    (hanswer : (r.call key i m.store).1 = .ok a) (haccepted : a.acceptance = .accepted) :
    ∃ d d₂, m.store.domains.get? key = some d ∧
      (run Moment.step m (r.operation key i :: ops)).store.domains.get? key = some d₂ ∧
      (∀ i₂ : Invocation,
        (run Moment.step m (r.operation key i :: ops)).Admits (r.operation key i₂) →
        r.Authorized key i₂ (run Moment.step m (r.operation key i :: ops)).store →
        r.callerSubscription i₂.memberID d₂ = r.callerSubscription i.memberID d →
        r.LeaseFits i₂.now →
        ∃ a' d', (r.call key i₂ (run Moment.step m (r.operation key i :: ops)).store).1 =
            .ok a'.asDuplicate ∧
          a.Extended a' ∧ (Along Moment.step (fun _ op => ∀ r', r = .rebootstrap r' →
            ¬ RenewsLease key r'.retryID op) (Moment.step (r.operation key i) m) ops → a' = a) ∧
          (r.call key i₂ (run Moment.step m (r.operation key i :: ops)).store).2.domains.get? key =
            some d' ∧
          r.Untouched i₂.now d₂ d') ∧
      (∀ (i₂ : Invocation) (r₂ : ControlRequest), Reuses r r₂ → r ≠ r₂ →
        ∃ e d', (r₂.call key i₂ (run Moment.step m (r.operation key i :: ops)).store).1 = .error e ∧
          (r₂.call key i₂ (run Moment.step m (r.operation key i :: ops)).store).2.domains.get? key =
            some d' ∧
          r₂.Untouched i₂.now d₂ d') := by
  -- The accepted call has recorded its answer, the journal keeps the record along the run, and the
  -- second call finds it there.
  obtain ⟨hready, d, d₁, id, hd, hcaller, hd₁, hrecorded⟩ :=
    (r.call_outcome key i m.store).accepted a hanswer haccepted
  rw [← r.apply_operation] at hd₁
  have hm₁ : Reachable (Moment.step (r.operation key i) m).store := hm.apply _
  obtain ⟨d₂, hd₂, hjournal⟩ := journal_of_run hm₁ hd₁ hops.2
  obtain ⟨a', hrecorded₂, hextended⟩ := hrecorded.kept hjournal
  refine ⟨d, d₂, hd, hd₂, ?_, ?_⟩
  · intro i₂ hadmits hauthorized hsame hfits
    obtain ⟨⟨d', hd', huntouched⟩, hrepeated, -⟩ :=
      (r.call_outcome key i₂ _).found d₂ id r a' hd₂ hrecorded₂ (.refl r)
    have hready₂ : r.Ready i₂.now := hready.later (now_le_run hops hadmits) hfits
    refine ⟨a', d', hrepeated rfl hready₂ hauthorized (hsame.trans hcaller), hextended, ?_, hd',
      huntouched⟩
    intro hrenewals
    -- Only a rebootstrap's answer can have been extended, and only by a renewal of its lease.
    cases hextended with
    | same => rfl
    | lease =>
      cases hrecorded with
      | @rebootstrap r expiresAt result hlease =>
        have hrenewals : Along Moment.step (fun _ op => ¬ RenewsLease key r.retryID op)
            (Moment.step (operation key i (.rebootstrap r)) m) ops :=
          hrenewals.mono fun _ _ h => h r rfl
        obtain ⟨d₃, hd₃, hlease₃⟩ := lease_of_run hm₁ hd₁ hlease hrenewals
        cases some.inj (hd₂.symm.trans hd₃)
        cases hrecorded₂ with
        | rebootstrap hlease₂ =>
          cases some.inj (hlease₂.symm.trans hlease₃)
          rfl
  · intro i₂ r₂ hreuses hne
    obtain ⟨⟨d', hd', huntouched⟩, -, hrefused⟩ :=
      (r₂.call_outcome key i₂ _).found d₂ id r a' hd₂ hrecorded₂ hreuses
    obtain ⟨e, he⟩ := hrefused hne
    exact ⟨e, d', he, hd', huntouched⟩

/-! ## Sample retries -/

namespace Sample

/-- The node after the setup and some operations, on a clock that starts at zero. -/
def moment (ops : List Operation) : Moment := run Moment.step (Moment.new none 0) (setup ++ ops)

theorem reachable_moment (ops : List Operation) : Reachable (moment ops).store :=
  Moment.reachable_run none 0 _

/-- The reader, at an instant. -/
def caller (now : Int) : Invocation := ⟨4, token, now, none⟩

/-- The reader asks for a fence. -/
def holding (fenceID : UUID) : ControlRequest := .fence ⟨50, fenceID, 3⟩

/-- The reader's fence, and a message it holds. -/
def held : List Operation :=
  [(holding 51).operation ⟨1, 2⟩ (caller 4), .publish reader (envelope 101 4) 8]

/-- The reader asks for recovery from the checkpoint. -/
def lease : ControlRequest := .rebootstrap ⟨70, 60, 101, 0, 300000⟩

/-- The recovery is granted, and its lease renewed. -/
def renewed : List Operation :=
  activation ++ [lease.operation ⟨1, 2⟩ (caller 11),
    .renewSubscriptionRebootstrap reader ⟨72, 70, 60, 101, 300011, 11, 300001⟩ 12]

/-- The reader under a token of its own choice, after its membership was replaced. -/
def movedCaller : Invocation := ⟨4, Base64Url.encode (List.replicate 32 8), 9, none⟩

/-- The reader fences the domain, and then its membership moves to another subscription. -/
def moved : List Operation :=
  (holding 51).operation ⟨1, 2⟩ (caller 4) :: admitting ++
    [replacing ((authorizationDigest (movedCaller.member ⟨1, 2⟩)).getD [])]

end Sample

open Sample

/-- The reader's request for a fence, repeated after a message was published. -/
theorem retry_sample : ∃ a d d', ((holding 51).call ⟨1, 2⟩ (caller 4) (moment []).store).1 =
        .ok a ∧ a.acceptance = .accepted ∧
      (moment held).store.domains.get? ⟨1, 2⟩ = some d ∧ d.messages.length = 1 ∧
      ((holding 51).call ⟨1, 2⟩ (caller 9) (moment held).store).1 = .ok a.asDuplicate ∧
      ((holding 51).call ⟨1, 2⟩ (caller 9) (moment held).store).2.domains.get? ⟨1, 2⟩ = some d' ∧
      (holding 51).Untouched 9 d d' := by
  have hclock : Along Moment.step Moment.Admits (moment []) held ∧
      (moment held).Admits ((holding 51).operation ⟨1, 2⟩ (caller 9)) := by
    decide +kernel
  have hm := reachable_moment []
  have hheld : moment held = run Moment.step (moment []) held := rfl
  rw [hheld] at hclock ⊢
  generalize hstart : moment [] = m at hclock hm ⊢
  obtain ⟨d, hd, a, hanswer, d', hauthorized, d₂, hd₂, subscription, hsub, subscription₂, hsub₂,
      haccepted, hmessages, hsame⟩ : ∃ d ∈ m.store.domains.get? ⟨1, 2⟩,
      ∃ a, ((holding 51).call ⟨1, 2⟩ (caller 4) m.store).1 = .ok a ∧
      ∃ d', (run Moment.step m held).store.authorizedMember ((caller 9).member ⟨1, 2⟩)
        .publishCheckpoint 9 = .ok d' ∧
      ∃ d₂ ∈ (run Moment.step m held).store.domains.get? ⟨1, 2⟩,
      ∃ subscription, d.activeMemberSubscription 4 = .ok subscription ∧
      ∃ subscription₂, d₂.activeMemberSubscription 4 = .ok subscription₂ ∧
        a.acceptance = .accepted ∧ d₂.messages.length = 1 ∧ subscription₂ = subscription := by
    subst hstart
    decide +kernel
  obtain ⟨d₀, d₁, hd₀, hd₁, hretry, -⟩ := retry_of_run hm hclock.1 hanswer haccepted
  cases some.inj (hd₀.symm.trans hd)
  cases some.inj (hd₁.symm.trans hd₂)
  have hcaller : (holding 51).callerSubscription 4 d₂ = (holding 51).callerSubscription 4 d := by
    show (d₂.activeMemberSubscription 4).map _ = (d.activeMemberSubscription 4).map _
    rw [hsub, hsub₂, hsame]
  obtain ⟨a', d', hrepeated, -, hsame, hd', huntouched⟩ :=
    hretry (caller 9) hclock.2 ⟨d', hauthorized⟩ hcaller trivial
  have ha' : a' = a := hsame ((along_true _).mono fun _ _ _ _ h => by cases h)
  exact ⟨a, d₂, d', hanswer, haccepted, hd₂, hmessages, ha' ▸ hrepeated, hd', huntouched⟩

theorem toOption_eq_none {ε α : Type} {x : Except ε α} : x.toOption = none ↔ ∃ e, x = .error e := by
  cases x with
  | error e | ok a => simp [Except.toOption]

/-- Where a retry is not answered as before. The lease was renewed, or does not fit any more. A
reused identifier comes after the end of the fence, which takes the messages it held along. The
membership moved to another subscription. -/
theorem retry_differs : (Along Moment.step Moment.Admits (Moment.new none 0) (setup ++ renewed) ∧
      Along Moment.step Moment.Admits (Moment.new none 0) (setup ++ held) ∧
      Along Moment.step Moment.Admits (Moment.new none 0) (setup ++ moved)) ∧
    (∃ a a' e, (lease.call ⟨1, 2⟩ (caller 11)
        (moment activation).store).1 = .ok a ∧ a.acceptance = .accepted ∧
      (lease.call ⟨1, 2⟩ (caller 13) (moment renewed).store).1 = .ok a' ∧ a' ≠ a.asDuplicate ∧
      lease.Authorized ⟨1, 2⟩ (caller maxInt64) (moment renewed).store ∧
      (lease.call ⟨1, 2⟩ (caller maxInt64) (moment renewed).store).1 = .error e) ∧
    (∃ a d d₁ d₂ e, ((holding 51).call ⟨1, 2⟩ (caller 4)
        (moment []).store).1 = .ok a ∧ a.acceptance = .accepted ∧
      (moment held).store.domains.get? ⟨1, 2⟩ = some d ∧ ((holding 52).call ⟨1, 2⟩ (caller 7200004)
        (moment held).store).2.domains.get? ⟨1, 2⟩ = some d₁ ∧
      d.messages.length = 1 ∧ d₁.messages.length = 0 ∧
      (moment moved).store.domains.get? ⟨1, 2⟩ = some d₂ ∧
      (holding 51).Authorized ⟨1, 2⟩ movedCaller (moment moved).store ∧
      (d₂.activeMemberSubscription 4).toOption.isSome = true ∧ ((holding 51).call ⟨1, 2⟩ movedCaller
        (moment moved).store).1 = .error e) := by
  refine ⟨by decide +kernel, ?_, ?_⟩
  · generalize hs : (moment renewed).store = s
    obtain ⟨a, hanswer, a', hrepeated, _, hauthorized, haccepted, hne, hnone⟩ :
        ∃ a, (lease.call ⟨1, 2⟩ (caller 11) (moment activation).store).1 = .ok a ∧
        ∃ a', (lease.call ⟨1, 2⟩ (caller 13) s).1 = .ok a' ∧
        ∃ d, s.authorizedMember ((caller maxInt64).member ⟨1, 2⟩) .fetchMessage maxInt64 = .ok d ∧
          a.acceptance = .accepted ∧ a' ≠ a.asDuplicate ∧
          (lease.call ⟨1, 2⟩ (caller maxInt64) s).1.toOption = none := by
      subst hs
      decide +kernel
    obtain ⟨e, he⟩ := toOption_eq_none.mp hnone
    exact ⟨a, a', e, hanswer, haccepted, hrepeated, hne, ⟨_, hauthorized⟩, he⟩
  · generalize hs : (moment held).store = s, ht : (moment moved).store = t
    obtain ⟨a, hanswer, d, hd, d₁, hd₁, d₂, hd₂, _, hauthorized, haccepted, hone, hzero, hactive,
        hnone⟩ : ∃ a, ((holding 51).call ⟨1, 2⟩ (caller 4) (moment []).store).1 = .ok a ∧
        ∃ d ∈ s.domains.get? ⟨1, 2⟩,
        ∃ d₁ ∈ ((holding 52).call ⟨1, 2⟩ (caller 7200004) s).2.domains.get? ⟨1, 2⟩,
        ∃ d₂ ∈ t.domains.get? ⟨1, 2⟩,
        ∃ d', t.authorizedMember (movedCaller.member ⟨1, 2⟩) .publishCheckpoint 9 = .ok d' ∧
          a.acceptance = .accepted ∧ d.messages.length = 1 ∧ d₁.messages.length = 0 ∧
          (d₂.activeMemberSubscription 4).toOption.isSome = true ∧
          ((holding 51).call ⟨1, 2⟩ movedCaller t).1.toOption = none := by
      subst hs ht
      decide +kernel
    obtain ⟨e, he⟩ := toOption_eq_none.mp hnone
    exact ⟨a, d, d₁, d₂, e, hanswer, haccepted, hd, hd₁, hone, hzero, hd₂, ⟨_, hauthorized⟩,
      hactive, he⟩

end FacetsNode.Relay
