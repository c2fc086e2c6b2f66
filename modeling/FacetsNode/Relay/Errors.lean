import Mathlib.Logic.Basic

/-!
# Relay protocol errors

Every refusal of the relay carries a stable code and a text. `RelayError.plain` is the error of a
callback the relay runs on behalf of its caller (`write` and `publish` of a blob upload); the relay
hands such an error back untouched.
-/

namespace FacetsNode.Relay

inductive ErrorCode where
  | invalidDomain
  | invalidTenant
  | invalidSubscription
  | invalidMember
  | invalidAdmission
  | invalidEnvelope
  | invalidBlob
  | invalidBlobUpload
  | invalidCursor
  | invalidAcknowledgment
  | invalidCheckpoint
  | invalidCheckpointFence
  | checkpointFenceNotFound
  | checkpointFenceCollision
  | checkpointFenceActive
  | checkpointNotFound
  | checkpointCollision
  | checkpointNotEligible
  | checkpointUnavailable
  | rebootstrapIncomplete
  | rebootstrapExpired
  | collectionPlanStale
  | invalidCredentialRotation
  | unauthorized
  | wrongScope
  | domainNotFound
  | tenantNotFound
  | subscriptionNotFound
  | memberNotFound
  | admissionNotFound
  | memberExpired
  | memberRevoked
  | admissionExpired
  | admissionRevoked
  | missingCapability
  | domainCollision
  | tenantCollision
  | subscriptionCollision
  | memberCollision
  | admissionCollision
  | admissionClaimed
  | credentialRotationCollision
  | memberCapabilityCollision
  | credentialReuse
  | messageCollision
  | blobCollision
  | messageNotFound
  | blobNotFound
  | blobUploadNotFound
  | blobUploadCollision
  | domainFull
  | tenantFull
  deriving DecidableEq

inductive RelayError where
  | protocol (code : ErrorCode) (message : String)
  | plain (message : String)
  deriving DecidableEq

def protocolError (code : ErrorCode) (message : String) : RelayError := .protocol code message

/-- `if c { return protocolError(code, message) }` as the last check of a validator. -/
def rejectWhen (c : Prop) [Decidable c] (code : ErrorCode) (message : String) :
    Except RelayError Unit :=
  if c then .error (protocolError code message) else .ok ()

theorem rejectWhen_eq_ok {c : Prop} [Decidable c] {code : ErrorCode} {message : String} {u : Unit} :
    rejectWhen c code message = .ok u ↔ ¬ c := by
  unfold rejectWhen
  split
  · next h => simp [h]
  · next h => simp [h]

end FacetsNode.Relay
