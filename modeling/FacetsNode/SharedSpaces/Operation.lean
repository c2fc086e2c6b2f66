import FacetsNode.Relay.Memory.Operation
import FacetsNode.SharedSpaces.Access

/-!
# Shared Spaces: operations and runs

`Operation` lists the requests of the service, and those it leaves to the relay: the routes of the
relay stay open beside it, except the three that carry a key epoch — publishing, staging and
activating — which pass through the service. `Operation.apply` is the store a request leaves behind,
whatever the answer, and `Operation.accepted` says that the answer was no error.
-/

namespace FacetsNode.SharedSpaces

open Relay (UUID AdministrationCredential Credential Envelope CheckpointCandidate
  CheckpointActivationRequest)
open Attempt

/-- The service leaves the request to the relay. -/
def leftToRelay : Relay.Operation → Bool
  | .publish .. | .stageCheckpoint .. | .activateCheckpoint .. => false
  | _ => true

/-- The requests that can write to the store; those that only read take the relay's `fetch`
along. -/
inductive Operation where
  | provisionSpace (custody : Option Custody)
      (provisioning : SpaceProvisioning (GoSlice ParticipantDeviceKey)) (spare : Nat) (now : Int)
  | provisionSpaceWithAuthority (custody : Option Custody)
      (provisioning : SpaceProvisioning (GoSlice ParticipantDeviceKey))
      (initialAuthority : Option InitialServiceAuthorityBinding) (spare : Nat) (now : Int)
  | createInvitation (credential : AdministrationCredential)
      (invitation : Invitation (GoSlice ParticipantDeviceKey)) (spare : Nat) (now : Int)
  | claimInvitation (credential : InvitationCredential) (claim : InvitationClaim) (now : Int)
  | cancelInvitation (credential : AdministrationCredential) (cancellation : InvitationCancellation)
      (now : Int)
  | changeParticipantRole (credential : AdministrationCredential) (change : ParticipantRoleChange)
      (now : Int)
  | enrollParticipantDevice (credential : AdministrationCredential)
      (enrollment : ParticipantDeviceEnrollment) (spareOfCheck spare : Nat) (now : Int)
  | revokeParticipantDevice (credential : AdministrationCredential)
      (revocation : ParticipantDeviceRevocation) (now : Int)
  | revokeParticipant (custody : Option Custody) (credential : AdministrationCredential)
      (revocation : ParticipantRevocation) (now : Int)
  | changeComputeBinding (credential : AdministrationCredential)
      (change : SpaceComputeBindingChange)
      (now : Int)
  | updateParticipantPresentation (credential : Credential) (update : ParticipantPresentationUpdate)
      (now : Int)
  | getParticipantStatus (credential : Credential) (now : Int)
  | getParticipantRoster (credential : Credential) (now : Int)
  | listSecureRosterAttestations (credential : Credential) (afterRevision : Nat) (limit now : Int)
  | getParticipantBootstrap (custody : Option Custody) (credential : Credential)
      (recipientDeviceID : UUID) (now : Int)
  | getParticipantKeyGrant (credential : Credential) (recipientDeviceID : UUID) (now : Int)
  | publishEnvelope (credential : Credential) (envelope : Envelope) (now : Int)
  | stageCheckpoint (credential : Credential) (candidate : CheckpointCandidate) (now : Int)
  | activateCheckpoint (credential : AdministrationCredential)
      (request : CheckpointActivationRequest)
      (now : Int)
  | relay (op : { op : Relay.Operation // leftToRelay op = true })

section
variable {H S : Type} (L : Slices ParticipantDeviceKey H S)

/-- A request, without its answer. -/
def MemoryStore.handle : Operation → Attempt (MemoryStore H S) SpacesError Unit
  | .provisionSpace custody p spare t => (fun _ => ()) <$> provisionSpaceAlone L custody p spare t
  | .provisionSpaceWithAuthority custody p a spare t =>
    (fun _ => ()) <$> provisionSpaceWithAuthority L custody p a spare t
  | .createInvitation c i spare t => (fun _ => ()) <$> createInvitation L c i spare t
  | .claimInvitation c claim t => (fun _ => ()) <$> claimInvitation L c claim t
  | .cancelInvitation c r t => (fun _ => ()) <$> cancelInvitation c r t
  | .changeParticipantRole c r t => (fun _ => ()) <$> changeParticipantRole L c r t
  | .enrollParticipantDevice c e spareOfCheck spare t =>
    (fun _ => ()) <$> enrollParticipantDevice L c e spareOfCheck spare t
  | .revokeParticipantDevice c r t => (fun _ => ()) <$> revokeParticipantDevice L c r t
  | .revokeParticipant custody c r t => (fun _ => ()) <$> revokeParticipant L custody c r t
  | .changeComputeBinding c r t => (fun _ => ()) <$> changeComputeBinding c r t
  | .updateParticipantPresentation c u t => (fun _ => ()) <$> updateParticipantPresentation c u t
  | .getParticipantStatus c t => (fun _ => ()) <$> getParticipantStatus L c t
  | .getParticipantRoster c t => (fun _ => ()) <$> getParticipantRoster L c t
  | .listSecureRosterAttestations c a l t => (fun _ => ()) <$> listSecureRosterAttestations c a l t
  | .getParticipantBootstrap custody c d t =>
      (fun _ => ()) <$> getParticipantBootstrap L custody c d t
  | .getParticipantKeyGrant c d t => (fun _ => ()) <$> getParticipantKeyGrant L c d t
  | .publishEnvelope c e t => (fun _ => ()) <$> publishEnvelope c e t
  | .stageCheckpoint c r t => (fun _ => ()) <$> stageCheckpoint c r t
  | .activateCheckpoint c r t => (fun _ => ()) <$> activateCheckpoint c r t
  | .relay op => modify fun s => { s with relay := op.val.apply s.relay }

/-- The store a request leaves behind. -/
def Operation.apply (op : Operation) (s : MemoryStore H S) : MemoryStore H S :=
  (MemoryStore.handle L op s).2

/-- The answer is no error. -/
def Operation.accepted (op : Operation) (s : MemoryStore H S) : Bool :=
  (MemoryStore.handle L op s).1.isOk

/-- `NewMemoryStore`, over a new relay store. -/
def MemoryStore.new (ttl : Option Int) : MemoryStore H S where
  heap := L.empty
  relay := Relay.MemoryStore.newMemoryStore ttl

/-- The store after a list of requests. -/
def MemoryStore.after (ttl : Option Int) (ops : List Operation) : MemoryStore H S :=
  run (Operation.apply L) (MemoryStore.new L ttl) ops

end

end FacetsNode.SharedSpaces
