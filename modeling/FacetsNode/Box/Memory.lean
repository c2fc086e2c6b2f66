import FacetsNode.Lib.Run
import FacetsNode.Box.Model

/-!
# The in-memory store of a Box

`MemoryStore` of the Box controller, request by request. A request returns its outcome together with
the store it leaves: two requests also change the store when they fail — a wrong confirmation code
is counted, and a claim that finds no work has still dropped the claims and operations that are
over.

Approving an enrollment request pins through the same `pinParticipantLocked`, after the same checks,
as `pinOwnerApprovedParticipant`; the table of those requests is left out, and so are the web
sessions and the requests that only read.
-/

namespace FacetsNode.Box

open Relay (UUID uuidNil)

structure MemoryStore where
  state : Option State
  grants : GoMap UUID ConnectionGrant
  participantEnrollments : GoMap UUID Enrollment
  participantChallenges : GoMap UUID ChallengeState
  sharedWorkers : GoMap UUID Worker
  sharedWorkerRequests : GoMap UUID AccessRequest
  sharedWorkerGrants : GoMap UUID AccessGrant
  sharedWorkerOperations : GoMap UUID Operation

def newMemoryStore : MemoryStore :=
  ⟨none, ∅, ∅, ∅, ∅, ∅, ∅, ∅⟩

/-- What a request answers, and the store it leaves. -/
abbrev Outcome (σ α : Type) : Type := Except StoreError α × σ

namespace MemoryStore

variable (c : Suite) (s : MemoryStore)

/-- The Box is claimed and has this ID. -/
abbrev ClaimedAs (boxID : UUID) : Prop := ∃ state ∈ s.state, state.claimed ∧ state.boxID = boxID

/-! ## The Box and its connections -/

/-- `Initialize`. -/
def start (state : State) : Outcome MemoryStore Unit :=
  match s.state with
  | some _ => (.error .alreadyInitialized, s)
  | none => (.ok (), { s with state := some state })

def claim (activationVerifier ownerVerifier : GoString) : Outcome MemoryStore Unit :=
  match s.state with
  | none => (.error .notInitialized, s)
  | some state =>
    if state.claimed then (.error .alreadyClaimed, s)
    else if state.activationVerifier ≠ activationVerifier then (.error .invalidCredential, s)
    else (.ok (), { s with
      state := some { state with activationVerifier := [], ownerVerifier := ownerVerifier } })

def createGrant (grant : ConnectionGrant) : Outcome MemoryStore Unit :=
  match s.grants.get? grant.grantID with
  | some _ => (.error .connectionGrantCollision, s)
  | none => (.ok (), { s with grants := s.grants.set grant.grantID grant })

def revokeGrant (grantID : UUID) (now : Int) : Outcome MemoryStore Unit :=
  match s.grants.get? grantID with
  | none => (.error .invalidCredential, s)
  | some grant =>
    (.ok (), { s with grants := s.grants.set grantID { grant with revokedAt := some now } })

def revokeAllGrants (now : Int) : Outcome MemoryStore Unit :=
  (.ok (), { s with grants := s.grants.mapValues fun grant =>
    { grant with revokedAt := some now } })

/-! ## Participants -/

/-- The two enrollments share a principal, a root key, a device, a grant or a device key. -/
abbrev Overlap (existing e : Enrollment) : Prop :=
  existing.anchor.boxScopedPrincipalID = e.anchor.boxScopedPrincipalID ∨
    existing.anchor.rootKeyFingerprint = e.anchor.rootKeyFingerprint ∨
    existing.device.deviceID = e.device.deviceID ∨ existing.device.grantID = e.device.grantID ∨
    existing.device.signingKeyFingerprint = e.device.signingKeyFingerprint

def pinParticipantLocked (e : Enrollment) : Outcome MemoryStore Unit :=
  match s.participantEnrollments.get? e.anchor.participantID with
  | some existing => (if existing = e then .ok () else .error .participantAuthority, s)
  | none =>
    if s.participantEnrollments.pairs.any fun existing => decide (Overlap existing.2 e) then
      (.error .participantAuthority, s)
    else
      (.ok (), { s with
        participantEnrollments := s.participantEnrollments.set e.anchor.participantID e })

def pinOwnerApprovedParticipant (e : Enrollment) (now : Int) : Outcome MemoryStore Unit :=
  if e.validInitialAt c now ∧ s.ClaimedAs e.anchor.boxID then s.pinParticipantLocked e
  else (.error .participantAuthority, s)

def pinnedParticipant (boxID participantID deviceID : UUID) : Option Enrollment :=
  (s.participantEnrollments.get? participantID).filter fun e =>
    decide (s.ClaimedAs boxID ∧ e.anchor.boxID = boxID ∧ e.device.deviceID = deviceID)

def revokePinnedParticipant (boxID participantID : UUID) (now : Int) : Outcome MemoryStore Unit :=
  match s.participantEnrollments.get? participantID with
  | none => (.error .participantAuthority, s)
  | some e =>
    if boxID ≠ uuidNil ∧ participantID ≠ uuidNil ∧ 0 < now ∧ s.ClaimedAs boxID ∧
        e.anchor.boxID = boxID then
      if e.anchor.revokedAtMilliseconds = 0 then
        (.ok (), { s with
          participantEnrollments := s.participantEnrollments.set participantID
            { e with anchor := { e.anchor with revokedAtMilliseconds := now } } })
      else (.ok (), s)
    else (.error .participantAuthority, s)

def revokePinnedParticipantDevice (boxID participantID deviceID : UUID) (now : Int) :
    Outcome MemoryStore Unit :=
  match s.participantEnrollments.get? participantID with
  | none => (.error .participantAuthority, s)
  | some e =>
    if boxID ≠ uuidNil ∧ participantID ≠ uuidNil ∧ deviceID ≠ uuidNil ∧ 0 < now ∧
        s.ClaimedAs boxID ∧ e.anchor.boxID = boxID ∧ e.device.deviceID = deviceID then
      if e.device.revokedThroughGeneration < e.device.deviceGeneration then
        (.ok (), { s with
          participantEnrollments := s.participantEnrollments.set participantID
            { e with
              device := { e.device with revokedThroughGeneration := e.device.deviceGeneration } } })
      else (.ok (), s)
    else (.error .participantAuthority, s)

/-- The participant is pinned with this device, and neither has been revoked. -/
abbrev Admits (participantID deviceID : UUID) (now : Int) : Prop :=
  ∃ e ∈ s.participantEnrollments.get? participantID,
    e.device.deviceID = deviceID ∧ e.validInitialAt c now

/-! ## Challenges -/

def issueParticipantChallenge (challenge : Challenge) (now : Int) : Outcome MemoryStore Unit :=
  if challenge.validAt now ∧ s.ClaimedAs challenge.boxID ∧
      (∃ e ∈ s.participantEnrollments.get? challenge.participantID,
        e.anchor.boxID = challenge.boxID ∧ e.device.deviceID = challenge.deviceID ∧
          e.validInitialAt c now) ∧
      s.participantChallenges.get? challenge.challengeID = none then
    (.ok (), { s with
      participantChallenges := s.participantChallenges.set challenge.challengeID ⟨challenge, 0⟩ })
  else (.error .participantAuthority, s)

def consumeParticipantChallenge (boxID participantID deviceID challengeID : UUID) (now : Int) :
    Bool × MemoryStore :=
  match s.participantChallenges.get? challengeID with
  | none => (false, s)
  | some state =>
    if state.consumedAtMilliseconds = 0 ∧ state.challenge.boxID = boxID ∧
        state.challenge.participantID = participantID ∧ state.challenge.deviceID = deviceID ∧
        state.challenge.validAt now ∧
        ∃ e ∈ s.participantEnrollments.get? participantID,
          e.anchor.boxID = boxID ∧ e.device.deviceID = deviceID ∧ e.validInitialAt c now then
      (true, { s with
        participantChallenges := s.participantChallenges.set challengeID
          { state with consumedAtMilliseconds := now } })
    else (false, s)

/-! ## The directory of Workers -/

def upsertSharedWorker (w : Worker) (now : Int) : Outcome MemoryStore Unit :=
  if w.validAt c now ∧ s.ClaimedAs w.boxID ∧ s.Admits c w.ownerParticipantID w.ownerDeviceID now ∧
      ∀ existing ∈ s.sharedWorkers.get? w.workerID,
        existing.ownerParticipantID = w.ownerParticipantID ∧
          existing.ownerDeviceID = w.ownerDeviceID ∧ existing.revision < w.revision then
    (.ok (), { s with sharedWorkers := s.sharedWorkers.set w.workerID w })
  else (.error .sharedWorkerAuthority, s)

def withdrawSharedWorker (boxID workerID participantID deviceID : UUID) (revision : Nat)
    (now : Int) :
    Outcome MemoryStore Unit :=
  if (boxID ≠ uuidNil ∧ workerID ≠ uuidNil ∧ participantID ≠ uuidNil ∧ deviceID ≠ uuidNil ∧
        revision ≠ 0 ∧ 0 < now) ∧
      s.ClaimedAs boxID ∧ s.Admits c participantID deviceID now ∧
      ∃ existing ∈ s.sharedWorkers.get? workerID,
        existing.boxID = boxID ∧ existing.ownerParticipantID = participantID ∧
          existing.ownerDeviceID = deviceID ∧ existing.revision < revision then
    (.ok (), { s with sharedWorkers := s.sharedWorkers.delete workerID })
  else (.error .sharedWorkerAuthority, s)

/-! ## Access to a Worker -/

def createSharedWorkerAccessRequest (r : AccessRequest) (now : Int) : Outcome MemoryStore Unit :=
  if r.validAt now ∧ s.ClaimedAs r.boxID ∧
      s.Admits c r.requesterParticipantID r.requesterDeviceID now ∧
      (∃ w ∈ s.sharedWorkers.get? r.workerID, w.boxID = r.boxID ∧ now < w.expiresAtMilliseconds ∧
          w.capabilitiesDigest = r.capabilitiesDigest ∧
          w.ownerParticipantID ≠ r.requesterParticipantID) ∧
      s.sharedWorkerRequests.get? r.requestID = none then
    if s.sharedWorkerRequests.pairs.any fun existing =>
        decide (existing.2.decision = .pending ∧ now < existing.2.expiresAtMilliseconds ∧
          existing.2.confirmationCodeDigest = r.confirmationCodeDigest) then
      (.error .sharedWorkerAccessCodeCollision, s)
    else (.ok (), { s with sharedWorkerRequests := s.sharedWorkerRequests.set r.requestID r })
  else (.error .sharedWorkerAccess, s)

/-- `SharedWorkerAccessRequest`: reading a request that is over marks it so. The answer has the
decision and the grant. -/
def sharedWorkerAccessRequest (requestID connectionGrantID : UUID) (now : Int) :
    Outcome MemoryStore (AccessDecision × Option AccessGrant) :=
  match (s.sharedWorkerRequests.get? requestID).filter
    (·.connectionGrantID == connectionGrantID) with
  | none => (.error .sharedWorkerAccess, s)
  | some r =>
    let lapsed := r.decision = .pending ∧ r.expiresAtMilliseconds ≤ now
    let r' := if lapsed then { r with decision := .expired, decidedAtMilliseconds := now } else r
    let s' := if lapsed then
      { s with sharedWorkerRequests := s.sharedWorkerRequests.set requestID r' } else s
    if r'.grantID = uuidNil then (.ok (r'.decision, none), s')
    else match s.sharedWorkerGrants.get? r'.grantID with
      | none => (.error .sharedWorkerAccess, s')
      | some grant => (.ok (r'.decision, some grant), s')

/-- Everything `ConfirmSharedWorkerAccess` asks of the request, the Worker and the two participants,
before it looks at the code. -/
abbrev Confirmable (r : AccessRequest) (grant : AccessGrant) (code : List UInt8)
    (now : Int) : Prop :=
  r.decision = .pending ∧ now < r.expiresAtMilliseconds ∧ r.boxID = grant.boxID ∧
    r.workerID = grant.workerID ∧ r.requesterParticipantID = grant.granteeParticipantID ∧
    r.capabilitiesDigest = grant.capabilitiesDigest ∧
    (∃ w ∈ s.sharedWorkers.get? grant.workerID,
      now < w.expiresAtMilliseconds ∧ w.boxID = grant.boxID ∧
        w.ownerParticipantID = grant.ownerParticipantID ∧ w.ownerDeviceID = grant.ownerDeviceID ∧
        w.capabilitiesDigest = grant.capabilitiesDigest) ∧
    s.Admits c grant.ownerParticipantID grant.ownerDeviceID now ∧
    s.Admits c grant.granteeParticipantID r.requesterDeviceID now ∧
    Hex.encode code = grant.confirmationCodeDigest

def confirmSharedWorkerAccess (grant : AccessGrant) (code : List UInt8) (now : Int) :
    Outcome MemoryStore Unit :=
  match s.sharedWorkerRequests.get? grant.requestID with
  | none => (.error .sharedWorkerAccess, s)
  | some r =>
    if ¬ (grant.validAt now ∧ s.Confirmable c r grant code now) then (.error .sharedWorkerAccess, s)
    else if r.confirmationCodeDigest ≠ code then
      if maximumSharedWorkerAccessCodeFailures ≤ r.failedCodeAttempts + 1 then
        (.error .sharedWorkerAccessLocked, { s with
          sharedWorkerRequests := s.sharedWorkerRequests.set r.requestID { r with
            failedCodeAttempts := r.failedCodeAttempts + 1, decision := .rejected
            decidedAtMilliseconds := now } })
      else
        (.error .sharedWorkerAccessCode, { s with
          sharedWorkerRequests := s.sharedWorkerRequests.set r.requestID
            { r with failedCodeAttempts := r.failedCodeAttempts + 1 } })
    else if (s.sharedWorkerGrants.get? grant.grantID).isSome ∨
        s.sharedWorkerGrants.pairs.any fun existing => existing.2.requestID == grant.requestID then
      (.error .sharedWorkerAccess, s)
    else
      (.ok (), { s with
        sharedWorkerRequests := s.sharedWorkerRequests.set r.requestID { r with
          decision := .approved, decidedAtMilliseconds := now, grantID := grant.grantID }
        sharedWorkerGrants := s.sharedWorkerGrants.set grant.grantID grant })

/-- The value Go reads for a request that is not in the table; its decision is written at once. -/
def noRequest : AccessRequest :=
  ⟨0, uuidNil, uuidNil, uuidNil, uuidNil, uuidNil, [], 0, 0, uuidNil, [], 0, .pending, 0, uuidNil⟩

def revokeSharedWorkerAccess (boxID grantID ownerParticipantID : UUID) (revision : Nat)
    (now : Int) :
    Outcome MemoryStore Unit :=
  match s.sharedWorkerGrants.get? grantID with
  | none => (.error .sharedWorkerAccess, s)
  | some grant =>
    if (boxID ≠ uuidNil ∧ grantID ≠ uuidNil ∧ ownerParticipantID ≠ uuidNil ∧ revision ≠ 0 ∧
          0 < now) ∧
        grant.boxID = boxID ∧ grant.ownerParticipantID = ownerParticipantID ∧
        grant.revokedAtMilliseconds = 0 ∧ grant.revision < revision then
      let r := (s.sharedWorkerRequests.get? grant.requestID).getD noRequest
      (.ok (), { s with
        sharedWorkerGrants := s.sharedWorkerGrants.set grantID
          { grant with revision := revision, revokedAtMilliseconds := now }
        sharedWorkerRequests := s.sharedWorkerRequests.set r.requestID
          { r with decision := .revoked, decidedAtMilliseconds := now } })
    else (.error .sharedWorkerAccess, s)

/-! ## Operations -/

/-- The grant covers the operation on this Worker. -/
abbrev Covers (o : Operation) (w : Worker) (grant : AccessGrant) (now : Int) : Prop :=
  grant.validAt now ∧ grant.boxID = o.boxID ∧ grant.workerID = o.workerID ∧
    grant.granteeParticipantID = o.requesterParticipantID ∧
    grant.capabilitiesDigest = o.capabilitiesDigest ∧
    grant.ownerParticipantID = w.ownerParticipantID ∧ grant.ownerDeviceID = w.ownerDeviceID ∧
    ∃ r ∈ s.sharedWorkerRequests.get? grant.requestID, r.connectionGrantID = o.connectionGrantID

/-- Everything `EnqueueSharedWorkerOperation` asks of the tables for a new operation. -/
abbrev Enqueueable (o : Operation) (now : Int) : Prop :=
  s.ClaimedAs o.boxID ∧ s.Admits c o.requesterParticipantID o.requesterDeviceID now ∧
    ∃ w ∈ s.sharedWorkers.get? o.workerID, w.boxID = o.boxID ∧ now < w.expiresAtMilliseconds ∧
      ∃ grant ∈ s.sharedWorkerGrants.get? o.accessGrantID, s.Covers o w grant now

set_option synthInstance.maxSize 1024 in
def enqueueSharedWorkerOperation (o : Operation) (now : Int) : Outcome MemoryStore Unit :=
  if ¬ o.validAt c now then (.error .sharedWorkerOperation, s)
  else match s.sharedWorkerOperations.get? o.operationID with
    | some existing =>
      (if sameSharedWorkerOperation existing o then .ok ()
        else .error .sharedWorkerOperationCollision, s)
    | none =>
      if s.Enqueueable c o now then
        (.ok (), { s with
          sharedWorkerOperations := s.sharedWorkerOperations.set o.operationID o })
      else (.error .sharedWorkerOperation, s)

/-- One turn of the first loop of `ClaimSharedWorkerOperation`: a claim that is over is dropped,
then an operation that is over expires. -/
def sweep (now : Int) (o : Operation) : Operation :=
  let o := if o.state = .claimed ∧ o.claimExpiresAtMilliseconds ≤ now ∧ o.response = none then
    o.unclaimed .queued else o
  if o.overdue now then o.unclaimed .expired else o

/-- The operation can be handed out to the owner of its Worker. -/
abbrev Candidate (claim : OperationClaim) (now : Int) (o : Operation) : Prop :=
  o.workerID = claim.workerID ∧ o.state = .queued ∧ now < o.expiresAtMilliseconds ∧
    ∃ grant ∈ s.sharedWorkerGrants.get? o.accessGrantID,
      grant.validAt now ∧ grant.ownerParticipantID = claim.ownerParticipantID

/-- The Worker is listed under this owner, who is admitted. -/
abbrev OwnedBy (workerID ownerParticipantID ownerDeviceID : UUID) (now : Int) : Prop :=
  (∃ w ∈ s.sharedWorkers.get? workerID,
    w.ownerParticipantID = ownerParticipantID ∧ w.ownerDeviceID = ownerDeviceID ∧
      now < w.expiresAtMilliseconds) ∧
    s.Admits c ownerParticipantID ownerDeviceID now

/-- `ClaimSharedWorkerOperation`. The answer leaves the connection grant out. -/
def claimSharedWorkerOperation (claim : OperationClaim)
    (now : Int) : Outcome MemoryStore Operation :=
  if ¬ (claim.validAt now ∧ (∃ w ∈ s.sharedWorkers.get? claim.workerID, w.boxID = claim.boxID) ∧
      s.OwnedBy c claim.workerID claim.ownerParticipantID claim.ownerDeviceID now) then
    (.error .sharedWorkerOperation, s)
  else
    let operations := s.sharedWorkerOperations.mapValues (sweep now)
    let candidates := (operations.pairs.map (·.2)).filter fun o => decide (s.Candidate claim now o)
    match (candidates.insertionSort Operation.before).head? with
    | none => (.error .sharedWorkerOperationNoWork, { s with sharedWorkerOperations := operations })
    | some selected =>
      let selected := selected.claimedBy claim now
      (.ok { selected with connectionGrantID := uuidNil }, { s with
        sharedWorkerOperations := operations.set selected.operationID selected })

/-- Everything `CompleteSharedWorkerOperation` asks for a first response. -/
abbrev Completable (o : Operation) (r : OperationResponse) (now : Int) : Prop :=
  o.state = .claimed ∧ o.claimID = r.claimID ∧ now < o.claimExpiresAtMilliseconds ∧
    now < o.expiresAtMilliseconds ∧ o.boxID = r.boxID ∧ o.workerID = r.workerID ∧
    s.OwnedBy c r.workerID r.ownerParticipantID r.ownerDeviceID now ∧
    ∃ grant ∈ s.sharedWorkerGrants.get? o.accessGrantID,
      grant.validAt now ∧ grant.boxID = o.boxID ∧ grant.workerID = o.workerID ∧
        grant.capabilitiesDigest = o.capabilitiesDigest ∧
        grant.ownerParticipantID = r.ownerParticipantID ∧ grant.ownerDeviceID = r.ownerDeviceID

def completeSharedWorkerOperation (r : OperationResponse) (now : Int) : Outcome MemoryStore Unit :=
  if ¬ r.validAt c now then (.error .sharedWorkerOperation, s)
  else match s.sharedWorkerOperations.get? r.operationID with
    | none => (.error .sharedWorkerOperation, s)
    | some o =>
      match (if o.state = .responseReady then o.response else none) with
      | some recorded =>
        (if recorded = r then .ok () else .error .sharedWorkerOperationCollision, s)
      | none =>
        if s.Completable c o r now then
          (.ok (), { s with
            sharedWorkerOperations := s.sharedWorkerOperations.set o.operationID
              { o with response := some r, state := .responseReady } })
        else (.error .sharedWorkerOperation, s)

/-- `SharedWorkerOperationStatus`: the state and the response. -/
def sharedWorkerOperationStatus (operationID connectionGrantID : UUID) (now : Int) :
    Outcome MemoryStore (OperationState × Option OperationResponse) :=
  match s.sharedWorkerOperations.get? operationID with
  | none => (.error .sharedWorkerOperation, s)
  | some o =>
    if ¬ (o.connectionGrantID = connectionGrantID ∧
        ∃ connection ∈ s.grants.get? connectionGrantID, connection.usableAt now) then
      (.error .sharedWorkerOperation, s)
    else if o.overdue now then
      (.ok (.expired, o.response), { s with
        sharedWorkerOperations := s.sharedWorkerOperations.set operationID (o.unclaimed .expired) })
    else (.ok (o.state, o.response), s)

end MemoryStore

/-! ## Runs -/

/-- A request to the store. -/
inductive Request where
  | start (state : State)
  | claimBox (activationVerifier ownerVerifier : GoString)
  | createGrant (grant : ConnectionGrant)
  | revokeGrant (grantID : UUID)
  | revokeAllGrants
  | pin (e : Enrollment)
  | revokeParticipant (boxID participantID : UUID)
  | revokeDevice (boxID participantID deviceID : UUID)
  | issueChallenge (challenge : Challenge)
  | consumeChallenge (boxID participantID deviceID challengeID : UUID)
  | upsertWorker (w : Worker)
  | withdrawWorker (boxID workerID participantID deviceID : UUID) (revision : Nat)
  | requestAccess (r : AccessRequest)
  | readAccess (requestID connectionGrantID : UUID)
  | confirmAccess (grant : AccessGrant) (code : List UInt8)
  | revokeAccess (boxID grantID ownerParticipantID : UUID) (revision : Nat)
  | enqueue (o : Operation)
  | claim (asked : OperationClaim)
  | complete (r : OperationResponse)
  | readStatus (operationID connectionGrantID : UUID)

/-- What a request answers: an operation that is handed out, or only success. -/
inductive Answer where
  | done
  | handedOut (o : Operation)
  deriving DecidableEq

/-- The outcome of a request at the time `now`. -/
def Request.outcome (c : Suite) (now : Int) (s : MemoryStore) : Request → Outcome MemoryStore Answer
  | .start state => (s.start state).map (·.map fun _ => .done) id
  | .claimBox activation owner => (s.claim activation owner).map (·.map fun _ => .done) id
  | .createGrant grant => (s.createGrant grant).map (·.map fun _ => .done) id
  | .revokeGrant grantID => (s.revokeGrant grantID now).map (·.map fun _ => .done) id
  | .revokeAllGrants => (s.revokeAllGrants now).map (·.map fun _ => .done) id
  | .pin e => (s.pinOwnerApprovedParticipant c e now).map (·.map fun _ => .done) id
  | .revokeParticipant boxID participantID =>
    (s.revokePinnedParticipant boxID participantID now).map (·.map fun _ => .done) id
  | .revokeDevice boxID participantID deviceID =>
    (s.revokePinnedParticipantDevice boxID participantID deviceID now).map (·.map fun _ => .done) id
  | .issueChallenge challenge =>
    (s.issueParticipantChallenge c challenge now).map (·.map fun _ => .done) id
  | .consumeChallenge boxID participantID deviceID challengeID =>
    (s.consumeParticipantChallenge c boxID participantID deviceID challengeID now).map
      (fun consumed => if consumed then .ok .done else .error .participantReplay) id
  | .upsertWorker w => (s.upsertSharedWorker c w now).map (·.map fun _ => .done) id
  | .withdrawWorker boxID workerID participantID deviceID revision =>
    (s.withdrawSharedWorker c boxID workerID participantID deviceID revision now).map
      (·.map fun _ => .done) id
  | .requestAccess r => (s.createSharedWorkerAccessRequest c r now).map (·.map fun _ => .done) id
  | .readAccess requestID grantID =>
    (s.sharedWorkerAccessRequest requestID grantID now).map (·.map fun _ => .done) id
  | .confirmAccess grant code =>
    (s.confirmSharedWorkerAccess c grant code now).map (·.map fun _ => .done) id
  | .revokeAccess boxID grantID owner revision =>
    (s.revokeSharedWorkerAccess boxID grantID owner revision now).map (·.map fun _ => .done) id
  | .enqueue o => (s.enqueueSharedWorkerOperation c o now).map (·.map fun _ => .done) id
  | .claim asked => (s.claimSharedWorkerOperation c asked now).map (·.map .handedOut) id
  | .complete r => (s.completeSharedWorkerOperation c r now).map (·.map fun _ => .done) id
  | .readStatus operationID grantID =>
    (s.sharedWorkerOperationStatus operationID grantID now).map (·.map fun _ => .done) id

/-- One call: a request at a time of the clock. -/
structure Call where
  now : Int
  request : Request

/-- The store after a call. -/
def Call.apply (c : Suite) (call : Call) (s : MemoryStore) : MemoryStore :=
  (call.request.outcome c call.now s).2

/-! ## A sample Box

Two participants of one Box: the first shares a Worker with the second. The digest exchanges two
keys with their fingerprints and leaves everything else alone, and every signature is accepted. -/

namespace Sample

def key (n : UInt8) : List UInt8 := List.replicate 64 4 ++ [n]
def fingerprint (n : UInt8) : List UInt8 := List.replicate 31 0 ++ [n]

def digest : Equiv.Perm (List UInt8) :=
  (Equiv.swap (key 1) (fingerprint 1)).trans (Equiv.swap (key 2) (fingerprint 2))

def uuid (n : Nat) : UUID := BitVec.ofNat 128 n

def boxID : UUID := uuid 100
def participantID (n : UInt8) : UUID := uuid (30 + n.toNat)
def deviceID (n : UInt8) : UUID := uuid (20 + n.toNat)

def root (n : UInt8) : PrincipalRoot :=
  ⟨1, uuid n.toNat, Base64Url.encode (key n), Hex.encode (fingerprint n), 1, 0⟩

def deviceGrant (n : UInt8) : PrincipalDeviceGrant where
  version := 1
  id := uuid (10 + n.toNat)
  principalID := uuid n.toNat
  deviceID := deviceID n
  deviceGeneration := 1
  deviceName := goString "device"
  signingPublicKeyX963 := Base64Url.encode (key n)
  signingKeyFingerprint := Hex.encode (fingerprint n)
  keyAgreementPublicKeyX963 := Base64Url.encode (key n)
  keyAgreementKeyFingerprint := Hex.encode (fingerprint n)
  capabilities := [goString "facets.box.participate"]
  issuedAtMilliseconds := 1
  notBeforeMilliseconds := 1
  expiresAtMilliseconds := 1000
  supersedesGrantID := none

/-- What the participants ask for, and what the capabilities are: 32 bytes each. -/
def bytes (n : UInt8) : List UInt8 := List.replicate 32 n

def actionProof : ActionProofPayload where
  version := 1
  boxID := boxID
  participantID := participantID 1
  boxScopedPrincipalID := uuid 1
  deviceID := deviceID 1
  grantID := uuid 11
  deviceGeneration := 1
  challengeID := uuid 50
  action := .advertiseWorker
  requestDigest := Hex.encode (bytes 7)
  issuedAtMilliseconds := 10
  expiresAtMilliseconds := 20

def suite : Suite where
  Key := Unit
  sha256 := digest
  decodeRoot payload := payload.head?.map root
  decodeGrant payload := payload.head?.map deviceGrant
  decodeRevocation _ := none
  decodeActionProof _ := some actionProof
  canonicalObject _ := true
  p256Key _ := some ()
  ecdsaVerify _ _ _ := true
  normalizedDisplayName name := name
  trimSpace name := name
  validUTF8 _ := true
  hasControl _ := false

def signed (n : UInt8) : SignedPrincipalRecord :=
  ⟨[n], goString "ES256", Hex.encode (fingerprint n), Base64Url.encode (List.replicate 64 0)⟩

def enrollment (n : UInt8) : Enrollment where
  anchor := ⟨boxID, participantID n, uuid n.toNat, Hex.encode (fingerprint n), 1, 0⟩
  device := ⟨participantID n, deviceID n, uuid (10 + n.toNat), 1, Hex.encode (fingerprint n), 0⟩
  rootRecord := signed n
  grantRecord := signed n

def worker : Worker where
  version := 1
  boxID := boxID
  workerID := uuid 60
  ownerParticipantID := participantID 1
  ownerDeviceID := deviceID 1
  displayName := goString "worker"
  availability := .available
  revision := 1
  capabilities := bytes 5
  capabilitiesDigest := Hex.encode (bytes 5)
  updatedAtMilliseconds := 10
  expiresAtMilliseconds := 500

def accessRequest : AccessRequest where
  version := 1
  requestID := uuid 61
  boxID := boxID
  workerID := uuid 60
  requesterParticipantID := participantID 2
  requesterDeviceID := deviceID 2
  capabilitiesDigest := Hex.encode (bytes 5)
  requestedAtMilliseconds := 10
  expiresAtMilliseconds := 500
  connectionGrantID := uuid 40
  confirmationCodeDigest := bytes 6
  failedCodeAttempts := 0
  decision := .pending
  decidedAtMilliseconds := 0
  grantID := uuidNil

def accessGrant : AccessGrant where
  version := 1
  grantID := uuid 62
  requestID := uuid 61
  boxID := boxID
  workerID := uuid 60
  ownerParticipantID := participantID 1
  ownerDeviceID := deviceID 1
  granteeParticipantID := participantID 2
  capabilitiesDigest := Hex.encode (bytes 5)
  confirmationCodeDigest := Hex.encode (bytes 6)
  revision := 1
  grantedAtMilliseconds := 10
  expiresAtMilliseconds := 500
  revokedAtMilliseconds := 0

def operation : Operation where
  version := 1
  operationID := uuid 63
  boxID := boxID
  workerID := uuid 60
  accessGrantID := uuid 62
  requesterParticipantID := participantID 2
  requesterDeviceID := deviceID 2
  jobID := uuid 70
  runID := uuid 71
  attempt := 1
  capabilitiesDigest := Hex.encode (bytes 5)
  requestDigest := Hex.encode (bytes 7)
  requestBytes := bytes 7
  requestedAtMilliseconds := 10
  expiresAtMilliseconds := 500
  connectionGrantID := uuid 40
  state := .queued
  claimID := uuidNil
  claimedAtMilliseconds := 0
  claimExpiresAtMilliseconds := 0
  response := none

def operationClaim : OperationClaim :=
  ⟨1, uuid 80, boxID, uuid 60, participantID 1, deviceID 1, 10, 400⟩

def response : OperationResponse :=
  ⟨1, uuid 63, uuid 80, boxID, uuid 60, participantID 1, deviceID 1, Hex.encode (bytes 8),
    bytes 8, 10⟩

/-- The Box is set up, the first participant shares the Worker, and the second has asked for
work. -/
def setup : List Call :=
  [.start ⟨boxID, [9], []⟩, .claimBox [9] [1], .createGrant ⟨uuid 40, 1000000000000, none, []⟩,
    .pin (enrollment 1), .pin (enrollment 2), .upsertWorker worker, .requestAccess accessRequest,
    .confirmAccess accessGrant (bytes 6), .enqueue operation].map fun request => ⟨10, request⟩

end Sample

end FacetsNode.Box
