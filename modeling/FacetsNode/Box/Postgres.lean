import FacetsNode.Box.Memory

/-!
# The PostgreSQL store of a Box

`PostgresStore`, every call taken as one transaction. The tables hold what the maps of `MemoryStore`
hold: the row of a participant and the row of its only device are inserted together and never
removed, so they are read as one enrollment. A call that returns an error rolls back, except where
the source commits first: a wrong confirmation code, and marking the access requests that are over.

Pinning, revoking a participant or a device and issuing a challenge decide as the in-memory store
does and are taken from there; the other requests ask other things of the tables, and have their own
definitions.
-/

namespace FacetsNode.Box

open Relay (UUID uuidNil)

namespace Postgres

variable (c : Suite) (s : MemoryStore)

/-- The rows of an active participant of the Box and its device. -/
abbrev Joins (boxID participantID deviceID : UUID) : Prop :=
  ∃ e ∈ s.participantEnrollments.get? participantID,
    e.anchor.boxID = boxID ∧ e.device.deviceID = deviceID ∧ e.Active

/-- `Initialize`: the row never starts with an owner. -/
def start (state : State) : Outcome MemoryStore Unit :=
  match s.state with
  | some _ => (.error .alreadyInitialized, s)
  | none => (.ok (), { s with state := some { state with ownerVerifier := [] } })

/-- `CreateGrant`: the row starts without a revocation. -/
def createGrant (grant : ConnectionGrant) : Outcome MemoryStore Unit :=
  s.createGrant { grant with revokedAt := none }

/-- `RevokeGrant`: the first time of a revocation stays. -/
def revokeGrant (grantID : UUID) (now : Int) : Outcome MemoryStore Unit :=
  match s.grants.get? grantID with
  | none => (.error .invalidCredential, s)
  | some grant => (.ok (), { s with
      grants := s.grants.set grantID { grant with revokedAt := some (grant.revokedAt.getD now) } })

def revokeAllGrants (now : Int) : Outcome MemoryStore Unit :=
  (.ok (), { s with
    grants := s.grants.mapValues fun grant =>
      { grant with revokedAt := some (grant.revokedAt.getD now) } })

def consumeParticipantChallenge (boxID participantID deviceID challengeID : UUID) (now : Int) :
    Bool × MemoryStore :=
  match s.participantChallenges.get? challengeID with
  | none => (false, s)
  | some state =>
    if (0 < now ∧ boxID ≠ uuidNil ∧ participantID ≠ uuidNil ∧ deviceID ≠ uuidNil ∧
          challengeID ≠ uuidNil) ∧
        (∃ e ∈ s.pinnedParticipant boxID participantID deviceID, e.validInitialAt c now ∧
          e.Active) ∧
        state.challenge.boxID = boxID ∧ state.challenge.participantID = participantID ∧
        state.challenge.deviceID = deviceID ∧ state.challenge.issuedAtMilliseconds ≤ now ∧
        now < state.challenge.expiresAtMilliseconds ∧ state.consumedAtMilliseconds = 0 then
      (true, { s with
        participantChallenges := s.participantChallenges.set challengeID
          { state with consumedAtMilliseconds := now } })
    else (false, s)

def upsertSharedWorker (w : Worker) (now : Int) : Outcome MemoryStore Unit :=
  if w.validAt c now ∧ s.ClaimedAs w.boxID ∧ Joins s w.boxID w.ownerParticipantID w.ownerDeviceID ∧
      ∀ existing ∈ s.sharedWorkers.get? w.workerID,
        existing.boxID = w.boxID ∧ existing.ownerParticipantID = w.ownerParticipantID ∧
          existing.ownerDeviceID = w.ownerDeviceID ∧ existing.revision < w.revision then
    (.ok (), { s with sharedWorkers := s.sharedWorkers.set w.workerID w })
  else (.error .sharedWorkerAuthority, s)

def withdrawSharedWorker (boxID workerID participantID deviceID : UUID) (revision : Nat)
    (now : Int) :
    Outcome MemoryStore Unit :=
  if (boxID ≠ uuidNil ∧ workerID ≠ uuidNil ∧ participantID ≠ uuidNil ∧ deviceID ≠ uuidNil ∧
        revision ≠ 0 ∧ revision ≤ maxInt64 ∧ 0 < now) ∧
      s.ClaimedAs boxID ∧ Joins s boxID participantID deviceID ∧
      ∃ existing ∈ s.sharedWorkers.get? workerID,
        existing.boxID = boxID ∧ existing.ownerParticipantID = participantID ∧
          existing.ownerDeviceID = deviceID ∧ existing.revision < revision then
    (.ok (), { s with sharedWorkers := s.sharedWorkers.delete workerID })
  else (.error .sharedWorkerAuthority, s)

/-- A pending request whose time is over is marked. -/
def markOver (now : Int) (r : AccessRequest) : AccessRequest :=
  if r.decision = .pending ∧ r.expiresAtMilliseconds ≤ now then
    { r with decision := .expired, decidedAtMilliseconds := now }
  else r

/-- `CreateSharedWorkerAccessRequest`. The requests that are over are marked after the insertion,
whose code must differ from every code that is pending until then. -/
def createSharedWorkerAccessRequest (r : AccessRequest) (now : Int) : Outcome MemoryStore Unit :=
  if ¬ r.validAt now then (.error .sharedWorkerAccess, s)
  else
    let marked := s.sharedWorkerRequests.mapValues (markOver now)
    if s.ClaimedAs r.boxID ∧ Joins s r.boxID r.requesterParticipantID r.requesterDeviceID ∧
        (∃ w ∈ s.sharedWorkers.get? r.workerID, w.boxID = r.boxID ∧ now < w.expiresAtMilliseconds ∧
            w.capabilitiesDigest = r.capabilitiesDigest ∧
            w.ownerParticipantID ≠ r.requesterParticipantID) ∧
        (∃ connection ∈ s.grants.get? r.connectionGrantID, connection.usableAt now) ∧
        s.sharedWorkerRequests.get? r.requestID = none then
      if s.sharedWorkerRequests.pairs.any fun existing =>
          decide (existing.2.decision = .pending ∧
            existing.2.confirmationCodeDigest = r.confirmationCodeDigest) then
        (.error .sharedWorkerAccessCodeCollision, s)
      else (.ok (), { s with sharedWorkerRequests := marked.set r.requestID r })
    else (.error .sharedWorkerAccess, { s with sharedWorkerRequests := marked })

/-- `SharedWorkerAccessRequest`: marks the request, then answers over a usable connection. -/
def sharedWorkerAccessRequest (requestID connectionGrantID : UUID) (now : Int) :
    Outcome MemoryStore (AccessDecision × Option AccessGrant) :=
  match (s.sharedWorkerRequests.get? requestID).filter
    (·.connectionGrantID == connectionGrantID) with
  | none => (.error .sharedWorkerAccess, s)
  | some r =>
    if requestID = uuidNil ∨ connectionGrantID = uuidNil ∨ now ≤ 0 then
      (.error .sharedWorkerAccess, s)
    else
      let s' := { s with
        sharedWorkerRequests := s.sharedWorkerRequests.set requestID (markOver now r) }
      if ∃ connection ∈ s.grants.get? connectionGrantID, connection.usableAt now then
        (.ok ((markOver now r).decision,
          (s.sharedWorkerGrants.pairs.find? fun g => g.2.requestID == requestID).map (·.2)), s')
      else (.error .sharedWorkerAccess, s')

/-- What the query of `ConfirmSharedWorkerAccess` and the comparisons after it ask for. -/
abbrev Confirmable (r : AccessRequest) (grant : AccessGrant) (now : Int) : Prop :=
  r.decision = .pending ∧ now < r.expiresAtMilliseconds ∧ s.ClaimedAs r.boxID ∧
    (∃ w ∈ s.sharedWorkers.get? r.workerID, w.boxID = r.boxID ∧ now < w.expiresAtMilliseconds ∧
        w.ownerParticipantID = grant.ownerParticipantID ∧ w.ownerDeviceID = grant.ownerDeviceID) ∧
    Joins s r.boxID grant.ownerParticipantID grant.ownerDeviceID ∧
    Joins s r.boxID r.requesterParticipantID r.requesterDeviceID ∧
    r.boxID = grant.boxID ∧ r.workerID = grant.workerID ∧
    r.requesterParticipantID = grant.granteeParticipantID ∧
    r.capabilitiesDigest = grant.capabilitiesDigest

def confirmSharedWorkerAccess (grant : AccessGrant) (code : List UInt8) (now : Int) :
    Outcome MemoryStore Unit :=
  match s.sharedWorkerRequests.get? grant.requestID with
  | none => (.error .sharedWorkerAccess, s)
  | some r =>
    if ¬ (grant.validAt now ∧ Hex.encode code = grant.confirmationCodeDigest ∧
        Confirmable s r grant now) then (.error .sharedWorkerAccess, s)
    else if r.confirmationCodeDigest ≠ code then
      if maximumSharedWorkerAccessCodeFailures ≤ r.failedCodeAttempts + 1 then
        (.error .sharedWorkerAccessLocked, { s with
          sharedWorkerRequests := s.sharedWorkerRequests.set grant.requestID { r with
            failedCodeAttempts := r.failedCodeAttempts + 1, decision := .rejected
            decidedAtMilliseconds := now } })
      else
        (.error .sharedWorkerAccessCode, { s with
          sharedWorkerRequests := s.sharedWorkerRequests.set grant.requestID { r with
            failedCodeAttempts := r.failedCodeAttempts + 1, decidedAtMilliseconds := 0 } })
    else if (s.sharedWorkerGrants.get? grant.grantID).isSome ∨
        s.sharedWorkerGrants.pairs.any fun existing => existing.2.requestID == grant.requestID then
      (.error .sharedWorkerAccess, s)
    else
      (.ok (), { s with
        sharedWorkerRequests := s.sharedWorkerRequests.set grant.requestID
          { r with decision := .approved, decidedAtMilliseconds := now }
        sharedWorkerGrants := s.sharedWorkerGrants.set grant.grantID grant })

/-- `RevokeSharedWorkerAccess`: only while the owner is not revoked. -/
def revokeSharedWorkerAccess (boxID grantID ownerParticipantID : UUID) (revision : Nat)
    (now : Int) :
    Outcome MemoryStore Unit :=
  match s.sharedWorkerGrants.get? grantID with
  | none => (.error .sharedWorkerAccess, s)
  | some grant =>
    match s.sharedWorkerRequests.get? grant.requestID with
    | none => (.error .sharedWorkerAccess, s)
    | some r =>
      if (boxID ≠ uuidNil ∧ grantID ≠ uuidNil ∧ ownerParticipantID ≠ uuidNil ∧ revision ≠ 0 ∧
            revision ≤ maxInt64 ∧ 0 < now) ∧
          grant.boxID = boxID ∧ grant.ownerParticipantID = ownerParticipantID ∧
          grant.revokedAtMilliseconds = 0 ∧ grant.revision < revision ∧
          ∃ e ∈ s.participantEnrollments.get? ownerParticipantID,
            e.anchor.boxID = boxID ∧ e.anchor.revokedAtMilliseconds = 0 then
        (.ok (), { s with
          sharedWorkerGrants := s.sharedWorkerGrants.set grantID
            { grant with revision := revision, revokedAtMilliseconds := now }
          sharedWorkerRequests := s.sharedWorkerRequests.set grant.requestID
            { r with decision := .revoked, decidedAtMilliseconds := now } })
      else (.error .sharedWorkerAccess, s)

/-- The grant runs at the time `now`. -/
abbrev Runs (grant : AccessGrant) (now : Int) : Prop :=
  grant.grantedAtMilliseconds ≤ now ∧ now < grant.expiresAtMilliseconds ∧
    grant.revokedAtMilliseconds = 0

/-- What the insertion of `EnqueueSharedWorkerOperation` asks of the Worker and the grant. -/
abbrev Covers (o : Operation) (w : Worker) (grant : AccessGrant) (now : Int) : Prop :=
  w.boxID = o.boxID ∧ now < w.expiresAtMilliseconds ∧ w.capabilitiesDigest = o.capabilitiesDigest ∧
    grant.boxID = o.boxID ∧ grant.workerID = w.workerID ∧
    grant.ownerParticipantID = w.ownerParticipantID ∧ grant.ownerDeviceID = w.ownerDeviceID ∧
    grant.granteeParticipantID = o.requesterParticipantID ∧
    grant.capabilitiesDigest = o.capabilitiesDigest ∧ Runs grant now ∧
    ∃ r ∈ s.sharedWorkerRequests.get? grant.requestID,
      r.connectionGrantID = o.connectionGrantID ∧ r.decision = .approved

/-- What it asks of all tables. -/
abbrev Enqueueable (o : Operation) (now : Int) : Prop :=
  s.ClaimedAs o.boxID ∧ Joins s o.boxID o.requesterParticipantID o.requesterDeviceID ∧
    (∃ connection ∈ s.grants.get? o.connectionGrantID, connection.usableAt now) ∧
    ∃ w ∈ s.sharedWorkers.get? o.workerID,
      ∃ grant ∈ s.sharedWorkerGrants.get? o.accessGrantID, Covers s o w grant now

set_option synthInstance.maxSize 1024 in
def enqueueSharedWorkerOperation (o : Operation) (now : Int) : Outcome MemoryStore Unit :=
  if ¬ o.validAt c now then (.error .sharedWorkerOperation, s)
  else match s.sharedWorkerOperations.get? o.operationID with
    | some existing =>
      (if sameSharedWorkerOperation existing o then .ok ()
        else .error .sharedWorkerOperationCollision, s)
    | none =>
      if Enqueueable s o now then
        (.ok (), { s with
          sharedWorkerOperations := s.sharedWorkerOperations.set o.operationID o })
      else (.error .sharedWorkerOperation, s)

/-- The two updates at the start of `ClaimSharedWorkerOperation`. -/
def sweep (now : Int) (o : Operation) : Operation :=
  if o.overdue now then o.unclaimed .expired
  else if o.state = .claimed ∧ o.claimExpiresAtMilliseconds ≤ now ∧
    now < o.expiresAtMilliseconds then
    o.unclaimed .queued
  else o

/-- What the query for an operation to hand out asks of its grant. -/
abbrev GrantFor (o : Operation) (ownerParticipantID ownerDeviceID : UUID) (now : Int) : Prop :=
  ∃ grant ∈ s.sharedWorkerGrants.get? o.accessGrantID,
    grant.workerID = o.workerID ∧ grant.boxID = o.boxID ∧
      grant.ownerParticipantID = ownerParticipantID ∧ grant.ownerDeviceID = ownerDeviceID ∧
      grant.granteeParticipantID = o.requesterParticipantID ∧
      grant.capabilitiesDigest = o.capabilitiesDigest ∧ Runs grant now

/-- The Worker of the operation is listed under this owner, who is active. -/
abbrev OwnedBy (o : Operation) (ownerParticipantID ownerDeviceID : UUID) (now : Int) : Prop :=
  (∃ w ∈ s.sharedWorkers.get? o.workerID,
    w.boxID = o.boxID ∧ w.ownerParticipantID = ownerParticipantID ∧
      w.ownerDeviceID = ownerDeviceID ∧ now < w.expiresAtMilliseconds) ∧
    Joins s o.boxID ownerParticipantID ownerDeviceID

/-- An operation that the query of `ClaimSharedWorkerOperation` finds. -/
abbrev Candidate (claim : OperationClaim) (now : Int) (o : Operation) : Prop :=
  o.boxID = claim.boxID ∧ o.workerID = claim.workerID ∧ o.state = .queued ∧
    now < o.expiresAtMilliseconds ∧
    OwnedBy s o claim.ownerParticipantID claim.ownerDeviceID now ∧
    GrantFor s o claim.ownerParticipantID claim.ownerDeviceID now ∧
    ∃ connection ∈ s.grants.get? o.connectionGrantID, connection.usableAt now

set_option synthInstance.maxSize 1024 in
/-- `ClaimSharedWorkerOperation`: without work the two updates are rolled back. -/
def claimSharedWorkerOperation (claim : OperationClaim)
    (now : Int) : Outcome MemoryStore Operation :=
  if ¬ claim.validAt now then (.error .sharedWorkerOperation, s)
  else
    let operations := s.sharedWorkerOperations.mapValues (sweep now)
    let candidates := (operations.pairs.map (·.2)).filter fun o => decide (Candidate s claim now o)
    match (candidates.insertionSort Operation.before).head? with
    | none => (.error .sharedWorkerOperationNoWork, s)
    | some selected =>
      let selected := selected.claimedBy claim now
      (.ok { selected with connectionGrantID := uuidNil }, { s with
        sharedWorkerOperations := operations.set selected.operationID selected })

/-- What the update of `CompleteSharedWorkerOperation` asks for. -/
abbrev Completable (o : Operation) (r : OperationResponse) (now : Int) : Prop :=
  o.state = .claimed ∧ o.claimID = r.claimID ∧ o.boxID = r.boxID ∧ o.workerID = r.workerID ∧
    now < o.claimExpiresAtMilliseconds ∧ now < o.expiresAtMilliseconds ∧
    OwnedBy s o r.ownerParticipantID r.ownerDeviceID now ∧
    GrantFor s o r.ownerParticipantID r.ownerDeviceID now

set_option synthInstance.maxSize 1024 in
def completeSharedWorkerOperation (r : OperationResponse) (now : Int) : Outcome MemoryStore Unit :=
  if ¬ r.validAt c now then (.error .sharedWorkerOperation, s)
  else match s.sharedWorkerOperations.get? r.operationID with
    | none => (.error .sharedWorkerOperation, s)
    | some o =>
      match (if o.state = .responseReady then o.response else none) with
      | some recorded =>
        (if recorded = r then .ok () else .error .sharedWorkerOperationCollision, s)
      | none =>
        if Completable s o r now then
          (.ok (), { s with
            sharedWorkerOperations := s.sharedWorkerOperations.set o.operationID
              { o with response := some r, state := .responseReady } })
        else (.error .sharedWorkerOperation, s)

/-- `SharedWorkerOperationStatus`: an overdue operation expires even when the connection cannot be
used any more. -/
def sharedWorkerOperationStatus (operationID connectionGrantID : UUID) (now : Int) :
    Outcome MemoryStore (OperationState × Option OperationResponse) :=
  match (s.sharedWorkerOperations.get? operationID).filter
      (·.connectionGrantID == connectionGrantID) with
  | none => (.error .sharedWorkerOperation, s)
  | some o =>
    if operationID = uuidNil ∨ connectionGrantID = uuidNil ∨ now ≤ 0 then
      (.error .sharedWorkerOperation, s)
    else
      let usable := ∃ connection ∈ s.grants.get? connectionGrantID, connection.usableAt now
      if o.overdue now then
        (if usable then .ok (.expired, o.response) else .error .sharedWorkerOperation, { s with
          sharedWorkerOperations :=
            s.sharedWorkerOperations.set operationID (o.unclaimed .expired) })
      else (if usable then .ok (o.state, o.response) else .error .sharedWorkerOperation, s)

end Postgres

/-- The outcome of a request to the PostgreSQL store. -/
def Request.outcomePostgres (c : Suite) (now : Int) (s : MemoryStore) :
    Request → Outcome MemoryStore Answer
  | .start state => (Postgres.start s state).map (·.map fun _ => .done) id
  | .createGrant grant => (Postgres.createGrant s grant).map (·.map fun _ => .done) id
  | .revokeGrant grantID => (Postgres.revokeGrant s grantID now).map (·.map fun _ => .done) id
  | .revokeAllGrants => (Postgres.revokeAllGrants s now).map (·.map fun _ => .done) id
  | .consumeChallenge boxID participantID deviceID challengeID =>
    (Postgres.consumeParticipantChallenge c s boxID participantID deviceID challengeID now).map
      (fun consumed => if consumed then .ok .done else .error .participantReplay) id
  | .upsertWorker w => (Postgres.upsertSharedWorker c s w now).map (·.map fun _ => .done) id
  | .withdrawWorker boxID workerID participantID deviceID revision =>
    (Postgres.withdrawSharedWorker s boxID workerID participantID deviceID revision now).map
      (·.map fun _ => .done) id
  | .requestAccess r => (Postgres.createSharedWorkerAccessRequest s r now).map
      (·.map fun _ => .done) id
  | .readAccess requestID grantID =>
    (Postgres.sharedWorkerAccessRequest s requestID grantID now).map (·.map fun _ => .done) id
  | .confirmAccess grant code =>
    (Postgres.confirmSharedWorkerAccess s grant code now).map (·.map fun _ => .done) id
  | .revokeAccess boxID grantID owner revision =>
    (Postgres.revokeSharedWorkerAccess s boxID grantID owner revision now).map
      (·.map fun _ => .done) id
  | .enqueue o => (Postgres.enqueueSharedWorkerOperation c s o now).map (·.map fun _ => .done) id
  | .claim asked => (Postgres.claimSharedWorkerOperation s asked now).map (·.map .handedOut) id
  | .complete r => (Postgres.completeSharedWorkerOperation c s r now).map (·.map fun _ => .done) id
  | .readStatus operationID grantID =>
    (Postgres.sharedWorkerOperationStatus s operationID grantID now).map (·.map fun _ => .done) id
  | r => r.outcome c now s

end FacetsNode.Box
