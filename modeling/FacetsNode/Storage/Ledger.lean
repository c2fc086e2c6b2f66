import FacetsNode.Lib.GoMap
import FacetsNode.Lib.Run
import FacetsNode.Lib.Transaction
import FacetsNode.Storage.Contracts

/-!
# The storage authority's ledger

The durable ledger of one storage pool (`storageauthority`): the pool row, the reservations and the
operation log, with the four operations services run on them. Every operation locks the pool row
first, so operations of any number of services are transactions that follow one another; each is a
transformer of the whole database. A call also reads what lies outside it: the file system's
capacity (`none` if it cannot be measured), fresh identifiers, and a connection that may fail at any
statement.

A table is a map from its primary key. A row of the reservation table is the record the code reads
from it; the protocol version, for which there is no column, is the constant every record carries.
-/

namespace FacetsNode.Storage

open Attempt Session
open Relay (UUID uuidNil uuidString)

/-! ## Tables -/

inductive OperationKind where
  | reserve
  | commit
  | release
  | expire
  deriving DecidableEq

def ReservationDecisionKind.operation : ReservationDecisionKind → OperationKind
  | .commit => .commit
  | .release => .release
  | .expire => .expire

/-- A row of `storage_capacity_pool`. -/
structure PoolRow where
  (poolID authorityID : UUID)
  ledgerRevision : Nat
  version : Int

/-- A row of `storage_capacity_operations`. -/
structure OperationRow where
  reservationID : UUID
  kind : OperationKind
  requestDigest : GoString
  (expectedRevision resultRevision : Nat)
  resultState : ReservationState
  recordedAtMilliseconds : Int

structure Database where
  pool : PoolRow
  reservations : GoMap UUID ReservationRecord
  operations : GoMap UUID OperationRow

/-- `Initialize` on an empty schema. -/
def Database.initial (poolID authorityID : UUID) : Database :=
  ⟨⟨poolID, authorityID, 1, authorityProtocolVersion⟩, ∅, ∅⟩

/-- `Ledger`: what a service knows about the pool it opened. -/
structure Ledger where
  (poolID authorityID : UUID)

/-! ## Statements -/

def ReservationRecord.activeBytes (r : ReservationRecord) : Int64 :=
  if r.state = .reserved then r.byteCeiling else 0

/-- The exact sum of the ceilings of all reservations that are neither decided nor expired. -/
def Database.promisedBytes (db : Database) : Int :=
  db.reservations.sumBy fun r => r.activeBytes.toInt

/-- `begin`: lock the pool row and check that it is the ledger's. -/
def Ledger.begin (l : Ledger) : Attempt (Session Database) StorageError Unit := do
  rejectIf (l.poolID = uuidNil ∨ l.authorityID = uuidNil) .invalid
  reach .unavailable
  query .invalid fun db =>
    if db.pool.poolID ≠ l.poolID ∨ db.pool.authorityID ≠ l.authorityID ∨
        db.pool.ledgerRevision = 0 ∨ db.pool.version ≠ authorityProtocolVersion then
      .error .invalid
    else .ok ()

/-- `activeBytes`: the sum is numeric, and the cast to `bigint` fails where it does not fit. -/
def activeBytes : Attempt (Session Database) StorageError Int64 :=
  query .unavailable fun db =>
    if db.promisedBytes < -2 ^ 63 ∨ 2 ^ 63 ≤ db.promisedBytes then .error .unavailable
    else if Int64.ofInt db.promisedBytes < 0 then .error .unavailable
    else .ok (Int64.ofInt db.promisedBytes)

/-- `loadReservation`, with `none` for `pgx.ErrNoRows`. -/
def findReservation (id : UUID) :
    Attempt (Session Database) StorageError (Option ReservationRecord) := do
  rejectIf (id = uuidNil) .invalid
  query .unavailable fun db =>
    match db.reservations.get? id with
    | none => .ok none
    | some record => if record.validate ≠ .ok () then .error .invalid else .ok (some record)

def loadReservation (id : UUID) : Attempt (Session Database) StorageError ReservationRecord := do
  match ← findReservation id with
  | none => fail .noRows
  | some record => pure record

/-- `loadOperationResult`: the current record, if the operation is in the log and the record is
still the one it left; `none` if the operation is not in the log. -/
def loadOperationResult (operationID reservationID : UUID) (kind : OperationKind)
    (requestDigest tokenDigest : GoString) :
    Attempt (Session Database) StorageError (Option ReservationRecord) := do
  match ← query .unavailable fun db => .ok (db.operations.get? operationID) with
  | none => pure none
  | some row =>
    rejectIf (row.reservationID ≠ reservationID ∨ row.kind ≠ kind ∨
      row.requestDigest ≠ requestDigest) .conflict
    let record ← loadReservation reservationID
    rejectIf (record.revision ≠ row.resultRevision ∨ record.state ≠ row.resultState ∨
      record.tokenDigest ≠ tokenDigest) .conflict
    pure (some record)

/-- The insertion of a reservation; the identifier is the primary key, and the pool must exist. -/
def insertReservation (record : ReservationRecord) :
    Attempt (Session Database) StorageError Unit :=
  exec .unavailable fun db =>
    if (db.reservations.get? record.reservationID).isSome = true ∨
      record.poolID ≠ db.pool.poolID then
      .error .unavailable
    else .ok { db with reservations := db.reservations.set record.reservationID record }

/-- `UPDATE … WHERE reservation_id=… AND revision=…`, which must hit one row. -/
def updateReservation (next : ReservationRecord) (revision : Nat) :
    Attempt (Session Database) StorageError Unit :=
  exec .unavailable fun db =>
    match db.reservations.get? next.reservationID with
    | none => .error .conflict
    | some row =>
      if row.revision ≠ revision then .error .conflict
      else
        let row' := { row with
          state := next.state
          revision := next.revision
          updatedAtMilliseconds := next.updatedAtMilliseconds }
        .ok { db with reservations := db.reservations.set next.reservationID row' }

/-- `insertOperation`; the operation identifier is the primary key, and the reservation must
exist. -/
def insertOperation (operationID reservationID : UUID) (kind : OperationKind)
    (requestDigest : GoString) (expectedRevision : Nat) (result : ReservationRecord) :
    Attempt (Session Database) StorageError Unit :=
  exec .unavailable fun db =>
    if (db.operations.get? operationID).isSome = true ∨
        (db.reservations.get? reservationID).isSome = false then
      .error .unavailable
    else
      let row := ⟨reservationID, kind, requestDigest, expectedRevision, result.revision,
        result.state,
        result.updatedAtMilliseconds⟩
      .ok { db with operations := db.operations.set operationID row }

def incrementLedgerRevision : Attempt (Session Database) StorageError Unit :=
  exec .unavailable fun db =>
    if db.pool.ledgerRevision < 2 ^ 63 - 1 then
      .ok { db with pool := { db.pool with ledgerRevision := db.pool.ledgerRevision + 1 } }
    else .error .unavailable

/-! ## Digests -/

def digestRequest (value : Json) : GoString := Hex.encode (Sha256.sum value.marshal)

/-- `digestStrings`: each text is followed by a zero byte. -/
def digestStrings (values : List GoString) : GoString :=
  Hex.encode (Sha256.sum (values.flatMap fun v => v ++ [0]))

/-- `digestDecision`: the digest of the decision without its token, and of the token. -/
def digestDecision (d : ReservationDecision) : Except StorageError (GoString × GoString) :=
  if d.operationID = uuidNil ∨ d.reservationID = uuidNil then .error .invalid
  else do
    let tokenDigest ← checkedTokenDigest d.bearerToken
    .ok (digestRequest (.obj [(goString "protocolVersion", .ofInt d.protocolVersion),
      (goString "reservationID", .str (uuidString d.reservationID)),
      (goString "operationID", .str (uuidString d.operationID)),
      (goString "expectedRevision", .ofNat d.expectedRevision),
      (goString "kind", .str d.kind.text),
      (goString "observedAtMilliseconds", .ofInt d.observedAtMilliseconds),
      (goString "tokenDigest", .str tokenDigest)]), tokenDigest)

/-- The digest the sweep logs for an expiry. -/
def digestExpiry (id : UUID) (revision : Nat) (observedAt : Int) : GoString :=
  digestStrings [goString "expire", uuidString id, Json.natText revision, Json.intText observedAt]

/-! ## Operations -/

/-- Earlier expiry first, then the smaller identifier. -/
def dueBefore (a b : UUID × ReservationRecord) : Bool :=
  decide (a.2.expiresAtMilliseconds < b.2.expiresAtMilliseconds) ||
    decide (a.2.expiresAtMilliseconds = b.2.expiresAtMilliseconds) && decide (a.1.toNat ≤ b.1.toNat)

/-- The reservations the sweep selects. -/
def dueReservations (db : Database) (observedAt : Int) (limit : Nat) : List UUID :=
  (((db.reservations.pairs.filter fun p =>
    decide (p.2.state = .reserved ∧ p.2.expiresAtMilliseconds ≤ observedAt)).mergeSort
      dueBefore).take limit).map Prod.fst

namespace Ledger

/-- The capacity check of a request for more, with everything promised so far outstanding. -/
def checkCapacity (snapshot : Option Snapshot) (additional : Int64) :
    Attempt (Session Database) StorageError Unit := do
  let outstanding ← activeBytes
  match snapshot with
  | none => fail .capacityUnavailable
  | some snapshot => ofExcept (check snapshot outstanding additional)

def reserve (l : Ledger) (request : ReservationRequest) (bearerToken : GoString)
    (snapshot : Option Snapshot) (fault : Option Nat) :
    Attempt Database StorageError ReservationRecord := do
  rejectIf (request.validate ≠ .ok () ∨ request.poolID ≠ l.poolID) .invalid
  match newReservationRecord request bearerToken with
  | .error _ => fail .rejected
  | .ok proposed => transact fault do
    l.begin
    let requestDigest := digestRequest request.json
    match ← loadOperationResult request.operationID request.reservationID .reserve requestDigest
        proposed.tokenDigest with
    | some existing => do
      commit .unavailable
      pure existing
    | none => do
      match ← findReservation request.reservationID with
      | some _ => fail .conflict
      | none => do
        checkCapacity snapshot request.byteCeiling
        insertReservation proposed
        insertOperation request.operationID proposed.reservationID .reserve requestDigest 0 proposed
        incrementLedgerRevision
        commit .unavailable
        pure proposed

def decide (l : Ledger) (decision : ReservationDecision) (fault : Option Nat) :
    Attempt Database StorageError ReservationRecord :=
  match digestDecision decision with
  | .error _ => fail .invalid
  | .ok (requestDigest, tokenDigest) => transact fault do
    l.begin
    match ← loadOperationResult decision.operationID decision.reservationID decision.kind.operation
        requestDigest tokenDigest with
    | some existing => do
      commit .unavailable
      pure existing
    | none => do
      match ← findReservation decision.reservationID with
      | none => fail .rejected
      | some current =>
        match decision.apply current with
        | .error _ => fail .rejected
        | .ok next => do
          updateReservation next current.revision
          insertOperation decision.operationID next.reservationID decision.kind.operation
            requestDigest current.revision next
          incrementLedgerRevision
          commit .unavailable
          pure next

def tokenMatches (expectedDigest bearerToken : GoString) : Bool :=
  match checkedTokenDigest bearerToken with
  | .error _ => false
  | .ok actual => expectedDigest == actual

def recheck (l : Ledger) (reservationID : UUID) (expectedRevision : Nat) (bearerToken : GoString)
    (observedAtMilliseconds : Int) (snapshot : Option Snapshot) (fault : Option Nat) :
    Attempt Database StorageError Unit := do
  rejectIf (reservationID = uuidNil ∨ expectedRevision = 0 ∨ observedAtMilliseconds ≤ 0) .invalid
  transact fault do
    l.begin
    match ← findReservation reservationID with
    | none => fail .rejected
    | some record => do
      rejectIf (record.state ≠ .reserved ∨ record.revision ≠ expectedRevision ∨
        observedAtMilliseconds < record.updatedAtMilliseconds ∨
        observedAtMilliseconds ≥ record.expiresAtMilliseconds ∨
        tokenMatches record.tokenDigest bearerToken = false) .rejected
      checkCapacity snapshot 0
      commit .unavailable

/-- The record of a reservation that expires. -/
def expiredRecord (current : ReservationRecord) (observedAt : Int) : ReservationRecord :=
  { current with
    state := .expired
    revision := current.revision + 1
    updatedAtMilliseconds := observedAt }

/-- One round of the sweep. -/
def expireOne (observedAt : Int) (id operationID : UUID) :
    Attempt (Session Database) StorageError ReservationRecord := do
  let current ← failingWith .invalid (loadReservation id)
  rejectIf (current.state ≠ .reserved ∨ current.expiresAtMilliseconds > observedAt) .invalid
  let next := expiredRecord current observedAt
  exec .unavailable fun db =>
    match db.reservations.get? id with
    | none => .error .conflict
    | some row =>
      if row.state ≠ .reserved ∨ row.revision ≠ current.revision then .error .conflict
      else
        let row' := { row with
          state := .expired
          revision := next.revision
          updatedAtMilliseconds := observedAt }
        .ok { db with reservations := db.reservations.set id row' }
  insertOperation operationID id .expire (digestExpiry id current.revision observedAt)
    current.revision next
  pure next

/-- The rounds of the sweep; `newID n` is the identifier `uuid.New` gives in round `n`. -/
def expireAll (observedAt : Int) (newID : Nat → UUID) :
    Nat → List UUID → Attempt (Session Database) StorageError (List ReservationRecord)
  | _, [] => pure []
  | n, id :: rest => do
    let next ← expireOne observedAt id (newID n)
    let others ← expireAll observedAt newID (n + 1) rest
    pure (next :: others)

def reconcileExpired (l : Ledger) (observedAtMilliseconds : Int) (limit : Int) (newID : Nat → UUID)
    (fault : Option Nat) : Attempt Database StorageError (List ReservationRecord) := do
  rejectIf (observedAtMilliseconds ≤ 0 ∨ limit < 1 ∨ limit > 256) .invalid
  transact fault do
    l.begin
    let ids ← query .unavailable fun db =>
      .ok (dueReservations db observedAtMilliseconds limit.toNat)
    let results ← expireAll observedAtMilliseconds newID 0 ids
    if results ≠ [] then
      incrementLedgerRevision
    commit .unavailable
    pure results

end Ledger

/-! ## Runs -/

/-- A call of one of the operations, by any service. -/
inductive Operation where
  | reserve (l : Ledger) (request : ReservationRequest) (bearerToken : GoString)
      (snapshot : Option Snapshot) (fault : Option Nat)
  | decide (l : Ledger) (decision : ReservationDecision) (fault : Option Nat)
  | recheck (l : Ledger) (reservationID : UUID) (expectedRevision : Nat) (bearerToken : GoString)
      (observedAtMilliseconds : Int) (snapshot : Option Snapshot) (fault : Option Nat)
  | reconcileExpired (l : Ledger) (observedAtMilliseconds limit : Int) (newID : Nat → UUID)
      (fault : Option Nat)

/-- The database after the call. -/
def Operation.apply : Operation → Database → Database
  | .reserve l request token snapshot fault, db => (l.reserve request token snapshot fault db).2
  | .decide l decision fault, db => (l.decide decision fault db).2
  | .recheck l id revision token observedAt snapshot fault, db =>
    (l.recheck id revision token observedAt snapshot fault db).2
  | .reconcileExpired l observedAt limit newID fault, db =>
    (l.reconcileExpired observedAt limit newID fault db).2

/-- The databases calls lead to, from an empty pool. -/
def Reachable (db : Database) : Prop :=
  ∃ poolID authorityID ops, db = run Operation.apply (Database.initial poolID authorityID) ops

end FacetsNode.Storage
