import FacetsNode.Lib.Json
import FacetsNode.Lib.Attempt
import FacetsNode.Relay.Model

/-!
# Storage capacity contracts

The values services and the storage authority exchange, with the check each must pass, and the
capacity arithmetic both sides rest on (`storagecapacity`). Byte counts are 64-bit machine integers
and are computed with as such, because the bound on what may be promised is only worth something if
no sum of them wraps; instants are compared but never added, and are integers.
-/

namespace FacetsNode.Storage

open Relay (UUID uuidNil uuidString)

inductive StorageError where
  -- `storagecapacity`
  | invalidAuthorityContract
  | capacityUnavailable
  | pressure
  -- `storageauthority`
  | invalid
  | conflict
  | rejected
  | unavailable
  -- `pgx.ErrNoRows`
  | noRows
  deriving DecidableEq

/-! ## Capacity -/

/-- `Snapshot`: what the file system says about the pool. -/
structure Snapshot where
  (totalBytes availableBytes : Int64)

def minimumOperatingReserve : Int64 := 2 * 1024 * 1024 * 1024

/-- `Snapshot.OperatingReserve`: a tenth of the pool, rounded up, and no less than the minimum. -/
def Snapshot.operatingReserve (s : Snapshot) : Except StorageError Int64 :=
  if s.totalBytes ≤ 0 ∨ s.availableBytes < 0 ∨ s.availableBytes > s.totalBytes then
    .error .capacityUnavailable
  else
    let reserve := s.totalBytes / 10
    let reserve := if s.totalBytes % 10 ≠ 0 then reserve + 1 else reserve
    .ok (max minimumOperatingReserve reserve)

def check (s : Snapshot) (outstanding additional : Int64) : Except StorageError Unit :=
  match s.operatingReserve with
  | .error _ => .error .capacityUnavailable
  | .ok reserve =>
    if outstanding < 0 ∨ additional < 0 then .error .capacityUnavailable
    else if s.availableBytes < reserve ∨ outstanding > s.availableBytes - reserve ∨
        additional > s.availableBytes - reserve - outstanding then
      .error .pressure
    else .ok ()

/-! ## Reservations -/

def authorityProtocolVersion : Int := 1

inductive ServiceKind where
  | jobCustody
  | backupCustody
  | deviceSync
  | sharedSpaces
  | computePool
  deriving DecidableEq

def ServiceKind.text : ServiceKind → GoString
  | .jobCustody => goString "job_custody"
  | .backupCustody => goString "backup_custody"
  | .deviceSync => goString "device_sync"
  | .sharedSpaces => goString "shared_spaces"
  | .computePool => goString "compute_pool"

structure ServiceBinding where
  kind : ServiceKind
  instanceID : UUID
  deriving DecidableEq

def ServiceBinding.validate (b : ServiceBinding) : Except StorageError Unit :=
  if b.instanceID = uuidNil then .error .invalidAuthorityContract else .ok ()

inductive ReservationState where
  | reserved
  | committed
  | released
  | expired
  deriving DecidableEq

structure ReservationRequest where
  protocolVersion : Int
  (poolID reservationID operationID : UUID)
  service : ServiceBinding
  byteCeiling : Int64
  (issuedAtMilliseconds expiresAtMilliseconds : Int)

def ReservationRequest.validate (r : ReservationRequest) : Except StorageError Unit :=
  if r.protocolVersion ≠ authorityProtocolVersion ∨ r.poolID = uuidNil ∨ r.reservationID = uuidNil ∨
      r.operationID = uuidNil ∨ r.service.validate ≠ .ok () ∨ r.byteCeiling ≤ 0 ∨
      r.issuedAtMilliseconds ≤ 0 ∨ r.expiresAtMilliseconds ≤ r.issuedAtMilliseconds then
    .error .invalidAuthorityContract
  else .ok ()

/-- The fields `json.Marshal` writes, in their order. -/
def ReservationRequest.json (r : ReservationRequest) : Json :=
  .obj [(goString "protocolVersion", .ofInt r.protocolVersion),
    (goString "poolID", .str (uuidString r.poolID)),
    (goString "reservationID", .str (uuidString r.reservationID)),
    (goString "operationID", .str (uuidString r.operationID)),
    (goString "service", .obj [(goString "kind", .str r.service.kind.text),
      (goString "instanceID", .str (uuidString r.service.instanceID))]),
    (goString "byteCeiling", .ofInt r.byteCeiling.toInt),
    (goString "issuedAtMilliseconds", .ofInt r.issuedAtMilliseconds),
    (goString "expiresAtMilliseconds", .ofInt r.expiresAtMilliseconds)]

structure ReservationRecord where
  protocolVersion : Int
  (poolID reservationID : UUID)
  service : ServiceBinding
  byteCeiling : Int64
  expiresAtMilliseconds : Int
  state : ReservationState
  revision : Nat
  tokenDigest : GoString
  updatedAtMilliseconds : Int
  deriving DecidableEq

/-- `validReservationToken`: 32 bytes in canonical base64url. -/
def validReservationToken (token : GoString) : Bool :=
  !token.contains 61 &&
    (Base64Url.decode token).any fun decoded =>
      decoded.length == 32 && Base64Url.encode decoded == token

def reservationTokenDigest (token : GoString) : GoString := Hex.encode (Sha256.sum token)

/-- `ReservationTokenDigest`. -/
def checkedTokenDigest (token : GoString) : Except StorageError GoString :=
  if validReservationToken token = true then .ok (reservationTokenDigest token)
  else .error .invalidAuthorityContract

/-- `validDigest`: 64 lower-case hexadecimal digits. -/
def validDigest (value : GoString) : Bool :=
  value.length == 64 && value.all fun c => (48 ≤ c && c ≤ 57) || (97 ≤ c && c ≤ 102)

def newReservationRecord (r : ReservationRequest) (bearerToken : GoString) :
    Except StorageError ReservationRecord :=
  if r.validate ≠ .ok () ∨ validReservationToken bearerToken = false then
    .error .invalidAuthorityContract
  else
    .ok { protocolVersion := authorityProtocolVersion
          poolID := r.poolID
          reservationID := r.reservationID
          service := r.service
          byteCeiling := r.byteCeiling
          expiresAtMilliseconds := r.expiresAtMilliseconds
          state := .reserved
          revision := 1
          tokenDigest := reservationTokenDigest bearerToken
          updatedAtMilliseconds := r.issuedAtMilliseconds }

def ReservationRecord.validate (r : ReservationRecord) : Except StorageError Unit :=
  if r.protocolVersion ≠ authorityProtocolVersion ∨ r.poolID = uuidNil ∨ r.reservationID = uuidNil ∨
      r.service.validate ≠ .ok () ∨ r.byteCeiling ≤ 0 ∨ r.expiresAtMilliseconds ≤ 0 ∨
      r.revision = 0 ∨ validDigest r.tokenDigest = false ∨ r.updatedAtMilliseconds ≤ 0 then
    .error .invalidAuthorityContract
  else .ok ()

/-! ## Decisions -/

inductive ReservationDecisionKind where
  | commit
  | release
  | expire

def ReservationDecisionKind.text : ReservationDecisionKind → GoString
  | .commit => goString "commit"
  | .release => goString "release"
  | .expire => goString "expire"

structure ReservationDecision where
  protocolVersion : Int
  (reservationID operationID : UUID)
  expectedRevision : Nat
  kind : ReservationDecisionKind
  observedAtMilliseconds : Int
  bearerToken : GoString

def maximumRevision : Nat := 2 ^ 64 - 1

/-- The state a decision of this kind leads to at an instant, if it may be taken then. -/
def ReservationDecisionKind.outcome (kind : ReservationDecisionKind) (observedAt expiresAt : Int) :
    Except StorageError ReservationState :=
  match kind with
  | .commit =>
    if observedAt ≥ expiresAt then .error .invalidAuthorityContract else .ok .committed
  | .release => .ok .released
  | .expire =>
    if observedAt < expiresAt then .error .invalidAuthorityContract else .ok .expired

def ReservationDecision.apply (decision : ReservationDecision) (current : ReservationRecord) :
    Except StorageError ReservationRecord :=
  if current.validate ≠ .ok () ∨ decision.protocolVersion ≠ authorityProtocolVersion ∨
      decision.reservationID ≠ current.reservationID ∨ decision.operationID = uuidNil ∨
      decision.expectedRevision ≠ current.revision ∨
      decision.observedAtMilliseconds < current.updatedAtMilliseconds ∨
      validReservationToken decision.bearerToken = false ∨
      reservationTokenDigest decision.bearerToken ≠ current.tokenDigest ∨
      current.state ≠ .reserved ∨ current.revision = maximumRevision then
    .error .invalidAuthorityContract
  else do
    let state ← decision.kind.outcome decision.observedAtMilliseconds current.expiresAtMilliseconds
    .ok { current with
          state
          revision := current.revision + 1
          updatedAtMilliseconds := decision.observedAtMilliseconds }

end FacetsNode.Storage
