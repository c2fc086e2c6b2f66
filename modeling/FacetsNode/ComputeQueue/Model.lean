import FacetsNode.Lib.Attempt
import FacetsNode.Lib.GoMap
import FacetsNode.Lib.Json
import Mathlib

/-!
# Records of the compute queue

The checks of `computequeue` and the records that say who may execute what: executors, leases and
the assignment plan of an attempt. A check that fails names its class and the field it is about, in
the order of the source.

An identifier or a digest is a Go string, as in the source. A slice that the source compares with
`nil` is an `Option`; the other lists are plain. `uint64` and `int64` are machine words. SHA-256 is
a parameter.
-/

namespace FacetsNode.ComputeQueue

/-! ## Checks -/

inductive FailureClass where
  | duplicateValue
  | invalidIdentifier
  | invalidDigest
  | invalidField
  | nonCanonicalEncoding
  | unsupportedProtocolVersion
  deriving DecidableEq

structure ContractError where
  kind : FailureClass
  field : String
  deriving DecidableEq

abbrev Check := Except ContractError Unit

def classified {α : Type} (kind : FailureClass) (field : String) : Except ContractError α :=
  .error ⟨kind, field⟩

def invalid {α : Type} (field : String) : Except ContractError α := classified .invalidField field

def duplicateValue {α : Type} (field : String) : Except ContractError α :=
  classified .duplicateValue field

/-- `if c { return invalid(field) }`. -/
def rejectIf (c : Prop) [Decidable c] (field : String) : Check :=
  if c then invalid field else .ok ()

/-- The check of a pointer: `nil` passes. -/
def each {α : Type} (check : α → Check) : Option α → Check
  | none => .ok ()
  | some a => check a

/-- A check of every element, up to the first that fails. -/
def all {α : Type} (check : α → Check) : List α → Check
  | [] => .ok ()
  | a :: l => check a >>= fun _ => all check l

section

variable {α : Type} {field : String} {check : α → Check}

@[simp] theorem rejectIf_eq_ok {c : Prop} [Decidable c] : rejectIf c field = .ok () ↔ ¬ c := by
  unfold rejectIf
  split <;> simp_all [invalid, classified]

@[simp] theorem invalid_ne_ok {a : α} : invalid field ≠ .ok a := by rintro ⟨⟩

/-- One check after another. -/
@[simp] theorem then_eq_ok {c : Check} {k : Unit → Except ContractError α} {a : α} :
    (c >>= k) = .ok a ↔ c = .ok () ∧ k () = .ok a := by
  rw [bind_eq_ok]
  exact ⟨fun ⟨_, hc, hk⟩ => ⟨hc, hk⟩, fun ⟨hc, hk⟩ => ⟨(), hc, hk⟩⟩

@[simp] theorem all_eq_ok {l : List α} : all check l = .ok () ↔ ∀ a ∈ l, check a = .ok () := by
  induction l with
  | nil => simp [all]
  | cons a l ih => simp [all, ih]

end

/-! ## Texts, identifiers and digests -/

def maximumItems : Nat := 250000
def maximumAssignmentItems : Nat := 50000
def maximumAssignments : Nat := 512
def maximumReceipts : Nat := 16384
def maximumRetries : Nat := 31

/-- The largest `uint64`. -/
def maxUint64 : UInt64 := UInt64.ofNat (2 ^ 64 - 1)

abbrev Timestamp := Int64

def Timestamp.validate (value : Timestamp) : Check := rejectIf (value < 0) "timestamp"

/-- A lower-case hexadecimal digit. -/
def isLowerHex (b : UInt8) : Bool := (48 ≤ b && b ≤ 57) || (97 ≤ b && b ≤ 102)

/-- `validateOpaqueID`: the 36 bytes that `uuid.UUID.String` writes, and not those of `uuid.Nil`. -/
def validOpaqueID (value : GoString) : Bool :=
  value.length == 36 &&
    (value.zipIdx.all fun (b, i) => if i ∈ [8, 13, 18, 23] then b == 45 else isLowerHex b) &&
    value.any fun b => b != 45 && b != 48

def validateOpaqueID (value : GoString) : Check :=
  if validOpaqueID value then .ok () else classified .invalidIdentifier "identifier"

/-- `Digest.Validate`. -/
def validateDigest (value : GoString) : Check :=
  if value.length = 64 ∧ value.all isLowerHex then .ok () else classified .invalidDigest "digest"

def requireProtocol (value : Int) : Check :=
  if value = 1 then .ok () else classified .unsupportedProtocolVersion (toString value)

def requirePositive (value : UInt64) (field : String) : Check := rejectIf (value = 0) field

def requireNonempty (value : GoString) (field : String) : Check :=
  rejectIf (value = [] ∨ ¬ (Utf8.valid value ∧ Utf8.trimmed value) ∨ 0 ∈ value ∨ 512 < value.length)
    field

/-- A byte of a machine token: a digit, a letter, or one of `-.:_`. -/
def isTokenByte (b : UInt8) : Bool :=
  (48 ≤ b && b ≤ 57) || (65 ≤ b && b ≤ 90) || (97 ≤ b && b ≤ 122) || b ∈ [45, 46, 58, 95]

def requireMachineToken (value : GoString) (field : String) : Check :=
  rejectIf (value = [] ∨ 128 < value.length ∨ ¬ value.all isTokenByte) field

/-- The pairs of neighbours of a list. -/
def neighbours {α : Type} (l : List α) : List (α × α) := l.zip l.tail

def requireUniqueSorted (values : List GoString) (field : String) : Check := do
  rejectIf ((neighbours values).any fun p => decide (p.2 < p.1)) (field ++ ".order")
  rejectIf ((neighbours values).any fun p => p.2 == p.1) (field ++ ".duplicate")

/-- `fmt.Sprint` of a `uint64` and of an `int64`. -/
def sprintUint64 (value : UInt64) : GoString := Json.natText value.toNat

def sprintTimestamp (value : Timestamp) : GoString := Json.intText value.toInt

/-- `optionalString` and its siblings: `nil` is the empty text. -/
def optional {α : Type} (text : α → GoString) (value : Option α) : GoString :=
  (value.map text).getD []

def optionalText (value : Option GoString) : GoString := value.getD []

/-- What `SHA256Digest` hashes: every component after its length in eight bytes. -/
def framed (components : List GoString) : List UInt8 :=
  components.flatMap fun value => beUint64 value.length ++ value

section

variable (sha256 : List UInt8 → List UInt8)

def sha256Digest (domain : String) (components : List GoString) : GoString :=
  Hex.encode (sha256 (framed (goString domain :: components)))

end

/-! ## Signers and executors -/

structure ReceiptSignerBinding where
  (signerID signingKeyID : GoString)
  signingKeyRevision : UInt64
  signatureProfileID : GoString
  deriving DecidableEq

def ReceiptSignerBinding.validate (v : ReceiptSignerBinding) : Check := do
  requireMachineToken v.signerID "signerID"
  requireMachineToken v.signingKeyID "signingKeyID"
  requirePositive v.signingKeyRevision "signingKeyRevision"
  requireMachineToken v.signatureProfileID "signatureProfileID"

def ReceiptSignerBinding.digestComponents (v : ReceiptSignerBinding) : List GoString :=
  [v.signerID, v.signingKeyID, sprintUint64 v.signingKeyRevision, v.signatureProfileID]

structure WorkerBinding where
  (workerID executorID : GoString)
  executorRevision : UInt64
  offeringID : GoString
  offeringRevision : UInt64
  (offeringDigest recipientKeyID : GoString)
  recipientKeyRevision : UInt64
  receiptSigner : ReceiptSignerBinding
  deriving DecidableEq

def WorkerBinding.validate (v : WorkerBinding) : Check := do
  validateOpaqueID v.workerID
  requireMachineToken v.executorID "executorID"
  requirePositive v.executorRevision "executorRevision"
  validateOpaqueID v.offeringID
  requirePositive v.offeringRevision "offeringRevision"
  validateDigest v.offeringDigest
  requireMachineToken v.recipientKeyID "recipientKeyID"
  requirePositive v.recipientKeyRevision "recipientKeyRevision"
  v.receiptSigner.validate

def WorkerBinding.digestComponents (v : WorkerBinding) : List GoString :=
  [v.workerID, v.executorID, sprintUint64 v.executorRevision, v.offeringID,
    sprintUint64 v.offeringRevision, v.offeringDigest, v.recipientKeyID,
    sprintUint64 v.recipientKeyRevision] ++ v.receiptSigner.digestComponents

structure LocalExecutorBinding where
  executorID : GoString
  executorRevision : UInt64
  runtimeDigest : GoString
  receiptSigner : ReceiptSignerBinding
  deriving DecidableEq

def LocalExecutorBinding.validate (v : LocalExecutorBinding) : Check := do
  requireMachineToken v.executorID "localExecutor.executorID"
  requirePositive v.executorRevision "localExecutor.executorRevision"
  validateDigest v.runtimeDigest
  v.receiptSigner.validate

def LocalExecutorBinding.digestComponents (v : LocalExecutorBinding) : List GoString :=
  [goString "sourceLocal", v.executorID, sprintUint64 v.executorRevision, v.runtimeDigest] ++
    v.receiptSigner.digestComponents

inductive ExecutorKind where
  | sourceLocal
  | worker
  | other (text : GoString)
  deriving DecidableEq

structure ExecutorBinding where
  kind : ExecutorKind
  sourceLocal : Option LocalExecutorBinding
  worker : Option WorkerBinding

def ExecutorBinding.validate (v : ExecutorBinding) : Check :=
  match v.kind, v.sourceLocal, v.worker with
  | .sourceLocal, some executor, none => executor.validate
  | .worker, none, some worker => worker.validate
  | .other _, _, _ => invalid "executor.kind"
  | _, _, _ => invalid "executor"

/-- `stableID`, of an executor that passes `validate`. -/
def ExecutorBinding.stableID (v : ExecutorBinding) : GoString :=
  if v.kind = .worker then goString "worker:" ++ optional WorkerBinding.workerID v.worker
  else goString "sourceLocal:" ++ optional LocalExecutorBinding.executorID v.sourceLocal

def ExecutorBinding.digestComponents (v : ExecutorBinding) : List GoString :=
  match v.kind with
  | .worker => goString "worker" :: (v.worker.map WorkerBinding.digestComponents).getD []
  | .sourceLocal =>
    (v.sourceLocal.map LocalExecutorBinding.digestComponents).getD [goString "sourceLocal"]
  | .other text => [text]

/-- `equalExecutorBinding`. -/
def ExecutorBinding.same (left right : ExecutorBinding) : Bool :=
  left.kind == right.kind &&
    match left.kind with
    | .sourceLocal =>
      if left.sourceLocal.isNone || right.sourceLocal.isNone then
        left.sourceLocal.isNone && right.sourceLocal.isNone
      else left.sourceLocal == right.sourceLocal && left.worker.isNone && right.worker.isNone
    | .worker =>
      if left.worker.isNone || right.worker.isNone then left.worker.isNone && right.worker.isNone
      else left.worker == right.worker && left.sourceLocal.isNone && right.sourceLocal.isNone
    | .other _ => false

/-! ## Leases -/

structure LeaseBinding where
  id : GoString
  revision : UInt64
  (issuedAt expiresAt maximumExpiresAt : Timestamp)
  deriving DecidableEq

def LeaseBinding.validate (v : LeaseBinding) : Check := do
  validateOpaqueID v.id
  requirePositive v.revision "leaseBinding.revision"
  rejectIf (v.issuedAt < 0 ∨ v.expiresAt ≤ v.issuedAt ∨ v.maximumExpiresAt < v.expiresAt)
    "leaseBinding.timestamps"

def LeaseBinding.digestComponents (v : LeaseBinding) : List GoString :=
  [v.id, sprintUint64 v.revision, sprintTimestamp v.issuedAt, sprintTimestamp v.expiresAt,
    sprintTimestamp v.maximumExpiresAt]

def LeaseBinding.digest (sha256 : List UInt8 → List UInt8) (v : LeaseBinding) : GoString :=
  sha256Digest sha256 "facets.compute-queue.lease-binding.v1" v.digestComponents

def LeaseBinding.validateRenewal (v previous : LeaseBinding) : Check := do
  v.validate
  previous.validate
  rejectIf (v.id ≠ previous.id ∨ v.maximumExpiresAt ≠ previous.maximumExpiresAt) "leaseBinding"
  rejectIf (previous.revision = maxUint64 ∨ v.revision ≠ previous.revision + 1)
    "leaseBinding.revision"
  rejectIf (v.issuedAt < previous.issuedAt ∨ previous.expiresAt < v.issuedAt ∨
    v.expiresAt ≤ previous.expiresAt) "leaseBinding.renewal"

/-! ## The plan of an attempt -/

structure AssignmentAuthorization where
  assignmentID : GoString
  executor : ExecutorBinding
  itemIDs : List GoString
  (itemSetDigest executionPayloadDigest : GoString)
  (capsuleID capsuleDigest : Option GoString)
  initialLease : Option LeaseBinding
  cancellationFence : UInt64

section

variable (sha256 : List UInt8 → List UInt8)

def makeAssignmentItemSetDigest (itemIDs : List GoString) : GoString :=
  sha256Digest sha256 "facets.compute-queue.assignment-item-set.v1" itemIDs

def AssignmentAuthorization.validate (v : AssignmentAuthorization) : Check := do
  validateOpaqueID v.assignmentID
  v.executor.validate
  rejectIf (v.itemIDs = [] ∨ maximumAssignmentItems < v.itemIDs.length)
    "assignmentAuthorization.itemIDs"
  all validateOpaqueID v.itemIDs
  requireUniqueSorted v.itemIDs "assignmentAuthorization.itemIDs"
  rejectIf (v.itemSetDigest ≠ makeAssignmentItemSetDigest sha256 v.itemIDs)
    "assignmentAuthorization.itemIDs"
  validateDigest v.executionPayloadDigest
  if v.executor.kind = .sourceLocal then
    rejectIf (v.capsuleID.isSome ∨ v.capsuleDigest.isSome ∨ v.initialLease.isSome ∨
      v.cancellationFence ≠ 0) "assignmentAuthorization.localCapsule"
  else do
    rejectIf (v.capsuleID.isNone ∨ v.capsuleDigest.isNone ∨ v.initialLease.isNone ∨
      v.cancellationFence ≠ 1) "assignmentAuthorization.workerCapsule"
    each validateOpaqueID v.capsuleID
    each validateDigest v.capsuleDigest
    each LeaseBinding.validate v.initialLease

def AssignmentAuthorization.digestComponents (v : AssignmentAuthorization) : List GoString :=
  v.assignmentID :: v.executor.digestComponents ++ v.itemIDs ++
    [v.itemSetDigest, v.executionPayloadDigest, optionalText v.capsuleID,
      optionalText v.capsuleDigest,
      optional (LeaseBinding.digest sha256) v.initialLease, sprintUint64 v.cancellationFence]

structure AssignmentPlan where
  assignments : List AssignmentAuthorization
  assignmentSetDigest : GoString

def AssignmentPlan.makeDigest (v : AssignmentPlan) : GoString :=
  sha256Digest sha256 "facets.compute-queue.assignment-set.v1"
    (v.assignments.flatMap (AssignmentAuthorization.digestComponents sha256))

/-- What the loop of `AssignmentPlan.Validate` has seen. -/
structure PlanSeen where
  (executors offerings items : List GoString)

/-- The loop of `AssignmentPlan.Validate`; the items are counted before they are compared. -/
def AssignmentPlan.validateAssignments : PlanSeen → List AssignmentAuthorization → Check
  | _, [] => .ok ()
  | seen, a :: rest => do
    a.validate sha256
    rejectIf (a.executor.stableID ∈ seen.executors) "assignments.executor"
    let offerings := a.executor.worker.toList.map WorkerBinding.offeringID
    rejectIf (∃ offering ∈ offerings, offering ∈ seen.offerings) "assignments.offeringID"
    rejectIf (maximumItems < seen.items.length + a.itemIDs.length) "assignments.itemIDs"
    rejectIf (∃ item ∈ a.itemIDs, item ∈ seen.items) "assignments.itemIDs"
    AssignmentPlan.validateAssignments
      ⟨a.executor.stableID :: seen.executors, offerings ++ seen.offerings, a.itemIDs ++ seen.items⟩
      rest

def AssignmentPlan.validate (v : AssignmentPlan) : Check := do
  rejectIf (v.assignments = [] ∨ maximumAssignments < v.assignments.length) "assignments"
  AssignmentPlan.validateAssignments sha256 ⟨[], [], []⟩ v.assignments
  requireUniqueSorted (v.assignments.map AssignmentAuthorization.assignmentID)
    "assignments.assignmentID"
  rejectIf (v.assignmentSetDigest ≠ v.makeDigest sha256) "assignmentSetDigest"

end

end FacetsNode.ComputeQueue
