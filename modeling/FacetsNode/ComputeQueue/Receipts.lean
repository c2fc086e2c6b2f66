import FacetsNode.ComputeQueue.Model

/-!
# Receipts

A receipt says that one authority saw a stage of the work on an attempt. `VerifiedReceipt` is a
receipt whose signature was checked against a signer and a subject; `newVerifiedReceiptIndex` takes
a list of them in which no identifier, no idempotency key and no logical slot occurs twice.
-/

namespace FacetsNode.ComputeQueue

/-! ## Enumerations -/

inductive TransitionAuthority where
  | sourceDevice
  | jobCustody
  | worker
  | storageCapacityAuthority
  | computePool
  | other (text : GoString)
  deriving DecidableEq

def TransitionAuthority.text : TransitionAuthority → GoString
  | .sourceDevice => goString "sourceDevice"
  | .jobCustody => goString "jobCustody"
  | .worker => goString "worker"
  | .storageCapacityAuthority => goString "storageCapacityAuthority"
  | .computePool => goString "computePool"
  | .other text => text

inductive ReceiptStage where
  | sourceSealed
  | custodyAccepted
  | waitingForWorker
  | admissionRejected
  | leaseRenewed
  | leaseExpired
  | workerClaimed
  | executionStarted
  | executionCompleted
  | resultCustodied
  | resultDelivered
  | sourceResultRejected
  | sourceApplied
  | cancellationRequested
  | custodyCancellationConfirmed
  | workerCancellationConfirmed
  | releaseRequested
  | custodyReleased
  | workerReleased
  | localExecutionStarted
  | localExecutionCompleted
  | localReleased
  | localCancellationConfirmed
  | other (text : GoString)
  deriving DecidableEq

def ReceiptStage.text : ReceiptStage → GoString
  | .sourceSealed => goString "sourceSealed"
  | .custodyAccepted => goString "custodyAccepted"
  | .waitingForWorker => goString "waitingForWorker"
  | .admissionRejected => goString "admissionRejected"
  | .leaseRenewed => goString "leaseRenewed"
  | .leaseExpired => goString "leaseExpired"
  | .workerClaimed => goString "workerClaimed"
  | .executionStarted => goString "executionStarted"
  | .executionCompleted => goString "executionCompleted"
  | .resultCustodied => goString "resultCustodied"
  | .resultDelivered => goString "resultDelivered"
  | .sourceResultRejected => goString "sourceResultRejected"
  | .sourceApplied => goString "sourceApplied"
  | .cancellationRequested => goString "cancellationRequested"
  | .custodyCancellationConfirmed => goString "custodyCancellationConfirmed"
  | .workerCancellationConfirmed => goString "workerCancellationConfirmed"
  | .releaseRequested => goString "releaseRequested"
  | .custodyReleased => goString "custodyReleased"
  | .workerReleased => goString "workerReleased"
  | .localExecutionStarted => goString "localExecutionStarted"
  | .localExecutionCompleted => goString "localExecutionCompleted"
  | .localReleased => goString "localReleased"
  | .localCancellationConfirmed => goString "localCancellationConfirmed"
  | .other text => text

def ReceiptStage.unknown : ReceiptStage → Bool
  | .other _ => true
  | _ => false

def ReceiptStage.isLocal (stage : ReceiptStage) : Bool :=
  stage ∈ [.localExecutionStarted, .localExecutionCompleted, .localReleased,
    .localCancellationConfirmed]

def receiptAuthority (stage : ReceiptStage) : TransitionAuthority :=
  if stage.isLocal ∨ stage ∈ [.sourceSealed, .resultDelivered, .sourceResultRejected,
    .sourceApplied,
      .cancellationRequested, .releaseRequested] then .sourceDevice
  else if stage ∈ [.custodyAccepted, .waitingForWorker, .admissionRejected, .leaseExpired,
      .resultCustodied, .custodyReleased, .custodyCancellationConfirmed] then .jobCustody
  else .worker

def receiptRequiresAssignment (stage : ReceiptStage) : Bool :=
  stage.isLocal || stage == .sourceResultRejected || receiptAuthority stage != .sourceDevice

inductive ExecutionOutcome where
  | succeeded
  | failed
  | other (text : GoString)
  deriving DecidableEq

def ExecutionOutcome.text : ExecutionOutcome → GoString
  | .succeeded => goString "succeeded"
  | .failed => goString "failed"
  | .other text => text

/-! ## Receipts -/

structure ReceiptRecord where
  protocolVersion : Int
  (id occurrenceID attemptID : GoString)
  (assignmentID itemID : Option GoString)
  stage : ReceiptStage
  authority : TransitionAuthority
  executionOutcome : Option ExecutionOutcome
  (resultDigest resultCapsuleDigest errorID errorDigest leaseID : Option GoString)
  leaseRevision : Option UInt64
  leaseExpiresAt : Option Timestamp
  cancellationFence : UInt64
  (signerID signingKeyID : GoString)
  signingKeyRevision : UInt64
  (subjectDigest idempotencyKey : GoString)
  recordedAt : Timestamp

namespace ReceiptRecord

variable (sha256 : List UInt8 → List UInt8)

def makeIdempotencyKey (v : ReceiptRecord) : GoString :=
  sha256Digest sha256 "facets.compute-queue.receipt-idempotency.v1"
    [v.occurrenceID, v.attemptID, optionalText v.assignmentID, optionalText v.itemID, v.stage.text,
      v.authority.text, optional ExecutionOutcome.text v.executionOutcome,
        optionalText v.resultDigest,
      optionalText v.resultCapsuleDigest, optionalText v.errorID, optionalText v.errorDigest,
      optionalText v.leaseID, optional sprintUint64 v.leaseRevision,
      optional sprintTimestamp v.leaseExpiresAt, sprintUint64 v.cancellationFence, v.signerID,
      v.signingKeyID, sprintUint64 v.signingKeyRevision, v.subjectDigest]

def logicalSlotKey (v : ReceiptRecord) : GoString :=
  sha256Digest sha256 "facets.compute-queue.receipt-logical-slot.v1"
    [v.occurrenceID, v.attemptID, optionalText v.assignmentID, optionalText v.itemID, v.stage.text,
      v.authority.text, optionalText v.leaseID, optional sprintUint64 v.leaseRevision,
      sprintUint64 v.cancellationFence]

abbrev HasNoLease (v : ReceiptRecord) : Prop :=
  v.leaseID = none ∧ v.leaseRevision = none ∧ v.leaseExpiresAt = none ∧ v.cancellationFence = 0

abbrev HasExternalLease (v : ReceiptRecord) : Prop :=
  v.leaseID.isSome ∧ (∃ revision ∈ v.leaseRevision, 0 < revision) ∧ v.leaseExpiresAt.isSome ∧
    0 < v.cancellationFence

/-- The evidence each stage carries. -/
def validateEvidence (v : ReceiptRecord) : Check :=
  let hasError := v.errorID.isSome ∧ v.errorDigest.isSome
  match v.stage with
  | .executionCompleted => do
    rejectIf (v.itemID.isSome ∨ v.executionOutcome = none) "executionCompleted.outcome"
    if v.executionOutcome = some .succeeded then
      rejectIf (v.resultDigest = none ∨ v.resultCapsuleDigest = none ∨ hasError)
        "executionCompleted.result"
    else
      rejectIf (v.resultDigest.isSome ∨ v.resultCapsuleDigest.isSome ∨ ¬ hasError)
        "executionCompleted.failure"
  | .resultCustodied | .resultDelivered =>
    rejectIf (v.itemID.isSome ∨ v.executionOutcome ≠ some .succeeded ∨ v.resultDigest = none ∨
      v.resultCapsuleDigest = none ∨ hasError) "custodiedResult"
  | .localExecutionCompleted => do
    rejectIf (v.itemID.isSome ∨ v.executionOutcome = none ∨ v.resultCapsuleDigest.isSome)
      "localExecutionCompleted.outcome"
    if v.executionOutcome = some .succeeded then
      rejectIf (v.resultDigest = none ∨ hasError) "localExecutionCompleted.result"
    else rejectIf (v.resultDigest.isSome ∨ ¬ hasError) "localExecutionCompleted.failure"
  | .admissionRejected | .leaseExpired =>
    rejectIf (v.itemID.isSome ∨ v.executionOutcome.isSome ∨ v.resultDigest.isSome ∨
      v.resultCapsuleDigest.isSome ∨ ¬ hasError) "receipt.errorEvidence"
  | .sourceResultRejected =>
    rejectIf (v.executionOutcome.isSome ∨ v.resultDigest = none ∨ v.resultCapsuleDigest.isSome ∨
      ¬ hasError) "receipt.sourceResultRejected"
  | _ =>
    rejectIf (v.executionOutcome.isSome ∨ v.resultDigest.isSome ∨ v.resultCapsuleDigest.isSome ∨
      hasError) "receipt.resultEvidence"

def validate (v : ReceiptRecord) : Check := do
  requireProtocol v.protocolVersion
  all validateOpaqueID [v.id, v.occurrenceID, v.attemptID]
  each validateOpaqueID v.assignmentID
  each validateOpaqueID v.itemID
  -- the default of `receiptAuthority` would take an unknown stage for one of a Worker
  rejectIf (v.stage.unknown ∨ v.authority ≠ receiptAuthority v.stage) "receipt.authority"
  rejectIf (∃ outcome ∈ v.executionOutcome, outcome ≠ .succeeded ∧ outcome ≠ .failed)
    "receipt.executionOutcome"
  each validateDigest v.resultDigest
  each validateDigest v.resultCapsuleDigest
  each validateDigest v.errorDigest
  all validateDigest [v.subjectDigest, v.idempotencyKey]
  each validateOpaqueID v.errorID
  each validateOpaqueID v.leaseID
  each Timestamp.validate v.leaseExpiresAt
  requireMachineToken v.signerID "signerID"
  requireMachineToken v.signingKeyID "signingKeyID"
  requirePositive v.signingKeyRevision "signingKeyRevision"
  Timestamp.validate v.recordedAt
  (if v.assignmentID = none ∨ v.stage.isLocal then rejectIf (¬ v.HasNoLease) "receipt.lease"
  else if v.authority = .sourceDevice then
    rejectIf (¬ v.HasNoLease ∧ ¬ v.HasExternalLease) "receipt.lease"
  else rejectIf (¬ v.HasExternalLease) "receipt.lease")
  rejectIf (receiptRequiresAssignment v.stage ∧ v.assignmentID = none) "assignmentID"
  rejectIf (v.itemID.isSome ∧ v.assignmentID = none) "itemID"
  (if v.stage = .sourceResultRejected then
    rejectIf (v.assignmentID = none ∨ v.itemID = none) "itemID"
  else rejectIf (v.stage ≠ .sourceApplied ∧ v.itemID.isSome) "itemID")
  rejectIf (¬ (v.errorID = none ↔ v.errorDigest = none)) "receipt.errorEvidence"
  v.validateEvidence
  rejectIf (v.idempotencyKey ≠ v.makeIdempotencyKey sha256) "receipt.idempotencyKey"

end ReceiptRecord

/-! ## Verified receipts -/

structure VerifiedReceipt where
  record : ReceiptRecord
  expectedSigner : ReceiptSignerBinding
  expectedSubjectDigest : GoString

/-- `receiptMatchesSigner`. -/
def ReceiptRecord.matchesSigner (v : ReceiptRecord) (signer : ReceiptSignerBinding) : Prop :=
  v.signerID = signer.signerID ∧ v.signingKeyID = signer.signingKeyID ∧
    v.signingKeyRevision = signer.signingKeyRevision

def VerifiedReceipt.Matches (v : VerifiedReceipt) (signer : ReceiptSignerBinding)
    (subject : GoString) : Prop :=
  v.expectedSigner = signer ∧ v.expectedSubjectDigest = subject ∧ v.record.matchesSigner signer ∧
    v.record.subjectDigest = subject

instance (v : VerifiedReceipt) (signer : ReceiptSignerBinding) (subject : GoString) :
    Decidable (v.Matches signer subject) :=
  inferInstanceAs (Decidable (_ ∧ _ ∧ (_ ∧ _ ∧ _) ∧ _))

/-- `verifiedReceiptIndex.byID`; no two receipts of an index have one identifier. -/
abbrev VerifiedReceiptIndex := List VerifiedReceipt

def VerifiedReceiptIndex.get (index : VerifiedReceiptIndex)
    (id : GoString) : Option VerifiedReceipt :=
  index.find? fun receipt => receipt.record.id == id

section

variable (sha256 : List UInt8 → List UInt8)

/-- The three keys that an index keeps apart. -/
def VerifiedReceipt.keys (v : VerifiedReceipt) : List (String × GoString) :=
  [("receipts.id", v.record.id), ("receipts.idempotencyKey", v.record.idempotencyKey),
    ("receipts.logicalSlot", v.record.logicalSlotKey sha256)]

/-- The loop of `newVerifiedReceiptIndex`, after the receipts of `seen`. -/
def indexReceipts (seen : List VerifiedReceipt) : List VerifiedReceipt → Check
  | [] => .ok ()
  | receipt :: rest => do
    receipt.record.validate sha256
    all (fun key => if ∃ earlier ∈ seen, key ∈ earlier.keys sha256 then duplicateValue key.1
      else .ok ()) (receipt.keys sha256)
    indexReceipts (receipt :: seen) rest

def newVerifiedReceiptIndex (receipts : List VerifiedReceipt) :
    Except ContractError VerifiedReceiptIndex := do
  rejectIf (maximumReceipts < receipts.length) "receipts"
  indexReceipts sha256 [] receipts
  .ok receipts

end

end FacetsNode.ComputeQueue
