import FacetsNode.ComputeQueue.Receipts

/-!
# Attempts and their assignments

An attempt carries the plan of its assignments; an assignment record follows one of them through its
states. `AssignmentRecord.validateAuthorizedBy` accepts a record under an authorized attempt: it is
the planned assignment, and every receipt it names is present, trusted, and falls into a lease of
the history that `validatedLeaseHistory` rebuilds from the renewals.
-/

namespace FacetsNode.ComputeQueue

/-! ## States -/

/-- `executionStates`: the states of attempts and, `settled` apart, of assignments. -/
inductive ExecutionState where
  | prepared
  | sealed
  | admissionPending
  | custodied
  | waitingForWorker
  | claimed
  | executing
  | resultCustodied
  | delivered
  | applied
  | released
  | retryableRejected
  | expired
  | custodyCancellationRequested
  | custodyCancellationConfirmed
  | workerCancellationRequested
  | workerCancellationConfirmed
  | executionFailed
  | invalidResult
  | uncertainTermination
  | settled
  | localExecuting
  | localResultReady
  | localApplied
  | localReleased
  | localCancellationRequested
  | localCancellationConfirmed
  | localExecutionFailed
  | localInvalidResult
  | localUncertainTermination
  | other (text : GoString)
  deriving DecidableEq

def ExecutionState.unknown : ExecutionState → Bool
  | .other _ => true
  | _ => false

/-- `attemptLocalOnly` and `assignmentLocalOnly`. -/
def ExecutionState.localOnly (state : ExecutionState) : Bool :=
  state ∈ [.localExecuting, .localResultReady, .localApplied, .localReleased,
    .localCancellationRequested, .localCancellationConfirmed, .localExecutionFailed,
    .localInvalidResult, .localUncertainTermination]

/-- `attemptExternalOnly` and `assignmentExternalOnly`. -/
def ExecutionState.externalOnly (state : ExecutionState) : Bool :=
  state != .prepared && state != .sealed && !state.localOnly

inductive DestinationKind where
  | directLocal
  | fixedWorkers
  | computePool
  | other (text : GoString)
  deriving DecidableEq

def DestinationKind.unknown : DestinationKind → Bool
  | .other _ => true
  | _ => false

/-! ## Attempts -/

structure ExecutionIdentity where
  (backendFamilyID backendFamilyRevision modelID modelArtifactDigest adapterID : GoString)
  (adapterRevision decisionContractDigest executionSettingsDigest : GoString)
  quantization : Option GoString

/-- `ExecutionIdentity.Validate`. The source goes through the five texts in the order of a Go map;
when several of them fail, the field it names is any of theirs. -/
def ExecutionIdentity.validate (v : ExecutionIdentity) : Check := do
  requireNonempty v.backendFamilyID "backendFamilyID"
  requireNonempty v.backendFamilyRevision "backendFamilyRevision"
  requireNonempty v.modelID "modelID"
  requireNonempty v.adapterID "adapterID"
  requireNonempty v.adapterRevision "adapterRevision"
  all validateDigest [v.modelArtifactDigest, v.decisionContractDigest, v.executionSettingsDigest]
  each (requireNonempty · "quantization") v.quantization

structure AttemptRecord where
  protocolVersion : Int
  (id occurrenceID : GoString)
  (revision attemptNumber : UInt64)
  state : ExecutionState
  destinationKind : DestinationKind
  executionIdentity : ExecutionIdentity
  (occurrenceSnapshotDigest operationBindingDigest policySnapshotDigest retryPolicyDigest : GoString)
  (previousAttemptID retryErrorID : Option GoString)
  notBeforeAt : Option Timestamp
  assignmentPlan : AssignmentPlan
  (authorizedWorkerSetDigest computePoolPolicyDigest computePoolGrantDigest : Option GoString)
  computePoolAssignmentSetDigest : Option GoString
  sourceReceiptSigner : ReceiptSignerBinding
  custodyReceiptSigner : Option ReceiptSignerBinding
  terminalAssignmentOutcomesDigest : Option GoString
  createdAt : Timestamp
  deadlineAt : Option Timestamp
  receiptIDs : Option (List GoString)

def validateReceiptIDs (ids : List GoString) : Check := do
  rejectIf (maximumReceipts < ids.length) "receiptIDs"
  all validateOpaqueID ids
  requireUniqueSorted ids "receiptIDs"

/-- The last checks of `AttemptRecord.Validate` and `AssignmentRecord.Validate`. -/
def validateLifetime (createdAt : Timestamp) (deadlineAt : Option Timestamp)
    (receiptIDs : Option (List GoString)) : Check := do
  createdAt.validate
  each (fun deadline => do
    Timestamp.validate deadline
    rejectIf (deadline ≤ createdAt) "deadlineAt") deadlineAt
  rejectIf (receiptIDs = none) "receiptIDs"
  validateReceiptIDs (receiptIDs.getD [])

section

variable (sha256 : List UInt8 → List UInt8)

/-- What `AttemptRecord.Validate` asks of each kind of destination. `WorkerSetDigest` is `nil` when
an assignment has no Worker. -/
def AttemptRecord.validateDestination (v : AttemptRecord) : Check :=
  let noWorkerSet := ∃ a ∈ v.assignmentPlan.assignments, a.executor.worker = none
  match v.destinationKind with
  | .directLocal =>
    rejectIf (v.assignmentPlan.assignments.map (·.executor.kind) ≠ [.sourceLocal] ∨
      v.state.externalOnly ∨ v.authorizedWorkerSetDigest.isSome ∨ v.computePoolPolicyDigest.isSome ∨
      v.computePoolGrantDigest.isSome ∨ v.computePoolAssignmentSetDigest.isSome ∨
      v.custodyReceiptSigner.isSome) "attempt.directLocal"
  | .fixedWorkers =>
    rejectIf (noWorkerSet ∨ v.authorizedWorkerSetDigest = none ∨ v.state.localOnly ∨
      v.custodyReceiptSigner = none ∨ v.computePoolPolicyDigest.isSome ∨
      v.computePoolGrantDigest.isSome ∨ v.computePoolAssignmentSetDigest.isSome)
      "attempt.fixedWorkers"
  | _ =>
    rejectIf (v.authorizedWorkerSetDigest.isSome ∨ noWorkerSet ∨ v.state.localOnly ∨
      v.custodyReceiptSigner = none ∨ v.computePoolPolicyDigest = none ∨
      v.computePoolGrantDigest = none ∨
      v.computePoolAssignmentSetDigest ≠ some v.assignmentPlan.assignmentSetDigest)
      "attempt.computePool"

def AttemptRecord.validate (v : AttemptRecord) : Check := do
  requireProtocol v.protocolVersion
  all validateOpaqueID [v.id, v.occurrenceID]
  v.executionIdentity.validate
  all validateDigest [v.occurrenceSnapshotDigest, v.operationBindingDigest, v.policySnapshotDigest,
    v.retryPolicyDigest]
  v.sourceReceiptSigner.validate
  requirePositive v.revision "revision"
  requirePositive v.attemptNumber "attemptNumber"
  rejectIf (v.state.unknown ∨ v.destinationKind.unknown) "attempt.state"
  v.assignmentPlan.validate sha256
  rejectIf (v.attemptNumber = 1 ∧
      (v.previousAttemptID.isSome ∨ v.retryErrorID.isSome ∨ v.notBeforeAt.isSome) ∨
    v.attemptNumber ≠ 1 ∧
      (v.previousAttemptID = none ∨ v.retryErrorID = none ∨ v.notBeforeAt = none))
    "attempt.retryLineage"
  each validateOpaqueID v.previousAttemptID
  each validateOpaqueID v.retryErrorID
  each Timestamp.validate v.notBeforeAt
  v.validateDestination
  all (each validateDigest) [v.authorizedWorkerSetDigest, v.computePoolPolicyDigest,
    v.computePoolGrantDigest, v.computePoolAssignmentSetDigest, v.terminalAssignmentOutcomesDigest]
  each ReceiptSignerBinding.validate v.custodyReceiptSigner
  rejectIf (v.state = .settled ∧ v.terminalAssignmentOutcomesDigest = none ∨
    v.state ≠ .settled ∧ v.state ≠ .released ∧ v.terminalAssignmentOutcomesDigest.isSome)
    "terminalAssignmentOutcomesDigest"
  validateLifetime v.createdAt v.deadlineAt v.receiptIDs

end

/-- An attempt that crossed the boundary of its schedule. -/
structure AuthorizedAttempt where
  record : AttemptRecord

/-! ## Assignments -/

structure AssignmentRecord where
  protocolVersion : Int
  (id occurrenceID attemptID : GoString)
  revision : UInt64
  state : ExecutionState
  executor : ExecutorBinding
  itemIDs : List GoString
  (itemSetDigest executionPayloadDigest : GoString)
  (capsuleID capsuleDigest : Option GoString)
  (initialLease currentLease : Option LeaseBinding)
  (initialCancellationFence cancellationFence : UInt64)
  sourceReceiptSigner : ReceiptSignerBinding
  custodyReceiptSigner : Option ReceiptSignerBinding
  createdAt : Timestamp
  deadlineAt : Option Timestamp
  receiptIDs : Option (List GoString)

/-- The checks of an assignment on a Worker: its two leases, its fences and its capsule. -/
def AssignmentRecord.validateWorker (v : AssignmentRecord) : Check :=
  match v.initialLease, v.currentLease with
  | some initial, some current => do
    rejectIf (v.state.localOnly ∨ v.custodyReceiptSigner = none ∨ v.initialCancellationFence = 0 ∨
      v.cancellationFence = 0) "workerState"
    initial.validate
    current.validate
    rejectIf (current.id ≠ initial.id ∨ current.maximumExpiresAt ≠ initial.maximumExpiresAt ∨
      current.revision < initial.revision ∨ current.expiresAt < initial.expiresAt)
      "assignment.lease"
    rejectIf (v.cancellationFence ≠ v.initialCancellationFence ∧
      (v.initialCancellationFence = maxUint64 ∨
        v.cancellationFence ≠ v.initialCancellationFence + 1)) "assignment.cancellationFence"
    if v.state = .prepared then rejectIf (v.capsuleID.isSome ∨ v.capsuleDigest.isSome) "capsule"
    else rejectIf (v.capsuleID = none ∨ v.capsuleDigest = none) "capsule"
  | _, _ => invalid "workerState"

section

variable (sha256 : List UInt8 → List UInt8)

def AssignmentRecord.validate (v : AssignmentRecord) : Check := do
  requireProtocol v.protocolVersion
  all validateOpaqueID [v.id, v.occurrenceID, v.attemptID]
  v.executor.validate
  all validateDigest [v.itemSetDigest, v.executionPayloadDigest]
  v.sourceReceiptSigner.validate
  requirePositive v.revision "revision"
  rejectIf (v.state.unknown ∨ v.state = .settled) "assignment.state"
  rejectIf (v.itemIDs = [] ∨ maximumAssignmentItems < v.itemIDs.length) "itemIDs"
  all validateOpaqueID v.itemIDs
  requireUniqueSorted v.itemIDs "itemIDs"
  rejectIf (v.itemSetDigest ≠ makeAssignmentItemSetDigest sha256 v.itemIDs) "itemSetDigest"
  (if v.executor.kind = .sourceLocal then
    rejectIf (v.state.externalOnly ∨ v.capsuleID.isSome ∨ v.capsuleDigest.isSome ∨
      v.custodyReceiptSigner.isSome ∨ v.initialLease.isSome ∨ v.currentLease.isSome ∨
      v.initialCancellationFence ≠ 0 ∨ v.cancellationFence ≠ 0) "localCapsule"
  else v.validateWorker)
  each validateOpaqueID v.capsuleID
  each validateDigest v.capsuleDigest
  each ReceiptSignerBinding.validate v.custodyReceiptSigner
  validateLifetime v.createdAt v.deadlineAt v.receiptIDs

/-- `AssignmentAuthorization.receiptSubjectDigest`: what a receipt leaves open of the lease is taken
from the initial one. -/
def AssignmentAuthorization.receiptSubjectDigest (v : AssignmentAuthorization)
    (occurrenceID attemptID : GoString) (receipt : ReceiptRecord) : GoString :=
  sha256Digest sha256 "facets.compute-queue.assignment-receipt-subject.v1"
    ([occurrenceID, attemptID, v.assignmentID] ++ v.executor.digestComponents ++ v.itemIDs ++
      [v.itemSetDigest, v.executionPayloadDigest, optionalText v.capsuleID,
        optionalText v.capsuleDigest, receipt.stage.text, optionalText receipt.itemID,
        optional ExecutionOutcome.text receipt.executionOutcome, optionalText receipt.resultDigest,
        optionalText receipt.resultCapsuleDigest, optionalText receipt.errorID,
        optionalText receipt.errorDigest,
        optionalText (receipt.leaseID.or (v.initialLease.map LeaseBinding.id)),
        optional sprintUint64 (receipt.leaseRevision.or (v.initialLease.map LeaseBinding.revision)),
        optional sprintTimestamp
          (receipt.leaseExpiresAt.or (v.initialLease.map LeaseBinding.expiresAt)),
        sprintUint64 receipt.cancellationFence])

def AssignmentRecord.receiptSubjectDigest (v : AssignmentRecord) (receipt : ReceiptRecord) :
    GoString :=
  AssignmentAuthorization.receiptSubjectDigest sha256
    ⟨v.id, v.executor, v.itemIDs, v.itemSetDigest, v.executionPayloadDigest, v.capsuleID,
      v.capsuleDigest, v.initialLease,
        v.initialCancellationFence⟩ v.occurrenceID v.attemptID receipt

end

def AssignmentRecord.expectedSigner (v : AssignmentRecord) (record : ReceiptRecord) :
    Option ReceiptSignerBinding :=
  if record.stage.isLocal then v.executor.sourceLocal.map LocalExecutorBinding.receiptSigner
  else match receiptAuthority record.stage with
    | .sourceDevice => some v.sourceReceiptSigner
    | .jobCustody => v.custodyReceiptSigner
    | .worker => v.executor.worker.map WorkerBinding.receiptSigner
    | _ => none

/-- `matchesLeaseContext` with no expected fence and any revision, as
`validateReceiptTrustWithLeases` calls it. The accepted leases are listed by revision. -/
def AssignmentRecord.matchesLeaseContext (v : AssignmentRecord) (record : ReceiptRecord)
    (acceptedLeases : List LeaseBinding) : Bool :=
  if v.executor.kind = .sourceLocal then decide record.HasNoLease
  else
    match v.currentLease, record.leaseID, record.leaseRevision, record.leaseExpiresAt with
    | some current, some leaseID, some revision, some expiresAt =>
      leaseID == current.id && record.cancellationFence != 0 &&
        match acceptedLeases.find? (·.revision == revision) with
        | none => false
        | some accepted =>
          expiresAt == accepted.expiresAt && decide (accepted.issuedAt ≤ record.recordedAt) &&
          (if record.stage = .leaseExpired then decide (accepted.expiresAt ≤ record.recordedAt)
            else if record.stage ∈ [.waitingForWorker, .workerClaimed, .executionStarted,
                .executionCompleted, .leaseRenewed] then
              decide (record.recordedAt ≤ accepted.expiresAt)
            else true) &&
          decide (record.cancellationFence ≤ v.cancellationFence)
    | _, _, _, _ => false

section

variable (sha256 : List UInt8 → List UInt8)

/-- The leaseRenewed receipts among the receipts of the assignment. -/
def AssignmentRecord.renewals (v : AssignmentRecord) (index : VerifiedReceiptIndex) :
    List VerifiedReceipt :=
  ((v.receiptIDs.getD []).filterMap index.get).filter (·.record.stage == .leaseRenewed)

/-- The key the renewals are sorted by. -/
def VerifiedReceipt.sortRevision (receipt : VerifiedReceipt) : UInt64 :=
  receipt.record.leaseRevision.getD 0

def AssignmentRecord.orderedRenewals (v : AssignmentRecord) (index : VerifiedReceiptIndex) :
    List VerifiedReceipt :=
  (v.renewals index).mergeSort fun a b => decide (a.sortRevision ≤ b.sortRevision)

/-- One turn of the loop of `validatedLeaseHistory`: the lease that the receipt makes of
`previous`. -/
def AssignmentRecord.renew (v : AssignmentRecord) (previous : LeaseBinding)
    (receipt : VerifiedReceipt) : Except ContractError LeaseBinding :=
  let record := receipt.record
  match record.leaseRevision, record.leaseExpiresAt, v.expectedSigner record with
  | some revision, some expiresAt, some signer => do
    rejectIf (record.occurrenceID ≠ v.occurrenceID ∨ record.attemptID ≠ v.attemptID ∨
      record.assignmentID ≠ some v.id ∨ record.stage ≠ .leaseRenewed ∨
      record.leaseID ≠ some previous.id ∨ previous.expiresAt < record.recordedAt ∨
      record.cancellationFence ≠ v.initialCancellationFence ∨
      ¬ receipt.Matches signer (v.receiptSubjectDigest sha256 record)) "assignment.leaseHistory"
    let renewal : LeaseBinding :=
      ⟨previous.id, revision, record.recordedAt, expiresAt, previous.maximumExpiresAt⟩
    renewal.validateRenewal previous
    .ok renewal
  | _, _, _ => invalid "assignment.leaseHistory"

/-- The loop of `validatedLeaseHistory`, after the leases of `history`. -/
def AssignmentRecord.renewAll (v : AssignmentRecord) (previous : LeaseBinding)
    (history : List LeaseBinding) : List VerifiedReceipt → Except ContractError (List LeaseBinding)
  | [] =>
    if v.currentLease = some previous then .ok history else invalid "assignment.leaseHistory"
  | receipt :: rest => do
    let renewal ← v.renew sha256 previous receipt
    if history.any (·.revision == renewal.revision) then duplicateValue "assignment.leaseRevision"
    else AssignmentRecord.renewAll v renewal (history ++ [renewal]) rest

/-- `validatedLeaseHistory`. Renewals of one revision are refused in whatever order the sort leaves
them. -/
def AssignmentRecord.validatedLeaseHistory (v : AssignmentRecord) (index : VerifiedReceiptIndex) :
    Except ContractError (List LeaseBinding) :=
  if v.executor.kind = .sourceLocal then do
    rejectIf (v.initialLease.isSome ∨ v.currentLease.isSome) "assignment.leaseHistory"
    .ok []
  else
    match v.initialLease, v.currentLease with
    | some initial, some _ =>
      v.renewAll sha256 initial [initial] (v.orderedRenewals index)
    | _, _ => invalid "assignment.leaseHistory"

def AssignmentRecord.validateReceiptTrustWithLeases (v : AssignmentRecord)
    (receipt : VerifiedReceipt)
    (acceptedLeases : List LeaseBinding) : Check := do
  let record := receipt.record
  rejectIf (record.occurrenceID ≠ v.occurrenceID ∨ record.attemptID ≠ v.attemptID ∨
    record.assignmentID ≠ some v.id) "receipt.assignmentID"
  match v.expectedSigner record with
  | none => invalid "receipt.signer"
  | some signer => do
    rejectIf (¬ receipt.Matches signer (v.receiptSubjectDigest sha256 record)) "receipt.trust"
    rejectIf (v.matchesLeaseContext record acceptedLeases = false) "receipt.lease"

/-- `assignmentFenceAuthorized`. -/
def AssignmentRecord.fenceAuthorized (v : AssignmentRecord) (authorizedFence : UInt64) : Bool :=
  if v.executor.kind = .sourceLocal then v.cancellationFence == 0
  else
    let next := authorizedFence != maxUint64 && v.cancellationFence == authorizedFence + 1
    if v.state ∈ [.custodyCancellationRequested, .custodyCancellationConfirmed,
        .workerCancellationRequested, .workerCancellationConfirmed, .uncertainTermination] then next
    else if v.state = .released then v.cancellationFence == authorizedFence || next
    else v.cancellationFence == authorizedFence

def AssignmentRecord.validateAuthorizedBy (v : AssignmentRecord) (attempt : AuthorizedAttempt)
    (receipts : List VerifiedReceipt) : Check := do
  v.validate sha256
  let record := attempt.record
  record.validate sha256
  match record.assignmentPlan.assignments.find? (·.assignmentID == v.id) with
  | none => invalid "assignment.authorization"
  | some authorization => do
    rejectIf (v.attemptID ≠ record.id ∨ v.occurrenceID ≠ record.occurrenceID ∨
      ¬ v.executor.same authorization.executor ∨ v.itemIDs ≠ authorization.itemIDs ∨
      v.itemSetDigest ≠ authorization.itemSetDigest ∨
      v.executionPayloadDigest ≠ authorization.executionPayloadDigest ∨
      v.initialLease ≠ authorization.initialLease ∨
      v.initialCancellationFence ≠ authorization.cancellationFence ∨
      v.sourceReceiptSigner ≠ record.sourceReceiptSigner ∨
      v.custodyReceiptSigner ≠ record.custodyReceiptSigner ∨ v.deadlineAt ≠ record.deadlineAt)
      "assignment.authorization"
    rejectIf (v.fenceAuthorized authorization.cancellationFence = false)
      "assignment.cancellationFence"
    rejectIf (v.state ≠ .prepared ∧ (v.capsuleID ≠ authorization.capsuleID ∨
      v.capsuleDigest ≠ authorization.capsuleDigest)) "assignment.capsuleAuthorization"
    let index ← newVerifiedReceiptIndex sha256 receipts
    let acceptedLeases ← v.validatedLeaseHistory sha256 index
    all (fun receiptID =>
      match index.get receiptID with
      | none => invalid "missingTransitionReceipt"
      | some receipt => v.validateReceiptTrustWithLeases sha256 receipt acceptedLeases)
      (v.receiptIDs.getD [])

end

namespace Sample

/-- The UUID text whose last digit is `n`. -/
def id (n : Nat) : GoString := goString "00000000-0000-4000-8000-00000000000" ++ Json.natText n

def digest (n : Nat) : GoString := List.replicate 63 48 ++ Json.natText n

end Sample

end FacetsNode.ComputeQueue
