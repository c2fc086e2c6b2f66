import FacetsNode.ComputeQueue.Assignment

/-!
# Items and their executions

An item of an occurrence is executed once for each attempt that retries it. `ItemRecord.validate`
says which records are well formed, and three functions accept a next revision of a record: the
general update, the update that settles an unconfirmed cancellation, and the append of a retry.
`reconcileReport` counts a list of items.
-/

namespace FacetsNode.ComputeQueue

inductive ItemAttemptOutcome where
  | admissionRejected
  | succeeded
  | failedExecution
  | invalidResult
  | cancelledBeforeDisclosure
  | cancelledAfterDisclosure
  | other (text : GoString)
  deriving DecidableEq

def ItemAttemptOutcome.unknown : ItemAttemptOutcome → Bool
  | .other _ => true
  | _ => false

inductive ItemDisposition where
  | applied
  | skippedSourceMissing
  | skippedSourceMissingBeforeDisclosure
  | skippedSourceChangedBeforeDisclosure
  | resultNotAppliedSourceMissing
  | resultNotAppliedSourceChanged
  | failedPreparation
  | failedExecution
  | invalidResult
  | cancelledBeforeDisclosure
  | cancelledAfterDisclosure
  | other (text : GoString)
  deriving DecidableEq

def ItemDisposition.unknown : ItemDisposition → Bool
  | .other _ => true
  | _ => false

/-! ## Executions -/

structure ItemExecutionRecord where
  protocolVersion : Int
  revision : UInt64
  (occurrenceID itemID : GoString)
  destinationKind : DestinationKind
  attemptID : GoString
  attemptNumber : UInt64
  assignmentID : GoString
  workerID : Option GoString
  (executionInputCommittedAt disclosureCommittedAt custodyAcceptedAt : Option Timestamp)
  (resultCompletedAt terminalAt : Option Timestamp)
  resultDigest : Option GoString
  cancellationUnconfirmed : Bool
  outcome : Option ItemAttemptOutcome
  errorID : Option GoString
  deriving DecidableEq

/-- The loop over the milestones: those that are set do not go back. -/
def orderedTimes (previous : Option Timestamp) : List (Option Timestamp) → Check
  | [] => .ok ()
  | none :: rest => orderedTimes previous rest
  | some current :: rest => do
    current.validate
    rejectIf (∃ earlier ∈ previous, current < earlier) "itemExecution.timestamps"
    orderedTimes (some current) rest

namespace ItemExecutionRecord

/-- The `switch` over the outcome. -/
def validateOutcome (v : ItemExecutionRecord) : Check :=
  match v.outcome with
  | none => rejectIf v.errorID.isSome "itemExecution.errorID"
  | some .admissionRejected =>
    rejectIf (v.executionInputCommittedAt.isSome ∨ v.disclosureCommittedAt.isSome ∨
      v.custodyAcceptedAt.isSome ∨ v.resultCompletedAt.isSome ∨ v.errorID = none)
      "itemExecution.admissionRejected"
  | some .succeeded =>
    rejectIf (v.resultCompletedAt = none ∨ v.resultDigest = none ∨ v.errorID.isSome)
      "itemExecution.succeeded"
  | some .failedExecution =>
    rejectIf (v.executionInputCommittedAt = none ∨ v.destinationKind ≠ .directLocal ∧
      (v.disclosureCommittedAt = none ∨ v.custodyAcceptedAt = none) ∨
      v.resultCompletedAt.isSome ∨ v.errorID = none) "itemExecution.failedExecution"
  | some .invalidResult =>
    rejectIf (v.resultCompletedAt = none ∨ v.resultDigest = none ∨ v.errorID = none)
      "itemExecution.invalidResult"
  | some .cancelledBeforeDisclosure =>
    rejectIf (v.disclosureCommittedAt.isSome ∨ v.custodyAcceptedAt.isSome ∨
      v.resultCompletedAt.isSome ∨ v.errorID.isSome) "itemExecution.cancelledBeforeDisclosure"
  | some .cancelledAfterDisclosure =>
    rejectIf (v.destinationKind = .directLocal ∨ v.disclosureCommittedAt = none ∨
      v.resultCompletedAt.isSome ∨ v.errorID.isSome) "itemExecution.cancelledAfterDisclosure"
  | some (.other _) => invalid "itemExecution.outcome"

/-- `ItemExecutionRecord.Validate`. An outcome outside the enumeration is refused before the fields
after it are looked at. -/
def validate (v : ItemExecutionRecord) : Check := do
  requireProtocol v.protocolVersion
  requirePositive v.revision "revision"
  all validateOpaqueID [v.occurrenceID, v.itemID, v.attemptID, v.assignmentID]
  rejectIf v.destinationKind.unknown "itemExecution.destinationKind"
  requirePositive v.attemptNumber "itemExecution.attemptNumber"
  each validateOpaqueID v.workerID
  each validateDigest v.resultDigest
  each validateOpaqueID v.errorID
  rejectIf (∃ outcome ∈ v.outcome, outcome.unknown) "itemExecution.outcome"
  (if v.destinationKind = .directLocal then
    rejectIf (v.workerID.isSome ∨ v.disclosureCommittedAt.isSome ∨ v.custodyAcceptedAt.isSome)
      "itemExecution.directLocal"
  else rejectIf (v.workerID = none) "itemExecution.workerID")
  rejectIf (v.disclosureCommittedAt.isSome ∧ v.executionInputCommittedAt = none)
    "itemExecution.disclosureCommittedAt"
  rejectIf (v.custodyAcceptedAt.isSome ∧ v.disclosureCommittedAt = none)
    "itemExecution.custodyAcceptedAt"
  rejectIf (v.resultCompletedAt.isSome ∧ v.executionInputCommittedAt = none)
    "itemExecution.resultCompletedAt"
  rejectIf (¬ (v.resultCompletedAt = none ↔ v.resultDigest = none) ∨
    ¬ (v.terminalAt = none ↔ v.outcome = none)) "itemExecution.terminal"
  rejectIf (v.destinationKind ≠ .directLocal ∧ v.resultCompletedAt.isSome ∧
    v.custodyAcceptedAt = none) "itemExecution.externalResultWithoutCustody"
  rejectIf (v.cancellationUnconfirmed = true ∧ (v.outcome.isSome ∨
    v.executionInputCommittedAt = none ∨ v.destinationKind ≠ .directLocal ∧
      v.disclosureCommittedAt = none)) "itemExecution.cancellationUnconfirmed"
  v.validateOutcome
  orderedTimes none [v.executionInputCommittedAt, v.disclosureCommittedAt, v.custodyAcceptedAt,
    v.resultCompletedAt, v.terminalAt]

def authorizesRetry (v : ItemExecutionRecord) : Prop :=
  v.outcome = some .admissionRejected ∨ v.outcome = some .failedExecution

instance (v : ItemExecutionRecord) : Decidable v.authorizesRetry :=
  inferInstanceAs (Decidable (_ ∨ _))

/-- The two records are revisions of one execution, the first right after the second. -/
abbrev Succeeds (v previous : ItemExecutionRecord) : Prop :=
  v.occurrenceID = previous.occurrenceID ∧ v.itemID = previous.itemID ∧
    v.destinationKind = previous.destinationKind ∧ v.attemptID = previous.attemptID ∧
    v.attemptNumber = previous.attemptNumber ∧ v.assignmentID = previous.assignmentID ∧
    v.workerID = previous.workerID ∧ previous.revision ≠ maxUint64 ∧
    v.revision = previous.revision + 1

def validateUpdateFrom (v previous : ItemExecutionRecord) : Check := do
  v.validate
  rejectIf (¬ v.Succeeds previous) "itemExecution.identity"
  rejectIf (previous.executionInputCommittedAt.isSome ∧
    v.executionInputCommittedAt ≠ previous.executionInputCommittedAt)
    "itemExecution.executionInputCommittedAt"
  rejectIf (previous.disclosureCommittedAt.isSome ∧
    v.disclosureCommittedAt ≠ previous.disclosureCommittedAt) "itemExecution.disclosureCommittedAt"
  rejectIf (previous.custodyAcceptedAt.isSome ∧ v.custodyAcceptedAt ≠ previous.custodyAcceptedAt)
    "itemExecution.custodyAcceptedAt"
  rejectIf (previous.resultCompletedAt.isSome ∧ (v.resultCompletedAt ≠ previous.resultCompletedAt ∨
    v.resultDigest ≠ previous.resultDigest)) "itemExecution.result"
  rejectIf (previous.cancellationUnconfirmed = true ∧ v.cancellationUnconfirmed = false)
    "itemExecution.cancellationUnconfirmed"
  rejectIf previous.outcome.isSome "itemExecution.terminal"

def validateCancellationReconciliationFrom (v previous : ItemExecutionRecord) : Check := do
  v.validate
  let expectedOutcome := if v.destinationKind = .directLocal then
    ItemAttemptOutcome.cancelledBeforeDisclosure else .cancelledAfterDisclosure
  rejectIf (¬ v.Succeeds previous ∨
    v.executionInputCommittedAt ≠ previous.executionInputCommittedAt ∨
    v.disclosureCommittedAt ≠ previous.disclosureCommittedAt ∨
    v.custodyAcceptedAt ≠ previous.custodyAcceptedAt ∨
    v.resultCompletedAt ≠ previous.resultCompletedAt ∨ v.resultDigest ≠ previous.resultDigest ∨
    previous.cancellationUnconfirmed = false ∨ v.cancellationUnconfirmed = true ∨
    previous.outcome.isSome ∨ v.outcome ≠ some expectedOutcome ∨ v.errorID.isSome)
    "itemExecution.cancellationReconciliation"

end ItemExecutionRecord

/-! ## Items -/

structure FacetsObjectID where
  (providerRootURI kind sourceID : GoString)
  deriving DecidableEq

/-- `validObjectKind`. -/
def objectKinds : List String :=
  ["canonical_place", "provider_place", "social_post", "discussion_forum", "media_item",
    "media_item_collection", "media_stream", "calendar", "unified_calendar_event",
    "provider_calendar_event", "provider_reminder", "unified_life_event", "provider_life_event",
    "unified_person", "provider_person", "persona", "commerce_order", "commerce_product",
      "web_link",
    "web_link_visit", "web_link_bookmark", "web_link_bookmark_folder", "web_search",
    "short_message_thread", "short_message", "journal_entry", "note", "note_folder", "long_message",
    "mailbox", "ai_conversation", "ai_interaction", "ai_event", "dataset", "home_automation_event",
    "personality_test_result", "document", "structured_text_work", "structured_text_reading",
    "fitness", "financial_balance", "financial_transaction", "financial_record", "health_record",
    "education_record", "government_record", "annotation", "text", "semantic_passage"]

namespace FacetsObjectID

def rawValue (v : FacetsObjectID) : GoString :=
  goString "facets-object-id:v1:" ++ Base64Url.encode v.providerRootURI ++ [58] ++ v.kind ++ [58] ++
    Base64Url.encode v.sourceID

/-- `hasURLComponentsCompatibleScheme`: a letter, then letters, digits and `+-.`, up to a colon. -/
def hasScheme (value : GoString) : Bool :=
  let letter (b : UInt8) : Bool := (65 ≤ b && b ≤ 90) || (97 ≤ b && b ≤ 122)
  let scheme := value.takeWhile (· != 58)
  58 ∈ value && scheme.head?.any letter &&
    scheme.all fun b => letter b || (48 ≤ b && b ≤ 57) || b ∈ [43, 45, 46]

def validate (v : FacetsObjectID) : Check := do
  rejectIf ((∃ text ∈ [v.providerRootURI, v.sourceID], text = [] ∨
      ¬ (Utf8.valid text ∧ Utf8.trimmed text) ∨ 0 ∈ text ∨ 16384 < text.length) ∨
    v.kind ∉ objectKinds.map goString) "objectID"
  rejectIf (hasScheme v.providerRootURI = false ∨ 32768 < v.rawValue.length)
    "objectID.providerRootURI"

end FacetsObjectID

structure ItemRecord where
  protocolVersion : Int
  (id occurrenceID : GoString)
  revision : UInt64
  destinationKind : DestinationKind
  sourceObjectID : FacetsObjectID
  (sourceRevision sourceFingerprint : Option GoString)
  preparedAt : Option Timestamp
  executions : Option (List ItemExecutionRecord)
  terminalAt : Option Timestamp
  applicationReceiptID : Option GoString
  disposition : Option ItemDisposition
  errorID : Option GoString

namespace ItemRecord

/-- The executions, `nil` being none. -/
def history (v : ItemRecord) : List ItemExecutionRecord := v.executions.getD []

def currentExecution (v : ItemRecord) : Option ItemExecutionRecord := v.history.getLast?

/-- The loop over the executions, from position `index`. -/
def validateExecutions (v : ItemRecord) (index : Nat) : List ItemExecutionRecord → Check
  | [] => .ok ()
  | execution :: rest => do
    execution.validate
    rejectIf (execution.occurrenceID ≠ v.occurrenceID ∨ execution.itemID ≠ v.id ∨
      execution.destinationKind ≠ v.destinationKind ∨
      execution.attemptNumber ≠ UInt64.ofNat (index + 1)) "item.executions.identity"
    rejectIf (rest ≠ [] ∧ (¬ execution.authorizesRetry ∨ execution.cancellationUnconfirmed = true))
      "item.executions.retryLineage"
    validateExecutions v (index + 1) rest

def validateDisposition (v : ItemRecord) : Check :=
  let current := v.currentExecution
  let input := current.bind (·.executionInputCommittedAt)
  let disclosure := current.bind (·.disclosureCommittedAt)
  let custody := current.bind (·.custodyAcceptedAt)
  let completed := current.bind (·.resultCompletedAt)
  let result := current.bind (·.resultDigest)
  let outcome := current.bind (·.outcome)
  match v.disposition with
  | none | some .applied | some (.other _) => .ok ()
  | some .skippedSourceMissing =>
    rejectIf (v.preparedAt.isSome ∨ current.isSome) "skippedSourceMissing"
  | some .skippedSourceMissingBeforeDisclosure | some .skippedSourceChangedBeforeDisclosure =>
    rejectIf (v.preparedAt = none ∨ input.isSome ∨ disclosure.isSome ∨ custody.isSome ∨
      completed.isSome ∨ result.isSome) "skippedBeforeDisclosure"
  | some .resultNotAppliedSourceMissing | some .resultNotAppliedSourceChanged =>
    rejectIf (input = none ∨ completed = none ∨ result = none ∨ outcome ≠ some .succeeded)
      "resultNotApplied"
  | some .failedPreparation =>
    rejectIf (input.isSome ∨ disclosure.isSome ∨ custody.isSome ∨ completed.isSome ∨
      result.isSome ∨ current.isSome ∧ outcome ≠ some .admissionRejected)
      "terminalBeforeDisclosure"
  | some .cancelledBeforeDisclosure =>
    rejectIf (disclosure.isSome ∨ custody.isSome ∨ completed.isSome ∨ result.isSome ∨
      current.isSome ∧ outcome ≠ some .cancelledBeforeDisclosure) "cancelledBeforeDisclosure"
  | some .failedExecution =>
    rejectIf (input = none ∨ completed.isSome ∨ result.isSome ∨ outcome ≠ some .failedExecution ∨
      current.bind (·.errorID) ≠ v.errorID) "failedExecution"
  | some .cancelledAfterDisclosure =>
    rejectIf (v.destinationKind = .directLocal ∨ disclosure = none ∨
      outcome ≠ some .cancelledAfterDisclosure) "terminalAfterDisclosure"
  | some .invalidResult =>
    rejectIf (input = none ∨ completed = none ∨ result = none ∨ outcome ≠ some .invalidResult ∨
      current.bind (·.errorID) ≠ v.errorID) "invalidResult"

def validate (v : ItemRecord) : Check := do
  requireProtocol v.protocolVersion
  all validateOpaqueID [v.id, v.occurrenceID]
  requirePositive v.revision "revision"
  rejectIf v.destinationKind.unknown "item.destinationKind"
  v.sourceObjectID.validate
  each (requireNonempty · "sourceRevision") v.sourceRevision
  each validateDigest v.sourceFingerprint
  rejectIf (¬ (v.preparedAt = none ↔ v.sourceFingerprint = none)) "sourceFingerprint"
  rejectIf (v.executions = none ∨ maximumRetries + 1 < v.history.length) "item.executions"
  v.validateExecutions 0 v.history
  rejectIf (¬ (v.history.map (·.attemptID)).Nodup) "item.executions.attemptID"
  rejectIf (v.history ≠ [] ∧ v.preparedAt = none) "item.executions.preparedAt"
  rejectIf (¬ (v.disposition = none ↔ v.terminalAt = none)) "terminalAt"
  rejectIf (∃ disposition ∈ v.disposition, disposition.unknown) "disposition"
  each validateOpaqueID v.errorID
  rejectIf (¬ (v.disposition ∈ [some .failedPreparation, some .failedExecution,
    some .invalidResult] ↔
    v.errorID.isSome)) "item.errorID"
  each validateOpaqueID v.applicationReceiptID
  (if v.disposition = some .applied then
    rejectIf (v.applicationReceiptID = none ∨ ¬ ∃ current ∈ v.currentExecution,
      current.resultCompletedAt.isSome ∧ current.resultDigest.isSome ∧
        current.outcome = some .succeeded) "applied"
  else rejectIf v.applicationReceiptID.isSome "applicationReceiptID")
  v.validateDisposition
  each Timestamp.validate v.preparedAt
  each (fun terminal => do
    Timestamp.validate terminal
    rejectIf (∃ prepared ∈ v.preparedAt, terminal < prepared) "terminalAt"
    rejectIf (∃ ended ∈ v.currentExecution.bind (·.terminalAt), terminal < ended) "terminalAt")
    v.terminalAt

/-! ## Accepted updates -/

/-- The executions in an update: as many as before, those before the last being the same and the
last the same or a revision of it, or the first one. -/
def validateHistory (v previous : ItemRecord) (allowCancellationReconciliation : Bool) : Check :=
  if v.history.length = previous.history.length then
    match v.currentExecution, previous.currentExecution with
    | some current, some prior => do
      rejectIf (v.history.dropLast ≠ previous.history.dropLast) "item.executions.history"
      if current = prior then .ok ()
      else if allowCancellationReconciliation then
        current.validateCancellationReconciliationFrom prior
      else current.validateUpdateFrom prior
    | _, _ => .ok ()
  else
    rejectIf (previous.history ≠ [] ∨ v.history.map (·.attemptNumber) ≠ [1]) "item.executions"

/-- `validateUpdateFrom`. -/
def validateUpdate (v previous : ItemRecord) (allowCancellationReconciliation : Bool) : Check := do
  v.validate
  rejectIf (v.id ≠ previous.id ∨ v.occurrenceID ≠ previous.occurrenceID ∨
    v.destinationKind ≠ previous.destinationKind ∨
      v.sourceObjectID ≠ previous.sourceObjectID) "item"
  rejectIf (previous.revision = maxUint64 ∨ v.revision ≠ previous.revision + 1) "item.revision"
  v.validateHistory previous allowCancellationReconciliation
  rejectIf (previous.disposition.isSome ∧ v.disposition ≠ previous.disposition) "disposition"
  rejectIf (previous.preparedAt.isSome ∧ (v.sourceRevision ≠ previous.sourceRevision ∨
    v.sourceFingerprint ≠ previous.sourceFingerprint ∨ v.preparedAt ≠ previous.preparedAt))
    "preparedSnapshot"
  each (fun prior => do
    let current := v.currentExecution
    rejectIf (prior.executionInputCommittedAt.isSome ∧
      (current.map (fun e => (e.attemptID, e.assignmentID, e.workerID)) ≠
        some (prior.attemptID, prior.assignmentID, prior.workerID) ∨
        v.sourceFingerprint ≠ previous.sourceFingerprint)) "executionInput"
    rejectIf (prior.executionInputCommittedAt.isSome ∧
      current.bind (·.executionInputCommittedAt) ≠ prior.executionInputCommittedAt)
      "executionInputCommittedAt"
    rejectIf (prior.disclosureCommittedAt.isSome ∧
      current.bind (·.disclosureCommittedAt) ≠ prior.disclosureCommittedAt) "disclosureCommittedAt"
    rejectIf (prior.custodyAcceptedAt.isSome ∧
      current.bind (·.custodyAcceptedAt) ≠ prior.custodyAcceptedAt) "custodyAcceptedAt"
    rejectIf (prior.resultCompletedAt.isSome ∧
      (current.bind (·.resultCompletedAt) ≠ prior.resultCompletedAt ∨
        current.bind (·.resultDigest) ≠ prior.resultDigest)) "completedResult"
    rejectIf (prior.cancellationUnconfirmed = true ∧
      ¬ current.any (·.cancellationUnconfirmed) ∧ allowCancellationReconciliation = false)
      "cancellationUnconfirmed") previous.currentExecution
  rejectIf previous.disposition.isSome "terminalItem"

def validateUpdateFrom (v previous : ItemRecord) : Check := v.validateUpdate previous false

/-- `ValidateRetryAppendFrom`: a further execution, in the attempt that retries the last one. -/
def validateRetryAppendFrom (v previous : ItemRecord)
    (authorizedBy : AuthorizedAttempt) : Check := do
  v.validate
  let attempt := authorizedBy.record
  rejectIf (v.id ≠ previous.id ∨ v.occurrenceID ≠ previous.occurrenceID ∨
    v.destinationKind ≠ previous.destinationKind ∨ v.sourceObjectID ≠ previous.sourceObjectID ∨
    v.sourceRevision ≠ previous.sourceRevision ∨
    v.sourceFingerprint ≠ previous.sourceFingerprint ∨ v.preparedAt ≠ previous.preparedAt ∨
    previous.revision = maxUint64 ∨ v.revision ≠ previous.revision + 1 ∨
    previous.disposition.isSome ∨ v.disposition.isSome ∨ v.terminalAt.isSome ∨
    v.applicationReceiptID.isSome ∨ v.errorID.isSome ∨
    v.history.length ≠ previous.history.length + 1 ∨ v.history.dropLast ≠ previous.history)
    "item.retryAppend"
  match previous.currentExecution, v.currentExecution with
  | some prior, some current => do
    rejectIf (¬ prior.authorizesRetry ∨ prior.cancellationUnconfirmed = true ∨
      prior.attemptNumber = maxUint64 ∨ current.attemptNumber ≠ prior.attemptNumber + 1 ∨
      current.attemptID ≠ attempt.id ∨ current.attemptNumber ≠ attempt.attemptNumber ∨
      current.occurrenceID ≠ attempt.occurrenceID ∨ current.itemID ≠ v.id ∨
      current.outcome.isSome ∨ current.executionInputCommittedAt.isSome ∨
      current.disclosureCommittedAt.isSome ∨ current.custodyAcceptedAt.isSome ∨
      current.resultCompletedAt.isSome ∨ current.cancellationUnconfirmed = true ∨
      attempt.previousAttemptID ≠ some prior.attemptID ∨ attempt.retryErrorID = none ∨
      attempt.retryErrorID ≠ prior.errorID) "item.retryAppend"
    match attempt.assignmentPlan.assignments.find? (·.assignmentID == current.assignmentID) with
    | none => invalid "item.retryAppend"
    | some authorization => do
      rejectIf (v.id ∉ authorization.itemIDs) "item.retryAppend"
      rejectIf (current.workerID ≠ authorization.executor.worker.map WorkerBinding.workerID)
        "item.retryAppend"
  | _, _ => invalid "item.retryAppend"

end ItemRecord

/-! ## Confirmed cancellations -/

/-- `receiptStagesByAssignment` and a look into it. -/
def stagesOf (index : VerifiedReceiptIndex) (ids : List GoString) (assignmentID : GoString) :
    List ReceiptStage :=
  ((ids.filterMap index.get).filter (·.record.assignmentID == some assignmentID)).map
    (·.record.stage)

def containsAnyReceiptStage (stages candidates : List ReceiptStage) : Bool :=
  candidates.any (· ∈ stages)

/-- `requireOccurrenceCancellationEvidence` for the assignments that are required or take part. -/
def requireOccurrenceCancellationEvidence (destinationKind : DestinationKind)
    (occurrenceID : GoString) (required durable supporting : List GoString)
    (index : VerifiedReceiptIndex) : Check := do
  rejectIf (maximumItems < required.length ∨ maximumAssignments < required.dedup.length)
    "requiredAssignmentIDs"
  rejectIf (∃ id ∈ durable ++ supporting,
    ¬ ∃ receipt ∈ index.get id, receipt.record.occurrenceID = occurrenceID) "missingTransitionReceipt"
  let isLocal := destinationKind = .directLocal
  let workerStages : List ReceiptStage := [.workerClaimed, .executionStarted, .executionCompleted]
  let custodyStages : List ReceiptStage := [.custodyAccepted, .waitingForWorker, .resultCustodied]
  let participating := (durable.filterMap index.get).filterMap (·.record.assignmentID)
  all (fun assignmentID =>
    let history := stagesOf index durable assignmentID
    let confirmations := stagesOf index supporting assignmentID
    if isLocal then
      rejectIf ((assignmentID ∈ required ∨
          containsAnyReceiptStage history [.localExecutionStarted, .localExecutionCompleted]) ∧
        ¬ containsAnyReceiptStage confirmations [.localCancellationConfirmed])
        "missingTransitionReceipt"
    else do
      let workerParticipated := containsAnyReceiptStage history workerStages
      rejectIf ((workerParticipated ∨ assignmentID ∈ required ∨
          containsAnyReceiptStage history custodyStages) ∧
        ¬ containsAnyReceiptStage confirmations [.custodyCancellationConfirmed])
        "missingTransitionReceipt"
      rejectIf (workerParticipated ∧
        ¬ containsAnyReceiptStage confirmations [.workerCancellationConfirmed])
        "missingTransitionReceipt") (required ++ participating)

/-- `ValidateReconciledUpdateFrom`: everybody who could still hold the bytes has confirmed. -/
def ItemRecord.validateReconciledUpdateFrom (sha256 : List UInt8 → List UInt8)
    (v previous : ItemRecord) (assignment : AssignmentRecord) (receipts : List VerifiedReceipt) :
    Check := do
  let index ← newVerifiedReceiptIndex sha256 receipts
  let isLocal := v.destinationKind = .directLocal
  let expectedDisposition := if isLocal then ItemDisposition.cancelledBeforeDisclosure
    else .cancelledAfterDisclosure
  match previous.currentExecution, v.currentExecution with
  | some prior, some current => do
    rejectIf (prior.cancellationUnconfirmed = false ∨ current.cancellationUnconfirmed = true ∨
      v.disposition ≠ some expectedDisposition ∨ assignment.id ≠ current.assignmentID ∨
      assignment.attemptID ≠ current.attemptID ∨ v.id ∉ assignment.itemIDs)
      "cancellationReconciliation"
    let ids := assignment.receiptIDs.getD []
    rejectIf (∃ id ∈ ids, ¬ ∃ receipt ∈ index.get id,
      ∃ signer ∈ assignment.expectedSigner receipt.record,
        receipt.record.attemptID = assignment.attemptID ∧
        receipt.record.assignmentID = some assignment.id ∧
        receipt.Matches signer (assignment.receiptSubjectDigest sha256 receipt.record))
      "missingTransitionReceipt"
    let supporting := ids.filter fun id => (index.get id).any fun receipt =>
      receipt.record.stage ∈ [.custodyCancellationConfirmed, .workerCancellationConfirmed,
        .localCancellationConfirmed]
    let stages := stagesOf index supporting assignment.id
    rejectIf (isLocal ∧ ¬ containsAnyReceiptStage stages [.localCancellationConfirmed] ∨
      ¬ isLocal ∧ (¬ containsAnyReceiptStage stages [.custodyCancellationConfirmed] ∨
        current.workerID.isSome ∧ ¬ containsAnyReceiptStage stages [.workerCancellationConfirmed]))
      "missingTransitionReceipt"
    requireOccurrenceCancellationEvidence v.destinationKind v.occurrenceID [assignment.id] ids
      supporting index
    v.validateUpdate previous true
  | _, _ => invalid "cancellationReconciliation"

end FacetsNode.ComputeQueue
