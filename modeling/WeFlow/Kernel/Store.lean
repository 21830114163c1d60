import WeFlow.Base.Program
import WeFlow.Contracts.Workflow
import WeFlow.Kernel.Policy

/-!
# `Store` — the tables of the durable workflow journal

One structure per table of `workflow_journal_schema.py`, grouped by the part of the kernel that writes
it, each with its uniqueness constraints (`clash`), and the queries the kernel makes of them. A column
that repeats a field of the row's JSON payload is not kept twice. Foreign keys always refer to rows the
writer has read before, so they are left out, as are the evidence tables, which nothing here reads.
-/

namespace WeFlow

/-! ## The journal -/

structure ActivationMaterial where
  workflowId : WorkflowId
  deriving DecidableEq, Repr

structure WorkflowActivation where
  tenantId : String
  workflowId : WorkflowId
  activationId : StableId ActivationMaterial
  caseId : CaseId
  caseRevisionId : CaseRevisionId
  sourceEventId : EventId
  correlationId : String
  slaPolicyId : String
  slaPolicyVersion : String
  slaDeadlineSeconds : Nat
  slaDeadlineAt : Instant
  createdAt : Instant
  deriving DecidableEq, Repr

def WorkflowActivation.identity (a : WorkflowActivation) : WorkflowIdentity :=
  ⟨a.tenantId, a.caseId, a.caseRevisionId, a.workflowId⟩

def WorkflowActivation.clash (a b : WorkflowActivation) : Bool :=
  a.tenantId = b.tenantId ∧ (a.workflowId = b.workflowId ∨ a.activationId = b.activationId ∨
    a.caseId = b.caseId ∧ a.caseRevisionId = b.caseRevisionId)

/-- `activated`, or `checkpoint:<kind>` with `progress` for no kind. -/
inductive RunReason where
  | activated
  | checkpoint (kind : Option TransitionKind)
  deriving DecidableEq, Repr

structure RunMaterial where
  workflowId : WorkflowId
  runSequence : Nat
  reasonCode : RunReason
  deriving DecidableEq, Repr

structure WorkflowRun where
  tenantId : String
  runId : StableId RunMaterial
  workflowId : WorkflowId
  runSequence : Nat
  state : WorkflowState
  runStatus : RunStatus
  reasonCode : RunReason
  createdAt : Instant
  deriving DecidableEq, Repr

def WorkflowRun.clash (a b : WorkflowRun) : Bool :=
  a.tenantId = b.tenantId ∧ (a.runId = b.runId ∨
    a.workflowId = b.workflowId ∧ a.runSequence = b.runSequence)

structure WorkflowCommand where
  tenantId : String
  workflowId : WorkflowId
  commandId : String
  commandType : CommandType
  expectedWorkflowVersion : Nat
  commandPayloadSha256 : Digest CommandPayloadMaterial
  commandFingerprint : Digest CommandFingerprintMaterial
  requestedAt : Instant
  acceptedAt : Instant
  deriving DecidableEq, Repr

def WorkflowCommand.clash (a b : WorkflowCommand) : Bool :=
  a.tenantId = b.tenantId ∧ a.workflowId = b.workflowId ∧ a.commandId = b.commandId

/-- A checkpoint row: its payload with the content hash it claims, and the transition kind. -/
structure Checkpoint where
  record : Sealed CheckpointPayload
  transitionKind : Option TransitionKind
  deriving DecidableEq

def Checkpoint.payload (c : Checkpoint) : CheckpointPayload := c.record.body

def Checkpoint.clash (a b : Checkpoint) : Bool :=
  a.payload.tenantId = b.payload.tenantId ∧
    (a.payload.checkpointId = b.payload.checkpointId ∨
      a.payload.workflowId = b.payload.workflowId ∧
      a.payload.checkpointSequence = b.payload.checkpointSequence)

structure SlaEvent where
  tenantId : String
  slaEventId : StableId ActivationMaterial
  workflowId : WorkflowId
  checkpointId : CheckpointId
  deadlineAt : Instant
  recordedAt : Instant
  deriving DecidableEq, Repr

def SlaEvent.clash (a b : SlaEvent) : Bool :=
  a.tenantId = b.tenantId ∧ (a.slaEventId = b.slaEventId ∨ a.workflowId = b.workflowId)

structure WorkflowProjection where
  tenantId : String
  workflowId : WorkflowId
  caseId : CaseId
  caseRevisionId : CaseRevisionId
  state : WorkflowState
  runStatus : RunStatus
  workflowVersion : Nat
  latestCheckpointId : CheckpointId
  latestCheckpointSequence : Nat
  slaDeadlineAt : Instant
  correlationId : String
  createdAt : Instant
  updatedAt : Instant
  deriving DecidableEq, Repr

def WorkflowProjection.clash (a b : WorkflowProjection) : Bool :=
  a.tenantId = b.tenantId ∧ (a.workflowId = b.workflowId ∨
    a.caseId = b.caseId ∧ a.caseRevisionId = b.caseRevisionId)

structure Journal where
  activations : List WorkflowActivation := []
  runs : List WorkflowRun := []
  commands : List WorkflowCommand := []
  checkpoints : List Checkpoint := []
  slaEvents : List SlaEvent := []
  deriving DecidableEq

/-! ## Ticket effects -/

def SideEffectIntent.clash (a b : SideEffectIntent) : Bool :=
  a.tenantId = b.tenantId ∧ (a.intentId = b.intentId ∨ a.idempotencyKey = b.idempotencyKey ∨
    a.workflowId = b.workflowId ∧ a.operation = b.operation)

def SideEffectObservation.clash (a b : SideEffectObservation) : Bool :=
  a.tenantId = b.tenantId ∧ a.observationId = b.observationId

def SideEffectCompletion.clash (a b : SideEffectCompletion) : Bool :=
  a.tenantId = b.tenantId ∧ (a.completionId = b.completionId ∨ a.intentId = b.intentId)

structure TicketRevision where
  tenantId : String
  ticketId : TicketId
  naturalKey : TicketNaturalKey
  version : Nat
  contentSha256 : TicketStateHash
  operation : TicketOperation
  createdAt : Instant
  deriving DecidableEq, Repr

def TicketRevision.clash (a b : TicketRevision) : Bool :=
  a.tenantId = b.tenantId ∧ a.version = b.version ∧
    (a.ticketId = b.ticketId ∨ a.naturalKey = b.naturalKey)

structure TicketOperationRow where
  tenantId : String
  idempotencyKey : TicketKey
  operation : TicketOperation
  naturalKey : TicketNaturalKey
  expectedVersion : Option Nat
  ticketId : TicketId
  observedVersion : Nat
  outcomeSha256 : TicketOutcomeHash
  createdAt : Instant
  deriving DecidableEq, Repr

def TicketOperationRow.clash (a b : TicketOperationRow) : Bool :=
  a.tenantId = b.tenantId ∧ a.idempotencyKey = b.idempotencyKey

structure TicketTables where
  intents : List SideEffectIntent := []
  observations : List SideEffectObservation := []
  completions : List SideEffectCompletion := []
  revisions : List TicketRevision := []
  operations : List TicketOperationRow := []
  deriving DecidableEq

/-! ## The investigation -/

structure InvestigationActivation where
  tenantId : String
  investigationId : InvestigationId
  workflowId : WorkflowId
  manifest : ContextManifest
  transcriptId : String
  deriving DecidableEq, Repr

def InvestigationActivation.clash (a b : InvestigationActivation) : Bool :=
  a.tenantId = b.tenantId ∧ (a.investigationId = b.investigationId ∨ a.workflowId = b.workflowId ∨
    a.manifest.link.contextManifestId = b.manifest.link.contextManifestId)

structure AgentStepMaterial where
  workflowId : WorkflowId
  stepId : String
  deriving DecidableEq, Repr

structure AgentStep where
  tenantId : String
  agentStepId : StableId AgentStepMaterial
  workflowId : WorkflowId
  action : AgentAction
  deriving DecidableEq, Repr

def AgentStep.clash (a b : AgentStep) : Bool :=
  a.tenantId = b.tenantId ∧ (a.agentStepId = b.agentStepId ∨
    a.workflowId = b.workflowId ∧ a.action.stepId = b.action.stepId)

/-- A stored request; its own link is the one it was validated with. -/
structure ToolRequestRow where
  tenantId : String
  workflowId : WorkflowId
  request : ToolRequest
  deriving DecidableEq, Repr

def ToolRequestRow.clash (a b : ToolRequestRow) : Bool :=
  a.tenantId = b.tenantId ∧ (a.request.toolRequestId = b.request.toolRequestId ∨
    a.workflowId = b.workflowId ∧ a.request.stepId = b.request.stepId ∧
    a.request.toolName = b.request.toolName)

structure ToolResultRow where
  tenantId : String
  workflowId : WorkflowId
  result : ToolResult
  deriving DecidableEq, Repr

def ToolResultRow.clash (a b : ToolResultRow) : Bool :=
  a.tenantId = b.tenantId ∧ (a.result.toolResultId = b.result.toolResultId ∨
    a.result.toolRequestId = b.result.toolRequestId)

structure CandidateRow where
  tenantId : String
  workflowId : WorkflowId
  candidate : ResponseCandidate
  deriving DecidableEq, Repr

def CandidateRow.clash (a b : CandidateRow) : Bool :=
  a.tenantId = b.tenantId ∧ (a.candidate.candidateId = b.candidate.candidateId ∨
    a.workflowId = b.workflowId ∧ a.candidate.candidateSha256 = b.candidate.candidateSha256)

structure OutcomeRow where
  tenantId : String
  workflowId : WorkflowId
  outcome : VerifierOutcome
  deriving DecidableEq, Repr

def OutcomeRow.clash (a b : OutcomeRow) : Bool :=
  a.tenantId = b.tenantId ∧ (a.outcome.verifierOutcomeId = b.outcome.verifierOutcomeId ∨
    a.outcome.candidateId = b.outcome.candidateId)

structure InvestigationTables where
  activations : List InvestigationActivation := []
  agentSteps : List AgentStep := []
  toolRequests : List ToolRequestRow := []
  toolResults : List ToolResultRow := []
  candidates : List CandidateRow := []
  outcomes : List OutcomeRow := []
  deriving DecidableEq

/-! ## Policy and approval -/

structure PolicyActivation where
  tenantId : String
  activationId : StableId ActivationMaterial
  workflowId : WorkflowId
  caseId : CaseId
  caseRevisionId : CaseRevisionId
  sourceCheckpointId : CheckpointId
  policyVersion : String
  deliveryResourceId : String
  dataClassification : DataClassification
  deliveryBudget : Nat
  controllerSubjectId : String
  controllerRole : String
  candidateHash : Sha256Hex
  evidenceHashes : List Sha256Hex
  activatedAt : Instant
  deriving DecidableEq, Repr

def PolicyActivation.clash (a b : PolicyActivation) : Bool :=
  a.tenantId = b.tenantId ∧ (a.activationId = b.activationId ∨ a.workflowId = b.workflowId)

structure GrantRow where
  tenantId : String
  workflowId : WorkflowId
  grant : SealedGrant
  deriving DecidableEq, Repr

def GrantRow.clash (a b : GrantRow) : Bool :=
  a.tenantId = b.tenantId ∧ (a.grant.body.grantId = b.grant.body.grantId ∨
    a.grant.hash = b.grant.hash)

structure GrantStatusMaterial where
  grantId : GrantId
  status : GrantStatus
  deriving DecidableEq, Repr

structure GrantStatusEvent where
  tenantId : String
  grantStatusEventId : StableId GrantStatusMaterial
  grantId : GrantId
  status : GrantStatus
  recordedAt : Instant
  deriving DecidableEq, Repr

def GrantStatusEvent.clash (a b : GrantStatusEvent) : Bool :=
  a.tenantId = b.tenantId ∧ (a.grantStatusEventId = b.grantStatusEventId ∨
    a.grantId = b.grantId ∧ a.status = b.status)

def decisionClash (a b : SealedDecision) : Bool :=
  a.body.tenantId = b.body.tenantId ∧ (a.body.policyDecisionId = b.body.policyDecisionId ∨
    a.body.workflowId = b.body.workflowId ∧ a.body.action = b.body.action ∧
      a.body.policyInputSha256 = b.body.policyInputSha256 ∨ a.hash = b.hash)

def bindingClash (a b : SealedBinding) : Bool :=
  a.body.tenantId = b.body.tenantId ∧
    (a.body.authorizationBindingId = b.body.authorizationBindingId ∨ a.hash = b.hash ∨
      a.body.workflowId = b.body.workflowId ∧ a.body.policyDecisionId = b.body.policyDecisionId)

def ApprovalRequest.clash (a b : ApprovalRequest) : Bool :=
  a.tenantId = b.tenantId ∧ (a.approvalRequestId = b.approvalRequestId ∨
    a.workflowId = b.workflowId)

def approvalClash (a b : SealedApproval) : Bool :=
  a.body.tenantId = b.body.tenantId ∧ (a.body.approvalDecisionId = b.body.approvalDecisionId ∨
    a.body.approvalRequestId = b.body.approvalRequestId ∨ a.hash = b.hash)

structure PolicyTables where
  activations : List PolicyActivation := []
  grants : List GrantRow := []
  grantEvents : List GrantStatusEvent := []
  decisions : List SealedDecision := []
  bindings : List SealedBinding := []
  requests : List ApprovalRequest := []
  approvals : List SealedApproval := []
  deriving DecidableEq

/-! ## Outbound delivery -/

def DeliveryIntent.clash (a b : DeliveryIntent) : Bool :=
  a.tenantId = b.tenantId ∧ (a.intentId = b.intentId ∨ a.idempotencyKey = b.idempotencyKey ∨
    a.workflowId = b.workflowId)

def DeliveryObservation.clash (a b : DeliveryObservation) : Bool :=
  a.tenantId = b.tenantId ∧ a.observationId = b.observationId

def DeliveryCompletion.clash (a b : DeliveryCompletion) : Bool :=
  a.tenantId = b.tenantId ∧ (a.completionId = b.completionId ∨ a.intentId = b.intentId)

structure DeliveryRecord where
  tenantId : String
  deliveryId : DeliveryId
  naturalKey : DeliveryNaturalKey
  version : Nat
  contentSha256 : Sha256Hex
  dataClassification : DataClassification
  createdAt : Instant
  deriving DecidableEq, Repr

def DeliveryRecord.clash (a b : DeliveryRecord) : Bool :=
  a.tenantId = b.tenantId ∧ a.version = b.version ∧
    (a.deliveryId = b.deliveryId ∨ a.naturalKey = b.naturalKey)

structure DeliveryOperation where
  tenantId : String
  idempotencyKey : Digest DeliveryKeyMaterial
  naturalKey : DeliveryNaturalKey
  deliveryId : DeliveryId
  observedVersion : Nat
  contentSha256 : Sha256Hex
  createdAt : Instant
  deriving DecidableEq, Repr

def DeliveryOperation.clash (a b : DeliveryOperation) : Bool :=
  a.tenantId = b.tenantId ∧ a.idempotencyKey = b.idempotencyKey

structure DeliveryTables where
  intents : List DeliveryIntent := []
  observations : List DeliveryObservation := []
  completions : List DeliveryCompletion := []
  records : List DeliveryRecord := []
  operations : List DeliveryOperation := []
  deriving DecidableEq

/-! ## The store -/

/-- The whole SQLite store: the ledger, the journal by parts, and the workflow read model. -/
structure WorkflowStore where
  ledger : LedgerStore := {}
  journal : Journal := {}
  ticket : TicketTables := {}
  investigation : InvestigationTables := {}
  policy : PolicyTables := {}
  delivery : DeliveryTables := {}
  workflowProjection : List WorkflowProjection := []
  deriving DecidableEq

/-- What an operation is run with: the clock, the injected reconciliation timeout, and the order of
    identifiers as text, which depends on their hash values. -/
structure Env where
  now : Instant
  reconciliationTimeout : Bool
  workflowIdLE : WorkflowId → WorkflowId → Bool
  intentIdLE : IntentId → IntentId → Bool

/-- The reason codes of `WorkflowError`; `contractInvalid` is a `ContractValidationError` and `ledger`
    an error of the Case ledger. -/
inductive WorkflowError where
  | notFound | workflowActivationPredecessorInvalid | invalidSyntheticSlaPolicy
  | tenantIdentityMismatch | workflowActivationConflict | workflowActivationFailed
  | workflowCheckpointEffectOverlap | workflowCheckpointPredecessorInvalid
  | workflowCheckpointInvalid | workflowCheckpointFailed | workflowJournalInvalid
  | workflowTransitionNotAllowed | workflowSlaConflict | workflowSlaFailed
  | workflowIntentInvalid | workflowIntentConflict | workflowIntentFailed
  | fixtureTicketOperationFailed | workflowObservationInvalid | workflowObservationConflict
  | workflowObservationFailed | workflowCompletionPredecessorInvalid | workflowCompletionInvalid
  | workflowCompletionConflict | workflowCompletionFailed | workflowStateNotAllowlisted
  | workflowCommandNotAllowlisted | workflowCommandInvalid | workflowCommandConflict
  | workflowVersionConflict | workflowCommandFailed | workflowCommandRecoveryConflict
  | workflowCaseProjectionMismatch
  | investigationTranscriptInvalid | contextManifestInvalid | causationMismatch
  | investigationActivationConflict | investigationPredecessorInvalid
  | investigationCheckpointMismatch | investigationActivationFailed | investigationJournalInvalid
  | investigationStateNotAllowlisted | investigationNotFound | agentActionInvalid
  | agentStepConflict | agentStepPersistFailed | investigationToolContractInvalid
  | toolResultConflict | toolRequestActionMismatch | investigationToolBudgetExceeded
  | toolRequestConflict | toolResultPersistFailed | responseCandidateInvalid
  | responseCandidateConflict | responseCandidateActionMissing | responseCandidatePersistFailed
  | responseCandidateNotFound | verifierOutcomeInvalid | verifierOutcomePersistFailed
  | policyJournalInvalid | policyContinuationPredecessorInvalid | policyContinuationNotAvailable
  | policyFixtureTenantDenied | policyActivationConflict | policyActivationPersistFailed
  | capabilityGrantPersistFailed | policyDecisionPersistFailed | policyDenied
  | authorizationBindingPersistFailed | approvalRequestPersistFailed | approvalActorNotAuthorized
  | approvalDecisionConflict | approvalDecisionNotAvailable | approvalDecisionPersistFailed
  | capabilityGrantNotFound | capabilityGrantRevocationFailed
  | outboundDeliveryIntentInvalid | outboundDeliveryIntentPersistFailed
  | fixtureDeliveryExecuteFailed | outboundDeliveryObservationInvalid
  | outboundDeliveryObservationPersistFailed | outboundDeliveryCompletionPredecessorInvalid
  | outboundDeliveryCompletionInvalid | outboundDeliveryCompletionPersistFailed
  | outboundDeliveryChainInvalid
  | contractInvalid
  | ledger (reason : LedgerError)
  deriving DecidableEq, Repr

/-- A program of the kernel. -/
abbrev Kernel (α : Type) := Prog WorkflowStore WorkflowError α

end WeFlow
