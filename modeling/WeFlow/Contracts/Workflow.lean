import WeFlow.Contracts.Authorization

/-!
# `Workflow` — the contracts of the durable workflow

The payloads of `workflow.py`: checkpoints, commands and the ticket side effects, with the validators of
the checkpoint chain and of the effect chain. The workflow definition version and the effect kind are
constant and left out. A list of intent identifiers is stored sorted and without repetition, so it is a
`Finset` here.
-/

namespace WeFlow

/-! ## Ticket effects -/

inductive TicketOperation where
  | findOrCreate | workflowHandoff
  deriving DecidableEq, Repr

/-- `tenant:case:revision`. -/
structure TicketNaturalKey where
  tenantId : String
  caseId : CaseId
  caseRevisionId : CaseRevisionId
  deriving DecidableEq, Repr

/-- The material of `intended_state_hash`; the content reference is constant. -/
structure TicketStateMaterial where
  workflowId : WorkflowId
  operation : TicketOperation
  deriving DecidableEq, Repr

abbrev TicketStateHash := Digest TicketStateMaterial

/-- The material of an idempotency key; the provider is constant. -/
structure TicketKeyMaterial where
  tenantId : String
  operation : TicketOperation
  naturalKey : TicketNaturalKey
  intendedStateHash : TicketStateHash
  deriving DecidableEq, Repr

abbrev TicketKey := Digest TicketKeyMaterial

structure IntentMaterial where
  workflowId : WorkflowId
  operation : TicketOperation
  idempotencyKey : TicketKey
  deriving DecidableEq, Repr

abbrev IntentId := StableId IntentMaterial

structure SideEffectIntent where
  tenantId : String
  caseId : CaseId
  caseRevisionId : CaseRevisionId
  workflowId : WorkflowId
  checkpointId : CheckpointId
  intentId : IntentId
  operation : TicketOperation
  naturalKey : TicketNaturalKey
  intendedStateHash : TicketStateHash
  idempotencyKey : TicketKey
  evidenceReferences : List EventId
  correlationId : String
  createdAt : Instant
  deriving DecidableEq, Repr

structure TicketMaterial where
  tenantId : String
  naturalKey : TicketNaturalKey
  deriving DecidableEq, Repr

abbrev TicketId := StableId TicketMaterial

/-- The material of `outcome_sha256`. -/
structure TicketOutcomeMaterial where
  ticketId : TicketId
  version : Nat
  naturalKey : TicketNaturalKey
  contentSha256 : TicketStateHash
  deriving DecidableEq, Repr

abbrev TicketOutcomeHash := Digest TicketOutcomeMaterial

inductive TicketReason where
  | reconciliationTimeout | ticketPredecessorMissing | expectedVersionConflict
  deriving DecidableEq, Repr

structure ObservationMaterial where
  intentId : IntentId
  phase : EffectPhase
  status : OutcomeStatus
  ticketId : Option TicketId
  version : Option Nat
  outcomeSha256 : Option TicketOutcomeHash
  reasonCode : Option TicketReason
  deriving DecidableEq, Repr

abbrev ObservationId := StableId ObservationMaterial

structure SideEffectObservation where
  tenantId : String
  caseId : CaseId
  caseRevisionId : CaseRevisionId
  workflowId : WorkflowId
  checkpointId : CheckpointId
  observationId : ObservationId
  intentId : IntentId
  status : OutcomeStatus
  observedTicketId : Option TicketId
  observedVersion : Option Nat
  outcomeSha256 : Option TicketOutcomeHash
  reasonCode : Option TicketReason
  recordedAt : Instant
  deriving DecidableEq, Repr

structure CompletionMaterial where
  intentId : IntentId
  observationId : ObservationId
  deriving DecidableEq, Repr

abbrev CompletionId := StableId CompletionMaterial

structure SideEffectCompletion where
  tenantId : String
  caseId : CaseId
  caseRevisionId : CaseRevisionId
  workflowId : WorkflowId
  checkpointId : CheckpointId
  completionId : CompletionId
  intentId : IntentId
  observationId : ObservationId
  observedTicketId : TicketId
  observedVersion : Nat
  resultSha256 : TicketOutcomeHash
  completedAt : Instant
  deriving DecidableEq, Repr

/-! ## Checkpoints -/

/-- An intent of either effect; the two kinds of identifier have different prefixes. -/
inductive EffectId where
  | ticket (id : IntentId)
  | delivery (id : DeliveryIntentId)
  deriving DecidableEq, Repr

structure InvestigationMaterial where
  workflowId : WorkflowId
  contextManifestId : String
  contextSha256 : Sha256Hex
  deriving DecidableEq, Repr

abbrev InvestigationId := StableId InvestigationMaterial

inductive DenialReason where
  | missing | stale | approval
  deriving DecidableEq, Repr

/-- `causation_event_id`: each constructor is one of the kernel's text forms. -/
inductive CheckpointCause where
  | sourceEvent (eventId : EventId)
  | intent (intentId : IntentId)
  | completion (completionId : CompletionId)
  | command (commandId : String)
  | slaExpired
  | ticketHandoffComplete
  | reconciliationKnownOutcome
  | investigation (investigationId : InvestigationId)
  | verifier (verifierOutcomeId : VerifierOutcomeId)
  | approvalRequest (approvalRequestId : ApprovalRequestId)
  | approval (approvalDecisionId : ApprovalDecisionId)
  | approvalInvalid (approvalDecisionId : ApprovalDecisionId)
  | authorizationDenied (reason : DenialReason)
  | deliveryIntent (intentId : DeliveryIntentId)
  | deliveryCompletion (completionId : DeliveryCompletionId)
  | deliveryReconciliation (intentId : DeliveryIntentId)
  | deliveryReconciled (completionId : DeliveryCompletionId)
  deriving DecidableEq, Repr

structure CheckpointPayload where
  tenantId : String
  caseId : CaseId
  caseRevisionId : CaseRevisionId
  workflowId : WorkflowId
  checkpointId : CheckpointId
  checkpointSequence : Nat
  previousCheckpointId : Option CheckpointId
  currentState : WorkflowState
  resumeState : WorkflowState
  workflowVersion : Nat
  slaDeadlineAt : Instant
  pendingIntentIds : Finset EffectId
  completedIntentIds : Finset EffectId
  causationEventId : CheckpointCause
  correlationId : String
  createdAt : Instant
  deriving DecidableEq

/-- `validate_workflow_checkpoint`; `PAUSED` is no resume state of the schema. -/
def validateWorkflowCheckpoint (p : CheckpointPayload) : Bool :=
  nonEmpty p.tenantId ∧ 1 ≤ p.checkpointSequence ∧ p.resumeState ≠ .paused ∧
  nonEmpty p.correlationId

/-- The four fields every checkpoint or intent of one workflow repeats. -/
structure WorkflowIdentity where
  tenantId : String
  caseId : CaseId
  caseRevisionId : CaseRevisionId
  workflowId : WorkflowId
  deriving DecidableEq, Repr

def CheckpointPayload.identity (p : CheckpointPayload) : WorkflowIdentity :=
  ⟨p.tenantId, p.caseId, p.caseRevisionId, p.workflowId⟩

/-- The loop of `validate_checkpoint_sequence`: what the next checkpoint must continue. -/
def checkpointChainFrom (identity : WorkflowIdentity) :
    Nat → Option CheckpointId → Option Nat → Finset EffectId → List CheckpointId →
      List CheckpointPayload → Bool
  | _, _, _, _, _, [] => true
  | expected, previousId, previousVersion, completed, seen, p :: rest =>
      validateWorkflowCheckpoint p ∧ p.identity = identity ∧ p.checkpointSequence = expected ∧
      p.previousCheckpointId = previousId ∧ p.checkpointId ∉ seen ∧
      p.pendingIntentIds ∩ p.completedIntentIds = ∅ ∧ completed ⊆ p.completedIntentIds ∧
      previousVersion.all (· < p.workflowVersion) ∧
      checkpointChainFrom identity (expected + 1) (some p.checkpointId) (some p.workflowVersion)
        p.completedIntentIds (p.checkpointId :: seen) rest

/-- **`validate_checkpoint_sequence`.** -/
def validateCheckpointSequence : List CheckpointPayload → Bool
  | [] => false
  | p :: rest => checkpointChainFrom p.identity 1 none none ∅ [] (p :: rest)

/-! ## Commands -/

inductive CommandType where
  | pause | resume | cancel
  deriving DecidableEq, Repr

structure CommandPayloadMaterial where
  caseId : CaseId
  commandType : CommandType
  expectedWorkflowVersion : Nat
  deriving DecidableEq, Repr

structure CommandFingerprintMaterial where
  commandId : String
  commandType : CommandType
  expectedWorkflowVersion : Nat
  commandPayloadSha256 : Digest CommandPayloadMaterial
  deriving DecidableEq, Repr

/-- `validate_workflow_command`: a negative version, which the schema refuses, has no value here. -/
def validateWorkflowCommand (tenantId commandId : String) : Bool :=
  nonEmpty tenantId ∧ nonEmpty commandId

/-! ## The effect chain -/

structure SlaPolicy where
  tenantId : String
  policyId : String
  policyVersion : String
  deadlineSeconds : Nat
  createdAt : TimeText
  deriving DecidableEq, Repr

def validateSyntheticSlaPolicy (p : SlaPolicy) : Bool :=
  nonEmpty p.tenantId ∧ nonEmpty p.policyId ∧ nonEmpty p.policyVersion ∧
  1 ≤ p.deadlineSeconds ∧ p.deadlineSeconds ≤ 604800 ∧ p.createdAt.isPresent

def validateSideEffectIntent (i : SideEffectIntent) : Bool :=
  nonEmpty i.tenantId ∧ i.evidenceReferences ≠ [] ∧ nonEmpty i.correlationId

def validateSideEffectObservation (o : SideEffectObservation) : Bool :=
  nonEmpty o.tenantId ∧ o.observedVersion.all (1 ≤ ·)

def validateSideEffectCompletion (c : SideEffectCompletion) : Bool :=
  nonEmpty c.tenantId ∧ 1 ≤ c.observedVersion

def SideEffectIntent.identity (i : SideEffectIntent) : WorkflowIdentity :=
  ⟨i.tenantId, i.caseId, i.caseRevisionId, i.workflowId⟩

/-- `validate_side_effect_intents`. -/
def validateSideEffectIntents (intents : List SideEffectIntent) : Bool :=
  (∀ i ∈ intents, validateSideEffectIntent i) ∧
  (intents.map (·.identity)).all (fun x => intents.head?.all (·.identity = x)) ∧
  (intents.map (·.intentId)).Nodup ∧ (intents.map (·.idempotencyKey)).Nodup

def SideEffectObservation.linked (o : SideEffectObservation) (i : SideEffectIntent) : Bool :=
  validateSideEffectObservation o ∧
  (o.tenantId, o.caseId, o.caseRevisionId, o.workflowId, o.checkpointId) =
    (i.tenantId, i.caseId, i.caseRevisionId, i.workflowId, i.checkpointId) ∧
  nonEmpty i.tenantId ∧ o.intentId = i.intentId

def SideEffectCompletion.linked (c : SideEffectCompletion) (i : SideEffectIntent)
    (observations : List SideEffectObservation) : Bool :=
  validateSideEffectCompletion c ∧
  (c.tenantId, c.caseId, c.caseRevisionId, c.workflowId, c.checkpointId) =
    (i.tenantId, i.caseId, i.caseRevisionId, i.workflowId, i.checkpointId) ∧
  nonEmpty i.tenantId ∧ c.intentId = i.intentId ∧
  (observations.find? fun o => o.observationId = c.observationId ∧ o.status = .present).any
    fun o => o.observedTicketId = some c.observedTicketId ∧
      o.observedVersion = some c.observedVersion ∧ o.outcomeSha256 = some c.resultSha256

/-- **`validate_side_effect_chain`.** -/
def validateSideEffectChain (i : SideEffectIntent) (observations : List SideEffectObservation)
    (completions : List SideEffectCompletion) : Bool :=
  validateSideEffectIntent i ∧ completions.length ≤ 1 ∧
  (observations.map (·.observationId)).Nodup ∧
  (∀ o ∈ observations, o.linked i) ∧ ∀ c ∈ completions, c.linked i observations

end WeFlow
