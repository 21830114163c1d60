import Mathlib.Data.List.Sort
import WeFlow.Kernel.Store

/-!
# `Source` — validating the journal and rebuilding the workflow read model

The queries of the journal and the validators behind `rebuild_workflow_projection`: for each activation
the checkpoint chain, runs, commands, intents and effects (`validateWorkflowSource`), the investigation
(`validateInvestigationSource`) and the policy chain (`validateChange4Source`). Where the order in which
rows are visited decides nothing, the table's own order stands for the query's.
-/

namespace WeFlow

open Txn

/-- The position of a rendered timestamp in text order: a whole second is rendered without a fraction
    and sorts after every fraction of that second, for `.` precedes `Z`. -/
def textKey (t : Instant) : Nat :=
  t / 1000000 * 1000001 + (if t % 1000000 = 0 then 1000000 else t % 1000000)

namespace WorkflowStore

/-! ## Queries -/

/-- `_activation`. -/
def activation? (s : WorkflowStore) (tenantId : String) (workflowId : WorkflowId) :
    Option WorkflowActivation :=
  s.journal.activations.find? fun a => a.tenantId = tenantId ∧ a.workflowId = workflowId

/-- `_activation_for_case`. -/
def activationForCase (s : WorkflowStore) (tenantId : String) (caseId : CaseId)
    (caseRevisionId : CaseRevisionId) : Option WorkflowActivation :=
  s.journal.activations.find? fun a =>
    a.tenantId = tenantId ∧ a.caseId = caseId ∧ a.caseRevisionId = caseRevisionId

/-- `_activation_for_case_for_tenant`: the latest activation of a case. -/
def activationForCaseForTenant (s : WorkflowStore) (tenantId : String) (caseId : CaseId) :
    Option WorkflowActivation :=
  ((s.journal.activations.filter fun a => a.tenantId = tenantId ∧ a.caseId = caseId).insertionSort
    fun a b => textKey b.createdAt ≤ textKey a.createdAt).head?

/-- `_checkpoints`. -/
def checkpointsOf (s : WorkflowStore) (tenantId : String) (workflowId : WorkflowId) :
    List Checkpoint :=
  (s.journal.checkpoints.filter fun c =>
    c.payload.tenantId = tenantId ∧ c.payload.workflowId = workflowId).insertionSort
      fun a b => a.payload.checkpointSequence ≤ b.payload.checkpointSequence

/-- `_latest_checkpoint`. -/
def latestCheckpoint? (s : WorkflowStore) (tenantId : String) (workflowId : WorkflowId) :
    Option Checkpoint :=
  (s.checkpointsOf tenantId workflowId).getLast?

def runsOf (s : WorkflowStore) (tenantId : String) (workflowId : WorkflowId) : List WorkflowRun :=
  (s.journal.runs.filter fun r => r.tenantId = tenantId ∧ r.workflowId = workflowId).insertionSort
    fun a b => a.runSequence ≤ b.runSequence

/-- `ORDER BY accepted_at ASC, command_id ASC`. -/
def commandsOf (s : WorkflowStore) (tenantId : String) (workflowId : WorkflowId) :
    List WorkflowCommand :=
  (s.journal.commands.filter fun c => c.tenantId = tenantId ∧ c.workflowId = workflowId).insertionSort
    fun a b => textKey a.acceptedAt < textKey b.acceptedAt ∨
      textKey a.acceptedAt = textKey b.acceptedAt ∧ a.commandId ≤ b.commandId

def slaEvent? (s : WorkflowStore) (tenantId : String) (workflowId : WorkflowId) : Option SlaEvent :=
  s.journal.slaEvents.find? fun e => e.tenantId = tenantId ∧ e.workflowId = workflowId

/-- `_workflow_intents`. -/
def intentsOf (s : WorkflowStore) (tenantId : String) (workflowId : WorkflowId) :
    List SideEffectIntent :=
  s.ticket.intents.filter fun i => i.tenantId = tenantId ∧ i.workflowId = workflowId

/-- `_intent_observations`. -/
def observationsOf (s : WorkflowStore) (tenantId : String) (intentId : IntentId) :
    List SideEffectObservation :=
  s.ticket.observations.filter fun o => o.tenantId = tenantId ∧ o.intentId = intentId

/-- `_intent_completions`. -/
def completionsOf (s : WorkflowStore) (tenantId : String) (intentId : IntentId) :
    List SideEffectCompletion :=
  s.ticket.completions.filter fun c => c.tenantId = tenantId ∧ c.intentId = intentId

def deliveryIntentsOf (s : WorkflowStore) (tenantId : String) (workflowId : WorkflowId) :
    List DeliveryIntent :=
  s.delivery.intents.filter fun i => i.tenantId = tenantId ∧ i.workflowId = workflowId

/-- `_delivery_observations`. -/
def deliveryObservationsOf (s : WorkflowStore) (tenantId : String) (intentId : DeliveryIntentId) :
    List DeliveryObservation :=
  s.delivery.observations.filter fun o => o.tenantId = tenantId ∧ o.intentId = intentId

def deliveryCompletionsOf (s : WorkflowStore) (tenantId : String) (intentId : DeliveryIntentId) :
    List DeliveryCompletion :=
  s.delivery.completions.filter fun c => c.tenantId = tenantId ∧ c.intentId = intentId

/-! ## The checkpoint chain -/

end WorkflowStore

/-- The fields a checkpoint repeats from its activation and its run. -/
def Checkpoint.rowMatches (c : Checkpoint) (a : WorkflowActivation) (run : WorkflowRun) : Bool :=
  c.payload.identity = a.identity ∧ c.payload.correlationId = a.correlationId ∧
  c.payload.slaDeadlineAt = a.slaDeadlineAt ∧ c.record.intact ∧
  run.state = c.payload.currentState

/-- What a checkpoint must look like after its predecessor, or as the first one. -/
def Checkpoint.follows (c : Checkpoint) (a : WorkflowActivation) : Option Checkpoint → Bool
  | none =>
      c.payload.currentState = .received ∧ c.payload.resumeState = .received ∧
      c.payload.workflowVersion = 0 ∧ c.transitionKind = none ∧
      c.payload.causationEventId = .sourceEvent a.sourceEventId
  | some previous =>
      c.payload.workflowVersion = previous.payload.workflowVersion + 1 ∧
      if c.payload.currentState = previous.payload.currentState then
        c.transitionKind = none ∧ c.payload.resumeState = c.payload.currentState
      else
        c.transitionKind.any fun kind =>
          transitionAllowed previous.payload.currentState kind c.payload.currentState
            (some c.payload.resumeState) (previous.payload.pendingIntentIds ≠ ∅)

/-- The loop over checkpoints and their runs. -/
def checkpointsContinue (a : WorkflowActivation) :
    Option Checkpoint → List Checkpoint → List WorkflowRun → Bool
  | _, [], _ => true
  | _, _ :: _, [] => false
  | previous, c :: rest, run :: runs =>
      c.rowMatches a run ∧ c.follows a previous ∧ checkpointsContinue a (some c) rest runs

/-! ## Commands -/

def WorkflowCommand.expectedPayload (c : WorkflowCommand) (caseId : CaseId) :
    Digest CommandPayloadMaterial :=
  sha256 ⟨caseId, c.commandType, c.expectedWorkflowVersion⟩

def WorkflowCommand.expectedFingerprint (c : WorkflowCommand) : Digest CommandFingerprintMaterial :=
  sha256 ⟨c.commandId, c.commandType, c.expectedWorkflowVersion, c.commandPayloadSha256⟩

/-- Whether a checkpoint was caused by a command. -/
def Checkpoint.causedBy (c : Checkpoint) (commandId : String) : Bool :=
  c.payload.causationEventId = .command commandId

/-- One command of the journal: well formed, hashed, and applied at most once. -/
def WorkflowCommand.sourceValid (c : WorkflowCommand) (a : WorkflowActivation)
    (checkpoints : List Checkpoint) : Bool :=
  validateWorkflowCommand a.tenantId c.commandId ∧
  c.commandPayloadSha256 = c.expectedPayload a.caseId ∧
  c.commandFingerprint = c.expectedFingerprint ∧
  (checkpoints.filter (·.causedBy c.commandId)).length ≤ 1

/-! ## Effects -/

/-- What a workflow's effect must repeat: case, revision, workflow, and one of its checkpoints. -/
def belongsTo (a : WorkflowActivation) (checkpointIds : List CheckpointId) (caseId : CaseId)
    (caseRevisionId : CaseRevisionId) (workflowId : WorkflowId) (checkpointId : CheckpointId) :
    Bool :=
  caseId = a.caseId ∧ caseRevisionId = a.caseRevisionId ∧ workflowId = a.workflowId ∧
  checkpointId ∈ checkpointIds

def WorkflowActivation.naturalKey (a : WorkflowActivation) : TicketNaturalKey :=
  ⟨a.tenantId, a.caseId, a.caseRevisionId⟩

/-- `_outcome_from_revision`'s hash. -/
def TicketRevision.outcomeSha256 (r : TicketRevision) : TicketOutcomeHash :=
  sha256 ⟨r.ticketId, r.version, r.naturalKey, r.contentSha256⟩

/-- The versions an operation expects and observes. -/
def TicketOperationRow.versionsValid (o : TicketOperationRow) : Bool :=
  match o.operation with
  | .findOrCreate => o.expectedVersion = none ∧ o.observedVersion = 1
  | .workflowHandoff => o.expectedVersion.any fun v => o.observedVersion = v + 1

namespace WorkflowStore

/-- One ticket intent of a workflow, with its observations and completion. -/
def intentSourceValid (s : WorkflowStore) (a : WorkflowActivation)
    (checkpointIds : List CheckpointId) (i : SideEffectIntent) : Bool :=
  belongsTo a checkpointIds i.caseId i.caseRevisionId i.workflowId i.checkpointId ∧
  i.naturalKey = a.naturalKey ∧
  validateSideEffectChain i (s.observationsOf a.tenantId i.intentId)
    (s.completionsOf a.tenantId i.intentId)

/-- One delivery intent of a workflow, with its binding, observations and completion. -/
def deliverySourceValid (s : WorkflowStore) (a : WorkflowActivation)
    (checkpointIds : List CheckpointId) (i : DeliveryIntent) : Bool :=
  validateOutboundDeliveryIntent i ∧
  belongsTo a checkpointIds i.caseId i.caseRevisionId i.workflowId i.checkpointId ∧
  (s.policy.bindings.find? fun b =>
    b.body.tenantId = a.tenantId ∧ b.hash = i.authorizationBindingSha256).any fun binding =>
      validateOutboundDeliveryChain i (s.deliveryObservationsOf a.tenantId i.intentId)
        (s.deliveryCompletionsOf a.tenantId i.intentId) binding

/-- One operation of the fixture ticket store, against its revision and its intent. -/
def ticketOperationValid (s : WorkflowStore) (tenantId : String) (o : TicketOperationRow) : Bool :=
  (s.ticket.revisions.find? fun r =>
    r.tenantId = tenantId ∧ r.ticketId = o.ticketId ∧ r.version = o.observedVersion).any (fun r =>
      r.naturalKey = o.naturalKey ∧ r.operation = o.operation ∧
      r.outcomeSha256 = o.outcomeSha256) ∧
  (s.ticket.intents.find? fun i =>
    i.tenantId = tenantId ∧ i.idempotencyKey = o.idempotencyKey).any (fun i =>
      i.operation = o.operation ∧ i.naturalKey = o.naturalKey) ∧ o.versionsValid

/-- `_validate_ticket_source`. -/
def validateTicketSource (s : WorkflowStore) (tenantId : String) : Except WorkflowError Unit :=
  require ((s.ticket.operations.filter (·.tenantId = tenantId)).all (s.ticketOperationValid tenantId))
    .workflowJournalInvalid

/-- Intents whose completion is stored. -/
def completedIds (s : WorkflowStore) (a : WorkflowActivation) : List EffectId :=
  ((s.intentsOf a.tenantId a.workflowId).filter fun i =>
    s.completionsOf a.tenantId i.intentId ≠ []).map (fun i => .ticket i.intentId) ++
  ((s.deliveryIntentsOf a.tenantId a.workflowId).filter fun i =>
    s.deliveryCompletionsOf a.tenantId i.intentId ≠ []).map (fun i => .delivery i.intentId)

/-- Intents of either kind. -/
def effectIds (s : WorkflowStore) (a : WorkflowActivation) : List EffectId :=
  (s.intentsOf a.tenantId a.workflowId).map (fun i => .ticket i.intentId) ++
  (s.deliveryIntentsOf a.tenantId a.workflowId).map (fun i => .delivery i.intentId)

/-- **`_validate_workflow_source`.** -/
def validateWorkflowSource (s : WorkflowStore) (a : WorkflowActivation)
    (checkpoints : List Checkpoint) : Except WorkflowError Unit := do
  require (s.ledger.businessEvents.any fun e => e.tenantId = a.tenantId ∧
    e.eventId = a.sourceEventId ∧ e.caseId = a.caseId ∧ e.caseRevisionId = a.caseRevisionId)
    .workflowJournalInvalid
  let runs := s.runsOf a.tenantId a.workflowId
  require (runs ≠ [] ∧ runs.map (·.runSequence) = List.range' 1 runs.length) .workflowJournalInvalid
  require (runs.all fun r => r.runStatus = runStatus r.state) .workflowJournalInvalid
  match checkpoints.getLast? with
  | none => require (runs.getLast?.any (·.state = .received)) .workflowJournalInvalid
  | some latest =>
      require (validateCheckpointSequence (checkpoints.map (·.payload))) .workflowJournalInvalid
      require (runs.length = checkpoints.length + 1) .workflowJournalInvalid
      require (checkpointsContinue a none checkpoints runs.tail) .workflowJournalInvalid
      require (runs.getLast?.any (·.state = latest.payload.currentState)) .workflowJournalInvalid
      require ((s.commandsOf a.tenantId a.workflowId).all (·.sourceValid a checkpoints))
        .workflowJournalInvalid
      let checkpointIds := checkpoints.map (·.payload.checkpointId)
      let intents := s.intentsOf a.tenantId a.workflowId
      require (validateSideEffectIntents intents) .workflowJournalInvalid
      require ((s.deliveryIntentsOf a.tenantId a.workflowId).all (s.deliverySourceValid a checkpointIds))
        .policyJournalInvalid
      let pending := latest.payload.pendingIntentIds
      let completed := latest.payload.completedIntentIds
      require (pending ∪ completed ⊆ (s.effectIds a).toFinset) .workflowJournalInvalid
      require (intents.all (s.intentSourceValid a checkpointIds)) .workflowJournalInvalid
      require (completed ⊆ (s.completedIds a).toFinset) .workflowJournalInvalid
      require (pending ⊆ (s.effectIds a).toFinset) .workflowJournalInvalid
      require (pending ∩ completed = ∅) .workflowJournalInvalid
      s.validateTicketSource a.tenantId

/-! ## The investigation -/

/-- Every stored result belongs to a stored request, and every request has one. -/
def toolExchangeValid (s : WorkflowStore) (tenantId : String) (m : ContextManifest)
    (r : ToolRequestRow) : Bool :=
  validateToolRequest r.request m ∧
  (s.investigation.toolResults.find? fun x =>
    x.tenantId = tenantId ∧ x.result.toolRequestId = r.request.toolRequestId).any fun x =>
      validateToolResult x.result r.request

end WorkflowStore

/-- `_candidate_payload`: case and revision come from the activation. -/
def candidatePayload (a : WorkflowActivation) (row : CandidateRow) : ResponseCandidate :=
  { row.candidate with
    link := { row.candidate.link with caseId := a.caseId, caseRevisionId := a.caseRevisionId } }

/-- `_verifier_outcome_payload`. -/
def verifierOutcomePayload (a : WorkflowActivation) (row : OutcomeRow) : VerifierOutcome :=
  { row.outcome with
    link := { row.outcome.link with caseId := a.caseId, caseRevisionId := a.caseRevisionId } }

namespace WorkflowStore

def candidatesOf (s : WorkflowStore) (tenantId : String) (workflowId : WorkflowId) :
    List CandidateRow :=
  s.investigation.candidates.filter fun c => c.tenantId = tenantId ∧ c.workflowId = workflowId

def outcomesOf (s : WorkflowStore) (tenantId : String) (workflowId : WorkflowId) : List OutcomeRow :=
  s.investigation.outcomes.filter fun o => o.tenantId = tenantId ∧ o.workflowId = workflowId

/-- `_validate_investigation_source`. -/
def validateInvestigationSource (s : WorkflowStore) (a : WorkflowActivation)
    (checkpoints : List Checkpoint) : Except WorkflowError Unit :=
  match s.investigation.activations.filter fun i =>
      i.tenantId = a.tenantId ∧ i.workflowId = a.workflowId with
  | [] => .ok ()
  | [investigation] => do
      let manifest := investigation.manifest
      let link := manifest.link
      require (validateContextManifest manifest) .investigationJournalInvalid
      require (link.tenantId = a.tenantId ∧ belongsTo a (checkpoints.map (·.payload.checkpointId))
        link.caseId link.caseRevisionId link.workflowId link.checkpointId) .investigationJournalInvalid
      require ((s.investigation.agentSteps.filter fun x =>
        x.tenantId = a.tenantId ∧ x.workflowId = a.workflowId).all fun x =>
          validateAgentAction x.action manifest) .investigationJournalInvalid
      require ((s.investigation.toolRequests.filter fun x =>
        x.tenantId = a.tenantId ∧ x.workflowId = a.workflowId).all
          (s.toolExchangeValid a.tenantId manifest)) .investigationJournalInvalid
      let candidates := (s.candidatesOf a.tenantId a.workflowId).map (candidatePayload a)
      require (candidates.all fun c => validateResponseCandidate c manifest)
        .investigationJournalInvalid
      require (((s.outcomesOf a.tenantId a.workflowId).map (verifierOutcomePayload a)).all fun o =>
        (candidates.find? fun c => c.candidateId = o.candidateId).any (validateVerifierOutcome o))
        .investigationJournalInvalid
  | _ => .error .investigationJournalInvalid

/-! ## The policy chain -/

/-- The at most one row of a table that a workflow may have. -/
def atMostOne {α : Type} : List α → Except WorkflowError (Option α)
  | [] => .ok none
  | [x] => .ok (some x)
  | _ => .error .policyJournalInvalid

def policyActivationsOf (s : WorkflowStore) (tenantId : String) (workflowId : WorkflowId) :
    List PolicyActivation :=
  s.policy.activations.filter fun p => p.tenantId = tenantId ∧ p.workflowId = workflowId

def grantsOf (s : WorkflowStore) (tenantId : String) (workflowId : WorkflowId) : List SealedGrant :=
  (s.policy.grants.filter fun g => g.tenantId = tenantId ∧ g.workflowId = workflowId).map (·.grant)

def decisionsOf (s : WorkflowStore) (tenantId : String) (workflowId : WorkflowId) :
    List SealedDecision :=
  s.policy.decisions.filter fun d => d.body.tenantId = tenantId ∧ d.body.workflowId = workflowId

def bindingsOf (s : WorkflowStore) (tenantId : String) (workflowId : WorkflowId) :
    List SealedBinding :=
  s.policy.bindings.filter fun b => b.body.tenantId = tenantId ∧ b.body.workflowId = workflowId

def requestsOf (s : WorkflowStore) (tenantId : String) (workflowId : WorkflowId) :
    List ApprovalRequest :=
  s.policy.requests.filter fun r => r.tenantId = tenantId ∧ r.workflowId = workflowId

def approvalsOf (s : WorkflowStore) (tenantId : String) (workflowId : WorkflowId) :
    List SealedApproval :=
  s.policy.approvals.filter fun p => p.body.tenantId = tenantId ∧ p.body.workflowId = workflowId

end WorkflowStore

/-- The states that need the whole policy chain. -/
def needsPolicyChain (checkpoints : List Checkpoint) : Bool :=
  checkpoints.any fun c => c.payload.currentState = .awaitingApproval ∨
    c.payload.currentState = .delivering ∨ c.payload.currentState = .deliveryRecorded

def PolicyActivation.sourceValid (p : PolicyActivation) (a : WorkflowActivation)
    (checkpointIds : List CheckpointId) : Bool :=
  p.caseId = a.caseId ∧ p.caseRevisionId = a.caseRevisionId ∧
  p.sourceCheckpointId ∈ checkpointIds ∧ p.deliveryResourceId = api503DeliveryResourceId ∧
  p.dataClassification = .synthetic ∧ p.evidenceHashes ≠ []

def grantSourceValid (a : WorkflowActivation) (g : SealedGrant) : Bool :=
  validateCapabilityGrant g ∧ g.body.tenantId = a.tenantId ∧ g.intact

def decisionSourceValid (a : WorkflowActivation) (p : PolicyActivation) (d : SealedDecision) : Bool :=
  validatePolicyDecision d ∧ d.body.tenantId = a.tenantId ∧ d.body.workflowId = a.workflowId ∧
  d.body.checkpointId = p.sourceCheckpointId ∧ d.intact

def bindingSourceValid (a : WorkflowActivation) (grant : Option SealedGrant)
    (decision : Option SealedDecision) (b : SealedBinding) : Bool :=
  validateAuthorizationBinding b ∧ b.body.workflowId = a.workflowId ∧
  grant.any (fun g => b.body.grantId = g.body.grantId) ∧
  decision.any fun d => b.body.policyDecisionId = d.body.policyDecisionId

def requestSourceValid (binding : Option SealedBinding) (r : ApprovalRequest) : Bool :=
  validateApprovalRequest r ∧ binding.any fun b => r.authorizationBindingSha256 = b.hash

def approvalSourceValid (request : Option ApprovalRequest) (p : SealedApproval) : Bool :=
  validateApprovalDecision p ∧ p.intact ∧
  request.any fun r => p.body.approvalRequestId = r.approvalRequestId

namespace WorkflowStore

/-- One operation of the fixture delivery store, against its record and its intent. -/
def deliveryOperationValid (s : WorkflowStore) (tenantId : String) (o : DeliveryOperation) : Bool :=
  (s.delivery.records.find? fun r => r.tenantId = tenantId ∧ r.deliveryId = o.deliveryId ∧
    r.version = o.observedVersion).any (fun r => r.naturalKey = o.naturalKey ∧
      r.contentSha256 = o.contentSha256 ∧ r.dataClassification = .synthetic) ∧
  (s.delivery.intents.find? fun i => i.tenantId = tenantId ∧
    i.idempotencyKey = o.idempotencyKey).any fun i => i.naturalKey = o.naturalKey ∧
      i.candidateHash = o.contentSha256

/-- `_validate_fixture_delivery_source`. -/
def validateFixtureDeliverySource (s : WorkflowStore) (tenantId : String) :
    Except WorkflowError Unit :=
  require ((s.delivery.operations.filter (·.tenantId = tenantId)).all
    (s.deliveryOperationValid tenantId)) .policyJournalInvalid

/-- **`_validate_change4_source`.** -/
def validateChange4Source (s : WorkflowStore) (a : WorkflowActivation)
    (checkpoints : List Checkpoint) : Except WorkflowError Unit :=
  let t := a.tenantId
  let w := a.workflowId
  match s.policyActivationsOf t w with
  | [] =>
      require (¬ needsPolicyChain checkpoints ∧ s.grantsOf t w = [] ∧ s.decisionsOf t w = [] ∧
        s.bindingsOf t w = [] ∧ s.requestsOf t w = [] ∧ s.approvalsOf t w = [] ∧
        s.deliveryIntentsOf t w = []) .policyJournalInvalid
  | [policyActivation] => do
      require (policyActivation.sourceValid a (checkpoints.map (·.payload.checkpointId)))
        .policyJournalInvalid
      let grant ← atMostOne (s.grantsOf t w)
      require (grant.all (grantSourceValid a)) .policyJournalInvalid
      let decision ← atMostOne (s.decisionsOf t w)
      require (decision.all (decisionSourceValid a policyActivation)) .policyJournalInvalid
      let binding ← atMostOne (s.bindingsOf t w)
      require (binding.all (bindingSourceValid a grant decision)) .policyJournalInvalid
      let request ← atMostOne (s.requestsOf t w)
      require (request.all (requestSourceValid binding)) .policyJournalInvalid
      let approval ← atMostOne (s.approvalsOf t w)
      require (approval.all (approvalSourceValid request)) .policyJournalInvalid
      require (needsPolicyChain checkpoints →
        grant.isSome ∧ decision.isSome ∧ binding.isSome ∧ request.isSome) .policyJournalInvalid
      s.validateFixtureDeliverySource t
  | _ => .error .policyJournalInvalid

/-! ## The read model -/

end WorkflowStore

/-- The projection of an activation at its latest checkpoint. -/
def projectionOf (a : WorkflowActivation) (latest : CheckpointPayload) : WorkflowProjection :=
  { tenantId := a.tenantId, workflowId := a.workflowId, caseId := a.caseId,
    caseRevisionId := a.caseRevisionId, state := latest.currentState,
    runStatus := runStatus latest.currentState, workflowVersion := latest.workflowVersion,
    latestCheckpointId := latest.checkpointId,
    latestCheckpointSequence := latest.checkpointSequence, slaDeadlineAt := a.slaDeadlineAt,
    correlationId := a.correlationId, createdAt := a.createdAt, updatedAt := latest.createdAt }

def validateWorkflowProjection (p : WorkflowProjection) : Bool :=
  nonEmpty p.tenantId ∧ 1 ≤ p.latestCheckpointSequence ∧ nonEmpty p.correlationId

namespace WorkflowStore

/-- Validate one activation and add its projection to the rebuilt table. -/
def rebuildActivation (s : WorkflowStore) (rebuilt : List WorkflowProjection)
    (a : WorkflowActivation) : Except WorkflowError (List WorkflowProjection) := do
  let checkpoints := s.checkpointsOf a.tenantId a.workflowId
  s.validateWorkflowSource a checkpoints
  s.validateInvestigationSource a checkpoints
  s.validateChange4Source a checkpoints
  match checkpoints.getLast? with
  | none => pure rebuilt
  | some latest =>
      let projection := projectionOf a latest.payload
      require (validateWorkflowProjection projection) .workflowJournalInvalid
      fetch (Table.insert? WorkflowProjection.clash projection rebuilt) .workflowJournalInvalid

/-- **`rebuild_workflow_projection`.** -/
def rebuildWorkflowProjection (s : WorkflowStore) : Except WorkflowError WorkflowStore := do
  let workflowProjection ← s.journal.activations.foldlM s.rebuildActivation []
  pure { s with workflowProjection }

end WorkflowStore

/-- `rebuild_workflow_projection` as a transaction. -/
def rebuildWorkflowProjection : Kernel Unit :=
  Prog.atomically fun s => do
    let s' ← s.rebuildWorkflowProjection
    pure ((), s')

/-- `get_workflow_projection`. -/
def getWorkflowProjection (tenantId : String) (workflowId : WorkflowId) :
    Kernel (Option WorkflowProjection) := do
  rebuildWorkflowProjection
  let row ← Prog.observe fun s => s.workflowProjection.find? fun p =>
    p.tenantId = tenantId ∧ p.workflowId = workflowId
  Prog.check (row.all validateWorkflowProjection) .contractInvalid
  pure row

/-- `get_workflow_projection`, where a missing row is an error of the journal. -/
def requireWorkflowProjection (tenantId : String) (workflowId : WorkflowId) :
    Kernel WorkflowProjection := do
  let projection ← getWorkflowProjection tenantId workflowId
  Prog.need projection .workflowJournalInvalid

end WeFlow
