import WeFlow.Kernel.Checkpoint

/-!
# `Investigation` — the replay-only investigation

`beginInvestigation` persists one context manifest and starts the investigation; the recording
operations append schema-validated facts under it; `verifyResponseCandidate` decides about a candidate
and, when it verifies, advances the workflow. Callers supply every payload but never a decision.
-/

namespace WeFlow

open Txn

namespace WorkflowStore

/-! ## Queries -/

/-- `_investigation_activation`. -/
def investigationActivation? (s : WorkflowStore) (tenantId : String) (workflowId : WorkflowId) :
    Option InvestigationActivation :=
  s.investigation.activations.find? fun i => i.tenantId = tenantId ∧ i.workflowId = workflowId

/-- `_existing_agent_step`. -/
def existingAgentStep (s : WorkflowStore) (tenantId : String) (workflowId : WorkflowId)
    (stepId : String) : Option AgentStep :=
  s.investigation.agentSteps.find? fun x =>
    x.tenantId = tenantId ∧ x.workflowId = workflowId ∧ x.action.stepId = stepId

/-- `_existing_tool_result`. -/
def existingToolResult (s : WorkflowStore) (tenantId toolRequestId : String) :
    Option ToolResultRow :=
  s.investigation.toolResults.find? fun x =>
    x.tenantId = tenantId ∧ x.result.toolRequestId = toolRequestId

def agentStepsOf (s : WorkflowStore) (tenantId : String) (workflowId : WorkflowId) :
    List AgentStep :=
  s.investigation.agentSteps.filter fun x => x.tenantId = tenantId ∧ x.workflowId = workflowId

def toolRequestsOf (s : WorkflowStore) (tenantId : String) (workflowId : WorkflowId) :
    List ToolRequestRow :=
  s.investigation.toolRequests.filter fun x => x.tenantId = tenantId ∧ x.workflowId = workflowId

def toolResultsOf (s : WorkflowStore) (tenantId : String) (workflowId : WorkflowId) :
    List ToolResultRow :=
  s.investigation.toolResults.filter fun x => x.tenantId = tenantId ∧ x.workflowId = workflowId

end WorkflowStore

/-- `_require_investigation`. -/
def requireInvestigation (tenantId : String) (caseId : CaseId) :
    Kernel (WorkflowActivation × InvestigationActivation × WorkflowProjection) := do
  let activation ← Prog.observe (·.activationForCaseForTenant tenantId caseId)
  let activation ← Prog.need activation .notFound
  let investigation ← Prog.observe (·.investigationActivation? tenantId activation.workflowId)
  let investigation ← Prog.need investigation .investigationNotFound
  let projection ← getWorkflowProjection tenantId activation.workflowId
  let projection ← Prog.need projection .notFound
  pure (activation, investigation, projection)

/-! ## Beginning -/

def newInvestigation (a : WorkflowActivation) (manifest : ContextManifest) (transcriptId : String) :
    InvestigationActivation :=
  { tenantId := a.tenantId,
    investigationId := stableIdentifier
      ⟨a.workflowId, manifest.link.contextManifestId, manifest.contextSha256⟩,
    workflowId := a.workflowId, manifest, transcriptId }

def insertInvestigation (i : InvestigationActivation) (s : WorkflowStore) :
    Except WorkflowError (Unit × WorkflowStore) := do
  let activations ← fetch
    (Table.insert? InvestigationActivation.clash i s.investigation.activations)
    .investigationActivationFailed
  pure ((), { s with investigation := { s.investigation with activations } })

/-- The stored investigation of a workflow, persisted now if there is none. -/
def ensureInvestigation (a : WorkflowActivation) (manifest : ContextManifest)
    (transcriptId : String) : Kernel InvestigationActivation := do
  let existing ← Prog.observe (·.investigationActivation? a.tenantId a.workflowId)
  match existing with
  | some existing =>
      Prog.check (existing.manifest.link.contextManifestId = manifest.link.contextManifestId ∧
        existing.manifest.contextSha256 = manifest.contextSha256 ∧
        existing.transcriptId = transcriptId) .investigationActivationConflict
      pure existing
  | none =>
      let checkpoint ← Prog.observe (·.latestCheckpoint? a.tenantId a.workflowId)
      let checkpoint ← Prog.need checkpoint .investigationPredecessorInvalid
      Prog.check (checkpoint.payload.currentState = .ticketReady) .investigationPredecessorInvalid
      Prog.check (manifest.link.checkpointId = checkpoint.payload.checkpointId)
        .investigationCheckpointMismatch
      Prog.atomically (insertInvestigation (newInvestigation a manifest transcriptId))
      let stored ← Prog.observe (·.investigationActivation? a.tenantId a.workflowId)
      Prog.need stored .investigationJournalInvalid

/-- The transition into the investigation. -/
def investigationStarted (investigationId : InvestigationId) : TransitionRequest :=
  { transitionKind := .investigationStarted, nextState := .investigating,
    resumeState := .investigating, causationEventId := .investigation investigationId }

/-- **`begin_investigation`.** -/
def beginInvestigation (env : Env) (tenantId : String) (caseId : CaseId)
    (manifest : ContextManifest) (transcriptId : String) : Kernel ContextManifest := do
  Prog.check (nonEmpty transcriptId) .investigationTranscriptInvalid
  Prog.check (validateContextManifest manifest) .contextManifestInvalid
  let activation ← Prog.observe (·.activationForCaseForTenant tenantId caseId)
  let activation ← Prog.need activation .notFound
  Prog.check (manifest.link.tenantId = activation.tenantId) .tenantIdentityMismatch
  Prog.check (manifest.link.caseId = activation.caseId ∧
    manifest.link.caseRevisionId = activation.caseRevisionId ∧
    manifest.link.workflowId = activation.workflowId) .causationMismatch
  let investigation ← ensureInvestigation activation manifest transcriptId
  let projection ← getWorkflowProjection tenantId activation.workflowId
  let projection ← Prog.need projection .notFound
  if projection.state = .ticketReady then
    let checkpoint ← Prog.observe (·.latestCheckpoint? tenantId activation.workflowId)
    let checkpoint ← Prog.need checkpoint .investigationJournalInvalid
    let _ ← transition env activation checkpoint (investigationStarted investigation.investigationId)
    pure investigation.manifest
  else
    Prog.check (projection.state = .investigating ∨ projection.state = .responseReady)
      .investigationStateNotAllowlisted
    pure investigation.manifest

/-! ## Recording -/

def newAgentStep (a : WorkflowActivation) (action : AgentAction) : AgentStep :=
  { tenantId := a.tenantId, agentStepId := stableIdentifier ⟨a.workflowId, action.stepId⟩,
    workflowId := a.workflowId, action }

def insertAgentStep (x : AgentStep) (s : WorkflowStore) :
    Except WorkflowError (Unit × WorkflowStore) := do
  let agentSteps ← fetch (Table.insert? AgentStep.clash x s.investigation.agentSteps)
    .agentStepPersistFailed
  pure ((), { s with investigation := { s.investigation with agentSteps } })

/-- **`record_agent_action`.** The link check after the contract repeats it. -/
def recordAgentAction (tenantId : String) (caseId : CaseId) (action : AgentAction) :
    Kernel AgentAction := do
  let (activation, investigation, projection) ← requireInvestigation tenantId caseId
  Prog.check (validateAgentAction action investigation.manifest) .agentActionInvalid
  let existing ← Prog.observe (·.existingAgentStep tenantId activation.workflowId action.stepId)
  match existing with
  | some existing =>
      Prog.check (existing.action.actionType = action.actionType ∧
        existing.action.actionSha256 = action.actionSha256 ∧
        existing.action.link.contextManifestId = action.link.contextManifestId) .agentStepConflict
      pure action
  | none =>
      Prog.check (projection.state = .investigating) .investigationStateNotAllowlisted
      Prog.atomically (insertAgentStep (newAgentStep activation action))
      pure action

/-- The transaction of `record_tool_exchange`. -/
def insertToolExchange (tenantId : String) (workflowId : WorkflowId) (request : ToolRequest)
    (result : ToolResult) (s : WorkflowStore) : Except WorkflowError (Unit × WorkflowStore) := do
  let stored := s.investigation.toolRequests.find? fun x =>
    x.tenantId = tenantId ∧ x.request.toolRequestId = request.toolRequestId
  let toolRequests ← match stored with
    | none => fetch (Table.insert? ToolRequestRow.clash ⟨tenantId, workflowId, request⟩
        s.investigation.toolRequests) .toolResultPersistFailed
    | some x => do
        require (x.request.requestSha256 = request.requestSha256 ∧
          x.request.toolName = request.toolName ∧
          x.request.link.contextManifestId = request.link.contextManifestId) .toolRequestConflict
        pure s.investigation.toolRequests
  let toolResults ← fetch (Table.insert? ToolResultRow.clash ⟨tenantId, workflowId, result⟩
    s.investigation.toolResults) .toolResultPersistFailed
  pure ((), { s with investigation := { s.investigation with toolRequests, toolResults } })

/-- **`record_tool_exchange`.** -/
def recordToolExchange (tenantId : String) (caseId : CaseId) (request : ToolRequest)
    (result : ToolResult) : Kernel Unit := do
  let (activation, investigation, projection) ← requireInvestigation tenantId caseId
  let manifest := investigation.manifest
  Prog.check (validateToolRequest request manifest ∧ validateToolResult result request)
    .investigationToolContractInvalid
  let existing ← Prog.observe (·.existingToolResult tenantId request.toolRequestId)
  match existing with
  | some x =>
      Prog.check (x.result.contentSha256 = result.contentSha256 ∧
        x.result.evidenceId = result.evidenceId ∧
        x.result.link.contextManifestId = result.link.contextManifestId) .toolResultConflict
      pure ()
  | none =>
      Prog.check (projection.state = .investigating) .investigationStateNotAllowlisted
      let workflowId := activation.workflowId
      let step ← Prog.observe (·.existingAgentStep tenantId workflowId request.stepId)
      Prog.check (step.any fun x => x.action.actionType = .read request.toolName)
        .toolRequestActionMismatch
      let requests ← Prog.observe (·.toolRequestsOf tenantId workflowId)
      Prog.check (requests.length < manifest.toolBudget) .investigationToolBudgetExceeded
      Prog.atomically (insertToolExchange tenantId workflowId request result)

def insertCandidate (row : CandidateRow) (s : WorkflowStore) :
    Except WorkflowError (Unit × WorkflowStore) := do
  let candidates ← fetch (Table.insert? CandidateRow.clash row s.investigation.candidates)
    .responseCandidatePersistFailed
  pure ((), { s with investigation := { s.investigation with candidates } })

/-- **`record_response_candidate`.** -/
def recordResponseCandidate (tenantId : String) (caseId : CaseId) (candidate : ResponseCandidate) :
    Kernel ResponseCandidate := do
  let (activation, investigation, projection) ← requireInvestigation tenantId caseId
  Prog.check (validateResponseCandidate candidate investigation.manifest) .responseCandidateInvalid
  let existing ← Prog.observe fun s => s.investigation.candidates.find? fun x =>
    x.tenantId = tenantId ∧ x.candidate.candidateId = candidate.candidateId
  match existing with
  | some row =>
      let payload := candidatePayload activation row
      Prog.check (payload.candidateSha256 = candidate.candidateSha256) .responseCandidateConflict
      pure payload
  | none =>
      Prog.check (projection.state = .investigating) .investigationStateNotAllowlisted
      let steps ← Prog.observe (·.agentStepsOf tenantId activation.workflowId)
      Prog.check ((steps.filter (·.action.actionType = .responseCandidate)).length = 1)
        .responseCandidateActionMissing
      Prog.atomically (insertCandidate ⟨tenantId, activation.workflowId, candidate⟩)
      pure candidate

/-! ## Verification -/

/-- `_deterministic_verifier_reason`. -/
def verifierReason (steps : List AgentStep) (results : List ToolResult) (manifest : ContextManifest)
    (candidate : ResponseCandidate) : VerifierReason :=
  if manifest.actionBudget < steps.length then .actionBudgetExceeded
  else if manifest.toolBudget < results.length then .toolBudgetExceeded
  else if ¬ steps.getLast?.any (·.action.actionType = .responseCandidate) then
    .responseCandidateActionMissing
  else if results.any (·.link.contextManifestId ≠ manifest.link.contextManifestId) then
    .evidenceContextMismatch
  else if results.any (·.redactionClassification ≠ "synthetic") then .evidenceRedactionInvalid
  else if results.map (·.toolName) ≠ [.crm, .monitoring, .knowledge] then .requiredEvidenceMissing
  else if candidate.evidenceHashes ≠ results.map (·.contentSha256) then .evidenceReferenceMismatch
  else if candidate.contextSha256 ≠ manifest.contextSha256 then .contextHashMismatch
  else .evidenceComplete

def VerifierReason.verdict (r : VerifierReason) : Verdict :=
  if r = .evidenceComplete then .verified else .rejected

def newOutcome (env : Env) (a : WorkflowActivation) (candidate : ResponseCandidate)
    (reasonCode : VerifierReason) : VerifierOutcome :=
  { link := { candidate.link with
      tenantId := a.tenantId, caseId := a.caseId, caseRevisionId := a.caseRevisionId,
      workflowId := a.workflowId },
    verifierOutcomeId := stableIdentifier
      ⟨a.workflowId, candidate.candidateId, candidate.candidateSha256, reasonCode.verdict⟩,
    candidateId := candidate.candidateId, candidateSha256 := candidate.candidateSha256,
    outcome := reasonCode.verdict, reasonCode, recordedAt := env.now }

def insertOutcome (row : OutcomeRow) (s : WorkflowStore) :
    Except WorkflowError (Unit × WorkflowStore) := do
  let outcomes ← fetch (Table.insert? OutcomeRow.clash row s.investigation.outcomes)
    .verifierOutcomePersistFailed
  pure ((), { s with investigation := { s.investigation with outcomes } })

/-- The transition out of the investigation. -/
def candidateVerified (outcomeId : VerifierOutcomeId) : TransitionRequest :=
  { transitionKind := .responseCandidateVerified, nextState := .responseReady,
    resumeState := .responseReady, causationEventId := .verifier outcomeId }

/-- **`_advance_verified_candidate`.** -/
def advanceVerifiedCandidate (env : Env) (a : WorkflowActivation) (outcome : VerifierOutcome) :
    Kernel (Option WorkflowProjection) := do
  if outcome.outcome ≠ .verified then getWorkflowProjection a.tenantId a.workflowId
  else
    let checkpoint ← Prog.observe (·.latestCheckpoint? a.tenantId a.workflowId)
    let checkpoint ← Prog.need checkpoint .investigationJournalInvalid
    if checkpoint.payload.currentState = .responseReady then
      getWorkflowProjection a.tenantId a.workflowId
    else
      Prog.check (checkpoint.payload.currentState = .investigating)
        .investigationStateNotAllowlisted
      let _ ← transition env a checkpoint (candidateVerified outcome.verifierOutcomeId)
      getWorkflowProjection a.tenantId a.workflowId

/-- **`verify_response_candidate`**; no state is asked for before an outcome is stored. -/
def verifyResponseCandidate (env : Env) (tenantId : String) (caseId : CaseId)
    (candidateId : String) : Kernel VerifierOutcome := do
  let (activation, investigation, _) ← requireInvestigation tenantId caseId
  let row ← Prog.observe fun s => s.investigation.candidates.find? fun x =>
    x.tenantId = tenantId ∧ x.workflowId = activation.workflowId ∧
      x.candidate.candidateId = candidateId
  let row ← Prog.need row .responseCandidateNotFound
  let candidate := candidatePayload activation row
  let existing ← Prog.observe fun s => s.investigation.outcomes.find? fun x =>
    x.tenantId = tenantId ∧ x.outcome.candidateId = candidateId
  Prog.check (validateResponseCandidate candidate investigation.manifest) .responseCandidateInvalid
  match existing with
  | some existing =>
      let outcome := verifierOutcomePayload activation existing
      let _ ← advanceVerifiedCandidate env activation outcome
      pure outcome
  | none =>
      let steps ← Prog.observe (·.agentStepsOf tenantId activation.workflowId)
      let results ← Prog.observe (·.toolResultsOf tenantId activation.workflowId)
      let outcome := newOutcome env activation candidate
        (verifierReason steps (results.map (·.result)) investigation.manifest candidate)
      Prog.check (validateVerifierOutcome outcome candidate) .verifierOutcomeInvalid
      Prog.atomically (insertOutcome ⟨tenantId, activation.workflowId, outcome⟩)
      let _ ← advanceVerifiedCandidate env activation outcome
      pure outcome

/-! ## Recovery -/

/-- Advance an investigation whose latest verified outcome has not been applied. -/
def recoverVerified (env : Env) (a : WorkflowActivation) (c : Checkpoint) :
    Kernel (Option WorkflowProjection) := do
  if c.payload.currentState ≠ .investigating then getWorkflowProjection a.tenantId a.workflowId
  else
    let outcomes ← Prog.observe (·.outcomesOf a.tenantId a.workflowId)
    match (outcomes.filter (·.outcome.outcome = .verified)).getLast? with
    | none => getWorkflowProjection a.tenantId a.workflowId
    | some row => advanceVerifiedCandidate env a (verifierOutcomePayload a row)

/-- **`_recover_investigation`.** -/
def recoverInvestigation (env : Env) (a : WorkflowActivation) (c : Checkpoint) :
    Kernel (Option WorkflowProjection) := do
  let investigation ← Prog.observe (·.investigationActivation? a.tenantId a.workflowId)
  match investigation with
  | none => getWorkflowProjection a.tenantId a.workflowId
  | some investigation =>
      if c.payload.currentState = .ticketReady then
        let _ ← transition env a c (investigationStarted investigation.investigationId)
        let latest ← Prog.observe (·.latestCheckpoint? a.tenantId a.workflowId)
        let latest ← Prog.need latest .investigationJournalInvalid
        recoverVerified env a latest
      else recoverVerified env a c

end WeFlow
