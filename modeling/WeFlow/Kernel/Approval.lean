import WeFlow.Kernel.Delivery

/-!
# `Approval` — policy activation, approval and their recovery

The explicit continuation of a verified response: an opt-in (`activatePolicyApproval`), then grant,
policy decision, authorization binding and approval request, each an idempotent "ensure" that every
recovery runs again (`recoverPolicyApproval`), then one approval decision (`submitApprovalDecision`).
-/

namespace WeFlow

open Txn

/-! ## The chain of facts -/

def newPolicyActivation (env : Env) (a : WorkflowActivation) (checkpointId : CheckpointId)
    (candidate : ResponseCandidate) : PolicyActivation :=
  { tenantId := a.tenantId, activationId := stableIdentifier ⟨a.workflowId⟩,
    workflowId := a.workflowId, caseId := a.caseId, caseRevisionId := a.caseRevisionId,
    sourceCheckpointId := checkpointId, policyVersion := api503PolicyVersion,
    deliveryResourceId := api503DeliveryResourceId, dataClassification := .synthetic,
    deliveryBudget := api503DeliveryBudget, controllerSubjectId := "fixture-controller-alpha",
    controllerRole := fixtureControllerRole, candidateHash := candidate.candidateSha256,
    evidenceHashes := candidate.evidenceHashes, activatedAt := env.now }

def insertPolicyActivation (p : PolicyActivation) (s : WorkflowStore) :
    Except WorkflowError (Unit × WorkflowStore) :=
  match s.policyActivationForWorkflow p.tenantId p.workflowId with
  | some existing => do
      require (existing.sourceCheckpointId = p.sourceCheckpointId ∧
        existing.candidateHash = p.candidateHash ∧ existing.evidenceHashes = p.evidenceHashes ∧
        existing.deliveryResourceId = p.deliveryResourceId ∧
        existing.dataClassification = p.dataClassification) .policyActivationConflict
      pure ((), s)
  | none => do
      let activations ← fetch (Table.insert? PolicyActivation.clash p s.policy.activations)
        .policyActivationPersistFailed
      pure ((), { s with policy := { s.policy with activations } })

/-- **`_ensure_policy_approval_activation`.** -/
def ensurePolicyApprovalActivation (env : Env) (a : WorkflowActivation) (c : Checkpoint) :
    Kernel Unit := do
  if c.payload.currentState ≠ .responseReady then
    let existing ← Prog.observe (·.policyActivationForWorkflow a.tenantId a.workflowId)
    Prog.check existing.isSome .policyContinuationNotAvailable
  else
    Prog.check (a.tenantId = fixtureTenantId) .policyFixtureTenantDenied
    let candidate ← Prog.observe (·.candidateMaterial a)
    let candidate ← Prog.need candidate .policyContinuationPredecessorInvalid
    Prog.atomically
      (insertPolicyActivation (newPolicyActivation env a c.payload.checkpointId candidate))

def insertGrant (row : GrantRow) (s : WorkflowStore) :
    Except WorkflowError (SealedGrant × WorkflowStore) :=
  match s.grantForWorkflow row.tenantId row.workflowId with
  | some existing => .ok (existing, s)
  | none => do
      let grants ← fetch (Table.insert? GrantRow.clash row s.policy.grants)
        .capabilityGrantPersistFailed
      pure (row.grant, { s with policy := { s.policy with grants } })

/-- **`_ensure_fixture_grant`.** -/
def ensureFixtureGrant (env : Env) (a : WorkflowActivation) (p : PolicyActivation) :
    Kernel SealedGrant := do
  let existing ← Prog.observe (·.grantForWorkflow a.tenantId a.workflowId)
  match existing with
  | some existing => pure existing
  | none =>
      let grant := issueFixtureGrant a.tenantId p.controllerSubjectId p.controllerRole env.now
      Prog.check (validateCapabilityGrant grant) .contractInvalid
      Prog.atomically (insertGrant ⟨a.tenantId, a.workflowId, grant⟩)

/-- The question `_ensure_policy_decision` evaluates: an inactive grant is left out of it. -/
def policyQuestion (a : WorkflowActivation) (p : PolicyActivation) (source : CheckpointPayload)
    (candidate : ResponseCandidate) (grant : Option SealedGrant) : PolicyQuestion :=
  { tenantId := a.tenantId, subjectId := p.controllerSubjectId, role := p.controllerRole,
    action := .outboundDeliveryExecute, caseId := a.caseId, caseRevisionId := a.caseRevisionId,
    workflowId := a.workflowId, checkpointId := p.sourceCheckpointId,
    workflowVersion := source.workflowVersion, candidateHash := candidate.candidateSha256,
    evidenceHashes := candidate.evidenceHashes, grant, resourceId := p.deliveryResourceId,
    dataClassification := p.dataClassification, remainingBudget := p.deliveryBudget }

/-- The transaction of `_ensure_policy_decision`: a stored decision is found by its input. -/
def insertDecision (d : SealedDecision) (s : WorkflowStore) :
    Except WorkflowError (SealedDecision × WorkflowStore) :=
  match (s.decisionsOf d.body.tenantId d.body.workflowId).find? fun x =>
      x.body.action = d.body.action ∧ x.body.policyInputSha256 = d.body.policyInputSha256 with
  | some existing => .ok (existing, s)
  | none => do
      let decisions ← fetch (Table.insert? decisionClash d s.policy.decisions)
        .policyDecisionPersistFailed
      pure (d, { s with policy := { s.policy with decisions } })

/-- **`_ensure_policy_decision`.** -/
def ensurePolicyDecision (env : Env) (a : WorkflowActivation) (p : PolicyActivation)
    (grant : SealedGrant) : Kernel SealedDecision := do
  let candidate ← Prog.observe (·.candidateMaterial a)
  let candidate ← Prog.need candidate .policyContinuationPredecessorInvalid
  let source ← Prog.observe fun s => s.journal.checkpoints.find? fun c =>
    c.payload.tenantId = a.tenantId ∧ c.payload.checkpointId = p.sourceCheckpointId
  let source ← Prog.need source .workflowJournalInvalid
  let active ← Prog.observe (·.grantIsActive a.tenantId grant.body.grantId)
  let question := policyQuestion a p source.payload candidate (if active then some grant else none)
  let decision ← Prog.need (evaluateFixturePolicy question env.now) .contractInvalid
  Prog.atomically (insertDecision decision)

def insertBinding (b : SealedBinding) (s : WorkflowStore) :
    Except WorkflowError (SealedBinding × WorkflowStore) :=
  match (s.bindingsOf b.body.tenantId b.body.workflowId).head? with
  | some existing => .ok (existing, s)
  | none => do
      let bindings ← fetch (Table.insert? bindingClash b s.policy.bindings)
        .authorizationBindingPersistFailed
      pure (b, { s with policy := { s.policy with bindings } })

/-- **`_ensure_authorization_binding`.** -/
def ensureAuthorizationBinding (env : Env) (p : PolicyActivation) (grant : SealedGrant)
    (decision : SealedDecision) : Kernel SealedBinding := do
  Prog.check (decision.body.decision = .allow) .policyDenied
  let binding ← Prog.need (bindFixtureAuthorization decision grant p.deliveryBudget
    (env.now + minutes 15) env.now) .contractInvalid
  Prog.atomically (insertBinding binding)

def insertApprovalRequest (r : ApprovalRequest) (s : WorkflowStore) :
    Except WorkflowError (ApprovalRequest × WorkflowStore) :=
  match s.approvalRequestForWorkflow r.tenantId r.workflowId with
  | some existing => .ok (existing, s)
  | none => do
      let requests ← fetch (Table.insert? ApprovalRequest.clash r s.policy.requests)
        .approvalRequestPersistFailed
      pure (r, { s with policy := { s.policy with requests } })

/-- **`_ensure_approval_request`.** -/
def ensureApprovalRequest (env : Env) (binding : SealedBinding) : Kernel ApprovalRequest := do
  let request ← Prog.need (buildApprovalRequest binding env.now) .contractInvalid
  Prog.atomically (insertApprovalRequest request)

/-! ## Approval decisions -/

/-- The transaction of `_persist_approval_decision`; `true` when the decision is new. A retried one
    must agree in its hash, and so in all of its fields. -/
def insertApproval (request : ApprovalRequest) (d : SealedApproval) (s : WorkflowStore) :
    Except WorkflowError ((SealedApproval × Bool) × WorkflowStore) :=
  match s.approvalDecisionForRequest d.body.tenantId request.approvalRequestId with
  | some existing => do
      require (existing.body.decision = d.body.decision ∧
        existing.body.approverId = d.body.approverId ∧
        existing.body.approverRole = d.body.approverRole ∧ existing.hash = d.hash)
        .approvalDecisionConflict
      pure ((existing, false), s)
  | none => do
      let approvals ← fetch (Table.insert? approvalClash d s.policy.approvals)
        .approvalDecisionPersistFailed
      pure ((d, true), { s with policy := { s.policy with approvals } })

/-- The denial of an approval, without the effects a delivery denial records. -/
def denyApproval (env : Env) (a : WorkflowActivation) (c : Checkpoint) (cause : CheckpointCause) :
    Kernel WorkflowProjection := do
  let _ ← transition env a c
    { transitionKind := .authorizationDenied, nextState := .waitingForOperator,
      resumeState := .waitingForOperator, causationEventId := cause }
  requireWorkflowProjection a.tenantId a.workflowId

/-- **`_apply_persisted_approval_decision`.** -/
def applyPersistedApprovalDecision (env : Env) (a : WorkflowActivation) (c : Checkpoint)
    (request : ApprovalRequest) (decision : SealedApproval) : Kernel WorkflowProjection := do
  let decisionId := decision.body.approvalDecisionId
  if c.payload.currentState ≠ .awaitingApproval then
    requireWorkflowProjection a.tenantId a.workflowId
  else if decision.body.decision ≠ .approved then denyApproval env a c (.approval decisionId)
  else
    let binding ← Prog.observe (·.authorizationBindingForWorkflow a.tenantId a.workflowId)
    let grant ← Prog.observe (·.grantForWorkflow a.tenantId a.workflowId)
    let policy ← Prog.observe (·.policyDecisionForWorkflow a.tenantId a.workflowId)
    let binding ← Prog.need binding .policyJournalInvalid
    let grant ← Prog.need grant .policyJournalInvalid
    let policy ← Prog.need policy .policyJournalInvalid
    let profile ← Prog.observe (·.authorizationProfileIsCurrent env.now a binding policy grant)
    if ¬ profile then denyApproval env a c (.approvalInvalid decisionId)
    else
      let candidate ← Prog.observe (·.candidateMaterial a)
      let candidate ← Prog.need candidate .policyContinuationPredecessorInvalid
      if ¬ WorkflowStore.approvalIsCurrent env.now a request decision binding candidate then
        denyApproval env a c (.approvalInvalid decisionId)
      else
        let c ← transition env a c
          { transitionKind := .approvalGranted, nextState := .delivering, resumeState := .delivering,
            causationEventId := .approval decisionId }
        recoverDelivery env a c

/-! ## Recovery -/

/-- The part of `_recover_policy_approval` behind the chain of facts, by the state reached. -/
def continuePolicyApproval (env : Env) (a : WorkflowActivation) (c : Checkpoint)
    (state : WorkflowState) (request : ApprovalRequest) : Kernel WorkflowProjection := do
  if state = .awaitingApproval then
    let persisted ← Prog.observe (·.approvalDecisionForRequest a.tenantId request.approvalRequestId)
    match persisted with
    | none => requireWorkflowProjection a.tenantId a.workflowId
    | some decision => applyPersistedApprovalDecision env a c request decision
  else if state = .delivering then recoverDelivery env a c
  else requireWorkflowProjection a.tenantId a.workflowId

/-- **`_recover_policy_approval`.** -/
def recoverPolicyApproval (env : Env) (a : WorkflowActivation) : Kernel WorkflowProjection := do
  let policyActivation ← Prog.observe (·.policyActivationForWorkflow a.tenantId a.workflowId)
  match policyActivation with
  | none => requireWorkflowProjection a.tenantId a.workflowId
  | some policyActivation =>
      let grant ← ensureFixtureGrant env a policyActivation
      let decision ← ensurePolicyDecision env a policyActivation grant
      if decision.body.decision ≠ .allow then requireWorkflowProjection a.tenantId a.workflowId
      else
        let binding ← ensureAuthorizationBinding env policyActivation grant decision
        let request ← ensureApprovalRequest env binding
        let latest ← Prog.observe (·.latestCheckpoint? a.tenantId a.workflowId)
        let latest ← Prog.need latest .workflowJournalInvalid
        if latest.payload.currentState = .responseReady then
          let c ← transition env a latest
            { transitionKind := .policyApprovalActivated, nextState := .awaitingApproval,
              resumeState := .awaitingApproval,
              causationEventId := .approvalRequest request.approvalRequestId }
          continuePolicyApproval env a c .awaitingApproval request
        else continuePolicyApproval env a latest latest.payload.currentState request

/-- **`activate_policy_approval`** of the one allowlisted fixture. -/
def activatePolicyApproval (env : Env) (tenantId : String) (caseId : CaseId) :
    Kernel WorkflowProjection := do
  let activation ← Prog.observe (·.activationForCaseForTenant tenantId caseId)
  let activation ← Prog.need activation .notFound
  let checkpoint ← Prog.observe (·.latestCheckpoint? tenantId activation.workflowId)
  let checkpoint ← Prog.need checkpoint .workflowJournalInvalid
  ensurePolicyApprovalActivation env activation checkpoint
  recoverPolicyApproval env activation

/-- **`submit_approval_decision`.** -/
def submitApprovalDecision (env : Env) (tenantId : String) (caseId : CaseId)
    (approvalRequestId : ApprovalRequestId) (decision : ApprovalVerdict)
    (expectedWorkflowVersion : Nat) (approverId approverRole : String) :
    Kernel WorkflowProjection := do
  Prog.check (approverRole = fixtureApproverRole) .approvalActorNotAuthorized
  let activation ← Prog.observe (·.activationForCaseForTenant tenantId caseId)
  let activation ← Prog.need activation .notFound
  let request ← Prog.observe (·.approvalRequestForWorkflow tenantId activation.workflowId)
  let request ← Prog.need request .notFound
  Prog.check (request.approvalRequestId = approvalRequestId) .notFound
  let checkpoint ← Prog.observe (·.latestCheckpoint? tenantId activation.workflowId)
  let checkpoint ← Prog.need checkpoint .workflowJournalInvalid
  let existing ← Prog.observe (·.approvalDecisionForRequest tenantId approvalRequestId)
  match existing with
  | some existing =>
      Prog.check (existing.body.decision = decision ∧ existing.body.approverId = approverId ∧
        existing.body.approverRole = approverRole) .approvalDecisionConflict
      applyPersistedApprovalDecision env activation checkpoint request existing
  | none =>
      Prog.check (checkpoint.payload.workflowVersion = expectedWorkflowVersion)
        .workflowVersionConflict
      Prog.check (checkpoint.payload.currentState = .awaitingApproval)
        .approvalDecisionNotAvailable
      let built ← Prog.need
        (buildApprovalDecision request approverId approverRole decision env.now) .contractInvalid
      let (persisted, _) ← Prog.atomically (insertApproval request built)
      applyPersistedApprovalDecision env activation checkpoint request persisted

/-- The row of a revocation. -/
def revocation (env : Env) (tenantId : String) (grantId : GrantId) : GrantStatusEvent :=
  { tenantId, grantStatusEventId := stableIdentifier ⟨grantId, .revoked⟩, grantId, status := .revoked,
    recordedAt := env.now }

/-- **`revoke_fixture_grant`.** -/
def revokeFixtureGrant (env : Env) (tenantId : String) (caseId : CaseId) : Kernel Unit := do
  let activation ← Prog.observe (·.activationForCaseForTenant tenantId caseId)
  let activation ← Prog.need activation .notFound
  let grant ← Prog.observe (·.grantForWorkflow tenantId activation.workflowId)
  let grant ← Prog.need grant .capabilityGrantNotFound
  let grantId := grant.body.grantId
  Prog.atomically fun s =>
    if s.policy.grantEvents.any fun e =>
        e.tenantId = tenantId ∧ e.grantId = grantId ∧ e.status = .revoked then .ok ((), s)
    else do
      let grantEvents ← fetch (Table.insert? GrantStatusEvent.clash (revocation env tenantId grantId)
        s.policy.grantEvents) .capabilityGrantRevocationFailed
      pure ((), { s with policy := { s.policy with grantEvents } })

end WeFlow
