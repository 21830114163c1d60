import WeFlow.Kernel.Investigation

/-!
# `Authorization` — whether a delivery is currently authorized

The queries of the policy tables, the verified candidate a policy decision is about, and the two checks
that guard a delivery: `authorizationProfileIsCurrent` and `approvalIsCurrent`. Each reads the store as
it is now and the clock, and fails closed.
-/

namespace WeFlow

namespace WorkflowStore

/-- `_policy_activation_for_workflow`. -/
def policyActivationForWorkflow (s : WorkflowStore) (tenantId : String) (workflowId : WorkflowId) :
    Option PolicyActivation :=
  s.policy.activations.find? fun p => p.tenantId = tenantId ∧ p.workflowId = workflowId

/-- `_grant_for_workflow`. -/
def grantForWorkflow (s : WorkflowStore) (tenantId : String) (workflowId : WorkflowId) :
    Option SealedGrant :=
  (s.grantsOf tenantId workflowId).head?

/-- `_grant_is_active`: no status event is stored for the grant. -/
def grantIsActive (s : WorkflowStore) (tenantId : String) (grantId : GrantId) : Bool :=
  ¬ s.policy.grantEvents.any fun e => e.tenantId = tenantId ∧ e.grantId = grantId

/-- `_policy_decision_for_workflow`: the last one about delivery. -/
def policyDecisionForWorkflow (s : WorkflowStore) (tenantId : String) (workflowId : WorkflowId) :
    Option SealedDecision :=
  ((s.decisionsOf tenantId workflowId).filter
    (·.body.action = .outboundDeliveryExecute)).getLast?

/-- `_authorization_binding_for_workflow`. -/
def authorizationBindingForWorkflow (s : WorkflowStore) (tenantId : String)
    (workflowId : WorkflowId) : Option SealedBinding :=
  (s.bindingsOf tenantId workflowId).getLast?

/-- `_approval_request_for_workflow`. -/
def approvalRequestForWorkflow (s : WorkflowStore) (tenantId : String) (workflowId : WorkflowId) :
    Option ApprovalRequest :=
  (s.requestsOf tenantId workflowId).head?

/-- `_approval_decision_for_request`. -/
def approvalDecisionForRequest (s : WorkflowStore) (tenantId : String)
    (requestId : ApprovalRequestId) : Option SealedApproval :=
  s.policy.approvals.find? fun p =>
    p.body.tenantId = tenantId ∧ p.body.approvalRequestId = requestId

/-- **`_change4_candidate_material`**: the latest candidate, when the latest outcome verified it. -/
def candidateMaterial (s : WorkflowStore) (a : WorkflowActivation) : Option ResponseCandidate := do
  let activation ← s.activationForCaseForTenant a.tenantId a.caseId
  let _ ← s.investigationActivation? a.tenantId activation.workflowId
  let row ← (s.candidatesOf a.tenantId activation.workflowId).getLast?
  let outcomeRow ← (s.outcomesOf a.tenantId activation.workflowId).getLast?
  let candidate := candidatePayload activation row
  let outcome := verifierOutcomePayload activation outcomeRow
  if outcome.outcome = .verified ∧ candidate.candidateSha256 = outcome.candidateSha256 ∧
      candidate.evidenceHashes ≠ [] then some candidate else none

/-- The current facts a binding is compared with. -/
def currentFacts (a : WorkflowActivation) (binding : SealedBinding) (candidate : ResponseCandidate)
    (now : Instant) : CurrentFacts :=
  { caseRevisionId := a.caseRevisionId, checkpointId := binding.body.checkpointId,
    workflowVersion := binding.body.workflowVersion, candidateHash := candidate.candidateSha256,
    evidenceHashes := candidate.evidenceHashes, tenantId := a.tenantId, now }

/-- **`_authorization_profile_is_current`.** -/
def authorizationProfileIsCurrent (s : WorkflowStore) (now : Instant) (a : WorkflowActivation)
    (binding : SealedBinding) (decision : SealedDecision) (grant : SealedGrant) : Bool :=
  s.grantIsActive a.tenantId grant.body.grantId ∧
  (s.candidateMaterial a).any fun candidate =>
    validateAuthorizationProfile binding grant decision .outboundDeliveryExecute
      api503DeliveryResourceId .synthetic (currentFacts a binding candidate now)

/-- The approval check both delivery paths make after the profile. -/
def approvalIsCurrent (now : Instant) (a : WorkflowActivation) (request : ApprovalRequest)
    (approval : SealedApproval) (binding : SealedBinding) (candidate : ResponseCandidate) : Bool :=
  validateHashBoundApproval request approval binding (currentFacts a binding candidate now)
    approval.body.approverId fixtureApproverRole

end WorkflowStore

end WeFlow
