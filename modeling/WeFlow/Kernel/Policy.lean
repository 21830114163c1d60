import WeFlow.Contracts.Authorization

/-!
# `Policy` — the fixture policy

The pure helpers of `policy.py`: the grant, the default-deny evaluation, the binding, the approval
request and the approval decision of the one named fixture. Each builder validates what it built.
-/

namespace WeFlow

def fixtureTenantId : String := "tenant-alpha"

def api503DeliveryResourceId : String := "fixture-local-im:api-503"

def api503PolicyVersion : String := "fixture-policy.v1"

def api503DeliveryBudget : Nat := 1

def fixtureControllerRole : String := "fixture-controller"

def fixtureApproverRole : String := "fixture-approver"

def allowlistedActions : List PolicyAction :=
  [.approvalDecide, .approvalRequest, .outboundDeliveryExecute]

/-- A span of minutes on the clock. -/
def minutes (n : Nat) : Nat := n * 60000000

/-- `issue_fixture_grant`: the identity of the grant does not depend on the workflow. -/
def issueFixtureGrant (tenantId subjectId role : String) (now : Instant) : SealedGrant :=
  .of
    { tenantId, grantId := stableIdentifier ⟨tenantId, subjectId, role⟩, subjectId,
      scopes := allowlistedActions, issuedAt := now, expiresAt := now + minutes 30,
      status := .active, grantVersion := "fixture-v1", role, resourceScope := api503DeliveryResourceId,
      dataClassifications := [.synthetic] }

/-- The arguments of `evaluate_fixture_policy`. -/
structure PolicyQuestion where
  tenantId : String
  subjectId : String
  role : String
  action : PolicyAction
  caseId : CaseId
  caseRevisionId : CaseRevisionId
  workflowId : WorkflowId
  checkpointId : CheckpointId
  workflowVersion : Nat
  candidateHash : Sha256Hex
  evidenceHashes : List Sha256Hex
  grant : Option SealedGrant
  resourceId : String
  dataClassification : DataClassification
  remainingBudget : Nat
  deriving DecidableEq, Repr

/-- The hashed input of an evaluation: it names the grant and leaves the clock out. -/
def PolicyQuestion.input (q : PolicyQuestion) : PolicyInput :=
  { tenantId := q.tenantId, subjectId := q.subjectId, role := q.role, action := q.action,
    caseId := q.caseId, caseRevisionId := q.caseRevisionId, workflowId := q.workflowId,
    checkpointId := q.checkpointId, workflowVersion := q.workflowVersion,
    candidateHash := q.candidateHash, evidenceHashes := q.evidenceHashes,
    resourceId := q.resourceId, dataClassification := q.dataClassification,
    remainingBudget := q.remainingBudget, grantId := q.grant.map (·.body.grantId),
    grantSha256 := q.grant.map (·.hash) }

/-- The grant is the one the question is about. -/
def PolicyQuestion.grantMatches (q : PolicyQuestion) (g : CapabilityGrant) : Bool :=
  g.tenantId = q.tenantId ∧ g.subjectId = q.subjectId ∧ g.role = q.role ∧ g.status = .active ∧
  q.action ∈ g.scopes ∧ g.resourceScope = q.resourceId ∧
  q.dataClassification ∈ g.dataClassifications

/-- The reason of an evaluation; only `fixturePolicyAllowed` allows. -/
def PolicyQuestion.reason (q : PolicyQuestion) (now : Instant) : PolicyReason :=
  if q.tenantId ≠ fixtureTenantId ∨ q.evidenceHashes = [] then .identityOrCausationDenied
  else if q.resourceId ≠ api503DeliveryResourceId then .resourceDenied
  else if q.dataClassification ≠ .synthetic then .classificationDenied
  else if q.remainingBudget < 1 then .budgetDenied
  else
    match q.grant with
    | none => .grantMissing
    | some grant =>
        if ¬ q.grantMatches grant.body then .grantDenied
        else if grant.body.expiresAt ≤ now then .grantExpired
        else if q.role ≠ (if q.action = .approvalDecide then fixtureApproverRole
            else fixtureControllerRole) then .roleDenied
        else .fixturePolicyAllowed

/-- The record of an evaluation, before it is validated. -/
def policyDecisionOf (q : PolicyQuestion) (now : Instant) : SealedDecision :=
  let reasonCode := q.reason now
  let allow : Bool := reasonCode = .fixturePolicyAllowed
  .of
    { tenantId := q.tenantId,
      policyDecisionId := stableIdentifier ⟨sha256 q.input, allow⟩,
      caseId := q.caseId, caseRevisionId := q.caseRevisionId,
      decision := if allow then .allow else .deny, reasonCode,
      evidenceHashes := q.evidenceHashes, decidedAt := now, checkpointId := q.checkpointId,
      workflowId := q.workflowId, workflowVersion := q.workflowVersion,
      candidateHash := q.candidateHash, action := q.action, policyVersion := api503PolicyVersion,
      policyInputSha256 := sha256 q.input, grantId := q.grant.map (·.body.grantId),
      grantSha256 := q.grant.map (·.hash), subjectId := q.subjectId, role := q.role,
      resourceId := q.resourceId, dataClassification := q.dataClassification }

/-- A built record, when its contract accepts it. -/
def validated {α : Type} (valid : α → Bool) (record : α) : Option α :=
  if valid record then some record else none

@[simp] theorem validated_eq_some {α : Type} {valid : α → Bool} {record r : α} :
    validated valid record = some r ↔ valid record = true ∧ r = record := by
  unfold validated
  by_cases h : valid record = true
  · rw [if_pos h]
    simp [h, @eq_comm _ r]
  · rw [if_neg h]
    simp [h]

/-- **`evaluate_fixture_policy`.** -/
def evaluateFixturePolicy (q : PolicyQuestion) (now : Instant) : Option SealedDecision :=
  validated validatePolicyDecision (policyDecisionOf q now)

/-- `bind_fixture_authorization` of a decision that names a grant. -/
def bindFixtureAuthorization (decision : SealedDecision) (grant : SealedGrant)
    (remainingBudget : Nat) (expiresAt createdAt : Instant) : Option SealedBinding :=
  let d := decision.body
  let g := grant.body
  validated validateAuthorizationBinding <| .of
    { tenantId := d.tenantId,
      authorizationBindingId := stableIdentifier
        ⟨decision.hash, grant.hash, d.candidateHash, d.evidenceHashes⟩,
      caseId := d.caseId, caseRevisionId := d.caseRevisionId, workflowId := d.workflowId,
      checkpointId := d.checkpointId, workflowVersion := d.workflowVersion,
      candidateHash := d.candidateHash, evidenceHashes := d.evidenceHashes, action := d.action,
      policyDecisionId := d.policyDecisionId, policyVersion := d.policyVersion,
      policyDecisionSha256 := decision.hash, grantId := g.grantId, grantVersion := g.grantVersion,
      grantSha256 := grant.hash, subjectId := g.subjectId, role := g.role,
      deliveryResourceId := api503DeliveryResourceId, dataClassification := .synthetic,
      remainingBudget, expiresAt, createdAt }

def buildApprovalRequest (binding : SealedBinding) (createdAt : Instant) : Option ApprovalRequest :=
  let b := binding.body
  validated validateApprovalRequest
    { tenantId := b.tenantId, approvalRequestId := stableIdentifier ⟨binding.hash⟩,
      caseId := b.caseId, caseRevisionId := b.caseRevisionId, candidateHash := b.candidateHash,
      policyDecisionId := b.policyDecisionId, evidenceHashes := b.evidenceHashes, createdAt,
      expiresAt := b.expiresAt, workflowId := b.workflowId, checkpointId := b.checkpointId,
      workflowVersion := b.workflowVersion, authorizationBindingSha256 := binding.hash,
      policyDecisionSha256 := b.policyDecisionSha256, policyVersion := b.policyVersion,
      grantSha256 := b.grantSha256 }

def buildApprovalDecision (request : ApprovalRequest) (approverId approverRole : String)
    (decision : ApprovalVerdict) (decidedAt : Instant) : Option SealedApproval :=
  validated validateApprovalDecision <| .of
    { tenantId := request.tenantId,
      approvalDecisionId := stableIdentifier ⟨request.approvalRequestId, decision, approverId⟩,
      approvalRequestId := request.approvalRequestId, caseId := request.caseId,
      caseRevisionId := request.caseRevisionId, candidateHash := request.candidateHash,
      evidenceHashes := request.evidenceHashes, decision, decidedAt,
      expiresAt := request.expiresAt, workflowId := request.workflowId,
      checkpointId := request.checkpointId, workflowVersion := request.workflowVersion,
      authorizationBindingSha256 := request.authorizationBindingSha256, approverId, approverRole }

end WeFlow
