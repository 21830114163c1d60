import WeFlow.Contracts.Agent

/-!
# `Authorization` — hash-bound authorization and outbound delivery contracts

The records of `authorization.py` and their validators: grant, policy decision, authorization binding,
approval request, approval decision, and the delivery chain. A record that claims its own content hash
is `Sealed`. A policy decision taken without a grant names the grant `grant-unavailable` with a zero
hash; both are `none` here.

## Contents

* `validateAuthorizationProfile` — `validate_change4_authorization_profile`.
* `validateHashBoundApproval`, `validateOutboundDeliveryChain`.
-/

namespace WeFlow

inductive PolicyAction where
  | approvalRequest | approvalDecide | outboundDeliveryExecute
  deriving DecidableEq, Repr

inductive DataClassification where
  | synthetic | unsafeInstruction | secret | rawPrivate
  deriving DecidableEq, Repr

inductive GrantStatus where
  | active | revoked | expired
  deriving DecidableEq, Repr

/-! ## Grants -/

/-- The material of a grant identity (the fixture is constant): not the workflow. -/
structure GrantMaterial where
  tenantId : String
  subjectId : String
  role : String
  deriving DecidableEq, Repr

abbrev GrantId := StableId GrantMaterial

structure CapabilityGrant where
  tenantId : String
  grantId : GrantId
  subjectId : String
  scopes : List PolicyAction
  issuedAt : Instant
  expiresAt : Instant
  status : GrantStatus
  grantVersion : String
  role : String
  resourceScope : String
  dataClassifications : List DataClassification
  deriving DecidableEq, Repr

abbrev SealedGrant := Sealed CapabilityGrant

/-! ## Policy decisions -/

structure PolicyInput where
  tenantId : String
  subjectId : String
  role : String
  action : PolicyAction
  caseId : CaseId
  caseRevisionId : CaseRevisionId
  workflowId : WorkflowId
  checkpointId : CheckpointId
  workflowVersion : Nat
  candidateHash : Sha256Hex
  evidenceHashes : List Sha256Hex
  resourceId : String
  dataClassification : DataClassification
  remainingBudget : Nat
  grantId : Option GrantId
  grantSha256 : Option (Digest CapabilityGrant)
  deriving DecidableEq, Repr

inductive PolicyVerdict where
  | allow | deny
  deriving DecidableEq, Repr

inductive PolicyReason where
  | identityOrCausationDenied | resourceDenied | classificationDenied | budgetDenied | grantMissing
  | grantDenied | grantExpired | roleDenied | fixturePolicyAllowed
  deriving DecidableEq, Repr

structure PolicyDecisionMaterial where
  policyInputSha256 : Digest PolicyInput
  decision : Bool
  deriving DecidableEq, Repr

abbrev PolicyDecisionId := StableId PolicyDecisionMaterial

structure PolicyDecision where
  tenantId : String
  policyDecisionId : PolicyDecisionId
  caseId : CaseId
  caseRevisionId : CaseRevisionId
  decision : PolicyVerdict
  reasonCode : PolicyReason
  evidenceHashes : List Sha256Hex
  decidedAt : Instant
  checkpointId : CheckpointId
  workflowId : WorkflowId
  workflowVersion : Nat
  candidateHash : Sha256Hex
  action : PolicyAction
  policyVersion : String
  policyInputSha256 : Digest PolicyInput
  grantId : Option GrantId
  grantSha256 : Option (Digest CapabilityGrant)
  subjectId : String
  role : String
  resourceId : String
  dataClassification : DataClassification
  deriving DecidableEq, Repr

abbrev SealedDecision := Sealed PolicyDecision

/-! ## Authorization bindings -/

structure BindingMaterial where
  policyDecisionSha256 : Digest PolicyDecision
  grantSha256 : Digest CapabilityGrant
  candidateHash : Sha256Hex
  evidenceHashes : List Sha256Hex
  deriving DecidableEq, Repr

abbrev BindingId := StableId BindingMaterial

structure AuthorizationBinding where
  tenantId : String
  authorizationBindingId : BindingId
  caseId : CaseId
  caseRevisionId : CaseRevisionId
  workflowId : WorkflowId
  checkpointId : CheckpointId
  workflowVersion : Nat
  candidateHash : Sha256Hex
  evidenceHashes : List Sha256Hex
  action : PolicyAction
  policyDecisionId : PolicyDecisionId
  policyVersion : String
  policyDecisionSha256 : Digest PolicyDecision
  grantId : GrantId
  grantVersion : String
  grantSha256 : Digest CapabilityGrant
  subjectId : String
  role : String
  deliveryResourceId : String
  dataClassification : DataClassification
  remainingBudget : Nat
  expiresAt : Instant
  createdAt : Instant
  deriving DecidableEq, Repr

abbrev SealedBinding := Sealed AuthorizationBinding

abbrev BindingHash := Digest AuthorizationBinding

/-! ## Approvals -/

structure ApprovalRequestMaterial where
  authorizationBindingSha256 : BindingHash
  deriving DecidableEq, Repr

abbrev ApprovalRequestId := StableId ApprovalRequestMaterial

structure ApprovalRequest where
  tenantId : String
  approvalRequestId : ApprovalRequestId
  caseId : CaseId
  caseRevisionId : CaseRevisionId
  candidateHash : Sha256Hex
  policyDecisionId : PolicyDecisionId
  evidenceHashes : List Sha256Hex
  createdAt : Instant
  expiresAt : Instant
  workflowId : WorkflowId
  checkpointId : CheckpointId
  workflowVersion : Nat
  authorizationBindingSha256 : BindingHash
  policyDecisionSha256 : Digest PolicyDecision
  policyVersion : String
  grantSha256 : Digest CapabilityGrant
  deriving DecidableEq, Repr

inductive ApprovalVerdict where
  | approved | rejected
  deriving DecidableEq, Repr

structure ApprovalDecisionMaterial where
  approvalRequestId : ApprovalRequestId
  decision : ApprovalVerdict
  approverId : String
  deriving DecidableEq, Repr

abbrev ApprovalDecisionId := StableId ApprovalDecisionMaterial

structure ApprovalDecision where
  tenantId : String
  approvalDecisionId : ApprovalDecisionId
  approvalRequestId : ApprovalRequestId
  caseId : CaseId
  caseRevisionId : CaseRevisionId
  candidateHash : Sha256Hex
  evidenceHashes : List Sha256Hex
  decision : ApprovalVerdict
  decidedAt : Instant
  expiresAt : Instant
  workflowId : WorkflowId
  checkpointId : CheckpointId
  workflowVersion : Nat
  authorizationBindingSha256 : BindingHash
  approverId : String
  approverRole : String
  deriving DecidableEq, Repr

abbrev SealedApproval := Sealed ApprovalDecision

/-! ## The delivery chain -/

/-- A delivery's natural key; channel and conversation are constant. -/
structure DeliveryNaturalKey where
  tenantId : String
  caseId : CaseId
  caseRevisionId : CaseRevisionId
  candidateHash : Sha256Hex
  authorizationBindingSha256 : BindingHash
  deriving DecidableEq, Repr

structure DeliveryIntentMaterial where
  workflowId : WorkflowId
  naturalKey : DeliveryNaturalKey
  deriving DecidableEq, Repr

abbrev DeliveryIntentId := StableId DeliveryIntentMaterial

/-- The material of `intended_state_hash`; the delivery resource is constant. -/
structure DeliveryStateMaterial where
  candidateHash : Sha256Hex
  authorizationBindingSha256 : BindingHash
  deriving DecidableEq, Repr

/-- The material of an idempotency key; provider and operation are constant. -/
structure DeliveryKeyMaterial where
  tenantId : String
  naturalKey : DeliveryNaturalKey
  intendedStateHash : Digest DeliveryStateMaterial
  deriving DecidableEq, Repr

structure DeliveryIntent where
  tenantId : String
  caseId : CaseId
  caseRevisionId : CaseRevisionId
  workflowId : WorkflowId
  checkpointId : CheckpointId
  intentId : DeliveryIntentId
  candidateHash : Sha256Hex
  authorizationBindingSha256 : BindingHash
  naturalKey : DeliveryNaturalKey
  intendedStateHash : Digest DeliveryStateMaterial
  idempotencyKey : Digest DeliveryKeyMaterial
  evidenceHashes : List Sha256Hex
  correlationId : String
  createdAt : Instant
  deriving DecidableEq, Repr

structure DeliveryMaterial where
  tenantId : String
  naturalKey : DeliveryNaturalKey
  deriving DecidableEq, Repr

abbrev DeliveryId := StableId DeliveryMaterial

/-- What a reconciliation or an execution of an effect reports. -/
inductive OutcomeStatus where
  | absent | present | unknown | conflict
  deriving DecidableEq, Repr

/-- The call that an observation records. -/
inductive EffectPhase where
  | reconcileTimeout | reconcile | execute
  deriving DecidableEq, Repr

inductive DeliveryReason where
  | reconciliationTimeout | absent | conflict | present | idempotent | reconciled | recorded
  deriving DecidableEq, Repr

structure DeliveryObservationMaterial where
  intentId : DeliveryIntentId
  phase : EffectPhase
  status : OutcomeStatus
  deliveryId : Option DeliveryId
  deriving DecidableEq, Repr

abbrev DeliveryObservationId := StableId DeliveryObservationMaterial

structure DeliveryObservation where
  tenantId : String
  caseId : CaseId
  caseRevisionId : CaseRevisionId
  workflowId : WorkflowId
  checkpointId : CheckpointId
  observationId : DeliveryObservationId
  intentId : DeliveryIntentId
  status : OutcomeStatus
  observedDeliveryId : Option DeliveryId
  observedVersion : Option Nat
  contentSha256 : Option Sha256Hex
  reasonCode : DeliveryReason
  recordedAt : Instant
  deriving DecidableEq, Repr

structure DeliveryCompletionMaterial where
  intentId : DeliveryIntentId
  deriving DecidableEq, Repr

abbrev DeliveryCompletionId := StableId DeliveryCompletionMaterial

structure DeliveryCompletion where
  tenantId : String
  caseId : CaseId
  caseRevisionId : CaseRevisionId
  workflowId : WorkflowId
  checkpointId : CheckpointId
  completionId : DeliveryCompletionId
  intentId : DeliveryIntentId
  observationId : DeliveryObservationId
  observedDeliveryId : DeliveryId
  observedVersion : Nat
  contentSha256 : Sha256Hex
  completedAt : Instant
  deriving DecidableEq, Repr

/-! ## Schemas -/

def validateCapabilityGrant (g : SealedGrant) : Bool :=
  nonEmpty g.body.tenantId ∧ nonEmpty g.body.subjectId ∧ nonEmpty g.body.grantVersion ∧
  nonEmpty g.body.role ∧ nonEmpty g.body.resourceScope ∧ g.body.dataClassifications ≠ []

def validatePolicyDecision (d : SealedDecision) : Bool :=
  nonEmpty d.body.tenantId ∧ d.body.evidenceHashes ≠ [] ∧ nonEmpty d.body.policyVersion ∧
  nonEmpty d.body.subjectId ∧ nonEmpty d.body.role ∧ nonEmpty d.body.resourceId

/-- The schema of a binding, its hash, and its list of evidence without repetition. -/
def validateAuthorizationBinding (b : SealedBinding) : Bool :=
  nonEmpty b.body.tenantId ∧ nonEmpty b.body.policyVersion ∧ nonEmpty b.body.grantVersion ∧
  nonEmpty b.body.subjectId ∧ nonEmpty b.body.role ∧ nonEmpty b.body.deliveryResourceId ∧
  b.body.evidenceHashes ≠ [] ∧ b.intact ∧ b.body.evidenceHashes.Nodup

def validateApprovalRequest (r : ApprovalRequest) : Bool :=
  nonEmpty r.tenantId ∧ r.evidenceHashes ≠ [] ∧ nonEmpty r.policyVersion

def validateApprovalDecision (a : SealedApproval) : Bool :=
  nonEmpty a.body.tenantId ∧ a.body.evidenceHashes ≠ [] ∧ nonEmpty a.body.approverId ∧
  nonEmpty a.body.approverRole

def validateOutboundDeliveryIntent (i : DeliveryIntent) : Bool :=
  nonEmpty i.tenantId ∧ i.evidenceHashes ≠ [] ∧ nonEmpty i.correlationId

def validateOutboundDeliveryObservation (o : DeliveryObservation) : Bool :=
  nonEmpty o.tenantId ∧ o.observedVersion.all (1 ≤ ·)

def validateOutboundDeliveryCompletion (c : DeliveryCompletion) : Bool :=
  nonEmpty c.tenantId ∧ 1 ≤ c.observedVersion

/-! ## The authorization profile -/

/-- What the caller of a profile or approval check currently sees. -/
structure CurrentFacts where
  caseRevisionId : CaseRevisionId
  checkpointId : CheckpointId
  workflowVersion : Nat
  candidateHash : Sha256Hex
  evidenceHashes : List Sha256Hex
  tenantId : String
  now : Instant
  deriving DecidableEq, Repr

/-- The fields in which a binding repeats its grant. -/
def AuthorizationBinding.sameGrant (b : AuthorizationBinding) (grant : SealedGrant) : Bool :=
  b.tenantId = grant.body.tenantId ∧ b.grantId = grant.body.grantId ∧
  b.grantVersion = grant.body.grantVersion ∧ b.grantSha256 = grant.hash ∧
  b.subjectId = grant.body.subjectId ∧ b.role = grant.body.role

/-- The fields in which a binding repeats its policy decision. -/
def AuthorizationBinding.sameDecision (b : AuthorizationBinding) (decision : SealedDecision) :
    Bool :=
  b.tenantId = decision.body.tenantId ∧ b.caseId = decision.body.caseId ∧
  b.caseRevisionId = decision.body.caseRevisionId ∧ b.workflowId = decision.body.workflowId ∧
  b.checkpointId = decision.body.checkpointId ∧
  b.workflowVersion = decision.body.workflowVersion ∧
  b.candidateHash = decision.body.candidateHash ∧
  b.evidenceHashes = decision.body.evidenceHashes ∧
  b.policyDecisionId = decision.body.policyDecisionId ∧
  b.policyVersion = decision.body.policyVersion ∧ b.policyDecisionSha256 = decision.hash ∧
  some b.grantId = decision.body.grantId ∧ some b.grantSha256 = decision.body.grantSha256 ∧
  b.subjectId = decision.body.subjectId ∧ b.role = decision.body.role

/-- The scope a grant must have for an action on a resource. -/
def CapabilityGrant.covers (g : CapabilityGrant) (action : PolicyAction) (resourceId : String)
    (dataClassification : DataClassification) : Bool :=
  action ∈ g.scopes ∧ resourceId = g.resourceScope ∧ dataClassification ∈ g.dataClassifications ∧
  dataClassification = .synthetic

/-- The purpose that binding and decision must name. -/
def AuthorizationBinding.purpose (b : AuthorizationBinding) (d : PolicyDecision)
    (action : PolicyAction) (resourceId : String) (dataClassification : DataClassification) : Bool :=
  b.action = action ∧ d.action = action ∧ b.deliveryResourceId = resourceId ∧
  b.dataClassification = dataClassification ∧ d.resourceId = resourceId ∧
  d.dataClassification = dataClassification

/-- Whether a binding is about what the caller currently sees. -/
def AuthorizationBinding.current (b : AuthorizationBinding) (facts : CurrentFacts) : Bool :=
  b.caseRevisionId = facts.caseRevisionId ∧ b.checkpointId = facts.checkpointId ∧
  b.workflowVersion = facts.workflowVersion ∧ b.candidateHash = facts.candidateHash ∧
  b.evidenceHashes = facts.evidenceHashes ∧ b.tenantId = facts.tenantId

/-- **`validate_change4_authorization_profile`**, with `require_allow` and without the two optional
    identities no caller passes. -/
def validateAuthorizationProfile (binding : SealedBinding) (grant : SealedGrant)
    (decision : SealedDecision) (action : PolicyAction) (resourceId : String)
    (dataClassification : DataClassification) (facts : CurrentFacts) : Bool :=
  validateAuthorizationBinding binding ∧ validateCapabilityGrant grant ∧
  validatePolicyDecision decision ∧ grant.intact ∧ decision.intact ∧
  decision.body.decision = .allow ∧ grant.body.status = .active ∧
  facts.now < grant.body.expiresAt ∧ facts.now < binding.body.expiresAt ∧
  grant.body.covers action resourceId dataClassification ∧
  binding.body.sameGrant grant ∧ binding.body.sameDecision decision ∧
  binding.body.purpose decision.body action resourceId dataClassification ∧
  binding.body.current facts

/-- The fields in which a request repeats an approval decision. -/
def ApprovalRequest.sameDecision (r : ApprovalRequest) (a : ApprovalDecision) : Bool :=
  r.tenantId = a.tenantId ∧ r.approvalRequestId = a.approvalRequestId ∧ r.caseId = a.caseId ∧
  r.caseRevisionId = a.caseRevisionId ∧ r.candidateHash = a.candidateHash ∧
  r.evidenceHashes = a.evidenceHashes ∧ r.workflowId = a.workflowId ∧
  r.checkpointId = a.checkpointId ∧ r.workflowVersion = a.workflowVersion ∧
  r.authorizationBindingSha256 = a.authorizationBindingSha256

/-- The fields in which a request repeats its binding. -/
def ApprovalRequest.sameBinding (r : ApprovalRequest) (binding : SealedBinding) : Bool :=
  r.authorizationBindingSha256 = binding.hash ∧
  r.policyDecisionSha256 = binding.body.policyDecisionSha256 ∧
  r.policyVersion = binding.body.policyVersion ∧ r.grantSha256 = binding.body.grantSha256

/-- Whether a request is about what the caller currently sees. -/
def ApprovalRequest.current (r : ApprovalRequest) (facts : CurrentFacts) : Bool :=
  r.caseRevisionId = facts.caseRevisionId ∧ r.checkpointId = facts.checkpointId ∧
  r.workflowVersion = facts.workflowVersion ∧ r.candidateHash = facts.candidateHash ∧
  r.evidenceHashes = facts.evidenceHashes

/-- **`validate_hash_bound_approval`.** -/
def validateHashBoundApproval (request : ApprovalRequest) (approval : SealedApproval)
    (binding : SealedBinding) (facts : CurrentFacts) (approverId approverRole : String) : Bool :=
  validateApprovalRequest request ∧ validateApprovalDecision approval ∧
  validateAuthorizationBinding binding ∧ approval.intact ∧ approval.body.decision = .approved ∧
  request.sameDecision approval.body ∧ request.sameBinding binding ∧
  approval.body.tenantId = facts.tenantId ∧ approval.body.approverId = approverId ∧
  approval.body.approverRole = approverRole ∧ request.current facts ∧
  facts.now < approval.body.expiresAt

/-! ## The delivery chain -/

/-- The five fields in which a delivery's intent, observations and completion agree. -/
def DeliveryIntent.identity (i : DeliveryIntent) :
    String × CaseId × CaseRevisionId × WorkflowId × CheckpointId :=
  (i.tenantId, i.caseId, i.caseRevisionId, i.workflowId, i.checkpointId)

/-- One observation of the chain. -/
def DeliveryObservation.linked (o : DeliveryObservation) (i : DeliveryIntent) : Bool :=
  validateOutboundDeliveryObservation o ∧
  (o.tenantId, o.caseId, o.caseRevisionId, o.workflowId, o.checkpointId) = i.identity ∧
  o.intentId = i.intentId

/-- The completion of the chain, with the observation that matches it. -/
def DeliveryCompletion.linked (c : DeliveryCompletion) (i : DeliveryIntent)
    (observations : List DeliveryObservation) : Bool :=
  validateOutboundDeliveryCompletion c ∧
  (c.tenantId, c.caseId, c.caseRevisionId, c.workflowId, c.checkpointId) = i.identity ∧
  c.intentId = i.intentId ∧
  (observations.find? fun o => o.observationId = c.observationId ∧ o.status = .present).any
    fun o => o.observedDeliveryId = some c.observedDeliveryId ∧
      o.observedVersion = some c.observedVersion ∧ o.contentSha256 = some c.contentSha256

/-- **`validate_outbound_delivery_chain`.** -/
def validateOutboundDeliveryChain (i : DeliveryIntent) (observations : List DeliveryObservation)
    (completions : List DeliveryCompletion) (binding : SealedBinding) : Bool :=
  validateOutboundDeliveryIntent i ∧ validateAuthorizationBinding binding ∧
  i.authorizationBindingSha256 = binding.hash ∧ i.evidenceHashes = binding.body.evidenceHashes ∧
  i.candidateHash = binding.body.candidateHash ∧ completions.length ≤ 1 ∧
  (observations.map (·.observationId)).Nodup ∧
  (∀ o ∈ observations, o.linked i) ∧ ∀ c ∈ completions, c.linked i observations

end WeFlow
