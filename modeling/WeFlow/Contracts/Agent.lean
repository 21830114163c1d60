import WeFlow.Ledger.Store

/-!
# `Agent` — the contracts of the replay-only investigation

The payloads of `agent.py` and their validators: each schema's conditions on the modelled fields, and
the links between payloads. A payload names the workflow, checkpoint and manifest it belongs to in the
same six fields everywhere; they are one structure here, and a link is its equality.

The identifiers a caller writes into a payload are typed as what they must equal: any other text fails
the first comparison with the stored record.
-/

namespace WeFlow

/-- A SHA-256 supplied by a caller: the schemas' pattern `^[a-f0-9]{64}$` says that it is 256 bits. -/
abbrev Sha256Hex := BitVec 256

/-- `_IDENTITY_FIELDS`. -/
structure ManifestLink where
  tenantId : String
  caseId : CaseId
  caseRevisionId : CaseRevisionId
  workflowId : WorkflowId
  checkpointId : CheckpointId
  contextManifestId : String
  deriving DecidableEq, Repr

def ManifestLink.present (l : ManifestLink) : Bool :=
  nonEmpty l.tenantId ∧ nonEmpty l.contextManifestId

structure ContextManifest where
  link : ManifestLink
  contextSha256 : Sha256Hex
  environmentSnapshotSha256 : Sha256Hex
  evidenceReferences : List String
  actionBudget : Nat
  toolBudget : Nat
  noProgressLimit : Nat
  createdAt : String
  deriving DecidableEq, Repr

inductive ToolName where
  | crm | monitoring | knowledge
  deriving DecidableEq, Repr

inductive ActionType where
  | read (tool : ToolName) | needsInformation | needsOperator | responseCandidate
  deriving DecidableEq, Repr

structure AgentAction where
  link : ManifestLink
  stepId : String
  actionType : ActionType
  actionSha256 : Sha256Hex
  createdAt : String
  deriving DecidableEq, Repr

structure ToolRequest where
  link : ManifestLink
  toolRequestId : String
  stepId : String
  toolName : ToolName
  requestSha256 : Sha256Hex
  createdAt : String
  deriving DecidableEq, Repr

structure ToolResult where
  link : ManifestLink
  toolResultId : String
  toolRequestId : String
  toolName : ToolName
  evidenceId : String
  contentSha256 : Sha256Hex
  redactionClassification : String
  recordedAt : String
  deriving DecidableEq, Repr

inductive Risk where
  | low | medium | high
  deriving DecidableEq, Repr

inductive NextStep where
  | operatorReview | awaitingInformation
  deriving DecidableEq, Repr

structure ResponseCandidate where
  link : ManifestLink
  candidateId : String
  contextSha256 : Sha256Hex
  evidenceHashes : List Sha256Hex
  candidateSha256 : Sha256Hex
  risk : Risk
  nextStep : NextStep
  createdAt : String
  deriving DecidableEq, Repr

inductive Verdict where
  | verified | rejected
  deriving DecidableEq, Repr

inductive VerifierReason where
  | actionBudgetExceeded | toolBudgetExceeded | responseCandidateActionMissing
  | evidenceContextMismatch | evidenceRedactionInvalid | requiredEvidenceMissing
  | evidenceReferenceMismatch | contextHashMismatch | evidenceComplete
  deriving DecidableEq, Repr

structure VerifierOutcomeMaterial where
  workflowId : WorkflowId
  candidateId : String
  candidateSha256 : Sha256Hex
  outcome : Verdict
  deriving DecidableEq, Repr

abbrev VerifierOutcomeId := StableId VerifierOutcomeMaterial

structure VerifierOutcome where
  link : ManifestLink
  verifierOutcomeId : VerifierOutcomeId
  candidateId : String
  candidateSha256 : Sha256Hex
  outcome : Verdict
  reasonCode : VerifierReason
  recordedAt : Instant
  deriving DecidableEq, Repr

/-! ## Validators -/

def validateContextManifest (m : ContextManifest) : Bool :=
  m.link.present ∧ (∀ r ∈ m.evidenceReferences, nonEmpty r) ∧ m.evidenceReferences.Nodup ∧
  1 ≤ m.actionBudget ∧ 1 ≤ m.toolBudget ∧ 1 ≤ m.noProgressLimit ∧ nonEmpty m.createdAt

/-- `validate_agent_action` against a manifest. -/
def validateAgentAction (a : AgentAction) (m : ContextManifest) : Bool :=
  a.link.present ∧ nonEmpty a.stepId ∧ nonEmpty a.createdAt ∧
  validateContextManifest m ∧ a.link = m.link

/-- `validate_tool_request` against a manifest. -/
def validateToolRequest (r : ToolRequest) (m : ContextManifest) : Bool :=
  r.link.present ∧ nonEmpty r.toolRequestId ∧ nonEmpty r.stepId ∧ nonEmpty r.createdAt ∧
  validateContextManifest m ∧ r.link = m.link

/-- `validate_tool_result` against its request, which is validated on its own first. -/
def validateToolResult (r : ToolResult) (request : ToolRequest) : Bool :=
  r.link.present ∧ nonEmpty r.toolResultId ∧ nonEmpty r.toolRequestId ∧ nonEmpty r.evidenceId ∧
  nonEmpty r.recordedAt ∧ r.redactionClassification = "synthetic" ∧
  request.link.present ∧ nonEmpty request.toolRequestId ∧ nonEmpty request.stepId ∧
  nonEmpty request.createdAt ∧
  r.link = request.link ∧ r.toolRequestId = request.toolRequestId ∧ r.toolName = request.toolName

/-- `validate_response_candidate` without a manifest. -/
def ResponseCandidate.wellFormed (c : ResponseCandidate) : Bool :=
  c.link.present ∧ nonEmpty c.candidateId ∧ nonEmpty c.createdAt ∧
  c.evidenceHashes ≠ [] ∧ c.evidenceHashes.Nodup

/-- `validate_response_candidate` against a manifest. -/
def validateResponseCandidate (c : ResponseCandidate) (m : ContextManifest) : Bool :=
  c.wellFormed ∧ validateContextManifest m ∧ c.link = m.link ∧ c.contextSha256 = m.contextSha256

/-- `validate_verifier_outcome` against its candidate. -/
def validateVerifierOutcome (o : VerifierOutcome) (c : ResponseCandidate) : Bool :=
  o.link.present ∧ nonEmpty o.candidateId ∧ c.wellFormed ∧ o.link = c.link ∧
  o.candidateId = c.candidateId ∧ o.candidateSha256 = c.candidateSha256

end WeFlow
