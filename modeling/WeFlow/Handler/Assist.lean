import Mathlib.Data.List.MinMax
import WeFlow.Handler.Delivery

/-!
# `Assist` — the model-assisted part of the handler journal

`SQLiteQQModelJournal`: assist requests, contexts, candidates made by the model, and the outcomes of
assistance, beside the tables of the handler journal.

## Contents

* `createAssistRequest`, `compileContext`, `createModelCandidate`, `createOutcome`.
* `currentModelBinding`, `candidateBindingForRequest`, `assertModelApprovalCurrent` — what is current.
-/

namespace WeFlow

open Txn SQLiteQQHandlerJournal

/-! ## Uniqueness constraints -/

def ModelAssistRequest.clash (a b : ModelAssistRequest) : Bool :=
  a.assistRequestId = b.assistRequestId ∨ a.sourceMessageIdHash = b.sourceMessageIdHash

def ModelBudget.clash (a b : ModelBudget) : Bool :=
  a.budgetSha256 = b.budgetSha256 ∨ (a.assistRequestId = b.assistRequestId ∧ a.sequence = b.sequence)

def ModelAssistContext.clash (a b : ModelAssistContext) : Bool := a.assistRequestId = b.assistRequestId

def ModelCandidateBinding.clash (a b : ModelCandidateBinding) : Bool :=
  a.bindingId = b.bindingId ∨ a.assistRequestId = b.assistRequestId ∨
    a.approvalRequestId = b.approvalRequestId

def ModelAssistOutcome.clash (a b : ModelAssistOutcome) : Bool := a.assistRequestId = b.assistRequestId

/-! ## What is current -/

namespace HandlerWorld

variable (s : HandlerWorld)

/-- No lifecycle row withdraws the binding. -/
def bindingCurrent (b : ModelCandidateBinding) : Bool :=
  !s.lifecycle.any fun l => l.bindingId = b.bindingId

/-- `current_model_binding`: the case's last binding that is current. -/
def currentModelBinding (caseId : String) : Option ModelCandidateBinding :=
  (s.candidateBindings.filter fun b => b.caseId = caseId ∧ s.bindingCurrent b).getLast?

/-- `candidate_binding_for_request`. -/
def candidateBindingFor (id : AssistRequestId) : Option ModelCandidateBinding :=
  (s.candidateBindings.find? fun b => b.assistRequestId = id).filter fun b =>
    s.currentModelBinding b.caseId = some b

/-- `latest_budget`. -/
def latestBudget (id : AssistRequestId) : Option ModelBudget :=
  (s.budgets.filter fun b => b.assistRequestId = id).argmax (·.sequence)

/-- `INSERT OR IGNORE` of a lifecycle row. -/
def withdraw (b : ModelCandidateBinding) (reasonCode : String) : HandlerWorld :=
  if ⟨b.bindingId, reasonCode⟩ ∈ s.lifecycle then s
  else { s with lifecycle := s.lifecycle ++ [⟨b.bindingId, reasonCode⟩] }

end HandlerWorld

/-- `create_outcome` of a stopped assistance hands the case back, whatever its status. -/
def HandlerCase.handedBack (c : HandlerCase) : HandlerCase :=
  { c with status := .accepted, workflowVersion := c.workflowVersion + 1 }

namespace SQLiteQQModelJournal

variable (text : HandlerText)

/-! ## Requests -/

def assistRequest (stage3Profile : String) (c : HandlerCase) (binding : QQHandlerBinding)
    (issue : HandlerArtifact) (expectedVersion : Nat) (sourceHash : String) : ModelAssistRequest :=
  let naturalKey : Digest AssistNaturalKey := sha256 ⟨c.tenantId, c.caseId, c.caseRevisionId,
    binding.handlerBindingId, expectedVersion, sourceHash, stage3Profile⟩
  { assistRequestId := stableIdentifier naturalKey, tenantId := c.tenantId, caseId := c.caseId,
    caseRevisionId := c.caseRevisionId, handlerBindingId := binding.handlerBindingId,
    issueArtifactId := c.issueArtifactId, issueContentSha256 := issue.contentSha256,
    sourceMessageIdHash := sourceHash, expectedWorkflowVersion := expectedVersion,
    stage3ProfileSha256 := stage3Profile }

/-- The transaction of `create_assist_request`: the request of the same message, or a new one. -/
def insertAssistRequest (stage3Profile : String) (binding : QQHandlerBinding) (caseId : String)
    (expectedVersion : Nat) (sourceHash : String) (now : Instant) (s : HandlerWorld) :
    Except HandlerError ((Bool × ModelAssistRequest) × HandlerWorld) :=
  match s.assistRequests.find? fun r => r.sourceMessageIdHash = sourceHash with
  | some existing => do
      require (existing.caseId = caseId ∧ existing.expectedWorkflowVersion = expectedVersion ∧
        existing.handlerBindingId = binding.handlerBindingId ∧
        existing.stage3ProfileSha256 = stage3Profile) (.denied "assist_source_conflict")
      pure ((false, existing), s)
  | none => do
      let c ← fetch (s.case? caseId) (.denied "assist_case_unavailable")
      authorizeCaseRow c binding expectedVersion
      require (c.status = .accepted) (.denied "assist_requires_accepted_case")
      let issue ← fetch (s.artifact? c.issueArtifactId) (.denied "assist_issue_unavailable")
      require (now < issue.expiresAt) (.denied "assist_issue_expired")
      let request := assistRequest stage3Profile c binding issue expectedVersion sourceHash
      let assistRequests ← fetch (Table.insert? ModelAssistRequest.clash request s.assistRequests)
        .integrity
      pure ((true, request), { s with assistRequests }.modifyCase caseId
        fun c => { c with status := .assistRequested })

def createAssistRequest (stage3Profile : String) (binding : QQHandlerBinding) (caseId : String)
    (expectedVersion : Nat) (sourceHash : String) : HandlerProg (Bool × ModelAssistRequest) := do
  let now ← .observe HandlerWorld.now
  .atomically (insertAssistRequest stage3Profile binding caseId expectedVersion sourceHash now)

/-! ## Contexts -/

/-- **The transaction of `compile_context`**: the context is `INSERT OR IGNORE`d, the case is set to
    `INVESTIGATING` whatever its status. -/
def insertContext (request : ModelAssistRequest) (context : ModelAssistContext) (s : HandlerWorld) :
    Except HandlerError (Unit × HandlerWorld) :=
  let contexts := (Table.insert? ModelAssistContext.clash context s.contexts).getD s.contexts
  .ok ((), { s with contexts }.modifyCase request.caseId fun c => { c with status := .investigating })

/-- The checks `compile_context` makes of the normalised issue. -/
def issueView (request : ModelAssistRequest) (content : String) : Except HandlerError String := do
  let view ← (text.normalizePrivateContent content false).mapError .rejected
  require (!text.unsafeIssue view) (.denied "assist_issue_model_egress_denied")
  require (containsText "503" view) (.denied "assist_issue_profile_mismatch")
  require (text.sha256Text view = request.issueContentSha256) (.denied "assist_issue_hash_mismatch")
  pure view

def assistContext (request : ModelAssistRequest) (view : String) (created : Instant) :
    ModelAssistContext :=
  ⟨stableIdentifier ⟨request.assistRequestId, text.sha256Text view⟩, request.assistRequestId,
    request.caseId, text.sha256Text view, created⟩

/-- `compile_context`, with the error it raises as a value. -/
def compileContext? (request : ModelAssistRequest) :
    HandlerProg (Except HandlerError (ModelAssistContext × String)) := do
  let existing ← .observe fun s => s.context? request.assistRequestId
  let content ← artifactContent? request.issueArtifactId
  match content.bind (issueView text request) with
  | .error e => pure (.error e)
  | .ok view =>
      match existing with
      | some context =>
          if context.issueViewSha256 = text.sha256Text view then pure (.ok (context, view))
          else pure (.error (.denied "assist_context_conflict"))
      | none => do
          let created ← .observe HandlerWorld.now
          let context := assistContext text request view created
          .atomically (insertContext request context)
          pure (.ok (context, view))

/-! ## Candidates made by the model -/

/-- `invalidate_model_predecessor`. -/
def invalidateModelPredecessor (c : HandlerCase) (s : HandlerWorld) : HandlerWorld :=
  match c.currentCandidateRevisionId.bind fun prior =>
      (s.candidateBindings.filter fun b => b.caseId = c.caseId).reverse.find? fun b =>
        b.candidateRevisionId = prior with
  | some b => if s.bindingCurrent b then s.withdraw b "handler_model_candidate_replaced" else s
  | none => s

def modelBinding (request : ModelAssistRequest) (context : ModelAssistContext)
    (result : QQModelRuntimeResult) (artifact : HandlerArtifact) (revision : HandlerCandidateRevision)
    (approval : HandlerApprovalRequest) : ModelCandidateBinding :=
  { bindingId := stableIdentifier ⟨request.assistRequestId, artifact.contentSha256⟩,
    caseId := request.caseId, handlerBindingId := request.handlerBindingId,
    assistRequestId := request.assistRequestId, contextId := context.contextId,
    contextSha256 := context.contextSha256, workflowVersion := revision.workflowVersion,
    candidateArtifactId := artifact.artifactId, candidateRevisionId := revision.candidateRevisionId,
    candidateSha256 := artifact.contentSha256, approvalRequestId := approval.approvalRequestId,
    budgetSha256 := result.budget.budgetSha256 }

/-- `finalize_model_candidate`, inside the transaction that inserts the candidate. -/
def finalizeModelCandidate (request : ModelAssistRequest) (context : ModelAssistContext)
    (result : QQModelRuntimeResult) (artifact : HandlerArtifact) (revision : HandlerCandidateRevision)
    (approval : HandlerApprovalRequest) (s : HandlerWorld) : Except HandlerError HandlerWorld := do
  let candidateBindings ← fetch (Table.insert? ModelCandidateBinding.clash
    (modelBinding request context result artifact revision approval) s.candidateBindings) .integrity
  pure ({ s with candidateBindings }.modifyCase request.caseId
    fun c => { c with status := .responseReady })

/-- The hooks of a draft in the model journal: it withdraws the model's authority over the predecessor. -/
def draftHooks : CandidateHooks := ⟨invalidateModelPredecessor, fun _ _ _ s => .ok s⟩

def modelHooks (request : ModelAssistRequest) (context : ModelAssistContext)
    (result : QQModelRuntimeResult) : CandidateHooks :=
  ⟨invalidateModelPredecessor, finalizeModelCandidate request context result⟩

/-- **`create_model_candidate`**. -/
def createModelCandidate (binding : QQHandlerBinding) (request : ModelAssistRequest)
    (context : ModelAssistContext) (result : QQModelRuntimeResult) : HandlerProg ModelCandidateBinding := do
  .check (result.terminalOutcome = .responseReady && result.evidenceComplete)
    (.conflict "model_candidate_incomplete")
  let candidate ← .need result.candidateText (.conflict "model_candidate_incomplete")
  let normalized ← normalizePrivateContent text candidate true
  .check (!text.unsafeModelText normalized) (.conflict "model_candidate_authority_claim_denied")
  let created ← createCandidateAndRequest text (modelHooks request context result) binding request.caseId
    request.expectedWorkflowVersion normalized
  pure (modelBinding request context result created.1 created.2.1 created.2.2)

/-! ## Outcomes -/

def assistOutcome (request : ModelAssistRequest) (result : QQModelRuntimeResult) (now : Instant) :
    ModelAssistOutcome :=
  ⟨request.assistRequestId, request.caseId, result.terminalOutcome,
    if text.safeReason result.reasonCode then result.reasonCode else "safe_stop", now⟩

/-- **The transaction of `create_outcome`**. -/
def insertOutcome (outcome : ModelAssistOutcome) (s : HandlerWorld) :
    Except HandlerError (ModelAssistOutcome × HandlerWorld) :=
  match s.outcome? outcome.assistRequestId with
  | some existing => .ok (existing, s)
  | none => do
      let outcomes ← fetch (Table.insert? ModelAssistOutcome.clash outcome s.outcomes) .integrity
      match outcome.terminalOutcome with
      | .responseReady => pure (outcome, { s with outcomes })
      | .stopped _ => do
          let _ ← fetch (s.case? outcome.caseId) (.conflict "handler_case_unavailable")
          pure (outcome, { s with outcomes }.modifyCase outcome.caseId HandlerCase.handedBack)

def createOutcome (request : ModelAssistRequest) (result : QQModelRuntimeResult) :
    HandlerProg ModelAssistOutcome := do
  let now ← .observe HandlerWorld.now
  .atomically (insertOutcome (assistOutcome text request result now))

/-! ## Approval by the model's lineage -/

/-- `assert_model_approval_current`. -/
def assertModelApprovalCurrent (id : HandlerRequestId) (binding : QQHandlerBinding)
    (expectedVersion : Nat) : HandlerProg Unit := do
  let row ← .observe fun s => s.candidateBindings.find? fun b => b.approvalRequestId = id
  let record ← .need row (.denied "model_approval_binding_unavailable")
  let current ← .observe fun s => s.currentModelBinding record.caseId
  let c ← caseProjection record.caseId
  let budgetRow ← .observe fun s => s.latestBudget record.assistRequestId
  let budget ← .need budgetRow (.conflict "model_budget_missing")
  .check (current = some record && record.handlerBindingId = binding.handlerBindingId &&
    record.workflowVersion = expectedVersion && record.budgetSha256 = budget.budgetSha256 &&
    c.currentApprovalRequestId = some id &&
    c.currentCandidateRevisionId = some record.candidateRevisionId && c.status = .responseReady)
    (.denied "model_approval_binding_stale")

/-- `mark_final_model_content_deleted`. -/
def markFinalModelContentDeleted (caseId : String) : HandlerProg Unit := do
  let row ← .observe fun s => s.currentModelBinding caseId
  match row with
  | some record =>
      .atomically fun s => .ok ((), s.withdraw record "final_provider_acceptance_terminal")
  | none => pure ()

end SQLiteQQModelJournal

end WeFlow
