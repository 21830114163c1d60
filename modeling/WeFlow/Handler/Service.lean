import WeFlow.Base.Interleaving
import WeFlow.Handler.Assist

/-!
# `Service` — the handler's services, and the system of concurrent calls

`QQHandlerWorkflowService` and `QQModelHandlerWorkflowService`: a private or a group event is checked,
carried out through the journal, and answered with a passive intent. The raw event is taken as its parsers
leave it; what the transport and the model's runtime answer is a parameter of the call.

## Contents

* `handlePrivateEvent`, `handleGroupApproval` — the service of the second stage.
* `assistResult`, `recoverPersistedAssist`, `handleAssistEvent` — what the third stage adds.
* `HandlerOp`, `HandlerOp.prog`, `handlerDisturbance`, `HandlerSys.run` — the system and its runs.
-/

namespace WeFlow

open Txn SQLiteQQHandlerJournal SQLiteQQModelJournal

/-! ## Events -/

inductive PrivateCommandBody where
  | simple (command : SimpleCommand)
  | draft (body : String)
  deriving DecidableEq, Repr

structure QQPrivateCommand where
  caseId : String
  expectedVersion : Nat
  body : PrivateCommandBody
  deriving DecidableEq, Repr

/-- A C2C message, with what the parser of commands `γ` makes of its content: a command, or the reason
    code of its rejection. -/
structure QQPrivateEvent (γ : Type) where
  userOpenid : String
  messageId : String
  occurredAt : Instant
  command : Except String γ

/-- A group message that mentions the bot. -/
structure QQGroupEvent where
  memberOpenid : String
  groupOpenid : String
  messageId : String
  occurredAt : Instant
  command : Except String QQGroupApprovalCommand

structure QQPrivateWorkflowResponse where
  duplicate : Bool
  passiveIntent : HandlerPassiveIntent
  content : String
  deriving DecidableEq, Repr

structure QQGroupApprovalResponse where
  decision : HandlerApprovalDecision
  finalIntent : HandlerPassiveIntent
  content : String
  deriving DecidableEq, Repr

/-- The parsed command, or the rejection of the event. -/
def parsedCommand {γ : Type} : Except String γ → HandlerProg γ
  | .ok command => pure command
  | .error reason => .raise (.rejected reason)

/-- A key that a stored record of the other kind of command lacks. -/
def missingKey : HandlerError := ⟨.lookup, "key_error"⟩

def HandlerStatus.name : HandlerStatus → String
  | .ready => "READY"
  | .accepted => "ACCEPTED"
  | .rejected => "REJECTED"
  | .drafted => "DRAFTED"
  | .approved => "APPROVED"
  | .finalAccepted => "FINAL_ACCEPTED"
  | .assistRequested => "ASSIST_REQUESTED"
  | .investigating => "INVESTIGATING"
  | .responseReady => "RESPONSE_READY"

/-! ## The service of the second stage -/

namespace QQHandlerWorkflowService

variable (text : HandlerText) (config : QQHandlerConfig)

/-- `__init__`: the binding is active and configured. -/
def openService (id : HandlerBindingId) : HandlerProg QQHandlerBinding := do
  let active ← activeBinding id
  .check (active.appIdHash = config.appIdHash text && active.tenantIdHash = config.tenantIdHash text &&
    active.groupOpenidHash = config.groupOpenidHash text &&
    active.capabilityProfileHash = config.capabilityProfileHash text)
    (.denied "handler_binding_configuration_mismatch")
  pure active

/-- `_private_event`. -/
def privateEvent {γ : Type} (binding : QQHandlerBinding) (event : QQPrivateEvent γ) :
    HandlerProg Unit := do
  let expectedUser ← privateLocator binding.handlerBindingId
  .check (event.userOpenid = expectedUser) (.denied "private_event_foreign_user")
  let now ← .observe HandlerWorld.now
  .check (event.occurredAt ≤ now) (.rejected "private_event_timestamp_invalid")

/-- `_content_for_metadata`. -/
def contentForMetadata (m : PrivateCommandMetadata) : HandlerProg String :=
  let version := toString m.workflowVersion
  match m.responseKind with
  | .pull => do
      let id ← .need m.contentArtifactId artifactUnavailable
      let issue ← artifactContent id
      pure ("工单 " ++ m.caseId ++ "\n当前状态：" ++ m.caseStatus.name ++ "\n客户问题（仅私聊）：" ++ issue)
  | .accept => pure ("工单 " ++ m.caseId ++ " 已接受，当前版本 " ++ version ++ "。\n请用 WF-DRAFT " ++
      m.caseId ++ " " ++ version ++ " 换行提交草稿。")
  | .draftPreview => do
      let id ← .need m.contentArtifactId artifactUnavailable
      let candidate ← artifactContent id
      let request ← .need m.approvalRequestId missingKey
      let hashPrefix ← .need m.candidateHashPrefix missingKey
      pure ("草稿预览（仅私聊）：" ++ candidate ++ "\n群审批元数据（不得附带草稿正文）：WF-APPROVE " ++
        text.requestIdText request ++ " " ++ hashPrefix ++ " " ++ version)
  | .reject => pure ("工单 " ++ m.caseId ++ " 已拒绝；受限内容已进入删除流程。")
  | .groupNudge | .final => .raise (.rejected "private_response_kind_invalid")

def storedContent : CommandMetadata → HandlerProg String
  | .command m => contentForMetadata text m
  | .assist _ => .raise missingKey

def simpleMetadata (command : SimpleCommand) (c : HandlerCase) : PrivateCommandMetadata :=
  { caseId := c.caseId, caseStatus := c.status, workflowVersion := c.workflowVersion,
    responseKind := command.responseKind,
    contentArtifactId := if command = .pull then some c.issueArtifactId else none,
    approvalRequestId := none, candidateHashPrefix := none }

def draftMetadata (c : HandlerCase) (artifact : HandlerArtifact) (request : HandlerApprovalRequest) :
    PrivateCommandMetadata :=
  { caseId := c.caseId, caseStatus := c.status, workflowVersion := c.workflowVersion,
    responseKind := .draftPreview, contentArtifactId := some artifact.artifactId,
    approvalRequestId := some request.approvalRequestId,
    candidateHashPrefix := some request.candidateHashPrefix }

/-- The part of `handle_private_event` that changes the case. -/
def carryOut (hooks : CandidateHooks) (binding : QQHandlerBinding) (command : QQPrivateCommand) :
    HandlerProg PrivateCommandMetadata :=
  match command.body with
  | .draft body => do
      let created ← createCandidateAndRequest text hooks binding command.caseId command.expectedVersion
        body
      let projection ← caseProjection command.caseId
      pure (draftMetadata projection created.1 created.2.2)
  | .simple simple => do
      let projection ← transitionSimpleCommand text binding command.caseId command.expectedVersion simple
      pure (simpleMetadata simple projection)

/-- A response is a passive intent for its content, recorded once under the message that asked for it. -/
def respond (binding : QQHandlerBinding) (messageId : String) (occurredAt : Instant)
    (m : PrivateCommandMetadata) : HandlerProg QQPrivateWorkflowResponse := do
  let content ← contentForMetadata text m
  let intent ← createPassiveIntent m.caseId binding messageId m.responseKind occurredAt
    ⟨m.contentArtifactId, text.sha256Text content, none⟩
  let recorded ← recordCommandOnce ⟨text.sha256Text messageId, .command m, intent⟩
  let content ← storedContent text recorded.2.metadata
  pure ⟨!recorded.1, recorded.2.passiveIntent, content⟩

/-- The rest of `handle_private_event`, for a message seen for the first time. -/
def handleNewCommand (hooks : CandidateHooks) (binding : QQHandlerBinding)
    (event : QQPrivateEvent QQPrivateCommand) : HandlerProg QQPrivateWorkflowResponse := do
  let command ← parsedCommand event.command
  let c ← caseProjection command.caseId
  .check (c.tenantId = binding.tenantId && c.handlerBindingId = binding.handlerBindingId &&
    c.caseRevisionId ≠ "") (.denied "private_command_case_binding_mismatch")
  -- every private command is gated by the retained issue before it changes anything
  let _ ← artifactContent c.issueArtifactId
  let metadata ← carryOut text hooks binding command
  respond text binding event.messageId event.occurredAt metadata

/-- **`handle_private_event`**. -/
def handlePrivateEvent (hooks : CandidateHooks) (binding : QQHandlerBinding)
    (event : QQPrivateEvent QQPrivateCommand) : HandlerProg QQPrivateWorkflowResponse := do
  privateEvent binding event
  let stored ← .observe fun s => s.command? (text.sha256Text event.messageId)
  match stored with
  | some command => do
      let content ← storedContent text command.metadata
      pure ⟨true, command.passiveIntent, content⟩
  | none => handleNewCommand text hooks binding event

/-- **`handle_group_approval`**, with the check of the model's lineage that the third stage puts first. -/
def handleGroupApproval (modelGate : HandlerRequestId → QQHandlerBinding → Nat → HandlerProg Unit)
    (binding : QQHandlerBinding) (event : QQGroupEvent) : HandlerProg QQGroupApprovalResponse := do
  .check (event.groupOpenid = config.groupOpenid) (.denied "group_approval_foreign_group")
  let command ← parsedCommand event.command
  modelGate command.approvalRequestId binding command.expectedVersion
  let decision ← approveRequest text binding command event.memberOpenid event.groupOpenid event.messageId
    event.occurredAt config.identitySalt
  let final ← finalDeliveryIntent decision binding
  pure ⟨decision, final.1, final.2⟩

end QQHandlerWorkflowService

/-! ## The service of the third stage -/

/-- What a run of the model's runtime answers. -/
structure RuntimeAnswer where
  terminalOutcome : AssistOutcomeKind
  reasonCode : String
  candidateText : Option String
  evidenceComplete : Bool
  budgetSha256 : String
  sequence : Nat
  usage : String
  deriving DecidableEq, Repr

def RuntimeAnswer.result (answer : RuntimeAnswer) (request : ModelAssistRequest) :
    QQModelRuntimeResult :=
  { terminalOutcome := answer.terminalOutcome, reasonCode := answer.reasonCode,
    candidateText := answer.candidateText, evidenceComplete := answer.evidenceComplete,
    budget := ⟨request.assistRequestId, answer.budgetSha256, answer.sequence, answer.usage⟩ }

/-- `safe_stop` of the runtime: only the budget of its answer counts. -/
def RuntimeAnswer.safeStop (answer : RuntimeAnswer) (reasonCode : String) : RuntimeAnswer :=
  { answer with terminalOutcome := .stopped "policy_denied", reasonCode, candidateText := none,
                evidenceComplete := false }

namespace QQModelHandlerWorkflowService

open QQHandlerWorkflowService

variable (text : HandlerText) (stage3Profile : String)

/-- `_assist_content`. -/
def assistContent (m : AssistMetadata) : HandlerProg String :=
  let version := toString m.workflowVersion
  match m.terminalOutcome with
  | .stopped _ => pure ("模型辅助已安全停止：" ++ m.reasonCode ++ "。可继续用 WF-DRAFT " ++ m.caseId ++ " " ++
      version ++ " 换行提交人工草稿。")
  | .responseReady => do
      let id ← .need m.candidateArtifactId artifactUnavailable
      let candidate ← artifactContent id
      let request ← .need m.approvalRequestId missingKey
      let hashPrefix ← .need m.candidateHashPrefix missingKey
      pure ("模型草稿预览（仅私聊）：" ++ candidate ++ "\n" ++ m.usage ++
        "\n群审批元数据（不得附带草稿正文）：WF-APPROVE " ++ text.requestIdText request ++ " " ++
        hashPrefix ++ " " ++ version)

def storedAssistContent : CommandMetadata → HandlerProg String
  | .assist m => assistContent text m
  | .command _ => .raise missingKey

/-- The runtime records the budget of what it returns. -/
def runRuntime (result : QQModelRuntimeResult) : HandlerProg QQModelRuntimeResult :=
  .atomically fun s =>
    let budgets := (Table.insert? ModelBudget.clash result.budget s.budgets).getD s.budgets
    .ok (result, { s with budgets })

/-- The model is run on the compiled context; a denial stops it safely. -/
def assistResult (request : ModelAssistRequest) (answer : RuntimeAnswer) :
    HandlerProg (Option ModelAssistContext × QQModelRuntimeResult) := do
  let compiled ← compileContext? text request
  match compiled with
  | .ok (context, _) => do
      let result ← runRuntime (answer.result request)
      pure (some context, result)
  | .error e =>
      if e.errorClass = .authorizationDenied then do
        let result ← runRuntime ((answer.safeStop e.reasonCode).result request)
        pure (none, result)
      else .raise e

def assistMetadata (c : HandlerCase) (kind : AssistOutcomeKind) (reasonCode usage : String)
    (record : Option ModelCandidateBinding) : AssistMetadata :=
  { caseId := c.caseId, workflowVersion := c.workflowVersion, terminalOutcome := kind, reasonCode,
    candidateArtifactId := record.map (·.candidateArtifactId),
    approvalRequestId := record.map (·.approvalRequestId),
    candidateHashPrefix := record.map fun b => textPrefix 12 b.candidateSha256, usage }

/-- The passive intent of an answered assistance. -/
def assistIntent (binding : QQHandlerBinding) (messageId : String) (occurredAt : Instant)
    (m : AssistMetadata) : HandlerProg HandlerPassiveIntent := do
  let content ← assistContent text m
  createPassiveIntent m.caseId binding messageId .draftPreview occurredAt
    ⟨m.candidateArtifactId, text.sha256Text content, none⟩

def recordAssist (messageId : String) (m : AssistMetadata) (intent : HandlerPassiveIntent) :
    HandlerProg (Bool × StoredHandlerCommand) :=
  recordCommandOnce ⟨text.sha256Text messageId, .assist m, intent⟩

/-- What has become of the request by the time the model has answered; a safe stop has no context and is
    never ready. -/
def finishAssist (binding : QQHandlerBinding) (messageId : String) (occurredAt : Instant)
    (request : ModelAssistRequest) (compiled : Option ModelAssistContext)
    (result : QQModelRuntimeResult) : HandlerProg QQPrivateWorkflowResponse :=
  match result.terminalOutcome with
  | .responseReady => do
      let context ← .need compiled missingKey
      let record ← createModelCandidate text binding request context result
      let projection ← caseProjection request.caseId
      let metadata := assistMetadata projection .responseReady result.reasonCode result.budget.usage
        (some record)
      let intent ← assistIntent text binding messageId occurredAt metadata
      let _ ← createOutcome text request result
      let recorded ← recordAssist text messageId metadata intent
      let content ← storedAssistContent text recorded.2.metadata
      pure ⟨!recorded.1, recorded.2.passiveIntent, content⟩
  | .stopped kind => do
      -- the outcome comes first here: it hands the case back before the answer names its version
      let _ ← createOutcome text request result
      let projection ← caseProjection request.caseId
      let metadata := assistMetadata projection (.stopped kind) result.reasonCode result.budget.usage none
      let intent ← assistIntent text binding messageId occurredAt metadata
      let recorded ← recordAssist text messageId metadata intent
      let content ← storedAssistContent text recorded.2.metadata
      pure ⟨!recorded.1, recorded.2.passiveIntent, content⟩

/-- The result of a candidate that was bound before the outcome was recorded. -/
def recoveredResult (candidate : String) (budget : ModelBudget) : QQModelRuntimeResult :=
  ⟨.responseReady, "deterministic_candidate_verified", some candidate, true, budget⟩

def recoverResult (record : Option ModelCandidateBinding) (outcomeMissing : Bool) (budget : ModelBudget) :
    HandlerProg (Option QQModelRuntimeResult) :=
  match record, outcomeMissing with
  | some b, true => do
      let candidate ← artifactContent b.candidateArtifactId
      pure (some (recoveredResult candidate budget))
  | _, _ => pure none

/-- The outcome of a bound candidate is recorded once its answer exists. -/
def recoverOutcome (request : ModelAssistRequest) (recovered : Option QQModelRuntimeResult) :
    HandlerProg Unit :=
  match recovered with
  | some result => do
      let _ ← createOutcome text request result
      pure ()
  | none => pure ()

/-- The answer of a request of which an outcome or a candidate is stored. -/
def answerRecovered (binding : QQHandlerBinding) (messageId : String) (occurredAt : Instant)
    (request : ModelAssistRequest) (kind : AssistOutcomeKind) (reasonCode : String)
    (record : Option ModelCandidateBinding) (outcomeMissing : Bool) :
    HandlerProg QQPrivateWorkflowResponse := do
  let context ← .observe fun s => s.context? request.assistRequestId
  .check (context.isSome || kind ≠ .responseReady) (.conflict "recovery_model_context_missing")
  let budgetRow ← .observe fun s => s.latestBudget request.assistRequestId
  let budget ← .need budgetRow (.conflict "model_budget_missing")
  let projection ← caseProjection request.caseId
  let recovered ← recoverResult record outcomeMissing budget
  let metadata := assistMetadata projection kind reasonCode budget.usage record
  let intent ← assistIntent text binding messageId occurredAt metadata
  recoverOutcome text request recovered
  let recorded ← recordAssist text messageId metadata intent
  let content ← storedAssistContent text recorded.2.metadata
  pure ⟨true, recorded.2.passiveIntent, content⟩

/-- `_recover_persisted_assist`. -/
def recoverPersistedAssist (binding : QQHandlerBinding) (messageId : String) (occurredAt : Instant)
    (request : ModelAssistRequest) (outcome : Option ModelAssistOutcome) :
    HandlerProg (Option QQPrivateWorkflowResponse) := do
  let record ← .observe fun s => s.candidateBindingFor request.assistRequestId
  match outcome, record with
  | none, none => pure none
  | none, some b => do
      let response ← answerRecovered text binding messageId occurredAt request .responseReady
        "deterministic_candidate_verified" (some b) true
      pure (some response)
  | some o, record => do
      .check (record.isSome || o.terminalOutcome ≠ .responseReady)
        (.conflict "recovery_model_candidate_binding_missing")
      let response ← answerRecovered text binding messageId occurredAt request o.terminalOutcome
        o.reasonCode record false
      pure (some response)

/-- The model is asked, and its answer becomes a candidate or a stop. -/
def answerAssist (binding : QQHandlerBinding) (messageId : String) (occurredAt : Instant)
    (request : ModelAssistRequest) (answer : RuntimeAnswer) :
    HandlerProg QQPrivateWorkflowResponse := do
  let ran ← assistResult text request answer
  finishAssist text binding messageId occurredAt request ran.1 ran.2

/-- The rest of `handle_private_event` for `WF-ASSIST`, of a message whose command is not stored. -/
def handleNewAssist (binding : QQHandlerBinding) (event : QQPrivateEvent (String × Nat))
    (answer : RuntimeAnswer) : HandlerProg QQPrivateWorkflowResponse := do
  let command ← parsedCommand event.command
  let created ← createAssistRequest stage3Profile binding command.1 command.2
    (text.sha256Text event.messageId)
  let outcome ← .observe fun s => s.outcome? created.2.assistRequestId
  if created.1 then answerAssist text binding event.messageId event.occurredAt created.2 answer
  else do
    let recovered ← recoverPersistedAssist text binding event.messageId event.occurredAt created.2 outcome
    match recovered with
    | some response => pure response
    | none => answerAssist text binding event.messageId event.occurredAt created.2 answer

/-- **`handle_private_event` for `WF-ASSIST`**. -/
def handleAssistEvent (binding : QQHandlerBinding) (event : QQPrivateEvent (String × Nat))
    (answer : RuntimeAnswer) : HandlerProg QQPrivateWorkflowResponse := do
  privateEvent binding event
  let stored ← .observe fun s => s.command? (text.sha256Text event.messageId)
  match stored with
  | some command => do
      let content ← storedAssistContent text command.metadata
      pure ⟨true, command.passiveIntent, content⟩
  | none => handleNewAssist text stage3Profile binding event answer

/-- What `handle_private_event` checks of a draft before the second stage's service handles it. -/
def checkDraft (binding : QQHandlerBinding) (event : QQPrivateEvent QQPrivateCommand) :
    HandlerProg Unit :=
  match event.command with
  | .ok ⟨caseId, expectedVersion, .draft body⟩ => do
      privateEvent binding event
      let c ← caseProjection caseId
      ofExcept (authorizeCaseRow c binding expectedVersion)
      let _ ← normalizePrivateContent text body true
      pure ()
  | _ => pure ()

end QQModelHandlerWorkflowService

/-! ## The system -/

open QQHandlerWorkflowService QQModelHandlerWorkflowService

/-- Whether a call is made through the second stage's service or through the third's. -/
inductive HandlerStage where
  | second | third
  deriving DecidableEq, Repr

/-- The calls that run concurrently. An execution is given the identifier of a stored intent. -/
inductive HandlerOp where
  | confirmBinding (pairing : ConfirmedPairing)
  | revokeBinding (id : HandlerBindingId)
  | createIssue (id : HandlerBindingId) (caseId caseRevisionId content : String)
  | createNotification (caseId : String) (id : HandlerBindingId)
  | executeNotification (intent : HandlerIntentId) (id : HandlerBindingId) (answer : ProviderAnswer)
  | createGroupNudge (caseId : String) (id : HandlerBindingId) (sourceMessageId : String)
      (occurredAt : Instant)
  | privateEvent (stage : HandlerStage) (id : HandlerBindingId) (event : QQPrivateEvent QQPrivateCommand)
  | assistEvent (id : HandlerBindingId) (event : QQPrivateEvent (String × Nat)) (answer : RuntimeAnswer)
  | groupApproval (stage : HandlerStage) (id : HandlerBindingId) (event : QQGroupEvent)
  | executePassiveReply (stage : HandlerStage) (intent : HandlerIntentId) (id : HandlerBindingId)
      (content : String) (answers : PassiveAnswers)
  | deleteExpiredArtifacts

/-- What a call returns. -/
inductive HandlerReply where
  | bound (binding : QQHandlerBinding)
  | issue (artifact : HandlerArtifact)
  | notification (intent : HandlerNotificationIntent)
  | notified (result : HandlerNotificationResult)
  | passive (intent : HandlerPassiveIntent)
  | response (r : QQPrivateWorkflowResponse)
  | approved (r : QQGroupApprovalResponse)
  | delivered (result : HandlerPassiveResult)
  | done
  deriving DecidableEq, Repr

/-- What a system is set up with. -/
structure HandlerSetup where
  text : HandlerText
  config : QQHandlerConfig
  stage3Profile : String

namespace HandlerOp

variable (setup : HandlerSetup)

/-- The stored record of a binding that the caller holds; it may have been revoked since. -/
def heldBinding (id : HandlerBindingId) : HandlerProg QQHandlerBinding := do
  let row ← .observe fun s => s.binding? id
  .need row (.denied "handler_binding_inactive")

def heldNotification (id : HandlerIntentId) : HandlerProg HandlerNotificationIntent := do
  let row ← .observe fun s => s.notificationIntents.find? fun i => i.intentId = id
  .need row missingKey

def heldPassiveIntent (id : HandlerIntentId) : HandlerProg HandlerPassiveIntent := do
  let row ← .observe fun s => s.passiveIntents.find? fun i => i.intentId = id
  .need row missingKey

def hooks : HandlerStage → CandidateHooks
  | .second => noHooks
  | .third => draftHooks

/-- The third stage checks a draft before it hands it to the second. -/
def draftGate (stage : HandlerStage) (binding : QQHandlerBinding)
    (event : QQPrivateEvent QQPrivateCommand) : HandlerProg Unit :=
  match stage with
  | .second => pure ()
  | .third => checkDraft setup.text binding event

def modelGate : HandlerStage → HandlerRequestId → QQHandlerBinding → Nat → HandlerProg Unit
  | .second => fun _ _ _ => pure ()
  | .third => assertModelApprovalCurrent

/-- An executed reply, and what the third stage's `execute_final_response` adds to it. -/
def deliver (stage : HandlerStage) (intent : HandlerPassiveIntent) (binding : QQHandlerBinding)
    (content : String) (answers : PassiveAnswers) : HandlerProg HandlerPassiveResult := do
  let result ← SQLiteQQHandlerJournal.executePassiveReply setup.text intent binding content answers
  if stage = .third ∧ intent.responseKind = .final ∧ result.providerAccepted then do
    markFinalModelContentDeleted intent.caseId
    pure result
  else pure result

/-- **The program of a call**. -/
def prog : HandlerOp → HandlerProg HandlerReply
  | confirmBinding pairing => do
      let binding ← confirmHandlerBinding setup.text setup.config pairing
      pure (.bound binding)
  | revokeBinding id => do
      revokeHandlerBinding setup.text setup.config id
      pure .done
  | createIssue id caseId caseRevisionId content => do
      let binding ← heldBinding id
      let artifact ← createIssueArtifact setup.text binding caseId caseRevisionId content
      pure (.issue artifact)
  | createNotification caseId id => do
      let binding ← heldBinding id
      let intent ← createNotificationIntent setup.text caseId binding
      pure (.notification intent)
  | executeNotification intent id answer => do
      let intent ← heldNotification intent
      let binding ← heldBinding id
      let result ← SQLiteQQHandlerJournal.executeNotification setup.text intent binding answer
      pure (.notified result)
  | createGroupNudge caseId id sourceMessageId occurredAt => do
      let binding ← heldBinding id
      let intent ← createGroupNudgeIntent setup.text caseId binding sourceMessageId occurredAt
      pure (.passive intent)
  | privateEvent stage id event => do
      let binding ← openService setup.text setup.config id
      draftGate setup stage binding event
      let r ← handlePrivateEvent setup.text (hooks stage) binding event
      pure (.response r)
  | assistEvent id event answer => do
      let binding ← openService setup.text setup.config id
      let r ← handleAssistEvent setup.text setup.stage3Profile binding event answer
      pure (.response r)
  | groupApproval stage id event => do
      let binding ← openService setup.text setup.config id
      let r ← handleGroupApproval setup.text setup.config (modelGate stage) binding event
      pure (.approved r)
  | executePassiveReply stage intent id content answers => do
      let intent ← heldPassiveIntent intent
      let binding ← heldBinding id
      let result ← deliver setup stage intent binding content answers
      pure (.delivered result)
  | deleteExpiredArtifacts => do
      SQLiteQQHandlerJournal.deleteExpiredArtifacts
      pure .done

end HandlerOp

/-- What happens to the store from outside: time passes, the first stage's locators change. -/
inductive HandlerDisturbance where
  | elapse (microseconds : Nat)
  | pairing (locators : List PairingLocator)
  deriving DecidableEq, Repr

def handlerDisturbance : HandlerDisturbance → HandlerWorld → HandlerWorld
  | .elapse microseconds, s => { s with now := s.now + microseconds }
  | .pairing pairingLocators, s => { s with pairingLocators }

abbrev HandlerSys := Sys HandlerWorld HandlerError HandlerReply

abbrev HandlerAction := Action HandlerOp HandlerDisturbance

/-- A run of the system from an empty journal. -/
def HandlerSys.run (setup : HandlerSetup) (actions : List HandlerAction) : HandlerSys :=
  Sys.run (HandlerOp.prog setup) handlerDisturbance ⟨.empty, []⟩ actions

/-! ## A case in the journal -/

/-- Text functions under which every text is acceptable and its own digest. -/
def plainText : HandlerText :=
  { sha256Text := fun t => t, normalizePrivateContent := fun t _ => .ok t, lower := fun t => t,
    unsafeIssue := fun _ => false, unsafeModelText := fun _ => false, rejectionReason := fun _ => true,
    safeReason := fun _ => true, requestIdText := fun _ => "qqhar" }

def plainSetup : HandlerSetup :=
  ⟨plainText, ⟨"app", "tenant", "stage1", "group", "salt", []⟩, "profile"⟩

/-- The only handler, `member` of the group, whose private address is `user`. -/
def onlyHandler : ConfirmedPairing :=
  ⟨"pairing", saltedHash plainText "salt" "group-member" "member", "user-hash", "user"⟩

def onlyBinding : HandlerBindingId := stableIdentifier
  ⟨onlyHandler.pairingSessionId, onlyHandler.groupMemberIdentityHash, onlyHandler.c2cUserIdentityHash, 0⟩

/-- Call number `i` is started and performs `n` transactions. -/
def callSteps (op : HandlerOp) (i n : Nat) : List HandlerAction :=
  .start op :: List.replicate n (.advance i)

/-- The handler is bound, and the case `c1` is opened. -/
def openedCase : List HandlerAction :=
  callSteps (.confirmBinding onlyHandler) 0 2 ++ callSteps (.createIssue onlyBinding "c1" "r1" "503") 1 3

/-- A private message of the handler. -/
def privateMessage (messageId : String) (expectedVersion : Nat) (body : PrivateCommandBody) :
    QQPrivateEvent QQPrivateCommand :=
  ⟨"user", messageId, 0, .ok ⟨"c1", expectedVersion, body⟩⟩

def assistMessage (messageId : String) (expectedVersion : Nat) : QQPrivateEvent (String × Nat) :=
  ⟨"user", messageId, 0, .ok ("c1", expectedVersion)⟩

end WeFlow
