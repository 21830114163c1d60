import WeFlow.Handler.Journal

/-!
# `Delivery` — notifications and passive replies of the QQ handler

An intent is stored under its natural key; an execution calls the provider's transport between its
transactions and records what came back. What the transport answers is a parameter of the execution.

## Contents

* `createNotificationIntent`, `executeNotification` — one attempt, claimed before it is made.
* `createPassiveIntent`, `executePassiveReply`, `recordPassiveResult`.
* `finalDeliveryIntent` — the intent of an approved reply, with its content.
-/

namespace WeFlow

open Txn

/-- `QQ_C2C_PASSIVE_REPLY_WINDOW_SECONDS` and `QQ_GROUP_PASSIVE_REPLY_WINDOW_SECONDS`, in microseconds. -/
def ReplySurface.window : ReplySurface → Nat
  | .c2c => 3600 * 1000000
  | .group => 300 * 1000000

/-- `QQ_GROUP_NUDGE_TEMPLATE`. -/
def groupNudgeTemplate : String := "处理人请查看与机器人的私聊任务通知；群内不展示工单或草稿内容。"

/-- `QQ_NOTIFICATION_TEMPLATE`, filled in. -/
def notificationContent (caseReference : String) (version : Nat) : String :=
  "工单 " ++ caseReference ++ " 待处理。请私聊发送 WF-PULL " ++ caseReference ++ " " ++ toString version ++
    "。"

/-! ## Uniqueness constraints -/

def HandlerNotificationIntent.clash (a b : HandlerNotificationIntent) : Bool :=
  a.intentId = b.intentId ∨ a.naturalKey = b.naturalKey

def HandlerNotificationAttempt.clash (a b : HandlerNotificationAttempt) : Bool := a.intentId = b.intentId

def HandlerPassiveIntent.clash (a b : HandlerPassiveIntent) : Bool :=
  a.intentId = b.intentId ∨ a.naturalKey = b.naturalKey

def HandlerPassiveResult.clash (a b : HandlerPassiveResult) : Bool := a.intentId = b.intentId

/-! ## Outcomes -/

def ProviderAnswer.orElse (answer : ProviderAnswer) (reasonCode : String) : QQProviderOutcome :=
  match answer with
  | .outcome o => o
  | .ambiguous => ⟨.unknown, reasonCode, none⟩

/-- The statuses a notification result may have; any other becomes `unknown`. -/
def ProviderStatus.forNotification : ProviderStatus → ProviderStatus
  | .duplicate | .present | .expiredWindow | .other _ => .unknown
  | status => status

/-- The statuses a passive result may have; any other becomes `unknown`. -/
def ProviderStatus.forPassive : ProviderStatus → ProviderStatus
  | .present | .other _ => .unknown
  | status => status

/-- `status in {"accepted", "duplicate"}`. -/
def ProviderStatus.acceptedOrDuplicate : ProviderStatus → Bool
  | .accepted | .duplicate => true
  | _ => false

/-- `reconciled.status in {"accepted", "duplicate", "present"}`. -/
def ProviderStatus.alreadyThere : ProviderStatus → Bool
  | .accepted | .duplicate | .present => true
  | _ => false

def ResponseKind.resultEvent : ResponseKind → HandlerEventKind
  | .groupNudge => .groupNudgeResult
  | .final => .finalDeliveryResult
  | _ => .privateReplyResult

def HandlerCase.finalAccepted (c : HandlerCase) : HandlerCase := { c with status := .finalAccepted }

namespace SQLiteQQHandlerJournal

variable (text : HandlerText)

/-- A call of the transport: one atomic step of the world. -/
def recordCall (call : HandlerCall) (s : HandlerWorld) : Except HandlerError (Unit × HandlerWorld) :=
  .ok ((), { s with transport := s.transport ++ [call] })

def callTransport (call : HandlerCall) : HandlerProg Unit := .atomically (recordCall call)

/-! ## Notifications -/

def notificationIntent (c : HandlerCase) (binding : QQHandlerBinding) (created : Instant) :
    HandlerNotificationIntent :=
  let naturalKey : Digest HandlerNaturalKey := sha256 (.notification c.caseId binding.handlerBindingId)
  { intentId := stableIdentifier naturalKey, tenantId := c.tenantId, caseId := c.caseId,
    handlerBindingId := binding.handlerBindingId, workflowVersion := c.workflowVersion, naturalKey,
    idempotencyKey := sha256 ⟨c.tenantId, .c2cNotification, naturalKey,
      text.sha256Text (notificationContent c.caseId c.workflowVersion)⟩,
    createdAt := created }

/-- The transaction of `create_notification_intent`. -/
def insertNotificationIntent (intent : HandlerNotificationIntent) (s : HandlerWorld) :
    Except HandlerError (HandlerNotificationIntent × HandlerWorld) :=
  match s.notificationIntents.find? fun i => i.naturalKey = intent.naturalKey with
  | some existing => .ok (existing, s)
  | none => do
      let notificationIntents ← fetch
        (Table.insert? HandlerNotificationIntent.clash intent s.notificationIntents) .integrity
      pure (intent, { s with notificationIntents })

def createNotificationIntent (caseId : String) (binding : QQHandlerBinding) :
    HandlerProg HandlerNotificationIntent := do
  let c ← caseProjection caseId
  assertProjectionBinding c binding
  let created ← .observe HandlerWorld.now
  .atomically (insertNotificationIntent (notificationIntent text c binding created))

/-- `_notification_result`. -/
def notificationResult (intent : HandlerNotificationIntent) (status : ProviderStatus)
    (reasonCode : String) (providerStatus : Option String) (now : Instant) :
    HandlerNotificationResult :=
  { intentId := intent.intentId, tenantId := intent.tenantId, status,
    providerAccepted := status = .accepted, reasonCode,
    providerStatusHash := (providerStatus.filter fun t => t ≠ "").map text.sha256Text,
    recordedAt := now }

/-- The event of a notification outcome. -/
def notificationEvent (intent : HandlerNotificationIntent) (status : ProviderStatus)
    (reasonCode : String) (accepted : Bool) (now : Instant) : HandlerEvent :=
  ⟨.inr intent.caseId, .notificationOutcome, some intent.workflowVersion, reasonCode,
    some ⟨intent.intentId, status, accepted⟩, now⟩

def setResult (result : HandlerNotificationResult) (a : HandlerNotificationAttempt) :
    HandlerNotificationAttempt :=
  { a with result := some result }

/-- **The first transaction of `execute_notification`.** The stored result of an attempt; the outcome
    `unknown` of an attempt that was started and has none; else the attempt is claimed (`none`). -/
def claimAttempt (intent : HandlerNotificationIntent) (s : HandlerWorld) :
    Except HandlerError (Option HandlerNotificationResult × HandlerWorld) :=
  match s.attempt? intent.intentId with
  | some attempt =>
      match attempt.result with
      | some result => .ok (some result, s)
      | none =>
          let recovered := notificationResult text intent .unknown "ambiguous_started_attempt" none s.now
          let attempts := Table.modify (fun a => a.intentId = intent.intentId) (setResult recovered)
            s.attempts
          .ok (some recovered, { s with attempts }.addEvent
            (notificationEvent intent .unknown "ambiguous_started_attempt" false s.now))
  | none => do
      let attempts ← fetch (Table.insert? HandlerNotificationAttempt.clash
        ⟨intent.intentId, s.now, none⟩ s.attempts) .integrity
      pure (none, { s with attempts })

/-- The second transaction: the outcome is recorded unless the attempt has a result already. -/
def recordNotification (intent : HandlerNotificationIntent) (result : HandlerNotificationResult)
    (s : HandlerWorld) : Except HandlerError (Unit × HandlerWorld) :=
  let attempts := Table.modify (fun a => a.intentId = intent.intentId ∧ a.result.isNone)
    (setResult result) s.attempts
  .ok ((), { s with attempts }.addEvent
    (notificationEvent intent result.status result.reasonCode result.providerAccepted s.now))

/-- `"WF-PULL" not in content or any(word in content.lower() …)`, negated. -/
def notificationMinimal (content : String) : Bool :=
  containsText "WF-PULL" content &&
    !(["issue", "draft", "preview"].any fun word => containsText word (text.lower content))

/-- The send of a claimed attempt, and its recording. -/
def sendNotification (intent : HandlerNotificationIntent) (userOpenid content : String)
    (answer : ProviderAnswer) : HandlerProg HandlerNotificationResult := do
  callTransport (.notifyC2c userOpenid content intent.idempotencyKey)
  let outcome := answer.orElse "notification_transport_ambiguous"
  let now ← .observe HandlerWorld.now
  let result := notificationResult text intent outcome.status.forNotification outcome.reasonCode
    outcome.providerStatus now
  .atomically (recordNotification intent result)
  pure result

/-- **`execute_notification`**. -/
def executeNotification (intent : HandlerNotificationIntent) (binding : QQHandlerBinding)
    (answer : ProviderAnswer) : HandlerProg HandlerNotificationResult := do
  let userOpenid ← privateLocator binding.handlerBindingId
  let content := notificationContent intent.caseId intent.workflowVersion
  .check (notificationMinimal text content) (.conflict "notification_template_not_minimal")
  let claimed ← .atomically (claimAttempt text intent)
  match claimed with
  | some result => pure result
  | none => sendNotification text intent userOpenid content answer

/-! ## Passive replies -/

/-- What `create_passive_intent` is given about the content. -/
structure PassiveContent where
  artifactId : Option HandlerArtifactId
  sha256 : String
  approvalDecisionId : Option (StableId HandlerDecisionMaterial)
  deriving DecidableEq, Repr

def passiveIntent (c : HandlerCase) (binding : QQHandlerBinding) (sourceMessageId : String)
    (kind : ResponseKind) (occurredAt : Instant) (content : PassiveContent) (created : Instant) :
    HandlerPassiveIntent :=
  let naturalKey : Digest HandlerNaturalKey := sha256
    (.passive sourceMessageId kind.msgSeq c.caseId binding.handlerBindingId c.workflowVersion kind)
  { intentId := stableIdentifier naturalKey, surface := kind.surface, responseKind := kind,
    tenantId := c.tenantId, caseId := c.caseId, handlerBindingId := binding.handlerBindingId,
    workflowVersion := c.workflowVersion, sourceMessageId, replyMsgSeq := kind.msgSeq,
    contentArtifactId := content.artifactId, contentSha256 := content.sha256, naturalKey,
    idempotencyKey := sha256 ⟨c.tenantId, kind.surface.operation, naturalKey, content.sha256⟩,
    replyDeadlineAt := occurredAt + kind.surface.window,
    approvalDecisionId := content.approvalDecisionId, createdAt := created }

/-- The transaction of `create_passive_intent`. -/
def insertPassiveIntent (intent : HandlerPassiveIntent) (s : HandlerWorld) :
    Except HandlerError (HandlerPassiveIntent × HandlerWorld) :=
  match s.passiveIntents.find? fun i => i.naturalKey = intent.naturalKey with
  | some existing => .ok (existing, s)
  | none => do
      let passiveIntents ← fetch (Table.insert? HandlerPassiveIntent.clash intent s.passiveIntents)
        .integrity
      pure (intent, { s with passiveIntents })

/-- **`create_passive_intent`**. -/
def createPassiveIntent (caseId : String) (binding : QQHandlerBinding) (sourceMessageId : String)
    (kind : ResponseKind) (occurredAt : Instant) (content : PassiveContent) :
    HandlerProg HandlerPassiveIntent := do
  let c ← caseProjection caseId
  assertProjectionBinding c binding
  let created ← .observe HandlerWorld.now
  .atomically (insertPassiveIntent
    (passiveIntent c binding sourceMessageId kind occurredAt content created))

def passiveResult (intent : HandlerPassiveIntent) (status : ProviderStatus) (reasonCode : String)
    (providerStatus : Option String) (now : Instant) : HandlerPassiveResult :=
  { intentId := intent.intentId, tenantId := intent.tenantId, status,
    providerAccepted := status.acceptedOrDuplicate, reasonCode,
    providerStatusHash := (providerStatus.filter fun t => t ≠ "").map text.sha256Text,
    recordedAt := now }

def passiveEvent (intent : HandlerPassiveIntent) (result : HandlerPassiveResult) (now : Instant) :
    HandlerEvent :=
  ⟨.inr intent.caseId, intent.responseKind.resultEvent, some intent.workflowVersion, result.reasonCode,
    some ⟨intent.intentId, result.status, result.providerAccepted⟩, now⟩

/-- **The transaction of `_record_passive_result`.** The row is `INSERT OR IGNORE`d; the event and the
    case's status follow the caller's own result. -/
def insertPassiveResult (intent : HandlerPassiveIntent) (result : HandlerPassiveResult)
    (s : HandlerWorld) : Except HandlerError (Unit × HandlerWorld) :=
  let passiveResults := (Table.insert? HandlerPassiveResult.clash result s.passiveResults).getD
    s.passiveResults
  let s := { s with passiveResults }.addEvent (passiveEvent intent result s.now)
  if intent.responseKind = .final ∧ result.providerAccepted then
    .ok ((), s.modifyCase intent.caseId HandlerCase.finalAccepted)
  else .ok ((), s)

/-- An accepted final reply ends the retention of the case's private content. -/
def retireContent (intent : HandlerPassiveIntent) (stored : HandlerPassiveResult) : HandlerProg Unit :=
  if intent.responseKind = .final ∧ stored.providerAccepted then
    deleteArtifacts intent.caseId "final_provider_acceptance_terminal"
  else pure ()

/-- **`_record_passive_result`**: it returns what is stored. -/
def recordPassiveResult (intent : HandlerPassiveIntent) (status : ProviderStatus) (reasonCode : String)
    (providerStatus : Option String) : HandlerProg HandlerPassiveResult := do
  let now ← .observe HandlerWorld.now
  let result := passiveResult text intent status reasonCode providerStatus now
  .atomically (insertPassiveResult intent result)
  let stored ← .observe fun s => (s.passiveResult? intent.intentId).getD result
  retireContent intent stored
  pure stored

/-- What the transport answers to the two calls of one execution; the exceptions of a reconciliation are
    not caught. -/
structure PassiveAnswers where
  reconciled : ProviderAnswer
  sent : ProviderAnswer
  deriving DecidableEq, Repr

/-- The group of a group reply, or the handler's private locator. -/
def replyDestination (intent : HandlerPassiveIntent) (binding : QQHandlerBinding) : HandlerProg String :=
  match intent.surface with
  | .group => bindingGroupFromStage1 text binding
  | .c2c => privateLocator binding.handlerBindingId

def reconcileCall (intent : HandlerPassiveIntent) (destination : String) : HandlerCall :=
  .reconcilePassive intent.surface destination intent.sourceMessageId intent.replyMsgSeq
    intent.idempotencyKey

def passiveCall (intent : HandlerPassiveIntent) (destination content : String) : HandlerCall :=
  .passiveReply intent.responseKind destination intent.sourceMessageId intent.replyMsgSeq content
    intent.idempotencyKey

/-- The part of `execute_passive_reply` that reaches the transport. -/
def reconcileThenReply (intent : HandlerPassiveIntent) (destination content : String)
    (answers : PassiveAnswers) : HandlerProg HandlerPassiveResult := do
  callTransport (reconcileCall intent destination)
  match answers.reconciled with
  | .ambiguous => .raise ⟨.transportError, "passive_reconciliation_failed"⟩
  | .outcome reconciled =>
      if reconciled.status.alreadyThere then
        recordPassiveResult text intent .duplicate "passive_effect_reconciled" reconciled.providerStatus
      else do
        callTransport (passiveCall intent destination content)
        let outcome := answers.sent.orElse "passive_transport_ambiguous"
        recordPassiveResult text intent outcome.status.forPassive outcome.reasonCode
          outcome.providerStatus

/-- **`execute_passive_reply`**: the window is checked before the stored result is looked up. -/
def executePassiveReply (intent : HandlerPassiveIntent) (binding : QQHandlerBinding) (content : String)
    (answers : PassiveAnswers) : HandlerProg HandlerPassiveResult := do
  .check (text.sha256Text content = intent.contentSha256)
    (.denied "passive_reply_content_hash_mismatch")
  let now ← .observe HandlerWorld.now
  if intent.replyDeadlineAt ≤ now then
    recordPassiveResult text intent .expiredWindow "passive_window_expired" none
  else do
    let existing ← .observe fun s => s.passiveResult? intent.intentId
    match existing with
    | some result => pure result
    | none => do
        let destination ← replyDestination text intent binding
        reconcileThenReply text intent destination content answers

/-- `create_group_nudge_intent`. -/
def createGroupNudgeIntent (caseId : String) (binding : QQHandlerBinding) (sourceMessageId : String)
    (occurredAt : Instant) : HandlerProg HandlerPassiveIntent :=
  createPassiveIntent caseId binding sourceMessageId .groupNudge occurredAt
    ⟨none, text.sha256Text groupNudgeTemplate, none⟩

/-! ## The final reply -/

/-- **`final_delivery_intent`**: the intent of an approved reply, with the content to send. -/
def finalDeliveryIntent (decision : HandlerApprovalDecision) (binding : QQHandlerBinding) :
    HandlerProg (HandlerPassiveIntent × String) := do
  let requestRow ← .observe fun s => s.request? decision.approvalRequestId
  let stored ← .observe fun s =>
    s.decisions.find? fun d => d.approvalDecisionId = decision.approvalDecisionId
  let request ← .need requestRow (.denied "final_decision_not_durable")
  .check (stored = some decision) (.denied "final_decision_not_durable")
  let c ← caseProjection decision.caseId
  assertProjectionBinding c binding
  let now ← .observe HandlerWorld.now
  .check (c.status = .approved && c.currentApprovalRequestId = some decision.approvalRequestId &&
    c.workflowVersion = decision.workflowVersion && now < decision.expiresAt)
    (.denied "final_decision_stale")
  let content ← artifactContent request.candidateArtifactId
  let intent ← createPassiveIntent decision.caseId binding decision.sourceMessageId .final
    decision.decidedAt
    ⟨some request.candidateArtifactId, decision.candidateSha256, some decision.approvalDecisionId⟩
  pure (intent, content)

end SQLiteQQHandlerJournal

end WeFlow
