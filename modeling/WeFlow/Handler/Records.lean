import WeFlow.Base.Hash
import WeFlow.Base.Program
import WeFlow.Base.Table
import WeFlow.Base.Timestamp
import WeFlow.Base.Txn
import WeFlow.Ledger.Records

/-!
# `Records` — the rows of the QQ handler journal

The tables of `SQLiteQQHandlerJournal` and `SQLiteQQModelJournal` as lists of rows in insertion order, with
the uniqueness constraints the schema declares, and the calls of the provider's transport. A row holds the
columns and the fields of its JSON record that some function reads or returns.

## Contents

* `HandlerError` — the errors a call can end with.
* `QQHandlerBinding`, `HandlerCase`, `HandlerApprovalRequest`, … — rows, and their identifiers' material.
* `HandlerText`, `QQHandlerConfig` — text functions and configuration.
* `HandlerWorld` — the clock, the tables and the transport calls.
-/

namespace WeFlow

/-! ## Errors -/

/-- The classes of the errors a call can end with; `database` is an `IntegrityError`, `lookup` a
    `KeyError`. -/
inductive HandlerErrorClass where
  | eventRejected | authorizationDenied | stateConflict | transportError | database | lookup
  deriving DecidableEq, Repr

/-- A raised error with its reason code. -/
structure HandlerError where
  errorClass : HandlerErrorClass
  reasonCode : String
  deriving DecidableEq, Repr

namespace HandlerError

def denied (reasonCode : String) : HandlerError := ⟨.authorizationDenied, reasonCode⟩

def conflict (reasonCode : String) : HandlerError := ⟨.stateConflict, reasonCode⟩

def rejected (reasonCode : String) : HandlerError := ⟨.eventRejected, reasonCode⟩

def integrity : HandlerError := ⟨.database, "integrity_error"⟩

end HandlerError

/-! ## Bindings and locators -/

structure HandlerBindingMaterial where
  pairingSessionId : String
  groupMemberIdentityHash : String
  c2cUserIdentityHash : String
  confirmedAt : Instant
  deriving DecidableEq, Repr

abbrev HandlerBindingId := StableId HandlerBindingMaterial

structure QQHandlerBinding where
  handlerBindingId : HandlerBindingId
  pairingSessionId : String
  stage1PairingId : String
  tenantId : String
  tenantIdHash : String
  appIdHash : String
  groupOpenidHash : String
  groupMemberIdentityHash : String
  c2cUserIdentityHash : String
  capabilityProfileHash : String
  expiresAt : Instant
  deriving DecidableEq, Repr

/-- The active C2C locator of a binding. -/
structure HandlerPrivateLocator where
  handlerBindingId : HandlerBindingId
  providerLocator : String
  expiresAt : Instant
  active : Bool
  deriving DecidableEq, Repr

/-- A row of the first stage's `qq_pairing_locators`. -/
structure PairingLocator where
  pairingId : String
  groupOpenid : String
  expiresAt : Instant
  completed : Bool
  deriving DecidableEq, Repr

/-! ## Cases, artifacts, candidates -/

inductive HandlerStatus where
  | ready | accepted | rejected | drafted | approved | finalAccepted
  | assistRequested | investigating | responseReady
  deriving DecidableEq, Repr

/-- The statuses `_authorize_case_row` calls terminal (`TERMINAL` itself is never written). -/
def HandlerStatus.terminal : HandlerStatus → Bool
  | .rejected | .finalAccepted => true
  | _ => false

inductive HandlerArtifactMaterial where
  | issue (tenantId caseId caseRevisionId contentSha256 : String)
  | response (caseId : String) (workflowVersion : Nat) (contentSha256 : String)
  deriving DecidableEq, Repr

abbrev HandlerArtifactId := StableId HandlerArtifactMaterial

structure HandlerArtifact where
  artifactId : HandlerArtifactId
  caseId : String
  caseRevisionId : String
  contentSha256 : String
  expiresAt : Instant
  deriving DecidableEq, Repr

structure HandlerArtifactContent where
  artifactId : HandlerArtifactId
  content : String
  reachable : Bool
  deriving DecidableEq, Repr

inductive ArtifactLifecycleStatus where
  | deletionScheduled | deleted
  deriving DecidableEq, Repr

/-- A row of `qq_handler_artifact_lifecycle`. -/
structure ArtifactLifecycle where
  artifactId : HandlerArtifactId
  status : ArtifactLifecycleStatus
  reasonCode : String
  recordedAt : Instant
  deriving DecidableEq, Repr

/-- A `QQ_PRIVATE_ARTIFACT_DELETED` event, with the evidence in its metadata. -/
structure ArtifactDeletion where
  caseId : String
  artifactId : HandlerArtifactId
  reasonCode : String
  deletedAt : Instant
  recordedAt : Instant
  deriving DecidableEq, Repr

/-- What is left of the artifacts' contents: the lifecycle table, and the deletion events. -/
structure ArtifactLog where
  lifecycle : List ArtifactLifecycle
  deletions : List ArtifactDeletion
  deriving DecidableEq, Repr

structure HandlerRevisionMaterial where
  caseId : String
  workflowVersion : Nat
  artifactId : HandlerArtifactId
  deriving DecidableEq, Repr

abbrev CandidateRevisionId := StableId HandlerRevisionMaterial

structure HandlerCandidateRevision where
  candidateRevisionId : CandidateRevisionId
  tenantId : String
  caseId : String
  candidateArtifactId : HandlerArtifactId
  candidateSha256 : String
  workflowVersion : Nat
  predecessor : Option CandidateRevisionId
  deriving DecidableEq, Repr

structure HandlerRequestMaterial where
  caseId : String
  workflowVersion : Nat
  revisionId : CandidateRevisionId
  candidateSha256 : String
  deriving DecidableEq, Repr

abbrev HandlerRequestId := StableId HandlerRequestMaterial

structure HandlerApprovalRequest where
  approvalRequestId : HandlerRequestId
  tenantId : String
  caseId : String
  caseRevisionId : String
  handlerBindingId : HandlerBindingId
  issueArtifactId : HandlerArtifactId
  issueContentSha256 : String
  candidateRevisionId : CandidateRevisionId
  candidateArtifactId : HandlerArtifactId
  candidateSha256 : String
  candidateHashPrefix : String
  workflowVersion : Nat
  createdAt : Instant
  expiresAt : Instant
  deriving DecidableEq, Repr

structure HandlerCase where
  caseId : String
  tenantId : String
  caseRevisionId : String
  handlerBindingId : HandlerBindingId
  issueArtifactId : HandlerArtifactId
  groupOpenidHash : String
  workflowVersion : Nat
  status : HandlerStatus
  currentCandidateRevisionId : Option CandidateRevisionId
  currentApprovalRequestId : Option HandlerRequestId
  deriving DecidableEq, Repr

structure HandlerDecisionMaterial where
  request : HandlerRequestId
  authorIdentityHash : String
  sourceMessageIdHash : String
  deriving DecidableEq, Repr

structure HandlerApprovalDecision where
  approvalDecisionId : StableId HandlerDecisionMaterial
  approvalRequestId : HandlerRequestId
  tenantId : String
  caseId : String
  caseRevisionId : String
  handlerBindingId : HandlerBindingId
  candidateRevisionId : CandidateRevisionId
  candidateSha256 : String
  workflowVersion : Nat
  authorIdentityHash : String
  groupOpenidHash : String
  sourceMessageId : String
  decidedAt : Instant
  expiresAt : Instant
  deriving DecidableEq, Repr

/-! ## Notifications and passive replies -/

inductive ResponseKind where
  | pull | accept | draftPreview | reject | groupNudge | final
  deriving DecidableEq, Repr

/-- `QQ_RESPONSE_MSG_SEQ`. -/
def ResponseKind.msgSeq : ResponseKind → Nat
  | .pull => 1
  | .accept => 2
  | .draftPreview => 3
  | .reject => 4
  | .groupNudge => 2
  | .final => 5

inductive ReplySurface where
  | c2c | group
  deriving DecidableEq, Repr

def ResponseKind.surface : ResponseKind → ReplySurface
  | .groupNudge | .final => .group
  | _ => .c2c

inductive HandlerOperation where
  | c2cNotification | c2cPassiveReply | finalReply
  deriving DecidableEq, Repr

def ReplySurface.operation : ReplySurface → HandlerOperation
  | .group => .finalReply
  | .c2c => .c2cPassiveReply

inductive HandlerNaturalKey where
  | notification (caseId : String) (handlerBindingId : HandlerBindingId)
  | passive (sourceMessageId : String) (msgSeq : Nat) (caseId : String)
      (handlerBindingId : HandlerBindingId) (workflowVersion : Nat) (kind : ResponseKind)
  deriving DecidableEq, Repr

abbrev HandlerIntentId := StableId (Digest HandlerNaturalKey)

/-- The material of `stable_idempotency_key` (`provider_id` is constant). -/
structure HandlerIdempotency where
  tenantId : String
  operation : HandlerOperation
  naturalKey : Digest HandlerNaturalKey
  intendedStateHash : String
  deriving DecidableEq, Repr

structure HandlerNotificationIntent where
  intentId : HandlerIntentId
  tenantId : String
  caseId : String
  handlerBindingId : HandlerBindingId
  workflowVersion : Nat
  naturalKey : Digest HandlerNaturalKey
  idempotencyKey : Digest HandlerIdempotency
  createdAt : Instant
  deriving DecidableEq, Repr

inductive ProviderStatus where
  | accepted | duplicate | present | rejected | rateLimited | expiredWindow | timedOut | disconnected
  | unknown | other (status : String)
  deriving DecidableEq, Repr

structure QQProviderOutcome where
  status : ProviderStatus
  reasonCode : String
  providerStatus : Option String
  deriving DecidableEq, Repr

/-- What a transport call comes back with: an outcome, or one of the exceptions the callers catch. -/
inductive ProviderAnswer where
  | outcome (o : QQProviderOutcome)
  | ambiguous
  deriving DecidableEq, Repr

structure HandlerNotificationResult where
  intentId : HandlerIntentId
  tenantId : String
  status : ProviderStatus
  providerAccepted : Bool
  reasonCode : String
  providerStatusHash : Option String
  recordedAt : Instant
  deriving DecidableEq, Repr

structure HandlerNotificationAttempt where
  intentId : HandlerIntentId
  startedAt : Instant
  result : Option HandlerNotificationResult
  deriving DecidableEq, Repr

structure HandlerPassiveIntent where
  intentId : HandlerIntentId
  surface : ReplySurface
  responseKind : ResponseKind
  tenantId : String
  caseId : String
  handlerBindingId : HandlerBindingId
  workflowVersion : Nat
  sourceMessageId : String
  replyMsgSeq : Nat
  contentArtifactId : Option HandlerArtifactId
  contentSha256 : String
  naturalKey : Digest HandlerNaturalKey
  idempotencyKey : Digest HandlerIdempotency
  replyDeadlineAt : Instant
  approvalDecisionId : Option (StableId HandlerDecisionMaterial)
  createdAt : Instant
  deriving DecidableEq, Repr

structure HandlerPassiveResult where
  intentId : HandlerIntentId
  tenantId : String
  status : ProviderStatus
  providerAccepted : Bool
  reasonCode : String
  providerStatusHash : Option String
  recordedAt : Instant
  deriving DecidableEq, Repr

/-! ## Assistance by the model -/

structure AssistNaturalKey where
  tenantId : String
  caseId : String
  caseRevisionId : String
  handlerBindingId : HandlerBindingId
  workflowVersion : Nat
  sourceMessageIdHash : String
  stage3ProfileSha256 : String
  deriving DecidableEq, Repr

abbrev AssistRequestId := StableId (Digest AssistNaturalKey)

structure ModelAssistRequest where
  assistRequestId : AssistRequestId
  tenantId : String
  caseId : String
  caseRevisionId : String
  handlerBindingId : HandlerBindingId
  issueArtifactId : HandlerArtifactId
  issueContentSha256 : String
  sourceMessageIdHash : String
  expectedWorkflowVersion : Nat
  stage3ProfileSha256 : String
  deriving DecidableEq, Repr

structure AssistContextMaterial where
  assistRequestId : AssistRequestId
  issueViewSha256 : String
  deriving DecidableEq, Repr

structure ModelAssistContext where
  contextId : StableId AssistContextMaterial
  assistRequestId : AssistRequestId
  caseId : String
  issueViewSha256 : String
  createdAt : Instant
  deriving DecidableEq, Repr

/-- The context's own digest, over all of its fields. -/
def ModelAssistContext.contextSha256 (context : ModelAssistContext) : Digest ModelAssistContext :=
  sha256 context

inductive AssistOutcomeKind where
  | responseReady | stopped (terminalOutcome : String)
  deriving DecidableEq, Repr

/-- A budget snapshot: its digest, its sequence number, and the usage line it is rendered to. -/
structure ModelBudget where
  assistRequestId : AssistRequestId
  budgetSha256 : String
  sequence : Nat
  usage : String
  deriving DecidableEq, Repr

/-- `QQModelRuntimeResult`; `evidenceComplete` says that the action, the invocation and all three evidence
    digests are there. -/
structure QQModelRuntimeResult where
  terminalOutcome : AssistOutcomeKind
  reasonCode : String
  candidateText : Option String
  evidenceComplete : Bool
  budget : ModelBudget
  deriving DecidableEq, Repr

structure CandidateBindingMaterial where
  assistRequestId : AssistRequestId
  candidateSha256 : String
  deriving DecidableEq, Repr

structure ModelCandidateBinding where
  bindingId : StableId CandidateBindingMaterial
  caseId : String
  handlerBindingId : HandlerBindingId
  assistRequestId : AssistRequestId
  contextId : StableId AssistContextMaterial
  contextSha256 : Digest ModelAssistContext
  workflowVersion : Nat
  candidateArtifactId : HandlerArtifactId
  candidateRevisionId : CandidateRevisionId
  candidateSha256 : String
  approvalRequestId : HandlerRequestId
  budgetSha256 : String
  deriving DecidableEq, Repr

/-- A row of `qq_model_candidate_lifecycle`: no status but `CURRENT` keeps a binding current, and
    `CURRENT` is never written. -/
structure CandidateLifecycle where
  bindingId : StableId CandidateBindingMaterial
  reasonCode : String
  deriving DecidableEq, Repr

structure ModelAssistOutcome where
  assistRequestId : AssistRequestId
  caseId : String
  terminalOutcome : AssistOutcomeKind
  reasonCode : String
  completedAt : Instant
  deriving DecidableEq, Repr

/-! ## Stored commands -/

/-- The metadata `handle_private_event` stores of a command it has carried out. -/
structure PrivateCommandMetadata where
  caseId : String
  caseStatus : HandlerStatus
  workflowVersion : Nat
  responseKind : ResponseKind
  contentArtifactId : Option HandlerArtifactId
  approvalRequestId : Option HandlerRequestId
  candidateHashPrefix : Option String
  deriving DecidableEq, Repr

/-- The metadata of a model-assisted command. -/
structure AssistMetadata where
  caseId : String
  workflowVersion : Nat
  terminalOutcome : AssistOutcomeKind
  reasonCode : String
  candidateArtifactId : Option HandlerArtifactId
  approvalRequestId : Option HandlerRequestId
  candidateHashPrefix : Option String
  usage : String
  deriving DecidableEq, Repr

inductive CommandMetadata where
  | command (m : PrivateCommandMetadata)
  | assist (m : AssistMetadata)
  deriving DecidableEq, Repr

structure StoredHandlerCommand where
  sourceMessageIdHash : String
  metadata : CommandMetadata
  passiveIntent : HandlerPassiveIntent
  deriving DecidableEq, Repr

/-! ## Events -/

inductive HandlerEventKind where
  | bindingRevoked | notificationOutcome | groupNudgeResult | finalDeliveryResult | privateReplyResult
  deriving DecidableEq, Repr

structure OutcomeMetadata where
  intentId : HandlerIntentId
  status : ProviderStatus
  providerAccepted : Bool
  deriving DecidableEq, Repr

/-- A row of `qq_handler_events`; deletions of artifacts are in `ArtifactLog`. The journal also appends an
    event for each other change of a case; no function reads those, and they are left out. -/
structure HandlerEvent where
  aggregate : HandlerBindingId ⊕ String
  kind : HandlerEventKind
  workflowVersion : Option Nat
  reasonCode : String
  metadata : Option OutcomeMetadata
  recordedAt : Instant
  deriving DecidableEq, Repr

/-! ## Text -/

/-- The text functions of the handler: hashing, the normalisation of private content (which may reject
    it with a reason code), lower-casing, the two patterns that keep unsafe text from the model, the two of
    reason codes, and an approval request's identifier as text. -/
structure HandlerText where
  sha256Text : String → String
  normalizePrivateContent : String → Bool → Except String String
  lower : String → String
  unsafeIssue : String → Bool
  unsafeModelText : String → Bool
  rejectionReason : String → Bool
  safeReason : String → Bool
  requestIdText : HandlerRequestId → String

/-- `word in text`. -/
def containsText (word text : String) : Bool := word.toList <:+: text.toList

def textPrefix (n : Nat) (text : String) : String := String.ofList (text.toList.take n)

def startsWithText (text start : String) : Bool := start.toList <+: text.toList

/-! ## Configuration -/

structure QQHandlerConfig where
  appId : String
  tenantId : String
  stage1PairingId : String
  groupOpenid : String
  identitySalt : String
  capabilities : List String
  deriving DecidableEq, Repr

section Config

variable (text : HandlerText) (config : QQHandlerConfig)

def QQHandlerConfig.appIdHash : String := text.sha256Text config.appId

def QQHandlerConfig.tenantIdHash : String := text.sha256Text config.tenantId

def QQHandlerConfig.groupOpenidHash : String := text.sha256Text config.groupOpenid

def QQHandlerConfig.capabilityProfileHash : String := text.sha256Text ("|".intercalate config.capabilities)

/-- `_salted_hash`. -/
def saltedHash (salt surface value : String) : String :=
  text.sha256Text ("weflow-qq-handler-v1\x00" ++ salt ++ "\x00" ++ surface ++ "\x00" ++ value)

end Config

/-! ## The world -/

/-- The calls of `QQHandlerTransport`. -/
inductive HandlerCall where
  | notifyC2c (userOpenid content : String) (key : Digest HandlerIdempotency)
  | reconcilePassive (surface : ReplySurface) (destination sourceMessageId : String) (msgSeq : Nat)
      (key : Digest HandlerIdempotency)
  | passiveReply (kind : ResponseKind) (destination sourceMessageId : String) (msgSeq : Nat)
      (content : String) (key : Digest HandlerIdempotency)
  deriving DecidableEq, Repr

/-- The clock, the tables, and the transport calls made so far. -/
structure HandlerWorld where
  now : Instant
  pairingLocators : List PairingLocator
  bindings : List QQHandlerBinding
  locators : List HandlerPrivateLocator
  events : List HandlerEvent
  artifacts : List HandlerArtifact
  contents : List HandlerArtifactContent
  artifactLog : ArtifactLog
  cases : List HandlerCase
  candidates : List HandlerCandidateRevision
  requests : List HandlerApprovalRequest
  decisions : List HandlerApprovalDecision
  commands : List StoredHandlerCommand
  notificationIntents : List HandlerNotificationIntent
  attempts : List HandlerNotificationAttempt
  passiveIntents : List HandlerPassiveIntent
  passiveResults : List HandlerPassiveResult
  assistRequests : List ModelAssistRequest
  contexts : List ModelAssistContext
  budgets : List ModelBudget
  candidateBindings : List ModelCandidateBinding
  lifecycle : List CandidateLifecycle
  outcomes : List ModelAssistOutcome
  transport : List HandlerCall
  deriving DecidableEq, Repr

def HandlerWorld.empty : HandlerWorld :=
  ⟨0, [], [], [], [], [], [], ⟨[], []⟩, [], [], [], [], [], [], [], [], [], [], [], [], [], [], [], []⟩

abbrev HandlerProg := Prog HandlerWorld HandlerError

/-! ## Queries -/

namespace HandlerWorld

variable (s : HandlerWorld)

def binding? (id : HandlerBindingId) : Option QQHandlerBinding :=
  s.bindings.find? fun b => b.handlerBindingId = id

/-- A `HANDLER_BINDING_REVOKED` event of the binding exists. -/
def revoked (id : HandlerBindingId) : Bool :=
  s.events.any fun e => e.aggregate = .inl id ∧ e.kind = .bindingRevoked

def locator? (id : HandlerBindingId) : Option HandlerPrivateLocator :=
  s.locators.find? fun l => l.handlerBindingId = id

def case? (caseId : String) : Option HandlerCase := s.cases.find? fun c => c.caseId = caseId

def artifact? (id : HandlerArtifactId) : Option HandlerArtifact :=
  s.artifacts.find? fun a => a.artifactId = id

def content? (id : HandlerArtifactId) : Option HandlerArtifactContent :=
  s.contents.find? fun c => c.artifactId = id

def candidate? (id : CandidateRevisionId) : Option HandlerCandidateRevision :=
  s.candidates.find? fun r => r.candidateRevisionId = id

def request? (id : HandlerRequestId) : Option HandlerApprovalRequest :=
  s.requests.find? fun r => r.approvalRequestId = id

/-- The decision of a request. -/
def decisionOf? (id : HandlerRequestId) : Option HandlerApprovalDecision :=
  s.decisions.find? fun d => d.approvalRequestId = id

def attempt? (id : HandlerIntentId) : Option HandlerNotificationAttempt :=
  s.attempts.find? fun a => a.intentId = id

def passiveResult? (id : HandlerIntentId) : Option HandlerPassiveResult :=
  s.passiveResults.find? fun r => r.intentId = id

def command? (sourceMessageIdHash : String) : Option StoredHandlerCommand :=
  s.commands.find? fun c => c.sourceMessageIdHash = sourceMessageIdHash

def context? (id : AssistRequestId) : Option ModelAssistContext :=
  s.contexts.find? fun c => c.assistRequestId = id

def outcome? (id : AssistRequestId) : Option ModelAssistOutcome :=
  s.outcomes.find? fun o => o.assistRequestId = id

/-- `UPDATE qq_handler_cases SET … WHERE case_id=?`. -/
def modifyCase (caseId : String) (f : HandlerCase → HandlerCase) : HandlerWorld :=
  { s with cases := Table.modify (fun c => c.caseId = caseId) f s.cases }

/-- `_event`: `INSERT OR IGNORE` under an id that is the digest of the whole row. -/
def addEvent (e : HandlerEvent) : HandlerWorld :=
  if e ∈ s.events then s else { s with events := s.events ++ [e] }

end HandlerWorld

end WeFlow
