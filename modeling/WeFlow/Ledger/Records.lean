import WeFlow.Base.Hash
import WeFlow.Workflow.Transition

/-!
# `Records` — identifiers, payloads and rows of the Case ledger

The data of `ledger.py`: the two inbound payloads, the identifiers derived from them, and one structure
per ledger table. A column that SQLite stores as JSON text is kept as the value it encodes.

Every query of the ledger is scoped to one tenant, so a delivery key, which the code renders
`tenant:channel:event`, is kept as its three parts: within one tenant the rendered keys agree exactly
when the parts do.
-/

namespace WeFlow

/-! ## Payloads -/

/-- A normalized synthetic delivery, before validation. -/
structure InboundMessageEvent where
  tenantId : String
  channel : String
  channelEventId : String
  conversationId : String
  senderId : String
  customerId : String
  conversationSequence : Nat
  occurredAt : String
  receivedAt : String
  correlationId : String
  contentClassification : String
  contentSha256 : String
  deriving DecidableEq, Repr

/-- The material of a QQ inbound natural key (`provider` is constant). -/
structure QQNaturalKey where
  appIdHash : String
  groupOpenidHash : String
  sourceMessageId : String
  tenantId : String
  deriving DecidableEq, Repr

/-- A server-normalized QQ sandbox event, before validation. -/
structure QQSandboxInboundEvent where
  tenantId : String
  provider : String
  eventType : String
  appIdHash : String
  groupOpenidHash : String
  sourceMessageId : String
  sourceMessageIdHash : Digest String
  senderOpenidHash : String
  conversationId : String
  customerId : String
  gatewaySequence : Nat
  occurredAt : String
  receivedAt : String
  correlationId : String
  contentClassification : String
  contentSha256 : String
  inboundNaturalKey : Digest QQNaturalKey
  deriving DecidableEq, Repr

inductive Channel where
  | syntheticIm | qqSandbox
  deriving DecidableEq, Repr

/-- The provider's event identity: free text for the synthetic channel, a natural key for QQ. -/
inductive ChannelEventId where
  | text (value : String)
  | naturalKey (value : Digest QQNaturalKey)
  deriving DecidableEq, Repr

/-- The payload both intake paths hand to `_intake_validated`. -/
structure IntakePayload where
  channel : Channel
  channelEventId : ChannelEventId
  conversationId : String
  senderId : String
  customerId : String
  conversationSequence : Nat
  occurredAt : String
  receivedAt : String
  correlationId : String
  contentClassification : String
  contentSha256 : String
  deriving DecidableEq, Repr

/-! ## Identifiers -/

structure DeliveryKey where
  tenantId : String
  channel : Channel
  channelEventId : ChannelEventId
  deriving DecidableEq, Repr

structure CaseMaterial where
  tenantId : String
  deliveryKey : DeliveryKey
  deriving DecidableEq, Repr

abbrev CaseId := StableId CaseMaterial

structure RevisionMaterial where
  caseId : CaseId
  revision : Nat
  deriving DecidableEq, Repr

abbrev CaseRevisionId := StableId RevisionMaterial

inductive EventType where
  | inboundReceived | caseRevisionCreated | caseStateTransitioned | workflowStateTransitioned
  deriving DecidableEq, Repr

structure EventMaterial where
  caseId : CaseId
  eventType : EventType
  eventIndex : Nat
  deriving DecidableEq, Repr

abbrev EventId := StableId EventMaterial

/-- The material of a workflow identity (the definition version is constant). -/
structure WorkflowMaterial where
  tenantId : String
  caseId : CaseId
  caseRevisionId : CaseRevisionId
  deriving DecidableEq, Repr

abbrev WorkflowId := StableId WorkflowMaterial

structure CheckpointMaterial where
  workflowId : WorkflowId
  checkpointSequence : Nat
  deriving DecidableEq, Repr

abbrev CheckpointId := StableId CheckpointMaterial

instance : LawfulBEq CheckpointId := inferInstance

/-- A clock reading: microseconds since the epoch. -/
abbrev Instant := Nat

/-- A timestamp column: text a payload brought along, or a rendered clock reading. -/
inductive TimeText where
  | text (value : String)
  | clock (value : Instant)
  deriving DecidableEq, Repr

/-! ## Rows -/

/-- What a delivery's fingerprint covers: neither `received_at`, nor the sequence of a QQ event. -/
structure FingerprintMaterial where
  channel : Channel
  channelEventId : ChannelEventId
  conversationId : String
  senderId : String
  customerId : String
  conversationSequence : Option Nat
  occurredAt : String
  correlationId : String
  contentClassification : String
  contentSha256 : String
  effectiveTenantId : String
  deriving DecidableEq, Repr

abbrev Fingerprint := Digest FingerprintMaterial

structure InboundReceipt where
  tenantId : String
  deliveryKey : DeliveryKey
  fingerprint : Fingerprint
  channel : Channel
  conversationId : String
  conversationSequence : Nat
  caseId : CaseId
  caseRevisionId : CaseRevisionId
  eventIds : List EventId
  acceptedAt : Instant
  deriving DecidableEq, Repr

structure ConversationCursor where
  tenantId : String
  channel : Channel
  conversationId : String
  lastSequence : Nat
  deriving DecidableEq, Repr

structure CaseRow where
  tenantId : String
  caseId : CaseId
  createdAt : Instant
  sourceEventId : ChannelEventId
  correlationId : String
  channel : Channel
  conversationId : String
  customerId : String
  deriving DecidableEq, Repr

structure CaseRevision where
  tenantId : String
  caseId : CaseId
  caseRevisionId : CaseRevisionId
  revision : Nat
  previousCaseRevisionId : Option CaseRevisionId
  createdAt : Instant
  reason : String
  sourceEventId : ChannelEventId
  sourceEventFingerprint : Fingerprint
  deriving DecidableEq, Repr

/-- The metadata object of an event; its four shapes have four different key sets. -/
inductive EventMetadata where
  | received (deliveryKey : DeliveryKey) (inboundFingerprint : Fingerprint)
  | revisionCreated (previousCaseRevisionId : Option CaseRevisionId) (revision : Nat)
  | initialState (fromState : Option WorkflowState) (toState : WorkflowState)
  | transition (fromState : WorkflowState) (resumeState : Option WorkflowState)
      (toState : WorkflowState) (transitionKind : TransitionKind)
  deriving DecidableEq, Repr

inductive Causation where
  | event (eventId : EventId)
  | checkpoint (checkpointId : CheckpointId)
  deriving DecidableEq, Repr

structure BusinessEvent where
  tenantId : String
  eventId : EventId
  caseId : CaseId
  caseRevisionId : CaseRevisionId
  eventType : EventType
  occurredAt : TimeText
  receivedAt : TimeText
  correlationId : String
  causationId : Option Causation
  caseEventIndex : Nat
  payloadSha256 : Digest EventMetadata
  metadata : EventMetadata
  workflowId : Option WorkflowId
  workflowCheckpointId : Option CheckpointId
  deriving DecidableEq, Repr

structure CaseProjection where
  tenantId : String
  caseId : CaseId
  latestCaseRevisionId : CaseRevisionId
  latestRevision : Nat
  state : WorkflowState
  sourceEventId : ChannelEventId
  eventCount : Nat
  correlationId : String
  createdAt : Instant
  updatedAt : TimeText
  deriving DecidableEq, Repr

/-- The tables of the Case ledger. -/
structure LedgerStore where
  inboundReceipts : List InboundReceipt := []
  conversationCursors : List ConversationCursor := []
  cases : List CaseRow := []
  caseRevisions : List CaseRevision := []
  businessEvents : List BusinessEvent := []
  caseProjection : List CaseProjection := []
  deriving DecidableEq, Repr

/-- The reason codes of `CaseLedgerError`; `contractInvalid` is a `ContractValidationError`. -/
inductive LedgerError where
  | invalidInboundEvent | invalidQqInboundEvent | tenantIdentityMismatch
  | inboundEventConflict | inboundOutOfOrder
  | workflowTransitionNotAllowed | workflowEventInvalid | workflowEventConflict
  | workflowEventPredecessorMismatch
  | ledgerInvalid | ledgerWriteFailed | contractInvalid
  deriving DecidableEq, Repr

structure IntakeResult where
  deduplicated : Bool
  caseId : CaseId
  caseRevisionId : CaseRevisionId
  eventIds : List EventId
  deriving DecidableEq, Repr

end WeFlow
