import WeFlow.Base.Table
import WeFlow.Base.Txn
import WeFlow.Ledger.Records

/-!
# `Store` — intake and the workflow-event port of the Case ledger

The three writing transactions of `SQLiteCaseLedger`: `intake`, `intakeQq` (both through
`intakeValidated`) and `appendWorkflowStateEvent`. Each maps a store to its result and the committed
store, or to the error it raises, in which case it is rolled back.

## Contents

* payload and row contracts (`validateInboundMessageEvent`, …): the JSON schemas' conditions on the
  modelled fields.
* `initialEvents`, `projectionFromRecords` — what an accepted delivery records.
* `intakeValidated`, `intake`, `intakeQq`, `appendWorkflowStateEvent`.
-/

namespace WeFlow

open Txn

/-! ## Contracts -/

def nonEmpty (s : String) : Bool := s ≠ ""

/-- `$` also matches before a final newline. -/
def beforeDollar (cs : List Char) : List Char :=
  if cs.getLast? = some '\n' then cs.dropLast else cs

def isHexDigit (c : Char) : Bool := ('a' ≤ c ∧ c ≤ 'f') ∨ ('0' ≤ c ∧ c ≤ '9')

/-- `^<label>[a-f0-9]{64}$`. -/
def matchesSha256 (label : String) (s : String) : Bool :=
  let cs := beforeDollar s.toList
  label.toList.isPrefixOf cs ∧ (cs.drop label.toList.length).length = 64 ∧
    (cs.drop label.toList.length).all isHexDigit

/-- `^[A-Za-z0-9._:-]{1,256}$`. -/
def matchesMessageId (s : String) : Bool :=
  let cs := beforeDollar s.toList
  1 ≤ cs.length ∧ cs.length ≤ 256 ∧
    cs.all fun c => c.isAlphanum ∨ c = '.' ∨ c = '_' ∨ c = ':' ∨ c = '-'

def validateInboundMessageEvent (p : InboundMessageEvent) : Bool :=
  nonEmpty p.tenantId ∧ p.channel = "synthetic-im" ∧ nonEmpty p.channelEventId ∧
  nonEmpty p.conversationId ∧ nonEmpty p.senderId ∧ nonEmpty p.customerId ∧
  1 ≤ p.conversationSequence ∧ nonEmpty p.occurredAt ∧ nonEmpty p.receivedAt ∧
  nonEmpty p.correlationId ∧ p.contentClassification = "synthetic" ∧
  matchesSha256 "" p.contentSha256

def validateQqSandboxInboundEvent (p : QQSandboxInboundEvent) : Bool :=
  nonEmpty p.tenantId ∧ p.provider = "qq-sandbox" ∧ p.eventType = "GROUP_AT_MESSAGE_CREATE" ∧
  matchesSha256 "" p.appIdHash ∧ matchesSha256 "" p.groupOpenidHash ∧
  matchesMessageId p.sourceMessageId ∧ matchesSha256 "" p.senderOpenidHash ∧
  matchesSha256 "qq-conversation:" p.conversationId ∧ matchesSha256 "qq-customer:" p.customerId ∧
  1 ≤ p.gatewaySequence ∧ nonEmpty p.occurredAt ∧ nonEmpty p.receivedAt ∧
  nonEmpty p.correlationId ∧ p.correlationId.length ≤ 256 ∧
  p.contentClassification = "qq-private-hash" ∧ matchesSha256 "" p.contentSha256 ∧
  p.sourceMessageIdHash = sha256 p.sourceMessageId ∧
  p.inboundNaturalKey =
    sha256 ⟨p.appIdHash, p.groupOpenidHash, p.sourceMessageId, p.tenantId⟩

/-- The conditions of the text columns a schema requires to be non-empty. -/
def TimeText.isPresent : TimeText → Bool
  | .text s => nonEmpty s
  | .clock _ => true

def ChannelEventId.isPresent : ChannelEventId → Bool
  | .text s => nonEmpty s
  | .naturalKey _ => true

def validateCase (c : CaseRow) : Bool :=
  nonEmpty c.tenantId ∧ c.sourceEventId.isPresent ∧ nonEmpty c.correlationId ∧
  nonEmpty c.conversationId ∧ nonEmpty c.customerId

def validateCaseRevision (r : CaseRevision) : Bool :=
  nonEmpty r.tenantId ∧ 1 ≤ r.revision ∧ nonEmpty r.reason ∧ r.sourceEventId.isPresent

def validateGeneratedLedgerEvent (e : BusinessEvent) : Bool :=
  nonEmpty e.tenantId ∧ e.occurredAt.isPresent ∧ e.receivedAt.isPresent ∧
  nonEmpty e.correlationId ∧ 1 ≤ e.caseEventIndex

def validateCaseProjection (p : CaseProjection) : Bool :=
  nonEmpty p.tenantId ∧ 1 ≤ p.latestRevision ∧ p.sourceEventId.isPresent ∧ 1 ≤ p.eventCount ∧
  nonEmpty p.correlationId ∧ p.updatedAt.isPresent

/-! ## Uniqueness constraints -/

def InboundReceipt.clash (a b : InboundReceipt) : Bool :=
  a.tenantId = b.tenantId ∧ a.deliveryKey = b.deliveryKey

def CaseRow.clash (a b : CaseRow) : Bool := a.tenantId = b.tenantId ∧ a.caseId = b.caseId

def CaseRevision.clash (a b : CaseRevision) : Bool :=
  a.tenantId = b.tenantId ∧ (a.caseRevisionId = b.caseRevisionId ∨
    (a.caseId = b.caseId ∧ a.revision = b.revision))

def BusinessEvent.clash (a b : BusinessEvent) : Bool :=
  a.tenantId = b.tenantId ∧ (a.eventId = b.eventId ∨
    (a.caseId = b.caseId ∧ a.caseEventIndex = b.caseEventIndex))

def CaseProjection.clash (a b : CaseProjection) : Bool :=
  a.tenantId = b.tenantId ∧ a.caseId = b.caseId

/-- The primary key of `conversation_cursors`. -/
structure CursorKey where
  tenantId : String
  channel : Channel
  conversationId : String
  deriving DecidableEq, Repr

def ConversationCursor.key (c : ConversationCursor) : CursorKey :=
  ⟨c.tenantId, c.channel, c.conversationId⟩

/-- `ON CONFLICT DO UPDATE`: a QQ cursor keeps the maximum, any other takes the new value. -/
def ConversationCursor.merge (old new : ConversationCursor) : ConversationCursor :=
  { old with
    lastSequence := if new.channel = .qqSandbox then max old.lastSequence new.lastSequence
      else new.lastSequence }

def InboundReceipt.cursorKey (r : InboundReceipt) : CursorKey :=
  ⟨r.tenantId, r.channel, r.conversationId⟩

/-! ## Queries -/

namespace LedgerStore

def receipt? (s : LedgerStore) (tenantId : String) (key : DeliveryKey) : Option InboundReceipt :=
  s.inboundReceipts.find? fun r => r.tenantId = tenantId ∧ r.deliveryKey = key

def cursor? (s : LedgerStore) (key : CursorKey) : Option ConversationCursor :=
  s.conversationCursors.find? fun c => c.key = key

def projection? (s : LedgerStore) (tenantId : String) (caseId : CaseId) : Option CaseProjection :=
  s.caseProjection.find? fun p => p.tenantId = tenantId ∧ p.caseId = caseId

def revisionsOf (s : LedgerStore) (tenantId : String) (caseId : CaseId) : List CaseRevision :=
  s.caseRevisions.filter fun r => r.tenantId = tenantId ∧ r.caseId = caseId

def receiptsOf (s : LedgerStore) (tenantId : String) (caseId : CaseId) : List InboundReceipt :=
  s.inboundReceipts.filter fun r => r.tenantId = tenantId ∧ r.caseId = caseId

/-- The events of a case in insertion order; `eventsOf` sorts them as the queries do. -/
def eventRows (s : LedgerStore) (tenantId : String) (caseId : CaseId) : List BusinessEvent :=
  s.businessEvents.filter fun e => e.tenantId = tenantId ∧ e.caseId = caseId

/-! ## Intake -/

def insertEvent (rows : List BusinessEvent) (e : BusinessEvent) :
    Except LedgerError (List BusinessEvent) :=
  fetch (Table.insert? BusinessEvent.clash e rows) .ledgerWriteFailed

def insertEvents (events rows : List BusinessEvent) : Except LedgerError (List BusinessEvent) :=
  events.foldlM insertEvent rows

end LedgerStore

def caseIdOf (tenantId : String) (key : DeliveryKey) : CaseId := stableIdentifier ⟨tenantId, key⟩

def revisionIdOf (caseId : CaseId) : CaseRevisionId := stableIdentifier ⟨caseId, 1⟩

def eventIdOf (caseId : CaseId) (eventType : EventType) (index : Nat) : EventId :=
  stableIdentifier ⟨caseId, eventType, index⟩

def deliveryKeyOf (tenantId : String) (p : IntakePayload) : DeliveryKey :=
  ⟨tenantId, p.channel, p.channelEventId⟩

def fingerprintOf (tenantId : String) (p : IntakePayload) : Fingerprint :=
  let conversationSequence :=
    match p.channel with
    | .qqSandbox => none
    | .syntheticIm => some p.conversationSequence
  let material : FingerprintMaterial :=
    { channel := p.channel, channelEventId := p.channelEventId,
      conversationId := p.conversationId, senderId := p.senderId, customerId := p.customerId,
      conversationSequence, occurredAt := p.occurredAt, correlationId := p.correlationId,
      contentClassification := p.contentClassification, contentSha256 := p.contentSha256,
      effectiveTenantId := tenantId }
  sha256 material

def initialEventTypes : List EventType :=
  [.inboundReceived, .caseRevisionCreated, .caseStateTransitioned]

/-- `_initial_events`: the three events of an accepted delivery, each caused by the one before. -/
def initialEvents (tenantId : String) (caseId : CaseId) (revisionId : CaseRevisionId)
    (key : DeliveryKey) (fingerprint : Fingerprint) (p : IntakePayload) (createdAt : Instant) :
    List BusinessEvent :=
  let event (index : Nat) (eventType : EventType) (occurredAt receivedAt : TimeText)
      (causationId : Option Causation) (metadata : EventMetadata) : BusinessEvent :=
    { tenantId, eventId := eventIdOf caseId eventType index, caseId, caseRevisionId := revisionId,
      eventType, occurredAt, receivedAt, correlationId := p.correlationId, causationId,
      caseEventIndex := index, payloadSha256 := sha256 metadata, metadata,
      workflowId := none, workflowCheckpointId := none }
  [ event 1 .inboundReceived (.text p.occurredAt) (.text p.receivedAt) none
      (.received key fingerprint),
    event 2 .caseRevisionCreated (.clock createdAt) (.clock createdAt)
      (some (.event (eventIdOf caseId .inboundReceived 1))) (.revisionCreated none 1),
    event 3 .caseStateTransitioned (.clock createdAt) (.clock createdAt)
      (some (.event (eventIdOf caseId .caseRevisionCreated 2)))
      (.initialState none .received) ]

/-! The rows an accepted delivery adds. -/

def newCase (now : Instant) (p : IntakePayload) (tenantId : String) : CaseRow :=
  { tenantId, caseId := caseIdOf tenantId (deliveryKeyOf tenantId p), createdAt := now,
    sourceEventId := p.channelEventId, correlationId := p.correlationId, channel := p.channel,
    conversationId := p.conversationId, customerId := p.customerId }

def newRevision (now : Instant) (p : IntakePayload) (tenantId : String) : CaseRevision :=
  let caseId := caseIdOf tenantId (deliveryKeyOf tenantId p)
  { tenantId, caseId, caseRevisionId := revisionIdOf caseId, revision := 1,
    previousCaseRevisionId := none, createdAt := now, reason := "initial-capture",
    sourceEventId := p.channelEventId, sourceEventFingerprint := fingerprintOf tenantId p }

def newEvents (now : Instant) (p : IntakePayload) (tenantId : String) : List BusinessEvent :=
  let key := deliveryKeyOf tenantId p
  let caseId := caseIdOf tenantId key
  initialEvents tenantId caseId (revisionIdOf caseId) key (fingerprintOf tenantId p) p now

def newReceipt (now : Instant) (p : IntakePayload) (tenantId : String) : InboundReceipt :=
  let key := deliveryKeyOf tenantId p
  let caseId := caseIdOf tenantId key
  { tenantId, deliveryKey := key, fingerprint := fingerprintOf tenantId p, channel := p.channel,
    conversationId := p.conversationId, conversationSequence := p.conversationSequence, caseId,
    caseRevisionId := revisionIdOf caseId, eventIds := (newEvents now p tenantId).map (·.eventId),
    acceptedAt := now }

/-- One workflow-originated event of the replay: it must continue from the state reached so far. -/
def replayEvent (state : WorkflowState) (event : BusinessEvent) : Except LedgerError WorkflowState :=
  match event.metadata with
  | .transition fromState resumeState toState kind => do
      require (event.eventType = .workflowStateTransitioned ∧ event.workflowId.isSome ∧
        event.workflowCheckpointId.isSome ∧ fromState = state) .ledgerInvalid
      require (transitionAllowed state kind toState resumeState false) .ledgerInvalid
      pure toState
  | _ => throw .ledgerInvalid

/-- `_projection_from_records`; `replay` says whether the events' metadata is passed along. -/
def projectionFromRecords (c : CaseRow) (revision : CaseRevision) (events : List BusinessEvent)
    (replay : Bool) : Except LedgerError CaseProjection := do
  require ((events.take 3).map (·.eventType) = initialEventTypes) .ledgerInvalid
  let state ← if replay then (events.drop 3).foldlM replayEvent .received else pure .received
  let last ← fetch events.getLast? .ledgerInvalid
  pure { tenantId := c.tenantId, caseId := c.caseId,
         latestCaseRevisionId := revision.caseRevisionId, latestRevision := revision.revision,
         state, sourceEventId := c.sourceEventId, eventCount := events.length,
         correlationId := c.correlationId, createdAt := c.createdAt, updatedAt := last.occurredAt }

/-- Whether a new delivery continues its conversation. QQ gateway sequences are session-local and may
    reset, so only their lower bound is checked. -/
def validSequence (channel : Channel) (cursor : Option ConversationCursor) (sequence : Nat) : Bool :=
  match channel, cursor with
  | .qqSandbox, _ => 1 ≤ sequence
  | .syntheticIm, none => sequence = 1
  | .syntheticIm, some c => sequence = c.lastSequence + 1

namespace LedgerStore

/-- **`_intake_validated`**: accept or deduplicate one validated delivery in one transaction. -/
def intakeValidated (now : Instant) (p : IntakePayload) (tenantId : String) (s : LedgerStore) :
    Except LedgerError (IntakeResult × LedgerStore) := do
  match s.receipt? tenantId (deliveryKeyOf tenantId p) with
  | some receipt =>
      require (receipt.fingerprint = fingerprintOf tenantId p) .inboundEventConflict
      pure (⟨true, receipt.caseId, receipt.caseRevisionId, receipt.eventIds⟩, s)
  | none =>
      let cursor := s.cursor? ⟨tenantId, p.channel, p.conversationId⟩
      require (validSequence p.channel cursor p.conversationSequence) .inboundOutOfOrder
      let caseRow := newCase now p tenantId
      let revision := newRevision now p tenantId
      require (validateCase caseRow) .contractInvalid
      require (validateCaseRevision revision) .contractInvalid
      let events := newEvents now p tenantId
      require (events.all validateGeneratedLedgerEvent) .contractInvalid
      let cases ← fetch (Table.insert? CaseRow.clash caseRow s.cases) .ledgerWriteFailed
      let caseRevisions ← fetch (Table.insert? CaseRevision.clash revision s.caseRevisions)
        .ledgerWriteFailed
      let businessEvents ← insertEvents events s.businessEvents
      let receipt := newReceipt now p tenantId
      let inboundReceipts ← fetch (Table.insert? InboundReceipt.clash receipt s.inboundReceipts)
        .ledgerWriteFailed
      let conversationCursors := Table.upsert ConversationCursor.key ConversationCursor.merge
        ⟨tenantId, p.channel, p.conversationId, p.conversationSequence⟩ s.conversationCursors
      let projection ← projectionFromRecords caseRow revision events false
      let caseProjection ← fetch (Table.insert? CaseProjection.clash projection s.caseProjection)
        .ledgerWriteFailed
      pure (⟨false, caseRow.caseId, revision.caseRevisionId, events.map (·.eventId)⟩,
        { inboundReceipts, conversationCursors, cases, caseRevisions, businessEvents,
          caseProjection })

/-- `intake` of a normalized synthetic delivery. -/
def intake (now : Instant) (envelope : InboundMessageEvent) (effectiveTenantId : String)
    (s : LedgerStore) : Except LedgerError (IntakeResult × LedgerStore) := do
  require (validateInboundMessageEvent envelope) .invalidInboundEvent
  require (envelope.tenantId = effectiveTenantId) .tenantIdentityMismatch
  s.intakeValidated now
    { channel := .syntheticIm, channelEventId := .text envelope.channelEventId,
      conversationId := envelope.conversationId, senderId := envelope.senderId,
      customerId := envelope.customerId, conversationSequence := envelope.conversationSequence,
      occurredAt := envelope.occurredAt, receivedAt := envelope.receivedAt,
      correlationId := envelope.correlationId,
      contentClassification := envelope.contentClassification,
      contentSha256 := envelope.contentSha256 } effectiveTenantId

/-- `intake_qq` of a server-normalized QQ sandbox event. -/
def intakeQq (now : Instant) (envelope : QQSandboxInboundEvent) (effectiveTenantId : String)
    (s : LedgerStore) : Except LedgerError (IntakeResult × LedgerStore) := do
  require (validateQqSandboxInboundEvent envelope) .invalidQqInboundEvent
  require (envelope.tenantId = effectiveTenantId) .tenantIdentityMismatch
  s.intakeValidated now
    { channel := .qqSandbox, channelEventId := .naturalKey envelope.inboundNaturalKey,
      conversationId := envelope.conversationId, senderId := envelope.senderOpenidHash,
      customerId := envelope.customerId, conversationSequence := envelope.gatewaySequence,
      occurredAt := envelope.occurredAt, receivedAt := envelope.receivedAt,
      correlationId := envelope.correlationId,
      contentClassification := envelope.contentClassification,
      contentSha256 := envelope.contentSha256 } effectiveTenantId

/-! ## The workflow-event port -/

/-- `COALESCE(MAX(case_event_index), 0) + 1`. -/
def nextEventIndex (rows : List BusinessEvent) : Nat :=
  rows.foldl (fun m e => max m e.caseEventIndex) 0 + 1

end LedgerStore

/-- The arguments of `_append_workflow_state_event`. -/
structure WorkflowStateEvent where
  tenantId : String
  caseId : CaseId
  caseRevisionId : CaseRevisionId
  workflowId : WorkflowId
  checkpointId : CheckpointId
  transitionKind : TransitionKind
  fromState : WorkflowState
  toState : WorkflowState
  resumeState : Option WorkflowState
  correlationId : String
  occurredAt : TimeText
  deriving DecidableEq, Repr

def WorkflowStateEvent.metadata (a : WorkflowStateEvent) : EventMetadata :=
  .transition a.fromState a.resumeState a.toState a.transitionKind

namespace LedgerStore

/-- The row `_append_workflow_state_event` writes at position `index`. -/
def workflowEventRow (a : WorkflowStateEvent) (index : Nat) : BusinessEvent :=
  { tenantId := a.tenantId, eventId := eventIdOf a.caseId .workflowStateTransitioned index,
    caseId := a.caseId, caseRevisionId := a.caseRevisionId,
    eventType := .workflowStateTransitioned, occurredAt := a.occurredAt, receivedAt := a.occurredAt,
    correlationId := a.correlationId, causationId := some (.checkpoint a.checkpointId),
    caseEventIndex := index, payloadSha256 := sha256 a.metadata, metadata := a.metadata,
    workflowId := some a.workflowId, workflowCheckpointId := some a.checkpointId }

/-- **`_append_workflow_state_event`**: the internal port for one workflow-originated Case event. -/
def appendWorkflowStateEvent (a : WorkflowStateEvent) (s : LedgerStore) :
    Except LedgerError (EventId × LedgerStore) := do
  require (transitionAllowed a.fromState a.transitionKind a.toState a.resumeState false)
    .workflowTransitionNotAllowed
  require (nonEmpty a.tenantId ∧ nonEmpty a.correlationId ∧ a.occurredAt.isPresent)
    .workflowEventInvalid
  let projection ← fetch (s.projection? a.tenantId a.caseId) .ledgerInvalid
  require ((s.revisionsOf a.tenantId a.caseId).any (·.caseRevisionId = a.caseRevisionId))
    .ledgerInvalid
  require (projection.correlationId = a.correlationId) .ledgerInvalid
  let rows := s.eventRows a.tenantId a.caseId
  match rows.find? (fun e => e.workflowId = some a.workflowId ∧
      e.workflowCheckpointId = some a.checkpointId) with
  | some existing =>
      require (existing.eventType = .workflowStateTransitioned ∧ existing.metadata = a.metadata ∧
        existing.payloadSha256 = sha256 a.metadata) .workflowEventConflict
      pure (existing.eventId, s)
  | none =>
      require (projection.state = a.fromState) .workflowEventPredecessorMismatch
      let index := nextEventIndex rows
      let event := workflowEventRow a index
      require (validateGeneratedLedgerEvent event) .contractInvalid
      let businessEvents ← insertEvent s.businessEvents event
      let caseProjection := Table.modify
        (fun p => p.tenantId = a.tenantId ∧ p.caseId = a.caseId)
        (fun p => { p with state := a.toState, eventCount := index, updatedAt := a.occurredAt })
        s.caseProjection
      pure (event.eventId, { s with businessEvents, caseProjection })

end LedgerStore

end WeFlow
