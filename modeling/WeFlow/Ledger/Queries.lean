import WeFlow.Ledger.Rebuild

/-!
# `Queries` — what a caller reads from the Case ledger

The reading calls of `SQLiteCaseLedger`, each scoped to one tenant, and the snapshot of one tenant's source
records. A snapshot is ordered by the text of its identifiers; that text is a parameter, since the model
keeps what an identifier is the digest of.

## Contents

* `hasQqReceipt`, `getCaseProjection`, `listCaseRevisions`, `listCaseEvents`, `sourceCounts`.
* `LedgerText`, `LedgerSnapshot`, `exportSnapshot` — the snapshot with its content hash.
-/

namespace WeFlow

open Txn

namespace LedgerStore

/-- `has_qq_receipt`. -/
def hasQqReceipt (envelope : QQSandboxInboundEvent) (effectiveTenantId : String) (s : LedgerStore) :
    Except LedgerError Bool := do
  require (envelope.tenantId = effectiveTenantId) .tenantIdentityMismatch
  return (s.receipt? effectiveTenantId
    ⟨effectiveTenantId, .qqSandbox, .naturalKey envelope.inboundNaturalKey⟩).isSome

end LedgerStore

namespace SQLiteCaseLedger

/-- `get_case_projection`. -/
def getCaseProjection (tenantId : String) (caseId : CaseId) (s : LedgerStore) :
    Except LedgerError (Option CaseProjection) :=
  match s.projection? tenantId caseId with
  | none => pure none
  | some projection => do
      require (validateCaseProjection projection) .contractInvalid
      return some projection

/-- `list_case_revisions`. -/
def listCaseRevisions (tenantId : String) (caseId : CaseId) (s : LedgerStore) :
    Except LedgerError (List CaseRevision) := do
  let revisions := (s.revisionsOf tenantId caseId).insertionSort fun a b => a.revision ≤ b.revision
  require (revisions.isEmpty || validateRevisionChain revisions) .contractInvalid
  return revisions

/-- `list_case_events`. -/
def listCaseEvents (tenantId : String) (caseId : CaseId) (s : LedgerStore) :
    Except LedgerError (List BusinessEvent) := do
  let events := (s.eventRows tenantId caseId).insertionSort fun a b => a.caseEventIndex ≤ b.caseEventIndex
  require (events.all validateGeneratedLedgerEvent) .contractInvalid
  return events

end SQLiteCaseLedger

/-- The counts of `source_counts`. -/
structure SourceCounts where
  inboundReceipts : Nat
  cases : Nat
  caseRevisions : Nat
  businessEvents : Nat
  caseProjection : Nat
  deriving DecidableEq, Repr

def LedgerStore.sourceCounts (tenantId : String) (s : LedgerStore) : SourceCounts where
  inboundReceipts := (s.inboundReceipts.filter (·.tenantId = tenantId)).length
  cases := (s.cases.filter (·.tenantId = tenantId)).length
  caseRevisions := (s.caseRevisions.filter (·.tenantId = tenantId)).length
  businessEvents := (s.businessEvents.filter (·.tenantId = tenantId)).length
  caseProjection := (s.caseProjection.filter (·.tenantId = tenantId)).length

/-! ## Snapshots -/

/-- The texts of the digests that a snapshot is ordered by. -/
structure LedgerText where
  caseId : CaseId → String
  naturalKey : Digest QQNaturalKey → String

def ChannelEventId.toText (text : LedgerText) : ChannelEventId → String
  | .text s => s
  | .naturalKey key => text.naturalKey key

/-- `_delivery_key`. -/
def DeliveryKey.toText (text : LedgerText) (key : DeliveryKey) : String :=
  key.tenantId ++ ":" ++ key.channel.text ++ ":" ++ key.channelEventId.toText text

/-- The columns of an event in a snapshot, which holds no workflow-originated ones. -/
structure SnapshotEvent where
  tenantId : String
  eventId : EventId
  caseId : CaseId
  caseRevisionId : CaseRevisionId
  eventType : EventType
  occurredAt : TimeText
  receivedAt : TimeText
  correlationId : String
  causationId : Option Causation
  caseEventIndex : Nat
  payloadSha256 : Digest EventMetadata
  metadata : EventMetadata
  deriving DecidableEq, Repr

def BusinessEvent.snapshot (e : BusinessEvent) : SnapshotEvent where
  tenantId := e.tenantId
  eventId := e.eventId
  caseId := e.caseId
  caseRevisionId := e.caseRevisionId
  eventType := e.eventType
  occurredAt := e.occurredAt
  receivedAt := e.receivedAt
  correlationId := e.correlationId
  causationId := e.causationId
  caseEventIndex := e.caseEventIndex
  payloadSha256 := e.payloadSha256
  metadata := e.metadata

/-- One tenant's source records; the version is constant. -/
structure LedgerSnapshot where
  tenantId : String
  inboundReceipts : List InboundReceipt
  conversationCursors : List ConversationCursor
  cases : List CaseRow
  caseRevisions : List CaseRevision
  businessEvents : List SnapshotEvent
  deriving DecidableEq, Repr

section Order

variable (text : LedgerText)

/-! `ORDER BY` of the five tables. -/

def InboundReceipt.snapshotKey (r : InboundReceipt) : String := r.deliveryKey.toText text

def ConversationCursor.snapshotKey (c : ConversationCursor) : String ×ₗ String :=
  toLex (c.channel.text, c.conversationId)

def CaseRow.snapshotKey (c : CaseRow) : String := text.caseId c.caseId

def CaseRevision.snapshotKey (r : CaseRevision) : String ×ₗ Nat := toLex (text.caseId r.caseId, r.revision)

def BusinessEvent.snapshotKey (e : BusinessEvent) : String ×ₗ Nat :=
  toLex (text.caseId e.caseId, e.caseEventIndex)

end Order

/-- **`export_snapshot`** of the ledger. -/
def LedgerStore.exportSnapshot (text : LedgerText) (tenantId : String) (s : LedgerStore) :
    Sealed LedgerSnapshot :=
  Sealed.of
    { tenantId
      inboundReceipts := (s.inboundReceipts.filter (·.tenantId = tenantId)).insertionSort
        fun a b => a.snapshotKey text ≤ b.snapshotKey text
      conversationCursors := (s.conversationCursors.filter (·.tenantId = tenantId)).insertionSort
        fun a b => a.snapshotKey ≤ b.snapshotKey
      cases := (s.cases.filter (·.tenantId = tenantId)).insertionSort
        fun a b => a.snapshotKey text ≤ b.snapshotKey text
      caseRevisions := (s.caseRevisions.filter (·.tenantId = tenantId)).insertionSort
        fun a b => a.snapshotKey text ≤ b.snapshotKey text
      businessEvents := (((s.businessEvents.filter (·.tenantId = tenantId)).filter
        (·.workflowId.isNone)).insertionSort
          fun a b => a.snapshotKey text ≤ b.snapshotKey text).map (·.snapshot) }

end WeFlow
