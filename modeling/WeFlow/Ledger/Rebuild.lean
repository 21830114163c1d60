import Mathlib.Data.List.Sort
import Mathlib.Data.Prod.Lex
import Mathlib.Data.String.Basic
import WeFlow.Ledger.Store

/-!
# `Rebuild` — replaying the source journals

`rebuild_projection` empties the read model and derives it again from the append-only tables, one case
at a time, checking every record on the way; `_validate_cursors` recomputes the conversation cursors
from the receipts. Whatever fails becomes `ledger_invalid`.

`ORDER BY` is `insertionSort` on the ordering column. The order in which cases are visited decides
nothing (each is derived from its own records), so the case table's own order stands for it.
-/

namespace WeFlow

open Txn

/-! ## One case -/

/-- The chain part of `validate_revision_chain`, from revision `expected` on. -/
def revisionChainFrom (tenantId : String) (caseId : CaseId) :
    Nat → Option CaseRevisionId → List CaseRevision → Bool
  | _, _, [] => true
  | expected, previous, r :: rest =>
      validateCaseRevision r ∧ r.revision = expected ∧ r.previousCaseRevisionId = previous ∧
      r.caseId = caseId ∧ r.tenantId = tenantId ∧
      revisionChainFrom tenantId caseId (expected + 1) (some r.caseRevisionId) rest

def validateRevisionChain : List CaseRevision → Bool
  | [] => false
  | r :: rest => revisionChainFrom r.tenantId r.caseId 1 none (r :: rest)

/-- `validate_tenant_reference`. -/
def validateTenantReference : List String → Bool
  | [] => false
  | t :: rest => nonEmpty t ∧ rest.all (· = t)

def BusinessEvent.hashed (e : BusinessEvent) : Bool := e.payloadSha256 = sha256 e.metadata

/-- The metadata the first three events of a case must carry. -/
def expectedMetadata (receipt : InboundReceipt) : List EventMetadata :=
  [.received receipt.deliveryKey receipt.fingerprint, .revisionCreated none 1,
   .initialState none .received]

/-- **The derivation of one case** from its own revisions, events and receipts. -/
def deriveFromRecords (c : CaseRow) (revisionRows : List CaseRevision)
    (eventRows : List BusinessEvent) (receipts : List InboundReceipt) :
    Except LedgerError CaseProjection := do
  require (validateCase c) .contractInvalid
  match revisionRows.insertionSort (fun a b => a.revision ≤ b.revision) with
  | [revision] =>
      require (validateRevisionChain [revision]) .contractInvalid
      require (revision.revision = 1 ∧ revision.previousCaseRevisionId = none ∧
        revision.sourceEventId = c.sourceEventId) .ledgerInvalid
      let events := eventRows.insertionSort fun a b => a.caseEventIndex ≤ b.caseEventIndex
      require (events.all validateGeneratedLedgerEvent) .contractInvalid
      require (events.map (·.caseEventIndex) = List.range' 1 events.length) .ledgerInvalid
      require ((events.take 3).map (·.eventType) = initialEventTypes) .ledgerInvalid
      require (validateTenantReference (c.tenantId :: revision.tenantId :: events.map (·.tenantId)))
        .contractInvalid
      match receipts with
      | [receipt] =>
          require (receipt.caseRevisionId = revision.caseRevisionId) .ledgerInvalid
          require (receipt.eventIds = (events.take 3).map (·.eventId)) .ledgerInvalid
          require ((events.take 3).map (·.metadata) = expectedMetadata receipt ∧
            (events.take 3).all (·.hashed)) .ledgerInvalid
          require ((events.drop 3).all (·.hashed)) .ledgerInvalid
          let projection ← projectionFromRecords c revision events true
          require (validateCaseProjection projection) .contractInvalid
          pure projection
      | _ => throw .ledgerInvalid
  | _ => throw .ledgerInvalid

namespace LedgerStore

def deriveCaseProjection (s : LedgerStore) (c : CaseRow) : Except LedgerError CaseProjection :=
  deriveFromRecords c (s.revisionsOf c.tenantId c.caseId) (s.eventRows c.tenantId c.caseId)
    (s.receiptsOf c.tenantId c.caseId)

/-- `_rebuild_case_projection`: derive one case and insert its row into the rebuilt table. -/
def rebuildCaseProjection (s : LedgerStore) (rebuilt : List CaseProjection) (c : CaseRow) :
    Except LedgerError (List CaseProjection) := do
  let projection ← s.deriveCaseProjection c
  fetch (Table.insert? CaseProjection.clash projection rebuilt) .ledgerWriteFailed

end LedgerStore

/-! ## Cursors -/

/-- The dictionary of recomputed cursors. -/
abbrev CursorDict := List (CursorKey × Nat)

def CursorDict.get? (d : CursorDict) (k : CursorKey) : Option Nat :=
  (d.find? fun e => e.1 = k).map (·.2)

def CursorDict.set (d : CursorDict) (k : CursorKey) (n : Nat) : CursorDict :=
  Table.upsert (·.1) (fun old new => (old.1, new.2)) (k, n) d

/-- One receipt of `_validate_cursors`. -/
def cursorStep (expected : CursorDict) (r : InboundReceipt) : Except LedgerError CursorDict := do
  let key := r.cursorKey
  let sequence := r.conversationSequence
  match key.channel with
  | .qqSandbox =>
      require (1 ≤ sequence) .ledgerInvalid
      pure (expected.set key (max ((expected.get? key).getD 0) sequence))
  | .syntheticIm =>
      -- the first sequence of a conversation is 1, any other one more than the last
      require (sequence = (expected.get? key).elim 1 (· + 1)) .ledgerInvalid
      pure (expected.set key sequence)

def Channel.text : Channel → String
  | .syntheticIm => "synthetic-im"
  | .qqSandbox => "qq-sandbox"

/-- `ORDER BY tenant_id, channel, conversation_id, conversation_sequence`. -/
def InboundReceipt.sortKey (r : InboundReceipt) : String ×ₗ String ×ₗ String ×ₗ Nat :=
  toLex (r.tenantId, toLex (r.channel.text, toLex (r.conversationId, r.conversationSequence)))

namespace LedgerStore

/-- The stored cursors; `(tenant, channel, conversation)` is the table's primary key. -/
def cursorDict (s : LedgerStore) : CursorDict :=
  s.conversationCursors.map fun c => (c.key, c.lastSequence)

/-- `_validate_cursors`. -/
def validateCursors (s : LedgerStore) : Except LedgerError Unit := do
  let receipts := s.inboundReceipts.insertionSort fun a b => a.sortKey ≤ b.sortKey
  let expected ← receipts.foldlM cursorStep []
  let actual := s.cursorDict
  require ((actual.map (·.1) ++ expected.map (·.1)).all fun k => actual.get? k = expected.get? k)
    .ledgerInvalid

/-- **`rebuild_projection`.** -/
def rebuildProjection (s : LedgerStore) : Except LedgerError LedgerStore :=
  let rebuilt := do
    let caseProjection ← s.cases.foldlM s.rebuildCaseProjection []
    s.validateCursors
    pure { s with caseProjection }
  match rebuilt with
  | .ok s' => .ok s'
  | .error _ => .error .ledgerInvalid

end LedgerStore

end WeFlow
