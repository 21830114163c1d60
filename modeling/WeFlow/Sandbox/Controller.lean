import WeFlow.Sandbox.Journal

/-!
# `Controller` — taking a mention in, and acknowledging it

`QQSandboxIntakeService.accept` and `QQAcknowledgementController.process`. What the passive-reply transport
answers to the two calls an execution can make is a parameter of the execution, so a statement about all
answers covers every provider.

## Contents

* `hasQqReceipt`, `intakeQq`, `accept` — the intake service.
* `TransportAnswer`, `callTransport` — the transport's side.
* `observeAndMaybeComplete`, `process` — the controller.
-/

namespace WeFlow

open Txn SQLiteQQSandboxJournal

variable (text : QQText) (config : QQSandboxConfig)

/-! ## Intake -/

/-- `has_qq_receipt`. -/
def hasQqReceipt (inbound : QQSandboxInboundEvent) : QQProg Bool := do
  Prog.check (inbound.tenantId = config.tenantId) (.intakeRejected .tenantIdentityMismatch)
  .observe fun s => (s.ledger.receipt? config.tenantId
    ⟨config.tenantId, .qqSandbox, .naturalKey inbound.inboundNaturalKey⟩).isSome

/-- The ledger's errors that are of class `IntakeRejected`. -/
def LedgerError.isIntakeRejected : LedgerError → Bool
  | .invalidInboundEvent | .invalidQqInboundEvent | .tenantIdentityMismatch
  | .inboundEventConflict | .inboundOutOfOrder => true
  | _ => false

def QQError.ofLedger (e : LedgerError) : QQError :=
  if e.isIntakeRejected then .intakeRejected e else .ledger e

/-- The ledger's `intake_qq`, one transaction of the shared database file. -/
def intakeQq (inbound : QQSandboxInboundEvent) : QQProg IntakeResult :=
  .atomically fun s =>
    match s.ledger.intakeQq s.now inbound config.tenantId with
    | .ok (result, ledger) => .ok (result, { s with ledger })
    | .error e => .error (.ofLedger e)

structure QQIntakeAndIntentResult where
  intake : IntakeResult
  intent : QQAcknowledgementIntent
  inbound : QQSandboxInboundEvent
  deriving DecidableEq, Repr

/-- The gap check of `accept`: a gap records that reconciliation is required, and is rejected. -/
def rejectSequenceGap (cursor : Option QQGatewayCursor) (sequence : Nat) (sessionId : Option String) :
    QQProg Unit := do
  match cursor with
  | none => pure ()
  | some c =>
      if sequence > c.lastContiguousSequence + 1 then do
        let _ ← recordCursor text config c.lastContiguousSequence .reconciliationRequired sessionId
        .raise (.eventRejected .gatewaySequenceGap)
      else pure ()

/-- The order check of `accept`: a number the cursor has passed belongs to a message taken in before. -/
def rejectOutOfOrder (cursor : Option QQGatewayCursor) (inbound : QQSandboxInboundEvent) :
    QQProg Unit := do
  match cursor with
  | none => pure ()
  | some c =>
      if inbound.gatewaySequence ≤ c.lastContiguousSequence then do
        let known ← hasQqReceipt config inbound
        Prog.check known (.eventRejected .gatewaySequenceOutOfOrder)
      else pure ()

/-- **`QQSandboxIntakeService.accept`**. -/
def QQSandboxIntakeService.accept (rawEvent : Json) (sessionId : Option String) : QQProg QQIntakeAndIntentResult := do
  let received ← .observe QQWorld.now
  let inbound ←
    match normalizeQqGroupAtEvent text config received rawEvent with
    | .ok inbound => pure inbound
    | .error e => Prog.raise e
  let cursor ← getCursor text config
  rejectOutOfOrder config cursor inbound
  rejectSequenceGap text config cursor inbound.gatewaySequence sessionId
  let intake ← intakeQq config inbound
  let _ ← recordCursor text config inbound.gatewaySequence .identified sessionId
  let intent ← createAcknowledgementIntent text config inbound intake
  pure ⟨intake, intent, inbound⟩

/-! ## The transport -/

/-- What a transport call comes back with. -/
inductive TransportAnswer where
  | outcome (o : QQSendOutcome)
  | transportError
  deriving DecidableEq, Repr

def unknownOutcome : QQSendOutcome := ⟨.unknown, "qq_provider_outcome_unknown", none⟩

/-- `except QQTransportError: outcome = …`. -/
def TransportAnswer.toOutcome : TransportAnswer → QQSendOutcome
  | .outcome o => o
  | .transportError => unknownOutcome

def callTransport (call : TransportCall) : QQProg Unit :=
  .atomically fun s => .ok ((), { s with transport := s.transport ++ [call] })

/-- The two calls of one execution. -/
def acknowledgementCall (capabilityActive : Bool) (intent : QQAcknowledgementIntent)
    (locator : QQReplyLocator) (content : Option AckText) : TransportCall :=
  { groupOpenid := locator.groupOpenid, sourceMessageId := locator.sourceMessageId,
    replyMsgSeq := intent.replyMsgSeq, idempotencyKey := intent.idempotencyKey, content,
    controller := config, capabilityActive }

/-! ## The controller -/

inductive AckStatus where
  | completed | expired | needsReconciliation
  deriving DecidableEq, Repr

structure AckReport where
  status : AckStatus
  intentId : AckIntentId
  observationId : Option (StableId AckObservationMaterial)
  completionId : Option (StableId AckCompletionMaterial)
  deriving DecidableEq, Repr

namespace QQAcknowledgementController

/-- `_observe_and_maybe_complete`. -/
def observeAndMaybeComplete (intent : QQAcknowledgementIntent) (outcome : QQSendOutcome) :
    QQProg AckReport := do
  let observation ← appendObservation intent outcome
  if outcome.status.completable then do
    let completion ← complete intent observation
    pure ⟨.completed, intent.intentId, some observation.observationId, some completion.completionId⟩
  else
    pure ⟨if outcome.status = .expired then .expired else .needsReconciliation, intent.intentId,
      some observation.observationId, none⟩

/-- The part of `process` that reaches the transport: reconcile, and send if nothing is there. -/
def reconcileThenSend (capabilityActive : Bool) (intent : QQAcknowledgementIntent)
    (locator : QQReplyLocator) (reconciled sent : TransportAnswer) : QQProg QQSendOutcome := do
  callTransport (acknowledgementCall config capabilityActive intent locator none)
  let outcome := reconciled.toOutcome
  if outcome.status = .absent then do
    callTransport (acknowledgementCall config capabilityActive intent locator (some ⟨intent.caseId⟩))
    pure sent.toOutcome
  else pure outcome

/-- **`QQAcknowledgementController.process`**. -/
def process (intentId : AckIntentId) (capabilityActive : Bool) (reconciled sent : TransportAnswer) :
    QQProg AckReport := do
  let intent ← getIntent config.tenantId intentId
  let existing ← completions config.tenantId intentId
  match existing with
  | row :: _ => pure ⟨.completed, intentId, none, some row.completionId⟩
  | [] =>
      if !capabilityActive || intent.capabilityProfileHash ≠ config.capabilityProfileHash text ||
          intent.groupOpenidHash ≠ config.groupOpenidHash text then
        observeAndMaybeComplete intent ⟨.unauthorized, "qq_acknowledgement_unauthorized", none⟩
      else do
        let now ← .observe QQWorld.now
        if now ≥ intent.replyDeadlineAt then
          observeAndMaybeComplete intent ⟨.expired, "qq_passive_reply_deadline_expired", none⟩
        else do
          let locator ← getLocator config.tenantId intentId
          if locator.groupOpenid ≠ config.groupOpenid then
            observeAndMaybeComplete intent ⟨.conflict, "qq_reply_locator_conflict", none⟩
          else do
            let outcome ← reconcileThenSend config capabilityActive intent locator reconciled sent
            observeAndMaybeComplete intent outcome

end QQAcknowledgementController

end WeFlow
