import WeFlow.Kernel.Checkpoint

/-!
# `Ticket` — the fixture-local ticket effects

The protocol of one ticket effect: a durable intent, a reconciliation against the ticket store, at most
one execution, an observation of every outcome, a completion. `processIntent` runs it from durable rows
only; `driveEffect` wraps it in the checkpoints of the workflow.

## Contents

* `ensureIntent`, `reconcileIntent`, `executeIntent`, `recordObservation`, `recordCompletion`.
* `processIntent`, `enterReconciliation`, `driveEffect`.
-/

namespace WeFlow

open Txn

namespace WorkflowStore

/-! ## Queries -/

/-- `_intent_for_operation`. -/
def intentForOperation (s : WorkflowStore) (tenantId : String) (workflowId : WorkflowId)
    (operation : TicketOperation) : Option SideEffectIntent :=
  s.ticket.intents.find? fun i =>
    i.tenantId = tenantId ∧ i.workflowId = workflowId ∧ i.operation = operation

/-- `_completion_for_intent`. -/
def completionForIntent (s : WorkflowStore) (tenantId : String) (intentId : IntentId) :
    Option SideEffectCompletion :=
  s.ticket.completions.find? fun c => c.tenantId = tenantId ∧ c.intentId = intentId

/-- The intents of a workflow without a completion. -/
def unresolvedIntents (s : WorkflowStore) (tenantId : String) (workflowId : WorkflowId) :
    List SideEffectIntent :=
  s.ticket.intents.filter fun i => i.tenantId = tenantId ∧ i.workflowId = workflowId ∧
    ¬ s.ticket.completions.any fun c => c.tenantId = i.tenantId ∧ c.intentId = i.intentId

/-- `_unresolved_intent_ids`, in the order of the identifiers' text. -/
def unresolvedIntentIds (s : WorkflowStore) (env : Env) (tenantId : String)
    (workflowId : WorkflowId) : List IntentId :=
  ((s.unresolvedIntents tenantId workflowId).map (·.intentId)).insertionSort
    fun a b => env.intentIdLE a b

/-- `_completed_intent_ids`, as a set of effects. -/
def completedTicketIds (s : WorkflowStore) (tenantId : String) (workflowId : WorkflowId) :
    Finset EffectId :=
  ((s.ticket.completions.filter fun c =>
    c.tenantId = tenantId ∧ c.workflowId = workflowId).map fun c => .ticket c.intentId).toFinset

/-- `_unresolved_intent_ids`, as a set of effects. -/
def unresolvedTicketIds (s : WorkflowStore) (tenantId : String) (workflowId : WorkflowId) :
    Finset EffectId :=
  ((s.unresolvedIntents tenantId workflowId).map fun i => .ticket i.intentId).toFinset

/-- The delivery intents of a workflow with and without a completion. -/
def deliveryCompleted (s : WorkflowStore) (i : DeliveryIntent) : Bool :=
  s.delivery.completions.any fun c => c.tenantId = i.tenantId ∧ c.intentId = i.intentId

/-- `_pending_delivery_intent_ids`. -/
def pendingDeliveryIds (s : WorkflowStore) (tenantId : String) (workflowId : WorkflowId) :
    Finset EffectId :=
  (((s.deliveryIntentsOf tenantId workflowId).filter fun i => ¬ s.deliveryCompleted i).map
    fun i => .delivery i.intentId).toFinset

/-- `_completed_delivery_intent_ids`. -/
def completedDeliveryIds (s : WorkflowStore) (tenantId : String) (workflowId : WorkflowId) :
    Finset EffectId :=
  (((s.deliveryIntentsOf tenantId workflowId).filter s.deliveryCompleted).map
    fun i => .delivery i.intentId).toFinset

/-- `_all_pending_intent_ids`. -/
def allPendingIds (s : WorkflowStore) (tenantId : String) (workflowId : WorkflowId) :
    Finset EffectId :=
  s.unresolvedTicketIds tenantId workflowId ∪ s.pendingDeliveryIds tenantId workflowId

/-- `_all_completed_intent_ids`. -/
def allCompletedIds (s : WorkflowStore) (tenantId : String) (workflowId : WorkflowId) :
    Finset EffectId :=
  s.completedTicketIds tenantId workflowId ∪ s.completedDeliveryIds tenantId workflowId

/-- `_latest_ticket`: the highest version under a natural key. -/
def latestTicket? (s : WorkflowStore) (tenantId : String) (naturalKey : TicketNaturalKey) :
    Option TicketRevision :=
  ((s.ticket.revisions.filter fun r =>
    r.tenantId = tenantId ∧ r.naturalKey = naturalKey).insertionSort
      fun a b => b.version ≤ a.version).head?

def ticketOperation? (s : WorkflowStore) (tenantId : String) (idempotencyKey : TicketKey) :
    Option TicketOperationRow :=
  s.ticket.operations.find? fun o => o.tenantId = tenantId ∧ o.idempotencyKey = idempotencyKey

end WorkflowStore

/-! ## Intents -/

/-- The intent of an operation; its identity depends on the activation and the operation only. -/
def newIntent (env : Env) (a : WorkflowActivation) (checkpointId : CheckpointId)
    (operation : TicketOperation) : SideEffectIntent :=
  let intendedStateHash : TicketStateHash := sha256 ⟨a.workflowId, operation⟩
  let idempotencyKey : TicketKey :=
    sha256 ⟨a.tenantId, operation, a.naturalKey, intendedStateHash⟩
  { tenantId := a.tenantId, caseId := a.caseId, caseRevisionId := a.caseRevisionId,
    workflowId := a.workflowId, checkpointId,
    intentId := stableIdentifier ⟨a.workflowId, operation, idempotencyKey⟩, operation,
    naturalKey := a.naturalKey, intendedStateHash, idempotencyKey,
    evidenceReferences := [a.sourceEventId], correlationId := a.correlationId,
    createdAt := env.now }

/-- The fields in which a stored intent must agree with a retried one. -/
def SideEffectIntent.sameIdentity (i j : SideEffectIntent) : Bool :=
  i.intentId = j.intentId ∧ i.naturalKey = j.naturalKey ∧
  i.intendedStateHash = j.intendedStateHash ∧ i.idempotencyKey = j.idempotencyKey ∧
  i.caseId = j.caseId ∧ i.caseRevisionId = j.caseRevisionId

/-- The transaction of `_ensure_intent`. -/
def insertIntent (i : SideEffectIntent) (s : WorkflowStore) :
    Except WorkflowError (SideEffectIntent × WorkflowStore) :=
  match s.intentForOperation i.tenantId i.workflowId i.operation with
  | some existing => do
      require (existing.sameIdentity i) .workflowIntentConflict
      pure (existing, s)
  | none => do
      let intents ← fetch (Table.insert? SideEffectIntent.clash i s.ticket.intents)
        .workflowIntentFailed
      pure (i, { s with ticket := { s.ticket with intents } })

/-- **`_ensure_intent`.** -/
def ensureIntent (env : Env) (a : WorkflowActivation) (c : Checkpoint)
    (operation : TicketOperation) : Kernel SideEffectIntent := do
  let intent := newIntent env a c.payload.checkpointId operation
  Prog.check (validateSideEffectIntent intent) .workflowIntentInvalid
  Prog.atomically (insertIntent intent)

/-! ## The ticket store -/

structure TicketOutcome where
  status : OutcomeStatus
  ticketId : Option TicketId
  version : Option Nat
  outcomeSha256 : Option TicketOutcomeHash
  reasonCode : Option TicketReason
  deriving DecidableEq, Repr

def TicketOutcome.absent : TicketOutcome := ⟨.absent, none, none, none, none⟩

def TicketOutcome.conflict (reason : TicketReason) : TicketOutcome :=
  ⟨.conflict, none, none, none, some reason⟩

def TicketOutcome.timeout : TicketOutcome :=
  ⟨.unknown, none, none, none, some .reconciliationTimeout⟩

/-- `_outcome_from_revision`. -/
def TicketRevision.outcome (r : TicketRevision) : TicketOutcome :=
  ⟨.present, some r.ticketId, some r.version, some r.outcomeSha256, none⟩

def TicketOperationRow.outcome (o : TicketOperationRow) : TicketOutcome :=
  ⟨.present, some o.ticketId, some o.observedVersion, some o.outcomeSha256, none⟩

namespace WorkflowStore

/-- `_expected_handoff_version`: the version the completed first effect observed. -/
def expectedHandoffVersion (s : WorkflowStore) (i : SideEffectIntent) : Option Nat :=
  match i.operation with
  | .findOrCreate => none
  | .workflowHandoff => do
      let prior ← s.intentForOperation i.tenantId i.workflowId .findOrCreate
      let completion ← s.completionForIntent i.tenantId prior.intentId
      pure completion.observedVersion

/-- **`_reconcile_intent`.** -/
def reconcileIntent (s : WorkflowStore) (i : SideEffectIntent) : TicketOutcome :=
  match s.ticketOperation? i.tenantId i.idempotencyKey with
  | some operation => operation.outcome
  | none =>
      let latest := s.latestTicket? i.tenantId i.naturalKey
      match i.operation with
      | .findOrCreate => latest.elim .absent (·.outcome)
      | .workflowHandoff =>
          match latest, s.expectedHandoffVersion i with
          | some latest, some expected =>
              if latest.version = expected then .absent
              else { latest.outcome with
                status := .conflict, reasonCode := some .expectedVersionConflict }
          | _, _ => .conflict .ticketPredecessorMissing

end WorkflowStore

/-- The first revision of a ticket. -/
def firstRevision (env : Env) (i : SideEffectIntent) : TicketRevision :=
  { tenantId := i.tenantId, ticketId := stableIdentifier ⟨i.tenantId, i.naturalKey⟩,
    naturalKey := i.naturalKey, version := 1, contentSha256 := i.intendedStateHash,
    operation := .findOrCreate, createdAt := env.now }

/-- The revision after `latest`. -/
def handoffRevision (env : Env) (i : SideEffectIntent) (latest : TicketRevision) : TicketRevision :=
  { tenantId := i.tenantId, ticketId := latest.ticketId, naturalKey := i.naturalKey,
    version := latest.version + 1, contentSha256 := i.intendedStateHash,
    operation := .workflowHandoff, createdAt := env.now }

/-- The operation row of an execution that ended at revision `r`. -/
def newTicketOperation (env : Env) (i : SideEffectIntent) (expectedVersion : Option Nat)
    (r : TicketRevision) : TicketOperationRow :=
  { tenantId := i.tenantId, idempotencyKey := i.idempotencyKey, operation := i.operation,
    naturalKey := i.naturalKey, expectedVersion, ticketId := r.ticketId,
    observedVersion := r.version, outcomeSha256 := r.outcomeSha256, createdAt := env.now }

/-- The revision an execution ends at: one it inserts, or for find-or-create the one it found.
    `none` is the conflict of a handoff. -/
def executedRevision (env : Env) (i : SideEffectIntent) (s : WorkflowStore) :
    Except WorkflowError (Option (TicketRevision × List TicketRevision)) :=
  let latest := s.latestTicket? i.tenantId i.naturalKey
  match i.operation with
  | .findOrCreate =>
      match latest with
      | some latest => .ok (some (latest, s.ticket.revisions))
      | none => do
          let revision := firstRevision env i
          let revisions ← fetch (Table.insert? TicketRevision.clash revision s.ticket.revisions)
            .fixtureTicketOperationFailed
          pure (some (revision, revisions))
  | .workflowHandoff =>
      match latest, s.expectedHandoffVersion i with
      | some latest, some expected =>
          if latest.version = expected then do
            let revision := handoffRevision env i latest
            let revisions ← fetch (Table.insert? TicketRevision.clash revision s.ticket.revisions)
              .fixtureTicketOperationFailed
            pure (some (revision, revisions))
          else .ok none
      | _, _ => .ok none

/-- **`_execute_intent`.** -/
def executeIntent (env : Env) (i : SideEffectIntent) (s : WorkflowStore) :
    Except WorkflowError (TicketOutcome × WorkflowStore) :=
  match s.ticketOperation? i.tenantId i.idempotencyKey with
  | some operation => .ok (operation.outcome, s)
  | none => do
      match ← executedRevision env i s with
      | none => pure (.conflict .expectedVersionConflict, s)
      | some (revision, revisions) =>
          let row := newTicketOperation env i (s.expectedHandoffVersion i) revision
          let operations ← fetch (Table.insert? TicketOperationRow.clash row s.ticket.operations)
            .fixtureTicketOperationFailed
          pure (revision.outcome, { s with ticket := { s.ticket with revisions, operations } })

/-! ## Observations and completions -/

def newObservation (env : Env) (i : SideEffectIntent) (phase : EffectPhase)
    (outcome : TicketOutcome) : SideEffectObservation :=
  { tenantId := i.tenantId, caseId := i.caseId, caseRevisionId := i.caseRevisionId,
    workflowId := i.workflowId, checkpointId := i.checkpointId,
    observationId := stableIdentifier ⟨i.intentId, phase, outcome.status, outcome.ticketId,
      outcome.version, outcome.outcomeSha256, outcome.reasonCode⟩,
    intentId := i.intentId, status := outcome.status, observedTicketId := outcome.ticketId,
    observedVersion := outcome.version, outcomeSha256 := outcome.outcomeSha256,
    reasonCode := outcome.reasonCode, recordedAt := env.now }

/-- The transaction of `_record_observation`: a retried observation must agree but for its time. -/
def insertObservation (o : SideEffectObservation) (s : WorkflowStore) :
    Except WorkflowError (SideEffectObservation × WorkflowStore) :=
  match s.ticket.observations.find? fun x =>
      x.tenantId = o.tenantId ∧ x.observationId = o.observationId with
  | some existing => do
      require ({ existing with recordedAt := o.recordedAt } = o) .workflowObservationConflict
      pure (existing, s)
  | none => do
      let observations ← fetch (Table.insert? SideEffectObservation.clash o s.ticket.observations)
        .workflowObservationFailed
      pure (o, { s with ticket := { s.ticket with observations } })

/-- **`_record_observation`.** -/
def recordObservation (env : Env) (i : SideEffectIntent) (phase : EffectPhase)
    (outcome : TicketOutcome) : Kernel SideEffectObservation := do
  let observation := newObservation env i phase outcome
  Prog.check (validateSideEffectObservation observation) .workflowObservationInvalid
  Prog.atomically (insertObservation observation)

/-- The completion of an intent at a present observation. -/
def newCompletion (env : Env) (i : SideEffectIntent) (o : SideEffectObservation) :
    Option SideEffectCompletion :=
  match o.status, o.observedTicketId, o.observedVersion, o.outcomeSha256 with
  | .present, some observedTicketId, some observedVersion, some resultSha256 =>
      some
        { tenantId := i.tenantId, caseId := i.caseId, caseRevisionId := i.caseRevisionId,
          workflowId := i.workflowId, checkpointId := i.checkpointId,
          completionId := stableIdentifier ⟨i.intentId, o.observationId⟩, intentId := i.intentId,
          observationId := o.observationId, observedTicketId, observedVersion, resultSha256,
          completedAt := env.now }
  | _, _, _, _ => none

/-- The fields in which a stored completion must agree with a retried one. -/
def SideEffectCompletion.sameResult (c d : SideEffectCompletion) : Bool :=
  c.completionId = d.completionId ∧ c.observationId = d.observationId ∧
  c.observedTicketId = d.observedTicketId ∧ c.observedVersion = d.observedVersion ∧
  c.resultSha256 = d.resultSha256

/-- The transaction of `_record_completion`. -/
def insertCompletion (c : SideEffectCompletion) (s : WorkflowStore) :
    Except WorkflowError (SideEffectCompletion × WorkflowStore) :=
  match s.completionForIntent c.tenantId c.intentId with
  | some existing => do
      require (existing.sameResult c) .workflowCompletionConflict
      pure (existing, s)
  | none => do
      let completions ← fetch (Table.insert? SideEffectCompletion.clash c s.ticket.completions)
        .workflowCompletionFailed
      pure (c, { s with ticket := { s.ticket with completions } })

/-- **`_record_completion`.** -/
def recordCompletion (env : Env) (i : SideEffectIntent) (o : SideEffectObservation) :
    Kernel SideEffectCompletion := do
  let completion ← Prog.need (newCompletion env i o) .workflowCompletionPredecessorInvalid
  Prog.check (validateSideEffectCompletion completion) .workflowCompletionInvalid
  Prog.atomically (insertCompletion completion)

/-! ## The effect protocol -/

/-- **`_process_intent`**: the completion, or `none` when the effect is blocked. -/
def processIntent (env : Env) (i : SideEffectIntent) : Kernel (Option SideEffectCompletion) := do
  let existing ← Prog.observe (·.completionForIntent i.tenantId i.intentId)
  match existing with
  | some completion => pure (some completion)
  | none =>
      if env.reconciliationTimeout then
        let _ ← recordObservation env i .reconcileTimeout .timeout
        pure none
      else
        let reconciled ← Prog.observe (·.reconcileIntent i)
        let observation ← recordObservation env i .reconcile reconciled
        match reconciled.status with
        | .unknown | .conflict => pure none
        | .present =>
            let completion ← recordCompletion env i observation
            pure (some completion)
        | .absent =>
            let outcome ← Prog.atomically (executeIntent env i)
            let observation ← recordObservation env i .execute outcome
            if outcome.status ≠ .present then pure none
            else
              let completion ← recordCompletion env i observation
              pure (some completion)

/-- **`_enter_reconciliation`.** -/
def enterReconciliation (env : Env) (a : WorkflowActivation) (c : Checkpoint)
    (cause : CheckpointCause) : Kernel Checkpoint := do
  if c.payload.currentState = .needsReconciliation then pure c
  else
    let pending ← Prog.observe (·.allPendingIds a.tenantId a.workflowId)
    let completed ← Prog.observe (·.allCompletedIds a.tenantId a.workflowId)
    transition env a c
      { transitionKind := .reconciliationRequired, nextState := .needsReconciliation,
        resumeState := c.payload.currentState, causationEventId := cause,
        pendingIntentIds := some pending, completedIntentIds := some completed }

/-- A checkpoint that records the progress of ticket effects without a transition. -/
def ensureTicketProgress (env : Env) (a : WorkflowActivation) (c : Checkpoint)
    (cause : CheckpointCause) : Kernel Checkpoint := do
  let completedIntentIds ← Prog.observe (·.completedTicketIds a.tenantId a.workflowId)
  let pendingIntentIds ← Prog.observe (·.unresolvedTicketIds a.tenantId a.workflowId)
  ensureCheckpoint env a
    { currentState := c.payload.currentState, resumeState := c.payload.currentState,
      pendingIntentIds, completedIntentIds, causationEventId := cause, transitionKind := none }

/-- **`_drive_effect`**: persist and recover one effect, advancing only after a known completion. -/
def driveEffect (env : Env) (a : WorkflowActivation) (c : Checkpoint)
    (operation : TicketOperation) : Kernel (Checkpoint × Bool) := do
  let intent ← ensureIntent env a c operation
  let c ← ensureTicketProgress env a c (.intent intent.intentId)
  let completion ← processIntent env intent
  match completion with
  | none =>
      let c ← enterReconciliation env a c (.intent intent.intentId)
      pure (c, false)
  | some completion =>
      let c ← ensureTicketProgress env a c (.completion completion.completionId)
      pure (c, true)

end WeFlow
