import WeFlow.Kernel.Source
import WeFlow.Ledger.Rebuild

/-!
# `Checkpoint` — activation, checkpoints and the Case ledger

The operations every part of the kernel advances a workflow with: `activateCase`, `ensureCheckpoint`,
`syncCaseState` and `transition`, which checks, appends a checkpoint and then, in a transaction of its
own, appends the Case event.
-/

namespace WeFlow

open Txn

/-! ## Activation -/

def workflowIdOf (tenantId : String) (caseId : CaseId) (caseRevisionId : CaseRevisionId) :
    WorkflowId :=
  stableIdentifier ⟨tenantId, caseId, caseRevisionId⟩

def defaultSlaPolicy (tenantId : String) (createdAt : TimeText) : SlaPolicy :=
  { tenantId, policyId := "fixture-sla-default", policyVersion := "v1", deadlineSeconds := 3600,
    createdAt }

/-- The row `_insert_run` adds: its sequence continues the workflow's runs. -/
def nextRun (runs : List WorkflowRun) (tenantId : String) (workflowId : WorkflowId)
    (state : WorkflowState) (reasonCode : RunReason) (createdAt : Instant) : WorkflowRun :=
  let runSequence := (runs.filter fun r => r.tenantId = tenantId ∧ r.workflowId = workflowId).foldl
    (fun m r => max m r.runSequence) 0 + 1
  { tenantId, runId := stableIdentifier ⟨workflowId, runSequence, reasonCode⟩, workflowId,
    runSequence, state, runStatus := runStatus state, reasonCode, createdAt }

namespace LedgerStore

/-- `get_case_projection`; `none` when the stored row breaks its contract. -/
def getCaseProjection (s : LedgerStore) (tenantId : String) (caseId : CaseId) :
    Except WorkflowError (Option CaseProjection) := do
  let row := s.projection? tenantId caseId
  require (row.all validateCaseProjection) .contractInvalid
  pure row

/-- `list_case_revisions`. -/
def listCaseRevisions (s : LedgerStore) (tenantId : String) (caseId : CaseId) :
    Except WorkflowError (List CaseRevision) := do
  let rows := (s.revisionsOf tenantId caseId).insertionSort fun a b => a.revision ≤ b.revision
  require (rows = [] ∨ validateRevisionChain rows) .contractInvalid
  pure rows

/-- `list_case_events`. -/
def listCaseEvents (s : LedgerStore) (tenantId : String) (caseId : CaseId) :
    Except WorkflowError (List BusinessEvent) := do
  let rows := (s.eventRows tenantId caseId).insertionSort fun a b =>
    a.caseEventIndex ≤ b.caseEventIndex
  require (rows.all validateGeneratedLedgerEvent) .contractInvalid
  pure rows

end LedgerStore

/-- A query that may raise. -/
def observeM {α : Type} (query : WorkflowStore → Except WorkflowError α) : Kernel α :=
  Prog.atomically fun s => do
    let a ← query s
    pure (a, s)

def newActivation (env : Env) (projection : CaseProjection) (caseRevisionId : CaseRevisionId)
    (sourceEventId : EventId) (policy : SlaPolicy) : WorkflowActivation :=
  let workflowId := workflowIdOf projection.tenantId projection.caseId caseRevisionId
  { tenantId := projection.tenantId, workflowId, activationId := stableIdentifier ⟨workflowId⟩,
    caseId := projection.caseId, caseRevisionId, sourceEventId,
    correlationId := projection.correlationId, slaPolicyId := policy.policyId,
    slaPolicyVersion := policy.policyVersion, slaDeadlineSeconds := policy.deadlineSeconds,
    slaDeadlineAt := projection.createdAt + policy.deadlineSeconds * 1000000,
    createdAt := env.now }

/-- The transaction of `activate_case`. -/
def insertActivation (env : Env) (a : WorkflowActivation) (s : WorkflowStore) :
    Except WorkflowError ((WorkflowId × Bool) × WorkflowStore) :=
  match s.activationForCase a.tenantId a.caseId a.caseRevisionId with
  | some existing => do
      require (existing.workflowId = a.workflowId) .workflowActivationConflict
      pure ((a.workflowId, false), s)
  | none => do
      let activations ← fetch (Table.insert? WorkflowActivation.clash a s.journal.activations)
        .workflowActivationFailed
      let run := nextRun s.journal.runs a.tenantId a.workflowId .received .activated env.now
      let runs ← fetch (Table.insert? WorkflowRun.clash run s.journal.runs)
        .workflowActivationFailed
      pure ((a.workflowId, true), { s with journal := { s.journal with activations, runs } })

/-- **`activate_case`**: the workflow's identity, and whether it is new. -/
def activateCase (env : Env) (tenantId : String) (caseId : CaseId)
    (caseRevisionId : CaseRevisionId) (slaPolicy : Option SlaPolicy) :
    Kernel (WorkflowId × Bool) := do
  let projection ← observeM (·.ledger.getCaseProjection tenantId caseId)
  let revisions ← observeM (·.ledger.listCaseRevisions tenantId caseId)
  let events ← observeM (·.ledger.listCaseEvents tenantId caseId)
  let projection ← Prog.need projection .notFound
  Prog.check (revisions.length = 1 ∧ revisions.all (·.caseRevisionId = caseRevisionId)) .notFound
  let lastEvent ← Prog.need events.getLast? .notFound
  if projection.state ≠ .received then
    let existing ← Prog.observe (·.activationForCase tenantId caseId caseRevisionId)
    let existing ← Prog.need existing .workflowActivationPredecessorInvalid
    pure (existing.workflowId, false)
  else
    let policy := slaPolicy.getD (defaultSlaPolicy tenantId (.clock projection.createdAt))
    Prog.check (validateSyntheticSlaPolicy policy) .invalidSyntheticSlaPolicy
    Prog.check (policy.tenantId = tenantId) .tenantIdentityMismatch
    Prog.atomically
      (insertActivation env (newActivation env projection caseRevisionId lastEvent.eventId policy))

/-! ## Checkpoints -/

/-- The arguments of `_ensure_checkpoint`. -/
structure CheckpointRequest where
  currentState : WorkflowState
  resumeState : WorkflowState
  pendingIntentIds : Finset EffectId
  completedIntentIds : Finset EffectId
  causationEventId : CheckpointCause
  transitionKind : Option TransitionKind
  deriving DecidableEq

/-- A checkpoint already says what is asked for. -/
def Checkpoint.same (c : Checkpoint) (r : CheckpointRequest) : Bool :=
  c.payload.currentState = r.currentState ∧ c.payload.resumeState = r.resumeState ∧
  c.payload.pendingIntentIds = r.pendingIntentIds ∧
  c.payload.completedIntentIds = r.completedIntentIds ∧
  c.payload.causationEventId = r.causationEventId ∧ c.transitionKind = r.transitionKind

/-- The checkpoint after `previous`. -/
def nextCheckpoint (env : Env) (a : WorkflowActivation) (previous : Option CheckpointPayload)
    (r : CheckpointRequest) : Checkpoint :=
  let checkpointSequence := previous.elim 1 (·.checkpointSequence + 1)
  ⟨.of
    { tenantId := a.tenantId, caseId := a.caseId, caseRevisionId := a.caseRevisionId,
      workflowId := a.workflowId,
      checkpointId := stableIdentifier ⟨a.workflowId, checkpointSequence⟩, checkpointSequence,
      previousCheckpointId := previous.map (·.checkpointId), currentState := r.currentState,
      resumeState := r.resumeState, workflowVersion := previous.elim 0 (·.workflowVersion + 1),
      slaDeadlineAt := a.slaDeadlineAt, pendingIntentIds := r.pendingIntentIds,
      completedIntentIds := r.completedIntentIds, causationEventId := r.causationEventId,
      correlationId := a.correlationId, createdAt := env.now },
    r.transitionKind⟩

/-- The transaction of `_ensure_checkpoint`; `false` when the sequence number is taken. -/
def insertCheckpoint (c : Checkpoint) (s : WorkflowStore) :
    Except WorkflowError (Bool × WorkflowStore) :=
  let p := c.payload
  if s.journal.checkpoints.any fun x => x.payload.tenantId = p.tenantId ∧
      x.payload.workflowId = p.workflowId ∧
      x.payload.checkpointSequence = p.checkpointSequence then
    .ok (false, s)
  else do
    let checkpoints ← fetch (Table.insert? Checkpoint.clash c s.journal.checkpoints)
      .workflowCheckpointFailed
    let run := nextRun s.journal.runs p.tenantId p.workflowId p.currentState
      (.checkpoint c.transitionKind) p.createdAt
    let runs ← fetch (Table.insert? WorkflowRun.clash run s.journal.runs) .workflowCheckpointFailed
    pure (true, { s with journal := { s.journal with checkpoints, runs } })

/-- Validate and insert a checkpoint, or return the one that took its place. -/
def appendCheckpoint (c : Checkpoint) : Kernel Checkpoint := do
  Prog.check (validateWorkflowCheckpoint c.payload) .workflowCheckpointInvalid
  let inserted ← Prog.atomically (insertCheckpoint c)
  if inserted then pure c
  else
    let latest ← Prog.observe (·.latestCheckpoint? c.payload.tenantId c.payload.workflowId)
    Prog.need latest .workflowJournalInvalid

/-- **`_ensure_checkpoint`.** -/
def ensureCheckpoint (env : Env) (a : WorkflowActivation) (r : CheckpointRequest) :
    Kernel Checkpoint := do
  let previous ← Prog.observe (·.latestCheckpoint? a.tenantId a.workflowId)
  Prog.check (r.pendingIntentIds ∩ r.completedIntentIds = ∅) .workflowCheckpointEffectOverlap
  match previous with
  | some p =>
      if p.same r then pure p
      else appendCheckpoint (nextCheckpoint env a (some p.payload) r)
  | none =>
      Prog.check (r.currentState = .received ∧ r.resumeState = .received ∧ r.transitionKind = none)
        .workflowCheckpointPredecessorInvalid
      appendCheckpoint (nextCheckpoint env a none r)

/-- The first checkpoint of an activation. -/
def initialRequest (a : WorkflowActivation) : CheckpointRequest :=
  { currentState := .received, resumeState := .received, pendingIntentIds := ∅,
    completedIntentIds := ∅, causationEventId := .sourceEvent a.sourceEventId,
    transitionKind := none }

/-! ## The Case ledger -/

/-- The Case event of a transition checkpoint that continues `previous`. -/
def caseEventOf (a : WorkflowActivation) (previous current : CheckpointPayload)
    (kind : TransitionKind) : WorkflowStateEvent :=
  { tenantId := a.tenantId, caseId := a.caseId, caseRevisionId := a.caseRevisionId,
    workflowId := a.workflowId, checkpointId := current.checkpointId, transitionKind := kind,
    fromState := previous.currentState, toState := current.currentState,
    resumeState := some current.resumeState, correlationId := a.correlationId,
    occurredAt := .clock current.createdAt }

/-- The port's transaction on the whole store. -/
def appendCaseEvent (e : WorkflowStateEvent) (s : WorkflowStore) :
    Except WorkflowError (Unit × WorkflowStore) :=
  match s.ledger.appendWorkflowStateEvent e with
  | .ok (_, ledger) => .ok ((), { s with ledger })
  | .error reason => .error (.ledger reason)

/-- **`_sync_case_state`.** -/
def syncCaseState (a : WorkflowActivation) (c : Checkpoint) : Kernel Unit :=
  match c.transitionKind with
  | none => pure ()
  | some kind => do
      Prog.check (1 < c.payload.checkpointSequence) .workflowCheckpointPredecessorInvalid
      let checkpoints ← Prog.observe (·.checkpointsOf a.tenantId a.workflowId)
      let previous ← Prog.need checkpoints.dropLast.getLast? .workflowJournalInvalid
      let projection ← observeM (·.ledger.getCaseProjection a.tenantId a.caseId)
      let projection ← Prog.need projection .notFound
      if projection.state = c.payload.currentState then pure ()
      else Prog.atomically (appendCaseEvent (caseEventOf a previous.payload c.payload kind))

/-- The arguments of `_transition` that every caller gives. -/
structure TransitionRequest where
  transitionKind : TransitionKind
  nextState : WorkflowState
  resumeState : WorkflowState
  causationEventId : CheckpointCause
  pendingIntentIds : Option (Finset EffectId) := none
  completedIntentIds : Option (Finset EffectId) := none
  deriving DecidableEq

/-- Whether `validate_transition` accepts the transition from a checkpoint. -/
def TransitionRequest.allowedFrom (r : TransitionRequest) (c : CheckpointPayload) : Bool :=
  transitionAllowed c.currentState r.transitionKind r.nextState (some r.resumeState)
    (c.pendingIntentIds ≠ ∅)

/-- What a transition asks `_ensure_checkpoint` for; the effect sets default to the current ones. -/
def TransitionRequest.checkpoint (r : TransitionRequest) (current : CheckpointPayload) :
    CheckpointRequest :=
  { currentState := r.nextState, resumeState := r.resumeState,
    pendingIntentIds := r.pendingIntentIds.getD current.pendingIntentIds,
    completedIntentIds := r.completedIntentIds.getD current.completedIntentIds,
    causationEventId := r.causationEventId, transitionKind := some r.transitionKind }

/-- **`_transition`**: validate, append the checkpoint, append the Case event. -/
def transition (env : Env) (a : WorkflowActivation) (c : Checkpoint) (r : TransitionRequest) :
    Kernel Checkpoint := do
  let current := c.payload
  Prog.check (r.allowedFrom current) .workflowTransitionNotAllowed
  let next ← ensureCheckpoint env a (r.checkpoint current)
  syncCaseState a next
  pure next

/-! ## SLA expiry -/

def newSlaEvent (env : Env) (a : WorkflowActivation) (c : Checkpoint) : SlaEvent :=
  { tenantId := a.tenantId, slaEventId := stableIdentifier ⟨a.workflowId⟩, workflowId := a.workflowId,
    checkpointId := c.payload.checkpointId, deadlineAt := a.slaDeadlineAt, recordedAt := env.now }

/-- **`_record_sla_expiry`.** -/
def recordSlaExpiry (env : Env) (a : WorkflowActivation) (c : Checkpoint) : Kernel Unit :=
  Prog.atomically fun s =>
    match s.slaEvent? a.tenantId a.workflowId with
    | some existing => do
        require (existing.checkpointId = c.payload.checkpointId ∧
          existing.deadlineAt = a.slaDeadlineAt) .workflowSlaConflict
        pure ((), s)
    | none => do
        let slaEvents ← fetch
          (Table.insert? SlaEvent.clash (newSlaEvent env a c) s.journal.slaEvents) .workflowSlaFailed
        pure ((), { s with journal := { s.journal with slaEvents } })

end WeFlow
