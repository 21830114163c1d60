import WeFlow.Kernel.Run
import WeFlow.Ledger.Agreement

/-!
# `Step` — what one transaction of the kernel can do

`Effect x s part s'` lists every transaction that an operation of the kernel can commit: what it writes,
and what its program has established by then. Invariants are proved from this relation alone; that the
programs take no other steps is proved once, in `Safety`.

The context of a transaction is the call in progress with the store the call started from. A call of
`recover_workflow` first prepares the workflow (`PrepareStep`: both rebuilds, a missing first
checkpoint, the Case event of the latest checkpoint, pending commands) and then continues from the state
it finds; `PreparedAt` is the store between the two.

## Contents

* `Reason` — why a checkpoint is appended; `Advance`, `Applies` — the transitions.
* `PrepareStep`, `TicketStep`, `InvestigationStep`, `PolicyStep`, `DeliveryStep`, `Effect`.
* `Effect.frame…` — what each part leaves alone; `Effect.grows` — rows are only ever appended.
-/

namespace WeFlow

/-- The call that a transaction belongs to, and the store it started from. -/
structure Context where
  env : Env
  call : Call
  start : WorkflowStore

/-- The workflow a call is about. -/
def Call.about (a : WorkflowActivation) : Call → Bool
  | .recoverWorkflow t w => a.tenantId = t ∧ a.workflowId = w
  | .observeForCommand c => a.tenantId = c.tenantId ∧ a.caseId = c.caseId
  | .persistCommand b _ _ _ => a = b
  | .applyCommand b _ => a = b
  | .beginInvestigation t c _ _ | .recordAgentAction t c _ | .recordToolExchange t c _ _
  | .recordResponseCandidate t c _ | .verifyResponseCandidate t c _ | .activatePolicyApproval t c
  | .submitApprovalDecision t c _ _ _ _ _ | .revokeFixtureGrant t c => a.tenantId = t ∧ a.caseId = c
  | .intake _ _ | .intakeQq _ _ | .activateCase _ _ _ _ => false

/-- A call of `recover_workflow`. -/
def Call.recovers : Call → Bool
  | .recoverWorkflow _ _ => true
  | _ => false

/-- What a transaction is about. -/
inductive Part where
  | ledger | activation | readModel | initial | command | checkpoint | caseEvent | sla | submission
  | ticket | investigation | policy | delivery
  deriving DecidableEq, Repr

/-- The parts that prepare a workflow. -/
def Part.prepares : Part → Bool
  | .readModel | .initial | .command | .caseEvent => true
  | _ => false

/-- The parts a call writes besides those that prepare a workflow. -/
def Call.advances : Call → List Part
  | .intake _ _ | .intakeQq _ _ => [.ledger]
  | .activateCase _ _ _ _ => [.activation]
  | .recoverWorkflow _ _ => [.checkpoint, .sla, .ticket, .policy, .delivery]
  | .observeForCommand _ | .applyCommand _ _ => []
  | .persistCommand _ _ _ _ => [.submission]
  | .beginInvestigation _ _ _ _ | .recordAgentAction _ _ _ | .recordToolExchange _ _ _ _
  | .recordResponseCandidate _ _ _ | .verifyResponseCandidate _ _ _ => [.investigation, .checkpoint]
  | .activatePolicyApproval _ _ | .submitApprovalDecision _ _ _ _ _ _ _ =>
      [.policy, .delivery, .checkpoint]
  | .revokeFixtureGrant _ _ => [.policy]

/-- The parts a call may write. -/
def Call.writes (call : Call) (part : Part) : Bool := part.prepares ∨ part ∈ call.advances

/-! ## Facts that programs establish -/

namespace WorkflowStore

/-- The effect of an operation is completed. -/
def Completed (s : WorkflowStore) (a : WorkflowActivation) (operation : TicketOperation) : Prop :=
  ∃ i ∈ s.ticket.intents, i.tenantId = a.tenantId ∧ i.workflowId = a.workflowId ∧
    i.operation = operation ∧
    ∃ d ∈ s.ticket.completions, d.tenantId = i.tenantId ∧ d.intentId = i.intentId

/-- A stored outcome verifies a candidate of the workflow. -/
def Verified (s : WorkflowStore) (a : WorkflowActivation) (id : VerifierOutcomeId) : Prop :=
  ∃ o ∈ s.investigation.outcomes, o.tenantId = a.tenantId ∧ o.outcome.outcome = .verified ∧
    o.outcome.verifierOutcomeId = id ∧
    (o.workflowId = a.workflowId ∨
      ∃ c ∈ s.candidatesOf a.tenantId a.workflowId, c.candidate.candidateId = o.outcome.candidateId)

/-- The Case has followed the latest checkpoint, if that is a transition. -/
def CaseSynced (s : WorkflowStore) (a : WorkflowActivation) : Prop :=
  ∀ c, s.latestCheckpoint? a.tenantId a.workflowId = some c → c.transitionKind.isSome →
    (∃ p, s.ledger.projection? a.tenantId a.caseId = some p ∧ p.state = c.payload.currentState) ∨
    s.ledger.Recorded a.tenantId a.caseId a.workflowId c.payload.checkpointId

/-- The commands no checkpoint of the workflow was caused by. -/
def pendingCommands (s : WorkflowStore) (a : WorkflowActivation) : List WorkflowCommand :=
  (s.commandsOf a.tenantId a.workflowId).filter fun c =>
    ¬ s.commandCheckpointExists a.tenantId a.workflowId c.commandId

/-- Every command is applied, except CANCELs that met a reconciliation. -/
def CommandsDone (s : WorkflowStore) (a : WorkflowActivation) : Prop :=
  ∀ c ∈ s.pendingCommands a, c.commandType = .cancel ∧
    ∃ latest, s.latestCheckpoint? a.tenantId a.workflowId = some latest ∧
      latest.payload.currentState = .needsReconciliation

/-- The authorization checks of `_recover_delivery` pass. -/
def deliveryAuthorized (s : WorkflowStore) (now : Instant) (a : WorkflowActivation) : Bool :=
  match s.authorizationBindingForWorkflow a.tenantId a.workflowId,
    s.grantForWorkflow a.tenantId a.workflowId, s.policyDecisionForWorkflow a.tenantId a.workflowId,
    s.approvalRequestForWorkflow a.tenantId a.workflowId with
  | some binding, some grant, some policy, some request =>
      s.authorizationProfileIsCurrent now a binding policy grant ∧
      (s.approvalDecisionForRequest a.tenantId request.approvalRequestId).any fun approval =>
        (s.candidateMaterial a).any (approvalIsCurrent now a request approval binding)
  | _, _, _, _ => false

/-! ## The rows of a checkpoint -/

/-- The checkpoint a request adds to a workflow. -/
def checkpointFor (s : WorkflowStore) (env : Env) (a : WorkflowActivation) (r : CheckpointRequest) :
    Checkpoint :=
  nextCheckpoint env a ((s.latestCheckpoint? a.tenantId a.workflowId).map (·.payload)) r

/-- The run that goes with it. -/
def runFor (s : WorkflowStore) (env : Env) (a : WorkflowActivation) (r : CheckpointRequest) :
    WorkflowRun :=
  nextRun s.journal.runs a.tenantId a.workflowId r.currentState (.checkpoint r.transitionKind) env.now

/-- The store with both appended. -/
def withCheckpoint (s : WorkflowStore) (env : Env) (a : WorkflowActivation) (r : CheckpointRequest) :
    WorkflowStore :=
  { s with
    journal :=
      { s.journal with
        checkpoints := s.journal.checkpoints ++ [s.checkpointFor env a r]
        runs := s.journal.runs ++ [s.runFor env a r] } }

/-- All effects of a workflow, as a transition records them. -/
def recordsEffects (s : WorkflowStore) (a : WorkflowActivation) (r : TransitionRequest) :
    TransitionRequest :=
  { r with
    pendingIntentIds := some (s.allPendingIds a.tenantId a.workflowId)
    completedIntentIds := some (s.allCompletedIds a.tenantId a.workflowId) }

end WorkflowStore

/-- The transition into a reconciliation, from any state. -/
def reconciliationRequired (c : CheckpointPayload) (cause : CheckpointCause) : TransitionRequest :=
  { transitionKind := .reconciliationRequired, nextState := .needsReconciliation,
    resumeState := c.currentState, causationEventId := cause }

/-- The transition out of a reconciliation. -/
def reconciliationComplete (c : CheckpointPayload) (cause : CheckpointCause) : TransitionRequest :=
  { transitionKind := .reconciliationComplete, nextState := c.resumeState,
    resumeState := c.resumeState, causationEventId := cause }

/-- A transition to a state that is its own resume state. -/
def moveTo (kind : TransitionKind) (state : WorkflowState) (cause : CheckpointCause) :
    TransitionRequest :=
  { transitionKind := kind, nextState := state, resumeState := state, causationEventId := cause }

def CheckpointCause.isCommand : CheckpointCause → Bool
  | .command _ => true
  | _ => false

/-! ## Why a checkpoint is appended -/

/-- A command's transition from checkpoint `c`. -/
inductive Applies (s : WorkflowStore) (a : WorkflowActivation) (c : CheckpointPayload)
    (command : WorkflowCommand) : TransitionRequest → Prop
  | pause (type : command.commandType = .pause) : Applies s a c command
      (pauseRequest command.commandId c)
  | resume (type : command.commandType = .resume) : Applies s a c command
      (resumeRequest command.commandId c)
  | cancel (type : command.commandType = .cancel)
      (resolved : s.allPendingIds a.tenantId a.workflowId = ∅) :
      Applies s a c command (cancelRequest command.commandId)
  | absorb (type : command.commandType = .cancel)
      (unresolved : s.allPendingIds a.tenantId a.workflowId ≠ ∅)
      (elsewhere : c.currentState ≠ .needsReconciliation) :
      Applies s a c command
        (s.recordsEffects a (reconciliationRequired c (.command command.commandId)))

/-- A request for a checkpoint that prepares a workflow: its first one, or a pending command's. -/
inductive Prepares (x : Context) (s : WorkflowStore) (a : WorkflowActivation) :
    Part → CheckpointRequest → Prop
  | initial (none : s.latestCheckpoint? a.tenantId a.workflowId = none) :
      Prepares x s a .initial (initialRequest a)
  | command {c : Checkpoint} {command : WorkflowCommand} {r : TransitionRequest}
      (latest : s.latestCheckpoint? a.tenantId a.workflowId = some c)
      (stored : command ∈ s.commandsOf a.tenantId a.workflowId)
      (unapplied : s.commandCheckpointExists a.tenantId a.workflowId command.commandId = false)
      (first : x.call.recovers = true → (s.pendingCommands a).head? = some command)
      (version : c.payload.workflowVersion = command.expectedWorkflowVersion)
      (applies : Applies s a c.payload command r)
      (allowed : r.allowedFrom c.payload = true) :
      Prepares x s a .command (r.checkpoint c.payload)

/-- What holds of every new checkpoint of a call. -/
structure CheckpointOk (x : Context) (s : WorkflowStore) (a : WorkflowActivation)
    (r : CheckpointRequest) : Prop where
  mem : a ∈ s.journal.activations
  about : x.call.about a = true
  valid : validateWorkflowCheckpoint (s.checkpointFor x.env a r).payload = true
  disjoint : r.pendingIntentIds ∩ r.completedIntentIds = ∅
  freshCheckpoint : ∀ c ∈ s.journal.checkpoints, (s.checkpointFor x.env a r).clash c = false
  freshRun : ∀ y ∈ s.journal.runs, (s.runFor x.env a r).clash y = false
  synced : x.call.recovers = true ∨ x.start.CaseSynced a → s.CaseSynced a

/-- The transactions of every call that touch only read models, the Case, and checkpoints that prepare
    a workflow. -/
inductive PrepareStep (x : Context) (s : WorkflowStore) : Part → WorkflowStore → Prop
  | rebuildCase {ledger : LedgerStore} (rebuilt : s.ledger.rebuildProjection = .ok ledger) :
      PrepareStep x s .readModel { s with ledger }
  | rebuildWorkflow {s' : WorkflowStore} (rebuilt : s.rebuildWorkflowProjection = .ok s') :
      PrepareStep x s .readModel s'
  | caseEvent {a : WorkflowActivation} {c previous : Checkpoint} {kind : TransitionKind}
      {ledger : LedgerStore} (mem : a ∈ s.journal.activations) (about : x.call.about a = true)
      (latest : s.latestCheckpoint? a.tenantId a.workflowId = some c)
      (transition : c.transitionKind = some kind)
      (before : (s.checkpointsOf a.tenantId a.workflowId).dropLast.getLast? = some previous)
      (behind : ∃ p, s.ledger.projection? a.tenantId a.caseId = some p ∧
        p.state ≠ c.payload.currentState)
      (appended : s.ledger.Appended (caseEventOf a previous.payload c.payload kind) ledger) :
      PrepareStep x s .caseEvent { s with ledger }
  | checkpoint {part : Part} {a : WorkflowActivation} {r : CheckpointRequest}
      (reason : Prepares x s a part r) (ok : CheckpointOk x s a r) :
      PrepareStep x s part (s.withCheckpoint x.env a r)

/-- The store in which a recovery has prepared its workflow. -/
structure PreparedAt (x : Context) (a : WorkflowActivation) (s : WorkflowStore) : Prop where
  reached : Relation.ReflTransGen (fun s s' => ∃ part, PrepareStep x s part s') x.start s
  done : s.CommandsDone a

/-- A recovery that ends with an error of commands has met one of these: a pending command whose version
    has passed or whose transition is refused, an SLA that expires in a terminal state, or a
    reconciliation that would resume where none is entered from. -/
inductive Refused (x : Context) (s : WorkflowStore) : Prop
  | version {a : WorkflowActivation} {c : Checkpoint} {command : WorkflowCommand}
      (mem : a ∈ s.journal.activations) (about : x.call.about a = true)
      (latest : s.latestCheckpoint? a.tenantId a.workflowId = some c)
      (pending : command ∈ s.pendingCommands a)
      (counts : ¬ (command.commandType = .cancel ∧ c.payload.currentState = .needsReconciliation))
      (late : c.payload.workflowVersion ≠ command.expectedWorkflowVersion)
  | transition {a : WorkflowActivation} {c : Checkpoint} {command : WorkflowCommand}
      {r : TransitionRequest} (mem : a ∈ s.journal.activations) (about : x.call.about a = true)
      (latest : s.latestCheckpoint? a.tenantId a.workflowId = some c)
      (pending : command ∈ s.pendingCommands a)
      (counts : ¬ (command.commandType = .cancel ∧ c.payload.currentState = .needsReconciliation))
      (version : c.payload.workflowVersion = command.expectedWorkflowVersion)
      (applies : Applies s a c.payload command r)
      (refused : r.allowedFrom c.payload = false ∨ r.resumeState = .paused)
  | sla {a : WorkflowActivation} {c : Checkpoint} (mem : a ∈ s.journal.activations)
      (latest : s.latestCheckpoint? a.tenantId a.workflowId = some c)
      (unresolved : s.handoffComplete a.tenantId a.workflowId = false)
      (state : c.payload.currentState = .responseReady ∨ c.payload.currentState = .deliveryRecorded)
  | shape {a : WorkflowActivation} {c : Checkpoint} (mem : a ∈ s.journal.activations)
      (latest : s.latestCheckpoint? a.tenantId a.workflowId = some c)
      (state : c.payload.currentState = .needsReconciliation)
      (resume : c.payload.resumeState = .paused ∨ c.payload.resumeState = .needsReconciliation ∨
        c.payload.resumeState = .deliveryRecorded ∨ c.payload.resumeState = .cancelled)

/-- A recovery has prepared its workflow before. -/
def Settled (x : Context) (s : WorkflowStore) (a : WorkflowActivation) : Prop :=
  ∃ s₁, PreparedAt x a s₁ ∧ s.journal.commands = s₁.journal.commands ∧
    s₁.journal.checkpoints <+: s.journal.checkpoints

/-- A recovery continues from checkpoint `c`: it has prepared its workflow, or has left the reconciliation
    in which it found it. -/
inductive ContinuesAt (x : Context) (s : WorkflowStore) (a : WorkflowActivation) (c : Checkpoint) : Prop
  | prepared (prepared : PreparedAt x a s)
  | reconciled {s₁ : WorkflowStore} {c₁ : Checkpoint} (prepared : PreparedAt x a s₁)
      (latest : s₁.latestCheckpoint? a.tenantId a.workflowId = some c₁)
      (state : c₁.payload.currentState = .needsReconciliation)
      (resume : c.payload.currentState = c₁.payload.resumeState)
      (resolved : s.unresolvedIntents a.tenantId a.workflowId = [])
      (processed : x.env.reconciliationTimeout = false ∨
        s₁.unresolvedIntents a.tenantId a.workflowId = [])
      (activations : s.journal.activations = s₁.journal.activations)
      (intents : s.ticket.intents = s₁.ticket.intents)
      (slaEvents : s.journal.slaEvents = s₁.journal.slaEvents)

/-- A recovery that ends with a conflict of the SLA finds it expired where it continues, and recorded
    with another checkpoint or another deadline. -/
inductive SlaBehind (x : Context) (s : WorkflowStore) : Prop
  | intro {a : WorkflowActivation} {c : Checkpoint} {row : SlaEvent} (mem : a ∈ s.journal.activations)
      (about : x.call.about a = true)
      (latest : s.latestCheckpoint? a.tenantId a.workflowId = some c)
      (stored : s.slaEvent? a.tenantId a.workflowId = some row)
      (differs : ¬ (row.checkpointId = c.payload.checkpointId ∧ row.deadlineAt = a.slaDeadlineAt))
      (due : a.slaDeadlineAt ≤ x.env.now)
      (unresolved : s.handoffComplete a.tenantId a.workflowId = false)
      (counts : c.payload.currentState ≠ .waitingForOperator ∧
        c.payload.currentState ≠ .needsReconciliation ∧ c.payload.currentState ≠ .cancelled)
      (continues : ContinuesAt x s a c)

/-- The transitions that no command asks for, from checkpoint `c`. -/
inductive Advance (x : Context) (s : WorkflowStore) (a : WorkflowActivation) (c : Checkpoint) :
    TransitionRequest → Prop
  | ticketReady (find : s.Completed a .findOrCreate) (handoff : s.Completed a .workflowHandoff) :
      Advance x s a c (moveTo .ticketHandoffComplete .ticketReady .ticketHandoffComplete)
  | investigationStarted {i : InvestigationActivation}
      (stored : s.investigationActivation? a.tenantId a.workflowId = some i) :
      Advance x s a c (investigationStarted i.investigationId)
  | candidateVerified {id : VerifierOutcomeId} (verified : s.Verified a id) :
      Advance x s a c (candidateVerified id)
  | approvalActivated {request : ApprovalRequest} {p : PolicyActivation} {grant : SealedGrant}
      (activation : s.policyActivationForWorkflow a.tenantId a.workflowId = some p)
      (granted : s.grantForWorkflow a.tenantId a.workflowId = some grant)
      (decided : s.decisionsOf a.tenantId a.workflowId ≠ [])
      (bound : s.bindingsOf a.tenantId a.workflowId ≠ [])
      (requested : s.approvalRequestForWorkflow a.tenantId a.workflowId = some request) :
      Advance x s a c
        (moveTo .policyApprovalActivated .awaitingApproval
          (.approvalRequest request.approvalRequestId))
  | approvalGranted {request : ApprovalRequest} {d : SealedApproval}
      (requested : s.approvalRequestForWorkflow a.tenantId a.workflowId = some request)
      (decided : s.approvalDecisionForRequest a.tenantId request.approvalRequestId = some d)
      (approved : d.body.decision = .approved) :
      Advance x s a c (moveTo .approvalGranted .delivering (.approval d.body.approvalDecisionId))
  | approvalDenied {cause : CheckpointCause} (origin : cause.isCommand = false) :
      Advance x s a c (moveTo .authorizationDenied .waitingForOperator cause)
  | deliveryDenied (reason : DenialReason)
      (unauthorized : s.deliveryAuthorized x.env.now a = false) :
      Advance x s a c (s.recordsEffects a
        (moveTo .authorizationDenied .waitingForOperator (.authorizationDenied reason)))
  | deliveryComplete {i : DeliveryIntent} {d : DeliveryCompletion}
      (intent : i ∈ s.deliveryIntentsOf a.tenantId a.workflowId)
      (completed : s.deliveryCompletionForIntent i.tenantId i.intentId = some d) :
      Advance x s a c
        (moveTo .deliveryComplete .deliveryRecorded (.deliveryCompletion d.completionId))
  | slaExpired (unresolved : s.handoffComplete a.tenantId a.workflowId = false)
      (active : c.payload.currentState ≠ .waitingForOperator) :
      Advance x s a c (moveTo .slaExpired .waitingForOperator .slaExpired)
  | reconcile {cause : CheckpointCause} (origin : cause.isCommand = false)
      (state : c.payload.currentState = .received ∨ c.payload.currentState = .delivering) :
      Advance x s a c (s.recordsEffects a (reconciliationRequired c.payload cause))
  | reconciled {s₁ : WorkflowStore} (resolved : s.unresolvedIntents a.tenantId a.workflowId = [])
      (prepared : PreparedAt x a s₁) (journal : s.journal = s₁.journal)
      (delivery : s.delivery = s₁.delivery) (policy : s.policy = s₁.policy)
      (state : c.payload.currentState = .needsReconciliation)
      (ticket : ¬ ((s.policyActivationForWorkflow a.tenantId a.workflowId).isSome ∧
        c.payload.resumeState = .delivering)) :
      Advance x s a c
        { reconciliationComplete c.payload .reconciliationKnownOutcome with
          pendingIntentIds := some ∅
          completedIntentIds := some (s.completedTicketIds a.tenantId a.workflowId) }
  | deliveryReconciled {i : DeliveryIntent} {d : DeliveryCompletion}
      (intent : i ∈ s.deliveryIntentsOf a.tenantId a.workflowId)
      (completed : s.deliveryCompletionForIntent i.tenantId i.intentId = some d)
      (resume : c.payload.resumeState = .delivering) :
      Advance x s a c
        (s.recordsEffects a
          (reconciliationComplete c.payload (.deliveryReconciled d.completionId)))

/-- A request for any other checkpoint. -/
inductive Reason (x : Context) (s : WorkflowStore) (a : WorkflowActivation) :
    CheckpointRequest → Prop
  | ticketProgress {c : Checkpoint} {cause : CheckpointCause}
      (latest : s.latestCheckpoint? a.tenantId a.workflowId = some c)
      (state : c.payload.currentState = .received) (origin : cause.isCommand = false) :
      Reason x s a
        { currentState := .received, resumeState := .received,
          pendingIntentIds := s.unresolvedTicketIds a.tenantId a.workflowId,
          completedIntentIds := s.completedTicketIds a.tenantId a.workflowId,
          causationEventId := cause, transitionKind := none }
  | deliveryProgress {c : Checkpoint} {cause : CheckpointCause}
      (latest : s.latestCheckpoint? a.tenantId a.workflowId = some c)
      (state : c.payload.currentState = .delivering) (origin : cause.isCommand = false) :
      Reason x s a
        { currentState := .delivering, resumeState := .delivering,
          pendingIntentIds := s.allPendingIds a.tenantId a.workflowId,
          completedIntentIds := s.allCompletedIds a.tenantId a.workflowId,
          causationEventId := cause, transitionKind := none }
  | advance {c : Checkpoint} {r : TransitionRequest}
      (latest : s.latestCheckpoint? a.tenantId a.workflowId = some c) (advance : Advance x s a c r)
      (allowed : r.allowedFrom c.payload = true) :
      Reason x s a (r.checkpoint c.payload)

/-- The state from which a recovery continued is the workflow's state, or its reconciliation's. -/
def EnteredAt (x : Context) (a : WorkflowActivation) (state : WorkflowState) : Prop :=
  ∃ s₁ c₁, PreparedAt x a s₁ ∧ s₁.latestCheckpoint? a.tenantId a.workflowId = some c₁ ∧
    (c₁.payload.currentState = state ∨
      c₁.payload.currentState = .needsReconciliation ∧ c₁.payload.resumeState = state)

/-! ## Ticket effects -/

/-- What an observation of a ticket effect can report. -/
inductive Reports (x : Context) (s : WorkflowStore) (i : SideEffectIntent) :
    EffectPhase → TicketOutcome → Prop
  | timeout (injected : x.env.reconciliationTimeout = true) : Reports x s i .reconcileTimeout .timeout
  | reconciled : Reports x s i .reconcile (s.reconcileIntent i)
  | executed {o : TicketOperationRow}
      (stored : s.ticketOperation? i.tenantId i.idempotencyKey = some o) :
      Reports x s i .execute o.outcome
  | refused : Reports x s i .execute (.conflict .expectedVersionConflict)

inductive TicketStep (x : Context) (s : WorkflowStore) : TicketTables → Prop
  | intent {a : WorkflowActivation} {c : Checkpoint} {operation : TicketOperation}
      (mem : a ∈ s.journal.activations) (about : x.call.about a = true)
      (latest : s.latestCheckpoint? a.tenantId a.workflowId = some c)
      (state : c.payload.currentState = .received)
      (prior : operation = .workflowHandoff → s.Completed a .findOrCreate)
      (valid : validateSideEffectIntent (newIntent x.env a c.payload.checkpointId operation) = true)
      (new : s.intentForOperation a.tenantId a.workflowId operation = none)
      (fresh : ∀ j ∈ s.ticket.intents,
        (newIntent x.env a c.payload.checkpointId operation).clash j = false) :
      TicketStep x s
        { s.ticket with
          intents := s.ticket.intents ++ [newIntent x.env a c.payload.checkpointId operation] }
  | execute {i : SideEffectIntent} {r : TicketRevision} {revisions : List TicketRevision}
      (mem : i ∈ s.ticket.intents) (incomplete : s.completionForIntent i.tenantId i.intentId = none)
      (new : s.ticketOperation? i.tenantId i.idempotencyKey = none)
      (executed : executedRevision x.env i s = .ok (some (r, revisions)))
      (fresh : ∀ o ∈ s.ticket.operations,
        (newTicketOperation x.env i (s.expectedHandoffVersion i) r).clash o = false) :
      TicketStep x s
        { s.ticket with
          revisions
          operations := s.ticket.operations ++
            [newTicketOperation x.env i (s.expectedHandoffVersion i) r] }
  | observe {i : SideEffectIntent} {phase : EffectPhase} {outcome : TicketOutcome}
      (mem : i ∈ s.ticket.intents) (incomplete : s.completionForIntent i.tenantId i.intentId = none)
      (reports : Reports x s i phase outcome)
      (valid : validateSideEffectObservation (newObservation x.env i phase outcome) = true)
      (fresh : ∀ o ∈ s.ticket.observations, (newObservation x.env i phase outcome).clash o = false) :
      TicketStep x s
        { s.ticket with
          observations := s.ticket.observations ++ [newObservation x.env i phase outcome] }
  | complete {i : SideEffectIntent} {o : SideEffectObservation} {d : SideEffectCompletion}
      (mem : i ∈ s.ticket.intents) (incomplete : s.completionForIntent i.tenantId i.intentId = none)
      (observed : o ∈ s.ticket.observations)
      (owner : o.tenantId = i.tenantId ∧ o.intentId = i.intentId)
      (built : newCompletion x.env i o = some d) (valid : validateSideEffectCompletion d = true)
      (fresh : ∀ e ∈ s.ticket.completions, d.clash e = false) :
      TicketStep x s { s.ticket with completions := s.ticket.completions ++ [d] }

/-! ## The investigation -/

inductive InvestigationStep (x : Context) (s : WorkflowStore) : InvestigationTables → Prop
  | activation {a : WorkflowActivation} {c : Checkpoint} {manifest : ContextManifest}
      {transcriptId : String} (mem : a ∈ s.journal.activations) (about : x.call.about a = true)
      (latest : s.latestCheckpoint? a.tenantId a.workflowId = some c)
      (state : c.payload.currentState = .ticketReady)
      (valid : validateContextManifest manifest = true)
      (link : manifest.link.tenantId = a.tenantId ∧ manifest.link.caseId = a.caseId ∧
        manifest.link.caseRevisionId = a.caseRevisionId ∧ manifest.link.workflowId = a.workflowId ∧
        manifest.link.checkpointId = c.payload.checkpointId)
      (new : s.investigationActivation? a.tenantId a.workflowId = none)
      (fresh : ∀ i ∈ s.investigation.activations,
        (newInvestigation a manifest transcriptId).clash i = false) :
      InvestigationStep x s
        { s.investigation with
          activations := s.investigation.activations ++ [newInvestigation a manifest transcriptId] }
  | agentStep {a : WorkflowActivation} {c : Checkpoint} {investigation : InvestigationActivation}
      {action : AgentAction} (mem : a ∈ s.journal.activations) (about : x.call.about a = true)
      (latest : s.latestCheckpoint? a.tenantId a.workflowId = some c)
      (state : c.payload.currentState = .investigating)
      (stored : s.investigationActivation? a.tenantId a.workflowId = some investigation)
      (valid : validateAgentAction action investigation.manifest = true)
      (call : x.call = .recordAgentAction a.tenantId a.caseId action)
      (unmoved : s = { x.start with workflowProjection := s.workflowProjection })
      (found : s.activationForCaseForTenant a.tenantId a.caseId = some a)
      (new : s.existingAgentStep a.tenantId a.workflowId action.stepId = none)
      (fresh : ∀ y ∈ s.investigation.agentSteps, (newAgentStep a action).clash y = false) :
      InvestigationStep x s
        { s.investigation with
          agentSteps := s.investigation.agentSteps ++ [newAgentStep a action] }
  | toolExchange {a : WorkflowActivation} {c : Checkpoint} {investigation : InvestigationActivation}
      {request : ToolRequest} {result : ToolResult} {s' : WorkflowStore}
      (mem : a ∈ s.journal.activations) (about : x.call.about a = true)
      (latest : s.latestCheckpoint? a.tenantId a.workflowId = some c)
      (state : c.payload.currentState = .investigating)
      (stored : s.investigationActivation? a.tenantId a.workflowId = some investigation)
      (valid : validateToolRequest request investigation.manifest = true ∧
        validateToolResult result request = true)
      (call : x.call = .recordToolExchange a.tenantId a.caseId request result)
      (unmoved : s = { x.start with workflowProjection := s.workflowProjection })
      (found : s.activationForCaseForTenant a.tenantId a.caseId = some a)
      (new : s.existingToolResult a.tenantId request.toolRequestId = none)
      (within : (s.toolRequestsOf a.tenantId a.workflowId).length < investigation.manifest.toolBudget)
      (inserted : insertToolExchange a.tenantId a.workflowId request result s = .ok ((), s')) :
      InvestigationStep x s s'.investigation
  | candidate {a : WorkflowActivation} {c : Checkpoint} {investigation : InvestigationActivation}
      {candidate : ResponseCandidate} (mem : a ∈ s.journal.activations)
      (about : x.call.about a = true)
      (latest : s.latestCheckpoint? a.tenantId a.workflowId = some c)
      (state : c.payload.currentState = .investigating)
      (stored : s.investigationActivation? a.tenantId a.workflowId = some investigation)
      (valid : validateResponseCandidate candidate investigation.manifest = true)
      (single : ((s.agentStepsOf a.tenantId a.workflowId).filter
        (·.action.actionType = .responseCandidate)).length = 1)
      (fresh : ∀ y ∈ s.investigation.candidates,
        CandidateRow.clash ⟨a.tenantId, a.workflowId, candidate⟩ y = false) :
      InvestigationStep x s
        { s.investigation with
          candidates := s.investigation.candidates ++ [⟨a.tenantId, a.workflowId, candidate⟩] }
  | outcome {a : WorkflowActivation} {investigation : InvestigationActivation} {row : CandidateRow}
      {outcome : VerifierOutcome} (mem : a ∈ s.journal.activations) (about : x.call.about a = true)
      (stored : s.investigationActivation? a.tenantId a.workflowId = some investigation)
      (candidate : row ∈ s.candidatesOf a.tenantId a.workflowId)
      (built : outcome = newOutcome x.env a (candidatePayload a row)
        (verifierReason (s.agentStepsOf a.tenantId a.workflowId)
          ((s.toolResultsOf a.tenantId a.workflowId).map (·.result)) investigation.manifest
          (candidatePayload a row)))
      (valid : validateVerifierOutcome outcome (candidatePayload a row) = true)
      (fresh : ∀ y ∈ s.investigation.outcomes,
        OutcomeRow.clash ⟨a.tenantId, a.workflowId, outcome⟩ y = false) :
      InvestigationStep x s
        { s.investigation with
          outcomes := s.investigation.outcomes ++ [⟨a.tenantId, a.workflowId, outcome⟩] }

/-! ## Policy and approval -/

inductive PolicyStep (x : Context) (s : WorkflowStore) : PolicyTables → Prop
  | activation {a : WorkflowActivation} {c : Checkpoint} {candidate : ResponseCandidate}
      (mem : a ∈ s.journal.activations) (about : x.call.about a = true)
      (latest : s.latestCheckpoint? a.tenantId a.workflowId = some c)
      (state : c.payload.currentState = .responseReady) (tenant : a.tenantId = fixtureTenantId)
      (material : s.candidateMaterial a = some candidate)
      (new : s.policyActivationForWorkflow a.tenantId a.workflowId = none)
      (fresh : ∀ q ∈ s.policy.activations,
        (newPolicyActivation x.env a c.payload.checkpointId candidate).clash q = false) :
      PolicyStep x s
        { s.policy with
          activations := s.policy.activations ++
            [newPolicyActivation x.env a c.payload.checkpointId candidate] }
  | grant {a : WorkflowActivation} {p : PolicyActivation} {row : GrantRow}
      (mem : a ∈ s.journal.activations) (about : x.call.about a = true)
      (activation : s.policyActivationForWorkflow a.tenantId a.workflowId = some p)
      (built : row = ⟨a.tenantId, a.workflowId,
        issueFixtureGrant a.tenantId p.controllerSubjectId p.controllerRole x.env.now⟩)
      (valid : validateCapabilityGrant row.grant = true)
      (new : s.grantForWorkflow a.tenantId a.workflowId = none)
      (fresh : ∀ g ∈ s.policy.grants, row.clash g = false) :
      PolicyStep x s { s.policy with grants := s.policy.grants ++ [row] }
  | decision {a : WorkflowActivation} {p : PolicyActivation} {grant : SealedGrant}
      {candidate : ResponseCandidate} {source : Checkpoint} {d : SealedDecision} {c : Checkpoint}
      (mem : a ∈ s.journal.activations) (about : x.call.about a = true)
      (latest : s.latestCheckpoint? a.tenantId a.workflowId = some c)
      (activation : s.policyActivationForWorkflow a.tenantId a.workflowId = some p)
      (granted : s.grantForWorkflow a.tenantId a.workflowId = some grant)
      (material : s.candidateMaterial a = some candidate)
      (found : s.journal.checkpoints.find? (fun y => y.payload.tenantId = a.tenantId ∧
        y.payload.checkpointId = p.sourceCheckpointId) = some source)
      (evaluated : evaluateFixturePolicy (policyQuestion a p source.payload candidate
        (if s.grantIsActive a.tenantId grant.body.grantId then some grant else none)) x.env.now =
          some d)
      (new : (s.decisionsOf a.tenantId a.workflowId).find? (fun y => y.body.action = d.body.action ∧
        y.body.policyInputSha256 = d.body.policyInputSha256) = none)
      (fresh : ∀ y ∈ s.policy.decisions, decisionClash d y = false)
      (unmoved : s.policy.decisions = x.start.policy.decisions ∧
        s.policy.grantEvents = x.start.policy.grantEvents)
      (entered : x.call.recovers = true → EnteredAt x a c.payload.currentState ∧
        (c.payload.currentState = .responseReady ∨ c.payload.currentState = .awaitingApproval ∨
          c.payload.currentState = .delivering)) :
      PolicyStep x s { s.policy with decisions := s.policy.decisions ++ [d] }
  | binding {a : WorkflowActivation} {p : PolicyActivation} {grant : SealedGrant}
      {d : SealedDecision} {b : SealedBinding} (mem : a ∈ s.journal.activations)
      (about : x.call.about a = true)
      (activation : s.policyActivationForWorkflow a.tenantId a.workflowId = some p)
      (granted : s.grantForWorkflow a.tenantId a.workflowId = some grant)
      (decided : d ∈ s.decisionsOf a.tenantId a.workflowId) (allowed : d.body.decision = .allow)
      (built : bindFixtureAuthorization d grant p.deliveryBudget (x.env.now + minutes 15) x.env.now =
        some b)
      (new : s.bindingsOf a.tenantId a.workflowId = [])
      (fresh : ∀ y ∈ s.policy.bindings, bindingClash b y = false) :
      PolicyStep x s { s.policy with bindings := s.policy.bindings ++ [b] }
  | request {a : WorkflowActivation} {b : SealedBinding} {r : ApprovalRequest}
      (mem : a ∈ s.journal.activations) (about : x.call.about a = true)
      (bound : b ∈ s.bindingsOf a.tenantId a.workflowId)
      (built : buildApprovalRequest b x.env.now = some r)
      (new : s.approvalRequestForWorkflow a.tenantId a.workflowId = none)
      (fresh : ∀ y ∈ s.policy.requests, r.clash y = false) :
      PolicyStep x s { s.policy with requests := s.policy.requests ++ [r] }
  | approval {a : WorkflowActivation} {c : Checkpoint} {request : ApprovalRequest}
      {approverId approverRole : String} {verdict : ApprovalVerdict} {d : SealedApproval}
      (mem : a ∈ s.journal.activations) (about : x.call.about a = true)
      (latest : s.latestCheckpoint? a.tenantId a.workflowId = some c)
      (state : c.payload.currentState = .awaitingApproval)
      (requested : s.approvalRequestForWorkflow a.tenantId a.workflowId = some request)
      (start : s = x.start)
      (call : x.call = .submitApprovalDecision a.tenantId a.caseId request.approvalRequestId verdict
        c.payload.workflowVersion approverId approverRole)
      (built : buildApprovalDecision request approverId approverRole verdict x.env.now = some d)
      (new : s.approvalDecisionForRequest a.tenantId request.approvalRequestId = none)
      (fresh : ∀ y ∈ s.policy.approvals, approvalClash d y = false) :
      PolicyStep x s { s.policy with approvals := s.policy.approvals ++ [d] }
  | revoke {a : WorkflowActivation} {grant : SealedGrant} (mem : a ∈ s.journal.activations)
      (about : x.call.about a = true)
      (granted : s.grantForWorkflow a.tenantId a.workflowId = some grant)
      (fresh : ∀ e ∈ s.policy.grantEvents,
        (revocation x.env a.tenantId grant.body.grantId).clash e = false)
      (call : x.call = .revokeFixtureGrant a.tenantId a.caseId) :
      PolicyStep x s
        { s.policy with
          grantEvents := s.policy.grantEvents ++ [revocation x.env a.tenantId grant.body.grantId] }

/-! ## Outbound delivery -/

/-- Why a delivery may be executed: its authorization was checked in this store, or a recovery found
    the workflow in a reconciliation of its delivery. -/
inductive Executes (x : Context) (s : WorkflowStore) (a : WorkflowActivation) : Prop
  | authorized (now : s.deliveryAuthorized x.env.now a = true)
  | reconciling {s₁ : WorkflowStore} {c : Checkpoint} (recovers : x.call.recovers = true)
      (prepared : PreparedAt x a s₁)
      (latest : s₁.latestCheckpoint? a.tenantId a.workflowId = some c)
      (state : c.payload.currentState = .needsReconciliation)
      (resume : c.payload.resumeState = .delivering)
      (activation : (s₁.policyActivationForWorkflow a.tenantId a.workflowId).isSome = true)
      (unmoved : s.journal = s₁.journal ∧ s.policy = s₁.policy ∧
        s.investigation = s₁.investigation ∧ s.delivery.intents = s₁.delivery.intents ∧
        s.delivery.records = s₁.delivery.records ∧ s.delivery.operations = s₁.delivery.operations ∧
        s.delivery.completions = s₁.delivery.completions)

/-- What an observation of a delivery can report. -/
inductive DeliveryReports (x : Context) (s : WorkflowStore) (i : DeliveryIntent) :
    EffectPhase → DeliveryOutcome → Prop
  | timeout (injected : x.env.reconciliationTimeout = true) :
      DeliveryReports x s i .reconcileTimeout ⟨.unknown, none, none, none, .reconciliationTimeout⟩
  | reconciled : DeliveryReports x s i .reconcile (s.reconcileDeliveryIntent i)
  | executed {o : DeliveryOperation} {reason : DeliveryReason}
      (stored : s.deliveryOperation? i.tenantId i.idempotencyKey = some o) :
      DeliveryReports x s i .execute
        ⟨.present, some o.deliveryId, some o.observedVersion, some o.contentSha256, reason⟩
  | found {r : DeliveryRecord} {reason : DeliveryReason}
      (stored : r ∈ s.deliveryRecordsOf i.tenantId i.naturalKey) :
      DeliveryReports x s i .execute (r.outcome reason)

inductive DeliveryStep (x : Context) (s : WorkflowStore) : DeliveryTables → Prop
  | intent {a : WorkflowActivation} {c : Checkpoint} {b : SealedBinding}
      (mem : a ∈ s.journal.activations) (about : x.call.about a = true)
      (latest : s.latestCheckpoint? a.tenantId a.workflowId = some c)
      (state : c.payload.currentState = .delivering)
      (authorized : s.deliveryAuthorized x.env.now a = true)
      (bound : s.authorizationBindingForWorkflow a.tenantId a.workflowId = some b)
      (valid : validateOutboundDeliveryIntent (newDeliveryIntent x.env a c b) = true)
      (new : s.deliveryIntentForWorkflow a.tenantId a.workflowId = none)
      (fresh : ∀ j ∈ s.delivery.intents, (newDeliveryIntent x.env a c b).clash j = false) :
      DeliveryStep x s
        { s.delivery with intents := s.delivery.intents ++ [newDeliveryIntent x.env a c b] }
  | execute {a : WorkflowActivation} {i : DeliveryIntent} (about : x.call.about a = true)
      (mem : a ∈ s.journal.activations) (intent : i ∈ s.deliveryIntentsOf a.tenantId a.workflowId)
      (incomplete : s.deliveryCompletionForIntent i.tenantId i.intentId = none)
      (new : s.deliveryOperation? i.tenantId i.idempotencyKey = none)
      (absent : s.deliveryRecordsOf i.tenantId i.naturalKey = [])
      (freshRecord : ∀ r ∈ s.delivery.records, (newDeliveryRecord x.env i).clash r = false)
      (freshOperation : ∀ o ∈ s.delivery.operations,
        (newDeliveryOperation x.env i (newDeliveryRecord x.env i)).clash o = false)
      (calm : x.env.reconciliationTimeout = false) (executes : Executes x s a) :
      DeliveryStep x s
        { s.delivery with
          records := s.delivery.records ++ [newDeliveryRecord x.env i]
          operations := s.delivery.operations ++
            [newDeliveryOperation x.env i (newDeliveryRecord x.env i)] }
  | observe {a : WorkflowActivation} {i : DeliveryIntent} {phase : EffectPhase}
      {outcome : DeliveryOutcome} (mem : a ∈ s.journal.activations)
      (intent : i ∈ s.deliveryIntentsOf a.tenantId a.workflowId)
      (incomplete : s.deliveryCompletionForIntent i.tenantId i.intentId = none)
      (reports : DeliveryReports x s i phase outcome)
      (valid : validateOutboundDeliveryObservation (newDeliveryObservation x.env i phase outcome) =
        true)
      (fresh : ∀ o ∈ s.delivery.observations,
        (newDeliveryObservation x.env i phase outcome).clash o = false) :
      DeliveryStep x s
        { s.delivery with
          observations := s.delivery.observations ++ [newDeliveryObservation x.env i phase outcome] }
  | complete {a : WorkflowActivation} {i : DeliveryIntent} {o : DeliveryObservation}
      {d : DeliveryCompletion} (mem : a ∈ s.journal.activations)
      (intent : i ∈ s.deliveryIntentsOf a.tenantId a.workflowId)
      (incomplete : s.deliveryCompletionForIntent i.tenantId i.intentId = none)
      (observed : o ∈ s.delivery.observations)
      (owner : o.tenantId = i.tenantId ∧ ∃ phase outcome,
        o.observationId = (newDeliveryObservation x.env i phase outcome).observationId)
      (built : newDeliveryCompletion x.env i o = some d)
      (valid : validateOutboundDeliveryCompletion d = true)
      (fresh : ∀ e ∈ s.delivery.completions, d.clash e = false) :
      DeliveryStep x s { s.delivery with completions := s.delivery.completions ++ [d] }

/-! ## All transactions -/

/-- **One transaction** of the kernel. -/
inductive Effect (x : Context) (s : WorkflowStore) : Part → WorkflowStore → Prop
  | prepare {part : Part} {s' : WorkflowStore} (step : PrepareStep x s part s') : Effect x s part s'
  | intake {p : IntakePayload} {t : String} {ledger : LedgerStore}
      (accepted : LedgerStore.Accepted x.env.now p t s.ledger ledger) :
      Effect x s .ledger { s with ledger }
  | activate {projection : CaseProjection} {revision : CaseRevision} {event : BusinessEvent}
      {policy : SlaPolicy} {a : WorkflowActivation} {run : WorkflowRun}
      (projected : s.ledger.projection? projection.tenantId projection.caseId = some projection)
      (valid : validateCaseProjection projection = true)
      (received : projection.state = .received)
      (revised : revision ∈ s.ledger.revisionsOf projection.tenantId projection.caseId)
      (sourced : event ∈ s.ledger.eventRows projection.tenantId projection.caseId)
      (built : a = newActivation x.env projection revision.caseRevisionId event.eventId policy)
      (new : s.activationForCase a.tenantId a.caseId a.caseRevisionId = none)
      (fresh : ∀ b ∈ s.journal.activations, a.clash b = false)
      (run_eq : run = nextRun s.journal.runs a.tenantId a.workflowId .received .activated x.env.now)
      (freshRun : ∀ y ∈ s.journal.runs, run.clash y = false) :
      Effect x s .activation
        { s with
          journal :=
            { s.journal with
              activations := s.journal.activations ++ [a]
              runs := s.journal.runs ++ [run] } }
  | checkpoint {a : WorkflowActivation} {r : CheckpointRequest} (reason : Reason x s a r)
      (ok : CheckpointOk x s a r) (settled : x.call.recovers = true → Settled x s a) :
      Effect x s .checkpoint (s.withCheckpoint x.env a r)
  | slaEvent {a : WorkflowActivation} {c : Checkpoint}
      (mem : a ∈ s.journal.activations) (about : x.call.about a = true)
      (latest : s.latestCheckpoint? a.tenantId a.workflowId = some c)
      (fresh : ∀ y ∈ s.journal.slaEvents, (newSlaEvent x.env a c).clash y = false) :
      Effect x s .sla
        { s with
          journal := { s.journal with slaEvents := s.journal.slaEvents ++ [newSlaEvent x.env a c] } }
  | submission {a : WorkflowActivation} {observed : Checkpoint} {submission : CommandSubmission}
      {requestedAt : Instant} {command : WorkflowCommand}
      (call : x.call = .persistCommand a observed submission requestedAt) (start : s = x.start)
      (mem : a ∈ s.journal.activations) (built : command = newCommand a submission requestedAt x.env.now)
      (owner : submission.tenantId = a.tenantId ∧ submission.caseId = a.caseId)
      (valid : validateWorkflowCommand submission.tenantId submission.commandId = true)
      (new : ∀ y ∈ s.journal.commands, command.clash y = false)
      (version : (s.latestCheckpoint? a.tenantId a.workflowId).any
        (·.payload.workflowVersion = submission.expectedWorkflowVersion) = true)
      (admitted : commandAdmitted observed.payload submission.commandType
        (s.allPendingIds a.tenantId a.workflowId) = true) :
      Effect x s .submission
        { s with journal := { s.journal with commands := s.journal.commands ++ [command] } }
  | ticket {ticket : TicketTables} (step : TicketStep x s ticket) :
      Effect x s .ticket { s with ticket }
  | investigation {investigation : InvestigationTables} (step : InvestigationStep x s investigation) :
      Effect x s .investigation { s with investigation }
  | policy {policy : PolicyTables} (step : PolicyStep x s policy) :
      Effect x s .policy { s with policy }
  | delivery {delivery : DeliveryTables} (step : DeliveryStep x s delivery) :
      Effect x s .delivery { s with delivery }

/-- A transaction of one of the given parts. -/
def Effects (x : Context) (parts : Part → Bool) (s s' : WorkflowStore) : Prop :=
  ∃ part, parts part = true ∧ Effect x s part s'

theorem Effects.mono {x : Context} {parts parts' : Part → Bool} {s s' : WorkflowStore}
    (h : Effects x parts s s') (hp : ∀ p, parts p = true → parts' p = true) :
    Effects x parts' s s' :=
  ⟨h.choose, hp _ h.choose_spec.1, h.choose_spec.2⟩

theorem Call.writes_of_prepares {call : Call} {part : Part} (h : part.prepares = true) :
    call.writes part = true := by
  simp [Call.writes, h]

end WeFlow
