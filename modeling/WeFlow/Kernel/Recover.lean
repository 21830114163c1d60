import WeFlow.Kernel.Approval

/-!
# `Recover` — commands and recovery

`submitCommand` persists a command in one transaction and applies it in later ones; `recoverWorkflow`
re-establishes a workflow from durable rows only: it rebuilds both read models, synchronises the Case,
applies pending commands and then continues from the state it finds.

## Contents

* `applyPersistedCommand`, `recoverPendingCommands`, `submitCommand`.
* `recoverReconciliation`, `recoverFrom`, `recoverWorkflow`, `runCase`, `recoverAll`.
-/

namespace WeFlow

open Txn

/-! ## Commands -/

inductive CommandDisposition where
  | accepted | deduplicated | requiresReconciliation
  deriving DecidableEq, Repr

structure CommandResult where
  disposition : CommandDisposition
  projection : WorkflowProjection
  deriving DecidableEq, Repr

namespace WorkflowStore

/-- `_command_checkpoint_exists`. -/
def commandCheckpointExists (s : WorkflowStore) (tenantId : String) (workflowId : WorkflowId)
    (commandId : String) : Bool :=
  s.journal.checkpoints.any fun c => c.payload.tenantId = tenantId ∧
    c.payload.workflowId = workflowId ∧ c.causedBy commandId

end WorkflowStore

/-- The transition of a PAUSE, from the state it is applied in. -/
def pauseRequest (commandId : String) (current : CheckpointPayload) : TransitionRequest :=
  { transitionKind := .pause, nextState := .paused, resumeState := current.currentState,
    causationEventId := .command commandId }

def resumeRequest (commandId : String) (current : CheckpointPayload) : TransitionRequest :=
  { transitionKind := .resume, nextState := current.resumeState,
    resumeState := current.resumeState, causationEventId := .command commandId }

def cancelRequest (commandId : String) : TransitionRequest :=
  { transitionKind := .cancel, nextState := .cancelled, resumeState := .cancelled,
    causationEventId := .command commandId }

/-- The branch of `_apply_persisted_command` by type. A CANCEL with unresolved effects enters
    reconciliation instead, and one that meets a reconciliation leaves no checkpoint. -/
def applyCommand (env : Env) (a : WorkflowActivation) (c : Checkpoint) (commandId : String)
    (commandType : CommandType) : Kernel CommandDisposition :=
  match commandType with
  | .pause => do
      let _ ← transition env a c (pauseRequest commandId c.payload)
      pure .accepted
  | .resume => do
      let _ ← transition env a c (resumeRequest commandId c.payload)
      pure .accepted
  | .cancel => do
      let unresolved ← Prog.observe (·.allPendingIds a.tenantId a.workflowId)
      if unresolved ≠ ∅ then
        let _ ← enterReconciliation env a c (.command commandId)
        pure .requiresReconciliation
      else if c.payload.currentState = .needsReconciliation then pure .requiresReconciliation
      else
        let _ ← transition env a c (cancelRequest commandId)
        pure .accepted

/-- **`_apply_persisted_command`.** -/
def applyPersistedCommand (env : Env) (a : WorkflowActivation) (commandId : String)
    (commandType : CommandType) (expectedWorkflowVersion : Nat) : Kernel CommandResult := do
  let applied ← Prog.observe (·.commandCheckpointExists a.tenantId a.workflowId commandId)
  if applied then
    let projection ← requireWorkflowProjection a.tenantId a.workflowId
    pure ⟨.deduplicated, projection⟩
  else
    let latest ← Prog.observe (·.latestCheckpoint? a.tenantId a.workflowId)
    let latest ← Prog.need latest .workflowCommandRecoveryConflict
    Prog.check (latest.payload.workflowVersion = expectedWorkflowVersion)
      .workflowCommandRecoveryConflict
    let disposition ← applyCommand env a latest commandId commandType
    rebuildWorkflowProjection
    let projection ← requireWorkflowProjection a.tenantId a.workflowId
    pure ⟨disposition, projection⟩

/-- The loop of `_recover_pending_commands` over the commands read before it. -/
def applyPendingCommands (env : Env) (a : WorkflowActivation) : List WorkflowCommand → Kernel Unit
  | [] => pure ()
  | command :: rest => do
      let latest ← Prog.observe (·.latestCheckpoint? a.tenantId a.workflowId)
      let latest ← Prog.need latest .workflowCommandRecoveryConflict
      if command.commandType = .cancel ∧ latest.payload.currentState = .needsReconciliation then
        applyPendingCommands env a rest
      else
        let applied ← Prog.observe
          (·.commandCheckpointExists a.tenantId a.workflowId command.commandId)
        if applied then applyPendingCommands env a rest
        else
          let _ ← applyPersistedCommand env a command.commandId command.commandType
            command.expectedWorkflowVersion
          applyPendingCommands env a rest

/-- **`_recover_pending_commands`.** -/
def recoverPendingCommands (env : Env) (a : WorkflowActivation) : Kernel Checkpoint := do
  let commands ← Prog.observe (·.commandsOf a.tenantId a.workflowId)
  applyPendingCommands env a commands
  let latest ← Prog.observe (·.latestCheckpoint? a.tenantId a.workflowId)
  Prog.need latest .workflowJournalInvalid

/-- What a caller submits. -/
structure CommandSubmission where
  tenantId : String
  caseId : CaseId
  commandId : String
  commandType : CommandType
  expectedWorkflowVersion : Nat
  deriving DecidableEq, Repr

/-- The first part of `submit_command`: the activation and the checkpoint it observes. -/
def observeForCommand (env : Env) (c : CommandSubmission) :
    Kernel (WorkflowActivation × Checkpoint) := do
  Prog.check (nonEmpty c.commandId) .workflowCommandNotAllowlisted
  let activation ← Prog.observe (·.activationForCaseForTenant c.tenantId c.caseId)
  let activation ← Prog.need activation .notFound
  let latest ← Prog.observe (·.latestCheckpoint? c.tenantId activation.workflowId)
  match latest with
  | some latest => pure (activation, latest)
  | none =>
      let first ← ensureCheckpoint env activation (initialRequest activation)
      rebuildWorkflowProjection
      pure (activation, first)

def newCommand (a : WorkflowActivation) (c : CommandSubmission) (requestedAt acceptedAt : Instant) :
    WorkflowCommand :=
  let commandPayloadSha256 : Digest CommandPayloadMaterial :=
    sha256 ⟨c.caseId, c.commandType, c.expectedWorkflowVersion⟩
  { tenantId := c.tenantId, workflowId := a.workflowId, commandId := c.commandId,
    commandType := c.commandType, expectedWorkflowVersion := c.expectedWorkflowVersion,
    commandPayloadSha256,
    commandFingerprint := sha256
      ⟨c.commandId, c.commandType, c.expectedWorkflowVersion, commandPayloadSha256⟩,
    requestedAt, acceptedAt }

/-- Whether the observed checkpoint admits the command. -/
def commandAdmitted (current : CheckpointPayload) (commandType : CommandType)
    (unresolved : Finset EffectId) : Bool :=
  match commandType with
  | .pause => transitionAllowed current.currentState .pause .paused (some current.currentState) false
  | .resume =>
      transitionAllowed current.currentState .resume current.resumeState (some current.resumeState)
        false
  | .cancel =>
      unresolved ≠ ∅ ∨ current.currentState = .needsReconciliation ∨
        transitionAllowed current.currentState .cancel .cancelled (some .cancelled) false

/-- The transaction of `submit_command`, on the checkpoint observed before it. The version is compared
    with the stored one; the state is the observed checkpoint's. -/
def insertCommand (command : WorkflowCommand) (current : CheckpointPayload) (s : WorkflowStore) :
    Except WorkflowError (Unit × WorkflowStore) :=
  match s.journal.commands.find? fun x => x.tenantId = command.tenantId ∧
      x.workflowId = command.workflowId ∧ x.commandId = command.commandId with
  | some existing => do
      require (existing.commandType = command.commandType ∧
        existing.expectedWorkflowVersion = command.expectedWorkflowVersion ∧
        existing.commandPayloadSha256 = command.commandPayloadSha256 ∧
        existing.commandFingerprint = command.commandFingerprint) .workflowCommandConflict
      pure ((), s)
  | none => do
      require ((s.latestCheckpoint? command.tenantId command.workflowId).any
        (·.payload.workflowVersion = command.expectedWorkflowVersion)) .workflowVersionConflict
      require (commandAdmitted current command.commandType
        (s.allPendingIds command.tenantId command.workflowId)) .workflowTransitionNotAllowed
      let commands ← fetch (Table.insert? WorkflowCommand.clash command s.journal.commands)
        .workflowCommandFailed
      pure ((), { s with journal := { s.journal with commands } })

/-- The second part of `submit_command`. -/
def persistCommand (env : Env) (a : WorkflowActivation) (observed : Checkpoint)
    (c : CommandSubmission) (requestedAt : Instant) : Kernel Unit := do
  Prog.check (validateWorkflowCommand c.tenantId c.commandId) .workflowCommandInvalid
  Prog.atomically (insertCommand (newCommand a c requestedAt env.now) observed.payload)

/-- **`submit_command`.** The disposition of a repeated command is `deduplicated` whatever is applied;
    nothing else depends on it. -/
def submitCommand (env : Env) (c : CommandSubmission) : Kernel CommandResult := do
  let (activation, observed) ← observeForCommand env c
  persistCommand env activation observed c env.now
  applyPersistedCommand env activation c.commandId c.commandType c.expectedWorkflowVersion

/-! ## Recovery -/

/-- The way out of a reconciliation once no ticket effect is unresolved: with the ticket effects
    completed and nothing pending. -/
def completeReconciliation (env : Env) (a : WorkflowActivation) (c : Checkpoint) :
    Kernel Checkpoint := do
  let completed ← Prog.observe (·.completedTicketIds a.tenantId a.workflowId)
  transition env a c
    { transitionKind := .reconciliationComplete, nextState := c.payload.resumeState,
      resumeState := c.payload.resumeState, causationEventId := .reconciliationKnownOutcome,
      pendingIntentIds := some ∅, completedIntentIds := some completed }

/-- **`_recover_reconciliation`**, up to its call back into `_recover_workflow`. -/
def recoverReconciliation (env : Env) (a : WorkflowActivation) (c : Checkpoint)
    (resume : Checkpoint → Kernel (Option WorkflowProjection)) :
    Kernel (Option WorkflowProjection) := do
  let unresolved ← Prog.observe (·.unresolvedIntentIds env a.tenantId a.workflowId)
  match unresolved with
  | [] =>
      let resumed ← completeReconciliation env a c
      resume resumed
  | first :: _ =>
      let intent ← Prog.observe fun s => s.ticket.intents.find? fun i =>
        i.tenantId = a.tenantId ∧ i.intentId = first
      let intent ← Prog.need intent .workflowJournalInvalid
      let completion ← processIntent env intent
      match completion with
      | none => getWorkflowProjection a.tenantId a.workflowId
      | some _ =>
          let unresolved ← Prog.observe (·.unresolvedIntentIds env a.tenantId a.workflowId)
          if unresolved ≠ [] then getWorkflowProjection a.tenantId a.workflowId
          else
            let resumed ← completeReconciliation env a c
            resume resumed

namespace WorkflowStore

/-- The handoff intent of a workflow is completed. -/
def handoffComplete (s : WorkflowStore) (tenantId : String) (workflowId : WorkflowId) : Bool :=
  (s.intentForOperation tenantId workflowId .workflowHandoff).any fun i =>
    (s.completionForIntent tenantId i.intentId).isSome

end WorkflowStore

/-- Drive both ticket effects, then leave `RECEIVED`. -/
def driveTicket (env : Env) (a : WorkflowActivation) (c : Checkpoint) :
    Kernel (Option WorkflowProjection) := do
  let (c, findComplete) ← driveEffect env a c .findOrCreate
  if ¬ findComplete then getWorkflowProjection a.tenantId a.workflowId
  else
    let (c, handoffComplete) ← driveEffect env a c .workflowHandoff
    if ¬ handoffComplete then getWorkflowProjection a.tenantId a.workflowId
    else
      let _ ← transition env a c
        { transitionKind := .ticketHandoffComplete, nextState := .ticketReady,
          resumeState := .ticketReady, causationEventId := .ticketHandoffComplete }
      getWorkflowProjection a.tenantId a.workflowId

/-- The SLA of a workflow has expired where its expiry still counts. -/
def slaExpired (env : Env) (a : WorkflowActivation) (state : WorkflowState)
    (handoffComplete : Bool) : Bool :=
  a.slaDeadlineAt ≤ env.now ∧ ¬ handoffComplete ∧ state ≠ .waitingForOperator ∧
  state ≠ .needsReconciliation ∧ state ≠ .cancelled

def expireSla (env : Env) (a : WorkflowActivation) (c : Checkpoint) :
    Kernel (Option WorkflowProjection) := do
  recordSlaExpiry env a c
  let _ ← transition env a c
    { transitionKind := .slaExpired, nextState := .waitingForOperator,
      resumeState := .waitingForOperator, causationEventId := .slaExpired }
  getWorkflowProjection a.tenantId a.workflowId

/-- `_recover_workflow` by state; `reconcile` is its branch for a ticket reconciliation. -/
def recoverState (env : Env) (a : WorkflowActivation) (c : Checkpoint)
    (reconcile : Kernel (Option WorkflowProjection)) : Kernel (Option WorkflowProjection) := do
  let handoffComplete ← Prog.observe (·.handoffComplete a.tenantId a.workflowId)
  if slaExpired env a c.payload.currentState handoffComplete then expireSla env a c
  else
    let policyActivation ← Prog.observe (·.policyActivationForWorkflow a.tenantId a.workflowId)
    match c.payload.currentState with
    | .needsReconciliation =>
        if policyActivation.isSome ∧ c.payload.resumeState = .delivering then
          some <$> recoverDeliveryReconciliation env a c
        else reconcile
    | .responseReady =>
        if policyActivation.isSome then some <$> recoverPolicyApproval env a
        else getWorkflowProjection a.tenantId a.workflowId
    | .awaitingApproval | .delivering =>
        if policyActivation.isSome then some <$> recoverPolicyApproval env a
        else Prog.raise .policyJournalInvalid
    | .ticketReady | .investigating => recoverInvestigation env a c
    | .paused | .waitingForOperator | .cancelled | .deliveryRecorded =>
        getWorkflowProjection a.tenantId a.workflowId
    | .received => driveTicket env a c

/-- **`_recover_workflow`.** A completed reconciliation never resumes into a reconciliation
    (`resumeTarget` excludes it), so the source's recursion is one level deep. -/
def recoverFrom (env : Env) (a : WorkflowActivation) (c : Checkpoint) :
    Kernel (Option WorkflowProjection) :=
  recoverState env a c <|
    recoverReconciliation env a c fun resumed =>
      recoverState env a resumed (Prog.raise .workflowStateNotAllowlisted)

/-- `rebuild_projection` of the Case ledger, as a transaction of the kernel. -/
def rebuildCaseProjection : Kernel Unit :=
  Prog.atomically fun s =>
    match s.ledger.rebuildProjection with
    | .ok ledger => .ok ((), { s with ledger })
    | .error reason => .error (.ledger reason)

/-- The latest checkpoint of an activation, appended now if there is none. -/
def ensureLatestCheckpoint (env : Env) (a : WorkflowActivation) : Kernel Checkpoint := do
  let latest ← Prog.observe (·.latestCheckpoint? a.tenantId a.workflowId)
  match latest with
  | some latest => pure latest
  | none => ensureCheckpoint env a (initialRequest a)

/-- **`recover_workflow`.** -/
def recoverWorkflow (env : Env) (tenantId : String) (workflowId : WorkflowId) :
    Kernel (Option WorkflowProjection) := do
  rebuildCaseProjection
  rebuildWorkflowProjection
  let activation ← Prog.observe (·.activation? tenantId workflowId)
  let activation ← Prog.need activation .notFound
  let checkpoint ← ensureLatestCheckpoint env activation
  syncCaseState activation checkpoint
  rebuildWorkflowProjection
  let checkpoint ← recoverPendingCommands env activation
  recoverFrom env activation checkpoint

/-- **`run_case`.** -/
def runCase (env : Env) (tenantId : String) (caseId : CaseId) (caseRevisionId : CaseRevisionId)
    (slaPolicy : Option SlaPolicy) : Kernel (Option WorkflowProjection) := do
  let (workflowId, _) ← activateCase env tenantId caseId caseRevisionId slaPolicy
  recoverWorkflow env tenantId workflowId

namespace WorkflowStore

/-- The cases `_activate_pending_cases` finds: received, with a first revision and no activation. -/
def pendingCases (s : WorkflowStore) : List CaseRevision :=
  s.ledger.caseRevisions.filter fun r => r.revision = 1 ∧
    (s.ledger.caseProjection.any fun p =>
      p.tenantId = r.tenantId ∧ p.caseId = r.caseId ∧ p.state = .received) ∧
    s.activationForCase r.tenantId r.caseId r.caseRevisionId = none

end WorkflowStore

/-- `_activate_pending_cases`. -/
def activatePendingCases (env : Env) : List CaseRevision → Kernel Unit
  | [] => pure ()
  | r :: rest => do
      let _ ← runCase env r.tenantId r.caseId r.caseRevisionId none
      activatePendingCases env rest

def recoverEach (env : Env) : List WorkflowActivation → Kernel Unit
  | [] => pure ()
  | a :: rest => do
      let _ ← recoverWorkflow env a.tenantId a.workflowId
      recoverEach env rest

/-- **`recover_all`.** Both queries order by identifiers, whose text order the environment gives; the
    pending cases are ordered through their workflows' identifiers. -/
def recoverAll (env : Env) : Kernel Unit := do
  let pending ← Prog.observe (·.pendingCases)
  activatePendingCases env <| pending.insertionSort fun a b => a.tenantId < b.tenantId ∨
    a.tenantId = b.tenantId ∧ env.workflowIdLE
      (workflowIdOf a.tenantId a.caseId a.caseRevisionId)
      (workflowIdOf b.tenantId b.caseId b.caseRevisionId)
  let activations ← Prog.observe (·.journal.activations)
  recoverEach env <| activations.insertionSort fun a b => a.tenantId < b.tenantId ∨
    a.tenantId = b.tenantId ∧ env.workflowIdLE a.workflowId b.workflowId

end WeFlow
