import WeFlow.Kernel.Authorization
import WeFlow.Kernel.Ticket

/-!
# `Delivery` — the fixture-local outbound delivery

The delivery effect follows the ticket effect's protocol over its own tables. `recoverDelivery` checks
the authorization before it processes the intent; `recoverDeliveryReconciliation`, the way back from a
reconciliation timeout, processes the stored intent first.
-/

namespace WeFlow

open Txn

namespace WorkflowStore

/-- `_delivery_intent_for_workflow`. -/
def deliveryIntentForWorkflow (s : WorkflowStore) (tenantId : String) (workflowId : WorkflowId) :
    Option DeliveryIntent :=
  (s.deliveryIntentsOf tenantId workflowId).head?

/-- `_delivery_completion_for_intent`. -/
def deliveryCompletionForIntent (s : WorkflowStore) (tenantId : String)
    (intentId : DeliveryIntentId) : Option DeliveryCompletion :=
  (s.deliveryCompletionsOf tenantId intentId).head?

end WorkflowStore

/-! ## Intents -/

def newDeliveryIntent (env : Env) (a : WorkflowActivation) (c : Checkpoint)
    (binding : SealedBinding) : DeliveryIntent :=
  let b := binding.body
  let naturalKey : DeliveryNaturalKey :=
    ⟨a.tenantId, a.caseId, a.caseRevisionId, b.candidateHash, binding.hash⟩
  let intendedStateHash : Digest DeliveryStateMaterial := sha256 ⟨b.candidateHash, binding.hash⟩
  { tenantId := a.tenantId, caseId := a.caseId, caseRevisionId := a.caseRevisionId,
    workflowId := a.workflowId, checkpointId := c.payload.checkpointId,
    intentId := stableIdentifier ⟨a.workflowId, naturalKey⟩, candidateHash := b.candidateHash,
    authorizationBindingSha256 := binding.hash, naturalKey, intendedStateHash,
    idempotencyKey := sha256 ⟨a.tenantId, naturalKey, intendedStateHash⟩,
    evidenceHashes := b.evidenceHashes, correlationId := a.correlationId, createdAt := env.now }

def insertDeliveryIntent (i : DeliveryIntent) (s : WorkflowStore) :
    Except WorkflowError (DeliveryIntent × WorkflowStore) :=
  match s.deliveryIntentForWorkflow i.tenantId i.workflowId with
  | some existing => .ok (existing, s)
  | none => do
      let intents ← fetch (Table.insert? DeliveryIntent.clash i s.delivery.intents)
        .outboundDeliveryIntentPersistFailed
      pure (i, { s with delivery := { s.delivery with intents } })

/-- **`_ensure_delivery_intent`.** -/
def ensureDeliveryIntent (env : Env) (a : WorkflowActivation) (c : Checkpoint)
    (binding : SealedBinding) : Kernel DeliveryIntent := do
  let existing ← Prog.observe (·.deliveryIntentForWorkflow a.tenantId a.workflowId)
  match existing with
  | some existing => pure existing
  | none =>
      let intent := newDeliveryIntent env a c binding
      Prog.check (validateOutboundDeliveryIntent intent) .outboundDeliveryIntentInvalid
      Prog.atomically (insertDeliveryIntent intent)

/-! ## The delivery store -/

structure DeliveryOutcome where
  status : OutcomeStatus
  deliveryId : Option DeliveryId
  version : Option Nat
  contentSha256 : Option Sha256Hex
  reasonCode : DeliveryReason
  deriving DecidableEq, Repr

def DeliveryRecord.outcome (r : DeliveryRecord) (reason : DeliveryReason) : DeliveryOutcome :=
  ⟨.present, some r.deliveryId, some r.version, some r.contentSha256, reason⟩

namespace WorkflowStore

/-- The records under a natural key, by version. -/
def deliveryRecordsOf (s : WorkflowStore) (tenantId : String) (naturalKey : DeliveryNaturalKey) :
    List DeliveryRecord :=
  (s.delivery.records.filter fun r =>
    r.tenantId = tenantId ∧ r.naturalKey = naturalKey).insertionSort
      fun a b => a.version ≤ b.version

def deliveryOperation? (s : WorkflowStore) (tenantId : String)
    (idempotencyKey : Digest DeliveryKeyMaterial) : Option DeliveryOperation :=
  s.delivery.operations.find? fun o => o.tenantId = tenantId ∧ o.idempotencyKey = idempotencyKey

/-- **`_reconcile_delivery_intent`.** -/
def reconcileDeliveryIntent (s : WorkflowStore) (i : DeliveryIntent) : DeliveryOutcome :=
  match s.deliveryRecordsOf i.tenantId i.naturalKey with
  | [] => ⟨.absent, none, none, none, .absent⟩
  | [row] =>
      if row.version = 1 then row.outcome .present else ⟨.conflict, none, none, none, .conflict⟩
  | _ => ⟨.conflict, none, none, none, .conflict⟩

end WorkflowStore

def newDeliveryRecord (env : Env) (i : DeliveryIntent) : DeliveryRecord :=
  { tenantId := i.tenantId, deliveryId := stableIdentifier ⟨i.tenantId, i.naturalKey⟩,
    naturalKey := i.naturalKey, version := 1, contentSha256 := i.candidateHash,
    dataClassification := .synthetic, createdAt := env.now }

def newDeliveryOperation (env : Env) (i : DeliveryIntent) (r : DeliveryRecord) : DeliveryOperation :=
  { tenantId := i.tenantId, idempotencyKey := i.idempotencyKey, naturalKey := i.naturalKey,
    deliveryId := r.deliveryId, observedVersion := r.version, contentSha256 := r.contentSha256,
    createdAt := env.now }

/-- **`_execute_delivery_intent`.** -/
def executeDeliveryIntent (env : Env) (i : DeliveryIntent) (s : WorkflowStore) :
    Except WorkflowError (DeliveryOutcome × WorkflowStore) :=
  match s.deliveryOperation? i.tenantId i.idempotencyKey with
  | some o => .ok (⟨.present, some o.deliveryId, some o.observedVersion, some o.contentSha256,
      .idempotent⟩, s)
  | none =>
      match (s.deliveryRecordsOf i.tenantId i.naturalKey).head? with
      | some r => .ok (r.outcome .reconciled, s)
      | none => do
          let record := newDeliveryRecord env i
          let records ← fetch (Table.insert? DeliveryRecord.clash record s.delivery.records)
            .fixtureDeliveryExecuteFailed
          let operations ← fetch (Table.insert? DeliveryOperation.clash
            (newDeliveryOperation env i record) s.delivery.operations)
            .fixtureDeliveryExecuteFailed
          pure (record.outcome .recorded, { s with delivery := { s.delivery with records, operations } })

/-! ## Observations and completions -/

def newDeliveryObservation (env : Env) (i : DeliveryIntent) (phase : EffectPhase)
    (outcome : DeliveryOutcome) : DeliveryObservation :=
  { tenantId := i.tenantId, caseId := i.caseId, caseRevisionId := i.caseRevisionId,
    workflowId := i.workflowId, checkpointId := i.checkpointId,
    observationId := stableIdentifier ⟨i.intentId, phase, outcome.status, outcome.deliveryId⟩,
    intentId := i.intentId, status := outcome.status, observedDeliveryId := outcome.deliveryId,
    observedVersion := outcome.version, contentSha256 := outcome.contentSha256,
    reasonCode := outcome.reasonCode, recordedAt := env.now }

def insertDeliveryObservation (o : DeliveryObservation) (s : WorkflowStore) :
    Except WorkflowError (DeliveryObservation × WorkflowStore) :=
  match s.delivery.observations.find? fun x =>
      x.tenantId = o.tenantId ∧ x.observationId = o.observationId with
  | some existing => .ok (existing, s)
  | none => do
      let observations ← fetch (Table.insert? DeliveryObservation.clash o s.delivery.observations)
        .outboundDeliveryObservationPersistFailed
      pure (o, { s with delivery := { s.delivery with observations } })

/-- **`_record_delivery_observation`.** -/
def recordDeliveryObservation (env : Env) (i : DeliveryIntent) (phase : EffectPhase)
    (outcome : DeliveryOutcome) : Kernel DeliveryObservation := do
  let observation := newDeliveryObservation env i phase outcome
  Prog.check (validateOutboundDeliveryObservation observation) .outboundDeliveryObservationInvalid
  Prog.atomically (insertDeliveryObservation observation)

def newDeliveryCompletion (env : Env) (i : DeliveryIntent) (o : DeliveryObservation) :
    Option DeliveryCompletion :=
  match o.status, o.observedDeliveryId, o.observedVersion, o.contentSha256 with
  | .present, some observedDeliveryId, some observedVersion, some contentSha256 =>
      some
        { tenantId := i.tenantId, caseId := i.caseId, caseRevisionId := i.caseRevisionId,
          workflowId := i.workflowId, checkpointId := i.checkpointId,
          completionId := stableIdentifier ⟨i.intentId⟩, intentId := i.intentId,
          observationId := o.observationId, observedDeliveryId, observedVersion, contentSha256,
          completedAt := env.now }
  | _, _, _, _ => none

/-- The transaction of `_record_delivery_completion`; `true` when the row was there before. -/
def insertDeliveryCompletion (c : DeliveryCompletion) (s : WorkflowStore) :
    Except WorkflowError ((DeliveryCompletion × Bool) × WorkflowStore) :=
  match s.deliveryCompletionForIntent c.tenantId c.intentId with
  | some existing => .ok ((existing, true), s)
  | none => do
      let completions ← fetch (Table.insert? DeliveryCompletion.clash c s.delivery.completions)
        .outboundDeliveryCompletionPersistFailed
      pure ((c, false), { s with delivery := { s.delivery with completions } })

/-- **`_record_delivery_completion`**: a new completion's chain is validated after it is stored. -/
def recordDeliveryCompletion (env : Env) (i : DeliveryIntent) (o : DeliveryObservation) :
    Kernel DeliveryCompletion := do
  let completion ← Prog.need (newDeliveryCompletion env i o)
    .outboundDeliveryCompletionPredecessorInvalid
  Prog.check (validateOutboundDeliveryCompletion completion) .outboundDeliveryCompletionInvalid
  let (stored, existed) ← Prog.atomically (insertDeliveryCompletion completion)
  if existed then pure stored
  else
    let binding ← Prog.observe (·.authorizationBindingForWorkflow i.tenantId i.workflowId)
    let binding ← Prog.need binding .policyJournalInvalid
    let observations ← Prog.observe (·.deliveryObservationsOf i.tenantId i.intentId)
    Prog.check (validateOutboundDeliveryChain i observations [completion] binding)
      .outboundDeliveryChainInvalid
    pure completion

/-- **`_process_delivery_intent`**: the completion, or `none` when the effect is blocked. -/
def processDeliveryIntent (env : Env) (i : DeliveryIntent) : Kernel (Option DeliveryCompletion) := do
  let existing ← Prog.observe (·.deliveryCompletionForIntent i.tenantId i.intentId)
  match existing with
  | some completion => pure (some completion)
  | none =>
      if env.reconciliationTimeout then
        let _ ← recordDeliveryObservation env i .reconcileTimeout
          ⟨.unknown, none, none, none, .reconciliationTimeout⟩
        pure none
      else
        let reconciled ← Prog.observe (·.reconcileDeliveryIntent i)
        let observation ← recordDeliveryObservation env i .reconcile reconciled
        match reconciled.status with
        | .unknown | .conflict => pure none
        | .present =>
            let completion ← recordDeliveryCompletion env i observation
            pure (some completion)
        | .absent =>
            let outcome ← Prog.atomically (executeDeliveryIntent env i)
            let observation ← recordDeliveryObservation env i .execute outcome
            if outcome.status ≠ .present then pure none
            else
              let completion ← recordDeliveryCompletion env i observation
              pure (some completion)

/-! ## Recovery -/

/-- A transition that records all effects of the workflow. -/
def transitionWithEffects (env : Env) (a : WorkflowActivation) (c : Checkpoint)
    (r : TransitionRequest) : Kernel Checkpoint := do
  let pending ← Prog.observe (·.allPendingIds a.tenantId a.workflowId)
  let completed ← Prog.observe (·.allCompletedIds a.tenantId a.workflowId)
  transition env a c { r with pendingIntentIds := some pending, completedIntentIds := some completed }

/-- **`_authorization_denial_projection`.** -/
def authorizationDenialProjection (env : Env) (a : WorkflowActivation) (c : Checkpoint)
    (reason : DenialReason) : Kernel WorkflowProjection := do
  if c.payload.currentState ≠ .awaitingApproval ∧ c.payload.currentState ≠ .delivering then
    requireWorkflowProjection a.tenantId a.workflowId
  else
    let _ ← transitionWithEffects env a c
      { transitionKind := .authorizationDenied, nextState := .waitingForOperator,
        resumeState := .waitingForOperator, causationEventId := .authorizationDenied reason }
    requireWorkflowProjection a.tenantId a.workflowId

/-- A checkpoint in `DELIVERING` that records all effects of the workflow. -/
def ensureDeliveryProgress (env : Env) (a : WorkflowActivation) (cause : CheckpointCause) :
    Kernel Checkpoint := do
  let pendingIntentIds ← Prog.observe (·.allPendingIds a.tenantId a.workflowId)
  let completedIntentIds ← Prog.observe (·.allCompletedIds a.tenantId a.workflowId)
  ensureCheckpoint env a
    { currentState := .delivering, resumeState := .delivering, pendingIntentIds,
      completedIntentIds, causationEventId := cause, transitionKind := none }

/-- The part of `_recover_delivery` behind its authorization checks. -/
def deliver (env : Env) (a : WorkflowActivation) (c : Checkpoint) (binding : SealedBinding) :
    Kernel WorkflowProjection := do
  let intent ← ensureDeliveryIntent env a c binding
  let c ← ensureDeliveryProgress env a (.deliveryIntent intent.intentId)
  let completion ← processDeliveryIntent env intent
  match completion with
  | none =>
      let _ ← transitionWithEffects env a c
        { transitionKind := .reconciliationRequired, nextState := .needsReconciliation,
          resumeState := .delivering, causationEventId := .deliveryReconciliation intent.intentId }
      requireWorkflowProjection a.tenantId a.workflowId
  | some completion =>
      let c ← ensureDeliveryProgress env a (.deliveryCompletion completion.completionId)
      let _ ← transition env a c
        { transitionKind := .deliveryComplete, nextState := .deliveryRecorded,
          resumeState := .deliveryRecorded,
          causationEventId := .deliveryCompletion completion.completionId }
      requireWorkflowProjection a.tenantId a.workflowId

/-- **`_recover_delivery`.** -/
def recoverDelivery (env : Env) (a : WorkflowActivation) (c : Checkpoint) :
    Kernel WorkflowProjection := do
  if c.payload.currentState ≠ .delivering then requireWorkflowProjection a.tenantId a.workflowId
  else
    let binding ← Prog.observe (·.authorizationBindingForWorkflow a.tenantId a.workflowId)
    let grant ← Prog.observe (·.grantForWorkflow a.tenantId a.workflowId)
    let policy ← Prog.observe (·.policyDecisionForWorkflow a.tenantId a.workflowId)
    let request ← Prog.observe (·.approvalRequestForWorkflow a.tenantId a.workflowId)
    match binding, grant, policy, request with
    | some binding, some grant, some policy, some request =>
        let approval ← Prog.observe
          (·.approvalDecisionForRequest a.tenantId request.approvalRequestId)
        let profile ← Prog.observe
          (·.authorizationProfileIsCurrent env.now a binding policy grant)
        match approval with
        | none => authorizationDenialProjection env a c .stale
        | some approval =>
            if ¬ profile then authorizationDenialProjection env a c .stale
            else
              let candidate ← Prog.observe (·.candidateMaterial a)
              let candidate ← Prog.need candidate .policyContinuationPredecessorInvalid
              if ¬ WorkflowStore.approvalIsCurrent env.now a request approval binding candidate then
                authorizationDenialProjection env a c .approval
              else deliver env a c binding
    | _, _, _, _ => authorizationDenialProjection env a c .missing

/-- **`_recover_delivery_reconciliation`**: the stored intent is processed as it is. -/
def recoverDeliveryReconciliation (env : Env) (a : WorkflowActivation) (c : Checkpoint) :
    Kernel WorkflowProjection := do
  let intent ← Prog.observe (·.deliveryIntentForWorkflow a.tenantId a.workflowId)
  let intent ← Prog.need intent .policyJournalInvalid
  let completion ← processDeliveryIntent env intent
  match completion with
  | none => requireWorkflowProjection a.tenantId a.workflowId
  | some completion =>
      let c ← transitionWithEffects env a c
        { transitionKind := .reconciliationComplete, nextState := .delivering,
          resumeState := .delivering,
          causationEventId := .deliveryReconciled completion.completionId }
      recoverDelivery env a c

end WeFlow
