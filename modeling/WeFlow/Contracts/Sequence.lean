import WeFlow.Base.KeyedFold
import WeFlow.Contracts.Judgement

/-!
# `Sequence` — checkpoint chains, intent lists and effect chains in both languages

`workflow.py` and `index.ts` fold over a workflow's checkpoints, over its intents and over the observations and
completions of one intent. The two folds over a workflow keep its identity beside what they have seen: Python
as the tuple of four fields, TypeScript as the four texts joined by a zero character, which two different
tuples may share.

## Contents

* `Python.validateCheckpointSequence` …, `TypeScript.validateCheckpointSequence` … — the validators.
* `Links`, `InOrder`, `Fresh`, `Unrepeated` — what both languages require apart from the identity.
* `sequence_judged`, `intents_judged` — when they judge alike; `effect_chain_alike` — they do.
-/

namespace WeFlow

open Txn

/-! ## Schemas -/

def workflowCheckpointSchema : ContractSchema where
  name := "workflow-checkpoint"
  required :=
    [("schema_id", .const (contractSchemaId "workflow-checkpoint")), ("schema_version", .const "v1"),
     ("tenant_id", .text 1), ("case_id", .text 1), ("case_revision_id", .text 1), ("workflow_id", .text 1),
     ("workflow_definition_version", .text 1), ("checkpoint_id", .text 1),
     ("checkpoint_sequence", .integer 1), ("previous_checkpoint_id", .nullable (.text 0)),
     ("current_state", .enum
        ["RECEIVED", "TICKET_READY", "INVESTIGATING", "RESPONSE_READY", "PAUSED", "WAITING_FOR_OPERATOR",
         "NEEDS_RECONCILIATION", "CANCELLED", "AWAITING_APPROVAL", "DELIVERING", "DELIVERY_RECORDED"]),
     ("resume_state", .enum
        ["RECEIVED", "TICKET_READY", "INVESTIGATING", "RESPONSE_READY", "WAITING_FOR_OPERATOR",
         "NEEDS_RECONCILIATION", "CANCELLED", "AWAITING_APPROVAL", "DELIVERING", "DELIVERY_RECORDED"]),
     ("workflow_version", .integer 0), ("sla_deadline_at", .text 1),
     ("pending_intent_ids", .both (.list 0 (.text 1)) .uniqueItems),
     ("completed_intent_ids", .both (.list 0 (.text 1)) .uniqueItems),
     ("causation_event_id", .nullable (.text 0)), ("correlation_id", .text 1),
     ("content_sha256", .hash false), ("created_at", .text 1)]
  optional := []

def sideEffectIntentSchema : ContractSchema where
  name := "side-effect-intent"
  required :=
    [("schema_id", .const (contractSchemaId "side-effect-intent")), ("schema_version", .const "v1"),
     ("tenant_id", .text 1), ("case_id", .text 1), ("case_revision_id", .text 1), ("workflow_id", .text 1),
     ("checkpoint_id", .text 1), ("intent_id", .text 1), ("effect_kind", .const "fixture-local-ticket"),
     ("operation", .enum ["find-or-create", "workflow-handoff"]), ("natural_key", .text 1),
     ("intended_state_hash", .hash false), ("idempotency_key", .hash false),
     ("evidence_references", .list 1 (.text 1)), ("correlation_id", .text 1), ("created_at", .text 1)]
  optional := []

def sideEffectObservationSchema : ContractSchema where
  name := "side-effect-observation"
  required :=
    [("schema_id", .const (contractSchemaId "side-effect-observation")), ("schema_version", .const "v1"),
     ("tenant_id", .text 1), ("case_id", .text 1), ("case_revision_id", .text 1), ("workflow_id", .text 1),
     ("checkpoint_id", .text 1), ("observation_id", .text 1), ("intent_id", .text 1),
     ("status", .enum ["absent", "present", "unknown", "conflict"]),
     ("observed_ticket_id", .nullable (.text 0)), ("observed_version", .nullable (.integer 1)),
     ("outcome_sha256", .nullable (.hash false)), ("reason_code", .nullable (.text 0)),
     ("recorded_at", .text 1)]
  optional := []

def sideEffectCompletionSchema : ContractSchema where
  name := "side-effect-completion"
  required :=
    [("schema_id", .const (contractSchemaId "side-effect-completion")), ("schema_version", .const "v1"),
     ("tenant_id", .text 1), ("case_id", .text 1), ("case_revision_id", .text 1), ("workflow_id", .text 1),
     ("checkpoint_id", .text 1), ("completion_id", .text 1), ("intent_id", .text 1),
     ("observation_id", .text 1), ("observed_ticket_id", .text 1), ("observed_version", .integer 1),
     ("result_sha256", .hash false), ("completed_at", .text 1)]
  optional := []

def workflowSchemas : List ContractSchema :=
  [workflowCheckpointSchema, sideEffectIntentSchema, sideEffectObservationSchema, sideEffectCompletionSchema]

/-! ## What the folds carry -/

def workflowIdentityFields : List String := ["tenant_id", "case_id", "case_revision_id", "workflow_id"]

/-- The four fields that say whose record it is. -/
def workflowIdentity (payload : JsonFields) : List String :=
  workflowIdentityFields.map fun field => textOf (payload.get? field)

/-- The texts of an array; the schemas require texts wherever they are taken. -/
def textsOf : Option Json → List String
  | some (.arr items) => items.toList.map fun item => textOf (some item)
  | _ => []

/-- `int(value)` and `Number(value)` of an integer; the schemas require one wherever it is taken. -/
def wholeOf (value : Option Json) : Int := (value.bind Json.whole?).getD 0

/-- What a checkpoint chain keeps of the checkpoints before; `ι` is how a language keeps an identity. -/
structure CheckpointChain (ι : Type) where
  expectedSequence : Int
  previousId : Option String
  identity : Option ι
  previousVersion : Option Int
  completedIds : List String
  checkpointIds : List String

def CheckpointChain.start {ι : Type} : CheckpointChain ι := ⟨1, none, none, none, [], []⟩

/-- What a list of intents keeps of the intents before. -/
structure IntentList (ι : Type) where
  identity : Option ι
  intentIds : List String
  idempotencyKeys : List String

def IntentList.start {ι : Type} : IntentList ι := ⟨none, [], []⟩

/-- `null`, or a text. -/
def nullableText : Option String → Json
  | none => .null
  | some s => .str s

def effectFields : List String := ["case_id", "case_revision_id", "workflow_id", "checkpoint_id"]

/-! ## `workflow.py` -/

namespace Python

/-- `validate_tenant_reference`. -/
def validateTenantReference (records : List JsonFields) : Except ContractValidationError Unit := do
  let tenantIds := records.map fun record => (record.get? "tenant_id").getD .null
  require (tenantIds.all fun id => !id.pyEq .null && !id.pyEq (.str "")) ⟨"tenant-reference", "tenant_id_missing"⟩
  require (tenantIds.all fun id => tenantIds.all id.pyEq) ⟨"tenant-reference", "tenant_mismatch"⟩

section Validators

variable (runtime : ContractRuntime)

/-- One checkpoint of a chain. -/
def link (chain : CheckpointChain (List String)) (checkpoint : JsonFields) :
    Except ContractValidationError (CheckpointChain (List String)) := do
  requireSchema runtime checkpoint workflowCheckpointSchema
  let identity := workflowIdentity checkpoint
  require (chain.identity.all (· = identity)) ⟨"workflow-checkpoint", "workflow_identity_mismatch"⟩
  require (eq (checkpoint.get? "checkpoint_sequence") (some (.int chain.expectedSequence)))
    ⟨"workflow-checkpoint", "checkpoint_not_monotonic"⟩
  require (eq (checkpoint.get? "previous_checkpoint_id") (some (nullableText chain.previousId)))
    ⟨"workflow-checkpoint", "checkpoint_predecessor_mismatch"⟩
  let checkpointId := textOf (checkpoint.get? "checkpoint_id")
  require (checkpointId ∉ chain.checkpointIds) ⟨"workflow-checkpoint", "checkpoint_id_duplicate"⟩
  let pending := textsOf (checkpoint.get? "pending_intent_ids")
  let completed := textsOf (checkpoint.get? "completed_intent_ids")
  require (pending.all (· ∉ completed)) ⟨"workflow-checkpoint", "checkpoint_effect_overlap"⟩
  require (chain.completedIds.all (· ∈ completed)) ⟨"workflow-checkpoint", "completed_effect_regressed"⟩
  let version := wholeOf (checkpoint.get? "workflow_version")
  require (chain.previousVersion.all (· < version)) ⟨"workflow-checkpoint", "workflow_version_not_monotonic"⟩
  return ⟨chain.expectedSequence + 1, some checkpointId, some (chain.identity.getD identity), some version,
    completed, checkpointId :: chain.checkpointIds⟩

/-- **`validate_checkpoint_sequence`.** -/
def validateCheckpointSequence (checkpoints : List JsonFields) : Except ContractValidationError Unit := do
  require (!checkpoints.isEmpty) ⟨"workflow-checkpoint", "checkpoint_chain_empty"⟩
  let _ ← checkpoints.foldlM (link runtime) .start

/-- One intent of a list. -/
def addIntent (list : IntentList (List String)) (intent : JsonFields) :
    Except ContractValidationError (IntentList (List String)) := do
  requireSchema runtime intent sideEffectIntentSchema
  let identity := workflowIdentity intent
  require (list.identity.all (· = identity)) ⟨"side-effect-intent", "workflow_identity_mismatch"⟩
  let intentId := textOf (intent.get? "intent_id")
  let key := textOf (intent.get? "idempotency_key")
  require (intentId ∉ list.intentIds ∧ key ∉ list.idempotencyKeys) ⟨"side-effect-intent", "duplicate_intent"⟩
  return ⟨some (list.identity.getD identity), intentId :: list.intentIds, key :: list.idempotencyKeys⟩

/-- **`validate_side_effect_intents`.** -/
def validateSideEffectIntents (intents : List JsonFields) : Except ContractValidationError Unit := do
  let _ ← intents.foldlM (addIntent runtime) .start

/-- The fields in which a record of an effect repeats its intent. -/
def refersTo (intent record : JsonFields) (schemaName : String) : Except ContractValidationError Unit := do
  validateTenantReference [intent, record]
  effectFields.forM fun field => require (eq (intent.get? field) (record.get? field))
    ⟨schemaName, "intent_reference_mismatch"⟩
  require (eq (record.get? "intent_id") (intent.get? "intent_id")) ⟨schemaName, "intent_reference_mismatch"⟩

/-- One observation of an effect, after those with the identifiers `seen`. -/
def observeEffect (intent : JsonFields) (seen : List String) (observation : JsonFields) :
    Except ContractValidationError (List String) := do
  requireSchema runtime observation sideEffectObservationSchema
  let observationId := textOf (observation.get? "observation_id")
  require (observationId ∉ seen) ⟨"side-effect-observation", "duplicate_observation"⟩
  refersTo intent observation "side-effect-observation"
  return observationId :: seen

/-- The completion of an effect. -/
def completeEffect (intent : JsonFields) (observations : List JsonFields) (completion : JsonFields) :
    Except ContractValidationError Unit := do
  requireSchema runtime completion sideEffectCompletionSchema
  refersTo intent completion "side-effect-completion"
  let observation ← fetch (matching? observations completion)
    ⟨"side-effect-completion", "completion_observation_missing"⟩
  require (eq (completion.get? "observed_ticket_id") (observation.get? "observed_ticket_id") &&
      eq (completion.get? "observed_version") (observation.get? "observed_version") &&
      eq (completion.get? "result_sha256") (observation.get? "outcome_sha256"))
    ⟨"side-effect-completion", "completion_observation_mismatch"⟩

/-- **`validate_side_effect_chain`.** -/
def validateSideEffectChain (intent : JsonFields) (observations completions : List JsonFields) :
    Except ContractValidationError Unit := do
  requireSchema runtime intent sideEffectIntentSchema
  require (completions.length ≤ 1) ⟨"side-effect-completion", "multiple_completions"⟩
  let _ ← observations.foldlM (observeEffect runtime intent) []
  completions.forM (completeEffect runtime intent observations)

end Validators

end Python

/-! ## `index.ts` -/

namespace TypeScript

/-- `[…].join("\u0000")`. -/
def joined (identity : List String) : String := String.intercalate "\x00" identity

section Validators

variable (runtime : ContractRuntime)

/-- One checkpoint of a chain. -/
def link (chain : CheckpointChain String) (payload : JsonFields) : Except String (CheckpointChain String) := do
  validateExpectedSchema runtime payload workflowCheckpointSchema
  let currentIdentity := joined (workflowIdentity payload)
  require (chain.identity.all (· = currentIdentity)) "workflow_identity_mismatch"
  require (eq (payload.get? "checkpoint_sequence") (some (.int chain.expectedSequence))) "checkpoint_not_monotonic"
  require (eq (payload.get? "previous_checkpoint_id") (some (nullableText chain.previousId)))
    "checkpoint_predecessor_mismatch"
  let checkpointId := textOf (payload.get? "checkpoint_id")
  require (checkpointId ∉ chain.checkpointIds) "checkpoint_id_duplicate"
  let pendingIds := textsOf (payload.get? "pending_intent_ids")
  let completed := textsOf (payload.get? "completed_intent_ids")
  require (pendingIds.all (· ∉ completed)) "checkpoint_effect_overlap"
  require (chain.completedIds.all (· ∈ completed)) "completed_effect_regressed"
  let version := wholeOf (payload.get? "workflow_version")
  require (chain.previousVersion.all (· < version)) "workflow_version_not_monotonic"
  return ⟨chain.expectedSequence + 1, some checkpointId, some currentIdentity, some version, completed,
    checkpointId :: chain.checkpointIds⟩

/-- **`validateCheckpointSequence`.** -/
def validateCheckpointSequence (payloads : List JsonFields) : Except String Unit := do
  require (!payloads.isEmpty) "checkpoint_chain_empty"
  let _ ← payloads.foldlM (link runtime) .start

/-- One intent of a list. -/
def addIntent (list : IntentList String) (payload : JsonFields) : Except String (IntentList String) := do
  validateExpectedSchema runtime payload sideEffectIntentSchema
  let currentIdentity := joined (workflowIdentity payload)
  require (list.identity.all (· = currentIdentity)) "workflow_identity_mismatch"
  let intentId := textOf (payload.get? "intent_id")
  let idempotencyKey := textOf (payload.get? "idempotency_key")
  require (intentId ∉ list.intentIds ∧ idempotencyKey ∉ list.idempotencyKeys) "duplicate_intent"
  return ⟨some currentIdentity, intentId :: list.intentIds, idempotencyKey :: list.idempotencyKeys⟩

/-- **`validateSideEffectIntents`.** -/
def validateSideEffectIntents (payloads : List JsonFields) : Except String Unit := do
  let _ ← payloads.foldlM (addIntent runtime) .start

/-- The fields in which a record of an effect repeats its intent. -/
def refersTo (intent record : JsonFields) : Except String Unit := do
  ("tenant_id" :: effectFields).forM fun field => require (eq (intent.get? field) (record.get? field))
    (if field = "tenant_id" then "tenant_identity_mismatch" else "intent_reference_mismatch")
  require (eq (intent.get? "intent_id") (record.get? "intent_id")) "intent_reference_mismatch"

/-- One observation of an effect, after those with the identifiers `seen`. -/
def observeEffect (intent : JsonFields) (seen : List String) (observation : JsonFields) :
    Except String (List String) := do
  validateExpectedSchema runtime observation sideEffectObservationSchema
  let observationId := textOf (observation.get? "observation_id")
  require (observationId ∉ seen) "duplicate_observation"
  refersTo intent observation
  return observationId :: seen

/-- The completion of an effect. -/
def completeEffect (intent : JsonFields) (observations : List JsonFields) (completion : JsonFields) :
    Except String Unit := do
  validateExpectedSchema runtime completion sideEffectCompletionSchema
  refersTo intent completion
  let matchingObservation ← fetch (matching? observations completion) "completion_observation_missing"
  require (eq (completion.get? "observed_ticket_id") (matchingObservation.get? "observed_ticket_id") &&
      eq (completion.get? "observed_version") (matchingObservation.get? "observed_version") &&
      eq (completion.get? "result_sha256") (matchingObservation.get? "outcome_sha256"))
    "completion_observation_mismatch"

/-- **`validateSideEffectChain`.** -/
def validateSideEffectChain (intent : JsonFields) (observations completions : List JsonFields) :
    Except String Unit := do
  validateExpectedSchema runtime intent sideEffectIntentSchema
  require (completions.length ≤ 1) "multiple_completions"
  let _ ← observations.foldlM (observeEffect runtime intent) []
  completions.forM (completeEffect runtime intent observations)

end Validators

end TypeScript

/-! ## Checkpoint chains -/

variable {schemas : List ContractSchema} {runtime : SchemaRuntime schemas}

/-- The chain without the identity that it keeps. -/
def CheckpointChain.forget {ι : Type} (chain : CheckpointChain ι) : CheckpointChain Unit :=
  { chain with identity := none }

/-- The chain after a checkpoint, without the identity. -/
def CheckpointChain.next (chain : CheckpointChain Unit) (checkpoint : JsonFields) : CheckpointChain Unit :=
  ⟨chain.expectedSequence + 1, some (textOf (checkpoint.get? "checkpoint_id")), none,
    some (wholeOf (checkpoint.get? "workflow_version")), textsOf (checkpoint.get? "completed_intent_ids"),
    textOf (checkpoint.get? "checkpoint_id") :: chain.checkpointIds⟩

/-- What both languages require of the next checkpoint apart from its identity. -/
structure Links (runtime : ContractRuntime) (chain : CheckpointChain Unit) (checkpoint : JsonFields) : Prop where
  valid : Python.requireSchema runtime checkpoint workflowCheckpointSchema = .ok ()
  sequence : Python.eq (checkpoint.get? "checkpoint_sequence") (some (.int chain.expectedSequence)) = true
  previous : Python.eq (checkpoint.get? "previous_checkpoint_id") (some (nullableText chain.previousId)) = true
  fresh : textOf (checkpoint.get? "checkpoint_id") ∉ chain.checkpointIds
  disjoint : ∀ id ∈ textsOf (checkpoint.get? "pending_intent_ids"),
    id ∉ textsOf (checkpoint.get? "completed_intent_ids")
  kept : ∀ id ∈ chain.completedIds, id ∈ textsOf (checkpoint.get? "completed_intent_ids")
  increasing : ∀ version ∈ chain.previousVersion, version < wholeOf (checkpoint.get? "workflow_version")

/-- The checkpoints are in order, whosever they are. -/
def InOrder (runtime : ContractRuntime) (checkpoints : List JsonFields) : Prop :=
  checkpoints ≠ [] ∧ Folded (Links runtime) CheckpointChain.next .start checkpoints

/-- All records are of one workflow. -/
def OneWorkflow (records : List JsonFields) : Prop := (records.map workflowIdentity).Pairwise (· = ·)

/-- The identities of all records have one text in TypeScript. -/
def OneText (records : List JsonFields) : Prop :=
  (records.map fun record => TypeScript.joined (workflowIdentity record)).Pairwise (· = ·)

theorem Option.all_eq_iff {ι : Type} [DecidableEq ι] {kept : Option ι} {i : ι} :
    kept.all (· = i) = true ↔ ∀ j ∈ kept, j = i := by
  cases kept with
  | none => simp
  | some j => simp

theorem Python.link_keeps (runtime : ContractRuntime) :
    KeepsKey (Python.link runtime) CheckpointChain.identity CheckpointChain.forget workflowIdentity
      (Links runtime) CheckpointChain.next := by
  constructor
  · intro chain checkpoint
    simp only [Python.link, unit_bind_eq_ok, require_eq_ok, Option.all_eq_iff, List.all_eq_true,
      decide_eq_true_eq]
    constructor
    · rintro ⟨-, hvalid, hkey, hsequence, hprevious, hfresh, hdisjoint, hkept, hversion, -⟩
      refine ⟨⟨hvalid, hsequence, hprevious, hfresh, hdisjoint, hkept, ?_⟩, hkey⟩
      exact fun version h => of_decide_eq_true (Option.all_eq_true _ _ |>.mp hversion version h)
    · rintro ⟨h, hkey⟩
      refine ⟨_, h.valid, hkey, h.sequence, h.previous, h.fresh, h.disjoint, h.kept, ?_, rfl⟩
      exact (Option.all_eq_true _ _).mpr fun version hv => decide_eq_true (h.increasing version hv)
  · intro chain checkpoint chain' h
    simp only [Python.link, unit_bind_eq_ok, require_eq_ok, Option.all_eq_iff] at h
    obtain ⟨-, hkey, -, -, -, -, -, -, h⟩ := h
    obtain rfl := Except.ok.inj h
    refine ⟨?_, rfl⟩
    cases hidentity : chain.identity with
    | none => rfl
    | some i => exact congrArg some (hkey i hidentity)

/-- A text or `null` compares alike with the text kept so far. -/
theorem nullableText_alike {v : Json} (hv : v = .null ∨ v.plain = true) (kept : Option String) :
    Python.eq (some v) (some (nullableText kept)) = TypeScript.eq (some v) (some (nullableText kept)) := by
  refine nullable_alike hv ?_
  cases kept with
  | none => exact .inl rfl
  | some s => exact .inr rfl

/-- The two comparisons of the next checkpoint with the chain. -/
theorem links_alike {checkpoint : JsonFields} (h : workflowCheckpointSchema.accepts checkpoint = true)
    (sequence : Int) (kept : Option String) :
    Python.eq (checkpoint.get? "checkpoint_sequence") (some (.int sequence)) =
        TypeScript.eq (checkpoint.get? "checkpoint_sequence") (some (.int sequence)) ∧
      Python.eq (checkpoint.get? "previous_checkpoint_id") (some (nullableText kept)) =
        TypeScript.eq (checkpoint.get? "previous_checkpoint_id") (some (nullableText kept)) := by
  have hcomparable : workflowCheckpointSchema.comparable ["checkpoint_sequence"] = true := by decide
  have hplain := ContractSchema.plain_of_comparable h hcomparable List.mem_cons_self
  have hrequired : "previous_checkpoint_id" ∈ workflowCheckpointSchema.required.map (·.1) := by decide
  obtain ⟨v, hv, hscalar⟩ := ContractSchema.nullable_value h hrequired rfl rfl
  constructor
  · exact eq_alike hplain fun w hw => by cases hw; rfl
  · rw [hv]
    exact nullableText_alike hscalar kept

theorem TypeScript.link_keeps (runtime : SchemaRuntime schemas) (hschemas : workflowSchemas ⊆ schemas) :
    KeepsKey (TypeScript.link runtime.toContractRuntime) CheckpointChain.identity CheckpointChain.forget
      (fun checkpoint => TypeScript.joined (workflowIdentity checkpoint)) (Links runtime.toContractRuntime)
      CheckpointChain.next := by
  have haccepted : ∀ {checkpoint : JsonFields}, Python.requireSchema runtime.toContractRuntime checkpoint
      workflowCheckpointSchema = .ok () → workflowCheckpointSchema.accepts checkpoint = true :=
    fun hvalid => runtime.accepted hvalid (hschemas List.mem_cons_self)
  constructor
  · intro chain checkpoint
    simp only [TypeScript.link, unit_bind_eq_ok, require_eq_ok, Option.all_eq_iff, List.all_eq_true,
      decide_eq_true_eq, ← schema_alike _ _ ()]
    constructor
    · rintro ⟨-, hvalid, hkey, hsequence, hprevious, hfresh, hdisjoint, hkept, hversion, -⟩
      obtain ⟨hseq, hprev⟩ := links_alike (haccepted hvalid) chain.expectedSequence chain.previousId
      rw [← hseq] at hsequence
      rw [← hprev] at hprevious
      refine ⟨⟨hvalid, hsequence, hprevious, hfresh, hdisjoint, hkept, ?_⟩, hkey⟩
      exact fun version h => of_decide_eq_true (Option.all_eq_true _ _ |>.mp hversion version h)
    · rintro ⟨h, hkey⟩
      obtain ⟨hseq, hprev⟩ := links_alike (haccepted h.valid) chain.expectedSequence chain.previousId
      refine ⟨_, h.valid, hkey, hseq ▸ h.sequence, hprev ▸ h.previous, h.fresh, h.disjoint, h.kept, ?_, rfl⟩
      exact (Option.all_eq_true _ _).mpr fun version hv => decide_eq_true (h.increasing version hv)
  · intro chain checkpoint chain' h
    simp only [TypeScript.link, unit_bind_eq_ok, require_eq_ok] at h
    obtain ⟨-, -, -, -, -, -, -, -, h⟩ := h
    obtain rfl := Except.ok.inj h
    exact ⟨rfl, rfl⟩

/-- A fold of which only the success is kept. -/
theorem discarded_eq_ok {ε α : Type} {x : Except ε α} :
    (do let _ ← x; pure PUnit.unit : Except ε Unit) = .ok () ↔ ∃ a, x = .ok a := by
  rw [bind_eq_ok]
  exact ⟨fun ⟨a, h, _⟩ => ⟨a, h⟩, fun ⟨a, h⟩ => ⟨a, h, rfl⟩⟩

theorem Python.sequence_iff {runtime : ContractRuntime} {checkpoints : List JsonFields} :
    Python.validateCheckpointSequence runtime checkpoints = .ok () ↔
      InOrder runtime checkpoints ∧ OneWorkflow checkpoints := by
  rw [Python.validateCheckpointSequence, require_bind_eq_ok, discarded_eq_ok,
    (Python.link_keeps runtime).fold_iff, Bool.not_eq_true', List.isEmpty_eq_false_iff, ← and_assoc]
  rfl

theorem TypeScript.sequence_iff (hschemas : workflowSchemas ⊆ schemas) {checkpoints : List JsonFields} :
    TypeScript.validateCheckpointSequence runtime.toContractRuntime checkpoints = .ok () ↔
      InOrder runtime.toContractRuntime checkpoints ∧ OneText checkpoints := by
  rw [TypeScript.validateCheckpointSequence, require_bind_eq_ok, discarded_eq_ok,
    (TypeScript.link_keeps runtime hschemas).fold_iff, Bool.not_eq_true', List.isEmpty_eq_false_iff, ← and_assoc]
  rfl

theorem OneWorkflow.oneText {records : List JsonFields} (h : OneWorkflow records) : OneText records :=
  pairwise_map_of_pairwise TypeScript.joined h

/-! ## Lists of intents -/

def IntentList.forget {ι : Type} (list : IntentList ι) : IntentList Unit := { list with identity := none }

def IntentList.next (list : IntentList Unit) (intent : JsonFields) : IntentList Unit :=
  ⟨none, textOf (intent.get? "intent_id") :: list.intentIds,
    textOf (intent.get? "idempotency_key") :: list.idempotencyKeys⟩

/-- What both languages require of the next intent apart from its identity. -/
structure Fresh (runtime : ContractRuntime) (list : IntentList Unit) (intent : JsonFields) : Prop where
  valid : Python.requireSchema runtime intent sideEffectIntentSchema = .ok ()
  fresh : textOf (intent.get? "intent_id") ∉ list.intentIds ∧
    textOf (intent.get? "idempotency_key") ∉ list.idempotencyKeys

/-- No intent repeats another, whosever they are. -/
def Unrepeated (runtime : ContractRuntime) (intents : List JsonFields) : Prop :=
  Folded (Fresh runtime) IntentList.next .start intents

theorem Python.addIntent_keeps (runtime : ContractRuntime) :
    KeepsKey (Python.addIntent runtime) IntentList.identity IntentList.forget workflowIdentity (Fresh runtime)
      IntentList.next := by
  constructor
  · intro list intent
    simp only [Python.addIntent, unit_bind_eq_ok, require_eq_ok, Option.all_eq_iff, decide_eq_true_eq]
    constructor
    · rintro ⟨-, hvalid, hkey, hfresh, -⟩
      exact ⟨⟨hvalid, hfresh⟩, hkey⟩
    · rintro ⟨h, hkey⟩
      exact ⟨_, h.valid, hkey, h.fresh, rfl⟩
  · intro list intent list' h
    simp only [Python.addIntent, unit_bind_eq_ok, require_eq_ok, Option.all_eq_iff] at h
    obtain ⟨-, hkey, -, h⟩ := h
    obtain rfl := Except.ok.inj h
    refine ⟨?_, rfl⟩
    cases hidentity : list.identity with
    | none => rfl
    | some i => exact congrArg some (hkey i hidentity)

theorem TypeScript.addIntent_keeps (runtime : ContractRuntime) :
    KeepsKey (TypeScript.addIntent runtime) IntentList.identity IntentList.forget
      (fun intent => TypeScript.joined (workflowIdentity intent)) (Fresh runtime) IntentList.next := by
  constructor
  · intro list intent
    simp only [TypeScript.addIntent, unit_bind_eq_ok, require_eq_ok, Option.all_eq_iff, decide_eq_true_eq,
      ← schema_alike _ _ ()]
    constructor
    · rintro ⟨-, hvalid, hkey, hfresh, -⟩
      exact ⟨⟨hvalid, hfresh⟩, hkey⟩
    · rintro ⟨h, hkey⟩
      exact ⟨_, h.valid, hkey, h.fresh, rfl⟩
  · intro list intent list' h
    simp only [TypeScript.addIntent, unit_bind_eq_ok, require_eq_ok] at h
    obtain ⟨-, -, -, h⟩ := h
    obtain rfl := Except.ok.inj h
    exact ⟨rfl, rfl⟩

theorem Python.intents_iff {runtime : ContractRuntime} {intents : List JsonFields} :
    Python.validateSideEffectIntents runtime intents = .ok () ↔
      Unrepeated runtime intents ∧ OneWorkflow intents := by
  rw [Python.validateSideEffectIntents, discarded_eq_ok, (Python.addIntent_keeps runtime).fold_iff]
  rfl

theorem TypeScript.intents_iff {runtime : ContractRuntime} {intents : List JsonFields} :
    TypeScript.validateSideEffectIntents runtime intents = .ok () ↔
      Unrepeated runtime intents ∧ OneText intents := by
  rw [TypeScript.validateSideEffectIntents, discarded_eq_ok, (TypeScript.addIntent_keeps runtime).fold_iff]
  rfl

/-! ## Effect chains -/

section Effect

variable {intent record : JsonFields} {schema : ContractSchema}

/-- Two records with tenants have one. -/
theorem Python.validateTenantReference_iff {left right : JsonFields} {a b : String}
    (ha : left.get? "tenant_id" = some (.str a)) (hb : right.get? "tenant_id" = some (.str b)) (hne : a ≠ "") :
    Python.validateTenantReference [left, right] = .ok () ↔ a = b := by
  rw [Python.validateTenantReference, require_bind_eq_ok, require_eq_ok]
  simp only [List.map_cons, List.map_nil, ha, hb, Option.getD_some, List.all_cons, List.all_nil, Bool.and_true,
    Json.pyEq, sameNumber, Json.pyNumber?, Json.number?, Bool.not_false, Bool.true_and, Bool.and_eq_true,
    Bool.not_eq_true', decide_eq_true_eq, decide_eq_false_iff_not]
  constructor
  · rintro ⟨-, ⟨-, hab⟩, -⟩
    exact hab
  · rintro rfl
    exact ⟨⟨hne, hne⟩, ⟨trivial, rfl⟩, rfl, trivial⟩

/-- The fields by which a record of an effect refers to its intent. -/
def referenceFields : List String := "tenant_id" :: "intent_id" :: effectFields

/-- The fields of a schema by which its records refer to others are texts. -/
def ContractSchema.refers (schema : ContractSchema) : Bool :=
  referenceFields.all fun field => field ∈ schema.required.map (·.1) ∧ schema.rule? field = some (.text 1)

theorem ContractSchema.refers_text (h : schema.refers = true) (hrecord : schema.accepts record = true)
    {field : String} (hfield : field ∈ referenceFields) :
    ∃ s, record.get? field = some (.str s) ∧ 1 ≤ s.toList.length := by
  obtain ⟨hrequired, hrule⟩ := of_decide_eq_true (List.all_eq_true.mp h field hfield)
  exact ContractSchema.text_value hrecord hrequired hrule

/-- The record refers to the intent. -/
def RefersTo (intent record : JsonFields) : Prop :=
  ∀ field ∈ referenceFields, intent.get? field = record.get? field

theorem eq_iff_of_texts {l r : Option Json} {a b : String} (hl : l = some (.str a)) (hr : r = some (.str b)) :
    (Python.eq l r = true ↔ l = r) ∧ (TypeScript.eq l r = true ↔ l = r) := by
  subst hl hr
  exact ⟨Python.eq_text, TypeScript.eq_text⟩

theorem refersTo_iff {schema' : ContractSchema} (hintent : schema'.accepts intent = true)
    (hintent' : schema'.refers = true) (hrecord : schema.accepts record = true) (hrecord' : schema.refers = true)
    {schemaName : String} :
    (Python.refersTo intent record schemaName = .ok () ↔ RefersTo intent record) ∧
      (TypeScript.refersTo intent record = .ok () ↔ RefersTo intent record) := by
  have htexts : ∀ field ∈ referenceFields, ∃ a b, intent.get? field = some (.str a) ∧
      record.get? field = some (.str b) ∧ a ≠ "" := by
    intro field hfield
    obtain ⟨a, ha, hlength⟩ := ContractSchema.refers_text hintent' hintent hfield
    obtain ⟨b, hb, -⟩ := ContractSchema.refers_text hrecord' hrecord hfield
    refine ⟨a, b, ha, hb, ?_⟩
    rintro rfl
    exact absurd hlength (by decide)
  have heq : ∀ field ∈ referenceFields,
      (Python.eq (intent.get? field) (record.get? field) = true ↔ intent.get? field = record.get? field) ∧
        (TypeScript.eq (intent.get? field) (record.get? field) = true ↔
          intent.get? field = record.get? field) := by
    intro field hfield
    obtain ⟨a, b, ha, hb, -⟩ := htexts field hfield
    exact eq_iff_of_texts ha hb
  have heffect : ∀ field ∈ effectFields, field ∈ referenceFields := fun field h =>
    List.mem_cons_of_mem _ (List.mem_cons_of_mem _ h)
  obtain ⟨a, b, ha, hb, hne⟩ := htexts "tenant_id" (by decide)
  obtain ⟨i, j, hi, hj, -⟩ := htexts "intent_id" (by decide)
  constructor
  · rw [Python.refersTo, unit_bind_eq_ok, unit_bind_eq_ok, Python.validateTenantReference_iff ha hb hne,
      forM_require_eq_ok, require_eq_ok, (eq_iff_of_texts hj hi).1, RefersTo, referenceFields,
      List.forall_mem_cons, List.forall_mem_cons, ha, hb, Option.some.injEq, Json.str.injEq]
    constructor
    · rintro ⟨htenant, hrest, hid⟩
      exact ⟨htenant, hid.symm, fun field h => (heq field (heffect field h)).1.mp (hrest field h)⟩
    · rintro ⟨htenant, hid, hrest⟩
      exact ⟨htenant, fun field h => (heq field (heffect field h)).1.mpr (hrest field h), hid.symm⟩
  · rw [TypeScript.refersTo, unit_bind_eq_ok, forM_require_eq_ok, require_eq_ok, (eq_iff_of_texts hi hj).2,
      RefersTo, referenceFields, List.forall_mem_cons, List.forall_mem_cons, List.forall_mem_cons,
      (heq "tenant_id" (by decide)).2]
    constructor
    · rintro ⟨⟨htenant, hrest⟩, hid⟩
      exact ⟨htenant, hid, fun field h => (heq field (heffect field h)).2.mp (hrest field h)⟩
    · rintro ⟨htenant, hid, hrest⟩
      exact ⟨⟨htenant, fun field h => (heq field (heffect field h)).2.mpr (hrest field h)⟩, hid⟩

theorem refersTo_alike {schema' : ContractSchema} (hintent : schema'.accepts intent = true)
    (hintent' : schema'.refers = true) (hrecord : schema.accepts record = true) (hrecord' : schema.refers = true)
    {schemaName : String} : Alike (Python.refersTo intent record schemaName) (TypeScript.refersTo intent record) := by
  have hiff := @refersTo_iff intent record schema schema' hintent hintent' hrecord hrecord' schemaName
  exact fun u => hiff.1.trans hiff.2.symm

theorem observeEffect_alike (hschemas : workflowSchemas ⊆ schemas)
    (hintent : sideEffectIntentSchema.accepts intent = true) (seen : List String) (observation : JsonFields) :
    Alike (Python.observeEffect runtime.toContractRuntime intent seen observation)
      (TypeScript.observeEffect runtime.toContractRuntime intent seen observation) := by
  refine alike_bind (schema_alike _ _) fun _ hschema => alike_bind (alike_require Iff.rfl) fun _ _ =>
    alike_bind ?_ fun _ _ => alike_pure _
  have hobservation := runtime.accepted hschema (hschemas (by simp [workflowSchemas]))
  exact refersTo_alike hintent (by decide) hobservation (by decide)

/-- What a completion claims compares alike with what its observation found. -/
theorem claimed_alike {observation completion : JsonFields}
    (hobservation : sideEffectObservationSchema.accepts observation = true)
    (hcompletion : sideEffectCompletionSchema.accepts completion = true) {claimed found : String}
    (hclaimed : claimed ∈ sideEffectCompletionSchema.required.map (·.1))
    (hplain : sideEffectCompletionSchema.comparable [claimed] = true)
    (hfound : found ∈ sideEffectObservationSchema.required.map (·.1)) {rule : FieldRule}
    (hrule : sideEffectObservationSchema.rule? found = some (.nullable rule)) (hnullable : rule.plain = true) :
    Python.eq (completion.get? claimed) (observation.get? found) =
      TypeScript.eq (completion.get? claimed) (observation.get? found) := by
  obtain ⟨v, hv⟩ := ContractSchema.required_isSome hcompletion hclaimed
  obtain ⟨w, hw, hscalar⟩ := ContractSchema.nullable_value hobservation hfound hrule hnullable
  have hvplain := ContractSchema.plain_of_comparable hcompletion hplain List.mem_cons_self v hv
  rw [hv, hw]
  exact nullable_alike (.inr hvplain) hscalar

theorem completeEffect_alike (hschemas : workflowSchemas ⊆ schemas) {observations : List JsonFields}
    (hintent : sideEffectIntentSchema.accepts intent = true)
    (hobservations : ∀ o ∈ observations, sideEffectObservationSchema.accepts o = true) (completion : JsonFields) :
    Alike (Python.completeEffect runtime.toContractRuntime intent observations completion)
      (TypeScript.completeEffect runtime.toContractRuntime intent observations completion) := by
  refine alike_bind (schema_alike _ _) fun _ hschema => ?_
  have hcompletion := runtime.accepted hschema (hschemas (by simp [workflowSchemas]))
  have hmatching : Python.matching? observations completion = TypeScript.matching? observations completion := by
    have ho : sideEffectObservationSchema.comparable ["observation_id"] = true := by decide
    have hc : sideEffectCompletionSchema.comparable ["observation_id"] = true := by decide
    refine List.find?_congr fun o hmem => ?_
    rw [eq_alike (ContractSchema.plain_of_comparable (hobservations o hmem) ho List.mem_cons_self)
      (ContractSchema.plain_of_comparable hcompletion hc List.mem_cons_self)]
    rw [Bool.eq_iff_iff, Bool.and_eq_true, Bool.and_eq_true, Python.eq_text, TypeScript.eq_text]
  refine alike_bind (refersTo_alike hintent (by decide) hcompletion (by decide)) fun _ _ =>
    alike_bind (alike_fetch hmatching) fun observation hfound => alike_require ?_
  have hobservation := hobservations observation (List.mem_of_find?_eq_some (fetch_eq_ok.mp hfound))
  rw [claimed_alike hobservation hcompletion (by decide) (by decide) (by decide) rfl rfl,
    claimed_alike hobservation hcompletion (by decide) (by decide) (by decide) rfl rfl,
    claimed_alike hobservation hcompletion (by decide) (by decide) (by decide) rfl rfl]

/-- The observations of a fold that succeeds are accepted, and refer to the intent. -/
theorem observed_of_fold (hschemas : workflowSchemas ⊆ schemas)
    (hintent : sideEffectIntentSchema.accepts intent = true) {observations : List JsonFields}
    {seen : List String} (h : observations.foldlM
      (Python.observeEffect runtime.toContractRuntime intent) [] = .ok seen) :
    ∀ o ∈ observations, sideEffectObservationSchema.accepts o = true ∧ RefersTo intent o := by
  intro o ho
  obtain ⟨before, after, hstep⟩ := mem_of_foldlM_eq_ok h ho
  rw [Python.observeEffect, unit_bind_eq_ok, require_bind_eq_ok, unit_bind_eq_ok] at hstep
  obtain ⟨hschema, -, hrefers, -⟩ := hstep
  have hobservation := runtime.accepted hschema (hschemas (by simp [workflowSchemas]))
  exact ⟨hobservation, (refersTo_iff hintent (by decide) hobservation (by decide)).1.mp hrefers⟩

/-- **Effect chains are judged alike.** -/
theorem effectChain_alike (hschemas : workflowSchemas ⊆ schemas) (intent : JsonFields)
    (observations completions : List JsonFields) :
    Alike (Python.validateSideEffectChain runtime.toContractRuntime intent observations completions)
      (TypeScript.validateSideEffectChain runtime.toContractRuntime intent observations completions) := by
  refine alike_bind (schema_alike _ _) fun _ hschema => alike_bind (alike_require Iff.rfl) fun _ _ => ?_
  have hintent := runtime.accepted hschema (hschemas (by simp [workflowSchemas]))
  refine alike_bind (alike_foldlM fun seen o _ => observeEffect_alike hschemas hintent seen o)
    fun seen hobserved => ?_
  have hobservations := observed_of_fold hschemas hintent hobserved
  exact alike_forM fun completion _ =>
    completeEffect_alike hschemas hintent (fun o ho => (hobservations o ho).1) completion

/-- **An accepted effect chain** is of one workflow. -/
theorem effectChain_refers (hschemas : workflowSchemas ⊆ schemas) {observations completions : List JsonFields}
    (h : Python.validateSideEffectChain runtime.toContractRuntime intent observations completions = .ok ()) :
    ∀ record ∈ observations ++ completions, RefersTo intent record := by
  rw [Python.validateSideEffectChain, unit_bind_eq_ok, require_bind_eq_ok, bind_eq_ok] at h
  obtain ⟨hschema, -, seen, hobserved, hcompleted⟩ := h
  have hintent := runtime.accepted hschema (hschemas (by simp [workflowSchemas]))
  intro record hrecord
  rcases List.mem_append.mp hrecord with ho | hc
  · exact (observed_of_fold hschemas hintent hobserved record ho).2
  · have hcompletion := mem_of_forM_eq_ok hcompleted hc
    rw [Python.completeEffect, unit_bind_eq_ok, unit_bind_eq_ok] at hcompletion
    obtain ⟨hvalid, hrefers, -⟩ := hcompletion
    have haccepted := runtime.accepted hvalid (hschemas (by simp [workflowSchemas]))
    exact (refersTo_iff hintent (by decide) haccepted (by decide)).1.mp hrefers

end Effect

end WeFlow
