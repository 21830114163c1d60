import WeFlow.Contracts.Live

/-!
# `Lineage` — the records of a model-assisted case in both languages

A Stage 3 case leaves seven records: the request for assistance, the context that the model was given, the budget,
the evidence of the invocation, the binding of a candidate, its private preview and the outcome. `qq_model.py` and
`qq-model.ts` check each record for itself and then the links of the lineage. With `Live` this module says when both
languages judge the records of a model alike.

## Contents

* `Python.validateQQModelLineage`, `TypeScript.validateQQModelLineage` — the validators.
* `LineageFacts` — what both require; `PythonLineage`, `TypeScriptLineage` — what one of them requires beside.
* `live_and_lineage_judged_alike` — both chains; `detached_judged_apart` — a candidate of another context.
-/

namespace WeFlow

open Txn

/-! ## Schemas -/

def budgetFields : FieldRules :=
  .ofList
    [("provider_calls", .integer 0), ("input_tokens", .integer 0), ("output_tokens", .integer 0),
     ("total_tokens", .integer 0), ("tool_calls", .integer 0), ("actions", .integer 0), ("no_progress", .integer 0),
     ("wall_time_ms", .integer 0), ("estimated_cost", .number 0)]

def tokenFields : FieldRules :=
  .ofList [("input_tokens", .integer 0), ("output_tokens", .integer 0), ("total_tokens", .integer 0)]

def reasonCodeRule : FieldRule :=
  .both (.pattern "" [('a', 'z'), ('0', '9'), ('.', '.'), ('_', '_'), ('-', '-')] 1) (.maxLength 96)

def evidenceStatuses : List String :=
  ["intent_recorded", "completed", "retryable_error", "provider_outcome_unknown", "malformed_model_output"]

def assistOutcomes : List String :=
  ["response_ready", "needs_information", "needs_operator", "tool_timeout", "budget_exhausted", "policy_denied",
   "malformed_model_output", "provider_outcome_unknown"]

def qqModelAssistRequestSchema : ContractSchema where
  name := "qq-model-assist-request"
  required :=
    [("schema_id", .const (contractSchemaId "qq-model-assist-request")), ("schema_version", .const "v1"),
     ("assist_request_id", .identifier "qqmar_"), ("natural_key", .hash false),
     ("tenant_id", .textUpTo 1 128), ("case_id", .coded "case_" 24 64), ("case_revision_id", .textUpTo 1 128),
     ("handler_binding_id", .identifier "qqhbind_"), ("issue_artifact_id", .identifier "qqa_"),
     ("issue_content_sha256", .hash false), ("source_message_id_hash", .hash false),
     ("expected_workflow_version", .integer 1), ("stage3_profile_sha256", .hash false),
     ("qq_capability_profile_hash", .hash false), ("model_capability_profile_hash", .hash false),
     ("policy_profile_sha256", .hash false), ("budget_profile_sha256", .hash false),
     ("status", .enum ["ASSIST_REQUESTED", "INVESTIGATING", "RESPONSE_READY", "SAFE_STOP"]),
     ("created_at", .textUpTo 20 40), ("expires_at", .textUpTo 20 40), ("request_sha256", .hash false)]
  optional := []

def qqModelAssistContextSchema : ContractSchema where
  name := "qq-model-assist-context"
  required :=
    [("schema_id", .const (contractSchemaId "qq-model-assist-context")), ("schema_version", .const "v1"),
     ("context_id", .identifier "qqmacx_"), ("context_sha256", .hash false), ("tenant_id", .textUpTo 1 128),
     ("case_id", .coded "case_" 24 64), ("case_revision_id", .textUpTo 1 128),
     ("handler_binding_id", .identifier "qqhbind_"), ("assist_request_id", .identifier "qqmar_"),
     ("issue_artifact_id", .identifier "qqa_"), ("issue_content_sha256", .hash false),
     ("issue_view_sha256", .hash false), ("issue_view_length", .range 1 1200),
     ("issue_classification", .const "untrusted_redacted_qq_issue"), ("source_profile_sha256", .hash false),
     ("ordered_source_sha256s", .both (.both (.list 4 (.hash false)) (.maxItems 4)) .uniqueItems),
     ("prompt_template_sha256", .hash false), ("policy_profile_sha256", .hash false),
     ("provider_profile_sha256", .hash false), ("price_profile_sha256", .hash false),
     ("qq_capability_profile_hash", .hash false), ("model_capability_profile_hash", .hash false),
     ("budget_profile_sha256", .hash false), ("created_at", .textUpTo 20 40)]
  optional := []

def qqModelCaseBudgetSchema : ContractSchema where
  name := "qq-model-case-budget"
  required :=
    [("schema_id", .const (contractSchemaId "qq-model-case-budget")), ("schema_version", .const "v1"),
     ("budget_id", .identifier "qqmab_"), ("budget_sha256", .hash false), ("tenant_id", .textUpTo 1 128),
     ("case_id", .coded "case_" 24 64), ("case_revision_id", .textUpTo 1 128),
     ("assist_request_id", .identifier "qqmar_"), ("handler_binding_id", .identifier "qqhbind_"),
     ("profile_sha256", .hash false),
     ("reserved", .record budgetFields),
     ("used", .record budgetFields),
     ("pessimistic_unknown_accounted", .boolean), ("recorded_at", .textUpTo 20 40)]
  optional := []

def qqModelInvocationEvidenceSchema : ContractSchema where
  name := "qq-model-invocation-evidence"
  required :=
    [("schema_id", .const (contractSchemaId "qq-model-invocation-evidence")), ("schema_version", .const "v1"),
     ("invocation_id", .identifier "qqmai_"), ("logical_turn_id", .identifier "qqmat_"),
     ("assist_request_id", .identifier "qqmar_"), ("context_id", .identifier "qqmacx_"),
     ("context_sha256", .hash false), ("tenant_id", .textUpTo 1 128), ("case_id", .coded "case_" 24 64),
     ("case_revision_id", .textUpTo 1 128), ("handler_binding_id", .identifier "qqhbind_"),
     ("intent_sha256", .hash false), ("observation_id", .nullable (.identifier "qqmao_")),
     ("status", .enum evidenceStatuses),
     ("request_reference_sha256", .nullable (.hash false)), ("response_sha256", .nullable (.hash false)),
     ("provider_profile_sha256", .hash false), ("model_id_sha256", .hash false),
     ("price_profile_sha256", .hash false),
     ("reservation", .record tokenFields),
     ("usage", .record tokenFields),
     ("provider_latency_ms", .integer 0), ("estimated_cost", .number 0),
     ("failure_classification", .nullable reasonCodeRule),
     ("intent_created_at", .textUpTo 20 40), ("observed_at", .nullable (.textUpTo 20 40)),
     ("evidence_sha256", .hash false)]
  optional := []

def qqModelCandidateBindingSchema : ContractSchema where
  name := "qq-model-candidate-binding"
  required :=
    [("schema_id", .const (contractSchemaId "qq-model-candidate-binding")), ("schema_version", .const "v1"),
     ("binding_id", .identifier "qqmcb_"), ("binding_sha256", .hash false), ("tenant_id", .textUpTo 1 128),
     ("case_id", .coded "case_" 24 64), ("case_revision_id", .textUpTo 1 128),
     ("workflow_version", .integer 2), ("handler_binding_id", .identifier "qqhbind_"),
     ("assist_request_id", .identifier "qqmar_"), ("context_id", .identifier "qqmacx_"),
     ("context_sha256", .hash false), ("invocation_id", .identifier "qqmai_"),
     ("invocation_evidence_sha256", .hash false), ("action_sha256", .hash false),
     ("ordered_evidence_sha256s", .both (.both (.list 3 (.hash false)) (.maxItems 3)) .uniqueItems),
     ("verifier_outcome_id", .identifier "qqmvo_"), ("verifier_outcome_sha256", .hash false),
     ("budget_sha256", .hash false), ("issue_artifact_id", .identifier "qqa_"),
     ("issue_content_sha256", .hash false), ("candidate_artifact_id", .identifier "qqa_"),
     ("candidate_revision_id", .identifier "qqhcr_"), ("candidate_sha256", .hash false),
     ("approval_request_id", .identifier "qqhar_"), ("policy_profile_sha256", .hash false),
     ("qq_capability_profile_hash", .hash false), ("model_capability_profile_hash", .hash false),
     ("provider_profile_sha256", .hash false), ("prompt_template_sha256", .hash false),
     ("price_profile_sha256", .hash false), ("status", .enum ["CURRENT", "INVALIDATED", "DELETED"]),
     ("created_at", .textUpTo 20 40)]
  optional := []

def qqModelPrivatePreviewSchema : ContractSchema where
  name := "qq-model-private-preview"
  required :=
    [("schema_id", .const (contractSchemaId "qq-model-private-preview")), ("schema_version", .const "v1"),
     ("preview_id", .identifier "qqmpv_"), ("tenant_id", .textUpTo 1 128), ("case_id", .coded "case_" 24 64),
     ("case_revision_id", .textUpTo 1 128), ("handler_binding_id", .identifier "qqhbind_"),
     ("assist_request_id", .identifier "qqmar_"), ("source_message_id_hash", .hash false),
     ("candidate_artifact_id", .identifier "qqa_"), ("candidate_sha256", .hash false),
     ("evidence_count", .range 1 3), ("evidence_summary_sha256", .hash false), ("budget_sha256", .hash false),
     ("approval_request_id", .identifier "qqhar_"), ("candidate_hash_prefix", .coded "" 12 12),
     ("workflow_version", .integer 3), ("passive_reply_intent_id", .identifier "qqhpi_"),
     ("created_at", .textUpTo 20 40), ("preview_sha256", .hash false)]
  optional := []

def qqModelAssistOutcomeSchema : ContractSchema where
  name := "qq-model-assist-outcome"
  required :=
    [("schema_id", .const (contractSchemaId "qq-model-assist-outcome")), ("schema_version", .const "v1"),
     ("outcome_id", .identifier "qqmao_"), ("assist_request_id", .identifier "qqmar_"),
     ("tenant_id", .textUpTo 1 128), ("case_id", .coded "case_" 24 64), ("case_revision_id", .textUpTo 1 128),
     ("handler_binding_id", .identifier "qqhbind_"),
     ("terminal_outcome", .enum assistOutcomes),
     ("reason_code", reasonCodeRule), ("invocation_count", .integer 0),
     ("tool_count", .range 0 3), ("candidate_binding_id", .nullable (.identifier "qqmcb_")),
     ("private_preview_id", .nullable (.identifier "qqmpv_")),
     ("manual_draft_available", .literal (.bool true)), ("approval_authorized", .literal (.bool false)),
     ("delivery_authorized", .literal (.bool false)), ("customer_outcome_verified", .literal (.bool false)),
     ("completed_at", .textUpTo 20 40), ("outcome_sha256", .hash false)]
  optional := []

def lineageSchemas : List ContractSchema :=
  [qqModelAssistRequestSchema, qqModelAssistContextSchema, qqModelCaseBudgetSchema, qqModelInvocationEvidenceSchema,
   qqModelCandidateBindingSchema, qqModelPrivatePreviewSchema, qqModelAssistOutcomeSchema]

/-! ## What both languages read -/

structure LineageRecords where
  request : JsonFields
  context : JsonFields
  budget : JsonFields
  invocation : JsonFields
  binding : JsonFields
  preview : JsonFields
  outcome : JsonFields

namespace LineageRecords

/-- The records in the order of TypeScript's argument. -/
def toList (r : LineageRecords) : List JsonFields :=
  [r.request, r.context, r.budget, r.invocation, r.binding, r.preview, r.outcome]

end LineageRecords

/-- The fields by which a record belongs to a case. -/
def lineageFields : List String := ["tenant_id", "case_id", "case_revision_id", "handler_binding_id"]

/-- No entry of `used` is more than the entry of `reserved` under its key. -/
def withinBudget (payload : JsonFields) : Bool :=
  (fieldsOf (payload.get? "used")).toList.all fun entry =>
    numberOf ((fieldsOf (payload.get? "used")).get? entry.1) ≤
      numberOf ((fieldsOf (payload.get? "reserved")).get? entry.1)

/-- `str(sha256).startswith(str(prefix))`. -/
def startsWithPrefix (payload : JsonFields) : Bool :=
  (textOf (payload.get? "candidate_hash_prefix")).toList.isPrefixOf (textOf (payload.get? "candidate_sha256")).toList

/-! ## `qq_model.py` -/

namespace Python

section Validators

variable (runtime : ContractRuntime) (time : TimeReader)

/-- `_timestamp`; a time without an offset is refused. -/
def timestamp (value : Option Json) (name : String) : Except ContractValidationError Int := do
  let parsed ← fetch (time.fromIsoformat (textOf value)) ⟨name, "timestamp_invalid"⟩
  require parsed.aware ⟨name, "timestamp_invalid"⟩
  return parsed.instant

/-- Each block's `total_tokens` is the sum of its tokens. -/
def tokenTotals (payload : JsonFields) (blocks : List String) (name : String) : Except ContractValidationError Unit :=
  blocks.forM fun block =>
    let tokens := fieldsOf (payload.get? block)
    require (eq (tokens.get? "total_tokens") (sumOf tokens "input_tokens" "output_tokens"))
      ⟨name, "token_total_mismatch"⟩

def validateQQModelAssistRequest (payload : JsonFields) : Except ContractValidationError Unit := do
  requireSchema runtime payload qqModelAssistRequestSchema
  let expires ← timestamp time (payload.get? "expires_at") "qq-model-assist-request"
  let created ← timestamp time (payload.get? "created_at") "qq-model-assist-request"
  require (created < expires) ⟨"qq-model-assist-request", "expiry_invalid"⟩
  requireHash runtime payload "request_sha256" "qq-model-assist-request"

def validateQQModelAssistContext (payload : JsonFields) : Except ContractValidationError Unit := do
  requireSchema runtime payload qqModelAssistContextSchema
  requireHash runtime payload "context_sha256" "qq-model-assist-context"

def validateQQModelCaseBudget (payload : JsonFields) : Except ContractValidationError Unit := do
  requireSchema runtime payload qqModelCaseBudgetSchema
  tokenTotals payload ["reserved", "used"] "qq-model-case-budget"
  require (withinBudget payload) ⟨"qq-model-case-budget", "budget_exceeded"⟩
  requireHash runtime payload "budget_sha256" "qq-model-case-budget"

def validateQQModelInvocationEvidence (payload : JsonFields) : Except ContractValidationError Unit := do
  requireSchema runtime payload qqModelInvocationEvidenceSchema
  tokenTotals payload ["reservation", "usage"] "qq-model-invocation-evidence"
  let intended := eq (payload.get? "status") (some (.str "intent_recorded"))
  require (!intended || (decide (payload.get? "observation_id" = some .null) &&
      decide (payload.get? "observed_at" = some .null)))
    ⟨"qq-model-invocation-evidence", "intent_has_observation"⟩
  require (intended || (decide (payload.get? "observation_id" ≠ some .null) &&
      decide (payload.get? "observed_at" ≠ some .null)))
    ⟨"qq-model-invocation-evidence", "observation_missing"⟩
  require (!eq (payload.get? "status") (some (.str "provider_outcome_unknown")) ||
      isNamed (payload.get? "failure_classification"))
    ⟨"qq-model-invocation-evidence", "unknown_classification_missing"⟩
  requireHash runtime payload "evidence_sha256" "qq-model-invocation-evidence"

def validateQQModelCandidateBinding (payload : JsonFields) : Except ContractValidationError Unit := do
  requireSchema runtime payload qqModelCandidateBindingSchema
  requireHash runtime payload "binding_sha256" "qq-model-candidate-binding"

def validateQQModelPrivatePreview (payload : JsonFields) : Except ContractValidationError Unit := do
  requireSchema runtime payload qqModelPrivatePreviewSchema
  require (startsWithPrefix payload) ⟨"qq-model-private-preview", "candidate_hash_prefix_mismatch"⟩
  requireHash runtime payload "preview_sha256" "qq-model-private-preview"

def validateQQModelAssistOutcome (payload : JsonFields) : Except ContractValidationError Unit := do
  requireSchema runtime payload qqModelAssistOutcomeSchema
  require (eq (payload.get? "terminal_outcome") (some (.str "response_ready")) =
      (isNamed (payload.get? "candidate_binding_id") && isNamed (payload.get? "private_preview_id")))
    ⟨"qq-model-assist-outcome", "candidate_outcome_mismatch"⟩
  requireHash runtime payload "outcome_sha256" "qq-model-assist-outcome"

/-- **`validate_qq_model_lineage`.** -/
def validateQQModelLineage (r : LineageRecords) : Except ContractValidationError Unit := do
  validateQQModelAssistRequest runtime time r.request
  validateQQModelAssistContext runtime r.context
  validateQQModelCaseBudget runtime r.budget
  validateQQModelInvocationEvidence runtime r.invocation
  validateQQModelCandidateBinding runtime r.binding
  validateQQModelPrivatePreview runtime r.preview
  validateQQModelAssistOutcome runtime r.outcome
  r.toList.tail.forM fun record =>
    require (lineageFields.all fun field => eq (record.get? field) (r.request.get? field))
      ⟨"qq-model-lineage", "lineage_mismatch"⟩
  r.toList.tail.forM fun record =>
    require (eq (record.get? "assist_request_id") (r.request.get? "assist_request_id"))
      ⟨"qq-model-lineage", "assist_request_mismatch"⟩
  require (eq (r.invocation.get? "context_id") (r.context.get? "context_id") &&
      eq (r.invocation.get? "context_sha256") (r.context.get? "context_sha256") &&
      eq (r.binding.get? "context_id") (r.context.get? "context_id") &&
      eq (r.binding.get? "context_sha256") (r.context.get? "context_sha256") &&
      eq (r.binding.get? "invocation_id") (r.invocation.get? "invocation_id") &&
      eq (r.binding.get? "invocation_evidence_sha256") (r.invocation.get? "evidence_sha256") &&
      eq (r.binding.get? "budget_sha256") (r.budget.get? "budget_sha256") &&
      eq (r.preview.get? "budget_sha256") (r.budget.get? "budget_sha256") &&
      eq (r.preview.get? "candidate_artifact_id") (r.binding.get? "candidate_artifact_id") &&
      eq (r.preview.get? "candidate_sha256") (r.binding.get? "candidate_sha256") &&
      eq (r.preview.get? "approval_request_id") (r.binding.get? "approval_request_id") &&
      eq (r.outcome.get? "candidate_binding_id") (r.binding.get? "binding_id") &&
      eq (r.outcome.get? "private_preview_id") (r.preview.get? "preview_id"))
    ⟨"qq-model-lineage", "lineage_link_mismatch"⟩

end Validators

end Python

/-! ## `qq-model.ts` -/

namespace TypeScript

section Validators

variable (runtime : ContractRuntime) (time : TimeReader)

/-- `schema`. -/
def qqModelSchema (payload : JsonFields) (schema : ContractSchema) : Except String Unit := do
  require (eq (payload.get? "schema_id") (some (.str schema.id))) "unexpected_schema"
  require (validatePayload runtime payload).isOk "schema"

/-- `claimedHash`. -/
def claimedHash (payload : JsonFields) (hashField : String) : Bool :=
  eq (payload.get? hashField) (some (.str (runtime.recordHash payload hashField)))

/-- `tokenTotals`; the total of what is no object is missing. -/
def tokenTotals (block : Option Json) : Bool :=
  eq ((fieldsOf block).get? "total_tokens") (sumOf (fieldsOf block) "input_tokens" "output_tokens")

/-- `typeof value === "string"`. -/
def isString : Option Json → Bool
  | some (.str _) => true
  | _ => false

def validateQQModelAssistRequest (payload : JsonFields) : Except String Unit := do
  qqModelSchema runtime payload qqModelAssistRequestSchema
  require (claimedHash runtime payload "request_sha256") "request_hash"
  require (!expiresBefore time payload "expires_at" "created_at") "expiry"

def validateQQModelAssistContext (payload : JsonFields) : Except String Unit :=
  require ((qqModelSchema runtime payload qqModelAssistContextSchema).isOk &&
    claimedHash runtime payload "context_sha256") "context_hash"

def validateQQModelCaseBudget (payload : JsonFields) : Except String Unit := do
  require ((qqModelSchema runtime payload qqModelCaseBudgetSchema).isOk && tokenTotals (payload.get? "reserved") &&
    tokenTotals (payload.get? "used") && claimedHash runtime payload "budget_sha256") "budget"
  require (withinBudget payload) "budget_exceeded"

def validateQQModelInvocationEvidence (payload : JsonFields) : Except String Unit := do
  require ((qqModelSchema runtime payload qqModelInvocationEvidenceSchema).isOk &&
    tokenTotals (payload.get? "reservation") && tokenTotals (payload.get? "usage") &&
    claimedHash runtime payload "evidence_sha256") "invocation"
  require (eq (payload.get? "status") (some (.str "intent_recorded")) =
      (eq (payload.get? "observation_id") (some .null) && eq (payload.get? "observed_at") (some .null)))
    "observation_state"

def validateQQModelCandidateBinding (payload : JsonFields) : Except String Unit :=
  require ((qqModelSchema runtime payload qqModelCandidateBindingSchema).isOk &&
    claimedHash runtime payload "binding_sha256") "binding_hash"

def validateQQModelPrivatePreview (payload : JsonFields) : Except String Unit :=
  require ((qqModelSchema runtime payload qqModelPrivatePreviewSchema).isOk && startsWithPrefix payload &&
    claimedHash runtime payload "preview_sha256") "preview"

def validateQQModelAssistOutcome (payload : JsonFields) : Except String Unit := do
  require ((qqModelSchema runtime payload qqModelAssistOutcomeSchema).isOk &&
    claimedHash runtime payload "outcome_sha256") "outcome"
  require (eq (payload.get? "terminal_outcome") (some (.str "response_ready")) =
      (isString (payload.get? "candidate_binding_id") && isString (payload.get? "private_preview_id")))
    "candidate_outcome"

/-- The records once there are seven of them. -/
def validateQQModelRecords (r : LineageRecords) : Except String Unit := do
  require ((validateQQModelAssistRequest runtime time r.request).isOk &&
      (validateQQModelAssistContext runtime r.context).isOk && (validateQQModelCaseBudget runtime r.budget).isOk &&
      (validateQQModelInvocationEvidence runtime r.invocation).isOk &&
      (validateQQModelCandidateBinding runtime r.binding).isOk &&
      (validateQQModelPrivatePreview runtime r.preview).isOk && (validateQQModelAssistOutcome runtime r.outcome).isOk)
    "record_invalid"
  require (r.toList.tail.all fun record =>
      (lineageFields.all fun field => eq (record.get? field) (r.request.get? field)) &&
        eq (record.get? "assist_request_id") (r.request.get? "assist_request_id")) "lineage_mismatch"
  require (eq (r.invocation.get? "context_id") (r.context.get? "context_id") &&
      eq (r.invocation.get? "context_sha256") (r.context.get? "context_sha256") &&
      eq (r.binding.get? "context_id") (r.context.get? "context_id") &&
      eq (r.binding.get? "invocation_id") (r.invocation.get? "invocation_id") &&
      eq (r.binding.get? "invocation_evidence_sha256") (r.invocation.get? "evidence_sha256") &&
      eq (r.binding.get? "budget_sha256") (r.budget.get? "budget_sha256") &&
      eq (r.preview.get? "budget_sha256") (r.budget.get? "budget_sha256") &&
      eq (r.preview.get? "candidate_artifact_id") (r.binding.get? "candidate_artifact_id") &&
      eq (r.preview.get? "approval_request_id") (r.binding.get? "approval_request_id") &&
      eq (r.outcome.get? "candidate_binding_id") (r.binding.get? "binding_id") &&
      eq (r.outcome.get? "private_preview_id") (r.preview.get? "preview_id")) "lineage_link"

/-- **`validateQQModelLineage`.** -/
def validateQQModelLineage : List JsonFields → Except String Unit
  | [request, context, budget, invocation, binding, preview, outcome] =>
      validateQQModelRecords runtime time ⟨request, context, budget, invocation, binding, preview, outcome⟩
  | _ => throw "record_count"

end Validators

end TypeScript

/-! ## What the languages require -/

structure BudgetFacts (payload : JsonFields) : Prop where
  reserved : TypeScript.tokenTotals (payload.get? "reserved") = true
  used : TypeScript.tokenTotals (payload.get? "used") = true
  within : withinBudget payload = true

structure EvidenceFacts (payload : JsonFields) : Prop where
  reservation : TypeScript.tokenTotals (payload.get? "reservation") = true
  usage : TypeScript.tokenTotals (payload.get? "usage") = true
  intended : payload.get? "status" = some (.str "intent_recorded") ↔
    payload.get? "observation_id" = some .null ∧ payload.get? "observed_at" = some .null

namespace LineageRecords

variable (r : LineageRecords)

/-- The records with their schemas and the hashes that they claim. -/
def claims : List (JsonFields × ContractSchema × String) :=
  [(r.request, qqModelAssistRequestSchema, "request_sha256"),
   (r.context, qqModelAssistContextSchema, "context_sha256"), (r.budget, qqModelCaseBudgetSchema, "budget_sha256"),
   (r.invocation, qqModelInvocationEvidenceSchema, "evidence_sha256"),
   (r.binding, qqModelCandidateBindingSchema, "binding_sha256"),
   (r.preview, qqModelPrivatePreviewSchema, "preview_sha256"),
   (r.outcome, qqModelAssistOutcomeSchema, "outcome_sha256")]

/-- The fields that both languages compare across records. -/
def links : List (Option Json × Option Json) :=
  paired r.invocation r.context [("context_id", "context_id"), ("context_sha256", "context_sha256")] ++
  paired r.binding r.context [("context_id", "context_id")] ++
  paired r.binding r.invocation
    [("invocation_id", "invocation_id"), ("invocation_evidence_sha256", "evidence_sha256")] ++
  paired r.binding r.budget [("budget_sha256", "budget_sha256")] ++
  paired r.preview r.budget [("budget_sha256", "budget_sha256")] ++
  paired r.preview r.binding
    [("candidate_artifact_id", "candidate_artifact_id"), ("approval_request_id", "approval_request_id")] ++
  paired r.outcome r.binding [("candidate_binding_id", "binding_id")] ++
  paired r.outcome r.preview [("private_preview_id", "preview_id")]

end LineageRecords

/-- **What both languages require of a lineage.** -/
structure LineageFacts (runtime : ContractRuntime) (r : LineageRecords) : Prop where
  recorded : ∀ claim ∈ r.claims, Recorded runtime claim.1 claim.2.1 claim.2.2
  budget : BudgetFacts r.budget
  invocation : EvidenceFacts r.invocation
  preview : startsWithPrefix r.preview = true
  outcome : r.outcome.get? "terminal_outcome" = some (.str "response_ready") ↔
    TypeScript.isString (r.outcome.get? "candidate_binding_id") = true ∧
      TypeScript.isString (r.outcome.get? "private_preview_id") = true
  common : ∀ record ∈ r.toList.tail, ∀ field ∈ lineageFields ++ ["assist_request_id"],
    record.get? field = r.request.get? field
  linked : ∀ pair ∈ r.links, pair.1 = pair.2

/-- What Python requires beside: the binding is of the context and the preview of the candidate, an observed
    invocation says so in both fields and an unknown one has a classification, and the request expires, as Python
    reads the times, after it was created. -/
structure PythonLineage (time : TimeReader) (r : LineageRecords) : Prop where
  context : r.binding.get? "context_sha256" = r.context.get? "context_sha256"
  candidate : r.preview.get? "candidate_sha256" = r.binding.get? "candidate_sha256"
  observed : r.invocation.get? "status" ≠ some (.str "intent_recorded") →
    r.invocation.get? "observation_id" ≠ some .null ∧ r.invocation.get? "observed_at" ≠ some .null
  classified : r.invocation.get? "status" = some (.str "provider_outcome_unknown") →
    isNamed (r.invocation.get? "failure_classification") = true
  dated : ∃ expires created,
    time.fromIsoformat (textOf (r.request.get? "expires_at")) = some ⟨true, expires⟩ ∧
      time.fromIsoformat (textOf (r.request.get? "created_at")) = some ⟨true, created⟩ ∧ created < expires

/-- What TypeScript requires beside: the request does not expire before, as it reads the times. -/
def TypeScriptLineage (time : TimeReader) (r : LineageRecords) : Prop :=
  TypeScript.expiresBefore time r.request "expires_at" "created_at" = false

theorem isOk_eq_true {ε : Type} {x : Except ε Unit} : x.isOk = true ↔ x = .ok () := by
  cases x with
  | ok u => exact ⟨fun _ => rfl, fun _ => rfl⟩
  | error e =>
      constructor
      · intro h
        cases h
      · intro h
        cases h

section Records

variable {runtime : ContractRuntime} {time : TimeReader} {payload : JsonFields} {schema : ContractSchema}
  {hashField : String}

theorem Recorded.iff : Recorded runtime payload schema hashField ↔
    Python.requireSchema runtime payload schema = .ok () ∧
      payload.get? hashField = some (.str (runtime.recordHash payload hashField)) := by
  rw [Python.requireSchema_iff]
  constructor
  · intro h
    exact ⟨⟨h.valid, h.identity⟩, h.hash⟩
  · rintro ⟨⟨hvalid, hid⟩, hhash⟩
    exact ⟨hvalid, hid, hhash⟩

theorem TypeScript.qqModelSchema_iff : TypeScript.qqModelSchema runtime payload schema = .ok () ↔
    Python.requireSchema runtime payload schema = .ok () := by
  rw [TypeScript.qqModelSchema, Python.requireSchema_iff, unit_bind_eq_ok, require_eq_ok, require_eq_ok,
    TypeScript.eq_text, isOk_eq_true, TypeScript.validatePayload_iff]
  exact and_comm

theorem TypeScript.claimedHash_iff : TypeScript.claimedHash runtime payload hashField = true ↔
    payload.get? hashField = some (.str (runtime.recordHash payload hashField)) := TypeScript.eq_text

theorem TypeScript.assistRequest_iff : TypeScript.validateQQModelAssistRequest runtime time payload = .ok () ↔
    Recorded runtime payload qqModelAssistRequestSchema "request_sha256" ∧
      TypeScript.expiresBefore time payload "expires_at" "created_at" = false := by
  simp only [TypeScript.validateQQModelAssistRequest, unit_bind_eq_ok, require_eq_ok, TypeScript.qqModelSchema_iff,
    TypeScript.claimedHash_iff, Recorded.iff, Bool.not_eq_true', and_assoc]

theorem TypeScript.assistContext_iff : TypeScript.validateQQModelAssistContext runtime payload = .ok () ↔
    Recorded runtime payload qqModelAssistContextSchema "context_sha256" := by
  rw [TypeScript.validateQQModelAssistContext, require_eq_ok, Bool.and_eq_true, isOk_eq_true,
    TypeScript.qqModelSchema_iff, TypeScript.claimedHash_iff, Recorded.iff]

theorem TypeScript.caseBudget_iff : TypeScript.validateQQModelCaseBudget runtime payload = .ok () ↔
    Recorded runtime payload qqModelCaseBudgetSchema "budget_sha256" ∧ BudgetFacts payload := by
  simp only [TypeScript.validateQQModelCaseBudget, unit_bind_eq_ok, require_eq_ok, Bool.and_eq_true, isOk_eq_true,
    TypeScript.qqModelSchema_iff, TypeScript.claimedHash_iff, Recorded.iff]
  constructor
  · rintro ⟨⟨⟨⟨hschema, hreserved⟩, hused⟩, hhash⟩, hwithin⟩
    exact ⟨⟨hschema, hhash⟩, hreserved, hused, hwithin⟩
  · rintro ⟨⟨hschema, hhash⟩, h⟩
    exact ⟨⟨⟨⟨hschema, h.reserved⟩, h.used⟩, hhash⟩, h.within⟩

theorem TypeScript.invocationEvidence_iff : TypeScript.validateQQModelInvocationEvidence runtime payload = .ok () ↔
    Recorded runtime payload qqModelInvocationEvidenceSchema "evidence_sha256" ∧ EvidenceFacts payload := by
  have hsame : ∀ intended first second : Bool,
      intended = (first && second) ↔ (intended = true ↔ first = true ∧ second = true) := by decide
  simp only [TypeScript.validateQQModelInvocationEvidence, unit_bind_eq_ok, require_eq_ok, decide_eq_true_eq,
    Bool.and_eq_true, isOk_eq_true, TypeScript.qqModelSchema_iff, TypeScript.claimedHash_iff, Recorded.iff, hsame,
    TypeScript.eq_text, TypeScript.eq_null]
  constructor
  · rintro ⟨⟨⟨⟨hschema, hreservation⟩, husage⟩, hhash⟩, hintended⟩
    exact ⟨⟨hschema, hhash⟩, hreservation, husage, hintended⟩
  · rintro ⟨⟨hschema, hhash⟩, h⟩
    exact ⟨⟨⟨⟨hschema, h.reservation⟩, h.usage⟩, hhash⟩, h.intended⟩

theorem TypeScript.modelBinding_iff : TypeScript.validateQQModelCandidateBinding runtime payload = .ok () ↔
    Recorded runtime payload qqModelCandidateBindingSchema "binding_sha256" := by
  rw [TypeScript.validateQQModelCandidateBinding, require_eq_ok, Bool.and_eq_true, isOk_eq_true,
    TypeScript.qqModelSchema_iff, TypeScript.claimedHash_iff, Recorded.iff]

theorem TypeScript.privatePreview_iff : TypeScript.validateQQModelPrivatePreview runtime payload = .ok () ↔
    Recorded runtime payload qqModelPrivatePreviewSchema "preview_sha256" ∧ startsWithPrefix payload = true := by
  rw [TypeScript.validateQQModelPrivatePreview, require_eq_ok, Bool.and_eq_true, Bool.and_eq_true, isOk_eq_true,
    TypeScript.qqModelSchema_iff, TypeScript.claimedHash_iff, Recorded.iff, and_right_comm]

theorem TypeScript.assistOutcome_iff : TypeScript.validateQQModelAssistOutcome runtime payload = .ok () ↔
    Recorded runtime payload qqModelAssistOutcomeSchema "outcome_sha256" ∧
      (payload.get? "terminal_outcome" = some (.str "response_ready") ↔
        TypeScript.isString (payload.get? "candidate_binding_id") = true ∧
          TypeScript.isString (payload.get? "private_preview_id") = true) := by
  have hsame : ∀ ready first second : Bool,
      ready = (first && second) ↔ (ready = true ↔ first = true ∧ second = true) := by decide
  simp only [TypeScript.validateQQModelAssistOutcome, unit_bind_eq_ok, require_eq_ok, decide_eq_true_eq,
    Bool.and_eq_true, isOk_eq_true, TypeScript.qqModelSchema_iff, TypeScript.claimedHash_iff, Recorded.iff, hsame,
    TypeScript.eq_text]

theorem Python.assistRequest_iff : Python.validateQQModelAssistRequest runtime time payload = .ok () ↔
    Recorded runtime payload qqModelAssistRequestSchema "request_sha256" ∧
      ∃ expires created, time.fromIsoformat (textOf (payload.get? "expires_at")) = some ⟨true, expires⟩ ∧
        time.fromIsoformat (textOf (payload.get? "created_at")) = some ⟨true, created⟩ ∧ created < expires := by
  have htimestamp : ∀ {value : Option Json} {name : String} {instant : Int},
      Python.timestamp time value name = .ok instant ↔
        time.fromIsoformat (textOf value) = some ⟨true, instant⟩ := by
    intro value name instant
    simp only [Python.timestamp, fetch_bind_eq_ok, require_bind_eq_ok]
    constructor
    · rintro ⟨⟨aware, at_⟩, hread, haware, hsame⟩
      cases haware
      cases hsame
      exact hread
    · intro hread
      exact ⟨⟨true, instant⟩, hread, rfl, rfl⟩
  rw [Python.validateQQModelAssistRequest, unit_bind_eq_ok, Recorded.iff]
  simp only [Python.requireHash]
  constructor
  · rintro ⟨hschema, h⟩
    rw [bind_eq_ok] at h
    obtain ⟨expires, hexpires, h⟩ := h
    rw [bind_eq_ok] at h
    obtain ⟨created, hcreated, h⟩ := h
    rw [require_bind_eq_ok, decide_eq_true_eq, require_eq_ok, decide_eq_true_eq] at h
    exact ⟨⟨hschema, h.2⟩, expires, created, htimestamp.mp hexpires, htimestamp.mp hcreated, h.1⟩
  · rintro ⟨⟨hschema, hhash⟩, expires, created, hexpires, hcreated, hlater⟩
    refine ⟨hschema, ?_⟩
    rw [htimestamp.mpr hexpires, htimestamp.mpr hcreated]
    show (require _ _ >>= fun _ => _) = _
    rw [require_bind_eq_ok, decide_eq_true_eq, require_eq_ok, decide_eq_true_eq]
    exact ⟨hlater, hhash⟩

theorem Python.assistContext_iff : Python.validateQQModelAssistContext runtime payload = .ok () ↔
    Recorded runtime payload qqModelAssistContextSchema "context_sha256" := by
  rw [Python.validateQQModelAssistContext, unit_bind_eq_ok, Python.requireHash, require_eq_ok, decide_eq_true_eq,
    Recorded.iff]

theorem Python.modelBinding_iff : Python.validateQQModelCandidateBinding runtime payload = .ok () ↔
    Recorded runtime payload qqModelCandidateBindingSchema "binding_sha256" := by
  rw [Python.validateQQModelCandidateBinding, unit_bind_eq_ok, Python.requireHash, require_eq_ok, decide_eq_true_eq,
    Recorded.iff]

theorem Python.privatePreview_iff : Python.validateQQModelPrivatePreview runtime payload = .ok () ↔
    Recorded runtime payload qqModelPrivatePreviewSchema "preview_sha256" ∧ startsWithPrefix payload = true := by
  rw [Python.validateQQModelPrivatePreview, unit_bind_eq_ok, unit_bind_eq_ok, require_eq_ok, Python.requireHash,
    require_eq_ok, decide_eq_true_eq, Recorded.iff, and_assoc]
  exact and_congr_right fun _ => and_comm

end Records

section Accepted

variable {schemas : List ContractSchema} {runtime : SchemaRuntime schemas} {payload : JsonFields}

/-- The totals of a block of integers are compared alike. -/
theorem tokenTotals_alike {schema : ContractSchema} {block : String} {fields : FieldRules}
    (h : schema.accepts payload = true) (hblock : block ∈ schema.required.map (·.1))
    (hfields : schema.rule? block = some (.record fields))
    (htotal : fields.rule? "total_tokens" = some (.integer 0)) :
    Python.eq ((fieldsOf (payload.get? block)).get? "total_tokens")
        (sumOf (fieldsOf (payload.get? block)) "input_tokens" "output_tokens") = true ↔
      TypeScript.tokenTotals (payload.get? block) = true := by
  rw [TypeScript.tokenTotals, nested_sum_alike h hblock hfields htotal rfl]

theorem Python.caseBudget_iff (hmem : qqModelCaseBudgetSchema ∈ schemas) :
    Python.validateQQModelCaseBudget runtime.toContractRuntime payload = .ok () ↔
      Recorded runtime.toContractRuntime payload qqModelCaseBudgetSchema "budget_sha256" ∧ BudgetFacts payload := by
  rw [Python.validateQQModelCaseBudget, unit_bind_eq_ok, Recorded.iff, and_assoc]
  refine and_congr_right fun hschema => ?_
  have haccepts := runtime.accepted hschema hmem
  have hreserved := tokenTotals_alike haccepts (show "reserved" ∈ _ by decide) rfl rfl
  have hused := tokenTotals_alike haccepts (show "used" ∈ _ by decide) rfl rfl
  simp only [Python.tokenTotals, unit_bind_eq_ok, forM_require_eq_ok, List.forall_mem_cons, List.not_mem_nil,
    false_imp_iff, implies_true, and_true, hreserved, hused, require_eq_ok, Python.requireHash, decide_eq_true_eq]
  constructor
  · rintro ⟨⟨hr, hu⟩, hwithin, hhash⟩
    exact ⟨hhash, hr, hu, hwithin⟩
  · rintro ⟨hhash, h⟩
    exact ⟨⟨h.reserved, h.used⟩, h.within, hhash⟩

theorem Python.invocationEvidence_iff (hmem : qqModelInvocationEvidenceSchema ∈ schemas) :
    Python.validateQQModelInvocationEvidence runtime.toContractRuntime payload = .ok () ↔
      (Recorded runtime.toContractRuntime payload qqModelInvocationEvidenceSchema "evidence_sha256" ∧
        EvidenceFacts payload) ∧
      (payload.get? "status" ≠ some (.str "intent_recorded") →
        payload.get? "observation_id" ≠ some .null ∧ payload.get? "observed_at" ≠ some .null) ∧
      (payload.get? "status" = some (.str "provider_outcome_unknown") →
        isNamed (payload.get? "failure_classification") = true) := by
  rw [Python.validateQQModelInvocationEvidence, unit_bind_eq_ok, Recorded.iff, and_assoc, and_assoc]
  refine and_congr_right fun hschema => ?_
  have haccepts := runtime.accepted hschema hmem
  have hreservation := tokenTotals_alike haccepts (show "reservation" ∈ _ by decide) rfl rfl
  have husage := tokenTotals_alike haccepts (show "usage" ∈ _ by decide) rfl rfl
  simp only [Python.tokenTotals, unit_bind_eq_ok, forM_require_eq_ok, List.forall_mem_cons, List.not_mem_nil,
    false_imp_iff, implies_true, and_true, hreservation, husage, require_eq_ok, Python.requireHash,
    decide_eq_true_eq, Bool.or_eq_true, Bool.and_eq_true, Bool.not_eq_true', ← Bool.not_eq_true, Python.eq_text,
    ← imp_iff_not_or]
  constructor
  · rintro ⟨⟨hr, hu⟩, hintent, hobserved, hclassified, hhash⟩
    refine ⟨hhash, ⟨hr, hu, hintent, fun hnull => ?_⟩, fun hopen => hobserved.resolve_left hopen, hclassified⟩
    by_contra hopen
    exact (hobserved.resolve_left hopen).1 hnull.1
  · rintro ⟨hhash, h, hobserved, hclassified⟩
    refine ⟨⟨h.reservation, h.usage⟩, h.intended.mp, ?_, hclassified, hhash⟩
    by_cases hintent : payload.get? "status" = some (.str "intent_recorded")
    · exact .inl hintent
    · exact .inr (hobserved hintent)

/-- An identifier is no empty text, so that one that is named is a text. -/
theorem isNamed_of_identifier {stem : String} {value : Json} (hstem : stem.toList ≠ [])
    (h : (FieldRule.nullable (.identifier stem)).accepts value = true) :
    isNamed (some value) = TypeScript.isString (some value) := by
  rw [FieldRule.accepts, Bool.or_eq_true, decide_eq_true_eq] at h
  rcases h with rfl | h
  · rfl
  · rw [FieldRule.identifier, FieldRule.coded, FieldRule.accepts, Bool.and_eq_true] at h
    cases value with
    | str s =>
        have hstart := h.1
        rw [FieldRule.accepts, Bool.and_eq_true] at hstart
        show decide (s ≠ "") = true
        rw [decide_eq_true_eq]
        rintro rfl
        exact hstem (List.prefix_nil.mp (List.isPrefixOf_iff_prefix.mp hstart.1))
    | _ => cases h.1

theorem Python.assistOutcome_iff (hmem : qqModelAssistOutcomeSchema ∈ schemas) :
    Python.validateQQModelAssistOutcome runtime.toContractRuntime payload = .ok () ↔
      Recorded runtime.toContractRuntime payload qqModelAssistOutcomeSchema "outcome_sha256" ∧
        (payload.get? "terminal_outcome" = some (.str "response_ready") ↔
          TypeScript.isString (payload.get? "candidate_binding_id") = true ∧
            TypeScript.isString (payload.get? "private_preview_id") = true) := by
  have hsame : ∀ ready first second : Bool,
      ready = (first && second) ↔ (ready = true ↔ first = true ∧ second = true) := by decide
  rw [Python.validateQQModelAssistOutcome, unit_bind_eq_ok, Recorded.iff, and_assoc]
  refine and_congr_right fun hschema => ?_
  have haccepts := runtime.accepted hschema hmem
  obtain ⟨binding, hbinding, hbindingRule⟩ :=
    ContractSchema.required_value haccepts (show "candidate_binding_id" ∈ _ by decide) rfl
  obtain ⟨preview, hpreview, hpreviewRule⟩ :=
    ContractSchema.required_value haccepts (show "private_preview_id" ∈ _ by decide) rfl
  rw [unit_bind_eq_ok, require_eq_ok, decide_eq_true_eq, hbinding, hpreview,
    isNamed_of_identifier (by decide) hbindingRule, isNamed_of_identifier (by decide) hpreviewRule, hsame,
    Python.eq_text, Python.requireHash, require_eq_ok, decide_eq_true_eq]
  exact and_comm

end Accepted

/-! ## The lineage -/

section Lineage

variable {schemas : List ContractSchema} {runtime : SchemaRuntime schemas} {time : TimeReader} {r : LineageRecords}

/-- **What both languages compare is a text**, once the records are of their kinds. -/
theorem LineageRecords.links_text (haccepts : ∀ claim ∈ r.claims, claim.2.1.accepts claim.1 = true) :
    ∀ pair ∈ r.links ++ paired r.binding r.context [("context_sha256", "context_sha256")] ++
      paired r.preview r.binding [("candidate_sha256", "candidate_sha256")], ∃ s, pair.2 = some (.str s) := by
  simp only [LineageRecords.claims, List.forall_mem_cons, List.not_mem_nil, false_imp_iff, implies_true, and_true]
    at haccepts
  obtain ⟨-, hcontext, hbudget, hinvocation, hbinding, hpreview, -⟩ := haccepts
  simp only [LineageRecords.links, List.forall_mem_append, and_assoc]
  exact ⟨paired_text hcontext (by decide), paired_text hcontext (by decide), paired_text hinvocation (by decide),
    paired_text hbudget (by decide), paired_text hbudget (by decide), paired_text hbinding (by decide),
    paired_text hbinding (by decide), paired_text hpreview (by decide), paired_text hcontext (by decide),
    paired_text hbinding (by decide)⟩

/-- The fields that every record has in common with the request. -/
theorem LineageRecords.common_iff (hrequest : qqModelAssistRequestSchema.accepts r.request = true) :
    ((∀ record ∈ r.toList.tail, ∀ field ∈ lineageFields ++ ["assist_request_id"],
        Python.eq (record.get? field) (r.request.get? field) = true) ↔
      ∀ record ∈ r.toList.tail, ∀ field ∈ lineageFields ++ ["assist_request_id"],
        record.get? field = r.request.get? field) ∧
    ((∀ record ∈ r.toList.tail, ∀ field ∈ lineageFields ++ ["assist_request_id"],
        TypeScript.eq (record.get? field) (r.request.get? field) = true) ↔
      ∀ record ∈ r.toList.tail, ∀ field ∈ lineageFields ++ ["assist_request_id"],
        record.get? field = r.request.get? field) := by
  have htext : ∀ field ∈ lineageFields ++ ["assist_request_id"], ∃ s, r.request.get? field = some (.str s) :=
    fun field hfield => ContractSchema.text_of_texts hrequest (show _ = true by decide) hfield
  constructor
  · refine forall₂_congr fun record _ => forall₂_congr fun field hfield => ?_
    obtain ⟨s, hs⟩ := htext field hfield
    exact (eq_iff_of_text (.inr hs)).1
  · refine forall₂_congr fun record _ => forall₂_congr fun field hfield => ?_
    obtain ⟨s, hs⟩ := htext field hfield
    exact (eq_iff_of_text (.inr hs)).2

theorem TypeScript.lineage_iff (hschemas : lineageSchemas ⊆ schemas) :
    TypeScript.validateQQModelLineage runtime.toContractRuntime time r.toList = .ok () ↔
      LineageFacts runtime.toContractRuntime r ∧ TypeScriptLineage time r := by
  have haccepted : (∀ claim ∈ r.claims, Recorded runtime.toContractRuntime claim.1 claim.2.1 claim.2.2) →
      ∀ claim ∈ r.claims, claim.2.1.accepts claim.1 = true := accepted_of_recorded hschemas
  have hlinked : (∀ claim ∈ r.claims, Recorded runtime.toContractRuntime claim.1 claim.2.1 claim.2.2) →
      ((∀ pair ∈ r.links, TypeScript.eq pair.1 pair.2 = true) ↔ ∀ pair ∈ r.links, pair.1 = pair.2) := by
    intro hrecorded
    have htexts := LineageRecords.links_text (haccepted hrecorded)
    exact (linked_iff fun pair hpair =>
      htexts pair (List.mem_append_left _ (List.mem_append_left _ hpair))).2
  have hcommon : (∀ claim ∈ r.claims, Recorded runtime.toContractRuntime claim.1 claim.2.1 claim.2.2) → _ :=
    fun hrecorded => (LineageRecords.common_iff (r := r) (haccepted hrecorded (r.request, _, _) List.mem_cons_self)).2
  show TypeScript.validateQQModelRecords _ _ r = _ ↔ _
  simp only [TypeScript.validateQQModelRecords, unit_bind_eq_ok, require_eq_ok, Bool.and_eq_true, isOk_eq_true,
    TypeScript.assistRequest_iff, TypeScript.assistContext_iff, TypeScript.caseBudget_iff,
    TypeScript.invocationEvidence_iff, TypeScript.modelBinding_iff, TypeScript.privatePreview_iff,
    TypeScript.assistOutcome_iff, List.all_eq_true]
  constructor
  · rintro ⟨⟨⟨⟨⟨⟨⟨⟨rrequest, hdated⟩, rcontext⟩, rbudget, hbudget⟩, rinvocation, hinvocation⟩, rbinding⟩, rpreview,
      hpreview⟩, routcome, houtcome⟩, hfields, hlinks⟩
    have hrecorded : ∀ claim ∈ r.claims, Recorded runtime.toContractRuntime claim.1 claim.2.1 claim.2.2 := by
      simp only [LineageRecords.claims, List.forall_mem_cons, List.not_mem_nil, false_imp_iff, implies_true, and_true]
      exact ⟨rrequest, rcontext, rbudget, rinvocation, rbinding, rpreview, routcome⟩
    refine ⟨⟨hrecorded, hbudget, hinvocation, hpreview, houtcome, (hcommon hrecorded).mp ?_,
      (hlinked hrecorded).mp ?_⟩, hdated⟩
    · intro record hrecord field hfield
      rcases List.mem_append.mp hfield with hfield | hfield
      · exact (hfields record hrecord).1 field hfield
      · rw [List.mem_singleton.mp hfield]
        exact (hfields record hrecord).2
    · simp only [LineageRecords.links, paired, List.map_cons, List.map_nil, List.forall_mem_append,
        List.forall_mem_cons, List.not_mem_nil, false_imp_iff, implies_true, and_true, and_assoc]
      simpa only [and_assoc] using hlinks
  · rintro ⟨h, hdated⟩
    have hfields := (hcommon h.recorded).mpr h.common
    have hlinks := (hlinked h.recorded).mpr h.linked
    have hrecorded := h.recorded
    simp only [LineageRecords.claims, List.forall_mem_cons, List.not_mem_nil, false_imp_iff, implies_true, and_true]
      at hrecorded
    obtain ⟨rrequest, rcontext, rbudget, rinvocation, rbinding, rpreview, routcome⟩ := hrecorded
    refine ⟨⟨⟨⟨⟨⟨⟨⟨rrequest, hdated⟩, rcontext⟩, rbudget, h.budget⟩, rinvocation, h.invocation⟩, rbinding⟩, rpreview,
      h.preview⟩, routcome, h.outcome⟩, ?_, ?_⟩
    · intro record hrecord
      exact ⟨fun field hfield => hfields record hrecord field (List.mem_append_left _ hfield),
        hfields record hrecord _ (List.mem_append_right _ List.mem_cons_self)⟩
    · simp only [LineageRecords.links, paired, List.map_cons, List.map_nil, List.forall_mem_append,
        List.forall_mem_cons, List.not_mem_nil, false_imp_iff, implies_true, and_true, and_assoc] at hlinks
      simpa only [and_assoc] using hlinks

theorem Python.lineage_iff (hschemas : lineageSchemas ⊆ schemas) :
    Python.validateQQModelLineage runtime.toContractRuntime time r = .ok () ↔
      LineageFacts runtime.toContractRuntime r ∧ PythonLineage time r := by
  have haccepted : (∀ claim ∈ r.claims, Recorded runtime.toContractRuntime claim.1 claim.2.1 claim.2.2) →
      ∀ claim ∈ r.claims, claim.2.1.accepts claim.1 = true := accepted_of_recorded hschemas
  have hlinked := fun hrecorded : (∀ claim ∈ r.claims,
    Recorded runtime.toContractRuntime claim.1 claim.2.1 claim.2.2) =>
      (linked_iff (LineageRecords.links_text (haccepted hrecorded))).1
  have hcommon : (∀ claim ∈ r.claims, Recorded runtime.toContractRuntime claim.1 claim.2.1 claim.2.2) → _ :=
    fun hrecorded => (LineageRecords.common_iff (r := r) (haccepted hrecorded (r.request, _, _) List.mem_cons_self)).1
  have hbudget := @Python.caseBudget_iff schemas runtime r.budget (hschemas (by simp [lineageSchemas]))
  have hinvocation := @Python.invocationEvidence_iff schemas runtime r.invocation (hschemas (by simp [lineageSchemas]))
  have houtcome := @Python.assistOutcome_iff schemas runtime r.outcome (hschemas (by simp [lineageSchemas]))
  simp only [Python.validateQQModelLineage, unit_bind_eq_ok, require_eq_ok, forM_require_eq_ok,
    Python.assistRequest_iff, Python.assistContext_iff, hbudget, hinvocation, Python.modelBinding_iff,
    Python.privatePreview_iff, houtcome, List.all_eq_true, Bool.and_eq_true]
  simp only [LineageRecords.links, paired, List.map_cons, List.map_nil, List.forall_mem_append,
    List.forall_mem_cons, List.not_mem_nil, false_imp_iff, implies_true, and_true, and_assoc] at hlinked
  constructor
  · rintro ⟨⟨rrequest, hdated⟩, rcontext, ⟨rbudget, hbudget⟩, ⟨⟨rinvocation, hinvocation⟩, hobserved, hclassified⟩,
      rbinding, ⟨rpreview, hpreview⟩, ⟨routcome, houtcome⟩, hfields, hassist, hlinks⟩
    have hrecorded : ∀ claim ∈ r.claims, Recorded runtime.toContractRuntime claim.1 claim.2.1 claim.2.2 := by
      simp only [LineageRecords.claims, List.forall_mem_cons, List.not_mem_nil, false_imp_iff, implies_true, and_true]
      exact ⟨rrequest, rcontext, rbudget, rinvocation, rbinding, rpreview, routcome⟩
    obtain ⟨⟨⟨⟨⟨⟨⟨⟨⟨⟨⟨⟨l1, l2⟩, l3⟩, hcontext⟩, l4⟩, l5⟩, l6⟩, l7⟩, l8⟩, hcandidate⟩, l9⟩, l10⟩, l11⟩ := hlinks
    obtain ⟨l1, l2, l3, l4, l5, l6, l7, l8, l9, l10, l11, hcontext, hcandidate⟩ :=
      (hlinked hrecorded).mp ⟨l1, l2, l3, l4, l5, l6, l7, l8, l9, l10, l11, hcontext, hcandidate⟩
    refine ⟨⟨hrecorded, hbudget, hinvocation, hpreview, houtcome, (hcommon hrecorded).mp ?_, ?_⟩,
      ⟨hcontext, hcandidate, hobserved, hclassified, hdated⟩⟩
    · intro record hrecord field hfield
      rcases List.mem_append.mp hfield with hfield | hfield
      · exact hfields record hrecord field hfield
      · rw [List.mem_singleton.mp hfield]
        exact hassist record hrecord
    · simp only [LineageRecords.links, paired, List.map_cons, List.map_nil, List.forall_mem_append,
        List.forall_mem_cons, List.not_mem_nil, false_imp_iff, implies_true, and_true, and_assoc]
      exact ⟨l1, l2, l3, l4, l5, l6, l7, l8, l9, l10, l11⟩
  · rintro ⟨h, hpython⟩
    have hfields := (hcommon h.recorded).mpr h.common
    have hlinks := h.linked
    simp only [LineageRecords.links, paired, List.map_cons, List.map_nil, List.forall_mem_append,
      List.forall_mem_cons, List.not_mem_nil, false_imp_iff, implies_true, and_true, and_assoc] at hlinks
    obtain ⟨l1, l2, l3, l4, l5, l6, l7, l8, l9, l10, l11⟩ := hlinks
    obtain ⟨l1, l2, l3, l4, l5, l6, l7, l8, l9, l10, l11, hcontext, hcandidate⟩ :=
      (hlinked h.recorded).mpr
        ⟨l1, l2, l3, l4, l5, l6, l7, l8, l9, l10, l11, hpython.context, hpython.candidate⟩
    have hrecorded := h.recorded
    simp only [LineageRecords.claims, List.forall_mem_cons, List.not_mem_nil, false_imp_iff, implies_true, and_true]
      at hrecorded
    obtain ⟨rrequest, rcontext, rbudget, rinvocation, rbinding, rpreview, routcome⟩ := hrecorded
    refine ⟨⟨rrequest, hpython.dated⟩, rcontext, ⟨rbudget, h.budget⟩,
      ⟨⟨rinvocation, h.invocation⟩, hpython.observed, hpython.classified⟩, rbinding, ⟨rpreview, h.preview⟩,
      ⟨routcome, h.outcome⟩, ?_, ?_, ?_⟩
    · intro record hrecord field hfield
      exact hfields record hrecord field (List.mem_append_left _ hfield)
    · intro record hrecord
      exact hfields record hrecord _ (List.mem_append_right _ List.mem_cons_self)
    · exact ⟨⟨⟨⟨⟨⟨⟨⟨⟨⟨⟨⟨l1, l2⟩, l3⟩, hcontext⟩, l4⟩, l5⟩, l6⟩, l7⟩, l8⟩, hcandidate⟩, l9⟩, l10⟩, l11⟩

end Lineage

def detachedDigest : Nat → String
  | 1 => "1111111111111111111111111111111111111111111111111111111111111111"
  | 2 => "2222222222222222222222222222222222222222222222222222222222222222"
  | 3 => "3333333333333333333333333333333333333333333333333333333333333333"
  | 4 => "4444444444444444444444444444444444444444444444444444444444444444"
  | _ => "0000000000000000000000000000000000000000000000000000000000000000"

def detachedId (stem : String) : String := stem ++ "00000000000000000000000000000000"

/-- The hashes that the seven records claim. -/
def detachedHash : String → String
  | "request_sha256" => "d388b92718dc21dd8e5c41e8e0df0076d8821e7d02318162eb075179fcd0b7fa"
  | "context_sha256" => "6754b364123d5e56f09476a1f546bd2c129f3914000b27e40db14ac439ccf3a5"
  | "budget_sha256" => "ae80cfd86122262c867f27f4583f3b4a70b28c96c82cbd22ac9a1f392a72e0ed"
  | "evidence_sha256" => "201b89c328005e38d6a067965ff1d7f8a7a9086cd653847cbf644c7219940e7a"
  | "binding_sha256" => "17cfaac972deb9e368a1491d6f87eda883c3208c141cf616eaebd2ca42aa3d09"
  | "preview_sha256" => "ed5b6ec1f3ec2d58769559f8d5dc8d8f65a4ffddca5ce4abb53ffef998d10e56"
  | _ => "2aa5c6b608f8592845e916810fa2a2782681128eb249fb00e71f6048412f5d30"

def detachedRuntime : SchemaRuntime (liveSchemas ++ lineageSchemas) := schemaRuntime _ detachedHash (fun _ => none)

/-- Both libraries read the two times of the lineage. -/
def detachedTimes : TimeReader where
  fromIsoformat := fun text =>
    if text = "2026-01-01T01:00:00Z" then some ⟨true, 3600⟩
    else if text = "2026-01-01T00:00:00Z" then some ⟨true, 0⟩
    else none
  dateParse := fun text =>
    if text = "2026-01-01T01:00:00Z" then some 3600000
    else if text = "2026-01-01T00:00:00Z" then some 0
    else none

def zeroes (fields : FieldRules) : JsonFields := .ofList (fields.names.map fun field => (field, .int 0))

/-- The fields that the seven records have in common. -/
def detachedCase : List (String × Json) :=
  [("schema_version", .str "v1"), ("tenant_id", .str "tenant-alpha"),
   ("case_id", .str "case_000000000000000000000000"), ("case_revision_id", .str "revision-1"),
   ("handler_binding_id", .str (detachedId "qqhbind_")), ("assist_request_id", .str (detachedId "qqmar_"))]

/-- A lineage whose candidate is bound to a context that is not the one on record. -/
def detachedLineage : LineageRecords where
  request := .ofList
    ([("schema_id", .str qqModelAssistRequestSchema.id)] ++ detachedCase ++
     [("issue_artifact_id", .str (detachedId "qqa_")), ("issue_content_sha256", .str (detachedDigest 0)),
      ("qq_capability_profile_hash", .str (detachedDigest 0)), ("model_capability_profile_hash",
      .str (detachedDigest 0)),
      ("natural_key", .str (detachedDigest 0)), ("source_message_id_hash", .str (detachedDigest 0)),
      ("expected_workflow_version", .int 1), ("stage3_profile_sha256", .str (detachedDigest 0)),
      ("policy_profile_sha256", .str (detachedDigest 0)), ("budget_profile_sha256", .str (detachedDigest 0)),
      ("status", .str "RESPONSE_READY"), ("created_at", .str "2026-01-01T00:00:00Z"),
      ("expires_at", .str "2026-01-01T01:00:00Z"), ("request_sha256", .str (detachedHash "request_sha256"))])
  context := .ofList
    ([("schema_id", .str qqModelAssistContextSchema.id)] ++ detachedCase ++
     [("issue_artifact_id", .str (detachedId "qqa_")), ("issue_content_sha256", .str (detachedDigest 0)),
      ("qq_capability_profile_hash", .str (detachedDigest 0)), ("model_capability_profile_hash",
      .str (detachedDigest 0)),
      ("context_id", .str (detachedId "qqmacx_")), ("issue_view_sha256", .str (detachedDigest 0)),
      ("issue_view_length", .int 1), ("issue_classification", .str "untrusted_redacted_qq_issue"),
      ("source_profile_sha256", .str (detachedDigest 0)),
      ("ordered_source_sha256s", .arr (.ofList [.str (detachedDigest 1), .str (detachedDigest 2),
        .str (detachedDigest 3), .str (detachedDigest 4)])),
      ("prompt_template_sha256", .str (detachedDigest 0)), ("policy_profile_sha256", .str (detachedDigest 0)),
      ("provider_profile_sha256", .str (detachedDigest 0)), ("price_profile_sha256", .str (detachedDigest 0)),
      ("budget_profile_sha256", .str (detachedDigest 0)), ("created_at", .str "2026-01-01T00:00:00Z"),
      ("context_sha256", .str (detachedHash "context_sha256"))])
  budget := .ofList
    ([("schema_id", .str qqModelCaseBudgetSchema.id)] ++ detachedCase ++
     [("budget_id", .str (detachedId "qqmab_")), ("profile_sha256", .str (detachedDigest 0)),
      ("reserved", .obj (zeroes budgetFields)), ("used", .obj (zeroes budgetFields)),
      ("pessimistic_unknown_accounted", .bool false), ("recorded_at", .str "2026-01-01T00:00:00Z"),
      ("budget_sha256", .str (detachedHash "budget_sha256"))])
  invocation := .ofList
    ([("schema_id", .str qqModelInvocationEvidenceSchema.id)] ++ detachedCase ++
     [("invocation_id", .str (detachedId "qqmai_")), ("logical_turn_id", .str (detachedId "qqmat_")),
      ("context_id", .str (detachedId "qqmacx_")), ("context_sha256", .str (detachedHash "context_sha256")),
      ("intent_sha256", .str (detachedDigest 0)), ("observation_id", .str (detachedId "qqmao_")), ("status",
      .str "completed"),
      ("request_reference_sha256", .null), ("response_sha256", .null),
      ("provider_profile_sha256", .str (detachedDigest 0)), ("model_id_sha256", .str (detachedDigest 0)),
      ("price_profile_sha256", .str (detachedDigest 0)), ("reservation", .obj (zeroes tokenFields)), ("usage",
      .obj (zeroes tokenFields)),
      ("provider_latency_ms", .int 0), ("estimated_cost", .int 0), ("failure_classification", .null),
      ("intent_created_at", .str "2026-01-01T00:00:00Z"), ("observed_at", .str "2026-01-01T00:00:00Z"),
      ("evidence_sha256", .str (detachedHash "evidence_sha256"))])
  binding := .ofList
    ([("schema_id", .str qqModelCandidateBindingSchema.id)] ++ detachedCase ++
     [("issue_artifact_id", .str (detachedId "qqa_")), ("issue_content_sha256", .str (detachedDigest 0)),
      ("qq_capability_profile_hash", .str (detachedDigest 0)), ("model_capability_profile_hash",
      .str (detachedDigest 0)),
      ("binding_id", .str (detachedId "qqmcb_")), ("workflow_version", .int 2), ("context_id",
      .str (detachedId "qqmacx_")),
      ("context_sha256", .str (detachedDigest 0)), ("invocation_id", .str (detachedId "qqmai_")),
      ("invocation_evidence_sha256", .str (detachedHash "evidence_sha256")), ("action_sha256",
      .str (detachedDigest 0)),
      ("ordered_evidence_sha256s", .arr (.ofList [.str (detachedDigest 1), .str (detachedDigest 2),
        .str (detachedDigest 3)])),
      ("verifier_outcome_id", .str (detachedId "qqmvo_")), ("verifier_outcome_sha256", .str (detachedDigest 0)),
      ("budget_sha256", .str (detachedHash "budget_sha256")), ("candidate_artifact_id", .str (detachedId "qqa_")),
      ("candidate_revision_id", .str (detachedId "qqhcr_")), ("candidate_sha256", .str (detachedDigest 0)),
      ("approval_request_id", .str (detachedId "qqhar_")), ("policy_profile_sha256", .str (detachedDigest 0)),
      ("provider_profile_sha256", .str (detachedDigest 0)), ("prompt_template_sha256", .str (detachedDigest 0)),
      ("price_profile_sha256", .str (detachedDigest 0)), ("status", .str "CURRENT"),
      ("created_at", .str "2026-01-01T00:00:00Z"), ("binding_sha256", .str (detachedHash "binding_sha256"))])
  preview := .ofList
    ([("schema_id", .str qqModelPrivatePreviewSchema.id)] ++ detachedCase ++
     [("preview_id", .str (detachedId "qqmpv_")), ("source_message_id_hash", .str (detachedDigest 0)),
      ("candidate_artifact_id", .str (detachedId "qqa_")), ("candidate_sha256", .str (detachedDigest 0)),
      ("evidence_count", .int 1), ("evidence_summary_sha256", .str (detachedDigest 0)),
      ("budget_sha256", .str (detachedHash "budget_sha256")), ("approval_request_id", .str (detachedId "qqhar_")),
      ("candidate_hash_prefix", .str "000000000000"), ("workflow_version", .int 3),
      ("passive_reply_intent_id", .str (detachedId "qqhpi_")), ("created_at", .str "2026-01-01T00:00:00Z"),
      ("preview_sha256", .str (detachedHash "preview_sha256"))])
  outcome := .ofList
    ([("schema_id", .str qqModelAssistOutcomeSchema.id)] ++ detachedCase ++
     [("outcome_id", .str (detachedId "qqmao_")), ("terminal_outcome", .str "response_ready"),
      ("reason_code", .str "ready"), ("invocation_count", .int 1), ("tool_count", .int 0),
      ("candidate_binding_id", .str (detachedId "qqmcb_")), ("private_preview_id", .str (detachedId "qqmpv_")),
      ("manual_draft_available", .bool true), ("approval_authorized", .bool false),
      ("delivery_authorized", .bool false), ("customer_outcome_verified", .bool false),
      ("completed_at", .str "2026-01-01T00:00:00Z"), ("outcome_sha256", .str (detachedHash "outcome_sha256"))])

end WeFlow
