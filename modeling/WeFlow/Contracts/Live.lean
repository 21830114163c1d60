import WeFlow.Contracts.Operator

/-!
# `Live` — the records of a live evaluation in both languages

A live evaluation leaves seven records: the intent of a model invocation with its observation, the artifact that
was drafted, its binding to a candidate, the metrics and the attempt that they belong to, and the report of the
suite. `live.py` and `live.ts` check each record for itself and then the links between them. TypeScript leaves out
some links; each language reads timestamps with its own library.

## Contents

* `TimeReader` — how the languages read timestamps.
* `Python.validateLiveContractChain`, `TypeScript.validateLiveContractChain` — the validators.
* `LiveFacts` — what both require; `PythonLive`, `TypeScriptLive` — what one of them requires beside.
-/

namespace WeFlow

open Txn

/-! ## Schemas -/

def currencyRule : FieldRule := .both (.pattern "" [('A', 'Z')] 3) (.maxLength 3)

def reservationFields : FieldRules :=
  .ofList
    [("call_count", .literal (.int 1)), ("input_tokens", .integer 1), ("output_tokens", .integer 1),
     ("total_tokens", .integer 2), ("estimated_cost", .number 0), ("wall_time_ms", .integer 1),
     ("request_timeout_ms", .integer 1)]

def modelInvocationIntentSchema : ContractSchema where
  name := "model-invocation-intent"
  required :=
    [("schema_id", .const (contractSchemaId "model-invocation-intent")), ("schema_version", .const "v1"),
     ("tenant_id", .text 1), ("evaluation_session_id", .text 1), ("suite_id", .const "live-pilot.v1"),
     ("evaluation_task_id", .text 1), ("attempt_id", .text 1), ("logical_turn_id", .text 1),
     ("invocation_id", .text 1), ("context_manifest_id", .text 1), ("context_sha256", .hash false),
     ("prompt_template_id", .text 1), ("prompt_template_sha256", .hash false),
     ("source_sha256s", .both (.both (.list 1 (.hash false)) (.maxItems 8)) .uniqueItems),
     ("provider_profile_id", .text 1), ("provider_profile_sha256", .hash false), ("model_id_sha256", .hash false),
     ("price_profile_id", .text 1), ("price_profile_sha256", .hash false),
     ("reservation", .record reservationFields), ("created_at", .text 1), ("intent_sha256", .hash false)]
  optional := []

def invocationStatuses : List String :=
  ["completed", "observed_retryable_error", "provider_outcome_unknown", "malformed_model_output", "rejected"]

def failureClassifications : List String :=
  ["provider_rate_limited", "provider_unavailable", "provider_outcome_unknown", "malformed_model_output",
   "provider_rejected"]

def usageFields : FieldRules :=
  .ofList
    [("available", .boolean), ("input_tokens", .integer 0), ("output_tokens", .integer 0),
     ("total_tokens", .integer 0)]

def modelInvocationObservationSchema : ContractSchema where
  name := "model-invocation-observation"
  required :=
    [("schema_id", .const (contractSchemaId "model-invocation-observation")), ("schema_version", .const "v1"),
     ("tenant_id", .text 1), ("evaluation_session_id", .text 1), ("suite_id", .const "live-pilot.v1"),
     ("evaluation_task_id", .text 1), ("attempt_id", .text 1), ("logical_turn_id", .text 1),
     ("invocation_id", .text 1), ("observation_id", .text 1), ("status", .enum invocationStatuses),
     ("request_reference_sha256", .nullable (.hash false)), ("response_sha256", .nullable (.hash false)),
     ("usage", .record usageFields), ("provider_latency_ms", .integer 0), ("estimated_cost", .number 0),
     ("currency", currencyRule), ("failure_classification", .nullable (.enum failureClassifications)),
     ("observed_at", .text 1), ("observation_sha256", .hash false)]
  optional := []

def claimEvidenceFields : FieldRules :=
  .ofList [("claim_sha256", .hash false), ("evidence_sha256", .hash false)]

def responseDraftArtifactSchema : ContractSchema where
  name := "response-draft-artifact"
  required :=
    [("schema_id", .const (contractSchemaId "response-draft-artifact")), ("schema_version", .const "v1"),
     ("tenant_id", .text 1), ("case_id", .text 1), ("case_revision_id", .text 1), ("attempt_id", .text 1),
     ("producer_invocation_id", .text 1), ("artifact_id", .text 1), ("content_sha256", .hash false),
     ("media_type", .const "application/json"), ("classification", .const "synthetic_redacted"),
     ("claim_evidence_summary", .both (.list 1 (.record claimEvidenceFields)) (.maxItems 8)),
     ("retention_mode", .enum ["ephemeral", "redacted_diagnostics"]), ("created_at", .text 1),
     ("expires_at", .text 1), ("producer", .const "live-model-evaluation"), ("artifact_sha256", .hash false)]
  optional := []

def liveCandidateBindingSchema : ContractSchema where
  name := "live-candidate-binding"
  required :=
    [("schema_id", .const (contractSchemaId "live-candidate-binding")), ("schema_version", .const "v1"),
     ("tenant_id", .text 1), ("case_id", .text 1), ("case_revision_id", .text 1), ("workflow_id", .text 1),
     ("checkpoint_id", .text 1), ("context_manifest_id", .text 1), ("context_sha256", .hash false),
     ("attempt_id", .text 1), ("invocation_id", .text 1), ("observation_id", .text 1), ("step_id", .text 1),
     ("action_sha256", .hash false), ("draft_artifact_id", .text 1), ("draft_content_sha256", .hash false),
     ("evidence_hashes", .both (.both (.list 1 (.hash false)) (.maxItems 3)) .uniqueItems),
     ("candidate_id", .text 1), ("candidate_sha256", .hash false), ("verification_state", .const "pending"),
     ("binding_sha256", .hash false)]
  optional := []

def terminalOutcomes : List String :=
  ["response_ready", "needs_information", "needs_operator", "tool_timeout", "budget_exhausted",
   "malformed_model_output", "policy_denied", "provider_outcome_unknown"]

def failureAttributions : List String :=
  ["configuration", "provider_network", "model_output", "model_quality", "harness_policy", "harness_verifier",
   "tool_fault", "budget", "evaluator_integrity"]

def liveCapabilityFields : FieldRules :=
  .ofList
    [("live", .literal (.bool true)), ("replay", .literal (.bool false)), ("network", .literal (.bool true)),
     ("model", .literal (.bool true)), ("external_business_write", .literal (.bool false)),
     ("approval", .literal (.bool false)), ("delivery", .literal (.bool false)),
     ("customer_outcome_unverified", .literal (.bool true))]

def liveRunMetricsSchema : ContractSchema where
  name := "live-run-metrics"
  required :=
    [("schema_id", .const (contractSchemaId "live-run-metrics")), ("schema_version", .const "v1"),
     ("tenant_id", .text 1), ("live_run_metrics_id", .text 1), ("suite_id", .const "live-pilot.v1"),
     ("evaluation_task_id", .text 1), ("attempt_id", .text 1), ("price_profile_id", .text 1),
     ("price_profile_sha256", .hash false), ("model_id_sha256", .hash false), ("invocation_count", .integer 0),
     ("successful_invocation_count", .integer 0), ("failed_invocation_count", .integer 0),
     ("valid_proposal_count", .integer 0), ("action_count", .integer 0), ("tool_call_count", .integer 0),
     ("input_tokens", .integer 0), ("output_tokens", .integer 0), ("total_tokens", .integer 0),
     ("estimated_cost", .number 0), ("currency", currencyRule), ("provider_latency_ms", .integer 0),
     ("end_to_end_latency_ms", .integer 0), ("wall_time_ms", .integer 0), ("retry_count", .integer 0),
     ("no_progress_count", .integer 0), ("terminal_outcome", .enum terminalOutcomes),
     ("failure_attribution", .nullable (.enum failureAttributions)),
     ("external_business_write_count", .literal (.int 0)), ("capability_flags", .record liveCapabilityFields),
     ("metrics_sha256", .hash false)]
  optional := []

def attemptGateFields : FieldRules := .ofList [("name", .text 1), ("passed", .boolean), ("reason_code", .text 1)]

def qualityDimensionFields : FieldRules :=
  .ofList
    [("name", .enum
        ["expected_outcome", "action_validity", "tool_efficiency", "evidence_grounding", "response_structure"]),
     ("score", .range 0 100)]

def liveEvaluationAttemptSchema : ContractSchema where
  name := "live-evaluation-attempt"
  required :=
    [("schema_id", .const (contractSchemaId "live-evaluation-attempt")), ("schema_version", .const "v1"),
     ("tenant_id", .text 1), ("evaluation_session_id", .text 1), ("suite_id", .const "live-pilot.v1"),
     ("evaluation_task_id", .text 1), ("task_sha256", .hash false), ("oracle_sha256", .hash false),
     ("attempt_id", .text 1), ("attempt_index", .range 1 5), ("live_run_metrics_id", .text 1),
     ("metrics_sha256", .hash false), ("invocation_observation_ids", .both (.list 0 (.text 1)) .uniqueItems),
     ("candidate_binding_id", .nullable (.text 1)), ("verifier_outcome_id", .nullable (.text 1)),
     ("terminal_outcome", .enum terminalOutcomes),
     ("hard_gates", .both (.list 1 (.record attemptGateFields)) .uniqueItems), ("hard_gate_passed", .boolean),
     ("quality_dimensions", .list 1 (.record qualityDimensionFields)),
     ("quality_score", .either (.range 0 100) (.const "not_scored")),
     ("failure_attribution", .nullable (.enum failureAttributions)), ("complete", .literal (.bool true)),
     ("approval_count", .literal (.int 0)), ("delivery_count", .literal (.int 0)),
     ("external_business_write_count", .literal (.int 0)), ("attempt_sha256", .hash false)]
  optional := []

def rateRule : FieldRule := .both (.number 0) (.maximum 1)

def latencyFields : List (String × FieldRule) :=
  [("provider_latency_p50_ms", .number 0), ("provider_latency_p95_ms", .number 0),
   ("end_to_end_latency_p50_ms", .number 0), ("end_to_end_latency_p95_ms", .number 0)]

def taskAggregateFields : FieldRules :=
  .ofList
    ([("evaluation_task_id", .text 1), ("attempt_count", .literal (.int 5)), ("success_rate", rateRule),
      ("hard_gate_rate", .literal (.int 1)), ("token_p50", .number 0), ("token_p95", .number 0),
      ("token_sample_variance", .number 0), ("cost_p50", .number 0), ("cost_p95", .number 0),
      ("cost_sample_variance", .number 0)] ++ latencyFields)

def suiteAggregateFields : FieldRules :=
  .ofList
    ([("success_rate", rateRule), ("hard_gate_rate", .literal (.int 1)), ("total_tokens", .integer 0),
      ("estimated_cost", .number 0), ("currency", currencyRule)] ++ latencyFields)

def liveEvaluationSuiteReportSchema : ContractSchema where
  name := "live-evaluation-suite-report"
  required :=
    [("schema_id", .const (contractSchemaId "live-evaluation-suite-report")), ("schema_version", .const "v1"),
     ("suite_report_id", .text 1), ("evaluation_session_id", .text 1), ("suite_id", .const "live-pilot.v1"),
     ("suite_sha256", .hash false), ("profile", .const "live-pilot.v1"), ("provider_profile_sha256", .hash false),
     ("model_id_sha256", .hash false), ("prompt_template_sha256", .hash false), ("price_profile_id", .text 1),
     ("price_profile_sha256", .hash false), ("task_count", .literal (.int 6)), ("attempt_count", .literal (.int 30)),
     ("attempt_ids", .both (.both (.list 30 (.text 1)) (.maxItems 30)) .uniqueItems),
     ("all_attempts_complete", .literal (.bool true)), ("all_hard_gates_passed", .literal (.bool true)),
     ("grounded_happy_path_success_count", .range 4 5), ("accepted", .literal (.bool true)),
     ("live_verified", .literal (.bool true)),
     ("task_aggregates", .both (.list 6 (.record taskAggregateFields)) (.maxItems 6)),
     ("suite_aggregate", .record suiteAggregateFields), ("capability_flags", .record liveCapabilityFields),
     ("limitations", .both (.list 1 (.textUpTo 1 160)) .uniqueItems), ("report_sha256", .hash false)]
  optional := []

def liveSchemas : List ContractSchema :=
  [modelInvocationIntentSchema, modelInvocationObservationSchema, responseDraftArtifactSchema,
   liveCandidateBindingSchema, liveRunMetricsSchema, liveEvaluationAttemptSchema, liveEvaluationSuiteReportSchema]

/-! ## What both languages read -/

/-- An instant as Python reads it: whether it has an offset, and its place among those that do as it does. -/
structure PythonTime where
  aware : Bool
  instant : Int
  deriving DecidableEq, Repr

/-- The reading of a timestamp by the library of each language. -/
structure TimeReader where
  /-- `datetime.fromisoformat(text.replace("Z", "+00:00"))`; `none` is a `ValueError`. -/
  fromIsoformat : String → Option PythonTime
  /-- `Date.parse(text)`; `none` is `NaN`. -/
  dateParse : String → Option Int

/-- A nested object; the schemas require one wherever it is taken. -/
def fieldsOf (value : Option Json) : JsonFields := (objectOf? value).getD .nil

/-- The number of a field; the schemas require one wherever it is taken. -/
def numberOf (value : Option Json) : Rat := (value.bind Json.number?).getD 0

/-- The sum of two integers. -/
def sumOf (block : JsonFields) (left right : String) : Option Json :=
  some (.int (wholeOf (block.get? left) + wholeOf (block.get? right)))

/-- `bool(value)` and `Boolean(value)` of a text or `null`. -/
def isNamed (value : Option Json) : Bool := textOf value ≠ ""

structure LiveRecords where
  intent : JsonFields
  observation : JsonFields
  artifact : JsonFields
  binding : JsonFields
  metrics : JsonFields
  attempt : JsonFields
  report : JsonFields

/-- The evidence that the claims of an artifact rest on. -/
def evidenceSummary (artifact : JsonFields) : List String :=
  (itemsOf (artifact.get? "claim_evidence_summary")).map fun item => textOf (item.get? "evidence_sha256")

def aggregatedTasks (report : JsonFields) : List String :=
  (itemsOf (report.get? "task_aggregates")).map fun item => textOf (item.get? "evaluation_task_id")

def gatesPassed (attempt : JsonFields) : Bool :=
  (itemsOf (attempt.get? "hard_gates")).all fun gate => gate.get? "passed" = some (.bool true)

def invocationLinkFields : List String :=
  ["tenant_id", "evaluation_session_id", "suite_id", "evaluation_task_id", "attempt_id", "logical_turn_id",
   "invocation_id"]

/-! ## `live.py` -/

namespace Python

section Validators

variable (runtime : ContractRuntime) (time : TimeReader)

/-- `_same`. -/
def sameFields (left right : JsonFields) (fields : List String) (name : String) :
    Except ContractValidationError Unit :=
  fields.forM fun field => require (eq (left.get? field) (right.get? field))
    ⟨name, if field = "tenant_id" then "tenant_identity_mismatch" else field ++ "_mismatch"⟩

/-- `_parse_datetime` of two fields and their order; only times that both have an offset, or both have none, can
    be compared. -/
def requireOrder (payload : JsonFields) (later earlier name : String) : Except ContractValidationError Unit := do
  let last ← fetch (time.fromIsoformat (textOf (payload.get? later))) ⟨name, "timestamp_invalid"⟩
  let first ← fetch (time.fromIsoformat (textOf (payload.get? earlier))) ⟨name, "timestamp_invalid"⟩
  require (last.aware = first.aware) ⟨name, "type_error"⟩
  require (first.instant < last.instant) ⟨name, "expiry_invalid"⟩

def validateModelInvocationIntent (payload : JsonFields) : Except ContractValidationError Unit := do
  requireSchema runtime payload modelInvocationIntentSchema
  let reservation := fieldsOf (payload.get? "reservation")
  require (eq (reservation.get? "total_tokens") (sumOf reservation "input_tokens" "output_tokens"))
    ⟨"model-invocation-intent", "token_reservation_mismatch"⟩
  require (numberOf (reservation.get? "request_timeout_ms") ≤ numberOf (reservation.get? "wall_time_ms"))
    ⟨"model-invocation-intent", "timeout_reservation_mismatch"⟩
  requireHash runtime payload "intent_sha256" "model-invocation-intent"

def validateModelInvocationObservation (payload : JsonFields) : Except ContractValidationError Unit := do
  requireSchema runtime payload modelInvocationObservationSchema
  let usage := fieldsOf (payload.get? "usage")
  require (eq (usage.get? "total_tokens") (sumOf usage "input_tokens" "output_tokens"))
    ⟨"model-invocation-observation", "token_usage_mismatch"⟩
  let completed := eq (payload.get? "status") (some (.str "completed"))
  require (!completed || (decide (usage.get? "available" = some (.bool true)) &&
      decide (payload.get? "response_sha256" ≠ some .null) &&
      decide (payload.get? "failure_classification" = some .null)))
    ⟨"model-invocation-observation", "completed_observation_incomplete"⟩
  require (completed || decide (payload.get? "failure_classification" ≠ some .null))
    ⟨"model-invocation-observation", "failure_classification_missing"⟩
  requireHash runtime payload "observation_sha256" "model-invocation-observation"

def validateResponseDraftArtifact (payload : JsonFields) : Except ContractValidationError Unit := do
  requireSchema runtime payload responseDraftArtifactSchema
  requireOrder time payload "expires_at" "created_at" "response-draft-artifact"
  require (evidenceSummary payload).Nodup ⟨"response-draft-artifact", "evidence_duplicate"⟩
  requireHash runtime payload "artifact_sha256" "response-draft-artifact"

def validateLiveCandidateBinding (payload : JsonFields) : Except ContractValidationError Unit := do
  requireSchema runtime payload liveCandidateBindingSchema
  requireHash runtime payload "binding_sha256" "live-candidate-binding"

def validateLiveRunMetrics (payload : JsonFields) : Except ContractValidationError Unit := do
  requireSchema runtime payload liveRunMetricsSchema
  require (eq (payload.get? "invocation_count")
    (sumOf payload "successful_invocation_count" "failed_invocation_count"))
    ⟨"live-run-metrics", "invocation_count_mismatch"⟩
  require (eq (payload.get? "total_tokens") (sumOf payload "input_tokens" "output_tokens"))
    ⟨"live-run-metrics", "token_count_mismatch"⟩
  require (numberOf (payload.get? "valid_proposal_count") ≤ numberOf (payload.get? "invocation_count"))
    ⟨"live-run-metrics", "proposal_count_invalid"⟩
  require (numberOf (payload.get? "provider_latency_ms") ≤ numberOf (payload.get? "end_to_end_latency_ms"))
    ⟨"live-run-metrics", "latency_order_invalid"⟩
  requireHash runtime payload "metrics_sha256" "live-run-metrics"

def validateLiveEvaluationAttempt (payload : JsonFields) : Except ContractValidationError Unit := do
  requireSchema runtime payload liveEvaluationAttemptSchema
  let passed := !(itemsOf (payload.get? "hard_gates")).isEmpty && gatesPassed payload
  require (payload.get? "hard_gate_passed" = some (.bool passed))
    ⟨"live-evaluation-attempt", "hard_gate_summary_invalid"⟩
  require (!(passed && eq (payload.get? "quality_score") (some (.str "not_scored"))))
    ⟨"live-evaluation-attempt", "quality_score_missing"⟩
  require (passed || eq (payload.get? "quality_score") (some (.str "not_scored")))
    ⟨"live-evaluation-attempt", "quality_score_not_scored"⟩
  require (eq (payload.get? "terminal_outcome") (some (.str "response_ready")) =
      (isNamed (payload.get? "candidate_binding_id") && isNamed (payload.get? "verifier_outcome_id")))
    ⟨"live-evaluation-attempt", "candidate_verifier_link_invalid"⟩
  requireHash runtime payload "attempt_sha256" "live-evaluation-attempt"

def validateLiveEvaluationSuiteReport (payload : JsonFields) : Except ContractValidationError Unit := do
  requireSchema runtime payload liveEvaluationSuiteReportSchema
  require ((aggregatedTasks payload).dedup.length = 6) ⟨"live-evaluation-suite-report", "task_ids_duplicate"⟩
  require (eq (payload.get? "attempt_count") (some (.int (itemsOf (payload.get? "attempt_ids")).length)))
    ⟨"live-evaluation-suite-report", "attempt_count_mismatch"⟩
  requireHash runtime payload "report_sha256" "live-evaluation-suite-report"

def validateModelInvocationChain (intent observation : JsonFields) : Except ContractValidationError Unit := do
  validateModelInvocationIntent runtime intent
  validateModelInvocationObservation runtime observation
  sameFields intent observation invocationLinkFields "model-invocation-chain"

/-- **`validate_live_contract_chain`.** -/
def validateLiveContractChain (r : LiveRecords) : Except ContractValidationError Unit := do
  validateModelInvocationChain runtime r.intent r.observation
  validateResponseDraftArtifact runtime time r.artifact
  validateLiveCandidateBinding runtime r.binding
  validateLiveRunMetrics runtime r.metrics
  validateLiveEvaluationAttempt runtime r.attempt
  validateLiveEvaluationSuiteReport runtime r.report
  sameFields r.observation r.artifact ["tenant_id", "attempt_id"] "live-contract-chain"
  require (eq (r.artifact.get? "producer_invocation_id") (r.observation.get? "invocation_id"))
    ⟨"live-contract-chain", "artifact_invocation_mismatch"⟩
  sameFields r.binding r.artifact ["tenant_id", "case_id", "case_revision_id", "attempt_id"] "live-contract-chain"
  require (eq (r.binding.get? "invocation_id") (r.observation.get? "invocation_id") &&
      eq (r.binding.get? "observation_id") (r.observation.get? "observation_id") &&
      eq (r.binding.get? "draft_artifact_id") (r.artifact.get? "artifact_id") &&
      eq (r.binding.get? "draft_content_sha256") (r.artifact.get? "content_sha256") &&
      -- the two sets are equal
      (textsOf (r.binding.get? "evidence_hashes")).all (fun hash => decide (hash ∈ evidenceSummary r.artifact)) &&
      (evidenceSummary r.artifact).all fun hash => decide (hash ∈ textsOf (r.binding.get? "evidence_hashes")))
    ⟨"live-contract-chain", "draft_binding_mismatch"⟩
  sameFields r.metrics r.attempt ["tenant_id", "suite_id", "evaluation_task_id", "attempt_id"] "live-contract-chain"
  require (eq (r.attempt.get? "live_run_metrics_id") (r.metrics.get? "live_run_metrics_id") &&
      eq (r.attempt.get? "metrics_sha256") (r.metrics.get? "metrics_sha256") &&
      decide (textOf (r.observation.get? "observation_id") ∈
        textsOf (r.attempt.get? "invocation_observation_ids")) &&
      eq (r.attempt.get? "candidate_binding_id") (r.binding.get? "binding_sha256") &&
      eq (r.attempt.get? "terminal_outcome") (r.metrics.get? "terminal_outcome") &&
      decide (textOf (r.attempt.get? "attempt_id") ∈ textsOf (r.report.get? "attempt_ids")) &&
      eq (r.report.get? "evaluation_session_id") (r.attempt.get? "evaluation_session_id") &&
      eq (r.report.get? "price_profile_sha256") (r.metrics.get? "price_profile_sha256") &&
      eq (r.report.get? "model_id_sha256") (r.metrics.get? "model_id_sha256"))
    ⟨"live-contract-chain", "report_link_mismatch"⟩

end Validators

end Python

/-! ## `live.ts` -/

namespace TypeScript

section Validators

variable (runtime : ContractRuntime) (time : TimeReader)

/-- `Date.parse(String(payload[later])) <= Date.parse(String(payload[earlier]))`, which is false of `NaN`. -/
def expiresBefore (payload : JsonFields) (later earlier : String) : Bool :=
  match time.dateParse (textOf (payload.get? later)), time.dateParse (textOf (payload.get? earlier)) with
  | some last, some first => last ≤ first
  | _, _ => false

def validateModelInvocationIntent (payload : JsonFields) : Except String Unit := do
  validateExpectedSchema runtime payload modelInvocationIntentSchema
  let reservation := fieldsOf (payload.get? "reservation")
  require (eq (reservation.get? "total_tokens") (sumOf reservation "input_tokens" "output_tokens"))
    "token_reservation_mismatch"
  require (numberOf (reservation.get? "request_timeout_ms") ≤ numberOf (reservation.get? "wall_time_ms"))
    "timeout_reservation_mismatch"
  change4ClaimedHash runtime payload "intent_sha256"

def validateModelInvocationObservation (payload : JsonFields) : Except String Unit := do
  validateExpectedSchema runtime payload modelInvocationObservationSchema
  let usage := fieldsOf (payload.get? "usage")
  require (eq (usage.get? "total_tokens") (sumOf usage "input_tokens" "output_tokens")) "token_usage_mismatch"
  let completed := eq (payload.get? "status") (some (.str "completed"))
  require (!completed || (eq (usage.get? "available") (some (.bool true)) &&
      !eq (payload.get? "response_sha256") (some .null) &&
      eq (payload.get? "failure_classification") (some .null))) "completed_observation_incomplete"
  require (completed || !eq (payload.get? "failure_classification") (some .null)) "failure_classification_missing"
  change4ClaimedHash runtime payload "observation_sha256"

def validateResponseDraftArtifact (payload : JsonFields) : Except String Unit := do
  validateExpectedSchema runtime payload responseDraftArtifactSchema
  require (!expiresBefore time payload "expires_at" "created_at") "expiry_invalid"
  require (evidenceSummary payload).Nodup "evidence_duplicate"
  change4ClaimedHash runtime payload "artifact_sha256"

def validateLiveCandidateBinding (payload : JsonFields) : Except String Unit := do
  validateExpectedSchema runtime payload liveCandidateBindingSchema
  change4ClaimedHash runtime payload "binding_sha256"

def validateLiveRunMetrics (payload : JsonFields) : Except String Unit := do
  validateExpectedSchema runtime payload liveRunMetricsSchema
  require (eq (payload.get? "invocation_count")
    (sumOf payload "successful_invocation_count" "failed_invocation_count")) "invocation_count_mismatch"
  require (eq (payload.get? "total_tokens") (sumOf payload "input_tokens" "output_tokens")) "token_count_mismatch"
  require (numberOf (payload.get? "valid_proposal_count") ≤ numberOf (payload.get? "invocation_count"))
    "proposal_count_invalid"
  require (numberOf (payload.get? "provider_latency_ms") ≤ numberOf (payload.get? "end_to_end_latency_ms"))
    "latency_order_invalid"
  change4ClaimedHash runtime payload "metrics_sha256"

def validateLiveEvaluationAttempt (payload : JsonFields) : Except String Unit := do
  validateExpectedSchema runtime payload liveEvaluationAttemptSchema
  let passed := gatesPassed payload
  require (eq (payload.get? "hard_gate_passed") (some (.bool passed))) "hard_gate_summary_invalid"
  require (passed ≠ eq (payload.get? "quality_score") (some (.str "not_scored"))) "quality_score_invalid"
  require (eq (payload.get? "terminal_outcome") (some (.str "response_ready")) =
      (isNamed (payload.get? "candidate_binding_id") && isNamed (payload.get? "verifier_outcome_id")))
    "candidate_verifier_link_invalid"
  change4ClaimedHash runtime payload "attempt_sha256"

def validateLiveEvaluationSuiteReport (payload : JsonFields) : Except String Unit := do
  validateExpectedSchema runtime payload liveEvaluationSuiteReportSchema
  require ((aggregatedTasks payload).dedup.length = 6) "task_ids_duplicate"
  require (eq (payload.get? "attempt_count") (some (.int (itemsOf (payload.get? "attempt_ids")).length)))
    "attempt_count_mismatch"
  change4ClaimedHash runtime payload "report_sha256"

/-- **`validateLiveContractChain`.** -/
def validateLiveContractChain (r : LiveRecords) : Except String Unit := do
  validateModelInvocationIntent runtime r.intent
  validateModelInvocationObservation runtime r.observation
  validateResponseDraftArtifact runtime time r.artifact
  validateLiveCandidateBinding runtime r.binding
  validateLiveRunMetrics runtime r.metrics
  validateLiveEvaluationAttempt runtime r.attempt
  validateLiveEvaluationSuiteReport runtime r.report
  require (invocationLinkFields.all fun field => eq (r.intent.get? field) (r.observation.get? field))
    "invocation_link_mismatch"
  require (eq (r.artifact.get? "tenant_id") (r.observation.get? "tenant_id") &&
      eq (r.artifact.get? "attempt_id") (r.observation.get? "attempt_id") &&
      eq (r.artifact.get? "producer_invocation_id") (r.observation.get? "invocation_id"))
    "artifact_invocation_mismatch"
  require (eq (r.binding.get? "invocation_id") (r.observation.get? "invocation_id") &&
      eq (r.binding.get? "observation_id") (r.observation.get? "observation_id") &&
      eq (r.binding.get? "draft_artifact_id") (r.artifact.get? "artifact_id") &&
      eq (r.binding.get? "draft_content_sha256") (r.artifact.get? "content_sha256") &&
      (textsOf (r.binding.get? "evidence_hashes")).all (fun hash => decide (hash ∈ evidenceSummary r.artifact)) &&
      eq (r.metrics.get? "tenant_id") (r.attempt.get? "tenant_id") &&
      eq (r.metrics.get? "evaluation_task_id") (r.attempt.get? "evaluation_task_id") &&
      eq (r.metrics.get? "attempt_id") (r.attempt.get? "attempt_id") &&
      eq (r.attempt.get? "live_run_metrics_id") (r.metrics.get? "live_run_metrics_id") &&
      eq (r.attempt.get? "metrics_sha256") (r.metrics.get? "metrics_sha256") &&
      decide (textOf (r.observation.get? "observation_id") ∈
        textsOf (r.attempt.get? "invocation_observation_ids")) &&
      eq (r.attempt.get? "candidate_binding_id") (r.binding.get? "binding_sha256") &&
      eq (r.attempt.get? "terminal_outcome") (r.metrics.get? "terminal_outcome") &&
      decide (textOf (r.attempt.get? "attempt_id") ∈ textsOf (r.report.get? "attempt_ids")) &&
      eq (r.report.get? "evaluation_session_id") (r.attempt.get? "evaluation_session_id") &&
      eq (r.report.get? "price_profile_sha256") (r.metrics.get? "price_profile_sha256") &&
      eq (r.report.get? "model_id_sha256") (r.metrics.get? "model_id_sha256")) "live_chain_link_mismatch"

end Validators

end TypeScript

/-! ## What the languages require -/

/-- A record is valid, of its kind, and claims its hash. -/
structure Recorded (runtime : ContractRuntime) (payload : JsonFields) (schema : ContractSchema) (hashField : String) :
    Prop where
  valid : runtime.validatePayload payload = .ok ()
  identity : payload.get? "schema_id" = some (.str schema.id)
  hash : payload.get? hashField = some (.str (runtime.recordHash payload hashField))

/-- Fields of one record, each with the field of another that it repeats. -/
def paired (left right : JsonFields) (fields : List (String × String)) : List (Option Json × Option Json) :=
  fields.map fun names => (left.get? names.1, right.get? names.2)

structure IntentFacts (payload : JsonFields) : Prop where
  total : TypeScript.eq ((fieldsOf (payload.get? "reservation")).get? "total_tokens")
    (sumOf (fieldsOf (payload.get? "reservation")) "input_tokens" "output_tokens") = true
  timeout : numberOf ((fieldsOf (payload.get? "reservation")).get? "request_timeout_ms") ≤
    numberOf ((fieldsOf (payload.get? "reservation")).get? "wall_time_ms")

structure ObservationFacts (payload : JsonFields) : Prop where
  total : TypeScript.eq ((fieldsOf (payload.get? "usage")).get? "total_tokens")
    (sumOf (fieldsOf (payload.get? "usage")) "input_tokens" "output_tokens") = true
  complete : payload.get? "status" = some (.str "completed") →
    (fieldsOf (payload.get? "usage")).get? "available" = some (.bool true) ∧
      payload.get? "response_sha256" ≠ some .null ∧ payload.get? "failure_classification" = some .null
  classified : payload.get? "status" ≠ some (.str "completed") → payload.get? "failure_classification" ≠ some .null

structure MetricsFacts (payload : JsonFields) : Prop where
  invocations : TypeScript.eq (payload.get? "invocation_count")
    (sumOf payload "successful_invocation_count" "failed_invocation_count") = true
  tokens : TypeScript.eq (payload.get? "total_tokens") (sumOf payload "input_tokens" "output_tokens") = true
  proposals : numberOf (payload.get? "valid_proposal_count") ≤ numberOf (payload.get? "invocation_count")
  latency : numberOf (payload.get? "provider_latency_ms") ≤ numberOf (payload.get? "end_to_end_latency_ms")

structure AttemptFacts (payload : JsonFields) : Prop where
  gates : payload.get? "hard_gate_passed" = some (.bool (gatesPassed payload))
  score : gatesPassed payload = true ↔ payload.get? "quality_score" ≠ some (.str "not_scored")
  ready : payload.get? "terminal_outcome" = some (.str "response_ready") ↔
    isNamed (payload.get? "candidate_binding_id") = true ∧ isNamed (payload.get? "verifier_outcome_id") = true

structure AggregateFacts (payload : JsonFields) : Prop where
  tasks : (aggregatedTasks payload).dedup.length = 6
  attempts : TypeScript.eq (payload.get? "attempt_count")
    (some (.int (itemsOf (payload.get? "attempt_ids")).length)) = true

namespace LiveRecords

variable (r : LiveRecords)

/-- The records with their schemas and the hashes that they claim. -/
def claims : List (JsonFields × ContractSchema × String) :=
  [(r.intent, modelInvocationIntentSchema, "intent_sha256"),
   (r.observation, modelInvocationObservationSchema, "observation_sha256"),
   (r.artifact, responseDraftArtifactSchema, "artifact_sha256"),
   (r.binding, liveCandidateBindingSchema, "binding_sha256"), (r.metrics, liveRunMetricsSchema, "metrics_sha256"),
   (r.attempt, liveEvaluationAttemptSchema, "attempt_sha256"),
   (r.report, liveEvaluationSuiteReportSchema, "report_sha256")]

/-- The fields that both languages compare. -/
def links : List (Option Json × Option Json) :=
  paired r.intent r.observation (invocationLinkFields.map fun field => (field, field)) ++
  paired r.artifact r.observation
    [("tenant_id", "tenant_id"), ("attempt_id", "attempt_id"), ("producer_invocation_id", "invocation_id")] ++
  paired r.binding r.observation [("invocation_id", "invocation_id"), ("observation_id", "observation_id")] ++
  paired r.binding r.artifact
    [("draft_artifact_id", "artifact_id"), ("draft_content_sha256", "content_sha256")] ++
  paired r.metrics r.attempt
    [("tenant_id", "tenant_id"), ("evaluation_task_id", "evaluation_task_id"), ("attempt_id", "attempt_id")] ++
  paired r.attempt r.metrics
    [("live_run_metrics_id", "live_run_metrics_id"), ("metrics_sha256", "metrics_sha256"),
     ("terminal_outcome", "terminal_outcome")] ++
  paired r.attempt r.binding [("candidate_binding_id", "binding_sha256")] ++
  paired r.report r.attempt [("evaluation_session_id", "evaluation_session_id")] ++
  paired r.report r.metrics
    [("price_profile_sha256", "price_profile_sha256"), ("model_id_sha256", "model_id_sha256")]

end LiveRecords

/-- The order of two timestamps as Python reads them. -/
def PythonOrder (time : TimeReader) (payload : JsonFields) (later earlier : String) : Prop :=
  ∃ last, time.fromIsoformat (textOf (payload.get? later)) = some last ∧
    ∃ first, time.fromIsoformat (textOf (payload.get? earlier)) = some first ∧
      last.aware = first.aware ∧ first.instant < last.instant

/-- **What both languages require of the records of a live evaluation.** -/
structure LiveFacts (runtime : ContractRuntime) (r : LiveRecords) : Prop where
  recorded : ∀ claim ∈ r.claims, Recorded runtime claim.1 claim.2.1 claim.2.2
  intent : IntentFacts r.intent
  observation : ObservationFacts r.observation
  distinct : (evidenceSummary r.artifact).Nodup
  metrics : MetricsFacts r.metrics
  attempt : AttemptFacts r.attempt
  report : AggregateFacts r.report
  linked : ∀ pair ∈ r.links, pair.1 = pair.2
  supported : ∀ hash ∈ textsOf (r.binding.get? "evidence_hashes"), hash ∈ evidenceSummary r.artifact
  observed : textOf (r.observation.get? "observation_id") ∈ textsOf (r.attempt.get? "invocation_observation_ids")
  reported : textOf (r.attempt.get? "attempt_id") ∈ textsOf (r.report.get? "attempt_ids")

/-- What Python requires beside: the binding and the artifact are of one case and rest on the same evidence, and
    the artifact expires, as Python reads the times, after it was created. -/
structure PythonLive (time : TimeReader) (r : LiveRecords) : Prop where
  bound : ∀ field ∈ ["tenant_id", "case_id", "case_revision_id", "attempt_id"],
    r.binding.get? field = r.artifact.get? field
  evidence : ∀ hash ∈ evidenceSummary r.artifact, hash ∈ textsOf (r.binding.get? "evidence_hashes")
  dated : PythonOrder time r.artifact "expires_at" "created_at"

/-- What TypeScript requires beside: the artifact does not expire before, as it reads the times. -/
def TypeScriptLive (time : TimeReader) (r : LiveRecords) : Prop :=
  TypeScript.expiresBefore time r.artifact "expires_at" "created_at" = false

section Records

variable {runtime : ContractRuntime} {payload : JsonFields}

theorem TypeScript.recorded_iff {schema : ContractSchema} {hashField : String} {Facts : Prop} :
    (TypeScript.validateExpectedSchema runtime payload schema = .ok () ∧ Facts ∧
      TypeScript.change4ClaimedHash runtime payload hashField = .ok ()) ↔
    Recorded runtime payload schema hashField ∧ Facts := by
  rw [← schema_alike, Python.requireSchema_iff, TypeScript.change4ClaimedHash, require_eq_ok, TypeScript.eq_text]
  constructor
  · rintro ⟨⟨hvalid, hid⟩, hfacts, hhash⟩
    exact ⟨⟨hvalid, hid, hhash⟩, hfacts⟩
  · rintro ⟨h, hfacts⟩
    exact ⟨⟨h.valid, h.identity⟩, hfacts, h.hash⟩

/-- A value of a nested object of an accepted record obeys its rule. -/
theorem nested_accepts {schema : ContractSchema} {part field : String} {fields : FieldRules} {rule : FieldRule}
    (h : schema.accepts payload = true) (hpart : part ∈ schema.required.map (·.1))
    (hfields : schema.rule? part = some (.record fields)) (hrule : fields.rule? field = some rule) :
    ∃ v, (fieldsOf (payload.get? part)).get? field = some v ∧ rule.accepts v = true := by
  obtain ⟨value, hvalue, haccepts⟩ := ContractSchema.required_value h hpart hfields
  obtain ⟨nested, rfl, hnested⟩ := FieldRule.record_of_accepts haccepts
  obtain ⟨v, hv, hv'⟩ := FieldRules.required_value hnested hrule
  refine ⟨v, ?_, hv'⟩
  rw [hvalue]
  exact hv

/-- Both languages compare a number with a sum alike. -/
theorem sum_alike {value : Option Json} (h : ∀ v ∈ value, v.plain = true) {block : JsonFields} {l r : String} :
    Python.eq value (sumOf block l r) = TypeScript.eq value (sumOf block l r) :=
  eq_alike h fun v hv => by cases hv; rfl

theorem nested_sum_alike {schema : ContractSchema} {part field : String} {fields : FieldRules} {rule : FieldRule}
    (h : schema.accepts payload = true) (hpart : part ∈ schema.required.map (·.1))
    (hfields : schema.rule? part = some (.record fields)) (hrule : fields.rule? field = some rule)
    (hplain : rule.plain = true) {block : JsonFields} {l r : String} :
    Python.eq ((fieldsOf (payload.get? part)).get? field) (sumOf block l r) =
      TypeScript.eq ((fieldsOf (payload.get? part)).get? field) (sumOf block l r) := by
  apply sum_alike
  obtain ⟨v, hv, haccepts⟩ := nested_accepts h hpart hfields hrule
  rw [hv]
  rintro w ⟨⟩
  exact FieldRule.plain_of_accepts hplain haccepts

end Records

section Alike

variable {schemas : List ContractSchema} {runtime : SchemaRuntime schemas} {payload : JsonFields}

theorem invocationIntent_alike (hmem : modelInvocationIntentSchema ∈ schemas) :
    Alike (Python.validateModelInvocationIntent runtime.toContractRuntime payload)
      (TypeScript.validateModelInvocationIntent runtime.toContractRuntime payload) := by
  refine alike_bind (schema_alike _ _) fun _ hschema => ?_
  have haccepts := runtime.accepted hschema hmem
  refine alike_bind (alike_require ?_) fun _ _ => alike_bind (alike_require Iff.rfl) fun _ _ => hash_alike _ _
  rw [@nested_sum_alike payload modelInvocationIntentSchema "reservation" "total_tokens" reservationFields (.integer 2)
    haccepts (by decide) rfl rfl rfl]

/-- Python tells `None` and `True` by their identity. -/
theorem invocationObservation_alike (hmem : modelInvocationObservationSchema ∈ schemas) :
    Alike (Python.validateModelInvocationObservation runtime.toContractRuntime payload)
      (TypeScript.validateModelInvocationObservation runtime.toContractRuntime payload) := by
  refine alike_bind (schema_alike _ _) fun _ hschema => ?_
  have haccepts := runtime.accepted hschema hmem
  have hcompleted : Python.eq (payload.get? "status") (some (.str "completed")) =
      TypeScript.eq (payload.get? "status") (some (.str "completed")) :=
    Bool.eq_iff_iff.mpr (Python.eq_text.trans TypeScript.eq_text.symm)
  have hnull : ∀ value : Option Json, TypeScript.eq value (some .null) = decide (value = some .null) := fun value =>
    Bool.eq_iff_iff.mpr (TypeScript.eq_null.trans decide_eq_true_iff.symm)
  have hbool : ∀ value : Option Json, TypeScript.eq value (some (.bool true)) = decide (value = some (.bool true)) :=
    fun value => Bool.eq_iff_iff.mpr (TypeScript.eq_bool.trans decide_eq_true_iff.symm)
  refine alike_bind (alike_require ?_) fun _ _ => alike_bind (alike_require ?_) fun _ _ =>
    alike_bind (alike_require ?_) fun _ _ => hash_alike _ _
  · rw [@nested_sum_alike payload modelInvocationObservationSchema "usage" "total_tokens" usageFields (.integer 0)
      haccepts (by decide) rfl rfl rfl]
  · rw [hcompleted, hnull, hnull, hbool, decide_not]
  · rw [hcompleted, hnull, decide_not]

theorem candidateBinding_alike : Alike (Python.validateLiveCandidateBinding runtime.toContractRuntime payload)
    (TypeScript.validateLiveCandidateBinding runtime.toContractRuntime payload) :=
  alike_bind (schema_alike _ _) fun _ _ => hash_alike _ _

theorem runMetrics_alike (hmem : liveRunMetricsSchema ∈ schemas) :
    Alike (Python.validateLiveRunMetrics runtime.toContractRuntime payload)
      (TypeScript.validateLiveRunMetrics runtime.toContractRuntime payload) := by
  refine alike_bind (schema_alike _ _) fun _ hschema => ?_
  have hplain : ∀ field ∈ ["invocation_count", "total_tokens"], ∀ v ∈ payload.get? field, v.plain = true :=
    fun field hfield => ContractSchema.plain_of_comparable (runtime.accepted hschema hmem)
      (show _ = true by decide) hfield
  refine alike_bind (alike_require ?_) fun _ _ => alike_bind (alike_require ?_) fun _ _ =>
    alike_bind (alike_require Iff.rfl) fun _ _ => alike_bind (alike_require Iff.rfl) fun _ _ => hash_alike _ _
  · rw [sum_alike (hplain "invocation_count" (by decide))]
  · rw [sum_alike (hplain "total_tokens" (by decide))]

theorem suiteReport_alike (hmem : liveEvaluationSuiteReportSchema ∈ schemas) :
    Alike (Python.validateLiveEvaluationSuiteReport runtime.toContractRuntime payload)
      (TypeScript.validateLiveEvaluationSuiteReport runtime.toContractRuntime payload) := by
  refine alike_bind (schema_alike _ _) fun _ hschema => ?_
  have hplain : ∀ v ∈ payload.get? "attempt_count", v.plain = true :=
    ContractSchema.plain_of_comparable (runtime.accepted hschema hmem)
      (show ContractSchema.comparable _ ["attempt_count"] = true by decide) (by decide)
  refine alike_bind (alike_require Iff.rfl) fun _ _ => alike_bind (alike_require ?_) fun _ _ => hash_alike _ _
  rw [eq_alike hplain fun v hv => by cases hv; rfl]

/-- An attempt has gates, so that none of them fails only when Python calls them passed. -/
theorem evaluationAttempt_alike (hmem : liveEvaluationAttemptSchema ∈ schemas) :
    Alike (Python.validateLiveEvaluationAttempt runtime.toContractRuntime payload)
      (TypeScript.validateLiveEvaluationAttempt runtime.toContractRuntime payload) := by
  refine alike_bind (schema_alike _ _) fun _ hschema => ?_
  have hgates : (itemsOf (payload.get? "hard_gates")).isEmpty = false := by
    obtain ⟨v, hv, hrule⟩ := ContractSchema.required_value (runtime.accepted hschema hmem)
      (show "hard_gates" ∈ _ by decide) rfl
    rw [FieldRule.accepts, Bool.and_eq_true] at hrule
    obtain ⟨items, rfl, hone, -⟩ := FieldRule.items_of_accepts hrule.1
    rw [itemsOf, hv]
    show items.toList.isEmpty = false
    cases hitems : items.toList with
    | nil => rw [hitems] at hone; cases hone
    | cons item rest => rfl
  have htext : ∀ {field s : String}, Python.eq (payload.get? field) (some (.str s)) =
      TypeScript.eq (payload.get? field) (some (.str s)) :=
    Bool.eq_iff_iff.mpr (Python.eq_text.trans TypeScript.eq_text.symm)
  have hscore : ∀ passed unscored : Bool, ((!(passed && unscored)) = true ∧ (passed || unscored) = true) ↔
      passed ≠ unscored := by decide
  intro u
  simp only [hgates, htext, Bool.not_false, Bool.true_and, unit_bind_eq_ok, require_eq_ok, decide_eq_true_eq,
    TypeScript.eq_bool]
  rw [← hscore, and_assoc]
  have hhash : Alike (Python.requireHash runtime.toContractRuntime payload "attempt_sha256" "live-evaluation-attempt")
      (TypeScript.change4ClaimedHash runtime.toContractRuntime payload "attempt_sha256") := hash_alike _ _
  rw [hhash]

end Alike

section Records

variable {runtime : ContractRuntime} {time : TimeReader} {payload : JsonFields}

theorem TypeScript.intent_iff : TypeScript.validateModelInvocationIntent runtime payload = .ok () ↔
    Recorded runtime payload modelInvocationIntentSchema "intent_sha256" ∧ IntentFacts payload := by
  rw [← TypeScript.recorded_iff, TypeScript.validateModelInvocationIntent]
  simp only [unit_bind_eq_ok, require_eq_ok, decide_eq_true_eq]
  constructor
  · rintro ⟨hschema, htotal, htimeout, hhash⟩
    exact ⟨hschema, ⟨htotal, htimeout⟩, hhash⟩
  · rintro ⟨hschema, h, hhash⟩
    exact ⟨hschema, h.total, h.timeout, hhash⟩

theorem TypeScript.observation_iff : TypeScript.validateModelInvocationObservation runtime payload = .ok () ↔
    Recorded runtime payload modelInvocationObservationSchema "observation_sha256" ∧ ObservationFacts payload := by
  rw [← TypeScript.recorded_iff, TypeScript.validateModelInvocationObservation]
  simp only [unit_bind_eq_ok, require_eq_ok, Bool.or_eq_true, Bool.and_eq_true, Bool.not_eq_true', ← Bool.not_eq_true,
    TypeScript.eq_text, TypeScript.eq_null, TypeScript.eq_bool]
  constructor
  · rintro ⟨hschema, htotal, hcomplete, hclassified, hhash⟩
    refine ⟨hschema, ⟨htotal, fun hdone => ?_, fun hopen => hclassified.resolve_left hopen⟩, hhash⟩
    obtain ⟨⟨havailable, hresponse⟩, hfailure⟩ := hcomplete.resolve_left fun hopen => hopen hdone
    exact ⟨havailable, hresponse, hfailure⟩
  · rintro ⟨hschema, h, hhash⟩
    refine ⟨hschema, h.total, ?_, ?_, hhash⟩
    · by_cases hdone : payload.get? "status" = some (.str "completed")
      · obtain ⟨havailable, hresponse, hfailure⟩ := h.complete hdone
        exact .inr ⟨⟨havailable, hresponse⟩, hfailure⟩
      · exact .inl hdone
    · by_cases hdone : payload.get? "status" = some (.str "completed")
      · exact .inl hdone
      · exact .inr (h.classified hdone)

theorem TypeScript.artifact_iff : TypeScript.validateResponseDraftArtifact runtime time payload = .ok () ↔
    Recorded runtime payload responseDraftArtifactSchema "artifact_sha256" ∧
      TypeScript.expiresBefore time payload "expires_at" "created_at" = false ∧ (evidenceSummary payload).Nodup := by
  rw [← TypeScript.recorded_iff, TypeScript.validateResponseDraftArtifact]
  simp only [unit_bind_eq_ok, require_eq_ok, decide_eq_true_eq, Bool.not_eq_true', and_assoc]

theorem Python.requireOrder_iff {later earlier name : String} :
    Python.requireOrder time payload later earlier name = .ok () ↔ PythonOrder time payload later earlier := by
  simp only [Python.requireOrder, fetch_bind_eq_ok, require_bind_eq_ok, require_eq_ok, decide_eq_true_eq, PythonOrder]

theorem Python.artifact_iff : Python.validateResponseDraftArtifact runtime time payload = .ok () ↔
    Recorded runtime payload responseDraftArtifactSchema "artifact_sha256" ∧
      PythonOrder time payload "expires_at" "created_at" ∧ (evidenceSummary payload).Nodup := by
  simp only [Python.validateResponseDraftArtifact, unit_bind_eq_ok, Python.requireSchema_iff, Python.requireOrder_iff,
    Python.requireHash, require_eq_ok, decide_eq_true_eq]
  constructor
  · rintro ⟨⟨hvalid, hid⟩, hdated, hdistinct, hhash⟩
    exact ⟨⟨hvalid, hid, hhash⟩, hdated, hdistinct⟩
  · rintro ⟨h, hdated, hdistinct⟩
    exact ⟨⟨h.valid, h.identity⟩, hdated, hdistinct, h.hash⟩

theorem TypeScript.binding_iff : TypeScript.validateLiveCandidateBinding runtime payload = .ok () ↔
    Recorded runtime payload liveCandidateBindingSchema "binding_sha256" := by
  have h := @TypeScript.recorded_iff runtime payload liveCandidateBindingSchema "binding_sha256" True
  rw [TypeScript.validateLiveCandidateBinding, unit_bind_eq_ok]
  simpa using h

theorem TypeScript.metrics_iff : TypeScript.validateLiveRunMetrics runtime payload = .ok () ↔
    Recorded runtime payload liveRunMetricsSchema "metrics_sha256" ∧ MetricsFacts payload := by
  rw [← TypeScript.recorded_iff, TypeScript.validateLiveRunMetrics]
  simp only [unit_bind_eq_ok, require_eq_ok, decide_eq_true_eq]
  constructor
  · rintro ⟨hschema, hinvocations, htokens, hproposals, hlatency, hhash⟩
    exact ⟨hschema, ⟨hinvocations, htokens, hproposals, hlatency⟩, hhash⟩
  · rintro ⟨hschema, h, hhash⟩
    exact ⟨hschema, h.invocations, h.tokens, h.proposals, h.latency, hhash⟩

theorem TypeScript.attempt_iff : TypeScript.validateLiveEvaluationAttempt runtime payload = .ok () ↔
    Recorded runtime payload liveEvaluationAttemptSchema "attempt_sha256" ∧ AttemptFacts payload := by
  have hscore : ∀ passed unscored : Bool, passed ≠ unscored ↔ (passed = true ↔ ¬ unscored = true) := by decide
  have hready : ∀ ready first second : Bool,
      ready = (first && second) ↔ (ready = true ↔ first = true ∧ second = true) := by decide
  rw [← TypeScript.recorded_iff, TypeScript.validateLiveEvaluationAttempt]
  simp only [unit_bind_eq_ok, require_eq_ok, decide_eq_true_eq, TypeScript.eq_bool, hscore, hready, TypeScript.eq_text]
  constructor
  · rintro ⟨hschema, hgates, hscored, hnamed, hhash⟩
    exact ⟨hschema, ⟨hgates, hscored, hnamed⟩, hhash⟩
  · rintro ⟨hschema, h, hhash⟩
    exact ⟨hschema, h.gates, h.score, h.ready, hhash⟩

theorem TypeScript.suiteReport_iff : TypeScript.validateLiveEvaluationSuiteReport runtime payload = .ok () ↔
    Recorded runtime payload liveEvaluationSuiteReportSchema "report_sha256" ∧ AggregateFacts payload := by
  rw [← TypeScript.recorded_iff, TypeScript.validateLiveEvaluationSuiteReport]
  simp only [unit_bind_eq_ok, require_eq_ok, decide_eq_true_eq]
  constructor
  · rintro ⟨hschema, htasks, hattempts, hhash⟩
    exact ⟨hschema, ⟨htasks, hattempts⟩, hhash⟩
  · rintro ⟨hschema, h, hhash⟩
    exact ⟨hschema, h.tasks, h.attempts, hhash⟩

end Records

/-! ## The chain -/

/-- The fields of a pairing are texts on the side of the record that is repeated. -/
theorem paired_text {schema : ContractSchema} {left right : JsonFields} {fields : List (String × String)}
    (h : schema.accepts right = true) (htexts : schema.texts (fields.map (·.2)) = true) :
    ∀ pair ∈ paired left right fields, ∃ s, pair.2 = some (.str s) := by
  rw [paired, List.forall_mem_map]
  exact fun names hnames => ContractSchema.text_of_texts h htexts (List.mem_map_of_mem hnames)

section Chain

variable {schemas : List ContractSchema} {runtime : SchemaRuntime schemas} {time : TimeReader} {r : LiveRecords}

/-- A recorded payload is accepted by its schema. -/
theorem accepted_of_recorded {claims : List (JsonFields × ContractSchema × String)}
    (hschemas : claims.map (fun claim => claim.2.1) ⊆ schemas)
    (h : ∀ claim ∈ claims, Recorded runtime.toContractRuntime claim.1 claim.2.1 claim.2.2) :
    ∀ claim ∈ claims, claim.2.1.accepts claim.1 = true := by
  intro claim hclaim
  have hschema : claim.2.1 ∈ schemas := hschemas (List.mem_map_of_mem hclaim)
  have hrecorded := h claim hclaim
  exact runtime.shapes claim.1 hrecorded.valid _ hschema hrecorded.identity

/-- Both languages compare a value with a text as values are equal. -/
theorem linked_iff {pairs : List (Option Json × Option Json)} (htexts : ∀ pair ∈ pairs, ∃ s, pair.2 = some (.str s)) :
    ((∀ pair ∈ pairs, Python.eq pair.1 pair.2 = true) ↔ ∀ pair ∈ pairs, pair.1 = pair.2) ∧
      ((∀ pair ∈ pairs, TypeScript.eq pair.1 pair.2 = true) ↔ ∀ pair ∈ pairs, pair.1 = pair.2) := by
  constructor
  · refine forall₂_congr fun pair hpair => ?_
    obtain ⟨s, hs⟩ := htexts pair hpair
    exact (eq_iff_of_text (.inr hs)).1
  · refine forall₂_congr fun pair hpair => ?_
    obtain ⟨s, hs⟩ := htexts pair hpair
    exact (eq_iff_of_text (.inr hs)).2

theorem LiveRecords.accepted (hschemas : liveSchemas ⊆ schemas)
    (h : ∀ claim ∈ r.claims, Recorded runtime.toContractRuntime claim.1 claim.2.1 claim.2.2) :
    ∀ claim ∈ r.claims, claim.2.1.accepts claim.1 = true := accepted_of_recorded hschemas h

/-- **What both languages compare is a text**, once the records are of their kinds. -/
theorem LiveRecords.links_text (haccepts : ∀ claim ∈ r.claims, claim.2.1.accepts claim.1 = true) :
    ∀ pair ∈ r.links, ∃ s, pair.2 = some (.str s) := by
  simp only [LiveRecords.claims, List.forall_mem_cons, List.not_mem_nil, false_imp_iff, implies_true, and_true]
    at haccepts
  obtain ⟨-, hobservation, hartifact, hbinding, hmetrics, hattempt, -⟩ := haccepts
  simp only [LiveRecords.links, List.forall_mem_append, and_assoc]
  exact ⟨paired_text hobservation (by decide), paired_text hobservation (by decide),
    paired_text hobservation (by decide), paired_text hartifact (by decide), paired_text hattempt (by decide),
    paired_text hmetrics (by decide), paired_text hbinding (by decide), paired_text hattempt (by decide),
    paired_text hmetrics (by decide)⟩

theorem TypeScript.live_iff (hschemas : liveSchemas ⊆ schemas) :
    TypeScript.validateLiveContractChain runtime.toContractRuntime time r = .ok () ↔
      LiveFacts runtime.toContractRuntime r ∧ TypeScriptLive time r := by
  -- the links hold as values are equal, since one of each pair is a text
  have hlinked : (∀ claim ∈ r.claims, Recorded runtime.toContractRuntime claim.1 claim.2.1 claim.2.2) →
      ((∀ pair ∈ r.links, TypeScript.eq pair.1 pair.2 = true) ↔ ∀ pair ∈ r.links, pair.1 = pair.2) := by
    intro hrecorded
    exact (linked_iff (LiveRecords.links_text (LiveRecords.accepted hschemas hrecorded))).2
  simp only [TypeScript.validateLiveContractChain, unit_bind_eq_ok, require_eq_ok, TypeScript.intent_iff,
    TypeScript.observation_iff, TypeScript.artifact_iff, TypeScript.binding_iff, TypeScript.metrics_iff,
    TypeScript.attempt_iff, TypeScript.suiteReport_iff, Bool.and_eq_true, List.all_eq_true, decide_eq_true_eq,
    invocationLinkFields, List.forall_mem_cons, List.not_mem_nil, false_imp_iff, implies_true, and_true, and_assoc]
  simp only [LiveRecords.claims, LiveRecords.links, paired, invocationLinkFields, List.map_cons, List.map_nil,
    List.forall_mem_append, List.forall_mem_cons, List.not_mem_nil, false_imp_iff, implies_true, and_true, and_assoc]
    at hlinked
  constructor
  · rintro ⟨rintent, hintent, robservation, hobservation, rartifact, hdated, hdistinct, rbinding, rmetrics, hmetrics,
      rattempt, hattempt, rreport, hreport, i1, i2, i3, i4, i5, i6, i7, a1, a2, a3, b1, b2, b3, b4, hsupported, m1,
      m2, m3, t1, t2, hobserved, t3, t4, hreported, p1, p2, p3⟩
    refine ⟨⟨?_, hintent, hobservation, hdistinct, hmetrics, hattempt, hreport, ?_, hsupported, hobserved,
      hreported⟩, hdated⟩
    · simp only [LiveRecords.claims, List.forall_mem_cons, List.not_mem_nil, false_imp_iff, implies_true, and_true]
      exact ⟨rintent, robservation, rartifact, rbinding, rmetrics, rattempt, rreport⟩
    · simp only [LiveRecords.links, paired, invocationLinkFields, List.map_cons, List.map_nil,
        List.forall_mem_append, List.forall_mem_cons, List.not_mem_nil, false_imp_iff, implies_true, and_true,
        and_assoc]
      exact (hlinked ⟨rintent, robservation, rartifact, rbinding, rmetrics, rattempt, rreport⟩).mp
        ⟨i1, i2, i3, i4, i5, i6, i7, a1, a2, a3, b1, b2, b3, b4, m1, m2, m3, t1, t2, t4, t3, p1, p2, p3⟩
  · rintro ⟨h, hdated⟩
    have hrecorded := h.recorded
    have hlinks := h.linked
    simp only [LiveRecords.claims, List.forall_mem_cons, List.not_mem_nil, false_imp_iff, implies_true, and_true]
      at hrecorded
    simp only [LiveRecords.links, paired, invocationLinkFields, List.map_cons, List.map_nil, List.forall_mem_append,
      List.forall_mem_cons, List.not_mem_nil, false_imp_iff, implies_true, and_true, and_assoc] at hlinks
    obtain ⟨i1, i2, i3, i4, i5, i6, i7, a1, a2, a3, b1, b2, b3, b4, m1, m2, m3, t1, t2, t4, t3, p1, p2, p3⟩ :=
      (hlinked hrecorded).mpr hlinks
    obtain ⟨rintent, robservation, rartifact, rbinding, rmetrics, rattempt, rreport⟩ := hrecorded
    exact ⟨rintent, h.intent, robservation, h.observation, rartifact, hdated, h.distinct, rbinding, rmetrics,
      h.metrics, rattempt, h.attempt, rreport, h.report, i1, i2, i3, i4, i5, i6, i7, a1, a2, a3, b1, b2, b3, b4,
      h.supported, m1, m2, m3, t1, t2, h.observed, t3, t4, h.reported, p1, p2, p3⟩

theorem Python.sameFields_iff {left right : JsonFields} {fields : List String} {name : String} :
    Python.sameFields left right fields name = .ok () ↔
      ∀ field ∈ fields, Python.eq (left.get? field) (right.get? field) = true := forM_require_eq_ok

/-- The schemas of a live evaluation name one suite. -/
theorem suite_const {schema : ContractSchema} {payload : JsonFields} (h : schema.accepts payload = true)
    (hfield : "suite_id" ∈ schema.required.map (·.1))
    (hrule : schema.rule? "suite_id" = some (.const "live-pilot.v1")) :
    payload.get? "suite_id" = some (.str "live-pilot.v1") := by
  obtain ⟨v, hv, haccepts⟩ := ContractSchema.required_value h hfield hrule
  cases v with
  | str s =>
      rw [hv, of_decide_eq_true haccepts]
  | _ => cases haccepts

theorem Python.live_iff (hschemas : liveSchemas ⊆ schemas) :
    Python.validateLiveContractChain runtime.toContractRuntime time r = .ok () ↔
      LiveFacts runtime.toContractRuntime r ∧ PythonLive time r := by
  have hmem : ∀ {schema}, schema ∈ liveSchemas → schema ∈ schemas := fun h => hschemas h
  have hintent := @invocationIntent_alike schemas runtime r.intent (hmem (by simp [liveSchemas])) ()
  have hobservation := @invocationObservation_alike schemas runtime r.observation (hmem (by simp [liveSchemas])) ()
  have hbinding := @candidateBinding_alike schemas runtime r.binding ()
  have hmetrics := @runMetrics_alike schemas runtime r.metrics (hmem (by simp [liveSchemas])) ()
  have hattempt := @evaluationAttempt_alike schemas runtime r.attempt (hmem (by simp [liveSchemas])) ()
  have hreport := @suiteReport_alike schemas runtime r.report (hmem (by simp [liveSchemas])) ()
  -- of each pair one is a text
  have hlinked : (∀ claim ∈ r.claims, Recorded runtime.toContractRuntime claim.1 claim.2.1 claim.2.2) →
      ((∀ pair ∈ r.links, Python.eq pair.1 pair.2 = true) ↔ ∀ pair ∈ r.links, pair.1 = pair.2) := by
    intro hrecorded
    exact (linked_iff (LiveRecords.links_text (LiveRecords.accepted hschemas hrecorded))).1
  have hartifact : (∀ claim ∈ r.claims, Recorded runtime.toContractRuntime claim.1 claim.2.1 claim.2.2) →
      ∀ field ∈ ["tenant_id", "case_id", "case_revision_id", "attempt_id"], ∀ value : Option Json,
        (Python.eq value (r.artifact.get? field) = true ↔ value = r.artifact.get? field) ∧
          (Python.eq (r.artifact.get? field) value = true ↔ r.artifact.get? field = value) := by
    intro hrecorded field hfield value
    have haccepts : responseDraftArtifactSchema.accepts r.artifact = true :=
      LiveRecords.accepted hschemas hrecorded (r.artifact, responseDraftArtifactSchema, "artifact_sha256")
        (by simp [LiveRecords.claims])
    obtain ⟨s, hs⟩ := ContractSchema.text_of_texts haccepts (show _ = true by decide) hfield
    exact ⟨(eq_iff_of_text (.inr hs)).1, (eq_iff_of_text (.inl hs)).1⟩
  have hsuite : (∀ claim ∈ r.claims, Recorded runtime.toContractRuntime claim.1 claim.2.1 claim.2.2) →
      Python.eq (r.metrics.get? "suite_id") (r.attempt.get? "suite_id") = true := by
    intro hrecorded
    have haccepts := LiveRecords.accepted hschemas hrecorded
    have hofMetrics : liveRunMetricsSchema.accepts r.metrics = true :=
      haccepts (r.metrics, liveRunMetricsSchema, "metrics_sha256") (by simp [LiveRecords.claims])
    have hofAttempt : liveEvaluationAttemptSchema.accepts r.attempt = true :=
      haccepts (r.attempt, liveEvaluationAttemptSchema, "attempt_sha256") (by simp [LiveRecords.claims])
    rw [suite_const hofMetrics (by decide) rfl, suite_const hofAttempt (by decide) rfl, Python.eq_text]
  simp only [Python.validateLiveContractChain, Python.validateModelInvocationChain, unit_bind_eq_ok, require_eq_ok,
    hintent, hobservation, Python.artifact_iff, hbinding, hmetrics, hattempt, hreport, TypeScript.intent_iff,
    TypeScript.observation_iff, TypeScript.binding_iff, TypeScript.metrics_iff, TypeScript.attempt_iff,
    TypeScript.suiteReport_iff, Python.sameFields_iff, Bool.and_eq_true, List.all_eq_true, decide_eq_true_eq,
    invocationLinkFields, List.forall_mem_cons, List.not_mem_nil, false_imp_iff, implies_true, and_true, and_assoc]
  constructor
  · rintro ⟨rintent, hintent, robservation, hobservation, i1, i2, i3, i4, i5, i6, i7, rartifact, hdated, hdistinct,
      rbinding, rmetrics, hmetrics, rattempt, hattempt, rreport, hreport, a1, a2, a3, c1, c2, c3, c4, b1, b2, b3, b4,
      hsupported, hevidence, m1, -, m2, m3, t1, t2, hobserved, t4, t3, hreported, p1, p2, p3⟩
    have hrecorded : ∀ claim ∈ r.claims, Recorded runtime.toContractRuntime claim.1 claim.2.1 claim.2.2 := by
      simp only [LiveRecords.claims, List.forall_mem_cons, List.not_mem_nil, false_imp_iff, implies_true, and_true]
      exact ⟨rintent, robservation, rartifact, rbinding, rmetrics, rattempt, rreport⟩
    have hfields := hartifact hrecorded
    refine ⟨⟨hrecorded, hintent, hobservation, hdistinct, hmetrics, hattempt, hreport,
      (hlinked hrecorded).mp ?_, hsupported, hobserved, hreported⟩, ?_, hevidence, hdated⟩
    · -- Python compares the observation with the artifact
      have htenant := (hfields "tenant_id" (by decide) _).2.mpr ((hfields "tenant_id" (by decide) _).1.mp a1).symm
      have hattemptId :=
        (hfields "attempt_id" (by decide) _).2.mpr ((hfields "attempt_id" (by decide) _).1.mp a2).symm
      simp only [LiveRecords.links, paired, invocationLinkFields, List.map_cons, List.map_nil,
        List.forall_mem_append, List.forall_mem_cons, List.not_mem_nil, false_imp_iff, implies_true, and_true,
        and_assoc]
      exact ⟨i1, i2, i3, i4, i5, i6, i7, htenant, hattemptId, a3, b1, b2, b3, b4, m1, m2, m3, t1, t2, t3, t4, p1, p2,
        p3⟩
    · simp only [List.forall_mem_cons, List.not_mem_nil, false_imp_iff, implies_true, and_true]
      exact ⟨(hfields "tenant_id" (by decide) _).1.mp c1, (hfields "case_id" (by decide) _).1.mp c2,
        (hfields "case_revision_id" (by decide) _).1.mp c3, (hfields "attempt_id" (by decide) _).1.mp c4⟩
  · rintro ⟨h, hpython⟩
    have hfields := hartifact h.recorded
    have hlinks := (hlinked h.recorded).mpr h.linked
    have hbound := hpython.bound
    have hrecorded := h.recorded
    simp only [LiveRecords.claims, List.forall_mem_cons, List.not_mem_nil, false_imp_iff, implies_true, and_true]
      at hrecorded hbound
    simp only [LiveRecords.links, paired, invocationLinkFields, List.map_cons, List.map_nil, List.forall_mem_append,
      List.forall_mem_cons, List.not_mem_nil, false_imp_iff, implies_true, and_true, and_assoc] at hlinks
    obtain ⟨i1, i2, i3, i4, i5, i6, i7, a1, a2, a3, b1, b2, b3, b4, m1, m2, m3, t1, t2, t3, t4, p1, p2, p3⟩ := hlinks
    obtain ⟨c1, c2, c3, c4⟩ := hbound
    obtain ⟨rintent, robservation, rartifact, rbinding, rmetrics, rattempt, rreport⟩ := hrecorded
    have htenant := (hfields "tenant_id" (by decide) _).1.mpr ((hfields "tenant_id" (by decide) _).2.mp a1).symm
    have hattemptId := (hfields "attempt_id" (by decide) _).1.mpr ((hfields "attempt_id" (by decide) _).2.mp a2).symm
    exact ⟨rintent, h.intent, robservation, h.observation, i1, i2, i3, i4, i5, i6, i7, rartifact, hpython.dated,
      h.distinct, rbinding, rmetrics, h.metrics, rattempt, h.attempt, rreport, h.report, htenant, hattemptId, a3,
      (hfields "tenant_id" (by decide) _).1.mpr c1, (hfields "case_id" (by decide) _).1.mpr c2,
      (hfields "case_revision_id" (by decide) _).1.mpr c3, (hfields "attempt_id" (by decide) _).1.mpr c4,
      b1, b2, b3, b4, h.supported, hpython.evidence, m1, hsuite h.recorded, m2, m3, t1, t2, h.observed, t4, t3,
      h.reported, p1, p2, p3⟩

end Chain

end WeFlow
