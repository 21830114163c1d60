import Mathlib.Algebra.Ring.Rat
import WeFlow.Contracts.Operator

/-!
# `Benchmark` — the seven records of a benchmark in both languages

A benchmark is an evaluation case with its result, the task, the oracle, the grader's result, the metrics and the
suite report. `evaluation.py` validates five of the records each for itself before it compares them; `index.ts`
compares them alone. With `Suite` and `Operator` this module says when both languages judge the read models alike.

## Contents

* `Python.validateBenchmarkResult`, `TypeScript.validateBenchmarkCoreResult` — the validators.
* `BenchmarkFacts` — what both require; `PythonBenchmark`, `TypeScriptBenchmark` — what one of them requires beside.
* `snapshots_judged_alike` — the three validators.
-/

namespace WeFlow

open Txn

/-! ## Schemas -/

/-- The fields that a benchmark's case needs beside are required of every benchmark by both languages. -/
def evaluationCaseSchema : ContractSchema where
  name := "evaluation-case"
  required :=
    [("schema_id", .const (contractSchemaId "evaluation-case")), ("schema_version", .const "v1"),
     ("tenant_id", .text 1), ("evaluation_case_id", .text 1), ("fixture_id", .text 1), ("input_hash", .hash true),
     ("created_at", .text 1)]
  optional :=
    [("oracle_id", .text 1), ("benchmark_profile", .const "benchmark-core.v1"), ("suite_id", .text 1),
     ("evaluation_task_id", .text 1), ("task_sha256", .hash true), ("oracle_sha256", .hash true)]

def evaluationResultSchema : ContractSchema where
  name := "evaluation-result"
  required :=
    [("schema_id", .const (contractSchemaId "evaluation-result")), ("schema_version", .const "v1"),
     ("tenant_id", .text 1), ("evaluation_result_id", .text 1), ("evaluation_case_id", .text 1),
     ("result", .enum ["passed", "failed", "not-run"]), ("recorded_at", .text 1)]
  optional :=
    [("failure_classification", .nullable (.text 0)), ("benchmark_profile", .const "benchmark-core.v1"),
     ("suite_id", .text 1), ("evaluation_task_id", .text 1), ("task_sha256", .hash true),
     ("oracle_sha256", .hash true), ("hard_gate_passed", .boolean), ("grader_result_id", .text 1),
     ("run_metrics_id", .text 1), ("suite_report_id", .text 1), ("report_sha256", .hash true),
     ("quality_score", .either scoreRule (.const "not_scored")), ("capability_flags", .record capabilityFlagFields)]

def evaluationTaskSchema : ContractSchema where
  name := "evaluation-task"
  required :=
    [("schema_id", .const (contractSchemaId "evaluation-task")), ("schema_version", .const "v1"),
     ("tenant_id", .text 1), ("suite_id", .text 1), ("evaluation_task_id", .text 1), ("fixture_id", .text 1),
     ("fixture_source_id", .text 1), ("fixture_source_path", .path "fixtures/" alphanumerics true),
     ("fixture_sha256", .hash true), ("policy_source_id", .text 1),
     ("policy_source_path", .path "evals/sources/" alphanumerics true), ("policy_sha256", .hash true),
     ("execution_adapter", .enum
        ["case-intake", "durable-workflow", "investigation-agent", "policy-approval", "evidence-trajectory"]),
     ("created_at", .text 1)]
  optional := [("fault_profile_id", .text 1)]

def evaluationOracleSchema : ContractSchema where
  name := "evaluation-oracle"
  required :=
    [("schema_id", .const (contractSchemaId "evaluation-oracle")), ("schema_version", .const "v1"),
     ("tenant_id", .text 1), ("oracle_id", .text 1), ("evaluation_task_id", .text 1),
     ("expected_outcome", .enum
        ["accepted", "deduplicated", "inbound_out_of_order", "ticket_ready", "waiting_for_operator",
         "response_ready", "fixture_delivery_recorded", "authorization_denied", "recovered_after_interruption",
         "lineage_invalid"]),
     ("expected_local_effect_count", .range 0 2), ("required_hard_gates", .list 1 (.enum hardGateNames)),
     ("quality_weights", .record (.ofList
        [("outcome", .range 0 100), ("evidence", .range 0 100), ("recovery", .range 0 100),
         ("efficiency", .range 0 100)]))]
  optional := [("requires_approval", .boolean)]

def graderResultSchema : ContractSchema where
  name := "grader-result"
  required :=
    [("schema_id", .const (contractSchemaId "grader-result")), ("schema_version", .const "v1"),
     ("tenant_id", .text 1), ("grader_result_id", .text 1), ("suite_id", .text 1), ("run_id", .text 1),
     ("evaluation_task_id", .text 1), ("task_sha256", .hash true), ("oracle_sha256", .hash true),
     ("hard_gates", .list 1 (.record hardGateFields)), ("dimensions", .list 0 (.record dimensionFields)),
     ("hard_gate_passed", .boolean), ("quality_score", .either scoreRule (.const "not_scored")),
     ("result", .enum ["passed", "failed"]), ("capability_flags", .record capabilityFlagFields)]
  optional := [("failure_classification", .nullable (.text 0))]

def runMetricsSchema : ContractSchema where
  name := "run-metrics"
  required :=
    [("schema_id", .const (contractSchemaId "run-metrics")), ("schema_version", .const "v1"),
     ("tenant_id", .text 1), ("run_metrics_id", .text 1), ("suite_id", .text 1), ("run_id", .text 1),
     ("evaluation_task_id", .text 1), ("tool_call_count", .integer 0), ("local_effect_count", .range 0 2),
     ("network_request_count", .literal (.int 0)), ("model_invocation_count", .literal (.int 0)),
     ("external_write_attempt_count", .literal (.int 0))]
  optional := []

def evaluationSuiteReportSchema : ContractSchema where
  name := "evaluation-suite-report"
  required :=
    [("schema_id", .const (contractSchemaId "evaluation-suite-report")), ("schema_version", .const "v1"),
     ("suite_report_id", .text 1), ("suite_id", .text 1), ("suite_sha256", .hash true),
     ("profile", .const "benchmark-core.v1"), ("task_count", .integer 1), ("passed_task_count", .integer 0),
     ("failed_task_count", .integer 0), ("unscored_task_count", .integer 0),
     ("task_result_ids", .list 1 (.text 1)), ("capability_flags", .record capabilityFlagFields),
     ("report_sha256", .hash true)]
  optional := []

def benchmarkSchemas : List ContractSchema :=
  [evaluationCaseSchema, evaluationResultSchema, evaluationTaskSchema, evaluationOracleSchema, graderResultSchema,
   runMetricsSchema, evaluationSuiteReportSchema]

def snapshotSchemas : List ContractSchema :=
  [evaluationSuiteSnapshotSchema, operatorCaseSnapshotSchema] ++ benchmarkSchemas

structure BenchmarkRecords where
  evaluationCase : JsonFields
  evaluationResult : JsonFields
  task : JsonFields
  oracle : JsonFields
  graderResult : JsonFields
  metrics : JsonFields
  suiteReport : JsonFields

def BenchmarkRecords.all (records : BenchmarkRecords) : List JsonFields :=
  [records.evaluationCase, records.evaluationResult, records.task, records.oracle, records.graderResult,
   records.metrics, records.suiteReport]

/-- What the case, the result and, but for the profile, the grader's result repeat of the task and the oracle. -/
def BenchmarkRecords.expected (records : BenchmarkRecords) (sha256 : Json → String) :
    List (String × Option Json) :=
  [("suite_id", records.task.get? "suite_id"), ("evaluation_task_id", records.task.get? "evaluation_task_id"),
   ("task_sha256", some (.str (valueSha256 sha256 (.obj records.task)))),
   ("oracle_sha256", some (.str (valueSha256 sha256 (.obj records.oracle))))]

def benchmarkProfile : String × Option Json := ("benchmark_profile", some (.str "benchmark-core.v1"))

/-! ## `evaluation.py` -/

namespace Python

section Validators

variable (runtime : ContractRuntime) (sha256 : Json → String)

/-- `validate_payload` and the schema identity. -/
def identified (payload : JsonFields) (schema : ContractSchema) : Except ContractValidationError Unit := do
  runtime.validatePayload payload
  require (eq (payload.get? "schema_id") (some (.str schema.id))) ⟨schema.name, "schema_identity_invalid"⟩

/-- `sum(weights.values())`. -/
def weightSum (weights : JsonFields) : Rat := (weights.toList.map fun entry => entry.2.pyNumber?.getD 0).sum

def validateEvaluationOracle (oracle : JsonFields) : Except ContractValidationError Unit := do
  identified runtime oracle evaluationOracleSchema
  require ((objectOf? (oracle.get? "quality_weights")).any fun weights => weightSum weights = 100)
    ⟨"evaluation-oracle", "quality_weights_invalid"⟩

def validateGraderResult (result : JsonFields) : Except ContractValidationError Unit := do
  identified runtime result graderResultSchema
  let gates ← fetch (arrayOf? (result.get? "hard_gates")) ⟨"grader-result", "hard_gates_invalid"⟩
  require (result.get? "hard_gate_passed" = some (.bool (gatesPass gates)))
    ⟨"grader-result", "hard_gate_summary_invalid"⟩
  scored (gatesPass gates) (result.get? "quality_score") "grader-result"

/-- Whether the three counts are integers that add up to the fourth. -/
def countsAdd (report : JsonFields) : Bool :=
  (["passed_task_count", "failed_task_count", "unscored_task_count"].all fun field => isInt (report.get? field)) &&
    eq (report.get? "task_count") (some (.int (wholeOf (report.get? "passed_task_count") +
      wholeOf (report.get? "failed_task_count") + wholeOf (report.get? "unscored_task_count"))))

def validateEvaluationSuiteReport (report : JsonFields) : Except ContractValidationError Unit := do
  identified runtime report evaluationSuiteReportSchema
  require (eq (report.get? "report_sha256") (some (.str (canonicalSha256 sha256 report ["report_sha256"]))))
    ⟨"evaluation-suite-report", "report_sha256_mismatch"⟩
  let resultIds ← fetch (arrayOf? (report.get? "task_result_ids")) ⟨"evaluation-suite-report", "task_count_invalid"⟩
  require (isInt (report.get? "task_count") && eq (report.get? "task_count") (some (.int resultIds.length)))
    ⟨"evaluation-suite-report", "task_count_invalid"⟩
  require (distinct (.ofList resultIds)) ⟨"evaluation-suite-report", "task_result_ids_duplicate"⟩
  require (countsAdd report) ⟨"evaluation-suite-report", "result_counts_invalid"⟩

/-- Checks of two values each. -/
def allEqual (pairs : List (Option Json × Option Json)) (reason : String) : Except ContractValidationError Unit :=
  require (pairs.all fun pair => eq pair.1 pair.2) ⟨"evaluation-benchmark", reason⟩

/-- `record.get(key) != value` for the keys and values expected. -/
def repeats (record : JsonFields) (expected : List (String × Option Json)) (grader : String) :
    Except ContractValidationError Unit :=
  expected.forM fun entry => require (eq (record.get? entry.1) entry.2)
    ⟨"evaluation-benchmark", grader ++ entry.1 ++ "_mismatch"⟩

/-- **`validate_benchmark_result`.** -/
def validateBenchmarkResult (r : BenchmarkRecords) : Except ContractValidationError Unit := do
  runtime.validatePayload r.evaluationCase
  runtime.validatePayload r.evaluationResult
  identified runtime r.task evaluationTaskSchema
  validateEvaluationOracle runtime r.oracle
  validateGraderResult runtime r.graderResult
  identified runtime r.metrics runMetricsSchema
  validateEvaluationSuiteReport runtime sha256 r.suiteReport
  validateTenantReference [r.evaluationCase, r.evaluationResult, r.task, r.oracle, r.graderResult, r.metrics]
  allEqual [(r.oracle.get? "evaluation_task_id", r.task.get? "evaluation_task_id")] "oracle_task_mismatch"
  allEqual [(r.evaluationCase.get? "fixture_id", r.task.get? "fixture_id"),
    (r.evaluationCase.get? "input_hash", r.task.get? "fixture_sha256"),
    (r.evaluationCase.get? "oracle_id", r.oracle.get? "oracle_id")] "evaluation_case_source_mismatch"
  repeats r.evaluationCase (benchmarkProfile :: r.expected sha256) ""
  repeats r.evaluationResult (benchmarkProfile :: r.expected sha256) ""
  repeats r.graderResult (r.expected sha256) "grader_"
  allEqual [(r.suiteReport.get? "suite_id", r.task.get? "suite_id"),
    (r.suiteReport.get? "profile", some (.str "benchmark-core.v1"))] "suite_identity_mismatch"
  allEqual [(r.metrics.get? "suite_id", r.task.get? "suite_id"),
    (r.metrics.get? "evaluation_task_id", r.task.get? "evaluation_task_id")] "metrics_link_mismatch"
  allEqual [(r.graderResult.get? "run_id", r.metrics.get? "run_id")] "run_identity_mismatch"
  allEqual [(r.evaluationResult.get? "grader_result_id", r.graderResult.get? "grader_result_id")]
    "grader_link_mismatch"
  allEqual [(r.evaluationResult.get? "run_metrics_id", r.metrics.get? "run_metrics_id")] "metrics_link_mismatch"
  allEqual [(r.evaluationResult.get? "suite_report_id", r.suiteReport.get? "suite_report_id")] "report_link_mismatch"
  allEqual [(r.evaluationResult.get? "report_sha256", r.suiteReport.get? "report_sha256")] "report_hash_mismatch"
  allEqual [(r.evaluationResult.get? "evaluation_case_id", r.evaluationCase.get? "evaluation_case_id")]
    "evaluation_case_mismatch"
  -- `is not`
  require (r.evaluationResult.get? "hard_gate_passed" = r.graderResult.get? "hard_gate_passed")
    ⟨"evaluation-benchmark", "hard_gate_result_mismatch"⟩
  allEqual [(r.evaluationResult.get? "quality_score", r.graderResult.get? "quality_score")] "quality_score_mismatch"
  allEqual [(r.evaluationResult.get? "result", r.graderResult.get? "result"),
    (r.evaluationResult.get? "failure_classification", r.graderResult.get? "failure_classification")]
    "result_summary_mismatch"
  allEqual [(r.evaluationResult.get? "capability_flags", r.graderResult.get? "capability_flags"),
    (r.evaluationResult.get? "capability_flags", r.suiteReport.get? "capability_flags")] "capability_flags_mismatch"
  require ((itemsOf (r.suiteReport.get? "task_result_ids")).countP
      (fun id => eq (some id) (r.evaluationResult.get? "evaluation_result_id")) = 1)
    ⟨"evaluation-benchmark", "suite_result_missing"⟩

end Validators

end Python

/-! ## `index.ts` -/

namespace TypeScript

section Validators

variable (runtime : ContractRuntime) (sha256 : Json → String)

def allEqual (pairs : List (Option Json × Option Json)) (reason : String) : Except String Unit :=
  require (pairs.all fun pair => eq pair.1 pair.2) reason

/-- `record[field] !== value` for the fields and values expected. -/
def repeats (record : JsonFields) (expected : List (String × Option Json)) (grader : String) : Except String Unit :=
  expected.forM fun entry => require (eq (record.get? entry.1) entry.2)
    ("benchmark-" ++ grader ++ entry.1 ++ "-mismatch")

/-- `canonicalJson(left) !== canonicalJson(right)`. -/
def sameCanonical (left right : Option Json) : Bool := left.map Json.canonical = right.map Json.canonical

/-- **`validateBenchmarkCoreResult`.** -/
def validateBenchmarkCoreResult (r : BenchmarkRecords) : Except String Unit := do
  r.all.forM (validatePayload runtime)
  allEqual [(r.evaluationCase.get? "fixture_id", r.task.get? "fixture_id"),
    (r.evaluationCase.get? "input_hash", r.task.get? "fixture_sha256"),
    (r.evaluationCase.get? "oracle_id", r.oracle.get? "oracle_id")] "benchmark-evaluation-case-source-mismatch"
  repeats r.evaluationCase (benchmarkProfile :: r.expected sha256) ""
  repeats r.evaluationResult (benchmarkProfile :: r.expected sha256) ""
  repeats r.graderResult (r.expected sha256) "grader-"
  allEqual ([r.evaluationCase, r.evaluationResult, r.oracle, r.graderResult, r.metrics].map fun record =>
    (record.get? "tenant_id", r.task.get? "tenant_id")) "benchmark-tenant-mismatch"
  allEqual [(r.suiteReport.get? "suite_id", r.task.get? "suite_id"),
    (r.suiteReport.get? "profile", some (.str "benchmark-core.v1"))] "benchmark-suite-identity-mismatch"
  allEqual [(r.metrics.get? "suite_id", r.task.get? "suite_id"),
    (r.metrics.get? "evaluation_task_id", r.task.get? "evaluation_task_id")] "benchmark-metrics-link-mismatch"
  allEqual [(r.graderResult.get? "run_id", r.metrics.get? "run_id")] "benchmark-run-identity-mismatch"
  allEqual [(r.evaluationResult.get? "grader_result_id", r.graderResult.get? "grader_result_id"),
    (r.evaluationResult.get? "run_metrics_id", r.metrics.get? "run_metrics_id"),
    (r.evaluationResult.get? "evaluation_case_id", r.evaluationCase.get? "evaluation_case_id")]
    "benchmark-result-link-mismatch"
  let gates ← fetch (arrayOf? (r.graderResult.get? "hard_gates")) "benchmark-hard-gates-invalid"
  let hardGatePassed := gatesPass gates
  allEqual [(r.graderResult.get? "hard_gate_passed", some (.bool hardGatePassed)),
    (r.evaluationResult.get? "hard_gate_passed", some (.bool hardGatePassed))] "benchmark-hard-gate-summary-invalid"
  require (hardGatePassed || [r.graderResult, r.evaluationResult].all fun record =>
      eq (record.get? "quality_score") (some (.str "not_scored"))) "benchmark-quality-score-invalid"
  allEqual [(r.evaluationResult.get? "result", r.graderResult.get? "result"),
    (r.evaluationResult.get? "failure_classification", r.graderResult.get? "failure_classification")]
    "benchmark-result-summary-mismatch"
  require (sameCanonical (r.evaluationResult.get? "capability_flags") (r.graderResult.get? "capability_flags") &&
      sameCanonical (r.evaluationResult.get? "capability_flags") (r.suiteReport.get? "capability_flags"))
    "benchmark-capability-flags-mismatch"
  let reportHash := canonicalSha256 sha256 r.suiteReport ["report_sha256"]
  allEqual [(r.suiteReport.get? "report_sha256", some (.str reportHash)),
    (r.evaluationResult.get? "suite_report_id", r.suiteReport.get? "suite_report_id"),
    (r.evaluationResult.get? "report_sha256", some (.str reportHash))] "benchmark-report-link-invalid"
  let resultIds ← fetch (arrayOf? (r.suiteReport.get? "task_result_ids")) "benchmark-suite-result-missing"
  require (distinct (.ofList resultIds) && decide (resultIds.countP
      (fun value => eq (some value) (r.evaluationResult.get? "evaluation_result_id")) = 1))
    "benchmark-suite-result-missing"

end Validators

end TypeScript

/-! ## What the languages require -/

namespace BenchmarkRecords

variable (r : BenchmarkRecords) (sha256 : Json → String)

/-- What a record repeats, beside what it is to be. -/
def repeated (record : JsonFields) (expected : List (String × Option Json)) : List (Option Json × Option Json) :=
  expected.map fun entry => (record.get? entry.1, entry.2)

/-- The values that both languages compare, each with one that a schema makes a text. -/
def links : List (Option Json × Option Json) :=
  [(r.evaluationCase.get? "fixture_id", r.task.get? "fixture_id"),
    (r.evaluationCase.get? "input_hash", r.task.get? "fixture_sha256"),
    (r.evaluationCase.get? "oracle_id", r.oracle.get? "oracle_id")] ++
  repeated r.evaluationCase (benchmarkProfile :: r.expected sha256) ++
  repeated r.evaluationResult (benchmarkProfile :: r.expected sha256) ++
  repeated r.graderResult (r.expected sha256) ++
  ([r.evaluationCase, r.evaluationResult, r.oracle, r.graderResult, r.metrics].map fun record =>
    (record.get? "tenant_id", r.task.get? "tenant_id")) ++
  [(r.suiteReport.get? "suite_id", r.task.get? "suite_id"),
    (r.suiteReport.get? "profile", some (.str "benchmark-core.v1"))] ++
  [(r.metrics.get? "suite_id", r.task.get? "suite_id"),
    (r.metrics.get? "evaluation_task_id", r.task.get? "evaluation_task_id")] ++
  [(r.graderResult.get? "run_id", r.metrics.get? "run_id"),
    (r.evaluationResult.get? "grader_result_id", r.graderResult.get? "grader_result_id"),
    (r.evaluationResult.get? "run_metrics_id", r.metrics.get? "run_metrics_id"),
    (r.evaluationResult.get? "suite_report_id", r.suiteReport.get? "suite_report_id"),
    (r.evaluationResult.get? "result", r.graderResult.get? "result")]

/-- The records that Python validates each for itself. -/
def identities : List (JsonFields × ContractSchema) :=
  [(r.task, evaluationTaskSchema), (r.oracle, evaluationOracleSchema), (r.graderResult, graderResultSchema),
   (r.metrics, runMetricsSchema), (r.suiteReport, evaluationSuiteReportSchema)]

end BenchmarkRecords

/-- The gates of a grader's result, with the summaries and the scores that depend on them. -/
structure GateFacts (r : BenchmarkRecords) (passed : Bool) : Prop where
  grader : r.graderResult.get? "hard_gate_passed" = some (.bool passed)
  result : r.evaluationResult.get? "hard_gate_passed" = some (.bool passed)
  unscored : passed = false → ∀ record ∈ [r.graderResult, r.evaluationResult],
    record.get? "quality_score" = some (.str "not_scored")

/-- **What both languages require of a benchmark.** -/
structure BenchmarkFacts (runtime : ContractRuntime) (sha256 : Json → String) (r : BenchmarkRecords) : Prop where
  valid : ∀ record ∈ r.all, runtime.validatePayload record = .ok ()
  linked : ∀ pair ∈ r.links sha256, TypeScript.eq pair.1 pair.2 = true
  gates : ∃ gates, arrayOf? (r.graderResult.get? "hard_gates") = some gates ∧
    GateFacts r (TypeScript.gatesPass gates)
  reportHash : r.suiteReport.get? "report_sha256" =
    some (.str (canonicalSha256 sha256 r.suiteReport ["report_sha256"]))
  resultHash : r.evaluationResult.get? "report_sha256" =
    some (.str (canonicalSha256 sha256 r.suiteReport ["report_sha256"]))
  resultIds : ∃ ids, arrayOf? (r.suiteReport.get? "task_result_ids") = some ids ∧
    TypeScript.distinct (.ofList ids) = true ∧
    ids.countP (fun value => TypeScript.eq (some value) (r.evaluationResult.get? "evaluation_result_id")) = 1

/-- What TypeScript requires beside: comparisons in which a missing value is not `null`. -/
structure TypeScriptBenchmark (r : BenchmarkRecords) : Prop where
  evaluationCase : TypeScript.eq (r.evaluationResult.get? "evaluation_case_id")
    (r.evaluationCase.get? "evaluation_case_id") = true
  classification : TypeScript.eq (r.evaluationResult.get? "failure_classification")
    (r.graderResult.get? "failure_classification") = true
  flags : ∀ record ∈ [r.graderResult, r.suiteReport], TypeScript.sameCanonical
    (r.evaluationResult.get? "capability_flags") (record.get? "capability_flags") = true

/-- What Python requires beside: the identity of five records, their own checks, and its comparisons. -/
structure PythonBenchmark (r : BenchmarkRecords) : Prop where
  identified : ∀ entry ∈ r.identities, entry.1.get? "schema_id" = some (.str entry.2.id)
  weights : (objectOf? (r.oracle.get? "quality_weights")).any (fun weights => Python.weightSum weights = 100) = true
  oracleTask : r.oracle.get? "evaluation_task_id" = r.task.get? "evaluation_task_id"
  scored : r.graderResult.get? "hard_gate_passed" = some (.bool true) →
    isNumber (r.graderResult.get? "quality_score") = true
  taskCount : (Python.isInt (r.suiteReport.get? "task_count") && Python.eq (r.suiteReport.get? "task_count")
    (some (.int (itemsOf (r.suiteReport.get? "task_result_ids")).length))) = true
  counts : Python.countsAdd r.suiteReport = true
  evaluationCase : Python.eq (r.evaluationResult.get? "evaluation_case_id")
    (r.evaluationCase.get? "evaluation_case_id") = true
  score : Python.eq (r.evaluationResult.get? "quality_score") (r.graderResult.get? "quality_score") = true
  classification : Python.eq (r.evaluationResult.get? "failure_classification")
    (r.graderResult.get? "failure_classification") = true
  flags : ∀ record ∈ [r.graderResult, r.suiteReport], Python.eq
    (r.evaluationResult.get? "capability_flags") (record.get? "capability_flags") = true

section Benchmark

variable {schemas : List ContractSchema} {runtime : SchemaRuntime schemas} {sha256 : Json → String}
  {r : BenchmarkRecords}

theorem TypeScript.allEqual_iff {pairs : List (Option Json × Option Json)} {reason : String} :
    TypeScript.allEqual pairs reason = .ok () ↔ ∀ pair ∈ pairs, TypeScript.eq pair.1 pair.2 = true := by
  rw [TypeScript.allEqual, require_eq_ok, List.all_eq_true]

theorem TypeScript.repeats_iff {record : JsonFields} {expected : List (String × Option Json)} {grader : String} :
    TypeScript.repeats record expected grader = .ok () ↔
      ∀ pair ∈ BenchmarkRecords.repeated record expected, TypeScript.eq pair.1 pair.2 = true := by
  rw [TypeScript.repeats, forM_require_eq_ok, BenchmarkRecords.repeated, List.forall_mem_map]

theorem TypeScript.benchmark_iff {runtime : ContractRuntime} :
    TypeScript.validateBenchmarkCoreResult runtime sha256 r = .ok () ↔
      BenchmarkFacts runtime sha256 r ∧ TypeScriptBenchmark r := by
  have hvalid : r.all.forM (TypeScript.validatePayload runtime) = .ok () ↔
      ∀ record ∈ r.all, runtime.validatePayload record = .ok () := by
    rw [forM_eq_ok_iff]
    exact forall₂_congr fun record _ => TypeScript.validatePayload_iff
  have hscores : ∀ passed : Bool, (passed || [r.graderResult, r.evaluationResult].all fun record =>
        TypeScript.eq (record.get? "quality_score") (some (.str "not_scored"))) = true ↔
      (passed = false → ∀ record ∈ [r.graderResult, r.evaluationResult],
        record.get? "quality_score" = some (.str "not_scored")) := by
    intro passed
    rw [Bool.or_eq_true, List.all_eq_true]
    cases passed <;> simp [TypeScript.eq_text]
  simp only [TypeScript.validateBenchmarkCoreResult, unit_bind_eq_ok, fetch_bind_eq_ok, require_eq_ok, hvalid, hscores,
    TypeScript.allEqual_iff, TypeScript.repeats_iff, Bool.and_eq_true, decide_eq_true_eq, List.map_cons, List.map_nil,
    List.forall_mem_cons, List.not_mem_nil, false_imp_iff, implies_true, and_true, and_assoc]
  constructor
  · rintro ⟨hall, s1, s2, s3, hcase, hresult, hgrader, t1, t2, t3, t4, t5, u1, u2, m1, m2, hrun, g, k, c, gates,
      hgates, p1, p2, hunscored, hsummary, hclass, f1, f2, hash, hreport, hash', ids, hids, hdistinct, hcount⟩
    refine ⟨⟨hall, ?_, ⟨gates, hgates, TypeScript.eq_bool.mp p1, TypeScript.eq_bool.mp p2, ?_⟩,
      TypeScript.eq_text.mp hash, TypeScript.eq_text.mp hash', ids, hids, hdistinct, hcount⟩, c, hclass, ?_⟩
    · simp only [BenchmarkRecords.links, List.forall_mem_append, List.map_cons, List.map_nil, List.forall_mem_cons,
        List.not_mem_nil, false_imp_iff, implies_true, and_true, and_assoc]
      exact ⟨s1, s2, s3, hcase, hresult, hgrader, t1, t2, t3, t4, t5, u1, u2, m1, m2, hrun, g, k, hreport, hsummary⟩
    · simpa using hunscored
    · simp only [List.forall_mem_cons, List.not_mem_nil, false_imp_iff, implies_true, and_true]
      exact ⟨f1, f2⟩
  · rintro ⟨h, hts⟩
    have hlinked := h.linked
    have hflags := hts.flags
    simp only [BenchmarkRecords.links, List.forall_mem_append, List.map_cons, List.map_nil, List.forall_mem_cons,
      List.not_mem_nil, false_imp_iff, implies_true, and_true, and_assoc] at hlinked hflags
    obtain ⟨s1, s2, s3, hcase, hresult, hgrader, t1, t2, t3, t4, t5, u1, u2, m1, m2, hrun, g, k, hreport,
      hsummary⟩ := hlinked
    obtain ⟨gates, hgates, hgateFacts⟩ := h.gates
    obtain ⟨ids, hids, hdistinct, hcount⟩ := h.resultIds
    refine ⟨h.valid, s1, s2, s3, hcase, hresult, hgrader, t1, t2, t3, t4, t5, u1, u2, m1, m2, hrun, g, k,
      hts.evaluationCase, gates, hgates, TypeScript.eq_bool.mpr hgateFacts.grader,
      TypeScript.eq_bool.mpr hgateFacts.result, ?_, hsummary, hts.classification, hflags.1, hflags.2,
      TypeScript.eq_text.mpr h.reportHash, hreport, TypeScript.eq_text.mpr h.resultHash, ids, hids, hdistinct, hcount⟩
    simpa using hgateFacts.unscored

/-- The texts of the five records that Python identifies. -/
theorem identified_accepts (hschemas : benchmarkSchemas ⊆ schemas)
    (hvalid : ∀ record ∈ r.all, runtime.validatePayload record = .ok ())
    (hids : ∀ entry ∈ r.identities, entry.1.get? "schema_id" = some (.str entry.2.id)) :
    ∀ entry ∈ r.identities, entry.2.accepts entry.1 = true := by
  intro entry hentry
  have hmem : entry.1 ∈ r.all ∧ entry.2 ∈ benchmarkSchemas := by
    simp only [BenchmarkRecords.identities, List.mem_cons, List.not_mem_nil, or_false] at hentry
    rcases hentry with rfl | rfl | rfl | rfl | rfl <;> simp [BenchmarkRecords.all, benchmarkSchemas]
  exact runtime.shapes _ (hvalid _ hmem.1) _ (hschemas hmem.2) (hids entry hentry)

/-- **What both languages compare is a text**, once the five records are what they stand for. -/
theorem links_text (haccepts : ∀ entry ∈ r.identities, entry.2.accepts entry.1 = true) :
    ∀ pair ∈ r.links sha256, ∃ s, pair.2 = some (.str s) := by
  have htask := haccepts (r.task, evaluationTaskSchema) (by simp [BenchmarkRecords.identities])
  have horacle := haccepts (r.oracle, evaluationOracleSchema) (by simp [BenchmarkRecords.identities])
  have hgrader := haccepts (r.graderResult, graderResultSchema) (by simp [BenchmarkRecords.identities])
  have hmetrics := haccepts (r.metrics, runMetricsSchema) (by simp [BenchmarkRecords.identities])
  have hreport := haccepts (r.suiteReport, evaluationSuiteReportSchema) (by simp [BenchmarkRecords.identities])
  have taskTexts : evaluationTaskSchema.texts
      ["fixture_id", "fixture_sha256", "suite_id", "evaluation_task_id", "tenant_id"] = true := by decide
  have oracleTexts : evaluationOracleSchema.texts ["oracle_id"] = true := by decide
  have graderTexts : graderResultSchema.texts ["grader_result_id", "result"] = true := by decide
  have metricsTexts : runMetricsSchema.texts ["run_id", "run_metrics_id"] = true := by decide
  have reportTexts : evaluationSuiteReportSchema.texts ["suite_report_id"] = true := by decide
  have hexpected : ∀ entry ∈ r.expected sha256, ∃ s, entry.2 = some (.str s) := by
    simp only [BenchmarkRecords.expected, List.forall_mem_cons, List.not_mem_nil, false_imp_iff, implies_true,
      and_true]
    exact ⟨ContractSchema.text_of_texts htask taskTexts (by decide),
      ContractSchema.text_of_texts htask taskTexts (by decide), ⟨_, rfl⟩, ⟨_, rfl⟩⟩
  have hrepeated : ∀ record, ∀ pair ∈ BenchmarkRecords.repeated record (r.expected sha256),
      ∃ s, pair.2 = some (.str s) := by
    intro record
    rw [BenchmarkRecords.repeated, List.forall_mem_map]
    exact hexpected
  have hprofiled : ∀ record, ∀ pair ∈ BenchmarkRecords.repeated record (benchmarkProfile :: r.expected sha256),
      ∃ s, pair.2 = some (.str s) := by
    intro record
    rw [BenchmarkRecords.repeated, List.forall_mem_map, List.forall_mem_cons]
    exact ⟨⟨_, rfl⟩, hexpected⟩
  have htenant := ContractSchema.text_of_texts htask taskTexts (show "tenant_id" ∈ _ by decide)
  have hsuite := ContractSchema.text_of_texts htask taskTexts (show "suite_id" ∈ _ by decide)
  simp only [BenchmarkRecords.links, List.forall_mem_append, List.map_cons, List.map_nil, List.forall_mem_cons,
    List.not_mem_nil, false_imp_iff, implies_true, and_true, and_assoc]
  exact ⟨ContractSchema.text_of_texts htask taskTexts (by decide),
    ContractSchema.text_of_texts htask taskTexts (by decide),
    ContractSchema.text_of_texts horacle oracleTexts (by decide), hprofiled _, hprofiled _, hrepeated _, htenant,
    htenant, htenant, htenant, htenant, hsuite, ⟨_, rfl⟩, hsuite,
    ContractSchema.text_of_texts htask taskTexts (by decide),
    ContractSchema.text_of_texts hmetrics metricsTexts (by decide),
    ContractSchema.text_of_texts hgrader graderTexts (by decide),
    ContractSchema.text_of_texts hmetrics metricsTexts (by decide),
    ContractSchema.text_of_texts hreport reportTexts (by decide),
    ContractSchema.text_of_texts hgrader graderTexts (by decide)⟩

theorem Python.allEqual_iff {pairs : List (Option Json × Option Json)} {reason : String} :
    Python.allEqual pairs reason = .ok () ↔ ∀ pair ∈ pairs, Python.eq pair.1 pair.2 = true := by
  rw [Python.allEqual, require_eq_ok, List.all_eq_true]

theorem Python.repeats_iff {record : JsonFields} {expected : List (String × Option Json)} {grader : String} :
    Python.repeats record expected grader = .ok () ↔
      ∀ pair ∈ BenchmarkRecords.repeated record expected, Python.eq pair.1 pair.2 = true := by
  rw [Python.repeats, forM_require_eq_ok, BenchmarkRecords.repeated, List.forall_mem_map]

theorem Python.identified_iff {runtime : ContractRuntime} {payload : JsonFields} {schema : ContractSchema} :
    Python.identified runtime payload schema = .ok () ↔
      runtime.validatePayload payload = .ok () ∧ payload.get? "schema_id" = some (.str schema.id) := by
  rw [Python.identified, unit_bind_eq_ok, require_eq_ok, Python.eq_text]

/-- The tenants of some records, one of which names its own. -/
theorem Python.tenantReference_iff {records : List JsonFields} {owner : JsonFields} (hmem : owner ∈ records)
    {a : String} (ha : owner.get? "tenant_id" = some (.str a)) (hne : a ≠ "") :
    Python.validateTenantReference records = .ok () ↔
      ∀ record ∈ records, record.get? "tenant_id" = some (.str a) := by
  rw [Python.validateTenantReference, require_bind_eq_ok, require_eq_ok, List.all_eq_true, List.all_eq_true,
    List.forall_mem_map, List.forall_mem_map]
  constructor
  · rintro ⟨-, hsame⟩ record hrecord
    have heq := List.all_eq_true.mp (hsame record hrecord) _ (List.mem_map_of_mem hmem)
    rw [ha, Option.getD_some, Json.pyEq_str] at heq
    cases hid : record.get? "tenant_id" with
    | none => rw [hid] at heq; cases heq
    | some v => rw [hid] at heq; exact congrArg some heq
  · intro hall
    refine ⟨fun record hrecord => ?_, fun record hrecord => List.all_eq_true.mpr fun id hid => ?_⟩
    · rw [hall record hrecord]
      simp [Json.pyEq, Json.pyNumber?, Json.number?, sameNumber, hne]
    · obtain ⟨other, hother, rfl⟩ := List.mem_map.mp hid
      rw [hall record hrecord, hall other hother]
      exact Json.pyEq_str.mpr rfl

/-- The gates of an accepted grader's result pass alike. -/
theorem grader_gates (h : graderResultSchema.accepts r.graderResult = true) {gates : List Json}
    (hgates : arrayOf? (r.graderResult.get? "hard_gates") = some gates) :
    Python.gatesPass gates = TypeScript.gatesPass gates := by
  obtain ⟨v, hv, haccepts⟩ := ContractSchema.required_value h (show "hard_gates" ∈ _ by decide) rfl
  obtain ⟨items, rfl, -, hitems⟩ := FieldRule.items_of_accepts haccepts
  rw [hv] at hgates
  obtain rfl := Option.some.inj hgates
  exact gatesPass_alike fun gate hgate => gateShape_of_accepts (hitems gate hgate)

/-- The results of an accepted report are texts, and compared alike. -/
theorem report_ids (h : evaluationSuiteReportSchema.accepts r.suiteReport = true) :
    ∃ ids, arrayOf? (r.suiteReport.get? "task_result_ids") = some ids ∧
      itemsOf (r.suiteReport.get? "task_result_ids") = ids ∧
      Python.distinct (.ofList ids) = TypeScript.distinct (.ofList ids) ∧
      ∀ value, ids.countP (fun id => Python.eq (some id) value) = ids.countP fun id => TypeScript.eq (some id) value := by
  obtain ⟨v, hv, haccepts⟩ := ContractSchema.required_value h (show "task_result_ids" ∈ _ by decide) rfl
  obtain ⟨items, rfl, -, hitems⟩ := FieldRule.items_of_accepts haccepts
  have htexts : ∀ id ∈ items.toList, ∃ s, id = .str s := fun id hid => FieldRule.text_of_accepts rfl (hitems id hid)
  have hstrings : ∃ texts : List String, items.toList = texts.map .str := by
    generalize items.toList = ids at htexts
    induction ids with
    | nil => exact ⟨[], rfl⟩
    | cons id ids ih =>
        obtain ⟨s, rfl⟩ := htexts id List.mem_cons_self
        obtain ⟨texts, rfl⟩ := ih fun id hid => htexts id (List.mem_cons_of_mem _ hid)
        exact ⟨s :: texts, rfl⟩
  obtain ⟨texts, htextsOf⟩ := hstrings
  rw [itemsOf, hv]
  refine ⟨items.toList, rfl, rfl, ?_, fun value => List.countP_congr fun id hid => ?_⟩
  · rw [htextsOf]
    exact distinct_alike texts
  · obtain ⟨s, rfl⟩ := htexts id hid
    exact (eq_iff_of_text (.inl rfl)).1.trans (eq_iff_of_text (.inl rfl)).2.symm

theorem Python.graderScored_iff {passed : Bool} :
    Python.scored passed (r.graderResult.get? "quality_score") "grader-result" = .ok () ↔
      (passed = true → isNumber (r.graderResult.get? "quality_score") = true) ∧
        (passed = false → r.graderResult.get? "quality_score" = some (.str "not_scored")) := by
  have h := @Python.scored_iff passed (.obj r.graderResult) "grader-result"
  rw [isUnscored, decide_eq_true_eq] at h
  exact h

/-- **What Python requires of a benchmark** is what both require, and its own. -/
theorem Python.benchmark_iff (hschemas : benchmarkSchemas ⊆ schemas) :
    Python.validateBenchmarkResult runtime.toContractRuntime sha256 r = .ok () ↔
      BenchmarkFacts runtime.toContractRuntime sha256 r ∧ PythonBenchmark r := by
  simp only [Python.validateBenchmarkResult, Python.validateEvaluationOracle, Python.validateGraderResult,
    Python.validateEvaluationSuiteReport, unit_bind_eq_ok, fetch_bind_eq_ok, require_eq_ok, Python.identified_iff,
    Python.allEqual_iff, Python.repeats_iff, Python.graderScored_iff, decide_eq_true_eq, List.forall_mem_cons,
    List.not_mem_nil, false_imp_iff, implies_true, and_true, and_assoc]
  constructor
  · rintro ⟨vcase, vresult, vtask, itask, voracle, ioracle, hweights, vgrader, igrader,
      ⟨gates, hgates, hsummary, hscored, hunscored⟩, vmetrics, imetrics, vreport, ireport, hash,
      ⟨ids, hids, htaskCount, hdistinct, hcounts⟩, htenants, horacleTask, s1, s2, s3, hcase, hresult, hgrader, u1, u2,
      m1, m2, hrun, g, k, hreport, hash', c, hpassed, hscore, hresultSummary, hclass, f1, f2, hcount⟩
    have hvalid : ∀ record ∈ r.all, runtime.validatePayload record = .ok () := by
      simp only [BenchmarkRecords.all, List.forall_mem_cons, List.not_mem_nil, false_imp_iff, implies_true, and_true]
      exact ⟨vcase, vresult, vtask, voracle, vgrader, vmetrics, vreport⟩
    have hidentified : ∀ entry ∈ r.identities, entry.1.get? "schema_id" = some (.str entry.2.id) := by
      simp only [BenchmarkRecords.identities, List.forall_mem_cons, List.not_mem_nil, false_imp_iff, implies_true,
        and_true]
      exact ⟨itask, ioracle, igrader, imetrics, ireport⟩
    have haccepts := identified_accepts hschemas hvalid hidentified
    have hgraderAccepts := haccepts (r.graderResult, graderResultSchema) (by simp [BenchmarkRecords.identities])
    have hreportAccepts := haccepts (r.suiteReport, evaluationSuiteReportSchema)
      (by simp [BenchmarkRecords.identities])
    have htaskAccepts : evaluationTaskSchema.accepts r.task = true :=
      haccepts (r.task, evaluationTaskSchema) (by simp [BenchmarkRecords.identities])
    obtain ⟨a, ha, hlength⟩ := ContractSchema.text_value htaskAccepts (show "tenant_id" ∈ _ by decide) rfl
    have hne : a ≠ "" := by
      rintro rfl
      exact absurd hlength (by decide)
    have hsame := (Python.tenantReference_iff (by simp) ha hne).mp htenants
    simp only [List.forall_mem_cons, List.not_mem_nil, false_imp_iff, implies_true, and_true] at hsame
    obtain ⟨t1, t2, -, t3, t4, t5⟩ := hsame
    have hlinked : ∀ pair ∈ r.links sha256, Python.eq pair.1 pair.2 = true := by
      simp only [BenchmarkRecords.links, List.forall_mem_append, List.map_cons, List.map_nil, List.forall_mem_cons,
        List.not_mem_nil, false_imp_iff, implies_true, and_true, and_assoc, ha, Python.eq_text]
      exact ⟨s1, s2, s3, hcase, hresult, hgrader, t1, t2, t3, t4, t5, u1, Python.eq_text.mp u2, m1, m2, hrun, g, k,
        hreport, hresultSummary⟩
    rw [grader_gates hgraderAccepts hgates] at hsummary hscored hunscored
    obtain ⟨ids', hids', hitems, hdistinctAlike, hcountAlike⟩ := report_ids hreportAccepts
    obtain rfl := Option.some.inj (hids.symm.trans hids')
    rw [hitems, hcountAlike] at hcount
    have hreportHash := Python.eq_text.mp hash
    refine ⟨⟨hvalid, fun pair hpair => ?_, ⟨gates, hgates, hsummary, hpassed.trans hsummary, fun hfailed => ?_⟩,
      hreportHash, ?_, ids, hids, hdistinctAlike ▸ hdistinct, hcount⟩, hidentified, hweights, ?_, fun hgate => ?_, ?_,
      hcounts, c, hscore, hclass, ?_⟩
    · obtain ⟨s, hs⟩ := links_text haccepts pair hpair
      exact (eq_iff_of_text (.inr hs)).2.mpr ((eq_iff_of_text (.inr hs)).1.mp (hlinked pair hpair))
    · have hnot := hunscored hfailed
      rw [hnot, Python.eq_text] at hscore
      simp only [List.forall_mem_cons, List.not_mem_nil, false_imp_iff, implies_true, and_true]
      exact ⟨hnot, hscore⟩
    · rw [hreportHash, Python.eq_text] at hash'
      exact hash'
    · have htexts : evaluationTaskSchema.texts ["evaluation_task_id"] = true := by decide
      obtain ⟨s, hs⟩ := ContractSchema.text_of_texts htaskAccepts htexts List.mem_cons_self
      exact (eq_iff_of_text (.inr hs)).1.mp horacleTask
    · rw [hsummary] at hgate
      exact hscored (Json.bool.inj (Option.some.inj hgate))
    · rw [hitems]
      exact htaskCount
    · simp only [List.forall_mem_cons, List.not_mem_nil, false_imp_iff, implies_true, and_true]
      exact ⟨f1, f2⟩
  · rintro ⟨h, hpython⟩
    have haccepts := identified_accepts hschemas h.valid hpython.identified
    have hgraderAccepts := haccepts (r.graderResult, graderResultSchema) (by simp [BenchmarkRecords.identities])
    have hreportAccepts := haccepts (r.suiteReport, evaluationSuiteReportSchema)
      (by simp [BenchmarkRecords.identities])
    have hvalid := h.valid
    have hidentified := hpython.identified
    have hflags := hpython.flags
    have hlinked : ∀ pair ∈ r.links sha256, Python.eq pair.1 pair.2 = true := by
      intro pair hpair
      obtain ⟨s, hs⟩ := links_text haccepts pair hpair
      exact (eq_iff_of_text (.inr hs)).1.mpr ((eq_iff_of_text (.inr hs)).2.mp (h.linked pair hpair))
    have htaskAccepts : evaluationTaskSchema.accepts r.task = true :=
      haccepts (r.task, evaluationTaskSchema) (by simp [BenchmarkRecords.identities])
    obtain ⟨a, ha, hlength⟩ := ContractSchema.text_value htaskAccepts (show "tenant_id" ∈ _ by decide) rfl
    have hne : a ≠ "" := by
      rintro rfl
      exact absurd hlength (by decide)
    simp only [BenchmarkRecords.all, BenchmarkRecords.identities, BenchmarkRecords.links, List.forall_mem_append,
      List.map_cons, List.map_nil, List.forall_mem_cons, List.not_mem_nil, false_imp_iff, implies_true, and_true,
      and_assoc] at hvalid hidentified hflags hlinked
    obtain ⟨vcase, vresult, vtask, voracle, vgrader, vmetrics, vreport⟩ := hvalid
    obtain ⟨itask, ioracle, igrader, imetrics, ireport⟩ := hidentified
    obtain ⟨s1, s2, s3, hcase, hresult, hgrader, t1, t2, t3, t4, t5, u1, u2, m1, m2, hrun, g, k, hreport,
      hresultSummary⟩ := hlinked
    obtain ⟨gates, hgates, hgateFacts⟩ := h.gates
    obtain ⟨ids, hids, hdistinct, hcount⟩ := h.resultIds
    obtain ⟨ids', hids', hitems, hdistinctAlike, hcountAlike⟩ := report_ids hreportAccepts
    obtain rfl := Option.some.inj (hids.symm.trans hids')
    have htaskCount := hpython.taskCount
    rw [hitems] at htaskCount
    have htenants : Python.validateTenantReference [r.evaluationCase, r.evaluationResult, r.task, r.oracle,
        r.graderResult, r.metrics] = .ok () := by
      rw [Python.tenantReference_iff (by simp) ha hne]
      simp only [List.forall_mem_cons, List.not_mem_nil, false_imp_iff, implies_true, and_true]
      rw [ha, Python.eq_text] at t1 t2 t3 t4 t5
      exact ⟨t1, t2, ha, t3, t4, t5⟩
    have horacleTask : Python.eq (r.oracle.get? "evaluation_task_id") (r.task.get? "evaluation_task_id") = true := by
      have htexts : evaluationTaskSchema.texts ["evaluation_task_id"] = true := by decide
      obtain ⟨s, hs⟩ := ContractSchema.text_of_texts htaskAccepts htexts List.mem_cons_self
      exact (eq_iff_of_text (.inr hs)).1.mpr hpython.oracleTask
    have hscored : TypeScript.gatesPass gates = true → isNumber (r.graderResult.get? "quality_score") = true := by
      intro hpassed
      apply hpython.scored
      rw [hgateFacts.grader, hpassed]
    have hunscored : TypeScript.gatesPass gates = false →
        r.graderResult.get? "quality_score" = some (.str "not_scored") := fun hfailed =>
      hgateFacts.unscored hfailed _ List.mem_cons_self
    have hsummary := hgateFacts.grader
    have hreportHash : Python.eq (r.evaluationResult.get? "report_sha256") (r.suiteReport.get? "report_sha256") =
        true := by
      rw [h.reportHash, Python.eq_text]
      exact h.resultHash
    rw [← grader_gates hgraderAccepts hgates] at hscored hunscored hsummary
    refine ⟨vcase, vresult, vtask, itask, voracle, ioracle, hpython.weights, vgrader, igrader,
      ⟨gates, hgates, hsummary, hscored, hunscored⟩, vmetrics, imetrics, vreport, ireport,
      Python.eq_text.mpr h.reportHash, ⟨ids, hids, htaskCount, hdistinctAlike ▸ hdistinct, hpython.counts⟩, htenants,
      horacleTask, s1, s2, s3, hcase, hresult, hgrader, u1, u2, m1, m2, hrun, g, k, hreport, hreportHash,
      hpython.evaluationCase, ?_, hpython.score, hresultSummary, hpython.classification, hflags.1, hflags.2, ?_⟩
    · rw [hgateFacts.result, hgateFacts.grader]
    · rw [hitems, hcountAlike]
      exact hcount

end Benchmark

/-! ## The three validators -/

/-- **The languages judge the read models alike** exactly when a suite snapshot with all that both require counts
    its tasks by an integer, an operator snapshot has one entry of each deciding kind, and a benchmark has what one
    language requires beside just when it has what the other does. -/
theorem snapshots_judged_alike (runtime : SchemaRuntime snapshotSchemas) (sha256 : Json → String) :
    (∀ snapshot,
      (TypeScript.validateEvaluationSuiteSnapshot runtime.toContractRuntime sha256 snapshot = .ok () ↔
        Python.validateEvaluationSuiteSnapshot runtime.toContractRuntime sha256 snapshot = .ok ()) ↔
      (Python.requireSchema runtime.toContractRuntime snapshot evaluationSuiteSnapshotSchema = .ok () →
        SuiteFacts sha256 snapshot → Python.isInt (snapshot.get? "task_count") = true)) ∧
    (∀ snapshot,
      (TypeScript.validateOperatorCaseSnapshot runtime.toContractRuntime sha256 snapshot = .ok () ↔
        Python.validateOperatorCaseSnapshot runtime.toContractRuntime sha256 snapshot = .ok ()) ↔
      (Python.requireSchema runtime.toContractRuntime snapshot operatorCaseSnapshotSchema = .ok () →
        OperatorFacts sha256 snapshot → decidesOnce (entriesOf snapshot) = true)) ∧
    ∀ records,
      (TypeScript.validateBenchmarkCoreResult runtime.toContractRuntime sha256 records = .ok () ↔
        Python.validateBenchmarkResult runtime.toContractRuntime sha256 records = .ok ()) ↔
      (BenchmarkFacts runtime.toContractRuntime sha256 records →
        (TypeScriptBenchmark records ↔ PythonBenchmark records)) := by
  have hsuite : evaluationSuiteSnapshotSchema ∈ snapshotSchemas := List.mem_cons_self
  have hoperator : operatorCaseSnapshotSchema ∈ snapshotSchemas := List.mem_cons_of_mem _ List.mem_cons_self
  have hbenchmark : benchmarkSchemas ⊆ snapshotSchemas := List.subset_append_right _ _
  -- what both require, with what one language requires beside
  have hbeside : ∀ {Schema Facts Own : Prop},
      ((Schema ∧ Facts ↔ (Schema ∧ Facts) ∧ Own) ↔ (Schema → Facts → Own)) := by
    intro Schema Facts Own
    constructor
    · intro h hschema hfacts
      exact (h.mp ⟨hschema, hfacts⟩).2
    · intro h
      exact ⟨fun both => ⟨both, h both.1 both.2⟩, fun all => all.1⟩
  refine ⟨fun snapshot => ?_, fun snapshot => ?_, fun records => ?_⟩
  · rw [TypeScript.suite_iff hsuite, Python.suite_iff hsuite]
    exact hbeside
  · rw [TypeScript.operator_iff hoperator, Python.operator_iff hoperator]
    exact hbeside
  · rw [TypeScript.benchmark_iff, Python.benchmark_iff hbenchmark]
    exact and_congr_right_iff

/-! ## Weights that do not add up -/

def lopsidedTaskHash : String := "430fd93168d54a77fd5e80008f9d38faf874e338634c13ba7634d94a3ae8cb21"

def lopsidedOracleHash : String := "6ca1a09c1a634226a4347e8e69b0647fdfd2cc8b005dbb42493e23fbaac4e9ff"

def lopsidedReportHash : String := "6d6c508e765d25e0b97c01fff8fe8d8eb6b07e7a5d08593cfe053aaffcfcdabe"

/-- The hashes of the three records of `lopsidedBenchmark` that are hashed. -/
def lopsidedHash (record : Json) : String :=
  if (record.get? "suite_report_id").isSome then lopsidedReportHash
  else if (record.get? "oracle_id").isSome then lopsidedOracleHash
  else lopsidedTaskHash

def lopsidedRuntime : SchemaRuntime snapshotSchemas := schemaRuntime _ (fun _ => "") (fun _ => none)

def offlineFlags : Json :=
  .obj (.ofList [("offline", .bool true), ("replay", .bool true), ("network", .bool false), ("model", .bool false),
    ("external_write", .bool false)])

/-- The fields that the case, the result and the grader's result repeat. -/
def lopsidedTask : List (String × Json) :=
  [("tenant_id", .str "tenant-alpha"), ("suite_id", .str "offline-seed.v1"),
   ("evaluation_task_id", .str "intake-accepted"), ("task_sha256", .str lopsidedTaskHash),
   ("oracle_sha256", .str lopsidedOracleHash)]

def lopsidedOutcome : List (String × Json) :=
  [("hard_gate_passed", .bool true), ("quality_score", .int 100), ("result", .str "passed"),
   ("failure_classification", .null), ("capability_flags", offlineFlags)]

/-- A benchmark whose oracle weighs the four dimensions with 99 in all. -/
def lopsidedBenchmark : BenchmarkRecords where
  evaluationCase := .ofList
    ([("schema_id", .str evaluationCaseSchema.id), ("schema_version", .str "v1"), ("evaluation_case_id", .str "case-1"),
      ("fixture_id", .str "fixture-1"),
      ("input_hash", .str "0000000000000000000000000000000000000000000000000000000000000000"),
      ("created_at", .str "2026-01-01T00:00:00Z"), ("oracle_id", .str "oracle-1"),
      ("benchmark_profile", .str "benchmark-core.v1")] ++ lopsidedTask)
  evaluationResult := .ofList
    ([("schema_id", .str evaluationResultSchema.id), ("schema_version", .str "v1"),
      ("evaluation_result_id", .str "result-1"), ("evaluation_case_id", .str "case-1"),
      ("recorded_at", .str "2026-01-01T00:00:00Z"), ("benchmark_profile", .str "benchmark-core.v1"),
      ("grader_result_id", .str "grader-1"), ("run_metrics_id", .str "metrics-1"),
      ("suite_report_id", .str "report-1"), ("report_sha256", .str lopsidedReportHash)] ++
      lopsidedTask ++ lopsidedOutcome)
  task := .ofList
    [("schema_id", .str evaluationTaskSchema.id), ("schema_version", .str "v1"), ("tenant_id", .str "tenant-alpha"),
     ("suite_id", .str "offline-seed.v1"), ("evaluation_task_id", .str "intake-accepted"),
     ("fixture_id", .str "fixture-1"), ("fixture_source_id", .str "source-1"),
     ("fixture_source_path", .str "fixtures/intake.json"),
     ("fixture_sha256", .str "0000000000000000000000000000000000000000000000000000000000000000"),
     ("policy_source_id", .str "policy-1"), ("policy_source_path", .str "evals/sources/policy.json"),
     ("policy_sha256", .str "0000000000000000000000000000000000000000000000000000000000000000"),
     ("execution_adapter", .str "case-intake"), ("created_at", .str "2026-01-01T00:00:00Z")]
  oracle := .ofList
    [("schema_id", .str evaluationOracleSchema.id), ("schema_version", .str "v1"),
     ("tenant_id", .str "tenant-alpha"), ("oracle_id", .str "oracle-1"),
     ("evaluation_task_id", .str "intake-accepted"), ("expected_outcome", .str "accepted"),
     ("expected_local_effect_count", .int 0), ("required_hard_gates", .arr (.ofList [.str "offline_replay"])),
     ("quality_weights", .obj (.ofList
       [("outcome", .int 40), ("evidence", .int 30), ("recovery", .int 20), ("efficiency", .int 9)]))]
  graderResult := .ofList
    ([("schema_id", .str graderResultSchema.id), ("schema_version", .str "v1"), ("grader_result_id", .str "grader-1"),
      ("run_id", .str "run-1"),
      ("hard_gates", .arr (.ofList [.obj (.ofList
        [("name", .str "offline_replay"), ("passed", .bool true), ("applicable", .bool true),
         ("reason_code", .str "offline")])])),
      ("dimensions", .arr .nil)] ++ lopsidedTask ++ lopsidedOutcome)
  metrics := .ofList
    [("schema_id", .str runMetricsSchema.id), ("schema_version", .str "v1"), ("tenant_id", .str "tenant-alpha"),
     ("run_metrics_id", .str "metrics-1"), ("suite_id", .str "offline-seed.v1"), ("run_id", .str "run-1"),
     ("evaluation_task_id", .str "intake-accepted"), ("tool_call_count", .int 0), ("local_effect_count", .int 0),
     ("network_request_count", .int 0), ("model_invocation_count", .int 0), ("external_write_attempt_count", .int 0)]
  suiteReport := .ofList
    [("schema_id", .str evaluationSuiteReportSchema.id), ("schema_version", .str "v1"),
     ("suite_report_id", .str "report-1"), ("suite_id", .str "offline-seed.v1"),
     ("suite_sha256", .str "0000000000000000000000000000000000000000000000000000000000000000"),
     ("profile", .str "benchmark-core.v1"), ("task_count", .int 1), ("passed_task_count", .int 1),
     ("failed_task_count", .int 0), ("unscored_task_count", .int 0),
     ("task_result_ids", .arr (.ofList [.str "result-1"])), ("capability_flags", offlineFlags),
     ("report_sha256", .str lopsidedReportHash)]

/-- TypeScript accepts a benchmark whose oracle's weights do not add up to a hundred. -/
theorem lopsided_judged_apart :
    TypeScript.validateBenchmarkCoreResult lopsidedRuntime.toContractRuntime lopsidedHash lopsidedBenchmark =
        .ok () ∧
      Python.validateBenchmarkResult lopsidedRuntime.toContractRuntime lopsidedHash lopsidedBenchmark =
        .error ⟨"evaluation-oracle", "quality_weights_invalid"⟩ ∧
      ¬ (TypeScript.validateBenchmarkCoreResult lopsidedRuntime.toContractRuntime lopsidedHash lopsidedBenchmark =
            .ok () ↔
          Python.validateBenchmarkResult lopsidedRuntime.toContractRuntime lopsidedHash lopsidedBenchmark =
            .ok ()) := by
  have htypeScript : TypeScript.validateBenchmarkCoreResult lopsidedRuntime.toContractRuntime lopsidedHash
      lopsidedBenchmark = .ok () := by decide +kernel
  have hpython : Python.validateBenchmarkResult lopsidedRuntime.toContractRuntime lopsidedHash lopsidedBenchmark =
      .error ⟨"evaluation-oracle", "quality_weights_invalid"⟩ := by decide +kernel
  refine ⟨htypeScript, hpython, fun h => ?_⟩
  have haccepted := h.mp htypeScript
  rw [hpython] at haccepted
  cases haccepted

end WeFlow
