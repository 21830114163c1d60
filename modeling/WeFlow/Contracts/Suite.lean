import WeFlow.Contracts.Evidence

/-!
# `Suite` — the snapshot of an evaluation suite in both languages

`evaluation.py` and `index.ts` check the snapshot that the console reads: the hash it claims, the gates of each
task against its score, the counts against the tasks. Each language goes through the tasks once and keeps a
tally. `SuiteFacts` says without a tally what the snapshot must be. The languages differ in what a count is: for
Python `12.0` is no integer.

## Contents

* `evaluationSuiteSnapshotSchema` — with the rules of its parts.
* `Python.validateEvaluationSuiteSnapshot`, `TypeScript.validateEvaluationSuiteSnapshot` — the validators.
* `SuiteFacts` — what both require; `Python.suite_iff`, `TypeScript.suite_iff`.
-/

namespace WeFlow

open Txn

/-! ## Schema -/

def capabilityFlagFields : FieldRules :=
  .ofList
    [("offline", .literal (.bool true)), ("replay", .literal (.bool true)), ("network", .literal (.bool false)),
     ("model", .literal (.bool false)), ("external_write", .literal (.bool false))]

def hardGateNames : List String :=
  ["tenant_reference", "offline_replay", "external_write_absent", "local_effect_identity", "approval_binding",
   "evidence_lineage", "expected_outcome"]

def hardGateFields : FieldRules :=
  .ofList
    [("name", .enum hardGateNames), ("passed", .boolean), ("applicable", .boolean), ("reason_code", .text 1)]

def dimensionNames : List String := ["outcome", "evidence", "recovery", "efficiency"]

def scoreRule : FieldRule := .both (.number 0) (.maximum 100)

def dimensionFields : FieldRules := .ofList [("name", .enum dimensionNames), ("score", scoreRule)]

def metricsFields : FieldRules :=
  .ofList
    [("tool_call_count", .integer 0), ("local_effect_count", .range 0 2),
     ("network_request_count", .literal (.int 0)), ("model_invocation_count", .literal (.int 0)),
     ("external_write_attempt_count", .literal (.int 0))]

def observationStates : List String :=
  ["APPROVAL_INVALIDATED", "DELIVERY_RECORDED", "INTAKE_REJECTED", "RECEIVED", "RESPONSE_READY", "TICKET_READY",
   "TRAJECTORY_REPLAY_REJECTED", "WAITING_FOR_OPERATOR"]

def observationOutcomes : List String :=
  ["accepted", "authorization_denied", "deduplicated", "fixture_delivery_recorded", "inbound_out_of_order",
   "lineage_invalid", "recovered_after_interruption", "response_ready", "ticket_ready", "waiting_for_operator"]

def observationFields : FieldRules :=
  .ofList
    [("state", .enum observationStates), ("outcome", .enum observationOutcomes), ("evidence_valid", .boolean),
     ("approval_valid", .boolean), ("tool_call_count", .integer 0), ("local_effect_count", .range 0 2),
     ("offline", .literal (.bool true)), ("replay", .literal (.bool true)), ("network", .literal (.bool false)),
     ("model", .literal (.bool false)), ("external_write", .literal (.bool false))]

def taskSnapshotFields : FieldRules :=
  .ofList
    [("tenant_id", .text 1), ("evaluation_task_id", .text 1), ("fixture_id", .text 1),
     ("fixture_source_id", .text 1), ("fixture_source_path", .path "fixtures/" pathAlphabet false),
     ("fixture_sha256", .hash true), ("policy_source_id", .text 1),
     ("policy_source_path", .path "evals/sources/" pathAlphabet false), ("policy_sha256", .hash true),
     ("task_sha256", .hash true), ("oracle_id", .text 1), ("oracle_sha256", .hash true),
     ("evaluation_case_id", .text 1), ("grader_result_id", .text 1), ("run_metrics_id", .text 1),
     ("evaluation_result_id", .text 1), ("result", .enum ["passed", "failed"]),
     ("failure_classification", .nullable (.text 0)), ("hard_gate_passed", .boolean),
     ("hard_gates", .list 1 (.record hardGateFields)), ("dimensions", .list 0 (.record dimensionFields)),
     ("quality_score", .either scoreRule (.const "not_scored")), ("metrics", .record metricsFields),
     ("observation", .record observationFields)]

def evaluationSuiteSnapshotSchema : ContractSchema where
  name := "evaluation-suite-snapshot"
  required :=
    [("schema_id", .const (contractSchemaId "evaluation-suite-snapshot")), ("schema_version", .const "v1"),
     ("tenant_id", .text 1), ("evaluation_suite_snapshot_id", .text 1), ("suite_id", .text 1),
     ("profile", .const "benchmark-core.v1"), ("suite_report_id", .text 1), ("suite_sha256", .hash true),
     ("report_sha256", .hash true), ("accepted", .literal (.bool true)),
     ("repeated_baseline_equal", .literal (.bool true)), ("task_count", .integer 1),
     ("passed_task_count", .integer 0), ("failed_task_count", .integer 0), ("unscored_task_count", .integer 0),
     ("task_result_ids", .list 1 (.text 1)), ("capability_flags", .record capabilityFlagFields),
     ("tasks", .list 1 (.record taskSnapshotFields)), ("snapshot_sha256", .hash true)]
  optional := []

/-! ## What both languages read -/

/-- A payload without some of its fields. -/
def JsonFields.without (names : List String) : JsonFields → JsonFields
  | .nil => .nil
  | .cons key value rest => if key ∈ names then rest.without names else .cons key value (rest.without names)

/-- The hash of the canonical text of a payload without some of its fields. -/
def canonicalSha256 (sha256 : Json → String) (payload : JsonFields) (names : List String) : String :=
  sha256 (Json.obj (payload.without names)).canonical

def objectOf? : Option Json → Option JsonFields
  | some (.obj fields) => some fields
  | _ => none

/-- The items of an array; the schemas require one wherever they are taken. -/
def itemsOf (value : Option Json) : List Json := (arrayOf? value).getD []

/-- A number, and no truth value. -/
def isNumber (value : Option Json) : Bool := (value.bind Json.number?).isSome

def isUnscored (task : Json) : Bool := task.get? "quality_score" = some (.str "not_scored")

def isPassed (task : Json) : Bool := !isUnscored task && task.get? "result" = some (.str "passed")

def isFailed (task : Json) : Bool := !isUnscored task && !(task.get? "result" = some (.str "passed"))

/-- What a pass over the tasks has collected. -/
structure SuiteTally where
  taskIds : List String
  resultIds : List String
  passed : Nat
  failed : Nat
  unscored : Nat

def SuiteTally.start : SuiteTally := ⟨[], [], 0, 0, 0⟩

def SuiteTally.add (tally : SuiteTally) (task : Json) : SuiteTally where
  taskIds := tally.taskIds ++ [textOf (task.get? "evaluation_task_id")]
  resultIds := tally.resultIds ++ [textOf (task.get? "evaluation_result_id")]
  passed := tally.passed + (isPassed task).toNat
  failed := tally.failed + (isFailed task).toNat
  unscored := tally.unscored + (isUnscored task).toNat

/-! ## `evaluation.py` -/

namespace Python

/-- `bool(value)`. -/
def truthy : Option Json → Bool
  | none | some .null | some (.bool false) | some (.arr .nil) | some (.obj .nil) => false
  | some (.int n) => n ≠ 0
  | some (.float q) => q ≠ 0
  | some (.str s) => s ≠ ""
  | _ => true

/-- `isinstance(value, int)`. -/
def isInt : Option Json → Bool
  | some (.int _) | some (.bool _) => true
  | _ => false

/-- Whether some gate applies and all that apply are passed. -/
def gatesPass (gates : List Json) : Bool :=
  let applicable := gates.filter fun gate => gate.isObject && truthy (gate.get? "applicable")
  !applicable.isEmpty && applicable.all fun gate => gate.get? "passed" = some (.bool true)

def scored (passed : Bool) (score : Option Json) (schemaName : String) : Except ContractValidationError Unit :=
  if passed then require (isNumber score) ⟨schemaName, "quality_score_missing"⟩
  else require (eq score (some (.str "not_scored"))) ⟨schemaName, "quality_score_not_scored"⟩

/-- One task of a snapshot. -/
def checkTask (snapshot : JsonFields) (task : Json) : Except ContractValidationError Unit := do
  require task.isObject ⟨"evaluation-suite-snapshot", "task_invalid"⟩
  require (eq (task.get? "tenant_id") (snapshot.get? "tenant_id")) ⟨"evaluation-suite-snapshot", "tenant_mismatch"⟩
  let gates ← fetch (arrayOf? (task.get? "hard_gates")) ⟨"evaluation-suite-snapshot", "hard_gates_invalid"⟩
  require (task.get? "hard_gate_passed" = some (.bool (gatesPass gates)))
    ⟨"evaluation-suite-snapshot", "hard_gate_summary_invalid"⟩
  scored (gatesPass gates) (task.get? "quality_score") "evaluation-suite-snapshot"
  let metrics ← fetch (objectOf? (task.get? "metrics")) ⟨"evaluation-suite-snapshot", "task_evidence_invalid"⟩
  let observation ← fetch (objectOf? (task.get? "observation"))
    ⟨"evaluation-suite-snapshot", "task_evidence_invalid"⟩
  require (["tool_call_count", "local_effect_count"].all fun field =>
      eq (metrics.get? field) (observation.get? field))
    ⟨"evaluation-suite-snapshot", "metrics_observation_mismatch"⟩

section Validators

variable (runtime : ContractRuntime) (sha256 : Json → String)

/-- **`validate_evaluation_suite_snapshot`.** -/
def validateEvaluationSuiteSnapshot (snapshot : JsonFields) : Except ContractValidationError Unit := do
  requireSchema runtime snapshot evaluationSuiteSnapshotSchema
  require (eq (snapshot.get? "snapshot_sha256") (some (.str (canonicalSha256 sha256 snapshot ["snapshot_sha256"]))))
    ⟨"evaluation-suite-snapshot", "snapshot_sha256_mismatch"⟩
  require (eq (snapshot.get? "evaluation_suite_snapshot_id")
      (some (.str ("evaluation-suite-snapshot:" ++ textOf (snapshot.get? "report_sha256")))))
    ⟨"evaluation-suite-snapshot", "report_identity_mismatch"⟩
  let tasks ← fetch (arrayOf? (snapshot.get? "tasks")) ⟨"evaluation-suite-snapshot", "task_count_invalid"⟩
  let resultIds ← fetch (arrayOf? (snapshot.get? "task_result_ids"))
    ⟨"evaluation-suite-snapshot", "task_count_invalid"⟩
  require (isInt (snapshot.get? "task_count") && eq (snapshot.get? "task_count") (some (.int tasks.length)) &&
      eq (snapshot.get? "task_count") (some (.int resultIds.length)))
    ⟨"evaluation-suite-snapshot", "task_count_invalid"⟩
  let tally ← tasks.foldlM (fun tally task => do checkTask snapshot task; return tally.add task) SuiteTally.start
  require tally.taskIds.Nodup ⟨"evaluation-suite-snapshot", "task_ids_duplicate"⟩
  require tally.resultIds.Nodup ⟨"evaluation-suite-snapshot", "result_ids_duplicate"⟩
  require (tally.resultIds = textsOf (snapshot.get? "task_result_ids"))
    ⟨"evaluation-suite-snapshot", "result_order_mismatch"⟩
  require (eq (snapshot.get? "passed_task_count") (some (.int tally.passed)) &&
      eq (snapshot.get? "failed_task_count") (some (.int tally.failed)) &&
      eq (snapshot.get? "unscored_task_count") (some (.int tally.unscored)))
    ⟨"evaluation-suite-snapshot", "result_counts_invalid"⟩

end Validators

end Python

/-! ## `index.ts` -/

namespace TypeScript

/-- Whether some gate applies and all that apply are passed. -/
def gatesPass (gates : List Json) : Bool :=
  let applicable := gates.filter fun gate => eq (gate.get? "applicable") (some (.bool true))
  !applicable.isEmpty && applicable.all fun gate => eq (gate.get? "passed") (some (.bool true))

def scored (passed : Bool) (score : Option Json) : Except String Unit :=
  if passed then require (isNumber score) "snapshot-quality-score-missing"
  else require (eq score (some (.str "not_scored"))) "snapshot-quality-score-not-scored"

/-- One task of a snapshot. -/
def checkTask (snapshot : JsonFields) (task : Json) : Except String Unit := do
  require task.isObject "snapshot-task-invalid"
  require (eq (task.get? "tenant_id") (snapshot.get? "tenant_id")) "snapshot-tenant-mismatch"
  let gates ← fetch (arrayOf? (task.get? "hard_gates")) "snapshot-hard-gates-invalid"
  require (eq (task.get? "hard_gate_passed") (some (.bool (gatesPass gates)))) "snapshot-hard-gate-summary-invalid"
  scored (gatesPass gates) (task.get? "quality_score")
  let metricRecord ← fetch (objectOf? (task.get? "metrics")) "snapshot-task-evidence-invalid"
  let observationRecord ← fetch (objectOf? (task.get? "observation")) "snapshot-task-evidence-invalid"
  require (["tool_call_count", "local_effect_count"].all fun field =>
      eq (metricRecord.get? field) (observationRecord.get? field)) "snapshot-metrics-observation-mismatch"

section Validators

variable (runtime : ContractRuntime) (sha256 : Json → String)

/-- **`validateEvaluationSuiteSnapshot`.** -/
def validateEvaluationSuiteSnapshot (payload : JsonFields) : Except String Unit := do
  validateExpectedSchema runtime payload evaluationSuiteSnapshotSchema
  require (eq (payload.get? "snapshot_sha256") (some (.str (canonicalSha256 sha256 payload ["snapshot_sha256"]))))
    "snapshot-sha256-mismatch"
  require (eq (payload.get? "evaluation_suite_snapshot_id")
      (some (.str ("evaluation-suite-snapshot:" ++ textOf (payload.get? "report_sha256")))))
    "snapshot-report-identity-mismatch"
  let tasks ← fetch (arrayOf? (payload.get? "tasks")) "snapshot-task-count-invalid"
  let resultIds ← fetch (arrayOf? (payload.get? "task_result_ids")) "snapshot-task-count-invalid"
  require (isNumber (payload.get? "task_count") && eq (payload.get? "task_count") (some (.int tasks.length)) &&
      eq (payload.get? "task_count") (some (.int resultIds.length))) "snapshot-task-count-invalid"
  let tally ← tasks.foldlM (fun tally task => do checkTask payload task; return tally.add task) SuiteTally.start
  require tally.taskIds.Nodup "snapshot-task-ids-duplicate"
  require tally.resultIds.Nodup "snapshot-result-ids-duplicate"
  require (tally.resultIds = textsOf (payload.get? "task_result_ids")) "snapshot-result-order-mismatch"
  require (eq (payload.get? "passed_task_count") (some (.int tally.passed)) &&
      eq (payload.get? "failed_task_count") (some (.int tally.failed)) &&
      eq (payload.get? "unscored_task_count") (some (.int tally.unscored))) "snapshot-result-counts-invalid"

end Validators

end TypeScript

/-! ## One task -/

/-- The gates of a task, as the tasks of a snapshot are shaped. -/
def taskGates (task : Json) : List Json := itemsOf (task.get? "hard_gates")

/-- A count of one of a task's two records. -/
def taskCount (task : Json) (record field : String) : Option Json := (task.get? record).bind (·.get? field)

def taskCounts : List String := ["tool_call_count", "local_effect_count"]

/-- What both languages require of a task. -/
structure TaskFacts (snapshot : JsonFields) (task : Json) : Prop where
  tenant : task.get? "tenant_id" = snapshot.get? "tenant_id"
  summary : task.get? "hard_gate_passed" = some (.bool (TypeScript.gatesPass (taskGates task)))
  score : TypeScript.gatesPass (taskGates task) = true → isNumber (task.get? "quality_score") = true
  unscored : TypeScript.gatesPass (taskGates task) = false → isUnscored task = true
  counts : ∀ field ∈ taskCounts,
    TypeScript.eq (taskCount task "metrics" field) (taskCount task "observation" field) = true

/-- A gate says with two truth values whether it applies and whether it is passed. -/
structure GateShape (gate : Json) : Prop where
  object : gate.isObject = true
  applicable : ∃ b, gate.get? "applicable" = some (.bool b)

/-- A task has its gates and its two records. -/
structure TaskShape (task : Json) : Prop where
  object : task.isObject = true
  tenant : ∃ s, task.get? "tenant_id" = some (.str s)
  gates : ∃ items, task.get? "hard_gates" = some (.arr items) ∧ ∀ gate ∈ items.toList, GateShape gate
  metrics : ∃ m, task.get? "metrics" = some (.obj m) ∧ ∀ field ∈ taskCounts, ∀ v ∈ m.get? field, v.plain = true
  observation : ∃ o, task.get? "observation" = some (.obj o) ∧
    ∀ field ∈ taskCounts, ∀ v ∈ o.get? field, v.plain = true

theorem gateShape_of_accepts {gate : Json} (h : (FieldRule.record hardGateFields).accepts gate = true) :
    GateShape gate := by
  obtain ⟨fields, rfl, -⟩ := FieldRule.record_of_accepts h
  obtain ⟨v, hv, haccepts⟩ := FieldRule.nested_value h (show hardGateFields.rule? "applicable" = some .boolean from rfl)
  cases v with
  | bool b => exact ⟨rfl, b, hv⟩
  | _ => cases haccepts

/-- The counts of a record are numbers. -/
theorem counts_of_accepts {fields : FieldRules} {record : Json}
    (h : (FieldRule.record fields).accepts record = true)
    (hrules : fields.rule? "tool_call_count" = some (.integer 0) ∧
      fields.rule? "local_effect_count" = some (.range 0 2)) :
    ∃ m, record = .obj m ∧ ∀ field ∈ taskCounts, ∀ v ∈ m.get? field, v.plain = true := by
  obtain ⟨m, rfl, hm⟩ := FieldRule.record_of_accepts h
  refine ⟨m, rfl, fun field hfield v hv => ?_⟩
  simp only [taskCounts, List.mem_cons, List.not_mem_nil, or_false] at hfield
  have hplain : ∀ {rule : FieldRule}, fields.rule? field = some rule → rule.plain = true → v.plain = true := by
    intro rule hrule hrulePlain
    obtain ⟨w, hw, haccepts⟩ := FieldRules.required_value hm hrule
    obtain rfl := Option.some.inj (hv.symm.trans hw)
    exact FieldRule.plain_of_accepts hrulePlain haccepts
  rcases hfield with rfl | rfl
  · exact hplain hrules.1 rfl
  · exact hplain hrules.2 rfl

theorem taskShape_of_accepts {task : Json} (h : (FieldRule.record taskSnapshotFields).accepts task = true) :
    TaskShape task := by
  have hobject : task.isObject = true := by
    obtain ⟨fields, rfl, -⟩ := FieldRule.record_of_accepts h
    rfl
  obtain ⟨t, ht, htenant⟩ := FieldRule.nested_value h
    (show taskSnapshotFields.rule? "tenant_id" = some (.text 1) from rfl)
  obtain ⟨s, rfl⟩ := FieldRule.text_of_accepts rfl htenant
  obtain ⟨g, hg, hgates⟩ := FieldRule.nested_value h
    (show taskSnapshotFields.rule? "hard_gates" = some (.list 1 (.record hardGateFields)) from rfl)
  obtain ⟨items, rfl, -, hitems⟩ := FieldRule.items_of_accepts hgates
  obtain ⟨m, hm, hmetrics⟩ := FieldRule.nested_value h
    (show taskSnapshotFields.rule? "metrics" = some (.record metricsFields) from rfl)
  obtain ⟨o, ho, hobservation⟩ := FieldRule.nested_value h
    (show taskSnapshotFields.rule? "observation" = some (.record observationFields) from rfl)
  obtain ⟨mfields, rfl, hmcounts⟩ := counts_of_accepts hmetrics ⟨rfl, rfl⟩
  obtain ⟨ofields, rfl, hocounts⟩ := counts_of_accepts hobservation ⟨rfl, rfl⟩
  exact ⟨hobject, ⟨s, ht⟩, ⟨items, hg, fun gate hgate => gateShape_of_accepts (hitems gate hgate)⟩,
    ⟨mfields, hm, hmcounts⟩, ⟨ofields, ho, hocounts⟩⟩

/-- Gates that say so with truth values pass alike. -/
theorem gatesPass_alike {gates : List Json} (h : ∀ gate ∈ gates, GateShape gate) :
    Python.gatesPass gates = TypeScript.gatesPass gates := by
  have happlicable : gates.filter (fun gate => gate.isObject && Python.truthy (gate.get? "applicable")) =
      gates.filter fun gate => TypeScript.eq (gate.get? "applicable") (some (.bool true)) := by
    refine List.filter_congr fun gate hgate => ?_
    obtain ⟨b, hb⟩ := (h gate hgate).applicable
    rw [(h gate hgate).object, hb]
    cases b <;> rfl
  have hpassed : ∀ gate : Json, decide (gate.get? "passed" = some (.bool true)) =
      TypeScript.eq (gate.get? "passed") (some (.bool true)) := fun gate =>
    Bool.eq_iff_iff.mpr (decide_eq_true_iff.trans TypeScript.eq_bool.symm)
  simp only [Python.gatesPass, TypeScript.gatesPass, happlicable, hpassed]

theorem TypeScript.scored_iff {passed : Bool} {task : Json} :
    TypeScript.scored passed (task.get? "quality_score") = .ok () ↔
      (passed = true → isNumber (task.get? "quality_score") = true) ∧ (passed = false → isUnscored task = true) := by
  rw [TypeScript.scored, isUnscored, decide_eq_true_eq, ← TypeScript.eq_text]
  cases passed <;> simp

theorem Python.scored_iff {passed : Bool} {task : Json} {schemaName : String} :
    Python.scored passed (task.get? "quality_score") schemaName = .ok () ↔
      (passed = true → isNumber (task.get? "quality_score") = true) ∧ (passed = false → isUnscored task = true) := by
  rw [Python.scored, isUnscored, decide_eq_true_eq, ← Python.eq_text]
  cases passed <;> simp

section Task

variable {snapshot : JsonFields} {task : Json}

/-- The gates and the two records of a task, and its counts by them. -/
theorem TaskShape.parts (h : TaskShape task) : ∃ gates metrics observation,
    arrayOf? (task.get? "hard_gates") = some gates ∧ taskGates task = gates ∧ (∀ gate ∈ gates, GateShape gate) ∧
    objectOf? (task.get? "metrics") = some metrics ∧ objectOf? (task.get? "observation") = some observation ∧
    ∀ field, taskCount task "metrics" field = metrics.get? field ∧
      taskCount task "observation" field = observation.get? field := by
  obtain ⟨gates, hgates, hshapes⟩ := h.gates
  obtain ⟨m, hm, -⟩ := h.metrics
  obtain ⟨o, ho, -⟩ := h.observation
  refine ⟨gates.toList, m, o, ?_, ?_, hshapes, ?_, ?_, fun field => ?_⟩
  · rw [hgates]; rfl
  · rw [taskGates, hgates]; rfl
  · rw [hm]; rfl
  · rw [ho]; rfl
  · rw [taskCount, taskCount, hm, ho]
    exact ⟨rfl, rfl⟩

theorem TypeScript.checkTask_iff (h : TaskShape task) :
    TypeScript.checkTask snapshot task = .ok () ↔ TaskFacts snapshot task := by
  obtain ⟨gates, metrics, observation, hgates, hitems, -, hmetrics, hobservation, hcount⟩ := h.parts
  obtain ⟨t, ht⟩ := h.tenant
  have htenant := @eq_iff_of_text (task.get? "tenant_id") (snapshot.get? "tenant_id") t (.inl ht)
  have hcounts : (["tool_call_count", "local_effect_count"].all fun field =>
        TypeScript.eq (metrics.get? field) (observation.get? field)) = true ↔
      ∀ field ∈ taskCounts, TypeScript.eq (taskCount task "metrics" field) (taskCount task "observation" field) =
        true := by
    rw [List.all_eq_true]
    exact forall₂_congr fun field _ => by rw [(hcount field).1, (hcount field).2]
  rw [TypeScript.checkTask, hgates, hmetrics, hobservation]
  simp only [unit_bind_eq_ok, fetch_bind_eq_ok, require_eq_ok, TypeScript.eq_bool, TypeScript.scored_iff, htenant.2,
    hcounts, h.object, Option.some.injEq, exists_eq_left', ← hitems]
  constructor
  · rintro ⟨-, htenant, hsummary, ⟨hscore, hunscored⟩, hall⟩
    exact ⟨htenant, hsummary, hscore, hunscored, hall⟩
  · intro hfacts
    exact ⟨trivial, hfacts.tenant, hfacts.summary, ⟨hfacts.score, hfacts.unscored⟩, hfacts.counts⟩

theorem Python.checkTask_iff (h : TaskShape task) :
    Python.checkTask snapshot task = .ok () ↔ TaskFacts snapshot task := by
  rw [← TypeScript.checkTask_iff h]
  obtain ⟨gates, metrics, observation, hgates, -, hshapes, hmetrics, hobservation, hcount⟩ := h.parts
  obtain ⟨t, ht⟩ := h.tenant
  have htenant := @eq_iff_of_text (task.get? "tenant_id") (snapshot.get? "tenant_id") t (.inl ht)
  have hcounts : (["tool_call_count", "local_effect_count"].all fun field =>
        Python.eq (metrics.get? field) (observation.get? field)) =
      ["tool_call_count", "local_effect_count"].all fun field =>
        TypeScript.eq (metrics.get? field) (observation.get? field) := by
    obtain ⟨m, hm, hmplain⟩ := h.metrics
    obtain ⟨o, ho, hoplain⟩ := h.observation
    rw [hm] at hmetrics
    rw [ho] at hobservation
    obtain rfl := Option.some.inj hmetrics
    obtain rfl := Option.some.inj hobservation
    rw [Bool.eq_iff_iff, List.all_eq_true, List.all_eq_true]
    exact forall₂_congr fun field hfield => by rw [eq_alike (hmplain field hfield) (hoplain field hfield)]
  rw [Python.checkTask, TypeScript.checkTask, hgates, hmetrics, hobservation]
  simp only [unit_bind_eq_ok, fetch_bind_eq_ok, require_eq_ok, decide_eq_true_eq, TypeScript.eq_bool,
    Python.scored_iff, TypeScript.scored_iff, htenant.1, htenant.2, Option.some.injEq, exists_eq_left',
    gatesPass_alike hshapes, hcounts]

end Task

/-! ## The snapshot -/

/-- The tasks of a snapshot. -/
def tasksOf (snapshot : JsonFields) : List Json := itemsOf (snapshot.get? "tasks")

def taskIds (tasks : List Json) : List String := tasks.map fun task => textOf (task.get? "evaluation_task_id")

def taskResultIds (tasks : List Json) : List String := tasks.map fun task => textOf (task.get? "evaluation_result_id")

/-- The counts that a snapshot claims, with the tasks that they count. -/
def claimedCounts : List (String × (Json → Bool)) :=
  [("passed_task_count", isPassed), ("failed_task_count", isFailed), ("unscored_task_count", isUnscored)]

/-- **What both languages require of a snapshot.** -/
structure SuiteFacts (sha256 : Json → String) (snapshot : JsonFields) : Prop where
  hash : snapshot.get? "snapshot_sha256" = some (.str (canonicalSha256 sha256 snapshot ["snapshot_sha256"]))
  identity : snapshot.get? "evaluation_suite_snapshot_id" =
    some (.str ("evaluation-suite-snapshot:" ++ textOf (snapshot.get? "report_sha256")))
  taskCount : TypeScript.eq (snapshot.get? "task_count") (some (.int (tasksOf snapshot).length)) = true
  tasks : ∀ task ∈ tasksOf snapshot, TaskFacts snapshot task
  taskIds : (taskIds (tasksOf snapshot)).Nodup
  resultIds : (taskResultIds (tasksOf snapshot)).Nodup
  order : taskResultIds (tasksOf snapshot) = textsOf (snapshot.get? "task_result_ids")
  counts : ∀ claim ∈ claimedCounts,
    TypeScript.eq (snapshot.get? claim.1) (some (.int ((tasksOf snapshot).countP claim.2))) = true

/-- The tally after some tasks. -/
theorem SuiteTally.foldl_add (tasks : List Json) (tally : SuiteTally) : tasks.foldl SuiteTally.add tally =
    ⟨tally.taskIds ++ WeFlow.taskIds tasks, tally.resultIds ++ taskResultIds tasks,
      tally.passed + tasks.countP isPassed, tally.failed + tasks.countP isFailed,
      tally.unscored + tasks.countP isUnscored⟩ := by
  induction tasks generalizing tally with
  | nil => simp [WeFlow.taskIds, taskResultIds]
  | cons task tasks ih =>
      have hcount : ∀ p : Json → Bool, (task :: tasks).countP p = (p task).toNat + tasks.countP p := by
        intro p
        rw [List.countP_cons, Nat.add_comm]
        cases p task <;> rfl
      rw [List.foldl_cons, ih, hcount, hcount, hcount]
      simp only [SuiteTally.add, WeFlow.taskIds, taskResultIds, List.map_cons, List.append_assoc,
        List.singleton_append, Nat.add_assoc]

/-- **A pass over the tasks** succeeds when each task is right, with their tally. -/
theorem tally_iff {ε : Type} {check : Json → Except ε Unit} {P : Json → Prop} {tasks : List Json}
    (h : ∀ task ∈ tasks, (check task = .ok () ↔ P task)) {tally : SuiteTally} :
    tasks.foldlM (fun tally task => do check task; return tally.add task) SuiteTally.start = .ok tally ↔
      (∀ task ∈ tasks, P task) ∧ tally = ⟨taskIds tasks, taskResultIds tasks, tasks.countP isPassed,
        tasks.countP isFailed, tasks.countP isUnscored⟩ := by
  have hstep : ∀ task ∈ tasks, ∀ s s' : SuiteTally,
      ((do check task; return s.add task) = (.ok s' : Except ε SuiteTally)) ↔ P task ∧ s' = s.add task := by
    intro task htask s s'
    rw [unit_bind_eq_ok, h task htask]
    refine and_congr_right fun _ => ?_
    constructor
    · intro hadd
      exact (Except.ok.inj hadd).symm
    · rintro rfl
      rfl
  rw [foldlM_eq_ok_iff hstep, folded_forall, SuiteTally.foldl_add]
  simp [SuiteTally.start]

section Snapshot

variable {schemas : List ContractSchema} {runtime : SchemaRuntime schemas} {sha256 : Json → String}
  {snapshot : JsonFields}

/-- The arrays and counts of an accepted snapshot. -/
theorem suite_parts (h : evaluationSuiteSnapshotSchema.accepts snapshot = true) : ∃ resultIds,
    arrayOf? (snapshot.get? "tasks") = some (tasksOf snapshot) ∧ (∀ task ∈ tasksOf snapshot, TaskShape task) ∧
    arrayOf? (snapshot.get? "task_result_ids") = some resultIds ∧
    (textsOf (snapshot.get? "task_result_ids")).length = resultIds.length ∧
    ∀ field ∈ "task_count" :: claimedCounts.map (·.1), ∀ v ∈ snapshot.get? field, v.plain = true := by
  obtain ⟨t, ht, htasks⟩ := ContractSchema.required_value h (show "tasks" ∈ _ by decide) rfl
  obtain ⟨tasks, rfl, -, hshapes⟩ := FieldRule.items_of_accepts htasks
  obtain ⟨r, hr, hresults⟩ := ContractSchema.required_value h (show "task_result_ids" ∈ _ by decide) rfl
  obtain ⟨results, rfl, -, -⟩ := FieldRule.items_of_accepts hresults
  have htasksOf : tasksOf snapshot = tasks.toList := by rw [tasksOf, itemsOf, ht]; rfl
  refine ⟨results.toList, ?_, ?_, ?_, ?_, fun field hfield => ?_⟩
  · rw [htasksOf, ht]; rfl
  · rw [htasksOf]
    exact fun task htask => taskShape_of_accepts (hshapes task htask)
  · rw [hr]; rfl
  · rw [hr, textsOf, List.length_map]
  · exact ContractSchema.plain_of_comparable h (show _ = true by decide) hfield

theorem TypeScript.suite_iff (hmem : evaluationSuiteSnapshotSchema ∈ schemas) :
    TypeScript.validateEvaluationSuiteSnapshot runtime.toContractRuntime sha256 snapshot = .ok () ↔
      Python.requireSchema runtime.toContractRuntime snapshot evaluationSuiteSnapshotSchema = .ok () ∧
        SuiteFacts sha256 snapshot := by
  rw [TypeScript.validateEvaluationSuiteSnapshot, unit_bind_eq_ok, ← schema_alike]
  refine and_congr_right fun hschema => ?_
  obtain ⟨resultIds, htasks, hshapes, hresults, hlength, hplain⟩ := suite_parts (runtime.accepted hschema hmem)
  have htally := fun tally => @tally_iff _ (TypeScript.checkTask snapshot) (TaskFacts snapshot) (tasksOf snapshot)
    (fun task htask => TypeScript.checkTask_iff (hshapes task htask)) tally
  -- a count that equals the number of tasks is a number
  have hnumber : ∀ {n : Int}, TypeScript.eq (snapshot.get? "task_count") (some (.int n)) = true →
      isNumber (snapshot.get? "task_count") = true := by
    intro n heq
    cases hcount : snapshot.get? "task_count" with
    | none => rw [hcount] at heq; cases heq
    | some v =>
        have hv := hplain "task_count" List.mem_cons_self v hcount
        rw [hcount] at heq
        cases v with
        | str s => cases heq
        | int _ | float _ => rfl
        | _ => cases hv
  rw [htasks, hresults]
  simp only [require_bind_eq_ok, fetch_bind_eq_ok, Option.some.injEq, exists_eq_left', TypeScript.eq_text]
  rw [bind_eq_ok]
  simp only [htally, require_bind_eq_ok, require_eq_ok, Bool.and_eq_true, decide_eq_true_eq]
  constructor
  · rintro ⟨hhash, hidentity, ⟨⟨-, hcount⟩, -⟩, tally, ⟨hall, rfl⟩, hids, hresultIds, horder, ⟨hp, hf⟩, hu⟩
    refine ⟨hhash, hidentity, hcount, hall, hids, hresultIds, horder, ?_⟩
    simp only [claimedCounts, List.forall_mem_cons, List.not_mem_nil, false_imp_iff, implies_true, and_true]
    exact ⟨hp, hf, hu⟩
  · intro h
    have hcounts := h.counts
    simp only [claimedCounts, List.forall_mem_cons, List.not_mem_nil, false_imp_iff, implies_true, and_true]
      at hcounts
    obtain ⟨hp, hf, hu⟩ := hcounts
    have hsame : resultIds.length = (tasksOf snapshot).length := by
      rw [← hlength, ← h.order, taskResultIds, List.length_map]
    refine ⟨h.hash, h.identity, ⟨⟨hnumber h.taskCount, h.taskCount⟩, ?_⟩, _, ⟨h.tasks, rfl⟩, h.taskIds, h.resultIds,
      h.order, ⟨hp, hf⟩, hu⟩
    rw [hsame]
    exact h.taskCount

/-- **Python requires more of a snapshot**: that the number of its tasks is written as an integer. -/
theorem Python.suite_iff (hmem : evaluationSuiteSnapshotSchema ∈ schemas) :
    Python.validateEvaluationSuiteSnapshot runtime.toContractRuntime sha256 snapshot = .ok () ↔
      (Python.requireSchema runtime.toContractRuntime snapshot evaluationSuiteSnapshotSchema = .ok () ∧
        SuiteFacts sha256 snapshot) ∧ Python.isInt (snapshot.get? "task_count") = true := by
  rw [← TypeScript.suite_iff hmem, TypeScript.validateEvaluationSuiteSnapshot, unit_bind_eq_ok, ← schema_alike,
    Python.validateEvaluationSuiteSnapshot, unit_bind_eq_ok, and_assoc]
  refine and_congr_right fun hschema => ?_
  obtain ⟨resultIds, htasks, hshapes, hresults, hlength, hplain⟩ := suite_parts (runtime.accepted hschema hmem)
  have htally := fun tally => @tally_iff _ (TypeScript.checkTask snapshot) (TaskFacts snapshot) (tasksOf snapshot)
    (fun task htask => TypeScript.checkTask_iff (hshapes task htask)) tally
  have htally' := fun tally => @tally_iff _ (Python.checkTask snapshot) (TaskFacts snapshot) (tasksOf snapshot)
    (fun task htask => Python.checkTask_iff (hshapes task htask)) tally
  have hcount : ∀ field ∈ "task_count" :: claimedCounts.map (·.1), ∀ n : Int,
      Python.eq (snapshot.get? field) (some (.int n)) = TypeScript.eq (snapshot.get? field) (some (.int n)) :=
    fun field hfield n => eq_alike (hplain field hfield) fun v hv => by cases hv; rfl
  have hnumber : Python.isInt (snapshot.get? "task_count") = true →
      isNumber (snapshot.get? "task_count") = true := by
    intro hint
    cases hvalue : snapshot.get? "task_count" with
    | none => rw [hvalue] at hint; cases hint
    | some v =>
        have hv := hplain "task_count" List.mem_cons_self v hvalue
        rw [hvalue] at hint
        cases v with
        | int _ => rfl
        | bool _ => cases hv
        | _ => cases hint
  rw [htasks, hresults]
  simp only [require_bind_eq_ok, fetch_bind_eq_ok, Option.some.injEq, exists_eq_left', TypeScript.eq_text,
    Python.eq_text, hcount _ (show "task_count" ∈ _ by decide)]
  rw [bind_eq_ok, bind_eq_ok]
  simp only [htally, htally', require_bind_eq_ok, require_eq_ok, Bool.and_eq_true, decide_eq_true_eq,
    hcount _ (show "passed_task_count" ∈ _ by decide), hcount _ (show "failed_task_count" ∈ _ by decide),
    hcount _ (show "unscored_task_count" ∈ _ by decide)]
  constructor
  · rintro ⟨hhash, hidentity, ⟨⟨hint, hlen⟩, hlen'⟩, hrest⟩
    exact ⟨⟨hhash, hidentity, ⟨⟨hnumber hint, hlen⟩, hlen'⟩, hrest⟩, hint⟩
  · rintro ⟨⟨hhash, hidentity, ⟨⟨-, hlen⟩, hlen'⟩, hrest⟩, hint⟩
    exact ⟨hhash, hidentity, ⟨⟨hint, hlen⟩, hlen'⟩, hrest⟩

end Snapshot

end WeFlow
