import Mathlib.Data.List.Sort
import WeFlow.Contracts.Operator

/-!
# `Console` — what the web console shows of an evaluation suite

`evaluation-report.ts` checks the answer of a server by hand before it renders it, without a schema validator and
without a hash. Each of its predicates is compared here with the schema's rule for the same value: an object with
exactly the keys of a record, each with a value that its rule accepts, is accepted. What then remains of Python's
validator is listed in `SuiteBeyond`.

## Contents

* `ExactRuntime` — a schema validator that accepts whatever the schemas accept.
* `Console.validateEvaluationSnapshot` — the validator of `evaluation-report.ts`, with its predicates.
* `suite_beyond_iff` — what Python requires of a snapshot that the console shows.
-/

namespace WeFlow

open Txn

/-! ## Objects of exactly some keys -/

def JsonFields.keys (fields : JsonFields) : List String := fields.toList.map (·.1)

/-- `hasExactKeys` and `exact`: the keys and the expected ones are the same lists when sorted. -/
def hasExactKeys (value : JsonFields) (expected : List String) : Bool :=
  decide (value.keys.insertionSort (· ≤ ·) = expected.insertionSort (· ≤ ·))

theorem keys_perm {value : JsonFields} {expected : List String} (h : hasExactKeys value expected = true) :
    value.keys.Perm expected := by
  have hsorted : value.keys.insertionSort (· ≤ ·) = expected.insertionSort (· ≤ ·) := of_decide_eq_true h
  calc value.keys.Perm (value.keys.insertionSort (· ≤ ·)) := (List.perm_insertionSort _ _).symm
    _ = expected.insertionSort (· ≤ ·) := hsorted
    _ |>.Perm expected := List.perm_insertionSort _ _

/-- Where no key comes twice, an entry is what its key reads. -/
theorem JsonFields.get?_of_mem {fields : JsonFields} (hnodup : fields.keys.Nodup) {entry : String × Json}
    (h : entry ∈ fields.toList) : fields.get? entry.1 = some entry.2 := by
  induction fields using JsonFields.toList.induct with
  | case1 => cases h
  | case2 key value rest ih =>
      rw [JsonFields.keys, JsonFields.toList, List.map_cons, List.nodup_cons] at hnodup
      rw [JsonFields.get?]
      rcases List.mem_cons.mp h with rfl | htail
      · rw [if_pos rfl]
      · have hmem : entry.1 ∈ rest.toList.map (·.1) := List.mem_map_of_mem htail
        have hne : key ≠ entry.1 := fun heq => hnodup.1 (heq ▸ hmem)
        rw [if_neg hne]
        exact ih hnodup.2 htail

/-- Whether a value is there and obeys a rule. -/
def FieldRule.admits (rule : FieldRule) (value : Option Json) : Bool := value.any rule.accepts

theorem FieldRules.accepts_ofList {rules : List (String × FieldRule)} {value : JsonFields} :
    (FieldRules.ofList rules).accepts value = true ↔
      ∀ entry ∈ rules, entry.2.admits (value.get? entry.1) = true := by
  induction rules with
  | nil => simp [FieldRules.ofList, FieldRules.accepts]
  | cons entry rest ih =>
      rw [FieldRules.ofList, FieldRules.accepts, Bool.and_eq_true, ih, List.forall_mem_cons]
      refine and_congr_left fun _ => ?_
      rw [FieldRule.admits]
      cases value.get? entry.1 <;> rfl

theorem FieldRules.names_ofList (rules : List (String × FieldRule)) :
    (FieldRules.ofList rules).names = rules.map (·.1) := by
  induction rules with
  | nil => rfl
  | cons entry rest ih => rw [FieldRules.ofList, FieldRules.names, ih, List.map_cons]

/-- **An object of exactly the keys of a record** is accepted when its values obey the rules. -/
theorem FieldRule.record_admits {rules : List (String × FieldRule)} {value : JsonFields} {expected : List String}
    (hkeys : hasExactKeys value expected = true) (hexpected : expected.Perm (rules.map (·.1))) :
    (FieldRule.record (.ofList rules)).accepts (.obj value) = true ↔
      ∀ entry ∈ rules, entry.2.admits (value.get? entry.1) = true := by
  rw [FieldRule.accepts, Bool.and_eq_true, FieldRules.accepts_ofList, List.all_eq_true, FieldRules.names_ofList]
  refine and_iff_left fun entry hentry => ?_
  rw [decide_eq_true_eq]
  apply hexpected.subset
  apply (keys_perm hkeys).subset
  exact List.mem_map_of_mem hentry

theorem lookup_of_mem {rules : List (String × FieldRule)} (hnodup : (rules.map (·.1)).Nodup)
    {entry : String × FieldRule} (h : entry ∈ rules) : rules.lookup entry.1 = some entry.2 := by
  induction rules with
  | nil => cases h
  | cons first rest ih =>
      rw [List.map_cons, List.nodup_cons] at hnodup
      rcases List.mem_cons.mp h with rfl | htail
      · exact List.lookup_cons_self
      · have hmem : entry.1 ∈ rest.map (·.1) := List.mem_map_of_mem htail
        have hne : (entry.1 == first.1) = false := by
          rw [beq_eq_false_iff_ne]
          exact fun heq => hnodup.1 (heq ▸ hmem)
        rw [List.lookup_cons, hne]
        exact ih hnodup.2 htail

/-- **A payload of exactly the keys of a schema** is accepted when its values obey the rules. -/
theorem ContractSchema.accepts_iff {schema : ContractSchema} {payload : JsonFields} {expected : List String}
    (hkeys : hasExactKeys payload expected = true) (hexpected : expected.Perm (schema.required.map (·.1)))
    (hnodup : (schema.required.map (·.1)).Nodup) (hoptional : schema.optional = []) :
    schema.accepts payload = true ↔ ∀ entry ∈ schema.required, entry.2.admits (payload.get? entry.1) = true := by
  have hperm : payload.keys.Perm (schema.required.map (·.1)) := (keys_perm hkeys).trans hexpected
  have hrule : ∀ {entry}, entry ∈ schema.required → schema.rule? entry.1 = some entry.2 := by
    intro entry hentry
    rw [ContractSchema.rule?, hoptional, List.append_nil]
    exact lookup_of_mem hnodup hentry
  constructor
  · intro h entry hentry
    obtain ⟨v, hv, haccepts⟩ := ContractSchema.required_value h (List.mem_map_of_mem hentry) (hrule hentry)
    rw [hv]
    exact haccepts
  · intro h
    rw [ContractSchema.accepts, Bool.and_eq_true, List.all_eq_true, List.all_eq_true]
    refine ⟨fun entry hentry => ?_, fun field hfield => ?_⟩
    · have hadmits := h entry hentry
      cases hv : payload.get? entry.1 with
      | none => rw [hv] at hadmits; cases hadmits
      | some v => rfl
    · have hkey : field.1 ∈ schema.required.map (·.1) := hperm.subset (List.mem_map_of_mem hfield)
      obtain ⟨entry, hentry, hname⟩ := List.mem_map.mp hkey
      have hadmits := h entry hentry
      rw [hname, JsonFields.get?_of_mem (hperm.nodup_iff.mpr hnodup) hfield] at hadmits
      rw [← hname, hrule hentry]
      exact hadmits

/-! ## The schema validator -/

/-- A validator that refuses no more than the schemas say. -/
structure ExactRuntime (schemas : List ContractSchema) extends SchemaRuntime schemas where
  complete : ∀ payload, ∀ schema ∈ schemas, payload.get? "schema_id" = some (.str schema.id) →
    schema.accepts payload = true → validatePayload payload = .ok ()

theorem ExactRuntime.requireSchema_iff {schemas : List ContractSchema} (runtime : ExactRuntime schemas)
    {schema : ContractSchema} (hmem : schema ∈ schemas) {payload : JsonFields}
    (hid : payload.get? "schema_id" = some (.str schema.id)) :
    Python.requireSchema runtime.toContractRuntime payload schema = .ok () ↔ schema.accepts payload = true := by
  rw [Python.requireSchema_iff]
  constructor
  · rintro ⟨hvalid, -⟩
    exact runtime.shapes payload hvalid schema hmem hid
  · intro haccepts
    exact ⟨runtime.complete payload schema hmem hid haccepts, hid⟩

/-! ## `evaluation-report.ts` -/

namespace Console

open TypeScript (eq gatesPass)

def nonEmpty : Option Json → Bool
  | some (.str value) => 1 ≤ value.toList.length
  | _ => false

/-- `HASH.test(value)` of a string. -/
def hash : Option Json → Bool
  | some (.str value) => value.toList.length = 64 && value.toList.all (isHashDigit true)
  | _ => false

/-- `SAFE_PATH.test(value)`: at least one character of the alphabet and then `.json`. -/
def safePath (value : List Char) : Bool :=
  let stem := value.take (value.length - 5)
  decide (value.drop (value.length - 5) = ['.', 'j', 's', 'o', 'n']) && !stem.isEmpty &&
    stem.all (inAlphabet pathAlphabet)

def safeSourcePath (value : Option Json) (root : String) : Bool :=
  match value with
  | some (.str value) =>
      root.toList.isPrefixOf value.toList && !value.toList.contains '\\' && !climbsUp value.toList &&
        safePath value.toList
  | _ => false

/-- `typeof value === "string" && names.has(value)`. -/
def named (names : List String) : Option Json → Bool
  | some (.str value) => value ∈ names
  | _ => false

/-- `typeof value === "boolean"`. -/
def isBoolean : Option Json → Bool
  | some (.bool _) => true
  | _ => false

/-- `Number.isInteger(value) && Number(value) >= least`. -/
def integerFrom (least : Int) (value : Option Json) : Bool := (value.bind Json.whole?).any fun n => least ≤ n

/-- …`&& Number(value) <= most`. -/
def integerWithin (least most : Int) (value : Option Json) : Bool :=
  (value.bind Json.whole?).any fun n => decide (least ≤ n) && decide (n ≤ most)

/-- `typeof value === "number" && !(value < 0 || value > 100)`. -/
def isScore (value : Option Json) : Bool :=
  (value.bind Json.number?).any fun q => decide (0 ≤ q) && decide (q ≤ 100)

def capabilityFlags (value : Option Json) : Bool :=
  (objectOf? value).any fun flags =>
    hasExactKeys flags ["external_write", "model", "network", "offline", "replay"] &&
    eq (flags.get? "offline") (some (.bool true)) && eq (flags.get? "replay") (some (.bool true)) &&
    eq (flags.get? "network") (some (.bool false)) && eq (flags.get? "model") (some (.bool false)) &&
    eq (flags.get? "external_write") (some (.bool false))

def metrics (value : Option Json) : Bool :=
  (objectOf? value).any fun item =>
    hasExactKeys item ["external_write_attempt_count", "local_effect_count", "model_invocation_count",
      "network_request_count", "tool_call_count"] &&
    integerFrom 0 (item.get? "tool_call_count") && integerWithin 0 2 (item.get? "local_effect_count") &&
    eq (item.get? "network_request_count") (some (.int 0)) &&
    eq (item.get? "model_invocation_count") (some (.int 0)) &&
    eq (item.get? "external_write_attempt_count") (some (.int 0))

def observation (value : Option Json) : Bool :=
  (objectOf? value).any fun item =>
    hasExactKeys item ["approval_valid", "evidence_valid", "external_write", "local_effect_count", "model", "network",
      "offline", "outcome", "replay", "state", "tool_call_count"] &&
    named observationStates (item.get? "state") && named observationOutcomes (item.get? "outcome") &&
    isBoolean (item.get? "evidence_valid") && isBoolean (item.get? "approval_valid") &&
    integerFrom 0 (item.get? "tool_call_count") && integerWithin 0 2 (item.get? "local_effect_count") &&
    eq (item.get? "offline") (some (.bool true)) && eq (item.get? "replay") (some (.bool true)) &&
    eq (item.get? "network") (some (.bool false)) && eq (item.get? "model") (some (.bool false)) &&
    eq (item.get? "external_write") (some (.bool false))

def gate (value : Json) : Bool :=
  (objectOf? (some value)).any fun gate =>
    hasExactKeys gate ["applicable", "name", "passed", "reason_code"] && named hardGateNames (gate.get? "name") &&
    isBoolean (gate.get? "applicable") && isBoolean (gate.get? "passed") && nonEmpty (gate.get? "reason_code")

def dimension (value : Json) : Bool :=
  (objectOf? (some value)).any fun dimension =>
    hasExactKeys dimension ["name", "score"] && named dimensionNames (dimension.get? "name") &&
    isScore (dimension.get? "score")

def taskKeys : List String :=
  ["dimensions", "evaluation_case_id", "evaluation_result_id", "evaluation_task_id", "failure_classification",
   "fixture_id", "fixture_sha256", "fixture_source_id", "fixture_source_path", "grader_result_id",
   "hard_gate_passed", "hard_gates", "metrics", "observation", "oracle_id", "oracle_sha256", "policy_sha256",
   "policy_source_id", "policy_source_path", "quality_score", "result", "run_metrics_id", "task_sha256", "tenant_id"]

def taskIdFields : List String :=
  ["evaluation_task_id", "fixture_id", "fixture_source_id", "policy_source_id", "oracle_id", "evaluation_case_id",
   "grader_result_id", "run_metrics_id", "evaluation_result_id"]

def taskHashFields : List String := ["fixture_sha256", "policy_sha256", "task_sha256", "oracle_sha256"]

def taskSnapshot (value : Json) (tenantId : String) : Bool :=
  (objectOf? (some value)).any fun task =>
    hasExactKeys task taskKeys && eq (task.get? "tenant_id") (some (.str tenantId)) &&
    taskIdFields.all (fun field => nonEmpty (task.get? field)) &&
    safeSourcePath (task.get? "fixture_source_path") "fixtures/" &&
    safeSourcePath (task.get? "policy_source_path") "evals/sources/" &&
    taskHashFields.all (fun field => hash (task.get? field)) &&
    (eq (task.get? "result") (some (.str "passed")) || eq (task.get? "result") (some (.str "failed"))) &&
    (eq (task.get? "failure_classification") (some .null) || nonEmpty (task.get? "failure_classification")) &&
    (arrayOf? (task.get? "hard_gates")).any (fun gates =>
      !gates.isEmpty && gates.all gate &&
      (let hardGatePassed := gatesPass gates
       eq (task.get? "hard_gate_passed") (some (.bool hardGatePassed)) &&
       if hardGatePassed then isNumber (task.get? "quality_score")
       else eq (task.get? "quality_score") (some (.str "not_scored")))) &&
    (arrayOf? (task.get? "dimensions")).any (fun dimensions => dimensions.all dimension) &&
    metrics (task.get? "metrics") && observation (task.get? "observation") &&
    ["tool_call_count", "local_effect_count"].all fun field =>
      eq ((task.get? "metrics").bind (·.get? field)) ((task.get? "observation").bind (·.get? field))

def snapshotKeys : List String :=
  ["accepted", "capability_flags", "evaluation_suite_snapshot_id", "failed_task_count", "passed_task_count", "profile",
   "repeated_baseline_equal", "report_sha256", "schema_id", "schema_version", "snapshot_sha256", "suite_id",
   "suite_report_id", "suite_sha256", "task_count", "task_result_ids", "tasks", "tenant_id", "unscored_task_count"]

/-- The first of the two checks of `validateEvaluationSnapshot`. -/
def suiteShaped (snapshot : JsonFields) : Bool :=
  hasExactKeys snapshot snapshotKeys &&
  eq (snapshot.get? "schema_id") (some (.str evaluationSuiteSnapshotSchema.id)) &&
  eq (snapshot.get? "schema_version") (some (.str "v1")) &&
  eq (snapshot.get? "suite_id") (some (.str "offline-seed.v1")) &&
  eq (snapshot.get? "profile") (some (.str "benchmark-core.v1")) &&
  eq (snapshot.get? "accepted") (some (.bool true)) &&
  eq (snapshot.get? "repeated_baseline_equal") (some (.bool true)) &&
  nonEmpty (snapshot.get? "tenant_id") && nonEmpty (snapshot.get? "suite_report_id") &&
  hash (snapshot.get? "suite_sha256") && hash (snapshot.get? "report_sha256") &&
  hash (snapshot.get? "snapshot_sha256") &&
  eq (snapshot.get? "evaluation_suite_snapshot_id")
    (some (.str ("evaluation-suite-snapshot:" ++ textOf (snapshot.get? "report_sha256")))) &&
  capabilityFlags (snapshot.get? "capability_flags") &&
  (arrayOf? (snapshot.get? "tasks")).any (fun tasks => tasks.length = 12) &&
  eq (snapshot.get? "task_count") (some (.int 12)) &&
  (arrayOf? (snapshot.get? "task_result_ids")).any (fun resultIds => resultIds.length = 12) &&
  (tasksOf snapshot).all fun task => taskSnapshot task (textOf (snapshot.get? "tenant_id"))

/-- …and the second. -/
def suiteCounted (snapshot : JsonFields) : Bool :=
  let tasks := tasksOf snapshot
  let snapshotResultIds := itemsOf (snapshot.get? "task_result_ids")
  let passed := tasks.countP isPassed
  let unscored := tasks.countP isUnscored
  let failed : Int := tasks.length - passed - unscored
  (taskIds tasks).Nodup && (taskResultIds tasks).Nodup &&
  (taskResultIds tasks).zipIdx.all (fun entry => eq (some (.str entry.1)) snapshotResultIds[entry.2]?) &&
  eq (snapshot.get? "passed_task_count") (some (.int passed)) &&
  eq (snapshot.get? "failed_task_count") (some (.int failed)) &&
  eq (snapshot.get? "unscored_task_count") (some (.int unscored))

/-- **`validateEvaluationSnapshot`.** -/
def validateEvaluationSnapshot (value : Json) : Option JsonFields :=
  match objectOf? (some value) with
  | none => none
  | some snapshot => if suiteShaped snapshot && suiteCounted snapshot then some snapshot else none

end Console

/-! ## The predicates and the rules -/

namespace Console

open TypeScript (eq gatesPass)

section Predicates

variable {value : Option Json}

theorem eq_admits (constant : Json) : eq value (some constant) = (FieldRule.literal constant).admits value := by
  cases value with
  | none => rfl
  | some v => rw [FieldRule.admits, Option.any_some, FieldRule.accepts, TypeScript.eq]

theorem eq_const (text : String) : eq value (some (.str text)) = (FieldRule.const text).admits value := by
  cases value with
  | none => rfl
  | some v => cases v <;> simp [TypeScript.eq, FieldRule.admits, FieldRule.accepts, Json.strictEq, Json.number?,
      sameNumber]

theorem nonEmpty_admits : nonEmpty value = (FieldRule.text 1).admits value := by
  cases value with
  | none => rfl
  | some v => cases v <;> simp [nonEmpty, FieldRule.admits, FieldRule.accepts]

theorem hash_admits : hash value = (FieldRule.hash true).admits value := by
  cases value with
  | none => rfl
  | some v => cases v <;> simp [hash, FieldRule.admits, FieldRule.accepts]

theorem named_admits (names : List String) : named names value = (FieldRule.enum names).admits value := by
  cases value with
  | none => rfl
  | some v => cases v <;> simp [named, FieldRule.admits, FieldRule.accepts]

theorem isBoolean_admits : isBoolean value = FieldRule.boolean.admits value := by
  cases value with
  | none => rfl
  | some v => cases v <;> simp [isBoolean, FieldRule.admits, FieldRule.accepts]

theorem integerFrom_admits (least : Int) : integerFrom least value = (FieldRule.integer least).admits value := by
  cases value with
  | none => rfl
  | some v =>
      rw [integerFrom, FieldRule.admits, Option.bind_some, Option.any_some, FieldRule.accepts]
      cases v.whole? <;> rfl

/-- The number that an integer is. -/
theorem number_of_whole {v : Json} {n : Int} (h : v.whole? = some n) : v.number? = some (n : Rat) := by
  cases v with
  | int m =>
      obtain rfl := Option.some.inj h
      rfl
  | float q =>
      rw [Json.whole?] at h
      split at h
      · rename_i hden
        obtain rfl := Option.some.inj h
        have hq : q = (q.num : Rat) := Rat.ext rfl hden
        exact congrArg some hq
      · cases h
  | _ => cases h

theorem integerWithin_admits (least most : Int) :
    integerWithin least most value = (FieldRule.range least most).admits value := by
  cases value with
  | none => rfl
  | some v =>
      rw [integerWithin, FieldRule.admits, FieldRule.range, Option.bind_some, Option.any_some, FieldRule.accepts,
        FieldRule.accepts, FieldRule.accepts]
      cases hwhole : v.whole? with
      | none => rfl
      | some n =>
          rw [number_of_whole hwhole]
          simp only [Option.any_some, Rat.intCast_le_intCast]

theorem isScore_admits : isScore value = scoreRule.admits value := by
  cases value with
  | none => rfl
  | some v =>
      rw [isScore, FieldRule.admits, scoreRule, Option.bind_some, Option.any_some, FieldRule.accepts,
        FieldRule.accepts, FieldRule.accepts]
      cases v.number? with
      | none => rfl
      | some q => simp

/-- What equals an integer is one. -/
theorem whole_of_eq {n : Int} (h : eq value (some (.int n)) = true) : value.bind Json.whole? = some n := by
  cases value with
  | none => cases h
  | some v =>
      cases v with
      | int m =>
          have hsame : (m : Rat) = (n : Rat) := of_decide_eq_true h
          rw [Option.bind_some, Json.whole?, Rat.intCast_inj.mp hsame]
      | float q =>
          have hsame : q = (n : Rat) := of_decide_eq_true h
          subst hsame
          rfl
      | _ => cases h

theorem count_admits {n least : Int} (h : eq value (some (.int n)) = true) (hleast : least ≤ n) :
    (FieldRule.integer least).admits value = true := by
  rw [← integerFrom_admits, integerFrom, whole_of_eq h]
  exact decide_eq_true hleast

theorem of_objectOf {p : JsonFields → Bool} (h : (objectOf? value).any p = true) :
    ∃ fields, value = some (.obj fields) ∧ p fields = true := by
  cases value with
  | none => cases h
  | some v =>
      cases v with
      | obj fields => exact ⟨fields, rfl, h⟩
      | _ => cases h

theorem of_arrayOf {p : List Json → Bool} (h : (arrayOf? value).any p = true) :
    ∃ items, value = some (.arr items) ∧ p items.toList = true := by
  cases value with
  | none => cases h
  | some v =>
      cases v with
      | arr items => exact ⟨items, rfl, h⟩
      | _ => cases h

end Predicates

/-! ## The parts of a task -/

theorem capabilityFlags_accepted {value : Option Json} (h : capabilityFlags value = true) :
    (FieldRule.record capabilityFlagFields).admits value = true := by
  obtain ⟨flags, rfl, hflags⟩ := of_objectOf h
  simp only [Bool.and_eq_true, eq_admits, and_assoc] at hflags
  obtain ⟨hkeys, hoffline, hreplay, hnetwork, hmodel, hwrite⟩ := hflags
  show (FieldRule.record capabilityFlagFields).accepts (.obj flags) = true
  rw [capabilityFlagFields, FieldRule.record_admits hkeys (by decide)]
  simp only [List.forall_mem_cons, List.not_mem_nil, false_imp_iff, implies_true, and_true]
  exact ⟨hoffline, hreplay, hnetwork, hmodel, hwrite⟩

theorem metrics_accepted {value : Option Json} (h : metrics value = true) :
    (FieldRule.record metricsFields).admits value = true := by
  obtain ⟨item, rfl, hitem⟩ := of_objectOf h
  simp only [Bool.and_eq_true, eq_admits, integerFrom_admits, integerWithin_admits, and_assoc] at hitem
  obtain ⟨hkeys, htools, heffects, hnetwork, hmodel, hwrite⟩ := hitem
  show (FieldRule.record metricsFields).accepts (.obj item) = true
  rw [metricsFields, FieldRule.record_admits hkeys (by decide)]
  simp only [List.forall_mem_cons, List.not_mem_nil, false_imp_iff, implies_true, and_true]
  exact ⟨htools, heffects, hnetwork, hmodel, hwrite⟩

theorem observation_accepted {value : Option Json} (h : observation value = true) :
    (FieldRule.record observationFields).admits value = true := by
  obtain ⟨item, rfl, hitem⟩ := of_objectOf h
  simp only [Bool.and_eq_true, eq_admits, integerFrom_admits, integerWithin_admits, named_admits, isBoolean_admits,
    and_assoc] at hitem
  obtain ⟨hkeys, hstate, houtcome, hevidence, happroval, htools, heffects, hoffline, hreplay, hnetwork, hmodel,
    hwrite⟩ := hitem
  show (FieldRule.record observationFields).accepts (.obj item) = true
  rw [observationFields, FieldRule.record_admits hkeys (by decide)]
  simp only [List.forall_mem_cons, List.not_mem_nil, false_imp_iff, implies_true, and_true]
  exact ⟨hstate, houtcome, hevidence, happroval, htools, heffects, hoffline, hreplay, hnetwork, hmodel, hwrite⟩

theorem gate_accepted {value : Json} (h : gate value = true) :
    (FieldRule.record hardGateFields).accepts value = true := by
  obtain ⟨item, hvalue, hitem⟩ := of_objectOf h
  obtain rfl := Option.some.inj hvalue
  simp only [Bool.and_eq_true, named_admits, isBoolean_admits, nonEmpty_admits, and_assoc] at hitem
  obtain ⟨hkeys, hname, happlicable, hpassed, hreason⟩ := hitem
  rw [hardGateFields, FieldRule.record_admits hkeys (by decide)]
  simp only [List.forall_mem_cons, List.not_mem_nil, false_imp_iff, implies_true, and_true]
  exact ⟨hname, hpassed, happlicable, hreason⟩

theorem dimension_accepted {value : Json} (h : dimension value = true) :
    (FieldRule.record dimensionFields).accepts value = true := by
  obtain ⟨item, hvalue, hitem⟩ := of_objectOf h
  obtain rfl := Option.some.inj hvalue
  simp only [Bool.and_eq_true, named_admits, isScore_admits, and_assoc] at hitem
  obtain ⟨hkeys, hname, hscore⟩ := hitem
  rw [dimensionFields, FieldRule.record_admits hkeys (by decide)]
  simp only [List.forall_mem_cons, List.not_mem_nil, false_imp_iff, implies_true, and_true]
  exact ⟨hname, hscore⟩

/-! ## Source paths -/

/-- The name of a safe path below a root that ends in a slash is a stem with `.json`. -/
theorem name_of_safePath {start name : List Char} (h : safePath (start ++ '/' :: name) = true) :
    ∃ stem, name = stem ++ ['.', 'j', 's', 'o', 'n'] ∧ stem.all (inAlphabet pathAlphabet) = true := by
  simp only [safePath, Bool.and_eq_true, decide_eq_true_eq] at h
  obtain ⟨⟨hjson, -⟩, hstem⟩ := h
  have hlength : (start ++ '/' :: name).length = start.length + 1 + name.length := by
    rw [List.length_append, List.length_cons]
    omega
  rw [hlength] at hjson hstem
  have hlong : 5 ≤ name.length := by
    by_contra hshort
    -- the slash would be one of the last five characters
    have hle : start.length + 1 + name.length - 5 ≤ start.length := by omega
    rw [List.drop_append_of_le_length hle] at hjson
    have hslash : '/' ∈ ['.', 'j', 's', 'o', 'n'] := by
      rw [← hjson]
      exact List.mem_append_right _ List.mem_cons_self
    exact absurd hslash (by decide)
  have hsplit : start.length + 1 + name.length - 5 = start.length + 1 + (name.length - 5) := by omega
  have hwhole : start ++ '/' :: name = (start ++ ['/']) ++ name := by rw [List.append_assoc]; rfl
  have hroot : (start ++ ['/']).length = start.length + 1 := List.length_append
  rw [hsplit, hwhole, ← hroot, List.drop_length_add_append] at hjson
  rw [hsplit, hwhole, ← hroot, List.take_length_add_append, List.all_append, Bool.and_eq_true] at hstem
  refine ⟨name.take (name.length - 5), ?_, hstem.2⟩
  rw [← hjson, List.take_append_drop]

/-- **A source path of the console** is one of the schema unless nothing stands between its root and `.json`. -/
theorem safeSourcePath_admits {value : Option Json} {root : String} {start : List Char}
    (hroot : root.toList = start ++ ['/']) (h : safeSourcePath value root = true) :
    (FieldRule.path root pathAlphabet false).admits value = true ↔ value ≠ some (.str (root ++ ".json")) := by
  match value with
  | some (.str s) =>
      simp only [safeSourcePath, Bool.and_eq_true, Bool.not_eq_true'] at h
      obtain ⟨⟨⟨hstarts, -⟩, hclimbs⟩, hsafe⟩ := h
      obtain ⟨name, hname⟩ := List.isPrefixOf_iff_prefix.mp hstarts
      have hs : s.toList = start ++ '/' :: name := by rw [← hname, hroot, List.append_assoc]; rfl
      rw [hs] at hsafe
      obtain ⟨stem, rfl, hstem⟩ := name_of_safePath hsafe
      have hlength : (stem ++ ['.', 'j', 's', 'o', 'n']).length - 5 = stem.length := by
        rw [List.length_append]
        show stem.length + 5 - 5 = stem.length
        omega
      have hdrop : s.toList.drop root.toList.length = stem ++ ['.', 'j', 's', 'o', 'n'] := by
        rw [← hname, List.drop_left]
      have hplain : (some (.str s) ≠ some (Json.str (root ++ ".json"))) ↔ stem ≠ [] := by
        rw [not_iff_not, Option.some.injEq, Json.str.injEq, ← String.toList_inj, String.toList_append, ← hname,
          List.append_cancel_left_eq]
        constructor
        · intro heq
          have hlen : stem.length + 5 = 5 := by
            have hboth := congrArg List.length heq
            rw [List.length_append] at hboth
            exact hboth
          exact List.length_eq_zero_iff.mp (by omega)
        · rintro rfl
          rfl
      rw [hplain, FieldRule.admits, Option.any_some, FieldRule.accepts, isPath, hdrop, hlength, List.drop_left,
        List.take_left, hstarts, hstem, hclimbs]
      cases stem with
      | nil => simp
      | cons c rest =>
          have hc : inAlphabet pathAlphabet c = true := List.all_eq_true.mp hstem c List.mem_cons_self
          simp [hc]
  | none | some .null | some (.bool _) | some (.int _) | some (.float _) | some (.arr _) | some (.obj _) => cases h

/-! ## The snapshot -/

/-- What the schema requires of a task beside what the console does. -/
structure TaskBeyond (task : Json) : Prop where
  score : ∀ q, (task.get? "quality_score").bind Json.number? = some q → 0 ≤ q ∧ q ≤ 100
  fixture : task.get? "fixture_source_path" ≠ some (.str "fixtures/.json")
  policy : task.get? "policy_source_path" ≠ some (.str "evals/sources/.json")

/-- **What Python requires of a snapshot beside what the console does.** -/
structure SuiteBeyond (sha256 : Json → String) (snapshot : JsonFields) : Prop where
  hash : snapshot.get? "snapshot_sha256" = some (.str (canonicalSha256 sha256 snapshot ["snapshot_sha256"]))
  counted : Python.isInt (snapshot.get? "task_count") = true
  tasks : ∀ task ∈ tasksOf snapshot, TaskBeyond task

section Task

variable {task : Json} {tenantId : String}

/-- A score of a task, as its gates require it, obeys the schema when a number is none beyond a hundred. -/
theorem score_admits {score : Option Json} (h : isNumber score = true ∨ score = some (.str "not_scored")) :
    (FieldRule.either scoreRule (.const "not_scored")).admits score = true ↔
      ∀ q, score.bind Json.number? = some q → 0 ≤ q ∧ q ≤ 100 := by
  rcases h with hnumber | rfl
  · cases hq : score.bind Json.number? with
    | none => rw [isNumber, hq] at hnumber; cases hnumber
    | some q =>
        have hscore : (FieldRule.either scoreRule (.const "not_scored")).admits score = scoreRule.admits score := by
          cases score with
          | none => cases hq
          | some v =>
              have hconst : (FieldRule.const "not_scored").accepts v = false := by
                cases v with
                | str s => cases hq
                | _ => rfl
              rw [FieldRule.admits, FieldRule.admits, Option.any_some, Option.any_some, FieldRule.accepts, hconst,
                Bool.or_false]
        rw [hscore, ← isScore_admits, isScore, hq]
        simp
  · simp [FieldRule.admits, FieldRule.accepts, Json.number?]

theorem task_accepted_iff (h : taskSnapshot task tenantId = true) (htenant : tenantId ≠ "") :
    (FieldRule.record taskSnapshotFields).accepts task = true ↔ TaskBeyond task := by
  obtain ⟨fields, hvalue, hfields⟩ := of_objectOf h
  obtain rfl := Option.some.inj hvalue
  simp only [Bool.and_eq_true, taskIdFields, taskHashFields, List.all_cons, List.all_nil, and_true,
    nonEmpty_admits, hash_admits, and_assoc] at hfields
  obtain ⟨hkeys, htenantId, i1, i2, i3, i4, i5, i6, i7, i8, i9, hfixture, hpolicy, s1, s2, s3, s4, hresult, hfailure,
    hgates, hdimensions, hmetrics, hobservation, -⟩ := hfields
  obtain ⟨gates, hgatesOf, hgates⟩ := of_arrayOf hgates
  obtain ⟨dimensions, hdimensionsOf, hdimensions⟩ := of_arrayOf hdimensions
  simp only [Bool.and_eq_true, Bool.not_eq_true', List.all_eq_true, and_assoc] at hgates
  obtain ⟨hsome, hgates, hpassed, hscore⟩ := hgates
  have htenantRule : (FieldRule.text 1).admits (fields.get? "tenant_id") = true := by
    rw [TypeScript.eq_text.mp htenantId, ← nonEmpty_admits]
    exact decide_eq_true (Nat.one_le_iff_ne_zero.mpr fun hzero =>
      htenant (String.toList_eq_nil_iff.mp (List.length_eq_zero_iff.mp hzero)))
  have hresultRule : (FieldRule.enum ["passed", "failed"]).admits (fields.get? "result") = true := by
    rcases Bool.or_eq_true _ _ ▸ hresult with heq | heq
    · rw [TypeScript.eq_text.mp heq]
      rfl
    · rw [TypeScript.eq_text.mp heq]
      rfl
  have hfailureRule : (FieldRule.nullable (.text 0)).admits (fields.get? "failure_classification") = true := by
    rcases Bool.or_eq_true _ _ ▸ hfailure with hnull | htext
    · rw [TypeScript.eq_null.mp hnull]
      rfl
    · rw [FieldRule.admits, Option.any_eq_true] at htext ⊢
      obtain ⟨v, hv, haccepts⟩ := htext
      refine ⟨v, hv, ?_⟩
      cases v with
      | str s => rfl
      | _ => cases haccepts
  have hpassedRule : FieldRule.boolean.admits (fields.get? "hard_gate_passed") = true := by
    rw [TypeScript.eq_bool.mp hpassed]
    rfl
  have hgatesRule : (FieldRule.list 1 (.record hardGateFields)).admits (fields.get? "hard_gates") = true := by
    rw [hgatesOf, FieldRule.admits, Option.any_some, FieldRule.accepts, Bool.and_eq_true, decide_eq_true_eq,
      List.all_eq_true]
    refine ⟨?_, fun value hvalue => gate_accepted (hgates value hvalue)⟩
    rw [Nat.one_le_iff_ne_zero]
    intro hzero
    rw [List.length_eq_zero_iff.mp hzero] at hsome
    cases hsome
  have hdimensionsRule : (FieldRule.list 0 (.record dimensionFields)).admits (fields.get? "dimensions") = true := by
    rw [hdimensionsOf, FieldRule.admits, Option.any_some, FieldRule.accepts, Bool.and_eq_true, decide_eq_true_eq,
      List.all_eq_true]
    exact ⟨Nat.zero_le _, fun value hvalue => dimension_accepted (List.all_eq_true.mp hdimensions value hvalue)⟩
  have hscoreOf : isNumber (fields.get? "quality_score") = true ∨
      fields.get? "quality_score" = some (.str "not_scored") := by
    split at hscore
    · exact .inl hscore
    · exact .inr (TypeScript.eq_text.mp hscore)
  have hfixtureRule := safeSourcePath_admits (show "fixtures/".toList = "fixtures".toList ++ ['/'] from rfl) hfixture
  have hpolicyRule := safeSourcePath_admits
    (show "evals/sources/".toList = "evals/sources".toList ++ ['/'] from rfl) hpolicy
  rw [taskSnapshotFields, FieldRule.record_admits hkeys (by decide +kernel)]
  simp only [List.forall_mem_cons, List.not_mem_nil, false_imp_iff, implies_true, and_true]
  constructor
  · rintro ⟨-, -, -, -, p1, -, -, p2, -, -, -, -, -, -, -, -, -, -, -, -, -, score, -, -⟩
    exact ⟨(score_admits hscoreOf).mp score, hfixtureRule.mp p1, hpolicyRule.mp p2⟩
  · intro hbeyond
    exact ⟨htenantRule, i1, i2, i3, hfixtureRule.mpr hbeyond.fixture, s1, i4, hpolicyRule.mpr hbeyond.policy, s2, s3,
      i5, s4, i6, i7, i8, i9, hresultRule, hfailureRule, hpassedRule, hgatesRule, hdimensionsRule,
      (score_admits hscoreOf).mpr hbeyond.score, metrics_accepted hmetrics, observation_accepted hobservation⟩

theorem task_facts {snapshot : JsonFields} (h : taskSnapshot task tenantId = true)
    (htenant : snapshot.get? "tenant_id" = some (.str tenantId)) : TaskFacts snapshot task := by
  obtain ⟨fields, hvalue, hfields⟩ := of_objectOf h
  obtain rfl := Option.some.inj hvalue
  simp only [Bool.and_eq_true, and_assoc] at hfields
  obtain ⟨-, htenantId, -, -, -, -, -, -, hgates, -, -, -, hcounts⟩ := hfields
  obtain ⟨gates, hgatesOf, hgates⟩ := of_arrayOf hgates
  simp only [Bool.and_eq_true, and_assoc] at hgates
  obtain ⟨-, -, hpassed, hscore⟩ := hgates
  have hitems : taskGates (.obj fields) = gates.toList := by
    show itemsOf (fields.get? "hard_gates") = gates.toList
    rw [hgatesOf]
    rfl
  constructor
  case tenant =>
    rw [htenant]
    exact TypeScript.eq_text.mp htenantId
  case summary =>
    rw [hitems]
    exact TypeScript.eq_bool.mp hpassed
  case score =>
    intro hpass
    rw [hitems] at hpass
    rwa [if_pos hpass] at hscore
  case unscored =>
    intro hfail
    rw [hitems] at hfail
    rw [hfail, if_neg Bool.false_ne_true] at hscore
    exact decide_eq_true (TypeScript.eq_text.mp hscore)
  case counts =>
    intro field hfield
    exact List.all_eq_true.mp hcounts field hfield

end Task

/-- The items that a list of texts is compared with, one by one, are the texts. -/
theorem items_of_texts {texts : List String} {items : List Json} (hlength : items.length = texts.length)
    (h : (texts.zipIdx.all fun entry => eq (some (.str entry.1)) items[entry.2]?) = true) :
    items = texts.map .str := by
  apply List.ext_getElem?
  intro i
  rw [List.getElem?_map]
  by_cases hi : i < texts.length
  · have htext : texts[i]? = some texts[i] := List.getElem?_eq_getElem hi
    have hmem : (texts[i], i) ∈ texts.zipIdx := List.mk_mem_zipIdx_iff_getElem?.mpr htext
    rw [htext]
    exact TypeScript.text_eq.mp (List.all_eq_true.mp h _ hmem)
  · have hle : texts.length ≤ i := Nat.le_of_not_lt hi
    rw [List.getElem?_eq_none hle, List.getElem?_eq_none (hlength ▸ hle)]
    rfl

/-- The tasks that are not passed and have a score are failed. -/
theorem countP_tasks (tasks : List Json) :
    tasks.countP isPassed + tasks.countP isFailed + tasks.countP isUnscored = tasks.length := by
  induction tasks with
  | nil => rfl
  | cons task tasks ih =>
      have hone : (isPassed task).toNat + (isFailed task).toNat + (isUnscored task).toNat = 1 := by
        rw [isPassed, isFailed]
        cases isUnscored task <;> cases decide (task.get? "result" = some (.str "passed")) <;> rfl
      have hcount : ∀ p : Json → Bool, (task :: tasks).countP p = (p task).toNat + tasks.countP p := by
        intro p
        rw [List.countP_cons, Nat.add_comm]
        cases p task <;> rfl
      rw [hcount, hcount, hcount, List.length_cons]
      omega

section Snapshot

variable {sha256 : Json → String} {snapshot : JsonFields}

/-- The tenant of a snapshot, its tasks and the ids of their results. -/
theorem suite_read (hshaped : suiteShaped snapshot = true) (hcounted : suiteCounted snapshot = true) :
    ∃ tenantId, tenantId ≠ "" ∧ snapshot.get? "tenant_id" = some (.str tenantId) ∧
      (∀ task ∈ tasksOf snapshot, taskSnapshot task tenantId = true) ∧ (tasksOf snapshot).length = 12 ∧
      (∃ items, snapshot.get? "tasks" = some (.arr items) ∧ items.toList = tasksOf snapshot) ∧
      ∃ items, snapshot.get? "task_result_ids" = some (.arr items) ∧
        items.toList = (taskResultIds (tasksOf snapshot)).map .str := by
  simp only [suiteShaped, Bool.and_eq_true, and_assoc] at hshaped
  obtain ⟨-, -, -, -, -, -, -, htenant, -, -, -, -, -, -, htasks, -, hresultIds, hall⟩ := hshaped
  simp only [suiteCounted, Bool.and_eq_true, and_assoc] at hcounted
  obtain ⟨-, -, horder, -⟩ := hcounted
  obtain ⟨tasks, htasksOf, htwelve⟩ := of_arrayOf htasks
  obtain ⟨results, hresultsOf, hresults⟩ := of_arrayOf hresultIds
  have htasksEq : tasksOf snapshot = tasks.toList := by rw [tasksOf, itemsOf, htasksOf]; rfl
  have hresultsEq : itemsOf (snapshot.get? "task_result_ids") = results.toList := by rw [itemsOf, hresultsOf]; rfl
  have htasksLength : (tasksOf snapshot).length = 12 := htasksEq ▸ of_decide_eq_true htwelve
  have hlength : results.toList.length = (taskResultIds (tasksOf snapshot)).length := by
    rw [taskResultIds, List.length_map, htasksLength]
    exact of_decide_eq_true hresults
  rw [hresultsEq] at horder
  cases hvalue : snapshot.get? "tenant_id" with
  | none => rw [hvalue] at htenant; cases htenant
  | some v =>
      rw [hvalue] at htenant hall
      cases v with
      | str tenantId =>
          refine ⟨tenantId, ?_, rfl, List.all_eq_true.mp hall, htasksLength, ⟨tasks, htasksOf, htasksEq.symm⟩,
            results, hresultsOf, items_of_texts hlength horder⟩
          rintro rfl
          cases htenant
      | _ => cases htenant

/-- The number of the failed tasks, as the console counts them. -/
theorem failed_eq (tasks : List Json) :
    (tasks.length : Int) - tasks.countP isPassed - tasks.countP isUnscored = tasks.countP isFailed := by
  have hcount := countP_tasks tasks
  omega

/-- Of a snapshot that the console shows the schema refuses nothing but tasks. -/
theorem suite_accepts_iff (hshaped : suiteShaped snapshot = true) (hcounted : suiteCounted snapshot = true) :
    evaluationSuiteSnapshotSchema.accepts snapshot = true ↔ ∀ task ∈ tasksOf snapshot, TaskBeyond task := by
  obtain ⟨tenantId, hne, htenant, htasks, htwelve, ⟨tasks, htasksOf, htasksEq⟩, results, hresultsOf, hresultsEq⟩ :=
    suite_read hshaped hcounted
  simp only [suiteShaped, Bool.and_eq_true, and_assoc, nonEmpty_admits, hash_admits] at hshaped
  obtain ⟨hkeys, hid, hversion, hsuite, hprofile, haccepted, hrepeated, htenantRule, hreport, h1, h2, h3, hidentity,
    hflags, -, hcount, -, -⟩ := hshaped
  simp only [suiteCounted, Bool.and_eq_true, and_assoc] at hcounted
  obtain ⟨-, -, -, hpassed, hfailed, hunscored⟩ := hcounted
  rw [failed_eq] at hfailed
  have hidentityRule : (FieldRule.text 1).admits (snapshot.get? "evaluation_suite_snapshot_id") = true := by
    rw [TypeScript.eq_text.mp hidentity, FieldRule.admits, Option.any_some, FieldRule.accepts, decide_eq_true_eq,
      String.toList_append, List.length_append]
    exact Nat.le_add_right_of_le (by decide)
  have hsuiteRule : (FieldRule.text 1).admits (snapshot.get? "suite_id") = true := by
    rw [TypeScript.eq_text.mp hsuite]
    rfl
  have hresultsRule : (FieldRule.list 1 (.text 1)).admits (snapshot.get? "task_result_ids") = true := by
    rw [hresultsOf, FieldRule.admits, Option.any_some, FieldRule.accepts, Bool.and_eq_true, decide_eq_true_eq,
      List.all_eq_true, hresultsEq]
    refine ⟨by rw [List.length_map, taskResultIds, List.length_map, htwelve]; decide, fun item hitem => ?_⟩
    rw [taskResultIds, List.map_map] at hitem
    obtain ⟨task, htask, rfl⟩ := List.mem_map.mp hitem
    obtain ⟨fields, hvalue, hfields⟩ := of_objectOf (htasks task htask)
    obtain rfl := Option.some.inj hvalue
    simp only [Bool.and_eq_true, and_assoc] at hfields
    have hnonEmpty := List.all_eq_true.mp hfields.2.2.1 "evaluation_result_id" (by decide)
    show (FieldRule.text 1).accepts (.str (textOf (fields.get? "evaluation_result_id"))) = true
    cases hfield : fields.get? "evaluation_result_id" with
    | none => rw [hfield] at hnonEmpty; cases hnonEmpty
    | some v =>
        rw [hfield] at hnonEmpty
        cases v with
        | str s => exact hnonEmpty
        | _ => cases hnonEmpty
  have htasksRule : (FieldRule.list 1 (.record taskSnapshotFields)).admits (snapshot.get? "tasks") = true ↔
      ∀ task ∈ tasksOf snapshot, TaskBeyond task := by
    rw [htasksOf, FieldRule.admits, Option.any_some, FieldRule.accepts, Bool.and_eq_true, decide_eq_true_eq,
      List.all_eq_true, htasksEq, htwelve]
    refine (and_iff_right (by decide)).trans (forall₂_congr fun task htask => ?_)
    exact task_accepted_iff (htasks task htask) hne
  rw [ContractSchema.accepts_iff hkeys (by decide +kernel) (by decide +kernel) rfl]
  simp only [evaluationSuiteSnapshotSchema, List.forall_mem_cons, List.not_mem_nil, false_imp_iff, implies_true,
    and_true, htasksRule]
  rw [eq_const] at hid hversion hprofile
  rw [eq_admits] at haccepted hrepeated
  constructor
  · rintro ⟨-, -, -, -, -, -, -, -, -, -, -, -, -, -, -, -, -, hbeyond, -⟩
    exact hbeyond
  · intro hbeyond
    exact ⟨hid, hversion, htenantRule, hidentityRule, hsuiteRule, hprofile, hreport, h1, h2, haccepted, hrepeated,
      count_admits hcount (by decide), count_admits hpassed (Int.natCast_nonneg _),
      count_admits hfailed (Int.natCast_nonneg _), count_admits hunscored (Int.natCast_nonneg _), hresultsRule,
      capabilityFlags_accepted hflags, hbeyond, h3⟩

/-- The facts that both languages require of a snapshot, but for the hash it claims, hold of one that the console
    shows. -/
theorem suite_facts_iff (hshaped : suiteShaped snapshot = true) (hcounted : suiteCounted snapshot = true) :
    SuiteFacts sha256 snapshot ↔
      snapshot.get? "snapshot_sha256" = some (.str (canonicalSha256 sha256 snapshot ["snapshot_sha256"])) := by
  obtain ⟨tenantId, hne, htenant, htasks, htwelve, -, results, hresultsOf, hresultsEq⟩ :=
    suite_read hshaped hcounted
  simp only [suiteShaped, Bool.and_eq_true, and_assoc] at hshaped
  obtain ⟨-, -, -, -, -, -, -, -, -, -, -, -, hidentity, -, -, hcount, -⟩ := hshaped
  simp only [suiteCounted, Bool.and_eq_true, and_assoc, decide_eq_true_eq] at hcounted
  obtain ⟨hids, hresultIds, -, hpassed, hfailed, hunscored⟩ := hcounted
  rw [failed_eq] at hfailed
  constructor
  · intro h
    exact h.hash
  · intro hhash
    refine ⟨hhash, TypeScript.eq_text.mp hidentity, ?_, fun task htask => task_facts (htasks task htask) htenant, hids,
      hresultIds, ?_, ?_⟩
    · rw [htwelve]
      exact hcount
    · rw [hresultsOf, textsOf, hresultsEq, List.map_map]
      exact (List.map_id _).symm
    · simp only [claimedCounts, List.forall_mem_cons, List.not_mem_nil, false_imp_iff, implies_true, and_true]
      exact ⟨hpassed, hfailed, hunscored⟩

end Snapshot

theorem validateEvaluationSnapshot_iff {value : Json} {snapshot : JsonFields} :
    validateEvaluationSnapshot value = some snapshot ↔
      value = .obj snapshot ∧ suiteShaped snapshot = true ∧ suiteCounted snapshot = true := by
  rw [validateEvaluationSnapshot]
  cases value with
  | obj fields =>
      show (if suiteShaped fields && suiteCounted fields then some fields else none) = some snapshot ↔ _
      rw [Option.ite_none_right_eq_some, Bool.and_eq_true, Json.obj.injEq, Option.some.injEq]
      constructor
      · rintro ⟨hshown, rfl⟩
        exact ⟨rfl, hshown⟩
      · rintro ⟨rfl, hshown⟩
        exact ⟨hshown, rfl⟩
  | _ => simp [objectOf?]

end Console

/-- **Python accepts a suite that the console shows** exactly when nothing beyond the console's checks fails. -/
theorem suite_beyond_iff {schemas : List ContractSchema} (runtime : ExactRuntime schemas)
    (hmem : evaluationSuiteSnapshotSchema ∈ schemas) {sha256 : Json → String} {snapshot : JsonFields}
    (hshaped : Console.suiteShaped snapshot = true) (hcounted : Console.suiteCounted snapshot = true) :
    Python.validateEvaluationSuiteSnapshot runtime.toContractRuntime sha256 snapshot = .ok () ↔
      Console.SuiteBeyond sha256 snapshot := by
  have hid : snapshot.get? "schema_id" = some (.str evaluationSuiteSnapshotSchema.id) := by
    have hshape := hshaped
    simp only [Console.suiteShaped, Bool.and_eq_true, and_assoc] at hshape
    exact TypeScript.eq_text.mp hshape.2.1
  rw [Python.suite_iff hmem, runtime.requireSchema_iff hmem hid, Console.suite_accepts_iff hshaped hcounted,
    Console.suite_facts_iff hshaped hcounted]
  constructor
  · rintro ⟨⟨htasks, hhash⟩, hcount⟩
    exact ⟨hhash, hcount, htasks⟩
  · intro h
    exact ⟨⟨h.tasks, h.hash⟩, h.counted⟩

end WeFlow
