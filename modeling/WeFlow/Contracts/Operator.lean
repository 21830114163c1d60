import WeFlow.Contracts.Suite

/-!
# `Operator` — the snapshot of an operator case in both languages

`operator_case.py` and `index.ts` follow the timeline of a case from its intake to its replay: each entry names the
one before it, the phases come in their order, an entry is identified by the hash of its source, no gate is
failed. What the snapshot claims beside the timeline is then compared with it. The languages differ in the last
check alone: Python wants one entry of each deciding kind, TypeScript one entry of the kind with the deciding
observation.

## Contents

* `operatorCaseSnapshotSchema` — with the rules of its parts.
* `Python.validateOperatorCaseSnapshot`, `TypeScript.validateOperatorCaseSnapshot` — the validators.
* `EntryFacts`, `OperatorFacts` — what both require; `Python.operator_iff`, `TypeScript.operator_iff`.
-/

namespace WeFlow

open Txn

/-! ## Schema -/

def safeIdRule : FieldRule := .both .safeId (.textUpTo 1 200)

def safeReasons : List String :=
  ["accepted_intake", "revision_created", "case_event_recorded", "workflow_activated",
   "workflow_checkpoint_recorded", "context_compiled", "agent_action_recorded", "tool_request_recorded",
   "tool_result_recorded", "evidence_linked", "candidate_proposed", "evidence_complete", "policy_activated",
   "capability_active", "fixture_policy_allowed", "authorization_bound", "approval_requested",
   "fixture_approval_approved", "delivery_intent_recorded", "fixture_delivery_recorded",
   "verification_replay_verified", "policy_denied", "stale_approval", "reconciliation_required",
   "recovered_after_interruption", "timeout_without_duplicate_completion"]

def caseIdentityFields : FieldRules :=
  .ofList
    [("case_id", safeIdRule), ("case_revision_id", safeIdRule), ("revision", .literal (.int 1)),
     ("workflow_id", safeIdRule), ("workflow_version", .integer 1), ("latest_checkpoint_id", safeIdRule)]

def sourceReportFields : FieldRules :=
  .ofList
    [("report_id", safeIdRule), ("report_sha256", .hash false),
     ("report_profile_id", .const "fixture-local-evidence.v1"),
     ("retained_report_path", .const "reports/add-offline-operator-case-timeline-acceptance.json")]

def evidenceIdentityFields : FieldRules :=
  .ofList
    [("trajectory_id", safeIdRule), ("root_sha256", .hash false), ("timeline_source_sha256", .hash false),
     ("node_count", .range 1 127)]

def replayIdentityFields : FieldRules :=
  .ofList
    [("replay_result_id", safeIdRule), ("result_sha256", .hash false), ("report_sha256", .hash false),
     ("recorded_root_sha256", .hash false), ("replayed_root_sha256", .hash false),
     ("mode", .const "verification_replay"), ("verification_outcome", .const "verified")]

def operatorCountFields : FieldRules :=
  .ofList
    [("timeline_entry_count", .range 2 128), ("case_event_count", .integer 1),
     ("case_revision_count", .literal (.int 1)), ("workflow_checkpoint_count", .integer 1),
     ("agent_step_count", .integer 1), ("tool_result_count", .integer 1),
     ("local_ticket_effect_count", .literal (.int 2)), ("fixture_delivery_effect_count", .literal (.int 1)),
     ("evidence_node_count", .range 1 127), ("replay_result_count", .literal (.int 1))]

def operatorCapabilityFields : FieldRules :=
  .ofList
    [("offline", .literal (.bool true)), ("synthetic", .literal (.bool true)),
     ("replay_verification_only", .literal (.bool true)), ("fixture_local_delivery", .literal (.bool true)),
     ("network", .literal (.bool false)), ("model", .literal (.bool false)),
     ("live_provider", .literal (.bool false)), ("external_write", .literal (.bool false)),
     ("customer_receipt", .literal (.bool false)), ("customer_resolution", .literal (.bool false)),
     ("case_completion", .literal (.bool false)), ("approval_authority", .literal (.bool false)),
     ("workflow_authority", .literal (.bool false)), ("retry_authority", .literal (.bool false))]

def phaseOrder : List String :=
  ["intake", "case", "workflow", "investigation", "tools", "verification", "policy", "approval", "delivery",
   "replay"]

def sourcePhase : List (String × String) :=
  [("accepted_intake", "intake"), ("case_revision", "case"), ("case_event", "case"),
   ("workflow_activation", "workflow"), ("workflow_checkpoint", "workflow"),
   ("context_manifest", "investigation"), ("agent_step", "investigation"), ("tool_request", "tools"),
   ("tool_result", "tools"), ("evidence", "tools"), ("response_candidate", "verification"),
   ("verifier_outcome", "verification"), ("policy_activation", "policy"), ("capability_grant", "policy"),
   ("policy_decision", "policy"), ("authorization_binding", "policy"), ("approval_request", "approval"),
   ("approval_decision", "approval"), ("delivery_intent", "delivery"), ("delivery_completion", "delivery"),
   ("replay_result", "replay")]

def operatorStates : List String :=
  ["RECEIVED", "TICKET_READY", "INVESTIGATING", "RESPONSE_READY", "AWAITING_APPROVAL", "DELIVERING",
   "DELIVERY_RECORDED", "WAITING_FOR_OPERATOR", "NEEDS_RECONCILIATION"]

def operatorObservations : List String :=
  ["accepted", "recorded", "proposed", "verified", "allowed", "approved", "fixture_local_recorded", "denied",
   "stale", "timeout", "recovered"]

def operatorResults : List String :=
  ["recorded", "passed", "allowed", "approved", "fixture_local_recorded", "verified", "blocked"]

def gateStatuses : List String := ["not_applicable", "passed", "failed"]

def recoveryStatuses : List String := ["not_required", "reconciled", "recovered", "blocked"]

def timelineEntryFields : FieldRules :=
  .ofList
    [("sequence", .range 1 128), ("entry_id", safeIdRule), ("predecessor_entry_id", .nullable safeIdRule),
     ("phase", .enum phaseOrder), ("source_kind", .enum (sourcePhase.map (·.1))),
     ("source_id", .both .sourceId (.textUpTo 3 240)), ("source_sha256", .hash false),
     ("classification", .enum ["synthetic", "redacted"]), ("from_state", .nullable (.enum operatorStates)),
     ("to_state", .nullable (.enum operatorStates)), ("observation", .enum operatorObservations),
     ("result", .enum operatorResults), ("gate_status", .enum gateStatuses),
     ("recovery_status", .enum recoveryStatuses), ("reason_code", .enum safeReasons)]

def operatorCaseSnapshotSchema : ContractSchema where
  name := "operator-case-snapshot"
  required :=
    [("schema_id", .const (contractSchemaId "operator-case-snapshot")), ("schema_version", .const "v1"),
     ("operator_case_snapshot_id", safeIdRule), ("tenant_id", .const "tenant-alpha"),
     ("fixture_id", .const "api-503-policy-approval-delivery"),
     ("fixture_source_path", .const "fixtures/policy/api-503-policy-approval-delivery.json"),
     ("fixture_sha256", .hash false), ("case", .record caseIdentityFields),
     ("source_report", .record sourceReportFields), ("evidence", .record evidenceIdentityFields),
     ("replay", .record replayIdentityFields), ("current_state", .const "DELIVERY_RECORDED"),
     ("current_state_label", .const "DELIVERY_RECORDED (fixture-local)"),
     ("counts", .record operatorCountFields), ("capabilities", .record operatorCapabilityFields),
     ("timeline", .both (.list 2 (.record timelineEntryFields)) (.maxItems 128)),
     ("snapshot_sha256", .hash false)]
  optional := []

/-! ## What both languages read -/

def hardGateSources : List String :=
  ["verifier_outcome", "capability_grant", "policy_decision", "authorization_binding", "approval_decision"]

/-- The observation by which each of four sources decides. -/
def gateSummaries : List (String × String) :=
  [("verifier_outcome", "verified"), ("policy_decision", "allowed"), ("approval_decision", "approved"),
   ("delivery_completion", "fixture_local_recorded")]

def refusedObservations : List String := ["denied", "stale", "timeout"]

/-- `_canonical` and `canonicalJson`, hashed. -/
def valueSha256 (sha256 : Json → String) (value : Json) : String := sha256 value.canonical

/-- `operator_case_entry_id`. -/
def operatorCaseEntryId (sha256 : Json → String) (sequence : Int) (sourceKind sourceId sourceSha256 : String) :
    String :=
  "operator_entry_" ++ String.ofList ((valueSha256 sha256 (.obj (.ofList
    [("sequence", .int sequence), ("source_id", .str sourceId), ("source_kind", .str sourceKind),
     ("source_sha256", .str sourceSha256)]))).toList.take 32)

/-- `operator_case_snapshot_sha256`. -/
def operatorCaseSnapshotSha256 (sha256 : Json → String) (snapshot : JsonFields) : String :=
  canonicalSha256 sha256 snapshot ["operator_case_snapshot_id", "snapshot_sha256"]

/-- `source_id.split(":", 1)[0]`. -/
def sourceKindOf (sourceId : String) : String := String.ofList (beforeColon sourceId.toList)

/-- What a pass over the timeline keeps. -/
structure Timeline where
  sequence : Int
  priorPhase : Int
  priorEntryId : Option String
  entryIds : List String
  sourceIds : List String
  sourceKinds : List String

def Timeline.start : Timeline := ⟨1, -1, none, [], [], []⟩

/-- The place of a kind's phase. -/
def phaseRank (sourceKind : String) : Int := phaseOrder.idxOf ((sourcePhase.lookup sourceKind).getD "")

def Timeline.add (timeline : Timeline) (entry : Json) : Timeline where
  sequence := timeline.sequence + 1
  priorPhase := phaseRank (textOf (entry.get? "source_kind"))
  priorEntryId := some (textOf (entry.get? "entry_id"))
  entryIds := timeline.entryIds ++ [textOf (entry.get? "entry_id")]
  sourceIds := timeline.sourceIds ++ [textOf (entry.get? "source_id")]
  sourceKinds := timeline.sourceKinds ++ [textOf (entry.get? "source_kind")]

/-- The sources of all entries but the last, the replay. -/
def sourceMaterial (entries : List Json) : Json :=
  .arr (.ofList (entries.dropLast.map fun entry => .obj (.ofList
    [("source_id", (entry.get? "source_id").getD .null), ("source_kind", (entry.get? "source_kind").getD .null),
     ("source_sha256", (entry.get? "source_sha256").getD .null)])))

/-- The counts that a timeline determines. -/
def expectedCounts (sourceKinds : List String) : List (String × Nat) :=
  [("timeline_entry_count", sourceKinds.length),
   ("case_event_count", sourceKinds.count "accepted_intake" + sourceKinds.count "case_event"),
   ("case_revision_count", sourceKinds.count "case_revision"),
   ("workflow_checkpoint_count", sourceKinds.count "workflow_checkpoint"),
   ("agent_step_count", sourceKinds.count "agent_step"), ("tool_result_count", sourceKinds.count "tool_result"),
   ("fixture_delivery_effect_count", sourceKinds.count "delivery_completion"),
   ("evidence_node_count", sourceKinds.length - 1), ("replay_result_count", sourceKinds.count "replay_result")]

/-! ## `operator_case.py` -/

namespace Python

/-- `_invalid`. -/
def operatorInvalid (reason : String) : ContractValidationError := ⟨"operator-case-snapshot", reason⟩

section Validators

variable (runtime : ContractRuntime) (sha256 : Json → String)

/-- One entry of a timeline. -/
def checkEntry (timeline : Timeline) (value : Json) : Except ContractValidationError Timeline := do
  require value.isObject (operatorInvalid "timeline_entry_invalid")
  let sourceKind ← fetch (text? (value.get? "source_kind")) (operatorInvalid "timeline_source_invalid")
  let phase ← fetch (sourcePhase.lookup sourceKind) (operatorInvalid "timeline_source_invalid")
  let sourceId ← fetch (text? (value.get? "source_id")) (operatorInvalid "timeline_source_invalid")
  let sourceSha256 ← fetch (text? (value.get? "source_sha256")) (operatorInvalid "timeline_source_invalid")
  require (eq (value.get? "sequence") (some (.int timeline.sequence))) (operatorInvalid "timeline_sequence_invalid")
  require (eq (value.get? "predecessor_entry_id") (some (nullableText timeline.priorEntryId)))
    (operatorInvalid "timeline_predecessor_invalid")
  require (eq (value.get? "phase") (some (.str phase))) (operatorInvalid "timeline_phase_invalid")
  require (timeline.priorPhase ≤ phaseRank sourceKind) (operatorInvalid "timeline_phase_order_invalid")
  require (sourceKindOf sourceId = sourceKind) (operatorInvalid "timeline_source_identity_invalid")
  require (eq (value.get? "entry_id")
      (some (.str (operatorCaseEntryId sha256 timeline.sequence sourceKind sourceId sourceSha256))))
    (operatorInvalid "timeline_entry_identity_invalid")
  require (!(decide (sourceKind ∈ hardGateSources) && !eq (value.get? "gate_status") (some (.str "passed"))))
    (operatorInvalid "hard_gate_precedence_invalid")
  require (!(eq (value.get? "gate_status") (some (.str "failed")) ||
      eq (value.get? "result") (some (.str "blocked")) ||
      refusedObservations.any fun refused => eq (value.get? "observation") (some (.str refused))))
    (operatorInvalid "hard_gate_precedence_invalid")
  require (eq (value.get? "recovery_status") (some (.str "not_required")))
    (operatorInvalid "canonical_recovery_invalid")
  return timeline.add value

/-- Whether one entry is of a kind, with the observation by which it decides. -/
def onlyEntry (entries : List Json) (summary : String × String) : Bool :=
  match entries.filter fun entry => eq (entry.get? "source_kind") (some (.str summary.1)) with
  | [entry] => eq (entry.get? "observation") (some (.str summary.2))
  | _ => false

/-- **`validate_operator_case_snapshot`.** -/
def validateOperatorCaseSnapshot (snapshot : JsonFields) : Except ContractValidationError Unit := do
  requireSchema runtime snapshot operatorCaseSnapshotSchema
  let digest := operatorCaseSnapshotSha256 sha256 snapshot
  require (eq (snapshot.get? "snapshot_sha256") (some (.str digest))) (operatorInvalid "snapshot_sha256_mismatch")
  require (eq (snapshot.get? "operator_case_snapshot_id") (some (.str ("operator_case_snapshot_" ++ digest))))
    (operatorInvalid "snapshot_identity_mismatch")
  let caseItem ← fetch (objectOf? (snapshot.get? "case")) (operatorInvalid "snapshot_sections_invalid")
  let sourceReport ← fetch (objectOf? (snapshot.get? "source_report")) (operatorInvalid "snapshot_sections_invalid")
  let evidence ← fetch (objectOf? (snapshot.get? "evidence")) (operatorInvalid "snapshot_sections_invalid")
  let replay ← fetch (objectOf? (snapshot.get? "replay")) (operatorInvalid "snapshot_sections_invalid")
  let counts ← fetch (objectOf? (snapshot.get? "counts")) (operatorInvalid "snapshot_sections_invalid")
  let entries ← fetch (arrayOf? (snapshot.get? "timeline")) (operatorInvalid "snapshot_sections_invalid")
  require (eq (sourceReport.get? "report_sha256") (replay.get? "report_sha256") &&
      eq (evidence.get? "root_sha256") (replay.get? "recorded_root_sha256") &&
      eq (evidence.get? "root_sha256") (replay.get? "replayed_root_sha256"))
    (operatorInvalid "source_root_mismatch")
  let timeline ← entries.foldlM (checkEntry sha256) Timeline.start
  require timeline.entryIds.Nodup (operatorInvalid "timeline_entry_duplicate")
  require timeline.sourceIds.Nodup (operatorInvalid "timeline_source_duplicate")
  require (sourcePhase.all fun source => decide (source.1 ∈ timeline.sourceKinds))
    (operatorInvalid "required_source_missing")
  require (timeline.sourceKinds.getLast? = some "replay_result") (operatorInvalid "replay_not_terminal")
  require (eq (evidence.get? "timeline_source_sha256") (some (.str (valueSha256 sha256 (sourceMaterial entries)))))
    (operatorInvalid "timeline_source_sha256_mismatch")
  (expectedCounts timeline.sourceKinds).forM fun expected =>
    require (eq (counts.get? expected.1) (some (.int expected.2))) (operatorInvalid (expected.1 ++ "_mismatch"))
  require (decide ("case_revision:" ++ textOf (caseItem.get? "case_revision_id") ∈ timeline.sourceIds) &&
      decide ("workflow_checkpoint:" ++ textOf (caseItem.get? "latest_checkpoint_id") ∈ timeline.sourceIds) &&
      decide (timeline.sourceIds.getLast? = some ("replay_result:" ++ textOf (replay.get? "replay_result_id"))) &&
      eq (entries.getLast?.bind (·.get? "source_sha256")) (replay.get? "result_sha256"))
    (operatorInvalid "case_workflow_replay_link_mismatch")
  require (gateSummaries.all (onlyEntry entries)) (operatorInvalid "canonical_gate_summary_invalid")

end Validators

end Python

/-! ## `index.ts` -/

namespace TypeScript

section Validators

variable (runtime : ContractRuntime) (sha256 : Json → String)

/-- One entry of a timeline. -/
def checkEntry (timeline : Timeline) (value : Json) : Except String Timeline := do
  require value.isObject "operator-timeline-entry-invalid"
  let sourceKind ← fetch (text? (value.get? "source_kind")) "operator-timeline-source-invalid"
  let expectedPhase ← fetch (sourcePhase.lookup sourceKind) "operator-timeline-source-invalid"
  let sourceId ← fetch (text? (value.get? "source_id")) "operator-timeline-source-invalid"
  let sourceSha256 ← fetch (text? (value.get? "source_sha256")) "operator-timeline-source-invalid"
  require (eq (value.get? "sequence") (some (.int timeline.sequence)) &&
      eq (value.get? "predecessor_entry_id") (some (nullableText timeline.priorEntryId)))
    "operator-timeline-order-invalid"
  require (eq (value.get? "phase") (some (.str expectedPhase)) &&
      decide (timeline.priorPhase ≤ phaseRank sourceKind)) "operator-timeline-phase-invalid"
  require (sourceKindOf sourceId = sourceKind) "operator-source-identity-invalid"
  require (eq (value.get? "entry_id")
      (some (.str (operatorCaseEntryId sha256 timeline.sequence sourceKind sourceId sourceSha256))))
    "operator-entry-identity-invalid"
  require (!((decide (sourceKind ∈ hardGateSources) && !eq (value.get? "gate_status") (some (.str "passed"))) ||
      eq (value.get? "gate_status") (some (.str "failed")) || eq (value.get? "result") (some (.str "blocked")) ||
      decide (textOf (value.get? "observation") ∈ refusedObservations))) "operator-hard-gate-precedence-invalid"
  require (eq (value.get? "recovery_status") (some (.str "not_required"))) "operator-canonical-recovery-invalid"
  return timeline.add value

/-- `one`: whether one entry is of a kind and has an observation. -/
def onlyDecision (entries : List Json) (summary : String × String) : Bool :=
  (entries.filter fun entry => entry.isObject && eq (entry.get? "source_kind") (some (.str summary.1)) &&
    eq (entry.get? "observation") (some (.str summary.2))).length = 1

/-- **`validateOperatorCaseSnapshot`.** -/
def validateOperatorCaseSnapshot (payload : JsonFields) : Except String Unit := do
  validateExpectedSchema runtime payload operatorCaseSnapshotSchema
  let digest := operatorCaseSnapshotSha256 sha256 payload
  require (eq (payload.get? "snapshot_sha256") (some (.str digest))) "operator-snapshot-hash-mismatch"
  require (eq (payload.get? "operator_case_snapshot_id") (some (.str ("operator_case_snapshot_" ++ digest))))
    "operator-snapshot-identity-mismatch"
  let caseIdentity ← fetch (objectOf? (payload.get? "case")) "operator-snapshot-sections-invalid"
  let sourceReport ← fetch (objectOf? (payload.get? "source_report")) "operator-snapshot-sections-invalid"
  let evidence ← fetch (objectOf? (payload.get? "evidence")) "operator-snapshot-sections-invalid"
  let replay ← fetch (objectOf? (payload.get? "replay")) "operator-snapshot-sections-invalid"
  let counts ← fetch (objectOf? (payload.get? "counts")) "operator-snapshot-sections-invalid"
  let entries ← fetch (arrayOf? (payload.get? "timeline")) "operator-snapshot-sections-invalid"
  require (eq (sourceReport.get? "report_sha256") (replay.get? "report_sha256") &&
      eq (evidence.get? "root_sha256") (replay.get? "recorded_root_sha256") &&
      eq (evidence.get? "root_sha256") (replay.get? "replayed_root_sha256")) "operator-source-root-mismatch"
  let timeline ← entries.foldlM (checkEntry sha256) Timeline.start
  require timeline.entryIds.Nodup "operator-entry-duplicate"
  require timeline.sourceIds.Nodup "operator-source-duplicate"
  require ((sourcePhase.all fun source => decide (source.1 ∈ timeline.sourceKinds)) &&
      decide (timeline.sourceKinds.getLast? = some "replay_result")) "operator-required-source-missing"
  require (eq (evidence.get? "timeline_source_sha256") (some (.str (valueSha256 sha256 (sourceMaterial entries)))))
    "operator-timeline-source-hash-mismatch"
  (expectedCounts timeline.sourceKinds).forM fun expected =>
    require (eq (counts.get? expected.1) (some (.int expected.2))) ("operator-" ++ expected.1 ++ "-mismatch")
  require (decide ("case_revision:" ++ textOf (caseIdentity.get? "case_revision_id") ∈ timeline.sourceIds) &&
      decide ("workflow_checkpoint:" ++ textOf (caseIdentity.get? "latest_checkpoint_id") ∈ timeline.sourceIds) &&
      decide (timeline.sourceIds.getLast? = some ("replay_result:" ++ textOf (replay.get? "replay_result_id"))) &&
      eq (entries.getLast?.bind (·.get? "source_sha256")) (replay.get? "result_sha256")) "operator-link-mismatch"
  require (gateSummaries.all (onlyDecision entries)) "operator-gate-summary-invalid"

end Validators

end TypeScript

/-! ## One entry -/

/-- The source of an entry, as the schema shapes it. -/
def kindOf (entry : Json) : String := textOf (entry.get? "source_kind")

/-- **What both languages require of an entry**, after a timeline. -/
structure EntryFacts (sha256 : Json → String) (timeline : Timeline) (entry : Json) : Prop where
  sequence : TypeScript.eq (entry.get? "sequence") (some (.int timeline.sequence)) = true
  predecessor : entry.get? "predecessor_entry_id" = some (nullableText timeline.priorEntryId)
  phase : entry.get? "phase" = (sourcePhase.lookup (kindOf entry)).map .str
  phases : timeline.priorPhase ≤ phaseRank (kindOf entry)
  source : sourceKindOf (textOf (entry.get? "source_id")) = kindOf entry
  identity : entry.get? "entry_id" = some (.str (operatorCaseEntryId sha256 timeline.sequence (kindOf entry)
    (textOf (entry.get? "source_id")) (textOf (entry.get? "source_sha256"))))
  passed : kindOf entry ∈ hardGateSources → entry.get? "gate_status" = some (.str "passed")
  notFailed : entry.get? "gate_status" ≠ some (.str "failed")
  notBlocked : entry.get? "result" ≠ some (.str "blocked")
  notRefused : textOf (entry.get? "observation") ∉ refusedObservations
  recovery : entry.get? "recovery_status" = some (.str "not_required")

/-- The texts of an entry that are always there. -/
def entryTexts : List String := ["source_kind", "source_id", "source_sha256", "observation", "entry_id", "phase"]

structure EntryShape (entry : Json) : Prop where
  object : entry.isObject = true
  texts : ∀ field ∈ entryTexts, ∃ s, entry.get? field = some (.str s)
  sequence : ∀ v ∈ entry.get? "sequence", v.plain = true
  predecessor : ∃ v, entry.get? "predecessor_entry_id" = some v ∧ (v = .null ∨ v.plain = true)
  kind : ∃ phase, sourcePhase.lookup (kindOf entry) = some phase

theorem nullableText_eq {v : Json} {kept : Option String} :
    TypeScript.eq (some v) (some (nullableText kept)) = true ↔ v = nullableText kept := by
  cases kept with
  | none => cases v <;> simp [TypeScript.eq, nullableText, Json.strictEq, Json.number?, sameNumber]
  | some s =>
      rw [nullableText, TypeScript.eq_text, Option.some.injEq]

theorem entryShape_of_accepts {entry : Json} (h : (FieldRule.record timelineEntryFields).accepts entry = true) :
    EntryShape entry := by
  have hobject : entry.isObject = true := by
    obtain ⟨fields, rfl, -⟩ := FieldRule.record_of_accepts h
    rfl
  have htext : ∀ {field : String} {rule : FieldRule}, timelineEntryFields.rule? field = some rule →
      rule.textual = true → ∃ s, entry.get? field = some (.str s) ∧ rule.accepts (.str s) = true := by
    intro field rule hrule htextual
    obtain ⟨v, hv, haccepts⟩ := FieldRule.nested_value h hrule
    obtain ⟨s, rfl⟩ := FieldRule.text_of_accepts htextual haccepts
    exact ⟨s, hv, haccepts⟩
  obtain ⟨kind, hkind, henum⟩ := htext (show timelineEntryFields.rule? "source_kind" =
    some (.enum (sourcePhase.map (·.1))) from rfl) rfl
  obtain ⟨n, hn, hsequence⟩ := FieldRule.nested_value h
    (show timelineEntryFields.rule? "sequence" = some (.range 1 128) from rfl)
  obtain ⟨p, hp, hpredecessor⟩ := FieldRule.nested_value h
    (show timelineEntryFields.rule? "predecessor_entry_id" = some (.nullable safeIdRule) from rfl)
  refine ⟨hobject, fun field hfield => ?_, fun v hv => ?_, ⟨p, hp, ?_⟩, ?_⟩
  · simp only [entryTexts, List.mem_cons, List.not_mem_nil, or_false] at hfield
    rcases hfield with rfl | rfl | rfl | rfl | rfl | rfl
    · exact ⟨kind, hkind⟩
    · exact (htext rfl rfl).imp fun _ h => h.1
    · exact (htext rfl rfl).imp fun _ h => h.1
    · exact (htext rfl rfl).imp fun _ h => h.1
    · exact (htext rfl rfl).imp fun _ h => h.1
    · exact (htext rfl rfl).imp fun _ h => h.1
  · obtain rfl := Option.some.inj (hn.symm.trans hv)
    exact FieldRule.plain_of_accepts rfl hsequence
  · rw [FieldRule.accepts, Bool.or_eq_true, decide_eq_true_eq] at hpredecessor
    exact hpredecessor.imp (fun hnull => hnull) (FieldRule.plain_of_accepts rfl)
  · have hknown : ∀ k ∈ sourcePhase.map (·.1), (sourcePhase.lookup k).isSome = true := by decide
    rw [kindOf, hkind]
    exact Option.isSome_iff_exists.mp (hknown kind (of_decide_eq_true henum))

section Entry

variable {sha256 : Json → String} {entry : Json} {timeline timeline' : Timeline}

theorem refused_iff (h : EntryShape entry) :
    (refusedObservations.any fun refused => Python.eq (entry.get? "observation") (some (.str refused))) =
      decide (textOf (entry.get? "observation") ∈ refusedObservations) := by
  obtain ⟨s, hs⟩ := h.texts "observation" (by decide)
  rw [Bool.eq_iff_iff, hs, List.any_eq_true, decide_eq_true_eq]
  constructor
  · rintro ⟨refused, hmem, heq⟩
    obtain rfl := Json.str.inj (Option.some.inj (Python.eq_text.mp heq))
    exact hmem
  · intro hmem
    exact ⟨s, hmem, Python.eq_text.mpr rfl⟩

/-- The texts that a check of an entry reads. -/
theorem EntryShape.read (h : EntryShape entry) : ∃ sourceKind phase sourceId sourceSha256,
    text? (entry.get? "source_kind") = some sourceKind ∧ sourceKind = kindOf entry ∧
    sourcePhase.lookup sourceKind = some phase ∧ text? (entry.get? "source_id") = some sourceId ∧
    sourceId = textOf (entry.get? "source_id") ∧ text? (entry.get? "source_sha256") = some sourceSha256 ∧
    sourceSha256 = textOf (entry.get? "source_sha256") := by
  obtain ⟨kind, hkind⟩ := h.texts "source_kind" (by decide)
  obtain ⟨id, hid⟩ := h.texts "source_id" (by decide)
  obtain ⟨sha, hsha⟩ := h.texts "source_sha256" (by decide)
  obtain ⟨phase, hphase⟩ := h.kind
  have hof : kindOf entry = kind := by rw [kindOf, hkind]; rfl
  rw [hof] at hphase ⊢
  refine ⟨kind, phase, id, sha, ?_, rfl, hphase, ?_, ?_, ?_, ?_⟩
  all_goals first | rw [hkind]; rfl | rw [hid]; rfl | rw [hsha]; rfl

/-- An entry that is not refused. -/
theorem unrefused_iff {hard refused : Prop} [Decidable hard] [Decidable refused] {passed failed blocked : Bool} :
    (!((decide hard && !passed) || failed || blocked || decide refused)) = true ↔
      (hard → passed = true) ∧ failed ≠ true ∧ blocked ≠ true ∧ ¬ refused := by
  by_cases hhard : hard
  · by_cases hrefused : refused <;> cases passed <;> cases failed <;> cases blocked <;> simp [hhard, hrefused]
  · by_cases hrefused : refused <;> cases passed <;> cases failed <;> cases blocked <;> simp [hhard, hrefused]

theorem phase_iff {phase : String} (hphase : sourcePhase.lookup (kindOf entry) = some phase) :
    entry.get? "phase" = some (.str phase) ↔ entry.get? "phase" = (sourcePhase.lookup (kindOf entry)).map .str := by
  rw [hphase]
  rfl

theorem TypeScript.checkEntry_iff (h : EntryShape entry) :
    TypeScript.checkEntry sha256 timeline entry = .ok timeline' ↔
      EntryFacts sha256 timeline entry ∧ timeline' = timeline.add entry := by
  obtain ⟨sourceKind, phase, sourceId, sourceSha256, hkind, rfl, hphase, hid, rfl, hsha, rfl⟩ := h.read
  obtain ⟨p, hp, -⟩ := h.predecessor
  have hadd : (pure (timeline.add entry) : Except String Timeline) = .ok timeline' ↔
      timeline' = timeline.add entry := ⟨fun h => (Except.ok.inj h).symm, fun h => h ▸ rfl⟩
  rw [TypeScript.checkEntry, hkind, hid, hsha]
  simp only [require_bind_eq_ok, fetch_bind_eq_ok, Option.some.injEq, exists_eq_left', hphase, h.object, hadd,
    unrefused_iff, Bool.and_eq_true, decide_eq_true_eq, ne_eq, TypeScript.eq_text, hp, nullableText_eq]
  constructor
  · rintro ⟨-, ⟨hsequence, hpredecessor⟩, ⟨hentry, hphases⟩, hsource, hidentity,
      ⟨hgate, hfailed, hblocked, hrefused⟩, hrecovery, hadd⟩
    exact ⟨⟨hsequence, hp.trans (congrArg some hpredecessor), (phase_iff hphase).mp hentry, hphases, hsource,
      hidentity, hgate, hfailed, hblocked, hrefused, hrecovery⟩, hadd⟩
  · rintro ⟨hfacts, hadd⟩
    exact ⟨trivial, ⟨hfacts.sequence, Option.some.inj (hp.symm.trans hfacts.predecessor)⟩,
      ⟨(phase_iff hphase).mpr hfacts.phase, hfacts.phases⟩, hfacts.source, hfacts.identity,
      ⟨hfacts.passed, hfacts.notFailed, hfacts.notBlocked, hfacts.notRefused⟩, hfacts.recovery, hadd⟩

/-- The two checks of Python are the one of TypeScript. -/
theorem unrefused_split {a b : Bool} : ((!a) = true ∧ (!b) = true) ↔ (!(a || b)) = true := by
  cases a <;> cases b <;> simp

theorem Python.checkEntry_iff (h : EntryShape entry) :
    Python.checkEntry sha256 timeline entry = .ok timeline' ↔
      EntryFacts sha256 timeline entry ∧ timeline' = timeline.add entry := by
  obtain ⟨sourceKind, phase, sourceId, sourceSha256, hkind, rfl, hphase, hid, rfl, hsha, rfl⟩ := h.read
  obtain ⟨p, hp, hnullable⟩ := h.predecessor
  have hadd : (pure (timeline.add entry) : Except ContractValidationError Timeline) = .ok timeline' ↔
      timeline' = timeline.add entry := ⟨fun h => (Except.ok.inj h).symm, fun h => h ▸ rfl⟩
  have hsequence : Python.eq (entry.get? "sequence") (some (.int timeline.sequence)) =
      TypeScript.eq (entry.get? "sequence") (some (.int timeline.sequence)) :=
    eq_alike h.sequence fun v hv => by cases hv; rfl
  rw [Python.checkEntry, hkind, hid, hsha]
  simp only [require_bind_eq_ok, fetch_bind_eq_ok, Option.some.injEq, exists_eq_left', hphase, h.object, hadd,
    refused_iff h, decide_eq_true_eq, Python.eq_text, hp, nullableText_alike hnullable,
    nullableText_eq, hsequence]
  have hgates : ∀ {passed failed blocked : Bool},
      ((!(decide (kindOf entry ∈ hardGateSources) && !passed)) = true ∧ (!(failed || blocked ||
        decide (textOf (entry.get? "observation") ∈ refusedObservations))) = true) ↔
      (kindOf entry ∈ hardGateSources → passed = true) ∧ failed ≠ true ∧ blocked ≠ true ∧
        textOf (entry.get? "observation") ∉ refusedObservations := by
    intro passed failed blocked
    rw [unrefused_split, ← Bool.or_assoc, ← Bool.or_assoc, unrefused_iff]
  constructor
  · rintro ⟨-, hsequence, hpredecessor, hentry, hphases, hsource, hidentity, hhard, hopen, hrecovery, hadd⟩
    obtain ⟨hgate, hfailed, hblocked, hrefused⟩ := hgates.mp ⟨hhard, hopen⟩
    exact ⟨⟨hsequence, hp.trans (congrArg some hpredecessor), (phase_iff hphase).mp hentry, hphases, hsource,
      hidentity, fun hk => Python.eq_text.mp (hgate hk), fun hf => hfailed (Python.eq_text.mpr hf),
      fun hb => hblocked (Python.eq_text.mpr hb), hrefused, hrecovery⟩, hadd⟩
  · rintro ⟨hfacts, hadd⟩
    obtain ⟨hhard, hopen⟩ := hgates.mpr ⟨fun hk => Python.eq_text.mpr (hfacts.passed hk),
      fun hf => hfacts.notFailed (Python.eq_text.mp hf), fun hb => hfacts.notBlocked (Python.eq_text.mp hb),
      hfacts.notRefused⟩
    exact ⟨trivial, hfacts.sequence, Option.some.inj (hp.symm.trans hfacts.predecessor),
      (phase_iff hphase).mpr hfacts.phase, hfacts.phases, hfacts.source, hfacts.identity, hhard, hopen,
      hfacts.recovery, hadd⟩

end Entry

/-! ## The snapshot -/

def entriesOf (snapshot : JsonFields) : List Json := itemsOf (snapshot.get? "timeline")

def entryIds (entries : List Json) : List String := entries.map fun entry => textOf (entry.get? "entry_id")

def sourceIds (entries : List Json) : List String := entries.map fun entry => textOf (entry.get? "source_id")

def sourceKinds (entries : List Json) : List String := entries.map kindOf

/-- A field of one of the parts of a snapshot. -/
def partOf (snapshot : JsonFields) (part field : String) : Option Json := (snapshot.get? part).bind (·.get? field)

/-- The lists that a timeline has collected. -/
theorem Timeline.foldl_add (entries : List Json) (timeline : Timeline) :
    (entries.foldl Timeline.add timeline).entryIds = timeline.entryIds ++ WeFlow.entryIds entries ∧
      (entries.foldl Timeline.add timeline).sourceIds = timeline.sourceIds ++ WeFlow.sourceIds entries ∧
      (entries.foldl Timeline.add timeline).sourceKinds = timeline.sourceKinds ++ WeFlow.sourceKinds entries := by
  induction entries generalizing timeline with
  | nil => simp [WeFlow.entryIds, WeFlow.sourceIds, WeFlow.sourceKinds]
  | cons entry entries ih =>
      obtain ⟨hentries, hsources, hkinds⟩ := ih (timeline.add entry)
      rw [List.foldl_cons, hentries, hsources, hkinds]
      simp [Timeline.add, WeFlow.entryIds, WeFlow.sourceIds, WeFlow.sourceKinds, kindOf]

/-- **What both languages require of a snapshot.** -/
structure OperatorFacts (sha256 : Json → String) (snapshot : JsonFields) : Prop where
  hash : snapshot.get? "snapshot_sha256" = some (.str (operatorCaseSnapshotSha256 sha256 snapshot))
  identity : snapshot.get? "operator_case_snapshot_id" =
    some (.str ("operator_case_snapshot_" ++ operatorCaseSnapshotSha256 sha256 snapshot))
  report : partOf snapshot "source_report" "report_sha256" = partOf snapshot "replay" "report_sha256"
  recorded : partOf snapshot "evidence" "root_sha256" = partOf snapshot "replay" "recorded_root_sha256"
  replayed : partOf snapshot "evidence" "root_sha256" = partOf snapshot "replay" "replayed_root_sha256"
  entries : Folded (EntryFacts sha256) Timeline.add Timeline.start (entriesOf snapshot)
  entryIds : (entryIds (entriesOf snapshot)).Nodup
  sourceIds : (sourceIds (entriesOf snapshot)).Nodup
  required : ∀ source ∈ sourcePhase, source.1 ∈ sourceKinds (entriesOf snapshot)
  terminal : (sourceKinds (entriesOf snapshot)).getLast? = some "replay_result"
  material : partOf snapshot "evidence" "timeline_source_sha256" =
    some (.str (valueSha256 sha256 (sourceMaterial (entriesOf snapshot))))
  counts : ∀ expected ∈ expectedCounts (sourceKinds (entriesOf snapshot)),
    TypeScript.eq (partOf snapshot "counts" expected.1) (some (.int expected.2)) = true
  revision : "case_revision:" ++ textOf (partOf snapshot "case" "case_revision_id") ∈
    WeFlow.sourceIds (entriesOf snapshot)
  checkpoint : "workflow_checkpoint:" ++ textOf (partOf snapshot "case" "latest_checkpoint_id") ∈
    WeFlow.sourceIds (entriesOf snapshot)
  replay : (WeFlow.sourceIds (entriesOf snapshot)).getLast? =
    some ("replay_result:" ++ textOf (partOf snapshot "replay" "replay_result_id"))
  result : (entriesOf snapshot).getLast?.bind (·.get? "source_sha256") = partOf snapshot "replay" "result_sha256"
  decided : ∀ summary ∈ gateSummaries, TypeScript.onlyDecision (entriesOf snapshot) summary = true

/-- Whether one entry alone is of each deciding kind. -/
def decidesOnce (entries : List Json) : Bool :=
  gateSummaries.all fun summary => decide ((sourceKinds entries).count summary.1 = 1)

/-- **One entry of a kind, with its observation**, is the only one of the kind and the only one with both. -/
theorem onlyEntry_iff {entries : List Json} (h : ∀ entry ∈ entries, EntryShape entry) {summary : String × String} :
    Python.onlyEntry entries summary = true ↔
      TypeScript.onlyDecision entries summary = true ∧ (sourceKinds entries).count summary.1 = 1 := by
  -- the entries of the kind, for each language
  have hkind : ∀ entry ∈ entries, (Python.eq (entry.get? "source_kind") (some (.str summary.1)) = true ↔
      kindOf entry = summary.1) := by
    intro entry hentry
    obtain ⟨s, hs⟩ := (h entry hentry).texts "source_kind" (by decide)
    rw [Python.eq_text, kindOf, hs, Option.some.injEq, Json.str.injEq]
    rfl
  have hfilter : entries.filter (fun entry => Python.eq (entry.get? "source_kind") (some (.str summary.1))) =
      entries.filter fun entry => decide (kindOf entry = summary.1) :=
    List.filter_congr fun entry hentry => Bool.eq_iff_iff.mpr ((hkind entry hentry).trans decide_eq_true_iff.symm)
  have hcount : (sourceKinds entries).count summary.1 =
      (entries.filter fun entry => decide (kindOf entry = summary.1)).length := by
    rw [sourceKinds, List.count_eq_countP, List.countP_map, List.countP_eq_length_filter]
    rfl
  have hdecision : entries.filter (fun entry => entry.isObject &&
        TypeScript.eq (entry.get? "source_kind") (some (.str summary.1)) &&
        TypeScript.eq (entry.get? "observation") (some (.str summary.2))) =
      (entries.filter fun entry => decide (kindOf entry = summary.1)).filter fun entry =>
        decide (entry.get? "observation" = some (.str summary.2)) := by
    rw [List.filter_filter]
    refine List.filter_congr fun entry hentry => ?_
    rw [Bool.eq_iff_iff, (h entry hentry).object, Bool.true_and, Bool.and_eq_true, Bool.and_eq_true,
      TypeScript.eq_text, TypeScript.eq_text, decide_eq_true_eq, decide_eq_true_eq, ← hkind entry hentry,
      Python.eq_text]
    exact and_comm
  rw [Python.onlyEntry, TypeScript.onlyDecision, hfilter, hdecision, hcount, decide_eq_true_eq]
  match entries.filter fun entry => decide (kindOf entry = summary.1) with
  | [] => simp
  | [entry] =>
      rw [Python.eq_text, ← List.countP_eq_length_filter, List.countP_singleton]
      by_cases hobservation : entry.get? "observation" = some (.str summary.2)
      · simp [hobservation]
      · simp [hobservation]
  | _ :: _ :: _ => simp

section Snapshot

variable {schemas : List ContractSchema} {runtime : SchemaRuntime schemas} {sha256 : Json → String}
  {snapshot : JsonFields}

/-- A nested object of an accepted snapshot, whose fields are those of the part. -/
theorem operator_part (h : operatorCaseSnapshotSchema.accepts snapshot = true) {part : String} {fields : FieldRules}
    (hrequired : part ∈ operatorCaseSnapshotSchema.required.map (·.1))
    (hrule : operatorCaseSnapshotSchema.rule? part = some (.record fields)) :
    ∃ nested, objectOf? (snapshot.get? part) = some nested ∧ fields.accepts nested = true ∧
      ∀ field, nested.get? field = partOf snapshot part field := by
  obtain ⟨v, hv, haccepts⟩ := ContractSchema.required_value h hrequired hrule
  obtain ⟨nested, rfl, hnested⟩ := FieldRule.record_of_accepts haccepts
  refine ⟨nested, ?_, hnested, fun field => ?_⟩
  · rw [hv]; rfl
  · rw [partOf, hv]; rfl

/-- The entries of an accepted snapshot. -/
theorem operator_entries (h : operatorCaseSnapshotSchema.accepts snapshot = true) :
    arrayOf? (snapshot.get? "timeline") = some (entriesOf snapshot) ∧
      ∀ entry ∈ entriesOf snapshot, EntryShape entry := by
  obtain ⟨v, hv, haccepts⟩ := ContractSchema.required_value h (show "timeline" ∈ _ by decide) rfl
  rw [FieldRule.accepts, Bool.and_eq_true] at haccepts
  obtain ⟨items, rfl, -, hitems⟩ := FieldRule.items_of_accepts haccepts.1
  have hentries : entriesOf snapshot = items.toList := by rw [entriesOf, itemsOf, hv]; rfl
  rw [hentries, hv]
  exact ⟨rfl, fun entry hentry => entryShape_of_accepts (hitems entry hentry)⟩

/-- Texts of the parts, and the counts. -/
theorem operator_parts (h : operatorCaseSnapshotSchema.accepts snapshot = true) :
    ∃ caseItem sourceReport evidence replay counts,
      objectOf? (snapshot.get? "case") = some caseItem ∧
      objectOf? (snapshot.get? "source_report") = some sourceReport ∧
      objectOf? (snapshot.get? "evidence") = some evidence ∧ objectOf? (snapshot.get? "replay") = some replay ∧
      objectOf? (snapshot.get? "counts") = some counts ∧
      (∀ field, caseItem.get? field = partOf snapshot "case" field) ∧
      (∀ field, sourceReport.get? field = partOf snapshot "source_report" field) ∧
      (∀ field, evidence.get? field = partOf snapshot "evidence" field) ∧
      (∀ field, replay.get? field = partOf snapshot "replay" field) ∧
      (∀ field, counts.get? field = partOf snapshot "counts" field) ∧
      (∀ field ∈ ["report_sha256", "recorded_root_sha256", "replayed_root_sha256", "result_sha256"],
        ∃ s, partOf snapshot "replay" field = some (.str s)) ∧
      ∀ kinds, ∀ expected ∈ expectedCounts kinds, ∀ v ∈ partOf snapshot "counts" expected.1, v.plain = true := by
  obtain ⟨caseItem, hcase, -, hcaseOf⟩ := operator_part h (show "case" ∈ _ by decide) rfl
  obtain ⟨sourceReport, hreport, -, hreportOf⟩ := operator_part h (show "source_report" ∈ _ by decide) rfl
  obtain ⟨evidence, hevidence, -, hevidenceOf⟩ := operator_part h (show "evidence" ∈ _ by decide) rfl
  obtain ⟨replay, hreplay, hreplayFields, hreplayOf⟩ := operator_part h (show "replay" ∈ _ by decide) rfl
  obtain ⟨counts, hcounts, hcountFields, hcountsOf⟩ := operator_part h (show "counts" ∈ _ by decide) rfl
  refine ⟨caseItem, sourceReport, evidence, replay, counts, hcase, hreport, hevidence, hreplay, hcounts, hcaseOf,
    hreportOf, hevidenceOf, hreplayOf, hcountsOf, fun field hfield => ?_, fun kinds expected hexpected v hv => ?_⟩
  · rw [← hreplayOf]
    simp only [List.mem_cons, List.not_mem_nil, or_false] at hfield
    rcases hfield with rfl | rfl | rfl | rfl
    all_goals exact FieldRules.required_text hreplayFields rfl rfl
  · rw [← hcountsOf] at hv
    have hplain : ∀ {rule : FieldRule}, operatorCountFields.rule? expected.1 = some rule → rule.plain = true →
        v.plain = true := by
      intro rule hrule hrulePlain
      obtain ⟨w, hw, haccepts⟩ := FieldRules.required_value hcountFields hrule
      obtain rfl := Option.some.inj (hw.symm.trans hv)
      exact FieldRule.plain_of_accepts hrulePlain haccepts
    simp only [expectedCounts, List.mem_cons, List.not_mem_nil, or_false] at hexpected
    rcases hexpected with rfl | rfl | rfl | rfl | rfl | rfl | rfl | rfl | rfl
    all_goals exact hplain rfl rfl

/-- **A pass over the timeline** succeeds when each entry is right after those before it, with their lists. -/
theorem timeline_iff {ε : Type} {check : Timeline → Json → Except ε Timeline} {entries : List Json}
    (h : ∀ entry ∈ entries, ∀ timeline timeline',
      check timeline entry = .ok timeline' ↔ EntryFacts sha256 timeline entry ∧ timeline' = timeline.add entry) :
    ∃ final : Timeline, final.entryIds = entryIds entries ∧ final.sourceIds = sourceIds entries ∧
      final.sourceKinds = sourceKinds entries ∧
      ∀ timeline, entries.foldlM check Timeline.start = .ok timeline ↔
        Folded (EntryFacts sha256) Timeline.add Timeline.start entries ∧ timeline = final := by
  obtain ⟨hentries, hsources, hkinds⟩ := Timeline.foldl_add entries Timeline.start
  exact ⟨_, hentries, hsources, hkinds, fun timeline => foldlM_eq_ok_iff h⟩

theorem TypeScript.operator_iff (hmem : operatorCaseSnapshotSchema ∈ schemas) :
    TypeScript.validateOperatorCaseSnapshot runtime.toContractRuntime sha256 snapshot = .ok () ↔
      Python.requireSchema runtime.toContractRuntime snapshot operatorCaseSnapshotSchema = .ok () ∧
        OperatorFacts sha256 snapshot := by
  rw [TypeScript.validateOperatorCaseSnapshot, unit_bind_eq_ok, ← schema_alike]
  refine and_congr_right fun hschema => ?_
  have haccepted := runtime.accepted hschema hmem
  obtain ⟨hentries, hshapes⟩ := operator_entries haccepted
  obtain ⟨caseItem, sourceReport, evidence, replay, counts, hcase, hreport, hevidence, hreplay, hcounts, hcaseOf,
    hreportOf, hevidenceOf, hreplayOf, hcountsOf, htexts, hplain⟩ := operator_parts haccepted
  obtain ⟨final, hids, hsources, hkinds, htimeline⟩ := timeline_iff fun entry hentry timeline timeline' =>
    @TypeScript.checkEntry_iff sha256 entry timeline timeline' (hshapes entry hentry)
  have hreplayed : ∀ {field} {l : Option Json}, field ∈ ["report_sha256", "recorded_root_sha256",
      "replayed_root_sha256", "result_sha256"] →
      (TypeScript.eq l (partOf snapshot "replay" field) = true ↔ l = partOf snapshot "replay" field) := by
    intro field l hfield
    obtain ⟨s, hs⟩ := htexts field hfield
    exact (eq_iff_of_text (.inr hs)).2
  rw [hcase, hreport, hevidence, hreplay, hcounts, hentries]
  simp only [require_bind_eq_ok, fetch_bind_eq_ok, Option.some.injEq, exists_eq_left', hcaseOf, hreportOf, hevidenceOf,
    hreplayOf, hcountsOf, Bool.and_eq_true, TypeScript.eq_text, hreplayed (show "report_sha256" ∈ _ by decide),
    hreplayed (show "recorded_root_sha256" ∈ _ by decide), hreplayed (show "replayed_root_sha256" ∈ _ by decide)]
  rw [bind_eq_ok]
  simp only [htimeline, unit_bind_eq_ok, forM_require_eq_ok, require_eq_ok, Bool.and_eq_true,
    decide_eq_true_eq, List.all_eq_true, TypeScript.eq_text, hreplayed (show "result_sha256" ∈ _ by decide)]
  constructor
  · rintro ⟨hhash, hidentity, ⟨⟨hreport, hrecorded⟩, hreplayed⟩, timeline, ⟨hfolded, rfl⟩, hrest⟩
    rw [hids, hsources, hkinds] at hrest
    obtain ⟨hentryIds, hsourceIds, ⟨hrequired, hterminal⟩, hmaterial, hcounts,
      ⟨⟨⟨hrevision, hcheckpoint⟩, hreplay⟩, hresult⟩, hdecided⟩ := hrest
    exact ⟨hhash, hidentity, hreport, hrecorded, hreplayed, hfolded, hentryIds, hsourceIds, hrequired, hterminal,
      hmaterial, hcounts, hrevision, hcheckpoint, hreplay, hresult, hdecided⟩
  · intro h
    refine ⟨h.hash, h.identity, ⟨⟨h.report, h.recorded⟩, h.replayed⟩, final, ⟨h.entries, rfl⟩, ?_⟩
    rw [hids, hsources, hkinds]
    exact ⟨h.entryIds, h.sourceIds, ⟨h.required, h.terminal⟩, h.material, h.counts,
      ⟨⟨⟨h.revision, h.checkpoint⟩, h.replay⟩, h.result⟩, h.decided⟩

/-- **Python requires more of a snapshot**: that one entry alone is of each deciding kind. -/
theorem Python.operator_iff (hmem : operatorCaseSnapshotSchema ∈ schemas) :
    Python.validateOperatorCaseSnapshot runtime.toContractRuntime sha256 snapshot = .ok () ↔
      (Python.requireSchema runtime.toContractRuntime snapshot operatorCaseSnapshotSchema = .ok () ∧
        OperatorFacts sha256 snapshot) ∧ decidesOnce (entriesOf snapshot) = true := by
  rw [Python.validateOperatorCaseSnapshot, unit_bind_eq_ok, and_assoc]
  refine and_congr_right fun hschema => ?_
  have haccepted := runtime.accepted hschema hmem
  obtain ⟨hentries, hshapes⟩ := operator_entries haccepted
  obtain ⟨caseItem, sourceReport, evidence, replay, counts, hcase, hreport, hevidence, hreplay, hcounts, hcaseOf,
    hreportOf, hevidenceOf, hreplayOf, hcountsOf, htexts, hplain⟩ := operator_parts haccepted
  obtain ⟨final, hids, hsources, hkinds, htimeline⟩ := timeline_iff fun entry hentry timeline timeline' =>
    @Python.checkEntry_iff sha256 entry timeline timeline' (hshapes entry hentry)
  have hreplayed : ∀ {field} {l : Option Json}, field ∈ ["report_sha256", "recorded_root_sha256",
      "replayed_root_sha256", "result_sha256"] →
      (Python.eq l (partOf snapshot "replay" field) = true ↔ l = partOf snapshot "replay" field) := by
    intro field l hfield
    obtain ⟨s, hs⟩ := htexts field hfield
    exact (eq_iff_of_text (.inr hs)).1
  have hcount : ∀ {kinds : List String}, (∀ expected ∈ expectedCounts kinds,
        Python.eq (partOf snapshot "counts" expected.1) (some (.int expected.2)) = true) ↔
      ∀ expected ∈ expectedCounts kinds,
        TypeScript.eq (partOf snapshot "counts" expected.1) (some (.int expected.2)) = true := by
    intro kinds
    refine forall₂_congr fun expected hexpected => ?_
    rw [eq_alike (hplain kinds expected hexpected) fun v hv => by cases hv; rfl]
  have hdecides : (∀ summary ∈ gateSummaries, Python.onlyEntry (entriesOf snapshot) summary = true) ↔
      (∀ summary ∈ gateSummaries, TypeScript.onlyDecision (entriesOf snapshot) summary = true) ∧
        decidesOnce (entriesOf snapshot) = true := by
    rw [decidesOnce, List.all_eq_true]
    simp only [onlyEntry_iff hshapes, decide_eq_true_eq]
    exact ⟨fun h => ⟨fun summary hs => (h summary hs).1, fun summary hs => (h summary hs).2⟩,
      fun h summary hs => ⟨h.1 summary hs, h.2 summary hs⟩⟩
  rw [hcase, hreport, hevidence, hreplay, hcounts, hentries]
  simp only [require_bind_eq_ok, fetch_bind_eq_ok, Option.some.injEq, exists_eq_left', hcaseOf, hreportOf, hevidenceOf,
    hreplayOf, hcountsOf, Bool.and_eq_true, Python.eq_text, hreplayed (show "report_sha256" ∈ _ by decide),
    hreplayed (show "recorded_root_sha256" ∈ _ by decide), hreplayed (show "replayed_root_sha256" ∈ _ by decide)]
  rw [bind_eq_ok]
  simp only [htimeline, unit_bind_eq_ok, forM_require_eq_ok, require_eq_ok, Bool.and_eq_true,
    decide_eq_true_eq, List.all_eq_true, Python.eq_text, hreplayed (show "result_sha256" ∈ _ by decide), hcount,
    hdecides]
  constructor
  · rintro ⟨hhash, hidentity, ⟨⟨hreport, hrecorded⟩, hreplayed⟩, timeline, ⟨hfolded, rfl⟩, hrest⟩
    rw [hids, hsources, hkinds] at hrest
    obtain ⟨hentryIds, hsourceIds, hrequired, hterminal, hmaterial, hcounts,
      ⟨⟨⟨hrevision, hcheckpoint⟩, hreplay⟩, hresult⟩, hdecided, honce⟩ := hrest
    exact ⟨⟨hhash, hidentity, hreport, hrecorded, hreplayed, hfolded, hentryIds, hsourceIds, hrequired, hterminal,
      hmaterial, hcounts, hrevision, hcheckpoint, hreplay, hresult, hdecided⟩, honce⟩
  · rintro ⟨h, honce⟩
    refine ⟨h.hash, h.identity, ⟨⟨h.report, h.recorded⟩, h.replayed⟩, final, ⟨h.entries, rfl⟩, ?_⟩
    rw [hids, hsources, hkinds]
    exact ⟨h.entryIds, h.sourceIds, h.required, h.terminal, h.material, h.counts,
      ⟨⟨⟨h.revision, h.checkpoint⟩, h.replay⟩, h.result⟩, h.decided, honce⟩

end Snapshot

end WeFlow
