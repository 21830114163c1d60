import WeFlow.Contracts.Sequence

/-!
# `Evidence` — artifact, trajectory, report and replay in both languages

`evidence.py` and `index.ts` validate a trajectory of nodes, each after its predecessor, the report on it, the
replay of it and the artifact that carries the report. The checks come in another order in the two languages;
on what the schemas accept they are the same.

## Contents

* `Python.validateEvidenceChain`, `TypeScript.validateEvidenceChain` — the validators, with their parts.
* `trajectory_alike`, `report_alike`, `replay_alike`, `evidence_alike` — they judge alike.
* `chains_judged_alike` — with the folds of `Sequence`: when the languages judge all four chains alike.
-/

namespace WeFlow

open Txn

/-! ## Schemas -/

def artifactSchema : ContractSchema where
  name := "artifact"
  required :=
    [("schema_id", .const (contractSchemaId "artifact")), ("schema_version", .const "v1"),
     ("tenant_id", .text 1), ("artifact_id", .text 1), ("content_sha256", .hash true),
     ("media_type", .text 1), ("redaction_classification", .enum ["synthetic", "redacted", "restricted"]),
     ("created_at", .text 1)]
  optional :=
    [("artifact_kind", .const "evidence_report"), ("case_id", .text 1), ("case_revision_id", .text 1),
     ("workflow_id", .text 1), ("trajectory_id", .text 1),
     ("report_profile_id", .const "fixture-local-evidence.v1"), ("producer", .text 1)]

def trajectorySourceKinds : List String :=
  ["accepted_intake", "case_revision", "case_event", "workflow_activation", "workflow_checkpoint",
   "context_manifest", "agent_step", "tool_request", "tool_result", "evidence", "response_candidate",
   "verifier_outcome", "policy_activation", "capability_grant", "policy_decision", "authorization_binding",
   "approval_request", "approval_decision", "delivery_intent", "delivery_completion"]

def trajectoryNodeFields : FieldRules :=
  .ofList
    [("node_id", .text 1), ("sequence", .integer 1), ("source_kind", .enum trajectorySourceKinds),
     ("source_id", .text 1), ("predecessor_node_id", .nullable (.text 0)), ("content_sha256", .hash true),
     ("classification", .enum ["synthetic", "redacted"])]

def evidenceTrajectorySchema : ContractSchema where
  name := "evidence-trajectory"
  required :=
    [("schema_id", .const (contractSchemaId "evidence-trajectory")), ("schema_version", .const "v1"),
     ("tenant_id", .text 1), ("trajectory_id", .text 1), ("case_id", .text 1), ("case_revision_id", .text 1),
     ("workflow_id", .text 1), ("report_profile_id", .const "fixture-local-evidence.v1"),
     ("root_sha256", .hash true),
     ("nodes", .list 1 (.record trajectoryNodeFields)),
     ("created_at", .text 1)]
  optional := []

def evidenceCapabilities : FieldRules :=
  .ofList
    [("network_required", .literal (.bool false)), ("model_invocation", .literal (.bool false)),
     ("external_write", .literal (.bool false)), ("docker_required", .literal (.bool false))]

def evidenceReportSchema : ContractSchema where
  name := "evidence-report"
  required :=
    [("schema_id", .const (contractSchemaId "evidence-report")), ("schema_version", .const "v1"),
     ("tenant_id", .text 1), ("report_id", .text 1), ("artifact_id", .text 1), ("trajectory_id", .text 1),
     ("trajectory_root_sha256", .hash true), ("report_profile_id", .const "fixture-local-evidence.v1"),
     ("fixture_id", .const "api-503-policy-approval-delivery"),
     ("outcome", .enum
        ["fixture_delivery_recorded", "authorization_denied", "recovered_after_interruption",
         "needs_reconciliation", "lineage_invalid"]),
     ("failure_code", .nullable
        (.enum ["authorization_denied_grant_revoked", "lineage_invalid", "needs_reconciliation"])),
     ("node_count", .integer 0),
     ("capabilities", .record evidenceCapabilities),
     ("content_sha256", .hash true), ("created_at", .text 1)]
  optional := []

def trajectoryReplayResultSchema : ContractSchema where
  name := "trajectory-replay-result"
  required :=
    [("schema_id", .const (contractSchemaId "trajectory-replay-result")), ("schema_version", .const "v1"),
     ("tenant_id", .text 1), ("replay_result_id", .text 1), ("trajectory_id", .text 1),
     ("report_id", .text 1), ("report_sha256", .hash true), ("recorded_root_sha256", .hash true),
     ("replayed_root_sha256", .hash true), ("mode", .const "verification_replay"),
     ("verification_outcome", .enum ["verified", "lineage_invalid"]),
     ("failure_code", .nullable (.enum ["lineage_invalid"])),
     ("capabilities", .record evidenceCapabilities),
     ("result_sha256", .hash true), ("recorded_at", .text 1)]
  optional := []

def evidenceSchemas : List ContractSchema :=
  [artifactSchema, evidenceTrajectorySchema, evidenceReportSchema, trajectoryReplayResultSchema]

def artifactTrajectoryFields : List String :=
  ["tenant_id", "case_id", "case_revision_id", "workflow_id", "trajectory_id", "report_profile_id"]

def artifactReportFields : List String := ["tenant_id", "artifact_id", "trajectory_id", "report_profile_id"]

/-- `isinstance(value, list)` and `Array.isArray(value)`, with the items. -/
def arrayOf? : Option Json → Option (List Json)
  | some (.arr items) => some items.toList
  | _ => none

/-- `isinstance(value, Mapping)`. -/
def Json.isObject : Json → Bool
  | .obj _ => true
  | _ => false

/-- A text, if the value is one. -/
def text? : Option Json → Option String
  | some (.str s) => some s
  | _ => none

/-- `len(items)` and `items.length` of an array; the schemas require one wherever it is taken. -/
def lengthOf (value : Option Json) : Int := ((arrayOf? value).getD []).length

/-! ## `evidence.py` -/

namespace Python

/-- `_same`. -/
def sameCausation (left right : JsonFields) (fields : List String) (name : String) :
    Except ContractValidationError Unit :=
  fields.forM fun field => require (eq (left.get? field) (right.get? field))
    ⟨name, if field = "tenant_id" then "tenant_identity_mismatch" else "causation_mismatch"⟩

/-- Each node in its place, after the node with the identifier `previous`. -/
def causalNodes (previous : Option Json) (index : Int) : List Json → Except ContractValidationError Unit
  | [] => pure ()
  | node :: nodes => do
      require (node.isObject && eq (node.get? "sequence") (some (.int index)))
        ⟨"evidence-trajectory", "node_order_invalid"⟩
      require (eq (node.get? "predecessor_node_id") previous) ⟨"evidence-trajectory", "causal_predecessor_invalid"⟩
      causalNodes (node.get? "node_id") (index + 1) nodes

/-- `len(ids) == len(nodes)` and `len(ids) == len(set(ids))`, of a field of the nodes that are objects. -/
def identifies (nodes : List Json) (field : String) : Bool :=
  nodes.all Json.isObject && decide ((nodes.map (·.get? field)).Pairwise fun a b => eq a b = false)

section Validators

variable (runtime : ContractRuntime)

def validateArtifact (payload : JsonFields) : Except ContractValidationError Unit :=
  requireSchema runtime payload artifactSchema

/-- `validate_evidence_trajectory`. -/
def validateEvidenceTrajectory (payload : JsonFields) : Except ContractValidationError Unit := do
  requireSchema runtime payload evidenceTrajectorySchema
  requireHash runtime payload "root_sha256" "evidence-trajectory"
  let nodes ← fetch (arrayOf? (payload.get? "nodes")) ⟨"evidence-trajectory", "nodes_invalid"⟩
  require (identifies nodes "node_id") ⟨"evidence-trajectory", "duplicate_node_identity"⟩
  require (identifies nodes "source_id") ⟨"evidence-trajectory", "duplicate_source_identity"⟩
  causalNodes none 1 nodes

/-- `validate_evidence_report`, of a trajectory. -/
def validateEvidenceReport (payload trajectory : JsonFields) : Except ContractValidationError Unit := do
  requireSchema runtime payload evidenceReportSchema
  requireHash runtime payload "content_sha256" "evidence-report"
  validateEvidenceTrajectory runtime trajectory
  sameCausation payload trajectory ["tenant_id", "trajectory_id"] "evidence-report"
  require (eq (payload.get? "trajectory_root_sha256") (trajectory.get? "root_sha256"))
    ⟨"evidence-report", "trajectory_root_mismatch"⟩
  require (eq (payload.get? "node_count") (some (.int (lengthOf (trajectory.get? "nodes")))))
    ⟨"evidence-report", "node_count_mismatch"⟩

/-- `validate_trajectory_replay_result`, of a trajectory and a report. -/
def validateTrajectoryReplayResult (payload trajectory report : JsonFields) :
    Except ContractValidationError Unit := do
  requireSchema runtime payload trajectoryReplayResultSchema
  requireHash runtime payload "result_sha256" "trajectory-replay-result"
  validateEvidenceTrajectory runtime trajectory
  sameCausation payload trajectory ["tenant_id", "trajectory_id"] "trajectory-replay-result"
  require (eq (payload.get? "recorded_root_sha256") (trajectory.get? "root_sha256"))
    ⟨"trajectory-replay-result", "recorded_root_mismatch"⟩
  validateEvidenceReport runtime report trajectory
  sameCausation payload report ["tenant_id", "report_id"] "trajectory-replay-result"
  require (eq (payload.get? "report_sha256") (report.get? "content_sha256"))
    ⟨"trajectory-replay-result", "report_hash_mismatch"⟩
  let verified := eq (payload.get? "verification_outcome") (some (.str "verified"))
  require (!verified || (eq (payload.get? "recorded_root_sha256") (payload.get? "replayed_root_sha256") &&
      eq (payload.get? "failure_code") none)) ⟨"trajectory-replay-result", "replay_root_mismatch"⟩
  require (verified || eq (payload.get? "failure_code") (some (.str "lineage_invalid")))
    ⟨"trajectory-replay-result", "failure_code_invalid"⟩

/-- **`validate_evidence_chain`.** -/
def validateEvidenceChain (artifact trajectory report replayResult : JsonFields) :
    Except ContractValidationError Unit := do
  validateArtifact runtime artifact
  validateEvidenceTrajectory runtime trajectory
  validateEvidenceReport runtime report trajectory
  validateTrajectoryReplayResult runtime replayResult trajectory report
  sameCausation artifact trajectory artifactTrajectoryFields "artifact-trajectory"
  sameCausation artifact report artifactReportFields "evidence-report"
  require (eq (artifact.get? "content_sha256") (report.get? "content_sha256")) ⟨"artifact", "report_hash_mismatch"⟩

end Validators

end Python

/-! ## `index.ts` -/

namespace TypeScript

/-- Each node in its place, after the node with the identifier `previous`; its two identifiers. -/
def causalNodes (previous : Option String) (index : Int) : List Json → Except String (List (String × String))
  | [] => pure []
  | node :: nodes => do
      require (node.isObject && eq (node.get? "sequence") (some (.int (index + 1)))) "node_order_invalid"
      let nodeId ← fetch (text? (node.get? "node_id")) "node_identity_invalid"
      let sourceId ← fetch (text? (node.get? "source_id")) "node_identity_invalid"
      require (eq (node.get? "predecessor_node_id") (some (nullableText previous))) "causal_predecessor_invalid"
      let identities ← causalNodes (some nodeId) (index + 1) nodes
      return (nodeId, sourceId) :: identities

section Validators

variable (runtime : ContractRuntime)

def validateArtifact (payload : JsonFields) : Except String Unit :=
  validateExpectedSchema runtime payload artifactSchema

/-- `validateEvidenceTrajectory`. -/
def validateEvidenceTrajectory (payload : JsonFields) : Except String Unit := do
  validateExpectedSchema runtime payload evidenceTrajectorySchema
  change4ClaimedHash runtime payload "root_sha256"
  let nodes ← fetch (arrayOf? (payload.get? "nodes")) "nodes_invalid"
  let identities ← causalNodes none 0 nodes
  require ((identities.map (·.1)).Nodup ∧ (identities.map (·.2)).Nodup) "duplicate_node_or_source_identity"

/-- `validateEvidenceReport`, of a trajectory. -/
def validateEvidenceReport (payload trajectory : JsonFields) : Except String Unit := do
  validateExpectedSchema runtime payload evidenceReportSchema
  change4ClaimedHash runtime payload "content_sha256"
  validateEvidenceTrajectory runtime trajectory
  require (eq (payload.get? "tenant_id") (trajectory.get? "tenant_id") &&
      eq (payload.get? "trajectory_id") (trajectory.get? "trajectory_id") &&
      eq (payload.get? "trajectory_root_sha256") (trajectory.get? "root_sha256") &&
      eq (payload.get? "node_count") (some (.int (lengthOf (trajectory.get? "nodes")))))
    "trajectory_reference_mismatch"

/-- `validateTrajectoryReplayResult`, of a trajectory and a report. -/
def validateTrajectoryReplayResult (payload trajectory report : JsonFields) : Except String Unit := do
  validateExpectedSchema runtime payload trajectoryReplayResultSchema
  change4ClaimedHash runtime payload "result_sha256"
  require (eq (payload.get? "tenant_id") (trajectory.get? "tenant_id") &&
      eq (payload.get? "trajectory_id") (trajectory.get? "trajectory_id") &&
      eq (payload.get? "recorded_root_sha256") (trajectory.get? "root_sha256")) "recorded_root_mismatch"
  require (eq (payload.get? "tenant_id") (report.get? "tenant_id") &&
      eq (payload.get? "report_id") (report.get? "report_id") &&
      eq (payload.get? "report_sha256") (report.get? "content_sha256")) "report_reference_mismatch"
  if eq (payload.get? "verification_outcome") (some (.str "verified")) then
    require (eq (payload.get? "recorded_root_sha256") (payload.get? "replayed_root_sha256") &&
      eq (payload.get? "failure_code") (some .null)) "replay_root_mismatch"
  else require (eq (payload.get? "failure_code") (some (.str "lineage_invalid"))) "failure_code_invalid"

/-- **`validateEvidenceChain`.** -/
def validateEvidenceChain (artifact trajectory report replay : JsonFields) : Except String Unit := do
  validateArtifact runtime artifact
  validateEvidenceTrajectory runtime trajectory
  validateEvidenceReport runtime report trajectory
  validateTrajectoryReplayResult runtime replay trajectory report
  require ((artifactTrajectoryFields.all fun field => eq (artifact.get? field) (trajectory.get? field)) &&
      (artifactReportFields.all fun field => eq (artifact.get? field) (report.get? field)) &&
      eq (artifact.get? "content_sha256") (report.get? "content_sha256")) "artifact_reference_mismatch"

end Validators

end TypeScript

/-! ## Trajectories -/

variable {schemas : List ContractSchema} {runtime : SchemaRuntime schemas}
  {artifact trajectory report replay : JsonFields}

/-- What the schema says of a node as far as both languages read it. -/
structure NodeShape (node : Json) : Prop where
  object : node.isObject = true
  nodeId : ∃ s, node.get? "node_id" = some (.str s)
  sourceId : ∃ s, node.get? "source_id" = some (.str s)
  sequence : ∃ v, node.get? "sequence" = some v ∧ v.plain = true
  predecessor : ∃ v, node.get? "predecessor_node_id" = some v ∧ (v = .null ∨ v.plain = true)

theorem nodeShape_of_accepts {node : Json} (h : (FieldRule.record trajectoryNodeFields).accepts node = true) :
    NodeShape node := by
  obtain ⟨fields, rfl, hfields⟩ := FieldRule.record_of_accepts h
  have htext : ∀ {field : String}, trajectoryNodeFields.rule? field = some (.text 1) →
      ∃ s, fields.get? field = some (.str s) := by
    intro field hrule
    obtain ⟨v, hv, haccepts⟩ := FieldRules.required_value hfields hrule
    cases v with
    | str s => exact ⟨s, hv⟩
    | _ => cases haccepts
  obtain ⟨n, hn, hsequence⟩ := FieldRules.required_value hfields
    (show trajectoryNodeFields.rule? "sequence" = some (.integer 1) from rfl)
  obtain ⟨p, hp, hpredecessor⟩ := FieldRules.required_value hfields
    (show trajectoryNodeFields.rule? "predecessor_node_id" = some (.nullable (.text 0)) from rfl)
  rw [FieldRule.accepts, Bool.or_eq_true, decide_eq_true_eq] at hpredecessor
  exact ⟨rfl, htext rfl, htext rfl, ⟨n, hn, FieldRule.plain_of_accepts rfl hsequence⟩,
    ⟨p, hp, hpredecessor.imp (fun hnull => hnull) (FieldRule.plain_of_accepts rfl)⟩⟩

/-- The nodes of an accepted trajectory. -/
theorem trajectory_nodes (h : evidenceTrajectorySchema.accepts trajectory = true) :
    ∃ items, trajectory.get? "nodes" = some (.arr items) ∧ ∀ node ∈ items.toList, NodeShape node := by
  have hrequired : "nodes" ∈ evidenceTrajectorySchema.required.map (·.1) := by decide
  obtain ⟨v, hv, haccepts⟩ := ContractSchema.required_value h hrequired rfl
  cases v with
  | arr items =>
      rw [FieldRule.accepts, Bool.and_eq_true, List.all_eq_true] at haccepts
      exact ⟨items, hv, fun node hnode => nodeShape_of_accepts (haccepts.2 node hnode)⟩
  | _ => cases haccepts

/-- The two identifiers of a node. -/
def nodeIdentity (node : Json) : String × String :=
  (textOf (node.get? "node_id"), textOf (node.get? "source_id"))

/-- **The nodes are in their places alike**, and TypeScript returns their identifiers. -/
theorem causalNodes_iff {nodes : List Json} (hnodes : ∀ node ∈ nodes, NodeShape node) {previous : Option Json}
    {kept : Option String} (hprevious : previous.getD .null = nullableText kept) {index : Int}
    {identities : List (String × String)} :
    TypeScript.causalNodes kept index nodes = .ok identities ↔
      Python.causalNodes previous (index + 1) nodes = .ok () ∧ identities = nodes.map nodeIdentity := by
  induction nodes generalizing previous kept index identities with
  | nil =>
      rw [TypeScript.causalNodes, Python.causalNodes]
      constructor
      · intro h
        exact ⟨rfl, (Except.ok.inj h).symm⟩
      · rintro ⟨-, rfl⟩
        rfl
  | cons node nodes ih =>
      obtain ⟨hnode, hrest⟩ := List.forall_mem_cons.mp hnodes
      obtain ⟨nodeId, hid⟩ := hnode.nodeId
      obtain ⟨sourceId, hsource⟩ := hnode.sourceId
      obtain ⟨n, hn, hplain⟩ := hnode.sequence
      obtain ⟨p, hp, hscalar⟩ := hnode.predecessor
      have hsequence : Python.eq (some n) (some (.int (index + 1))) = TypeScript.eq (some n) (some (.int (index + 1))) :=
        nullable_alike (.inr hplain) (.inr rfl)
      have hpredecessor : Python.eq (some p) previous = TypeScript.eq (some p) (some (nullableText kept)) := by
        rw [← nullableText_alike hscalar, Python.eq, Python.eq, hprevious]
        rfl
      have hnext : (some (Json.str nodeId)).getD .null = nullableText (some nodeId) := rfl
      have hidentity : nodeIdentity node = (nodeId, sourceId) := by rw [nodeIdentity, hid, hsource]; rfl
      rw [TypeScript.causalNodes, Python.causalNodes, hid, hsource, hn, hp, hsequence, hpredecessor, List.map_cons,
        hidentity, require_bind_eq_ok, require_bind_eq_ok, require_bind_eq_ok]
      constructor
      · rintro ⟨hplace, h⟩
        obtain ⟨a, ha, h⟩ := fetch_bind_eq_ok.mp h
        obtain ⟨b, hb, h⟩ := fetch_bind_eq_ok.mp h
        obtain ⟨hcause, h⟩ := require_bind_eq_ok.mp h
        obtain ⟨rest, hloop, h⟩ := bind_eq_ok.mp h
        obtain rfl := Option.some.inj ha
        obtain rfl := Option.some.inj hb
        obtain ⟨hpython, rfl⟩ := (ih hrest hnext).mp hloop
        exact ⟨⟨hplace, hcause, hpython⟩, (Except.ok.inj h).symm⟩
      · rintro ⟨⟨hplace, hcause, hpython⟩, rfl⟩
        refine ⟨hplace, fetch_bind_eq_ok.mpr ⟨nodeId, rfl, fetch_bind_eq_ok.mpr ⟨sourceId, rfl,
          require_bind_eq_ok.mpr ⟨hcause, bind_eq_ok.mpr ⟨_, (ih hrest hnext).mpr ⟨hpython, rfl⟩, rfl⟩⟩⟩⟩⟩

/-- Texts that a field of the nodes holds are distinct alike. -/
theorem identifies_iff {nodes : List Json} (hnodes : ∀ node ∈ nodes, NodeShape node) {field : String}
    (htexts : ∀ node ∈ nodes, ∃ s, node.get? field = some (.str s)) :
    Python.identifies nodes field = true ↔ (nodes.map fun node => textOf (node.get? field)).Nodup := by
  have hobjects : nodes.all Json.isObject = true := List.all_eq_true.mpr fun node h => (hnodes node h).object
  rw [Python.identifies, hobjects, Bool.true_and, decide_eq_true_eq, List.pairwise_map, List.Nodup,
    List.pairwise_map]
  refine List.Pairwise.iff_of_mem fun {a b} ha hb => ?_
  obtain ⟨s, hs⟩ := htexts a ha
  obtain ⟨r, hr⟩ := htexts b hb
  rw [hs, hr, ← Bool.not_eq_true, Python.eq_text, Option.some.injEq, Json.str.injEq]
  rfl

/-- **Trajectories are judged alike.** -/
theorem trajectory_alike (hschemas : evidenceSchemas ⊆ schemas) (trajectory : JsonFields) :
    Alike (Python.validateEvidenceTrajectory runtime.toContractRuntime trajectory)
      (TypeScript.validateEvidenceTrajectory runtime.toContractRuntime trajectory) := by
  refine alike_bind (schema_alike _ _) fun _ hschema => alike_bind (hash_alike _ _) fun _ _ => ?_
  have haccepted := runtime.accepted hschema (hschemas (by simp [evidenceSchemas]))
  obtain ⟨items, hitems, hnodes⟩ := trajectory_nodes haccepted
  refine alike_bind (alike_fetch rfl) fun nodes hfetched => ?_
  rw [hitems] at hfetched
  obtain rfl := Option.some.inj (fetch_eq_ok.mp hfetched)
  intro u
  have hloop : ∀ {identities}, TypeScript.causalNodes none 0 items.toList = .ok identities ↔
      Python.causalNodes none 1 items.toList = .ok () ∧ identities = items.toList.map nodeIdentity :=
    fun {identities} => causalNodes_iff hnodes rfl
  rw [require_bind_eq_ok, require_bind_eq_ok, identifies_iff hnodes fun node h => (hnodes node h).nodeId,
    identifies_iff hnodes fun node h => (hnodes node h).sourceId, bind_eq_ok]
  constructor
  · rintro ⟨hids, hsources, hcausal⟩
    refine ⟨_, hloop.mpr ⟨hcausal, rfl⟩, require_eq_ok.mpr (decide_eq_true ?_)⟩
    rw [List.map_map, List.map_map]
    exact ⟨hids, hsources⟩
  · rintro ⟨identities, hcausal, hdistinct⟩
    obtain ⟨hpython, rfl⟩ := hloop.mp hcausal
    have hboth := of_decide_eq_true (require_eq_ok.mp hdistinct)
    rw [List.map_map, List.map_map] at hboth
    exact ⟨hboth.1, hboth.2, hpython⟩

/-! ## Reports and replays -/

/-- Fields whose values are strings and numbers in both records compare alike. -/
theorem fields_eq_alike {left right : JsonFields} {schema schema' : ContractSchema} (hleft : schema.accepts left = true)
    (hright : schema'.accepts right = true) {field field' : String} (hfield : schema.comparable [field] = true)
    (hfield' : schema'.comparable [field'] = true) :
    Python.eq (left.get? field) (right.get? field') = TypeScript.eq (left.get? field) (right.get? field') :=
  eq_alike (ContractSchema.plain_of_comparable hleft hfield List.mem_cons_self)
    (ContractSchema.plain_of_comparable hright hfield' List.mem_cons_self)

theorem Python.sameCausation_iff {left right : JsonFields} {fields : List String} {name : String} :
    Python.sameCausation left right fields name = .ok () ↔
      ∀ field ∈ fields, Python.eq (left.get? field) (right.get? field) = true :=
  forM_require_eq_ok

theorem report_alike (hschemas : evidenceSchemas ⊆ schemas) (report trajectory : JsonFields) :
    Alike (Python.validateEvidenceReport runtime.toContractRuntime report trajectory)
      (TypeScript.validateEvidenceReport runtime.toContractRuntime report trajectory) := by
  refine alike_bind (schema_alike _ _) fun _ hreport => alike_bind (hash_alike _ _) fun _ _ =>
    alike_bind (trajectory_alike hschemas trajectory) fun _ htrajectory => ?_
  have hr := runtime.accepted hreport (hschemas (by simp [evidenceSchemas]))
  have ht := runtime.accepted (unit_bind_eq_ok.mp htrajectory).1 (hschemas (by simp [evidenceSchemas]))
  have hcount : Python.eq (report.get? "node_count") (some (.int (lengthOf (trajectory.get? "nodes")))) =
      TypeScript.eq (report.get? "node_count") (some (.int (lengthOf (trajectory.get? "nodes")))) := by
    have hcomparable : evidenceReportSchema.comparable ["node_count"] = true := by decide
    exact eq_alike (ContractSchema.plain_of_comparable hr hcomparable List.mem_cons_self) fun v hv => by
      cases hv; rfl
  intro u
  rw [unit_bind_eq_ok, require_bind_eq_ok, require_eq_ok, require_eq_ok, Python.sameCausation_iff,
    List.forall_mem_cons, List.forall_mem_singleton, Bool.and_eq_true, Bool.and_eq_true, Bool.and_eq_true,
    fields_eq_alike hr ht (by decide) (by decide), fields_eq_alike hr ht (by decide) (by decide),
    fields_eq_alike hr ht (by decide) (by decide), hcount, and_assoc, and_assoc, and_assoc]

/-- The failure code of a replay compares alike with `null` and with its only value. -/
theorem failureCode_alike (h : trajectoryReplayResultSchema.accepts replay = true) :
    Python.eq (replay.get? "failure_code") none = TypeScript.eq (replay.get? "failure_code") (some .null) ∧
      Python.eq (replay.get? "failure_code") (some (.str "lineage_invalid")) =
        TypeScript.eq (replay.get? "failure_code") (some (.str "lineage_invalid")) := by
  have hrequired : "failure_code" ∈ trajectoryReplayResultSchema.required.map (·.1) := by decide
  obtain ⟨v, hv, hscalar⟩ := ContractSchema.nullable_value h hrequired rfl rfl
  rw [hv]
  constructor
  · exact nullable_alike hscalar (.inl rfl)
  · exact nullable_alike hscalar (.inr rfl)

theorem replay_alike (hschemas : evidenceSchemas ⊆ schemas) (replay : JsonFields)
    (htrajectory : Python.validateEvidenceTrajectory runtime.toContractRuntime trajectory = .ok ())
    (hreport : Python.validateEvidenceReport runtime.toContractRuntime report trajectory = .ok ()) :
    Alike (Python.validateTrajectoryReplayResult runtime.toContractRuntime replay trajectory report)
      (TypeScript.validateTrajectoryReplayResult runtime.toContractRuntime replay trajectory report) := by
  refine alike_bind (schema_alike _ _) fun _ hreplay => alike_bind (hash_alike _ _) fun _ _ => ?_
  have hp := runtime.accepted hreplay (hschemas (by simp [evidenceSchemas]))
  have ht := runtime.accepted (unit_bind_eq_ok.mp htrajectory).1 (hschemas (by simp [evidenceSchemas]))
  have hr := runtime.accepted (unit_bind_eq_ok.mp hreport).1 (hschemas (by simp [evidenceSchemas]))
  obtain ⟨hnull, hinvalid⟩ := failureCode_alike hp
  have hroots : Python.eq (replay.get? "recorded_root_sha256") (replay.get? "replayed_root_sha256") =
      TypeScript.eq (replay.get? "recorded_root_sha256") (replay.get? "replayed_root_sha256") :=
    fields_eq_alike hp hp (by decide) (by decide)
  have hverified : Python.eq (replay.get? "verification_outcome") (some (.str "verified")) =
      TypeScript.eq (replay.get? "verification_outcome") (some (.str "verified")) :=
    Bool.eq_iff_iff.mpr (Python.eq_text.trans TypeScript.eq_text.symm)
  intro u
  rw [unit_bind_eq_ok, unit_bind_eq_ok, require_bind_eq_ok, unit_bind_eq_ok, unit_bind_eq_ok, require_bind_eq_ok,
    require_bind_eq_ok, require_bind_eq_ok, require_bind_eq_ok, require_eq_ok, Python.sameCausation_iff,
    Python.sameCausation_iff, htrajectory, hreport, hnull, hinvalid, hroots, hverified]
  have hif : ∀ verified rootsEqual noFailure invalid : Bool,
      ((!verified || (rootsEqual && noFailure)) = true ∧ (verified || invalid) = true ↔
        (if verified = true then require (rootsEqual && noFailure) "replay_root_mismatch"
          else require invalid "failure_code_invalid") = .ok u) := by
    intro verified rootsEqual noFailure invalid
    cases verified with
    | true => simp
    | false => simp
  rw [hif, List.forall_mem_cons, List.forall_mem_singleton, List.forall_mem_cons, List.forall_mem_singleton,
    Bool.and_eq_true, Bool.and_eq_true, Bool.and_eq_true, Bool.and_eq_true,
    fields_eq_alike hp ht (by decide) (by decide), fields_eq_alike hp ht (by decide) (by decide),
    fields_eq_alike hp ht (by decide) (by decide), fields_eq_alike hp hr (by decide) (by decide),
    fields_eq_alike hp hr (by decide) (by decide), fields_eq_alike hp hr (by decide) (by decide)]
  constructor
  · rintro ⟨-, htenant, hroot, -, hreportTenant, hhash, hend⟩
    exact ⟨⟨htenant, hroot⟩, ⟨hreportTenant, hhash⟩, hend⟩
  · rintro ⟨⟨htenant, hroot⟩, ⟨hreportTenant, hhash⟩, hend⟩
    exact ⟨rfl, htenant, hroot, rfl, hreportTenant, hhash, hend⟩

/-! ## The chain -/

/-- **Evidence chains are judged alike.** -/
theorem evidence_alike (hschemas : evidenceSchemas ⊆ schemas) (artifact trajectory report replay : JsonFields) :
    Alike (Python.validateEvidenceChain runtime.toContractRuntime artifact trajectory report replay)
      (TypeScript.validateEvidenceChain runtime.toContractRuntime artifact trajectory report replay) := by
  refine alike_bind (schema_alike _ _) fun _ hartifact => alike_bind (trajectory_alike hschemas trajectory)
    fun _ htrajectory => alike_bind (report_alike hschemas report trajectory) fun _ hreport =>
      alike_bind (replay_alike hschemas replay htrajectory hreport) fun _ _ => ?_
  have ha := runtime.accepted hartifact (hschemas (by simp [evidenceSchemas]))
  have ht := runtime.accepted (unit_bind_eq_ok.mp htrajectory).1 (hschemas (by simp [evidenceSchemas]))
  have hr := runtime.accepted (unit_bind_eq_ok.mp hreport).1 (hschemas (by simp [evidenceSchemas]))
  have hat : ∀ field ∈ artifactTrajectoryFields, Python.eq (artifact.get? field) (trajectory.get? field) =
      TypeScript.eq (artifact.get? field) (trajectory.get? field) := fun field hfield =>
    eq_alike (ContractSchema.plain_of_comparable ha (by decide) hfield)
      (ContractSchema.plain_of_comparable ht (by decide) hfield)
  have har : ∀ field ∈ artifactReportFields, Python.eq (artifact.get? field) (report.get? field) =
      TypeScript.eq (artifact.get? field) (report.get? field) := fun field hfield =>
    eq_alike (ContractSchema.plain_of_comparable ha (by decide) hfield)
      (ContractSchema.plain_of_comparable hr (by decide) hfield)
  intro u
  rw [unit_bind_eq_ok, unit_bind_eq_ok, Python.sameCausation_iff, Python.sameCausation_iff, require_eq_ok,
    require_eq_ok, Bool.and_eq_true, Bool.and_eq_true, List.all_eq_true, List.all_eq_true, and_assoc,
    fields_eq_alike ha hr (by decide) (by decide)]
  refine and_congr ?_ (and_congr ?_ Iff.rfl)
  · exact forall₂_congr fun field hfield => by rw [hat field hfield]
  · exact forall₂_congr fun field hfield => by rw [har field hfield]

/-- The records of a chain are of one tenant, and those with a workflow of one workflow. -/
def OneEvidence (artifact trajectory report replay : JsonFields) : Prop :=
  (∀ record ∈ [trajectory, report, replay], record.get? "tenant_id" = artifact.get? "tenant_id") ∧
    trajectory.get? "workflow_id" = artifact.get? "workflow_id"

theorem evidence_owned (hschemas : evidenceSchemas ⊆ schemas)
    (h : Python.validateEvidenceChain runtime.toContractRuntime artifact trajectory report replay = .ok ()) :
    OneEvidence artifact trajectory report replay := by
  simp only [Python.validateEvidenceChain, unit_bind_eq_ok, Python.sameCausation_iff] at h
  obtain ⟨-, htrajectory, hreport, hreplay, hat, har, -⟩ := h
  simp only [Python.validateTrajectoryReplayResult, unit_bind_eq_ok, Python.sameCausation_iff] at hreplay
  obtain ⟨-, -, -, hpt, -⟩ := hreplay
  have ht := runtime.accepted (unit_bind_eq_ok.mp htrajectory).1 (hschemas (by simp [evidenceSchemas]))
  have hr := runtime.accepted (unit_bind_eq_ok.mp hreport).1 (hschemas (by simp [evidenceSchemas]))
  obtain ⟨t, htenant, -⟩ := ContractSchema.text_value ht (show "tenant_id" ∈ _ by decide) rfl
  obtain ⟨w, hworkflow, -⟩ := ContractSchema.text_value ht (show "workflow_id" ∈ _ by decide) rfl
  obtain ⟨t', htenant', -⟩ := ContractSchema.text_value hr (show "tenant_id" ∈ _ by decide) rfl
  have hartifact := hat "tenant_id" (by decide)
  have hartifact' := har "tenant_id" (by decide)
  have howned := hat "workflow_id" (by decide)
  have hreplayed := hpt "tenant_id" (by decide)
  rw [htenant, Python.eq_text] at hartifact hreplayed
  rw [htenant', Python.eq_text] at hartifact'
  rw [hworkflow, Python.eq_text] at howned
  refine ⟨?_, hworkflow.trans howned.symm⟩
  intro record hrecord
  simp only [List.mem_cons, List.not_mem_nil, or_false] at hrecord
  rcases hrecord with rfl | rfl | rfl
  · exact htenant.trans hartifact.symm
  · exact htenant'.trans hartifact'.symm
  · exact hreplayed.trans hartifact.symm

/-! ## All four chains -/

/-- Both languages answer alike about checkpoints, and neither accepts checkpoints of two workflows. -/
def SequenceJudgedAlike (runtime : ContractRuntime) (checkpoints : List JsonFields) : Prop :=
  let python := Python.validateCheckpointSequence runtime checkpoints
  let typeScript := TypeScript.validateCheckpointSequence runtime checkpoints
  (typeScript = .ok () ↔ python = .ok ()) ∧ (typeScript = .ok () ∨ python = .ok () → OneWorkflow checkpoints)

/-- Both languages answer alike about intents, and neither accepts intents of two workflows. -/
def IntentsJudgedAlike (runtime : ContractRuntime) (intents : List JsonFields) : Prop :=
  let python := Python.validateSideEffectIntents runtime intents
  let typeScript := TypeScript.validateSideEffectIntents runtime intents
  (typeScript = .ok () ↔ python = .ok ()) ∧ (typeScript = .ok () ∨ python = .ok () → OneWorkflow intents)

/-- **The languages judge chains alike** exactly when no records that pass everything else are of different
    workflows with one joined text; effect chains and evidence chains they always judge alike. -/
theorem chains_judged_alike (runtime : SchemaRuntime (workflowSchemas ++ evidenceSchemas)) :
    (∀ checkpoints, SequenceJudgedAlike runtime.toContractRuntime checkpoints ↔
      (InOrder runtime.toContractRuntime checkpoints → OneText checkpoints → OneWorkflow checkpoints)) ∧
    (∀ intents, IntentsJudgedAlike runtime.toContractRuntime intents ↔
      (Unrepeated runtime.toContractRuntime intents → OneText intents → OneWorkflow intents)) ∧
    (∀ intent observations completions,
      (TypeScript.validateSideEffectChain runtime.toContractRuntime intent observations completions = .ok () ↔
        Python.validateSideEffectChain runtime.toContractRuntime intent observations completions = .ok ()) ∧
      (Python.validateSideEffectChain runtime.toContractRuntime intent observations completions = .ok () →
        ∀ record ∈ observations ++ completions, RefersTo intent record)) ∧
    ∀ artifact trajectory report replay,
      (TypeScript.validateEvidenceChain runtime.toContractRuntime artifact trajectory report replay = .ok () ↔
        Python.validateEvidenceChain runtime.toContractRuntime artifact trajectory report replay = .ok ()) ∧
      (Python.validateEvidenceChain runtime.toContractRuntime artifact trajectory report replay = .ok () →
        OneEvidence artifact trajectory report replay) := by
  have hw : workflowSchemas ⊆ workflowSchemas ++ evidenceSchemas := List.subset_append_left _ _
  have he : evidenceSchemas ⊆ workflowSchemas ++ evidenceSchemas := List.subset_append_right _ _
  -- facts that both languages require, with the identity as one or the other keeps it
  have hjudged : ∀ {Facts One Text : Prop}, (One → Text) →
      (((Facts ∧ Text ↔ Facts ∧ One) ∧ (Facts ∧ Text ∨ Facts ∧ One → One)) ↔ (Facts → Text → One)) := by
    intro Facts One Text hfine
    constructor
    · rintro ⟨-, hone⟩ hfacts htext
      exact hone (.inl ⟨hfacts, htext⟩)
    · intro hone
      refine ⟨⟨fun h => ⟨h.1, hone h.1 h.2⟩, fun h => ⟨h.1, hfine h.2⟩⟩, ?_⟩
      rintro (h | h)
      · exact hone h.1 h.2
      · exact h.2
  refine ⟨fun checkpoints => ?_, fun intents => ?_, fun intent observations completions => ?_,
    fun artifact trajectory report replay => ?_⟩
  · rw [SequenceJudgedAlike, Python.sequence_iff, TypeScript.sequence_iff hw]
    exact hjudged OneWorkflow.oneText
  · rw [IntentsJudgedAlike, Python.intents_iff, TypeScript.intents_iff]
    exact hjudged OneWorkflow.oneText
  · exact ⟨(effectChain_alike hw intent observations completions ()).symm, effectChain_refers hw⟩
  · exact ⟨(evidence_alike he artifact trajectory report replay ()).symm, evidence_owned he⟩

/-! ## Two tenants in one chain -/

/-- A checkpoint of a tenant and a case; the rest is as short as it can be. -/
def zeroCheckpoint (tenantId caseId checkpointId : String) (sequence : Int) (previous : Json) : JsonFields :=
  .ofList
    [("schema_id", .str workflowCheckpointSchema.id), ("schema_version", .str "v1"), ("tenant_id", .str tenantId),
     ("case_id", .str caseId), ("case_revision_id", .str "r"), ("workflow_id", .str "w"),
     ("workflow_definition_version", .str "v"), ("checkpoint_id", .str checkpointId),
     ("checkpoint_sequence", .int sequence), ("previous_checkpoint_id", previous),
     ("current_state", .str "RECEIVED"), ("resume_state", .str "RECEIVED"), ("workflow_version", .int sequence),
     ("sla_deadline_at", .str "t"), ("pending_intent_ids", .arr .nil), ("completed_intent_ids", .arr .nil),
     ("causation_event_id", .null), ("correlation_id", .str "c"),
     ("content_sha256", .str "0000000000000000000000000000000000000000000000000000000000000000"),
     ("created_at", .str "t")]

/-- The second checkpoint is another tenant's; a zero character stands where the texts are joined. -/
def zeroChain : List JsonFields :=
  [zeroCheckpoint "a" "b\x00c" "k1" 1 .null, zeroCheckpoint "a\x00b" "c" "k2" 2 (.str "k1")]

def zeroRuntime : SchemaRuntime (workflowSchemas ++ evidenceSchemas) :=
  schemaRuntime _ (fun _ => "") (fun _ => none)

/-- TypeScript accepts a chain of checkpoints of two tenants. -/
theorem zero_judged_apart :
    TypeScript.validateCheckpointSequence zeroRuntime.toContractRuntime zeroChain = .ok () ∧
      Python.validateCheckpointSequence zeroRuntime.toContractRuntime zeroChain =
        .error ⟨"workflow-checkpoint", "workflow_identity_mismatch"⟩ ∧
      ¬ SequenceJudgedAlike zeroRuntime.toContractRuntime zeroChain := by
  have htypeScript : TypeScript.validateCheckpointSequence zeroRuntime.toContractRuntime zeroChain = .ok () := by
    decide +kernel
  have hpython : Python.validateCheckpointSequence zeroRuntime.toContractRuntime zeroChain =
      .error ⟨"workflow-checkpoint", "workflow_identity_mismatch"⟩ := by decide +kernel
  refine ⟨htypeScript, hpython, fun h => ?_⟩
  have haccepted := h.1.mp htypeScript
  rw [hpython] at haccepted
  cases haccepted

end WeFlow
