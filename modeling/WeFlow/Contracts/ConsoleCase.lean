import WeFlow.Contracts.Console

/-!
# `ConsoleCase` — what the web console shows of an operator case

`operator-case.ts` checks the shape of a snapshot, goes through its timeline once and then compares the hashes. It
takes longer ids than the schema does, reads the gate of an entry through `String(..)`, and looks for a deciding
entry by its kind and observation together. `OperatorBeyond` lists what remains of Python's validator; with
`Console` this module says when the console shows only what the contract accepts.

## Contents

* `Console.validateOperatorCaseSnapshot` — the validator of `operator-case.ts`, with its predicates.
* `operator_beyond_iff` — what Python requires of a snapshot that the console shows.
* `console_within_contract` — both snapshots.
-/

namespace WeFlow

open Txn

/-! ## `operator-case.ts` -/

namespace Console

open TypeScript (eq)

mutual

/-- `String(value)`, but for numbers, whose digits are compared with nothing. -/
def stringOf : Json → Option String
  | .null => some "null"
  | .bool b => some (if b then "true" else "false")
  | .int _ | .float _ => none
  | .str s => some s
  | .arr items => joined items
  | .obj _ => some "[object Object]"

/-- `items.join(",")`, where `null` is the empty text. -/
def joined : JsonItems → Option String
  | .nil => some ""
  | .cons .null .nil => some ""
  | .cons head .nil => stringOf head
  | .cons .null tail => (joined tail).map fun rest => "," ++ rest
  | .cons head tail => (stringOf head).bind fun first => (joined tail).map fun rest => first ++ "," ++ rest

end

def isId : Option Json → Bool
  | some (.str value) => 0 < value.toList.length && value.toList.length ≤ 240 && isSafeId value.toList
  | _ => false

def digest : Option Json → Bool
  | some (.str value) => value.toList.length = 64 && value.toList.all (isHashDigit false)
  | _ => false

def integer (value : Option Json) : Bool := integerFrom 0 value

def capabilityShape (value : Option Json) : Bool :=
  (objectOf? value).any fun item =>
    hasExactKeys item ["approval_authority", "case_completion", "customer_receipt", "customer_resolution",
      "external_write", "fixture_local_delivery", "live_provider", "model", "network", "offline",
      "replay_verification_only", "retry_authority", "synthetic", "workflow_authority"] &&
    ["offline", "synthetic", "replay_verification_only", "fixture_local_delivery"].all (fun field =>
      eq (item.get? field) (some (.bool true))) &&
    ["network", "model", "live_provider", "external_write", "customer_receipt", "customer_resolution",
      "case_completion", "approval_authority", "workflow_authority", "retry_authority"].all fun field =>
      eq (item.get? field) (some (.bool false))

def caseShape (caseItem : JsonFields) : Bool :=
  hasExactKeys caseItem ["case_id", "case_revision_id", "latest_checkpoint_id", "revision", "workflow_id",
    "workflow_version"] &&
  isId (caseItem.get? "case_id") && isId (caseItem.get? "case_revision_id") &&
  eq (caseItem.get? "revision") (some (.int 1)) && isId (caseItem.get? "workflow_id") &&
  integerFrom 1 (caseItem.get? "workflow_version") && isId (caseItem.get? "latest_checkpoint_id")

def reportShape (report : JsonFields) : Bool :=
  hasExactKeys report ["report_id", "report_profile_id", "report_sha256", "retained_report_path"] &&
  isId (report.get? "report_id") && digest (report.get? "report_sha256") &&
  eq (report.get? "report_profile_id") (some (.str "fixture-local-evidence.v1")) &&
  eq (report.get? "retained_report_path") (some (.str "reports/add-offline-operator-case-timeline-acceptance.json"))

def evidenceShape (evidence : JsonFields) : Bool :=
  hasExactKeys evidence ["node_count", "root_sha256", "timeline_source_sha256", "trajectory_id"] &&
  isId (evidence.get? "trajectory_id") && digest (evidence.get? "root_sha256") &&
  digest (evidence.get? "timeline_source_sha256") && integerWithin 1 127 (evidence.get? "node_count")

def replayShape (replay : JsonFields) : Bool :=
  hasExactKeys replay ["mode", "recorded_root_sha256", "replay_result_id", "replayed_root_sha256", "report_sha256",
    "result_sha256", "verification_outcome"] &&
  isId (replay.get? "replay_result_id") && digest (replay.get? "result_sha256") &&
  digest (replay.get? "report_sha256") && digest (replay.get? "recorded_root_sha256") &&
  digest (replay.get? "replayed_root_sha256") && eq (replay.get? "mode") (some (.str "verification_replay")) &&
  eq (replay.get? "verification_outcome") (some (.str "verified"))

def countShape (counts : JsonFields) : Bool :=
  hasExactKeys counts ["agent_step_count", "case_event_count", "case_revision_count", "evidence_node_count",
    "fixture_delivery_effect_count", "local_ticket_effect_count", "replay_result_count", "timeline_entry_count",
    "tool_result_count", "workflow_checkpoint_count"] &&
  counts.toList.all (fun entry => integer (some entry.2)) && eq (counts.get? "case_revision_count") (some (.int 1)) &&
  eq (counts.get? "local_ticket_effect_count") (some (.int 2)) &&
  eq (counts.get? "fixture_delivery_effect_count") (some (.int 1)) &&
  eq (counts.get? "replay_result_count") (some (.int 1))

def nestedShapes (snapshot : JsonFields) : Bool :=
  (objectOf? (snapshot.get? "case")).any caseShape && (objectOf? (snapshot.get? "source_report")).any reportShape &&
  (objectOf? (snapshot.get? "evidence")).any evidenceShape && (objectOf? (snapshot.get? "replay")).any replayShape &&
  (objectOf? (snapshot.get? "counts")).any countShape

def entryKeys : List String :=
  ["classification", "entry_id", "from_state", "gate_status", "observation", "phase", "predecessor_entry_id",
   "reason_code", "recovery_status", "result", "sequence", "source_id", "source_kind", "source_sha256", "to_state"]

def entryShape (value : Json) : Bool :=
  (objectOf? (some value)).any fun item =>
    hasExactKeys item entryKeys && integerFrom 1 (item.get? "sequence") && isId (item.get? "entry_id") &&
    (eq (item.get? "predecessor_entry_id") (some .null) || isId (item.get? "predecessor_entry_id")) &&
    (text? (item.get? "source_kind")).any (fun kind =>
      (sourcePhase.lookup kind).any (fun phase => eq (item.get? "phase") (some (.str phase))) &&
      (text? (item.get? "source_id")).any fun sourceId =>
        isSourceId sourceId.toList && decide (sourceKindOf sourceId = kind)) &&
    digest (item.get? "source_sha256") &&
    (eq (item.get? "classification") (some (.str "synthetic")) ||
      eq (item.get? "classification") (some (.str "redacted"))) &&
    (eq (item.get? "from_state") (some .null) || named operatorStates (item.get? "from_state")) &&
    (eq (item.get? "to_state") (some .null) || named operatorStates (item.get? "to_state")) &&
    named operatorObservations (item.get? "observation") && named operatorResults (item.get? "result") &&
    ((item.get? "gate_status").bind stringOf).any (fun text => text ∈ gateStatuses) &&
    ((item.get? "recovery_status").bind stringOf).any (fun text => text ∈ recoveryStatuses) &&
    named safeReasons (item.get? "reason_code")

def topKeys : List String :=
  ["capabilities", "case", "counts", "current_state", "current_state_label", "evidence", "fixture_id",
   "fixture_sha256", "fixture_source_path", "operator_case_snapshot_id", "replay", "schema_id", "schema_version",
   "snapshot_sha256", "source_report", "tenant_id", "timeline"]

/-- The first check of `validateOperatorCaseSnapshotShape`. -/
def caseShaped (snapshot : JsonFields) : Bool :=
  hasExactKeys snapshot topKeys && eq (snapshot.get? "schema_id") (some (.str operatorCaseSnapshotSchema.id)) &&
  eq (snapshot.get? "schema_version") (some (.str "v1")) && eq (snapshot.get? "tenant_id") (some (.str "tenant-alpha")) &&
  eq (snapshot.get? "fixture_id") (some (.str "api-503-policy-approval-delivery")) &&
  eq (snapshot.get? "fixture_source_path") (some (.str "fixtures/policy/api-503-policy-approval-delivery.json")) &&
  digest (snapshot.get? "fixture_sha256") && isId (snapshot.get? "operator_case_snapshot_id") &&
  digest (snapshot.get? "snapshot_sha256") && eq (snapshot.get? "current_state") (some (.str "DELIVERY_RECORDED")) &&
  eq (snapshot.get? "current_state_label") (some (.str "DELIVERY_RECORDED (fixture-local)")) &&
  nestedShapes snapshot && capabilityShape (snapshot.get? "capabilities") &&
  (arrayOf? (snapshot.get? "timeline")).any fun timeline =>
    decide (2 ≤ timeline.length) && decide (timeline.length ≤ 128) && timeline.all entryShape

/-- One turn of the loop over the timeline. -/
def inOrder (timeline : Timeline) (entry : Json) : Bool :=
  eq (entry.get? "sequence") (some (.int timeline.sequence)) &&
  eq (entry.get? "predecessor_entry_id") (some (nullableText timeline.priorEntryId)) &&
  decide (timeline.priorPhase ≤ phaseOrder.idxOf (textOf (entry.get? "phase"))) &&
  !((decide (kindOf entry ∈ hardGateSources) && !eq (entry.get? "gate_status") (some (.str "passed"))) ||
    eq (entry.get? "gate_status") (some (.str "failed")) || eq (entry.get? "result") (some (.str "blocked")) ||
    decide (textOf (entry.get? "observation") ∈ refusedObservations)) &&
  eq (entry.get? "recovery_status") (some (.str "not_required"))

def allInOrder (timeline : Timeline) : List Json → Bool
  | [] => true
  | entry :: rest =>
      inOrder timeline entry && allInOrder
        { timeline.add entry with priorPhase := phaseOrder.idxOf (textOf (entry.get? "phase")) } rest

/-- Whether one entry has a kind and an observation. -/
def one (entries : List Json) (summary : String × String) : Bool :=
  (entries.filter fun entry => eq (entry.get? "source_kind") (some (.str summary.1)) &&
    eq (entry.get? "observation") (some (.str summary.2))).length = 1

/-- What `validateOperatorCaseSnapshotShape` checks after the loop. -/
def caseLinked (snapshot : JsonFields) : Bool :=
  let entries := entriesOf snapshot
  let kinds := sourceKinds entries
  (entryIds entries).Nodup && (sourceIds entries).Nodup && (sourcePhase.all fun source => decide (source.1 ∈ kinds)) &&
  decide (kinds.getLast? = some "replay_result") &&
  eq (partOf snapshot "source_report" "report_sha256") (partOf snapshot "replay" "report_sha256") &&
  eq (partOf snapshot "evidence" "root_sha256") (partOf snapshot "replay" "recorded_root_sha256") &&
  eq (partOf snapshot "evidence" "root_sha256") (partOf snapshot "replay" "replayed_root_sha256") &&
  decide ("case_revision:" ++ textOf (partOf snapshot "case" "case_revision_id") ∈ sourceIds entries) &&
  decide ("workflow_checkpoint:" ++ textOf (partOf snapshot "case" "latest_checkpoint_id") ∈ sourceIds entries) &&
  decide ((sourceIds entries).getLast? =
    some ("replay_result:" ++ textOf (partOf snapshot "replay" "replay_result_id"))) &&
  eq (entries.getLast?.bind (·.get? "source_sha256")) (partOf snapshot "replay" "result_sha256") &&
  ((expectedCounts kinds).all fun expected =>
    eq (partOf snapshot "counts" expected.1) (some (.int expected.2))) &&
  gateSummaries.all (one entries)

/-- **`validateOperatorCaseSnapshotShape`.** -/
def validateOperatorCaseSnapshotShape (value : Json) : Option JsonFields :=
  match objectOf? (some value) with
  | none => none
  | some snapshot =>
      if caseShaped snapshot && allInOrder Timeline.start (entriesOf snapshot) && caseLinked snapshot then some snapshot
      else none

section Hashes

variable (sha256 : Json → String)

/-- Whether an entry is named after the hash of its source. -/
def entryHashed (entry : Json) : Bool :=
  let hash := valueSha256 sha256 (.obj (.ofList
    [("sequence", (entry.get? "sequence").getD .null), ("source_id", (entry.get? "source_id").getD .null),
     ("source_kind", (entry.get? "source_kind").getD .null),
     ("source_sha256", (entry.get? "source_sha256").getD .null)]))
  eq (entry.get? "entry_id") (some (.str ("operator_entry_" ++ String.ofList (hash.toList.take 32))))

def caseHashed (snapshot : JsonFields) : Bool :=
  (entriesOf snapshot).all (entryHashed sha256) &&
  eq (partOf snapshot "evidence" "timeline_source_sha256")
    (some (.str (valueSha256 sha256 (sourceMaterial (entriesOf snapshot))))) &&
  (let hash := operatorCaseSnapshotSha256 sha256 snapshot
   eq (snapshot.get? "snapshot_sha256") (some (.str hash)) &&
   eq (snapshot.get? "operator_case_snapshot_id") (some (.str ("operator_case_snapshot_" ++ hash))))

/-- **`validateOperatorCaseSnapshot`.** -/
def validateOperatorCaseSnapshot (value : Json) : Option JsonFields :=
  match validateOperatorCaseSnapshotShape value with
  | none => none
  | some snapshot => if caseHashed sha256 snapshot then some snapshot else none

end Hashes

end Console

/-! ## The predicates and the rules -/

namespace Console

open TypeScript (eq)

section Predicates

variable {value : Option Json}

theorem digest_admits : digest value = (FieldRule.hash false).admits value := by
  cases value with
  | none => rfl
  | some v => cases v <;> simp [digest, FieldRule.admits, FieldRule.accepts]

/-- **An id of the console** is one of the schema when it is no longer than two hundred characters. -/
theorem isId_admits (h : isId value = true) :
    safeIdRule.admits value = true ↔ (textOf value).toList.length ≤ 200 := by
  match value with
  | some (.str s) =>
      simp only [isId, Bool.and_eq_true, decide_eq_true_eq] at h
      simp only [safeIdRule, FieldRule.textUpTo, FieldRule.admits, Option.any_some, FieldRule.accepts, Bool.and_eq_true,
        decide_eq_true_eq, h.2, true_and, textOf]
      exact and_iff_right h.1.1
  | none | some .null | some (.bool _) | some (.int _) | some (.float _) | some (.arr _) | some (.obj _) => cases h

/-- A source id has a kind, a colon and a name. -/
theorem three_le_of_isSourceId {cs : List Char} (h : isSourceId cs = true) : 3 ≤ cs.length := by
  simp only [isSourceId, Bool.and_eq_true, Bool.not_eq_true'] at h
  obtain ⟨⟨hkind, -⟩, hrest⟩ := h
  have hone : 1 ≤ (beforeColon cs).length := by
    cases hcs : beforeColon cs with
    | nil => rw [hcs] at hkind; cases hkind
    | cons c rest => exact Nat.succ_le_succ (Nat.zero_le _)
  have htwo : 2 ≤ (cs.drop (beforeColon cs).length).length := by
    cases hdrop : cs.drop (beforeColon cs).length with
    | nil => rw [hdrop] at hrest; cases hrest
    | cons c rest =>
        rw [hdrop] at hrest
        cases rest with
        | nil => cases hrest
        | cons d rest => exact Nat.succ_le_succ (Nat.succ_le_succ (Nat.zero_le _))
  rw [List.length_drop] at htwo
  omega

theorem range_admits {n least most : Int} (h : eq value (some (.int n)) = true) (hleast : least ≤ n) (hmost : n ≤ most) :
    (FieldRule.range least most).admits value = true := by
  rw [← integerWithin_admits, integerWithin, whole_of_eq h]
  exact Bool.and_eq_true _ _ ▸ ⟨decide_eq_true hleast, decide_eq_true hmost⟩

theorem text?_eq {s : String} : text? value = some s ↔ value = some (.str s) := by
  cases value with
  | none => simp [text?]
  | some v => cases v <;> simp [text?]

theorem mem_of_lookup {key phase : String} {known : List (String × String)} (h : known.lookup key = some phase) :
    (key, phase) ∈ known := by
  obtain ⟨before, after, rfl, -⟩ := List.lookup_eq_some_iff.mp h
  exact List.mem_append_right _ List.mem_cons_self

theorem nullable_admits {rule : FieldRule} (h : (eq value (some .null) || rule.admits value) = true) :
    (FieldRule.nullable rule).admits value = true := by
  rcases Bool.or_eq_true _ _ ▸ h with hnull | hrule
  · rw [TypeScript.eq_null.mp hnull]
    rfl
  · rw [FieldRule.admits, Option.any_eq_true] at hrule ⊢
    obtain ⟨v, hv, haccepts⟩ := hrule
    refine ⟨v, hv, ?_⟩
    rw [FieldRule.accepts, haccepts, Bool.or_true]

end Predicates

/-! ## One entry -/

/-- What the schema requires of an entry beside what the console does. -/
structure EntryBeyond (entry : Json) : Prop where
  source : (textOf (entry.get? "source_id")).toList.length ≤ 240
  gate : ∃ status, entry.get? "gate_status" = some (.str status)

section Entry

variable {sha256 : Json → String} {entry : Json} {timeline : Timeline}

/-- The name of an entry takes no more than 32 digits of a hash. -/
theorem entryId_length (h : entryHashed sha256 entry = true) :
    (textOf (entry.get? "entry_id")).toList.length ≤ 47 := by
  have hname : ∀ hash : String, ("operator_entry_" ++ String.ofList (hash.toList.take 32)).toList.length ≤ 47 := by
    intro hash
    have htake := List.length_take_le 32 hash.toList
    have hprefix : "operator_entry_".toList.length = 15 := by decide
    have hdigits : (String.ofList (hash.toList.take 32)).toList.length = (hash.toList.take 32).length :=
      congrArg List.length String.toList_ofList
    rw [String.toList_append, List.length_append, hprefix, hdigits]
    omega
  rw [TypeScript.eq_text.mp h]
  exact hname _

/-- **An entry that the console shows** is accepted when its source id is short and its gate a text. -/
theorem entry_accepts_iff (hshape : entryShape entry = true) (hhash : entryHashed sha256 entry = true)
    (horder : inOrder timeline entry = true) (hfirst : 1 ≤ timeline.sequence) (hlast : timeline.sequence ≤ 128)
    (hprior : ∀ s ∈ timeline.priorEntryId, s.toList.length ≤ 200) :
    (FieldRule.record timelineEntryFields).accepts entry = true ↔ EntryBeyond entry := by
  have hentryId := entryId_length hhash
  obtain ⟨item, hvalue, hitem⟩ := of_objectOf hshape
  obtain rfl := Option.some.inj hvalue
  simp only [Bool.and_eq_true, digest_admits, named_admits, and_assoc] at hitem
  obtain ⟨hkeys, -, hid, hpredecessor, hkind, hsha, hclass, hfrom, hto, hobservation, hresult, hgate, -, hreason⟩ :=
    hitem
  simp only [inOrder, Bool.and_eq_true, and_assoc] at horder
  obtain ⟨hsequence, hpred, -, -, hrecovery⟩ := horder
  -- the name is short by its hash, and so is that of the entry before
  have hidRule : safeIdRule.admits (item.get? "entry_id") = true :=
    (isId_admits hid).mpr (hentryId.trans (by decide))
  have hpredecessorRule : (FieldRule.nullable safeIdRule).admits (item.get? "predecessor_entry_id") = true := by
    apply nullable_admits
    rcases Bool.or_eq_true _ _ ▸ hpredecessor with hnull | hprevious
    · exact Bool.or_eq_true _ _ ▸ .inl hnull
    · refine Bool.or_eq_true _ _ ▸ .inr ((isId_admits hprevious).mpr ?_)
      cases hkept : timeline.priorEntryId with
      | none =>
          rw [show (Json.obj item).get? "predecessor_entry_id" = item.get? "predecessor_entry_id" from rfl, hkept,
            nullableText, TypeScript.eq_null] at hpred
          rw [hpred]
          exact Nat.zero_le _
      | some kept =>
          rw [show (Json.obj item).get? "predecessor_entry_id" = item.get? "predecessor_entry_id" from rfl, hkept,
            nullableText, TypeScript.eq_text] at hpred
          rw [hpred]
          exact hprior kept hkept
  -- the kind has a phase, and the source id names the kind
  obtain ⟨kind, hkindOf, hkind⟩ := (Option.any_eq_true ..).mp hkind
  obtain ⟨hphase, hsource⟩ := (Bool.and_eq_true ..).mp hkind
  obtain ⟨phase, hlookup, hphase⟩ := (Option.any_eq_true ..).mp hphase
  obtain ⟨sourceId, hsourceOf, hsource⟩ := (Option.any_eq_true ..).mp hsource
  obtain ⟨hsourceId, -⟩ := (Bool.and_eq_true ..).mp hsource
  have hknown : (kind, phase) ∈ sourcePhase := mem_of_lookup hlookup
  have hphases : ∀ known ∈ sourcePhase, known.2 ∈ phaseOrder := by decide
  have hphaseRule : (FieldRule.enum phaseOrder).admits (item.get? "phase") = true := by
    rw [TypeScript.eq_text.mp hphase]
    exact decide_eq_true (hphases _ hknown)
  have hkindRule : (FieldRule.enum (sourcePhase.map (·.1))).admits (item.get? "source_kind") = true := by
    rw [text?_eq.mp hkindOf]
    exact decide_eq_true (List.mem_map.mpr ⟨_, hknown, rfl⟩)
  have hclassRule : (FieldRule.enum ["synthetic", "redacted"]).admits (item.get? "classification") = true := by
    rcases (Bool.or_eq_true ..).mp hclass with heq | heq
    · rw [TypeScript.eq_text.mp heq]
      rfl
    · rw [TypeScript.eq_text.mp heq]
      rfl
  have hrecoveryRule : (FieldRule.enum recoveryStatuses).admits (item.get? "recovery_status") = true := by
    rw [show item.get? "recovery_status" = some (.str "not_required") from TypeScript.eq_text.mp hrecovery]
    rfl
  have hsourceRule : (FieldRule.both .sourceId (.textUpTo 3 240)).admits (item.get? "source_id") = true ↔
      (textOf (item.get? "source_id")).toList.length ≤ 240 := by
    rw [text?_eq.mp hsourceOf]
    simp only [FieldRule.textUpTo, FieldRule.admits, Option.any_some, FieldRule.accepts, Bool.and_eq_true,
      decide_eq_true_eq, hsourceId, true_and, textOf]
    exact and_iff_right (three_le_of_isSourceId hsourceId)
  have hgateRule : (FieldRule.enum gateStatuses).admits (item.get? "gate_status") = true ↔
      ∃ status, item.get? "gate_status" = some (.str status) := by
    constructor
    · intro hadmits
      obtain ⟨v, hv, haccepts⟩ := (Option.any_eq_true ..).mp hadmits
      obtain ⟨status, rfl⟩ := FieldRule.text_of_accepts rfl haccepts
      exact ⟨status, hv⟩
    · rintro ⟨status, hstatus⟩
      rw [hstatus] at hgate ⊢
      exact hgate
  rw [timelineEntryFields, FieldRule.record_admits hkeys (by decide +kernel)]
  simp only [List.forall_mem_cons, List.not_mem_nil, false_imp_iff, implies_true, and_true]
  constructor
  · rintro ⟨-, -, -, -, -, hsourceAdmits, -, -, -, -, -, -, hgateAdmits, -, -⟩
    exact ⟨hsourceRule.mp hsourceAdmits, hgateRule.mp hgateAdmits⟩
  · intro hbeyond
    exact ⟨range_admits hsequence hfirst hlast, hidRule, hpredecessorRule, hphaseRule, hkindRule,
      hsourceRule.mpr hbeyond.source, hsha, hclassRule, nullable_admits hfrom, nullable_admits hto, hobservation,
      hresult, hgateRule.mpr hbeyond.gate, hrecoveryRule, hreason⟩

/-- What the shape of an entry says of its source. -/
theorem entry_source (hshape : entryShape entry = true) : ∃ phase sourceId sourceSha256,
    entry.get? "source_kind" = some (.str (kindOf entry)) ∧ sourcePhase.lookup (kindOf entry) = some phase ∧
    entry.get? "phase" = some (.str phase) ∧ entry.get? "source_id" = some (.str sourceId) ∧
    sourceKindOf sourceId = kindOf entry ∧ entry.get? "source_sha256" = some (.str sourceSha256) := by
  obtain ⟨item, hvalue, hitem⟩ := of_objectOf hshape
  obtain rfl := Option.some.inj hvalue
  simp only [Bool.and_eq_true, digest_admits, and_assoc] at hitem
  obtain ⟨-, -, -, -, hkind, hsha, -⟩ := hitem
  obtain ⟨kind, hkindOf, hkind⟩ := (Option.any_eq_true ..).mp hkind
  obtain ⟨hphase, hsource⟩ := (Bool.and_eq_true ..).mp hkind
  obtain ⟨phase, hlookup, hphase⟩ := (Option.any_eq_true ..).mp hphase
  obtain ⟨sourceId, hsourceOf, hsource⟩ := (Option.any_eq_true ..).mp hsource
  obtain ⟨-, hsame⟩ := (Bool.and_eq_true ..).mp hsource
  obtain ⟨v, hv, haccepts⟩ := (Option.any_eq_true ..).mp hsha
  obtain ⟨sourceSha256, rfl⟩ := FieldRule.text_of_accepts rfl haccepts
  have hkindEq : (Json.obj item).get? "source_kind" = some (.str kind) := text?_eq.mp hkindOf
  have hof : kindOf (.obj item) = kind := by rw [kindOf, hkindEq]; rfl
  rw [hof]
  exact ⟨phase, sourceId, sourceSha256, hkindEq, hlookup, TypeScript.eq_text.mp hphase, text?_eq.mp hsourceOf,
    of_decide_eq_true hsame, hv⟩

/-- The place of an entry's phase is that of its kind. -/
theorem phase_rank (hshape : entryShape entry = true) :
    (phaseOrder.idxOf (textOf (entry.get? "phase")) : Int) = phaseRank (kindOf entry) := by
  obtain ⟨phase, -, -, -, hlookup, hphase, -⟩ := entry_source hshape
  rw [phaseRank, hlookup, hphase]
  rfl

theorem next_eq (hshape : entryShape entry = true) :
    { timeline.add entry with priorPhase := phaseOrder.idxOf (textOf (entry.get? "phase")) } = timeline.add entry := by
  rw [phase_rank hshape]
  rfl

/-- The canonical form of a value that is an integer. -/
theorem canonical_of_whole {v : Json} {n : Int} (h : v.whole? = some n) : v.canonical = .int n := by
  cases v with
  | int m =>
      obtain rfl := Option.some.inj h
      rfl
  | float q =>
      rw [Json.whole?] at h
      rw [Json.canonical]
      split at h
      · rename_i hden
        rw [if_pos hden, Option.some.inj h]
      · cases h
  | _ => cases h

/-- **One turn of the console's loop** with the hash of the entry is what both languages require of it. -/
theorem entry_facts (hshape : entryShape entry = true) (hhash : entryHashed sha256 entry = true)
    (horder : inOrder timeline entry = true) : EntryFacts sha256 timeline entry := by
  have hrank := phase_rank hshape
  obtain ⟨phase, sourceId, sourceSha256, hkind, hlookup, hphase, hsourceId, hsource, hsha⟩ := entry_source hshape
  simp only [inOrder, Bool.and_eq_true, decide_eq_true_eq, unrefused_iff, and_assoc, hrank, ne_eq,
    TypeScript.eq_text] at horder
  obtain ⟨hsequence, hpredecessor, hphases, hpassed, hfailed, hblocked, hrefused, hrecovery⟩ := horder
  have hidentity : entry.get? "entry_id" = some (.str (operatorCaseEntryId sha256 timeline.sequence (kindOf entry)
      (textOf (entry.get? "source_id")) (textOf (entry.get? "source_sha256")))) := by
    obtain ⟨n, hn, hwhole⟩ := Option.bind_eq_some_iff.mp (whole_of_eq hsequence)
    rw [TypeScript.eq_text.mp hhash, operatorCaseEntryId, hkind, hsourceId, hsha, hn]
    simp only [valueSha256, Option.getD_some, textOf, JsonFields.ofList, Json.canonical, JsonFields.canonical,
      canonical_of_whole hwhole]
  have hpredecessor' : entry.get? "predecessor_entry_id" = some (nullableText timeline.priorEntryId) := by
    cases hvalue : entry.get? "predecessor_entry_id" with
    | none =>
        rw [hvalue] at hpredecessor
        cases timeline.priorEntryId <;> cases hpredecessor
    | some v =>
        rw [hvalue, nullableText_eq] at hpredecessor
        rw [hpredecessor]
  refine ⟨hsequence, hpredecessor', ?_, hphases, ?_, hidentity, hpassed, hfailed, hblocked, hrefused, hrecovery⟩
  · rw [hlookup]
    exact hphase
  · rw [hsourceId]
    exact hsource

end Entry

/-- **The timeline of a snapshot that the console shows**: each entry is as both languages require it after those
    before, and the schema refuses it only for what is beyond the console's checks. -/
theorem timeline_facts {sha256 : Json → String} {entries : List Json} {timeline : Timeline}
    (hshape : ∀ entry ∈ entries, entryShape entry = true) (hhash : ∀ entry ∈ entries, entryHashed sha256 entry = true)
    (horder : allInOrder timeline entries = true) (hfirst : 1 ≤ timeline.sequence)
    (hlast : timeline.sequence + entries.length ≤ 129) (hprior : ∀ s ∈ timeline.priorEntryId, s.toList.length ≤ 200) :
    Folded (EntryFacts sha256) Timeline.add timeline entries ∧ ∀ entry ∈ entries,
      ((FieldRule.record timelineEntryFields).accepts entry = true ↔ EntryBeyond entry) := by
  induction entries generalizing timeline with
  | nil => exact ⟨trivial, fun entry hentry => absurd hentry List.not_mem_nil⟩
  | cons entry rest ih =>
      have hentry := hshape entry List.mem_cons_self
      have hhashed := hhash entry List.mem_cons_self
      rw [allInOrder, next_eq hentry, Bool.and_eq_true] at horder
      rw [List.length_cons] at hlast
      push_cast at hlast
      have hsequence : (timeline.add entry).sequence = timeline.sequence + 1 := rfl
      have hname : ∀ s ∈ (timeline.add entry).priorEntryId, s.toList.length ≤ 200 := by
        intro s hs
        obtain rfl := Option.some.inj hs
        exact (entryId_length hhashed).trans (by decide)
      obtain ⟨hfolded, haccepts⟩ := ih (fun e he => hshape e (List.mem_cons_of_mem _ he))
        (fun e he => hhash e (List.mem_cons_of_mem _ he)) horder.2 (by omega) (by omega) hname
      refine ⟨⟨entry_facts hentry hhashed horder.1, hfolded⟩, ?_⟩
      rw [List.forall_mem_cons]
      exact ⟨entry_accepts_iff hentry hhashed horder.1 hfirst (by omega) hprior, haccepts⟩

/-! ## The parts of a snapshot -/

/-- Where the ids of a snapshot stand that are named after nothing. -/
def caseIds : List (String × String) :=
  [("case", "case_id"), ("case", "case_revision_id"), ("case", "workflow_id"), ("case", "latest_checkpoint_id"),
   ("source_report", "report_id"), ("evidence", "trajectory_id"), ("replay", "replay_result_id")]

/-- **What Python requires of a snapshot beside what the console does.** -/
structure OperatorBeyond (snapshot : JsonFields) : Prop where
  ids : ∀ path ∈ caseIds, (textOf (partOf snapshot path.1 path.2)).toList.length ≤ 200
  entries : ∀ entry ∈ entriesOf snapshot, EntryBeyond entry
  once : decidesOnce (entriesOf snapshot) = true

section Parts

variable {value : Option Json}

theorem case_accepts_iff (h : (objectOf? value).any caseShape = true) :
    (FieldRule.record caseIdentityFields).admits value = true ↔
      ∀ field ∈ ["case_id", "case_revision_id", "workflow_id", "latest_checkpoint_id"],
        (textOf (value.bind (·.get? field))).toList.length ≤ 200 := by
  obtain ⟨caseItem, rfl, hitem⟩ := of_objectOf h
  simp only [caseShape, Bool.and_eq_true, integerFrom_admits, eq_admits, and_assoc] at hitem
  obtain ⟨hkeys, hcase, hrevisionId, hrevision, hworkflow, hversion, hcheckpoint⟩ := hitem
  show (FieldRule.record caseIdentityFields).accepts (.obj caseItem) = true ↔ _
  rw [caseIdentityFields, FieldRule.record_admits hkeys (by decide)]
  simp only [List.forall_mem_cons, List.not_mem_nil, false_imp_iff, implies_true, and_true, isId_admits hcase,
    isId_admits hrevisionId, isId_admits hworkflow, isId_admits hcheckpoint, hrevision, hversion, true_and]
  rfl

theorem report_accepts_iff (h : (objectOf? value).any reportShape = true) :
    (FieldRule.record sourceReportFields).admits value = true ↔
      (textOf (value.bind (·.get? "report_id"))).toList.length ≤ 200 := by
  obtain ⟨report, rfl, hitem⟩ := of_objectOf h
  simp only [reportShape, Bool.and_eq_true, digest_admits, eq_const, and_assoc] at hitem
  obtain ⟨hkeys, hid, hsha, hprofile, hpath⟩ := hitem
  show (FieldRule.record sourceReportFields).accepts (.obj report) = true ↔ _
  rw [sourceReportFields, FieldRule.record_admits hkeys (by decide)]
  simp only [List.forall_mem_cons, List.not_mem_nil, false_imp_iff, implies_true, and_true, isId_admits hid, hsha,
    hprofile, hpath]
  rfl

theorem evidence_accepts_iff (h : (objectOf? value).any evidenceShape = true) :
    (FieldRule.record evidenceIdentityFields).admits value = true ↔
      (textOf (value.bind (·.get? "trajectory_id"))).toList.length ≤ 200 := by
  obtain ⟨evidence, rfl, hitem⟩ := of_objectOf h
  simp only [evidenceShape, Bool.and_eq_true, digest_admits, integerWithin_admits, and_assoc] at hitem
  obtain ⟨hkeys, hid, hroot, hsource, hnodes⟩ := hitem
  show (FieldRule.record evidenceIdentityFields).accepts (.obj evidence) = true ↔ _
  rw [evidenceIdentityFields, FieldRule.record_admits hkeys (by decide)]
  simp only [List.forall_mem_cons, List.not_mem_nil, false_imp_iff, implies_true, and_true, isId_admits hid, hroot,
    hsource, hnodes]
  rfl

theorem replay_accepts_iff (h : (objectOf? value).any replayShape = true) :
    (FieldRule.record replayIdentityFields).admits value = true ↔
      (textOf (value.bind (·.get? "replay_result_id"))).toList.length ≤ 200 := by
  obtain ⟨replay, rfl, hitem⟩ := of_objectOf h
  simp only [replayShape, Bool.and_eq_true, digest_admits, eq_const, and_assoc] at hitem
  obtain ⟨hkeys, hid, hresult, hreport, hrecorded, hreplayed, hmode, houtcome⟩ := hitem
  show (FieldRule.record replayIdentityFields).accepts (.obj replay) = true ↔ _
  rw [replayIdentityFields, FieldRule.record_admits hkeys (by decide)]
  simp only [List.forall_mem_cons, List.not_mem_nil, false_imp_iff, implies_true, and_true, isId_admits hid, hresult,
    hreport, hrecorded, hreplayed, hmode, houtcome]
  rfl

theorem capabilityShape_accepted (h : capabilityShape value = true) :
    (FieldRule.record operatorCapabilityFields).admits value = true := by
  obtain ⟨item, rfl, hitem⟩ := of_objectOf h
  simp only [Bool.and_eq_true, List.all_cons, List.all_nil, and_true, eq_admits, and_assoc] at hitem
  obtain ⟨hkeys, t1, t2, t3, t4, f1, f2, f3, f4, f5, f6, f7, f8, f9, f10⟩ := hitem
  show (FieldRule.record operatorCapabilityFields).accepts (.obj item) = true
  rw [operatorCapabilityFields, FieldRule.record_admits hkeys (by decide +kernel)]
  simp only [List.forall_mem_cons, List.not_mem_nil, false_imp_iff, implies_true, and_true]
  exact ⟨t1, t2, t3, t4, f1, f2, f3, f4, f5, f6, f7, f8, f9, f10⟩

/-- The counts of a timeline in which every kind occurs obey the schema. -/
theorem counts_accepted {kinds : List String} (h : (objectOf? value).any countShape = true)
    (hcounts : ∀ expected ∈ expectedCounts kinds,
      eq (value.bind (·.get? expected.1)) (some (.int expected.2)) = true)
    (hkinds : ∀ source ∈ sourcePhase, source.1 ∈ kinds) (htwo : 2 ≤ kinds.length) (hmost : kinds.length ≤ 128) :
    (FieldRule.record operatorCountFields).admits value = true := by
  have hone : ∀ kind ∈ sourcePhase.map (·.1), 1 ≤ kinds.count kind := by
    intro kind hkind
    obtain ⟨source, hsource, rfl⟩ := List.mem_map.mp hkind
    exact List.count_pos_iff.mpr (hkinds source hsource)
  have hintake := hone "accepted_intake" (by decide)
  have hcheckpoint := hone "workflow_checkpoint" (by decide)
  have hstep := hone "agent_step" (by decide)
  have htool := hone "tool_result" (by decide)
  obtain ⟨counts, rfl, hitem⟩ := of_objectOf h
  simp only [countShape, Bool.and_eq_true, eq_admits, and_assoc] at hitem
  obtain ⟨hkeys, -, hrevision, hticket, hdelivery, hreplay⟩ := hitem
  simp only [expectedCounts, List.forall_mem_cons, List.not_mem_nil, false_imp_iff, implies_true, and_true] at hcounts
  obtain ⟨c1, c2, -, c4, c5, c6, -, c8, -⟩ := hcounts
  show (FieldRule.record operatorCountFields).accepts (.obj counts) = true
  rw [operatorCountFields, FieldRule.record_admits hkeys (by decide +kernel)]
  simp only [List.forall_mem_cons, List.not_mem_nil, false_imp_iff, implies_true, and_true]
  exact ⟨range_admits c1 (by omega) (by omega), count_admits c2 (by omega), hrevision, count_admits c4 (by omega),
    count_admits c5 (by omega), count_admits c6 (by omega), hticket, hdelivery,
    range_admits c8 (by omega) (by omega), hreplay⟩

end Parts

/-! ## The snapshot -/

section Snapshot

variable {sha256 : Json → String} {snapshot : JsonFields}

/-- The timeline of a snapshot that the console shows. -/
theorem case_timeline (hshaped : caseShaped snapshot = true) : ∃ items,
    snapshot.get? "timeline" = some (.arr items) ∧ items.toList = entriesOf snapshot ∧
      2 ≤ (entriesOf snapshot).length ∧ (entriesOf snapshot).length ≤ 128 ∧
      ∀ entry ∈ entriesOf snapshot, entryShape entry = true := by
  simp only [caseShaped, Bool.and_eq_true, and_assoc] at hshaped
  obtain ⟨-, -, -, -, -, -, -, -, -, -, -, -, -, htimeline⟩ := hshaped
  obtain ⟨items, hitems, hentries⟩ := of_arrayOf htimeline
  simp only [Bool.and_eq_true, decide_eq_true_eq, List.all_eq_true, and_assoc] at hentries
  have hof : items.toList = entriesOf snapshot := by rw [entriesOf, itemsOf, hitems]; rfl
  rw [← hof]
  exact ⟨items, hitems, rfl, hentries⟩

def replayDigests : List String := ["result_sha256", "report_sha256", "recorded_root_sha256", "replayed_root_sha256"]

theorem replay_texts (hshaped : caseShaped snapshot = true) : ∀ field ∈ replayDigests,
    ∃ s, partOf snapshot "replay" field = some (.str s) := by
  simp only [caseShaped, nestedShapes, Bool.and_eq_true, and_assoc] at hshaped
  obtain ⟨-, -, -, -, -, -, -, -, -, -, -, -, -, -, hreplay, -⟩ := hshaped
  obtain ⟨replay, hof, hitem⟩ := of_objectOf hreplay
  simp only [replayShape, Bool.and_eq_true, digest_admits, and_assoc] at hitem
  obtain ⟨-, -, hresult, hreport, hrecorded, hreplayed, -, -⟩ := hitem
  have htext : ∀ {field : String}, (FieldRule.hash false).admits (replay.get? field) = true →
      ∃ s, partOf snapshot "replay" field = some (.str s) := by
    intro field hadmits
    obtain ⟨v, hv, haccepts⟩ := (Option.any_eq_true ..).mp hadmits
    obtain ⟨s, rfl⟩ := FieldRule.text_of_accepts rfl haccepts
    refine ⟨s, ?_⟩
    rw [partOf, hof]
    exact hv
  simp only [replayDigests, List.forall_mem_cons, List.not_mem_nil, false_imp_iff, implies_true, and_true]
  exact ⟨htext hresult, htext hreport, htext hrecorded, htext hreplayed⟩

theorem one_eq {entries : List Json} (h : ∀ entry ∈ entries, entryShape entry = true) {summary : String × String} :
    one entries summary = TypeScript.onlyDecision entries summary := by
  have hfilter : entries.filter (fun entry => eq (entry.get? "source_kind") (some (.str summary.1)) &&
        eq (entry.get? "observation") (some (.str summary.2))) =
      entries.filter fun entry => entry.isObject && eq (entry.get? "source_kind") (some (.str summary.1)) &&
        eq (entry.get? "observation") (some (.str summary.2)) := by
    refine List.filter_congr fun entry hentry => ?_
    obtain ⟨item, hvalue, -⟩ := of_objectOf (h entry hentry)
    obtain rfl := Option.some.inj hvalue
    rfl
  rw [one, TypeScript.onlyDecision, hfilter]

/-- Of a snapshot that the console shows the schema refuses nothing but long ids and entries. -/
theorem case_accepts_snapshot_iff (hshaped : caseShaped snapshot = true)
    (horder : allInOrder Timeline.start (entriesOf snapshot) = true) (hlinked : caseLinked snapshot = true)
    (hhashed : caseHashed sha256 snapshot = true) :
    operatorCaseSnapshotSchema.accepts snapshot = true ↔
      (∀ path ∈ caseIds, (textOf (partOf snapshot path.1 path.2)).toList.length ≤ 200) ∧
        ∀ entry ∈ entriesOf snapshot, EntryBeyond entry := by
  obtain ⟨items, hitems, hentriesOf, htwo, hmost, hshapes⟩ := case_timeline hshaped
  simp only [caseHashed, Bool.and_eq_true, List.all_eq_true, and_assoc] at hhashed
  obtain ⟨hentryHashes, -, hsha, hidentity⟩ := hhashed
  obtain ⟨-, haccepts⟩ := timeline_facts hshapes hentryHashes horder (by decide)
    (by show (1 : Int) + _ ≤ 129; omega) (fun s hs => nomatch hs)
  simp only [caseLinked, Bool.and_eq_true, decide_eq_true_eq, List.all_eq_true, and_assoc] at hlinked
  obtain ⟨-, -, hkinds, -, -, -, -, -, -, -, -, hcounts, -⟩ := hlinked
  simp only [caseShaped, nestedShapes, Bool.and_eq_true, and_assoc, digest_admits] at hshaped
  obtain ⟨hkeys, hid, hversion, htenant, hfixture, hpath, hfixtureSha, hsnapshotId, hshaRule, hstate, hlabel, hcase,
    hreport, hevidence, hreplay, hcountShape, hcapabilities, -⟩ := hshaped
  have hlength : (sourceKinds (entriesOf snapshot)).length = (entriesOf snapshot).length := List.length_map _
  have hcountsRule := counts_accepted hcountShape hcounts hkinds (by omega) (by omega)
  -- the snapshot is named after a digest
  have hsnapshotRule : safeIdRule.admits (snapshot.get? "operator_case_snapshot_id") = true := by
    rw [isId_admits hsnapshotId, TypeScript.eq_text.mp hidentity, textOf, String.toList_append, List.length_append]
    rw [TypeScript.eq_text.mp hsha, FieldRule.admits, Option.any_some, FieldRule.accepts, Bool.and_eq_true,
      decide_eq_true_eq] at hshaRule
    rw [hshaRule.1]
    decide
  have htimelineRule : (FieldRule.both (.list 2 (.record timelineEntryFields)) (.maxItems 128)).admits
      (snapshot.get? "timeline") = true ↔ ∀ entry ∈ entriesOf snapshot, EntryBeyond entry := by
    rw [hitems]
    simp only [FieldRule.admits, Option.any_some, FieldRule.accepts, Bool.and_eq_true, decide_eq_true_eq,
      List.all_eq_true, hentriesOf, htwo, hmost, true_and, and_true]
    exact forall₂_congr haccepts
  have hids : (∀ path ∈ caseIds, (textOf (partOf snapshot path.1 path.2)).toList.length ≤ 200) ↔
      (FieldRule.record caseIdentityFields).admits (snapshot.get? "case") = true ∧
        (FieldRule.record sourceReportFields).admits (snapshot.get? "source_report") = true ∧
        (FieldRule.record evidenceIdentityFields).admits (snapshot.get? "evidence") = true ∧
        (FieldRule.record replayIdentityFields).admits (snapshot.get? "replay") = true := by
    rw [case_accepts_iff hcase, report_accepts_iff hreport, evidence_accepts_iff hevidence, replay_accepts_iff hreplay]
    simp only [caseIds, List.forall_mem_cons, List.not_mem_nil, false_imp_iff, implies_true, and_true, and_assoc,
      partOf]
  rw [ContractSchema.accepts_iff hkeys (by decide +kernel) (by decide +kernel) rfl, hids]
  simp only [operatorCaseSnapshotSchema, List.forall_mem_cons, List.not_mem_nil, false_imp_iff, implies_true, and_true,
    htimelineRule]
  rw [eq_const] at hid hversion htenant hfixture hpath hstate hlabel
  constructor
  · rintro ⟨-, -, -, -, -, -, -, h1, h2, h3, h4, -, -, -, -, hentries, -⟩
    exact ⟨⟨h1, h2, h3, h4⟩, hentries⟩
  · rintro ⟨⟨h1, h2, h3, h4⟩, hentries⟩
    exact ⟨hid, hversion, hsnapshotRule, htenant, hfixture, hpath, hfixtureSha, h1, h2, h3, h4, hstate, hlabel,
      hcountsRule, capabilityShape_accepted hcapabilities, hentries, hshaRule⟩

/-- **The facts that both languages require** hold of a snapshot that the console shows. -/
theorem case_facts (hshaped : caseShaped snapshot = true)
    (horder : allInOrder Timeline.start (entriesOf snapshot) = true) (hlinked : caseLinked snapshot = true)
    (hhashed : caseHashed sha256 snapshot = true) : OperatorFacts sha256 snapshot := by
  obtain ⟨-, -, -, -, hmost, hshapes⟩ := case_timeline hshaped
  simp only [caseHashed, Bool.and_eq_true, List.all_eq_true, and_assoc] at hhashed
  obtain ⟨hentryHashes, hmaterial, hsha, hidentity⟩ := hhashed
  obtain ⟨hfolded, -⟩ := timeline_facts hshapes hentryHashes horder (by decide)
    (by show (1 : Int) + _ ≤ 129; omega) (fun s hs => nomatch hs)
  simp only [caseLinked, Bool.and_eq_true, decide_eq_true_eq, List.all_eq_true, and_assoc] at hlinked
  obtain ⟨hentryIds, hsourceIds, hkinds, hterminal, hreport, hrecorded, hreplayed, hrevision, hcheckpoint, hreplay,
    hresult, hcounts, hone⟩ := hlinked
  have hdigest := replay_texts hshaped
  have hsame : ∀ {l : Option Json} {field : String}, field ∈ replayDigests →
      eq l (partOf snapshot "replay" field) = true → l = partOf snapshot "replay" field := by
    intro l field hfield heq
    obtain ⟨s, hs⟩ := hdigest field hfield
    exact (eq_iff_of_text (.inr hs)).2.mp heq
  refine ⟨TypeScript.eq_text.mp hsha, TypeScript.eq_text.mp hidentity, hsame (by decide) hreport,
    hsame (by decide) hrecorded, hsame (by decide) hreplayed, hfolded, hentryIds, hsourceIds, hkinds, hterminal,
    TypeScript.eq_text.mp hmaterial, hcounts, hrevision, hcheckpoint, hreplay, hsame (by decide) hresult, ?_⟩
  intro summary hsummary
  rw [← one_eq hshapes]
  exact hone summary hsummary

end Snapshot

theorem validateOperatorCaseSnapshot_iff {sha256 : Json → String} {value : Json} {snapshot : JsonFields} :
    validateOperatorCaseSnapshot sha256 value = some snapshot ↔
      validateOperatorCaseSnapshotShape value = some snapshot ∧ caseHashed sha256 snapshot = true := by
  rw [validateOperatorCaseSnapshot]
  cases hshape : validateOperatorCaseSnapshotShape value with
  | none => simp
  | some shown =>
      show (if caseHashed sha256 shown then some shown else none) = some snapshot ↔ _
      rw [Option.ite_none_right_eq_some, Option.some.injEq]
      constructor
      · rintro ⟨hhashed, rfl⟩
        exact ⟨rfl, hhashed⟩
      · rintro ⟨rfl, hhashed⟩
        exact ⟨hhashed, rfl⟩

theorem validateOperatorCaseSnapshotShape_iff {value : Json} {snapshot : JsonFields} :
    validateOperatorCaseSnapshotShape value = some snapshot ↔ value = .obj snapshot ∧ caseShaped snapshot = true ∧
      allInOrder Timeline.start (entriesOf snapshot) = true ∧ caseLinked snapshot = true := by
  rw [validateOperatorCaseSnapshotShape]
  cases value with
  | obj fields =>
      show (if caseShaped fields && allInOrder Timeline.start (entriesOf fields) && caseLinked fields then some fields
        else none) = some snapshot ↔ _
      rw [Option.ite_none_right_eq_some, Bool.and_eq_true, Bool.and_eq_true, Json.obj.injEq, Option.some.injEq,
        and_assoc, and_assoc]
      constructor
      · rintro ⟨hshaped, horder, hlinked, rfl⟩
        exact ⟨rfl, hshaped, horder, hlinked⟩
      · rintro ⟨rfl, hshaped, horder, hlinked⟩
        exact ⟨hshaped, horder, hlinked, rfl⟩
  | _ => simp [objectOf?]

end Console

/-- **Python accepts a case that the console shows** exactly when nothing beyond the console's checks fails. -/
theorem operator_beyond_iff {schemas : List ContractSchema} (runtime : ExactRuntime schemas)
    (hmem : operatorCaseSnapshotSchema ∈ schemas) {sha256 : Json → String} {value : Json} {snapshot : JsonFields}
    (hshape : Console.validateOperatorCaseSnapshotShape value = some snapshot)
    (hhashed : Console.caseHashed sha256 snapshot = true) :
    Python.validateOperatorCaseSnapshot runtime.toContractRuntime sha256 snapshot = .ok () ↔
      Console.OperatorBeyond snapshot := by
  obtain ⟨-, hshaped, horder, hlinked⟩ := Console.validateOperatorCaseSnapshotShape_iff.mp hshape
  have hid : snapshot.get? "schema_id" = some (.str operatorCaseSnapshotSchema.id) := by
    have hfields := hshaped
    simp only [Console.caseShaped, Bool.and_eq_true, and_assoc] at hfields
    exact TypeScript.eq_text.mp hfields.2.1
  rw [Python.operator_iff hmem, runtime.requireSchema_iff hmem hid,
    Console.case_accepts_snapshot_iff hshaped horder hlinked hhashed]
  constructor
  · rintro ⟨⟨⟨hids, hentries⟩, -⟩, honce⟩
    exact ⟨hids, hentries, honce⟩
  · intro h
    exact ⟨⟨⟨h.ids, h.entries⟩, Console.case_facts hshaped horder hlinked hhashed⟩, h.once⟩

/-! ## Both snapshots -/

def consoleSchemas : List ContractSchema := [evaluationSuiteSnapshotSchema, operatorCaseSnapshotSchema]

/-- **The console shows only what the contract accepts** exactly of the answers that pass its own checks and have
    what Python requires beside: of a suite the hash it claims, scores up to a hundred, named sources and a count
    that is an integer; of a case ids and sources of a bounded length, gates that are texts and one entry of each
    deciding kind. -/
theorem console_within_contract (runtime : ExactRuntime consoleSchemas) (sha256 : Json → String) :
    (∀ value,
      (∀ snapshot, Console.validateEvaluationSnapshot value = some snapshot → value = .obj snapshot ∧
        Python.validateEvaluationSuiteSnapshot runtime.toContractRuntime sha256 snapshot = .ok ()) ↔
      ∀ snapshot, value = .obj snapshot → Console.suiteShaped snapshot = true → Console.suiteCounted snapshot = true →
        Console.SuiteBeyond sha256 snapshot) ∧
    ∀ value,
      (∀ snapshot, Console.validateOperatorCaseSnapshot sha256 value = some snapshot → value = .obj snapshot ∧
        Python.validateOperatorCaseSnapshot runtime.toContractRuntime sha256 snapshot = .ok ()) ↔
      ∀ snapshot, Console.validateOperatorCaseSnapshotShape value = some snapshot →
        Console.caseHashed sha256 snapshot = true → Console.OperatorBeyond snapshot := by
  have hsuite : evaluationSuiteSnapshotSchema ∈ consoleSchemas := List.mem_cons_self
  have hcase : operatorCaseSnapshotSchema ∈ consoleSchemas := List.mem_cons_of_mem _ List.mem_cons_self
  refine ⟨fun value => ?_, fun value => ?_⟩
  · constructor
    · intro h snapshot hvalue hshaped hcounted
      obtain ⟨-, haccepted⟩ := h snapshot (Console.validateEvaluationSnapshot_iff.mpr ⟨hvalue, hshaped, hcounted⟩)
      exact (suite_beyond_iff runtime hsuite hshaped hcounted).mp haccepted
    · intro h snapshot hshown
      obtain ⟨hvalue, hshaped, hcounted⟩ := Console.validateEvaluationSnapshot_iff.mp hshown
      exact ⟨hvalue, (suite_beyond_iff runtime hsuite hshaped hcounted).mpr (h snapshot hvalue hshaped hcounted)⟩
  · constructor
    · intro h snapshot hshape hhashed
      obtain ⟨-, haccepted⟩ := h snapshot (Console.validateOperatorCaseSnapshot_iff.mpr ⟨hshape, hhashed⟩)
      exact (operator_beyond_iff runtime hcase hshape hhashed).mp haccepted
    · intro h snapshot hshown
      obtain ⟨hshape, hhashed⟩ := Console.validateOperatorCaseSnapshot_iff.mp hshown
      obtain ⟨hvalue, -⟩ := Console.validateOperatorCaseSnapshotShape_iff.mp hshape
      exact ⟨hvalue, (operator_beyond_iff runtime hcase hshape hhashed).mpr (h snapshot hshape hhashed)⟩

/-! ## A snapshot that claims another hash -/

/-- The validator that is exactly the schemas, when their names differ. -/
def exactRuntime (schemas : List ContractSchema) (hnames : ((change4Schemas ++ schemas).map (·.id)).Nodup)
    (hash : String → String) (parseTime : String → Option Instant) : ExactRuntime schemas where
  toSchemaRuntime := schemaRuntime schemas hash parseTime
  complete := by
    intro payload schema hmem hid haccepts
    have hknown : schema ∈ change4Schemas ++ schemas := List.mem_append_right _ hmem
    refine if_pos (Bool.and_eq_true .. ▸ ⟨?_, ?_⟩)
    · exact List.any_eq_true.mpr ⟨schema, hknown, decide_eq_true hid⟩
    · rw [List.all_eq_true]
      intro other hother
      by_cases hsame : payload.get? "schema_id" = some (.str other.id)
      · have hids : other.id = schema.id := Json.str.inj (Option.some.inj (hsame.symm.trans hid))
        rw [List.inj_on_of_nodup_map hnames hother hknown hids, haccepts, Bool.or_true]
      · exact Bool.or_eq_true .. ▸ .inl (decide_eq_true hsame)

def zeroHash : String := "0000000000000000000000000000000000000000000000000000000000000000"

def offlineTask (name : String) : Json :=
  .obj (.ofList
    [("tenant_id", .str "tenant-alpha"), ("evaluation_task_id", .str name), ("fixture_id", .str name),
     ("fixture_source_id", .str name), ("fixture_source_path", .str "fixtures/intake.json"),
     ("fixture_sha256", .str zeroHash), ("policy_source_id", .str name),
     ("policy_source_path", .str "evals/sources/policy.json"), ("policy_sha256", .str zeroHash),
     ("task_sha256", .str zeroHash), ("oracle_id", .str name), ("oracle_sha256", .str zeroHash),
     ("evaluation_case_id", .str name), ("grader_result_id", .str name), ("run_metrics_id", .str name),
     ("evaluation_result_id", .str name), ("result", .str "passed"), ("failure_classification", .null),
     ("hard_gate_passed", .bool true),
     ("hard_gates", .arr (.ofList [.obj (.ofList
       [("name", .str "offline_replay"), ("passed", .bool true), ("applicable", .bool true),
        ("reason_code", .str "offline")])])),
     ("dimensions", .arr .nil), ("quality_score", .int 100),
     ("metrics", .obj (.ofList
       [("tool_call_count", .int 0), ("local_effect_count", .int 0), ("network_request_count", .int 0),
        ("model_invocation_count", .int 0), ("external_write_attempt_count", .int 0)])),
     ("observation", .obj (.ofList
       [("state", .str "RECEIVED"), ("outcome", .str "accepted"), ("evidence_valid", .bool true),
        ("approval_valid", .bool true), ("tool_call_count", .int 0), ("local_effect_count", .int 0),
        ("offline", .bool true), ("replay", .bool true), ("network", .bool false), ("model", .bool false),
        ("external_write", .bool false)]))])

def offlineTasks : List String := ["a", "b", "c", "d", "e", "f", "g", "h", "i", "j", "k", "l"]

/-- A snapshot of twelve passed tasks that claims a hash of zeros. -/
def unhashedSnapshot : JsonFields :=
  .ofList
    [("schema_id", .str evaluationSuiteSnapshotSchema.id), ("schema_version", .str "v1"),
     ("tenant_id", .str "tenant-alpha"),
     ("evaluation_suite_snapshot_id", .str ("evaluation-suite-snapshot:" ++ zeroHash)),
     ("suite_id", .str "offline-seed.v1"), ("profile", .str "benchmark-core.v1"), ("suite_report_id", .str "report-1"),
     ("suite_sha256", .str zeroHash), ("report_sha256", .str zeroHash), ("accepted", .bool true),
     ("repeated_baseline_equal", .bool true), ("task_count", .int 12), ("passed_task_count", .int 12),
     ("failed_task_count", .int 0), ("unscored_task_count", .int 0),
     ("task_result_ids", .arr (.strings offlineTasks)),
     ("capability_flags", .obj (.ofList
       [("offline", .bool true), ("replay", .bool true), ("network", .bool false), ("model", .bool false),
        ("external_write", .bool false)])),
     ("tasks", .arr (.ofList (offlineTasks.map offlineTask))), ("snapshot_sha256", .str zeroHash)]

/-- The hash of the snapshot. -/
def unhashedSha256 : String := "e9ceac41404e7b36720621bfdf7290a8c24680b3d9105d4becc44205ed376a31"

def unhashedRuntime : ExactRuntime consoleSchemas :=
  exactRuntime _ (by decide +kernel) (fun _ => "") (fun _ => none)

/-- The console shows a snapshot whose hash is not its own. -/
theorem unhashed_shown :
    Console.validateEvaluationSnapshot (.obj unhashedSnapshot) = some unhashedSnapshot ∧
      Python.validateEvaluationSuiteSnapshot unhashedRuntime.toContractRuntime (fun _ => unhashedSha256)
        unhashedSnapshot = .error ⟨"evaluation-suite-snapshot", "snapshot_sha256_mismatch"⟩ ∧
      ¬ ∀ value snapshot, Console.validateEvaluationSnapshot value = some snapshot → value = .obj snapshot ∧
        Python.validateEvaluationSuiteSnapshot unhashedRuntime.toContractRuntime (fun _ => unhashedSha256) snapshot =
          .ok () := by
  have hshown : Console.validateEvaluationSnapshot (.obj unhashedSnapshot) = some unhashedSnapshot := by
    decide +kernel
  have hpython : Python.validateEvaluationSuiteSnapshot unhashedRuntime.toContractRuntime (fun _ => unhashedSha256)
      unhashedSnapshot = .error ⟨"evaluation-suite-snapshot", "snapshot_sha256_mismatch"⟩ := by decide +kernel
  refine ⟨hshown, hpython, fun h => ?_⟩
  obtain ⟨-, haccepted⟩ := h _ _ hshown
  rw [hpython] at haccepted
  cases haccepted

end WeFlow
