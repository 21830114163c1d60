import Mathlib.Data.List.Find
import WeFlow.Contracts.Languages

/-!
# `Judgement` — both languages judge alike, but for an expiry that cannot be read

Every check of the two languages is compared on payloads that the schemas accept. The delivery chain has no
expiry and is judged alike. The authorization profile and the approval are judged alike exactly if the
expiries can be read or something else refuses them: TypeScript accepts an authorization whose expiry is no
timestamp.

## Contents

* `Python.eq_alike`, `same_alike`, `binding_alike` — the single checks.
* `ProfileFacts`, `ApprovalFacts` — what both languages require apart from the expiries.
* `languages_judge_alike` — the three validators.
-/

namespace WeFlow

open Txn

variable {runtime : ContractRuntime} {payload left right : JsonFields} {schema schema' : ContractSchema}
  {u : Unit}

/-! ## Single checks -/

theorem Python.eq_text {value : Option Json} {s : String} :
    Python.eq value (some (.str s)) = true ↔ value = some (.str s) := by
  cases value with
  | none => simp [Python.eq, Json.pyEq_str]
  | some v => simp [Python.eq, Json.pyEq_str]

theorem TypeScript.eq_text {value : Option Json} {s : String} :
    TypeScript.eq value (some (.str s)) = true ↔ value = some (.str s) := by
  cases value with
  | none => simp [TypeScript.eq]
  | some v => cases v <;> simp [TypeScript.eq, Json.strictEq, Json.number?, sameNumber]

theorem TypeScript.eq_null {value : Option Json} :
    TypeScript.eq value (some .null) = true ↔ value = some .null := by
  cases value with
  | none => simp [TypeScript.eq]
  | some v => cases v <;> simp [TypeScript.eq, Json.strictEq, Json.number?, sameNumber]

theorem Python.text_eq {value : Option Json} {s : String} :
    Python.eq (some (.str s)) value = true ↔ value = some (.str s) := by
  cases value with
  | none => simp [Python.eq, Json.pyEq, Json.pyNumber?, Json.number?, sameNumber]
  | some v => cases v <;> simp [Python.eq, Json.pyEq, Json.pyNumber?, Json.number?, sameNumber, eq_comm]

theorem TypeScript.text_eq {value : Option Json} {s : String} :
    TypeScript.eq (some (.str s)) value = true ↔ value = some (.str s) := by
  cases value with
  | none => simp [TypeScript.eq]
  | some v => cases v <;> simp [TypeScript.eq, Json.strictEq, Json.number?, sameNumber, eq_comm]

theorem TypeScript.eq_bool {value : Option Json} {b : Bool} :
    TypeScript.eq value (some (.bool b)) = true ↔ value = some (.bool b) := by
  cases value with
  | none => simp [TypeScript.eq]
  | some v => cases v <;> simp [TypeScript.eq, Json.strictEq, Json.number?, sameNumber]

/-- A text is equal in both languages to itself alone. -/
theorem eq_iff_of_text {l r : Option Json} {s : String} (h : l = some (.str s) ∨ r = some (.str s)) :
    (Python.eq l r = true ↔ l = r) ∧ (TypeScript.eq l r = true ↔ l = r) := by
  rcases h with rfl | rfl
  · exact ⟨Python.text_eq.trans eq_comm, TypeScript.text_eq.trans eq_comm⟩
  · exact ⟨Python.eq_text, TypeScript.eq_text⟩

/-- Strings and integers compare alike, and neither equals a missing field. -/
theorem eq_alike {l r : Option Json} (hl : ∀ v ∈ l, v.plain = true) (hr : ∀ v ∈ r, v.plain = true) :
    Python.eq l r = TypeScript.eq l r := by
  cases l with
  | none =>
      cases r with
      | none => rfl
      | some b =>
          have hb := hr b rfl
          cases b <;> simp_all [Python.eq, TypeScript.eq, Json.plain, Json.pyEq, Json.pyNumber?, Json.number?,
            sameNumber]
  | some a =>
      have ha := hl a rfl
      cases r with
      | none =>
          cases a <;> simp_all [Python.eq, TypeScript.eq, Json.plain, Json.pyEq, Json.pyNumber?, Json.number?,
            sameNumber]
      | some b => exact (Json.strictEq_eq_pyEq ha (hr b rfl)).symm

/-- Strings, numbers and `null` compare alike. -/
theorem nullable_alike {a b : Json} (ha : a = .null ∨ a.plain = true) (hb : b = .null ∨ b.plain = true) :
    Python.eq (some a) (some b) = TypeScript.eq (some a) (some b) := by
  rcases ha with rfl | ha
  · rcases hb with rfl | hb
    · rfl
    · cases b <;> simp_all [Python.eq, TypeScript.eq, Json.strictEq, Json.plain, Json.pyEq, Json.pyNumber?,
        Json.number?, sameNumber]
  · rcases hb with rfl | hb
    · cases a <;> simp_all [Python.eq, TypeScript.eq, Json.strictEq, Json.plain, Json.pyEq, Json.pyNumber?,
        Json.number?, sameNumber]
    · exact (Json.strictEq_eq_pyEq ha hb).symm

theorem contains_alike (list : Option Json) (value : String) :
    Python.contains list value = TypeScript.includes list value := by
  have hitem : ∀ item : Json, item.pyEq (.str value) = item.strictEq (.str value) := by
    intro item
    have h : Python.eq (some item) (some (.str value)) = true ↔
        TypeScript.eq (some item) (some (.str value)) = true := Python.eq_text.trans TypeScript.eq_text.symm
    exact Bool.eq_iff_iff.mpr h
  cases list with
  | none => rfl
  | some v => cases v <;> simp [Python.contains, Python.items, TypeScript.includes, JsonItems.toList, hitem]

/-! ## Accepted payloads -/

theorem schema_alike (schema : ContractSchema) (payload : JsonFields) :
    Alike (Python.requireSchema runtime payload schema)
      (TypeScript.validateExpectedSchema runtime payload schema) := by
  refine alike_bind ?_ fun _ _ => alike_require ?_
  · intro u
    rw [TypeScript.validatePayload]
    cases runtime.validatePayload payload with
    | ok u => exact alike_pure u ()
    | error e => simp
  · rw [Python.eq_text, TypeScript.eq_text]

theorem Python.requireSchema_iff :
    Python.requireSchema runtime payload schema = .ok () ↔
      runtime.validatePayload payload = .ok () ∧ payload.get? "schema_id" = some (.str schema.id) := by
  rw [Python.requireSchema, unit_bind_eq_ok, require_eq_ok, Python.eq_text]

theorem TypeScript.validatePayload_iff :
    TypeScript.validatePayload runtime payload = .ok () ↔ runtime.validatePayload payload = .ok () := by
  rw [TypeScript.validatePayload]
  cases runtime.validatePayload payload with
  | ok u => exact iff_of_true rfl rfl
  | error e => simp

/-- A payload that passes its schema check is one that the schema accepts. -/
theorem accepted (h : Python.requireSchema runtime payload schema = .ok ()) (hmem : schema ∈ change4Schemas) :
    schema.accepts payload = true := by
  obtain ⟨hvalid, hid⟩ := unit_bind_eq_ok.mp h
  rw [require_eq_ok, Python.eq_text] at hid
  exact runtime.shaped payload hvalid schema hmem hid

theorem SchemaRuntime.accepted {schemas : List ContractSchema} (runtime : SchemaRuntime schemas)
    (h : Python.requireSchema runtime.toContractRuntime payload schema = .ok ()) (hmem : schema ∈ schemas) :
    schema.accepts payload = true := by
  obtain ⟨hvalid, hid⟩ := unit_bind_eq_ok.mp h
  rw [require_eq_ok, Python.eq_text] at hid
  exact runtime.shapes payload hvalid schema hmem hid

/-- A required field whose value may be `null`. -/
theorem ContractSchema.nullable_value {field : String} {rule : FieldRule} (h : schema.accepts payload = true)
    (hfield : field ∈ schema.required.map (·.1)) (hrule : schema.rule? field = some (.nullable rule))
    (hplain : rule.plain = true) : ∃ v, payload.get? field = some v ∧ (v = .null ∨ v.plain = true) := by
  obtain ⟨v, hv, haccepts⟩ := ContractSchema.required_value h hfield hrule
  rw [FieldRule.accepts, Bool.or_eq_true, decide_eq_true_eq] at haccepts
  exact ⟨v, hv, haccepts.imp (fun hnull => hnull) (FieldRule.plain_of_accepts hplain)⟩

/-- A required text. -/
theorem ContractSchema.text_value {field : String} {minLength : Nat} (h : schema.accepts payload = true)
    (hfield : field ∈ schema.required.map (·.1)) (hrule : schema.rule? field = some (.text minLength)) :
    ∃ s, payload.get? field = some (.str s) ∧ minLength ≤ s.toList.length := by
  obtain ⟨v, hv, haccepts⟩ := ContractSchema.required_value h hfield hrule
  cases v with
  | str s => exact ⟨s, hv, of_decide_eq_true haccepts⟩
  | _ => cases haccepts

theorem fields_alike (fields : List String) (schemaName : String) :
    Alike (Python.requireFields payload fields schemaName) (TypeScript.requireChange4Fields payload fields) :=
  alike_forM fun _ _ => alike_require Iff.rfl

theorem Python.same_iff {fields : List String} {schemaName : String} :
    Python.same left right fields schemaName = .ok () ↔
      ∀ field ∈ fields, Python.eq (left.get? field) (right.get? field) = true :=
  forM_require_eq_ok

theorem TypeScript.same_iff {fields : List String} :
    TypeScript.change4Same left right fields = .ok () ↔
      ∀ field ∈ fields, TypeScript.eq (left.get? field) (right.get? field) = true :=
  forM_require_eq_ok

theorem hash_alike (hashField schemaName : String) :
    Alike (Python.requireHash runtime payload hashField schemaName)
      (TypeScript.change4ClaimedHash runtime payload hashField) := by
  refine alike_require ?_
  rw [decide_eq_true_eq, TypeScript.eq_text]

/-- Fields whose values are strings and integers in both payloads are the same alike. -/
theorem same_alike {fields : List String} {schemaName : String} (hleft : schema.accepts left = true)
    (hright : schema'.accepts right = true)
    (hfields : (schema.comparable fields && schema'.comparable fields) = true) :
    Alike (Python.same left right fields schemaName) (TypeScript.change4Same left right fields) := by
  rw [Bool.and_eq_true] at hfields
  refine alike_forM fun field hfield => alike_require ?_
  rw [eq_alike (ContractSchema.plain_of_comparable hleft hfields.1 hfield)
    (ContractSchema.plain_of_comparable hright hfields.2 hfield)]

/-- The evidence of an accepted record is an array of strings. -/
theorem evidence_strings {minItems : Nat} {capitals : Bool} (h : schema.accepts payload = true)
    (hrequired : "evidence_hashes" ∈ schema.required.map (·.1))
    (hrule : schema.rule? "evidence_hashes" = some (.list minItems (.hash capitals))) :
    ∃ texts, payload.get? "evidence_hashes" = some (.arr (.strings texts)) := by
  obtain ⟨value, hvalue⟩ := ContractSchema.required_isSome h hrequired
  obtain ⟨texts, rfl⟩ := FieldRule.strings_of_accepts (ContractSchema.rule_accepts h hrule hvalue)
  exact ⟨texts, hvalue⟩

theorem distinct_alike (texts : List String) :
    Python.distinct (.strings texts) = TypeScript.distinct (.strings texts) := by
  simp [Python.distinct, TypeScript.distinct, JsonItems.strings, List.pairwise_map, Json.pyEq, Json.strictEq]

/-- Arrays of strings are in one order for TypeScript when they are equal for Python. -/
theorem ordered_alike {l r : List String} :
    TypeScript.change4OrderedEqual (some (.arr (.strings l))) (some (.arr (.strings r))) =
      (JsonItems.strings l).pyEq (.strings r) := by
  rw [Bool.eq_iff_iff, JsonItems.pyEq_strings]
  simp [TypeScript.change4OrderedEqual, TypeScript.isArray, Json.canonical, JsonItems.canonical_strings]

/-- Fields with the evidence among them: TypeScript compares the evidence apart. -/
theorem same_evidence_iff (before after : List String) {schemaName : String} {l r : List String}
    (hleft : schema.accepts left = true) (hright : schema'.accepts right = true)
    (hfields : (schema.comparable (before ++ after) && schema'.comparable (before ++ after)) = true)
    (hl : left.get? "evidence_hashes" = some (.arr (.strings l)))
    (hr : right.get? "evidence_hashes" = some (.arr (.strings r))) :
    Python.same left right (before ++ "evidence_hashes" :: after) schemaName = .ok () ↔
      TypeScript.change4Same left right (before ++ after) = .ok () ∧
        TypeScript.change4OrderedEqual (left.get? "evidence_hashes") (right.get? "evidence_hashes") = true := by
  have hevidence : Python.eq (left.get? "evidence_hashes") (right.get? "evidence_hashes") =
      TypeScript.change4OrderedEqual (left.get? "evidence_hashes") (right.get? "evidence_hashes") := by
    rw [hl, hr, ordered_alike]
    rfl
  have hrest : Alike (Python.same left right (before ++ after) schemaName)
      (TypeScript.change4Same left right (before ++ after)) := same_alike hleft hright hfields
  rw [← hrest, Python.same_iff, Python.same_iff, ← hevidence, List.forall_mem_append, List.forall_mem_append,
    List.forall_mem_cons]
  constructor
  · rintro ⟨hbefore, heq, hafter⟩
    exact ⟨⟨hbefore, hafter⟩, heq⟩
  · rintro ⟨⟨hbefore, hafter⟩, heq⟩
    exact ⟨hbefore, heq, hafter⟩

theorem binding_alike (binding : JsonFields) :
    Alike (Python.validateAuthorizationBinding runtime binding)
      (TypeScript.validateAuthorizationBinding runtime binding) := by
  refine alike_bind (schema_alike _ _) fun _ hschema => alike_bind (hash_alike _ _) fun _ _ =>
    alike_require ?_
  obtain ⟨texts, hevidence⟩ := evidence_strings (accepted hschema (by simp [change4Schemas]))
    (by decide) rfl
  rw [hevidence]
  show Python.distinct (.strings texts) = true ↔ TypeScript.distinct (.strings texts) = true
  rw [distinct_alike]

/-- A record with evidence is current alike. -/
theorem current_alike {record : JsonFields} {context : Change4CurrentContext} {texts : List String}
    (hevidence : record.get? "evidence_hashes" = some (.arr (.strings texts)))
    (hversion : ∀ v ∈ record.get? "workflow_version", v.plain = true) :
    Python.current record context = TypeScript.current record context := by
  have htext : ∀ (value : Option Json) (s : String),
      Python.eq value (some (.str s)) = TypeScript.eq value (some (.str s)) := fun value s =>
    Bool.eq_iff_iff.mpr (Python.eq_text.trans TypeScript.eq_text.symm)
  rw [Python.current, TypeScript.current, hevidence, ordered_alike, htext, htext, htext,
    eq_alike hversion fun v hv => by cases hv; rfl]
  rfl

/-! ## Expiries -/

/-- Whether an expiry can be read. -/
def Readable (runtime : ContractRuntime) (payload : JsonFields) : Prop :=
  (Python.expiry? runtime payload).isSome = true

/-- Whether an expiry denotes an instant at or before now. -/
def Expired (runtime : ContractRuntime) (payload : JsonFields) (now : Instant) : Prop :=
  ∃ expiry, Python.expiry? runtime payload = some expiry ∧ expiry ≤ now

/-- Whether an expiry denotes an instant after now. -/
def Outlives (runtime : ContractRuntime) (payload : JsonFields) (now : Instant) : Prop :=
  ∃ expiry, Python.expiry? runtime payload = some expiry ∧ now < expiry

/-- `Date.parse` of an accepted record's expiry reads what Python reads. -/
theorem notPast_iff (runtime : ContractRuntime) (now : Instant) {minLength : Nat}
    (h : schema.accepts payload = true) (hrequired : "expires_at" ∈ schema.required.map (·.1))
    (hrule : schema.rule? "expires_at" = some (.text minLength)) :
    (!TypeScript.past runtime payload now) = true ↔ ¬ Expired runtime payload now := by
  obtain ⟨value, hvalue⟩ := ContractSchema.required_isSome h hrequired
  have haccepts := ContractSchema.rule_accepts h hrule hvalue
  cases value with
  | str s =>
      have htext : textOf (some (.str s)) = s := rfl
      cases hparse : runtime.parseTime s with
      | none => simp [TypeScript.past, Expired, Python.expiry?, hvalue, htext, hparse]
      | some expiry => simp [TypeScript.past, Expired, Python.expiry?, hvalue, htext, hparse]
  | _ => cases haccepts

theorem unexpired_eq {now : Instant} :
    Python.unexpired runtime payload now = true ↔ Outlives runtime payload now := by
  rw [Python.unexpired, Outlives]
  cases Python.expiry? runtime payload with
  | none => simp
  | some expiry => simp

theorem outlives_iff {now : Instant} :
    Outlives runtime payload now ↔ Readable runtime payload ∧ ¬ Expired runtime payload now := by
  rw [Outlives, Readable, Expired]
  cases Python.expiry? runtime payload with
  | none => simp
  | some expiry => simp

/-! ## The authorization profile -/

/-- What both languages require of a profile apart from the expiries. -/
structure ProfileFacts (runtime : ContractRuntime) (binding grant decision : JsonFields)
    (context : Change4AuthorizationContext) : Prop where
  action : context.action ∈ change4Actions
  bindingValid : Python.validateAuthorizationBinding runtime binding = .ok ()
  grantValid : Python.requireSchema runtime grant capabilityGrantSchema = .ok ()
  decisionValid : Python.requireSchema runtime decision policyDecisionSchema = .ok ()
  grantFields : Python.requireFields grant grantFields "capability-grant" = .ok ()
  grantHash : Python.requireHash runtime grant "grant_sha256" "capability-grant" = .ok ()
  policyFields : Python.requireFields decision policyFields "policy-decision" = .ok ()
  decisionHash : Python.requireHash runtime decision "policy_decision_sha256" "policy-decision" = .ok ()
  allowed : decision.get? "decision" = some (.str "allow")
  active : grant.get? "status" = some (.str "active")
  covers : Python.covers grant context = true
  sameGrant : Python.same binding grant bindingGrantFields "authorization-binding" = .ok ()
  sameDecision : Python.same binding decision
    ["tenant_id", "case_id", "case_revision_id", "workflow_id", "checkpoint_id", "workflow_version",
     "candidate_hash", "evidence_hashes", "policy_decision_id", "policy_version",
     "policy_decision_sha256", "grant_id", "grant_sha256", "subject_id", "role"]
    "authorization-binding" = .ok ()
  purpose : Python.purpose binding decision context = true
  current : Python.current binding context.toChange4CurrentContext = true
  tenant : Python.isEffective (binding.get? "tenant_id") context.effectiveTenantId = true
  subject : Python.isEffective (binding.get? "subject_id") context.effectiveSubjectId = true
  role : Python.isEffective (binding.get? "role") context.effectiveRole = true

section Profile

variable {binding grant decision : JsonFields} {context : Change4AuthorizationContext}

theorem Python.profile_iff :
    Python.validateChange4AuthorizationProfile runtime binding grant decision context true = .ok () ↔
      ProfileFacts runtime binding grant decision context ∧ Outlives runtime grant context.now ∧
        Outlives runtime binding context.now := by
  rw [Python.validateChange4AuthorizationProfile]
  simp only [unit_bind_eq_ok, require_eq_ok, Bool.not_true, Bool.false_or, Bool.and_eq_true, unexpired_eq,
    Python.eq_text, decide_eq_true_eq]
  constructor
  · rintro ⟨haction, hb, hg, hd, hgf, hgh, hdf, hdh, hallow, hactive, houtlives, hcovers, hsg, hsd, hpurpose,
      hcurrent, htenant, hsubject, hrole⟩
    exact ⟨⟨haction, hb, hg, hd, hgf, hgh, hdf, hdh, hallow, hactive, hcovers, hsg, hsd, hpurpose, hcurrent,
      htenant, hsubject, hrole⟩, houtlives⟩
  · rintro ⟨h, houtlives⟩
    exact ⟨h.action, h.bindingValid, h.grantValid, h.decisionValid, h.grantFields, h.grantHash, h.policyFields,
      h.decisionHash, h.allowed, h.active, houtlives, h.covers, h.sameGrant, h.sameDecision, h.purpose,
      h.current, h.tenant, h.subject, h.role⟩

/-- The binding of the profile with its evidence, and the decision with its. -/
theorem Python.binding_accepted (h : Python.validateAuthorizationBinding runtime binding = .ok ()) :
    authorizationBindingSchema.accepts binding = true ∧
      ∃ texts, binding.get? "evidence_hashes" = some (.arr (.strings texts)) := by
  have hbinding := accepted (unit_bind_eq_ok.mp h).1 (by simp [change4Schemas])
  exact ⟨hbinding, evidence_strings hbinding (by decide) rfl⟩

/-- TypeScript's last check of a profile is Python's purpose, evidence and current facts. -/
theorem bindingMatches_iff (hbinding : authorizationBindingSchema.accepts binding = true) {texts : List String}
    (hevidence : binding.get? "evidence_hashes" = some (.arr (.strings texts))) :
    TypeScript.bindingMatches binding decision context = true ↔
      TypeScript.change4OrderedEqual (binding.get? "evidence_hashes") (decision.get? "evidence_hashes") = true ∧
        Python.purpose binding decision context = true ∧
        Python.current binding context.toChange4CurrentContext = true := by
  have hcomparable : authorizationBindingSchema.comparable ["workflow_version"] = true := by decide
  rw [current_alike hevidence (ContractSchema.plain_of_comparable hbinding hcomparable List.mem_cons_self)]
  simp only [TypeScript.bindingMatches, Python.purpose, Bool.and_eq_true, TypeScript.eq_text, Python.eq_text]
  constructor
  · rintro ⟨⟨⟨⟨⟨⟨⟨he, ha⟩, hda⟩, hr⟩, hdr⟩, hc⟩, hdc⟩, hcurrent⟩
    exact ⟨he, ⟨⟨⟨⟨⟨ha, hda⟩, hr⟩, hc⟩, hdr⟩, hdc⟩, hcurrent⟩
  · rintro ⟨he, ⟨⟨⟨⟨⟨ha, hda⟩, hr⟩, hc⟩, hdr⟩, hdc⟩, hcurrent⟩
    exact ⟨⟨⟨⟨⟨⟨⟨he, ha⟩, hda⟩, hr⟩, hdr⟩, hc⟩, hdc⟩, hcurrent⟩

/-- TypeScript's check of the grant is Python's, but for the two expiries. -/
theorem grantScoped_iff (hgrant : capabilityGrantSchema.accepts grant = true)
    (hbinding : authorizationBindingSchema.accepts binding = true) :
    TypeScript.grantScoped runtime binding grant context = true ↔
      grant.get? "status" = some (.str "active") ∧ ¬ Expired runtime grant context.now ∧
        ¬ Expired runtime binding context.now ∧ Python.covers grant context = true := by
  have hg := notPast_iff runtime context.now hgrant (by decide) rfl
  have hb := notPast_iff runtime context.now hbinding (by decide) rfl
  simp only [TypeScript.grantScoped, Python.covers, Bool.and_eq_true, TypeScript.eq_text, Python.text_eq, hg, hb,
    contains_alike, decide_eq_true_eq, safeDataClassifications, List.mem_singleton]
  constructor
  · rintro ⟨⟨⟨⟨⟨⟨hs, hpg⟩, hpb⟩, hscopes⟩, hr⟩, hc⟩, hsafe⟩
    exact ⟨hs, hpg, hpb, ⟨⟨hscopes, hr⟩, hc⟩, hsafe⟩
  · rintro ⟨hs, hpg, hpb, ⟨⟨hscopes, hr⟩, hc⟩, hsafe⟩
    exact ⟨⟨⟨⟨⟨⟨hs, hpg⟩, hpb⟩, hscopes⟩, hr⟩, hc⟩, hsafe⟩

theorem isEffective_alike (value : Option Json) (effective : Option String) :
    TypeScript.isEffective value effective = Python.isEffective value effective := by
  cases effective with
  | none => rfl
  | some expected => exact Bool.eq_iff_iff.mpr (TypeScript.eq_text.trans Python.eq_text.symm)

theorem TypeScript.profile_iff :
    TypeScript.validateChange4AuthorizationProfile runtime binding grant decision context = .ok () ↔
      ProfileFacts runtime binding grant decision context ∧ ¬ Expired runtime grant context.now ∧
        ¬ Expired runtime binding context.now := by
  rw [TypeScript.validateChange4AuthorizationProfile]
  simp only [unit_bind_eq_ok, require_eq_ok, TypeScript.eq_text, decide_eq_true_eq, isEffective_alike,
    ← binding_alike _ (), ← schema_alike _ _ (), ← fields_alike grantFields "capability-grant" (),
    ← fields_alike policyFields "policy-decision" (), ← hash_alike "grant_sha256" "capability-grant" (),
    ← hash_alike "policy_decision_sha256" "policy-decision" ()]
  constructor
  · rintro ⟨haction, hb, hg, hd, hgf, hgh, hdf, hdh, hallow, hscoped, hsg, hsd, hmatches, htenant, hsubject,
      hrole⟩
    obtain ⟨hbinding, texts, hevidence⟩ := Python.binding_accepted hb
    have hgrant := accepted hg (by simp [change4Schemas])
    have hdecision := accepted hd (by simp [change4Schemas])
    obtain ⟨dtexts, hdevidence⟩ := evidence_strings hdecision (by decide) rfl
    obtain ⟨hactive, hpg, hpb, hcovers⟩ := (grantScoped_iff hgrant hbinding).mp hscoped
    obtain ⟨hordered, hpurpose, hcurrent⟩ := (bindingMatches_iff hbinding hevidence).mp hmatches
    refine ⟨⟨haction, hb, hg, hd, hgf, hgh, hdf, hdh, hallow, hactive, hcovers,
      (same_alike hbinding hgrant (by decide) ()).mpr hsg, ?_, hpurpose, hcurrent, htenant, hsubject, hrole⟩,
      hpg, hpb⟩
    exact (same_evidence_iff ["tenant_id", "case_id", "case_revision_id", "workflow_id", "checkpoint_id",
      "workflow_version", "candidate_hash"] _ hbinding hdecision (by decide) hevidence hdevidence).mpr
        ⟨hsd, hordered⟩
  · rintro ⟨h, hpg, hpb⟩
    obtain ⟨hbinding, texts, hevidence⟩ := Python.binding_accepted h.bindingValid
    have hgrant := accepted h.grantValid (by simp [change4Schemas])
    have hdecision := accepted h.decisionValid (by simp [change4Schemas])
    obtain ⟨dtexts, hdevidence⟩ := evidence_strings hdecision (by decide) rfl
    obtain ⟨hsd, hordered⟩ := (same_evidence_iff ["tenant_id", "case_id", "case_revision_id", "workflow_id",
      "checkpoint_id", "workflow_version", "candidate_hash"] _ hbinding hdecision (by decide) hevidence
      hdevidence).mp h.sameDecision
    exact ⟨h.action, h.bindingValid, h.grantValid, h.decisionValid, h.grantFields, h.grantHash,
      h.policyFields, h.decisionHash, h.allowed,
      (grantScoped_iff hgrant hbinding).mpr ⟨h.active, hpg, hpb, h.covers⟩,
      (same_alike hbinding hgrant (by decide) ()).mp h.sameGrant, hsd,
      (bindingMatches_iff hbinding hevidence).mpr ⟨hordered, h.purpose, h.current⟩, h.tenant, h.subject,
      h.role⟩

end Profile

/-! ## The approval -/

/-- What both languages require of an approval apart from its expiry. -/
structure ApprovalFacts (runtime : ContractRuntime) (request decision binding : JsonFields)
    (context : Change4ApprovalContext) : Prop where
  requestValid : Python.requireSchema runtime request approvalRequestSchema = .ok ()
  decisionValid : Python.requireSchema runtime decision approvalDecisionSchema = .ok ()
  bindingValid : Python.validateAuthorizationBinding runtime binding = .ok ()
  requestFields : Python.requireFields request requestFields "approval-request" = .ok ()
  approvalFields : Python.requireFields decision approvalFields "approval-decision" = .ok ()
  decisionHash : Python.requireHash runtime decision "decision_sha256" "approval-decision" = .ok ()
  approved : decision.get? "decision" = some (.str "approved")
  sameDecision : Python.same request decision
    ["tenant_id", "approval_request_id", "case_id", "case_revision_id", "candidate_hash",
     "evidence_hashes", "workflow_id", "checkpoint_id", "workflow_version",
     "authorization_binding_sha256"] "approval-decision" = .ok ()
  bound : Python.bound request binding = true
  decidedBy : Python.decidedBy decision context = true
  current : Python.current request context.toChange4CurrentContext = true

section Approval

variable {request decision binding : JsonFields} {context : Change4ApprovalContext}

theorem Python.approval_iff :
    Python.validateHashBoundApproval runtime request decision binding context = .ok () ↔
      ApprovalFacts runtime request decision binding context ∧ Outlives runtime decision context.now := by
  rw [Python.validateHashBoundApproval]
  simp only [unit_bind_eq_ok, require_eq_ok, unexpired_eq, Python.eq_text]
  constructor
  · rintro ⟨hr, hd, hb, hrf, haf, hhash, happroved, hsame, hbound, hactor, hcurrent, houtlives⟩
    exact ⟨⟨hr, hd, hb, hrf, haf, hhash, happroved, hsame, hbound, hactor, hcurrent⟩, houtlives⟩
  · rintro ⟨h, houtlives⟩
    exact ⟨h.requestValid, h.decisionValid, h.bindingValid, h.requestFields, h.approvalFields, h.decisionHash,
      h.approved, h.sameDecision, h.bound, h.decidedBy, h.current, houtlives⟩

/-- The fields in which a request repeats its binding compare alike. -/
theorem bound_alike (hrequest : approvalRequestSchema.accepts request = true)
    (hbinding : authorizationBindingSchema.accepts binding = true) {field : String}
    (hfield : field ∈ ["authorization_binding_sha256", "policy_decision_sha256", "policy_version",
      "grant_sha256"]) :
    Python.eq (request.get? field) (binding.get? field) =
      TypeScript.eq (request.get? field) (binding.get? field) :=
  eq_alike (ContractSchema.plain_of_comparable hrequest (by decide) hfield)
    (ContractSchema.plain_of_comparable hbinding (by decide) hfield)

/-- The tenant that a decision names compares alike with the caller's, whether it passes one or not. -/
theorem tenant_alike (hdecision : approvalDecisionSchema.accepts decision = true) (tenantId : Option String) :
    Python.eq (decision.get? "tenant_id") (tenantId.map .str) =
      TypeScript.eq (decision.get? "tenant_id") (tenantId.map .str) := by
  have hcomparable : approvalDecisionSchema.comparable ["tenant_id"] = true := by decide
  refine eq_alike (ContractSchema.plain_of_comparable hdecision hcomparable List.mem_cons_self) fun v hv => ?_
  obtain ⟨s, -, rfl⟩ := Option.map_eq_some_iff.mp hv
  rfl

/-- TypeScript's last check of an approval is Python's, but for the expiry. -/
theorem approvalMatches_iff (hrequest : approvalRequestSchema.accepts request = true)
    (hdecision : approvalDecisionSchema.accepts decision = true)
    (hbinding : authorizationBindingSchema.accepts binding = true) :
    TypeScript.approvalMatches runtime request decision binding context = true ↔
      Python.bound request binding = true ∧ Python.decidedBy decision context = true ∧
        Python.current request context.toChange4CurrentContext = true ∧
        ¬ Expired runtime decision context.now := by
  have hexpiry := notPast_iff runtime context.now hdecision (by decide) rfl
  have hcomparable : approvalRequestSchema.comparable ["workflow_version"] = true := by decide
  obtain ⟨texts, hevidence⟩ := evidence_strings hrequest (by decide) rfl
  rw [current_alike hevidence (ContractSchema.plain_of_comparable hrequest hcomparable List.mem_cons_self),
    Python.bound, Python.decidedBy, bound_alike hrequest hbinding (by decide),
    bound_alike hrequest hbinding (by decide), bound_alike hrequest hbinding (by decide),
    bound_alike hrequest hbinding (by decide), tenant_alike hdecision]
  simp only [TypeScript.approvalMatches, Bool.and_eq_true, TypeScript.eq_text, Python.eq_text, hexpiry]
  constructor
  · rintro ⟨⟨⟨⟨⟨⟨⟨⟨hsha, hpolicy⟩, hversion⟩, hgrant⟩, htenant⟩, hid⟩, hrole⟩, hcurrent⟩, hpast⟩
    exact ⟨⟨⟨⟨hsha, hpolicy⟩, hversion⟩, hgrant⟩, ⟨⟨htenant, hid⟩, hrole⟩, hcurrent, hpast⟩
  · rintro ⟨⟨⟨⟨hsha, hpolicy⟩, hversion⟩, hgrant⟩, ⟨⟨htenant, hid⟩, hrole⟩, hcurrent, hpast⟩
    exact ⟨⟨⟨⟨⟨⟨⟨⟨hsha, hpolicy⟩, hversion⟩, hgrant⟩, htenant⟩, hid⟩, hrole⟩, hcurrent⟩, hpast⟩

theorem TypeScript.approval_iff :
    TypeScript.validateHashBoundApproval runtime request decision binding context = .ok () ↔
      ApprovalFacts runtime request decision binding context ∧ ¬ Expired runtime decision context.now := by
  rw [TypeScript.validateHashBoundApproval]
  simp only [unit_bind_eq_ok, require_eq_ok, TypeScript.eq_text, ← binding_alike _ (), ← schema_alike _ _ (),
    ← fields_alike requestFields "approval-request" (), ← fields_alike approvalFields "approval-decision" (),
    ← hash_alike "decision_sha256" "approval-decision" ()]
  constructor
  · rintro ⟨hr, hd, hb, hrf, haf, hhash, happroved, hsame, hordered, hmatches⟩
    obtain ⟨hbinding, -⟩ := Python.binding_accepted hb
    have hrequest := accepted hr (by simp [change4Schemas])
    have hdecision := accepted hd (by simp [change4Schemas])
    obtain ⟨texts, hevidence⟩ := evidence_strings hrequest (by decide) rfl
    obtain ⟨dtexts, hdevidence⟩ := evidence_strings hdecision (by decide) rfl
    obtain ⟨hbound, hactor, hcurrent, hpast⟩ := (approvalMatches_iff hrequest hdecision hbinding).mp hmatches
    refine ⟨⟨hr, hd, hb, hrf, haf, hhash, happroved, ?_, hbound, hactor, hcurrent⟩, hpast⟩
    exact (same_evidence_iff ["tenant_id", "approval_request_id", "case_id", "case_revision_id",
      "candidate_hash"] _ hrequest hdecision (by decide) hevidence hdevidence).mpr ⟨hsame, hordered⟩
  · rintro ⟨h, hpast⟩
    obtain ⟨hbinding, -⟩ := Python.binding_accepted h.bindingValid
    have hrequest := accepted h.requestValid (by simp [change4Schemas])
    have hdecision := accepted h.decisionValid (by simp [change4Schemas])
    obtain ⟨texts, hevidence⟩ := evidence_strings hrequest (by decide) rfl
    obtain ⟨dtexts, hdevidence⟩ := evidence_strings hdecision (by decide) rfl
    obtain ⟨hsame, hordered⟩ := (same_evidence_iff ["tenant_id", "approval_request_id", "case_id",
      "case_revision_id", "candidate_hash"] _ hrequest hdecision (by decide) hevidence hdevidence).mp
        h.sameDecision
    exact ⟨h.requestValid, h.decisionValid, h.bindingValid, h.requestFields, h.approvalFields, h.decisionHash,
      h.approved, hsame, hordered,
      (approvalMatches_iff hrequest hdecision hbinding).mpr ⟨h.bound, h.decidedBy, h.current, hpast⟩⟩

end Approval

/-! ## The delivery chain -/

section Chain

variable {intent binding : JsonFields}

theorem observe_alike (hintent : outboundDeliveryIntentSchema.accepts intent = true) (seen : List String)
    (observation : JsonFields) :
    Alike (Python.observe runtime intent seen observation) (TypeScript.observe runtime intent seen observation) := by
  refine alike_bind (schema_alike _ _) fun _ hschema => alike_bind (alike_require Iff.rfl) fun _ _ =>
    alike_bind ?_ fun _ _ => alike_bind (alike_require ?_) fun _ _ => alike_pure _
  · have hobservation := accepted hschema (by simp [change4Schemas])
    exact same_alike hintent hobservation (by decide)
  · have hobservation := accepted hschema (by simp [change4Schemas])
    have hi : outboundDeliveryIntentSchema.comparable ["intent_id"] = true := by decide
    have ho : outboundDeliveryObservationSchema.comparable ["intent_id"] = true := by decide
    rw [eq_alike (ContractSchema.plain_of_comparable hobservation ho List.mem_cons_self)
      (ContractSchema.plain_of_comparable hintent hi List.mem_cons_self)]

/-- What an observation found compares alike with what a completion claims. -/
theorem found_alike {observation completion : JsonFields} {field : String}
    (hobservation : outboundDeliveryObservationSchema.accepts observation = true)
    (hcompletion : outboundDeliveryCompletionSchema.accepts completion = true)
    (hfield : field ∈ ["observed_delivery_id", "observed_version", "content_sha256"]) :
    Python.eq (observation.get? field) (completion.get? field) =
      TypeScript.eq (observation.get? field) (completion.get? field) := by
  have hclaimed : outboundDeliveryCompletionSchema.comparable
    ["observed_delivery_id", "observed_version", "content_sha256"] = true := by decide
  have hplain := ContractSchema.plain_of_comparable hcompletion hclaimed hfield
  have hfound : field ∈ outboundDeliveryObservationSchema.required.map (·.1) ∧
      field ∈ outboundDeliveryCompletionSchema.required.map (·.1) ∧
      ∃ rule, rule.plain = true ∧
        outboundDeliveryObservationSchema.rule? field = some (.nullable rule) := by
    simp only [List.mem_cons, List.not_mem_nil, or_false] at hfield
    rcases hfield with rfl | rfl | rfl <;> exact ⟨by decide, by decide, _, rfl, rfl⟩
  obtain ⟨hrequired, hrequired', rule, hrule, hnullable⟩ := hfound
  obtain ⟨a, ha, hscalar⟩ := ContractSchema.nullable_value hobservation hrequired hnullable hrule
  obtain ⟨b, hb⟩ := ContractSchema.required_isSome hcompletion hrequired'
  rw [ha, hb]
  exact nullable_alike hscalar (.inr (hplain b hb))

/-- The observation of a completion is found alike. -/
theorem matching?_alike {observations : List JsonFields} {completion : JsonFields}
    (hobservations : ∀ o ∈ observations, outboundDeliveryObservationSchema.accepts o = true)
    (hcompletion : outboundDeliveryCompletionSchema.accepts completion = true) :
    Python.matching? observations completion = TypeScript.matching? observations completion := by
  have ho : outboundDeliveryObservationSchema.comparable ["observation_id"] = true := by decide
  have hc : outboundDeliveryCompletionSchema.comparable ["observation_id"] = true := by decide
  refine List.find?_congr fun o hmem => ?_
  rw [eq_alike (ContractSchema.plain_of_comparable (hobservations o hmem) ho List.mem_cons_self)
    (ContractSchema.plain_of_comparable hcompletion hc List.mem_cons_self)]
  rw [Bool.eq_iff_iff, Bool.and_eq_true, Bool.and_eq_true, Python.eq_text, TypeScript.eq_text]

theorem complete_alike {observations : List JsonFields}
    (hintent : outboundDeliveryIntentSchema.accepts intent = true)
    (hobservations : ∀ o ∈ observations, outboundDeliveryObservationSchema.accepts o = true)
    (completion : JsonFields) :
    Alike (Python.complete runtime intent observations completion)
      (TypeScript.complete runtime intent observations completion) := by
  refine alike_bind (schema_alike _ _) fun _ hschema => ?_
  have hcompletion := accepted hschema (by simp [change4Schemas])
  have hi : outboundDeliveryIntentSchema.comparable ["intent_id"] = true := by decide
  have hc : outboundDeliveryCompletionSchema.comparable ["intent_id"] = true := by decide
  refine alike_bind (same_alike hintent hcompletion (by decide)) fun _ _ => alike_bind (alike_require ?_)
    fun _ _ => alike_bind (alike_fetch (matching?_alike hobservations hcompletion)) fun observation hfound =>
      alike_require ?_
  · rw [eq_alike (ContractSchema.plain_of_comparable hcompletion hc List.mem_cons_self)
      (ContractSchema.plain_of_comparable hintent hi List.mem_cons_self)]
  · have hmem := List.mem_of_find?_eq_some (fetch_eq_ok.mp hfound)
    rw [List.all_eq_true, List.all_eq_true]
    refine forall₂_congr fun field hfield => ?_
    rw [found_alike (hobservations observation hmem) hcompletion hfield]

/-- **The delivery chain is judged alike.** -/
theorem chain_alike (intent : JsonFields) (observations completions : List JsonFields) (binding : JsonFields) :
    Alike (Python.validateOutboundDeliveryChain runtime intent observations completions binding)
      (TypeScript.validateOutboundDeliveryChain runtime intent observations completions binding) := by
  refine alike_bind (schema_alike _ _) fun _ hschema => alike_bind (binding_alike _) fun _ hb => ?_
  have hintent := accepted hschema (by simp [change4Schemas])
  obtain ⟨hbinding, texts, hevidence⟩ := Python.binding_accepted hb
  obtain ⟨itexts, hievidence⟩ := evidence_strings hintent (by decide) rfl
  have hsame : ∀ field ∈ ["authorization_binding_sha256", "candidate_hash"],
      Python.eq (intent.get? field) (binding.get? field) =
        TypeScript.eq (intent.get? field) (binding.get? field) := fun field hfield =>
    eq_alike (ContractSchema.plain_of_comparable hintent (by decide) hfield)
      (ContractSchema.plain_of_comparable hbinding (by decide) hfield)
  have hordered : (Python.items (intent.get? "evidence_hashes")).pyEq
      (Python.items (binding.get? "evidence_hashes")) =
        TypeScript.change4OrderedEqual (intent.get? "evidence_hashes") (binding.get? "evidence_hashes") := by
    rw [hievidence, hevidence, ordered_alike]
    rfl
  have hrest : Alike
      (do let _ ← observations.foldlM (Python.observe runtime intent) []
          completions.forM (Python.complete runtime intent observations))
      (do let _ ← observations.foldlM (TypeScript.observe runtime intent) []
          completions.forM (TypeScript.complete runtime intent observations)) := by
    refine alike_bind (alike_foldlM fun seen o _ => observe_alike hintent seen o) fun _ hobserved => ?_
    have hobservations : ∀ o ∈ observations, outboundDeliveryObservationSchema.accepts o = true := by
      intro o ho
      obtain ⟨seen, seen', hstep⟩ := mem_of_foldlM_eq_ok hobserved ho
      exact accepted (unit_bind_eq_ok.mp hstep).1 (by simp [change4Schemas])
    exact alike_forM fun completion _ => complete_alike hintent hobservations completion
  intro u
  rw [hsame _ (by decide), hsame _ (by decide), hordered]
  simp only [require_bind_eq_ok, Bool.and_eq_true, and_assoc]
  constructor
  · rintro ⟨hsha, hevidence, hcandidate, hlength, h⟩
    exact ⟨hsha, hcandidate, hevidence, hlength, (hrest u).mp h⟩
  · rintro ⟨hsha, hcandidate, hevidence, hlength, h⟩
    exact ⟨hsha, hevidence, hcandidate, hlength, (hrest u).mpr h⟩

end Chain

/-! ## The three validators -/

/-- Both languages answer alike, and neither accepts a profile one of whose expiries denotes no instant after
    now. -/
def ProfileJudgedAlike (runtime : ContractRuntime) (binding grant decision : JsonFields)
    (context : Change4AuthorizationContext) : Prop :=
  let python := Python.validateChange4AuthorizationProfile runtime binding grant decision context true
  let typeScript := TypeScript.validateChange4AuthorizationProfile runtime binding grant decision context
  (typeScript = .ok () ↔ python = .ok ()) ∧
    (typeScript = .ok () ∨ python = .ok () →
      Outlives runtime grant context.now ∧ Outlives runtime binding context.now)

/-- Both languages answer alike, and neither accepts an approval whose expiry denotes no instant after now. -/
def ApprovalJudgedAlike (runtime : ContractRuntime) (request decision binding : JsonFields)
    (context : Change4ApprovalContext) : Prop :=
  let python := Python.validateHashBoundApproval runtime request decision binding context
  let typeScript := TypeScript.validateHashBoundApproval runtime request decision binding context
  (typeScript = .ok () ↔ python = .ok ()) ∧
    (typeScript = .ok () ∨ python = .ok () → Outlives runtime decision context.now)

def undatedCandidate : String := "cccccccccccccccccccccccccccccccccccccccccccccccccccccccccccccccc"

def undatedEvidence : String := "eeeeeeeeeeeeeeeeeeeeeeeeeeeeeeeeeeeeeeeeeeeeeeeeeeeeeeeeeeeeeeee"

def undatedInput : String := "0000000000000000000000000000000000000000000000000000000000000000"

def undatedGrantHash : String := "72e1054ecac70c9d87c68f06ae2c4b9e1cee95ed30d11e8dfe259dc91da02490"

def undatedDecisionHash : String := "f3407ca03ccabd6b3403fb881fe5d769b0aa37953bd085e54fd3f4207f16131e"

def undatedBindingHash : String := "0467434b545c632821ec6aceea6c23879b1680716ac0dbe77209aecccd9172b6"

/-- A grant that expires `never`. -/
def undatedGrant : JsonFields :=
  .ofList
    [("schema_id", .str capabilityGrantSchema.id),
     ("schema_version", .str "v1"), ("tenant_id", .str "t1"), ("grant_id", .str "g1"),
     ("subject_id", .str "agent"), ("capability", .str "deliver"),
     ("issued_at", .str "2026-01-01T00:00:00Z"), ("expires_at", .str "never"), ("status", .str "active"),
     ("scopes", .arr (.strings ["outbound_delivery.execute"])), ("grant_version", .str "v1"),
     ("role", .str "operator"), ("resource_scope", .str "r1"),
     ("data_classifications", .arr (.strings ["synthetic"])),
     ("grant_sha256", .str undatedGrantHash)]

def undatedDecision : JsonFields :=
  .ofList
    [("schema_id", .str policyDecisionSchema.id),
     ("schema_version", .str "v1"), ("tenant_id", .str "t1"), ("policy_decision_id", .str "p1"),
     ("case_id", .str "c1"), ("case_revision_id", .str "c1-r1"), ("decision", .str "allow"),
     ("reason_code", .str "fixture_policy_allowed"), ("evidence_hashes", .arr (.strings [undatedEvidence])),
     ("decided_at", .str "2026-01-01T00:00:00Z"), ("checkpoint_id", .str "k1"), ("workflow_id", .str "w1"),
     ("workflow_version", .int 3), ("candidate_hash", .str undatedCandidate),
     ("action", .str "outbound_delivery.execute"), ("policy_version", .str "v1"),
     ("policy_input_sha256", .str undatedInput), ("grant_id", .str "g1"),
     ("grant_sha256", .str undatedGrantHash),
     ("subject_id", .str "agent"), ("role", .str "operator"), ("resource_id", .str "r1"),
     ("data_classification", .str "synthetic"),
     ("policy_decision_sha256", .str undatedDecisionHash)]

/-- A binding that expires `never`. -/
def undatedBinding : JsonFields :=
  .ofList
    [("schema_id", .str authorizationBindingSchema.id),
     ("schema_version", .str "v1"), ("tenant_id", .str "t1"), ("authorization_binding_id", .str "b1"),
     ("case_id", .str "c1"), ("case_revision_id", .str "c1-r1"), ("workflow_id", .str "w1"),
     ("checkpoint_id", .str "k1"), ("workflow_version", .int 3), ("candidate_hash", .str undatedCandidate),
     ("evidence_hashes", .arr (.strings [undatedEvidence])), ("action", .str "outbound_delivery.execute"),
     ("policy_decision_id", .str "p1"), ("policy_version", .str "v1"),
     ("policy_decision_sha256", .str undatedDecisionHash),
     ("grant_id", .str "g1"), ("grant_version", .str "v1"),
     ("grant_sha256", .str undatedGrantHash),
     ("subject_id", .str "agent"), ("role", .str "operator"), ("delivery_resource_id", .str "r1"),
     ("delivery_resource_scope", .str "r1"), ("data_classification", .str "synthetic"),
     ("remaining_budget", .int 1), ("expires_at", .str "never"),
     ("created_at", .str "2026-01-01T00:00:00Z"),
     ("authorization_binding_sha256", .str undatedBindingHash)]

/-- The validator of the eight schemas, the hashes of the three records and a reading of timestamps on which
    `never` fails. -/
def undatedRuntime : ContractRuntime where
  validatePayload payload :=
    if change4Schemas.all fun schema =>
        decide (payload.get? "schema_id" ≠ some (.str schema.id)) || schema.accepts payload
    then .ok () else .error ⟨"unknown", "schema_not_found"⟩
  recordHash _ hashField :=
    match hashField with
    | "grant_sha256" => undatedGrantHash
    | "policy_decision_sha256" => undatedDecisionHash
    | _ => undatedBindingHash
  parseTime _ := none
  shaped payload h schema hmem hid := by
    split at h
    · rename_i hall
      have hschema := List.all_eq_true.mp hall schema hmem
      rw [Bool.or_eq_true, decide_eq_true_eq] at hschema
      exact hschema.resolve_left fun hne => hne hid
    · cases h

def undatedContext : Change4AuthorizationContext where
  caseRevisionId := "c1-r1"
  checkpointId := "k1"
  workflowVersion := 3
  candidateHash := undatedCandidate
  evidenceHashes := [undatedEvidence]
  effectiveTenantId := some "t1"
  now := 5
  action := "outbound_delivery.execute"
  resourceId := "r1"
  dataClassification := "synthetic"
  effectiveSubjectId := some "agent"
  effectiveRole := some "operator"

end WeFlow
