import WeFlow.Base.Json
import WeFlow.Base.Txn
import WeFlow.Ledger.Records

/-!
# `Schema` — the JSON Schemas of the authorization and delivery contracts

A contract schema lists the fields of a flat object, each with the rule its value obeys; every schema
forbids further fields. `ContractSchema.accepts` decides it. The functions that both languages share are
gathered in `ContractRuntime`: the schema validator with its errors, the canonical record hash and the
reading of timestamps. A validator may refuse more than the schemas say, never less. `SchemaRuntime` adds the
schemas of further contracts, which stand beside the functions that use them.

## Contents

* `FieldRule`, `ContractSchema` — and the eight schemas, in the order of their files.
* `ContractSchema.comparable` — the fields whose values both languages compare alike.
* `ContractRuntime` — what the validators of both languages call.
-/

namespace WeFlow

/-! ## Schemas -/

mutual

/-- The rule of one property. -/
inductive FieldRule where
  | const (value : String)
  | enum (values : List String)
  | text (minLength : Nat)
  /-- 64 hexadecimal digits, of which the letters may be capitals. -/
  | hash (capitals : Bool)
  | integer (minimum : Int)
  | list (minItems : Nat) (item : FieldRule)
  | nullable (rule : FieldRule)
  /-- `^stem[alphabet]{least,}$`, the alphabet given by its ranges. -/
  | pattern (stem : String) (alphabet : List (Char × Char)) (least : Nat)
  | maxLength (most : Nat)
  | number (minimum : Int)
  | maximum (most : Int)
  | boolean
  /-- A constant that is no text. -/
  | literal (value : Json)
  | maxItems (most : Nat)
  | uniqueItems
  /-- A path to a `.json` file below a root, whose name begins with one of the initials; only where it may climb
      is a segment `..` allowed. -/
  | path (root : String) (initials : List (Char × Char)) (climbs : Bool)
  /-- `^[A-Za-z0-9][A-Za-z0-9._:-]*$`. -/
  | safeId
  /-- `^[a-z_]+:[A-Za-z0-9][A-Za-z0-9._:-]*$`. -/
  | sourceId
  /-- An object of just these fields. -/
  | record (fields : FieldRules)
  | both (first second : FieldRule)
  | either (first second : FieldRule)
  deriving DecidableEq, Repr

inductive FieldRules where
  | nil
  | cons (field : String) (rule : FieldRule) (rest : FieldRules)
  deriving DecidableEq, Repr

end

def isHashDigit (capitals : Bool) (c : Char) : Bool :=
  c.isDigit || ('a' ≤ c && c ≤ 'f') || (capitals && 'A' ≤ c && c ≤ 'F')

def inAlphabet (alphabet : List (Char × Char)) (c : Char) : Bool :=
  alphabet.any fun range => range.1 ≤ c && c ≤ range.2

def alphanumerics : List (Char × Char) := [('A', 'Z'), ('a', 'z'), ('0', '9')]

def pathAlphabet : List (Char × Char) := alphanumerics ++ [('.', '.'), ('_', '_'), ('/', '/'), ('-', '-')]

def safeAlphabet : List (Char × Char) := alphanumerics ++ [('.', '.'), ('_', '_'), (':', ':'), ('-', '-')]

def isSafeId : List Char → Bool
  | [] => false
  | c :: rest => inAlphabet alphanumerics c && rest.all (inAlphabet safeAlphabet)

/-- The characters before the first colon, and those after it. -/
def beforeColon (cs : List Char) : List Char := cs.takeWhile (· ≠ ':')

def isSourceId (cs : List Char) : Bool :=
  let kind := beforeColon cs
  !kind.isEmpty && kind.all (inAlphabet [('a', 'z'), ('_', '_')]) &&
    (match cs.drop kind.length with
      | [] => false
      | _ :: rest => isSafeId rest)

/-- Whether `..` is one of the segments of a path. -/
def climbsUp (cs : List Char) : Bool := decide (['.', '.'] ∈ cs.splitOn '/')

def isPath (root : String) (initials : List (Char × Char)) (climbs : Bool) (cs : List Char) : Bool :=
  let name := cs.drop root.toList.length
  let stem := name.take (name.length - 5)
  root.toList.isPrefixOf cs && decide (name.drop (name.length - 5) = ['.', 'j', 's', 'o', 'n']) &&
    stem.all (inAlphabet pathAlphabet) && stem.head?.any (inAlphabet initials) && (climbs || !climbsUp cs)

def FieldRules.names : FieldRules → List String
  | .nil => []
  | .cons field _ rest => field :: rest.names

mutual

def FieldRule.accepts : FieldRule → Json → Bool
  | .const value, .str s => s = value
  | .enum values, .str s => s ∈ values
  | .text minLength, .str s => minLength ≤ s.toList.length
  | .hash capitals, .str s => s.toList.length = 64 && s.toList.all (isHashDigit capitals)
  | .integer minimum, v =>
      match v.whole? with
      | some n => minimum ≤ n
      | none => false
  | .list minItems item, .arr items => minItems ≤ items.toList.length && items.toList.all item.accepts
  | .nullable rule, v => v = .null || rule.accepts v
  | .pattern stem alphabet least, .str s =>
      stem.toList.isPrefixOf s.toList &&
        (let rest := s.toList.drop stem.toList.length
         decide (least ≤ rest.length) && rest.all (inAlphabet alphabet))
  | .maxLength most, .str s => s.toList.length ≤ most
  | .number minimum, v =>
      match v.number? with
      | some q => decide ((minimum : Rat) ≤ q)
      | none => false
  | .maximum most, v =>
      match v.number? with
      | some q => decide (q ≤ (most : Rat))
      | none => false
  | .boolean, .bool _ => true
  | .literal value, v => v.strictEq value
  | .maxItems most, .arr items => items.toList.length ≤ most
  | .uniqueItems, .arr items => items.toList.Pairwise fun a b => a.canonical ≠ b.canonical
  | .path root initials climbs, .str s => isPath root initials climbs s.toList
  | .safeId, .str s => isSafeId s.toList
  | .sourceId, .str s => isSourceId s.toList
  | .record fields, .obj value =>
      fields.accepts value && value.toList.all fun entry => decide (entry.1 ∈ fields.names)
  | .both first second, v => first.accepts v && second.accepts v
  | .either first second, v => first.accepts v || second.accepts v
  | _, _ => false

def FieldRules.accepts : FieldRules → JsonFields → Bool
  | .nil, _ => true
  | .cons field rule rest, value =>
      (match value.get? field with
        | some v => rule.accepts v
        | none => false) && rest.accepts value

end

/-! Rules that several schemas share. -/

namespace FieldRule

def hexDigits : List (Char × Char) := [('0', '9'), ('a', 'f')]

def textUpTo (minLength most : Nat) : FieldRule := .both (.text minLength) (.maxLength most)

def range (minimum most : Int) : FieldRule := .both (.integer minimum) (.maximum most)

/-- `^stem[a-f0-9]{least,most}$`. -/
def coded (stem : String) (least most : Nat) : FieldRule :=
  .both (.pattern stem hexDigits least) (.maxLength (stem.toList.length + most))

/-- `^stem[a-f0-9]{32}$`. -/
def identifier (stem : String) : FieldRule := coded stem 32 32

end FieldRule

/-- The fields of a nested object. -/
def FieldRules.ofList : List (String × FieldRule) → FieldRules
  | [] => .nil
  | (field, rule) :: rest => .cons field rule (.ofList rest)

structure ContractSchema where
  name : String
  required : List (String × FieldRule)
  optional : List (String × FieldRule)

def contractSchemaId (name : String) : String :=
  "https://weflow.local/contracts/v1/" ++ name ++ ".schema.json"

def ContractSchema.id (schema : ContractSchema) : String := contractSchemaId schema.name

def ContractSchema.rule? (schema : ContractSchema) (field : String) : Option FieldRule :=
  (schema.required ++ schema.optional).lookup field

def ContractSchema.accepts (schema : ContractSchema) (payload : JsonFields) : Bool :=
  (schema.required.all fun entry => (payload.get? entry.1).isSome) &&
  payload.toList.all fun entry => (schema.rule? entry.1).any (·.accepts entry.2)

def change4Actions : List String := ["approval.request", "approval.decide", "outbound_delivery.execute"]

def dataClassifications : List String := ["synthetic", "unsafe_instruction", "secret", "raw_private"]

def authorizationBindingSchema : ContractSchema where
  name := "authorization-binding"
  required :=
    [("schema_id", .const (contractSchemaId "authorization-binding")),
     ("schema_version", .const "v1"), ("tenant_id", .text 1), ("authorization_binding_id", .text 1),
     ("authorization_binding_sha256", .hash false), ("case_id", .text 1), ("case_revision_id", .text 1),
     ("workflow_id", .text 1), ("checkpoint_id", .text 1), ("workflow_version", .integer 0),
     ("candidate_hash", .hash false), ("evidence_hashes", .list 1 (.hash false)),
     ("action", .enum change4Actions), ("policy_decision_id", .text 1), ("policy_version", .text 1),
     ("policy_decision_sha256", .hash false), ("grant_id", .text 1), ("grant_version", .text 1),
     ("grant_sha256", .hash false), ("subject_id", .text 1), ("role", .text 1),
     ("delivery_resource_id", .text 1), ("delivery_resource_scope", .text 1),
     ("data_classification", .enum dataClassifications), ("remaining_budget", .integer 0),
     ("expires_at", .text 1), ("created_at", .text 1)]
  optional := []

def capabilityGrantSchema : ContractSchema where
  name := "capability-grant"
  required :=
    [("schema_id", .const (contractSchemaId "capability-grant")),
     ("schema_version", .const "v1"), ("tenant_id", .text 1), ("grant_id", .text 1),
     ("subject_id", .text 1), ("capability", .text 1), ("issued_at", .text 1), ("expires_at", .text 1),
     ("status", .enum ["active", "revoked", "expired"])]
  optional :=
    [("scopes", .list 0 (.text 1)), ("grant_version", .text 1), ("grant_sha256", .hash false),
     ("role", .text 1), ("resource_scope", .text 1),
     ("data_classifications", .list 1 (.enum dataClassifications))]

def policyDecisionSchema : ContractSchema where
  name := "policy-decision"
  required :=
    [("schema_id", .const (contractSchemaId "policy-decision")),
     ("schema_version", .const "v1"), ("tenant_id", .text 1), ("policy_decision_id", .text 1),
     ("case_id", .text 1), ("case_revision_id", .text 1), ("decision", .enum ["allow", "deny"]),
     ("reason_code", .text 1), ("evidence_hashes", .list 1 (.hash true)), ("decided_at", .text 1)]
  optional :=
    [("trace_id", .text 1), ("checkpoint_id", .text 1), ("workflow_id", .text 1),
     ("workflow_version", .integer 0), ("candidate_hash", .hash false), ("action", .enum change4Actions),
     ("policy_version", .text 1), ("policy_input_sha256", .hash false),
     ("policy_decision_sha256", .hash false), ("grant_id", .text 1), ("grant_sha256", .hash false),
     ("subject_id", .text 1), ("role", .text 1), ("resource_id", .text 1),
     ("data_classification", .enum dataClassifications), ("authorization_binding_sha256", .hash false)]

def approvalRequestSchema : ContractSchema where
  name := "approval-request"
  required :=
    [("schema_id", .const (contractSchemaId "approval-request")),
     ("schema_version", .const "v1"), ("tenant_id", .text 1), ("approval_request_id", .text 1),
     ("case_id", .text 1), ("case_revision_id", .text 1), ("candidate_hash", .hash true),
     ("policy_decision_id", .text 1), ("evidence_hashes", .list 1 (.hash true)), ("created_at", .text 1),
     ("expires_at", .text 1)]
  optional :=
    [("workflow_id", .text 1), ("checkpoint_id", .text 1), ("workflow_version", .integer 0),
     ("authorization_binding_sha256", .hash false), ("policy_decision_sha256", .hash false),
     ("policy_version", .text 1), ("grant_sha256", .hash false)]

def approvalDecisionSchema : ContractSchema where
  name := "approval-decision"
  required :=
    [("schema_id", .const (contractSchemaId "approval-decision")),
     ("schema_version", .const "v1"), ("tenant_id", .text 1), ("approval_decision_id", .text 1),
     ("approval_request_id", .text 1), ("case_id", .text 1), ("case_revision_id", .text 1),
     ("candidate_hash", .hash true), ("evidence_hashes", .list 1 (.hash true)),
     ("decision", .enum ["approved", "rejected"]), ("decided_at", .text 1), ("expires_at", .text 1)]
  optional :=
    [("workflow_id", .text 1), ("checkpoint_id", .text 1), ("workflow_version", .integer 0),
     ("authorization_binding_sha256", .hash false), ("approver_id", .text 1), ("approver_role", .text 1),
     ("decision_sha256", .hash false)]

def outboundDeliveryIntentSchema : ContractSchema where
  name := "outbound-delivery-intent"
  required :=
    [("schema_id", .const (contractSchemaId "outbound-delivery-intent")),
     ("schema_version", .const "v1"), ("tenant_id", .text 1), ("case_id", .text 1),
     ("case_revision_id", .text 1), ("workflow_id", .text 1), ("checkpoint_id", .text 1),
     ("intent_id", .text 1), ("effect_kind", .const "fixture-local-outbound-delivery"),
     ("operation", .const "deliver"), ("channel", .const "fixture-local-im"), ("conversation_id", .text 1),
     ("delivery_resource_id", .text 1), ("candidate_hash", .hash false),
     ("authorization_binding_sha256", .hash false), ("natural_key", .text 1),
     ("intended_state_hash", .hash false), ("idempotency_key", .hash false),
     ("evidence_hashes", .list 1 (.hash false)), ("correlation_id", .text 1), ("created_at", .text 1)]
  optional := []

def outboundDeliveryObservationSchema : ContractSchema where
  name := "outbound-delivery-observation"
  required :=
    [("schema_id", .const (contractSchemaId "outbound-delivery-observation")),
     ("schema_version", .const "v1"), ("tenant_id", .text 1), ("case_id", .text 1),
     ("case_revision_id", .text 1), ("workflow_id", .text 1), ("checkpoint_id", .text 1),
     ("observation_id", .text 1), ("intent_id", .text 1),
     ("status", .enum ["absent", "present", "unknown", "conflict"]),
     ("observed_delivery_id", .nullable (.text 0)), ("observed_version", .nullable (.integer 1)),
     ("content_sha256", .nullable (.hash false)), ("reason_code", .nullable (.text 0)),
     ("recorded_at", .text 1)]
  optional := []

def outboundDeliveryCompletionSchema : ContractSchema where
  name := "outbound-delivery-completion"
  required :=
    [("schema_id", .const (contractSchemaId "outbound-delivery-completion")),
     ("schema_version", .const "v1"), ("tenant_id", .text 1), ("case_id", .text 1),
     ("case_revision_id", .text 1), ("workflow_id", .text 1), ("checkpoint_id", .text 1),
     ("completion_id", .text 1), ("intent_id", .text 1), ("observation_id", .text 1),
     ("observed_delivery_id", .text 1), ("observed_version", .integer 1), ("content_sha256", .hash false),
     ("completed_at", .text 1)]
  optional := []

def change4Schemas : List ContractSchema :=
  [authorizationBindingSchema, capabilityGrantSchema, policyDecisionSchema, approvalRequestSchema,
   approvalDecisionSchema, outboundDeliveryIntentSchema, outboundDeliveryObservationSchema,
   outboundDeliveryCompletionSchema]

/-! ## What an accepted payload holds -/

section Accepted

variable {schema : ContractSchema} {payload : JsonFields} {field : String} {rule : FieldRule} {value : Json}

/-- A field of an accepted payload obeys its rule. -/
theorem ContractSchema.rule_accepts (h : schema.accepts payload = true) (hrule : schema.rule? field = some rule)
    (hvalue : payload.get? field = some value) : rule.accepts value = true := by
  rw [ContractSchema.accepts, Bool.and_eq_true, List.all_eq_true, List.all_eq_true] at h
  have hfield : (schema.rule? field).any (·.accepts value) = true :=
    h.2 (field, value) (JsonFields.mem_of_get? hvalue)
  rw [hrule] at hfield
  exact hfield

/-- A required field of an accepted payload is there. -/
theorem ContractSchema.required_isSome (h : schema.accepts payload = true)
    (hfield : field ∈ schema.required.map (·.1)) : ∃ value, payload.get? field = some value := by
  rw [ContractSchema.accepts, Bool.and_eq_true, List.all_eq_true] at h
  obtain ⟨entry, hentry, rfl⟩ := List.mem_map.mp hfield
  exact Option.isSome_iff_exists.mp (h.1 entry hentry)

/-- A required field of an accepted payload obeys its rule. -/
theorem ContractSchema.required_value (h : schema.accepts payload = true)
    (hfield : field ∈ schema.required.map (·.1)) (hrule : schema.rule? field = some rule) :
    ∃ value, payload.get? field = some value ∧ rule.accepts value = true := by
  obtain ⟨value, hvalue⟩ := required_isSome h hfield
  exact ⟨value, hvalue, rule_accepts h hrule hvalue⟩

/-- Whether the values of a rule are strings or numbers. -/
def FieldRule.plain : FieldRule → Bool
  | .const _ | .enum _ | .text _ | .hash _ | .integer _ | .pattern _ _ _ | .maxLength _ | .number _ | .maximum _
  | .path _ _ _ | .safeId | .sourceId => true
  | .literal value => value.plain
  | .both first second => first.plain || second.plain
  | .either first second => first.plain && second.plain
  | _ => false

theorem Json.plain_of_whole? {n : Int} (h : value.whole? = some n) : value.plain = true := by
  cases value with
  | int _ | float _ => rfl
  | _ => cases h

theorem Json.plain_of_number? {q : Rat} (h : value.number? = some q) : value.plain = true := by
  cases value with
  | int _ | float _ => rfl
  | _ => cases h

theorem FieldRule.plain_of_accepts {rule : FieldRule} {value : Json} (hrule : rule.plain = true)
    (h : rule.accepts value = true) : value.plain = true := by
  match rule with
  | .const _ | .enum _ | .text _ | .hash _ | .pattern _ _ _ | .maxLength _ | .path _ _ _ | .safeId | .sourceId =>
      cases value with
      | str _ => rfl
      | _ => cases h
  | .integer minimum =>
      rw [FieldRule.accepts] at h
      split at h
      · rename_i n hwhole
        exact Json.plain_of_whole? hwhole
      · cases h
  | .number _ | .maximum _ =>
      rw [FieldRule.accepts] at h
      split at h
      · rename_i q hnumber
        exact Json.plain_of_number? hnumber
      · cases h
  | .literal constant =>
      rw [FieldRule.accepts] at h
      cases value <;> cases constant <;> simp_all [FieldRule.plain, Json.plain, Json.strictEq, Json.number?,
        sameNumber]
  | .both first second =>
      rw [FieldRule.accepts, Bool.and_eq_true] at h
      rw [FieldRule.plain, Bool.or_eq_true] at hrule
      rcases hrule with hfirst | hsecond
      · exact plain_of_accepts hfirst h.1
      · exact plain_of_accepts hsecond h.2
  | .either first second =>
      rw [FieldRule.accepts, Bool.or_eq_true] at h
      rw [FieldRule.plain, Bool.and_eq_true] at hrule
      rcases h with hfirst | hsecond
      · exact plain_of_accepts hrule.1 hfirst
      · exact plain_of_accepts hrule.2 hsecond
  | .list _ _ | .nullable _ | .boolean | .maxItems _ | .uniqueItems | .record _ => cases hrule

/-- Whether the values of a rule are texts. -/
def FieldRule.textual : FieldRule → Bool
  | .const _ | .enum _ | .text _ | .hash _ | .pattern _ _ _ | .maxLength _ | .path _ _ _ | .safeId | .sourceId => true
  | .both first second => first.textual || second.textual
  | .either first second => first.textual && second.textual
  | _ => false

theorem FieldRule.text_of_accepts {rule : FieldRule} {value : Json} (hrule : rule.textual = true)
    (h : rule.accepts value = true) : ∃ s, value = .str s := by
  match rule with
  | .const _ | .enum _ | .text _ | .hash _ | .pattern _ _ _ | .maxLength _ | .path _ _ _ | .safeId | .sourceId =>
      cases value with
      | str s => exact ⟨s, rfl⟩
      | _ => cases h
  | .both first second =>
      rw [FieldRule.accepts, Bool.and_eq_true] at h
      rw [FieldRule.textual, Bool.or_eq_true] at hrule
      rcases hrule with hfirst | hsecond
      · exact text_of_accepts hfirst h.1
      · exact text_of_accepts hsecond h.2
  | .either first second =>
      rw [FieldRule.accepts, Bool.or_eq_true] at h
      rw [FieldRule.textual, Bool.and_eq_true] at hrule
      rcases h with hfirst | hsecond
      · exact text_of_accepts hrule.1 hfirst
      · exact text_of_accepts hrule.2 hsecond
  | .integer _ | .list _ _ | .nullable _ | .number _ | .maximum _ | .boolean | .literal _ | .maxItems _ | .uniqueItems
  | .record _ => cases hrule

/-- Whether some fields are required texts. -/
def ContractSchema.texts (schema : ContractSchema) (fields : List String) : Bool :=
  fields.all fun field => decide (field ∈ schema.required.map (·.1)) && (schema.rule? field).any (·.textual)

theorem ContractSchema.text_of_texts {fields : List String} (h : schema.accepts payload = true)
    (hfields : schema.texts fields = true) (hfield : field ∈ fields) :
    ∃ s, payload.get? field = some (.str s) := by
  have htext := List.all_eq_true.mp hfields field hfield
  rw [Bool.and_eq_true, decide_eq_true_eq] at htext
  cases hrule : schema.rule? field with
  | none => rw [hrule] at htext; cases htext.2
  | some rule =>
      rw [hrule] at htext
      obtain ⟨value, hvalue, haccepts⟩ := required_value h htext.1 hrule
      obtain ⟨s, rfl⟩ := FieldRule.text_of_accepts htext.2 haccepts
      exact ⟨s, hvalue⟩

/-- A nested object of an accepted payload. -/
theorem FieldRule.record_of_accepts {fields : FieldRules} (h : (FieldRule.record fields).accepts value = true) :
    ∃ nested, value = .obj nested ∧ fields.accepts nested = true := by
  cases value with
  | obj nested =>
      rw [FieldRule.accepts, Bool.and_eq_true] at h
      exact ⟨nested, rfl, h.1⟩
  | _ => cases h

/-- The items of an accepted array. -/
theorem FieldRule.items_of_accepts {minItems : Nat} {item : FieldRule}
    (h : (FieldRule.list minItems item).accepts value = true) :
    ∃ items, value = .arr items ∧ minItems ≤ items.toList.length ∧ ∀ v ∈ items.toList, item.accepts v = true := by
  cases value with
  | arr items =>
      rw [FieldRule.accepts, Bool.and_eq_true, List.all_eq_true, decide_eq_true_eq] at h
      exact ⟨items, rfl, h.1, h.2⟩
  | _ => cases h

def FieldRules.rule? (field : String) : FieldRules → Option FieldRule
  | .nil => none
  | .cons name rule rest => if name = field then some rule else rest.rule? field

/-- The fields of a nested object are there, and obey their rules. -/
theorem FieldRules.required_value {fields : FieldRules} {nested : JsonFields} (h : fields.accepts nested = true)
    (hrule : fields.rule? field = some rule) :
    ∃ value, nested.get? field = some value ∧ rule.accepts value = true := by
  match fields with
  | .nil => cases hrule
  | .cons name first rest =>
      rw [FieldRules.accepts, Bool.and_eq_true] at h
      rw [FieldRules.rule?] at hrule
      split at hrule
      · rename_i hname
        obtain rfl := Option.some.inj hrule
        subst hname
        cases hvalue : nested.get? name with
        | none => rw [hvalue] at h; cases h.1
        | some value =>
            rw [hvalue] at h
            exact ⟨value, rfl, h.1⟩
      · exact required_value h.2 hrule

/-- A text of a nested object. -/
theorem FieldRules.required_text {fields : FieldRules} {nested : JsonFields} (h : fields.accepts nested = true)
    (hrule : fields.rule? field = some rule) (htextual : rule.textual = true) :
    ∃ s, nested.get? field = some (.str s) := by
  obtain ⟨value, hvalue, haccepts⟩ := FieldRules.required_value h hrule
  obtain ⟨s, rfl⟩ := FieldRule.text_of_accepts htextual haccepts
  exact ⟨s, hvalue⟩

/-- A field of a nested object. -/
theorem FieldRule.nested_value {fields : FieldRules} (h : (FieldRule.record fields).accepts value = true)
    (hrule : fields.rule? field = some rule) :
    ∃ v, value.get? field = some v ∧ rule.accepts v = true := by
  obtain ⟨nested, rfl, hnested⟩ := FieldRule.record_of_accepts h
  exact FieldRules.required_value hnested hrule

/-- A list of hashes is an array of strings. -/
theorem FieldRule.strings_of_accepts {minItems : Nat} {capitals : Bool}
    (h : (FieldRule.list minItems (.hash capitals)).accepts value = true) :
    ∃ texts, value = .arr (.strings texts) := by
  cases value with
  | arr items =>
      rw [FieldRule.accepts, Bool.and_eq_true, List.all_eq_true] at h
      have hitems := h.2
      clear h
      induction items using JsonItems.toList.induct with
      | case1 => exact ⟨[], rfl⟩
      | case2 head tail ih =>
          obtain ⟨texts, htail⟩ := ih fun v hv => hitems v (List.mem_cons_of_mem _ hv)
          have hhead := hitems head List.mem_cons_self
          cases head with
          | str s => exact ⟨s :: texts, by rw [Json.arr.inj htail]; rfl⟩
          | _ => cases hhead
  | _ => cases h

/-- Whether the values of some fields are strings or numbers. -/
def ContractSchema.comparable (schema : ContractSchema) (fields : List String) : Bool :=
  fields.all fun field => (schema.rule? field).any (·.plain)

theorem ContractSchema.plain_of_comparable {fields : List String} (h : schema.accepts payload = true)
    (hfields : schema.comparable fields = true) (hfield : field ∈ fields) :
    ∀ value ∈ payload.get? field, value.plain = true := by
  intro value hvalue
  have hplain : (schema.rule? field).any (·.plain) = true := List.all_eq_true.mp hfields field hfield
  cases hrule : schema.rule? field with
  | none => rw [hrule] at hplain; cases hplain
  | some rule =>
      rw [hrule] at hplain
      exact FieldRule.plain_of_accepts hplain (rule_accepts h hrule hvalue)

end Accepted

/-! ## The shared functions -/

structure ContractValidationError where
  schemaName : String
  reasonCode : String
  deriving DecidableEq, Repr

/-- What the validators of both languages call: the JSON Schema validators, which accept alike and whose
    first errors are only reported, the canonical hash of a record without one field, and the reading of a
    timestamp (`None` in Python, `NaN` in TypeScript, where it fails). -/
structure ContractRuntime where
  validatePayload : JsonFields → Except ContractValidationError Unit
  recordHash : JsonFields → String → String
  parseTime : String → Option Instant
  /-- A payload that declares one of the schemas is accepted only if the schema accepts it. -/
  shaped : ∀ payload, validatePayload payload = .ok () → ∀ schema ∈ change4Schemas,
    payload.get? "schema_id" = some (.str schema.id) → schema.accepts payload = true

/-- …of the contracts of some schemas. -/
structure SchemaRuntime (schemas : List ContractSchema) extends ContractRuntime where
  shapes : ∀ payload, validatePayload payload = .ok () → ∀ schema ∈ schemas,
    payload.get? "schema_id" = some (.str schema.id) → schema.accepts payload = true

/-- The validator that is exactly the schemas, with a hash for each field that claims one. -/
def schemaRuntime (schemas : List ContractSchema) (hash : String → String) (parseTime : String → Option Instant) :
    SchemaRuntime schemas :=
  let known := change4Schemas ++ schemas
  let accepts := fun payload : JsonFields =>
    (known.any fun schema => payload.get? "schema_id" = some (.str schema.id)) &&
      known.all fun schema => decide (payload.get? "schema_id" ≠ some (.str schema.id)) || schema.accepts payload
  have accepted : ∀ payload, (if accepts payload then Except.ok () else .error ⟨"unknown", "schema_not_found"⟩ :
      Except ContractValidationError Unit) = .ok () → ∀ schema ∈ known,
        payload.get? "schema_id" = some (.str schema.id) → schema.accepts payload = true := by
    intro payload h schema hmem hid
    split at h
    · rename_i haccepts
      have hall := List.all_eq_true.mp (Bool.and_eq_true .. ▸ haccepts).2 schema hmem
      rw [Bool.or_eq_true, decide_eq_true_eq] at hall
      exact hall.resolve_left fun hne => hne hid
    · cases h
  { validatePayload := fun payload =>
      if accepts payload then .ok () else .error ⟨"unknown", "schema_not_found"⟩
    recordHash := fun _ field => hash field
    parseTime := parseTime
    shaped := fun payload h schema hmem => accepted payload h schema (List.mem_append_left _ hmem)
    shapes := fun payload h schema hmem => accepted payload h schema (List.mem_append_right _ hmem) }

end WeFlow
