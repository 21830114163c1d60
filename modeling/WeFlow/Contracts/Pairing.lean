import WeFlow.Contracts.Sequence

/-!
# `Pairing` — pairing and acknowledgement chains in both languages

`qq_pairing.py` checks each record of a pairing for what it is: its schema, the hash of its tenant, and that
its deadline comes after its start. `pairing.ts` checks the links between the records and leaves to the schema
validator what each record is, which accepts a record of any schema. Acknowledgement chains are written alike.

## Contents

* `Python.validateQqGroupPairingChain` …, `TypeScript.validateQQGroupPairingChain` … — the validators.
* `PairingFacts`, `ReportFacts` — what both languages require; `PairingOwn` — what Python requires beside.
* `pairings_judged_alike` — the three validators.
-/

namespace WeFlow

open Txn

/-! ## Schemas -/

def qqGroupPairingChallengeSchema : ContractSchema where
  name := "qq-group-pairing-challenge"
  required :=
    [("schema_id", .const (contractSchemaId "qq-group-pairing-challenge")), ("schema_version", .const "v1"),
     ("challenge_id", .identifier "qqpc_"), ("challenge_sha256", .hash false), ("app_id_hash", .hash false),
     ("tenant_id", .textUpTo 1 128), ("tenant_id_hash", .hash false),
     ("capability_profile_hash", .hash false), ("created_at", .text 1), ("deadline_at", .text 1),
     ("status", .enum ["PENDING", "EXPIRED", "CANCELLED", "CONFLICT"])]
  optional := []

def qqGroupPairingCompletionSchema : ContractSchema where
  name := "qq-group-pairing-completion"
  required :=
    [("schema_id", .const (contractSchemaId "qq-group-pairing-completion")), ("schema_version", .const "v1"),
     ("completion_id", .identifier "qqpcmp_"), ("challenge_id", .identifier "qqpc_"),
     ("pairing_id", .identifier "qqpair_"), ("tenant_id", .textUpTo 1 128), ("tenant_id_hash", .hash false),
     ("app_id_hash", .hash false), ("group_openid_hash", .hash false),
     ("source_message_id_hash", .hash false), ("session_id_hash", .nullable (.hash false)),
     ("gateway_sequence", .integer 1), ("status", .enum ["COMPLETED", "REVOKED", "EXPIRED", "CONFLICT"]),
     ("reason_code", .textUpTo 1 128), ("completed_at", .text 1), ("expires_at", .text 1)]
  optional := []

def qqGroupPairingAcceptanceReportSchema : ContractSchema where
  name := "qq-group-pairing-acceptance-report"
  required :=
    [("schema_id", .const (contractSchemaId "qq-group-pairing-acceptance-report")),
     ("schema_version", .const "v1"), ("report_id", .identifier "qqpr_"), ("report_sha256", .hash false),
     ("mode", .enum ["offline-fake", "qq-sandbox-live"]), ("accepted", .boolean),
     ("fake_pairing_verified", .boolean), ("qq_group_pairing_live_verified", .boolean),
     ("pairing_id", .nullable (.identifier "qqpair_")), ("app_id_hash", .nullable (.hash false)),
     ("group_openid_hash", .nullable (.hash false)), ("tenant_id_hash", .nullable (.hash false)),
     ("completion_status", .enum ["COMPLETED", "EXPIRED", "CANCELLED", "CONFLICT", "REVOKED", "NOT_COMPLETED"]),
     ("reason_code", .textUpTo 1 128), ("observed_event_count", .integer 0),
     ("rejected_event_count", .integer 0), ("duplicate_event_count", .integer 0),
     ("case_creation", .literal (.bool false)), ("workflow_activation", .literal (.bool false)),
     ("qq_write_attempted", .literal (.bool false)), ("acknowledgement_sent", .literal (.bool false)),
     ("model_invocation", .literal (.bool false)), ("handler_binding", .literal (.bool false)),
     ("customer_receipt_verified", .literal (.bool false)), ("issue_resolution", .literal (.bool false)),
     ("case_completion", .literal (.bool false)), ("production_ready", .literal (.bool false)),
     ("stage1_verified", .literal (.bool false)), ("network_required", .boolean),
     ("credentials_required", .boolean),
     ("privacy", .record (.ofList
        [("challenge_plaintext_persisted", .literal (.bool false)), ("raw_group_in_report", .literal (.bool false)),
         ("member_identity_persisted", .literal (.bool false)),
         ("provider_event_persisted", .literal (.bool false)),
         ("credential_persisted", .literal (.bool false))]))]
  optional := []

/-- `^[A-Za-z0-9._:-]{1,256}$`. -/
def messageIdRule : FieldRule :=
  .both (.pattern "" [('A', 'Z'), ('a', 'z'), ('0', '9'), ('.', '.'), ('_', '_'), (':', ':'), ('-', '-')] 1)
    (.maxLength 256)

def qqAcknowledgementIntentSchema : ContractSchema where
  name := "qq-acknowledgement-intent"
  required :=
    [("schema_id", .const (contractSchemaId "qq-acknowledgement-intent")), ("schema_version", .const "v1"),
     ("tenant_id", .text 1), ("case_id", .text 1), ("case_revision_id", .text 1), ("intent_id", .text 1),
     ("effect_kind", .const "qq-sandbox-passive-acknowledgement"),
     ("operation", .const "qq.passive_ack.execute"), ("source_message_id", messageIdRule),
     ("source_message_id_hash", .hash false), ("group_openid_hash", .hash false),
     ("conversation_id", .coded "qq-conversation:" 64 64), ("template_id", .const "qq.passive_ack.v1"),
     ("template_sha256", .hash false), ("natural_key", .hash false), ("intended_state_sha256", .hash false),
     ("idempotency_key", .hash false), ("reply_msg_seq", .integer 1), ("reply_deadline_at", .text 1),
     ("capability_profile_hash", .hash false), ("correlation_id", .textUpTo 1 256), ("created_at", .text 1)]
  optional := []

def qqAcknowledgementObservationSchema : ContractSchema where
  name := "qq-acknowledgement-observation"
  required :=
    [("schema_id", .const (contractSchemaId "qq-acknowledgement-observation")),
     ("schema_version", .const "v1"), ("tenant_id", .text 1), ("case_id", .text 1),
     ("case_revision_id", .text 1), ("observation_id", .text 1), ("intent_id", .text 1),
     ("status", .enum
        ["absent", "accepted", "present", "duplicate", "unknown", "conflict", "expired", "unauthorized"]),
     ("provider_message_id_hash", .nullable (.hash false)), ("outcome_sha256", .nullable (.hash false)),
     ("reason_code", .textUpTo 1 128), ("recorded_at", .text 1)]
  optional := []

def qqAcknowledgementCompletionSchema : ContractSchema where
  name := "qq-acknowledgement-completion"
  required :=
    [("schema_id", .const (contractSchemaId "qq-acknowledgement-completion")),
     ("schema_version", .const "v1"), ("tenant_id", .text 1), ("case_id", .text 1),
     ("case_revision_id", .text 1), ("completion_id", .text 1), ("intent_id", .text 1),
     ("observation_id", .text 1), ("status", .const "provider_accepted_or_present"),
     ("provider_message_id_hash", .hash false), ("outcome_sha256", .hash false), ("completed_at", .text 1)]
  optional := []

def pairingSchemas : List ContractSchema :=
  [qqGroupPairingChallengeSchema, qqGroupPairingCompletionSchema, qqGroupPairingAcceptanceReportSchema,
   qqAcknowledgementIntentSchema, qqAcknowledgementObservationSchema, qqAcknowledgementCompletionSchema]

def pairingLinkFields : List String := ["challenge_id", "tenant_id", "tenant_id_hash", "app_id_hash"]

def reportLinkFields : List String := ["pairing_id", "app_id_hash", "group_openid_hash", "tenant_id_hash"]

def acknowledgementFields : List String := ["case_id", "case_revision_id", "intent_id"]

def completableStatuses : List String := ["accepted", "present", "duplicate"]

def isText : Option Json → Bool
  | some (.str _) => true
  | _ => false

/-- The texts of two dates, in their order as strings. -/
def later (record : JsonFields) (start deadline : String) : Bool :=
  decide (textOf (record.get? start) < textOf (record.get? deadline))

/-! ## `qq_pairing.py` and `qq.py` -/

namespace Python

section Validators

variable (runtime : ContractRuntime) (sha256 : String → String)

/-- `_schema`, the hash of the tenant and the order of two dates. -/
def pairingRecord (payload : JsonFields) (schema : ContractSchema) (start deadline reason : String) :
    Except ContractValidationError Unit := do
  requireSchema runtime payload schema
  require (eq (payload.get? "tenant_id_hash") (some (.str (sha256 (textOf (payload.get? "tenant_id"))))))
    ⟨schema.name, "tenant_hash_mismatch"⟩
  require (later payload start deadline) ⟨schema.name, reason⟩

/-- `validate_qq_group_pairing_challenge`. -/
def validateQqGroupPairingChallenge (payload : JsonFields) : Except ContractValidationError Unit :=
  pairingRecord runtime sha256 payload qqGroupPairingChallengeSchema "created_at" "deadline_at" "deadline_invalid"

/-- `validate_qq_group_pairing_completion`. -/
def validateQqGroupPairingCompletion (payload : JsonFields) : Except ContractValidationError Unit :=
  pairingRecord runtime sha256 payload qqGroupPairingCompletionSchema "completed_at" "expires_at" "expiry_invalid"

/-- One completion of a pairing, after those with the identifiers `seen`. -/
def completePairing (challenge : JsonFields) (seen : List String) (completion : JsonFields) :
    Except ContractValidationError (List String) := do
  validateQqGroupPairingCompletion runtime sha256 completion
  let completionId := textOf (completion.get? "completion_id")
  require (completionId ∉ seen) ⟨"qq-group-pairing", "duplicate_completion"⟩
  require (pairingLinkFields.all fun field => eq (completion.get? field) (challenge.get? field))
    ⟨"qq-group-pairing", "completion_link_mismatch"⟩
  return completionId :: seen

/-- **`validate_qq_group_pairing_chain`.** -/
def validateQqGroupPairingChain (challenge : JsonFields) (completions : List JsonFields) :
    Except ContractValidationError Unit := do
  validateQqGroupPairingChallenge runtime sha256 challenge
  let _ ← completions.foldlM (completePairing runtime sha256 challenge) []
  require (completions.length ≤ 1) ⟨"qq-group-pairing", "duplicate_completion"⟩

/-- The four verdicts that a mode fixes. -/
def verdicts (payload : JsonFields) (fake live network credentials : Bool) : Bool :=
  eq (payload.get? "fake_pairing_verified") (some (.bool fake)) &&
  eq (payload.get? "qq_group_pairing_live_verified") (some (.bool live)) &&
  eq (payload.get? "network_required") (some (.bool network)) &&
  eq (payload.get? "credentials_required") (some (.bool credentials))

/-- **`validate_qq_group_pairing_acceptance_report`.** -/
def validateQqGroupPairingAcceptanceReport (payload : JsonFields) : Except ContractValidationError Unit := do
  requireSchema runtime payload qqGroupPairingAcceptanceReportSchema
  require (eq (payload.get? "report_sha256") (some (.str (runtime.recordHash payload "report_sha256"))))
    ⟨"qq-group-pairing-acceptance-report", "report_hash_mismatch"⟩
  let completed := eq (payload.get? "completion_status") (some (.str "COMPLETED"))
  let safeLinks := reportLinkFields.all fun field => isText (payload.get? field)
  -- `is not`: a number is no truth value here
  require (payload.get? "accepted" = some (.bool (completed && safeLinks)))
    ⟨"qq-group-pairing-acceptance-report", "acceptance_mismatch"⟩
  if eq (payload.get? "mode") (some (.str "offline-fake")) then
    require (verdicts payload true false false false) ⟨"qq-group-pairing-acceptance-report", "fake_mode_overclaim"⟩
  else
    require (verdicts payload false completed true true) ⟨"qq-group-pairing-acceptance-report", "live_mode_invalid"⟩

/-- `validate_qq_acknowledgement_intent`. -/
def validateQqAcknowledgementIntent (payload : JsonFields) : Except ContractValidationError Unit := do
  requireSchema runtime payload qqAcknowledgementIntentSchema
  require (eq (payload.get? "source_message_id_hash")
      (some (.str (sha256 (textOf (payload.get? "source_message_id"))))))
    ⟨"qq-acknowledgement-intent", "source_message_id_hash_mismatch"⟩

/-- What a record of an acknowledgement repeats of the intent. -/
def acknowledges (intent record : JsonFields) (reason : String) : Except ContractValidationError Unit := do
  validateTenantReference [intent, record]
  require (acknowledgementFields.all fun field => eq (record.get? field) (intent.get? field))
    ⟨"qq-acknowledgement", reason⟩

/-- One observation; `observations_by_id` has the identifiers seen before as its keys. -/
def observeAcknowledgement (intent : JsonFields) (byId : List (String × JsonFields)) (observation : JsonFields) :
    Except ContractValidationError (List (String × JsonFields)) := do
  requireSchema runtime observation qqAcknowledgementObservationSchema
  acknowledges intent observation "observation_link_mismatch"
  let observationId := textOf (observation.get? "observation_id")
  require (observationId ∉ byId.map (·.1)) ⟨"qq-acknowledgement", "duplicate_observation"⟩
  return (observationId, observation) :: byId

/-- The observation that a completion claims. -/
def confirm (byId : List (String × JsonFields)) (completion : JsonFields) : Except ContractValidationError Unit := do
  let observation ← fetch (byId.lookup (textOf (completion.get? "observation_id")))
    ⟨"qq-acknowledgement", "completion_observation_missing"⟩
  require (completableStatuses.any fun status => eq (observation.get? "status") (some (.str status)))
    ⟨"qq-acknowledgement", "completion_observation_not_present"⟩
  require (["provider_message_id_hash", "outcome_sha256"].all fun field =>
      eq (completion.get? field) (observation.get? field))
    ⟨"qq-acknowledgement", "completion_observation_mismatch"⟩

/-- One completion, after those with the identifiers `seen`. -/
def completeAcknowledgement (intent : JsonFields) (byId : List (String × JsonFields)) (seen : List String)
    (completion : JsonFields) : Except ContractValidationError (List String) := do
  requireSchema runtime completion qqAcknowledgementCompletionSchema
  acknowledges intent completion "completion_link_mismatch"
  let completionId := textOf (completion.get? "completion_id")
  require (completionId ∉ seen) ⟨"qq-acknowledgement", "duplicate_completion"⟩
  confirm byId completion
  return completionId :: seen

/-- **`validate_qq_acknowledgement_chain`.** -/
def validateQqAcknowledgementChain (intent : JsonFields) (observations completions : List JsonFields) :
    Except ContractValidationError Unit := do
  validateQqAcknowledgementIntent runtime sha256 intent
  let byId ← observations.foldlM (observeAcknowledgement runtime intent) []
  let _ ← completions.foldlM (completeAcknowledgement runtime intent byId) []
  require (completions.length ≤ 1) ⟨"qq-acknowledgement", "duplicate_completion"⟩

end Validators

end Python

/-! ## `pairing.ts` and `index.ts` -/

namespace TypeScript

/-- `String(value)` of a field which every schema that has it requires to be a text. -/
def stringOf : Option Json → String
  | none => "undefined"
  | value => textOf value

section Validators

variable (runtime : ContractRuntime) (sha256 : String → String)

/-- The completion of a pairing. -/
def completePairing (challenge completion : JsonFields) : Except String Unit := do
  require (validatePayload runtime completion = .ok ()) "completion_schema"
  pairingLinkFields.forM fun field => require (eq (completion.get? field) (challenge.get? field))
    "completion_link_mismatch"

/-- **`validateQQGroupPairingChain`.** -/
def validateQQGroupPairingChain (challenge : JsonFields) (completions : List JsonFields) : Except String Unit := do
  require (validatePayload runtime challenge = .ok ()) "challenge_schema"
  let tenantHash := sha256 (stringOf (challenge.get? "tenant_id"))
  require (eq (challenge.get? "tenant_id_hash") (some (.str tenantHash))) "tenant_hash_mismatch"
  require (completions.length ≤ 1) "duplicate_completion"
  completions.forM (completePairing runtime challenge)

/-- The four verdicts that a mode fixes. -/
def verdicts (report : JsonFields) (fake live network credentials : Bool) : Bool :=
  eq (report.get? "fake_pairing_verified") (some (.bool fake)) &&
  eq (report.get? "qq_group_pairing_live_verified") (some (.bool live)) &&
  eq (report.get? "network_required") (some (.bool network)) &&
  eq (report.get? "credentials_required") (some (.bool credentials))

/-- **`validateQQGroupPairingAcceptanceReport`.** -/
def validateQQGroupPairingAcceptanceReport (report : JsonFields) : Except String Unit := do
  require (validatePayload runtime report = .ok ()) "report_schema"
  require (eq (report.get? "report_sha256") (some (.str (runtime.recordHash report "report_sha256"))))
    "report_hash_mismatch"
  let completed := eq (report.get? "completion_status") (some (.str "COMPLETED"))
  let linked := reportLinkFields.all fun field => isText (report.get? field)
  require (eq (report.get? "accepted") (some (.bool (completed && linked)))) "acceptance_mismatch"
  require (!(eq (report.get? "mode") (some (.str "offline-fake")) && !verdicts report true false false false))
    "fake_mode_overclaim"
  require (!(eq (report.get? "mode") (some (.str "qq-sandbox-live")) && !verdicts report false completed true true))
    "live_mode_invalid"

/-- What a record of an acknowledgement repeats of the intent. -/
def acknowledges (intent record : JsonFields) : Bool :=
  ("tenant_id" :: acknowledgementFields).all fun field => eq (record.get? field) (intent.get? field)

/-- One observation, after those of `byId`. -/
def observeAcknowledgement (intent : JsonFields) (byId : List (String × JsonFields)) (observation : JsonFields) :
    Except String (List (String × JsonFields)) := do
  validateExpectedSchema runtime observation qqAcknowledgementObservationSchema
  require (acknowledges intent observation) "observation_link_mismatch"
  let id := textOf (observation.get? "observation_id")
  require (id ∉ byId.map (·.1)) "duplicate_observation"
  return (id, observation) :: byId

/-- The observation that a completion claims. -/
def confirm (byId : List (String × JsonFields)) (completion : JsonFields) : Except String Unit := do
  let observation ← fetch (byId.lookup (textOf (completion.get? "observation_id"))) "completion_observation_missing"
  require (textOf (observation.get? "status") ∈ completableStatuses) "completion_observation_not_present"
  require (["provider_message_id_hash", "outcome_sha256"].all fun field =>
      eq (completion.get? field) (observation.get? field)) "completion_observation_mismatch"

/-- The completion of an acknowledgement. -/
def completeAcknowledgement (intent : JsonFields) (byId : List (String × JsonFields)) (completion : JsonFields) :
    Except String Unit := do
  validateExpectedSchema runtime completion qqAcknowledgementCompletionSchema
  require (acknowledges intent completion) "completion_link_mismatch"
  confirm byId completion

/-- **`validateQQAcknowledgementChain`.** -/
def validateQQAcknowledgementChain (intent : JsonFields) (observations completions : List JsonFields) :
    Except String Unit := do
  validateExpectedSchema runtime intent qqAcknowledgementIntentSchema
  require (eq (intent.get? "source_message_id_hash")
      (some (.str (sha256 (textOf (intent.get? "source_message_id")))))) "source_message_id_hash_mismatch"
  let byId ← observations.foldlM (observeAcknowledgement runtime intent) []
  require (completions.length ≤ 1) "duplicate_completion"
  completions.forM (completeAcknowledgement runtime intent byId)

end Validators

end TypeScript

/-! ## The pairing chain -/

variable {schemas : List ContractSchema} {runtime : SchemaRuntime schemas} {sha256 : String → String}

/-- What both languages require of a pairing. -/
structure PairingFacts (runtime : ContractRuntime) (sha256 : String → String) (challenge : JsonFields)
    (completions : List JsonFields) : Prop where
  challengeValid : runtime.validatePayload challenge = .ok ()
  tenantHash : challenge.get? "tenant_id_hash" =
    some (.str (sha256 (TypeScript.stringOf (challenge.get? "tenant_id"))))
  single : completions.length ≤ 1
  completionsValid : ∀ c ∈ completions, runtime.validatePayload c = .ok ()
  linked : ∀ c ∈ completions, ∀ field ∈ pairingLinkFields,
    TypeScript.eq (c.get? field) (challenge.get? field) = true

/-- A record is what it stands for: its schema is the right one, and its dates are in order. -/
structure Dated (record : JsonFields) (schema : ContractSchema) (start deadline : String) : Prop where
  schema : record.get? "schema_id" = some (.str schema.id)
  inOrder : later record start deadline = true

/-- What Python requires of a pairing beside. -/
structure PairingOwn (challenge : JsonFields) (completions : List JsonFields) : Prop where
  challenge : Dated challenge qqGroupPairingChallengeSchema "created_at" "deadline_at"
  completion : ∀ c ∈ completions, Dated c qqGroupPairingCompletionSchema "completed_at" "expires_at"

theorem TypeScript.pairing_iff {runtime : ContractRuntime} {challenge : JsonFields} {completions : List JsonFields} :
    TypeScript.validateQQGroupPairingChain runtime sha256 challenge completions = .ok () ↔
      PairingFacts runtime sha256 challenge completions := by
  have hcompletion : ∀ c, TypeScript.completePairing runtime challenge c = .ok () ↔
      runtime.validatePayload c = .ok () ∧ ∀ field ∈ pairingLinkFields,
        TypeScript.eq (c.get? field) (challenge.get? field) = true := by
    intro c
    rw [TypeScript.completePairing, require_bind_eq_ok, decide_eq_true_eq, TypeScript.validatePayload_iff,
      forM_require_eq_ok]
  rw [TypeScript.validateQQGroupPairingChain, require_bind_eq_ok, require_bind_eq_ok, require_bind_eq_ok,
    forM_eq_ok_iff, decide_eq_true_eq, TypeScript.validatePayload_iff, TypeScript.eq_text, decide_eq_true_eq]
  constructor
  · rintro ⟨hvalid, hhash, hsingle, hloop⟩
    exact ⟨hvalid, hhash, hsingle, fun c hc => ((hcompletion c).mp (hloop c hc)).1,
      fun c hc => ((hcompletion c).mp (hloop c hc)).2⟩
  · intro h
    exact ⟨h.challengeValid, h.tenantHash, h.single,
      fun c hc => (hcompletion c).mpr ⟨h.completionsValid c hc, h.linked c hc⟩⟩

theorem Python.pairingRecord_iff {runtime : ContractRuntime} {payload : JsonFields} {schema : ContractSchema}
    {start deadline reason : String} :
    Python.pairingRecord runtime sha256 payload schema start deadline reason = .ok () ↔
      runtime.validatePayload payload = .ok () ∧ Dated payload schema start deadline ∧
        payload.get? "tenant_id_hash" = some (.str (sha256 (textOf (payload.get? "tenant_id")))) := by
  rw [Python.pairingRecord, unit_bind_eq_ok, require_bind_eq_ok, require_eq_ok, Python.requireSchema_iff,
    Python.eq_text]
  constructor
  · rintro ⟨⟨hvalid, hid⟩, hhash, hlater⟩
    exact ⟨hvalid, ⟨hid, hlater⟩, hhash⟩
  · rintro ⟨hvalid, ⟨hid, hlater⟩, hhash⟩
    exact ⟨⟨hvalid, hid⟩, hhash, hlater⟩

/-- The texts that link a completion to its challenge. -/
theorem pairing_linked (hschemas : pairingSchemas ⊆ schemas) {challenge completion : JsonFields}
    (hvalid : runtime.validatePayload completion = .ok ())
    (hid : completion.get? "schema_id" = some (.str qqGroupPairingCompletionSchema.id)) {field : String}
    (hfield : field ∈ pairingLinkFields) :
    (Python.eq (completion.get? field) (challenge.get? field) = true ↔
        completion.get? field = challenge.get? field) ∧
      (TypeScript.eq (completion.get? field) (challenge.get? field) = true ↔
        completion.get? field = challenge.get? field) := by
  have haccepted := runtime.shapes completion hvalid _ (hschemas (by simp [pairingSchemas])) hid
  obtain ⟨s, hs⟩ := ContractSchema.text_of_texts haccepted (show _ = true by decide) hfield
  exact eq_iff_of_text (.inl hs)

/-- **Python requires more of a pairing**: that each record is what it stands for. -/
theorem Python.pairing_iff (hschemas : pairingSchemas ⊆ schemas) {challenge : JsonFields}
    {completions : List JsonFields} :
    Python.validateQqGroupPairingChain runtime.toContractRuntime sha256 challenge completions = .ok () ↔
      PairingFacts runtime.toContractRuntime sha256 challenge completions ∧ PairingOwn challenge completions := by
  -- the tenant of a challenge is a text
  have htenant : runtime.validatePayload challenge = .ok () →
      challenge.get? "schema_id" = some (.str qqGroupPairingChallengeSchema.id) →
      TypeScript.stringOf (challenge.get? "tenant_id") = textOf (challenge.get? "tenant_id") := by
    intro hvalid hid
    have haccepted := runtime.shapes challenge hvalid _ (hschemas (by simp [pairingSchemas])) hid
    have htexts : qqGroupPairingChallengeSchema.texts ["tenant_id"] = true := by decide
    obtain ⟨s, hs⟩ := ContractSchema.text_of_texts haccepted htexts List.mem_cons_self
    rw [hs]
    rfl
  have hcompletion : ∀ c, (∃ seen, Python.completePairing runtime.toContractRuntime sha256 challenge [] c = .ok seen) ↔
      Python.validateQqGroupPairingCompletion runtime.toContractRuntime sha256 c = .ok () ∧
        ∀ field ∈ pairingLinkFields, Python.eq (c.get? field) (challenge.get? field) = true := by
    intro c
    simp only [Python.completePairing, unit_bind_eq_ok, require_eq_ok, List.all_eq_true]
    constructor
    · rintro ⟨seen, hrecord, -, hlinks, -⟩
      exact ⟨hrecord, hlinks⟩
    · rintro ⟨hrecord, hlinks⟩
      exact ⟨_, hrecord, rfl, hlinks, rfl⟩
  rw [Python.validateQqGroupPairingChain, unit_bind_eq_ok, bind_eq_ok, Python.validateQqGroupPairingChallenge,
    Python.pairingRecord_iff]
  constructor
  · rintro ⟨⟨hvalid, hdated, hhash⟩, seen, hfold, hsingle⟩
    have hlength := of_decide_eq_true (require_eq_ok.mp hsingle)
    have hall := (foldlM_of_length_le_one hlength).mp ⟨seen, hfold⟩
    have hrecords : ∀ c ∈ completions, runtime.validatePayload c = .ok () ∧
        Dated c qqGroupPairingCompletionSchema "completed_at" "expires_at" := by
      intro c hc
      obtain ⟨hvalid, hdated, -⟩ := Python.pairingRecord_iff.mp ((hcompletion c).mp (hall c hc)).1
      exact ⟨hvalid, hdated⟩
    refine ⟨⟨hvalid, ?_, hlength, fun c hc => (hrecords c hc).1, ?_⟩, hdated, fun c hc => (hrecords c hc).2⟩
    · rw [htenant hvalid hdated.schema, hhash]
    · intro c hc field hfield
      obtain ⟨hpython, htypeScript⟩ := pairing_linked hschemas (hrecords c hc).1 (hrecords c hc).2.schema hfield
      exact htypeScript.mpr (hpython.mp (((hcompletion c).mp (hall c hc)).2 field hfield))
  · rintro ⟨h, hown⟩
    have hhash := h.tenantHash
    rw [htenant h.challengeValid hown.challenge.schema] at hhash
    refine ⟨⟨h.challengeValid, hown.challenge, hhash⟩, ?_⟩
    have hall : ∀ c ∈ completions,
        ∃ seen, Python.completePairing runtime.toContractRuntime sha256 challenge [] c = .ok seen := by
      intro c hc
      have hdated := hown.completion c hc
      have hlinks : ∀ field ∈ pairingLinkFields, c.get? field = challenge.get? field := fun field hfield =>
        (pairing_linked hschemas (h.completionsValid c hc) hdated.schema hfield).2.mp (h.linked c hc field hfield)
      refine (hcompletion c).mpr ⟨Python.pairingRecord_iff.mpr ⟨h.completionsValid c hc, hdated, ?_⟩, ?_⟩
      · rw [hlinks "tenant_id_hash" (by decide), hlinks "tenant_id" (by decide), hhash]
      · intro field hfield
        exact (pairing_linked hschemas (h.completionsValid c hc) hdated.schema hfield).1.mpr (hlinks field hfield)
    obtain ⟨seen, hfold⟩ := (foldlM_of_length_le_one h.single).mpr hall
    exact ⟨seen, hfold, require_eq_ok.mpr (decide_eq_true h.single)⟩

/-! ## The acknowledgement chain -/

/-- The fields that tie a record of an acknowledgement to its intent. -/
def acknowledgedFields : List String := "tenant_id" :: acknowledgementFields

/-- A record is tied to its intent alike. -/
theorem acknowledges_alike {intent record : JsonFields} {schema : ContractSchema}
    (hintent : qqAcknowledgementIntentSchema.accepts intent = true) (hrecord : schema.accepts record = true)
    (htexts : schema.texts acknowledgedFields = true) {reason reason' : String} :
    Alike (Python.acknowledges intent record reason)
      (require (TypeScript.acknowledges intent record) reason') := by
  have heq : ∀ field ∈ acknowledgedFields,
      (Python.eq (record.get? field) (intent.get? field) = true ↔ record.get? field = intent.get? field) ∧
        (TypeScript.eq (record.get? field) (intent.get? field) = true ↔
          record.get? field = intent.get? field) := by
    intro field hfield
    obtain ⟨s, hs⟩ := ContractSchema.text_of_texts hrecord htexts hfield
    exact eq_iff_of_text (.inl hs)
  have hrequired : "tenant_id" ∈ qqAcknowledgementIntentSchema.required.map (·.1) := by decide
  obtain ⟨a, ha, hlength⟩ := ContractSchema.text_value hintent hrequired rfl
  obtain ⟨b, hb⟩ := ContractSchema.text_of_texts hrecord htexts (show "tenant_id" ∈ _ by decide)
  have hne : a ≠ "" := by
    rintro rfl
    exact absurd hlength (by decide)
  have hrest : ∀ field ∈ acknowledgementFields, field ∈ acknowledgedFields := fun field h =>
    List.mem_cons_of_mem _ h
  have htenant : record.get? "tenant_id" = intent.get? "tenant_id" ↔ a = b := by
    rw [ha, hb, Option.some.injEq, Json.str.injEq, eq_comm]
  intro u
  rw [Python.acknowledges, unit_bind_eq_ok, Python.validateTenantReference_iff ha hb hne, require_eq_ok,
    require_eq_ok, TypeScript.acknowledges, List.all_eq_true, List.all_eq_true, List.forall_mem_cons,
    (heq "tenant_id" (by decide)).2, htenant]
  refine and_congr Iff.rfl ?_
  exact forall₂_congr fun field hfield => ((heq field (hrest field hfield)).1).trans
    (heq field (hrest field hfield)).2.symm

theorem observeAcknowledgement_alike (hschemas : pairingSchemas ⊆ schemas) {intent : JsonFields}
    (hintent : qqAcknowledgementIntentSchema.accepts intent = true) (byId : List (String × JsonFields))
    (observation : JsonFields) :
    Alike (Python.observeAcknowledgement runtime.toContractRuntime intent byId observation)
      (TypeScript.observeAcknowledgement runtime.toContractRuntime intent byId observation) := by
  refine alike_bind (schema_alike _ _) fun _ hschema => alike_bind ?_ fun _ _ =>
    alike_bind (alike_require Iff.rfl) fun _ _ => alike_pure _
  have hobservation := runtime.accepted hschema (hschemas (by simp [pairingSchemas]))
  exact acknowledges_alike hintent hobservation (by decide)

/-- The observations that a fold has kept are accepted. -/
theorem observations_accepted (hschemas : pairingSchemas ⊆ schemas) {intent : JsonFields}
    {observations : List JsonFields} {byId byId' : List (String × JsonFields)}
    (h : observations.foldlM (Python.observeAcknowledgement runtime.toContractRuntime intent) byId = .ok byId')
    (hbyId : ∀ entry ∈ byId, qqAcknowledgementObservationSchema.accepts entry.2 = true) :
    ∀ entry ∈ byId', qqAcknowledgementObservationSchema.accepts entry.2 = true := by
  induction observations generalizing byId with
  | nil => rwa [← Except.ok.inj h]
  | cons observation observations ih =>
      rw [List.foldlM_cons] at h
      obtain ⟨next, hstep, hrest⟩ := bind_eq_ok.mp h
      refine ih hrest ?_
      rw [Python.observeAcknowledgement, unit_bind_eq_ok, unit_bind_eq_ok, require_bind_eq_ok] at hstep
      obtain ⟨hschema, -, -, hnext⟩ := hstep
      obtain rfl := Except.ok.inj hnext
      intro entry hentry
      rcases List.mem_cons.mp hentry with rfl | hentry
      · exact runtime.accepted hschema (hschemas (by simp [pairingSchemas]))
      · exact hbyId entry hentry

/-- The observation of a completion is found and compared alike. -/
theorem confirm_alike {byId : List (String × JsonFields)} {completion : JsonFields}
    (hbyId : ∀ entry ∈ byId, qqAcknowledgementObservationSchema.accepts entry.2 = true)
    (hcompletion : qqAcknowledgementCompletionSchema.accepts completion = true) :
    Alike (Python.confirm byId completion) (TypeScript.confirm byId completion) := by
  refine alike_bind (alike_fetch rfl) fun observation hfetched => alike_bind (alike_require ?_) fun _ _ =>
    alike_require ?_
  · -- the status of an observation is a text
    obtain ⟨before, after, hsplit, -⟩ := List.lookup_eq_some_iff.mp (fetch_eq_ok.mp hfetched)
    have hmem : (textOf (completion.get? "observation_id"), observation) ∈ byId := by
      rw [hsplit]
      exact List.mem_append_right _ List.mem_cons_self
    have htexts : qqAcknowledgementObservationSchema.texts ["status"] = true := by decide
    obtain ⟨s, hs⟩ := ContractSchema.text_of_texts (hbyId _ hmem) htexts List.mem_cons_self
    rw [hs, decide_eq_true_eq, List.any_eq_true]
    constructor
    · rintro ⟨status, hstatus, heq⟩
      obtain rfl := Json.str.inj (Option.some.inj (Python.eq_text.mp heq))
      exact hstatus
    · intro hstatus
      exact ⟨s, hstatus, Python.eq_text.mpr rfl⟩
  · have htexts : qqAcknowledgementCompletionSchema.texts ["provider_message_id_hash", "outcome_sha256"] = true := by
      decide
    rw [List.all_eq_true, List.all_eq_true]
    refine forall₂_congr fun field hfield => ?_
    obtain ⟨s, hs⟩ := ContractSchema.text_of_texts hcompletion htexts hfield
    have heq := @eq_iff_of_text (completion.get? field) (observation.get? field) s (.inl hs)
    exact heq.1.trans heq.2.symm

/-- The first completion of an acknowledgement is judged alike. -/
theorem completeAcknowledgement_alike (hschemas : pairingSchemas ⊆ schemas) {intent : JsonFields}
    (hintent : qqAcknowledgementIntentSchema.accepts intent = true) {byId : List (String × JsonFields)}
    (hbyId : ∀ entry ∈ byId, qqAcknowledgementObservationSchema.accepts entry.2 = true) (completion : JsonFields) :
    (∃ seen, Python.completeAcknowledgement runtime.toContractRuntime intent byId [] completion = .ok seen) ↔
      TypeScript.completeAcknowledgement runtime.toContractRuntime intent byId completion = .ok () := by
  have halike : Alike
      (do Python.requireSchema runtime.toContractRuntime completion qqAcknowledgementCompletionSchema
          Python.acknowledges intent completion "completion_link_mismatch"
          Python.confirm byId completion)
      (TypeScript.completeAcknowledgement runtime.toContractRuntime intent byId completion) := by
    refine alike_bind (schema_alike _ _) fun _ hschema => ?_
    have hcompletion := runtime.accepted hschema (hschemas (by simp [pairingSchemas]))
    exact alike_bind (acknowledges_alike hintent hcompletion (by decide)) fun _ _ =>
      confirm_alike hbyId hcompletion
  rw [← halike ()]
  simp only [Python.completeAcknowledgement, unit_bind_eq_ok, require_eq_ok]
  constructor
  · rintro ⟨seen, hschema, hlinks, -, hconfirmed, -⟩
    exact ⟨hschema, hlinks, hconfirmed⟩
  · rintro ⟨hschema, hlinks, hconfirmed⟩
    exact ⟨_, hschema, hlinks, rfl, hconfirmed, rfl⟩

/-- **Acknowledgement chains are judged alike.** -/
theorem acknowledgement_alike (hschemas : pairingSchemas ⊆ schemas) (intent : JsonFields)
    (observations completions : List JsonFields) :
    Alike (Python.validateQqAcknowledgementChain runtime.toContractRuntime sha256 intent observations completions)
      (TypeScript.validateQQAcknowledgementChain runtime.toContractRuntime sha256 intent observations
        completions) := by
  have hrest : Python.requireSchema runtime.toContractRuntime intent qqAcknowledgementIntentSchema = .ok () →
      Alike
        (do let byId ← observations.foldlM (Python.observeAcknowledgement runtime.toContractRuntime intent) []
            let _ ← completions.foldlM (Python.completeAcknowledgement runtime.toContractRuntime intent byId) []
            require (completions.length ≤ 1) ⟨"qq-acknowledgement", "duplicate_completion"⟩ :
              Except ContractValidationError Unit)
        (do let byId ← observations.foldlM (TypeScript.observeAcknowledgement runtime.toContractRuntime intent) []
            require (completions.length ≤ 1) "duplicate_completion"
            completions.forM (TypeScript.completeAcknowledgement runtime.toContractRuntime intent byId)) := by
    intro hschema
    have hintent := runtime.accepted hschema (hschemas (by simp [pairingSchemas]))
    refine alike_bind (alike_foldlM fun byId o _ => observeAcknowledgement_alike hschemas hintent byId o)
      fun byId hobserved => ?_
    have hbyId := observations_accepted hschemas hobserved fun _ h => absurd h List.not_mem_nil
    intro u
    rw [bind_eq_ok, require_bind_eq_ok, forM_eq_ok_iff, decide_eq_true_eq]
    constructor
    · rintro ⟨seen, hfold, hsingle⟩
      have hlength := of_decide_eq_true (require_eq_ok.mp hsingle)
      refine ⟨hlength, fun c hc => ?_⟩
      have hstep := (foldlM_of_length_le_one hlength).mp ⟨seen, hfold⟩ c hc
      exact (completeAcknowledgement_alike hschemas hintent hbyId c).mp hstep
    · rintro ⟨hlength, hloop⟩
      have hall : ∀ c ∈ completions,
          ∃ seen, Python.completeAcknowledgement runtime.toContractRuntime intent byId [] c = .ok seen :=
        fun c hc => (completeAcknowledgement_alike hschemas hintent hbyId c).mpr (hloop c hc)
      obtain ⟨seen, hfold⟩ := (foldlM_of_length_le_one hlength).mpr hall
      exact ⟨seen, hfold, require_eq_ok.mpr (decide_eq_true hlength)⟩
  intro u
  rw [Python.validateQqAcknowledgementChain, TypeScript.validateQQAcknowledgementChain,
    Python.validateQqAcknowledgementIntent, unit_bind_eq_ok, unit_bind_eq_ok, unit_bind_eq_ok, require_bind_eq_ok,
    require_eq_ok, Python.eq_text, TypeScript.eq_text, ← schema_alike, and_assoc]
  exact and_congr_right fun hschema => and_congr_right fun _ => hrest hschema u

/-! ## The acceptance report -/

/-- What both languages require of a report. -/
structure ReportFacts (runtime : ContractRuntime) (report : JsonFields) : Prop where
  valid : runtime.validatePayload report = .ok ()
  hash : report.get? "report_sha256" = some (.str (runtime.recordHash report "report_sha256"))
  accepted : report.get? "accepted" = some (.bool
    (decide (report.get? "completion_status" = some (.str "COMPLETED")) &&
      reportLinkFields.all fun field => isText (report.get? field)))
  fake : report.get? "mode" = some (.str "offline-fake") →
    TypeScript.verdicts report true false false false = true
  live : report.get? "mode" = some (.str "qq-sandbox-live") →
    TypeScript.verdicts report false (decide (report.get? "completion_status" = some (.str "COMPLETED"))) true true =
      true

theorem TypeScript.report_iff {runtime : ContractRuntime} {report : JsonFields} :
    TypeScript.validateQQGroupPairingAcceptanceReport runtime report = .ok () ↔ ReportFacts runtime report := by
  have hcompleted : TypeScript.eq (report.get? "completion_status") (some (.str "COMPLETED")) =
      decide (report.get? "completion_status" = some (.str "COMPLETED")) := by
    rw [Bool.eq_iff_iff, TypeScript.eq_text, decide_eq_true_eq]
  have hmode : ∀ (mode : String) (verdict : Bool),
      (!(TypeScript.eq (report.get? "mode") (some (.str mode)) && !verdict)) = true ↔
        (report.get? "mode" = some (.str mode) → verdict = true) := by
    intro mode verdict
    rw [← TypeScript.eq_text]
    cases TypeScript.eq (report.get? "mode") (some (.str mode)) <;> cases verdict <;> simp
  simp only [TypeScript.validateQQGroupPairingAcceptanceReport, unit_bind_eq_ok, require_eq_ok, decide_eq_true_eq,
    TypeScript.validatePayload_iff, TypeScript.eq_text, TypeScript.eq_bool, hcompleted, hmode]
  constructor
  · rintro ⟨hvalid, hhash, haccepted, hfake, hlive⟩
    exact ⟨hvalid, hhash, haccepted, hfake, hlive⟩
  · intro h
    exact ⟨h.valid, h.hash, h.accepted, h.fake, h.live⟩

/-- The verdicts of an accepted report are truth values, and compare alike. -/
theorem verdicts_alike {report : JsonFields} (h : qqGroupPairingAcceptanceReportSchema.accepts report = true)
    (fake live network credentials : Bool) :
    Python.verdicts report fake live network credentials =
      TypeScript.verdicts report fake live network credentials := by
  have hflag : ∀ {field : String}, field ∈ qqGroupPairingAcceptanceReportSchema.required.map (·.1) →
      qqGroupPairingAcceptanceReportSchema.rule? field = some .boolean → ∀ b : Bool,
        Python.eq (report.get? field) (some (.bool b)) = TypeScript.eq (report.get? field) (some (.bool b)) := by
    intro field hfield hrule b
    obtain ⟨v, hv, haccepts⟩ := ContractSchema.required_value h hfield hrule
    cases v with
    | bool c =>
        rw [hv]
        cases b <;> cases c <;> rfl
    | _ => cases haccepts
  rw [Python.verdicts, TypeScript.verdicts, hflag (by decide) rfl, hflag (by decide) rfl, hflag (by decide) rfl,
    hflag (by decide) rfl]

/-- **Python requires more of a report**: that it is one. -/
theorem Python.report_iff (hschemas : pairingSchemas ⊆ schemas) {report : JsonFields} :
    Python.validateQqGroupPairingAcceptanceReport runtime.toContractRuntime report = .ok () ↔
      ReportFacts runtime.toContractRuntime report ∧
        report.get? "schema_id" = some (.str qqGroupPairingAcceptanceReportSchema.id) := by
  have hcompleted : Python.eq (report.get? "completion_status") (some (.str "COMPLETED")) =
      decide (report.get? "completion_status" = some (.str "COMPLETED")) := by
    rw [Bool.eq_iff_iff, Python.eq_text, decide_eq_true_eq]
  have haccepted : runtime.validatePayload report = .ok () →
      report.get? "schema_id" = some (.str qqGroupPairingAcceptanceReportSchema.id) →
      qqGroupPairingAcceptanceReportSchema.accepts report = true := fun hvalid hid =>
    runtime.shapes report hvalid _ (hschemas (by simp [pairingSchemas])) hid
  simp only [Python.validateQqGroupPairingAcceptanceReport, unit_bind_eq_ok, require_eq_ok, Python.requireSchema_iff,
    decide_eq_true_eq, Python.eq_text, hcompleted]
  constructor
  · rintro ⟨⟨hvalid, hid⟩, hhash, hacceptance, hmode⟩
    refine ⟨⟨hvalid, hhash, hacceptance, ?_, ?_⟩, hid⟩
    · intro hfake
      rw [if_pos hfake, require_eq_ok, verdicts_alike (haccepted hvalid hid)] at hmode
      exact hmode
    · intro hlive
      have hne : ¬ report.get? "mode" = some (.str "offline-fake") := by
        rw [hlive]
        decide
      rw [if_neg hne, require_eq_ok, verdicts_alike (haccepted hvalid hid)] at hmode
      exact hmode
  · rintro ⟨h, hid⟩
    refine ⟨⟨h.valid, hid⟩, h.hash, h.accepted, ?_⟩
    split
    · rename_i hfake
      rw [require_eq_ok, verdicts_alike (haccepted h.valid hid)]
      exact h.fake hfake
    · rename_i hne
      rw [require_eq_ok, verdicts_alike (haccepted h.valid hid)]
      -- a report has one of two modes
      have hrequired : "mode" ∈ qqGroupPairingAcceptanceReportSchema.required.map (·.1) := by decide
      obtain ⟨v, hv, hmode⟩ := ContractSchema.required_value (haccepted h.valid hid) hrequired rfl
      cases v with
      | str mode =>
          have hmem : mode ∈ ["offline-fake", "qq-sandbox-live"] := of_decide_eq_true hmode
          simp only [List.mem_cons, List.not_mem_nil, or_false] at hmem
          rcases hmem with rfl | rfl
          · exact absurd hv hne
          · exact h.live hv
      | _ => cases hmode

/-! ## The three validators -/

/-- **The languages judge pairings alike** exactly when a pairing, or a report, that passes the checks of both
    is made of the right records, in the order of their dates; acknowledgements they always judge alike. -/
theorem pairings_judged_alike (runtime : SchemaRuntime pairingSchemas) (sha256 : String → String) :
    (∀ challenge completions,
      (TypeScript.validateQQGroupPairingChain runtime.toContractRuntime sha256 challenge completions = .ok () ↔
        Python.validateQqGroupPairingChain runtime.toContractRuntime sha256 challenge completions = .ok ()) ↔
      (PairingFacts runtime.toContractRuntime sha256 challenge completions →
        PairingOwn challenge completions)) ∧
    (∀ intent observations completions,
      TypeScript.validateQQAcknowledgementChain runtime.toContractRuntime sha256 intent observations completions =
          .ok () ↔
        Python.validateQqAcknowledgementChain runtime.toContractRuntime sha256 intent observations completions =
          .ok ()) ∧
    ∀ report,
      (TypeScript.validateQQGroupPairingAcceptanceReport runtime.toContractRuntime report = .ok () ↔
        Python.validateQqGroupPairingAcceptanceReport runtime.toContractRuntime report = .ok ()) ↔
      (ReportFacts runtime.toContractRuntime report →
        report.get? "schema_id" = some (.str qqGroupPairingAcceptanceReportSchema.id)) := by
  have hschemas : pairingSchemas ⊆ pairingSchemas := List.Subset.refl _
  have hjudged : ∀ {Facts Own : Prop}, ((Facts ↔ Facts ∧ Own) ↔ (Facts → Own)) := by
    intro Facts Own
    constructor
    · intro h hfacts
      exact (h.mp hfacts).2
    · intro h
      exact ⟨fun hfacts => ⟨hfacts, h hfacts⟩, fun hboth => hboth.1⟩
  refine ⟨fun challenge completions => ?_, fun intent observations completions => ?_, fun report => ?_⟩
  · rw [TypeScript.pairing_iff, Python.pairing_iff hschemas]
    exact hjudged
  · exact (acknowledgement_alike hschemas intent observations completions ()).symm
  · rw [TypeScript.report_iff, Python.report_iff hschemas]
    exact hjudged

/-! ## A deadline before its start -/

def invertedTenantHash : String := "628b49d96dcde97a430dd4f597705899e09a968f793491e4b704cae33a40dc02"

/-- A challenge that ends a day before it begins. -/
def invertedChallenge : JsonFields :=
  .ofList
    [("schema_id", .str qqGroupPairingChallengeSchema.id), ("schema_version", .str "v1"),
     ("challenge_id", .str "qqpc_00000000000000000000000000000000"),
     ("challenge_sha256", .str "0000000000000000000000000000000000000000000000000000000000000000"),
     ("app_id_hash", .str "0000000000000000000000000000000000000000000000000000000000000000"),
     ("tenant_id", .str "t1"), ("tenant_id_hash", .str invertedTenantHash),
     ("capability_profile_hash", .str "0000000000000000000000000000000000000000000000000000000000000000"),
     ("created_at", .str "2026-01-02T00:00:00Z"), ("deadline_at", .str "2026-01-01T00:00:00Z"),
     ("status", .str "PENDING")]

def invertedRuntime : SchemaRuntime pairingSchemas := schemaRuntime _ (fun _ => "") (fun _ => none)

/-- TypeScript accepts a challenge whose deadline comes before its creation. -/
theorem inverted_judged_apart :
    TypeScript.validateQQGroupPairingChain invertedRuntime.toContractRuntime (fun _ => invertedTenantHash)
        invertedChallenge [] = .ok () ∧
      Python.validateQqGroupPairingChain invertedRuntime.toContractRuntime (fun _ => invertedTenantHash)
        invertedChallenge [] = .error ⟨"qq-group-pairing-challenge", "deadline_invalid"⟩ ∧
      ¬ (TypeScript.validateQQGroupPairingChain invertedRuntime.toContractRuntime (fun _ => invertedTenantHash)
            invertedChallenge [] = .ok () ↔
          Python.validateQqGroupPairingChain invertedRuntime.toContractRuntime (fun _ => invertedTenantHash)
            invertedChallenge [] = .ok ()) := by
  have htypeScript : TypeScript.validateQQGroupPairingChain invertedRuntime.toContractRuntime
      (fun _ => invertedTenantHash) invertedChallenge [] = .ok () := by decide +kernel
  have hpython : Python.validateQqGroupPairingChain invertedRuntime.toContractRuntime
      (fun _ => invertedTenantHash) invertedChallenge [] =
        .error ⟨"qq-group-pairing-challenge", "deadline_invalid"⟩ := by decide +kernel
  refine ⟨htypeScript, hpython, fun h => ?_⟩
  have haccepted := h.mp htypeScript
  rw [hpython] at haccepted
  cases haccepted

end WeFlow
