import WeFlow.Contracts.Schema

/-!
# `Languages` — the authorization validators of `authorization.py` and of `index.ts`

Both languages validate the same JSON payloads. `Python` raises a `ContractValidationError`, `TypeScript`
returns a reason code; each namespace keeps the checks of its own source, in their order. A shape that the
schemas exclude makes Python raise a `TypeError` where the check is made; here the check fails.

The timestamps are read by one function, but an expiry that cannot be read is `None` in Python, which
refuses it, and `NaN` in TypeScript, where no comparison with it holds: `TypeScript.past` is false of it.
-/

namespace WeFlow

open Txn

/-- The identity of the current authorization: what the caller sees, with the tenant it acts for. -/
structure Change4CurrentContext where
  caseRevisionId : String
  checkpointId : String
  workflowVersion : Int
  candidateHash : String
  evidenceHashes : List String
  effectiveTenantId : Option String
  now : Instant

structure Change4AuthorizationContext extends Change4CurrentContext where
  action : String
  resourceId : String
  dataClassification : String
  effectiveSubjectId : Option String
  effectiveRole : Option String

structure Change4ApprovalContext extends Change4CurrentContext where
  effectiveApproverId : String
  effectiveApproverRole : String

/-- `None`/`undefined`, `null`, `""` or `[]`. -/
def isBlank : Option Json → Bool
  | none | some .null | some (.arr .nil) => true
  | some (.str s) => s = ""
  | _ => false

/-- `str(value)` and `String(value)` of a string; the schemas require one wherever it is taken. -/
def textOf : Option Json → String
  | some (.str s) => s
  | _ => ""

def grantFields : List String :=
  ["grant_version", "grant_sha256", "role", "resource_scope", "data_classifications"]

def policyFields : List String :=
  ["checkpoint_id", "workflow_id", "workflow_version", "candidate_hash", "action", "policy_version",
   "policy_input_sha256", "policy_decision_sha256", "grant_id", "grant_sha256", "subject_id", "role",
   "resource_id", "data_classification"]

def requestFields : List String :=
  ["workflow_id", "checkpoint_id", "workflow_version", "authorization_binding_sha256",
   "policy_decision_sha256", "policy_version", "grant_sha256"]

def approvalFields : List String :=
  ["workflow_id", "checkpoint_id", "workflow_version", "authorization_binding_sha256", "approver_id",
   "approver_role", "decision_sha256"]

def bindingGrantFields : List String :=
  ["tenant_id", "grant_id", "grant_version", "grant_sha256", "subject_id", "role"]

def deliveryFields : List String :=
  ["tenant_id", "case_id", "case_revision_id", "workflow_id", "checkpoint_id"]

def safeDataClassifications : List String := ["synthetic"]

/-! ## `authorization.py` -/

namespace Python

/-- `left.get(field) == right.get(field)`: a missing field is `None`. -/
def eq (left right : Option Json) : Bool := (left.getD .null).pyEq (right.getD .null)

/-- The items of a list; no items stand for a missing one. -/
def items : Option Json → JsonItems
  | some (.arr items) => items
  | _ => .nil

/-- `value in items`. -/
def contains (list : Option Json) (value : String) : Bool :=
  (items list).toList.any fun item => item.pyEq (.str value)

/-- `len(items) == len(set(items))`. -/
def distinct (items : JsonItems) : Bool := items.toList.Pairwise fun a b => a.pyEq b = false

section Validators

variable (runtime : ContractRuntime)

def requireSchema (payload : JsonFields) (schema : ContractSchema) : Except ContractValidationError Unit := do
  runtime.validatePayload payload
  require (eq (payload.get? "schema_id") (some (.str schema.id))) ⟨schema.name, "unexpected_schema"⟩

def requireFields (payload : JsonFields) (fields : List String) (schemaName : String) :
    Except ContractValidationError Unit :=
  fields.forM fun field => require (!isBlank (payload.get? field)) ⟨schemaName, field ++ "_required"⟩

def requireHash (payload : JsonFields) (hashField schemaName : String) :
    Except ContractValidationError Unit :=
  require (payload.get? hashField = some (.str (runtime.recordHash payload hashField)))
    ⟨schemaName, hashField ++ "_mismatch"⟩

def same (left right : JsonFields) (fields : List String) (schemaName : String) :
    Except ContractValidationError Unit :=
  fields.forM fun field => require (eq (left.get? field) (right.get? field))
    ⟨schemaName, if field = "tenant_id" then "tenant_identity_mismatch" else "binding_mismatch"⟩

def validateAuthorizationBinding (payload : JsonFields) : Except ContractValidationError Unit := do
  requireSchema runtime payload authorizationBindingSchema
  requireHash runtime payload "authorization_binding_sha256" "authorization-binding"
  require (match payload.get? "evidence_hashes" with
    | some (.arr evidence) => distinct evidence
    | _ => false) ⟨"authorization-binding", "evidence_not_ordered_unique"⟩

/-- `_parse_time` of a field. -/
def expiry? (payload : JsonFields) : Option Instant :=
  match payload.get? "expires_at" with
  | some (.str s) => runtime.parseTime s
  | _ => none

/-- Whether an expiry is an instant after now. -/
def unexpired (payload : JsonFields) (now : Instant) : Bool :=
  match expiry? runtime payload with
  | some expiry => now < expiry
  | none => false

/-- The scope that the grant must have. -/
def covers (grant : JsonFields) (context : Change4AuthorizationContext) : Bool :=
  contains (grant.get? "scopes") context.action &&
  eq (some (.str context.resourceId)) (grant.get? "resource_scope") &&
  contains (grant.get? "data_classifications") context.dataClassification &&
  decide (context.dataClassification ∈ safeDataClassifications)

/-- The purpose that binding and decision must name. -/
def purpose (binding decision : JsonFields) (context : Change4AuthorizationContext) : Bool :=
  eq (binding.get? "action") (some (.str context.action)) &&
  eq (decision.get? "action") (some (.str context.action)) &&
  eq (binding.get? "delivery_resource_id") (some (.str context.resourceId)) &&
  eq (binding.get? "data_classification") (some (.str context.dataClassification)) &&
  eq (decision.get? "resource_id") (some (.str context.resourceId)) &&
  eq (decision.get? "data_classification") (some (.str context.dataClassification))

/-- Whether a record is about what the caller currently sees. -/
def current (record : JsonFields) (context : Change4CurrentContext) : Bool :=
  eq (record.get? "case_revision_id") (some (.str context.caseRevisionId)) &&
  eq (record.get? "checkpoint_id") (some (.str context.checkpointId)) &&
  eq (record.get? "workflow_version") (some (.int context.workflowVersion)) &&
  eq (record.get? "candidate_hash") (some (.str context.candidateHash)) &&
  (items (record.get? "evidence_hashes")).pyEq (.strings context.evidenceHashes)

/-- An optional identity that the caller passes. -/
def isEffective (value : Option Json) (effective : Option String) : Bool :=
  match effective with
  | some expected => eq value (some (.str expected))
  | none => true

/-- **`validate_change4_authorization_profile`.** -/
def validateChange4AuthorizationProfile (binding grant decision : JsonFields)
    (context : Change4AuthorizationContext) (requireAllow : Bool) : Except ContractValidationError Unit := do
  require (context.action ∈ change4Actions) ⟨"authorization-binding", "action_not_allowlisted"⟩
  validateAuthorizationBinding runtime binding
  requireSchema runtime grant capabilityGrantSchema
  requireSchema runtime decision policyDecisionSchema
  requireFields grant grantFields "capability-grant"
  requireHash runtime grant "grant_sha256" "capability-grant"
  requireFields decision policyFields "policy-decision"
  requireHash runtime decision "policy_decision_sha256" "policy-decision"
  require (!requireAllow || eq (decision.get? "decision") (some (.str "allow")))
    ⟨"policy-decision", "policy_denied"⟩
  require (eq (grant.get? "status") (some (.str "active"))) ⟨"capability-grant", "grant_not_active"⟩
  require (unexpired runtime grant context.now && unexpired runtime binding context.now)
    ⟨"authorization-binding", "authorization_expired"⟩
  require (covers grant context) ⟨"capability-grant", "grant_scope_denied"⟩
  same binding grant bindingGrantFields "authorization-binding"
  same binding decision
    ["tenant_id", "case_id", "case_revision_id", "workflow_id", "checkpoint_id", "workflow_version",
     "candidate_hash", "evidence_hashes", "policy_decision_id", "policy_version",
     "policy_decision_sha256", "grant_id", "grant_sha256", "subject_id", "role"] "authorization-binding"
  require (purpose binding decision context) ⟨"authorization-binding", "binding_mismatch"⟩
  require (current binding context.toChange4CurrentContext)
    ⟨"authorization-binding", "stale_authorization_binding"⟩
  require (isEffective (binding.get? "tenant_id") context.effectiveTenantId)
    ⟨"authorization-binding", "tenant_identity_mismatch"⟩
  require (isEffective (binding.get? "subject_id") context.effectiveSubjectId)
    ⟨"authorization-binding", "subject_identity_mismatch"⟩
  require (isEffective (binding.get? "role") context.effectiveRole)
    ⟨"authorization-binding", "role_identity_mismatch"⟩

/-- The fields in which a request repeats its binding. -/
def bound (request binding : JsonFields) : Bool :=
  eq (request.get? "authorization_binding_sha256") (binding.get? "authorization_binding_sha256") &&
  eq (request.get? "policy_decision_sha256") (binding.get? "policy_decision_sha256") &&
  eq (request.get? "policy_version") (binding.get? "policy_version") &&
  eq (request.get? "grant_sha256") (binding.get? "grant_sha256")

/-- The actor that the decision must name. -/
def decidedBy (decision : JsonFields) (context : Change4ApprovalContext) : Bool :=
  eq (decision.get? "tenant_id") (context.effectiveTenantId.map .str) &&
  eq (decision.get? "approver_id") (some (.str context.effectiveApproverId)) &&
  eq (decision.get? "approver_role") (some (.str context.effectiveApproverRole))

/-- **`validate_hash_bound_approval`.** -/
def validateHashBoundApproval (request decision binding : JsonFields) (context : Change4ApprovalContext) :
    Except ContractValidationError Unit := do
  requireSchema runtime request approvalRequestSchema
  requireSchema runtime decision approvalDecisionSchema
  validateAuthorizationBinding runtime binding
  requireFields request requestFields "approval-request"
  requireFields decision approvalFields "approval-decision"
  requireHash runtime decision "decision_sha256" "approval-decision"
  require (eq (decision.get? "decision") (some (.str "approved")))
    ⟨"approval-decision", "approval_not_granted"⟩
  same request decision
    ["tenant_id", "approval_request_id", "case_id", "case_revision_id", "candidate_hash",
     "evidence_hashes", "workflow_id", "checkpoint_id", "workflow_version",
     "authorization_binding_sha256"] "approval-decision"
  require (bound request binding) ⟨"approval-request", "binding_mismatch"⟩
  require (decidedBy decision context) ⟨"approval-decision", "actor_identity_mismatch"⟩
  require (current request context.toChange4CurrentContext) ⟨"approval-decision", "approval_stale"⟩
  require (unexpired runtime decision context.now) ⟨"approval-decision", "approval_expired"⟩

/-- One observation of a delivery chain, after those with the identifiers `seen`. -/
def observe (intent : JsonFields) (seen : List String) (observation : JsonFields) :
    Except ContractValidationError (List String) := do
  requireSchema runtime observation outboundDeliveryObservationSchema
  let observationId := textOf (observation.get? "observation_id")
  require (observationId ∉ seen) ⟨"outbound-delivery-observation", "duplicate_observation"⟩
  same intent observation deliveryFields "outbound-delivery-observation"
  require (eq (observation.get? "intent_id") (intent.get? "intent_id"))
    ⟨"outbound-delivery-observation", "intent_reference_mismatch"⟩
  return observationId :: seen

/-- The first observation of a completion that found the delivery. -/
def matching? (observations : List JsonFields) (completion : JsonFields) : Option JsonFields :=
  observations.find? fun observation =>
    eq (observation.get? "observation_id") (completion.get? "observation_id") &&
    eq (observation.get? "status") (some (.str "present"))

/-- The completion of a delivery chain. -/
def complete (intent : JsonFields) (observations : List JsonFields) (completion : JsonFields) :
    Except ContractValidationError Unit := do
  requireSchema runtime completion outboundDeliveryCompletionSchema
  same intent completion deliveryFields "outbound-delivery-completion"
  require (eq (completion.get? "intent_id") (intent.get? "intent_id"))
    ⟨"outbound-delivery-completion", "intent_reference_mismatch"⟩
  let observation ← fetch (matching? observations completion)
    ⟨"outbound-delivery-completion", "completion_observation_missing"⟩
  require (["observed_delivery_id", "observed_version", "content_sha256"].all fun field =>
      eq (observation.get? field) (completion.get? field))
    ⟨"outbound-delivery-completion", "completion_observation_mismatch"⟩

/-- **`validate_outbound_delivery_chain`.** -/
def validateOutboundDeliveryChain (intent : JsonFields) (observations completions : List JsonFields)
    (binding : JsonFields) : Except ContractValidationError Unit := do
  requireSchema runtime intent outboundDeliveryIntentSchema
  validateAuthorizationBinding runtime binding
  require (eq (intent.get? "authorization_binding_sha256") (binding.get? "authorization_binding_sha256"))
    ⟨"outbound-delivery-intent", "binding_mismatch"⟩
  require ((items (intent.get? "evidence_hashes")).pyEq (items (binding.get? "evidence_hashes")))
    ⟨"outbound-delivery-intent", "binding_mismatch"⟩
  require (eq (intent.get? "candidate_hash") (binding.get? "candidate_hash"))
    ⟨"outbound-delivery-intent", "binding_mismatch"⟩
  require (completions.length ≤ 1) ⟨"outbound-delivery-completion", "multiple_completions"⟩
  let _ ← observations.foldlM (observe runtime intent) []
  completions.forM (complete runtime intent observations)

end Validators

end Python

/-! ## `index.ts` -/

namespace TypeScript

/-- `left === right`, of values of two payloads. -/
def eq : Option Json → Option Json → Bool
  | none, none => true
  | some left, some right => left.strictEq right
  | _, _ => false

def isArray : Option Json → Bool
  | some (.arr _) => true
  | _ => false

/-- `Array.isArray(list) && list.includes(value)`. -/
def includes (list : Option Json) (value : String) : Bool :=
  match list with
  | some (.arr items) => items.toList.any fun item => item.strictEq (.str value)
  | _ => false

/-- `items.length === new Set(items).size`. -/
def distinct (items : JsonItems) : Bool := items.toList.Pairwise fun a b => a.strictEq b = false

/-- `change4OrderedEqual`. -/
def change4OrderedEqual (left right : Option Json) : Bool :=
  isArray left && isArray right && left.map Json.canonical = right.map Json.canonical

def requireChange4Fields (payload : JsonFields) (fields : List String) : Except String Unit :=
  fields.forM fun field => require (!isBlank (payload.get? field)) (field ++ "_required")

def change4Same (left right : JsonFields) (fields : List String) : Except String Unit :=
  fields.forM fun field => require (eq (left.get? field) (right.get? field))
    (if field = "tenant_id" then "tenant_identity_mismatch" else "binding_mismatch")

section Validators

variable (runtime : ContractRuntime)

/-- `validatePayload`: the reason of the shared validator. -/
def validatePayload (payload : JsonFields) : Except String Unit :=
  match runtime.validatePayload payload with
  | .ok () => .ok ()
  | .error e => .error e.reasonCode

def validateExpectedSchema (payload : JsonFields) (schema : ContractSchema) : Except String Unit := do
  validatePayload runtime payload
  require (eq (payload.get? "schema_id") (some (.str schema.id))) "unexpected_schema"

def change4ClaimedHash (payload : JsonFields) (hashField : String) : Except String Unit :=
  require (eq (payload.get? hashField) (some (.str (runtime.recordHash payload hashField))))
    (hashField ++ "_mismatch")

def validateAuthorizationBinding (payload : JsonFields) : Except String Unit := do
  validateExpectedSchema runtime payload authorizationBindingSchema
  change4ClaimedHash runtime payload "authorization_binding_sha256"
  require (match payload.get? "evidence_hashes" with
    | some (.arr evidence) => distinct evidence
    | _ => false) "evidence_not_ordered_unique"

/-- `Date.parse(String(payload.expires_at)) <= now`, which is false of `NaN`. -/
def past (payload : JsonFields) (now : Instant) : Bool :=
  match runtime.parseTime (textOf (payload.get? "expires_at")) with
  | some expiry => expiry ≤ now
  | none => false

/-- The conditions on the grant, its expiry and the binding's among them. -/
def grantScoped (binding grant : JsonFields) (context : Change4AuthorizationContext) : Bool :=
  eq (grant.get? "status") (some (.str "active")) &&
  !past runtime grant context.now && !past runtime binding context.now &&
  includes (grant.get? "scopes") context.action &&
  eq (grant.get? "resource_scope") (some (.str context.resourceId)) &&
  includes (grant.get? "data_classifications") context.dataClassification &&
  decide (context.dataClassification = "synthetic")

/-- Whether a record is about what the caller currently sees. -/
def current (record : JsonFields) (context : Change4CurrentContext) : Bool :=
  eq (record.get? "case_revision_id") (some (.str context.caseRevisionId)) &&
  eq (record.get? "checkpoint_id") (some (.str context.checkpointId)) &&
  eq (record.get? "workflow_version") (some (.int context.workflowVersion)) &&
  eq (record.get? "candidate_hash") (some (.str context.candidateHash)) &&
  change4OrderedEqual (record.get? "evidence_hashes") (some (.arr (.strings context.evidenceHashes)))

/-- The purpose and the current facts that binding and decision must name. -/
def bindingMatches (binding decision : JsonFields) (context : Change4AuthorizationContext) : Bool :=
  change4OrderedEqual (binding.get? "evidence_hashes") (decision.get? "evidence_hashes") &&
  eq (binding.get? "action") (some (.str context.action)) &&
  eq (decision.get? "action") (some (.str context.action)) &&
  eq (binding.get? "delivery_resource_id") (some (.str context.resourceId)) &&
  eq (decision.get? "resource_id") (some (.str context.resourceId)) &&
  eq (binding.get? "data_classification") (some (.str context.dataClassification)) &&
  eq (decision.get? "data_classification") (some (.str context.dataClassification)) &&
  current binding context.toChange4CurrentContext

/-- An optional identity that the caller passes. -/
def isEffective (value : Option Json) (effective : Option String) : Bool :=
  match effective with
  | some expected => eq value (some (.str expected))
  | none => true

/-- **`validateChange4AuthorizationProfile`.** -/
def validateChange4AuthorizationProfile (binding grant decision : JsonFields)
    (context : Change4AuthorizationContext) : Except String Unit := do
  require (context.action ∈ ["approval.request", "approval.decide", "outbound_delivery.execute"])
    "action_not_allowlisted"
  validateAuthorizationBinding runtime binding
  validateExpectedSchema runtime grant capabilityGrantSchema
  validateExpectedSchema runtime decision policyDecisionSchema
  requireChange4Fields grant grantFields
  change4ClaimedHash runtime grant "grant_sha256"
  requireChange4Fields decision policyFields
  change4ClaimedHash runtime decision "policy_decision_sha256"
  require (eq (decision.get? "decision") (some (.str "allow"))) "policy_denied"
  require (grantScoped runtime binding grant context) "grant_scope_denied"
  change4Same binding grant bindingGrantFields
  change4Same binding decision
    ["tenant_id", "case_id", "case_revision_id", "workflow_id", "checkpoint_id", "workflow_version",
     "candidate_hash", "policy_decision_id", "policy_version", "policy_decision_sha256", "grant_id",
     "grant_sha256", "subject_id", "role"]
  require (bindingMatches binding decision context) "binding_mismatch"
  require (isEffective (binding.get? "tenant_id") context.effectiveTenantId) "tenant_identity_mismatch"
  require (isEffective (binding.get? "subject_id") context.effectiveSubjectId) "subject_identity_mismatch"
  require (isEffective (binding.get? "role") context.effectiveRole) "role_identity_mismatch"

/-- The facts that an approval must match, its expiry among them. -/
def approvalMatches (request decision binding : JsonFields) (context : Change4ApprovalContext) : Bool :=
  eq (request.get? "authorization_binding_sha256") (binding.get? "authorization_binding_sha256") &&
  eq (request.get? "policy_decision_sha256") (binding.get? "policy_decision_sha256") &&
  eq (request.get? "policy_version") (binding.get? "policy_version") &&
  eq (request.get? "grant_sha256") (binding.get? "grant_sha256") &&
  eq (decision.get? "tenant_id") (context.effectiveTenantId.map .str) &&
  eq (decision.get? "approver_id") (some (.str context.effectiveApproverId)) &&
  eq (decision.get? "approver_role") (some (.str context.effectiveApproverRole)) &&
  current request context.toChange4CurrentContext &&
  !past runtime decision context.now

/-- **`validateHashBoundApproval`.** -/
def validateHashBoundApproval (request decision binding : JsonFields) (context : Change4ApprovalContext) :
    Except String Unit := do
  validateExpectedSchema runtime request approvalRequestSchema
  validateExpectedSchema runtime decision approvalDecisionSchema
  validateAuthorizationBinding runtime binding
  requireChange4Fields request requestFields
  requireChange4Fields decision approvalFields
  change4ClaimedHash runtime decision "decision_sha256"
  require (eq (decision.get? "decision") (some (.str "approved"))) "approval_not_granted"
  change4Same request decision
    ["tenant_id", "approval_request_id", "case_id", "case_revision_id", "candidate_hash", "workflow_id",
     "checkpoint_id", "workflow_version", "authorization_binding_sha256"]
  require (change4OrderedEqual (request.get? "evidence_hashes") (decision.get? "evidence_hashes"))
    "binding_mismatch"
  require (approvalMatches runtime request decision binding context) "approval_stale_or_mismatched"

/-- One observation of a delivery chain, after those with the identifiers `seen`. -/
def observe (intent : JsonFields) (seen : List String) (observation : JsonFields) :
    Except String (List String) := do
  validateExpectedSchema runtime observation outboundDeliveryObservationSchema
  let observationId := textOf (observation.get? "observation_id")
  require (observationId ∉ seen) "duplicate_observation"
  change4Same intent observation deliveryFields
  require (eq (observation.get? "intent_id") (intent.get? "intent_id")) "intent_reference_mismatch"
  return observationId :: seen

/-- The first observation of a completion that found the delivery. -/
def matching? (observations : List JsonFields) (completion : JsonFields) : Option JsonFields :=
  observations.find? fun observation =>
    eq (observation.get? "observation_id") (completion.get? "observation_id") &&
    eq (observation.get? "status") (some (.str "present"))

/-- The completion of a delivery chain. -/
def complete (intent : JsonFields) (observations : List JsonFields) (completion : JsonFields) :
    Except String Unit := do
  validateExpectedSchema runtime completion outboundDeliveryCompletionSchema
  change4Same intent completion deliveryFields
  require (eq (completion.get? "intent_id") (intent.get? "intent_id")) "intent_reference_mismatch"
  let observation ← fetch (matching? observations completion) "completion_observation_missing"
  require (["observed_delivery_id", "observed_version", "content_sha256"].all fun field =>
      eq (observation.get? field) (completion.get? field)) "completion_observation_mismatch"

/-- **`validateOutboundDeliveryChain`.** -/
def validateOutboundDeliveryChain (intent : JsonFields) (observations completions : List JsonFields)
    (binding : JsonFields) : Except String Unit := do
  validateExpectedSchema runtime intent outboundDeliveryIntentSchema
  validateAuthorizationBinding runtime binding
  require (eq (intent.get? "authorization_binding_sha256") (binding.get? "authorization_binding_sha256") &&
      eq (intent.get? "candidate_hash") (binding.get? "candidate_hash") &&
      change4OrderedEqual (intent.get? "evidence_hashes") (binding.get? "evidence_hashes"))
    "binding_mismatch"
  require (completions.length ≤ 1) "multiple_completions"
  let _ ← observations.foldlM (observe runtime intent) []
  completions.forM (complete runtime intent observations)

end Validators

end TypeScript

end WeFlow
