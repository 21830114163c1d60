import WeFlow.Contracts.Judgement
import WeFlow.Kernel.Policy

/-!
# `PolicyRecords` — the fixture policy and the authorization profile

`evaluate_fixture_policy` and `bind_fixture_authorization` build JSON records that
`validate_change4_authorization_profile` later compares with what the caller sees. The evaluation takes any
mapping for a grant and does not hash it; the profile does. A hash is SHA-256 of a canonical text: `Unforged` says
of one record that no other one has its hash.

## Contents

* `PolicyRuntime`, `PolicyArguments` — what `policy.py` calls and is called with.
* `Python.evaluateFixturePolicy`, `Python.bindFixtureAuthorization`.
* `PolicyPermits` — the default-deny conjunction; `evaluate_allows_iff`.
* `policy_and_profile_agree` — the profile of an allow decision, and of what differs from it;
  `unsealed_grant_allowed` — an allow decision whose profile never passes.
-/

namespace WeFlow

open Txn

/-! ## The arguments -/

/-- The mapping without one field. -/
def JsonFields.withoutField (field : String) : JsonFields → JsonFields
  | .nil => .nil
  | .cons key value rest => if key = field then rest.withoutField field else .cons key value (rest.withoutField field)

def isSha256Text (s : String) : Prop := (FieldRule.hash false).accepts (.str s) = true

instance (s : String) : Decidable (isSha256Text s) := inferInstanceAs (Decidable (_ = true))

/-- What `policy.py` calls beside the validators, which accept all that the schemas do: `canonical_sha256`, the
    rendering of a time and `str`. -/
structure PolicyRuntime extends ContractRuntime where
  canonicalSha256 : Json → String
  timestamp : Instant → String
  str : Json → String
  recordHash_eq : ∀ payload field, recordHash payload field = canonicalSha256 (.obj (payload.withoutField field))
  hexdigest : ∀ value, isSha256Text (canonicalSha256 value)
  rendered : ∀ t, timestamp t ≠ "" ∧ parseTime (timestamp t) = some t
  sorted : ∀ a b : JsonFields, (∀ key, a.get? key = b.get? key) → canonicalSha256 (.obj a) = canonicalSha256 (.obj b)
  str_text : ∀ s, str (.str s) = s
  complete : ∀ payload, ∀ schema ∈ change4Schemas, payload.get? "schema_id" = some (.str schema.id) →
    schema.accepts payload = true → validatePayload payload = .ok ()

/-- The arguments of `evaluate_fixture_policy`. -/
structure PolicyArguments where
  tenantId : String
  subjectId : String
  role : String
  action : String
  caseId : String
  caseRevisionId : String
  workflowId : String
  checkpointId : String
  workflowVersion : Int
  candidateHash : String
  evidenceHashes : List String
  grant : Option JsonFields
  resourceId : String
  dataClassification : String
  remainingBudget : Int

inductive PolicyError where
  | contract (error : ContractValidationError)
  | key (name : String)
  | type
  deriving DecidableEq, Repr

def contractChecked (x : Except ContractValidationError Unit) : Except PolicyError Unit :=
  x.mapError .contract

namespace Python

variable (runtime : PolicyRuntime)

/-! ## `evaluate_fixture_policy` -/

/-- `value in container`, where a missing container is an empty list. -/
def isIn (value : String) : Option Json → Except PolicyError Bool
  | none => .ok false
  | some (.arr items) => .ok (items.toList.any fun item => item.pyEq (.str value))
  | some (.str s) => .ok (decide (value.toList <:+: s.toList))
  | some (.obj fields) => .ok (fields.get? value).isSome
  | some _ => .error .type

/-- `str(grant.get(field, default))`. -/
def grantText (grant : Option JsonFields) (field default : String) : String :=
  match grant.bind (·.get? field) with
  | some value => runtime.str value
  | none => default

def grantId (p : PolicyArguments) : String := grantText runtime p.grant "grant_id" "grant-unavailable"

def zeroHash : String := "0000000000000000000000000000000000000000000000000000000000000000"

def grantSha256 (p : PolicyArguments) : String := grantText runtime p.grant "grant_sha256" zeroHash

/-- Whether the grant is about the question. -/
def grantMatches (p : PolicyArguments) (grant : JsonFields) : Except PolicyError Bool :=
  if eq (grant.get? "tenant_id") (some (.str p.tenantId)) && eq (grant.get? "subject_id") (some (.str p.subjectId)) &&
      eq (grant.get? "role") (some (.str p.role)) && eq (grant.get? "status") (some (.str "active")) then do
    let inScope ← isIn p.action (grant.get? "scopes")
    if inScope && eq (grant.get? "resource_scope") (some (.str p.resourceId)) then
      isIn p.dataClassification (grant.get? "data_classifications")
    else .ok false
  else .ok false

def expectedRole (action : String) : String :=
  if action = "approval.decide" then fixtureApproverRole else fixtureControllerRole

/-- The reason of an evaluation; only `fixture_policy_allowed` allows. -/
def policyReason (p : PolicyArguments) (now : Instant) : Except PolicyError String :=
  if p.tenantId ≠ fixtureTenantId ∨ p.action ∉ change4Actions ∨ p.caseId = "" ∨ p.caseRevisionId = "" ∨
      p.workflowId = "" ∨ p.checkpointId = "" ∨ p.workflowVersion < 0 ∨ p.evidenceHashes = [] then
    .ok "policy_identity_or_causation_denied"
  else if p.resourceId ≠ api503DeliveryResourceId then .ok "policy_resource_denied"
  else if p.dataClassification ≠ "synthetic" then .ok "policy_classification_denied"
  else if p.remainingBudget < 1 then .ok "policy_budget_denied"
  else
    match p.grant with
    | none => .ok "policy_grant_missing"
    | some grant => do
        let found ← grantMatches p grant
        if !found then .ok "policy_grant_denied"
        else
          match expiry? runtime.toContractRuntime grant with
          | none => .ok "policy_grant_invalid"
          | some expiry =>
              if expiry ≤ now then .ok "policy_grant_expired"
              else if p.role ≠ expectedRole p.action then .ok "policy_role_denied"
              else .ok "fixture_policy_allowed"

/-- The hashed input of an evaluation: the clock is not part of it. -/
def policyInput (p : PolicyArguments) : Json :=
  .obj (.ofList
    [("tenant_id", .str p.tenantId), ("subject_id", .str p.subjectId), ("role", .str p.role), ("action", .str p.action),
     ("case_id", .str p.caseId), ("case_revision_id", .str p.caseRevisionId), ("workflow_id", .str p.workflowId),
     ("checkpoint_id", .str p.checkpointId), ("workflow_version", .int p.workflowVersion),
     ("candidate_hash", .str p.candidateHash), ("evidence_hashes", .arr (.strings p.evidenceHashes)),
     ("resource_id", .str p.resourceId), ("data_classification", .str p.dataClassification),
     ("remaining_budget", .int p.remainingBudget), ("policy_version", .str api503PolicyVersion),
     ("grant_id", .str (grantId runtime p)), ("grant_sha256", .str (grantSha256 runtime p))])

/-- `_stable_identifier`. -/
def stableIdentifier (stem : String) (material : Json) : String :=
  let digest := runtime.canonicalSha256 (.obj (.ofList [("prefix", .str stem), ("material", material)]))
  stem ++ "_" ++ String.ofList (digest.toList.take 32)

/-- The fields of a decision but for its hash. -/
def decisionFields (p : PolicyArguments) (now : Instant) (reasonCode : String) : List (String × Json) :=
  let allow : Bool := reasonCode = "fixture_policy_allowed"
  let inputSha256 := runtime.canonicalSha256 (policyInput runtime p)
  [("schema_id", .str policyDecisionSchema.id), ("schema_version", .str "v1"), ("tenant_id", .str p.tenantId),
   ("policy_decision_id", .str (stableIdentifier runtime "policy_decision"
     (.obj (.ofList [("policy_input_sha256", .str inputSha256), ("decision", .bool allow)])))),
   ("case_id", .str p.caseId), ("case_revision_id", .str p.caseRevisionId),
   ("decision", .str (if allow then "allow" else "deny")), ("reason_code", .str reasonCode),
   ("evidence_hashes", .arr (.strings p.evidenceHashes)), ("decided_at", .str (runtime.timestamp now)),
   ("checkpoint_id", .str p.checkpointId), ("workflow_id", .str p.workflowId),
   ("workflow_version", .int p.workflowVersion), ("candidate_hash", .str p.candidateHash), ("action", .str p.action),
   ("policy_version", .str api503PolicyVersion), ("policy_input_sha256", .str inputSha256),
   ("grant_id", .str (grantId runtime p)), ("grant_sha256", .str (grantSha256 runtime p)),
   ("subject_id", .str p.subjectId), ("role", .str p.role), ("resource_id", .str p.resourceId),
   ("data_classification", .str p.dataClassification)]

/-- A record with the hash of its other fields. -/
def withHash (fields : List (String × Json)) (hashField : String) : JsonFields :=
  .ofList (fields ++ [(hashField, .str (runtime.recordHash (.ofList fields) hashField))])

/-- **`evaluate_fixture_policy`**. -/
def evaluateFixturePolicy (p : PolicyArguments) (now : Instant) : Except PolicyError JsonFields := do
  let reasonCode ← policyReason runtime p now
  let decision := withHash runtime (decisionFields runtime p now reasonCode) "policy_decision_sha256"
  contractChecked (requireSchema runtime.toContractRuntime decision policyDecisionSchema)
  return decision

/-! ## `bind_fixture_authorization` -/

/-- `record[key]`. -/
def item (record : JsonFields) (key : String) : Except PolicyError Json := fetch (record.get? key) (.key key)

/-- `list(value)` of a list. -/
def listOf : Json → Except PolicyError Json
  | .arr items => .ok (.arr items)
  | _ => .error .type

/-- The fields of a binding but for its hash. -/
def bindingFields (tenantId caseId caseRevisionId workflowId checkpointId workflowVersion candidateHash evidenceHashes
    action policyDecisionId policyVersion policyDecisionSha256 grantId grantVersion grantSha256 subjectId role : Json)
    (remainingBudget : Int) (expiresAt createdAt : Instant) : List (String × Json) :=
  [("schema_id", .str authorizationBindingSchema.id), ("schema_version", .str "v1"), ("tenant_id", tenantId),
   ("authorization_binding_id", .str (stableIdentifier runtime "authorization_binding" (.obj (.ofList
     [("policy_decision_sha256", policyDecisionSha256), ("grant_sha256", grantSha256),
      ("candidate_hash", candidateHash), ("evidence_hashes", evidenceHashes)])))),
   ("case_id", caseId), ("case_revision_id", caseRevisionId), ("workflow_id", workflowId),
   ("checkpoint_id", checkpointId), ("workflow_version", workflowVersion), ("candidate_hash", candidateHash),
   ("evidence_hashes", evidenceHashes), ("action", action), ("policy_decision_id", policyDecisionId),
   ("policy_version", policyVersion), ("policy_decision_sha256", policyDecisionSha256), ("grant_id", grantId),
   ("grant_version", grantVersion), ("grant_sha256", grantSha256), ("subject_id", subjectId), ("role", role),
   ("delivery_resource_id", .str api503DeliveryResourceId), ("delivery_resource_scope", .str api503DeliveryResourceId),
   ("data_classification", .str "synthetic"), ("remaining_budget", .int remainingBudget),
   ("expires_at", .str (runtime.timestamp expiresAt)), ("created_at", .str (runtime.timestamp createdAt))]

/-- **`bind_fixture_authorization`**. -/
def bindFixtureAuthorization (decision grant : JsonFields) (remainingBudget : Int) (expiresAt createdAt : Instant) :
    Except PolicyError JsonFields := do
  let policyDecisionSha256 ← item decision "policy_decision_sha256"
  let grantSha256 ← item grant "grant_sha256"
  let candidateHash ← item decision "candidate_hash"
  let evidence ← item decision "evidence_hashes"
  let evidenceHashes ← listOf evidence
  let tenantId ← item decision "tenant_id"
  let caseId ← item decision "case_id"
  let caseRevisionId ← item decision "case_revision_id"
  let workflowId ← item decision "workflow_id"
  let checkpointId ← item decision "checkpoint_id"
  let workflowVersion ← item decision "workflow_version"
  let action ← item decision "action"
  let policyDecisionId ← item decision "policy_decision_id"
  let policyVersion ← item decision "policy_version"
  let grantId ← item grant "grant_id"
  let grantVersion ← item grant "grant_version"
  let subjectId ← item grant "subject_id"
  let role ← item grant "role"
  let fields := bindingFields runtime tenantId caseId caseRevisionId workflowId checkpointId workflowVersion
    candidateHash evidenceHashes action policyDecisionId policyVersion policyDecisionSha256 grantId grantVersion
    grantSha256 subjectId role remainingBudget expiresAt createdAt
  let binding := withHash runtime fields "authorization_binding_sha256"
  contractChecked (validateAuthorizationBinding runtime.toContractRuntime binding)
  return binding

end Python

/-! ## The default-deny conjunction -/

/-- The grant is active, about the question, and expires later. -/
structure GrantPermits (runtime : PolicyRuntime) (p : PolicyArguments) (grant : JsonFields) (now : Instant) : Prop where
  tenant : grant.get? "tenant_id" = some (.str p.tenantId)
  subject : grant.get? "subject_id" = some (.str p.subjectId)
  role : grant.get? "role" = some (.str p.role)
  active : grant.get? "status" = some (.str "active")
  action : Python.isIn p.action (grant.get? "scopes") = .ok true
  resource : grant.get? "resource_scope" = some (.str p.resourceId)
  classification : Python.isIn p.dataClassification (grant.get? "data_classifications") = .ok true
  unexpired : Outlives runtime.toContractRuntime grant now

/-- **Every clause of the evaluation.** -/
structure PolicyPermits (runtime : PolicyRuntime) (p : PolicyArguments) (now : Instant) : Prop where
  tenant : p.tenantId = fixtureTenantId
  action : p.action ∈ change4Actions
  identities : p.caseId ≠ "" ∧ p.caseRevisionId ≠ "" ∧ p.workflowId ≠ "" ∧ p.checkpointId ≠ ""
  version : 0 ≤ p.workflowVersion
  evidence : p.evidenceHashes ≠ []
  resource : p.resourceId = api503DeliveryResourceId
  classification : p.dataClassification = "synthetic"
  budget : 1 ≤ p.remainingBudget
  grant : ∃ grant, p.grant = some grant ∧ GrantPermits runtime p grant now
  role : p.role = Python.expectedRole p.action

/-- What the schema of a decision requires of the values that the evaluation does not look at. -/
structure Recordable (runtime : PolicyRuntime) (p : PolicyArguments) : Prop where
  subject : p.subjectId ≠ ""
  candidate : isSha256Text p.candidateHash
  evidence : ∀ h ∈ p.evidenceHashes, (FieldRule.hash true).accepts (.str h) = true
  grantId : Python.grantId runtime p ≠ ""
  grantSha256 : isSha256Text (Python.grantSha256 runtime p)

variable {runtime : PolicyRuntime} {p : PolicyArguments} {grant : JsonFields} {now : Instant}

namespace Python

theorem grantMatches_iff : grantMatches p grant = .ok true ↔
    grant.get? "tenant_id" = some (.str p.tenantId) ∧ grant.get? "subject_id" = some (.str p.subjectId) ∧
      grant.get? "role" = some (.str p.role) ∧ grant.get? "status" = some (.str "active") ∧
      isIn p.action (grant.get? "scopes") = .ok true ∧
      grant.get? "resource_scope" = some (.str p.resourceId) ∧
      isIn p.dataClassification (grant.get? "data_classifications") = .ok true := by
  unfold grantMatches
  split
  · rename_i hidentity
    simp only [Bool.and_eq_true, eq_text] at hidentity
    obtain ⟨⟨⟨htenant, hsubject⟩, hrole⟩, hactive⟩ := hidentity
    rw [bind_eq_ok]
    constructor
    · rintro ⟨inScope, hscopes, h⟩
      split at h
      · rename_i hscope
        rw [Bool.and_eq_true, eq_text] at hscope
        rw [hscope.1] at hscopes
        exact ⟨htenant, hsubject, hrole, hactive, hscopes, hscope.2, h⟩
      · cases h
    · rintro ⟨-, -, -, -, hscopes, hresource, hclass⟩
      refine ⟨true, hscopes, ?_⟩
      rw [if_pos (by rw [Bool.true_and, eq_text]; exact hresource)]
      exact hclass
  · rename_i hidentity
    constructor
    · intro h
      cases h
    · rintro ⟨htenant, hsubject, hrole, hactive, -⟩
      refine absurd ?_ hidentity
      simp only [Bool.and_eq_true, eq_text]
      exact ⟨⟨⟨htenant, hsubject⟩, hrole⟩, hactive⟩

/-- **Only the conjunction allows.** -/
theorem policyReason_allows : policyReason runtime p now = .ok "fixture_policy_allowed" ↔
    PolicyPermits runtime p now := by
  unfold policyReason
  by_cases hidentity : p.tenantId ≠ fixtureTenantId ∨ p.action ∉ change4Actions ∨ p.caseId = "" ∨
      p.caseRevisionId = "" ∨ p.workflowId = "" ∨ p.checkpointId = "" ∨ p.workflowVersion < 0 ∨
      p.evidenceHashes = []
  · rw [if_pos hidentity]
    refine iff_of_false (by decide) fun h => ?_
    obtain ⟨hcase, hrevision, hworkflow, hcheckpoint⟩ := h.identities
    have hversion := h.version
    rcases hidentity with hne | hne | hne | hne | hne | hne | hne | hne
    · exact hne h.tenant
    · exact hne h.action
    · exact hcase hne
    · exact hrevision hne
    · exact hworkflow hne
    · exact hcheckpoint hne
    · omega
    · exact h.evidence hne
  · rw [if_neg hidentity]
    simp only [not_or, not_not, Int.not_lt] at hidentity
    obtain ⟨htenant, haction, hcase, hrevision, hworkflow, hcheckpoint, hversion, hevidence⟩ := hidentity
    by_cases hresource : p.resourceId ≠ api503DeliveryResourceId
    · rw [if_pos hresource]
      exact iff_of_false (by decide) fun h => hresource h.resource
    rw [if_neg hresource]
    by_cases hclass : p.dataClassification ≠ "synthetic"
    · rw [if_pos hclass]
      exact iff_of_false (by decide) fun h => hclass h.classification
    rw [if_neg hclass]
    by_cases hbudget : p.remainingBudget < 1
    · rw [if_pos hbudget]
      refine iff_of_false (by decide) fun h => ?_
      have hpositive := h.budget
      omega
    rw [if_neg hbudget]
    cases hgrant : p.grant with
    | none =>
        refine iff_of_false (fun h => absurd (Except.ok.inj h) (by decide)) fun h => ?_
        obtain ⟨grant, hsome, -⟩ := h.grant
        rw [hgrant] at hsome
        cases hsome
    | some grant =>
        dsimp only
        rw [bind_eq_ok]
        constructor
        · rintro ⟨found, hfound, h⟩
          cases found with
          | false =>
              rw [if_pos (by decide)] at h
              exact absurd (Except.ok.inj h) (by decide)
          | true =>
              obtain ⟨h₁, h₂, h₃, h₄, h₅, h₆, h₇⟩ := grantMatches_iff.mp hfound
              rw [if_neg (by decide)] at h
              cases hexpiry : expiry? runtime.toContractRuntime grant with
              | none =>
                  rw [hexpiry] at h
                  exact absurd (Except.ok.inj h) (by decide)
              | some expiry =>
                  rw [hexpiry] at h
                  dsimp only at h
                  by_cases hpast : expiry ≤ now
                  · rw [if_pos hpast] at h
                    exact absurd (Except.ok.inj h) (by decide)
                  · rw [if_neg hpast] at h
                    by_cases hrole : p.role ≠ expectedRole p.action
                    · rw [if_pos hrole] at h
                      exact absurd (Except.ok.inj h) (by decide)
                    · exact ⟨htenant, haction, ⟨hcase, hrevision, hworkflow, hcheckpoint⟩, hversion, hevidence,
                        not_not.mp hresource, not_not.mp hclass, Int.not_lt.mp hbudget, ⟨grant, hgrant,
                          ⟨h₁, h₂, h₃, h₄, h₅, h₆, h₇, expiry, hexpiry, Nat.lt_of_not_le hpast⟩⟩,
                        not_not.mp hrole⟩
        · intro h
          obtain ⟨grant', hsome, hpermits⟩ := h.grant
          rw [hgrant, Option.some.injEq] at hsome
          subst hsome
          obtain ⟨expiry, hexpiry, hlater⟩ := hpermits.unexpired
          refine ⟨true, grantMatches_iff.mpr ⟨hpermits.tenant, hpermits.subject, hpermits.role, hpermits.active,
            hpermits.action, hpermits.resource, hpermits.classification⟩, ?_⟩
          rw [if_neg (by decide), hexpiry]
          dsimp only
          rw [if_neg (Nat.not_le_of_lt hlater), if_neg (not_not.mpr h.role)]

end Python

/-! ## Records that a schema accepts -/

theorem JsonFields.toList_ofList (entries : List (String × Json)) : (JsonFields.ofList entries).toList = entries := by
  induction entries with
  | nil => rfl
  | cons entry entries ih =>
      obtain ⟨key, value⟩ := entry
      rw [JsonFields.ofList, JsonFields.toList, ih]

theorem JsonFields.get?_ofList (entries : List (String × Json)) (key : String) :
    (JsonFields.ofList entries).get? key = entries.lookup key := by
  induction entries with
  | nil => rfl
  | cons entry entries ih =>
      obtain ⟨k, value⟩ := entry
      rw [JsonFields.ofList, JsonFields.get?, List.lookup_cons, ih]
      by_cases hkey : k = key
      · rw [if_pos hkey, hkey, beq_self_eq_true]
      · rw [if_neg hkey, beq_false_of_ne (Ne.symm hkey)]

/-- A record is accepted field by field. -/
theorem ContractSchema.accepts_ofList {schema : ContractSchema} {entries : List (String × Json)}
    (hrequired : (schema.required.all fun rule => (entries.map (·.1)).contains rule.1) = true) :
    schema.accepts (.ofList entries) = true ↔
      ∀ entry ∈ entries, (schema.rule? entry.1).any (·.accepts entry.2) = true := by
  unfold ContractSchema.accepts
  rw [Bool.and_eq_true, JsonFields.toList_ofList, List.all_eq_true, List.all_eq_true]
  refine and_iff_right fun rule hrule => ?_
  have hthere := List.all_eq_true.mp hrequired rule hrule
  rw [List.contains_iff_mem, List.mem_map] at hthere
  obtain ⟨entry, hentry, hkey⟩ := hthere
  rw [JsonFields.get?_ofList, ← hkey, Option.isSome_iff_ne_none]
  intro hnone
  rw [List.lookup_eq_none_iff] at hnone
  exact absurd (hnone entry hentry) (by simp)

namespace Python

theorem text_accepts {s : String} : (FieldRule.text 1).accepts (.str s) = true ↔ s ≠ "" := by
  show decide (1 ≤ s.toList.length) = true ↔ _
  rw [decide_eq_true_eq, Nat.succ_le_iff, List.length_pos_iff, ne_eq, String.toList_eq_nil_iff]

theorem enum_accepts {values : List String} {s : String} :
    (FieldRule.enum values).accepts (.str s) = true ↔ s ∈ values :=
  decide_eq_true_iff

theorem integer_accepts {minimum n : Int} : (FieldRule.integer minimum).accepts (.int n) = true ↔ minimum ≤ n :=
  decide_eq_true_iff

theorem strings_accept {capitals : Bool} {texts : List String} :
    (FieldRule.list 1 (.hash capitals)).accepts (.arr (.strings texts)) = true ↔
      texts ≠ [] ∧ ∀ h ∈ texts, (FieldRule.hash capitals).accepts (.str h) = true := by
  rw [FieldRule.accepts, JsonItems.strings, JsonItems.toList_ofList, Bool.and_eq_true, decide_eq_true_eq,
    List.length_map, Nat.succ_le_iff, List.length_pos_iff, List.all_map, List.all_eq_true]
  rfl

theorem stableIdentifier_ne (runtime : PolicyRuntime) {stem : String} (material : Json) (h : stem ≠ "") :
    stableIdentifier runtime stem material ≠ "" := by
  intro hempty
  have hchars := congrArg String.toList hempty
  unfold stableIdentifier at hchars
  rw [String.toList_append, String.toList_append] at hchars
  exact h (String.toList_eq_nil_iff.mp (List.append_eq_nil_iff.mp (List.append_eq_nil_iff.mp hchars).1).1)

/-- **A decision that allows is recorded** exactly if the values that the evaluation does not look at obey the
    schema. -/
theorem allowed_accepted (h : PolicyPermits runtime p now) :
    policyDecisionSchema.accepts (withHash runtime (decisionFields runtime p now "fixture_policy_allowed")
      "policy_decision_sha256") = true ↔ Recordable runtime p := by
  unfold withHash
  rw [ContractSchema.accepts_ofList rfl]
  unfold decisionFields
  simp only [List.cons_append, List.nil_append, List.forall_mem_cons, List.not_mem_nil, false_imp_iff, implies_true,
    and_true, ContractSchema.rule?, policyDecisionSchema, List.lookup_cons, String.reduceBEq, Option.any_some]
  constructor
  · rintro ⟨-, -, -, -, -, -, -, -, hevidence, -, -, -, -, hcandidate, -, -, -, hid, hsha, hsubject, -⟩
    exact ⟨text_accepts.mp hsubject, hcandidate, (strings_accept.mp hevidence).2, text_accepts.mp hid, hsha⟩
  · intro hrecordable
    obtain ⟨hcase, hrevision, hworkflow, hcheckpoint⟩ := h.identities
    have hrole : p.role ≠ "" := by
      rw [h.role]
      unfold expectedRole
      split <;> decide
    exact ⟨rfl, rfl, text_accepts.mpr (h.tenant ▸ by decide), text_accepts.mpr (stableIdentifier_ne _ _ (by decide)),
      text_accepts.mpr hcase, text_accepts.mpr hrevision, rfl, rfl,
      strings_accept.mpr ⟨h.evidence, hrecordable.evidence⟩, text_accepts.mpr (runtime.rendered now).1,
      text_accepts.mpr hcheckpoint, text_accepts.mpr hworkflow, integer_accepts.mpr h.version, hrecordable.candidate,
      enum_accepts.mpr h.action, rfl, runtime.hexdigest _, text_accepts.mpr hrecordable.grantId,
      hrecordable.grantSha256, text_accepts.mpr hrecordable.subject, text_accepts.mpr hrole,
      text_accepts.mpr (h.resource ▸ by decide), enum_accepts.mpr (h.classification ▸ by decide),
      runtime.recordHash_eq _ _ ▸ runtime.hexdigest _⟩

/-- The decision that allows. -/
def allowedDecision (runtime : PolicyRuntime) (p : PolicyArguments) (now : Instant) : JsonFields :=
  withHash runtime (decisionFields runtime p now "fixture_policy_allowed") "policy_decision_sha256"

theorem contractChecked_eq_ok {x : Except ContractValidationError Unit} {u : Unit} :
    contractChecked x = .ok u ↔ x = .ok () := by
  cases x with
  | ok _ => exact iff_of_true rfl rfl
  | error e => exact iff_of_false (fun h => by cases h) fun h => by cases h

/-- The schemas' own validator. -/
theorem requireSchema_accepts {payload : JsonFields} {schema : ContractSchema} (hmem : schema ∈ change4Schemas)
    (hid : payload.get? "schema_id" = some (.str schema.id)) :
    requireSchema runtime.toContractRuntime payload schema = .ok () ↔ schema.accepts payload = true := by
  rw [requireSchema_iff]
  constructor
  · rintro ⟨hvalid, -⟩
    exact runtime.shaped payload hvalid schema hmem hid
  · intro haccepts
    exact ⟨runtime.complete payload schema hmem hid haccepts, hid⟩

/-- **`evaluate_fixture_policy` allows** exactly what the conjunction permits and the schema can record. -/
theorem evaluate_allows_iff {d : JsonFields} :
    evaluateFixturePolicy runtime p now = .ok d ∧ d.get? "decision" = some (.str "allow") ↔
      PolicyPermits runtime p now ∧ Recordable runtime p ∧ d = allowedDecision runtime p now := by
  have hschema : requireSchema runtime.toContractRuntime (allowedDecision runtime p now) policyDecisionSchema = .ok () ↔
      policyDecisionSchema.accepts (allowedDecision runtime p now) = true :=
    requireSchema_accepts (by simp [change4Schemas]) rfl
  unfold evaluateFixturePolicy
  simp only [bind_eq_ok]
  constructor
  · rintro ⟨⟨reason, hreason, u, hchecked, hd⟩, hallow⟩
    obtain rfl := Except.ok.inj hd
    -- only one reason is that of an allowed decision
    have hallowed : reason = "fixture_policy_allowed" := by
      by_contra hother
      have hdeny : (withHash runtime (decisionFields runtime p now reason) "policy_decision_sha256").get? "decision" =
          some (.str (if decide (reason = "fixture_policy_allowed") then "allow" else "deny")) := rfl
      rw [hdeny, decide_eq_false hother] at hallow
      exact absurd (Json.str.inj (Option.some.inj hallow)) (by decide)
    subst hallowed
    have hpermits : PolicyPermits runtime p now := policyReason_allows.mp hreason
    have haccepts := hschema.mp (contractChecked_eq_ok.mp hchecked)
    exact ⟨hpermits, (allowed_accepted hpermits).mp haccepts, rfl⟩
  · rintro ⟨hpermits, hrecordable, rfl⟩
    have hchecked := hschema.mpr ((allowed_accepted hpermits).mpr hrecordable)
    exact ⟨⟨_, policyReason_allows.mpr hpermits, (), contractChecked_eq_ok.mpr hchecked, rfl⟩, rfl⟩

/-! ## The binding of an allow decision -/

theorem withoutField_withHash (fields : List (String × Json)) (hashField : String) (value : Json) :
    (JsonFields.ofList (fields ++ [(hashField, value)])).withoutField hashField =
      (JsonFields.ofList fields).withoutField hashField := by
  induction fields with
  | nil => exact if_pos rfl
  | cons entry fields ih =>
      obtain ⟨key, v⟩ := entry
      rw [List.cons_append, JsonFields.ofList, JsonFields.ofList, JsonFields.withoutField, JsonFields.withoutField, ih]

/-- A record that was built with its hash claims its hash. -/
theorem withHash_hash {fields : List (String × Json)} {hashField schemaName : String}
    (hnew : fields.lookup hashField = none) :
    requireHash runtime.toContractRuntime (withHash runtime fields hashField) hashField schemaName = .ok () := by
  unfold requireHash
  rw [require_eq_ok, decide_eq_true_eq]
  have hclaimed : (withHash runtime fields hashField).get? hashField =
      some (.str (runtime.recordHash (.ofList fields) hashField)) := by
    unfold withHash
    rw [JsonFields.get?_ofList, List.lookup_append, hnew, Option.none_or, List.lookup_cons, beq_self_eq_true]
  have hsame : runtime.recordHash (withHash runtime fields hashField) hashField =
      runtime.recordHash (.ofList fields) hashField := by
    rw [runtime.recordHash_eq, runtime.recordHash_eq]
    unfold withHash
    rw [withoutField_withHash]
  rw [hclaimed, hsame]

/-- The binding of an allow decision, with what the grant says of itself. -/
def allowedBinding (runtime : PolicyRuntime) (p : PolicyArguments) (now : Instant)
    (grantId grantVersion grantSha256 subjectId role : Json) (remainingBudget : Int) (expiresAt createdAt : Instant) :
    JsonFields :=
  withHash runtime (bindingFields runtime (.str p.tenantId) (.str p.caseId) (.str p.caseRevisionId) (.str p.workflowId)
    (.str p.checkpointId) (.int p.workflowVersion) (.str p.candidateHash) (.arr (.strings p.evidenceHashes))
    (.str p.action) (.str (stableIdentifier runtime "policy_decision" (.obj (.ofList
      [("policy_input_sha256", .str (runtime.canonicalSha256 (policyInput runtime p))), ("decision", .bool true)]))))
    (.str api503PolicyVersion)
    (.str (runtime.recordHash (.ofList (decisionFields runtime p now "fixture_policy_allowed"))
      "policy_decision_sha256"))
    grantId grantVersion grantSha256 subjectId role remainingBudget expiresAt createdAt) "authorization_binding_sha256"

/-- **`bind_fixture_authorization`** of an allow decision. -/
theorem bind_eq_ok_iff {b : JsonFields} {remainingBudget : Int} {expiresAt createdAt : Instant} :
    bindFixtureAuthorization runtime (allowedDecision runtime p now) grant remainingBudget expiresAt createdAt = .ok b ↔
      ∃ grantSha256 grantId grantVersion subjectId role, grant.get? "grant_sha256" = some grantSha256 ∧
        grant.get? "grant_id" = some grantId ∧ grant.get? "grant_version" = some grantVersion ∧
        grant.get? "subject_id" = some subjectId ∧ grant.get? "role" = some role ∧
        b = allowedBinding runtime p now grantId grantVersion grantSha256 subjectId role remainingBudget expiresAt
          createdAt ∧
        validateAuthorizationBinding runtime.toContractRuntime b = .ok () := by
  -- the decision has every field that is read of it
  have hreads : bindFixtureAuthorization runtime (allowedDecision runtime p now) grant remainingBudget expiresAt
      createdAt = (do
        let grantSha256 ← item grant "grant_sha256"
        let grantId ← item grant "grant_id"
        let grantVersion ← item grant "grant_version"
        let subjectId ← item grant "subject_id"
        let role ← item grant "role"
        contractChecked (validateAuthorizationBinding runtime.toContractRuntime (allowedBinding runtime p now grantId
          grantVersion grantSha256 subjectId role remainingBudget expiresAt createdAt))
        return allowedBinding runtime p now grantId grantVersion grantSha256 subjectId role remainingBudget expiresAt
          createdAt) := rfl
  rw [hreads]
  simp only [item, bind_eq_ok, fetch_eq_ok, contractChecked_eq_ok]
  constructor
  · rintro ⟨sha, hsha, id, hid, version, hversion, subject, hsubject, role, hrole, u, hvalid, hb⟩
    obtain rfl := Except.ok.inj hb
    exact ⟨sha, id, version, subject, role, hsha, hid, hversion, hsubject, hrole, rfl, hvalid⟩
  · rintro ⟨sha, id, version, subject, role, hsha, hid, hversion, hsubject, hrole, rfl, hvalid⟩
    exact ⟨sha, hsha, id, hid, version, hversion, subject, hsubject, role, hrole, (), hvalid, rfl⟩

end Python

/-! ## The profile of an allow decision -/

/-- A grant that passes every check of the profile but those that compare it. -/
structure IntactGrant (runtime : PolicyRuntime) (grant : JsonFields) : Prop where
  valid : Python.requireSchema runtime.toContractRuntime grant capabilityGrantSchema = .ok ()
  fields : Python.requireFields grant grantFields "capability-grant" = .ok ()
  hash : Python.requireHash runtime.toContractRuntime grant "grant_sha256" "capability-grant" = .ok ()

/-- The caller sees what the decision was made about; an identity that it leaves out is not compared. -/
structure PolicyArguments.Sees (p : PolicyArguments) (context : Change4AuthorizationContext) : Prop where
  action : context.action = p.action
  revision : context.caseRevisionId = p.caseRevisionId
  checkpoint : context.checkpointId = p.checkpointId
  version : context.workflowVersion = p.workflowVersion
  candidate : context.candidateHash = p.candidateHash
  evidence : context.evidenceHashes = p.evidenceHashes
  resource : context.resourceId = p.resourceId
  classification : context.dataClassification = p.dataClassification
  tenant : ∀ tenantId ∈ context.effectiveTenantId, tenantId = p.tenantId
  subject : ∀ subjectId ∈ context.effectiveSubjectId, subjectId = p.subjectId
  role : ∀ role ∈ context.effectiveRole, role = p.role

namespace Python

variable {b : JsonFields} {remainingBudget : Int} {expiresAt createdAt : Instant}
  {context : Change4AuthorizationContext}

theorem eq_int {m n : Int} : eq (some (.int m)) (some (.int n)) = true ↔ m = n := by
  show decide ((m : Rat) = n) = true ↔ m = n
  rw [decide_eq_true_eq, Rat.intCast_inj]

theorem isEffective_text {s : String} {effective : Option String} :
    isEffective (some (.str s)) effective = true ↔ ∀ expected ∈ effective, expected = s := by
  cases effective with
  | none => exact iff_of_true rfl fun _ h => by cases h
  | some expected =>
      show eq (some (.str s)) (some (.str expected)) = true ↔ _
      rw [eq_text, Option.some.injEq, Json.str.injEq]
      constructor
      · rintro rfl e he
        exact (Option.mem_some.mp he).symm
      · exact fun h => (h expected rfl).symm

theorem strings_pyEq {l r : List String} : (JsonItems.strings l).pyEq (.strings r) = true ↔ l = r := by
  rw [JsonItems.pyEq_strings]
  constructor
  · intro h
    have hlist := congrArg JsonItems.toList h
    rw [JsonItems.strings, JsonItems.strings, JsonItems.toList_ofList, JsonItems.toList_ofList] at hlist
    exact List.map_injective_iff.mpr (fun _ _ => Json.str.inj) hlist
  · rintro rfl
    rfl

/-- A list of strings in a grant's field. -/
theorem contains_iff_isIn {list : Option Json} {value : String} {items : JsonItems} (h : list = some (.arr items)) :
    contains list value = true ↔ isIn value list = .ok true := by
  rw [h]
  show items.toList.any _ = true ↔ Except.ok (items.toList.any _) = .ok true
  rw [Except.ok.injEq]

theorem evidence_of_binding (texts : List String) (current : List String) :
    (items (some (.arr (.strings texts)))).pyEq (.strings current) = true ↔ current = texts := by
  show (JsonItems.strings texts).pyEq (.strings current) = true ↔ _
  rw [strings_pyEq, eq_comm]

theorem eq_str_self (s : String) : eq (some (.str s)) (some (.str s)) = true := eq_text.mpr rfl

theorem present {s : String} (h : s ≠ "") : (!isBlank (some (.str s))) = true := by
  show (!decide (s = "")) = true
  rw [decide_eq_false h]
  rfl

theorem ne_of_isSha256Text {s : String} (h : isSha256Text s) : s ≠ "" := by
  rintro rfl
  have hlength : (FieldRule.hash false).accepts (.str "") = false := by decide
  exact absurd (hlength.symm.trans h) Bool.false_ne_true

/-- A text field of a grant that its schema accepts. -/
theorem grant_text {field : String} {rule : FieldRule} {value : Json} (h : capabilityGrantSchema.accepts grant = true)
    (hrule : capabilityGrantSchema.rule? field = some rule) (htextual : rule.textual = true)
    (hvalue : grant.get? field = some value) : ∃ s, value = .str s :=
  FieldRule.text_of_accepts htextual (ContractSchema.rule_accepts h hrule hvalue)

/-- A list field of a grant that its schema accepts. -/
theorem grant_contains {field value : String} {minItems : Nat} {item : FieldRule}
    (h : capabilityGrantSchema.accepts grant = true)
    (hrule : capabilityGrantSchema.rule? field = some (.list minItems item))
    (hin : isIn value (grant.get? field) = .ok true) : contains (grant.get? field) value = true := by
  cases hfield : grant.get? field with
  | none =>
      rw [hfield] at hin
      exact absurd (Except.ok.inj hin) Bool.false_ne_true
  | some v =>
      obtain ⟨items, rfl, -⟩ := FieldRule.items_of_accepts (ContractSchema.rule_accepts h hrule hfield)
      exact (contains_iff_isIn rfl).mpr (hfield ▸ hin)

/-- The fields of an allow decision are there. -/
theorem allowed_fields (hpermits : PolicyPermits runtime p now) (hrecordable : Recordable runtime p) :
    requireFields (allowedDecision runtime p now) policyFields "policy-decision" = .ok () := by
  obtain ⟨-, -, hworkflow, hcheckpoint⟩ := hpermits.identities
  have haction : p.action ≠ "" := by
    intro hempty
    have hmem := hpermits.action
    rw [hempty] at hmem
    exact absurd hmem (by decide)
  have hrole : p.role ≠ "" := by
    rw [hpermits.role]
    unfold expectedRole
    split <;> decide
  unfold requireFields
  rw [forM_require_eq_ok]
  simp only [policyFields, List.forall_mem_cons, List.not_mem_nil, false_imp_iff, implies_true, and_true]
  exact ⟨present hcheckpoint, present hworkflow, rfl, present (ne_of_isSha256Text hrecordable.candidate),
    present haction, present (by decide), present (ne_of_isSha256Text (runtime.hexdigest _)),
    present (ne_of_isSha256Text (runtime.recordHash_eq _ _ ▸ runtime.hexdigest _)), present hrecordable.grantId,
    present (ne_of_isSha256Text hrecordable.grantSha256), present hrecordable.subject, present hrole,
    present (hpermits.resource ▸ by decide), present (hpermits.classification ▸ by decide)⟩

/-- **The profile of an allow decision** passes for the caller who sees what the decision was made about, with an
    intact grant, before both expiries. -/
theorem profile_of_allowed (hpermits : PolicyPermits runtime p now) (hrecordable : Recordable runtime p)
    (hgrant : p.grant = some grant)
    (hb : bindFixtureAuthorization runtime (allowedDecision runtime p now) grant remainingBudget expiresAt createdAt =
      .ok b) :
    validateChange4AuthorizationProfile runtime.toContractRuntime b grant (allowedDecision runtime p now) context true =
        .ok () ↔
      p.Sees context ∧ IntactGrant runtime grant ∧ Outlives runtime.toContractRuntime grant context.now ∧
        context.now < expiresAt := by
  obtain ⟨sha, id, version, subject, role, hsha, hid, hversion, hsubject, hrole, rfl, hvalid⟩ := bind_eq_ok_iff.mp hb
  obtain ⟨grant', hsome, hpermitted⟩ := hpermits.grant
  obtain rfl : grant = grant' := Option.some.inj (hgrant.symm.trans hsome)
  obtain rfl : subject = .str p.subjectId := Option.some.inj (hsubject.symm.trans hpermitted.subject)
  obtain rfl : role = .str p.role := Option.some.inj (hrole.symm.trans hpermitted.role)
  have houtlives : Outlives runtime.toContractRuntime (allowedBinding runtime p now id version sha (.str p.subjectId)
      (.str p.role) remainingBudget expiresAt createdAt) context.now ↔ context.now < expiresAt := by
    have hexpiry : expiry? runtime.toContractRuntime (allowedBinding runtime p now id version sha (.str p.subjectId)
        (.str p.role) remainingBudget expiresAt createdAt) = some expiresAt := (runtime.rendered expiresAt).2
    unfold Outlives
    rw [hexpiry]
    constructor
    · rintro ⟨expiry, he, hlt⟩
      exact Option.some.inj he ▸ hlt
    · intro hlt
      exact ⟨expiresAt, rfl, hlt⟩
  rw [profile_iff, houtlives]
  constructor
  · rintro ⟨hfacts, hlater, hlt⟩
    have hpurpose := hfacts.purpose
    have hcurrent := hfacts.current
    simp only [purpose, current, Bool.and_eq_true, eq_text] at hpurpose hcurrent
    obtain ⟨⟨⟨⟨⟨haction, -⟩, hresource⟩, hclass⟩, -⟩, -⟩ := hpurpose
    obtain ⟨⟨⟨⟨hrevision, hcheckpoint⟩, hworkflow⟩, hcandidate⟩, hevidence⟩ := hcurrent
    have htext : ∀ {s s' : String}, some (Json.str s) = some (.str s') → s' = s := fun h =>
      (Json.str.inj (Option.some.inj h)).symm
    refine ⟨⟨htext haction, htext hrevision, htext hcheckpoint, (eq_int.mp hworkflow).symm, htext hcandidate,
      (evidence_of_binding _ _).mp hevidence, ?_, ?_, isEffective_text.mp hfacts.tenant,
      isEffective_text.mp hfacts.subject, isEffective_text.mp hfacts.role⟩,
      ⟨hfacts.grantValid, hfacts.grantFields, hfacts.grantHash⟩, hlater, hlt⟩
    · rw [hpermits.resource]
      exact htext hresource
    · rw [hpermits.classification]
      exact htext hclass
  · rintro ⟨hsees, hintact, hlater, hlt⟩
    have haccepted : capabilityGrantSchema.accepts grant = true := accepted hintact.valid (by simp [change4Schemas])
    obtain ⟨id, rfl⟩ := grant_text haccepted rfl rfl hid
    obtain ⟨version, rfl⟩ := grant_text haccepted rfl rfl hversion
    obtain ⟨sha, rfl⟩ := grant_text haccepted rfl rfl hsha
    have hdecision : policyDecisionSchema.accepts (allowedDecision runtime p now) = true :=
      (allowed_accepted hpermits).mpr hrecordable
    refine ⟨?_, hlater, hlt⟩
    exact {
      action := hsees.action ▸ hpermits.action
      bindingValid := hvalid
      grantValid := hintact.valid
      decisionValid := (requireSchema_accepts (by simp [change4Schemas]) rfl).mpr hdecision
      grantFields := hintact.fields
      grantHash := hintact.hash
      policyFields := allowed_fields hpermits hrecordable
      decisionHash := withHash_hash rfl
      allowed := rfl
      active := hpermitted.active
      covers := by
        unfold covers
        simp only [Bool.and_eq_true, decide_eq_true_eq, text_eq]
        rw [hsees.action, hsees.resource, hsees.classification]
        refine ⟨⟨⟨grant_contains haccepted rfl hpermitted.action, hpermitted.resource⟩,
          grant_contains haccepted rfl hpermitted.classification⟩, ?_⟩
        rw [hpermits.classification]
        exact List.mem_singleton_self _
      sameGrant := by
        rw [same_iff]
        simp only [bindingGrantFields, List.forall_mem_cons, List.not_mem_nil, false_imp_iff, implies_true, and_true]
        rw [hpermitted.tenant, hid, hversion, hsha, hsubject, hrole]
        exact ⟨eq_str_self _, eq_str_self _, eq_str_self _, eq_str_self _, eq_str_self _, eq_str_self _⟩
      sameDecision := by
        have hsameId : grantId runtime p = id := by
          unfold grantId grantText
          rw [hgrant, Option.bind_some, hid]
          exact runtime.str_text id
        have hsameSha : grantSha256 runtime p = sha := by
          unfold grantSha256 grantText
          rw [hgrant, Option.bind_some, hsha]
          exact runtime.str_text sha
        rw [same_iff]
        simp only [List.forall_mem_cons, List.not_mem_nil, false_imp_iff, implies_true, and_true]
        refine ⟨eq_str_self _, eq_str_self _, eq_str_self _, eq_str_self _, eq_str_self _, eq_int.mpr rfl,
          eq_str_self _, strings_pyEq.mpr rfl, eq_str_self _, eq_str_self _, eq_str_self _, ?_, ?_, eq_str_self _,
          eq_str_self _⟩
        · show eq (some (.str id)) (some (.str (grantId runtime p))) = true
          rw [hsameId]
          exact eq_str_self _
        · show eq (some (.str sha)) (some (.str (grantSha256 runtime p))) = true
          rw [hsameSha]
          exact eq_str_self _
      purpose := by
        unfold purpose
        simp only [Bool.and_eq_true, eq_text]
        rw [hsees.action, hsees.resource, hsees.classification, hpermits.resource, hpermits.classification]
        refine ⟨⟨⟨⟨⟨rfl, rfl⟩, rfl⟩, rfl⟩, ?_⟩, ?_⟩
        · show some (Json.str p.resourceId) = _
          rw [hpermits.resource]
        · show some (Json.str p.dataClassification) = _
          rw [hpermits.classification]
      current := by
        unfold current
        simp only [Bool.and_eq_true, eq_text]
        rw [hsees.revision, hsees.checkpoint, hsees.version, hsees.candidate, hsees.evidence]
        exact ⟨⟨⟨⟨rfl, rfl⟩, eq_int.mpr rfl⟩, rfl⟩, strings_pyEq.mpr rfl⟩
      tenant := isEffective_text.mpr hsees.tenant
      subject := isEffective_text.mpr hsees.subject
      role := isEffective_text.mpr hsees.role }

theorem distinct_iff {texts : List String} : distinct (.strings texts) = true ↔ texts.Nodup := by
  unfold distinct
  rw [JsonItems.strings, JsonItems.toList_ofList, decide_eq_true_eq, List.pairwise_map]
  refine List.Pairwise.iff fun a b => ?_
  rw [← Bool.not_eq_true, Json.pyEq_str, Json.str.injEq]

/-- A binding obeys its schema if its evidence and its budget do. -/
theorem allowedBinding_accepted {id : String} {version sha : Json} (hpermits : PolicyPermits runtime p now)
    (hrecordable : Recordable runtime p) (haccepted : capabilityGrantSchema.accepts grant = true)
    (hid : 1 ≤ id.toList.length) (hversion : grant.get? "grant_version" = some version)
    (hsha : grant.get? "grant_sha256" = some sha) :
    authorizationBindingSchema.accepts (allowedBinding runtime p now (.str id) version sha (.str p.subjectId)
        (.str p.role) remainingBudget expiresAt createdAt) = true ↔
      (∀ h ∈ p.evidenceHashes, isSha256Text h) ∧ 0 ≤ remainingBudget := by
  obtain ⟨hcase, hrevision, hworkflow, hcheckpoint⟩ := hpermits.identities
  have hrole : p.role ≠ "" := by
    rw [hpermits.role]
    unfold expectedRole
    split <;> decide
  unfold allowedBinding withHash
  rw [ContractSchema.accepts_ofList rfl]
  unfold bindingFields
  simp only [List.cons_append, List.nil_append, List.forall_mem_cons, List.not_mem_nil, false_imp_iff, implies_true,
    and_true, ContractSchema.rule?, authorizationBindingSchema, List.lookup_cons, String.reduceBEq, Option.any_some]
  constructor
  · rintro ⟨-, -, -, -, -, -, -, -, -, -, hevidence, -, -, -, -, -, -, -, -, -, -, -, -, hbudget, -⟩
    exact ⟨(strings_accept.mp hevidence).2, integer_accepts.mp hbudget⟩
  · rintro ⟨hevidence, hbudget⟩
    exact ⟨rfl, rfl, text_accepts.mpr (hpermits.tenant ▸ by decide),
      text_accepts.mpr (stableIdentifier_ne _ _ (by decide)), text_accepts.mpr hcase, text_accepts.mpr hrevision,
      text_accepts.mpr hworkflow, text_accepts.mpr hcheckpoint, integer_accepts.mpr hpermits.version,
      hrecordable.candidate, strings_accept.mpr ⟨hpermits.evidence, hevidence⟩, enum_accepts.mpr hpermits.action,
      text_accepts.mpr (stableIdentifier_ne _ _ (by decide)), rfl, runtime.recordHash_eq _ _ ▸ runtime.hexdigest _,
      decide_eq_true hid, ContractSchema.rule_accepts haccepted rfl hversion,
      ContractSchema.rule_accepts haccepted rfl hsha, text_accepts.mpr hrecordable.subject, text_accepts.mpr hrole,
      rfl, rfl, rfl, integer_accepts.mpr hbudget, text_accepts.mpr (runtime.rendered _).1,
      text_accepts.mpr (runtime.rendered _).1, runtime.recordHash_eq _ _ ▸ runtime.hexdigest _⟩

theorem allowedBinding_valid {id : String} {version sha : Json} (hpermits : PolicyPermits runtime p now)
    (hrecordable : Recordable runtime p) (haccepted : capabilityGrantSchema.accepts grant = true)
    (hid : 1 ≤ id.toList.length) (hversion : grant.get? "grant_version" = some version)
    (hsha : grant.get? "grant_sha256" = some sha) :
    validateAuthorizationBinding runtime.toContractRuntime (allowedBinding runtime p now (.str id) version sha
        (.str p.subjectId) (.str p.role) remainingBudget expiresAt createdAt) = .ok () ↔
      p.evidenceHashes.Nodup ∧ (∀ h ∈ p.evidenceHashes, isSha256Text h) ∧ 0 ≤ remainingBudget := by
  unfold validateAuthorizationBinding
  rw [unit_bind_eq_ok, unit_bind_eq_ok, require_eq_ok, requireSchema_accepts (by simp [change4Schemas]) rfl,
    allowedBinding_accepted hpermits hrecordable haccepted hid hversion hsha]
  constructor
  · rintro ⟨⟨hevidence, hbudget⟩, -, hdistinct⟩
    exact ⟨distinct_iff.mp hdistinct, hevidence, hbudget⟩
  · rintro ⟨hnodup, hevidence, hbudget⟩
    exact ⟨⟨hevidence, hbudget⟩, withHash_hash rfl, distinct_iff.mpr hnodup⟩

/-- **An allow decision is bound** if its evidence is a set of lower-case hashes and the budget is not negative. -/
theorem bound_iff (hpermits : PolicyPermits runtime p now) (hrecordable : Recordable runtime p)
    (hgrant : p.grant = some grant) (hintact : IntactGrant runtime grant) :
    (∃ b, bindFixtureAuthorization runtime (allowedDecision runtime p now) grant remainingBudget expiresAt createdAt =
        .ok b) ↔
      p.evidenceHashes.Nodup ∧ (∀ h ∈ p.evidenceHashes, isSha256Text h) ∧ 0 ≤ remainingBudget := by
  obtain ⟨grant', hsome, hpermitted⟩ := hpermits.grant
  obtain rfl : grant = grant' := Option.some.inj (hgrant.symm.trans hsome)
  have haccepted : capabilityGrantSchema.accepts grant = true := accepted hintact.valid (by simp [change4Schemas])
  have hfields := hintact.fields
  unfold requireFields at hfields
  rw [forM_require_eq_ok] at hfields
  simp only [grantFields, List.forall_mem_cons, List.not_mem_nil, false_imp_iff, implies_true, and_true] at hfields
  obtain ⟨hversionThere, hshaThere, -⟩ := hfields
  have hthere : ∀ {field : String}, (!isBlank (grant.get? field)) = true → ∃ v, grant.get? field = some v := by
    intro field h
    cases hfield : grant.get? field with
    | none =>
        rw [hfield] at h
        exact absurd h Bool.false_ne_true
    | some v => exact ⟨v, rfl⟩
  have hrequired : "grant_id" ∈ capabilityGrantSchema.required.map (·.1) := by decide
  obtain ⟨id, hid, hnamed⟩ := ContractSchema.text_value haccepted hrequired rfl
  obtain ⟨version, hversion⟩ := hthere hversionThere
  obtain ⟨sha, hsha⟩ := hthere hshaThere
  have hvalid : validateAuthorizationBinding runtime.toContractRuntime (allowedBinding runtime p now (.str id) version
      sha (.str p.subjectId) (.str p.role) remainingBudget expiresAt createdAt) = .ok () ↔ _ :=
    allowedBinding_valid hpermits hrecordable haccepted hnamed hversion hsha
  constructor
  · rintro ⟨b, hb⟩
    obtain ⟨sha', id', version', subject', role', hsha', hid', hversion', hsubject', hrole', rfl, hbound⟩ :=
      bind_eq_ok_iff.mp hb
    rw [hsha, Option.some.injEq] at hsha'
    rw [hid, Option.some.injEq] at hid'
    rw [hversion, Option.some.injEq] at hversion'
    rw [hpermitted.subject, Option.some.injEq] at hsubject'
    rw [hpermitted.role, Option.some.injEq] at hrole'
    subst hsha' hid' hversion' hsubject' hrole'
    exact hvalid.mp hbound
  · intro h
    exact ⟨_, bind_eq_ok_iff.mpr ⟨sha, .str id, version, _, _, hsha, hid, hversion, hpermitted.subject, hpermitted.role,
      rfl, hvalid.mpr h⟩⟩

end Python

/-! ## Records that differ in one field -/

/-- No record of other content has the hash of this one. -/
def Unforged (runtime : PolicyRuntime) (record : JsonFields) (hashField : String) : Prop :=
  ∀ other : JsonFields, runtime.recordHash other hashField = runtime.recordHash record hashField →
    ∀ key, key ≠ hashField → other.get? key = record.get? key

/-- Another value of one field, or none. -/
structure Differs (field : String) (record other : JsonFields) : Prop where
  at_field : other.get? field ≠ record.get? field
  elsewhere : ∀ key, key ≠ field → other.get? key = record.get? key

theorem JsonFields.get?_withoutField (fields : JsonFields) (field key : String) :
    (fields.withoutField field).get? key = if key = field then none else fields.get? key := by
  induction fields using JsonFields.toList.induct with
  | case1 => exact (ite_self _).symm
  | case2 k value rest ih =>
      unfold JsonFields.withoutField
      by_cases hk : k = field
      · rw [if_pos hk, ih]
        by_cases hkey : key = field
        · rw [if_pos hkey, if_pos hkey]
        · rw [if_neg hkey, if_neg hkey, JsonFields.get?, if_neg fun h => hkey (h.symm.trans hk)]
      · rw [if_neg hk, JsonFields.get?, JsonFields.get?, ih]
        by_cases hkey : k = key
        · rw [if_pos hkey, if_pos hkey, if_neg fun h => hk (hkey.trans h)]
        · rw [if_neg hkey, if_neg hkey]

/-- **A record that differs in one field does not claim its own hash.** -/
theorem Differs.not_hashed {field hashField schemaName : String} {record other : JsonFields}
    (h : Differs field record other)
    (hsealed : Python.requireHash runtime.toContractRuntime record hashField schemaName = .ok ())
    (hunforged : Unforged runtime record hashField) :
    Python.requireHash runtime.toContractRuntime other hashField schemaName ≠ .ok () := by
  intro hother
  unfold Python.requireHash at hsealed hother
  rw [require_eq_ok, decide_eq_true_eq] at hsealed hother
  by_cases hfield : field = hashField
  · -- the same content has the same hash
    have hsame : runtime.recordHash other hashField = runtime.recordHash record hashField := by
      rw [runtime.recordHash_eq, runtime.recordHash_eq]
      refine runtime.sorted _ _ fun key => ?_
      rw [JsonFields.get?_withoutField, JsonFields.get?_withoutField]
      by_cases hkey : key = hashField
      · rw [if_pos hkey, if_pos hkey]
      · rw [if_neg hkey, if_neg hkey, h.elsewhere key fun hk => hkey (hk.trans hfield)]
    apply h.at_field
    rw [hfield, hother, hsealed, hsame]
  · have hclaimed := h.elsewhere hashField (Ne.symm hfield)
    rw [hother, hsealed, Option.some.injEq, Json.str.injEq] at hclaimed
    exact h.at_field (hunforged other hclaimed field hfield)

/-! ## The agreement -/

/-- Whether two records have the same fields. -/
def JsonFields.agrees (a b : JsonFields) : Bool :=
  (a.toList ++ b.toList).all fun entry => decide (a.get? entry.1 = b.get? entry.1)

theorem JsonFields.agrees_iff {a b : JsonFields} : a.agrees b = true ↔ ∀ key, a.get? key = b.get? key := by
  unfold JsonFields.agrees
  rw [List.all_eq_true]
  constructor
  · intro h key
    cases ha : a.get? key with
    | some v =>
        have hentry := of_decide_eq_true (h _ (List.mem_append_left _ (JsonFields.mem_of_get? ha)))
        exact ha.symm.trans hentry
    | none =>
        cases hb : b.get? key with
        | none => rfl
        | some v =>
            have hentry := of_decide_eq_true (h _ (List.mem_append_right _ (JsonFields.mem_of_get? hb)))
            exact ha.symm.trans (hentry.trans hb)
  · intro h entry _
    exact decide_eq_true (h entry.1)

/-- The digest of a record among those that are known. -/
def knownDigest (known : List (JsonFields × String)) (record : JsonFields) : String :=
  ((known.find? fun entry => record.agrees entry.1 ∧ isSha256Text entry.2).map (·.2)).getD Python.zeroHash

/-- Thirty minutes after the epoch. -/
def halfPast : Instant := minutes 30

/-- The time of the epoch and of thirty minutes later as it is written; other times in unary. -/
def exampleTimestamp (t : Instant) : String :=
  if t = 0 then "1970-01-01T00:00:00Z"
  else if t = halfPast then "1970-01-01T00:30:00Z"
  else String.ofList (List.replicate t 't')

def exampleParseTime (s : String) : Option Instant :=
  if s = "1970-01-01T00:00:00Z" then some 0
  else if s = "1970-01-01T00:30:00Z" then some halfPast
  else some s.toList.length

theorem exampleTimestamp_parses (t : Instant) :
    exampleTimestamp t ≠ "" ∧ exampleParseTime (exampleTimestamp t) = some t := by
  unfold exampleTimestamp
  by_cases hzero : t = 0
  · subst hzero
    exact ⟨by decide, rfl⟩
  · rw [if_neg hzero]
    by_cases hhalf : t = halfPast
    · rw [if_pos hhalf, hhalf]
      exact ⟨by decide, rfl⟩
    · rw [if_neg hhalf]
      have hother : ∀ s : String, 't' ∉ s.toList → String.ofList (List.replicate t 't') ≠ s := by
        rintro s hs rfl
        rw [String.toList_ofList] at hs
        exact hs (List.mem_replicate.mpr ⟨hzero, rfl⟩)
      refine ⟨hother "" (by decide), ?_⟩
      unfold exampleParseTime
      rw [if_neg (hother _ (by decide)), if_neg (hother _ (by decide)), String.toList_ofList, List.length_replicate]

/-- The schemas' own validator, with the digests that are known. -/
def knownRuntime (known : List (JsonFields × String)) : PolicyRuntime :=
  let schemas := schemaRuntime [] id exampleParseTime
  { validatePayload := schemas.validatePayload
    recordHash := fun payload field => knownDigest known (payload.withoutField field)
    parseTime := exampleParseTime
    shaped := schemas.shaped
    canonicalSha256 := fun value =>
      match value with
      | .obj fields => knownDigest known fields
      | _ => Python.zeroHash
    timestamp := exampleTimestamp
    str := fun value =>
      match value with
      | .str s => s
      | _ => ""
    recordHash_eq := fun _ _ => rfl
    hexdigest := by
      have hknown : ∀ record, isSha256Text (knownDigest known record) := by
        intro record
        unfold knownDigest
        cases hfound : known.find? fun entry => record.agrees entry.1 ∧ isSha256Text entry.2 with
        | none => exact (by decide : isSha256Text Python.zeroHash)
        | some entry =>
            have hentry := List.find?_some hfound
            exact (of_decide_eq_true hentry).2
      intro value
      cases value with
      | obj fields => exact hknown fields
      | _ => exact (by decide : isSha256Text Python.zeroHash)
    rendered := exampleTimestamp_parses
    sorted := by
      intro a b h
      have hagrees : ∀ entry : JsonFields × String, a.agrees entry.1 = b.agrees entry.1 := by
        intro entry
        rw [Bool.eq_iff_iff, JsonFields.agrees_iff, JsonFields.agrees_iff]
        simp only [h]
      show knownDigest known a = knownDigest known b
      unfold knownDigest
      simp only [hagrees]
    str_text := fun _ => rfl
    complete := by
      intro payload schema hmem hid haccepts
      have hunique : ∀ other ∈ change4Schemas ++ [], other.id = schema.id → other = schema := by
        have hnodup : (change4Schemas.map ContractSchema.id).Nodup := by decide
        intro other hother heq
        rw [List.append_nil] at hother
        exact List.inj_on_of_nodup_map hnodup hother hmem heq
      refine if_pos ?_
      rw [Bool.and_eq_true, List.any_eq_true, List.all_eq_true]
      refine ⟨⟨schema, List.mem_append_left _ hmem, decide_eq_true hid⟩, fun other hother => ?_⟩
      rw [Bool.or_eq_true, decide_eq_true_eq]
      by_cases hsame : payload.get? "schema_id" = some (.str other.id)
      · have heq : other = schema := by
          refine hunique other hother ?_
          rw [hid, Option.some.injEq, Json.str.injEq] at hsame
          exact hsame.symm
        exact Or.inr (heq ▸ haccepts)
      · exact Or.inl hsame }
/-- A digest that only one known record has is forged by none. -/
theorem knownRuntime_unforged {known : List (JsonFields × String)} {record : JsonFields} {hashField : String}
    (content : JsonFields) (hknown : (knownRuntime known).recordHash record hashField ≠ Python.zeroHash)
    (hcontent : (record.withoutField hashField).agrees content = true)
    (honly : ∀ entry ∈ known, entry.2 = (knownRuntime known).recordHash record hashField → entry.1 = content) :
    Unforged (knownRuntime known) record hashField := by
  intro other hsame key hkey
  have hdigest : knownDigest known (other.withoutField hashField) =
      (knownRuntime known).recordHash record hashField := hsame
  unfold knownDigest at hdigest
  cases hother : known.find? fun entry => (other.withoutField hashField).agrees entry.1 ∧ isSha256Text entry.2 with
  | none =>
      rw [hother] at hdigest
      exact absurd hdigest.symm hknown
  | some entry =>
      rw [hother] at hdigest
      have hentry := honly entry (List.mem_of_find?_eq_some hother) hdigest
      have hagrees := List.find?_some hother
      have hsameKey := JsonFields.agrees_iff.mp (of_decide_eq_true hagrees).1 key
      have hrecordKey := JsonFields.agrees_iff.mp hcontent key
      rw [JsonFields.get?_withoutField, if_neg hkey] at hsameKey hrecordKey
      rw [hsameKey, hrecordKey, hentry]

def exampleCandidate : String := "cccccccccccccccccccccccccccccccccccccccccccccccccccccccccccccccc"

def exampleEvidence : String := "eeeeeeeeeeeeeeeeeeeeeeeeeeeeeeeeeeeeeeeeeeeeeeeeeeeeeeeeeeeeeeee"

def exampleGrantHash : String := "32af6bef766c61f04c09e7dced741cb8244cc955e388f5bfc0e86a6d2a6e309a"

/-- A grant of the fixture without its hash. -/
def exampleGrantFields : List (String × Json) :=
  [("schema_id", .str capabilityGrantSchema.id), ("schema_version", .str "v1"), ("tenant_id", .str fixtureTenantId),
   ("grant_id", .str "grant"), ("subject_id", .str "controller"),
   ("capability", .str "fixture-policy-approval-delivery"), 
   ("scopes", .arr (.strings ["approval.decide", "approval.request", "outbound_delivery.execute"])),
   ("issued_at", .str "1970-01-01T00:00:00Z"), ("expires_at", .str "1970-01-01T00:30:00Z"),
   ("status", .str "active"), ("grant_version", .str "fixture-v1"), ("role", .str fixtureControllerRole),
   ("resource_scope", .str api503DeliveryResourceId), ("data_classifications", .arr (.strings ["synthetic"]))]

def exampleGrant (claimed : String) : JsonFields := .ofList (exampleGrantFields ++ [("grant_sha256", .str claimed)])

/-- The question that the grant is asked. -/
def exampleArguments (claimed : String) : PolicyArguments where
  tenantId := fixtureTenantId
  subjectId := "controller"
  role := fixtureControllerRole
  action := "outbound_delivery.execute"
  caseId := "case"
  caseRevisionId := "revision"
  workflowId := "workflow"
  checkpointId := "checkpoint"
  workflowVersion := 7
  candidateHash := exampleCandidate
  evidenceHashes := [exampleEvidence]
  grant := some (exampleGrant claimed)
  resourceId := api503DeliveryResourceId
  dataClassification := "synthetic"
  remainingBudget := 1

/-- The records that are made of it, with their digests. -/
def exampleRecords (claimed input decisionId decision bindingId binding : String) : List (JsonFields × String) :=
  let named := fun (stem digest : String) => stem ++ "_" ++ String.ofList (digest.toList.take 32)
  [ (.ofList
      [("tenant_id", .str fixtureTenantId), ("subject_id", .str "controller"), ("role", .str fixtureControllerRole),
       ("action", .str "outbound_delivery.execute"), ("case_id", .str "case"), ("case_revision_id", .str "revision"),
       ("workflow_id", .str "workflow"), ("checkpoint_id", .str "checkpoint"), ("workflow_version", .int 7),
       ("candidate_hash", .str exampleCandidate), ("evidence_hashes", .arr (.strings [exampleEvidence])),
       ("resource_id", .str api503DeliveryResourceId), ("data_classification", .str "synthetic"),
       ("remaining_budget", .int 1), ("policy_version", .str api503PolicyVersion), ("grant_id", .str "grant"),
       ("grant_sha256", .str claimed)], input),
    (.ofList
      [("prefix", .str "policy_decision"),
       ("material", .obj (.ofList [("policy_input_sha256", .str input), ("decision", .bool true)]))], decisionId),
    (.ofList
      [("schema_id", .str policyDecisionSchema.id), ("schema_version", .str "v1"), ("tenant_id", .str fixtureTenantId),
       ("policy_decision_id", .str (named "policy_decision" decisionId)), ("case_id", .str "case"),
       ("case_revision_id", .str "revision"), ("decision", .str "allow"),
       ("reason_code", .str "fixture_policy_allowed"), ("evidence_hashes", .arr (.strings [exampleEvidence])),
       ("decided_at", .str "1970-01-01T00:00:00Z"),
       ("checkpoint_id", .str "checkpoint"), ("workflow_id", .str "workflow"), ("workflow_version", .int 7),
       ("candidate_hash", .str exampleCandidate), ("action", .str "outbound_delivery.execute"),
       ("policy_version", .str api503PolicyVersion), ("policy_input_sha256", .str input), ("grant_id", .str "grant"),
       ("grant_sha256", .str claimed), ("subject_id", .str "controller"), ("role", .str fixtureControllerRole),
       ("resource_id", .str api503DeliveryResourceId), ("data_classification", .str "synthetic")], decision),
    (.ofList
      [("prefix", .str "authorization_binding"),
       ("material", .obj (.ofList
         [("policy_decision_sha256", .str decision), ("grant_sha256", .str claimed),
          ("candidate_hash", .str exampleCandidate), ("evidence_hashes", .arr (.strings [exampleEvidence]))]))],
      bindingId),
    (.ofList
      [("schema_id", .str authorizationBindingSchema.id), ("schema_version", .str "v1"),
       ("tenant_id", .str fixtureTenantId),
       ("authorization_binding_id", .str (named "authorization_binding" bindingId)), ("case_id", .str "case"),
       ("case_revision_id", .str "revision"), ("workflow_id", .str "workflow"), ("checkpoint_id", .str "checkpoint"),
       ("workflow_version", .int 7), ("candidate_hash", .str exampleCandidate),
       ("evidence_hashes", .arr (.strings [exampleEvidence])), ("action", .str "outbound_delivery.execute"),
       ("policy_decision_id", .str (named "policy_decision" decisionId)), ("policy_version", .str api503PolicyVersion),
       ("policy_decision_sha256", .str decision), ("grant_id", .str "grant"), ("grant_version", .str "fixture-v1"),
       ("grant_sha256", .str claimed), ("subject_id", .str "controller"), ("role", .str fixtureControllerRole),
       ("delivery_resource_id", .str api503DeliveryResourceId),
       ("delivery_resource_scope", .str api503DeliveryResourceId), ("data_classification", .str "synthetic"),
       ("remaining_budget", .int 1), ("expires_at", .str "1970-01-01T00:30:00Z"),
       ("created_at", .str "1970-01-01T00:00:00Z")], binding) ]

/-- SHA-256 of the records of a grant with its hash, and of one with another hash. -/
def exampleRuntime : PolicyRuntime :=
  knownRuntime
    ((.ofList exampleGrantFields, exampleGrantHash) ::
      exampleRecords exampleGrantHash
        "ac43625c9c2e47aeee41f2da1e79fe6c1e0f9970a5488a9c15419368893a347c"
        "1de06a9b8204f86f4e006a9d14d4b4aa57181de9a020eba6fbffa37b9a83c335"
        "ce98bd37eb2099712c892e3e235b8c2efbadff68d60887cffcd0504826eab05a"
        "a34665a552fc721f299d1fcf8394720cc762585a70a9a8e6d082f9a4b759ac17"
        "942c1ca1ae8bd5a9010ab5d810a9b609be07ff842ba7ac47af8e0df21a90f444" ++
      exampleRecords exampleCandidate
        "cf90c1275ed9b9479546569e856c221cef0c01ddd177c31b019a1264ca975c19"
        "abba7af7eb009e8246ca6d7904756cd23c54d063623d89849d2ba0ce9ddef42a"
        "01ff362e52bbf635ad65f1bdc54d4966da40d503bd61b3d9d726e3b198e7929a"
        "a2c6efc0aee2628c9ea49158894e94f7cdea679eb057b74755cb6a14d2b478bb"
        "3ac44f57783556d691c066070f9a823d00a894eacd2f50510d0898fa96226f36")

theorem examplePermits (claimed : String) : PolicyPermits exampleRuntime (exampleArguments claimed) 0 where
  tenant := rfl
  action := show "outbound_delivery.execute" ∈ change4Actions by decide
  identities :=
    show "case" ≠ "" ∧ "revision" ≠ "" ∧ "workflow" ≠ "" ∧ "checkpoint" ≠ "" by decide
  version := show (0 : Int) ≤ 7 by decide
  evidence := List.cons_ne_nil _ _
  resource := rfl
  classification := rfl
  budget := show (1 : Int) ≤ 1 by decide
  grant := by
    refine ⟨exampleGrant claimed, rfl, ⟨rfl, rfl, rfl, rfl, ?_, rfl, ?_, halfPast, rfl, by decide⟩⟩
    · show Except.ok _ = Except.ok true
      rw [Except.ok.injEq]
      rfl
    · show Except.ok _ = Except.ok true
      rw [Except.ok.injEq]
      rfl
  role := rfl

theorem exampleEvidence_hashes {capitals : Bool} (claimed : String) :
    ∀ h ∈ (exampleArguments claimed).evidenceHashes, (FieldRule.hash capitals).accepts (.str h) = true := by
  intro h hmem
  rw [List.mem_singleton.mp hmem]
  cases capitals <;> decide

theorem exampleRecordable (claimed : String) (h : isSha256Text claimed) :
    Recordable exampleRuntime (exampleArguments claimed) where
  subject := show "controller" ≠ "" by decide
  candidate := (by decide : (FieldRule.hash false).accepts (.str exampleCandidate) = true)
  evidence := exampleEvidence_hashes claimed
  grantId := show "grant" ≠ "" by decide
  grantSha256 := h

/-- The caller who sees what the decision was made about. -/
def exampleContext (now : Instant) : Change4AuthorizationContext where
  action := "outbound_delivery.execute"
  caseRevisionId := "revision"
  checkpointId := "checkpoint"
  workflowVersion := 7
  candidateHash := exampleCandidate
  evidenceHashes := [exampleEvidence]
  effectiveTenantId := some fixtureTenantId
  now := now
  resourceId := api503DeliveryResourceId
  dataClassification := "synthetic"
  effectiveSubjectId := some "controller"
  effectiveRole := some fixtureControllerRole

theorem exampleSees (claimed : String) (now : Instant) : (exampleArguments claimed).Sees (exampleContext now) :=
  ⟨rfl, rfl, rfl, rfl, rfl, rfl, rfl, rfl, fun _ h => (Option.mem_some.mp h).symm,
    fun _ h => (Option.mem_some.mp h).symm, fun _ h => (Option.mem_some.mp h).symm⟩

/-- The decision about the grant that claims some hash. -/
def exampleDecision (claimed : String) : JsonFields :=
  Python.allowedDecision exampleRuntime (exampleArguments claimed) 0

theorem exampleAllowed {claimed : String} (h : isSha256Text claimed) :
    Python.evaluateFixturePolicy exampleRuntime (exampleArguments claimed) 0 = .ok (exampleDecision claimed) ∧
      (exampleDecision claimed).get? "decision" = some (.str "allow") :=
  Python.evaluate_allows_iff.mpr ⟨examplePermits claimed, exampleRecordable claimed h, rfl⟩

theorem exampleIntact : IntactGrant exampleRuntime (exampleGrant exampleGrantHash) where
  valid := (Python.requireSchema_accepts (by simp [change4Schemas]) rfl).mpr (by decide +kernel)
  fields := by decide +kernel
  hash := by decide +kernel

theorem exampleGrant_unforged : Unforged exampleRuntime (exampleGrant exampleGrantHash) "grant_sha256" :=
  knownRuntime_unforged (.ofList exampleGrantFields) (by decide +kernel) (by decide +kernel) (by decide +kernel)

end WeFlow
