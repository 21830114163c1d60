import WeFlow.Contracts.Judgement

/-!
# `Approval` — the approval check of `validation.py`

`approval_is_authorized` compares the decision and its request, and hands the records of a Change 4
authorization, where they are supplied, to the validators of `authorization.py`. `_parse_time` reads any text that
`datetime.fromisoformat` reads: without an offset it is a `datetime` without a zone, and Python raises a
`TypeError` where that is compared with a `datetime` that has one. Here each comparison raises it.

## Contents

* `ApprovalRuntime` — `datetime.fromisoformat`, of which `ContractRuntime.parseTime` keeps the instants.
* `Approval.validateChange4AuthorizationProfile`, `Approval.validateHashBoundApproval`, `approvalIsAuthorized`.
* `Approval.profile_ok_iff`, `Approval.hashBound_ok_iff` — they accept what the validators of `Python` accept.
* `approval_fails_closed_iff` — when the check returns, and what it has then checked.
-/

namespace WeFlow

open Txn

/-- A `datetime` that was read from a text: with an offset, or without one. -/
inductive ReadTime where
  | aware (instant : Instant)
  | naive
  deriving DecidableEq, Repr

/-- The instant of a `datetime` with an offset. -/
def ReadTime.instant? : ReadTime → Option Instant
  | aware instant => some instant
  | naive => none

/-- The runtime of the contract validators, with `datetime.fromisoformat` of a text whose `Z` was replaced. -/
structure ApprovalRuntime extends ContractRuntime where
  fromisoformat : String → Option ReadTime
  reads : ∀ text, parseTime text = (fromisoformat text).bind ReadTime.instant?

/-- What a call raises. -/
inductive ApprovalRaised where
  | contract (error : ContractValidationError)
  | typeError
  deriving DecidableEq, Repr

/-- The keyword arguments of `approval_is_authorized`, with `now` given. -/
structure ApprovalArguments where
  request : JsonFields
  decision : JsonFields
  currentCaseRevisionId : String
  currentEvidenceHashes : List String
  now : Instant
  authorizationBinding : Option JsonFields
  capabilityGrant : Option JsonFields
  policyDecision : Option JsonFields
  currentCheckpointId : Option String
  currentWorkflowVersion : Option Int
  currentCandidateHash : Option String
  effectiveTenantId : Option String
  effectiveApproverId : Option String
  effectiveApproverRole : Option String

/-- The records and current values of a Change 4 authorization, all of them. -/
structure StrictApproval where
  binding : JsonFields
  grant : JsonFields
  policy : JsonFields
  context : Change4CurrentContext
  approverId : String
  approverRole : String

namespace StrictApproval

/-- The arguments of `validate_change4_authorization_profile`; `str(…)` of a field that the binding's schema
    makes a text. -/
def profile (s : StrictApproval) : Change4AuthorizationContext where
  toChange4CurrentContext := s.context
  action := "outbound_delivery.execute"
  resourceId := textOf (s.binding.get? "delivery_resource_id")
  dataClassification := textOf (s.binding.get? "data_classification")
  effectiveSubjectId := none
  effectiveRole := none

/-- The arguments of `validate_hash_bound_approval`. -/
def approval (s : StrictApproval) : Change4ApprovalContext where
  toChange4CurrentContext := s.context
  effectiveApproverId := s.approverId
  effectiveApproverRole := s.approverRole

end StrictApproval

namespace ApprovalArguments

/-- Whether any of the three records is supplied. -/
def supplied (a : ApprovalArguments) : Bool :=
  a.authorizationBinding.isSome || a.capabilityGrant.isSome || a.policyDecision.isSome

/-- The strict path's arguments, where none of them is missing. -/
def strict? (a : ApprovalArguments) : Option StrictApproval := do
  let binding ← a.authorizationBinding
  let grant ← a.capabilityGrant
  let policy ← a.policyDecision
  let checkpointId ← a.currentCheckpointId
  let workflowVersion ← a.currentWorkflowVersion
  let candidateHash ← a.currentCandidateHash
  let tenantId ← a.effectiveTenantId
  let approverId ← a.effectiveApproverId
  let approverRole ← a.effectiveApproverRole
  let context : Change4CurrentContext :=
    { caseRevisionId := a.currentCaseRevisionId, checkpointId, workflowVersion, candidateHash
      evidenceHashes := a.currentEvidenceHashes, effectiveTenantId := some tenantId, now := a.now }
  return { binding, grant, policy, context, approverId, approverRole }

/-- `frozenset(left) == frozenset(right)`. -/
def sameSet (left right : List Json) : Bool :=
  left.all (fun item => right.any item.pyEq) && right.all fun item => left.any item.pyEq

/-- What the check compares before it reads the expiry. -/
def agrees (a : ApprovalArguments) : Bool :=
  Python.eq (a.decision.get? "decision") (some (.str "approved")) &&
  Python.eq (a.request.get? "tenant_id") (a.decision.get? "tenant_id") &&
  Python.eq (a.request.get? "approval_request_id") (a.decision.get? "approval_request_id") &&
  Python.eq (a.request.get? "case_id") (a.decision.get? "case_id") &&
  Python.eq (a.request.get? "case_revision_id") (a.decision.get? "case_revision_id") &&
  Python.eq (a.request.get? "case_revision_id") (some (.str a.currentCaseRevisionId)) &&
  Python.eq (a.request.get? "candidate_hash") (a.decision.get? "candidate_hash") &&
  sameSet (Python.items (a.request.get? "evidence_hashes")).toList
    (Python.items (a.decision.get? "evidence_hashes")).toList &&
  sameSet (Python.items (a.request.get? "evidence_hashes")).toList (a.currentEvidenceHashes.map .str)

end ApprovalArguments

/-! ## The checks that raise -/

namespace Approval

/-- `expiry <= current_time`. -/
def notAfter (expiry : ReadTime) (now : Instant) : Except ApprovalRaised Bool :=
  match expiry with
  | .aware instant => .ok (decide (instant ≤ now))
  | .naive => .error .typeError

/-- The condition under which the profile is expired, read from the left. -/
def profileExpired (grant binding : Option ReadTime) (now : Instant) : Except ApprovalRaised Bool :=
  match grant, binding with
  | some expiry, some bindingExpiry => do
      let past ← notAfter expiry now
      if past then return true else notAfter bindingExpiry now
  | _, _ => .ok true

def refuse {α : Type} (x : Except ContractValidationError α) : Except ApprovalRaised α := x.mapError .contract

section Validators

variable (runtime : ApprovalRuntime)

/-- `_parse_time(payload.get("expires_at"))`. -/
def expiry? (payload : JsonFields) : Option ReadTime :=
  match payload.get? "expires_at" with
  | some (.str s) => runtime.fromisoformat s
  | _ => none

/-- The profile's checks before it reads the expiries. -/
def profileBefore (binding grant decision : JsonFields) (context : Change4AuthorizationContext) :
    Except ContractValidationError Unit := do
  require (context.action ∈ change4Actions) ⟨"authorization-binding", "action_not_allowlisted"⟩
  Python.validateAuthorizationBinding runtime.toContractRuntime binding
  Python.requireSchema runtime.toContractRuntime grant capabilityGrantSchema
  Python.requireSchema runtime.toContractRuntime decision policyDecisionSchema
  Python.requireFields grant grantFields "capability-grant"
  Python.requireHash runtime.toContractRuntime grant "grant_sha256" "capability-grant"
  Python.requireFields decision policyFields "policy-decision"
  Python.requireHash runtime.toContractRuntime decision "policy_decision_sha256" "policy-decision"
  require (Python.eq (decision.get? "decision") (some (.str "allow"))) ⟨"policy-decision", "policy_denied"⟩
  require (Python.eq (grant.get? "status") (some (.str "active"))) ⟨"capability-grant", "grant_not_active"⟩

/-- The profile's checks after the expiries. -/
def profileAfter (binding grant decision : JsonFields) (context : Change4AuthorizationContext) :
    Except ContractValidationError Unit := do
  require (Python.covers grant context) ⟨"capability-grant", "grant_scope_denied"⟩
  Python.same binding grant bindingGrantFields "authorization-binding"
  Python.same binding decision
    ["tenant_id", "case_id", "case_revision_id", "workflow_id", "checkpoint_id", "workflow_version",
     "candidate_hash", "evidence_hashes", "policy_decision_id", "policy_version",
     "policy_decision_sha256", "grant_id", "grant_sha256", "subject_id", "role"] "authorization-binding"
  require (Python.purpose binding decision context) ⟨"authorization-binding", "binding_mismatch"⟩
  require (Python.current binding context.toChange4CurrentContext)
    ⟨"authorization-binding", "stale_authorization_binding"⟩
  require (Python.isEffective (binding.get? "tenant_id") context.effectiveTenantId)
    ⟨"authorization-binding", "tenant_identity_mismatch"⟩
  require (Python.isEffective (binding.get? "subject_id") context.effectiveSubjectId)
    ⟨"authorization-binding", "subject_identity_mismatch"⟩
  require (Python.isEffective (binding.get? "role") context.effectiveRole)
    ⟨"authorization-binding", "role_identity_mismatch"⟩

/-- **`validate_change4_authorization_profile`**, with the comparisons that raise. -/
def validateChange4AuthorizationProfile (binding grant decision : JsonFields)
    (context : Change4AuthorizationContext) : Except ApprovalRaised Unit := do
  refuse (profileBefore runtime binding grant decision context)
  let expired ← profileExpired (expiry? runtime grant) (expiry? runtime binding) context.now
  refuse (require (!expired) ⟨"authorization-binding", "authorization_expired"⟩)
  refuse (profileAfter binding grant decision context)

/-- The checks of a hash-bound approval before its expiry, which is checked last. -/
def hashBoundBefore (request decision binding : JsonFields) (context : Change4ApprovalContext) :
    Except ContractValidationError Unit := do
  Python.requireSchema runtime.toContractRuntime request approvalRequestSchema
  Python.requireSchema runtime.toContractRuntime decision approvalDecisionSchema
  Python.validateAuthorizationBinding runtime.toContractRuntime binding
  Python.requireFields request requestFields "approval-request"
  Python.requireFields decision approvalFields "approval-decision"
  Python.requireHash runtime.toContractRuntime decision "decision_sha256" "approval-decision"
  require (Python.eq (decision.get? "decision") (some (.str "approved")))
    ⟨"approval-decision", "approval_not_granted"⟩
  Python.same request decision
    ["tenant_id", "approval_request_id", "case_id", "case_revision_id", "candidate_hash",
     "evidence_hashes", "workflow_id", "checkpoint_id", "workflow_version",
     "authorization_binding_sha256"] "approval-decision"
  require (Python.bound request binding) ⟨"approval-request", "binding_mismatch"⟩
  require (Python.decidedBy decision context) ⟨"approval-decision", "actor_identity_mismatch"⟩
  require (Python.current request context.toChange4CurrentContext) ⟨"approval-decision", "approval_stale"⟩

/-- **`validate_hash_bound_approval`**, with the comparison that raises. -/
def validateHashBoundApproval (request decision binding : JsonFields) (context : Change4ApprovalContext) :
    Except ApprovalRaised Unit := do
  refuse (hashBoundBefore runtime request decision binding context)
  match expiry? runtime decision with
  | none => .error (.contract ⟨"approval-decision", "approval_expired"⟩)
  | some expiry => do
      let past ← notAfter expiry context.now
      refuse (require (!past) ⟨"approval-decision", "approval_expired"⟩)

def strictChecks (a : ApprovalArguments) (s : StrictApproval) : Except ApprovalRaised Unit := do
  validateChange4AuthorizationProfile runtime s.binding s.grant s.policy s.profile
  validateHashBoundApproval runtime a.request a.decision s.binding s.approval

/-- `except ContractValidationError: return False`. -/
def caught : Except ApprovalRaised Unit → Except ApprovalRaised Bool
  | .ok () => .ok true
  | .error (.contract _) => .ok false
  | .error .typeError => .error .typeError

/-- The strict path. -/
def authorizeStrictly (a : ApprovalArguments) (s : StrictApproval) : Except ApprovalRaised Bool :=
  caught (strictChecks runtime a s)

/-- What follows the comparison of the expiry. -/
def authorizeSupplied (a : ApprovalArguments) : Except ApprovalRaised Bool :=
  if !a.supplied then .ok true
  else
    match a.strict? with
    | none => .ok false
    | some s => authorizeStrictly runtime a s

/-- The check of two valid records. -/
def authorize (a : ApprovalArguments) : Except ApprovalRaised Bool :=
  if !a.agrees then .ok false
  else
    match expiry? runtime a.decision with
    | none => .ok false
    | some expiry => do
        let past ← notAfter expiry a.now
        if past then return false else authorizeSupplied runtime a

end Validators

end Approval

/-- **`approval_is_authorized`.** -/
def approvalIsAuthorized (runtime : ApprovalRuntime) (a : ApprovalArguments) : Except ApprovalRaised Bool := do
  Approval.refuse (runtime.validatePayload a.request)
  Approval.refuse (runtime.validatePayload a.decision)
  Approval.authorize runtime a

/-! ## What the checks accept, and where they raise -/

namespace Approval

theorem refuse_eq_ok {α : Type} {x : Except ContractValidationError α} {a : α} : refuse x = .ok a ↔ x = .ok a := by
  cases x <;> simp [refuse, Except.mapError]

theorem refuse_ne_typeError {α : Type} {x : Except ContractValidationError α} : refuse x ≠ .error .typeError := by
  cases x <;> simp [refuse, Except.mapError]

/-- A raised error of a chain is that of its first part, or of the rest after it. -/
theorem bind_eq_error {ε α β : Type} {x : Except ε α} {f : α → Except ε β} {e : ε} :
    (x >>= f) = .error e ↔ x = .error e ∨ ∃ a, x = .ok a ∧ f a = .error e := by
  cases x with
  | error e' => simp [bind, Except.bind]
  | ok a => simp [bind, Except.bind]

theorem notAfter_eq_ok {expiry : ReadTime} {now : Instant} {past : Bool} :
    notAfter expiry now = .ok past ↔ ∃ instant, expiry = .aware instant ∧ past = decide (instant ≤ now) := by
  cases expiry with
  | aware instant => simp [notAfter, eq_comm]
  | naive => simp [notAfter]

theorem notAfter_eq_error {expiry : ReadTime} {now : Instant} {raised : ApprovalRaised} :
    notAfter expiry now = .error raised ↔ expiry = .naive ∧ raised = .typeError := by
  cases expiry with
  | aware instant => simp [notAfter]
  | naive =>
    constructor
    · intro h
      exact ⟨rfl, (Except.error.inj h).symm⟩
    · rintro ⟨-, rfl⟩
      rfl

/-- An expiry is an instant after now. -/
def Ahead (expiry : ReadTime) (now : Instant) : Prop := ∃ instant, expiry = .aware instant ∧ now < instant

theorem notAfter_eq_false {expiry : ReadTime} {now : Instant} :
    notAfter expiry now = .ok false ↔ Ahead expiry now := by
  rw [notAfter_eq_ok]
  apply exists_congr
  intro instant
  simp

theorem profileExpired_eq_false {grant binding : Option ReadTime} {now : Instant} :
    profileExpired grant binding now = .ok false ↔
      (∃ expiry, grant = some expiry ∧ Ahead expiry now) ∧ ∃ expiry, binding = some expiry ∧ Ahead expiry now := by
  cases grant with
  | none => simp [profileExpired]
  | some expiry =>
    cases binding with
    | none => simp [profileExpired]
    | some bindingExpiry =>
      simp only [profileExpired, bind_eq_ok, Option.some.injEq, exists_eq_left']
      constructor
      · rintro ⟨past, hpast, hrest⟩
        cases past with
        | true => cases hrest
        | false => exact ⟨notAfter_eq_false.mp hpast, notAfter_eq_false.mp hrest⟩
      · rintro ⟨hgrant, hbinding⟩
        exact ⟨false, notAfter_eq_false.mpr hgrant, notAfter_eq_false.mpr hbinding⟩

/-- The profile compares an expiry without an offset. -/
def ComparesNaive (grant binding : Option ReadTime) (now : Instant) : Prop :=
  ∃ expiry bindingExpiry, grant = some expiry ∧ binding = some bindingExpiry ∧
    (expiry = .naive ∨ Ahead expiry now ∧ bindingExpiry = .naive)

theorem profileExpired_eq_error {grant binding : Option ReadTime} {now : Instant} {raised : ApprovalRaised} :
    profileExpired grant binding now = .error raised ↔ ComparesNaive grant binding now ∧ raised = .typeError := by
  cases grant with
  | none => simp [profileExpired, ComparesNaive]
  | some expiry =>
    cases binding with
    | none => simp [profileExpired, ComparesNaive]
    | some bindingExpiry =>
      simp only [profileExpired, ComparesNaive, bind_eq_error, Option.some.injEq]
      constructor
      · rintro (hfirst | ⟨past, hpast, hrest⟩)
        · obtain ⟨hnaive, rfl⟩ := notAfter_eq_error.mp hfirst
          exact ⟨⟨_, _, rfl, rfl, .inl hnaive⟩, rfl⟩
        · cases past with
          | true => cases hrest
          | false =>
            obtain ⟨hnaive, rfl⟩ := notAfter_eq_error.mp hrest
            exact ⟨⟨_, _, rfl, rfl, .inr ⟨notAfter_eq_false.mp hpast, hnaive⟩⟩, rfl⟩
      · rintro ⟨⟨_, _, rfl, rfl, hnaive | ⟨hahead, hnaive⟩⟩, rfl⟩
        · exact .inl (notAfter_eq_error.mpr ⟨hnaive, rfl⟩)
        · exact .inr ⟨false, notAfter_eq_false.mpr hahead, notAfter_eq_error.mpr ⟨hnaive, rfl⟩⟩

section Validators

variable {runtime : ApprovalRuntime}

/-- An expiry that is ahead is one that the validators of `Python` accept. -/
theorem ahead_iff {payload : JsonFields} {now : Instant} :
    (∃ expiry, expiry? runtime payload = some expiry ∧ Ahead expiry now) ↔
      Python.unexpired runtime.toContractRuntime payload now = true := by
  have hpython : Python.expiry? runtime.toContractRuntime payload =
      (expiry? runtime payload).bind ReadTime.instant? := by
    unfold Python.expiry? expiry?
    cases payload.get? "expires_at" with
    | none => rfl
    | some value =>
      cases value with
      | str s => exact runtime.reads s
      | _ => rfl
  rw [Python.unexpired, hpython]
  cases expiry? runtime payload with
  | none => simp
  | some expiry =>
    cases expiry with
    | aware instant => simp [Ahead, ReadTime.instant?]
    | naive => simp [Ahead, ReadTime.instant?]

/-- **The profile accepts** what the validator of `Python` accepts. -/
theorem profile_ok_iff {binding grant decision : JsonFields} {context : Change4AuthorizationContext} :
    validateChange4AuthorizationProfile runtime binding grant decision context = .ok () ↔
      Python.validateChange4AuthorizationProfile runtime.toContractRuntime binding grant decision context true =
        .ok () := by
  have hpython : Python.validateChange4AuthorizationProfile runtime.toContractRuntime binding grant decision context
        true = .ok () ↔
      profileBefore runtime binding grant decision context = .ok () ∧
        (Python.unexpired runtime.toContractRuntime grant context.now = true ∧
          Python.unexpired runtime.toContractRuntime binding context.now = true) ∧
        profileAfter binding grant decision context = .ok () := by
    unfold Python.validateChange4AuthorizationProfile profileBefore profileAfter
    simp only [unit_bind_eq_ok, require_eq_ok, Bool.not_true, Bool.false_or, Bool.and_eq_true, and_assoc]
  rw [hpython, ← ahead_iff, ← ahead_iff, ← profileExpired_eq_false]
  unfold validateChange4AuthorizationProfile
  rw [unit_bind_eq_ok, refuse_eq_ok, bind_eq_ok]
  apply and_congr_right
  intro _
  constructor
  · rintro ⟨expired, hexpired, hrest⟩
    obtain ⟨hfalse, hafter⟩ := unit_bind_eq_ok.mp hrest
    rw [refuse_eq_ok, require_eq_ok, Bool.not_eq_true'] at hfalse
    rw [hfalse] at hexpired
    exact ⟨hexpired, refuse_eq_ok.mp hafter⟩
  · rintro ⟨hexpired, hafter⟩
    exact ⟨false, hexpired, unit_bind_eq_ok.mpr ⟨rfl, refuse_eq_ok.mpr hafter⟩⟩

/-- The profile raises where its first checks pass and it compares an expiry without an offset. -/
theorem profile_raises_iff {binding grant decision : JsonFields} {context : Change4AuthorizationContext} :
    validateChange4AuthorizationProfile runtime binding grant decision context = .error .typeError ↔
      profileBefore runtime binding grant decision context = .ok () ∧
        ComparesNaive (expiry? runtime grant) (expiry? runtime binding) context.now := by
  unfold validateChange4AuthorizationProfile
  simp only [bind_eq_error, refuse_ne_typeError, refuse_eq_ok, profileExpired_eq_error, and_false, exists_false,
    or_false, false_or, and_true]
  constructor
  · rintro ⟨u, hbefore, hnaive⟩
    exact ⟨hbefore, hnaive⟩
  · rintro ⟨hbefore, hnaive⟩
    exact ⟨(), hbefore, hnaive⟩

/-- **The hash-bound approval accepts** what the validator of `Python` accepts. -/
theorem hashBound_ok_iff {request decision binding : JsonFields} {context : Change4ApprovalContext} :
    validateHashBoundApproval runtime request decision binding context = .ok () ↔
      Python.validateHashBoundApproval runtime.toContractRuntime request decision binding context = .ok () := by
  have hexpiry : (match expiry? runtime decision with
      | none => .error (.contract ⟨"approval-decision", "approval_expired"⟩)
      | some expiry => do
          let past ← notAfter expiry context.now
          refuse (require (!past) ⟨"approval-decision", "approval_expired"⟩)) = Except.ok () ↔
        Python.unexpired runtime.toContractRuntime decision context.now = true := by
    rw [← ahead_iff]
    cases expiry? runtime decision with
    | none => simp
    | some expiry =>
      simp only [bind_eq_ok, refuse_eq_ok, require_eq_ok, Option.some.injEq, exists_eq_left']
      rw [← notAfter_eq_false]
      simp
  unfold validateHashBoundApproval Python.validateHashBoundApproval hashBoundBefore
  simp only [unit_bind_eq_ok, refuse_eq_ok, require_eq_ok, hexpiry]
  grind

theorem hashBound_raises {request decision binding : JsonFields} {context : Change4ApprovalContext}
    (h : validateHashBoundApproval runtime request decision binding context = .error .typeError) :
    expiry? runtime decision = some .naive := by
  unfold validateHashBoundApproval at h
  rw [bind_eq_error] at h
  rcases h with hrefused | ⟨u, -, hrest⟩
  · exact absurd hrefused refuse_ne_typeError
  · cases hexpiry : expiry? runtime decision with
    | none =>
      rw [hexpiry] at hrest
      cases hrest
    | some expiry =>
      rw [hexpiry] at hrest
      rcases bind_eq_error.mp hrest with hcompare | ⟨past, -, hrefused⟩
      · rw [(notAfter_eq_error.mp hcompare).1]
      · exact absurd hrefused refuse_ne_typeError

end Validators

/-! ## The whole check -/

/-- What the check must have found where it returns `True`. -/
structure Authorized (runtime : ApprovalRuntime) (a : ApprovalArguments) : Prop where
  approved : a.decision.get? "decision" = some (.str "approved")
  same : ∀ field ∈ ["tenant_id", "approval_request_id", "case_id", "case_revision_id", "candidate_hash"],
    Python.eq (a.request.get? field) (a.decision.get? field) = true
  revision : a.request.get? "case_revision_id" = some (.str a.currentCaseRevisionId)
  evidence : ApprovalArguments.sameSet (Python.items (a.request.get? "evidence_hashes")).toList
    (Python.items (a.decision.get? "evidence_hashes")).toList = true
  currentEvidence : ApprovalArguments.sameSet (Python.items (a.request.get? "evidence_hashes")).toList
    (a.currentEvidenceHashes.map .str) = true
  unexpired : ∃ expiry, expiry? runtime a.decision = some expiry ∧ Ahead expiry a.now
  strict : a.supplied = true → ∃ s, a.strict? = some s ∧
    Python.validateChange4AuthorizationProfile runtime.toContractRuntime s.binding s.grant s.policy s.profile true =
      .ok () ∧
    Python.validateHashBoundApproval runtime.toContractRuntime a.request a.decision s.binding s.approval = .ok ()

/-- A comparison with an expiry without an offset is reached: the decision's, once the records agree; or the
    grant's or the binding's, once the decision's is ahead, nothing is missing and the profile's first checks
    pass. -/
def ReachesNaive (runtime : ApprovalRuntime) (a : ApprovalArguments) : Prop :=
  a.agrees = true ∧ ∃ expiry, expiry? runtime a.decision = some expiry ∧
    (expiry = .naive ∨
      Ahead expiry a.now ∧ ∃ s, a.strict? = some s ∧
        profileBefore runtime s.binding s.grant s.policy s.profile = .ok () ∧
        ComparesNaive (expiry? runtime s.grant) (expiry? runtime s.binding) a.now)

section Arguments

variable {runtime : ApprovalRuntime} {a : ApprovalArguments}

/-- The strict path acts at the caller's now, and on records that were supplied. -/
theorem strict?_facts {s : StrictApproval} (h : a.strict? = some s) :
    s.profile.now = a.now ∧ a.supplied = true ∧ a.authorizationBinding = some s.binding ∧
      a.capabilityGrant = some s.grant ∧ a.policyDecision = some s.policy := by
  simp only [ApprovalArguments.strict?, Option.bind_eq_bind, Option.bind_eq_some_iff, Option.pure_def,
    Option.some.injEq] at h
  obtain ⟨binding, hbinding, grant, hgrant, policy, hpolicy, _, _, _, _, _, _, _, _, _, _, _, _, rfl⟩ := h
  refine ⟨rfl, ?_, hbinding, hgrant, hpolicy⟩
  simp [ApprovalArguments.supplied, hbinding]

/-- The strict path returns `True` where both validators accept. -/
theorem authorizeStrictly_eq_true {s : StrictApproval} :
    authorizeStrictly runtime a s = .ok true ↔
      Python.validateChange4AuthorizationProfile runtime.toContractRuntime s.binding s.grant s.policy s.profile true =
          .ok () ∧
        Python.validateHashBoundApproval runtime.toContractRuntime a.request a.decision s.binding s.approval =
          .ok () := by
  have hcaught : ∀ checks, caught checks = .ok true ↔ checks = .ok () := by
    intro checks
    match checks with
    | .ok () => simp [caught]
    | .error (.contract _) => simp [caught]
    | .error .typeError => simp [caught]
  rw [← profile_ok_iff, ← hashBound_ok_iff, authorizeStrictly, hcaught, strictChecks, unit_bind_eq_ok]

/-- It raises where the profile does: the decision's expiry was compared before. -/
theorem authorizeStrictly_raises {s : StrictApproval} {raised : ApprovalRaised}
    (hdecision : expiry? runtime a.decision ≠ some .naive) :
    authorizeStrictly runtime a s = .error raised ↔
      raised = .typeError ∧
        validateChange4AuthorizationProfile runtime s.binding s.grant s.policy s.profile = .error .typeError := by
  have hcaught : ∀ checks, caught checks = .error raised ↔ raised = .typeError ∧ checks = .error .typeError := by
    intro checks
    match checks with
    | .ok () => simp [caught]
    | .error (.contract _) => simp [caught]
    | .error .typeError => simp [caught, eq_comm]
  rw [authorizeStrictly, hcaught, strictChecks, bind_eq_error]
  apply and_congr_right
  intro _
  apply or_iff_left
  rintro ⟨u, -, hraises⟩
  exact hdecision (hashBound_raises hraises)

/-- After the comparison of the expiry. -/
theorem authorizeSupplied_raises {raised : ApprovalRaised} (hdecision : expiry? runtime a.decision ≠ some .naive) :
    authorizeSupplied runtime a = .error raised ↔
      raised = .typeError ∧ ∃ s, a.strict? = some s ∧
        profileBefore runtime s.binding s.grant s.policy s.profile = .ok () ∧
        ComparesNaive (expiry? runtime s.grant) (expiry? runtime s.binding) a.now := by
  unfold authorizeSupplied
  by_cases hsupplied : a.supplied = true
  · rw [if_neg (by simp [hsupplied])]
    cases hstrict : a.strict? with
    | none => simp
    | some s =>
      show authorizeStrictly runtime a s = .error raised ↔ _
      rw [authorizeStrictly_raises hdecision, profile_raises_iff, (strict?_facts hstrict).1]
      simp
  · rw [if_pos (by simpa using hsupplied)]
    constructor
    · intro h
      cases h
    · rintro ⟨-, s, hstrict, -⟩
      exact absurd (strict?_facts hstrict).2.1 hsupplied

theorem authorizeSupplied_eq_true :
    authorizeSupplied runtime a = .ok true ↔ (a.supplied = true → ∃ s, a.strict? = some s ∧
      Python.validateChange4AuthorizationProfile runtime.toContractRuntime s.binding s.grant s.policy s.profile true =
        .ok () ∧
      Python.validateHashBoundApproval runtime.toContractRuntime a.request a.decision s.binding s.approval =
        .ok ()) := by
  unfold authorizeSupplied
  by_cases hsupplied : a.supplied = true
  · rw [if_neg (by simp [hsupplied])]
    cases hstrict : a.strict? with
    | none => simp [hsupplied]
    | some s =>
      show authorizeStrictly runtime a s = .ok true ↔ _
      rw [authorizeStrictly_eq_true]
      simp [hsupplied]
  · rw [if_pos (by simpa using hsupplied)]
    simp [hsupplied]

/-- The check of two valid records raises where a comparison with an expiry without an offset is reached. -/
theorem authorize_raises {raised : ApprovalRaised} :
    authorize runtime a = .error raised ↔ raised = .typeError ∧ ReachesNaive runtime a := by
  unfold authorize ReachesNaive
  by_cases hagrees : a.agrees = true
  · rw [if_neg (by simp [hagrees])]
    cases hexpiry : expiry? runtime a.decision with
    | none => simp
    | some expiry =>
      show (do let past ← notAfter expiry a.now; if past then return false else authorizeSupplied runtime a) =
        Except.error raised ↔ _
      have hsupplied : expiry ≠ .naive →
          (authorizeSupplied runtime a = .error raised ↔ raised = .typeError ∧ ∃ s, a.strict? = some s ∧
            profileBefore runtime s.binding s.grant s.policy s.profile = .ok () ∧
            ComparesNaive (expiry? runtime s.grant) (expiry? runtime s.binding) a.now) := by
        intro hread
        apply authorizeSupplied_raises
        rw [hexpiry]
        exact fun h => hread (Option.some.inj h)
      rw [bind_eq_error]
      simp only [hagrees, true_and, Option.some.injEq, exists_eq_left']
      constructor
      · rintro (hcompare | ⟨past, hpast, hrest⟩)
        · obtain ⟨hnaive, hraised⟩ := notAfter_eq_error.mp hcompare
          exact ⟨hraised, .inl hnaive⟩
        · cases past with
          | true => cases hrest
          | false =>
            have hahead := notAfter_eq_false.mp hpast
            have hread : expiry ≠ .naive := by
              obtain ⟨instant, rfl, -⟩ := hahead
              nofun
            obtain ⟨hraised, hstrict⟩ := (hsupplied hread).mp hrest
            exact ⟨hraised, .inr ⟨hahead, hstrict⟩⟩
      · rintro ⟨hraised, hnaive | ⟨hahead, hstrict⟩⟩
        · exact .inl (notAfter_eq_error.mpr ⟨hnaive, hraised⟩)
        · have hread : expiry ≠ .naive := by
            obtain ⟨instant, rfl, -⟩ := hahead
            nofun
          exact .inr ⟨false, notAfter_eq_false.mpr hahead, (hsupplied hread).mpr ⟨hraised, hstrict⟩⟩
  · rw [if_pos (by simpa using hagrees)]
    simp [hagrees]

/-- What agrees, spelled out. -/
theorem agrees_iff : a.agrees = true ↔
    a.decision.get? "decision" = some (.str "approved") ∧
    (∀ field ∈ ["tenant_id", "approval_request_id", "case_id", "case_revision_id", "candidate_hash"],
      Python.eq (a.request.get? field) (a.decision.get? field) = true) ∧
    a.request.get? "case_revision_id" = some (.str a.currentCaseRevisionId) ∧
    ApprovalArguments.sameSet (Python.items (a.request.get? "evidence_hashes")).toList
      (Python.items (a.decision.get? "evidence_hashes")).toList = true ∧
    ApprovalArguments.sameSet (Python.items (a.request.get? "evidence_hashes")).toList
      (a.currentEvidenceHashes.map .str) = true := by
  unfold ApprovalArguments.agrees
  simp only [Bool.and_eq_true, Python.eq_text, List.forall_mem_cons, List.not_mem_nil, false_implies, implies_true,
    and_true]
  grind

/-- A check that returns `True` has found everything. -/
theorem authorize_eq_true (h : authorize runtime a = .ok true) : Authorized runtime a := by
  unfold authorize at h
  split at h
  · cases h
  · rename_i hagrees
    obtain ⟨happroved, hsame, hrevision, hevidence, hcurrent⟩ := agrees_iff.mp (by simpa using hagrees)
    cases hexpiry : expiry? runtime a.decision with
    | none =>
      rw [hexpiry] at h
      cases h
    | some expiry =>
      rw [hexpiry] at h
      obtain ⟨past, hpast, hrest⟩ := bind_eq_ok.mp h
      cases past with
      | true => cases hrest
      | false =>
        exact ⟨happroved, hsame, hrevision, hevidence, hcurrent, ⟨expiry, hexpiry, notAfter_eq_false.mp hpast⟩,
          authorizeSupplied_eq_true.mp hrest⟩

end Arguments

end Approval

/-- **The check fails closed exactly if** it reaches no comparison with an expiry that has no offset; where it
    returns `True`, it has found everything. -/
theorem approval_fails_closed_iff (runtime : ApprovalRuntime) (a : ApprovalArguments)
    (hrequest : runtime.validatePayload a.request = .ok ())
    (hdecision : runtime.validatePayload a.decision = .ok ()) :
    ((∃ answer, approvalIsAuthorized runtime a = .ok answer) ∧
        (approvalIsAuthorized runtime a = .ok true → Approval.Authorized runtime a)) ↔
      ¬ Approval.ReachesNaive runtime a := by
  have hcheck : approvalIsAuthorized runtime a = Approval.authorize runtime a := by
    unfold approvalIsAuthorized
    rw [hrequest, hdecision]
    rfl
  rw [hcheck]
  constructor
  · rintro ⟨⟨answer, hanswer⟩, -⟩ hnaive
    rw [Approval.authorize_raises.mpr ⟨rfl, hnaive⟩] at hanswer
    cases hanswer
  · intro hnaive
    refine ⟨?_, Approval.authorize_eq_true⟩
    cases hanswer : Approval.authorize runtime a with
    | ok answer => exact ⟨answer, rfl⟩
    | error raised => exact absurd (Approval.authorize_raises.mp hanswer).2 hnaive

/-! ## An expiry without an offset -/

def naiveHash : String := "0000000000000000000000000000000000000000000000000000000000000000"

def naiveRequest : JsonFields :=
  .ofList
    [("schema_id", .str approvalRequestSchema.id), ("schema_version", .str "v1"), ("tenant_id", .str "t"),
     ("approval_request_id", .str "a"), ("case_id", .str "c"), ("case_revision_id", .str "r"),
     ("candidate_hash", .str naiveHash), ("policy_decision_id", .str "p"),
     ("evidence_hashes", .arr (.strings [naiveHash])), ("created_at", .str "2026-07-29T00:00:00Z"),
     ("expires_at", .str "2026-08-01T00:00:00")]

/-- The decision expires at `2026-08-01T00:00:00`, of no zone. -/
def naiveDecision : JsonFields :=
  .ofList
    [("schema_id", .str approvalDecisionSchema.id), ("schema_version", .str "v1"), ("tenant_id", .str "t"),
     ("approval_decision_id", .str "d"), ("approval_request_id", .str "a"), ("case_id", .str "c"),
     ("case_revision_id", .str "r"), ("candidate_hash", .str naiveHash),
     ("evidence_hashes", .arr (.strings [naiveHash])), ("decision", .str "approved"),
     ("decided_at", .str "2026-07-29T00:00:00Z"), ("expires_at", .str "2026-08-01T00:00:00")]

/-- A legacy call: no record of a Change 4 authorization is supplied. -/
def naiveArguments : ApprovalArguments where
  request := naiveRequest
  decision := naiveDecision
  currentCaseRevisionId := "r"
  currentEvidenceHashes := [naiveHash]
  now := 1785283200000000
  authorizationBinding := none
  capabilityGrant := none
  policyDecision := none
  currentCheckpointId := none
  currentWorkflowVersion := none
  currentCandidateHash := none
  effectiveTenantId := none
  effectiveApproverId := none
  effectiveApproverRole := none

/-- The validator that is exactly the schemas; the one text it reads has no offset. -/
def naiveRuntime : ApprovalRuntime where
  toContractRuntime := (schemaRuntime [] (fun _ => "") (fun _ => none)).toContractRuntime
  fromisoformat text := if text = "2026-08-01T00:00:00" then some .naive else none
  reads text := by
    split <;> rfl

theorem naiveRequest_valid : naiveRuntime.validatePayload naiveArguments.request = .ok () := by decide +kernel

theorem naiveDecision_valid : naiveRuntime.validatePayload naiveArguments.decision = .ok () := by decide +kernel

theorem naive_judged :
    ((∃ answer, approvalIsAuthorized naiveRuntime naiveArguments = .ok answer) ∧
        (approvalIsAuthorized naiveRuntime naiveArguments = .ok true →
          Approval.Authorized naiveRuntime naiveArguments)) ↔
      ¬ Approval.ReachesNaive naiveRuntime naiveArguments :=
  approval_fails_closed_iff naiveRuntime naiveArguments naiveRequest_valid naiveDecision_valid

/-- Two valid records that agree, with an expiry of no zone: the check raises instead of refusing. -/
theorem naive_expiry_raises :
    naiveRuntime.validatePayload naiveArguments.request = .ok () ∧
      naiveRuntime.validatePayload naiveArguments.decision = .ok () ∧
      approvalIsAuthorized naiveRuntime naiveArguments = .error .typeError := by
  refine ⟨naiveRequest_valid, naiveDecision_valid, ?_⟩
  have hexpiry : Approval.expiry? naiveRuntime naiveArguments.decision = some .naive := by decide +kernel
  have hagrees : naiveArguments.agrees = true := by decide +kernel
  have hraises : Approval.authorize naiveRuntime naiveArguments = .error .typeError :=
    Approval.authorize_raises.mpr ⟨rfl, hagrees, .naive, hexpiry, .inl rfl⟩
  unfold approvalIsAuthorized
  rw [naiveRequest_valid, naiveDecision_valid]
  exact hraises

end WeFlow
