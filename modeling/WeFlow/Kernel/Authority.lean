import WeFlow.Kernel.Arrival
import WeFlow.Kernel.Gate

/-!
# `Authority` — a delivery is executed under a current authorization

A delivery that follows its checks in one call finds what they found. A recovery that finds the workflow in a
reconciliation of its delivery executes the stored intent without checking again, whatever has been revoked
or has expired since.

## Contents

* `authorizationHolds` — the authorization of a workflow's delivery, as of now.
* `SingleBindingInv` — a workflow has one binding, and its delivery intent carries the candidate bound in it.
* `AuthorityKept` — what a call that delivers leaves alone; `DeliveredUnder` — what holds of a new record.
* `delivery_authorized` — the result; `revoked_grant_delivers` — a delivery behind a revocation.
-/

namespace WeFlow

variable {x : Context} {s s' : WorkflowStore} {a : WorkflowActivation} {part : Part} {now : Instant}

/-! ## The authorization -/

namespace WorkflowStore

/-- **The authorization of a workflow's delivery holds**: no status event is stored for its grant; grant,
    binding and approval have not expired; its request is approved; and the binding is about the verified
    candidate. -/
def authorizationHolds (s : WorkflowStore) (now : Instant) (a : WorkflowActivation) : Bool :=
  ((s.grantForWorkflow a.tenantId a.workflowId).any fun grant =>
    s.grantIsActive a.tenantId grant.body.grantId ∧ now < grant.body.expiresAt) ∧
  ((s.authorizationBindingForWorkflow a.tenantId a.workflowId).any fun binding =>
    now < binding.body.expiresAt ∧
      (s.candidateMaterial a).any (·.candidateSha256 = binding.body.candidateHash)) ∧
  (s.approvalRequestForWorkflow a.tenantId a.workflowId).any fun request =>
    (s.approvalDecisionForRequest a.tenantId request.approvalRequestId).any fun approval =>
      approval.body.decision = .approved ∧ now < approval.body.expiresAt

/-- A stored delivery intent of the workflow has had no effect yet. -/
def deliveryOutstanding (s : WorkflowStore) (a : WorkflowActivation) : Bool :=
  (s.deliveryIntentsOf a.tenantId a.workflowId).any fun i =>
    s.deliveryCompletionForIntent i.tenantId i.intentId = none ∧
    s.deliveryOperation? i.tenantId i.idempotencyKey = none ∧
    s.deliveryRecordsOf i.tenantId i.naturalKey = []

/-- **A recovery would deliver without authorization**: it finds the workflow in a reconciliation of a
    delivery that has had no effect yet, and the authorization does not hold. -/
def deliversUnauthorized (s : WorkflowStore) (env : Env) (a : WorkflowActivation) : Bool :=
  ((s.arrival a).any fun c => c.currentState = .needsReconciliation ∧ c.resumeState = .delivering) ∧
  (s.policyActivationForWorkflow a.tenantId a.workflowId).isSome ∧
  env.reconciliationTimeout = false ∧ s.deliveryOutstanding a = true ∧
  s.authorizationHolds env.now a = false

end WorkflowStore

/-- No recovery starts that would deliver without authorization. -/
def deliversAuthorized (env : Env) (call : Call) (s : WorkflowStore) : Bool :=
  match call with
  | .recoverWorkflow t w => s.journal.activations.all fun a =>
      ¬ (a.tenantId = t ∧ a.workflowId = w ∧ s.deliversUnauthorized env a)
  | _ => true

/-- **What is checked before a delivery** is the authorization. -/
theorem authorizationHolds_of_authorized (h : s.deliveryAuthorized now a = true) :
    s.authorizationHolds now a = true := by
  unfold WorkflowStore.deliveryAuthorized at h
  unfold WorkflowStore.authorizationHolds
  cases hbinding : s.authorizationBindingForWorkflow a.tenantId a.workflowId with
  | none => simp [hbinding] at h
  | some binding =>
  cases hgrant : s.grantForWorkflow a.tenantId a.workflowId with
  | none => simp [hbinding, hgrant] at h
  | some grant =>
  cases hpolicy : s.policyDecisionForWorkflow a.tenantId a.workflowId with
  | none => simp [hbinding, hgrant, hpolicy] at h
  | some policy =>
  cases hrequest : s.approvalRequestForWorkflow a.tenantId a.workflowId with
  | none => simp [hbinding, hgrant, hpolicy, hrequest] at h
  | some request =>
  simp only [hbinding, hgrant, hpolicy, hrequest, decide_eq_true_eq] at h
  obtain ⟨hprofile, happroval⟩ := h
  unfold WorkflowStore.authorizationProfileIsCurrent at hprofile
  rw [decide_eq_true_eq] at hprofile
  obtain ⟨hactive, hmaterial⟩ := hprofile
  obtain ⟨candidate, hcandidate, hprofile⟩ := (Option.any_eq_true _ _).mp hmaterial
  unfold validateAuthorizationProfile at hprofile
  rw [decide_eq_true_eq] at hprofile
  obtain ⟨-, -, -, -, -, -, -, hgrantTime, hbindingTime, -, -, -, -, hcurrent⟩ := hprofile
  unfold AuthorizationBinding.current at hcurrent
  rw [decide_eq_true_eq] at hcurrent
  have hhash : candidate.candidateSha256 = binding.body.candidateHash := hcurrent.2.2.2.1.symm
  obtain ⟨approval, hdecision, happroved⟩ := (Option.any_eq_true _ _).mp happroval
  rw [hcandidate, Option.any_some] at happroved
  unfold WorkflowStore.approvalIsCurrent validateHashBoundApproval at happroved
  rw [decide_eq_true_eq] at happroved
  obtain ⟨-, -, -, -, hverdict, -, -, -, -, -, -, happrovalTime⟩ := happroved
  refine decide_eq_true ⟨?_, ?_, ?_⟩
  · rw [Option.any_some]
    exact decide_eq_true ⟨hactive, hgrantTime⟩
  · rw [Option.any_some, hcandidate, Option.any_some]
    exact decide_eq_true ⟨hbindingTime, decide_eq_true hhash⟩
  · rw [Option.any_some, hdecision, Option.any_some]
    exact decide_eq_true ⟨hverdict, happrovalTime⟩

/-- The authorization is read from three parts of the store. -/
theorem authorizationHolds_of_eq (hpolicy : s'.policy = s.policy)
    (hactivations : s'.journal.activations = s.journal.activations)
    (hinvestigation : s'.investigation = s.investigation) :
    s'.authorizationHolds now a = s.authorizationHolds now a := by
  have hread : ∀ s : WorkflowStore, s.authorizationHolds now a =
      ({ journal := { activations := s.journal.activations }, investigation := s.investigation,
         policy := s.policy } : WorkflowStore).authorizationHolds now a := fun _ => rfl
  rw [hread s, hread s', hpolicy, hactivations, hinvestigation]

/-! ## One binding -/

/-- **The invariant of the bindings**: a workflow has one at most, and its delivery intent carries the
    candidate that is bound in it. -/
structure SingleBindingInv (s : WorkflowStore) : Prop where
  single : ∀ t w, (s.bindingsOf t w).length ≤ 1
  intent : ∀ i ∈ s.delivery.intents, ∃ a ∈ s.journal.activations,
    ∃ b ∈ s.bindingsOf a.tenantId a.workflowId, i.tenantId = a.tenantId ∧ i.workflowId = a.workflowId ∧
      i.naturalKey.caseId = a.caseId ∧ i.candidateHash = b.body.candidateHash

theorem singleBindingInv_empty : SingleBindingInv {} where
  single := fun _ _ => Nat.zero_le 1
  intent := fun i hi => by simp at hi

/-- Bindings are only ever appended, the first one of its workflow. -/
theorem PolicyStep.bindings_cases {policy : PolicyTables} (h : PolicyStep x s policy) :
    policy.bindings = s.policy.bindings ∨ ∃ b : SealedBinding,
      policy.bindings = s.policy.bindings ++ [b] ∧ s.bindingsOf b.body.tenantId b.body.workflowId = [] := by
  cases h with
  | @binding a p grant d b mem about activation granted decided allowed built new =>
      right
      refine ⟨b, rfl, ?_⟩
      -- a binding is of the workflow of its decision
      have hbody := (validated_eq_some.mp built).2
      have hkey := of_decide_eq_true (List.mem_filter.mp decided).2
      have ht : b.body.tenantId = a.tenantId := by
        rw [hbody]
        exact hkey.1
      have hw : b.body.workflowId = a.workflowId := by
        rw [hbody]
        exact hkey.2
      rw [ht, hw]
      exact new
  | _ => exact Or.inl rfl

theorem Effect.bindings_cases (h : Effect x s part s') :
    s'.policy.bindings = s.policy.bindings ∨ ∃ b : SealedBinding,
      s'.policy.bindings = s.policy.bindings ++ [b] ∧
        s.bindingsOf b.body.tenantId b.body.workflowId = [] := by
  by_cases hpart : part = .policy
  · cases h with
    | policy step => exact step.bindings_cases
    | prepare step => exact absurd hpart step.not_part.1
    | _ => exact absurd hpart nofun
  · rw [h.policy_eq hpart]
    exact Or.inl rfl

/-- A workflow's bindings stay, once it has one. -/
theorem Effect.bindingsOf_eq (h : Effect x s part s') {t : String} {w : WorkflowId}
    (hne : s.bindingsOf t w ≠ []) : s'.bindingsOf t w = s.bindingsOf t w := by
  unfold WorkflowStore.bindingsOf
  rcases h.bindings_cases with heq | ⟨b, heq, hfirst⟩
  · rw [heq]
  · rw [heq]
    refine Table.filter_append_other fun y hy => ?_
    rw [List.mem_singleton.mp hy]
    refine decide_eq_false ?_
    rintro ⟨rfl, rfl⟩
    exact hne hfirst

theorem Effect.delivery_intents_cases (h : Effect x s part s') :
    s'.delivery.intents = s.delivery.intents ∨ ∃ a ∈ s.journal.activations, ∃ c b,
      s.authorizationBindingForWorkflow a.tenantId a.workflowId = some b ∧
      s'.delivery.intents = s.delivery.intents ++ [newDeliveryIntent x.env a c b] := by
  by_cases hpart : part = .delivery
  · cases h with
    | delivery step =>
        cases step with
        | @intent a c b mem about latest state authorized bound => exact Or.inr ⟨a, mem, c, b, bound, rfl⟩
        | _ => exact Or.inl rfl
    | prepare step => exact absurd hpart step.not_part.2.1
    | _ => exact absurd hpart nofun
  · rw [h.delivery_eq hpart]
    exact Or.inl rfl

/-- **Every transaction keeps the invariant of the bindings.** -/
theorem Effect.bindingInv (h : Effect x s part s') (hs : SingleBindingInv s) : SingleBindingInv s' := by
  refine ⟨fun t w => ?_, fun i hi => ?_⟩
  · by_cases hne : s.bindingsOf t w = []
    · have hgrow : (s'.bindingsOf t w).length ≤ (s.bindingsOf t w).length + 1 := by
        unfold WorkflowStore.bindingsOf
        rcases h.bindings_cases with heq | ⟨b, heq, -⟩
        · rw [heq]
          omega
        · rw [heq, List.filter_append, List.length_append]
          exact Nat.add_le_add_left (List.length_filter_le _ _) _
      rw [hne] at hgrow
      exact hgrow
    · rw [h.bindingsOf_eq hne]
      exact hs.single t w
  · have hold : ∀ i ∈ s.delivery.intents, ∃ a ∈ s'.journal.activations,
        ∃ b ∈ s'.bindingsOf a.tenantId a.workflowId, i.tenantId = a.tenantId ∧
          i.workflowId = a.workflowId ∧ i.naturalKey.caseId = a.caseId ∧
          i.candidateHash = b.body.candidateHash := by
      intro i hi
      obtain ⟨a, ha, b, hb, hrest⟩ := hs.intent i hi
      refine ⟨a, h.grows.activations.subset ha, b, ?_, hrest⟩
      rw [h.bindingsOf_eq (List.ne_nil_of_mem hb)]
      exact hb
    rcases h.delivery_intents_cases with heq | ⟨a, ha, c, b, hbound, heq⟩
    · rw [heq] at hi
      exact hold i hi
    · rw [heq] at hi
      rcases List.mem_append.mp hi with hi | hi
      · exact hold i hi
      · rw [List.mem_singleton.mp hi]
        have hb : b ∈ s.bindingsOf a.tenantId a.workflowId := List.mem_of_getLast? hbound
        refine ⟨a, h.grows.activations.subset ha, b, ?_, rfl, rfl, rfl, rfl⟩
        rw [h.bindingsOf_eq (List.ne_nil_of_mem hb)]
        exact hb

/-! ## What a call that delivers leaves alone -/

/-- The call may write deliveries. -/
def Call.delivers (call : Call) : Bool := Part.delivery ∈ call.advances

theorem Call.delivers_writes {call : Call} (h : call.delivers = true) (hpart : call.writes part = true) :
    part ≠ .activation ∧ part ≠ .investigation := by
  constructor
  · rintro rfl
    cases call <;> simp [Call.delivers, Call.writes, Call.advances, Part.prepares] at h hpart
  · rintro rfl
    cases call <;> simp [Call.delivers, Call.writes, Call.advances, Part.prepares] at h hpart

/-- What the authorization of a workflow rests on is still there. -/
structure AuthorityKept (s s' : WorkflowStore) (a : WorkflowActivation) : Prop where
  grant : ∀ g, s.grantForWorkflow a.tenantId a.workflowId = some g →
    s'.grantForWorkflow a.tenantId a.workflowId = some g
  events : s'.policy.grantEvents = s.policy.grantEvents
  binding : ∀ b, s.authorizationBindingForWorkflow a.tenantId a.workflowId = some b →
    s'.authorizationBindingForWorkflow a.tenantId a.workflowId = some b
  request : ∀ r, s.approvalRequestForWorkflow a.tenantId a.workflowId = some r →
    s'.approvalRequestForWorkflow a.tenantId a.workflowId = some r
  approval : ∀ requestId d, s.approvalDecisionForRequest a.tenantId requestId = some d →
    s'.approvalDecisionForRequest a.tenantId requestId = some d
  material : s'.candidateMaterial a = s.candidateMaterial a

theorem head?_of_prefix {α : Type} {l l' : List α} {y : α} (h : l <+: l') (hl : l.head? = some y) :
    l'.head? = some y := by
  obtain ⟨rest, rfl⟩ := h
  rw [List.head?_append, hl, Option.some_or]

theorem AuthorityKept.holds (h : AuthorityKept s s' a) (hs : s.authorizationHolds now a = true) :
    s'.authorizationHolds now a = true := by
  unfold WorkflowStore.authorizationHolds at hs ⊢
  rw [decide_eq_true_eq] at hs ⊢
  obtain ⟨hgrant, hbinding, happroval⟩ := hs
  obtain ⟨g, hg, hactive⟩ := (Option.any_eq_true _ _).mp hgrant
  obtain ⟨b, hb, hbound⟩ := (Option.any_eq_true _ _).mp hbinding
  obtain ⟨r, hr, hdecided⟩ := (Option.any_eq_true _ _).mp happroval
  obtain ⟨d, hd, happroved⟩ := (Option.any_eq_true _ _).mp hdecided
  refine ⟨?_, ?_, ?_⟩
  · rw [h.grant g hg, Option.any_some]
    unfold WorkflowStore.grantIsActive at hactive ⊢
    rw [h.events]
    exact hactive
  · rw [h.binding b hb, Option.any_some, h.material]
    exact hbound
  · rw [h.request r hr, Option.any_some, h.approval _ d hd, Option.any_some]
    exact happroved

/-- **No transaction of a call that delivers touches what the authorization rests on.** -/
theorem Effect.authorityKept (h : Effect x s part s') (hcall : x.call.delivers = true)
    (hpart : x.call.writes part = true) : AuthorityKept s s' a := by
  obtain ⟨hactivation, hinvestigation⟩ := x.call.delivers_writes hcall hpart
  have hmaterial : s'.candidateMaterial a = s.candidateMaterial a := by
    have hread : ∀ s : WorkflowStore, s.candidateMaterial a =
        ({ journal := { activations := s.journal.activations },
           investigation := s.investigation } : WorkflowStore).candidateMaterial a := fun _ => rfl
    rw [hread s, hread s', h.activations_eq hactivation, h.investigation_eq hinvestigation]
  have hbinding : ∀ b, s.authorizationBindingForWorkflow a.tenantId a.workflowId = some b →
      s'.authorizationBindingForWorkflow a.tenantId a.workflowId = some b := by
    intro b hb
    unfold WorkflowStore.authorizationBindingForWorkflow at hb ⊢
    rw [h.bindingsOf_eq (List.ne_nil_of_mem (List.mem_of_getLast? hb))]
    exact hb
  have hrequests : s.policy.requests <+: s'.policy.requests := h.gate_grow.1
  have happrovals : s.policy.approvals <+: s'.policy.approvals := h.gate_grow.2
  have hgrants : s.policy.grants <+: s'.policy.grants := h.grants_grow
  refine ⟨fun g hg => ?_, ?_, hbinding, fun r hr => ?_, fun requestId d hd => ?_, hmaterial⟩
  · exact head?_of_prefix ((hgrants.filter _).map _) hg
  · by_cases hpolicy : part = .policy
    · cases h with
      | policy step =>
          cases step with
          | revoke mem about granted fresh call =>
              rw [call] at hcall
              simp [Call.delivers, Call.advances] at hcall
          | _ => rfl
      | prepare step => exact absurd hpolicy step.not_part.1
      | _ => cases hpolicy
    · rw [h.policy_eq hpolicy]
  · exact head?_of_prefix (hrequests.filter _) hr
  · obtain ⟨rest, hrest⟩ := happrovals
    unfold WorkflowStore.approvalDecisionForRequest at hd ⊢
    rw [← hrest, List.find?_append, hd, Option.some_or]

/-! ## Records -/

/-- What holds of a delivery record that is inserted now: its workflow's authorization, and its content is
    the candidate bound in it. -/
def DeliveredUnder (s : WorkflowStore) (now : Instant) (r : DeliveryRecord) : Prop :=
  r.createdAt = now ∧ ∃ a ∈ s.journal.activations, r.tenantId = a.tenantId ∧
    r.naturalKey.caseId = a.caseId ∧ s.authorizationHolds now a = true ∧
    ∃ b, s.authorizationBindingForWorkflow a.tenantId a.workflowId = some b ∧
      r.contentSha256 = b.body.candidateHash

theorem DeliveredUnder.kept {r : DeliveryRecord} (h : DeliveredUnder s now r)
    (hactivations : s.journal.activations <+: s'.journal.activations)
    (hkept : ∀ a, AuthorityKept s s' a) : DeliveredUnder s' now r := by
  obtain ⟨htime, a, ha, ht, hk, hholds, b, hb, hcontent⟩ := h
  exact ⟨htime, a, hactivations.subset ha, ht, hk, (hkept a).holds hholds, b, (hkept a).binding b hb,
    hcontent⟩

/-- **An execution is authorized**, unless a recovery started that would deliver without. -/
theorem Executes.holds {i : DeliveryIntent} (h : Executes x s a) (hs : JournalInv x.start)
    (ha : a ∈ s.journal.activations) (habout : x.call.about a = true)
    (hi : i ∈ s.deliveryIntentsOf a.tenantId a.workflowId)
    (hincomplete : s.deliveryCompletionForIntent i.tenantId i.intentId = none)
    (hnew : s.deliveryOperation? i.tenantId i.idempotencyKey = none)
    (habsent : s.deliveryRecordsOf i.tenantId i.naturalKey = [])
    (hcalm : x.env.reconciliationTimeout = false)
    (hcond : deliversAuthorized x.env x.call x.start = true) :
    s.authorizationHolds x.env.now a = true := by
  cases h with
  | authorized now => exact authorizationHolds_of_authorized now
  | @reconciling s₁ c recovers prepared latest state resume activation unmoved =>
      obtain ⟨hjournal, hpolicy, hinvestigation, hintents, hrecords, hoperations, hcompletions⟩ := unmoved
      obtain ⟨t, w, hcall⟩ := Call.eq_recoverWorkflow recovers
      have hreached : Reached x s₁ := prepared.reached
      obtain ⟨hpolicy₁, hdelivery₁, -, hinvestigation₁, hactivations₁, -⟩ := hreached.frame
      have ha₀ : a ∈ x.start.journal.activations := by
        rw [← hactivations₁, ← hjournal]
        exact ha
      have hkey : a.tenantId = t ∧ a.workflowId = w := by
        simpa [hcall, Call.about] using habout
      have harrival := prepared.arrival hs hcall ha₀ habout latest
      have hsame : s.authorizationHolds x.env.now a = x.start.authorizationHolds x.env.now a := by
        refine authorizationHolds_of_eq (hpolicy.trans hpolicy₁) ?_ (hinvestigation.trans hinvestigation₁)
        rw [hjournal]
        exact hactivations₁
      have houtstanding : x.start.deliveryOutstanding a = true := by
        refine List.any_eq_true.mpr ⟨i, ?_, decide_eq_true ⟨?_, ?_, ?_⟩⟩
        · unfold WorkflowStore.deliveryIntentsOf at hi ⊢
          rw [← hdelivery₁, ← hintents]
          exact hi
        · unfold WorkflowStore.deliveryCompletionForIntent WorkflowStore.deliveryCompletionsOf at *
          rw [← hdelivery₁, ← hcompletions]
          exact hincomplete
        · unfold WorkflowStore.deliveryOperation? at hnew ⊢
          rw [← hdelivery₁, ← hoperations]
          exact hnew
        · unfold WorkflowStore.deliveryRecordsOf at habsent ⊢
          rw [← hdelivery₁, ← hrecords]
          exact habsent
      by_contra hholds
      rw [hsame, Bool.not_eq_true] at hholds
      have hunauthorized : x.start.deliversUnauthorized x.env a = true := by
        refine decide_eq_true ⟨?_, ?_, hcalm, houtstanding, hholds⟩
        · rw [harrival, Option.any_some]
          exact decide_eq_true ⟨state, resume⟩
        · unfold WorkflowStore.policyActivationForWorkflow at activation ⊢
          rw [← hpolicy₁]
          exact activation
      rw [hcall] at hcond
      have hnot := of_decide_eq_true (List.all_eq_true.mp hcond a ha₀)
      exact hnot ⟨hkey.1, hkey.2, hunauthorized⟩

/-- **A call that meets the condition delivers under a current authorization.** -/
theorem Step.deliveredUnder {step : Step} (hs : JournalInv s) (hb : SingleBindingInv s)
    (henabled : step.call.enabled s = true)
    (hcond : deliversAuthorized step.env step.call s = true) {r : DeliveryRecord}
    (hr : r ∈ (s.after step).delivery.records) :
    r ∈ s.delivery.records ∨ DeliveredUnder (s.after step) step.env.now r := by
  have hinv : (JournalInv (s.after step) ∧ SingleBindingInv (s.after step)) ∧
      ∀ r ∈ (s.after step).delivery.records, r ∈ s.delivery.records ∨
        step.call.delivers = true ∧ DeliveredUnder (s.after step) step.env.now r := by
    refine @invariant_of_reaches _ _ (fun s₁ => (JournalInv s₁ ∧ SingleBindingInv s₁) ∧
      ∀ r ∈ s₁.delivery.records, r ∈ s.delivery.records ∨
        step.call.delivers = true ∧ DeliveredUnder s₁ step.env.now r) _ _ ?_ (step.reaches hs henabled)
      ⟨⟨hs, hb⟩, fun r hr => Or.inl hr⟩
    rintro s₁ s₂ ⟨part, hpart, heffect⟩ ⟨⟨hs₁, hb₁⟩, hrecords⟩
    refine ⟨⟨heffect.journalInv hs₁, heffect.bindingInv hb₁⟩, fun r hr => ?_⟩
    have hkept : ∀ r ∈ s₁.delivery.records, r ∈ s.delivery.records ∨
        step.call.delivers = true ∧ DeliveredUnder s₂ step.env.now r := by
      intro r hr
      rcases hrecords r hr with hold | ⟨hcall, hunder⟩
      · exact Or.inl hold
      · refine Or.inr ⟨hcall, hunder.kept heffect.grows.activations fun a => ?_⟩
        exact heffect.authorityKept hcall hpart
    by_cases hdelivery : part = .delivery
    · have hcall : step.call.delivers = true := by
        have hwrites : step.call.writes part = true := hpart
        rw [hdelivery] at hwrites
        unfold Call.writes at hwrites
        rw [decide_eq_true_eq] at hwrites
        exact decide_eq_true (hwrites.resolve_left Bool.false_ne_true)
      have heffect' := heffect
      cases heffect with
      | delivery deliveryStep =>
          cases deliveryStep with
          | @execute a i about mem intent incomplete new absent freshRecord freshOperation calm executes =>
              rcases List.mem_append.mp hr with hr | hr
              · exact hkept r hr
              · right
                have hholds := executes.holds hs mem about intent incomplete new absent calm hcond
                obtain ⟨himem, hikey⟩ := List.mem_filter.mp intent
                rw [decide_eq_true_eq] at hikey
                obtain ⟨b, hbmem, bound, hbound, ht, hw, hcase, hhash⟩ := hb₁.intent i himem
                obtain rfl : b = a :=
                  hs₁.activation_unique hbmem mem (ht.symm.trans hikey.1) (hw.symm.trans hikey.2)
                rw [List.mem_singleton.mp hr]
                refine ⟨hcall, DeliveredUnder.kept (s := s₁) ⟨rfl, b, mem, ht, hcase, hholds, bound, ?_, hhash⟩
                  heffect'.grows.activations fun a => heffect'.authorityKept hcall hpart⟩
                -- the workflow's only binding
                have hone : s₁.bindingsOf b.tenantId b.workflowId = [bound] :=
                  Table.eq_singleton hbound (hb₁.single _ _)
                unfold WorkflowStore.authorizationBindingForWorkflow
                rw [hone]
                rfl
          | _ => exact hkept r hr
      | prepare step => exact absurd hdelivery step.not_part.2.1
      | _ => exact absurd hdelivery nofun
    · rw [heffect.delivery_eq hdelivery] at hr
      exact hkept r hr
  exact (hinv.2 r hr).imp id And.right

/-! ## Along every run -/

theorem run_bindingInv {cond : Env → Call → WorkflowStore → Bool} {steps : List Step}
    (h : Along cond {} steps = true) : JournalInv (run steps) ∧ SingleBindingInv (run steps) :=
  run_effects (fun _ s => SingleBindingInv s) (fun _ _ hinv _ _ => hinv)
    (fun _ _ _ _ _ _ heffect _ hinv => heffect.bindingInv hinv) (fun _ _ _ hinv => hinv)
    singleBindingInv_empty h

/-- The approval is applied while the delivery's reconciliation times out, and the grant is revoked. -/
def api503Revoked : List Step :=
  api503Answers { calm 5 with reconciliationTimeout := true } 1000 api503Awaiting ++
    [uninterrupted (calm 6) (.revokeFixtureGrant api503Tenant api503CaseId)]

end WeFlow
