import WeFlow.Kernel.Closure.Deliveries
import WeFlow.Kernel.Exactly

/-!
# `Policy` — the journal's policy chain is accepted, but for a second decision

What `_validate_change4_source` asks of activation, grant, decision, binding, request and approval holds of
every journal that the kernel writes, with one exception: a recovery evaluates the policy again, and stores a
second decision when the grant has been revoked since.

## Contents

* `PolicyRows` — what each row of the policy tables repeats of the rows it follows from.
* `Effect.policyRows` — every transaction keeps the rows.
* `PolicyRows.validateChange4Source_iff` — the check of the journal.
-/

namespace WeFlow

open Txn

variable {x : Context} {s s' : WorkflowStore} {a : WorkflowActivation} {part : Part}

/-! ## The rows -/

/-- The states that need the whole policy chain. -/
def WorkflowState.needsChain : WorkflowState → Bool
  | .awaitingApproval | .delivering | .deliveryRecorded => true
  | _ => false

/-- What a policy activation repeats of its workflow and of a checkpoint. -/
structure PolicyActivationRow (s : WorkflowStore) (a : WorkflowActivation) (p : PolicyActivation) :
    Prop where
  owner : p.tenantId = a.tenantId ∧ p.workflowId = a.workflowId
  case : p.caseId = a.caseId ∧ p.caseRevisionId = a.caseRevisionId
  checkpoint : ∃ c ∈ s.checkpointRows a.tenantId a.workflowId, c.payload.checkpointId = p.sourceCheckpointId
  resource : p.deliveryResourceId = api503DeliveryResourceId ∧ p.dataClassification = .synthetic
  evidence : p.evidenceHashes ≠ []

/-- A grant is issued to a workflow with a policy activation. -/
structure GrantIssued (s : WorkflowStore) (a : WorkflowActivation) (g : GrantRow) : Prop where
  owner : g.tenantId = a.tenantId ∧ g.workflowId = a.workflowId
  activated : s.policyActivationsOf a.tenantId a.workflowId ≠ []
  valid : grantSourceValid a g.grant = true

/-- A decision is about the activation's checkpoint. -/
structure DecisionRow (s : WorkflowStore) (a : WorkflowActivation) (d : SealedDecision) : Prop where
  owner : d.body.tenantId = a.tenantId ∧ d.body.workflowId = a.workflowId
  decided : ∃ p ∈ s.policyActivationsOf a.tenantId a.workflowId, decisionSourceValid a p d = true

/-- A binding is built from a grant and an allowing decision of its workflow. -/
structure BindingRow (s : WorkflowStore) (a : WorkflowActivation) (b : SealedBinding) : Prop where
  owner : b.body.tenantId = a.tenantId ∧ b.body.workflowId = a.workflowId
  built : ∃ g ∈ s.grantsOf a.tenantId a.workflowId, ∃ d ∈ s.decisionsOf a.tenantId a.workflowId,
    d.body.decision = .allow ∧ ∃ budget expiresAt now, bindFixtureAuthorization d g budget expiresAt now = some b

/-- A request is built from a binding of its workflow. -/
structure RequestRow (s : WorkflowStore) (a : WorkflowActivation) (r : ApprovalRequest) : Prop where
  owner : r.tenantId = a.tenantId ∧ r.workflowId = a.workflowId
  built : ∃ b ∈ s.bindingsOf a.tenantId a.workflowId, ∃ now, buildApprovalRequest b now = some r

/-- An approval is built from a request of its workflow. -/
structure ApprovalRow (s : WorkflowStore) (a : WorkflowActivation) (d : SealedApproval) : Prop where
  owner : d.body.tenantId = a.tenantId ∧ d.body.workflowId = a.workflowId
  built : ∃ r ∈ s.requestsOf a.tenantId a.workflowId, ∃ approverId approverRole verdict now,
    buildApprovalDecision r approverId approverRole verdict now = some d

/-- What a binding, a request and an approval name of the rows they are built from. -/
theorem BindingRow.grant {b : SealedBinding} (h : BindingRow s a b) :
    ∃ g ∈ s.grantsOf a.tenantId a.workflowId, b.body.grantId = g.body.grantId := by
  obtain ⟨g, hg, d, -, -, budget, expiresAt, now, hbuilt⟩ := h.built
  refine ⟨g, hg, ?_⟩
  rw [(validated_eq_some.mp hbuilt).2]
  rfl

theorem BindingRow.decision {b : SealedBinding} (h : BindingRow s a b) :
    ∃ d ∈ s.decisionsOf a.tenantId a.workflowId, b.body.policyDecisionId = d.body.policyDecisionId := by
  obtain ⟨g, -, d, hd, -, budget, expiresAt, now, hbuilt⟩ := h.built
  refine ⟨d, hd, ?_⟩
  rw [(validated_eq_some.mp hbuilt).2]
  rfl

theorem RequestRow.binding {r : ApprovalRequest} (h : RequestRow s a r) :
    validateApprovalRequest r = true ∧
    ∃ b ∈ s.bindingsOf a.tenantId a.workflowId, r.authorizationBindingSha256 = b.hash := by
  obtain ⟨b, hb, now, hbuilt⟩ := h.built
  obtain ⟨hvalid, hr⟩ := validated_eq_some.mp hbuilt
  refine ⟨hr ▸ hvalid, b, hb, ?_⟩
  rw [hr]

theorem ApprovalRow.request {d : SealedApproval} (h : ApprovalRow s a d) :
    validateApprovalDecision d = true ∧ d.intact = true ∧
    ∃ r ∈ s.requestsOf a.tenantId a.workflowId, d.body.approvalRequestId = r.approvalRequestId := by
  obtain ⟨r, hr, approverId, approverRole, verdict, now, hbuilt⟩ := h.built
  obtain ⟨hvalid, hd⟩ := validated_eq_some.mp hbuilt
  rw [← hd] at hvalid
  refine ⟨hvalid, ?_, r, hr, ?_⟩
  · rw [hd]
    exact Sealed.intact_of _
  · rw [hd]
    rfl

/-- **The rows of policy tables**, as the store has the rows they follow from. -/
structure PolicyRows (s : WorkflowStore) (p : PolicyTables) : Prop where
  activations : Table.Distinct PolicyActivation.clash p.activations
  grants : ∀ t w, (p.grants.filter fun g => g.tenantId = t ∧ g.workflowId = w).length ≤ 1
  activation : ∀ q ∈ p.activations, ∃ a ∈ s.journal.activations, PolicyActivationRow s a q
  grant : ∀ g ∈ p.grants, ∃ a ∈ s.journal.activations, GrantIssued s a g
  decision : ∀ d ∈ p.decisions, ∃ a ∈ s.journal.activations, DecisionRow s a d
  binding : ∀ b ∈ p.bindings, ∃ a ∈ s.journal.activations, BindingRow s a b
  request : ∀ r ∈ p.requests, ∃ a ∈ s.journal.activations, RequestRow s a r
  approval : ∀ d ∈ p.approvals, ∃ a ∈ s.journal.activations, ApprovalRow s a d

theorem policyRows_empty : PolicyRows {} {} where
  activations := Table.distinct_nil _
  grants := fun _ _ => Nat.zero_le 1
  activation := fun p hp => by simp at hp
  grant := fun g hg => by simp at hg
  decision := fun d hd => by simp at hd
  binding := fun b hb => by simp at hb
  request := fun r hr => by simp at hr
  approval := fun d hd => by simp at hd

/-! ## Rows are only ever appended -/

/-- The policy tables have grown. -/
structure PolicyGrows (p q : PolicyTables) : Prop where
  activations : p.activations <+: q.activations
  grants : p.grants <+: q.grants
  grantEvents : p.grantEvents <+: q.grantEvents
  decisions : p.decisions <+: q.decisions
  bindings : p.bindings <+: q.bindings
  requests : p.requests <+: q.requests
  approvals : p.approvals <+: q.approvals

theorem PolicyGrows.refl (p : PolicyTables) : PolicyGrows p p :=
  ⟨List.prefix_rfl, List.prefix_rfl, List.prefix_rfl, List.prefix_rfl, List.prefix_rfl, List.prefix_rfl,
    List.prefix_rfl⟩

theorem PolicyGrows.trans {p q r : PolicyTables} (h : PolicyGrows p q) (h' : PolicyGrows q r) : PolicyGrows p r :=
  ⟨h.activations.trans h'.activations, h.grants.trans h'.grants, h.grantEvents.trans h'.grantEvents,
    h.decisions.trans h'.decisions, h.bindings.trans h'.bindings, h.requests.trans h'.requests,
    h.approvals.trans h'.approvals⟩

theorem PolicyStep.policyGrows {policy : PolicyTables} (h : PolicyStep x s policy) :
    PolicyGrows s.policy policy := by
  have hrefl := PolicyGrows.refl s.policy
  cases h with
  | activation => exact { hrefl with activations := List.prefix_append _ _ }
  | grant => exact { hrefl with grants := List.prefix_append _ _ }
  | decision => exact { hrefl with decisions := List.prefix_append _ _ }
  | binding => exact { hrefl with bindings := List.prefix_append _ _ }
  | request => exact { hrefl with requests := List.prefix_append _ _ }
  | approval => exact { hrefl with approvals := List.prefix_append _ _ }
  | revoke => exact { hrefl with grantEvents := List.prefix_append _ _ }

theorem Effect.policyGrows (h : Effect x s part s') : PolicyGrows s.policy s'.policy := by
  by_cases hpart : part = .policy
  · cases h with
    | policy step => exact step.policyGrows
    | prepare step => exact absurd hpart step.not_part.1
    | _ => exact absurd hpart nofun
  · rw [h.policy_eq hpart]
    exact PolicyGrows.refl _

theorem PolicyGrows.policyActivationsOf (h : PolicyGrows s.policy s'.policy) (t : String) (w : WorkflowId) :
    s.policyActivationsOf t w <+: s'.policyActivationsOf t w := h.activations.filter _

theorem PolicyGrows.grantsOf (h : PolicyGrows s.policy s'.policy) (t : String) (w : WorkflowId) :
    s.grantsOf t w <+: s'.grantsOf t w := (h.grants.filter _).map _

theorem PolicyGrows.decisionsOf (h : PolicyGrows s.policy s'.policy) (t : String) (w : WorkflowId) :
    s.decisionsOf t w <+: s'.decisionsOf t w := h.decisions.filter _

theorem PolicyGrows.bindingsOf (h : PolicyGrows s.policy s'.policy) (t : String) (w : WorkflowId) :
    s.bindingsOf t w <+: s'.bindingsOf t w := h.bindings.filter _

theorem PolicyGrows.requestsOf (h : PolicyGrows s.policy s'.policy) (t : String) (w : WorkflowId) :
    s.requestsOf t w <+: s'.requestsOf t w := h.requests.filter _

theorem ne_nil_of_prefix {α : Type} {l l' : List α} (h : l <+: l') (hl : l ≠ []) : l' ≠ [] := by
  rintro rfl
  exact hl (List.prefix_nil.mp h)

/-! ## One transaction -/

/-- What the rows follow from stays. -/
theorem PolicyRows.mono {p : PolicyTables} (hr : PolicyRows s p) (hg : Grows s s')
    (hp : PolicyGrows s.policy s'.policy) : PolicyRows s' p := by
  have hmono : ∀ {P Q : WorkflowActivation → Prop}, (∃ a ∈ s.journal.activations, P a) →
      (∀ a, P a → Q a) → ∃ a ∈ s'.journal.activations, Q a := by
    rintro P Q ⟨a, ha, hrow⟩ hPQ
    exact ⟨a, hg.activations.subset ha, hPQ a hrow⟩
  refine { hr with activation := fun q hq => hmono (hr.activation q hq) fun a hrow => ?_,
                   grant := fun g hgm => hmono (hr.grant g hgm) fun a hrow => ?_,
                   decision := fun d hd => hmono (hr.decision d hd) fun a hrow => ?_,
                   binding := fun b hb => hmono (hr.binding b hb) fun a hrow => ?_,
                   request := fun r hrm => hmono (hr.request r hrm) fun a hrow => ?_,
                   approval := fun d hd => hmono (hr.approval d hd) fun a hrow => ?_ }
  · obtain ⟨c, hc, hid⟩ := hrow.checkpoint
    exact { hrow with checkpoint := ⟨c, (hg.checkpoints.filter _).subset hc, hid⟩ }
  · exact { hrow with activated := ne_nil_of_prefix (hp.policyActivationsOf _ _) hrow.activated }
  · obtain ⟨q, hq, hvalid⟩ := hrow.decided
    exact { hrow with decided := ⟨q, (hp.policyActivationsOf _ _).subset hq, hvalid⟩ }
  · obtain ⟨g, hgm, d, hd, hbuilt⟩ := hrow.built
    exact { hrow with built := ⟨g, (hp.grantsOf _ _).subset hgm, d, (hp.decisionsOf _ _).subset hd, hbuilt⟩ }
  · obtain ⟨b, hb, hbuilt⟩ := hrow.built
    exact { hrow with built := ⟨b, (hp.bindingsOf _ _).subset hb, hbuilt⟩ }
  · obtain ⟨r, hrm, hbuilt⟩ := hrow.built
    exact { hrow with built := ⟨r, (hp.requestsOf _ _).subset hrm, hbuilt⟩ }

theorem policyActivationForWorkflow_mem {p : PolicyActivation}
    (h : s.policyActivationForWorkflow a.tenantId a.workflowId = some p) :
    p ∈ s.policyActivationsOf a.tenantId a.workflowId := by
  unfold WorkflowStore.policyActivationForWorkflow at h
  have hkey := List.find?_some h
  exact List.mem_filter.mpr ⟨List.mem_of_find?_eq_some h, hkey⟩

/-- **Every transaction on the policy tables keeps the rows.** -/
theorem PolicyStep.policyRows {policy : PolicyTables} (h : PolicyStep x s policy)
    (hr : PolicyRows s s.policy) : PolicyRows { s with policy } policy := by
  have hbase : PolicyRows { s with policy } s.policy :=
    hr.mono { Grows.refl s with } h.policyGrows
  cases h with
  | @activation a c candidate mem about latest state tenant material new fresh =>
      obtain ⟨hcmem, hct, hcw⟩ := WorkflowStore.latestCheckpoint?_mem latest
      have hcrow : c ∈ s.checkpointRows a.tenantId a.workflowId :=
        List.mem_filter.mpr ⟨hcmem, decide_eq_true ⟨hct, hcw⟩⟩
      -- the material has evidence
      have hevidence : candidate.evidenceHashes ≠ [] := by
        unfold WorkflowStore.candidateMaterial at material
        simp only [Option.bind_eq_bind, Option.bind_eq_some_iff] at material
        obtain ⟨_, _, _, _, _, _, _, _, hif⟩ := material
        split at hif
        · next hchecked =>
            rw [Option.some.injEq] at hif
            exact hif ▸ hchecked.2.2
        · cases hif
      refine { hbase with activations := hr.activations.append_one fresh, activation := ?_ }
      refine List.forall_mem_append.mpr ⟨hbase.activation, List.forall_mem_singleton.mpr ?_⟩
      exact ⟨a, mem, ⟨rfl, rfl⟩, ⟨rfl, rfl⟩, ⟨c, hcrow, rfl⟩, ⟨rfl, rfl⟩, hevidence⟩
  | @grant a p row mem about activation built valid new fresh =>
      have hnone : s.policy.grants.filter (fun g => g.tenantId = a.tenantId ∧ g.workflowId = a.workflowId) =
          [] := List.map_eq_nil_iff.mp (List.head?_eq_none_iff.mp new)
      refine { hbase with grants := fun t w => ?_, grant := ?_ }
      · by_cases hkey : a.tenantId = t ∧ a.workflowId = w
        · obtain ⟨rfl, rfl⟩ := hkey
          rw [List.filter_append, hnone, List.nil_append]
          exact (List.length_filter_le _ _).trans le_rfl
        · rw [Table.filter_append_other fun r hrm => ?_]
          · exact hr.grants t w
          · rw [List.mem_singleton.mp hrm, built]
            exact decide_eq_false hkey
      · refine List.forall_mem_append.mpr ⟨hbase.grant, List.forall_mem_singleton.mpr ?_⟩
        refine ⟨a, mem, by rw [built]; exact ⟨rfl, rfl⟩, ?_, ?_⟩
        · exact List.ne_nil_of_mem (policyActivationForWorkflow_mem activation)
        · refine decide_eq_true ⟨valid, ?_, ?_⟩
          · rw [built]
            rfl
          · rw [built]
            exact Sealed.intact_of _
  | @decision a p grant candidate source d c mem about latest activation granted material found evaluated =>
      have hd := validated_eq_some.mp evaluated
      have howner : d.body.tenantId = a.tenantId ∧ d.body.workflowId = a.workflowId ∧
          d.body.checkpointId = p.sourceCheckpointId ∧ d.intact = true := by
        rw [hd.2]
        exact ⟨rfl, rfl, rfl, Sealed.intact_of _⟩
      refine { hbase with decision := ?_ }
      refine List.forall_mem_append.mpr ⟨hbase.decision, List.forall_mem_singleton.mpr ?_⟩
      refine ⟨a, mem, ⟨howner.1, howner.2.1⟩, p, policyActivationForWorkflow_mem activation, ?_⟩
      rw [← hd.2] at hd
      exact decide_eq_true ⟨hd.1, howner⟩
  | @binding a p grant d b mem about activation granted decided allowed built =>
      have hbody := (validated_eq_some.mp built).2
      have hkey := of_decide_eq_true (List.mem_filter.mp decided).2
      have howner : b.body.tenantId = a.tenantId ∧ b.body.workflowId = a.workflowId := by
        rw [hbody]
        exact hkey
      refine { hbase with binding := ?_ }
      refine List.forall_mem_append.mpr ⟨hbase.binding, List.forall_mem_singleton.mpr ?_⟩
      exact ⟨a, mem, howner, grant, List.mem_of_head? granted, d, decided, allowed, _, _, _, built⟩
  | @request a b r mem about bound built =>
      have hr' := validated_eq_some.mp built
      have hkey := of_decide_eq_true (List.mem_filter.mp bound).2
      refine { hbase with request := ?_ }
      refine List.forall_mem_append.mpr ⟨hbase.request, List.forall_mem_singleton.mpr ?_⟩
      refine ⟨a, mem, ?_, b, bound, _, built⟩
      rw [hr'.2]
      exact hkey
  | @approval a c request approverId approverRole verdict d mem about latest state requested start call
      built =>
      have hd := validated_eq_some.mp built
      have hrequest : request ∈ s.requestsOf a.tenantId a.workflowId := List.mem_of_head? requested
      have hkey := of_decide_eq_true (List.mem_filter.mp hrequest).2
      refine { hbase with approval := ?_ }
      refine List.forall_mem_append.mpr ⟨hbase.approval, List.forall_mem_singleton.mpr ?_⟩
      refine ⟨a, mem, ?_, request, hrequest, _, _, _, _, built⟩
      rw [hd.2]
      exact hkey
  | revoke => exact { hbase with }

/-- **Every transaction keeps the rows.** -/
theorem Effect.policyRows (h : Effect x s part s') (hr : PolicyRows s s.policy) :
    PolicyRows s' s'.policy := by
  by_cases hpart : part = .policy
  · cases h with
    | policy step => exact step.policyRows hr
    | prepare step => exact absurd hpart step.not_part.1
    | _ => exact absurd hpart nofun
  · have hpolicy := h.policy_eq hpart
    have hbase := hr.mono h.grows h.policyGrows
    rw [hpolicy]
    exact hbase

/-! ## The states that need the chain -/

/-- Every checkpoint in a state that needs the chain, or on its way back to one, is of a workflow with an
    approval request. -/
def ChainInv (s : WorkflowStore) : Prop :=
  Requires WorkflowState.needsChain (fun s t w => s.requestsOf t w ≠ []) s

/-- **A transition to such a state** comes from one, or follows the request. -/
theorem Advance.needsChain {c : Checkpoint} {r : TransitionRequest} (h : Advance x s a c r)
    (allowed : r.allowedFrom c.payload = true)
    (hr : r.nextState.needsChain = true ∨ r.resumeState.needsChain = true) :
    c.payload.VisitsAny WorkflowState.needsChain ∨ s.requestsOf a.tenantId a.workflowId ≠ [] := by
  have hrequest : ∀ request, s.approvalRequestForWorkflow a.tenantId a.workflowId = some request →
      s.requestsOf a.tenantId a.workflowId ≠ [] := by
    intro request hrequested hnil
    unfold WorkflowStore.approvalRequestForWorkflow at hrequested
    rw [hnil] at hrequested
    cases hrequested
  cases h with
  | approvalActivated _ _ _ _ requested => exact Or.inr (hrequest _ requested)
  | approvalGranted requested => exact Or.inr (hrequest _ requested)
  | deliveryComplete =>
      -- only DELIVERING leads there
      left
      left
      unfold TransitionRequest.allowedFrom moveTo at allowed
      cases hstate : c.payload.currentState <;> rw [hstate] at allowed <;>
        first | rfl | simp [transitionAllowed, allowedTargets] at allowed
  | reconcile => exact Or.inl (Or.inl (hr.resolve_left Bool.false_ne_true))
  | reconciled => exact Or.inl (Or.inr (hr.elim id id))
  | deliveryReconciled => exact Or.inl (Or.inr (hr.elim id id))
  | _ => exact hr.elim (absurd · Bool.false_ne_true) (absurd · Bool.false_ne_true)

/-- **Every transaction keeps it.** -/
theorem Effect.chainInv (h : Effect x s part s') (hs : ChainInv s) : ChainInv s' := by
  refine h.requires ?_ rfl ?_ (fun _ advance => advance.needsChain) hs
  · intro state hneeds
    cases state <;> first | rfl | cases hneeds
  · intro t w hrequests
    exact ne_nil_of_prefix (h.policyGrows.requestsOf t w) hrequests

/-! ## The check -/

theorem atMostOne_of_le_one {α : Type} {l : List α} (h : l.length ≤ 1) : WorkflowStore.atMostOne l = .ok l.head? := by
  match l with
  | [] => rfl
  | [y] => rfl
  | _ :: _ :: _ => simp at h

theorem le_one_of_atMostOne {α : Type} {l : List α} {row : Option α} (h : WorkflowStore.atMostOne l = .ok row) :
    l.length ≤ 1 := by
  match l with
  | [] => exact Nat.zero_le 1
  | [y] => exact le_rfl
  | _ :: _ :: _ => cases h

theorem PolicyActivation.clash_comm (p q : PolicyActivation) : p.clash q = q.clash p := by
  simp only [PolicyActivation.clash, eq_comm]

/-- What holds of the workflow of some activation holds of this one. -/
theorem JournalInv.row_of (hj : JournalInv s) (ha : a ∈ s.journal.activations) {P : WorkflowActivation → Prop}
    {t : String} {w : WorkflowId} (h : ∃ b ∈ s.journal.activations, P b)
    (howner : ∀ b, P b → t = b.tenantId ∧ w = b.workflowId) (ht : t = a.tenantId) (hw : w = a.workflowId) :
    P a := by
  obtain ⟨b, hb, hrow⟩ := h
  obtain ⟨hbt, hbw⟩ := howner b hrow
  obtain rfl : b = a := hj.activation_unique hb ha (hbt.symm.trans ht) (hbw.symm.trans hw)
  exact hrow

section Check

variable (hj : JournalInv s) (hr : PolicyRows s s.policy) (ha : a ∈ s.journal.activations)

include hj hr ha

theorem PolicyRows.activation_row {p : PolicyActivation}
    (hp : p ∈ s.policyActivationsOf a.tenantId a.workflowId) : PolicyActivationRow s a p := by
  obtain ⟨hmem, hkey⟩ := List.mem_filter.mp hp
  rw [decide_eq_true_eq] at hkey
  exact hj.row_of ha (hr.activation p hmem) (fun _ => PolicyActivationRow.owner) hkey.1 hkey.2

theorem PolicyRows.grant_row {g : SealedGrant} (hg : g ∈ s.grantsOf a.tenantId a.workflowId) :
    s.policyActivationsOf a.tenantId a.workflowId ≠ [] ∧ grantSourceValid a g = true := by
  obtain ⟨row, hrow, rfl⟩ := List.mem_map.mp hg
  obtain ⟨hmem, hkey⟩ := List.mem_filter.mp hrow
  rw [decide_eq_true_eq] at hkey
  have hissued := hj.row_of ha (hr.grant row hmem) (fun _ => GrantIssued.owner) hkey.1 hkey.2
  exact ⟨hissued.activated, hissued.valid⟩

theorem PolicyRows.decision_row {d : SealedDecision} (hd : d ∈ s.decisionsOf a.tenantId a.workflowId) :
    DecisionRow s a d := by
  obtain ⟨hmem, hkey⟩ := List.mem_filter.mp hd
  rw [decide_eq_true_eq] at hkey
  exact hj.row_of ha (hr.decision d hmem) (fun _ => DecisionRow.owner) hkey.1 hkey.2

theorem PolicyRows.binding_row {b : SealedBinding} (hb : b ∈ s.bindingsOf a.tenantId a.workflowId) :
    BindingRow s a b := by
  obtain ⟨hmem, hkey⟩ := List.mem_filter.mp hb
  rw [decide_eq_true_eq] at hkey
  exact hj.row_of ha (hr.binding b hmem) (fun _ => BindingRow.owner) hkey.1 hkey.2

theorem PolicyRows.request_row {r : ApprovalRequest} (hrm : r ∈ s.requestsOf a.tenantId a.workflowId) :
    RequestRow s a r := by
  obtain ⟨hmem, hkey⟩ := List.mem_filter.mp hrm
  rw [decide_eq_true_eq] at hkey
  exact hj.row_of ha (hr.request r hmem) (fun _ => RequestRow.owner) hkey.1 hkey.2

theorem PolicyRows.approval_row {d : SealedApproval} (hd : d ∈ s.approvalsOf a.tenantId a.workflowId) :
    ApprovalRow s a d := by
  obtain ⟨hmem, hkey⟩ := List.mem_filter.mp hd
  rw [decide_eq_true_eq] at hkey
  exact hj.row_of ha (hr.approval d hmem) (fun _ => ApprovalRow.owner) hkey.1 hkey.2

/-- A workflow with an approval request has all that it follows from. -/
theorem PolicyRows.chain_complete (h : s.requestsOf a.tenantId a.workflowId ≠ []) :
    s.policyActivationsOf a.tenantId a.workflowId ≠ [] ∧ s.grantsOf a.tenantId a.workflowId ≠ [] ∧
    s.decisionsOf a.tenantId a.workflowId ≠ [] ∧ s.bindingsOf a.tenantId a.workflowId ≠ [] := by
  obtain ⟨r, hrm⟩ := List.exists_mem_of_ne_nil _ h
  obtain ⟨-, b, hb, -⟩ := (hr.request_row hj ha hrm).binding
  obtain ⟨g, hg, -⟩ := (hr.binding_row hj ha hb).grant
  obtain ⟨d, hd, -⟩ := (hr.binding_row hj ha hb).decision
  exact ⟨(hr.grant_row hj ha hg).1, List.ne_nil_of_mem hg, List.ne_nil_of_mem hd, List.ne_nil_of_mem hb⟩

/-- …and without an activation it has nothing. -/
theorem PolicyRows.chain_absent (h : s.policyActivationsOf a.tenantId a.workflowId = []) :
    s.grantsOf a.tenantId a.workflowId = [] ∧ s.decisionsOf a.tenantId a.workflowId = [] ∧
    s.bindingsOf a.tenantId a.workflowId = [] ∧ s.requestsOf a.tenantId a.workflowId = [] ∧
    s.approvalsOf a.tenantId a.workflowId = [] := by
  have hgrants : s.grantsOf a.tenantId a.workflowId = [] :=
    List.eq_nil_iff_forall_not_mem.mpr fun g hg => (hr.grant_row hj ha hg).1 h
  have hdecisions : s.decisionsOf a.tenantId a.workflowId = [] := by
    refine List.eq_nil_iff_forall_not_mem.mpr fun d hd => ?_
    obtain ⟨p, hp, -⟩ := (hr.decision_row hj ha hd).decided
    rw [h] at hp
    exact List.not_mem_nil hp
  have hbindings : s.bindingsOf a.tenantId a.workflowId = [] := by
    refine List.eq_nil_iff_forall_not_mem.mpr fun b hb => ?_
    obtain ⟨g, hg, -⟩ := (hr.binding_row hj ha hb).grant
    rw [hgrants] at hg
    exact List.not_mem_nil hg
  have hrequests : s.requestsOf a.tenantId a.workflowId = [] := by
    refine List.eq_nil_iff_forall_not_mem.mpr fun r hrm => ?_
    obtain ⟨-, b, hb, -⟩ := (hr.request_row hj ha hrm).binding
    rw [hbindings] at hb
    exact List.not_mem_nil hb
  refine ⟨hgrants, hdecisions, hbindings, hrequests, ?_⟩
  refine List.eq_nil_iff_forall_not_mem.mpr fun d hd => ?_
  obtain ⟨-, -, r, hrm, -⟩ := (hr.approval_row hj ha hd).request
  rw [hrequests] at hrm
  exact List.not_mem_nil hrm

/-- **`_validate_change4_source` accepts a workflow exactly when it has at most one decision.** -/
theorem PolicyRows.validateChange4Source_iff (hd : DeliveryRows s) (hb : SingleBindingInv s) (hg : GateInv s)
    (hc : ChainInv s) :
    s.validateChange4Source a (s.checkpointsOf a.tenantId a.workflowId) = .ok () ↔
      (s.decisionsOf a.tenantId a.workflowId).length ≤ 1 := by
  have hneeds : needsPolicyChain (s.checkpointsOf a.tenantId a.workflowId) = true →
      s.requestsOf a.tenantId a.workflowId ≠ [] := by
    intro hany
    obtain ⟨c, hmem, hstate⟩ := List.any_eq_true.mp hany
    rw [decide_eq_true_eq] at hstate
    obtain ⟨hcmem, ht, hw⟩ := WorkflowStore.mem_checkpointsOf.mp hmem
    have hchain := hc c hcmem (Or.inl (by rcases hstate with h | h | h <;> rw [h] <;> rfl))
    rwa [ht, hw] at hchain
  have hone : (s.policyActivationsOf a.tenantId a.workflowId).length ≤ 1 := by
    refine hr.activations.filter_key_le_one fun p q hp hq => ?_
    rw [decide_eq_true_eq] at hp hq
    exact decide_eq_true ⟨hp.1.trans hq.1.symm, Or.inr (hp.2.trans hq.2.symm)⟩
  unfold WorkflowStore.validateChange4Source
  dsimp only
  match hactivations : s.policyActivationsOf a.tenantId a.workflowId with
  | [] =>
      obtain ⟨hgrants, hdecisions, hbindings, hrequests, happrovals⟩ := hr.chain_absent hj ha hactivations
      have hdeliveries : s.deliveryIntentsOf a.tenantId a.workflowId = [] := by
        refine List.eq_nil_iff_forall_not_mem.mpr fun i hi => ?_
        obtain ⟨-, hrow⟩ := hd.row hj ha hi
        obtain ⟨-, -, b, hbmem, -⟩ := hrow.built
        rw [hbindings] at hbmem
        exact List.not_mem_nil hbmem
      have hno : ¬ needsPolicyChain (s.checkpointsOf a.tenantId a.workflowId) = true :=
        fun hany => hneeds hany hrequests
      rw [hdecisions]
      refine iff_of_true ?_ (Nat.zero_le 1)
      rw [require_eq_ok]
      exact decide_eq_true ⟨hno, hgrants, rfl, hbindings, hrequests, happrovals, hdeliveries⟩
  | [p] =>
      have hp : p ∈ s.policyActivationsOf a.tenantId a.workflowId := by
        rw [hactivations]
        exact List.mem_singleton_self p
      have hprow := hr.activation_row hj ha hp
      have hgrants : (s.grantsOf a.tenantId a.workflowId).length ≤ 1 := by
        rw [WorkflowStore.grantsOf, List.length_map]
        exact hr.grants _ _
      have hbindings := hb.single a.tenantId a.workflowId
      have hrequests : (s.requestsOf a.tenantId a.workflowId).length ≤ 1 := hg.one_request _ _
      have happrovals : (s.approvalsOf a.tenantId a.workflowId).length ≤ 1 := by
        -- all are about the workflow's one request
        refine hg.approvals.filter_le_one fun d hdm e hem hdk hek => ?_
        have hdmem : d ∈ s.approvalsOf a.tenantId a.workflowId := List.mem_filter.mpr ⟨hdm, hdk⟩
        have hemem : e ∈ s.approvalsOf a.tenantId a.workflowId := List.mem_filter.mpr ⟨hem, hek⟩
        obtain ⟨-, -, r, hrm, hdr⟩ := (hr.approval_row hj ha hdmem).request
        obtain ⟨-, -, q, hqm, heq⟩ := (hr.approval_row hj ha hemem).request
        rw [Table.eq_singleton hrm hrequests, List.mem_singleton] at hqm
        rw [decide_eq_true_eq] at hdk hek
        exact decide_eq_true ⟨hdk.1.trans hek.1.symm, Or.inr (Or.inl (hdr.trans (hqm ▸ heq.symm)))⟩
      obtain ⟨c, hcm, hcid⟩ := hprow.checkpoint
      have hsource : p.sourceValid a ((s.checkpointsOf a.tenantId a.workflowId).map
          (·.payload.checkpointId)) = true := by
        refine decide_eq_true ⟨hprow.case.1, hprow.case.2, ?_, hprow.resource.1, hprow.resource.2,
          hprow.evidence⟩
        rw [hj.checkpointsOf_eq ha, ← hcid]
        exact List.mem_map_of_mem hcm
      by_cases hdecisions : (s.decisionsOf a.tenantId a.workflowId).length ≤ 1
      · refine iff_of_true ?_ hdecisions
        rw [require_bind_eq_ok]
        refine ⟨hsource, ?_⟩
        rw [bind_eq_ok]
        refine ⟨_, atMostOne_of_le_one hgrants, ?_⟩
        rw [require_bind_eq_ok]
        refine ⟨(Option.all_eq_true _ _).mpr fun g hgm => ?_, ?_⟩
        · exact (hr.grant_row hj ha (List.mem_of_head? hgm)).2
        rw [bind_eq_ok]
        refine ⟨_, atMostOne_of_le_one hdecisions, ?_⟩
        rw [require_bind_eq_ok]
        refine ⟨(Option.all_eq_true _ _).mpr fun d hdm => ?_, ?_⟩
        · obtain ⟨q, hq, hvalid⟩ := (hr.decision_row hj ha (List.mem_of_head? hdm)).decided
          rw [hactivations, List.mem_singleton] at hq
          exact hq ▸ hvalid
        rw [bind_eq_ok]
        refine ⟨_, atMostOne_of_le_one hbindings, ?_⟩
        rw [require_bind_eq_ok]
        refine ⟨(Option.all_eq_true _ _).mpr fun b hbm => ?_, ?_⟩
        · have hbrow := hr.binding_row hj ha (List.mem_of_head? hbm)
          obtain ⟨g, hgm, hgid⟩ := hbrow.grant
          obtain ⟨d, hdm, hdid⟩ := hbrow.decision
          rw [Table.eq_singleton hgm hgrants, Table.eq_singleton hdm hdecisions]
          have hbmem := (List.mem_filter.mp (List.mem_of_head? hbm)).1
          exact decide_eq_true ⟨hd.binding b hbmem, hbrow.owner.2, decide_eq_true hgid, decide_eq_true hdid⟩
        rw [bind_eq_ok]
        refine ⟨_, atMostOne_of_le_one hrequests, ?_⟩
        rw [require_bind_eq_ok]
        refine ⟨(Option.all_eq_true _ _).mpr fun r hrm => ?_, ?_⟩
        · have hrrow := hr.request_row hj ha (List.mem_of_head? hrm)
          obtain ⟨hvalid, b, hbm, hhash⟩ := hrrow.binding
          rw [Table.eq_singleton hbm hbindings]
          exact decide_eq_true ⟨hvalid, decide_eq_true hhash⟩
        rw [bind_eq_ok]
        refine ⟨_, atMostOne_of_le_one happrovals, ?_⟩
        rw [require_bind_eq_ok]
        refine ⟨(Option.all_eq_true _ _).mpr fun d hdm => ?_, ?_⟩
        · have hdrow := hr.approval_row hj ha (List.mem_of_head? hdm)
          obtain ⟨hvalid, hintact, r, hrm, hid⟩ := hdrow.request
          rw [Table.eq_singleton hrm hrequests]
          exact decide_eq_true ⟨hvalid, hintact, decide_eq_true hid⟩
        rw [require_bind_eq_ok]
        refine ⟨decide_eq_true fun hany => ?_, hd.source_valid _⟩
        have hrequested := hneeds hany
        obtain ⟨-, hgranted, hdecided, hbound⟩ := hr.chain_complete hj ha hrequested
        have hsome : ∀ {α : Type} {l : List α}, l ≠ [] → l.head?.isSome = true := by
          intro α l hl
          rw [List.isSome_head?]
          simpa using hl
        exact ⟨hsome hgranted, hsome hdecided, hsome hbound, hsome hrequested⟩
      · refine iff_of_false (fun hok => hdecisions ?_) hdecisions
        simp only [bind_eq_ok] at hok
        obtain ⟨-, -, -, -, -, -, decision, hdecision, -⟩ := hok
        exact le_one_of_atMostOne hdecision
  | p :: q :: rest =>
      rw [hactivations] at hone
      simp at hone

end Check

end WeFlow
