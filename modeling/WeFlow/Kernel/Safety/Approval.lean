import WeFlow.Kernel.Safety.Delivery
import WeFlow.Kernel.Safety.Investigation

/-!
# `Safety.Approval` — policy activation, approval and revocation

Each "ensure" finds its fact or appends it, with the facts before it in the chain. The policy decision
is the one whose input depends on more than stored rows, so the step that appends it says what the call
had moved before (`Unmoved`).
-/

namespace WeFlow

open Txn Prog

variable {x : Context} {E : WorkflowError → WorkflowStore → Prop} {s : WorkflowStore}
  {a : WorkflowActivation} {c : Checkpoint} {t : String} {k : CaseId}

/-- A step of the policy tables is a transaction of the call. -/
theorem policy_effect {policy : PolicyTables} (hw : Part.policy ∈ x.call.advances)
    (h : PolicyStep x s policy) : Effects x x.call.writes s { s with policy } :=
  ⟨.policy, writes_of_advances hw, .policy h⟩

/-- The call has not decided or revoked anything, and a recovery entered where a policy chain is. -/
structure Unmoved (x : Context) (s : WorkflowStore) (a : WorkflowActivation) (c : Checkpoint) :
    Prop where
  tables : s.policy.decisions = x.start.policy.decisions ∧
    s.policy.grantEvents = x.start.policy.grantEvents
  entered : x.call.recovers = true → EnteredAt x a c.payload.currentState ∧
    (c.payload.currentState = .responseReady ∨ c.payload.currentState = .awaitingApproval ∨
      c.payload.currentState = .delivering)

/-! ## The chain of facts -/

/-- **`_ensure_fixture_grant`.** -/
theorem safe_ensureFixtureGrant {p : PolicyActivation} {Q : SealedGrant → WorkflowStore → Prop}
    (hE : Permits E) (hw : Part.policy ∈ x.call.advances) (hbound : Bound x s a)
    (hactivation : s.policyActivationForWorkflow a.tenantId a.workflowId = some p)
    (hQ : ∀ g grants, WorkflowStore.grantForWorkflow { s with policy := { s.policy with grants } }
        a.tenantId a.workflowId = some g →
      Q g { s with policy := { s.policy with grants } }) :
    KSafe x x.call.writes E Q (ensureFixtureGrant x.env a p) s := by
  unfold ensureFixtureGrant
  refine safe_bind.mpr (safe_observe.mpr ?_)
  cases hstored : s.grantForWorkflow a.tenantId a.workflowId with
  | some existing => exact hQ existing s.policy.grants hstored
  | none =>
      refine safe_bind.mpr (safe_check.mpr ⟨fun hvalid => ?_, fun _ => hE _ _ rfl⟩)
      refine safe_txn hE ?_ fun g s' h => ?_
      · simp [insertGrant, hstored, WorkflowError.ofRecord]
      · simp only [insertGrant, hstored, fetch_bind_eq_ok, Table.insert?_eq_some, pure, Except.pure,
          Except.ok.injEq, Prod.mk.injEq] at h
        obtain ⟨_, ⟨hfresh, rfl⟩, rfl, rfl⟩ := h
        refine ⟨Or.inr (policy_effect hw ?_), hQ _ _ ?_⟩
        · exact .grant hbound.mem hbound.about hactivation rfl hvalid hstored hfresh
        · have hnil : s.grantsOf a.tenantId a.workflowId = [] := List.head?_eq_none_iff.mp hstored
          have hnone := List.map_eq_nil_iff.mp hnil
          show ((List.filter _ (s.policy.grants ++ [_])).map (·.grant)).head? = some _
          rw [List.filter_append, hnone, List.nil_append, List.filter_cons_of_pos (by simp)]
          rfl

/-- **`_ensure_policy_decision`.** -/
theorem safe_ensurePolicyDecision {p : PolicyActivation} {grant : SealedGrant}
    {Q : SealedDecision → WorkflowStore → Prop} (hE : Permits E)
    (hw : Part.policy ∈ x.call.advances) (hready : Ready x s a c) (hunmoved : Unmoved x s a c)
    (hactivation : s.policyActivationForWorkflow a.tenantId a.workflowId = some p)
    (hgrant : s.grantForWorkflow a.tenantId a.workflowId = some grant)
    (hQ : ∀ d decisions, d ∈ WorkflowStore.decisionsOf
        { s with policy := { s.policy with decisions } } a.tenantId a.workflowId →
      Q d { s with policy := { s.policy with decisions } }) :
    KSafe x x.call.writes E Q (ensurePolicyDecision x.env a p grant) s := by
  unfold ensurePolicyDecision
  refine safe_bind.mpr (safe_observe.mpr ?_)
  refine safe_bind.mpr (safe_need.mpr ⟨fun candidate hcandidate => ?_, fun _ => hE _ _ rfl⟩)
  refine safe_bind.mpr (safe_observe.mpr ?_)
  refine safe_bind.mpr (safe_need.mpr ⟨fun source hsource => ?_, fun _ => hE _ _ rfl⟩)
  refine safe_bind.mpr (safe_observe.mpr ?_)
  refine safe_bind.mpr (safe_need.mpr ⟨fun d hd => ?_, fun _ => hE _ _ rfl⟩)
  have heq := (validated_eq_some.mp hd).2
  have ht : d.body.tenantId = a.tenantId := by rw [heq]; rfl
  have hwf : d.body.workflowId = a.workflowId := by rw [heq]; rfl
  refine safe_txn hE ?_ fun d' s' h => ?_
  · unfold insertDecision
    split <;> simp [WorkflowError.ofRecord]
  · unfold insertDecision at h
    rw [ht, hwf] at h
    cases hstored : (s.decisionsOf a.tenantId a.workflowId).find? (fun y =>
        decide (y.body.action = d.body.action ∧
          y.body.policyInputSha256 = d.body.policyInputSha256)) with
    | some existing =>
        simp only [hstored, Except.ok.injEq, Prod.mk.injEq] at h
        obtain ⟨rfl, rfl⟩ := h
        exact ⟨Or.inl rfl, hQ _ s.policy.decisions (List.mem_of_find?_eq_some hstored)⟩
    | none =>
        simp only [hstored, fetch_bind_eq_ok, Table.insert?_eq_some, pure, Except.pure,
          Except.ok.injEq, Prod.mk.injEq] at h
        obtain ⟨_, ⟨hfresh, rfl⟩, rfl, rfl⟩ := h
        refine ⟨Or.inr (policy_effect hw ?_), hQ _ _ ?_⟩
        · exact .decision hready.mem hready.about hready.latest hactivation hgrant hcandidate hsource
            hd hstored hfresh hunmoved.tables hunmoved.entered
        · refine List.mem_filter.mpr ⟨?_, decide_eq_true ⟨ht, hwf⟩⟩
          exact List.mem_append_right _ (List.mem_singleton_self _)

/-- **`_ensure_authorization_binding`.** -/
theorem safe_ensureAuthorizationBinding {p : PolicyActivation} {grant : SealedGrant}
    {d : SealedDecision} {Q : SealedBinding → WorkflowStore → Prop} (hE : Permits E)
    (hw : Part.policy ∈ x.call.advances) (hbound : Bound x s a)
    (hactivation : s.policyActivationForWorkflow a.tenantId a.workflowId = some p)
    (hgrant : s.grantForWorkflow a.tenantId a.workflowId = some grant)
    (hd : d ∈ s.decisionsOf a.tenantId a.workflowId)
    (hQ : ∀ b bindings, b ∈ WorkflowStore.bindingsOf
        { s with policy := { s.policy with bindings } } a.tenantId a.workflowId →
      Q b { s with policy := { s.policy with bindings } }) :
    KSafe x x.call.writes E Q (ensureAuthorizationBinding x.env p grant d) s := by
  unfold ensureAuthorizationBinding
  refine safe_bind.mpr (safe_check.mpr ⟨fun hallow => ?_, fun _ => hE _ _ rfl⟩)
  refine safe_bind.mpr (safe_need.mpr ⟨fun b hb => ?_, fun _ => hE _ _ rfl⟩)
  obtain ⟨ht, hwf⟩ := of_decide_eq_true (List.mem_filter.mp hd).2
  have heq := (validated_eq_some.mp hb).2
  have hbt : b.body.tenantId = a.tenantId := by rw [heq]; exact ht
  have hbw : b.body.workflowId = a.workflowId := by rw [heq]; exact hwf
  refine safe_txn hE ?_ fun b' s' h => ?_
  · unfold insertBinding
    split <;> simp [WorkflowError.ofRecord]
  · unfold insertBinding at h
    rw [hbt, hbw] at h
    cases hstored : (s.bindingsOf a.tenantId a.workflowId).head? with
    | some existing =>
        simp only [hstored, Except.ok.injEq, Prod.mk.injEq] at h
        obtain ⟨rfl, rfl⟩ := h
        exact ⟨Or.inl rfl, hQ _ s.policy.bindings (List.mem_of_head? hstored)⟩
    | none =>
        simp only [hstored, fetch_bind_eq_ok, Table.insert?_eq_some, pure, Except.pure,
          Except.ok.injEq, Prod.mk.injEq] at h
        obtain ⟨_, ⟨hfresh, rfl⟩, rfl, rfl⟩ := h
        refine ⟨Or.inr (policy_effect hw ?_), hQ _ _ ?_⟩
        · exact .binding hbound.mem hbound.about hactivation hgrant hd (of_decide_eq_true hallow) hb
            (List.head?_eq_none_iff.mp hstored) hfresh
        · refine List.mem_filter.mpr ⟨?_, decide_eq_true ⟨hbt, hbw⟩⟩
          exact List.mem_append_right _ (List.mem_singleton_self _)

/-- **`_ensure_approval_request`.** -/
theorem safe_ensureApprovalRequest {b : SealedBinding} {Q : ApprovalRequest → WorkflowStore → Prop}
    (hE : Permits E) (hw : Part.policy ∈ x.call.advances) (hbound : Bound x s a)
    (hb : b ∈ s.bindingsOf a.tenantId a.workflowId)
    (hQ : ∀ r requests, WorkflowStore.approvalRequestForWorkflow
        { s with policy := { s.policy with requests } } a.tenantId a.workflowId = some r →
      Q r { s with policy := { s.policy with requests } }) :
    KSafe x x.call.writes E Q (ensureApprovalRequest x.env b) s := by
  unfold ensureApprovalRequest
  refine safe_bind.mpr (safe_need.mpr ⟨fun r hr => ?_, fun _ => hE _ _ rfl⟩)
  obtain ⟨ht, hwf⟩ := of_decide_eq_true (List.mem_filter.mp hb).2
  have heq := (validated_eq_some.mp hr).2
  have hrt : r.tenantId = a.tenantId := by rw [heq]; exact ht
  have hrw : r.workflowId = a.workflowId := by rw [heq]; exact hwf
  refine safe_txn hE ?_ fun r' s' h => ?_
  · unfold insertApprovalRequest
    split <;> simp [WorkflowError.ofRecord]
  · unfold insertApprovalRequest at h
    rw [hrt, hrw] at h
    cases hstored : s.approvalRequestForWorkflow a.tenantId a.workflowId with
    | some existing =>
        simp only [hstored, Except.ok.injEq, Prod.mk.injEq] at h
        obtain ⟨rfl, rfl⟩ := h
        exact ⟨Or.inl rfl, hQ _ s.policy.requests hstored⟩
    | none =>
        simp only [hstored, fetch_bind_eq_ok, Table.insert?_eq_some, pure, Except.pure,
          Except.ok.injEq, Prod.mk.injEq] at h
        obtain ⟨_, ⟨hfresh, rfl⟩, rfl, rfl⟩ := h
        refine ⟨Or.inr (policy_effect hw ?_), hQ _ _ ?_⟩
        · exact .request hbound.mem hbound.about hb hr hstored hfresh
        · have hnil : s.requestsOf a.tenantId a.workflowId = [] := List.head?_eq_none_iff.mp hstored
          show (List.filter _ (s.policy.requests ++ [r])).head? = some r
          rw [List.filter_append, show List.filter _ s.policy.requests = [] from hnil,
            List.nil_append, List.filter_cons_of_pos (by simp [hrt, hrw]), List.head?_cons]

/-! ## Approval decisions -/

/-- A denial of an approval. -/
theorem safe_denyApproval {cause : CheckpointCause} (hE : Permits E) (hready : Ready x s a c)
    (hw : Part.checkpoint ∈ x.call.advances) (hstate : c.payload.currentState = .awaitingApproval)
    (horigin : cause.isCommand = false) :
    KSafe x x.call.writes E (fun _ s' => Ended x a s') (denyApproval x.env a c cause) s := by
  unfold denyApproval
  refine safe_bind.mpr (safe_advance hE hready hw (.approvalDenied horigin) (Or.inl ?_)
    (Or.inl nofun) ?_)
  · simp [TransitionRequest.allowedFrom, transitionAllowed, allowedTargets, hstate]
  · intro c' s' hready' _ _ _
    exact safe_requireProjection hE ⟨c', hready'⟩

/-- **`_apply_persisted_approval_decision`.** -/
theorem safe_applyPersistedApprovalDecision {request : ApprovalRequest} {d : SealedApproval}
    (hE : Permits E) (hwd : Part.delivery ∈ x.call.advances)
    (hwc : Part.checkpoint ∈ x.call.advances) (hready : Ready x s a c)
    (hrequest : s.approvalRequestForWorkflow a.tenantId a.workflowId = some request)
    (hd : s.approvalDecisionForRequest a.tenantId request.approvalRequestId = some d) :
    KSafe x x.call.writes E (fun _ s' => Ended x a s')
      (applyPersistedApprovalDecision x.env a c request d) s := by
  unfold applyPersistedApprovalDecision
  dsimp only
  split
  · exact safe_requireProjection hE ⟨c, hready⟩
  · next hstate =>
      rw [ne_eq, not_not] at hstate
      split
      · exact safe_denyApproval hE hready hwc hstate rfl
      · next happroved =>
        rw [ne_eq, not_not] at happroved
        refine safe_bind.mpr (safe_observe.mpr ?_)
        refine safe_bind.mpr (safe_observe.mpr ?_)
        refine safe_bind.mpr (safe_observe.mpr ?_)
        refine safe_bind.mpr (safe_need.mpr ⟨fun _ _ => ?_, fun _ => hE _ _ rfl⟩)
        refine safe_bind.mpr (safe_need.mpr ⟨fun _ _ => ?_, fun _ => hE _ _ rfl⟩)
        refine safe_bind.mpr (safe_need.mpr ⟨fun _ _ => ?_, fun _ => hE _ _ rfl⟩)
        refine safe_bind.mpr (safe_observe.mpr ?_)
        split
        · exact safe_denyApproval hE hready hwc hstate rfl
        · refine safe_bind.mpr (safe_observe.mpr ?_)
          refine safe_bind.mpr (safe_need.mpr ⟨fun _ _ => ?_, fun _ => hE _ _ rfl⟩)
          split
          · exact safe_denyApproval hE hready hwc hstate rfl
          · refine safe_bind.mpr (safe_advance hE hready hwc (.approvalGranted hrequest hd happroved)
              (Or.inl ?_) (Or.inl nofun) ?_)
            · simp [TransitionRequest.allowedFrom, transitionAllowed, allowedTargets, hstate]
            · intro c' s' hready' _ _ _
              exact safe_recoverDelivery hE hwd hwc hready'

/-! ## Recovery -/

theorem safe_continuePolicyApproval {state : WorkflowState} {request : ApprovalRequest}
    (hE : Permits E) (hwd : Part.delivery ∈ x.call.advances)
    (hwc : Part.checkpoint ∈ x.call.advances) (hready : Ready x s a c)
    (hrequest : s.approvalRequestForWorkflow a.tenantId a.workflowId = some request) :
    KSafe x x.call.writes E (fun _ s' => Ended x a s')
      (continuePolicyApproval x.env a c state request) s := by
  unfold continuePolicyApproval
  split
  · refine safe_bind.mpr (safe_observe.mpr ?_)
    split
    · exact safe_requireProjection hE ⟨c, hready⟩
    · next d hd => exact safe_applyPersistedApprovalDecision hE hwd hwc hready hrequest hd
  · split
    · exact safe_recoverDelivery hE hwd hwc hready
    · exact safe_requireProjection hE ⟨c, hready⟩

/-- Grants are only ever appended. -/
theorem PolicyStep.grants_grow {policy : PolicyTables} (h : PolicyStep x s policy) :
    s.policy.grants <+: policy.grants := by
  cases h with
  | grant => exact List.prefix_append _ _
  | _ => exact List.prefix_rfl

theorem Effect.grants_grow {s' : WorkflowStore} {part : Part} (h : Effect x s part s') :
    s.policy.grants <+: s'.policy.grants := by
  by_cases hpart : part = .policy
  · cases h with
    | policy step => exact step.grants_grow
    | prepare step => exact absurd hpart step.not_part.1
    | _ => exact absurd hpart nofun
  · rw [h.policy_eq hpart]

/-- A workflow has its grant. -/
def Granted (s : WorkflowStore) (t : String) (w : WorkflowId) : Prop :=
  ∃ row ∈ s.policy.grants, row.tenantId = t ∧ row.workflowId = w

theorem Granted.mono {s' : WorkflowStore} {w : WorkflowId} (h : Granted s t w)
    (hg : s.policy.grants <+: s'.policy.grants) : Granted s' t w := by
  obtain ⟨row, hrow, hkey⟩ := h
  exact ⟨row, hg.subset hrow, hkey⟩

theorem granted_of_grantForWorkflow {w : WorkflowId} {g : SealedGrant}
    (h : s.grantForWorkflow t w = some g) : Granted s t w := by
  obtain ⟨row, hrow, _⟩ := List.mem_map.mp (List.mem_of_head? h)
  obtain ⟨hmem, hkey⟩ := List.mem_filter.mp hrow
  exact ⟨row, hmem, of_decide_eq_true hkey⟩

/-- **`_recover_policy_approval`.** A workflow with a policy activation has its grant afterwards. -/
theorem safe_recoverPolicyApproval (hE : Permits E) (hwp : Part.policy ∈ x.call.advances)
    (hwd : Part.delivery ∈ x.call.advances) (hwc : Part.checkpoint ∈ x.call.advances)
    (hready : Ready x s a c) (hunmoved : Unmoved x s a c) :
    KSafe x x.call.writes E (fun _ s' => Ended x a s' ∧
        ((s.policyActivationForWorkflow a.tenantId a.workflowId).isSome = true →
          Granted s' a.tenantId a.workflowId)) (recoverPolicyApproval x.env a) s := by
  unfold recoverPolicyApproval
  refine safe_bind.mpr (safe_observe.mpr ?_)
  cases hactivation : s.policyActivationForWorkflow a.tenantId a.workflowId with
  | none =>
      exact (safe_requireProjection hE ⟨c, hready⟩).mono (fun _ _ => id)
        (fun _ _ h => ⟨h, fun hsome => (nomatch hsome)⟩) fun _ _ => id
  | some p =>
      refine safe_bind.mpr
        (safe_ensureFixtureGrant hE hwp hready.toBound hactivation fun grant grants hgrant => ?_)
      -- from here on the grant stays
      refine Safe.mono (Safe.keeps (I := fun s' => Granted s' a.tenantId a.workflowId)
        (Q := fun _ s' => Ended x a s') (E := E) ?_ ?_ (granted_of_grantForWorkflow hgrant))
        (fun _ _ => id) (fun _ _ h => ⟨h.1, fun _ => h.2⟩) fun _ _ h => h.1
      rotate_left
      · rintro s₁ s₂ ⟨_, _, heffect⟩ hgranted
        exact hgranted.mono heffect.grants_grow
      have hready₁ : Ready x { s with policy := { s.policy with grants } } a c :=
        hready.of_journal rfl rfl
      have hunmoved₁ : Unmoved x { s with policy := { s.policy with grants } } a c :=
        ⟨hunmoved.tables, hunmoved.entered⟩
      refine safe_bind.mpr (safe_ensurePolicyDecision hE hwp hready₁ hunmoved₁ hactivation hgrant ?_)
      intro d decisions hd
      have hready₂ : Ready x { s with policy := { s.policy with grants, decisions } } a c :=
        hready.of_journal rfl rfl
      split
      · exact safe_requireProjection hE ⟨c, hready₂⟩
      · refine safe_bind.mpr (safe_ensureAuthorizationBinding hE hwp hready₂.toBound hactivation
          hgrant hd ?_)
        intro b bindings hb
        have hready₃ :
            Ready x { s with policy := { s.policy with grants, decisions, bindings } } a c :=
          hready.of_journal rfl rfl
        refine safe_bind.mpr (safe_ensureApprovalRequest hE hwp hready₃.toBound hb ?_)
        intro request requests hrequest
        have hready₄ :
            Ready x { s with policy := { s.policy with grants, decisions, bindings, requests } } a c :=
          hready.of_journal rfl rfl
        refine safe_bind.mpr (safe_observe.mpr ?_)
        rw [hready₄.latest]
        refine safe_bind.mpr (safe_need.mpr ⟨fun c' hc' => ?_, fun hc' => nomatch hc'⟩)
        obtain rfl := Option.some.inj hc'
        split
        · next hstate =>
            refine safe_bind.mpr (safe_advance hE hready₄ hwc (.approvalActivated hactivation hgrant
              (List.ne_nil_of_mem hd) (List.ne_nil_of_mem hb) hrequest) (Or.inl ?_)
              (Or.inl nofun) ?_)
            · simp [TransitionRequest.allowedFrom, transitionAllowed, allowedTargets, hstate]
            · intro c' s' hready' hadvanced _ _
              have hrequest' :
                  s'.approvalRequestForWorkflow a.tenantId a.workflowId = some request := by
                unfold WorkflowStore.approvalRequestForWorkflow WorkflowStore.requestsOf
                rw [hadvanced.policy]
                exact hrequest
              exact safe_continuePolicyApproval hE hwd hwc hready' hrequest'
        · exact safe_continuePolicyApproval hE hwd hwc hready₄ hrequest

/-! ## Operations -/

/-- **`_ensure_policy_approval_activation`.** -/
theorem safe_ensurePolicyApprovalActivation {Q : Unit → WorkflowStore → Prop} (hE : Permits E)
    (hw : Part.policy ∈ x.call.advances) (hready : Ready x s a c)
    (hQ : ∀ activations, (WorkflowStore.policyActivationForWorkflow
        { s with policy := { s.policy with activations } } a.tenantId a.workflowId).isSome = true →
      Q () { s with policy := { s.policy with activations } }) :
    KSafe x x.call.writes E Q (ensurePolicyApprovalActivation x.env a c) s := by
  unfold ensurePolicyApprovalActivation
  split
  · refine safe_bind.mpr (safe_observe.mpr (safe_check.mpr ⟨fun hsome => ?_, fun _ => hE _ _ rfl⟩))
    exact hQ s.policy.activations hsome
  · next hstate =>
      rw [ne_eq, not_not] at hstate
      refine safe_bind.mpr (safe_check.mpr ⟨fun htenant => ?_, fun _ => hE _ _ rfl⟩)
      refine safe_bind.mpr (safe_observe.mpr ?_)
      refine safe_bind.mpr (safe_need.mpr ⟨fun candidate hcandidate => ?_, fun _ => hE _ _ rfl⟩)
      refine safe_txn hE ?_ fun _ s' h => ?_
      · unfold insertPolicyActivation
        split <;> simp [WorkflowError.ofRecord]
      · unfold insertPolicyActivation at h
        cases hstored : s.policyActivationForWorkflow a.tenantId a.workflowId with
        | some existing =>
            simp only [newPolicyActivation, hstored, require_bind_eq_ok, pure, Except.pure,
              Except.ok.injEq, Prod.mk.injEq, true_and] at h
            obtain ⟨_, rfl⟩ := h
            exact ⟨Or.inl rfl, hQ s.policy.activations (by rw [hstored]; rfl)⟩
        | none =>
            have hnone : s.policyActivationForWorkflow
                (newPolicyActivation x.env a c.payload.checkpointId candidate).tenantId
                (newPolicyActivation x.env a c.payload.checkpointId candidate).workflowId = none :=
              hstored
            simp only [hnone, fetch_bind_eq_ok, Table.insert?_eq_some, pure, Except.pure,
              Except.ok.injEq, Prod.mk.injEq, true_and] at h
            obtain ⟨_, ⟨hfresh, rfl⟩, rfl⟩ := h
            refine ⟨Or.inr (policy_effect hw ?_), hQ _ ?_⟩
            · exact .activation hready.mem hready.about hready.latest hstate
                (of_decide_eq_true htenant) hcandidate hstored hfresh
            · refine List.find?_isSome.mpr ⟨_, List.mem_append_right _ (List.mem_singleton_self _), ?_⟩
              exact decide_eq_true ⟨rfl, rfl⟩

/-- **`activate_policy_approval`** returns only with a grant of the workflow. -/
theorem safe_activatePolicyApproval (hs : JournalInv s) (hstart : x.start = s)
    (hcall : x.call = .activatePolicyApproval t k) :
    KSafe x x.call.writes anyError (fun _ s' => ∃ a ∈ s.journal.activations, a.tenantId = t ∧
        a.caseId = k ∧ Granted s' a.tenantId a.workflowId) (activatePolicyApproval x.env t k) s := by
  have hcase : CaseCall x t k :=
    ⟨fun b ht hk => by simp [hcall, Call.about, ht, hk], by simp [hcall, Call.recovers]⟩
  have hwp : Part.policy ∈ x.call.advances := by simp [hcall, Call.advances]
  have hwd : Part.delivery ∈ x.call.advances := by simp [hcall, Call.advances]
  have hwc : Part.checkpoint ∈ x.call.advances := by simp [hcall, Call.advances]
  unfold activatePolicyApproval
  refine safe_bind.mpr (safe_observe.mpr ?_)
  refine safe_bind.mpr (safe_need.mpr ⟨fun a ha => ?_, fun _ => trivial⟩)
  have hcaseId : a.caseId = k := (activationForCaseForTenant_mem ha).2.2
  obtain ⟨hbound, rfl⟩ := hcase.bound hs hstart ha
  refine safe_bind.mpr (safe_observe.mpr ?_)
  refine safe_bind.mpr (safe_need.mpr ⟨fun c hc => ?_, fun _ => trivial⟩)
  have hready := hbound.ready hcase.recovers hc
  refine safe_bind.mpr
    (safe_ensurePolicyApprovalActivation permits_anyError hwp hready fun activations hsome => ?_)
  have hready' : Ready x { s with policy := { s.policy with activations } } a c :=
    hready.of_journal rfl rfl
  refine (safe_recoverPolicyApproval permits_anyError hwp hwd hwc hready' ⟨?_, ?_⟩).mono
    (fun _ _ => id) (fun _ _ h => ⟨a, hready.mem, rfl, hcaseId, h.2 hsome⟩) fun _ _ => id
  · rw [hstart]
    exact ⟨rfl, rfl⟩
  · intro hr
    simp [hcase.recovers] at hr

theorem safe_submitApprovalDecision {requestId : ApprovalRequestId} {verdict : ApprovalVerdict}
    {version : Nat} {approverId approverRole : String} (hs : JournalInv s) (hstart : x.start = s)
    (hcall : x.call =
      .submitApprovalDecision t k requestId verdict version approverId approverRole) :
    KSafe x x.call.writes anyError (fun _ _ => True)
      (submitApprovalDecision x.env t k requestId verdict version approverId approverRole) s := by
  have hcase : CaseCall x t k :=
    ⟨fun b ht hk => by simp [hcall, Call.about, ht, hk], by simp [hcall, Call.recovers]⟩
  have hwp : Part.policy ∈ x.call.advances := by simp [hcall, Call.advances]
  have hwd : Part.delivery ∈ x.call.advances := by simp [hcall, Call.advances]
  have hwc : Part.checkpoint ∈ x.call.advances := by simp [hcall, Call.advances]
  unfold submitApprovalDecision
  refine safe_bind.mpr (safe_check.mpr ⟨fun _ => ?_, fun _ => trivial⟩)
  refine safe_bind.mpr (safe_observe.mpr ?_)
  refine safe_bind.mpr (safe_need.mpr ⟨fun a ha => ?_, fun _ => trivial⟩)
  have hcaseId : a.caseId = k := (activationForCaseForTenant_mem ha).2.2
  obtain ⟨hbound, rfl⟩ := hcase.bound hs hstart ha
  refine safe_bind.mpr (safe_observe.mpr ?_)
  refine safe_bind.mpr (safe_need.mpr ⟨fun request hrequest => ?_, fun _ => trivial⟩)
  refine safe_bind.mpr (safe_check.mpr ⟨fun hid => ?_, fun _ => trivial⟩)
  refine safe_bind.mpr (safe_observe.mpr ?_)
  refine safe_bind.mpr (safe_need.mpr ⟨fun c hc => ?_, fun _ => trivial⟩)
  have hready := hbound.ready hcase.recovers hc
  have happly : ∀ (s' : WorkflowStore) (d : SealedApproval), Ready x s' a c →
      s'.approvalRequestForWorkflow a.tenantId a.workflowId = some request →
      s'.approvalDecisionForRequest a.tenantId request.approvalRequestId = some d →
      KSafe x x.call.writes anyError (fun _ _ => True)
        (applyPersistedApprovalDecision x.env a c request d) s' := by
    intro s' d hready' hrequest' hd'
    exact (safe_applyPersistedApprovalDecision permits_anyError hwd hwc hready' hrequest' hd').mono
      (fun _ _ => id) (fun _ _ _ => trivial) fun _ _ => id
  rw [decide_eq_true_eq] at hid
  subst hid
  refine safe_bind.mpr (safe_observe.mpr ?_)
  cases hstored : s.approvalDecisionForRequest a.tenantId request.approvalRequestId with
  | some existing =>
      refine safe_bind.mpr (safe_check.mpr ⟨fun _ => ?_, fun _ => trivial⟩)
      exact happly s existing hready hrequest hstored
  | none =>
      refine safe_bind.mpr (safe_check.mpr ⟨fun hversion => ?_, fun _ => trivial⟩)
      refine safe_bind.mpr (safe_check.mpr ⟨fun hstate => ?_, fun _ => trivial⟩)
      refine safe_bind.mpr (safe_need.mpr ⟨fun d hd => ?_, fun _ => trivial⟩)
      refine safe_bind.mpr (safe_atomically.mpr ⟨fun _ _ => trivial, fun result s' h => ?_⟩)
      -- the decision is about the stored request, which is the workflow's
      have hrequestT : request.tenantId = a.tenantId :=
        (of_decide_eq_true (List.mem_filter.mp (List.mem_of_head? hrequest)).2).1
      have ht : d.body.tenantId = a.tenantId := by
        rw [(validated_eq_some.mp hd).2]
        exact hrequestT
      simp only [insertApproval, ht, hstored, fetch_bind_eq_ok, Table.insert?_eq_some, pure,
        Except.pure, Except.ok.injEq, Prod.mk.injEq] at h
      obtain ⟨_, ⟨hfresh, rfl⟩, rfl, rfl⟩ := h
      have hid : d.body.approvalRequestId = request.approvalRequestId := by
        rw [(validated_eq_some.mp hd).2]
        rfl
      have hrow : WorkflowStore.approvalDecisionForRequest
          { s with policy := { s.policy with approvals := s.policy.approvals ++ [d] } } a.tenantId
          request.approvalRequestId = some d := by
        have hnone : s.policy.approvals.find? _ = none := hstored
        unfold WorkflowStore.approvalDecisionForRequest
        rw [List.find?_append, hnone]
        simp [ht, hid]
      refine ⟨Or.inr (policy_effect hwp ?_), happly _ d (hready.of_journal rfl rfl) hrequest hrow⟩
      have hcallAt : x.call = .submitApprovalDecision a.tenantId a.caseId request.approvalRequestId
          verdict c.payload.workflowVersion approverId approverRole := by
        rw [hcall, of_decide_eq_true hversion, hcaseId]
      exact .approval hready.mem hready.about hready.latest (of_decide_eq_true hstate) hrequest
        hstart.symm hcallAt hd hstored hfresh

theorem safe_revokeFixtureGrant (hs : JournalInv s) (hstart : x.start = s)
    (hcall : x.call = .revokeFixtureGrant t k) :
    KSafe x x.call.writes anyError (fun _ _ => True) (revokeFixtureGrant x.env t k) s := by
  have hcase : CaseCall x t k :=
    ⟨fun b ht hk => by simp [hcall, Call.about, ht, hk], by simp [hcall, Call.recovers]⟩
  have hw : Part.policy ∈ x.call.advances := by simp [hcall, Call.advances]
  unfold revokeFixtureGrant
  refine safe_bind.mpr (safe_observe.mpr ?_)
  refine safe_bind.mpr (safe_need.mpr ⟨fun a ha => ?_, fun _ => trivial⟩)
  obtain ⟨hbound, rfl⟩ := hcase.bound hs hstart ha
  obtain ⟨-, -, rfl⟩ := activationForCaseForTenant_mem ha
  refine safe_bind.mpr (safe_observe.mpr ?_)
  refine safe_bind.mpr (safe_need.mpr ⟨fun grant hgrant => ?_, fun _ => trivial⟩)
  refine safe_atomically.mpr ⟨fun _ _ => trivial, fun _ s' h => ⟨?_, trivial⟩⟩
  split at h
  · simp only [Except.ok.injEq, Prod.mk.injEq, true_and] at h
    exact Or.inl h.symm
  · simp only [fetch_bind_eq_ok, Table.insert?_eq_some, pure, Except.pure, Except.ok.injEq,
      Prod.mk.injEq, true_and] at h
    obtain ⟨_, ⟨hfresh, rfl⟩, rfl⟩ := h
    exact Or.inr (policy_effect hw (.revoke hbound.mem hbound.about hgrant hfresh hcall))

end WeFlow
