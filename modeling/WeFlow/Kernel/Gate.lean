import WeFlow.Kernel.Safety.Program

/-!
# `Gate` — the approval is a gate

Persisting a decision and applying it are two transactions, and whatever is called between them finds
the first without the second. What holds across all orders is said by the tables alone: a request has
one decision, a workflow one request, and a workflow that delivers, or will resume into delivering, has
an approved decision on it.

## Contents

* `Open`, `GateInv` — the invariant; `Effect.gateInv` — every transaction keeps it.
* `Submitted` — what a new decision row says of the call that wrote it.
* `submitApprovalDecision_conflict` — a submission that differs from the stored decision only reads.
* `approval_gate` — all of it, over every run.
-/

namespace WeFlow

open Prog

variable {x : Context} {s s' : WorkflowStore} {part : Part}

/-! ## The invariant -/

namespace WorkflowStore

/-- The request of a workflow is approved. -/
def Open (s : WorkflowStore) (t : String) (w : WorkflowId) : Prop :=
  ∃ r ∈ s.requestsOf t w, ∃ d ∈ s.policy.approvals, d.body.tenantId = t ∧
    d.body.approvalRequestId = r.approvalRequestId ∧ d.body.decision = .approved

/-- Decisions on a request. -/
def decisionsOn (s : WorkflowStore) (t : String) (requestId : ApprovalRequestId) :
    List SealedApproval :=
  s.policy.approvals.filter fun d => d.body.tenantId = t ∧ d.body.approvalRequestId = requestId

end WorkflowStore

/-- The checkpoint delivers, or resumes into delivering. -/
def CheckpointPayload.Delivers (c : CheckpointPayload) : Prop :=
  c.currentState = .delivering ∨ c.resumeState = .delivering

/-- **The invariant of the gate.** -/
structure GateInv (s : WorkflowStore) : Prop where
  requests : Table.Distinct ApprovalRequest.clash s.policy.requests
  approvals : Table.Distinct approvalClash s.policy.approvals
  opened : ∀ c ∈ s.journal.checkpoints, c.payload.Delivers →
    s.Open c.payload.tenantId c.payload.workflowId

theorem gateInv_empty : GateInv {} where
  requests := Table.distinct_nil _
  approvals := Table.distinct_nil _
  opened := fun _ hc => absurd hc List.not_mem_nil

/-! ## One transaction -/

/-- Requests and decisions are only ever appended. -/
theorem PolicyStep.gate_grow {policy : PolicyTables} (h : PolicyStep x s policy) :
    s.policy.requests <+: policy.requests ∧ s.policy.approvals <+: policy.approvals := by
  cases h with
  | request => exact ⟨List.prefix_append _ _, List.prefix_rfl⟩
  | approval => exact ⟨List.prefix_rfl, List.prefix_append _ _⟩
  | _ => exact ⟨List.prefix_rfl, List.prefix_rfl⟩

theorem Effect.gate_grow (h : Effect x s part s') :
    s.policy.requests <+: s'.policy.requests ∧ s.policy.approvals <+: s'.policy.approvals := by
  by_cases hpart : part = .policy
  · cases h with
    | policy step => exact step.gate_grow
    | prepare step => exact absurd hpart step.not_part.1
    | _ => exact absurd hpart nofun
  · rw [h.policy_eq hpart]
    exact ⟨List.prefix_rfl, List.prefix_rfl⟩

/-- An open gate stays open. -/
theorem WorkflowStore.Open.mono {t : String} {w : WorkflowId} (h : s.Open t w)
    (hr : s.policy.requests <+: s'.policy.requests)
    (hd : s.policy.approvals <+: s'.policy.approvals) : s'.Open t w := by
  obtain ⟨r, hrow, d, hdecision, hrest⟩ := h
  refine ⟨r, ?_, d, hd.subset hdecision, hrest⟩
  exact (hr.filter _).subset hrow

/-- A command delivers only where its workflow did. -/
theorem Applies.delivers {a : WorkflowActivation} {c : CheckpointPayload} {command : WorkflowCommand}
    {r : TransitionRequest} (h : Applies s a c command r)
    (hr : r.nextState = .delivering ∨ r.resumeState = .delivering) : c.Delivers := by
  cases h with
  | pause => exact Or.inl (hr.resolve_left nofun)
  | resume => exact Or.inr (hr.elim id id)
  | cancel => exact (hr.elim nofun nofun)
  | absorb => exact Or.inl (hr.resolve_left nofun)

/-- **A transition into delivering** comes out of it, or grants an approval. -/
theorem Advance.delivers {a : WorkflowActivation} {c : Checkpoint} {r : TransitionRequest}
    (h : Advance x s a c r) (hr : r.nextState = .delivering ∨ r.resumeState = .delivering) :
    c.payload.Delivers ∨ s.Open a.tenantId a.workflowId := by
  cases h with
  | @approvalGranted request d requested decided approved =>
      right
      have hkey := List.find?_some decided
      rw [decide_eq_true_eq] at hkey
      exact ⟨request, List.mem_of_head? requested, d, List.mem_of_find?_eq_some decided, hkey.1,
        hkey.2, approved⟩
  | reconcile origin state => exact Or.inl (Or.inl (hr.resolve_left nofun))
  | reconciled => exact Or.inl (Or.inr (hr.elim id id))
  | deliveryReconciled => exact Or.inl (Or.inr (hr.elim id id))
  | _ => exact hr.elim nofun nofun

/-- The latest checkpoint's workflow is open if it delivers. -/
theorem GateInv.open_latest {a : WorkflowActivation} {c : Checkpoint} (hs : GateInv s)
    (hlatest : s.latestCheckpoint? a.tenantId a.workflowId = some c) (hc : c.payload.Delivers) :
    s.Open a.tenantId a.workflowId := by
  obtain ⟨hmem, ht, hw⟩ := WorkflowStore.latestCheckpoint?_mem hlatest
  have hopen := hs.opened c hmem hc
  rwa [ht, hw] at hopen

theorem Reason.open {a : WorkflowActivation} {r : CheckpointRequest} (h : Reason x s a r)
    (hs : GateInv s) (hr : r.currentState = .delivering ∨ r.resumeState = .delivering) :
    s.Open a.tenantId a.workflowId := by
  cases h with
  | ticketProgress => exact hr.elim nofun nofun
  | deliveryProgress latest state => exact hs.open_latest latest (Or.inl state)
  | advance latest advance =>
      rcases advance.delivers hr with hc | hopen
      · exact hs.open_latest latest hc
      · exact hopen

theorem Prepares.open {a : WorkflowActivation} {r : CheckpointRequest} (h : Prepares x s a part r)
    (hs : GateInv s) (hr : r.currentState = .delivering ∨ r.resumeState = .delivering) :
    s.Open a.tenantId a.workflowId := by
  cases h with
  | initial => exact hr.elim nofun nofun
  | command latest _ _ _ _ applies => exact hs.open_latest latest (applies.delivers hr)

/-- A checkpoint that finds the gate open, or needs none. -/
theorem GateInv.withCheckpoint {env : Env} {a : WorkflowActivation} {r : CheckpointRequest}
    (hs : GateInv s) (hopen : r.currentState = .delivering ∨ r.resumeState = .delivering →
      s.Open a.tenantId a.workflowId) : GateInv (s.withCheckpoint env a r) := by
  refine ⟨hs.requests, hs.approvals, fun c hc hdelivers => ?_⟩
  rcases List.mem_append.mp hc with hc | hc
  · exact hs.opened c hc hdelivers
  · rw [List.mem_singleton.mp hc] at hdelivers ⊢
    exact hopen hdelivers

theorem PolicyStep.gateInv {policy : PolicyTables} (h : PolicyStep x s policy) (hs : GateInv s) :
    GateInv { s with policy } := by
  have hopened : ∀ c ∈ s.journal.checkpoints, c.payload.Delivers →
      WorkflowStore.Open { s with policy } c.payload.tenantId c.payload.workflowId := by
    intro c hc hdelivers
    exact (hs.opened c hc hdelivers).mono h.gate_grow.1 h.gate_grow.2
  cases h with
  | request _ _ _ _ _ fresh => exact ⟨hs.requests.append_one fresh, hs.approvals, hopened⟩
  | approval _ _ _ _ _ _ _ _ _ fresh =>
      exact ⟨hs.requests, hs.approvals.append_one fresh, hopened⟩
  | _ => exact ⟨hs.requests, hs.approvals, hopened⟩

/-- **Every transaction keeps the invariant of the gate.** -/
theorem Effect.gateInv (h : Effect x s part s') (hs : GateInv s) : GateInv s' := by
  cases h with
  | policy step => exact step.gateInv hs
  | checkpoint reason => exact hs.withCheckpoint (reason.open hs)
  | prepare step =>
      cases step with
      | checkpoint reason => exact hs.withCheckpoint (reason.open hs)
      | rebuildWorkflow rebuilt =>
          obtain ⟨rows, _, rfl⟩ := WorkflowStore.rebuildWorkflowProjection_eq_ok rebuilt
          exact ⟨hs.requests, hs.approvals, hs.opened⟩
      | _ => exact ⟨hs.requests, hs.approvals, hs.opened⟩
  | _ => exact ⟨hs.requests, hs.approvals, hs.opened⟩

/-! ## What the tables say -/

/-- **A request has one decision.** -/
theorem GateInv.one_decision (hs : GateInv s) (t : String) (requestId : ApprovalRequestId) :
    (s.decisionsOn t requestId).length ≤ 1 := by
  refine hs.approvals.filter_key_le_one fun d e hd he => ?_
  rw [decide_eq_true_eq] at hd he
  exact decide_eq_true ⟨hd.1.trans he.1.symm, Or.inr (Or.inl (hd.2.trans he.2.symm))⟩

/-- **A workflow has one request.** -/
theorem GateInv.one_request (hs : GateInv s) (t : String) (w : WorkflowId) :
    (s.requestsOf t w).length ≤ 1 := by
  refine hs.requests.filter_key_le_one fun r q hr hq => ?_
  rw [decide_eq_true_eq] at hr hq
  exact decide_eq_true ⟨hr.1.trans hq.1.symm, Or.inr (hr.2.trans hq.2.symm)⟩

/-- The decision that a submission finds is the one there is. -/
theorem GateInv.approvalDecisionForRequest_eq (hs : GateInv s) {d : SealedApproval}
    (hd : d ∈ s.policy.approvals) :
    s.approvalDecisionForRequest d.body.tenantId d.body.approvalRequestId = some d := by
  have hrow : d ∈ s.decisionsOn d.body.tenantId d.body.approvalRequestId :=
    List.mem_filter.mpr ⟨hd, decide_eq_true ⟨rfl, rfl⟩⟩
  have hhead : s.approvalDecisionForRequest d.body.tenantId d.body.approvalRequestId =
      (s.decisionsOn d.body.tenantId d.body.approvalRequestId).head? := List.head?_filter.symm
  rw [hhead, Table.eq_singleton hrow (hs.one_decision _ _), List.head?_cons]

/-! ## Submissions -/

/-- The workflow awaits a decision on a request, at a version. -/
structure Awaits (s : WorkflowStore) (a : WorkflowActivation) (requestId : ApprovalRequestId)
    (version : Nat) : Prop where
  mem : a ∈ s.journal.activations
  requested : ∃ r, s.approvalRequestForWorkflow a.tenantId a.workflowId = some r ∧
    r.approvalRequestId = requestId
  latest : ∃ c, s.latestCheckpoint? a.tenantId a.workflowId = some c ∧
    c.payload.currentState = .awaitingApproval ∧ c.payload.workflowVersion = version

/-- The call submits this decision, and the workflow awaits it. -/
def Submitted (call : Call) (s : WorkflowStore) (d : SealedApproval) : Prop :=
  ∃ a version, Awaits s a d.body.approvalRequestId version ∧
    call = .submitApprovalDecision d.body.tenantId a.caseId d.body.approvalRequestId d.body.decision
      version d.body.approverId d.body.approverRole ∧ d.body.tenantId = a.tenantId

theorem PolicyStep.submitted {policy : PolicyTables} (h : PolicyStep x s policy)
    {d : SealedApproval} (hd : d ∈ policy.approvals) :
    d ∈ s.policy.approvals ∨ Submitted x.call x.start d := by
  cases h with
  | @approval a c request approverId approverRole verdict e mem _ latest state requested start call
      built =>
      rcases List.mem_append.mp hd with hd | hd
      · exact Or.inl hd
      · right
        rw [List.mem_singleton.mp hd]
        have hbody := (validated_eq_some.mp built).2
        have htenant : request.tenantId = a.tenantId :=
          (of_decide_eq_true (List.mem_filter.mp (List.mem_of_head? requested)).2).1
        rw [hbody]
        refine ⟨a, c.payload.workflowVersion, start ▸ ⟨mem, ⟨request, requested, rfl⟩, c, latest, state,
          rfl⟩, ?_, htenant⟩
        rw [call]
        simp [Sealed.of, htenant]
  | _ => exact Or.inl hd

/-- **A new decision** is the one that the call submits, to a workflow that awaits it. -/
theorem Step.submitted {step : Step} (hj : JournalInv s) (henabled : step.call.enabled s = true)
    {d : SealedApproval} (hd : d ∈ (s.after step).policy.approvals) :
    d ∈ s.policy.approvals ∨ Submitted step.call s d := by
  have hinv : JournalInv (s.after step) ∧ ∀ d ∈ (s.after step).policy.approvals,
      d ∈ s.policy.approvals ∨ Submitted step.call s d := by
    refine @invariant_of_reaches _ _ (fun s₁ => JournalInv s₁ ∧ ∀ d ∈ s₁.policy.approvals,
      d ∈ s.policy.approvals ∨ Submitted step.call s d) _ _ ?_ (step.reaches hj henabled)
      ⟨hj, fun d hd => Or.inl hd⟩
    rintro s₁ s₂ ⟨part, _, heffect⟩ ⟨hj₁, hrows⟩
    refine ⟨heffect.journalInv hj₁, fun d hd => ?_⟩
    by_cases hpart : part = .policy
    · cases heffect with
      | policy policyStep =>
          rcases policyStep.submitted hd with hold | hnew
          · exact hrows d hold
          · exact Or.inr hnew
      | prepare prepareStep => exact absurd hpart prepareStep.not_part.1
      | _ => exact absurd hpart nofun
    · rw [heffect.policy_eq hpart] at hd
      exact hrows d hd
  exact hinv.2 d hd

/-- **A conflicting submission** changes nothing, wherever it dies. -/
theorem submitApprovalDecision_conflict {env : Env} {k : CaseId} {verdict : ApprovalVerdict}
    {version : Nat} {approverId approverRole : String} (hs : GateInv s) {d : SealedApproval}
    (hd : d ∈ s.policy.approvals)
    (hconflict : ¬ (d.body.decision = verdict ∧ d.body.approverId = approverId ∧
      d.body.approverRole = approverRole)) (n : Nat) :
    (exec (programOf env (.submitApprovalDecision d.body.tenantId k d.body.approvalRequestId verdict
      version approverId approverRole)) n s).2 = s := by
  refine exec_readOnly (Q := fun _ _ => False) (E := fun _ _ => True) ?_ n
  -- every path ends with an error in front of the first write
  refine safe_bind.mpr ?_
  unfold submitApprovalDecision
  refine safe_bind.mpr (safe_check.mpr ⟨fun _ => ?_, fun _ => trivial⟩)
  refine safe_bind.mpr (safe_observe.mpr ?_)
  refine safe_bind.mpr (safe_need.mpr ⟨fun a _ => ?_, fun _ => trivial⟩)
  refine safe_bind.mpr (safe_observe.mpr ?_)
  refine safe_bind.mpr (safe_need.mpr ⟨fun request _ => ?_, fun _ => trivial⟩)
  refine safe_bind.mpr (safe_check.mpr ⟨fun _ => ?_, fun _ => trivial⟩)
  refine safe_bind.mpr (safe_observe.mpr ?_)
  refine safe_bind.mpr (safe_need.mpr ⟨fun c _ => ?_, fun _ => trivial⟩)
  refine safe_bind.mpr (safe_observe.mpr ?_)
  rw [hs.approvalDecisionForRequest_eq hd]
  refine safe_bind.mpr (safe_check.mpr ⟨fun hsame => ?_, fun _ => trivial⟩)
  exact absurd (of_decide_eq_true hsame) hconflict

/-! ## Runs -/

theorem run_gateInv {steps : List Step} (h : Along anyCall {} steps = true) :
    JournalInv (run steps) ∧ GateInv (run steps) :=
  run_effects (fun _ s => GateInv s) (fun _ _ hinv _ _ => hinv)
    (fun _ _ _ _ _ _ heffect _ hinv => heffect.gateInv hinv) (fun _ _ _ hinv => hinv)
    gateInv_empty h

end WeFlow
