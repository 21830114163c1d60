import WeFlow.Kernel.Safety.Advance

/-!
# `Safety.Ticket` — the ticket effects

The effect protocol takes only transactions of `TicketStep`, whatever it finds, and it reports a
completion only when one is stored. `safe_driveTicket` is the branch of a recovery that carries a
workflow out of `RECEIVED`.
-/

namespace WeFlow

open Txn Prog

variable {x : Context} {E : WorkflowError → WorkflowStore → Prop} {s : WorkflowStore}
  {a : WorkflowActivation} {c : Checkpoint} {i : SideEffectIntent}

/-- A step of the ticket tables is a transaction of the call. -/
theorem ticket_effect {ticket : TicketTables} (hw : Part.ticket ∈ x.call.advances)
    (h : TicketStep x s ticket) : Effects x x.call.writes s { s with ticket } :=
  ⟨.ticket, writes_of_advances hw, .ticket h⟩

theorem grows_ticket {ticket : TicketTables} (hi : s.ticket.intents <+: ticket.intents)
    (hc : s.ticket.completions <+: ticket.completions) : Grows s { s with ticket } :=
  { Grows.refl s with intents := hi, completions := hc }

/-! ## Observations and completions -/

/-- An observation that is stored afterwards is the new one, up to its time. -/
theorem insertObservation_cases {o o' : SideEffectObservation} {s' : WorkflowStore}
    (h : insertObservation o s = .ok (o', s')) :
    { o' with recordedAt := o.recordedAt } = o ∧
    ((s' = s ∧ o' ∈ s.ticket.observations) ∨
      (∀ y ∈ s.ticket.observations, o.clash y = false) ∧ o' = o ∧
        s' = { s with ticket := { s.ticket with observations := s.ticket.observations ++ [o] } }) := by
  unfold insertObservation at h
  cases hfind : s.ticket.observations.find? (fun y =>
      decide (y.tenantId = o.tenantId ∧ y.observationId = o.observationId)) with
  | some existing =>
      simp only [hfind, require_bind_eq_ok, decide_eq_true_eq, pure, Except.pure, Except.ok.injEq,
        Prod.mk.injEq] at h
      obtain ⟨hsame, rfl, rfl⟩ := h
      exact ⟨hsame, Or.inl ⟨rfl, List.mem_of_find?_eq_some hfind⟩⟩
  | none =>
      simp only [hfind, fetch_bind_eq_ok, Table.insert?_eq_some, pure, Except.pure, Except.ok.injEq,
        Prod.mk.injEq] at h
      obtain ⟨_, ⟨hfresh, rfl⟩, rfl, rfl⟩ := h
      exact ⟨rfl, Or.inr ⟨hfresh, rfl, rfl⟩⟩

theorem safe_recordObservation {phase : EffectPhase} {outcome : TicketOutcome}
    {Q : SideEffectObservation → WorkflowStore → Prop} (hE : Permits E)
    (hw : Part.ticket ∈ x.call.advances) (hmem : i ∈ s.ticket.intents)
    (hinc : s.completionForIntent i.tenantId i.intentId = none)
    (hreports : Reports x s i phase outcome)
    (hQ : ∀ o observations, o ∈ observations →
      { o with recordedAt := x.env.now } = newObservation x.env i phase outcome →
      Q o { s with ticket := { s.ticket with observations } }) :
    KSafe x x.call.writes E Q (recordObservation x.env i phase outcome) s := by
  unfold recordObservation
  simp only [safe_bind, safe_check]
  refine ⟨fun hvalid => safe_txn hE ?_ fun o s' h => ?_, fun _ => hE _ _ rfl⟩
  · unfold insertObservation
    split <;> simp [WorkflowError.ofRecord]
  · obtain ⟨hsame, ⟨rfl, hstored⟩ | ⟨hfresh, rfl, rfl⟩⟩ := insertObservation_cases h
    · exact ⟨Or.inl rfl, hQ o _ hstored hsame⟩
    · refine ⟨Or.inr (ticket_effect hw (.observe hmem hinc hreports hvalid hfresh)), ?_⟩
      exact hQ _ _ (List.mem_append_right _ (List.mem_singleton_self _)) hsame

theorem newCompletion_key {env : Env} {o : SideEffectObservation} {d : SideEffectCompletion}
    (h : newCompletion env i o = some d) :
    d.tenantId = i.tenantId ∧ d.intentId = i.intentId ∧ d.workflowId = i.workflowId := by
  unfold newCompletion at h
  split at h
  · rw [← Option.some.inj h]
    exact ⟨rfl, rfl, rfl⟩
  · exact absurd h nofun

theorem safe_recordCompletion {o : SideEffectObservation}
    {Q : SideEffectCompletion → WorkflowStore → Prop} (hE : Permits E)
    (hw : Part.ticket ∈ x.call.advances) (hmem : i ∈ s.ticket.intents)
    (hinc : s.completionForIntent i.tenantId i.intentId = none)
    (hobserved : o ∈ s.ticket.observations)
    (howner : o.tenantId = i.tenantId ∧ o.intentId = i.intentId)
    (hQ : ∀ d completions, s.ticket.completions <+: completions → d ∈ completions →
      d.tenantId = i.tenantId → d.intentId = i.intentId →
      Q d { s with ticket := { s.ticket with completions } }) :
    KSafe x x.call.writes E Q (recordCompletion x.env i o) s := by
  unfold recordCompletion
  simp only [safe_bind, safe_check, safe_need]
  refine ⟨fun d hbuilt => ⟨fun hvalid => safe_txn hE ?_ fun d' s' h => ?_, fun _ => hE _ _ rfl⟩,
    fun _ => hE _ _ rfl⟩
  · unfold insertCompletion
    split <;> simp [WorkflowError.ofRecord]
  · obtain ⟨ht, hi, _⟩ := newCompletion_key hbuilt
    simp only [insertCompletion, ht, hi, hinc, fetch_bind_eq_ok, Table.insert?_eq_some, pure,
      Except.pure, Except.ok.injEq, Prod.mk.injEq] at h
    obtain ⟨_, ⟨hfresh, rfl⟩, rfl, rfl⟩ := h
    refine ⟨Or.inr (ticket_effect hw (.complete hmem hinc hobserved howner hbuilt hvalid hfresh)), ?_⟩
    exact hQ _ _ (List.prefix_append _ _) (List.mem_append_right _ (List.mem_singleton_self _)) ht hi

/-! ## Execution -/

/-- An execution reports a stored operation, or a conflict it leaves no trace of. -/
theorem executeIntent_cases {env : Env} {outcome : TicketOutcome} {s' : WorkflowStore}
    (h : executeIntent env i s = .ok (outcome, s')) :
    (s' = s ∧ outcome = .conflict .expectedVersionConflict) ∨
    (s' = s ∧ ∃ o, s.ticketOperation? i.tenantId i.idempotencyKey = some o ∧ outcome = o.outcome) ∨
    s.ticketOperation? i.tenantId i.idempotencyKey = none ∧
    ∃ r revisions, executedRevision env i s = .ok (some (r, revisions)) ∧
      (∀ o ∈ s.ticket.operations,
        (newTicketOperation env i (s.expectedHandoffVersion i) r).clash o = false) ∧
      outcome = (newTicketOperation env i (s.expectedHandoffVersion i) r).outcome ∧
      s' =
        { s with
          ticket :=
            { s.ticket with
              revisions
              operations := s.ticket.operations ++
                [newTicketOperation env i (s.expectedHandoffVersion i) r] } } := by
  unfold executeIntent at h
  cases hstored : s.ticketOperation? i.tenantId i.idempotencyKey with
  | some o =>
      simp only [hstored, Except.ok.injEq, Prod.mk.injEq] at h
      exact Or.inr (Or.inl ⟨h.2.symm, o, rfl, h.1.symm⟩)
  | none =>
      simp only [hstored, bind_eq_ok] at h
      obtain ⟨result, hresult, h⟩ := h
      cases result with
      | none =>
          simp only [pure, Except.pure, Except.ok.injEq, Prod.mk.injEq] at h
          exact Or.inl ⟨h.2.symm, h.1.symm⟩
      | some pair =>
          obtain ⟨r, revisions⟩ := pair
          simp only [fetch_bind_eq_ok, Table.insert?_eq_some, pure, Except.pure, Except.ok.injEq,
            Prod.mk.injEq] at h
          obtain ⟨_, ⟨hfresh, rfl⟩, rfl, rfl⟩ := h
          exact Or.inr (Or.inr ⟨rfl, r, revisions, hresult, hfresh, rfl, rfl⟩)

theorem raises_executeIntent {env : Env} :
    Raises (fun e => e.ofRecord = false) (executeIntent env i s) := by
  unfold executeIntent
  split
  · simp
  · refine raises_bind.mpr ⟨?_, fun result _ => ?_⟩
    · unfold executedRevision
      dsimp only
      split
      · split <;> simp [WorkflowError.ofRecord]
      · split
        · split <;> simp [WorkflowError.ofRecord]
        · simp
    · cases result <;> simp [WorkflowError.ofRecord]

theorem safe_executeIntent {Q : TicketOutcome → WorkflowStore → Prop} (hE : Permits E)
    (hw : Part.ticket ∈ x.call.advances) (hmem : i ∈ s.ticket.intents)
    (hinc : s.completionForIntent i.tenantId i.intentId = none)
    (hQ : ∀ outcome revisions operations,
      Reports x { s with ticket := { s.ticket with revisions, operations } } i .execute outcome →
      Q outcome { s with ticket := { s.ticket with revisions, operations } }) :
    KSafe x x.call.writes E Q (atomically (executeIntent x.env i)) s := by
  refine safe_txn hE raises_executeIntent fun outcome s' h => ?_
  rcases executeIntent_cases h with ⟨rfl, rfl⟩ | ⟨rfl, o, hstored, rfl⟩ |
    ⟨hnew, r, revisions, hexecuted, hfresh, rfl, rfl⟩
  · exact ⟨Or.inl rfl, hQ _ s'.ticket.revisions s'.ticket.operations .refused⟩
  · exact ⟨Or.inl rfl, hQ _ s'.ticket.revisions s'.ticket.operations (.executed hstored)⟩
  · refine ⟨Or.inr (ticket_effect hw (.execute hmem hinc hnew hexecuted hfresh)), ?_⟩
    refine hQ _ _ _ (.executed ?_)
    -- the row that was appended is the first one with its key
    unfold WorkflowStore.ticketOperation? at hnew ⊢
    rw [List.find?_append, hnew]
    simp [newTicketOperation]

/-! ## The effect protocol -/

/-- **`_process_intent`** reports a completion only when one is stored. -/
theorem safe_processIntent {Q : Option SideEffectCompletion → WorkflowStore → Prop} (hE : Permits E)
    (hw : Part.ticket ∈ x.call.advances) (hmem : i ∈ s.ticket.intents)
    (hQ : ∀ result ticket, ticket.intents = s.ticket.intents →
      s.ticket.completions <+: ticket.completions →
      (∀ d, result = some d → d ∈ ticket.completions ∧ d.tenantId = i.tenantId ∧
        d.intentId = i.intentId) →
      (result.isSome → s.completionForIntent i.tenantId i.intentId = none →
        x.env.reconciliationTimeout = false) →
      Q result { s with ticket }) :
    KSafe x x.call.writes E Q (processIntent x.env i) s := by
  unfold processIntent
  simp only [safe_bind, safe_observe]
  cases hstored : s.completionForIntent i.tenantId i.intentId with
  | some d =>
      have hkey := List.find?_some hstored
      refine hQ (some d) s.ticket rfl List.prefix_rfl (fun d' hd' => ?_)
        fun _ hnone => absurd (hstored.symm.trans hnone) (Option.some_ne_none _)
      rw [← Option.some.inj hd']
      exact ⟨List.mem_of_find?_eq_some hstored, of_decide_eq_true hkey⟩
  | none =>
      have hblocked : ∀ ticket : TicketTables, ticket.intents = s.ticket.intents →
          ticket.completions = s.ticket.completions → Q none { s with ticket } := by
        intro ticket hi hc
        exact hQ none ticket hi (hc ▸ List.prefix_rfl) (fun d hd => by cases hd) (fun hsome => by cases hsome)
      by_cases htimeout : x.env.reconciliationTimeout = true
      · simp only [htimeout, if_true, safe_bind]
        refine safe_recordObservation hE hw hmem hstored (.timeout htimeout) fun o observations _ _ => ?_
        exact hblocked { s.ticket with observations } rfl rfl
      · have hcalm : x.env.reconciliationTimeout = false := by simpa using htimeout
        simp only [hcalm]
        refine safe_bind.mpr (safe_observe.mpr ?_)
        refine safe_bind.mpr (safe_recordObservation hE hw hmem hstored .reconciled ?_)
        intro o observations ho hsame
        -- an observation of this intent, which stays the intent's until it is completed
        have howner : o.tenantId = i.tenantId ∧ o.intentId = i.intentId := by
          constructor
          · exact (congrArg SideEffectObservation.tenantId hsame :)
          · exact (congrArg SideEffectObservation.intentId hsame :)
        cases hstatus : (s.reconcileIntent i).status with
        | unknown => exact hblocked { s.ticket with observations } rfl rfl
        | conflict => exact hblocked { s.ticket with observations } rfl rfl
        | present =>
            refine safe_bind.mpr (safe_recordCompletion hE hw hmem hstored ho howner ?_)
            intro d completions hgrows hd ht hi
            refine hQ (some d) { s.ticket with observations, completions } rfl hgrows (fun d' hd' => ?_)
              fun _ _ => hcalm
            rw [← Option.some.inj hd']
            exact ⟨hd, ht, hi⟩
        | absent =>
            refine safe_bind.mpr (safe_executeIntent hE hw hmem hstored ?_)
            intro outcome revisions operations hreports
            refine safe_bind.mpr (safe_recordObservation hE hw hmem hstored hreports ?_)
            intro o observations ho hsame
            have howner : o.tenantId = i.tenantId ∧ o.intentId = i.intentId := by
              constructor
              · exact (congrArg SideEffectObservation.tenantId hsame :)
              · exact (congrArg SideEffectObservation.intentId hsame :)
            by_cases hpresent : outcome.status = .present
            · simp only [hpresent, ne_eq, not_true_eq_false, if_false]
              refine safe_bind.mpr (safe_recordCompletion hE hw hmem hstored ho howner ?_)
              intro d completions hgrows hd ht hi
              refine hQ (some d) { s.ticket with revisions, operations, observations, completions }
                rfl hgrows (fun d' hd' => ?_) fun _ _ => hcalm
              rw [← Option.some.inj hd']
              exact ⟨hd, ht, hi⟩
            · simp only [ne_eq, hpresent, not_false_eq_true, if_true]
              exact hblocked { s.ticket with revisions, operations, observations } rfl rfl

/-- **`_ensure_intent`** finds the intent of an operation or persists it. -/
theorem safe_ensureIntent {operation : TicketOperation} {Q : SideEffectIntent → WorkflowStore → Prop}
    (hE : Permits E) (hw : Part.ticket ∈ x.call.advances) (hready : Ready x s a c)
    (hstate : c.payload.currentState = .received)
    (hprior : operation = .workflowHandoff → s.Completed a .findOrCreate)
    (hQ : ∀ i intents, s.ticket.intents <+: intents → i ∈ intents → i.tenantId = a.tenantId →
      i.workflowId = a.workflowId → i.operation = operation →
      Q i { s with ticket := { s.ticket with intents } }) :
    KSafe x x.call.writes E Q (ensureIntent x.env a c operation) s := by
  unfold ensureIntent
  simp only [safe_bind, safe_check]
  refine ⟨fun hvalid => safe_txn hE ?_ fun i s' h => ?_, fun _ => hE _ _ rfl⟩
  · unfold insertIntent
    split <;> simp [WorkflowError.ofRecord]
  · unfold insertIntent at h
    cases hstored : s.intentForOperation a.tenantId a.workflowId operation with
    | some existing =>
        simp only [newIntent, hstored, require_bind_eq_ok, pure, Except.pure, Except.ok.injEq,
          Prod.mk.injEq] at h
        obtain ⟨_, rfl, rfl⟩ := h
        have hkey := List.find?_some hstored
        obtain ⟨ht, hwf, hop⟩ := of_decide_eq_true hkey
        refine ⟨Or.inl rfl, hQ _ s.ticket.intents List.prefix_rfl ?_ ht hwf hop⟩
        exact List.mem_of_find?_eq_some hstored
    | none =>
        have hnone : s.intentForOperation
            (newIntent x.env a c.payload.checkpointId operation).tenantId
            (newIntent x.env a c.payload.checkpointId operation).workflowId
            (newIntent x.env a c.payload.checkpointId operation).operation = none := hstored
        simp only [hnone, fetch_bind_eq_ok, Table.insert?_eq_some, pure, Except.pure,
          Except.ok.injEq, Prod.mk.injEq] at h
        obtain ⟨_, ⟨hfresh, rfl⟩, rfl, rfl⟩ := h
        refine ⟨Or.inr (ticket_effect hw ?_), ?_⟩
        · exact .intent hready.mem hready.about hready.latest hstate hprior hvalid hstored hfresh
        · exact hQ _ _ (List.prefix_append _ _) (List.mem_append_right _ (List.mem_singleton_self _))
            rfl rfl rfl

/-- A checkpoint that records the progress of ticket effects. -/
theorem safe_ensureTicketProgress {cause : CheckpointCause} {Q : Checkpoint → WorkflowStore → Prop}
    (hE : Permits E) (hw : Part.checkpoint ∈ x.call.advances) (hready : Ready x s a c)
    (hstate : c.payload.currentState = .received) (horigin : cause.isCommand = false)
    (hQ : ∀ c' s', Ready x s' a c' → Advanced s s' → c'.payload.currentState = .received → Q c' s') :
    KSafe x x.call.writes E Q (ensureTicketProgress x.env a c cause) s := by
  unfold ensureTicketProgress
  simp only [safe_bind, safe_observe, hstate]
  refine safe_progress hE hready hw (.ticketProgress hready.latest hstate horigin) rfl (fun h => by cases h) ?_
  intro c' s' hready' hadv hcurrent _
  exact hQ c' s' hready' hadv hcurrent

/-- **`_drive_effect`** ends in the state it began in, with the effect completed, or in a
    reconciliation. -/
theorem safe_driveEffect {operation : TicketOperation} {Q : Checkpoint × Bool → WorkflowStore → Prop}
    (hE : Permits E) (hwt : Part.ticket ∈ x.call.advances) (hwc : Part.checkpoint ∈ x.call.advances)
    (hready : Ready x s a c) (hstate : c.payload.currentState = .received)
    (hprior : operation = .workflowHandoff → s.Completed a .findOrCreate)
    (hblocked : ∀ c' s', Ready x s' a c' → Q (c', false) s')
    (hdone : ∀ c' s', Ready x s' a c' → Grows s s' → c'.payload.currentState = .received →
      s'.Completed a operation → Q (c', true) s') :
    KSafe x x.call.writes E Q (driveEffect x.env a c operation) s := by
  unfold driveEffect
  refine safe_bind.mpr (safe_ensureIntent hE hwt hready hstate hprior ?_)
  intro i intents hgrows hi ht hwf hop
  have hready₁ : Ready x { s with ticket := { s.ticket with intents } } a c :=
    hready.of_journal rfl rfl
  have hgrows₁ : Grows s { s with ticket := { s.ticket with intents } } :=
    grows_ticket hgrows List.prefix_rfl
  refine safe_bind.mpr (safe_ensureTicketProgress hE hwc hready₁ hstate rfl ?_)
  intro c₂ s₂ hready₂ hadv₂ hstate₂
  have hi₂ : i ∈ s₂.ticket.intents := by rw [hadv₂.ticket]; exact hi
  refine safe_bind.mpr (safe_processIntent hE hwt hi₂ ?_)
  intro result ticket hintents hcompletions hresult _
  have hready₃ : Ready x { s₂ with ticket } a c₂ := hready₂.of_journal rfl rfl
  cases result with
  | none =>
      have hne : c₂.payload.currentState ≠ .needsReconciliation := by rw [hstate₂]; nofun
      simp only [enterReconciliation, if_neg hne, safe_bind, safe_observe, safe_pure]
      refine safe_advance hE hready₃ hwc (.reconcile rfl (Or.inl hstate₂)) (Or.inl ?_) (Or.inl ?_) ?_
      · simp [TransitionRequest.allowedFrom, transitionAllowed, allowedTargets, hstate₂, terminalStates]
      · simp [hstate₂]
      · intro c' s' hready' _ _ _
        exact hblocked c' s' hready'
  | some d =>
      simp only [safe_bind, safe_pure]
      refine safe_ensureTicketProgress hE hwc hready₃ hstate₂ rfl fun c' s' hready' hadv' hstate' => ?_
      obtain ⟨hd, hdt, hdi⟩ := hresult d rfl
      have hgrows₃ : Grows s₂ { s₂ with ticket } :=
        grows_ticket (hintents ▸ List.prefix_rfl) hcompletions
      have hcompleted : WorkflowStore.Completed { s₂ with ticket } a operation :=
        ⟨i, hintents ▸ hi₂, ht, hwf, hop, d, hd, hdt, hdi⟩
      have hgrows' : Grows s s' :=
        ((hgrows₁.trans hadv₂.grows).trans hgrows₃).trans hadv'.grows
      exact hdone c' s' hready' hgrows' hstate' (hcompleted.mono hadv'.grows)

/-- The branch of a recovery that drives both ticket effects. -/
theorem safe_driveTicket (hE : Permits E) (hwt : Part.ticket ∈ x.call.advances)
    (hwc : Part.checkpoint ∈ x.call.advances) (hready : Ready x s a c)
    (hstate : c.payload.currentState = .received) :
    KSafe x x.call.writes E (fun _ s' => Ended x a s') (driveTicket x.env a c) s := by
  unfold driveTicket
  refine safe_bind.mpr (safe_driveEffect hE hwt hwc hready hstate nofun ?_ ?_)
  · intro c₁ s₁ hready₁
    exact safe_getProjection hE ⟨c₁, hready₁⟩
  · intro c₁ s₁ hready₁ _ hstate₁ hfind
    refine safe_bind.mpr (safe_driveEffect hE hwt hwc hready₁ hstate₁ (fun _ => hfind) ?_ ?_)
    · intro c₂ s₂ hready₂
      exact safe_getProjection hE ⟨c₂, hready₂⟩
    · intro c₂ s₂ hready₂ hgrows₂ hstate₂ hhandoff
      refine safe_bind.mpr (safe_advance hE hready₂ hwc
        (.ticketReady (hfind.mono hgrows₂) hhandoff) (Or.inl ?_) (Or.inl nofun) ?_)
      · simp [TransitionRequest.allowedFrom, transitionAllowed, allowedTargets, hstate₂]
      · intro c₃ s₃ hready₃ _ _ _
        exact safe_getProjection hE ⟨c₃, hready₃⟩

end WeFlow
