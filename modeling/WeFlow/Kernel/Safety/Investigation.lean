import WeFlow.Kernel.Safety.Advance

/-!
# `Safety.Investigation` — the recording operations

Each operation looks up the activation of its case, reads the projection and appends what it was given,
in the state its contract asks for. `safe_recoverInvestigation` is their recovery.
-/

namespace WeFlow

open Txn Prog

variable {x : Context} {E : WorkflowError → WorkflowStore → Prop} {s : WorkflowStore}
  {a : WorkflowActivation} {c : Checkpoint} {t : String} {k : CaseId}

/-- An operation may raise any error. -/
abbrev anyError : WorkflowError → WorkflowStore → Prop := fun _ _ => True

theorem permits_anyError : Permits anyError := fun _ _ _ => trivial

/-! ## The activation of a case -/

theorem activationForCaseForTenant_mem (h : s.activationForCaseForTenant t k = some a) :
    a ∈ s.journal.activations ∧ a.tenantId = t ∧ a.caseId = k := by
  have hmem := (List.mem_insertionSort _).mp (List.mem_of_head? h)
  have hfilter := List.mem_filter.mp hmem
  exact ⟨hfilter.1, of_decide_eq_true hfilter.2⟩

/-- An activation that is stored when a call begins. -/
theorem bound_start (hs : JournalInv s) (hstart : x.start = s) (hmem : a ∈ s.journal.activations)
    (habout : x.call.about a = true) (hr : x.call.recovers = false) : Bound x s a where
  mem := hmem
  about := habout
  tenant := (hs.activation a hmem).tenant
  correlation := (hs.activation a hmem).correlation
  synced := by
    rintro (h | h)
    · simp [hr] at h
    · exact hstart ▸ h

theorem Bound.ready (h : Bound x s a) (hr : x.call.recovers = false)
    (hlatest : s.latestCheckpoint? a.tenantId a.workflowId = some c) : Ready x s a c :=
  { h with
    latest := hlatest
    settled := fun hrec => by simp [hr] at hrec }

/-- A call about one case. -/
structure CaseCall (x : Context) (t : String) (k : CaseId) : Prop where
  about : ∀ b : WorkflowActivation, b.tenantId = t → b.caseId = k → x.call.about b = true
  recovers : x.call.recovers = false

theorem CaseCall.bound (h : CaseCall x t k) (hs : JournalInv s) (hstart : x.start = s)
    (ha : s.activationForCaseForTenant t k = some a) : Bound x s a ∧ a.tenantId = t := by
  obtain ⟨hmem, ht, hk⟩ := activationForCaseForTenant_mem ha
  exact ⟨bound_start hs hstart hmem (h.about a ht hk) h.recovers, ht⟩

/-- **`_require_investigation`**: the activation, its investigation, and the state of its latest
    checkpoint. -/
theorem safe_requireInvestigation
    {Q : WorkflowActivation × InvestigationActivation × WorkflowProjection → WorkflowStore → Prop}
    (hs : JournalInv s) (hstart : x.start = s) (hcall : CaseCall x t k)
    (hQ : ∀ (a : WorkflowActivation) (i : InvestigationActivation) (p : WorkflowProjection)
      (c : Checkpoint) (rows : List WorkflowProjection),
      Ready x { s with workflowProjection := rows } a c → a.tenantId = t →
      s.activationForCaseForTenant a.tenantId k = some a →
      s.investigationActivation? a.tenantId a.workflowId = some i →
      p.state = c.payload.currentState → Q (a, i, p) { s with workflowProjection := rows }) :
    KSafe x x.call.writes anyError Q (requireInvestigation t k) s := by
  unfold requireInvestigation
  simp only [safe_bind, safe_observe, safe_need, safe_pure]
  refine ⟨fun a ha => ⟨fun i hi => ?_, fun _ => trivial⟩, fun _ => trivial⟩
  obtain ⟨hbound, rfl⟩ := hcall.bound hs hstart ha
  refine safe_getWorkflowProjection permits_anyError writes_readModel fun rows row hrow => ?_
  refine ⟨fun p hp => ?_, fun _ => trivial⟩
  obtain ⟨c, hc, hstate⟩ := hrow p hp
  have hbound' : Bound x { s with workflowProjection := rows } a := hbound.of_journal rfl rfl
  exact hQ a i p c rows (hbound'.ready hcall.recovers hc) rfl ha hi hstate

/-- A step of the investigation tables is a transaction of the call. -/
theorem investigation_effect {investigation : InvestigationTables}
    (hw : Part.investigation ∈ x.call.advances) (h : InvestigationStep x s investigation) :
    Effects x x.call.writes s { s with investigation } :=
  ⟨.investigation, writes_of_advances hw, .investigation h⟩

/-- One insertion into a table of the investigation. -/
theorem safe_insertion {ρ : Type} {row : ρ} {clash : ρ → ρ → Bool} {rows : List ρ}
    {put : List ρ → InvestigationTables} {e : WorkflowError} {Q : Unit → WorkflowStore → Prop}
    {txn : WorkflowStore → Except WorkflowError (Unit × WorkflowStore)}
    (hw : Part.investigation ∈ x.call.advances)
    (htxn : txn s = (do
      let rows ← fetch (Table.insert? clash row rows) e
      pure ((), { s with investigation := put rows })))
    (hstep : (∀ y ∈ rows, clash row y = false) → InvestigationStep x s (put (rows ++ [row])))
    (hQ : Q () { s with investigation := put (rows ++ [row]) }) :
    KSafe x x.call.writes anyError Q (atomically txn) s := by
  refine safe_atomically.mpr ⟨fun _ _ => trivial, fun _ s' h => ?_⟩
  simp only [htxn, fetch_bind_eq_ok, Table.insert?_eq_some, pure, Except.pure, Except.ok.injEq,
    Prod.mk.injEq, true_and] at h
  obtain ⟨_, ⟨hfresh, rfl⟩, rfl⟩ := h
  exact ⟨Or.inr (investigation_effect hw (hstep hfresh)), hQ⟩

/-! ## Beginning -/

/-- The transition into an investigation, from `TICKET_READY`. -/
theorem safe_startInvestigation {i : InvestigationActivation}
    {Q : Checkpoint → WorkflowStore → Prop} (hE : Permits E) (hready : Ready x s a c)
    (hw : Part.checkpoint ∈ x.call.advances) (hstate : c.payload.currentState = .ticketReady)
    (hi : s.investigationActivation? a.tenantId a.workflowId = some i)
    (hQ : ∀ c' s', Ready x s' a c' → Q c' s') :
    KSafe x x.call.writes E Q (transition x.env a c (investigationStarted i.investigationId)) s := by
  refine safe_advance hE hready hw (.investigationStarted hi) (Or.inl ?_) (Or.inl nofun) ?_
  · simp [TransitionRequest.allowedFrom, investigationStarted, transitionAllowed, allowedTargets,
      hstate]
  · intro c' s' hready' _ _ _
    exact hQ c' s' hready'

theorem safe_beginInvestigation {manifest : ContextManifest} {transcriptId : String}
    (hs : JournalInv s) (hstart : x.start = s)
    (hcall : x.call = .beginInvestigation t k manifest transcriptId) :
    KSafe x x.call.writes anyError (fun _ _ => True)
      (beginInvestigation x.env t k manifest transcriptId) s := by
  have hcase : CaseCall x t k :=
    ⟨fun b ht hk => by simp [hcall, Call.about, ht, hk], by simp [hcall, Call.recovers]⟩
  have hwi : Part.investigation ∈ x.call.advances := by simp [hcall, Call.advances]
  have hwc : Part.checkpoint ∈ x.call.advances := by simp [hcall, Call.advances]
  unfold beginInvestigation
  refine safe_bind.mpr (safe_check.mpr ⟨fun _ => ?_, fun _ => trivial⟩)
  refine safe_bind.mpr (safe_check.mpr ⟨fun hvalid => ?_, fun _ => trivial⟩)
  refine safe_bind.mpr (safe_observe.mpr ?_)
  refine safe_bind.mpr (safe_need.mpr ⟨fun a ha => ?_, fun _ => trivial⟩)
  refine safe_bind.mpr (safe_check.mpr ⟨fun htenant => ?_, fun _ => trivial⟩)
  refine safe_bind.mpr (safe_check.mpr ⟨fun hlink => ?_, fun _ => trivial⟩)
  obtain ⟨hbound, rfl⟩ := hcase.bound hs hstart ha
  -- the investigation is stored, and the rest reads the journal as it is
  have hrest : ∀ (i : InvestigationActivation) (s' : WorkflowStore), s'.journal = s.journal →
      s'.ledger = s.ledger → s'.investigationActivation? a.tenantId a.workflowId = some i →
      KSafe x x.call.writes anyError (fun _ _ => True) (do
        let projection ← getWorkflowProjection a.tenantId a.workflowId
        let projection ← need projection .notFound
        if projection.state = .ticketReady then
          let checkpoint ← observe (·.latestCheckpoint? a.tenantId a.workflowId)
          let checkpoint ← need checkpoint .investigationJournalInvalid
          let _ ← transition x.env a checkpoint (investigationStarted i.investigationId)
          pure i.manifest
        else
          check (projection.state = .investigating ∨ projection.state = .responseReady)
            .investigationStateNotAllowlisted
          pure i.manifest) s' := by
    intro i s' hj hl hi
    refine safe_bind.mpr (safe_getWorkflowProjection permits_anyError writes_readModel ?_)
    intro rows row hrow
    simp only [safe_bind, safe_need]
    refine ⟨fun p hp => ?_, fun _ => trivial⟩
    obtain ⟨c, hc, hstate⟩ := hrow p hp
    have hbound' : Bound x { s' with workflowProjection := rows } a :=
      hbound.of_journal hj hl
    have hready := hbound'.ready hcase.recovers hc
    split
    · next hstate' =>
        simp only [safe_bind, safe_observe, safe_need, safe_pure]
        refine ⟨fun c' hc' => ?_, fun _ => trivial⟩
        have heq : c = c' := Option.some.inj (hc.symm.trans hc')
        subst heq
        exact safe_startInvestigation permits_anyError hready hwc (hstate ▸ hstate') hi
          fun _ _ _ => trivial
    · exact safe_bind.mpr (safe_check.mpr ⟨fun _ => trivial, fun _ => trivial⟩)
  unfold ensureInvestigation
  refine safe_bind.mpr (safe_bind.mpr (safe_observe.mpr ?_))
  cases hstored : s.investigationActivation? a.tenantId a.workflowId with
  | some existing =>
      refine safe_bind.mpr (safe_check.mpr ⟨fun _ => ?_, fun _ => trivial⟩)
      exact hrest existing s rfl rfl hstored
  | none =>
      refine safe_bind.mpr (safe_observe.mpr ?_)
      refine safe_bind.mpr (safe_need.mpr ⟨fun c hc => ?_, fun _ => trivial⟩)
      refine safe_bind.mpr (safe_check.mpr ⟨fun hstate => ?_, fun _ => trivial⟩)
      refine safe_bind.mpr (safe_check.mpr ⟨fun hcheckpoint => ?_, fun _ => trivial⟩)
      simp only [decide_eq_true_eq] at htenant hlink hstate hcheckpoint
      refine safe_bind.mpr (safe_insertion hwi rfl (fun hfresh => ?_) ?_)
      · exact .activation hbound.mem hbound.about hc hstate hvalid
          ⟨htenant, hlink.1, hlink.2.1, hlink.2.2, hcheckpoint⟩ hstored hfresh
      · refine safe_bind.mpr (safe_observe.mpr (safe_need.mpr ⟨fun i hi => ?_, fun _ => trivial⟩))
        exact hrest i _ rfl rfl hi

/-! ## Recording -/

theorem safe_recordAgentAction {action : AgentAction} (hs : JournalInv s) (hstart : x.start = s)
    (hcall : x.call = .recordAgentAction t k action) :
    KSafe x x.call.writes anyError (fun _ _ => True) (recordAgentAction t k action) s := by
  have hcase : CaseCall x t k :=
    ⟨fun b ht hk => by simp [hcall, Call.about, ht, hk], by simp [hcall, Call.recovers]⟩
  have hw : Part.investigation ∈ x.call.advances := by simp [hcall, Call.advances]
  unfold recordAgentAction
  refine safe_bind.mpr (safe_requireInvestigation hs hstart hcase ?_)
  rintro a i p c rows hready rfl ha hi hstate
  obtain rfl := (activationForCaseForTenant_mem ha).2.2
  refine safe_bind.mpr (safe_check.mpr ⟨fun hvalid => ?_, fun _ => trivial⟩)
  refine safe_bind.mpr (safe_observe.mpr ?_)
  split
  · exact safe_bind.mpr (safe_check.mpr ⟨fun _ => trivial, fun _ => trivial⟩)
  · next hnew =>
    refine safe_bind.mpr (safe_check.mpr ⟨fun hp => ?_, fun _ => trivial⟩)
    refine safe_bind.mpr (safe_insertion hw rfl (fun hfresh => ?_) trivial)
    rw [decide_eq_true_eq, hstate] at hp
    exact .agentStep hready.mem hready.about hready.latest hp hi hvalid hcall (hstart ▸ rfl) ha hnew
      hfresh

/-- An exchange writes the investigation and nothing else. -/
theorem insertToolExchange_eq_ok {w : WorkflowId} {request : ToolRequest} {result : ToolResult}
    {s' : WorkflowStore} (h : insertToolExchange t w request result s = .ok ((), s')) :
    s' = { s with investigation := s'.investigation } := by
  unfold insertToolExchange at h
  dsimp only at h
  split at h
  · simp only [fetch_bind_eq_ok] at h
    obtain ⟨_, _, _, _, h⟩ := h
    obtain ⟨_, rfl⟩ := Prod.mk.injEq .. ▸ Except.ok.inj h
    rfl
  · rw [require_bind_eq_ok, pure_bind, fetch_bind_eq_ok] at h
    obtain ⟨_, _, _, h⟩ := h
    obtain ⟨_, rfl⟩ := Prod.mk.injEq .. ▸ Except.ok.inj h
    rfl

theorem safe_recordToolExchange {request : ToolRequest} {result : ToolResult} (hs : JournalInv s)
    (hstart : x.start = s) (hcall : x.call = .recordToolExchange t k request result) :
    KSafe x x.call.writes anyError (fun _ _ => True) (recordToolExchange t k request result) s := by
  have hcase : CaseCall x t k :=
    ⟨fun b ht hk => by simp [hcall, Call.about, ht, hk], by simp [hcall, Call.recovers]⟩
  have hw : Part.investigation ∈ x.call.advances := by simp [hcall, Call.advances]
  unfold recordToolExchange
  refine safe_bind.mpr (safe_requireInvestigation hs hstart hcase ?_)
  rintro a i p c rows hready rfl ha hi hstate
  obtain rfl := (activationForCaseForTenant_mem ha).2.2
  refine safe_bind.mpr (safe_check.mpr ⟨fun hvalid => ?_, fun _ => trivial⟩)
  refine safe_bind.mpr (safe_observe.mpr ?_)
  split
  · exact safe_bind.mpr (safe_check.mpr ⟨fun _ => trivial, fun _ => trivial⟩)
  · next hnew =>
    refine safe_bind.mpr (safe_check.mpr ⟨fun hp => ?_, fun _ => trivial⟩)
    refine safe_bind.mpr (safe_observe.mpr ?_)
    refine safe_bind.mpr (safe_check.mpr ⟨fun _ => ?_, fun _ => trivial⟩)
    refine safe_bind.mpr (safe_observe.mpr ?_)
    refine safe_bind.mpr (safe_check.mpr ⟨fun hwithin => ?_, fun _ => trivial⟩)
    refine safe_atomically.mpr ⟨fun _ _ => trivial, fun _ s' h => ⟨Or.inr ?_, trivial⟩⟩
    rw [insertToolExchange_eq_ok h]
    rw [decide_eq_true_eq, hstate] at hp
    exact investigation_effect hw (.toolExchange hready.mem hready.about hready.latest hp hi
      (of_decide_eq_true hvalid) hcall (hstart ▸ rfl) ha hnew (of_decide_eq_true hwithin) h)

theorem safe_recordResponseCandidate {candidate : ResponseCandidate} (hs : JournalInv s)
    (hstart : x.start = s) (hcall : x.call = .recordResponseCandidate t k candidate) :
    KSafe x x.call.writes anyError (fun _ _ => True) (recordResponseCandidate t k candidate) s := by
  have hcase : CaseCall x t k :=
    ⟨fun b ht hk => by simp [hcall, Call.about, ht, hk], by simp [hcall, Call.recovers]⟩
  have hw : Part.investigation ∈ x.call.advances := by simp [hcall, Call.advances]
  unfold recordResponseCandidate
  refine safe_bind.mpr (safe_requireInvestigation hs hstart hcase ?_)
  rintro a i p c rows hready rfl _ hi hstate
  refine safe_bind.mpr (safe_check.mpr ⟨fun hvalid => ?_, fun _ => trivial⟩)
  refine safe_bind.mpr (safe_observe.mpr ?_)
  split
  · exact safe_bind.mpr (safe_check.mpr ⟨fun _ => trivial, fun _ => trivial⟩)
  · refine safe_bind.mpr (safe_check.mpr ⟨fun hp => ?_, fun _ => trivial⟩)
    refine safe_bind.mpr (safe_observe.mpr ?_)
    refine safe_bind.mpr (safe_check.mpr ⟨fun hsingle => ?_, fun _ => trivial⟩)
    refine safe_bind.mpr (safe_insertion hw rfl (fun hfresh => ?_) trivial)
    rw [decide_eq_true_eq, hstate] at hp
    exact .candidate hready.mem hready.about hready.latest hp hi hvalid (of_decide_eq_true hsingle) hfresh

/-! ## Verification -/

/-- **`_advance_verified_candidate`.** -/
theorem safe_advanceVerifiedCandidate {outcome : VerifierOutcome} (hE : Permits E)
    (hready : Ready x s a c) (hw : Part.checkpoint ∈ x.call.advances)
    (hverified : outcome.outcome = .verified → s.Verified a outcome.verifierOutcomeId) :
    KSafe x x.call.writes E (fun _ s' => Ended x a s')
      (advanceVerifiedCandidate x.env a outcome) s := by
  unfold advanceVerifiedCandidate
  split
  · exact safe_getProjection hE ⟨c, hready⟩
  · next houtcome =>
    refine safe_bind.mpr (safe_observe.mpr ?_)
    rw [hready.latest]
    refine safe_bind.mpr (safe_need.mpr ⟨fun c' hc' => ?_, fun hc' => nomatch hc'⟩)
    obtain rfl := Option.some.inj hc'
    split
    · exact safe_getProjection hE ⟨c, hready⟩
    · refine safe_bind.mpr (safe_check.mpr ⟨fun hstate => ?_, fun _ => hE _ _ rfl⟩)
      rw [decide_eq_true_eq] at hstate
      refine safe_bind.mpr (safe_advance hE hready hw (.candidateVerified (hverified (not_not.mp houtcome)))
        (Or.inl ?_)
        (Or.inl nofun) ?_)
      · simp [TransitionRequest.allowedFrom, candidateVerified, transitionAllowed, allowedTargets,
          hstate]
      · intro c' s' hready' _ _ _
        exact safe_getProjection hE ⟨c', hready'⟩

theorem safe_verifyResponseCandidate {candidateId : String} (hs : JournalInv s) (hstart : x.start = s)
    (hcall : x.call = .verifyResponseCandidate t k candidateId) :
    KSafe x x.call.writes anyError (fun _ _ => True)
      (verifyResponseCandidate x.env t k candidateId) s := by
  have hcase : CaseCall x t k :=
    ⟨fun b ht hk => by simp [hcall, Call.about, ht, hk], by simp [hcall, Call.recovers]⟩
  have hwi : Part.investigation ∈ x.call.advances := by simp [hcall, Call.advances]
  have hwc : Part.checkpoint ∈ x.call.advances := by simp [hcall, Call.advances]
  unfold verifyResponseCandidate
  refine safe_bind.mpr (safe_requireInvestigation hs hstart hcase ?_)
  rintro a i p c rows hready rfl _ hi _
  refine safe_bind.mpr (safe_observe.mpr ?_)
  refine safe_bind.mpr (safe_need.mpr ⟨fun row hrow => ?_, fun _ => trivial⟩)
  refine safe_bind.mpr (safe_observe.mpr ?_)
  have hkey := List.find?_some hrow
  obtain ⟨ht, hw, hid⟩ := of_decide_eq_true hkey
  have hmem : row ∈ s.candidatesOf a.tenantId a.workflowId :=
    List.mem_filter.mpr ⟨List.mem_of_find?_eq_some hrow, decide_eq_true ⟨ht, hw⟩⟩
  refine safe_bind.mpr (safe_check.mpr ⟨fun _ => ?_, fun _ => trivial⟩)
  split
  · next existing hexisting =>
    have hokey := List.find?_some hexisting
    obtain ⟨hot, hocandidate⟩ := of_decide_eq_true hokey
    refine (safe_advanceVerifiedCandidate permits_anyError hready hwc fun hverdict => ?_).bind
      fun _ _ _ => trivial
    exact ⟨existing, List.mem_of_find?_eq_some hexisting, hot, hverdict, rfl,
      .inr ⟨row, hmem, hid.trans hocandidate.symm⟩⟩
  · refine safe_bind.mpr (safe_observe.mpr ?_)
    refine safe_bind.mpr (safe_observe.mpr ?_)
    refine safe_bind.mpr (safe_check.mpr ⟨fun hvalid => ?_, fun _ => trivial⟩)
    refine safe_bind.mpr (safe_insertion hwi rfl (fun hfresh => ?_) ?_)
    · exact .outcome hready.mem hready.about hi hmem rfl hvalid hfresh
    · refine Safe.bind (safe_advanceVerifiedCandidate permits_anyError (hready.of_journal rfl rfl) hwc
        fun hverdict => ?_) fun _ _ _ => trivial
      exact ⟨_, List.mem_append_right _ (List.mem_singleton_self _), rfl, hverdict, rfl, .inl rfl⟩

/-! ## Recovery -/

theorem safe_recoverVerified (hE : Permits E) (hready : Ready x s a c)
    (hw : Part.checkpoint ∈ x.call.advances) :
    KSafe x x.call.writes E (fun _ s' => Ended x a s') (recoverVerified x.env a c) s := by
  unfold recoverVerified
  split
  · exact safe_getProjection hE ⟨c, hready⟩
  · refine safe_bind.mpr (safe_observe.mpr ?_)
    split
    · exact safe_getProjection hE ⟨c, hready⟩
    · next row hlast =>
      refine safe_advanceVerifiedCandidate hE hready hw fun hverdict => ?_
      have hrow : row ∈ s.outcomesOf a.tenantId a.workflowId :=
        (List.mem_filter.mp (List.mem_of_getLast? hlast)).1
      obtain ⟨hmem, hkey⟩ := List.mem_filter.mp hrow
      exact ⟨row, hmem, (of_decide_eq_true hkey).1, hverdict, rfl, .inl (of_decide_eq_true hkey).2⟩

/-- **`_recover_investigation`.** -/
theorem safe_recoverInvestigation (hE : Permits E) (hready : Ready x s a c)
    (hw : Part.checkpoint ∈ x.call.advances) :
    KSafe x x.call.writes E (fun _ s' => Ended x a s') (recoverInvestigation x.env a c) s := by
  unfold recoverInvestigation
  refine safe_bind.mpr (safe_observe.mpr ?_)
  cases hstored : s.investigationActivation? a.tenantId a.workflowId with
  | none => exact safe_getProjection hE ⟨c, hready⟩
  | some i =>
      dsimp only
      split
      · next hstate =>
          refine safe_bind.mpr (safe_startInvestigation hE hready hw hstate hstored ?_)
          intro c' s' hready'
          refine safe_bind.mpr (safe_observe.mpr ?_)
          rw [hready'.latest]
          refine safe_bind.mpr (safe_need.mpr ⟨fun c₂ hc₂ => ?_, fun hc₂ => nomatch hc₂⟩)
          obtain rfl := Option.some.inj hc₂
          exact safe_recoverVerified hE hready' hw
      · exact safe_recoverVerified hE hready hw

end WeFlow
