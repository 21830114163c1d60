import WeFlow.Kernel.Closure.Commands
import WeFlow.Kernel.Closure.Recorded

/-!
# `Journal` — the journal is closed under its writers

Every read of the workflow API rebuilds the read model, and the rebuild validates every row of the journal.
The writers keep what the validator asks for, whatever is called in whatever order and wherever a call dies:
a rebuild fails only for a workflow with a second policy decision, and then for every workflow.

## Contents

* `run_closed` — the invariants along every run.
* `source_valid` — `_validate_workflow_source` accepts every workflow.
* `projections`, `rebuildWorkflowProjection_eq` — what a rebuild returns.
-/

namespace WeFlow

open Txn

variable {x : Context} {s s' : WorkflowStore} {a : WorkflowActivation} {part : Part} {steps : List Step}

/-! ## Along every run -/

/-- **All invariants of the journal.** -/
structure Closed (s : WorkflowStore) : Prop where
  journal : JournalInv s
  rows : RowsInv s
  effects : EffectsInv s
  decisions : PolicyDecisionInv s
  recorded : RecordedInv s
  caused : CausedInv s
  cancelled : CancelledInv s

theorem closed_empty : Closed {} where
  journal := journalInv_empty
  rows := rowsInv_empty
  effects := effectsInv_empty
  decisions := decisionInv_empty
  recorded := fun c hc => by simp at hc
  caused := fun c hc => by simp at hc
  cancelled := fun a ha => by simp at ha

/-- **Every transaction keeps them.** -/
theorem Effect.closed (h : Effect x s part s') (hs : Closed s) : Closed s' where
  journal := h.journalInv hs.journal
  rows := h.rowsInv hs.journal hs.rows
  effects := h.effectsInv hs.journal hs.rows hs.effects
  decisions := h.decisionInv hs.journal hs.rows hs.decisions
  recorded := h.recordedInv hs.rows.gate hs.recorded
  caused := h.causedInv hs.caused
  cancelled := h.cancelledInv hs.journal hs.rows hs.cancelled

theorem run_closed {cond : Env → Call → WorkflowStore → Bool} (h : Along cond {} steps = true) :
    Closed (run steps) :=
  (run_effects (fun _ s => Closed s) (fun _ _ hs _ _ => hs)
    (fun _ _ _ _ _ _ heffect _ hs => heffect.closed hs) (fun _ _ _ hs => hs) closed_empty h).2

/-! ## One workflow -/

section Check

variable (hs : Closed s) (ha : a ∈ s.journal.activations)

include hs ha

/-- An ordered query of a workflow's runs returns them as they were inserted. -/
theorem Closed.runsOf_eq : s.runsOf a.tenantId a.workflowId = s.runRows a.tenantId a.workflowId := by
  refine List.Pairwise.insertionSort_eq ?_
  have hsorted : ((s.runRows a.tenantId a.workflowId).map (·.runSequence)).Pairwise (· ≤ ·) := by
    rw [(hs.rows.source.follow a ha).sequences]
    exact List.pairwise_le_range'
  exact List.pairwise_map.mp hsorted

/-- Every command of a workflow is accepted. -/
theorem Closed.commands_valid :
    (s.commandsOf a.tenantId a.workflowId).all
      (·.sourceValid a (s.checkpointRows a.tenantId a.workflowId)) = true := by
  refine List.all_eq_true.mpr fun c hc => ?_
  obtain ⟨hmem, ht, hw⟩ := mem_commandsOf hc
  obtain ⟨b, hb, hbt, hbw, hok⟩ := hs.journal.command c hmem
  obtain rfl : b = a := hs.journal.activation_unique hb ha (hbt.symm.trans ht) (hbw.symm.trans hw)
  exact decide_eq_true ⟨hok.valid, hok.payload, hok.fingerprint, hs.rows.source.once b ha c.commandId⟩

/-- **`_validate_workflow_source` accepts every workflow.** -/
theorem Closed.source_valid :
    s.validateWorkflowSource a (s.checkpointsOf a.tenantId a.workflowId) = .ok () := by
  have hj := hs.journal
  have hr := hs.rows
  have hfollow := hr.source.follow a ha
  have hchain := hj.chain a ha
  have hevent : (s.ledger.businessEvents.any fun e => decide (e.tenantId = a.tenantId ∧
      e.eventId = a.sourceEventId ∧ e.caseId = a.caseId ∧ e.caseRevisionId = a.caseRevisionId)) = true := by
    obtain ⟨e, he, hkey⟩ := (hj.activation a ha).source
    exact List.any_eq_true.mpr ⟨e, he, decide_eq_true hkey⟩
  have hruns : s.runRows a.tenantId a.workflowId ≠ [] := by
    have hlength := hfollow.length
    intro hnil
    rw [hnil] at hlength
    cases hlength
  have hsequences := hfollow.sequences
  rw [← hfollow.length] at hsequences
  have hstatus : (s.runRows a.tenantId a.workflowId).all (fun r => decide (r.runStatus = runStatus r.state)) =
      true := by
    refine List.all_eq_true.mpr fun r hrm => ?_
    exact decide_eq_true (hr.source.status r (List.mem_filter.mp hrm).1)
  -- the last run is in the state of the latest checkpoint
  have hlast : ((s.runRows a.tenantId a.workflowId).getLast?).map (·.state) =
      (.received :: (s.checkpointRows a.tenantId a.workflowId).map (·.payload.currentState)).getLast? := by
    rw [← hfollow.states, List.getLast?_map]
  unfold WorkflowStore.validateWorkflowSource
  dsimp only
  rw [hs.runsOf_eq ha, hj.checkpointsOf_eq ha, require_bind_eq_ok, require_bind_eq_ok, require_bind_eq_ok]
  refine ⟨hevent, decide_eq_true ⟨hruns, hsequences⟩, hstatus, ?_⟩
  cases hlatest : (s.checkpointRows a.tenantId a.workflowId).getLast? with
  | none =>
      rw [List.getLast?_eq_none_iff.mp hlatest] at hlast
      obtain ⟨run, hrun, hstate⟩ := Option.map_eq_some_iff.mp hlast
      dsimp only
      rw [require_eq_ok, hrun, Option.any_some]
      exact decide_eq_true hstate
  | some latest =>
      have hmem := List.mem_of_getLast? hlatest
      have hne : s.checkpointRows a.tenantId a.workflowId ≠ [] := List.ne_nil_of_mem hmem
      have hstate : (s.runRows a.tenantId a.workflowId).getLast?.any
          (fun r => decide (r.state = latest.payload.currentState)) = true := by
        rw [List.getLast?_cons, List.getLast?_map, hlatest] at hlast
        obtain ⟨run, hrun, hstate⟩ := Option.map_eq_some_iff.mp hlast
        rw [hrun, Option.any_some]
        exact decide_eq_true hstate
      have hkept : CompletedKept (s.checkpointRows a.tenantId a.workflowId) :=
        (hs.effects.kept a ha).imp fun c d hkeeps => hkeeps.completed
      have hknown := hs.effects.known a ha latest hmem
      have hdisjoint := (hchain.appended latest hmem).2.1
      have hids := hj.checkpointsOf_eq ha
      have hintents : (s.intentsOf a.tenantId a.workflowId).all (s.intentSourceValid a
          ((s.checkpointRows a.tenantId a.workflowId).map (·.payload.checkpointId))) = true := by
        rw [← hids]
        exact List.all_eq_true.mpr fun i hi => hr.ticketRows.intent_valid hj hr.ticket ha hi
      have hdeliveries : (s.deliveryIntentsOf a.tenantId a.workflowId).all (s.deliverySourceValid a
          ((s.checkpointRows a.tenantId a.workflowId).map (·.payload.checkpointId))) = true := by
        rw [← hids]
        exact List.all_eq_true.mpr fun i hi => hr.delivery.intent_valid hj ha hi
      dsimp only
      simp only [require_bind_eq_ok]
      refine ⟨(hchain.validateCheckpointSequence_iff hne).mpr hkept, decide_eq_true hfollow.length,
        hchain.checkpointsContinue ?_ hfollow, hstate, hs.commands_valid ha,
        hr.ticketRows.intents_valid hj hr.ticket ha, hdeliveries, ?_, hintents, ?_, ?_, decide_eq_true hdisjoint,
        hr.ticketRows.source_valid hr.ticket a.tenantId⟩
      · intro c hc
        exact hr.source.progress c (List.mem_filter.mp hc).1
      · exact decide_eq_true fun e he => List.mem_toFinset.mpr (hknown.effects e he)
      · exact decide_eq_true fun e he => List.mem_toFinset.mpr (hknown.completed e he)
      · exact decide_eq_true fun e he => List.mem_toFinset.mpr
          (hknown.effects e (Finset.mem_union_left _ he))

end Check

/-! ## The rebuild -/

namespace WorkflowStore

/-- The row of an activation in the read model. -/
def projectionFor (s : WorkflowStore) (a : WorkflowActivation) : Option WorkflowProjection :=
  (s.latestCheckpoint? a.tenantId a.workflowId).map fun c => projectionOf a c.payload

/-- The read model of a journal: each workflow at its latest checkpoint. -/
def projections (s : WorkflowStore) : List WorkflowProjection :=
  s.journal.activations.filterMap s.projectionFor

/-- Every workflow has one policy decision at most. -/
def decidedOnce (s : WorkflowStore) (activations : List WorkflowActivation) : Bool :=
  activations.all fun a => (s.decisionsOf a.tenantId a.workflowId).length ≤ 1

end WorkflowStore

theorem raises_atMostOne {α : Type} (rows : List α) :
    Raises (· = WorkflowError.policyJournalInvalid) (WorkflowStore.atMostOne rows) := by
  intro e h
  match rows with
  | [] => cases h
  | [_] => cases h
  | _ :: _ :: _ => exact (Except.error.inj h).symm

/-- The check of the policy chain has one error. -/
theorem raises_validateChange4Source (s : WorkflowStore) (a : WorkflowActivation) (checkpoints : List Checkpoint) :
    Raises (· = .policyJournalInvalid) (s.validateChange4Source a checkpoints) := by
  unfold WorkflowStore.validateChange4Source
  dsimp only
  split
  · exact raises_require.mpr fun _ => rfl
  · simp only [raises_bind, raises_require, raises_atMostOne, WorkflowStore.validateFixtureDeliverySource,
      implies_true, and_self]
  · exact fun e he => (Except.error.inj he).symm

/-- **One workflow is added to the read model, or its second decision is refused.** -/
theorem Closed.rebuildActivation_eq (hs : Closed s) (ha : a ∈ s.journal.activations)
    {rows : List WorkflowProjection}
    (hfresh : ∀ p ∈ s.projectionFor a, ∀ q ∈ rows, p.clash q = false) :
    s.rebuildActivation rows a =
      if s.decidedOnce [a] then .ok (rows ++ (s.projectionFor a).toList) else .error .policyJournalInvalid := by
  have hsource := hs.source_valid ha
  have hinvestigation := hs.rows.investigation.source_valid hs.journal ha
  have hpolicy := hs.rows.policy.validateChange4Source_iff hs.journal ha hs.rows.delivery hs.rows.binding
    hs.rows.gate hs.rows.chain
  have hone : s.decidedOnce [a] = true ↔ (s.decisionsOf a.tenantId a.workflowId).length ≤ 1 := by
    unfold WorkflowStore.decidedOnce
    rw [List.all_cons, List.all_nil, Bool.and_true, decide_eq_true_eq]
  unfold WorkflowStore.rebuildActivation
  dsimp only
  rw [hsource, hinvestigation]
  show (s.validateChange4Source a _ >>= _) = _
  by_cases hdecisions : (s.decisionsOf a.tenantId a.workflowId).length ≤ 1
  · rw [if_pos (hone.mpr hdecisions), hpolicy.mpr hdecisions]
    dsimp only [bind, Except.bind]
    have hfor : s.projectionFor a = ((s.checkpointsOf a.tenantId a.workflowId).getLast?).map
        fun c => projectionOf a c.payload := rfl
    cases hlatest : (s.checkpointsOf a.tenantId a.workflowId).getLast? with
    | none =>
        rw [hfor, hlatest, Option.map_none, Option.toList_none, List.append_nil]
        rfl
    | some latest =>
        rw [hlatest, Option.map_some] at hfor
        have hvalid : validateWorkflowProjection (projectionOf a latest.payload) = true := by
          have hok := hs.journal.activation a ha
          have hmem := List.mem_of_getLast? hlatest
          rw [hs.journal.checkpointsOf_eq ha] at hmem
          have hsequence := (hs.journal.chain a ha).sequence_version latest hmem
          refine decide_eq_true ⟨hok.tenant, ?_, hok.correlation⟩
          show 1 ≤ latest.payload.checkpointSequence
          omega
        have hinsert : Table.insert? WorkflowProjection.clash (projectionOf a latest.payload) rows =
            some (rows ++ [projectionOf a latest.payload]) := by
          refine Table.insert?_eq_some.mpr ⟨fun q hq => ?_, rfl⟩
          exact hfresh _ (by rw [hfor]; exact rfl) q hq
        dsimp only
        rw [hvalid, hinsert, hfor]
        rfl
  · rw [if_neg fun h => hdecisions (hone.mp h)]
    cases hresult : s.validateChange4Source a (s.checkpointsOf a.tenantId a.workflowId) with
    | ok u => exact absurd (hpolicy.mp hresult) hdecisions
    | error e =>
        rw [raises_validateChange4Source s a _ e hresult]
        rfl

/-- The rows of two activations are not of one workflow, nor of one case. -/
theorem projectionFor_clash {b : WorkflowActivation} (hclash : a.clash b = false)
    {p q : WorkflowProjection} (hp : p ∈ s.projectionFor a) (hq : q ∈ s.projectionFor b) :
    p.clash q = false := by
  obtain ⟨c, -, rfl⟩ := Option.map_eq_some_iff.mp hp
  obtain ⟨d, -, rfl⟩ := Option.map_eq_some_iff.mp hq
  rw [Bool.eq_false_iff] at hclash ⊢
  intro hproj
  apply hclash
  obtain ⟨ht, hkey⟩ := of_decide_eq_true hproj
  exact decide_eq_true ⟨ht, hkey.elim Or.inl fun hcase => Or.inr (Or.inr hcase)⟩

/-- The loop over activations that do not clash; `d` are those it has seen. -/
theorem Closed.foldlM_eq (hs : Closed s) {rest d : List WorkflowActivation}
    (hmem : ∀ a ∈ rest, a ∈ s.journal.activations)
    (hdistinct : Table.Distinct WorkflowActivation.clash (d ++ rest)) :
    rest.foldlM s.rebuildActivation (d.filterMap s.projectionFor) =
      if s.decidedOnce rest then .ok ((d ++ rest).filterMap s.projectionFor)
      else .error .policyJournalInvalid := by
  induction rest generalizing d with
  | nil =>
      rw [List.append_nil]
      rfl
  | cons a rest ih =>
      have hfresh : ∀ p ∈ s.projectionFor a, ∀ q ∈ d.filterMap s.projectionFor, p.clash q = false := by
        intro p hp q hq
        obtain ⟨b, hb, hqb⟩ := List.mem_filterMap.mp hq
        have hclash := (List.pairwise_append.mp hdistinct).2.2 b hb a List.mem_cons_self
        exact projectionFor_clash hclash hp hqb
      have hnext := ih (d := d ++ [a]) (fun b hb => hmem b (List.mem_cons_of_mem _ hb))
        (by rw [List.append_assoc]; exact hdistinct)
      have hone : s.decidedOnce (a :: rest) = (s.decidedOnce [a] && s.decidedOnce rest) := by
        unfold WorkflowStore.decidedOnce
        simp
      rw [List.foldlM_cons, hs.rebuildActivation_eq (hmem a List.mem_cons_self) hfresh, hone]
      cases hdecided : s.decidedOnce [a] with
      | false => rfl
      | true =>
          have hrows : d.filterMap s.projectionFor ++ (s.projectionFor a).toList =
              (d ++ [a]).filterMap s.projectionFor := by
            rw [List.filterMap_append]
            cases hrow : s.projectionFor a <;> simp [hrow]
          rw [List.append_assoc, List.singleton_append] at hnext
          rw [if_pos rfl, hrows, Bool.true_and, ← hnext]
          rfl

/-- **What a rebuild returns**: the read model, or the error of a second decision. -/
theorem Closed.rebuildWorkflowProjection_eq (hs : Closed s) :
    s.rebuildWorkflowProjection =
      if s.decidedOnce s.journal.activations then .ok { s with workflowProjection := s.projections }
      else .error .policyJournalInvalid := by
  have hfold := hs.foldlM_eq (d := []) (fun a ha => ha) hs.journal.distinct
  unfold WorkflowStore.rebuildWorkflowProjection
  rw [List.filterMap_nil, List.nil_append] at hfold
  rw [hfold]
  cases s.decidedOnce s.journal.activations with
  | true => rfl
  | false => rfl

end WeFlow
