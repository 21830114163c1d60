import WeFlow.Kernel.Closure.Recovery

/-!
# `Runs` — what holds of the journal in every run

The invariants of the modules before this one, along every run: whatever is called in whatever order, and
wherever a call dies. Each result is followed by a run that it is about.

## Contents

* `rebuild_along_runs`, `readModel_snapshot` — the read model.
* `checkpoints_along_runs`, `effects_along_runs`, `commands_along_runs`, `cancelled_along_runs` — checkpoints.
* `investigations_along_runs`, `decisions_along_runs`, `deliveries_along_runs`, `recorded_has_evidence` — rows.
* `case_follows_workflow`, `recovery_settles`, `recovery_refused` — recovery and the Case.
* `journal_append_only` — nothing is ever changed or removed.
-/

namespace WeFlow

open Txn Prog

variable {x : Context} {s s' : WorkflowStore} {a : WorkflowActivation} {part : Part} {steps : List Step}

/-! ## The runs of the examples -/

/-- The delivery's run, with one row of each kind. -/
theorem api503Delivery_run : Along anyCall {} api503Delivery = true ∧
    (run api503Delivery).investigation.activations.length = 1 ∧
    (run api503Delivery).delivery.records.length = 1 ∧ (run api503Delivery).delivery.completions.length = 1 ∧
    ∃ a ∈ (run api503Delivery).journal.activations,
      ∃ c ∈ (run api503Delivery).checkpointRows a.tenantId a.workflowId,
        c.payload.currentState = .deliveryRecorded := by
  rw [run_api503Delivery]
  exact ⟨by decide +kernel, by decide +kernel, by decide +kernel, by decide +kernel, by decide +kernel⟩

/-- The delivery is cut off behind its intent, its authorization has expired when it is recovered, and the workflow
    is then cancelled. -/
def api503Forgotten : List Step :=
  let intended := api503Answers (calm 5) 24 api503Awaiting
  let denied := [uninterrupted (calm (minutes 20)) api503Recover]
  let cancelled := commandSteps (calm (minutes 20 + 1)) ⟨api503Tenant, api503CaseId, "k", .cancel, 10⟩
    (runFrom api503Awaiting (intended ++ denied))
  api503Approval ++ (intended ++ denied ++ cancelled ++ [uninterrupted (calm (minutes 20 + 2)) api503Recover])

/-- The CANCEL meets the delivery, and causes a reconciliation, which the last recovery completes: what was pending
    is pending or completed at the next checkpoint, up to that one. -/
theorem api503Forgotten_run : Along anyCall {} api503Forgotten = true ∧
    (run api503Forgotten).journal.activations.length = 1 ∧
    (run api503Forgotten).journal.checkpoints.map (·.causedBy "k") = List.replicate 11 false ++ [true, false] ∧
    ((run api503Forgotten).journal.checkpoints.drop 11).map (·.payload.currentState) =
      [.needsReconciliation, .waitingForOperator] ∧
    ((run api503Forgotten).journal.checkpoints.zip (run api503Forgotten).journal.checkpoints.tail).map
      (fun (c, d) => decide (c.payload.pendingIntentIds ⊆
        d.payload.pendingIntentIds ∪ d.payload.completedIntentIds)) = List.replicate 11 true ++ [false] := by
  have hrun : run api503Forgotten = runFrom api503Awaiting (api503Forgotten.drop api503Approval.length) := by
    unfold api503Forgotten
    rw [run_append, List.drop_left]
    rfl
  refine ⟨?_, ?_, ?_, ?_, ?_⟩
  · unfold api503Forgotten
    exact along_append.mpr ⟨by decide +kernel, by decide +kernel⟩
  · rw [hrun]
    decide +kernel
  · rw [hrun]
    decide +kernel
  · rw [hrun]
    decide +kernel
  · rw [hrun]
    decide +kernel

/-- The workflow is cancelled when its ticket is ready. -/
def api503Cancelled : List Step :=
  api503Ticket "e" ++
    commandSteps (calm 1) ⟨api503Tenant, api503CaseId, "k", .cancel, 5⟩ (run (api503Ticket "e"))

theorem api503Cancelled_run : Along anyCall {} api503Cancelled = true ∧
    ∃ a ∈ (run api503Cancelled).journal.activations,
      ((run api503Cancelled).latestCheckpoint? a.tenantId a.workflowId).any
        (fun c => c.payload.currentState = .cancelled) = true :=
  ⟨by decide +kernel, by decide +kernel⟩

/-- The grant is revoked while the approval is awaited, and the workflow is recovered. -/
def api503Redecided : List Step :=
  [ uninterrupted (calm 1) (.revokeFixtureGrant api503Tenant api503CaseId),
    uninterrupted (calm 2) api503Recover ]

/-- The recovery of a workflow whose grant is revoked decides again. -/
theorem api503Redecided_run : Along anyCall {} (api503Approval ++ api503Redecided) = true ∧
    (run (api503Approval ++ api503Redecided)).journal.activations.length = 1 ∧
    (run api503Approval).decidedOnce (run api503Approval).journal.activations = true ∧
    (run (api503Approval ++ api503Redecided)).policy.decisions.map (·.body.decision) = [.allow, .deny] ∧
    (run (api503Approval ++ api503Redecided)).decidedOnce
      (run (api503Approval ++ api503Redecided)).journal.activations = false := by
  rw [run_append]
  exact ⟨along_append.mpr ⟨by decide +kernel, by decide +kernel⟩, by decide +kernel, by decide +kernel,
    by decide +kernel, by decide +kernel⟩

/-- The workflow is paused by a call that dies before its Case has the event. -/
def api503PauseCut : List Step :=
  api503Ticket "e" ++
    (commandSteps (calm 1) ⟨api503Tenant, api503CaseId, "p", .pause, 5⟩ (run (api503Ticket "e"))).map
      fun step => { step with cut := 5 }

/-- …and resumed. -/
def api503Skipped : List Step :=
  api503PauseCut ++
    commandSteps (calm 2) ⟨api503Tenant, api503CaseId, "r", .resume, 6⟩ (run api503PauseCut)

/-- The Case is behind the PAUSE, and so is the read model, until a recovery returns; when the workflow is resumed
    before, its Case has no event of either. -/
theorem api503PauseCut_run : Along anyCall {} api503Skipped = true ∧
    (run api503PauseCut).latestState api503Tenant api503WorkflowId = some .paused ∧
    (run api503PauseCut).workflowProjection.map (·.state) = [.ticketReady] ∧
    (∀ a ∈ (run api503PauseCut).journal.activations, (run api503PauseCut).caseState a = some .ticketReady) ∧
    ((uninterrupted (calm 2) api503Recover).exec (run api503PauseCut)).1 = .done () ∧
    ((run (api503PauseCut ++ [uninterrupted (calm 2) api503Recover])).latestCheckpoint?
      api503Tenant api503WorkflowId).any (fun c => c.transitionKind.isSome && c.payload.currentState = .paused) =
        true ∧
    ∃ a ∈ (run api503Skipped).journal.activations, ((run api503Skipped).trailOf a).length = 1 ∧
      (transitionsOf a ((run api503Skipped).checkpointRows a.tenantId a.workflowId)).length = 3 :=
  ⟨by decide +kernel, by decide +kernel, by decide +kernel, by decide +kernel, by decide +kernel,
    by decide +kernel, by decide +kernel⟩

/-- A PAUSE is stored, and an investigation begins before it is applied. -/
def api503Overtaken : List Step :=
  api503Ticket "e" ++
    (commandSteps (calm 1) ⟨api503Tenant, api503CaseId, "p", .pause, 5⟩ (run (api503Ticket "e"))).take 2 ++
    [uninterrupted (calm 2) (.beginInvestigation api503Tenant api503CaseId (api503Manifest "e") "e")]

theorem api503Overtaken_run : Along anyCall {} api503Overtaken = true ∧
    ((uninterrupted (calm 3) api503Recover).exec (run api503Overtaken)).1 =
      .raised .workflowCommandRecoveryConflict :=
  ⟨by decide +kernel, by decide +kernel⟩

/-! ## Checkpoints -/

/-- **No checkpoint loses a completed effect**, and none loses a pending one, but for a delivery: its workflow
    forgets it when it completes a reconciliation that it entered from another state than DELIVERING. What a
    checkpoint counts as pending or completed is an effect of its workflow, and what it counts as completed is. -/
theorem effects_along_runs (h : Along anyCall {} steps = true) (ha : a ∈ (run steps).journal.activations) :
    ((run steps).checkpointRows a.tenantId a.workflowId).IsChain KeepsEffects ∧
    ∀ c ∈ (run steps).checkpointRows a.tenantId a.workflowId,
      (∀ e ∈ c.payload.pendingIntentIds ∪ c.payload.completedIntentIds, e ∈ (run steps).effectIds a) ∧
      ∀ e ∈ c.payload.completedIntentIds, e ∈ (run steps).completedIds a := by
  have hs := run_closed h
  exact ⟨hs.effects.kept a ha, fun c hc =>
    ⟨(hs.effects.known a ha c hc).effects, (hs.effects.known a ha c hc).completed⟩⟩

/-- The workflow forgets the delivery that was pending when it was cancelled. -/
theorem effects_along_runs_example :
    ((run api503Forgotten).journal.checkpoints.zip (run api503Forgotten).journal.checkpoints.tail).map
      (fun (c, d) => decide (c.payload.pendingIntentIds ⊆
        d.payload.pendingIntentIds ∪ d.payload.completedIntentIds)) = List.replicate 11 true ++ [false] ∧
    ∃ a ∈ (run api503Forgotten).journal.activations,
      ((run api503Forgotten).checkpointRows a.tenantId a.workflowId).IsChain KeepsEffects := by
  obtain ⟨halong, hone, -, -, hforgets⟩ := api503Forgotten_run
  obtain ⟨a, ha⟩ := List.exists_mem_of_length_pos (hone ▸ Nat.one_pos)
  exact ⟨hforgets, a, ha, (effects_along_runs halong ha).1⟩

/-- **A command causes one checkpoint at most**, and every checkpoint that says a command caused it is what a
    stored command of its workflow asks for, at the version behind the one that the command expected. -/
theorem commands_along_runs (h : Along anyCall {} steps = true) (ha : a ∈ (run steps).journal.activations) :
    ∀ id, (((run steps).checkpointRows a.tenantId a.workflowId).filter (·.causedBy id)).length ≤ 1 ∧
      ∀ c ∈ (run steps).checkpointRows a.tenantId a.workflowId, c.causedBy id = true →
        ∃ command ∈ (run steps).journal.commands, command.tenantId = a.tenantId ∧
          command.workflowId = a.workflowId ∧ command.commandId = id ∧
          c.payload.workflowVersion = command.expectedWorkflowVersion + 1 ∧ command.Causes c := by
  intro id
  have hs := run_closed h
  refine ⟨hs.rows.source.once a ha id, fun c hc hcaused => ?_⟩
  obtain ⟨hmem, hkey⟩ := List.mem_filter.mp hc
  rw [decide_eq_true_eq] at hkey
  obtain ⟨command, hcommand, ht, hw, hrest⟩ := hs.caused c hmem id (of_decide_eq_true hcaused)
  exact ⟨command, hcommand, ht.trans hkey.1, hw.trans hkey.2, hrest⟩

theorem commands_along_runs_example :
    (run api503Forgotten).journal.checkpoints.map (·.causedBy "k") = List.replicate 11 false ++ [true, false] ∧
    ∃ a ∈ (run api503Forgotten).journal.activations, ∀ id,
      (((run api503Forgotten).checkpointRows a.tenantId a.workflowId).filter (·.causedBy id)).length ≤ 1 := by
  obtain ⟨halong, hone, hcaused, -, -⟩ := api503Forgotten_run
  obtain ⟨a, ha⟩ := List.exists_mem_of_length_pos (hone ▸ Nat.one_pos)
  exact ⟨hcaused, a, ha, fun id => (commands_along_runs halong ha id).1⟩

/-- **A cancelled workflow has nothing outstanding**: its latest checkpoint has no pending effect, and every
    effect that it has begun is completed. -/
theorem cancelled_along_runs (h : Along anyCall {} steps = true) (ha : a ∈ (run steps).journal.activations)
    {c : Checkpoint} (hlatest : (run steps).latestCheckpoint? a.tenantId a.workflowId = some c)
    (hstate : c.payload.currentState = .cancelled) :
    c.payload.pendingIntentIds = ∅ ∧ ∀ e ∈ (run steps).effectIds a, e ∈ (run steps).completedIds a := by
  obtain ⟨hpending, hsubset⟩ := (run_closed h).cancelled a ha c hlatest hstate
  exact ⟨hpending, fun e he => hsubset he⟩

theorem cancelled_along_runs_example : ∃ a ∈ (run api503Cancelled).journal.activations, ∃ c,
    (run api503Cancelled).latestCheckpoint? a.tenantId a.workflowId = some c ∧
      c.payload.currentState = .cancelled ∧ c.payload.pendingIntentIds = ∅ := by
  obtain ⟨halong, a, ha, hany⟩ := api503Cancelled_run
  obtain ⟨c, hlatest, hcancelled⟩ := (Option.any_eq_true _ _).mp hany
  have hstate : c.payload.currentState = .cancelled := of_decide_eq_true hcancelled
  exact ⟨a, ha, c, hlatest, hstate, (cancelled_along_runs halong ha hlatest hstate).1⟩

/-! ## The rows behind a delivery -/

/-- **An investigation stays within its manifest**: it has no more tool requests than its budget, each of which
    has its result, and every action, request and candidate is one that its manifest admits. -/
theorem investigations_along_runs (h : Along anyCall {} steps = true) {i : InvestigationActivation}
    (hi : i ∈ (run steps).investigation.activations) :
    ((run steps).toolRequestsOf i.tenantId i.workflowId).length ≤ i.manifest.toolBudget ∧
    ((run steps).toolResultsOf i.tenantId i.workflowId).length =
      ((run steps).toolRequestsOf i.tenantId i.workflowId).length ∧
    (∀ y ∈ (run steps).agentStepsOf i.tenantId i.workflowId, validateAgentAction y.action i.manifest = true) ∧
    (∀ r ∈ (run steps).toolRequestsOf i.tenantId i.workflowId,
      validateToolRequest r.request i.manifest = true ∧ (run steps).Answered r) ∧
    ∀ row ∈ (run steps).candidatesOf i.tenantId i.workflowId,
      validateResponseCandidate row.candidate i.manifest = true := by
  have hr := (run_closed h).rows.investigation
  have hmem : i ∈ (run steps).investigationsOf i.tenantId i.workflowId :=
    List.mem_filter.mpr ⟨hi, decide_eq_true ⟨rfl, rfl⟩⟩
  -- the manifest that admits a row is this one
  have hadmits : ∀ {t : String} {w : WorkflowId} {p : ContextManifest → Prop}, Admits (run steps) t w p →
      t = i.tenantId ∧ w = i.workflowId → p i.manifest := by
    rintro t w p ⟨j, hj, hp⟩ ⟨rfl, rfl⟩
    rwa [hr.investigation_unique hmem hj]
  have hkey : ∀ {α : Type} {rows : List α} {y : α} {t : α → String} {w : α → WorkflowId},
      y ∈ rows.filter (fun y => t y = i.tenantId ∧ w y = i.workflowId) →
        y ∈ rows ∧ t y = i.tenantId ∧ w y = i.workflowId := by
    intro α rows y t w hy
    obtain ⟨hy, hk⟩ := List.mem_filter.mp hy
    exact ⟨hy, of_decide_eq_true hk⟩
  refine ⟨hr.budget i hi, hr.paired _ _, fun y hy => ?_, fun r hrm => ?_, fun row hrow => ?_⟩
  · obtain ⟨hy, hk⟩ := hkey hy
    exact hadmits (hr.agentStep y hy) hk
  · obtain ⟨hrm, hk⟩ := hkey hrm
    obtain ⟨hanswered, hadmitted⟩ := hr.toolRequest r hrm
    exact ⟨hadmits hadmitted hk, hanswered⟩
  · obtain ⟨hrow, hk⟩ := hkey hrow
    exact hadmits (hr.candidate row hrow) hk

theorem investigations_along_runs_example :
    (run api503Delivery).investigation.activations.length = 1 ∧
    ∃ i ∈ (run api503Delivery).investigation.activations,
      ((run api503Delivery).toolRequestsOf i.tenantId i.workflowId).length ≤ i.manifest.toolBudget := by
  obtain ⟨halong, hone, -⟩ := api503Delivery_run
  obtain ⟨i, hi⟩ := List.exists_mem_of_length_pos (hone ▸ Nat.one_pos)
  exact ⟨hone, i, hi, (investigations_along_runs halong hi).1⟩

/-- **The policy decides once**: a workflow has two decisions at most, of which one allows, and a second one only
    when its grant is revoked. -/
theorem decisions_along_runs (h : Along anyCall {} steps = true) (ha : a ∈ (run steps).journal.activations) :
    ((run steps).decisionsOf a.tenantId a.workflowId).length ≤ 2 ∧
    (((run steps).decisionsOf a.tenantId a.workflowId).filter (·.body.decision = .allow)).length ≤ 1 ∧
    (1 < ((run steps).decisionsOf a.tenantId a.workflowId).length →
      ∃ g ∈ (run steps).grantsOf a.tenantId a.workflowId,
        (run steps).grantIsActive a.tenantId g.body.grantId = false) := by
  have hs := run_closed h
  exact hs.decisions.le_two hs.journal hs.rows ha

theorem decisions_along_runs_example :
    (run (api503Approval ++ api503Redecided)).policy.decisions.map (·.body.decision) = [.allow, .deny] ∧
    ∃ a ∈ (run (api503Approval ++ api503Redecided)).journal.activations,
      ((run (api503Approval ++ api503Redecided)).decisionsOf a.tenantId a.workflowId).length ≤ 2 := by
  obtain ⟨halong, hone, -, hdecisions, -⟩ := api503Redecided_run
  obtain ⟨a, ha⟩ := List.exists_mem_of_length_pos (hone ▸ Nat.one_pos)
  exact ⟨hdecisions, a, ha, (decisions_along_runs halong ha).1⟩

/-- **A delivery takes place once**: a workflow has one intent at most, a natural key one record, and an intent
    one completion, which reports that record. -/
theorem deliveries_along_runs (h : Along anyCall {} steps = true) (a : WorkflowActivation) :
    ((run steps).deliveryIntentsOf a.tenantId a.workflowId).length ≤ 1 ∧
    ∀ i ∈ (run steps).deliveryIntentsOf a.tenantId a.workflowId,
      ((run steps).deliveryRecordsOf a.tenantId i.naturalKey).length ≤ 1 ∧
      ((run steps).deliveryCompletionsOf a.tenantId i.intentId).length ≤ 1 ∧
      ∀ d ∈ (run steps).deliveryCompletionsOf a.tenantId i.intentId,
        ∃ r ∈ (run steps).deliveryRecordsOf a.tenantId i.naturalKey, d.observedDeliveryId = r.deliveryId ∧
          d.observedVersion = r.version ∧ d.contentSha256 = r.contentSha256 ∧
          r.contentSha256 = i.candidateHash := by
  have hr := (run_closed h).rows.delivery
  refine ⟨?_, fun i hi => ⟨?_, ?_, fun d hd => ?_⟩⟩
  · refine hr.intents.filter_le_one fun i _ j _ hik hjk => ?_
    rw [decide_eq_true_eq] at hik hjk
    exact decide_eq_true ⟨hik.1.trans hjk.1.symm, Or.inr (Or.inr (hik.2.trans hjk.2.symm))⟩
  · unfold WorkflowStore.deliveryRecordsOf
    rw [List.length_insertionSort]
    refine hr.records.filter_le_one fun q hq r hrm hqk hrk => ?_
    obtain ⟨_, _, _, hqnew⟩ := hr.record q hq
    obtain ⟨_, _, _, hrnew⟩ := hr.record r hrm
    rw [decide_eq_true_eq] at hqk hrk
    have hversion : q.version = r.version := by
      rw [hqnew, hrnew]
      rfl
    exact decide_eq_true ⟨hqk.1.trans hrk.1.symm, hversion, Or.inr (hqk.2.trans hrk.2.symm)⟩
  · refine hr.completions.filter_le_one fun d _ e _ hdk hek => ?_
    rw [decide_eq_true_eq] at hdk hek
    exact decide_eq_true ⟨hdk.1.trans hek.1.symm, Or.inr (hdk.2.trans hek.2.symm)⟩
  · obtain ⟨r, hrm, ⟨env, hnew⟩, hid, hversion, hcontent⟩ := hr.completion_record hi hd
    have hkey := of_decide_eq_true (List.mem_filter.mp hi).2
    have hrmem : r ∈ (run steps).deliveryRecordsOf a.tenantId i.naturalKey := by
      refine (List.mem_insertionSort _).mpr (List.mem_filter.mpr ⟨hrm, decide_eq_true ?_⟩)
      rw [hnew]
      exact ⟨hkey.1, rfl⟩
    exact ⟨r, hrmem, hid, hversion, hcontent, by rw [hnew]; rfl⟩

theorem deliveries_along_runs_example :
    ((run api503Delivery).delivery.records.length = 1 ∧ (run api503Delivery).delivery.completions.length = 1) ∧
    ∃ a ∈ (run api503Delivery).journal.activations,
      ((run api503Delivery).deliveryIntentsOf a.tenantId a.workflowId).length ≤ 1 := by
  obtain ⟨halong, -, hrecord, hcompletion, a, ha, -⟩ := api503Delivery_run
  exact ⟨⟨hrecord, hcompletion⟩, a, ha, (deliveries_along_runs halong a).1⟩

/-- **Behind a recorded delivery stands its evidence**: the last candidate, a decision that allows its delivery
    under the workflow's grant, the binding of both, the request for it, the approval, the intent, the record of
    the delivery and its completion, each with the hashes of those before it. -/
theorem recorded_has_evidence (h : Along anyCall {} steps = true) (ha : a ∈ (run steps).journal.activations)
    {c : Checkpoint} (hc : c ∈ (run steps).checkpointRows a.tenantId a.workflowId)
    (hstate : c.payload.currentState = .deliveryRecorded) : Nonempty (DeliveryEvidence (run steps) a) := by
  have hs := run_closed h
  exact hs.recorded.evidence hs.journal hs.rows ha hs.decisions hc hstate

theorem recorded_has_evidence_example :
    ∃ a ∈ (run api503Delivery).journal.activations, Nonempty (DeliveryEvidence (run api503Delivery) a) := by
  obtain ⟨halong, -, -, -, a, ha, c, hc, hstate⟩ := api503Delivery_run
  exact ⟨a, ha, recorded_has_evidence halong ha hc hstate⟩

/-! ## The read model -/

/-- **What a rebuild of the read model returns**: every workflow at its latest checkpoint. It fails only for a
    workflow that was decided twice, whose grant is then revoked, and it fails for every workflow. -/
theorem rebuild_along_runs (h : Along anyCall {} steps = true) :
    (run steps).rebuildWorkflowProjection =
      (if (run steps).decidedOnce (run steps).journal.activations then
        .ok { run steps with workflowProjection := (run steps).projections }
      else .error .policyJournalInvalid) ∧
    ((run steps).decidedOnce (run steps).journal.activations = false →
      ∃ a ∈ (run steps).journal.activations, ∃ g ∈ (run steps).grantsOf a.tenantId a.workflowId,
        (run steps).grantIsActive a.tenantId g.body.grantId = false) := by
  have hs := run_closed h
  refine ⟨hs.rebuildWorkflowProjection_eq, fun htwice => ?_⟩
  unfold WorkflowStore.decidedOnce at htwice
  obtain ⟨a, ha, hmore⟩ := List.all_eq_false.mp htwice
  have hlength : 1 < ((run steps).decisionsOf a.tenantId a.workflowId).length := by
    rw [decide_eq_true_eq] at hmore
    omega
  obtain ⟨g, hg, hrevoked⟩ := (hs.decisions.le_two hs.journal hs.rows ha).2.2 hlength
  exact ⟨a, ha, g, hg, hrevoked⟩

/-- A workflow that awaits its approval is shown; when its grant is revoked and it is recovered, no rebuild of the
    read model succeeds any more. -/
theorem rebuild_along_runs_example :
    (run api503Approval).rebuildWorkflowProjection =
      .ok { run api503Approval with workflowProjection := (run api503Approval).projections } ∧
    (run (api503Approval ++ api503Redecided)).rebuildWorkflowProjection = .error .policyJournalInvalid := by
  obtain ⟨halong, -, honce, -, htwice⟩ := api503Redecided_run
  refine ⟨?_, ?_⟩
  · rw [(rebuild_along_runs (along_append.mp halong).1).1, if_pos honce]
  · rw [(rebuild_along_runs halong).1, htwice]
    exact if_neg Bool.false_ne_true

/-- **The read model shows a journal of the past**, each workflow at what was its latest checkpoint then: it may be
    behind, but it never shows what no journal has had. -/
theorem readModel_snapshot (h : Along anyCall {} steps = true) :
    ∃ s₀, Closed s₀ ∧ Extends s₀ (run steps) ∧ (run steps).workflowProjection = s₀.projections :=
  run_readModel h

/-- A call that dies behind its checkpoint leaves the read model behind the journal. -/
theorem readModel_snapshot_example :
    (run api503PauseCut).latestState api503Tenant api503WorkflowId = some .paused ∧
    (run api503PauseCut).workflowProjection.map (·.state) = [.ticketReady] ∧
    ∃ s₀, Closed s₀ ∧ Extends s₀ (run api503PauseCut) ∧
      (run api503PauseCut).workflowProjection = s₀.projections := by
  obtain ⟨halong, hstate, hrows, -⟩ := api503PauseCut_run
  exact ⟨hstate, hrows, readModel_snapshot (along_append.mp halong).1⟩

/-! ## Recovery and the Case -/

/-- **The Case follows its workflow**: the events that it has of the workflow are some of those that the
    workflow's transitions ask for, in their order, and the last of them has led to the state of the Case. -/
theorem case_follows_workflow (h : Along anyCall {} steps = true) (ha : a ∈ (run steps).journal.activations) :
    ((run steps).trailOf a).Sublist
      ((transitionsOf a ((run steps).checkpointRows a.tenantId a.workflowId)).map (·.mark)) ∧
    (run steps).caseState a = some (trailState ((run steps).trailOf a)) := by
  have hs := run_trailInv h
  exact ⟨hs.sublist a ha, hs.state a ha⟩

theorem case_follows_workflow_example :
    ∃ a ∈ (run api503Skipped).journal.activations, ((run api503Skipped).trailOf a).length = 1 ∧
      (transitionsOf a ((run api503Skipped).checkpointRows a.tenantId a.workflowId)).length = 3 ∧
      (run api503Skipped).caseState a = some (trailState ((run api503Skipped).trailOf a)) := by
  obtain ⟨halong, -, -, -, -, -, a, ha, htrail, htransitions⟩ := api503PauseCut_run
  exact ⟨a, ha, htrail, htransitions, (case_follows_workflow halong ha).2⟩

/-- **What a recovery that returns has established**: where the latest checkpoint is a transition, the Case is in
    its state; and every command of the workflow has caused one checkpoint, or is a CANCEL that met a
    reconciliation at its version or later. -/
theorem recovery_settles {step : Step} {t : String} {w : WorkflowId}
    (h : Along anyCall {} steps = true) (hcall : step.call = .recoverWorkflow t w)
    (hdone : (step.exec (run steps)).1 = .done ()) :
    ∃ a ∈ (run (steps ++ [step])).journal.activations, a.tenantId = t ∧ a.workflowId = w ∧
      (∀ c, (run (steps ++ [step])).latestCheckpoint? t w = some c → c.transitionKind.isSome = true →
        (run (steps ++ [step])).caseState a = some c.payload.currentState) ∧
      ∀ command ∈ (run (steps ++ [step])).commandsOf t w, (run (steps ++ [step])).AppliedOrMet a command := by
  rw [run_append]
  exact Step.returns (run_closed h) (run_trailInv h) hcall hdone

/-- The Case is behind the PAUSE until a recovery returns. -/
theorem recovery_settles_example :
    (∀ a ∈ (run api503PauseCut).journal.activations, (run api503PauseCut).caseState a = some .ticketReady) ∧
    ∃ a ∈ (run (api503PauseCut ++ [uninterrupted (calm 2) api503Recover])).journal.activations,
      (run (api503PauseCut ++ [uninterrupted (calm 2) api503Recover])).caseState a = some .paused := by
  obtain ⟨halong, -, -, hbehind, hdone, hlatest, -⟩ := api503PauseCut_run
  have hcall : (uninterrupted (calm 2) api503Recover).call = .recoverWorkflow api503Tenant api503WorkflowId := rfl
  obtain ⟨c, hc, hpaused⟩ := (Option.any_eq_true _ _).mp hlatest
  rw [Bool.and_eq_true, decide_eq_true_eq] at hpaused
  obtain ⟨a, ha, -, -, hcase, -⟩ := recovery_settles (along_append.mp halong).1 hcall hdone
  have hstate := hcase c hc hpaused.1
  rw [hpaused.2] at hstate
  exact ⟨hbehind, a, ha, hstate⟩

/-- **A recovery is refused by a waiting command alone**: where it raises for a command's version, a transition or
    a checkpoint that is refused, a stored command is not applied, and cannot be. -/
theorem recovery_refused {step : Step} {t : String} {w : WorkflowId} {e : WorkflowError}
    (h : Along anyCall {} steps = true) (hcall : step.call = .recoverWorkflow t w)
    (hraised : (step.exec (run steps)).1 = .raised e)
    (he : e = .workflowCommandRecoveryConflict ∨ e = .workflowTransitionNotAllowed ∨
      e = .workflowCheckpointInvalid) :
    ∃ a ∈ (run (steps ++ [step])).journal.activations, a.tenantId = t ∧ a.workflowId = w ∧
      ∃ c command, (run (steps ++ [step])).latestCheckpoint? t w = some c ∧
        Stuck (run (steps ++ [step])) a c.payload command := by
  rw [run_append]
  refine Step.refused (run_closed h) hcall hraised ?_ ?_
  · rcases he with rfl | rfl | rfl <;> rfl
  · rcases he with rfl | rfl | rfl <;> exact nofun

theorem recovery_refused_example :
    ((uninterrupted (calm 3) api503Recover).exec (run api503Overtaken)).1 =
      .raised .workflowCommandRecoveryConflict ∧
    ∃ a c command, Stuck (run (api503Overtaken ++ [uninterrupted (calm 3) api503Recover])) a c command := by
  obtain ⟨halong, hraised⟩ := api503Overtaken_run
  have hcall : (uninterrupted (calm 3) api503Recover).call = .recoverWorkflow api503Tenant api503WorkflowId := rfl
  obtain ⟨a, -, -, -, c, command, -, hstuck⟩ := recovery_refused halong hcall hraised (Or.inl rfl)
  exact ⟨hraised, a, c.payload, command, hstuck⟩

/-! ## Nothing is lost -/

/-- **The journal is append-only**: whatever happens, every table is a prefix of what it is later. -/
theorem journal_append_only {later : List Step} (h : Along anyCall {} (steps ++ later) = true) :
    Extends (run steps) (run (steps ++ later)) := by
  obtain ⟨hbefore, hafter⟩ := along_append.mp h
  rw [run_append]
  exact runFrom_extends (run_closed hbefore) hafter

theorem journal_append_only_example :
    (run api503Delivery).delivery.records.length = 1 ∧
    Extends (run api503Approval) (run (api503Approval ++ api503Answers (calm 5) 1000 api503Awaiting)) :=
  ⟨api503Delivery_run.2.2.1, journal_append_only api503Delivery_run.1⟩

end WeFlow
