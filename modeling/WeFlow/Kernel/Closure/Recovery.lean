import WeFlow.Kernel.Closure.Append
import WeFlow.Kernel.Closure.Trail
import WeFlow.Kernel.Sla

/-!
# `Recovery` — what a recovery that ends has met

A recovery that returns has applied every command of its workflow, but a CANCEL that met a reconciliation; and
where it raises because of a command, that command is still waiting and cannot be applied.

## Contents

* `Settled.applied` — the commands of a workflow that is recovered.
* `Stuck`, `Refused.stuck` — why a recovery is refused.
* `Step.returns`, `Step.refused` — both for a step of a run.
-/

namespace WeFlow

open Txn Prog

variable {x : Context} {s s' : WorkflowStore} {a : WorkflowActivation} {part : Part}

/-! ## Returning -/

/-- A command was applied by a checkpoint, or it is a CANCEL that met a reconciliation at its version or later. -/
def WorkflowStore.AppliedOrMet (s : WorkflowStore) (a : WorkflowActivation) (command : WorkflowCommand) : Prop :=
  ((s.checkpointRows a.tenantId a.workflowId).filter (·.causedBy command.commandId)).length = 1 ∨
  command.commandType = .cancel ∧ ∃ c ∈ s.checkpointRows a.tenantId a.workflowId,
    c.payload.currentState = .needsReconciliation ∧ command.expectedWorkflowVersion ≤ c.payload.workflowVersion

/-- **The commands of a workflow that is recovered.** -/
theorem Settled.applied (h : Settled x s a) (hj : JournalInv x.start) (hs : Closed s)
    (ha : a ∈ s.journal.activations) :
    ∀ command ∈ s.commandsOf a.tenantId a.workflowId, s.AppliedOrMet a command := by
  intro command hcommand
  obtain ⟨s₁, hprepared, hcommands, hprefix⟩ := h
  have honce := hs.rows.source.once a ha command.commandId
  cases happlied : s.commandCheckpointExists a.tenantId a.workflowId command.commandId with
  | true =>
      left
      rw [commandCheckpointExists_eq, List.any_eq_true] at happlied
      obtain ⟨c, hc, hcaused⟩ := happlied
      have hpos : 0 < ((s.checkpointRows a.tenantId a.workflowId).filter (·.causedBy command.commandId)).length :=
        List.length_pos_of_mem (List.mem_filter.mpr ⟨hc, hcaused⟩)
      omega
  | false =>
      right
      have hrows : s₁.checkpointRows a.tenantId a.workflowId <+: s.checkpointRows a.tenantId a.workflowId :=
        hprefix.filter _
      have hstored : command ∈ s₁.commandsOf a.tenantId a.workflowId := by
        unfold WorkflowStore.commandsOf at hcommand ⊢
        rwa [← hcommands]
      -- it was waiting when the recovery had prepared its workflow
      have hpending : command ∈ s₁.pendingCommands a := by
        refine List.mem_filter.mpr ⟨hstored, decide_eq_true fun hexists => ?_⟩
        rw [commandCheckpointExists_eq, List.any_eq_true] at hexists
        obtain ⟨c, hc, hcaused⟩ := hexists
        rw [commandCheckpointExists_eq, List.any_eq_false] at happlied
        exact happlied c (hrows.subset hc) hcaused
      obtain ⟨htype, c, hlatest, hstate⟩ := hprepared.done command hpending
      have hj₁ : JournalInv s₁ := Reached.journalInv hprepared.reached hj
      obtain ⟨hcmem, ht, hw⟩ := WorkflowStore.latestCheckpoint?_mem hlatest
      have hversion : command.expectedWorkflowVersion ≤ c.payload.workflowVersion := by
        obtain ⟨b, hb, hbt, hbw⟩ := hj₁.owned c hcmem
        rw [← ht, ← hw, hbt, hbw] at hstored hlatest
        have hbound := hj₁.command_version hb hstored
        have hlength := hj₁.latest_version hb hlatest
        omega
      have hmem : c ∈ s₁.checkpointRows a.tenantId a.workflowId :=
        List.mem_filter.mpr ⟨hcmem, decide_eq_true ⟨ht, hw⟩⟩
      exact ⟨htype, c, hrows.subset hmem, hstate, hversion⟩

/-! ## Raising -/

/-- Both ticket effects are completed, so the handoff is. -/
theorem TicketInv.handoffComplete (hs : TicketInv s) {t : String} {w : WorkflowId} (h : s.TicketDone t w) :
    s.handoffComplete t w = true := by
  obtain ⟨i, hi, ht, hw, hop, d, hd, hdt, hdi⟩ := h .workflowHandoff
  have hfound : s.intentForOperation t w .workflowHandoff = some i := by
    refine hs.intents.find?_eq_some SideEffectIntent.clash_comm hi (decide_eq_true ⟨ht, hw, hop⟩) fun j hj hjk => ?_
    rw [decide_eq_true_eq] at hjk
    exact decide_eq_true ⟨hjk.1.trans ht.symm, Or.inr (Or.inr ⟨hjk.2.1.trans hw.symm, hjk.2.2.trans hop.symm⟩)⟩
  unfold WorkflowStore.handoffComplete WorkflowStore.completionForIntent
  rw [hfound, Option.any_some, List.find?_isSome]
  exact ⟨d, hd, decide_eq_true ⟨hdt.trans ht, hdi⟩⟩

/-- A waiting command that cannot be applied: its version has passed, its transition is refused, or it would enter
    a reconciliation from PAUSED. -/
structure Stuck (s : WorkflowStore) (a : WorkflowActivation) (c : CheckpointPayload) (command : WorkflowCommand) :
    Prop where
  pending : command ∈ s.pendingCommands a
  counts : ¬ (command.commandType = .cancel ∧ c.currentState = .needsReconciliation)
  refused : c.workflowVersion ≠ command.expectedWorkflowVersion ∨
    (s.commandRequest a c command).allowedFrom c = false ∨ (s.commandRequest a c command).resumeState = .paused

/-- **A recovery is refused by a command alone**: no SLA expires, and no reconciliation resumes, where it could
    refuse one. -/
theorem Refused.stuck (h : Refused x s) (hs : Closed s) : ∃ a ∈ s.journal.activations, x.call.about a = true ∧
    ∃ c command, s.latestCheckpoint? a.tenantId a.workflowId = some c ∧ Stuck s a c.payload command := by
  cases h with
  | @version a c command mem about latest pending counts late =>
      exact ⟨a, mem, about, c, command, latest, pending, counts, Or.inl late⟩
  | @transition a c command r mem about latest pending counts version applies refused =>
      rw [applies.eq_commandRequest] at refused
      exact ⟨a, mem, about, c, command, latest, pending, counts, Or.inr refused⟩
  | @sla a c mem latest unresolved state =>
      have hbehind : c.payload.VisitsAny WorkflowState.behindTicket := by
        rcases state with h | h <;> exact Or.inl (h ▸ rfl)
      have hdone := hs.rows.ticket.handoffComplete (hs.effects.behind.latest latest hbehind)
      exact absurd (unresolved.symm.trans hdone) Bool.false_ne_true
  | @shape a c mem latest state resume =>
      have hshape := hs.journal.latest_shaped mem latest
      rw [state] at hshape
      have hmem : c.payload.resumeState ∈ reconcilable := hshape
      rcases resume with h | h | h | h <;> · rw [h] at hmem; exact absurd hmem (by decide)

/-! ## A step of a run -/

/-- **A recovery that returns.** -/
theorem Step.returns {step : Step} {t : String} {w : WorkflowId} (hs : Closed s) (htrail : TrailInv s)
    (hcall : step.call = .recoverWorkflow t w) (hdone : (step.exec s).1 = .done ()) :
    ∃ a ∈ (s.after step).journal.activations, a.tenantId = t ∧ a.workflowId = w ∧
      (∀ c, (s.after step).latestCheckpoint? t w = some c → c.transitionKind.isSome = true →
        (s.after step).caseState a = some c.payload.currentState) ∧
      ∀ command ∈ (s.after step).commandsOf t w, (s.after step).AppliedOrMet a command := by
  have henabled : step.call.enabled s = true := by rw [hcall]; rfl
  have hafter : Closed (s.after step) ∧ TrailInv (s.after step) :=
    Step.keeps (P := fun s => Closed s ∧ TrailInv s)
      (fun _ _ _ _ heffect hp => ⟨heffect.closed hp.1, heffect.trailInv hp.1.journal hp.2⟩)
      hs.journal henabled ⟨hs, htrail⟩
  obtain ⟨a, ha, rfl, rfl, c, hready⟩ :=
    (exec_safe (safe_programOf (x := step.context s) hs.journal rfl henabled) step.cut).2.1 () hdone _ _ hcall
  have hrecovers : (step.context s).call.recovers = true := by
    show step.call.recovers = true
    rw [hcall]
    rfl
  refine ⟨a, ha, rfl, rfl, fun d hlatest htransition => ?_, ?_⟩
  · exact hafter.2.synced hafter.1.journal ha (hready.synced (Or.inl hrecovers)) hlatest htransition
  · exact (hready.settled hrecovers).applied hs.journal hafter.1 ha

/-- **A recovery that is refused.** -/
theorem Step.refused {step : Step} {t : String} {w : WorkflowId} {e : WorkflowError} (hs : Closed s)
    (hcall : step.call = .recoverWorkflow t w) (hraised : (step.exec s).1 = .raised e)
    (he : e.ofRecord = true) (hsla : e ≠ .workflowSlaConflict) :
    ∃ a ∈ (s.after step).journal.activations, a.tenantId = t ∧ a.workflowId = w ∧
      ∃ c command, (s.after step).latestCheckpoint? t w = some c ∧ Stuck (s.after step) a c.payload command := by
  have henabled : step.call.enabled s = true := by rw [hcall]; rfl
  have hafter : Closed (s.after step) :=
    Step.keeps (fun _ _ _ _ heffect hp => heffect.closed hp) hs.journal henabled hs
  have hrecovers : (step.context s).call.recovers = true := by
    show step.call.recovers = true
    rw [hcall]
    rfl
  have herror : recoveryError (step.context s) e (s.after step) :=
    (exec_safe (safe_programOf (x := step.context s) hs.journal rfl henabled) step.cut).2.2 _ hraised hrecovers
  rcases herror with hother | ⟨-, hrefused⟩ | ⟨heq, -⟩
  · exact absurd (he.symm.trans hother) Bool.false_ne_true.symm
  · obtain ⟨a, ha, habout, hrest⟩ := hrefused.stuck hafter
    have habout' : step.call.about a = true := habout
    rw [hcall] at habout'
    obtain ⟨rfl, rfl⟩ := of_decide_eq_true habout'
    exact ⟨a, ha, rfl, rfl, hrest⟩
  · exact absurd heq hsla

end WeFlow
