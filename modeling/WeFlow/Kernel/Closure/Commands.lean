import WeFlow.Kernel.Closure.Effects

/-!
# `Commands` — what a command does, and what it leaves

A checkpoint that says a command caused it is the transition that this command asks for, at the version that
it expected. A CANCEL ends a workflow only when nothing is outstanding, and nothing is begun after it.

## Contents

* `WorkflowCommand.Causes`, `CausedInv` — the checkpoint of a command.
* `Effect.new_effect`, `CancelledInv` — a cancelled workflow has completed all its effects.
-/

namespace WeFlow

variable {x : Context} {s s' : WorkflowStore} {a : WorkflowActivation} {part : Part}

/-! ## The checkpoint of a command -/

/-- The checkpoint is what the command asks for: its own transition, but a reconciliation for a CANCEL that
    meets unresolved effects. -/
def WorkflowCommand.Causes (command : WorkflowCommand) (c : Checkpoint) : Prop :=
  match command.commandType with
  | .pause => c.transitionKind = some .pause ∧ c.payload.currentState = .paused
  | .resume => c.transitionKind = some .resume ∧ c.payload.currentState = c.payload.resumeState
  | .cancel => c.transitionKind = some .cancel ∧ c.payload.currentState = .cancelled ∨
      c.transitionKind = some .reconciliationRequired ∧ c.payload.currentState = .needsReconciliation ∧
        c.payload.pendingIntentIds ≠ ∅

/-- **Every checkpoint that a command caused** is the one that a stored command asks for, at the version behind
    the one that it expected. -/
def CausedInv (s : WorkflowStore) : Prop :=
  ∀ c ∈ s.journal.checkpoints, ∀ id, c.payload.causationEventId = .command id →
    ∃ command ∈ s.journal.commands, command.tenantId = c.payload.tenantId ∧
      command.workflowId = c.payload.workflowId ∧ command.commandId = id ∧
      c.payload.workflowVersion = command.expectedWorkflowVersion + 1 ∧ command.Causes c

theorem Applies.causes {c : Checkpoint} {command : WorkflowCommand} {r : TransitionRequest} (env : Env)
    (h : Applies s a c.payload command r) :
    command.Causes (s.checkpointFor env a (r.checkpoint c.payload)) ∧
    r.causationEventId = .command command.commandId := by
  unfold WorkflowCommand.Causes
  cases h with
  | pause type =>
      rw [type]
      exact ⟨⟨rfl, rfl⟩, rfl⟩
  | resume type =>
      rw [type]
      exact ⟨⟨rfl, rfl⟩, rfl⟩
  | cancel type =>
      rw [type]
      exact ⟨Or.inl ⟨rfl, rfl⟩, rfl⟩
  | absorb type unresolved =>
      rw [type]
      exact ⟨Or.inr ⟨rfl, rfl, unresolved⟩, rfl⟩

/-- **Every transaction keeps it.** -/
theorem Effect.causedInv (h : Effect x s part s') (hs : CausedInv s) : CausedInv s' := by
  have hkept : ∀ c ∈ s.journal.checkpoints, ∀ id, c.payload.causationEventId = .command id →
      ∃ command ∈ s'.journal.commands, command.tenantId = c.payload.tenantId ∧
        command.workflowId = c.payload.workflowId ∧ command.commandId = id ∧
        c.payload.workflowVersion = command.expectedWorkflowVersion + 1 ∧ command.Causes c := by
    intro c hc id hid
    obtain ⟨command, hmem, hrest⟩ := hs c hc id hid
    exact ⟨command, h.grows.commands.subset hmem, hrest⟩
  cases h.appends with
  | nothing activations checkpoints =>
      intro c hc
      rw [checkpoints] at hc
      exact hkept c hc
  | activation fresh activations checkpoints =>
      intro c hc
      rw [checkpoints] at hc
      exact hkept c hc
  | @checkpoint a r ok reason eq =>
      intro c hc id hid
      rw [eq] at hc
      rcases List.mem_append.mp hc with hc | hc
      · exact hkept c hc id hid
      · rw [List.mem_singleton.mp hc] at hid ⊢
        have hid' : r.causationEventId = .command id := hid
        rcases reason with reason | ⟨part, reason⟩
        · have hnot := reason.not_command
          rw [hid'] at hnot
          cases hnot
        · cases reason with
          | initial => cases hid'
          | @command latest command r hlatest stored unapplied first version applies allowed =>
              obtain ⟨hmem, ht, hw⟩ := mem_commandsOf stored
              obtain ⟨hcauses, hcause⟩ := applies.causes x.env
              refine ⟨command, ?_, ht, hw, CheckpointCause.command.inj (hcause.symm.trans hid'), ?_, hcauses⟩
              · exact h.grows.commands.subset hmem
              · show (nextCheckpoint x.env a _ _).payload.workflowVersion = _
                rw [hlatest, ← version]
                rfl

/-! ## What is outstanding when a workflow is cancelled -/

/-- A ticket intent is new, or its workflow has just been received. -/
theorem Effect.new_intent (h : Effect x s part s') {i : SideEffectIntent} (hi : i ∈ s'.ticket.intents) :
    i ∈ s.ticket.intents ∨ s'.journal = s.journal ∧ ∃ a ∈ s.journal.activations, ∃ c,
      s.latestCheckpoint? a.tenantId a.workflowId = some c ∧ c.payload.currentState = .received ∧
      i.tenantId = a.tenantId ∧ i.workflowId = a.workflowId := by
  by_cases hpart : part = .ticket
  · cases h with
    | ticket step =>
        cases step with
        | @intent a c operation mem _ latest state =>
            rcases List.mem_append.mp hi with hi | hi
            · exact Or.inl hi
            · rw [List.mem_singleton.mp hi]
              exact Or.inr ⟨rfl, a, mem, c, latest, state, rfl, rfl⟩
        | _ => exact Or.inl hi
    | prepare step => exact absurd hpart step.not_part.2.2.1
    | _ => exact absurd hpart nofun
  · rw [h.ticket_eq hpart] at hi
    exact Or.inl hi

/-- **An effect is begun only in RECEIVED and in DELIVERING.** -/
theorem Effect.new_effect (h : Effect x s part s') (hj : JournalInv s) (ha : a ∈ s.journal.activations)
    {e : EffectId} (he : e ∈ s'.effectIds a) :
    e ∈ s.effectIds a ∨ ∃ c, s'.latestCheckpoint? a.tenantId a.workflowId = some c ∧
      (c.payload.currentState = .received ∨ c.payload.currentState = .delivering) := by
  have hlatest_eq : s'.journal = s.journal → s'.latestCheckpoint? a.tenantId a.workflowId =
      s.latestCheckpoint? a.tenantId a.workflowId := by
    intro hjournal
    unfold WorkflowStore.latestCheckpoint? WorkflowStore.checkpointsOf
    rw [hjournal]
  rw [mem_effectIds] at he ⊢
  rcases he with ⟨i, hi, rfl⟩ | ⟨i, hi, rfl⟩
  · obtain ⟨himem, hkey⟩ := List.mem_filter.mp hi
    rcases h.new_intent himem with hold | ⟨hjournal, b, hb, c, hlatest, hstate, ht, hw⟩
    · exact Or.inl (Or.inl ⟨i, List.mem_filter.mpr ⟨hold, hkey⟩, rfl⟩)
    · rw [decide_eq_true_eq] at hkey
      obtain rfl : b = a := hj.activation_unique hb ha (ht.symm.trans hkey.1) (hw.symm.trans hkey.2)
      exact Or.inr ⟨c, (hlatest_eq hjournal).trans hlatest, Or.inl hstate⟩
  · obtain ⟨himem, hkey⟩ := List.mem_filter.mp hi
    rcases h.new_delivery himem with hold | ⟨hjournal, b, hb, c, hlatest, hstate, ht, hw⟩
    · exact Or.inl (Or.inr ⟨i, List.mem_filter.mpr ⟨hold, hkey⟩, rfl⟩)
    · rw [decide_eq_true_eq] at hkey
      obtain rfl : b = a := hj.activation_unique hb ha (ht.symm.trans hkey.1) (hw.symm.trans hkey.2)
      exact Or.inr ⟨c, (hlatest_eq hjournal).trans hlatest, Or.inr hstate⟩

/-- A cancelled workflow waits for no effect, and has completed all it has begun. -/
def CancelledInv (s : WorkflowStore) : Prop :=
  ∀ a ∈ s.journal.activations, ∀ c, s.latestCheckpoint? a.tenantId a.workflowId = some c →
    c.payload.currentState = .cancelled →
    c.payload.pendingIntentIds = ∅ ∧ s.effectIds a ⊆ s.completedIds a

/-- A transition to CANCELLED is a CANCEL of a workflow with nothing outstanding. -/
theorem Applies.cancelled {c : CheckpointPayload} {command : WorkflowCommand} {r : TransitionRequest}
    (h : Applies s a c command r) (allowed : r.allowedFrom c = true) (hr : r.nextState = .cancelled) :
    (r.checkpoint c).pendingIntentIds = ∅ ∧ s.allPendingIds a.tenantId a.workflowId = ∅ := by
  cases h with
  | pause => cases hr
  | resume =>
      have hresume : c.resumeState = .cancelled := hr
      unfold TransitionRequest.allowedFrom resumeRequest at allowed
      rw [hresume] at allowed
      simp [transitionAllowed, allowedTargets, resumeTarget] at allowed
  | cancel type resolved =>
      refine ⟨?_, resolved⟩
      by_contra hne
      have hpending : c.pendingIntentIds ≠ ∅ := hne
      unfold TransitionRequest.allowedFrom cancelRequest at allowed
      simp [transitionAllowed, allowedTargets, hpending] at allowed
  | absorb => cases hr

theorem Advance.not_cancelled {c : Checkpoint} {r : TransitionRequest} (h : Advance x s a c r)
    (hshape : Shaped c.payload.currentState c.payload.resumeState) : r.nextState ≠ .cancelled := by
  intro hr
  cases h with
  | reconciled _ _ _ _ _ state =>
      rw [state] at hshape
      have hmem : c.payload.resumeState ∈ reconcilable := hshape
      have hresume : c.payload.resumeState = .cancelled := hr
      rw [hresume] at hmem
      exact absurd hmem (by decide)
  | deliveryReconciled _ _ resume => exact absurd (resume.symm.trans hr) nofun
  | _ => cases hr

/-- A workflow with a checkpoint has been activated before. -/
theorem Effect.activation_mem (h : Effect x s part s') (hj : JournalInv s) (ha : a ∈ s'.journal.activations)
    {c : Checkpoint} (hc : c ∈ s.journal.checkpoints) (ht : c.payload.tenantId = a.tenantId)
    (hw : c.payload.workflowId = a.workflowId) : a ∈ s.journal.activations := by
  obtain ⟨b, hb, hbt, hbw⟩ := hj.owned c hc
  obtain rfl : b = a := (h.journalInv hj).activation_unique (h.grows.activations.subset hb) ha
    (hbt.symm.trans ht) (hbw.symm.trans hw)
  exact hb

/-- **Every transaction keeps it.** -/
theorem Effect.cancelledInv (h : Effect x s part s') (hj : JournalInv s) (hr : RowsInv s)
    (hs : CancelledInv s) : CancelledInv s' := by
  intro a ha c hlatest hstate
  have hmem : a ∈ s.journal.activations := by
    obtain ⟨hcmem, ht, hw⟩ := WorkflowStore.latestCheckpoint?_mem hlatest
    cases h.appends with
    | nothing activations => exact activations ▸ ha
    | activation fresh activations checkpoints => exact h.activation_mem hj ha (checkpoints ▸ hcmem) ht hw
    | checkpoint ok reason eq =>
        rw [eq] at ha
        exact ha
  -- no effect is begun in CANCELLED
  have hstays : s.effectIds a ⊆ s.completedIds a → s'.effectIds a ⊆ s'.completedIds a := by
    intro hsubset e he
    rcases h.new_effect hj hmem he with hold | ⟨d, hd, hbegins⟩
    · exact h.completedIds_subset (hsubset hold)
    · obtain rfl := Option.some.inj (hlatest.symm.trans hd)
      rw [hstate] at hbegins
      exact hbegins.elim nofun nofun
  rcases h.latest_cases hj hmem with hsame | ⟨r, hreason, hnew⟩
  · obtain ⟨hpending, hsubset⟩ := hs a hmem c (hsame.symm.trans hlatest) hstate
    exact ⟨hpending, hstays hsubset⟩
  · obtain rfl := Option.some.inj (hnew.symm.trans hlatest)
    have hcancelled : r.currentState = .cancelled := hstate
    have hdone : r.pendingIntentIds = ∅ ∧ s.allPendingIds a.tenantId a.workflowId = ∅ := by
      rcases hreason with hreason | ⟨part, hreason⟩
      · cases hreason with
        | ticketProgress => cases hcancelled
        | deliveryProgress => cases hcancelled
        | advance latest advance =>
            exact absurd hcancelled (advance.not_cancelled (hj.latest_shaped hmem latest))
      · cases hreason with
        | initial => cases hcancelled
        | command _ _ _ _ _ applies allowed => exact applies.cancelled allowed hcancelled
    refine ⟨hdone.1, hstays fun e he => ?_⟩
    rwa [mem_effectIds_iff hr.ticket, hdone.2, Finset.empty_union, mem_allCompletedIds hr.ticket] at he

end WeFlow
