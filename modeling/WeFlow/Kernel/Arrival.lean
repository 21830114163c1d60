import WeFlow.Kernel.Sla

/-!
# `Arrival` — where a recovery continues

A recovery prepares its workflow first and continues from the checkpoint that it finds then. Nothing but a
waiting command changes the workflow's latest checkpoint on the way, so that checkpoint is a function of the
store the recovery starts from.

## Contents

* `Standing` — what a checkpoint says of its workflow; `arrival` — where a recovery will find it.
* `PreparedAt.arrival` — it does find it there.
-/

namespace WeFlow

variable {x : Context} {s s' : WorkflowStore} {a : WorkflowActivation} {c : Checkpoint} {part : Part}

/-- What a checkpoint says of its workflow: the state, where it resumes, and the effects. -/
structure Standing where
  currentState : WorkflowState
  resumeState : WorkflowState
  pendingIntentIds : Finset EffectId
  completedIntentIds : Finset EffectId
  deriving DecidableEq

def CheckpointPayload.standing (c : CheckpointPayload) : Standing :=
  ⟨c.currentState, c.resumeState, c.pendingIntentIds, c.completedIntentIds⟩

def CheckpointRequest.standing (r : CheckpointRequest) : Standing :=
  ⟨r.currentState, r.resumeState, r.pendingIntentIds, r.completedIntentIds⟩

@[simp] theorem standing_checkpointFor {env : Env} {r : CheckpointRequest} :
    (s.checkpointFor env a r).payload.standing = r.standing := rfl

namespace WorkflowStore

/-- **Where a recovery finds its workflow** when it has prepared it: where it is, or where the first of the
    waiting commands leads; nowhere if that command is refused. -/
def arrival (s : WorkflowStore) (a : WorkflowActivation) : Option Standing :=
  match s.latestCheckpoint? a.tenantId a.workflowId with
  | none => some (initialRequest a).standing
  | some c =>
      match (s.pendingCommands a).head? with
      | none => some c.payload.standing
      | some command =>
          if command.commandType = .cancel ∧ c.payload.currentState = .needsReconciliation then
            some c.payload.standing
          else
            let r := s.commandRequest a c.payload command
            if c.payload.workflowVersion = command.expectedWorkflowVersion ∧
                r.allowedFrom c.payload = true then
              some (r.checkpoint c.payload).standing
            else none

end WorkflowStore

/-- A recovery is a call of `recover_workflow`. -/
theorem Call.eq_recoverWorkflow {call : Call} (h : call.recovers = true) :
    ∃ t w, call = .recoverWorkflow t w := by
  cases call with
  | recoverWorkflow t w => exact ⟨t, w, rfl⟩
  | _ => exact absurd h Bool.false_ne_true

theorem mem_commandsOf {t : String} {w : WorkflowId} {command : WorkflowCommand}
    (h : command ∈ s.commandsOf t w) :
    command ∈ s.journal.commands ∧ command.tenantId = t ∧ command.workflowId = w := by
  have hmem := List.mem_filter.mp ((List.mem_insertionSort _).mp h)
  exact ⟨hmem.1, of_decide_eq_true hmem.2⟩

/-- A stored command was accepted at a version that its workflow has reached. -/
theorem JournalInv.command_version (hs : JournalInv s) (ha : a ∈ s.journal.activations)
    {command : WorkflowCommand} (h : command ∈ s.commandsOf a.tenantId a.workflowId) :
    command.expectedWorkflowVersion < (s.checkpointRows a.tenantId a.workflowId).length := by
  obtain ⟨hmem, ht, hw⟩ := mem_commandsOf h
  obtain ⟨b, hb, hbt, hbw, hok⟩ := hs.command command hmem
  obtain rfl : b = a := hs.activation_unique hb ha (hbt.symm.trans ht) (hbw.symm.trans hw)
  exact hok.version

/-- **A workflow without checkpoints** has its first one at most when it is prepared. -/
theorem Reached.begins (h : Reached x s) (hs : JournalInv x.start) {t : String} {w : WorkflowId}
    (hcall : x.call = .recoverWorkflow t w) (ha : a ∈ x.start.journal.activations)
    (habout : x.call.about a = true)
    (hnone : x.start.checkpointRows a.tenantId a.workflowId = []) :
    s.checkpointRows a.tenantId a.workflowId = [] ∨
    s.checkpointRows a.tenantId a.workflowId = [x.start.checkpointFor x.env a (initialRequest a)] := by
  induction h with
  | refl => exact Or.inl hnone
  | @tail s₁ s₂ hreach hlast ih =>
      obtain ⟨part, hstep⟩ := hlast
      have hinv : JournalInv s₁ := Reached.journalInv hreach hs
      have hframe := Reached.frame hreach
      have ha₁ : a ∈ s₁.journal.activations := hframe.2.2.2.2.1 ▸ ha
      cases hstep with
      | rebuildCase => exact ih
      | rebuildWorkflow rebuilt =>
          obtain ⟨rows, -, rfl⟩ := WorkflowStore.rebuildWorkflowProjection_eq_ok rebuilt
          exact ih
      | caseEvent => exact ih
      | @checkpoint _ b r reason ok =>
          obtain rfl : b = a := eq_of_about hinv hcall ha₁ ok.mem habout ok.about
          cases reason with
          | initial hfirst =>
              have hnil := WorkflowStore.latestCheckpoint?_eq_none.mp hfirst
              have hnew : s₁.checkpointFor x.env b (initialRequest b) =
                  x.start.checkpointFor x.env b (initialRequest b) := by
                unfold WorkflowStore.checkpointFor
                rw [hfirst, WorkflowStore.latestCheckpoint?_eq_none.mpr hnone]
              right
              rw [WorkflowStore.checkpointRows_withCheckpoint, hnil, hnew, List.nil_append]
          | @command _ command _ _ stored =>
              -- a command is stored only at a version that its workflow has reached
              have hstored : command ∈ x.start.commandsOf b.tenantId b.workflowId := by
                unfold WorkflowStore.commandsOf
                rw [← hframe.2.2.2.2.2]
                exact stored
              have hversion := hs.command_version ha hstored
              rw [hnone] at hversion
              exact absurd hversion (Nat.not_lt_zero _)

/-- **A recovery finds its workflow where it was due to arrive.** -/
theorem PreparedAt.arrival {s₁ : WorkflowStore} {c₁ : Checkpoint} {t : String} {w : WorkflowId}
    (h : PreparedAt x a s₁) (hs : JournalInv x.start) (hcall : x.call = .recoverWorkflow t w)
    (ha : a ∈ x.start.journal.activations) (habout : x.call.about a = true)
    (hlatest : s₁.latestCheckpoint? a.tenantId a.workflowId = some c₁) :
    x.start.arrival a = some c₁.payload.standing := by
  have hreached : Reached x s₁ := h.reached
  have hinv : JournalInv s₁ := hreached.journalInv hs
  have ha₁ : a ∈ s₁.journal.activations := hreached.frame.2.2.2.2.1 ▸ ha
  unfold WorkflowStore.arrival
  cases hreached.arrives hs hcall ha habout with
  | begins rows =>
      rw [WorkflowStore.latestCheckpoint?_eq_none.mpr rows]
      rcases hreached.begins hs hcall ha habout rows with hnil | hone
      · rw [hinv.latest_eq ha₁, hnil] at hlatest
        exact absurd hlatest nofun
      · rw [hinv.latest_eq ha₁, hone, List.getLast?_singleton, Option.some.injEq] at hlatest
        rw [← hlatest]
        rfl
  | stays rows =>
      have hstart : x.start.latestCheckpoint? a.tenantId a.workflowId = some c₁ := by
        rw [hs.latest_eq ha, ← rows, ← hinv.latest_eq ha₁]
        exact hlatest
      rw [hstart]
      cases hhead : (x.start.pendingCommands a).head? with
      | none => rfl
      | some command =>
          -- a command that still waits is a CANCEL that met a reconciliation
          have hpending : command ∈ s₁.pendingCommands a := by
            rw [hreached.sameEffects.pendingCommands rows]
            exact List.mem_of_head? hhead
          obtain ⟨htype, latest, hl, hstate⟩ := h.done command hpending
          rw [hlatest, Option.some.injEq] at hl
          subst hl
          dsimp only
          rw [if_pos ⟨htype, hstate⟩]
  | @applies c command r latest first version applies allowed rows =>
      have hc₁ : x.start.checkpointFor x.env a (r.checkpoint c.payload) = c₁ := by
        rw [hinv.latest_eq ha₁, rows, List.getLast?_concat, Option.some.injEq] at hlatest
        exact hlatest
      have hcounts : ¬(command.commandType = .cancel ∧ c.payload.currentState = .needsReconciliation) :=
        fun h => applies.not_reconciling allowed h.2
      rw [latest, first]
      dsimp only
      rw [if_neg hcounts, ← applies.eq_commandRequest, if_pos ⟨version, allowed⟩, ← hc₁]
      rfl

end WeFlow
