import WeFlow.Kernel.Step

/-!
# `Frame` — what a transaction leaves alone

Frame facts of `Effect`, part by part, and the queries of the journal after a checkpoint is appended.

## Contents

* `rebuildWorkflowProjection_eq_ok` — a rebuild writes the read model and nothing else.
* `Effect.…_eq` — the tables outside a transaction's part are unchanged.
* `checkpointsOf_withCheckpoint`, `latestCheckpoint?_withCheckpoint`, `checkpointsOf_other`.
* `Effect.grows` — checkpoints, ticket intents and completions are only ever appended.
-/

namespace WeFlow

open Txn

/-! ## The rebuild -/

namespace WorkflowStore

/-- Every row of the list is the projection of an activation at its latest checkpoint. -/
def Projects (s : WorkflowStore) (rows : List WorkflowProjection) : Prop :=
  ∀ p ∈ rows, ∃ a ∈ s.journal.activations, ∃ c,
    s.latestCheckpoint? a.tenantId a.workflowId = some c ∧ p = projectionOf a c.payload

theorem rebuildActivation_projects {s : WorkflowStore} {rows rows' : List WorkflowProjection}
    {a : WorkflowActivation} (ha : a ∈ s.journal.activations) (hrows : s.Projects rows)
    (h : s.rebuildActivation rows a = .ok rows') : s.Projects rows' := by
  simp only [rebuildActivation, bind_eq_ok] at h
  obtain ⟨_, _, _, _, _, _, h⟩ := h
  cases hlast : (s.checkpointsOf a.tenantId a.workflowId).getLast? with
  | none =>
      simp only [hlast, pure, Except.pure, Except.ok.injEq] at h
      exact h ▸ hrows
  | some latest =>
      simp only [hlast, require_bind_eq_ok, fetch_eq_ok, Table.insert?_eq_some] at h
      obtain ⟨_, _, rfl⟩ := h
      intro p hp
      rcases List.mem_append.mp hp with hp | hp
      · exact hrows p hp
      · exact ⟨a, ha, latest, hlast, List.mem_singleton.mp hp⟩

/-- **A rebuild** writes the read model, and writes it from the latest checkpoints. -/
theorem rebuildWorkflowProjection_eq_ok {s s' : WorkflowStore}
    (h : s.rebuildWorkflowProjection = .ok s') :
    ∃ rows, s.Projects rows ∧ s' = { s with workflowProjection := rows } := by
  rw [rebuildWorkflowProjection, bind_eq_ok] at h
  obtain ⟨rows, hrows, h⟩ := h
  have hfold : ∀ (as : List WorkflowActivation) (acc acc' : List WorkflowProjection),
      (∀ a ∈ as, a ∈ s.journal.activations) → s.Projects acc →
      as.foldlM s.rebuildActivation acc = .ok acc' → s.Projects acc' := by
    intro as
    induction as with
    | nil =>
        intro acc acc' _ hacc hok
        simp only [List.foldlM_nil, pure, Except.pure, Except.ok.injEq] at hok
        exact hok ▸ hacc
    | cons a as ih =>
        intro acc acc' hmem hacc hok
        rw [List.foldlM_cons, bind_eq_ok] at hok
        obtain ⟨mid, hmid, hrest⟩ := hok
        have hmid' := rebuildActivation_projects (hmem a (by simp)) hacc hmid
        exact ih mid acc' (fun b hb => hmem b (by simp [hb])) hmid' hrest
  have hproj : s.Projects rows :=
    hfold _ _ _ (fun a ha => ha) (fun p hp => by simp at hp) hrows
  exact ⟨rows, hproj, (Except.ok.inj h).symm⟩

end WorkflowStore

/-! ## Frames -/

variable {x : Context} {s s' : WorkflowStore} {part : Part}

theorem PrepareStep.frame (h : PrepareStep x s part s') :
    s'.policy = s.policy ∧ s'.delivery = s.delivery ∧ s'.ticket = s.ticket ∧
    s'.investigation = s.investigation ∧ s'.journal.activations = s.journal.activations ∧
    s'.journal.commands = s.journal.commands ∧ s'.journal.slaEvents = s.journal.slaEvents := by
  cases h with
  | rebuildWorkflow rebuilt =>
      obtain ⟨rows, _, rfl⟩ := WorkflowStore.rebuildWorkflowProjection_eq_ok rebuilt
      exact ⟨rfl, rfl, rfl, rfl, rfl, rfl, rfl⟩
  | rebuildCase => exact ⟨rfl, rfl, rfl, rfl, rfl, rfl, rfl⟩
  | caseEvent => exact ⟨rfl, rfl, rfl, rfl, rfl, rfl, rfl⟩
  | checkpoint => exact ⟨rfl, rfl, rfl, rfl, rfl, rfl, rfl⟩

theorem PrepareStep.not_part (h : PrepareStep x s part s') :
    part ≠ .policy ∧ part ≠ .delivery ∧ part ≠ .ticket ∧ part ≠ .investigation ∧
    part ≠ .activation ∧ part ≠ .submission ∧ part ≠ .sla ∧ part ≠ .ledger ∧
    part ≠ .checkpoint := by
  cases h with
  | checkpoint reason => cases reason <;> simp
  | _ => simp

theorem Effect.policy_eq (h : Effect x s part s') (hp : part ≠ .policy) : s'.policy = s.policy := by
  cases h with
  | prepare step => exact step.frame.1
  | policy => exact absurd rfl hp
  | _ => rfl

theorem Effect.delivery_eq (h : Effect x s part s') (hp : part ≠ .delivery) :
    s'.delivery = s.delivery := by
  cases h with
  | prepare step => exact step.frame.2.1
  | delivery => exact absurd rfl hp
  | _ => rfl

theorem Effect.ticket_eq (h : Effect x s part s') (hp : part ≠ .ticket) : s'.ticket = s.ticket := by
  cases h with
  | prepare step => exact step.frame.2.2.1
  | ticket => exact absurd rfl hp
  | _ => rfl

theorem Effect.investigation_eq (h : Effect x s part s') (hp : part ≠ .investigation) :
    s'.investigation = s.investigation := by
  cases h with
  | prepare step => exact step.frame.2.2.2.1
  | investigation => exact absurd rfl hp
  | _ => rfl

theorem Effect.activations_eq (h : Effect x s part s') (hp : part ≠ .activation) :
    s'.journal.activations = s.journal.activations := by
  cases h with
  | prepare step => exact step.frame.2.2.2.2.1
  | activate => exact absurd rfl hp
  | _ => rfl

theorem Effect.commands_eq (h : Effect x s part s') (hp : part ≠ .submission) :
    s'.journal.commands = s.journal.commands := by
  cases h with
  | prepare step => exact step.frame.2.2.2.2.2.1
  | submission => exact absurd rfl hp
  | _ => rfl

/-! ## The journal after a checkpoint -/

namespace WorkflowStore

/-- The checkpoints of a workflow, in insertion order. -/
def checkpointRows (s : WorkflowStore) (tenantId : String) (workflowId : WorkflowId) :
    List Checkpoint :=
  s.journal.checkpoints.filter fun c =>
    c.payload.tenantId = tenantId ∧ c.payload.workflowId = workflowId

theorem mem_checkpointsOf {s : WorkflowStore} {t : String} {w : WorkflowId} {c : Checkpoint} :
    c ∈ s.checkpointsOf t w ↔
      c ∈ s.journal.checkpoints ∧ c.payload.tenantId = t ∧ c.payload.workflowId = w := by
  simp [checkpointsOf]

theorem latestCheckpoint?_mem {s : WorkflowStore} {t : String} {w : WorkflowId} {c : Checkpoint}
    (h : s.latestCheckpoint? t w = some c) :
    c ∈ s.journal.checkpoints ∧ c.payload.tenantId = t ∧ c.payload.workflowId = w :=
  mem_checkpointsOf.mp (List.mem_of_getLast? h)

theorem latestCheckpoint?_eq_none {s : WorkflowStore} {t : String} {w : WorkflowId} :
    s.latestCheckpoint? t w = none ↔ s.checkpointRows t w = [] := by
  rw [latestCheckpoint?, List.getLast?_eq_none_iff, checkpointsOf, ← List.length_eq_zero_iff,
    List.length_insertionSort, List.length_eq_zero_iff]
  rfl

instance :
    Std.Total fun a b : Checkpoint => a.payload.checkpointSequence ≤ b.payload.checkpointSequence :=
  ⟨fun _ _ => Nat.le_total _ _⟩

instance : IsTrans Checkpoint
    (fun a b : Checkpoint => a.payload.checkpointSequence ≤ b.payload.checkpointSequence) :=
  ⟨fun _ _ _ => Nat.le_trans⟩

/-- The latest checkpoint has the highest sequence number. -/
theorem sequence_le_latest {s : WorkflowStore} {t : String} {w : WorkflowId} {c latest : Checkpoint}
    (h : s.latestCheckpoint? t w = some latest) (hc : c ∈ s.checkpointRows t w) :
    c.payload.checkpointSequence ≤ latest.payload.checkpointSequence :=
  Table.le_getLast?_insertionSort
    (fun a b : Checkpoint => a.payload.checkpointSequence ≤ b.payload.checkpointSequence) h hc

section WithCheckpoint

variable {s : WorkflowStore} {env : Env} {a : WorkflowActivation} {r : CheckpointRequest}

@[simp] theorem checkpointFor_tenantId :
    (s.checkpointFor env a r).payload.tenantId = a.tenantId := rfl

@[simp] theorem checkpointFor_workflowId :
    (s.checkpointFor env a r).payload.workflowId = a.workflowId := rfl

@[simp] theorem checkpointFor_currentState :
    (s.checkpointFor env a r).payload.currentState = r.currentState := rfl

@[simp] theorem checkpointFor_resumeState :
    (s.checkpointFor env a r).payload.resumeState = r.resumeState := rfl

@[simp] theorem checkpointFor_transitionKind :
    (s.checkpointFor env a r).transitionKind = r.transitionKind := rfl

theorem sequence_lt_checkpointFor {c : Checkpoint}
    (hc : c ∈ s.checkpointRows a.tenantId a.workflowId) :
    c.payload.checkpointSequence < (s.checkpointFor env a r).payload.checkpointSequence := by
  cases hlatest : s.latestCheckpoint? a.tenantId a.workflowId with
  | none => simp [latestCheckpoint?_eq_none.mp hlatest] at hc
  | some latest =>
      have hle := sequence_le_latest hlatest hc
      have hnew : (s.checkpointFor env a r).payload.checkpointSequence =
          latest.payload.checkpointSequence + 1 := by
        simp [checkpointFor, nextCheckpoint, hlatest, Checkpoint.payload]
      omega

theorem checkpointRows_withCheckpoint :
    (s.withCheckpoint env a r).checkpointRows a.tenantId a.workflowId =
      s.checkpointRows a.tenantId a.workflowId ++ [s.checkpointFor env a r] := by
  simp [checkpointRows, withCheckpoint]

theorem checkpointRows_other {t : String} {w : WorkflowId}
    (h : ¬ (a.tenantId = t ∧ a.workflowId = w)) :
    (s.withCheckpoint env a r).checkpointRows t w = s.checkpointRows t w := by
  refine Table.filter_append_other fun c hc => ?_
  rw [List.mem_singleton.mp hc]
  exact decide_eq_false h

/-- **A new checkpoint** comes after all others of its workflow. -/
theorem checkpointsOf_withCheckpoint :
    (s.withCheckpoint env a r).checkpointsOf a.tenantId a.workflowId =
      s.checkpointsOf a.tenantId a.workflowId ++ [s.checkpointFor env a r] := by
  have hrows : (s.withCheckpoint env a r).checkpointRows a.tenantId a.workflowId =
      s.checkpointRows a.tenantId a.workflowId ++ [s.checkpointFor env a r] :=
    checkpointRows_withCheckpoint
  show List.insertionSort _ (checkpointRows _ a.tenantId a.workflowId) = _
  rw [hrows, Table.insertionSort_append_last]
  · rfl
  · intro c hc
    exact (sequence_lt_checkpointFor hc).le

theorem latestCheckpoint?_withCheckpoint :
    (s.withCheckpoint env a r).latestCheckpoint? a.tenantId a.workflowId =
      some (s.checkpointFor env a r) := by
  rw [latestCheckpoint?, checkpointsOf_withCheckpoint, List.getLast?_concat]

theorem checkpointsOf_other {t : String} {w : WorkflowId}
    (h : ¬ (a.tenantId = t ∧ a.workflowId = w)) :
    (s.withCheckpoint env a r).checkpointsOf t w = s.checkpointsOf t w := by
  have hrows : (s.withCheckpoint env a r).checkpointRows t w = s.checkpointRows t w :=
    checkpointRows_other h
  show List.insertionSort _ (checkpointRows _ t w) = _
  rw [hrows]
  rfl

end WithCheckpoint

end WorkflowStore

/-! ## Growth -/

/-- The rows that later transactions rely on are still there. -/
structure Grows (s s' : WorkflowStore) : Prop where
  activations : s.journal.activations <+: s'.journal.activations
  checkpoints : s.journal.checkpoints <+: s'.journal.checkpoints
  commands : s.journal.commands <+: s'.journal.commands
  intents : s.ticket.intents <+: s'.ticket.intents
  completions : s.ticket.completions <+: s'.ticket.completions

theorem Grows.refl (s : WorkflowStore) : Grows s s :=
  ⟨List.prefix_rfl, List.prefix_rfl, List.prefix_rfl, List.prefix_rfl, List.prefix_rfl⟩

theorem Grows.trans {s₁ s₂ s₃ : WorkflowStore} (h : Grows s₁ s₂) (h' : Grows s₂ s₃) : Grows s₁ s₃ :=
  ⟨h.activations.trans h'.activations, h.checkpoints.trans h'.checkpoints,
    h.commands.trans h'.commands, h.intents.trans h'.intents, h.completions.trans h'.completions⟩

theorem PrepareStep.grows (h : PrepareStep x s part s') : Grows s s' := by
  obtain ⟨_, _, hticket, _, hactivations, hcommands, _⟩ := h.frame
  refine ⟨hactivations ▸ List.prefix_rfl, ?_, hcommands ▸ List.prefix_rfl,
    hticket ▸ List.prefix_rfl, hticket ▸ List.prefix_rfl⟩
  cases h with
  | rebuildWorkflow rebuilt =>
      obtain ⟨rows, _, rfl⟩ := WorkflowStore.rebuildWorkflowProjection_eq_ok rebuilt
      exact List.prefix_rfl
  | rebuildCase => exact List.prefix_rfl
  | caseEvent => exact List.prefix_rfl
  | checkpoint => exact List.prefix_append _ _

theorem TicketStep.grows {t : TicketTables} (h : TicketStep x s t) :
    s.ticket.intents <+: t.intents ∧ s.ticket.completions <+: t.completions := by
  cases h with
  | intent => exact ⟨List.prefix_append _ _, List.prefix_rfl⟩
  | complete => exact ⟨List.prefix_rfl, List.prefix_append _ _⟩
  | execute => exact ⟨List.prefix_rfl, List.prefix_rfl⟩
  | observe => exact ⟨List.prefix_rfl, List.prefix_rfl⟩

/-- **Rows are only ever appended.** -/
theorem Effect.grows (h : Effect x s part s') : Grows s s' := by
  cases h with
  | prepare step => exact step.grows
  | activate => exact { Grows.refl s with activations := List.prefix_append _ _ }
  | checkpoint => exact { Grows.refl s with checkpoints := List.prefix_append _ _ }
  | submission => exact { Grows.refl s with commands := List.prefix_append _ _ }
  | ticket step => exact { Grows.refl s with intents := step.grows.1, completions := step.grows.2 }
  | intake => exact { Grows.refl s with }
  | slaEvent => exact { Grows.refl s with }
  | investigation => exact { Grows.refl s with }
  | policy => exact { Grows.refl s with }
  | delivery => exact { Grows.refl s with }

theorem WorkflowStore.Completed.mono {a : WorkflowActivation} {operation : TicketOperation}
    (h : s.Completed a operation) (hg : Grows s s') : s'.Completed a operation := by
  obtain ⟨i, hi, ht, hw, hop, d, hd, hdt, hdi⟩ := h
  exact ⟨i, hg.intents.subset hi, ht, hw, hop, d, hg.completions.subset hd, hdt, hdi⟩

theorem Settled.mono {a : WorkflowActivation} (h : Settled x s a) (hg : Grows s s')
    (hc : s'.journal.commands = s.journal.commands) : Settled x s' a := by
  obtain ⟨s₁, hprepared, hcommands, hcheckpoints⟩ := h
  exact ⟨s₁, hprepared, hc.trans hcommands, hcheckpoints.trans hg.checkpoints⟩

end WeFlow
