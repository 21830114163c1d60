import WeFlow.Kernel.Frame

/-!
# `Chain` — the checkpoints of one workflow

A workflow's checkpoints grow at their end only: `Chain a cs` says that each is what `nextCheckpoint`
makes of the one before it, for a request that continues it (`Link`). Every other fact about the
sequence (its numbers, versions, identities, and what follows what) is read off this.

## Contents

* `Shaped`, `Link`, `Chain` — what may follow what.
* `transitionAllowed_ne` — a transition changes the state.
* `Chain.sequences`, `Chain.versions`, `Chain.fields`, … — what a chain looks like.
* `Applies.continues`, `Advance.shaped`, … — every transition of the kernel continues the chain.
-/

namespace WeFlow

open WorkflowState

/-! ## What may follow what -/

/-- The states a reconciliation can be entered from. -/
def reconcilable : Finset WorkflowState :=
  {received, ticketReady, investigating, awaitingApproval, delivering, waitingForOperator}

/-- A checkpoint's resume state: PAUSED and NEEDS_RECONCILIATION record where they came from, every
    other state is its own. -/
def Shaped (currentState resumeState : WorkflowState) : Prop :=
  match currentState with
  | .paused => resumeState ∈ insert responseReady reconcilable
  | .needsReconciliation => resumeState ∈ reconcilable
  | state => resumeState = state

/-- A request continues a checkpoint: it stays in the state, or takes one transition. -/
inductive Continues (c : CheckpointPayload) (r : CheckpointRequest) : Prop
  | progress (kind : r.transitionKind = none) (state : r.currentState = c.currentState)
  | transition {kind : TransitionKind} (kind_eq : r.transitionKind = some kind)
      (moves : r.currentState ≠ c.currentState)
      (allowed : transitionAllowed c.currentState kind r.currentState (some r.resumeState)
        (c.pendingIntentIds ≠ ∅) = true)

/-- A request continues a workflow's checkpoints, of which `previous` is the latest. -/
structure Link (a : WorkflowActivation) (previous : Option Checkpoint) (r : CheckpointRequest) :
    Prop where
  first : previous = none → r = initialRequest a
  next : ∀ c, previous = some c → Continues c.payload r
  shape : Shaped r.currentState r.resumeState

/-- **The checkpoints of a workflow.** -/
inductive Chain (a : WorkflowActivation) : List Checkpoint → Prop
  | nil : Chain a []
  | snoc {cs : List Checkpoint} {env : Env} {r : CheckpointRequest} (chain : Chain a cs)
      (link : Link a cs.getLast? r)
      (valid : validateWorkflowCheckpoint
        (nextCheckpoint env a (cs.getLast?.map (·.payload)) r).payload = true)
      (disjoint : r.pendingIntentIds ∩ r.completedIntentIds = ∅) :
      Chain a (cs ++ [nextCheckpoint env a (cs.getLast?.map (·.payload)) r])

/-- The last checkpoint of a chain continues the rest of it. -/
theorem Chain.init {a : WorkflowActivation} {cs : List Checkpoint} {d : Checkpoint}
    (h : Chain a (cs ++ [d])) :
    Chain a cs ∧ ∃ env r, Link a cs.getLast? r ∧
      d = nextCheckpoint env a (cs.getLast?.map (·.payload)) r := by
  generalize hl : cs ++ [d] = l at h
  cases h with
  | nil => exact absurd hl (by simp)
  | @snoc cs' env r chain link =>
      obtain ⟨rfl, hd⟩ := List.append_inj' hl rfl
      exact ⟨chain, env, r, link, List.singleton_inj.mp hd⟩

/-! ## Transitions -/

/-- **A transition changes the state**, except that an expired SLA or a reconciliation may be entered
    from themselves. -/
theorem transitionAllowed_ne {state next : WorkflowState} {kind : TransitionKind}
    {resume : Option WorkflowState} {unresolved : Bool}
    (h : transitionAllowed state kind next resume unresolved = true)
    (hsla : kind = .slaExpired → state ≠ .waitingForOperator)
    (hrec : kind = .reconciliationRequired → state ≠ .needsReconciliation) : next ≠ state := by
  rintro rfl
  cases kind <;> cases next <;> cases unresolved <;>
    simp [transitionAllowed, allowedTargets, terminalStates] at h hsla hrec

/-- Where a reconciliation can be entered from. -/
theorem reconcilable_of_allowed {state next : WorkflowState} {resume : Option WorkflowState}
    {unresolved : Bool}
    (h : transitionAllowed state .reconciliationRequired next resume unresolved = true)
    (hp : state ≠ .paused) (hn : state ≠ .needsReconciliation) : state ∈ reconcilable := by
  cases state <;> simp_all [transitionAllowed, allowedTargets, terminalStates, reconcilable]

/-- Where a workflow can be paused. -/
theorem pausable_of_allowed {state next : WorkflowState} {resume : Option WorkflowState}
    {unresolved : Bool} (h : transitionAllowed state .pause next resume unresolved = true) :
    state ∈ insert responseReady reconcilable := by
  cases state <;> simp_all [transitionAllowed, allowedTargets, reconcilable]

/-- A state that is resumed is its own resume state. -/
theorem shaped_resumed {state : WorkflowState} (h : state ∈ insert responseReady reconcilable) :
    Shaped state state := by
  cases state <;> simp_all [Shaped, reconcilable]

/-! ## Reading a chain -/

namespace Chain

variable {a : WorkflowActivation} {cs : List Checkpoint}

/-- The latest checkpoint's number and version are the length of the chain. -/
theorem last (h : Chain a cs) {c : Checkpoint} (hc : cs.getLast? = some c) :
    c.payload.checkpointSequence = cs.length ∧ c.payload.workflowVersion + 1 = cs.length := by
  induction h generalizing c with
  | nil => simp at hc
  | @snoc cs env r chain _ _ _ ih =>
      rw [List.getLast?_concat, Option.some.injEq] at hc
      subst hc
      cases hlast : cs.getLast? with
      | none =>
          have hnil : cs = [] := List.getLast?_eq_none_iff.mp hlast
          simp [nextCheckpoint, Checkpoint.payload, hnil]
      | some previous =>
          obtain ⟨hseq, hversion⟩ := ih hlast
          simp [nextCheckpoint, Checkpoint.payload] at hseq hversion ⊢
          omega

theorem sequences (h : Chain a cs) :
    cs.map (·.payload.checkpointSequence) = List.range' 1 cs.length := by
  induction h with
  | nil => rfl
  | snoc chain link valid disjoint ih =>
      have hlast := (chain.snoc link valid disjoint).last List.getLast?_concat
      rw [List.map_append, ih, List.length_append, List.length_singleton, List.range'_concat,
        List.map_singleton, hlast.1]
      simp [Nat.add_comm]

theorem versions (h : Chain a cs) : cs.map (·.payload.workflowVersion) = List.range cs.length := by
  induction h with
  | nil => rfl
  | snoc chain link valid disjoint ih =>
      have hlast := (chain.snoc link valid disjoint).last List.getLast?_concat
      rw [List.length_append, List.length_singleton] at hlast
      have hversion := Nat.succ.inj hlast.2
      rw [List.map_append, ih, List.length_append, List.length_singleton, List.range_succ,
        List.map_singleton, hversion]

/-- A chain is sorted, so an ordered query returns it as it is. -/
theorem insertionSort_eq (h : Chain a cs) :
    cs.insertionSort (fun c d => c.payload.checkpointSequence ≤ d.payload.checkpointSequence) = cs := by
  refine List.Pairwise.insertionSort_eq ?_
  have hsorted : (cs.map (·.payload.checkpointSequence)).Pairwise (· ≤ ·) := by
    rw [h.sequences]
    exact List.pairwise_le_range'
  exact List.pairwise_map.mp hsorted

/-- The fields every checkpoint takes from the activation or from its own number. -/
theorem fields (h : Chain a cs) : ∀ c ∈ cs, c.payload.identity = a.identity ∧
    c.payload.correlationId = a.correlationId ∧ c.payload.slaDeadlineAt = a.slaDeadlineAt ∧
    c.record.intact = true ∧
    c.payload.checkpointId = stableIdentifier ⟨a.workflowId, c.payload.checkpointSequence⟩ := by
  induction h with
  | nil => simp
  | snoc _ _ _ _ ih =>
      intro c hc
      rcases List.mem_append.mp hc with hc | hc
      · exact ih c hc
      · rw [List.mem_singleton.mp hc]
        exact ⟨rfl, rfl, rfl, Sealed.intact_of _, rfl⟩

/-- The conditions each checkpoint was appended under. -/
theorem appended (h : Chain a cs) : ∀ c ∈ cs, validateWorkflowCheckpoint c.payload = true ∧
    c.payload.pendingIntentIds ∩ c.payload.completedIntentIds = ∅ ∧
    Shaped c.payload.currentState c.payload.resumeState := by
  induction h with
  | nil => simp
  | snoc _ link valid disjoint ih =>
      intro c hc
      rcases List.mem_append.mp hc with hc | hc
      · exact ih c hc
      · rw [List.mem_singleton.mp hc]
        exact ⟨valid, disjoint, link.shape⟩

end Chain

/-! ## The requests of the kernel -/

/-- A transition continues the checkpoint it was checked against. -/
theorem TransitionRequest.continues {c : CheckpointPayload} {r : TransitionRequest}
    (allowed : r.allowedFrom c = true)
    (hsla : r.transitionKind = .slaExpired → c.currentState ≠ .waitingForOperator)
    (hrec : r.transitionKind = .reconciliationRequired → c.currentState ≠ .needsReconciliation) :
    Continues c (r.checkpoint c) :=
  .transition rfl (transitionAllowed_ne allowed hsla hrec) allowed

theorem Applies.continues {s : WorkflowStore} {a : WorkflowActivation} {c : CheckpointPayload}
    {command : WorkflowCommand} {r : TransitionRequest} (h : Applies s a c command r)
    (allowed : r.allowedFrom c = true) : Continues c (r.checkpoint c) := by
  refine r.continues allowed ?_ ?_
  · intro hkind
    cases h <;> exact absurd hkind nofun
  · intro hkind
    cases h with
    | absorb _ _ elsewhere => exact elsewhere
    | _ => exact absurd hkind nofun

theorem Advance.continues {x : Context} {s : WorkflowStore} {a : WorkflowActivation} {c : Checkpoint}
    {r : TransitionRequest} (h : Advance x s a c r)
    (allowed : r.allowedFrom c.payload = true) :
    Continues c.payload (r.checkpoint c.payload) := by
  refine r.continues allowed ?_ ?_
  · intro hkind
    cases h with
    | slaExpired _ active => exact active
    | _ => exact absurd hkind nofun
  · intro hkind
    cases h with
    | reconcile _ state => rcases state with h | h <;> simp [h]
    | _ => exact absurd hkind nofun

/-- A command leaves a resume state that its state may record. -/
theorem Applies.shaped {s : WorkflowStore} {a : WorkflowActivation} {c : CheckpointPayload}
    {command : WorkflowCommand} {r : TransitionRequest} (h : Applies s a c command r)
    (hc : Shaped c.currentState c.resumeState) (hvalid : r.resumeState ≠ .paused)
    (allowed : r.allowedFrom c = true) : Shaped r.nextState r.resumeState := by
  cases h with
  | pause => exact pausable_of_allowed allowed
  | resume =>
      have hpaused : c.currentState = .paused := by
        by_contra hne
        simp [resumeRequest, TransitionRequest.allowedFrom, transitionAllowed, allowedTargets, hne] at allowed
      rw [hpaused] at hc
      exact shaped_resumed hc
  | cancel => rfl
  | absorb _ _ elsewhere => exact reconcilable_of_allowed allowed hvalid elsewhere

theorem Advance.shaped {x : Context} {s : WorkflowStore} {a : WorkflowActivation} {c : Checkpoint}
    {r : TransitionRequest} (h : Advance x s a c r)
    (hc : Shaped c.payload.currentState c.payload.resumeState) :
    Shaped r.nextState r.resumeState := by
  cases h with
  | reconcile _ state =>
      rcases state with h | h <;>
        simp [WorkflowStore.recordsEffects, reconciliationRequired, Shaped, h, reconcilable]
  | reconciled _ _ _ _ _ state =>
      rw [state] at hc
      exact shaped_resumed (Finset.mem_insert_of_mem hc)
  | deliveryReconciled _ _ resume =>
      simp [WorkflowStore.recordsEffects, reconciliationComplete, resume, Shaped]
  | _ => rfl

end WeFlow
