import WeFlow.Kernel.Invariant

/-!
# `Safety.Journal` — checkpoints and the Case ledger

The programs of the kernel take no transactions but those of `Effect`. This module shows it for the
programs every other one is built from, with what they have established when they return: `Bound x s a`
says that a call works on an activation, `At x s a c` that `c` is its latest checkpoint.

## Contents

* `KSafe` — safety of a kernel program; `WorkflowError.ofRecord` — the errors an earlier record can cause.
* `Bound`, `At`, `Ready` — what holds between two parts of a program.
* `safe_rebuildWorkflow`, `safe_getWorkflowProjection` — the read model.
* `safe_ensureCheckpoint`, `safe_syncCaseState`, `safe_transition`.
-/

namespace WeFlow

open Txn Prog

/-- The errors that an earlier record can end a recovery with: a stored command's version has passed, its
    transition is refused, the checkpoint it asks for is malformed, or the SLA expired at another
    checkpoint. -/
def WorkflowError.ofRecord : WorkflowError → Bool
  | .workflowCommandRecoveryConflict | .workflowTransitionNotAllowed | .workflowCheckpointInvalid
  | .workflowSlaConflict => true
  | _ => false

/-- Safety of a kernel program: it takes only transactions of the given parts, returns with `Q` and
    raises with `E`. -/
abbrev KSafe {α : Type} (x : Context) (parts : Part → Bool) (E : WorkflowError → WorkflowStore → Prop)
    (Q : α → WorkflowStore → Prop) (p : Kernel α) (s : WorkflowStore) : Prop :=
  Safe (Effects x parts) Q E p s

/-- `E` allows every error but those of earlier records. -/
def Permits (E : WorkflowError → WorkflowStore → Prop) : Prop :=
  ∀ e s, e.ofRecord = false → E e s

variable {α : Type} {x : Context} {parts : Part → Bool} {E : WorkflowError → WorkflowStore → Prop}
  {s : WorkflowStore} {a : WorkflowActivation} {c : Checkpoint}

theorem safe_txn {Q : α → WorkflowStore → Prop}
    {txn : WorkflowStore → Except WorkflowError (α × WorkflowStore)} (hE : Permits E)
    (hraises : Raises (fun e => e.ofRecord = false) (txn s))
    (hok : ∀ b s', txn s = .ok (b, s') → (s' = s ∨ Effects x parts s s') ∧ Q b s') :
    KSafe x parts E Q (atomically txn) s :=
  safe_atomically.mpr ⟨fun e he => hE e s (hraises e he), hok⟩

theorem safe_observeM {Q : α → WorkflowStore → Prop} {query : WorkflowStore → Except WorkflowError α}
    (hE : Permits E) (hraises : Raises (fun e => e.ofRecord = false) (query s))
    (hok : ∀ b, query s = .ok b → Q b s) : KSafe x parts E Q (observeM query) s := by
  refine safe_txn hE (raises_bind.mpr ⟨hraises, fun _ _ => raises_pure.mpr trivial⟩) fun b s' h => ?_
  obtain ⟨b', hb', h⟩ := bind_eq_ok.mp h
  obtain ⟨rfl, rfl⟩ := Prod.mk.injEq .. ▸ Except.ok.inj h
  exact ⟨Or.inl rfl, hok _ hb'⟩

/-! ## Between two parts of a program -/

/-- The workflow a call is about. Its Case is behind no transition, if it was behind none when the call
    began or the call is a recovery. -/
structure Bound (x : Context) (s : WorkflowStore) (a : WorkflowActivation) : Prop where
  mem : a ∈ s.journal.activations
  about : x.call.about a = true
  tenant : nonEmpty a.tenantId = true
  correlation : nonEmpty a.correlationId = true
  synced : x.call.recovers = true ∨ x.start.CaseSynced a → s.CaseSynced a

/-- …and `c` is its latest checkpoint. -/
structure At (x : Context) (s : WorkflowStore) (a : WorkflowActivation) (c : Checkpoint) : Prop
    extends Bound x s a where
  latest : s.latestCheckpoint? a.tenantId a.workflowId = some c

/-- …and a recovery has prepared it. -/
structure Ready (x : Context) (s : WorkflowStore) (a : WorkflowActivation) (c : Checkpoint) : Prop
    extends At x s a c where
  settled : x.call.recovers = true → Settled x s a

/-- What a program that only advances a workflow leaves alone. -/
structure Advanced (s s' : WorkflowStore) : Prop where
  grows : Grows s s'
  activations : s'.journal.activations = s.journal.activations
  commands : s'.journal.commands = s.journal.commands
  slaEvents : s'.journal.slaEvents = s.journal.slaEvents
  ticket : s'.ticket = s.ticket
  investigation : s'.investigation = s.investigation
  policy : s'.policy = s.policy
  delivery : s'.delivery = s.delivery

theorem Advanced.refl (s : WorkflowStore) : Advanced s s :=
  ⟨Grows.refl s, rfl, rfl, rfl, rfl, rfl, rfl, rfl⟩

theorem Advanced.trans {s₁ s₂ s₃ : WorkflowStore} (h : Advanced s₁ s₂) (h' : Advanced s₂ s₃) :
    Advanced s₁ s₃ :=
  ⟨h.grows.trans h'.grows, h'.activations.trans h.activations, h'.commands.trans h.commands,
    h'.slaEvents.trans h.slaEvents, h'.ticket.trans h.ticket, h'.investigation.trans h.investigation,
    h'.policy.trans h.policy, h'.delivery.trans h.delivery⟩

theorem advanced_withCheckpoint {env : Env} {r : CheckpointRequest} :
    Advanced s (s.withCheckpoint env a r) :=
  ⟨{ Grows.refl s with checkpoints := List.prefix_append _ _ }, rfl, rfl, rfl, rfl, rfl, rfl, rfl⟩

theorem advanced_ledger {ledger : LedgerStore} : Advanced s { s with ledger } :=
  ⟨{ Grows.refl s with }, rfl, rfl, rfl, rfl, rfl, rfl, rfl⟩

theorem Ready.advanced {s' : WorkflowStore} {c' : Checkpoint} (h : Ready x s a c) (hat : At x s' a c')
    (hadv : Advanced s s') : Ready x s' a c' :=
  { hat with settled := fun hr => (h.settled hr).mono hadv.grows hadv.commands }

/-! ## The read model -/

theorem raises_rebuildActivation {rows : List WorkflowProjection} :
    Raises (fun e => e.ofRecord = false) (s.rebuildActivation rows a) := by
  have hticket : Raises (fun e => e.ofRecord = false) (s.validateTicketSource a.tenantId) := by
    simp [WorkflowStore.validateTicketSource, WorkflowError.ofRecord]
  have hone : ∀ {β : Type} (l : List β),
      Raises (fun e => e.ofRecord = false) (WorkflowStore.atMostOne l) := by
    intro β l
    unfold WorkflowStore.atMostOne
    split <;> simp [WorkflowError.ofRecord]
  have hsource : Raises (fun e => e.ofRecord = false)
      (s.validateWorkflowSource a (s.checkpointsOf a.tenantId a.workflowId)) := by
    unfold WorkflowStore.validateWorkflowSource
    simp only [raises_bind, raises_require]
    refine ⟨fun _ => rfl, fun _ _ => ⟨fun _ => rfl, fun _ _ => ⟨fun _ => rfl, fun _ _ => ?_⟩⟩⟩
    split
    · simp [WorkflowError.ofRecord]
    · simp only [raises_bind, raises_require, WorkflowError.ofRecord, implies_true, true_and]
      intros
      exact hticket
  have hinvestigation : Raises (fun e => e.ofRecord = false)
      (s.validateInvestigationSource a (s.checkpointsOf a.tenantId a.workflowId)) := by
    unfold WorkflowStore.validateInvestigationSource
    split <;> simp [WorkflowError.ofRecord]
  have hpolicy : Raises (fun e => e.ofRecord = false)
      (s.validateChange4Source a (s.checkpointsOf a.tenantId a.workflowId)) := by
    unfold WorkflowStore.validateChange4Source
    have hreason : WorkflowError.policyJournalInvalid.ofRecord = false := rfl
    dsimp only
    split <;> simp [WorkflowStore.validateFixtureDeliverySource, hone, hreason]
  unfold WorkflowStore.rebuildActivation
  simp only [raises_bind]
  refine ⟨hsource, fun _ _ => ⟨hinvestigation, fun _ _ => ⟨hpolicy, fun _ _ => ?_⟩⟩⟩
  split <;> simp [WorkflowError.ofRecord]

theorem safe_rebuildWorkflow {Q : Unit → WorkflowStore → Prop} (hE : Permits E)
    (hparts : parts .readModel = true)
    (hQ : ∀ rows, s.Projects rows → Q () { s with workflowProjection := rows }) :
    KSafe x parts E Q rebuildWorkflowProjection s := by
  refine safe_txn hE ?_ fun b s' h => ?_
  · simp only [raises_bind, WorkflowStore.rebuildWorkflowProjection]
    exact ⟨⟨raises_foldlM fun _ _ _ => raises_rebuildActivation, by simp⟩, by simp⟩
  · obtain ⟨s₁, hs₁, h⟩ := bind_eq_ok.mp h
    obtain ⟨rfl, rfl⟩ := Prod.mk.injEq .. ▸ Except.ok.inj h
    refine ⟨Or.inr ⟨_, hparts, .prepare (.rebuildWorkflow hs₁)⟩, ?_⟩
    obtain ⟨rows, hrows, rfl⟩ := WorkflowStore.rebuildWorkflowProjection_eq_ok hs₁
    exact hQ rows hrows

/-- The projection that is returned has the state of the latest checkpoint. -/
theorem safe_getWorkflowProjection {t : String} {w : WorkflowId}
    {Q : Option WorkflowProjection → WorkflowStore → Prop} (hE : Permits E)
    (hparts : parts .readModel = true)
    (hQ : ∀ rows row, (∀ p, row = some p → ∃ c, s.latestCheckpoint? t w = some c ∧
      p.state = c.payload.currentState) → Q row { s with workflowProjection := rows }) :
    KSafe x parts E Q (getWorkflowProjection t w) s := by
  unfold getWorkflowProjection
  simp only [safe_bind, safe_observe, safe_check, safe_pure]
  refine safe_rebuildWorkflow hE hparts fun rows hrows => ⟨fun _ => hQ rows _ ?_, fun _ => hE _ _ rfl⟩
  intro p hp
  have hkey := List.find?_some hp
  obtain ⟨b, _, c, hc, rfl⟩ := hrows p (List.mem_of_find?_eq_some hp)
  obtain ⟨ht, hw⟩ := of_decide_eq_true hkey
  exact ⟨c, ht ▸ hw ▸ hc, rfl⟩

theorem safe_requireWorkflowProjection {t : String} {w : WorkflowId}
    {Q : WorkflowProjection → WorkflowStore → Prop} (hE : Permits E) (hparts : parts .readModel = true)
    (hQ : ∀ rows p, Q p { s with workflowProjection := rows }) :
    KSafe x parts E Q (requireWorkflowProjection t w) s := by
  unfold requireWorkflowProjection
  simp only [safe_bind, safe_need]
  exact safe_getWorkflowProjection hE hparts fun rows row _ =>
    ⟨fun p _ => hQ rows p, fun _ => hE _ _ rfl⟩

/-! ## Checkpoints -/

/-- The checkpoint that a request makes is well formed, unless it records PAUSED to resume into. -/
theorem valid_checkpointFor {env : Env} {r : CheckpointRequest} (ht : nonEmpty a.tenantId = true)
    (hc : nonEmpty a.correlationId = true) (hr : r.resumeState ≠ .paused) :
    validateWorkflowCheckpoint (s.checkpointFor env a r).payload = true := by
  have hseq : 1 ≤ (s.checkpointFor env a r).payload.checkpointSequence := by
    cases hlatest : s.latestCheckpoint? a.tenantId a.workflowId <;>
      simp [WorkflowStore.checkpointFor, nextCheckpoint, hlatest, Checkpoint.payload]
  simp only [validateWorkflowCheckpoint, decide_eq_true_eq]
  exact ⟨ht, hseq, hr, hc⟩

/-- The new checkpoint's sequence number is never taken, so it is inserted or the insertion fails. -/
theorem insertCheckpoint_eq_ok {env : Env} {r : CheckpointRequest} {b : Bool} {s' : WorkflowStore}
    (h : insertCheckpoint (s.checkpointFor env a r) s = .ok (b, s')) :
    b = true ∧ s' = s.withCheckpoint env a r ∧
      (∀ y ∈ s.journal.checkpoints, (s.checkpointFor env a r).clash y = false) ∧
      ∀ y ∈ s.journal.runs, (s.runFor env a r).clash y = false := by
  have hfree : (s.journal.checkpoints.any fun y =>
      y.payload.tenantId = (s.checkpointFor env a r).payload.tenantId ∧
      y.payload.workflowId = (s.checkpointFor env a r).payload.workflowId ∧
      y.payload.checkpointSequence =
        (s.checkpointFor env a r).payload.checkpointSequence) = false := by
    refine List.any_eq_false.mpr fun y hy hkey => ?_
    simp only [decide_eq_true_eq] at hkey
    have hrow : y ∈ s.checkpointRows a.tenantId a.workflowId :=
      List.mem_filter.mpr ⟨hy, decide_eq_true ⟨hkey.1, hkey.2.1⟩⟩
    have hlt : y.payload.checkpointSequence < (s.checkpointFor env a r).payload.checkpointSequence :=
      WorkflowStore.sequence_lt_checkpointFor hrow
    omega
  unfold insertCheckpoint at h
  rw [if_neg (by rw [hfree]; exact Bool.false_ne_true)] at h
  simp only [fetch_bind_eq_ok, Table.insert?_eq_some, pure, Except.pure, Except.ok.injEq,
    Prod.mk.injEq] at h
  obtain ⟨_, ⟨hcheckpoint, rfl⟩, _, ⟨hrun, rfl⟩, rfl, rfl⟩ := h
  exact ⟨rfl, rfl, hcheckpoint, hrun⟩

theorem raises_insertCheckpoint {c : Checkpoint} :
    Raises (fun e => e.ofRecord = false) (insertCheckpoint c s) := by
  unfold insertCheckpoint
  dsimp only
  split <;> simp [WorkflowError.ofRecord]

theorem safe_appendCheckpoint {r : CheckpointRequest} {Q : Checkpoint → WorkflowStore → Prop}
    (hE : Permits E) (hbound : Bound x s a)
    (hdisjoint : r.pendingIntentIds ∩ r.completedIntentIds = ∅)
    (hvalid : validateWorkflowCheckpoint (s.checkpointFor x.env a r).payload = true ∨
      E .workflowCheckpointInvalid s)
    (hstep : CheckpointOk x s a r → Effects x parts s (s.withCheckpoint x.env a r))
    (hnew : Q (s.checkpointFor x.env a r) (s.withCheckpoint x.env a r)) :
    KSafe x parts E Q (appendCheckpoint (s.checkpointFor x.env a r)) s := by
  unfold appendCheckpoint
  simp only [safe_bind, safe_check]
  refine ⟨fun hok => ?_, fun hbad => hvalid.resolve_left (by simp [hbad])⟩
  refine safe_txn hE raises_insertCheckpoint fun b s' h => ?_
  obtain ⟨rfl, rfl, hfresh, hrun⟩ := insertCheckpoint_eq_ok h
  exact ⟨Or.inr (hstep ⟨hbound.mem, hbound.about, hok, hdisjoint, hfresh, hrun, hbound.synced⟩), hnew⟩

/-- **`_ensure_checkpoint`** finds its request in the latest checkpoint, or appends it. -/
theorem safe_ensureCheckpoint {r : CheckpointRequest} {Q : Checkpoint → WorkflowStore → Prop}
    (hE : Permits E) (hbound : Bound x s a)
    (hvalid : validateWorkflowCheckpoint (s.checkpointFor x.env a r).payload = true ∨
      E .workflowCheckpointInvalid s)
    (hstep : CheckpointOk x s a r → Effects x parts s (s.withCheckpoint x.env a r))
    (hsame : ∀ c, s.latestCheckpoint? a.tenantId a.workflowId = some c → c.same r = true → Q c s)
    (hnew : Q (s.checkpointFor x.env a r) (s.withCheckpoint x.env a r)) :
    KSafe x parts E Q (ensureCheckpoint x.env a r) s := by
  unfold ensureCheckpoint
  simp only [safe_bind, safe_observe, safe_check]
  refine ⟨fun hdisjoint => ?_, fun _ => hE _ _ rfl⟩
  rw [decide_eq_true_eq] at hdisjoint
  have happend := safe_appendCheckpoint hE hbound hdisjoint hvalid hstep hnew
  cases hlatest : s.latestCheckpoint? a.tenantId a.workflowId with
  | none =>
      simp only [safe_bind, safe_check]
      refine ⟨fun _ => ?_, fun _ => hE _ _ rfl⟩
      simpa [WorkflowStore.checkpointFor, hlatest] using happend
  | some p =>
      by_cases hp : p.same r = true
      · simp only [hp, if_true, safe_pure]
        exact hsame p hlatest hp
      · simp only [hp]
        simpa [WorkflowStore.checkpointFor, hlatest] using happend

/-! ## The Case -/

theorem raises_appendCaseEvent {e : WorkflowStateEvent} :
    Raises (fun e => e.ofRecord = false) (appendCaseEvent e s) := by
  unfold appendCaseEvent
  split <;> simp [WorkflowError.ofRecord]

/-- **`_sync_case_state`** leaves the Case behind no transition. -/
theorem safe_syncCaseState {Q : Unit → WorkflowStore → Prop} (hE : Permits E)
    (hparts : parts .caseEvent = true) (hmem : a ∈ s.journal.activations)
    (habout : x.call.about a = true)
    (hlatest : s.latestCheckpoint? a.tenantId a.workflowId = some c)
    (hQ : ∀ ledger, WorkflowStore.CaseSynced { s with ledger } a → Q () { s with ledger }) :
    KSafe x parts E Q (syncCaseState a c) s := by
  unfold syncCaseState
  cases hkind : c.transitionKind with
  | none =>
      refine hQ s.ledger fun y hy hsome => ?_
      rw [show s.latestCheckpoint? a.tenantId a.workflowId = some y from hy,
        Option.some.injEq] at hlatest
      simp [hlatest, hkind] at hsome
  | some kind =>
      simp only [safe_bind, safe_check, safe_observe, safe_need]
      refine ⟨fun _ => ⟨fun previous hprevious => ?_, fun _ => hE _ _ rfl⟩, fun _ => hE _ _ rfl⟩
      refine safe_observeM hE ?_ fun row hrow => ⟨fun p hp => ?_, fun _ => hE _ _ rfl⟩
      · simp [LedgerStore.getCaseProjection, WorkflowError.ofRecord]
      · simp only [LedgerStore.getCaseProjection, require_bind_eq_ok, pure, Except.pure,
          Except.ok.injEq] at hrow
        obtain ⟨_, hrow⟩ := hrow
        rw [hp] at hrow
        by_cases hstate : p.state = c.payload.currentState
        · rw [if_pos hstate]
          refine hQ s.ledger fun y hy _ => Or.inl ⟨p, hrow, ?_⟩
          rw [show s.latestCheckpoint? a.tenantId a.workflowId = some y from hy,
            Option.some.injEq] at hlatest
          rw [hstate, hlatest]
        · rw [if_neg hstate]
          refine safe_txn hE raises_appendCaseEvent fun _ s' h => ?_
          -- the event is recorded afterwards, whether the port had it before or appends it
          unfold appendCaseEvent at h
          cases hcall : s.ledger.appendWorkflowStateEvent
              (caseEventOf a previous.payload c.payload kind) with
          | error reason => simp [hcall] at h
          | ok result =>
              obtain ⟨i, ledger⟩ := result
              simp only [hcall, Except.ok.injEq, Prod.mk.injEq, true_and] at h
              subst h
              have hrecorded : ledger.Recorded a.tenantId a.caseId a.workflowId
                  c.payload.checkpointId ∧
                  ({ s with ledger } = s ∨ Effects x parts s { s with ledger }) := by
                rcases LedgerStore.appendWorkflowStateEvent_cases hcall with ⟨rfl, hrec⟩ | happ
                · exact ⟨hrec, Or.inl rfl⟩
                · refine ⟨?_, Or.inr ⟨.caseEvent, hparts, .prepare ?_⟩⟩
                  · have hrows := happ.eventRows (t := a.tenantId) (i := a.caseId)
                    rw [if_pos ⟨rfl, rfl⟩] at hrows
                    exact ⟨_, hrows ▸ List.mem_append_right _ (List.mem_singleton_self _), rfl, rfl⟩
                  · exact .caseEvent hmem habout hlatest hkind hprevious ⟨p, hrow, hstate⟩ happ
              refine ⟨hrecorded.2, hQ ledger fun y hy _ => Or.inr ?_⟩
              rw [show s.latestCheckpoint? a.tenantId a.workflowId = some y from hy,
                Option.some.injEq] at hlatest
              exact hlatest ▸ hrecorded.1

/-! ## Transitions -/

theorem at_withCheckpoint {env : Env} {r : CheckpointRequest} {ledger : LedgerStore}
    (h : At x s a c) (hsynced : WorkflowStore.CaseSynced { s.withCheckpoint env a r with ledger } a) :
    At x { s.withCheckpoint env a r with ledger } a (s.checkpointFor env a r) where
  mem := h.mem
  about := h.about
  tenant := h.tenant
  correlation := h.correlation
  latest := WorkflowStore.latestCheckpoint?_withCheckpoint
  synced := fun _ => hsynced

/-- **`_transition`** from the latest checkpoint, by a request that moves the workflow. -/
theorem safe_transition {r : TransitionRequest} {Q : Checkpoint → WorkflowStore → Prop}
    (hE : Permits E) (hparts : parts .caseEvent = true) (hat : At x s a c)
    (hallowed : r.allowedFrom c.payload = true ∨ E .workflowTransitionNotAllowed s)
    (hvalid : r.resumeState ≠ .paused ∨ E .workflowCheckpointInvalid s)
    (hmoves : r.allowedFrom c.payload = true → Continues c.payload (r.checkpoint c.payload))
    (hstep : r.allowedFrom c.payload = true → CheckpointOk x s a (r.checkpoint c.payload) →
      Effects x parts s (s.withCheckpoint x.env a (r.checkpoint c.payload)))
    (hQ : ∀ ledger,
      WorkflowStore.CaseSynced
        { s.withCheckpoint x.env a (r.checkpoint c.payload) with ledger } a →
      Q (s.checkpointFor x.env a (r.checkpoint c.payload))
        { s.withCheckpoint x.env a (r.checkpoint c.payload) with ledger }) :
    KSafe x parts E Q (transition x.env a c r) s := by
  unfold transition
  simp only [safe_bind, safe_check]
  refine ⟨fun hok => ?_, fun hbad => hallowed.resolve_left (by simp [hbad])⟩
  refine safe_ensureCheckpoint hE hat.toBound ?_ (hstep hok) ?_ ?_
  · exact hvalid.imp (valid_checkpointFor hat.tenant hat.correlation) id
  · -- a transition changes the state, so the latest checkpoint is never the one asked for
    intro y hy hsame
    rw [hat.latest, Option.some.injEq] at hy
    subst hy
    simp only [Checkpoint.same, decide_eq_true_eq] at hsame
    cases hmoves hok with
    | progress kind => exact absurd kind (Option.some_ne_none _)
    | transition _ moves => exact absurd hsame.1.symm moves
  · exact safe_syncCaseState hE hparts hat.mem hat.about
      WorkflowStore.latestCheckpoint?_withCheckpoint fun ledger hsynced => hQ ledger hsynced

end WeFlow
