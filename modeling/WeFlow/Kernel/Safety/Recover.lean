import WeFlow.Kernel.Safety.Approval
import WeFlow.Kernel.Safety.Command
import WeFlow.Kernel.Safety.Ticket

/-!
# `Safety.Recover` — recovery, and every call

A recovery prepares its workflow and then continues from the state it finds. `safe_programOf` is the
result of all these modules: whatever is called, each transaction it commits is one of `Effect`, in a
part the call may write; a recovery that returns leaves its workflow synchronised with its Case and its
commands done, and if it raises an error of an earlier record, it has met what `Refused` lists, or
`SlaBehind`.
-/

namespace WeFlow

open Txn Prog

variable {x : Context} {s s' : WorkflowStore} {a : WorkflowActivation} {c : Checkpoint}

/-- The errors of a recovery. -/
def recoveryError (x : Context) (e : WorkflowError) (s : WorkflowStore) : Prop :=
  e.ofRecord = false ∨ (e ≠ .workflowSlaConflict ∧ Refused x s) ∨ (e = .workflowSlaConflict ∧ SlaBehind x s)

theorem permits_recoveryError : Permits (recoveryError x) := fun _ _ h => Or.inl h

theorem refused_recoveryError (e : WorkflowError) (s : WorkflowStore) (hsla : e ≠ .workflowSlaConflict)
    (h : Refused x s) : recoveryError x e s := Or.inr (Or.inl ⟨hsla, h⟩)

/-! ## Preparation -/

/-- A store that preparation steps lead to. -/
def Reached (x : Context) (s : WorkflowStore) : Prop :=
  Relation.ReflTransGen (fun s s' => ∃ part, PrepareStep x s part s') x.start s

theorem prepareStep_of_effects (h : Effects x Part.prepares s s') :
    ∃ part, PrepareStep x s part s' := by
  obtain ⟨part, hpart, heffect⟩ := h
  cases heffect with
  | prepare step => exact ⟨part, step⟩
  | _ => exact absurd hpart Bool.false_ne_true

/-- A part of a recovery that only prepares. -/
theorem safe_prepare {α : Type} {E : WorkflowError → WorkflowStore → Prop}
    {Q : α → WorkflowStore → Prop} {p : Kernel α} (h : KSafe x Part.prepares E Q p s)
    (hs : Reached x s) :
    KSafe x x.call.writes E (fun b s' => Q b s' ∧ Reached x s') p s := by
  refine (h.keeps (fun s s' hstep hs => ?_) hs).mono ?_ (fun _ _ => id) fun _ _ h => h.1
  · exact hs.tail (prepareStep_of_effects hstep)
  · intro s s' hstep
    exact hstep.mono fun _ => Call.writes_of_prepares

/-- What preparation leaves alone. -/
theorem Reached.frame (h : Reached x s) : s.policy = x.start.policy ∧
    s.delivery = x.start.delivery ∧ s.ticket = x.start.ticket ∧
    s.investigation = x.start.investigation ∧
    s.journal.activations = x.start.journal.activations ∧
    s.journal.commands = x.start.journal.commands := by
  induction h with
  | refl => exact ⟨rfl, rfl, rfl, rfl, rfl, rfl⟩
  | tail _ hlast ih =>
      obtain ⟨part, hstep⟩ := hlast
      obtain ⟨hp, hd, ht, hi, ha, hc, _⟩ := hstep.frame
      obtain ⟨hp', hd', ht', hi', ha', hc'⟩ := ih
      exact ⟨hp.trans hp', hd.trans hd', ht.trans ht', hi.trans hi', ha.trans ha', hc.trans hc'⟩

theorem Reached.journalInv (h : Reached x s) (hs : JournalInv x.start) : JournalInv s := by
  induction h with
  | refl => exact hs
  | tail _ hlast ih => exact hlast.choose_spec.journalInv ih

/-- The first checkpoint of an activation. -/
theorem safe_ensureInitialCheckpoint {parts : Part → Bool}
    {E : WorkflowError → WorkflowStore → Prop} {Q : Checkpoint → WorkflowStore → Prop}
    (hE : Permits E) (hinitial : parts .initial = true) (hbound : Bound x s a)
    (hnone : s.latestCheckpoint? a.tenantId a.workflowId = none)
    (hQ : ∀ c' s', At x s' a c' → Q c' s') :
    KSafe x parts E Q (ensureCheckpoint x.env a (initialRequest a)) s := by
  refine safe_ensureCheckpoint hE hbound ?_ ?_ ?_ ?_
  · exact Or.inl (valid_checkpointFor hbound.tenant hbound.correlation nofun)
  · intro hcheck
    exact ⟨.initial, hinitial, .prepare (.checkpoint (.initial hnone) hcheck)⟩
  · intro y hy
    rw [hnone] at hy
    exact absurd hy nofun
  · have hsynced : (s.withCheckpoint x.env a (initialRequest a)).CaseSynced a := by
      intro y hy hsome
      rw [WorkflowStore.latestCheckpoint?_withCheckpoint, Option.some.injEq] at hy
      rw [← hy, WorkflowStore.checkpointFor_transitionKind] at hsome
      exact absurd hsome nofun
    refine hQ _ _ ⟨⟨hbound.mem, hbound.about, hbound.tenant, hbound.correlation,
      fun _ => hsynced⟩, WorkflowStore.latestCheckpoint?_withCheckpoint⟩

/-! ## The way on -/

/-- What a recovery may rely on when it continues from a checkpoint. -/
structure Continuing (x : Context) (s : WorkflowStore) (a : WorkflowActivation) (c : Checkpoint) :
    Prop extends Ready x s a c where
  recovers : x.call.recovers = true
  tables : s.policy.decisions = x.start.policy.decisions ∧
    s.policy.grantEvents = x.start.policy.grantEvents
  entered : EnteredAt x a c.payload.currentState

theorem advances_of_recovers (h : x.call.recovers = true) :
    x.call.advances = [.checkpoint, .sla, .ticket, .policy, .delivery] := by
  cases hcall : x.call with
  | recoverWorkflow t w => rfl
  | _ => simp [hcall, Call.recovers] at h

theorem safe_recordSlaExpiry {E : WorkflowError → WorkflowStore → Prop}
    {Q : Unit → WorkflowStore → Prop} (hE : Permits E) (hw : Part.sla ∈ x.call.advances)
    (hready : Ready x s a c)
    (hconflict : ∀ row, s.slaEvent? a.tenantId a.workflowId = some row →
      ¬ (row.checkpointId = c.payload.checkpointId ∧ row.deadlineAt = a.slaDeadlineAt) →
      E .workflowSlaConflict s)
    (hQ : ∀ slaEvents, Q () { s with journal := { s.journal with slaEvents } }) :
    KSafe x x.call.writes E Q (recordSlaExpiry x.env a c) s := by
  refine safe_atomically.mpr ⟨fun e he => ?_, fun _ s' h => ?_⟩
  · split at he
    · next row hrow =>
        by_cases hsame : row.checkpointId = c.payload.checkpointId ∧ row.deadlineAt = a.slaDeadlineAt
        · rw [require, decide_eq_true hsame] at he
          cases he
        · rw [require, decide_eq_false hsame] at he
          cases he
          exact hconflict row hrow hsame
    · cases hinsert : Table.insert? SlaEvent.clash (newSlaEvent x.env a c) s.journal.slaEvents with
      | none =>
          rw [hinsert] at he
          cases he
          exact hE _ _ rfl
      | some slaEvents =>
          rw [hinsert] at he
          cases he
  · split at h
    · simp only [require_bind_eq_ok, pure, Except.pure, Except.ok.injEq, Prod.mk.injEq,
        true_and] at h
      obtain ⟨_, rfl⟩ := h
      exact ⟨Or.inl rfl, hQ s.journal.slaEvents⟩
    · simp only [fetch_bind_eq_ok, Table.insert?_eq_some, pure, Except.pure, Except.ok.injEq,
        Prod.mk.injEq, true_and] at h
      obtain ⟨_, ⟨hfresh, rfl⟩, rfl⟩ := h
      refine ⟨Or.inr ⟨.sla, writes_of_advances hw, ?_⟩, hQ _⟩
      exact .slaEvent hready.mem hready.about hready.latest hfresh

/-- An SLA that expires. -/
theorem safe_expireSla (hcont : Continuing x s a c) (hat : ContinuesAt x s a c)
    (hdue : a.slaDeadlineAt ≤ x.env.now) (hunresolved : s.handoffComplete a.tenantId a.workflowId = false)
    (hwaiting : c.payload.currentState ≠ .waitingForOperator)
    (hrec : c.payload.currentState ≠ .needsReconciliation)
    (hcancelled : c.payload.currentState ≠ .cancelled) :
    KSafe x x.call.writes (recoveryError x) (fun _ s' => Ended x a s') (expireSla x.env a c) s := by
  have hadvances := advances_of_recovers hcont.recovers
  unfold expireSla
  refine safe_bind.mpr (safe_recordSlaExpiry permits_recoveryError (by simp [hadvances])
    hcont.toReady (fun row hrow hdiffers => ?_) fun slaEvents => ?_)
  · exact Or.inr (Or.inr ⟨rfl, .intro hcont.mem hcont.about hcont.latest hrow hdiffers hdue hunresolved
      ⟨hwaiting, hrec, hcancelled⟩ hat⟩)
  have hready : Ready x { s with journal := { s.journal with slaEvents } } a c :=
    { hcont.toReady with }
  refine safe_bind.mpr (safe_advance permits_recoveryError hready (by simp [hadvances])
    (.slaExpired hunresolved hwaiting) ?_ (Or.inl nofun) ?_)
  · -- in a terminal state the transition is refused
    by_cases hterminal : c.payload.currentState = .responseReady ∨
        c.payload.currentState = .deliveryRecorded
    · exact Or.inr (refused_recoveryError _ _ nofun (.sla hready.mem hready.latest hunresolved hterminal))
    · rw [not_or] at hterminal
      refine Or.inl ?_
      simp [TransitionRequest.allowedFrom, transitionAllowed, allowedTargets, terminalStates,
        hterminal, hrec, hcancelled]
  · intro c' s' hready' _ _ _
    exact safe_getProjection permits_recoveryError ⟨c', hready'⟩

/-- **`_recover_workflow` by state.** -/
theorem safe_recoverState {reconcile : Kernel (Option WorkflowProjection)}
    (hcont : Continuing x s a c) (hat : ContinuesAt x s a c)
    (hprepared : c.payload.currentState = .needsReconciliation → PreparedAt x a s)
    (hreconcile : c.payload.currentState = .needsReconciliation →
      ¬ ((s.policyActivationForWorkflow a.tenantId a.workflowId).isSome ∧
        c.payload.resumeState = .delivering) →
      KSafe x x.call.writes (recoveryError x) (fun _ s' => Ended x a s') reconcile s) :
    KSafe x x.call.writes (recoveryError x) (fun _ s' => Ended x a s')
      (recoverState x.env a c reconcile) s := by
  have hadvances := advances_of_recovers hcont.recovers
  have hend : KSafe x x.call.writes (recoveryError x) (fun _ s' => Ended x a s')
      (getWorkflowProjection a.tenantId a.workflowId) s :=
    safe_getProjection permits_recoveryError ⟨c, hcont.toReady⟩
  have hpolicy : (c.payload.currentState = .responseReady ∨
      c.payload.currentState = .awaitingApproval ∨ c.payload.currentState = .delivering) →
      KSafe x x.call.writes (recoveryError x) (fun _ s' => Ended x a s')
        (some <$> recoverPolicyApproval x.env a) s := by
    intro hstate
    refine Safe.bind (safe_recoverPolicyApproval permits_recoveryError (by simp [hadvances])
      (by simp [hadvances]) (by simp [hadvances]) hcont.toReady
      ⟨hcont.tables, fun _ => ⟨hcont.entered, hstate⟩⟩) fun _ _ h => h.1
  unfold recoverState
  refine safe_bind.mpr (safe_observe.mpr ?_)
  split
  · next hsla =>
      simp only [slaExpired, decide_eq_true_eq] at hsla
      obtain ⟨hdue, hunresolved, hwaiting, hrec, hcancelled⟩ := hsla
      exact safe_expireSla hcont hat hdue (by simpa using hunresolved) hwaiting hrec hcancelled
  · refine safe_bind.mpr (safe_observe.mpr ?_)
    split
    · next hstate =>
        split
        · next hdelivery =>
            refine Safe.bind (safe_recoverDeliveryReconciliation permits_recoveryError
              (by simp [hadvances]) (by simp [hadvances]) hcont.toReady hcont.recovers
              (hprepared hstate) hstate hdelivery.2 hdelivery.1) fun _ _ => id
        · next hticket => exact hreconcile hstate hticket
    · next hstate =>
        split
        · exact hpolicy (Or.inl hstate)
        · exact hend
    · next hstate =>
        split
        · exact hpolicy (Or.inr (Or.inl hstate))
        · exact permits_recoveryError _ _ rfl
    · next hstate =>
        split
        · exact hpolicy (Or.inr (Or.inr hstate))
        · exact permits_recoveryError _ _ rfl
    · exact safe_recoverInvestigation permits_recoveryError hcont.toReady (by simp [hadvances])
    · exact safe_recoverInvestigation permits_recoveryError hcont.toReady (by simp [hadvances])
    · exact hend
    · exact hend
    · exact hend
    · exact hend
    · next hstate =>
        exact safe_driveTicket permits_recoveryError (by simp [hadvances]) (by simp [hadvances])
          hcont.toReady hstate

/-- The way out of a reconciliation of ticket effects. -/
theorem safe_completeReconciliation {s₁ : WorkflowStore}
    {Q : Checkpoint → WorkflowStore → Prop} (hready : Ready x s a c)
    (hrecovers : x.call.recovers = true) (hprepared : PreparedAt x a s₁)
    (hjournal : s.journal = s₁.journal) (hdelivery : s.delivery = s₁.delivery)
    (hpolicy : s.policy = s₁.policy) (hstate : c.payload.currentState = .needsReconciliation)
    (hticket : ¬ ((s.policyActivationForWorkflow a.tenantId a.workflowId).isSome ∧
      c.payload.resumeState = .delivering))
    (hresolved : s.unresolvedIntents a.tenantId a.workflowId = [])
    (hQ : ∀ c' s', Ready x s' a c' → Advanced s s' →
      c'.payload.currentState = c.payload.resumeState →
      c.payload.resumeState ≠ .needsReconciliation → Q c' s') :
    KSafe x x.call.writes (recoveryError x) Q (completeReconciliation x.env a c) s := by
  have hadvances := advances_of_recovers hrecovers
  unfold completeReconciliation
  refine safe_bind.mpr (safe_observe.mpr ?_)
  by_cases hresume : c.payload.resumeState = .paused ∨ c.payload.resumeState = .needsReconciliation ∨
      c.payload.resumeState = .deliveryRecorded ∨ c.payload.resumeState = .cancelled
  · -- the transition is refused before anything is written
    unfold transition
    refine safe_bind.mpr (safe_check.mpr ⟨fun hok => ?_, fun _ => refused_recoveryError _ _ nofun ?_⟩)
    · simp only [TransitionRequest.allowedFrom, transitionAllowed, allowedTargets, hstate, if_true,
        mem_resumeTarget, decide_eq_true_eq] at hok
      rcases hresume with h | h | h | h <;> simp [h] at hok
    · exact .shape hready.mem hready.latest hstate hresume
  · simp only [not_or] at hresume
    obtain ⟨hpaused, hrec, hrecorded, hcancelled⟩ := hresume
    refine safe_advance permits_recoveryError hready (by simp [hadvances])
      (.reconciled hresolved hprepared hjournal hdelivery hpolicy hstate hticket) (Or.inl ?_)
      (Or.inl hpaused) ?_
    · simp [TransitionRequest.allowedFrom, transitionAllowed, allowedTargets, hstate, hpaused, hrec,
        hrecorded, hcancelled]
    · intro c' s' hready' hadv hcurrent _
      exact hQ c' s' hready' hadv hcurrent hrec

/-- An intent under an unresolved identifier has no completion. -/
theorem completionForIntent_unresolved {env : Env} {t : String} {w : WorkflowId} {id : IntentId}
    (h : id ∈ s.unresolvedIntentIds env t w) : s.completionForIntent t id = none := by
  rw [WorkflowStore.unresolvedIntentIds, List.mem_insertionSort] at h
  obtain ⟨i, hi, rfl⟩ := List.mem_map.mp h
  have hopen := (List.mem_filter.mp hi).2
  simp only [decide_eq_true_eq] at hopen
  obtain ⟨rfl, _, hnone⟩ := hopen
  rw [WorkflowStore.completionForIntent, List.find?_eq_none]
  intro d hd hkey
  exact hnone (List.any_eq_true.mpr ⟨d, hd, hkey⟩)

theorem unresolvedIntents_of_ids {env : Env} {t : String} {w : WorkflowId}
    (h : s.unresolvedIntentIds env t w = []) : s.unresolvedIntents t w = [] := by
  unfold WorkflowStore.unresolvedIntentIds at h
  rw [← List.length_eq_zero_iff, List.length_insertionSort, List.length_map] at h
  exact List.length_eq_zero_iff.mp h

/-- **`_recover_workflow`**, in the store the recovery has prepared. -/
theorem safe_recoverFrom (hcont : Continuing x s a c) (hprepared : PreparedAt x a s)
    (hpolicy : s.policy = x.start.policy) :
    KSafe x x.call.writes (recoveryError x) (fun _ s' => Ended x a s')
      (recoverFrom x.env a c) s := by
  have hadvances := advances_of_recovers hcont.recovers
  unfold recoverFrom
  refine safe_recoverState hcont (.prepared hprepared) (fun _ => hprepared) fun hstate hticket => ?_
  -- what follows a completed reconciliation, wherever it was completed
  have hresumed : ∀ c' s₁ s', s₁.policy = s.policy → s₁.journal = s.journal →
      s₁.ticket.intents = s.ticket.intents → s₁.unresolvedIntents a.tenantId a.workflowId = [] →
      (x.env.reconciliationTimeout = false ∨ s.unresolvedIntents a.tenantId a.workflowId = []) →
      Ready x s' a c' → Advanced s₁ s' → c'.payload.currentState = c.payload.resumeState →
      c.payload.resumeState ≠ .needsReconciliation →
      KSafe x x.call.writes (recoveryError x) (fun _ s' => Ended x a s')
        (recoverState x.env a c' (Prog.raise .workflowStateNotAllowlisted)) s' := by
    intro c' s₁ s' hpolicy₁ hjournal₁ hintents₁ hresolved₁ hprocessed hready' hadv hcurrent hrec
    have hpolicy' : s'.policy = x.start.policy := (hadv.policy.trans hpolicy₁).trans hpolicy
    have hne : c'.payload.currentState ≠ .needsReconciliation := by rw [hcurrent]; exact hrec
    refine safe_recoverState ⟨hready', hcont.recovers, ?_, ?_⟩ ?_ (fun h => absurd h hne)
      fun h _ => absurd h hne
    · rw [hpolicy']
      exact ⟨rfl, rfl⟩
    · exact ⟨s, c, hprepared, hcont.latest, Or.inr ⟨hstate, hcurrent.symm⟩⟩
    · have hresolved' : s'.unresolvedIntents a.tenantId a.workflowId = [] := by
        rw [WorkflowStore.unresolvedIntents, hadv.ticket]
        exact hresolved₁
      exact .reconciled hprepared hcont.latest hstate hcurrent hresolved' hprocessed
        (by rw [hadv.activations, hjournal₁]) (by rw [hadv.ticket, hintents₁])
        (by rw [hadv.slaEvents, hjournal₁])
  have hread : ∀ ticket : TicketTables,
      KSafe x x.call.writes (recoveryError x) (fun _ s' => Ended x a s')
        (getWorkflowProjection a.tenantId a.workflowId) { s with ticket } := by
    intro ticket
    exact safe_getProjection permits_recoveryError ⟨c, hcont.toReady.of_journal rfl rfl⟩
  unfold recoverReconciliation
  refine safe_bind.mpr (safe_observe.mpr ?_)
  cases hunresolved : s.unresolvedIntentIds x.env a.tenantId a.workflowId with
  | nil =>
      refine safe_bind.mpr (safe_completeReconciliation hcont.toReady hcont.recovers hprepared rfl
        rfl rfl hstate hticket (unresolvedIntents_of_ids hunresolved) ?_)
      intro c' s' hready' hadv hcurrent hrec
      have hresolved := unresolvedIntents_of_ids hunresolved
      exact hresumed c' s s' rfl rfl rfl hresolved (Or.inr hresolved) hready' hadv hcurrent hrec
  | cons first others =>
      refine safe_bind.mpr (safe_observe.mpr ?_)
      refine safe_bind.mpr (safe_need.mpr ⟨fun i hi => ?_, fun _ => permits_recoveryError _ _ rfl⟩)
      refine safe_bind.mpr (safe_processIntent permits_recoveryError (by simp [hadvances])
        (List.mem_of_find?_eq_some hi) ?_)
      have hopen : s.completionForIntent i.tenantId i.intentId = none := by
        have hkey := List.find?_some hi
        obtain ⟨ht, hid⟩ := of_decide_eq_true hkey
        rw [ht, hid]
        exact completionForIntent_unresolved (by rw [hunresolved]; exact List.mem_cons_self)
      intro result ticket hintents _ _ hcalm
      cases result with
      | none => exact hread ticket
      | some d =>
          refine safe_bind.mpr (safe_observe.mpr ?_)
          split
          · exact hread ticket
          · next hnone =>
              rw [ne_eq, not_not] at hnone
              have hready : Ready x { s with ticket } a c := hcont.toReady.of_journal rfl rfl
              refine safe_bind.mpr (safe_completeReconciliation hready hcont.recovers hprepared rfl
                rfl rfl hstate hticket (unresolvedIntents_of_ids hnone) ?_)
              intro c' s' hready' hadv hcurrent hrec
              exact hresumed c' { s with ticket } s' rfl rfl hintents (unresolvedIntents_of_ids hnone)
                (Or.inl (hcalm rfl hopen)) hready' hadv hcurrent hrec

/-! ## Recovery -/

/-- **`recover_workflow`** until its commands are done. -/
theorem safe_prepareWorkflow {Q : Checkpoint → WorkflowStore → Prop} (hs : JournalInv s)
    (hmem : a ∈ s.journal.activations) (habout : x.call.about a = true)
    (hQ : ∀ c s', At x s' a c → s'.CommandsDone a → Q c s') :
    KSafe x Part.prepares (recoveryError x) Q (do
      let checkpoint ← ensureLatestCheckpoint x.env a
      syncCaseState a checkpoint
      rebuildWorkflowProjection
      recoverPendingCommands x.env a) s := by
  have hE := permits_recoveryError (x := x)
  have hok := hs.activation a hmem
  -- once the Case is synchronised, the rest can rely on it
  have hrest : ∀ c s₁, a ∈ s₁.journal.activations →
      s₁.latestCheckpoint? a.tenantId a.workflowId = some c →
      KSafe x Part.prepares (recoveryError x) Q (do
        syncCaseState a c
        rebuildWorkflowProjection
        recoverPendingCommands x.env a) s₁ := by
    intro c s₁ hmem₁ hlatest
    refine safe_bind.mpr (safe_syncCaseState hE rfl hmem₁ habout hlatest fun ledger hsynced => ?_)
    have hat : At x { s₁ with ledger } a c :=
      { mem := hmem₁, about := habout, tenant := hok.tenant, correlation := hok.correlation,
        synced := fun _ => hsynced, latest := hlatest }
    refine safe_bind.mpr (safe_rebuildWorkflow hE rfl fun rows _ => ?_)
    unfold recoverPendingCommands
    refine safe_bind.mpr (safe_observe.mpr ?_)
    refine safe_bind.mpr (safe_applyPendingCommands hE refused_recoveryError
      (hat.of_journal rfl rfl) (List.nil_append _).symm (fun y hy => nomatch hy)
      fun c' s' hat' hdone => ?_)
    refine safe_bind.mpr (safe_observe.mpr (safe_need.mpr ⟨fun y hy => ?_, fun _ => hE _ _ rfl⟩))
    rw [hat'.latest, Option.some.injEq] at hy
    exact hy ▸ hQ c' s' hat' hdone
  unfold ensureLatestCheckpoint
  refine safe_bind.mpr (safe_bind.mpr (safe_observe.mpr ?_))
  cases hlatest : s.latestCheckpoint? a.tenantId a.workflowId with
  | some c => exact hrest c s hmem hlatest
  | none =>
      have hbound : Bound x s a :=
        { mem := hmem, about := habout, tenant := hok.tenant, correlation := hok.correlation,
          synced := fun _ y hy => by simp [hlatest] at hy }
      exact safe_ensureInitialCheckpoint hE rfl hbound hlatest fun c' s' hat =>
        hrest c' s' hat.mem hat.latest

/-- **`recover_workflow`.** -/
theorem safe_recoverWorkflow {t : String} {w : WorkflowId} (hs : JournalInv s) (hstart : x.start = s)
    (hcall : x.call = .recoverWorkflow t w) :
    KSafe x x.call.writes (recoveryError x)
      (fun _ s' => ∃ a ∈ s'.journal.activations, a.tenantId = t ∧ a.workflowId = w ∧ Ended x a s')
      (recoverWorkflow x.env t w) s := by
  have hrecovers : x.call.recovers = true := by simp [hcall, Call.recovers]
  have hE := permits_recoveryError (x := x)
  have hreached : Reached x s := hstart ▸ .refl
  unfold recoverWorkflow
  -- the Case's rebuild finds the rows as they are
  refine safe_bind.mpr (safe_atomically.mpr ⟨fun e he => ?_, fun _ s' h => ?_⟩)
  · simp [hs.ledger.rebuild] at he
  simp only [hs.ledger.rebuild, Except.ok.injEq, Prod.mk.injEq, true_and] at h
  obtain rfl := h
  refine ⟨Or.inl rfl, ?_⟩
  have hrebuild : KSafe x Part.prepares (recoveryError x)
      (fun _ s' => s'.journal = s.journal) rebuildWorkflowProjection s :=
    safe_rebuildWorkflow hE rfl fun rows _ => rfl
  refine Safe.bind (safe_prepare hrebuild hreached) fun _ s₁ hrebuilt => ?_
  obtain ⟨hjournal, hreached₁⟩ := hrebuilt
  refine safe_bind.mpr (safe_observe.mpr ?_)
  refine safe_bind.mpr (safe_need.mpr ⟨fun a ha => ?_, fun _ => hE _ _ rfl⟩)
  have hmem : a ∈ s₁.journal.activations := List.mem_of_find?_eq_some ha
  have hkey := List.find?_some ha
  obtain ⟨ht, hw⟩ := of_decide_eq_true hkey
  have habout : x.call.about a = true := by simp [hcall, Call.about, ht, hw]
  have hinv : JournalInv s₁ := hreached₁.journalInv (hstart ▸ hs)
  have hprepare : KSafe x Part.prepares (recoveryError x)
      (fun c s' => At x s' a c ∧ s'.CommandsDone a) _ s₁ :=
    safe_prepareWorkflow hinv hmem habout fun c s' hat hdone => ⟨hat, hdone⟩
  have hend : ∀ s', Ended x a s' → ∃ b ∈ s'.journal.activations,
      b.tenantId = t ∧ b.workflowId = w ∧ Ended x b s' :=
    fun s' h => ⟨a, h.choose_spec.mem, ht, hw, h⟩
  have hfrom : ∀ c s', (At x s' a c ∧ s'.CommandsDone a) ∧ Reached x s' →
      KSafe x x.call.writes (recoveryError x) (fun _ s'' => Ended x a s'')
        (recoverFrom x.env a c) s' := by
    rintro c s' ⟨⟨hat, hdone⟩, hreached'⟩
    obtain ⟨hpolicy, _⟩ := hreached'.frame
    have hprepared : PreparedAt x a s' := ⟨hreached', hdone⟩
    refine safe_recoverFrom ⟨⟨hat, fun _ => ⟨s', hprepared, rfl, List.prefix_rfl⟩⟩, hrecovers,
      ⟨by rw [hpolicy], by rw [hpolicy]⟩, s', c, hprepared, hat.latest, Or.inl rfl⟩ hprepared hpolicy
  have hall := Safe.bind (safe_prepare hprepare hreached₁) hfrom
  simp only [Prog.bind_assoc] at hall
  exact hall.mono (fun _ _ => id) (fun _ => hend) fun _ _ => id

end WeFlow
