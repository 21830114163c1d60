import WeFlow.Kernel.Safety.Program

/-!
# `Final` — what the final states absorb

A workflow in CANCELLED or DELIVERY_RECORDED is finished, but two things still happen to it. A CANCEL is
admitted in DELIVERY_RECORDED, for `allowedTargets` excludes no state but CANCELLED and
NEEDS_RECONCILIATION; and the Case, which follows a checkpoint in a transaction of its own, may catch up
with the final state later.

## Contents

* `WorkflowState.final`, `transitionAllowed_final` — the only transition out of a final state.
* `Chain.final` — the checkpoints after a final one.
* `Effect.caseState` — where the state of a Case can move.
* `final_absorbing` — both, over every run.
-/

namespace WeFlow

open WorkflowState

def WorkflowState.final : WorkflowState → Bool
  | .deliveryRecorded | .cancelled => true
  | _ => false

/-! ## The checkpoints of a finished workflow -/

/-- **No transition leaves a final state**, but a CANCEL. -/
theorem transitionAllowed_final {state next : WorkflowState} {kind : TransitionKind}
    {resume : Option WorkflowState} {unresolved : Bool} (hfinal : state.final = true)
    (h : transitionAllowed state kind next resume unresolved = true) :
    kind = .cancel ∧ state = deliveryRecorded ∧ next = cancelled := by
  cases state with
  | deliveryRecorded =>
      cases kind <;> cases unresolved <;>
        simp_all [transitionAllowed, allowedTargets, terminalStates]
  | cancelled =>
      cases kind <;> cases unresolved <;>
        simp_all [transitionAllowed, allowedTargets, terminalStates]
  | _ => exact absurd hfinal (by decide)

/-- What follows a final checkpoint stays in its state, unless it is a CANCEL of a recorded delivery. -/
theorem Continues.final {c : CheckpointPayload} {r : CheckpointRequest} (h : Continues c r)
    (hfinal : c.currentState.final = true) :
    r.currentState = c.currentState ∨
      (r.transitionKind = some .cancel ∧ c.currentState = deliveryRecorded ∧
        r.currentState = cancelled) := by
  cases h with
  | progress _ state => exact Or.inl state
  | transition kind_eq _ allowed =>
      obtain ⟨rfl, hstate, hnext⟩ := transitionAllowed_final hfinal allowed
      exact Or.inr ⟨kind_eq, hstate, hnext⟩

/-- The state in which a workflow ends. -/
structure Ends (c latest : Checkpoint) (after : List Checkpoint) : Prop where
  cancelled : c.payload.currentState = cancelled → latest.payload.currentState = cancelled
  recorded : c.payload.currentState = deliveryRecorded →
    (∀ d ∈ after, d.transitionKind ≠ some .cancel) → latest.payload.currentState = deliveryRecorded
  final : c.payload.currentState.final = true → latest.payload.currentState.final = true

/-- **The checkpoints after a final one**: after CANCELLED all are in CANCELLED; after
    DELIVERY_RECORDED all are in DELIVERY_RECORDED, up to a CANCEL. -/
theorem Chain.ends {a : WorkflowActivation} {before : List Checkpoint} {c : Checkpoint}
    {after : List Checkpoint} (h : Chain a (before ++ c :: after)) :
    ∀ d ∈ c :: after, Ends c d after := by
  induction after using List.reverseRecOn with
  | nil =>
      intro d hd
      rw [List.mem_singleton.mp hd]
      exact ⟨id, fun hc _ => hc, id⟩
  | append_singleton after d ih =>
      have hsplit : before ++ c :: (after ++ [d]) = (before ++ c :: after) ++ [d] := by simp
      rw [hsplit] at h
      obtain ⟨hinit, env, r, hlink, hd⟩ := h.init
      have hgrow := ih hinit
      -- the checkpoint in front of the last one is `c` or follows it
      obtain ⟨p, hp, hlast⟩ : ∃ p ∈ c :: after, (before ++ c :: after).getLast? = some p := by
        have hne : c :: after ≠ [] := List.cons_ne_nil _ _
        exact ⟨(c :: after).getLast hne, List.getLast_mem hne,
          by rw [List.getLast?_append_of_ne_nil _ hne, List.getLast?_eq_some_getLast hne]⟩
      have hcontinues := hlink.next p hlast
      have hstate : d.payload.currentState = r.currentState := by
        rw [hd]
        rfl
      have hkind : d.transitionKind = r.transitionKind := by
        rw [hd]
        rfl
      intro y hy
      rcases List.mem_append.mp (show y ∈ (c :: after) ++ [d] from hy) with hy | hy
      · have hends := hgrow y hy
        exact ⟨hends.cancelled,
          fun hc hno => hends.recorded hc fun z hz => hno z (List.mem_append_left _ hz), hends.final⟩
      · rw [List.mem_singleton.mp hy]
        have hends := hgrow p hp
        constructor
        · intro hc
          have hpstate := hends.cancelled hc
          rcases hcontinues.final (by rw [hpstate]; rfl) with h | ⟨_, hrec, _⟩
          · rw [hstate, h, hpstate]
          · exact absurd (hpstate.symm.trans hrec) nofun
        · intro hc hno
          have hpstate := hends.recorded hc fun z hz => hno z (List.mem_append_left _ hz)
          rcases hcontinues.final (by rw [hpstate]; rfl) with h | ⟨hcancel, _, _⟩
          · rw [hstate, h, hpstate]
          · exact absurd (hkind.trans hcancel) (hno d (by simp))
        · intro hc
          have hpfinal := hends.final hc
          rcases hcontinues.final hpfinal with h | ⟨_, _, hnext⟩
          · rw [hstate, h]
            exact hpfinal
          · rw [hstate, hnext]
            rfl

/-! ## The Case of a finished workflow -/

/-- The state of the Case of a workflow. -/
def WorkflowStore.caseState (s : WorkflowStore) (a : WorkflowActivation) : Option WorkflowState :=
  (s.ledger.projection? a.tenantId a.caseId).map (·.state)

variable {x : Context} {s s' : WorkflowStore} {part : Part} {a : WorkflowActivation}

/-- A workflow's Case is projected. -/
theorem JournalInv.projection?_isSome (hs : JournalInv s) (ha : a ∈ s.journal.activations) :
    (s.ledger.projection? a.tenantId a.caseId).isSome = true := by
  obtain ⟨e, he, ht, _, hcase, _⟩ := (hs.activation a ha).source
  obtain ⟨c, hc, hct, hci⟩ := hs.ledger.eventCase e he
  obtain ⟨p, hp, hderived⟩ := hs.ledger.exists_projection hc
  obtain ⟨hpt, hpi⟩ := deriveFromRecords_key hderived
  refine List.find?_isSome.mpr ⟨p, hp, decide_eq_true ⟨?_, ?_⟩⟩
  · rw [hpt, hct, ht]
  · rw [hpi, hci, hcase]

theorem LedgerStore.Accepted.projection?_eq {now : Instant} {p : IntakePayload} {t t' : String}
    {i : CaseId} {l l' : LedgerStore} (h : LedgerStore.Accepted now p t l l')
    (hstored : (l.projection? t' i).isSome = true) : l'.projection? t' i = l.projection? t' i := by
  obtain ⟨projection, _, hrows⟩ := h.caseProjection
  unfold LedgerStore.projection? at hstored ⊢
  rw [hrows, List.find?_append, Option.or_of_isSome hstored]

/-- The port moves the state of its own Case, and of no other. -/
theorem LedgerStore.Appended.state_eq {e : WorkflowStateEvent} {l l' : LedgerStore} {t : String}
    {i : CaseId} (h : LedgerStore.Appended e l l') :
    (l'.projection? t i).map (·.state) =
      if e.tenantId = t ∧ e.caseId = i then (l.projection? t i).map fun _ => e.toState
      else (l.projection? t i).map (·.state) := by
  have hkey : ∀ (rows : List CaseProjection) (t : String) (i : CaseId),
      rows.find? (fun p => p.tenantId = t ∧ p.caseId = i) =
        rows.find? fun p => (p.tenantId, p.caseId) = (t, i) := by
    intro rows t i
    simp only [Prod.mk.injEq]
  have hmodify : ∀ f : CaseProjection → CaseProjection,
      Table.modify (fun p => p.tenantId = e.tenantId ∧ p.caseId = e.caseId) f l.caseProjection =
        Table.modify (fun p => (p.tenantId, p.caseId) = (e.tenantId, e.caseId)) f
          l.caseProjection := by
    intro f
    simp only [Prod.mk.injEq]
  rw [h.stored]
  unfold LedgerStore.projection?
  simp only [hkey, hmodify]
  rw [@Table.find?_modify_key CaseProjection (String × CaseId) _ fun p => (p.tenantId, p.caseId)]
  · by_cases hcase : e.tenantId = t ∧ e.caseId = i
    · rw [if_pos (by rw [hcase.1, hcase.2]), if_pos hcase, Option.map_map]
      rfl
    · rw [if_neg (fun h => hcase (Prod.mk.inj h)), if_neg hcase]
  · exact fun _ => rfl

/-- **A transaction moves the state of a Case** only to the state of its latest checkpoint. -/
theorem Effect.caseState (h : Effect x s part s') (hs : JournalInv s)
    (ha : a ∈ s.journal.activations) :
    s'.caseState a = s.caseState a ∨
      ∃ c, s.latestCheckpoint? a.tenantId a.workflowId = some c ∧
        s'.caseState a = some c.payload.currentState := by
  have hstored := hs.projection?_isSome ha
  cases h with
  | prepare step =>
      cases step with
      | rebuildCase rebuilt =>
          left
          rw [hs.ledger.rebuild, Except.ok.injEq] at rebuilt
          rw [← rebuilt]
      | rebuildWorkflow rebuilt =>
          left
          obtain ⟨rows, _, rfl⟩ := WorkflowStore.rebuildWorkflowProjection_eq_ok rebuilt
          rfl
      | @caseEvent b c previous kind ledger mem _ latest _ _ _ appended =>
          unfold WorkflowStore.caseState
          simp only [appended.state_eq]
          by_cases hcase : b.tenantId = a.tenantId ∧ b.caseId = a.caseId
          · -- the event is one of this workflow, which has one activation
            obtain rfl := hs.activation_unique_case mem ha hcase.1 hcase.2
            obtain ⟨p, hp⟩ := Option.isSome_iff_exists.mp hstored
            refine Or.inr ⟨c, latest, ?_⟩
            rw [if_pos ⟨rfl, rfl⟩, hp]
            rfl
          · exact Or.inl (if_neg hcase)
      | checkpoint => exact Or.inl rfl
  | intake accepted =>
      left
      unfold WorkflowStore.caseState
      rw [accepted.projection?_eq hstored]
  | _ => exact Or.inl rfl

/-! ## Runs -/

theorem Grows.checkpointRows (h : Grows s s') (t : String) (w : WorkflowId) :
    s.checkpointRows t w <+: s'.checkpointRows t w := h.checkpoints.filter _

/-- **The final states absorb.** Whatever happens to a workflow after a checkpoint in CANCELLED, every
    later checkpoint is in CANCELLED; after one in DELIVERY_RECORDED, every later one is in
    DELIVERY_RECORDED unless a CANCEL has been applied since. Its Case keeps its state, or takes that of
    a final checkpoint. -/
theorem final_absorbing {steps later : List Step} (h : Along anyCall {} (steps ++ later) = true)
    {a : WorkflowActivation} (ha : a ∈ (run steps).journal.activations) {c : Checkpoint}
    (hc : c ∈ (run steps).checkpointRows a.tenantId a.workflowId)
    (hfinal : c.payload.currentState.final = true) :
    ∃ new, (run (steps ++ later)).checkpointRows a.tenantId a.workflowId =
        (run steps).checkpointRows a.tenantId a.workflowId ++ new ∧
      (c.payload.currentState = cancelled → ∀ d ∈ new, d.payload.currentState = cancelled) ∧
      (c.payload.currentState = deliveryRecorded →
        (∀ d ∈ (run (steps ++ later)).checkpointRows a.tenantId a.workflowId,
          d.transitionKind ≠ some .cancel) →
        ∀ d ∈ new, d.payload.currentState = deliveryRecorded) ∧
      ((run (steps ++ later)).caseState a = (run steps).caseState a ∨
        ∃ d ∈ (run (steps ++ later)).checkpointRows a.tenantId a.workflowId,
          d.payload.currentState.final = true ∧
          (run (steps ++ later)).caseState a = some d.payload.currentState) := by
  obtain ⟨hsteps, hlater⟩ := along_append.mp h
  have hs : JournalInv (run steps) :=
    (@run_effects anyCall (fun _ => True) (fun _ _ => True) (fun _ _ _ _ _ => trivial)
      (fun _ _ _ _ _ _ _ _ _ => trivial) (fun _ _ _ _ => trivial) steps trivial hsteps).1
  have hrun : run (steps ++ later) = runFrom (run steps) later := runFrom_append _ _ _
  -- along the later steps: rows grow, and the Case moves only to final states
  let Inv : WorkflowStore → Prop := fun s =>
    Grows (run steps) s ∧
      (s.caseState a = (run steps).caseState a ∨
        ∃ d ∈ s.checkpointRows a.tenantId a.workflowId, d.payload.currentState.final = true ∧
          s.caseState a = some d.payload.currentState)
  have hInv : JournalInv (run (steps ++ later)) ∧ Inv (run (steps ++ later)) := by
    rw [hrun]
    refine runFrom_effects (fun _ s => Inv s) (fun _ _ hinv _ _ => hinv) ?_ (fun _ _ _ hinv => hinv)
      hs ⟨Grows.refl _, Or.inl rfl⟩ hlater
    rintro x s s' part _ _ heffect hj ⟨hgrows, hcase⟩
    have ha' : a ∈ s.journal.activations := hgrows.activations.subset ha
    refine ⟨hgrows.trans heffect.grows, ?_⟩
    rcases heffect.caseState hj ha' with hsame | ⟨d, hlatest, hmoved⟩
    · rw [hsame]
      refine hcase.imp id fun ⟨d, hd, hdfinal, hstate⟩ => ?_
      exact ⟨d, (heffect.grows.checkpointRows _ _).subset hd, hdfinal, hstate⟩
    · -- the latest checkpoint follows the final one
      have hrow : c ∈ s.checkpointRows a.tenantId a.workflowId :=
        (hgrows.checkpointRows _ _).subset hc
      obtain ⟨before, after, hsplit⟩ := List.append_of_mem hrow
      have hchain := hj.chain a ha'
      rw [hsplit] at hchain
      rw [hj.latest_eq ha', hsplit, List.getLast?_append_of_ne_nil _ (List.cons_ne_nil _ _)]
        at hlatest
      have hd : d ∈ c :: after := List.mem_of_getLast? hlatest
      refine Or.inr ⟨d, (heffect.grows.checkpointRows _ _).subset ?_,
        (hchain.ends d hd).final hfinal, hmoved⟩
      rw [hsplit]
      exact List.mem_append_right _ hd
  obtain ⟨hj, hgrows, hcase⟩ := hInv
  obtain ⟨new, hnew⟩ := hgrows.checkpointRows a.tenantId a.workflowId
  obtain ⟨before, after, hsplit⟩ := List.append_of_mem hc
  have hchain := hj.chain a (hgrows.activations.subset ha)
  rw [← hnew, hsplit, List.append_assoc, List.cons_append] at hchain
  have hends : ∀ d ∈ new, Ends c d (after ++ new) := fun d hd =>
    hchain.ends d (List.mem_cons_of_mem _ (List.mem_append_right _ hd))
  refine ⟨new, hnew.symm, ?_, ?_, hcase⟩
  · exact fun hcancelled d hd => (hends d hd).cancelled hcancelled
  · intro hrecorded hno d hd
    refine (hends d hd).recorded hrecorded fun y hy => hno y ?_
    rw [← hnew, hsplit]
    rcases List.mem_append.mp hy with hy | hy
    · exact List.mem_append_left _ (List.mem_append_right _ (List.mem_cons_of_mem _ hy))
    · exact List.mem_append_right _ hy

/-- A recovery of the recorded delivery finds it as it is. -/
theorem final_absorbing_example :
    ∃ a ∈ (run api503Delivery).journal.activations,
      ∃ new, (run (api503Delivery ++ [uninterrupted (calm 6) api503Recover])).checkpointRows a.tenantId
          a.workflowId = (run api503Delivery).checkpointRows a.tenantId a.workflowId ++ new ∧
        ((∀ d ∈ (run (api503Delivery ++ [uninterrupted (calm 6) api503Recover])).checkpointRows
            a.tenantId a.workflowId, d.transitionKind ≠ some .cancel) →
          ∀ d ∈ new, d.payload.currentState = deliveryRecorded) := by
  have hrecorded : ∃ a ∈ (run api503Delivery).journal.activations,
      ∃ c ∈ (run api503Delivery).checkpointRows a.tenantId a.workflowId,
        c.payload.currentState = deliveryRecorded := by
    rw [run_api503Delivery]
    decide +kernel
  obtain ⟨a, ha, c, hc, hstate⟩ := hrecorded
  have halong : Along anyCall {} (api503Delivery ++ [uninterrupted (calm 6) api503Recover]) = true := by
    decide +kernel
  obtain ⟨new, hnew, _, hstays, _⟩ := final_absorbing halong ha hc (by rw [hstate]; rfl)
  exact ⟨a, ha, new, hnew, hstays hstate⟩

/-- A CANCEL that comes after the delivery was recorded. -/
def api503LateCancel : List Step :=
  commandSteps (calm 6) ⟨api503Tenant, api503CaseId, "cancel", .cancel, 12⟩ api503Recorded

/-- An approval that dies between the last checkpoint of the delivery and the Case event of it. -/
def api503Interrupted : List Step := api503Answers (calm 5) 43 api503Awaiting

/-- A recorded delivery is cancelled; and a Case that has fallen behind follows its workflow into a final
    state that the workflow has reached before. -/
theorem final_moves_example :
    (Along anyCall {} (api503Delivery ++ api503LateCancel) = true ∧
      (run api503Delivery).latestState api503Tenant api503WorkflowId = some deliveryRecorded ∧
      (run (api503Delivery ++ api503LateCancel)).latestState api503Tenant api503WorkflowId =
        some cancelled) ∧
    let steps := api503Approval ++ api503Interrupted
    let recovery := [uninterrupted (calm 6) api503Recover]
    Along anyCall {} (steps ++ recovery) = true ∧
    (run steps).latestState api503Tenant api503WorkflowId = some deliveryRecorded ∧
    ((run steps).ledger.projection? api503Tenant api503CaseId).map (·.state) = some delivering ∧
    ((run (steps ++ recovery)).ledger.projection? api503Tenant api503CaseId).map (·.state) =
      some deliveryRecorded := by
  refine ⟨⟨?_, ?_, ?_⟩, ?_, ?_⟩
  · refine along_append.mpr ⟨by decide +kernel, ?_⟩
    show Along anyCall (run api503Delivery) api503LateCancel = true
    rw [run_api503Delivery]
    decide +kernel
  · rw [run_api503Delivery]
    decide +kernel
  · rw [run_append, run_api503Delivery]
    decide +kernel
  · decide +kernel
  · simp only [run_append]
    decide +kernel

end WeFlow
