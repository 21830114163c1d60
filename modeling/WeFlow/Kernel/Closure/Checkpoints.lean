import Mathlib.Data.List.Chain
import WeFlow.Kernel.Exactly

/-!
# `Checkpoints` — the journal's checkpoints, runs and commands are accepted

What `validate_workflow_source` asks of a workflow's checkpoints, runs and commands holds of every journal
that the kernel writes, up to one condition: that no checkpoint loses completed effects of the one before it.
It is left as `CompletedKept`, for `Effects` to show.

## Contents

* `Effect.appends` — what a transaction does to activations, checkpoints and runs.
* `RunsFollow`, `SourceInv` — runs go with checkpoints, and a command causes one checkpoint at most.
* `Requires`, `Behind` — what holds of a workflow that visits some states, and states nothing leads back to.
* `Chain.checkpointsContinue`, `Chain.validateCheckpointSequence_iff` — the two loops over a chain.
-/

namespace WeFlow

variable {x : Context} {s s' : WorkflowStore} {a : WorkflowActivation} {part : Part}

/-! ## What a transaction appends -/

/-- What a transaction does to the activations, checkpoints and runs of the journal. -/
inductive JournalAppends (x : Context) (s s' : WorkflowStore) : Prop
  | nothing (activations : s'.journal.activations = s.journal.activations)
      (checkpoints : s'.journal.checkpoints = s.journal.checkpoints)
      (runs : s'.journal.runs = s.journal.runs)
  | activation {a : WorkflowActivation} (fresh : ∀ b ∈ s.journal.activations, a.clash b = false)
      (activations : s'.journal.activations = s.journal.activations ++ [a])
      (checkpoints : s'.journal.checkpoints = s.journal.checkpoints)
      (runs : s'.journal.runs = s.journal.runs ++
        [nextRun s.journal.runs a.tenantId a.workflowId .received .activated x.env.now])
  | checkpoint {a : WorkflowActivation} {r : CheckpointRequest} (ok : CheckpointOk x s a r)
      (reason : Reason x s a r ∨ ∃ part, Prepares x s a part r) (eq : s' = s.withCheckpoint x.env a r)

theorem Effect.appends (h : Effect x s part s') : JournalAppends x s s' := by
  cases h with
  | prepare step =>
      cases step with
      | rebuildWorkflow rebuilt =>
          obtain ⟨rows, _, rfl⟩ := WorkflowStore.rebuildWorkflowProjection_eq_ok rebuilt
          exact .nothing rfl rfl rfl
      | checkpoint reason ok => exact .checkpoint ok (Or.inr ⟨_, reason⟩) rfl
      | rebuildCase => exact .nothing rfl rfl rfl
      | caseEvent => exact .nothing rfl rfl rfl
  | activate _ _ _ _ _ _ _ fresh run_eq => exact .activation fresh rfl rfl (by rw [run_eq])
  | checkpoint reason ok => exact .checkpoint ok (Or.inl reason) rfl
  | _ => exact .nothing rfl rfl rfl

/-- No checkpoint that a command did not ask for says that one caused it. -/
theorem Reason.not_command {r : CheckpointRequest} (h : Reason x s a r) :
    r.causationEventId.isCommand = false := by
  cases h with
  | ticketProgress _ _ origin => exact origin
  | deliveryProgress _ _ origin => exact origin
  | advance _ advance =>
      cases advance with
      | approvalDenied origin => exact origin
      | reconcile origin => exact origin
      | _ => rfl

/-- A checkpoint without a transition resumes where it is. -/
theorem Reason.progress {r : CheckpointRequest} (h : Reason x s a r) (hkind : r.transitionKind = none) :
    r.resumeState = r.currentState := by
  cases h with
  | ticketProgress => rfl
  | deliveryProgress => rfl
  | advance => exact absurd hkind nofun

theorem Prepares.progress {r : CheckpointRequest} (h : Prepares x s a part r)
    (hkind : r.transitionKind = none) : r.resumeState = r.currentState := by
  cases h with
  | initial => rfl
  | command => exact absurd hkind nofun

/-! ## Runs go with checkpoints -/

/-- The runs of a workflow, as they were inserted. -/
def WorkflowStore.runRows (s : WorkflowStore) (t : String) (w : WorkflowId) : List WorkflowRun :=
  s.journal.runs.filter fun r => r.tenantId = t ∧ r.workflowId = w

/-- One run for the activation and one for each checkpoint, numbered from one. -/
structure RunsFollow (runs : List WorkflowRun) (checkpoints : List Checkpoint) : Prop where
  sequences : runs.map (·.runSequence) = List.range' 1 (checkpoints.length + 1)
  states : runs.map (·.state) = .received :: checkpoints.map (·.payload.currentState)

theorem foldl_max_range' (n : Nat) : (List.range' 1 n).foldl max 0 = n := by
  induction n with
  | zero => rfl
  | succ n ih =>
      rw [List.range'_concat, List.foldl_append, ih]
      show max n (1 + 1 * n) = n + 1
      omega

/-- The next run's number continues the workflow's runs. -/
theorem nextRun_sequence {runs : List WorkflowRun} {t : String} {w : WorkflowId} {state : WorkflowState}
    {reason : RunReason} {now : Instant} {n : Nat}
    (h : (runs.filter fun r => r.tenantId = t ∧ r.workflowId = w).map (·.runSequence) = List.range' 1 n) :
    (nextRun runs t w state reason now).runSequence = n + 1 := by
  have hmax := foldl_max_range' n
  rw [← h, List.foldl_map] at hmax
  show _ + 1 = n + 1
  exact congrArg (· + 1) hmax

theorem RunsFollow.snoc {runs : List WorkflowRun} {checkpoints : List Checkpoint} {r : WorkflowRun}
    {c : Checkpoint} (h : RunsFollow runs checkpoints) (hseq : r.runSequence = checkpoints.length + 2)
    (hstate : r.state = c.payload.currentState) : RunsFollow (runs ++ [r]) (checkpoints ++ [c]) := by
  constructor
  · rw [List.map_append, h.sequences, List.length_append, List.length_singleton, List.map_singleton, hseq]
    rw [List.range'_concat (n := checkpoints.length + 1)]
    congr 2
    omega
  · rw [List.map_append, h.states, List.map_append, List.map_singleton, List.map_singleton, hstate,
      List.cons_append]

/-- The run of an activation. -/
theorem runsFollow_first {runs : List WorkflowRun} {now : Instant}
    (h : (runs.filter fun r => r.tenantId = a.tenantId ∧ r.workflowId = a.workflowId).map
      (·.runSequence) = []) :
    RunsFollow ([nextRun runs a.tenantId a.workflowId .received .activated now].filter fun r =>
      r.tenantId = a.tenantId ∧ r.workflowId = a.workflowId) [] := by
  have hrow : [nextRun runs a.tenantId a.workflowId .received .activated now].filter (fun r =>
      decide (r.tenantId = a.tenantId ∧ r.workflowId = a.workflowId)) =
      [nextRun runs a.tenantId a.workflowId .received .activated now] := by
    simp [nextRun]
  have hsequence : (nextRun runs a.tenantId a.workflowId .received .activated now).runSequence = 0 + 1 :=
    nextRun_sequence h
  rw [hrow]
  constructor
  · rw [List.map_singleton, hsequence]
    rfl
  · rfl

theorem RunsFollow.length {runs : List WorkflowRun} {checkpoints : List Checkpoint}
    (h : RunsFollow runs checkpoints) : runs.length = checkpoints.length + 1 := by
  have hlength := congrArg List.length h.sequences
  rw [List.length_map, List.length_range'] at hlength
  exact hlength

/-- **The invariant of checkpoints and runs.** -/
structure SourceInv (s : WorkflowStore) : Prop where
  status : ∀ r ∈ s.journal.runs, r.runStatus = runStatus r.state
  owned : ∀ r ∈ s.journal.runs, ∃ a ∈ s.journal.activations,
    r.tenantId = a.tenantId ∧ r.workflowId = a.workflowId
  follow : ∀ a ∈ s.journal.activations,
    RunsFollow (s.runRows a.tenantId a.workflowId) (s.checkpointRows a.tenantId a.workflowId)
  progress : ∀ c ∈ s.journal.checkpoints, c.transitionKind = none →
    c.payload.resumeState = c.payload.currentState
  once : ∀ a ∈ s.journal.activations, ∀ id,
    ((s.checkpointRows a.tenantId a.workflowId).filter (·.causedBy id)).length ≤ 1

theorem sourceInv_empty : SourceInv {} where
  status := fun r hr => by simp at hr
  owned := fun r hr => by simp at hr
  follow := fun a ha => by simp at ha
  progress := fun c hc => by simp at hc
  once := fun a ha => by simp at ha

theorem runRows_other {runs : List WorkflowRun} {run : WorkflowRun} {t : String} {w : WorkflowId}
    (h : ¬ (run.tenantId = t ∧ run.workflowId = w)) :
    (runs ++ [run]).filter (fun r => decide (r.tenantId = t ∧ r.workflowId = w)) =
      runs.filter fun r => decide (r.tenantId = t ∧ r.workflowId = w) := by
  refine Table.filter_append_other fun r hr => ?_
  rw [List.mem_singleton.mp hr]
  exact decide_eq_false h

/-- A command of which no checkpoint says that it was caused by it. -/
theorem filter_causedBy_eq_nil {id : String}
    (h : s.commandCheckpointExists a.tenantId a.workflowId id = false) :
    (s.checkpointRows a.tenantId a.workflowId).filter (·.causedBy id) = [] := by
  refine List.filter_eq_nil_iff.mpr fun c hc hcaused => ?_
  obtain ⟨hmem, hkey⟩ := List.mem_filter.mp hc
  rw [decide_eq_true_eq] at hkey
  have hnone := List.any_eq_false.mp h c hmem
  simp [hkey.1, hkey.2, hcaused] at hnone

/-- **A new checkpoint keeps the invariant.** -/
theorem CheckpointOk.sourceInv {r : CheckpointRequest} (hok : CheckpointOk x s a r) (hj : JournalInv s)
    (hreason : Reason x s a r ∨ ∃ part, Prepares x s a part r) (hs : SourceInv s) :
    SourceInv (s.withCheckpoint x.env a r) := by
  refine ⟨?_, ?_, ?_, ?_, ?_⟩
  · intro y hy
    rcases List.mem_append.mp hy with hy | hy
    · exact hs.status y hy
    · rw [List.mem_singleton.mp hy]
      rfl
  · intro y hy
    rcases List.mem_append.mp hy with hy | hy
    · exact hs.owned y hy
    · rw [List.mem_singleton.mp hy]
      exact ⟨a, hok.mem, rfl, rfl⟩
  · intro b hb
    by_cases hab : a.tenantId = b.tenantId ∧ a.workflowId = b.workflowId
    · obtain rfl := hj.activation_unique hok.mem hb hab.1 hab.2
      have hfollow := hs.follow a hok.mem
      have hrows : (s.withCheckpoint x.env a r).runRows a.tenantId a.workflowId =
          s.runRows a.tenantId a.workflowId ++ [s.runFor x.env a r] := by
        simp [WorkflowStore.runRows, WorkflowStore.withCheckpoint, WorkflowStore.runFor, nextRun]
      rw [WorkflowStore.checkpointRows_withCheckpoint, hrows]
      exact hfollow.snoc (nextRun_sequence hfollow.sequences) rfl
    · rw [WorkflowStore.checkpointRows_other hab]
      have hrows : (s.withCheckpoint x.env a r).runRows b.tenantId b.workflowId =
          s.runRows b.tenantId b.workflowId := runRows_other hab
      rw [hrows]
      exact hs.follow b hb
  · intro c hc hkind
    rcases List.mem_append.mp hc with hc | hc
    · exact hs.progress c hc hkind
    · rw [List.mem_singleton.mp hc] at hkind ⊢
      rcases hreason with hreason | ⟨part, hreason⟩
      · exact hreason.progress hkind
      · exact hreason.progress hkind
  · intro b hb id
    by_cases hab : a.tenantId = b.tenantId ∧ a.workflowId = b.workflowId
    · obtain rfl := hj.activation_unique hok.mem hb hab.1 hab.2
      rw [WorkflowStore.checkpointRows_withCheckpoint, List.filter_append, List.length_append]
      by_cases hcaused : r.causationEventId = .command id
      · -- only a command asks for it, and only if it is not applied
        have hnil : (s.checkpointRows a.tenantId a.workflowId).filter (·.causedBy id) = [] := by
          rcases hreason with hreason | ⟨part, hreason⟩
          · have hnot := hreason.not_command
            rw [hcaused] at hnot
            cases hnot
          · cases hreason with
            | initial => cases hcaused
            | @command c command r latest stored unapplied first version applies allowed =>
                have hid : command.commandId = id := by
                  cases applies <;> exact CheckpointCause.command.inj hcaused
                exact filter_causedBy_eq_nil (hid ▸ unapplied)
        rw [hnil]
        have hle := List.length_filter_le (·.causedBy id) [s.checkpointFor x.env a r]
        rw [List.length_singleton] at hle
        rw [List.length_nil]
        omega
      · have hother : [s.checkpointFor x.env a r].filter (·.causedBy id) = [] := by
          refine List.filter_eq_nil_iff.mpr fun c hc => ?_
          rw [List.mem_singleton.mp hc]
          have hnot : (s.checkpointFor x.env a r).causedBy id = false := decide_eq_false hcaused
          rw [hnot]
          exact Bool.false_ne_true
        rw [hother]
        exact hs.once a hok.mem id
    · rw [WorkflowStore.checkpointRows_other hab]
      exact hs.once b hb id

/-- **Every transaction keeps the invariant.** -/
theorem Effect.sourceInv (h : Effect x s part s') (hj : JournalInv s) (hs : SourceInv s) :
    SourceInv s' := by
  cases h.appends with
  | nothing activations checkpoints runs =>
      have hread : ∀ t w, s'.checkpointRows t w = s.checkpointRows t w ∧ s'.runRows t w = s.runRows t w := by
        intro t w
        unfold WorkflowStore.checkpointRows WorkflowStore.runRows
        rw [checkpoints, runs]
        exact ⟨rfl, rfl⟩
      refine ⟨?_, ?_, ?_, ?_, ?_⟩
      · rw [runs]
        exact hs.status
      · rw [runs, activations]
        exact hs.owned
      · intro b hb
        rw [activations] at hb
        rw [(hread _ _).1, (hread _ _).2]
        exact hs.follow b hb
      · rw [checkpoints]
        exact hs.progress
      · intro b hb id
        rw [activations] at hb
        rw [(hread _ _).1]
        exact hs.once b hb id
  | @activation a fresh activations checkpoints runs =>
      have hrows : ∀ t w, s'.checkpointRows t w = s.checkpointRows t w := by
        intro t w
        unfold WorkflowStore.checkpointRows
        rw [checkpoints]
      -- the workflow is new
      have hother : ∀ b ∈ s.journal.activations, ¬ (a.tenantId = b.tenantId ∧ a.workflowId = b.workflowId) := by
        rintro b hb ⟨ht, hw⟩
        have hclash := fresh b hb
        simp [WorkflowActivation.clash, ht, hw] at hclash
      have hnocheckpoint : s.checkpointRows a.tenantId a.workflowId = [] := by
        refine List.filter_eq_nil_iff.mpr fun c hc hkey => ?_
        rw [decide_eq_true_eq] at hkey
        obtain ⟨b, hb, ht, hw⟩ := hj.owned c hc
        exact hother b hb ⟨hkey.1.symm.trans ht, hkey.2.symm.trans hw⟩
      have hnorun : s.runRows a.tenantId a.workflowId = [] := by
        refine List.filter_eq_nil_iff.mpr fun r hr hkey => ?_
        rw [decide_eq_true_eq] at hkey
        obtain ⟨b, hb, ht, hw⟩ := hs.owned r hr
        exact hother b hb ⟨hkey.1.symm.trans ht, hkey.2.symm.trans hw⟩
      refine ⟨?_, ?_, ?_, ?_, ?_⟩
      · intro r hr
        rw [runs] at hr
        rcases List.mem_append.mp hr with hr | hr
        · exact hs.status r hr
        · rw [List.mem_singleton.mp hr]
          rfl
      · intro r hr
        rw [runs] at hr
        rw [activations]
        rcases List.mem_append.mp hr with hr | hr
        · obtain ⟨b, hb, hkey⟩ := hs.owned r hr
          exact ⟨b, List.mem_append_left _ hb, hkey⟩
        · rw [List.mem_singleton.mp hr]
          exact ⟨a, List.mem_append_right _ (List.mem_singleton_self a), rfl, rfl⟩
      · intro b hb
        rw [activations] at hb
        rw [hrows]
        unfold WorkflowStore.runRows
        rw [runs]
        rcases List.mem_append.mp hb with hb | hb
        · rw [runRows_other (hother b hb)]
          exact hs.follow b hb
        · rw [List.mem_singleton.mp hb, hnocheckpoint, List.filter_append]
          have hold : s.journal.runs.filter
              (fun r => decide (r.tenantId = a.tenantId ∧ r.workflowId = a.workflowId)) = [] := hnorun
          rw [hold, List.nil_append]
          exact runsFollow_first (congrArg (List.map (·.runSequence)) hold)
      · rw [checkpoints]
        exact hs.progress
      · intro b hb id
        rw [activations] at hb
        rw [hrows]
        rcases List.mem_append.mp hb with hb | hb
        · exact hs.once b hb id
        · rw [List.mem_singleton.mp hb, hnocheckpoint]
          exact Nat.zero_le 1
  | checkpoint ok reason eq =>
      rw [eq]
      exact ok.sourceInv hj reason hs

/-! ## What a state requires -/

/-- A checkpoint is in one of the states, or on its way back to one. -/
def CheckpointPayload.VisitsAny (c : CheckpointPayload) (states : WorkflowState → Bool) : Prop :=
  states c.currentState = true ∨ states c.resumeState = true

/-- Every checkpoint that visits one of the states is of a workflow with the property. -/
def Requires (states : WorkflowState → Bool) (property : WorkflowStore → String → WorkflowId → Prop)
    (s : WorkflowStore) : Prop :=
  ∀ c ∈ s.journal.checkpoints, c.payload.VisitsAny states →
    property s c.payload.tenantId c.payload.workflowId

section Requires

variable {states : WorkflowState → Bool} {property : WorkflowStore → String → WorkflowId → Prop}

theorem Requires.latest {c : Checkpoint} (hs : Requires states property s)
    (hlatest : s.latestCheckpoint? a.tenantId a.workflowId = some c) (hc : c.payload.VisitsAny states) :
    property s a.tenantId a.workflowId := by
  obtain ⟨hmem, ht, hw⟩ := WorkflowStore.latestCheckpoint?_mem hlatest
  have hproperty := hs c hmem hc
  rwa [ht, hw] at hproperty

/-- A command leads to such a state only from one. -/
theorem Applies.visitsAny {c : CheckpointPayload} {command : WorkflowCommand} {r : TransitionRequest}
    (h : Applies s a c command r) (hentered : ∀ state, states state = true → state.entered = true)
    (hr : states r.nextState = true ∨ states r.resumeState = true) : c.VisitsAny states := by
  have hvisits : ∀ state, states state = true → (r.nextState = state ∨ r.resumeState = state) →
      c.VisitsAny states := by
    intro state hstate hreached
    rcases h.visits (hentered state hstate) hreached with heq | heq
    · exact Or.inl (heq ▸ hstate)
    · exact Or.inr (heq ▸ hstate)
  rcases hr with hr | hr
  · exact hvisits _ hr (Or.inl rfl)
  · exact hvisits _ hr (Or.inr rfl)

/-- **The rule for states that only their own transitions lead to**: a property that stays, and that every
    transition into these states establishes, is required in them. -/
theorem Effect.requires (h : Effect x s part s')
    (hentered : ∀ state, states state = true → state.entered = true) (hreceived : states .received = false)
    (hstays : ∀ t w, property s t w → property s' t w)
    (hadvance : ∀ {a : WorkflowActivation} {c : Checkpoint} {r : TransitionRequest},
      s.latestCheckpoint? a.tenantId a.workflowId = some c → Advance x s a c r →
      r.allowedFrom c.payload = true → states r.nextState = true ∨ states r.resumeState = true →
      c.payload.VisitsAny states ∨ property s a.tenantId a.workflowId)
    (hs : Requires states property s) : Requires states property s' := by
  have hkept : ∀ c ∈ s.journal.checkpoints, c.payload.VisitsAny states →
      property s' c.payload.tenantId c.payload.workflowId :=
    fun c hc hvisits => hstays _ _ (hs c hc hvisits)
  cases h.appends with
  | nothing activations checkpoints =>
      intro c hc
      rw [checkpoints] at hc
      exact hkept c hc
  | activation fresh activations checkpoints =>
      intro c hc
      rw [checkpoints] at hc
      exact hkept c hc
  | @checkpoint a r ok reason eq =>
      intro c hc hvisits
      rw [eq] at hc
      rcases List.mem_append.mp hc with hc | hc
      · exact hkept c hc hvisits
      · rw [List.mem_singleton.mp hc] at hvisits ⊢
        have hr : states r.currentState = true ∨ states r.resumeState = true := hvisits
        refine hstays a.tenantId a.workflowId ?_
        rcases reason with reason | ⟨part, reason⟩
        · cases reason with
          | ticketProgress =>
              rw [hreceived] at hr
              exact hr.elim (absurd · Bool.false_ne_true) (absurd · Bool.false_ne_true)
          | deliveryProgress latest state => exact hs.latest latest (Or.inl (state ▸ hr.elim id id))
          | advance latest advance allowed => exact (hadvance latest advance allowed hr).elim (hs.latest latest) id
        · cases reason with
          | initial =>
              have hr' : states .received = true := hr.elim id id
              rw [hreceived] at hr'
              exact absurd hr' Bool.false_ne_true
          | command latest _ _ _ _ applies => exact hs.latest latest (applies.visitsAny hentered hr)

/-- A workflow is behind the states: it has a checkpoint, and the latest does not visit them. -/
def Behind (states : WorkflowState → Bool) (s : WorkflowStore) (a : WorkflowActivation) : Prop :=
  ∃ c, s.latestCheckpoint? a.tenantId a.workflowId = some c ∧ ¬ c.payload.VisitsAny states

/-- The latest checkpoint of a workflow behind a transaction. -/
theorem Effect.latest_cases (h : Effect x s part s') (hj : JournalInv s) (ha : a ∈ s.journal.activations) :
    s'.latestCheckpoint? a.tenantId a.workflowId = s.latestCheckpoint? a.tenantId a.workflowId ∨
    ∃ r, (Reason x s a r ∨ ∃ part, Prepares x s a part r) ∧
      s'.latestCheckpoint? a.tenantId a.workflowId = some (s.checkpointFor x.env a r) := by
  have hsame : s'.journal.checkpoints = s.journal.checkpoints →
      s'.latestCheckpoint? a.tenantId a.workflowId = s.latestCheckpoint? a.tenantId a.workflowId := by
    intro hcheckpoints
    unfold WorkflowStore.latestCheckpoint? WorkflowStore.checkpointsOf
    rw [hcheckpoints]
  cases h.appends with
  | nothing _ checkpoints => exact Or.inl (hsame checkpoints)
  | activation _ _ checkpoints => exact Or.inl (hsame checkpoints)
  | @checkpoint b r ok reason eq =>
      have ha' : a ∈ s'.journal.activations := h.grows.activations.subset ha
      have hj' := h.journalInv hj
      by_cases hab : b.tenantId = a.tenantId ∧ b.workflowId = a.workflowId
      · obtain rfl := hj.activation_unique ok.mem ha hab.1 hab.2
        right
        refine ⟨r, reason, ?_⟩
        rw [hj'.latest_eq ha', eq, WorkflowStore.checkpointRows_withCheckpoint, List.getLast?_concat]
      · left
        rw [hj'.latest_eq ha', hj.latest_eq ha, eq, WorkflowStore.checkpointRows_other hab]

/-- **The rule for states that nothing leads back to**: a workflow behind them stays behind them. -/
theorem Effect.behind (h : Effect x s part s') (hj : JournalInv s) (ha : a ∈ s.journal.activations)
    (hentered : ∀ state, states state = true → state.entered = true)
    (hadvance : ∀ {c : Checkpoint} {r : TransitionRequest}, Advance x s a c r →
      r.allowedFrom c.payload = true → states r.nextState = true ∨ states r.resumeState = true →
      c.payload.VisitsAny states) (hs : Behind states s a) : Behind states s' a := by
  obtain ⟨c, hlatest, hnot⟩ := hs
  rcases h.latest_cases hj ha with hsame | ⟨r, hreason, hnew⟩
  · exact ⟨c, hsame.trans hlatest, hnot⟩
  · refine ⟨_, hnew, fun hvisits => hnot ?_⟩
    have hr : states r.currentState = true ∨ states r.resumeState = true := hvisits
    rcases hreason with hreason | ⟨part, hreason⟩
    · cases hreason with
      | ticketProgress latest state =>
          obtain rfl := Option.some.inj (latest.symm.trans hlatest)
          exact Or.inl (state ▸ hr.elim id id)
      | deliveryProgress latest state =>
          obtain rfl := Option.some.inj (latest.symm.trans hlatest)
          exact Or.inl (state ▸ hr.elim id id)
      | advance latest advance allowed =>
          obtain rfl := Option.some.inj (latest.symm.trans hlatest)
          exact hadvance advance allowed hr
    · cases hreason with
      | initial none => exact absurd (none.symm.trans hlatest) nofun
      | command latest _ _ _ _ applies =>
          obtain rfl := Option.some.inj (latest.symm.trans hlatest)
          exact applies.visitsAny hentered hr

end Requires

/-! ## The loops over a chain -/

/-- What a checkpoint says of the one before it. -/
structure CheckpointFollows (c d : Checkpoint) : Prop where
  sequence : d.payload.checkpointSequence = c.payload.checkpointSequence + 1
  previous : d.payload.previousCheckpointId = some c.payload.checkpointId
  version : d.payload.workflowVersion = c.payload.workflowVersion + 1
  continues : ∃ r : CheckpointRequest, Continues c.payload r ∧ r.currentState = d.payload.currentState ∧
    r.resumeState = d.payload.resumeState ∧ r.transitionKind = d.transitionKind

theorem Chain.follows {cs : List Checkpoint} (h : Chain a cs) : cs.IsChain CheckpointFollows := by
  induction h with
  | nil => exact .nil
  | @snoc cs env r chain link valid disjoint ih =>
      refine List.isChain_append.mpr ⟨ih, List.isChain_singleton _, ?_⟩
      intro c hc d hd
      rw [List.head?_cons, Option.mem_some_iff] at hd
      subst hd
      have hlast : cs.getLast? = some c := hc
      rw [hlast]
      exact ⟨rfl, rfl, rfl, r, link.next c hlast, rfl, rfl, rfl⟩

/-- The first checkpoint of a chain. -/
theorem Chain.first {cs : List Checkpoint} (h : Chain a cs) {c : Checkpoint} (hc : cs.head? = some c) :
    ∃ env, c = nextCheckpoint env a none (initialRequest a) := by
  induction h with
  | nil => cases hc
  | @snoc cs env r chain link valid disjoint ih =>
      cases cs with
      | nil =>
          rw [List.nil_append, List.head?_cons, Option.some.injEq] at hc
          exact ⟨env, by rw [← hc, link.first rfl]; rfl⟩
      | cons d rest => exact ih hc

/-- A checkpoint's number is one more than its version. -/
theorem Chain.sequence_version {cs : List Checkpoint} (h : Chain a cs) :
    ∀ c ∈ cs, c.payload.checkpointSequence = c.payload.workflowVersion + 1 := by
  induction h with
  | nil => simp
  | snoc chain link valid disjoint ih =>
      intro c hc
      rcases List.mem_append.mp hc with hc | hc
      · exact ih c hc
      · rw [List.mem_singleton.mp hc]
        have hlast := (chain.snoc link valid disjoint).last List.getLast?_concat
        rw [hlast.1, hlast.2]

/-- The identifier of a checkpoint names its workflow. -/
theorem JournalInv.mem_checkpointRows (hj : JournalInv s) (ha : a ∈ s.journal.activations) {c d : Checkpoint}
    (hc : c ∈ s.checkpointRows a.tenantId a.workflowId) (hd : d ∈ s.journal.checkpoints)
    (ht : d.payload.tenantId = a.tenantId) (hid : d.payload.checkpointId = c.payload.checkpointId) :
    d ∈ s.checkpointRows a.tenantId a.workflowId := by
  obtain ⟨b, hb, hbt, hbw⟩ := hj.owned d hd
  have hdrow : d ∈ s.checkpointRows b.tenantId b.workflowId :=
    List.mem_filter.mpr ⟨hd, decide_eq_true ⟨hbt, hbw⟩⟩
  rw [((hj.chain b hb).fields d hdrow).2.2.2.2, ((hj.chain a ha).fields c hc).2.2.2.2,
    stableIdentifier_inj] at hid
  have hw : b.workflowId = a.workflowId := congrArg CheckpointMaterial.workflowId hid
  exact List.mem_filter.mpr ⟨hd, decide_eq_true ⟨ht, hbw.trans hw⟩⟩

/-- The loop over checkpoints and runs accepts what comes after a checkpoint. -/
theorem checkpointsContinue_of_follows {c : Checkpoint} {rest : List Checkpoint} {runs : List WorkflowRun}
    (hfields : ∀ d ∈ rest, d.payload.identity = a.identity ∧ d.payload.correlationId = a.correlationId ∧
      d.payload.slaDeadlineAt = a.slaDeadlineAt ∧ d.record.intact = true)
    (hprogress : ∀ d ∈ rest, d.transitionKind = none → d.payload.resumeState = d.payload.currentState)
    (hchain : (c :: rest).IsChain CheckpointFollows)
    (hruns : runs.map (·.state) = rest.map (·.payload.currentState)) :
    checkpointsContinue a (some c) rest runs = true := by
  induction rest generalizing c runs with
  | nil => cases runs <;> rfl
  | cons d rest ih =>
      cases runs with
      | nil => cases hruns
      | cons run runs =>
          obtain ⟨hfollows, hchain⟩ := List.isChain_cons_cons.mp hchain
          rw [List.map_cons, List.map_cons, List.cons.injEq] at hruns
          obtain ⟨hidentity, hcorrelation, hdeadline, hintact⟩ := hfields d (by simp)
          refine decide_eq_true ⟨decide_eq_true ⟨hidentity, hcorrelation, hdeadline, hintact, hruns.1⟩,
            decide_eq_true ⟨hfollows.version, ?_⟩, ?_⟩
          · obtain ⟨r, hcontinues, hstate, hresume, hkind⟩ := hfollows.continues
            cases hcontinues with
            | progress kind state =>
                have hnone : d.transitionKind = none := hkind ▸ kind
                have hsame : d.payload.currentState = c.payload.currentState := hstate.symm.trans state
                rw [if_pos hsame]
                exact ⟨hnone, hprogress d (by simp) hnone⟩
            | @transition kind kind_eq moves allowed =>
                have hmoves : d.payload.currentState ≠ c.payload.currentState := hstate ▸ moves
                rw [if_neg hmoves, ← hkind, kind_eq, Option.any_some, ← hstate, ← hresume]
                exact allowed
          · exact ih (fun e he => hfields e (by simp [he])) (fun e he => hprogress e (by simp [he])) hchain
              hruns.2

/-- **The loop over checkpoints and runs accepts a chain.** -/
theorem Chain.checkpointsContinue {cs : List Checkpoint} (h : Chain a cs) {runs : List WorkflowRun}
    (hprogress : ∀ c ∈ cs, c.transitionKind = none → c.payload.resumeState = c.payload.currentState)
    (hruns : RunsFollow runs cs) : checkpointsContinue a none cs runs.tail = true := by
  have hstates : runs.tail.map (·.state) = cs.map (·.payload.currentState) := by
    rw [List.map_tail, hruns.states, List.tail_cons]
  generalize runs.tail = rows at hstates
  have hchain := h.follows
  have hfields : ∀ c ∈ cs, c.payload.identity = a.identity ∧ c.payload.correlationId = a.correlationId ∧
      c.payload.slaDeadlineAt = a.slaDeadlineAt ∧ c.record.intact = true := by
    intro c hc
    obtain ⟨hidentity, hcorrelation, hdeadline, hintact, -⟩ := h.fields c hc
    exact ⟨hidentity, hcorrelation, hdeadline, hintact⟩
  cases cs with
  | nil => rfl
  | cons c rest =>
      cases rows with
      | nil => cases hstates
      | cons run rows =>
          rw [List.map_cons, List.map_cons, List.cons.injEq] at hstates
          obtain ⟨env, hfirst⟩ := h.first rfl
          obtain ⟨hidentity, hcorrelation, hdeadline, hintact⟩ := hfields c (by simp)
          refine decide_eq_true ⟨decide_eq_true ⟨hidentity, hcorrelation, hdeadline, hintact, hstates.1⟩, ?_, ?_⟩
          · rw [hfirst]
            exact decide_eq_true ⟨rfl, rfl, rfl, rfl, rfl⟩
          · exact checkpointsContinue_of_follows (fun d hd => hfields d (by simp [hd]))
              (fun d hd => hprogress d (by simp [hd])) hchain hstates.2

/-- No checkpoint has lost completed effects of the one before it. -/
def CompletedKept (checkpoints : List Checkpoint) : Prop :=
  checkpoints.IsChain fun c d => c.payload.completedIntentIds ⊆ d.payload.completedIntentIds

/-- What the loop of `validate_checkpoint_sequence` asks of each checkpoint on its own. -/
structure Standalone (a : WorkflowActivation) (c : Checkpoint) : Prop where
  valid : validateWorkflowCheckpoint c.payload = true
  identity : c.payload.identity = a.identity
  disjoint : c.payload.pendingIntentIds ∩ c.payload.completedIntentIds = ∅
  id : c.payload.checkpointId = stableIdentifier ⟨a.workflowId, c.payload.checkpointSequence⟩

theorem Chain.standalone {cs : List Checkpoint} (h : Chain a cs) : ∀ c ∈ cs, Standalone a c := by
  intro c hc
  obtain ⟨hidentity, -, -, -, hid⟩ := h.fields c hc
  obtain ⟨hvalid, hdisjoint, -⟩ := h.appended c hc
  exact ⟨hvalid, hidentity, hdisjoint, hid⟩

/-- The loop behind a checkpoint `c`; the identifiers it has seen are of earlier sequence numbers. -/
theorem checkpointChainFrom_iff {c : Checkpoint} {rest : List Checkpoint} {seen : List CheckpointId}
    (hall : ∀ d ∈ rest, Standalone a d) (hchain : (c :: rest).IsChain CheckpointFollows)
    (hseen : ∀ id ∈ seen, ∃ n, n ≤ c.payload.checkpointSequence ∧ id = stableIdentifier ⟨a.workflowId, n⟩) :
    checkpointChainFrom a.identity (c.payload.checkpointSequence + 1) (some c.payload.checkpointId)
      (some c.payload.workflowVersion) c.payload.completedIntentIds seen (rest.map (·.payload)) = true ↔
    CompletedKept (c :: rest) := by
  induction rest generalizing c seen with
  | nil => exact iff_of_true rfl (List.isChain_singleton _)
  | cons d rest ih =>
      obtain ⟨hfollows, hchain⟩ := List.isChain_cons_cons.mp hchain
      have hd := hall d (by simp)
      have hnew : d.payload.checkpointId ∉ seen := by
        intro hmem
        obtain ⟨n, hn, hid⟩ := hseen _ hmem
        rw [hd.id, stableIdentifier_inj] at hid
        have hn' : d.payload.checkpointSequence = n := congrArg CheckpointMaterial.checkpointSequence hid
        have hsequence := hfollows.sequence
        omega
      have hseen' : ∀ id ∈ d.payload.checkpointId :: seen, ∃ n, n ≤ d.payload.checkpointSequence ∧
          id = stableIdentifier ⟨a.workflowId, n⟩ := by
        intro id hid
        rcases List.mem_cons.mp hid with rfl | hid
        · exact ⟨_, le_rfl, hd.id⟩
        · obtain ⟨n, hn, heq⟩ := hseen id hid
          have hsequence := hfollows.sequence
          exact ⟨n, by omega, heq⟩
      have hrest := ih (fun e he => hall e (by simp [he])) hchain hseen'
      unfold CompletedKept at hrest ⊢
      rw [List.isChain_cons_cons, List.map_cons, checkpointChainFrom, decide_eq_true_eq, ← hrest,
        hfollows.sequence]
      constructor
      · rintro ⟨-, -, -, -, -, -, hkept, -, hloop⟩
        exact ⟨hkept, hloop⟩
      · rintro ⟨hkept, hloop⟩
        refine ⟨hd.valid, hd.identity, rfl, hfollows.previous, hnew, hd.disjoint, hkept, ?_, hloop⟩
        rw [Option.all_some, decide_eq_true_eq, hfollows.version]
        exact Nat.lt_succ_self _

/-- **`validate_checkpoint_sequence` accepts a chain exactly when no completed effect is lost.** -/
theorem Chain.validateCheckpointSequence_iff {cs : List Checkpoint} (h : Chain a cs) (hne : cs ≠ []) :
    validateCheckpointSequence (cs.map (·.payload)) = true ↔ CompletedKept cs := by
  cases cs with
  | nil => exact absurd rfl hne
  | cons c rest =>
      have hall := h.standalone
      have hc := hall c (by simp)
      obtain ⟨env, hfirst⟩ := h.first rfl
      have hsequence : c.payload.checkpointSequence = 1 := by
        rw [hfirst]
        rfl
      have hprevious : c.payload.previousCheckpointId = none := by
        rw [hfirst]
        rfl
      have hseen : ∀ id ∈ [c.payload.checkpointId], ∃ n ≤ c.payload.checkpointSequence,
          id = stableIdentifier ⟨a.workflowId, n⟩ := by
        intro id hid
        rw [List.mem_singleton] at hid
        exact ⟨_, le_rfl, hid.trans hc.id⟩
      have hloop := checkpointChainFrom_iff (fun d hd => hall d (by simp [hd])) h.follows hseen
      rw [List.map_cons, validateCheckpointSequence, checkpointChainFrom, decide_eq_true_eq, ← hloop,
        hc.identity, hsequence]
      constructor
      · rintro ⟨-, -, -, -, -, -, -, -, hrest⟩
        exact hrest
      · intro hrest
        exact ⟨hc.valid, rfl, rfl, hprevious, List.not_mem_nil, hc.disjoint, Finset.empty_subset _, rfl, hrest⟩

end WeFlow
