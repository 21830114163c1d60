import WeFlow.Kernel.Final

/-!
# `Sla` — the expiry of a workflow's SLA

An SLA that has expired is recorded once, with the checkpoint that the workflow is at, and then the workflow
waits for an operator. The test is repeated by every recovery from a state in which the expiry still counts: a
workflow that has been paused since, or has not got from the record to its transition, is at another checkpoint
then, and the record does not fit.

## Contents

* `SlaInv` — one row a workflow, with the deadline of its activation.
* `Arrives`, `Reached.arrives` — preparation applies no command, or the first of those that wait.
* `slaConflictAhead` — a recovery will find the record at another checkpoint.
* `sla_recorded_once` — the result; `paused_sla_conflicts` — a paused workflow whose SLA has expired.
-/

namespace WeFlow

open Txn Prog

variable {x : Context} {s s' : WorkflowStore} {a : WorkflowActivation} {c : Checkpoint} {part : Part}

/-! ## The rows of expired SLAs -/

/-- **The invariant of the SLA rows**: each repeats the deadline of its activation, and names a workflow that
    has a checkpoint; and no two clash. -/
structure SlaInv (s : WorkflowStore) : Prop where
  row : ∀ row ∈ s.journal.slaEvents, ∃ a ∈ s.journal.activations, row.tenantId = a.tenantId ∧
    row.workflowId = a.workflowId ∧ row.deadlineAt = a.slaDeadlineAt ∧
    s.checkpointRows a.tenantId a.workflowId ≠ []
  distinct : Table.Distinct SlaEvent.clash s.journal.slaEvents

theorem slaInv_empty : SlaInv {} where
  row := fun row hrow => by simp at hrow
  distinct := Table.distinct_nil _

theorem Effect.slaEvents_eq (h : Effect x s part s') (hp : part ≠ .sla) :
    s'.journal.slaEvents = s.journal.slaEvents := by
  cases h with
  | prepare step => exact step.frame.2.2.2.2.2.2
  | slaEvent => exact absurd rfl hp
  | _ => rfl

/-- A workflow with a checkpoint keeps one. -/
theorem Grows.checkpointRows_ne_nil {t : String} {w : WorkflowId} (h : Grows s s')
    (hrows : s.checkpointRows t w ≠ []) : s'.checkpointRows t w ≠ [] := by
  intro hnil
  obtain ⟨c, hc⟩ := List.exists_mem_of_ne_nil _ hrows
  have hstored : c ∈ s'.checkpointRows t w := (h.checkpointRows t w).subset hc
  rw [hnil] at hstored
  exact absurd hstored List.not_mem_nil

/-- **Every transaction keeps the invariant of the SLA rows.** -/
theorem Effect.slaInv (h : Effect x s part s') (hs : SlaInv s) : SlaInv s' := by
  have hgrows := h.grows
  have hkept : ∀ row ∈ s.journal.slaEvents, ∃ a ∈ s'.journal.activations, row.tenantId = a.tenantId ∧
      row.workflowId = a.workflowId ∧ row.deadlineAt = a.slaDeadlineAt ∧
      s'.checkpointRows a.tenantId a.workflowId ≠ [] := by
    intro row hrow
    obtain ⟨a, ha, ht, hw, hdeadline, hrows⟩ := hs.row row hrow
    exact ⟨a, hgrows.activations.subset ha, ht, hw, hdeadline, hgrows.checkpointRows_ne_nil hrows⟩
  by_cases hpart : part = .sla
  · cases h with
    | @slaEvent a c mem about latest fresh =>
        refine ⟨fun row hrow => ?_, hs.distinct.append_one fresh⟩
        rcases List.mem_append.mp hrow with hold | hnew
        · exact hkept row hold
        · rw [List.mem_singleton.mp hnew]
          refine ⟨a, mem, rfl, rfl, rfl, fun hnil => ?_⟩
          have hnone := WorkflowStore.latestCheckpoint?_eq_none.mpr hnil
          exact absurd (latest.symm.trans hnone) nofun
    | prepare step => exact absurd hpart step.not_part.2.2.2.2.2.2.1
    | _ => exact absurd hpart nofun
  · rw [← h.slaEvents_eq hpart] at hkept
    exact ⟨hkept, h.slaEvents_eq hpart ▸ hs.distinct⟩

/-- A workflow has one row, with the deadline of its activation. -/
theorem SlaInv.one_row (hs : SlaInv s) (hj : JournalInv s) (t : String) (w : WorkflowId) :
    (s.journal.slaEvents.filter fun row => row.tenantId = t ∧ row.workflowId = w).length ≤ 1 ∧
    ∀ row ∈ s.journal.slaEvents, row.tenantId = t → row.workflowId = w →
      ∃ a ∈ s.journal.activations, a.tenantId = t ∧ a.workflowId = w ∧
        row.deadlineAt = a.slaDeadlineAt ∧
        ∀ b ∈ s.journal.activations, b.tenantId = t → b.workflowId = w → b = a := by
  constructor
  · refine hs.distinct.filter_key_le_one fun row row' h h' => ?_
    rw [decide_eq_true_eq] at h h'
    exact decide_eq_true ⟨h.1.trans h'.1.symm, Or.inr (h.2.trans h'.2.symm)⟩
  · intro row hrow ht hw
    obtain ⟨a, ha, hat, haw, hdeadline, -⟩ := hs.row row hrow
    have hkey : a.tenantId = t ∧ a.workflowId = w := ⟨hat.symm.trans ht, haw.symm.trans hw⟩
    refine ⟨a, ha, hkey.1, hkey.2, hdeadline, fun b hb hbt hbw => ?_⟩
    exact hj.activation_unique hb ha (hbt.trans hkey.1.symm) (hbw.trans hkey.2.symm)

theorem run_slaInv {cond : Env → Call → WorkflowStore → Bool} {steps : List Step}
    (h : Along cond {} steps = true) : JournalInv (run steps) ∧ SlaInv (run steps) :=
  run_effects (fun _ s => SlaInv s) (fun _ _ hinv _ _ => hinv)
    (fun _ _ _ _ _ _ heffect _ hinv => heffect.slaInv hinv) (fun _ _ _ hinv => hinv)
    slaInv_empty h

/-! ## Where a recovery continues -/

namespace WorkflowStore

/-- The transition that a command asks for at checkpoint `c`. -/
def commandRequest (s : WorkflowStore) (a : WorkflowActivation) (c : CheckpointPayload)
    (command : WorkflowCommand) : TransitionRequest :=
  match command.commandType with
  | .pause => pauseRequest command.commandId c
  | .resume => resumeRequest command.commandId c
  | .cancel =>
      if s.allPendingIds a.tenantId a.workflowId = ∅ then cancelRequest command.commandId
      else s.recordsEffects a (reconciliationRequired c (.command command.commandId))

end WorkflowStore

theorem Applies.eq_commandRequest {p : CheckpointPayload} {command : WorkflowCommand}
    {r : TransitionRequest} (h : Applies s a p command r) : r = s.commandRequest a p command := by
  cases h with
  | pause type => simp only [WorkflowStore.commandRequest, type]
  | resume type => simp only [WorkflowStore.commandRequest, type]
  | cancel type resolved => simp only [WorkflowStore.commandRequest, type, if_pos resolved]
  | absorb type unresolved => simp only [WorkflowStore.commandRequest, type, if_neg unresolved]

/-- **Where the preparation of a recovery arrives**: at the checkpoint that was the latest one, or at the one
    that the first of the waiting commands appends to it. -/
inductive Arrives (x : Context) (a : WorkflowActivation) (s : WorkflowStore) : Prop
  | stays (rows : s.checkpointRows a.tenantId a.workflowId =
      x.start.checkpointRows a.tenantId a.workflowId)
  | applies {c : Checkpoint} {command : WorkflowCommand} {r : TransitionRequest}
      (latest : x.start.latestCheckpoint? a.tenantId a.workflowId = some c)
      (first : (x.start.pendingCommands a).head? = some command)
      (version : c.payload.workflowVersion = command.expectedWorkflowVersion)
      (applies : Applies x.start a c.payload command r) (allowed : r.allowedFrom c.payload = true)
      (rows : s.checkpointRows a.tenantId a.workflowId =
        x.start.checkpointRows a.tenantId a.workflowId ++
          [x.start.checkpointFor x.env a (r.checkpoint c.payload)])
  | begins (rows : x.start.checkpointRows a.tenantId a.workflowId = [])

/-- What the queries of a workflow's commands and effects read. -/
structure SameEffects (s s' : WorkflowStore) : Prop where
  commands : s'.journal.commands = s.journal.commands
  ticket : s'.ticket = s.ticket
  delivery : s'.delivery = s.delivery

theorem commandCheckpointExists_eq {t : String} {w : WorkflowId} {id : String} :
    s.commandCheckpointExists t w id = (s.checkpointRows t w).any (·.causedBy id) := by
  unfold WorkflowStore.commandCheckpointExists WorkflowStore.checkpointRows
  rw [List.any_filter]
  congr 1
  funext c
  simp only [Bool.decide_and, Bool.and_assoc, Bool.decide_eq_true]

theorem SameEffects.pendingCommands (h : SameEffects s s')
    (hrows : s'.checkpointRows a.tenantId a.workflowId = s.checkpointRows a.tenantId a.workflowId) :
    s'.pendingCommands a = s.pendingCommands a := by
  unfold WorkflowStore.pendingCommands WorkflowStore.commandsOf
  rw [h.commands]
  refine List.filter_congr fun command _ => ?_
  rw [commandCheckpointExists_eq, commandCheckpointExists_eq, hrows]

/-- The identifiers of a workflow's effects are read from two parts of the store. -/
theorem SameEffects.effectIds (h : SameEffects s s') (t : String) (w : WorkflowId) :
    s'.allPendingIds t w = s.allPendingIds t w ∧ s'.allCompletedIds t w = s.allCompletedIds t w := by
  have hread : ∀ s : WorkflowStore,
      s.allPendingIds t w =
        ({ ticket := s.ticket, delivery := s.delivery } : WorkflowStore).allPendingIds t w ∧
      s.allCompletedIds t w =
        ({ ticket := s.ticket, delivery := s.delivery } : WorkflowStore).allCompletedIds t w :=
    fun _ => ⟨rfl, rfl⟩
  rw [(hread s).1, (hread s).2, (hread s').1, (hread s').2, h.ticket, h.delivery]
  exact ⟨rfl, rfl⟩

theorem SameEffects.applies (h : SameEffects s s') {p : CheckpointPayload} {command : WorkflowCommand}
    {r : TransitionRequest} (happlies : Applies s' a p command r) : Applies s a p command r := by
  obtain ⟨hpending, hcompleted⟩ := h.effectIds a.tenantId a.workflowId
  cases happlies with
  | pause type => exact .pause type
  | resume type => exact .resume type
  | cancel type resolved => exact .cancel type (hpending ▸ resolved)
  | absorb type unresolved elsewhere =>
      unfold WorkflowStore.recordsEffects
      rw [hpending, hcompleted]
      exact .absorb type (hpending ▸ unresolved) elsewhere

theorem Reached.sameEffects (h : Reached x s) : SameEffects x.start s := by
  obtain ⟨-, hdelivery, hticket, -, -, hcommands⟩ := h.frame
  exact ⟨hcommands, hticket, hdelivery⟩

theorem Reached.slaEvents_eq (h : Reached x s) : s.journal.slaEvents = x.start.journal.slaEvents := by
  induction h with
  | refl => rfl
  | tail _ hlast ih =>
      obtain ⟨part, hstep⟩ := hlast
      exact hstep.frame.2.2.2.2.2.2.trans ih

/-- The recovery of a workflow is about this workflow alone. -/
theorem eq_of_about (hs : JournalInv s) {t : String} {w : WorkflowId} (hcall : x.call = .recoverWorkflow t w)
    {b : WorkflowActivation} (ha : a ∈ s.journal.activations) (hb : b ∈ s.journal.activations)
    (habout : x.call.about a = true) (hbabout : x.call.about b = true) : b = a := by
  simp only [hcall, Call.about, decide_eq_true_eq] at habout hbabout
  exact hs.activation_unique hb ha (hbabout.1.trans habout.1.symm) (hbabout.2.trans habout.2.symm)

/-- **A preparation applies one command at most**: a second one that waits was accepted at an earlier
    version than the first one leads to. -/
theorem Reached.arrives (h : Reached x s) (hs : JournalInv x.start) {t : String} {w : WorkflowId}
    (hcall : x.call = .recoverWorkflow t w) (ha : a ∈ x.start.journal.activations)
    (habout : x.call.about a = true) : Arrives x a s := by
  induction h with
  | refl => exact .stays rfl
  | @tail s₁ s₂ hreach hlast ih =>
      obtain ⟨part, hstep⟩ := hlast
      have hinv : JournalInv s₁ := Reached.journalInv hreach hs
      have hsame : SameEffects x.start s₁ := Reached.sameEffects hreach
      have hactivations : s₁.journal.activations = x.start.journal.activations :=
        (Reached.frame hreach).2.2.2.2.1
      have ha₁ : a ∈ s₁.journal.activations := hactivations ▸ ha
      -- only a new checkpoint of the workflow itself counts
      have hquiet : s₂.checkpointRows a.tenantId a.workflowId = s₁.checkpointRows a.tenantId a.workflowId →
          Arrives x a s₂ := by
        intro hrows
        cases ih with
        | stays rows => exact .stays (hrows.trans rows)
        | applies latest first version applies allowed rows =>
            exact .applies latest first version applies allowed (hrows.trans rows)
        | begins rows => exact .begins rows
      cases hstep with
      | rebuildCase => exact hquiet rfl
      | rebuildWorkflow rebuilt =>
          obtain ⟨rows, -, rfl⟩ := WorkflowStore.rebuildWorkflowProjection_eq_ok rebuilt
          exact hquiet rfl
      | caseEvent => exact hquiet rfl
      | @checkpoint _ b r reason ok =>
          obtain rfl : b = a := eq_of_about hinv hcall ha₁ ok.mem habout ok.about
          cases reason with
          | initial hnone =>
              have hnil := WorkflowStore.latestCheckpoint?_eq_none.mp hnone
              cases ih with
              | stays rows => exact .begins (rows.symm.trans hnil)
              | applies _ _ _ _ _ rows => exact absurd (rows.symm.trans hnil) (by simp)
              | begins rows => exact .begins rows
          | @command c command r latest stored unapplied first version applies allowed =>
              have hrecovers : x.call.recovers = true := by simp [hcall, Call.recovers]
              cases ih with
              | begins rows => exact .begins rows
              | stays rows =>
                  have hlatest : x.start.latestCheckpoint? b.tenantId b.workflowId = some c := by
                    rw [hs.latest_eq ha, ← rows, ← hinv.latest_eq ha₁]
                    exact latest
                  have hnew : s₁.checkpointFor x.env b (r.checkpoint c.payload) =
                      x.start.checkpointFor x.env b (r.checkpoint c.payload) := by
                    unfold WorkflowStore.checkpointFor
                    rw [latest, hlatest]
                  refine .applies hlatest ?_ version (hsame.applies applies) allowed ?_
                  · rw [← hsame.pendingCommands rows]
                    exact first hrecovers
                  · rw [WorkflowStore.checkpointRows_withCheckpoint, rows, hnew]
              | applies _ _ _ _ _ rows =>
                  -- the version it was accepted at has passed
                  have hcommand : command ∈ x.start.journal.commands := by
                    have hmem := (List.mem_insertionSort _).mp stored
                    rw [hsame.commands] at hmem
                    exact (List.mem_filter.mp hmem).1
                  have hkey : command.tenantId = b.tenantId ∧ command.workflowId = b.workflowId := by
                    have hmem := (List.mem_insertionSort _).mp stored
                    exact of_decide_eq_true (List.mem_filter.mp hmem).2
                  obtain ⟨d, hd, hdt, hdw, hok⟩ := hs.command command hcommand
                  obtain rfl : d = b :=
                    hs.activation_unique hd ha (hdt.symm.trans hkey.1) (hdw.symm.trans hkey.2)
                  have hversion := hinv.latest_version ha₁ latest
                  have hlength : (s₁.checkpointRows d.tenantId d.workflowId).length =
                      (x.start.checkpointRows d.tenantId d.workflowId).length + 1 := by
                    rw [rows, List.length_append, List.length_singleton]
                  have hlate := hok.version
                  omega

/-! ## The record at another checkpoint -/

/-- The states in which an expired SLA still counts. -/
def WorkflowState.countsSla (state : WorkflowState) : Bool :=
  state ≠ .waitingForOperator ∧ state ≠ .needsReconciliation ∧ state ≠ .cancelled

namespace WorkflowStore

/-- A recovery that continues in `state` tests the SLA at a checkpoint without the record: at this one, or
    behind the reconciliation that it completes. -/
def slaMeets (s : WorkflowStore) (env : Env) (a : WorkflowActivation) (state resume : WorkflowState)
    (recorded : Bool) : Bool :=
  if state = .needsReconciliation then
    resume.countsSla ∧ s.intentForOperation a.tenantId a.workflowId .workflowHandoff = none ∧
      (env.reconciliationTimeout = false ∨ s.unresolvedIntents a.tenantId a.workflowId = [])
  else state.countsSla ∧ ¬ recorded

/-- **The next recovery will find the record at another checkpoint**: the SLA has expired and is recorded, and
    the workflow has been moved by a command since, or a command that waits will move it, or it waits in a
    reconciliation that the recovery completes. -/
def slaConflictAhead (s : WorkflowStore) (env : Env) (a : WorkflowActivation) : Bool :=
  a.slaDeadlineAt ≤ env.now ∧ s.handoffComplete a.tenantId a.workflowId = false ∧
  (s.slaEvent? a.tenantId a.workflowId).any fun row =>
    (s.latestCheckpoint? a.tenantId a.workflowId).any fun c =>
      match (s.pendingCommands a).head? with
      | some command =>
          if command.commandType = .cancel ∧ c.payload.currentState = .needsReconciliation then
            s.slaMeets env a c.payload.currentState c.payload.resumeState false
          else
            let r := s.commandRequest a c.payload command
            c.payload.workflowVersion = command.expectedWorkflowVersion ∧
              r.allowedFrom c.payload = true ∧ s.slaMeets env a r.nextState r.resumeState false
      | none => s.slaMeets env a c.payload.currentState c.payload.resumeState
          (row.checkpointId = c.payload.checkpointId)

end WorkflowStore

/-- No recovery starts where it will find the record at another checkpoint. -/
def slaRecordFits (env : Env) (call : Call) (s : WorkflowStore) : Bool :=
  match call with
  | .recoverWorkflow t w => s.journal.activations.all fun a =>
      ¬ (a.tenantId = t ∧ a.workflowId = w ∧ s.slaConflictAhead env a)
  | _ => true

theorem slaEvent?_mem {t : String} {w : WorkflowId} {row : SlaEvent} (h : s.slaEvent? t w = some row) :
    row ∈ s.journal.slaEvents ∧ row.tenantId = t ∧ row.workflowId = w := by
  have hkey := List.find?_some h
  rw [decide_eq_true_eq] at hkey
  exact ⟨List.mem_of_find?_eq_some h, hkey⟩

/-- No handoff is complete where none was ever intended. -/
theorem handoff_none (hopen : s.handoffComplete a.tenantId a.workflowId = false)
    (hresolved : s.unresolvedIntents a.tenantId a.workflowId = []) :
    s.intentForOperation a.tenantId a.workflowId .workflowHandoff = none := by
  cases hfound : s.intentForOperation a.tenantId a.workflowId .workflowHandoff with
  | none => rfl
  | some i =>
      have hi := List.mem_of_find?_eq_some hfound
      have hkey := List.find?_some hfound
      rw [decide_eq_true_eq] at hkey
      obtain ⟨ht, hw, -⟩ := hkey
      -- an intent without a completion would be unresolved
      by_cases hdone : (s.ticket.completions.any fun c => c.tenantId = i.tenantId ∧
          c.intentId = i.intentId) = true
      · have hsome : (s.completionForIntent a.tenantId i.intentId).isSome = true := by
          rw [WorkflowStore.completionForIntent, List.find?_isSome]
          obtain ⟨c, hc, hck⟩ := List.any_eq_true.mp hdone
          refine ⟨c, hc, ?_⟩
          rw [← ht]
          exact hck
        unfold WorkflowStore.handoffComplete at hopen
        rw [hfound, Option.any_some, hsome] at hopen
        cases hopen
      · have hunresolved : i ∈ s.unresolvedIntents a.tenantId a.workflowId :=
          List.mem_filter.mpr ⟨hi, decide_eq_true ⟨ht, hw, hdone⟩⟩
        rw [hresolved] at hunresolved
        exact absurd hunresolved List.not_mem_nil

/-- The queries that the test of the SLA reads the ticket effects with. -/
theorem SameEffects.handoff (h : SameEffects s s') (t : String) (w : WorkflowId) :
    s'.handoffComplete t w = s.handoffComplete t w ∧
      s'.unresolvedIntents t w = s.unresolvedIntents t w ∧
      s'.intentForOperation t w .workflowHandoff = s.intentForOperation t w .workflowHandoff := by
  have hread : ∀ s : WorkflowStore,
      s.handoffComplete t w = ({ ticket := s.ticket } : WorkflowStore).handoffComplete t w ∧
      s.unresolvedIntents t w = ({ ticket := s.ticket } : WorkflowStore).unresolvedIntents t w ∧
      s.intentForOperation t w .workflowHandoff =
        ({ ticket := s.ticket } : WorkflowStore).intentForOperation t w .workflowHandoff :=
    fun _ => ⟨rfl, rfl, rfl⟩
  obtain ⟨h₁, h₂, h₃⟩ := hread s
  obtain ⟨h₁', h₂', h₃'⟩ := hread s'
  rw [h₁, h₂, h₃, h₁', h₂', h₃', h.ticket]
  exact ⟨rfl, rfl, rfl⟩

/-- A workflow with a record has a checkpoint. -/
theorem SlaInv.latest (hsla : SlaInv s) (hs : JournalInv s) (ha : a ∈ s.journal.activations)
    {row : SlaEvent} (hrow : s.slaEvent? a.tenantId a.workflowId = some row) :
    s.checkpointRows a.tenantId a.workflowId ≠ [] ∧ row.deadlineAt = a.slaDeadlineAt := by
  obtain ⟨hmem, ht, hw⟩ := slaEvent?_mem hrow
  obtain ⟨b, hb, hbt, hbw, hdeadline, hrows⟩ := hsla.row row hmem
  obtain rfl : b = a := hs.activation_unique hb ha (hbt.symm.trans ht) (hbw.symm.trans hw)
  exact ⟨hrows, hdeadline⟩

/-- **What the recovery meets is read off the store it starts from.** -/
theorem PreparedAt.conflictAhead {s₁ : WorkflowStore} {c₁ : Checkpoint} {row : SlaEvent} {t : String}
    {w : WorkflowId} (hprepared : PreparedAt x a s₁) (hs : JournalInv x.start) (hsla : SlaInv x.start)
    (hcall : x.call = .recoverWorkflow t w) (ha : a ∈ x.start.journal.activations)
    (habout : x.call.about a = true)
    (hlatest : s₁.latestCheckpoint? a.tenantId a.workflowId = some c₁)
    (hrow : x.start.slaEvent? a.tenantId a.workflowId = some row) (hdue : a.slaDeadlineAt ≤ x.env.now)
    (hopen : x.start.handoffComplete a.tenantId a.workflowId = false)
    (hmeets : ∀ recorded : Bool, (recorded = true → row.checkpointId = c₁.payload.checkpointId) →
      x.start.slaMeets x.env a c₁.payload.currentState c₁.payload.resumeState recorded = true) :
    x.start.slaConflictAhead x.env a = true := by
  have hreached : Reached x s₁ := hprepared.reached
  have hsame : SameEffects x.start s₁ := hreached.sameEffects
  have hinv : JournalInv s₁ := hreached.journalInv hs
  have ha₁ : a ∈ s₁.journal.activations := hreached.frame.2.2.2.2.1 ▸ ha
  have hfresh : x.start.slaMeets x.env a c₁.payload.currentState c₁.payload.resumeState false = true :=
    hmeets false fun h => (by cases h)
  unfold WorkflowStore.slaConflictAhead
  refine decide_eq_true ⟨hdue, hopen, ?_⟩
  rw [hrow, Option.any_some]
  cases hreached.arrives hs hcall ha habout with
  | begins rows => exact absurd rows (hsla.latest hs ha hrow).1
  | stays rows =>
      have hstart : x.start.latestCheckpoint? a.tenantId a.workflowId = some c₁ := by
        rw [hs.latest_eq ha, ← rows, ← hinv.latest_eq ha₁]
        exact hlatest
      rw [hstart, Option.any_some]
      cases hhead : (x.start.pendingCommands a).head? with
      | none =>
          exact hmeets _ fun h => of_decide_eq_true h
      | some command =>
          -- a command that still waits is a CANCEL that met a reconciliation
          have hpending : command ∈ s₁.pendingCommands a := by
            rw [hsame.pendingCommands rows]
            exact List.mem_of_head? hhead
          obtain ⟨htype, latest, hl, hstate⟩ := hprepared.done command hpending
          rw [hlatest, Option.some.injEq] at hl
          subst hl
          dsimp only
          rw [if_pos ⟨htype, hstate⟩]
          exact hfresh
  | @applies c command r latest first version applies allowed rows =>
      have hc₁ : c₁ = x.start.checkpointFor x.env a (r.checkpoint c.payload) := by
        rw [hinv.latest_eq ha₁, rows, List.getLast?_concat, Option.some.injEq] at hlatest
        exact hlatest.symm
      have hcounts : ¬(command.commandType = .cancel ∧ c.payload.currentState = .needsReconciliation) :=
        fun h => applies.not_reconciling allowed h.2
      rw [latest, Option.any_some, first]
      dsimp only
      rw [if_neg hcounts, ← applies.eq_commandRequest]
      rw [hc₁] at hfresh
      exact decide_eq_true ⟨version, allowed, hfresh⟩

/-- **A conflict of the SLA was ahead.** -/
theorem SlaBehind.conflictAhead (h : SlaBehind x s) (hs : JournalInv x.start) (hsla : SlaInv x.start)
    {t : String} {w : WorkflowId} (hcall : x.call = .recoverWorkflow t w) :
    ∃ a ∈ x.start.journal.activations, a.tenantId = t ∧ a.workflowId = w ∧
      x.start.slaConflictAhead x.env a = true := by
  obtain ⟨mem, about, latest, stored, differs, due, unresolved, counts, continues⟩ := h
  rename_i a c row
  have hkey : a.tenantId = t ∧ a.workflowId = w := by
    simpa [hcall, Call.about] using about
  have hcounts : c.payload.currentState.countsSla = true := decide_eq_true counts
  cases continues with
  | prepared prepared =>
      have hreached : Reached x s := prepared.reached
      have ha : a ∈ x.start.journal.activations := hreached.frame.2.2.2.2.1 ▸ mem
      have hrow : x.start.slaEvent? a.tenantId a.workflowId = some row := by
        rw [← stored]
        unfold WorkflowStore.slaEvent?
        rw [hreached.slaEvents_eq]
      have hopen := (hreached.sameEffects.handoff a.tenantId a.workflowId).1 ▸ unresolved
      refine ⟨a, ha, hkey.1, hkey.2,
        prepared.conflictAhead hs hsla hcall ha about latest hrow due hopen fun recorded hrecorded => ?_⟩
      have helsewhere : recorded = false := by
        cases recorded with
        | false => rfl
        | true => exact absurd ⟨hrecorded rfl, (hsla.latest hs ha hrow).2⟩ differs
      unfold WorkflowStore.slaMeets
      rw [if_neg counts.2.1, helsewhere]
      exact decide_eq_true ⟨hcounts, Bool.false_ne_true⟩
  | @reconciled s₁ c₁ prepared latest₁ state resume resolved processed activations intents slaEvents =>
      have hreached : Reached x s₁ := prepared.reached
      have hsame := hreached.sameEffects.handoff a.tenantId a.workflowId
      have ha : a ∈ x.start.journal.activations := by
        rw [← hreached.frame.2.2.2.2.1, ← activations]
        exact mem
      have hrow : x.start.slaEvent? a.tenantId a.workflowId = some row := by
        rw [← stored]
        unfold WorkflowStore.slaEvent?
        rw [slaEvents, hreached.slaEvents_eq]
      have hnone : x.start.intentForOperation a.tenantId a.workflowId .workflowHandoff = none := by
        rw [← hsame.2.2, ← handoff_none unresolved resolved]
        unfold WorkflowStore.intentForOperation
        rw [intents]
      have hopen : x.start.handoffComplete a.tenantId a.workflowId = false := by
        unfold WorkflowStore.handoffComplete
        rw [hnone]
        rfl
      refine ⟨a, ha, hkey.1, hkey.2,
        prepared.conflictAhead hs hsla hcall ha about latest₁ hrow due hopen fun recorded _ => ?_⟩
      unfold WorkflowStore.slaMeets
      rw [if_pos state, ← resume]
      exact decide_eq_true ⟨hcounts, hnone, hsame.2.1 ▸ processed⟩

/-! ## Along every run -/

/-- **A recovery that the record fits does not fail with it.** -/
theorem Step.no_slaConflict {step : Step} {t : String} {w : WorkflowId} (hs : JournalInv s)
    (hsla : SlaInv s) (hcall : step.call = .recoverWorkflow t w)
    (hfits : slaRecordFits step.env step.call s = true) :
    (step.exec s).1 ≠ .raised .workflowSlaConflict := by
  intro hraised
  have henabled : step.call.enabled s = true := by
    rw [hcall]
    rfl
  have hrecovers : (step.context s).call.recovers = true := by
    show step.call.recovers = true
    rw [hcall]
    rfl
  have herror : recoveryError (step.context s) .workflowSlaConflict (step.exec s).2 :=
    (exec_safe (safe_programOf (x := step.context s) hs rfl henabled) step.cut).2.2 _ hraised hrecovers
  rcases herror with hother | ⟨hne, -⟩ | ⟨-, hbehind⟩
  · cases hother
  · exact hne rfl
  · obtain ⟨a, ha, ht, hw, hahead⟩ := hbehind.conflictAhead hs hsla hcall
    rw [hcall] at hfits
    have hnot := of_decide_eq_true (List.all_eq_true.mp hfits a ha)
    exact hnot ⟨ht, hw, hahead⟩

/-- **An SLA that has expired is recorded once, and blocks no recovery** that finds the record at its
    checkpoint: a workflow has at most one row, with the deadline that its activation was stored with and keeps
    for ever, and no recovery fails because of the row. -/
theorem sla_recorded_once {steps : List Step} (h : Along slaRecordFits {} steps = true) :
    (∀ t w, ((run steps).journal.slaEvents.filter fun row =>
        row.tenantId = t ∧ row.workflowId = w).length ≤ 1 ∧
      ∀ row ∈ (run steps).journal.slaEvents, row.tenantId = t → row.workflowId = w →
        ∃ a ∈ (run steps).journal.activations, a.tenantId = t ∧ a.workflowId = w ∧
          row.deadlineAt = a.slaDeadlineAt ∧
          ∀ b ∈ (run steps).journal.activations, b.tenantId = t → b.workflowId = w → b = a) ∧
    (∀ earlier later, steps = earlier ++ later →
      (run earlier).journal.activations <+: (run steps).journal.activations) ∧
    ∀ earlier step later t w, steps = earlier ++ step :: later → step.call = .recoverWorkflow t w →
      (step.exec (run earlier)).1 ≠ .raised .workflowSlaConflict := by
  refine ⟨fun t w => ?_, ?_, ?_⟩
  · obtain ⟨hj, hsla⟩ := run_slaInv h
    exact hsla.one_row hj t w
  · rintro earlier later rfl
    obtain ⟨hbefore, hafter⟩ := along_append.mp h
    rw [run_append]
    refine (runFrom_effects
      (fun _ s => (run earlier).journal.activations <+: s.journal.activations)
      (fun _ _ hp _ _ => hp) ?_ (fun _ _ _ hp => hp) (run_slaInv hbefore).1 (List.prefix_refl _) hafter).2
    intro x s s' part _ _ heffect _ hprefix
    exact hprefix.trans heffect.grows.activations
  · rintro earlier step later t w rfl hcall
    obtain ⟨hbefore, hrest⟩ := along_append.mp h
    obtain ⟨-, hfits, -⟩ := along_cons.mp hrest
    obtain ⟨hj, hsla⟩ := run_slaInv hbefore
    exact Step.no_slaConflict hj hsla hcall hfits

/-- One hour, which is the deadline of a workflow without a policy of its own. -/
def api503Overdue : Env := calm (3600 * 1000000)

/-- The workflow expires before it has collected its context, and is recovered. -/
def api503Expired : List Step :=
  [ uninterrupted (calm 0) (.intake (api503Envelope "e") api503Tenant),
    uninterrupted (calm 0) (.activateCase api503Tenant api503CaseId (revisionIdOf api503CaseId) none),
    uninterrupted api503Overdue api503Recover ]

/-- A recovery records the expiry, and the next one leaves it alone. -/
theorem sla_recorded_once_example :
    let steps := api503Expired ++ [uninterrupted api503Overdue api503Recover]
    (run steps).latestState api503Tenant api503WorkflowId = some .waitingForOperator ∧
    (run steps).journal.slaEvents.length = 1 ∧
    ∀ earlier step later t w, steps = earlier ++ step :: later → step.call = .recoverWorkflow t w →
      (step.exec (run earlier)).1 ≠ .raised .workflowSlaConflict := by
  have hfits : Along slaRecordFits {}
      (api503Expired ++ [uninterrupted api503Overdue api503Recover]) = true := by
    decide +kernel
  refine ⟨by decide +kernel, by decide +kernel, ?_⟩
  exact (sla_recorded_once hfits).2.2

/-- A PAUSE that comes after the expiry. -/
def api503PausedExpired : List Step :=
  commandSteps api503Overdue ⟨api503Tenant, api503CaseId, "pause", .pause, 1⟩ (run api503Expired)

/-- **A paused workflow whose SLA has expired is not recovered**: the record is at the checkpoint that the
    workflow was at before. -/
theorem paused_sla_conflicts :
    let steps := api503Expired ++ api503PausedExpired
    Along anyCall {} steps = true ∧
    (run steps).latestState api503Tenant api503WorkflowId = some .paused ∧
    ((uninterrupted api503Overdue api503Recover).exec (run steps)).1 = .raised .workflowSlaConflict := by
  refine ⟨?_, ?_, ?_⟩
  · exact along_append.mpr ⟨by decide +kernel, by decide +kernel⟩
  · rw [run_append]
    decide +kernel
  · rw [run_append]
    decide +kernel

end WeFlow
