import WeFlow.Kernel.Chain

/-!
# `Invariant` — what holds of every journal the kernel writes

`JournalInv` is the part of the store's invariant that every other result rests on: the Case ledger
agrees with its sources, activations are what their Case determines, and the checkpoints of each
activation form a `Chain`. Every transaction keeps it (`Effect.journalInv`).
-/

namespace WeFlow

open Txn

/-- An activation is what its Case determines. -/
structure ActivationOk (s : WorkflowStore) (a : WorkflowActivation) : Prop where
  workflowId : a.workflowId = workflowIdOf a.tenantId a.caseId a.caseRevisionId
  activationId : a.activationId = stableIdentifier ⟨a.workflowId⟩
  revision : a.caseRevisionId = revisionIdOf a.caseId
  tenant : nonEmpty a.tenantId = true
  correlation : nonEmpty a.correlationId = true
  source : ∃ e ∈ s.ledger.businessEvents, e.tenantId = a.tenantId ∧ e.eventId = a.sourceEventId ∧
    e.caseId = a.caseId ∧ e.caseRevisionId = a.caseRevisionId

/-- A stored command is well formed, and was accepted at a version its workflow has reached. -/
structure CommandOk (s : WorkflowStore) (a : WorkflowActivation) (c : WorkflowCommand) : Prop where
  valid : validateWorkflowCommand a.tenantId c.commandId = true
  payload : c.commandPayloadSha256 = c.expectedPayload a.caseId
  fingerprint : c.commandFingerprint = c.expectedFingerprint
  version : c.expectedWorkflowVersion < (s.checkpointRows a.tenantId a.workflowId).length

/-- **The journal invariant.** -/
structure JournalInv (s : WorkflowStore) : Prop where
  ledger : s.ledger.LedgerInv
  events : ∀ e ∈ s.ledger.businessEvents, e.caseRevisionId = revisionIdOf e.caseId
  revisions : ∀ r ∈ s.ledger.caseRevisions, r.caseRevisionId = revisionIdOf r.caseId
  activation : ∀ a ∈ s.journal.activations, ActivationOk s a
  distinct : Table.Distinct WorkflowActivation.clash s.journal.activations
  owned : ∀ c ∈ s.journal.checkpoints, ∃ a ∈ s.journal.activations,
    c.payload.tenantId = a.tenantId ∧ c.payload.workflowId = a.workflowId
  chain : ∀ a ∈ s.journal.activations, Chain a (s.checkpointRows a.tenantId a.workflowId)
  command : ∀ c ∈ s.journal.commands, ∃ a ∈ s.journal.activations,
    c.tenantId = a.tenantId ∧ c.workflowId = a.workflowId ∧ CommandOk s a c
  commandsDistinct : Table.Distinct WorkflowCommand.clash s.journal.commands

theorem journalInv_empty : JournalInv {} where
  ledger := LedgerStore.ledgerInv_empty
  events := fun e he => by simp at he
  revisions := fun r hr => by simp at hr
  activation := fun a ha => by simp at ha
  distinct := Table.distinct_nil _
  owned := fun c hc => by simp at hc
  chain := fun a ha => by simp at ha
  command := fun c hc => by simp at hc
  commandsDistinct := Table.distinct_nil _

namespace JournalInv

variable {s : WorkflowStore} {a b : WorkflowActivation}

/-- A workflow has one activation. -/
theorem activation_unique (h : JournalInv s) (ha : a ∈ s.journal.activations)
    (hb : b ∈ s.journal.activations) (ht : a.tenantId = b.tenantId)
    (hw : a.workflowId = b.workflowId) : a = b := by
  refine h.distinct.eq_of_clash (fun a b => ?_) ha hb (by simp [WorkflowActivation.clash, ht, hw])
  simp only [WorkflowActivation.clash, eq_comm]

/-- So has a case. -/
theorem activation_unique_case (h : JournalInv s) (ha : a ∈ s.journal.activations)
    (hb : b ∈ s.journal.activations) (ht : a.tenantId = b.tenantId) (hc : a.caseId = b.caseId) :
    a = b := by
  have hr : a.caseRevisionId = b.caseRevisionId := by
    rw [(h.activation a ha).revision, (h.activation b hb).revision, hc]
  refine h.activation_unique ha hb ht ?_
  rw [(h.activation a ha).workflowId, (h.activation b hb).workflowId, ht, hc, hr]

/-- An ordered query of a workflow's checkpoints returns them as they were inserted. -/
theorem checkpointsOf_eq (h : JournalInv s) (ha : a ∈ s.journal.activations) :
    s.checkpointsOf a.tenantId a.workflowId = s.checkpointRows a.tenantId a.workflowId :=
  (h.chain a ha).insertionSort_eq

theorem latest_eq (h : JournalInv s) (ha : a ∈ s.journal.activations) :
    s.latestCheckpoint? a.tenantId a.workflowId =
      (s.checkpointRows a.tenantId a.workflowId).getLast? := by
  rw [WorkflowStore.latestCheckpoint?, h.checkpointsOf_eq ha]

/-- The latest checkpoint's resume state fits its state. -/
theorem latest_shaped (h : JournalInv s) (ha : a ∈ s.journal.activations) {c : Checkpoint}
    (hc : s.latestCheckpoint? a.tenantId a.workflowId = some c) :
    Shaped c.payload.currentState c.payload.resumeState := by
  rw [h.latest_eq ha] at hc
  exact ((h.chain a ha).appended c (List.mem_of_getLast? hc)).2.2

theorem latest_version (h : JournalInv s) (ha : a ∈ s.journal.activations) {c : Checkpoint}
    (hc : s.latestCheckpoint? a.tenantId a.workflowId = some c) :
    c.payload.workflowVersion + 1 = (s.checkpointRows a.tenantId a.workflowId).length := by
  rw [h.latest_eq ha] at hc
  exact ((h.chain a ha).last hc).2

end JournalInv

/-! ## Every request continues the chain -/

theorem Prepares.link {x : Context} {s : WorkflowStore} {a : WorkflowActivation} {part : Part}
    {r : CheckpointRequest} (h : Prepares x s a part r) (hs : JournalInv s)
    (ha : a ∈ s.journal.activations) (hvalid : r.resumeState ≠ .paused) :
    Link a (s.latestCheckpoint? a.tenantId a.workflowId) r := by
  cases h with
  | initial none => exact ⟨fun _ => rfl, fun c hc => by simp [none] at hc, rfl⟩
  | command latest _ _ _ _ applies allowed =>
      refine ⟨fun hn => by simp [latest] at hn, fun c hc => ?_, ?_⟩
      · rw [latest, Option.some.injEq] at hc
        exact hc ▸ applies.continues allowed
      · exact applies.shaped (hs.latest_shaped ha latest) hvalid allowed

theorem Reason.link {x : Context} {s : WorkflowStore} {a : WorkflowActivation} {r : CheckpointRequest}
    (h : Reason x s a r) (hs : JournalInv s) (ha : a ∈ s.journal.activations) :
    Link a (s.latestCheckpoint? a.tenantId a.workflowId) r := by
  cases h with
  | ticketProgress latest state =>
      refine ⟨fun hn => by simp [latest] at hn, fun c hc => ?_, rfl⟩
      rw [latest, Option.some.injEq] at hc
      exact .progress rfl (hc ▸ state.symm)
  | deliveryProgress latest state =>
      refine ⟨fun hn => by simp [latest] at hn, fun c hc => ?_, rfl⟩
      rw [latest, Option.some.injEq] at hc
      exact .progress rfl (hc ▸ state.symm)
  | advance latest advance allowed =>
      refine ⟨fun hn => by simp [latest] at hn, fun c hc => ?_, ?_⟩
      · rw [latest, Option.some.injEq] at hc
        exact hc ▸ advance.continues allowed
      · exact advance.shaped (hs.latest_shaped ha latest)

/-! ## Preservation -/

/-- Rows of the ledger that the journal refers to stay. -/
theorem ActivationOk.mono {s s' : WorkflowStore} {a : WorkflowActivation} (h : ActivationOk s a)
    (hl : s.ledger.businessEvents ⊆ s'.ledger.businessEvents) : ActivationOk s' a :=
  { h with
    source := by
      obtain ⟨e, he, hkey⟩ := h.source
      exact ⟨e, hl he, hkey⟩ }

theorem CommandOk.mono {s s' : WorkflowStore} {a : WorkflowActivation} {c : WorkflowCommand}
    (h : CommandOk s a c) (hg : (s.checkpointRows a.tenantId a.workflowId).length ≤
      (s'.checkpointRows a.tenantId a.workflowId).length) : CommandOk s' a c :=
  { h with version := h.version.trans_le hg }

/-- A change of the ledger that keeps what the journal refers to. -/
theorem JournalInv.of_ledger {s : WorkflowStore} {ledger : LedgerStore} (h : JournalInv s)
    (hledger : ledger.LedgerInv)
    (hevents : ∀ e ∈ ledger.businessEvents, e.caseRevisionId = revisionIdOf e.caseId)
    (hrevisions : ∀ r ∈ ledger.caseRevisions, r.caseRevisionId = revisionIdOf r.caseId)
    (hgrows : s.ledger.businessEvents ⊆ ledger.businessEvents) :
    JournalInv { s with ledger } :=
  { h with
    ledger := hledger
    events := hevents
    revisions := hrevisions
    activation := fun a ha => (h.activation a ha).mono hgrows
    command := fun c hc => by
      obtain ⟨a, ha, ht, hw, hok⟩ := h.command c hc
      exact ⟨a, ha, ht, hw, hok.mono le_rfl⟩ }

theorem LedgerStore.Accepted.journalInv {s : WorkflowStore} {now : Instant} {p : IntakePayload}
    {t : String} {ledger : LedgerStore} (h : LedgerStore.Accepted now p t s.ledger ledger)
    (hs : JournalInv s) : JournalInv { s with ledger } := by
  refine hs.of_ledger (h.inv hs.ledger) ?_ ?_ ?_
  · intro e he
    rw [h.businessEvents] at he
    rcases List.mem_append.mp he with he | he
    · exact hs.events e he
    · simp only [newEvents, initialEvents, List.mem_cons, List.not_mem_nil, or_false] at he
      rcases he with rfl | rfl | rfl <;> rfl
  · intro r hr
    rw [h.caseRevisions] at hr
    rcases List.mem_append.mp hr with hr | hr
    · exact hs.revisions r hr
    · rw [List.mem_singleton.mp hr]
      rfl
  · rw [h.businessEvents]
    exact List.subset_append_left _ _

theorem LedgerStore.Appended.journalInv {s : WorkflowStore} {e : WorkflowStateEvent}
    {ledger : LedgerStore} (h : LedgerStore.Appended e s.ledger ledger) (hs : JournalInv s) :
    JournalInv { s with ledger } := by
  refine hs.of_ledger (h.inv hs.ledger) ?_ ?_ ?_
  · intro y hy
    rw [h.stored] at hy
    rcases List.mem_append.mp hy with hy | hy
    · exact hs.events y hy
    · rw [List.mem_singleton.mp hy]
      obtain ⟨r, hr, hid⟩ := h.revision
      have hkey := List.mem_filter.mp hr
      simp only [decide_eq_true_eq] at hkey
      have hown := hs.revisions r hkey.1
      rw [hid, hkey.2.2] at hown
      exact hown
  · intro r hr
    rw [h.stored] at hr
    exact hs.revisions r hr
  · rw [h.stored]
    exact List.subset_append_left _ _

theorem CheckpointOk.journalInv {x : Context} {s : WorkflowStore} {a : WorkflowActivation}
    {r : CheckpointRequest} (h : CheckpointOk x s a r) (hs : JournalInv s)
    (hlink : Link a (s.latestCheckpoint? a.tenantId a.workflowId) r) :
    JournalInv (s.withCheckpoint x.env a r) := by
  have hlen : ∀ b : WorkflowActivation, (s.checkpointRows b.tenantId b.workflowId).length ≤
      ((s.withCheckpoint x.env a r).checkpointRows b.tenantId b.workflowId).length := by
    intro b
    by_cases hb : a.tenantId = b.tenantId ∧ a.workflowId = b.workflowId
    · rw [← hb.1, ← hb.2, WorkflowStore.checkpointRows_withCheckpoint]
      simp
    · rw [WorkflowStore.checkpointRows_other hb]
  refine { hs with owned := ?_, chain := ?_, command := ?_, activation := ?_ }
  · exact fun b hb => (hs.activation b hb).mono fun e he => he
  · intro c hc
    rcases List.mem_append.mp hc with hc | hc
    · exact hs.owned c hc
    · rw [List.mem_singleton.mp hc]
      exact ⟨a, h.mem, rfl, rfl⟩
  · intro b hb
    by_cases hab : a.tenantId = b.tenantId ∧ a.workflowId = b.workflowId
    · obtain rfl := hs.activation_unique h.mem hb hab.1 hab.2
      have hlatest := hs.latest_eq h.mem
      have hvalid := h.valid
      rw [WorkflowStore.checkpointRows_withCheckpoint]
      unfold WorkflowStore.checkpointFor at hvalid ⊢
      rw [hlatest] at hlink hvalid ⊢
      exact (hs.chain a h.mem).snoc hlink hvalid h.disjoint
    · rw [WorkflowStore.checkpointRows_other hab]
      exact hs.chain b hb
  · intro c hc
    obtain ⟨b, hb, ht, hw, hok⟩ := hs.command c hc
    exact ⟨b, hb, ht, hw, hok.mono (hlen b)⟩

theorem PrepareStep.journalInv {x : Context} {s s' : WorkflowStore} {part : Part}
    (h : PrepareStep x s part s') (hs : JournalInv s) : JournalInv s' := by
  cases h with
  | rebuildCase rebuilt =>
      rw [hs.ledger.rebuild, Except.ok.injEq] at rebuilt
      exact rebuilt ▸ hs
  | rebuildWorkflow rebuilt =>
      obtain ⟨rows, _, rfl⟩ := WorkflowStore.rebuildWorkflowProjection_eq_ok rebuilt
      exact { hs with
        activation := fun a ha => (hs.activation a ha).mono fun e he => he
        command := fun c hc => by
          obtain ⟨a, ha, ht, hw, hok⟩ := hs.command c hc
          exact ⟨a, ha, ht, hw, hok.mono le_rfl⟩ }
  | caseEvent _ _ _ _ _ _ appended => exact appended.journalInv hs
  | checkpoint reason ok =>
      refine ok.journalInv hs (reason.link hs ok.mem ?_)
      have hvalid := ok.valid
      simp only [validateWorkflowCheckpoint, decide_eq_true_eq] at hvalid
      exact hvalid.2.2.1

theorem newActivation_ok {s : WorkflowStore} {env : Env} {projection : CaseProjection}
    {revision : CaseRevision} {event : BusinessEvent} {policy : SlaPolicy} (hs : JournalInv s)
    (hvalid : validateCaseProjection projection = true)
    (hrev : revision ∈ s.ledger.revisionsOf projection.tenantId projection.caseId)
    (hevent : event ∈ s.ledger.eventRows projection.tenantId projection.caseId) :
    ActivationOk s
      (newActivation env projection revision.caseRevisionId event.eventId policy) := by
  have hr := List.mem_filter.mp hrev
  have he := List.mem_filter.mp hevent
  simp only [decide_eq_true_eq] at hr he
  have hrevision : revision.caseRevisionId = revisionIdOf projection.caseId := by
    rw [hs.revisions revision hr.1, hr.2.2]
  simp only [validateCaseProjection, decide_eq_true_eq] at hvalid
  refine ⟨rfl, rfl, hrevision, hvalid.1, hvalid.2.2.2.2.1, event, he.1, he.2.1, rfl, he.2.2, ?_⟩
  rw [hs.events event he.1, he.2.2]
  exact hrevision.symm

/-- **Every transaction keeps the journal invariant.** -/
theorem Effect.journalInv {x : Context} {s s' : WorkflowStore} {part : Part}
    (h : Effect x s part s') (hs : JournalInv s) : JournalInv s' := by
  have hframe : ∀ s'' : WorkflowStore, s''.ledger = s.ledger → s''.journal = s.journal →
      JournalInv s'' := by
    intro s'' hl hj
    obtain ⟨ledger, journal, _, _, _, _, _⟩ := s''
    subst hl hj
    exact { hs with
      activation := fun a ha => (hs.activation a ha).mono fun e he => he
      command := fun c hc => by
        obtain ⟨a, ha, ht, hw, hok⟩ := hs.command c hc
        exact ⟨a, ha, ht, hw, hok.mono le_rfl⟩ }
  cases h with
  | prepare step => exact step.journalInv hs
  | intake accepted => exact accepted.journalInv hs
  | @activate projection revision event policy a run _ valid _ revised sourced built new fresh =>
      have hok : ActivationOk s a := built ▸ newActivation_ok hs valid revised sourced
      refine
        { hs with
          activation := ?_
          distinct := hs.distinct.append_one fresh
          owned := ?_
          chain := ?_
          command := ?_ }
      · intro b hb
        rcases List.mem_append.mp hb with hb | hb
        · exact (hs.activation b hb).mono fun e he => he
        · rw [List.mem_singleton.mp hb]
          exact hok.mono fun e he => he
      · intro c hc
        obtain ⟨b, hb, hkey⟩ := hs.owned c hc
        exact ⟨b, List.mem_append_left _ hb, hkey⟩
      · intro b hb
        rcases List.mem_append.mp hb with hb | hb
        · exact hs.chain b hb
        · -- a new workflow has no checkpoints, for each belongs to an activation
          have hnone : s.checkpointRows b.tenantId b.workflowId = [] := by
            refine List.filter_eq_nil_iff.mpr fun c hc hkey => ?_
            obtain ⟨b', hb', ht, hw⟩ := hs.owned c hc
            simp only [decide_eq_true_eq] at hkey
            have hclash := fresh b' hb'
            rw [List.mem_singleton.mp hb] at hkey
            simp [WorkflowActivation.clash, ← ht, ← hw, hkey.1, hkey.2] at hclash
          show Chain b (s.checkpointRows b.tenantId b.workflowId)
          rw [hnone]
          exact .nil
      · intro c hc
        obtain ⟨b, hb, ht, hw, hc⟩ := hs.command c hc
        exact ⟨b, List.mem_append_left _ hb, ht, hw, hc.mono le_rfl⟩
  | checkpoint reason ok _ => exact ok.journalInv hs (reason.link hs ok.mem)
  | slaEvent =>
      exact { hs with
        activation := fun a ha => (hs.activation a ha).mono fun e he => he
        command := fun c hc => by
          obtain ⟨a, ha, ht, hw, hok⟩ := hs.command c hc
          exact ⟨a, ha, ht, hw, hok.mono le_rfl⟩ }
  | @submission a _ submission _ command _ _ mem built owner valid new version _ =>
      refine
        { hs with
          activation := fun a ha => (hs.activation a ha).mono fun e he => he
          command := ?_
          commandsDistinct := hs.commandsDistinct.append_one new }
      intro c hc
      rcases List.mem_append.mp hc with hc | hc
      · obtain ⟨b, hb, ht, hw, hok⟩ := hs.command c hc
        exact ⟨b, hb, ht, hw, hok.mono le_rfl⟩
      · rw [List.mem_singleton.mp hc, built]
        obtain ⟨latest, hlatest, heq⟩ := (Option.any_eq_true _ _).mp version
        have hversion := hs.latest_version mem hlatest
        simp only [decide_eq_true_eq] at heq
        refine ⟨a, mem, owner.1, rfl, owner.1 ▸ valid, ?_, rfl, ?_⟩
        · simp [newCommand, WorkflowCommand.expectedPayload, owner.2]
        · show submission.expectedWorkflowVersion < (s.checkpointRows a.tenantId a.workflowId).length
          omega
  | ticket => exact hframe _ rfl rfl
  | investigation => exact hframe _ rfl rfl
  | policy => exact hframe _ rfl rfl
  | delivery => exact hframe _ rfl rfl

end WeFlow
