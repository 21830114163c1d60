import WeFlow.Kernel.Safety.Program

/-!
# `Exactly` — ticket effects take place once

The two effects of a workflow on the ticket store are found again by their idempotency keys, whatever was lost
of the calls that caused them. A ticket's history is its creation and one handoff: a second handoff would need
a second intent of the same case, or find its operation stored.

## Contents

* `IntentOf`, `TicketHistory`, `TicketInv` — the invariant of the ticket tables.
* `executedRevision_cases`, `TicketStep.ticketInv` — what an execution adds.
* `CheckpointPayload.Visits` — a checkpoint in a state, or on its way back to it.
* `ticket_effects_once` — the result.
-/

namespace WeFlow

open Txn

variable {x : Context} {s s' : WorkflowStore} {a : WorkflowActivation} {part : Part}

/-! ## The ticket tables -/

/-- An intent is what its activation determines. -/
structure IntentOf (a : WorkflowActivation) (i : SideEffectIntent) : Prop where
  tenant : i.tenantId = a.tenantId
  workflow : i.workflowId = a.workflowId
  naturalKey : i.naturalKey = a.naturalKey
  idempotencyKey : i.idempotencyKey =
    sha256 ⟨a.tenantId, i.operation, a.naturalKey, sha256 ⟨a.workflowId, i.operation⟩⟩
  intentId : i.intentId = stableIdentifier ⟨a.workflowId, i.operation, i.idempotencyKey⟩

theorem intentOf_newIntent {env : Env} {checkpointId : CheckpointId} {operation : TicketOperation} :
    IntentOf a (newIntent env a checkpointId operation) := ⟨rfl, rfl, rfl, rfl, rfl⟩

/-- **The history of a ticket**: nothing, its creation, or its creation and one handoff. -/
inductive TicketHistory : List TicketRevision → Prop
  | absent : TicketHistory []
  | created {r : TicketRevision} (version : r.version = 1) (operation : r.operation = .findOrCreate) :
      TicketHistory [r]
  | handedOff {r r' : TicketRevision} (version : r.version = 1) (operation : r.operation = .findOrCreate)
      (ticket : r'.ticketId = r.ticketId) (version' : r'.version = 2)
      (operation' : r'.operation = .workflowHandoff) : TicketHistory [r, r']

namespace WorkflowStore

/-- The revisions under a natural key, as they were inserted. -/
def ticketRevisionsOf (s : WorkflowStore) (t : String) (k : TicketNaturalKey) : List TicketRevision :=
  s.ticket.revisions.filter fun r => r.tenantId = t ∧ r.naturalKey = k

/-- The operation of an intent has taken place. -/
def Operated (s : WorkflowStore) (i : SideEffectIntent) : Prop :=
  ∃ o ∈ s.ticket.operations, o.tenantId = i.tenantId ∧ o.idempotencyKey = i.idempotencyKey

theorem ticketOperation?_eq_none {i : SideEffectIntent} :
    s.ticketOperation? i.tenantId i.idempotencyKey = none ↔ ¬ s.Operated i := by
  unfold ticketOperation? Operated
  simp

theorem latestTicket?_eq_none {t : String} {k : TicketNaturalKey} :
    s.latestTicket? t k = none ↔ s.ticketRevisionsOf t k = [] := by
  unfold latestTicket? ticketRevisionsOf
  rw [List.head?_eq_none_iff, ← List.length_eq_zero_iff, List.length_insertionSort,
    List.length_eq_zero_iff]

end WorkflowStore

/-- **The invariant of the ticket tables.** -/
structure TicketInv (s : WorkflowStore) : Prop where
  intents : Table.Distinct SideEffectIntent.clash s.ticket.intents
  operations : Table.Distinct TicketOperationRow.clash s.ticket.operations
  completions : Table.Distinct SideEffectCompletion.clash s.ticket.completions
  intent : ∀ i ∈ s.ticket.intents, ∃ a ∈ s.journal.activations, IntentOf a i
  operation : ∀ o ∈ s.ticket.operations, ∃ i ∈ s.ticket.intents, o.tenantId = i.tenantId ∧
    o.idempotencyKey = i.idempotencyKey
  completion : ∀ d ∈ s.ticket.completions, ∃ i ∈ s.ticket.intents, d.tenantId = i.tenantId ∧
    d.intentId = i.intentId ∧ d.workflowId = i.workflowId
  history : ∀ t k, TicketHistory (s.ticketRevisionsOf t k)
  handedOff : ∀ r ∈ s.ticket.revisions, r.operation = .workflowHandoff → ∃ i ∈ s.ticket.intents,
    i.operation = .workflowHandoff ∧ i.tenantId = r.tenantId ∧ i.naturalKey = r.naturalKey ∧ s.Operated i

theorem ticketInv_empty : TicketInv {} where
  intents := Table.distinct_nil _
  operations := Table.distinct_nil _
  completions := Table.distinct_nil _
  intent := fun i hi => by simp at hi
  operation := fun o ho => by simp at ho
  completion := fun d hd => by simp at hd
  history := fun t k => .absent
  handedOff := fun r hr => by simp at hr

theorem SideEffectIntent.clash_comm (i j : SideEffectIntent) : i.clash j = j.clash i := by
  simp only [SideEffectIntent.clash, eq_comm]

/-- **A case has one intent for an operation.** -/
theorem TicketInv.intent_unique (hs : TicketInv s) (hj : JournalInv s) {i j : SideEffectIntent}
    (hi : i ∈ s.ticket.intents) (hjm : j ∈ s.ticket.intents) (ht : i.tenantId = j.tenantId)
    (hk : i.naturalKey = j.naturalKey) (hop : i.operation = j.operation) : i = j := by
  obtain ⟨a, ha, hia⟩ := hs.intent i hi
  obtain ⟨b, hb, hjb⟩ := hs.intent j hjm
  -- the natural key names the case, and a case has one workflow
  have hkey : a.naturalKey = b.naturalKey := by rw [← hia.naturalKey, ← hjb.naturalKey, hk]
  have hcase : a.caseId = b.caseId := congrArg TicketNaturalKey.caseId hkey
  have htenant : a.tenantId = b.tenantId := by rw [← hia.tenant, ← hjb.tenant, ht]
  obtain rfl : a = b := hj.activation_unique_case ha hb htenant hcase
  have hclash : i.clash j = true := by
    refine decide_eq_true ⟨ht, Or.inr (Or.inr ⟨?_, hop⟩)⟩
    rw [hia.workflow, hjb.workflow]
  exact hs.intents.eq_of_clash SideEffectIntent.clash_comm hi hjm hclash

/-! ## One execution -/

/-- What an execution adds to the revisions. -/
theorem executedRevision_cases {env : Env} {i : SideEffectIntent} {r : TicketRevision}
    {revisions : List TicketRevision} (h : executedRevision env i s = .ok (some (r, revisions))) :
    revisions = s.ticket.revisions ∨
    (i.operation = .findOrCreate ∧ s.ticketRevisionsOf i.tenantId i.naturalKey = [] ∧
      revisions = s.ticket.revisions ++ [firstRevision env i]) ∨
    (i.operation = .workflowHandoff ∧ ∃ latest,
      s.latestTicket? i.tenantId i.naturalKey = some latest ∧
      revisions = s.ticket.revisions ++ [handoffRevision env i latest]) := by
  unfold executedRevision at h
  dsimp only at h
  cases hop : i.operation with
  | findOrCreate =>
      rw [hop] at h
      cases hlatest : s.latestTicket? i.tenantId i.naturalKey with
      | some latest =>
          rw [hlatest] at h
          simp only [Except.ok.injEq, Option.some.injEq, Prod.mk.injEq] at h
          exact Or.inl h.2.symm
      | none =>
          rw [hlatest] at h
          simp only [fetch_bind_eq_ok, Table.insert?_eq_some, pure, Except.pure, Except.ok.injEq,
            Option.some.injEq, Prod.mk.injEq] at h
          obtain ⟨inserted, ⟨-, rfl⟩, -, rfl⟩ := h
          exact Or.inr (Or.inl ⟨rfl, WorkflowStore.latestTicket?_eq_none.mp hlatest, rfl⟩)
  | workflowHandoff =>
      rw [hop] at h
      cases hlatest : s.latestTicket? i.tenantId i.naturalKey with
      | none =>
          rw [hlatest] at h
          simp at h
      | some latest =>
          rw [hlatest] at h
          cases hexpected : s.expectedHandoffVersion i with
          | none =>
              rw [hexpected] at h
              simp at h
          | some expected =>
              rw [hexpected] at h
              by_cases hversion : latest.version = expected
              · simp only [if_pos hversion, fetch_bind_eq_ok, Table.insert?_eq_some, pure, Except.pure,
                  Except.ok.injEq, Option.some.injEq, Prod.mk.injEq] at h
                obtain ⟨inserted, ⟨-, rfl⟩, -, rfl⟩ := h
                exact Or.inr (Or.inr ⟨rfl, latest, rfl, rfl⟩)
              · simp [if_neg hversion] at h

/-- A history that has no handoff is continued by one. -/
theorem TicketHistory.handOff {env : Env} {i : SideEffectIntent} {latest : TicketRevision}
    (h : TicketHistory (s.ticketRevisionsOf i.tenantId i.naturalKey))
    (hlatest : s.latestTicket? i.tenantId i.naturalKey = some latest)
    (hnone : ∀ r ∈ s.ticketRevisionsOf i.tenantId i.naturalKey, r.operation ≠ .workflowHandoff) :
    TicketHistory (s.ticketRevisionsOf i.tenantId i.naturalKey ++ [handoffRevision env i latest]) := by
  generalize hrows : s.ticketRevisionsOf i.tenantId i.naturalKey = rows at h hnone
  cases h with
  | absent => exact absurd (hlatest.symm.trans (WorkflowStore.latestTicket?_eq_none.mpr hrows)) nofun
  | @created r version operation =>
      have heq : latest = r := by
        unfold WorkflowStore.latestTicket? at hlatest
        unfold WorkflowStore.ticketRevisionsOf at hrows
        rw [hrows] at hlatest
        simpa using hlatest.symm
      subst heq
      refine .handedOff version operation rfl ?_ rfl
      show latest.version + 1 = 2
      omega
  | handedOff _ _ _ _ operation' => exact absurd operation' (hnone _ (by simp))

/-- **An execution keeps the invariant**: it takes place once, so its ticket has not been handed off before. -/
theorem TicketInv.execute (hs : TicketInv s) (hj : JournalInv s) {env : Env} {i : SideEffectIntent}
    {revisions : List TicketRevision} {o : TicketOperationRow} (mem : i ∈ s.ticket.intents)
    (new : ¬ s.Operated i)
    (executed : revisions = s.ticket.revisions ∨
      (i.operation = .findOrCreate ∧ s.ticketRevisionsOf i.tenantId i.naturalKey = [] ∧
        revisions = s.ticket.revisions ++ [firstRevision env i]) ∨
      (i.operation = .workflowHandoff ∧ ∃ latest,
        s.latestTicket? i.tenantId i.naturalKey = some latest ∧
        revisions = s.ticket.revisions ++ [handoffRevision env i latest]))
    (owner : o.tenantId = i.tenantId ∧ o.idempotencyKey = i.idempotencyKey)
    (fresh : ∀ p ∈ s.ticket.operations, o.clash p = false) :
    TicketInv
      { s with ticket := { s.ticket with revisions, operations := s.ticket.operations ++ [o] } } := by
  have hkeep : ∀ j, s.Operated j → ∃ p ∈ s.ticket.operations ++ [o], p.tenantId = j.tenantId ∧
      p.idempotencyKey = j.idempotencyKey := by
    rintro j ⟨p, hp, hkey⟩
    exact ⟨p, List.mem_append_left _ hp, hkey⟩
  have hold : ∀ q ∈ s.ticket.revisions, q.operation = .workflowHandoff → ∃ j ∈ s.ticket.intents,
      j.operation = .workflowHandoff ∧ j.tenantId = q.tenantId ∧ j.naturalKey = q.naturalKey ∧
      ∃ p ∈ s.ticket.operations ++ [o], p.tenantId = j.tenantId ∧ p.idempotencyKey = j.idempotencyKey := by
    intro q hq hqop
    obtain ⟨j, hjmem, hjop, hjt, hjk, hoperated⟩ := hs.handedOff q hq hqop
    exact ⟨j, hjmem, hjop, hjt, hjk, hkeep j hoperated⟩
  -- its case has no other handoff than this one
  have hnohandoff : ∀ q ∈ s.ticketRevisionsOf i.tenantId i.naturalKey, i.operation = .workflowHandoff →
      q.operation ≠ .workflowHandoff := by
    intro q hq hop hqop
    obtain ⟨hqmem, hqkey⟩ := List.mem_filter.mp hq
    rw [decide_eq_true_eq] at hqkey
    obtain ⟨j, hjmem, hjop, hjt, hjk, hoperated⟩ := hs.handedOff q hqmem hqop
    obtain rfl : j = i := hs.intent_unique hj hjmem mem (hjt.trans hqkey.1) (hjk.trans hqkey.2)
      (hjop.trans hop.symm)
    exact new hoperated
  refine { hs with operations := hs.operations.append_one fresh, operation := ?_, history := ?_,
                   handedOff := ?_ }
  · intro p hp
    rcases List.mem_append.mp hp with hp | hp
    · exact hs.operation p hp
    · rw [List.mem_singleton.mp hp]
      exact ⟨i, mem, owner⟩
  · intro t k
    show TicketHistory (revisions.filter fun r => decide (r.tenantId = t ∧ r.naturalKey = k))
    rcases executed with rfl | ⟨hop, hnone, rfl⟩ | ⟨hop, latest, hlatest, rfl⟩
    · exact hs.history t k
    · by_cases hkey : i.tenantId = t ∧ i.naturalKey = k
      · obtain ⟨rfl, rfl⟩ := hkey
        have hempty : s.ticket.revisions.filter
            (fun r => decide (r.tenantId = i.tenantId ∧ r.naturalKey = i.naturalKey)) = [] := hnone
        have hfirst : [firstRevision env i].filter
            (fun r => decide (r.tenantId = i.tenantId ∧ r.naturalKey = i.naturalKey)) =
            [firstRevision env i] := by
          simp [firstRevision]
        rw [List.filter_append, hempty, List.nil_append, hfirst]
        exact .created rfl rfl
      · rw [Table.filter_append_other fun r hr => ?_]
        · exact hs.history t k
        · rw [List.mem_singleton.mp hr]
          exact decide_eq_false hkey
    · by_cases hkey : i.tenantId = t ∧ i.naturalKey = k
      · obtain ⟨rfl, rfl⟩ := hkey
        have hnext : [handoffRevision env i latest].filter
            (fun r => decide (r.tenantId = i.tenantId ∧ r.naturalKey = i.naturalKey)) =
            [handoffRevision env i latest] := by
          simp [handoffRevision]
        rw [List.filter_append, hnext]
        exact (hs.history i.tenantId i.naturalKey).handOff hlatest fun q hq => hnohandoff q hq hop
      · rw [Table.filter_append_other fun r hr => ?_]
        · exact hs.history t k
        · rw [List.mem_singleton.mp hr]
          exact decide_eq_false hkey
  · intro q hq hqop
    rcases executed with rfl | ⟨-, -, rfl⟩ | ⟨hop, latest, -, rfl⟩
    · exact hold q hq hqop
    · rcases List.mem_append.mp hq with hq | hq
      · exact hold q hq hqop
      · rw [List.mem_singleton.mp hq] at hqop
        cases hqop
    · rcases List.mem_append.mp hq with hq | hq
      · exact hold q hq hqop
      · rw [List.mem_singleton.mp hq]
        exact ⟨i, mem, hop, rfl, rfl, o, List.mem_append_right _ (List.mem_singleton_self _), owner⟩

/-- **Every transaction on the ticket tables keeps their invariant.** -/
theorem TicketStep.ticketInv {ticket : TicketTables} (h : TicketStep x s ticket) (hj : JournalInv s)
    (hs : TicketInv s) : TicketInv { s with ticket } := by
  cases h with
  | @intent a c operation mem about latest state prior valid new fresh =>
      have hmono : ∀ i ∈ s.ticket.intents, i ∈ s.ticket.intents ++
          [newIntent x.env a c.payload.checkpointId operation] := fun i hi => List.mem_append_left _ hi
      refine { hs with intents := hs.intents.append_one fresh, intent := ?_, operation := ?_,
                       completion := ?_, handedOff := ?_ }
      · intro i hi
        rcases List.mem_append.mp hi with hi | hi
        · exact hs.intent i hi
        · rw [List.mem_singleton.mp hi]
          exact ⟨a, mem, intentOf_newIntent⟩
      · intro o ho
        obtain ⟨i, hi, hrest⟩ := hs.operation o ho
        exact ⟨i, hmono i hi, hrest⟩
      · intro d hd
        obtain ⟨i, hi, hrest⟩ := hs.completion d hd
        exact ⟨i, hmono i hi, hrest⟩
      · intro r hr hop
        obtain ⟨i, hi, hrest⟩ := hs.handedOff r hr hop
        exact ⟨i, hmono i hi, hrest⟩
  | execute mem incomplete new executed fresh =>
      exact hs.execute hj mem (WorkflowStore.ticketOperation?_eq_none.mp new)
        (executedRevision_cases executed) ⟨rfl, rfl⟩ fresh
  | observe => exact { hs with }
  | @complete i o d mem incomplete observed owner built valid fresh =>
      refine { hs with completions := hs.completions.append_one fresh, completion := ?_ }
      intro e he
      rcases List.mem_append.mp he with he | he
      · exact hs.completion e he
      · rw [List.mem_singleton.mp he]
        refine ⟨i, mem, ?_⟩
        unfold newCompletion at built
        split at built
        · rw [← Option.some.inj built]
          exact ⟨rfl, rfl, rfl⟩
        · cases built

theorem Effect.ticketInv (h : Effect x s part s') (hj : JournalInv s) (hs : TicketInv s) :
    TicketInv s' := by
  have hactivations := h.grows.activations
  by_cases hpart : part = .ticket
  · cases h with
    | ticket step => exact step.ticketInv hj hs
    | prepare step => exact absurd hpart step.not_part.2.2.1
    | _ => exact absurd hpart nofun
  · have hticket := h.ticket_eq hpart
    have hread : ∀ s s' : WorkflowStore, s'.ticket = s.ticket →
        s.journal.activations <+: s'.journal.activations → TicketInv s → TicketInv s' := by
      rintro ⟨_, _, _, _, _, _, _⟩ ⟨_, _, _, _, _, _, _⟩ rfl hgrows hs
      refine { hs with intent := fun i hi => ?_ }
      obtain ⟨a, ha, hof⟩ := hs.intent i hi
      exact ⟨a, hgrows.subset ha, hof⟩
    exact hread s s' hticket hactivations hs

/-! ## A ticket that is ready -/

/-- The checkpoint is in a state, or on its way back to it. -/
def CheckpointPayload.Visits (c : CheckpointPayload) (state : WorkflowState) : Prop :=
  c.currentState = state ∨ c.resumeState = state

/-- The states that only their own transitions lead to. -/
def WorkflowState.entered : WorkflowState → Bool
  | .paused | .needsReconciliation | .cancelled => false
  | _ => true

/-- **A command leads nowhere new**, but to PAUSED, CANCELLED and a reconciliation. -/
theorem Applies.visits {c : CheckpointPayload} {command : WorkflowCommand} {r : TransitionRequest}
    {state : WorkflowState} (h : Applies s a c command r) (hentered : state.entered = true)
    (hr : r.nextState = state ∨ r.resumeState = state) : c.Visits state := by
  cases h with
  | pause =>
      rcases hr with hr | hr
      · rw [← hr] at hentered
        cases hentered
      · exact Or.inl hr
  | resume => exact Or.inr (hr.elim id id)
  | cancel =>
      rcases hr with hr | hr <;> · rw [← hr] at hentered; cases hentered
  | absorb =>
      rcases hr with hr | hr
      · rw [← hr] at hentered
        cases hentered
      · exact Or.inl hr

/-- Both ticket effects of a workflow are completed. -/
def WorkflowStore.TicketDone (s : WorkflowStore) (t : String) (w : WorkflowId) : Prop :=
  ∀ operation, ∃ i ∈ s.ticket.intents, i.tenantId = t ∧ i.workflowId = w ∧ i.operation = operation ∧
    ∃ d ∈ s.ticket.completions, d.tenantId = i.tenantId ∧ d.intentId = i.intentId

theorem WorkflowStore.TicketDone.mono {t : String} {w : WorkflowId} (h : s.TicketDone t w)
    (hg : Grows s s') : s'.TicketDone t w := by
  intro operation
  obtain ⟨i, hi, ht, hw, hop, d, hd, hkey⟩ := h operation
  exact ⟨i, hg.intents.subset hi, ht, hw, hop, d, hg.completions.subset hd, hkey⟩

/-- **A transition to TICKET_READY** comes from there, or follows both completions. -/
theorem Advance.ticketDone {c : Checkpoint} {r : TransitionRequest} (h : Advance x s a c r)
    (hr : r.nextState = .ticketReady ∨ r.resumeState = .ticketReady) :
    c.payload.Visits .ticketReady ∨ s.TicketDone a.tenantId a.workflowId := by
  cases h with
  | ticketReady find handoff =>
      right
      intro operation
      cases operation with
      | findOrCreate => exact find
      | workflowHandoff => exact handoff
  | reconcile => exact Or.inl (Or.inl (hr.resolve_left nofun))
  | reconciled => exact Or.inl (Or.inr (hr.elim id id))
  | deliveryReconciled => exact Or.inl (Or.inr (hr.elim id id))
  | _ => exact hr.elim nofun nofun

/-- Every checkpoint in TICKET_READY, or on its way back to it, is one of a workflow whose ticket effects are
    completed. -/
def TicketReadyInv (s : WorkflowStore) : Prop :=
  ∀ c ∈ s.journal.checkpoints, c.payload.Visits .ticketReady →
    s.TicketDone c.payload.tenantId c.payload.workflowId

theorem TicketReadyInv.latest {c : Checkpoint} (hs : TicketReadyInv s)
    (hlatest : s.latestCheckpoint? a.tenantId a.workflowId = some c) (hc : c.payload.Visits .ticketReady) :
    s.TicketDone a.tenantId a.workflowId := by
  obtain ⟨hmem, ht, hw⟩ := WorkflowStore.latestCheckpoint?_mem hlatest
  have hdone := hs c hmem hc
  rwa [ht, hw] at hdone

/-- **Every transaction keeps it.** -/
theorem Effect.ticketReadyInv (h : Effect x s part s') (hs : TicketReadyInv s) : TicketReadyInv s' := by
  have hgrows := h.grows
  have hkept : ∀ c ∈ s.journal.checkpoints, c.payload.Visits .ticketReady →
      s'.TicketDone c.payload.tenantId c.payload.workflowId :=
    fun c hc hvisits => (hs c hc hvisits).mono hgrows
  have hnew : ∀ {a : WorkflowActivation} {r : CheckpointRequest},
      (r.currentState = .ticketReady ∨ r.resumeState = .ticketReady → s.TicketDone a.tenantId a.workflowId) →
      TicketReadyInv (s.withCheckpoint x.env a r) := by
    intro a r hdone c hc hvisits
    rcases List.mem_append.mp hc with hc | hc
    · exact hs c hc hvisits
    · rw [List.mem_singleton.mp hc] at hvisits ⊢
      exact hdone hvisits
  cases h with
  | checkpoint reason =>
      refine hnew fun hr => ?_
      cases reason with
      | ticketProgress => exact hr.elim nofun nofun
      | deliveryProgress => exact hr.elim nofun nofun
      | advance latest advance =>
          exact (advance.ticketDone hr).elim (hs.latest latest) id
  | prepare step =>
      cases step with
      | checkpoint reason =>
          refine hnew fun hr => ?_
          cases reason with
          | initial => exact hr.elim nofun nofun
          | command latest _ _ _ _ applies => exact hs.latest latest (applies.visits rfl hr)
      | rebuildWorkflow rebuilt =>
          obtain ⟨rows, _, rfl⟩ := WorkflowStore.rebuildWorkflowProjection_eq_ok rebuilt
          exact hkept
      | rebuildCase => exact hkept
      | caseEvent => exact hkept
  | _ => exact hkept

/-! ## Along every run -/

theorem run_ticketInv {cond : Env → Call → WorkflowStore → Bool} {steps : List Step}
    (h : Along cond {} steps = true) :
    JournalInv (run steps) ∧ TicketInv (run steps) ∧ TicketReadyInv (run steps) :=
  run_effects (fun _ s => TicketInv s ∧ TicketReadyInv s) (fun _ _ hinv _ _ => hinv)
    (fun _ _ _ _ _ _ heffect hj hinv => ⟨heffect.ticketInv hj hinv.1, heffect.ticketReadyInv hinv.2⟩)
    (fun _ _ _ hinv => hinv) ⟨ticketInv_empty, fun c hc => by simp at hc⟩ h

/-- **Ticket effects take place once**, in every run: the revisions under a natural key are of one ticket, its
    creation and then at most one handoff; an idempotency key has one operation at most and an intent one
    completion; and a workflow is TICKET_READY only when both its effects are completed. -/
theorem ticket_effects_once {steps : List Step} (h : Along anyCall {} steps = true) :
    (∀ t k, TicketHistory ((run steps).ticketRevisionsOf t k)) ∧
    (∀ key, ((run steps).ticket.operations.filter (·.idempotencyKey = key)).length ≤ 1) ∧
    (∀ id, ((run steps).ticket.completions.filter (·.intentId = id)).length ≤ 1) ∧
    ∀ c ∈ (run steps).journal.checkpoints, c.payload.currentState = .ticketReady →
      (run steps).TicketDone c.payload.tenantId c.payload.workflowId := by
  obtain ⟨-, hs, hready⟩ := run_ticketInv h
  refine ⟨hs.history, fun key => ?_, fun id => ?_, fun c hc hstate => hready c hc (Or.inl hstate)⟩
  · -- the key names the tenant of its intent
    refine hs.operations.filter_le_one fun o ho p hp hok hpk => ?_
    obtain ⟨i, hi, hot, hoi⟩ := hs.operation o ho
    obtain ⟨j, hj, hpt, hpj⟩ := hs.operation p hp
    obtain ⟨a, -, hia⟩ := hs.intent i hi
    obtain ⟨b, -, hjb⟩ := hs.intent j hj
    rw [decide_eq_true_eq] at hok hpk
    have hkey : i.idempotencyKey = j.idempotencyKey := by
      rw [← hoi, ← hpj, hok, hpk]
    rw [hia.idempotencyKey, hjb.idempotencyKey, sha256_inj] at hkey
    have htenant : a.tenantId = b.tenantId := congrArg TicketKeyMaterial.tenantId hkey
    refine decide_eq_true ⟨?_, hok.trans hpk.symm⟩
    rw [hot, hpt, hia.tenant, hjb.tenant, htenant]
  · refine hs.completions.filter_le_one fun d hd e he hdk hek => ?_
    obtain ⟨i, hi, hdt, hdi, -⟩ := hs.completion d hd
    obtain ⟨j, hj, het, hej, -⟩ := hs.completion e he
    obtain ⟨a, -, hia⟩ := hs.intent i hi
    obtain ⟨b, -, hjb⟩ := hs.intent j hj
    rw [decide_eq_true_eq] at hdk hek
    have hid : i.intentId = j.intentId := by
      rw [← hdi, ← hej, hdk, hek]
    rw [hia.intentId, hjb.intentId, stableIdentifier_inj] at hid
    have hkey : i.idempotencyKey = j.idempotencyKey := congrArg IntentMaterial.idempotencyKey hid
    rw [hia.idempotencyKey, hjb.idempotencyKey, sha256_inj] at hkey
    have htenant : a.tenantId = b.tenantId := congrArg TicketKeyMaterial.tenantId hkey
    refine decide_eq_true ⟨?_, Or.inr (hdk.trans hek.symm)⟩
    rw [hdt, het, hia.tenant, hjb.tenant, htenant]

/-- The first recovery dies when `cut` transactions are committed, and the second one runs to its end. -/
def api503Crashed (cut : Nat) : List Step :=
  api503Ticket "e" |>.dropLast.append
    [⟨calm 0, api503Recover, cut⟩, uninterrupted (calm 1) api503Recover]

/-- A recovery that dies behind the execution of its first effect is repeated, and neither effect is. -/
theorem ticket_effects_once_example :
    let steps := api503Crashed 20
    ((run steps.dropLast).ticket.operations.length = 1 ∧ (run steps.dropLast).ticket.completions = []) ∧
    (run steps).latestState api503Tenant api503WorkflowId = some .ticketReady ∧
    (run steps).ticket.revisions.length = 2 ∧
    (∀ t k, TicketHistory ((run steps).ticketRevisionsOf t k)) := by
  have halong : Along anyCall {} (api503Crashed 20) = true := by decide +kernel
  exact ⟨by decide +kernel, by decide +kernel, by decide +kernel, (ticket_effects_once halong).1⟩

end WeFlow
