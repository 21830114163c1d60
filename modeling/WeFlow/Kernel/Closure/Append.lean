import WeFlow.Kernel.Closure.Journal

/-!
# `Append` — the journal is append-only

Whatever is called, and wherever a call dies, no row of the journal is ever changed or removed: each table of a
store is a prefix of what it is later. Only the two read models and the conversation cursors are written over.

## Contents

* `Extends`, `Effect.extends` — all tables at once.
* `ReadModel`, `Effect.readModel` — the read model shows a journal that the store has had.
* `runFrom_extends` — along a run.
-/

namespace WeFlow

open Txn

variable {x : Context} {s s' : WorkflowStore} {a : WorkflowActivation} {part : Part} {steps : List Step}

/-- **Every table has grown**, or is what it was. -/
structure Extends (s s' : WorkflowStore) : Prop where
  events : s.ledger.businessEvents <+: s'.ledger.businessEvents
  cases : s.ledger.cases <+: s'.ledger.cases
  caseRevisions : s.ledger.caseRevisions <+: s'.ledger.caseRevisions
  receipts : s.ledger.inboundReceipts <+: s'.ledger.inboundReceipts
  activations : s.journal.activations <+: s'.journal.activations
  runs : s.journal.runs <+: s'.journal.runs
  checkpoints : s.journal.checkpoints <+: s'.journal.checkpoints
  commands : s.journal.commands <+: s'.journal.commands
  slaEvents : s.journal.slaEvents <+: s'.journal.slaEvents
  intents : s.ticket.intents <+: s'.ticket.intents
  observations : s.ticket.observations <+: s'.ticket.observations
  completions : s.ticket.completions <+: s'.ticket.completions
  revisions : s.ticket.revisions <+: s'.ticket.revisions
  operations : s.ticket.operations <+: s'.ticket.operations
  investigation : InvestigationGrows s.investigation s'.investigation
  policy : PolicyGrows s.policy s'.policy
  deliveryIntents : s.delivery.intents <+: s'.delivery.intents
  deliveryObservations : s.delivery.observations <+: s'.delivery.observations
  deliveryCompletions : s.delivery.completions <+: s'.delivery.completions
  records : s.delivery.records <+: s'.delivery.records
  deliveryOperations : s.delivery.operations <+: s'.delivery.operations

theorem Extends.refl (s : WorkflowStore) : Extends s s := by
  constructor
  case investigation => exact InvestigationGrows.refl _
  case policy => exact PolicyGrows.refl _
  all_goals exact List.prefix_rfl

theorem Extends.trans {s₁ s₂ s₃ : WorkflowStore} (h : Extends s₁ s₂) (h' : Extends s₂ s₃) : Extends s₁ s₃ where
  events := h.events.trans h'.events
  cases := h.cases.trans h'.cases
  caseRevisions := h.caseRevisions.trans h'.caseRevisions
  receipts := h.receipts.trans h'.receipts
  activations := h.activations.trans h'.activations
  runs := h.runs.trans h'.runs
  checkpoints := h.checkpoints.trans h'.checkpoints
  commands := h.commands.trans h'.commands
  slaEvents := h.slaEvents.trans h'.slaEvents
  intents := h.intents.trans h'.intents
  observations := h.observations.trans h'.observations
  completions := h.completions.trans h'.completions
  revisions := h.revisions.trans h'.revisions
  operations := h.operations.trans h'.operations
  investigation := h.investigation.trans h'.investigation
  policy := h.policy.trans h'.policy
  deliveryIntents := h.deliveryIntents.trans h'.deliveryIntents
  deliveryObservations := h.deliveryObservations.trans h'.deliveryObservations
  deliveryCompletions := h.deliveryCompletions.trans h'.deliveryCompletions
  records := h.records.trans h'.records
  deliveryOperations := h.deliveryOperations.trans h'.deliveryOperations

/-! ## One transaction -/

theorem rebuildProjection_eq_ok {l l' : LedgerStore} (h : l.rebuildProjection = .ok l') :
    ∃ caseProjection, l' = { l with caseProjection } := by
  unfold LedgerStore.rebuildProjection at h
  dsimp only at h
  split at h
  · next hrebuilt =>
      obtain ⟨rows, -, u, -, heq⟩ := by simpa only [bind_eq_ok] using hrebuilt
      cases h
      exact ⟨rows, (Except.ok.inj heq).symm⟩
  · cases h

theorem LedgerStore.Appended.extends {e : WorkflowStateEvent} {ledger : LedgerStore}
    (h : LedgerStore.Appended e s.ledger ledger) : Extends s { s with ledger } := by
  rw [h.stored]
  exact { Extends.refl s with events := List.prefix_append _ _ }

theorem LedgerStore.Accepted.extends {now : Instant} {p : IntakePayload} {t : String} {ledger : LedgerStore}
    (h : LedgerStore.Accepted now p t s.ledger ledger) : Extends s { s with ledger } := by
  have hcases : s.ledger.cases <+: ledger.cases := h.cases ▸ List.prefix_append _ _
  have hrevisions : s.ledger.caseRevisions <+: ledger.caseRevisions := h.caseRevisions ▸ List.prefix_append _ _
  have hevents : s.ledger.businessEvents <+: ledger.businessEvents := h.businessEvents ▸ List.prefix_append _ _
  have hreceipts : s.ledger.inboundReceipts <+: ledger.inboundReceipts :=
    h.inboundReceipts ▸ List.prefix_append _ _
  exact { Extends.refl s with
            cases := hcases, caseRevisions := hrevisions, events := hevents, receipts := hreceipts }

theorem PrepareStep.extends (h : PrepareStep x s part s') : Extends s s' := by
  cases h with
  | rebuildCase rebuilt =>
      obtain ⟨rows, rfl⟩ := rebuildProjection_eq_ok rebuilt
      exact { Extends.refl s with }
  | rebuildWorkflow rebuilt =>
      obtain ⟨rows, -, rfl⟩ := WorkflowStore.rebuildWorkflowProjection_eq_ok rebuilt
      exact { Extends.refl s with }
  | caseEvent _ _ _ _ _ _ appended => exact appended.extends
  | checkpoint =>
      exact { Extends.refl s with checkpoints := List.prefix_append _ _, runs := List.prefix_append _ _ }

theorem TicketStep.extends {ticket : TicketTables} (h : TicketStep x s ticket) : Extends s { s with ticket } := by
  have hrefl := Extends.refl s
  cases h with
  | intent => exact { hrefl with intents := List.prefix_append _ _ }
  | @execute i r revisions mem incomplete new executed fresh =>
      have hrevisions : s.ticket.revisions <+: revisions := by
        rcases executedRevision_cases executed with h | ⟨-, -, h⟩ | ⟨-, latest, -, h⟩
        · rw [h]
        · exact h ▸ List.prefix_append _ _
        · exact h ▸ List.prefix_append _ _
      exact { hrefl with revisions := hrevisions, operations := List.prefix_append _ _ }
  | observe => exact { hrefl with observations := List.prefix_append _ _ }
  | complete => exact { hrefl with completions := List.prefix_append _ _ }

theorem InvestigationStep.investigationGrows {investigation : InvestigationTables}
    (h : InvestigationStep x s investigation) (hr : InvestigationRows s s.investigation) :
    InvestigationGrows s.investigation investigation := by
  have hrefl := InvestigationGrows.refl s.investigation
  cases h with
  | activation => exact { hrefl with activations := List.prefix_append _ _ }
  | agentStep => exact { hrefl with agentSteps := List.prefix_append _ _ }
  | @toolExchange a c investigation request result s₂ mem about latest state stored valid call unmoved found new
      within inserted =>
      obtain ⟨heq, -⟩ := hr.exchange_inserts new inserted
      rw [heq]
      exact { hrefl with toolRequests := List.prefix_append _ _, toolResults := List.prefix_append _ _ }
  | candidate => exact { hrefl with candidates := List.prefix_append _ _ }
  | outcome => exact { hrefl with outcomes := List.prefix_append _ _ }

theorem DeliveryStep.extends {delivery : DeliveryTables} (h : DeliveryStep x s delivery) :
    Extends s { s with delivery } := by
  have hrefl := Extends.refl s
  cases h with
  | intent => exact { hrefl with deliveryIntents := List.prefix_append _ _ }
  | execute =>
      exact { hrefl with records := List.prefix_append _ _, deliveryOperations := List.prefix_append _ _ }
  | observe => exact { hrefl with deliveryObservations := List.prefix_append _ _ }
  | complete => exact { hrefl with deliveryCompletions := List.prefix_append _ _ }

theorem Effect.extends (h : Effect x s part s') (hr : InvestigationRows s s.investigation) : Extends s s' := by
  have hrefl := Extends.refl s
  cases h with
  | prepare step => exact step.extends
  | intake accepted => exact accepted.extends
  | activate => exact { hrefl with activations := List.prefix_append _ _, runs := List.prefix_append _ _ }
  | checkpoint => exact { hrefl with checkpoints := List.prefix_append _ _, runs := List.prefix_append _ _ }
  | slaEvent => exact { hrefl with slaEvents := List.prefix_append _ _ }
  | submission => exact { hrefl with commands := List.prefix_append _ _ }
  | ticket step => exact step.extends
  | investigation step => exact { hrefl with investigation := step.investigationGrows hr }
  | policy step => exact { hrefl with policy := step.policyGrows }
  | delivery step => exact step.extends

/-! ## The read model -/

/-- **The read model shows a journal of the past**: every workflow at its latest checkpoint, as a store had them
    of which this one has grown. -/
def ReadModel (s : WorkflowStore) : Prop :=
  ∃ s₀, Closed s₀ ∧ Extends s₀ s ∧ s.workflowProjection = s₀.projections

theorem Effect.readModel (h : Effect x s part s') (hs : Closed s) (hread : ReadModel s) : ReadModel s' := by
  have hextends := h.extends hs.rows.investigation
  have hkept : s'.workflowProjection = s.workflowProjection → ReadModel s' := by
    obtain ⟨s₀, hclosed, hgrown, hrows⟩ := hread
    exact fun heq => ⟨s₀, hclosed, hgrown.trans hextends, heq.trans hrows⟩
  cases h with
  | prepare step =>
      cases step with
      | rebuildWorkflow rebuilt =>
          rw [hs.rebuildWorkflowProjection_eq] at rebuilt
          split at rebuilt
          · obtain rfl := Except.ok.inj rebuilt
            exact ⟨s, hs, hextends, rfl⟩
          · cases rebuilt
      | rebuildCase => exact hkept rfl
      | caseEvent => exact hkept rfl
      | checkpoint => exact hkept rfl
  | _ => exact hkept rfl

/-! ## Along a run -/

theorem run_readModel {cond : Env → Call → WorkflowStore → Bool} (h : Along cond {} steps = true) :
    ReadModel (run steps) :=
  (run_effects (fun _ s => Closed s ∧ ReadModel s) (fun _ _ hs _ _ => hs)
    (fun _ _ _ _ _ _ heffect _ hs => ⟨heffect.closed hs.1, heffect.readModel hs.1 hs.2⟩) (fun _ _ _ hs => hs)
    ⟨closed_empty, {}, closed_empty, Extends.refl _, rfl⟩ h).2.2

theorem runFrom_extends (hs : Closed s) (hsteps : Along anyCall s steps = true) : Extends s (runFrom s steps) :=
  (runFrom_keeps (P := fun s' => Closed s' ∧ Extends s s')
    (fun _ _ _ _ heffect hp =>
      ⟨heffect.closed hp.1, hp.2.trans (heffect.extends hp.1.rows.investigation)⟩)
    hs.journal hsteps ⟨hs, Extends.refl s⟩).2

end WeFlow
