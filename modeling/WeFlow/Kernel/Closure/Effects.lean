import Mathlib.Data.Finset.Lattice.Lemmas
import WeFlow.Kernel.Closure.Investigation
import WeFlow.Kernel.Closure.Tickets

/-!
# `Effects` — what a checkpoint records of effects is kept by the next

A dozen paths compute the effect sets of a checkpoint, some of all effects, some of the ticket's only. A
completed effect is never lost, for no workflow waits in a ticket reconciliation with a completed delivery.
A pending delivery is lost in one place: where a workflow that was denied its delivery leaves the
reconciliation that a CANCEL put it into.

## Contents

* `RowsInv` — all rows of the journal's tables, as one invariant.
* `mem_effectIds`, `mem_allCompletedIds`, … — the effect sets of a workflow.
* `RecordsFrom` — how a request's effect sets come about.
* `KeepsEffects`, `EffectsInv` — the invariant.
-/

namespace WeFlow

variable {x : Context} {s s' : WorkflowStore} {a : WorkflowActivation} {part : Part}

/-! ## All rows -/

/-- **The rows of all tables.** -/
structure RowsInv (s : WorkflowStore) : Prop where
  source : SourceInv s
  ticket : TicketInv s
  ticketRows : TicketRows s
  delivery : DeliveryRows s
  binding : SingleBindingInv s
  gate : GateInv s
  policy : PolicyRows s s.policy
  chain : ChainInv s
  investigation : InvestigationRows s s.investigation

theorem rowsInv_empty : RowsInv {} where
  source := sourceInv_empty
  ticket := ticketInv_empty
  ticketRows := ticketRows_empty
  delivery := deliveryRows_empty
  binding := singleBindingInv_empty
  gate := gateInv_empty
  policy := policyRows_empty
  chain := fun c hc => by simp at hc
  investigation := investigationRows_empty

theorem Effect.rowsInv (h : Effect x s part s') (hj : JournalInv s) (hs : RowsInv s) : RowsInv s' where
  source := h.sourceInv hj hs.source
  ticket := h.ticketInv hj hs.ticket
  ticketRows := h.ticketRows hj hs.ticket hs.ticketRows
  delivery := h.deliveryRows hj hs.delivery
  binding := h.bindingInv hs.binding
  gate := h.gateInv hs.gate
  policy := h.policyRows hs.policy
  chain := h.chainInv hs.chain
  investigation := h.investigationRows hs.investigation

/-! ## The effect sets of a workflow -/

theorem mem_effectIds {e : EffectId} : e ∈ s.effectIds a ↔
    (∃ i ∈ s.intentsOf a.tenantId a.workflowId, .ticket i.intentId = e) ∨
    ∃ i ∈ s.deliveryIntentsOf a.tenantId a.workflowId, .delivery i.intentId = e := by
  unfold WorkflowStore.effectIds
  simp only [List.mem_append, List.mem_map]

theorem mem_completedIds {e : EffectId} : e ∈ s.completedIds a ↔
    (∃ i ∈ s.intentsOf a.tenantId a.workflowId,
      s.completionsOf a.tenantId i.intentId ≠ [] ∧ .ticket i.intentId = e) ∨
    ∃ i ∈ s.deliveryIntentsOf a.tenantId a.workflowId,
      s.deliveryCompletionsOf a.tenantId i.intentId ≠ [] ∧ .delivery i.intentId = e := by
  unfold WorkflowStore.completedIds
  simp only [List.mem_append, List.mem_map, List.mem_filter, decide_eq_true_eq, and_assoc]

theorem completedIds_subset : s.completedIds a ⊆ s.effectIds a := by
  intro e he
  rw [mem_completedIds] at he
  rw [mem_effectIds]
  rcases he with ⟨i, hi, -, heq⟩ | ⟨i, hi, -, heq⟩
  · exact Or.inl ⟨i, hi, heq⟩
  · exact Or.inr ⟨i, hi, heq⟩

theorem mem_completedTicketIds (hs : TicketInv s) {e : EffectId} :
    e ∈ s.completedTicketIds a.tenantId a.workflowId ↔ ∃ i ∈ s.intentsOf a.tenantId a.workflowId,
      s.completionsOf a.tenantId i.intentId ≠ [] ∧ .ticket i.intentId = e := by
  unfold WorkflowStore.completedTicketIds
  rw [List.mem_toFinset, List.mem_map]
  constructor
  · rintro ⟨d, hd, rfl⟩
    obtain ⟨hmem, hkey⟩ := List.mem_filter.mp hd
    rw [decide_eq_true_eq] at hkey
    obtain ⟨i, hi, ht, hid, hw⟩ := hs.completion d hmem
    have hicompleted : d ∈ s.completionsOf a.tenantId i.intentId :=
      List.mem_filter.mpr ⟨hmem, decide_eq_true ⟨hkey.1, hid⟩⟩
    refine ⟨i, List.mem_filter.mpr ⟨hi, decide_eq_true ⟨ht.symm.trans hkey.1, hw.symm.trans hkey.2⟩⟩,
      List.ne_nil_of_mem hicompleted, by rw [hid]⟩
  · rintro ⟨i, hi, hne, rfl⟩
    obtain ⟨hmem, hkey⟩ := List.mem_filter.mp hi
    rw [decide_eq_true_eq] at hkey
    obtain ⟨d, hd⟩ := List.exists_mem_of_ne_nil _ hne
    obtain ⟨hdmem, hdk⟩ := List.mem_filter.mp hd
    rw [decide_eq_true_eq] at hdk
    obtain ⟨j, hj, ht, hid, hw⟩ := hs.completion d hdmem
    obtain rfl : j = i := hs.eq_of_intentId hj hmem (ht.symm.trans (hdk.1.trans hkey.1.symm))
      (hid.symm.trans hdk.2)
    exact ⟨d, List.mem_filter.mpr ⟨hdmem, decide_eq_true ⟨hdk.1, hw.trans hkey.2⟩⟩, by rw [hdk.2]⟩

theorem deliveryCompleted_iff {i : DeliveryIntent} (hi : i ∈ s.deliveryIntentsOf a.tenantId a.workflowId) :
    s.deliveryCompleted i = true ↔ s.deliveryCompletionsOf a.tenantId i.intentId ≠ [] := by
  have hkey := of_decide_eq_true (List.mem_filter.mp hi).2
  unfold WorkflowStore.deliveryCompleted WorkflowStore.deliveryCompletionsOf
  rw [List.any_eq_true, ne_eq, List.filter_eq_nil_iff, hkey.1]
  constructor
  · rintro ⟨d, hd, hdk⟩ hnone
    exact hnone d hd hdk
  · intro hsome
    by_contra hnone
    refine hsome fun d hd hdk => hnone ⟨d, hd, hdk⟩

theorem mem_completedDeliveryIds {e : EffectId} :
    e ∈ s.completedDeliveryIds a.tenantId a.workflowId ↔
      ∃ i ∈ s.deliveryIntentsOf a.tenantId a.workflowId,
        s.deliveryCompletionsOf a.tenantId i.intentId ≠ [] ∧ .delivery i.intentId = e := by
  unfold WorkflowStore.completedDeliveryIds
  rw [List.mem_toFinset, List.mem_map]
  constructor
  · rintro ⟨i, hi, heq⟩
    obtain ⟨hmem, hcompleted⟩ := List.mem_filter.mp hi
    exact ⟨i, hmem, (deliveryCompleted_iff hmem).mp hcompleted, heq⟩
  · rintro ⟨i, hi, hne, heq⟩
    exact ⟨i, List.mem_filter.mpr ⟨hi, (deliveryCompleted_iff hi).mpr hne⟩, heq⟩

/-- **The completed effects of a workflow** are those the journal's validator counts. -/
theorem mem_allCompletedIds (hs : TicketInv s) {e : EffectId} :
    e ∈ s.allCompletedIds a.tenantId a.workflowId ↔ e ∈ s.completedIds a := by
  rw [WorkflowStore.allCompletedIds, Finset.mem_union, mem_completedTicketIds hs, mem_completedDeliveryIds,
    mem_completedIds]

theorem mem_unresolvedTicketIds {e : EffectId} :
    e ∈ s.unresolvedTicketIds a.tenantId a.workflowId ↔ ∃ i ∈ s.intentsOf a.tenantId a.workflowId,
      s.completionsOf a.tenantId i.intentId = [] ∧ .ticket i.intentId = e := by
  unfold WorkflowStore.unresolvedTicketIds WorkflowStore.unresolvedIntents
  rw [List.mem_toFinset, List.mem_map]
  have hiff : ∀ i : SideEffectIntent, i.tenantId = a.tenantId →
      (s.ticket.completions.any (fun d => d.tenantId = i.tenantId ∧ d.intentId = i.intentId) = true ↔
        s.completionsOf a.tenantId i.intentId ≠ []) := by
    intro i ht
    unfold WorkflowStore.completionsOf
    rw [List.any_eq_true, ne_eq, List.filter_eq_nil_iff, ht]
    constructor
    · rintro ⟨d, hd, hdk⟩ hnone
      exact hnone d hd hdk
    · intro hsome
      by_contra hnone
      exact hsome fun d hd hdk => hnone ⟨d, hd, hdk⟩
  constructor
  · rintro ⟨i, hi, heq⟩
    obtain ⟨hmem, hkey⟩ := List.mem_filter.mp hi
    rw [decide_eq_true_eq] at hkey
    obtain ⟨ht, hw, hnone⟩ := hkey
    rw [hiff i ht, not_not] at hnone
    exact ⟨i, List.mem_filter.mpr ⟨hmem, decide_eq_true ⟨ht, hw⟩⟩, hnone, heq⟩
  · rintro ⟨i, hi, hnone, heq⟩
    obtain ⟨hmem, hkey⟩ := List.mem_filter.mp hi
    rw [decide_eq_true_eq] at hkey
    refine ⟨i, List.mem_filter.mpr ⟨hmem, decide_eq_true ⟨hkey.1, hkey.2, ?_⟩⟩, heq⟩
    rw [hiff i hkey.1, not_not]
    exact hnone

theorem mem_pendingDeliveryIds {e : EffectId} :
    e ∈ s.pendingDeliveryIds a.tenantId a.workflowId ↔
      ∃ i ∈ s.deliveryIntentsOf a.tenantId a.workflowId,
        s.deliveryCompletionsOf a.tenantId i.intentId = [] ∧ .delivery i.intentId = e := by
  unfold WorkflowStore.pendingDeliveryIds
  rw [List.mem_toFinset, List.mem_map]
  constructor
  · rintro ⟨i, hi, heq⟩
    obtain ⟨hmem, hnot⟩ := List.mem_filter.mp hi
    rw [decide_eq_true_eq, deliveryCompleted_iff hmem, not_not] at hnot
    exact ⟨i, hmem, hnot, heq⟩
  · rintro ⟨i, hi, hnone, heq⟩
    refine ⟨i, List.mem_filter.mpr ⟨hi, ?_⟩, heq⟩
    rw [decide_eq_true_eq, deliveryCompleted_iff hi, not_not]
    exact hnone

/-- **Every effect is pending or completed.** -/
theorem mem_effectIds_iff (hs : TicketInv s) {e : EffectId} : e ∈ s.effectIds a ↔
    e ∈ s.allPendingIds a.tenantId a.workflowId ∪ s.allCompletedIds a.tenantId a.workflowId := by
  rw [Finset.mem_union, mem_allCompletedIds hs, WorkflowStore.allPendingIds, Finset.mem_union,
    mem_unresolvedTicketIds, mem_pendingDeliveryIds, mem_effectIds, mem_completedIds]
  constructor
  · rintro (⟨i, hi, heq⟩ | ⟨i, hi, heq⟩)
    · by_cases hdone : s.completionsOf a.tenantId i.intentId = []
      · exact Or.inl (Or.inl ⟨i, hi, hdone, heq⟩)
      · exact Or.inr (Or.inl ⟨i, hi, hdone, heq⟩)
    · by_cases hdone : s.deliveryCompletionsOf a.tenantId i.intentId = []
      · exact Or.inl (Or.inr ⟨i, hi, hdone, heq⟩)
      · exact Or.inr (Or.inr ⟨i, hi, hdone, heq⟩)
  · rintro ((⟨i, hi, -, heq⟩ | ⟨i, hi, -, heq⟩) | (⟨i, hi, -, heq⟩ | ⟨i, hi, -, heq⟩))
    · exact Or.inl ⟨i, hi, heq⟩
    · exact Or.inr ⟨i, hi, heq⟩
    · exact Or.inl ⟨i, hi, heq⟩
    · exact Or.inr ⟨i, hi, heq⟩

/-! ## Effects stay -/

theorem DeliveryStep.grows {delivery : DeliveryTables} (h : DeliveryStep x s delivery) :
    s.delivery.intents <+: delivery.intents ∧ s.delivery.completions <+: delivery.completions := by
  cases h with
  | intent => exact ⟨List.prefix_append _ _, List.prefix_rfl⟩
  | complete => exact ⟨List.prefix_rfl, List.prefix_append _ _⟩
  | execute => exact ⟨List.prefix_rfl, List.prefix_rfl⟩
  | observe => exact ⟨List.prefix_rfl, List.prefix_rfl⟩

theorem Effect.delivery_grows (h : Effect x s part s') :
    s.delivery.intents <+: s'.delivery.intents ∧ s.delivery.completions <+: s'.delivery.completions := by
  by_cases hpart : part = .delivery
  · cases h with
    | delivery step => exact step.grows
    | prepare step => exact absurd hpart step.not_part.2.1
    | _ => exact absurd hpart nofun
  · rw [h.delivery_eq hpart]
    exact ⟨List.prefix_rfl, List.prefix_rfl⟩

theorem Effect.effectIds_subset (h : Effect x s part s') : s.effectIds a ⊆ s'.effectIds a := by
  have hgrows := h.grows
  have hdelivery := h.delivery_grows
  intro e he
  rw [mem_effectIds] at he ⊢
  rcases he with ⟨i, hi, heq⟩ | ⟨i, hi, heq⟩
  · exact Or.inl ⟨i, (hgrows.intents.filter _).subset hi, heq⟩
  · exact Or.inr ⟨i, (hdelivery.1.filter _).subset hi, heq⟩

theorem Effect.completedIds_subset (h : Effect x s part s') : s.completedIds a ⊆ s'.completedIds a := by
  have hgrows := h.grows
  have hdelivery := h.delivery_grows
  intro e he
  rw [mem_completedIds] at he ⊢
  rcases he with ⟨i, hi, hne, heq⟩ | ⟨i, hi, hne, heq⟩
  · exact Or.inl ⟨i, (hgrows.intents.filter _).subset hi,
      ne_nil_of_prefix (hgrows.completions.filter _) hne, heq⟩
  · exact Or.inr ⟨i, (hdelivery.1.filter _).subset hi, ne_nil_of_prefix (hdelivery.2.filter _) hne, heq⟩

/-! ## What a request records -/

/-- A request leaves a reconciliation of the ticket. -/
def CheckpointRequest.LeavesTicket (r : CheckpointRequest) (c : CheckpointPayload) : Prop :=
  r.transitionKind = some .reconciliationComplete ∧ c.resumeState ≠ .delivering

/-- **How the effect sets of a request come about**: they are those of the checkpoint before, or all of the
    journal's, or only those of the ticket, before any delivery or out of a reconciliation. -/
inductive RecordsFrom (s : WorkflowStore) (a : WorkflowActivation) (c : CheckpointPayload)
    (r : CheckpointRequest) : Prop
  | same (stays : ¬ r.LeavesTicket c) (pending : r.pendingIntentIds = c.pendingIntentIds)
      (completed : r.completedIntentIds = c.completedIntentIds)
  | all (stays : ¬ r.LeavesTicket c) (pending : r.pendingIntentIds = s.allPendingIds a.tenantId a.workflowId)
      (completed : r.completedIntentIds = s.allCompletedIds a.tenantId a.workflowId)
  | tickets (stays : ¬ r.LeavesTicket c) (state : c.currentState = .received)
      (pending : r.pendingIntentIds = s.unresolvedTicketIds a.tenantId a.workflowId)
      (completed : r.completedIntentIds = s.completedTicketIds a.tenantId a.workflowId)
  | reconciled (leaves : r.LeavesTicket c) (state : c.currentState = .needsReconciliation)
      (resolved : s.unresolvedIntents a.tenantId a.workflowId = []) (pending : r.pendingIntentIds = ∅)
      (completed : r.completedIntentIds = s.completedTicketIds a.tenantId a.workflowId)

theorem Applies.records {c : CheckpointPayload} {command : WorkflowCommand} {r : TransitionRequest}
    (h : Applies s a c command r) : RecordsFrom s a c (r.checkpoint c) := by
  cases h with
  | pause => exact .same (fun hleaves => nomatch hleaves.1) rfl rfl
  | resume => exact .same (fun hleaves => nomatch hleaves.1) rfl rfl
  | cancel => exact .same (fun hleaves => nomatch hleaves.1) rfl rfl
  | absorb => exact .all (fun hleaves => nomatch hleaves.1) rfl rfl

/-- The policy of a workflow on its way back to its delivery is activated. -/
theorem RowsInv.activated {c : Checkpoint} (hs : RowsInv s) (hj : JournalInv s)
    (ha : a ∈ s.journal.activations) (hlatest : s.latestCheckpoint? a.tenantId a.workflowId = some c)
    (hresume : c.payload.resumeState = .delivering) :
    (s.policyActivationForWorkflow a.tenantId a.workflowId).isSome = true := by
  have hrequests := hs.chain.latest hlatest (Or.inr (hresume ▸ rfl))
  obtain ⟨hactivations, -⟩ := hs.policy.chain_complete hj ha hrequests
  obtain ⟨p, hp⟩ := List.exists_mem_of_ne_nil _ hactivations
  obtain ⟨hmem, hkey⟩ := List.mem_filter.mp hp
  exact List.find?_isSome.mpr ⟨p, hmem, hkey⟩

theorem Advance.records {c : Checkpoint} {r : TransitionRequest} (h : Advance x s a c r)
    (hactivated : c.payload.resumeState = .delivering →
      (s.policyActivationForWorkflow a.tenantId a.workflowId).isSome = true) :
    RecordsFrom s a c.payload (r.checkpoint c.payload) := by
  cases h with
  | deliveryDenied => exact .all (fun hleaves => nomatch hleaves.1) rfl rfl
  | reconcile => exact .all (fun hleaves => nomatch hleaves.1) rfl rfl
  | reconciled resolved _ _ _ _ state ticket =>
      have hresume : c.payload.resumeState ≠ .delivering := fun hresume => ticket ⟨hactivated hresume, hresume⟩
      exact .reconciled ⟨rfl, hresume⟩ state resolved rfl rfl
  | deliveryReconciled _ _ resume => exact .all (fun hleaves => hleaves.2 resume) rfl rfl
  | _ => exact .same (fun hleaves => nomatch hleaves.1) rfl rfl

theorem Reason.records {c : Checkpoint} {r : CheckpointRequest} (h : Reason x s a r) (hs : RowsInv s)
    (hj : JournalInv s) (ha : a ∈ s.journal.activations)
    (hlatest : s.latestCheckpoint? a.tenantId a.workflowId = some c) : RecordsFrom s a c.payload r := by
  cases h with
  | ticketProgress latest state =>
      obtain rfl := Option.some.inj (latest.symm.trans hlatest)
      exact .tickets (fun hleaves => nomatch hleaves.1) state rfl rfl
  | deliveryProgress latest => exact .all (fun hleaves => nomatch hleaves.1) rfl rfl
  | advance latest advance =>
      obtain rfl := Option.some.inj (latest.symm.trans hlatest)
      exact advance.records (hs.activated hj ha hlatest)

theorem Prepares.records {c : Checkpoint} {r : CheckpointRequest} (h : Prepares x s a part r)
    (hlatest : s.latestCheckpoint? a.tenantId a.workflowId = some c) : RecordsFrom s a c.payload r := by
  cases h with
  | initial none => exact absurd (none.symm.trans hlatest) nofun
  | command latest _ _ _ _ applies =>
      obtain rfl := Option.some.inj (latest.symm.trans hlatest)
      exact applies.records

/-! ## Behind the ticket, and before the delivery -/

/-- The states behind the ticket. -/
def WorkflowState.behindTicket : WorkflowState → Bool
  | .ticketReady | .investigating | .responseReady | .awaitingApproval | .delivering | .deliveryRecorded => true
  | _ => false

/-- The transitions from one of them to the next. -/
def TransitionKind.behindTicket : TransitionKind → Bool
  | .investigationStarted | .responseCandidateVerified | .policyApprovalActivated | .approvalGranted
  | .deliveryComplete => true
  | _ => false

theorem behindTicket_of_allowed {state next : WorkflowState} {kind : TransitionKind}
    {resume : Option WorkflowState} {unresolved : Bool}
    (h : transitionAllowed state kind next resume unresolved = true) (hkind : kind.behindTicket = true) :
    state.behindTicket = true := by
  cases state <;> first | rfl | skip
  all_goals
    cases kind <;> first | exact absurd hkind Bool.false_ne_true | simp [transitionAllowed, allowedTargets] at h

/-- Every workflow that visits one of them has completed its ticket. -/
def BehindTicketInv (s : WorkflowStore) : Prop :=
  Requires WorkflowState.behindTicket WorkflowStore.TicketDone s

/-- **A transition to such a state** comes from one, or follows both completions. -/
theorem Advance.behindTicket {c : Checkpoint} {r : TransitionRequest} (h : Advance x s a c r)
    (allowed : r.allowedFrom c.payload = true)
    (hr : r.nextState.behindTicket = true ∨ r.resumeState.behindTicket = true) :
    c.payload.VisitsAny WorkflowState.behindTicket ∨ s.TicketDone a.tenantId a.workflowId := by
  cases h with
  | ticketReady find handoff =>
      right
      intro operation
      cases operation with
      | findOrCreate => exact find
      | workflowHandoff => exact handoff
  | reconcile => exact Or.inl (Or.inl (hr.resolve_left Bool.false_ne_true))
  | reconciled => exact Or.inl (Or.inr (hr.elim id id))
  | deliveryReconciled => exact Or.inl (Or.inr (hr.elim id id))
  | approvalDenied => exact hr.elim (absurd · Bool.false_ne_true) (absurd · Bool.false_ne_true)
  | deliveryDenied => exact hr.elim (absurd · Bool.false_ne_true) (absurd · Bool.false_ne_true)
  | slaExpired => exact hr.elim (absurd · Bool.false_ne_true) (absurd · Bool.false_ne_true)
  | _ => exact Or.inl (Or.inl (behindTicket_of_allowed allowed rfl))

theorem Effect.behindTicketInv (h : Effect x s part s') (hs : BehindTicketInv s) : BehindTicketInv s' := by
  refine h.requires ?_ rfl (fun t w hdone => hdone.mono h.grows) (fun _ advance => advance.behindTicket) hs
  intro state hbehind
  cases state <;> first | rfl | cases hbehind

/-- A delivery is new, or its workflow is just delivering. -/
theorem Effect.new_delivery (h : Effect x s part s') {i : DeliveryIntent} (hi : i ∈ s'.delivery.intents) :
    i ∈ s.delivery.intents ∨ s'.journal = s.journal ∧ ∃ a ∈ s.journal.activations, ∃ c,
      s.latestCheckpoint? a.tenantId a.workflowId = some c ∧ c.payload.currentState = .delivering ∧
      i.tenantId = a.tenantId ∧ i.workflowId = a.workflowId := by
  by_cases hpart : part = .delivery
  · cases h with
    | delivery step =>
        cases step with
        | @intent a c b mem _ latest state =>
            rcases List.mem_append.mp hi with hi | hi
            · exact Or.inl hi
            · rw [List.mem_singleton.mp hi]
              exact Or.inr ⟨rfl, a, mem, c, latest, state, rfl, rfl⟩
        | _ => exact Or.inl hi
    | prepare step => exact absurd hpart step.not_part.2.1
    | _ => exact absurd hpart nofun
  · rw [h.delivery_eq hpart] at hi
    exact Or.inl hi

/-- The state before the ticket. -/
def WorkflowState.isReceived : WorkflowState → Bool
  | .received => true
  | _ => false

/-- **Nothing leads back to RECEIVED.** -/
theorem Advance.receives {c : Checkpoint} {r : TransitionRequest} (h : Advance x s a c r)
    (hr : r.nextState.isReceived = true ∨ r.resumeState.isReceived = true) :
    c.payload.VisitsAny WorkflowState.isReceived := by
  cases h with
  | reconcile => exact Or.inl (hr.resolve_left Bool.false_ne_true)
  | reconciled => exact Or.inr (hr.elim id id)
  | deliveryReconciled => exact Or.inr (hr.elim id id)
  | _ => exact hr.elim (absurd · Bool.false_ne_true) (absurd · Bool.false_ne_true)

/-- A workflow with a delivery has completed its ticket, and is not on its way back to RECEIVED. -/
def DeliveryBegunInv (s : WorkflowStore) : Prop :=
  ∀ a ∈ s.journal.activations, s.deliveryIntentsOf a.tenantId a.workflowId ≠ [] →
    s.TicketDone a.tenantId a.workflowId ∧ Behind WorkflowState.isReceived s a

/-- **Every transaction keeps it.** -/
theorem Effect.deliveryBegunInv (h : Effect x s part s') (hj : JournalInv s) (hr : DeliveryRows s)
    (hb : BehindTicketInv s) (hs : DeliveryBegunInv s) : DeliveryBegunInv s' := by
  intro a ha hne
  obtain ⟨i, hi⟩ := List.exists_mem_of_ne_nil _ hne
  obtain ⟨himem, hkey⟩ := List.mem_filter.mp hi
  rw [decide_eq_true_eq] at hkey
  have hgrows := h.grows
  have hbegun : ∀ b ∈ s.journal.activations, s.TicketDone b.tenantId b.workflowId →
      Behind WorkflowState.isReceived s b →
      s'.TicketDone b.tenantId b.workflowId ∧ Behind WorkflowState.isReceived s' b := by
    intro b hbmem hdone hbehind
    refine ⟨hdone.mono hgrows, h.behind hj hbmem ?_ (fun advance _ => advance.receives) hbehind⟩
    intro state hstate
    cases state <;> first | rfl | cases hstate
  rcases h.new_delivery himem with himem | ⟨hjournal, b, hbmem, c, hlatest, hstate, ht, hw⟩
  · -- the intent is of an activation that was there before
    obtain ⟨b, hbmem, hrow⟩ := hr.intent i himem
    have howner : i.tenantId = b.tenantId ∧ i.workflowId = b.workflowId := by
      obtain ⟨c, -, d, -, env, rfl⟩ := hrow.built
      exact ⟨rfl, rfl⟩
    obtain rfl : b = a := (h.journalInv hj).activation_unique (hgrows.activations.subset hbmem) ha
      (howner.1.symm.trans hkey.1) (howner.2.symm.trans hkey.2)
    obtain ⟨hdone, hbehind⟩ :=
      hs b hbmem (List.ne_nil_of_mem (List.mem_filter.mpr ⟨himem, decide_eq_true hkey⟩))
    exact hbegun b hbmem hdone hbehind
  · -- the workflow is delivering
    have hactivation : a ∈ s.journal.activations := hjournal ▸ ha
    obtain rfl : b = a := hj.activation_unique hbmem hactivation (ht.symm.trans hkey.1) (hw.symm.trans hkey.2)
    have hshaped := hj.latest_shaped hbmem hlatest
    rw [hstate] at hshaped
    have hresume : c.payload.resumeState = .delivering := hshaped
    refine hbegun b hbmem (hb.latest hlatest (Or.inl (hstate ▸ rfl))) ⟨c, hlatest, ?_⟩
    unfold CheckpointPayload.VisitsAny
    rw [hstate, hresume]
    exact fun hvisits => hvisits.elim nofun nofun

/-! ## What a checkpoint knows of effects -/

/-- The effects a checkpoint records are effects of the journal, and those it counts as completed are; a
    reconciliation of the ticket knows no completed delivery. -/
structure Known (s : WorkflowStore) (a : WorkflowActivation) (c : Checkpoint) : Prop where
  effects : ∀ e ∈ c.payload.pendingIntentIds ∪ c.payload.completedIntentIds, e ∈ s.effectIds a
  completed : ∀ e ∈ c.payload.completedIntentIds, e ∈ s.completedIds a
  ticket : c.payload.currentState = .needsReconciliation → c.payload.resumeState ≠ .delivering →
    ∀ id, EffectId.delivery id ∉ c.payload.completedIntentIds

theorem Known.mono {c : Checkpoint} (h : Known s a c) (heffects : s.effectIds a ⊆ s'.effectIds a)
    (hcompleted : s.completedIds a ⊆ s'.completedIds a) : Known s' a c :=
  ⟨fun e he => heffects (h.effects e he), fun e he => hcompleted (h.completed e he), h.ticket⟩

/-- A workflow without a delivery has no effect of one. -/
theorem delivery_not_effect (h : s.deliveryIntentsOf a.tenantId a.workflowId = []) {id : DeliveryIntentId} :
    EffectId.delivery id ∉ s.effectIds a := by
  intro he
  rw [mem_effectIds, h] at he
  rcases he with ⟨i, -, heq⟩ | ⟨i, hi, -⟩
  · cases heq
  · exact List.not_mem_nil hi

theorem mem_effectIds_ticket {id : IntentId} (h : EffectId.ticket id ∈ s.effectIds a) :
    ∃ i ∈ s.intentsOf a.tenantId a.workflowId, i.intentId = id := by
  rcases mem_effectIds.mp h with ⟨i, hi, heq⟩ | ⟨i, -, heq⟩
  · exact ⟨i, hi, EffectId.ticket.inj heq⟩
  · cases heq

/-- A completed effect of the ticket. -/
theorem mem_completedIds_ticket (hs : TicketInv s) {id : IntentId} :
    EffectId.ticket id ∈ s.completedIds a ↔
      EffectId.ticket id ∈ s.completedTicketIds a.tenantId a.workflowId := by
  rw [mem_completedTicketIds hs, mem_completedIds]
  constructor
  · rintro (h | ⟨i, -, -, heq⟩)
    · exact h
    · cases heq
  · exact Or.inl

/-- **What a new checkpoint knows**, of the effects of the one before it and of the journal. -/
theorem RecordsFrom.known {c : Checkpoint} {r : CheckpointRequest} (h : RecordsFrom s a c.payload r)
    (hs : TicketInv s) (hc : Known s a c) :
    (∀ e ∈ r.pendingIntentIds ∪ r.completedIntentIds, e ∈ s.effectIds a) ∧
    ∀ e ∈ r.completedIntentIds, e ∈ s.completedIds a := by
  have hall : ∀ e ∈ s.allPendingIds a.tenantId a.workflowId ∪ s.allCompletedIds a.tenantId a.workflowId,
      e ∈ s.effectIds a := fun e => (mem_effectIds_iff hs).mpr
  have hcompleted : ∀ e ∈ s.completedTicketIds a.tenantId a.workflowId, e ∈ s.completedIds a := by
    intro e he
    rw [mem_completedTicketIds hs] at he
    exact mem_completedIds.mpr (Or.inl he)
  cases h with
  | same _ pending completed =>
      rw [pending, completed]
      exact ⟨hc.effects, hc.completed⟩
  | all _ pending completed =>
      rw [pending, completed]
      exact ⟨hall, fun e => (mem_allCompletedIds hs).mp⟩
  | tickets _ _ pending completed =>
      rw [pending, completed]
      refine ⟨fun e he => hall e ?_, hcompleted⟩
      rw [Finset.mem_union] at he ⊢
      exact he.imp (fun h => Finset.mem_union_left _ h) (fun h => Finset.mem_union_left _ h)
  | reconciled _ _ _ pending completed =>
      rw [pending, completed, Finset.empty_union]
      exact ⟨fun e he => completedIds_subset (hcompleted e he), hcompleted⟩

/-- **A reconciliation of the ticket knows no completed delivery**: with a delivery the ticket is done, so the
    only effect that can be pending is the delivery. -/
theorem no_delivery_completed (ha : a ∈ s.journal.activations) (hr : RowsInv s) (hd : DeliveryBegunInv s)
    (hpending : s.allPendingIds a.tenantId a.workflowId ≠ ∅) (id : DeliveryIntentId) :
    EffectId.delivery id ∉ s.allCompletedIds a.tenantId a.workflowId := by
  intro hmem
  rw [mem_allCompletedIds hr.ticket, mem_completedIds] at hmem
  rcases hmem with ⟨i, -, -, heq⟩ | ⟨i, hi, hcompleted, -⟩
  · cases heq
  · apply hpending
    obtain ⟨hdone, -⟩ := hd a ha (List.ne_nil_of_mem hi)
    refine Finset.eq_empty_of_forall_notMem fun e he => ?_
    rcases Finset.mem_union.mp he with he | he
    · -- the ticket is done
      obtain ⟨j, hjmem, hnone, -⟩ := mem_unresolvedTicketIds.mp he
      obtain ⟨hjm, hkey⟩ := List.mem_filter.mp hjmem
      rw [decide_eq_true_eq] at hkey
      obtain ⟨k, hkm, hkt, hkw, hkop, d, hdm, hdt, hdk⟩ := hdone j.operation
      obtain rfl : k = j := hr.ticket.intents.eq_of_clash SideEffectIntent.clash_comm hkm hjm
        (decide_eq_true ⟨hkt.trans hkey.1.symm, Or.inr (Or.inr ⟨hkw.trans hkey.2.symm, hkop⟩)⟩)
      have hd : d ∈ s.completionsOf a.tenantId k.intentId :=
        List.mem_filter.mpr ⟨hdm, decide_eq_true ⟨hdt.trans hkt, hdk⟩⟩
      rw [hnone] at hd
      exact List.not_mem_nil hd
    · -- the workflow has one delivery
      obtain ⟨j, hjmem, hnone, -⟩ := mem_pendingDeliveryIds.mp he
      obtain ⟨him, hik⟩ := List.mem_filter.mp hi
      obtain ⟨hjm, hjk⟩ := List.mem_filter.mp hjmem
      rw [decide_eq_true_eq] at hik hjk
      obtain rfl : i = j := hr.delivery.intents.eq_of_clash DeliveryIntent.clash_comm him hjm
        (decide_eq_true ⟨hik.1.trans hjk.1.symm, Or.inr (Or.inr (hik.2.trans hjk.2.symm))⟩)
      exact hcompleted hnone

theorem Applies.no_delivery {c : CheckpointPayload} {command : WorkflowCommand} {r : TransitionRequest}
    (h : Applies s a c command r) (ha : a ∈ s.journal.activations) (hr : RowsInv s) (hd : DeliveryBegunInv s)
    (hshape : Shaped r.nextState r.resumeState)
    (hstate : r.nextState = .needsReconciliation) (id : DeliveryIntentId) :
    EffectId.delivery id ∉ (r.checkpoint c).completedIntentIds := by
  rw [hstate] at hshape
  cases h with
  | pause => cases hstate
  | resume =>
      have hresume : c.resumeState = .needsReconciliation := hstate
      have hmem : c.resumeState ∈ reconcilable := hshape
      rw [hresume] at hmem
      exact absurd hmem (by decide)
  | cancel => cases hstate
  | absorb _ unresolved => exact no_delivery_completed ha hr hd unresolved id

theorem Advance.no_delivery {c : Checkpoint} {r : TransitionRequest} (h : Advance x s a c r) (hr : RowsInv s)
    (hd : c.payload.currentState = .received → s.deliveryIntentsOf a.tenantId a.workflowId = [])
    (hshape : Shaped r.nextState r.resumeState) (hstate : r.nextState = .needsReconciliation)
    (hresume : r.resumeState ≠ .delivering) (id : DeliveryIntentId) :
    EffectId.delivery id ∉ (r.checkpoint c.payload).completedIntentIds := by
  rw [hstate] at hshape
  cases h with
  | reconcile _ state =>
      have hreceived : c.payload.currentState = .received := state.resolve_right hresume
      have hnone : EffectId.delivery id ∉ s.effectIds a := delivery_not_effect (hd hreceived)
      exact fun hmem => hnone (completedIds_subset ((mem_allCompletedIds hr.ticket).mp hmem))
  | reconciled =>
      have hresumed : c.payload.resumeState = .needsReconciliation := hstate
      have hmem : c.payload.resumeState ∈ reconcilable := hshape
      rw [hresumed] at hmem
      exact absurd hmem (by decide)
  | deliveryReconciled _ _ resume => exact absurd (resume.symm.trans hstate) nofun
  | _ => cases hstate

/-! ## What the next checkpoint keeps -/

/-- A checkpoint leaves a reconciliation of the ticket, in which the one before it was. -/
def Checkpoint.LeavesTicket (q p : Checkpoint) : Prop :=
  q.transitionKind = some .reconciliationComplete ∧ p.payload.resumeState ≠ .delivering

def EffectId.isDelivery : EffectId → Bool
  | .ticket _ => false
  | .delivery _ => true

/-- **What a checkpoint keeps of the effects of the one before it**: all that are completed, and of those that
    are pending all but a delivery where it leaves a reconciliation of the ticket. -/
structure KeepsEffects (p q : Checkpoint) : Prop where
  completed : p.payload.completedIntentIds ⊆ q.payload.completedIntentIds
  pending : ∀ e ∈ p.payload.pendingIntentIds,
    e ∈ q.payload.pendingIntentIds ∪ q.payload.completedIntentIds ↔
      ¬ (e.isDelivery = true ∧ q.LeavesTicket p)

/-- **A new checkpoint keeps them.** -/
theorem RecordsFrom.keeps {c : Checkpoint} {env : Env} {r : CheckpointRequest}
    (h : RecordsFrom s a c.payload r) (hs : TicketInv s) (hc : Known s a c)
    (hd : c.payload.currentState = .received → s.deliveryIntentsOf a.tenantId a.workflowId = []) :
    KeepsEffects c (s.checkpointFor env a r) := by
  have hstays : ¬ r.LeavesTicket c.payload → ∀ e : EffectId,
      ¬ (e.isDelivery = true ∧ (s.checkpointFor env a r).LeavesTicket c) :=
    fun hnot e hleaves => hnot hleaves.2
  cases h with
  | same stays pending completed =>
      constructor
      · exact completed.symm.subset
      · intro e he
        refine iff_of_true (Finset.mem_union_left _ ?_) (hstays stays e)
        show e ∈ r.pendingIntentIds
        rwa [pending]
  | all stays pending completed =>
      constructor
      · intro e he
        show e ∈ r.completedIntentIds
        rw [completed, mem_allCompletedIds hs]
        exact hc.completed e he
      · intro e he
        refine iff_of_true ?_ (hstays stays e)
        show e ∈ r.pendingIntentIds ∪ r.completedIntentIds
        rw [pending, completed, ← mem_effectIds_iff hs]
        exact hc.effects e (Finset.mem_union_left _ he)
  | tickets stays state pending completed =>
      -- no delivery has begun
      have hticket : ∀ e ∈ s.effectIds a, ∃ id, e = .ticket id := by
        intro e he
        cases e with
        | ticket id => exact ⟨id, rfl⟩
        | delivery id => exact absurd he (delivery_not_effect (hd state))
      constructor
      · intro e he
        obtain ⟨id, rfl⟩ := hticket e (hc.effects e (Finset.mem_union_right _ he))
        show EffectId.ticket id ∈ r.completedIntentIds
        rw [completed, ← mem_completedIds_ticket hs]
        exact hc.completed _ he
      · intro e he
        have heffect := hc.effects e (Finset.mem_union_left _ he)
        obtain ⟨id, rfl⟩ := hticket e heffect
        refine iff_of_true ?_ (hstays stays _)
        show EffectId.ticket id ∈ r.pendingIntentIds ∪ r.completedIntentIds
        rw [pending, completed, Finset.mem_union, mem_unresolvedTicketIds, mem_completedTicketIds hs]
        obtain ⟨i, hi, rfl⟩ := mem_effectIds_ticket heffect
        by_cases hdone : s.completionsOf a.tenantId i.intentId = []
        · exact Or.inl ⟨i, hi, hdone, rfl⟩
        · exact Or.inr ⟨i, hi, hdone, rfl⟩
  | reconciled leaves state resolved pending completed =>
      have hcompleted : ∀ id, EffectId.ticket id ∈ s.effectIds a →
          EffectId.ticket id ∈ s.completedTicketIds a.tenantId a.workflowId := by
        intro id he
        obtain ⟨i, hi, rfl⟩ := mem_effectIds_ticket he
        rw [mem_completedTicketIds hs]
        refine ⟨i, hi, fun hnone => ?_, rfl⟩
        have hpending : EffectId.ticket i.intentId ∈ s.unresolvedTicketIds a.tenantId a.workflowId :=
          mem_unresolvedTicketIds.mpr ⟨i, hi, hnone, rfl⟩
        unfold WorkflowStore.unresolvedTicketIds at hpending
        rw [resolved] at hpending
        simp at hpending
      have hnodelivery : ∀ id, EffectId.delivery id ∉ s.completedTicketIds a.tenantId a.workflowId := by
        intro id he
        obtain ⟨i, -, -, heq⟩ := (mem_completedTicketIds hs).mp he
        cases heq
      constructor
      · intro e he
        show e ∈ r.completedIntentIds
        rw [completed]
        cases e with
        | ticket id => exact (mem_completedIds_ticket hs).mp (hc.completed _ he)
        | delivery id => exact absurd he (hc.ticket state leaves.2 id)
      · intro e he
        have heffect := hc.effects e (Finset.mem_union_left _ he)
        have hunion : e ∈ (s.checkpointFor env a r).payload.pendingIntentIds ∪
            (s.checkpointFor env a r).payload.completedIntentIds ↔
            e ∈ s.completedTicketIds a.tenantId a.workflowId := by
          show e ∈ r.pendingIntentIds ∪ r.completedIntentIds ↔ _
          rw [pending, completed, Finset.empty_union]
        rw [hunion]
        cases e with
        | ticket id => exact iff_of_true (hcompleted id heffect) fun hleaves => Bool.false_ne_true hleaves.1
        | delivery id => exact iff_of_false (hnodelivery id) fun hnot => hnot ⟨rfl, leaves⟩

/-! ## Every journal -/

/-- **The invariant of effects and checkpoints.** -/
structure EffectsInv (s : WorkflowStore) : Prop where
  behind : BehindTicketInv s
  begun : DeliveryBegunInv s
  known : ∀ a ∈ s.journal.activations, ∀ c ∈ s.checkpointRows a.tenantId a.workflowId, Known s a c
  kept : ∀ a ∈ s.journal.activations, (s.checkpointRows a.tenantId a.workflowId).IsChain KeepsEffects

theorem effectsInv_empty : EffectsInv {} where
  behind := fun c hc => by simp at hc
  begun := fun a ha => by simp at ha
  known := fun a ha => by simp at ha
  kept := fun a ha => by simp at ha

/-- In RECEIVED no delivery has begun. -/
theorem EffectsInv.not_begun {c : Checkpoint} (hs : EffectsInv s) (ha : a ∈ s.journal.activations)
    (hlatest : s.latestCheckpoint? a.tenantId a.workflowId = some c)
    (hstate : c.payload.currentState = .received) : s.deliveryIntentsOf a.tenantId a.workflowId = [] := by
  by_contra hne
  obtain ⟨-, d, hd, hnot⟩ := hs.begun a ha hne
  obtain rfl := Option.some.inj (hlatest.symm.trans hd)
  exact hnot (Or.inl (hstate ▸ rfl))

/-- **The new checkpoint of a transaction** knows its effects, and keeps those of the one before it. -/
theorem CheckpointOk.known_keeps {r : CheckpointRequest} (hok : CheckpointOk x s a r)
    (hreason : Reason x s a r ∨ ∃ part, Prepares x s a part r) (hj : JournalInv s)
    (hshape : Shaped r.currentState r.resumeState) (hr : RowsInv s) (hs : EffectsInv s) :
    Known s a (s.checkpointFor x.env a r) ∧
    ∀ c, s.latestCheckpoint? a.tenantId a.workflowId = some c → KeepsEffects c (s.checkpointFor x.env a r) := by
  have ha := hok.mem
  cases hlatest : s.latestCheckpoint? a.tenantId a.workflowId with
  | none =>
      -- the first checkpoint records no effects
      refine ⟨?_, fun c hc => nomatch hc⟩
      have hfirst : r = initialRequest a := by
        rcases hreason with hreason | ⟨part, hreason⟩
        · exact (hreason.link hj ha).first hlatest
        · cases hreason with
          | initial => rfl
          | command latest => exact absurd (latest.symm.trans hlatest) nofun
      subst hfirst
      refine ⟨fun e he => ?_, fun e he => absurd he (Finset.notMem_empty e), fun _ _ id => Finset.notMem_empty _⟩
      exact ((Finset.mem_union.mp he).elim (Finset.notMem_empty e) (Finset.notMem_empty e)).elim
  | some c =>
      have hc : Known s a c := by
        rw [hj.latest_eq ha] at hlatest
        exact hs.known a ha c (List.mem_of_getLast? hlatest)
      have hrecords : RecordsFrom s a c.payload r := by
        rcases hreason with hreason | ⟨part, hreason⟩
        · exact hreason.records hr hj ha hlatest
        · exact hreason.records hlatest
      have hbefore := hs.not_begun ha hlatest
      obtain ⟨heffects, hcompleted⟩ := hrecords.known hr.ticket hc
      refine ⟨⟨heffects, hcompleted, fun hstate hresume id => ?_⟩, ?_⟩
      · rcases hreason with hreason | ⟨part, hreason⟩
        · cases hreason with
          | ticketProgress => cases hstate
          | deliveryProgress => cases hstate
          | advance latest advance =>
              obtain rfl := Option.some.inj (latest.symm.trans hlatest)
              exact advance.no_delivery hr hbefore hshape hstate hresume id
        · cases hreason with
          | initial => cases hstate
          | command latest _ _ _ _ applies =>
              exact applies.no_delivery ha hr hs.begun hshape hstate id
      · intro d hd
        obtain rfl := Option.some.inj hd
        exact hrecords.keeps hr.ticket hc hbefore

/-- **Every transaction keeps the invariant.** -/
theorem Effect.effectsInv (h : Effect x s part s') (hj : JournalInv s) (hr : RowsInv s) (hs : EffectsInv s) :
    EffectsInv s' := by
  have hbehind := h.behindTicketInv hs.behind
  have hbegun := h.deliveryBegunInv hj hr.delivery hs.behind hs.begun
  have hmono : ∀ {a c}, Known s a c → Known s' a c :=
    fun hc => hc.mono h.effectIds_subset h.completedIds_subset
  cases h.appends with
  | nothing activations checkpoints =>
      have hrows : ∀ t w, s'.checkpointRows t w = s.checkpointRows t w := by
        intro t w
        unfold WorkflowStore.checkpointRows
        rw [checkpoints]
      refine ⟨hbehind, hbegun, fun a ha c hc => ?_, fun a ha => ?_⟩
      · rw [activations] at ha
        rw [hrows] at hc
        exact hmono (hs.known a ha c hc)
      · rw [activations] at ha
        rw [hrows]
        exact hs.kept a ha
  | @activation a fresh activations checkpoints =>
      have hrows : ∀ t w, s'.checkpointRows t w = s.checkpointRows t w := by
        intro t w
        unfold WorkflowStore.checkpointRows
        rw [checkpoints]
      -- the new workflow has no checkpoints
      have hnew : s.checkpointRows a.tenantId a.workflowId = [] := by
        refine List.filter_eq_nil_iff.mpr fun c hc hkey => ?_
        rw [decide_eq_true_eq] at hkey
        obtain ⟨b, hb, ht, hw⟩ := hj.owned c hc
        have hclash := fresh b hb
        simp [WorkflowActivation.clash, hkey.1.symm.trans ht, hkey.2.symm.trans hw] at hclash
      refine ⟨hbehind, hbegun, fun b hb c hc => ?_, fun b hb => ?_⟩
      · rw [activations] at hb
        rw [hrows] at hc
        rcases List.mem_append.mp hb with hb | hb
        · exact hmono (hs.known b hb c hc)
        · rw [List.mem_singleton.mp hb, hnew] at hc
          exact absurd hc List.not_mem_nil
      · rw [activations] at hb
        rw [hrows]
        rcases List.mem_append.mp hb with hb | hb
        · exact hs.kept b hb
        · rw [List.mem_singleton.mp hb, hnew]
          exact .nil
  | @checkpoint a r ok reason eq =>
      have ha' : a ∈ s'.journal.activations := h.grows.activations.subset ok.mem
      have hrows : s'.checkpointRows a.tenantId a.workflowId =
          s.checkpointRows a.tenantId a.workflowId ++ [s.checkpointFor x.env a r] := by
        rw [eq, WorkflowStore.checkpointRows_withCheckpoint]
      have hshape : Shaped r.currentState r.resumeState := by
        have hchain := (h.journalInv hj).chain a ha'
        rw [hrows] at hchain
        exact (hchain.appended _ (List.mem_append_right _ (List.mem_singleton_self _))).2.2
      obtain ⟨hknown, hkeeps⟩ := ok.known_keeps reason hj hshape hr hs
      refine ⟨hbehind, hbegun, fun b hb c hc => ?_, fun b hb => ?_⟩
      · rw [eq] at hb
        by_cases hab : a.tenantId = b.tenantId ∧ a.workflowId = b.workflowId
        · obtain rfl := hj.activation_unique ok.mem hb hab.1 hab.2
          rw [hrows] at hc
          rcases List.mem_append.mp hc with hc | hc
          · exact hmono (hs.known a ok.mem c hc)
          · rw [List.mem_singleton.mp hc]
            exact hmono hknown
        · rw [eq, WorkflowStore.checkpointRows_other hab] at hc
          exact hmono (hs.known b hb c hc)
      · rw [eq] at hb
        by_cases hab : a.tenantId = b.tenantId ∧ a.workflowId = b.workflowId
        · obtain rfl := hj.activation_unique ok.mem hb hab.1 hab.2
          rw [hrows, List.isChain_append]
          refine ⟨hs.kept a ok.mem, List.isChain_singleton _, fun c hc d hd => ?_⟩
          rw [List.head?_cons, Option.mem_some_iff] at hd
          subst hd
          refine hkeeps c ?_
          rw [hj.latest_eq ok.mem]
          exact hc
        · rw [eq, WorkflowStore.checkpointRows_other hab]
          exact hs.kept b hb

end WeFlow
