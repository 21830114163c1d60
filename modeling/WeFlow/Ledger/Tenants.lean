import WeFlow.Base.Unwinding
import WeFlow.Ledger.Agreement
import WeFlow.Ledger.Queries

/-!
# `Tenants` — what other tenants do is not seen

All tenants share the tables of the ledger. `LedgerStore.of` is one tenant's part of them. A tenant's own
call answers and writes according to its part alone (`step_of`), and other tenants' calls leave the part as
it is (`step_other`): these are the conditions of `Unwinding`. The one call that reads every tenant's rows
is the rebuild of the read model, which fails for all if it fails for one; it never does, on a store that
the ledger wrote (`LedgerInv.rebuild`).

## Contents

* `LedgerOp`, `LedgerAnswer`, `LedgerStore.step` — every public call with its answer.
* `LedgerStore.of` — one tenant's part.
* `tenant_noninterference`.
-/

namespace WeFlow

open Txn SQLiteCaseLedger

/-! ## Calls -/

/-- The calls of the ledger; a writing one comes with the clock reading that it sees, and a rebuild with
    the tenant on whose behalf the ledger is opened. -/
inductive LedgerOp where
  | intake (now : Instant) (envelope : InboundMessageEvent) (effectiveTenantId : String)
  | intakeQq (now : Instant) (envelope : QQSandboxInboundEvent) (effectiveTenantId : String)
  | appendWorkflowStateEvent (event : WorkflowStateEvent)
  | rebuildProjection (tenantId : String)
  | hasQqReceipt (envelope : QQSandboxInboundEvent) (effectiveTenantId : String)
  | getCaseProjection (tenantId : String) (caseId : CaseId)
  | listCaseRevisions (tenantId : String) (caseId : CaseId)
  | listCaseEvents (tenantId : String) (caseId : CaseId)
  | exportSnapshot (tenantId : String)
  | sourceCounts (tenantId : String)

def LedgerOp.tenantId : LedgerOp → String
  | intake _ _ tenantId | intakeQq _ _ tenantId | rebuildProjection tenantId | hasQqReceipt _ tenantId
  | getCaseProjection tenantId _ | listCaseRevisions tenantId _ | listCaseEvents tenantId _
  | exportSnapshot tenantId | sourceCounts tenantId => tenantId
  | appendWorkflowStateEvent event => event.tenantId

/-- What a call returns or raises. -/
inductive LedgerAnswer where
  | intake (result : Except LedgerError IntakeResult)
  | event (result : Except LedgerError EventId)
  | rebuilt (result : Except LedgerError Unit)
  | receipt (result : Except LedgerError Bool)
  | projection (result : Except LedgerError (Option CaseProjection))
  | revisions (result : Except LedgerError (List CaseRevision))
  | events (result : Except LedgerError (List BusinessEvent))
  | snapshot (snapshot : Sealed LedgerSnapshot)
  | counts (counts : SourceCounts)

namespace LedgerStore

/-- **One call**: its answer, and the store it commits. -/
def step (text : LedgerText) (s : LedgerStore) : LedgerOp → LedgerAnswer × LedgerStore
  | .intake now envelope tenantId =>
      let r := s.intake now envelope tenantId
      (.intake (r.map (·.1)), s.committed r)
  | .intakeQq now envelope tenantId =>
      let r := s.intakeQq now envelope tenantId
      (.intake (r.map (·.1)), s.committed r)
  | .appendWorkflowStateEvent event =>
      let r := s.appendWorkflowStateEvent event
      (.event (r.map (·.1)), s.committed r)
  | .rebuildProjection _ =>
      let r := s.rebuildProjection.map fun s' => ((), s')
      (.rebuilt (r.map (·.1)), s.committed r)
  | .hasQqReceipt envelope tenantId => (.receipt (s.hasQqReceipt envelope tenantId), s)
  | .getCaseProjection tenantId caseId => (.projection (SQLiteCaseLedger.getCaseProjection tenantId caseId s), s)
  | .listCaseRevisions tenantId caseId => (.revisions (SQLiteCaseLedger.listCaseRevisions tenantId caseId s), s)
  | .listCaseEvents tenantId caseId => (.events (SQLiteCaseLedger.listCaseEvents tenantId caseId s), s)
  | .exportSnapshot tenantId => (.snapshot (s.exportSnapshot text tenantId), s)
  | .sourceCounts tenantId => (.counts (s.sourceCounts tenantId), s)

/-! ## One tenant's part -/

/-- The rows of one tenant. -/
def of (t : String) (s : LedgerStore) : LedgerStore where
  inboundReceipts := s.inboundReceipts.filter (·.tenantId = t)
  conversationCursors := s.conversationCursors.filter (·.tenantId = t)
  cases := s.cases.filter (·.tenantId = t)
  caseRevisions := s.caseRevisions.filter (·.tenantId = t)
  businessEvents := s.businessEvents.filter (·.tenantId = t)
  caseProjection := s.caseProjection.filter (·.tenantId = t)

variable {s : LedgerStore} {t : String}

/-- A query of a tenant's rows finds them in its part. -/
theorem filter_filter_tenant {ρ : Type} {tenantId : ρ → String} {q : ρ → Bool}
    (hq : ∀ r, q r = true → tenantId r = t) (rows : List ρ) :
    (rows.filter fun r => tenantId r = t).filter q = rows.filter q := by
  rw [List.filter_filter]
  refine List.filter_congr fun r _ => ?_
  cases h : q r with
  | false => rfl
  | true => simp [hq r h]

theorem receipt?_of (s : LedgerStore) (t : String) (key : DeliveryKey) :
    (s.of t).receipt? t key = s.receipt? t key :=
  Table.find?_filter_of_imp (fun r h => by simp_all) _

theorem cursor?_of (s : LedgerStore) (t : String) (channel : Channel) (conversationId : String) :
    (s.of t).cursor? ⟨t, channel, conversationId⟩ = s.cursor? ⟨t, channel, conversationId⟩ :=
  Table.find?_filter_of_imp (fun c h => by simp_all [ConversationCursor.key]) _

theorem projection?_of (s : LedgerStore) (t : String) (caseId : CaseId) :
    (s.of t).projection? t caseId = s.projection? t caseId :=
  Table.find?_filter_of_imp (fun p h => by simp_all) _

theorem revisionsOf_of (s : LedgerStore) (t : String) (caseId : CaseId) :
    (s.of t).revisionsOf t caseId = s.revisionsOf t caseId :=
  filter_filter_tenant (fun r h => by simp_all) _

theorem eventRows_of (s : LedgerStore) (t : String) (caseId : CaseId) :
    (s.of t).eventRows t caseId = s.eventRows t caseId :=
  filter_filter_tenant (fun e h => by simp_all) _

/-! ## A tenant's own calls -/

/-- A call returns alike on the whole store and on the tenant's part, and commits alike. -/
def Restricts (t : String) {α : Type} (x y : α × LedgerStore) : Prop := x.1 = y.1 ∧ x.2.of t = y.2

/-- Inserting a row of the tenant. -/
theorem related_insert {ρ : Type} {tenantId : ρ → String} {clash : ρ → ρ → Bool} {r : ρ} {rows : List ρ}
    {e : LedgerError} (hr : tenantId r = t) (hclash : ∀ x, clash r x = true → tenantId x = t) :
    Related (fun a b => a.filter (fun x => tenantId x = t) = b) (fetch (Table.insert? clash r rows) e)
      (fetch (Table.insert? clash r (rows.filter fun x => tenantId x = t)) e) := by
  have hinsert : Table.insert? clash r (rows.filter fun x => tenantId x = t) =
      (Table.insert? clash r rows).map (·.filter fun x => tenantId x = t) :=
    Table.insert?_filter (by simpa using hr) fun x hx => by simpa using hclash x hx
  refine related_fetch (fun rows' hrows => ?_) fun hrows => ?_
  · exact ⟨_, by rw [hinsert, hrows]; rfl, rfl⟩
  · rw [hinsert, hrows]
    rfl

theorem related_insertEvents {events rows : List BusinessEvent} (hevents : ∀ e ∈ events, e.tenantId = t) :
    Related (fun a b => a.filter (·.tenantId = t) = b) (insertEvents events rows)
      (insertEvents events (rows.filter (·.tenantId = t))) := by
  induction events generalizing rows with
  | nil => exact related_pure rfl
  | cons e events ih =>
      rw [insertEvents, insertEvents, List.foldlM_cons, List.foldlM_cons]
      have he := hevents e List.mem_cons_self
      refine related_bind (related_insert he fun x hx => ?_) fun rows' rows'' hrows => ?_
      · simp only [BusinessEvent.clash, decide_eq_true_eq] at hx
        rw [← hx.1, he]
      · rw [← hrows]
        exact ih fun e' he' => hevents e' (List.mem_cons_of_mem _ he')

/-- A tenant's cursor among its own. -/
theorem upsert_of (s : LedgerStore) (t : String) (channel : Channel) (conversationId : String)
    (sequence : Nat) :
    (Table.upsert ConversationCursor.key ConversationCursor.merge ⟨t, channel, conversationId, sequence⟩
        s.conversationCursors).filter (·.tenantId = t) =
      Table.upsert ConversationCursor.key ConversationCursor.merge ⟨t, channel, conversationId, sequence⟩
        (s.of t).conversationCursors := by
  have htenant : ∀ c : ConversationCursor, c.key = ⟨t, channel, conversationId⟩ → c.tenantId = t :=
    fun c hc => congrArg CursorKey.tenantId hc
  rw [Table.filter_upsert (fun c hc => by simp [htenant c hc]) fun c hc => rfl, if_pos (decide_eq_true rfl)]
  rfl

theorem intakeValidated_of (now : Instant) (p : IntakePayload) (s : LedgerStore) (t : String) :
    Related (Restricts t) (s.intakeValidated now p t) ((s.of t).intakeValidated now p t) := by
  unfold intakeValidated
  rw [receipt?_of, cursor?_of]
  cases s.receipt? t (deliveryKeyOf t p) with
  | some receipt => exact related_bind (related_require _ _) fun _ _ _ => related_pure ⟨rfl, rfl⟩
  | none =>
      refine related_bind (related_require _ _) fun _ _ _ => related_bind (related_require _ _) fun _ _ _ =>
        related_bind (related_require _ _) fun _ _ _ => related_bind (related_require _ _) fun _ _ _ =>
        related_bind (related_insert rfl ?_) fun cases cases' hcases =>
        related_bind (related_insert rfl ?_) fun revisions revisions' hrevisions =>
        related_bind (related_insertEvents ?_) fun events events' hevents =>
        related_bind (related_insert rfl ?_) fun receipts receipts' hreceipts =>
        related_bind (related_self _) ?_
      · exact fun c hc => (of_decide_eq_true hc).1.symm
      · exact fun r hr => (of_decide_eq_true hr).1.symm
      · exact fun e he => (newEvents_key he).1
      · exact fun r hr => (of_decide_eq_true hr).1.symm
      · rintro projection _ ⟨rfl, hprojection⟩
        have htenant : projection.tenantId = t := by
          obtain ⟨_, _, _, _, _, rfl⟩ := projectionFromRecords_eq_ok.mp hprojection
          rfl
        refine related_bind (related_insert htenant fun q hq => ?_) fun projections projections' hprojections =>
          related_pure ⟨rfl, ?_⟩
        · exact (of_decide_eq_true hq).1.symm.trans htenant
        · have hcursors := upsert_of s t p.channel p.conversationId p.conversationSequence
          rw [of, hreceipts, hcases, hrevisions, hevents, hprojections, hcursors]

theorem intake_of (now : Instant) (envelope : InboundMessageEvent) (s : LedgerStore) (t : String) :
    Related (Restricts t) (s.intake now envelope t) ((s.of t).intake now envelope t) :=
  related_bind (related_require _ _) fun _ _ _ => related_bind (related_require _ _) fun _ _ _ =>
    intakeValidated_of now _ s t

theorem intakeQq_of (now : Instant) (envelope : QQSandboxInboundEvent) (s : LedgerStore) (t : String) :
    Related (Restricts t) (s.intakeQq now envelope t) ((s.of t).intakeQq now envelope t) :=
  related_bind (related_require _ _) fun _ _ _ => related_bind (related_require _ _) fun _ _ _ =>
    intakeValidated_of now _ s t

theorem appendWorkflowStateEvent_of (a : WorkflowStateEvent) (s : LedgerStore) :
    Related (Restricts a.tenantId) (s.appendWorkflowStateEvent a)
      ((s.of a.tenantId).appendWorkflowStateEvent a) := by
  unfold appendWorkflowStateEvent
  rw [projection?_of, revisionsOf_of, eventRows_of]
  refine related_bind (related_require _ _) fun _ _ _ => related_bind (related_require _ _) fun _ _ _ =>
    related_bind (related_self _) ?_
  rintro projection _ ⟨rfl, -⟩
  refine related_bind (related_require _ _) fun _ _ _ => related_bind (related_require _ _) fun _ _ _ => ?_
  dsimp only
  cases (s.eventRows a.tenantId a.caseId).find? (fun e =>
      decide (e.workflowId = some a.workflowId ∧ e.workflowCheckpointId = some a.checkpointId)) with
  | some existing => exact related_bind (related_require _ _) fun _ _ _ => related_pure ⟨rfl, rfl⟩
  | none =>
      refine related_bind (related_require _ _) fun _ _ _ => related_bind (related_require _ _) fun _ _ _ =>
        related_bind (related_insert rfl fun e he => ?_) fun events events' hevents => related_pure ⟨rfl, ?_⟩
      · exact (of_decide_eq_true he).1.symm
      · have hprojections := Table.filter_modify (t := s.caseProjection)
          (p := fun p => decide (p.tenantId = a.tenantId))
          (q := fun p => decide (p.tenantId = a.tenantId ∧ p.caseId = a.caseId))
          (f := fun p => { p with
            state := a.toState
            eventCount := nextEventIndex (s.eventRows a.tenantId a.caseId)
            updatedAt := a.occurredAt }) fun _ _ => rfl
        rw [of, hevents, hprojections]
        rfl

/-! ## Other tenants' calls -/

theorem Accepted.of_other {now : Instant} {p : IntakePayload} {tenantId : String} {s s' : LedgerStore}
    (h : Accepted now p tenantId s s') (ht : tenantId ≠ t) : s'.of t = s.of t := by
  obtain ⟨projection, hprojection, hprojections⟩ := h.caseProjection
  obtain ⟨_, _, _, _, _, rfl⟩ := projectionFromRecords_eq_ok.mp hprojection
  have hcursors : s'.conversationCursors.filter (·.tenantId = t) =
      s.conversationCursors.filter (·.tenantId = t) := by
    rw [h.conversationCursors, Table.filter_upsert (fun c hc => ?_) fun c hc => rfl]
    · exact if_neg (by simpa using ht)
    · rw [show c.tenantId = tenantId from congrArg CursorKey.tenantId hc]
  have hevents : ∀ e ∈ newEvents now p tenantId, decide (e.tenantId = t) = false := by
    intro e he
    rw [(newEvents_key he).1]
    exact decide_eq_false ht
  rw [of, hcursors, h.inboundReceipts, h.cases, h.caseRevisions, h.businessEvents, hprojections,
    Table.filter_append_other hevents, Table.filter_append_other, Table.filter_append_other,
    Table.filter_append_other, Table.filter_append_other]
  · rfl
  all_goals
    intro r hr
    rw [List.mem_singleton.mp hr]
    exact decide_eq_false ht

theorem Appended.of_other {a : WorkflowStateEvent} {s s' : LedgerStore} (h : Appended a s s')
    (ht : a.tenantId ≠ t) : s'.of t = s.of t := by
  have hprojections := Table.filter_modify_other (t := s.caseProjection) (p := fun p => decide (p.tenantId = t))
    (q := fun p => decide (p.tenantId = a.tenantId ∧ p.caseId = a.caseId))
    (f := fun p => { p with
      state := a.toState
      eventCount := nextEventIndex (s.eventRows a.tenantId a.caseId)
      updatedAt := a.occurredAt })
    (fun p hp => by simp_all) fun p hp => by simp_all
  rw [h.stored, of]
  dsimp only
  rw [hprojections, Table.filter_append_other]
  · rfl
  · intro e he
    rw [List.mem_singleton.mp he]
    exact decide_eq_false ht

/-- **A call of another tenant leaves the part as it is.** -/
theorem step_other (text : LedgerText) (hs : s.LedgerInv) (op : LedgerOp) (ht : op.tenantId ≠ t) :
    (s.step text op).2.of t = s.of t := by
  have hintake : ∀ {now : Instant} {p : IntakePayload} {tenantId : String} {s' : LedgerStore}
      {r : IntakeResult}, tenantId ≠ t → s.intakeValidated now p tenantId = .ok (r, s') →
      s'.of t = s.of t := by
    intro now p tenantId s' r hne h
    rcases intakeValidated_cases h with rfl | hacc
    · rfl
    · exact hacc.of_other hne
  cases op with
  | intake now envelope tenantId =>
      show (s.committed (s.intake now envelope tenantId)).of t = s.of t
      cases h : s.intake now envelope tenantId with
      | error e => rfl
      | ok r =>
          simp only [intake, require_bind_eq_ok] at h
          exact hintake ht h.2.2
  | intakeQq now envelope tenantId =>
      show (s.committed (s.intakeQq now envelope tenantId)).of t = s.of t
      cases h : s.intakeQq now envelope tenantId with
      | error e => rfl
      | ok r =>
          simp only [intakeQq, require_bind_eq_ok] at h
          exact hintake ht h.2.2
  | appendWorkflowStateEvent event =>
      show (s.committed (s.appendWorkflowStateEvent event)).of t = s.of t
      cases h : s.appendWorkflowStateEvent event with
      | error e => rfl
      | ok r =>
          rcases appendWorkflowStateEvent_cases h with ⟨heq, -⟩ | happ
          · exact congrArg (of t) heq
          · exact happ.of_other ht
  | rebuildProjection tenantId =>
      show (s.committed (s.rebuildProjection.map fun s' => ((), s'))).of t = s.of t
      rw [hs.rebuild]
      rfl
  | hasQqReceipt | getCaseProjection | listCaseRevisions | listCaseEvents | exportSnapshot | sourceCounts => rfl

/-! ## Noninterference -/

/-- A transaction that restricts answers and commits alike on two stores with one part. -/
theorem committed_alike {α : Type} {f : LedgerStore → Except LedgerError (α × LedgerStore)}
    (hf : ∀ s, Related (Restricts t) (f s) (f (s.of t))) {s s' : LedgerStore} (hview : s.of t = s'.of t) :
    (f s).map (·.1) = (f s').map (·.1) ∧ (s.committed (f s)).of t = (s'.committed (f s')).of t := by
  have hone : ∀ s : LedgerStore, (f s).map (·.1) = (f (s.of t)).map (·.1) ∧
      (s.committed (f s)).of t = (s.of t).committed (f (s.of t)) := by
    intro s
    have h := hf s
    cases hx : f s with
    | error e =>
        cases hy : f (s.of t) with
        | error e' =>
            rw [hx, hy] at h
            exact ⟨congrArg Except.error h, rfl⟩
        | ok b =>
            rw [hx, hy] at h
            exact h.elim
    | ok a =>
        cases hy : f (s.of t) with
        | error e' =>
            rw [hx, hy] at h
            exact h.elim
        | ok b =>
            rw [hx, hy] at h
            exact ⟨congrArg Except.ok h.1, h.2⟩
  obtain ⟨hanswer, hstore⟩ := hone s
  obtain ⟨hanswer', hstore'⟩ := hone s'
  rw [← hview] at hanswer' hstore'
  exact ⟨hanswer.trans hanswer'.symm, hstore.trans hstore'.symm⟩

/-- A query that reads the part alone answers alike on two stores with one part. -/
theorem read_alike {α : Type} {f : LedgerStore → α} (hf : ∀ s, f (s.of t) = f s) {s s' : LedgerStore}
    (hview : s.of t = s'.of t) : f s = f s' := by
  rw [← hf s, hview, hf s']

theorem hasQqReceipt_of (envelope : QQSandboxInboundEvent) (t : String) (s : LedgerStore) :
    (s.of t).hasQqReceipt envelope t = s.hasQqReceipt envelope t := by
  rw [hasQqReceipt, receipt?_of]
  rfl

theorem getCaseProjection_of (t : String) (caseId : CaseId) (s : LedgerStore) :
    SQLiteCaseLedger.getCaseProjection t caseId (s.of t) = SQLiteCaseLedger.getCaseProjection t caseId s := by
  rw [SQLiteCaseLedger.getCaseProjection, projection?_of]
  rfl

theorem listCaseRevisions_of (t : String) (caseId : CaseId) (s : LedgerStore) :
    SQLiteCaseLedger.listCaseRevisions t caseId (s.of t) = SQLiteCaseLedger.listCaseRevisions t caseId s := by
  rw [SQLiteCaseLedger.listCaseRevisions, revisionsOf_of]
  rfl

theorem listCaseEvents_of (t : String) (caseId : CaseId) (s : LedgerStore) :
    SQLiteCaseLedger.listCaseEvents t caseId (s.of t) = SQLiteCaseLedger.listCaseEvents t caseId s := by
  rw [SQLiteCaseLedger.listCaseEvents, eventRows_of]
  rfl

theorem exportSnapshot_of (text : LedgerText) (t : String) (s : LedgerStore) :
    (s.of t).exportSnapshot text t = s.exportSnapshot text t := by
  simp only [exportSnapshot, of, List.filter_filter, Bool.and_self]

theorem sourceCounts_of (t : String) (s : LedgerStore) : (s.of t).sourceCounts t = s.sourceCounts t := by
  simp only [sourceCounts, of, List.filter_filter, Bool.and_self]

/-- **A tenant's own call** answers and writes according to its part alone. -/
theorem step_of (text : LedgerText) {s s' : LedgerStore} (hs : s.LedgerInv) (hs' : s'.LedgerInv)
    (op : LedgerOp) (hview : s.of op.tenantId = s'.of op.tenantId) :
    (s.step text op).1 = (s'.step text op).1 ∧
      (s.step text op).2.of op.tenantId = (s'.step text op).2.of op.tenantId := by
  cases op with
  | intake now envelope tenantId =>
      obtain ⟨hanswer, hstore⟩ := committed_alike (fun s => intake_of now envelope s tenantId) hview
      exact ⟨congrArg LedgerAnswer.intake hanswer, hstore⟩
  | intakeQq now envelope tenantId =>
      obtain ⟨hanswer, hstore⟩ := committed_alike (fun s => intakeQq_of now envelope s tenantId) hview
      exact ⟨congrArg LedgerAnswer.intake hanswer, hstore⟩
  | appendWorkflowStateEvent event =>
      obtain ⟨hanswer, hstore⟩ := committed_alike (fun s => appendWorkflowStateEvent_of event s) hview
      exact ⟨congrArg LedgerAnswer.event hanswer, hstore⟩
  | rebuildProjection tenantId =>
      -- neither store makes the rebuild fail, whose rows it may read
      simp only [step, hs.rebuild, hs'.rebuild]
      exact ⟨rfl, hview⟩
  | hasQqReceipt envelope tenantId =>
      exact ⟨congrArg LedgerAnswer.receipt (read_alike (hasQqReceipt_of envelope tenantId) hview), hview⟩
  | getCaseProjection tenantId caseId =>
      exact ⟨congrArg LedgerAnswer.projection (read_alike (getCaseProjection_of tenantId caseId) hview), hview⟩
  | listCaseRevisions tenantId caseId =>
      exact ⟨congrArg LedgerAnswer.revisions (read_alike (listCaseRevisions_of tenantId caseId) hview), hview⟩
  | listCaseEvents tenantId caseId =>
      exact ⟨congrArg LedgerAnswer.events (read_alike (listCaseEvents_of tenantId caseId) hview), hview⟩
  | exportSnapshot tenantId =>
      exact ⟨congrArg LedgerAnswer.snapshot (read_alike (exportSnapshot_of text tenantId) hview), hview⟩
  | sourceCounts tenantId =>
      exact ⟨congrArg LedgerAnswer.counts (read_alike (sourceCounts_of tenantId) hview), hview⟩

theorem step_inv (text : LedgerText) (hs : s.LedgerInv) (op : LedgerOp) : (s.step text op).2.LedgerInv := by
  cases op with
  | intake now envelope tenantId => exact call_inv hs (.intake now envelope tenantId)
  | intakeQq now envelope tenantId => exact call_inv hs (.intakeQq now envelope tenantId)
  | appendWorkflowStateEvent event => exact call_inv hs (.appendWorkflowStateEvent event)
  | rebuildProjection tenantId => exact call_inv hs .rebuildProjection
  | hasQqReceipt | getCaseProjection | listCaseRevisions | listCaseEvents | exportSnapshot | sourceCounts =>
      exact hs

/-- The ledger isolates each tenant's part. -/
theorem isolates (text : LedgerText) (t : String) :
    Unwinding.Isolates (step text) LedgerOp.tenantId t (of t) LedgerInv where
  keeps s op hs := step_inv text hs op
  own s s' op hs hs' hview ht := by
    subst ht
    exact step_of text hs hs' op hview
  other s op hs ht := step_other text hs op ht

/-- **Other tenants do not interfere.** In two runs in which a tenant makes the same calls, with the same
    clock readings, and other tenants any calls whatever in between, the tenant is answered alike, and its
    case projections, its revisions and events and its snapshot are equal at the end. -/
theorem tenant_noninterference (text : LedgerText) (t : String) (ops ops' : List LedgerOp) :
    (ops.filter fun op => op.tenantId = t) = (ops'.filter fun op => op.tenantId = t) →
      let s := Unwinding.final (step text) {} ops
      let s' := Unwinding.final (step text) {} ops'
      Unwinding.observed (step text) LedgerOp.tenantId t {} ops =
          Unwinding.observed (step text) LedgerOp.tenantId t {} ops' ∧
        (∀ caseId, SQLiteCaseLedger.getCaseProjection t caseId s = SQLiteCaseLedger.getCaseProjection t caseId s') ∧
        (∀ caseId, SQLiteCaseLedger.listCaseRevisions t caseId s = SQLiteCaseLedger.listCaseRevisions t caseId s') ∧
        (∀ caseId, SQLiteCaseLedger.listCaseEvents t caseId s = SQLiteCaseLedger.listCaseEvents t caseId s') ∧
        s.exportSnapshot text t = s'.exportSnapshot text t := by
  intro hsame s s'
  obtain ⟨hanswers, hview⟩ := (isolates text t).run ledgerInv_empty hsame
  exact ⟨hanswers, fun caseId => read_alike (getCaseProjection_of t caseId) hview,
    fun caseId => read_alike (listCaseRevisions_of t caseId) hview,
    fun caseId => read_alike (listCaseEvents_of t caseId) hview, read_alike (exportSnapshot_of text t) hview⟩

/-- The first message of a conversation that each tenant has under the same names. -/
def firstMessage (tenantId : String) : InboundMessageEvent where
  tenantId := tenantId
  channel := "synthetic-im"
  channelEventId := "event-1"
  conversationId := "conversation-1"
  senderId := "sender-1"
  customerId := "customer-1"
  conversationSequence := 1
  occurredAt := "2026-01-01T00:00:00Z"
  receivedAt := "2026-01-01T00:00:00Z"
  correlationId := "correlation-1"
  contentClassification := "synthetic"
  contentSha256 := "aaaaaaaaaaaaaaaaaaaaaaaaaaaaaaaaaaaaaaaaaaaaaaaaaaaaaaaaaaaaaaaa"

/-- The identifiers of the two cases that such messages open. -/
def firstCases : LedgerText where
  caseId id :=
    if id.digest.preimage.tenantId = "alpha" then "case_fb2353507191ccd0c6eaf9d3792633f3"
    else "case_5b735523ea065735bb21d5bb342af8fe"
  naturalKey _ := ""

/-- What `alpha` is answered when `bravo` delivers a message of the same names first. -/
theorem tenant_noninterference_example :
    Unwinding.observed (step firstCases) LedgerOp.tenantId "alpha" {}
        [.intake 1 (firstMessage "bravo") "bravo", .intake 2 (firstMessage "alpha") "alpha",
          .rebuildProjection "bravo", .exportSnapshot "alpha"] =
      Unwinding.observed (step firstCases) LedgerOp.tenantId "alpha" {}
        [.intake 2 (firstMessage "alpha") "alpha", .exportSnapshot "alpha"] :=
  (tenant_noninterference firstCases "alpha" _ _ rfl).1

end LedgerStore

end WeFlow
