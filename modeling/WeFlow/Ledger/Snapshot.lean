import WeFlow.Base.Reorder
import WeFlow.Ledger.Redelivery
import WeFlow.Ledger.Tenants

/-!
# `Snapshot` — a tenant's ledger written out and read back

`export_snapshot` writes the intake records of one tenant, `restore_snapshot` reads them into a fresh
store. The workflow events are left out (the workflow writes them again from its own journal), so what
is restored is the tenant's ledger as it was captured, before any workflow ran: `LedgerStore.captured`.
The rows come back in the order of the snapshot, which decides nothing (`SameRows`).

## Contents

* `restoreSnapshot` — the checks, the `INSERT`s and the rebuild.
* `captured`, `SnapshotInv` — what a snapshot holds, and why it can be read back.
* `SameRows.rebuild` — a rebuild does not depend on the order of the rows.
-/

namespace WeFlow

open Txn

/-! ## Reading a snapshot -/

/-- The reason codes of `restore_snapshot`. -/
inductive SnapshotError where
  | restoreRequiresFreshStore | hashMismatch | invalid | tenantMismatch
  | ledger (error : LedgerError)
  deriving DecidableEq, Repr

/-- The row that a record of a snapshot is inserted as. -/
def SnapshotEvent.row (e : SnapshotEvent) : BusinessEvent where
  tenantId := e.tenantId
  eventId := e.eventId
  caseId := e.caseId
  caseRevisionId := e.caseRevisionId
  eventType := e.eventType
  occurredAt := e.occurredAt
  receivedAt := e.receivedAt
  correlationId := e.correlationId
  causationId := e.causationId
  caseEventIndex := e.caseEventIndex
  payloadSha256 := e.payloadSha256
  metadata := e.metadata
  workflowId := none
  workflowCheckpointId := none

/-- The primary key of `conversation_cursors`. -/
def ConversationCursor.clash (a b : ConversationCursor) : Bool := a.key = b.key

namespace LedgerSnapshot

/-- Every record is the tenant's own. -/
def ofTenant (p : LedgerSnapshot) : Bool :=
  p.inboundReceipts.all (·.tenantId = p.tenantId) ∧ p.conversationCursors.all (·.tenantId = p.tenantId) ∧
  p.cases.all (·.tenantId = p.tenantId) ∧ p.caseRevisions.all (·.tenantId = p.tenantId) ∧
  p.businessEvents.all (·.tenantId = p.tenantId)

/-- The tables after the `INSERT`s into a fresh store. -/
def insertRows? (p : LedgerSnapshot) : Option LedgerStore := do
  let inboundReceipts ← Table.insertAll? InboundReceipt.clash p.inboundReceipts []
  let conversationCursors ← Table.insertAll? ConversationCursor.clash p.conversationCursors []
  let cases ← Table.insertAll? CaseRow.clash p.cases []
  let caseRevisions ← Table.insertAll? CaseRevision.clash p.caseRevisions []
  let businessEvents ← Table.insertAll? BusinessEvent.clash (p.businessEvents.map (·.row)) []
  return { inboundReceipts, conversationCursors, cases, caseRevisions, businessEvents }

end LedgerSnapshot

/-- **`restore_snapshot`** of the ledger. -/
def restoreSnapshot (targetExists : Bool) (snapshot : Sealed LedgerSnapshot) :
    Except SnapshotError LedgerStore := do
  require (!targetExists) .restoreRequiresFreshStore
  require snapshot.intact .hashMismatch
  require (nonEmpty snapshot.body.tenantId) .invalid
  require snapshot.body.ofTenant .tenantMismatch
  let rows ← fetch snapshot.body.insertRows? .invalid
  -- the read model is not part of a snapshot
  rows.rebuildProjection.mapError .ledger

/-! ## What a snapshot holds -/

/-- The row of the read model before any workflow event. -/
def CaseProjection.atIntake (p : CaseProjection) : CaseProjection :=
  { p with state := .received, eventCount := 3, updatedAt := .clock p.createdAt }

namespace LedgerStore

/-- **A tenant's ledger as it was captured**: its own rows, without what its workflows added. -/
def captured (t : String) (s : LedgerStore) : LedgerStore :=
  { s.of t with
    businessEvents := (s.of t).businessEvents.filter (·.workflowId.isNone)
    caseProjection := (s.of t).caseProjection.map (·.atIntake) }

variable {s s' : LedgerStore} {t : String}

/-- An initial event is numbered in its identifier and has no workflow. -/
theorem newEvents_row {now : Instant} {p : IntakePayload} {e : BusinessEvent} (he : e ∈ newEvents now p t) :
    e.eventId = eventIdOf e.caseId e.eventType e.caseEventIndex ∧ e.workflowId = none ∧
      e.workflowCheckpointId = none := by
  simp only [newEvents, initialEvents, List.mem_cons, List.not_mem_nil, or_false] at he
  rcases he with rfl | rfl | rfl <;> exact ⟨rfl, rfl, rfl⟩

/-- A delivery is captured as it was accepted. -/
theorem Accepted.captured {now : Instant} {p : IntakePayload} (h : Accepted now p t s s') :
    Accepted now p t (s.captured t) (s'.captured t) := by
  have hown : ∀ {ρ : Type} {tenantId : ρ → String} {rows : List ρ} {r : ρ}, tenantId r = t →
      (rows ++ [r]).filter (fun x => tenantId x = t) = rows.filter (fun x => tenantId x = t) ++ [r] := by
    intro ρ tenantId rows r hr
    have hnew : [r].filter (fun x => tenantId x = t) = [r] := by
      refine List.filter_eq_self.mpr fun x hx => ?_
      rw [List.mem_singleton.mp hx]
      exact decide_eq_true hr
    rw [List.filter_append, hnew]
  obtain ⟨projection, hprojection, hprojections⟩ := h.caseProjection
  refine
    { sequence := ?_, caseValid := h.caseValid, revisionValid := h.revisionValid,
      eventsValid := h.eventsValid, fresh := ?_, cases := ?_, caseRevisions := ?_, businessEvents := ?_,
      inboundReceipts := ?_, conversationCursors := ?_, caseProjection := ⟨projection, hprojection, ?_⟩ }
  · show validSequence p.channel ((s.of t).cursor? ⟨t, p.channel, p.conversationId⟩) _ = true
    rw [cursor?_of]
    exact h.sequence
  · intro c hc
    exact h.fresh c (List.mem_filter.mp hc).1
  · show s'.cases.filter _ = s.cases.filter _ ++ _
    rw [h.cases]
    exact hown rfl
  · show s'.caseRevisions.filter _ = s.caseRevisions.filter _ ++ _
    rw [h.caseRevisions]
    exact hown rfl
  · show (s'.businessEvents.filter _).filter _ = (s.businessEvents.filter _).filter _ ++ _
    have hown' : (newEvents now p t).filter (·.tenantId = t) = newEvents now p t :=
      List.filter_eq_self.mpr fun e he => decide_eq_true (newEvents_key he).1
    have hintake : (newEvents now p t).filter (·.workflowId.isNone) = newEvents now p t := by
      refine List.filter_eq_self.mpr fun e he => ?_
      rw [(newEvents_row he).2.1]
      rfl
    rw [h.businessEvents, List.filter_append, List.filter_append, hown', hintake]
  · show s'.inboundReceipts.filter _ = s.inboundReceipts.filter _ ++ _
    rw [h.inboundReceipts]
    exact hown rfl
  · show s'.conversationCursors.filter _ = _
    rw [h.conversationCursors, upsert_of]
    rfl
  · show (s'.caseProjection.filter _).map _ = (s.caseProjection.filter _).map _ ++ [projection]
    obtain ⟨_, state, last, hstate, hlast, rfl⟩ := projectionFromRecords_eq_ok.mp hprojection
    have hreceived : state = .received := (Except.ok.inj hstate).symm
    have hlast' : last.occurredAt = .clock now := by
      rw [← Option.some.inj hlast]
      rfl
    rw [hprojections, hown rfl, List.map_append, List.map_singleton, hreceived, hlast']
    rfl

/-- What another tenant's delivery adds is not captured. -/
theorem Accepted.captured_other {now : Instant} {p : IntakePayload} {tenantId : String}
    (h : Accepted now p tenantId s s') (ht : tenantId ≠ t) : s'.captured t = s.captured t := by
  unfold LedgerStore.captured
  rw [h.of_other ht]

/-- Neither is a workflow event. -/
theorem Appended.captured {a : WorkflowStateEvent} (h : Appended a s s') (t : String) :
    s'.captured t = s.captured t := by
  have hevents : (s'.businessEvents.filter (·.tenantId = t)).filter (·.workflowId.isNone) =
      (s.businessEvents.filter (·.tenantId = t)).filter (·.workflowId.isNone) := by
    rw [h.stored, List.filter_filter, List.filter_filter]
    refine Table.filter_append_other fun e he => ?_
    rw [List.mem_singleton.mp he]
    rfl
  have hprojections : (s'.caseProjection.filter (·.tenantId = t)).map (·.atIntake) =
      (s.caseProjection.filter (·.tenantId = t)).map (·.atIntake) := by
    rw [h.stored]
    dsimp only
    rw [Table.filter_modify (fun p _ => by rfl), Table.modify, List.map_map]
    refine List.map_congr_left fun p _ => ?_
    show CaseProjection.atIntake (if decide _ = true then _ else p) = p.atIntake
    split_ifs
    · rfl
    · rfl
  have hrest : s'.inboundReceipts = s.inboundReceipts ∧ s'.conversationCursors = s.conversationCursors ∧
      s'.cases = s.cases ∧ s'.caseRevisions = s.caseRevisions := by
    rw [h.stored]
    exact ⟨rfl, rfl, rfl, rfl⟩
  obtain ⟨hreceipts, hcursors, hcases, hrevisions⟩ := hrest
  unfold LedgerStore.captured LedgerStore.of
  dsimp only
  rw [hevents, hprojections, hreceipts, hcursors, hcases, hrevisions]

/-! ## Why it can be read back -/

/-- **The invariant of the snapshots**: no two rows clash, the rows of a case are the ones that its
    identifier determines, and what is captured is a ledger. -/
structure SnapshotInv (s : LedgerStore) : Prop where
  ledger : s.LedgerInv
  delivery : s.Delivery
  revisions : Table.Distinct CaseRevision.clash s.caseRevisions
  revisionId : ∀ r ∈ s.caseRevisions, r.caseRevisionId = revisionIdOf r.caseId
  events : Table.Distinct BusinessEvent.clash s.businessEvents
  eventId : ∀ e ∈ s.businessEvents, e.eventId = eventIdOf e.caseId e.eventType e.caseEventIndex
  intakeEvent : ∀ e ∈ s.businessEvents, e.workflowId = none → e.workflowCheckpointId = none
  cursors : (s.conversationCursors.map (·.key)).Nodup
  captured : ∀ t, (s.captured t).LedgerInv

theorem snapshotInv_empty : SnapshotInv {} where
  ledger := ledgerInv_empty
  delivery := delivery_empty
  revisions := Table.distinct_nil _
  revisionId := fun r hr => by simp at hr
  events := Table.distinct_nil _
  eventId := fun e he => by simp at he
  intakeEvent := fun e he => by simp at he
  cursors := List.nodup_nil
  captured := fun _ => ledgerInv_empty

theorem newEvents_distinct (now : Instant) (p : IntakePayload) (t : String) :
    Table.Distinct BusinessEvent.clash (newEvents now p t) := by
  simp [Table.Distinct, newEvents, initialEvents, BusinessEvent.clash, eventIdOf]

/-! The rows of a case that is not stored clash with no stored row. -/

theorem newRevision_fresh {now : Instant} {p : IntakePayload} (hnone : ¬ s.HasCase t (newCase now p t).caseId)
    {x : CaseRevision} (hcase : s.HasCase x.tenantId x.caseId) (hid : x.caseRevisionId = revisionIdOf x.caseId) :
    CaseRevision.clash (newRevision now p t) x = false := by
  refine decide_eq_false ?_
  rintro ⟨ht, hsame | ⟨hsame, -⟩⟩
  · have hmaterial := RevisionMaterial.mk.inj (stableIdentifier_inj.mp (hsame.trans hid))
    rw [← ht, ← hmaterial.1] at hcase
    exact hnone hcase
  · rw [← ht, ← hsame] at hcase
    exact hnone hcase

theorem newEvents_fresh {now : Instant} {p : IntakePayload} (hnone : ¬ s.HasCase t (newCase now p t).caseId)
    {e x : BusinessEvent} (he : e ∈ newEvents now p t) (hcase : s.HasCase x.tenantId x.caseId)
    (hid : x.eventId = eventIdOf x.caseId x.eventType x.caseEventIndex) : BusinessEvent.clash e x = false := by
  obtain ⟨htenant, hcaseId⟩ := newEvents_key he
  refine decide_eq_false ?_
  rintro ⟨ht, hsame⟩
  have hcases : (newCase now p t).caseId = x.caseId := by
    rcases hsame with hsame | ⟨hsame, -⟩
    · have hmaterial := stableIdentifier_inj.mp ((newEvents_row he).1.symm.trans (hsame.trans hid))
      exact hcaseId.symm.trans (EventMaterial.mk.inj hmaterial).1
    · exact hcaseId.symm.trans hsame
  rw [← ht, htenant, ← hcases] at hcase
  exact hnone hcase

/-- **An accepted delivery keeps it.** -/
theorem Accepted.snapshotInv {now : Instant} {p : IntakePayload} {tenantId : String}
    (h : Accepted now p tenantId s s') (hs : SnapshotInv s) : SnapshotInv s' := by
  have hnone := h.not_hasCase
  refine
    { ledger := h.inv hs.ledger, delivery := h.delivery hs.ledger hs.delivery, revisions := ?_,
      revisionId := ?_, events := ?_, eventId := ?_, intakeEvent := ?_, cursors := ?_, captured := ?_ }
  · rw [h.caseRevisions]
    exact hs.revisions.append_one fun r hr =>
      newRevision_fresh hnone (hs.ledger.revisionCase r hr) (hs.revisionId r hr)
  · intro r hr
    rw [h.caseRevisions] at hr
    rcases List.mem_append.mp hr with hr | hr
    · exact hs.revisionId r hr
    · rw [List.mem_singleton.mp hr]
      rfl
  · rw [h.businessEvents]
    refine List.pairwise_append.mpr ⟨hs.events, newEvents_distinct now p tenantId, fun x hx e he => ?_⟩
    exact newEvents_fresh hnone he (hs.ledger.eventCase x hx) (hs.eventId x hx)
  · intro e he
    rw [h.businessEvents] at he
    rcases List.mem_append.mp he with he | he
    · exact hs.eventId e he
    · exact (newEvents_row he).1
  · intro e he hworkflow
    rw [h.businessEvents] at he
    rcases List.mem_append.mp he with he | he
    · exact hs.intakeEvent e he hworkflow
    · exact (newEvents_row he).2.2
  · rw [h.conversationCursors]
    exact Table.nodup_keys_upsert (fun _ => rfl) hs.cursors
  · intro t
    by_cases ht : tenantId = t
    · subst ht
      exact h.captured.inv (hs.captured _)
    · rw [h.captured_other ht]
      exact hs.captured t

/-- **So does a workflow event.** -/
theorem Appended.snapshotInv {a : WorkflowStateEvent} (h : Appended a s s') (hs : SnapshotInv s) :
    SnapshotInv s' := by
  have hrest : s'.inboundReceipts = s.inboundReceipts ∧ s'.conversationCursors = s.conversationCursors ∧
      s'.cases = s.cases ∧ s'.caseRevisions = s.caseRevisions ∧ s'.businessEvents = s.businessEvents ++
        [workflowEventRow a (nextEventIndex (s.eventRows a.tenantId a.caseId))] := by
    rw [h.stored]
    exact ⟨rfl, rfl, rfl, rfl, rfl⟩
  obtain ⟨hreceipts, hcursors, hcases, hrevisions, hevents⟩ := hrest
  have hnumbered := hs.ledger.numbered a.tenantId a.caseId
  refine
    { ledger := h.inv hs.ledger
      delivery := ⟨hreceipts ▸ hs.delivery.distinct, hreceipts ▸ hs.delivery.determined,
        hcases ▸ hs.delivery.caseKey⟩
      revisions := hrevisions ▸ hs.revisions, revisionId := hrevisions ▸ hs.revisionId, events := ?_,
      eventId := ?_, intakeEvent := ?_, cursors := hcursors ▸ hs.cursors, captured := ?_ }
  · rw [hevents]
    refine hs.events.append_one fun x hx => decide_eq_false ?_
    -- its index is the next one of its case
    rintro ⟨ht, hid⟩
    have hplace : a.caseId = x.caseId ∧
        nextEventIndex (s.eventRows a.tenantId a.caseId) = x.caseEventIndex := by
      rcases hid with hid | hid
      · have hmaterial := EventMaterial.mk.inj (stableIdentifier_inj.mp (hid.trans (hs.eventId x hx)))
        exact ⟨hmaterial.1, hmaterial.2.2⟩
      · exact hid
    have hrow : x ∈ s.eventRows a.tenantId a.caseId :=
      List.mem_filter.mpr ⟨hx, decide_eq_true ⟨ht.symm, hplace.1.symm⟩⟩
    have hindex : x.caseEventIndex ∈ List.range' 1 (s.eventRows a.tenantId a.caseId).length :=
      hnumbered ▸ List.mem_map_of_mem hrow
    rw [List.mem_range'_1, ← hplace.2, hnumbered.nextEventIndex] at hindex
    omega
  · intro e he
    rw [hevents] at he
    rcases List.mem_append.mp he with he | he
    · exact hs.eventId e he
    · rw [List.mem_singleton.mp he]
      rfl
  · intro e he hworkflow
    rw [hevents] at he
    rcases List.mem_append.mp he with he | he
    · exact hs.intakeEvent e he hworkflow
    · rw [List.mem_singleton.mp he] at hworkflow
      cases hworkflow
  · intro t
    rw [h.captured]
    exact hs.captured t

theorem SnapshotInv.call (hs : SnapshotInv s) (c : LedgerCall) : SnapshotInv (s.call c) := by
  rcases hs.ledger.call_cases c with h | ⟨now, p, tenantId, h⟩ | ⟨a, h⟩
  · rw [h]
    exact hs
  · exact h.snapshotInv hs
  · exact h.snapshotInv hs

theorem snapshotInv_run (calls : List LedgerCall) : SnapshotInv (run calls) := by
  induction calls using List.reverseRecOn with
  | nil => exact snapshotInv_empty
  | append_singleton calls c ih =>
      rw [run_append_one]
      exact ih.call c

/-! ## Another order of the rows -/

/-- Two stores hold the same source records, in some order. -/
structure SameSource (s r : LedgerStore) : Prop where
  inboundReceipts : s.inboundReceipts.Perm r.inboundReceipts
  conversationCursors : s.conversationCursors.Perm r.conversationCursors
  cases : s.cases.Perm r.cases
  caseRevisions : s.caseRevisions.Perm r.caseRevisions
  businessEvents : s.businessEvents.Perm r.businessEvents

/-- …and the same read model. -/
structure SameRows (s r : LedgerStore) : Prop extends SameSource s r where
  caseProjection : s.caseProjection.Perm r.caseProjection

variable {r : LedgerStore}

/-- A case derives the same row from its records in any order. -/
theorem SameSource.derive (h : SameSource s r) (hs : s.LedgerInv) {c : CaseRow} (hc : c ∈ s.cases) :
    r.deriveCaseProjection c = s.deriveCaseProjection c := by
  obtain ⟨p, -, hp⟩ := hs.exists_projection hc
  rw [hp]
  unfold deriveCaseProjection at hp ⊢
  obtain ⟨revision, receipt, hrevisions, hreceipts, hrecords, hprojection, hvalid⟩ :=
    deriveFromRecords_eq_ok.mp hp
  have hrevision : s.revisionsOf c.tenantId c.caseId = [revision] := by
    have hperm := List.perm_insertionSort (fun a b : CaseRevision => a.revision ≤ b.revision)
      (s.revisionsOf c.tenantId c.caseId)
    rw [hrevisions] at hperm
    exact List.perm_singleton.mp hperm.symm
  have hrevision' : r.revisionsOf c.tenantId c.caseId = [revision] :=
    List.perm_singleton.mp (hrevision ▸ (h.caseRevisions.filter _).symm)
  have hreceipts' : r.receiptsOf c.tenantId c.caseId = [receipt] :=
    List.perm_singleton.mp (hreceipts ▸ (h.inboundReceipts.filter _).symm)
  have hindex : ((s.eventRows c.tenantId c.caseId).map (·.caseEventIndex)).Nodup := by
    rw [hs.numbered c.tenantId c.caseId]
    exact List.nodup_range'
  have hevents : (s.eventRows c.tenantId c.caseId).insertionSort
      (fun a b => a.caseEventIndex ≤ b.caseEventIndex) =
      (r.eventRows c.tenantId c.caseId).insertionSort fun a b => a.caseEventIndex ≤ b.caseEventIndex :=
    Table.insertionSort_perm (h.businessEvents.filter _) fun a ha b hb hab =>
      List.inj_on_of_nodup_map hindex ha hb hab
  rw [hevents] at hrecords hprojection
  refine deriveFromRecords_eq_ok.mpr ⟨revision, receipt, ?_, hreceipts', hrecords, hprojection, hvalid⟩
  rw [hrevision']
  rfl

theorem cursorStep_sortKey {a b : InboundReceipt} (h : a.sortKey = b.sortKey) (d : CursorDict) :
    cursorStep d a = cursorStep d b := by
  have htext : ∀ x y : Channel, x.text = y.text → x = y := by
    intro x y hxy
    cases x <;> cases y <;> first | rfl | exact absurd hxy (by decide)
  simp only [InboundReceipt.sortKey, EmbeddingLike.apply_eq_iff_eq, Prod.mk.injEq] at h
  obtain ⟨ht, hchannel, hconversation, hsequence⟩ := h
  have hkey : a.cursorKey = b.cursorKey := by
    unfold InboundReceipt.cursorKey
    rw [ht, htext _ _ hchannel, hconversation]
  unfold cursorStep
  rw [hkey, hsequence]

theorem SameSource.cursor? (h : SameSource s r) (hs : (s.conversationCursors.map (·.key)).Nodup)
    (k : CursorKey) : s.cursor? k = r.cursor? k := by
  refine Table.find?_perm h.conversationCursors fun a ha b hb hka hkb => ?_
  exact List.inj_on_of_nodup_map hs ha hb ((of_decide_eq_true hka).trans (of_decide_eq_true hkb).symm)

/-- The cursors agree with the receipts in any order. -/
theorem SameSource.validateCursors (h : SameSource s r) (hs : s.LedgerInv)
    (hkeys : (s.conversationCursors.map (·.key)).Nodup) : r.validateCursors = .ok () := by
  obtain ⟨d, hd, hget⟩ := foldlM_cursorStep fun k => (s.sequencesOf_sorted (hs.cursors k).1).1
  have hfold : (r.inboundReceipts.insertionSort fun a b => a.sortKey ≤ b.sortKey).foldlM cursorStep [] =
      .ok d := by
    rw [← hd]
    exact (Table.foldlM_perm_sorted (fun a b hab d => cursorStep_sortKey hab d) h.inboundReceipts []).symm
  unfold LedgerStore.validateCursors
  rw [bind_eq_ok]
  refine ⟨d, hfold, ?_⟩
  rw [require_eq_ok, List.all_eq_true]
  intro k _
  rw [decide_eq_true_eq, cursorDict_get?, ← h.cursor? hkeys, ← cursorDict_get?, (hs.cursors k).2, hget,
    (s.sequencesOf_sorted (hs.cursors k).1).2]

theorem CaseRow.clash_comm (a b : CaseRow) : CaseRow.clash a b = CaseRow.clash b a := by
  simp only [CaseRow.clash, @eq_comm _ a.tenantId, @eq_comm _ a.caseId]

/-- **A rebuild succeeds in any order of the rows**, and derives the same read model. -/
theorem SameSource.rebuild (h : SameSource s r) (hs : s.LedgerInv)
    (hkeys : (s.conversationCursors.map (·.key)).Nodup) :
    ∃ caseProjection, r.rebuildProjection = .ok { r with caseProjection } ∧
      s.caseProjection.Perm caseProjection := by
  have hderived : ∀ c ∈ r.cases, ∃ p, s.deriveCaseProjection c = .ok p := by
    intro c hc
    obtain ⟨p, -, hp⟩ := hs.exists_projection (h.cases.mem_iff.mpr hc)
    exact ⟨p, hp⟩
  have hrows : ∀ {cases : List CaseRow}, (∀ c ∈ cases, ∃ p, s.deriveCaseProjection c = .ok p) →
      cases.map s.deriveCaseProjection =
        (cases.filterMap fun c => (s.deriveCaseProjection c).toOption).map .ok := by
    intro cases
    induction cases with
    | nil => exact fun _ => rfl
    | cons c cases ih =>
        intro hall
        obtain ⟨p, hp⟩ := hall c List.mem_cons_self
        rw [List.map_cons, ih fun c' hc' => hall c' (List.mem_cons_of_mem _ hc'), List.filterMap_cons, hp]
        rfl
  have hprojection : s.caseProjection = s.cases.filterMap fun c => (s.deriveCaseProjection c).toOption := by
    have hall := hrows fun c hc => hderived c (h.cases.mem_iff.mp hc)
    rw [hs.derived] at hall
    exact List.map_injective_iff.mpr (fun _ _ => Except.ok.inj) hall
  refine ⟨r.cases.filterMap fun c => (s.deriveCaseProjection c).toOption, ?_, ?_⟩
  · have hmap : r.cases.map r.deriveCaseProjection =
        (r.cases.filterMap fun c => (s.deriveCaseProjection c).toOption).map .ok := by
      rw [← hrows hderived]
      exact List.map_congr_left fun c hc => h.derive hs (h.cases.mem_iff.mpr hc)
    have hdistinct := hs.distinct.perm CaseRow.clash_comm h.cases
    have hfold := foldlM_rebuild hmap hdistinct (fun c _ q hq => absurd hq List.not_mem_nil)
    unfold rebuildProjection
    rw [hfold, h.validateCursors hs hkeys]
    rfl
  · rw [hprojection]
    exact h.cases.filterMap _

/-! ## The round trip -/

theorem InboundReceipt.clash_comm (a b : InboundReceipt) : InboundReceipt.clash a b = InboundReceipt.clash b a := by
  simp only [InboundReceipt.clash, @eq_comm _ a.tenantId, @eq_comm _ a.deliveryKey]

theorem ConversationCursor.clash_comm (a b : ConversationCursor) :
    ConversationCursor.clash a b = ConversationCursor.clash b a := by
  simp only [ConversationCursor.clash, @eq_comm _ a.key]

theorem CaseRevision.clash_comm (a b : CaseRevision) : CaseRevision.clash a b = CaseRevision.clash b a := by
  simp only [CaseRevision.clash, @eq_comm _ a.tenantId, @eq_comm _ a.caseRevisionId, @eq_comm _ a.caseId,
    @eq_comm _ a.revision]

theorem BusinessEvent.clash_comm (a b : BusinessEvent) : BusinessEvent.clash a b = BusinessEvent.clash b a := by
  simp only [BusinessEvent.clash, @eq_comm _ a.tenantId, @eq_comm _ a.eventId, @eq_comm _ a.caseId,
    @eq_comm _ a.caseEventIndex]

/-- The row of a captured event is the event. -/
theorem BusinessEvent.row_snapshot {e : BusinessEvent} (hworkflow : e.workflowId = none)
    (hcheckpoint : e.workflowCheckpointId = none) : e.snapshot.row = e := by
  cases e
  simp only at hworkflow hcheckpoint
  subst hworkflow hcheckpoint
  rfl

section RoundTrip

variable (text : LedgerText)

/-- The source tables of a captured ledger, in the order of the snapshot. -/
def snapshotRows (s : LedgerStore) : LedgerStore where
  inboundReceipts := s.inboundReceipts.insertionSort fun a b => a.snapshotKey text ≤ b.snapshotKey text
  conversationCursors := s.conversationCursors.insertionSort fun a b => a.snapshotKey ≤ b.snapshotKey
  cases := s.cases.insertionSort fun a b => a.snapshotKey text ≤ b.snapshotKey text
  caseRevisions := s.caseRevisions.insertionSort fun a b => a.snapshotKey text ≤ b.snapshotKey text
  businessEvents := s.businessEvents.insertionSort fun a b => a.snapshotKey text ≤ b.snapshotKey text

theorem sameSource_snapshotRows (s : LedgerStore) : SameSource s (s.snapshotRows text) where
  inboundReceipts := (List.perm_insertionSort _ _).symm
  conversationCursors := (List.perm_insertionSort _ _).symm
  cases := (List.perm_insertionSort _ _).symm
  caseRevisions := (List.perm_insertionSort _ _).symm
  businessEvents := (List.perm_insertionSort _ _).symm

/-- Every row that is captured is the tenant's. -/
theorem captured_ofTenant (s : LedgerStore) (t : String) : (s.exportSnapshot text t).body.ofTenant = true := by
  have hall : ∀ {ρ : Type} {tenantId : ρ → String} {rows : List ρ} {le : ρ → ρ → Prop} [DecidableRel le],
      ((rows.filter fun x => tenantId x = t).insertionSort le).all (fun x => tenantId x = t) = true := by
    intro ρ tenantId rows le _
    rw [List.all_eq_true]
    intro x hx
    exact (List.mem_filter.mp ((List.mem_insertionSort _).mp hx)).2
  refine decide_eq_true ⟨hall, hall, hall, hall, ?_⟩
  rw [List.all_eq_true]
  intro x hx
  obtain ⟨e, he, rfl⟩ := List.mem_map.mp hx
  exact (List.mem_filter.mp (List.mem_filter.mp ((List.mem_insertionSort _).mp he)).1).2

theorem SnapshotInv.capturedKeys (hs : SnapshotInv s) (t : String) :
    ((s.captured t).conversationCursors.map (·.key)).Nodup := by
  have hsublist : (s.conversationCursors.filter (·.tenantId = t)).Sublist s.conversationCursors :=
    List.filter_sublist
  exact hs.cursors.sublist (hsublist.map _)

/-- **The rows of a snapshot can be inserted**, and are the captured ones. -/
theorem SnapshotInv.insertRows (hs : SnapshotInv s) (t : String) :
    (s.exportSnapshot text t).body.insertRows? = some ((s.captured t).snapshotRows text) := by
  have hsame := sameSource_snapshotRows text (s.captured t)
  have hreceipts : Table.Distinct InboundReceipt.clash (s.captured t).inboundReceipts :=
    hs.delivery.distinct.filter _
  have hcursors : Table.Distinct ConversationCursor.clash (s.captured t).conversationCursors :=
    (List.pairwise_map.mp (hs.capturedKeys t)).imp fun hab => decide_eq_false (Ne.symm hab)
  have hcases : Table.Distinct CaseRow.clash (s.captured t).cases := hs.ledger.distinct.filter _
  have hrevisions : Table.Distinct CaseRevision.clash (s.captured t).caseRevisions :=
    hs.revisions.filter _
  have hdistinct : Table.Distinct BusinessEvent.clash (s.captured t).businessEvents :=
    (hs.events.filter _).filter _
  have hevents : ((s.exportSnapshot text t).body.businessEvents).map (·.row) =
      ((s.captured t).snapshotRows text).businessEvents := by
    show (((s.captured t).snapshotRows text).businessEvents.map BusinessEvent.snapshot).map
      SnapshotEvent.row = ((s.captured t).snapshotRows text).businessEvents
    rw [List.map_map]
    conv_rhs => rw [← List.map_id ((s.captured t).snapshotRows text).businessEvents]
    refine List.map_congr_left fun e he => ?_
    obtain ⟨hmem, hnone⟩ := List.mem_filter.mp ((List.mem_insertionSort _).mp he)
    have hworkflow : e.workflowId = none := Option.isNone_iff_eq_none.mp hnone
    exact BusinessEvent.row_snapshot hworkflow (hs.intakeEvent e (List.mem_filter.mp hmem).1 hworkflow)
  unfold LedgerSnapshot.insertRows?
  rw [hevents]
  simp only [bind, Option.bind_eq_some_iff, Table.insertAll?_nil_eq_some]
  exact ⟨_, ⟨Table.Distinct.perm InboundReceipt.clash_comm hreceipts hsame.inboundReceipts, rfl⟩,
    _, ⟨Table.Distinct.perm ConversationCursor.clash_comm hcursors hsame.conversationCursors, rfl⟩,
    _, ⟨Table.Distinct.perm CaseRow.clash_comm hcases hsame.cases, rfl⟩,
    _, ⟨Table.Distinct.perm CaseRevision.clash_comm hrevisions hsame.caseRevisions, rfl⟩,
    _, ⟨Table.Distinct.perm BusinessEvent.clash_comm hdistinct hsame.businessEvents, rfl⟩, rfl⟩

/-- **The tenant's ledger comes back as it was captured.** -/
theorem SnapshotInv.restore (hs : SnapshotInv s) (ht : nonEmpty t = true) :
    ∃ r, restoreSnapshot false (s.exportSnapshot text t) = .ok r ∧ SameRows (s.captured t) r ∧
      r = { (s.captured t).snapshotRows text with caseProjection := r.caseProjection } := by
  have hsame := sameSource_snapshotRows text (s.captured t)
  obtain ⟨caseProjection, hrebuild, hprojections⟩ := hsame.rebuild (hs.captured t) (hs.capturedKeys t)
  refine ⟨{ (s.captured t).snapshotRows text with caseProjection }, ?_,
    ⟨⟨hsame.1, hsame.2, hsame.3, hsame.4, hsame.5⟩, hprojections⟩, rfl⟩
  have hintact : (s.exportSnapshot text t).intact = true := Sealed.intact_of _
  unfold restoreSnapshot
  rw [require_bind_eq_ok, require_bind_eq_ok, require_bind_eq_ok, require_bind_eq_ok, fetch_bind_eq_ok]
  refine ⟨rfl, hintact, ht, captured_ofTenant text s t, _, hs.insertRows text t, ?_⟩
  rw [hrebuild]
  rfl

/-- The snapshot of what came back. -/
theorem exportSnapshot_snapshotRows (s : LedgerStore) (t : String) (caseProjection : List CaseProjection) :
    LedgerStore.exportSnapshot text t { (s.captured t).snapshotRows text with caseProjection } =
      s.exportSnapshot text t := by
  have hsorted : ∀ {ρ κ : Type} [LinearOrder κ] {key : ρ → κ} {p : ρ → Bool} {rows : List ρ},
      (∀ x ∈ rows, p x = true) →
      ((rows.insertionSort fun a b => key a ≤ key b).filter p).insertionSort (fun a b => key a ≤ key b) =
        rows.insertionSort fun a b => key a ≤ key b := by
    intro ρ κ _ key p rows hrows
    rw [List.filter_eq_self.mpr fun x hx => hrows x ((List.mem_insertionSort _).mp hx)]
    exact (Table.sorted_insertionSort key rows).insertionSort_eq
  have hown : ∀ {ρ : Type} {p : ρ → Bool} {rows : List ρ}, ∀ x ∈ rows.filter p, p x = true :=
    fun x hx => (List.mem_filter.mp hx).2
  unfold LedgerStore.exportSnapshot
  congr 1
  simp only [LedgerSnapshot.mk.injEq, true_and]
  refine ⟨hsorted hown, hsorted hown, hsorted hown, hsorted hown, congrArg (List.map _) ?_⟩
  show ((((s.captured t).businessEvents.insertionSort _).filter _).filter _).insertionSort _ = _
  rw [List.filter_filter]
  refine hsorted fun e he => ?_
  obtain ⟨hmem, hnone⟩ := List.mem_filter.mp he
  rw [Bool.and_eq_true]
  exact ⟨hnone, (List.mem_filter.mp hmem).2⟩

end RoundTrip

/-! ## What a restore accepts -/

theorem rebuildProjection_eq_ok :
    s.rebuildProjection = .ok s' ↔ ∃ caseProjection,
      s.cases.foldlM s.rebuildCaseProjection [] = .ok caseProjection ∧ s.validateCursors = .ok () ∧
        s' = { s with caseProjection } := by
  have hrebuilt : s.rebuildProjection = .ok s' ↔ (do
      let caseProjection ← s.cases.foldlM s.rebuildCaseProjection []
      s.validateCursors
      pure { s with caseProjection }) = .ok s' := by
    unfold rebuildProjection
    dsimp only
    cases (do
      let caseProjection ← s.cases.foldlM s.rebuildCaseProjection []
      s.validateCursors
      pure { s with caseProjection } : Except LedgerError LedgerStore) <;> simp
  rw [hrebuilt, bind_eq_ok]
  refine exists_congr fun caseProjection => and_congr_right fun _ => ?_
  rw [unit_bind_eq_ok]
  refine and_congr_right fun _ => ?_
  constructor
  · exact fun h => (Except.ok.inj h).symm
  · rintro rfl
    rfl

/-- A rebuilt read model is what the cases derive. -/
theorem derived_of_foldlM {cases : List CaseRow} {rebuilt rows : List CaseProjection}
    (h : cases.foldlM s.rebuildCaseProjection rebuilt = .ok rows) :
    ∃ projections, rows = rebuilt ++ projections ∧
      cases.map s.deriveCaseProjection = projections.map .ok := by
  induction cases generalizing rebuilt with
  | nil => exact ⟨[], by rw [List.append_nil]; exact (Except.ok.inj h).symm, rfl⟩
  | cons c cases ih =>
      rw [List.foldlM_cons, bind_eq_ok] at h
      obtain ⟨mid, hstep, hrest⟩ := h
      unfold rebuildCaseProjection at hstep
      rw [bind_eq_ok] at hstep
      obtain ⟨p, hp, hinsert⟩ := hstep
      obtain ⟨-, rfl⟩ := Table.insert?_eq_some.mp (fetch_eq_ok.mp hinsert)
      obtain ⟨projections, rfl, hmap⟩ := ih hrest
      refine ⟨p :: projections, by rw [List.append_assoc, List.singleton_append], ?_⟩
      rw [List.map_cons, List.map_cons, hp, hmap]

/-- A case whose events have no workflow is where its intake left it. -/
theorem received_of_derived {c : CaseRow} {p : CaseProjection}
    (hnone : ∀ e ∈ s.eventRows c.tenantId c.caseId, e.workflowId = none)
    (h : s.deriveCaseProjection c = .ok p) :
    p.state = .received ∧ p.eventCount = 3 ∧ (s.eventRows c.tenantId c.caseId).length = 3 := by
  unfold deriveCaseProjection at h
  obtain ⟨revision, receipt, -, -, hrecords, hprojection, -⟩ := deriveFromRecords_eq_ok.mp h
  have hlength := List.length_insertionSort (fun a b : BusinessEvent => a.caseEventIndex ≤ b.caseEventIndex)
    (s.eventRows c.tenantId c.caseId)
  have hmem : ∀ e ∈ (s.eventRows c.tenantId c.caseId).insertionSort
      (fun a b => a.caseEventIndex ≤ b.caseEventIndex), e.workflowId = none :=
    fun e he => hnone e ((List.mem_insertionSort _).mp he)
  generalize (s.eventRows c.tenantId c.caseId).insertionSort
    (fun a b => a.caseEventIndex ≤ b.caseEventIndex) = events at hrecords hprojection hmem hlength
  obtain ⟨-, state, last, hfold, -, rfl⟩ := projectionFromRecords_eq_ok.mp hprojection
  rw [if_pos rfl] at hfold
  -- the replay refuses every further event
  have hdrop : events.drop 3 = [] := by
    cases hrest : events.drop 3 with
    | nil => rfl
    | cons e rest =>
        rw [hrest, List.foldlM_cons, bind_eq_ok] at hfold
        obtain ⟨next, hstep, -⟩ := hfold
        have he : e ∈ events := List.mem_of_mem_drop (hrest ▸ List.mem_cons_self)
        unfold replayEvent at hstep
        split at hstep
        · rw [require_bind_eq_ok, hmem e he] at hstep
          exact absurd hstep.1 (by simp)
        · exact absurd hstep (by simp [throw, throwThe, MonadExceptOf.throw])
  have hcount : events.length = 3 := by
    have htake := congrArg List.length hrecords.initial
    have hsplit := congrArg List.length hdrop
    simp only [List.length_map, List.length_take, initialEventTypes, List.length_cons, List.length_nil,
      List.length_drop] at htake hsplit
    omega
  rw [hdrop] at hfold
  exact ⟨(Except.ok.inj hfold).symm, hcount, hlength ▸ hcount⟩

theorem LedgerSnapshot.insertRows?_events {p : LedgerSnapshot} {rows : LedgerStore}
    (h : p.insertRows? = some rows) :
    rows.businessEvents = p.businessEvents.map (·.row) ∧ rows.cases = p.cases := by
  unfold LedgerSnapshot.insertRows? at h
  simp only [bind, Option.bind_eq_some_iff, Table.insertAll?_nil_eq_some] at h
  obtain ⟨_, ⟨-, rfl⟩, _, ⟨-, rfl⟩, _, ⟨-, rfl⟩, _, ⟨-, rfl⟩, _, ⟨-, rfl⟩, h⟩ := h
  obtain rfl := Option.some.inj h
  exact ⟨rfl, rfl⟩

/-- **Whatever a restore accepts is a ledger at intake**, also when the snapshot was made by hand. Its read
    model is what its records derive, every case is the tenant's, at `RECEIVED`, and has exactly the three
    events of its intake: no record of a snapshot moves a case. -/
theorem restored_at_intake (snapshot : Sealed LedgerSnapshot) (r : LedgerStore)
    (h : restoreSnapshot false snapshot = .ok r) :
    r.rebuildProjection = .ok r ∧ r.cases.map r.deriveCaseProjection = r.caseProjection.map .ok ∧
      (∀ c ∈ r.cases, c.tenantId = snapshot.body.tenantId ∧
        (r.eventRows c.tenantId c.caseId).length = 3) ∧
      ∀ p ∈ r.caseProjection, p.state = .received ∧ p.eventCount = 3 := by
  unfold restoreSnapshot at h
  rw [require_bind_eq_ok, require_bind_eq_ok, require_bind_eq_ok, require_bind_eq_ok, fetch_bind_eq_ok] at h
  obtain ⟨-, -, -, htenant, rows, hrows, hrebuild⟩ := h
  obtain ⟨hevents, hcases⟩ := LedgerSnapshot.insertRows?_events hrows
  have hok : rows.rebuildProjection = .ok r := by
    cases hresult : rows.rebuildProjection with
    | error e =>
        rw [hresult] at hrebuild
        cases hrebuild
    | ok r' =>
        rw [hresult] at hrebuild
        rw [Except.ok.inj hrebuild]
  obtain ⟨caseProjection, hfold, hcursors, rfl⟩ := rebuildProjection_eq_ok.mp hok
  obtain ⟨projections, hprojections, hderived⟩ := derived_of_foldlM hfold
  rw [List.nil_append] at hprojections
  subst hprojections
  have hnone : ∀ c : CaseRow, ∀ e ∈ rows.eventRows c.tenantId c.caseId, e.workflowId = none := by
    intro c e he
    have hmem := (List.mem_filter.mp he).1
    rw [hevents] at hmem
    obtain ⟨x, -, rfl⟩ := List.mem_map.mp hmem
    rfl
  refine ⟨rebuildProjection_eq_ok.mpr ⟨caseProjection, hfold, hcursors, rfl⟩, hderived, ?_, ?_⟩
  · intro c hc
    have hown : c.tenantId = snapshot.body.tenantId := by
      have hall := (of_decide_eq_true htenant).2.2.1
      rw [List.all_eq_true] at hall
      exact of_decide_eq_true (hall c (hcases ▸ hc))
    have hmem : rows.deriveCaseProjection c ∈ caseProjection.map Except.ok := by
      rw [← hderived]
      exact List.mem_map_of_mem hc
    obtain ⟨p, -, hp⟩ := List.mem_map.mp hmem
    exact ⟨hown, (received_of_derived (hnone c) hp.symm).2.2⟩
  · intro p hp
    have hmem : Except.ok p ∈ rows.cases.map rows.deriveCaseProjection := by
      rw [hderived]
      exact List.mem_map_of_mem hp
    obtain ⟨c, -, hc⟩ := List.mem_map.mp hmem
    obtain ⟨hstate, hcount, -⟩ := received_of_derived (hnone c) hc
    exact ⟨hstate, hcount⟩

/-- The snapshot of one captured message. -/
def firstSnapshot : Sealed LedgerSnapshot :=
  (run [.intake 1 (firstMessage "bravo") "bravo", .intake 2 (firstMessage "alpha") "alpha"]).exportSnapshot
    firstCases "alpha"

theorem restored_at_intake_example :
    ∃ r, restoreSnapshot false firstSnapshot = .ok r ∧ r.rebuildProjection = .ok r ∧
      ∀ p ∈ r.caseProjection, p.state = .received ∧ p.eventCount = 3 := by
  obtain ⟨r, hr, -, -⟩ := (snapshotInv_run _).restore firstCases (t := "alpha") (by decide)
  exact ⟨r, hr, (restored_at_intake firstSnapshot r hr).1, (restored_at_intake firstSnapshot r hr).2.2.2⟩

/-- **A snapshot is restored to what was captured.** After any calls, for any tenant: reading the snapshot
    back gives the tenant's intake records and no others, each case at `RECEIVED`, and the snapshot of what
    was read back is the same one, hash included. -/
theorem snapshot_round_trip (text : LedgerText) (calls : List LedgerCall) (t : String)
    (ht : nonEmpty t = true) :
    ∃ r, restoreSnapshot false ((run calls).exportSnapshot text t) = .ok r ∧
      SameRows ((run calls).captured t) r ∧
      r.exportSnapshot text t = (run calls).exportSnapshot text t := by
  obtain ⟨r, hrestore, hsame, hrows⟩ := (snapshotInv_run calls).restore text ht
  refine ⟨r, hrestore, hsame, ?_⟩
  rw [hrows]
  exact exportSnapshot_snapshotRows text (run calls) t r.caseProjection

theorem snapshot_round_trip_example :
    ∃ r, restoreSnapshot false firstSnapshot = .ok r ∧ r.cases.length = 1 ∧
      r.exportSnapshot firstCases "alpha" = firstSnapshot := by
  obtain ⟨r, hr, hsame, hexport⟩ := snapshot_round_trip firstCases
    [.intake 1 (firstMessage "bravo") "bravo", .intake 2 (firstMessage "alpha") "alpha"] "alpha" (by decide)
  exact ⟨r, hr, hsame.cases.length_eq.symm.trans (by decide +kernel), hexport⟩

end LedgerStore

end WeFlow
