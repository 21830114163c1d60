import WeFlow.Ledger.Cursors

/-!
# `Agreement` — the incremental projection is the replayed one

The read model is maintained by three transactions, each with its own SQL; `rebuildProjection` derives
it again from the source tables. The bridge is `deriveFromRecords`: what it derives depends only on the
records of the one case, so a transaction has to be followed for its own case and for no other.
-/

namespace WeFlow

open Txn

/-! ## The derivation of one case, read as a predicate -/

/-- The records of one case pass every check that `deriveFromRecords` makes before projecting them. -/
structure CaseRecords (c : CaseRow) (revision : CaseRevision) (events : List BusinessEvent)
    (receipt : InboundReceipt) : Prop where
  caseValid : validateCase c = true
  chain : validateRevisionChain [revision] = true
  first : revision.revision = 1 ∧ revision.previousCaseRevisionId = none ∧
    revision.sourceEventId = c.sourceEventId
  eventsValid : ∀ e ∈ events, validateGeneratedLedgerEvent e = true
  indexed : events.map (·.caseEventIndex) = List.range' 1 events.length
  initial : (events.take 3).map (·.eventType) = initialEventTypes
  tenant : validateTenantReference (c.tenantId :: revision.tenantId :: events.map (·.tenantId)) = true
  receiptRevision : receipt.caseRevisionId = revision.caseRevisionId
  receiptEvents : receipt.eventIds = (events.take 3).map (·.eventId)
  metadata : (events.take 3).map (·.metadata) = expectedMetadata receipt
  hashed : ∀ e ∈ events, e.hashed = true

theorem deriveFromRecords_eq_ok {c : CaseRow} {revisionRows : List CaseRevision}
    {eventRows : List BusinessEvent} {receipts : List InboundReceipt} {p : CaseProjection} :
    deriveFromRecords c revisionRows eventRows receipts = .ok p ↔
      ∃ revision receipt,
        revisionRows.insertionSort (fun a b => a.revision ≤ b.revision) = [revision] ∧
        receipts = [receipt] ∧
        CaseRecords c revision
          (eventRows.insertionSort fun a b => a.caseEventIndex ≤ b.caseEventIndex) receipt ∧
        projectionFromRecords c revision
          (eventRows.insertionSort fun a b => a.caseEventIndex ≤ b.caseEventIndex) true = .ok p ∧
        validateCaseProjection p = true := by
  unfold deriveFromRecords
  generalize eventRows.insertionSort (fun a b => a.caseEventIndex ≤ b.caseEventIndex) = events
  generalize revisionRows.insertionSort (fun a b => a.revision ≤ b.revision) = revisions
  match revisions, receipts with
  | [revision], [receipt] =>
      have hsplit : (∀ e ∈ events, e.hashed = true) ↔
          (events.take 3).all (·.hashed) = true ∧ (events.drop 3).all (·.hashed) = true := by
        rw [← List.all_eq_true, ← Bool.and_eq_true, ← List.all_append, List.take_append_drop]
      simp only [require_bind_eq_ok, decide_eq_true_eq, List.all_eq_true]
      simp only [bind_eq_ok, require_eq_ok, List.cons.injEq, and_true, pure, Except.pure,
        Except.ok.injEq]
      constructor
      · rintro ⟨h1, h2, h3, h4, h5, h6, h7, h8, h9, ⟨h10, h11⟩, h12, p', h13, _, h14, rfl⟩
        exact ⟨revision, receipt, rfl, rfl, ⟨h1, h2, h3, h4, h5, h6, h7, h8, h9, h10,
          hsplit.mpr ⟨List.all_eq_true.mpr h11, List.all_eq_true.mpr h12⟩⟩, h13, h14⟩
      · rintro ⟨_, _, rfl, rfl, h, h13, h14⟩
        obtain ⟨h11, h12⟩ := hsplit.mp h.hashed
        exact ⟨h.caseValid, h.chain, h.first, h.eventsValid, h.indexed, h.initial, h.tenant,
          h.receiptRevision, h.receiptEvents, ⟨h.metadata, List.all_eq_true.mp h11⟩,
          List.all_eq_true.mp h12, p, h13, (), h14, rfl⟩
  | [], _ => simp [bind_eq_ok, throw, throwThe, MonadExceptOf.throw]
  | _ :: _ :: _, _ => simp [bind_eq_ok, throw, throwThe, MonadExceptOf.throw]
  | [_], [] => simp [bind_eq_ok, throw, throwThe, MonadExceptOf.throw]
  | [_], _ :: _ :: _ => simp [bind_eq_ok, throw, throwThe, MonadExceptOf.throw]

/-! ## What one transaction can do -/

namespace LedgerStore

/-- An accepted delivery: the checks it passed and the store it leaves. -/
structure Accepted (now : Instant) (p : IntakePayload) (tenantId : String) (s s' : LedgerStore) :
    Prop where
  sequence : validSequence p.channel (s.cursor? ⟨tenantId, p.channel, p.conversationId⟩)
    p.conversationSequence = true
  caseValid : validateCase (newCase now p tenantId) = true
  revisionValid : validateCaseRevision (newRevision now p tenantId) = true
  eventsValid : ∀ e ∈ newEvents now p tenantId, validateGeneratedLedgerEvent e = true
  fresh : ∀ c ∈ s.cases, CaseRow.clash (newCase now p tenantId) c = false
  cases : s'.cases = s.cases ++ [newCase now p tenantId]
  caseRevisions : s'.caseRevisions = s.caseRevisions ++ [newRevision now p tenantId]
  businessEvents : s'.businessEvents = s.businessEvents ++ newEvents now p tenantId
  inboundReceipts : s'.inboundReceipts = s.inboundReceipts ++ [newReceipt now p tenantId]
  conversationCursors : s'.conversationCursors =
    Table.upsert ConversationCursor.key ConversationCursor.merge
      ⟨tenantId, p.channel, p.conversationId, p.conversationSequence⟩ s.conversationCursors
  caseProjection : ∃ projection,
    projectionFromRecords (newCase now p tenantId) (newRevision now p tenantId)
      (newEvents now p tenantId) false = .ok projection ∧
    s'.caseProjection = s.caseProjection ++ [projection]

theorem insertEvents_eq_ok {events rows rows' : List BusinessEvent}
    (h : insertEvents events rows = .ok rows') : rows' = rows ++ events := by
  induction events generalizing rows with
  | nil => simpa [insertEvents, pure, Except.pure, eq_comm] using h
  | cons e events ih =>
      rw [insertEvents, List.foldlM_cons, bind_eq_ok] at h
      obtain ⟨mid, hmid, hrest⟩ := h
      rw [insertEvent, fetch_eq_ok] at hmid
      obtain ⟨_, rfl⟩ := Table.insert?_eq_some.mp hmid
      rw [ih hrest, List.append_assoc, List.singleton_append]

/-- An intake without a receipt appends one whole case. -/
theorem accepted_of_intakeValidated {now : Instant} {p : IntakePayload} {tenantId : String}
    {s s' : LedgerStore} {r : IntakeResult} (h : s.intakeValidated now p tenantId = .ok (r, s'))
    (hrec : s.receipt? tenantId (deliveryKeyOf tenantId p) = none) :
    Accepted now p tenantId s s' := by
  unfold intakeValidated at h
  rw [hrec] at h
  simp only [require_bind_eq_ok, List.all_eq_true] at h
  obtain ⟨hseq, hcase, hrev, hevents, h⟩ := h
  simp only [bind_eq_ok, fetch_eq_ok, Table.insert?_eq_some, pure, Except.pure, Except.ok.injEq,
    Prod.mk.injEq] at h
  obtain ⟨_, ⟨hfresh, rfl⟩, _, ⟨_, rfl⟩, _, hrows, _, ⟨_, rfl⟩, projection, hproj, _, ⟨_, rfl⟩,
    _, rfl⟩ := h
  exact ⟨hseq, hcase, hrev, hevents, hfresh, rfl, rfl, insertEvents_eq_ok hrows, rfl, rfl,
    projection, hproj, rfl⟩

/-- An intake with a receipt leaves the store alone. -/
theorem eq_of_intakeValidated {now : Instant} {p : IntakePayload} {tenantId : String}
    {s s' : LedgerStore} {r : IntakeResult} (h : s.intakeValidated now p tenantId = .ok (r, s'))
    {receipt : InboundReceipt} (hrec : s.receipt? tenantId (deliveryKeyOf tenantId p) = some receipt) :
    s' = s := by
  unfold intakeValidated at h
  rw [hrec] at h
  simp only [require_bind_eq_ok, pure, Except.pure, Except.ok.injEq, Prod.mk.injEq] at h
  exact h.2.2.symm

/-- **One intake** leaves the store alone or appends one whole case. -/
theorem intakeValidated_cases {now : Instant} {p : IntakePayload} {tenantId : String}
    {s s' : LedgerStore} {r : IntakeResult} (h : s.intakeValidated now p tenantId = .ok (r, s')) :
    s' = s ∨ Accepted now p tenantId s s' := by
  cases hrec : s.receipt? tenantId (deliveryKeyOf tenantId p) with
  | some receipt => exact Or.inl (eq_of_intakeValidated h hrec)
  | none => exact Or.inr (accepted_of_intakeValidated h hrec)

/-- A workflow event of this checkpoint is stored. -/
def Recorded (s : LedgerStore) (tenantId : String) (caseId : CaseId) (workflowId : WorkflowId)
    (checkpointId : CheckpointId) : Prop :=
  ∃ e ∈ s.eventRows tenantId caseId, e.workflowId = some workflowId ∧
    e.workflowCheckpointId = some checkpointId

/-- An appended workflow event: the checks it passed and the store it leaves. -/
structure Appended (a : WorkflowStateEvent) (s s' : LedgerStore) : Prop where
  fresh : ¬ s.Recorded a.tenantId a.caseId a.workflowId a.checkpointId
  revision : ∃ r ∈ s.revisionsOf a.tenantId a.caseId, r.caseRevisionId = a.caseRevisionId
  allowed : transitionAllowed a.fromState a.transitionKind a.toState a.resumeState false = true
  occurred : a.occurredAt.isPresent = true
  event : validateGeneratedLedgerEvent
    (workflowEventRow a (nextEventIndex (s.eventRows a.tenantId a.caseId))) = true
  projection : ∃ p, s.projection? a.tenantId a.caseId = some p ∧ p.state = a.fromState ∧
    p.correlationId = a.correlationId
  stored : s' =
    { s with
      businessEvents := s.businessEvents ++
        [workflowEventRow a (nextEventIndex (s.eventRows a.tenantId a.caseId))]
      caseProjection := Table.modify (fun p => p.tenantId = a.tenantId ∧ p.caseId = a.caseId)
        (fun p =>
          { p with
            state := a.toState
            eventCount := nextEventIndex (s.eventRows a.tenantId a.caseId)
            updatedAt := a.occurredAt })
        s.caseProjection }

/-- **One call of the port** leaves the store alone, which has the event already, or appends one event
    to one case. -/
theorem appendWorkflowStateEvent_cases {a : WorkflowStateEvent} {s s' : LedgerStore} {i : EventId}
    (h : s.appendWorkflowStateEvent a = .ok (i, s')) :
    (s' = s ∧ s.Recorded a.tenantId a.caseId a.workflowId a.checkpointId) ∨ Appended a s s' := by
  unfold appendWorkflowStateEvent at h
  simp only [require_bind_eq_ok, decide_eq_true_eq] at h
  obtain ⟨hallowed, ⟨_, _, hocc⟩, h⟩ := h
  rw [fetch_bind_eq_ok] at h
  obtain ⟨p, hp, h⟩ := h
  simp only [require_bind_eq_ok, decide_eq_true_eq] at h
  obtain ⟨hrev, hcorr, h⟩ := h
  obtain ⟨r, hr, hrid⟩ := List.any_eq_true.mp hrev
  cases hfind : (s.eventRows a.tenantId a.caseId).find? (fun e =>
      decide (e.workflowId = some a.workflowId ∧ e.workflowCheckpointId = some a.checkpointId)) with
  | some existing =>
      simp only [hfind, require_bind_eq_ok, pure, Except.pure, Except.ok.injEq, Prod.mk.injEq] at h
      have hkey := List.find?_some hfind
      exact Or.inl ⟨h.2.2.symm, existing, List.mem_of_find?_eq_some hfind, by simpa using hkey⟩
  | none =>
      have hfresh : ¬ s.Recorded a.tenantId a.caseId a.workflowId a.checkpointId := by
        rintro ⟨e, he, hkey⟩
        exact List.find?_eq_none.mp hfind e he (by simpa using hkey)
      simp only [hfind, require_bind_eq_ok, decide_eq_true_eq] at h
      obtain ⟨hstate, hevent, h⟩ := h
      simp only [insertEvent, fetch_bind_eq_ok, Table.insert?_eq_some, pure, Except.pure,
        Except.ok.injEq, Prod.mk.injEq] at h
      obtain ⟨_, ⟨_, rfl⟩, _, rfl⟩ := h
      exact Or.inr ⟨hfresh, ⟨r, hr, by simpa using hrid⟩, hallowed, hocc, hevent,
        ⟨p, hp, hstate, hcorr⟩, rfl⟩

end LedgerStore

/-! ## The derivation follows a transaction -/

/-- Events numbered `1, 2, …` in insertion order. -/
def Numbered (rows : List BusinessEvent) : Prop :=
  rows.map (·.caseEventIndex) = List.range' 1 rows.length

theorem Numbered.sorted {rows : List BusinessEvent} (h : Numbered rows) :
    rows.insertionSort (fun a b => a.caseEventIndex ≤ b.caseEventIndex) = rows := by
  refine List.Pairwise.insertionSort_eq ?_
  have hlt : (rows.map (·.caseEventIndex)).Pairwise (· < ·) := by
    rw [h]; exact List.pairwise_lt_range'
  exact (List.pairwise_map.mp hlt).imp Nat.le_of_lt

theorem Numbered.nextEventIndex {rows : List BusinessEvent} (h : Numbered rows) :
    LedgerStore.nextEventIndex rows = rows.length + 1 := by
  have hfold : ∀ n m, (List.range' 1 n).foldl max m = max m n := by
    intro n m
    induction n with
    | zero => simp
    | succ n ih =>
        rw [List.range'_concat, List.foldl_append, ih]
        simp only [List.foldl_cons, List.foldl_nil]
        omega
  have hmap : rows.foldl (fun m e => max m e.caseEventIndex) 0 =
      (rows.map (·.caseEventIndex)).foldl max 0 := by
    rw [List.foldl_map]
  rw [LedgerStore.nextEventIndex, hmap, h, hfold]
  simp

theorem Numbered.append {rows : List BusinessEvent} {e : BusinessEvent} (h : Numbered rows)
    (he : e.caseEventIndex = rows.length + 1) : Numbered (rows ++ [e]) := by
  rw [Numbered, List.map_append, h, List.length_append, List.length_singleton, List.range'_concat]
  simp [he, Nat.add_comm]

theorem validateTenantReference_append {t : String} {ts : List String}
    (h : validateTenantReference (t :: ts) = true) :
    validateTenantReference (t :: (ts ++ [t])) = true := by
  simpa [validateTenantReference] using h

theorem projectionFromRecords_eq_ok {c : CaseRow} {revision : CaseRevision}
    {events : List BusinessEvent} {replay : Bool} {p : CaseProjection} :
    projectionFromRecords c revision events replay = .ok p ↔
      (events.take 3).map (·.eventType) = initialEventTypes ∧
      ∃ state last, (if replay then (events.drop 3).foldlM replayEvent .received
          else pure .received) = .ok state ∧ events.getLast? = some last ∧
        p = { tenantId := c.tenantId, caseId := c.caseId,
              latestCaseRevisionId := revision.caseRevisionId, latestRevision := revision.revision,
              state, sourceEventId := c.sourceEventId, eventCount := events.length,
              correlationId := c.correlationId, createdAt := c.createdAt,
              updatedAt := last.occurredAt } := by
  unfold projectionFromRecords
  rw [require_bind_eq_ok, decide_eq_true_eq]
  cases replay <;>
    simp only [if_true, if_false, Bool.false_eq_true, bind_eq_ok, fetch_eq_ok, pure, Except.pure,
      Except.ok.injEq, @eq_comm _ _ p, exists_and_left]

/-- An appended workflow event extends the replay by its own transition. -/
theorem projectionFromRecords_append {c : CaseRow} {revision : CaseRevision}
    {events : List BusinessEvent} {p : CaseProjection} {a : WorkflowStateEvent} {n : Nat}
    (hp : projectionFromRecords c revision events true = .ok p)
    (hinit : (events.take 3).map (·.eventType) = initialEventTypes)
    (hstate : p.state = a.fromState)
    (hallowed : transitionAllowed a.fromState a.transitionKind a.toState a.resumeState false = true) :
    projectionFromRecords c revision (events ++ [LedgerStore.workflowEventRow a n]) true =
      .ok { p with
            state := a.toState
            eventCount := events.length + 1
            updatedAt := a.occurredAt } := by
  have hlen : 3 ≤ events.length := by
    have := congrArg List.length hinit
    simp [initialEventTypes] at this; omega
  obtain ⟨_, state, _, hfold, _, rfl⟩ := projectionFromRecords_eq_ok.mp hp
  have hstep : replayEvent state (LedgerStore.workflowEventRow a n) = .ok a.toState := by
    simp only at hstate
    subst hstate
    simp [replayEvent, LedgerStore.workflowEventRow, WorkflowStateEvent.metadata, hallowed, bind,
      Except.bind, pure, Except.pure]
  refine projectionFromRecords_eq_ok.mpr
    ⟨?_, a.toState, LedgerStore.workflowEventRow a n, ?_, by simp, by simp; rfl⟩
  · rw [List.take_append_of_le_length hlen, hinit]
  · rw [if_pos rfl] at hfold ⊢
    rw [List.drop_append_of_le_length hlen, List.foldlM_append, hfold]
    simp [hstep, bind, Except.bind, pure, Except.pure]

/-- **The port keeps the derivation in step**: appending one numbered event whose transition starts
    from the derived state moves the derived row exactly as the port's `UPDATE` moves the stored one. -/
theorem deriveFromRecords_append {c : CaseRow} {revisionRows : List CaseRevision}
    {rows : List BusinessEvent} {receipts : List InboundReceipt} {p : CaseProjection}
    {a : WorkflowStateEvent} (hp : deriveFromRecords c revisionRows rows receipts = .ok p)
    (hnum : Numbered rows) (htenant : a.tenantId = c.tenantId) (hstate : p.state = a.fromState)
    (hallowed : transitionAllowed a.fromState a.transitionKind a.toState a.resumeState false = true)
    (hocc : a.occurredAt.isPresent = true)
    (hvalid : validateGeneratedLedgerEvent
      (LedgerStore.workflowEventRow a (LedgerStore.nextEventIndex rows)) = true) :
    deriveFromRecords c revisionRows
        (rows ++ [LedgerStore.workflowEventRow a (LedgerStore.nextEventIndex rows)]) receipts =
      .ok { p with
            state := a.toState
            eventCount := LedgerStore.nextEventIndex rows
            updatedAt := a.occurredAt } := by
  obtain ⟨revision, receipt, hrev, hrec, hrecords, hproj, hpvalid⟩ := deriveFromRecords_eq_ok.mp hp
  have hnum' : Numbered (rows ++ [LedgerStore.workflowEventRow a (LedgerStore.nextEventIndex rows)]) :=
    hnum.append hnum.nextEventIndex
  rw [hnum.sorted] at hrecords hproj
  have hlen : 3 ≤ rows.length := by
    have := congrArg List.length hrecords.initial
    simp [initialEventTypes] at this; omega
  refine deriveFromRecords_eq_ok.mpr ⟨revision, receipt, hrev, hrec, ?_, ?_, ?_⟩
  · rw [hnum'.sorted]
    exact
      { caseValid := hrecords.caseValid
        chain := hrecords.chain
        first := hrecords.first
        eventsValid := by
          intro e he
          rcases List.mem_append.mp he with h | h
          · exact hrecords.eventsValid e h
          · rw [List.mem_singleton.mp h]; exact hvalid
        indexed := hnum'
        initial := by rw [List.take_append_of_le_length hlen]; exact hrecords.initial
        tenant := by
          have := validateTenantReference_append hrecords.tenant
          simpa [LedgerStore.workflowEventRow, htenant] using this
        receiptRevision := hrecords.receiptRevision
        receiptEvents := by rw [List.take_append_of_le_length hlen]; exact hrecords.receiptEvents
        metadata := by rw [List.take_append_of_le_length hlen]; exact hrecords.metadata
        hashed := by
          intro e he
          rcases List.mem_append.mp he with h | h
          · exact hrecords.hashed e h
          · rw [List.mem_singleton.mp h]; simp [BusinessEvent.hashed, LedgerStore.workflowEventRow] }
  · rw [hnum'.sorted, hnum.nextEventIndex]
    exact projectionFromRecords_append hproj hrecords.initial hstate hallowed
  · have hpos : 1 ≤ LedgerStore.nextEventIndex rows := by rw [hnum.nextEventIndex]; omega
    simp only [validateCaseProjection, decide_eq_true_eq] at hpvalid ⊢
    obtain ⟨h1, h2, h3, _, h5, _⟩ := hpvalid
    exact ⟨h1, h2, h3, hpos, h5, hocc⟩

/-- **Intake writes the derived row**: the row a new case gets is the one its records derive. -/
theorem deriveFromRecords_new {now : Instant} {p : IntakePayload} {tenantId : String}
    {projection : CaseProjection} (hcase : validateCase (newCase now p tenantId) = true)
    (hrev : validateCaseRevision (newRevision now p tenantId) = true)
    (hevents : ∀ e ∈ newEvents now p tenantId, validateGeneratedLedgerEvent e = true)
    (hproj : projectionFromRecords (newCase now p tenantId) (newRevision now p tenantId)
      (newEvents now p tenantId) false = .ok projection) :
    deriveFromRecords (newCase now p tenantId) [newRevision now p tenantId]
      (newEvents now p tenantId) [newReceipt now p tenantId] = .ok projection := by
  have hnum : Numbered (newEvents now p tenantId) := by
    simp [Numbered, newEvents, initialEvents, List.range']
  refine deriveFromRecords_eq_ok.mpr
    ⟨newRevision now p tenantId, newReceipt now p tenantId, rfl, rfl, ?_, ?_, ?_⟩
  · rw [hnum.sorted]
    exact
      { caseValid := hcase
        chain := decide_eq_true ⟨hrev, rfl, rfl, rfl, rfl, rfl⟩
        first := ⟨rfl, rfl, rfl⟩
        eventsValid := hevents
        indexed := hnum
        initial := rfl
        tenant := by
          have : nonEmpty tenantId = true := by
            simp only [validateCase, decide_eq_true_eq] at hcase
            exact hcase.1
          simp [validateTenantReference, newCase, newRevision, newEvents, initialEvents, this]
        receiptRevision := rfl
        receiptEvents := rfl
        metadata := rfl
        hashed := by simp [newEvents, initialEvents, BusinessEvent.hashed] }
  · rw [hnum.sorted, ← hproj]
    rfl
  · obtain ⟨_, _, last, _, hlast, rfl⟩ := projectionFromRecords_eq_ok.mp hproj
    have hlast' : last.occurredAt.isPresent = true := by
      have hmem := hevents last (List.mem_of_getLast? hlast)
      simp only [validateGeneratedLedgerEvent, decide_eq_true_eq] at hmem
      exact hmem.2.1
    simp only [validateCase, decide_eq_true_eq] at hcase
    simp only [validateCaseProjection, decide_eq_true_eq]
    exact ⟨hcase.1, le_refl 1, hcase.2.1, by simp [newEvents, initialEvents], hcase.2.2.1, hlast'⟩

/-! ## The invariant of the ledger -/

theorem deriveFromRecords_key {c : CaseRow} {revisionRows : List CaseRevision}
    {rows : List BusinessEvent} {receipts : List InboundReceipt} {p : CaseProjection}
    (h : deriveFromRecords c revisionRows rows receipts = .ok p) :
    p.tenantId = c.tenantId ∧ p.caseId = c.caseId := by
  obtain ⟨_, _, _, _, _, hproj, _⟩ := deriveFromRecords_eq_ok.mp h
  obtain ⟨_, _, _, _, _, rfl⟩ := projectionFromRecords_eq_ok.mp hproj
  exact ⟨rfl, rfl⟩

namespace LedgerStore

/-- A record of a stored case. -/
def HasCase (s : LedgerStore) (tenantId : String) (caseId : CaseId) : Prop :=
  ∃ c ∈ s.cases, c.tenantId = tenantId ∧ c.caseId = caseId

/-- **The ledger invariant.** The read model is, case by case, what the source tables derive; the other
    fields are what keeps it so: case identities are distinct, a case's events are numbered, no record
    belongs to an unknown case, and the cursors agree with the receipts. -/
structure LedgerInv (s : LedgerStore) : Prop where
  derived : s.cases.map s.deriveCaseProjection = s.caseProjection.map .ok
  distinct : Table.Distinct CaseRow.clash s.cases
  numbered : ∀ tenantId caseId, Numbered (s.eventRows tenantId caseId)
  revisionCase : ∀ r ∈ s.caseRevisions, s.HasCase r.tenantId r.caseId
  eventCase : ∀ e ∈ s.businessEvents, s.HasCase e.tenantId e.caseId
  receiptCase : ∀ r ∈ s.inboundReceipts, s.HasCase r.tenantId r.caseId
  cursors : s.CursorsAgree

theorem ledgerInv_empty : LedgerInv {} where
  derived := rfl
  distinct := Table.distinct_nil _
  numbered := fun _ _ => rfl
  revisionCase := fun r hr => by simp at hr
  eventCase := fun e he => by simp at he
  receiptCase := fun r hr => by simp at hr
  cursors := fun k => ⟨by unfold SequencesOk; cases k.channel <;> simp [sequencesOf], rfl⟩

theorem LedgerInv.exists_projection {s : LedgerStore} (h : s.LedgerInv) {c : CaseRow}
    (hc : c ∈ s.cases) : ∃ p ∈ s.caseProjection, s.deriveCaseProjection c = .ok p := by
  have hmem : s.deriveCaseProjection c ∈ s.caseProjection.map Except.ok := by
    rw [← h.derived]; exact List.mem_map_of_mem hc
  obtain ⟨p, hp, he⟩ := List.mem_map.mp hmem
  exact ⟨p, hp, he.symm⟩

theorem LedgerInv.exists_case {s : LedgerStore} (h : s.LedgerInv) {p : CaseProjection}
    (hp : p ∈ s.caseProjection) : ∃ c ∈ s.cases, s.deriveCaseProjection c = .ok p := by
  have hmem : Except.ok p ∈ s.cases.map s.deriveCaseProjection := by
    rw [h.derived]; exact List.mem_map_of_mem hp
  obtain ⟨c, hc, he⟩ := List.mem_map.mp hmem
  exact ⟨c, hc, he⟩

theorem LedgerInv.case_unique {s : LedgerStore} (h : s.LedgerInv) {c c' : CaseRow} (hc : c ∈ s.cases)
    (hc' : c' ∈ s.cases) (ht : c.tenantId = c'.tenantId) (hi : c.caseId = c'.caseId) : c = c' := by
  refine h.distinct.eq_of_clash (fun a b => ?_) hc hc' (by simp [CaseRow.clash, ht, hi])
  simp only [CaseRow.clash, @eq_comm _ a.tenantId, @eq_comm _ a.caseId]

/-- The stored projection of a case is the derived one. -/
theorem LedgerInv.projection?_eq {s : LedgerStore} (h : s.LedgerInv) {c : CaseRow} {p q : CaseProjection}
    (hc : c ∈ s.cases) (hp : s.deriveCaseProjection c = .ok p)
    (hq : s.projection? c.tenantId c.caseId = some q) : p = q := by
  have hkey := List.find?_some hq
  simp only [decide_eq_true_eq] at hkey
  obtain ⟨c', hc', hq'⟩ := h.exists_case (List.mem_of_find?_eq_some hq)
  obtain ⟨ht, hi⟩ := deriveFromRecords_key hq'
  have : c = c' := h.case_unique hc hc' (hkey.1.symm.trans ht) (hkey.2.symm.trans hi)
  subst this
  exact Except.ok.inj (hp.symm.trans hq')

/-! ### Intake -/

theorem Accepted.not_hasCase {now : Instant} {p : IntakePayload} {tenantId : String}
    {s s' : LedgerStore} (h : Accepted now p tenantId s s') :
    ¬ s.HasCase tenantId (newCase now p tenantId).caseId := by
  rintro ⟨c, hc, ht, hi⟩
  have := h.fresh c hc
  simp [CaseRow.clash, hi, ← ht] at this
  exact this (by simp [newCase, ht])

theorem newEvents_key {now : Instant} {p : IntakePayload} {tenantId : String} {e : BusinessEvent}
    (he : e ∈ newEvents now p tenantId) :
    e.tenantId = tenantId ∧ e.caseId = (newCase now p tenantId).caseId := by
  simp only [newEvents, initialEvents, List.mem_cons, List.not_mem_nil, or_false] at he
  rcases he with rfl | rfl | rfl <;> exact ⟨rfl, rfl⟩

/-- The records of every other case are what they were. -/
theorem Accepted.queries_other {now : Instant} {p : IntakePayload} {tenantId : String}
    {s s' : LedgerStore} (h : Accepted now p tenantId s s') {t : String} {i : CaseId}
    (hne : ¬ (tenantId = t ∧ (newCase now p tenantId).caseId = i)) :
    s'.revisionsOf t i = s.revisionsOf t i ∧ s'.eventRows t i = s.eventRows t i ∧
      s'.receiptsOf t i = s.receiptsOf t i := by
  unfold revisionsOf eventRows receiptsOf
  rw [h.caseRevisions, h.businessEvents, h.inboundReceipts]
  refine ⟨Table.filter_append_other ?_, Table.filter_append_other ?_, Table.filter_append_other ?_⟩
  · intro r hr
    rw [List.mem_singleton.mp hr]; exact decide_eq_false hne
  · intro e he
    obtain ⟨ht, hi⟩ := newEvents_key he
    rw [ht, hi]; exact decide_eq_false hne
  · intro r hr
    rw [List.mem_singleton.mp hr]; exact decide_eq_false hne

/-- The new case has exactly the records the intake wrote. -/
theorem Accepted.queries_new {now : Instant} {p : IntakePayload} {tenantId : String}
    {s s' : LedgerStore} (h : Accepted now p tenantId s s') (hs : s.LedgerInv) :
    s'.revisionsOf tenantId (newCase now p tenantId).caseId = [newRevision now p tenantId] ∧
      s'.eventRows tenantId (newCase now p tenantId).caseId = newEvents now p tenantId ∧
      s'.receiptsOf tenantId (newCase now p tenantId).caseId = [newReceipt now p tenantId] := by
  have hnone := h.not_hasCase
  have hfalse : ∀ {t : String} {i : CaseId}, s.HasCase t i →
      decide (t = tenantId ∧ i = (newCase now p tenantId).caseId) = false := by
    intro t i hcase
    refine decide_eq_false ?_
    rintro ⟨rfl, rfl⟩
    exact hnone hcase
  unfold revisionsOf eventRows receiptsOf
  rw [h.caseRevisions, h.businessEvents, h.inboundReceipts]
  refine ⟨Table.filter_append_new (fun r hr => hfalse (hs.revisionCase r hr)) ?_,
    Table.filter_append_new (fun e he => hfalse (hs.eventCase e he)) ?_,
    Table.filter_append_new (fun r hr => hfalse (hs.receiptCase r hr)) ?_⟩
  · intro r hr
    rw [List.mem_singleton.mp hr]; exact decide_eq_true ⟨rfl, rfl⟩
  · exact fun e he => decide_eq_true (newEvents_key he)
  · intro r hr
    rw [List.mem_singleton.mp hr]; exact decide_eq_true ⟨rfl, rfl⟩

theorem Accepted.derived {now : Instant} {p : IntakePayload} {tenantId : String} {s s' : LedgerStore}
    (h : Accepted now p tenantId s s') (hs : s.LedgerInv) :
    s'.cases.map s'.deriveCaseProjection = s'.caseProjection.map .ok := by
  obtain ⟨projection, hproj, hstored⟩ := h.caseProjection
  have hold : s.cases.map s'.deriveCaseProjection = s.cases.map s.deriveCaseProjection := by
    refine List.map_congr_left fun c hc => ?_
    have hne : ¬ (tenantId = c.tenantId ∧ (newCase now p tenantId).caseId = c.caseId) := by
      rintro ⟨ht, hi⟩
      exact h.not_hasCase ⟨c, hc, ht.symm, hi.symm⟩
    obtain ⟨h1, h2, h3⟩ := h.queries_other hne
    rw [deriveCaseProjection, deriveCaseProjection, h1, h2, h3]
  have hnew : s'.deriveCaseProjection (newCase now p tenantId) = .ok projection := by
    obtain ⟨h1, h2, h3⟩ := h.queries_new hs
    rw [deriveCaseProjection, show (newCase now p tenantId).tenantId = tenantId from rfl, h1, h2, h3]
    exact deriveFromRecords_new h.caseValid h.revisionValid h.eventsValid hproj
  rw [h.cases, hstored, List.map_append, List.map_append, hold, hs.derived, List.map_singleton,
    List.map_singleton, hnew]

/-- **An accepted delivery keeps the invariant.** -/
theorem Accepted.inv {now : Instant} {p : IntakePayload} {tenantId : String} {s s' : LedgerStore}
    (h : Accepted now p tenantId s s') (hs : s.LedgerInv) : s'.LedgerInv := by
  have hkeep : ∀ {t i}, s.HasCase t i → s'.HasCase t i := by
    rintro t i ⟨c, hc, hk⟩
    exact ⟨c, by rw [h.cases]; exact List.mem_append_left _ hc, hk⟩
  have hnew : s'.HasCase tenantId (newCase now p tenantId).caseId :=
    ⟨newCase now p tenantId, by rw [h.cases]; simp, rfl, rfl⟩
  refine ⟨h.derived hs, ?_, ?_, ?_, ?_, ?_, ?_⟩
  · rw [h.cases]
    exact hs.distinct.append_one h.fresh
  · intro t i
    by_cases hkey : tenantId = t ∧ (newCase now p tenantId).caseId = i
    · obtain ⟨rfl, rfl⟩ := hkey
      rw [(h.queries_new hs).2.1]
      simp [Numbered, newEvents, initialEvents, List.range']
    · rw [(h.queries_other hkey).2.1]
      exact hs.numbered t i
  · intro r hr
    rw [h.caseRevisions] at hr
    rcases List.mem_append.mp hr with hr | hr
    · exact hkeep (hs.revisionCase r hr)
    · rw [List.mem_singleton.mp hr]; exact hnew
  · intro e he
    rw [h.businessEvents] at he
    rcases List.mem_append.mp he with he | he
    · exact hkeep (hs.eventCase e he)
    · rw [(newEvents_key he).1, (newEvents_key he).2]; exact hnew
  · intro r hr
    rw [h.inboundReceipts] at hr
    rcases List.mem_append.mp hr with hr | hr
    · exact hkeep (hs.receiptCase r hr)
    · rw [List.mem_singleton.mp hr]; exact hnew
  · intro k
    have hadv := @CursorsAgree.advance s (newReceipt now p tenantId) hs.cursors h.sequence k
    unfold cursorDict at hadv ⊢
    rw [h.inboundReceipts, h.conversationCursors]
    exact hadv

/-! ### The workflow-event port -/

/-- The port's `UPDATE` on one row of the read model. -/
def updateProjection (a : WorkflowStateEvent) (index : Nat) (p : CaseProjection) : CaseProjection :=
  if p.tenantId = a.tenantId ∧ p.caseId = a.caseId then
    { p with state := a.toState, eventCount := index, updatedAt := a.occurredAt }
  else p

theorem Appended.eventRows {a : WorkflowStateEvent} {s s' : LedgerStore} (h : Appended a s s')
    (t : String) (i : CaseId) :
    s'.eventRows t i = if a.tenantId = t ∧ a.caseId = i
      then s.eventRows t i ++ [workflowEventRow a (nextEventIndex (s.eventRows a.tenantId a.caseId))]
      else s.eventRows t i := by
  rw [h.stored]
  unfold LedgerStore.eventRows
  by_cases hk : a.tenantId = t ∧ a.caseId = i
  · rw [if_pos hk, List.filter_append]
    congr 1
    simp [workflowEventRow, hk]
  · rw [if_neg hk]
    refine Table.filter_append_other fun e he => ?_
    rw [List.mem_singleton.mp he]
    exact decide_eq_false hk

/-- Each case derives what the port's `UPDATE` made of its row. -/
theorem Appended.derive {a : WorkflowStateEvent} {s s' : LedgerStore} (h : Appended a s s')
    (hs : s.LedgerInv) {c : CaseRow} (hc : c ∈ s.cases) :
    s'.deriveCaseProjection c = (s.deriveCaseProjection c).map
      (updateProjection a (nextEventIndex (s.eventRows a.tenantId a.caseId))) := by
  obtain ⟨p, _, hp⟩ := hs.exists_projection hc
  obtain ⟨ht, hi⟩ := deriveFromRecords_key hp
  obtain ⟨q, hq, hstate, _⟩ := h.projection
  have hrows : s'.revisionsOf c.tenantId c.caseId = s.revisionsOf c.tenantId c.caseId ∧
      s'.receiptsOf c.tenantId c.caseId = s.receiptsOf c.tenantId c.caseId := by
    rw [h.stored]; exact ⟨rfl, rfl⟩
  rw [hp]
  unfold deriveCaseProjection at hp ⊢
  rw [h.eventRows, hrows.1, hrows.2]
  by_cases hk : a.tenantId = c.tenantId ∧ a.caseId = c.caseId
  · rw [hk.1, hk.2] at hq
    have hpq : p = q := hs.projection?_eq hc hp hq
    subst hpq
    have hnum := hs.numbered c.tenantId c.caseId
    have happ := deriveFromRecords_append hp hnum hk.1 hstate h.allowed h.occurred
      (by have := h.event; rwa [hk.1, hk.2] at this)
    rw [if_pos hk, hk.1, hk.2, happ]
    simp [Except.map, updateProjection, ht, hi, hk.1, hk.2]
  · rw [if_neg hk, hp]
    have hne : ¬ (p.tenantId = a.tenantId ∧ p.caseId = a.caseId) := by
      rw [ht, hi]; exact fun he => hk ⟨he.1.symm, he.2.symm⟩
    simp [Except.map, updateProjection, hne]

/-- **An appended event keeps the invariant.** -/
theorem Appended.inv {a : WorkflowStateEvent} {s s' : LedgerStore} (h : Appended a s s')
    (hs : s.LedgerInv) : s'.LedgerInv := by
  have hcases : s'.cases = s.cases := by rw [h.stored]
  have hkeep : ∀ {t i}, s.HasCase t i → s'.HasCase t i := by
    rintro t i hcase
    unfold HasCase
    rwa [hcases]
  obtain ⟨q, hq, _⟩ := h.projection
  have hcase : s.HasCase a.tenantId a.caseId := by
    have hkey := List.find?_some hq
    simp only [decide_eq_true_eq] at hkey
    obtain ⟨c, hc, hd⟩ := hs.exists_case (List.mem_of_find?_eq_some hq)
    obtain ⟨ht, hi⟩ := deriveFromRecords_key hd
    exact ⟨c, hc, ht.symm.trans hkey.1, hi.symm.trans hkey.2⟩
  refine ⟨?_, ?_, ?_, ?_, ?_, ?_, ?_⟩
  · have hstored : s'.caseProjection = s.caseProjection.map
        (updateProjection a (nextEventIndex (s.eventRows a.tenantId a.caseId))) := by
      rw [h.stored]
      simp only [Table.modify, decide_eq_true_eq]
      rfl
    have hmap : s.cases.map s'.deriveCaseProjection = (s.cases.map s.deriveCaseProjection).map
        (Except.map (updateProjection a (nextEventIndex (s.eventRows a.tenantId a.caseId)))) := by
      rw [List.map_map]
      exact List.map_congr_left fun c hc => h.derive hs hc
    rw [hcases, hmap, hs.derived, hstored, List.map_map, List.map_map]
    rfl
  · rw [hcases]; exact hs.distinct
  · intro t i
    rw [h.eventRows]
    by_cases hk : a.tenantId = t ∧ a.caseId = i
    · rw [if_pos hk, hk.1, hk.2]
      exact (hs.numbered t i).append (hs.numbered t i).nextEventIndex
    · rw [if_neg hk]; exact hs.numbered t i
  · intro r hr
    rw [h.stored] at hr
    exact hkeep (hs.revisionCase r hr)
  · intro e he
    rw [h.stored] at he
    rcases List.mem_append.mp he with he | he
    · exact hkeep (hs.eventCase e he)
    · rw [List.mem_singleton.mp he]; exact hkeep hcase
  · intro r hr
    rw [h.stored] at hr
    exact hkeep (hs.receiptCase r hr)
  · intro k
    rw [h.stored]
    exact hs.cursors k

/-! ## Rebuilding -/

theorem foldlM_rebuild {s : LedgerStore} {cases : List CaseRow} {projections rebuilt : List CaseProjection}
    (h : cases.map s.deriveCaseProjection = projections.map .ok)
    (hdistinct : Table.Distinct CaseRow.clash cases)
    (hnew : ∀ c ∈ cases, ∀ q ∈ rebuilt, ¬ (c.tenantId = q.tenantId ∧ c.caseId = q.caseId)) :
    cases.foldlM s.rebuildCaseProjection rebuilt = .ok (rebuilt ++ projections) := by
  induction cases generalizing projections rebuilt with
  | nil =>
      have : projections = [] := by simpa using h.symm
      simp [this, pure, Except.pure]
  | cons c cases ih =>
      obtain ⟨p, ps, rfl⟩ : ∃ p ps, projections = p :: ps := by
        cases projections with
        | nil => simp at h
        | cons p ps => exact ⟨p, ps, rfl⟩
      simp only [List.map_cons, List.cons.injEq] at h
      obtain ⟨hp, hps⟩ := h
      obtain ⟨ht, hi⟩ := deriveFromRecords_key hp
      have hins : Table.insert? CaseProjection.clash p rebuilt = some (rebuilt ++ [p]) := by
        refine Table.insert?_eq_some.mpr ⟨fun q hq => decide_eq_false ?_, rfl⟩
        rw [ht, hi]
        exact hnew c (by simp) q hq
      obtain ⟨hhead, htail⟩ := List.pairwise_cons.mp hdistinct
      have hrest : cases.foldlM s.rebuildCaseProjection (rebuilt ++ [p]) =
          .ok (rebuilt ++ [p] ++ ps) := ih hps htail (by
        intro c' hc' q hq
        rcases List.mem_append.mp hq with hq | hq
        · exact hnew c' (List.mem_cons_of_mem _ hc') q hq
        · rw [List.mem_singleton.mp hq, ht, hi]
          exact of_decide_eq_false (hhead c' hc'))
      rw [List.foldlM_cons, rebuildCaseProjection, hp]
      simp only [bind, Except.bind, hins, fetch_some]
      rw [hrest, List.append_assoc, List.singleton_append]

/-- **Replay returns the store itself**: on a ledger that satisfies the invariant, rebuilding raises
    nothing and leaves every row of the read model as it was. -/
theorem LedgerInv.rebuild {s : LedgerStore} (h : s.LedgerInv) : s.rebuildProjection = .ok s := by
  have hfold := foldlM_rebuild h.derived h.distinct (fun c _ q hq => absurd hq List.not_mem_nil)
  unfold rebuildProjection
  rw [hfold, h.cursors.validate]
  rfl

/-! ## Runs -/

end LedgerStore

/-- The writing calls a ledger receives, with the clock reading each of them sees. -/
inductive LedgerCall where
  | intake (now : Instant) (envelope : InboundMessageEvent) (effectiveTenantId : String)
  | intakeQq (now : Instant) (envelope : QQSandboxInboundEvent) (effectiveTenantId : String)
  | appendWorkflowStateEvent (event : WorkflowStateEvent)
  | rebuildProjection

namespace LedgerStore

/-- The committed store: a transaction that raises is rolled back. -/
def committed {α : Type} (s : LedgerStore) : Except LedgerError (α × LedgerStore) → LedgerStore
  | .ok (_, s') => s'
  | .error _ => s

def call (s : LedgerStore) : LedgerCall → LedgerStore
  | .intake now envelope tenantId => s.committed (s.intake now envelope tenantId)
  | .intakeQq now envelope tenantId => s.committed (s.intakeQq now envelope tenantId)
  | .appendWorkflowStateEvent event => s.committed (s.appendWorkflowStateEvent event)
  | .rebuildProjection => s.committed (s.rebuildProjection.map fun s' => ((), s'))

theorem committed_inv {α : Type} {s : LedgerStore} {r : Except LedgerError (α × LedgerStore)}
    (hs : s.LedgerInv) (h : ∀ a s', r = .ok (a, s') → s'.LedgerInv) : (s.committed r).LedgerInv := by
  cases hr : r with
  | error e => exact hs
  | ok x => exact h x.1 x.2 hr

theorem intakeValidated_inv {now : Instant} {p : IntakePayload} {tenantId : String}
    {s s' : LedgerStore} {r : IntakeResult} (hs : s.LedgerInv)
    (h : s.intakeValidated now p tenantId = .ok (r, s')) : s'.LedgerInv := by
  rcases intakeValidated_cases h with rfl | hacc
  · exact hs
  · exact hacc.inv hs

/-- **One call keeps the invariant**, whatever it is and however it ends. -/
theorem call_inv {s : LedgerStore} (hs : s.LedgerInv) (c : LedgerCall) : (s.call c).LedgerInv := by
  cases c with
  | intake now envelope tenantId =>
      refine committed_inv hs fun r s' h => ?_
      simp only [intake, require_bind_eq_ok] at h
      exact intakeValidated_inv hs h.2.2
  | intakeQq now envelope tenantId =>
      refine committed_inv hs fun r s' h => ?_
      simp only [intakeQq, require_bind_eq_ok] at h
      exact intakeValidated_inv hs h.2.2
  | appendWorkflowStateEvent event =>
      refine committed_inv hs fun r s' h => ?_
      rcases appendWorkflowStateEvent_cases h with ⟨rfl, _⟩ | happ
      · exact hs
      · exact happ.inv hs
  | rebuildProjection =>
      rw [call, hs.rebuild]
      exact hs

/-- The store after a sequence of calls, from an empty database. -/
def run (calls : List LedgerCall) : LedgerStore := calls.foldl call {}

theorem run_inv (calls : List LedgerCall) : (run calls).LedgerInv := by
  induction calls using List.reverseRecOn with
  | nil => exact ledgerInv_empty
  | append_singleton calls c ih =>
      rw [run, List.foldl_append]
      exact call_inv ih c

/-- **The incremental Case projection equals replay.** After any sequence of calls, for any tenants,
    cases and channels, rebuilding succeeds and derives exactly the rows maintained incrementally. -/
theorem rebuildProjection_run (calls : List LedgerCall) :
    (run calls).rebuildProjection = .ok (run calls) :=
  (run_inv calls).rebuild

end LedgerStore

end WeFlow
