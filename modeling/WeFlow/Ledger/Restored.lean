import WeFlow.Ledger.Snapshot

/-!
# `Restored` — a restored ledger goes on as the one it was taken from

What a delivery is answered depends on two rows, its receipt and its cursor (`intakeAnswer`): the inserts
go through on every store whose records belong to their cases (`Rooted`). A restored ledger shares both
rows with the tenant's captured records, in whatever order they came back, and an accepted delivery adds
the same rows to both. So the two stay in step, whatever else happens to the original.

## Contents

* `Rooted`, `Rooted.answer` — when an intake is decided by its receipt and its cursor.
* `Mirrors`, `Mirrors.call` — the restored ledger in step with the original.
* `restored_in_step`.
-/

namespace WeFlow

open Txn

namespace LedgerStore

variable {s s' r r' : LedgerStore} {t : String}

/-! ## What a delivery is answered -/

/-- The answer to a delivery, from its receipt or else its cursor. -/
def intakeAnswer (now : Instant) (p : IntakePayload) (t : String) (receipt : Option InboundReceipt)
    (cursor : Option ConversationCursor) : Except LedgerError IntakeResult :=
  match receipt with
  | some receipt => do
      require (receipt.fingerprint = fingerprintOf t p) .inboundEventConflict
      return ⟨true, receipt.caseId, receipt.caseRevisionId, receipt.eventIds⟩
  | none => do
      require (validSequence p.channel cursor p.conversationSequence) .inboundOutOfOrder
      require (validateCase (newCase now p t)) .contractInvalid
      require (validateCaseRevision (newRevision now p t)) .contractInvalid
      require ((newEvents now p t).all validateGeneratedLedgerEvent) .contractInvalid
      return ⟨false, (newCase now p t).caseId, (newRevision now p t).caseRevisionId,
        (newEvents now p t).map (·.eventId)⟩

/-- **The records belong to their cases**, and a case to its receipt. -/
structure Rooted (s : LedgerStore) : Prop where
  caseKey : ∀ c ∈ s.cases, c.caseId = caseIdOf c.tenantId c.deliveryKey
  caseReceipt : ∀ c ∈ s.cases, ∃ r ∈ s.inboundReceipts, r.tenantId = c.tenantId ∧ r.deliveryKey = c.deliveryKey
  receipt : ∀ r ∈ s.inboundReceipts,
    s.HasCase r.tenantId r.caseId ∧ r.caseId = caseIdOf r.tenantId r.deliveryKey
  revision : ∀ r ∈ s.caseRevisions,
    s.HasCase r.tenantId r.caseId ∧ r.caseRevisionId = revisionIdOf r.caseId
  event : ∀ e ∈ s.businessEvents,
    s.HasCase e.tenantId e.caseId ∧ e.eventId = eventIdOf e.caseId e.eventType e.caseEventIndex
  projection : ∀ p ∈ s.caseProjection, s.HasCase p.tenantId p.caseId

theorem SnapshotInv.rooted (hs : SnapshotInv s) : Rooted s where
  caseKey := hs.delivery.caseKey
  caseReceipt := by
    intro c hc
    obtain ⟨p, -, hp⟩ := hs.ledger.exists_projection hc
    unfold deriveCaseProjection at hp
    obtain ⟨-, receipt, -, hreceipts, -, -, -⟩ := deriveFromRecords_eq_ok.mp hp
    have hmem : receipt ∈ s.receiptsOf c.tenantId c.caseId := by
      rw [hreceipts]
      exact List.mem_singleton_self _
    obtain ⟨hreceipt, hkey⟩ := List.mem_filter.mp hmem
    obtain ⟨htenant, hcase⟩ := of_decide_eq_true hkey
    refine ⟨receipt, hreceipt, htenant, ?_⟩
    have hid := hcase.symm.trans (hs.delivery.determined receipt hreceipt).caseId
    exact (CaseMaterial.mk.inj (stableIdentifier_inj.mp ((hs.delivery.caseKey c hc).symm.trans hid))).2.symm
  receipt := fun r hr => ⟨hs.ledger.receiptCase r hr, (hs.delivery.determined r hr).caseId⟩
  revision := fun r hr => ⟨hs.ledger.revisionCase r hr, hs.revisionId r hr⟩
  event := fun e he => ⟨hs.ledger.eventCase e he, hs.eventId e he⟩
  projection := by
    intro p hp
    obtain ⟨c, hc, hd⟩ := hs.ledger.exists_case hp
    obtain ⟨htenant, hcase⟩ := deriveFromRecords_key hd
    exact ⟨c, hc, htenant.symm, hcase.symm⟩

/-- What is captured is rooted as well. -/
theorem Rooted.captured (hs : Rooted s) (t : String) : Rooted (s.captured t) := by
  have hcase : ∀ {tenantId : String} {caseId : CaseId}, tenantId = t → s.HasCase tenantId caseId →
      (s.captured t).HasCase tenantId caseId := by
    rintro tenantId caseId ht ⟨c, hc, htenant, hid⟩
    exact ⟨c, List.mem_filter.mpr ⟨hc, decide_eq_true (htenant.trans ht)⟩, htenant, hid⟩
  refine ⟨?_, ?_, ?_, ?_, ?_, ?_⟩
  · intro c hc
    exact hs.caseKey c (List.mem_filter.mp hc).1
  · intro c hc
    obtain ⟨hmem, ht⟩ := List.mem_filter.mp hc
    obtain ⟨receipt, hreceipt, htenant, hkey⟩ := hs.caseReceipt c hmem
    have hown : receipt.tenantId = t := htenant.trans (of_decide_eq_true ht)
    exact ⟨receipt, List.mem_filter.mpr ⟨hreceipt, decide_eq_true hown⟩, htenant, hkey⟩
  · intro x hx
    obtain ⟨hmem, ht⟩ := List.mem_filter.mp hx
    exact ⟨hcase (of_decide_eq_true ht) (hs.receipt x hmem).1, (hs.receipt x hmem).2⟩
  · intro x hx
    obtain ⟨hmem, ht⟩ := List.mem_filter.mp hx
    exact ⟨hcase (of_decide_eq_true ht) (hs.revision x hmem).1, (hs.revision x hmem).2⟩
  · intro x hx
    obtain ⟨hmem, ht⟩ := List.mem_filter.mp (List.mem_filter.mp hx).1
    exact ⟨hcase (of_decide_eq_true ht) (hs.event x hmem).1, (hs.event x hmem).2⟩
  · intro x hx
    obtain ⟨q, hq, rfl⟩ := List.mem_map.mp hx
    obtain ⟨hmem, ht⟩ := List.mem_filter.mp hq
    exact hcase (of_decide_eq_true ht) (hs.projection q hmem)

theorem Rooted.sameRows (hs : Rooted s) (h : SameRows s r) : Rooted r := by
  have hcase : ∀ {tenantId : String} {caseId : CaseId}, s.HasCase tenantId caseId →
      r.HasCase tenantId caseId := by
    rintro tenantId caseId ⟨c, hc, hkey⟩
    exact ⟨c, h.cases.mem_iff.mp hc, hkey⟩
  refine ⟨?_, ?_, ?_, ?_, ?_, ?_⟩
  · intro c hc
    exact hs.caseKey c (h.cases.mem_iff.mpr hc)
  · intro c hc
    obtain ⟨x, hx, hkey⟩ := hs.caseReceipt c (h.cases.mem_iff.mpr hc)
    exact ⟨x, h.inboundReceipts.mem_iff.mp hx, hkey⟩
  · intro x hx
    exact (hs.receipt x (h.inboundReceipts.mem_iff.mpr hx)).imp hcase id
  · intro x hx
    exact (hs.revision x (h.caseRevisions.mem_iff.mpr hx)).imp hcase id
  · intro x hx
    exact (hs.event x (h.businessEvents.mem_iff.mpr hx)).imp hcase id
  · intro x hx
    exact hcase (hs.projection x (h.caseProjection.mem_iff.mpr hx))

/-- A delivery without a receipt has no case. -/
theorem Rooted.not_hasCase (hs : Rooted s) {now : Instant} {p : IntakePayload}
    (hnone : s.receipt? t (deliveryKeyOf t p) = none) : ¬ s.HasCase t (newCase now p t).caseId := by
  rintro ⟨c, hc, htenant, hid⟩
  obtain ⟨x, hx, hxtenant, hxkey⟩ := hs.caseReceipt c hc
  have hmaterial := CaseMaterial.mk.inj (stableIdentifier_inj.mp ((hs.caseKey c hc).symm.trans hid))
  refine List.find?_eq_none.mp hnone x hx (decide_eq_true ⟨hxtenant.trans htenant, ?_⟩)
  exact hxkey.trans hmaterial.2

theorem insertEvents_ok {events rows : List BusinessEvent} (h : Table.Distinct BusinessEvent.clash events)
    (hfresh : ∀ e ∈ events, ∀ x ∈ rows, BusinessEvent.clash e x = false) :
    insertEvents events rows = .ok (rows ++ events) := by
  induction events generalizing rows with
  | nil => rw [List.append_nil]; rfl
  | cons e events ih =>
      obtain ⟨hhead, htail⟩ := List.pairwise_cons.mp h
      have hinsert : insertEvent rows e = .ok (rows ++ [e]) :=
        fetch_eq_ok.mpr (Table.insert?_eq_some.mpr ⟨hfresh e List.mem_cons_self, rfl⟩)
      have hrest : insertEvents events (rows ++ [e]) = .ok (rows ++ [e] ++ events) := by
        refine ih htail fun e' he' x hx => ?_
        rcases List.mem_append.mp hx with hx | hx
        · exact hfresh e' (List.mem_cons_of_mem _ he') x hx
        · rw [List.mem_singleton.mp hx]
          exact hhead e' he'
      rw [insertEvents, List.foldlM_cons, hinsert]
      show insertEvents events (rows ++ [e]) = _
      rw [hrest, List.append_assoc, List.singleton_append]

/-- **The answer to a delivery is decided by its receipt and its cursor.** -/
theorem Rooted.answer (hs : Rooted s) (now : Instant) (p : IntakePayload) (t : String) :
    (s.intakeValidated now p t).map (·.1) =
      intakeAnswer now p t (s.receipt? t (deliveryKeyOf t p)) (s.cursor? ⟨t, p.channel, p.conversationId⟩) := by
  unfold intakeValidated intakeAnswer
  cases hreceipt : s.receipt? t (deliveryKeyOf t p) with
  | some receipt =>
      dsimp only
      cases decide (receipt.fingerprint = fingerprintOf t p) <;> rfl
  | none =>
      have hnone : ¬ s.HasCase t (newCase now p t).caseId := hs.not_hasCase hreceipt
      have hcases : Table.insert? CaseRow.clash (newCase now p t) s.cases =
          some (s.cases ++ [newCase now p t]) := by
        refine Table.insert?_eq_some.mpr ⟨fun c hc => decide_eq_false ?_, rfl⟩
        rintro ⟨ht, hid⟩
        exact hnone ⟨c, hc, ht.symm, hid.symm⟩
      have hrevisions : Table.insert? CaseRevision.clash (newRevision now p t) s.caseRevisions =
          some (s.caseRevisions ++ [newRevision now p t]) := by
        refine Table.insert?_eq_some.mpr ⟨fun x hx => ?_, rfl⟩
        exact newRevision_fresh hnone (hs.revision x hx).1 (hs.revision x hx).2
      have hevents : insertEvents (newEvents now p t) s.businessEvents =
          .ok (s.businessEvents ++ newEvents now p t) := by
        refine insertEvents_ok (newEvents_distinct now p t) fun e he x hx => ?_
        exact newEvents_fresh hnone he (hs.event x hx).1 (hs.event x hx).2
      have hreceipts : Table.insert? InboundReceipt.clash (newReceipt now p t) s.inboundReceipts =
          some (s.inboundReceipts ++ [newReceipt now p t]) := by
        refine Table.insert?_eq_some.mpr ⟨fun x hx => decide_eq_false ?_, rfl⟩
        rintro ⟨ht, hkey⟩
        exact List.find?_eq_none.mp hreceipt x hx (decide_eq_true ⟨ht.symm, hkey.symm⟩)
      obtain ⟨projection, hprojection, hkey⟩ : ∃ projection : CaseProjection,
          projectionFromRecords (newCase now p t) (newRevision now p t) (newEvents now p t) false =
            .ok projection ∧ projection.tenantId = t ∧ projection.caseId = (newCase now p t).caseId :=
        ⟨_, rfl, rfl, rfl⟩
      have hprojections : Table.insert? CaseProjection.clash projection s.caseProjection =
          some (s.caseProjection ++ [projection]) := by
        refine Table.insert?_eq_some.mpr ⟨fun q hq => decide_eq_false ?_, rfl⟩
        rintro ⟨ht, hid⟩
        have hcase := hs.projection q hq
        rw [← ht, ← hid, hkey.1, hkey.2] at hcase
        exact hnone hcase
      dsimp only
      rw [hcases, hrevisions, hevents, hreceipts, hprojection]
      simp only [fetch_some, bind, Except.bind, hprojections]
      cases validSequence p.channel (s.cursor? ⟨t, p.channel, p.conversationId⟩) p.conversationSequence
      · rfl
      · cases validateCase (newCase now p t)
        · rfl
        · cases validateCaseRevision (newRevision now p t)
          · rfl
          · cases (newEvents now p t).all validateGeneratedLedgerEvent <;> rfl

/-! ## In step -/

/-- **A ledger that mirrors a tenant's part of another**: it holds what was captured of the tenant. -/
structure Mirrors (t : String) (s r : LedgerStore) : Prop where
  original : SnapshotInv s
  rows : SameRows (s.captured t) r

theorem Mirrors.receipt? (h : Mirrors t s r) (key : DeliveryKey) : r.receipt? t key = s.receipt? t key := by
  have hdistinct : Table.Distinct InboundReceipt.clash (s.captured t).inboundReceipts :=
    h.original.delivery.distinct.filter _
  rw [← receipt?_of s t key]
  refine (hdistinct.find?_perm InboundReceipt.clash_comm h.rows.inboundReceipts fun a b ha hb => ?_).symm
  have ha' := of_decide_eq_true ha
  have hb' := of_decide_eq_true hb
  exact decide_eq_true ⟨ha'.1.trans hb'.1.symm, ha'.2.trans hb'.2.symm⟩

theorem Mirrors.cursor? (h : Mirrors t s r) (channel : Channel) (conversationId : String) :
    r.cursor? ⟨t, channel, conversationId⟩ = s.cursor? ⟨t, channel, conversationId⟩ := by
  rw [← cursor?_of s t channel conversationId]
  exact (h.rows.cursor? (h.original.capturedKeys t) _).symm

/-- **A delivery is answered alike.** -/
theorem Mirrors.answer (h : Mirrors t s r) (now : Instant) (x : Envelope) :
    (x.deliver now t r).map (·.1) = (x.deliver now t s).map (·.1) := by
  have hvalidated : (r.intakeValidated now x.payload t).map (·.1) =
      (s.intakeValidated now x.payload t).map (·.1) := by
    rw [((h.original.rooted.captured t).sameRows h.rows).answer, h.original.rooted.answer, h.receipt?, h.cursor?]
  have hcheck : ∀ {c : Bool} {e : LedgerError} {f g : Unit → Except LedgerError (IntakeResult × LedgerStore)},
      (f ()).map (·.1) = (g ()).map (·.1) →
      (require c e >>= f).map (·.1) = (require c e >>= g).map (·.1) := by
    intro c e f g hfg
    cases c
    · rfl
    · exact hfg
  cases x with
  | synthetic e => exact hcheck (hcheck hvalidated)
  | qq e => exact hcheck (hcheck hvalidated)

/-- An accepted delivery adds the same rows on both sides. -/
theorem Mirrors.accepted {now : Instant} {p : IntakePayload} (h : Mirrors t s r) (hs : Accepted now p t s s')
    (hr : Accepted now p t r r') : Mirrors t s' r' := by
  obtain ⟨q, hq, hqs⟩ := hs.captured.caseProjection
  obtain ⟨q', hq', hqr⟩ := hr.caseProjection
  obtain rfl := Except.ok.inj (hq.symm.trans hq')
  refine ⟨hs.snapshotInv h.original, ⟨⟨?_, ?_, ?_, ?_, ?_⟩, ?_⟩⟩
  · rw [hs.captured.inboundReceipts, hr.inboundReceipts]
    exact h.rows.inboundReceipts.append_right _
  · rw [hs.captured.conversationCursors, hr.conversationCursors]
    exact Table.upsert_perm _ _ _ h.rows.conversationCursors
  · rw [hs.captured.cases, hr.cases]
    exact h.rows.cases.append_right _
  · rw [hs.captured.caseRevisions, hr.caseRevisions]
    exact h.rows.caseRevisions.append_right _
  · rw [hs.captured.businessEvents, hr.businessEvents]
    exact h.rows.businessEvents.append_right _
  · rw [hqs, hqr]
    exact h.rows.caseProjection.append_right _

/-- One delivery, on both sides. -/
theorem Mirrors.deliver (h : Mirrors t s r) (now : Instant) (x : Envelope) :
    Mirrors t (s.call (x.call now t)) (r.call (x.call now t)) := by
  rw [x.call_eq, x.call_eq]
  have hanswer := h.answer now x
  cases hr : x.deliver now t r with
  | error e =>
      cases hs : x.deliver now t s with
      | error e' => exact h
      | ok answer =>
          rw [hr, hs] at hanswer
          cases hanswer
  | ok answer =>
      cases hs : x.deliver now t s with
      | error e' =>
          rw [hr, hs] at hanswer
          cases hanswer
      | ok answer' =>
          have hr' := (Envelope.deliver_eq_ok.mp hr).2
          have hs' := (Envelope.deliver_eq_ok.mp hs).2
          show Mirrors t answer'.2 answer.2
          cases hreceipt : s.receipt? t (deliveryKeyOf t x.payload) with
          | some receipt =>
              rw [eq_of_intakeValidated hs' hreceipt, eq_of_intakeValidated hr' ((h.receipt? _).trans hreceipt)]
              exact h
          | none =>
              exact h.accepted (accepted_of_intakeValidated hs' hreceipt)
                (accepted_of_intakeValidated hr' ((h.receipt? _).trans hreceipt))

end LedgerStore

/-- The calls that deliver for a tenant. -/
def LedgerCall.delivers (t : String) : LedgerCall → Bool
  | .intake _ _ tenantId => tenantId = t
  | .intakeQq _ _ tenantId => tenantId = t
  | .appendWorkflowStateEvent _ => false
  | .rebuildProjection => false

namespace LedgerStore

variable {s r : LedgerStore} {t : String}

/-- **One call keeps them in step**; the mirror receives it if it delivers for the tenant. -/
theorem Mirrors.call (h : Mirrors t s r) (c : LedgerCall) :
    Mirrors t (s.call c) (if c.delivers t then r.call c else r) := by
  have hother : ∀ {tenantId : String} {now : Instant} {x : Envelope}, tenantId ≠ t →
      Mirrors t (s.call (x.call now tenantId)) r := by
    intro tenantId now x ht
    refine ⟨h.original.call _, ?_⟩
    rw [x.call_eq]
    rcases committed_cases (s := s) (r := x.deliver now tenantId s) with hsame | ⟨answer, hok⟩
    · rw [hsame]
      exact h.rows
    · rcases intakeValidated_cases (Envelope.deliver_eq_ok.mp hok).2 with hsame | haccepted
      · rw [hsame]
        exact h.rows
      · rw [haccepted.captured_other ht]
        exact h.rows
  cases c with
  | intake now envelope tenantId =>
      by_cases ht : tenantId = t
      · subst ht
        have hdelivers : (LedgerCall.intake now envelope tenantId).delivers tenantId = true := decide_eq_true rfl
        rw [if_pos hdelivers]
        exact h.deliver now (.synthetic envelope)
      · rw [if_neg (by simpa [LedgerCall.delivers] using ht)]
        exact hother (x := .synthetic envelope) ht
  | intakeQq now envelope tenantId =>
      by_cases ht : tenantId = t
      · subst ht
        have hdelivers : (LedgerCall.intakeQq now envelope tenantId).delivers tenantId = true := decide_eq_true rfl
        rw [if_pos hdelivers]
        exact h.deliver now (.qq envelope)
      · rw [if_neg (by simpa [LedgerCall.delivers] using ht)]
        exact hother (x := .qq envelope) ht
  | appendWorkflowStateEvent event =>
      refine ⟨h.original.call _, ?_⟩
      show SameRows (LedgerStore.captured t (s.committed (s.appendWorkflowStateEvent event))) r
      rcases committed_cases (s := s) (r := s.appendWorkflowStateEvent event) with hsame | ⟨answer, hok⟩
      · rw [hsame]
        exact h.rows
      · rcases appendWorkflowStateEvent_cases hok with ⟨hsame, -⟩ | happended
        · rw [hsame]
          exact h.rows
        · rw [happended.captured]
          exact h.rows
  | rebuildProjection =>
      have hsame : s.call .rebuildProjection = s := by
        rw [LedgerStore.call, h.original.ledger.rebuild]
        rfl
      rw [hsame]
      exact h

theorem Mirrors.calls (h : Mirrors t s r) (later : List LedgerCall) :
    Mirrors t (later.foldl LedgerStore.call s) ((later.filter (·.delivers t)).foldl LedgerStore.call r) := by
  induction later generalizing s r with
  | nil => exact h
  | cons c later ih =>
      have hstep := ih (h.call c)
      rw [List.foldl_cons]
      by_cases hc : c.delivers t = true
      · rw [if_pos hc] at hstep
        rw [List.filter_cons_of_pos hc, List.foldl_cons]
        exact hstep
      · rw [if_neg hc] at hstep
        rw [List.filter_cons_of_neg hc]
        exact hstep

/-- **A restored ledger goes on as the original.** Take a snapshot of a tenant after any calls and read it
    back; let anything happen to the original, and let the restored ledger see what is delivered for the
    tenant. Then it holds what the original has captured for the tenant, and the next delivery, whether it
    is new, repeated, conflicting, out of order or malformed, is answered alike by both. -/
theorem restored_in_step (text : LedgerText) (calls later : List LedgerCall) (t : String) (r : LedgerStore)
    (hr : restoreSnapshot false ((run calls).exportSnapshot text t) = .ok r) (now : Instant) (x : Envelope) :
    SameRows ((run (calls ++ later)).captured t) ((later.filter (·.delivers t)).foldl call r) ∧
      (x.deliver now t ((later.filter (·.delivers t)).foldl call r)).map (·.1) =
        (x.deliver now t (run (calls ++ later))).map (·.1) := by
  have ht : nonEmpty t = true := by
    unfold restoreSnapshot at hr
    rw [require_bind_eq_ok, require_bind_eq_ok, require_bind_eq_ok] at hr
    exact hr.2.2.1
  obtain ⟨r', hrestored, hsame, -⟩ := (snapshotInv_run calls).restore text ht
  obtain rfl := Except.ok.inj (hrestored.symm.trans hr)
  have hmirrors : Mirrors t (run calls) r' := ⟨snapshotInv_run calls, hsame⟩
  have hlater := hmirrors.calls later
  have hrun : run (calls ++ later) = later.foldl call (run calls) := List.foldl_append
  rw [hrun]
  exact ⟨hlater.rows, hlater.answer now x⟩

/-- A message that comes again after the restore is answered from its receipt. -/
theorem restored_in_step_example :
    ∃ r, restoreSnapshot false firstSnapshot = .ok r ∧
      ((Envelope.synthetic (firstMessage "alpha")).deliver 3 "alpha" r).map (·.1) =
        ((Envelope.synthetic (firstMessage "alpha")).deliver 3 "alpha"
          (run ([.intake 1 (firstMessage "bravo") "bravo", .intake 2 (firstMessage "alpha") "alpha"] ++
            [.rebuildProjection]))).map (·.1) := by
  obtain ⟨r, hr, -, -⟩ := (snapshotInv_run _).restore firstCases (t := "alpha") (by decide)
  exact ⟨r, hr, (restored_in_step firstCases _ [.rebuildProjection] "alpha" r hr 3 _).2⟩

end LedgerStore

end WeFlow
