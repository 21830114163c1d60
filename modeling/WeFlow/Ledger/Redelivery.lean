import WeFlow.Ledger.Agreement

/-!
# `Redelivery` — every delivery is accepted once and in order

A delivery key is the primary key of the receipts, and it determines the case, the revision and the
initial events by their identifiers. So the receipt of a key fixes everything the key owns, and an
envelope that comes again is answered from it. The order of a conversation is read off the receipts,
which are only ever appended.

## Contents

* `Delivery` — the invariant: receipts are distinct and name the records that their key determines.
* `LedgerInv.owns` — what one receipt owns.
* `Envelope`, `deliver_of_receipt`, `deliver_of_gap` — an envelope that comes again, or out of order.
* `intake_exactly_once` — all of it, after any calls.
-/

namespace WeFlow

open Txn

/-- An envelope of either channel. -/
inductive Envelope where
  | synthetic (envelope : InboundMessageEvent)
  | qq (envelope : QQSandboxInboundEvent)
  deriving DecidableEq, Repr

namespace Envelope

def payload : Envelope → IntakePayload
  | synthetic e =>
      { channel := .syntheticIm, channelEventId := .text e.channelEventId,
        conversationId := e.conversationId, senderId := e.senderId, customerId := e.customerId,
        conversationSequence := e.conversationSequence, occurredAt := e.occurredAt,
        receivedAt := e.receivedAt, correlationId := e.correlationId,
        contentClassification := e.contentClassification, contentSha256 := e.contentSha256 }
  | qq e =>
      { channel := .qqSandbox, channelEventId := .naturalKey e.inboundNaturalKey,
        conversationId := e.conversationId, senderId := e.senderOpenidHash,
        customerId := e.customerId, conversationSequence := e.gatewaySequence,
        occurredAt := e.occurredAt, receivedAt := e.receivedAt, correlationId := e.correlationId,
        contentClassification := e.contentClassification, contentSha256 := e.contentSha256 }

/-- The key of an envelope that is delivered for a tenant. -/
def key (x : Envelope) (tenantId : String) : DeliveryKey := deliveryKeyOf tenantId x.payload

/-- The intake of an envelope: what it returns, and the store it commits. -/
def deliver (x : Envelope) (now : Instant) (tenantId : String) (s : LedgerStore) :
    Except LedgerError (IntakeResult × LedgerStore) :=
  match x with
  | synthetic e => s.intake now e tenantId
  | qq e => s.intakeQq now e tenantId

def call (x : Envelope) (now : Instant) (tenantId : String) : LedgerCall :=
  match x with
  | synthetic e => .intake now e tenantId
  | qq e => .intakeQq now e tenantId

theorem call_eq (x : Envelope) (now : Instant) (tenantId : String) (s : LedgerStore) :
    s.call (x.call now tenantId) = s.committed (x.deliver now tenantId s) := by
  cases x <;> rfl

/-- The checks on the envelope itself, which see neither the store nor the clock. -/
def Valid (x : Envelope) (tenantId : String) : Prop :=
  match x with
  | synthetic e => validateInboundMessageEvent e = true ∧ e.tenantId = tenantId
  | qq e => validateQqSandboxInboundEvent e = true ∧ e.tenantId = tenantId

theorem deliver_eq_ok {x : Envelope} {now : Instant} {tenantId : String} {s : LedgerStore}
    {r : IntakeResult × LedgerStore} :
    x.deliver now tenantId s = .ok r ↔
      x.Valid tenantId ∧ s.intakeValidated now x.payload tenantId = .ok r := by
  cases x with
  | synthetic e =>
      show s.intake now e tenantId = .ok r ↔ _
      unfold LedgerStore.intake
      rw [require_bind_eq_ok, require_bind_eq_ok, decide_eq_true_eq, ← and_assoc]
      rfl
  | qq e =>
      show s.intakeQq now e tenantId = .ok r ↔ _
      unfold LedgerStore.intakeQq
      rw [require_bind_eq_ok, require_bind_eq_ok, decide_eq_true_eq, ← and_assoc]
      rfl

end Envelope

namespace LedgerStore

/-! ## What a call can do -/

theorem committed_cases {α : Type} {s : LedgerStore} {r : Except LedgerError (α × LedgerStore)} :
    s.committed r = s ∨ ∃ a, r = .ok (a, s.committed r) := by
  cases r with
  | error e => exact Or.inl rfl
  | ok x => exact Or.inr ⟨x.1, rfl⟩

/-- **One call** leaves the store alone, accepts one delivery or appends one workflow event. -/
theorem LedgerInv.call_cases {s : LedgerStore} (hs : s.LedgerInv) (c : LedgerCall) :
    s.call c = s ∨ (∃ now p tenantId, Accepted now p tenantId s (s.call c)) ∨
      ∃ a, Appended a s (s.call c) := by
  have hintake : ∀ (now : Instant) (x : Envelope) (tenantId : String),
      s.call (x.call now tenantId) = s ∨
        ∃ now' p t, Accepted now' p t s (s.call (x.call now tenantId)) := by
    intro now x tenantId
    rw [x.call_eq]
    rcases committed_cases (s := s) (r := x.deliver now tenantId s) with h | ⟨r, h⟩
    · exact Or.inl h
    · rcases intakeValidated_cases (Envelope.deliver_eq_ok.mp h).2 with h' | h'
      · exact Or.inl h'
      · exact Or.inr ⟨now, x.payload, tenantId, h'⟩
  cases c with
  | intake now envelope tenantId =>
      exact (hintake now (.synthetic envelope) tenantId).imp id Or.inl
  | intakeQq now envelope tenantId =>
      exact (hintake now (.qq envelope) tenantId).imp id Or.inl
  | appendWorkflowStateEvent event =>
      rcases committed_cases (s := s) (r := s.appendWorkflowStateEvent event) with h | ⟨r, h⟩
      · exact Or.inl h
      · rcases appendWorkflowStateEvent_cases h with ⟨h', _⟩ | h'
        · exact Or.inl h'
        · exact Or.inr (Or.inr ⟨event, h'⟩)
  | rebuildProjection =>
      refine Or.inl ?_
      rw [call, hs.rebuild]
      rfl

/-! ## The invariant of the receipts -/

/-- The identifiers of the initial events of a case. -/
def initialEventIds (caseId : CaseId) : List EventId :=
  [eventIdOf caseId .inboundReceived 1, eventIdOf caseId .caseRevisionCreated 2,
    eventIdOf caseId .caseStateTransitioned 3]

end LedgerStore

/-- The key of the delivery that opened a case. -/
def CaseRow.deliveryKey (c : CaseRow) : DeliveryKey := ⟨c.tenantId, c.channel, c.sourceEventId⟩

/-- A receipt names the records that its key determines. -/
structure InboundReceipt.Determined (r : InboundReceipt) : Prop where
  tenant : r.deliveryKey.tenantId = r.tenantId
  caseId : r.caseId = caseIdOf r.tenantId r.deliveryKey
  revision : r.caseRevisionId = revisionIdOf r.caseId
  events : r.eventIds = LedgerStore.initialEventIds r.caseId

namespace LedgerStore

/-- **The invariant of the receipts**: a key has one of them, and it names what the key determines. -/
structure Delivery (s : LedgerStore) : Prop where
  distinct : Table.Distinct InboundReceipt.clash s.inboundReceipts
  determined : ∀ r ∈ s.inboundReceipts, r.Determined
  caseKey : ∀ c ∈ s.cases, c.caseId = caseIdOf c.tenantId c.deliveryKey

theorem delivery_empty : Delivery {} where
  distinct := Table.distinct_nil _
  determined := fun r hr => by simp at hr
  caseKey := fun c hc => by simp at hc

theorem receipt?_eq_some_iff {s : LedgerStore} (hs : s.Delivery) {tenantId : String}
    {key : DeliveryKey} {r : InboundReceipt} :
    s.receipt? tenantId key = some r ↔
      r ∈ s.inboundReceipts ∧ r.tenantId = tenantId ∧ r.deliveryKey = key := by
  constructor
  · intro h
    have hkey := List.find?_some h
    exact ⟨List.mem_of_find?_eq_some h, of_decide_eq_true hkey⟩
  · rintro ⟨hr, ht, hk⟩
    cases hfound : s.receipt? tenantId key with
    | none =>
        have hnone := List.find?_eq_none.mp hfound r hr
        exact absurd (decide_eq_true ⟨ht, hk⟩) hnone
    | some x =>
        have hx := List.mem_of_find?_eq_some hfound
        have hxkey := List.find?_some hfound
        rw [decide_eq_true_eq] at hxkey
        have hclash : InboundReceipt.clash x r = true :=
          decide_eq_true ⟨hxkey.1.trans ht.symm, hxkey.2.trans hk.symm⟩
        have hsymm : ∀ a b, InboundReceipt.clash a b = InboundReceipt.clash b a := by
          intro a b
          simp only [InboundReceipt.clash, @eq_comm _ a.tenantId, @eq_comm _ a.deliveryKey]
        rw [hs.distinct.eq_of_clash hsymm hx hr hclash]

/-- **An accepted delivery keeps the invariant of the receipts.** -/
theorem Accepted.delivery {now : Instant} {p : IntakePayload} {tenantId : String} {s s' : LedgerStore}
    (h : Accepted now p tenantId s s') (hinv : s.LedgerInv) (hs : s.Delivery) : s'.Delivery := by
  refine ⟨?_, ?_, ?_⟩
  · rw [h.inboundReceipts]
    refine hs.distinct.append_one fun r hr => decide_eq_false ?_
    -- a stored receipt of this key would have its case stored, which the insertion rules out
    rintro ⟨ht, hk⟩
    refine h.not_hasCase ?_
    have hcase := hinv.receiptCase r hr
    rw [(hs.determined r hr).caseId, ← ht, ← hk] at hcase
    exact hcase
  · intro r hr
    rw [h.inboundReceipts] at hr
    rcases List.mem_append.mp hr with hr | hr
    · exact hs.determined r hr
    · rw [List.mem_singleton.mp hr]
      exact ⟨rfl, rfl, rfl, rfl⟩
  · intro c hc
    rw [h.cases] at hc
    rcases List.mem_append.mp hc with hc | hc
    · exact hs.caseKey c hc
    · rw [List.mem_singleton.mp hc]
      rfl

theorem Delivery.call {s : LedgerStore} (hinv : s.LedgerInv) (hs : s.Delivery) (c : LedgerCall) :
    (s.call c).Delivery := by
  rcases hinv.call_cases c with h | ⟨now, p, tenantId, h⟩ | ⟨a, h⟩
  · rw [h]
    exact hs
  · exact h.delivery hinv hs
  · rw [h.stored]
    exact ⟨hs.distinct, hs.determined, hs.caseKey⟩

/-- Receipts are only ever appended. -/
theorem LedgerInv.receipts_grow {s : LedgerStore} (hs : s.LedgerInv) (c : LedgerCall) :
    s.inboundReceipts <+: (s.call c).inboundReceipts := by
  rcases hs.call_cases c with h | ⟨now, p, tenantId, h⟩ | ⟨a, h⟩
  · rw [h]
  · rw [h.inboundReceipts]
    exact List.prefix_append _ _
  · rw [h.stored]

/-! ## What a receipt owns -/

/-- The records of one delivery: it has one receipt, the receipt one case and this case no other
    receipt, the case one revision, and the first three of its events are the initial ones; whatever
    follows them was written by its workflow. -/
structure Owns (s : LedgerStore) (r : InboundReceipt) : Prop where
  receipt : s.inboundReceipts.filter
    (fun x => x.tenantId = r.tenantId ∧ x.deliveryKey = r.deliveryKey) = [r]
  theCase : ∃ c, c.caseId = r.caseId ∧ c.tenantId = r.tenantId ∧
    s.cases.filter (fun x => x.deliveryKey = r.deliveryKey) = [c]
  caseReceipt : s.receiptsOf r.tenantId r.caseId = [r]
  revision : ∃ v, v.caseRevisionId = r.caseRevisionId ∧ s.revisionsOf r.tenantId r.caseId = [v]
  initial : ((s.eventRows r.tenantId r.caseId).take 3).map (fun e => (e.eventId, e.eventType)) =
    r.eventIds.zip initialEventTypes
  others : ∀ e ∈ (s.eventRows r.tenantId r.caseId).drop 3, e.eventType = .workflowStateTransitioned

theorem foldlM_replayEvent_type {events : List BusinessEvent} {state last : WorkflowState}
    (h : events.foldlM replayEvent state = .ok last) :
    ∀ e ∈ events, e.eventType = .workflowStateTransitioned := by
  induction events generalizing state with
  | nil => exact fun e he => nomatch he
  | cons x events ih =>
      rw [List.foldlM_cons, bind_eq_ok] at h
      obtain ⟨mid, hstep, hrest⟩ := h
      have hx : x.eventType = .workflowStateTransitioned := by
        unfold replayEvent at hstep
        split at hstep
        · rw [require_bind_eq_ok] at hstep
          exact (of_decide_eq_true hstep.1).1
        · exact nomatch hstep
      intro e he
      rcases List.mem_cons.mp he with rfl | he
      · exact hx
      · exact ih hrest e he

/-- **A receipt owns one case, one revision and one set of initial events.** -/
theorem LedgerInv.owns {s : LedgerStore} (hs : s.LedgerInv) (hd : s.Delivery) {r : InboundReceipt}
    (hr : r ∈ s.inboundReceipts) : s.Owns r := by
  obtain ⟨c, hc, hct, hci⟩ := hs.receiptCase r hr
  obtain ⟨p, _, hp⟩ := hs.exists_projection hc
  unfold deriveCaseProjection at hp
  rw [hct, hci] at hp
  obtain ⟨revision, receipt, hrev, hrec, hrecords, hproj, _⟩ := deriveFromRecords_eq_ok.mp hp
  rw [(hs.numbered r.tenantId r.caseId).sorted] at hrecords hproj
  have hreceipt : receipt = r := by
    have hmem : r ∈ s.receiptsOf r.tenantId r.caseId :=
      List.mem_filter.mpr ⟨hr, decide_eq_true ⟨rfl, rfl⟩⟩
    rw [hrec] at hmem
    exact (List.mem_singleton.mp hmem).symm
  subst hreceipt
  constructor
  · refine Table.filter_eq_singleton ((hd.distinct.nodup fun a => decide_eq_true ⟨rfl, rfl⟩).filter _) hr
      (decide_eq_true ⟨rfl, rfl⟩) ?_
    intro x hx hkey
    have hfound := (receipt?_eq_some_iff hd).mpr ⟨hx, of_decide_eq_true hkey⟩
    have hself := (receipt?_eq_some_iff hd).mpr ⟨hr, rfl, rfl⟩
    exact Option.some.inj (hfound.symm.trans hself)
  · have hkey : c.deliveryKey = receipt.deliveryKey := by
      have hid := (hd.caseKey c hc).symm.trans (hci.trans (hd.determined receipt hr).caseId)
      exact (CaseMaterial.mk.inj (stableIdentifier_inj.mp hid)).2
    refine ⟨c, hci, hct, Table.filter_eq_singleton
      ((hs.distinct.nodup fun a => decide_eq_true ⟨rfl, rfl⟩).filter _) hc (decide_eq_true hkey) ?_⟩
    intro x hx hxkey
    have hsame : x.deliveryKey = c.deliveryKey := (of_decide_eq_true hxkey).trans hkey.symm
    have htenant : x.tenantId = c.tenantId := congrArg DeliveryKey.tenantId hsame
    refine hs.case_unique hx hc htenant ?_
    rw [hd.caseKey x hx, hd.caseKey c hc, hsame, htenant]
  · exact hrec
  · refine ⟨revision, hrecords.receiptRevision.symm, ?_⟩
    have hperm := List.perm_insertionSort (fun a b : CaseRevision => a.revision ≤ b.revision)
      (s.revisionsOf receipt.tenantId receipt.caseId)
    rw [hrev] at hperm
    exact List.perm_singleton.mp hperm.symm
  · rw [hrecords.receiptEvents, ← hrecords.initial, List.zip_map']
  · obtain ⟨_, _, _, hfold, _⟩ := projectionFromRecords_eq_ok.mp hproj
    exact foldlM_replayEvent_type hfold

/-! ## An envelope that comes again, or out of order -/

/-- A key that has a receipt is answered from it, or refused. -/
theorem intakeValidated_of_receipt {s : LedgerStore} {tenantId : String} {p : IntakePayload}
    {r : InboundReceipt} (now : Instant)
    (hr : s.receipt? tenantId (deliveryKeyOf tenantId p) = some r) :
    s.intakeValidated now p tenantId =
      if r.fingerprint = fingerprintOf tenantId p then
        .ok (⟨true, r.caseId, r.caseRevisionId, r.eventIds⟩, s)
      else .error .inboundEventConflict := by
  unfold intakeValidated
  rw [hr]
  by_cases h : r.fingerprint = fingerprintOf tenantId p <;>
    simp [h, require, bind, Except.bind, pure, Except.pure]

theorem call_of_receipt {s : LedgerStore} {tenantId : String} {x : Envelope} {r : InboundReceipt}
    (now : Instant) (hr : s.receipt? tenantId (x.key tenantId) = some r) :
    s.call (x.call now tenantId) = s := by
  rw [x.call_eq]
  rcases committed_cases (s := s) (r := x.deliver now tenantId s) with h | ⟨a, h⟩
  · exact h
  · have hok := (Envelope.deliver_eq_ok.mp h).2
    rw [intakeValidated_of_receipt now hr] at hok
    split at hok
    · exact (Prod.mk.inj (Except.ok.inj hok)).2.symm
    · exact nomatch hok

/-- The result of an accepted delivery is what its receipt records. -/
theorem Accepted.result {now : Instant} {p : IntakePayload} {tenantId : String} {s s' : LedgerStore}
    {a : IntakeResult} (h : s.intakeValidated now p tenantId = .ok (a, s')) (hs : s.Delivery) :
    ∃ r ∈ s'.inboundReceipts, r.tenantId = tenantId ∧ r.deliveryKey = deliveryKeyOf tenantId p ∧
      r.fingerprint = fingerprintOf tenantId p ∧ a.caseId = r.caseId ∧
      a.caseRevisionId = r.caseRevisionId ∧ a.eventIds = r.eventIds := by
  cases hfound : s.receipt? tenantId (deliveryKeyOf tenantId p) with
  | some r =>
      rw [intakeValidated_of_receipt now hfound] at h
      split at h
      next hfp =>
        obtain ⟨rfl, rfl⟩ := Prod.mk.inj (Except.ok.inj h)
        obtain ⟨hr, ht, hk⟩ := (receipt?_eq_some_iff hs).mp hfound
        exact ⟨r, hr, ht, hk, hfp, rfl, rfl, rfl⟩
      next => exact nomatch h
  | none =>
      unfold intakeValidated at h
      rw [hfound] at h
      simp only [require_bind_eq_ok, List.all_eq_true] at h
      obtain ⟨_, _, _, _, h⟩ := h
      simp only [bind_eq_ok, fetch_eq_ok, Table.insert?_eq_some, pure, Except.pure, Except.ok.injEq,
        Prod.mk.injEq] at h
      obtain ⟨_, _, _, _, _, _, _, ⟨_, rfl⟩, _, _, _, _, rfl, rfl⟩ := h
      exact ⟨newReceipt now p tenantId, by simp, rfl, rfl, rfl, rfl, rfl, rfl⟩

/-- An envelope of the synthetic channel that is not the next of its conversation changes nothing. -/
theorem call_of_gap {s : LedgerStore} {tenantId : String} {e : InboundMessageEvent} (now : Instant)
    (hgap : e.conversationSequence ≠
      (s.cursor? ⟨tenantId, .syntheticIm, e.conversationId⟩).elim 0 (·.lastSequence) + 1) :
    s.call (.intake now e tenantId) = s := by
  rw [show LedgerCall.intake now e tenantId = (Envelope.synthetic e).call now tenantId from rfl,
    Envelope.call_eq]
  rcases committed_cases (s := s) (r := (Envelope.synthetic e).deliver now tenantId s) with h | ⟨a, h⟩
  · exact h
  · rcases intakeValidated_cases (Envelope.deliver_eq_ok.mp h).2 with h' | hacc
    · exact h'
    · have hnext := hacc.sequence
      refine absurd ?_ hgap
      cases hcur : s.cursor? ⟨tenantId, .syntheticIm, e.conversationId⟩ with
      | none =>
          simp only [Envelope.payload, validSequence, hcur] at hnext
          exact of_decide_eq_true hnext
      | some c =>
          simp only [Envelope.payload, validSequence, hcur] at hnext
          exact of_decide_eq_true hnext

/-! ## Runs -/

theorem run_append_one (calls : List LedgerCall) (c : LedgerCall) :
    run (calls ++ [c]) = (run calls).call c := by
  rw [run, run, List.foldl_append]
  rfl

theorem delivery_run (calls : List LedgerCall) : (run calls).Delivery := by
  induction calls using List.reverseRecOn with
  | nil => exact delivery_empty
  | append_singleton calls c ih =>
      rw [run_append_one]
      exact ih.call (run_inv calls) c

theorem receipts_run_grow (calls later : List LedgerCall) :
    (run calls).inboundReceipts <+: (run (calls ++ later)).inboundReceipts := by
  induction later using List.reverseRecOn with
  | nil => rw [List.append_nil]
  | append_singleton later c ih =>
      rw [← List.append_assoc, run_append_one]
      exact ih.trans ((run_inv _).receipts_grow c)

/-- The number of deliveries a conversation has accepted. -/
def acceptedCount (s : LedgerStore) (k : CursorKey) : Nat := (sequencesOf s.inboundReceipts k).length

theorem LedgerInv.sequences {s : LedgerStore} (hs : s.LedgerInv) {k : CursorKey}
    (hk : k.channel ≠ .qqSandbox) :
    sequencesOf s.inboundReceipts k = List.range' 1 (s.acceptedCount k) ∧
      (s.cursor? k).elim 0 (·.lastSequence) = s.acceptedCount k := by
  have hchannel : k.channel = .syntheticIm := by
    cases h : k.channel with
    | syntheticIm => rfl
    | qqSandbox => exact absurd h hk
  obtain ⟨hok, hget⟩ := hs.cursors k
  have hrange : sequencesOf s.inboundReceipts k = List.range' 1 (s.acceptedCount k) := by
    unfold SequencesOk at hok
    rw [hchannel] at hok
    exact hok
  refine ⟨hrange, ?_⟩
  rw [cursorDict_get?] at hget
  have htop : ((s.cursor? k).map (·.lastSequence)).getD 0 = s.acceptedCount k := by
    rw [hget, hrange, top_range']
  rw [← htop]
  cases s.cursor? k <;> rfl

/-- **Intake is ordered and happens once.** After any calls, in any order, for any tenants, channels and
    conversations: the sequences of a conversation that is not on QQ are `1, …, n` in the order of
    acceptance, and its cursor is at `n`; each receipt's key owns exactly one case, one revision, one
    receipt and one set of initial events. An envelope that was taken in returns the identifiers it got
    whenever it comes again, and changes no table; neither does one whose key is taken by a different
    envelope, which is refused, nor one that is not the next of its conversation. -/
theorem intake_exactly_once (calls : List LedgerCall) :
    (∀ k, k.channel ≠ .qqSandbox →
      sequencesOf (run calls).inboundReceipts k = List.range' 1 ((run calls).acceptedCount k) ∧
      ((run calls).cursor? k).elim 0 (·.lastSequence) = (run calls).acceptedCount k) ∧
    (∀ r ∈ (run calls).inboundReceipts, (run calls).Owns r) ∧
    (∀ (x : Envelope) (tenantId : String) (first again : Instant) (result : IntakeResult)
      (s' : LedgerStore) (later : List LedgerCall),
      x.deliver first tenantId (run calls) = .ok (result, s') →
      x.deliver again tenantId (run (calls ++ x.call first tenantId :: later)) =
        .ok ({ result with deduplicated := true },
          run (calls ++ x.call first tenantId :: later))) ∧
    (∀ (x : Envelope) (tenantId : String) (now : Instant) (r : InboundReceipt),
      (run calls).receipt? tenantId (x.key tenantId) = some r →
      r.fingerprint ≠ fingerprintOf tenantId x.payload →
      (∀ result, x.deliver now tenantId (run calls) ≠ .ok result) ∧
      (run calls).call (x.call now tenantId) = run calls) ∧
    (∀ (e : InboundMessageEvent) (tenantId : String) (now : Instant),
      e.conversationSequence ≠
        (run calls).acceptedCount ⟨tenantId, .syntheticIm, e.conversationId⟩ + 1 →
      (run calls).call (.intake now e tenantId) = run calls) := by
  have hinv := run_inv calls
  have hdelivery := delivery_run calls
  refine ⟨fun k hk => hinv.sequences hk, fun r hr => hinv.owns hdelivery hr, ?_, ?_, ?_⟩
  · intro x tenantId first again result s' later hfirst
    obtain ⟨hvalid, hok⟩ := Envelope.deliver_eq_ok.mp hfirst
    obtain ⟨r, hr, ht, hk, hfp, hcase, hrevision, hevents⟩ := Accepted.result hok hdelivery
    have hs' : (run calls).call (x.call first tenantId) = s' := by
      rw [x.call_eq, hfirst]
      rfl
    -- the receipt of the first delivery is still stored when the envelope comes again
    have hgrow := receipts_run_grow (calls ++ [x.call first tenantId]) later
    rw [run_append_one, hs', List.append_assoc, List.singleton_append] at hgrow
    have hfound := (receipt?_eq_some_iff (delivery_run _)).mpr ⟨hgrow.subset hr, ht, hk⟩
    refine Envelope.deliver_eq_ok.mpr ⟨hvalid, ?_⟩
    rw [intakeValidated_of_receipt again hfound, if_pos hfp, ← hcase, ← hrevision, ← hevents]
  · intro x tenantId now r hr hfp
    refine ⟨fun result hok => ?_, call_of_receipt now hr⟩
    have hok' := (Envelope.deliver_eq_ok.mp hok).2
    rw [intakeValidated_of_receipt now hr, if_neg hfp] at hok'
    exact nomatch hok'
  · intro e tenantId now hgap
    refine call_of_gap now ?_
    have hchannel : Channel.syntheticIm ≠ .qqSandbox := by decide
    rw [(hinv.sequences hchannel).2]
    exact hgap

end LedgerStore

end WeFlow
