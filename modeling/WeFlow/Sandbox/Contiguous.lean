import WeFlow.Ledger.Agreement
import WeFlow.Sandbox.Gateway

/-!
# `Contiguous` — no gateway event is skipped

The runner asks the gateway to resume after the last sequence number it has *seen*, before it has judged
the frame that carried it, and only the mention branch compares a number with the durable cursor. So a
number that leaves a gap reaches RESUME, or the durable cursor, without the frames before it. As long as
every numbered frame continues the durable cursor of its session (`GatewayRun.inOrder`), nothing is
skipped.

## Contents

* `eval_recordCursor`, `accept_cases` — what the journal and the intake service do.
* `Accounted`, `NothingSkipped` — the property.
* `Synced` — the runner's variables never run ahead of the durable cursor; `Synced.step`.
* `gateway_nothing_skipped`, `gateway_gap_example`.
-/

namespace WeFlow

open Prog Txn SQLiteQQSandboxJournal

variable {r : QQGatewayRunner}

/-! ## Cursor rows -/

theorem eval_recordCursor (text : QQText) (config : QQSandboxConfig) (n : Int) (status : CursorStatus)
    (sessionId : Option String) (w : QQWorld) :
    eval (recordCursor text config n status sessionId) w =
      let current := w.cursor? (config.gatewayKey text)
      let row := cursorRow text config n status sessionId current w.now
      if 0 ≤ lastSequenceOf n status sessionId current ∧ nonEmpty config.tenantId = true then
        (.ok row, w.putCursor row)
      else (.error .contract, w) := by
  simp only [recordCursor, getCursor, eval_bind, eval_observe, eval_check, eval_atomically]
  by_cases hok : 0 ≤ lastSequenceOf n status sessionId (w.cursor? (config.gatewayKey text)) ∧
      nonEmpty config.tenantId = true
  · simp [hok]
  · have hok' : (decide (0 ≤ lastSequenceOf n status sessionId (w.cursor? (config.gatewayKey text))) &&
        nonEmpty config.tenantId) = false := by
      simpa using hok
    simp [hok, hok']

@[simp] theorem cursorRow_key (text : QQText) (config : QQSandboxConfig) (n : Int)
    (status : CursorStatus) (sessionId : Option String) (current : Option QQGatewayCursor)
    (now : Instant) : (cursorRow text config n status sessionId current now).key =
      config.gatewayKey text := rfl

/-- Within the session of the stored cursor a write takes the maximum. -/
theorem lastSequenceOf_same {n : Int} {status : CursorStatus} {session : String}
    {c : QQGatewayCursor} (hs : nonEmpty session = true)
    (hc : c.sessionIdHash = some (sha256 session)) :
    lastSequenceOf n status (some session) (some c) = max n c.lastContiguousSequence := by
  simp [lastSequenceOf, sessionChanged, Option.filter, hs, hc]

theorem sessionHashOf_some {session : String} (hs : nonEmpty session = true)
    (current : Option QQGatewayCursor) :
    sessionHashOf (some session) current = some (sha256 session) := by
  simp [sessionHashOf, Option.filter, hs]

/-- Without a session a write takes the maximum and leaves the session alone. -/
theorem lastSequenceOf_none (n : Int) (status : CursorStatus) (current : Option QQGatewayCursor) :
    lastSequenceOf n status none current = max n (current.elim 0 fun c => c.lastContiguousSequence) := rfl

theorem sessionHashOf_none (current : Option QQGatewayCursor) :
    sessionHashOf none current = current.bind (·.sessionIdHash) := rfl

/-- The first number of another session replaces the cursor. -/
theorem lastSequenceOf_changed {n : Int} {session : String} {c : QQGatewayCursor}
    (hs : nonEmpty session = true) (hc : c.sessionIdHash ≠ some (sha256 session)) :
    lastSequenceOf n .identified (some session) (some c) = n := by
  have hne : some (sha256 session) ≠ c.sessionIdHash := fun h => hc h.symm
  simp [lastSequenceOf, sessionChanged, Option.filter, hs, hne]

/-! ## One acceptance -/

theorem raises_insertEvents (events rows : List BusinessEvent) :
    Raises (fun e => e ≠ .inboundOutOfOrder) (LedgerStore.insertEvents events rows) := by
  refine raises_foldlM fun rows e _ => ?_
  rw [LedgerStore.insertEvent, raises_fetch]
  exact fun _ => by decide

theorem raises_projectionFromRecords (c : CaseRow) (revision : CaseRevision)
    (events : List BusinessEvent) :
    Raises (fun e => e ≠ .inboundOutOfOrder) (projectionFromRecords c revision events false) := by
  simp [projectionFromRecords]

/-- A delivery whose sequence is valid is not rejected as out of order. -/
theorem raises_intakeValidated {s : LedgerStore} {now : Instant} {p : IntakePayload} {tenantId : String}
    (hseq : ∀ cursor, validSequence p.channel cursor p.conversationSequence = true) :
    Raises (fun e => e ≠ .inboundOutOfOrder) (s.intakeValidated now p tenantId) := by
  unfold LedgerStore.intakeValidated
  split
  · simp
  · simp only [raises_bind, raises_require, raises_fetch, raises_pure, hseq]
    refine ⟨fun h => (by cases h), fun _ _ => ⟨fun _ => by decide, fun _ _ => ⟨fun _ => by decide, fun _ _ =>
      ⟨fun _ => by decide, fun _ _ => ⟨fun _ => by decide, fun _ _ => ⟨fun _ => by decide, fun _ _ =>
      ⟨raises_insertEvents _ _, fun _ _ => ⟨fun _ => by decide, fun _ _ =>
      ⟨raises_projectionFromRecords _ _ _, fun _ _ => ⟨fun _ => by decide, fun _ _ => trivial⟩⟩⟩⟩⟩⟩⟩⟩⟩⟩

/-- A QQ event that reaches the ledger is valid, so it is never out of order there. -/
theorem raises_intakeQq (s : LedgerStore) (now : Instant) (inbound : QQSandboxInboundEvent)
    (tenantId : String) :
    Raises (fun e => e ≠ .inboundOutOfOrder) (s.intakeQq now inbound tenantId) := by
  unfold LedgerStore.intakeQq
  simp only [raises_bind, raises_require]
  refine ⟨fun _ => by decide, fun _ hvalid => ⟨fun _ => by decide, fun _ _ => ?_⟩⟩
  rw [require_eq_ok] at hvalid
  obtain ⟨-, hpos⟩ := validateQqSandboxInboundEvent_iff hvalid
  exact raises_intakeValidated fun cursor => by simpa [validSequence] using hpos

/-- The delivery key of a normalized mention. -/
def mentionKey (config : QQSandboxConfig) (inbound : QQSandboxInboundEvent) : DeliveryKey :=
  ⟨config.tenantId, .qqSandbox, .naturalKey inbound.inboundNaturalKey⟩

/-- **What intake leaves**: the mention has a receipt, and where it had one nothing has changed. -/
theorem intakeQq_receipt {s s' : LedgerStore} {now : Instant} {config : QQSandboxConfig}
    {inbound : QQSandboxInboundEvent} {result : IntakeResult}
    (h : s.intakeQq now inbound config.tenantId = .ok (result, s')) :
    (s'.receipt? config.tenantId (mentionKey config inbound)).isSome = true ∧
      ((s.receipt? config.tenantId (mentionKey config inbound)).isSome = true → s' = s) := by
  simp only [LedgerStore.intakeQq, require_bind_eq_ok] at h
  obtain ⟨-, -, h⟩ := h
  cases hrec : s.receipt? config.tenantId (mentionKey config inbound) with
  | some receipt =>
      have hsame := LedgerStore.eq_of_intakeValidated h hrec
      rw [hsame, hrec]
      exact ⟨rfl, fun _ => rfl⟩
  | none =>
      refine ⟨?_, fun hsome => by cases hsome⟩
      have haccepted := LedgerStore.accepted_of_intakeValidated h hrec
      rw [LedgerStore.receipt?, haccepted.inboundReceipts, List.find?_isSome]
      refine ⟨_, List.mem_append_right _ (List.mem_singleton_self _), ?_⟩
      simp [newReceipt, deliveryKeyOf, mentionKey]

/-! ## Programs that leave the cursor alone -/

/-- Neither the cursors nor the ledger nor the clock have changed. -/
structure KeepsCursor (w w' : QQWorld) : Prop where
  cursors : w'.journal.cursors = w.journal.cursors
  ledger : w'.ledger = w.ledger
  now : w'.now = w.now

theorem KeepsCursor.of_reaches {w w' : QQWorld} (h : Relation.ReflTransGen KeepsCursor w w') :
    KeepsCursor w w' := by
  induction h with
  | refl => exact ⟨rfl, rfl, rfl⟩
  | tail _ hlast ih =>
      exact ⟨hlast.cursors.trans ih.cursors, hlast.ledger.trans ih.ledger, hlast.now.trans ih.now⟩

theorem KeepsCursor.cursor? {w w' : QQWorld} (h : KeepsCursor w w') (key : GatewayKey) :
    w'.cursor? key = w.cursor? key := by
  unfold QQWorld.cursor?
  rw [h.cursors]

section Keeps

variable {text : QQText} {config : QQSandboxConfig} {w : QQWorld} {E : QQError → QQWorld → Prop}

theorem safe_createAcknowledgementIntent (inbound : QQSandboxInboundEvent) (intake : IntakeResult) :
    Safe KeepsCursor (fun _ _ => True) (fun e _ => e.requiresReconciliation = false)
      (createAcknowledgementIntent text config inbound intake) w := by
  unfold createAcknowledgementIntent
  refine safe_bind.mpr (safe_check.mpr ⟨fun _ => ?_, fun _ => rfl⟩)
  refine safe_bind.mpr (safe_observe.mpr ?_)
  refine safe_bind.mpr (safe_need.mpr ⟨fun occurred _ => ?_, fun _ => rfl⟩)
  refine safe_bind.mpr (safe_check.mpr ⟨fun _ => ?_, fun _ => rfl⟩)
  refine safe_atomically.mpr ⟨fun e he => ?_, fun a w' hw => ⟨?_, trivial⟩⟩
  · have hraises : Raises (fun e => e.requiresReconciliation = false)
        (SQLiteQQSandboxJournal.insertIntent config (acknowledgementIntent text config inbound intake
          (occurred + passiveReplyWindow) w.now) w) := by
      unfold SQLiteQQSandboxJournal.insertIntent
      split <;> simp [QQError.requiresReconciliation]
    exact hraises e he
  · unfold SQLiteQQSandboxJournal.insertIntent at hw
    split at hw
    · simp only [require_bind_eq_ok, pure, Except.pure, Except.ok.injEq, Prod.mk.injEq] at hw
      exact Or.inl hw.2.2.symm
    · simp only [fetch_bind_eq_ok, pure, Except.pure, Except.ok.injEq, Prod.mk.injEq] at hw
      obtain ⟨_, _, _, _, _, rfl⟩ := hw
      exact Or.inr ⟨rfl, rfl, rfl⟩

theorem safe_insertCompletion (completion : QQAcknowledgementCompletion) :
    Safe KeepsCursor (fun _ _ => True) (fun _ _ => True)
      (Prog.atomically (SQLiteQQSandboxJournal.insertCompletion completion)) w := by
  refine safe_atomically.mpr ⟨fun _ _ => trivial, fun inserted w' hw => ⟨?_, trivial⟩⟩
  unfold SQLiteQQSandboxJournal.insertCompletion at hw
  split at hw
  · obtain ⟨-, rfl⟩ := Prod.mk.injEq .. ▸ Except.ok.inj hw
    exact Or.inr ⟨rfl, rfl, rfl⟩
  · obtain ⟨-, rfl⟩ := Prod.mk.injEq .. ▸ Except.ok.inj hw
    exact Or.inl rfl

theorem safe_complete (i : QQAcknowledgementIntent) (o : QQAcknowledgementObservation) :
    Safe KeepsCursor (fun _ _ => True) (fun _ _ => True) (complete i o) w := by
  unfold complete completions observations
  refine safe_bind.mpr (safe_observe.mpr ?_)
  split
  · trivial
  · refine safe_bind.mpr (safe_observe.mpr (safe_bind.mpr (safe_observe.mpr ?_)))
    refine safe_bind.mpr (safe_check.mpr ⟨fun _ => ?_, fun _ => trivial⟩)
    refine (safe_insertCompletion _).bind fun inserted w' _ => ?_
    split
    · trivial
    · exact safe_bind.mpr (safe_observe.mpr (safe_need.mpr ⟨fun _ _ => trivial, fun _ => trivial⟩))

theorem safe_observeAndMaybeComplete (i : QQAcknowledgementIntent) (outcome : QQSendOutcome) :
    Safe KeepsCursor (fun _ _ => True) (fun _ _ => True)
      (QQAcknowledgementController.observeAndMaybeComplete i outcome) w := by
  have happend : Safe KeepsCursor (fun _ _ => True) (fun _ _ => True)
      (appendObservation i outcome) w := by
    refine safe_atomically.mpr ⟨fun _ _ => trivial, fun a w' hw => ⟨?_, trivial⟩⟩
    simp only [require_bind_eq_ok, fetch_bind_eq_ok, pure, Except.pure, Except.ok.injEq,
      Prod.mk.injEq] at hw
    obtain ⟨-, _, _, -, rfl⟩ := hw
    exact Or.inr ⟨rfl, rfl, rfl⟩
  refine happend.bind fun observation w' _ => ?_
  split
  · exact (safe_complete _ _).bind fun _ _ _ => trivial
  · trivial

theorem safe_callTransport (call : TransportCall) :
    Safe KeepsCursor (fun _ _ => True) (fun _ _ => True) (callTransport call) w :=
  safe_atomically.mpr ⟨fun _ _ => trivial, fun _ w' hw => by
    obtain ⟨-, rfl⟩ := Prod.mk.injEq .. ▸ Except.ok.inj hw
    exact ⟨Or.inr ⟨rfl, rfl, rfl⟩, trivial⟩⟩

theorem safe_reconcileThenSend (active : Bool) (i : QQAcknowledgementIntent) (l : QQReplyLocator)
    (reconciled sent : TransportAnswer) :
    Safe KeepsCursor (fun _ _ => True) (fun _ _ => True)
      (QQAcknowledgementController.reconcileThenSend config active i l reconciled sent) w := by
  refine (safe_callTransport _).bind fun _ w' _ => ?_
  by_cases habsent : reconciled.toOutcome.status = .absent
  · simp only [if_pos habsent]
    exact (safe_callTransport _).bind fun _ _ _ => trivial
  · simp only [if_neg habsent]
    trivial

theorem safe_process (intentId : AckIntentId) (active : Bool) (reconciled sent : TransportAnswer) :
    Safe KeepsCursor (fun _ _ => True) (fun _ _ => True)
      (QQAcknowledgementController.process text config intentId active reconciled sent) w := by
  unfold QQAcknowledgementController.process getIntent getLocator completions
  refine safe_bind.mpr (safe_bind.mpr (safe_observe.mpr (safe_need.mpr ⟨fun i _ => ?_, fun _ => trivial⟩)))
  refine safe_bind.mpr (safe_observe.mpr ?_)
  split
  · trivial
  split
  · exact safe_observeAndMaybeComplete _ _
  refine safe_bind.mpr (safe_observe.mpr ?_)
  split
  · exact safe_observeAndMaybeComplete _ _
  refine safe_bind.mpr (safe_bind.mpr (safe_observe.mpr (safe_need.mpr ⟨fun l _ => ?_, fun _ => trivial⟩)))
  split
  · exact safe_observeAndMaybeComplete _ _
  exact (safe_reconcileThenSend active i l reconciled sent).bind fun _ _ _ =>
    safe_observeAndMaybeComplete _ _

theorem lastSequenceOf_nonneg {n : Int} {status : CursorStatus} {sessionId : Option String}
    {current : Option QQGatewayCursor} (hn : 0 ≤ n) :
    0 ≤ lastSequenceOf n status sessionId current := by
  unfold lastSequenceOf
  split
  · exact hn
  · exact le_trans hn (le_max_left _ _)

/-- Normalization never asks for reconciliation. -/
theorem raises_normalize (received : Instant) (frame : Json) :
    Raises (fun e => e.requiresReconciliation = false)
      (normalizeQqGroupAtEvent text config received frame) := by
  have hparse : ∀ value, Raises (fun e => e.requiresReconciliation = false)
      (parseEventTimestamp text value) := by
    intro value
    unfold parseEventTimestamp
    split <;> simp [QQError.requiresReconciliation, throw, throwThe, MonadExceptOf.throw]
  unfold normalizeQqGroupAtEvent
  simp only [raises_bind, raises_require, raises_fetch]
  refine ⟨fun _ => rfl, fun _ _ => ⟨fun _ => rfl, fun _ _ => ⟨fun _ => rfl, fun _ _ =>
    ⟨fun _ => rfl, fun _ _ => ?_⟩⟩⟩⟩
  split
  · simp only [raises_bind, raises_require, raises_fetch, raises_pure]
    refine ⟨fun _ => rfl, fun _ _ => ⟨fun _ => rfl, fun _ _ => ⟨fun _ => rfl, fun _ _ =>
      ⟨fun _ => rfl, fun _ _ => ⟨fun _ => rfl, fun _ _ => ⟨fun _ => rfl, fun _ _ =>
      ⟨fun _ => rfl, fun _ _ => ⟨fun _ => rfl, fun _ _ => ⟨fun _ => rfl, fun _ _ =>
      ⟨hparse _, fun _ _ => ⟨fun _ => rfl, fun _ _ => ⟨fun _ => rfl, fun _ _ => trivial⟩⟩⟩⟩⟩⟩⟩⟩⟩⟩⟩⟩
  · exact raises_error.mpr rfl

theorem eval_rejectOutOfOrder {inbound : QQSandboxInboundEvent}
    (htenant : inbound.tenantId = config.tenantId) (current : Option QQGatewayCursor) :
    (eval (rejectOutOfOrder config current inbound) w = (.ok (), w) ∧
      ∀ c, current = some c → inbound.gatewaySequence ≤ c.lastContiguousSequence →
        (w.ledger.receipt? config.tenantId (mentionKey config inbound)).isSome = true) ∨
    eval (rejectOutOfOrder config current inbound) w =
        (.error (.eventRejected .gatewaySequenceOutOfOrder), w) ∧
      ∃ c, current = some c ∧ inbound.gatewaySequence ≤ c.lastContiguousSequence := by
  cases current with
  | none => exact Or.inl ⟨rfl, nofun⟩
  | some c =>
      by_cases hle : inbound.gatewaySequence ≤ c.lastContiguousSequence
      · have heval : eval (rejectOutOfOrder config (some c) inbound) w =
            (if (w.ledger.receipt? config.tenantId (mentionKey config inbound)).isSome then .ok ()
              else .error (.eventRejected .gatewaySequenceOutOfOrder), w) := by
          simp only [rejectOutOfOrder, if_pos hle, hasQqReceipt, eval_bind, eval_check, htenant,
            decide_true, if_true, eval_observe, mentionKey]
          rfl
        rw [heval]
        split
        case isTrue h => exact Or.inl ⟨rfl, fun c' hc' _ => h⟩
        case isFalse h => exact Or.inr ⟨rfl, c, rfl, hle⟩
      · refine Or.inl ⟨by simp only [rejectOutOfOrder, if_neg hle, eval_pure], fun c' hc' hle' => ?_⟩
        cases hc'
        exact absurd hle' hle

theorem eval_rejectSequenceGap (current : Option QQGatewayCursor) (sequence : Nat)
    (sessionId : Option String) :
    eval (rejectSequenceGap text config current sequence sessionId) w = (.ok (), w) ∨
      ∃ c, current = some c ∧ c.lastContiguousSequence + 1 < sequence := by
  cases current with
  | none => exact Or.inl rfl
  | some c =>
      by_cases hgt : sequence > c.lastContiguousSequence + 1
      · exact Or.inr ⟨c, rfl, hgt⟩
      · exact Or.inl (by simp only [rejectSequenceGap, if_neg hgt, eval_pure])

theorem eval_intakeQq (inbound : QQSandboxInboundEvent) :
    (∃ e, eval (intakeQq config inbound) w = (.error e, w) ∧ e.requiresReconciliation = false) ∨
      ∃ result ledger', w.ledger.intakeQq w.now inbound config.tenantId = .ok (result, ledger') ∧
        eval (intakeQq config inbound) w = (.ok result, { w with ledger := ledger' }) := by
  rw [intakeQq, eval_atomically]
  cases h : w.ledger.intakeQq w.now inbound config.tenantId with
  | error e =>
      refine Or.inl ⟨.ofLedger e, rfl, ?_⟩
      have hne := raises_intakeQq w.ledger w.now inbound config.tenantId e h
      unfold QQError.ofLedger
      split
      · cases e <;> first | rfl | exact absurd rfl hne
      · rfl
  | ok result => exact Or.inr ⟨result.1, result.2, rfl, rfl⟩

/-- **What `accept` does**: it stops in front of the stores on a mention that it rejects, or whose number
    the cursor has passed; it stops at a gap; or it takes the mention in and moves the cursor to it. -/
theorem accept_cases (frame : Json) (sessionId : Option String) (w : QQWorld) :
    let out := eval (QQSandboxIntakeService.accept text config frame sessionId) w
    let current := w.cursor? (config.gatewayKey text)
    (∃ e, out = (.error e, w) ∧ (e.requiresReconciliation = true → ∃ inbound c,
        normalizeQqGroupAtEvent text config w.now frame = .ok inbound ∧ current = some c ∧
        inbound.gatewaySequence ≤ c.lastContiguousSequence)) ∨
    (∃ inbound c, normalizeQqGroupAtEvent text config w.now frame = .ok inbound ∧
        current = some c ∧ c.lastContiguousSequence + 1 < inbound.gatewaySequence) ∨
    ∃ inbound result ledger', normalizeQqGroupAtEvent text config w.now frame = .ok inbound ∧
      (∀ c, current = some c → inbound.gatewaySequence ≤ c.lastContiguousSequence →
        (w.ledger.receipt? config.tenantId (mentionKey config inbound)).isSome = true) ∧
      w.ledger.intakeQq w.now inbound config.tenantId = .ok (result, ledger') ∧
      out.2.ledger = ledger' ∧ out.2.now = w.now ∧
      out.2.cursor? (config.gatewayKey text) = some
        (cursorRow text config inbound.gatewaySequence .identified sessionId current w.now) ∧
      ∀ e, out.1 = .error e → e.requiresReconciliation = false := by
  intro out current
  have hout : out = eval (QQSandboxIntakeService.accept text config frame sessionId) w := rfl
  simp only [QQSandboxIntakeService.accept, eval_bind, eval_observe, getCursor] at hout
  cases hnorm : normalizeQqGroupAtEvent text config w.now frame with
  | error e =>
      rw [hnorm] at hout
      refine Or.inl ⟨e, hout, fun he => ?_⟩
      rw [raises_normalize w.now frame e hnorm] at he
      cases he
  | ok inbound =>
      rw [hnorm] at hout
      obtain ⟨-, htenant, hvalid⟩ := normalize_sequence hnorm
      obtain ⟨hnonEmpty, -⟩ := validateQqSandboxInboundEvent_iff hvalid
      rw [htenant] at hnonEmpty
      simp only [eval_bind, eval_pure, eval_observe] at hout
      rcases eval_rejectOutOfOrder (w := w) htenant current with ⟨horder, hknown⟩ | ⟨horder, c, hc, hle⟩
      · simp only [current] at horder
        simp only [horder] at hout
        rcases @eval_rejectSequenceGap text config w current inbound.gatewaySequence sessionId with
          hgap | ⟨c, hc, hlt⟩
        · simp only [current] at hgap
          simp only [hgap] at hout
          rcases @eval_intakeQq config w inbound with
            ⟨e, heval, he⟩ | ⟨result, ledger', hintake, heval⟩
          · simp only [heval] at hout
            refine Or.inl ⟨e, hout, fun he' => ?_⟩
            rw [he] at he'
            cases he'
          · -- taken in: the cursor is written, then the intent is created
            have hlast : 0 ≤ lastSequenceOf inbound.gatewaySequence .identified sessionId current ∧
                nonEmpty config.tenantId = true :=
              ⟨lastSequenceOf_nonneg (Int.natCast_nonneg _), hnonEmpty⟩
            let row := cursorRow text config inbound.gatewaySequence .identified sessionId current w.now
            let recorded : QQWorld := QQWorld.putCursor { w with ledger := ledger' } row
            have hrecord : eval (recordCursor text config inbound.gatewaySequence .identified sessionId)
                { w with ledger := ledger' } = (.ok row, recorded) := by
              rw [eval_recordCursor]
              exact if_pos hlast
            simp only [heval, hrecord] at hout
            have hsafe := eval_safe (@safe_createAcknowledgementIntent text config recorded inbound result)
            have hkeeps := KeepsCursor.of_reaches hsafe.1
            have hworld : out.2 = (eval (createAcknowledgementIntent text config inbound result)
                recorded).2 := by
              rw [hout]
              split <;> simp [*]
            refine Or.inr (Or.inr ⟨inbound, result, ledger', rfl, hknown, hintake, ?_, ?_, ?_, ?_⟩)
            · rw [hworld, hkeeps.ledger]
              rfl
            · rw [hworld, hkeeps.now]
              rfl
            · rw [hworld, hkeeps.cursor?]
              exact QQWorld.cursor?_putCursor _ (cursorRow_key ..)
            · intro e he
              refine hsafe.2.2 e ?_
              rw [hout] at he
              split at he
              · cases he
              · simp_all
        · exact Or.inr (Or.inl ⟨inbound, c, rfl, hc, hlt⟩)
      · simp only [current] at horder
        simp only [horder] at hout
        exact Or.inl ⟨_, hout, fun _ => ⟨inbound, c, rfl, hc, hle⟩⟩

end Keeps

/-! ## The property -/

/-- Every number up to the cursor of a session belongs to a frame of it that has been handled. -/
def Accounted (cursor : Option QQGatewayCursor) (history : List GatewayEvent) : Prop :=
  ∀ c session, cursor = some c → c.sessionIdHash = some (sha256 session) →
    ∀ m : Nat, 1 ≤ m → m ≤ c.lastContiguousSequence →
      GatewayEvent.handled (some session) m ∈ history

/-- Every mention was taken in behind all earlier frames of its session. -/
def TakenInOrder (history : List GatewayEvent) : Prop :=
  ∀ before after session n, history = before ++ GatewayEvent.tookIn session n :: after →
    ∀ m : Nat, 1 ≤ m → (m : Int) < n → GatewayEvent.handled session m ∈ before

/-- **Nothing is skipped**: a RESUME never runs ahead of the durable cursor of its session, the durable
    cursor never of the frames handled, a mention never of the frames before it. -/
structure NothingSkipped (cursor : Option QQGatewayCursor) (history : List GatewayEvent) : Prop where
  resumed : ∀ session n durable, GatewayEvent.resumed session n durable ∈ history →
    ∃ c, durable = some c ∧ c.sessionIdHash = some (sha256 session) ∧ n ≤ c.lastContiguousSequence
  accounted : Accounted cursor history
  tookIn : TakenInOrder history

def GatewayRun.cursor (r : QQGatewayRunner) (g : GatewayRun) : Option QQGatewayCursor :=
  g.world.cursor? (r.config.gatewayKey r.text)

/-- How far the durable cursor is in a session. -/
def durableSequence (cursor : Option QQGatewayCursor) (session : String) : Nat :=
  match cursor with
  | some c => if c.sessionIdHash = some (sha256 session) then c.lastContiguousSequence else 0
  | none => 0

namespace GatewayRun

/-- The numbers a dispatched frame may carry in the present session: up to one more than the durable
    cursor; before a session is known, up to the cursor. -/
def dispatchBound (r : QQGatewayRunner) (g : GatewayRun) : Int :=
  match g.sessionId with
  | some session => durableSequence (g.cursor r) session + 1
  | none => (g.cursor r).elim 0 fun c => c.lastContiguousSequence

/-- **A frame continues the durable cursor of its session.** A dispatched frame carries a number at most
    one above it, and READY carries one for the session it announces; a control frame, or a READY that
    announces none, carries no number above it. -/
def inOrder (r : QQGatewayRunner) (g : GatewayRun) (frame : Json) : Bool :=
  let opcode := frame.get? "op"
  let sequence := Json.int? (frame.get? "s")
  let control : Bool := g.sessionId.all fun session =>
    sequence.all fun n : Int => n ≤ durableSequence (g.cursor r) session
  if Json.equalsInt 9 opcode then true
  else if !Json.equalsInt 0 opcode then control
  else if Json.str? (frame.get? "t") = some "READY" then
    match readySession? frame with
    | some session => sequence.any fun n : Int => n ≤ durableSequence (g.cursor r) session + 1
    | none => control
  else sequence.all fun n => n ≤ g.dispatchBound r

def inputInOrder (r : QQGatewayRunner) (g : GatewayRun) : GatewayInput → Bool
  | .frame frame _ => g.phase ≠ .receiving || g.inOrder r frame
  | _ => true

/-- Every frame the runner receives continues the durable cursor. -/
def InOrder (r : QQGatewayRunner) : GatewayRun → List GatewayInput → Bool
  | _, [] => true
  | g, i :: is => g.inputInOrder r i && InOrder r (g.step r i) is

end GatewayRun

/-! ## Histories -/

theorem Accounted.append {cursor : Option QQGatewayCursor} {history : List GatewayEvent}
    (h : Accounted cursor history) (events : List GatewayEvent) :
    Accounted cursor (history ++ events) :=
  fun c session hc hs m hm hle => List.mem_append_left _ (h c session hc hs m hm hle)

theorem TakenInOrder.concat {history : List GatewayEvent} {e : GatewayEvent}
    (h : TakenInOrder history) (he : ∀ session n, e = .tookIn session n →
      ∀ m : Nat, 1 ≤ m → (m : Int) < n → GatewayEvent.handled session m ∈ history) :
    TakenInOrder (history ++ [e]) := by
  intro before after session n heq
  rcases List.eq_nil_or_concat after with rfl | ⟨after, x, rfl⟩
  · obtain ⟨rfl, hlast⟩ := List.append_inj' heq rfl
    exact he session n (List.singleton_inj.mp hlast)
  · have heq' : history ++ [e] = (before ++ .tookIn session n :: after) ++ [x] := by
      simpa using heq
    exact h before after session n (List.append_inj' heq' rfl).1

theorem NothingSkipped.handled {cursor : Option QQGatewayCursor} {history : List GatewayEvent}
    (h : NothingSkipped cursor history) (session : Option String) (n : Int) :
    NothingSkipped cursor (history ++ [.handled session n]) where
  resumed session n durable hmem := by
    rcases List.mem_append.mp hmem with hold | hnew
    · exact h.resumed session n durable hold
    · cases List.mem_singleton.mp hnew
  accounted := h.accounted.append _
  tookIn := h.tookIn.concat nofun

theorem durableSequence_same {c : QQGatewayCursor} {session : String}
    (hc : c.sessionIdHash = some (sha256 session)) :
    durableSequence (some c) session = c.lastContiguousSequence := if_pos hc

theorem durableSequence_changed {c : QQGatewayCursor} {session : String}
    (hc : c.sessionIdHash ≠ some (sha256 session)) : durableSequence (some c) session = 0 := if_neg hc

section Write

variable {current : Option QQGatewayCursor} {history : List GatewayEvent} {text : QQText}
  {config : QQSandboxConfig} {n : Int} {status : CursorStatus} {now : Instant} {session : String}

/-- What a session's cursor holds after a write: the maximum, counted from zero for a new session. -/
theorem cursorRow_last (hs : nonEmpty session = true)
    (hstatus : status = .identified ∨ ∃ c, current = some c ∧ c.sessionIdHash = some (sha256 session)) :
    (cursorRow text config n status (some session) current now).lastContiguousSequence =
      (max n (durableSequence current session)).toNat := by
  show (lastSequenceOf n status (some session) current).toNat = _
  cases current with
  | none => simp [lastSequenceOf, sessionChanged, durableSequence]
  | some c =>
      by_cases hc : c.sessionIdHash = some (sha256 session)
      · rw [lastSequenceOf_same hs hc, durableSequence_same hc]
      · have hidentified : status = .identified := by
          refine hstatus.resolve_right fun ⟨c', heq, hc'⟩ => hc ?_
          rw [Option.some.inj heq]
          exact hc'
        rw [hidentified, lastSequenceOf_changed hs hc, durableSequence_changed hc]
        omega

theorem cursorRow_session (hs : nonEmpty session = true) :
    (cursorRow text config n status (some session) current now).sessionIdHash =
      some (sha256 session) := sessionHashOf_some hs current

/-- **A write in a session** accounts for the frame it records, if that frame continues the cursor. -/
theorem Accounted.write (h : Accounted current history) (hs : nonEmpty session = true)
    (hstatus : status = .identified ∨ ∃ c, current = some c ∧ c.sessionIdHash = some (sha256 session))
    (hn : n ≤ durableSequence current session + 1) :
    Accounted (some (cursorRow text config n status (some session) current now))
      (history ++ [.handled (some session) n]) := by
  intro c session' hc hs' m hm hle
  obtain rfl := Option.some.inj hc
  rw [cursorRow_session hs, Option.some.injEq, sha256_inj] at hs'
  subst hs'
  rw [cursorRow_last hs hstatus] at hle
  by_cases hold : m ≤ durableSequence current session
  · cases hcur : current with
    | none =>
        rw [hcur] at hold
        have : m ≤ 0 := hold
        omega
    | some c =>
        rw [hcur] at hold
        by_cases hc : c.sessionIdHash = some (sha256 session)
        · rw [durableSequence_same hc] at hold
          exact List.mem_append_left _ (h c session hcur hc m hm hold)
        · rw [durableSequence_changed hc] at hold
          omega
  · have hnew : n = (m : Int) := by omega
    rw [hnew]
    exact List.mem_append_right _ (List.mem_singleton_self _)

/-- A write before a session is known leaves the cursor's session and number alone. -/
theorem Accounted.write_none (h : Accounted current history)
    (hn : n ≤ current.elim (0 : Int) fun c => c.lastContiguousSequence) :
    Accounted (some (cursorRow text config n status none current now)) history := by
  intro c session hc hs m hm hle
  obtain rfl := Option.some.inj hc
  cases hcur : current with
  | none =>
      rw [hcur] at hs
      cases hs
  | some c =>
      rw [hcur] at hs hle hn
      have hlast : (cursorRow text config n status none (some c) now).lastContiguousSequence =
          (max n c.lastContiguousSequence).toNat := rfl
      have hn' : n ≤ c.lastContiguousSequence := hn
      rw [hlast] at hle
      exact h c session hcur hs m hm (by omega)

end Write

/-! ## The runner follows the cursor -/

/-- The runner's session is the cursor's, and it has seen no number above the cursor. -/
def Follows (cursor : Option QQGatewayCursor) (session : String) (latest : Option Int) : Prop :=
  ∃ c, cursor = some c ∧ c.sessionIdHash = some (sha256 session) ∧ nonEmpty session = true ∧
    ∀ n, latest = some n → n ≤ c.lastContiguousSequence

namespace GatewayRun

/-- **The invariant of the runner.** -/
structure Synced (r : QQGatewayRunner) (g : GatewayRun) : Prop where
  nothingSkipped : NothingSkipped (g.cursor r) g.history
  follows : ∀ session, g.sessionId = some session → Follows (g.cursor r) session g.latestSequence

theorem Synced.abort {g : GatewayRun} (h : NothingSkipped (g.cursor r) g.history) :
    Synced r g.abort := ⟨h, nofun⟩

/-- A cursor write fails without a trace, or leaves the written row. -/
theorem recordCursor_cases (r : QQGatewayRunner) (g : GatewayRun) (n : Int) (status : CursorStatus) :
    eval (recordCursor r.text r.config n status g.sessionId) g.world = (.error .contract, g.world) ∨
      ∃ world, eval (recordCursor r.text r.config n status g.sessionId) g.world =
          (.ok (cursorRow r.text r.config n status g.sessionId (g.cursor r) g.world.now), world) ∧
        world.cursor? (r.config.gatewayKey r.text) =
          some (cursorRow r.text r.config n status g.sessionId (g.cursor r) g.world.now) := by
  rw [eval_recordCursor]
  by_cases hok : 0 ≤ lastSequenceOf n status g.sessionId (g.world.cursor? (r.config.gatewayKey r.text)) ∧
      nonEmpty r.config.tenantId = true
  · exact Or.inr ⟨_, if_pos hok, QQWorld.cursor?_putCursor _ (cursorRow_key ..)⟩
  · exact Or.inl (if_neg hok)

/-- Rewriting the cursor's own number changes neither its session nor the number. -/
theorem cursorRow_renew {text : QQText} {config : QQSandboxConfig} {status : CursorStatus}
    {now : Instant} {sessionId : Option String} {c : QQGatewayCursor}
    (h : ∀ session, sessionId = some session →
      nonEmpty session = true ∧ c.sessionIdHash = some (sha256 session)) :
    let row := cursorRow text config c.lastContiguousSequence status sessionId (some c) now
    row.sessionIdHash = c.sessionIdHash ∧ row.lastContiguousSequence = c.lastContiguousSequence := by
  cases sessionId with
  | none =>
      refine ⟨rfl, ?_⟩
      show (max (c.lastContiguousSequence : Int) c.lastContiguousSequence).toNat = _
      omega
  | some session =>
      obtain ⟨hs, hc⟩ := h session rfl
      refine ⟨(cursorRow_session hs).trans hc.symm, ?_⟩
      rw [cursorRow_last hs (Or.inr ⟨c, rfl, hc⟩), durableSequence_same hc]
      omega

theorem NothingSkipped.renew {c c' : QQGatewayCursor} {history : List GatewayEvent}
    (h : NothingSkipped (some c) history) (hs : c'.sessionIdHash = c.sessionIdHash)
    (hl : c'.lastContiguousSequence = c.lastContiguousSequence) :
    NothingSkipped (some c') history where
  resumed := h.resumed
  accounted c₀ session hc₀ hsession m hm hle := by
    obtain rfl := Option.some.inj hc₀
    exact h.accounted c session rfl (hs ▸ hsession) m hm (hl ▸ hle)
  tookIn := h.tookIn

theorem Follows.renew {c c' : QQGatewayCursor} {session : String} {latest : Option Int}
    (h : Follows (some c) session latest) (hs : c'.sessionIdHash = c.sessionIdHash)
    (hl : c'.lastContiguousSequence = c.lastContiguousSequence) :
    Follows (some c') session latest := by
  obtain ⟨c₀, hc₀, hsession, hne, hlatest⟩ := h
  obtain rfl := Option.some.inj hc₀
  exact ⟨c', rfl, hs.trans hsession, hne, fun n hn => hl ▸ hlatest n hn⟩

/-- **Reconnecting** rewrites the cursor with its own number. -/
theorem Synced.reconnect {g : GatewayRun} (h : Synced r g) : Synced r (g.reconnect r) := by
  unfold GatewayRun.reconnect
  cases hcur : g.world.cursor? (r.config.gatewayKey r.text) with
  | none => exact ⟨h.nothingSkipped, h.follows⟩
  | some c =>
      have hcur' : g.cursor r = some c := hcur
      rcases recordCursor_cases r g c.lastContiguousSequence .disconnected with
        heval | ⟨world, heval, hworld⟩
      · simp only [heval]
        exact Synced.abort h.nothingSkipped
      · simp only [heval]
        rw [hcur'] at hworld
        have hown : ∀ session, g.sessionId = some session →
            nonEmpty session = true ∧ c.sessionIdHash = some (sha256 session) := by
          intro session hsession
          obtain ⟨c₀, hc₀, hs, hne, -⟩ := h.follows session hsession
          rw [hcur', Option.some.injEq] at hc₀
          exact ⟨hne, hc₀ ▸ hs⟩
        obtain ⟨hs, hl⟩ := @cursorRow_renew r.text r.config .disconnected g.world.now g.sessionId c hown
        refine ⟨?_, fun session hsession => ?_⟩
        · show NothingSkipped (world.cursor? (r.config.gatewayKey r.text)) g.history
          rw [hworld]
          exact NothingSkipped.renew (hcur' ▸ h.nothingSkipped) hs hl
        · show Follows (world.cursor? (r.config.gatewayKey r.text)) session g.latestSequence
          rw [hworld]
          exact Follows.renew (hcur' ▸ h.follows session hsession) hs hl

/-! ## Recording a frame -/

/-- A frame that continues the session's cursor: the session may be the cursor's or, when the frame is
    recorded as identified, a new one. -/
structure Continuing (r : QQGatewayRunner) (g : GatewayRun) (session : String) (n : Int)
    (status : CursorStatus) : Prop where
  nonEmpty : nonEmpty session = true
  status : status = .identified ∨
    ∃ c, g.cursor r = some c ∧ c.sessionIdHash = some (sha256 session)
  bound : n ≤ durableSequence (g.cursor r) session + 1

/-- **Recording a numbered frame** brings the cursor up to what the runner has seen. -/
theorem Synced.recordNumbered {g : GatewayRun} {n : Int} {status : CursorStatus}
    (h : NothingSkipped (g.cursor r) g.history) (hlatest : g.latestSequence = some n)
    (hsome : ∀ session, g.sessionId = some session → Continuing r g session n status)
    (hnone : g.sessionId = none → n ≤ (g.cursor r).elim (0 : Int) fun c => c.lastContiguousSequence) :
    Synced r (g.recordNumbered r (some n) status) := by
  unfold GatewayRun.recordNumbered
  rcases recordCursor_cases r g n status with heval | ⟨world, heval, hworld⟩
  · simp only [heval]
    exact Synced.abort h
  · simp only [heval]
    cases hsession : g.sessionId with
    | none =>
        rw [hsession] at hworld
        refine ⟨?_, fun session hs => nomatch hs⟩
        refine NothingSkipped.handled ⟨h.resumed, ?_, h.tookIn⟩ none n
        show Accounted (world.cursor? (r.config.gatewayKey r.text)) g.history
        rw [hworld]
        exact h.accounted.write_none (hnone hsession)
    | some session =>
        obtain ⟨hne, hstatus, hbound⟩ := hsome session hsession
        rw [hsession] at hworld
        refine ⟨⟨(h.handled (some session) n).resumed, ?_, (h.handled (some session) n).tookIn⟩,
          fun session' hs' => ?_⟩
        · show Accounted (world.cursor? (r.config.gatewayKey r.text)) _
          rw [hworld]
          exact h.accounted.write hne hstatus hbound
        · obtain rfl : session = session' := Option.some.inj hs'
          refine ⟨_, hworld, cursorRow_session hne, hne, fun n' hn' => ?_⟩
          obtain rfl : n = n' := Option.some.inj (hlatest.symm.trans hn')
          rw [cursorRow_last hne hstatus]
          omega

/-- A frame with this number has been received, and it continues the cursor of the present session. -/
structure Judged (r : QQGatewayRunner) (g : GatewayRun) (sequence : Option Int) : Prop where
  nothingSkipped : NothingSkipped (g.cursor r) g.history
  latest : ∀ n, sequence = some n → g.latestSequence = some n
  unnumbered : sequence = none →
    ∀ session, g.sessionId = some session → Follows (g.cursor r) session g.latestSequence
  session : ∀ session n, g.sessionId = some session → sequence = some n →
    nonEmpty session = true ∧ (∃ c, g.cursor r = some c ∧ c.sessionIdHash = some (sha256 session)) ∧
      n ≤ durableSequence (g.cursor r) session + 1
  before : ∀ n, g.sessionId = none → sequence = some n →
    n ≤ (g.cursor r).elim (0 : Int) fun c => c.lastContiguousSequence

theorem Judged.recordNumbered {g : GatewayRun} {sequence : Option Int} (h : Judged r g sequence)
    (status : CursorStatus) : Synced r (g.recordNumbered r sequence status) := by
  cases hseq : sequence with
  | none => exact ⟨h.nothingSkipped, h.unnumbered hseq⟩
  | some n =>
      refine Synced.recordNumbered h.nothingSkipped (h.latest n hseq) (fun session hs => ?_)
        fun hs => h.before n hs hseq
      obtain ⟨hne, hcur, hbound⟩ := h.session session n hs hseq
      exact ⟨hne, Or.inr hcur, hbound⟩

theorem Judged.rejected {g : GatewayRun} {sequence : Option Int} (h : Judged r g sequence) (k : Nat) :
    Judged r { g with rejectedEvents := k } sequence :=
  ⟨h.nothingSkipped, h.latest, h.unnumbered, h.session, h.before⟩

/-- A history that only gained handled frames. -/
theorem Judged.handled {g : GatewayRun} {sequence : Option Int} (h : Judged r g sequence)
    {events : List GatewayEvent}
    (hevents : events = [] ∨ ∃ session n, events = [.handled session n]) :
    Judged r { g with history := g.history ++ events } sequence := by
  refine ⟨?_, h.latest, h.unnumbered, h.session, h.before⟩
  rcases hevents with rfl | ⟨session, n, rfl⟩
  · rw [List.append_nil]
    exact h.nothingSkipped
  · exact h.nothingSkipped.handled session n

theorem hasReceipt_eq {frame : Json} {world : QQWorld} {inbound : QQSandboxInboundEvent}
    (h : normalizeQqGroupAtEvent r.text r.config world.now frame = .ok inbound) :
    hasReceipt r frame world =
      (world.ledger.receipt? r.config.tenantId (mentionKey r.config inbound)).isSome := by
  unfold hasReceipt
  rw [h]
  rfl

theorem mentionEvents_same {frame : Json} {sequence : Option Int} {sessionId : Option String}
    {world : QQWorld} :
    mentionEvents r frame sequence sessionId world world = [] ∨
      ∃ session n, mentionEvents r frame sequence sessionId world world = [.handled session n] := by
  cases sequence with
  | none => exact Or.inl rfl
  | some n =>
      cases h : hasReceipt r frame world with
      | false => exact Or.inl (by simp [mentionEvents, h])
      | true => exact Or.inr ⟨sessionId, n, by simp [mentionEvents, h]⟩

/-- A mention without a receipt, whose number the cursor has not passed, comes behind all earlier frames
    of its session. -/
theorem Judged.tookIn {g : GatewayRun} {n : Nat} (h : Judged r g (some (n : Int))) (hpos : 1 ≤ n)
    (hnew : ∀ c, g.cursor r = some c → ¬n ≤ c.lastContiguousSequence) :
    NothingSkipped (g.cursor r) (g.history ++ [.tookIn g.sessionId n]) where
  resumed session k durable hmem := by
    rcases List.mem_append.mp hmem with hold | hlast
    · exact h.nothingSkipped.resumed session k durable hold
    · cases List.mem_singleton.mp hlast
  accounted := h.nothingSkipped.accounted.append _
  tookIn := by
    refine h.nothingSkipped.tookIn.concat fun session k heq m hm hlt => ?_
    obtain ⟨rfl, rfl⟩ := GatewayEvent.tookIn.injEq .. ▸ heq
    cases hsession : g.sessionId with
    | none =>
        have hle := h.before n hsession rfl
        cases hcur : g.cursor r with
        | none =>
            rw [hcur] at hle
            have hzero : (n : Int) ≤ 0 := hle
            omega
        | some c =>
            rw [hcur] at hle
            have hle' : (n : Int) ≤ c.lastContiguousSequence := hle
            exact absurd (by omega) (hnew c hcur)
    | some session =>
        obtain ⟨-, ⟨c, hc, hs⟩, hle⟩ := h.session session n hsession rfl
        rw [hc, durableSequence_same hs] at hle
        have hgt := hnew c hc
        exact h.nothingSkipped.accounted c session hc hs m hm (by omega)

/-- A frame whose row has been written as identified. -/
theorem Judged.recorded {g g' : GatewayRun} {n : Int} {now : Instant} {took : List GatewayEvent}
    (h : Judged r g (some n)) (htook : NothingSkipped (g.cursor r) (g.history ++ took))
    (hcursor : g'.cursor r =
      some (cursorRow r.text r.config n .identified g.sessionId (g.cursor r) now))
    (hhistory : g'.history = g.history ++ took ++ [.handled g.sessionId n])
    (hsession : g'.sessionId = g.sessionId) (hlatest : g'.latestSequence = g.latestSequence) :
    Judged r g' (some n) ∧ Synced r g' := by
  have hlatest' : g'.latestSequence = some n := hlatest.trans (h.latest n rfl)
  cases hs : g.sessionId with
  | none =>
      rw [hs] at hcursor hhistory hsession
      have hbefore := h.before n hs rfl
      have hskip : NothingSkipped (g'.cursor r) g'.history := by
        rw [hcursor, hhistory]
        exact NothingSkipped.handled ⟨htook.resumed, htook.accounted.write_none hbefore, htook.tookIn⟩ _ _
      refine ⟨⟨hskip, fun _ hn => hn ▸ hlatest', nofun, fun session k hsome _ => ?_, fun k _ hk => ?_⟩,
        hskip, fun session hsome => ?_⟩
      · rw [hsession] at hsome
        cases hsome
      · obtain rfl := Option.some.inj hk
        rw [hcursor]
        show n ≤ ((max n ((g.cursor r).elim 0 fun c => (c.lastContiguousSequence : Int))).toNat : Int)
        omega
      · rw [hsession] at hsome
        cases hsome
  | some session =>
      rw [hs] at hcursor hhistory hsession
      obtain ⟨hne, -, hbound⟩ := h.session session n hs rfl
      have hstatus : CursorStatus.identified = .identified ∨
          ∃ c, g.cursor r = some c ∧ c.sessionIdHash = some (sha256 session) := Or.inl rfl
      have hskip : NothingSkipped (g'.cursor r) g'.history := by
        rw [hcursor, hhistory]
        exact ⟨(htook.handled _ _).resumed, htook.accounted.write hne hstatus hbound,
          (htook.handled _ _).tookIn⟩
      have hrow : (cursorRow r.text r.config n .identified (some session) (g.cursor r)
          now).lastContiguousSequence = (max n (durableSequence (g.cursor r) session)).toNat :=
        cursorRow_last hne hstatus
      have hhash : (cursorRow r.text r.config n .identified (some session) (g.cursor r)
          now).sessionIdHash = some (sha256 session) := cursorRow_session hne
      have hfollows : ∀ session', g'.sessionId = some session' →
          Follows (g'.cursor r) session' g'.latestSequence := by
        intro session' hsome
        rw [hsession] at hsome
        obtain rfl := Option.some.inj hsome
        refine ⟨_, hcursor, hhash, hne, fun k hk => ?_⟩
        obtain rfl := Option.some.inj (hlatest'.symm.trans hk)
        omega
      refine ⟨⟨hskip, fun _ hn => hn ▸ hlatest', nofun, fun session' k hsome hk => ?_,
        fun k hnone _ => ?_⟩, hskip, hfollows⟩
      · rw [hsession] at hsome
        obtain rfl := Option.some.inj hsome
        obtain rfl := Option.some.inj hk
        refine ⟨hne, ⟨_, hcursor, hhash⟩, ?_⟩
        rw [hcursor, durableSequence_same hhash]
        omega
      · rw [hsession] at hnone
        cases hnone

/-- **Accepting a mention** that continues the cursor. If it is accepted, or rejected because the cursor
    has passed its number, the cursor is not behind what the runner has seen. -/
theorem Judged.acceptFrame {g : GatewayRun} {frame : Json}
    (h : Judged r g (Json.int? (frame.get? "s"))) :
    let out := g.acceptFrame r frame
    Judged r out.2 (Json.int? (frame.get? "s")) ∧
      ((∃ a, out.1 = .ok a) ∨ (∃ e, out.1 = .error e ∧ e.requiresReconciliation = true) →
        Synced r out.2) := by
  intro out
  have hout : out = g.acceptFrame r frame := rfl
  unfold GatewayRun.acceptFrame at hout
  rcases @accept_cases r.text r.config frame g.sessionId g.world with
    ⟨e, heval, hreconcile⟩ | ⟨inbound, c, hnorm, hc, hgap⟩ | haccepted
  · -- nothing is stored
    simp only [heval] at hout
    have hevents : ∃ events, (events = [] ∨ ∃ session n, events = [GatewayEvent.handled session n]) ∧
        out = (.error e, { g with history := g.history ++ events }) := by
      by_cases hrec : e.requiresReconciliation = true
      · exact ⟨[], Or.inl rfl, by rw [hout]; simp only [hrec, if_true]⟩
      · exact ⟨_, mentionEvents_same, by rw [hout]; simp only [hrec]; rfl⟩
    obtain ⟨events, hkind, hout'⟩ := hevents
    rw [hout']
    have hjudged := h.handled hkind
    refine ⟨hjudged, fun hsettled => ⟨hjudged.nothingSkipped, fun session hs => ?_⟩⟩
    obtain ⟨a, ha⟩ | ⟨e', he', hrec⟩ := hsettled
    · cases ha
    obtain rfl := Except.error.inj he'
    obtain ⟨inbound, c, hnorm, hc, hle⟩ := hreconcile hrec
    have hseq := (normalize_sequence hnorm).1
    obtain ⟨hne, ⟨c', hc', hsession⟩, -⟩ := h.session session _ hs hseq
    obtain rfl : c = c' := Option.some.inj (hc.symm.trans hc')
    refine ⟨c, hc, hsession, hne, fun n hn => ?_⟩
    obtain rfl : (inbound.gatewaySequence : Int) = n :=
      Option.some.inj ((h.latest _ hseq).symm.trans hn)
    omega
  · -- a gap does not continue the cursor
    exfalso
    have hseq := (normalize_sequence hnorm).1
    cases hsession : g.sessionId with
    | none =>
        have hle := h.before _ hsession hseq
        rw [GatewayRun.cursor, hc] at hle
        have hle' : (inbound.gatewaySequence : Int) ≤ c.lastContiguousSequence := hle
        omega
    | some session =>
        obtain ⟨-, ⟨c', hc', hs⟩, hle⟩ := h.session session _ hsession hseq
        rw [GatewayRun.cursor, hc, Option.some.injEq] at hc'
        subst hc'
        rw [GatewayRun.cursor, hc, durableSequence_same hs] at hle
        omega
  · obtain ⟨inbound, result, ledger', hnorm, hknown, hintake, hledger, hnow, hcursor, herror⟩ :=
      haccepted
    obtain ⟨hseq, -, hvalid⟩ := normalize_sequence hnorm
    obtain ⟨-, hpos⟩ := validateQqSandboxInboundEvent_iff hvalid
    obtain ⟨hreceipt, hdedup⟩ := intakeQq_receipt hintake
    -- the frame has a receipt now, and had one before if its number had been passed
    cases hev : eval (QQSandboxIntakeService.accept r.text r.config frame g.sessionId) g.world with
    | mk result' world =>
      rw [hev] at hledger hnow hcursor herror
      have hold := hasReceipt_eq hnorm
      have hnew : hasReceipt r frame world = true := by
        rw [hasReceipt_eq (hnow ▸ hnorm), hledger]
        exact hreceipt
      let took : List GatewayEvent :=
        if hasReceipt r frame g.world then [] else [.tookIn g.sessionId inbound.gatewaySequence]
      have hevents : mentionEvents r frame (some (inbound.gatewaySequence : Int)) g.sessionId g.world
          world = took ++ [.handled g.sessionId inbound.gatewaySequence] := by
        cases hbefore : hasReceipt r frame g.world <;> simp [mentionEvents, took, hnew, hbefore]
      rw [hseq] at h hout ⊢
      simp only [hev, hevents] at hout
      have hout' : out = (result', { g with world, history := g.history ++
          (took ++ [.handled g.sessionId inbound.gatewaySequence]) }) := by
        rw [hout]
        cases result' with
        | ok a => rfl
        | error e => simp only [herror e rfl]; rfl
      have htook : NothingSkipped (g.cursor r) (g.history ++ took) := by
        cases hbefore : hasReceipt r frame g.world with
        | true =>
            have hnil : took = [] := by simp [took, hbefore]
            rw [hnil, List.append_nil]
            exact h.nothingSkipped
        | false =>
            have hone : took = [.tookIn g.sessionId inbound.gatewaySequence] := by simp [took, hbefore]
            rw [hone]
            refine h.tookIn hpos fun c hc hle => ?_
            rw [hold, hknown c hc hle] at hbefore
            cases hbefore
      have hboth : Judged r out.2 (some (inbound.gatewaySequence : Int)) ∧ Synced r out.2 := by
        refine @Judged.recorded r g out.2 _ g.world.now took h htook ?_ ?_ ?_ ?_ <;> rw [hout']
        · exact hcursor
        · rw [List.append_assoc]
      exact ⟨hboth.1, fun _ => hboth.2⟩

/-! ## One input -/

/-- Acknowledging leaves the cursor, the history and the variables alone. -/
theorem acknowledge_cursor (g : GatewayRun) (intent : QQAcknowledgementIntent)
    (answers : ProcessAnswers) : (g.acknowledge r intent answers).cursor r = g.cursor r :=
  (KeepsCursor.of_reaches (eval_safe (safe_process _ _ _ _)).1).cursor? _

theorem Judged.acknowledge {g : GatewayRun} {sequence : Option Int} (h : Judged r g sequence)
    (intent : QQAcknowledgementIntent) (answers : ProcessAnswers) :
    Judged r (g.acknowledge r intent answers) sequence := by
  have hcursor := acknowledge_cursor (r := r) g intent answers
  obtain ⟨hskip, hlatest, hun, hsession, hbefore⟩ := h
  exact ⟨hcursor.symm ▸ hskip, hlatest, hcursor.symm ▸ hun, hcursor.symm ▸ hsession,
    hcursor.symm ▸ hbefore⟩

theorem Judged.afterAccept {g : GatewayRun} {frame : Json}
    (h : Judged r g (Json.int? (frame.get? "s"))) (hsynced : Synced r g)
    (accepted : QQIntakeAndIntentResult) (answers : AcceptedAnswers) :
    Synced r (g.afterAccept r frame accepted answers) := by
  have hfirst := h.acknowledge accepted.intent answers.first
  unfold GatewayRun.afterAccept
  cases answers.refresh with
  | failed => exact Synced.abort h.nothingSkipped
  | transportError => exact hsynced.reconnect
  | notDue | loaded =>
    by_cases hverify : r.verifyEventDedup = true
    · have hreplay := hfirst.acceptFrame.1
      simp only [hverify, if_true]
      split
      case h_1 replayed g' heq =>
        rw [heq] at hreplay
        exact Synced.abort (hreplay.acknowledge replayed.intent answers.replay).nothingSkipped
      case h_2 e g' heq =>
        rw [heq] at hreplay
        exact Synced.abort hreplay.nothingSkipped
    · simp only [hverify]
      exact Synced.abort hfirst.nothingSkipped

theorem Judged.receiveMention {g : GatewayRun} {frame : Json}
    (h : Judged r g (Json.int? (frame.get? "s"))) (answers : AcceptedAnswers) :
    Synced r (g.receiveMention r frame answers) := by
  obtain ⟨hjudged, hsettled⟩ := h.acceptFrame
  unfold GatewayRun.receiveMention
  split
  case h_1 accepted g' heq =>
    rw [heq] at hjudged hsettled
    exact hjudged.afterAccept (hsettled (Or.inl ⟨_, rfl⟩)) accepted answers
  case h_2 e g' heq =>
    rw [heq] at hjudged hsettled
    by_cases hrec : e.requiresReconciliation = true
    · rw [if_pos hrec]
      exact (hsettled (Or.inr ⟨e, rfl, hrec⟩)).reconnect
    · rw [if_neg hrec]
      cases e with
      | eventRejected reason => exact (hjudged.rejected _).recordNumbered _
      | intakeRejected reason => exact (hjudged.rejected _).recordNumbered _
      | ledger reason => exact Synced.abort hjudged.nothingSkipped
      | journal reason => exact Synced.abort hjudged.nothingSkipped
      | contract => exact Synced.abort hjudged.nothingSkipped
      | transport => exact Synced.abort hjudged.nothingSkipped

/-- The runner after it has looked at a frame's number. -/
def saw (sequence : Option Int) (g : GatewayRun) : GatewayRun :=
  { g with latestSequence := sequence.or g.latestSequence }

/-- A number that is not above the cursor may be forgotten. -/
theorem Synced.saw {g : GatewayRun} (h : Synced r g) {sequence : Option Int}
    (hle : ∀ session n, g.sessionId = some session → sequence = some n →
      n ≤ durableSequence (g.cursor r) session) : Synced r (g.saw sequence) := by
  refine ⟨h.nothingSkipped, fun session hs => ?_⟩
  obtain ⟨c, hc, hsession, hne, hlatest⟩ := h.follows session hs
  refine ⟨c, hc, hsession, hne, fun n hn => ?_⟩
  cases hseq : sequence with
  | none =>
      refine hlatest n ?_
      simpa [GatewayRun.saw, hseq] using hn
  | some k =>
      have hk : k = n := by simpa [GatewayRun.saw, hseq] using hn
      have hbound := hle session k hs hseq
      rw [hc, durableSequence_same hsession] at hbound
      omega

/-- A dispatched frame within its bound continues the cursor. -/
theorem Synced.judged {g : GatewayRun} (h : Synced r g) {sequence : Option Int}
    (hle : ∀ n, sequence = some n → n ≤ g.dispatchBound r) : Judged r (g.saw sequence) sequence where
  nothingSkipped := h.nothingSkipped
  latest n hn := by simp [GatewayRun.saw, hn]
  unnumbered hnone session hs := by
    have hsame : (g.saw sequence).latestSequence = g.latestSequence := by simp [GatewayRun.saw, hnone]
    rw [hsame]
    exact h.follows session hs
  session session n hs hn := by
    obtain ⟨c, hc, hsession, hne, -⟩ := h.follows session hs
    refine ⟨hne, ⟨c, hc, hsession⟩, ?_⟩
    have hbound := hle n hn
    have hs' : g.sessionId = some session := hs
    simp only [GatewayRun.dispatchBound, hs'] at hbound
    exact hbound
  before n hs hn := by
    have hbound := hle n hn
    have hs' : g.sessionId = none := hs
    simp only [GatewayRun.dispatchBound, hs'] at hbound
    exact hbound

/-- READY of a session whose cursor it continues. -/
theorem Synced.ready {g : GatewayRun} (h : Synced r g) {session : String} {n : Int}
    (hne : nonEmpty session = true) (hle : n ≤ durableSequence (g.cursor r) session + 1) :
    Synced r (({ g.saw (some n) with sessionId := some session } : GatewayRun).recordNumbered r (some n)
      .identified) := by
  refine Synced.recordNumbered h.nothingSkipped rfl (fun session' hs => ?_) nofun
  obtain rfl := Option.some.inj hs
  exact ⟨hne, Or.inl rfl, hle⟩

theorem readySession?_nonEmpty {frame : Json} {session : String}
    (h : readySession? frame = some session) : nonEmpty session = true := by
  unfold readySession? at h
  split at h
  · exact (Option.filter_eq_some_iff.mp h).2
  · cases h

/-- **One frame in order.** -/
theorem Synced.receive {g : GatewayRun} (h : Synced r g) {frame : Json}
    (horder : g.inOrder r frame = true) (answers : AcceptedAnswers) :
    Synced r (g.receive r frame answers) := by
  have hcontrol : (g.sessionId.all fun session => (Json.int? (frame.get? "s")).all fun n : Int =>
      n ≤ durableSequence (g.cursor r) session) = true →
        Synced r (g.saw (Json.int? (frame.get? "s"))) := by
    intro hall
    refine h.saw fun session n hs hn => ?_
    simpa [hs, hn] using hall
  unfold GatewayRun.inOrder at horder
  unfold GatewayRun.receive
  dsimp only at horder ⊢
  by_cases hnine : Json.equalsInt 9 (frame.get? "op") = true
  · -- the session is gone
    have hseven := Json.equalsInt_other hnine (m := 7) (by decide)
    rw [if_neg (by rw [hseven]; exact Bool.false_ne_true), if_pos hnine]
    exact Synced.reconnect ⟨h.nothingSkipped, nofun⟩
  rw [if_neg hnine] at horder ⊢
  by_cases hzero : Json.equalsInt 0 (frame.get? "op") = true
  · have hseven := Json.equalsInt_other hzero (m := 7) (by decide)
    have hdispatch : ¬(!Json.equalsInt 0 (frame.get? "op")) = true := by rw [hzero]; decide
    rw [if_neg hdispatch] at horder ⊢
    rw [if_neg (by rw [hseven]; exact Bool.false_ne_true)]
    by_cases hready : Json.str? (frame.get? "t") = some "READY"
    · rw [if_pos hready] at horder ⊢
      cases hsession : readySession? frame with
      | none =>
          rw [hsession] at horder
          exact (hcontrol horder).reconnect
      | some session =>
          rw [hsession] at horder
          obtain ⟨n, hn, hle⟩ := (Option.any_eq_true _ _).mp horder
          have hne := readySession?_nonEmpty hsession
          have hready := h.ready hne (of_decide_eq_true hle)
          rw [hn]
          exact hready
    · rw [if_neg hready] at horder ⊢
      have hjudged : Judged r (g.saw (Json.int? (frame.get? "s"))) (Json.int? (frame.get? "s")) := by
        refine h.judged fun n hn => ?_
        rw [hn] at horder
        exact of_decide_eq_true horder
      by_cases hresumed : Json.str? (frame.get? "t") = some "RESUMED"
      · rw [if_pos hresumed]
        exact hjudged.recordNumbered _
      rw [if_neg hresumed]
      by_cases hmention : Json.str? (frame.get? "t") ≠ some "GROUP_AT_MESSAGE_CREATE"
      · rw [if_pos hmention]
        exact (hjudged.rejected _).recordNumbered _
      · rw [if_neg hmention]
        exact hjudged.receiveMention answers
  · have hcontrolled : (!Json.equalsInt 0 (frame.get? "op")) = true := by simpa using hzero
    rw [if_pos hcontrolled] at horder ⊢
    have hsaw := hcontrol horder
    split
    · exact hsaw.reconnect
    · exact hsaw

/-- **A new connection** resumes at most where the durable cursor of its session is. -/
theorem Synced.authenticate {g : GatewayRun} (h : Synced r g) (hello : Json) :
    Synced r (g.authenticate r hello) := by
  have hsent : ∀ e, (∀ session n durable, e = GatewayEvent.resumed session n durable →
      ∃ c, durable = some c ∧ c.sessionIdHash = some (sha256 session) ∧ n ≤ c.lastContiguousSequence) →
      (∀ session n, e ≠ .tookIn session n) → NothingSkipped (g.cursor r) (g.history ++ [e]) := by
    intro e he hnot
    refine ⟨fun session n durable hmem => ?_, h.nothingSkipped.accounted.append _,
      h.nothingSkipped.tookIn.concat fun session n heq => absurd heq (hnot session n)⟩
    rcases List.mem_append.mp hmem with hold | hnew
    · exact h.nothingSkipped.resumed session n durable hold
    · exact he session n durable (List.mem_singleton.mp hnew).symm
  unfold GatewayRun.authenticate
  split
  · exact h.reconnect
  · refine ⟨?_, h.follows⟩
    split
    case h_1 session sequence hsession hsequence =>
      obtain ⟨c, hc, hs, -, hlatest⟩ := h.follows session hsession
      refine hsent _ (fun session' n durable heq => ?_) nofun
      obtain ⟨rfl, rfl, rfl⟩ := GatewayEvent.resumed.injEq .. ▸ heq
      exact ⟨c, hc, hs, hlatest _ hsequence⟩
    case h_2 => exact hsent _ nofun nofun

theorem Synced.start {g : GatewayRun} (h : Synced r g) (pick : Nat) (answers : ProcessAnswers) :
    Synced r (g.start r pick answers) := by
  unfold GatewayRun.start
  dsimp only
  split
  · exact ⟨h.nothingSkipped, nofun⟩
  · split
    · exact Synced.abort h.nothingSkipped
    · refine Synced.abort ?_
      rw [acknowledge_cursor]
      exact h.nothingSkipped

theorem Synced.step {g : GatewayRun} (h : Synced r g) {input : GatewayInput}
    (horder : g.inputInOrder r input = true) : Synced r (g.step r input) := by
  cases input with
  | start pick answers => exact h.start pick answers
  | hello frame =>
      show Synced r (if _ then _ else _)
      split
      · exact h.authenticate frame
      · exact h
  | frame frame answers =>
      show Synced r (if _ then _ else _)
      split
      case isTrue hphase =>
        have hframe : (decide (g.phase ≠ .receiving) || g.inOrder r frame) = true := horder
        rw [hphase] at hframe
        exact h.receive hframe answers
      case isFalse => exact h
  | disconnected =>
      show Synced r (if _ then _ else _)
      split
      · exact h
      · exact h.reconnect
  | aborted => exact Synced.abort h.nothingSkipped
  | elapse d => exact ⟨h.nothingSkipped, h.follows⟩

theorem Synced.run {g : GatewayRun} (h : Synced r g) {inputs : List GatewayInput}
    (horder : InOrder r g inputs = true) : Synced r (inputs.foldl (GatewayRun.step r) g) := by
  induction inputs generalizing g with
  | nil => exact h
  | cons input inputs ih =>
      rw [InOrder, Bool.and_eq_true] at horder
      exact ih (h.step horder.1) horder.2

end GatewayRun

/-- **No gateway event is skipped** in a run whose frames all continue the durable cursor. -/
theorem gateway_nothing_skipped {inputs : List GatewayInput}
    (h : GatewayRun.InOrder r .init inputs = true) :
    NothingSkipped ((runGateway r inputs).cursor r) (runGateway r inputs).history := by
  have hcursor : GatewayRun.cursor r .init = none := rfl
  refine (GatewayRun.Synced.run ⟨⟨fun _ _ _ hmem => absurd hmem List.not_mem_nil, ?_, ?_⟩, ?_⟩
    h).nothingSkipped
  · rw [hcursor]
    nofun
  · intro before after session n heq
    cases before <;> cases heq
  · intro session hs
    cases hs

/-! ## A gap -/

/-- The text functions on the texts of the examples below. -/
def qqTextExample : QQText where
  sha256Text s :=
    if s = "app" then "a172cedcae47474b615c54d510a5d84a8dea3032e958587430b413538be3f333"
    else if s = "g" then "cd0aa9856147b6c5b4ff2b7dfee5da20aa38253099ef1b4a64aced233c9afe29"
    else if s = "503" then "7182dd431b5c8833ed3c8a02c8615780df8dca7d83ed4166962b207f45a656b5"
    else "bb0568255113a9d9be6466f084a28655ef5ba79cc89b95f248b7fd4c71c713af"
  hmacSha256 _ _ := "667890a78dfeed60069e519f0f78ee49db69947e0574139f8eb3b90a5ab65e91"
  naturalKeyHex _ := "118238c09d34ba5935c08f885e1b4341afc08572ca652942444e2db280d58339"
  parseTimestamp s := if s = "2026-01-01T00:00:00Z" then some 1767225600000000 else none
  timestamp _ := "2026-01-01T00:00:00Z"

def qqConfigExample : QQSandboxConfig :=
  ⟨"app", "g", "t", "salt", ["qq.group_at.read", "qq.passive_ack.execute"]⟩

def gatewayRunnerExample : QQGatewayRunner := ⟨qqTextExample, qqConfigExample, false⟩

def helloFrame : Json :=
  .obj (.ofList [("op", .int 10), ("d", .obj (.ofList [("heartbeat_interval", .int 45000)]))])

def readyFrame (sequence : Int) (session : String) : Json :=
  .obj (.ofList [("op", .int 0), ("t", .str "READY"), ("s", .int sequence),
    ("d", .obj (.ofList [("session_id", .str session)]))])

def mentionFrame (sequence : Int) : Json :=
  .obj (.ofList [("op", .int 0), ("t", .str "GROUP_AT_MESSAGE_CREATE"), ("s", .int sequence),
    ("d", .obj (.ofList [("group_openid", .str "g"), ("id", .str "m1"),
      ("author", .obj (.ofList [("member_openid", .str "m")])), ("content", .str "503"),
      ("timestamp", .str "2026-01-01T00:00:00Z")]))])

def unanswered : ProcessAnswers := ⟨.transportError, .transportError⟩

/-- Frame 2 of the session is missing: READY 1, then a mention with number 3, then a new connection. -/
def gapInputs : List GatewayInput :=
  [.elapse 1767225600000000, .start 0 unanswered, .hello helloFrame,
   .frame (readyFrame 1 "a") ⟨.notDue, unanswered, unanswered⟩,
   .frame (mentionFrame 3) ⟨.notDue, unanswered, unanswered⟩, .hello helloFrame]

/-- The gap is noticed, and the runner then resumes behind it: RESUME carries 3 while the durable cursor of
    the session is at 1. -/
theorem gateway_gap_example :
    ¬NothingSkipped ((runGateway gatewayRunnerExample gapInputs).cursor gatewayRunnerExample)
      (runGateway gatewayRunnerExample gapInputs).history := by
  intro h
  have hresumed : GatewayEvent.resumed "a" 3
      ((runGateway gatewayRunnerExample gapInputs).cursor gatewayRunnerExample) ∈
        (runGateway gatewayRunnerExample gapInputs).history := by decide +kernel
  obtain ⟨c, hc, -, hle⟩ := h.resumed _ _ _ hresumed
  have hcursor : ((runGateway gatewayRunnerExample gapInputs).cursor gatewayRunnerExample).map
      (·.lastContiguousSequence) = some 1 := by decide +kernel
  rw [hc] at hcursor
  have hlast : c.lastContiguousSequence = 1 := Option.some.inj hcursor
  omega

/-- A session without a gap: the next mention is taken in. -/
theorem gateway_nothing_skipped_example :
    NothingSkipped
      ((runGateway gatewayRunnerExample (gapInputs.take 4 ++
        [.frame (mentionFrame 2) ⟨.notDue, unanswered, unanswered⟩])).cursor gatewayRunnerExample)
      (runGateway gatewayRunnerExample (gapInputs.take 4 ++
        [.frame (mentionFrame 2) ⟨.notDue, unanswered, unanswered⟩])).history :=
  gateway_nothing_skipped (by decide +kernel)

end WeFlow
