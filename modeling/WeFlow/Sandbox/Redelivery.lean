import WeFlow.Ledger.Redelivery
import WeFlow.Sandbox.Acknowledgement

/-!
# `Redelivery` — a mention that comes again

The mentions' intakes, cursor writes and acknowledgement intents are transactions of their own, so a crash
can leave any prefix of them behind, and the gateway delivers the message again, in the same session or in
another one. The receipt answers it: the ledger returns the Case it recorded, and the intent's natural key
is a function of that Case. What stands in the way is the gap check, which alone of the checks of `accept`
does not ask for the receipt.

## Contents

* `StoreOperation`, `StoreSystem` — the sandbox and the rest of the ledger over one store.
* `Rooted`, `MentionInv` — every intent belongs to the Case of its message; `StoreSound.run`.
* `TakenIn`, `Redelivers`, `Resolves` — the mention, its redelivery, and what is claimed of it.
* `redelivery_resolves_iff`, `redelivery_gap_example`.
-/

namespace WeFlow

open Prog Txn SQLiteQQSandboxJournal QQAcknowledgementController

variable {α β : Type} {text : QQText} {config : QQSandboxConfig}

/-! ## The system -/

/-- What works on the store: the sandbox, and every other call of the Case ledger. -/
inductive StoreOperation where
  | sandbox (op : QQOperation)
  | ledger (call : LedgerCall)

def storeProgram (text : QQText) : StoreOperation → QQProg Unit
  | .sandbox op => qqProgram text op
  | .ledger call => .atomically fun s => .ok ((), { s with ledger := s.ledger.call call })

abbrev StoreAction := Action StoreOperation Nat

/-- The store after a schedule: any operations, interleaved, each killed anywhere. -/
def runStore (text : QQText) (actions : List StoreAction) : QQSystem :=
  Sys.run (storeProgram text) QQWorld.elapse QQSystem.idle actions

/-! ## Intents and the Cases of their messages -/

/-- **An intent is rooted in its message**: its Case is the one that the message opens, and its keys are
    what they are derived from. -/
structure QQAcknowledgementIntent.Rooted (i : QQAcknowledgementIntent) : Prop where
  theCase : ∃ appIdHash, i.caseId = caseIdOf i.tenantId
    ⟨i.tenantId, .qqSandbox, .naturalKey
      (sha256 ⟨appIdHash, i.groupOpenidHash, i.sourceMessageId, i.tenantId⟩)⟩
  revision : i.caseRevisionId = revisionIdOf i.caseId
  source : i.sourceMessageIdHash = sha256 i.sourceMessageId
  naturalKey : i.naturalKey = sha256 ⟨i.caseId, i.caseRevisionId, i.tenantId⟩
  idempotencyKey : i.idempotencyKey = sha256 ⟨i.tenantId, i.naturalKey,
    sha256 ⟨i.groupOpenidHash, 1, i.sourceMessageIdHash, sha256 ⟨i.caseId⟩⟩⟩
  intentId : i.intentId = stableIdentifier ⟨i.idempotencyKey, i.tenantId⟩

structure MentionInv (s : QQWorld) : Prop where
  ledger : s.ledger.LedgerInv
  delivery : s.ledger.Delivery
  rooted : ∀ i ∈ s.journal.intents, i.Rooted

/-- Receipts are only appended, and the clock does not go back. -/
structure MentionGrows (s s' : QQWorld) : Prop where
  receipts : s.ledger.inboundReceipts <+: s'.ledger.inboundReceipts
  clock : s.now ≤ s'.now

theorem MentionGrows.refl (s : QQWorld) : MentionGrows s s := ⟨List.prefix_refl _, Nat.le_refl _⟩

theorem MentionGrows.trans (a b c : QQWorld) (h : MentionGrows a b) (h' : MentionGrows b c) :
    MentionGrows a c :=
  ⟨h.receipts.trans h'.receipts, Nat.le_trans h.clock h'.clock⟩

/-- **A call of the ledger** keeps the invariant. -/
theorem MentionInv.call {s : QQWorld} (h : MentionInv s) (c : LedgerCall) :
    MentionGrows s { s with ledger := s.ledger.call c } ∧
      MentionInv { s with ledger := s.ledger.call c } :=
  ⟨⟨h.ledger.receipts_grow c, Nat.le_refl _⟩, LedgerStore.call_inv h.ledger c,
    h.delivery.call h.ledger c, h.rooted⟩

/-- Neither the ledger nor the intents nor the clock have changed. -/
structure KeepsMentions (s s' : QQWorld) : Prop where
  ledger : s'.ledger = s.ledger
  intents : s'.journal.intents = s.journal.intents
  now : s'.now = s.now

theorem KeepsMentions.refl (s : QQWorld) : KeepsMentions s s := ⟨rfl, rfl, rfl⟩

theorem KeepsMentions.keeps {s s' : QQWorld} (h : KeepsMentions s s') (hinv : MentionInv s) :
    MentionGrows s s' ∧ MentionInv s' := by
  refine ⟨⟨?_, ?_⟩, ?_, ?_, ?_⟩
  · rw [h.ledger]
  · rw [h.now]
  · rw [h.ledger]
    exact hinv.ledger
  · rw [h.ledger]
    exact hinv.delivery
  · rw [h.intents]
    exact hinv.rooted

/-! ### Programs that take nothing in -/

/-- A program that changes neither the ledger nor the intents. -/
abbrev LeavesMentions (p : QQProg α) : Prop := Quiet (fun _ _ => True) KeepsMentions (fun _ => True) p

theorem leaves_observe (query : QQWorld → α) : LeavesMentions (Prog.observe query) :=
  quiet_observe KeepsMentions.refl fun _ _ => trivial

theorem leaves_check (c : Bool) (e : QQError) : LeavesMentions (Prog.check c e) :=
  quiet_check.mpr fun _ => trivial

theorem leaves_need (row : Option α) (e : QQError) : LeavesMentions (Prog.need row e) :=
  quiet_need.mpr fun _ _ => trivial

theorem LeavesMentions.bind {p : QQProg α} {f : α → QQProg β} (hp : LeavesMentions p)
    (hf : ∀ a, LeavesMentions (f a)) : LeavesMentions (p >>= f) :=
  Quiet.bind hp fun a _ => hf a

theorem leaves_recordCursor (sequence : Int) (status : CursorStatus) (sessionId : Option String) :
    LeavesMentions (recordCursor text config sequence status sessionId) := by
  unfold recordCursor getCursor
  refine (leaves_observe _).bind fun current => (leaves_observe _).bind fun now =>
    (leaves_check _ _).bind fun _ => ?_
  intro s b s' _ htxn
  obtain ⟨-, rfl⟩ := Prod.mk.injEq .. ▸ Except.ok.inj htxn
  exact ⟨⟨rfl, rfl, rfl⟩, trivial⟩

theorem leaves_complete (i : QQAcknowledgementIntent) (o : QQAcknowledgementObservation) :
    LeavesMentions (complete i o) := by
  have hinsert : ∀ completion,
      LeavesMentions (Prog.atomically (SQLiteQQSandboxJournal.insertCompletion completion)) := by
    intro completion s b s' _ htxn
    refine ⟨?_, trivial⟩
    unfold SQLiteQQSandboxJournal.insertCompletion at htxn
    split at htxn
    · obtain ⟨-, rfl⟩ := Prod.mk.injEq .. ▸ Except.ok.inj htxn
      exact ⟨rfl, rfl, rfl⟩
    · obtain ⟨-, rfl⟩ := Prod.mk.injEq .. ▸ Except.ok.inj htxn
      exact .refl s
  unfold complete completions observations
  refine (leaves_observe _).bind fun existing => ?_
  split
  · trivial
  · refine (leaves_observe _).bind fun now => (leaves_observe _).bind fun chain =>
      (leaves_check _ _).bind fun _ => LeavesMentions.bind (hinsert _) fun inserted => ?_
    split
    · trivial
    · exact (leaves_observe _).bind fun _ => leaves_need _ _

theorem leaves_observeAndMaybeComplete (i : QQAcknowledgementIntent) (outcome : QQSendOutcome) :
    LeavesMentions (observeAndMaybeComplete i outcome) := by
  unfold observeAndMaybeComplete
  refine LeavesMentions.bind ?_ fun observation => ?_
  · intro s b s' _ htxn
    simp only [require_bind_eq_ok, fetch_bind_eq_ok, pure, Except.pure, Except.ok.injEq,
      Prod.mk.injEq] at htxn
    obtain ⟨-, observations, -, -, rfl⟩ := htxn
    exact ⟨⟨rfl, rfl, rfl⟩, trivial⟩
  · split
    · exact (leaves_complete _ _).bind fun _ => trivial
    · trivial

theorem leaves_callTransport (call : TransportCall) : LeavesMentions (callTransport call) := by
  intro s b s' _ htxn
  obtain ⟨-, rfl⟩ := Prod.mk.injEq .. ▸ Except.ok.inj htxn
  exact ⟨⟨rfl, rfl, rfl⟩, trivial⟩

theorem leaves_process (intentId : AckIntentId) (active : Bool) (reconciled sent : TransportAnswer) :
    LeavesMentions (process text config intentId active reconciled sent) := by
  unfold process getIntent getLocator completions
  refine LeavesMentions.bind ((leaves_observe _).bind fun _ => leaves_need _ _) fun i => ?_
  refine (leaves_observe _).bind fun existing => ?_
  split
  · trivial
  split
  · exact leaves_observeAndMaybeComplete _ _
  refine (leaves_observe _).bind fun now => ?_
  split
  · exact leaves_observeAndMaybeComplete _ _
  refine LeavesMentions.bind ((leaves_observe _).bind fun _ => leaves_need _ _) fun l => ?_
  split
  · exact leaves_observeAndMaybeComplete _ _
  refine LeavesMentions.bind ?_ fun _ => leaves_observeAndMaybeComplete _ _
  unfold reconcileThenSend
  refine (leaves_callTransport _).bind fun _ => ?_
  by_cases habsent : reconciled.toOutcome.status = .absent
  · simp only [if_pos habsent]
    exact (leaves_callTransport _).bind fun _ => trivial
  · simp only [if_neg habsent]
    trivial

theorem leaves_purgeExpiredLocators : LeavesMentions purgeExpiredLocators := by
  intro s b s' _ htxn
  obtain ⟨-, rfl⟩ := Prod.mk.injEq .. ▸ Except.ok.inj htxn
  exact ⟨⟨rfl, rfl, rfl⟩, trivial⟩

theorem leaves_rejectOutOfOrder (cursor : Option QQGatewayCursor) (inbound : QQSandboxInboundEvent) :
    LeavesMentions (rejectOutOfOrder config cursor inbound) := by
  unfold rejectOutOfOrder hasQqReceipt
  split
  · trivial
  · split
    · exact LeavesMentions.bind ((leaves_check _ _).bind fun _ => leaves_observe _) fun _ =>
        leaves_check _ _
    · trivial

theorem leaves_rejectSequenceGap (cursor : Option QQGatewayCursor) (sequence : Nat)
    (sessionId : Option String) :
    LeavesMentions (rejectSequenceGap text config cursor sequence sessionId) := by
  unfold rejectSequenceGap
  split
  · trivial
  · split
    · exact (leaves_recordCursor _ _ _).bind fun _ => trivial
    · trivial

/-! ### Programs that keep the invariant -/

/-- A program that keeps the intents rooted. -/
abbrev KeepsRooted (p : QQProg α) (k : QQWorld) : Prop :=
  Owns (fun _ _ => True) (fun s (_ : PUnit.{1}) => MentionInv s) MentionGrows (fun _ _ _ => True) p 0 k

theorem LeavesMentions.keepsRooted {p : QQProg α} (h : LeavesMentions p) (k : QQWorld) :
    KeepsRooted p k :=
  (Quiet.owns h (fun _ _ _ hstep hinv => hstep.keeps hinv) k).mono fun _ _ _ _ => trivial

/-- A result that names the Case of the mention. -/
def IntakeResult.IsOf (result : IntakeResult) (tenantId : String) (key : DeliveryKey) : Prop :=
  result.caseId = caseIdOf tenantId key ∧ result.caseRevisionId = revisionIdOf result.caseId

/-- **An intake that commits** keeps the invariant and returns the mention's own Case. -/
theorem MentionInv.intake {s : QQWorld} (h : MentionInv s) {inbound : QQSandboxInboundEvent}
    {tenantId : String} {result : IntakeResult} {ledger' : LedgerStore}
    (hok : s.ledger.intakeQq s.now inbound tenantId = .ok (result, ledger')) :
    (MentionGrows s { s with ledger := ledger' } ∧ MentionInv { s with ledger := ledger' }) ∧
      result.IsOf tenantId ((Envelope.qq inbound).key tenantId) := by
  have hcall : s.ledger.call (.intakeQq s.now inbound tenantId) = ledger' := by
    show s.ledger.committed (s.ledger.intakeQq s.now inbound tenantId) = ledger'
    rw [hok]
    rfl
  have hkept := h.call (.intakeQq s.now inbound tenantId)
  rw [hcall] at hkept
  refine ⟨hkept, ?_⟩
  have hvalidated := (Envelope.deliver_eq_ok (x := .qq inbound).mp hok).2
  obtain ⟨r, hr, ht, hk, -, hcase, hrevision, -⟩ := LedgerStore.Accepted.result hvalidated h.delivery
  have hdetermined := hkept.2.delivery.determined r hr
  refine ⟨?_, ?_⟩
  · rw [hcase, hdetermined.caseId, ht, hk]
    rfl
  · rw [hrevision, hdetermined.revision, hcase]

/-- The intent that is built for a mention's own Case is rooted in the mention. -/
theorem acknowledgementIntent_rooted {inbound : QQSandboxInboundEvent} {result : IntakeResult}
    (hvalid : validateQqSandboxInboundEvent inbound = true) (htenant : inbound.tenantId = config.tenantId)
    (hgroup : inbound.groupOpenidHash = config.groupOpenidHash text)
    (hresult : result.IsOf config.tenantId ((Envelope.qq inbound).key config.tenantId))
    (deadline created : Instant) :
    (acknowledgementIntent text config inbound result deadline created).Rooted := by
  simp only [validateQqSandboxInboundEvent, decide_eq_true_eq] at hvalid
  obtain ⟨-, -, -, -, -, -, -, -, -, -, -, -, -, -, -, -, hsource, hnatural⟩ := hvalid
  refine ⟨⟨inbound.appIdHash, ?_⟩, hresult.2, hsource, rfl, rfl, rfl⟩
  show result.caseId = _
  rw [hresult.1]
  show caseIdOf config.tenantId ⟨config.tenantId, .qqSandbox, .naturalKey inbound.inboundNaturalKey⟩ = _
  rw [hnatural, htenant, hgroup]
  rfl

theorem keepsRooted_createAcknowledgementIntent {inbound : QQSandboxInboundEvent} {result : IntakeResult}
    (hvalid : validateQqSandboxInboundEvent inbound = true)
    (hresult : result.IsOf config.tenantId ((Envelope.qq inbound).key config.tenantId)) (k : QQWorld) :
    KeepsRooted (createAcknowledgementIntent text config inbound result) k := by
  unfold createAcknowledgementIntent
  refine owns_bind.mpr (owns_check.mpr fun hidentity => ?_)
  rw [Bool.and_eq_true, decide_eq_true_eq, decide_eq_true_eq] at hidentity
  obtain ⟨htenant, hgroup⟩ := hidentity
  refine owns_bind.mpr (owns_observe MentionGrows.refl fun s₁ _ _ _ => ?_)
  refine owns_bind.mpr (owns_need.mpr fun occurred _ => ?_)
  refine owns_bind.mpr (owns_check.mpr fun _ => ?_)
  refine owns_atomically.mpr fun s f _ hinv _ a s' htxn => ?_
  unfold SQLiteQQSandboxJournal.insertIntent at htxn
  split at htxn
  · simp only [require_bind_eq_ok, pure, Except.pure, Except.ok.injEq, Prod.mk.injEq] at htxn
    rw [← htxn.2.2]
    exact ⟨.refl s, 0, hinv, trivial⟩
  · simp only [fetch_bind_eq_ok, pure, Except.pure, Except.ok.injEq, Prod.mk.injEq] at htxn
    obtain ⟨intents, hintents, locators, -, -, rfl⟩ := htxn
    obtain ⟨-, rfl⟩ := Table.insert?_eq_some.mp hintents
    refine ⟨⟨List.prefix_refl _, Nat.le_refl _⟩, 0, ⟨hinv.ledger, hinv.delivery, fun i hi => ?_⟩, trivial⟩
    rcases List.mem_append.mp hi with hold | hnew
    · exact hinv.rooted i hold
    · rw [List.mem_singleton.mp hnew]
      exact acknowledgementIntent_rooted hvalid htenant hgroup hresult _ _

theorem keepsRooted_accept (rawEvent : Json) (sessionId : Option String) (k : QQWorld) :
    KeepsRooted (QQSandboxIntakeService.accept text config rawEvent sessionId) k := by
  unfold QQSandboxIntakeService.accept
  refine owns_bind.mpr (owns_observe MentionGrows.refl fun s₁ _ _ _ => ?_)
  split
  case h_2 => trivial
  case h_1 inbound hnorm =>
  obtain ⟨-, -, hvalid⟩ := normalize_sequence hnorm
  refine owns_bind.mpr (owns_pure.mpr ?_)
  refine owns_bind.mpr (owns_observe MentionGrows.refl fun s₂ _ _ _ => ?_)
  refine (LeavesMentions.keepsRooted (leaves_rejectOutOfOrder _ _) _).bind fun _ _ k₃ _ => ?_
  refine (LeavesMentions.keepsRooted (leaves_rejectSequenceGap _ _ _) _).bind fun _ _ k₄ _ => ?_
  -- the intake returns the Case that the intent is then made for
  refine owns_bind.mpr (owns_atomically.mpr fun s f _ hinv _ result s' htxn => ?_)
  split at htxn
  case h_2 => cases htxn
  case h_1 taken ledger' hok =>
  obtain ⟨rfl, rfl⟩ := Prod.mk.injEq .. ▸ Except.ok.inj htxn
  obtain ⟨⟨hgrows, hkept⟩, hresult⟩ := hinv.intake hok
  refine ⟨hgrows, 0, hkept, ?_⟩
  refine (LeavesMentions.keepsRooted (leaves_recordCursor _ _ _) _).bind fun _ _ k₅ _ => ?_
  exact (keepsRooted_createAcknowledgementIntent hvalid hresult _).bind fun _ _ _ _ => trivial

theorem keepsRooted_storeProgram (op : StoreOperation) (k : QQWorld) :
    KeepsRooted (storeProgram text op) k := by
  cases op with
  | sandbox op =>
      cases op with
      | accept config rawEvent sessionId =>
          exact (keepsRooted_accept rawEvent sessionId k).bind fun _ _ _ _ => trivial
      | recordCursor config sequence status sessionId =>
          exact ((leaves_recordCursor sequence status sessionId).keepsRooted k).bind fun _ _ _ _ => trivial
      | process config intentId active reconciled sent =>
          exact ((leaves_process intentId active reconciled sent).keepsRooted k).bind fun _ _ _ _ => trivial
      | purgeExpiredLocators => exact leaves_purgeExpiredLocators.keepsRooted k
  | ledger call =>
      refine owns_atomically.mpr fun s f _ hinv _ a s' htxn => ?_
      obtain ⟨-, rfl⟩ := Prod.mk.injEq .. ▸ Except.ok.inj htxn
      obtain ⟨hgrows, hkept⟩ := hinv.call call
      exact ⟨hgrows, 0, hkept, trivial⟩

theorem acknowledges_storeProgram (op : StoreOperation) (k : QQWorld) :
    Acknowledges text (storeProgram text op) k := by
  cases op with
  | sandbox op => exact acknowledges_qqProgram op k
  | ledger call =>
      have hjournals : Journals (storeProgram text (.ledger call)) := by
        intro s b s' _ htxn
        obtain ⟨-, rfl⟩ := Prod.mk.injEq .. ▸ Except.ok.inj htxn
        exact ⟨.intake s _, trivial⟩
      exact hjournals.acknowledges k

/-! ### Every schedule -/

theorem mentionInv_empty : MentionInv .empty :=
  ⟨LedgerStore.ledgerInv_empty, LedgerStore.delivery_empty, fun _ hi => absurd hi List.not_mem_nil⟩

abbrev MentionSound (c : QQSystem) : Prop :=
  Sys.Sound (fun _ _ => True) (fun s (_ : PUnit.{1}) => MentionInv s) MentionGrows (fun _ _ _ => True) c

theorem MentionSound.run {c : QQSystem} (h : MentionSound c) (actions : List StoreAction) :
    MentionSound (Sys.run (storeProgram text) QQWorld.elapse c actions) ∧
      MentionGrows c.store (Sys.run (storeProgram text) QQWorld.elapse c actions).store := by
  refine Sys.Sound.run (g := .stores fun _ => True) MentionGrows.refl MentionGrows.trans
    (fun op s _ _ => ?_) (fun d s _ _ hinv => ?_) h (Sys.along_stores (fun _ => trivial) actions)
  · exact keepsRooted_storeProgram op s
  · exact ⟨⟨List.prefix_refl _, Nat.le_add_right _ _⟩, hinv.ledger, hinv.delivery, hinv.rooted⟩

theorem mentionSound_runStore (text : QQText) (actions : List StoreAction) :
    MentionSound (runStore text actions) := by
  have hidle : MentionSound QQSystem.idle := Sys.sound_idle mentionInv_empty
  exact (hidle.run actions).1

/-- **In every store that is reached** the intents are rooted and the acknowledgements in order. -/
theorem runStore_inv (text : QQText) (actions : List StoreAction) :
    MentionInv (runStore text actions).store ∧ AckInv text (runStore text actions).store := by
  have hsound : AckSound text (runStore text actions) := by
    have hidle : AckSound text QQSystem.idle := Sys.sound_idle (ackInv_empty text)
    refine (Sys.Sound.run (g := .stores fun _ => True) AckGrows.refl AckGrows.trans
      (fun op s _ _ => ?_) (fun d s _ _ hinv => ?_) hidle (Sys.along_stores (fun _ => trivial) actions)).1
    · exact acknowledges_storeProgram op s
    · exact hinv.elapse d
  obtain ⟨_, hinv⟩ := Sys.Sound.store (mentionSound_runStore text actions)
  exact ⟨hinv, hsound.inv⟩

/-- Whatever runs later, receipts stay. -/
theorem runStore_grows (text : QQText) (actions later : List StoreAction) :
    MentionGrows (runStore text actions).store (runStore text (actions ++ later)).store := by
  have happend : runStore text (actions ++ later) =
      Sys.run (storeProgram text) QQWorld.elapse (runStore text actions) later :=
    Sys.run_append _ _ QQSystem.idle actions later
  rw [happend]
  exact ((mentionSound_runStore text actions).run later).2

/-! ## The mention and its redelivery -/

/-- What the checks of `accept` need of the standard library's text functions: a digest is 64 lower-case
    hexadecimal digits, and the text of a timestamp that was parsed says the same instant. -/
structure QQText.Lawful (text : QQText) : Prop where
  digest : ∀ s, matchesSha256 "" (text.sha256Text s) = true
  parsed : ∀ s t, text.parseTimestamp s = some t → text.parseTimestamp (text.timestamp t) = some t
  present : ∀ t, nonEmpty (text.timestamp t) = true

/-- **The mention has been taken in**: its intake has committed the receipt `r`, whatever has happened to
    the cursor write and the intent that follow it. -/
structure TakenIn (text : QQText) (config : QQSandboxConfig) (frame : Json) (r : InboundReceipt)
    (w : QQWorld) : Prop where
  stored : r ∈ w.ledger.inboundReceipts
  tenant : r.tenantId = config.tenantId
  normalized : ∃ received inbound, received ≤ w.now ∧
    normalizeQqGroupAtEvent text config received frame = .ok inbound ∧
    r.deliveryKey = mentionKey config inbound ∧
    r.fingerprint = fingerprintOf config.tenantId (Envelope.qq inbound).payload

/-- The same message in a frame with the number `n`. -/
structure Redelivers (frame again : Json) (n : Nat) : Prop where
  eventType : again.get? "t" = frame.get? "t"
  data : again.get? "d" = frame.get? "d"
  sequence : Json.int? (again.get? "s") = some (n : Int)
  positive : 1 ≤ n
  clean : containsForbiddenAuthority again = false

/-- The intents of a tenant's Case. -/
def QQWorld.intentsOf (w : QQWorld) (tenantId : String) (caseId : CaseId) : List QQAcknowledgementIntent :=
  w.journal.intents.filter fun i => i.tenantId = tenantId ∧ i.caseId = caseId

/-- **The redelivery resolves to the original Case**: `accept` returns what the receipt records and the one
    intent of that Case, which is the stored one where there is one, and the ledger holds what it held:
    one receipt, one Case and one set of initial events. -/
def Resolves (text : QQText) (config : QQSandboxConfig) (again : Json) (sessionId : Option String)
    (r : InboundReceipt) (w : QQWorld) : Prop :=
  ∃ result w', eval (QQSandboxIntakeService.accept text config again sessionId) w = (.ok result, w') ∧
    result.intake = ⟨true, r.caseId, r.caseRevisionId, r.eventIds⟩ ∧
    (∀ i ∈ w.journal.intents, i.tenantId = r.tenantId → i.caseId = r.caseId → i = result.intent) ∧
    w'.intentsOf r.tenantId r.caseId = [result.intent] ∧
    w'.ledger = w.ledger ∧ w.ledger.Owns r

/-- The number continues the durable cursor, or the cursor has passed it. -/
def FollowsCursor (text : QQText) (config : QQSandboxConfig) (n : Nat) (w : QQWorld) : Prop :=
  ∀ c, w.cursor? (config.gatewayKey text) = some c → n ≤ c.lastContiguousSequence + 1

/-! ### Taken in once, taken in for good -/

/-- An intake that commits has taken the mention in. -/
theorem TakenIn.of_intake {w : QQWorld} {frame : Json} {inbound : QQSandboxInboundEvent}
    {received : Instant} (hle : received ≤ w.now)
    (hnorm : normalizeQqGroupAtEvent text config received frame = .ok inbound) (hinv : MentionInv w)
    {result : IntakeResult} {ledger' : LedgerStore}
    (hok : w.ledger.intakeQq w.now inbound config.tenantId = .ok (result, ledger')) :
    ∃ r, TakenIn text config frame r { w with ledger := ledger' } ∧ result.caseId = r.caseId ∧
      result.caseRevisionId = r.caseRevisionId ∧ result.eventIds = r.eventIds := by
  have hvalidated := (Envelope.deliver_eq_ok (x := .qq inbound).mp hok).2
  obtain ⟨r, hr, ht, hk, hfp, hcase, hrevision, hevents⟩ :=
    LedgerStore.Accepted.result hvalidated hinv.delivery
  exact ⟨r, ⟨hr, ht, received, inbound, hle, hnorm, hk, hfp⟩, hcase, hrevision, hevents⟩

theorem TakenIn.grows {w w' : QQWorld} {frame : Json} {r : InboundReceipt}
    (h : TakenIn text config frame r w) (hgrows : MentionGrows w w') : TakenIn text config frame r w' := by
  obtain ⟨received, inbound, hle, hnorm⟩ := h.normalized
  exact ⟨hgrows.receipts.subset h.stored, h.tenant, received, inbound,
    Nat.le_trans hle hgrows.clock, hnorm⟩

/-! ### The gate lets the message through again -/

/-- What a normalized mention carries of the configuration, of the frame and of the clock. -/
theorem normalize_parts {received : Instant} {frame : Json} {inbound : QQSandboxInboundEvent}
    (h : normalizeQqGroupAtEvent text config received frame = .ok inbound) :
    ∃ messageId sender incident sequence s occurred,
      inbound = normalizedEvent text config messageId sender incident sequence occurred received ∧
      text.parseTimestamp s = some occurred ∧ occurred ≤ received ∧
      validateQqSandboxInboundEvent inbound = true := by
  simp only [normalizeQqGroupAtEvent, require_bind_eq_ok, fetch_bind_eq_ok] at h
  obtain ⟨-, -, sequence, -, -, h⟩ := h
  split at h
  · simp only [require_bind_eq_ok, fetch_bind_eq_ok] at h
    obtain ⟨-, -, -, -, messageId, -, sender, -, content, -, -, -, h⟩ := h
    obtain ⟨occurred, hparsed, h⟩ := bind_eq_ok.mp h
    simp only [require_bind_eq_ok] at h
    obtain ⟨hle, hvalid, hret⟩ := h
    obtain rfl := Except.ok.inj hret
    unfold parseEventTimestamp at hparsed
    split at hparsed
    · exact ⟨messageId, sender, incidentText content, sequence.toNat, _, occurred, rfl,
        fetch_eq_ok.mp hparsed, of_decide_eq_true hle, hvalid⟩
    · cases hparsed
  · cases h

/-- The mention as it arrives again. -/
def QQSandboxInboundEvent.again (inbound : QQSandboxInboundEvent) (n : Nat) (receivedAt : String) :
    QQSandboxInboundEvent :=
  { inbound with gatewaySequence := n, receivedAt }

theorem validate_again {inbound : QQSandboxInboundEvent} {n : Nat} {receivedAt : String}
    (h : validateQqSandboxInboundEvent inbound = true) (hn : 1 ≤ n) (hat : nonEmpty receivedAt = true) :
    validateQqSandboxInboundEvent (inbound.again n receivedAt) = true := by
  simp only [validateQqSandboxInboundEvent, decide_eq_true_eq] at h ⊢
  obtain ⟨h₁, h₂, h₃, h₄, h₅, h₆, h₇, h₈, h₉, -, h₁₁, -, hrest⟩ := h
  exact ⟨h₁, h₂, h₃, h₄, h₅, h₆, h₇, h₈, h₉, hn, h₁₁, hat, hrest⟩

/-- **The gate normalizes the redelivered frame to the same mention.** -/
theorem normalize_again (htext : text.Lawful) {received now : Instant} {frame again : Json} {n : Nat}
    {inbound : QQSandboxInboundEvent}
    (h : normalizeQqGroupAtEvent text config received frame = .ok inbound)
    (hagain : Redelivers frame again n) (hle : received ≤ now) :
    normalizeQqGroupAtEvent text config now again = .ok (inbound.again n (text.timestamp now)) := by
  have hn := hagain.positive
  simp only [normalizeQqGroupAtEvent, require_bind_eq_ok, fetch_bind_eq_ok] at h ⊢
  obtain ⟨-, htype, sequence, -, -, h⟩ := h
  rw [hagain.eventType, hagain.data, hagain.sequence]
  refine ⟨by rw [hagain.clean]; rfl, htype, n, rfl, decide_eq_true (by omega), ?_⟩
  split at h
  · simp only [require_bind_eq_ok, fetch_bind_eq_ok] at h ⊢
    obtain ⟨hgroup, hfiles, htextual, hparts, messageId, hid, sender, hsender, content, hcontent, hne,
      hpair, h⟩ := h
    obtain ⟨occurred, hparsed, h⟩ := bind_eq_ok.mp h
    simp only [require_bind_eq_ok] at h
    obtain ⟨hbefore, hvalid, hret⟩ := h
    obtain rfl := Except.ok.inj hret
    refine ⟨hgroup, hfiles, htextual, hparts, messageId, hid, sender, hsender, content, hcontent, hne,
      hpair, bind_eq_ok.mpr ⟨occurred, hparsed, ?_⟩⟩
    have hlate : occurred ≤ now := Nat.le_trans (of_decide_eq_true hbefore) hle
    simp only [require_bind_eq_ok]
    refine ⟨decide_eq_true hlate, ?_, rfl⟩
    exact validate_again hvalid hn (htext.present now)
  · cases h

/-! ### The checks of `accept` -/

section Accept

variable {w : QQWorld}

/-- The order check lets a message with a receipt through. -/
theorem eval_rejectOutOfOrder_known {inbound : QQSandboxInboundEvent} (htenant : inbound.tenantId = config.tenantId)
    (hknown : (w.ledger.receipt? config.tenantId (mentionKey config inbound)).isSome = true)
    (current : Option QQGatewayCursor) :
    eval (rejectOutOfOrder config current inbound) w = (.ok (), w) := by
  rcases eval_rejectOutOfOrder (w := w) htenant current with ⟨h, -⟩ | ⟨h, c, rfl, hle⟩
  · exact h
  · simp only [rejectOutOfOrder, if_pos hle, hasQqReceipt, eval_bind, eval_check, htenant, decide_true,
      if_true, eval_observe] at h ⊢
    rw [mentionKey] at hknown
    rw [hknown]
    rfl

/-- The gap check does not ask for the receipt. -/
theorem eval_rejectSequenceGap_within {current : Option QQGatewayCursor} {n : Nat}
    (h : ∀ c, current = some c → n ≤ c.lastContiguousSequence + 1) (sessionId : Option String) :
    eval (rejectSequenceGap text config current n sessionId) w = (.ok (), w) := by
  rcases @eval_rejectSequenceGap text config w current n sessionId with hok | ⟨c, hc, hgt⟩
  · exact hok
  · have hle := h c hc
    omega

theorem eval_rejectSequenceGap_beyond {c : QQGatewayCursor} {n : Nat}
    (h : c.lastContiguousSequence + 1 < n) (sessionId : Option String) :
    ∃ e, (eval (rejectSequenceGap text config (some c) n sessionId) w).1 = .error e := by
  have hrecord : ∀ w : QQWorld, ∃ e w', eval (recordCursor text config c.lastContiguousSequence
      .reconciliationRequired sessionId >>= fun _ =>
        (Prog.raise (.eventRejected .gatewaySequenceGap) : QQProg Unit)) w = (.error e, w') := by
    intro w
    rw [eval_bind]
    split
    · exact ⟨_, _, rfl⟩
    · exact ⟨_, _, rfl⟩
  obtain ⟨e, w', heval⟩ := hrecord w
  refine ⟨e, ?_⟩
  show (eval (if n > c.lastContiguousSequence + 1 then _ else _) w).1 = _
  rw [if_pos h]
  exact congrArg Prod.fst heval

/-- **A number behind a gap is rejected**, whether or not the message has a receipt. -/
theorem eval_accept_beyond {frame : Json} (sessionId : Option String) {inbound : QQSandboxInboundEvent}
    (hnorm : normalizeQqGroupAtEvent text config w.now frame = .ok inbound)
    (hknown : (w.ledger.receipt? config.tenantId (mentionKey config inbound)).isSome = true)
    {c : QQGatewayCursor} (hc : w.cursor? (config.gatewayKey text) = some c)
    (hgap : c.lastContiguousSequence + 1 < inbound.gatewaySequence) :
    ∃ e, (eval (QQSandboxIntakeService.accept text config frame sessionId) w).1 = .error e := by
  obtain ⟨-, htenant, -⟩ := normalize_sequence hnorm
  obtain ⟨e, he⟩ := @eval_rejectSequenceGap_beyond text config w c inbound.gatewaySequence hgap sessionId
  refine ⟨e, ?_⟩
  simp only [QQSandboxIntakeService.accept, eval_bind, eval_observe, getCursor, hnorm, eval_pure,
    eval_rejectOutOfOrder_known htenant hknown, hc]
  split
  case h_1 heq => rw [heq] at he; cases he
  case h_2 heq =>
    rw [heq] at he
    exact congrArg Except.error (Except.error.inj he)

/-- **A number the cursor lets through** reaches the ledger, the cursor and the intent in turn. -/
theorem eval_accept_within {frame : Json} (sessionId : Option String) {inbound : QQSandboxInboundEvent}
    (hnorm : normalizeQqGroupAtEvent text config w.now frame = .ok inbound)
    (hknown : (w.ledger.receipt? config.tenantId (mentionKey config inbound)).isSome = true)
    (hwithin : FollowsCursor text config inbound.gatewaySequence w) {result : IntakeResult}
    (hintake : w.ledger.intakeQq w.now inbound config.tenantId = .ok (result, w.ledger)) :
    ∃ row : QQGatewayCursor, ∀ intent w',
      eval (createAcknowledgementIntent text config inbound result) (w.putCursor row) = (.ok intent, w') →
      eval (QQSandboxIntakeService.accept text config frame sessionId) w =
        (.ok ⟨result, intent, inbound⟩, w') := by
  obtain ⟨-, htenant, hvalid⟩ := normalize_sequence hnorm
  obtain ⟨hnonEmpty, -⟩ := validateQqSandboxInboundEvent_iff hvalid
  rw [htenant] at hnonEmpty
  have hintakes : eval (intakeQq config inbound) w = (.ok result, w) := by
    rw [intakeQq, eval_atomically, hintake]
  have hlast : 0 ≤ lastSequenceOf inbound.gatewaySequence .identified sessionId
      (w.cursor? (config.gatewayKey text)) ∧ nonEmpty config.tenantId = true :=
    ⟨lastSequenceOf_nonneg (Int.natCast_nonneg _), hnonEmpty⟩
  have hrecord := eval_recordCursor text config inbound.gatewaySequence .identified sessionId w
  dsimp only at hrecord
  rw [if_pos hlast] at hrecord
  refine ⟨cursorRow text config inbound.gatewaySequence .identified sessionId
    (w.cursor? (config.gatewayKey text)) w.now, fun intent w' hintent => ?_⟩
  simp only [QQSandboxIntakeService.accept, eval_bind, eval_observe, getCursor, hnorm, eval_pure,
    eval_rejectOutOfOrder_known htenant hknown, eval_rejectSequenceGap_within hwithin, hintakes, hrecord,
    hintent]

end Accept

/-! ### The acknowledgement intent -/

section Intent

variable {w : QQWorld} {new : QQAcknowledgementIntent}

theorem QQAcknowledgementIntent.clash_self (i : QQAcknowledgementIntent) : i.clash i = true :=
  decide_eq_true ⟨rfl, Or.inl rfl⟩

/-- Rooted intents of one tenant have one Case exactly if they have one natural key. -/
theorem QQAcknowledgementIntent.Rooted.naturalKey_iff {i j : QQAcknowledgementIntent} (hi : i.Rooted)
    (hj : j.Rooted) (ht : i.tenantId = j.tenantId) : i.naturalKey = j.naturalKey ↔ i.caseId = j.caseId := by
  rw [hi.naturalKey, hj.naturalKey, sha256_inj, AckNaturalKey.mk.injEq, hi.revision, hj.revision]
  constructor
  · exact fun h => h.1
  · intro h
    rw [h]
    exact ⟨rfl, rfl, ht⟩

/-- **The Case of a message determines the message**, so all keys of the two intents are the same. -/
theorem QQAcknowledgementIntent.Rooted.same {i j : QQAcknowledgementIntent} (hi : i.Rooted) (hj : j.Rooted)
    (ht : i.tenantId = j.tenantId) (hcase : i.caseId = j.caseId) :
    i.idempotencyKey = j.idempotencyKey ∧ i.sourceMessageIdHash = j.sourceMessageIdHash := by
  obtain ⟨app, hroot⟩ := hi.theCase
  obtain ⟨app', hroot'⟩ := hj.theCase
  have hmaterial := stableIdentifier_inj.mp (hroot.symm.trans (hcase.trans hroot'))
  have hkey := (CaseMaterial.mk.inj hmaterial).2
  have hmessage := sha256_inj.mp (ChannelEventId.naturalKey.inj (DeliveryKey.mk.inj hkey).2.2)
  obtain ⟨-, hgroup, hsource, -⟩ := QQNaturalKey.mk.inj hmessage
  have hhash : i.sourceMessageIdHash = j.sourceMessageIdHash := by
    rw [hi.source, hj.source, hsource]
  refine ⟨?_, hhash⟩
  rw [hi.idempotencyKey, hj.idempotencyKey, (hi.naturalKey_iff hj ht).mpr hcase, ht, hgroup, hhash, hcase]

/-- **The transaction of the intent returns the intent of the Case**: the stored one, or the new one. -/
theorem insertIntent_resolves (hinv : MentionInv w) (hack : AckInv text w) (hnew : new.Rooted)
    (htenant : new.tenantId = config.tenantId) :
    ∃ intent w', SQLiteQQSandboxJournal.insertIntent config new w = .ok (intent, w') ∧ w'.ledger = w.ledger ∧
      (∀ i ∈ w.journal.intents, i.tenantId = config.tenantId → i.caseId = new.caseId → i = intent) ∧
      w'.intentsOf config.tenantId new.caseId = [intent] := by
  unfold SQLiteQQSandboxJournal.insertIntent
  cases hfound : w.journal.intents.find? (fun i => i.tenantId = config.tenantId ∧
      i.naturalKey = new.naturalKey) with
  | some existing =>
      have hmem := List.mem_of_find?_eq_some hfound
      have hkey := List.find?_some hfound
      rw [decide_eq_true_eq] at hkey
      have hroot := hinv.rooted existing hmem
      have ht : existing.tenantId = new.tenantId := hkey.1.trans htenant.symm
      have hcase := (hroot.naturalKey_iff hnew ht).mp hkey.2
      obtain ⟨hidempotency, hsource⟩ := hroot.same hnew ht hcase
      have honly : ∀ i ∈ w.journal.intents, i.tenantId = config.tenantId → i.caseId = new.caseId →
          i = existing := by
        intro i hi hit hic
        have htwo : i.tenantId = existing.tenantId := hit.trans hkey.1.symm
        have hnatural := ((hinv.rooted i hi).naturalKey_iff hroot htwo).mpr (hic.trans hcase.symm)
        exact hack.eq_of_clash hi hmem htwo (Or.inl hnatural)
      refine ⟨existing, w, ?_, rfl, honly, ?_⟩
      · dsimp only
        rw [require_bind_eq_ok]
        exact ⟨decide_eq_true ⟨hidempotency, hcase, hsource⟩, rfl⟩
      · refine Table.filter_eq_singleton ((hack.intents.nodup QQAcknowledgementIntent.clash_self).filter _)
          hmem (decide_eq_true ⟨hkey.1, hcase⟩) fun i hi hp => ?_
        exact honly i hi (of_decide_eq_true hp).1 (of_decide_eq_true hp).2
  | none =>
      have hnone : ∀ i ∈ w.journal.intents, i.tenantId = config.tenantId →
          i.naturalKey ≠ new.naturalKey := by
        intro i hi hit heq
        have habsent := List.find?_eq_none.mp hfound i hi
        exact habsent (decide_eq_true ⟨hit, heq⟩)
      have hfresh : ∀ i ∈ w.journal.intents, i.tenantId = config.tenantId →
          i.naturalKey ≠ new.naturalKey ∧ i.idempotencyKey ≠ new.idempotencyKey ∧
            i.intentId ≠ new.intentId ∧ i.caseId ≠ new.caseId := by
        intro i hi hit
        have hroot := hinv.rooted i hi
        have hnatural := hnone i hi hit
        have hidempotency : i.idempotencyKey ≠ new.idempotencyKey := by
          intro h
          rw [hroot.idempotencyKey, hnew.idempotencyKey, sha256_inj] at h
          exact hnatural (AckIdempotency.mk.inj h).2.1
        refine ⟨hnatural, hidempotency, ?_, ?_⟩
        · intro h
          rw [hroot.intentId, hnew.intentId, stableIdentifier_inj] at h
          exact hidempotency (AckIntentMaterial.mk.inj h).1
        · intro h
          exact hnatural ((hroot.naturalKey_iff hnew (hit.trans htenant.symm)).mpr h)
      have hintents : Table.insert? QQAcknowledgementIntent.clash new w.journal.intents =
          some (w.journal.intents ++ [new]) := by
        refine Table.insert?_eq_some.mpr ⟨fun i hi => decide_eq_false ?_, rfl⟩
        rintro ⟨hit, hclash⟩
        obtain ⟨h₁, h₂, h₃, -⟩ := hfresh i hi (hit.symm.trans htenant)
        rcases hclash with h | h | h
        · exact h₁ h.symm
        · exact h₂ h.symm
        · exact h₃ h.symm
      have hlocators : Table.insert? QQReplyLocator.clash (replyLocator config new) w.journal.locators =
          some (w.journal.locators ++ [replyLocator config new]) := by
        refine Table.insert?_eq_some.mpr ⟨fun l hl => decide_eq_false ?_, rfl⟩
        rintro ⟨hlt, hlid⟩
        -- a locator belongs to a stored intent
        obtain ⟨i, hi, hit, hid, -⟩ := hack.locators l hl
        have hlt' : config.tenantId = l.tenantId := hlt
        have hlid' : new.intentId = l.intentId := hlid
        exact (hfresh i hi (hlt'.trans hit).symm).2.2.1 (hlid'.trans hid).symm
      refine ⟨new, { w with journal := { w.journal with
        intents := w.journal.intents ++ [new],
        locators := w.journal.locators ++ [replyLocator config new] } }, ?_, rfl, ?_, ?_⟩
      · dsimp only
        rw [hintents, hlocators]
        rfl
      · intro i hi hit hic
        exact absurd hic (hfresh i hi hit).2.2.2
      · show (w.journal.intents ++ [new]).filter _ = [new]
        refine (Table.filter_append_new (fun i hi => decide_eq_false ?_) fun i hi => ?_)
        · rintro ⟨hit, hic⟩
          exact (hfresh i hi hit).2.2.2 hic
        · rw [List.mem_singleton.mp hi]
          exact decide_eq_true ⟨htenant, rfl⟩

/-- A chain without observations and completions is as valid as its intent. -/
theorem validate_acknowledgementIntent (htext : text.Lawful) {inbound : QQSandboxInboundEvent}
    (hvalid : validateQqSandboxInboundEvent inbound = true) (htenant : inbound.tenantId = config.tenantId)
    (result : IntakeResult) (deadline created : Instant) :
    validateQqAcknowledgementChain (acknowledgementIntent text config inbound result deadline created)
      [] [] = true := by
  simp only [validateQqSandboxInboundEvent, decide_eq_true_eq] at hvalid
  obtain ⟨hpresent, -, -, -, -, hid, -, hconversation, -, -, -, -, hcorrelation, hlength, -, -,
    hsource, -⟩ := hvalid
  have hintent : validateQqAcknowledgementIntent
      (acknowledgementIntent text config inbound result deadline created) = true := by
    rw [htenant] at hpresent
    exact decide_eq_true ⟨hpresent, hid, hsource, htext.digest _, hconversation, Nat.le_refl 1,
      htext.digest _, hcorrelation, hlength⟩
  exact decide_eq_true ⟨hintent, rfl, List.nodup_nil, rfl, Nat.zero_le 1⟩

theorem eval_createAcknowledgementIntent (htext : text.Lawful) {received : Instant} {frame : Json}
    {inbound : QQSandboxInboundEvent} {result : IntakeResult}
    (hnorm : normalizeQqGroupAtEvent text config received frame = .ok inbound)
    (hresult : result.IsOf config.tenantId ((Envelope.qq inbound).key config.tenantId))
    (hinv : MentionInv w) (hack : AckInv text w) :
    ∃ intent w', eval (createAcknowledgementIntent text config inbound result) w = (.ok intent, w') ∧
      w'.ledger = w.ledger ∧
      (∀ i ∈ w.journal.intents, i.tenantId = config.tenantId → i.caseId = result.caseId → i = intent) ∧
      w'.intentsOf config.tenantId result.caseId = [intent] := by
  obtain ⟨-, htenant, -⟩ := normalize_sequence hnorm
  obtain ⟨messageId, sender, incident, sequence, s, occurred, hparts, hparsed, -, hvalid⟩ :=
    normalize_parts hnorm
  have hgroup : inbound.groupOpenidHash = config.groupOpenidHash text := by rw [hparts]; rfl
  have hoccurred : text.parseTimestamp inbound.occurredAt = some occurred := by
    have hat : inbound.occurredAt = text.timestamp occurred := by rw [hparts]; rfl
    rw [hat]
    exact htext.parsed s occurred hparsed
  have hrooted := acknowledgementIntent_rooted hvalid htenant hgroup hresult
    (occurred + passiveReplyWindow) w.now
  have htenantNew : (acknowledgementIntent text config inbound result (occurred + passiveReplyWindow)
    w.now).tenantId = config.tenantId := rfl
  obtain ⟨intent, w', hinsert, hledger, honly, hone⟩ :=
    insertIntent_resolves hinv hack hrooted htenantNew
  refine ⟨intent, w', ?_, hledger, honly, hone⟩
  have hchecked := validate_acknowledgementIntent htext hvalid htenant result
    (occurred + passiveReplyWindow) w.now
  have hidentity : (inbound.tenantId = config.tenantId &&
      inbound.groupOpenidHash = config.groupOpenidHash text) = true := by
    rw [htenant, hgroup]
    simp
  simp only [createAcknowledgementIntent, eval_bind, eval_check, hidentity, if_true, eval_observe,
    eval_need, hoccurred, Option.elim_some, hchecked, eval_atomically, hinsert]

end Intent

/-! ## Redelivery -/

/-- Writing the cursor touches neither the ledger nor the acknowledgements. -/
theorem MentionInv.putCursor {w : QQWorld} (h : MentionInv w) (c : QQGatewayCursor) :
    MentionInv (w.putCursor c) :=
  ⟨h.ledger, h.delivery, h.rooted⟩

theorem AckInv.putCursor {w : QQWorld} (h : AckInv text w) (c : QQGatewayCursor) :
    AckInv text (w.putCursor c) :=
  ⟨h.naturalKey, h.intents, h.completions, h.locators, h.calls⟩

/-- **A mention that was taken in resolves to its Case** where its number follows the cursor, and is
    rejected where it does not. -/
theorem TakenIn.resolves_iff (htext : text.Lawful) {w : QQWorld} (hinv : MentionInv w)
    (hack : AckInv text w) {frame again : Json} {r : InboundReceipt} {n : Nat}
    (htaken : TakenIn text config frame r w) (hagain : Redelivers frame again n)
    (sessionId : Option String) :
    Resolves text config again sessionId r w ↔ FollowsCursor text config n w := by
  obtain ⟨received, inbound, hle, hnorm, hkey, hfingerprint⟩ := htaken.normalized
  have hnormagain := normalize_again htext hnorm hagain hle
  obtain ⟨-, htenant, hvalid⟩ := normalize_sequence hnormagain
  -- the receipt of the message answers whatever number it comes with
  have hreceipt : w.ledger.receipt? config.tenantId
      (mentionKey config (inbound.again n (text.timestamp w.now))) = some r :=
    (LedgerStore.receipt?_eq_some_iff hinv.delivery).mpr ⟨htaken.stored, htaken.tenant, hkey⟩
  have hknown : (w.ledger.receipt? config.tenantId
      (mentionKey config (inbound.again n (text.timestamp w.now)))).isSome = true := by
    rw [hreceipt]
    rfl
  constructor
  · intro hresolves c hc
    by_contra hgap
    have hlt : c.lastContiguousSequence + 1 < n := Nat.lt_of_not_le hgap
    obtain ⟨e, he⟩ := eval_accept_beyond sessionId hnormagain hknown hc hlt
    obtain ⟨result, w', heval, -⟩ := hresolves
    rw [heval] at he
    cases he
  · intro hfollows
    have hdetermined := hinv.delivery.determined r htaken.stored
    have hintake : w.ledger.intakeQq w.now (inbound.again n (text.timestamp w.now)) config.tenantId =
        .ok (⟨true, r.caseId, r.caseRevisionId, r.eventIds⟩, w.ledger) := by
      refine (Envelope.deliver_eq_ok (x := .qq (inbound.again n (text.timestamp w.now)))).mpr
        ⟨⟨hvalid, htenant⟩, ?_⟩
      rw [LedgerStore.intakeValidated_of_receipt w.now hreceipt, if_pos]
      exact hfingerprint
    have hresult : IntakeResult.IsOf ⟨true, r.caseId, r.caseRevisionId, r.eventIds⟩ config.tenantId
        ((Envelope.qq (inbound.again n (text.timestamp w.now))).key config.tenantId) := by
      refine ⟨?_, hdetermined.revision⟩
      show r.caseId = _
      rw [hdetermined.caseId, htaken.tenant, hkey]
      rfl
    obtain ⟨row, haccept⟩ := eval_accept_within sessionId hnormagain hknown hfollows hintake
    obtain ⟨intent, w', hcreate, hledger, honly, hone⟩ := eval_createAcknowledgementIntent htext hnormagain
      hresult (hinv.putCursor row) (hack.putCursor row)
    refine ⟨_, w', haccept intent w' hcreate, rfl, ?_, ?_, hledger, ?_⟩
    · rw [htaken.tenant]
      exact honly
    · rw [htaken.tenant]
      exact hone
    · exact hinv.ledger.owns hinv.delivery htaken.stored

/-- **Redelivery resolves to the original Case.** In every store that is reached, after crashes anywhere, an
    intake that commits takes its mention in. From then on, whatever else runs or dies, the same message in
    any session and with any positive number resolves to its Case exactly if the number follows the durable
    cursor: there is no cursor, or the number is at most one ahead of it. -/
theorem redelivery_resolves_iff (text : QQText) (htext : text.Lawful) (actions : List StoreAction) :
    (∀ config frame inbound received result ledger', received ≤ (runStore text actions).store.now →
      normalizeQqGroupAtEvent text config received frame = .ok inbound →
      (runStore text actions).store.ledger.intakeQq (runStore text actions).store.now inbound
        config.tenantId = .ok (result, ledger') →
      ∃ r, TakenIn text config frame r { (runStore text actions).store with ledger := ledger' } ∧
        result.caseId = r.caseId ∧ result.caseRevisionId = r.caseRevisionId ∧
        result.eventIds = r.eventIds) ∧
    ∀ config frame again n r later sessionId,
      TakenIn text config frame r (runStore text actions).store → Redelivers frame again n →
      (Resolves text config again sessionId r (runStore text (actions ++ later)).store ↔
        FollowsCursor text config n (runStore text (actions ++ later)).store) := by
  refine ⟨?_, ?_⟩
  · intro config frame inbound received result ledger' hle hnorm hok
    exact TakenIn.of_intake hle hnorm (runStore_inv text actions).1 hok
  · intro config frame again n r later sessionId htaken hagain
    obtain ⟨hinv, hack⟩ := runStore_inv text (actions ++ later)
    exact (htaken.grows (runStore_grows text actions later)).resolves_iff htext hinv hack hagain sessionId

/-! ## A redelivery that is rejected -/

theorem qqTextExample_lawful : qqTextExample.Lawful where
  digest s := by
    have hfour : matchesSha256 "" "a172cedcae47474b615c54d510a5d84a8dea3032e958587430b413538be3f333" = true ∧
        matchesSha256 "" "cd0aa9856147b6c5b4ff2b7dfee5da20aa38253099ef1b4a64aced233c9afe29" = true ∧
        matchesSha256 "" "7182dd431b5c8833ed3c8a02c8615780df8dca7d83ed4166962b207f45a656b5" = true ∧
        matchesSha256 "" "bb0568255113a9d9be6466f084a28655ef5ba79cc89b95f248b7fd4c71c713af" = true := by
      decide +kernel
    obtain ⟨happ, hgroup, htext, hother⟩ := hfour
    unfold qqTextExample
    dsimp only
    split
    · exact happ
    split
    · exact hgroup
    split
    · exact htext
    · exact hother
  parsed s t h := by
    unfold qqTextExample at h ⊢
    dsimp only at h ⊢
    split at h
    · exact h
    · cases h
  present t := by
    show nonEmpty "2026-01-01T00:00:00Z" = true
    decide

/-- The mention is taken in as number 1 of a session; `steps` transactions of its acceptance are run, and
    the process is killed. -/
def deliveredOnce (steps : Nat) : List StoreAction :=
  [.disturb 1767225600000000, .start (.sandbox (.accept qqConfigExample (mentionFrame 1) (some "a")))] ++
    List.replicate steps (.advance 0) ++ [.crash 0]

/-- The stored receipts are the mention's, and there is one. -/
def onlyTheMention (w : QQWorld) : Bool :=
  decide (1767225600000000 ≤ w.now ∧ w.ledger.inboundReceipts ≠ []) &&
    match normalizeQqGroupAtEvent qqTextExample qqConfigExample 1767225600000000 (mentionFrame 1) with
    | .ok inbound => w.ledger.inboundReceipts.all fun r => r.tenantId = qqConfigExample.tenantId ∧
        r.deliveryKey = mentionKey qqConfigExample inbound ∧
        r.fingerprint = fingerprintOf qqConfigExample.tenantId (Envelope.qq inbound).payload
    | .error _ => false

theorem takenIn_of_only {w : QQWorld} (h : onlyTheMention w = true) :
    ∃ r, TakenIn qqTextExample qqConfigExample (mentionFrame 1) r w := by
  obtain ⟨hstored, hall⟩ := Bool.and_eq_true _ _ ▸ h
  obtain ⟨hle, hne⟩ := of_decide_eq_true hstored
  obtain ⟨r, hr⟩ := List.exists_mem_of_ne_nil _ hne
  split at hall
  case h_1 inbound hnorm =>
      obtain ⟨htenant, hkey, hfingerprint⟩ := of_decide_eq_true (List.all_eq_true.mp hall r hr)
      exact ⟨r, hr, htenant, _, inbound, hle, hnorm, hkey, hfingerprint⟩
  case h_2 => cases hall

theorem redelivers_mention {n : Nat} (h : 1 ≤ n)
    (hclean : containsForbiddenAuthority (mentionFrame n) = false) :
    Redelivers (mentionFrame 1) (mentionFrame n) n where
  eventType := rfl
  data := rfl
  sequence := rfl
  positive := h
  clean := hclean

/-- The acceptance ran to its end, and the cursor stands at 1. In a new session the message comes as
    number 3, and is rejected as a gap. -/
theorem redelivery_gap_example :
    ∃ r, TakenIn qqTextExample qqConfigExample (mentionFrame 1) r
        (runStore qqTextExample (deliveredOnce 12)).store ∧
      Redelivers (mentionFrame 1) (mentionFrame 3) 3 ∧
      ¬Resolves qqTextExample qqConfigExample (mentionFrame 3) (some "b") r
        (runStore qqTextExample (deliveredOnce 12)).store := by
  have hmention : onlyTheMention (runStore qqTextExample (deliveredOnce 12)).store = true ∧
      ((runStore qqTextExample (deliveredOnce 12)).store.cursor?
        (qqConfigExample.gatewayKey qqTextExample)).map (·.lastContiguousSequence) = some 1 := by
    decide +kernel
  obtain ⟨r, htaken⟩ := takenIn_of_only hmention.1
  have hagain := redelivers_mention (n := 3) (by decide) (by decide +kernel)
  refine ⟨r, htaken, hagain, fun hresolves => ?_⟩
  obtain ⟨hinv, hack⟩ := runStore_inv qqTextExample (deliveredOnce 12)
  have hfollows := (htaken.resolves_iff qqTextExample_lawful hinv hack hagain _).mp hresolves
  obtain ⟨c, hc, hlast⟩ := Option.map_eq_some_iff.mp hmention.2
  have hle := hfollows c hc
  omega

/-- The process was killed after the intake: there is no cursor yet, and the message resolves whatever its
    number in the new session. -/
theorem redelivery_resolves_example :
    ∃ r, Resolves qqTextExample qqConfigExample (mentionFrame 7) (some "b") r
      (runStore qqTextExample (deliveredOnce 3 ++ [])).store := by
  have hmention : onlyTheMention (runStore qqTextExample (deliveredOnce 3)).store = true ∧
      (runStore qqTextExample (deliveredOnce 3)).store.cursor?
        (qqConfigExample.gatewayKey qqTextExample) = none := by
    decide +kernel
  obtain ⟨r, htaken⟩ := takenIn_of_only hmention.1
  have hiff := (redelivery_resolves_iff qqTextExample qqTextExample_lawful (deliveredOnce 3)).2
    qqConfigExample (mentionFrame 1) (mentionFrame 7) 7 r [] (some "b") htaken
    (redelivers_mention (by decide) (by decide +kernel))
  refine ⟨r, hiff.mpr fun c hc => ?_⟩
  rw [List.append_nil, hmention.2] at hc
  cases hc

end WeFlow
