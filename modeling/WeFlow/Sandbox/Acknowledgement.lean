import Mathlib.Algebra.Group.PUnit
import Mathlib.Algebra.Order.PUnit
import WeFlow.Base.Interleaving
import WeFlow.Sandbox.Contiguous

/-!
# `Acknowledgement` — the acknowledgement under any interleaving

Intakes, acknowledgement executions, cursor writes and locator purges run concurrently over one journal,
each under a configuration of its own; any of them can die anywhere, and time passes. An execution checks
the completion, the capability, the group and the deadline once, before it calls the transport, so what it
knows of these is as old as its checks; what it sends is fixed by the stored intent.

## Contents

* `QQOperation`, `qqProgram`, `QQSystem` — the system.
* `JournalStep` — what a transaction can do to the world apart from calling the transport.
* `AckInv`, `AckGrows` — the invariant and the order along which worlds grow.
* `Journals` — programs that make no call; `Acknowledges` — programs whose calls are within their intents.
* `silent_process` — an execution that starts when the intent is closed makes no call for it.
* `acknowledgement_bounded`, `acknowledgement_race_example`.
-/

namespace WeFlow

open Prog Txn SQLiteQQSandboxJournal QQAcknowledgementController

/-! ## The system -/

/-- What can be started: each operation belongs to a deployment with its own configuration. -/
inductive QQOperation where
  | accept (config : QQSandboxConfig) (rawEvent : Json) (sessionId : Option String)
  | recordCursor (config : QQSandboxConfig) (sequence : Int) (status : CursorStatus)
      (sessionId : Option String)
  | process (config : QQSandboxConfig) (intentId : AckIntentId) (capabilityActive : Bool)
      (reconciled sent : TransportAnswer)
  | purgeExpiredLocators

def qqProgram (text : QQText) : QQOperation → QQProg Unit
  | .accept config rawEvent sessionId => do
      let _ ← QQSandboxIntakeService.accept text config rawEvent sessionId
  | .recordCursor config sequence status sessionId => do
      let _ ← recordCursor text config sequence status sessionId
  | .process config intentId capabilityActive reconciled sent => do
      let _ ← process text config intentId capabilityActive reconciled sent
  | .purgeExpiredLocators => purgeExpiredLocators

def QQWorld.elapse (d : Nat) (s : QQWorld) : QQWorld := { s with now := s.now + d }

abbrev QQAction := Action QQOperation Nat

abbrev QQSystem := Sys QQWorld QQError Unit

def QQSystem.run (text : QQText) (c : QQSystem) (actions : List QQAction) : QQSystem :=
  Sys.run (qqProgram text) QQWorld.elapse c actions

def QQSystem.idle : QQSystem := ⟨.empty, []⟩

variable {α β : Type}

/-! ## What is claimed of a world -/

/-- A call made for the intent: it carries the intent's de-duplication key. -/
def QQAcknowledgementIntent.isCalledBy (i : QQAcknowledgementIntent) (call : TransportCall) : Bool :=
  call.controller.tenantId = i.tenantId ∧ call.idempotencyKey = i.idempotencyKey

def QQWorld.callsFor (s : QQWorld) (i : QQAcknowledgementIntent) : List TransportCall :=
  s.transport.filter i.isCalledBy

/-- **A call within its intent**: the message, the sequence and the text are the intent's, and so are the
    group and the capability profile of the controller, whose capability was active. -/
structure CallMatches (text : QQText) (i : QQAcknowledgementIntent) (call : TransportCall) : Prop where
  source : call.sourceMessageId = i.sourceMessageId
  msgSeq : call.replyMsgSeq = i.replyMsgSeq
  content : ∀ t, call.content = some t → t = ⟨i.caseId⟩
  group : call.groupOpenid = call.controller.groupOpenid
  groupHash : i.groupOpenidHash = call.controller.groupOpenidHash text
  profile : i.capabilityProfileHash = call.controller.capabilityProfileHash text
  active : call.capabilityActive = true

structure AckBounded (text : QQText) (s : QQWorld) : Prop where
  oneIntent : ∀ i ∈ s.journal.intents, ∀ j ∈ s.journal.intents, i.tenantId = j.tenantId →
    i.caseId = j.caseId → i.caseRevisionId = j.caseRevisionId → i = j
  intended : ∀ call ∈ s.transport, ∃ i ∈ s.journal.intents, i.isCalledBy call = true
  within : ∀ i ∈ s.journal.intents, ∀ call ∈ s.callsFor i, CallMatches text i call
  oneCompletion : ∀ i ∈ s.journal.intents, (s.completionsOf i.tenantId i.intentId).length ≤ 1

/-- The intent has a completion, or its deadline has passed. -/
def QQWorld.closed (s : QQWorld) (i : QQAcknowledgementIntent) : Bool :=
  !(s.completionsOf i.tenantId i.intentId).isEmpty || i.replyDeadlineAt ≤ s.now

/-! ## The invariant -/

/-- **The invariant**: ids are what they are derived from, the uniqueness constraints hold, a locator is
    its intent's, and every call is within an intent. -/
structure AckInv (text : QQText) (s : QQWorld) : Prop where
  naturalKey : ∀ i ∈ s.journal.intents, i.naturalKey = sha256 ⟨i.caseId, i.caseRevisionId, i.tenantId⟩
  intents : Table.Distinct QQAcknowledgementIntent.clash s.journal.intents
  completions : Table.Distinct QQAcknowledgementCompletion.clash s.journal.completions
  locators : ∀ l ∈ s.journal.locators, ∃ i ∈ s.journal.intents, l.tenantId = i.tenantId ∧
    l.intentId = i.intentId ∧ l.sourceMessageId = i.sourceMessageId
  calls : ∀ call ∈ s.transport, ∃ i ∈ s.journal.intents, i.isCalledBy call = true ∧
    CallMatches text i call

/-- Intents, completions and calls are only appended, and the clock does not go back. -/
structure AckGrows (s s' : QQWorld) : Prop where
  intents : s.journal.intents <+: s'.journal.intents
  completions : s.journal.completions <+: s'.journal.completions
  clock : s.now ≤ s'.now

theorem AckGrows.refl (s : QQWorld) : AckGrows s s :=
  ⟨List.prefix_refl _, List.prefix_refl _, Nat.le_refl _⟩

theorem AckGrows.trans (a b c : QQWorld) (h : AckGrows a b) (h' : AckGrows b c) : AckGrows a c :=
  ⟨h.intents.trans h'.intents, h.completions.trans h'.completions, Nat.le_trans h.clock h'.clock⟩

theorem QQAcknowledgementIntent.clash_symm (a b : QQAcknowledgementIntent) : a.clash b = b.clash a := by
  unfold clash
  rw [decide_eq_decide]
  constructor <;> rintro ⟨ht, h⟩ <;> exact ⟨ht.symm, by tauto⟩

/-- **Intents that share a tenant and a key are one intent.** -/
theorem AckInv.eq_of_clash {text : QQText} {s : QQWorld} (h : AckInv text s)
    {i j : QQAcknowledgementIntent} (hi : i ∈ s.journal.intents) (hj : j ∈ s.journal.intents)
    (ht : i.tenantId = j.tenantId)
    (hkey : i.naturalKey = j.naturalKey ∨ i.idempotencyKey = j.idempotencyKey ∨
      i.intentId = j.intentId) : i = j :=
  h.intents.eq_of_clash QQAcknowledgementIntent.clash_symm hi hj (decide_eq_true ⟨ht, hkey⟩)

theorem AckInv.bounded {text : QQText} {s : QQWorld} (h : AckInv text s) : AckBounded text s := by
  refine ⟨fun i hi j hj ht hc hr => ?_, fun call hcall => ?_, fun i hi call hcall => ?_, fun i _ => ?_⟩
  · refine h.eq_of_clash hi hj ht (Or.inl ?_)
    rw [h.naturalKey i hi, h.naturalKey j hj, ht, hc, hr]
  · obtain ⟨i, hi, hcalled, -⟩ := h.calls call hcall
    exact ⟨i, hi, hcalled⟩
  · obtain ⟨hmem, hcalled⟩ := List.mem_filter.mp hcall
    obtain ⟨j, hj, hcalled', hmatches⟩ := h.calls call hmem
    have hi' := of_decide_eq_true hcalled
    have hj' := of_decide_eq_true hcalled'
    have heq : i = j :=
      h.eq_of_clash hi hj (hi'.1.symm.trans hj'.1) (Or.inr (Or.inl (hi'.2.symm.trans hj'.2)))
    exact heq ▸ hmatches
  · -- two completions of the intent would clash
    have hdistinct : (s.completionsOf i.tenantId i.intentId).Pairwise fun a b => b.clash a = false :=
      h.completions.filter _
    by_contra hlong
    match hrows : s.completionsOf i.tenantId i.intentId with
    | [] => simp [hrows] at hlong
    | [_] => simp [hrows] at hlong
    | a :: b :: rest =>
        have hkeys : ∀ c ∈ s.completionsOf i.tenantId i.intentId,
            c.tenantId = i.tenantId ∧ c.intentId = i.intentId := fun c hc =>
          of_decide_eq_true (List.mem_filter.mp hc).2
        have ha := hkeys a (by simp [hrows])
        have hb := hkeys b (by simp [hrows])
        rw [hrows] at hdistinct
        have hclash := (List.pairwise_cons.mp hdistinct).1 b (by simp)
        have hclashes : b.clash a = true :=
          decide_eq_true ⟨hb.1.trans ha.1.symm, Or.inr (hb.2.trans ha.2.symm)⟩
        rw [hclashes] at hclash
        cases hclash

/-! ## What transactions do -/

/-- **What a transaction can do** when it does not call the transport. -/
inductive JournalStep : QQWorld → QQWorld → Prop
  | same (s : QQWorld) : JournalStep s s
  | intake (s : QQWorld) (ledger : LedgerStore) : JournalStep s { s with ledger }
  | cursor (s : QQWorld) (c : QQGatewayCursor) : JournalStep s (s.putCursor c)
  | intent (s : QQWorld) {i : QQAcknowledgementIntent} {config : QQSandboxConfig}
      {intents : List QQAcknowledgementIntent} {locators : List QQReplyLocator}
      (hnatural : i.naturalKey = sha256 ⟨i.caseId, i.caseRevisionId, i.tenantId⟩)
      (htenant : i.tenantId = config.tenantId)
      (hintents : Table.insert? QQAcknowledgementIntent.clash i s.journal.intents = some intents)
      (hlocators : Table.insert? QQReplyLocator.clash (replyLocator config i) s.journal.locators =
        some locators) :
      JournalStep s { s with journal := { s.journal with intents, locators } }
  | observation (s : QQWorld) (observations : List QQAcknowledgementObservation) :
      JournalStep s { s with journal := { s.journal with observations } }
  | completion (s : QQWorld) {c : QQAcknowledgementCompletion}
      {completions : List QQAcknowledgementCompletion}
      (hrow : Table.insert? QQAcknowledgementCompletion.clash c s.journal.completions =
        some completions) :
      JournalStep s { s with journal := { s.journal with completions } }
  | purge (s : QQWorld) (keep : QQReplyLocator → Bool) :
      JournalStep s { s with journal := { s.journal with
        locators := s.journal.locators.filter keep } }

variable {text : QQText} {config : QQSandboxConfig}

theorem JournalStep.transport {s s' : QQWorld} (h : JournalStep s s') :
    s'.transport = s.transport := by
  cases h <;> rfl

/-- **A transaction that makes no call keeps the invariant.** -/
theorem JournalStep.keeps {s s' : QQWorld} (h : JournalStep s s') (hinv : AckInv text s) :
    AckGrows s s' ∧ AckInv text s' := by
  have hsame : AckGrows s s := AckGrows.refl s
  cases h with
  | same | intake | cursor | observation =>
      exact ⟨⟨hsame.intents, hsame.completions, hsame.clock⟩,
        hinv.naturalKey, hinv.intents, hinv.completions, hinv.locators, hinv.calls⟩
  | @intent i config intents locators hnatural htenant hintents hlocators =>
      have hdistinct := hinv.intents.insert hintents
      obtain ⟨-, rfl⟩ := Table.insert?_eq_some.mp hintents
      obtain ⟨-, rfl⟩ := Table.insert?_eq_some.mp hlocators
      have hold : ∀ j ∈ s.journal.intents, j ∈ s.journal.intents ++ [i] := fun j hj =>
        List.mem_append_left _ hj
      have hnew : i ∈ s.journal.intents ++ [i] := List.mem_append_right _ (List.mem_singleton.mpr rfl)
      refine ⟨⟨List.prefix_append _ _, hsame.completions, hsame.clock⟩, ?_, hdistinct,
        hinv.completions, ?_, ?_⟩
      · intro j hj
        rcases List.mem_append.mp hj with hj | hj
        · exact hinv.naturalKey j hj
        · rw [List.mem_singleton.mp hj]
          exact hnatural
      · intro l hl
        rcases List.mem_append.mp hl with hl | hl
        · obtain ⟨j, hj, hlocator⟩ := hinv.locators l hl
          exact ⟨j, hold j hj, hlocator⟩
        · rw [List.mem_singleton.mp hl]
          exact ⟨i, hnew, htenant.symm, rfl, rfl⟩
      · intro call hcall
        obtain ⟨j, hj, hmatches⟩ := hinv.calls call hcall
        exact ⟨j, hold j hj, hmatches⟩
  | @completion c completions hrow =>
      have hdistinct := hinv.completions.insert hrow
      obtain ⟨-, rfl⟩ := Table.insert?_eq_some.mp hrow
      exact ⟨⟨hsame.intents, List.prefix_append _ _, hsame.clock⟩,
        hinv.naturalKey, hinv.intents, hdistinct, hinv.locators, hinv.calls⟩
  | purge keep =>
      refine ⟨⟨hsame.intents, hsame.completions, hsame.clock⟩,
        hinv.naturalKey, hinv.intents, hinv.completions, fun l hl => ?_, hinv.calls⟩
      exact hinv.locators l (List.mem_filter.mp hl).1

/-! ### Programs that make no call -/

/-- A program all of whose transactions are journal steps. -/
abbrev Journals (p : QQProg α) : Prop :=
  Quiet (fun _ _ => True) JournalStep (fun _ => True) p

theorem journals_pure (a : α) : Journals (pure a) := trivial

theorem journals_observe (query : QQWorld → α) : Journals (Prog.observe query) :=
  quiet_observe .same fun _ _ => trivial

theorem journals_check (c : Bool) (e : QQError) : Journals (Prog.check c e) :=
  quiet_check.mpr fun _ => trivial

theorem journals_need (row : Option α) (e : QQError) : Journals (Prog.need row e) :=
  quiet_need.mpr fun _ _ => trivial

theorem Journals.bind {p : QQProg α} {f : α → QQProg β} (hp : Journals p)
    (hf : ∀ a, Journals (f a)) : Journals (p >>= f) :=
  Quiet.bind hp fun a _ => hf a

theorem journals_recordCursor (sequence : Int) (status : CursorStatus) (sessionId : Option String) :
    Journals (recordCursor text config sequence status sessionId) := by
  unfold recordCursor getCursor
  refine (journals_observe _).bind fun current => (journals_observe _).bind fun now =>
    (journals_check _ _).bind fun _ => ?_
  intro s b s' _ htxn
  obtain ⟨-, rfl⟩ := Prod.mk.injEq .. ▸ Except.ok.inj htxn
  exact ⟨.cursor s _, trivial⟩

theorem journals_createAcknowledgementIntent (inbound : QQSandboxInboundEvent) (intake : IntakeResult) :
    Journals (createAcknowledgementIntent text config inbound intake) := by
  unfold createAcknowledgementIntent
  refine (journals_check _ _).bind fun _ => (journals_observe _).bind fun created =>
    (journals_need _ _).bind fun occurred => (journals_check _ _).bind fun _ => ?_
  intro s b s' _ htxn
  refine ⟨?_, trivial⟩
  unfold SQLiteQQSandboxJournal.insertIntent at htxn
  split at htxn
  · simp only [require_bind_eq_ok, pure, Except.pure, Except.ok.injEq, Prod.mk.injEq] at htxn
    rw [← htxn.2.2]
    exact .same s
  · simp only [fetch_bind_eq_ok, pure, Except.pure, Except.ok.injEq, Prod.mk.injEq] at htxn
    obtain ⟨intents, hintents, locators, hlocators, -, rfl⟩ := htxn
    exact .intent s rfl rfl hintents hlocators

theorem journals_accept (rawEvent : Json) (sessionId : Option String) :
    Journals (QQSandboxIntakeService.accept text config rawEvent sessionId) := by
  unfold QQSandboxIntakeService.accept
  refine (journals_observe _).bind fun received => ?_
  dsimp only
  split
  case h_2 => trivial
  case h_1 inbound _ =>
  refine Journals.bind (journals_pure inbound) fun inbound => ?_
  refine (journals_observe _).bind fun cursor => ?_
  refine Journals.bind ?_ fun _ => Journals.bind ?_ fun _ => Journals.bind ?_ fun intake => ?_
  · unfold rejectOutOfOrder hasQqReceipt
    split
    · trivial
    · split
      · exact ((journals_check _ _).bind fun _ => journals_observe _).bind fun _ => journals_check _ _
      · trivial
  · unfold rejectSequenceGap
    split
    · trivial
    · split
      · exact (journals_recordCursor _ _ _).bind fun _ => trivial
      · trivial
  · intro s b s' _ htxn
    dsimp only at htxn
    split at htxn
    · obtain ⟨-, rfl⟩ := Prod.mk.injEq .. ▸ Except.ok.inj htxn
      exact ⟨.intake s _, trivial⟩
    · cases htxn
  · exact (journals_recordCursor _ _ _).bind fun _ =>
      (journals_createAcknowledgementIntent _ _).bind fun _ => trivial

theorem journals_complete (i : QQAcknowledgementIntent) (o : QQAcknowledgementObservation) :
    Journals (complete i o) := by
  unfold complete completions observations
  refine (journals_observe _).bind fun existing => ?_
  split
  · trivial
  refine (journals_observe _).bind fun now => (journals_observe _).bind fun chain =>
    (journals_check _ _).bind fun _ => Journals.bind ?_ fun inserted => ?_
  · intro s b s' _ htxn
    refine ⟨?_, trivial⟩
    unfold SQLiteQQSandboxJournal.insertCompletion at htxn
    split at htxn
    case h_1 completions hrow =>
      obtain ⟨-, rfl⟩ := Prod.mk.injEq .. ▸ Except.ok.inj htxn
      exact .completion s hrow
    case h_2 =>
      obtain ⟨-, rfl⟩ := Prod.mk.injEq .. ▸ Except.ok.inj htxn
      exact .same s
  · split
    · trivial
    · exact (journals_observe _).bind fun _ => journals_need _ _

theorem journals_observeAndMaybeComplete (i : QQAcknowledgementIntent) (outcome : QQSendOutcome) :
    Journals (observeAndMaybeComplete i outcome) := by
  unfold observeAndMaybeComplete
  refine Journals.bind ?_ fun observation => ?_
  · intro s b s' _ htxn
    simp only [require_bind_eq_ok, fetch_bind_eq_ok, pure, Except.pure, Except.ok.injEq,
      Prod.mk.injEq] at htxn
    obtain ⟨-, observations, -, -, rfl⟩ := htxn
    exact ⟨.observation s observations, trivial⟩
  · split
    · exact (journals_complete _ _).bind fun _ => trivial
    · trivial

theorem journals_purgeExpiredLocators : Journals purgeExpiredLocators := by
  intro s b s' _ htxn
  obtain ⟨-, rfl⟩ := Prod.mk.injEq .. ▸ Except.ok.inj htxn
  exact ⟨.purge s _, trivial⟩

/-! ## Executions -/

/-- The rows that the journal's queries find. -/
theorem mem_of_intent? {s : QQWorld} {tenantId : String} {intentId : AckIntentId}
    {i : QQAcknowledgementIntent} (h : s.intent? tenantId intentId = some i) :
    i ∈ s.journal.intents ∧ i.tenantId = tenantId ∧ i.intentId = intentId := by
  have hkey := List.find?_some h
  rw [decide_eq_true_eq] at hkey
  exact ⟨List.mem_of_find?_eq_some h, hkey⟩

theorem AckInv.locator {s : QQWorld} (h : AckInv text s) {tenantId : String} {intentId : AckIntentId}
    {l : QQReplyLocator} (hl : s.locator? tenantId intentId = some l) {i : QQAcknowledgementIntent}
    (hi : i ∈ s.journal.intents) (ht : i.tenantId = tenantId) (hid : i.intentId = intentId) :
    l.sourceMessageId = i.sourceMessageId := by
  have hkey := List.find?_some hl
  rw [decide_eq_true_eq] at hkey
  obtain ⟨j, hj, htenant, hintent, hsource⟩ := h.locators l (List.mem_of_find?_eq_some hl)
  have heq : i = j := by
    refine h.eq_of_clash hi hj ?_ (Or.inr (Or.inr ?_))
    · rw [ht, ← hkey.1, htenant]
    · rw [hid, ← hkey.2, hintent]
  rw [heq]
  exact hsource

/-- A program that keeps the invariant, and whose calls are within their intents. -/
abbrev Acknowledges (text : QQText) (p : QQProg α) (k : QQWorld) : Prop :=
  Owns (fun _ _ => True) (fun s (_ : PUnit.{1}) => AckInv text s) AckGrows (fun _ _ _ => True) p 0 k

theorem Journals.acknowledges {p : QQProg α} (h : Journals p) (k : QQWorld) :
    Acknowledges text p k :=
  (Quiet.owns h (fun _ _ _ hstep hinv => hstep.keeps hinv) k).mono
    fun _ _ _ _ => trivial

/-- **A call within an intent that has been read.** -/
theorem acknowledges_callTransport {call : TransportCall} {i : QQAcknowledgementIntent} {k : QQWorld}
    (hi : i ∈ k.journal.intents) (hcalled : i.isCalledBy call = true) (hcall : CallMatches text i call)
    {Q : Unit → PUnit → QQWorld → Prop} (hQ : ∀ k', i ∈ k'.journal.intents → Q () 0 k') :
    Owns (fun _ _ => True) (fun s (_ : PUnit.{1}) => AckInv text s) AckGrows Q (callTransport call) 0 k := by
  refine owns_atomically.mpr fun s f hk hinv _ a s' htxn => ?_
  obtain ⟨rfl, rfl⟩ := Prod.mk.injEq .. ▸ Except.ok.inj htxn
  have hmem : i ∈ s.journal.intents := hk.intents.subset hi
  have hsame := AckGrows.refl s
  refine ⟨⟨hsame.intents, hsame.completions, hsame.clock⟩, 0, ?_, hQ _ hmem⟩
  refine ⟨hinv.naturalKey, hinv.intents, hinv.completions, hinv.locators, fun c hc => ?_⟩
  rcases List.mem_append.mp hc with hold | hnew
  · exact hinv.calls c hold
  · rw [List.mem_singleton.mp hnew]
    exact ⟨i, hmem, hcalled, hcall⟩

theorem acknowledges_process (intentId : AckIntentId) (active : Bool)
    (reconciled sent : TransportAnswer) (k : QQWorld) :
    Acknowledges text (process text config intentId active reconciled sent) k := by
  unfold process getIntent getLocator completions
  refine owns_bind.mpr (owns_bind.mpr (owns_observe AckGrows.refl fun s₁ _ _ _ =>
    owns_need.mpr fun i hrow => ?_))
  obtain ⟨hi, htenant, hid⟩ := mem_of_intent? hrow
  refine owns_bind.mpr (owns_observe AckGrows.refl fun s₂ _ hk₂ _ => ?_)
  have hi₂ := hk₂.intents.subset hi
  split
  · trivial
  split
  · exact (journals_observeAndMaybeComplete _ _).acknowledges _
  case isFalse hauthorized =>
  refine owns_bind.mpr (owns_observe AckGrows.refl fun s₃ _ hk₃ _ => ?_)
  have hi₃ := hk₃.intents.subset hi₂
  split
  · exact (journals_observeAndMaybeComplete _ _).acknowledges _
  refine owns_bind.mpr (owns_bind.mpr (owns_observe AckGrows.refl fun s₄ _ hk₄ hinv =>
    owns_need.mpr fun l hlocator => ?_))
  have hi₄ := hk₄.intents.subset hi₃
  by_cases hgroup : l.groupOpenid ≠ config.groupOpenid
  · rw [if_pos hgroup]
    exact (journals_observeAndMaybeComplete _ _).acknowledges _
  rw [if_neg hgroup]
  -- from here on the execution calls the transport, with what the intent and its locator say
  simp only [Bool.or_eq_true, Bool.not_eq_true', decide_eq_true_eq, not_or, ne_eq, Decidable.not_not,
    Bool.not_eq_false] at hauthorized hgroup
  obtain ⟨⟨hactive, hprofile⟩, hhash⟩ := hauthorized
  have hcalled : ∀ content, i.isCalledBy (acknowledgementCall config active i l content) = true :=
    fun content => decide_eq_true ⟨htenant.symm, rfl⟩
  have hcall : ∀ content, (∀ t, content = some t → t = ⟨i.caseId⟩) →
      CallMatches text i (acknowledgementCall config active i l content) := by
    intro content hcontent
    have hsource := hinv.locator hlocator hi₄ htenant hid
    exact ⟨hsource, rfl, hcontent, hgroup, hhash, hprofile, hactive⟩
  have hsend : Acknowledges text (reconcileThenSend config active i l reconciled sent) s₄ := ?_
  · exact hsend.bind fun outcome r k' _ => (journals_observeAndMaybeComplete _ _).acknowledges _
  unfold reconcileThenSend
  refine owns_bind.mpr (acknowledges_callTransport hi₄ (hcalled none) (hcall none nofun) fun k₅ hi₅ => ?_)
  by_cases habsent : reconciled.toOutcome.status = .absent
  · simp only [if_pos habsent]
    refine owns_bind.mpr (acknowledges_callTransport hi₅ (hcalled _) (hcall _ fun t ht => ?_) fun _ _ => ?_)
    · exact (Option.some.inj ht).symm
    · trivial
  · simp only [if_neg habsent]
    trivial

theorem acknowledges_qqProgram (op : QQOperation) (k : QQWorld) :
    Acknowledges text (qqProgram text op) k := by
  cases op with
  | accept config rawEvent sessionId =>
      exact (Journals.bind (journals_accept rawEvent sessionId) fun _ => journals_pure ()).acknowledges k
  | recordCursor config sequence status sessionId =>
      exact (Journals.bind (journals_recordCursor sequence status sessionId) fun _ =>
        journals_pure ()).acknowledges k
  | process config intentId active reconciled sent =>
      exact (acknowledges_process intentId active reconciled sent k).bind fun _ _ _ _ => trivial
  | purgeExpiredLocators => exact journals_purgeExpiredLocators.acknowledges k

/-! ## The invariant on every schedule -/

theorem ackInv_empty (text : QQText) : AckInv text .empty :=
  ⟨fun _ hi => absurd hi List.not_mem_nil, .nil, .nil, fun _ hl => absurd hl List.not_mem_nil,
    fun _ hc => absurd hc List.not_mem_nil⟩

theorem AckInv.elapse {s : QQWorld} (h : AckInv text s) (d : Nat) :
    AckGrows s (s.elapse d) ∧ AckInv text (s.elapse d) :=
  ⟨⟨List.prefix_refl _, List.prefix_refl _, Nat.le_add_right _ _⟩,
    h.naturalKey, h.intents, h.completions, h.locators, h.calls⟩

abbrev AckSound (text : QQText) (c : QQSystem) : Prop :=
  Sys.Sound (fun _ _ => True) (fun s (_ : PUnit.{1}) => AckInv text s) AckGrows (fun _ _ _ => True) c

theorem AckSound.run {c : QQSystem} (h : AckSound text c) (actions : List QQAction) :
    AckSound text (QQSystem.run text c actions) ∧
      AckGrows c.store (QQSystem.run text c actions).store := by
  refine Sys.Sound.run (g := .stores fun _ => True) AckGrows.refl AckGrows.trans (fun op s _ _ => ?_)
    (fun d s _ _ hinv => ?_) h (Sys.along_stores (fun _ => trivial) actions)
  · exact acknowledges_qqProgram op s
  · exact hinv.elapse d

theorem AckSound.inv {c : QQSystem} (h : AckSound text c) : AckInv text c.store := by
  obtain ⟨_, hinv⟩ := Sys.Sound.store h
  exact hinv

/-! ## Executions that start too late -/

section Late

variable {i : QQAcknowledgementIntent} {J : QQWorld → Prop}

/-- No call for `i` is made. -/
abbrev Silent (J : QQWorld → Prop) (i : QQAcknowledgementIntent) (p : QQProg α) : Prop :=
  Quiet (fun _ s => J s) (fun s s' => s'.callsFor i = s.callsFor i) (fun _ => True) p

theorem Journals.silent {p : QQProg α} (h : Journals p) : Silent J i p := by
  refine Quiet.mono h (fun _ _ _ => trivial) fun s s' hstep => ?_
  unfold QQWorld.callsFor
  rw [hstep.transport]

theorem silent_callTransport {call : TransportCall} (h : i.isCalledBy call = false) :
    Silent J i (callTransport call) := by
  intro s b s' _ htxn
  obtain ⟨-, rfl⟩ := Prod.mk.injEq .. ▸ Except.ok.inj htxn
  refine ⟨?_, trivial⟩
  show (s.transport ++ [call]).filter i.isCalledBy = s.transport.filter i.isCalledBy
  exact Table.filter_append_other fun c hc => by rw [List.mem_singleton.mp hc, h]

theorem silent_reconcileThenSend {active : Bool} {j : QQAcknowledgementIntent} {l : QQReplyLocator}
    (h : ∀ content, i.isCalledBy (acknowledgementCall config active j l content) = false)
    (reconciled sent : TransportAnswer) :
    Silent J i (reconcileThenSend config active j l reconciled sent) := by
  unfold reconcileThenSend
  refine Quiet.bind (silent_callTransport (h none)) fun _ _ => ?_
  by_cases habsent : reconciled.toOutcome.status = .absent
  · simp only [if_pos habsent]
    exact Quiet.bind (silent_callTransport (h _)) fun _ _ => trivial
  · simp only [if_neg habsent]
    trivial

theorem silent_getIntent {tenantId : String} {intentId : AckIntentId}
    {Q : QQAcknowledgementIntent → Prop}
    (h : ∀ s, J s → ∀ j, s.intent? tenantId intentId = some j → Q j) :
    Quiet (fun _ s => J s) (fun s s' => s'.callsFor i = s.callsFor i) Q (getIntent tenantId intentId) := by
  unfold getIntent
  have hsame : ∀ s : QQWorld, s.callsFor i = s.callsFor i := fun _ => rfl
  refine Quiet.bind (Q := fun row => ∀ j, row = some j → Q j) (quiet_observe hsame h) ?_
  intro row hrow
  exact quiet_need.mpr hrow

/-- **An execution that starts when the intent is closed makes no call for it.** `J` says that the intent is
    stored, and that it has a completion throughout or is past its deadline throughout. -/
theorem silent_process (hinv : ∀ s, J s → AckInv text s ∧ i ∈ s.journal.intents)
    (hclosed : (∀ s, J s → s.completionsOf i.tenantId i.intentId ≠ []) ∨
      ∀ s, J s → i.replyDeadlineAt ≤ s.now)
    (intentId : AckIntentId) (active : Bool) (reconciled sent : TransportAnswer) :
    Silent J i (process text config intentId active reconciled sent) := by
  have hsame : ∀ s : QQWorld, s.callsFor i = s.callsFor i := fun _ => rfl
  -- the intent that the execution reads is `i`, or shares no key with it
  have hread : ∀ s, J s → ∀ j, s.intent? config.tenantId intentId = some j →
      (j = i ∨ ∀ l content, i.isCalledBy (acknowledgementCall config active j l content) = false) ∧
        j.tenantId = config.tenantId ∧ j.intentId = intentId := by
    intro s hJ j hrow
    obtain ⟨hs, hi⟩ := hinv s hJ
    obtain ⟨hj, htenant, hid⟩ := mem_of_intent? hrow
    refine ⟨?_, htenant, hid⟩
    by_cases hcalled : config.tenantId = i.tenantId ∧ j.idempotencyKey = i.idempotencyKey
    · exact Or.inl (hs.eq_of_clash hj hi (htenant.trans hcalled.1) (Or.inr (Or.inl hcalled.2)))
    · exact Or.inr fun l content => decide_eq_false hcalled
  unfold process completions
  refine Quiet.bind (silent_getIntent hread) fun j hj => ?_
  obtain ⟨hread, htenant, hid⟩ := hj
  refine Quiet.bind (quiet_observe hsame (Q := fun rows => j = i →
    (∀ s, J s → s.completionsOf i.tenantId i.intentId ≠ []) → rows ≠ []) fun s hJ heq hdone => ?_)
    fun rows hrows => ?_
  · subst heq
    rw [← htenant, ← hid]
    exact hdone s hJ
  split
  · trivial
  split
  · exact (journals_observeAndMaybeComplete _ _).silent
  refine Quiet.bind (quiet_observe hsame (Q := fun now => j = i →
    (∀ s, J s → i.replyDeadlineAt ≤ s.now) → i.replyDeadlineAt ≤ now) fun s hJ _ hlate => hlate s hJ)
    fun now hnow => ?_
  split
  · exact (journals_observeAndMaybeComplete _ _).silent
  case isFalse hearly =>
  have hother : ∀ l content, i.isCalledBy (acknowledgementCall config active j l content) = false := by
    refine hread.resolve_left fun heq => ?_
    rcases hclosed with hdone | hlate
    · exact hrows heq hdone rfl
    · exact hearly (heq ▸ hnow heq hlate)
  have hlocator : Journals (getLocator config.tenantId intentId) :=
    (journals_observe _).bind fun row => journals_need row _
  refine Quiet.bind hlocator.silent fun l _ => ?_
  by_cases hgroup : l.groupOpenid ≠ config.groupOpenid
  · rw [if_pos hgroup]
    exact (journals_observeAndMaybeComplete _ _).silent
  rw [if_neg hgroup]
  exact Quiet.bind (silent_reconcileThenSend (hother l) reconciled sent) fun _ _ =>
    (journals_observeAndMaybeComplete _ _).silent

theorem silent_qqProgram (hinv : ∀ s, J s → AckInv text s ∧ i ∈ s.journal.intents)
    (hclosed : (∀ s, J s → s.completionsOf i.tenantId i.intentId ≠ []) ∨
      ∀ s, J s → i.replyDeadlineAt ≤ s.now) (op : QQOperation) :
    Silent J i (qqProgram text op) := by
  cases op with
  | accept config rawEvent sessionId =>
      exact Journals.silent (Journals.bind (journals_accept rawEvent sessionId) fun _ => journals_pure ())
  | recordCursor config sequence status sessionId =>
      exact Journals.silent (Journals.bind (journals_recordCursor sequence status sessionId) fun _ =>
        journals_pure ())
  | process config intentId active reconciled sent =>
      exact Quiet.bind (silent_process hinv hclosed intentId active reconciled sent) fun _ _ => trivial
  | purgeExpiredLocators => exact journals_purgeExpiredLocators.silent

end Late

theorem completionsOf_grows {s s' : QQWorld} (h : AckGrows s s') (tenantId : String)
    (intentId : AckIntentId) : s.completionsOf tenantId intentId <+: s'.completionsOf tenantId intentId :=
  h.completions.filter _

/-- **Threads that start when the intent is closed never call the transport for it.** -/
theorem AckSound.silent {c : QQSystem} (h : AckSound text c) {i : QQAcknowledgementIntent}
    (hi : i ∈ c.store.journal.intents) (hclosed : c.store.closed i = true) (later : List QQAction)
    {n : Nat} (hn : c.threads.length ≤ n) :
    ((QQSystem.run text c later).advance n).store.callsFor i =
      (QQSystem.run text c later).store.callsFor i := by
  have hrun : ∀ as : List QQAction, AckInv text (QQSystem.run text c as).store ∧
      AckGrows c.store (QQSystem.run text c as).store := fun as => ⟨(h.run as).1.inv, (h.run as).2⟩
  have hstored : ∀ as : List QQAction, i ∈ (QQSystem.run text c as).store.journal.intents := fun as =>
    (hrun as).2.intents.subset hi
  rcases Bool.or_eq_true _ _ ▸ hclosed with hdone | hlate
  · have hne : c.store.completionsOf i.tenantId i.intentId ≠ [] := by simpa using hdone
    have hJ : ∀ as : List QQAction, ((AckInv text (QQSystem.run text c as).store ∧
        i ∈ (QQSystem.run text c as).store.journal.intents) ∧
        (QQSystem.run text c as).store.completionsOf i.tenantId i.intentId ≠ []) := fun as =>
      ⟨⟨(hrun as).1, hstored as⟩, fun hnil => hne
        (List.prefix_nil.mp (hnil ▸ completionsOf_grows (hrun as).2 _ _))⟩
    have hquiet := Sys.QuietFrom.run (g := .stores fun s => (AckInv text s ∧ i ∈ s.journal.intents) ∧
        s.completionsOf i.tenantId i.intentId ≠ [])
      (fun op _ => silent_qqProgram (fun _ hs => hs.1) (Or.inl fun _ hs => hs.2) op)
      c.quietFrom_length (fun _ => rfl) (Sys.along_stores hJ later)
    exact (hquiet.advance (fun _ => rfl) fun _ _ => hJ later).2 hn
  · have hJ : ∀ as : List QQAction, ((AckInv text (QQSystem.run text c as).store ∧
        i ∈ (QQSystem.run text c as).store.journal.intents) ∧
        i.replyDeadlineAt ≤ (QQSystem.run text c as).store.now) := fun as =>
      ⟨⟨(hrun as).1, hstored as⟩, Nat.le_trans (of_decide_eq_true hlate) (hrun as).2.clock⟩
    have hquiet := Sys.QuietFrom.run (g := .stores fun s => (AckInv text s ∧ i ∈ s.journal.intents) ∧
        i.replyDeadlineAt ≤ s.now)
      (fun op _ => silent_qqProgram (fun _ hs => hs.1) (Or.inr fun _ hs => hs.2) op)
      c.quietFrom_length (fun _ => rfl) (Sys.along_stores hJ later)
    exact (hquiet.advance (fun _ => rfl) fun _ _ => hJ later).2 hn

/-- **Acknowledgements are idempotent and bounded.** On every schedule there is one intent for a case
    revision and at most one completion, every call is within its intent, and no execution that starts
    after an intent is closed calls the transport for it. -/
theorem acknowledgement_bounded (text : QQText) (actions later : List QQAction) :
    let c := QQSystem.run text .idle actions
    let d := QQSystem.run text c later
    AckBounded text c.store ∧ c.store.journal.intents <+: d.store.journal.intents ∧
    ∀ i ∈ c.store.journal.intents, c.store.closed i = true →
      ∀ n ≥ c.threads.length, (d.advance n).store.callsFor i = d.store.callsFor i := by
  intro c d
  have hsound : AckSound text c := (AckSound.run (Sys.sound_idle (ackInv_empty text)) actions).1
  refine ⟨hsound.inv.bounded, (hsound.run later).2.intents, fun i hi hclosed n hn => ?_⟩
  exact hsound.silent hi hclosed later hn

/-! ## What an execution no longer knows -/

/-- A mention has been taken in, and its intent stored. -/
def acknowledgedMention : QQSystem :=
  QQSystem.run qqTextExample .idle
    ([.disturb 1767225600000000, .start (.accept qqConfigExample (mentionFrame 1) (some "a"))] ++
      List.replicate 12 (.advance 0))

/-- Executions of `config` for every stored intent: nothing is there yet, and the reply is accepted. -/
def executions (config : QQSandboxConfig) : List QQAction :=
  acknowledgedMention.store.journal.intents.map fun i =>
    .start (.process config i.intentId true (.outcome ⟨.absent, "qq_reply_absent", none⟩)
      (.outcome ⟨.accepted, "qq_reply_accepted", some "p"⟩))

/-- An execution past its checks, while another one completes the acknowledgement. -/
def overtaken : QQSystem :=
  QQSystem.run qqTextExample acknowledgedMention
    (executions qqConfigExample ++ executions qqConfigExample ++
      List.replicate 4 (.advance 1) ++ List.replicate 11 (.advance 2))

/-- An execution past its checks, while the reply window runs out. -/
def outlasted : QQSystem :=
  QQSystem.run qqTextExample acknowledgedMention
    (executions qqConfigExample ++ List.replicate 4 (.advance 1) ++ [.disturb passiveReplyWindow])

/-- An execution of another application with the same group and capabilities. -/
def otherApplication : QQSystem :=
  QQSystem.run qqTextExample acknowledgedMention
    (executions { qqConfigExample with appId := "other" } ++ List.replicate 5 (.advance 1))

/-- The transport is called after the completion, after the deadline, and by another application. -/
theorem acknowledgement_race_example :
    (∃ i ∈ overtaken.store.journal.intents,
      overtaken.store.completionsOf i.tenantId i.intentId ≠ [] ∧
      (overtaken.store.callsFor i).length < ((overtaken.advance 1).store.callsFor i).length) ∧
    (∃ i ∈ outlasted.store.journal.intents, i.replyDeadlineAt ≤ outlasted.store.now ∧
      (outlasted.store.callsFor i).length < ((outlasted.advance 1).store.callsFor i).length) ∧
    ∃ call ∈ otherApplication.store.transport,
      call.controller.appIdHash qqTextExample ≠ qqConfigExample.appIdHash qqTextExample := by
  decide +kernel

end WeFlow
