import Mathlib.Algebra.Group.Pi.Basic
import Mathlib.Algebra.GroupWithZero.Nat
import WeFlow.Handler.Step

/-!
# `Notification` — a handler is notified at most once

An attempt is claimed in one transaction and made after it, so a claim is a right to one send. The right is
owned by the call that claimed the attempt: sends and rights together never exceed the claims, and an
attempt is claimed once and never given up. A call that finds a claimed attempt without a result records
`unknown` and makes no send of its own.

## Contents

* `HandlerWorld.sends` — how often an intent has been sent.
* `NotificationInv`, `NotificationGrows` — the invariant, and what stays true.
* `notification_at_most_once` — the result for every run.
-/

namespace WeFlow

open Txn SQLiteQQHandlerJournal

/-! ## Sends and claims -/

/-- The intent that a call of the transport sends. -/
def HandlerCall.notificationId : HandlerCall → Option HandlerIntentId
  | .notifyC2c _ _ key => some (stableIdentifier key.preimage.naturalKey)
  | _ => none

/-- The identifier of the notification intent of a case and a binding. -/
def notificationIntentId (caseId : String) (id : HandlerBindingId) : HandlerIntentId :=
  stableIdentifier (sha256 (.notification caseId id))

namespace HandlerWorld

/-- How often an intent has been sent. -/
def sends (s : HandlerWorld) (id : HandlerIntentId) : Nat :=
  s.transport.countP fun call => call.notificationId = some id

/-- How often an attempt at an intent has been claimed. -/
def claims (s : HandlerWorld) (id : HandlerIntentId) : Nat := (s.attempt? id).isSome.toNat

variable {s : HandlerWorld} {id : HandlerIntentId}

theorem sends_append {call : HandlerCall} :
    { s with transport := s.transport ++ [call] }.sends id =
      s.sends id + if call.notificationId = some id then 1 else 0 := by
  simp [sends, List.countP_append, List.countP_singleton]

theorem attempt?_id {a : HandlerNotificationAttempt} (h : s.attempt? id = some a) :
    a ∈ s.attempts ∧ a.intentId = id := by
  have hkey := List.find?_some h
  rw [decide_eq_true_eq] at hkey
  exact ⟨List.mem_of_find?_eq_some h, hkey⟩

/-- An attempt that is updated in place is found with its update. -/
theorem attempt?_modify {s' : HandlerWorld} {p : HandlerNotificationAttempt → Bool}
    {result : HandlerNotificationResult}
    (h : s'.attempts = Table.modify p (setResult result) s.attempts) (id : HandlerIntentId) :
    s'.attempt? id = (s.attempt? id).map fun a => if p a then setResult result a else a := by
  have hid : ∀ a, decide ((setResult result a).intentId = id) = decide (a.intentId = id) :=
    fun _ => rfl
  rw [attempt?, h]
  exact Table.find?_modify hid s.attempts

theorem attempt?_append {s' : HandlerWorld} {a : HandlerNotificationAttempt}
    (h : s'.attempts = s.attempts ++ [a]) (id : HandlerIntentId) :
    s'.attempt? id = (s.attempt? id).or (if a.intentId = id then some a else none) := by
  rw [attempt?, h, List.find?_append]
  by_cases hid : a.intentId = id <;> simp [hid, attempt?]

end HandlerWorld

/-! ## The invariant -/

/-- An attempt was made of a stored intent whose content is minimal. -/
def HandlerNotificationAttempt.Justified (text : HandlerText) (s : HandlerWorld)
    (a : HandlerNotificationAttempt) : Prop :=
  ∃ i ∈ s.notificationIntents, i.intentId = a.intentId ∧
    notificationMinimal text (notificationContent i.caseId i.workflowVersion) = true

/-- **The invariant**: `r id` is the number of sends of `id` that the running calls have a right to. -/
structure NotificationInv (setup : HandlerSetup) (s : HandlerWorld) (r : HandlerIntentId → Nat) :
    Prop where
  genuine : s.Genuine setup
  intents : Table.Distinct HandlerNotificationIntent.clash s.notificationIntents
  attempts : ∀ a ∈ s.attempts, a.Justified setup.text s
  results : ∀ a ∈ s.attempts, ∀ result, a.result = some result → result.intentId = a.intentId
  sends : ∀ id, s.sends id + r id ≤ s.claims id

/-- What stays: stored intents, claimed attempts, and their results. -/
structure NotificationGrows (s s' : HandlerWorld) : Prop where
  intents : ∀ i ∈ s.notificationIntents, i ∈ s'.notificationIntents
  attempts : ∀ id a, s.attempt? id = some a →
    ∃ a', s'.attempt? id = some a' ∧ (a.result.isSome → a' = a)

theorem NotificationGrows.refl (s : HandlerWorld) : NotificationGrows s s :=
  ⟨fun _ hi => hi, fun _ a ha => ⟨a, ha, fun _ => rfl⟩⟩

theorem NotificationGrows.trans (a b c : HandlerWorld) (hab : NotificationGrows a b)
    (hbc : NotificationGrows b c) : NotificationGrows a c := by
  refine ⟨fun i hi => hbc.intents i (hab.intents i hi), fun id x hx => ?_⟩
  obtain ⟨y, hy, hxy⟩ := hab.attempts id x hx
  obtain ⟨z, hz, hyz⟩ := hbc.attempts id y hy
  refine ⟨z, hz, fun hresult => ?_⟩
  have heq := hxy hresult
  rw [hyz (heq ▸ hresult), heq]

theorem NotificationGrows.claims {s s' : HandlerWorld} (h : NotificationGrows s s')
    (id : HandlerIntentId) : s.claims id ≤ s'.claims id := by
  unfold HandlerWorld.claims
  cases ha : s.attempt? id with
  | none => exact Nat.zero_le _
  | some a =>
      obtain ⟨a', ha', -⟩ := h.attempts id a ha
      rw [ha']
      exact Nat.le_refl _

/-- An attempt stays justified. -/
theorem NotificationGrows.justified {s s' : HandlerWorld} (h : NotificationGrows s s')
    {text : HandlerText} {a b : HandlerNotificationAttempt} (ha : a.Justified text s)
    (hid : b.intentId = a.intentId) : b.Justified text s' := by
  obtain ⟨i, hi, hia, hminimal⟩ := ha
  exact ⟨i, h.intents i hi, hia.trans hid.symm, hminimal⟩

/-- Nothing that stays is touched. -/
theorem NotificationGrows.of_eq {s s' : HandlerWorld}
    (hintents : s'.notificationIntents = s.notificationIntents) (hattempts : s'.attempts = s.attempts) :
    NotificationGrows s s' := by
  refine ⟨fun i hi => hintents ▸ hi, fun id a ha => ⟨a, ?_, fun _ => rfl⟩⟩
  rw [HandlerWorld.attempt?, hattempts]
  exact ha

/-- Results are recorded on attempts that have none. -/
theorem NotificationGrows.of_modify {s s' : HandlerWorld} {p : HandlerNotificationAttempt → Bool}
    {result : HandlerNotificationResult}
    (hintents : s'.notificationIntents = s.notificationIntents)
    (hattempts : s'.attempts = Table.modify p (setResult result) s.attempts)
    (hp : ∀ id a, s.attempt? id = some a → p a = true → a.result = none) : NotificationGrows s s' := by
  refine ⟨fun i hi => hintents ▸ hi, fun id a ha =>
    ⟨if p a then setResult result a else a, ?_, fun hresult => ?_⟩⟩
  · rw [HandlerWorld.attempt?_modify hattempts, ha, Option.map_some]
  · refine if_neg fun hpa => ?_
    rw [hp id a ha hpa] at hresult
    cases hresult

section Steps

variable {setup : HandlerSetup} {V : HandlerView} {s s' : HandlerWorld} {r : HandlerIntentId → Nat}

/-- An update of attempts keeps the invariant. -/
theorem NotificationInv.modify (hinv : NotificationInv setup s r) {p : HandlerNotificationAttempt → Bool}
    {result : HandlerNotificationResult} (hgenuine : s'.Genuine setup)
    (hintents : s'.notificationIntents = s.notificationIntents)
    (hattempts : s'.attempts = Table.modify p (setResult result) s.attempts)
    (hresult : ∀ a, p a = true → result.intentId = a.intentId)
    (htransport : s'.transport = s.transport) (hgrows : NotificationGrows s s') :
    NotificationInv setup s' r := by
  refine ⟨hgenuine, hintents ▸ hinv.intents, fun a ha => ?_, fun a ha x hx => ?_, fun id => ?_⟩
  · rw [hattempts] at ha
    obtain ⟨b, hb, rfl⟩ := Table.mem_modify.mp ha
    refine hgrows.justified (hinv.attempts b hb) ?_
    by_cases hp : p b = true
    · rw [if_pos hp]
      rfl
    · rw [if_neg hp]
  · rw [hattempts] at ha
    obtain ⟨b, hb, rfl⟩ := Table.mem_modify.mp ha
    by_cases hp : p b = true
    · rw [if_pos hp] at hx ⊢
      exact Option.some.inj hx ▸ hresult b hp
    · rw [if_neg hp] at hx ⊢
      exact hinv.results b hb x hx
  · have hsends : s'.sends id = s.sends id := by
      rw [HandlerWorld.sends, htransport]
      rfl
    rw [hsends]
    exact (hinv.sends id).trans (hgrows.claims id)

/-- **A step of a call that sends no notification.** -/
theorem HandlerStep.keepsNotifications (h : HandlerStep setup V s s')
    (hop : ∀ op, V.op op → op.executes ≠ some .notification) (hinv : NotificationInv setup s r) :
    NotificationGrows s s' ∧ NotificationInv setup s' r := by
  have hgenuine := h.genuine hinv.genuine
  have hsilent : ∀ call : HandlerCall, call.notificationId = none → ∀ id,
      { s with transport := s.transport ++ [call] }.sends id = s.sends id := by
    intro call hcall id
    rw [HandlerWorld.sends_append, hcall, if_neg nofun, Nat.add_zero]
  have hother : ∀ {i : HandlerNotificationIntent}, ¬ V.Notifies i := by
    rintro i ⟨-, intentId, id, answer, hnotifies⟩
    exact hop _ hnotifies rfl
  cases h with
  | @notificationIntent intent hi hfresh =>
      have hgrows : NotificationGrows s
          { s with notificationIntents := s.notificationIntents ++ [intent] } :=
        ⟨fun i hi => List.mem_append_left _ hi, fun _ a ha => ⟨a, ha, fun _ => rfl⟩⟩
      exact ⟨hgrows, hgenuine, hinv.intents.append_one hfresh,
        fun a ha => hgrows.justified (hinv.attempts a ha) rfl, hinv.results, hinv.sends⟩
  | claimed hi | notified hi | recovered hi | outcomeRecorded hi => exact absurd hi hother
  | reconciled | replied =>
      refine ⟨.of_eq rfl rfl, hgenuine, hinv.intents, hinv.attempts, hinv.results, fun id => ?_⟩
      rw [hsilent _ rfl]
      exact hinv.sends id
  | _ => exact ⟨.of_eq rfl rfl, hgenuine, hinv.intents, hinv.attempts, hinv.results, hinv.sends⟩

end Steps

/-! ## The execution of an intent -/

section Execution

variable {setup : HandlerSetup} {g : HandlerGuard} {intent : HandlerNotificationIntent}
  {binding : QQHandlerBinding} {k : HandlerWorld}

/-- An outcome is recorded on an attempt that has no other one. -/
def HandlerGuard.RecordsOnce (g : HandlerGuard) : Prop :=
  ∀ (intent : HandlerNotificationIntent) (result : HandlerNotificationResult) s,
    g.txn ⟨recordNotification intent result⟩ s → ∀ a r, s.attempt? intent.intentId = some a →
      a.result = some r → r = result

/-- A reported outcome is the outcome of an attempt that has one: this one, where it is recorded once. -/
def Reported (g : HandlerGuard) (result : HandlerNotificationResult) (_ : HandlerIntentId → Nat)
    (s : HandlerWorld) : Prop :=
  ∃ a r, s.attempt? result.intentId = some a ∧ a.result = some r ∧ (g.RecordsOnce → r = result)

theorem HandlerNotificationIntent.Genuine.notificationId (h : intent.Genuine setup)
    (userOpenid content : String) :
    (HandlerCall.notifyC2c userOpenid content intent.idempotencyKey).notificationId =
      some intent.intentId := by
  obtain ⟨c, b, created, rfl⟩ := h
  rfl

/-- **The send uses up the right to it.** -/
theorem NotificationInv.send {s : HandlerWorld} {f : HandlerIntentId → Nat}
    (hinv : NotificationInv setup s (Pi.single intent.intentId 1 + f)) (hi : intent.Genuine setup)
    (userOpenid content : String) :
    NotificationInv setup
      { s with transport := s.transport ++ [.notifyC2c userOpenid content intent.idempotencyKey] }
      (0 + f) := by
  have hg := hinv.genuine
  refine ⟨⟨hg.bindings, hg.notificationIntents, hg.passiveIntents⟩, hinv.intents, hinv.attempts,
    hinv.results, fun id => ?_⟩
  have hbound := hinv.sends id
  rw [HandlerWorld.sends_append, hi.notificationId]
  show s.sends id + (if some intent.intentId = some id then 1 else 0) + (0 + f id) ≤ s.claims id
  by_cases hid : intent.intentId = id
  · subst hid
    rw [Pi.add_apply, Pi.single_eq_same] at hbound
    rw [if_pos rfl]
    omega
  · rw [Pi.add_apply, Pi.single_eq_of_ne' hid] at hbound
    rw [if_neg fun h => hid (Option.some.inj h)]
    omega

/-- **A claim is a right to one send.** -/
theorem NotificationInv.claim {s : HandlerWorld} {f : HandlerIntentId → Nat}
    (hinv : NotificationInv setup s (0 + f)) (hstored : intent ∈ s.notificationIntents)
    (hminimal : notificationMinimal setup.text
      (notificationContent intent.caseId intent.workflowVersion) = true)
    (hnone : s.attempt? intent.intentId = none) {s' : HandlerWorld}
    (hs' : s' = { s with attempts := s.attempts ++ [⟨intent.intentId, s.now, none⟩] }) :
    NotificationGrows s s' ∧ NotificationInv setup s' (Pi.single intent.intentId 1 + f) := by
  have hattempt : ∀ id, s'.attempt? id = (s.attempt? id).or
      (if intent.intentId = id then some ⟨intent.intentId, s.now, none⟩ else none) := by
    have happend : s'.attempts = s.attempts ++ [⟨intent.intentId, s.now, none⟩] := by rw [hs']
    exact HandlerWorld.attempt?_append happend
  have hgrows : NotificationGrows s s' := by
    refine ⟨fun i hi => hs' ▸ hi, fun id a ha => ⟨a, ?_, fun _ => rfl⟩⟩
    rw [hattempt, ha, Option.some_or]
  refine ⟨hgrows, ?_, ?_, fun a ha => ?_, fun a ha x hx => ?_, fun id => ?_⟩
  · subst hs'
    exact ⟨hinv.genuine.bindings, hinv.genuine.notificationIntents, hinv.genuine.passiveIntents⟩
  · subst hs'
    exact hinv.intents
  · rw [hs'] at ha
    rcases List.mem_append.mp ha with ha | ha
    · exact hgrows.justified (hinv.attempts a ha) rfl
    · obtain rfl := List.mem_singleton.mp ha
      exact ⟨intent, hgrows.intents _ hstored, rfl, hminimal⟩
  · rw [hs'] at ha
    rcases List.mem_append.mp ha with ha | ha
    · exact hinv.results a ha x hx
    · obtain rfl := List.mem_singleton.mp ha
      cases hx
  · have hbound := hinv.sends id
    have hsends : s'.sends id = s.sends id := by
      subst hs'
      rfl
    rw [hsends]
    by_cases hid : intent.intentId = id
    · subst hid
      have hclaims : s.claims intent.intentId = 0 := by rw [HandlerWorld.claims, hnone]; rfl
      have hclaims' : s'.claims intent.intentId = 1 := by
        rw [HandlerWorld.claims, hattempt, hnone, if_pos rfl]
        rfl
      rw [Pi.add_apply, Pi.single_eq_same, hclaims']
      rw [Pi.add_apply, hclaims] at hbound
      omega
    · rw [Pi.add_apply, Pi.single_eq_of_ne' hid]
      exact hbound.trans (hgrows.claims id)

/-- An attempt that is given a result, unless it has one, has one. -/
theorem reported_modify {s s' : HandlerWorld} {id : HandlerIntentId} {result : HandlerNotificationResult}
    {a : HandlerNotificationAttempt}
    (hattempts : s'.attempts = Table.modify (fun a => a.intentId = id ∧ a.result.isNone)
      (setResult result) s.attempts) (ha : s.attempt? id = some a) :
    ∃ a' r, s'.attempt? id = some a' ∧ a'.result = some r ∧ (r = result ∨ a.result = some r) := by
  have hfound := HandlerWorld.attempt?_modify hattempts id
  rw [ha, Option.map_some] at hfound
  have hid := (HandlerWorld.attempt?_id ha).2
  cases hr : a.result with
  | none =>
      rw [if_pos (decide_eq_true ⟨hid, Option.isNone_iff_eq_none.mpr hr⟩)] at hfound
      exact ⟨_, result, hfound, rfl, .inl rfl⟩
  | some r =>
      rw [if_neg fun h => by simp [hr] at h] at hfound
      exact ⟨a, r, hfound, hr, .inr rfl⟩

theorem owns_sendNotification (hi : intent.Genuine setup)
    (hclaimed : (k.attempt? intent.intentId).isSome) (userOpenid content : String)
    (answer : ProviderAnswer) :
    Owns g.txn (NotificationInv setup) NotificationGrows (Reported g)
      (sendNotification setup.text intent userOpenid content answer) (Pi.single intent.intentId 1) k := by
  refine owns_bind.mpr (owns_atomically.mpr fun s f hk hinv _ _ s' htxn => ?_)
  obtain ⟨-, rfl⟩ := Prod.mk.injEq .. ▸ Except.ok.inj htxn
  have hgrows : NotificationGrows s { s with transport := s.transport ++
      [.notifyC2c userOpenid content intent.idempotencyKey] } := .of_eq rfl rfl
  refine ⟨hgrows, 0, hinv.send hi userOpenid content, ?_⟩
  have hkept := hk.trans _ _ _ hgrows
  refine owns_bind.mpr (owns_observe .refl fun s₁ f₁ hk₁ _ => ?_)
  refine owns_bind.mpr (owns_atomically.mpr fun s₂ f₂ hk₂ hinv₂ hA _ s₃ htxn => ?_)
  obtain ⟨attempts, events, rfl, hattempts, -⟩ := recordNotification_ok htxn
  have hgrows₂ : NotificationGrows s₂ { s₂ with attempts, events } :=
    .of_modify rfl hattempts fun _ _ _ hp => Option.isNone_iff_eq_none.mp (of_decide_eq_true hp).2
  have hgenuine₃ : ({ s₂ with attempts, events } : HandlerWorld).Genuine setup :=
    ⟨hinv₂.genuine.bindings, hinv₂.genuine.notificationIntents, hinv₂.genuine.passiveIntents⟩
  have hresult : ∀ a : HandlerNotificationAttempt,
      decide (a.intentId = intent.intentId ∧ a.result.isNone) = true → intent.intentId = a.intentId :=
    fun a ha => (of_decide_eq_true ha).1.symm
  refine ⟨hgrows₂, 0, hinv₂.modify hgenuine₃ rfl hattempts hresult rfl hgrows₂, ?_⟩
  -- the attempt claimed before the send is still there, and has a result now
  obtain ⟨a, ha⟩ := Option.isSome_iff_exists.mp hclaimed
  obtain ⟨a₂, ha₂, -⟩ := (hkept.trans _ _ _ (hk₁.trans _ _ _ hk₂)).attempts _ a ha
  have hafter : ({ s₂ with attempts, events } : HandlerWorld).attempts = _ := hattempts
  obtain ⟨a₃, r, ha₃, hr, hfrom⟩ := reported_modify hafter ha₂
  exact ⟨a₃, r, ha₃, hr, fun honce => hfrom.elim id (honce _ _ _ hA _ _ ha₂)⟩

theorem owns_executeNotification (hi : intent.Genuine setup) (hstored : intent ∈ k.notificationIntents)
    (answer : ProviderAnswer) :
    Owns g.txn (NotificationInv setup) NotificationGrows (Reported g)
      (executeNotification setup.text intent binding answer) 0 k := by
  have hlocator : Owns g.txn (NotificationInv setup) NotificationGrows
      (fun _ r' k' => r' = 0 ∧ intent ∈ k'.notificationIntents)
      (privateLocator binding.handlerBindingId) 0 k := by
    have hsteps : Steps setup (g.viewOf fun _ => False) (privateLocator binding.handlerBindingId) :=
      steps_privateLocator _
    refine ((hsteps.owns (fun s s' r hstep hinv => ?_) k).since .refl .trans).mono
      fun _ r' k' hend => ⟨hend.1.2, hend.2.intents _ hstored⟩
    exact hstep.keepsNotifications (fun _ h => h.elim) hinv
  refine hlocator.bind fun userOpenid r' k' hend => ?_
  obtain ⟨rfl, hstored'⟩ := hend
  refine owns_bind.mpr (owns_check.mpr fun hminimal => ?_)
  refine owns_bind.mpr (owns_atomically.mpr fun s f hk hinv _ claimed s' htxn => ?_)
  obtain ⟨a, result, ha, hresult, rfl, rfl⟩ | ⟨a, ha, hnone, result, attempts, events, hresult,
    hattempts, -, rfl, rfl⟩ | ⟨hnone, rfl, rfl⟩ := claimAttempt_ok htxn
  · have hid : result.intentId = intent.intentId :=
      (hinv.results a (HandlerWorld.attempt?_id ha).1 result hresult).trans (HandlerWorld.attempt?_id ha).2
    exact ⟨.refl _, 0, hinv, a, result, by rw [hid, ha], hresult, fun _ => rfl⟩
  · have hgrows : NotificationGrows s { s with attempts, events } := by
      refine .of_modify rfl hattempts fun id b hb hp => ?_
      have hid := (HandlerWorld.attempt?_id hb).2
      rw [← hid, of_decide_eq_true hp, ha] at hb
      exact Option.some.inj hb ▸ hnone
    have hgenuine' : ({ s with attempts, events } : HandlerWorld).Genuine setup :=
      ⟨hinv.genuine.bindings, hinv.genuine.notificationIntents, hinv.genuine.passiveIntents⟩
    refine ⟨hgrows, 0, hinv.modify hgenuine' rfl hattempts
      (fun b hb => hresult ▸ (of_decide_eq_true hb).symm) rfl hgrows, ?_⟩
    have hid : result.intentId = intent.intentId := by
      rw [hresult]
      rfl
    have hafter : ({ s with attempts, events } : HandlerWorld).attempts = Table.modify
      (fun a => a.intentId = intent.intentId) (setResult result) s.attempts := hattempts
    have hfound := HandlerWorld.attempt?_modify hafter intent.intentId
    rw [ha, Option.map_some, if_pos (decide_eq_true (HandlerWorld.attempt?_id ha).2)] at hfound
    refine ⟨setResult result a, result, ?_, rfl, fun _ => rfl⟩
    rw [hid]
    exact hfound
  · obtain ⟨hgrows, hinv'⟩ := hinv.claim (hk.intents _ hstored') hminimal hnone rfl
    refine ⟨hgrows, _, hinv', owns_sendNotification hi ?_ _ _ _⟩
    rw [HandlerWorld.attempt?_append rfl, hnone]
    simp

/-- A reply that reports a notification reports one that is recorded. -/
def NotificationReply (g : HandlerGuard) (reply : HandlerReply) (r : HandlerIntentId → Nat)
    (s : HandlerWorld) : Prop :=
  ∀ result, reply = .notified result → Reported g result r s

/-- **Every operation keeps the invariant**, and starts with no right to send. -/
theorem owns_notifications (op : HandlerOp) :
    Owns g.txn (NotificationInv setup) NotificationGrows (NotificationReply g)
      (HandlerOp.prog setup op) 0 k := by
  have hsilent : ∀ op : HandlerOp, op.executes ≠ some .notification →
      Owns g.txn (NotificationInv setup) NotificationGrows (NotificationReply g)
        (HandlerOp.prog setup op) 0 k := by
    intro op hother
    have hsteps : Steps setup (g.viewOf (· = op)) (HandlerOp.prog setup op) :=
      HandlerOp.prog_steps (g.viewOf_sighted _) rfl
    have howns : Owns g.txn (NotificationInv setup) NotificationGrows
        (fun reply r' _ => (True ∧ reply.executed = op.executes) ∧ r' = 0) (HandlerOp.prog setup op) 0 k := by
      refine Quiet.owns (I := NotificationInv setup) (hsteps.and op.prog_replies)
        (fun s s' r hstep hinv => hstep.1.keepsNotifications ?_ hinv) k
      rintro o rfl
      exact hother
    refine howns.mono fun reply r s hend => ?_
    intro result hreply
    refine absurd ?_ hother
    rw [← hend.1.2, hreply]
    rfl
  cases op with
  | executeNotification id bindingId answer =>
      have hheld : Owns g.txn (NotificationInv setup) NotificationGrows
          (fun intent r' k' => r' = 0 ∧ intent.Genuine setup ∧ intent ∈ k'.notificationIntents)
          (HandlerOp.heldNotification id) 0 k := by
        refine owns_bind.mpr (owns_observe .refl fun s f _ hinv => owns_need.mpr fun intent hrow => ?_)
        have hstored := List.mem_of_find?_eq_some hrow
        exact ⟨rfl, hinv.genuine.notificationIntents _ hstored, hstored⟩
      refine hheld.bind fun intent r₁ k₁ hend => ?_
      obtain ⟨rfl, hi, hstored⟩ := hend
      have hbinding : Owns g.txn (NotificationInv setup) NotificationGrows
          (fun _ r' k' => r' = 0 ∧ intent ∈ k'.notificationIntents)
          (HandlerOp.heldBinding bindingId) 0 k₁ := by
        have hsteps : Steps setup (g.viewOf fun _ => False) (HandlerOp.heldBinding bindingId) :=
          (stepwise_heldBinding (g.viewOf_sighted _) bindingId).weaken fun _ _ => trivial
        refine ((hsteps.owns (fun s s' r hstep hinv => ?_) k₁).since .refl .trans).mono
          fun _ r' k' hend => ⟨hend.1.2, hend.2.intents _ hstored⟩
        exact hstep.keepsNotifications (fun _ h => h.elim) hinv
      refine hbinding.bind fun b r₂ k₂ hend => ?_
      obtain ⟨rfl, hstored₂⟩ := hend
      refine (owns_executeNotification hi hstored₂ answer).bind fun result r₃ k₃ hend => ?_
      intro result' hreply
      cases hreply
      exact hend
  | confirmBinding | revokeBinding | createIssue | createNotification | createGroupNudge
  | privateEvent | assistEvent | groupApproval | executePassiveReply | deleteExpiredArtifacts =>
      exact hsilent _ nofun

/-- **Recovery of a started attempt**: what is recorded is `unknown`, and no call is made. -/
theorem executeNotification_recovers {s : HandlerWorld} {a : HandlerNotificationAttempt}
    {l : HandlerPrivateLocator} (ha : s.attempt? intent.intentId = some a) (hnone : a.result = none)
    (hminimal : notificationMinimal setup.text
      (notificationContent intent.caseId intent.workflowVersion) = true)
    (hl : s.locator? binding.handlerBindingId = some l) (hactive : l.active = true)
    (hexpiry : s.now < l.expiresAt) (answer : ProviderAnswer) :
    ∃ result s', (executeNotification setup.text intent binding answer).eval s = (.ok result, s') ∧
      result.status = .unknown ∧
      s'.attempt? intent.intentId = some { a with result := some result } ∧
      s'.transport = s.transport := by
  have hlocator : (privateLocator binding.handlerBindingId).eval s = (.ok l.providerLocator, s) := by
    simp [privateLocator, Prog.eval_bind, hl, hactive, hexpiry]
  obtain ⟨r, s', htxn⟩ : ∃ r s', claimAttempt setup.text intent s = .ok (r, s') := by
    simp [claimAttempt, ha, hnone]
  obtain ⟨_, _, ha', hresult', -⟩ | ⟨b, hb, -, result, attempts, events, hresult, hattempts, -, rfl,
    rfl⟩ | ⟨hfree, -⟩ := claimAttempt_ok htxn
  · rw [ha, Option.some.injEq] at ha'
    rw [← ha', hnone] at hresult'
    cases hresult'
  · refine ⟨result, { s with attempts, events }, ?_, by rw [hresult]; rfl, ?_, rfl⟩
    · simp [executeNotification, Prog.eval_bind, hlocator, hminimal, Prog.eval_atomically, htxn]
    · have hafter : ({ s with attempts, events } : HandlerWorld).attempts = Table.modify
        (fun a => a.intentId = intent.intentId) (setResult result) s.attempts := hattempts
      rw [HandlerWorld.attempt?_modify hafter, ha, Option.map_some,
        if_pos (decide_eq_true (HandlerWorld.attempt?_id ha).2)]
      rfl
  · rw [ha] at hfree
    cases hfree

end Execution

/-! ## Runs -/

theorem notificationInv_empty (setup : HandlerSetup) : NotificationInv setup .empty 0 :=
  ⟨HandlerWorld.genuine_empty, Table.distinct_nil _, fun _ ha => absurd ha List.not_mem_nil,
    fun _ ha => absurd ha List.not_mem_nil, fun _ => Nat.le_refl _⟩

theorem handlerDisturbance_notifications {setup : HandlerSetup} (e : HandlerDisturbance)
    {s : HandlerWorld} {r : HandlerIntentId → Nat} (hinv : NotificationInv setup s r) :
    NotificationGrows s (handlerDisturbance e s) ∧
      NotificationInv setup (handlerDisturbance e s) r := by
  have hgenuine := handlerDisturbance_genuine hinv.genuine e
  cases e <;>
    exact ⟨.of_eq rfl rfl, hgenuine, hinv.intents, hinv.attempts, hinv.results, hinv.sends⟩

/-- A run continues with the invariant, from any state that has it. -/
theorem HandlerSys.notificationSound {g : HandlerGuard} {actions more : List HandlerAction}
    (h : HandlerSys.Along setup g (actions ++ more)) :
    (HandlerSys.run setup (actions ++ more)).Sound g.txn (NotificationInv setup)
        NotificationGrows (NotificationReply g) ∧
      NotificationGrows (HandlerSys.run setup actions).store
        (HandlerSys.run setup (actions ++ more)).store := by
  obtain ⟨hbefore, hafter⟩ := Sys.along_append.mp h
  have hstart : ∀ op s f, NotificationInv setup s f → Owns g.txn
      (NotificationInv setup) NotificationGrows (NotificationReply g) (HandlerOp.prog setup op) 0 s :=
    fun op _ _ _ => owns_notifications op
  have hdisturb : ∀ e s r, g.disturb e s → NotificationInv setup s r →
      NotificationGrows s (handlerDisturbance e s) ∧ NotificationInv setup (handlerDisturbance e s) r :=
    fun e _ _ _ hinv => handlerDisturbance_notifications e hinv
  have hidle := Sys.sound_idle (A := g.txn)
    (G := NotificationGrows) (Q := NotificationReply g) (notificationInv_empty setup)
  obtain ⟨hsound, -⟩ := hidle.run .refl .trans hstart hdisturb hbefore
  obtain ⟨hsound', hgrows⟩ := hsound.run .refl .trans hstart hdisturb hafter
  rw [HandlerSys.run, Sys.run_append]
  exact ⟨hsound', hgrows⟩

end WeFlow
