import Mathlib.Algebra.Group.PUnit
import Mathlib.Algebra.Order.PUnit
import WeFlow.Handler.Decision
import WeFlow.Handler.Notification
import WeFlow.Handler.Terminal

/-!
# `Outcome` — what is stored, told and marked of a delivery

The first result of an intent is stored and stays. What an execution does besides follows its own result:
the event, the status `FINAL_ACCEPTED`, and the answer of a notification. `outcomesAgree` is the schedule on
which an execution that records finds nothing stored that says otherwise; there all of them follow the
stored result.

## Contents

* `PassiveInv` — passive intents and results are found by their keys.
* `FinalsInv` — a final reply that was told accepted has its case in `FINAL_ACCEPTED`.
* `OutcomeInv` — events and statuses follow the stored results.
* `delivery_outcome_consistent` — the result for every run; `expired_window_named` — a run that breaks it.
-/

namespace WeFlow

open Txn SQLiteQQHandlerJournal SQLiteQQModelJournal

variable {setup : HandlerSetup} {V : HandlerView} {s s' : HandlerWorld} {g : HandlerGuard}
  {O : HandlerOp → Prop} {actions : List HandlerAction}

/-! ## Passive intents and their results -/

/-- The events of a passive reply's outcome. -/
def HandlerEventKind.passive : HandlerEventKind → Bool
  | .groupNudgeResult | .finalDeliveryResult | .privateReplyResult => true
  | _ => false

theorem ResponseKind.resultEvent_passive (kind : ResponseKind) : kind.resultEvent.passive = true := by
  cases kind <;> rfl

/-- The result has been told for the intent: it is stored, or an event names it. -/
def HandlerWorld.Told (s : HandlerWorld) (intent : HandlerPassiveIntent) (result : HandlerPassiveResult) :
    Prop :=
  result.intentId = intent.intentId ∧
    (result ∈ s.passiveResults ∨ ∃ now, passiveEvent intent result now ∈ s.events)

/-- **Passive intents and results** are found by their keys, belong to cases and intents that exist, and
    are accepted as their status says. -/
structure PassiveInv (s : HandlerWorld) : Prop where
  intents : Table.Distinct HandlerPassiveIntent.clash s.passiveIntents
  results : Table.Distinct HandlerPassiveResult.clash s.passiveResults
  caseOf : ∀ i ∈ s.passiveIntents, (s.case? i.caseId).isSome
  resultOf : ∀ r ∈ s.passiveResults, ∃ i ∈ s.passiveIntents, i.intentId = r.intentId
  eventOf : ∀ e ∈ s.events, e.kind.passive = true → ∀ m, e.metadata = some m →
    ∃ i ∈ s.passiveIntents, i.intentId = m.intentId
  accepted : ∀ r ∈ s.passiveResults, r.providerAccepted = r.status.acceptedOrDuplicate

theorem passiveInv_empty : PassiveInv .empty where
  intents := Table.distinct_nil _
  results := Table.distinct_nil _
  caseOf := fun _ hi => absurd hi List.not_mem_nil
  resultOf := fun _ hr => absurd hr List.not_mem_nil
  eventOf := fun _ he => absurd he List.not_mem_nil
  accepted := fun _ hr => absurd hr List.not_mem_nil

/-- The intent of an identifier. -/
theorem PassiveInv.eq_of_id (hinv : PassiveInv s) {i j : HandlerPassiveIntent}
    (hi : i ∈ s.passiveIntents) (hj : j ∈ s.passiveIntents) (hid : i.intentId = j.intentId) : i = j := by
  refine hinv.intents.eq_of_clash (fun a b => ?_) hi hj (decide_eq_true (.inl hid))
  simp [HandlerPassiveIntent.clash, eq_comm]

/-- What is told is told of a stored intent. -/
theorem PassiveInv.told_stored (hinv : PassiveInv s) {i : HandlerPassiveIntent} {r : HandlerPassiveResult}
    (ht : s.Told i r) : ∃ j ∈ s.passiveIntents, j.intentId = i.intentId := by
  obtain ⟨hid, hr | ⟨now, he⟩⟩ := ht
  · obtain ⟨j, hj, hjr⟩ := hinv.resultOf r hr
    exact ⟨j, hj, hjr.trans hid⟩
  · exact hinv.eventOf _ he (ResponseKind.resultEvent_passive _) _ rfl

/-- A row that is inserted unless it clashes is the only new one. -/
theorem mem_of_insert?_getD {ρ : Type} {clash : ρ → ρ → Bool} {r x : ρ} {rows : List ρ}
    (hx : x ∈ (Table.insert? clash r rows).getD rows) : x ∈ rows ∨ x = r := by
  cases h : Table.insert? clash r rows with
  | none =>
      rw [h] at hx
      exact .inl hx
  | some rows' =>
      rw [h] at hx
      obtain ⟨-, rfl⟩ := Table.insert?_eq_some.mp h
      exact (List.mem_append.mp hx).imp id List.mem_singleton.mp

/-- A table with a unique key stays one. -/
theorem distinct_insert?_getD {ρ : Type} {clash : ρ → ρ → Bool} {r : ρ} {rows : List ρ}
    (h : Table.Distinct clash rows) :
    Table.Distinct clash ((Table.insert? clash r rows).getD rows) := by
  cases hi : Table.insert? clash r rows with
  | none => exact h
  | some rows' => exact h.insert hi

/-- **A transaction's step on the passive replies.** -/
theorem HandlerStep.passiveInv (h : HandlerStep setup (s'.view g O) s s') (hinv : PassiveInv s) :
    PassiveInv s' := by
  have hcases : ∀ i ∈ s.passiveIntents, (s'.case? i.caseId).isSome := by
    intro i hi
    obtain ⟨c, hc⟩ := Option.isSome_iff_exists.mp (hinv.caseOf i hi)
    obtain ⟨c', hc', -⟩ := h.case_step hc
    rw [hc']
    rfl
  cases h with
  | @passiveIntent intent hi hcase hfinal hA hfresh =>
      refine ⟨hinv.intents.append_one hfresh, hinv.results, fun i hi => ?_, fun r hr => ?_,
        fun e he hk m hm => ?_, hinv.accepted⟩
      · rcases List.mem_append.mp hi with hi | hi
        · exact hcases i hi
        · obtain ⟨c, hc, hid⟩ := hcase
          rw [List.mem_singleton.mp hi]
          exact List.find?_isSome.mpr ⟨c, hc, decide_eq_true hid⟩
      · obtain ⟨j, hj, hid⟩ := hinv.resultOf r hr
        exact ⟨j, List.mem_append_left _ hj, hid⟩
      · obtain ⟨j, hj, hid⟩ := hinv.eventOf e he hk m hm
        exact ⟨j, List.mem_append_left _ hj, hid⟩
  | @resultRecorded intent result passiveResults events cases hi hresult haccepted hA hresults hevents =>
      have hintent : intent ∈ s.passiveIntents := hi.1
      refine ⟨hinv.intents, hresults ▸ distinct_insert?_getD hinv.results, hcases, fun r hr => ?_,
        fun e he hk m hm => ?_, fun r hr => ?_⟩
      · rcases mem_of_insert?_getD (hresults ▸ hr) with hr | rfl
        · exact hinv.resultOf r hr
        · exact ⟨intent, hintent, hresult.symm⟩
      · rcases (hevents e).mp he with he | rfl
        · exact hinv.eventOf e he hk m hm
        · obtain rfl := Option.some.inj hm
          exact ⟨intent, hintent, rfl⟩
      · rcases mem_of_insert?_getD (hresults ▸ hr) with hr | rfl
        · exact hinv.accepted r hr
        · exact haccepted
  | revoked hkept hnew =>
      refine ⟨hinv.intents, hinv.results, hcases, hinv.resultOf, fun e he hk m hm => ?_, hinv.accepted⟩
      rcases hnew e he with he | hrevoked
      · exact hinv.eventOf e he hk m hm
      · rw [hrevoked] at hk
        cases hk
  | recovered hi ha hnone hresult hattempts hevents =>
      refine ⟨hinv.intents, hinv.results, hcases, hinv.resultOf, fun e he hk m hm => ?_, hinv.accepted⟩
      rcases (hevents e).mp he with he | rfl
      · exact hinv.eventOf e he hk m hm
      · cases hk
  | outcomeRecorded hi hclaimed hresult hA hattempts hevents =>
      refine ⟨hinv.intents, hinv.results, hcases, hinv.resultOf, fun e he hk m hm => ?_, hinv.accepted⟩
      rcases (hevents e).mp he with he | rfl
      · exact hinv.eventOf e he hk m hm
      · cases hk
  | _ => exact ⟨hinv.intents, hinv.results, hcases, hinv.resultOf, hinv.eventOf, hinv.accepted⟩

theorem handlerDisturbance_passiveInv (e : HandlerDisturbance) (hinv : PassiveInv s) :
    PassiveInv (handlerDisturbance e s) := by
  cases e <;>
    exact ⟨hinv.intents, hinv.results, hinv.caseOf, hinv.resultOf, hinv.eventOf, hinv.accepted⟩

/-! ## Stored results -/

/-- The stored results stay. -/
def ResultsGrow (s s' : HandlerWorld) : Prop :=
  ∀ id r, s.passiveResult? id = some r → s'.passiveResult? id = some r

theorem ResultsGrow.refl (s : HandlerWorld) : ResultsGrow s s := fun _ _ h => h

theorem ResultsGrow.trans (a b c : HandlerWorld) (hab : ResultsGrow a b) (hbc : ResultsGrow b c) :
    ResultsGrow a c :=
  fun id r h => hbc id r (hab id r h)

theorem passiveResult?_id {id : HandlerIntentId} {r : HandlerPassiveResult}
    (h : s.passiveResult? id = some r) : r ∈ s.passiveResults ∧ r.intentId = id := by
  have hkey := List.find?_some h
  rw [decide_eq_true_eq] at hkey
  exact ⟨List.mem_of_find?_eq_some h, hkey⟩

/-- **The first result of an intent** is the stored one; a later one is ignored. -/
theorem passiveResult?_insert {result : HandlerPassiveResult}
    (h : s'.passiveResults =
      (Table.insert? HandlerPassiveResult.clash result s.passiveResults).getD s.passiveResults) :
    ResultsGrow s s' ∧ ∃ r, s'.passiveResult? result.intentId = some r ∧
      (s.passiveResult? result.intentId = some r ∨ r = result) := by
  cases hi : Table.insert? HandlerPassiveResult.clash result s.passiveResults with
  | none =>
      rw [hi, Option.getD_none] at h
      obtain ⟨x, hx, hclash⟩ := Table.insert?_eq_none.mp hi
      have hsame : ∀ id, s'.passiveResult? id = s.passiveResult? id := by
        intro id
        rw [HandlerWorld.passiveResult?, h]
        rfl
      have hfound : (s.passiveResult? result.intentId).isSome := by
        refine List.find?_isSome.mpr ⟨x, hx, ?_⟩
        rw [decide_eq_true_eq]
        exact (of_decide_eq_true hclash).symm
      obtain ⟨r, hr⟩ := Option.isSome_iff_exists.mp hfound
      exact ⟨fun id r hr => (hsame id).trans hr, r, (hsame _).trans hr, .inl hr⟩
  | some rows =>
      obtain ⟨hfresh, rfl⟩ := Table.insert?_eq_some.mp hi
      rw [hi, Option.getD_some] at h
      have hfound : ∀ id, s'.passiveResult? id =
          (s.passiveResult? id).or (if result.intentId = id then some result else none) := by
        intro id
        rw [HandlerWorld.passiveResult?, h, List.find?_append]
        by_cases hid : result.intentId = id <;> simp [hid, HandlerWorld.passiveResult?]
      have hnone : s.passiveResult? result.intentId = none := by
        refine List.find?_eq_none.mpr fun x hx hkey => ?_
        have hclash := hfresh x hx
        rw [HandlerPassiveResult.clash, decide_eq_false_iff_not] at hclash
        exact hclash (of_decide_eq_true hkey).symm
      refine ⟨fun id r hr => by rw [hfound, hr, Option.some_or], result, ?_, .inr rfl⟩
      rw [hfound, hnone, if_pos rfl, Option.none_or]

theorem HandlerStep.resultsGrow (h : HandlerStep setup V s s') : ResultsGrow s s' := by
  cases h with
  | resultRecorded hi hresult haccepted hA hresults => exact (passiveResult?_insert hresults).1
  | _ => exact .refl _

theorem handlerDisturbance_resultsGrow (e : HandlerDisturbance) (s : HandlerWorld) :
    ResultsGrow s (handlerDisturbance e s) := by
  cases e <;> exact .refl _

/-- **Attempts and their results stay**, whatever call it is. -/
theorem HandlerStep.attemptsGrow (h : HandlerStep setup V s s') : NotificationGrows s s' := by
  cases h with
  | notificationIntent hi hfresh =>
      exact ⟨fun _ hi => List.mem_append_left _ hi, fun _ a ha => ⟨a, ha, fun _ => rfl⟩⟩
  | @claimed intent hi hnone =>
      refine ⟨fun _ hi => hi, fun id a ha => ⟨a, ?_, fun _ => rfl⟩⟩
      rw [HandlerWorld.attempt?_append rfl, ha, Option.some_or]
  | recovered hi ha hnone hresult hattempts =>
      refine .of_modify rfl hattempts fun id b hb hp => ?_
      have hid := (HandlerWorld.attempt?_id hb).2
      rw [← hid, of_decide_eq_true hp, ha] at hb
      exact Option.some.inj hb ▸ hnone
  | outcomeRecorded hi hclaimed hresult hA hattempts =>
      exact .of_modify rfl hattempts fun _ _ _ hp => Option.isNone_iff_eq_none.mp (of_decide_eq_true hp).2
  | _ => exact .of_eq rfl rfl

/-! ## Final replies -/

/-- No late writer of an assistance finds a case whose final reply is accepted. -/
def HandlerGuard.SparesFinals (g : HandlerGuard) : Prop :=
  ∀ t s, g.txn t s → s.AssistOutside (· = .finalAccepted) t

/-- **A final reply that was told accepted** has its case in `FINAL_ACCEPTED`. -/
structure FinalsInv (s : HandlerWorld) : Prop extends PassiveInv s where
  finals : ∀ i ∈ s.passiveIntents, i.responseKind = .final → ∀ r, s.Told i r →
    r.providerAccepted = true → ∃ c, s.case? i.caseId = some c ∧ c.status = .finalAccepted

theorem finalsInv_empty : FinalsInv .empty :=
  { passiveInv_empty with finals := fun _ hi => absurd hi List.not_mem_nil }

/-- A case in `FINAL_ACCEPTED` stays there. -/
theorem HandlerStep.finalAccepted_stays (h : HandlerStep setup V s s')
    (hV : ∀ t, V.txn t s → s.AssistOutside (· = .finalAccepted) t) {caseId : String} {c : HandlerCase}
    (hc : s.case? caseId = some c) (hstatus : c.status = .finalAccepted) :
    s'.case? caseId = some c := by
  obtain ⟨c', hc', hrow⟩ := h.case_step hc
  have hown : s.case? c.caseId = some c := (HandlerWorld.case?_some hc).2.symm ▸ hc
  have hterminal : ∀ status : HandlerStatus, decide (status = .finalAccepted) = true →
      status.terminal = true := by
    intro status hs
    rw [of_decide_eq_true hs]
    rfl
  rcases hrow.closed hterminal hV hown (decide_eq_true hstatus) with rfl | ⟨_, _, _, _, _, _, rfl⟩
  · exact hc'
  · rwa [HandlerCase.finalAccepted_eq hstatus] at hc'

/-- **What is told after a transaction** was told before, or is what the transaction records. -/
theorem HandlerStep.told (h : HandlerStep setup V s s') {i : HandlerPassiveIntent}
    {r : HandlerPassiveResult} (ht : s'.Told i r) :
    s.Told i r ∨ ∃ (intent : HandlerPassiveIntent) (result : HandlerPassiveResult),
      V.Executes intent ∧ intent.intentId = i.intentId ∧ result.providerAccepted = r.providerAccepted ∧
      s'.cases = if intent.responseKind = .final ∧ result.providerAccepted then
        (s.modifyCase intent.caseId HandlerCase.finalAccepted).cases else s.cases := by
  obtain ⟨hid, ht⟩ := ht
  -- an event of another kind names no result of a passive reply
  have hother : ∀ {events : List HandlerEvent} {P : HandlerEvent → Prop},
      (∀ e ∈ events, e ∈ s.events ∨ P e) → (∀ e, P e → e.kind.passive = false) →
      (r ∈ s.passiveResults ∨ ∃ now, passiveEvent i r now ∈ events) → s.Told i r := by
    intro events P hevents hP hrow
    refine ⟨hid, hrow.imp id fun ⟨now, he⟩ => ⟨now, ?_⟩⟩
    refine (hevents _ he).resolve_right fun hp => ?_
    have hkind := hP _ hp
    rw [show (passiveEvent i r now).kind = i.responseKind.resultEvent from rfl,
      ResponseKind.resultEvent_passive] at hkind
    cases hkind
  cases h with
  | @resultRecorded intent result passiveResults events cases hi hresult haccepted hA hresults hevents
      hcases =>
      rcases ht with hr | ⟨now, he⟩
      · rcases mem_of_insert?_getD (hresults ▸ hr) with hr | rfl
        · exact .inl ⟨hid, .inl hr⟩
        · exact .inr ⟨intent, r, hi, hresult.symm.trans hid, rfl, hcases⟩
      · rcases (hevents _).mp he with he | heq
        · exact .inl ⟨hid, .inr ⟨now, he⟩⟩
        · simp only [passiveEvent, HandlerEvent.mk.injEq, Option.some.injEq, OutcomeMetadata.mk.injEq] at heq
          obtain ⟨-, -, -, -, ⟨hsame, -, hacc⟩, -⟩ := heq
          exact .inr ⟨intent, result, hi, hsame.symm, hacc.symm, hcases⟩
  | revoked hkept hnew =>
      exact .inl (hother hnew (fun e he => by rw [he]; rfl) ht)
  | recovered hi ha hnone hresult hattempts hevents =>
      exact .inl (hother (fun e he => (hevents e).mp he) (fun e he => by rw [he]; rfl) ht)
  | outcomeRecorded hi hclaimed hresult hA hattempts hevents =>
      exact .inl (hother (fun e he => (hevents e).mp he) (fun e he => by rw [he]; rfl) ht)
  | _ => exact .inl ⟨hid, ht⟩

theorem HandlerStep.finalsInv (h : HandlerStep setup (s'.view g O) s s') (hg : g.SparesFinals)
    (hinv : FinalsInv s) : FinalsInv s' := by
  have hpassive := h.passiveInv hinv.toPassiveInv
  refine ⟨hpassive, fun i hi hfinal r ht haccepted => ?_⟩
  rcases h.told ht with hold | ⟨intent, result, hexecutes, hid, hacc, hcases⟩
  · -- an intent of which something has been told was there before
    obtain ⟨j, hj, hji⟩ := hinv.told_stored hold
    have hsame : j = i := hpassive.eq_of_id (h.grows.passiveIntents j hj) hi hji
    obtain ⟨c, hc, hstatus⟩ := hinv.finals i (hsame ▸ hj) hfinal r hold haccepted
    exact ⟨c, h.finalAccepted_stays (fun t ht => hg t s ht.2) hc hstatus, hstatus⟩
  · have hsame : intent = i := hpassive.eq_of_id hexecutes.1 hi hid
    rw [hsame, if_pos ⟨hfinal, hacc.trans haccepted⟩] at hcases
    obtain ⟨c', hc'⟩ := Option.isSome_iff_exists.mp (hpassive.caseOf i hi)
    refine ⟨c', hc', ?_⟩
    have hfound : s'.case? i.caseId = (s.modifyCase i.caseId HandlerCase.finalAccepted).case? i.caseId := by
      rw [HandlerWorld.case?, hcases]
      rfl
    have hkept : ∀ c : HandlerCase, c.finalAccepted.caseId = c.caseId := fun _ => rfl
    rw [hfound, HandlerWorld.case?_modifyCase hkept, if_pos rfl] at hc'
    obtain ⟨c, -, rfl⟩ := Option.map_eq_some_iff.mp hc'
    rfl

theorem handlerDisturbance_finalsInv (e : HandlerDisturbance) (hinv : FinalsInv s) :
    FinalsInv (handlerDisturbance e s) := by
  refine ⟨handlerDisturbance_passiveInv e hinv.toPassiveInv, ?_⟩
  cases e <;> exact hinv.finals

/-! ## Outcomes -/

/-- **What an execution records agrees with what is stored**: a passive result finds none of its intent, or
    one of the same status and reason; the outcome of a notification finds no other one; and no late writer
    of an assistance finds a case whose final reply is accepted. -/
def HandlerGuard.outcomesAgree : HandlerGuard where
  txn t s := s.AssistOutside (· = .finalAccepted) t ∧
    (∀ intent result, t = ⟨insertPassiveResult intent result⟩ → ∀ r,
      s.passiveResult? intent.intentId = some r → r.status = result.status ∧ r.reasonCode = result.reasonCode) ∧
    ∀ intent result, t = ⟨recordNotification intent result⟩ → ∀ a r,
      s.attempt? intent.intentId = some a → a.result = some r → r = result
  disturb _ _ := True

theorem HandlerGuard.outcomesAgree_sparesFinals : HandlerGuard.outcomesAgree.SparesFinals :=
  fun _ _ h => h.1

theorem HandlerGuard.outcomesAgree_recordsOnce : HandlerGuard.outcomesAgree.RecordsOnce :=
  fun intent result _ h a r => h.2.2 intent result rfl a r

/-- The event of a passive reply's outcome names the stored result. -/
def HandlerEvent.NamesStored (e : HandlerEvent) (s : HandlerWorld) : Prop :=
  ∀ m, e.metadata = some m → ∃ r, s.passiveResult? m.intentId = some r ∧ r.status = m.status ∧
    r.providerAccepted = m.providerAccepted ∧ r.reasonCode = e.reasonCode

/-- The event of a notification's outcome names the recorded result. -/
def HandlerEvent.NamesRecorded (e : HandlerEvent) (s : HandlerWorld) : Prop :=
  ∀ m, e.metadata = some m → ∃ a r, s.attempt? m.intentId = some a ∧ a.result = some r ∧
    r.status = m.status ∧ r.providerAccepted = m.providerAccepted ∧ r.reasonCode = e.reasonCode

/-- The stored result of a final reply of the case is an accepted one. -/
def HandlerWorld.FinalDelivered (s : HandlerWorld) (caseId : String) : Prop :=
  ∃ i ∈ s.passiveIntents, i.responseKind = .final ∧ i.caseId = caseId ∧
    ∃ r, s.passiveResult? i.intentId = some r ∧ r.providerAccepted = true

theorem HandlerEvent.NamesStored.later {e : HandlerEvent} (h : e.NamesStored s) (hgrow : ResultsGrow s s') :
    e.NamesStored s' := by
  intro m hm
  obtain ⟨r, hr, hsame⟩ := h m hm
  exact ⟨r, hgrow _ _ hr, hsame⟩

theorem HandlerEvent.NamesRecorded.later {e : HandlerEvent} (h : e.NamesRecorded s)
    (hgrow : NotificationGrows s s') : e.NamesRecorded s' := by
  intro m hm
  obtain ⟨a, r, ha, hr, hsame⟩ := h m hm
  obtain ⟨a', ha', heq⟩ := hgrow.attempts _ a ha
  have hsome : a.result.isSome := by rw [hr]; rfl
  exact ⟨a', r, ha', heq hsome ▸ hr, hsame⟩

/-- **Events and statuses follow the stored results.** -/
structure OutcomeInv (s : HandlerWorld) : Prop extends FinalsInv s where
  named : ∀ e ∈ s.events, e.kind.passive = true → e.NamesStored s
  recorded : ∀ e ∈ s.events, e.kind = .notificationOutcome → e.NamesRecorded s
  marked : ∀ caseId c, s.case? caseId = some c → c.status = .finalAccepted → s.FinalDelivered caseId

theorem outcomeInv_empty : OutcomeInv .empty :=
  { finalsInv_empty with
    named := fun _ he => absurd he List.not_mem_nil
    recorded := fun _ he => absurd he List.not_mem_nil
    marked := fun _ _ hc => nomatch hc }

/-- **The events of passive replies** name the stored result. -/
theorem HandlerStep.named (h : HandlerStep setup (s'.view .outcomesAgree O) s s') (hinv : OutcomeInv s) :
    ∀ e ∈ s'.events, e.kind.passive = true → e.NamesStored s' := by
  intro e he hkind
  have hold : e ∈ s.events → e.NamesStored s' := fun he => (hinv.named e he hkind).later h.resultsGrow
  cases h with
  | @resultRecorded intent result passiveResults events cases hi hresult haccepted hA hresults hevents =>
      rcases (hevents e).mp he with he | rfl
      · exact hold he
      intro m hm
      obtain rfl := Option.some.inj hm
      -- the stored result is this one, or the one that the guard found to say the same
      have hafter : ({ s with passiveResults, events, cases } : HandlerWorld).passiveResults =
        (Table.insert? HandlerPassiveResult.clash result s.passiveResults).getD s.passiveResults := hresults
      obtain ⟨-, r, hr, hfrom⟩ := passiveResult?_insert hafter
      rw [hresult] at hr hfrom
      refine ⟨r, hr, ?_⟩
      rcases hfrom with hstored | rfl
      · obtain ⟨hstatus, hreason⟩ := hA.2.2.1 intent result rfl r hstored
        have hsame := hinv.accepted r (passiveResult?_id hstored).1
        rw [hstatus, ← haccepted] at hsame
        exact ⟨hstatus, hsame, hreason⟩
      · exact ⟨rfl, rfl, rfl⟩
  | revoked hkept hnew =>
      rcases hnew e he with he | hrevoked
      · exact hold he
      · rw [hrevoked] at hkind
        cases hkind
  | recovered hi ha hnone hresult hattempts hevents =>
      rcases (hevents e).mp he with he | rfl
      · exact hold he
      · cases hkind
  | outcomeRecorded hi hclaimed hresult hA hattempts hevents =>
      rcases (hevents e).mp he with he | rfl
      · exact hold he
      · cases hkind
  | _ => exact hold he

/-- **The events of notifications** name the recorded result. -/
theorem HandlerStep.recorded (h : HandlerStep setup (s'.view .outcomesAgree O) s s') (hinv : OutcomeInv s) :
    ∀ e ∈ s'.events, e.kind = .notificationOutcome → e.NamesRecorded s' := by
  intro e he hkind
  have hold : e ∈ s.events → e.NamesRecorded s' :=
    fun he => (hinv.recorded e he hkind).later h.attemptsGrow
  cases h with
  | @resultRecorded intent result passiveResults events cases hi hresult haccepted hA hresults hevents =>
      rcases (hevents e).mp he with he | rfl
      · exact hold he
      · have hpassive := intent.responseKind.resultEvent_passive
        have heq : intent.responseKind.resultEvent = .notificationOutcome := hkind
        rw [heq] at hpassive
        cases hpassive
  | revoked hkept hnew =>
      rcases hnew e he with he | hrevoked
      · exact hold he
      · rw [hrevoked] at hkind
        cases hkind
  | @recovered intent a result attempts events hi ha hnone hresult hattempts hevents =>
      rcases (hevents e).mp he with he | rfl
      · exact hold he
      intro m hm
      obtain rfl := Option.some.inj hm
      have hafter : ({ s with attempts, events } : HandlerWorld).attempts = Table.modify
        (fun a => a.intentId = intent.intentId) (setResult result) s.attempts := hattempts
      have hfound := HandlerWorld.attempt?_modify hafter intent.intentId
      rw [ha, Option.map_some, if_pos (decide_eq_true (HandlerWorld.attempt?_id ha).2)] at hfound
      exact ⟨_, result, hfound, rfl, hresult ▸ ⟨rfl, rfl, rfl⟩⟩
  | @outcomeRecorded intent result attempts events hi hclaimed hresult hA hattempts hevents =>
      rcases (hevents e).mp he with he | rfl
      · exact hold he
      intro m hm
      obtain rfl := Option.some.inj hm
      -- the attempt was claimed before the send, and is there
      obtain ⟨a', ha', hid⟩ := hclaimed
      have hstored : (s.attempt? intent.intentId).isSome := by
        obtain ⟨a, ha, heq⟩ := Table.mem_modify.mp (hattempts ▸ ha')
        refine List.find?_isSome.mpr ⟨a, ha, decide_eq_true ?_⟩
        rw [← hid, ← heq]
        split <;> rfl
      obtain ⟨a, ha⟩ := Option.isSome_iff_exists.mp hstored
      have hafter : ({ s with attempts, events } : HandlerWorld).attempts = _ := hattempts
      obtain ⟨a₁, r, ha₁, hr, hfrom⟩ := reported_modify hafter ha
      obtain rfl : r = result :=
        hfrom.elim id (HandlerGuard.outcomesAgree_recordsOnce _ _ _ hA.2 _ _ ha)
      exact ⟨a₁, r, ha₁, hr, rfl, rfl, rfl⟩
  | _ => exact hold he

/-- **A case in `FINAL_ACCEPTED`** has a final reply whose stored result is accepted. -/
theorem HandlerStep.marked (h : HandlerStep setup (s'.view .outcomesAgree O) s s') (hinv : OutcomeInv s) :
    ∀ caseId c, s'.case? caseId = some c → c.status = .finalAccepted → s'.FinalDelivered caseId := by
  intro caseId c' hc' hstatus
  cases hc : s.case? caseId with
  | none =>
      have hready := (h.case_new hc hc').1
      rw [hstatus] at hready
      cases hready
  | some c =>
      obtain ⟨c'', hc'', hrow⟩ := h.case_step hc
      obtain rfl : c'' = c' := Option.some.inj (hc''.symm.trans hc')
      have hold : c.status = .finalAccepted → s'.FinalDelivered caseId := fun hbefore => by
        obtain ⟨i, hi, hfinal, hcase, r, hr, haccepted⟩ := hinv.marked caseId c hc hbefore
        exact ⟨i, h.grows.passiveIntents i hi, hfinal, hcase, r, h.resultsGrow _ _ hr, haccepted⟩
      cases hrow with
      | same => exact hold hstatus
      | @simple command hop hopen =>
          cases command with
          | pull => exact hold hstatus
          | accept | reject => cases hstatus
      | @finalAccepted intent result hi hcase hfinal hresult haccepted hA hresults haccepts =>
          obtain ⟨-, r, hr, hfrom⟩ := passiveResult?_insert hresults
          rw [hresult] at hr hfrom
          refine ⟨intent, hi.1, hfinal, hcase.trans (HandlerWorld.case?_some hc).2, r, hr, ?_⟩
          rcases hfrom with hstored | rfl
          · have hsame := hinv.accepted r (passiveResult?_id hstored).1
            rw [hsame, (hA.2.2.1 intent result rfl r hstored).1]
            exact haccepts
          · exact haccepted
      | _ => cases hstatus

theorem HandlerStep.outcomeInv (h : HandlerStep setup (s'.view .outcomesAgree O) s s')
    (hinv : OutcomeInv s) : OutcomeInv s' :=
  { h.finalsInv HandlerGuard.outcomesAgree_sparesFinals hinv.toFinalsInv with
    named := h.named hinv, recorded := h.recorded hinv, marked := h.marked hinv }

theorem handlerDisturbance_outcomeInv (e : HandlerDisturbance) (hinv : OutcomeInv s) :
    OutcomeInv (handlerDisturbance e s) := by
  refine { handlerDisturbance_finalsInv e hinv.toFinalsInv with named := ?_, recorded := ?_, marked := ?_ }
  · cases e <;> exact hinv.named
  · cases e <;> exact hinv.recorded
  · cases e <;> exact hinv.marked

theorem HandlerSys.outcomeInv (h : HandlerSys.Along setup .outcomesAgree actions) :
    OutcomeInv (HandlerSys.run setup actions).store :=
  HandlerSys.invariant (O := fun _ => True) outcomeInv_empty (fun _ _ hinv hstep => hstep.outcomeInv hinv)
    (fun e _ _ hinv => handlerDisturbance_outcomeInv e hinv) (fun _ _ => trivial) h

/-! ## What callers are told -/

section Callers

variable {k : HandlerWorld}

/-- A program that keeps the stored results, and returns with `Q`; it owns nothing. -/
abbrev Keeps (g : HandlerGuard) {α : Type} (Q : α → HandlerWorld → Prop) (p : HandlerProg α)
    (k : HandlerWorld) : Prop :=
  Owns g.txn (fun _ (_ : Unit) => True) ResultsGrow (fun a _ k' => Q a k') p 0 k

theorem keeps_of_steps {α : Type} {p : HandlerProg α} (h : Steps setup (g.viewOf O) p) :
    Keeps g (fun _ k' => ResultsGrow k k') p k := by
  have howns := (Quiet.owns (I := fun _ (_ : Unit) => True) (r := 0) h
    (fun _ _ _ hstep _ => ⟨hstep.resultsGrow, trivial⟩) k).since .refl .trans
  refine howns.mono fun a r k' hend => ?_
  exact hend.2

theorem Keeps.bind {α β : Type} {p : HandlerProg α} {f : α → HandlerProg β}
    {Q' : α → HandlerWorld → Prop} {Q : β → HandlerWorld → Prop} (hp : Keeps g Q' p k)
    (hf : ∀ a k', Q' a k' → Keeps g Q (f a) k') : Keeps g Q (p >>= f) k :=
  Owns.bind hp fun a _ k' h => hf a k' h

theorem keeps_observe {α : Type} {query : HandlerWorld → α} :
    Keeps g (fun a k' => ResultsGrow k k' ∧ a = query k') (.observe query) k :=
  owns_observe .refl fun _ _ hk _ => ⟨hk, rfl⟩

/-- **`_record_passive_result` returns what is stored**, whatever it has been given. -/
theorem keeps_recordPassiveResult (intent : HandlerPassiveIntent) (status : ProviderStatus) (reasonCode : String)
    (providerStatus : Option String) :
    Keeps g (fun result k' => k'.passiveResult? intent.intentId = some result)
      (recordPassiveResult setup.text intent status reasonCode providerStatus) k := by
  refine keeps_observe.bind fun now k₁ _ => ?_
  let result := passiveResult setup.text intent status reasonCode providerStatus now
  have hinsert : Keeps g (fun _ k' => ∃ r, k'.passiveResult? intent.intentId = some r)
      (.atomically (insertPassiveResult intent result)) k₁ := by
    refine owns_atomically.mpr fun s _ _ _ _ a s' htxn => ?_
    obtain ⟨results, events, cases, rfl, hresults, -⟩ := insertPassiveResult_ok htxn
    have hafter : ({ s with passiveResults := results, events, cases } : HandlerWorld).passiveResults = _ :=
      hresults
    obtain ⟨hgrow, r, hr, -⟩ := passiveResult?_insert hafter
    exact ⟨hgrow, 0, trivial, r, hr⟩
  refine hinsert.bind fun _ k₂ hstored => keeps_observe.bind fun stored k₃ hread => ?_
  -- the row that is there after the insertion is the one that is read and returned
  obtain ⟨r, hr⟩ := hstored
  have hr₃ := hread.1 _ r hr
  obtain rfl : stored = r := by
    rw [hread.2, hr₃]
    rfl
  have hretire : Steps setup (g.viewOf fun _ => True) (retireContent intent stored) := by
    unfold retireContent
    split
    · exact steps_deleteArtifacts (HandlerGuard.viewOf_sighted g _) _ _
    · trivial
  exact (keeps_of_steps hretire).bind fun _ k₄ hk₄ => hk₄ _ stored hr₃

theorem keeps_reconcileThenReply (intent : HandlerPassiveIntent) (destination content : String)
    (answers : PassiveAnswers) :
    Keeps g (fun result k' => k'.passiveResult? intent.intentId = some result)
      (reconcileThenReply setup.text intent destination content answers) k := by
  have hcall : ∀ call k, Keeps g (fun _ _ => True) (callTransport call) k := by
    intro call k s _ _ _ _ a s' htxn
    obtain ⟨-, rfl⟩ := Prod.mk.injEq .. ▸ Except.ok.inj htxn
    exact ⟨.refl _, 0, trivial, trivial⟩
  refine (hcall _ k).bind fun _ k₁ _ => ?_
  split
  · trivial
  split
  · exact keeps_recordPassiveResult intent _ _ _
  · exact (hcall _ k₁).bind fun _ k₂ _ => keeps_recordPassiveResult intent _ _ _

/-- **An execution returns the stored result.** -/
theorem keeps_executePassiveReply (intent : HandlerPassiveIntent) (binding : QQHandlerBinding)
    (content : String) (answers : PassiveAnswers) :
    Keeps g (fun result k' => k'.passiveResult? intent.intentId = some result)
      (executePassiveReply setup.text intent binding content answers) k := by
  refine owns_bind.mpr (owns_check.mpr fun _ => ?_)
  refine keeps_observe.bind fun now k₁ _ => ?_
  split
  · exact keeps_recordPassiveResult intent _ _ _
  refine keeps_observe.bind fun existing k₂ hread => ?_
  cases existing with
  | some result => exact hread.2.symm
  | none =>
      have hdestination : Steps setup (g.viewOf fun _ => True)
        (replyDestination setup.text intent binding) := steps_replyDestination intent binding
      exact (keeps_of_steps hdestination).bind fun _ k₃ _ => keeps_reconcileThenReply intent _ content answers

/-- A reply that reports a delivery reports the stored result. -/
def HandlerReply.Stored (reply : HandlerReply) (s : HandlerWorld) : Prop :=
  ∀ result, reply = .delivered result → s.passiveResult? result.intentId = some result

theorem keeps_deliver (stage : HandlerStage) (intent : HandlerPassiveIntent) (binding : QQHandlerBinding)
    (content : String) (answers : PassiveAnswers) :
    Keeps g (fun result k' => k'.passiveResult? intent.intentId = some result)
      (HandlerOp.deliver setup stage intent binding content answers) k := by
  refine (keeps_executePassiveReply intent binding content answers).bind fun result k₁ hstored => ?_
  split
  case isTrue h =>
    have htold : (g.viewOf fun _ => True).Told intent result :=
      ⟨(passiveResult?_id hstored).2, .inl trivial⟩
    have hmark : Steps setup (g.viewOf fun _ => True) (markFinalModelContentDeleted intent.caseId) :=
      steps_markFinalModelContentDeleted (g.viewOf_sighted _)
        ⟨trivial, stage, intent.intentId, binding.handlerBindingId, content, answers, trivial⟩
        h.2.1 h.2.2 htold
    exact (keeps_of_steps hmark).bind fun _ k₂ hk₂ => hk₂ _ result hstored
  case isFalse => exact hstored

/-- **Every operation keeps the stored results**, and reports a stored one. -/
theorem keeps_prog (op : HandlerOp) : Keeps g HandlerReply.Stored (HandlerOp.prog setup op) k := by
  have hother : ∀ op : HandlerOp, op.executes ≠ some .passive →
      Keeps g HandlerReply.Stored (HandlerOp.prog setup op) k := by
    intro op hop
    have hsteps : Steps setup (g.viewOf (· = op)) (HandlerOp.prog setup op) :=
      HandlerOp.prog_steps (g.viewOf_sighted _) rfl
    have howns := Quiet.owns (I := fun _ (_ : Unit) => True) (r := 0) (hsteps.and op.prog_replies)
      (fun _ _ _ hstep _ => ⟨hstep.1.resultsGrow, trivial⟩) k
    refine howns.mono fun reply r s hend => ?_
    intro result hreply
    have hexecutes := hend.1.2
    rw [hreply] at hexecutes
    exact absurd hexecutes.symm hop
  cases op with
  | executePassiveReply stage id bindingId content answers =>
      have hintent : Steps setup (g.viewOf fun _ => True) (HandlerOp.heldPassiveIntent id) :=
        (stepwise_heldPassiveIntent (g.viewOf_sighted _) id).weaken fun _ _ => trivial
      have hbinding : Steps setup (g.viewOf fun _ => True) (HandlerOp.heldBinding bindingId) :=
        (stepwise_heldBinding (g.viewOf_sighted _) bindingId).weaken fun _ _ => trivial
      refine (keeps_of_steps hintent).bind fun intent k₁ _ => (keeps_of_steps hbinding).bind fun b k₂ _ => ?_
      refine (keeps_deliver stage intent b content answers).bind fun result k₃ hstored => ?_
      intro result' hreply
      cases hreply
      rw [(passiveResult?_id hstored).2]
      exact hstored
  | confirmBinding | revokeBinding | createIssue | createNotification | createGroupNudge
  | privateEvent | assistEvent | groupApproval | executeNotification | deleteExpiredArtifacts =>
      exact hother _ nofun

/-- A run continues with the stored results, and its deliveries report them. -/
theorem HandlerSys.resultsSound (actions more : List HandlerAction) :
    (HandlerSys.run setup (actions ++ more)).Sound (Guard.free : HandlerGuard).txn
        (fun _ (_ : Unit) => True) ResultsGrow (fun reply _ s => reply.Stored s) ∧
      ResultsGrow (HandlerSys.run setup actions).store (HandlerSys.run setup (actions ++ more)).store := by
  have hstart : ∀ op s (f : Unit), True → Owns (Guard.free : HandlerGuard).txn (fun _ (_ : Unit) => True) ResultsGrow
      (fun reply _ s => HandlerReply.Stored reply s) (HandlerOp.prog setup op) 0 s :=
    fun op _ _ _ => keeps_prog op
  have hdisturb : ∀ e s (r : Unit), (Guard.free : HandlerGuard).disturb e s → True →
      ResultsGrow s (handlerDisturbance e s) ∧ True :=
    fun e s _ _ _ => ⟨handlerDisturbance_resultsGrow e s, trivial⟩
  have hidle : (⟨.empty, []⟩ : HandlerSys).Sound (Guard.free : HandlerGuard).txn
      (fun _ (_ : Unit) => True) ResultsGrow (fun reply _ s => reply.Stored s) := Sys.sound_idle trivial
  obtain ⟨hsound, -⟩ := hidle.run .refl .trans hstart hdisturb (Sys.along_free actions)
  obtain ⟨hsound', hgrows⟩ := hsound.run .refl .trans hstart hdisturb (Sys.along_free more)
  rw [HandlerSys.run, Sys.run_append]
  exact ⟨hsound', hgrows⟩

end Callers

/-! ## The result -/

/-- The draft is approved, and a final reply of it is to be sent. -/
def approvedDraft : List HandlerAction :=
  draftedCase ++ callSteps (.groupApproval .second onlyBinding
    ⟨"member", "group", "g1", 0, .ok ⟨draftRequest, "answer", 2⟩⟩) 3 20

def finalReplyId : HandlerIntentId :=
  stableIdentifier (sha256 (.passive "g1" 5 "c1" onlyBinding 2 .final))

/-- The final reply is executed by call number `i`; the provider accepts it. -/
def finalReply (i n : Nat) : List HandlerAction :=
  callSteps (.executePassiveReply .second finalReplyId onlyBinding "answer"
    ⟨.outcome ⟨.rejected, "absent", none⟩, .outcome ⟨.accepted, "ok", none⟩⟩) i n

/-- No outcome is stored, and no case is in `FINAL_ACCEPTED`. -/
def HandlerWorld.undelivered (s : HandlerWorld) : Bool :=
  s.passiveResults.isEmpty && s.attempts.isEmpty && s.cases.all fun c => c.status ≠ .finalAccepted

theorem HandlerGuard.outcomesAgree_of_undelivered (s : HandlerWorld) (h : s.undelivered = true) :
    (∀ t, HandlerGuard.outcomesAgree.txn t s) ∧ ∀ e, HandlerGuard.outcomesAgree.disturb e s := by
  rw [HandlerWorld.undelivered, Bool.and_eq_true, Bool.and_eq_true] at h
  obtain ⟨⟨hresults, hattempts⟩, hcases⟩ := h
  have houtside : ∀ caseId, s.Outside (· = .finalAccepted) caseId := by
    intro caseId c hc
    have hopen := List.all_eq_true.mp hcases c (HandlerWorld.case?_some hc).1
    exact decide_eq_false (of_decide_eq_true hopen)
  refine ⟨fun t => ⟨⟨fun request _ _ => houtside _, fun outcome _ _ _ => houtside _⟩, ?_, ?_⟩,
    fun _ => trivial⟩
  · intro intent result _ r hr
    rw [HandlerWorld.passiveResult?, List.isEmpty_iff.mp hresults] at hr
    cases hr
  · intro intent result _ a r ha
    rw [HandlerWorld.attempt?, List.isEmpty_iff.mp hattempts] at ha
    cases ha

end WeFlow
