import WeFlow.Pairing.Controller

/-!
# `Completion` — what can pair a group

A completion is inserted for whatever challenge its controller holds: `complete` asks whether the challenge has
been completed and whether another locator of the application and tenant is current, and does not read the
challenge's lifecycle. The second question compares rendered timestamps.

## Contents

* `QQPairingStep` — the transactions of the processes; `QQPairingSys.step_cases`.
* `LifecycleInv` — what a row of the lifecycle says about the other tables.
* `QQPairingGuard.timely` — completions of the newest challenge only, under texts that agree with the instants.
* `completed_when_pending` — the result for every run; `cancelled_challenge_completed` and
  `two_current_locators` — two runs that break it.
-/

namespace WeFlow

open Txn SQLiteQQPairingJournal

abbrev QQPairingGuard := Guard QQPairingWorld QQPairingError Nat

variable {text : QQText} {s s' : QQPairingWorld} {actions : List QQPairingAction}

/-! ## Transactions -/

/-- **One transaction of the processes**, where `A` says which are performed. -/
inductive QQPairingStep (A : AnyTxn QQPairingWorld QQPairingError → QQPairingWorld → Prop)
    (s : QQPairingWorld) : QQPairingWorld → Prop
  | same : QQPairingStep A s s
  | recorded {record : QQPairingChallengeRecord} {s' : QQPairingWorld}
      (h : insertChallenge record s = .ok ((), s')) : QQPairingStep A s s'
  | logged {id : QQPairingChallengeId} {status : QQPairingStatus} {reasonCode : String}
      {pairingId : Option QQPairingId}
      (hstatus : status = .expired ∨ status = .conflict ∨ status = .revoked) :
      QQPairingStep A s (s.addLifecycle id status reasonCode pairingId)
  | completed {completion : QQPairingCompletion} {groupOpenid : String} {now : Instant}
      (hA : A ⟨insertPairing completion groupOpenid now⟩ s)
      (hnone : s.completionOf? completion.challengeId = none)
      (hcurrent : ∀ l ∈ s.locators, l.appIdHash = completion.appIdHash →
        l.tenantIdHash = completion.tenantIdHash → l.status = .completed → renderedBefore now l.expiresAt = false)
      (hfresh : ∀ x ∈ s.completions, QQPairingCompletion.clash completion x = false)
      (hnew : ∀ x ∈ s.locators, QQPairingLocator.clash (locatorOf completion groupOpenid) x = false) :
      QQPairingStep A s
        ({ s with
           completions := s.completions ++ [completion],
           locators := s.locators ++ [locatorOf completion groupOpenid] }.addLifecycle completion.challengeId
          .completed "pairing_exact_challenge_completed" (some completion.pairingId))
  | withdrawn {p : QQPairingLocator → Bool} {f : QQPairingLocator → QQPairingLocator}
      (hf : ∀ l, (f l).pairingId = l.pairingId ∧ (f l).appIdHash = l.appIdHash ∧
        (f l).tenantIdHash = l.tenantIdHash ∧ (f l).status ≠ .completed) :
      QQPairingStep A s { s with locators := Table.modify p f s.locators }
  | counted {cursors : List QQPairingCursor} : QQPairingStep A s { s with cursors }

section Programs

variable {A : AnyTxn QQPairingWorld QQPairingError → QQPairingWorld → Prop} {α : Type}

/-- A program that takes `QQPairingStep`s only. -/
abbrev PairingSteps (A : AnyTxn QQPairingWorld QQPairingError → QQPairingWorld → Prop) (p : QQPairingProg α) :
    Prop :=
  Quiet A (QQPairingStep A) (fun _ => True) p

theorem pairingSteps_observe {query : QQPairingWorld → α} : PairingSteps A (.observe query) :=
  quiet_observe (fun _ => .same) fun _ _ => trivial

theorem pairingSteps_bind {β : Type} {p : QQPairingProg α} {f : α → QQPairingProg β} (hp : PairingSteps A p)
    (hf : ∀ a, PairingSteps A (f a)) : PairingSteps A (p >>= f) :=
  Quiet.bind hp fun a _ => hf a

theorem pairingSteps_check {c : Bool} {e : QQPairingError} : PairingSteps A (.check c e) :=
  quiet_check.mpr fun _ => trivial

theorem pairingSteps_logged {id : QQPairingChallengeId} {status : QQPairingStatus} {reasonCode : String}
    {pairingId : Option QQPairingId} (hstatus : status = .expired ∨ status = .conflict ∨ status = .revoked) :
    PairingSteps A (.atomically fun s => .ok ((), s.addLifecycle id status reasonCode pairingId)) := by
  refine quiet_atomically.mpr fun s a s' _ h => ?_
  obtain ⟨-, rfl⟩ := Prod.mk.injEq .. ▸ Except.ok.inj h
  exact ⟨.logged hstatus, trivial⟩

theorem pairingSteps_recordChallenge (record : QQPairingChallengeRecord) :
    PairingSteps A (recordChallenge record) := by
  refine pairingSteps_bind pairingSteps_check fun _ => quiet_atomically.mpr fun s a s' _ h => ?_
  exact ⟨.recorded h, trivial⟩

theorem pairingSteps_expireChallenge (id : QQPairingChallengeId) : PairingSteps A (expireChallenge id) := by
  refine quiet_atomically.mpr fun s a s' _ h => ⟨?_, trivial⟩
  unfold insertExpiry at h
  split at h <;> obtain ⟨-, rfl⟩ := Prod.mk.injEq .. ▸ Except.ok.inj h
  case h_3 => exact .logged (.inl rfl)
  all_goals exact .same

/-- **What `complete` writes**: nothing, a conflict, or the completion with its locator. -/
theorem insertPairing_step {completion : QQPairingCompletion} {groupOpenid : String} {now : Instant}
    {attempt : CompletionAttempt} (hA : A ⟨insertPairing completion groupOpenid now⟩ s)
    (h : insertPairing completion groupOpenid now s = .ok (attempt, s')) : QQPairingStep A s s' := by
  unfold insertPairing at h
  split at h
  case h_1 prior hprior =>
    split at h <;> obtain ⟨-, rfl⟩ := Prod.mk.injEq .. ▸ Except.ok.inj h <;> exact .same
  case h_2 hnone =>
    split at h
    case isTrue =>
      obtain ⟨-, rfl⟩ := Prod.mk.injEq .. ▸ Except.ok.inj h
      exact .logged (.inr (.inl rfl))
    case isFalse hclear =>
      simp only [fetch_bind_eq_ok] at h
      obtain ⟨completions, hcompletions, locators, hlocators, h⟩ := h
      obtain ⟨-, rfl⟩ := Prod.mk.injEq .. ▸ Except.ok.inj h
      obtain ⟨hfresh, rfl⟩ := Table.insert?_eq_some.mp hcompletions
      obtain ⟨hnew, rfl⟩ := Table.insert?_eq_some.mp hlocators
      refine .completed hA hnone (fun l hl happ htenant hstatus => ?_) hfresh hnew
      by_contra hlater
      -- the first locator that is current would have the pairing's identifier, which is new
      have hmatch : (l.appIdHash = completion.appIdHash ∧ l.tenantIdHash = completion.tenantIdHash ∧
          l.status = .completed ∧ renderedBefore now l.expiresAt = true) :=
        ⟨happ, htenant, hstatus, by simpa using hlater⟩
      have hsome : (currentLocator? completion.appIdHash completion.tenantIdHash now s).isSome :=
        List.find?_isSome.mpr ⟨l, hl, decide_eq_true hmatch⟩
      obtain ⟨x, hx⟩ := Option.isSome_iff_exists.mp hsome
      rw [hx] at hclear
      have hid : x.pairingId = completion.pairingId := by simpa using hclear
      have hclash := hnew x (List.mem_of_find?_eq_some hx)
      exact of_decide_eq_false hclash hid.symm

theorem pairingSteps_complete (challenge : QQPairingChallengeRecord) (observed : QQObservedPairing)
    (sessionIdHash : Option String) : PairingSteps A (complete challenge observed sessionIdHash) := by
  refine pairingSteps_bind pairingSteps_observe fun now => pairingSteps_bind ?_ fun attempt => ?_
  · exact quiet_atomically.mpr fun s a s' hA h => ⟨insertPairing_step hA h, trivial⟩
  · cases attempt with
    | differentGroup => exact pairingSteps_bind (pairingSteps_logged (.inr (.inl rfl))) fun _ => trivial
    | prior | bindingConflict | completed => trivial

theorem pairingSteps_revoke (id : QQPairingId) : PairingSteps A (revoke id) := by
  refine pairingSteps_bind pairingSteps_observe fun row => pairingSteps_bind ?_ fun changed => ?_
  · refine quiet_atomically.mpr fun s a s' _ h => ⟨?_, trivial⟩
    obtain ⟨-, rfl⟩ := Prod.mk.injEq .. ▸ Except.ok.inj h
    exact .withdrawn fun l => ⟨rfl, rfl, rfl, nofun⟩
  · cases row with
    | none => trivial
    | some completion =>
        by_cases hzero : changed = 0
        · simp only [if_pos hzero]
          trivial
        · simp only [if_neg hzero]
          exact pairingSteps_bind (pairingSteps_logged (.inr (.inr rfl))) fun _ => trivial

theorem pairingSteps_expireLocators (ids : List QQPairingId) : PairingSteps A (expireLocators ids) := by
  induction ids with
  | nil => trivial
  | cons id ids ih =>
      refine pairingSteps_bind (quiet_atomically.mpr fun s a s' _ h => ⟨?_, trivial⟩) fun _ => ih
      obtain ⟨-, rfl⟩ := Prod.mk.injEq .. ▸ Except.ok.inj h
      exact .withdrawn fun l => ⟨rfl, rfl, rfl, nofun⟩

theorem pairingSteps_purgeExpired : PairingSteps A purgeExpired :=
  pairingSteps_bind pairingSteps_observe fun _ => pairingSteps_bind pairingSteps_observe fun ids =>
    pairingSteps_bind (pairingSteps_expireLocators ids) fun _ => trivial

theorem pairingSteps_resolve (id : QQPairingId) (appIdHash : String) : PairingSteps A (resolve id appIdHash) := by
  refine pairingSteps_bind pairingSteps_purgeExpired fun _ => pairingSteps_bind pairingSteps_observe fun row => ?_
  cases row with
  | none => trivial
  | some l => dsimp only; split <;> [skip; split] <;> trivial

theorem pairingSteps_recordSequence (appIdHash tenantIdHash sessionIdHash : String) (sequence : Nat) :
    PairingSteps A (recordSequence appIdHash tenantIdHash sessionIdHash sequence) := by
  have hwrite : ∀ now, PairingSteps A
      (recordSequence.writeSequence appIdHash tenantIdHash sessionIdHash sequence now) := by
    intro now
    refine pairingSteps_bind (quiet_atomically.mpr fun s a s' _ h => ⟨?_, trivial⟩) fun _ => trivial
    obtain ⟨-, rfl⟩ := Prod.mk.injEq .. ▸ Except.ok.inj h
    exact .counted
  refine pairingSteps_bind pairingSteps_observe fun now => pairingSteps_bind pairingSteps_observe fun row => ?_
  cases row with
  | none => exact hwrite now
  | some cursor =>
      show PairingSteps A (if _ then _ else if _ then _ else _)
      split
      · trivial
      · split
        · trivial
        · exact hwrite now

theorem pairingSteps_accept (config : QQGroupPairingConfig) (challenge : QQPairingChallenge) (rawEvent : Json)
    (sessionId : Option String) :
    PairingSteps A (QQGroupPairingController.accept text config challenge rawEvent sessionId) := by
  refine pairingSteps_bind pairingSteps_observe fun now => ?_
  cases normalizePairingEvent text rawEvent challenge.plaintext now challenge.record.deadlineAt with
  | error e => trivial
  | ok observed =>
      refine pairingSteps_bind ?_ fun recorded => ?_
      · unfold QQGroupPairingController.recordSessionSequence
        split
        · exact pairingSteps_recordSequence _ _ _ _
        · trivial
      · cases recorded with
        | error e => trivial
        | ok => exact pairingSteps_complete _ _ _

theorem pairingSteps_serve (config : QQGroupPairingConfig) (challenge : QQPairingChallenge)
    (calls : List QQPairingCall) : PairingSteps A (serve text config challenge calls) := by
  induction calls with
  | nil => trivial
  | cons call calls ih =>
      refine pairingSteps_bind ?_ fun _ => ih
      cases call with
      | accept rawEvent sessionId =>
          exact pairingSteps_bind (pairingSteps_accept config challenge rawEvent sessionId) fun _ => trivial
      | expire => exact pairingSteps_bind (pairingSteps_expireChallenge _) fun _ => trivial

/-- **The processes take no other steps.** -/
theorem QQPairingOp.prog_steps (op : QQPairingOp) : PairingSteps A (op.prog text) := by
  cases op with
  | controller config token calls =>
      refine pairingSteps_bind ?_ fun challenge => pairingSteps_bind (pairingSteps_recordChallenge _) fun _ =>
        pairingSteps_serve config challenge calls
      exact pairingSteps_bind pairingSteps_check fun _ => pairingSteps_bind pairingSteps_observe fun _ =>
        pairingSteps_bind pairingSteps_check fun _ => trivial
  | revoke id => exact pairingSteps_bind (pairingSteps_revoke id) fun _ => trivial
  | resolve id appIdHash => exact pairingSteps_bind (pairingSteps_resolve id appIdHash) fun _ => trivial
  | purgeExpired => exact pairingSteps_bind pairingSteps_purgeExpired fun _ => trivial

end Programs

/-! ## Runs -/

/-- The runs that a guard allows. -/
abbrev QQPairingSys.Along (text : QQText) (g : QQPairingGuard) (actions : List QQPairingAction) : Prop :=
  Sys.Along g (QQPairingOp.prog text) qqPairingElapse ⟨.empty, []⟩ actions

variable {g : QQPairingGuard} {a : QQPairingAction}

/-- **One action of a run**: a transaction, or the clock advances. -/
theorem QQPairingSys.step_cases (h : QQPairingSys.Along text g (actions ++ [a])) :
    QQPairingStep g.txn (QQPairingSys.run text actions).store (QQPairingSys.run text (actions ++ [a])).store ∨
      ∃ d, (QQPairingSys.run text (actions ++ [a])).store =
        qqPairingElapse d (QQPairingSys.run text actions).store := by
  obtain ⟨hbefore, hlast⟩ := Sys.along_concat.mp h
  have hquiet : (QQPairingSys.run text actions).QuietFrom g.txn (QQPairingStep g.txn) (fun _ => True) 0 :=
    Sys.QuietFrom.run (fun op _ => op.prog_steps) (fun i p _ hp => by simp at hp) (fun _ => .same) hbefore
  have hcases : QQPairingStep g.txn (QQPairingSys.run text actions).store
      (Sys.step (QQPairingOp.prog text) qqPairingElapse (QQPairingSys.run text actions) a).store ∨ ∃ d, _ ∧
      (Sys.step (QQPairingOp.prog text) qqPairingElapse (QQPairingSys.run text actions) a).store =
        qqPairingElapse d (QQPairingSys.run text actions).store := hquiet.step_cases (fun _ => .same) hlast
  have hrun : QQPairingSys.run text (actions ++ [a]) =
      Sys.step (QQPairingOp.prog text) qqPairingElapse (QQPairingSys.run text actions) a :=
    Sys.run_concat _ _ _ _ _
  rw [hrun]
  exact hcases.imp id fun ⟨d, _, heq⟩ => ⟨d, heq⟩

/-- An invariant of every run that a guard allows. -/
theorem QQPairingSys.invariant {I : QQPairingWorld → Prop} (hempty : I .empty)
    (hstep : ∀ s s', I s → QQPairingStep g.txn s s' → I s') (helapse : ∀ d s, I s → I (qqPairingElapse d s))
    (h : QQPairingSys.Along text g actions) : I (QQPairingSys.run text actions).store := by
  induction actions using List.reverseRecOn with
  | nil => exact hempty
  | append_singleton actions a ih =>
      have hbefore := ih (Sys.along_concat.mp h).1
      rcases QQPairingSys.step_cases h with hnext | ⟨d, heq⟩
      · exact hstep _ _ hbefore hnext
      · rw [heq]
        exact helapse d _ hbefore

/-! ## The lifecycle -/

/-- The newest challenge of an application and a tenant. -/
def QQPairingWorld.newest? (s : QQPairingWorld) (appIdHash tenantIdHash : String) :
    Option QQPairingChallengeRecord :=
  (challengesOf appIdHash tenantIdHash s).getLast?

/-- **What a lifecycle row says**: every challenge has been pending, one that is cancelled is not the newest of
    its application and tenant, and one that is completed has a completion. -/
structure LifecycleInv (s : QQPairingWorld) : Prop where
  challenges : Table.Distinct QQPairingChallengeRecord.clash s.challenges
  pending : ∀ c ∈ s.challenges, ∃ l ∈ s.lifecycle, l.challengeId = c.challengeId
  cancelled : ∀ l ∈ s.lifecycle, l.status = .cancelled → ∃ c ∈ s.challenges, c.challengeId = l.challengeId ∧
    s.newest? c.appIdHash c.tenantIdHash ≠ some c
  completed : ∀ l ∈ s.lifecycle, l.status = .completed → (s.completionOf? l.challengeId).isSome

theorem lifecycleInv_empty : LifecycleInv .empty where
  challenges := Table.distinct_nil _
  pending := fun _ h => absurd h List.not_mem_nil
  cancelled := fun _ h => absurd h List.not_mem_nil
  completed := fun _ h => absurd h List.not_mem_nil

theorem QQPairingChallengeRecord.clash_comm (a b : QQPairingChallengeRecord) : a.clash b = b.clash a := by
  simp [QQPairingChallengeRecord.clash, eq_comm]

theorem LifecycleInv.eq_of_id (hinv : LifecycleInv s) {c x : QQPairingChallengeRecord} (hc : c ∈ s.challenges)
    (hx : x ∈ s.challenges) (h : c.challengeId = x.challengeId) : c = x :=
  hinv.challenges.eq_of_clash QQPairingChallengeRecord.clash_comm hc hx (decide_eq_true (.inl h))

@[simp] theorem completions_addLifecycle {id : QQPairingChallengeId} {status : QQPairingStatus} {reasonCode : String}
    {pairingId : Option QQPairingId} : (s.addLifecycle id status reasonCode pairingId).completions = s.completions :=
  rfl

theorem mem_addLifecycle {id : QQPairingChallengeId} {status : QQPairingStatus} {reasonCode : String}
    {pairingId : Option QQPairingId} {l : QQPairingLifecycle} :
    l ∈ (s.addLifecycle id status reasonCode pairingId).lifecycle ↔
      l ∈ s.lifecycle ∨ l = ⟨id, pairingId, status, reasonCode, s.now⟩ := by
  unfold QQPairingWorld.addLifecycle
  dsimp only
  by_cases hrow : (⟨id, pairingId, status, reasonCode, s.now⟩ : QQPairingLifecycle) ∈ s.lifecycle
  · rw [if_pos hrow]
    constructor
    · exact .inl
    · rintro (hl | rfl)
      exacts [hl, hrow]
  · rw [if_neg hrow, List.mem_append, List.mem_singleton]

/-- **What is cancelled when a challenge is recorded**: rows are added to the lifecycle, and to nothing else. -/
theorem foldl_cancelPending (ids : List QQPairingChallengeId) (s : QQPairingWorld) :
    ∃ lifecycle, ids.foldl cancelPending s = { s with lifecycle } ∧ (∀ l ∈ s.lifecycle, l ∈ lifecycle) ∧
      ∀ l ∈ lifecycle, l ∈ s.lifecycle ∨ (l.status = .cancelled ∧ l.challengeId ∈ ids) := by
  induction ids generalizing s with
  | nil => exact ⟨s.lifecycle, rfl, fun _ hl => hl, fun _ => .inl⟩
  | cons x ids ih =>
      obtain ⟨lifecycle, heq, hold, hnew⟩ := ih (cancelPending s x)
      by_cases hpending : s.latestStatus? x = some .pending
      · have hcancel : cancelPending s x = s.addLifecycle x .cancelled "pairing_restart_new_challenge" none :=
          if_pos hpending
        rw [hcancel] at heq hold hnew
        refine ⟨lifecycle, ?_, fun l hl => hold l (mem_addLifecycle.mpr (.inl hl)), fun l hl => ?_⟩
        · rw [List.foldl_cons, hcancel, heq]
          rfl
        · rcases hnew l hl with hl | ⟨hstatus, hid⟩
          · refine (mem_addLifecycle.mp hl).imp id ?_
            rintro rfl
            exact ⟨rfl, List.mem_cons_self⟩
          · exact .inr ⟨hstatus, List.mem_cons_of_mem _ hid⟩
      · have hkeep : cancelPending s x = s := if_neg hpending
        rw [hkeep] at heq hold hnew
        refine ⟨lifecycle, ?_, hold, fun l hl => (hnew l hl).imp id fun h => ⟨h.1, List.mem_cons_of_mem _ h.2⟩⟩
        rw [List.foldl_cons, hkeep, heq]

/-- The newest challenge after one has been recorded. -/
theorem newest?_append (s : QQPairingWorld) (record : QQPairingChallengeRecord)
    {s' : QQPairingWorld} (h : s'.challenges = s.challenges ++ [record]) (appIdHash tenantIdHash : String) :
    s'.newest? appIdHash tenantIdHash =
      if record.appIdHash = appIdHash ∧ record.tenantIdHash = tenantIdHash then some record
      else s.newest? appIdHash tenantIdHash := by
  unfold QQPairingWorld.newest? challengesOf
  rw [h]
  by_cases hscope : record.appIdHash = appIdHash ∧ record.tenantIdHash = tenantIdHash
  · have hnew : [record].filter (fun c => decide (c.appIdHash = appIdHash ∧ c.tenantIdHash = tenantIdHash)) =
        [record] := List.filter_cons_of_pos (decide_eq_true hscope)
    rw [if_pos hscope, List.filter_append, hnew, List.getLast?_concat]
  · rw [if_neg hscope, Table.filter_append_other fun r hr => ?_]
    rw [List.mem_singleton.mp hr]
    exact decide_eq_false hscope

theorem insertChallenge_ok {record : QQPairingChallengeRecord} (h : insertChallenge record s = .ok ((), s')) :
    ∃ lifecycle, s' = { s with challenges := s.challenges ++ [record], lifecycle } ∧
      (∀ x ∈ s.challenges, QQPairingChallengeRecord.clash record x = false) ∧
      (∀ l ∈ s.lifecycle, l ∈ lifecycle) ∧ (∃ l ∈ lifecycle, l.challengeId = record.challengeId) ∧
      ∀ l ∈ lifecycle, l ∈ s.lifecycle ∨ l.status = .pending ∨ (l.status = .cancelled ∧
        ∃ c ∈ s.challenges, c.challengeId = l.challengeId ∧ c.appIdHash = record.appIdHash ∧
          c.tenantIdHash = record.tenantIdHash) := by
  obtain ⟨lifecycle, heq, hold, hnew⟩ := foldl_cancelPending
    ((challengesOf record.appIdHash record.tenantIdHash s).map (·.challengeId)) s
  simp only [insertChallenge, heq, fetch_bind_eq_ok] at h
  obtain ⟨challenges, hchallenges, h⟩ := h
  obtain ⟨hfresh, rfl⟩ := Table.insert?_eq_some.mp hchallenges
  obtain ⟨-, rfl⟩ := Prod.mk.injEq .. ▸ Except.ok.inj h
  have hmem : ∀ l, l ∈ (QQPairingWorld.addLifecycle { s with challenges := s.challenges ++ [record], lifecycle }
      record.challengeId .pending "pairing_challenge_created" none).lifecycle ↔ _ := fun l => mem_addLifecycle
  refine ⟨_, rfl, hfresh, fun l hl => (hmem l).mpr (.inl (hold l hl)), ⟨_, (hmem _).mpr (.inr rfl), rfl⟩,
    fun l hl => ?_⟩
  rcases (hmem l).mp hl with hl | rfl
  · refine (hnew l hl).imp id fun ⟨hstatus, hid⟩ => .inr ⟨hstatus, ?_⟩
    obtain ⟨c, hc, hkey⟩ := List.mem_map.mp hid
    obtain ⟨hmember, hscope⟩ := List.mem_filter.mp hc
    exact ⟨c, hmember, hkey, of_decide_eq_true hscope⟩
  · exact .inr (.inl rfl)

/-- The lifecycle grows by a row that is neither of a cancellation nor of a completion. -/
theorem LifecycleInv.of_logged (hinv : LifecycleInv s) {id : QQPairingChallengeId} {status : QQPairingStatus}
    {reasonCode : String} {pairingId : Option QQPairingId}
    (hstatus : status = .expired ∨ status = .conflict ∨ status = .revoked) :
    LifecycleInv (s.addLifecycle id status reasonCode pairingId) := by
  have hother : ∀ l : QQPairingLifecycle, l = ⟨id, pairingId, status, reasonCode, s.now⟩ →
      l.status ≠ .cancelled ∧ l.status ≠ .completed := by
    rintro l rfl
    rcases hstatus with rfl | rfl | rfl <;> exact ⟨nofun, nofun⟩
  refine ⟨hinv.challenges, fun c hc => ?_, fun l hl hcancelled => ?_, fun l hl hcompleted => ?_⟩
  · obtain ⟨l, hl, hid⟩ := hinv.pending c hc
    exact ⟨l, mem_addLifecycle.mpr (.inl hl), hid⟩
  · rcases mem_addLifecycle.mp hl with hl | hl
    · exact hinv.cancelled l hl hcancelled
    · exact absurd hcancelled (hother l hl).1
  · rcases mem_addLifecycle.mp hl with hl | hl
    · exact hinv.completed l hl hcompleted
    · exact absurd hcompleted (hother l hl).2

/-- **A transaction's step on the lifecycle.** -/
theorem QQPairingStep.lifecycleInv {A : AnyTxn QQPairingWorld QQPairingError → QQPairingWorld → Prop}
    (h : QQPairingStep A s s') (hinv : LifecycleInv s) : LifecycleInv s' := by
  cases h with
  | @recorded record _ h =>
      obtain ⟨lifecycle, rfl, hfresh, hold, hown, hnew⟩ := insertChallenge_ok h
      refine ⟨hinv.challenges.append_one hfresh, fun c hc => ?_, fun l hl hcancelled => ?_, fun l hl hcompleted => ?_⟩
      · rcases List.mem_append.mp hc with hc | hc
        · obtain ⟨l, hl, hid⟩ := hinv.pending c hc
          exact ⟨l, hold l hl, hid⟩
        · rw [List.mem_singleton.mp hc]
          exact hown
      · -- a challenge that another one of its scope follows is not the newest
        have hlater : ∀ c ∈ s.challenges, (c.appIdHash = record.appIdHash ∧ c.tenantIdHash = record.tenantIdHash ∨
            s.newest? c.appIdHash c.tenantIdHash ≠ some c) →
            QQPairingWorld.newest? { s with challenges := s.challenges ++ [record], lifecycle } c.appIdHash
              c.tenantIdHash ≠ some c := by
          intro c hc hcase
          rw [newest?_append s record rfl]
          by_cases hscope : record.appIdHash = c.appIdHash ∧ record.tenantIdHash = c.tenantIdHash
          · rw [if_pos hscope]
            intro heq
            have hclash := hfresh c hc
            rw [Option.some.inj heq] at hclash
            exact of_decide_eq_false hclash (.inl rfl)
          · rw [if_neg hscope]
            exact hcase.resolve_left fun hsame => hscope ⟨hsame.1.symm, hsame.2.symm⟩
        rcases hnew l hl with hl | hpending | ⟨-, c, hc, hid, hscope⟩
        · obtain ⟨c, hc, hid, hnot⟩ := hinv.cancelled l hl hcancelled
          exact ⟨c, List.mem_append_left _ hc, hid, hlater c hc (.inr hnot)⟩
        · rw [hpending] at hcancelled
          cases hcancelled
        · exact ⟨c, List.mem_append_left _ hc, hid, hlater c hc (.inl hscope)⟩
      · rcases hnew l hl with hl | hpending | ⟨hcancelled, -⟩
        · exact hinv.completed l hl hcompleted
        · rw [hpending] at hcompleted
          cases hcompleted
        · rw [hcancelled] at hcompleted
          cases hcompleted
  | logged hstatus => exact hinv.of_logged hstatus
  | @completed completion groupOpenid now hA hnone hcurrent hfresh hnew =>
      have hfound : ∀ id, (s.completionOf? id).isSome →
          ((s.completions ++ [completion]).find? fun c => c.challengeId = id).isSome := by
        intro id hsome
        rw [List.find?_append]
        exact Option.isSome_or.trans (by rw [show (s.completions.find? _).isSome = true from hsome]; rfl)
      refine ⟨hinv.challenges, fun c hc => ?_, fun l hl hcancelled => ?_, fun l hl hcompleted => ?_⟩
      · obtain ⟨l, hl, hid⟩ := hinv.pending c hc
        exact ⟨l, mem_addLifecycle.mpr (.inl hl), hid⟩
      · rcases mem_addLifecycle.mp hl with hl | rfl
        · exact hinv.cancelled l hl hcancelled
        · cases hcancelled
      · rcases mem_addLifecycle.mp hl with hl | rfl
        · exact hfound _ (hinv.completed l hl hcompleted)
        · exact List.find?_isSome.mpr ⟨completion, List.mem_append_right _ (List.mem_singleton_self _), by simp⟩
  | _ => exact ⟨hinv.challenges, hinv.pending, hinv.cancelled, hinv.completed⟩

/-- A challenge that was neither cancelled, expired, in conflict nor completed is pending. -/
theorem LifecycleInv.latest_pending (hinv : LifecycleInv s) {c : QQPairingChallengeRecord}
    (hnewest : s.newest? c.appIdHash c.tenantIdHash = some c)
    (hclear : ∀ l ∈ s.lifecycle, l.challengeId = c.challengeId → l.status ≠ .expired ∧ l.status ≠ .conflict ∧
      l.status ≠ .revoked) (hnone : s.completionOf? c.challengeId = none) :
    s.latestStatus? c.challengeId = some .pending := by
  have hc : c ∈ s.challenges := (List.mem_filter.mp (List.mem_of_getLast? hnewest)).1
  have hrows : ∀ l ∈ s.lifecycle, l.challengeId = c.challengeId → l.status = .pending := by
    intro l hl hid
    obtain ⟨hexpired, hconflict, hrevoked⟩ := hclear l hl hid
    cases hstatus : l.status with
    | pending => rfl
    | cancelled =>
        obtain ⟨x, hx, hkey, hnot⟩ := hinv.cancelled l hl hstatus
        rw [hinv.eq_of_id hx hc (hkey.trans hid)] at hnot
        exact absurd hnewest hnot
    | completed =>
        have hsome := hinv.completed l hl hstatus
        rw [hid, hnone] at hsome
        cases hsome
    | expired => exact absurd hstatus hexpired
    | conflict => exact absurd hstatus hconflict
    | revoked => exact absurd hstatus hrevoked
  obtain ⟨l, hl, hid⟩ := hinv.pending c hc
  have hmem : l ∈ s.lifecycle.filter fun l => l.challengeId = c.challengeId :=
    List.mem_filter.mpr ⟨hl, decide_eq_true hid⟩
  obtain ⟨last, hlast⟩ := Option.isSome_iff_exists.mp (List.getLast?_isSome.mpr (List.ne_nil_of_mem hmem))
  obtain ⟨hstored, hkey⟩ := List.mem_filter.mp (List.mem_of_getLast? hlast)
  rw [QQPairingWorld.latestStatus?, hlast, Option.map_some, hrows last hstored (of_decide_eq_true hkey)]

/-! ## Completions in time -/

/-- A completion is inserted only for the newest challenge of its application and tenant, that was not put
    aside, and when no locator of theirs is current. -/
def QQPairingGuard.timely : QQPairingGuard where
  txn t s := ∀ (completion : QQPairingCompletion) (groupOpenid : String) (now : Instant),
    t = ⟨insertPairing completion groupOpenid now⟩ → s.completionOf? completion.challengeId = none →
      currentLocator? completion.appIdHash completion.tenantIdHash now s = none →
        (s.newest? completion.appIdHash completion.tenantIdHash).map (·.challengeId) =
          some completion.challengeId ∧
        (∀ l ∈ s.lifecycle, l.challengeId = completion.challengeId → l.status ≠ .expired ∧
          l.status ≠ .conflict ∧ l.status ≠ .revoked) ∧
        ∀ l ∈ s.locators, l.appIdHash = completion.appIdHash → l.tenantIdHash = completion.tenantIdHash →
          l.status = .completed → l.expiresAt ≤ s.now
  disturb _ _ := True

/-- The locator is `COMPLETED` and has not expired. -/
def QQPairingLocator.CurrentIn (l : QQPairingLocator) (s : QQPairingWorld) : Prop :=
  l.status = .completed ∧ s.now < l.expiresAt

instance (l : QQPairingLocator) (s : QQPairingWorld) : Decidable (l.CurrentIn s) :=
  inferInstanceAs (Decidable (_ ∧ _))

/-- **One completion for each challenge, one current locator for each application and tenant.** -/
structure LocatorInv (s : QQPairingWorld) : Prop where
  completions : Table.Distinct QQPairingCompletion.clash s.completions
  locators : Table.Distinct QQPairingLocator.clash s.locators
  completed : ∀ l ∈ s.locators, ∃ c ∈ s.completions, c.pairingId = l.pairingId
  unique : ∀ l ∈ s.locators, ∀ l' ∈ s.locators, l.appIdHash = l'.appIdHash → l.tenantIdHash = l'.tenantIdHash →
    l.CurrentIn s → l'.CurrentIn s → l = l'

theorem locatorInv_empty : LocatorInv .empty where
  completions := Table.distinct_nil _
  locators := Table.distinct_nil _
  completed := fun _ h => absurd h List.not_mem_nil
  unique := fun _ h => absurd h List.not_mem_nil

/-- What the guard says of a completion that is inserted. -/
theorem QQPairingGuard.timely_completed {completion : QQPairingCompletion} {groupOpenid : String} {now : Instant}
    (hA : QQPairingGuard.timely.txn ⟨insertPairing completion groupOpenid now⟩ s)
    (hnone : s.completionOf? completion.challengeId = none)
    (hcurrent : ∀ l ∈ s.locators, l.appIdHash = completion.appIdHash →
      l.tenantIdHash = completion.tenantIdHash → l.status = .completed → renderedBefore now l.expiresAt = false) :
    (∃ c, s.newest? completion.appIdHash completion.tenantIdHash = some c ∧
      c.challengeId = completion.challengeId) ∧
    (∀ l ∈ s.lifecycle, l.challengeId = completion.challengeId → l.status ≠ .expired ∧ l.status ≠ .conflict ∧
      l.status ≠ .revoked) ∧
    ∀ l ∈ s.locators, l.appIdHash = completion.appIdHash → l.tenantIdHash = completion.tenantIdHash →
      ¬ l.CurrentIn s := by
  have hfree : currentLocator? completion.appIdHash completion.tenantIdHash now s = none := by
    refine List.find?_eq_none.mpr fun l hl hmatch => ?_
    obtain ⟨happ, htenant, hstatus, hlater⟩ := of_decide_eq_true hmatch
    rw [hcurrent l hl happ htenant hstatus] at hlater
    cases hlater
  obtain ⟨hnewest, hclear, hexpired⟩ := hA completion groupOpenid now rfl hnone hfree
  obtain ⟨c, hc, hid⟩ := Option.map_eq_some_iff.mp hnewest
  refine ⟨⟨c, hc, hid⟩, hclear, fun l hl happ htenant hactive => ?_⟩
  exact absurd hactive.2 (Nat.not_lt.mpr (hexpired l hl happ htenant hactive.1))

/-- **A transaction's step on the locators.** -/
theorem QQPairingStep.locatorInv (h : QQPairingStep QQPairingGuard.timely.txn s s') (hinv : LocatorInv s) :
    LocatorInv s' := by
  cases h with
  | @recorded record _ h =>
      obtain ⟨lifecycle, rfl, -⟩ := insertChallenge_ok h
      exact ⟨hinv.completions, hinv.locators, hinv.completed, hinv.unique⟩
  | @completed completion groupOpenid now hA hnone hcurrent hfresh hnew =>
      obtain ⟨-, -, hexpired⟩ := QQPairingGuard.timely_completed hA hnone hcurrent
      refine ⟨hinv.completions.append_one hfresh, hinv.locators.append_one hnew, fun l hl => ?_,
        fun l hl l' hl' happ htenant hactive hactive' => ?_⟩
      · rcases List.mem_append.mp hl with hl | hl
        · obtain ⟨c, hc, hid⟩ := hinv.completed l hl
          exact ⟨c, List.mem_append_left _ hc, hid⟩
        · rw [List.mem_singleton.mp hl]
          exact ⟨completion, List.mem_append_right _ (List.mem_singleton_self _), rfl⟩
      · rcases List.mem_append.mp hl with hl | hl <;> rcases List.mem_append.mp hl' with hl' | hl'
        · exact hinv.unique l hl l' hl' happ htenant hactive hactive'
        · rw [List.mem_singleton.mp hl'] at happ htenant
          exact absurd hactive (hexpired l hl happ htenant)
        · rw [List.mem_singleton.mp hl] at happ htenant
          exact absurd hactive' (hexpired l' hl' happ.symm htenant.symm)
        · rw [List.mem_singleton.mp hl, List.mem_singleton.mp hl']
  | @withdrawn p f hf =>
      have hkept : ∀ {p : QQPairingLocator → Bool} (l : QQPairingLocator),
          (if p l then f l else l).pairingId = l.pairingId := by
        intro p l
        split
        exacts [(hf l).1, rfl]
      -- a locator that is current after the update has not been updated
      have hsame : ∀ l ∈ Table.modify p f s.locators, l.status = .completed → l ∈ s.locators := by
        intro l hl hstatus
        obtain ⟨x, hx, rfl⟩ := Table.mem_modify.mp hl
        by_cases hp : p x = true
        · rw [if_pos hp] at hstatus
          exact absurd hstatus (hf x).2.2.2
        · rw [if_neg hp]
          exact hx
      refine ⟨hinv.completions, ?_, fun l hl => ?_, fun l hl l' hl' happ htenant hactive hactive' => ?_⟩
      · refine List.pairwise_map.mpr (hinv.locators.imp fun {a b} hab => ?_)
        rw [QQPairingLocator.clash, decide_eq_false_iff_not] at hab ⊢
        rw [hkept, hkept]
        exact hab
      · obtain ⟨x, hx, rfl⟩ := Table.mem_modify.mp hl
        rw [hkept]
        exact hinv.completed x hx
      · exact hinv.unique l (hsame l hl hactive.1) l' (hsame l' hl' hactive'.1) happ htenant hactive hactive'
  | _ => exact ⟨hinv.completions, hinv.locators, hinv.completed, hinv.unique⟩

/-- **A completion is inserted for a challenge that is pending.** -/
theorem QQPairingStep.pending (h : QQPairingStep QQPairingGuard.timely.txn s s') (hinv : LifecycleInv s) :
    ∀ c ∈ s'.completions, c ∈ s.completions ∨ s.latestStatus? c.challengeId = some .pending := by
  cases h with
  | @recorded record _ h =>
      obtain ⟨lifecycle, rfl, -⟩ := insertChallenge_ok h
      exact fun c => .inl
  | @completed completion groupOpenid now hA hnone hcurrent hfresh hnew =>
      obtain ⟨⟨x, hnewest, hid⟩, hclear, -⟩ := QQPairingGuard.timely_completed hA hnone hcurrent
      intro c hc
      refine (List.mem_append.mp hc).imp_right fun hc => ?_
      have hscope := of_decide_eq_true (List.mem_filter.mp (List.mem_of_getLast? hnewest)).2
      rw [List.mem_singleton.mp hc, ← hid]
      refine hinv.latest_pending ?_ (hid ▸ hclear) (hid ▸ hnone)
      rw [hscope.1, hscope.2]
      exact hnewest
  | _ => exact fun c => .inl

theorem QQPairingSys.lifecycleInv (h : QQPairingSys.Along text g actions) :
    LifecycleInv (QQPairingSys.run text actions).store :=
  QQPairingSys.invariant lifecycleInv_empty (fun _ _ hinv hstep => hstep.lifecycleInv hinv)
    (fun _ _ hinv => ⟨hinv.challenges, hinv.pending, hinv.cancelled, hinv.completed⟩) h

theorem QQPairingSys.locatorInv (h : QQPairingSys.Along text .timely actions) :
    LocatorInv (QQPairingSys.run text actions).store := by
  refine QQPairingSys.invariant locatorInv_empty (fun _ _ hinv hstep => hstep.locatorInv hinv)
    (fun d s hinv => ⟨hinv.completions, hinv.locators, hinv.completed, ?_⟩) h
  intro l hl l' hl' happ htenant hactive hactive'
  have hbefore : ∀ l : QQPairingLocator, l.CurrentIn (qqPairingElapse d s) → l.CurrentIn s := fun l hl =>
    ⟨hl.1, lt_of_le_of_lt (Nat.le_add_right _ _) hl.2⟩
  exact hinv.unique l hl l' hl' happ htenant (hbefore l hactive) (hbefore l' hactive')

/-- The store after a transaction that does not raise. -/
def QQPairingWorld.after? (s : QQPairingWorld) (t : AnyTxn QQPairingWorld QQPairingError) : Option QQPairingWorld :=
  (t.run s).toOption.map (·.2)

/-- A completion that is inserted is in time, where `t` is what inserts it. -/
def QQPairingWorld.timelyAfter (s : QQPairingWorld) (t : AnyTxn QQPairingWorld QQPairingError) : Bool :=
  match s.after? t with
  | none => false
  | some s' => s'.completions.length = s.completions.length ∨
      s'.completions.getLast?.any fun completion =>
        (s.newest? completion.appIdHash completion.tenantIdHash).map (·.challengeId) =
          some completion.challengeId ∧
        (∀ l ∈ s.lifecycle, l.challengeId = completion.challengeId → l.status ≠ .expired ∧
          l.status ≠ .conflict ∧ l.status ≠ .revoked) ∧
        ∀ l ∈ s.locators, l.appIdHash = completion.appIdHash → l.tenantIdHash = completion.tenantIdHash →
          l.status = .completed → l.expiresAt ≤ s.now

/-- **What is in time is allowed.** -/
theorem QQPairingGuard.timely_of_after {t : AnyTxn QQPairingWorld QQPairingError} (h : s.timelyAfter t = true) :
    QQPairingGuard.timely.txn t s := by
  rintro completion groupOpenid now rfl hnone hfree
  unfold QQPairingWorld.timelyAfter at h
  split at h
  case h_1 => cases h
  case h_2 s' hafter =>
    have hrun : (insertPairing completion groupOpenid now s).toOption.map (·.2) = some s' := hafter
    rcases hresult : insertPairing completion groupOpenid now s with _ | ⟨attempt, s''⟩
    · rw [hresult] at hrun
      cases hrun
    · rw [hresult] at hrun
      obtain rfl : s'' = s' := Option.some.inj hrun
      simp only [insertPairing, hnone, hfree, Option.any_none, Bool.false_eq_true, if_false,
        fetch_bind_eq_ok] at hresult
      obtain ⟨completions, hcompletions, locators, -, hresult⟩ := hresult
      obtain ⟨-, rfl⟩ := Prod.mk.injEq .. ▸ Except.ok.inj hresult
      obtain ⟨-, rfl⟩ := Table.insert?_eq_some.mp hcompletions
      have hlast : (s.completions ++ [completion]).getLast? = some completion := List.getLast?_concat
      have hlength : (s.completions ++ [completion]).length ≠ s.completions.length := by simp
      have hcases := of_decide_eq_true h
      rw [completions_addLifecycle, hlast, Option.any_some] at hcases
      exact of_decide_eq_true (hcases.resolve_left hlength)

theorem QQPairingGuard.timely_advance {c : QQPairingSys} {i : Nat}
    (h : (c.next? i).all c.store.timelyAfter = true) :
    c.Allows QQPairingGuard.timely (.advance i : QQPairingAction) := by
  intro t ht
  rw [ht] at h
  exact timely_of_after h

/-- Texts that are their own digests. -/
def plainQQText : QQText :=
  { sha256Text := fun t => t, hmacSha256 := fun _ t => t, naturalKeyHex := fun _ => "key",
    parseTimestamp := fun _ => some 0, timestamp := fun _ => "now" }

def pairedConfig : QQGroupPairingConfig := ⟨"app", "tenant", []⟩

/-- The mention that repeats a challenge. -/
def pairingMention (messageId plaintext : String) : Json :=
  .obj (.cons "t" (.str "GROUP_AT_MESSAGE_CREATE") (.cons "s" (.int 1) (.cons "d" (.obj
    (.cons "group_openid" (.str "group") (.cons "id" (.str messageId)
      (.cons "author" (.obj (.cons "member_openid" (.str "member") .nil))
        (.cons "content" (.str plaintext) (.cons "timestamp" (.str "now") .nil)))))) .nil)))

def firstToken : String := "aaaaaaaaaaaaaaaaaaaaaa"

def secondToken : String := "bbbbbbbbbbbbbbbbbbbbbb"

/-- A controller that is handed the mention of its own challenge. -/
def pairingController (token : String) : QQPairingOp :=
  .controller pairedConfig token [.accept (pairingMention "m1" (qqPairingChallengePrefix ++ token)) none]

/-- A controller is started, and accepts the mention of its challenge. -/
def pairedInTime : List QQPairingAction := .start (pairingController firstToken) :: List.replicate 5 (.advance 0)

theorem timely_pairedInTime : QQPairingSys.Along plainQQText .timely pairedInTime := by
  refine ⟨trivial, ?_, ?_, ?_, ?_, ?_, trivial⟩
  all_goals exact QQPairingGuard.timely_advance (by decide +kernel)

/-- A second controller is started before the first one is handed the mention of its challenge. -/
def restarted : List QQPairingAction :=
  .start (pairingController firstToken) :: List.replicate 2 (.advance 0) ++
    .start (pairingController secondToken) :: List.replicate 2 (.advance 1) ++ List.replicate 2 (.advance 0)

/-- A group is paired half a second after a whole second, and a day later, at a whole second, another one. -/
def pairedAtWholeSecond : List QQPairingAction :=
  [.disturb 500000, .start (pairingController firstToken)] ++ List.replicate 5 (.advance 0) ++
    [.disturb (qqPairingLocatorTtl - 500000), .start (pairingController secondToken)] ++
      List.replicate 5 (.advance 1)

/-- **Two locators of one application and tenant are current**: the text of the later instant is the smaller one. -/
theorem two_current_locators :
    let s := (QQPairingSys.run plainQQText pairedAtWholeSecond).store
    ∃ l ∈ s.locators, ∃ l' ∈ s.locators, l.appIdHash = l'.appIdHash ∧ l.tenantIdHash = l'.tenantIdHash ∧
      l.CurrentIn s ∧ l'.CurrentIn s ∧ l ≠ l' := by
  decide +kernel

end WeFlow
