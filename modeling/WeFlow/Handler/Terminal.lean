import WeFlow.Handler.Case

/-!
# `Terminal` — closed cases stay closed

The commands and the approvals ask `_authorize_case_row` whether the case is still open. The transactions
that store a context, hand an assistance back and record a delivered final reply write the row without
asking. `closedCases` is the schedule on which these three find an open case, and there a closed case is
never written again.

## Contents

* `HandlerGuard.closedCases`, `CaseStep.closed` — one transaction leaves a closed row alone.
* `HandlerSys.closed_row`, `closed_case_absorbing` — every run does.
* `closed_case_reopened` — a redelivered assistance reopens a rejected case.
-/

namespace WeFlow

open Txn SQLiteQQHandlerJournal SQLiteQQModelJournal

/-- In `s` the case has none of the statuses of `P`. -/
def HandlerWorld.Outside (s : HandlerWorld) (P : HandlerStatus → Bool) (caseId : String) : Prop :=
  ∀ c, s.case? caseId = some c → P c.status = false

/-- The two writers of an assistance that do not ask for the status find none of `P`. -/
def HandlerWorld.AssistOutside (s : HandlerWorld) (P : HandlerStatus → Bool)
    (t : AnyTxn HandlerWorld HandlerError) : Prop :=
  (∀ request context, t = ⟨insertContext request context⟩ → s.Outside P request.caseId) ∧
    ∀ outcome, t = ⟨insertOutcome outcome⟩ → outcome.terminalOutcome ≠ .responseReady →
      s.outcome? outcome.assistRequestId = none → s.Outside P outcome.caseId

/-- **The three writers that do not ask for the status** find an open case. An accepted final reply may find
    a case whose final reply has been accepted. -/
def HandlerGuard.closedCases : HandlerGuard where
  txn t s := s.AssistOutside HandlerStatus.terminal t ∧
    ∀ intent result, t = ⟨insertPassiveResult intent result⟩ → intent.responseKind = .final →
      result.providerAccepted = true → s.Outside (· = .rejected) intent.caseId
  disturb _ _ := True

variable {setup : HandlerSetup} {V : HandlerView} {s s' : HandlerWorld} {g : HandlerGuard}
  {actions more : List HandlerAction} {caseId : String} {c c' : HandlerCase} {P : HandlerStatus → Bool}

/-- **One transaction on a closed row**: it is left alone, or its final reply is accepted. -/
theorem CaseStep.closed (h : CaseStep setup V s s' c c')
    (hP : ∀ status, P status = true → status.terminal = true) (hV : ∀ t, V.txn t s → s.AssistOutside P t)
    (hc : s.case? c.caseId = some c) (hstatus : P c.status = true) :
    c' = c ∨ ∃ intent result, intent.caseId = c.caseId ∧ intent.responseKind = .final ∧
      result.providerAccepted = true ∧ V.txn ⟨insertPassiveResult intent result⟩ s ∧
      c' = c.finalAccepted := by
  have hterminal := hP c.status hstatus
  cases h with
  | same => exact .inl rfl
  | drafted _ hopen | responded _ _ _ hopen | simple _ hopen | approved _ hopen =>
      rw [hterminal] at hopen
      cases hopen
  | assistRequested _ _ _ _ haccepted =>
      rw [haccepted] at hterminal
      cases hterminal
  | @investigating request context hr hcase hA =>
      have hopen := (hV _ hA).1 request context rfl c (hcase ▸ hc)
      rw [hstatus] at hopen
      cases hopen
  | @handedBack request outcome hr hof hcase hA hnone hstopped =>
      have hopen := (hV _ hA).2 outcome rfl hstopped hnone c (hcase ▸ hc)
      rw [hstatus] at hopen
      cases hopen
  | @finalAccepted intent result hi hcase hfinal hresult haccepted hA =>
      exact .inr ⟨intent, result, hcase, hfinal, haccepted, hA, rfl⟩

/-- The status `FINAL_ACCEPTED` is written over itself. -/
theorem HandlerCase.finalAccepted_eq (h : c.status = .finalAccepted) : c.finalAccepted = c := by
  show { c with status := .finalAccepted } = c
  rw [← h]

/-- **A closed row stays as it is** on a schedule whose every transaction spares it. -/
theorem HandlerSys.closed_row (hP : ∀ status, P status = true → status.terminal = true)
    (hg : ∀ t s, g.txn t s → s.AssistOutside P t)
    (hfinal : ∀ intent result s c, g.txn ⟨insertPassiveResult intent result⟩ s →
      intent.responseKind = .final → result.providerAccepted = true →
      s.case? intent.caseId = some c → P c.status = true → c.status = .finalAccepted)
    (hc : (HandlerSys.run setup actions).store.case? caseId = some c) (hstatus : P c.status = true)
    (hguard : HandlerSys.Along setup g (actions ++ more)) :
    (HandlerSys.run setup (actions ++ more)).store.case? caseId = some c := by
  induction more using List.reverseRecOn with
  | nil => rw [List.append_nil]; exact hc
  | append_singleton more a ih =>
      rw [← List.append_assoc] at hguard ⊢
      have hbefore := ih (Sys.along_concat.mp hguard).1
      rcases HandlerSys.step_cases (O := fun _ => True) (fun _ _ => trivial) hguard with
        hstep | ⟨e, -, heq⟩
      · obtain ⟨c', hc', hrow⟩ := hstep.case_step hbefore
        have hown : (HandlerSys.run setup (actions ++ more)).store.case? c.caseId = some c :=
          (HandlerWorld.case?_some hbefore).2.symm ▸ hbefore
        rcases hrow.closed hP (fun t h => hg t _ h.2) hown hstatus with
          rfl | ⟨intent, result, hcase, hkind, haccepted, hA, rfl⟩
        · exact hc'
        · rw [hc', HandlerCase.finalAccepted_eq]
          exact hfinal intent result _ c hA.2 hkind haccepted (hcase ▸ hown) hstatus
      · rw [heq, handlerDisturbance_case?]
        exact hbefore

/-- **Closed cases are absorbing** on every schedule on which the three writers find open cases. -/
theorem closed_case_absorbing (setup : HandlerSetup) (actions more : List HandlerAction) (caseId : String)
    (c : HandlerCase) (hc : (HandlerSys.run setup actions).store.case? caseId = some c)
    (hterminal : c.status.terminal = true)
    (hguard : HandlerSys.Along setup .closedCases (actions ++ more)) :
    (HandlerSys.run setup (actions ++ more)).store.case? caseId = some c := by
  have hspares : ∀ t s, HandlerGuard.closedCases.txn t s → s.AssistOutside HandlerStatus.terminal t :=
    fun t s h => h.1
  refine HandlerSys.closed_row (fun _ h => h) hspares ?_ hc hterminal hguard
  intro intent result s x hA hkind haccepted hx hclosed
  have hunrejected := hA.2 intent result rfl hkind haccepted x hx
  cases hs : x.status with
  | rejected => rw [hs] at hunrejected; cases hunrejected
  | finalAccepted => rfl
  | _ => rw [hs] at hclosed; cases hclosed

/-- Every case is open. -/
def HandlerWorld.allOpen (s : HandlerWorld) : Bool := s.cases.all fun c => !c.status.terminal

theorem HandlerWorld.outside_of_allOpen (h : s.allOpen = true)
    (hP : ∀ status, P status = true → status.terminal = true) (caseId : String) : s.Outside P caseId := by
  intro c hc
  have hall := List.all_eq_true.mp h c (HandlerWorld.case?_some hc).1
  rw [Bool.not_eq_true'] at hall
  refine Bool.eq_false_iff.mpr fun hstatus => ?_
  rw [hP _ hstatus] at hall
  cases hall

theorem HandlerGuard.closedCases_of_allOpen (s : HandlerWorld) (h : s.allOpen = true) :
    (∀ t, HandlerGuard.closedCases.txn t s) ∧ ∀ e, HandlerGuard.closedCases.disturb e s := by
  have houtside := s.outside_of_allOpen h (P := HandlerStatus.terminal) fun _ h => h
  refine ⟨fun t => ⟨⟨fun request _ _ => houtside _, fun outcome _ _ _ => houtside _⟩, ?_⟩,
    fun _ => trivial⟩
  intro intent result _ _ _
  refine s.outside_of_allOpen h (fun status hstatus => ?_) intent.caseId
  rw [of_decide_eq_true hstatus]
  rfl

/-- The case is rejected by its handler. -/
def rejectedCase : List HandlerAction :=
  openedCase ++
    callSteps (.privateEvent .third onlyBinding (privateMessage "m1" 1 (.simple (.reject "no")))) 2 11

/-- The rejected case stays as it is when the call dies and its message is delivered again later. -/
theorem closed_case_absorbing_rejected :
    (HandlerSys.run plainSetup (rejectedCase ++ [.crash 2, .disturb (.elapse 60),
        .start (.privateEvent .third onlyBinding (privateMessage "m1" 1 (.simple (.reject "no"))))])).store.case?
          "c1" =
      (HandlerSys.run plainSetup rejectedCase).store.case? "c1" := by
  have hclosed : (((HandlerSys.run plainSetup rejectedCase).store.case? "c1").any fun c =>
      c.status.terminal) = true := by decide +kernel
  obtain ⟨c, hc, hterminal⟩ := (Option.any_eq_true _ _).mp hclosed
  have hopen : HandlerSys.Along plainSetup .closedCases rejectedCase :=
    Sys.along_of_startsIn HandlerGuard.closedCases_of_allOpen (by decide +kernel)
  rw [hc]
  exact closed_case_absorbing plainSetup rejectedCase _ "c1" c hc hterminal
    (Sys.along_append.mpr ⟨hopen, trivial, trivial, trivial, trivial⟩)

/-! ## A run that reopens a case -/

/-- The answer of a model run that is ready. -/
def readyAnswer : RuntimeAnswer := ⟨.responseReady, "ok", some "draft", true, "budget", 1, "usage"⟩

/-- The case is accepted, and an assistance is requested; the call dies before it reads the issue. The
    rejection that follows closes the case and deletes the issue. -/
def rejectedAfterAssist : List HandlerAction :=
  openedCase ++ callSteps (.privateEvent .third onlyBinding (privateMessage "m1" 1 (.simple .accept))) 2 30 ++
    callSteps (.assistEvent onlyBinding (assistMessage "m2" 2) readyAnswer) 3 9 ++ [.crash 3] ++
    callSteps (.privateEvent .third onlyBinding (privateMessage "m3" 2 (.simple (.reject "no")))) 4 30

/-- The assistance is delivered again, and stops because its issue is gone. -/
def redeliveredAssist : List HandlerAction :=
  callSteps (.assistEvent onlyBinding (assistMessage "m2" 2) readyAnswer) 5 40

/-- Status and version of a case. -/
def HandlerWorld.standing (s : HandlerWorld) (caseId : String) : Option (HandlerStatus × Nat) :=
  (s.case? caseId).map fun c => (c.status, c.workflowVersion)

/-- **A rejected case is accepted again**, one version later. -/
theorem closed_case_reopened :
    (HandlerSys.run plainSetup rejectedAfterAssist).store.standing "c1" = some (.rejected, 3) ∧
      (HandlerSys.run plainSetup (rejectedAfterAssist ++ redeliveredAssist)).store.standing "c1" =
        some (.accepted, 4) := by
  constructor <;> decide +kernel

end WeFlow
