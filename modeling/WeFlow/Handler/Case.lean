import WeFlow.Handler.Step

/-!
# `Case` — what one transaction can do to a case

`CaseStep setup V s s' c c'` is the row of a case before and after a transaction from `s` to `s'`. Versions
never go back. The commands and the approvals change an open case at its own version; a context, an outcome of an
assistance and a delivered final reply change the row whatever it holds.

## Contents

* `CaseStep`, `HandlerStep.case_step` — the steps of a row.
* `CaseStep.version_le`, `HandlerSys.case_version_le` — versions only grow.
-/

namespace WeFlow

open Txn SQLiteQQHandlerJournal SQLiteQQModelJournal

/-- **One transaction on the row of a case.** -/
inductive CaseStep (setup : HandlerSetup) (V : HandlerView) (s s' : HandlerWorld) (c : HandlerCase) :
    HandlerCase → Prop
  | same : CaseStep setup V s s' c c
  | drafted {request : HandlerApprovalRequest} (hop : ∃ stage, V.Commands stage)
      (hopen : c.status.terminal = false) (hversion : request.workflowVersion = c.workflowVersion + 1) :
      CaseStep setup V s s' c (c.withCandidate request false)
  | responded {request : HandlerApprovalRequest} {assist : ModelAssistRequest}
      (hr : V.Assists setup assist) (hcase : assist.caseId = c.caseId)
      (hat : assist.expectedWorkflowVersion = c.workflowVersion) (hopen : c.status.terminal = false)
      (hversion : request.workflowVersion = c.workflowVersion + 1) :
      CaseStep setup V s s' c (c.withCandidate request true)
  | simple {command : SimpleCommand} (hop : ∃ stage, V.Commands stage)
      (hopen : c.status.terminal = false) : CaseStep setup V s s' c (command.apply c)
  | approved (hop : ∃ stage id event, V.op (.groupApproval stage id event))
      (hopen : c.status.terminal = false) : CaseStep setup V s s' c { c with status := .approved }
  | assistRequested {request : ModelAssistRequest} (hr : V.Assists setup request)
      (hcase : request.caseId = c.caseId) (hat : request.expectedWorkflowVersion = c.workflowVersion)
      (hfresh : ∀ x ∈ s.assistRequests, ModelAssistRequest.clash request x = false)
      (hstatus : c.status = .accepted) : CaseStep setup V s s' c { c with status := .assistRequested }
  | investigating {request : ModelAssistRequest} {context : ModelAssistContext}
      (hr : V.Assists setup request) (hcase : request.caseId = c.caseId)
      (hA : V.txn ⟨insertContext request context⟩ s) :
      CaseStep setup V s s' c { c with status := .investigating }
  | handedBack {request : ModelAssistRequest} {outcome : ModelAssistOutcome}
      (hr : V.Assists setup request) (hof : outcome.assistRequestId = request.assistRequestId)
      (hcase : outcome.caseId = c.caseId) (hA : V.txn ⟨insertOutcome outcome⟩ s)
      (hnone : s.outcome? outcome.assistRequestId = none)
      (hstopped : outcome.terminalOutcome ≠ .responseReady) : CaseStep setup V s s' c c.handedBack
  | finalAccepted {intent : HandlerPassiveIntent} {result : HandlerPassiveResult}
      (hi : V.Executes intent) (hcase : intent.caseId = c.caseId) (hfinal : intent.responseKind = .final)
      (hresult : result.intentId = intent.intentId) (haccepted : result.providerAccepted = true)
      (hA : V.txn ⟨insertPassiveResult intent result⟩ s)
      (hresults : s'.passiveResults =
        (Table.insert? HandlerPassiveResult.clash result s.passiveResults).getD s.passiveResults)
      (hstatus : result.status.acceptedOrDuplicate = true) : CaseStep setup V s s' c c.finalAccepted

variable {setup : HandlerSetup} {V : HandlerView} {s s' : HandlerWorld} {g : HandlerGuard}
  {actions : List HandlerAction} {caseId : String} {c : HandlerCase}

theorem CaseStep.version_le {c' : HandlerCase} (h : CaseStep setup V s s' c c') :
    c.workflowVersion ≤ c'.workflowVersion := by
  cases h with
  | drafted hop hopen hversion | responded hr hcase hat hopen hversion =>
      show _ ≤ HandlerApprovalRequest.workflowVersion _
      omega
  | @simple command hop hopen =>
      cases command with
      | pull => exact Nat.le_refl _
      | accept | reject => exact Nat.le_succ _
  | handedBack => exact Nat.le_succ _
  | _ => exact Nat.le_refl _

/-- A row that is updated in place. -/
theorem case_modify {target : String} {f : HandlerCase → HandlerCase} {P : HandlerCase → Prop}
    (hs' : s'.cases = (s.modifyCase target f).cases) (hf : ∀ c, (f c).caseId = c.caseId)
    (hc : s.case? caseId = some c) (hsame : P c) (hstep : target = c.caseId → P (f c)) :
    ∃ c', s'.case? caseId = some c' ∧ P c' := by
  have hfound : s'.case? caseId = (s.modifyCase target f).case? caseId := by
    rw [HandlerWorld.case?, hs']
    rfl
  rw [hfound, HandlerWorld.case?_modifyCase hf, hc]
  by_cases htarget : target = caseId
  · rw [if_pos htarget]
    exact ⟨f c, rfl, hstep (htarget.trans (HandlerWorld.case?_some hc).2.symm)⟩
  · rw [if_neg htarget]
    exact ⟨c, rfl, hsame⟩

/-- **A transaction's step on a row.** -/
theorem HandlerStep.case_step (h : HandlerStep setup V s s') (hc : s.case? caseId = some c) :
    ∃ c', s'.case? caseId = some c' ∧ CaseStep setup V s s' c c' := by
  -- the row that `_authorize_case_row` has let pass is the row of its case
  have hauthorized : ∀ {x : HandlerCase} {binding : QQHandlerBinding} {version : Nat},
      s.case? x.caseId = some x → authorizeCaseRow x binding version = .ok () → x.caseId = c.caseId →
      x = c ∧ c.status.terminal = false ∧ c.workflowVersion = version := by
    intro x binding version hx hauth heq
    rw [heq, (HandlerWorld.case?_some hc).2, hc, Option.some.injEq] at hx
    obtain ⟨-, -, hversion, hopen⟩ := authorizeCaseRow_ok.mp hauth
    exact ⟨hx.symm, hx ▸ hopen, hx ▸ hversion⟩
  cases h with
  | @issue binding new artifacts contents hb hbinding hnone hready hversion hcandidate hrequest =>
      refine ⟨c, ?_, .same⟩
      rw [HandlerWorld.case?, List.find?_append]
      show (s.case? caseId).or _ = some c
      rw [hc, Option.some_or]
  | @candidate binding x version artifact issue revision now request model lifecycle artifacts contents artifactLog
      candidateBindings hx hauth hrevision hrequest hnew hfresh heffect =>
      refine case_modify rfl (fun _ => rfl) hc .same fun htarget => ?_
      obtain ⟨rfl, hopen, hat⟩ := hauthorized hx hauth htarget
      have hversion : request.workflowVersion = x.workflowVersion + 1 := by
        rw [hrequest, hrevision, hat]
        rfl
      cases heffect with
      | plain h => exact .drafted ⟨_, h⟩ hopen hversion
      | draft h => exact .drafted ⟨_, h⟩ hopen hversion
      | model hcase hanswers =>
          exact .responded hanswers.1 hcase (hanswers.2.1.trans hat.symm) hopen hversion
  | @simple binding x version command ids hop hx hauth =>
      refine case_modify rfl (SimpleCommand.apply_caseId command) hc .same fun htarget => ?_
      exact .simple hop (hauthorized hx hauth htarget).2.1
  | @decided binding x version request d hop hb hrequest hx hcase hauth =>
      refine case_modify rfl (fun _ => rfl) hc .same fun htarget => ?_
      exact .approved hop (hauthorized hx hauth htarget).2.1
  | @resultRecorded intent result passiveResults events cases hi hresult haccepted hA hresults hevents
      hcases =>
      by_cases hfinal : intent.responseKind = .final ∧ result.providerAccepted
      · rw [if_pos hfinal] at hcases
        exact case_modify hcases (fun _ => rfl) hc .same fun htarget =>
          .finalAccepted hi htarget hfinal.1 hresult hfinal.2 hA hresults (haccepted ▸ hfinal.2)
      · rw [if_neg hfinal] at hcases
        refine ⟨c, ?_, .same⟩
        rw [HandlerWorld.case?, hcases]
        exact hc
  | @assistRequested binding x version request hx hauth hstatus hr hcase hversion hfresh =>
      refine case_modify rfl (fun _ => rfl) hc .same fun htarget => ?_
      obtain ⟨rfl, -, hat⟩ := hauthorized hx hauth htarget
      exact .assistRequested hr hcase (hversion.trans hat.symm) hfresh hstatus
  | context hr hcontext hA =>
      exact case_modify rfl (fun _ => rfl) hc .same fun htarget => .investigating hr htarget hA
  | handedBack hr hof hcase hA hnone hstopped =>
      exact case_modify rfl (fun _ => rfl) hc .same fun htarget =>
        .handedBack hr hof htarget hA hnone hstopped
  | _ => exact ⟨c, hc, .same⟩

/-- **A new row** is that of an issue. -/
theorem HandlerStep.case_new (h : HandlerStep setup V s s') (hnone : s.case? caseId = none)
    (hc : s'.case? caseId = some c) : c.status = .ready ∧ c.workflowVersion = 1 ∧
      c.currentCandidateRevisionId = none ∧ c.currentApprovalRequestId = none := by
  have hmodified : ∀ {target : String} {f : HandlerCase → HandlerCase},
      s'.cases = (s.modifyCase target f).cases → (∀ c, (f c).caseId = c.caseId) → False := by
    intro target f hcases hf
    have hfound : s'.case? caseId = (s.modifyCase target f).case? caseId := by
      rw [HandlerWorld.case?, hcases]
      rfl
    rw [hfound, HandlerWorld.case?_modifyCase hf, hnone] at hc
    split at hc <;> cases hc
  cases h with
  | @issue binding new artifacts contents hb hbinding hfree hready hversion hcandidate hrequest =>
      rw [HandlerWorld.case?, List.find?_append] at hc
      have hcases : s.cases.find? (fun c => c.caseId = caseId) = none := hnone
      rw [hcases, Option.none_or] at hc
      obtain rfl := List.mem_singleton.mp (List.mem_of_find?_eq_some hc)
      exact ⟨hready, hversion, hcandidate, hrequest⟩
  | candidate | decided | assistRequested | context | handedBack =>
      exact (hmodified rfl fun _ => rfl).elim
  | simple => exact (hmodified rfl (SimpleCommand.apply_caseId _)).elim
  | @resultRecorded intent result passiveResults events cases hi hresult haccepted hA hresults hevents
      hcases =>
      split at hcases
      · exact (hmodified hcases fun _ => rfl).elim
      · rw [HandlerWorld.case?, hcases] at hc
        exact absurd (hnone.symm.trans hc) nofun
  | _ => exact absurd (hnone.symm.trans hc) nofun

theorem handlerDisturbance_case? (e : HandlerDisturbance) (s : HandlerWorld) (caseId : String) :
    (handlerDisturbance e s).case? caseId = s.case? caseId := by
  cases e <;> rfl

/-- **The version of a case never goes back.** -/
theorem HandlerSys.case_version_le (actions more : List HandlerAction)
    (hc : (HandlerSys.run setup actions).store.case? caseId = some c) :
    ∃ c', (HandlerSys.run setup (actions ++ more)).store.case? caseId = some c' ∧
      c.workflowVersion ≤ c'.workflowVersion := by
  induction more using List.reverseRecOn with
  | nil => exact ⟨c, by rw [List.append_nil]; exact hc, Nat.le_refl _⟩
  | append_singleton more a ih =>
      obtain ⟨c₁, hc₁, hle⟩ := ih
      rw [← List.append_assoc]
      rcases HandlerSys.step_cases (g := .free) (O := fun _ => True) (fun _ _ => trivial)
        (Sys.along_free (actions ++ more ++ [a])) with hstep | ⟨e, -, heq⟩
      · obtain ⟨c₂, hc₂, hstep₂⟩ := hstep.case_step hc₁
        exact ⟨c₂, hc₂, hle.trans hstep₂.version_le⟩
      · rw [heq, handlerDisturbance_case?]
        exact ⟨c₁, hc₁, hle⟩

end WeFlow
