import WeFlow.Handler.Candidate

/-!
# `Approval` — group approvals in the third stage

The second stage's `handle_group_approval` is idempotent: a request that has its decision is answered with
it. The third stage first asks for a binding of the model whose case is in `RESPONSE_READY`. A draft has no
such binding, and the decision itself ends that status.

## Contents

* `ApprovalInv` — no case is ready for a request that is decided.
* `approval_redelivered` — when an approval that was cut short can be handled again.
* `draft_never_approved` — no draft is approved through the third stage.
-/

namespace WeFlow

open Txn Prog SQLiteQQHandlerJournal SQLiteQQModelJournal QQHandlerWorkflowService

variable {setup : HandlerSetup} {V : HandlerView} {s s' : HandlerWorld} {actions : List HandlerAction}

/-! ## Decided requests -/

/-- **No case is ready for a decided request.** Pointers, bindings and decisions name stored requests, and a
    request is current in one case at most. -/
structure ApprovalInv (s : HandlerWorld) : Prop where
  pointed : ∀ c ∈ s.cases, ∀ id, c.currentApprovalRequestId = some id →
    ∃ r ∈ s.requests, r.approvalRequestId = id
  owner : ∀ c ∈ s.cases, ∀ c' ∈ s.cases, ∀ id, c.currentApprovalRequestId = some id →
    c'.currentApprovalRequestId = some id → c.caseId = c'.caseId
  bound : ∀ b ∈ s.candidateBindings, ∃ r ∈ s.requests, r.approvalRequestId = b.approvalRequestId
  decided : ∀ d ∈ s.decisions, ∃ r ∈ s.requests, r.approvalRequestId = d.approvalRequestId
  closed : ∀ d ∈ s.decisions, ∀ c ∈ s.cases, c.currentApprovalRequestId = some d.approvalRequestId →
    c.status ≠ .responseReady

theorem approvalInv_empty : ApprovalInv .empty where
  pointed := fun _ hc => absurd hc List.not_mem_nil
  owner := fun _ hc => absurd hc List.not_mem_nil
  bound := fun _ hb => absurd hb List.not_mem_nil
  decided := fun _ hd => absurd hd List.not_mem_nil
  closed := fun _ hd => absurd hd List.not_mem_nil

/-- The rows of a table after an update, with the rows they come from. -/
theorem HandlerCase.of_modify {p : HandlerCase → Bool} {f : HandlerCase → HandlerCase} {c : HandlerCase}
    {cases : List HandlerCase} (hc : c ∈ Table.modify p f cases) :
    ∃ x ∈ cases, c = if p x then f x else x := by
  obtain ⟨x, hx, rfl⟩ := Table.mem_modify.mp hc
  exact ⟨x, hx, rfl⟩

/-- An update that moves no pointer and makes no case ready. -/
theorem ApprovalInv.modified (hinv : ApprovalInv s) {caseId : String} {f : HandlerCase → HandlerCase}
    (hcases : s'.cases = (s.modifyCase caseId f).cases) (hrequests : s'.requests = s.requests)
    (hbindings : s'.candidateBindings = s.candidateBindings) (hdecisions : s'.decisions = s.decisions)
    (hid : ∀ c, (f c).caseId = c.caseId)
    (hpointer : ∀ c, (f c).currentApprovalRequestId = c.currentApprovalRequestId)
    (hstatus : ∀ c, (f c).status = .responseReady → c.status = .responseReady) : ApprovalInv s' := by
  have hrow : ∀ c ∈ s'.cases, ∃ x ∈ s.cases, c.caseId = x.caseId ∧
      c.currentApprovalRequestId = x.currentApprovalRequestId ∧
      (c.status = .responseReady → x.status = .responseReady) := by
    intro c hc
    rw [hcases] at hc
    obtain ⟨x, hx, rfl⟩ := HandlerCase.of_modify hc
    refine ⟨x, hx, ?_⟩
    split
    · exact ⟨hid x, hpointer x, hstatus x⟩
    · exact ⟨rfl, rfl, fun h => h⟩
  refine ⟨fun c hc id hcurrent => ?_, fun c hc c' hc' id hcurrent hcurrent' => ?_, ?_, ?_,
    fun d hd c hc hcurrent hready => ?_⟩
  · obtain ⟨x, hx, -, hsame, -⟩ := hrow c hc
    rw [hrequests]
    exact hinv.pointed x hx id (hsame ▸ hcurrent)
  · obtain ⟨x, hx, hcase, hsame, -⟩ := hrow c hc
    obtain ⟨x', hx', hcase', hsame', -⟩ := hrow c' hc'
    rw [hcase, hcase']
    exact hinv.owner x hx x' hx' id (hsame ▸ hcurrent) (hsame' ▸ hcurrent')
  · rw [hbindings, hrequests]
    exact hinv.bound
  · rw [hdecisions, hrequests]
    exact hinv.decided
  · obtain ⟨x, hx, -, hsame, hstill⟩ := hrow c hc
    rw [hdecisions] at hd
    exact hinv.closed d hd x hx (hsame ▸ hcurrent) (hstill hready)

/-- **A decision closes its request**: the one case that points at it is approved. -/
theorem ApprovalInv.decide (hinv : ApprovalInv s) {c : HandlerCase} {r : HandlerApprovalRequest}
    {d : HandlerApprovalDecision} (hc : c ∈ s.cases) (hr : r ∈ s.requests)
    (hcurrent : c.currentApprovalRequestId = some r.approvalRequestId)
    (hof : d.approvalRequestId = r.approvalRequestId) :
    ApprovalInv { s.modifyCase c.caseId (fun c => { c with status := .approved }) with
                  decisions := s.decisions ++ [d] } := by
  have hbefore : ApprovalInv (s.modifyCase c.caseId fun c => { c with status := .approved }) :=
    hinv.modified rfl rfl rfl rfl (fun _ => rfl) (fun _ => rfl) fun _ h => HandlerStatus.noConfusion h
  refine ⟨hbefore.pointed, hbefore.owner, hbefore.bound, fun x hx => ?_, fun x hx c' hc' hpoint hready => ?_⟩
  · rcases List.mem_append.mp hx with hx | hx
    · exact hinv.decided x hx
    · rw [List.mem_singleton.mp hx]
      exact ⟨r, hr, hof.symm⟩
  · rcases List.mem_append.mp hx with hx | hx
    · exact hbefore.closed x hx c' hc' hpoint hready
    · rw [List.mem_singleton.mp hx, hof] at hpoint
      obtain ⟨y, hy, rfl⟩ := HandlerCase.of_modify hc'
      by_cases hsame : y.caseId = c.caseId
      · rw [if_pos (decide_eq_true hsame)] at hready
        cases hready
      · rw [if_neg (by simpa using hsame)] at hpoint
        exact hsame (hinv.owner y hy c hc _ hpoint hcurrent)

/-- **A new request** is not decided, and nothing has pointed at it before. -/
theorem ApprovalInv.candidate (hinv : ApprovalInv s) {c : HandlerCase} {r : HandlerApprovalRequest}
    {model : Bool} (hfresh : ∀ x ∈ s.requests, HandlerApprovalRequest.clash r x = false)
    (hcases : s'.cases = Table.modify (fun x => x.caseId = c.caseId) (HandlerCase.withCandidate r model)
      s.cases)
    (hrequests : s'.requests = s.requests ++ [r]) (hdecisions : s'.decisions = s.decisions)
    (hbindings : ∀ b ∈ s'.candidateBindings, b ∈ s.candidateBindings ∨
      b.approvalRequestId = r.approvalRequestId) : ApprovalInv s' := by
  have hstored : ∀ {id}, (∃ x ∈ s.requests, x.approvalRequestId = id) →
      ∃ x ∈ s'.requests, x.approvalRequestId = id := by
    rintro id ⟨x, hx, hid⟩
    exact ⟨x, hrequests ▸ List.mem_append_left _ hx, hid⟩
  have hnew : ∃ x ∈ s'.requests, x.approvalRequestId = r.approvalRequestId :=
    ⟨r, hrequests ▸ List.mem_append_right _ (List.mem_singleton_self r), rfl⟩
  have hother : ∀ {id}, (∃ x ∈ s.requests, x.approvalRequestId = id) → r.approvalRequestId ≠ id := by
    rintro id ⟨x, hx, hid⟩ hsame
    have hclash := hfresh x hx
    rw [HandlerApprovalRequest.clash, decide_eq_false_iff_not] at hclash
    exact hclash (hsame.trans hid.symm)
  -- a row is one of the case's, and points at the new request, or is as it was
  have hrow : ∀ x ∈ s'.cases, (x.caseId = c.caseId ∧
      x.currentApprovalRequestId = some r.approvalRequestId) ∨ x ∈ s.cases := by
    intro x hx
    rw [hcases] at hx
    obtain ⟨y, hy, rfl⟩ := HandlerCase.of_modify hx
    by_cases hsame : y.caseId = c.caseId
    · rw [if_pos (decide_eq_true hsame)]
      exact .inl ⟨hsame, rfl⟩
    · rw [if_neg (by simpa using hsame)]
      exact .inr hy
  have hpointer : ∀ x ∈ s.cases, x.currentApprovalRequestId ≠ some r.approvalRequestId :=
    fun x hx hpoint => hother (hinv.pointed x hx _ hpoint) rfl
  refine ⟨fun x hx id hpoint => ?_, fun x hx y hy id hxid hyid => ?_, fun b hb => ?_, fun d hd => ?_,
    fun d hd x hx hpoint => ?_⟩
  · rcases hrow x hx with ⟨-, hnow⟩ | hold
    · obtain rfl := Option.some.inj (hnow.symm.trans hpoint)
      exact hnew
    · exact hstored (hinv.pointed x hold id hpoint)
  · rcases hrow x hx with ⟨hxcase, hxnow⟩ | hxold <;> rcases hrow y hy with ⟨hycase, hynow⟩ | hyold
    · exact hxcase.trans hycase.symm
    · exact absurd (hyid.trans (hxid.symm.trans hxnow)) (hpointer y hyold)
    · exact absurd (hxid.trans (hyid.symm.trans hynow)) (hpointer x hxold)
    · exact hinv.owner x hxold y hyold id hxid hyid
  · rcases hbindings b hb with hb | hb
    · exact hstored (hinv.bound b hb)
    · rw [hb]
      exact hnew
  · exact hstored (hinv.decided d (hdecisions ▸ hd))
  · rw [hdecisions] at hd
    rcases hrow x hx with ⟨-, hnow⟩ | hold
    · exact absurd (Option.some.inj (hnow.symm.trans hpoint)) (hother (hinv.decided d hd))
    · exact hinv.closed d hd x hold hpoint

theorem HandlerStep.approvalInv (h : HandlerStep setup V s s') (hinv : ApprovalInv s) : ApprovalInv s' := by
  cases h with
  | @issue binding c artifacts contents hb hbinding hnone hready hversion hcandidate hrequest =>
      have hrow : ∀ x ∈ s.cases ++ [c], x ∈ s.cases ∨ x.currentApprovalRequestId = none := by
        intro x hx
        rcases List.mem_append.mp hx with hx | hx
        · exact .inl hx
        · exact .inr (List.mem_singleton.mp hx ▸ hrequest)
      refine ⟨fun x hx id hpoint => ?_, fun x hx y hy id hxid hyid => ?_, hinv.bound, hinv.decided,
        fun d hd x hx hpoint => ?_⟩
      · rcases hrow x hx with hx | hx
        · exact hinv.pointed x hx id hpoint
        · cases hx.symm.trans hpoint
      · rcases hrow x hx with hx | hx
        · rcases hrow y hy with hy | hy
          · exact hinv.owner x hx y hy id hxid hyid
          · cases hy.symm.trans hyid
        · cases hx.symm.trans hxid
      · rcases hrow x hx with hx | hx
        · exact hinv.closed d hd x hx hpoint
        · cases hx.symm.trans hpoint
  | candidate hc hauth hrevision hrequest hnew hfresh heffect =>
      refine hinv.candidate hfresh rfl rfl rfl fun b hb => ?_
      cases heffect with
      | plain | draft => exact .inl hb
      | model hcase hcontext hbinding =>
          rcases List.mem_append.mp hb with hb | hb
          · exact .inl hb
          · rw [List.mem_singleton.mp hb, hbinding]
            exact .inr rfl
  | @simple binding c version command =>
      refine hinv.modified rfl rfl rfl rfl (SimpleCommand.apply_caseId command) (fun x => ?_) fun x => ?_
      · cases command <;> rfl
      · cases command
        · exact fun h => h
        · exact nofun
        · exact nofun
  | decided hop hb hrequest hc hcase hauth hcurrent hcandidate hversion hclock hunexpired hof =>
      exact hinv.decide (HandlerWorld.case?_some hc).1 (List.mem_of_find?_eq_some hrequest) hcurrent hof
  | @resultRecorded intent result passiveResults events cases hi hresult haccepted hA hresults hevents hcases =>
      by_cases hfinal : intent.responseKind = .final ∧ result.providerAccepted
      · rw [if_pos hfinal] at hcases
        exact hinv.modified hcases rfl rfl rfl (fun _ => rfl) (fun _ => rfl) fun _ h =>
          HandlerStatus.noConfusion h
      · rw [if_neg hfinal] at hcases
        subst hcases
        exact ⟨hinv.pointed, hinv.owner, hinv.bound, hinv.decided, hinv.closed⟩
  | assistRequested | context | handedBack =>
      exact hinv.modified rfl rfl rfl rfl (fun _ => rfl) (fun _ => rfl) fun _ h => HandlerStatus.noConfusion h
  | _ => exact ⟨hinv.pointed, hinv.owner, hinv.bound, hinv.decided, hinv.closed⟩

theorem handlerDisturbance_approvalInv (e : HandlerDisturbance) (hinv : ApprovalInv s) :
    ApprovalInv (handlerDisturbance e s) := by
  cases e <;> exact ⟨hinv.pointed, hinv.owner, hinv.bound, hinv.decided, hinv.closed⟩

theorem HandlerSys.approvalInv (setup : HandlerSetup) (actions : List HandlerAction) :
    ApprovalInv (HandlerSys.run setup actions).store :=
  HandlerSys.invariant (O := fun _ => True) approvalInv_empty (fun _ _ hinv hstep => hstep.approvalInv hinv)
    (fun e _ _ hinv => handlerDisturbance_approvalInv e hinv) (fun _ _ => trivial) (Sys.along_free actions)

/-! ## What a handled approval has passed -/

theorem reads_openService (id : HandlerBindingId) : Reads (openService setup.text setup.config id) := by
  refine Reads.bind ?_ fun _ => (reads_check _ _).bind fun _ => reads_pure _
  exact (reads_observe _).bind fun _ => (reads_observe _).bind fun _ => (reads_observe _).bind fun _ =>
    (reads_need _ _).bind fun _ => (reads_check _ _).bind fun _ => reads_pure _

theorem reads_assertModelApprovalCurrent (id : HandlerRequestId) (binding : QQHandlerBinding)
    (version : Nat) : Reads (assertModelApprovalCurrent id binding version) :=
  (reads_observe _).bind fun _ => (reads_need _ _).bind fun _ => (reads_observe _).bind fun _ =>
    Reads.bind ((reads_observe _).bind fun _ => reads_need _ _) fun _ => (reads_observe _).bind fun _ =>
      (reads_need _ _).bind fun _ => reads_check _ _

/-- **The model's gate is open** only for a bound request that a ready case points at. -/
theorem eval_assertModelApprovalCurrent {id : HandlerRequestId} {binding : QQHandlerBinding} {version : Nat}
    (h : eval (assertModelApprovalCurrent id binding version) s = (.ok (), s')) :
    (∃ b ∈ s.candidateBindings, b.approvalRequestId = id) ∧
      ∃ c ∈ s.cases, c.currentApprovalRequestId = some id ∧ c.status = .responseReady := by
  simp only [assertModelApprovalCurrent, caseProjection, eval_observe_bind, eval_need_bind_eq_ok] at h
  obtain ⟨record, hrecord, h₁⟩ := h
  obtain ⟨c, s₁, hrow, h₂⟩ := eval_bind_eq_ok.mp h₁
  rw [eval_observe_bind, eval_need, Prod.mk.injEq] at hrow
  obtain ⟨hc, rfl⟩ := hrow
  rw [eval_observe_bind, eval_need_bind_eq_ok] at h₂
  obtain ⟨budget, -, h₃⟩ := h₂
  rw [eval_check, Prod.mk.injEq] at h₃
  have hpass := h₃.1
  rw [ite_eq_left_iff] at hpass
  simp only [reduceCtorEq, imp_false, not_not, Bool.and_eq_true, decide_eq_true_eq] at hpass
  have hkey := List.find?_some hrecord
  refine ⟨⟨record, List.mem_of_find?_eq_some hrecord, of_decide_eq_true hkey⟩, c, ?_, hpass.1.1.2, hpass.2⟩
  cases hrow : s.case? record.caseId with
  | none =>
      rw [hrow] at hc
      cases hc
  | some x =>
      rw [hrow] at hc
      obtain rfl := Except.ok.inj hc
      exact (HandlerWorld.case?_some hrow).1

/-- The decision is for the request that the command names. -/
theorem insertDecision_request {text : HandlerText} {binding : QQHandlerBinding}
    {command : QQGroupApprovalCommand} {authorHash sourceMessageId : String} {now : Instant}
    {d : HandlerApprovalDecision}
    (h : insertDecision text binding command authorHash sourceMessageId now s = .ok (d, s')) :
    d.approvalRequestId = command.approvalRequestId ∧ s'.decisionOf? command.approvalRequestId = some d := by
  simp only [insertDecision, fetch_bind_eq_ok] at h
  obtain ⟨request, hrequest, c, hc, h⟩ := h
  rw [bind_eq_ok] at h
  obtain ⟨⟨⟩, -, h⟩ := h
  simp only [require_bind_eq_ok] at h
  obtain ⟨-, -, h⟩ := h
  have hid := HandlerWorld.request?_id hrequest
  split at h
  case h_1 existing hexisting =>
    obtain ⟨rfl, rfl⟩ := Prod.mk.injEq .. ▸ Except.ok.inj h
    have hkey := List.find?_some hexisting
    exact ⟨(of_decide_eq_true hkey).trans hid, hid ▸ hexisting⟩
  case h_2 hnone =>
    simp only [fetch_bind_eq_ok, pure, Except.pure, Except.ok.injEq, Prod.mk.injEq] at h
    obtain ⟨decisions, hinsert, rfl, rfl⟩ := h
    obtain ⟨-, rfl⟩ := Table.insert?_eq_some.mp hinsert
    refine ⟨hid, ?_⟩
    show List.find? _ (s.decisions ++ [_]) = _
    rw [List.find?_append, show s.decisions.find? _ = none from hid ▸ hnone, Option.none_or]
    simp [approvalDecision, hid]

/-- **`approve_request` returns** what its transaction returns, in the store that leaves. -/
theorem eval_approveRequest {binding : QQHandlerBinding} {command : QQGroupApprovalCommand}
    {member group source salt : String} {occurredAt : Instant} {d : HandlerApprovalDecision}
    (h : eval (approveRequest setup.text binding command member group source occurredAt salt) s = (.ok d, s')) :
    insertDecision setup.text binding command (saltedHash setup.text salt "group-member" member) source s.now
      s = .ok (d, s') := by
  unfold approveRequest at h
  obtain ⟨stage1, s₁, hgroup, hrest⟩ := eval_bind_eq_ok.mp h
  have hreads : Reads (bindingGroupFromStage1 setup.text binding) :=
    (reads_observe _).bind fun _ => (reads_observe _).bind fun _ => (reads_need _ _).bind fun _ =>
      (reads_check _ _).bind fun _ => (reads_check _ _).bind fun _ => reads_pure _
  obtain rfl := hreads.eval_eq hgroup
  simp only [eval_check_bind_eq_ok, eval_observe_bind, eval_atomically_eq_ok] at hrest
  exact hrest.2.2.2

/-- **A handled approval** has named a request, passed the gate of its stage, and made or found the
    decision. -/
theorem eval_handleGroupApproval {stage : HandlerStage} {binding : QQHandlerBinding} {event : QQGroupEvent}
    {r : QQGroupApprovalResponse}
    (h : eval (handleGroupApproval setup.text setup.config (HandlerOp.modelGate stage) binding event) s =
      (.ok r, s')) :
    ∃ command, event.groupOpenid = setup.config.groupOpenid ∧ event.command = .ok command ∧
      r.decision.approvalRequestId = command.approvalRequestId ∧
      ∃ s₁, eval (HandlerOp.modelGate stage command.approvalRequestId binding command.expectedVersion) s =
        (.ok (), s₁) := by
  unfold handleGroupApproval at h
  obtain ⟨hgroup, hchecked⟩ := eval_check_bind_eq_ok.mp h
  obtain ⟨command, s₁, hparsed, hgated⟩ := eval_bind_eq_ok.mp hchecked
  obtain ⟨⟨⟩, s₂, hgate, happroved⟩ := eval_bind_eq_ok.mp hgated
  obtain ⟨d, s₃, happrove, hfinal⟩ := eval_bind_eq_ok.mp happroved
  obtain ⟨final, s₄, -, hreturn⟩ := eval_bind_eq_ok.mp hfinal
  have hcommand : event.command = .ok command ∧ s₁ = s := by
    cases hevent : event.command with
    | error reason =>
        rw [hevent] at hparsed
        cases hparsed
    | ok parsed =>
        rw [hevent, parsedCommand, eval_pure, Prod.mk.injEq] at hparsed
        exact ⟨congrArg Except.ok (Except.ok.inj hparsed.1), hparsed.2.symm⟩
  obtain ⟨hcommand, rfl⟩ := hcommand
  have hdecision : r.decision = d := by
    simp only [eval_pure, Prod.mk.injEq, Except.ok.injEq] at hreturn
    rw [← hreturn.1]
  refine ⟨command, of_decide_eq_true hgroup, hcommand, ?_, s₂, hgate⟩
  rw [hdecision]
  exact (insertDecision_request (eval_approveRequest happrove)).1

/-! ## An approval that is handled again -/

/-- A group approval event, handled by the service of a stage and delivered: `handle_group_approval`, then
    `execute_final_response`. -/
def approveAndDeliver (setup : HandlerSetup) (stage : HandlerStage) (id : HandlerBindingId)
    (event : QQGroupEvent) (answers : PassiveAnswers) :
    HandlerProg (QQGroupApprovalResponse × HandlerPassiveResult) := do
  let binding ← openService setup.text setup.config id
  let r ← handleGroupApproval setup.text setup.config (HandlerOp.modelGate stage) binding event
  let result ← HandlerOp.deliver setup stage r.finalIntent binding r.content answers
  pure (r, result)

section Redelivery

variable {stage : HandlerStage} {id : HandlerBindingId} {event : QQGroupEvent} {answers : PassiveAnswers}
  {requestId : HandlerRequestId}

theorem steps_approveAndDeliver {V : HandlerView} (hV : V.Sighted) (hop : ∀ op, V.op op)
    (hbinding : ∀ b, V.binding b) (hpassive : ∀ i, V.passive i) :
    Steps setup V (approveAndDeliver setup stage id event answers) :=
  (stepwise_openService hV id).bind fun b _ =>
    (steps_handleGroupApproval hV (hop (.groupApproval stage id event)) (hbinding b)).bind fun r =>
      (steps_deliver hV ⟨hpassive r.finalIntent, stage, r.finalIntent.intentId, id, r.content, answers, hop _⟩
        stage b r.content answers).bind fun _ => trivial

/-- What the handler's transactions keep, the handling of an event keeps wherever it dies. -/
theorem exec_approveAndDeliver_keeps {I : HandlerWorld → Prop}
    (hI : ∀ {V : HandlerView} {s s'}, HandlerStep setup V s s' → I s → I s') (hs : I s) (n : Nat) :
    I ((approveAndDeliver setup stage id event answers).exec n s).2 := by
  let V : HandlerView := HandlerGuard.viewOf .free fun _ => True
  have hsteps : Steps setup V (approveAndDeliver setup stage id event answers) :=
    steps_approveAndDeliver (HandlerGuard.viewOf_sighted .free _) (fun _ => trivial) (fun _ => trivial)
      fun _ => trivial
  have hsafe := Quiet.safe hsteps (fun _ _ => trivial) (fun _ _ hstep => hI hstep) hs
  rcases (exec_safe hsafe n).1.cases_tail with heq | ⟨_, -, hkept⟩
  · rw [heq]
    exact hs
  · exact hkept

theorem decisionOf?_isSome {requestId : HandlerRequestId} :
    (s.decisionOf? requestId).isSome ↔ ∃ d ∈ s.decisions, d.approvalRequestId = requestId := by
  simp [HandlerWorld.decisionOf?, List.find?_isSome]

theorem HandlerStep.decisionOf?_isSome (h : HandlerStep setup V s s') {requestId : HandlerRequestId}
    (hd : (s.decisionOf? requestId).isSome) : (s'.decisionOf? requestId).isSome := by
  obtain ⟨d, hd, hof⟩ := WeFlow.decisionOf?_isSome.mp hd
  exact WeFlow.decisionOf?_isSome.mpr ⟨d, h.grows.decisions d hd, hof⟩

/-- **The first change** that the handling of an event makes is the decision of its request. -/
theorem approveAndDeliver_decides (hcommand : ∀ command, event.command = .ok command →
      command.approvalRequestId = requestId) :
    (approveAndDeliver setup stage id event answers).Safe (fun _ s' => (s'.decisionOf? requestId).isSome)
      (fun _ _ => True) (fun _ _ => True) s := by
  let V : HandlerView := HandlerGuard.viewOf .free fun _ => True
  have hV : V.Sighted := HandlerGuard.viewOf_sighted .free _
  -- once the decision is there, nothing removes it
  have hlater : ∀ {α : Type} {p : HandlerProg α} {t : HandlerWorld}, Steps setup V p →
      (t.decisionOf? requestId).isSome →
      p.Safe (fun _ s' => (s'.decisionOf? requestId).isSome)
        (fun _ s' => (s'.decisionOf? requestId).isSome) (fun _ _ => True) t := by
    intro α p t hp ht
    refine (Quiet.safe hp (fun _ _ => trivial) (fun _ _ hstep => hstep.decisionOf?_isSome) ht).mono
      (fun _ _ h => h) (fun _ _ h => h.2) fun _ _ _ => trivial
  refine (reads_openService id).safe_bind (fun _ => trivial) fun binding _ => ?_
  have hdeliver : ∀ r : QQGroupApprovalResponse, Steps setup V (do
      let result ← HandlerOp.deliver setup stage r.finalIntent binding r.content answers
      pure (r, result)) := fun r =>
    (steps_deliver hV ⟨trivial, stage, r.finalIntent.intentId, id, r.content, answers, trivial⟩
      stage binding r.content answers).bind fun _ => trivial
  refine Safe.bind ?_ fun r s₁ hs₁ =>
    (hlater (hdeliver r) hs₁).mono (fun _ _ h => h) (fun _ _ _ => trivial) fun _ _ h => h
  unfold handleGroupApproval
  refine (reads_check _ _).safe_bind (fun _ => trivial) fun _ _ => ?_
  cases hevent : event.command with
  | error reason => exact trivial
  | ok command =>
      have hgate : Reads (HandlerOp.modelGate stage command.approvalRequestId binding
          command.expectedVersion) := by
        cases stage with
        | second => exact reads_pure ()
        | third => exact reads_assertModelApprovalCurrent _ _ _
      refine hgate.safe_bind (fun _ => trivial) fun _ _ => ?_
      have hgroup : Reads (bindingGroupFromStage1 setup.text binding) :=
        (reads_observe _).bind fun _ => (reads_observe _).bind fun _ => (reads_need _ _).bind fun _ =>
          (reads_check _ _).bind fun _ => (reads_check _ _).bind fun _ => reads_pure _
      have hfinal : ∀ d : HandlerApprovalDecision, Steps setup V (do
          let final ← finalDeliveryIntent d binding
          pure (⟨d, final.1, final.2⟩ : QQGroupApprovalResponse)) := fun d =>
        (steps_finalDeliveryIntent hV trivial binding).bind fun _ => trivial
      refine Safe.bind ?_ fun d s₁ hs₁ => hlater (hfinal d) hs₁
      refine hgroup.safe_bind (fun _ => trivial) fun _ _ => (reads_check _ _).safe_bind (fun _ => trivial)
        fun _ _ => (reads_check _ _).safe_bind (fun _ => trivial) fun _ _ =>
          (reads_observe _).safe_bind (fun _ => trivial) fun _ _ =>
            (reads_check _ _).safe_bind (fun _ => trivial) fun _ _ => ?_
      refine safe_atomically.mpr ⟨fun _ _ => trivial, fun d s₁ hinsert => ?_⟩
      have hdecided := (insertDecision_request hinsert).2
      rw [hcommand command hevent] at hdecided
      rw [hdecided]
      exact ⟨.inr rfl, rfl⟩

/-- **A decided request is handled no more** by the third stage. -/
theorem ApprovalInv.not_handled (hinv : ApprovalInv s) {command : QQGroupApprovalCommand}
    (hcommand : event.command = .ok command)
    (hdecided : (s.decisionOf? command.approvalRequestId).isSome)
    (reply : QQGroupApprovalResponse × HandlerPassiveResult) :
    ((approveAndDeliver setup .third id event answers).eval s).1 ≠ .ok reply := by
  intro hreply
  obtain ⟨binding, s₁, hopen, hrest⟩ := eval_bind_eq_ok.mp (Prod.ext hreply rfl)
  obtain rfl := ((reads_openService id).eval_eq hopen).symm
  obtain ⟨r, s₂, hhandle, -⟩ := eval_bind_eq_ok.mp hrest
  obtain ⟨command', -, hcommand', -, s₃, hgate⟩ := eval_handleGroupApproval hhandle
  obtain rfl := Except.ok.inj (hcommand.symm.trans hcommand')
  obtain ⟨-, c, hc, hcurrent, hready⟩ := eval_assertModelApprovalCurrent hgate
  obtain ⟨d, hd, hof⟩ := decisionOf?_isSome.mp hdecided
  exact hinv.closed d hd c hc (hof ▸ hcurrent) hready

end Redelivery

/-- **An approval that was cut short** converges when its event is handled again if and only if its decision
    had not been committed: then the second handling makes the decision and the final intent that the first
    one was about to make, and delivers it. Once the decision is there, the third stage refuses the event
    forever. -/
theorem approval_redelivered (setup : HandlerSetup) (actions : List HandlerAction) (id : HandlerBindingId)
    (event : QQGroupEvent) (answers : PassiveAnswers) {r : QQGroupApprovalResponse}
    {result : HandlerPassiveResult} {s' : HandlerWorld}
    (h : (approveAndDeliver setup .third id event answers).eval (HandlerSys.run setup actions).store =
      (.ok (r, result), s')) (n : Nat) :
    let s₁ := ((approveAndDeliver setup .third id event answers).exec n (HandlerSys.run setup actions).store).2
    ((∃ content result', ((approveAndDeliver setup .third id event answers).eval s₁).1 =
        .ok (⟨r.decision, r.finalIntent, content⟩, result')) ↔
      s₁.decisionOf? r.decision.approvalRequestId = none) ∧
    (s₁.decisionOf? r.decision.approvalRequestId ≠ none → ∀ microseconds answers' reply,
      ((approveAndDeliver setup .third id event answers').eval
        (handlerDisturbance (.elapse microseconds) s₁)).1 ≠ .ok reply) := by
  intro s₁
  obtain ⟨binding, t, hopen, hrest⟩ := eval_bind_eq_ok.mp h
  obtain rfl := ((reads_openService id).eval_eq hopen).symm
  obtain ⟨r', t', hhandle, hdeliver⟩ := eval_bind_eq_ok.mp hrest
  obtain ⟨result₁, t₁, -, hreturn⟩ := eval_bind_eq_ok.mp hdeliver
  obtain rfl : r' = r := by
    simp only [eval_pure, Prod.mk.injEq, Except.ok.injEq] at hreturn
    exact hreturn.1.1
  obtain ⟨command, -, hcommand, hrequest, -⟩ := eval_handleGroupApproval hhandle
  have hinv : ApprovalInv s₁ :=
    exec_approveAndDeliver_keeps (fun hstep hs => hstep.approvalInv hs) (HandlerSys.approvalInv setup actions) n
  have hclosed : s₁.decisionOf? r'.decision.approvalRequestId ≠ none → ∀ microseconds answers' reply,
      ((approveAndDeliver setup .third id event answers').eval
        (handlerDisturbance (.elapse microseconds) s₁)).1 ≠ .ok reply := by
    intro hsome microseconds answers' reply
    rw [hrequest] at hsome
    exact (handlerDisturbance_approvalInv (.elapse microseconds) hinv).not_handled hcommand
      (Option.isSome_iff_ne_none.mpr hsome) reply
  refine ⟨⟨?_, fun hnone => ?_⟩, hclosed⟩
  · rintro ⟨content, result', hreply⟩
    by_contra hsome
    exact hclosed hsome 0 answers _ hreply
  · -- nothing was changed before the decision
    have hsafe : (approveAndDeliver setup .third id event answers).Safe
        (fun _ s' => (s'.decisionOf? r'.decision.approvalRequestId).isSome) (fun _ _ => True)
        (fun _ _ => True) (HandlerSys.run setup actions).store := by
      refine approveAndDeliver_decides fun command' hcommand' => ?_
      obtain rfl := Except.ok.inj (hcommand.symm.trans hcommand')
      exact hrequest.symm
    rcases (exec_safe hsafe n).1.cases_tail with heq | ⟨_, -, hsome⟩
    · have hsame : s₁ = (HandlerSys.run setup actions).store := heq
      rw [hsame, h]
      exact ⟨r'.content, result, rfl⟩
    · rw [hnone] at hsome
      cases hsome

/-- The model has answered; its candidate waits for the approval. -/
def modelReadyCase : List HandlerAction :=
  openedCase ++ [.disturb (.pairing [onlyGroup])] ++
    callSteps (.privateEvent .third onlyBinding (privateMessage "m1" 1 (.simple .accept))) 2 20 ++
    assistedBy "m2" 2 3 30

/-- The handler approves the model's candidate in the group. -/
def modelApproval : QQGroupEvent := ⟨"member", "group", "g1", 0, .ok ⟨modelRequest 3, "draft", 3⟩⟩

/-- The provider does not know the reply yet, and accepts it. -/
def acceptedReply : PassiveAnswers := ⟨.outcome ⟨.rejected, "absent", none⟩, .outcome ⟨.accepted, "ok", none⟩⟩

/-- **The third stage refuses a decided approval**, which it handles when nothing cuts it short, and which
    the second stage handles again. -/
theorem decided_approval_refused :
    let s := (HandlerSys.run plainSetup modelReadyCase).store
    let s₁ := ((approveAndDeliver plainSetup .third onlyBinding modelApproval acceptedReply).exec 11 s).2
    ((approveAndDeliver plainSetup .third onlyBinding modelApproval acceptedReply).eval s).1.isOk = true ∧
      (s₁.decisionOf? (modelRequest 3)).isSome = true ∧ s₁.passiveIntents = s.passiveIntents ∧
      ((approveAndDeliver plainSetup .second onlyBinding modelApproval acceptedReply).eval s₁).1.isOk = true ∧
      ((approveAndDeliver plainSetup .third onlyBinding modelApproval acceptedReply).eval s₁).1 =
        .error (.denied "model_approval_binding_stale") := by
  refine ⟨?_, ?_, ?_, ?_, ?_⟩ <;> decide +kernel

theorem eval_of_isOk {α : Type} {p : HandlerProg α} (h : (p.eval s).1.isOk = true) :
    ∃ a s', p.eval s = (.ok a, s') := by
  rcases heval : p.eval s with ⟨⟨e⟩ | ⟨a⟩, s'⟩
  · rw [heval] at h
    cases h
  · exact ⟨a, s', rfl⟩

/-- An approval that is cut short after eleven steps of a run that would have succeeded. -/
theorem approval_redelivered_model_candidate :
    let approve := approveAndDeliver plainSetup .third onlyBinding modelApproval acceptedReply
    let s := (HandlerSys.run plainSetup modelReadyCase).store
    ∃ r result s', approve.eval s = (.ok (r, result), s') ∧
      ((∃ content result', (approve.eval (approve.exec 11 s).2).1 =
          .ok (⟨r.decision, r.finalIntent, content⟩, result')) ↔
        (approve.exec 11 s).2.decisionOf? r.decision.approvalRequestId = none) := by
  intro approve s
  have hok : (approve.eval s).1.isOk = true := by
    decide +kernel
  obtain ⟨⟨r, result⟩, s', hreply⟩ := eval_of_isOk hok
  have hcut := approval_redelivered plainSetup modelReadyCase onlyBinding modelApproval acceptedReply hreply 11
  exact ⟨r, result, s', hreply, hcut.1⟩

/-! ## A draft in the third stage -/

/-- Call number `i` of the run handles a `WF-DRAFT`, and its next transaction inserts the request. -/
structure HandlerApprovalRequest.Drafted (setup : HandlerSetup) (before : List HandlerAction) (i : Nat)
    (request : HandlerApprovalRequest) : Prop where
  call : ∃ stage id event caseId version body, (started before)[i]? = some (.privateEvent stage id event) ∧
    event.command = .ok ⟨caseId, version, .draft body⟩
  absent : request ∉ (HandlerSys.run setup before).store.requests
  inserted : request ∈ (HandlerSys.run setup (before ++ [.advance i])).store.requests

/-- No binding of the model is for the request. -/
def HandlerWorld.Unbound (s : HandlerWorld) (request : HandlerApprovalRequest) : Prop :=
  request ∈ s.requests ∧ ∀ b ∈ s.candidateBindings, b.approvalRequestId ≠ request.approvalRequestId

/-- **A stored request is bound in its own transaction** or never. -/
theorem HandlerStep.unbound (h : HandlerStep setup V s s') {request : HandlerApprovalRequest}
    (hun : s.Unbound request) : s'.Unbound request := by
  cases h with
  | candidate hc hauth hrevision hrequest hnew hfresh heffect =>
      refine ⟨List.mem_append_left _ hun.1, fun b hb => ?_⟩
      cases heffect with
      | plain | draft => exact hun.2 b hb
      | model hcase hcontext hbinding =>
          rcases List.mem_append.mp hb with hb | hb
          · exact hun.2 b hb
          · rw [List.mem_singleton.mp hb, hbinding]
            intro hsame
            have hclash := hfresh request hun.1
            rw [HandlerApprovalRequest.clash, decide_eq_false_iff_not] at hclash
            exact hclash hsame
  | _ => exact hun

/-- A draft's request is not bound when it is made. -/
theorem HandlerApprovalRequest.Drafted.unbound {before : List HandlerAction} {i : Nat}
    {request : HandlerApprovalRequest} (h : request.Drafted setup before i) :
    (HandlerSys.run setup (before ++ [.advance i])).store.Unbound request := by
  obtain ⟨⟨stage, id, event, caseId, version, body, hcall, -⟩, habsent, hinserted⟩ := h
  have hinv := HandlerSys.approvalInv setup before
  have hstep : HandlerStep setup ((HandlerSys.run setup (before ++ [.advance i])).store.view .free
      (· = .privateEvent stage id event)) (HandlerSys.run setup before).store
      (HandlerSys.run setup (before ++ [.advance i])).store :=
    HandlerSys.step_of_call hcall (Sys.along_free _)
  refine ⟨hinserted, fun b hb hsame => ?_⟩
  generalize (HandlerSys.run setup (before ++ [.advance i])).store = s' at hstep hinserted hb
  cases hstep with
  | @candidate binding c version artifact issue revision now made model lifecycle artifacts contents
      artifactLog candidateBindings hc hauth hrevision hrequest hnew hfresh heffect =>
      obtain rfl : request = made := by
        rcases List.mem_append.mp hinserted with hold | hnew
        · exact absurd hold habsent
        · exact List.mem_singleton.mp hnew
      have hold : b ∈ (HandlerSys.run setup before).store.candidateBindings := by
        cases heffect with
        | plain | draft => exact hb
        | model hcase hanswers =>
            -- a private command answers no assistance
            obtain ⟨⟨-, id', event', answer, hop, -⟩, -⟩ := hanswers
            cases hop
      obtain ⟨x, hx, hid⟩ := hinv.bound b hold
      have hclash := hfresh x hx
      rw [HandlerApprovalRequest.clash, decide_eq_false_iff_not] at hclash
      exact hclash (hid.trans hsame).symm
  | _ => exact habsent hinserted

theorem HandlerSys.unbound {before : List HandlerAction} {request : HandlerApprovalRequest}
    (h : (HandlerSys.run setup before).store.Unbound request) (more : List HandlerAction) :
    (HandlerSys.run setup (before ++ more)).store.Unbound request := by
  induction more using List.reverseRecOn with
  | nil => rwa [List.append_nil]
  | append_singleton more a ih =>
      rw [← List.append_assoc]
      rcases HandlerSys.step_cases (g := .free) (O := fun _ => True) (fun _ _ => trivial)
        (Sys.along_free (before ++ more ++ [a])) with hstep | ⟨e, -, heq⟩
      · exact hstep.unbound ih
      · rw [heq]
        cases e <;> exact ih

/-- **No draft is approved through the third stage.** In every run, whenever the second stage's service
    would turn a group event into a decision and a final intent for a request that a `WF-DRAFT` has made, the
    third stage's service denies the event. -/
theorem draft_never_approved (setup : HandlerSetup) (before more : List HandlerAction) (i : Nat)
    (request : HandlerApprovalRequest) (hdraft : request.Drafted setup before i) (id : HandlerBindingId)
    (event : QQGroupEvent) (r : QQGroupApprovalResponse) (s' : HandlerWorld)
    (hsecond : (HandlerOp.prog setup (.groupApproval .second id event)).eval
      (HandlerSys.run setup (before ++ [.advance i] ++ more)).store = (.ok (.approved r), s'))
    (hrequest : r.decision.approvalRequestId = request.approvalRequestId) :
    (HandlerOp.prog setup (.groupApproval .third id event)).eval
        (HandlerSys.run setup (before ++ [.advance i] ++ more)).store =
      (.error (.denied "model_approval_binding_unavailable"),
        (HandlerSys.run setup (before ++ [.advance i] ++ more)).store) := by
  have hunbound := HandlerSys.unbound hdraft.unbound more
  generalize (HandlerSys.run setup (before ++ [.advance i] ++ more)).store = s at hsecond hunbound
  obtain ⟨binding, s₁, hopen, hrest⟩ := eval_bind_eq_ok.mp hsecond
  obtain rfl := ((reads_openService id).eval_eq hopen).symm
  obtain ⟨reply, s₂, hhandle, hreturn⟩ := eval_bind_eq_ok.mp hrest
  obtain rfl : reply = r := by
    simp only [eval_pure, Prod.mk.injEq, Except.ok.injEq, HandlerReply.approved.injEq] at hreturn
    exact hreturn.1
  obtain ⟨command, hgroup, hcommand, hof, -⟩ := eval_handleGroupApproval hhandle
  have hnone : s.candidateBindings.find? (fun b => b.approvalRequestId = command.approvalRequestId) = none := by
    refine List.find?_eq_none.mpr fun b hb hkey => ?_
    exact hunbound.2 b hb ((of_decide_eq_true hkey).trans (hof.symm.trans hrequest))
  have hgate : eval (assertModelApprovalCurrent command.approvalRequestId binding command.expectedVersion) s =
      (.error (.denied "model_approval_binding_unavailable"), s) := by
    unfold assertModelApprovalCurrent
    rw [eval_observe_bind, hnone]
    rfl
  have hdenied : eval (handleGroupApproval setup.text setup.config (HandlerOp.modelGate .third) binding event)
      s = (.error (.denied "model_approval_binding_unavailable"), s) := by
    unfold handleGroupApproval
    rw [eval_bind, eval_check, decide_eq_true hgroup, if_pos rfl, hcommand]
    show eval (assertModelApprovalCurrent command.approvalRequestId binding command.expectedVersion >>= _) s = _
    rw [eval_bind, hgate]
  show eval (openService setup.text setup.config id >>= _) s = _
  rw [eval_bind, hopen]
  show eval (handleGroupApproval setup.text setup.config (HandlerOp.modelGate .third) binding event >>= _) s = _
  rw [eval_bind, hdenied]

/-- The third stage is about to store the draft `answer`. -/
def writtenDraft : List HandlerAction :=
  openedCase ++ [.disturb (.pairing [onlyGroup])] ++
    callSteps (.privateEvent .third onlyBinding (privateMessage "m1" 1 (.draft "answer"))) 2 15

/-- The draft is stored, and the handler has been shown how to approve it. -/
def shownDraft : List HandlerAction :=
  writtenDraft ++ [.advance 2] ++ List.replicate 24 (.advance 2)

/-- The handler approves the draft in the group. -/
def draftApproval : QQGroupEvent := ⟨"member", "group", "g1", 0, .ok ⟨draftRequest, "answer", 2⟩⟩

/-- **A draft cannot be approved where it was written**: the second stage decides it and makes the final
    intent, the third stage denies it. -/
theorem shown_draft_denied :
    let s := (HandlerSys.run plainSetup shownDraft).store
    (s.requests.map fun r => r.approvalRequestId) = [draftRequest] ∧
      ((HandlerOp.prog plainSetup (.groupApproval .second onlyBinding draftApproval)).eval s).1.isOk = true ∧
      ((HandlerOp.prog plainSetup (.groupApproval .third onlyBinding draftApproval)).eval s).1 =
        .error (.denied "model_approval_binding_unavailable") := by
  refine ⟨?_, ?_, ?_⟩ <;> decide +kernel

/-- The request that a reply decides. -/
def HandlerReply.decided? : Except HandlerError HandlerReply → Option HandlerRequestId
  | .ok (.approved r) => some r.decision.approvalRequestId
  | _ => none

theorem eval_of_decided {p : HandlerProg HandlerReply} {requestId : HandlerRequestId}
    (h : HandlerReply.decided? (p.eval s).1 = some requestId) :
    ∃ r s', p.eval s = (.ok (.approved r), s') ∧ r.decision.approvalRequestId = requestId := by
  rcases heval : p.eval s with ⟨⟨e⟩ | ⟨reply⟩, s'⟩
  · rw [heval] at h
    cases h
  · rw [heval] at h
    cases reply with
    | approved r => exact ⟨r, s', rfl, Option.some.inj h⟩
    | _ => cases h

/-- The draft `answer`, and its approval. -/
theorem draft_never_approved_answer :
    let s := (HandlerSys.run plainSetup shownDraft).store
    ∃ request r s', HandlerApprovalRequest.Drafted plainSetup writtenDraft 2 request ∧
      (HandlerOp.prog plainSetup (.groupApproval .second onlyBinding draftApproval)).eval s =
        (.ok (.approved r), s') ∧ r.decision.approvalRequestId = request.approvalRequestId ∧
      (HandlerOp.prog plainSetup (.groupApproval .third onlyBinding draftApproval)).eval s =
        (.error (.denied "model_approval_binding_unavailable"), s) := by
  intro s
  have hmade : ∃ x ∈ (HandlerSys.run plainSetup (writtenDraft ++ [.advance 2])).store.requests,
      x.approvalRequestId = draftRequest := by
    decide +kernel
  have hnone : (HandlerSys.run plainSetup writtenDraft).store.requests = [] := by
    decide +kernel
  have hdecided : HandlerReply.decided? ((HandlerOp.prog plainSetup
      (.groupApproval .second onlyBinding draftApproval)).eval s).1 = some draftRequest := by
    decide +kernel
  have hcall : (started writtenDraft)[2]? =
      some (.privateEvent .third onlyBinding (privateMessage "m1" 1 (.draft "answer"))) :=
    Eq.refl (some _)
  obtain ⟨request, hinserted, hrequest⟩ := hmade
  have hdrafted : request.Drafted plainSetup writtenDraft 2 := by
    refine ⟨⟨_, _, _, _, _, _, hcall, rfl⟩, ?_, hinserted⟩
    rw [hnone]
    exact List.not_mem_nil
  obtain ⟨r, s', hsecond, hof⟩ := eval_of_decided hdecided
  have hsame : r.decision.approvalRequestId = request.approvalRequestId := hof.trans hrequest.symm
  have hdenied := draft_never_approved plainSetup writtenDraft (List.replicate 24 (.advance 2)) 2 request
    hdrafted onlyBinding draftApproval r s' hsecond hsame
  exact ⟨request, r, s', hdrafted, hsecond, hsame, hdenied⟩

end WeFlow
