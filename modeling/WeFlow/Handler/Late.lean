import WeFlow.Handler.Candidate

/-!
# `Late` — an assistance that is handled late

A request for assistance names the version of its case. Only the transactions that make the request and the
candidate compare it; the one that stores the context and the one that hands a stopped assistance back do
not. On a schedule on which these two find the case at the request's version, the handling of a request
whose case has moved on changes no row of a case, no request for approval and no decision.

## Contents

* `HandlerOp.Handles`, `HandlerGuard.assistCurrent`.
* `HandlerStep.late` — one transaction of a late handling.
* `late_assist_harmless` — the result for every run; `late_assist_disturbs` — two runs that break it.
-/

namespace WeFlow

open Txn SQLiteQQHandlerJournal SQLiteQQModelJournal

variable {setup : HandlerSetup} {V : HandlerView} {s s' : HandlerWorld} {g : HandlerGuard}
  {O : HandlerOp → Prop} {actions : List HandlerAction} {request : ModelAssistRequest}

/-- The call handles the message that asked for the assistance. -/
def HandlerOp.Handles (text : HandlerText) (request : ModelAssistRequest) : HandlerOp → Prop
  | .assistEvent _ event _ => text.sha256Text event.messageId = request.sourceMessageIdHash
  | _ => False

/-- In `s` the case is at the version. -/
def HandlerWorld.At (s : HandlerWorld) (caseId : String) (version : Nat) : Prop :=
  ∀ c, s.case? caseId = some c → c.workflowVersion = version

/-- **The two writers of the assistance that compare no version** find the case at the request's. -/
def HandlerGuard.assistCurrent (request : ModelAssistRequest) : HandlerGuard where
  txn t s := request ∈ s.assistRequests →
    (∀ context, t = ⟨insertContext request context⟩ → s.At request.caseId request.expectedWorkflowVersion) ∧
    ∀ outcome, t = ⟨insertOutcome outcome⟩ → outcome.assistRequestId = request.assistRequestId →
      outcome.terminalOutcome ≠ .responseReady → s.outcome? outcome.assistRequestId = none →
      s.At request.caseId request.expectedWorkflowVersion
  disturb _ _ := True

/-! ## Requests for assistance -/

theorem HandlerStep.assists_distinct (h : HandlerStep setup V s s')
    (hinv : Table.Distinct ModelAssistRequest.clash s.assistRequests) :
    Table.Distinct ModelAssistRequest.clash s'.assistRequests := by
  cases h with
  | assistRequested hc hauth hstatus hr hcase hversion hfresh => exact hinv.append_one hfresh
  | _ => exact hinv

/-- The requests of a run are found by their messages. -/
theorem HandlerSys.assists_distinct (setup : HandlerSetup) (actions : List HandlerAction) :
    Table.Distinct ModelAssistRequest.clash (HandlerSys.run setup actions).store.assistRequests := by
  refine HandlerSys.invariant (I := fun s => Table.Distinct ModelAssistRequest.clash s.assistRequests)
    (O := fun _ => True) (Table.distinct_nil _) (fun _ _ hinv hstep => hstep.assists_distinct hinv)
    (fun e s _ hinv => ?_) (fun _ _ => trivial) (Sys.along_free actions)
  cases e <;> exact hinv

/-- What a handling of the message answers is the request of the message. -/
theorem eq_of_assists {op : HandlerOp} (hop : op.Handles setup.text request)
    (hdistinct : Table.Distinct ModelAssistRequest.clash s'.assistRequests)
    (hstored : request ∈ s'.assistRequests) {r : ModelAssistRequest}
    (hr : (s'.view g (· = op)).Assists setup r) : r = request := by
  obtain ⟨hmem, id, event, answer, rfl, hsource⟩ := hr
  refine hdistinct.eq_of_clash (fun a b => ?_) hmem hstored (decide_eq_true (.inr ?_))
  · simp [ModelAssistRequest.clash, eq_comm]
  · exact hsource.trans hop

/-! ## A late handling -/

/-- What the handlers' approvals are decided on stays. -/
structure HandlerWorld.Undisturbed (s s' : HandlerWorld) : Prop where
  cases : ∀ caseId c, s.case? caseId = some c → s'.case? caseId = some c
  requests : s'.requests = s.requests
  decisions : s'.decisions = s.decisions

theorem HandlerWorld.Undisturbed.refl (s : HandlerWorld) : s.Undisturbed s := ⟨fun _ _ h => h, rfl, rfl⟩

theorem HandlerWorld.Undisturbed.trans {a b c : HandlerWorld} (hab : a.Undisturbed b)
    (hbc : b.Undisturbed c) : a.Undisturbed c :=
  ⟨fun id x hx => hbc.cases id x (hab.cases id x hx), hbc.requests.trans hab.requests,
    hbc.decisions.trans hab.decisions⟩

/-- **One transaction of a late handling.** -/
theorem HandlerStep.late {op : HandlerOp} {c : HandlerCase}
    (h : HandlerStep setup (s'.view (.assistCurrent request) (· = op)) s s')
    (hop : op.Handles setup.text request)
    (hdistinct : Table.Distinct ModelAssistRequest.clash s'.assistRequests)
    (hstored : request ∈ s.assistRequests) (hc : s.case? request.caseId = some c)
    (hpast : request.expectedWorkflowVersion < c.workflowVersion) : s.Undisturbed s' := by
  have heq : ∀ {r}, (s'.view (.assistCurrent request) (· = op)).Assists setup r → r = request :=
    fun hr => eq_of_assists hop hdistinct (h.grows.assistRequests _ hstored) hr
  have hmoved : ¬ s.At request.caseId request.expectedWorkflowVersion := fun hat =>
    absurd (hat c hc) (Nat.ne_of_gt hpast)
  -- the call is no command, no approval and no execution
  have hcall : ∀ o, (s'.view (.assistCurrent request) (· = op)).op o →
      ∃ id event answer, o = .assistEvent id event answer := by
    rintro o rfl
    cases o with
    | assistEvent id event answer => exact ⟨id, event, answer, rfl⟩
    | _ => exact hop.elim
  have hcommands : ∀ stage, ¬ (s'.view (.assistCurrent request) (· = op)).Commands stage := by
    rintro stage ⟨id, event, hcommand⟩
    obtain ⟨_, _, _, heq⟩ := hcall _ hcommand
    cases heq
  cases h with
  | @issue binding new artifacts contents hb hbinding hnone =>
      refine ⟨fun caseId x hx => ?_, rfl, rfl⟩
      rw [HandlerWorld.case?, List.find?_append, show s.cases.find? _ = _ from hx, Option.some_or]
  | @candidate binding x version artifact issue revision now approval model lifecycle artifacts contents artifactLog
      candidateBindings hx hauth hrevision hrequest hnew hfresh heffect =>
      cases heffect with
      | plain hcommand => exact absurd hcommand (hcommands _)
      | draft hcommand => exact absurd hcommand (hcommands _)
      | @model assist context result b hcase hanswers hb hnewBinding =>
          -- a candidate of the request is made at the request's version only
          obtain ⟨hassists, hat, -⟩ := hanswers
          obtain rfl := heq hassists
          rw [← hcase, hc, Option.some.injEq] at hx
          obtain ⟨-, -, hversion, -⟩ := authorizeCaseRow_ok.mp hauth
          rw [← hx, ← hat] at hversion
          omega
  | simple hstage =>
      obtain ⟨stage, hcommand⟩ := hstage
      exact absurd hcommand (hcommands stage)
  | decided happroval =>
      obtain ⟨stage, id, event, happroval⟩ := happroval
      obtain ⟨_, _, _, heq⟩ := hcall _ happroval
      cases heq
  | resultRecorded hi =>
      obtain ⟨-, stage, id, binding, content, answers, hexecution⟩ := hi
      obtain ⟨_, _, _, heq⟩ := hcall _ hexecution
      cases heq
  | assistRequested hx hauth hstatus hr hcase hversion hfresh =>
      have hclash := hfresh request hstored
      rw [heq hr, ModelAssistRequest.clash, decide_eq_false_iff_not] at hclash
      exact absurd (.inl rfl) hclash
  | @context r context contexts hr hcontext hA =>
      obtain rfl := heq hr
      exact absurd ((hA.2 hstored).1 context rfl) hmoved
  | @handedBack r outcome hr hof hcase hA hnone hstopped =>
      obtain rfl := heq hr
      exact absurd ((hA.2 hstored).2 outcome rfl hof hstopped hnone) hmoved
  | _ => exact ⟨fun _ _ h => h, rfl, rfl⟩

/-- What is decided for an approval before is decided after. -/
theorem HandlerWorld.Undisturbed.insertDecision (h : s.Undisturbed s') {text : HandlerText}
    {binding : QQHandlerBinding} {command : QQGroupApprovalCommand} {authorHash sourceMessageId : String}
    {now : Instant} {d : HandlerApprovalDecision} {t : HandlerWorld}
    (hd : insertDecision text binding command authorHash sourceMessageId now s = .ok (d, t)) :
    ∃ t', insertDecision text binding command authorHash sourceMessageId now s' = .ok (d, t') := by
  have hrequest : s'.request? = s.request? := by
    funext id
    rw [HandlerWorld.request?, h.requests]
    rfl
  have hdecision : s'.decisionOf? = s.decisionOf? := by
    funext id
    rw [HandlerWorld.decisionOf?, h.decisions]
    rfl
  simp only [SQLiteQQHandlerJournal.insertDecision, fetch_bind_eq_ok] at hd
  obtain ⟨request, hr, c, hc, hd⟩ := hd
  rw [bind_eq_ok] at hd
  obtain ⟨⟨⟩, hauth, hd⟩ := hd
  simp only [require_bind_eq_ok] at hd
  obtain ⟨hcurrent, hmatch, hd⟩ := hd
  have hr' : s'.request? command.approvalRequestId = some request := by rw [hrequest, hr]
  cases hexisting : s.decisionOf? request.approvalRequestId with
  | some existing =>
      simp only [hexisting, pure, Except.pure, Except.ok.injEq, Prod.mk.injEq] at hd
      obtain ⟨rfl, -⟩ := hd
      refine ⟨s', ?_⟩
      simp only [SQLiteQQHandlerJournal.insertDecision, fetch_bind_eq_ok]
      refine ⟨request, hr', c, h.cases _ _ hc, bind_eq_ok.mpr ⟨(), hauth, ?_⟩⟩
      simp only [require_bind_eq_ok, hdecision, hexisting]
      exact ⟨hcurrent, hmatch, rfl⟩
  | none =>
      simp only [hexisting, fetch_bind_eq_ok, pure, Except.pure, Except.ok.injEq, Prod.mk.injEq] at hd
      obtain ⟨decisions, hinsert, rfl, -⟩ := hd
      refine ⟨{ s' with decisions }.modifyCase request.caseId fun c => { c with status := .approved }, ?_⟩
      simp only [SQLiteQQHandlerJournal.insertDecision, fetch_bind_eq_ok]
      refine ⟨request, hr', c, h.cases _ _ hc, bind_eq_ok.mpr ⟨(), hauth, ?_⟩⟩
      simp only [require_bind_eq_ok, hdecision, hexisting, fetch_bind_eq_ok]
      exact ⟨hcurrent, hmatch, decisions, h.decisions ▸ hinsert, rfl⟩

theorem handlerDisturbance_undisturbed (e : HandlerDisturbance) (s : HandlerWorld) :
    s.Undisturbed (handlerDisturbance e s) := by
  refine ⟨fun caseId c hc => ?_, ?_, ?_⟩
  · rw [handlerDisturbance_case?]
    exact hc
  · cases e <;> rfl
  · cases e <;> rfl

/-! ## The result -/

/-- **A late assistance disturbs nothing.** On every schedule on which the two writers that compare no
    version find the case at the request's, let the case of a stored request have moved on; then whatever
    the handlings of the request's message do from there on, with crashes and redeliveries of it, every row
    of a case, the requests for approval and the decisions stay as they are, and an approval that could be
    decided still can be. -/
theorem late_assist_harmless (setup : HandlerSetup) (actions more : List HandlerAction)
    (request : ModelAssistRequest) (c : HandlerCase)
    (hstored : request ∈ (HandlerSys.run setup actions).store.assistRequests)
    (hc : (HandlerSys.run setup actions).store.case? request.caseId = some c)
    (hpast : request.expectedWorkflowVersion < c.workflowVersion)
    (hmore : ∀ i, .advance i ∈ more → ∀ op, (started (actions ++ more))[i]? = some op →
      op.Handles setup.text request)
    (hguard : HandlerSys.Along setup (.assistCurrent request) (actions ++ more)) :
    let s := (HandlerSys.run setup actions).store
    let s' := (HandlerSys.run setup (actions ++ more)).store
    s'.case? request.caseId = some c ∧ s.Undisturbed s' ∧
      ∀ text binding command authorHash sourceMessageId now d t,
        insertDecision text binding command authorHash sourceMessageId now s = .ok (d, t) →
        ∃ t', insertDecision text binding command authorHash sourceMessageId now s' = .ok (d, t') := by
  intro s s'
  have hundisturbed : s.Undisturbed s' := by
    show s.Undisturbed (HandlerSys.run setup (actions ++ more)).store
    clear s'
    induction more using List.reverseRecOn with
    | nil =>
        rw [List.append_nil]
        exact .refl _
    | append_singleton more a ih =>
        rw [← List.append_assoc] at hguard hmore ⊢
        have hbefore := ih (fun i hi op hop => hmore i (List.mem_append_left _ hi) op ?_)
          (Sys.along_concat.mp hguard).1
        · refine hbefore.trans ?_
          cases a with
          | start | crash => rw [HandlerSys.run_concat]; exact .refl _
          | disturb e => rw [HandlerSys.run_concat]; exact handlerDisturbance_undisturbed e _
          | advance i =>
              cases hop : (started (actions ++ more))[i]? with
              | none =>
                  -- there is no such thread
                  have hlength : (HandlerSys.run setup (actions ++ more)).threads.length = _ :=
                    Sys.length_run HandlerWorld.empty (actions ++ more)
                  have hthread : (HandlerSys.run setup (actions ++ more)).threads[i]? = none := by
                    rw [List.getElem?_eq_none_iff, hlength]
                    exact List.getElem?_eq_none_iff.mp hop
                  rw [HandlerSys.run_concat]
                  show HandlerWorld.Undisturbed _ ((HandlerSys.run setup (actions ++ more)).advance i).store
                  rcases (HandlerSys.run setup (actions ++ more)).advance_cases i with
                    hsame | ⟨_, _, _, hi, -⟩
                  · rw [hsame]
                    exact .refl _
                  · rw [hthread] at hi
                    cases hi
              | some op =>
                  have hstored' := (HandlerSys.grows actions more).assistRequests _ hstored
                  have hdistinct := HandlerSys.assists_distinct setup (actions ++ more ++ [.advance i])
                  refine (HandlerSys.step_of_call hop hguard).late ?_ hdistinct hstored'
                    (hbefore.cases _ c hc) hpast
                  refine hmore i (List.mem_append_right _ (List.mem_singleton_self _)) op ?_
                  rw [started_concat, List.getElem?_append_left (List.getElem?_eq_some_iff.mp hop).1, hop]
        · rw [started_concat, List.getElem?_append_left (List.getElem?_eq_some_iff.mp hop).1, hop]
  exact ⟨hundisturbed.cases _ c hc, hundisturbed, fun _ _ _ _ _ _ _ _ hd => hundisturbed.insertDecision hd⟩

/-! ## A candidate that comes too late -/

/-- The reason code with which a transaction fails. -/
def AnyTxn.failure (t : AnyTxn HandlerWorld HandlerError) (s : HandlerWorld) : Option String :=
  match t.run s with
  | .ok _ => none
  | .error e => some e.reasonCode

/-- A transaction that fails because the version is stale stores no context and no outcome. -/
theorem HandlerGuard.assistCurrent_advance {c : HandlerSys} {i : Nat}
    (hfailure : (c.next? i).map (fun t => t.failure c.store) = some (some "handler_workflow_version_stale")) :
    c.Allows (HandlerGuard.assistCurrent request) (.advance i : HandlerAction) := by
  intro t ht _
  rw [ht, Option.map_some, Option.some.injEq] at hfailure
  refine ⟨?_, ?_⟩
  · rintro context rfl
    cases hfailure
  · rintro outcome rfl _ hstopped hnone
    exfalso
    unfold AnyTxn.failure at hfailure
    split at hfailure
    case h_1 => cases hfailure
    case h_2 e herror =>
      -- a fresh outcome fails for an integrity error or a missing case only
      simp only [insertOutcome, hnone] at herror
      cases hinsert : Table.insert? ModelAssistOutcome.clash outcome c.store.outcomes with
      | none =>
          rw [hinsert] at herror
          cases herror
          simp [HandlerError.integrity] at hfailure
      | some outcomes =>
          simp only [hinsert, fetch_some, bind, Except.bind] at herror
          split at herror
          · cases herror
          · cases hcase : c.store.case? outcome.caseId with
            | none =>
                rw [hcase] at herror
                cases herror
                simp [HandlerError.conflict] at hfailure
            | some x =>
                rw [hcase] at herror
                cases herror

/-- No assistance is requested, or the case is at version 2. -/
def HandlerWorld.beforeDraft (s : HandlerWorld) : Bool :=
  s.assistRequests.isEmpty || (s.case? "c1").all fun c => c.workflowVersion = 2

theorem HandlerGuard.assistCurrent_of_beforeDraft (hcase : request.caseId = "c1")
    (hversion : request.expectedWorkflowVersion = 2) (s : HandlerWorld) (h : s.beforeDraft = true) :
    (∀ t, (HandlerGuard.assistCurrent request).txn t s) ∧
      ∀ e, (HandlerGuard.assistCurrent request).disturb e s := by
  have hat : request ∈ s.assistRequests → s.At request.caseId request.expectedWorkflowVersion := by
    intro hstored c hc
    rcases Bool.or_eq_true .. ▸ h with hempty | hversions
    · rw [List.isEmpty_iff.mp hempty] at hstored
      exact absurd hstored List.not_mem_nil
    · rw [hcase] at hc
      rw [hc, Option.all_some, decide_eq_true_eq] at hversions
      rw [hversions, hversion]
  exact ⟨fun t hstored => ⟨fun _ _ => hat hstored, fun _ _ _ _ _ => hat hstored⟩, fun _ => trivial⟩

/-- The draft that message `m3` submits at version 2. -/
def draftedBy (i n : Nat) : List HandlerAction :=
  callSteps (.privateEvent .third onlyBinding (privateMessage "m3" 2 (.draft "mine"))) i n

/-- The model has answered, but the handler's own draft comes first. -/
def overtakenAssist : List HandlerAction := acceptedCase ++ assistedBy "m2" 2 3 17 ++ draftedBy 4 16

set_option maxRecDepth 20000 in
/-- The model's candidate is refused, and the handler's draft stays. -/
theorem late_assist_harmless_overtaken :
    (HandlerSys.run plainSetup (overtakenAssist ++ [.advance 3])).store.standing "c1" = some (.drafted, 3) := by
  have hrequests : ((HandlerSys.run plainSetup overtakenAssist).store.assistRequests.any fun r =>
      r.caseId = "c1" ∧ r.expectedWorkflowVersion = 2 ∧ r.sourceMessageIdHash = "m2") = true := by
    decide +kernel
  have hdrafted : ((HandlerSys.run plainSetup overtakenAssist).store.case? "c1").any (fun c =>
      c.status = .drafted ∧ c.workflowVersion = 3) = true := by decide +kernel
  have hbefore : Sys.startsIn HandlerWorld.beforeDraft (HandlerOp.prog plainSetup) handlerDisturbance
      ⟨.empty, []⟩ overtakenAssist = true := by decide +kernel
  obtain ⟨request, hstored, hrequest⟩ := List.any_eq_true.mp hrequests
  obtain ⟨hcase, hversion, hsource⟩ := of_decide_eq_true hrequest
  obtain ⟨c, hc, hstatus⟩ := (Option.any_eq_true _ _).mp hdrafted
  obtain ⟨hstatus, hat⟩ := of_decide_eq_true hstatus
  have hguard : HandlerSys.Along plainSetup (.assistCurrent request) (overtakenAssist ++ [.advance 3]) := by
    refine Sys.along_concat.mpr ⟨Sys.along_of_startsIn
      (HandlerGuard.assistCurrent_of_beforeDraft hcase hversion) hbefore, ?_⟩
    exact HandlerGuard.assistCurrent_advance (Eq.refl (some (some "handler_workflow_version_stale")))
  have hmore : ∀ i, .advance i ∈ [(.advance 3 : HandlerAction)] → ∀ op,
      (started (overtakenAssist ++ [.advance 3]))[i]? = some op → op.Handles plainSetup.text request := by
    intro i hi op hop
    cases List.mem_singleton.mp hi
    obtain rfl : .assistEvent onlyBinding (assistMessage "m2" 2) readyAnswer = op := Option.some.inj hop
    exact hsource.symm
  obtain ⟨hrow, -, -⟩ := late_assist_harmless plainSetup overtakenAssist [.advance 3] request c hstored
    (hcase ▸ hc) (by omega) hmore hguard
  rw [hcase] at hrow
  rw [HandlerWorld.standing, hrow, Option.map_some, hstatus, hat]

/-! ## Two late handlings that disturb a draft -/

/-- The call that handles the assistance is killed before its context is stored, and the handler submits a
    draft of its own. -/
def draftedInstead : List HandlerAction :=
  acceptedCase ++ assistedBy "m2" 2 3 14 ++ [.crash 3] ++ draftedBy 4 30

/-- The answer of a model run that has stopped. -/
def stoppedAnswer : RuntimeAnswer := { readyAnswer with terminalOutcome := .stopped "policy_denied" }

/-- **A late assistance disturbs a draft.** The redelivered message puts the drafted case back to
    `INVESTIGATING`; where the model stops, it puts it back to `ACCEPTED`, one version later. -/
theorem late_assist_disturbs :
    (HandlerSys.run plainSetup draftedInstead).store.standing "c1" = some (.drafted, 3) ∧
      (HandlerSys.run plainSetup (draftedInstead ++ assistedBy "m2" 2 5 30)).store.standing "c1" =
        some (.investigating, 3) ∧
      (HandlerSys.run plainSetup (draftedInstead ++ callSteps
        (.assistEvent onlyBinding (assistMessage "m2" 2) stoppedAnswer) 5 30)).store.standing "c1" =
          some (.accepted, 4) := by
  refine ⟨?_, ?_, ?_⟩ <;> decide +kernel

end WeFlow
