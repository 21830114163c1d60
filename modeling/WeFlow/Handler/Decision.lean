import WeFlow.Handler.Case

/-!
# `Decision` — an approval binds the current request

A decision is inserted for the request its case points at, at the case's own version, by the identity that
the case's handler binding names. The clock is read before the transaction that inserts it, so the request
is unexpired at `decided_at`, and may have expired by the time the row is there.

## Contents

* `Decides` — what an inserted decision has to be.
* `DecisionInv` — the three tables have no two rows of one key.
* `decision_binds_current_request` — the result for every run.
-/

namespace WeFlow

open Txn SQLiteQQHandlerJournal SQLiteQQModelJournal

/-- **A decision for the current request**, as the journal has it before the decision is inserted. -/
structure HandlerApprovalDecision.Decides (d : HandlerApprovalDecision) (s : HandlerWorld)
    (r : HandlerApprovalRequest) (c : HandlerCase) (b : QQHandlerBinding) : Prop where
  request : s.request? d.approvalRequestId = some r
  case : s.case? r.caseId = some c
  currentRequest : c.currentApprovalRequestId = some r.approvalRequestId
  currentCandidate : c.currentCandidateRevisionId = some r.candidateRevisionId
  version : r.workflowVersion = c.workflowVersion
  binding : s.binding? c.handlerBindingId = some b
  author : d.authorIdentityHash = b.groupMemberIdentityHash
  unexpired : d.decidedAt < r.expiresAt
  clock : d.decidedAt ≤ s.now

/-- Bindings, requests and decisions are found by their keys. -/
structure DecisionInv (s : HandlerWorld) : Prop where
  bindings : Table.Distinct QQHandlerBinding.clash s.bindings
  requests : Table.Distinct HandlerApprovalRequest.clash s.requests
  decisions : Table.Distinct HandlerApprovalDecision.clash s.decisions

variable {setup : HandlerSetup} {V : HandlerView} {s s' : HandlerWorld} {g : HandlerGuard}
  {op : HandlerOp → Prop} {actions : List HandlerAction}

theorem HandlerStep.decisionInv (h : HandlerStep setup V s s') (hinv : DecisionInv s) :
    DecisionInv s' := by
  cases h with
  | bound hb hfresh => exact ⟨hinv.bindings.append_one hfresh, hinv.requests, hinv.decisions⟩
  | candidate hc hauth hrevision hrequest hnew hfresh =>
      exact ⟨hinv.bindings, hinv.requests.append_one hfresh, hinv.decisions⟩
  | decided hop hb hrequest hc hcase hauth hcurrent hcandidate hversion hclock hunexpired hof hauthor
      hfresh =>
      exact ⟨hinv.bindings, hinv.requests, hinv.decisions.append_one hfresh⟩
  | _ => exact ⟨hinv.bindings, hinv.requests, hinv.decisions⟩

theorem HandlerSys.decisionInv (setup : HandlerSetup) (actions : List HandlerAction) :
    DecisionInv (HandlerSys.run setup actions).store := by
  have hempty : DecisionInv .empty :=
    ⟨Table.distinct_nil _, Table.distinct_nil _, Table.distinct_nil _⟩
  refine HandlerSys.invariant (O := fun _ => True) hempty (fun _ _ hinv hstep => hstep.decisionInv hinv)
    (fun e s _ hinv => ?_) (fun _ _ => trivial) (Sys.along_free actions)
  cases e <;> exact ⟨hinv.bindings, hinv.requests, hinv.decisions⟩

/-- A stored request is found in all that follows. -/
theorem HandlerStep.request? (h : HandlerStep setup V s s') {id : HandlerRequestId}
    {request : HandlerApprovalRequest} (hr : s.request? id = some request) :
    s'.request? id = some request := by
  cases h with
  | candidate hc hauth hrevision hrequest hnew hfresh =>
      show List.find? _ (s.requests ++ [_]) = _
      rw [List.find?_append, show s.requests.find? _ = _ from hr, Option.some_or]
  | _ => exact hr

/-- **A new decision is for the current request.** -/
theorem HandlerStep.decides (h : HandlerStep setup (s'.view g op) s s') (hinv : DecisionInv s)
    {d : HandlerApprovalDecision} (hd : d ∈ s'.decisions) (hnew : d ∉ s.decisions) :
    ∃ request c b, d.Decides s request c b := by
  cases h with
  | @decided binding c version request decision hop hb hrequest hc hcase hauth hcurrent hcandidate hversion
      hclock hunexpired hof hauthor hfresh =>
      obtain rfl : d = decision := by
        rcases List.mem_append.mp hd with hd | hd
        · exact absurd hd hnew
        · exact List.mem_singleton.mp hd
      obtain ⟨⟨-, hbinding⟩, -, hat, -⟩ := authorizeCaseRow_ok.mp hauth
      have hfound : s.binding? c.handlerBindingId = some binding := by
        rw [hbinding]
        refine hinv.bindings.find?_key (fun a b => ?_) (fun a b hab => ?_) hb
        · simp [QQHandlerBinding.clash, eq_comm]
        · exact decide_eq_true (.inl hab)
      exact ⟨request, c, binding,
        { request := hof ▸ hrequest, case := hcase ▸ hc, currentRequest := hcurrent,
          currentCandidate := hcandidate, version := hversion.trans hat.symm, binding := hfound,
          author := hauthor, unexpired := hunexpired, clock := hclock }⟩
  | _ => exact absurd hd hnew

/-- **An action of a run that inserts a decision** inserts it for the current request. -/
theorem HandlerSys.decides {a : HandlerAction} {d : HandlerApprovalDecision}
    (hd : d ∈ (HandlerSys.run setup (actions ++ [a])).store.decisions)
    (hnew : d ∉ (HandlerSys.run setup actions).store.decisions) :
    ∃ request c b, d.Decides (HandlerSys.run setup actions).store request c b := by
  rcases HandlerSys.step_cases (g := .free) (O := fun _ => True) (fun _ _ => trivial)
    (Sys.along_free (actions ++ [a])) with hstep | ⟨e, -, heq⟩
  · exact hstep.decides (HandlerSys.decisionInv setup actions) hd hnew
  · rw [heq] at hd
    cases e <;> exact absurd hd hnew

theorem HandlerSys.request? (actions more : List HandlerAction) {id : HandlerRequestId}
    {request : HandlerApprovalRequest}
    (hr : (HandlerSys.run setup actions).store.request? id = some request) :
    (HandlerSys.run setup (actions ++ more)).store.request? id = some request := by
  induction more using List.reverseRecOn with
  | nil => rw [List.append_nil]; exact hr
  | append_singleton more a ih =>
      rw [← List.append_assoc]
      rcases HandlerSys.step_cases (g := .free) (O := fun _ => True) (fun _ _ => trivial)
        (Sys.along_free (actions ++ more ++ [a])) with hstep | ⟨e, -, heq⟩
      · exact hstep.request? ih
      · rw [heq]
        cases e <;> exact ih

/-- **Handler approvals bind the current request.** In every run, a decision is inserted only for the
    request its case points at, with the candidate it points at, at the case's version, by the identity of
    the case's handler binding, and the clock it was decided at is before the request's expiry; a request
    has at most one decision; and once the case's version has moved past a request's, no decision for the
    request is ever added. -/
theorem decision_binds_current_request (setup : HandlerSetup) (actions : List HandlerAction) :
    let s := (HandlerSys.run setup actions).store
    (∀ a, ∀ d ∈ (HandlerSys.run setup (actions ++ [a])).store.decisions, d ∉ s.decisions →
      ∃ request c b, d.Decides s request c b) ∧
    (∀ id, (s.decisions.filter fun d => d.approvalRequestId = id).length ≤ 1) ∧
    ∀ id request c, s.request? id = some request → s.case? request.caseId = some c →
      request.workflowVersion < c.workflowVersion →
      ∀ more, ∀ d ∈ (HandlerSys.run setup (actions ++ more)).store.decisions,
        d.approvalRequestId = id → d ∈ s.decisions := by
  intro s
  refine ⟨fun a d hd hnew => HandlerSys.decides hd hnew, fun id => ?_, ?_⟩
  · refine (HandlerSys.decisionInv setup actions).decisions.filter_key_le_one fun a b ha hb => ?_
    rw [decide_eq_true_eq] at ha hb
    exact decide_eq_true (.inr (ha.trans hb.symm))
  · intro id request c hrequest hc hpast more
    induction more using List.reverseRecOn with
    | nil =>
        intro d hd _
        rwa [List.append_nil] at hd
    | append_singleton more a ih =>
        intro d hd hof
        rw [← List.append_assoc] at hd
        by_cases hold : d ∈ (HandlerSys.run setup (actions ++ more)).store.decisions
        · exact ih d hold hof
        -- a new decision would be at the version of its case, which is past the request's
        obtain ⟨request', c', b, hdecides⟩ := HandlerSys.decides hd hold
        have hsame := HandlerSys.request? actions more hrequest
        have hfound := hdecides.request
        rw [hof, hsame, Option.some.injEq] at hfound
        obtain ⟨c'', hc'', hle⟩ := HandlerSys.case_version_le actions more hc
        have hcase := hdecides.case
        rw [← hfound, hc'', Option.some.injEq] at hcase
        have hversion := hdecides.version
        rw [← hfound, ← hcase] at hversion
        omega

/-! ## An approval that is decided before and inserted after the expiry -/

/-- The first stage's locator of the group. -/
def onlyGroup : PairingLocator := ⟨"stage1", "group", handlerBindingTtl, true⟩

/-- The request of the draft `answer` of the case `c1`. -/
def draftRequest : HandlerRequestId :=
  stableIdentifier
    ⟨"c1", 2, stableIdentifier ⟨"c1", 2, stableIdentifier (.response "c1" 2 "answer")⟩, "answer"⟩

/-- The handler has drafted an answer. -/
def draftedCase : List HandlerAction :=
  openedCase ++ [.disturb (.pairing [onlyGroup])] ++
    callSteps (.privateEvent .second onlyBinding (privateMessage "m1" 1 (.draft "answer"))) 2 40

/-- The approval has read the clock; ten minutes pass before its transaction. -/
def pausedApproval : List HandlerAction :=
  draftedCase ++ callSteps (.groupApproval .second onlyBinding
    ⟨"member", "group", "g1", 0, .ok ⟨draftRequest, "answer", 2⟩⟩) 3 6 ++
    [.disturb (.elapse approvalRequestTtl)]

/-- **A decision is inserted for an expired request.** -/
theorem expired_request_decided :
    let s := (HandlerSys.run plainSetup pausedApproval).store
    s.decisions = [] ∧ ((s.request? draftRequest).any fun r => r.expiresAt ≤ s.now) = true ∧
      ((HandlerSys.run plainSetup (pausedApproval ++ [.advance 3])).store.decisions.map fun d =>
        d.approvalRequestId) = [draftRequest] := by
  refine ⟨?_, ?_, ?_⟩ <;> decide +kernel

end WeFlow
