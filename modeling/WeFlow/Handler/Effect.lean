import WeFlow.Handler.Assist

/-!
# `Effect` — what the transactions of the handler write

One inversion lemma for each transaction: what has to hold for it to commit, and the store it leaves, as
the store it found with the tables it writes replaced. What a transaction leaves alone is read off that
store.

## Contents

* `insertBinding_ok`, …, `insertOutcome_ok` — the transactions of both journals.
* `modifyCase_*`, `addEvent_*` — the two updates that several of them share.
-/

namespace WeFlow

open Txn SQLiteQQHandlerJournal SQLiteQQModelJournal

/-! ## Shared updates -/

namespace HandlerWorld

variable {s : HandlerWorld}

theorem addEvent_eq (e : HandlerEvent) : ∃ events, s.addEvent e = { s with events } ∧
    ∀ x, x ∈ events ↔ x ∈ s.events ∨ x = e := by
  unfold addEvent
  by_cases h : e ∈ s.events
  · rw [if_pos h]
    refine ⟨s.events, rfl, fun x => ⟨Or.inl, ?_⟩⟩
    rintro (hx | rfl)
    exacts [hx, h]
  · rw [if_neg h]
    exact ⟨s.events ++ [e], rfl, fun x => by simp⟩

theorem case?_some {caseId : String} {c : HandlerCase} (h : s.case? caseId = some c) :
    c ∈ s.cases ∧ c.caseId = caseId := by
  have hkey := List.find?_some h
  rw [decide_eq_true_eq] at hkey
  exact ⟨List.mem_of_find?_eq_some h, hkey⟩

theorem request?_id {id : HandlerRequestId} {r : HandlerApprovalRequest} (h : s.request? id = some r) :
    r.approvalRequestId = id := by
  have hkey := List.find?_some h
  rwa [decide_eq_true_eq] at hkey

theorem case?_modifyCase {caseId : String} {f : HandlerCase → HandlerCase}
    (hf : ∀ c, (f c).caseId = c.caseId) (other : String) :
    (s.modifyCase caseId f).case? other =
      if caseId = other then (s.case? other).map f else s.case? other :=
  Table.find?_modify_key hf caseId other s.cases

end HandlerWorld

theorem scheduleArtifactDeletion_eq (ids : List HandlerArtifactId) (reasonCode : String) (s : HandlerWorld) :
    ∃ contents artifactLog, scheduleArtifactDeletion ids reasonCode s = { s with contents, artifactLog } :=
  ⟨_, _, rfl⟩

theorem scheduleArtifactDeletion_nil (reasonCode : String) (s : HandlerWorld) :
    scheduleArtifactDeletion [] reasonCode s = s := by
  have hcontents : Table.modify (fun p : HandlerArtifactContent => p.artifactId ∈ ([] : List HandlerArtifactId))
      (fun p => { p with reachable := false }) s.contents = s.contents := by
    simp [Table.modify]
  rw [scheduleArtifactDeletion, hcontents]
  rfl

/-- **A new candidate schedules the content of the one it replaces**. -/
theorem supersede_eq (c : HandlerCase) (s : HandlerWorld) :
    ∃ ids, supersede c s = scheduleArtifactDeletion ids "candidate_superseded" s ∧
      ∀ id, id ∈ ids ↔ ∃ prior, c.currentCandidateRevisionId.bind s.candidate? = some prior ∧
        prior.candidateArtifactId = id := by
  unfold supersede
  split
  case h_1 prior hprior =>
    refine ⟨[prior.candidateArtifactId], rfl, fun id => ?_⟩
    rw [List.mem_singleton, hprior]
    constructor
    · rintro rfl
      exact ⟨prior, rfl, rfl⟩
    · rintro ⟨x, hx, rfl⟩
      rw [Option.some.inj hx]
  case h_2 hnone =>
    refine ⟨[], (scheduleArtifactDeletion_nil _ s).symm, fun id => ?_⟩
    rw [hnone]
    simp

theorem withdraw_eq (b : ModelCandidateBinding) (reasonCode : String) (s : HandlerWorld) :
    s.withdraw b reasonCode = { s with lifecycle := (s.withdraw b reasonCode).lifecycle } := by
  unfold HandlerWorld.withdraw
  split <;> rfl

theorem invalidateModelPredecessor_eq (c : HandlerCase) (s : HandlerWorld) :
    invalidateModelPredecessor c s =
      { s with lifecycle := (invalidateModelPredecessor c s).lifecycle } := by
  unfold invalidateModelPredecessor
  split
  · split
    · exact withdraw_eq _ _ s
    · rfl
  · rfl

/-- What a candidate makes of its case: drafted, and marked by the model's hook if it is the model's. -/
def HandlerCase.withCandidate (request : HandlerApprovalRequest) (model : Bool) (c : HandlerCase) :
    HandlerCase :=
  { c.drafted request with status := if model then .responseReady else .drafted }

/-- The artifacts and the contents after an artifact has been added, with a content that can be read. -/
def ArtifactAdded (artifact : HandlerArtifact) (s : HandlerWorld) (artifacts : List HandlerArtifact)
    (contents : List HandlerArtifactContent) : Prop :=
  Table.insert? HandlerArtifact.clash artifact s.artifacts = some artifacts ∧
    ∃ normalized, Table.insert? HandlerArtifactContent.clash ⟨artifact.artifactId, normalized, true⟩
      s.contents = some contents

/-- The hooks that candidates of a case are made with: none in the second stage, the model journal's for a
    draft, or those of an assistance and its context. `P₂` and `P₃` say that drafts of the second and of the
    third stage are made, `C` what is known of the contexts. -/
inductive SQLiteQQHandlerJournal.CandidateHooks.For (P₂ P₃ : Prop)
    (C : ModelAssistRequest → ModelAssistContext → Prop) (caseId : String) : CandidateHooks → Prop
  | plain (h : P₂) : For P₂ P₃ C caseId noHooks
  | draft (h : P₃) : For P₂ P₃ C caseId draftHooks
  | model {assist : ModelAssistRequest} {context : ModelAssistContext} {result : QQModelRuntimeResult}
      (hcase : assist.caseId = caseId) (hcontext : C assist context) :
      For P₂ P₃ C caseId (modelHooks assist context result)

/-- What the hooks do to the lifecycle and to the bindings, and whether they mark the case. -/
inductive CandidateEffect (P₂ P₃ : Prop) (C : ModelAssistRequest → ModelAssistContext → Prop)
    (s : HandlerWorld) (c : HandlerCase) (artifact : HandlerArtifact) (revision : HandlerCandidateRevision)
    (request : HandlerApprovalRequest) : List CandidateLifecycle → List ModelCandidateBinding → Bool → Prop
  | plain (h : P₂) :
      CandidateEffect P₂ P₃ C s c artifact revision request s.lifecycle s.candidateBindings false
  | draft (h : P₃) : CandidateEffect P₂ P₃ C s c artifact revision request
      (invalidateModelPredecessor c s).lifecycle s.candidateBindings false
  | model {assist : ModelAssistRequest} {context : ModelAssistContext} {result : QQModelRuntimeResult}
      {b : ModelCandidateBinding} (hcase : assist.caseId = c.caseId) (hcontext : C assist context)
      (hb : b = modelBinding assist context result artifact revision request)
      (hfresh : ∀ x ∈ s.candidateBindings, ModelCandidateBinding.clash b x = false) :
      CandidateEffect P₂ P₃ C s c artifact revision request (invalidateModelPredecessor c s).lifecycle
        (s.candidateBindings ++ [b]) true

section Hooks

variable {P₂ P₃ : Prop} {C : ModelAssistRequest → ModelAssistContext → Prop} {hooks : CandidateHooks}
  {caseId : String}

theorem SQLiteQQHandlerJournal.CandidateHooks.For.invalidatePredecessor_eq (h : hooks.For P₂ P₃ C caseId)
    (c : HandlerCase) (s : HandlerWorld) : ∃ lifecycle,
      hooks.invalidatePredecessor c s = { s with lifecycle } := by
  cases h with
  | plain => exact ⟨s.lifecycle, rfl⟩
  | draft | model => exact ⟨_, invalidateModelPredecessor_eq c s⟩

/-- **The effect of the hooks**, in the store that has the new records and the drafted case. -/
theorem SQLiteQQHandlerJournal.CandidateHooks.For.finalize_ok {c : HandlerCase}
    (h : hooks.For P₂ P₃ C c.caseId) {artifact : HandlerArtifact} {revision : HandlerCandidateRevision}
    {request : HandlerApprovalRequest} {s t s' : HandlerWorld}
    (hok : hooks.finalize artifact revision request
      (t.modifyCase c.caseId (HandlerCase.drafted request)) = .ok s')
    (hbindings : t.candidateBindings = s.candidateBindings)
    (hlifecycle : t.lifecycle = (hooks.invalidatePredecessor c s).lifecycle) :
    ∃ candidateBindings model,
      s' = { t.modifyCase c.caseId (HandlerCase.withCandidate request model) with candidateBindings } ∧
      CandidateEffect P₂ P₃ C s c artifact revision request t.lifecycle candidateBindings model := by
  cases h with
  | plain h =>
      obtain rfl := Except.ok.inj hok
      refine ⟨t.candidateBindings, false, rfl, ?_⟩
      rw [hlifecycle, hbindings]
      exact .plain h
  | draft h =>
      obtain rfl := Except.ok.inj hok
      refine ⟨t.candidateBindings, false, rfl, ?_⟩
      rw [hlifecycle, hbindings]
      exact .draft h
  | @model assist context result hcase hcontext =>
      simp only [modelHooks, finalizeModelCandidate, fetch_bind_eq_ok, pure, Except.pure,
        Except.ok.injEq, HandlerWorld.modifyCase, hcase] at hok
      obtain ⟨candidateBindings, hinsert, rfl⟩ := hok
      obtain ⟨hfresh, rfl⟩ := Table.insert?_eq_some.mp hinsert
      rw [hbindings] at hfresh
      refine ⟨t.candidateBindings ++ [modelBinding assist context result artifact revision request], true,
        ?_, ?_⟩
      · have htwice : ∀ cases : List HandlerCase,
            Table.modify (fun x => x.caseId = c.caseId) (fun x => { x with status := .responseReady })
              (Table.modify (fun x => x.caseId = c.caseId) (HandlerCase.drafted request) cases) =
            Table.modify (fun x => x.caseId = c.caseId) (HandlerCase.withCandidate request true) cases :=
          fun cases => Table.modify_modify fun x => rfl
        simp only [HandlerWorld.modifyCase, htwice]
      · rw [hlifecycle, hbindings]
        exact .model hcase hcontext rfl hfresh

end Hooks

section Transactions

variable {text : HandlerText} {config : QQHandlerConfig} {binding : QQHandlerBinding}
  {s s' : HandlerWorld}

/-! ## Bindings and artifacts -/

theorem insertBinding_ok {pairing : ConfirmedPairing} {now : Instant} {b : QQHandlerBinding}
    (h : insertBinding text config pairing now s = .ok (b, s')) :
    s' = s ∨ ∃ locators, b = confirmedBinding text config pairing now ∧
      Table.insert? QQHandlerBinding.clash b s.bindings = some s'.bindings ∧
      (∀ x ∈ s.bindings, x.appIdHash = b.appIdHash → x.tenantIdHash = b.tenantIdHash →
        x.groupOpenidHash = b.groupOpenidHash → s.revoked x.handlerBindingId = false →
        renderedBefore now x.expiresAt = false) ∧
      s' = { s with bindings := s.bindings ++ [b], locators } := by
  unfold insertBinding at h
  split at h
  · obtain ⟨-, rfl⟩ := Prod.mk.injEq .. ▸ Except.ok.inj h
    exact .inl rfl
  · simp only [require_bind_eq_ok, fetch_bind_eq_ok, pure, Except.pure, Except.ok.injEq,
      Prod.mk.injEq] at h
    obtain ⟨hscope, bindings, hb, locators, -, rfl, rfl⟩ := h
    obtain ⟨-, rfl⟩ := Table.insert?_eq_some.mp hb
    refine .inr ⟨locators, rfl, hb, fun x hx happ htenant hgroup hrevoked => ?_, rfl⟩
    rw [Bool.not_eq_true', List.any_eq_false] at hscope
    have hother := hscope x hx
    simp only [decide_eq_true_eq, Bool.not_eq_true', not_and] at hother
    exact Bool.eq_false_iff.mpr fun hbefore => hother happ htenant hgroup hbefore hrevoked

theorem insertRevocation_ok {id : HandlerBindingId} {now : Instant}
    (h : insertRevocation text config id now s = .ok ((), s')) :
    ∃ locators events, s' = { s with locators, events } ∧ (∀ x ∈ s.events, x ∈ events) ∧
      ∀ x ∈ events, x ∈ s.events ∨ x.kind = .bindingRevoked := by
  simp only [insertRevocation, fetch_bind_eq_ok, require_bind_eq_ok] at h
  obtain ⟨b, -, -, h⟩ := h
  split at h
  · obtain ⟨-, rfl⟩ := Prod.mk.injEq .. ▸ Except.ok.inj h
    exact ⟨s.locators, s.events, rfl, fun _ hx => hx, fun _ => .inl⟩
  · simp only [require_bind_eq_ok, pure, Except.pure, Except.ok.injEq, Prod.mk.injEq] at h
    obtain ⟨-, -, rfl⟩ := h
    obtain ⟨events, heq, hmem⟩ := HandlerWorld.addEvent_eq (s := { s with locators := _ }) _
    rw [heq]
    refine ⟨_, events, rfl, fun x hx => (hmem x).mpr (.inl hx),
      fun x hx => ((hmem x).mp hx).imp (fun hold => hold) fun he => ?_⟩
    rw [he]

theorem insertIssue_ok {artifact a : HandlerArtifact} {normalized : String}
    (h : insertIssue binding artifact normalized s = .ok (a, s')) :
    s' = s ∨ ∃ artifacts contents c, s.case? c.caseId = none ∧ c.status = .ready ∧
      c.workflowVersion = 1 ∧ c.currentCandidateRevisionId = none ∧ c.currentApprovalRequestId = none ∧
      c.handlerBindingId = binding.handlerBindingId ∧
      (c.caseId = artifact.caseId ∧ ArtifactAdded artifact s artifacts contents) ∧
      s' = { s with artifacts, contents, cases := s.cases ++ [c] } := by
  unfold insertIssue at h
  split at h
  · simp only [fetch_bind_eq_ok, require_bind_eq_ok, pure, Except.pure, Except.ok.injEq,
      Prod.mk.injEq] at h
    obtain ⟨_, -, -, -, rfl⟩ := h
    exact .inl rfl
  case h_2 hnone =>
    simp only [fetch_bind_eq_ok, pure, Except.pure, Except.ok.injEq, Prod.mk.injEq] at h
    obtain ⟨artifacts, hartifacts, contents, hcontents, cases, hcases, -, rfl⟩ := h
    obtain ⟨-, rfl⟩ := Table.insert?_eq_some.mp hcases
    exact .inr ⟨artifacts, contents, _, hnone, rfl, rfl, rfl, rfl, rfl,
      ⟨rfl, hartifacts, normalized, hcontents⟩, rfl⟩

theorem removeContents_ok {caseId reasonCode : String} {now : Instant}
    (h : removeContents caseId reasonCode now s = .ok ((), s')) :
    ∃ contents artifactLog, s' = { s with contents, artifactLog } := by
  obtain ⟨-, rfl⟩ := Prod.mk.injEq .. ▸ Except.ok.inj h
  exact ⟨_, _, rfl⟩

/-! ## Cases -/

/-- `_authorize_case_row` lets a row pass. -/
theorem authorizeCaseRow_ok {c : HandlerCase} {version : Nat} {u : Unit} :
    authorizeCaseRow c binding version = .ok u ↔
      (c.tenantId = binding.tenantId ∧ c.handlerBindingId = binding.handlerBindingId) ∧
      c.groupOpenidHash = binding.groupOpenidHash ∧ c.workflowVersion = version ∧
      c.status.terminal = false := by
  simp [authorizeCaseRow, require_bind_eq_ok]

/-- What a new candidate makes of the artifacts: the one it replaces is scheduled for deletion, its own is
    added. -/
def CandidateArtifacts (s : HandlerWorld) (c : HandlerCase) (version : Nat) (now : Instant)
    (artifact : HandlerArtifact) (artifacts : List HandlerArtifact) (contents : List HandlerArtifactContent)
    (artifactLog : ArtifactLog) : Prop :=
  ∃ candidateHash ids, artifact = responseArtifact c candidateHash version now ∧
    (∀ id, id ∈ ids ↔ ∃ prior, c.currentCandidateRevisionId.bind s.candidate? = some prior ∧
      prior.candidateArtifactId = id) ∧
    ArtifactAdded artifact (scheduleArtifactDeletion ids "candidate_superseded" s) artifacts contents ∧
    artifactLog = (scheduleArtifactDeletion ids "candidate_superseded" s).artifactLog

/-- **What a new candidate writes.** -/
theorem insertCandidate_ok {P₂ P₃ : Prop} {C : ModelAssistRequest → ModelAssistContext → Prop}
    {hooks : CandidateHooks} {caseId : String} {version : Nat} {normalized : String} {now : Instant}
    {r : HandlerArtifact × HandlerCandidateRevision × HandlerApprovalRequest}
    (hhooks : hooks.For P₂ P₃ C caseId)
    (h : insertCandidate text hooks binding caseId version normalized now s = .ok (r, s')) :
    ∃ c model lifecycle artifacts contents artifactLog candidateBindings, s.case? caseId = some c ∧
      authorizeCaseRow c binding version = .ok () ∧
      r.2.1 = candidateRevision c r.1 (version + 1) ∧
      (∃ issue, s.artifact? c.issueArtifactId = some issue ∧ now < issue.expiresAt ∧
        r.2.2 = approvalRequest c issue r.2.1 now) ∧
      (∀ x ∈ s.candidates, HandlerCandidateRevision.clash r.2.1 x = false) ∧
      (∀ x ∈ s.requests, HandlerApprovalRequest.clash r.2.2 x = false) ∧
      CandidateEffect P₂ P₃ C s c r.1 r.2.1 r.2.2 lifecycle candidateBindings model ∧
      CandidateArtifacts s c (version + 1) now r.1 artifacts contents artifactLog ∧
      s' = { s with
        lifecycle, artifacts, contents, artifactLog, candidateBindings,
        candidates := s.candidates ++ [r.2.1], requests := s.requests ++ [r.2.2],
        cases := Table.modify (fun c => c.caseId = caseId) (HandlerCase.withCandidate r.2.2 model)
          s.cases } := by
  simp only [insertCandidate, fetch_bind_eq_ok] at h
  obtain ⟨c, hc, hauth⟩ := h
  rw [bind_eq_ok] at hauth
  obtain ⟨⟨⟩, hauth, h⟩ := hauth
  simp only [fetch_bind_eq_ok, require_bind_eq_ok, decide_eq_true_eq] at h
  obtain ⟨issue, hissue, hnow, artifacts, hartifacts, contents, hcontents, candidates, hcandidates,
    requests, hrequests, h⟩ := h
  rw [bind_eq_ok] at h
  obtain ⟨s₁, hfinal, h⟩ := h
  obtain ⟨rfl, rfl⟩ := Prod.mk.injEq .. ▸ Except.ok.inj h
  obtain ⟨-, rfl⟩ := HandlerWorld.case?_some hc
  obtain ⟨lifecycle, hinvalidate⟩ := hhooks.invalidatePredecessor_eq c s
  obtain ⟨ids, hsupersede, hids⟩ := supersede_eq c { s with lifecycle }
  rw [hinvalidate, hsupersede] at hfinal hcontents hartifacts hcandidates hrequests
  have hlifecycle := (congrArg HandlerWorld.lifecycle hinvalidate).symm
  obtain ⟨candidateBindings, model, rfl, heffect⟩ := hhooks.finalize_ok (s := s) hfinal rfl hlifecycle
  obtain ⟨hnew, rfl⟩ := Table.insert?_eq_some.mp hcandidates
  obtain ⟨hfresh, rfl⟩ := Table.insert?_eq_some.mp hrequests
  exact ⟨c, model, lifecycle, artifacts, contents, _, candidateBindings, hc, hauth, rfl,
    ⟨issue, hissue, hnow, rfl⟩, hnew, hfresh, heffect,
    ⟨_, ids, rfl, hids, ⟨hartifacts, normalized, hcontents⟩, rfl⟩, rfl⟩

theorem SQLiteQQHandlerJournal.SimpleCommand.apply_caseId (command : SimpleCommand) (c : HandlerCase) :
    (command.apply c).caseId = c.caseId := by
  cases command <;> rfl

theorem applySimpleCommand_ok {caseId : String} {version : Nat} {command : SimpleCommand}
    (h : applySimpleCommand binding caseId version command s = .ok ((), s')) :
    ∃ c ids, s.case? caseId = some c ∧ authorizeCaseRow c binding version = .ok () ∧
      (∀ id ∈ ids, ∃ a ∈ s.artifacts, a.artifactId = id) ∧
      (∀ reasonCode, command = .reject reasonCode → ∀ a ∈ s.artifacts, a.caseId = caseId →
        a.artifactId ∈ ids) ∧
      s' = { s.modifyCase caseId command.apply with
             contents := (scheduleArtifactDeletion ids "handler_rejected" s).contents
             artifactLog := (scheduleArtifactDeletion ids "handler_rejected" s).artifactLog } := by
  simp only [applySimpleCommand, fetch_bind_eq_ok] at h
  obtain ⟨c, hc, h⟩ := h
  rw [bind_eq_ok] at h
  obtain ⟨⟨⟩, hauth, h⟩ := h
  cases command with
  | reject reasonCode =>
      obtain ⟨-, rfl⟩ := Prod.mk.injEq .. ▸ Except.ok.inj h
      refine ⟨c, _, hc, hauth, fun id hid => ?_, fun _ _ a ha hcase => ?_, rfl⟩
      · obtain ⟨a, ha, hkey⟩ := List.mem_map.mp hid
        exact ⟨a, (List.mem_filter.mp ha).1, hkey⟩
      · exact List.mem_map_of_mem (List.mem_filter.mpr ⟨ha, decide_eq_true hcase⟩)
  | pull | accept =>
      obtain ⟨-, rfl⟩ := Prod.mk.injEq .. ▸ Except.ok.inj h
      refine ⟨c, [], hc, hauth, nofun, nofun, ?_⟩
      rw [scheduleArtifactDeletion_nil]
      rfl

/-- **What `approve_request` has established when it decides.** -/
theorem insertDecision_ok {command : QQGroupApprovalCommand} {authorHash sourceMessageId : String}
    {now : Instant} {d : HandlerApprovalDecision}
    (h : insertDecision text binding command authorHash sourceMessageId now s = .ok (d, s')) :
    (s' = s ∧ d ∈ s.decisions) ∨ ∃ request c, s.request? command.approvalRequestId = some request ∧
      s.case? request.caseId = some c ∧ authorizeCaseRow c binding command.expectedVersion = .ok () ∧
      c.currentApprovalRequestId = some request.approvalRequestId ∧
      c.currentCandidateRevisionId = some request.candidateRevisionId ∧
      request.workflowVersion = command.expectedVersion ∧ now < request.expiresAt ∧
      s.decisionOf? request.approvalRequestId = none ∧
      d = approvalDecision text binding request authorHash sourceMessageId now ∧
      Table.insert? HandlerApprovalDecision.clash d s.decisions = some s'.decisions ∧
      s' = { s.modifyCase request.caseId (fun c => { c with status := .approved }) with
             decisions := s.decisions ++ [d] } := by
  simp only [insertDecision, fetch_bind_eq_ok] at h
  obtain ⟨request, hrequest, c, hc, h⟩ := h
  rw [bind_eq_ok] at h
  obtain ⟨⟨⟩, hauth, h⟩ := h
  simp only [require_bind_eq_ok, decide_eq_true_eq] at h
  obtain ⟨⟨hcurrent, hcandidate, hversion, hnow⟩, -, h⟩ := h
  split at h
  case h_1 existing hexisting =>
    obtain ⟨rfl, rfl⟩ := Prod.mk.injEq .. ▸ Except.ok.inj h
    exact .inl ⟨rfl, List.mem_of_find?_eq_some hexisting⟩
  case h_2 hnone =>
    simp only [fetch_bind_eq_ok, pure, Except.pure, Except.ok.injEq, Prod.mk.injEq] at h
    obtain ⟨decisions, hd, rfl, rfl⟩ := h
    obtain ⟨-, rfl⟩ := Table.insert?_eq_some.mp hd
    exact .inr ⟨request, c, hrequest, hc, hauth, hcurrent, hcandidate, hversion, hnow, hnone, rfl, hd, rfl⟩

/-! ## Notifications and passive replies -/

theorem insertNotificationIntent_ok {intent i : HandlerNotificationIntent}
    (h : insertNotificationIntent intent s = .ok (i, s')) :
    s' = s ∨ (∀ x ∈ s.notificationIntents, HandlerNotificationIntent.clash intent x = false) ∧
      s' = { s with notificationIntents := s.notificationIntents ++ [intent] } := by
  unfold insertNotificationIntent at h
  split at h
  · obtain ⟨-, rfl⟩ := Prod.mk.injEq .. ▸ Except.ok.inj h
    exact .inl rfl
  · simp only [fetch_bind_eq_ok, pure, Except.pure, Except.ok.injEq, Prod.mk.injEq] at h
    obtain ⟨intents, hi, -, rfl⟩ := h
    obtain ⟨hfresh, rfl⟩ := Table.insert?_eq_some.mp hi
    exact .inr ⟨hfresh, rfl⟩

/-- **The three ways `execute_notification` can begin**: a stored result, an attempt without one, none. -/
theorem claimAttempt_ok {intent : HandlerNotificationIntent} {r : Option HandlerNotificationResult}
    (h : claimAttempt text intent s = .ok (r, s')) :
    (∃ a result, s.attempt? intent.intentId = some a ∧ a.result = some result ∧ r = some result ∧
      s' = s) ∨
    (∃ a, s.attempt? intent.intentId = some a ∧ a.result = none ∧
      ∃ recovered attempts events, recovered =
          notificationResult text intent .unknown "ambiguous_started_attempt" none s.now ∧
        attempts = Table.modify (fun a => a.intentId = intent.intentId) (setResult recovered)
          s.attempts ∧
        (∀ x, x ∈ events ↔ x ∈ s.events ∨
          x = notificationEvent intent .unknown "ambiguous_started_attempt" false s.now) ∧
        r = some recovered ∧ s' = { s with attempts, events }) ∨
    (s.attempt? intent.intentId = none ∧ r = none ∧
      s' = { s with attempts := s.attempts ++ [⟨intent.intentId, s.now, none⟩] }) := by
  unfold claimAttempt at h
  split at h
  case h_1 a ha =>
    split at h
    case h_1 result hresult =>
      obtain ⟨rfl, rfl⟩ := Prod.mk.injEq .. ▸ Except.ok.inj h
      exact .inl ⟨a, result, ha, hresult, rfl, rfl⟩
    case h_2 hresult =>
      obtain ⟨rfl, rfl⟩ := Prod.mk.injEq .. ▸ Except.ok.inj h
      let attempts := Table.modify (fun a => a.intentId = intent.intentId) (setResult
        (notificationResult text intent .unknown "ambiguous_started_attempt" none s.now)) s.attempts
      obtain ⟨events, heq, hmem⟩ := HandlerWorld.addEvent_eq (s := { s with attempts })
        (notificationEvent intent .unknown "ambiguous_started_attempt" false s.now)
      exact .inr (.inl ⟨a, ha, hresult, _, attempts, events, rfl, rfl, hmem, rfl, heq⟩)
  case h_2 hnone =>
    simp only [fetch_bind_eq_ok, pure, Except.pure, Except.ok.injEq, Prod.mk.injEq] at h
    obtain ⟨attempts, ha, rfl, rfl⟩ := h
    obtain ⟨-, rfl⟩ := Table.insert?_eq_some.mp ha
    exact .inr (.inr ⟨hnone, rfl, rfl⟩)

theorem recordNotification_ok {intent : HandlerNotificationIntent} {result : HandlerNotificationResult}
    (h : recordNotification intent result s = .ok ((), s')) :
    ∃ attempts events, s' = { s with attempts, events } ∧
      attempts = Table.modify (fun a => a.intentId = intent.intentId ∧ a.result.isNone)
        (setResult result) s.attempts ∧
      ∀ x, x ∈ events ↔ x ∈ s.events ∨ x =
        notificationEvent intent result.status result.reasonCode result.providerAccepted s.now := by
  obtain ⟨-, rfl⟩ := Prod.mk.injEq .. ▸ Except.ok.inj h
  let attempts := Table.modify (fun a => a.intentId = intent.intentId ∧ a.result.isNone)
    (setResult result) s.attempts
  obtain ⟨events, heq, hmem⟩ := HandlerWorld.addEvent_eq (s := { s with attempts })
    (notificationEvent intent result.status result.reasonCode result.providerAccepted s.now)
  exact ⟨attempts, events, heq, rfl, hmem⟩

theorem insertPassiveIntent_ok {intent i : HandlerPassiveIntent}
    (h : insertPassiveIntent intent s = .ok (i, s')) :
    s' = s ∨ (∀ x ∈ s.passiveIntents, HandlerPassiveIntent.clash intent x = false) ∧
      s' = { s with passiveIntents := s.passiveIntents ++ [intent] } := by
  unfold insertPassiveIntent at h
  split at h
  · obtain ⟨-, rfl⟩ := Prod.mk.injEq .. ▸ Except.ok.inj h
    exact .inl rfl
  · simp only [fetch_bind_eq_ok, pure, Except.pure, Except.ok.injEq, Prod.mk.injEq] at h
    obtain ⟨intents, hi, -, rfl⟩ := h
    obtain ⟨hfresh, rfl⟩ := Table.insert?_eq_some.mp hi
    exact .inr ⟨hfresh, rfl⟩

/-- The row is the first result of its intent; the event and the status are written in any case. -/
theorem insertPassiveResult_ok {intent : HandlerPassiveIntent} {result : HandlerPassiveResult}
    (h : insertPassiveResult intent result s = .ok ((), s')) :
    ∃ passiveResults events cases, s' = { s with passiveResults, events, cases } ∧
      passiveResults = (Table.insert? HandlerPassiveResult.clash result s.passiveResults).getD
        s.passiveResults ∧
      (∀ x, x ∈ events ↔ x ∈ s.events ∨ x = passiveEvent intent result s.now) ∧
      cases = if intent.responseKind = .final ∧ result.providerAccepted then
        (s.modifyCase intent.caseId HandlerCase.finalAccepted).cases else s.cases := by
  unfold insertPassiveResult at h
  obtain ⟨events, heq, hmem⟩ := HandlerWorld.addEvent_eq
    (s := { s with passiveResults := (Table.insert? HandlerPassiveResult.clash result
      s.passiveResults).getD s.passiveResults }) (passiveEvent intent result s.now)
  dsimp only at h
  rw [heq] at h
  by_cases hfinal : intent.responseKind = .final ∧ result.providerAccepted
  · rw [if_pos hfinal] at h ⊢
    obtain ⟨-, rfl⟩ := Prod.mk.injEq .. ▸ Except.ok.inj h
    exact ⟨_, events, _, rfl, rfl, hmem, rfl⟩
  · rw [if_neg hfinal] at h ⊢
    obtain ⟨-, rfl⟩ := Prod.mk.injEq .. ▸ Except.ok.inj h
    exact ⟨_, events, _, rfl, rfl, hmem, rfl⟩

/-! ## The model journal -/

/-- The request of the same message, or a new one for an accepted case. -/
theorem insertAssistRequest_ok {profile caseId sourceHash : String} {version : Nat} {now : Instant}
    {r : Bool × ModelAssistRequest}
    (h : insertAssistRequest profile binding caseId version sourceHash now s = .ok (r, s')) :
    (r.1 = false ∧ r.2 ∈ s.assistRequests ∧ r.2.sourceMessageIdHash = sourceHash ∧ s' = s) ∨
    ∃ c issue, r = (true, assistRequest profile c binding issue version sourceHash) ∧
      s.case? caseId = some c ∧ authorizeCaseRow c binding version = .ok () ∧ c.status = .accepted ∧
      (∀ x ∈ s.assistRequests, ModelAssistRequest.clash r.2 x = false) ∧
      s' = { s.modifyCase caseId (fun c => { c with status := .assistRequested }) with
             assistRequests := s.assistRequests ++ [r.2] } := by
  unfold insertAssistRequest at h
  split at h
  case h_1 existing hexisting =>
    simp only [require_bind_eq_ok, pure, Except.pure, Except.ok.injEq, Prod.mk.injEq] at h
    obtain ⟨-, rfl, rfl⟩ := h
    have hsource := List.find?_some hexisting
    rw [decide_eq_true_eq] at hsource
    exact .inl ⟨rfl, List.mem_of_find?_eq_some hexisting, hsource, rfl⟩
  case h_2 =>
    simp only [fetch_bind_eq_ok] at h
    obtain ⟨c, hc, h⟩ := h
    rw [bind_eq_ok] at h
    obtain ⟨⟨⟩, hauth, h⟩ := h
    simp only [fetch_bind_eq_ok, require_bind_eq_ok, decide_eq_true_eq, pure, Except.pure,
      Except.ok.injEq, Prod.mk.injEq] at h
    obtain ⟨hstatus, issue, -, -, assistRequests, hinsert, rfl, rfl⟩ := h
    obtain ⟨hfresh, rfl⟩ := Table.insert?_eq_some.mp hinsert
    exact .inr ⟨c, issue, rfl, hc, hauth, hstatus, hfresh, rfl⟩

/-- The context is stored unless its request has one; the case is written in any case. -/
theorem insertContext_ok {request : ModelAssistRequest} {context : ModelAssistContext}
    (h : insertContext request context s = .ok ((), s')) :
    s' = { s.modifyCase request.caseId (fun c => { c with status := .investigating }) with
      contexts := (Table.insert? ModelAssistContext.clash context s.contexts).getD s.contexts } := by
  obtain ⟨-, rfl⟩ := Prod.mk.injEq .. ▸ Except.ok.inj h
  rfl

theorem insertOutcome_ok {outcome o : ModelAssistOutcome} (h : insertOutcome outcome s = .ok (o, s')) :
    s' = s ∨ s.outcome? outcome.assistRequestId = none ∧
      (outcome.terminalOutcome = .responseReady ∧ s' = { s with outcomes := s.outcomes ++ [outcome] } ∨
        outcome.terminalOutcome ≠ .responseReady ∧
        s' = { s.modifyCase outcome.caseId HandlerCase.handedBack with
               outcomes := s.outcomes ++ [outcome] }) := by
  unfold insertOutcome at h
  split at h
  · obtain ⟨-, rfl⟩ := Prod.mk.injEq .. ▸ Except.ok.inj h
    exact .inl rfl
  case h_2 hnone =>
    simp only [fetch_bind_eq_ok] at h
    obtain ⟨outcomes, hinsert, h⟩ := h
    obtain ⟨-, rfl⟩ := Table.insert?_eq_some.mp hinsert
    refine .inr ⟨hnone, ?_⟩
    split at h
    case h_1 hready =>
      obtain ⟨-, rfl⟩ := Prod.mk.injEq .. ▸ Except.ok.inj h
      exact .inl ⟨hready, rfl⟩
    case h_2 kind hstopped =>
      simp only [fetch_bind_eq_ok, pure, Except.pure, Except.ok.injEq, Prod.mk.injEq] at h
      obtain ⟨-, -, -, rfl⟩ := h
      exact .inr ⟨by rw [hstopped]; exact nofun, rfl⟩

end Transactions

end WeFlow
