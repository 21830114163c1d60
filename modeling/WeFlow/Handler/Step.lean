import WeFlow.Handler.Effect
import WeFlow.Handler.Service

/-!
# `Step` — what one transaction of the handler can do

`HandlerStep setup V s s'` lists every transaction that a call can commit, with what its program has
established by then; invariants of the journal are proved from this relation alone. `A` is a guard on the
schedule: the transactions that write what another call may have decided already carry what it says of them.

## Contents

* `Genuine` — bindings and intents are what their constructors made.
* `HandlerView`, `HandlerStep`; `HandlerOp.prog_steps` — the programs take no other steps.
* `HandlerSys.step_cases`, `HandlerSys.invariant` — every action of every run is such a step.
-/

namespace WeFlow

open Txn SQLiteQQHandlerJournal SQLiteQQModelJournal

/-! ## Genuine records -/

section Genuine

variable (setup : HandlerSetup)

def QQHandlerBinding.Genuine (b : QQHandlerBinding) : Prop :=
  ∃ pairing now, b = confirmedBinding setup.text setup.config pairing now

def HandlerNotificationIntent.Genuine (i : HandlerNotificationIntent) : Prop :=
  ∃ c binding created, i = notificationIntent setup.text c binding created

def HandlerPassiveIntent.Genuine (i : HandlerPassiveIntent) : Prop :=
  ∃ c binding sourceMessageId kind occurredAt content created,
    i = passiveIntent c binding sourceMessageId kind occurredAt content created

/-- The journal only holds bindings and intents that were made by their constructors. -/
structure HandlerWorld.Genuine (s : HandlerWorld) : Prop where
  bindings : ∀ b ∈ s.bindings, b.Genuine setup
  notificationIntents : ∀ i ∈ s.notificationIntents, i.Genuine setup
  passiveIntents : ∀ i ∈ s.passiveIntents, i.Genuine

end Genuine

/-! ## Views -/

/-- What is known of the calls of a run: which transactions the schedule lets happen, which call it is, and
    what holds of the clock and of every record that a call has read or written. -/
structure HandlerView where
  txn : AnyTxn HandlerWorld HandlerError → HandlerWorld → Prop
  op : HandlerOp → Prop
  clock : Instant → Prop
  case : String → Prop
  event : HandlerEvent → Prop
  binding : QQHandlerBinding → Prop
  notification : HandlerNotificationIntent → Prop
  claimed : HandlerIntentId → Prop
  passive : HandlerPassiveIntent → Prop
  result : HandlerPassiveResult → Prop
  decision : HandlerApprovalDecision → Prop
  assist : ModelAssistRequest → Prop
  context : ModelAssistContext → Prop
  candidate : ModelCandidateBinding → Prop

namespace HandlerView

/-- The records of a store are as the view says. -/
structure Sees (V : HandlerView) (s : HandlerWorld) : Prop where
  clock : V.clock s.now
  cases : ∀ c ∈ s.cases, V.case c.caseId
  events : ∀ e ∈ s.events, V.event e
  bindings : ∀ b ∈ s.bindings, V.binding b
  notificationIntents : ∀ i ∈ s.notificationIntents, V.notification i
  attempts : ∀ a ∈ s.attempts, V.claimed a.intentId
  passiveIntents : ∀ i ∈ s.passiveIntents, V.passive i
  passiveResults : ∀ r ∈ s.passiveResults, V.result r
  decisions : ∀ d ∈ s.decisions, V.decision d
  assistRequests : ∀ r ∈ s.assistRequests, V.assist r
  contexts : ∀ x ∈ s.contexts, V.context x
  candidateBindings : ∀ b ∈ s.candidateBindings, V.candidate b

/-- The view says so of every store that a transaction starts from or leaves. -/
def Sighted (V : HandlerView) : Prop :=
  ∀ t s, V.txn t s → V.Sees s ∧ ∀ b s', t.run s = .ok (b, s') → V.Sees s'

variable (V : HandlerView)

/-- The call handles a private command. -/
def Commands (stage : HandlerStage) : Prop := ∃ id event, V.op (.privateEvent stage id event)

/-- The call handles a message to which `request` answers. -/
def Assists (setup : HandlerSetup) (request : ModelAssistRequest) : Prop :=
  V.assist request ∧ ∃ id event answer, V.op (.assistEvent id event answer) ∧
    request.sourceMessageIdHash = setup.text.sha256Text event.messageId

/-- The call executes a passive intent, that of `intent`. -/
def Executes (intent : HandlerPassiveIntent) : Prop :=
  V.passive intent ∧ ∃ stage intentId id content answers,
    V.op (.executePassiveReply stage intentId id content answers)

/-- The call executes a notification intent, that of `intent`. -/
def Notifies (intent : HandlerNotificationIntent) : Prop :=
  V.notification intent ∧ ∃ intentId id answer, V.op (.executeNotification intentId id answer)

/-- The context has been compiled for the request: it is stored, or another one was. -/
def Compiled (request : ModelAssistRequest) (context : ModelAssistContext) : Prop :=
  context.assistRequestId = request.assistRequestId ∧
    (V.context context ∨
      ∃ s, V.txn ⟨insertContext request context⟩ s ∧ s.context? request.assistRequestId ≠ none)

/-- The call answers a request of the given version with what the model made of the context. -/
def Answers (setup : HandlerSetup) (version : Nat) (request : ModelAssistRequest)
    (context : ModelAssistContext) : Prop :=
  V.Assists setup request ∧ request.expectedWorkflowVersion = version ∧ V.Compiled request context

/-- The result has been told for the intent: it is stored, or an event names it. -/
def Told (intent : HandlerPassiveIntent) (result : HandlerPassiveResult) : Prop :=
  result.intentId = intent.intentId ∧
    (V.result result ∨ ∃ now, V.event (passiveEvent intent result now))

end HandlerView

/-! ## The steps -/

/-- **One transaction of a call**: what its program has established, and the store it leaves. -/
inductive HandlerStep (setup : HandlerSetup) (V : HandlerView) : HandlerWorld → HandlerWorld → Prop
  | same {s : HandlerWorld} : HandlerStep setup V s s
  | bound {s : HandlerWorld} {b : QQHandlerBinding} {locators : List HandlerPrivateLocator}
      (hb : b.Genuine setup) (hfresh : ∀ x ∈ s.bindings, QQHandlerBinding.clash b x = false)
      (hconfirmed : ∃ pairing now, V.clock now ∧ V.txn ⟨insertBinding setup.text setup.config pairing now⟩ s ∧
        (∀ x ∈ s.bindings, x.appIdHash = b.appIdHash → x.tenantIdHash = b.tenantIdHash →
          x.groupOpenidHash = b.groupOpenidHash → s.revoked x.handlerBindingId = false →
          renderedBefore now x.expiresAt = false)) :
      HandlerStep setup V s { s with bindings := s.bindings ++ [b], locators }
  | revoked {s : HandlerWorld} {locators : List HandlerPrivateLocator} {events : List HandlerEvent}
      (hkept : ∀ x ∈ s.events, x ∈ events)
      (hnew : ∀ x ∈ events, x ∈ s.events ∨ x.kind = .bindingRevoked) :
      HandlerStep setup V s { s with locators, events }
  | issue {s : HandlerWorld} {binding : QQHandlerBinding} {c : HandlerCase}
      {artifacts : List HandlerArtifact} {contents : List HandlerArtifactContent}
      (hb : V.binding binding) (hbinding : c.handlerBindingId = binding.handlerBindingId)
      (hnone : s.case? c.caseId = none) (hready : c.status = .ready) (hversion : c.workflowVersion = 1)
      (hcandidate : c.currentCandidateRevisionId = none)
      (hrequest : c.currentApprovalRequestId = none)
      (hartifact : ∃ artifact, c.caseId = artifact.caseId ∧ ArtifactAdded artifact s artifacts contents) :
      HandlerStep setup V s { s with artifacts, contents, cases := s.cases ++ [c] }
  | retained {s : HandlerWorld} {caseId reasonCode : String} {now : Instant}
      {contents : List HandlerArtifactContent} {artifactLog : ArtifactLog} (hclock : V.clock now)
      (hA : V.txn ⟨removeContents caseId reasonCode now⟩ s)
      (hremoved : removeContents caseId reasonCode now s = .ok ((), { s with contents, artifactLog })) :
      HandlerStep setup V s { s with contents, artifactLog }
  | candidate {s : HandlerWorld} {binding : QQHandlerBinding} {c : HandlerCase} {version : Nat}
      {artifact issue : HandlerArtifact} {revision : HandlerCandidateRevision} {now : Instant}
      {request : HandlerApprovalRequest} {model : Bool} {lifecycle : List CandidateLifecycle}
      {artifacts : List HandlerArtifact} {contents : List HandlerArtifactContent}
      {artifactLog : ArtifactLog} {candidateBindings : List ModelCandidateBinding} (hc : s.case? c.caseId = some c)
      (hauth : authorizeCaseRow c binding version = .ok ())
      (hrevision : revision = candidateRevision c artifact (version + 1))
      (hrequest : request = approvalRequest c issue revision now)
      (hnew : ∀ x ∈ s.candidates, HandlerCandidateRevision.clash revision x = false)
      (hfresh : ∀ x ∈ s.requests, HandlerApprovalRequest.clash request x = false)
      (heffect : CandidateEffect (V.Commands .second) (V.Commands .third) (V.Answers setup version) s c
        artifact revision request lifecycle candidateBindings model)
      (hartifacts : CandidateArtifacts s c (version + 1) now artifact artifacts contents artifactLog) :
      HandlerStep setup V s
        { s with
          lifecycle, artifacts, contents, artifactLog, candidateBindings, candidates := s.candidates ++ [revision],
          requests := s.requests ++ [request],
          cases := Table.modify (fun x => x.caseId = c.caseId) (HandlerCase.withCandidate request model)
            s.cases }
  | simple {s : HandlerWorld} {binding : QQHandlerBinding} {c : HandlerCase} {version : Nat}
      {command : SimpleCommand} {ids : List HandlerArtifactId}
      (hop : ∃ stage, V.Commands stage) (hc : s.case? c.caseId = some c)
      (hauth : authorizeCaseRow c binding version = .ok ())
      (hstored : ∀ id ∈ ids, ∃ a ∈ s.artifacts, a.artifactId = id)
      (hids : ∀ reasonCode, command = .reject reasonCode → ∀ a ∈ s.artifacts, a.caseId = c.caseId →
        a.artifactId ∈ ids) :
      HandlerStep setup V s
        { s.modifyCase c.caseId command.apply with
          contents := (scheduleArtifactDeletion ids "handler_rejected" s).contents
          artifactLog := (scheduleArtifactDeletion ids "handler_rejected" s).artifactLog }
  | decided {s : HandlerWorld} {binding : QQHandlerBinding} {c : HandlerCase} {version : Nat}
      {request : HandlerApprovalRequest} {d : HandlerApprovalDecision}
      (hop : ∃ stage id event, V.op (.groupApproval stage id event)) (hb : V.binding binding)
      (hrequest : s.request? request.approvalRequestId = some request)
      (hc : s.case? c.caseId = some c) (hcase : c.caseId = request.caseId)
      (hauth : authorizeCaseRow c binding version = .ok ())
      (hcurrent : c.currentApprovalRequestId = some request.approvalRequestId)
      (hcandidate : c.currentCandidateRevisionId = some request.candidateRevisionId)
      (hversion : request.workflowVersion = version) (hclock : V.clock d.decidedAt)
      (hunexpired : d.decidedAt < request.expiresAt)
      (hof : d.approvalRequestId = request.approvalRequestId)
      (hauthor : d.authorIdentityHash = binding.groupMemberIdentityHash)
      (hfresh : ∀ x ∈ s.decisions, HandlerApprovalDecision.clash d x = false) :
      HandlerStep setup V s
        { s.modifyCase c.caseId (fun c => { c with status := .approved }) with
          decisions := s.decisions ++ [d] }
  | recordedCommand {s : HandlerWorld} {commands : List StoredHandlerCommand} :
      HandlerStep setup V s { s with commands }
  | notificationIntent {s : HandlerWorld} {intent : HandlerNotificationIntent}
      (hi : intent.Genuine setup)
      (hfresh : ∀ x ∈ s.notificationIntents, HandlerNotificationIntent.clash intent x = false) :
      HandlerStep setup V s { s with notificationIntents := s.notificationIntents ++ [intent] }
  | claimed {s : HandlerWorld} {intent : HandlerNotificationIntent} (hi : V.Notifies intent)
      (hnone : s.attempt? intent.intentId = none) :
      HandlerStep setup V s { s with attempts := s.attempts ++ [⟨intent.intentId, s.now, none⟩] }
  | recovered {s : HandlerWorld} {intent : HandlerNotificationIntent}
      {a : HandlerNotificationAttempt} {result : HandlerNotificationResult}
      {attempts : List HandlerNotificationAttempt} {events : List HandlerEvent}
      (hi : V.Notifies intent) (ha : s.attempt? intent.intentId = some a) (hnone : a.result = none)
      (hresult : result =
        notificationResult setup.text intent .unknown "ambiguous_started_attempt" none s.now)
      (hattempts : attempts = Table.modify (fun a => a.intentId = intent.intentId) (setResult result)
        s.attempts)
      (hevents : ∀ x, x ∈ events ↔ x ∈ s.events ∨
        x = notificationEvent intent .unknown "ambiguous_started_attempt" false s.now) :
      HandlerStep setup V s { s with attempts, events }
  | notified {s : HandlerWorld} {intent : HandlerNotificationIntent} {userOpenid content : String}
      (hi : V.Notifies intent) :
      HandlerStep setup V s
        { s with transport := s.transport ++ [.notifyC2c userOpenid content intent.idempotencyKey] }
  | outcomeRecorded {s : HandlerWorld} {intent : HandlerNotificationIntent}
      {result : HandlerNotificationResult} {attempts : List HandlerNotificationAttempt}
      {events : List HandlerEvent} (hi : V.Notifies intent)
      (hclaimed : V.claimed intent.intentId) (hresult : result.intentId = intent.intentId)
      (hA : V.txn ⟨recordNotification intent result⟩ s)
      (hattempts : attempts = Table.modify
        (fun a => a.intentId = intent.intentId ∧ a.result.isNone) (setResult result) s.attempts)
      (hevents : ∀ x, x ∈ events ↔ x ∈ s.events ∨ x =
        notificationEvent intent result.status result.reasonCode result.providerAccepted s.now) :
      HandlerStep setup V s { s with attempts, events }
  | passiveIntent {s : HandlerWorld} {intent : HandlerPassiveIntent} (hi : intent.Genuine)
      (hcase : V.case intent.caseId)
      (hfinal : intent.responseKind = .final → ∃ d, V.decision d ∧ intent.caseId = d.caseId ∧
        intent.approvalDecisionId = some d.approvalDecisionId)
      (hA : V.txn ⟨insertPassiveIntent intent⟩ s)
      (hfresh : ∀ x ∈ s.passiveIntents, HandlerPassiveIntent.clash intent x = false) :
      HandlerStep setup V s { s with passiveIntents := s.passiveIntents ++ [intent] }
  | reconciled {s : HandlerWorld} {intent : HandlerPassiveIntent} {destination : String}
      (hi : V.Executes intent) :
      HandlerStep setup V s { s with transport := s.transport ++ [reconcileCall intent destination] }
  | replied {s : HandlerWorld} {intent : HandlerPassiveIntent} {destination content : String}
      (hi : V.Executes intent) (hA : V.txn ⟨recordCall (passiveCall intent destination content)⟩ s) :
      HandlerStep setup V s
        { s with transport := s.transport ++ [passiveCall intent destination content] }
  | resultRecorded {s : HandlerWorld} {intent : HandlerPassiveIntent} {result : HandlerPassiveResult}
      {passiveResults : List HandlerPassiveResult} {events : List HandlerEvent} {cases : List HandlerCase}
      (hi : V.Executes intent) (hresult : result.intentId = intent.intentId)
      (haccepted : result.providerAccepted = result.status.acceptedOrDuplicate)
      (hA : V.txn ⟨insertPassiveResult intent result⟩ s)
      (hresults : passiveResults = (Table.insert? HandlerPassiveResult.clash result
        s.passiveResults).getD s.passiveResults)
      (hevents : ∀ x, x ∈ events ↔ x ∈ s.events ∨ x = passiveEvent intent result s.now)
      (hcases : cases = if intent.responseKind = .final ∧ result.providerAccepted then
        (s.modifyCase intent.caseId HandlerCase.finalAccepted).cases else s.cases) :
      HandlerStep setup V s { s with passiveResults, events, cases }
  | assistRequested {s : HandlerWorld} {binding : QQHandlerBinding} {c : HandlerCase} {version : Nat}
      {request : ModelAssistRequest} (hc : s.case? c.caseId = some c)
      (hauth : authorizeCaseRow c binding version = .ok ()) (hstatus : c.status = .accepted)
      (hr : V.Assists setup request) (hcase : request.caseId = c.caseId)
      (hversion : request.expectedWorkflowVersion = version)
      (hfresh : ∀ x ∈ s.assistRequests, ModelAssistRequest.clash request x = false) :
      HandlerStep setup V s
        { s.modifyCase c.caseId (fun c => { c with status := .assistRequested }) with
          assistRequests := s.assistRequests ++ [request] }
  | context {s : HandlerWorld} {request : ModelAssistRequest} {context : ModelAssistContext}
      {contexts : List ModelAssistContext} (hr : V.Assists setup request)
      (hcontext : context.assistRequestId = request.assistRequestId)
      (hA : V.txn ⟨insertContext request context⟩ s)
      (hcontexts : contexts =
        (Table.insert? ModelAssistContext.clash context s.contexts).getD s.contexts) :
      HandlerStep setup V s
        { s.modifyCase request.caseId (fun c => { c with status := .investigating }) with contexts }
  | budget {s : HandlerWorld} {budgets : List ModelBudget} : HandlerStep setup V s { s with budgets }
  | completed {s : HandlerWorld} {request : ModelAssistRequest} {outcome : ModelAssistOutcome}
      (hr : V.Assists setup request) (hof : outcome.assistRequestId = request.assistRequestId)
      (hnone : s.outcome? outcome.assistRequestId = none) :
      HandlerStep setup V s { s with outcomes := s.outcomes ++ [outcome] }
  | handedBack {s : HandlerWorld} {request : ModelAssistRequest} {outcome : ModelAssistOutcome}
      (hr : V.Assists setup request) (hof : outcome.assistRequestId = request.assistRequestId)
      (hcase : outcome.caseId = request.caseId) (hA : V.txn ⟨insertOutcome outcome⟩ s)
      (hnone : s.outcome? outcome.assistRequestId = none)
      (hstopped : outcome.terminalOutcome ≠ .responseReady) :
      HandlerStep setup V s
        { s.modifyCase outcome.caseId HandlerCase.handedBack with outcomes := s.outcomes ++ [outcome] }
  | withdrawn {s : HandlerWorld} {intent : HandlerPassiveIntent} {result : HandlerPassiveResult}
      {record : ModelCandidateBinding} {reasonCode : String} (hi : V.Executes intent)
      (hfinal : intent.responseKind = .final) (haccepted : result.providerAccepted = true)
      (htold : V.Told intent result) (hrecord : V.candidate record)
      (hcase : record.caseId = intent.caseId)
      (hA : V.txn ⟨fun s => .ok ((), s.withdraw record reasonCode)⟩ s) :
      HandlerStep setup V s { s with lifecycle := (s.withdraw record reasonCode).lifecycle }

/-! ## The programs take no other steps -/

section Programs

variable {setup : HandlerSetup} {V : HandlerView}

/-- A program of the handler that takes `HandlerStep`s only, and returns with `Q`. -/
abbrev Stepwise (setup : HandlerSetup) (V : HandlerView) {α : Type} (Q : α → Prop) (p : HandlerProg α) :
    Prop :=
  Quiet V.txn (HandlerStep setup V) Q p

/-- A program of the handler that takes `HandlerStep`s only. -/
abbrev Steps (setup : HandlerSetup) (V : HandlerView) {α : Type} (p : HandlerProg α) : Prop :=
  Stepwise setup V (fun _ => True) p

theorem steps_observe {α : Type} {query : HandlerWorld → α} : Steps setup V (.observe query) :=
  quiet_observe (fun _ => .same) fun _ _ => trivial

/-- A query tells what the view says of the store. -/
theorem stepwise_observe {α : Type} {query : HandlerWorld → α} {Q : α → Prop} (hV : V.Sighted)
    (h : ∀ s, V.Sees s → Q (query s)) : Stepwise setup V Q (.observe query) :=
  quiet_observe (fun _ => .same) fun s hs => h s (hV _ s hs).1

theorem steps_check {c : Bool} {e : HandlerError} : Steps setup V (.check c e) :=
  quiet_check.mpr fun _ => trivial

theorem stepwise_check {c : Bool} {e : HandlerError} : Stepwise setup V (fun _ => c = true) (.check c e) :=
  quiet_check.mpr fun h => h

theorem steps_need {α : Type} {row : Option α} {e : HandlerError} : Steps setup V (.need row e) :=
  quiet_need.mpr fun _ _ => trivial

theorem stepwise_need {α : Type} {row : Option α} {e : HandlerError} :
    Stepwise setup V (fun a => row = some a) (.need row e) :=
  quiet_need.mpr fun _ h => h

theorem steps_atomically {α : Type} {txn : HandlerWorld → Except HandlerError (α × HandlerWorld)}
    (h : ∀ s a s', V.txn ⟨txn⟩ s → txn s = .ok (a, s') → HandlerStep setup V s s') :
    Steps setup V (.atomically txn) :=
  quiet_atomically.mpr fun s a s' hA htxn => ⟨h s a s' hA htxn, trivial⟩

theorem Steps.bind {α β : Type} {p : HandlerProg α} {f : α → HandlerProg β} (hp : Steps setup V p)
    (hf : ∀ a, Steps setup V (f a)) : Steps setup V (p >>= f) :=
  Quiet.bind hp fun a _ => hf a

theorem Steps.returns {α β : Type} {Q : β → Prop} {p : HandlerProg α} {f : α → HandlerProg β}
    (hp : Steps setup V p) (hf : ∀ a, Stepwise setup V Q (f a)) : Stepwise setup V Q (p >>= f) :=
  Quiet.bind hp fun a _ => hf a

theorem Stepwise.bind {α β : Type} {Q : α → Prop} {p : HandlerProg α} {f : α → HandlerProg β}
    (hp : Stepwise setup V Q p) (hf : ∀ a, Q a → Steps setup V (f a)) : Steps setup V (p >>= f) :=
  Quiet.bind hp hf

/-! ### The handler journal -/

theorem steps_confirmHandlerBinding (hV : V.Sighted) (pairing : ConfirmedPairing) :
    Steps setup V (confirmHandlerBinding setup.text setup.config pairing) := by
  refine (stepwise_observe hV fun s hs => hs.clock).bind fun now hnow =>
    steps_atomically fun s b s' hA h => ?_
  obtain rfl | ⟨locators, rfl, hinsert, hscope, rfl⟩ := insertBinding_ok h
  · exact .same
  · exact .bound ⟨_, _, rfl⟩ (Table.insert?_eq_some.mp hinsert).1 ⟨pairing, now, hnow, hA, hscope⟩

theorem steps_revokeHandlerBinding (id : HandlerBindingId) :
    Steps setup V (revokeHandlerBinding setup.text setup.config id) := by
  refine steps_observe.bind fun _ => steps_atomically fun s b s' _ h => ?_
  obtain ⟨locators, events, rfl, hkept, hnew⟩ := insertRevocation_ok h
  exact .revoked hkept hnew

theorem steps_privateLocator (id : HandlerBindingId) : Steps setup V (privateLocator id) :=
  steps_observe.bind fun _ => steps_observe.bind fun _ => steps_need.bind fun _ =>
    steps_check.bind fun _ => trivial

theorem steps_bindingGroupFromStage1 (binding : QQHandlerBinding) :
    Steps setup V (bindingGroupFromStage1 setup.text binding) :=
  steps_observe.bind fun _ => steps_observe.bind fun _ => steps_need.bind fun _ =>
    steps_check.bind fun _ => steps_check.bind fun _ => trivial

theorem steps_normalizePrivateContent (content : String) (candidate : Bool) :
    Steps setup V (normalizePrivateContent setup.text content candidate) := by
  unfold normalizePrivateContent
  split <;> trivial

theorem steps_createIssueArtifact {binding : QQHandlerBinding} (hb : V.binding binding)
    (caseId caseRevisionId content : String) :
    Steps setup V (createIssueArtifact setup.text binding caseId caseRevisionId content) := by
  refine (steps_normalizePrivateContent _ _).bind fun _ => steps_observe.bind fun _ =>
    steps_atomically fun s a s' _ h => ?_
  obtain rfl | ⟨artifacts, contents, c, hnone, hready, hversion, hcandidate, hrequest, hbinding, hadded,
    rfl⟩ := insertIssue_ok h
  · exact .same
  · exact .issue hb hbinding hnone hready hversion hcandidate hrequest ⟨_, hadded⟩

theorem steps_deleteArtifacts (hV : V.Sighted) (caseId reasonCode : String) :
    Steps setup V (deleteArtifacts caseId reasonCode) := by
  refine Quiet.bind (stepwise_observe hV fun s hs => hs.clock) fun now hnow =>
    steps_atomically fun s a s' hA h => ?_
  obtain ⟨contents, artifactLog, rfl⟩ := removeContents_ok h
  exact .retained hnow hA h

theorem steps_deleteArtifactsOf (hV : V.Sighted) (cases : List String) :
    Steps setup V (deleteArtifactsOf cases) := by
  induction cases with
  | nil => trivial
  | cons caseId rest ih => exact (steps_deleteArtifacts hV caseId _).bind fun _ => ih

theorem steps_deleteExpiredArtifacts (hV : V.Sighted) : Steps setup V deleteExpiredArtifacts :=
  steps_observe.bind fun _ => steps_observe.bind fun _ => steps_deleteArtifactsOf hV _

theorem steps_artifactContent? (hV : V.Sighted) (id : HandlerArtifactId) :
    Steps setup V (artifactContent? id) := by
  refine steps_observe.bind fun now => steps_observe.bind fun row => ?_
  split
  · split
    · exact (steps_deleteExpiredArtifacts hV).bind fun _ => trivial
    · split <;> trivial
  · trivial

theorem steps_ofExcept {α : Type} (x : Except HandlerError α) : Steps setup V (ofExcept x) := by
  cases x <;> trivial

theorem steps_artifactContent (hV : V.Sighted) (id : HandlerArtifactId) :
    Steps setup V (artifactContent id) :=
  (steps_artifactContent? hV id).bind fun _ => steps_ofExcept _

theorem steps_caseProjection (caseId : String) : Steps setup V (caseProjection caseId) :=
  steps_observe.bind fun _ => steps_need

theorem stepwise_caseProjection (hV : V.Sighted) (caseId : String) :
    Stepwise setup V (fun c => c.caseId = caseId ∧ V.case caseId) (caseProjection caseId) := by
  refine Quiet.bind
    (Q := fun row : Option HandlerCase => ∀ c, row = some c → c.caseId = caseId ∧ V.case caseId)
    (stepwise_observe hV fun s hs c hc => ?_) fun row hrow => quiet_need.mpr hrow
  obtain ⟨hstored, rfl⟩ := HandlerWorld.case?_some hc
  exact ⟨rfl, hs.cases c hstored⟩

theorem steps_assertProjectionBinding (c : HandlerCase) (binding : QQHandlerBinding) :
    Steps setup V (assertProjectionBinding c binding) :=
  steps_check

theorem steps_createCandidateAndRequest {hooks : CandidateHooks} {caseId : String} {version : Nat}
    (hhooks : hooks.For (V.Commands .second) (V.Commands .third) (V.Answers setup version) caseId)
    (binding : QQHandlerBinding) (candidateText : String) :
    Steps setup V
      (createCandidateAndRequest setup.text hooks binding caseId version candidateText) := by
  refine (steps_normalizePrivateContent _ _).bind fun _ => steps_observe.bind fun _ =>
    steps_atomically fun s a s' _ h => ?_
  obtain ⟨c, model, lifecycle, artifacts, contents, artifactLog, candidateBindings, hc, hauth, hrevision,
    ⟨issue, -, -, hrequest⟩, hnew, hfresh, heffect, hartifacts, rfl⟩ := insertCandidate_ok hhooks h
  obtain ⟨-, rfl⟩ := HandlerWorld.case?_some hc
  exact .candidate hc hauth hrevision hrequest hnew hfresh heffect hartifacts

theorem steps_transitionSimpleCommand (hop : ∃ stage, V.Commands stage) (binding : QQHandlerBinding)
    (caseId : String) (version : Nat) (command : SimpleCommand) :
    Steps setup V (transitionSimpleCommand setup.text binding caseId version command) := by
  refine steps_check.bind fun _ => Steps.bind (steps_atomically fun s a s' _ h => ?_) fun _ =>
    steps_caseProjection caseId
  obtain ⟨c, ids, hc, hauth, hstored, hids, rfl⟩ := applySimpleCommand_ok h
  obtain ⟨-, rfl⟩ := HandlerWorld.case?_some hc
  exact .simple hop hc hauth hstored hids

/-- **An approval**: it returns a decision of the journal. -/
theorem stepwise_approveRequest (hV : V.Sighted)
    (hop : ∃ stage id event, V.op (.groupApproval stage id event)) {binding : QQHandlerBinding}
    (hb : V.binding binding) (command : QQGroupApprovalCommand)
    (memberOpenid groupOpenid sourceMessageId : String) (occurredAt : Instant) (identitySalt : String) :
    Stepwise setup V V.decision (approveRequest setup.text binding command memberOpenid groupOpenid
      sourceMessageId occurredAt identitySalt) := by
  refine (steps_bindingGroupFromStage1 binding).returns fun _ => steps_check.returns fun _ => ?_
  -- the author's hash is the binding's from here on
  refine Quiet.bind stepwise_check fun _ hauthor => ?_
  refine Quiet.bind (stepwise_observe hV fun s hs => hs.clock) fun now hclock => ?_
  refine steps_check.returns fun _ => quiet_atomically.mpr fun s d s' hA h => ?_
  obtain ⟨hsees, hleaves⟩ := hV _ s hA
  have hdecisions := (hleaves d s' h).decisions
  obtain ⟨rfl, hstored⟩ | ⟨request, c, hrequest, hc, hauth, hcurrent, hcandidate, hversion, hnow, -, rfl,
    hinsert, rfl⟩ := insertDecision_ok h
  · exact ⟨.same, hdecisions d hstored⟩
  · refine ⟨?_, hdecisions _ (List.mem_append_right _ (List.mem_singleton_self _))⟩
    obtain ⟨-, hcase⟩ := HandlerWorld.case?_some hc
    rw [← hcase] at hc ⊢
    have hfresh := (Table.insert?_eq_some.mp hinsert).1
    rw [← HandlerWorld.request?_id hrequest] at hrequest
    exact .decided hop hb hrequest hc hcase hauth hcurrent hcandidate hversion hclock hnow rfl
      (of_decide_eq_true hauthor) hfresh

theorem steps_recordCommandOnce (command : StoredHandlerCommand) :
    Steps setup V (recordCommandOnce command) := by
  refine steps_atomically fun s a s' _ h => ?_
  split at h
  · obtain ⟨-, rfl⟩ := Prod.mk.injEq .. ▸ Except.ok.inj h
    exact .same
  · simp only [fetch_bind_eq_ok, pure, Except.pure, Except.ok.injEq, Prod.mk.injEq] at h
    obtain ⟨commands, -, -, rfl⟩ := h
    exact .recordedCommand

/-! ### Notifications and passive replies -/

theorem steps_createNotificationIntent {binding : QQHandlerBinding} (caseId : String) :
    Steps setup V (createNotificationIntent setup.text caseId binding) := by
  refine (steps_caseProjection caseId).bind fun _ => (steps_assertProjectionBinding _ binding).bind
    fun _ => steps_observe.bind fun _ => steps_atomically fun s i s' _ h => ?_
  obtain rfl | ⟨hfresh, rfl⟩ := insertNotificationIntent_ok h
  · exact .same
  · exact .notificationIntent ⟨_, _, _, rfl⟩ hfresh

theorem steps_sendNotification {intent : HandlerNotificationIntent} (hi : V.Notifies intent)
    (hclaimed : V.claimed intent.intentId) (userOpenid content : String) (answer : ProviderAnswer) :
    Steps setup V (sendNotification setup.text intent userOpenid content answer) := by
  refine Steps.bind (steps_atomically fun s a s' _ h => ?_) fun _ => steps_observe.bind fun _ =>
    Steps.bind (steps_atomically fun s a s' hA h => ?_) fun _ => trivial
  · obtain ⟨-, rfl⟩ := Prod.mk.injEq .. ▸ Except.ok.inj h
    exact .notified hi
  · obtain ⟨attempts, events, rfl, hattempts, hevents⟩ := recordNotification_ok h
    exact .outcomeRecorded hi hclaimed rfl hA hattempts hevents

theorem steps_executeNotification (hV : V.Sighted) {intent : HandlerNotificationIntent}
    (hi : V.Notifies intent) (binding : QQHandlerBinding) (answer : ProviderAnswer) :
    Steps setup V (executeNotification setup.text intent binding answer) := by
  have hclaim : Stepwise setup V (fun claimed => claimed = none → V.claimed intent.intentId)
      (.atomically (claimAttempt setup.text intent)) := by
    refine quiet_atomically.mpr fun s r s' hA h => ?_
    have hattempts := ((hV _ s hA).2 r s' h).attempts
    obtain ⟨_, _, _, _, rfl, rfl⟩ | ⟨a, ha, hnone, _, _, _, hresult, hmodified, hevents, rfl, rfl⟩ |
      ⟨hnone, rfl, rfl⟩ := claimAttempt_ok h
    · exact ⟨.same, nofun⟩
    · exact ⟨.recovered hi ha hnone hresult hmodified hevents, nofun⟩
    · exact ⟨.claimed hi hnone,
        fun _ => hattempts _ (List.mem_append_right _ (List.mem_singleton_self _))⟩
  refine (steps_privateLocator _).bind fun _ => steps_check.bind fun _ => hclaim.bind fun claimed h => ?_
  cases claimed with
  | some result => trivial
  | none => exact steps_sendNotification hi (h rfl) _ _ answer

theorem steps_createPassiveIntent (hV : V.Sighted) {caseId : String} {kind : ResponseKind} {content : PassiveContent}
    (hfinal : kind = .final → ∃ d, V.decision d ∧ caseId = d.caseId ∧
      content.approvalDecisionId = some d.approvalDecisionId)
    (binding : QQHandlerBinding) (sourceMessageId : String) (occurredAt : Instant) :
    Steps setup V (createPassiveIntent caseId binding sourceMessageId kind occurredAt content) := by
  refine Stepwise.bind (stepwise_caseProjection hV caseId) fun c hcase => ?_
  obtain ⟨rfl, hstored⟩ := hcase
  refine (steps_assertProjectionBinding _ binding).bind fun _ => steps_observe.bind fun _ =>
    steps_atomically fun s i s' hA h => ?_
  obtain rfl | ⟨hfresh, rfl⟩ := insertPassiveIntent_ok h
  · exact .same
  · exact .passiveIntent ⟨_, _, _, _, _, _, _, rfl⟩ hstored hfinal hA hfresh

theorem steps_createResponseIntent (hV : V.Sighted) {kind : ResponseKind} (hkind : kind ≠ .final) (caseId : String)
    (binding : QQHandlerBinding) (sourceMessageId : String) (occurredAt : Instant)
    (content : PassiveContent) :
    Steps setup V (createPassiveIntent caseId binding sourceMessageId kind occurredAt content) :=
  steps_createPassiveIntent hV (fun h => absurd h hkind) binding sourceMessageId occurredAt

/-- **What `_record_passive_result` returns** is stored, or named by an event. -/
theorem stepwise_recordPassiveResult (hV : V.Sighted) {intent : HandlerPassiveIntent}
    (hi : V.Executes intent) (status : ProviderStatus) (reasonCode : String)
    (providerStatus : Option String) :
    Stepwise setup V (V.Told intent)
      (recordPassiveResult setup.text intent status reasonCode providerStatus) := by
  refine steps_observe.returns fun now => ?_
  let result := passiveResult setup.text intent status reasonCode providerStatus now
  have hrecord : Stepwise setup V (fun _ => ∃ now, V.event (passiveEvent intent result now))
      (.atomically (insertPassiveResult intent result)) := by
    refine quiet_atomically.mpr fun s a s' hA h => ?_
    have hsees := ((hV _ s hA).2 a s' h).events
    obtain ⟨results, events, cases, rfl, hresults, hevents, hcases⟩ := insertPassiveResult_ok h
    exact ⟨.resultRecorded hi rfl rfl hA hresults hevents hcases, s.now,
      hsees _ ((hevents _).mpr (.inr rfl))⟩
  refine Quiet.bind hrecord fun _ hgiven => ?_
  have hstored : Stepwise setup V (V.Told intent)
      (.observe fun s => (s.passiveResult? intent.intentId).getD result) := by
    refine stepwise_observe hV fun s hs => ?_
    cases hfound : s.passiveResult? intent.intentId with
    | none => exact ⟨rfl, .inr hgiven⟩
    | some stored =>
        have hkey := List.find?_some hfound
        rw [decide_eq_true_eq] at hkey
        exact ⟨hkey, .inl (hs.passiveResults _ (List.mem_of_find?_eq_some hfound))⟩
  refine Quiet.bind hstored fun stored htold => ?_
  have hretire : Steps setup V (retireContent intent stored) := by
    unfold retireContent
    split
    · exact steps_deleteArtifacts hV _ _
    · trivial
  exact hretire.returns fun _ => htold

theorem stepwise_reconcileThenReply (hV : V.Sighted) {intent : HandlerPassiveIntent}
    (hi : V.Executes intent) (destination content : String) (answers : PassiveAnswers) :
    Stepwise setup V (V.Told intent)
      (reconcileThenReply setup.text intent destination content answers) := by
  refine Steps.returns (steps_atomically fun s a s' _ h => ?_) fun _ => ?_
  · obtain ⟨-, rfl⟩ := Prod.mk.injEq .. ▸ Except.ok.inj h
    exact .reconciled hi
  split
  · trivial
  split
  · exact stepwise_recordPassiveResult hV hi _ _ _
  · refine Steps.returns (steps_atomically fun s a s' hA h => ?_) fun _ =>
      stepwise_recordPassiveResult hV hi _ _ _
    obtain ⟨-, rfl⟩ := Prod.mk.injEq .. ▸ Except.ok.inj h
    exact .replied hi hA

theorem steps_replyDestination (intent : HandlerPassiveIntent) (binding : QQHandlerBinding) :
    Steps setup V (replyDestination setup.text intent binding) := by
  unfold replyDestination
  split
  · exact steps_bindingGroupFromStage1 binding
  · exact steps_privateLocator _

theorem stepwise_executePassiveReply (hV : V.Sighted) {intent : HandlerPassiveIntent}
    (hi : V.Executes intent) (binding : QQHandlerBinding) (content : String) (answers : PassiveAnswers) :
    Stepwise setup V (V.Told intent)
      (executePassiveReply setup.text intent binding content answers) := by
  refine steps_check.returns fun _ => steps_observe.returns fun now => ?_
  split
  · exact stepwise_recordPassiveResult hV hi _ _ _
  have hstored : Stepwise setup V (fun row : Option HandlerPassiveResult =>
      ∀ result, row = some result → V.Told intent result)
      (.observe fun s => s.passiveResult? intent.intentId) := by
    refine stepwise_observe hV fun s hs result hfound => ?_
    have hkey := List.find?_some hfound
    rw [decide_eq_true_eq] at hkey
    exact ⟨hkey, .inl (hs.passiveResults _ (List.mem_of_find?_eq_some hfound))⟩
  refine Quiet.bind hstored fun existing hexisting => ?_
  cases existing with
  | some result => exact hexisting result rfl
  | none =>
      exact (steps_replyDestination intent binding).returns fun _ =>
        stepwise_reconcileThenReply hV hi _ content answers

theorem steps_finalDeliveryIntent (hV : V.Sighted) {decision : HandlerApprovalDecision} (hd : V.decision decision)
    (binding : QQHandlerBinding) : Steps setup V (finalDeliveryIntent decision binding) :=
  steps_observe.bind fun _ => steps_observe.bind fun _ => steps_need.bind fun _ =>
    steps_check.bind fun _ => (steps_caseProjection _).bind fun _ =>
      (steps_assertProjectionBinding _ binding).bind fun _ => steps_observe.bind fun _ =>
        steps_check.bind fun _ => (steps_artifactContent hV _).bind fun _ =>
          (steps_createPassiveIntent hV (fun _ => ⟨decision, hd, rfl, rfl⟩) binding _ _).bind fun _ =>
            trivial

/-! ### The model journal -/

/-- **`create_assist_request`** returns a request of the message that asked for it. -/
theorem stepwise_createAssistRequest (hV : V.Sighted) {id : HandlerBindingId}
    {event : QQPrivateEvent (String × Nat)} {answer : RuntimeAnswer}
    (hop : V.op (.assistEvent id event answer)) (profile : String) (binding : QQHandlerBinding)
    (caseId : String) (version : Nat) :
    Stepwise setup V (fun created => V.Assists setup created.2)
      (createAssistRequest profile binding caseId version (setup.text.sha256Text event.messageId)) := by
  refine steps_observe.returns fun _ => quiet_atomically.mpr fun s r s' hA h => ?_
  have hstored := ((hV _ s hA).2 r s' h).assistRequests
  obtain ⟨-, hr, hsource, rfl⟩ | ⟨c, issue, rfl, hc, hauth, hstatus, hfresh, rfl⟩ :=
    insertAssistRequest_ok h
  · exact ⟨.same, hstored _ hr, id, event, answer, hop, hsource⟩
  · obtain ⟨-, rfl⟩ := HandlerWorld.case?_some hc
    have hr := hstored _ (List.mem_append_right _ (List.mem_singleton_self _))
    have hassists : V.Assists setup (assistRequest profile c binding issue version
      (setup.text.sha256Text event.messageId)) := ⟨hr, id, event, answer, hop, rfl⟩
    exact ⟨.assistRequested hc hauth hstatus hassists rfl rfl hfresh, hassists⟩

/-- **`compile_context`** returns a context compiled for the request. -/
theorem stepwise_compileContext? (hV : V.Sighted) {request : ModelAssistRequest}
    (hr : V.Assists setup request) :
    Stepwise setup V (fun compiled => ∀ context view, compiled = .ok (context, view) →
      V.Compiled request context) (compileContext? setup.text request) := by
  have hexisting : Stepwise setup V (fun row : Option ModelAssistContext =>
      ∀ context, row = some context → V.Compiled request context)
      (.observe fun s => s.context? request.assistRequestId) := by
    refine stepwise_observe hV fun s hs context hfound => ?_
    have hkey := List.find?_some hfound
    rw [decide_eq_true_eq] at hkey
    exact ⟨hkey, .inl (hs.contexts _ (List.mem_of_find?_eq_some hfound))⟩
  refine Quiet.bind hexisting fun existing hrow => (steps_artifactContent? hV _).returns fun content => ?_
  split
  · exact fun _ _ h => nomatch h
  cases existing with
  | some stored =>
      dsimp only
      split
      · rintro context view ⟨⟩
        exact hrow _ rfl
      · exact fun _ _ h => nomatch h
  | none =>
      refine steps_observe.returns fun created => ?_
      dsimp only
      rename_i view _
      have hinsert : Stepwise setup V
          (fun _ => V.Compiled request (assistContext setup.text request view created))
          (.atomically (insertContext request (assistContext setup.text request view created))) := by
        refine quiet_atomically.mpr fun s a s' hA h => ?_
        have hcontexts := ((hV _ s hA).2 a s' h).contexts
        have hstep : HandlerStep setup V s s' := by
          rw [insertContext_ok h]
          exact .context hr rfl hA rfl
        refine ⟨hstep, rfl, ?_⟩
        rw [insertContext_ok h] at hcontexts
        cases hinserted : Table.insert? ModelAssistContext.clash
            (assistContext setup.text request view created) s.contexts with
        | none =>
            obtain ⟨x, hx, hclash⟩ := Table.insert?_eq_none.mp hinserted
            refine .inr ⟨s, hA, fun hnone => ?_⟩
            exact List.find?_eq_none.mp hnone x hx (decide_eq_true (of_decide_eq_true hclash).symm)
        | some contexts =>
            obtain ⟨-, rfl⟩ := Table.insert?_eq_some.mp hinserted
            rw [hinserted] at hcontexts
            exact .inl (hcontexts _ (List.mem_append_right _ (List.mem_singleton_self _)))
      refine Quiet.bind hinsert fun _ hcompiled => ?_
      rintro context view ⟨⟩
      exact hcompiled

theorem steps_createModelCandidate {request : ModelAssistRequest} {context : ModelAssistContext}
    (hr : V.Assists setup request) (hcontext : V.Compiled request context) (binding : QQHandlerBinding)
    (result : QQModelRuntimeResult) :
    Steps setup V (createModelCandidate setup.text binding request context result) :=
  steps_check.bind fun _ => steps_need.bind fun _ => (steps_normalizePrivateContent _ _).bind fun _ =>
    steps_check.bind fun _ =>
      (steps_createCandidateAndRequest (.model rfl ⟨hr, rfl, hcontext⟩) binding _).bind fun _ => trivial

theorem steps_createOutcome {request : ModelAssistRequest} (hr : V.Assists setup request)
    (result : QQModelRuntimeResult) : Steps setup V (createOutcome setup.text request result) := by
  refine steps_observe.bind fun _ => steps_atomically fun s o s' hA h => ?_
  obtain rfl | ⟨hnone, ⟨-, rfl⟩ | ⟨hstopped, rfl⟩⟩ := insertOutcome_ok h
  · exact .same
  · exact .completed hr rfl hnone
  · exact .handedBack hr rfl rfl hA hnone hstopped

theorem steps_assertModelApprovalCurrent (id : HandlerRequestId) (binding : QQHandlerBinding)
    (version : Nat) : Steps setup V (assertModelApprovalCurrent id binding version) :=
  steps_observe.bind fun _ => steps_need.bind fun _ => steps_observe.bind fun _ =>
    (steps_caseProjection _).bind fun _ => steps_observe.bind fun _ => steps_need.bind fun _ => steps_check

theorem steps_markFinalModelContentDeleted (hV : V.Sighted) {intent : HandlerPassiveIntent}
    {result : HandlerPassiveResult} (hi : V.Executes intent) (hfinal : intent.responseKind = .final)
    (haccepted : result.providerAccepted = true) (htold : V.Told intent result) :
    Steps setup V (markFinalModelContentDeleted intent.caseId) := by
  have hcurrent : Stepwise setup V (fun row : Option ModelCandidateBinding =>
      ∀ record, row = some record → V.candidate record ∧ record.caseId = intent.caseId)
      (.observe fun s => s.currentModelBinding intent.caseId) := by
    refine stepwise_observe hV fun s hs record hfound => ?_
    obtain ⟨hstored, hkey⟩ := List.mem_filter.mp (List.mem_of_getLast? hfound)
    exact ⟨hs.candidateBindings _ hstored, (of_decide_eq_true hkey).1⟩
  refine Stepwise.bind hcurrent fun row hrow => ?_
  cases row with
  | none => trivial
  | some record =>
      obtain ⟨hrecord, hcase⟩ := hrow record rfl
      refine steps_atomically fun s a s' hA h => ?_
      obtain ⟨-, rfl⟩ := Prod.mk.injEq .. ▸ Except.ok.inj h
      rw [withdraw_eq]
      exact .withdrawn hi hfinal haccepted htold hrecord hcase hA

/-! ### The service of the second stage -/

section Services

open QQHandlerWorkflowService QQModelHandlerWorkflowService

theorem steps_parsedCommand {γ : Type} (command : Except String γ) :
    Steps setup V (parsedCommand command) := by
  cases command <;> trivial

theorem steps_privateEvent {γ : Type} (binding : QQHandlerBinding) (event : QQPrivateEvent γ) :
    Steps setup V (QQHandlerWorkflowService.privateEvent binding event) :=
  (steps_privateLocator _).bind fun _ => steps_check.bind fun _ => steps_observe.bind fun _ => steps_check

/-- The content of a stored command is never that of a final reply. -/
theorem stepwise_contentForMetadata (hV : V.Sighted) (m : PrivateCommandMetadata) :
    Stepwise setup V (fun _ => m.responseKind ≠ .final) (contentForMetadata setup.text m) := by
  unfold contentForMetadata
  cases m.responseKind with
  | pull => exact steps_need.returns fun _ => (steps_artifactContent hV _).returns fun _ => nofun
  | draftPreview =>
      exact steps_need.returns fun _ => (steps_artifactContent hV _).returns fun _ =>
        steps_need.returns fun _ => steps_need.returns fun _ => nofun
  | accept | reject => exact nofun
  | groupNudge | final => trivial

theorem steps_storedContent (hV : V.Sighted) (m : CommandMetadata) :
    Steps setup V (storedContent setup.text m) := by
  cases m with
  | command m => exact (stepwise_contentForMetadata hV m).weaken fun _ _ => trivial
  | assist m => trivial

theorem steps_carryOut {hooks : CandidateHooks} (hop : ∃ stage, V.Commands stage)
    (hhooks : ∀ caseId version,
      hooks.For (V.Commands .second) (V.Commands .third) (V.Answers setup version) caseId)
    (binding : QQHandlerBinding) (command : QQPrivateCommand) :
    Steps setup V (carryOut setup.text hooks binding command) := by
  unfold carryOut
  split
  · exact (steps_createCandidateAndRequest (hhooks _ _) binding _).bind fun _ =>
      (steps_caseProjection _).bind fun _ => trivial
  · exact (steps_transitionSimpleCommand hop binding _ _ _).bind fun _ => trivial

theorem steps_respond (hV : V.Sighted) (binding : QQHandlerBinding) (messageId : String) (occurredAt : Instant)
    (m : PrivateCommandMetadata) : Steps setup V (respond setup.text binding messageId occurredAt m) :=
  (stepwise_contentForMetadata hV m).bind fun _ hkind =>
    (steps_createResponseIntent hV hkind _ binding _ _ _).bind fun _ =>
      (steps_recordCommandOnce _).bind fun _ => (steps_storedContent hV _).bind fun _ => trivial

theorem steps_handlePrivateEvent (hV : V.Sighted) {hooks : CandidateHooks} (hop : ∃ stage, V.Commands stage)
    (hhooks : ∀ caseId version,
      hooks.For (V.Commands .second) (V.Commands .third) (V.Answers setup version) caseId)
    (binding : QQHandlerBinding) (event : QQPrivateEvent QQPrivateCommand) :
    Steps setup V (handlePrivateEvent setup.text hooks binding event) := by
  refine (steps_privateEvent binding event).bind fun _ => steps_observe.bind fun stored => ?_
  cases stored with
  | some command => exact (steps_storedContent hV _).bind fun _ => trivial
  | none =>
      exact (steps_parsedCommand _).bind fun command => (steps_caseProjection _).bind fun _ =>
        steps_check.bind fun _ => (steps_artifactContent hV _).bind fun _ =>
          (steps_carryOut hop hhooks binding command).bind fun _ => steps_respond hV binding _ _ _

theorem steps_handleGroupApproval (hV : V.Sighted) {stage : HandlerStage} {id : HandlerBindingId}
    {event : QQGroupEvent} (hop : V.op (.groupApproval stage id event)) {binding : QQHandlerBinding}
    (hb : V.binding binding) :
    Steps setup V
      (handleGroupApproval setup.text setup.config (HandlerOp.modelGate stage) binding event) := by
  refine steps_check.bind fun _ => (steps_parsedCommand _).bind fun command => Steps.bind ?_ fun _ =>
    (stepwise_approveRequest hV ⟨_, _, _, hop⟩ hb _ _ _ _ _ _).bind fun decision hd =>
      (steps_finalDeliveryIntent hV hd binding).bind fun _ => trivial
  cases stage with
  | second => trivial
  | third => exact steps_assertModelApprovalCurrent _ binding _

/-! ### The service of the third stage -/

theorem steps_assistContent (hV : V.Sighted) (m : AssistMetadata) :
    Steps setup V (assistContent setup.text m) := by
  unfold assistContent
  cases m.terminalOutcome with
  | stopped kind => trivial
  | responseReady =>
      exact steps_need.bind fun _ => (steps_artifactContent hV _).bind fun _ => steps_need.bind fun _ =>
        steps_need.bind fun _ => trivial

theorem steps_storedAssistContent (hV : V.Sighted) (m : CommandMetadata) :
    Steps setup V (storedAssistContent setup.text m) := by
  cases m with
  | command m => trivial
  | assist m => exact steps_assistContent hV m

theorem steps_runRuntime (result : QQModelRuntimeResult) : Steps setup V (runRuntime result) := by
  refine steps_atomically fun s a s' _ h => ?_
  obtain ⟨-, rfl⟩ := Prod.mk.injEq .. ▸ Except.ok.inj h
  exact .budget

theorem stepwise_assistResult (hV : V.Sighted) {request : ModelAssistRequest}
    (hr : V.Assists setup request) (answer : RuntimeAnswer) :
    Stepwise setup V (fun ran => ∀ context, ran.1 = some context → V.Compiled request context)
      (assistResult setup.text request answer) := by
  refine Quiet.bind (stepwise_compileContext? hV hr) fun compiled hcompiled => ?_
  cases compiled with
  | ok compiled =>
      refine (steps_runRuntime _).returns fun result => ?_
      rintro context ⟨⟩
      exact hcompiled _ _ rfl
  | error e =>
      dsimp only
      split
      · exact (steps_runRuntime _).returns fun result _ h => nomatch h
      · trivial

theorem steps_assistIntent (hV : V.Sighted) (binding : QQHandlerBinding) (messageId : String) (occurredAt : Instant)
    (m : AssistMetadata) : Steps setup V (assistIntent setup.text binding messageId occurredAt m) :=
  (steps_assistContent hV m).bind fun _ =>
    steps_createResponseIntent hV ResponseKind.noConfusion _ binding _ _ _

theorem steps_finishAssist (hV : V.Sighted) {request : ModelAssistRequest} (hr : V.Assists setup request)
    {compiled : Option ModelAssistContext}
    (hcompiled : ∀ context, compiled = some context → V.Compiled request context)
    (binding : QQHandlerBinding) (messageId : String) (occurredAt : Instant)
    (result : QQModelRuntimeResult) :
    Steps setup V
      (finishAssist setup.text binding messageId occurredAt request compiled result) := by
  unfold finishAssist
  split
  · exact Stepwise.bind stepwise_need fun context hcontext =>
      (steps_createModelCandidate hr (hcompiled context hcontext) binding result).bind fun _ =>
        (steps_caseProjection _).bind fun _ => (steps_assistIntent hV binding _ _ _).bind fun _ =>
          (steps_createOutcome hr result).bind fun _ => (steps_recordCommandOnce _).bind fun _ =>
            (steps_storedAssistContent hV _).bind fun _ => trivial
  · exact (steps_createOutcome hr result).bind fun _ => (steps_caseProjection _).bind fun _ =>
      (steps_assistIntent hV binding _ _ _).bind fun _ => (steps_recordCommandOnce _).bind fun _ =>
        (steps_storedAssistContent hV _).bind fun _ => trivial

theorem steps_recoverResult (hV : V.Sighted) (record : Option ModelCandidateBinding) (outcomeMissing : Bool)
    (budget : ModelBudget) : Steps setup V (recoverResult record outcomeMissing budget) := by
  unfold recoverResult
  split
  · exact (steps_artifactContent hV _).bind fun _ => trivial
  · trivial

theorem steps_recoverOutcome {request : ModelAssistRequest} (hr : V.Assists setup request)
    (recovered : Option QQModelRuntimeResult) :
    Steps setup V (recoverOutcome setup.text request recovered) := by
  cases recovered with
  | none => trivial
  | some result => exact (steps_createOutcome hr result).bind fun _ => trivial

theorem steps_answerRecovered (hV : V.Sighted) {request : ModelAssistRequest} (hr : V.Assists setup request)
    (binding : QQHandlerBinding) (messageId : String) (occurredAt : Instant) (kind : AssistOutcomeKind)
    (reasonCode : String) (record : Option ModelCandidateBinding) (outcomeMissing : Bool) :
    Steps setup V (answerRecovered setup.text binding messageId occurredAt request kind reasonCode record
      outcomeMissing) :=
  steps_observe.bind fun _ => steps_check.bind fun _ => steps_observe.bind fun _ =>
    steps_need.bind fun _ => (steps_caseProjection _).bind fun _ =>
      (steps_recoverResult hV record outcomeMissing _).bind fun _ =>
        (steps_assistIntent hV binding _ _ _).bind fun _ => (steps_recoverOutcome hr _).bind fun _ =>
          (steps_recordCommandOnce _).bind fun _ => (steps_storedAssistContent hV _).bind fun _ => trivial

theorem steps_recoverPersistedAssist (hV : V.Sighted) {request : ModelAssistRequest} (hr : V.Assists setup request)
    (binding : QQHandlerBinding) (messageId : String) (occurredAt : Instant)
    (outcome : Option ModelAssistOutcome) :
    Steps setup V (recoverPersistedAssist setup.text binding messageId occurredAt request outcome) := by
  refine steps_observe.bind fun record => ?_
  cases outcome with
  | some o =>
      exact steps_check.bind fun _ =>
        (steps_answerRecovered hV hr binding _ _ _ _ record false).bind fun _ => trivial
  | none =>
      cases record with
      | none => trivial
      | some b => exact (steps_answerRecovered hV hr binding _ _ _ _ _ true).bind fun _ => trivial

theorem steps_answerAssist (hV : V.Sighted) {request : ModelAssistRequest} (hr : V.Assists setup request)
    (binding : QQHandlerBinding) (messageId : String) (occurredAt : Instant) (answer : RuntimeAnswer) :
    Steps setup V (answerAssist setup.text binding messageId occurredAt request answer) :=
  (stepwise_assistResult hV hr answer).bind fun _ hcompiled => steps_finishAssist hV hr hcompiled binding _ _ _

theorem steps_handleAssistEvent (hV : V.Sighted) {id : HandlerBindingId}
    {event : QQPrivateEvent (String × Nat)} {answer : RuntimeAnswer}
    (hop : V.op (.assistEvent id event answer)) (binding : QQHandlerBinding) :
    Steps setup V (handleAssistEvent setup.text setup.stage3Profile binding event answer) := by
  refine (steps_privateEvent binding event).bind fun _ => steps_observe.bind fun stored => ?_
  cases stored with
  | some command => exact (steps_storedAssistContent hV _).bind fun _ => trivial
  | none =>
      refine (steps_parsedCommand _).bind fun command =>
        (stepwise_createAssistRequest hV hop _ binding _ _).bind fun created hr =>
          steps_observe.bind fun outcome => ?_
      split
      · exact steps_answerAssist hV hr binding _ _ answer
      refine (steps_recoverPersistedAssist hV hr binding _ _ outcome).bind fun recovered => ?_
      cases recovered with
      | some response => trivial
      | none => exact steps_answerAssist hV hr binding _ _ answer

theorem steps_checkDraft (binding : QQHandlerBinding) (event : QQPrivateEvent QQPrivateCommand) :
    Steps setup V (checkDraft setup.text binding event) := by
  unfold checkDraft
  split
  · exact (steps_privateEvent binding event).bind fun _ => (steps_caseProjection _).bind fun _ =>
      (steps_ofExcept _).bind fun _ => (steps_normalizePrivateContent _ _).bind fun _ => trivial
  · trivial

/-! ### The calls -/

theorem stepwise_heldBinding (hV : V.Sighted) (id : HandlerBindingId) :
    Stepwise setup V V.binding (HandlerOp.heldBinding id) := by
  refine Quiet.bind (Q := fun row : Option QQHandlerBinding => ∀ b, row = some b → V.binding b)
    (stepwise_observe hV fun s hs b hb => ?_) fun row hrow => quiet_need.mpr hrow
  exact hs.bindings b (List.mem_of_find?_eq_some hb)

theorem stepwise_openService (hV : V.Sighted) (id : HandlerBindingId) :
    Stepwise setup V V.binding (openService setup.text setup.config id) := by
  have hactive : Stepwise setup V V.binding (activeBinding id) := by
    refine Quiet.bind (Q := fun row : Option QQHandlerBinding => ∀ b, row = some b → V.binding b)
      (stepwise_observe hV fun s hs b hb => ?_) fun row hrow => ?_
    · exact hs.bindings b (List.mem_of_find?_eq_some hb)
    · exact steps_observe.returns fun _ => steps_observe.returns fun _ =>
        Quiet.bind (quiet_need.mpr hrow) fun b hb => steps_check.returns fun _ => hb
  exact Quiet.bind hactive fun b hb => steps_check.returns fun _ => hb

theorem stepwise_heldNotification (hV : V.Sighted) (id : HandlerIntentId) :
    Stepwise setup V V.notification (HandlerOp.heldNotification id) := by
  refine Quiet.bind
    (Q := fun row : Option HandlerNotificationIntent => ∀ i, row = some i → V.notification i)
    (stepwise_observe hV fun s hs i hi => ?_) fun row hrow => quiet_need.mpr hrow
  exact hs.notificationIntents i (List.mem_of_find?_eq_some hi)

theorem stepwise_heldPassiveIntent (hV : V.Sighted) (id : HandlerIntentId) :
    Stepwise setup V V.passive (HandlerOp.heldPassiveIntent id) := by
  refine Quiet.bind (Q := fun row : Option HandlerPassiveIntent => ∀ i, row = some i → V.passive i)
    (stepwise_observe hV fun s hs i hi => ?_) fun row hrow => quiet_need.mpr hrow
  exact hs.passiveIntents i (List.mem_of_find?_eq_some hi)

theorem steps_deliver (hV : V.Sighted) {intent : HandlerPassiveIntent} (hi : V.Executes intent)
    (stage : HandlerStage) (binding : QQHandlerBinding) (content : String) (answers : PassiveAnswers) :
    Steps setup V (HandlerOp.deliver setup stage intent binding content answers) := by
  refine (stepwise_executePassiveReply hV hi binding content answers).bind fun result htold => ?_
  split
  case isTrue h =>
    exact (steps_markFinalModelContentDeleted hV hi h.2.1 h.2.2 htold).bind fun _ => trivial
  case isFalse => trivial

/-- **The calls take no other steps.** -/
theorem HandlerOp.prog_steps (hV : V.Sighted) {op : HandlerOp} (hop : V.op op) :
    Steps setup V (HandlerOp.prog setup op) := by
  cases op with
  | confirmBinding pairing => exact (steps_confirmHandlerBinding hV pairing).bind fun _ => trivial
  | revokeBinding id => exact (steps_revokeHandlerBinding id).bind fun _ => trivial
  | createIssue id caseId caseRevisionId content =>
      exact (stepwise_heldBinding hV id).bind fun b hb =>
        (steps_createIssueArtifact hb _ _ _).bind fun _ => trivial
  | createNotification caseId id =>
      exact (stepwise_heldBinding hV id).bind fun b _ =>
        (steps_createNotificationIntent caseId).bind fun _ => trivial
  | executeNotification intent id answer =>
      exact (stepwise_heldNotification hV intent).bind fun i hi =>
        (stepwise_heldBinding hV id).bind fun b _ =>
          (steps_executeNotification hV ⟨hi, _, _, _, hop⟩ b answer).bind fun _ => trivial
  | createGroupNudge caseId id sourceMessageId occurredAt =>
      exact (stepwise_heldBinding hV id).bind fun b _ =>
        (steps_createResponseIntent hV ResponseKind.noConfusion _ b _ _ _).bind fun _ => trivial
  | privateEvent stage id event =>
      refine (stepwise_openService hV id).bind fun b _ => Steps.bind ?_ fun _ =>
        (steps_handlePrivateEvent hV ⟨stage, id, event, hop⟩ ?_ b event).bind fun _ => trivial
      · cases stage with
        | second => trivial
        | third => exact steps_checkDraft b event
      · intro caseId version
        cases stage with
        | second => exact .plain ⟨id, event, hop⟩
        | third => exact .draft ⟨id, event, hop⟩
  | assistEvent id event answer =>
      exact (stepwise_openService hV id).bind fun b _ =>
        (steps_handleAssistEvent hV hop b).bind fun _ => trivial
  | groupApproval stage id event =>
      exact (stepwise_openService hV id).bind fun b hb =>
        (steps_handleGroupApproval hV hop hb).bind fun _ => trivial
  | executePassiveReply stage intent id content answers =>
      exact (stepwise_heldPassiveIntent hV intent).bind fun i hi =>
        (stepwise_heldBinding hV id).bind fun b _ =>
          (steps_deliver hV ⟨hi, _, _, _, _, _, hop⟩ stage b content answers).bind fun _ => trivial
  | deleteExpiredArtifacts => exact (steps_deleteExpiredArtifacts hV).bind fun _ => trivial

/-- The two kinds of intents that are executed. -/
inductive IntentKind where
  | notification | passive
  deriving DecidableEq

/-- What kind of intent an operation executes. -/
def HandlerOp.executes : HandlerOp → Option IntentKind
  | .executeNotification _ _ _ => some .notification
  | .executePassiveReply _ _ _ _ _ => some .passive
  | _ => none

/-- What kind of intent a reply is the outcome of. -/
def HandlerReply.executed : HandlerReply → Option IntentKind
  | .notified _ => some .notification
  | .delivered _ => some .passive
  | _ => none

theorem HandlerOp.prog_replies (op : HandlerOp) :
    Quiet V.txn (fun _ _ => True) (fun reply => reply.executed = op.executes) (HandlerOp.prog setup op) := by
  cases op with
  | confirmBinding | revokeBinding | deleteExpiredArtifacts => exact quiet_returns fun _ => rfl
  | createIssue | createNotification | createGroupNudge | assistEvent | groupApproval =>
      exact Quiet.bind (quiet_any _) fun _ _ => quiet_returns fun _ => rfl
  | privateEvent | executeNotification | executePassiveReply =>
      exact Quiet.bind (quiet_any _) fun _ _ => Quiet.bind (quiet_any _) fun _ _ =>
        quiet_returns fun _ => rfl

end Services

end Programs

/-! ## Runs -/

section Runs

/-- A guard on the handler's schedules. -/
abbrev HandlerGuard := Guard HandlerWorld HandlerError HandlerDisturbance

/-- The runs from an empty journal that a guard allows. -/
abbrev HandlerSys.Along (setup : HandlerSetup) (g : HandlerGuard) (actions : List HandlerAction) : Prop :=
  Sys.Along g (HandlerOp.prog setup) handlerDisturbance ⟨.empty, []⟩ actions

variable {setup : HandlerSetup} {V : HandlerView} {s s' : HandlerWorld} {g : HandlerGuard}
  {actions : List HandlerAction}

/-! ### What stays -/

/-- The clock does not go back, and what calls read is never removed or changed. -/
structure HandlerWorld.Grows (s s' : HandlerWorld) : Prop where
  clock : s.now ≤ s'.now
  cases : ∀ c ∈ s.cases, ∃ c' ∈ s'.cases, c'.caseId = c.caseId
  events : ∀ e ∈ s.events, e ∈ s'.events
  bindings : ∀ b ∈ s.bindings, b ∈ s'.bindings
  notificationIntents : ∀ i ∈ s.notificationIntents, i ∈ s'.notificationIntents
  attempts : ∀ a ∈ s.attempts, ∃ a' ∈ s'.attempts, a'.intentId = a.intentId
  passiveIntents : ∀ i ∈ s.passiveIntents, i ∈ s'.passiveIntents
  passiveResults : ∀ r ∈ s.passiveResults, r ∈ s'.passiveResults
  decisions : ∀ d ∈ s.decisions, d ∈ s'.decisions
  assistRequests : ∀ r ∈ s.assistRequests, r ∈ s'.assistRequests
  contexts : ∀ x ∈ s.contexts, x ∈ s'.contexts
  candidateBindings : ∀ b ∈ s.candidateBindings, b ∈ s'.candidateBindings

theorem HandlerWorld.Grows.refl (s : HandlerWorld) : s.Grows s :=
  ⟨Nat.le_refl _, fun c h => ⟨c, h, rfl⟩, fun _ h => h, fun _ h => h, fun _ h => h,
    fun a h => ⟨a, h, rfl⟩, fun _ h => h, fun _ h => h, fun _ h => h, fun _ h => h, fun _ h => h,
    fun _ h => h⟩

theorem HandlerWorld.Grows.trans {a b c : HandlerWorld} (hab : a.Grows b) (hbc : b.Grows c) : a.Grows c :=
  ⟨hab.clock.trans hbc.clock, fun x hx => by
      obtain ⟨y, hy, hxy⟩ := hab.cases x hx
      obtain ⟨z, hz, hyz⟩ := hbc.cases y hy
      exact ⟨z, hz, hyz.trans hxy⟩,
    fun x hx => hbc.events x (hab.events x hx), fun x hx => hbc.bindings x (hab.bindings x hx),
    fun x hx => hbc.notificationIntents x (hab.notificationIntents x hx), fun x hx => by
      obtain ⟨y, hy, hxy⟩ := hab.attempts x hx
      obtain ⟨z, hz, hyz⟩ := hbc.attempts y hy
      exact ⟨z, hz, hyz.trans hxy⟩,
    fun x hx => hbc.passiveIntents x (hab.passiveIntents x hx),
    fun x hx => hbc.passiveResults x (hab.passiveResults x hx),
    fun x hx => hbc.decisions x (hab.decisions x hx),
    fun x hx => hbc.assistRequests x (hab.assistRequests x hx),
    fun x hx => hbc.contexts x (hab.contexts x hx),
    fun x hx => hbc.candidateBindings x (hab.candidateBindings x hx)⟩

/-- A row that is inserted unless it clashes leaves the others where they are. -/
theorem mem_insert?_getD {ρ : Type} {clash : ρ → ρ → Bool} {r x : ρ} {rows : List ρ} (hx : x ∈ rows) :
    x ∈ (Table.insert? clash r rows).getD rows := by
  cases h : Table.insert? clash r rows with
  | none => exact hx
  | some rows' =>
      obtain ⟨-, rfl⟩ := Table.insert?_eq_some.mp h
      exact List.mem_append_left _ hx

theorem mem_modify_caseId {p : HandlerCase → Bool} {f : HandlerCase → HandlerCase}
    (hf : ∀ c, (f c).caseId = c.caseId) {cases : List HandlerCase} {c : HandlerCase} (hc : c ∈ cases) :
    ∃ c' ∈ Table.modify p f cases, c'.caseId = c.caseId := by
  refine ⟨_, Table.mem_modify.mpr ⟨c, hc, rfl⟩, ?_⟩
  split
  · exact hf c
  · rfl

theorem mem_modify_setResult {p : HandlerNotificationAttempt → Bool} {result : HandlerNotificationResult}
    {attempts : List HandlerNotificationAttempt} {a : HandlerNotificationAttempt} (ha : a ∈ attempts) :
    ∃ a' ∈ Table.modify p (setResult result) attempts, a'.intentId = a.intentId := by
  refine ⟨_, Table.mem_modify.mpr ⟨a, ha, rfl⟩, ?_⟩
  split <;> rfl

theorem HandlerStep.grows (h : HandlerStep setup V s s') : s.Grows s' := by
  have hsame := HandlerWorld.Grows.refl s
  have hmodified : ∀ {p : HandlerCase → Bool} {f : HandlerCase → HandlerCase},
      (∀ c, (f c).caseId = c.caseId) → ∀ c ∈ s.cases,
        ∃ c' ∈ Table.modify p f s.cases, c'.caseId = c.caseId := fun hf c hc => mem_modify_caseId hf hc
  cases h with
  | bound hb hfresh => exact { hsame with bindings := fun x hx => List.mem_append_left _ hx }
  | revoked hkept hnew => exact { hsame with events := hkept }
  | issue hb hbinding => exact { hsame with cases := fun x hx => ⟨x, List.mem_append_left _ hx, rfl⟩ }
  | notificationIntent hi hfresh =>
      exact { hsame with notificationIntents := fun x hx => List.mem_append_left _ hx }
  | claimed hi hnone =>
      exact { hsame with attempts := fun x hx => ⟨x, List.mem_append_left _ hx, rfl⟩ }
  | recovered hi ha hnone hresult hattempts hevents =>
      exact { hsame with
        events := fun x hx => (hevents x).mpr (.inl hx)
        attempts := fun x hx => hattempts ▸ mem_modify_setResult hx }
  | outcomeRecorded hi hclaimed hresult hA hattempts hevents =>
      exact { hsame with
        events := fun x hx => (hevents x).mpr (.inl hx)
        attempts := fun x hx => hattempts ▸ mem_modify_setResult hx }
  | passiveIntent hi hcase hfinal hA hfresh =>
      exact { hsame with passiveIntents := fun x hx => List.mem_append_left _ hx }
  | resultRecorded hi hresult haccepted hA hresults hevents hcases =>
      refine { hsame with
        passiveResults := fun x hx => hresults ▸ mem_insert?_getD hx
        events := fun x hx => (hevents x).mpr (.inl hx)
        cases := fun x hx => ?_ }
      rw [hcases]
      split
      · refine mem_modify_caseId (fun _ => ?_) hx
        rfl
      · exact ⟨x, hx, rfl⟩
  | simple =>
      exact { hsame with cases := fun x hx => mem_modify_caseId (SimpleCommand.apply_caseId _) hx }
  | decided =>
      exact { hsame with
        cases := hmodified fun _ => rfl
        decisions := fun x hx => List.mem_append_left _ hx }
  | assistRequested =>
      exact { hsame with
        cases := hmodified fun _ => rfl
        assistRequests := fun x hx => List.mem_append_left _ hx }
  | context hr hcontext hA hcontexts =>
      exact { hsame with
        cases := hmodified fun _ => rfl
        contexts := fun x hx => hcontexts ▸ mem_insert?_getD hx }
  | handedBack => exact { hsame with cases := hmodified fun _ => rfl }
  | candidate hc hauth hrevision hrequest hnew hfresh heffect =>
      refine { hsame with
        cases := hmodified fun _ => rfl
        candidateBindings := fun x hx => ?_ }
      cases heffect with
      | plain | draft => exact hx
      | model => exact List.mem_append_left _ hx
  | _ => exact { hsame with }

theorem handlerDisturbance_grows (s : HandlerWorld) (e : HandlerDisturbance) :
    s.Grows (handlerDisturbance e s) := by
  have hsame := HandlerWorld.Grows.refl s
  cases e with
  | elapse d => exact { hsame with clock := Nat.le_add_right _ _ }
  | pairing locators => exact { hsame with }

/-- The view of the calls of `op` that knows nothing of the records. -/
def HandlerGuard.viewOf (g : HandlerGuard) (op : HandlerOp → Prop) : HandlerView :=
  ⟨g.txn, op, fun _ => True, fun _ => True, fun _ => True, fun _ => True, fun _ => True, fun _ => True,
    fun _ => True, fun _ => True, fun _ => True, fun _ => True, fun _ => True, fun _ => True⟩

theorem HandlerGuard.viewOf_sighted (g : HandlerGuard) (op : HandlerOp → Prop) :
    (g.viewOf op).Sighted := by
  have hsees : ∀ s, (g.viewOf op).Sees s := fun _ =>
    ⟨trivial, fun _ _ => trivial, fun _ _ => trivial, fun _ _ => trivial, fun _ _ => trivial,
      fun _ _ => trivial, fun _ _ => trivial, fun _ _ => trivial, fun _ _ => trivial,
      fun _ _ => trivial, fun _ _ => trivial, fun _ _ => trivial⟩
  exact fun t s _ => ⟨hsees s, fun b s' _ => hsees s'⟩

/-- **The present view** of the calls of `op`: the clock they have read is not ahead, and what they have
    read or written is stored. -/
def HandlerWorld.view (s : HandlerWorld) (g : HandlerGuard) (op : HandlerOp → Prop) : HandlerView :=
  { txn := (g.within (HandlerWorld.Grows · s)).txn, op, clock := (· ≤ s.now),
    case := fun id => ∃ c ∈ s.cases, c.caseId = id, event := (· ∈ s.events), binding := (· ∈ s.bindings),
    notification := (· ∈ s.notificationIntents), claimed := fun id => ∃ a ∈ s.attempts, a.intentId = id,
    passive := (· ∈ s.passiveIntents),
    result := (· ∈ s.passiveResults), decision := (· ∈ s.decisions), assist := (· ∈ s.assistRequests),
    context := (· ∈ s.contexts), candidate := (· ∈ s.candidateBindings) }

theorem HandlerWorld.view_sighted (s : HandlerWorld) (g : HandlerGuard) (op : HandlerOp → Prop) :
    (s.view g op).Sighted := by
  have hsees : ∀ s₀, s₀.Grows s → (s.view g op).Sees s₀ := fun _ h =>
    ⟨h.clock, h.cases, h.events, h.bindings, h.notificationIntents, h.attempts, h.passiveIntents,
      h.passiveResults, h.decisions, h.assistRequests, h.contexts, h.candidateBindings⟩
  exact fun t s₀ h => ⟨hsees s₀ h.1.1, fun b s' htxn => hsees s' (h.1.2 b s' htxn)⟩

theorem HandlerSys.run_concat (actions : List HandlerAction) (a : HandlerAction) :
    HandlerSys.run setup (actions ++ [a]) =
      Sys.step (HandlerOp.prog setup) handlerDisturbance (HandlerSys.run setup actions) a :=
  Sys.run_concat ..

/-- Nothing that calls read is lost in the continuations of a run. -/
theorem HandlerSys.grows (actions more : List HandlerAction) :
    (HandlerSys.run setup actions).store.Grows (HandlerSys.run setup (actions ++ more)).store := by
  let V : HandlerView := HandlerGuard.viewOf .free fun _ => True
  have hstart : ∀ op, Quiet V.txn (HandlerStep setup V) (fun _ => True) (HandlerOp.prog setup op) :=
    fun op => HandlerOp.prog_steps (HandlerGuard.viewOf_sighted .free _) trivial
  induction more using List.reverseRecOn with
  | nil => rw [List.append_nil]; exact .refl _
  | append_singleton more a ih =>
      have hquiet : (HandlerSys.run setup (actions ++ more)).QuietFrom (Guard.free.txn)
          (HandlerStep setup V) (fun _ => True) 0 :=
        Sys.QuietFrom.run (fun op _ => hstart op) (fun i p _ hp => by simp at hp) (fun _ => .same)
          (Sys.along_free _)
      have hallow : (HandlerSys.run setup (actions ++ more)).Allows Guard.free a :=
        (Sys.along_concat.mp (Sys.along_free (actions ++ more ++ [a]))).2
      rw [← List.append_assoc, HandlerSys.run_concat]
      refine ih.trans ?_
      rcases hquiet.step_cases (fun _ => .same) hallow with hstep | ⟨e, -, heq⟩
      · exact hstep.grows
      · rw [heq]
        exact handlerDisturbance_grows _ e

/-- **An action of a run**: one transaction of a started call, of which all that it has read or written is
    stored by then, or a disturbance. -/
theorem HandlerSys.step_cases {a : HandlerAction} {O : HandlerOp → Prop}
    (hop : ∀ op, .start op ∈ actions ++ [a] → O op) (h : HandlerSys.Along setup g (actions ++ [a])) :
    HandlerStep setup ((HandlerSys.run setup (actions ++ [a])).store.view g O)
        (HandlerSys.run setup actions).store (HandlerSys.run setup (actions ++ [a])).store ∨
      ∃ e, g.disturb e (HandlerSys.run setup actions).store ∧
        (HandlerSys.run setup (actions ++ [a])).store =
          handlerDisturbance e (HandlerSys.run setup actions).store := by
  let s' := (HandlerSys.run setup (actions ++ [a])).store
  have hgrown : ∀ before after, actions ++ [a] = before ++ after →
      (HandlerSys.run setup before).store.Grows s' := by
    intro before after heq
    show (HandlerSys.run setup before).store.Grows (HandlerSys.run setup (actions ++ [a])).store
    rw [heq]
    exact HandlerSys.grows before after
  obtain ⟨hbefore, hlast⟩ := Sys.along_concat.mp (Sys.along_within (J := (HandlerWorld.Grows · s')) h hgrown)
  have hquiet : (HandlerSys.run setup actions).QuietFrom (g.within (HandlerWorld.Grows · s')).txn
      (HandlerStep setup (s'.view g O)) (fun _ => True) 0 := by
    refine Sys.QuietFrom.run (fun op hstarted => ?_) (fun i p _ hp => by simp at hp) (fun _ => .same) hbefore
    exact HandlerOp.prog_steps (s'.view_sighted g O) (hop op (List.mem_append_left _ hstarted))
  have hafter : s' = _ := congrArg Sys.store (HandlerSys.run_concat actions a)
  rcases hquiet.step_cases (fun _ => .same) hlast with hstep | ⟨e, he, heq⟩
  · rw [← hafter] at hstep
    exact .inl hstep
  · rw [← hafter] at heq
    exact .inr ⟨e, he, heq⟩

/-- **An advance of a run** is a transaction of the call that started its thread. -/
theorem HandlerSys.step_of_call {i : Nat} {op : HandlerOp} (hop : (started actions)[i]? = some op)
    (h : HandlerSys.Along setup g (actions ++ [.advance i])) :
    HandlerStep setup ((HandlerSys.run setup (actions ++ [.advance i])).store.view g (· = op))
      (HandlerSys.run setup actions).store (HandlerSys.run setup (actions ++ [.advance i])).store := by
  let s' := (HandlerSys.run setup (actions ++ [.advance i])).store
  have hgrown : ∀ before after, actions ++ [.advance i] = before ++ after →
      (HandlerSys.run setup before).store.Grows s' := by
    intro before after heq
    show (HandlerSys.run setup before).store.Grows (HandlerSys.run setup (actions ++ [.advance i])).store
    rw [heq]
    exact HandlerSys.grows before after
  have hwithin := Sys.along_within (J := (HandlerWorld.Grows · s')) h hgrown
  exact Sys.step_of_started (R := fun op => HandlerStep setup (s'.view g (· = op)))
    (fun op => HandlerOp.prog_steps (s'.view_sighted g (· = op)) rfl) (fun _ _ => .same) hwithin hop

/-! ### Invariants -/

theorem HandlerWorld.genuine_empty : HandlerWorld.empty.Genuine setup :=
  ⟨fun _ hb => absurd hb List.not_mem_nil, fun _ hi => absurd hi List.not_mem_nil,
    fun _ hi => absurd hi List.not_mem_nil⟩

theorem HandlerStep.genuine (h : HandlerStep setup V s s') (hs : s.Genuine setup) : s'.Genuine setup := by
  cases h with
  | bound hb hfresh =>
      refine ⟨fun x hx => ?_, hs.notificationIntents, hs.passiveIntents⟩
      rcases List.mem_append.mp hx with hx | hx
      · exact hs.bindings x hx
      · exact List.mem_singleton.mp hx ▸ hb
  | notificationIntent hi hfresh =>
      refine ⟨hs.bindings, fun x hx => ?_, hs.passiveIntents⟩
      rcases List.mem_append.mp hx with hx | hx
      · exact hs.notificationIntents x hx
      · exact List.mem_singleton.mp hx ▸ hi
  | passiveIntent hi hcase hfinal hA hfresh =>
      refine ⟨hs.bindings, hs.notificationIntents, fun x hx => ?_⟩
      rcases List.mem_append.mp hx with hx | hx
      · exact hs.passiveIntents x hx
      · exact List.mem_singleton.mp hx ▸ hi
  | _ => exact ⟨hs.bindings, hs.notificationIntents, hs.passiveIntents⟩

theorem handlerDisturbance_genuine (hs : s.Genuine setup) (e : HandlerDisturbance) :
    (handlerDisturbance e s).Genuine setup := by
  cases e <;> exact ⟨hs.bindings, hs.notificationIntents, hs.passiveIntents⟩

/-- **An invariant of every run** that a guard allows; `O` holds of the calls that are started. -/
theorem HandlerSys.invariant {I : HandlerWorld → Prop} {O : HandlerOp → Prop} (hempty : I .empty)
    (hstep : ∀ s s', I s → HandlerStep setup (s'.view g O) s s' → I s')
    (hdisturb : ∀ e s, g.disturb e s → I s → I (handlerDisturbance e s))
    (hop : ∀ op, .start op ∈ actions → O op) (h : HandlerSys.Along setup g actions) :
    I (HandlerSys.run setup actions).store := by
  induction actions using List.reverseRecOn with
  | nil => exact hempty
  | append_singleton actions a ih =>
      have hbefore := ih (fun op hstarted => hop op (List.mem_append_left _ hstarted)) (Sys.along_concat.mp h).1
      rcases HandlerSys.step_cases hop h with hnext | ⟨e, he, heq⟩
      · exact hstep _ _ hbefore hnext
      · rw [heq]
        exact hdisturb e _ he hbefore

theorem HandlerSys.genuine (setup : HandlerSetup) (actions : List HandlerAction) :
    (HandlerSys.run setup actions).store.Genuine setup :=
  HandlerSys.invariant (O := fun _ => True) HandlerWorld.genuine_empty
    (fun _ _ hs hstep => hstep.genuine hs) (fun e _ _ hs => handlerDisturbance_genuine hs e)
    (fun _ _ => trivial) (Sys.along_free actions)

end Runs

end WeFlow
