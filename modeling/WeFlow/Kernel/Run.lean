import WeFlow.Kernel.Recover

/-!
# `Run` — calls, crashes and runs of the kernel

A run is a list of steps on one store: each is a call of a public operation under the clock and the
injected faults of its moment, cut off in front of some transaction when the process dies. `run_case`,
`submit_command` and `recover_all` are not calls of their own: they are runs of the calls they consist
of (`runCase_run`, `submitCommand_run`, `recoverAll_run`), and a second caller may act between the parts
of a `submit_command`.

## Contents

* `Call`, `programOf`, `Call.enabled` — what can be called.
* `Step`, `run`, `Along` — runs, and runs all of whose steps meet a condition.
* `run_induction` — an invariant of every call holds along every run.
* `api503…` — one workflow from its delivery on, for the runs on fixed inputs of later modules.
-/

namespace WeFlow

/-! ## Calls -/

inductive Call where
  | intake (envelope : InboundMessageEvent) (tenantId : String)
  | intakeQq (envelope : QQSandboxInboundEvent) (tenantId : String)
  | activateCase (tenantId : String) (caseId : CaseId) (caseRevisionId : CaseRevisionId)
      (slaPolicy : Option SlaPolicy)
  | recoverWorkflow (tenantId : String) (workflowId : WorkflowId)
  | observeForCommand (submission : CommandSubmission)
  | persistCommand (activation : WorkflowActivation) (observed : Checkpoint)
      (submission : CommandSubmission) (requestedAt : Instant)
  | applyCommand (activation : WorkflowActivation) (command : WorkflowCommand)
  | beginInvestigation (tenantId : String) (caseId : CaseId) (manifest : ContextManifest)
      (transcriptId : String)
  | recordAgentAction (tenantId : String) (caseId : CaseId) (action : AgentAction)
  | recordToolExchange (tenantId : String) (caseId : CaseId) (request : ToolRequest)
      (result : ToolResult)
  | recordResponseCandidate (tenantId : String) (caseId : CaseId) (candidate : ResponseCandidate)
  | verifyResponseCandidate (tenantId : String) (caseId : CaseId) (candidateId : String)
  | activatePolicyApproval (tenantId : String) (caseId : CaseId)
  | submitApprovalDecision (tenantId : String) (caseId : CaseId)
      (approvalRequestId : ApprovalRequestId) (decision : ApprovalVerdict)
      (expectedWorkflowVersion : Nat) (approverId approverRole : String)
  | revokeFixtureGrant (tenantId : String) (caseId : CaseId)
  deriving DecidableEq

/-- A transaction of the Case ledger on the whole store. -/
def ledgerTxn {α : Type} (txn : LedgerStore → Except LedgerError (α × LedgerStore)) : Kernel α :=
  Prog.atomically fun s =>
    match txn s.ledger with
    | .ok (a, ledger) => .ok (a, { s with ledger })
    | .error reason => .error (.ledger reason)

/-- A program whose result nobody reads. -/
def discard {α : Type} (p : Kernel α) : Kernel Unit := do
  let _ ← p
  pure ()

/-- The program of a call. -/
def programOf (env : Env) : Call → Kernel Unit
  | .intake envelope t => discard (ledgerTxn fun l => l.intake env.now envelope t)
  | .intakeQq envelope t => discard (ledgerTxn fun l => l.intakeQq env.now envelope t)
  | .activateCase t c r policy => discard (activateCase env t c r policy)
  | .recoverWorkflow t w => discard (recoverWorkflow env t w)
  | .observeForCommand c => discard (observeForCommand env c)
  | .persistCommand a observed c requestedAt => persistCommand env a observed c requestedAt
  | .applyCommand a c => discard
      (applyPersistedCommand env a c.commandId c.commandType c.expectedWorkflowVersion)
  | .beginInvestigation t c manifest transcriptId =>
      discard (beginInvestigation env t c manifest transcriptId)
  | .recordAgentAction t c action => discard (recordAgentAction t c action)
  | .recordToolExchange t c request result => recordToolExchange t c request result
  | .recordResponseCandidate t c candidate => discard (recordResponseCandidate t c candidate)
  | .verifyResponseCandidate t c candidateId => discard (verifyResponseCandidate env t c candidateId)
  | .activatePolicyApproval t c => discard (activatePolicyApproval env t c)
  | .submitApprovalDecision t c requestId decision version approverId approverRole =>
      discard (submitApprovalDecision env t c requestId decision version approverId approverRole)
  | .revokeFixtureGrant t c => revokeFixtureGrant env t c

/-- The later parts of a `submit_command` work on what its earlier parts have found: an activation, a
    checkpoint that was the latest one at some time, a command that is stored. -/
def Call.enabled (s : WorkflowStore) : Call → Bool
  | .persistCommand a observed c _ =>
      a ∈ s.journal.activations ∧ observed ∈ s.journal.checkpoints ∧
      observed.payload.tenantId = a.tenantId ∧ observed.payload.workflowId = a.workflowId ∧
      c.tenantId = a.tenantId ∧ c.caseId = a.caseId
  | .applyCommand a c =>
      a ∈ s.journal.activations ∧ c ∈ s.journal.commands ∧ c.tenantId = a.tenantId ∧
      c.workflowId = a.workflowId
  | _ => true

/-! ## Runs -/

/-- A call, the environment it is made in, and the number of transactions it lives to commit. -/
structure Step where
  env : Env
  call : Call
  cut : Nat

/-- How a step ends, and the store it leaves. -/
def Step.exec (x : Step) (s : WorkflowStore) : Prog.Outcome WorkflowError Unit × WorkflowStore :=
  Prog.exec (programOf x.env x.call) x.cut s

def WorkflowStore.after (s : WorkflowStore) (x : Step) : WorkflowStore := (x.exec s).2

/-- The store after a run from `s`. -/
def runFrom (s : WorkflowStore) (steps : List Step) : WorkflowStore := steps.foldl (·.after ·) s

/-- The store after a run from the empty store. -/
def run (steps : List Step) : WorkflowStore := runFrom {} steps

/-- Every step of a run from `s` is enabled and meets a condition on the store it starts from. -/
def Along (cond : Env → Call → WorkflowStore → Bool) : WorkflowStore → List Step → Bool
  | _, [] => true
  | s, x :: rest => x.call.enabled s ∧ cond x.env x.call s ∧ Along cond (s.after x) rest

/-- Any run. -/
def anyCall : Env → Call → WorkflowStore → Bool := fun _ _ _ => true

@[simp] theorem runFrom_nil (s : WorkflowStore) : runFrom s [] = s := rfl

@[simp] theorem runFrom_cons (s : WorkflowStore) (x : Step) (rest : List Step) :
    runFrom s (x :: rest) = runFrom (s.after x) rest := rfl

theorem runFrom_append (s : WorkflowStore) (xs ys : List Step) :
    runFrom s (xs ++ ys) = runFrom (runFrom s xs) ys := by
  simp [runFrom]

@[simp] theorem along_nil {cond : Env → Call → WorkflowStore → Bool} {s : WorkflowStore} :
    Along cond s [] = true := rfl

theorem along_cons {cond : Env → Call → WorkflowStore → Bool} {s : WorkflowStore} {x : Step}
    {rest : List Step} : Along cond s (x :: rest) = true ↔
      x.call.enabled s = true ∧ cond x.env x.call s = true ∧ Along cond (s.after x) rest = true := by
  simp [Along]

theorem along_append {cond : Env → Call → WorkflowStore → Bool} {s : WorkflowStore}
    {xs ys : List Step} : Along cond s (xs ++ ys) = true ↔
      Along cond s xs = true ∧ Along cond (runFrom s xs) ys = true := by
  induction xs generalizing s with
  | nil => simp
  | cons x xs ih => simp only [List.cons_append, along_cons, ih, runFrom_cons, and_assoc]

theorem run_append (xs ys : List Step) : run (xs ++ ys) = runFrom (run xs) ys :=
  runFrom_append {} xs ys

/-- **An invariant of every call holds along every run.** -/
theorem run_induction {cond : Env → Call → WorkflowStore → Bool} {Inv : WorkflowStore → Prop}
    (hstep : ∀ s (x : Step), Inv s → x.call.enabled s = true → cond x.env x.call s = true →
      Inv (s.after x))
    {s : WorkflowStore} {steps : List Step} (hs : Inv s) (h : Along cond s steps = true) :
    Inv (runFrom s steps) := by
  induction steps generalizing s with
  | nil => exact hs
  | cons x rest ih =>
      obtain ⟨henabled, hcond, hrest⟩ := along_cons.mp h
      exact ih (hstep s x hs henabled hcond) hrest

/-! ## The API-503 workflow

The synthetic case of the fixtures, step by step, for the delivery of one event; free texts are as short
as they can be. A cut beyond the last transaction of a call does not interrupt it. -/

def api503Tenant : String := "tenant-alpha"

def api503Envelope (event : String) : InboundMessageEvent :=
  { tenantId := api503Tenant, channel := "synthetic-im", channelEventId := event,
    conversationId := event, senderId := "s", customerId := "k", conversationSequence := 1,
    occurredAt := "t", receivedAt := "t", correlationId := "r", contentClassification := "synthetic",
    contentSha256 := "0000000000000000000000000000000000000000000000000000000000000000" }

def api503CaseOf (event : String) : CaseId :=
  caseIdOf api503Tenant ⟨api503Tenant, .syntheticIm, .text event⟩

def api503WorkflowOf (event : String) : WorkflowId :=
  workflowIdOf api503Tenant (api503CaseOf event) (revisionIdOf (api503CaseOf event))

/-- No fault is injected; identifiers are ordered as they come. -/
def calm (now : Instant) : Env := ⟨now, false, fun _ _ => true, fun _ _ => true⟩

def uninterrupted (env : Env) (call : Call) : Step := ⟨env, call, 1000⟩

/-- From the delivery to TICKET_READY, which is checkpoint 6. -/
def api503Ticket (event : String) : List Step :=
  [ uninterrupted (calm 0) (.intake (api503Envelope event) api503Tenant),
    uninterrupted (calm 0) (.activateCase api503Tenant (api503CaseOf event)
      (revisionIdOf (api503CaseOf event)) none),
    uninterrupted (calm 0) (.recoverWorkflow api503Tenant (api503WorkflowOf event)) ]

def api503Link (event : String) : ManifestLink :=
  ⟨api503Tenant, api503CaseOf event, revisionIdOf (api503CaseOf event), api503WorkflowOf event,
    stableIdentifier ⟨api503WorkflowOf event, 6⟩, event⟩

def api503Manifest (event : String) : ContextManifest :=
  ⟨api503Link event, 0, 0, [], 9, 9, 9, "t"⟩

def api503Candidate (event : String) : ResponseCandidate :=
  ⟨api503Link event, event, 0, [1, 2, 3], 7, .low, .operatorReview, "t"⟩

/-- One tool of the investigation: the action, and what the tool returns. -/
def api503Read (event : String) (tool : ToolName) (actionId : String) (evidence : Sha256Hex) :
    List Step :=
  [ uninterrupted (calm 0) (.recordAgentAction api503Tenant (api503CaseOf event)
      ⟨api503Link event, actionId, .read tool, 0, "t"⟩),
    uninterrupted (calm 0) (.recordToolExchange api503Tenant (api503CaseOf event)
      ⟨api503Link event, actionId, actionId, tool, 0, "t"⟩
      ⟨api503Link event, actionId, actionId, tool, actionId, evidence, "synthetic", "t"⟩) ]

/-- The investigation, up to RESPONSE_READY. -/
def api503Response (event : String) : List Step :=
  api503Ticket event ++
  [ uninterrupted (calm 0)
      (.beginInvestigation api503Tenant (api503CaseOf event) (api503Manifest event) event) ] ++
  api503Read event .crm (event ++ "1") 1 ++ api503Read event .monitoring (event ++ "2") 2 ++
  api503Read event .knowledge (event ++ "3") 3 ++
  [ uninterrupted (calm 0) (.recordAgentAction api503Tenant (api503CaseOf event)
      ⟨api503Link event, event ++ "4", .responseCandidate, 0, "t"⟩),
    uninterrupted (calm 0)
      (.recordResponseCandidate api503Tenant (api503CaseOf event) (api503Candidate event)),
    uninterrupted (calm 0) (.verifyResponseCandidate api503Tenant (api503CaseOf event) event) ]

/-- The policy and the approval request, up to AWAITING_APPROVAL. -/
def api503Activate (event : String) : Step :=
  uninterrupted (calm 0) (.activatePolicyApproval api503Tenant (api503CaseOf event))

/-! One such workflow, of the event `e`. -/

def api503CaseId : CaseId := api503CaseOf "e"

def api503WorkflowId : WorkflowId := api503WorkflowOf "e"

def api503Recover : Call := .recoverWorkflow api503Tenant api503WorkflowId

def api503Approval : List Step := api503Response "e" ++ [api503Activate "e"]

/-- The approver's answer to every request that is stored, in an environment and up to a cut. -/
def api503Answers (env : Env) (cut : Nat) (s : WorkflowStore) : List Step :=
  s.policy.requests.map fun r =>
    ⟨env, .submitApprovalDecision api503Tenant api503CaseId r.approvalRequestId .approved 8
      "op" "fixture-approver", cut⟩

/-- The store that awaits the approval. -/
def api503Awaiting : WorkflowStore := run api503Approval

/-- The approved delivery, up to DELIVERY_RECORDED. -/
def api503Delivery : List Step :=
  api503Approval ++ api503Answers (calm 5) 1000 api503Awaiting

/-- The store in which the delivery is recorded. -/
def api503Recorded : WorkflowStore :=
  runFrom api503Awaiting (api503Answers (calm 5) 1000 api503Awaiting)

theorem run_api503Delivery : run api503Delivery = api503Recorded := run_append _ _

/-- The latest state of a workflow's checkpoints. -/
def WorkflowStore.latestState (s : WorkflowStore) (t : String) (w : WorkflowId) :
    Option WorkflowState :=
  (s.latestCheckpoint? t w).map (·.payload.currentState)

/-- A `submit_command` whose three parts follow each other at once. -/
def commandSteps (env : Env) (c : CommandSubmission) (s : WorkflowStore) : List Step :=
  (s.activationForCaseForTenant c.tenantId c.caseId).toList.flatMap fun a =>
    (s.latestCheckpoint? a.tenantId a.workflowId).toList.flatMap fun observed =>
      [ uninterrupted env (.observeForCommand c),
        uninterrupted env (.persistCommand a observed c env.now),
        uninterrupted env (.applyCommand a (newCommand a c env.now env.now)) ]

end WeFlow
