import Mathlib.Data.Finset.Basic

/-!
# `Transition` — the allowlisted workflow transitions

The pure part of the kernel (`workflow_state.py`): the states, the transition kinds and
`allowedTargets`, which gives for one durable fact or command exactly the legal target states. Every
checkpoint and every workflow-originated Case event goes through `validateTransition`.
-/

namespace WeFlow

inductive WorkflowState where
  | received | ticketReady | investigating | responseReady | awaitingApproval | delivering
  | deliveryRecorded | paused | waitingForOperator | needsReconciliation | cancelled
  deriving DecidableEq, Repr

inductive TransitionKind where
  | ticketHandoffComplete | investigationStarted | responseCandidateVerified
  | policyApprovalActivated | approvalGranted | authorizationDenied | deliveryComplete
  | pause | resume | cancel | slaExpired | reconciliationRequired | reconciliationComplete
  deriving DecidableEq, Repr

/-- The value of `WorkflowTransitionError.reason_code`. -/
inductive TransitionError where
  | workflowTransitionNotAllowed
  deriving DecidableEq, Repr

inductive RunStatus where
  | active | paused | blocked | cancelled
  deriving DecidableEq, Repr

open WorkflowState TransitionKind

/-- `TERMINAL_STATES`. RESPONSE_READY is terminal for retained replays; only an explicit
    policy/approval activation leaves it. -/
def terminalStates : Finset WorkflowState := {responseReady, deliveryRecorded, cancelled}

def isTerminal (state : WorkflowState) : Bool := state ∈ terminalStates

/-- A derived execution status, without a business-success claim. -/
def runStatus : WorkflowState → RunStatus
  | .paused => .paused
  | .needsReconciliation => .blocked
  | .cancelled => .cancelled
  | _ => .active

/-- The singleton of a resume state that is recorded and not excluded. -/
def resumeTarget (excluded : Finset WorkflowState) : Option WorkflowState → Finset WorkflowState
  | none => ∅
  | some s => if s ∈ excluded then ∅ else {s}

@[simp] theorem mem_resumeTarget {excluded : Finset WorkflowState} {resume : Option WorkflowState}
    {t : WorkflowState} : t ∈ resumeTarget excluded resume ↔ resume = some t ∧ t ∉ excluded := by
  cases resume with
  | none => simp [resumeTarget]
  | some s =>
      by_cases hs : s ∈ excluded
      · simp only [resumeTarget, if_pos hs, Finset.notMem_empty, Option.some.injEq, false_iff]
        rintro ⟨rfl, ht⟩
        exact ht hs
      · simp only [resumeTarget, if_neg hs, Finset.mem_singleton, Option.some.injEq]
        constructor
        · rintro rfl
          exact ⟨rfl, hs⟩
        · rintro ⟨rfl, _⟩
          rfl

/-- **The legal target states** of one durable fact or command. -/
def allowedTargets (currentState : WorkflowState) (kind : TransitionKind)
    (resumeState : Option WorkflowState) (unresolvedEffect : Bool) : Finset WorkflowState :=
  match kind with
  | .ticketHandoffComplete => if currentState = received then {ticketReady} else ∅
  | .investigationStarted => if currentState = ticketReady then {investigating} else ∅
  | .responseCandidateVerified => if currentState = investigating then {responseReady} else ∅
  | .policyApprovalActivated => if currentState = responseReady then {awaitingApproval} else ∅
  | .approvalGranted => if currentState = awaitingApproval then {delivering} else ∅
  | .authorizationDenied =>
      if currentState = awaitingApproval ∨ currentState = delivering then {waitingForOperator} else ∅
  | .deliveryComplete => if currentState = delivering then {deliveryRecorded} else ∅
  | .pause =>
      if currentState ∈ ({received, ticketReady, investigating, responseReady, awaitingApproval,
          delivering, waitingForOperator} : Finset WorkflowState)
      then {.paused} else ∅
  | .resume =>
      if currentState = .paused
      then resumeTarget {.paused, deliveryRecorded, cancelled} resumeState else ∅
  | .cancel =>
      if unresolvedEffect ∨ currentState = cancelled ∨ currentState = needsReconciliation
      then ∅ else {cancelled}
  | .slaExpired =>
      if currentState ∉ terminalStates ∪ {needsReconciliation} then {waitingForOperator} else ∅
  | .reconciliationRequired =>
      if currentState ∉ terminalStates then {needsReconciliation} else ∅
  | .reconciliationComplete =>
      if currentState = needsReconciliation
      then resumeTarget {.paused, needsReconciliation, deliveryRecorded, cancelled} resumeState
      else ∅

/-- Whether `validate_transition` accepts. States and kinds outside the allowlist have no value here,
    so `workflow_state_not_allowlisted` cannot arise. -/
def transitionAllowed (currentState : WorkflowState) (kind : TransitionKind)
    (nextState : WorkflowState) (resumeState : Option WorkflowState)
    (unresolvedEffect : Bool) : Bool :=
  nextState ∈ allowedTargets currentState kind resumeState unresolvedEffect

/-- `validate_transition`. -/
def validateTransition (currentState : WorkflowState) (kind : TransitionKind)
    (nextState : WorkflowState) (resumeState : Option WorkflowState)
    (unresolvedEffect : Bool) : Except TransitionError Unit :=
  if transitionAllowed currentState kind nextState resumeState unresolvedEffect then .ok ()
  else .error .workflowTransitionNotAllowed

@[simp] theorem validateTransition_eq_ok {s : WorkflowState} {k : TransitionKind} {t : WorkflowState}
    {r : Option WorkflowState} {u : Bool} :
    validateTransition s k t r u = .ok () ↔ transitionAllowed s k t r u = true := by
  unfold validateTransition
  by_cases h : transitionAllowed s k t r u = true <;> simp [h]

end WeFlow
