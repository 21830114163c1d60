import WeFlow.Sandbox.Controller

/-!
# `Gateway` — one QQ gateway session after another

`QQGatewayRunner.run_one`: authenticate (identify, or resume with the last sequence number seen), then
receive frames until a group mention has been taken in and acknowledged, reconnecting a bounded number of
times. The runner is a state machine over what reaches it: a call of `run_one`, a frame, a lost connection,
a failure that ends the call. Heartbeats change nothing and are left out; a heartbeat that cannot be sent
is a lost connection.

## Contents

* `GatewayRun`, `GatewayEvent` — the runner's variables, the stores, and the history of what it did.
* `recordNumbered`, `reconnect` — the cursor writes of the loop.
* `receiveMention`, `receive`, `authenticate` — one frame, and the start of a connection.
* `GatewayInput`, `GatewayRun.step`, `runGateway`.
-/

namespace WeFlow

open Prog SQLiteQQSandboxJournal

/-! ## State -/

inductive GatewayPhase where
  | idle | connecting | receiving
  deriving DecidableEq, Repr

/-- What the runner did, in order. `resumed` keeps the durable cursor of that moment. -/
inductive GatewayEvent where
  | identified
  | resumed (sessionId : String) (sequence : Int) (cursor : Option QQGatewayCursor)
  | handled (sessionId : Option String) (sequence : Int)
  | tookIn (sessionId : Option String) (sequence : Int)
  deriving DecidableEq, Repr

/-- The local variables of `run_one`, and the world it works on. -/
structure GatewayRun where
  world : QQWorld
  phase : GatewayPhase
  sessionId : Option String
  latestSequence : Option Int
  rejectedEvents : Nat
  reconnects : Nat
  history : List GatewayEvent

/-- The configured runner. -/
structure QQGatewayRunner where
  text : QQText
  config : QQSandboxConfig
  verifyEventDedup : Bool

/-- What the provider answers to one `process`. -/
structure ProcessAnswers where
  reconciled : TransportAnswer
  sent : TransportAnswer
  deriving DecidableEq, Repr

/-- The reload of the transport context after an accepted mention, where the token is due. -/
inductive Refresh where
  | notDue | loaded | transportError | failed
  deriving DecidableEq, Repr

structure AcceptedAnswers where
  refresh : Refresh
  first : ProcessAnswers
  replay : ProcessAnswers
  deriving DecidableEq, Repr

/-- The reasons on which the runner reconnects instead of counting a rejected event. -/
def QQError.requiresReconciliation : QQError → Bool
  | .eventRejected .gatewaySequenceGap | .eventRejected .gatewaySequenceOutOfOrder
  | .intakeRejected .inboundOutOfOrder => true
  | _ => false

def maxReconnects : Nat := 3

def minHeartbeatMilliseconds : Int := 1000

def maxHeartbeatMilliseconds : Int := 120000

namespace GatewayRun

/-! ## Cursor writes -/

/-- The call ends, by its return or by an exception it does not handle; its variables are gone. -/
def abort (g : GatewayRun) : GatewayRun :=
  { g with phase := .idle, sessionId := none, latestSequence := none }

/-- `if sequence is not None: self._journal.record_cursor(…)`, then `continue`. -/
def recordNumbered (r : QQGatewayRunner) (sequence : Option Int) (status : CursorStatus)
    (g : GatewayRun) : GatewayRun :=
  match sequence with
  | none => g
  | some n =>
      match eval (recordCursor r.text r.config n status g.sessionId) g.world with
      | (.ok _, world) => { g with world, history := g.history ++ [.handled g.sessionId n] }
      | (.error _, world) => { g with world }.abort

/-- `except QQTransportError`. -/
def reconnect (r : QQGatewayRunner) (g : GatewayRun) : GatewayRun :=
  let next (world : QQWorld) : GatewayRun :=
    { g with
      world, reconnects := g.reconnects + 1,
      phase := if g.reconnects + 1 > maxReconnects then .idle else .connecting }
  match g.world.cursor? (r.config.gatewayKey r.text) with
  | none => next g.world
  | some c =>
      match eval (recordCursor r.text r.config c.lastContiguousSequence .disconnected g.sessionId)
        g.world with
      | (.ok _, world) => next world
      | (.error _, world) => { g with world }.abort

/-! ## Authentication -/

/-- The interval of a valid HELLO frame. -/
def helloInterval? (hello : Json) : Option Int :=
  match hello.get? "d" with
  | some data => (Json.int? (data.get? "heartbeat_interval")).filter fun interval =>
      Json.equalsInt 10 (hello.get? "op") && minHeartbeatMilliseconds ≤ interval &&
        interval ≤ maxHeartbeatMilliseconds
  | none => none

/-- `_authenticate`: resume where a session and a number are known, identify otherwise. -/
def authenticate (r : QQGatewayRunner) (hello : Json) (g : GatewayRun) : GatewayRun :=
  match helloInterval? hello with
  | none => g.reconnect r
  | some _ =>
      let sent : GatewayEvent :=
        match g.sessionId, g.latestSequence with
        | some sessionId, some sequence =>
            .resumed sessionId sequence (g.world.cursor? (r.config.gatewayKey r.text))
        | _, _ => .identified
      { g with phase := .receiving, history := g.history ++ [sent] }

/-! ## Frames -/

/-- Whether the mention has a receipt. -/
def hasReceipt (r : QQGatewayRunner) (frame : Json) (world : QQWorld) : Bool :=
  match normalizeQqGroupAtEvent r.text r.config world.now frame with
  | .ok inbound => (world.ledger.receipt? r.config.tenantId
      ⟨r.config.tenantId, .qqSandbox, .naturalKey inbound.inboundNaturalKey⟩).isSome
  | .error _ => false

/-- `controller.process` as the runner calls it. -/
def acknowledge (r : QQGatewayRunner) (intent : QQAcknowledgementIntent) (answers : ProcessAnswers)
    (g : GatewayRun) : GatewayRun :=
  { g with world := (eval (QQAcknowledgementController.process r.text r.config intent.intentId true
      answers.reconciled answers.sent) g.world).2 }

/-- The history of a mention: taken in if its receipt is new, handled if it has one. -/
def mentionEvents (r : QQGatewayRunner) (frame : Json) (sequence : Option Int) (sessionId : Option String)
    (old new : QQWorld) : List GatewayEvent :=
  match sequence with
  | none => []
  | some n =>
      (if !hasReceipt r frame old && hasReceipt r frame new then [.tookIn sessionId n] else []) ++
        if hasReceipt r frame new then [.handled sessionId n] else []

/-- `service.accept(frame, session_id=session_id)`. -/
def acceptFrame (r : QQGatewayRunner) (frame : Json) (g : GatewayRun) :
    Except QQError QQIntakeAndIntentResult × GatewayRun :=
  let sequence := Json.int? (frame.get? "s")
  let (result, world) := eval (QQSandboxIntakeService.accept r.text r.config frame g.sessionId) g.world
  let events :=
    match result with
    | .ok _ => mentionEvents r frame sequence g.sessionId g.world world
    | .error e =>
        if e.requiresReconciliation then []
        else mentionEvents r frame sequence g.sessionId g.world world
  (result, { g with world, history := g.history ++ events })

/-- The rest of the loop body after `service.accept` has returned; it ends the call. -/
def afterAccept (r : QQGatewayRunner) (frame : Json) (accepted : QQIntakeAndIntentResult)
    (answers : AcceptedAnswers) (g : GatewayRun) : GatewayRun :=
  match answers.refresh with
  | .failed => g.abort
  | .transportError => g.reconnect r
  | .notDue | .loaded =>
      let g := g.acknowledge r accepted.intent answers.first
      if r.verifyEventDedup then
        match g.acceptFrame r frame with
        | (.ok replayed, g) => (g.acknowledge r replayed.intent answers.replay).abort
        | (.error _, g) => g.abort
      else g.abort

/-- The branch of a group mention. -/
def receiveMention (r : QQGatewayRunner) (frame : Json) (answers : AcceptedAnswers) (g : GatewayRun) :
    GatewayRun :=
  match g.acceptFrame r frame with
  | (.ok accepted, g) => g.afterAccept r frame accepted answers
  | (.error e, g) =>
      if e.requiresReconciliation then g.reconnect r
      else
        match e with
        | .eventRejected _ | .intakeRejected _ =>
            { g with rejectedEvents := g.rejectedEvents + 1 }.recordNumbered r
              (Json.int? (frame.get? "s")) .identified
        | _ => g.abort

/-- The session a READY frame announces. -/
def readySession? (frame : Json) : Option String :=
  match frame.get? "d" with
  | some data => (Json.str? (data.get? "session_id")).filter nonEmpty
  | none => none

/-- **One turn of the loop**: a frame has been received. -/
def receive (r : QQGatewayRunner) (frame : Json) (answers : AcceptedAnswers) (g : GatewayRun) :
    GatewayRun :=
  let opcode := frame.get? "op"
  let sequence := Json.int? (frame.get? "s")
  let g := { g with latestSequence := sequence.or g.latestSequence }
  if Json.equalsInt 7 opcode then g.reconnect r
  else if Json.equalsInt 9 opcode then
    { g with sessionId := none, latestSequence := none }.reconnect r
  else if !Json.equalsInt 0 opcode then g
  else
    let eventType := Json.str? (frame.get? "t")
    if eventType = some "READY" then
      match readySession? frame with
      | none => g.reconnect r
      | some session => { g with sessionId := some session }.recordNumbered r sequence .identified
    else if eventType = some "RESUMED" then g.recordNumbered r sequence .resuming
    else if eventType ≠ some "GROUP_AT_MESSAGE_CREATE" then
      { g with rejectedEvents := g.rejectedEvents + 1 }.recordNumbered r sequence .identified
    else g.receiveMention r frame answers

/-! ## Calls of `run_one` -/

/-- The beginning of `run_one`: recover one pending acknowledgement and return, or connect. Which pending
    intent is the first depends on the text of the identifiers, so it is left to `pick`. -/
def start (r : QQGatewayRunner) (pick : Nat) (answers : ProcessAnswers) (g : GatewayRun) : GatewayRun :=
  let g := { g with
    phase := .connecting, sessionId := none, latestSequence := none, rejectedEvents := 0,
    reconnects := 0 }
  let recoverable := g.world.recoverableIntents r.config.tenantId
  match recoverable[pick % recoverable.length]? with
  | none => g
  | some intent => if r.verifyEventDedup then g.abort else (g.acknowledge r intent answers).abort

end GatewayRun

/-- What reaches the runner. `start` calls `run_one`, also after the process has been killed; `aborted` is
    any failure that ends the call; time passes between all of them. -/
inductive GatewayInput where
  | start (pick : Nat) (answers : ProcessAnswers)
  | hello (frame : Json)
  | frame (frame : Json) (answers : AcceptedAnswers)
  | disconnected
  | aborted
  | elapse (d : Nat)

/-- One input; an input that the present phase does not wait for changes nothing. -/
def GatewayRun.step (r : QQGatewayRunner) (g : GatewayRun) : GatewayInput → GatewayRun
  | .start pick answers => g.start r pick answers
  | .hello frame => if g.phase = .connecting then g.authenticate r frame else g
  | .frame frame answers => if g.phase = .receiving then g.receive r frame answers else g
  | .disconnected => if g.phase = .idle then g else g.reconnect r
  | .aborted => g.abort
  | .elapse d => { g with world := { g.world with now := g.world.now + d } }

def QQWorld.empty : QQWorld := ⟨0, {}, ⟨[], [], [], [], []⟩, []⟩

def GatewayRun.init : GatewayRun := ⟨.empty, .idle, none, none, 0, 0, []⟩

def runGateway (r : QQGatewayRunner) (inputs : List GatewayInput) : GatewayRun :=
  inputs.foldl (GatewayRun.step r) .init

end WeFlow
