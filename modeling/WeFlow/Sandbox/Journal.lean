import WeFlow.Base.Program
import WeFlow.Sandbox.Inbound

/-!
# `Journal` — the QQ sandbox journal

`SQLiteQQSandboxJournal`: the gateway cursor, the acknowledgement intents with their reply locators, and
the append-only observations and completions. Every method is a program over `QQWorld`, one transaction for
each connection statement group the method commits.

## Contents

* rows and their uniqueness constraints, `QQSandboxJournal`, `QQWorld`.
* `getCursor`, `recordCursor` — the durable gateway cursor.
* `createAcknowledgementIntent`, `getIntent`, `getLocator`, `appendObservation`, `complete`,
  `recoverableIntentIds`, `purgeExpiredLocators`.
-/

namespace WeFlow

open Txn

/-! ## Rows -/

inductive CursorStatus where
  | identified | resuming | disconnected | reconciliationRequired
  deriving DecidableEq, Repr

structure QQGatewayCursor where
  tenantId : String
  appIdHash : String
  groupOpenidHash : String
  sessionIdHash : Option (Digest String)
  lastContiguousSequence : Nat
  status : CursorStatus
  updatedAt : Instant
  deriving DecidableEq, Repr

/-- The fixed acknowledgement text with the case's identifier filled in. -/
structure AckText where
  caseId : CaseId
  deriving DecidableEq, Repr

/-- The material of an intent's natural key (`operation` is constant). -/
structure AckNaturalKey where
  caseId : CaseId
  caseRevisionId : CaseRevisionId
  tenantId : String
  deriving DecidableEq, Repr

structure AckIntendedState where
  groupOpenidHash : String
  replyMsgSeq : Nat
  sourceMessageIdHash : Digest String
  templateSha256 : Digest AckText
  deriving DecidableEq, Repr

/-- The material of `stable_idempotency_key` (`provider_id` and `operation` are constant). -/
structure AckIdempotency where
  tenantId : String
  naturalKey : Digest AckNaturalKey
  intendedStateHash : Digest AckIntendedState
  deriving DecidableEq, Repr

structure AckIntentMaterial where
  idempotencyKey : Digest AckIdempotency
  tenantId : String
  deriving DecidableEq, Repr

abbrev AckIntentId := StableId AckIntentMaterial

structure QQAcknowledgementIntent where
  tenantId : String
  caseId : CaseId
  caseRevisionId : CaseRevisionId
  intentId : AckIntentId
  sourceMessageId : String
  sourceMessageIdHash : Digest String
  groupOpenidHash : String
  conversationId : String
  templateSha256 : Digest AckText
  naturalKey : Digest AckNaturalKey
  intendedStateSha256 : Digest AckIntendedState
  idempotencyKey : Digest AckIdempotency
  replyMsgSeq : Nat
  replyDeadlineAt : Instant
  capabilityProfileHash : String
  correlationId : String
  createdAt : Instant
  deriving DecidableEq, Repr

inductive SendStatus where
  | absent | accepted | present | duplicate | unknown | conflict | expired | unauthorized
  deriving DecidableEq, Repr

/-- `_COMPLETABLE_STATUSES`. -/
def SendStatus.completable : SendStatus → Bool
  | .accepted | .present | .duplicate => true
  | _ => false

structure QQSendOutcome where
  status : SendStatus
  reasonCode : String
  providerMessageId : Option String
  deriving DecidableEq, Repr

structure AckOutcomeMaterial where
  providerMessageIdHash : Option (Digest String)
  reasonCode : String
  status : SendStatus
  deriving DecidableEq, Repr

structure AckObservationMaterial where
  intentId : AckIntentId
  sequence : Nat
  status : SendStatus
  deriving DecidableEq, Repr

structure QQAcknowledgementObservation where
  tenantId : String
  caseId : CaseId
  caseRevisionId : CaseRevisionId
  observationId : StableId AckObservationMaterial
  intentId : AckIntentId
  observationSequence : Nat
  status : SendStatus
  providerMessageIdHash : Option (Digest String)
  outcomeSha256 : Option (Digest AckOutcomeMaterial)
  reasonCode : String
  recordedAt : Instant
  deriving DecidableEq, Repr

structure AckCompletionMaterial where
  intentId : AckIntentId
  tenantId : String
  deriving DecidableEq, Repr

structure QQAcknowledgementCompletion where
  tenantId : String
  caseId : CaseId
  caseRevisionId : CaseRevisionId
  completionId : StableId AckCompletionMaterial
  intentId : AckIntentId
  observationId : StableId AckObservationMaterial
  providerMessageIdHash : Option (Digest String)
  outcomeSha256 : Option (Digest AckOutcomeMaterial)
  completedAt : Instant
  deriving DecidableEq, Repr

structure QQReplyLocator where
  tenantId : String
  intentId : AckIntentId
  groupOpenid : String
  sourceMessageId : String
  expiresAt : Instant
  createdAt : Instant
  deriving DecidableEq, Repr

structure QQSandboxJournal where
  cursors : List QQGatewayCursor
  intents : List QQAcknowledgementIntent
  observations : List QQAcknowledgementObservation
  completions : List QQAcknowledgementCompletion
  locators : List QQReplyLocator
  deriving DecidableEq, Repr

/-! ## The world -/

/-- A call of the passive-reply transport: `content` is present for a send. `controller` is the
    configuration of the controller that made it. -/
structure TransportCall where
  groupOpenid : String
  sourceMessageId : String
  replyMsgSeq : Nat
  idempotencyKey : Digest AckIdempotency
  content : Option AckText
  controller : QQSandboxConfig
  capabilityActive : Bool
  deriving DecidableEq, Repr

/-- The clock, the two stores, and the transport calls made so far. -/
structure QQWorld where
  now : Instant
  ledger : LedgerStore
  journal : QQSandboxJournal
  transport : List TransportCall
  deriving DecidableEq, Repr

abbrev QQProg := Prog QQWorld QQError

/-! ## Uniqueness constraints -/

def QQAcknowledgementIntent.clash (a b : QQAcknowledgementIntent) : Bool :=
  a.tenantId = b.tenantId ∧ (a.naturalKey = b.naturalKey ∨ a.idempotencyKey = b.idempotencyKey ∨
    a.intentId = b.intentId)

def QQReplyLocator.clash (a b : QQReplyLocator) : Bool :=
  a.tenantId = b.tenantId ∧ a.intentId = b.intentId

def QQAcknowledgementObservation.clash (a b : QQAcknowledgementObservation) : Bool :=
  a.tenantId = b.tenantId ∧ (a.observationId = b.observationId ∨
    (a.intentId = b.intentId ∧ a.observationSequence = b.observationSequence))

def QQAcknowledgementCompletion.clash (a b : QQAcknowledgementCompletion) : Bool :=
  a.tenantId = b.tenantId ∧ (a.completionId = b.completionId ∨ a.intentId = b.intentId)

/-- The primary key of `qq_gateway_cursors`. -/
structure GatewayKey where
  tenantId : String
  appIdHash : String
  groupOpenidHash : String
  deriving DecidableEq, Repr

def QQGatewayCursor.key (c : QQGatewayCursor) : GatewayKey :=
  ⟨c.tenantId, c.appIdHash, c.groupOpenidHash⟩

/-- `ON CONFLICT DO UPDATE SET record_json = excluded.record_json`; the key columns stay. -/
def QQGatewayCursor.merge (old new : QQGatewayCursor) : QQGatewayCursor :=
  { new with
    tenantId := old.tenantId, appIdHash := old.appIdHash, groupOpenidHash := old.groupOpenidHash }

theorem QQGatewayCursor.merge_of_key {old new : QQGatewayCursor} (h : old.key = new.key) :
    old.merge new = new := by
  obtain ⟨ht, ha, hg⟩ := GatewayKey.mk.injEq .. ▸ h
  simp [merge, ht, ha, hg]

variable (text : QQText) (config : QQSandboxConfig)

def QQSandboxConfig.gatewayKey : GatewayKey :=
  ⟨config.tenantId, config.appIdHash text, config.groupOpenidHash text⟩

/-! ## The durable cursor -/

namespace QQWorld

def cursor? (s : QQWorld) (key : GatewayKey) : Option QQGatewayCursor :=
  s.journal.cursors.find? fun c => c.key = key

def putCursor (s : QQWorld) (c : QQGatewayCursor) : QQWorld :=
  { s with journal := { s.journal with
      cursors := Table.upsert QQGatewayCursor.key QQGatewayCursor.merge c s.journal.cursors } }

theorem cursor?_putCursor (s : QQWorld) {c : QQGatewayCursor} {key : GatewayKey} (h : c.key = key) :
    (s.putCursor c).cursor? key = some c := by
  have hmerge : ∀ x r : QQGatewayCursor, (x.merge r).key = x.key := fun _ _ => rfl
  show (Table.upsert QQGatewayCursor.key QQGatewayCursor.merge c s.journal.cursors).find? _ = _
  rw [Table.find?_upsert hmerge, if_pos h]
  cases hfind : s.journal.cursors.find? (fun x => x.key = key) with
  | none => rfl
  | some old =>
      have hold := List.find?_some hfind
      rw [decide_eq_true_eq] at hold
      exact congrArg some (QQGatewayCursor.merge_of_key (hold.trans h.symm))

end QQWorld

/-- The session hash a cursor row gets: the given session, else the one it had. -/
def sessionHashOf (sessionId : Option String) (current : Option QQGatewayCursor) :
    Option (Digest String) :=
  match sessionId.filter nonEmpty with
  | some session => some (sha256 session)
  | none => current.bind (·.sessionIdHash)

/-- `session_changed`. -/
def sessionChanged (status : CursorStatus) (sessionId : Option String)
    (current : Option QQGatewayCursor) : Bool :=
  match sessionId.filter nonEmpty, current with
  | some session, some c => status = .identified ∧ some (sha256 session) ≠ c.sessionIdHash
  | _, _ => false

/-- `last_sequence`: a maximum, except for the first number of a new session. -/
def lastSequenceOf (sequence : Int) (status : CursorStatus) (sessionId : Option String)
    (current : Option QQGatewayCursor) : Int :=
  if sessionChanged status sessionId current then sequence
  else max sequence (current.elim 0 fun c => c.lastContiguousSequence)

namespace SQLiteQQSandboxJournal

def getCursor : QQProg (Option QQGatewayCursor) :=
  .observe fun s => s.cursor? (config.gatewayKey text)

/-- The row `record_cursor` writes over `current`. -/
def cursorRow (sequence : Int) (status : CursorStatus) (sessionId : Option String)
    (current : Option QQGatewayCursor) (now : Instant) : QQGatewayCursor :=
  { tenantId := config.tenantId, appIdHash := config.appIdHash text,
    groupOpenidHash := config.groupOpenidHash text, sessionIdHash := sessionHashOf sessionId current,
    lastContiguousSequence := (lastSequenceOf sequence status sessionId current).toNat, status,
    updatedAt := now }

/-- **`record_cursor`**: a read, and an upsert in a connection of its own. -/
def recordCursor (sequence : Int) (status : CursorStatus) (sessionId : Option String) :
    QQProg QQGatewayCursor := do
  let current ← getCursor text config
  let now ← .observe QQWorld.now
  .check (0 ≤ lastSequenceOf sequence status sessionId current && nonEmpty config.tenantId) .contract
  let cursor := cursorRow text config sequence status sessionId current now
  .atomically fun s => .ok (cursor, s.putCursor cursor)

end SQLiteQQSandboxJournal

/-! ## Contracts of the acknowledgement chain -/

def validateQqAcknowledgementIntent (i : QQAcknowledgementIntent) : Bool :=
  nonEmpty i.tenantId ∧ matchesMessageId i.sourceMessageId ∧
  i.sourceMessageIdHash = sha256 i.sourceMessageId ∧ matchesSha256 "" i.groupOpenidHash ∧
  matchesSha256 "qq-conversation:" i.conversationId ∧ 1 ≤ i.replyMsgSeq ∧
  matchesSha256 "" i.capabilityProfileHash ∧ nonEmpty i.correlationId ∧
  i.correlationId.length ≤ 256

def validateObservationLink (i : QQAcknowledgementIntent) (o : QQAcknowledgementObservation) : Bool :=
  nonEmpty o.reasonCode ∧ o.reasonCode.length ≤ 128 ∧ o.tenantId = i.tenantId ∧
  o.caseId = i.caseId ∧ o.caseRevisionId = i.caseRevisionId ∧ o.intentId = i.intentId

def validateCompletionLink (i : QQAcknowledgementIntent)
    (observations : List QQAcknowledgementObservation) (c : QQAcknowledgementCompletion) : Bool :=
  c.providerMessageIdHash.isSome ∧ c.outcomeSha256.isSome ∧ c.tenantId = i.tenantId ∧
  c.caseId = i.caseId ∧ c.caseRevisionId = i.caseRevisionId ∧ c.intentId = i.intentId ∧
  (observations.find? fun o => o.observationId = c.observationId).any fun o =>
    o.status.completable ∧ c.providerMessageIdHash = o.providerMessageIdHash ∧
      c.outcomeSha256 = o.outcomeSha256

/-- `validate_qq_acknowledgement_chain`. -/
def validateQqAcknowledgementChain (i : QQAcknowledgementIntent)
    (observations : List QQAcknowledgementObservation)
    (completions : List QQAcknowledgementCompletion) : Bool :=
  validateQqAcknowledgementIntent i ∧ observations.all (validateObservationLink i) ∧
  (observations.map (·.observationId)).Nodup ∧ completions.all (validateCompletionLink i observations) ∧
  completions.length ≤ 1

/-! ## Intents -/

/-- `QQ_PASSIVE_REPLY_WINDOW_SECONDS` and `QQ_REPLY_LOCATOR_RETENTION_SECONDS`, in microseconds. -/
def passiveReplyWindow : Nat := 300 * 1000000

def replyLocatorRetention : Nat := 86400 * 1000000

/-- The intent `create_acknowledgement_intent` builds. -/
def acknowledgementIntent (inbound : QQSandboxInboundEvent) (intake : IntakeResult)
    (deadline created : Instant) : QQAcknowledgementIntent :=
  let templateSha256 : Digest AckText := sha256 ⟨intake.caseId⟩
  let naturalKey : Digest AckNaturalKey :=
    sha256 ⟨intake.caseId, intake.caseRevisionId, config.tenantId⟩
  let groupHash := config.groupOpenidHash text
  let intendedState : Digest AckIntendedState :=
    sha256 ⟨groupHash, 1, inbound.sourceMessageIdHash, templateSha256⟩
  let idempotencyKey : Digest AckIdempotency := sha256 ⟨config.tenantId, naturalKey, intendedState⟩
  { tenantId := config.tenantId, caseId := intake.caseId, caseRevisionId := intake.caseRevisionId,
    intentId := stableIdentifier ⟨idempotencyKey, config.tenantId⟩,
    sourceMessageId := inbound.sourceMessageId, sourceMessageIdHash := inbound.sourceMessageIdHash,
    groupOpenidHash := groupHash, conversationId := inbound.conversationId, templateSha256,
    naturalKey, intendedStateSha256 := intendedState, idempotencyKey, replyMsgSeq := 1,
    replyDeadlineAt := deadline, capabilityProfileHash := config.capabilityProfileHash text,
    correlationId := inbound.correlationId, createdAt := created }

def replyLocator (intent : QQAcknowledgementIntent) : QQReplyLocator :=
  { tenantId := config.tenantId, intentId := intent.intentId, groupOpenid := config.groupOpenid,
    sourceMessageId := intent.sourceMessageId, expiresAt := intent.createdAt + replyLocatorRetention,
    createdAt := intent.createdAt }

/-- The transaction of `create_acknowledgement_intent`: the stored intent of the same natural key, or a
    new intent with its reply locator. -/
def SQLiteQQSandboxJournal.insertIntent (intent : QQAcknowledgementIntent) (s : QQWorld) :
    Except QQError (QQAcknowledgementIntent × QQWorld) :=
  match s.journal.intents.find? fun i => i.tenantId = config.tenantId ∧ i.naturalKey = intent.naturalKey with
  | some existing => do
      require (existing.idempotencyKey = intent.idempotencyKey ∧ existing.caseId = intent.caseId ∧
        existing.sourceMessageIdHash = intent.sourceMessageIdHash) (.journal .intentConflict)
      pure (existing, s)
  | none => do
      let intents ← fetch (Table.insert? QQAcknowledgementIntent.clash intent s.journal.intents)
        (.journal .writeFailed)
      let locators ← fetch
        (Table.insert? QQReplyLocator.clash (replyLocator config intent) s.journal.locators)
        (.journal .writeFailed)
      pure (intent, { s with journal := { s.journal with intents, locators } })

namespace SQLiteQQSandboxJournal

/-- **`create_acknowledgement_intent`**. -/
def createAcknowledgementIntent (inbound : QQSandboxInboundEvent) (intake : IntakeResult) :
    QQProg QQAcknowledgementIntent := do
  .check (inbound.tenantId = config.tenantId && inbound.groupOpenidHash = config.groupOpenidHash text)
    (.journal .intentIdentityMismatch)
  let created ← .observe QQWorld.now
  let occurred ← .need (text.parseTimestamp inbound.occurredAt) (.eventRejected .timestampInvalid)
  let intent := acknowledgementIntent text config inbound intake (occurred + passiveReplyWindow) created
  .check (validateQqAcknowledgementChain intent [] []) .contract
  .atomically (insertIntent config intent)

end SQLiteQQSandboxJournal

/-! ## Reading one intent's records -/

namespace QQWorld

def intent? (s : QQWorld) (tenantId : String) (intentId : AckIntentId) :
    Option QQAcknowledgementIntent :=
  s.journal.intents.find? fun i => i.tenantId = tenantId ∧ i.intentId = intentId

def locator? (s : QQWorld) (tenantId : String) (intentId : AckIntentId) : Option QQReplyLocator :=
  s.journal.locators.find? fun l => l.tenantId = tenantId ∧ l.intentId = intentId

/-- `observations`; rows are inserted in the order of `observation_sequence`. -/
def observationsOf (s : QQWorld) (tenantId : String) (intentId : AckIntentId) :
    List QQAcknowledgementObservation :=
  s.journal.observations.filter fun o => o.tenantId = tenantId ∧ o.intentId = intentId

def completionsOf (s : QQWorld) (tenantId : String) (intentId : AckIntentId) :
    List QQAcknowledgementCompletion :=
  s.journal.completions.filter fun c => c.tenantId = tenantId ∧ c.intentId = intentId

/-- `recoverable_intent_ids`: incomplete intents before their deadline whose last observation, if any,
    leaves the outcome open. -/
def recoverableIntents (s : QQWorld) (tenantId : String) : List QQAcknowledgementIntent :=
  s.journal.intents.filter fun i =>
    i.tenantId = tenantId ∧ (s.completionsOf tenantId i.intentId).isEmpty ∧
    s.now < i.replyDeadlineAt ∧
    (s.observationsOf tenantId i.intentId).getLast?.all fun o =>
      o.status = .absent ∨ o.status = .unknown

end QQWorld

namespace SQLiteQQSandboxJournal

def getIntent (tenantId : String) (intentId : AckIntentId) : QQProg QQAcknowledgementIntent := do
  let row ← .observe fun s => s.intent? tenantId intentId
  .need row (.journal .intentNotFound)

def getLocator (tenantId : String) (intentId : AckIntentId) : QQProg QQReplyLocator := do
  let row ← .observe fun s => s.locator? tenantId intentId
  .need row (.journal .locatorNotFound)

def completions (tenantId : String) (intentId : AckIntentId) :
    QQProg (List QQAcknowledgementCompletion) :=
  .observe fun s => s.completionsOf tenantId intentId

def observations (tenantId : String) (intentId : AckIntentId) :
    QQProg (List QQAcknowledgementObservation) :=
  .observe fun s => s.observationsOf tenantId intentId

end SQLiteQQSandboxJournal

/-! ## Observations and completions -/

/-- The observation `append_observation` builds from an outcome. -/
def SQLiteQQSandboxJournal.observationRow (i : QQAcknowledgementIntent) (outcome : QQSendOutcome) (sequence : Nat)
    (now : Instant) : QQAcknowledgementObservation :=
  let providerHash := outcome.providerMessageId.map sha256
  { tenantId := i.tenantId, caseId := i.caseId, caseRevisionId := i.caseRevisionId,
    observationId := stableIdentifier ⟨i.intentId, sequence, outcome.status⟩, intentId := i.intentId,
    observationSequence := sequence, status := outcome.status, providerMessageIdHash := providerHash,
    outcomeSha256 := if outcome.status.completable then
        some (sha256 ⟨providerHash, outcome.reasonCode, outcome.status⟩) else none,
    reasonCode := outcome.reasonCode, recordedAt := now }

/-- **`append_observation`**: one transaction. -/
def SQLiteQQSandboxJournal.appendObservation (i : QQAcknowledgementIntent) (outcome : QQSendOutcome) :
    QQProg QQAcknowledgementObservation :=
  .atomically fun s => do
    let chain := s.observationsOf i.tenantId i.intentId
    let observation := observationRow i outcome (chain.length + 1) s.now
    require (validateQqAcknowledgementChain i (chain ++ [observation]) []) .contract
    let observations ← fetch
      (Table.insert? QQAcknowledgementObservation.clash observation s.journal.observations)
      (.journal .writeFailed)
    pure (observation, { s with journal := { s.journal with observations } })

def SQLiteQQSandboxJournal.completionRow (i : QQAcknowledgementIntent) (o : QQAcknowledgementObservation) (now : Instant) :
    QQAcknowledgementCompletion :=
  { tenantId := i.tenantId, caseId := i.caseId, caseRevisionId := i.caseRevisionId,
    completionId := stableIdentifier ⟨i.intentId, i.tenantId⟩, intentId := i.intentId,
    observationId := o.observationId, providerMessageIdHash := o.providerMessageIdHash,
    outcomeSha256 := o.outcomeSha256, completedAt := now }

/-- The `INSERT` of `complete`: `false` stands for the `IntegrityError` it catches. -/
def SQLiteQQSandboxJournal.insertCompletion (completion : QQAcknowledgementCompletion) (s : QQWorld) :
    Except QQError (Bool × QQWorld) :=
  match Table.insert? QQAcknowledgementCompletion.clash completion s.journal.completions with
  | some completions => .ok (true, { s with journal := { s.journal with completions } })
  | none => .ok (false, s)

namespace SQLiteQQSandboxJournal

/-- **`complete`**: the stored completion, or a new one unless another executor was faster. -/
def complete (i : QQAcknowledgementIntent) (o : QQAcknowledgementObservation) :
    QQProg QQAcknowledgementCompletion := do
  let existing ← completions i.tenantId i.intentId
  match existing with
  | row :: _ => pure row
  | [] => do
      let now ← .observe QQWorld.now
      let completion := completionRow i o now
      let chain ← observations i.tenantId i.intentId
      .check (validateQqAcknowledgementChain i chain [completion]) .contract
      let inserted ← .atomically (insertCompletion completion)
      if inserted then pure completion
      else do
        let existing ← completions i.tenantId i.intentId
        .need existing.head? (.journal .writeFailed)

/-- `purge_expired_locators`. -/
def purgeExpiredLocators : QQProg Unit :=
  .atomically fun s => .ok ((), { s with journal := { s.journal with
    locators := s.journal.locators.filter fun l => s.now < l.expiresAt } })

end SQLiteQQSandboxJournal

end WeFlow
