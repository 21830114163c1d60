import WeFlow.Base.Interleaving
import WeFlow.Base.Table
import WeFlow.Base.Timestamp
import WeFlow.Sandbox.Inbound

/-!
# `Journal` — the pairing journal

`SQLiteQQPairingJournal`: the challenges, their append-only lifecycle, the completions and the locators of
paired groups. A method that opens no transaction of its own commits each of its statements.

## Contents

* rows and their uniqueness constraints, `QQPairingWorld`.
* `recordChallenge`, `complete`, `expireChallenge` — one transaction each, after the clock is read.
* `revoke`, `purgeExpired`, `resolve`, `recordSequence` — statement by statement.
-/

namespace WeFlow

open Txn

/-! ## Rows -/

/-- The material of a challenge's identifier. -/
structure QQPairingChallengeMaterial where
  appIdHash : String
  tenantIdHash : String
  challengeSha256 : String
  createdAt : Instant
  deriving DecidableEq, Repr

abbrev QQPairingChallengeId := StableId QQPairingChallengeMaterial

/-- A row of `qq_pairing_challenges`. -/
structure QQPairingChallengeRecord where
  challengeId : QQPairingChallengeId
  challengeSha256 : String
  appIdHash : String
  tenantId : String
  tenantIdHash : String
  capabilityProfileHash : String
  createdAt : Instant
  deadlineAt : Instant
  deriving DecidableEq, Repr

/-- The material of a pairing's identifier. -/
structure QQPairingMaterial where
  challengeSha256 : String
  appIdHash : String
  tenantIdHash : String
  groupOpenidHash : String
  sourceMessageIdHash : String
  deriving DecidableEq, Repr

abbrev QQPairingId := StableId QQPairingMaterial

inductive QQPairingStatus where
  | pending | cancelled | expired | conflict | completed | revoked
  deriving DecidableEq, Repr

/-- A row of `qq_pairing_lifecycle`; the digest that keys it is of the whole row. -/
structure QQPairingLifecycle where
  challengeId : QQPairingChallengeId
  pairingId : Option QQPairingId
  status : QQPairingStatus
  reasonCode : String
  recordedAt : Instant
  deriving DecidableEq, Repr

structure QQPairingCompletionMaterial where
  pairingId : QQPairingId
  challengeId : QQPairingChallengeId
  deriving DecidableEq, Repr

/-- A row of `qq_pairing_completions`. -/
structure QQPairingCompletion where
  completionId : StableId QQPairingCompletionMaterial
  challengeId : QQPairingChallengeId
  pairingId : QQPairingId
  tenantId : String
  tenantIdHash : String
  appIdHash : String
  groupOpenidHash : String
  sourceMessageIdHash : String
  sessionIdHash : Option String
  gatewaySequence : Nat
  completedAt : Instant
  expiresAt : Instant
  deriving DecidableEq, Repr

inductive QQPairingLocatorStatus where
  | completed | revoked | expired
  deriving DecidableEq, Repr

/-- A row of `qq_pairing_locators`. -/
structure QQPairingLocator where
  pairingId : QQPairingId
  appIdHash : String
  tenantId : String
  tenantIdHash : String
  groupOpenid : String
  groupOpenidHash : String
  expiresAt : Instant
  status : QQPairingLocatorStatus
  deriving DecidableEq, Repr

structure QQPairingCursor where
  appIdHash : String
  tenantIdHash : String
  sessionIdHash : String
  sequence : Nat
  updatedAt : Instant
  deriving DecidableEq, Repr

/-- `challenge_id` is the primary key, `challenge_sha256` is unique. -/
def QQPairingChallengeRecord.clash (a b : QQPairingChallengeRecord) : Bool :=
  a.challengeId = b.challengeId ∨ a.challengeSha256 = b.challengeSha256

/-- `completion_id` is the primary key, `challenge_id` is unique. -/
def QQPairingCompletion.clash (a b : QQPairingCompletion) : Bool :=
  a.completionId = b.completionId ∨ a.challengeId = b.challengeId

def QQPairingLocator.clash (a b : QQPairingLocator) : Bool := a.pairingId = b.pairingId

def QQPairingCursor.key (c : QQPairingCursor) : String × String × String :=
  (c.appIdHash, c.tenantIdHash, c.sessionIdHash)

/-- The database file and the clock that every process reads. -/
structure QQPairingWorld where
  now : Instant
  challenges : List QQPairingChallengeRecord
  lifecycle : List QQPairingLifecycle
  completions : List QQPairingCompletion
  locators : List QQPairingLocator
  cursors : List QQPairingCursor
  deriving DecidableEq, Repr

/-- What the pairing raises: the three classes of `QQPairingError`, and what the validators and the database
    raise. -/
inductive QQPairingError where
  | activationDenied (reasonCode : String)
  | eventRejected (reasonCode : String)
  | journal (reasonCode : String)
  | contract
  | integrity
  deriving DecidableEq, Repr

abbrev QQPairingProg := Prog QQPairingWorld QQPairingError

namespace QQPairingWorld

def empty : QQPairingWorld := ⟨0, [], [], [], [], []⟩

variable (s : QQPairingWorld)

/-- The newest lifecycle status of a challenge: `ORDER BY rowid DESC LIMIT 1`. -/
def latestStatus? (id : QQPairingChallengeId) : Option QQPairingStatus :=
  ((s.lifecycle.filter fun l => l.challengeId = id).getLast?).map (·.status)

def completionOf? (id : QQPairingChallengeId) : Option QQPairingCompletion :=
  s.completions.find? fun c => c.challengeId = id

/-- `_lifecycle`: `INSERT OR IGNORE`. -/
def addLifecycle (id : QQPairingChallengeId) (status : QQPairingStatus) (reasonCode : String)
    (pairingId : Option QQPairingId) : QQPairingWorld :=
  let row : QQPairingLifecycle := ⟨id, pairingId, status, reasonCode, s.now⟩
  { s with lifecycle := if row ∈ s.lifecycle then s.lifecycle else s.lifecycle ++ [row] }

end QQPairingWorld

namespace SQLiteQQPairingJournal

/-! ## Challenges -/

/-- `pairing_restart_new_challenge`: a challenge that is pending is cancelled. -/
def cancelPending (s : QQPairingWorld) (id : QQPairingChallengeId) : QQPairingWorld :=
  if s.latestStatus? id = some .pending then
    s.addLifecycle id .cancelled "pairing_restart_new_challenge" none
  else s

/-- The challenges of an application and a tenant. -/
def challengesOf (appIdHash tenantIdHash : String) (s : QQPairingWorld) : List QQPairingChallengeRecord :=
  s.challenges.filter fun c => c.appIdHash = appIdHash ∧ c.tenantIdHash = tenantIdHash

/-- The transaction of `record_challenge`. -/
def insertChallenge (record : QQPairingChallengeRecord) (s : QQPairingWorld) :
    Except QQPairingError (Unit × QQPairingWorld) := do
  let cancelled := ((challengesOf record.appIdHash record.tenantIdHash s).map (·.challengeId)).foldl
    cancelPending s
  let challenges ← fetch (Table.insert? QQPairingChallengeRecord.clash record cancelled.challenges) .integrity
  pure ((), { cancelled with challenges }.addLifecycle record.challengeId .pending
    "pairing_challenge_created" none)

/-- What `validate_qq_group_pairing_challenge` asks of a record beyond what it is made with. -/
def validChallenge (record : QQPairingChallengeRecord) : Bool :=
  1 ≤ record.tenantId.length ∧ record.tenantId.length ≤ 128 ∧ record.createdAt < record.deadlineAt

def recordChallenge (record : QQPairingChallengeRecord) : QQPairingProg Unit := do
  .check (validChallenge record) .contract
  .atomically (insertChallenge record)

/-- `expire_challenge`: one terminal event of a challenge that is pending. -/
def insertExpiry (id : QQPairingChallengeId) (s : QQPairingWorld) :
    Except QQPairingError (Except QQPairingError Unit × QQPairingWorld) :=
  match s.latestStatus? id with
  | none => .ok (.error (.journal "pairing_challenge_missing"), s)
  | some .expired => .ok (.ok (), s)
  | some .pending => .ok (.ok (), s.addLifecycle id .expired "pairing_challenge_expired" none)
  | some _ => .ok (.error (.journal "pairing_challenge_not_pending"), s)

def expireChallenge (id : QQPairingChallengeId) : QQPairingProg (Except QQPairingError Unit) :=
  .atomically (insertExpiry id)

/-! ## Completions -/

def qqPairingLocatorTtl : Nat := 86400 * 1000000

/-- What `normalize_pairing_event` makes of a matching mention. -/
structure QQObservedPairing where
  groupOpenid : String
  groupOpenidHash : String
  sourceMessageIdHash : String
  gatewaySequence : Nat
  occurredAt : Instant
  deriving DecidableEq, Repr

def pairingIdOf (challenge : QQPairingChallengeRecord) (observed : QQObservedPairing) : QQPairingId :=
  stableIdentifier ⟨challenge.challengeSha256, challenge.appIdHash, challenge.tenantIdHash,
    observed.groupOpenidHash, observed.sourceMessageIdHash⟩

def completionOf (challenge : QQPairingChallengeRecord) (observed : QQObservedPairing)
    (sessionIdHash : Option String) (now : Instant) : QQPairingCompletion :=
  { completionId := stableIdentifier ⟨pairingIdOf challenge observed, challenge.challengeId⟩,
    challengeId := challenge.challengeId, pairingId := pairingIdOf challenge observed,
    tenantId := challenge.tenantId, tenantIdHash := challenge.tenantIdHash,
    appIdHash := challenge.appIdHash, groupOpenidHash := observed.groupOpenidHash,
    sourceMessageIdHash := observed.sourceMessageIdHash, sessionIdHash,
    gatewaySequence := observed.gatewaySequence, completedAt := now,
    expiresAt := now + qqPairingLocatorTtl }

def locatorOf (completion : QQPairingCompletion) (groupOpenid : String) : QQPairingLocator :=
  { pairingId := completion.pairingId, appIdHash := completion.appIdHash, tenantId := completion.tenantId,
    tenantIdHash := completion.tenantIdHash, groupOpenid, groupOpenidHash := completion.groupOpenidHash,
    expiresAt := completion.expiresAt, status := .completed }

/-- How the transaction of `complete` ends. -/
inductive CompletionAttempt where
  | prior (completion : QQPairingCompletion)
  | differentGroup (pairingId : QQPairingId)
  | bindingConflict
  | completed
  deriving DecidableEq, Repr

/-- The locator that SQL takes for current at the rendered `now`. -/
def currentLocator? (appIdHash tenantIdHash : String) (now : Instant) (s : QQPairingWorld) :
    Option QQPairingLocator :=
  s.locators.find? fun l => l.appIdHash = appIdHash ∧ l.tenantIdHash = tenantIdHash ∧
    l.status = .completed ∧ renderedBefore now l.expiresAt

/-- The transaction of `complete`. -/
def insertPairing (completion : QQPairingCompletion) (groupOpenid : String) (now : Instant)
    (s : QQPairingWorld) : Except QQPairingError (CompletionAttempt × QQPairingWorld) :=
  match s.completionOf? completion.challengeId with
  | some prior =>
      if prior.groupOpenidHash = completion.groupOpenidHash ∧
          prior.sourceMessageIdHash = completion.sourceMessageIdHash then .ok (.prior prior, s)
      else .ok (.differentGroup prior.pairingId, s)
  | none =>
      if (currentLocator? completion.appIdHash completion.tenantIdHash now s).any fun l =>
          l.pairingId ≠ completion.pairingId then
        .ok (.bindingConflict,
          s.addLifecycle completion.challengeId .conflict "pairing_current_binding_conflict" none)
      else do
        let completions ← fetch (Table.insert? QQPairingCompletion.clash completion s.completions) .integrity
        let locators ← fetch (Table.insert? QQPairingLocator.clash (locatorOf completion groupOpenid)
          s.locators) .integrity
        pure (.completed, { s with completions, locators }.addLifecycle completion.challengeId .completed
          "pairing_exact_challenge_completed" (some completion.pairingId))

/-- **`complete`**. -/
def complete (challenge : QQPairingChallengeRecord) (observed : QQObservedPairing)
    (sessionIdHash : Option String) : QQPairingProg (Except QQPairingError QQPairingCompletion) := do
  let now ← .observe QQPairingWorld.now
  let completion := completionOf challenge observed sessionIdHash now
  let attempt ← .atomically (insertPairing completion observed.groupOpenid now)
  match attempt with
  | .prior completion => pure (.ok completion)
  | .differentGroup pairingId => do
      .atomically fun s => .ok ((), s.addLifecycle challenge.challengeId .conflict
        "pairing_different_group_conflict" (some pairingId))
      pure (.error (.journal "pairing_different_group_conflict"))
  | .bindingConflict => pure (.error (.journal "pairing_current_binding_conflict"))
  | .completed => pure (.ok completion)

/-! ## Locators -/

/-- `UPDATE … SET status='REVOKED' WHERE pairing_id=? AND status='COMPLETED'`, with its row count. -/
def revokeLocator (id : QQPairingId) (s : QQPairingWorld) :
    Except QQPairingError (Nat × QQPairingWorld) :=
  let current (l : QQPairingLocator) : Bool := l.pairingId = id ∧ l.status = .completed
  .ok ((s.locators.filter current).length,
    { s with locators := Table.modify current (fun l => { l with status := .revoked }) s.locators })

/-- `revoke`: the completion is read, the locator is written and the event is added one after the other. -/
def revoke (id : QQPairingId) : QQPairingProg (Except QQPairingError Unit) := do
  let row ← .observe fun s : QQPairingWorld => s.completions.find? fun c => c.pairingId = id
  let changed ← .atomically (revokeLocator id)
  match row with
  | none => pure (.error (.journal "pairing_locator_not_current"))
  | some completion =>
      if changed = 0 then pure (.error (.journal "pairing_locator_not_current"))
      else do
        .atomically fun s => .ok ((), s.addLifecycle completion.challengeId .revoked
          "pairing_locally_revoked" (some id))
        pure (.ok ())

/-- `UPDATE … SET group_openid='',status='EXPIRED' WHERE pairing_id=?`. -/
def expireLocator (id : QQPairingId) (s : QQPairingWorld) : Except QQPairingError (Unit × QQPairingWorld) :=
  let expired (l : QQPairingLocator) : QQPairingLocator := { l with groupOpenid := "", status := .expired }
  .ok ((), { s with locators := Table.modify (fun l => l.pairingId = id) expired s.locators })

def expireLocators : List QQPairingId → QQPairingProg Unit
  | [] => pure ()
  | id :: rest => do
      .atomically (expireLocator id)
      expireLocators rest

/-- `purge_expired`. -/
def purgeExpired : QQPairingProg Nat := do
  let cutoff ← .observe QQPairingWorld.now
  let ids ← .observe fun s => (s.locators.filter fun l =>
    !renderedBefore cutoff l.expiresAt ∧ l.status = .completed).map (·.pairingId)
  expireLocators ids
  pure ids.length

/-- `resolve`: the locator, once those that have expired are purged. -/
def resolve (id : QQPairingId) (appIdHash : String) :
    QQPairingProg (Except QQPairingError QQPairingLocator) := do
  let _ ← purgeExpired
  let row ← .observe fun s : QQPairingWorld => s.locators.find? fun l => l.pairingId = id
  match row with
  | none => pure (.error (.journal "pairing_locator_missing"))
  | some l =>
      if l.appIdHash ≠ appIdHash then pure (.error (.journal "pairing_application_mismatch"))
      else if l.status ≠ .completed then pure (.error (.journal "pairing_locator_not_current"))
      else pure (.ok l)

/-- `record_sequence`: the cursor is read and then written. -/
def recordSequence (appIdHash tenantIdHash sessionIdHash : String) (sequence : Nat) :
    QQPairingProg (Except QQPairingError Unit) := do
  let now ← .observe QQPairingWorld.now
  let row ← .observe fun s => s.cursors.find? fun c => c.key = (appIdHash, tenantIdHash, sessionIdHash)
  match row.map (·.sequence) with
  | some last =>
      if sequence > last + 1 then pure (.error (.journal "pairing_sequence_gap"))
      else if sequence < last then pure (.error (.journal "pairing_sequence_out_of_order"))
      else writeSequence now
  | none => writeSequence now
where
  /-- `INSERT … ON CONFLICT DO UPDATE`. -/
  writeSequence (now : Instant) : QQPairingProg (Except QQPairingError Unit) := do
    let row : QQPairingCursor := ⟨appIdHash, tenantIdHash, sessionIdHash, sequence, now⟩
    .atomically fun s => .ok ((), { s with cursors := Table.upsert QQPairingCursor.key (fun _ new => new) row s.cursors })
    pure (.ok ())

end SQLiteQQPairingJournal

end WeFlow
