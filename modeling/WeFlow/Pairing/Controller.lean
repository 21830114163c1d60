import WeFlow.Pairing.Journal

/-!
# `Controller` — pairing controllers over one journal

`create_pairing_challenge`, `normalize_pairing_event` and `QQGroupPairingController`. A controller is a process
that makes a challenge, records it, and is then handed events until it is killed; the plaintext of its challenge
is in its memory only. Any number of controllers, operators that revoke and readers that resolve share one
journal.

## Contents

* `createPairingChallenge`, `normalizePairingEvent`, `QQGroupPairingController.accept`.
* `QQPairingOp`, `QQPairingSys` — the processes, and their runs from an empty journal.
-/

namespace WeFlow

open Txn SQLiteQQPairingJournal

structure QQGroupPairingConfig where
  appId : String
  tenantId : String
  capabilities : List String
  deriving DecidableEq, Repr

variable (text : QQText)

namespace QQGroupPairingConfig

variable (config : QQGroupPairingConfig)

def appIdHash : String := text.sha256Text config.appId

def tenantIdHash : String := text.sha256Text config.tenantId

def capabilityProfileHash : String := text.sha256Text ("|".intercalate config.capabilities)

end QQGroupPairingConfig

/-! ## Challenges -/

def qqPairingChallengePrefix : String := "WFPAIR-"

def qqPairingDeadline : Nat := 300 * 1000000

/-- The plaintext is never stored. -/
structure QQPairingChallenge where
  plaintext : String
  record : QQPairingChallengeRecord
  deriving DecidableEq, Repr

def challengeRecord (config : QQGroupPairingConfig) (plaintext : String) (created : Instant) :
    QQPairingChallengeRecord :=
  let digest := text.sha256Text plaintext
  { challengeId := stableIdentifier ⟨config.appIdHash text, config.tenantIdHash text, digest, created⟩,
    challengeSha256 := digest, appIdHash := config.appIdHash text, tenantId := config.tenantId,
    tenantIdHash := config.tenantIdHash text,
    capabilityProfileHash := config.capabilityProfileHash text, createdAt := created,
    deadlineAt := created + qqPairingDeadline }

/-- `create_pairing_challenge`, for the token that the token factory returns. -/
def createPairingChallenge (config : QQGroupPairingConfig) (token : String) :
    QQPairingProg QQPairingChallenge := do
  .check (22 ≤ token.utf8ByteSize) (.activationDenied "pairing_challenge_entropy_insufficient")
  let created ← .observe QQPairingWorld.now
  let plaintext := qqPairingChallengePrefix ++ token
  let record := challengeRecord text config plaintext created
  .check (validChallenge record) .contract
  pure ⟨plaintext, record⟩

/-! ## Events -/

/-- `data.get("message_type", 0) != 0` is false. -/
def isPlainMessage (data : JsonFields) : Bool :=
  match data.get? "message_type" with
  | none => true
  | some value => Json.equalsInt 0 (some value)

/-- `" ".join(_MENTION.sub("", content, count=1).strip().split())`. -/
def pairingText (content : String) : List Char :=
  List.intercalate [' '] (splitWords (incidentText content))

/-- `normalize_pairing_event`. -/
def normalizePairingEvent (rawEvent : Json) (expectedPlaintext : String) (now deadlineAt : Instant) :
    Except QQPairingError QQObservedPairing := do
  require (Json.str? (rawEvent.get? "t") = some "GROUP_AT_MESSAGE_CREATE")
    (.eventRejected "pairing_event_type_unsupported")
  let sequence ← fetch (Json.int? (rawEvent.get? "s")) (.eventRejected "pairing_sequence_invalid")
  require (1 ≤ sequence) (.eventRejected "pairing_sequence_invalid")
  match rawEvent.get? "d" with
  | some (.obj data) => do
      require (Json.isNoList (data.get? "attachments") && Json.isNoMapping (data.get? "ark_data") &&
        Json.isNoList (data.get? "msg_elements")) (.eventRejected "pairing_plain_text_required")
      require (isPlainMessage data) (.eventRejected "pairing_plain_text_required")
      let group ← fetch ((Json.str? (data.get? "group_openid")).filter nonEmpty)
        (.eventRejected "pairing_group_identity_invalid")
      let message ← fetch ((Json.str? (data.get? "id")).filter isMessageId)
        (.eventRejected "pairing_message_identity_invalid")
      let _ ← fetch (senderOpenid? data) (.eventRejected "pairing_member_identity_invalid")
      let content ← fetch (Json.str? (data.get? "content")) (.eventRejected "pairing_plain_text_required")
      require (pairingText content = expectedPlaintext.toList) (.eventRejected "pairing_challenge_mismatch")
      require (now ≤ deadlineAt) (.eventRejected "pairing_challenge_expired")
      let occurred ← fetch ((Json.str? (data.get? "timestamp")).bind text.parseTimestamp)
        (.eventRejected "pairing_timestamp_invalid")
      require (occurred ≤ now) (.eventRejected "pairing_timestamp_invalid")
      pure { groupOpenid := group, groupOpenidHash := text.sha256Text group,
             sourceMessageIdHash := text.sha256Text message, gatewaySequence := sequence.toNat,
             occurredAt := occurred }
  | _ => throw (.eventRejected "pairing_event_shape_invalid")

namespace QQGroupPairingController

variable (config : QQGroupPairingConfig) (challenge : QQPairingChallenge)

/-- The gateway's number of the event, for a session that has an identifier. -/
def recordSessionSequence (sessionId : Option String) (sequence : Nat) :
    QQPairingProg (Except QQPairingError Unit) :=
  match sessionId.filter nonEmpty with
  | some session =>
      recordSequence (config.appIdHash text) (config.tenantIdHash text) (text.sha256Text session) sequence
  | none => pure (.ok ())

/-- **`accept`**. -/
def accept (rawEvent : Json) (sessionId : Option String) :
    QQPairingProg (Except QQPairingError QQPairingCompletion) := do
  let now ← .observe QQPairingWorld.now
  match normalizePairingEvent text rawEvent challenge.plaintext now challenge.record.deadlineAt with
  | .error e => pure (.error e)
  | .ok observed => do
      let recorded ← recordSessionSequence text config sessionId observed.gatewaySequence
      match recorded with
      | .error e => pure (.error e)
      | .ok () =>
          complete challenge.record observed ((sessionId.filter nonEmpty).map text.sha256Text)

def expire : QQPairingProg (Except QQPairingError Unit) := expireChallenge challenge.record.challengeId

end QQGroupPairingController

/-! ## The processes -/

/-- What a controller is asked. -/
inductive QQPairingCall where
  | accept (rawEvent : Json) (sessionId : Option String)
  | expire

def QQPairingCall.prog (config : QQGroupPairingConfig) (challenge : QQPairingChallenge) :
    QQPairingCall → QQPairingProg Unit
  | .accept rawEvent sessionId => do
      let _ ← QQGroupPairingController.accept text config challenge rawEvent sessionId
      pure ()
  | .expire => do
      let _ ← QQGroupPairingController.expire challenge
      pure ()

/-- A controller outlives the events it rejects and the conflicts it meets. -/
def serve (config : QQGroupPairingConfig) (challenge : QQPairingChallenge) :
    List QQPairingCall → QQPairingProg Unit
  | [] => pure ()
  | call :: rest => do
      call.prog text config challenge
      serve config challenge rest

inductive QQPairingOp where
  | controller (config : QQGroupPairingConfig) (token : String) (calls : List QQPairingCall)
  | revoke (id : QQPairingId)
  | resolve (id : QQPairingId) (appIdHash : String)
  | purgeExpired

def QQPairingOp.prog : QQPairingOp → QQPairingProg Unit
  | .controller config token calls => do
      let challenge ← createPairingChallenge text config token
      recordChallenge challenge.record
      serve text config challenge calls
  | .revoke id => do
      let _ ← SQLiteQQPairingJournal.revoke id
      pure ()
  | .resolve id appIdHash => do
      let _ ← SQLiteQQPairingJournal.resolve id appIdHash
      pure ()
  | .purgeExpired => do
      let _ ← SQLiteQQPairingJournal.purgeExpired
      pure ()

/-- The clock advances by `d` microseconds. -/
def qqPairingElapse (d : Nat) (s : QQPairingWorld) : QQPairingWorld := { s with now := s.now + d }

abbrev QQPairingAction := Action QQPairingOp Nat

abbrev QQPairingSys := Sys QQPairingWorld QQPairingError Unit

/-- A run of the processes from an empty journal. -/
def QQPairingSys.run (actions : List QQPairingAction) : QQPairingSys :=
  Sys.run (QQPairingOp.prog text) qqPairingElapse ⟨.empty, []⟩ actions

end WeFlow
