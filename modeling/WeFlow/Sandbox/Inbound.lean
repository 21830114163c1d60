import WeFlow.Base.Json
import WeFlow.Ledger.Store

/-!
# `Inbound` — normalizing one QQ group mention

`normalize_qq_group_at_event`: the gate between a raw gateway frame and the Case ledger. A raw frame is a
JSON value; the functions of the standard library that turn text into text (hex digests, timestamps) are
parameters, gathered in `QQText`.

## Contents

* `containsForbiddenAuthority` — on decoded frames.
* `QQText`, `QQSandboxConfig` — text functions and the command-local configuration.
* `incidentText` — the mention's text without the leading mention.
* `normalizeQqGroupAtEvent`, `normalize_sequence` — the gate and the number it lets through.
-/

namespace WeFlow

/-! ## Frames -/

/-- Absent, `null` or an empty list. -/
def Json.isNoList : Option Json → Bool
  | none | some .null | some (.arr .nil) => true
  | _ => false

/-- Absent, `null` or an empty mapping. -/
def Json.isNoMapping : Option Json → Bool
  | none | some .null | some (.obj .nil) => true
  | _ => false

def forbiddenAuthorityFields : List String :=
  ["tenant_id", "caller_tenant_id", "role", "caller_role", "destination", "group_override",
   "message_body", "access_token", "client_secret", "authorization"]

/-- `str.lower` on the letters that can lower to ASCII: the Kelvin sign is the only one outside it. -/
def lowerChar (c : Char) : Char := if c = '\u212A' then 'k' else c.toLower

def isForbiddenAuthorityField (key : String) : Bool :=
  forbiddenAuthorityFields.any fun field => field.toList = key.toList.map lowerChar

mutual

/-- `_contains_forbidden_authority`. -/
def containsForbiddenAuthority : Json → Bool
  | .obj fields => fieldsContainForbiddenAuthority fields
  | .arr items => itemsContainForbiddenAuthority items
  | _ => false

def fieldsContainForbiddenAuthority : JsonFields → Bool
  | .nil => false
  | .cons key value rest =>
      isForbiddenAuthorityField key || containsForbiddenAuthority value ||
        fieldsContainForbiddenAuthority rest

def itemsContainForbiddenAuthority : JsonItems → Bool
  | .nil => false
  | .cons head tail => containsForbiddenAuthority head || itemsContainForbiddenAuthority tail

end

/-! ## Configuration -/

/-- The standard library's text functions: hex digests, and timestamps with an offset. -/
structure QQText where
  sha256Text : String → String
  hmacSha256 : String → String → String
  naturalKeyHex : Digest QQNaturalKey → String
  /-- The instant of an offset-aware ISO text; `none` where parsing fails or the text is naive. -/
  parseTimestamp : String → Option Instant
  timestamp : Instant → String

structure QQSandboxConfig where
  appId : String
  groupOpenid : String
  tenantId : String
  identitySalt : String
  capabilities : List String
  deriving DecidableEq, Repr

namespace QQSandboxConfig

variable (text : QQText) (config : QQSandboxConfig)

def appIdHash : String := text.sha256Text config.appId

def groupOpenidHash : String := text.sha256Text config.groupOpenid

def capabilityProfileHash : String := text.sha256Text ("|".intercalate config.capabilities)

end QQSandboxConfig

/-! ## The mention's text -/

/-- The characters of `str.isspace`, which `\s` and `str.strip` share. -/
def isSpace (c : Char) : Bool :=
  let n := c.toNat
  (9 ≤ n ∧ n ≤ 13) ∨ (28 ≤ n ∧ n ≤ 32) ∨ n = 133 ∨ n = 160 ∨ n = 5760 ∨ (8192 ≤ n ∧ n ≤ 8202) ∨
    n = 8232 ∨ n = 8233 ∨ n = 8239 ∨ n = 8287 ∨ n = 12288

/-- `[A-Za-z0-9._:-]`. -/
def isMessageIdChar (c : Char) : Bool :=
  c.isAlphanum ∨ c = '.' ∨ c = '_' ∨ c = ':' ∨ c = '-'

/-- `_MESSAGE_ID_PATTERN.fullmatch`. -/
def isMessageId (s : String) : Bool :=
  1 ≤ s.toList.length ∧ s.toList.length ≤ 256 ∧ s.toList.all isMessageIdChar

/-- What follows `<@!?[A-Za-z0-9._:-]+>`. -/
def afterAngleMention? : List Char → Option (List Char)
  | '<' :: '@' :: rest =>
      let name := if rest.head? = some '!' then rest.tail else rest
      match name.takeWhile isMessageIdChar, name.dropWhile isMessageIdChar with
      | _ :: _, '>' :: after => some after
      | _, _ => none
  | _ => none

/-- `_LEADING_MENTION.sub("", content, count=1)`. -/
def dropLeadingMention (content : List Char) : List Char :=
  let body := content.dropWhile isSpace
  let robot := "@机器人".toList
  if robot.isPrefixOf body then (body.drop robot.length).dropWhile isSpace
  else
    match afterAngleMention? body with
    | some after => after.dropWhile isSpace
    | none => content

/-- `str.strip`. -/
def strip (cs : List Char) : List Char :=
  ((cs.dropWhile isSpace).reverse.dropWhile isSpace).reverse

/-- `line.split()`. -/
def splitWords (line : List Char) : List (List Char) := (line.splitOnP isSpace).filter (· ≠ [])

def incidentText (content : String) : List Char := strip (dropLeadingMention content.toList)

/-! ## Normalization -/

/-- Why an event is rejected before anything is stored. -/
inductive QQEventReason where
  | authorityFieldForbidden | typeUnsupported | gatewaySequenceInvalid | shapeInvalid
  | groupNotAllowlisted | attachmentUnsupported | nonTextUnsupported | messageIdentityInvalid
  | senderIdentityInvalid | textRequired | pairingControlMessageReserved | timestampInvalid
  | gatewaySequenceOutOfOrder | gatewaySequenceGap
  deriving DecidableEq, Repr

inductive QQJournalReason where
  | intentIdentityMismatch | intentConflict | intentNotFound | locatorNotFound | writeFailed
  deriving DecidableEq, Repr

/-- What the sandbox raises: `ledger` stands for the ledger's errors other than `IntakeRejected`. -/
inductive QQError where
  | eventRejected (reason : QQEventReason)
  | intakeRejected (reason : LedgerError)
  | ledger (reason : LedgerError)
  | journal (reason : QQJournalReason)
  | contract
  | transport
  deriving DecidableEq, Repr

open Txn

/-- `_parse_timestamp`. -/
def parseEventTimestamp (text : QQText) (value : Option Json) : Except QQError Instant :=
  match value with
  | some (.str s) => fetch (text.parseTimestamp s) (.eventRejected .timestampInvalid)
  | _ => throw (.eventRejected .timestampInvalid)

/-- `frame.get(key)` when it is an `int` and not a `bool`. -/
def Json.int? : Option Json → Option Int
  | some (.int n) => some n
  | _ => none

/-- Python's `value == n`: a bool equals 0 or 1, a float may equal an integer. -/
def Json.equalsInt (n : Int) : Option Json → Bool
  | some (.int m) => m = n
  | some (.bool b) => (if b then 1 else 0) = n
  | some (.float value) => value = n
  | _ => false

theorem Json.equalsInt_other {n m : Int} {v : Option Json} (h : Json.equalsInt n v = true)
    (hne : n ≠ m) : Json.equalsInt m v = false := by
  cases v with
  | none => rfl
  | some v =>
      cases v with
      | int k =>
          have hk : k = n := of_decide_eq_true h
          exact decide_eq_false (hk ▸ hne)
      | bool b =>
          have hb : (if b then (1 : Int) else 0) = n := of_decide_eq_true h
          exact decide_eq_false (hb ▸ hne)
      | float value =>
          have hv : value = n := of_decide_eq_true h
          exact decide_eq_false fun hm => hne (Rat.intCast_inj.mp (hv.symm.trans hm))
      | null => rfl
      | str s => rfl
      | arr items => rfl
      | obj fields => rfl

def Json.str? : Option Json → Option String
  | some (.str s) => some s
  | _ => none

/-- `author.get("member_openid")` of a mapping, when it is a non-empty text. -/
def senderOpenid? (data : JsonFields) : Option String :=
  match data.get? "author" with
  | some author => (Json.str? (author.get? "member_openid")).filter nonEmpty
  | none => none

/-- `data.get("message_type", 0)` is the integer zero. -/
def isTextMessage (data : JsonFields) : Bool :=
  match data.get? "message_type" with
  | none => true
  | some (.int n) => n = 0
  | some _ => false

/-- The normalized event, once every check has passed. -/
def normalizedEvent (text : QQText) (config : QQSandboxConfig) (sourceMessageId senderOpenid : String)
    (incident : List Char) (sequence : Nat) (occurred received : Instant) : QQSandboxInboundEvent :=
  let groupHash := config.groupOpenidHash text
  let senderHash := text.hmacSha256 config.identitySalt (config.tenantId ++ "|" ++ senderOpenid)
  let naturalKey : Digest QQNaturalKey :=
    sha256 ⟨config.appIdHash text, groupHash, sourceMessageId, config.tenantId⟩
  { tenantId := config.tenantId, provider := "qq-sandbox", eventType := "GROUP_AT_MESSAGE_CREATE",
    appIdHash := config.appIdHash text, groupOpenidHash := groupHash, sourceMessageId,
    sourceMessageIdHash := sha256 sourceMessageId, senderOpenidHash := senderHash,
    conversationId := "qq-conversation:" ++ groupHash, customerId := "qq-customer:" ++ senderHash,
    gatewaySequence := sequence, occurredAt := text.timestamp occurred,
    receivedAt := text.timestamp received,
    correlationId := "qq-correlation:" ++ text.naturalKeyHex naturalKey,
    contentClassification := "qq-private-hash",
    contentSha256 := text.sha256Text (String.ofList incident), inboundNaturalKey := naturalKey }

/-- **`normalize_qq_group_at_event`**: one allowlisted group mention, without its readable content. -/
def normalizeQqGroupAtEvent (text : QQText) (config : QQSandboxConfig) (received : Instant)
    (rawEvent : Json) : Except QQError QQSandboxInboundEvent := do
  require (!containsForbiddenAuthority rawEvent) (.eventRejected .authorityFieldForbidden)
  require (Json.str? (rawEvent.get? "t") = some "GROUP_AT_MESSAGE_CREATE")
    (.eventRejected .typeUnsupported)
  let sequence ← fetch (Json.int? (rawEvent.get? "s")) (.eventRejected .gatewaySequenceInvalid)
  require (1 ≤ sequence) (.eventRejected .gatewaySequenceInvalid)
  match rawEvent.get? "d" with
  | some (.obj data) => do
      require (Json.str? (data.get? "group_openid") = some config.groupOpenid)
        (.eventRejected .groupNotAllowlisted)
      require (Json.isNoList (data.get? "attachments")) (.eventRejected .attachmentUnsupported)
      require (isTextMessage data) (.eventRejected .nonTextUnsupported)
      require (Json.isNoMapping (data.get? "ark_data") && Json.isNoList (data.get? "msg_elements"))
        (.eventRejected .nonTextUnsupported)
      let sourceMessageId ← fetch ((Json.str? (data.get? "id")).filter isMessageId)
        (.eventRejected .messageIdentityInvalid)
      let senderOpenid ← fetch (senderOpenid? data) (.eventRejected .senderIdentityInvalid)
      let content ← fetch (Json.str? (data.get? "content")) (.eventRejected .textRequired)
      let incident := incidentText content
      require (!incident.isEmpty) (.eventRejected .textRequired)
      require (!"WFPAIR-".toList.isPrefixOf incident)
        (.eventRejected .pairingControlMessageReserved)
      let occurred ← parseEventTimestamp text (data.get? "timestamp")
      require (occurred ≤ received) (.eventRejected .timestampInvalid)
      let normalized := normalizedEvent text config sourceMessageId senderOpenid incident
        sequence.toNat occurred received
      require (validateQqSandboxInboundEvent normalized) .contract
      pure normalized
  | _ => throw (.eventRejected .shapeInvalid)

/-- **The gate passes the frame's own number on**, in a valid event of the configured tenant. -/
theorem normalize_sequence {text : QQText} {config : QQSandboxConfig} {received : Instant}
    {rawEvent : Json} {inbound : QQSandboxInboundEvent}
    (h : normalizeQqGroupAtEvent text config received rawEvent = .ok inbound) :
    Json.int? (rawEvent.get? "s") = some (inbound.gatewaySequence : Int) ∧
      inbound.tenantId = config.tenantId ∧ validateQqSandboxInboundEvent inbound = true := by
  simp only [normalizeQqGroupAtEvent, require_bind_eq_ok, fetch_bind_eq_ok] at h
  obtain ⟨-, -, sequence, hseq, hpos, h⟩ := h
  have hpos : 1 ≤ sequence := of_decide_eq_true hpos
  split at h
  · simp only [require_bind_eq_ok, fetch_bind_eq_ok] at h
    obtain ⟨-, -, -, -, _, -, _, -, _, -, -, -, h⟩ := h
    obtain ⟨_, -, h⟩ := bind_eq_ok.mp h
    simp only [require_bind_eq_ok] at h
    obtain ⟨-, hvalid, hret⟩ := h
    obtain rfl := Except.ok.inj hret
    have hcast : (sequence.toNat : Int) = sequence := Int.toNat_of_nonneg (by omega)
    exact ⟨by rw [hseq]; exact congrArg some hcast.symm, rfl, hvalid⟩
  · cases h

theorem validateQqSandboxInboundEvent_iff {p : QQSandboxInboundEvent}
    (h : validateQqSandboxInboundEvent p = true) :
    nonEmpty p.tenantId = true ∧ 1 ≤ p.gatewaySequence := by
  simp only [validateQqSandboxInboundEvent, decide_eq_true_eq] at h
  exact ⟨h.1, h.2.2.2.2.2.2.2.2.2.1⟩

end WeFlow
