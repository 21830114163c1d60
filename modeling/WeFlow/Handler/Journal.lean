import WeFlow.Handler.Records

/-!
# `Journal` — bindings, cases, candidates and approvals of the QQ handler

The methods of `SQLiteQQHandlerJournal` that change a binding, an artifact, a case or an approval. A method
is a program: what it does under one `BEGIN IMMEDIATE` is one transaction, a definition of its own, and what
it reads before that (the clock among it) is as old as the read.

## Contents

* `confirmHandlerBinding`, `revokeHandlerBinding`, `activeBinding`, `privateLocator`.
* `createIssueArtifact`, `artifactContent`, `deleteArtifacts`.
* `createCandidateAndRequest`, `transitionSimpleCommand`, `approveRequest`.
-/

namespace WeFlow

open Txn

/-! ## Lifetimes, in microseconds -/

/-- `QQ_HANDLER_BINDING_TTL_SECONDS`. -/
def handlerBindingTtl : Nat := 86400 * 1000000

/-- `QQ_HANDLER_ARTIFACT_TTL_SECONDS`. -/
def handlerArtifactTtl : Nat := 86400 * 1000000

/-- The ten minutes an approval request stays open. -/
def approvalRequestTtl : Nat := 600 * 1000000

/-! ## Uniqueness constraints -/

def QQHandlerBinding.clash (a b : QQHandlerBinding) : Bool :=
  a.handlerBindingId = b.handlerBindingId ∨ a.pairingSessionId = b.pairingSessionId

def HandlerPrivateLocator.clash (a b : HandlerPrivateLocator) : Bool :=
  a.handlerBindingId = b.handlerBindingId

def HandlerArtifact.clash (a b : HandlerArtifact) : Bool := a.artifactId = b.artifactId

def HandlerArtifactContent.clash (a b : HandlerArtifactContent) : Bool := a.artifactId = b.artifactId

/-- The digest that keys a lifecycle row has its reason only if the row schedules a deletion. -/
def ArtifactLifecycle.clash (a b : ArtifactLifecycle) : Bool :=
  a.artifactId = b.artifactId ∧ a.status = b.status ∧ a.recordedAt = b.recordedAt ∧
    (a.status = .deletionScheduled → a.reasonCode = b.reasonCode)

def HandlerCase.clash (a b : HandlerCase) : Bool := a.caseId = b.caseId

def HandlerCandidateRevision.clash (a b : HandlerCandidateRevision) : Bool :=
  a.candidateRevisionId = b.candidateRevisionId

def HandlerApprovalRequest.clash (a b : HandlerApprovalRequest) : Bool :=
  a.approvalRequestId = b.approvalRequestId

def HandlerApprovalDecision.clash (a b : HandlerApprovalDecision) : Bool :=
  a.approvalDecisionId = b.approvalDecisionId ∨ a.approvalRequestId = b.approvalRequestId

def StoredHandlerCommand.clash (a b : StoredHandlerCommand) : Bool :=
  a.sourceMessageIdHash = b.sourceMessageIdHash

namespace ArtifactLog

/-- `INSERT OR IGNORE` of a lifecycle row. -/
def append (log : ArtifactLog) (l : ArtifactLifecycle) : ArtifactLog :=
  { log with lifecycle := (Table.insert? ArtifactLifecycle.clash l log.lifecycle).getD log.lifecycle }

/-- `_event` of a deletion. -/
def addDeletion (log : ArtifactLog) (e : ArtifactDeletion) : ArtifactLog :=
  if e ∈ log.deletions then log else { log with deletions := log.deletions ++ [e] }

end ArtifactLog

/-- `create_candidate_and_request` sets `DRAFTED`, the next version and the two pointers. -/
def HandlerCase.drafted (request : HandlerApprovalRequest) (c : HandlerCase) : HandlerCase :=
  { c with
    workflowVersion := request.workflowVersion, status := .drafted,
    currentCandidateRevisionId := some request.candidateRevisionId,
    currentApprovalRequestId := some request.approvalRequestId }

namespace SQLiteQQHandlerJournal

variable (text : HandlerText)

/-! ## Bindings -/

/-- What a pairing session has observed when the operator confirms it. -/
structure ConfirmedPairing where
  pairingSessionId : String
  groupMemberIdentityHash : String
  c2cUserIdentityHash : String
  c2cUserOpenid : String
  deriving DecidableEq, Repr

/-- The binding `confirm_handler_binding` builds. -/
def confirmedBinding (config : QQHandlerConfig) (pairing : ConfirmedPairing) (now : Instant) :
    QQHandlerBinding :=
  { handlerBindingId := stableIdentifier ⟨pairing.pairingSessionId, pairing.groupMemberIdentityHash,
      pairing.c2cUserIdentityHash, now⟩,
    pairingSessionId := pairing.pairingSessionId, stage1PairingId := config.stage1PairingId,
    tenantId := config.tenantId, tenantIdHash := config.tenantIdHash text,
    appIdHash := config.appIdHash text, groupOpenidHash := config.groupOpenidHash text,
    groupMemberIdentityHash := pairing.groupMemberIdentityHash,
    c2cUserIdentityHash := pairing.c2cUserIdentityHash,
    capabilityProfileHash := config.capabilityProfileHash text, expiresAt := now + handlerBindingTtl }

/-- The transaction of `confirm_handler_binding`. -/
def insertBinding (config : QQHandlerConfig) (pairing : ConfirmedPairing) (now : Instant)
    (s : HandlerWorld) : Except HandlerError (QQHandlerBinding × HandlerWorld) :=
  match s.bindings.find? fun b => b.pairingSessionId = pairing.pairingSessionId with
  | some existing => .ok (existing, s)
  | none => do
      let binding := confirmedBinding text config pairing now
      require (!s.bindings.any fun b => b.appIdHash = binding.appIdHash ∧
        b.tenantIdHash = binding.tenantIdHash ∧ b.groupOpenidHash = binding.groupOpenidHash ∧
        renderedBefore now b.expiresAt ∧ !s.revoked b.handlerBindingId)
        (.denied "handler_unauthorized_rebinding")
      let bindings ← fetch (Table.insert? QQHandlerBinding.clash binding s.bindings) .integrity
      let locator : HandlerPrivateLocator :=
        ⟨binding.handlerBindingId, pairing.c2cUserOpenid, binding.expiresAt, true⟩
      let locators ← fetch (Table.insert? HandlerPrivateLocator.clash locator s.locators) .integrity
      pure (binding, { s with bindings, locators })

/-- `confirm_handler_binding`, for a session whose two challenges have been observed in time. -/
def confirmHandlerBinding (config : QQHandlerConfig) (pairing : ConfirmedPairing) :
    HandlerProg QQHandlerBinding := do
  let now ← .observe HandlerWorld.now
  .atomically (insertBinding text config pairing now)

/-- The transaction of `revoke_handler_binding`. -/
def insertRevocation (config : QQHandlerConfig) (id : HandlerBindingId) (now : Instant)
    (s : HandlerWorld) : Except HandlerError (Unit × HandlerWorld) := do
  let binding ← fetch (s.binding? id) (.denied "handler_binding_inactive")
  require (binding.appIdHash = config.appIdHash text ∧ binding.tenantIdHash = config.tenantIdHash text ∧
    binding.groupOpenidHash = config.groupOpenidHash text) (.denied "handler_revocation_scope_mismatch")
  if s.revoked id then pure ((), s)
  else do
    require (now < binding.expiresAt) (.denied "handler_binding_inactive")
    let locators := Table.modify (fun l => l.handlerBindingId = id ∧ l.active)
      (fun l => { l with providerLocator := "", active := false }) s.locators
    pure ((), { s with locators }.addEvent
      ⟨.inl id, .bindingRevoked, none, "handler_binding_revoked_by_local_operator", none, s.now⟩)

/-- `revoke_handler_binding`, confirmed by the operator. -/
def revokeHandlerBinding (config : QQHandlerConfig) (id : HandlerBindingId) : HandlerProg Unit := do
  let now ← .observe HandlerWorld.now
  .atomically (insertRevocation text config id now)

/-- `active_binding`. -/
def activeBinding (id : HandlerBindingId) : HandlerProg QQHandlerBinding := do
  let row ← .observe fun s => s.binding? id
  let revoked ← .observe fun s => s.revoked id
  let now ← .observe HandlerWorld.now
  let binding ← .need row (.denied "handler_binding_inactive")
  .check (!revoked && now < binding.expiresAt) (.denied "handler_binding_inactive")
  pure binding

/-- `private_locator` of kind `c2c-user`. -/
def privateLocator (id : HandlerBindingId) : HandlerProg String := do
  let row ← .observe fun s => s.locator? id
  let now ← .observe HandlerWorld.now
  let locator ← .need row (.denied "handler_private_locator_inactive")
  .check (locator.active && now < locator.expiresAt) (.denied "handler_private_locator_inactive")
  pure locator.providerLocator

/-- `_binding_group_from_stage1`. -/
def bindingGroupFromStage1 (binding : QQHandlerBinding) : HandlerProg String := do
  let row ← .observe fun s => s.pairingLocators.find? fun l => l.pairingId = binding.stage1PairingId
  let now ← .observe HandlerWorld.now
  let locator ← .need row (.denied "stage1_group_locator_inactive")
  .check (locator.completed && now < locator.expiresAt) (.denied "stage1_group_locator_inactive")
  .check (text.sha256Text locator.groupOpenid = binding.groupOpenidHash)
    (.denied "stage1_group_locator_mismatch")
  pure locator.groupOpenid

/-! ## Artifacts -/

/-- `normalize_private_content`. -/
def normalizePrivateContent (content : String) (candidate : Bool) : HandlerProg String :=
  match text.normalizePrivateContent content candidate with
  | .ok normalized => pure normalized
  | .error reason => .raise (.rejected reason)

def issueArtifact (binding : QQHandlerBinding) (caseId caseRevisionId contentHash : String)
    (created : Instant) : HandlerArtifact :=
  { artifactId := stableIdentifier (.issue binding.tenantId caseId caseRevisionId contentHash),
    caseId, caseRevisionId, contentSha256 := contentHash, expiresAt := created + handlerArtifactTtl }

/-- The transaction of `create_issue_artifact`. -/
def insertIssue (binding : QQHandlerBinding) (artifact : HandlerArtifact) (normalized : String)
    (s : HandlerWorld) : Except HandlerError (HandlerArtifact × HandlerWorld) :=
  match s.case? artifact.caseId with
  | some c => do
      let existing ← fetch (s.artifact? c.issueArtifactId) (.conflict "case_issue_artifact_conflict")
      require (existing.contentSha256 = artifact.contentSha256 ∧
        c.caseRevisionId = artifact.caseRevisionId) (.conflict "case_issue_artifact_conflict")
      pure (existing, s)
  | none => do
      let artifacts ← fetch (Table.insert? HandlerArtifact.clash artifact s.artifacts) .integrity
      let contents ← fetch (Table.insert? HandlerArtifactContent.clash
        ⟨artifact.artifactId, normalized, true⟩ s.contents) .integrity
      let c : HandlerCase :=
        { caseId := artifact.caseId, tenantId := binding.tenantId,
          caseRevisionId := artifact.caseRevisionId, handlerBindingId := binding.handlerBindingId,
          issueArtifactId := artifact.artifactId, groupOpenidHash := binding.groupOpenidHash,
          workflowVersion := 1, status := .ready, currentCandidateRevisionId := none,
          currentApprovalRequestId := none }
      let cases ← fetch (Table.insert? HandlerCase.clash c s.cases) .integrity
      pure (artifact, { s with artifacts, contents, cases })

def createIssueArtifact (binding : QQHandlerBinding) (caseId caseRevisionId content : String) :
    HandlerProg HandlerArtifact := do
  let normalized ← normalizePrivateContent text content false
  let created ← .observe HandlerWorld.now
  .atomically (insertIssue binding
    (issueArtifact binding caseId caseRevisionId (text.sha256Text normalized) created) normalized)

/-- The transaction of `delete_artifacts`: all artifacts of the case, deleted at the time the clock was
    read. -/
def removeContents (caseId reasonCode : String) (now : Instant) (s : HandlerWorld) :
    Except HandlerError (Unit × HandlerWorld) :=
  let ids := (s.artifacts.filter fun a => a.caseId = caseId).map (·.artifactId)
  .ok ((), { s with
    contents := s.contents.filter fun p =>
      !(s.artifacts.any fun a => a.artifactId = p.artifactId ∧ a.caseId = caseId)
    artifactLog := ids.foldl (fun log id =>
      (log.append ⟨id, .deleted, reasonCode, now⟩).addDeletion ⟨caseId, id, reasonCode, now, s.now⟩)
      s.artifactLog })

def deleteArtifacts (caseId reasonCode : String) : HandlerProg Unit := do
  let now ← .observe HandlerWorld.now
  .atomically (removeContents caseId reasonCode now)

def retentionExpired : String := "artifact_retention_expired"

def deleteArtifactsOf : List String → HandlerProg Unit
  | [] => pure ()
  | caseId :: rest => do
      deleteArtifacts caseId retentionExpired
      deleteArtifactsOf rest

/-- The cases that still have the content of an artifact that expired before the rendered `now`. -/
def expiredCases (now : Instant) (s : HandlerWorld) : List String :=
  ((s.artifacts.filter fun a => !renderedBefore now a.expiresAt ∧ (s.content? a.artifactId).isSome).map
    (·.caseId)).dedup

def deleteExpiredArtifacts : HandlerProg Unit := do
  let now ← .observe HandlerWorld.now
  let cases ← .observe (expiredCases now)
  deleteArtifactsOf cases

/-- What `artifact_content` decides on: the artifact's expiry, its content and whether it is reachable. -/
def contentRow (id : HandlerArtifactId) (s : HandlerWorld) : Option (Instant × String × Bool) := do
  let artifact ← s.artifact? id
  let content ← s.content? id
  some (artifact.expiresAt, content.content, content.reachable)

def artifactUnavailable : HandlerError := .denied "private_artifact_unavailable"

/-- `artifact_content`, with the error it raises as a value. -/
def artifactContent? (id : HandlerArtifactId) : HandlerProg (Except HandlerError String) := do
  let now ← .observe HandlerWorld.now
  let row ← .observe (contentRow id)
  match row with
  | some (expiresAt, content, reachable) =>
      if expiresAt ≤ now then do
        deleteExpiredArtifacts
        pure (.error artifactUnavailable)
      else if reachable then pure (.ok content)
      else pure (.error artifactUnavailable)
  | none => pure (.error artifactUnavailable)

/-- A result whose error is raised. -/
def ofExcept {α : Type} : Except HandlerError α → HandlerProg α
  | .ok a => pure a
  | .error e => .raise e

def artifactContent (id : HandlerArtifactId) : HandlerProg String := do
  let content ← artifactContent? id
  ofExcept content

/-- `_schedule_artifact_deletion`, of each of `ids`. -/
def scheduleArtifactDeletion (ids : List HandlerArtifactId) (reasonCode : String) (s : HandlerWorld) :
    HandlerWorld :=
  let contents := Table.modify (fun p => p.artifactId ∈ ids) (fun p => { p with reachable := false })
    s.contents
  let artifactLog := ids.foldl (fun log id => log.append ⟨id, .deletionScheduled, reasonCode, s.now⟩)
    s.artifactLog
  { s with contents, artifactLog }

/-! ## Cases -/

def caseProjection (caseId : String) : HandlerProg HandlerCase := do
  let row ← .observe fun s => s.case? caseId
  .need row (.denied "handler_case_unavailable")

/-- `_assert_projection_binding`. -/
def assertProjectionBinding (c : HandlerCase) (binding : QQHandlerBinding) : HandlerProg Unit :=
  .check (c.tenantId = binding.tenantId && c.handlerBindingId = binding.handlerBindingId &&
    c.groupOpenidHash = binding.groupOpenidHash) (.denied "handler_case_binding_mismatch")

/-- `_authorize_case_row`. -/
def authorizeCaseRow (c : HandlerCase) (binding : QQHandlerBinding) (expectedVersion : Nat) :
    Except HandlerError Unit := do
  require (c.tenantId = binding.tenantId ∧ c.handlerBindingId = binding.handlerBindingId)
    (.denied "handler_case_binding_mismatch")
  require (c.groupOpenidHash = binding.groupOpenidHash) (.denied "handler_case_group_mismatch")
  require (c.workflowVersion = expectedVersion) (.denied "handler_workflow_version_stale")
  require (!c.status.terminal) (.denied "handler_case_terminal")

/-! ## Candidates -/

/-- The two callables `create_candidate_and_request` takes. -/
structure CandidateHooks where
  invalidatePredecessor : HandlerCase → HandlerWorld → HandlerWorld
  finalize : HandlerArtifact → HandlerCandidateRevision → HandlerApprovalRequest → HandlerWorld →
    Except HandlerError HandlerWorld

def noHooks : CandidateHooks := ⟨fun _ s => s, fun _ _ _ s => .ok s⟩

def responseArtifact (c : HandlerCase) (candidateHash : String) (version : Nat) (now : Instant) :
    HandlerArtifact :=
  { artifactId := stableIdentifier (.response c.caseId version candidateHash), caseId := c.caseId,
    caseRevisionId := c.caseRevisionId, contentSha256 := candidateHash,
    expiresAt := now + handlerArtifactTtl }

def candidateRevision (c : HandlerCase) (artifact : HandlerArtifact) (version : Nat) :
    HandlerCandidateRevision :=
  { candidateRevisionId := stableIdentifier ⟨c.caseId, version, artifact.artifactId⟩,
    tenantId := c.tenantId, caseId := c.caseId, candidateArtifactId := artifact.artifactId,
    candidateSha256 := artifact.contentSha256, workflowVersion := version,
    predecessor := c.currentCandidateRevisionId }

def approvalRequest (c : HandlerCase) (issue : HandlerArtifact) (revision : HandlerCandidateRevision)
    (now : Instant) : HandlerApprovalRequest :=
  { approvalRequestId := stableIdentifier ⟨c.caseId, revision.workflowVersion,
      revision.candidateRevisionId, revision.candidateSha256⟩,
    tenantId := c.tenantId, caseId := c.caseId, caseRevisionId := c.caseRevisionId,
    handlerBindingId := c.handlerBindingId, issueArtifactId := c.issueArtifactId,
    issueContentSha256 := issue.contentSha256, candidateRevisionId := revision.candidateRevisionId,
    candidateArtifactId := revision.candidateArtifactId, candidateSha256 := revision.candidateSha256,
    candidateHashPrefix := textPrefix 12 revision.candidateSha256,
    workflowVersion := revision.workflowVersion, createdAt := now,
    expiresAt := now + approvalRequestTtl }

/-- The content of the candidate that a new one replaces is scheduled for deletion. -/
def supersede (c : HandlerCase) (s : HandlerWorld) : HandlerWorld :=
  match c.currentCandidateRevisionId.bind s.candidate? with
  | some prior => scheduleArtifactDeletion [prior.candidateArtifactId] "candidate_superseded" s
  | none => s

/-- The transaction of `create_candidate_and_request`. -/
def insertCandidate (hooks : CandidateHooks) (binding : QQHandlerBinding) (caseId : String)
    (expectedVersion : Nat) (normalized : String) (now : Instant) (s : HandlerWorld) :
    Except HandlerError
      ((HandlerArtifact × HandlerCandidateRevision × HandlerApprovalRequest) × HandlerWorld) := do
  let c ← fetch (s.case? caseId) (.denied "handler_case_unavailable")
  authorizeCaseRow c binding expectedVersion
  let issue ← fetch (s.artifact? c.issueArtifactId) (.conflict "issue_artifact_missing")
  require (now < issue.expiresAt) (.denied "issue_artifact_expired")
  let artifact := responseArtifact c (text.sha256Text normalized) (expectedVersion + 1) now
  let revision := candidateRevision c artifact (expectedVersion + 1)
  let request := approvalRequest c issue revision now
  let s := supersede c (hooks.invalidatePredecessor c s)
  let artifacts ← fetch (Table.insert? HandlerArtifact.clash artifact s.artifacts) .integrity
  let contents ← fetch (Table.insert? HandlerArtifactContent.clash
    ⟨artifact.artifactId, normalized, true⟩ s.contents) .integrity
  let candidates ← fetch (Table.insert? HandlerCandidateRevision.clash revision s.candidates) .integrity
  let requests ← fetch (Table.insert? HandlerApprovalRequest.clash request s.requests) .integrity
  let s ← hooks.finalize artifact revision request
    ({ s with artifacts, contents, candidates, requests }.modifyCase caseId (HandlerCase.drafted request))
  pure ((artifact, revision, request), s)

def createCandidateAndRequest (hooks : CandidateHooks) (binding : QQHandlerBinding) (caseId : String)
    (expectedVersion : Nat) (candidateText : String) :
    HandlerProg (HandlerArtifact × HandlerCandidateRevision × HandlerApprovalRequest) := do
  let normalized ← normalizePrivateContent text candidateText true
  let now ← .observe HandlerWorld.now
  .atomically (insertCandidate text hooks binding caseId expectedVersion normalized now)

/-! ## Simple commands -/

inductive SimpleCommand where
  | pull | accept
  | reject (reasonCode : String)
  deriving DecidableEq, Repr

def SimpleCommand.responseKind : SimpleCommand → ResponseKind
  | .pull => .pull
  | .accept => .accept
  | .reject _ => .reject

def SimpleCommand.valid : SimpleCommand → Bool
  | .reject reasonCode => text.rejectionReason reasonCode
  | _ => true

/-- A pull keeps the version and the status. -/
def SimpleCommand.apply (command : SimpleCommand) (c : HandlerCase) : HandlerCase :=
  match command with
  | .pull => c
  | .accept => { c with workflowVersion := c.workflowVersion + 1, status := .accepted }
  | .reject _ => { c with workflowVersion := c.workflowVersion + 1, status := .rejected }

/-- The transaction of `transition_simple_command`: a rejection schedules all content for deletion. -/
def applySimpleCommand (binding : QQHandlerBinding) (caseId : String) (expectedVersion : Nat)
    (command : SimpleCommand) (s : HandlerWorld) : Except HandlerError (Unit × HandlerWorld) := do
  let c ← fetch (s.case? caseId) (.denied "handler_case_unavailable")
  authorizeCaseRow c binding expectedVersion
  let s := s.modifyCase caseId command.apply
  match command with
  | .reject _ => pure ((), scheduleArtifactDeletion
      ((s.artifacts.filter fun a => a.caseId = caseId).map (·.artifactId)) "handler_rejected" s)
  | _ => pure ((), s)

def transitionSimpleCommand (binding : QQHandlerBinding) (caseId : String) (expectedVersion : Nat)
    (command : SimpleCommand) : HandlerProg HandlerCase := do
  .check (command.valid text) (.conflict "handler_rejection_reason_invalid")
  .atomically (applySimpleCommand binding caseId expectedVersion command)
  caseProjection caseId

/-! ## Approvals -/

structure QQGroupApprovalCommand where
  approvalRequestId : HandlerRequestId
  candidateHashPrefix : String
  expectedVersion : Nat
  deriving DecidableEq, Repr

def approvalDecision (binding : QQHandlerBinding) (request : HandlerApprovalRequest)
    (authorHash sourceMessageId : String) (now : Instant) : HandlerApprovalDecision :=
  { approvalDecisionId := stableIdentifier ⟨request.approvalRequestId, authorHash,
      text.sha256Text sourceMessageId⟩,
    approvalRequestId := request.approvalRequestId, tenantId := request.tenantId,
    caseId := request.caseId, caseRevisionId := request.caseRevisionId,
    handlerBindingId := request.handlerBindingId, candidateRevisionId := request.candidateRevisionId,
    candidateSha256 := request.candidateSha256, workflowVersion := request.workflowVersion,
    authorIdentityHash := authorHash, groupOpenidHash := binding.groupOpenidHash, sourceMessageId,
    decidedAt := now, expiresAt := request.expiresAt }

/-- The transaction of `approve_request`. -/
def insertDecision (binding : QQHandlerBinding) (command : QQGroupApprovalCommand)
    (authorHash sourceMessageId : String) (now : Instant) (s : HandlerWorld) :
    Except HandlerError (HandlerApprovalDecision × HandlerWorld) := do
  let request ← fetch (s.request? command.approvalRequestId)
    (.denied "group_approval_request_unavailable")
  let c ← fetch (s.case? request.caseId) (.denied "group_approval_case_unavailable")
  authorizeCaseRow c binding command.expectedVersion
  require (c.currentApprovalRequestId = some request.approvalRequestId ∧
    c.currentCandidateRevisionId = some request.candidateRevisionId ∧
    request.workflowVersion = command.expectedVersion ∧ now < request.expiresAt)
    (.denied "group_approval_stale")
  require (command.candidateHashPrefix = request.candidateHashPrefix ∧
    startsWithText request.candidateSha256 command.candidateHashPrefix)
    (.denied "group_approval_hash_mismatch_or_ambiguous")
  match s.decisionOf? request.approvalRequestId with
  | some existing => pure (existing, s)
  | none => do
      let decision := approvalDecision text binding request authorHash sourceMessageId now
      let decisions ← fetch (Table.insert? HandlerApprovalDecision.clash decision s.decisions) .integrity
      pure (decision, { s with decisions }.modifyCase request.caseId
        fun c => { c with status := .approved })

/-- **`approve_request`**. -/
def approveRequest (binding : QQHandlerBinding) (command : QQGroupApprovalCommand)
    (memberOpenid groupOpenid sourceMessageId : String) (occurredAt : Instant) (identitySalt : String) :
    HandlerProg HandlerApprovalDecision := do
  let group ← bindingGroupFromStage1 text binding
  .check (groupOpenid = group) (.denied "group_approval_foreign_group")
  let authorHash := saltedHash text identitySalt "group-member" memberOpenid
  .check (authorHash = binding.groupMemberIdentityHash) (.denied "group_approval_foreign_member")
  let now ← .observe HandlerWorld.now
  .check (occurredAt ≤ now) (.rejected "group_approval_timestamp_invalid")
  .atomically (insertDecision text binding command authorHash sourceMessageId now)

/-! ## Commands -/

/-- `record_command_once`: what is stored for the message, and whether this call has stored it. -/
def recordCommandOnce (command : StoredHandlerCommand) : HandlerProg (Bool × StoredHandlerCommand) :=
  .atomically fun s =>
    match s.command? command.sourceMessageIdHash with
    | some existing => .ok ((false, existing), s)
    | none => do
        let commands ← fetch (Table.insert? StoredHandlerCommand.clash command s.commands) .integrity
        pure ((true, command), { s with commands })

end SQLiteQQHandlerJournal

end WeFlow
