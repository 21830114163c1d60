import WeFlow.Kernel.Closure.Decisions

/-!
# `Recorded` — what stands behind a recorded delivery

A workflow reaches DELIVERY_RECORDED at the end of a chain of rows, each built from the one before it: the
last candidate, a decision that allows its delivery under a grant, the binding of both, the request for it,
the approval, the intent, the record of the delivery and its completion. `DeliveryEvidence` is that chain with
all its hashes.

## Contents

* `RecordedInv` — a recorded delivery is completed.
* `DeliveryEvidence`, `RecordedInv.evidence` — the chain, and that it is there.
-/

namespace WeFlow

variable {x : Context} {s s' : WorkflowStore} {a : WorkflowActivation} {part : Part}

/-! ## Completed deliveries -/

def WorkflowState.isRecorded : WorkflowState → Bool
  | .deliveryRecorded => true
  | _ => false

/-- A delivery of the workflow is completed. -/
def WorkflowStore.Delivered (s : WorkflowStore) (t : String) (w : WorkflowId) : Prop :=
  ∃ i ∈ s.deliveryIntentsOf t w, s.deliveryCompletionsOf t i.intentId ≠ []

/-- Every workflow in DELIVERY_RECORDED is approved and has a completed delivery. -/
def RecordedInv (s : WorkflowStore) : Prop :=
  Requires WorkflowState.isRecorded (fun s t w => s.Open t w ∧ s.Delivered t w) s

theorem Advance.recorded {c : Checkpoint} {r : TransitionRequest} (h : Advance x s a c r) (hg : GateInv s)
    (hlatest : s.latestCheckpoint? a.tenantId a.workflowId = some c) (allowed : r.allowedFrom c.payload = true)
    (hr : r.nextState.isRecorded = true ∨ r.resumeState.isRecorded = true) :
    c.payload.VisitsAny WorkflowState.isRecorded ∨
      s.Open a.tenantId a.workflowId ∧ s.Delivered a.tenantId a.workflowId := by
  cases h with
  | @deliveryComplete i d intent completed =>
      have hdelivering : c.payload.currentState = .delivering := by
        unfold TransitionRequest.allowedFrom moveTo at allowed
        cases hstate : c.payload.currentState <;> rw [hstate] at allowed <;>
          first | rfl | simp [transitionAllowed, allowedTargets] at allowed
      have hkey := of_decide_eq_true (List.mem_filter.mp intent).2
      rw [hkey.1] at completed
      exact Or.inr ⟨hg.open_latest hlatest (Or.inl hdelivering), i, intent,
        List.ne_nil_of_mem (List.mem_of_head? completed)⟩
  | reconcile => exact Or.inl (Or.inl (hr.resolve_left Bool.false_ne_true))
  | reconciled => exact Or.inl (Or.inr (hr.elim id id))
  | deliveryReconciled => exact Or.inl (Or.inr (hr.elim id id))
  | _ => exact hr.elim (absurd · Bool.false_ne_true) (absurd · Bool.false_ne_true)

/-- **Every transaction keeps it.** -/
theorem Effect.recordedInv (h : Effect x s part s') (hg : GateInv s) (hs : RecordedInv s) : RecordedInv s' := by
  refine h.requires ?_ rfl ?_ (fun latest advance => advance.recorded hg latest) hs
  · intro state hrecorded
    cases state <;> first | rfl | cases hrecorded
  · rintro t w ⟨hopen, i, hi, hne⟩
    obtain ⟨hintents, hcompletions⟩ := h.delivery_grows
    obtain ⟨hrequests, happrovals⟩ := h.gate_grow
    exact ⟨hopen.mono hrequests happrovals, i, (hintents.filter _).subset hi,
      ne_nil_of_prefix (hcompletions.filter _) hne⟩

/-! ## The chain of rows -/

/-- **The rows behind a recorded delivery**, and what each repeats of the ones before it. -/
structure DeliveryEvidence (s : WorkflowStore) (a : WorkflowActivation) where
  candidate : CandidateRow
  grant : SealedGrant
  decision : SealedDecision
  binding : SealedBinding
  request : ApprovalRequest
  approval : SealedApproval
  intent : DeliveryIntent
  record : DeliveryRecord
  completion : DeliveryCompletion
  verified : (s.candidatesOf a.tenantId a.workflowId).getLast? = some candidate
  granted : grant ∈ s.grantsOf a.tenantId a.workflowId
  decided : decision ∈ s.decisionsOf a.tenantId a.workflowId ∧ decision.body.decision = .allow ∧
    decision.body.candidateHash = candidate.candidate.candidateSha256 ∧
    decision.body.grantSha256 = some grant.hash
  bound : binding ∈ s.bindingsOf a.tenantId a.workflowId ∧
    binding.body.policyDecisionSha256 = decision.hash ∧ binding.body.grantSha256 = grant.hash ∧
    binding.body.candidateHash = decision.body.candidateHash
  requested : request ∈ s.requestsOf a.tenantId a.workflowId ∧
    request.authorizationBindingSha256 = binding.hash
  approved : approval ∈ s.approvalsOf a.tenantId a.workflowId ∧ approval.body.decision = .approved ∧
    approval.body.approvalRequestId = request.approvalRequestId ∧
    approval.body.authorizationBindingSha256 = binding.hash
  intended : intent ∈ s.deliveryIntentsOf a.tenantId a.workflowId ∧
    intent.authorizationBindingSha256 = binding.hash ∧ intent.candidateHash = binding.body.candidateHash
  delivered : record ∈ s.delivery.records ∧ record.tenantId = a.tenantId ∧
    record.naturalKey = intent.naturalKey ∧ record.contentSha256 = intent.candidateHash
  completed : completion ∈ s.deliveryCompletionsOf a.tenantId intent.intentId ∧
    completion.observedDeliveryId = record.deliveryId ∧ completion.observedVersion = record.version ∧
    completion.contentSha256 = record.contentSha256

/-- A completion reports the record of its intent. -/
theorem DeliveryRows.completion_record (hr : DeliveryRows s) {i : DeliveryIntent}
    (hi : i ∈ s.deliveryIntentsOf a.tenantId a.workflowId) {d : DeliveryCompletion}
    (hd : d ∈ s.deliveryCompletionsOf a.tenantId i.intentId) :
    ∃ r ∈ s.delivery.records, (∃ env, r = newDeliveryRecord env i) ∧ d.observedDeliveryId = r.deliveryId ∧
      d.observedVersion = r.version ∧ d.contentSha256 = r.contentSha256 := by
  obtain ⟨himem, hik⟩ := List.mem_filter.mp hi
  obtain ⟨hdmem, hdk⟩ := List.mem_filter.mp hd
  rw [decide_eq_true_eq] at hik hdk
  obtain ⟨j, hjm, o, ho, hot, hoi, -, env, hbuilt⟩ := hr.completion d hdmem
  obtain ⟨hdt, hdi, -, hpresent, hid, hversion, hcontent⟩ := newDeliveryCompletion_eq_some hbuilt
  obtain rfl : j = i := hr.eq_of_intentId hjm himem (hdt.symm.trans (hdk.1.trans hik.1.symm))
    (hdi.symm.trans hdk.2)
  obtain ⟨k, hkm, -, ⟨env', phase, outcome, hobserved⟩, hreported⟩ := hr.observation o ho
  obtain rfl : k = j := by
    refine hr.eq_of_intentId hkm hjm ?_ ?_
    · rw [← hot, hobserved]
      rfl
    · rw [← hoi, hobserved]
      rfl
  obtain ⟨r, hrm, hrnew, hrid, hrversion, hrcontent⟩ := hreported hpresent
  exact ⟨r, hrm, hrnew, Option.some.inj (hid.symm.trans hrid), Option.some.inj (hversion.symm.trans hrversion),
    Option.some.inj (hcontent.symm.trans hrcontent)⟩

/-- The approval of a workflow's request. -/
theorem RowsInv.approval (hr : RowsInv s) (hopen : s.Open a.tenantId a.workflowId) :
    ∃ r ∈ s.requestsOf a.tenantId a.workflowId, ∃ d ∈ s.approvalsOf a.tenantId a.workflowId,
      d.body.decision = .approved ∧ d.body.approvalRequestId = r.approvalRequestId ∧
      d.body.authorizationBindingSha256 = r.authorizationBindingSha256 := by
  obtain ⟨r, hrm, d, hdm, hdt, hdr, happroved⟩ := hopen
  obtain ⟨b, hb, hrow⟩ := hr.policy.approval d hdm
  obtain ⟨r', hr'm, approverId, approverRole, verdict, now, hbuilt⟩ := hrow.built
  obtain ⟨-, hd⟩ := validated_eq_some.mp hbuilt
  obtain ⟨hrmem, hrk⟩ := List.mem_filter.mp hrm
  obtain ⟨hr'mem, hr'k⟩ := List.mem_filter.mp hr'm
  rw [decide_eq_true_eq] at hrk hr'k
  -- the approval names its request
  have hrequest : r' = r := by
    refine hr.gate.requests.eq_of_clash (fun p q => ?_) hr'mem hrmem (decide_eq_true ⟨?_, Or.inl ?_⟩)
    · simp only [ApprovalRequest.clash, eq_comm]
    · rw [hrk.1, hr'k.1, ← hrow.owner.1, hdt]
    · rw [← hdr, hd]
      rfl
  subst hrequest
  refine ⟨r', hrm, d, List.mem_filter.mpr ⟨hdm, decide_eq_true ⟨hdt, ?_⟩⟩, happroved, hdr, ?_⟩
  · rw [hd]
    exact hrk.2
  · rw [hd]
    rfl

section Evidence

variable (hj : JournalInv s) (hr : RowsInv s) (ha : a ∈ s.journal.activations)

include hj hr ha

/-- An allowing decision is made under the workflow's grant, about its last candidate. -/
theorem PolicyDecisionInv.allowed (hd : PolicyDecisionInv s) {d : SealedDecision} {g : SealedGrant}
    (hdm : d ∈ s.decisionsOf a.tenantId a.workflowId) (hallow : d.body.decision = .allow)
    (hg : g ∈ s.grantsOf a.tenantId a.workflowId) :
    d.body.grantSha256 = some g.hash ∧ ∃ row, (s.candidatesOf a.tenantId a.workflowId).getLast? = some row ∧
      d.body.candidateHash = row.candidate.candidateSha256 := by
  obtain ⟨q, now, hq | ⟨hq, -⟩⟩ := hd.asked_of hj ha hdm
  · have hgrants : (s.grantsOf a.tenantId a.workflowId).length ≤ 1 := by
      rw [WorkflowStore.grantsOf, List.length_map]
      exact hr.policy.grants _ _
    have hgrant : g = q.grant := by
      rwa [Table.eq_singleton q.granted hgrants, List.mem_singleton] at hg
    obtain ⟨-, rfl⟩ := validated_eq_some.mp hq
    exact ⟨by rw [hgrant]; rfl, q.row, q.last, rfl⟩
  · have hdenied := hallow.symm.trans (q.denied hq)
    cases hdenied

/-- **A recorded delivery has its evidence.** -/
theorem RecordedInv.evidence (hd : PolicyDecisionInv s) (hs : RecordedInv s) {c : Checkpoint}
    (hc : c ∈ s.checkpointRows a.tenantId a.workflowId) (hstate : c.payload.currentState = .deliveryRecorded) :
    Nonempty (DeliveryEvidence s a) := by
  obtain ⟨hcmem, hck⟩ := List.mem_filter.mp hc
  rw [decide_eq_true_eq] at hck
  have hrecorded := hs c hcmem (Or.inl (hstate ▸ rfl))
  rw [hck.1, hck.2] at hrecorded
  obtain ⟨hopen, i, hi, hne⟩ := hrecorded
  obtain ⟨completion, hcompletion⟩ := List.exists_mem_of_ne_nil _ hne
  obtain ⟨record, hrecord, ⟨env, hnew⟩, hid, hversion, hcontent⟩ := hr.delivery.completion_record hi hcompletion
  obtain ⟨request, hrequest, approval, happroval, happroved, hnames, hbinds⟩ := hr.approval hopen
  -- the request is for the binding that the intent carries
  obtain ⟨himem, hirow⟩ := hr.delivery.row hj ha hi
  obtain ⟨source, -, b, hb, env', hintent⟩ := hirow.built
  obtain ⟨-, b', hb', hhash⟩ := (hr.policy.request_row hj ha hrequest).binding
  obtain rfl : b' = b := by
    rwa [Table.eq_singleton hb (hr.binding.single _ _), List.mem_singleton] at hb'
  -- the binding is of an allowing decision under the grant
  obtain ⟨g, hg, d, hdm, hallow, budget, expiresAt, now, hbuilt⟩ := (hr.policy.binding_row hj ha hb).built
  obtain ⟨-, hbody⟩ := validated_eq_some.mp hbuilt
  obtain ⟨hgrant, row, hrow, hcandidate⟩ := hd.allowed hj hr ha hdm hallow hg
  refine ⟨⟨row, g, d, b', request, approval, i, record, completion, hrow, hg, ⟨hdm, hallow, hcandidate, hgrant⟩,
    ⟨hb, ?_, ?_, ?_⟩, ⟨hrequest, hhash⟩, ⟨happroval, happroved, hnames, hbinds.trans hhash⟩, ⟨hi, ?_, ?_⟩,
    ⟨hrecord, ?_, ?_, ?_⟩, ⟨hcompletion, hid, hversion, hcontent⟩⟩⟩
  · rw [hbody]
    rfl
  · rw [hbody]
    rfl
  · rw [hbody]
    rfl
  · rw [hintent]
    rfl
  · rw [hintent]
    rfl
  · rw [hnew, hintent]
    rfl
  · rw [hnew]
    rfl
  · rw [hnew]
    rfl

end Evidence

end WeFlow
