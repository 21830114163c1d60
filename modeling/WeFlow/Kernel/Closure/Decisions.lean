import WeFlow.Kernel.Closure.Effects

/-!
# `Decisions` — a second decision needs a revocation

The journal's validator accepts one policy decision of a workflow. A recovery evaluates the policy again, but
its question is always the same: the activation, its checkpoint and the candidate are settled by then, and
only whether the grant is still active can change the answer. So a workflow has two decisions at most, and
the second one says that the grant has been revoked.

## Contents

* `PolicyBegunInv` — a workflow with a policy activation is behind its investigation.
* `Asked`, `PolicyDecisionInv` — every decision answers the workflow's one question.
* `PolicyDecisionInv.le_two` — the result.
-/

namespace WeFlow

variable {x : Context} {s s' : WorkflowStore} {a : WorkflowActivation} {part : Part}

/-! ## Behind the investigation -/

/-- The states before there is a response. -/
def WorkflowState.beforeResponse : WorkflowState → Bool
  | .received | .ticketReady | .investigating => true
  | _ => false

theorem WorkflowState.beforeResponse_entered {state : WorkflowState} (h : state.beforeResponse = true) :
    state.entered = true := by
  cases state <;> first | rfl | cases h

/-- **Nothing leads back to them.** -/
theorem Advance.beforeResponse {c : Checkpoint} {r : TransitionRequest} (h : Advance x s a c r)
    (allowed : r.allowedFrom c.payload = true)
    (hr : r.nextState.beforeResponse = true ∨ r.resumeState.beforeResponse = true) :
    c.payload.VisitsAny WorkflowState.beforeResponse := by
  -- what leads to TICKET_READY and INVESTIGATING starts in such a state
  have hstart : ∀ {kind : TransitionKind} {next : WorkflowState} {resume : Option WorkflowState}
      {unresolved : Bool}, kind = .ticketHandoffComplete ∨ kind = .investigationStarted →
      transitionAllowed c.payload.currentState kind next resume unresolved = true →
      c.payload.currentState.beforeResponse = true := by
    rintro kind next resume unresolved (rfl | rfl) hallowed
    · cases hstate : c.payload.currentState <;> rw [hstate] at hallowed <;>
        first | rfl | simp [transitionAllowed, allowedTargets] at hallowed
    · cases hstate : c.payload.currentState <;> rw [hstate] at hallowed <;>
        first | rfl | simp [transitionAllowed, allowedTargets] at hallowed
  cases h with
  | ticketReady => exact Or.inl (hstart (Or.inl rfl) allowed)
  | investigationStarted => exact Or.inl (hstart (Or.inr rfl) allowed)
  | reconcile => exact Or.inl (hr.resolve_left Bool.false_ne_true)
  | reconciled => exact Or.inr (hr.elim id id)
  | deliveryReconciled => exact Or.inr (hr.elim id id)
  | _ => exact hr.elim (absurd · Bool.false_ne_true) (absurd · Bool.false_ne_true)

/-- A policy activation is new, or its workflow has just its response. -/
theorem Effect.new_policyActivation (h : Effect x s part s') {p : PolicyActivation}
    (hp : p ∈ s'.policy.activations) :
    p ∈ s.policy.activations ∨ s'.journal = s.journal ∧ ∃ a ∈ s.journal.activations, ∃ c,
      s.latestCheckpoint? a.tenantId a.workflowId = some c ∧ c.payload.currentState = .responseReady ∧
      p.tenantId = a.tenantId ∧ p.workflowId = a.workflowId := by
  by_cases hpart : part = .policy
  · cases h with
    | policy step =>
        cases step with
        | @activation a c candidate mem _ latest state =>
            rcases List.mem_append.mp hp with hp | hp
            · exact Or.inl hp
            · rw [List.mem_singleton.mp hp]
              exact Or.inr ⟨rfl, a, mem, c, latest, state, rfl, rfl⟩
        | _ => exact Or.inl hp
    | prepare step => exact absurd hpart step.not_part.1
    | _ => exact absurd hpart nofun
  · rw [h.policy_eq hpart] at hp
    exact Or.inl hp

/-- A workflow with a policy activation is behind its investigation. -/
def PolicyBegunInv (s : WorkflowStore) : Prop :=
  ∀ a ∈ s.journal.activations, s.policyActivationsOf a.tenantId a.workflowId ≠ [] →
    Behind WorkflowState.beforeResponse s a

/-- **Every transaction keeps it.** -/
theorem Effect.policyBegunInv (h : Effect x s part s') (hj : JournalInv s) (hr : PolicyRows s s.policy)
    (hs : PolicyBegunInv s) : PolicyBegunInv s' := by
  intro a ha hne
  obtain ⟨p, hp⟩ := List.exists_mem_of_ne_nil _ hne
  obtain ⟨hpmem, hkey⟩ := List.mem_filter.mp hp
  rw [decide_eq_true_eq] at hkey
  have hstays : ∀ b ∈ s.journal.activations, Behind WorkflowState.beforeResponse s b →
      Behind WorkflowState.beforeResponse s' b := fun b hb hbehind =>
    h.behind hj hb (fun _ => WorkflowState.beforeResponse_entered) (fun advance => advance.beforeResponse) hbehind
  rcases h.new_policyActivation hpmem with hpmem | ⟨hjournal, b, hb, c, hlatest, hstate, ht, hw⟩
  · obtain ⟨b, hb, hrow⟩ := hr.activation p hpmem
    obtain rfl : b = a := (h.journalInv hj).activation_unique (h.grows.activations.subset hb) ha
      (hrow.owner.1.symm.trans hkey.1) (hrow.owner.2.symm.trans hkey.2)
    exact hstays b hb (hs b hb (List.ne_nil_of_mem (List.mem_filter.mpr ⟨hpmem, decide_eq_true hkey⟩)))
  · have hactivation : a ∈ s.journal.activations := hjournal ▸ ha
    obtain rfl : b = a := hj.activation_unique hb hactivation (ht.symm.trans hkey.1) (hw.symm.trans hkey.2)
    have hshaped := hj.latest_shaped hb hlatest
    rw [hstate] at hshaped
    have hresume : c.payload.resumeState = .responseReady := hshaped
    refine hstays b hb ⟨c, hlatest, ?_⟩
    unfold CheckpointPayload.VisitsAny
    rw [hstate, hresume]
    exact fun hvisits => hvisits.elim nofun nofun

/-- **Behind its investigation a workflow has its last candidate.** -/
theorem Effect.candidatesOf_eq (h : Effect x s part s') (hj : JournalInv s)
    (hr : InvestigationRows s s.investigation) (ha : a ∈ s.journal.activations)
    (hbehind : Behind WorkflowState.beforeResponse s a) :
    s'.candidatesOf a.tenantId a.workflowId = s.candidatesOf a.tenantId a.workflowId := by
  by_cases hpart : part = .investigation
  · cases h with
    | investigation step =>
        cases step with
        | @candidate b c investigation candidate mem _ latest state =>
            refine Table.filter_append_other fun row hrow => ?_
            rw [List.mem_singleton.mp hrow]
            refine decide_eq_false fun hkey => ?_
            obtain rfl : b = a := hj.activation_unique mem ha hkey.1 hkey.2
            obtain ⟨d, hd, hnot⟩ := hbehind
            obtain rfl := Option.some.inj (latest.symm.trans hd)
            exact hnot (Or.inl (state ▸ rfl))
        | @toolExchange b c investigation request result s₁ _ _ _ _ _ _ _ _ _ new _ inserted =>
            unfold WorkflowStore.candidatesOf
            rw [(hr.exchange_inserts new inserted).1]
        | _ => rfl
    | prepare step => exact absurd hpart step.not_part.2.2.2.1
    | _ => exact absurd hpart nofun
  · unfold WorkflowStore.candidatesOf
    rw [h.investigation_eq hpart]

/-! ## The question of a workflow -/

/-- The material of a workflow is its last candidate. -/
theorem candidateMaterial_eq_some (hj : JournalInv s) (ha : a ∈ s.journal.activations)
    {candidate : ResponseCandidate} (h : s.candidateMaterial a = some candidate) :
    ∃ row, (s.candidatesOf a.tenantId a.workflowId).getLast? = some row ∧ candidate = candidatePayload a row := by
  unfold WorkflowStore.candidateMaterial at h
  simp only [Option.bind_eq_bind, Option.bind_eq_some_iff] at h
  obtain ⟨b, hb, _, _, row, hrow, _, _, hif⟩ := h
  have hbmem := (List.mem_insertionSort _).mp (List.mem_of_mem_head? hb)
  obtain ⟨hbm, hkey⟩ := List.mem_filter.mp hbmem
  rw [decide_eq_true_eq] at hkey
  obtain rfl : b = a := hj.activation_unique_case hbm ha hkey.1 hkey.2
  split at hif
  · exact ⟨row, hrow, (Option.some.inj hif).symm⟩
  · cases hif

/-- What a workflow's policy is asked about, but for the grant. -/
structure Question (s : WorkflowStore) (a : WorkflowActivation) where
  activation : PolicyActivation
  grant : SealedGrant
  source : Checkpoint
  row : CandidateRow
  activated : activation ∈ s.policyActivationsOf a.tenantId a.workflowId
  granted : grant ∈ s.grantsOf a.tenantId a.workflowId
  sourced : source ∈ s.checkpointRows a.tenantId a.workflowId ∧
    source.payload.checkpointId = activation.sourceCheckpointId
  last : (s.candidatesOf a.tenantId a.workflowId).getLast? = some row

/-- The question as it is evaluated, with a grant or without. -/
def Question.asked (q : Question s a) (grant : Option SealedGrant) : PolicyQuestion :=
  policyQuestion a q.activation q.source.payload (candidatePayload a q.row) grant

def Question.hash (q : Question s a) (grant : Option SealedGrant) : Digest PolicyInput :=
  sha256 (q.asked grant).input

/-- **A workflow has one question.** -/
theorem Question.hash_eq (hj : JournalInv s) (hr : RowsInv s) (ha : a ∈ s.journal.activations)
    (q q' : Question s a) : q.grant = q'.grant ∧ q.hash none = q'.hash none ∧
      q.hash (some q.grant) = q'.hash (some q'.grant) := by
  have hactivations : (s.policyActivationsOf a.tenantId a.workflowId).length ≤ 1 := by
    refine hr.policy.activations.filter_key_le_one fun p p' hp hp' => ?_
    rw [decide_eq_true_eq] at hp hp'
    exact decide_eq_true ⟨hp.1.trans hp'.1.symm, Or.inr (hp.2.trans hp'.2.symm)⟩
  have hgrants : (s.grantsOf a.tenantId a.workflowId).length ≤ 1 := by
    rw [WorkflowStore.grantsOf, List.length_map]
    exact hr.policy.grants _ _
  have hactivation : q'.activation = q.activation := by
    have hmem := q'.activated
    rwa [Table.eq_singleton q.activated hactivations, List.mem_singleton] at hmem
  have hgrant : q'.grant = q.grant := by
    have hmem := q'.granted
    rwa [Table.eq_singleton q.granted hgrants, List.mem_singleton] at hmem
  have hrow : q'.row = q.row := Option.some.inj (q'.last.symm.trans q.last)
  -- the identifier of a checkpoint names its number, and with it the version
  have hversion : q'.source.payload.workflowVersion = q.source.payload.workflowVersion := by
    have hchain := hj.chain a ha
    have hid : q'.source.payload.checkpointId = q.source.payload.checkpointId := by
      rw [q.sourced.2, q'.sourced.2, hactivation]
    have hid' := (hchain.fields _ q'.sourced.1).2.2.2.2
    rw [hid, (hchain.fields _ q.sourced.1).2.2.2.2, stableIdentifier_inj] at hid'
    have hsequence : q.source.payload.checkpointSequence = q'.source.payload.checkpointSequence :=
      congrArg CheckpointMaterial.checkpointSequence hid'
    have h := hchain.sequence_version _ q.sourced.1
    have h' := hchain.sequence_version _ q'.sourced.1
    omega
  unfold Question.hash Question.asked policyQuestion PolicyQuestion.input
  rw [hactivation, hgrant, hrow, hversion]
  exact ⟨rfl, rfl, rfl⟩

/-! ## Decisions -/

/-- A decision answers the workflow's question, without a grant if that has been revoked. -/
def Asked (s : WorkflowStore) (a : WorkflowActivation) (d : SealedDecision) : Prop :=
  ∃ q : Question s a, ∃ now, evaluateFixturePolicy (q.asked (some q.grant)) now = some d ∨
    evaluateFixturePolicy (q.asked none) now = some d ∧ s.grantIsActive a.tenantId q.grant.body.grantId = false

/-- **A question without a grant is denied.** -/
theorem PolicyQuestion.denied {q : PolicyQuestion} (h : q.grant = none) (now : Instant) :
    q.reason now ≠ .fixturePolicyAllowed := by
  unfold PolicyQuestion.reason
  rw [h]
  dsimp only
  split_ifs <;> exact nofun

theorem Question.denied (q : Question s a) {now : Instant} {d : SealedDecision}
    (h : evaluateFixturePolicy (q.asked none) now = some d) : d.body.decision = .deny := by
  obtain ⟨-, rfl⟩ := validated_eq_some.mp h
  have hdenied := PolicyQuestion.denied (q := q.asked none) rfl now
  unfold policyDecisionOf
  dsimp only
  rw [decide_eq_false hdenied]
  rfl

/-- The hash and the action of an answer. -/
theorem Question.answer (q : Question s a) {grant : Option SealedGrant} {now : Instant} {d : SealedDecision}
    (h : evaluateFixturePolicy (q.asked grant) now = some d) :
    d.body.action = .outboundDeliveryExecute ∧ d.body.policyInputSha256 = q.hash grant := by
  obtain ⟨-, rfl⟩ := validated_eq_some.mp h
  exact ⟨rfl, rfl⟩

theorem Asked.action {d : SealedDecision} (h : Asked s a d) : d.body.action = .outboundDeliveryExecute := by
  obtain ⟨q, now, h | ⟨h, -⟩⟩ := h
  · exact (q.answer h).1
  · exact (q.answer h).1

/-- **The invariant of decisions.** -/
structure PolicyDecisionInv (s : WorkflowStore) : Prop where
  begun : PolicyBegunInv s
  distinct : Table.Distinct decisionClash s.policy.decisions
  asked : ∀ d ∈ s.policy.decisions, ∃ a ∈ s.journal.activations,
    d.body.tenantId = a.tenantId ∧ d.body.workflowId = a.workflowId ∧ Asked s a d

theorem decisionInv_empty : PolicyDecisionInv {} where
  begun := fun a ha => by simp at ha
  distinct := Table.distinct_nil _
  asked := fun d hd => by simp at hd

/-- **Every decision of a transaction answers the question of its workflow.** -/
theorem Effect.new_decision (h : Effect x s part s') (hj : JournalInv s) (hr : PolicyRows s s.policy)
    (hs : PolicyDecisionInv s) : Table.Distinct decisionClash s'.policy.decisions ∧
      ∀ d ∈ s'.policy.decisions, ∃ a ∈ s.journal.activations,
        d.body.tenantId = a.tenantId ∧ d.body.workflowId = a.workflowId ∧ Asked s a d := by
  by_cases hpart : part = .policy
  · cases h with
    | policy step =>
        cases step with
        | @decision a p grant candidate source d c mem _ _ activation granted material found evaluated _ fresh =>
            refine ⟨hs.distinct.append_one fresh, ?_⟩
            refine List.forall_mem_append.mpr ⟨hs.asked, List.forall_mem_singleton.mpr ?_⟩
            have hd := (validated_eq_some.mp evaluated).2
            obtain ⟨row, hrow, rfl⟩ := candidateMaterial_eq_some hj mem material
            have hp := policyActivationForWorkflow_mem activation
            have hfound := List.find?_some found
            rw [decide_eq_true_eq] at hfound
            obtain ⟨c', hc', hid⟩ := (hr.activation_row hj mem hp).checkpoint
            have hsource := hj.mem_checkpointRows mem hc' (List.mem_of_find?_eq_some found) hfound.1
              (hfound.2.trans hid.symm)
            refine ⟨a, mem, by rw [hd]; rfl, by rw [hd]; rfl, ⟨p, grant, source, row, hp,
              List.mem_of_head? granted, ⟨hsource, hfound.2⟩, hrow⟩, x.env.now, ?_⟩
            by_cases hactive : s.grantIsActive a.tenantId grant.body.grantId = true
            · left
              rw [if_pos hactive] at evaluated
              exact evaluated
            · right
              rw [if_neg hactive] at evaluated
              exact ⟨evaluated, Bool.eq_false_iff.mpr hactive⟩
        | _ => exact ⟨hs.distinct, hs.asked⟩
    | prepare step => exact absurd hpart step.not_part.1
    | _ => exact absurd hpart nofun
  · rw [h.policy_eq hpart]
    exact ⟨hs.distinct, hs.asked⟩

/-- A grant that is revoked stays revoked. -/
theorem Effect.grant_revoked (h : Effect x s part s') {t : String} {g : GrantId}
    (hrevoked : s.grantIsActive t g = false) : s'.grantIsActive t g = false := by
  unfold WorkflowStore.grantIsActive at hrevoked ⊢
  rw [decide_eq_false_iff_not, not_not] at hrevoked ⊢
  obtain ⟨e, he, hkey⟩ := List.any_eq_true.mp hrevoked
  exact List.any_eq_true.mpr ⟨e, h.policyGrows.grantEvents.subset he, hkey⟩

/-- The question of a workflow with a policy activation stays what it is. -/
theorem Effect.asked (h : Effect x s part s') (hj : JournalInv s) (hr : RowsInv s)
    (ha : a ∈ s.journal.activations) (hs : PolicyBegunInv s) {d : SealedDecision} (hd : Asked s a d) :
    Asked s' a d := by
  obtain ⟨q, now, hq⟩ := hd
  have hcandidates := h.candidatesOf_eq hj hr.investigation ha (hs a ha (List.ne_nil_of_mem q.activated))
  have hgrows := h.policyGrows
  have hlast : (s'.candidatesOf a.tenantId a.workflowId).getLast? = some q.row := hcandidates ▸ q.last
  refine ⟨⟨q.activation, q.grant, q.source, q.row, (hgrows.policyActivationsOf _ _).subset q.activated,
    (hgrows.grantsOf _ _).subset q.granted,
    ⟨(h.grows.checkpoints.filter _).subset q.sourced.1, q.sourced.2⟩, hlast⟩, now, ?_⟩
  rcases hq with hq | ⟨hq, hrevoked⟩
  · exact Or.inl hq
  · exact Or.inr ⟨hq, h.grant_revoked hrevoked⟩

/-- **Every transaction keeps the invariant.** -/
theorem Effect.decisionInv (h : Effect x s part s') (hj : JournalInv s) (hr : RowsInv s) (hs : PolicyDecisionInv s) :
    PolicyDecisionInv s' := by
  obtain ⟨hdistinct, hasked⟩ := h.new_decision hj hr.policy hs
  refine ⟨h.policyBegunInv hj hr.policy hs.begun, hdistinct, fun d hd => ?_⟩
  obtain ⟨a, ha, ht, hw, hdasked⟩ := hasked d hd
  exact ⟨a, h.grows.activations.subset ha, ht, hw, h.asked hj hr ha hs.begun hdasked⟩

/-! ## At most two -/

theorem PolicyDecisionInv.asked_of (hs : PolicyDecisionInv s) (hj : JournalInv s) (ha : a ∈ s.journal.activations)
    {d : SealedDecision} (hd : d ∈ s.decisionsOf a.tenantId a.workflowId) : Asked s a d := by
  obtain ⟨hmem, hkey⟩ := List.mem_filter.mp hd
  rw [decide_eq_true_eq] at hkey
  obtain ⟨b, hb, ht, hw, hasked⟩ := hs.asked d hmem
  obtain rfl : b = a := hj.activation_unique hb ha (ht.symm.trans hkey.1) (hw.symm.trans hkey.2)
  exact hasked

/-- Decisions of a workflow with one hash are one decision. -/
theorem PolicyDecisionInv.filter_le_one (hs : PolicyDecisionInv s) (hj : JournalInv s) (ha : a ∈ s.journal.activations)
    (hash : Digest PolicyInput) :
    ((s.decisionsOf a.tenantId a.workflowId).filter (·.body.policyInputSha256 = hash)).length ≤ 1 := by
  have hdistinct : Table.Distinct decisionClash (s.decisionsOf a.tenantId a.workflowId) :=
    hs.distinct.filter _
  refine hdistinct.filter_le_one fun d hd e he hdk hek => ?_
  have hd' := of_decide_eq_true (List.mem_filter.mp hd).2
  have he' := of_decide_eq_true (List.mem_filter.mp he).2
  have haction := (hs.asked_of hj ha hd).action.trans (hs.asked_of hj ha he).action.symm
  rw [decide_eq_true_eq] at hdk hek
  exact decide_eq_true ⟨hd'.1.trans he'.1.symm,
    Or.inr (Or.inl ⟨hd'.2.trans he'.2.symm, haction, hdk.trans hek.symm⟩)⟩

/-- The two answers that a workflow's decisions give. -/
theorem PolicyDecisionInv.answers (hs : PolicyDecisionInv s) (hj : JournalInv s) (hr : RowsInv s)
    (ha : a ∈ s.journal.activations) (q : Question s a) {d : SealedDecision}
    (hd : d ∈ s.decisionsOf a.tenantId a.workflowId) :
    d.body.policyInputSha256 = q.hash (some q.grant) ∨ d.body.policyInputSha256 = q.hash none ∧
      d.body.decision = .deny ∧ s.grantIsActive a.tenantId q.grant.body.grantId = false := by
  obtain ⟨q', now, hq'⟩ := hs.asked_of hj ha hd
  obtain ⟨hgrant, hnone, hsome⟩ := q.hash_eq hj hr ha q'
  rw [hnone, hsome, hgrant]
  rcases hq' with hq' | ⟨hq', hrevoked⟩
  · exact Or.inl (q'.answer hq').2
  · exact Or.inr ⟨(q'.answer hq').2, q'.denied hq', hrevoked⟩

/-- **A workflow has two decisions at most**, of which one allows, **and a second one only when its grant is
    revoked.** -/
theorem PolicyDecisionInv.le_two (hs : PolicyDecisionInv s) (hj : JournalInv s) (hr : RowsInv s)
    (ha : a ∈ s.journal.activations) :
    (s.decisionsOf a.tenantId a.workflowId).length ≤ 2 ∧
    ((s.decisionsOf a.tenantId a.workflowId).filter (·.body.decision = .allow)).length ≤ 1 ∧
    (1 < (s.decisionsOf a.tenantId a.workflowId).length →
      ∃ g ∈ s.grantsOf a.tenantId a.workflowId, s.grantIsActive a.tenantId g.body.grantId = false) := by
  by_cases hnil : s.decisionsOf a.tenantId a.workflowId = []
  · rw [hnil]
    exact ⟨Nat.zero_le 2, Nat.zero_le 1, fun h => absurd h (Nat.not_lt_zero 1)⟩
  · obtain ⟨d, hd⟩ := List.exists_mem_of_ne_nil _ hnil
    obtain ⟨q, -⟩ := hs.asked_of hj ha hd
    have hsplit := fun e he => hs.answers hj hr ha q (d := e) he
    have hwith := hs.filter_le_one hj ha (q.hash (some q.grant))
    have hwithout := hs.filter_le_one hj ha (q.hash none)
    generalize s.decisionsOf a.tenantId a.workflowId = rows at hsplit hwith hwithout ⊢
    have hlength := List.length_eq_length_filter_add (l := rows)
      (fun e => decide (e.body.policyInputSha256 = q.hash (some q.grant)))
    refine ⟨?_, ?_, fun hmore => ?_⟩
    · have hrest : (rows.filter fun e => !decide (e.body.policyInputSha256 = q.hash (some q.grant))).length ≤
          (rows.filter fun e => decide (e.body.policyInputSha256 = q.hash none)).length := by
        rw [← List.countP_eq_length_filter, ← List.countP_eq_length_filter]
        refine List.countP_mono_left fun e he hnot => ?_
        rw [Bool.not_eq_true', decide_eq_false_iff_not] at hnot
        exact decide_eq_true ((hsplit e he).resolve_left hnot).1
      omega
    · refine le_trans ?_ hwith
      rw [← List.countP_eq_length_filter, ← List.countP_eq_length_filter]
      refine List.countP_mono_left fun e he hallow => ?_
      rw [decide_eq_true_eq] at hallow
      refine decide_eq_true ((hsplit e he).resolve_right fun hdenied => ?_)
      exact absurd (hallow.symm.trans hdenied.2.1) nofun
    · by_contra hnone
      -- every answer is the one with the grant
      have hall : rows.filter (fun e => decide (e.body.policyInputSha256 = q.hash (some q.grant))) = rows :=
        List.filter_eq_self.mpr fun e he => decide_eq_true
          ((hsplit e he).resolve_right fun hrevoked => hnone ⟨q.grant, q.granted, hrevoked.2.2⟩)
      rw [hall] at hwith
      omega

end WeFlow
