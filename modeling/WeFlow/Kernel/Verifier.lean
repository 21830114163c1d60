import WeFlow.Kernel.Safety.Program

/-!
# `Verifier` — a response is ready only on verified evidence

The verifier decides about a candidate from the rows that are recorded when it is asked, stores what it
decided, and advances the workflow in another transaction. Between the two the workflow still investigates,
and the recording operations look neither at stored outcomes nor, for a step, at any budget. So the gate
holds in a run that records nothing late: no step and no tool result after a verified outcome, and no second
candidate step while a candidate waits for its outcome (`recordsInTime`).

## Contents

* `Supports`, `Grounded` — what the recorded rows must say of a verified candidate.
* `RecordsInv`, `VerifiedInv` — the invariant, on the investigation's tables and on the checkpoints.
* `InvestigationStep.recordsInv`, `Effect.verifierInv` — one transaction.
* `response_ready_grounded` — every run.
-/

namespace WeFlow

open Txn Prog

variable {x : Context} {s s' : WorkflowStore} {part : Part}

/-! ## What the rows say -/

namespace WorkflowStore

/-- The recorded steps that propose a candidate. -/
def candidateSteps (s : WorkflowStore) (t : String) (w : WorkflowId) : List AgentStep :=
  (s.agentStepsOf t w).filter (·.action.actionType = .responseCandidate)

def hasVerified (s : WorkflowStore) (t : String) (w : WorkflowId) : Bool :=
  (s.outcomesOf t w).any (·.outcome.outcome = .verified)

/-- The verifier has decided about a candidate. -/
def decided (s : WorkflowStore) (row : CandidateRow) : Bool :=
  s.investigation.outcomes.any fun o =>
    o.tenantId = row.tenantId ∧ o.outcome.candidateId = row.candidate.candidateId

def hasUndecided (s : WorkflowStore) (t : String) (w : WorkflowId) : Bool :=
  (s.candidatesOf t w).any fun row => !s.decided row

/-- **The recorded rows support a candidate**: it belongs to the manifest, cites exactly the results of the
    three reads in their order, and was proposed once, last, and within the budgets. -/
structure Supports (s : WorkflowStore) (t : String) (w : WorkflowId) (manifest : ContextManifest)
    (candidate : ResponseCandidate) : Prop where
  context : candidate.link = manifest.link ∧ candidate.contextSha256 = manifest.contextSha256
  linked : ∀ r ∈ s.toolResultsOf t w,
    r.result.link.contextManifestId = manifest.link.contextManifestId
  tools : (s.toolResultsOf t w).map (·.result.toolName) = [.crm, .monitoring, .knowledge]
  evidence : candidate.evidenceHashes = (s.toolResultsOf t w).map (·.result.contentSha256)
  steps : (s.agentStepsOf t w).length ≤ manifest.actionBudget
  requests : (s.toolRequestsOf t w).length ≤ manifest.toolBudget
  results : (s.toolResultsOf t w).length ≤ manifest.toolBudget
  last : (s.agentStepsOf t w).getLast?.any (·.action.actionType = .responseCandidate) = true
  single : (s.candidateSteps t w).length = 1

/-- A stored candidate of the workflow that an outcome is about. -/
def CandidateOf (s : WorkflowStore) (t : String) (w : WorkflowId) (o : OutcomeRow) (row : CandidateRow) :
    Prop :=
  row ∈ s.candidatesOf t w ∧ row.candidate.candidateId = o.outcome.candidateId

/-- **A workflow's response is grounded**: a verified outcome is stored on a candidate that the recorded rows
    support. -/
def Grounded (s : WorkflowStore) (t : String) (w : WorkflowId) : Prop :=
  ∃ i o row, s.investigationActivation? t w = some i ∧ o ∈ s.outcomesOf t w ∧
    o.outcome.outcome = .verified ∧ s.CandidateOf t w o row ∧ s.Supports t w i.manifest row.candidate

end WorkflowStore

/-- **Nothing is recorded late.** A call that would record a step or a tool result finds no verified outcome of
    the workflow, and one that would record a candidate step finds no candidate waiting for its outcome. -/
def recordsInTime (_ : Env) : Call → WorkflowStore → Bool
  | .recordAgentAction t k action, s =>
      (s.activationForCaseForTenant t k).all fun a =>
        !(s.latestState t a.workflowId = some .investigating ∧
          (s.existingAgentStep t a.workflowId action.stepId).isNone ∧
          (s.hasVerified t a.workflowId ∨
            action.actionType = .responseCandidate ∧ s.hasUndecided t a.workflowId))
  | .recordToolExchange t k request _, s =>
      (s.activationForCaseForTenant t k).all fun a =>
        !(s.latestState t a.workflowId = some .investigating ∧
          (s.existingToolResult t request.toolRequestId).isNone ∧ s.hasVerified t a.workflowId)
  | _, _ => true

/-! ## The invariant -/

/-- **The investigation's tables.** -/
structure RecordsInv (s : WorkflowStore) : Prop where
  candidates : Table.Distinct CandidateRow.clash s.investigation.candidates
  owned : ∀ r ∈ s.investigation.toolRequests, (s.investigationActivation? r.tenantId r.workflowId).isSome
  budget : ∀ t w i, s.investigationActivation? t w = some i →
    (s.toolRequestsOf t w).length ≤ i.manifest.toolBudget
  linked : ∀ row ∈ s.investigation.candidates, ∃ i,
    s.investigationActivation? row.tenantId row.workflowId = some i ∧
      row.candidate.link = i.manifest.link ∧ row.candidate.contextSha256 = i.manifest.contextSha256
  outcomes : ∀ o ∈ s.investigation.outcomes, ∃ row, s.CandidateOf o.tenantId o.workflowId o row
  undecided : ∀ row ∈ s.investigation.candidates, s.decided row = false →
    (s.candidateSteps row.tenantId row.workflowId).length = 1
  verified : ∀ o ∈ s.investigation.outcomes, o.outcome.outcome = .verified → ∃ i row,
    s.investigationActivation? o.tenantId o.workflowId = some i ∧
      s.CandidateOf o.tenantId o.workflowId o row ∧
      s.Supports o.tenantId o.workflowId i.manifest row.candidate

/-- The checkpoint is of a ready response, or resumes into one. -/
def CheckpointPayload.Ready (c : CheckpointPayload) : Prop :=
  c.currentState = .responseReady ∨ c.resumeState = .responseReady

/-- **The checkpoints**: a ready response has a verified outcome. -/
def VerifiedInv (s : WorkflowStore) : Prop :=
  ∀ c ∈ s.journal.checkpoints, c.payload.Ready →
    s.hasVerified c.payload.tenantId c.payload.workflowId = true

theorem recordsInv_empty : RecordsInv {} where
  candidates := Table.distinct_nil _
  owned := fun _ h => absurd h List.not_mem_nil
  budget := fun _ _ _ h => nomatch h
  linked := fun _ h => absurd h List.not_mem_nil
  outcomes := fun _ h => absurd h List.not_mem_nil
  undecided := fun _ h => absurd h List.not_mem_nil
  verified := fun _ h => absurd h List.not_mem_nil

theorem WorkflowStore.hasVerified_iff {t : String} {w : WorkflowId} :
    s.hasVerified t w = true ↔ ∃ o ∈ s.outcomesOf t w, o.outcome.outcome = .verified := by
  rw [WorkflowStore.hasVerified, List.any_eq_true]
  simp only [decide_eq_true_eq]

theorem WorkflowStore.mem_outcomesOf {t : String} {w : WorkflowId} {o : OutcomeRow} :
    o ∈ s.outcomesOf t w ↔ o ∈ s.investigation.outcomes ∧ o.tenantId = t ∧ o.workflowId = w := by
  rw [WorkflowStore.outcomesOf, List.mem_filter, decide_eq_true_eq]

theorem WorkflowStore.mem_candidatesOf {t : String} {w : WorkflowId} {row : CandidateRow} :
    row ∈ s.candidatesOf t w ↔ row ∈ s.investigation.candidates ∧ row.tenantId = t ∧ row.workflowId = w := by
  rw [WorkflowStore.candidatesOf, List.mem_filter, decide_eq_true_eq]

/-- A candidate has one row, so an outcome is about a candidate of its own workflow. -/
theorem RecordsInv.hasVerified (hs : RecordsInv s) {a : WorkflowActivation} {id : VerifierOutcomeId}
    (h : s.Verified a id) : s.hasVerified a.tenantId a.workflowId = true := by
  obtain ⟨o, ho, ht, hverdict, -, hw⟩ := h
  have hown : o.workflowId = a.workflowId := by
    rcases hw with hw | ⟨row, hrow, hid⟩
    · exact hw
    · obtain ⟨row', hrow', hid'⟩ := hs.outcomes o ho
      obtain ⟨hmem, hrt, hrw⟩ := WorkflowStore.mem_candidatesOf.mp hrow
      obtain ⟨hmem', hrt', hrw'⟩ := WorkflowStore.mem_candidatesOf.mp hrow'
      have hsame : row' = row := by
        refine hs.candidates.eq_of_clash (fun r q => ?_) hmem' hmem ?_
        · simp only [CandidateRow.clash, eq_comm]
        · exact decide_eq_true ⟨by rw [hrt', hrt, ht], .inl (hid'.trans hid.symm)⟩
      rw [← hrw', hsame, hrw]
  exact WorkflowStore.hasVerified_iff.mpr ⟨o, WorkflowStore.mem_outcomesOf.mpr ⟨ho, ht, hown⟩, hverdict⟩

/-! ## The verifier -/

/-- **The verifier verifies** only what the rows support, but for the number of candidate steps. -/
theorem verifierReason_complete {steps : List AgentStep} {results : List ToolResult}
    {manifest : ContextManifest} {candidate : ResponseCandidate}
    (h : verifierReason steps results manifest candidate = .evidenceComplete) :
    steps.length ≤ manifest.actionBudget ∧ results.length ≤ manifest.toolBudget ∧
      steps.getLast?.any (·.action.actionType = .responseCandidate) = true ∧
      (∀ r ∈ results, r.link.contextManifestId = manifest.link.contextManifestId) ∧
      results.map (·.toolName) = [.crm, .monitoring, .knowledge] ∧
      candidate.evidenceHashes = results.map (·.contentSha256) := by
  rw [verifierReason] at h
  have hskip : ∀ {p : Prop} [Decidable p] {reason rest : VerifierReason},
      (if p then reason else rest) = .evidenceComplete → reason ≠ .evidenceComplete →
        ¬ p ∧ rest = .evidenceComplete := by
    intro p _ reason rest hif hreason
    by_cases hp : p
    · rw [if_pos hp] at hif
      exact absurd hif hreason
    · rw [if_neg hp] at hif
      exact ⟨hp, hif⟩
  obtain ⟨haction, h⟩ := hskip h (by decide)
  obtain ⟨htool, h⟩ := hskip h (by decide)
  obtain ⟨hlast, h⟩ := hskip h (by decide)
  obtain ⟨hlink, h⟩ := hskip h (by decide)
  obtain ⟨-, h⟩ := hskip h (by decide)
  obtain ⟨htools, h⟩ := hskip h (by decide)
  obtain ⟨hevidence, -⟩ := hskip h (by decide)
  refine ⟨Nat.le_of_not_lt haction, Nat.le_of_not_lt htool, not_not.mp hlast, fun r hr => ?_,
    not_not.mp htools, not_not.mp hevidence⟩
  by_contra hne
  exact hlink (List.any_eq_true.mpr ⟨r, hr, decide_eq_true hne⟩)

/-! ## One transaction of the investigation -/

section Step

variable {a : WorkflowActivation} {investigation : InvestigationTables}

/-- What an exchange inserts. -/
theorem insertToolExchange_cases {t : String} {w : WorkflowId} {request : ToolRequest} {result : ToolResult}
    (h : insertToolExchange t w request result s = .ok ((), s')) :
    ∃ requests, (requests = s.investigation.toolRequests ∨
        requests = s.investigation.toolRequests ++ [⟨t, w, request⟩]) ∧
      s'.investigation = { s.investigation with
        toolRequests := requests
        toolResults := s.investigation.toolResults ++ [⟨t, w, result⟩] } := by
  unfold insertToolExchange at h
  dsimp only at h
  split at h
  · simp only [fetch_bind_eq_ok, Table.insert?_eq_some] at h
    obtain ⟨requests, ⟨-, hrequests⟩, results, ⟨-, rfl⟩, h⟩ := h
    obtain ⟨-, rfl⟩ := Prod.mk.injEq .. ▸ Except.ok.inj h
    exact ⟨requests, .inr hrequests, rfl⟩
  · rw [require_bind_eq_ok, pure_bind, fetch_bind_eq_ok] at h
    obtain ⟨-, results, hresults, h⟩ := h
    rw [Table.insert?_eq_some] at hresults
    obtain ⟨-, rfl⟩ := hresults
    obtain ⟨-, rfl⟩ := Prod.mk.injEq .. ▸ Except.ok.inj h
    exact ⟨_, .inl rfl, rfl⟩

/-- Support does not change with the rows of another workflow. -/
theorem WorkflowStore.Supports.of_eq {t : String} {w : WorkflowId} {manifest : ContextManifest}
    {candidate : ResponseCandidate} (h : s.Supports t w manifest candidate)
    (hsteps : s'.agentStepsOf t w = s.agentStepsOf t w)
    (hrequests : s'.toolRequestsOf t w = s.toolRequestsOf t w)
    (hresults : s'.toolResultsOf t w = s.toolResultsOf t w) : s'.Supports t w manifest candidate where
  context := h.context
  linked := by rw [hresults]; exact h.linked
  tools := by rw [hresults]; exact h.tools
  evidence := by rw [hresults]; exact h.evidence
  steps := by rw [hsteps]; exact h.steps
  requests := by rw [hrequests]; exact h.requests
  results := by rw [hresults]; exact h.results
  last := by rw [hsteps]; exact h.last
  single := by rw [WorkflowStore.candidateSteps, hsteps]; exact h.single

/-- A verified outcome is of another workflow than one without any. -/
theorem other_of_verified {t : String} {w : WorkflowId} (hv : s.hasVerified t w = false) {o : OutcomeRow}
    (ho : o ∈ s.investigation.outcomes) (hverdict : o.outcome.outcome = .verified) :
    ¬ (t = o.tenantId ∧ w = o.workflowId) := by
  rintro ⟨rfl, rfl⟩
  have htrue : s.hasVerified o.tenantId o.workflowId = true :=
    WorkflowStore.hasVerified_iff.mpr ⟨o, WorkflowStore.mem_outcomesOf.mpr ⟨ho, rfl, rfl⟩, hverdict⟩
  rw [hv] at htrue
  cases htrue

/-- A recorded step. -/
theorem RecordsInv.agentStep (hs : RecordsInv s) {action : AgentAction}
    (hv : s.hasVerified a.tenantId a.workflowId = false)
    (hu : action.actionType = .responseCandidate → s.hasUndecided a.tenantId a.workflowId = false) :
    RecordsInv { s with
      investigation := { s.investigation with
        agentSteps := s.investigation.agentSteps ++ [newAgentStep a action] } } := by
  have hother : ∀ {t w}, ¬ (a.tenantId = t ∧ a.workflowId = w) →
      (s.investigation.agentSteps ++ [newAgentStep a action]).filter
        (fun y => decide (y.tenantId = t ∧ y.workflowId = w)) = s.agentStepsOf t w := by
    intro t w hne
    refine Table.filter_append_other fun y hy => ?_
    rw [List.mem_singleton.mp hy]
    exact decide_eq_false hne
  refine ⟨hs.candidates, hs.owned, hs.budget, hs.linked, hs.outcomes, fun row hrow hundecided => ?_,
    fun o ho hverdict => ?_⟩
  · have hold := hs.undecided row hrow hundecided
    by_cases hw : a.tenantId = row.tenantId ∧ a.workflowId = row.workflowId
    · -- the workflow has a candidate without an outcome, so this is no candidate step
      have hwaits : s.hasUndecided a.tenantId a.workflowId = true := by
        refine List.any_eq_true.mpr ⟨row, ?_, ?_⟩
        · exact WorkflowStore.mem_candidatesOf.mpr ⟨hrow, hw.1.symm, hw.2.symm⟩
        · have hnot : s.decided row = false := hundecided
          rw [hnot]
          rfl
      have htype : action.actionType ≠ .responseCandidate := by
        intro htype
        rw [hu htype] at hwaits
        cases hwaits
      show (((s.investigation.agentSteps ++ [newAgentStep a action]).filter _).filter _).length = 1
      rw [List.filter_append, List.filter_append]
      have hnone : ([newAgentStep a action].filter fun y =>
          decide (y.tenantId = row.tenantId ∧ y.workflowId = row.workflowId)).filter
            (fun y => decide (y.action.actionType = .responseCandidate)) = [] := by
        refine List.filter_eq_nil_iff.mpr fun y hy => ?_
        rw [List.mem_singleton.mp (List.mem_filter.mp hy).1, decide_eq_true_eq]
        exact htype
      rw [hnone, List.append_nil]
      exact hold
    · show (((s.investigation.agentSteps ++ [newAgentStep a action]).filter _).filter _).length = 1
      rw [hother hw]
      exact hold
  · obtain ⟨i, row, hi, hrow, hsupports⟩ := hs.verified o ho hverdict
    exact ⟨i, row, hi, hrow, hsupports.of_eq (hother (other_of_verified hv ho hverdict)) rfl rfl⟩

/-- A recorded exchange. -/
theorem RecordsInv.toolExchange (hs : RecordsInv s) {i : InvestigationActivation} {request : ToolRequest}
    {result : ToolResult} (hv : s.hasVerified a.tenantId a.workflowId = false)
    (hi : s.investigationActivation? a.tenantId a.workflowId = some i)
    (hwithin : (s.toolRequestsOf a.tenantId a.workflowId).length < i.manifest.toolBudget)
    {requests : List ToolRequestRow} (hrequests : requests = s.investigation.toolRequests ∨
      requests = s.investigation.toolRequests ++ [⟨a.tenantId, a.workflowId, request⟩]) :
    RecordsInv { s with
      investigation := { s.investigation with
        toolRequests := requests
        toolResults := s.investigation.toolResults ++ [⟨a.tenantId, a.workflowId, result⟩] } } := by
  have hother : ∀ {t w}, ¬ (a.tenantId = t ∧ a.workflowId = w) →
      requests.filter (fun y => decide (y.tenantId = t ∧ y.workflowId = w)) = s.toolRequestsOf t w := by
    intro t w hne
    rcases hrequests with rfl | rfl
    · rfl
    · refine Table.filter_append_other fun y hy => ?_
      rw [List.mem_singleton.mp hy]
      exact decide_eq_false hne
  have hresults : ∀ {t w}, ¬ (a.tenantId = t ∧ a.workflowId = w) →
      (s.investigation.toolResults ++ [(⟨a.tenantId, a.workflowId, result⟩ : ToolResultRow)]).filter
        (fun y => decide (y.tenantId = t ∧ y.workflowId = w)) = s.toolResultsOf t w := by
    intro t w hne
    refine Table.filter_append_other fun y hy => ?_
    rw [List.mem_singleton.mp hy]
    exact decide_eq_false hne
  refine ⟨hs.candidates, fun r hr => ?_, fun t w i' hi' => ?_, hs.linked, hs.outcomes, hs.undecided,
    fun o ho hverdict => ?_⟩
  · rcases hrequests with rfl | rfl
    · exact hs.owned r hr
    · rcases List.mem_append.mp hr with hold | hnew
      · exact hs.owned r hold
      · rw [List.mem_singleton.mp hnew]
        exact Option.isSome_of_eq_some hi
  · by_cases hw : a.tenantId = t ∧ a.workflowId = w
    · obtain ⟨rfl, rfl⟩ := hw
      have heq : i = i' := Option.some.inj (hi.symm.trans hi')
      have hgrow : (requests.filter fun y =>
          decide (y.tenantId = a.tenantId ∧ y.workflowId = a.workflowId)).length ≤
            (s.toolRequestsOf a.tenantId a.workflowId).length + 1 := by
        rcases hrequests with rfl | rfl
        · exact Nat.le_succ _
        · rw [List.filter_append, List.length_append]
          exact Nat.add_le_add_left (List.length_filter_le _ _) _
      exact heq ▸ Nat.le_trans hgrow hwithin
    · show (requests.filter _).length ≤ _
      rw [hother hw]
      exact hs.budget t w i' hi'
  · obtain ⟨i', row, hi', hrow, hsupports⟩ := hs.verified o ho hverdict
    have hne := other_of_verified hv ho hverdict
    exact ⟨i', row, hi', hrow, hsupports.of_eq rfl (hother hne) (hresults hne)⟩

/-- The first investigation of a workflow. -/
theorem RecordsInv.activation (hs : RecordsInv s) (i : InvestigationActivation) :
    RecordsInv { s with
      investigation := { s.investigation with activations := s.investigation.activations ++ [i] } } := by
  have hkeep : ∀ {t w j}, s.investigationActivation? t w = some j →
      (s.investigation.activations ++ [i]).find? (fun y => decide (y.tenantId = t ∧ y.workflowId = w)) =
        some j := by
    intro t w j hj
    have hold : s.investigation.activations.find? (fun y => decide (y.tenantId = t ∧ y.workflowId = w)) =
        some j := hj
    rw [List.find?_append, hold, Option.some_or]
  refine ⟨hs.candidates, fun r hr => ?_, fun t w j hj => ?_, fun row hrow => ?_, hs.outcomes, hs.undecided,
    fun o ho hverdict => ?_⟩
  · obtain ⟨j, hj⟩ := Option.isSome_iff_exists.mp (hs.owned r hr)
    exact Option.isSome_of_eq_some (hkeep hj)
  · cases hold : s.investigationActivation? t w with
    | some j' =>
        have heq : j' = j := Option.some.inj ((hkeep hold).symm.trans hj)
        exact heq ▸ hs.budget t w j' hold
    | none =>
        -- a request would belong to an investigation
        have hempty : s.toolRequestsOf t w = [] := by
          refine List.filter_eq_nil_iff.mpr fun r hr hkey => ?_
          obtain ⟨rfl, rfl⟩ := of_decide_eq_true hkey
          have hsome := hs.owned r hr
          rw [hold] at hsome
          cases hsome
        show (s.toolRequestsOf t w).length ≤ _
        rw [hempty]
        exact Nat.zero_le _
  · obtain ⟨j, hj, hlink⟩ := hs.linked row hrow
    exact ⟨j, hkeep hj, hlink⟩
  · obtain ⟨j, row, hj, hrow, hsupports⟩ := hs.verified o ho hverdict
    exact ⟨j, row, hkeep hj, hrow, hsupports.of_eq rfl rfl rfl⟩

/-- A recorded candidate. -/
theorem RecordsInv.candidate (hs : RecordsInv s) {i : InvestigationActivation} {row : CandidateRow}
    (hi : s.investigationActivation? row.tenantId row.workflowId = some i)
    (hlink : row.candidate.link = i.manifest.link ∧ row.candidate.contextSha256 = i.manifest.contextSha256)
    (hsingle : (s.candidateSteps row.tenantId row.workflowId).length = 1)
    (hfresh : ∀ y ∈ s.investigation.candidates, row.clash y = false) :
    RecordsInv { s with
      investigation := { s.investigation with candidates := s.investigation.candidates ++ [row] } } := by
  have hkeep : ∀ {t w o q}, s.CandidateOf t w o q →
      q ∈ (s.investigation.candidates ++ [row]).filter
        (fun y => decide (y.tenantId = t ∧ y.workflowId = w)) ∧ q.candidate.candidateId = o.outcome.candidateId := by
    rintro t w o q ⟨hq, hid⟩
    rw [List.filter_append]
    exact ⟨List.mem_append_left _ hq, hid⟩
  refine ⟨hs.candidates.append_one hfresh, hs.owned, hs.budget, fun q hq => ?_, fun o ho => ?_,
    fun q hq hundecided => ?_, fun o ho hverdict => ?_⟩
  · rcases List.mem_append.mp hq with hold | hnew
    · exact hs.linked q hold
    · rw [List.mem_singleton.mp hnew]
      exact ⟨i, hi, hlink⟩
  · obtain ⟨q, hq⟩ := hs.outcomes o ho
    exact ⟨q, hkeep hq⟩
  · rcases List.mem_append.mp hq with hold | hnew
    · exact hs.undecided q hold hundecided
    · rw [List.mem_singleton.mp hnew]
      exact hsingle
  · obtain ⟨j, q, hj, hq, hsupports⟩ := hs.verified o ho hverdict
    exact ⟨j, q, hj, hkeep hq, hsupports.of_eq rfl rfl rfl⟩

/-- A stored outcome: if it verifies, the rows support its candidate. -/
theorem RecordsInv.outcome (hs : RecordsInv s) {o : OutcomeRow} {row : CandidateRow}
    (hrow : s.CandidateOf o.tenantId o.workflowId o row)
    (hfresh : ∀ y ∈ s.investigation.outcomes, o.clash y = false)
    (hsupports : o.outcome.outcome = .verified → (s.candidateSteps o.tenantId o.workflowId).length = 1 →
      ∃ i, s.investigationActivation? o.tenantId o.workflowId = some i ∧
        s.Supports o.tenantId o.workflowId i.manifest row.candidate) :
    RecordsInv { s with
      investigation := { s.investigation with outcomes := s.investigation.outcomes ++ [o] } } := by
  refine ⟨hs.candidates, hs.owned, hs.budget, hs.linked, fun p hp => ?_, fun q hq hundecided => ?_,
    fun p hp hverdict => ?_⟩
  · rcases List.mem_append.mp hp with hold | hnew
    · exact hs.outcomes p hold
    · rw [List.mem_singleton.mp hnew]
      exact ⟨row, hrow⟩
  · refine hs.undecided q hq ?_
    have hany : (s.investigation.outcomes ++ [o]).any (fun p => decide (p.tenantId = q.tenantId ∧
        p.outcome.candidateId = q.candidate.candidateId)) = false := hundecided
    rw [List.any_append, Bool.or_eq_false_iff] at hany
    exact hany.1
  · rcases List.mem_append.mp hp with hold | hnew
    · obtain ⟨i, q, hi, hq, hsup⟩ := hs.verified p hold hverdict
      exact ⟨i, q, hi, hq, hsup.of_eq rfl rfl rfl⟩
    · rw [List.mem_singleton.mp hnew] at hverdict ⊢
      obtain ⟨hmem, hid⟩ := hrow
      obtain ⟨hcandidate, ht, hw⟩ := WorkflowStore.mem_candidatesOf.mp hmem
      have hundecided : s.decided row = false := by
        refine List.any_eq_false.mpr fun p hp => ?_
        rw [decide_eq_true_eq]
        rintro ⟨hpt, hpid⟩
        have hclash := hfresh p hp
        rw [OutcomeRow.clash, decide_eq_false_iff_not] at hclash
        exact hclash ⟨by rw [hpt, ht], .inr (by rw [hpid, hid])⟩
      have hsingle := hs.undecided row hcandidate hundecided
      rw [ht, hw] at hsingle
      obtain ⟨i, hi, hsup⟩ := hsupports hverdict hsingle
      exact ⟨i, row, hi, ⟨hmem, hid⟩, hsup.of_eq rfl rfl rfl⟩

/-- The condition reads nothing that a rebuild writes. -/
theorem recordsInTime_unmoved {env : Env} {call : Call} {s₀ : WorkflowStore}
    (h : s = { s₀ with workflowProjection := s.workflowProjection }) :
    recordsInTime env call s₀ = recordsInTime env call s := by
  generalize s.workflowProjection = rows at h
  subst h
  cases call <;> rfl

/-- A step that is recorded in time. -/
theorem inTime_of_agentStep {env : Env} {c : Checkpoint} {action : AgentAction}
    (hcond : recordsInTime env (.recordAgentAction a.tenantId a.caseId action) s = true)
    (found : s.activationForCaseForTenant a.tenantId a.caseId = some a)
    (latest : s.latestCheckpoint? a.tenantId a.workflowId = some c)
    (state : c.payload.currentState = .investigating)
    (new : s.existingAgentStep a.tenantId a.workflowId action.stepId = none) :
    s.hasVerified a.tenantId a.workflowId = false ∧
      (action.actionType = .responseCandidate → s.hasUndecided a.tenantId a.workflowId = false) := by
  have hstate : s.latestState a.tenantId a.workflowId = some .investigating := by
    rw [WorkflowStore.latestState, latest]
    exact congrArg some state
  rw [recordsInTime, found, Option.all_some, Bool.not_eq_true', decide_eq_false_iff_not] at hcond
  constructor
  · by_contra hv
    exact hcond ⟨hstate, by rw [new]; rfl, .inl (Bool.not_eq_false _ ▸ hv)⟩
  · intro htype
    by_contra hu
    exact hcond ⟨hstate, by rw [new]; rfl, .inr ⟨htype, Bool.not_eq_false _ ▸ hu⟩⟩

/-- An exchange that is recorded in time. -/
theorem inTime_of_toolExchange {env : Env} {c : Checkpoint} {request : ToolRequest} {result : ToolResult}
    (hcond : recordsInTime env (.recordToolExchange a.tenantId a.caseId request result) s = true)
    (found : s.activationForCaseForTenant a.tenantId a.caseId = some a)
    (latest : s.latestCheckpoint? a.tenantId a.workflowId = some c)
    (state : c.payload.currentState = .investigating)
    (new : s.existingToolResult a.tenantId request.toolRequestId = none) :
    s.hasVerified a.tenantId a.workflowId = false := by
  have hstate : s.latestState a.tenantId a.workflowId = some .investigating := by
    rw [WorkflowStore.latestState, latest]
    exact congrArg some state
  rw [recordsInTime, found, Option.all_some, Bool.not_eq_true', decide_eq_false_iff_not] at hcond
  by_contra hv
  exact hcond ⟨hstate, by rw [new]; rfl, Bool.not_eq_false _ ▸ hv⟩

/-- **The investigation's tables keep the invariant**, if nothing is recorded late. -/
theorem InvestigationStep.recordsInv {investigation : InvestigationTables} (h : InvestigationStep x s investigation)
    (hs : RecordsInv s) (hcond : recordsInTime x.env x.call x.start = true) :
    RecordsInv { s with investigation } := by
  cases h with
  | activation mem about latest state valid link new fresh => exact hs.activation _
  | agentStep mem about latest state stored valid call unmoved found new fresh =>
      rw [recordsInTime_unmoved unmoved, call] at hcond
      obtain ⟨hv, hu⟩ := inTime_of_agentStep hcond found latest state new
      exact hs.agentStep hv hu
  | toolExchange mem about latest state stored valid call unmoved found new within inserted =>
      rw [recordsInTime_unmoved unmoved, call] at hcond
      have hv := inTime_of_toolExchange hcond found latest state new
      obtain ⟨requests, hrequests, hinvestigation⟩ := insertToolExchange_cases inserted
      rw [hinvestigation]
      exact hs.toolExchange hv stored within hrequests
  | candidate mem about latest state stored valid single fresh =>
      rw [validateResponseCandidate, decide_eq_true_eq] at valid
      exact hs.candidate stored ⟨valid.2.2.1, valid.2.2.2⟩ single fresh
  | @outcome a i row o mem about stored candidate built valid fresh =>
      have hid : row.candidate.candidateId = o.candidateId := by rw [built]; rfl
      refine hs.outcome (o := ⟨a.tenantId, a.workflowId, o⟩) ⟨candidate, hid⟩ fresh fun hverdict hsingle =>
        ⟨i, stored, ?_⟩
      have hreason : verifierReason (s.agentStepsOf a.tenantId a.workflowId)
          ((s.toolResultsOf a.tenantId a.workflowId).map (·.result)) i.manifest (candidatePayload a row) =
            .evidenceComplete := by
        by_contra hne
        rw [built, newOutcome, VerifierReason.verdict, if_neg hne] at hverdict
        cases hverdict
      obtain ⟨hsteps, hresults, hlast, hlinked, htools, hevidence⟩ := verifierReason_complete hreason
      obtain ⟨hmem, ht, hw⟩ := WorkflowStore.mem_candidatesOf.mp candidate
      obtain ⟨i', hi', hlink⟩ := hs.linked row hmem
      rw [ht, hw, stored, Option.some.injEq] at hi'
      subst hi'
      rw [List.length_map] at hresults
      rw [List.map_map] at htools hevidence
      exact ⟨hlink, fun r hr => hlinked r.result (List.mem_map.mpr ⟨r, hr, rfl⟩), htools, hevidence, hsteps,
        hs.budget _ _ _ stored, hresults, hlast, hsingle⟩

end Step

/-! ## One transaction -/

/-- A command leads to a ready response only where its workflow was ready. -/
theorem Applies.ready {a : WorkflowActivation} {c : CheckpointPayload} {command : WorkflowCommand}
    {r : TransitionRequest} (h : Applies s a c command r)
    (hr : r.nextState = .responseReady ∨ r.resumeState = .responseReady) : c.Ready := by
  cases h with
  | pause => exact .inl (hr.resolve_left nofun)
  | resume => exact .inr (hr.elim id id)
  | cancel => exact hr.elim nofun nofun
  | absorb => exact .inl (hr.resolve_left nofun)

/-- **A transition to a ready response** comes from one, or follows a verified outcome. -/
theorem Advance.ready {a : WorkflowActivation} {c : Checkpoint} {r : TransitionRequest}
    (h : Advance x s a c r) (hr : r.nextState = .responseReady ∨ r.resumeState = .responseReady) :
    c.payload.Ready ∨ ∃ id, s.Verified a id := by
  cases h with
  | @candidateVerified id verified => exact .inr ⟨id, verified⟩
  | reconcile _ state =>
      have hresume : c.payload.currentState = .responseReady := hr.resolve_left nofun
      rw [hresume] at state
      exact state.elim nofun nofun
  | reconciled => exact .inl (.inr (hr.elim id id))
  | deliveryReconciled _ _ resume =>
      have hready : c.payload.resumeState = .responseReady := hr.elim id id
      rw [resume] at hready
      cases hready
  | _ => exact hr.elim nofun nofun

theorem VerifiedInv.latest {a : WorkflowActivation} {c : Checkpoint} (hs : VerifiedInv s)
    (hlatest : s.latestCheckpoint? a.tenantId a.workflowId = some c) (hc : c.payload.Ready) :
    s.hasVerified a.tenantId a.workflowId = true := by
  obtain ⟨hmem, ht, hw⟩ := WorkflowStore.latestCheckpoint?_mem hlatest
  have hverified := hs c hmem hc
  rwa [ht, hw] at hverified

theorem Reason.ready {a : WorkflowActivation} {r : CheckpointRequest} (h : Reason x s a r)
    (hrecords : RecordsInv s) (hs : VerifiedInv s)
    (hr : r.currentState = .responseReady ∨ r.resumeState = .responseReady) :
    s.hasVerified a.tenantId a.workflowId = true := by
  cases h with
  | ticketProgress => exact hr.elim nofun nofun
  | deliveryProgress => exact hr.elim nofun nofun
  | advance latest advance =>
      rcases advance.ready hr with hc | ⟨id, hid⟩
      · exact hs.latest latest hc
      · exact hrecords.hasVerified hid

theorem Prepares.ready {a : WorkflowActivation} {r : CheckpointRequest} (h : Prepares x s a part r)
    (hs : VerifiedInv s) (hr : r.currentState = .responseReady ∨ r.resumeState = .responseReady) :
    s.hasVerified a.tenantId a.workflowId = true := by
  cases h with
  | initial => exact hr.elim nofun nofun
  | command latest _ _ _ _ applies => exact hs.latest latest (applies.ready hr)

theorem VerifiedInv.withCheckpoint {env : Env} {a : WorkflowActivation} {r : CheckpointRequest} (hs : VerifiedInv s)
    (hverified : r.currentState = .responseReady ∨ r.resumeState = .responseReady →
      s.hasVerified a.tenantId a.workflowId = true) : VerifiedInv (s.withCheckpoint env a r) := by
  intro c hc hready
  rcases List.mem_append.mp hc with hold | hnew
  · exact hs c hold hready
  · rw [List.mem_singleton.mp hnew] at hready ⊢
    exact hverified hready

/-- Outcomes are never taken back. -/
theorem InvestigationStep.hasVerified {investigation : InvestigationTables}
    (h : InvestigationStep x s investigation) {t : String} {w : WorkflowId} (hv : s.hasVerified t w = true) :
    WorkflowStore.hasVerified { s with investigation } t w = true := by
  have hgrow : s.investigation.outcomes <+: investigation.outcomes := by
    cases h with
    | outcome => exact List.prefix_append _ _
    | toolExchange _ _ _ _ _ _ _ _ _ _ _ inserted =>
        obtain ⟨requests, -, hinvestigation⟩ := insertToolExchange_cases inserted
        rw [hinvestigation]
    | _ => exact List.prefix_rfl
  rw [WorkflowStore.hasVerified_iff] at hv ⊢
  obtain ⟨o, ho, hverdict⟩ := hv
  exact ⟨o, (hgrow.filter _).subset ho, hverdict⟩

/-- Both parts of the invariant. -/
structure VerifierInv (s : WorkflowStore) : Prop where
  records : RecordsInv s
  ready : VerifiedInv s

theorem verifierInv_empty : VerifierInv {} :=
  ⟨recordsInv_empty, fun _ hc => absurd hc List.not_mem_nil⟩

/-- The tables are read, whatever else a transaction writes. -/
theorem RecordsInv.of_eq (hs : RecordsInv s) (hi : s'.investigation = s.investigation) : RecordsInv s' := by
  obtain ⟨ledger, journal, ticket, investigation, policy, delivery, projection⟩ := s'
  obtain rfl : investigation = s.investigation := hi
  refine ⟨hs.1, hs.2, hs.3, hs.4, hs.5, hs.6, fun o ho hverdict => ?_⟩
  obtain ⟨i, row, hi, hrow, hsupports⟩ := hs.verified o ho hverdict
  exact ⟨i, row, hi, hrow, hsupports.of_eq rfl rfl rfl⟩

/-- A transaction outside the investigation that appends no checkpoint. -/
theorem VerifierInv.of_eq (hs : VerifierInv s) (hi : s'.investigation = s.investigation)
    (hc : s'.journal.checkpoints = s.journal.checkpoints) : VerifierInv s' := by
  refine ⟨hs.records.of_eq hi, fun c hmem hready => ?_⟩
  rw [hc] at hmem
  have hverified := hs.ready c hmem hready
  rwa [WorkflowStore.hasVerified, WorkflowStore.outcomesOf, hi]

/-- **Every transaction keeps the invariant**, if nothing is recorded late. -/
theorem Effect.verifierInv (h : Effect x s part s') (hs : VerifierInv s)
    (hcond : recordsInTime x.env x.call x.start = true) : VerifierInv s' := by
  cases h with
  | investigation step =>
      exact ⟨step.recordsInv hs.records hcond, fun c hc hready => step.hasVerified (hs.ready c hc hready)⟩
  | checkpoint reason =>
      exact ⟨hs.records.of_eq rfl, hs.ready.withCheckpoint (reason.ready hs.records hs.ready)⟩
  | prepare step =>
      cases step with
      | checkpoint reason =>
          exact ⟨hs.records.of_eq rfl, hs.ready.withCheckpoint (reason.ready hs.ready)⟩
      | rebuildWorkflow rebuilt =>
          obtain ⟨rows, _, rfl⟩ := WorkflowStore.rebuildWorkflowProjection_eq_ok rebuilt
          exact hs.of_eq rfl rfl
      | _ => exact hs.of_eq rfl rfl
  | _ => exact hs.of_eq rfl rfl

/-! ## Runs -/

/-- **A run that records nothing late keeps the invariant.** -/
theorem run_verifierInv {steps : List Step} (h : Along recordsInTime {} steps = true) :
    JournalInv (run steps) ∧ VerifierInv (run steps) := by
  refine @run_effects recordsInTime VerifierInv
    (fun x s => VerifierInv s ∧ recordsInTime x.env x.call x.start = true)
    (fun _ _ hinv _ hcond => ⟨hinv, hcond⟩) ?_ (fun _ _ _ hinv => hinv.1) steps verifierInv_empty h
  rintro x s s' part - - heffect - ⟨hinv, hcond⟩
  exact ⟨heffect.verifierInv hinv hcond, hcond⟩

/-- **The verifier gate.** After every run that records nothing late, a workflow with a checkpoint of a ready
    response has a verified outcome, on a candidate that the recorded rows support. -/
theorem response_ready_grounded {steps : List Step} (h : Along recordsInTime {} steps = true) :
    ∀ c ∈ (run steps).journal.checkpoints, c.payload.currentState = .responseReady →
      (run steps).Grounded c.payload.tenantId c.payload.workflowId := by
  intro c hc hstate
  obtain ⟨-, hrecords, hready⟩ := run_verifierInv h
  have hverified := hready c hc (.inl hstate)
  obtain ⟨o, ho, hverdict⟩ := WorkflowStore.hasVerified_iff.mp hverified
  obtain ⟨hmem, ht, hw⟩ := WorkflowStore.mem_outcomesOf.mp ho
  obtain ⟨i, row, hi, hrow, hsupports⟩ := hrecords.verified o hmem hverdict
  rw [ht, hw] at hi hrow hsupports
  exact ⟨i, o, row, hi, ho, hverdict, hrow, hsupports⟩

/-- The investigation of the one workflow records nothing late, and its ready response is grounded. -/
theorem response_ready_grounded_example :
    ∃ c ∈ (run (api503Response "e")).journal.checkpoints, c.payload.currentState = .responseReady ∧
      (run (api503Response "e")).Grounded c.payload.tenantId c.payload.workflowId := by
  have hintime : Along recordsInTime {} (api503Response "e") = true := by decide +kernel
  have hready : ∃ c ∈ (run (api503Response "e")).journal.checkpoints,
      c.payload.currentState = .responseReady := by decide +kernel
  obtain ⟨c, hc, hstate⟩ := hready
  exact ⟨c, hc, hstate, response_ready_grounded hintime c hc hstate⟩

/-- The process dies between the outcome and its transition, another read is recorded, and the workflow is
    recovered. -/
def lateStep : List Step :=
  (api503Response "e").dropLast ++
  [ ⟨calm 0, .verifyResponseCandidate api503Tenant api503CaseId "e", 9⟩,
    uninterrupted (calm 0) (.recordAgentAction api503Tenant api503CaseId
      ⟨api503Link "e", "e5", .read .crm, 0, "t"⟩),
    uninterrupted (calm 0) api503Recover ]

/-- **The recovery advances from the stored outcome alone**: the response is ready, and the candidate step is
    no longer the last. -/
theorem response_ready_ungrounded :
    Along anyCall {} lateStep = true ∧
    ∃ c ∈ (run lateStep).journal.checkpoints, c.payload.currentState = .responseReady ∧
      ¬ (run lateStep).Grounded c.payload.tenantId c.payload.workflowId := by
  have hlast : ∃ c ∈ (run lateStep).journal.checkpoints, c.payload.currentState = .responseReady ∧
      ((run lateStep).agentStepsOf c.payload.tenantId c.payload.workflowId).getLast?.any
        (·.action.actionType = .responseCandidate) = false := by decide +kernel
  refine ⟨by decide +kernel, ?_⟩
  obtain ⟨c, hc, hstate, hread⟩ := hlast
  refine ⟨c, hc, hstate, ?_⟩
  rintro ⟨i, o, row, hi, ho, hverdict, hrow, hsupports⟩
  have htrue := hsupports.last
  rw [hread] at htrue
  cases htrue

end WeFlow
