import WeFlow.Kernel.Closure.Policy

/-!
# `Investigation` — the journal's investigation is accepted, and keeps its budget

What `_validate_investigation_source` asks of manifests, steps, exchanges, candidates and outcomes holds of
every journal that the kernel writes. A request and its result are inserted together, so that the number of
results is bounded by the manifest's tool budget as well.

## Contents

* `InvestigationRows` — what each row of the investigation's tables repeats of the rows it belongs to.
* `Effect.investigationRows` — every transaction keeps the rows.
* `InvestigationRows.source_valid` — the check of the journal.
-/

namespace WeFlow

open Txn

variable {x : Context} {s s' : WorkflowStore} {a : WorkflowActivation} {part : Part}

/-! ## The rows -/

/-- The investigations of a workflow. -/
def WorkflowStore.investigationsOf (s : WorkflowStore) (t : String) (w : WorkflowId) :
    List InvestigationActivation :=
  s.investigation.activations.filter fun i => i.tenantId = t ∧ i.workflowId = w

/-- An investigation is of its workflow, and was begun at one of its checkpoints. -/
structure InvestigationRow (s : WorkflowStore) (a : WorkflowActivation) (i : InvestigationActivation) :
    Prop where
  owner : i.tenantId = a.tenantId ∧ i.workflowId = a.workflowId
  valid : validateContextManifest i.manifest = true
  link : i.manifest.link.tenantId = a.tenantId ∧ i.manifest.link.caseId = a.caseId ∧
    i.manifest.link.caseRevisionId = a.caseRevisionId ∧ i.manifest.link.workflowId = a.workflowId
  checkpoint : ∃ c ∈ s.checkpointRows a.tenantId a.workflowId,
    c.payload.checkpointId = i.manifest.link.checkpointId

/-- A row of a workflow that its investigation admits. -/
def Admits (s : WorkflowStore) (t : String) (w : WorkflowId) (p : ContextManifest → Prop) : Prop :=
  ∃ i ∈ s.investigationsOf t w, p i.manifest

/-- The result that was stored with a request. -/
def WorkflowStore.Answered (s : WorkflowStore) (r : ToolRequestRow) : Prop :=
  ∃ y ∈ s.investigation.toolResults, y.tenantId = r.tenantId ∧ y.workflowId = r.workflowId ∧
    y.result.toolRequestId = r.request.toolRequestId ∧ validateToolResult y.result r.request = true

/-- What an outcome repeats of its candidate. -/
structure OutcomeOf (s : WorkflowStore) (a : WorkflowActivation) (o : OutcomeRow) : Prop where
  owner : o.tenantId = a.tenantId ∧ o.workflowId = a.workflowId
  link : o.outcome.link.caseId = a.caseId ∧ o.outcome.link.caseRevisionId = a.caseRevisionId
  candidate : ∃ row ∈ s.candidatesOf a.tenantId a.workflowId,
    validateVerifierOutcome o.outcome (candidatePayload a row) = true

/-- **The rows of an investigation's tables**, as the store has the rows they belong to. -/
structure InvestigationRows (s : WorkflowStore) (p : InvestigationTables) : Prop where
  activations : Table.Distinct InvestigationActivation.clash p.activations
  toolResults : Table.Distinct ToolResultRow.clash p.toolResults
  candidates : Table.Distinct CandidateRow.clash p.candidates
  activation : ∀ i ∈ p.activations, ∃ a ∈ s.journal.activations, InvestigationRow s a i
  agentStep : ∀ y ∈ p.agentSteps, Admits s y.tenantId y.workflowId fun m =>
    validateAgentAction y.action m = true
  toolRequest : ∀ r ∈ p.toolRequests, s.Answered r ∧ Admits s r.tenantId r.workflowId fun m =>
    validateToolRequest r.request m = true
  candidate : ∀ row ∈ p.candidates, Admits s row.tenantId row.workflowId fun m =>
    validateResponseCandidate row.candidate m = true
  outcome : ∀ o ∈ p.outcomes, ∃ a ∈ s.journal.activations, OutcomeOf s a o
  budget : ∀ i ∈ p.activations, ((p.toolRequests.filter fun r =>
    r.tenantId = i.tenantId ∧ r.workflowId = i.workflowId).length ≤ i.manifest.toolBudget)
  paired : ∀ t w, (p.toolResults.filter fun y => y.tenantId = t ∧ y.workflowId = w).length =
    (p.toolRequests.filter fun r => r.tenantId = t ∧ r.workflowId = w).length

theorem investigationRows_empty : InvestigationRows {} {} where
  activations := Table.distinct_nil _
  toolResults := Table.distinct_nil _
  candidates := Table.distinct_nil _
  activation := fun i hi => by simp at hi
  agentStep := fun y hy => by simp at hy
  toolRequest := fun r hr => by simp at hr
  candidate := fun row hrow => by simp at hrow
  outcome := fun o ho => by simp at ho
  budget := fun i hi => by simp at hi
  paired := fun _ _ => rfl

/-- The investigation's tables have grown. -/
structure InvestigationGrows (p q : InvestigationTables) : Prop where
  activations : p.activations <+: q.activations
  agentSteps : p.agentSteps <+: q.agentSteps
  toolRequests : p.toolRequests <+: q.toolRequests
  toolResults : p.toolResults <+: q.toolResults
  candidates : p.candidates <+: q.candidates
  outcomes : p.outcomes <+: q.outcomes

theorem InvestigationGrows.refl (p : InvestigationTables) : InvestigationGrows p p :=
  ⟨List.prefix_rfl, List.prefix_rfl, List.prefix_rfl, List.prefix_rfl, List.prefix_rfl, List.prefix_rfl⟩

theorem InvestigationGrows.trans {p q r : InvestigationTables} (h : InvestigationGrows p q)
    (h' : InvestigationGrows q r) : InvestigationGrows p r :=
  ⟨h.activations.trans h'.activations, h.agentSteps.trans h'.agentSteps, h.toolRequests.trans h'.toolRequests,
    h.toolResults.trans h'.toolResults, h.candidates.trans h'.candidates, h.outcomes.trans h'.outcomes⟩

/-! ## One transaction -/

theorem Admits.mono {t : String} {w : WorkflowId} {p : ContextManifest → Prop} (h : Admits s t w p)
    (hp : InvestigationGrows s.investigation s'.investigation) : Admits s' t w p := by
  obtain ⟨i, hi, hrow⟩ := h
  exact ⟨i, (hp.activations.filter _).subset hi, hrow⟩

/-- What the rows belong to stays. -/
theorem InvestigationRows.mono {p : InvestigationTables} (hr : InvestigationRows s p) (hg : Grows s s')
    (hp : InvestigationGrows s.investigation s'.investigation) : InvestigationRows s' p := by
  refine { hr with activation := fun i hi => ?_, agentStep := fun y hy => (hr.agentStep y hy).mono hp,
                   toolRequest := fun r hrm => ⟨?_, (hr.toolRequest r hrm).2.mono hp⟩,
                   candidate := fun row hrow => (hr.candidate row hrow).mono hp, outcome := fun o ho => ?_ }
  · obtain ⟨a, ha, hrow⟩ := hr.activation i hi
    obtain ⟨c, hc, hid⟩ := hrow.checkpoint
    exact ⟨a, hg.activations.subset ha,
      { hrow with checkpoint := ⟨c, (hg.checkpoints.filter _).subset hc, hid⟩ }⟩
  · obtain ⟨y, hy, hrest⟩ := (hr.toolRequest r hrm).1
    exact ⟨y, hp.toolResults.subset hy, hrest⟩
  · obtain ⟨a, ha, hrow⟩ := hr.outcome o ho
    obtain ⟨row, hrowm, hvalid⟩ := hrow.candidate
    exact ⟨a, hg.activations.subset ha,
      { hrow with candidate := ⟨row, (hp.candidates.filter _).subset hrowm, hvalid⟩ }⟩

theorem investigationActivation?_mem {t : String} {w : WorkflowId} {i : InvestigationActivation}
    (h : s.investigationActivation? t w = some i) : i ∈ s.investigationsOf t w := by
  unfold WorkflowStore.investigationActivation? at h
  have hkey := List.find?_some h
  exact List.mem_filter.mpr ⟨List.mem_of_find?_eq_some h, hkey⟩

/-- A workflow has one investigation. -/
theorem InvestigationRows.investigation_unique (hr : InvestigationRows s s.investigation) {t : String}
    {w : WorkflowId} {i j : InvestigationActivation} (hi : i ∈ s.investigationsOf t w)
    (hj : j ∈ s.investigationsOf t w) : i = j := by
  obtain ⟨him, hik⟩ := List.mem_filter.mp hi
  obtain ⟨hjm, hjk⟩ := List.mem_filter.mp hj
  rw [decide_eq_true_eq] at hik hjk
  refine hr.activations.eq_of_clash (fun i j => ?_) him hjm
    (decide_eq_true ⟨hik.1.trans hjk.1.symm, Or.inr (Or.inl (hik.2.trans hjk.2.symm))⟩)
  simp only [InvestigationActivation.clash, eq_comm]

/-- **An exchange inserts both rows**: a request that is stored has its result. -/
theorem InvestigationRows.exchange_inserts (hr : InvestigationRows s s.investigation) {t : String}
    {w : WorkflowId} {request : ToolRequest} {result : ToolResult}
    (new : s.existingToolResult t request.toolRequestId = none)
    (inserted : insertToolExchange t w request result s = .ok ((), s')) :
    s'.investigation =
      { s.investigation with
        toolRequests := s.investigation.toolRequests ++ [⟨t, w, request⟩]
        toolResults := s.investigation.toolResults ++ [⟨t, w, result⟩] } ∧
    ∀ y ∈ s.investigation.toolResults, ToolResultRow.clash ⟨t, w, result⟩ y = false := by
  unfold insertToolExchange at inserted
  dsimp only at inserted
  split at inserted
  · simp only [fetch_bind_eq_ok, Table.insert?_eq_some] at inserted
    obtain ⟨requests, ⟨-, rfl⟩, results, ⟨fresh, rfl⟩, heq⟩ := inserted
    obtain ⟨-, rfl⟩ := Prod.mk.injEq .. ▸ Except.ok.inj heq
    exact ⟨rfl, fresh⟩
  · next row hstored =>
      have hkey := List.find?_some hstored
      rw [decide_eq_true_eq] at hkey
      obtain ⟨⟨y, hy, hyt, -, hyid, -⟩, -⟩ := hr.toolRequest row (List.mem_of_find?_eq_some hstored)
      have hnone := List.find?_eq_none.mp new y hy
      exact absurd (decide_eq_true ⟨hyt.trans hkey.1, hyid.trans hkey.2⟩) hnone

/-- The candidate as its workflow sees it is the stored one. -/
theorem candidatePayload_eq {row : CandidateRow} (hcase : row.candidate.link.caseId = a.caseId)
    (hrevision : row.candidate.link.caseRevisionId = a.caseRevisionId) :
    candidatePayload a row = row.candidate := by
  unfold candidatePayload
  rw [← hcase, ← hrevision]

/-- **Every transaction on the investigation's tables keeps the rows.** -/
theorem InvestigationStep.investigationRows {investigation : InvestigationTables}
    (h : InvestigationStep x s investigation) (hr : InvestigationRows s s.investigation) :
    InvestigationRows { s with investigation } investigation := by
  have hmono : InvestigationGrows s.investigation investigation →
      InvestigationRows { s with investigation } s.investigation :=
    fun hgrows => hr.mono { Grows.refl s with } hgrows
  have hrefl := InvestigationGrows.refl s.investigation
  cases h with
  | @activation a c manifest transcriptId mem about latest state valid link new fresh =>
      have hbase := hmono { hrefl with activations := List.prefix_append _ _ }
      obtain ⟨hcmem, hct, hcw⟩ := WorkflowStore.latestCheckpoint?_mem latest
      have hcrow : c ∈ s.checkpointRows a.tenantId a.workflowId :=
        List.mem_filter.mpr ⟨hcmem, decide_eq_true ⟨hct, hcw⟩⟩
      refine { hbase with activations := hr.activations.append_one fresh, activation := ?_, budget := ?_ }
      · refine List.forall_mem_append.mpr ⟨hbase.activation, List.forall_mem_singleton.mpr ?_⟩
        exact ⟨a, mem, ⟨rfl, rfl⟩, valid, ⟨link.1, link.2.1, link.2.2.1, link.2.2.2.1⟩, c, hcrow,
          link.2.2.2.2.symm⟩
      · refine List.forall_mem_append.mpr ⟨hbase.budget, List.forall_mem_singleton.mpr ?_⟩
        -- no request is stored without an investigation
        have hnil : s.investigation.toolRequests.filter (fun r => r.tenantId = a.tenantId ∧
            r.workflowId = a.workflowId) = [] := by
          refine List.filter_eq_nil_iff.mpr fun r hrm hkey => ?_
          rw [decide_eq_true_eq] at hkey
          obtain ⟨-, i, hi, -⟩ := hr.toolRequest r hrm
          rw [hkey.1, hkey.2] at hi
          obtain ⟨him, hik⟩ := List.mem_filter.mp hi
          exact List.find?_eq_none.mp new i him hik
        exact (le_of_eq (congrArg List.length hnil)).trans (Nat.zero_le _)
  | @agentStep a c investigation action mem about latest state stored valid call unmoved found new fresh =>
      have hbase := hmono { hrefl with agentSteps := List.prefix_append _ _ }
      refine { hbase with agentStep := ?_ }
      refine List.forall_mem_append.mpr ⟨hbase.agentStep, List.forall_mem_singleton.mpr ?_⟩
      exact ⟨investigation, investigationActivation?_mem stored, valid⟩
  | @toolExchange a c i request result s₁ mem about latest state stored valid call unmoved found new within
      inserted =>
      obtain ⟨heq, fresh⟩ := hr.exchange_inserts new inserted
      rw [heq]
      rw [heq] at hmono
      have hbase := hmono { hrefl with toolRequests := List.prefix_append _ _,
                                       toolResults := List.prefix_append _ _ }
      have himem := investigationActivation?_mem stored
      refine { hbase with toolResults := hr.toolResults.append_one fresh, toolRequest := ?_, budget := ?_,
                          paired := ?_ }
      · refine List.forall_mem_append.mpr ⟨hbase.toolRequest, List.forall_mem_singleton.mpr ?_⟩
        obtain ⟨-, -, -, -, -, -, -, -, -, -, -, hid, -⟩ := of_decide_eq_true valid.2
        exact ⟨⟨_, List.mem_append_right _ (List.mem_singleton_self _), rfl, rfl, hid, valid.2⟩, i, himem,
          valid.1⟩
      · intro j hj
        by_cases hkey : a.tenantId = j.tenantId ∧ a.workflowId = j.workflowId
        · have hjmem : j ∈ s.investigationsOf a.tenantId a.workflowId :=
            List.mem_filter.mpr ⟨hj, decide_eq_true ⟨hkey.1.symm, hkey.2.symm⟩⟩
          obtain rfl := hr.investigation_unique hjmem himem
          rw [← hkey.1, ← hkey.2, List.filter_append, List.length_append]
          have hnew := List.length_filter_le (fun r : ToolRequestRow =>
            decide (r.tenantId = a.tenantId ∧ r.workflowId = a.workflowId))
            [⟨a.tenantId, a.workflowId, request⟩]
          rw [List.length_singleton] at hnew
          have hold : (s.investigation.toolRequests.filter fun r =>
              r.tenantId = a.tenantId ∧ r.workflowId = a.workflowId).length < j.manifest.toolBudget := within
          omega
        · rw [Table.filter_append_other fun r hrm => ?_]
          · exact hr.budget j hj
          · rw [List.mem_singleton.mp hrm]
            exact decide_eq_false hkey
      · intro t w
        have hold := hr.paired t w
        rw [List.filter_append, List.filter_append, List.length_append, List.length_append, hold]
        congr 1
        by_cases hkey : a.tenantId = t ∧ a.workflowId = w
        · simp [hkey]
        · simp [hkey]
  | @candidate a c i candidate mem about latest state stored valid single fresh =>
      have hbase := hmono { hrefl with candidates := List.prefix_append _ _ }
      refine { hbase with candidates := hr.candidates.append_one fresh, candidate := ?_ }
      refine List.forall_mem_append.mpr ⟨hbase.candidate, List.forall_mem_singleton.mpr ?_⟩
      exact ⟨i, investigationActivation?_mem stored, valid⟩
  | @outcome a i row outcome mem about stored candidate built valid fresh =>
      have hbase := hmono { hrefl with outcomes := List.prefix_append _ _ }
      refine { hbase with outcome := ?_ }
      refine List.forall_mem_append.mpr ⟨hbase.outcome, List.forall_mem_singleton.mpr ?_⟩
      have hlink : outcome.link.caseId = a.caseId ∧ outcome.link.caseRevisionId = a.caseRevisionId := by
        rw [built]
        exact ⟨rfl, rfl⟩
      exact ⟨a, mem, ⟨rfl, rfl⟩, hlink, row, candidate, valid⟩

/-- **Every transaction keeps the rows.** -/
theorem Effect.investigationRows (h : Effect x s part s') (hr : InvestigationRows s s.investigation) :
    InvestigationRows s' s'.investigation := by
  by_cases hpart : part = .investigation
  · cases h with
    | investigation step => exact step.investigationRows hr
    | prepare step => exact absurd hpart step.not_part.2.2.2.1
    | _ => exact absurd hpart nofun
  · have hinvestigation := h.investigation_eq hpart
    have hbase := hr.mono h.grows (hinvestigation ▸ InvestigationGrows.refl _)
    rw [hinvestigation]
    exact hbase

/-! ## The check -/

theorem CandidateRow.clash_comm (q r : CandidateRow) : q.clash r = r.clash q := by
  simp only [CandidateRow.clash, eq_comm]

theorem ToolResultRow.clash_comm (q r : ToolResultRow) : q.clash r = r.clash q := by
  simp only [ToolResultRow.clash, eq_comm]

section Check

variable (hj : JournalInv s) (hr : InvestigationRows s s.investigation) (ha : a ∈ s.journal.activations)

include hj hr ha

/-- What an investigation admits is admitted by its manifest. -/
theorem InvestigationRows.admitted {i : InvestigationActivation}
    (hi : i ∈ s.investigationsOf a.tenantId a.workflowId) {p : ContextManifest → Prop} {t : String}
    {w : WorkflowId} (h : Admits s t w p) (hkey : t = a.tenantId ∧ w = a.workflowId) :
    InvestigationRow s a i ∧ p i.manifest := by
  obtain ⟨j, hjm, hp⟩ := h
  rw [hkey.1, hkey.2] at hjm
  obtain rfl := hr.investigation_unique hjm hi
  obtain ⟨hmem, hik⟩ := List.mem_filter.mp hi
  rw [decide_eq_true_eq] at hik
  exact ⟨hj.row_of ha (hr.activation j hmem) (fun _ => InvestigationRow.owner) hik.1 hik.2, hp⟩

/-- The candidates of a workflow, as it sees them. -/
theorem InvestigationRows.candidate_row {row : CandidateRow}
    (hrow : row ∈ s.candidatesOf a.tenantId a.workflowId) : candidatePayload a row = row.candidate := by
  obtain ⟨hmem, hkey⟩ := List.mem_filter.mp hrow
  rw [decide_eq_true_eq] at hkey
  obtain ⟨i, hi, hvalid⟩ := hr.candidate row hmem
  rw [hkey.1, hkey.2] at hi
  obtain ⟨hirow, -⟩ := hr.admitted hj ha hi (p := fun _ => True) ⟨i, hi, trivial⟩ ⟨rfl, rfl⟩
  obtain ⟨-, -, hlink, -⟩ := of_decide_eq_true hvalid
  refine candidatePayload_eq ?_ ?_
  · rw [hlink]
    exact hirow.link.2.1
  · rw [hlink]
    exact hirow.link.2.2.1

/-- An outcome's candidate is found by its identifier. -/
theorem InvestigationRows.outcome_valid {o : OutcomeRow} (ho : o ∈ s.outcomesOf a.tenantId a.workflowId) :
    (((s.candidatesOf a.tenantId a.workflowId).map (candidatePayload a)).find? fun c =>
      c.candidateId = (verifierOutcomePayload a o).candidateId).any
        (validateVerifierOutcome (verifierOutcomePayload a o)) = true := by
  obtain ⟨hmem, hkey⟩ := List.mem_filter.mp ho
  rw [decide_eq_true_eq] at hkey
  have hof := hj.row_of ha (hr.outcome o hmem) (fun _ => OutcomeOf.owner) hkey.1 hkey.2
  have hpayload : verifierOutcomePayload a o = o.outcome := by
    unfold verifierOutcomePayload
    rw [← hof.link.1, ← hof.link.2]
  obtain ⟨row, hrow, hvalid⟩ := hof.candidate
  rw [hpayload]
  have hid : row.candidate.candidateId = o.outcome.candidateId := by
    obtain ⟨-, -, -, -, hid, -⟩ := of_decide_eq_true hvalid
    rw [hid]
    rfl
  have hfound : (s.candidatesOf a.tenantId a.workflowId).find? (fun q =>
      q.candidate.candidateId = o.outcome.candidateId) = some row := by
    have hdistinct : Table.Distinct CandidateRow.clash (s.candidatesOf a.tenantId a.workflowId) :=
      hr.candidates.filter _
    refine hdistinct.find?_eq_some CandidateRow.clash_comm hrow (decide_eq_true hid) fun q hq hqid => ?_
    have hqk := of_decide_eq_true (List.mem_filter.mp hq).2
    have hrk := of_decide_eq_true (List.mem_filter.mp hrow).2
    exact decide_eq_true ⟨hqk.1.trans hrk.1.symm, Or.inl ((of_decide_eq_true hqid).trans hid.symm)⟩
  rw [List.find?_map]
  have hcomp : ((fun c : ResponseCandidate => decide (c.candidateId = o.outcome.candidateId)) ∘
      candidatePayload a) = fun q => decide (q.candidate.candidateId = o.outcome.candidateId) := rfl
  rw [hcomp, hfound, Option.map_some, Option.any_some]
  exact hvalid

/-- **`_validate_investigation_source` accepts every workflow.** -/
theorem InvestigationRows.source_valid :
    s.validateInvestigationSource a (s.checkpointsOf a.tenantId a.workflowId) = .ok () := by
  have hone : (s.investigationsOf a.tenantId a.workflowId).length ≤ 1 := by
    refine hr.activations.filter_key_le_one fun i j hi hjm => ?_
    rw [decide_eq_true_eq] at hi hjm
    exact decide_eq_true ⟨hi.1.trans hjm.1.symm, Or.inr (Or.inl (hi.2.trans hjm.2.symm))⟩
  unfold WorkflowStore.validateInvestigationSource
  generalize hactivations : List.filter _ s.investigation.activations = rows
  have hrows : s.investigationsOf a.tenantId a.workflowId = rows := hactivations
  match rows, hrows with
  | [], _ => rfl
  | [i], hrows =>
      have hi : i ∈ s.investigationsOf a.tenantId a.workflowId := by
        rw [hrows]
        exact List.mem_singleton_self i
      have hmanifest : ∀ {t : String} {w : WorkflowId} {p : ContextManifest → Prop}, Admits s t w p →
          t = a.tenantId ∧ w = a.workflowId → p i.manifest :=
        fun h hkey => (hr.admitted hj ha hi h hkey).2
      have hrow : InvestigationRow s a i :=
        (hr.admitted hj ha hi (p := fun _ => True) ⟨i, hi, trivial⟩ ⟨rfl, rfl⟩).1
      obtain ⟨c, hc, hid⟩ := hrow.checkpoint
      have hlink : belongsTo a ((s.checkpointsOf a.tenantId a.workflowId).map (·.payload.checkpointId))
          i.manifest.link.caseId i.manifest.link.caseRevisionId i.manifest.link.workflowId
          i.manifest.link.checkpointId = true := by
        refine decide_eq_true ⟨hrow.link.2.1, hrow.link.2.2.1, hrow.link.2.2.2, ?_⟩
        rw [hj.checkpointsOf_eq ha, ← hid]
        exact List.mem_map_of_mem hc
      dsimp only
      rw [require_bind_eq_ok, require_bind_eq_ok, require_bind_eq_ok, require_bind_eq_ok, require_bind_eq_ok,
        require_eq_ok]
      refine ⟨hrow.valid, decide_eq_true ⟨hrow.link.1, hlink⟩, ?_, ?_, ?_, ?_⟩
      · refine List.all_eq_true.mpr fun y hy => ?_
        obtain ⟨hmem, hkey⟩ := List.mem_filter.mp hy
        exact hmanifest (hr.agentStep y hmem) (of_decide_eq_true hkey)
      · refine List.all_eq_true.mpr fun r hrm => ?_
        obtain ⟨hmem, hkey⟩ := List.mem_filter.mp hrm
        rw [decide_eq_true_eq] at hkey
        obtain ⟨⟨y, hy, hyt, -, hyid, hvalid⟩, hadmits⟩ := hr.toolRequest r hmem
        refine decide_eq_true ⟨hmanifest hadmits hkey, ?_⟩
        have hyt' : y.tenantId = a.tenantId := hyt.trans hkey.1
        have hfound : s.investigation.toolResults.find? (fun z => z.tenantId = a.tenantId ∧
            z.result.toolRequestId = r.request.toolRequestId) = some y := by
          refine hr.toolResults.find?_eq_some ToolResultRow.clash_comm hy (decide_eq_true ⟨hyt', hyid⟩)
            fun z _ hz => ?_
          obtain ⟨hzt, hzid⟩ := of_decide_eq_true hz
          exact decide_eq_true ⟨hzt.trans hyt'.symm, Or.inr (hzid.trans hyid.symm)⟩
        rw [hfound, Option.any_some]
        exact hvalid
      · refine List.all_eq_true.mpr fun candidate hcandidate => ?_
        obtain ⟨row, hrowm, rfl⟩ := List.mem_map.mp hcandidate
        rw [hr.candidate_row hj ha hrowm]
        obtain ⟨hmem, hkey⟩ := List.mem_filter.mp hrowm
        exact hmanifest (hr.candidate row hmem) (of_decide_eq_true hkey)
      · refine List.all_eq_true.mpr fun payload hpayload => ?_
        obtain ⟨o, ho, rfl⟩ := List.mem_map.mp hpayload
        exact hr.outcome_valid hj ha ho
  | i :: j :: rest, hrows =>
      rw [hrows] at hone
      simp at hone

end Check

end WeFlow
