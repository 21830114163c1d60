import Mathlib.Data.Finset.Card
import WeFlow.Handler.Decision
import WeFlow.Handler.Terminal

/-!
# `Candidate` — a case has one current candidate of the model

A binding of a candidate made by the model is current until a lifecycle row withdraws it. A new candidate of
the case withdraws the binding of the one it replaces, in the transaction that replaces it; so a current
binding is that of its case's current candidate, and there is at most one. Two transactions act on what was
read before them: a context is stored unless its request has one by then, and an accepted final reply
withdraws whatever binding was current.

## Contents

* `CandidateInv` — a current binding is of the current candidate.
* `ReadyInv` — a case in `RESPONSE_READY` has a current binding, of its version and its context.
* `candidate_binding_unique` — the result for every run; `ready_without_binding` and
  `binding_of_lost_context` — two runs that break it.
-/

namespace WeFlow

open Txn SQLiteQQHandlerJournal SQLiteQQModelJournal

variable {setup : HandlerSetup} {V : HandlerView} {s s' : HandlerWorld} {g : HandlerGuard}
  {O : HandlerOp → Prop} {actions : List HandlerAction}

/-- The calls of the model's own store: no private command goes through a journal that has no hooks. -/
def HandlerOp.modelStage : HandlerOp → Prop
  | .privateEvent .second _ _ => False
  | _ => True

/-! ## The lifecycle of a binding -/

theorem bindingCurrent_iff {b : ModelCandidateBinding} :
    s.bindingCurrent b = true ↔ ∀ l ∈ s.lifecycle, l.bindingId ≠ b.bindingId := by
  simp [HandlerWorld.bindingCurrent]

theorem mem_withdraw {b : ModelCandidateBinding} {reasonCode : String} {l : CandidateLifecycle} :
    l ∈ (s.withdraw b reasonCode).lifecycle ↔ l ∈ s.lifecycle ∨ l = ⟨b.bindingId, reasonCode⟩ := by
  unfold HandlerWorld.withdraw
  split
  case isTrue h =>
    refine ⟨Or.inl, ?_⟩
    rintro (hl | rfl)
    exacts [hl, h]
  case isFalse => simp

/-- A binding that is current after more rows was current before. -/
theorem bindingCurrent_mono {b : ModelCandidateBinding} (hrows : ∀ l ∈ s.lifecycle, l ∈ s'.lifecycle)
    (h : s'.bindingCurrent b = true) : s.bindingCurrent b = true :=
  bindingCurrent_iff.mpr fun l hl => bindingCurrent_iff.mp h l (hrows l hl)

/-- What `invalidate_model_predecessor` adds are rows of bindings of the case. -/
theorem mem_invalidateModelPredecessor {c : HandlerCase} {l : CandidateLifecycle}
    (hl : l ∈ (invalidateModelPredecessor c s).lifecycle) : l ∈ s.lifecycle ∨
      ∃ b ∈ s.candidateBindings, b.caseId = c.caseId ∧ l.bindingId = b.bindingId := by
  unfold invalidateModelPredecessor at hl
  split at hl
  case h_1 b hb =>
    split at hl
    · obtain ⟨prior, -, hfound⟩ := Option.bind_eq_some_iff.mp hb
      have hmem := List.mem_reverse.mp (List.mem_of_find?_eq_some hfound)
      obtain ⟨hstored, hcase⟩ := List.mem_filter.mp hmem
      rcases mem_withdraw.mp hl with hl | rfl
      · exact .inl hl
      · exact .inr ⟨b, hstored, of_decide_eq_true hcase, rfl⟩
    · exact .inl hl
  case h_2 => exact .inl hl

theorem invalidateModelPredecessor_grows (c : HandlerCase) :
    ∀ l ∈ s.lifecycle, l ∈ (invalidateModelPredecessor c s).lifecycle := by
  intro l hl
  unfold invalidateModelPredecessor
  split
  · split
    · exact mem_withdraw.mpr (.inl hl)
    · exact hl
  · exact hl

/-! ## Current bindings -/

/-- **A current binding is of its case's current candidate**; bindings are found by their keys and by the
    candidate they are of. -/
structure CandidateInv (s : HandlerWorld) : Prop where
  bindings : Table.Distinct ModelCandidateBinding.clash s.candidateBindings
  stored : ∀ b ∈ s.candidateBindings, ∃ r ∈ s.candidates, r.candidateRevisionId = b.candidateRevisionId
  revisionOf : ∀ b ∈ s.candidateBindings, ∀ b' ∈ s.candidateBindings,
    b.candidateRevisionId = b'.candidateRevisionId → b = b'
  lifecycle : ∀ l ∈ s.lifecycle, ∃ b ∈ s.candidateBindings, b.bindingId = l.bindingId
  current : ∀ b ∈ s.candidateBindings, s.bindingCurrent b = true →
    ∃ c, s.case? b.caseId = some c ∧ c.currentCandidateRevisionId = some b.candidateRevisionId

theorem candidateInv_empty : CandidateInv .empty where
  bindings := Table.distinct_nil _
  stored := fun _ hb => absurd hb List.not_mem_nil
  revisionOf := fun _ hb => absurd hb List.not_mem_nil
  lifecycle := fun _ hl => absurd hl List.not_mem_nil
  current := fun _ hb => absurd hb List.not_mem_nil

/-- The binding of an identifier. -/
theorem CandidateInv.eq_of_id (hinv : CandidateInv s) {b b' : ModelCandidateBinding}
    (hb : b ∈ s.candidateBindings) (hb' : b' ∈ s.candidateBindings) (hid : b.bindingId = b'.bindingId) :
    b = b' := by
  refine hinv.bindings.eq_of_clash (fun x y => ?_) hb hb' (decide_eq_true (.inl hid))
  simp [ModelCandidateBinding.clash, eq_comm]

/-- **A new candidate withdraws the binding that it replaces**: none of the case's stays current. -/
theorem CandidateInv.invalidated (hinv : CandidateInv s) {c : HandlerCase}
    (hc : s.case? c.caseId = some c) {b : ModelCandidateBinding} (hb : b ∈ s.candidateBindings)
    (hcase : b.caseId = c.caseId) : (invalidateModelPredecessor c s).bindingCurrent b = false := by
  rw [← Bool.not_eq_true]
  intro hafter
  have hcurrent := bindingCurrent_mono (invalidateModelPredecessor_grows c) hafter
  obtain ⟨c', hc', hpointer⟩ := hinv.current b hb hcurrent
  obtain rfl : c = c' := by
    rw [hcase, hc] at hc'
    exact Option.some.inj hc'
  -- the binding of the case's current candidate is found, and it is this one
  have hmem : b ∈ (s.candidateBindings.filter fun x => x.caseId = c.caseId).reverse :=
    List.mem_reverse.mpr (List.mem_filter.mpr ⟨hb, decide_eq_true hcase⟩)
  have hsome : ((s.candidateBindings.filter fun x => x.caseId = c.caseId).reverse.find? fun x =>
      x.candidateRevisionId = b.candidateRevisionId).isSome :=
    List.find?_isSome.mpr ⟨b, hmem, decide_eq_true rfl⟩
  obtain ⟨x, hx⟩ := Option.isSome_iff_exists.mp hsome
  have hstored := (List.mem_filter.mp (List.mem_reverse.mp (List.mem_of_find?_eq_some hx))).1
  have hkey := List.find?_some hx
  rw [decide_eq_true_eq] at hkey
  obtain rfl : x = b := hinv.revisionOf x hstored b hb hkey
  have hfound : invalidateModelPredecessor c s = s.withdraw x "handler_model_candidate_replaced" := by
    simp only [invalidateModelPredecessor, hpointer, Option.bind_some, hx, hcurrent, if_true]
  rw [hfound] at hafter
  exact bindingCurrent_iff.mp hafter _ (mem_withdraw.mpr (.inr rfl)) rfl

/-- A row keeps its candidate, and is not made `RESPONSE_READY`. -/
def HandlerCase.Kept (c c' : HandlerCase) : Prop :=
  c'.currentCandidateRevisionId = c.currentCandidateRevisionId ∧ (c'.status = .responseReady → c' = c)

theorem HandlerCase.Kept.refl (c : HandlerCase) : c.Kept c := ⟨rfl, fun _ => rfl⟩

/-- **Only a new candidate** changes the candidate of a row, or makes it `RESPONSE_READY`. -/
theorem HandlerStep.kept (h : HandlerStep setup V s s') (hcandidates : s'.candidates = s.candidates)
    {caseId : String} {c : HandlerCase} (hc : s.case? caseId = some c) :
    ∃ c', s'.case? caseId = some c' ∧ c.Kept c' := by
  have hmodified : ∀ {target : String} {f : HandlerCase → HandlerCase},
      s'.cases = (s.modifyCase target f).cases → (∀ c, (f c).caseId = c.caseId) → (∀ c : HandlerCase, c.Kept (f c)) →
      ∃ c', s'.case? caseId = some c' ∧ c.Kept c' :=
    fun hcases hf hkept => case_modify hcases hf hc (.refl c) fun _ => hkept c
  cases h with
  | @issue binding new artifacts contents hb hbinding hnone =>
      refine ⟨c, ?_, .refl c⟩
      rw [HandlerWorld.case?, List.find?_append]
      show (s.case? caseId).or _ = some c
      rw [hc, Option.some_or]
  | candidate => exact absurd hcandidates (by simp)
  | @simple binding x version command =>
      refine hmodified rfl (SimpleCommand.apply_caseId command) fun c => ?_
      cases command with
      | pull => exact .refl c
      | accept | reject => exact ⟨rfl, fun h => by cases h⟩
  | decided | assistRequested | context | handedBack => exact hmodified rfl (fun _ => rfl) fun _ => ⟨rfl, fun h => by cases h⟩
  | @resultRecorded intent result passiveResults events cases hi hresult haccepted hA hresults hevents
      hcases =>
      split at hcases
      · exact hmodified hcases (fun _ => rfl) fun _ => ⟨rfl, fun h => by cases h⟩
      · refine ⟨c, ?_, .refl c⟩
        rw [HandlerWorld.case?, hcases]
        exact hc
  | _ => exact ⟨c, hc, .refl c⟩

/-- What a new candidate makes of the cases. -/
theorem case?_withCandidate {request : HandlerApprovalRequest} {model : Bool} {c : HandlerCase}
    (hcases : s'.cases = Table.modify (fun x => x.caseId = c.caseId)
      (HandlerCase.withCandidate request model) s.cases) (caseId : String) :
    s'.case? caseId = if c.caseId = caseId then (s.case? caseId).map (·.withCandidate request model)
      else s.case? caseId := by
  have hkept : ∀ c : HandlerCase, (c.withCandidate request model).caseId = c.caseId := fun _ => rfl
  rw [HandlerWorld.case?, hcases]
  exact HandlerWorld.case?_modifyCase hkept caseId

/-- The bindings that stay current when a candidate is added are those of other cases. -/
theorem CandidateInv.kept_current (hinv : CandidateInv s) {request : HandlerApprovalRequest} {model : Bool}
    {c : HandlerCase} (hc : s.case? c.caseId = some c) {b : ModelCandidateBinding}
    (hb : b ∈ s.candidateBindings) (hcurrent : s'.bindingCurrent b = true)
    (hcases : s'.cases = Table.modify (fun x => x.caseId = c.caseId)
      (HandlerCase.withCandidate request model) s.cases)
    (hlifecycle : s'.lifecycle = (invalidateModelPredecessor c s).lifecycle) :
    s.bindingCurrent b = true ∧ b.caseId ≠ c.caseId ∧ s'.case? b.caseId = s.case? b.caseId := by
  have hafter : (invalidateModelPredecessor c s).bindingCurrent b = true := by
    rw [HandlerWorld.bindingCurrent, hlifecycle] at hcurrent
    exact hcurrent
  have hother : b.caseId ≠ c.caseId := by
    intro hcase
    rw [hinv.invalidated hc hb hcase] at hafter
    cases hafter
  refine ⟨bindingCurrent_mono (invalidateModelPredecessor_grows c) hafter, hother, ?_⟩
  rw [case?_withCandidate hcases, if_neg hother.symm]

/-- What stays true of the bindings that were there when a candidate is added. -/
theorem CandidateInv.withdrawn_rows (hinv : CandidateInv s) {c : HandlerCase} {l : CandidateLifecycle}
    (hl : l ∈ (invalidateModelPredecessor c s).lifecycle) :
    ∃ b ∈ s.candidateBindings, b.bindingId = l.bindingId := by
  rcases mem_invalidateModelPredecessor hl with hl | ⟨b, hb, -, heq⟩
  · exact hinv.lifecycle l hl
  · exact ⟨b, hb, heq.symm⟩

/-- **A transaction's step on the current bindings.** -/
theorem HandlerStep.candidateInv (h : HandlerStep setup (s'.view g HandlerOp.modelStage) s s')
    (hinv : CandidateInv s) : CandidateInv s' := by
  have hkept := @HandlerStep.kept _ _ _ _ h
  have hsame : s'.candidates = s.candidates → s'.candidateBindings = s.candidateBindings →
      (∀ l ∈ s.lifecycle, l ∈ s'.lifecycle) →
      (∀ l ∈ s'.lifecycle, l ∈ s.lifecycle ∨ ∃ b ∈ s.candidateBindings, b.bindingId = l.bindingId) →
      CandidateInv s' := by
    intro hcandidates hbindings hold hnew
    refine ⟨hbindings ▸ hinv.bindings, ?_, hbindings ▸ hinv.revisionOf, fun l hl => ?_, fun b hb hcurrent => ?_⟩
    · rw [hbindings, hcandidates]
      exact hinv.stored
    · rw [hbindings]
      exact (hnew l hl).elim (hinv.lifecycle l) id
    · rw [hbindings] at hb
      obtain ⟨c, hc, hpointer⟩ := hinv.current b hb (bindingCurrent_mono hold hcurrent)
      obtain ⟨c', hc', hrow⟩ := hkept hcandidates hc
      exact ⟨c', hc', hrow.1.trans hpointer⟩
  cases h with
  | @candidate binding c version artifact issue revision now request model lifecycle artifacts contents artifactLog
      candidateBindings hc hauth hrevision hrequest hnew hfresh heffect =>
      have hrevisionId : request.candidateRevisionId = revision.candidateRevisionId := by rw [hrequest]; rfl
      have hstored : ∀ b ∈ s.candidateBindings,
          ∃ r ∈ s.candidates ++ [revision], r.candidateRevisionId = b.candidateRevisionId := by
        intro b hb
        obtain ⟨r, hr, hid⟩ := hinv.stored b hb
        exact ⟨r, List.mem_append_left _ hr, hid⟩
      cases heffect with
      | plain hsecond =>
          obtain ⟨id, event, hop⟩ := hsecond
          exact hop.elim
      | draft =>
          refine ⟨hinv.bindings, hstored, hinv.revisionOf, fun l hl => hinv.withdrawn_rows hl,
            fun b hb hcurrent => ?_⟩
          obtain ⟨hbefore, -, hrow⟩ := hinv.kept_current hc hb hcurrent rfl rfl
          rw [hrow]
          exact hinv.current b hb hbefore
      | @model assist context result b hcase hanswers hb hnewBinding =>
          have hbRevision : b.candidateRevisionId = revision.candidateRevisionId := by rw [hb]; rfl
          have hbCase : b.caseId = c.caseId := by rw [hb]; exact hcase
          -- no stored binding is of the new candidate
          have hapart : ∀ x ∈ s.candidateBindings, x.candidateRevisionId ≠ b.candidateRevisionId := by
            intro x hx heq
            obtain ⟨r, hr, hid⟩ := hinv.stored x hx
            have hclash := hnew r hr
            rw [HandlerCandidateRevision.clash, decide_eq_false_iff_not] at hclash
            exact hclash (hbRevision.symm.trans (heq.symm.trans hid.symm))
          refine ⟨hinv.bindings.append_one hnewBinding, fun x hx => ?_, fun x hx y hy heq => ?_,
            fun l hl => ?_, fun x hx hcurrent => ?_⟩
          · rcases List.mem_append.mp hx with hx | hx
            · exact hstored x hx
            · rw [List.mem_singleton.mp hx, hbRevision]
              exact ⟨revision, List.mem_append_right _ (List.mem_singleton_self _), rfl⟩
          · rcases List.mem_append.mp hx with hx | hx <;> rcases List.mem_append.mp hy with hy | hy
            · exact hinv.revisionOf x hx y hy heq
            · rw [List.mem_singleton.mp hy] at heq
              exact absurd heq (hapart x hx)
            · rw [List.mem_singleton.mp hx] at heq
              exact absurd heq.symm (hapart y hy)
            · rw [List.mem_singleton.mp hx, List.mem_singleton.mp hy]
          · obtain ⟨x, hx, hid⟩ := hinv.withdrawn_rows hl
            exact ⟨x, List.mem_append_left _ hx, hid⟩
          · rcases List.mem_append.mp hx with hx | hx
            · obtain ⟨hbefore, -, hrow⟩ := hinv.kept_current hc hx hcurrent rfl rfl
              rw [hrow]
              exact hinv.current x hx hbefore
            · rw [List.mem_singleton.mp hx, hbCase]
              refine ⟨c.withCandidate request true, ?_, ?_⟩
              · rw [case?_withCandidate rfl, if_pos rfl, hc]
                rfl
              · show some request.candidateRevisionId = some b.candidateRevisionId
                rw [hrevisionId, hbRevision]
  | withdrawn hi hfinal haccepted htold hrecord hcase hA =>
      refine hsame rfl rfl (fun l hl => mem_withdraw.mpr (.inl hl)) fun l hl => ?_
      exact (mem_withdraw.mp hl).imp id fun heq => ⟨_, hrecord, by rw [heq]⟩
  | _ => exact hsame rfl rfl (fun _ hl => hl) fun _ hl => .inl hl

theorem handlerDisturbance_candidateInv (e : HandlerDisturbance) (hinv : CandidateInv s) :
    CandidateInv (handlerDisturbance e s) := by
  cases e <;> exact ⟨hinv.bindings, hinv.stored, hinv.revisionOf, hinv.lifecycle, hinv.current⟩

/-- **A case has at most one current binding.** -/
theorem CandidateInv.unique (hinv : CandidateInv s) (caseId : String) :
    (s.candidateBindings.filter fun b => b.caseId = caseId ∧ s.bindingCurrent b).length ≤ 1 := by
  have hdistinct : (s.candidateBindings.filter fun b => b.caseId = caseId ∧ s.bindingCurrent b).Nodup := by
    refine (hinv.bindings.nodup fun b => ?_).filter _
    exact decide_eq_true (.inl rfl)
  rw [← List.toFinset_card_of_nodup hdistinct, Finset.card_le_one]
  intro a ha b hb
  have hof : ∀ x, x ∈ (s.candidateBindings.filter fun b => b.caseId = caseId ∧ s.bindingCurrent b).toFinset →
      x ∈ s.candidateBindings ∧ x.caseId = caseId ∧ s.bindingCurrent x = true := by
    intro x hx
    obtain ⟨hstored, hkey⟩ := List.mem_filter.mp (List.mem_toFinset.mp hx)
    exact ⟨hstored, of_decide_eq_true hkey⟩
  obtain ⟨ha, hacase, hacurrent⟩ := hof a ha
  obtain ⟨hb, hbcase, hbcurrent⟩ := hof b hb
  -- both are of the case's current candidate
  obtain ⟨c, hc, hpointer⟩ := hinv.current a ha hacurrent
  obtain ⟨c', hc', hpointer'⟩ := hinv.current b hb hbcurrent
  rw [hacase, ← hbcase, hc', Option.some.injEq] at hc
  rw [← hc, hpointer', Option.some.injEq] at hpointer
  exact hinv.revisionOf a ha b hb hpointer.symm

/-! ## Cases that are ready -/

/-- **A context finds none of its request, and a delivered final reply no case that is ready again.** -/
def HandlerGuard.candidatesKept : HandlerGuard where
  txn t s := (∀ request context, t = ⟨insertContext request context⟩ →
      s.context? request.assistRequestId = none) ∧
    ∀ (record : ModelCandidateBinding) (reasonCode : String),
      t = ⟨fun s => .ok ((), s.withdraw record reasonCode)⟩ → s.Outside (· = .responseReady) record.caseId
  disturb _ _ := True

/-- The binding is of the case's candidate, request and version, and of the stored context. -/
structure ModelCandidateBinding.Of (b : ModelCandidateBinding) (s : HandlerWorld) (c : HandlerCase) : Prop where
  candidate : c.currentCandidateRevisionId = some b.candidateRevisionId
  request : c.currentApprovalRequestId = some b.approvalRequestId
  version : b.workflowVersion = c.workflowVersion
  context : ∃ x, s.context? b.assistRequestId = some x ∧ b.contextId = x.contextId ∧
    b.contextSha256 = x.contextSha256

/-- **A case in `RESPONSE_READY`** has a current binding of its candidate, version and context. -/
structure ReadyInv (s : HandlerWorld) : Prop extends CandidateInv s where
  contexts : Table.Distinct ModelAssistContext.clash s.contexts
  ready : ∀ caseId c, s.case? caseId = some c → c.status = .responseReady →
    ∃ b ∈ s.candidateBindings, b.caseId = caseId ∧ s.bindingCurrent b = true ∧ b.Of s c

theorem readyInv_empty : ReadyInv .empty :=
  { candidateInv_empty with contexts := Table.distinct_nil _, ready := fun _ _ hc => nomatch hc }

/-- A stored context is the context of its request in all that follows. -/
theorem HandlerStep.context?_grows (h : HandlerStep setup V s s') {id : AssistRequestId}
    {x : ModelAssistContext} (hx : s.context? id = some x) : s'.context? id = some x := by
  cases h with
  | @context request context contexts hr hcontext hA hcontexts =>
      rw [HandlerWorld.context?, hcontexts]
      cases hi : Table.insert? ModelAssistContext.clash context s.contexts with
      | none => exact hx
      | some rows =>
          obtain ⟨-, rfl⟩ := Table.insert?_eq_some.mp hi
          rw [Option.getD_some, List.find?_append, show s.contexts.find? _ = _ from hx, Option.some_or]
  | _ => exact hx

theorem HandlerStep.contexts_distinct (h : HandlerStep setup V s s')
    (hinv : Table.Distinct ModelAssistContext.clash s.contexts) :
    Table.Distinct ModelAssistContext.clash s'.contexts := by
  cases h with
  | @context request context contexts hr hcontext hA hcontexts =>
      rw [hcontexts]
      cases hi : Table.insert? ModelAssistContext.clash context s.contexts with
      | none => exact hinv
      | some rows => exact hinv.insert hi
  | _ => exact hinv

/-- A new candidate leaves the bindings of other cases current. -/
theorem CandidateInv.other_current (hinv : CandidateInv s) {c : HandlerCase} {b : ModelCandidateBinding}
    (hb : b ∈ s.candidateBindings) (hother : b.caseId ≠ c.caseId) (hcurrent : s.bindingCurrent b = true) :
    (invalidateModelPredecessor c s).bindingCurrent b = true := by
  refine bindingCurrent_iff.mpr fun l hl hid => ?_
  rcases mem_invalidateModelPredecessor hl with hl | ⟨x, hx, hcase, hxid⟩
  · exact bindingCurrent_iff.mp hcurrent l hl hid
  · have hsame := hinv.eq_of_id hx hb (hxid.symm.trans hid)
    exact hother (hsame ▸ hcase)

/-- **The new binding of a case** that is made `RESPONSE_READY`. -/
theorem ReadyInv.answered (hinv : ReadyInv s) {version : Nat} {c : HandlerCase}
    {artifact issue : HandlerArtifact} {revision : HandlerCandidateRevision} {now : Instant}
    {request : HandlerApprovalRequest} {assist : ModelAssistRequest} {context : ModelAssistContext}
    {result : QQModelRuntimeResult} {b : ModelCandidateBinding}
    (hrequest : request = approvalRequest c issue revision now)
    (hb : b = modelBinding assist context result artifact revision request)
    (hanswers : (s'.view .candidatesKept O).Answers setup version assist context)
    (hcontexts : s'.contexts = s.contexts) : b.Of s' (c.withCandidate request true) := by
  obtain ⟨-, -, hof, hstored | ⟨s₀, hA, hsome⟩⟩ := hanswers
  · have hfound : s.context? context.assistRequestId = some context := by
      have hrow : context ∈ s.contexts := hcontexts ▸ hstored
      refine hinv.contexts.find?_key (fun x y => ?_) (fun x y hxy => decide_eq_true hxy) hrow
      simp [ModelAssistContext.clash, eq_comm]
    refine ⟨by rw [hb, hrequest]; rfl, by rw [hb]; rfl, by rw [hb, hrequest]; rfl, context, ?_, ?_⟩
    · rw [HandlerWorld.context?, hcontexts, hb]
      show s.context? assist.assistRequestId = some context
      rw [← hof, hfound]
    · rw [hb]
      exact ⟨rfl, rfl⟩
  · exact absurd (hA.2.1 assist context rfl) hsome

/-- **A transaction's step on the cases that are ready.** -/
theorem HandlerStep.readyInv (h : HandlerStep setup (s'.view .candidatesKept HandlerOp.modelStage) s s')
    (hinv : ReadyInv s) : ReadyInv s' := by
  refine { h.candidateInv hinv.toCandidateInv with
    contexts := h.contexts_distinct hinv.contexts, ready := fun caseId c' hc' hstatus => ?_ }
  have hlater : ∀ {b : ModelCandidateBinding} {c : HandlerCase}, b.Of s c → b.Of s' c := by
    intro b c hof
    obtain ⟨x, hx, hids⟩ := hof.context
    exact { hof with context := ⟨x, h.context?_grows hx, hids⟩ }
  -- a row that no candidate is added to is ready because it was
  have hsame : s'.candidates = s.candidates → s'.candidateBindings = s.candidateBindings →
      (∀ b ∈ s.candidateBindings, s.Outside (· = .responseReady) b.caseId ∨
        (s.bindingCurrent b = true → s'.bindingCurrent b = true)) →
      ∃ b ∈ s'.candidateBindings, b.caseId = caseId ∧ s'.bindingCurrent b = true ∧ b.Of s' c' := by
    intro hcandidates hbindings hcurrent
    cases hc : s.case? caseId with
    | none =>
        have hready := (h.case_new hc hc').1
        rw [hstatus] at hready
        cases hready
    | some c =>
        obtain ⟨c'', hc'', -, hrow⟩ := h.kept hcandidates hc
        obtain rfl : c'' = c' := Option.some.inj (hc''.symm.trans hc')
        obtain rfl := hrow hstatus
        obtain ⟨b, hb, rfl, hbefore, hof⟩ := hinv.ready caseId c'' hc hstatus
        refine ⟨b, hbindings ▸ hb, rfl, ?_, hlater hof⟩
        rcases hcurrent b hb with houtside | hkept
        · have hnot := houtside c'' hc
          rw [hstatus] at hnot
          cases hnot
        · exact hkept hbefore
  cases h with
  | @candidate binding c version artifact issue revision now request model lifecycle artifacts contents artifactLog
      candidateBindings hc hauth hrevision hrequest hnew hfresh heffect =>
      rw [case?_withCandidate rfl] at hc'
      by_cases hcase : c.caseId = caseId
      · rw [if_pos hcase, ← hcase, hc, Option.map_some, Option.some.injEq] at hc'
        subst hc'
        cases heffect with
        | plain hsecond => exact hsecond.elim fun id hop => hop.elim fun event hop => hop.elim
        | draft => cases hstatus
        | @model assist context result b hof hanswers hb hnewBinding =>
            refine ⟨b, List.mem_append_right _ (List.mem_singleton_self _), ?_, ?_,
              hinv.answered hrequest hb hanswers rfl⟩
            · rw [hb, ← hcase]
              exact hof
            · refine bindingCurrent_iff.mpr fun l hl hid => ?_
              obtain ⟨x, hx, hxid⟩ := hinv.withdrawn_rows hl
              have hclash := hnewBinding x hx
              rw [ModelCandidateBinding.clash, decide_eq_false_iff_not] at hclash
              exact hclash (.inl (hid.symm.trans hxid.symm))
      · rw [if_neg hcase] at hc'
        obtain ⟨b, hb, hbcase, hcurrent, hof⟩ := hinv.ready caseId c' hc' hstatus
        have hafter := hinv.other_current hb (fun h => hcase (h.symm.trans hbcase)) hcurrent
        cases heffect with
        | plain hsecond => exact hsecond.elim fun id hop => hop.elim fun event hop => hop.elim
        | draft => exact ⟨b, hb, hbcase, hafter, hlater hof⟩
        | model => exact ⟨b, List.mem_append_left _ hb, hbcase, hafter, hlater hof⟩
  | @withdrawn intent result record reasonCode hi hfinal haccepted htold hrecord hcase hA =>
      refine hsame rfl rfl fun b hb => ?_
      by_cases hid : record.bindingId = b.bindingId
      · have hb' := hinv.eq_of_id hrecord hb hid
        exact .inl (hb' ▸ hA.2.2 record reasonCode rfl)
      · refine .inr fun hbefore => bindingCurrent_iff.mpr fun l hl => ?_
        rcases mem_withdraw.mp hl with hl | rfl
        · exact bindingCurrent_iff.mp hbefore l hl
        · exact hid
  | _ => exact hsame rfl rfl fun b hb => .inr id

theorem handlerDisturbance_readyInv (e : HandlerDisturbance) (hinv : ReadyInv s) :
    ReadyInv (handlerDisturbance e s) := by
  refine { handlerDisturbance_candidateInv e hinv.toCandidateInv with contexts := ?_, ready := ?_ }
  · cases e <;> exact hinv.contexts
  · intro caseId c hc hstatus
    rw [handlerDisturbance_case?] at hc
    obtain ⟨b, hb, hcase, hcurrent, hof⟩ := hinv.ready caseId c hc hstatus
    cases e <;> exact ⟨b, hb, hcase, hcurrent, { hof with context := hof.context }⟩

/-! ## The result -/

/-- **A case has at most one current candidate of the model**, in every run of the model's store. On every
    schedule on which a context finds none of its request, and a delivered final reply no case that is ready
    again, a case in `RESPONSE_READY` has one: of its candidate, version and stored context. -/
theorem candidate_binding_unique (setup : HandlerSetup) (actions : List HandlerAction)
    (hops : ∀ op, .start op ∈ actions → op.modelStage) :
    let s := (HandlerSys.run setup actions).store
    (∀ caseId, (s.candidateBindings.filter fun b => b.caseId = caseId ∧ s.bindingCurrent b).length ≤ 1) ∧
    (HandlerSys.Along setup .candidatesKept actions →
      ∀ caseId c, s.case? caseId = some c → c.status = .responseReady →
        ∃ b, (s.candidateBindings.filter fun b => b.caseId = caseId ∧ s.bindingCurrent b) = [b] ∧ b.Of s c) := by
  intro s
  have hinv : CandidateInv s := by
    refine HandlerSys.invariant (g := .free) candidateInv_empty ?_ ?_ hops (Sys.along_free actions)
    · exact fun _ _ hinv hstep => hstep.candidateInv hinv
    · exact fun e _ _ hinv => handlerDisturbance_candidateInv e hinv
  refine ⟨hinv.unique, fun hguard caseId c hc hstatus => ?_⟩
  have hready : ReadyInv s := by
    refine HandlerSys.invariant readyInv_empty ?_ ?_ hops hguard
    · exact fun _ _ hinv hstep => hstep.readyInv hinv
    · exact fun e _ _ hinv => handlerDisturbance_readyInv e hinv
  obtain ⟨b, hb, hcase, hcurrent, hof⟩ := hready.ready caseId c hc hstatus
  have hmem : b ∈ s.candidateBindings.filter fun b => b.caseId = caseId ∧ s.bindingCurrent b :=
    List.mem_filter.mpr ⟨hb, decide_eq_true ⟨hcase, hcurrent⟩⟩
  exact ⟨b, Table.eq_singleton hmem (hinv.unique caseId), hof⟩

/-! ## An assistance that is answered -/

/-- A transaction that returns something writes no context and withdraws no binding. -/
theorem HandlerGuard.candidatesKept_advance {c : HandlerSys} {i : Nat} {α : Type}
    (hresult : (c.next? i).map AnyTxn.result = some α) {a b : α} (hne : a ≠ b) :
    c.Allows HandlerGuard.candidatesKept (.advance i : HandlerAction) := by
  intro t ht
  rw [ht, Option.map_some, Option.some.injEq] at hresult
  have hunit : α ≠ Unit := by
    rintro rfl
    exact hne rfl
  refine ⟨?_, ?_⟩
  · rintro request context rfl
    exact absurd hresult.symm hunit
  · rintro record reasonCode rfl
    exact absurd hresult.symm hunit

/-- No context is stored, and no case is in `RESPONSE_READY`. -/
def HandlerWorld.unanswered (s : HandlerWorld) : Bool :=
  s.contexts.isEmpty && s.cases.all fun c => c.status ≠ .responseReady

theorem HandlerGuard.candidatesKept_of_unanswered (s : HandlerWorld) (h : s.unanswered = true) :
    (∀ t, HandlerGuard.candidatesKept.txn t s) ∧ ∀ e, HandlerGuard.candidatesKept.disturb e s := by
  rw [HandlerWorld.unanswered, Bool.and_eq_true] at h
  obtain ⟨hcontexts, hcases⟩ := h
  refine ⟨fun t => ⟨fun request context _ => ?_, fun record reasonCode _ c hc => ?_⟩, fun _ => trivial⟩
  · rw [HandlerWorld.context?, List.isEmpty_iff.mp hcontexts]
    rfl
  · have hopen := List.all_eq_true.mp hcases c (HandlerWorld.case?_some hc).1
    exact decide_eq_false (of_decide_eq_true hopen)

/-- The case is accepted. -/
def acceptedCase : List HandlerAction :=
  openedCase ++ callSteps (.privateEvent .third onlyBinding (privateMessage "m1" 1 (.simple .accept))) 2 20

/-- The assistance that message `messageId` asks for at a version; the model's answer is ready. -/
def assistedBy (messageId : String) (version i n : Nat) : List HandlerAction :=
  callSteps (.assistEvent onlyBinding (assistMessage messageId version) readyAnswer) i n

set_option maxRecDepth 20000 in
/-- The last three transactions of an answered assistance store the budget, read the clock, and make the
    candidate; each returns what it has read or made. -/
theorem candidatesKept_answered :
    HandlerSys.Along plainSetup .candidatesKept (acceptedCase ++ assistedBy "m2" 2 3 18) := by
  have hcompiled : HandlerSys.Along plainSetup .candidatesKept (acceptedCase ++ assistedBy "m2" 2 3 15) :=
    Sys.along_of_startsIn HandlerGuard.candidatesKept_of_unanswered (by decide +kernel)
  have hsplit : acceptedCase ++ assistedBy "m2" 2 3 18 =
      acceptedCase ++ assistedBy "m2" 2 3 15 ++ [.advance 3, .advance 3, .advance 3] := rfl
  let answer : QQModelRuntimeResult :=
    ⟨.responseReady, "", none, true, ⟨stableIdentifier (sha256 ⟨"", "", "", onlyBinding, 0, "", ""⟩), "", 0, ""⟩⟩
  let artifact (expiresAt : Instant) : HandlerArtifact :=
    ⟨stableIdentifier (.issue "" "" "" ""), "", "", "", expiresAt⟩
  let c : HandlerCase := ⟨"", "", "", onlyBinding, (artifact 0).artifactId, "", 0, .ready, none, none⟩
  let made (expiresAt : Instant) := (artifact expiresAt, candidateRevision c (artifact 0) 0,
    approvalRequest c (artifact 0) (candidateRevision c (artifact 0) 0) 0)
  rw [hsplit]
  refine Sys.along_append.mpr ⟨hcompiled, ?_, ?_, ?_, trivial⟩
  · exact HandlerGuard.candidatesKept_advance (Eq.refl (some QQModelRuntimeResult))
      (a := answer) (b := { answer with reasonCode := "ok" }) (by simp [answer])
  · exact HandlerGuard.candidatesKept_advance (Eq.refl (some Instant)) (a := (0 : Nat)) (b := (1 : Nat)) (by simp)
  · exact HandlerGuard.candidatesKept_advance
      (Eq.refl (some (HandlerArtifact × HandlerCandidateRevision × HandlerApprovalRequest)))
      (a := made 0) (b := made 1) (by simp [made, artifact])

/-- The assistance is answered, and the case has one current binding. -/
theorem candidate_binding_unique_answered :
    let s := (HandlerSys.run plainSetup (acceptedCase ++ assistedBy "m2" 2 3 18)).store
    ∃ b, (s.candidateBindings.filter fun b => b.caseId = "c1" ∧ s.bindingCurrent b) = [b] := by
  intro s
  have hops : ∀ op, .start op ∈ acceptedCase ++ assistedBy "m2" 2 3 18 → op.modelStage := by
    intro op hop
    simp [acceptedCase, openedCase, assistedBy, callSteps] at hop
    rcases hop with rfl | rfl | rfl | rfl <;> trivial
  have hready : ((s.case? "c1").any fun c => c.status = .responseReady) = true := by decide +kernel
  obtain ⟨c, hc, hstatus⟩ := (Option.any_eq_true _ _).mp hready
  obtain ⟨-, hone⟩ := candidate_binding_unique plainSetup _ hops
  obtain ⟨b, hb, -⟩ := hone candidatesKept_answered "c1" c hc (of_decide_eq_true hstatus)
  exact ⟨b, hb⟩

/-! ## Two runs that break it -/

/-- Two handlings of one message compile its context; the first to do so is killed, the other one goes on
    with the context that was not stored. -/
def racedAssist : List HandlerAction :=
  acceptedCase ++ assistedBy "m2" 2 3 14 ++ [.disturb (.elapse 1)] ++ assistedBy "m2" 2 4 16 ++ [.crash 4] ++
    List.replicate 4 (.advance 3)

/-- **The current binding is of a context that is not stored.** -/
theorem binding_of_lost_context :
    let s := (HandlerSys.run plainSetup racedAssist).store
    s.standing "c1" = some (.responseReady, 3) ∧
      ((s.currentModelBinding "c1").any fun b => (s.context? b.assistRequestId).any fun x =>
        b.contextSha256 ≠ x.contextSha256) = true := by
  constructor <;> decide +kernel

/-- The request of the candidate that the model has made of version `version`. -/
def modelRequest (version : Nat) : HandlerRequestId :=
  stableIdentifier ⟨"c1", version,
    stableIdentifier ⟨"c1", version, stableIdentifier (.response "c1" version "draft")⟩, "draft"⟩

/-- The final reply of the model's candidate of version 4 is executed by call number `i`. -/
def modelReply (i n : Nat) : List HandlerAction :=
  callSteps (.executePassiveReply .third (stableIdentifier (sha256 (.passive "g1" 5 "c1" onlyBinding 4 .final)))
    onlyBinding "draft" ⟨.outcome ⟨.rejected, "absent", none⟩, .outcome ⟨.accepted, "ok", none⟩⟩) i n

/-- An assistance is killed before its context. Another one is answered and approved, and its final reply is
    accepted; the executor is killed before the content is deleted. -/
def repliedCase : List HandlerAction :=
  openedCase ++ [.disturb (.pairing [onlyGroup])] ++
    callSteps (.privateEvent .third onlyBinding (privateMessage "m1" 1 (.simple .accept))) 2 20 ++
    assistedBy "m2" 2 3 14 ++ [.crash 3] ++
    callSteps (.privateEvent .third onlyBinding (privateMessage "m3" 2 (.simple .accept))) 4 20 ++
    assistedBy "m4" 3 5 30 ++
    callSteps (.groupApproval .third onlyBinding
      ⟨"member", "group", "g1", 0, .ok ⟨modelRequest 4, "draft", 4⟩⟩) 6 30 ++
    modelReply 7 10 ++ [.crash 7]

/-- The first assistance is delivered again, and reopens the case; the case is accepted, and a new candidate
    of the model is ready. -/
def reopenedCase : List HandlerAction :=
  repliedCase ++ assistedBy "m2" 2 8 30 ++
    callSteps (.privateEvent .third onlyBinding (privateMessage "m5" 4 (.simple .accept))) 9 20 ++
    assistedBy "m6" 5 10 30

/-- **A case in `RESPONSE_READY` has no current binding**: the final reply is executed again, and withdraws
    the new candidate's. -/
theorem ready_without_binding :
    ((HandlerSys.run plainSetup reopenedCase).store.currentModelBinding "c1").isSome = true ∧
      (HandlerSys.run plainSetup (reopenedCase ++ modelReply 11 20)).store.standing "c1" =
        some (.responseReady, 6) ∧
      (HandlerSys.run plainSetup (reopenedCase ++ modelReply 11 20)).store.currentModelBinding "c1" = none := by
  refine ⟨?_, ?_, ?_⟩ <;> decide +kernel

end WeFlow
