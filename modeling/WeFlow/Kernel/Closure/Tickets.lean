import WeFlow.Kernel.Closure.Checkpoints
import WeFlow.Kernel.Exactly

/-!
# `Tickets` — the journal's ticket effects are accepted

Every intent with its observations and its completion is a chain that `validate_side_effect_chain` accepts,
and every operation of the ticket store agrees with its revision and its intent, in every journal that the
kernel writes.

## Contents

* `executedRevision_eq_ok` — the revision an execution ends at.
* `TicketRows` — what each row of the ticket tables repeats of the rows it belongs to.
* `TicketRows.intents_valid`, `chain_valid`, `source_valid` — the three checks of the journal.
-/

namespace WeFlow

open Txn

variable {x : Context} {s s' : WorkflowStore} {a : WorkflowActivation} {part : Part}

/-! ## The rows -/

/-- The revision an execution ends at, and what the revisions are then. -/
inductive Executed (env : Env) (s : WorkflowStore) (i : SideEffectIntent) :
    TicketRevision → List TicketRevision → Prop
  | found {latest : TicketRevision} (operation : i.operation = .findOrCreate)
      (stored : s.latestTicket? i.tenantId i.naturalKey = some latest) :
      Executed env s i latest s.ticket.revisions
  | created (operation : i.operation = .findOrCreate)
      (fresh : ∀ r ∈ s.ticket.revisions, (firstRevision env i).clash r = false) :
      Executed env s i (firstRevision env i) (s.ticket.revisions ++ [firstRevision env i])
  | handedOff {latest : TicketRevision} (operation : i.operation = .workflowHandoff)
      (stored : s.latestTicket? i.tenantId i.naturalKey = some latest)
      (expected : s.expectedHandoffVersion i = some latest.version)
      (fresh : ∀ r ∈ s.ticket.revisions, (handoffRevision env i latest).clash r = false) :
      Executed env s i (handoffRevision env i latest) (s.ticket.revisions ++ [handoffRevision env i latest])

theorem executedRevision_eq_ok {env : Env} {i : SideEffectIntent} {r : TicketRevision}
    {revisions : List TicketRevision} (h : executedRevision env i s = .ok (some (r, revisions))) :
    Executed env s i r revisions := by
  unfold executedRevision at h
  dsimp only at h
  cases hop : i.operation with
  | findOrCreate =>
      rw [hop] at h
      cases hlatest : s.latestTicket? i.tenantId i.naturalKey with
      | some latest =>
          rw [hlatest] at h
          simp only [Except.ok.injEq, Option.some.injEq, Prod.mk.injEq] at h
          obtain ⟨rfl, rfl⟩ := h
          exact .found hop hlatest
      | none =>
          rw [hlatest] at h
          simp only [fetch_bind_eq_ok, Table.insert?_eq_some, pure, Except.pure, Except.ok.injEq,
            Option.some.injEq, Prod.mk.injEq] at h
          obtain ⟨inserted, ⟨fresh, rfl⟩, rfl, rfl⟩ := h
          exact .created hop fresh
  | workflowHandoff =>
      rw [hop] at h
      cases hlatest : s.latestTicket? i.tenantId i.naturalKey with
      | none =>
          rw [hlatest] at h
          simp at h
      | some latest =>
          rw [hlatest] at h
          cases hexpected : s.expectedHandoffVersion i with
          | none =>
              rw [hexpected] at h
              simp at h
          | some expected =>
              rw [hexpected] at h
              by_cases hversion : latest.version = expected
              · simp only [if_pos hversion, fetch_bind_eq_ok, Table.insert?_eq_some, pure, Except.pure,
                  Except.ok.injEq, Option.some.injEq, Prod.mk.injEq] at h
                obtain ⟨inserted, ⟨fresh, rfl⟩, rfl, rfl⟩ := h
                exact .handedOff hop hlatest (hversion ▸ hexpected) fresh
              · simp [if_neg hversion] at h

/-- What an intent repeats of its activation and of a checkpoint. -/
structure IntentRow (s : WorkflowStore) (a : WorkflowActivation) (i : SideEffectIntent) : Prop where
  of : IntentOf a i
  identity : i.identity = a.identity
  valid : validateSideEffectIntent i = true
  checkpoint : ∃ c ∈ s.checkpointRows a.tenantId a.workflowId, c.payload.checkpointId = i.checkpointId

/-- What an operation of the ticket store repeats of its intent and its revision. -/
structure OperationRow (i : SideEffectIntent) (r : TicketRevision) (o : TicketOperationRow) : Prop where
  tenant : o.tenantId = i.tenantId ∧ r.tenantId = i.tenantId
  idempotencyKey : o.idempotencyKey = i.idempotencyKey
  operation : o.operation = i.operation ∧ r.operation = i.operation
  naturalKey : o.naturalKey = i.naturalKey ∧ r.naturalKey = i.naturalKey
  ticket : r.ticketId = o.ticketId
  version : r.version = o.observedVersion
  outcome : r.outcomeSha256 = o.outcomeSha256
  versions : o.versionsValid = true

/-- **The rows of the ticket tables.** -/
structure TicketRows (s : WorkflowStore) : Prop where
  observations : Table.Distinct SideEffectObservation.clash s.ticket.observations
  revisions : Table.Distinct TicketRevision.clash s.ticket.revisions
  intent : ∀ i ∈ s.ticket.intents, ∃ a ∈ s.journal.activations, IntentRow s a i
  observation : ∀ o ∈ s.ticket.observations, ∃ i ∈ s.ticket.intents, o.linked i = true
  completion : ∀ d ∈ s.ticket.completions, ∃ i ∈ s.ticket.intents, ∃ o ∈ s.ticket.observations,
    o.tenantId = i.tenantId ∧ o.intentId = i.intentId ∧ validateSideEffectCompletion d = true ∧
    ∃ env, newCompletion env i o = some d
  operation : ∀ o ∈ s.ticket.operations, ∃ i ∈ s.ticket.intents, ∃ r ∈ s.ticket.revisions, OperationRow i r o
  revision : ∀ r ∈ s.ticket.revisions, ∃ i ∈ s.ticket.intents, i.operation = r.operation ∧
    i.tenantId = r.tenantId ∧ i.naturalKey = r.naturalKey ∧ s.Operated i

theorem ticketRows_empty : TicketRows {} where
  observations := Table.distinct_nil _
  revisions := Table.distinct_nil _
  intent := fun i hi => by simp at hi
  observation := fun o ho => by simp at ho
  completion := fun d hd => by simp at hd
  operation := fun o ho => by simp at ho
  revision := fun r hr => by simp at hr

/-! ## One transaction -/

theorem IntentRow.mono {i : SideEffectIntent} (h : IntentRow s a i) (hg : Grows s s') : IntentRow s' a i := by
  obtain ⟨c, hc, hid⟩ := h.checkpoint
  exact { h with checkpoint := ⟨c, (hg.checkpoints.filter _).subset hc, hid⟩ }

/-- A ticket that has a revision was created by an operation. -/
theorem TicketRows.created (hr : TicketRows s) (hs : TicketInv s) {t : String} {k : TicketNaturalKey}
    {latest : TicketRevision} (h : s.latestTicket? t k = some latest) :
    ∃ i ∈ s.ticket.intents, i.operation = .findOrCreate ∧ i.tenantId = t ∧ i.naturalKey = k ∧
      s.Operated i := by
  have hne : s.ticketRevisionsOf t k ≠ [] := by
    intro hnil
    rw [WorkflowStore.latestTicket?_eq_none.mpr hnil] at h
    cases h
  have hfirst : ∃ r ∈ s.ticketRevisionsOf t k, r.operation = .findOrCreate := by
    have hhistory := hs.history t k
    generalize s.ticketRevisionsOf t k = rows at hne hhistory
    cases hhistory with
    | absent => exact absurd rfl hne
    | created _ operation => exact ⟨_, List.mem_singleton_self _, operation⟩
    | handedOff _ operation => exact ⟨_, List.mem_cons_self, operation⟩
  obtain ⟨r, hrmem, hop⟩ := hfirst
  obtain ⟨hmem, hkey⟩ := List.mem_filter.mp hrmem
  rw [decide_eq_true_eq] at hkey
  obtain ⟨i, hi, hiop, hit, hik, hoperated⟩ := hr.revision r hmem
  exact ⟨i, hi, hiop.trans hop, hit.trans hkey.1, hik.trans hkey.2, hoperated⟩

/-- **An execution inserts a revision** and agrees with it: its effect has not taken place before. -/
theorem Executed.inserts {env : Env} {i : SideEffectIntent} {r : TicketRevision}
    {revisions : List TicketRevision} (h : Executed env s i r revisions) (hj : JournalInv s)
    (hs : TicketInv s) (hr : TicketRows s) (mem : i ∈ s.ticket.intents) (new : ¬ s.Operated i) :
    revisions = s.ticket.revisions ++ [r] ∧ (∀ q ∈ s.ticket.revisions, r.clash q = false) ∧
    OperationRow i r (newTicketOperation env i (s.expectedHandoffVersion i) r) := by
  cases h with
  | @found latest operation stored =>
      obtain ⟨j, hjmem, hjop, hjt, hjk, hoperated⟩ := hr.created hs stored
      obtain rfl : j = i := hs.intent_unique hj hjmem mem hjt hjk (hjop.trans operation.symm)
      exact absurd hoperated new
  | created operation fresh =>
      refine ⟨rfl, fresh, ⟨rfl, rfl⟩, rfl, ⟨rfl, operation.symm⟩, ⟨rfl, rfl⟩, rfl, rfl, rfl, ?_⟩
      unfold TicketOperationRow.versionsValid newTicketOperation
      simp only [operation]
      refine decide_eq_true ⟨?_, rfl⟩
      unfold WorkflowStore.expectedHandoffVersion
      rw [operation]
  | @handedOff latest operation stored expected fresh =>
      refine ⟨rfl, fresh, ⟨rfl, rfl⟩, rfl, ⟨rfl, operation.symm⟩, ⟨rfl, rfl⟩, rfl, rfl, rfl, ?_⟩
      unfold TicketOperationRow.versionsValid newTicketOperation
      simp only [operation, expected, Option.any_some]
      exact decide_eq_true rfl

/-- **Every transaction on the ticket tables keeps the rows.** -/
theorem TicketStep.ticketRows {ticket : TicketTables} (h : TicketStep x s ticket) (hj : JournalInv s)
    (hs : TicketInv s) (hr : TicketRows s) : TicketRows { s with ticket } := by
  have hintent : ∀ ticket : TicketTables, ∀ i ∈ s.ticket.intents, ∃ a ∈ s.journal.activations,
      IntentRow { s with ticket } a i := by
    intro ticket i hi
    obtain ⟨a, ha, hrow⟩ := hr.intent i hi
    exact ⟨a, ha, { hrow with }⟩
  cases h with
  | @intent a c operation mem about latest state prior valid new fresh =>
      have hmono : ∀ i ∈ s.ticket.intents, i ∈ s.ticket.intents ++
          [newIntent x.env a c.payload.checkpointId operation] := fun i hi => List.mem_append_left _ hi
      refine { hr with intent := ?_, observation := ?_, completion := ?_, operation := ?_, revision := ?_ }
      · intro i hi
        rcases List.mem_append.mp hi with hi | hi
        · exact hintent _ i hi
        · rw [List.mem_singleton.mp hi]
          obtain ⟨hcmem, hct, hcw⟩ := WorkflowStore.latestCheckpoint?_mem latest
          have hcrow : c ∈ s.checkpointRows a.tenantId a.workflowId :=
            List.mem_filter.mpr ⟨hcmem, decide_eq_true ⟨hct, hcw⟩⟩
          exact ⟨a, mem, intentOf_newIntent, rfl, valid, c, hcrow, rfl⟩
      · intro o ho
        obtain ⟨i, hi, hlinked⟩ := hr.observation o ho
        exact ⟨i, hmono i hi, hlinked⟩
      · intro d hd
        obtain ⟨i, hi, hrest⟩ := hr.completion d hd
        exact ⟨i, hmono i hi, hrest⟩
      · intro o ho
        obtain ⟨i, hi, hrest⟩ := hr.operation o ho
        exact ⟨i, hmono i hi, hrest⟩
      · intro r hrm
        obtain ⟨i, hi, hrest⟩ := hr.revision r hrm
        exact ⟨i, hmono i hi, hrest⟩
  | @execute i r revisions mem incomplete new executed fresh =>
      obtain ⟨heq, hfresh, hrow⟩ := (executedRevision_eq_ok executed).inserts hj hs hr mem
        (WorkflowStore.ticketOperation?_eq_none.mp new)
      have hkeep : ∀ j, s.Operated j → ∃ p ∈ s.ticket.operations ++
          [newTicketOperation x.env i (s.expectedHandoffVersion i) r], p.tenantId = j.tenantId ∧
          p.idempotencyKey = j.idempotencyKey := by
        rintro j ⟨p, hp, hkey⟩
        exact ⟨p, List.mem_append_left _ hp, hkey⟩
      subst heq
      refine { hr with revisions := hr.revisions.append_one hfresh, intent := hintent _,
                       operation := ?_, revision := ?_ }
      · intro o ho
        rcases List.mem_append.mp ho with ho | ho
        · obtain ⟨j, hjmem, q, hq, hqrow⟩ := hr.operation o ho
          exact ⟨j, hjmem, q, List.mem_append_left _ hq, hqrow⟩
        · rw [List.mem_singleton.mp ho]
          exact ⟨i, mem, r, List.mem_append_right _ (List.mem_singleton_self r), hrow⟩
      · intro q hq
        rcases List.mem_append.mp hq with hq | hq
        · obtain ⟨j, hjmem, hjop, hjt, hjk, hoperated⟩ := hr.revision q hq
          exact ⟨j, hjmem, hjop, hjt, hjk, hkeep j hoperated⟩
        · rw [List.mem_singleton.mp hq]
          exact ⟨i, mem, hrow.operation.2.symm, hrow.tenant.2.symm, hrow.naturalKey.2.symm, _,
            List.mem_append_right _ (List.mem_singleton_self _), rfl, rfl⟩
  | @observe i phase outcome mem incomplete reports valid fresh =>
      refine { hr with observations := hr.observations.append_one fresh, intent := hintent _,
                       observation := ?_, completion := ?_ }
      · intro o ho
        rcases List.mem_append.mp ho with ho | ho
        · exact hr.observation o ho
        · rw [List.mem_singleton.mp ho]
          have htenant : nonEmpty i.tenantId = true := (of_decide_eq_true valid).1
          exact ⟨i, mem, decide_eq_true ⟨valid, rfl, htenant, rfl⟩⟩
      · intro d hd
        obtain ⟨j, hjmem, o, ho, hrest⟩ := hr.completion d hd
        exact ⟨j, hjmem, o, List.mem_append_left _ ho, hrest⟩
  | @complete i o d mem incomplete observed owner built valid fresh =>
      refine { hr with intent := hintent _, completion := ?_ }
      intro e he
      rcases List.mem_append.mp he with he | he
      · exact hr.completion e he
      · rw [List.mem_singleton.mp he]
        exact ⟨i, mem, o, observed, owner.1, owner.2, valid, x.env, built⟩

theorem Effect.ticketRows (h : Effect x s part s') (hj : JournalInv s) (hs : TicketInv s)
    (hr : TicketRows s) : TicketRows s' := by
  have hgrows := h.grows
  by_cases hpart : part = .ticket
  · cases h with
    | ticket step => exact step.ticketRows hj hs hr
    | prepare step => exact absurd hpart step.not_part.2.2.1
    | _ => exact absurd hpart nofun
  · have hread : ∀ s s' : WorkflowStore, s'.ticket = s.ticket → Grows s s' → TicketRows s →
        TicketRows s' := by
      rintro ⟨_, _, _, _, _, _, _⟩ ⟨_, _, _, _, _, _, _⟩ rfl hgrows hr
      refine { hr with intent := fun i hi => ?_ }
      obtain ⟨a, ha, hrow⟩ := hr.intent i hi
      exact ⟨a, hgrows.activations.subset ha, hrow.mono hgrows⟩
    exact hread s s' (h.ticket_eq hpart) hgrows hr

/-! ## The checks -/

theorem SideEffectObservation.clash_comm (o p : SideEffectObservation) : o.clash p = p.clash o := by
  simp only [SideEffectObservation.clash, eq_comm]

theorem TicketRevision.clash_comm (q r : TicketRevision) : q.clash r = r.clash q := by
  simp only [TicketRevision.clash, eq_comm]

/-- The rows of a workflow's intents. -/
theorem TicketRows.row (hr : TicketRows s) (hj : JournalInv s) (ha : a ∈ s.journal.activations)
    {i : SideEffectIntent} (hi : i ∈ s.intentsOf a.tenantId a.workflowId) :
    i ∈ s.ticket.intents ∧ IntentRow s a i := by
  obtain ⟨hmem, hkey⟩ := List.mem_filter.mp hi
  rw [decide_eq_true_eq] at hkey
  obtain ⟨b, hb, hrow⟩ := hr.intent i hmem
  obtain rfl : b = a := hj.activation_unique hb ha (hrow.of.tenant.symm.trans hkey.1)
    (hrow.of.workflow.symm.trans hkey.2)
  exact ⟨hmem, hrow⟩

/-- **`validate_side_effect_intents` accepts a workflow's intents.** -/
theorem TicketRows.intents_valid (hr : TicketRows s) (hj : JournalInv s) (hs : TicketInv s)
    (ha : a ∈ s.journal.activations) :
    validateSideEffectIntents (s.intentsOf a.tenantId a.workflowId) = true := by
  -- two intents of a workflow are of different operations
  have hpairwise : (s.intentsOf a.tenantId a.workflowId).Pairwise fun i j => i.operation ≠ j.operation := by
    have hdistinct : Table.Distinct SideEffectIntent.clash (s.intentsOf a.tenantId a.workflowId) :=
      hs.intents.filter _
    refine hdistinct.imp_of_mem fun {i j} hi hjm hclash hop => ?_
    have hik := of_decide_eq_true (List.mem_filter.mp hi).2
    have hjk := of_decide_eq_true (List.mem_filter.mp hjm).2
    have : j.clash i = true := decide_eq_true
      ⟨hjk.1.trans hik.1.symm, Or.inr (Or.inr ⟨hjk.2.trans hik.2.symm, hop.symm⟩)⟩
    rw [this] at hclash
    cases hclash
  have hkeys : (s.intentsOf a.tenantId a.workflowId).Pairwise fun i j =>
      i.intentId ≠ j.intentId ∧ i.idempotencyKey ≠ j.idempotencyKey := by
    refine hpairwise.imp_of_mem fun {i j} hi hjm hop => ⟨fun hid => ?_, fun hkey => ?_⟩
    · have hidi := (hr.row hj ha hi).2.of.intentId
      have hidj := (hr.row hj ha hjm).2.of.intentId
      rw [hidi, hidj, stableIdentifier_inj] at hid
      exact hop (congrArg IntentMaterial.operation hid)
    · have hki := (hr.row hj ha hi).2.of.idempotencyKey
      have hkj := (hr.row hj ha hjm).2.of.idempotencyKey
      rw [hki, hkj, sha256_inj] at hkey
      exact hop (congrArg TicketKeyMaterial.operation hkey)
  refine decide_eq_true ⟨fun i hi => (hr.row hj ha hi).2.valid, ?_, ?_, ?_⟩
  · refine List.all_eq_true.mpr fun identity hidentity => ?_
    obtain ⟨i, hi, rfl⟩ := List.mem_map.mp hidentity
    rw [Option.all_eq_true]
    intro first hfirst
    have hmem := List.mem_of_head? hfirst
    exact decide_eq_true ((hr.row hj ha hmem).2.identity.trans (hr.row hj ha hi).2.identity.symm)
  · exact List.pairwise_map.mpr (hkeys.imp And.left)
  · exact List.pairwise_map.mpr (hkeys.imp And.right)

/-- Within a tenant, an intent's identifier is its own. -/
theorem TicketInv.eq_of_intentId (hs : TicketInv s) {i j : SideEffectIntent} (hi : i ∈ s.ticket.intents)
    (hjm : j ∈ s.ticket.intents) (ht : i.tenantId = j.tenantId) (hid : i.intentId = j.intentId) : i = j :=
  hs.intents.eq_of_clash SideEffectIntent.clash_comm hi hjm (decide_eq_true ⟨ht, Or.inl hid⟩)

/-- A completion agrees with the observation it names. -/
theorem newCompletion_linked {env : Env} {i : SideEffectIntent} {o : SideEffectObservation}
    {d : SideEffectCompletion} {observations : List SideEffectObservation}
    (built : newCompletion env i o = some d) (valid : validateSideEffectCompletion d = true)
    (found : observations.find? (fun y => y.observationId = d.observationId ∧ y.status = .present) = some o) :
    d.linked i observations = true := by
  unfold newCompletion at built
  split at built
  · next hstatus hticket hversion houtcome =>
      rw [Option.some.injEq] at built
      subst built
      have htenant : nonEmpty i.tenantId = true := (of_decide_eq_true valid).1
      refine decide_eq_true ⟨valid, rfl, htenant, rfl, ?_⟩
      rw [found, Option.any_some]
      exact decide_eq_true ⟨hticket, hversion, houtcome⟩
  · cases built

/-- **`validate_side_effect_chain` accepts every intent** with what is stored for it. -/
theorem TicketRows.chain_valid (hr : TicketRows s) (hj : JournalInv s) (hs : TicketInv s)
    (ha : a ∈ s.journal.activations) {i : SideEffectIntent}
    (hi : i ∈ s.intentsOf a.tenantId a.workflowId) :
    validateSideEffectChain i (s.observationsOf a.tenantId i.intentId)
      (s.completionsOf a.tenantId i.intentId) = true := by
  obtain ⟨hmem, hrow⟩ := hr.row hj ha hi
  have hdistinct : Table.Distinct SideEffectObservation.clash (s.observationsOf a.tenantId i.intentId) :=
    hr.observations.filter _
  have hnodup : ((s.observationsOf a.tenantId i.intentId).map (·.observationId)).Nodup := by
    refine List.pairwise_map.mpr (hdistinct.imp_of_mem fun {o p} ho hp hclash hid => ?_)
    have hok := of_decide_eq_true (List.mem_filter.mp ho).2
    have hpk := of_decide_eq_true (List.mem_filter.mp hp).2
    have : p.clash o = true := decide_eq_true ⟨hpk.1.trans hok.1.symm, hid.symm⟩
    rw [this] at hclash
    cases hclash
  refine decide_eq_true ⟨hrow.valid, ?_, hnodup, ?_, ?_⟩
  · refine hs.completions.filter_key_le_one fun d e hd he => ?_
    rw [decide_eq_true_eq] at hd he
    exact decide_eq_true ⟨hd.1.trans he.1.symm, Or.inr (hd.2.trans he.2.symm)⟩
  · intro o ho
    obtain ⟨homem, hok⟩ := List.mem_filter.mp ho
    rw [decide_eq_true_eq] at hok
    obtain ⟨j, hjmem, hlinked⟩ := hr.observation o homem
    obtain ⟨-, htuple, -, hid⟩ := of_decide_eq_true hlinked
    have ht : o.tenantId = j.tenantId := congrArg Prod.fst htuple
    obtain rfl : j = i := hs.eq_of_intentId hjmem hmem (ht.symm.trans (hok.1.trans hrow.of.tenant.symm))
      (hid.symm.trans hok.2)
    exact hlinked
  · intro d hd
    obtain ⟨hdmem, hdk⟩ := List.mem_filter.mp hd
    rw [decide_eq_true_eq] at hdk
    obtain ⟨j, hjmem, o, ho, hot, hoi, hvalid, env, hbuilt⟩ := hr.completion d hdmem
    have hrows : d.tenantId = j.tenantId ∧ d.intentId = j.intentId ∧ d.observationId = o.observationId ∧
        o.status = .present := by
      unfold newCompletion at hbuilt
      split at hbuilt
      · next hstatus _ _ _ =>
          rw [Option.some.injEq] at hbuilt
          subst hbuilt
          exact ⟨rfl, rfl, rfl, hstatus⟩
      · cases hbuilt
    obtain ⟨hdt, hdi, hdo, hpresent⟩ := hrows
    obtain rfl : j = i := hs.eq_of_intentId hjmem hmem
      (hdt.symm.trans (hdk.1.trans hrow.of.tenant.symm)) (hdi.symm.trans hdk.2)
    refine newCompletion_linked hbuilt hvalid ?_
    have homem : o ∈ s.observationsOf a.tenantId j.intentId :=
      List.mem_filter.mpr ⟨ho, decide_eq_true ⟨hot.trans hrow.of.tenant, hoi⟩⟩
    -- the identifier finds it
    refine hdistinct.find?_eq_some SideEffectObservation.clash_comm homem
      (decide_eq_true ⟨hdo.symm, hpresent⟩) fun p hpmem hp => ?_
    have hpk := of_decide_eq_true (List.mem_filter.mp hpmem).2
    have hok := of_decide_eq_true (List.mem_filter.mp homem).2
    exact decide_eq_true ⟨hpk.1.trans hok.1.symm, (of_decide_eq_true hp).1.trans hdo⟩

/-- What the journal asks of each intent. -/
theorem TicketRows.intent_valid (hr : TicketRows s) (hj : JournalInv s) (hs : TicketInv s)
    (ha : a ∈ s.journal.activations) {i : SideEffectIntent}
    (hi : i ∈ s.intentsOf a.tenantId a.workflowId) :
    s.intentSourceValid a ((s.checkpointsOf a.tenantId a.workflowId).map (·.payload.checkpointId)) i =
      true := by
  obtain ⟨-, hrow⟩ := hr.row hj ha hi
  have hidentity := hrow.identity
  simp only [SideEffectIntent.identity, WorkflowActivation.identity, WorkflowIdentity.mk.injEq] at hidentity
  obtain ⟨c, hc, hid⟩ := hrow.checkpoint
  refine decide_eq_true ⟨decide_eq_true ⟨hidentity.2.1, hidentity.2.2.1, hidentity.2.2.2, ?_⟩,
    hrow.of.naturalKey, hr.chain_valid hj hs ha hi⟩
  rw [hj.checkpointsOf_eq ha, ← hid]
  exact List.mem_map_of_mem hc

/-- **`_validate_ticket_source` accepts the ticket store.** -/
theorem TicketRows.source_valid (hr : TicketRows s) (hs : TicketInv s) (t : String) :
    s.validateTicketSource t = .ok () := by
  rw [WorkflowStore.validateTicketSource, require_eq_ok, List.all_eq_true]
  intro o ho
  obtain ⟨homem, hot⟩ := List.mem_filter.mp ho
  rw [decide_eq_true_eq] at hot
  obtain ⟨i, hi, r, hrm, hrow⟩ := hr.operation o homem
  have hti : i.tenantId = t := hrow.tenant.1.symm.trans hot
  have hrevision : s.ticket.revisions.find? (fun q => q.tenantId = t ∧ q.ticketId = o.ticketId ∧
      q.version = o.observedVersion) = some r := by
    refine hr.revisions.find?_eq_some TicketRevision.clash_comm hrm
      (decide_eq_true ⟨hrow.tenant.2.trans hti, hrow.ticket, hrow.version⟩) fun q _ hq => ?_
    obtain ⟨hqt, hqticket, hqversion⟩ := of_decide_eq_true hq
    exact decide_eq_true ⟨hqt.trans (hti.symm.trans hrow.tenant.2.symm), hqversion.trans hrow.version.symm,
      Or.inl (hqticket.trans hrow.ticket.symm)⟩
  have hintent : s.ticket.intents.find? (fun j => j.tenantId = t ∧ j.idempotencyKey = o.idempotencyKey) =
      some i := by
    refine hs.intents.find?_eq_some SideEffectIntent.clash_comm hi
      (decide_eq_true ⟨hti, hrow.idempotencyKey.symm⟩) fun j _ hj => ?_
    obtain ⟨hjt, hjkey⟩ := of_decide_eq_true hj
    exact decide_eq_true ⟨hjt.trans hti.symm, Or.inr (Or.inl (hjkey.trans hrow.idempotencyKey))⟩
  refine decide_eq_true ⟨?_, ?_, hrow.versions⟩
  · rw [hrevision, Option.any_some]
    exact decide_eq_true ⟨hrow.naturalKey.2.trans hrow.naturalKey.1.symm,
      hrow.operation.2.trans hrow.operation.1.symm, hrow.outcome⟩
  · rw [hintent, Option.any_some]
    exact decide_eq_true ⟨hrow.operation.1.symm, hrow.naturalKey.1.symm⟩

end WeFlow
