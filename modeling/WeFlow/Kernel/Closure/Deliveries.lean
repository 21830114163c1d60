import WeFlow.Kernel.Authority
import WeFlow.Kernel.Closure.Checkpoints

/-!
# `Deliveries` — the journal's deliveries are accepted

Every delivery intent with its binding, observations and completion is a chain that
`validate_outbound_delivery_chain` accepts, and every operation of the delivery store agrees with its record
and its intent, in every journal that the kernel writes.

## Contents

* `DeliveryRows` — what each row of the delivery tables repeats of the rows it belongs to.
* `Effect.deliveryRows` — every transaction keeps the rows.
* `DeliveryRows.chain_valid`, `source_valid` — the checks of the journal.
-/

namespace WeFlow

open Txn

variable {x : Context} {s s' : WorkflowStore} {a : WorkflowActivation} {part : Part}

/-! ## The rows -/

/-- What an intent repeats of its activation, a checkpoint and its binding. -/
structure DeliveryIntentRow (s : WorkflowStore) (a : WorkflowActivation) (i : DeliveryIntent) : Prop where
  valid : validateOutboundDeliveryIntent i = true
  built : ∃ c ∈ s.checkpointRows a.tenantId a.workflowId, ∃ b ∈ s.bindingsOf a.tenantId a.workflowId,
    ∃ env, i = newDeliveryIntent env a c b

/-- An observation that reports a delivery reports a stored record of its intent. -/
def DeliveryObservation.Reported (s : WorkflowStore) (i : DeliveryIntent) (o : DeliveryObservation) : Prop :=
  ∃ r ∈ s.delivery.records, (∃ env, r = newDeliveryRecord env i) ∧
    o.observedDeliveryId = some r.deliveryId ∧ o.observedVersion = some r.version ∧
    o.contentSha256 = some r.contentSha256

/-- **The rows of the delivery tables.** -/
structure DeliveryRows (s : WorkflowStore) : Prop where
  bindings : Table.Distinct bindingClash s.policy.bindings
  binding : ∀ b ∈ s.policy.bindings, validateAuthorizationBinding b = true
  intents : Table.Distinct DeliveryIntent.clash s.delivery.intents
  observations : Table.Distinct DeliveryObservation.clash s.delivery.observations
  completions : Table.Distinct DeliveryCompletion.clash s.delivery.completions
  records : Table.Distinct DeliveryRecord.clash s.delivery.records
  operations : Table.Distinct DeliveryOperation.clash s.delivery.operations
  intent : ∀ i ∈ s.delivery.intents, ∃ a ∈ s.journal.activations, DeliveryIntentRow s a i
  observation : ∀ o ∈ s.delivery.observations, ∃ i ∈ s.delivery.intents,
    validateOutboundDeliveryObservation o = true ∧
    (∃ env phase outcome, o = newDeliveryObservation env i phase outcome) ∧
    (o.status = .present → o.Reported s i)
  completion : ∀ d ∈ s.delivery.completions, ∃ i ∈ s.delivery.intents, ∃ o ∈ s.delivery.observations,
    o.tenantId = i.tenantId ∧ o.intentId = i.intentId ∧ validateOutboundDeliveryCompletion d = true ∧
    ∃ env, newDeliveryCompletion env i o = some d
  record : ∀ r ∈ s.delivery.records, ∃ i ∈ s.delivery.intents, ∃ env, r = newDeliveryRecord env i
  operation : ∀ o ∈ s.delivery.operations, ∃ i ∈ s.delivery.intents, ∃ r ∈ s.delivery.records,
    ∃ env, r = newDeliveryRecord env i ∧ o = newDeliveryOperation env i r

theorem deliveryRows_empty : DeliveryRows {} where
  bindings := Table.distinct_nil _
  binding := fun b hb => by simp at hb
  intents := Table.distinct_nil _
  observations := Table.distinct_nil _
  completions := Table.distinct_nil _
  records := Table.distinct_nil _
  operations := Table.distinct_nil _
  intent := fun i hi => by simp at hi
  observation := fun o ho => by simp at ho
  completion := fun d hd => by simp at hd
  record := fun r hr => by simp at hr
  operation := fun o ho => by simp at ho

theorem DeliveryIntent.clash_comm (i j : DeliveryIntent) : i.clash j = j.clash i := by
  simp only [DeliveryIntent.clash, eq_comm]

theorem DeliveryObservation.clash_comm (o p : DeliveryObservation) : o.clash p = p.clash o := by
  simp only [DeliveryObservation.clash, eq_comm]

theorem DeliveryRecord.clash_comm (q r : DeliveryRecord) : q.clash r = r.clash q := by
  simp only [DeliveryRecord.clash, eq_comm]

theorem bindingClash_comm (b d : SealedBinding) : bindingClash b d = bindingClash d b := by
  simp only [bindingClash, eq_comm]

/-! ## One transaction -/

theorem DeliveryIntentRow.mono {i : DeliveryIntent} (h : DeliveryIntentRow s a i) (hg : Grows s s')
    (hbindings : s.policy.bindings <+: s'.policy.bindings) : DeliveryIntentRow s' a i := by
  obtain ⟨c, hc, b, hb, henv⟩ := h.built
  exact ⟨h.valid, c, (hg.checkpoints.filter _).subset hc, b, (hbindings.filter _).subset hb, henv⟩

/-- **A case has one delivery intent**, found by its natural key. -/
theorem DeliveryRows.intent_unique (hr : DeliveryRows s) (hj : JournalInv s) {i j : DeliveryIntent}
    (hi : i ∈ s.delivery.intents) (hjm : j ∈ s.delivery.intents) (ht : i.tenantId = j.tenantId)
    (hk : i.naturalKey = j.naturalKey) : i = j := by
  obtain ⟨a, ha, harow⟩ := hr.intent i hi
  obtain ⟨b, hb, hbrow⟩ := hr.intent j hjm
  obtain ⟨c, -, bound, -, env, rfl⟩ := harow.built
  obtain ⟨c', -, bound', -, env', rfl⟩ := hbrow.built
  obtain rfl : a = b := hj.activation_unique_case ha hb ht (congrArg DeliveryNaturalKey.caseId hk)
  exact hr.intents.eq_of_clash DeliveryIntent.clash_comm hi hjm (decide_eq_true ⟨rfl, Or.inr (Or.inr rfl)⟩)

/-- The idempotency key of an intent names its tenant and its natural key. -/
theorem DeliveryRows.eq_of_idempotencyKey (hr : DeliveryRows s) (hj : JournalInv s) {i j : DeliveryIntent}
    (hi : i ∈ s.delivery.intents) (hjm : j ∈ s.delivery.intents)
    (hk : i.idempotencyKey = j.idempotencyKey) : i = j := by
  obtain ⟨a, -, ha⟩ := hr.intent i hi
  obtain ⟨b, -, hb⟩ := hr.intent j hjm
  have hmaterial : i.naturalKey = j.naturalKey ∧ i.tenantId = j.tenantId := by
    obtain ⟨c, -, bound, -, env, rfl⟩ := ha.built
    obtain ⟨c', -, bound', -, env', rfl⟩ := hb.built
    have hmaterial := sha256_inj.mp hk
    exact ⟨congrArg DeliveryKeyMaterial.naturalKey hmaterial, congrArg DeliveryKeyMaterial.tenantId hmaterial⟩
  exact hr.intent_unique hj hi hjm hmaterial.2 hmaterial.1

/-- The identifier of an intent names its workflow. -/
theorem DeliveryRows.eq_of_intentId (hr : DeliveryRows s) {i j : DeliveryIntent}
    (hi : i ∈ s.delivery.intents) (hjm : j ∈ s.delivery.intents) (ht : i.tenantId = j.tenantId)
    (hid : i.intentId = j.intentId) : i = j :=
  hr.intents.eq_of_clash DeliveryIntent.clash_comm hi hjm (decide_eq_true ⟨ht, Or.inl hid⟩)

/-- A record under an intent's natural key is its record. -/
theorem DeliveryRows.record_of (hr : DeliveryRows s) (hj : JournalInv s) {i : DeliveryIntent}
    (mem : i ∈ s.delivery.intents) {r : DeliveryRecord}
    (h : r ∈ s.deliveryRecordsOf i.tenantId i.naturalKey) :
    r ∈ s.delivery.records ∧ ∃ env, r = newDeliveryRecord env i := by
  obtain ⟨hmem, hkey⟩ := List.mem_filter.mp ((List.mem_insertionSort _).mp h)
  rw [decide_eq_true_eq] at hkey
  obtain ⟨j, hjm, env, rfl⟩ := hr.record r hmem
  obtain rfl : j = i := hr.intent_unique hj hjm mem hkey.1 hkey.2
  exact ⟨hmem, env, rfl⟩

/-- **A report that the delivery is present** is of a stored record of the intent. -/
theorem DeliveryReports.reported {i : DeliveryIntent} {phase : EffectPhase} {outcome : DeliveryOutcome}
    (h : DeliveryReports x s i phase outcome) (hr : DeliveryRows s) (hj : JournalInv s)
    (mem : i ∈ s.delivery.intents) (hpresent : outcome.status = .present) :
    (newDeliveryObservation x.env i phase outcome).Reported s i := by
  cases h with
  | timeout => cases hpresent
  | reconciled =>
      have houtcome : ∃ r ∈ s.deliveryRecordsOf i.tenantId i.naturalKey,
          s.reconcileDeliveryIntent i = r.outcome .present := by
        unfold WorkflowStore.reconcileDeliveryIntent at hpresent ⊢
        match hrows : s.deliveryRecordsOf i.tenantId i.naturalKey with
        | [] => simp [hrows] at hpresent
        | [row] =>
            by_cases hversion : row.version = 1
            · exact ⟨row, List.mem_singleton_self row, if_pos hversion⟩
            · simp [hrows, hversion] at hpresent
        | _ :: _ :: _ => simp [hrows] at hpresent
      obtain ⟨r, hstored, heq⟩ := houtcome
      obtain ⟨hmem, hnew⟩ := hr.record_of hj mem hstored
      rw [heq]
      exact ⟨r, hmem, hnew, rfl, rfl, rfl⟩
  | @executed o reason stored =>
      unfold WorkflowStore.deliveryOperation? at stored
      have hok := List.find?_some stored
      rw [decide_eq_true_eq] at hok
      obtain ⟨j, hjm, r, hrm, env, hnew, hop⟩ := hr.operation o (List.mem_of_find?_eq_some stored)
      have hk : j.idempotencyKey = i.idempotencyKey := by
        rw [← hok.2, hop]
        rfl
      obtain rfl : j = i := hr.eq_of_idempotencyKey hj hjm mem hk
      rw [hop]
      exact ⟨r, hrm, ⟨env, hnew⟩, rfl, rfl, rfl⟩
  | @found r reason stored =>
      obtain ⟨hmem, hnew⟩ := hr.record_of hj mem stored
      exact ⟨r, hmem, hnew, rfl, rfl, rfl⟩

theorem DeliveryObservation.Reported.mono {i : DeliveryIntent} {o : DeliveryObservation}
    (h : o.Reported s i) (hrecords : s.delivery.records ⊆ s'.delivery.records) : o.Reported s' i := by
  obtain ⟨r, hr, hrest⟩ := h
  exact ⟨r, hrecords hr, hrest⟩

/-- **Every transaction on the delivery tables keeps the rows.** -/
theorem DeliveryStep.deliveryRows {delivery : DeliveryTables} (h : DeliveryStep x s delivery)
    (hj : JournalInv s) (hr : DeliveryRows s) : DeliveryRows { s with delivery } := by
  have hintent : ∀ delivery : DeliveryTables, ∀ i ∈ s.delivery.intents, ∃ a ∈ s.journal.activations,
      DeliveryIntentRow { s with delivery } a i := by
    intro delivery i hi
    obtain ⟨a, ha, hrow⟩ := hr.intent i hi
    exact ⟨a, ha, { hrow with }⟩
  cases h with
  | @intent a c b mem about latest state authorized bound valid new fresh =>
      have hmono : ∀ i ∈ s.delivery.intents, i ∈ s.delivery.intents ++ [newDeliveryIntent x.env a c b] :=
        fun i hi => List.mem_append_left _ hi
      refine { hr with intents := hr.intents.append_one fresh, intent := ?_, observation := ?_,
                       completion := ?_, record := ?_, operation := ?_ }
      · intro i hi
        rcases List.mem_append.mp hi with hi | hi
        · exact hintent _ i hi
        · rw [List.mem_singleton.mp hi]
          obtain ⟨hcmem, hct, hcw⟩ := WorkflowStore.latestCheckpoint?_mem latest
          have hcrow : c ∈ s.checkpointRows a.tenantId a.workflowId :=
            List.mem_filter.mpr ⟨hcmem, decide_eq_true ⟨hct, hcw⟩⟩
          exact ⟨a, mem, valid, c, hcrow, b, List.mem_of_getLast? bound, x.env, rfl⟩
      · intro o ho
        obtain ⟨i, hi, hvalid, hnew, hpresent⟩ := hr.observation o ho
        exact ⟨i, hmono i hi, hvalid, hnew, fun hstatus => (hpresent hstatus).mono (List.Subset.refl _)⟩
      · intro d hd
        obtain ⟨i, hi, hrest⟩ := hr.completion d hd
        exact ⟨i, hmono i hi, hrest⟩
      · intro r hrm
        obtain ⟨i, hi, hrest⟩ := hr.record r hrm
        exact ⟨i, hmono i hi, hrest⟩
      · intro o ho
        obtain ⟨i, hi, hrest⟩ := hr.operation o ho
        exact ⟨i, hmono i hi, hrest⟩
  | @execute a i about mem intent incomplete new absent freshRecord freshOperation calm executes =>
      have hi : i ∈ s.delivery.intents := (List.mem_filter.mp intent).1
      have hmono : ∀ r ∈ s.delivery.records, r ∈ s.delivery.records ++ [newDeliveryRecord x.env i] :=
        fun r hrm => List.mem_append_left _ hrm
      have hnew : newDeliveryRecord x.env i ∈ s.delivery.records ++ [newDeliveryRecord x.env i] :=
        List.mem_append_right _ (List.mem_singleton_self _)
      refine { hr with records := hr.records.append_one freshRecord,
                       operations := hr.operations.append_one freshOperation, intent := hintent _,
                       observation := ?_, record := ?_, operation := ?_ }
      · intro o ho
        obtain ⟨j, hjm, hvalid, hbuilt, hpresent⟩ := hr.observation o ho
        exact ⟨j, hjm, hvalid, hbuilt, fun hstatus => (hpresent hstatus).mono hmono⟩
      · intro r hrm
        rcases List.mem_append.mp hrm with hrm | hrm
        · exact hr.record r hrm
        · exact ⟨i, hi, x.env, List.mem_singleton.mp hrm⟩
      · intro o ho
        rcases List.mem_append.mp ho with ho | ho
        · obtain ⟨j, hjm, r, hrm, hrest⟩ := hr.operation o ho
          exact ⟨j, hjm, r, hmono r hrm, hrest⟩
        · exact ⟨i, hi, _, hnew, x.env, rfl, List.mem_singleton.mp ho⟩
  | @observe a i phase outcome mem intent incomplete reports valid fresh =>
      have hi : i ∈ s.delivery.intents := (List.mem_filter.mp intent).1
      refine { hr with observations := hr.observations.append_one fresh, intent := hintent _,
                       observation := ?_, completion := ?_ }
      · intro o ho
        rcases List.mem_append.mp ho with ho | ho
        · obtain ⟨j, hjm, hvalid, hbuilt, hpresent⟩ := hr.observation o ho
          exact ⟨j, hjm, hvalid, hbuilt, fun hstatus => (hpresent hstatus).mono (List.Subset.refl _)⟩
        · rw [List.mem_singleton.mp ho]
          exact ⟨i, hi, valid, ⟨x.env, phase, outcome, rfl⟩, fun hstatus => reports.reported hr hj hi hstatus⟩
      · intro d hd
        obtain ⟨j, hjm, o, ho, hrest⟩ := hr.completion d hd
        exact ⟨j, hjm, o, List.mem_append_left _ ho, hrest⟩
  | @complete a i o d mem intent incomplete observed owner built valid fresh =>
      have hi : i ∈ s.delivery.intents := (List.mem_filter.mp intent).1
      refine { hr with completions := hr.completions.append_one fresh, intent := hintent _,
                       observation := ?_, completion := ?_ }
      · intro o ho
        obtain ⟨j, hjm, hvalid, hbuilt, hpresent⟩ := hr.observation o ho
        exact ⟨j, hjm, hvalid, hbuilt, fun hstatus => (hpresent hstatus).mono (List.Subset.refl _)⟩
      · intro e he
        rcases List.mem_append.mp he with he | he
        · exact hr.completion e he
        · rw [List.mem_singleton.mp he]
          -- the identifier of an observation names its intent
          obtain ⟨hot, phase, outcome, hid⟩ := owner
          obtain ⟨j, -, -, ⟨env, phase', outcome', hbuilt⟩, -⟩ := hr.observation o observed
          have hoi : o.intentId = i.intentId := by
            rw [hbuilt] at hid ⊢
            exact congrArg DeliveryObservationMaterial.intentId (stableIdentifier_inj.mp hid)
          exact ⟨i, hi, o, observed, hot, hoi, valid, x.env, built⟩

/-- Bindings are valid and differ from each other, whatever a transaction does to the policy tables. -/
theorem PolicyStep.bindings_ok {policy : PolicyTables} (h : PolicyStep x s policy)
    (hdistinct : Table.Distinct bindingClash s.policy.bindings)
    (hvalid : ∀ b ∈ s.policy.bindings, validateAuthorizationBinding b = true) :
    Table.Distinct bindingClash policy.bindings ∧
    (∀ b ∈ policy.bindings, validateAuthorizationBinding b = true) ∧
    s.policy.bindings <+: policy.bindings := by
  cases h with
  | @binding a p grant d b mem about activation granted decided allowed built new fresh =>
      refine ⟨hdistinct.append_one fresh, fun y hy => ?_, List.prefix_append _ _⟩
      rcases List.mem_append.mp hy with hy | hy
      · exact hvalid y hy
      · obtain ⟨hok, heq⟩ := validated_eq_some.mp built
        rw [List.mem_singleton.mp hy, heq]
        exact hok
  | _ => exact ⟨hdistinct, hvalid, List.prefix_rfl⟩

/-- **Every transaction keeps the rows.** -/
theorem Effect.deliveryRows (h : Effect x s part s') (hj : JournalInv s) (hr : DeliveryRows s) :
    DeliveryRows s' := by
  have hgrows := h.grows
  have hread : ∀ s s' : WorkflowStore, s'.delivery = s.delivery → Grows s s' →
      Table.Distinct bindingClash s'.policy.bindings →
      (∀ b ∈ s'.policy.bindings, validateAuthorizationBinding b = true) →
      s.policy.bindings <+: s'.policy.bindings → DeliveryRows s → DeliveryRows s' := by
    rintro ⟨_, _, _, _, _, _, _⟩ ⟨_, _, _, _, _, _, _⟩ rfl hgrows hdistinct hvalid hprefix hr
    refine { hr with bindings := hdistinct, binding := hvalid, intent := fun i hi => ?_ }
    obtain ⟨a, ha, hrow⟩ := hr.intent i hi
    exact ⟨a, hgrows.activations.subset ha, hrow.mono hgrows hprefix⟩
  by_cases hdelivery : part = .delivery
  · cases h with
    | delivery step => exact step.deliveryRows hj hr
    | prepare step => exact absurd hdelivery step.not_part.2.1
    | _ => exact absurd hdelivery nofun
  · by_cases hpolicy : part = .policy
    · cases h with
      | policy step =>
          obtain ⟨hdistinct, hvalid, hprefix⟩ := step.bindings_ok hr.bindings hr.binding
          exact hread s _ rfl hgrows hdistinct hvalid hprefix hr
      | prepare step => exact absurd hpolicy step.not_part.1
      | _ => exact absurd hpolicy nofun
    · have heq := h.policy_eq hpolicy
      have hbindings : s'.policy.bindings = s.policy.bindings := by rw [heq]
      refine hread s s' (h.delivery_eq hdelivery) hgrows ?_ ?_ ?_ hr
      · rw [hbindings]
        exact hr.bindings
      · rw [hbindings]
        exact hr.binding
      · rw [hbindings]

/-! ## The checks -/

/-- The rows of a workflow's delivery intents. -/
theorem DeliveryRows.row (hr : DeliveryRows s) (hj : JournalInv s) (ha : a ∈ s.journal.activations)
    {i : DeliveryIntent} (hi : i ∈ s.deliveryIntentsOf a.tenantId a.workflowId) :
    i ∈ s.delivery.intents ∧ DeliveryIntentRow s a i := by
  obtain ⟨hmem, hkey⟩ := List.mem_filter.mp hi
  rw [decide_eq_true_eq] at hkey
  obtain ⟨b, hb, hrow⟩ := hr.intent i hmem
  have hsame : i.tenantId = b.tenantId ∧ i.workflowId = b.workflowId := by
    obtain ⟨c, -, bound, -, env, heq⟩ := hrow.built
    rw [heq]
    exact ⟨rfl, rfl⟩
  obtain rfl : b = a := hj.activation_unique hb ha (hsame.1.symm.trans hkey.1) (hsame.2.symm.trans hkey.2)
  exact ⟨hmem, hrow⟩

/-- A completion agrees with the observation it names. -/
theorem newDeliveryCompletion_linked {env : Env} {i : DeliveryIntent} {o : DeliveryObservation}
    {d : DeliveryCompletion} {observations : List DeliveryObservation}
    (built : newDeliveryCompletion env i o = some d) (valid : validateOutboundDeliveryCompletion d = true)
    (found : observations.find? (fun y => y.observationId = d.observationId ∧ y.status = .present) = some o) :
    d.linked i observations = true := by
  unfold newDeliveryCompletion at built
  split at built
  · next hstatus hdelivery hversion hcontent =>
      rw [Option.some.injEq] at built
      subst built
      refine decide_eq_true ⟨valid, rfl, rfl, ?_⟩
      rw [found, Option.any_some]
      exact decide_eq_true ⟨hdelivery, hversion, hcontent⟩
  · cases built

theorem newDeliveryCompletion_eq_some {env : Env} {i : DeliveryIntent} {o : DeliveryObservation}
    {d : DeliveryCompletion} (built : newDeliveryCompletion env i o = some d) :
    d.tenantId = i.tenantId ∧ d.intentId = i.intentId ∧ d.observationId = o.observationId ∧
    o.status = .present ∧ o.observedDeliveryId = some d.observedDeliveryId ∧
    o.observedVersion = some d.observedVersion ∧ o.contentSha256 = some d.contentSha256 := by
  unfold newDeliveryCompletion at built
  split at built
  · next hstatus hdelivery hversion hcontent =>
      rw [Option.some.injEq] at built
      subst built
      exact ⟨rfl, rfl, rfl, hstatus, hdelivery, hversion, hcontent⟩
  · cases built

/-- **`validate_outbound_delivery_chain` accepts every intent** with what is stored for it. -/
theorem DeliveryRows.chain_valid (hr : DeliveryRows s) {i : DeliveryIntent} (hi : i ∈ s.delivery.intents)
    {b : SealedBinding} (hb : b ∈ s.policy.bindings)
    (hbuilt : ∃ env a c, i = newDeliveryIntent env a c b) (hvalid : validateOutboundDeliveryIntent i = true) :
    validateOutboundDeliveryChain i (s.deliveryObservationsOf i.tenantId i.intentId)
      (s.deliveryCompletionsOf i.tenantId i.intentId) b = true := by
  have hdistinct : Table.Distinct DeliveryObservation.clash
      (s.deliveryObservationsOf i.tenantId i.intentId) := hr.observations.filter _
  have hnodup : ((s.deliveryObservationsOf i.tenantId i.intentId).map (·.observationId)).Nodup := by
    refine List.pairwise_map.mpr (hdistinct.imp_of_mem fun {o p} ho hp hclash hid => ?_)
    have hok := of_decide_eq_true (List.mem_filter.mp ho).2
    have hpk := of_decide_eq_true (List.mem_filter.mp hp).2
    have : p.clash o = true := decide_eq_true ⟨hpk.1.trans hok.1.symm, hid.symm⟩
    rw [this] at hclash
    cases hclash
  obtain ⟨env, a, c, heq⟩ := hbuilt
  refine decide_eq_true ⟨hvalid, hr.binding b hb, by rw [heq]; rfl, by rw [heq]; rfl, by rw [heq]; rfl, ?_,
    hnodup, ?_, ?_⟩
  · refine hr.completions.filter_key_le_one fun d e hd he => ?_
    rw [decide_eq_true_eq] at hd he
    exact decide_eq_true ⟨hd.1.trans he.1.symm, Or.inr (hd.2.trans he.2.symm)⟩
  · intro o ho
    obtain ⟨homem, hok⟩ := List.mem_filter.mp ho
    rw [decide_eq_true_eq] at hok
    obtain ⟨j, hjm, hovalid, ⟨env', phase, outcome, rfl⟩, -⟩ := hr.observation o homem
    obtain rfl : j = i := hr.eq_of_intentId hjm hi hok.1 hok.2
    exact decide_eq_true ⟨hovalid, rfl, rfl⟩
  · intro d hd
    obtain ⟨hdmem, hdk⟩ := List.mem_filter.mp hd
    rw [decide_eq_true_eq] at hdk
    obtain ⟨j, hjm, o, ho, hot, hoi, hdvalid, env', hdbuilt⟩ := hr.completion d hdmem
    obtain ⟨hdt, hdi, hdo, hpresent, -⟩ := newDeliveryCompletion_eq_some hdbuilt
    obtain rfl : j = i := hr.eq_of_intentId hjm hi (hdt.symm.trans hdk.1) (hdi.symm.trans hdk.2)
    have homem : o ∈ s.deliveryObservationsOf j.tenantId j.intentId :=
      List.mem_filter.mpr ⟨ho, decide_eq_true ⟨hot, hoi⟩⟩
    refine newDeliveryCompletion_linked hdbuilt hdvalid ?_
    refine hdistinct.find?_eq_some DeliveryObservation.clash_comm homem
      (decide_eq_true ⟨hdo.symm, hpresent⟩) fun p hpmem hp => ?_
    have hpk := of_decide_eq_true (List.mem_filter.mp hpmem).2
    exact decide_eq_true ⟨hpk.1.trans hot.symm, (of_decide_eq_true hp).1.trans hdo⟩

/-- What the journal asks of each delivery intent. -/
theorem DeliveryRows.intent_valid (hr : DeliveryRows s) (hj : JournalInv s)
    (ha : a ∈ s.journal.activations) {i : DeliveryIntent}
    (hi : i ∈ s.deliveryIntentsOf a.tenantId a.workflowId) :
    s.deliverySourceValid a ((s.checkpointsOf a.tenantId a.workflowId).map (·.payload.checkpointId)) i =
      true := by
  obtain ⟨hmem, hrow⟩ := hr.row hj ha hi
  obtain ⟨c, hc, b, hb, env, heq⟩ := hrow.built
  obtain ⟨hbmem, hbk⟩ := List.mem_filter.mp hb
  rw [decide_eq_true_eq] at hbk
  have hfound : s.policy.bindings.find? (fun y => y.body.tenantId = a.tenantId ∧
      y.hash = i.authorizationBindingSha256) = some b := by
    refine hr.bindings.find?_eq_some bindingClash_comm hbmem (decide_eq_true ⟨hbk.1, ?_⟩) fun y _ hy => ?_
    · rw [heq]
      rfl
    · obtain ⟨hyt, hyh⟩ := of_decide_eq_true hy
      refine decide_eq_true ⟨hyt.trans hbk.1.symm, Or.inr (Or.inl ?_)⟩
      rw [hyh, heq]
      rfl
  have hchain := hr.chain_valid hmem hbmem ⟨env, a, c, heq⟩ hrow.valid
  have ht : i.tenantId = a.tenantId := by
    rw [heq]
    rfl
  rw [ht] at hchain
  refine decide_eq_true ⟨hrow.valid, ?_, ?_⟩
  · rw [hj.checkpointsOf_eq ha, heq]
    exact decide_eq_true ⟨rfl, rfl, rfl, List.mem_map_of_mem hc⟩
  · rw [hfound, Option.any_some]
    exact hchain

/-- **`_validate_fixture_delivery_source` accepts the delivery store.** -/
theorem DeliveryRows.source_valid (hr : DeliveryRows s) (t : String) :
    s.validateFixtureDeliverySource t = .ok () := by
  rw [WorkflowStore.validateFixtureDeliverySource, require_eq_ok, List.all_eq_true]
  intro o ho
  obtain ⟨homem, hot⟩ := List.mem_filter.mp ho
  rw [decide_eq_true_eq] at hot
  obtain ⟨i, hi, r, hrm, env, hrnew, honew⟩ := hr.operation o homem
  have hti : i.tenantId = t := by
    rw [← hot, honew]
    rfl
  have hrecord : s.delivery.records.find? (fun q => q.tenantId = t ∧ q.deliveryId = o.deliveryId ∧
      q.version = o.observedVersion) = some r := by
    have hrt : r.tenantId = t := by
      rw [hrnew]
      exact hti
    have hrow : o.deliveryId = r.deliveryId ∧ o.observedVersion = r.version := by
      rw [honew]
      exact ⟨rfl, rfl⟩
    refine hr.records.find?_eq_some DeliveryRecord.clash_comm hrm
      (decide_eq_true ⟨hrt, hrow.1.symm, hrow.2.symm⟩) fun q _ hq => ?_
    obtain ⟨hqt, hqid, hqversion⟩ := of_decide_eq_true hq
    exact decide_eq_true ⟨hqt.trans hrt.symm, hqversion.trans hrow.2, Or.inl (hqid.trans hrow.1)⟩
  have hintent : s.delivery.intents.find? (fun j => j.tenantId = t ∧ j.idempotencyKey = o.idempotencyKey) =
      some i := by
    have hkey : o.idempotencyKey = i.idempotencyKey := by
      rw [honew]
      rfl
    refine hr.intents.find?_eq_some DeliveryIntent.clash_comm hi (decide_eq_true ⟨hti, hkey.symm⟩)
      fun j _ hj => ?_
    obtain ⟨hjt, hjkey⟩ := of_decide_eq_true hj
    exact decide_eq_true ⟨hjt.trans hti.symm, Or.inr (Or.inl (hjkey.trans hkey))⟩
  refine decide_eq_true ⟨?_, ?_⟩
  · rw [hrecord, Option.any_some, honew, hrnew]
    exact decide_eq_true ⟨rfl, rfl, rfl⟩
  · rw [hintent, Option.any_some, honew, hrnew]
    exact decide_eq_true ⟨rfl, rfl⟩

end WeFlow
