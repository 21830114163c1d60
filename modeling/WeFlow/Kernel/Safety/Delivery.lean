import WeFlow.Kernel.Safety.Advance

/-!
# `Safety.Delivery` — the outbound delivery

The effect protocol of a delivery, under the two ways that lead to it: `safe_recoverDelivery` checks the
authorization in the store it then executes in, `safe_recoverDeliveryReconciliation` executes the intent
a reconciliation has left.
-/

namespace WeFlow

open Txn Prog

variable {x : Context} {E : WorkflowError → WorkflowStore → Prop} {s s' : WorkflowStore}
  {a : WorkflowActivation} {c : Checkpoint} {i : DeliveryIntent}

/-- A step of the delivery tables is a transaction of the call. -/
theorem delivery_effect {delivery : DeliveryTables} (hw : Part.delivery ∈ x.call.advances)
    (h : DeliveryStep x s delivery) : Effects x x.call.writes s { s with delivery } :=
  ⟨.delivery, writes_of_advances hw, .delivery h⟩

/-- The authorization checks read the policy tables, the investigation and the activations. -/
theorem deliveryAuthorized_congr {now : Instant} (hp : s'.policy = s.policy)
    (hi : s'.investigation = s.investigation) (ha : s'.journal.activations = s.journal.activations) :
    s'.deliveryAuthorized now a = s.deliveryAuthorized now a := by
  obtain ⟨_, ⟨activations, _, _, _, _⟩, _, investigation, policy, _, _⟩ := s'
  simp only at hp hi ha
  subst hp hi ha
  rfl

theorem Executes.authorized_of_eq (h : s.deliveryAuthorized x.env.now a = true)
    (hp : s'.policy = s.policy) (hi : s'.investigation = s.investigation)
    (ha : s'.journal.activations = s.journal.activations) : Executes x s' a :=
  .authorized (by rw [deliveryAuthorized_congr hp hi ha]; exact h)

/-! ## Observations and completions -/

theorem safe_recordDeliveryObservation {phase : EffectPhase} {outcome : DeliveryOutcome}
    {Q : DeliveryObservation → WorkflowStore → Prop} (hE : Permits E)
    (hw : Part.delivery ∈ x.call.advances) (hmem : a ∈ s.journal.activations)
    (hintent : i ∈ s.deliveryIntentsOf a.tenantId a.workflowId)
    (hinc : s.deliveryCompletionForIntent i.tenantId i.intentId = none)
    (hreports : DeliveryReports x s i phase outcome)
    (hQ : ∀ o observations, o ∈ observations → o.tenantId = i.tenantId →
      o.observationId = (newDeliveryObservation x.env i phase outcome).observationId →
      Q o { s with delivery := { s.delivery with observations } }) :
    KSafe x x.call.writes E Q (recordDeliveryObservation x.env i phase outcome) s := by
  unfold recordDeliveryObservation
  refine safe_bind.mpr (safe_check.mpr ⟨fun hvalid => ?_, fun _ => hE _ _ rfl⟩)
  refine safe_txn hE ?_ fun o s' h => ?_
  · unfold insertDeliveryObservation
    split <;> simp [WorkflowError.ofRecord]
  · unfold insertDeliveryObservation at h
    split at h
    · next existing hfind =>
        simp only [Except.ok.injEq, Prod.mk.injEq] at h
        obtain ⟨rfl, rfl⟩ := h
        have hkey := List.find?_some hfind
        obtain ⟨ht, hid⟩ := of_decide_eq_true hkey
        exact ⟨Or.inl rfl, hQ _ s.delivery.observations (List.mem_of_find?_eq_some hfind) ht hid⟩
    · simp only [fetch_bind_eq_ok, Table.insert?_eq_some, pure, Except.pure, Except.ok.injEq,
        Prod.mk.injEq] at h
      obtain ⟨_, ⟨hfresh, rfl⟩, rfl, rfl⟩ := h
      refine ⟨Or.inr (delivery_effect hw ?_), ?_⟩
      · exact .observe hmem hintent hinc hreports hvalid hfresh
      · exact hQ _ _ (List.mem_append_right _ (List.mem_singleton_self _)) rfl rfl

theorem newDeliveryCompletion_key {env : Env} {o : DeliveryObservation} {d : DeliveryCompletion}
    (h : newDeliveryCompletion env i o = some d) :
    d.tenantId = i.tenantId ∧ d.intentId = i.intentId := by
  unfold newDeliveryCompletion at h
  split at h
  · rw [← Option.some.inj h]
    exact ⟨rfl, rfl⟩
  · exact absurd h nofun

theorem safe_recordDeliveryCompletion {o : DeliveryObservation}
    {Q : DeliveryCompletion → WorkflowStore → Prop} (hE : Permits E)
    (hw : Part.delivery ∈ x.call.advances) (hmem : a ∈ s.journal.activations)
    (hintent : i ∈ s.deliveryIntentsOf a.tenantId a.workflowId)
    (hinc : s.deliveryCompletionForIntent i.tenantId i.intentId = none)
    (hobserved : o ∈ s.delivery.observations)
    (howner : o.tenantId = i.tenantId ∧ ∃ phase outcome,
      o.observationId = (newDeliveryObservation x.env i phase outcome).observationId)
    (hQ : ∀ d completions, s.delivery.completions <+: completions →
      WorkflowStore.deliveryCompletionForIntent
        { s with delivery := { s.delivery with completions } } i.tenantId i.intentId = some d →
      Q d { s with delivery := { s.delivery with completions } }) :
    KSafe x x.call.writes E Q (recordDeliveryCompletion x.env i o) s := by
  unfold recordDeliveryCompletion
  refine safe_bind.mpr (safe_need.mpr ⟨fun d hbuilt => ?_, fun _ => hE _ _ rfl⟩)
  refine safe_bind.mpr (safe_check.mpr ⟨fun hvalid => ?_, fun _ => hE _ _ rfl⟩)
  refine safe_bind.mpr (safe_txn hE ?_ fun result s' h => ?_)
  · unfold insertDeliveryCompletion
    split <;> simp [WorkflowError.ofRecord]
  · obtain ⟨ht, hi⟩ := newDeliveryCompletion_key hbuilt
    simp only [insertDeliveryCompletion, ht, hi, hinc, fetch_bind_eq_ok, Table.insert?_eq_some, pure,
      Except.pure, Except.ok.injEq, Prod.mk.injEq] at h
    obtain ⟨_, ⟨hfresh, rfl⟩, rfl, rfl⟩ := h
    refine ⟨Or.inr (delivery_effect hw ?_), ?_⟩
    · exact .complete hmem hintent hinc hobserved howner hbuilt hvalid hfresh
    · simp only [Bool.false_eq_true, if_false]
      refine safe_bind.mpr (safe_observe.mpr ?_)
      refine safe_bind.mpr (safe_need.mpr ⟨fun _ _ => ?_, fun _ => hE _ _ rfl⟩)
      refine safe_bind.mpr (safe_observe.mpr ?_)
      refine safe_bind.mpr (safe_check.mpr ⟨fun _ => ?_, fun _ => hE _ _ rfl⟩)
      refine hQ d _ (List.prefix_append _ _) ?_
      -- no completion of the intent was stored, so the new one is the first
      have hnil : s.deliveryCompletionsOf i.tenantId i.intentId = [] :=
        List.head?_eq_none_iff.mp hinc
      show (List.filter _ (s.delivery.completions ++ [d])).head? = some d
      rw [List.filter_append, show List.filter _ s.delivery.completions = [] from hnil,
        List.nil_append, List.filter_cons_of_pos (by simp [ht, hi]), List.head?_cons]

/-! ## Execution -/

/-- An execution reports a stored operation or record, or stores both. -/
theorem safe_executeDeliveryIntent {Q : DeliveryOutcome → WorkflowStore → Prop} (hE : Permits E)
    (hw : Part.delivery ∈ x.call.advances) (hmem : a ∈ s.journal.activations)
    (habout : x.call.about a = true) (hintent : i ∈ s.deliveryIntentsOf a.tenantId a.workflowId)
    (hinc : s.deliveryCompletionForIntent i.tenantId i.intentId = none)
    (hcalm : x.env.reconciliationTimeout = false) (hexec : Executes x s a)
    (hQ : ∀ outcome records operations,
      DeliveryReports x { s with delivery := { s.delivery with records, operations } } i .execute
        outcome →
      Q outcome { s with delivery := { s.delivery with records, operations } }) :
    KSafe x x.call.writes E Q (atomically (executeDeliveryIntent x.env i)) s := by
  refine safe_txn hE ?_ fun outcome s' h => ?_
  · unfold executeDeliveryIntent
    split
    · simp
    · split <;> simp [WorkflowError.ofRecord]
  · unfold executeDeliveryIntent at h
    cases hstored : s.deliveryOperation? i.tenantId i.idempotencyKey with
    | some o =>
        simp only [hstored, Except.ok.injEq, Prod.mk.injEq] at h
        obtain ⟨rfl, rfl⟩ := h
        exact ⟨Or.inl rfl, hQ _ s.delivery.records s.delivery.operations (.executed hstored)⟩
    | none =>
        cases hrecord : (s.deliveryRecordsOf i.tenantId i.naturalKey).head? with
        | some r =>
            simp only [hstored, hrecord, Except.ok.injEq, Prod.mk.injEq] at h
            obtain ⟨rfl, rfl⟩ := h
            refine ⟨Or.inl rfl, hQ _ s.delivery.records s.delivery.operations ?_⟩
            exact .found (List.mem_of_head? hrecord)
        | none =>
            simp only [hstored, hrecord, fetch_bind_eq_ok, Table.insert?_eq_some, pure, Except.pure,
              Except.ok.injEq, Prod.mk.injEq] at h
            obtain ⟨_, ⟨hfreshRecord, rfl⟩, _, ⟨hfreshOperation, rfl⟩, rfl, rfl⟩ := h
            have habsent := List.head?_eq_none_iff.mp hrecord
            refine ⟨Or.inr (delivery_effect hw ?_), hQ _ _ _ (.found ?_)⟩
            · exact .execute habout hmem hintent hinc hstored habsent hfreshRecord hfreshOperation
                hcalm hexec
            · refine (List.mem_insertionSort _).mpr (List.mem_filter.mpr ⟨?_, by simp [newDeliveryRecord]⟩)
              exact List.mem_append_right _ (List.mem_singleton_self _)

/-! ## The effect protocol -/

/-- **`_process_delivery_intent`** reports a completion only when it is the stored one. -/
theorem safe_processDeliveryIntent {Q : Option DeliveryCompletion → WorkflowStore → Prop}
    (hE : Permits E) (hw : Part.delivery ∈ x.call.advances) (hmem : a ∈ s.journal.activations)
    (habout : x.call.about a = true) (hintent : i ∈ s.deliveryIntentsOf a.tenantId a.workflowId)
    (hexec : ∀ observations,
      Executes x { s with delivery := { s.delivery with observations } } a)
    (hQ : ∀ result delivery, delivery.intents = s.delivery.intents →
      (∀ d, result = some d → WorkflowStore.deliveryCompletionForIntent { s with delivery }
        i.tenantId i.intentId = some d) →
      Q result { s with delivery }) :
    KSafe x x.call.writes E Q (processDeliveryIntent x.env i) s := by
  unfold processDeliveryIntent
  refine safe_bind.mpr (safe_observe.mpr ?_)
  cases hstored : s.deliveryCompletionForIntent i.tenantId i.intentId with
  | some d => exact hQ (some d) s.delivery rfl fun d' hd' => hd' ▸ hstored
  | none =>
      have hblocked : ∀ delivery : DeliveryTables, delivery.intents = s.delivery.intents →
          Q none { s with delivery } := by
        intro delivery hi
        exact hQ none delivery hi fun d hd => nomatch hd
      cases htimeout : x.env.reconciliationTimeout with
      | true =>
          simp only [if_true]
          refine safe_bind.mpr
            (safe_recordDeliveryObservation hE hw hmem hintent hstored (.timeout htimeout) ?_)
          intro o observations _ _ _
          exact hblocked { s.delivery with observations } rfl
      | false =>
          simp only [Bool.false_eq_true, if_false]
          refine safe_bind.mpr (safe_observe.mpr ?_)
          refine safe_bind.mpr
            (safe_recordDeliveryObservation hE hw hmem hintent hstored .reconciled ?_)
          intro o observations ho ht hid
          cases hstatus : (s.reconcileDeliveryIntent i).status with
          | unknown => exact hblocked { s.delivery with observations } rfl
          | conflict => exact hblocked { s.delivery with observations } rfl
          | present =>
              refine safe_bind.mpr (safe_recordDeliveryCompletion hE hw hmem hintent hstored ho
                ⟨ht, _, _, hid⟩ ?_)
              intro d completions _ hd
              refine hQ (some d) { s.delivery with observations, completions } rfl fun d' hd' => ?_
              exact hd' ▸ hd
          | absent =>
              refine safe_bind.mpr (safe_executeDeliveryIntent hE hw hmem habout hintent hstored
                htimeout (hexec observations) ?_)
              intro outcome records operations hreports
              refine safe_bind.mpr
                (safe_recordDeliveryObservation hE hw hmem hintent hstored hreports ?_)
              intro o observations ho ht hid
              by_cases hpresent : outcome.status = .present
              · simp only [hpresent, ne_eq, not_true_eq_false, if_false]
                refine safe_bind.mpr (safe_recordDeliveryCompletion hE hw hmem hintent hstored ho
                  ⟨ht, _, _, hid⟩ ?_)
                intro d completions _ hd
                refine hQ (some d) { s.delivery with records, operations, observations, completions }
                  rfl fun d' hd' => ?_
                exact hd' ▸ hd
              · simp only [ne_eq, hpresent, not_false_eq_true, if_true]
                exact hblocked { s.delivery with records, operations, observations } rfl

/-! ## Denial and delivery -/

/-- A transition that records all effects, from a state that allows it. -/
theorem safe_advanceWithEffects {r : TransitionRequest} {Q : Checkpoint → WorkflowStore → Prop}
    (hE : Permits E) (hready : Ready x s a c) (hw : Part.checkpoint ∈ x.call.advances)
    (hadv : Advance x s a c (s.recordsEffects a r)) (hallowed : r.allowedFrom c.payload = true)
    (hvalid : r.resumeState ≠ .paused)
    (hQ : ∀ c' s', Ready x s' a c' → Advanced s s' → c'.payload.currentState = r.nextState → Q c' s') :
    KSafe x x.call.writes E Q (transitionWithEffects x.env a c r) s := by
  unfold transitionWithEffects
  refine safe_bind.mpr (safe_observe.mpr (safe_bind.mpr (safe_observe.mpr ?_)))
  refine safe_advance hE hready hw hadv (Or.inl hallowed) (Or.inl hvalid) ?_
  intro c' s' hready' hadvanced hcurrent _
  exact hQ c' s' hready' hadvanced hcurrent

/-- **`_authorization_denial_projection`.** -/
theorem safe_authorizationDenial {reason : DenialReason} (hE : Permits E) (hready : Ready x s a c)
    (hw : Part.checkpoint ∈ x.call.advances)
    (hunauthorized : s.deliveryAuthorized x.env.now a = false) :
    KSafe x x.call.writes E (fun _ s' => Ended x a s')
      (authorizationDenialProjection x.env a c reason) s := by
  unfold authorizationDenialProjection
  split
  · exact safe_requireProjection hE ⟨c, hready⟩
  · next hstate =>
      have hor : c.payload.currentState = .awaitingApproval ∨ c.payload.currentState = .delivering := by
        by_contra hne
        exact hstate (not_or.mp hne)
      refine safe_bind.mpr (safe_advanceWithEffects hE hready hw
        (.deliveryDenied reason hunauthorized) ?_ nofun ?_)
      · rcases hor with h | h <;>
          simp [TransitionRequest.allowedFrom, transitionAllowed, allowedTargets, h]
      · intro c' s' hready' _ _
        exact safe_requireProjection hE ⟨c', hready'⟩

/-- A checkpoint in `DELIVERING` that records all effects. -/
theorem safe_ensureDeliveryProgress {cause : CheckpointCause} {Q : Checkpoint → WorkflowStore → Prop}
    (hE : Permits E) (hready : Ready x s a c) (hw : Part.checkpoint ∈ x.call.advances)
    (hstate : c.payload.currentState = .delivering) (horigin : cause.isCommand = false)
    (hQ : ∀ c' s', Ready x s' a c' → Advanced s s' → c'.payload.currentState = .delivering →
      Q c' s') :
    KSafe x x.call.writes E Q (ensureDeliveryProgress x.env a cause) s := by
  unfold ensureDeliveryProgress
  refine safe_bind.mpr (safe_observe.mpr (safe_bind.mpr (safe_observe.mpr ?_)))
  refine safe_progress hE hready hw (.deliveryProgress hready.latest hstate horigin) rfl nofun ?_
  intro c' s' hready' hadvanced hcurrent _
  exact hQ c' s' hready' hadvanced hcurrent

/-- **`_ensure_delivery_intent`**, behind the authorization checks. -/
theorem safe_ensureDeliveryIntent {b : SealedBinding} {Q : DeliveryIntent → WorkflowStore → Prop}
    (hE : Permits E) (hw : Part.delivery ∈ x.call.advances) (hready : Ready x s a c)
    (hstate : c.payload.currentState = .delivering)
    (hauthorized : s.deliveryAuthorized x.env.now a = true)
    (hbound : s.authorizationBindingForWorkflow a.tenantId a.workflowId = some b)
    (hQ : ∀ i intents, WorkflowStore.deliveryIntentForWorkflow
        { s with delivery := { s.delivery with intents } } a.tenantId a.workflowId = some i →
      Q i { s with delivery := { s.delivery with intents } }) :
    KSafe x x.call.writes E Q (ensureDeliveryIntent x.env a c b) s := by
  unfold ensureDeliveryIntent
  refine safe_bind.mpr (safe_observe.mpr ?_)
  cases hstored : s.deliveryIntentForWorkflow a.tenantId a.workflowId with
  | some existing => exact hQ existing s.delivery.intents hstored
  | none =>
      refine safe_bind.mpr (safe_check.mpr ⟨fun hvalid => ?_, fun _ => hE _ _ rfl⟩)
      have hnone : s.deliveryIntentForWorkflow (newDeliveryIntent x.env a c b).tenantId
          (newDeliveryIntent x.env a c b).workflowId = none := hstored
      refine safe_txn hE ?_ fun i s' h => ?_
      · simp [insertDeliveryIntent, hnone, WorkflowError.ofRecord]
      · simp only [insertDeliveryIntent, hnone, fetch_bind_eq_ok, Table.insert?_eq_some, pure,
          Except.pure, Except.ok.injEq, Prod.mk.injEq] at h
        obtain ⟨_, ⟨hfresh, rfl⟩, rfl, rfl⟩ := h
        refine ⟨Or.inr (delivery_effect hw ?_), hQ _ _ ?_⟩
        · exact .intent hready.mem hready.about hready.latest hstate hauthorized hbound hvalid
            hstored hfresh
        · have hnil : s.deliveryIntentsOf a.tenantId a.workflowId = [] :=
            List.head?_eq_none_iff.mp hstored
          show (List.filter _ (s.delivery.intents ++ [newDeliveryIntent x.env a c b])).head? = _
          rw [List.filter_append, show List.filter _ s.delivery.intents = [] from hnil,
            List.nil_append, List.filter_cons_of_pos (by simp [newDeliveryIntent]), List.head?_cons]

/-- The intent of a workflow is one of its intents. -/
theorem deliveryIntentForWorkflow_mem {t : String} {w : WorkflowId}
    (h : s.deliveryIntentForWorkflow t w = some i) : i ∈ s.deliveryIntentsOf t w :=
  List.mem_of_head? h

/-- **`_recover_delivery`** behind its authorization checks. -/
theorem safe_deliver {b : SealedBinding} (hE : Permits E) (hwd : Part.delivery ∈ x.call.advances)
    (hwc : Part.checkpoint ∈ x.call.advances) (hready : Ready x s a c)
    (hstate : c.payload.currentState = .delivering)
    (hauthorized : s.deliveryAuthorized x.env.now a = true)
    (hbound : s.authorizationBindingForWorkflow a.tenantId a.workflowId = some b) :
    KSafe x x.call.writes E (fun _ s' => Ended x a s') (deliver x.env a c b) s := by
  unfold deliver
  refine safe_bind.mpr
    (safe_ensureDeliveryIntent hE hwd hready hstate hauthorized hbound fun i intents hi => ?_)
  have hready₁ : Ready x { s with delivery := { s.delivery with intents } } a c :=
    hready.of_journal rfl rfl
  refine safe_bind.mpr (safe_ensureDeliveryProgress hE hready₁ hwc hstate rfl ?_)
  intro c₂ s₂ hready₂ hadv₂ hstate₂
  have hi₂ : i ∈ s₂.deliveryIntentsOf a.tenantId a.workflowId := by
    unfold WorkflowStore.deliveryIntentsOf
    rw [hadv₂.delivery]
    exact deliveryIntentForWorkflow_mem hi
  -- nothing the authorization depends on has changed since it was checked
  refine safe_bind.mpr (safe_processDeliveryIntent hE hwd hready₂.mem hready₂.about hi₂ ?_ ?_)
  · intro observations
    exact Executes.authorized_of_eq hauthorized hadv₂.policy hadv₂.investigation hadv₂.activations
  · intro result delivery hintents hresult
    have hready₃ : Ready x { s₂ with delivery } a c₂ := hready₂.of_journal rfl rfl
    cases result with
    | none =>
        have hresume : (reconciliationRequired c₂.payload (.deliveryReconciliation i.intentId)) =
            { transitionKind := .reconciliationRequired, nextState := .needsReconciliation,
              resumeState := .delivering, causationEventId := .deliveryReconciliation i.intentId } := by
          rw [reconciliationRequired, hstate₂]
        refine safe_bind.mpr (safe_advanceWithEffects hE hready₃ hwc (hresume ▸
          .reconcile rfl (Or.inr hstate₂)) ?_ (fun h => by cases h) ?_)
        · simp [TransitionRequest.allowedFrom, transitionAllowed, allowedTargets, hstate₂,
            terminalStates]
        · intro c' s' hready' _ _
          exact safe_requireProjection hE ⟨c', hready'⟩
    | some d =>
        refine safe_bind.mpr (safe_ensureDeliveryProgress hE hready₃ hwc hstate₂ rfl ?_)
        intro c₄ s₄ hready₄ hadv₄ hstate₄
        have hi₄ : i ∈ s₄.deliveryIntentsOf a.tenantId a.workflowId := by
          unfold WorkflowStore.deliveryIntentsOf
          rw [hadv₄.delivery]
          show i ∈ List.filter _ delivery.intents
          rw [hintents]
          exact hi₂
        have hd₄ : s₄.deliveryCompletionForIntent i.tenantId i.intentId = some d := by
          have hd := hresult d rfl
          unfold WorkflowStore.deliveryCompletionForIntent WorkflowStore.deliveryCompletionsOf at hd ⊢
          rw [hadv₄.delivery]
          exact hd
        refine safe_bind.mpr (safe_advance hE hready₄ hwc (.deliveryComplete hi₄ hd₄) (Or.inl ?_)
          (Or.inl fun h => by cases h) ?_)
        · simp [TransitionRequest.allowedFrom, transitionAllowed, allowedTargets, hstate₄]
        · intro c' s' hready' _ _ _
          exact safe_requireProjection hE ⟨c', hready'⟩

/-- **`_recover_delivery`.** -/
theorem safe_recoverDelivery (hE : Permits E) (hwd : Part.delivery ∈ x.call.advances)
    (hwc : Part.checkpoint ∈ x.call.advances) (hready : Ready x s a c) :
    KSafe x x.call.writes E (fun _ s' => Ended x a s') (recoverDelivery x.env a c) s := by
  have hdenied : ∀ reason, s.deliveryAuthorized x.env.now a = false →
      KSafe x x.call.writes E (fun _ s' => Ended x a s')
        (authorizationDenialProjection x.env a c reason) s :=
    fun reason hno => safe_authorizationDenial hE hready hwc hno
  unfold recoverDelivery
  split
  · exact safe_requireProjection hE ⟨c, hready⟩
  · next hstate =>
      rw [ne_eq, not_not] at hstate
      refine safe_bind.mpr (safe_observe.mpr ?_)
      refine safe_bind.mpr (safe_observe.mpr ?_)
      refine safe_bind.mpr (safe_observe.mpr ?_)
      refine safe_bind.mpr (safe_observe.mpr ?_)
      split
      · next b grant policy request hb hgrant hpolicy hrequest =>
          refine safe_bind.mpr (safe_observe.mpr ?_)
          refine safe_bind.mpr (safe_observe.mpr ?_)
          split
          · next happroval =>
              exact hdenied _ (by
                simp [WorkflowStore.deliveryAuthorized, hb, hgrant, hpolicy, hrequest, happroval])
          · next approval happroval =>
              split
              · next hprofile =>
                  exact hdenied _ (by
                    simp [WorkflowStore.deliveryAuthorized, hb, hgrant, hpolicy, hrequest, hprofile])
              · next hprofile =>
                  refine safe_bind.mpr (safe_observe.mpr ?_)
                  refine safe_bind.mpr (safe_need.mpr ⟨fun candidate hcandidate => ?_,
                    fun _ => hE _ _ rfl⟩)
                  split
                  · next hcurrent =>
                      exact hdenied _ (by
                        simp [WorkflowStore.deliveryAuthorized, hb, hgrant, hpolicy, hrequest,
                          happroval, hcandidate, hcurrent])
                  · next hcurrent =>
                      rw [not_not] at hprofile hcurrent
                      refine safe_deliver hE hwd hwc hready hstate ?_ hb
                      simp only [WorkflowStore.deliveryAuthorized, hb, hgrant, hpolicy, hrequest,
                        happroval, hcandidate, Option.any_some, decide_eq_true_eq]
                      exact ⟨hprofile, hcurrent⟩
      · next hmissing =>
          refine hdenied _ ?_
          unfold WorkflowStore.deliveryAuthorized
          split
          · next b grant policy request hb hgrant hpolicy hrequest =>
              exact absurd hrequest (hmissing b grant policy request hb hgrant hpolicy)
          · rfl

/-- **`_recover_delivery_reconciliation`**, in the store its recovery has prepared. -/
theorem safe_recoverDeliveryReconciliation (hE : Permits E)
    (hwd : Part.delivery ∈ x.call.advances) (hwc : Part.checkpoint ∈ x.call.advances)
    (hready : Ready x s a c) (hrecovers : x.call.recovers = true) (hprepared : PreparedAt x a s)
    (hstate : c.payload.currentState = .needsReconciliation)
    (hresume : c.payload.resumeState = .delivering)
    (hactivation : (s.policyActivationForWorkflow a.tenantId a.workflowId).isSome = true) :
    KSafe x x.call.writes E (fun _ s' => Ended x a s')
      (recoverDeliveryReconciliation x.env a c) s := by
  unfold recoverDeliveryReconciliation
  refine safe_bind.mpr (safe_observe.mpr ?_)
  refine safe_bind.mpr (safe_need.mpr ⟨fun i hi => ?_, fun _ => hE _ _ rfl⟩)
  have hintent := deliveryIntentForWorkflow_mem hi
  refine safe_bind.mpr (safe_processDeliveryIntent hE hwd hready.mem hready.about hintent ?_ ?_)
  · intro observations
    exact .reconciling hrecovers hprepared hready.latest hstate hresume hactivation
      ⟨rfl, rfl, rfl, rfl, rfl, rfl, rfl⟩
  · intro result delivery hintents hresult
    have hready₁ : Ready x { s with delivery } a c := hready.of_journal rfl rfl
    cases result with
    | none => exact safe_requireProjection hE ⟨c, hready₁⟩
    | some d =>
        have hi₁ : i ∈ WorkflowStore.deliveryIntentsOf { s with delivery } a.tenantId a.workflowId := by
          show i ∈ List.filter _ delivery.intents
          rw [hintents]
          exact hintent
        have hrequest : reconciliationComplete c.payload (.deliveryReconciled d.completionId) =
            { transitionKind := .reconciliationComplete, nextState := .delivering,
              resumeState := .delivering, causationEventId := .deliveryReconciled d.completionId } := by
          rw [reconciliationComplete, hresume]
        refine safe_bind.mpr (safe_advanceWithEffects hE hready₁ hwc (hrequest ▸
          .deliveryReconciled hi₁ (hresult d rfl) hresume) ?_ (fun h => by cases h) ?_)
        · simp [TransitionRequest.allowedFrom, transitionAllowed, allowedTargets, hstate]
        · intro c' s' hready' _ _
          exact safe_recoverDelivery hE hwd hwc hready'

end WeFlow
