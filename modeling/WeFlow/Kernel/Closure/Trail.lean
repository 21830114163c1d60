import WeFlow.Kernel.Closure.Checkpoints
import WeFlow.Kernel.Final

/-!
# `Trail` — the Case follows its workflow

A transition takes two transactions: its checkpoint, and behind it the event of the Case. A process may die
between the two, and the Case may already be in the state that the transition leads to; so a Case need not have
an event for each transition. But it has none that its workflow did not take, and has them in their order.

## Contents

* `transitionsOf` — the events that a workflow's checkpoints ask for.
* `TrailInv`, `Effect.trailInv` — the events of a Case are some of them, and the last one gives its state.
* `TrailInv.synced` — what a recovery that returns has established.
-/

namespace WeFlow

variable {x : Context} {s s' : WorkflowStore} {a : WorkflowActivation} {part : Part}

/-! ## Transitions and their events -/

/-- The events of the transitions behind a checkpoint. -/
def transitionsFrom (a : WorkflowActivation) : Checkpoint → List Checkpoint → List WorkflowStateEvent
  | _, [] => []
  | previous, c :: rest =>
      (c.transitionKind.map (caseEventOf a previous.payload c.payload)).toList ++ transitionsFrom a c rest

/-- The event that each transition of a workflow's checkpoints asks for. -/
def transitionsOf (a : WorkflowActivation) : List Checkpoint → List WorkflowStateEvent
  | [] => []
  | c :: rest => transitionsFrom a c rest

theorem transitionsFrom_snoc {previous c : Checkpoint} {cs : List Checkpoint} {last : Checkpoint}
    (hlast : (previous :: cs).getLast? = some last) :
    transitionsFrom a previous (cs ++ [c]) =
      transitionsFrom a previous cs ++ (c.transitionKind.map (caseEventOf a last.payload c.payload)).toList := by
  induction cs generalizing previous with
  | nil =>
      obtain rfl : previous = last := Option.some.inj hlast
      show _ ++ [] = [] ++ _
      rw [List.append_nil, List.nil_append]
  | cons d cs ih =>
      rw [List.getLast?_cons_cons] at hlast
      show _ ++ transitionsFrom a d (cs ++ [c]) = (_ ++ transitionsFrom a d cs) ++ _
      rw [ih hlast, List.append_assoc]

theorem transitionsOf_snoc {c last : Checkpoint} {cs : List Checkpoint} (hlast : cs.getLast? = some last) :
    transitionsOf a (cs ++ [c]) =
      transitionsOf a cs ++ (c.transitionKind.map (caseEventOf a last.payload c.payload)).toList := by
  cases cs with
  | nil => cases hlast
  | cons d cs => exact transitionsFrom_snoc hlast

/-- A new checkpoint adds to the events that are asked for. -/
theorem transitionsOf_prefix {c : Checkpoint} {cs : List Checkpoint} :
    transitionsOf a cs <+: transitionsOf a (cs ++ [c]) := by
  cases hlast : cs.getLast? with
  | none =>
      rw [List.getLast?_eq_none_iff.mp hlast]
      exact List.nil_prefix
  | some last =>
      rw [transitionsOf_snoc hlast]
      exact List.prefix_append _ _

/-- Every event is of a checkpoint behind the first. -/
theorem transitionsFrom_checkpoint {previous : Checkpoint} {cs : List Checkpoint} {e : WorkflowStateEvent}
    (he : e ∈ transitionsFrom a previous cs) : ∃ c ∈ cs, e.checkpointId = c.payload.checkpointId := by
  induction cs generalizing previous with
  | nil => cases he
  | cons d cs ih =>
      rcases List.mem_append.mp he with he | he
      · obtain ⟨kind, -, rfl⟩ := Option.map_eq_some_iff.mp (Option.mem_toList.mp he)
        exact ⟨d, List.mem_cons_self, rfl⟩
      · obtain ⟨c, hc, hid⟩ := ih he
        exact ⟨c, List.mem_cons_of_mem _ hc, hid⟩

theorem transitionsOf_checkpoint {cs : List Checkpoint} {e : WorkflowStateEvent} (he : e ∈ transitionsOf a cs) :
    ∃ c ∈ cs, e.checkpointId = c.payload.checkpointId := by
  cases cs with
  | nil => cases he
  | cons d cs =>
      obtain ⟨c, hc, hid⟩ := transitionsFrom_checkpoint he
      exact ⟨c, List.mem_cons_of_mem _ hc, hid⟩

/-! ## What a Case has of them -/

/-- What an event says of a transition: its checkpoint, and from where to where it led by what. -/
abbrev Mark := Option CheckpointId × EventMetadata

def BusinessEvent.mark (e : BusinessEvent) : Mark := (e.workflowCheckpointId, e.metadata)

def WorkflowStateEvent.mark (e : WorkflowStateEvent) : Mark := (some e.checkpointId, e.metadata)

/-- The events of a workflow in its Case. -/
def WorkflowStore.trailOf (s : WorkflowStore) (a : WorkflowActivation) : List Mark :=
  ((s.ledger.eventRows a.tenantId a.caseId).filter (·.workflowId = some a.workflowId)).map (·.mark)

/-- The state that a trail has led to. -/
def trailState (trail : List Mark) : WorkflowState :=
  match trail.getLast? with
  | some (_, .transition _ _ toState _) => toState
  | _ => .received

/-- **The events of every workflow in its Case** are some of those that its checkpoints ask for, in their order,
    and the last one has led to the state of the Case. -/
structure TrailInv (s : WorkflowStore) : Prop where
  owned : ∀ e ∈ s.ledger.businessEvents, ∀ w, e.workflowId = some w → ∃ a ∈ s.journal.activations,
    e.tenantId = a.tenantId ∧ e.caseId = a.caseId ∧ w = a.workflowId
  sublist : ∀ a ∈ s.journal.activations, (s.trailOf a).Sublist
    ((transitionsOf a (s.checkpointRows a.tenantId a.workflowId)).map (·.mark))
  state : ∀ a ∈ s.journal.activations, s.caseState a = some (trailState (s.trailOf a))

theorem trailInv_empty : TrailInv {} where
  owned := fun e he => by simp at he
  sublist := fun a ha => by simp at ha
  state := fun a ha => by simp at ha

/-- An element that a list does not have is no part of what it has of another. -/
theorem sublist_concat {α : Type} {l m : List α} {k : α} (h : l.Sublist (m ++ [k])) (hnew : k ∉ l) :
    (l ++ [k]).Sublist (m ++ [k]) := by
  obtain ⟨l₁, l₂, rfl, h₁, h₂⟩ := List.sublist_append_iff.mp h
  rcases List.sublist_singleton.mp h₂ with rfl | rfl
  · rw [List.append_nil]
    exact h₁.append (List.Sublist.refl _)
  · exact absurd (List.mem_append_right _ List.mem_cons_self) hnew

/-- An element that a list has stands last in it, when it does so in the other and only there. -/
theorem getLast?_of_sublist {α : Type} {l m : List α} {k : α} (h : l.Sublist (m ++ [k])) (hmem : k ∈ l)
    (honly : k ∉ m) : l.getLast? = some k := by
  obtain ⟨l₁, l₂, rfl, h₁, h₂⟩ := List.sublist_append_iff.mp h
  rcases List.sublist_singleton.mp h₂ with rfl | rfl
  · rw [List.append_nil] at hmem
    exact absurd (h₁.subset hmem) honly
  · exact List.getLast?_concat

/-! ## One transaction -/

theorem trailOf_append {ledger : LedgerStore} {new : List BusinessEvent}
    (h : ledger.businessEvents = s.ledger.businessEvents ++ new) :
    WorkflowStore.trailOf { s with ledger } a = s.trailOf a ++
      ((new.filter fun e => e.tenantId = a.tenantId ∧ e.caseId = a.caseId).filter
        (·.workflowId = some a.workflowId)).map (·.mark) := by
  unfold WorkflowStore.trailOf LedgerStore.eventRows
  show (List.filter _ (List.filter _ ledger.businessEvents)).map _ = _
  rw [h, List.filter_append, List.filter_append, List.map_append]

theorem mem_trailOf {k : Mark} : k ∈ s.trailOf a ↔ ∃ e ∈ s.ledger.eventRows a.tenantId a.caseId,
    e.workflowId = some a.workflowId ∧ e.mark = k := by
  unfold WorkflowStore.trailOf
  rw [List.mem_map]
  constructor
  · rintro ⟨e, he, hk⟩
    obtain ⟨hmem, hw⟩ := List.mem_filter.mp he
    exact ⟨e, hmem, of_decide_eq_true hw, hk⟩
  · rintro ⟨e, he, hw, hk⟩
    exact ⟨e, List.mem_filter.mpr ⟨he, decide_eq_true hw⟩, hk⟩

/-- The events of the other Cases leave a trail alone. -/
theorem trailOf_other {ledger : LedgerStore} {new : List BusinessEvent}
    (h : ledger.businessEvents = s.ledger.businessEvents ++ new)
    (hother : ∀ e ∈ new, ¬ (e.tenantId = a.tenantId ∧ e.caseId = a.caseId ∧ e.workflowId = some a.workflowId)) :
    WorkflowStore.trailOf { s with ledger } a = s.trailOf a := by
  rw [trailOf_append h, List.filter_filter, List.filter_eq_nil_iff.mpr, List.map_nil, List.append_nil]
  intro e he hkey
  rw [Bool.and_eq_true, decide_eq_true_eq, decide_eq_true_eq] at hkey
  exact hother e he ⟨hkey.2.1, hkey.2.2, hkey.1⟩

/-- The transition of the latest checkpoint is the last that is asked for. -/
theorem transitionsOf_latest (hj : JournalInv s) (ha : a ∈ s.journal.activations) {c previous : Checkpoint}
    {kind : TransitionKind} (latest : s.latestCheckpoint? a.tenantId a.workflowId = some c)
    (transition : c.transitionKind = some kind)
    (before : (s.checkpointsOf a.tenantId a.workflowId).dropLast.getLast? = some previous) :
    transitionsOf a (s.checkpointRows a.tenantId a.workflowId) =
      transitionsOf a (s.checkpointRows a.tenantId a.workflowId).dropLast ++
        [caseEventOf a previous.payload c.payload kind] := by
  rw [hj.checkpointsOf_eq ha] at before
  rw [hj.latest_eq ha] at latest
  have hsplit := List.dropLast_append_getLast? c latest
  have hsnoc := transitionsOf_snoc (a := a) (c := c) before
  rw [hsplit, transition] at hsnoc
  exact hsnoc

/-- **The event of a transition** goes behind those that the Case has. -/
theorem TrailInv.caseEvent {b : WorkflowActivation} {c previous : Checkpoint} {kind : TransitionKind}
    {ledger : LedgerStore} (hs : TrailInv s) (hj : JournalInv s) (mem : b ∈ s.journal.activations)
    (latest : s.latestCheckpoint? b.tenantId b.workflowId = some c) (transition : c.transitionKind = some kind)
    (before : (s.checkpointsOf b.tenantId b.workflowId).dropLast.getLast? = some previous)
    (appended : s.ledger.Appended (caseEventOf b previous.payload c.payload kind) ledger) :
    TrailInv { s with ledger } := by
  obtain ⟨row, hrow, hmark, hevents⟩ : ∃ row : BusinessEvent,
      (row.tenantId = b.tenantId ∧ row.caseId = b.caseId ∧ row.workflowId = some b.workflowId) ∧
      row.mark = (caseEventOf b previous.payload c.payload kind).mark ∧
      ledger.businessEvents = s.ledger.businessEvents ++ [row] :=
    ⟨_, ⟨rfl, rfl, rfl⟩, rfl, by rw [appended.stored]⟩
  -- a workflow is known by its Case
  have hother : ∀ a ∈ s.journal.activations, a ≠ b → ¬ (b.tenantId = a.tenantId ∧ b.caseId = a.caseId) :=
    fun a ha hne hcase => hne (hj.activation_unique_case ha mem hcase.1.symm hcase.2.symm)
  have htrail : WorkflowStore.trailOf { s with ledger } b =
      s.trailOf b ++ [(caseEventOf b previous.payload c.payload kind).mark] := by
    rw [trailOf_append hevents, ← hmark]
    simp [hrow]
  have hkept : ∀ a ∈ s.journal.activations, a ≠ b → WorkflowStore.trailOf { s with ledger } a = s.trailOf a := by
    intro a ha hne
    refine trailOf_other hevents fun e he hkey => hother a ha hne ?_
    rw [List.mem_singleton.mp he, hrow.1, hrow.2.1] at hkey
    exact ⟨hkey.1, hkey.2.1⟩
  refine ⟨fun e he w hw => ?_, fun a ha => ?_, fun a ha => ?_⟩
  · have he' : e ∈ ledger.businessEvents := he
    rw [hevents] at he'
    rcases List.mem_append.mp he' with he' | he'
    · exact hs.owned e he' w hw
    · obtain rfl := List.mem_singleton.mp he'
      exact ⟨b, mem, hrow.1, hrow.2.1, Option.some.inj (hw.symm.trans hrow.2.2)⟩
  · by_cases hab : a = b
    · subst hab
      have hsub := hs.sublist a ha
      show (WorkflowStore.trailOf { s with ledger } a).Sublist
        ((transitionsOf a (s.checkpointRows a.tenantId a.workflowId)).map (·.mark))
      rw [htrail]
      rw [transitionsOf_latest hj ha latest transition before, List.map_append, List.map_singleton] at hsub ⊢
      refine sublist_concat hsub fun hmem => appended.fresh ?_
      obtain ⟨e, he, hw, hk⟩ := mem_trailOf.mp hmem
      exact ⟨e, he, hw, congrArg Prod.fst hk⟩
    · rw [hkept a ha hab]
      exact hs.sublist a ha
  · unfold WorkflowStore.caseState
    rw [appended.state_eq]
    by_cases hab : a = b
    · subst hab
      obtain ⟨p, hp⟩ := Option.isSome_iff_exists.mp (hj.projection?_isSome ha)
      rw [if_pos ⟨rfl, rfl⟩, hp, htrail]
      unfold trailState
      rw [List.getLast?_concat]
      rfl
    · have hne : ¬ ((caseEventOf b previous.payload c.payload kind).tenantId = a.tenantId ∧
          (caseEventOf b previous.payload c.payload kind).caseId = a.caseId) := hother a ha hab
      rw [if_neg hne, hkept a ha hab]
      exact hs.state a ha

/-- A checkpoint asks for one event more, at most. -/
theorem TrailInv.withCheckpoint {env : Env} {b : WorkflowActivation} {r : CheckpointRequest}
    (hs : TrailInv s) : TrailInv (s.withCheckpoint env b r) := by
  refine ⟨hs.owned, fun a ha => ?_, hs.state⟩
  have hrows : transitionsOf a (s.checkpointRows a.tenantId a.workflowId) <+:
      transitionsOf a ((s.withCheckpoint env b r).checkpointRows a.tenantId a.workflowId) := by
    by_cases hab : b.tenantId = a.tenantId ∧ b.workflowId = a.workflowId
    · rw [← hab.1, ← hab.2, WorkflowStore.checkpointRows_withCheckpoint]
      exact transitionsOf_prefix
    · rw [WorkflowStore.checkpointRows_other hab]
  exact (hs.sublist a ha).trans (hrows.map _).sublist

/-- A new workflow has no event in its Case, which has just been received. -/
theorem TrailInv.activate {projection : CaseProjection} {revision : CaseRevisionId} {event : EventId}
    {policy : SlaPolicy} {env : Env} {b : WorkflowActivation} {runs : List WorkflowRun} (hs : TrailInv s)
    (projected : s.ledger.projection? projection.tenantId projection.caseId = some projection)
    (received : projection.state = .received) (built : b = newActivation env projection revision event policy)
    (fresh : ∀ a ∈ s.journal.activations, b.clash a = false) :
    TrailInv { s with journal := { s.journal with activations := s.journal.activations ++ [b], runs } } := by
  have hnil : s.trailOf b = [] := by
    refine List.eq_nil_iff_forall_not_mem.mpr fun k hk => ?_
    obtain ⟨e, he, hw, -⟩ := mem_trailOf.mp hk
    obtain ⟨hmem, hkey⟩ := List.mem_filter.mp he
    rw [decide_eq_true_eq] at hkey
    obtain ⟨a, ha, ht, -, haw⟩ := hs.owned e hmem _ hw
    have hclash := decide_eq_false_iff_not.mp (fresh a ha)
    exact hclash ⟨hkey.1.symm.trans ht, Or.inl haw⟩
  refine ⟨fun e he w hw => ?_, fun a ha => ?_, fun a ha => ?_⟩
  · obtain ⟨a, ha, hrest⟩ := hs.owned e he w hw
    exact ⟨a, List.mem_append_left _ ha, hrest⟩
  · rcases List.mem_append.mp ha with ha | ha
    · exact hs.sublist a ha
    · rw [List.mem_singleton.mp ha]
      show (s.trailOf b).Sublist _
      rw [hnil]
      exact List.nil_sublist _
  · rcases List.mem_append.mp ha with ha | ha
    · exact hs.state a ha
    · rw [List.mem_singleton.mp ha]
      show s.caseState b = some (trailState (s.trailOf b))
      rw [hnil, built]
      unfold WorkflowStore.caseState newActivation
      rw [projected, Option.map_some, received]
      rfl

/-- **Every transaction keeps it.** -/
theorem Effect.trailInv (h : Effect x s part s') (hj : JournalInv s) (hs : TrailInv s) : TrailInv s' := by
  cases h with
  | prepare step =>
      cases step with
      | rebuildCase rebuilt =>
          rw [hj.ledger.rebuild, Except.ok.injEq] at rebuilt
          rw [← rebuilt]
          exact hs
      | rebuildWorkflow rebuilt =>
          obtain ⟨rows, -, rfl⟩ := WorkflowStore.rebuildWorkflowProjection_eq_ok rebuilt
          exact ⟨hs.owned, hs.sublist, hs.state⟩
      | caseEvent mem _ latest transition before _ appended =>
          exact hs.caseEvent hj mem latest transition before appended
      | checkpoint => exact hs.withCheckpoint
  | @intake p t ledger accepted =>
      have hnew : ∀ e ∈ newEvents x.env.now p t, e.workflowId = none := by
        unfold newEvents initialEvents
        simp
      refine ⟨fun e he w hw => ?_, fun a ha => ?_, fun a ha => ?_⟩
      · have he' : e ∈ ledger.businessEvents := he
        rw [accepted.businessEvents] at he'
        rcases List.mem_append.mp he' with he' | he'
        · exact hs.owned e he' w hw
        · exact absurd ((hnew e he').symm.trans hw) nofun
      · rw [trailOf_other accepted.businessEvents fun e he hkey => absurd ((hnew e he).symm.trans hkey.2.2) nofun]
        exact hs.sublist a ha
      · rw [trailOf_other accepted.businessEvents fun e he hkey => absurd ((hnew e he).symm.trans hkey.2.2) nofun]
        unfold WorkflowStore.caseState
        rw [accepted.projection?_eq (hj.projection?_isSome ha)]
        exact hs.state a ha
  | activate projected _ received _ _ built _ fresh => exact hs.activate projected received built fresh
  | checkpoint => exact hs.withCheckpoint
  | _ => exact ⟨hs.owned, hs.sublist, hs.state⟩

theorem run_trailInv {cond : Env → Call → WorkflowStore → Bool} {steps : List Step}
    (h : Along cond {} steps = true) : TrailInv (run steps) :=
  (run_effects (fun _ s => TrailInv s) (fun _ _ hs _ _ => hs)
    (fun _ _ _ _ _ _ heffect hj hs => heffect.trailInv hj hs) (fun _ _ _ hs => hs) trailInv_empty h).2

/-! ## A Case that its workflow has synchronised -/

/-- A transition has a checkpoint before it. -/
theorem previous_of_transition (hj : JournalInv s) (ha : a ∈ s.journal.activations) {c : Checkpoint}
    (latest : s.latestCheckpoint? a.tenantId a.workflowId = some c) (transition : c.transitionKind.isSome = true) :
    ∃ previous, (s.checkpointsOf a.tenantId a.workflowId).dropLast.getLast? = some previous := by
  rw [hj.checkpointsOf_eq ha]
  rw [hj.latest_eq ha] at latest
  cases hprevious : (s.checkpointRows a.tenantId a.workflowId).dropLast.getLast? with
  | some previous => exact ⟨previous, rfl⟩
  | none =>
      have hsplit := List.dropLast_append_getLast? c latest
      rw [List.getLast?_eq_none_iff.mp hprevious, List.nil_append] at hsplit
      have hfirst : (s.checkpointRows a.tenantId a.workflowId).head? = some c := by rw [← hsplit, List.head?_cons]
      obtain ⟨env, rfl⟩ := (hj.chain a ha).first hfirst
      cases transition

/-- The identifier of the latest checkpoint is its own. -/
theorem latest_id_new (hj : JournalInv s) (ha : a ∈ s.journal.activations) {c d : Checkpoint}
    (latest : s.latestCheckpoint? a.tenantId a.workflowId = some c)
    (hd : d ∈ (s.checkpointRows a.tenantId a.workflowId).dropLast) :
    d.payload.checkpointId ≠ c.payload.checkpointId := by
  rw [hj.latest_eq ha] at latest
  have hchain := hj.chain a ha
  have hsplit := List.dropLast_append_getLast? c latest
  have hids := hchain.fields
  have hsorted := hchain.sequences
  rw [← hsplit] at hids hsorted
  intro hid
  rw [(hids d (List.mem_append_left _ hd)).2.2.2.2, (hids c (List.mem_append_right _ List.mem_cons_self)).2.2.2.2,
    stableIdentifier_inj] at hid
  have hequal : d.payload.checkpointSequence = c.payload.checkpointSequence :=
    congrArg CheckpointMaterial.checkpointSequence hid
  have hnodup : ((s.checkpointRows a.tenantId a.workflowId).dropLast ++ [c]).map
      (·.payload.checkpointSequence) |>.Nodup := by
    rw [hsorted]
    exact List.nodup_range'
  rw [List.map_append, List.nodup_append] at hnodup
  exact hnodup.2.2 _ (List.mem_map_of_mem hd) _ List.mem_cons_self hequal

/-- **A recovery that returns leaves the Case where the last transition has led**: where the latest checkpoint is
    a transition, the Case is in its state. -/
theorem TrailInv.synced (hs : TrailInv s) (hj : JournalInv s) (ha : a ∈ s.journal.activations)
    (hsynced : s.CaseSynced a) {c : Checkpoint} (latest : s.latestCheckpoint? a.tenantId a.workflowId = some c)
    (transition : c.transitionKind.isSome = true) : s.caseState a = some c.payload.currentState := by
  rcases hsynced c latest transition with ⟨p, hp, hstate⟩ | ⟨e, he, hw, hid⟩
  · unfold WorkflowStore.caseState
    rw [hp, Option.map_some, hstate]
  · -- the Case has the event of this checkpoint, which is the last one asked for
    obtain ⟨kind, hkind⟩ := Option.isSome_iff_exists.mp transition
    obtain ⟨previous, before⟩ := previous_of_transition hj ha latest transition
    have hsub := hs.sublist a ha
    have hmem : e.mark ∈ s.trailOf a := mem_trailOf.mpr ⟨e, he, hw, rfl⟩
    rw [transitionsOf_latest hj ha latest hkind before, List.map_append, List.map_singleton] at hsub
    have honly : e.mark ∉ (transitionsOf a (s.checkpointRows a.tenantId a.workflowId).dropLast).map (·.mark) := by
      intro hearlier
      obtain ⟨f, hf, hmark⟩ := List.mem_map.mp hearlier
      obtain ⟨d, hd, hdid⟩ := transitionsOf_checkpoint hf
      have hsame : some f.checkpointId = e.workflowCheckpointId := congrArg Prod.fst hmark
      rw [hid, hdid] at hsame
      exact latest_id_new hj ha latest hd (Option.some.inj hsame)
    have hmark : e.mark = (caseEventOf a previous.payload c.payload kind).mark := by
      rcases List.mem_append.mp (hsub.subset hmem) with h | h
      · exact absurd h honly
      · exact List.mem_singleton.mp h
    rw [hmark] at hmem honly
    rw [hs.state a ha]
    unfold trailState
    rw [getLast?_of_sublist hsub hmem honly]
    rfl

end WeFlow
