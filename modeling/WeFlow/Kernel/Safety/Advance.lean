import WeFlow.Kernel.Safety.Journal

/-!
# `Safety.Advance` — the checkpoints that no command asks for

`Ready x s a c` is what holds between two parts of a program that advances a workflow; a read of the
projection keeps it, and so does every checkpoint (`safe_advance`). A program ends with `Ended`.
-/

namespace WeFlow

open Txn Prog

variable {α : Type} {x : Context} {E : WorkflowError → WorkflowStore → Prop} {s s' : WorkflowStore}
  {a : WorkflowActivation} {c : Checkpoint}

/-- A program has ended in a store where its workflow could be advanced further. -/
def Ended (x : Context) (a : WorkflowActivation) (s : WorkflowStore) : Prop := ∃ c, Ready x s a c

/-- A change outside the journal and the ledger. -/
theorem Bound.of_journal (h : Bound x s a) (hj : s'.journal = s.journal)
    (hl : s'.ledger = s.ledger) : Bound x s' a := by
  obtain ⟨ledger, journal, _, _, _, _, _⟩ := s'
  subst hj hl
  exact { h with }

theorem At.of_journal (h : At x s a c) (hj : s'.journal = s.journal) (hl : s'.ledger = s.ledger) :
    At x s' a c := by
  obtain ⟨ledger, journal, _, _, _, _, _⟩ := s'
  subst hj hl
  exact { h with }

theorem Ready.of_journal (h : Ready x s a c) (hj : s'.journal = s.journal)
    (hl : s'.ledger = s.ledger) : Ready x s' a c := by
  obtain ⟨ledger, journal, _, _, _, _, _⟩ := s'
  subst hj hl
  exact { h with }

theorem Ended.of_journal (h : Ended x a s) (hj : s'.journal = s.journal)
    (hl : s'.ledger = s.ledger) : Ended x a s' :=
  ⟨h.choose, h.choose_spec.of_journal hj hl⟩

theorem writes_readModel : x.call.writes .readModel = true := Call.writes_of_prepares rfl

theorem writes_caseEvent : x.call.writes .caseEvent = true := Call.writes_of_prepares rfl

theorem writes_of_advances {part : Part} (h : part ∈ x.call.advances) : x.call.writes part = true := by
  simp [Call.writes, h]

/-! ## Reading the projection -/

theorem safe_getProjection {t : String} {w : WorkflowId} (hE : Permits E) (h : Ended x a s) :
    KSafe x x.call.writes E (fun _ s' => Ended x a s') (getWorkflowProjection t w) s :=
  safe_getWorkflowProjection hE writes_readModel fun _ _ _ => h.of_journal rfl rfl

theorem safe_requireProjection {t : String} {w : WorkflowId} (hE : Permits E) (h : Ended x a s) :
    KSafe x x.call.writes E (fun _ s' => Ended x a s') (requireWorkflowProjection t w) s :=
  safe_requireWorkflowProjection hE writes_readModel fun _ _ => h.of_journal rfl rfl

/-! ## Appending checkpoints -/

/-- **A transition that no command asks for.** -/
theorem safe_advance {r : TransitionRequest} {Q : Checkpoint → WorkflowStore → Prop} (hE : Permits E)
    (hready : Ready x s a c) (hw : Part.checkpoint ∈ x.call.advances) (hadv : Advance x s a c r)
    (hallowed : r.allowedFrom c.payload = true ∨ E .workflowTransitionNotAllowed s)
    (hvalid : r.resumeState ≠ .paused ∨ E .workflowCheckpointInvalid s)
    (hQ : ∀ c' s', Ready x s' a c' → Advanced s s' → c'.payload.currentState = r.nextState →
      c'.payload.resumeState = r.resumeState → Q c' s') :
    KSafe x x.call.writes E Q (transition x.env a c r) s := by
  refine safe_transition hE writes_caseEvent hready.toAt hallowed hvalid ?_ ?_ ?_
  · exact fun hok => hadv.continues hok
  · intro hok hcheck
    refine ⟨.checkpoint, writes_of_advances hw, .checkpoint ?_ hcheck hready.settled⟩
    exact .advance hready.latest hadv hok
  · intro ledger hsynced
    have hadvanced : Advanced s { s.withCheckpoint x.env a (r.checkpoint c.payload) with ledger } :=
      advanced_withCheckpoint.trans advanced_ledger
    have hat := at_withCheckpoint hready.toAt hsynced
    exact hQ _ _ (hready.advanced hat hadvanced) hadvanced rfl rfl

/-- **A checkpoint that records progress** in the state the workflow is in. -/
theorem safe_progress {r : CheckpointRequest} {Q : Checkpoint → WorkflowStore → Prop}
    (hE : Permits E) (hready : Ready x s a c) (hw : Part.checkpoint ∈ x.call.advances)
    (hreason : Reason x s a r) (hkind : r.transitionKind = none) (hvalid : r.resumeState ≠ .paused)
    (hQ : ∀ c' s', Ready x s' a c' → Advanced s s' → c'.payload.currentState = r.currentState →
      c'.payload.resumeState = r.resumeState → Q c' s') :
    KSafe x x.call.writes E Q (ensureCheckpoint x.env a r) s := by
  refine safe_ensureCheckpoint hE hready.toBound ?_ ?_ ?_ ?_
  · exact Or.inl (valid_checkpointFor hready.tenant hready.correlation hvalid)
  · intro hcheck
    exact ⟨.checkpoint, writes_of_advances hw, .checkpoint hreason hcheck hready.settled⟩
  · intro y hy hsame
    rw [hready.latest, Option.some.injEq] at hy
    subst hy
    simp only [Checkpoint.same, decide_eq_true_eq] at hsame
    exact hQ _ _ hready (Advanced.refl s) hsame.1 hsame.2.1
  · -- the new checkpoint is no transition, so the Case has nothing to follow
    have hsynced : (s.withCheckpoint x.env a r).CaseSynced a := by
      intro y hy hsome
      rw [WorkflowStore.latestCheckpoint?_withCheckpoint, Option.some.injEq] at hy
      rw [← hy, WorkflowStore.checkpointFor_transitionKind, hkind] at hsome
      cases hsome
    have hat : At x { s.withCheckpoint x.env a r with ledger := s.ledger } a
        (s.checkpointFor x.env a r) := at_withCheckpoint hready.toAt hsynced
    exact hQ _ _ (hready.advanced hat advanced_withCheckpoint) advanced_withCheckpoint rfl rfl

end WeFlow
