import WeFlow.Kernel.Safety.Investigation

/-!
# `Safety.Command` — commands, and what a recovery does before it continues

`safe_applyCommand` is the branch by type; `safe_applyPendingCommands` is the loop of a recovery, whose
invariant is that every command before the current one is applied, or is a CANCEL that met a
reconciliation.
-/

namespace WeFlow

open Txn Prog

variable {x : Context} {parts : Part → Bool} {E : WorkflowError → WorkflowStore → Prop}
  {s : WorkflowStore} {a : WorkflowActivation} {c : Checkpoint} {command : WorkflowCommand}

/-! ## One command -/

/-- What a command may still run into, at its own version. -/
structure Refusals (E : WorkflowError → WorkflowStore → Prop) (s : WorkflowStore)
    (a : WorkflowActivation) (c : Checkpoint) (command : WorkflowCommand) : Prop where
  allowed : ∀ r, Applies s a c.payload command r → r.allowedFrom c.payload = true ∨
    E .workflowTransitionNotAllowed s
  valid : ∀ r, Applies s a c.payload command r → r.resumeState ≠ .paused ∨
    E .workflowCheckpointInvalid s

/-- What identifies the command to be applied. -/
structure Unapplied (x : Context) (s : WorkflowStore) (a : WorkflowActivation) (c : Checkpoint)
    (command : WorkflowCommand) : Prop where
  stored : command ∈ s.commandsOf a.tenantId a.workflowId
  unapplied : s.commandCheckpointExists a.tenantId a.workflowId command.commandId = false
  first : x.call.recovers = true → ∀ r, Applies s a c.payload command r →
    r.allowedFrom c.payload = true → (s.pendingCommands a).head? = some command

/-- A command's transition. -/
theorem safe_commandTransition {r : TransitionRequest} {Q : Checkpoint → WorkflowStore → Prop}
    (hE : Permits E) (hcommand : parts .command = true) (hevent : parts .caseEvent = true)
    (hat : At x s a c) (hun : Unapplied x s a c command)
    (hversion : c.payload.workflowVersion = command.expectedWorkflowVersion)
    (hrefusals : Refusals E s a c command) (happlies : Applies s a c.payload command r)
    (hQ : ∀ c' ledger, r.allowedFrom c.payload = true →
      At x { s.withCheckpoint x.env a (r.checkpoint c.payload) with ledger } a c' →
      Q c' { s.withCheckpoint x.env a (r.checkpoint c.payload) with ledger }) :
    KSafe x parts E Q (transition x.env a c r) s := by
  by_cases hok : r.allowedFrom c.payload = true
  · refine safe_transition hE hevent hat (Or.inl hok) (hrefusals.valid r happlies) ?_ ?_ ?_
    · exact fun _ => happlies.continues hok
    · intro _ hcheck
      refine ⟨.command, hcommand, .prepare (.checkpoint ?_ hcheck)⟩
      exact .command hat.latest hun.stored hun.unapplied (fun hr => hun.first hr r happlies hok)
        hversion happlies hok
    · intro ledger hsynced
      exact hQ _ ledger hok (at_withCheckpoint hat hsynced)
  · -- a refused transition ends the program before it writes anything
    unfold transition
    refine safe_bind.mpr (safe_check.mpr ⟨fun h => absurd h hok, fun _ => ?_⟩)
    exact (hrefusals.allowed r happlies).resolve_left hok

/-- **The branch of `_apply_persisted_command` by type.** -/
theorem safe_applyCommand {Q : CommandDisposition → WorkflowStore → Prop} (hE : Permits E)
    (hcommand : parts .command = true) (hevent : parts .caseEvent = true) (hat : At x s a c)
    (hun : Unapplied x s a c command)
    (hversion : c.payload.workflowVersion = command.expectedWorkflowVersion)
    (hrefusals : Refusals E s a c command)
    (hskip : command.commandType = .cancel → c.payload.currentState = .needsReconciliation →
      ∀ d, Q d s)
    (hQ : ∀ d r c' ledger, Applies s a c.payload command r → r.allowedFrom c.payload = true →
      At x { s.withCheckpoint x.env a (r.checkpoint c.payload) with ledger } a c' →
      Q d { s.withCheckpoint x.env a (r.checkpoint c.payload) with ledger }) :
    KSafe x parts E Q (applyCommand x.env a c command.commandId command.commandType) s := by
  have happly : ∀ (r : TransitionRequest) (d : CommandDisposition),
      Applies s a c.payload command r → KSafe x parts E Q (do
        let _ ← transition x.env a c r
        pure d) s := by
    intro r d happlies
    refine safe_bind.mpr
      (safe_commandTransition hE hcommand hevent hat hun hversion hrefusals happlies ?_)
    intro c' ledger hok hat'
    exact hQ d r c' ledger happlies hok hat'
  unfold applyCommand
  cases htype : command.commandType with
  | pause => exact happly _ .accepted (.pause htype)
  | resume => exact happly _ .accepted (.resume htype)
  | cancel =>
      refine safe_bind.mpr (safe_observe.mpr ?_)
      by_cases hpending : s.allPendingIds a.tenantId a.workflowId = ∅
      · rw [if_neg (not_not.mpr hpending)]
        by_cases hstate : c.payload.currentState = .needsReconciliation
        · rw [if_pos hstate]
          exact hskip htype hstate _
        · rw [if_neg hstate]
          exact happly _ .accepted (.cancel htype hpending)
      · rw [if_pos hpending]
        unfold enterReconciliation
        by_cases hstate : c.payload.currentState = .needsReconciliation
        · rw [if_pos hstate]
          exact hskip htype hstate _
        · rw [if_neg hstate]
          refine safe_bind.mpr (safe_bind.mpr (safe_observe.mpr (safe_bind.mpr (safe_observe.mpr ?_))))
          exact safe_bind.mp (happly _ .requiresReconciliation (.absorb htype hpending hstate))

/-- **`_apply_persisted_command`** of a stored command. -/
theorem safe_applyPersistedCommand {Q : CommandResult → WorkflowStore → Prop} (hE : Permits E)
    (hcommand : parts .command = true) (hevent : parts .caseEvent = true)
    (hread : parts .readModel = true) (hat : At x s a c)
    (hun : s.commandCheckpointExists a.tenantId a.workflowId command.commandId = false →
      Unapplied x s a c command)
    (hversion : c.payload.workflowVersion = command.expectedWorkflowVersion ∨
      E .workflowCommandRecoveryConflict s)
    (hrefusals : c.payload.workflowVersion = command.expectedWorkflowVersion →
      Refusals E s a c command)
    (hdone : s.commandCheckpointExists a.tenantId a.workflowId command.commandId = true →
      ∀ d rows, Q d { s with workflowProjection := rows })
    (hskip : command.commandType = .cancel → c.payload.currentState = .needsReconciliation →
      ∀ d rows, Q d { s with workflowProjection := rows })
    (hQ : ∀ d r c' ledger rows, Applies s a c.payload command r → r.allowedFrom c.payload = true →
      At x { s.withCheckpoint x.env a (r.checkpoint c.payload) with ledger } a c' →
      Q d { s.withCheckpoint x.env a (r.checkpoint c.payload) with
        ledger, workflowProjection := rows }) :
    KSafe x parts E Q
      (applyPersistedCommand x.env a command.commandId command.commandType
        command.expectedWorkflowVersion) s := by
  unfold applyPersistedCommand
  refine safe_bind.mpr (safe_observe.mpr ?_)
  cases happlied : s.commandCheckpointExists a.tenantId a.workflowId command.commandId with
  | true =>
      rw [if_pos rfl]
      refine safe_bind.mpr (safe_requireWorkflowProjection hE hread fun rows p => ?_)
      exact hdone happlied _ rows
  | false =>
      rw [if_neg Bool.false_ne_true]
      refine safe_bind.mpr (safe_observe.mpr ?_)
      rw [hat.latest]
      refine safe_bind.mpr (safe_need.mpr ⟨fun c' hc' => ?_, fun hc' => nomatch hc'⟩)
      obtain rfl := Option.some.inj hc'
      refine safe_bind.mpr (safe_check.mpr ⟨fun hok => ?_, fun hbad => ?_⟩)
      · rw [decide_eq_true_eq] at hok
        have hread' : ∀ (d : CommandDisposition) (s' : WorkflowStore),
            (∀ r rows, Q r { s' with workflowProjection := rows }) →
            KSafe x parts E Q (do
              rebuildWorkflowProjection
              let projection ← requireWorkflowProjection a.tenantId a.workflowId
              pure ⟨d, projection⟩) s' := by
          intro d s' hs'
          refine safe_bind.mpr (safe_rebuildWorkflow hE hread fun _ _ => ?_)
          exact safe_bind.mpr (safe_requireWorkflowProjection hE hread fun rows p => hs' _ rows)
        refine safe_bind.mpr (safe_applyCommand hE hcommand hevent hat (hun happlied) hok
          (hrefusals hok) ?_ ?_)
        · intro htype hstate d
          exact hread' d s fun r rows => hskip htype hstate r rows
        · intro d r c' ledger happlies hallowed hat'
          exact hread' d _ fun result rows => hQ result r c' ledger rows happlies hallowed hat'
      · exact hversion.resolve_left (of_decide_eq_false hbad)

/-! ## Pending commands -/

/-- No command has a transition out of a reconciliation. -/
theorem Applies.not_reconciling {r : TransitionRequest} (h : Applies s a c.payload command r)
    (hok : r.allowedFrom c.payload = true) : c.payload.currentState ≠ .needsReconciliation := by
  intro hstate
  cases h with
  | absorb _ _ elsewhere => exact elsewhere hstate
  | pause =>
      simp [TransitionRequest.allowedFrom, pauseRequest, transitionAllowed, allowedTargets,
        hstate] at hok
  | resume =>
      simp [TransitionRequest.allowedFrom, resumeRequest, transitionAllowed, allowedTargets,
        hstate] at hok
  | cancel =>
      simp [TransitionRequest.allowedFrom, cancelRequest, transitionAllowed, allowedTargets,
        hstate] at hok

/-- The checkpoint of a command's transition was caused by it. -/
theorem Applies.cause {r : TransitionRequest} {p : CheckpointPayload} (h : Applies s a p command r) :
    r.causationEventId = .command command.commandId := by
  cases h <;> rfl

/-- A command is applied, or is a CANCEL that met a reconciliation. -/
def Handled (s : WorkflowStore) (a : WorkflowActivation) (c : Checkpoint)
    (command : WorkflowCommand) : Prop :=
  s.commandCheckpointExists a.tenantId a.workflowId command.commandId = true ∨
    command.commandType = .cancel ∧ c.payload.currentState = .needsReconciliation

theorem commandCheckpointExists_withCheckpoint {env : Env} {r : CheckpointRequest} {id : String} :
    (s.withCheckpoint env a r).commandCheckpointExists a.tenantId a.workflowId id =
      (s.commandCheckpointExists a.tenantId a.workflowId id ||
        decide (r.causationEventId = .command id)) := by
  unfold WorkflowStore.commandCheckpointExists WorkflowStore.withCheckpoint
  rw [List.any_append]
  congr 1
  simp [Checkpoint.causedBy, WorkflowStore.checkpointFor, nextCheckpoint, Checkpoint.payload]
  rfl

theorem commandsDone_of_handled (hlatest : s.latestCheckpoint? a.tenantId a.workflowId = some c)
    (h : ∀ y ∈ s.commandsOf a.tenantId a.workflowId, Handled s a c y) : s.CommandsDone a := by
  intro y hy
  obtain ⟨hmem, hunapplied⟩ := List.mem_filter.mp hy
  rw [decide_eq_true_eq] at hunapplied
  rcases h y hmem with happlied | ⟨htype, hstate⟩
  · exact absurd happlied hunapplied
  · exact ⟨htype, c, hlatest, hstate⟩

/-- **The loop of `_recover_pending_commands`.** The induction is on the commands that are left; those
    before them are handled. -/
theorem safe_applyPendingCommands {pre rest : List WorkflowCommand} {Q : Unit → WorkflowStore → Prop}
    (hE : Permits E) (hR : ∀ e s, e ≠ .workflowSlaConflict → Refused x s → E e s) (hat : At x s a c)
    (hcommands : s.commandsOf a.tenantId a.workflowId = pre ++ rest)
    (hpre : ∀ y ∈ pre, Handled s a c y)
    (hQ : ∀ c' s', At x s' a c' → s'.CommandsDone a → Q () s') :
    KSafe x Part.prepares E Q (applyPendingCommands x.env a rest) s := by
  induction rest generalizing s c pre with
  | nil =>
      rw [List.append_nil] at hcommands
      exact hQ c s hat (commandsDone_of_handled hat.latest (hcommands ▸ hpre))
  | cons command rest ih =>
      have hnext : ∀ {s' : WorkflowStore} {c' : Checkpoint}, At x s' a c' →
          s'.commandsOf a.tenantId a.workflowId = s.commandsOf a.tenantId a.workflowId →
          (∀ y ∈ pre, Handled s' a c' y) → Handled s' a c' command →
          KSafe x Part.prepares E Q (applyPendingCommands x.env a rest) s' := by
        intro s' c' hat' hsame hpre' hcommand
        refine ih hat' (by rw [hsame, hcommands, List.append_cons]) ?_
        intro y hy
        rcases List.mem_append.mp hy with hy | hy
        · exact hpre' y hy
        · rw [List.mem_singleton.mp hy]
          exact hcommand
      unfold applyPendingCommands
      refine safe_bind.mpr (safe_observe.mpr ?_)
      rw [hat.latest]
      refine safe_bind.mpr (safe_need.mpr ⟨fun c' hc' => ?_, fun hc' => nomatch hc'⟩)
      obtain rfl := Option.some.inj hc'
      split
      · next hskipped => exact hnext hat rfl hpre (Or.inr hskipped)
      · next hcounts =>
          refine safe_bind.mpr (safe_observe.mpr ?_)
          cases happlied : s.commandCheckpointExists a.tenantId a.workflowId command.commandId with
          | true =>
              rw [if_pos rfl]
              exact hnext hat rfl hpre (Or.inl happlied)
          | false =>
              rw [if_neg Bool.false_ne_true]
              have hstored : command ∈ s.commandsOf a.tenantId a.workflowId := by
                rw [hcommands]
                simp
              have hpending : command ∈ s.pendingCommands a :=
                List.mem_filter.mpr ⟨hstored, by simp [happlied]⟩
              have happlies : ∀ r, Applies s a c.payload command r → r.allowedFrom c.payload = true →
                  ∀ y ∈ pre, s.commandCheckpointExists a.tenantId a.workflowId y.commandId = true := by
                intro r hr hok y hy
                exact (hpre y hy).resolve_right fun h => hr.not_reconciling hok h.2
              refine safe_bind.mpr (safe_applyPersistedCommand hE rfl rfl rfl hat (fun _ => ?_) ?_
                (fun hversion => ?_) (fun h => ?_) (fun htype hstate => ?_) ?_)
              · refine ⟨hstored, happlied, fun _ r hr hok => ?_⟩
                -- everything before the command is applied, so it is the first that is not
                unfold WorkflowStore.pendingCommands
                have hnil : pre.filter (fun y => ¬ s.commandCheckpointExists a.tenantId a.workflowId
                    y.commandId) = [] :=
                  List.filter_eq_nil_iff.mpr fun y hy => by simp [happlies r hr hok y hy]
                rw [hcommands, List.filter_append, hnil, List.nil_append,
                  List.filter_cons_of_pos (by simp [happlied]), List.head?_cons]
              · by_cases hversion : c.payload.workflowVersion = command.expectedWorkflowVersion
                · exact Or.inl hversion
                · exact Or.inr (hR _ _ nofun
                    (.version hat.mem hat.about hat.latest hpending hcounts hversion))
              · have hrefused : ∀ e r, e ≠ .workflowSlaConflict → Applies s a c.payload command r →
                    r.allowedFrom c.payload = false ∨ r.resumeState = .paused → E e s := by
                  intro e r hsla hr hbad
                  exact hR e s hsla
                    (.transition hat.mem hat.about hat.latest hpending hcounts hversion hr hbad)
                constructor
                · intro r hr
                  by_cases hok : r.allowedFrom c.payload = true
                  · exact Or.inl hok
                  · exact Or.inr (hrefused _ r nofun hr (Or.inl (by simpa using hok)))
                · intro r hr
                  by_cases hpaused : r.resumeState = .paused
                  · exact Or.inr (hrefused _ r nofun hr (Or.inr hpaused))
                  · exact Or.inl hpaused
              · simp [happlied] at h
              · exact absurd ⟨htype, hstate⟩ hcounts
              · intro _ r c' ledger rows hr hok hat'
                refine hnext (hat'.of_journal rfl rfl) rfl (fun y hy => Or.inl ?_) (Or.inl ?_)
                · show (s.withCheckpoint x.env a (r.checkpoint c.payload)).commandCheckpointExists
                    a.tenantId a.workflowId y.commandId = true
                  rw [commandCheckpointExists_withCheckpoint, happlies r hr hok y hy, Bool.true_or]
                · show (s.withCheckpoint x.env a (r.checkpoint c.payload)).commandCheckpointExists
                    a.tenantId a.workflowId command.commandId = true
                  rw [commandCheckpointExists_withCheckpoint]
                  simp [TransitionRequest.checkpoint, hr.cause]

end WeFlow
