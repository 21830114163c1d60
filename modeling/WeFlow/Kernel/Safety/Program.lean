import WeFlow.Kernel.Safety.Recover

/-!
# `Safety.Program` — every call, and every run

`safe_programOf` is the result of all these modules: whatever is called, each transaction it commits is
one of `Effect`, in a part the call may write; a recovery that returns leaves its workflow synchronised
with its Case and its commands done, and if it raises an error of an earlier record, it has met what
`Refused` lists, or `SlaBehind`. From here on invariants are proved from `Effect` alone (`run_effects`).

`run_case`, `submit_command` and `recover_all` take no other transactions than the calls they consist of,
wherever they die (`runCase_run`, `submitCommand_run`, `recoverAll_run`).
-/

namespace WeFlow

open Txn Prog

variable {x : Context} {s s' : WorkflowStore} {a : WorkflowActivation} {c : Checkpoint}

/-! ## Intake and activation -/

theorem safe_discard {α : Type} {parts : Part → Bool} {E : WorkflowError → WorkflowStore → Prop}
    {Q : Unit → WorkflowStore → Prop} {p : Kernel α}
    (h : KSafe x parts E (fun _ s' => Q () s') p s) : KSafe x parts E Q (discard p) s :=
  safe_bind.mpr h

/-- A delivery is deduplicated, or accepted in one transaction. -/
theorem safe_intake
    {txn : LedgerStore → Except LedgerError (IntakeResult × LedgerStore)}
    (hw : Part.ledger ∈ x.call.advances)
    (htxn : ∀ r, txn s.ledger = .ok r → ∃ p t, s.ledger.intakeValidated x.env.now p t = .ok r) :
    KSafe x x.call.writes anyError (fun _ _ => True) (ledgerTxn txn) s := by
  refine safe_atomically.mpr ⟨fun _ _ => trivial, fun r s' h => ⟨?_, trivial⟩⟩
  cases hcall : txn s.ledger with
  | error reason => simp [hcall] at h
  | ok result =>
      simp only [hcall, Except.ok.injEq, Prod.mk.injEq] at h
      obtain ⟨_, rfl⟩ := h
      obtain ⟨p, t, hintake⟩ := htxn _ hcall
      rcases LedgerStore.intakeValidated_cases hintake with heq | haccepted
      · left
        rw [heq]
      · exact Or.inr ⟨.ledger, writes_of_advances hw, .intake haccepted⟩

/-- **`activate_case`.** -/
theorem safe_activateCase {t : String} {k : CaseId} {r : CaseRevisionId} {policy : Option SlaPolicy}
    (hw : Part.activation ∈ x.call.advances) :
    KSafe x x.call.writes anyError (fun _ _ => True) (activateCase x.env t k r policy) s := by
  have hread : ∀ {α : Type} {query : WorkflowStore → Except WorkflowError α}
      {Q : α → WorkflowStore → Prop}, (∀ b, query s = .ok b → Q b s) →
      KSafe x x.call.writes anyError Q (observeM query) s := by
    intro α query Q hQ
    refine safe_atomically.mpr ⟨fun _ _ => trivial, fun b s' h => ?_⟩
    obtain ⟨b', hb', h⟩ := bind_eq_ok.mp h
    obtain ⟨rfl, rfl⟩ := Prod.mk.injEq .. ▸ Except.ok.inj h
    exact ⟨Or.inl rfl, hQ _ hb'⟩
  unfold activateCase
  refine safe_bind.mpr (hread fun row hrow => ?_)
  refine safe_bind.mpr (hread fun revisions hrevisions => ?_)
  refine safe_bind.mpr (hread fun events hevents => ?_)
  refine safe_bind.mpr (safe_need.mpr ⟨fun projection hprojection => ?_, fun _ => trivial⟩)
  refine safe_bind.mpr (safe_check.mpr ⟨fun hone => ?_, fun _ => trivial⟩)
  refine safe_bind.mpr (safe_need.mpr ⟨fun event hevent => ?_, fun _ => trivial⟩)
  split
  · refine safe_bind.mpr (safe_observe.mpr ?_)
    exact safe_bind.mpr (safe_need.mpr ⟨fun _ _ => trivial, fun _ => trivial⟩)
  next hstate =>
  refine safe_bind.mpr (safe_check.mpr ⟨fun _ => ?_, fun _ => trivial⟩)
  refine safe_bind.mpr (safe_check.mpr ⟨fun _ => ?_, fun _ => trivial⟩)
  refine safe_atomically.mpr ⟨fun _ _ => trivial, fun _ s' h => ⟨?_, trivial⟩⟩
  -- what the three queries have returned
  subst hprojection
  simp only [LedgerStore.getCaseProjection, require_bind_eq_ok, pure, Except.pure,
    Except.ok.injEq] at hrow
  simp only [LedgerStore.listCaseRevisions, require_bind_eq_ok, pure, Except.pure,
    Except.ok.injEq] at hrevisions
  simp only [LedgerStore.listCaseEvents, require_bind_eq_ok, pure, Except.pure,
    Except.ok.injEq] at hevents
  obtain ⟨hvalid, hrow⟩ := hrow
  obtain ⟨_, rfl⟩ := hrevisions
  obtain ⟨_, rfl⟩ := hevents
  rw [hrow] at hvalid
  have hkey := List.find?_some hrow
  obtain ⟨rfl, rfl⟩ := of_decide_eq_true hkey
  simp only [decide_eq_true_eq] at hone
  obtain ⟨revision, hrevision⟩ := List.length_eq_one_iff.mp hone.1
  have hrevised : revision ∈ s.ledger.revisionsOf projection.tenantId projection.caseId := by
    rw [← List.mem_insertionSort fun a b : CaseRevision => a.revision ≤ b.revision, hrevision]
    simp
  have hid : revision.caseRevisionId = r := by simpa [hrevision] using hone.2
  have hsourced : event ∈ s.ledger.eventRows projection.tenantId projection.caseId :=
    (List.mem_insertionSort _).mp (List.mem_of_getLast? hevent)
  unfold insertActivation at h
  split at h
  · simp only [require_bind_eq_ok, pure, Except.pure, Except.ok.injEq, Prod.mk.injEq] at h
    exact Or.inl h.2.2.symm
  · next hnew =>
      simp only [fetch_bind_eq_ok, Table.insert?_eq_some, pure, Except.pure, Except.ok.injEq,
        Prod.mk.injEq] at h
      obtain ⟨_, ⟨hfresh, rfl⟩, _, ⟨hrun, rfl⟩, _, rfl⟩ := h
      subst hid
      refine Or.inr ⟨.activation, writes_of_advances hw, ?_⟩
      exact .activate hrow (by simpa using hvalid) (by simpa using hstate) hrevised hsourced rfl
        hnew hfresh rfl hrun

/-! ## The parts of `submit_command` -/

/-- The first part finds an activation and a checkpoint of it. -/
theorem safe_observeForCommand {c : CommandSubmission} (hs : JournalInv s) (hstart : x.start = s)
    (hcall : x.call = .observeForCommand c) :
    KSafe x x.call.writes anyError
      (fun r s' => ∀ requestedAt, (Call.persistCommand r.1 r.2 c requestedAt).enabled s' = true)
      (observeForCommand x.env c) s := by
  have hcase : CaseCall x c.tenantId c.caseId :=
    ⟨fun b ht hk => by simp [hcall, Call.about, ht, hk], by simp [hcall, Call.recovers]⟩
  unfold observeForCommand
  refine safe_bind.mpr (safe_check.mpr ⟨fun _ => ?_, fun _ => trivial⟩)
  refine safe_bind.mpr (safe_observe.mpr ?_)
  refine safe_bind.mpr (safe_need.mpr ⟨fun a ha => ?_, fun _ => trivial⟩)
  obtain ⟨hbound, ht⟩ := hcase.bound hs hstart ha
  have hk : a.caseId = c.caseId := (activationForCaseForTenant_mem ha).2.2
  have henabled : ∀ y s', a ∈ s'.journal.activations →
      s'.latestCheckpoint? a.tenantId a.workflowId = some y →
      ∀ requestedAt, (Call.persistCommand a y c requestedAt).enabled s' = true := by
    intro y s' hmem hy requestedAt
    obtain ⟨hstored, hyt, hyw⟩ := WorkflowStore.latestCheckpoint?_mem hy
    simp [Call.enabled, hmem, hstored, hyt, hyw, ht, hk]
  refine safe_bind.mpr (safe_observe.mpr ?_)
  rw [← ht]
  cases hlatest : s.latestCheckpoint? a.tenantId a.workflowId with
  | some y => exact henabled y s hbound.mem hlatest
  | none =>
      refine safe_bind.mpr (safe_ensureInitialCheckpoint permits_anyError
        (Call.writes_of_prepares rfl) hbound hlatest fun y s' hat => ?_)
      exact safe_bind.mpr (safe_rebuildWorkflow permits_anyError writes_readModel
        fun rows _ => henabled y _ hat.mem hat.latest)

/-- The second part stores the command, unless it is stored already. -/
theorem safe_persistCommand {observed : Checkpoint} {c : CommandSubmission} {requestedAt : Instant}
    (hstart : x.start = s) (hcall : x.call = .persistCommand a observed c requestedAt)
    (henabled : x.call.enabled s = true) :
    KSafe x x.call.writes anyError
      (fun _ s' => ∃ command : WorkflowCommand, command.commandId = c.commandId ∧
        command.commandType = c.commandType ∧
        command.expectedWorkflowVersion = c.expectedWorkflowVersion ∧
        (Call.applyCommand a command).enabled s' = true)
      (persistCommand x.env a observed c requestedAt) s := by
  have hw : Part.submission ∈ x.call.advances := by simp [hcall, Call.advances]
  simp only [hcall, Call.enabled, decide_eq_true_eq] at henabled
  obtain ⟨hmem, _, _, _, howner⟩ := henabled
  unfold persistCommand
  refine safe_bind.mpr (safe_check.mpr ⟨fun hvalid => ?_, fun _ => trivial⟩)
  refine safe_atomically.mpr ⟨fun _ _ => trivial, fun _ s' h => ?_⟩
  unfold insertCommand at h
  split at h
  · next existing hfind =>
      simp only [require_bind_eq_ok, pure, Except.pure, Except.ok.injEq, Prod.mk.injEq,
        decide_eq_true_eq] at h
      obtain ⟨⟨htype, hversion, _⟩, _, rfl⟩ := h
      have hkey := List.find?_some hfind
      obtain ⟨ht, hwf, hid⟩ := of_decide_eq_true hkey
      refine ⟨Or.inl rfl, existing, hid, htype, hversion, ?_⟩
      have hstored : existing ∈ s.journal.commands := List.mem_of_find?_eq_some hfind
      have ht' : existing.tenantId = a.tenantId := ht.trans howner.1
      have hwf' : existing.workflowId = a.workflowId := hwf
      simp [Call.enabled, hmem, hstored, ht', hwf']
  · simp only [require_bind_eq_ok, fetch_bind_eq_ok, Table.insert?_eq_some, pure, Except.pure,
      Except.ok.injEq, Prod.mk.injEq] at h
    obtain ⟨hversion, hadmitted, _, ⟨hnew, rfl⟩, _, rfl⟩ := h
    refine ⟨Or.inr ⟨.submission, writes_of_advances hw, ?_⟩, newCommand a c requestedAt x.env.now,
      rfl, rfl, rfl, ?_⟩
    · refine .submission hcall hstart.symm hmem rfl howner hvalid hnew ?_ ?_
      · simpa [newCommand, howner.1] using hversion
      · simpa [newCommand, howner.1] using hadmitted
    · have ht : (newCommand a c requestedAt x.env.now).tenantId = a.tenantId := howner.1
      have hwf : (newCommand a c requestedAt x.env.now).workflowId = a.workflowId := rfl
      simp [Call.enabled, hmem, ht, hwf]

/-- The third part. -/
theorem safe_applyCommandCall {command : WorkflowCommand} (hs : JournalInv s) (hstart : x.start = s)
    (hcall : x.call = .applyCommand a command) (henabled : x.call.enabled s = true) :
    KSafe x x.call.writes anyError (fun _ _ => True)
      (applyPersistedCommand x.env a command.commandId command.commandType
        command.expectedWorkflowVersion) s := by
  have hr : x.call.recovers = false := by simp [hcall, Call.recovers]
  simp only [hcall, Call.enabled, decide_eq_true_eq] at henabled
  obtain ⟨hmem, hcommand, hkey⟩ := henabled
  have hbound : Bound x s a := bound_start hs hstart hmem (by simp [hcall, Call.about]) hr
  have hstored : command ∈ s.commandsOf a.tenantId a.workflowId :=
    (List.mem_insertionSort _).mpr (List.mem_filter.mpr ⟨hcommand, decide_eq_true hkey⟩)
  cases hlatest : s.latestCheckpoint? a.tenantId a.workflowId with
  | none =>
      -- without a checkpoint nothing is written
      have happlied : s.commandCheckpointExists a.tenantId a.workflowId command.commandId = false := by
        refine List.any_eq_false.mpr fun y hy hkey => ?_
        simp only [decide_eq_true_eq] at hkey
        have hrow : y ∈ s.checkpointRows a.tenantId a.workflowId :=
          List.mem_filter.mpr ⟨hy, decide_eq_true ⟨hkey.1, hkey.2.1⟩⟩
        simp [WorkflowStore.latestCheckpoint?_eq_none.mp hlatest] at hrow
      unfold applyPersistedCommand
      refine safe_bind.mpr (safe_observe.mpr ?_)
      rw [happlied, if_neg Bool.false_ne_true]
      refine safe_bind.mpr (safe_observe.mpr ?_)
      rw [hlatest]
      exact safe_bind.mpr (safe_need.mpr ⟨fun _ hc => (by cases hc), fun _ => trivial⟩)
  | some c =>
      refine safe_applyPersistedCommand permits_anyError (Call.writes_of_prepares rfl)
        writes_caseEvent writes_readModel { hbound with latest := hlatest } ?_ (Or.inr trivial) ?_
        (fun _ _ _ => trivial) (fun _ _ _ _ => trivial) fun _ _ _ _ _ _ _ _ => trivial
      · exact fun happlied => ⟨hstored, happlied, fun hrec => by simp [hr] at hrec⟩
      · exact fun _ => ⟨fun _ _ => Or.inr trivial, fun _ _ => Or.inr trivial⟩

/-! ## Every call -/

/-- What a call leaves when it returns. -/
def Returns (x : Context) (s : WorkflowStore) : Prop :=
  ∀ t w, x.call = .recoverWorkflow t w →
    ∃ a ∈ s.journal.activations, a.tenantId = t ∧ a.workflowId = w ∧ Ended x a s

/-- The error a call ends with. -/
def Raised (x : Context) (e : WorkflowError) (s : WorkflowStore) : Prop :=
  x.call.recovers = true → recoveryError x e s

/-- **Every call** takes only the transactions of `Effect`. -/
theorem safe_programOf (hs : JournalInv s) (hstart : x.start = s)
    (henabled : x.call.enabled s = true) :
    KSafe x x.call.writes (Raised x) (fun _ s' => Returns x s') (programOf x.env x.call) s := by
  have hunit : ∀ {p : Kernel Unit} {Q : Unit → WorkflowStore → Prop}, x.call.recovers = false →
      KSafe x x.call.writes anyError Q p s →
      KSafe x x.call.writes (Raised x) (fun _ s' => Returns x s') p s := by
    intro p Q hr hp
    refine hp.mono (fun _ _ => id) (fun _ s' _ t w hcall => ?_) fun e s' _ hrec => ?_
    · simp [hcall, Call.recovers] at hr
    · simp [hr] at hrec
  have hany : ∀ {α : Type} {p : Kernel α} {Q : α → WorkflowStore → Prop}, x.call.recovers = false →
      KSafe x x.call.writes anyError Q p s →
      KSafe x x.call.writes (Raised x) (fun _ s' => Returns x s') (discard p) s := by
    intro α p Q hr hp
    have hdiscard : KSafe x x.call.writes anyError (fun _ _ => True) (discard p) s :=
      safe_discard (hp.mono (fun _ _ => id) (fun _ _ _ => trivial) fun _ _ => id)
    exact hunit hr hdiscard
  obtain ⟨env, call, start⟩ := x
  cases call with
  | intake envelope t =>
      refine hany rfl (safe_intake (List.mem_singleton_self _) fun r h => ?_)
      simp only [LedgerStore.intake, require_bind_eq_ok] at h
      exact ⟨_, _, h.2.2⟩
  | intakeQq envelope t =>
      refine hany rfl (safe_intake (List.mem_singleton_self _) fun r h => ?_)
      simp only [LedgerStore.intakeQq, require_bind_eq_ok] at h
      exact ⟨_, _, h.2.2⟩
  | activateCase t k r policy => exact hany rfl (safe_activateCase (List.mem_singleton_self _))
  | recoverWorkflow t w =>
      refine safe_discard ((safe_recoverWorkflow hs hstart rfl).mono (fun _ _ => id) ?_ ?_)
      · rintro _ s' ⟨a, hmem, ht, hw, hended⟩ t' w' hcall
        obtain ⟨rfl, rfl⟩ := Call.recoverWorkflow.inj hcall
        exact ⟨a, hmem, ht, hw, hended⟩
      · exact fun _ _ h _ => h
  | observeForCommand c => exact hany rfl (safe_observeForCommand hs hstart rfl)
  | persistCommand a observed c requestedAt =>
      exact hunit rfl (safe_persistCommand hstart rfl henabled)
  | applyCommand a command => exact hany rfl (safe_applyCommandCall hs hstart rfl henabled)
  | beginInvestigation t k manifest transcriptId =>
      exact hany rfl (safe_beginInvestigation hs hstart rfl)
  | recordAgentAction t k action => exact hany rfl (safe_recordAgentAction hs hstart rfl)
  | recordToolExchange t k request result =>
      exact hunit rfl (safe_recordToolExchange hs hstart rfl)
  | recordResponseCandidate t k candidate =>
      exact hany rfl (safe_recordResponseCandidate hs hstart rfl)
  | verifyResponseCandidate t k candidateId =>
      exact hany rfl (safe_verifyResponseCandidate hs hstart rfl)
  | activatePolicyApproval t k => exact hany rfl (safe_activatePolicyApproval hs hstart rfl)
  | submitApprovalDecision t k requestId verdict version approverId approverRole =>
      exact hany rfl (safe_submitApprovalDecision hs hstart rfl)
  | revokeFixtureGrant t k => exact hunit rfl (safe_revokeFixtureGrant hs hstart rfl)

/-! ## Every run -/

/-- The context of a step's transactions. -/
def Step.context (step : Step) (s : WorkflowStore) : Context := ⟨step.env, step.call, s⟩

/-- A step leads through transactions of its call. -/
theorem Step.reaches {step : Step} (hs : JournalInv s) (henabled : step.call.enabled s = true) :
    Relation.ReflTransGen (Effects (step.context s) step.call.writes) s (s.after step) :=
  (exec_safe (safe_programOf (x := step.context s) hs rfl henabled) step.cut).1

theorem JournalInv.effects {parts : Part → Bool} (hs : JournalInv s) (h : Effects x parts s s') :
    JournalInv s' := by
  obtain ⟨_, _, heffect⟩ := h
  exact heffect.journalInv hs

theorem Step.journalInv {step : Step} (hs : JournalInv s) (henabled : step.call.enabled s = true) :
    JournalInv (s.after step) :=
  invariant_of_reaches (fun _ _ h hs => hs.effects h) (step.reaches hs henabled) hs

/-- **An invariant of every transaction holds along every run** from a store in which it holds. `Within`
    may say more of the store inside a call than outside. -/
theorem runFrom_effects {cond : Env → Call → WorkflowStore → Bool} {Inv : WorkflowStore → Prop}
    (Within : Context → WorkflowStore → Prop)
    (henter : ∀ x : Context, JournalInv x.start → Inv x.start → x.call.enabled x.start = true →
      cond x.env x.call x.start = true → Within x x.start)
    (hkeep : ∀ (x : Context) s s' part, cond x.env x.call x.start = true →
      x.call.writes part = true → Effect x s part s' → JournalInv s → Within x s → Within x s')
    (hleave : ∀ x s, JournalInv s → Within x s → Inv s)
    {s : WorkflowStore} {steps : List Step} (hs : JournalInv s) (hinv : Inv s)
    (h : Along cond s steps = true) : JournalInv (runFrom s steps) ∧ Inv (runFrom s steps) := by
  refine @run_induction cond (fun s => JournalInv s ∧ Inv s) ?_ _ _ ⟨hs, hinv⟩ h
  rintro s step ⟨hs, hinv⟩ henabled hcond
  have hwithin : JournalInv (s.after step) ∧ Within (step.context s) (s.after step) := by
    have hstart : JournalInv s ∧ Within (step.context s) s :=
      ⟨hs, henter (step.context s) hs hinv henabled hcond⟩
    refine @invariant_of_reaches _ _ (fun s₁ => JournalInv s₁ ∧ Within (step.context s) s₁) _ _ ?_
      (step.reaches hs henabled) hstart
    rintro s₁ s₂ ⟨part, hpart, heffect⟩ ⟨hs₁, hwithin⟩
    exact ⟨heffect.journalInv hs₁, hkeep _ _ _ part hcond hpart heffect hs₁ hwithin⟩
  exact ⟨hwithin.1, hleave _ _ hwithin.1 hwithin.2⟩

/-- …and so along every run from the empty store. -/
theorem run_effects {cond : Env → Call → WorkflowStore → Bool} {Inv : WorkflowStore → Prop}
    (Within : Context → WorkflowStore → Prop)
    (henter : ∀ x : Context, JournalInv x.start → Inv x.start → x.call.enabled x.start = true →
      cond x.env x.call x.start = true → Within x x.start)
    (hkeep : ∀ (x : Context) s s' part, cond x.env x.call x.start = true →
      x.call.writes part = true → Effect x s part s' → JournalInv s → Within x s → Within x s')
    (hleave : ∀ x s, JournalInv s → Within x s → Inv s)
    {steps : List Step} (hempty : Inv {}) (h : Along cond {} steps = true) :
    JournalInv (run steps) ∧ Inv (run steps) :=
  runFrom_effects Within henter hkeep hleave journalInv_empty hempty h

/-- What every transaction keeps is kept by a call, wherever it dies. -/
theorem Step.keeps {P : WorkflowStore → Prop} {step : Step}
    (hP : ∀ (x : Context) s s' part, Effect x s part s' → P s → P s') (hs : JournalInv s)
    (henabled : step.call.enabled s = true) (h : P s) : P (s.after step) :=
  invariant_of_reaches (fun _ _ heffects => hP _ _ _ _ heffects.choose_spec.2)
    (step.reaches hs henabled) h

/-- …and by a run. -/
theorem runFrom_keeps {P : WorkflowStore → Prop} {steps : List Step}
    (hP : ∀ (x : Context) s s' part, Effect x s part s' → P s → P s') (hs : JournalInv s)
    (hsteps : Along anyCall s steps = true) (h : P s) : P (runFrom s steps) :=
  (runFrom_effects (fun _ s => P s) (fun _ _ hp _ _ => hp)
    (fun x s s' part _ _ heffect _ hp => hP x s s' part heffect hp) (fun _ _ _ hp => hp) hs h
    hsteps).2

/-! ## Operations that consist of calls -/

/-- A run of calls of some kind, all in one environment, that leads from one store to another. -/
def Calls (env : Env) (P : Call → Prop) (s s' : WorkflowStore) : Prop :=
  ∃ steps : List Step, (∀ x ∈ steps, x.env = env ∧ P x.call) ∧ Along anyCall s steps = true ∧
    s' = runFrom s steps

namespace Calls

variable {env : Env} {P : Call → Prop} {α β : Type}

theorem refl (s : WorkflowStore) : Calls env P s s := ⟨[], fun _ hx => (nomatch hx), rfl, rfl⟩

theorem trans {s₁ s₂ s₃ : WorkflowStore} (h : Calls env P s₁ s₂) (h' : Calls env P s₂ s₃) :
    Calls env P s₁ s₃ := by
  obtain ⟨xs, hxs, hxsAlong, rfl⟩ := h
  obtain ⟨ys, hys, hysAlong, rfl⟩ := h'
  refine ⟨xs ++ ys, fun x hx => ?_, along_append.mpr ⟨hxsAlong, hysAlong⟩,
    (runFrom_append _ _ _).symm⟩
  exact (List.mem_append.mp hx).elim (hxs x) (hys x)

/-- One call, cut anywhere. -/
theorem of_call (call : Call) (hP : P call) (henabled : call.enabled s = true) (n : Nat) :
    Calls env P s (exec (programOf env call) n s).2 := by
  refine ⟨[⟨env, call, n⟩], fun x hx => ?_, ?_, rfl⟩
  · rw [List.mem_singleton.mp hx]
    exact ⟨rfl, hP⟩
  · simp [along_cons, henabled, anyCall]

/-- One call whose result is used. -/
theorem of_operation (call : Call) {p : Kernel α} (hcall : programOf env call = discard p)
    (hP : P call) (henabled : call.enabled s = true) (n : Nat) :
    Calls env P s (exec p n s).2 := by
  have hdiscard : (exec (discard p) n s).2 = (exec p n s).2 := by
    rcases exec_bind p (fun _ => pure ()) n s with h | ⟨a, m, _, h⟩
    · exact h
    · exact congrArg Prod.snd h
  rw [← hdiscard, ← hcall]
  exact of_call call hP henabled n

/-- A composition, when its parts are calls. -/
theorem of_bind {p : Kernel α} {k : α → Kernel β} {n : Nat}
    (hp : Calls env P s (exec p n s).2)
    (hk : ∀ b m, (exec p n s).1 = .done b →
      Calls env P (exec p n s).2 (exec (k b) m (exec p n s).2).2) :
    Calls env P s (exec (p >>= k) n s).2 := by
  rcases exec_bind p k n s with h | ⟨b, m, hdone, h⟩
  · exact h ▸ hp
  · rw [h]
    exact hp.trans (hk b m hdone)

end Calls

/-- **`run_case`** is an activation and a recovery. -/
theorem runCase_run (env : Env) (t : String) (k : CaseId) (r : CaseRevisionId)
    (policy : Option SlaPolicy) (n : Nat) (s : WorkflowStore) :
    Calls env (fun call => call = .activateCase t k r policy ∨ ∃ w, call = .recoverWorkflow t w) s
      (exec (runCase env t k r policy) n s).2 := by
  refine Calls.of_bind ?_ fun b m _ => ?_
  · exact Calls.of_operation (.activateCase t k r policy) rfl (Or.inl rfl) rfl n
  · exact Calls.of_operation (.recoverWorkflow t b.1) rfl (Or.inr ⟨b.1, rfl⟩) rfl m

/-- **`submit_command`** is its three parts. -/
theorem submitCommand_run (env : Env) (c : CommandSubmission) (n : Nat) (hs : JournalInv s) :
    Calls env (fun call => call = .observeForCommand c ∨
        (∃ a observed, call = .persistCommand a observed c env.now) ∨
        ∃ a command, call = .applyCommand a command)
      s (exec (submitCommand env c) n s).2 := by
  have hobserve := exec_safe (safe_observeForCommand (x := ⟨env, .observeForCommand c, s⟩) hs rfl rfl)
    n
  refine Calls.of_bind ?_ fun b m hdone => ?_
  · exact Calls.of_operation (.observeForCommand c) rfl (Or.inl rfl) rfl n
  obtain ⟨a, observed⟩ := b
  have henabled := hobserve.2.1 _ hdone env.now
  have hpersist := exec_safe (safe_persistCommand
    (x := ⟨env, .persistCommand a observed c env.now, (exec (observeForCommand env c) n s).2⟩)
    rfl rfl henabled) m
  refine Calls.of_bind ?_ fun b m' hdone' => ?_
  · exact Calls.of_call (.persistCommand a observed c env.now)
      (Or.inr (Or.inl ⟨a, observed, rfl⟩)) henabled m
  obtain ⟨command, hid, htype, hversion, henabled'⟩ := hpersist.2.1 _ hdone'
  rw [← hid, ← htype, ← hversion]
  exact Calls.of_operation (.applyCommand a command) rfl (Or.inr (Or.inr ⟨a, command, rfl⟩))
    henabled' m'

/-- **`recover_all`** is a sequence of activations and recoveries. -/
theorem recoverAll_run (env : Env) (n : Nat) (s : WorkflowStore) :
    Calls env (fun call => (∃ t k r policy, call = .activateCase t k r policy) ∨
      ∃ t w, call = .recoverWorkflow t w) s (exec (recoverAll env) n s).2 := by
  have hcase : ∀ t k r policy n s, Calls env (fun call =>
      (∃ t k r policy, call = .activateCase t k r policy) ∨ ∃ t w, call = .recoverWorkflow t w) s
      (exec (runCase env t k r policy) n s).2 := by
    intro t k r policy n s
    obtain ⟨steps, hsteps, hrest⟩ := runCase_run env t k r policy n s
    refine ⟨steps, fun x hx => ⟨(hsteps x hx).1, ?_⟩, hrest⟩
    rcases (hsteps x hx).2 with h | ⟨w, h⟩
    · exact Or.inl ⟨t, k, r, policy, h⟩
    · exact Or.inr ⟨t, w, h⟩
  have hactivate : ∀ rs n s, Calls env (fun call =>
      (∃ t k r policy, call = .activateCase t k r policy) ∨ ∃ t w, call = .recoverWorkflow t w) s
      (exec (activatePendingCases env rs) n s).2 := by
    intro rs
    induction rs with
    | nil => exact fun n s => .refl s
    | cons r rs ih => exact fun n s => .of_bind (hcase _ _ _ _ n s) fun _ m _ => ih m _
  have heach : ∀ as n s, Calls env (fun call =>
      (∃ t k r policy, call = .activateCase t k r policy) ∨ ∃ t w, call = .recoverWorkflow t w) s
      (exec (recoverEach env as) n s).2 := by
    intro as
    induction as with
    | nil => exact fun n s => .refl s
    | cons a as ih =>
        intro n s
        refine .of_bind ?_ fun _ m _ => ih m _
        exact .of_operation (.recoverWorkflow a.tenantId a.workflowId) rfl (Or.inr ⟨_, _, rfl⟩) rfl n
  have hquery : ∀ {β : Type} (query : WorkflowStore → β) n s, Calls env (fun call =>
      (∃ t k r policy, call = .activateCase t k r policy) ∨ ∃ t w, call = .recoverWorkflow t w) s
      (exec (Prog.observe query : Kernel β) n s).2 := by
    intro β query n s
    cases n <;> exact .refl s
  refine .of_bind (hquery _ n s) fun _ m _ => .of_bind (hactivate _ m _) fun _ m' _ => ?_
  exact .of_bind (hquery _ m' _) fun _ m'' _ => heach _ m'' _

end WeFlow
