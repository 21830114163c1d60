import WeFlow.Kernel.Safety.Program

/-!
# `Grants` — one grant for a whole tenant

A grant's identity is derived from the tenant, the controller's subject and its role, and the fixture has
one controller; but each workflow looks for a grant of its own and inserts one. So the first workflow of
a tenant that gets a grant leaves none for any other: their insertion meets the primary key
`(tenant_id, grant_id)`.

## Contents

* `GrantsInv` — all grants of a tenant have one identity.
* `GrantsInv.one_workflow` — so one workflow has them.
* `activatePolicyApproval_once` — no second workflow of a tenant is ever activated.
-/

namespace WeFlow

open Prog

variable {x : Context} {s s' : WorkflowStore} {part : Part}

/-- The grant identity of a tenant's only controller. -/
def fixtureGrantId (tenantId : String) : GrantId :=
  stableIdentifier ⟨tenantId, "fixture-controller-alpha", fixtureControllerRole⟩

/-- **The invariant of the grants**: activations name the one controller, so the grants of a tenant have
    one identity; and no two stored grants clash. -/
structure GrantsInv (s : WorkflowStore) : Prop where
  controller : ∀ p ∈ s.policy.activations, p.controllerSubjectId = "fixture-controller-alpha" ∧
    p.controllerRole = fixtureControllerRole
  identity : ∀ row ∈ s.policy.grants, row.grant.body.grantId = fixtureGrantId row.tenantId
  distinct : Table.Distinct GrantRow.clash s.policy.grants

theorem grantsInv_empty : GrantsInv {} where
  controller := fun p hp => by simp at hp
  identity := fun row hrow => by simp at hrow
  distinct := Table.distinct_nil _

theorem PolicyStep.grantsInv {policy : PolicyTables} (h : PolicyStep x s policy) (hs : GrantsInv s) :
    GrantsInv { s with policy } := by
  cases h with
  | @activation a c candidate =>
      refine ⟨fun p hp => ?_, hs.identity, hs.distinct⟩
      rcases List.mem_append.mp hp with hp | hp
      · exact hs.controller p hp
      · rw [List.mem_singleton.mp hp]
        exact ⟨rfl, rfl⟩
  | @grant a p row _ _ activation built _ _ fresh =>
      refine ⟨hs.controller, fun g hg => ?_, hs.distinct.append_one fresh⟩
      rcases List.mem_append.mp hg with hg | hg
      · exact hs.identity g hg
      · -- the new grant is issued to the controller that the activation names
        obtain ⟨hsubject, hrole⟩ := hs.controller p (List.mem_of_find?_eq_some activation)
        rw [List.mem_singleton.mp hg, built, hsubject, hrole]
        rfl
  | decision => exact ⟨hs.controller, hs.identity, hs.distinct⟩
  | binding => exact ⟨hs.controller, hs.identity, hs.distinct⟩
  | request => exact ⟨hs.controller, hs.identity, hs.distinct⟩
  | approval => exact ⟨hs.controller, hs.identity, hs.distinct⟩
  | revoke => exact ⟨hs.controller, hs.identity, hs.distinct⟩

/-- **Every transaction keeps the invariant of the grants.** -/
theorem Effect.grantsInv (h : Effect x s part s') (hs : GrantsInv s) : GrantsInv s' := by
  by_cases hpart : part = .policy
  · cases h with
    | policy step => exact step.grantsInv hs
    | prepare step => exact absurd hpart step.not_part.1
    | _ => exact absurd hpart nofun
  · have hpolicy := h.policy_eq hpart
    exact ⟨hpolicy ▸ hs.controller, hpolicy ▸ hs.identity, hpolicy ▸ hs.distinct⟩

/-- **All grants of a tenant belong to one workflow.** -/
theorem GrantsInv.one_workflow (hs : GrantsInv s) {t : String} {w w' : WorkflowId}
    (h : Granted s t w) (h' : Granted s t w') : w = w' := by
  obtain ⟨row, hrow, ht, hw⟩ := h
  obtain ⟨row', hrow', ht', hw'⟩ := h'
  have hclash : GrantRow.clash row row' = true := by
    refine decide_eq_true ⟨ht.trans ht'.symm, Or.inl ?_⟩
    rw [hs.identity row hrow, hs.identity row' hrow', ht, ht']
  have hsymm : ∀ a b : GrantRow, GrantRow.clash a b = GrantRow.clash b a := by
    intro a b
    simp only [GrantRow.clash, @eq_comm _ a.tenantId, @eq_comm _ a.grant.body.grantId,
      @eq_comm _ a.grant.hash]
  rw [← hw, ← hw', hs.distinct.eq_of_clash hsymm hrow hrow' hclash]

/-! ## Runs -/

theorem run_grantsInv {steps : List Step} (h : Along anyCall {} steps = true) :
    JournalInv (run steps) ∧ GrantsInv (run steps) :=
  run_effects (fun _ s => GrantsInv s) (fun _ _ hinv _ _ => hinv)
    (fun _ _ _ _ _ _ heffect _ hinv => heffect.grantsInv hinv) (fun _ _ _ hinv => hinv)
    grantsInv_empty h

/-- A workflow that has its grant. -/
def Holds (s : WorkflowStore) (a : WorkflowActivation) : Prop :=
  a ∈ s.journal.activations ∧ Granted s a.tenantId a.workflowId

theorem Effect.holds {a : WorkflowActivation} (h : Effect x s part s') (ha : Holds s a) :
    Holds s' a :=
  ⟨h.grows.activations.subset ha.1, ha.2.mono h.grants_grow⟩

/-- An activation that returns has found or issued a grant. -/
theorem holds_of_done {t : String} {k : CaseId} {step : Step} (hs : JournalInv s)
    (hcall : step.call = .activatePolicyApproval t k) (hdone : (step.exec s).1 = .done ()) :
    ∃ a, a.tenantId = t ∧ a.caseId = k ∧ Holds (s.after step) a := by
  obtain ⟨env, call, cut⟩ := step
  simp only at hcall
  subst hcall
  have hsafe := safe_activatePolicyApproval (x := ⟨env, .activatePolicyApproval t k, s⟩) hs rfl rfl
  have hdiscard : KSafe ⟨env, .activatePolicyApproval t k, s⟩
      (Call.activatePolicyApproval t k).writes anyError
      (fun _ s' => ∃ a ∈ s.journal.activations, a.tenantId = t ∧ a.caseId = k ∧
        Granted s' a.tenantId a.workflowId) (programOf env (.activatePolicyApproval t k)) s :=
    safe_discard hsafe
  obtain ⟨a, ha, ht, hk, hgranted⟩ := (exec_safe hdiscard cut).2.1 () hdone
  refine ⟨a, ht, hk, ?_, hgranted⟩
  exact Step.keeps (P := fun s => a ∈ s.journal.activations)
    (fun _ _ _ _ heffect hmem => heffect.grows.activations.subset hmem) hs rfl ha

/-- **A tenant's second workflow is never activated.** Once `activate_policy_approval` has returned for
    one case of a tenant, it returns for no other case of it, at any time and whatever happens between. -/
theorem activatePolicyApproval_once {before after : List Step} {first second : Step} {t : String}
    {k k' : CaseId} (h : Along anyCall {} (before ++ first :: after) = true)
    (hfirst : first.call = .activatePolicyApproval t k)
    (hdone : (first.exec (run before)).1 = .done ())
    (hsecond : second.call = .activatePolicyApproval t k') (hne : k' ≠ k) :
    (second.exec (run (before ++ first :: after))).1 ≠ .done () := by
  intro hagain
  obtain ⟨hbefore, hrest⟩ := along_append.mp h
  obtain ⟨henabled, _, hafter⟩ := along_cons.mp hrest
  have henabled' : second.call.enabled (run (before ++ first :: after)) = true := by
    rw [hsecond]
    rfl
  obtain ⟨hs, _⟩ := run_grantsInv hbefore
  obtain ⟨hs', hinv'⟩ := run_grantsInv h
  -- the first workflow still holds its grant when the second call has returned
  obtain ⟨a, ht, hk, hholds⟩ := holds_of_done hs hfirst hdone
  have hkept : Holds (run (before ++ first :: after)) a := by
    rw [run_append, runFrom_cons]
    exact runFrom_keeps (fun _ _ _ _ heffect ha => heffect.holds ha) (Step.journalInv hs henabled)
      hafter hholds
  have hlast : Holds ((run (before ++ first :: after)).after second) a :=
    Step.keeps (fun _ _ _ _ heffect ha => heffect.holds ha) hs' henabled' hkept
  have hgrants : GrantsInv ((run (before ++ first :: after)).after second) :=
    Step.keeps (fun _ _ _ _ heffect hinv => heffect.grantsInv hinv) hs' henabled' hinv'
  obtain ⟨b, ht', hk', hholds'⟩ := holds_of_done hs' hsecond hagain
  have hworkflow : b.workflowId = a.workflowId := by
    refine hgrants.one_workflow hholds'.2 ?_
    rw [ht', ← ht]
    exact hlast.2
  -- a workflow has one activation, and an activation one case
  have hsame : b = a := (Step.journalInv hs' henabled').activation_unique hholds'.1 hlast.1
    (ht'.trans ht.symm) hworkflow
  rw [hsame, hk] at hk'
  exact hne hk'.symm

theorem activatePolicyApproval_once_example :
    ((api503Activate "f").exec (run (api503Response "e" ++ api503Activate "e" :: api503Response "f"))).1
      ≠ .done () := by
  refine @activatePolicyApproval_once _ _ _ _ api503Tenant (api503CaseOf "e") (api503CaseOf "f")
    ?_ rfl ?_ rfl ?_
  · decide +kernel
  · decide +kernel
  · decide +kernel

/-- Alone in its store the same workflow is activated; behind another one it is refused, and so is every
    recovery of it afterwards. -/
theorem activatePolicyApproval_refused_example :
    (run (api503Response "f")).latestState api503Tenant (api503WorkflowOf "f") =
      some .responseReady ∧
    ((api503Activate "f").exec (run (api503Response "f"))).1 = .done () ∧
    (runFrom api503Awaiting (api503Response "f")).latestState api503Tenant (api503WorkflowOf "f") =
      some .responseReady ∧
    ((api503Activate "f").exec (runFrom api503Awaiting (api503Response "f"))).1 =
      .raised .capabilityGrantPersistFailed ∧
    ((uninterrupted (calm 0) (.recoverWorkflow api503Tenant (api503WorkflowOf "f"))).exec
      ((runFrom api503Awaiting (api503Response "f")).after (api503Activate "f"))).1 =
      .raised .capabilityGrantPersistFailed := by
  decide +kernel

end WeFlow
