import WeFlow.Handler.Step

/-!
# `Binding` — active handler bindings

`confirm_handler_binding` looks for an active binding of the same application, tenant and group by comparing
rendered timestamps in SQL; `active_binding` compares instants. A whole second is rendered without a fraction,
and so comes after every other instant of its second. The services that share a journal are set up with
configurations of their own.

## Contents

* `SharedHandlerSys` — calls of services with any configurations over one journal; `SharedHandlerSys.invariant`.
* `HandlerGuard.expiryRendered` — the comparison of texts agrees with that of instants.
* `active_binding_unique` — at most one binding of a scope is active, and it is found.
-/

namespace WeFlow

open Txn Prog SQLiteQQHandlerJournal

/-! ## Services over one journal -/

/-- A call, with the configuration of the service it is made through. -/
abbrev SharedHandlerOp := QQHandlerConfig × HandlerOp

namespace SharedHandlerSys

variable (setup : HandlerSetup)

def prog (op : SharedHandlerOp) : HandlerProg HandlerReply :=
  HandlerOp.prog { setup with config := op.1 } op.2

/-- A run of the services from an empty journal. -/
def run (actions : List (Action SharedHandlerOp HandlerDisturbance)) : HandlerSys :=
  Sys.run (prog setup) handlerDisturbance ⟨.empty, []⟩ actions

/-- The runs that a guard allows. -/
abbrev Along (g : HandlerGuard) (actions : List (Action SharedHandlerOp HandlerDisturbance)) : Prop :=
  Sys.Along g (prog setup) handlerDisturbance ⟨.empty, []⟩ actions

variable {setup} {g : HandlerGuard} {actions : List (Action SharedHandlerOp HandlerDisturbance)}

/-- A step of a call through some service. -/
def AnyStep (setup : HandlerSetup) (V : HandlerView) (s s' : HandlerWorld) : Prop :=
  ∃ config, HandlerStep { setup with config } V s s'

theorem quiet_prog {V : HandlerView} (hV : V.Sighted) (hop : ∀ op, V.op op) (op : SharedHandlerOp) :
    Quiet V.txn (AnyStep setup V) (fun _ => True) (prog setup op) := by
  have hsteps : Quiet V.txn (HandlerStep { setup with config := op.1 } V) (fun _ => True) (prog setup op) :=
    HandlerOp.prog_steps hV (hop op.2)
  exact hsteps.mono (fun _ _ hA => hA) fun s s' hstep => ⟨op.1, hstep⟩

theorem grows (actions more : List (Action SharedHandlerOp HandlerDisturbance)) :
    (run setup actions).store.Grows (run setup (actions ++ more)).store := by
  let V : HandlerView := HandlerGuard.viewOf .free fun _ => True
  have hstart : ∀ op, Quiet V.txn (AnyStep setup V) (fun _ => True) (prog setup op) :=
    quiet_prog (HandlerGuard.viewOf_sighted .free _) fun _ => trivial
  have hrefl : ∀ s, AnyStep setup V s s := fun _ => ⟨setup.config, .same⟩
  induction more using List.reverseRecOn with
  | nil =>
      rw [List.append_nil]
      exact .refl _
  | append_singleton more a ih =>
      have hquiet : (run setup (actions ++ more)).QuietFrom (Guard.free.txn) (AnyStep setup V)
          (fun _ => True) 0 :=
        Sys.QuietFrom.run (fun op _ => hstart op) (fun i p _ hp => by simp at hp) hrefl (Sys.along_free _)
      have hallow : (run setup (actions ++ more)).Allows Guard.free a :=
        (Sys.along_concat.mp (Sys.along_free (actions ++ more ++ [a]))).2
      rw [← List.append_assoc]
      unfold run at ih hquiet hallow ⊢
      rw [Sys.run_concat]
      refine ih.trans ?_
      rcases hquiet.step_cases hrefl hallow with ⟨config, hstep⟩ | ⟨e, -, heq⟩
      · exact hstep.grows
      · rw [heq]
        exact handlerDisturbance_grows _ e

/-- **An invariant of every run** of the services that a guard allows. -/
theorem invariant {I : HandlerWorld → Prop} (hempty : I .empty)
    (hstep : ∀ s s' config, I s → HandlerStep { setup with config } (s'.view g fun _ => True) s s' → I s')
    (hdisturb : ∀ e s, I s → I (handlerDisturbance e s)) (h : Along setup g actions) :
    I (run setup actions).store := by
  induction actions using List.reverseRecOn with
  | nil => exact hempty
  | append_singleton actions a ih =>
      have hinit := ih (Sys.along_concat.mp h).1
      let s' := (run setup (actions ++ [a])).store
      have hgrown : ∀ before after, actions ++ [a] = before ++ after → (run setup before).store.Grows s' := by
        intro before after heq
        show (run setup before).store.Grows (run setup (actions ++ [a])).store
        rw [heq]
        exact grows before after
      obtain ⟨hbefore, hlast⟩ := Sys.along_concat.mp (Sys.along_within (J := (HandlerWorld.Grows · s')) h hgrown)
      have hrefl : ∀ s, AnyStep setup (s'.view g fun _ => True) s s := fun _ => ⟨setup.config, .same⟩
      have hquiet : (run setup actions).QuietFrom (g.within (HandlerWorld.Grows · s')).txn
          (AnyStep setup (s'.view g fun _ => True)) (fun _ => True) 0 :=
        Sys.QuietFrom.run (fun op _ => quiet_prog (s'.view_sighted g _) (fun _ => trivial) op)
          (fun i p _ hp => by simp at hp) hrefl hbefore
      have hafter : (Sys.step (prog setup) handlerDisturbance (run setup actions) a).store = s' :=
        congrArg Sys.store (Sys.run_concat (prog setup) handlerDisturbance _ actions a).symm
      have hcases : AnyStep setup (s'.view g fun _ => True) (run setup actions).store
          (Sys.step (prog setup) handlerDisturbance (run setup actions) a).store ∨ ∃ e, _ ∧
          (Sys.step (prog setup) handlerDisturbance (run setup actions) a).store =
            handlerDisturbance e (run setup actions).store := hquiet.step_cases hrefl hlast
      show I s'
      rw [hafter] at hcases
      rcases hcases with ⟨config, hnext⟩ | ⟨e, -, heq⟩
      · exact hstep _ _ config hinit hnext
      · rw [heq]
        exact hdisturb e _ hinit

end SharedHandlerSys

/-! ## Active bindings -/

namespace QQHandlerBinding

/-- The same application, tenant and group. -/
def SameScope (b b' : QQHandlerBinding) : Prop :=
  b.appIdHash = b'.appIdHash ∧ b.tenantIdHash = b'.tenantIdHash ∧ b.groupOpenidHash = b'.groupOpenidHash

instance (b b' : QQHandlerBinding) : Decidable (b.SameScope b') := inferInstanceAs (Decidable (_ ∧ _ ∧ _))

/-- Neither revoked nor expired. -/
def ActiveIn (b : QQHandlerBinding) (s : HandlerWorld) : Prop :=
  s.revoked b.handlerBindingId = false ∧ s.now < b.expiresAt

instance (b : QQHandlerBinding) (s : HandlerWorld) : Decidable (b.ActiveIn s) :=
  inferInstanceAs (Decidable (_ ∧ _))

end QQHandlerBinding

/-- A pairing is confirmed only when every binding of the scope that is neither revoked nor expired is rendered
    with a later text than the clock. -/
def HandlerGuard.expiryRendered : HandlerGuard where
  txn t s := ∀ (text : HandlerText) (config : QQHandlerConfig) (pairing : ConfirmedPairing) (now : Instant),
    t = ⟨insertBinding text config pairing now⟩ → ∀ b ∈ s.bindings,
      b.SameScope (confirmedBinding text config pairing now) → s.revoked b.handlerBindingId = false →
      now < b.expiresAt → renderedBefore now b.expiresAt = true
  disturb _ _ := True

/-- **At most one binding of a scope is active.** -/
structure BindingInv (s : HandlerWorld) : Prop where
  distinct : Table.Distinct QQHandlerBinding.clash s.bindings
  unique : ∀ b ∈ s.bindings, ∀ b' ∈ s.bindings, b.SameScope b' → b.ActiveIn s → b'.ActiveIn s → b = b'

theorem bindingInv_empty : BindingInv .empty :=
  ⟨.nil, fun _ hb => absurd hb List.not_mem_nil⟩

variable {setup : HandlerSetup} {s s' : HandlerWorld}

theorem HandlerWorld.revoked_of_grows (h : s.Grows s') {id : HandlerBindingId} (hid : s'.revoked id = false) :
    s.revoked id = false := by
  refine List.any_eq_false.mpr fun e he => ?_
  exact List.any_eq_false.mp hid e (h.events e he)

theorem QQHandlerBinding.ActiveIn.before {b : QQHandlerBinding} (h : b.ActiveIn s') (hgrows : s.Grows s') :
    b.ActiveIn s :=
  ⟨HandlerWorld.revoked_of_grows hgrows h.1, hgrows.clock.trans_lt h.2⟩

/-- What leaves the bindings as they are keeps the invariant. -/
theorem BindingInv.of_grows (hinv : BindingInv s) (hgrows : s.Grows s') (hsame : s'.bindings = s.bindings) :
    BindingInv s' := by
  refine ⟨hsame ▸ hinv.distinct, fun b hb b' hb' hscope hactive hactive' => ?_⟩
  rw [hsame] at hb hb'
  exact hinv.unique b hb b' hb' hscope (hactive.before hgrows) (hactive'.before hgrows)

theorem HandlerStep.bindingInv
    (h : HandlerStep setup (s'.view .expiryRendered fun _ => True) s s') (hinv : BindingInv s) :
    BindingInv s' := by
  have hgrows := h.grows
  generalize hV : s'.view .expiryRendered (fun _ => True) = V at h
  cases h with
  | @bound b locators hb hfresh hconfirmed =>
      obtain ⟨pairing, now, hclock, hA, hother⟩ := hconfirmed
      rw [← hV] at hclock hA
      have hscope : b.SameScope (confirmedBinding setup.text setup.config pairing now) := by
        obtain ⟨pairing', now', rfl⟩ := hb
        exact ⟨rfl, rfl, rfl⟩
      -- the others of the scope had expired when the clock was read
      have hexpired : ∀ x ∈ s.bindings, x.SameScope b → ¬ x.ActiveIn s := by
        rintro x hx ⟨happ, htenant, hgroup⟩ ⟨hrevoked, hnow⟩
        have hsame : x.SameScope (confirmedBinding setup.text setup.config pairing now) :=
          ⟨happ.trans hscope.1, htenant.trans hscope.2.1, hgroup.trans hscope.2.2⟩
        have hrendered := hA.2 _ _ _ _ rfl x hx hsame hrevoked (lt_of_le_of_lt hclock hnow)
        rw [hother x hx happ htenant hgroup hrevoked] at hrendered
        cases hrendered
      refine ⟨hinv.distinct.append_one hfresh, fun x hx y hy hxy hactive hactive' => ?_⟩
      have hxs : x.ActiveIn s := hactive.before hgrows
      have hys : y.ActiveIn s := hactive'.before hgrows
      rcases List.mem_append.mp hx with hx | hx <;> rcases List.mem_append.mp hy with hy | hy
      · exact hinv.unique x hx y hy hxy hxs hys
      · rw [List.mem_singleton.mp hy] at hxy
        exact absurd hxs (hexpired x hx hxy)
      · rw [List.mem_singleton.mp hx] at hxy
        exact absurd hys (hexpired y hy ⟨hxy.1.symm, hxy.2.1.symm, hxy.2.2.symm⟩)
      · rw [List.mem_singleton.mp hx, List.mem_singleton.mp hy]
  | _ => exact hinv.of_grows hgrows rfl

theorem SharedHandlerSys.bindingInv {actions : List (Action SharedHandlerOp HandlerDisturbance)}
    (h : SharedHandlerSys.Along setup .expiryRendered actions) :
    BindingInv (SharedHandlerSys.run setup actions).store := by
  refine SharedHandlerSys.invariant bindingInv_empty (fun s s' config hinv hstep => hstep.bindingInv hinv)
    (fun e s hinv => ?_) h
  refine hinv.of_grows (handlerDisturbance_grows s e) ?_
  cases e <;> rfl

theorem Table.Distinct.binding?_iff (h : Table.Distinct QQHandlerBinding.clash s.bindings)
    {id : HandlerBindingId} {b : QQHandlerBinding} :
    s.binding? id = some b ↔ b ∈ s.bindings ∧ b.handlerBindingId = id := by
  constructor
  · intro hfound
    have hkey := List.find?_some hfound
    exact ⟨List.mem_of_find?_eq_some hfound, of_decide_eq_true hkey⟩
  · rintro ⟨hb, rfl⟩
    refine h.find?_key (fun x y => ?_) (fun x y hxy => ?_) hb
    · simp [QQHandlerBinding.clash, eq_comm]
    · exact decide_eq_true (.inl hxy)

/-- **`active_binding` returns** the stored binding that is neither revoked nor expired. -/
theorem eval_activeBinding (h : Table.Distinct QQHandlerBinding.clash s.bindings) {id : HandlerBindingId}
    {b : QQHandlerBinding} :
    eval (activeBinding id) s = (.ok b, s) ↔ b ∈ s.bindings ∧ b.handlerBindingId = id ∧ b.ActiveIn s := by
  unfold activeBinding
  rw [eval_observe_bind, eval_observe_bind, eval_observe_bind, eval_need_bind_eq_ok]
  constructor
  · rintro ⟨b', hfound, hrest⟩
    obtain ⟨hactive, hreturn⟩ := eval_check_bind_eq_ok.mp hrest
    obtain rfl : b' = b := Except.ok.inj (Prod.mk.inj hreturn).1
    obtain ⟨hb, hid⟩ := h.binding?_iff.mp hfound
    rw [Bool.and_eq_true, Bool.not_eq_true', decide_eq_true_eq] at hactive
    exact ⟨hb, hid, hid ▸ hactive.1, hactive.2⟩
  · rintro ⟨hb, hid, hrevoked, hnow⟩
    refine ⟨b, h.binding?_iff.mpr ⟨hb, hid⟩, eval_check_bind_eq_ok.mpr ⟨?_, rfl⟩⟩
    rw [Bool.and_eq_true, Bool.not_eq_true', decide_eq_true_eq]
    exact ⟨hid ▸ hrevoked, hnow⟩

/-- **The active binding is unique.** In every run of services with any configurations over one journal, in
    which no pairing is confirmed while the text of an unexpired binding's expiry is not after the text of
    the clock, at most one binding of an application, tenant and group is neither revoked nor expired; and
    `active_binding` returns a binding exactly when it is stored and neither revoked nor expired. -/
theorem active_binding_unique (setup : HandlerSetup) (actions : List (Action SharedHandlerOp HandlerDisturbance))
    (h : SharedHandlerSys.Along setup .expiryRendered actions) :
    let s := (SharedHandlerSys.run setup actions).store
    (∀ b ∈ s.bindings, ∀ b' ∈ s.bindings, b.SameScope b' → b.ActiveIn s → b'.ActiveIn s → b = b') ∧
    ∀ id b, eval (activeBinding id) s = (.ok b, s) ↔
      b ∈ s.bindings ∧ b.handlerBindingId = id ∧ b.ActiveIn s := by
  have hinv := SharedHandlerSys.bindingInv h
  exact ⟨hinv.unique, fun id b => eval_activeBinding hinv.distinct⟩

/-! ## A pairing within the second of an expiry -/

/-- Call number `i` confirms a pairing of the session. -/
def confirmedBy (session : String) (i : Nat) : List (Action SharedHandlerOp HandlerDisturbance) :=
  [.start (plainSetup.config, .confirmBinding { onlyHandler with pairingSessionId := session }),
    .advance i, .advance i]

/-- A binding is confirmed at half a second, and another one at the whole second before the first expires. -/
def pairedTwice : List (Action SharedHandlerOp HandlerDisturbance) :=
  [.disturb (.elapse 500000)] ++ confirmedBy "one" 0 ++
    [.disturb (.elapse (handlerBindingTtl - 500000))] ++ confirmedBy "two" 1

/-- **Two bindings of one group are active.** -/
theorem two_active_bindings :
    let s := (SharedHandlerSys.run plainSetup pairedTwice).store
    ∃ b ∈ s.bindings, ∃ b' ∈ s.bindings, b.SameScope b' ∧ b.ActiveIn s ∧ b'.ActiveIn s ∧ b ≠ b' := by
  decide +kernel

/-- A binding is confirmed at a whole second, and another one when it has expired. -/
def pairedAgain : List (Action SharedHandlerOp HandlerDisturbance) :=
  confirmedBy "one" 0 ++ [.disturb (.elapse handlerBindingTtl)] ++ confirmedBy "two" 1

/-- Every expiry is a whole second. -/
def HandlerWorld.wholeSeconds (s : HandlerWorld) : Bool := s.bindings.all fun b => b.expiresAt % 1000000 = 0

theorem HandlerGuard.expiryRendered_of_wholeSeconds (s : HandlerWorld) (h : s.wholeSeconds = true) :
    (∀ t, HandlerGuard.expiryRendered.txn t s) ∧ ∀ e, HandlerGuard.expiryRendered.disturb e s := by
  refine ⟨fun t text config pairing now _ b hb _ _ hearlier => ?_, fun _ => trivial⟩
  have hwhole : b.expiresAt % 1000000 = 0 := of_decide_eq_true (List.all_eq_true.mp h b hb)
  exact renderedBefore_of_whole hwhole hearlier

theorem active_binding_unique_again :
    let s := (SharedHandlerSys.run plainSetup pairedAgain).store
    s.bindings.length = 2 ∧
      ∀ b ∈ s.bindings, ∀ b' ∈ s.bindings, b.SameScope b' → b.ActiveIn s → b'.ActiveIn s → b = b' :=
  ⟨by decide +kernel, (active_binding_unique plainSetup pairedAgain
    (Sys.along_of_startsIn HandlerGuard.expiryRendered_of_wholeSeconds (by decide +kernel))).1⟩

end WeFlow
