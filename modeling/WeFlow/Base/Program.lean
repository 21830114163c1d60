import Mathlib.Logic.Relation

/-!
# `Program` — programs over a transactional store

A program is a sequence of committed transactions with local computation in between: it returns, raises,
or performs one transaction on the store and continues with its result. A transaction that raises leaves
the store as it was and ends the program. The process may die after any transaction; then what has been
committed stays and nothing else is left of the program.

## Contents

* `Prog`, its monad, `atomically`, `observe`, `check` — programs.
* `exec p n s` — the run of `p` from `s` that dies in front of its transaction number `n`.
* `Safe R Q E p s` — every transaction of `p` from `s` is a step of `R`; if `p` returns, `Q` holds; if it
  raises, `E` does. `safe_bind` composes, `Safe.mono` weakens, `Safe.keeps` adds what every step keeps,
  `exec_safe` is soundness for every cut.
* `exec_succ`, `exec_bind` — neighbouring cuts, and cuts of a composition.
* `SubStore`, `inPart`, `Safe.inPart` — programs over a part of the store.
* `invariant_of_reaches` — invariants over whole runs.
-/

namespace WeFlow

/-- A program over stores `σ` that returns an `α` or raises an `ε`. -/
inductive Prog (σ ε α : Type) : Type 1 where
  | ret (a : α)
  | raise (e : ε)
  | step {β : Type} (txn : σ → Except ε (β × σ)) (next : β → Prog σ ε α)

namespace Prog

variable {σ ε α β : Type}

/-- Sequencing. -/
def bind : Prog σ ε α → (α → Prog σ ε β) → Prog σ ε β
  | ret a, k => k a
  | raise e, _ => raise e
  | step txn next, k => step txn fun b => (next b).bind k

instance : Monad (Prog σ ε) where
  pure := ret
  bind := bind

theorem bind_assoc {γ : Type} (p : Prog σ ε α) (f : α → Prog σ ε β) (g : β → Prog σ ε γ) :
    p >>= f >>= g = p >>= fun a => f a >>= g := by
  induction p with
  | ret a => rfl
  | raise e => rfl
  | step txn next ih => exact congrArg (step txn) (funext ih)

/-- One transaction. -/
def atomically (txn : σ → Except ε (β × σ)) : Prog σ ε β := step txn ret

/-- A query: one transaction that only reads. -/
def observe (query : σ → β) : Prog σ ε β := atomically fun s => .ok (query s, s)

/-- `if not c: raise e`, outside any transaction. -/
def check (c : Bool) (e : ε) : Prog σ ε Unit := if c then ret () else raise e

/-- `if row is None: raise e`, outside any transaction. -/
def need (row : Option β) (e : ε) : Prog σ ε β :=
  match row with
  | some b => ret b
  | none => raise e

/-! ## Execution -/

/-- How a run ends. -/
inductive Outcome (ε α : Type) where
  | done (a : α)
  | raised (e : ε)
  | crashed
  deriving DecidableEq, Repr

/-- The run of a program that dies in front of transaction number `n`, with the store it leaves. -/
def exec : Prog σ ε α → Nat → σ → Outcome ε α × σ
  | ret a, _, s => (.done a, s)
  | raise e, _, s => (.raised e, s)
  | step txn next, n, s =>
      match n with
      | 0 => (.crashed, s)
      | n + 1 =>
          match txn s with
          | .ok (b, s') => exec (next b) n s'
          | .error e => (.raised e, s)

/-- The run of a program that nothing interrupts. -/
def eval : Prog σ ε α → σ → Except ε α × σ
  | ret a, s => (.ok a, s)
  | raise e, s => (.error e, s)
  | step txn next, s =>
      match txn s with
      | .ok (b, s') => eval (next b) s'
      | .error e => (.error e, s)

theorem eval_bind (p : Prog σ ε α) (k : α → Prog σ ε β) (s : σ) :
    eval (p >>= k) s =
      match eval p s with
      | (.ok a, s') => eval (k a) s'
      | (.error e, s') => (.error e, s') := by
  induction p generalizing s with
  | ret a => rfl
  | raise e => rfl
  | step txn next ih =>
      show eval (step txn fun b => (next b).bind k) s = _
      simp only [eval]
      cases txn s with
      | error e => rfl
      | ok r => exact ih r.1 r.2

@[simp] theorem eval_ret (a : α) (s : σ) : eval (ret a : Prog σ ε α) s = (.ok a, s) := rfl

@[simp] theorem eval_pure (a : α) (s : σ) : eval (pure a : Prog σ ε α) s = (.ok a, s) := rfl

@[simp] theorem eval_raise (e : ε) (s : σ) : eval (raise e : Prog σ ε α) s = (.error e, s) := rfl

@[simp] theorem eval_observe (query : σ → α) (s : σ) :
    eval (observe query : Prog σ ε α) s = (.ok (query s), s) := rfl

@[simp] theorem eval_check (c : Bool) (e : ε) (s : σ) :
    eval (check c e : Prog σ ε Unit) s = (if c then .ok () else .error e, s) := by
  cases c <;> rfl

@[simp] theorem eval_need (row : Option α) (e : ε) (s : σ) :
    eval (need row e : Prog σ ε α) s = (row.elim (.error e) .ok, s) := by
  cases row <;> rfl

theorem eval_atomically (txn : σ → Except ε (α × σ)) (s : σ) :
    eval (atomically txn) s =
      match txn s with
      | .ok (a, s') => (.ok a, s')
      | .error e => (.error e, s) := by
  unfold atomically
  rw [eval]
  cases txn s <;> rfl

/-! ### Runs that return -/

theorem eval_bind_eq_ok {p : Prog σ ε α} {k : α → Prog σ ε β} {s s' : σ} {b : β} :
    eval (p >>= k) s = (.ok b, s') ↔ ∃ a s₁, eval p s = (.ok a, s₁) ∧ eval (k a) s₁ = (.ok b, s') := by
  rw [eval_bind]
  rcases h : eval p s with ⟨r, s₁⟩
  cases r with
  | error e => simp
  | ok a =>
      constructor
      · intro hk
        exact ⟨a, s₁, rfl, hk⟩
      · rintro ⟨a', s', heq, hk⟩
        obtain ⟨rfl, rfl⟩ := (Prod.mk.injEq .. ▸ heq).imp_left Except.ok.inj
        exact hk

theorem eval_observe_bind {query : σ → α} {k : α → Prog σ ε β} {s : σ} :
    eval (observe query >>= k) s = eval (k (query s)) s := by
  rw [eval_bind, eval_observe]

theorem eval_check_bind_eq_ok {c : Bool} {e : ε} {k : Unit → Prog σ ε β} {s s' : σ} {b : β} :
    eval (check c e >>= k) s = (.ok b, s') ↔ c = true ∧ eval (k ()) s = (.ok b, s') := by
  rw [eval_bind, eval_check]
  cases c <;> simp

theorem eval_need_bind_eq_ok {row : Option α} {e : ε} {k : α → Prog σ ε β} {s s' : σ} {b : β} :
    eval (need row e >>= k) s = (.ok b, s') ↔ ∃ a, row = some a ∧ eval (k a) s = (.ok b, s') := by
  rw [eval_bind, eval_need]
  cases row <;> simp

theorem eval_atomically_eq_ok {txn : σ → Except ε (α × σ)} {s s' : σ} {a : α} :
    eval (atomically txn) s = (.ok a, s') ↔ txn s = .ok (a, s') := by
  rw [eval_atomically]
  rcases txn s with e | ⟨b, t⟩ <;> simp

/-! ## Safety -/

/-- **Safety of a program from a store.** Each transaction either leaves the store as it was or is a step
    of `R`; a value is returned only with `Q`, an error raised only with `E`. -/
def Safe (R : σ → σ → Prop) (Q : α → σ → Prop) (E : ε → σ → Prop) : Prog σ ε α → σ → Prop
  | ret a, s => Q a s
  | raise e, s => E e s
  | step txn next, s =>
      (∀ e, txn s = .error e → E e s) ∧
      ∀ b s', txn s = .ok (b, s') → (s' = s ∨ R s s') ∧ Safe R Q E (next b) s'

variable {R R' : σ → σ → Prop} {Q Q' : α → σ → Prop} {E E' : ε → σ → Prop}

@[simp] theorem safe_ret {a : α} {s : σ} : Safe R Q E (ret a) s ↔ Q a s := Iff.rfl

@[simp] theorem safe_pure {a : α} {s : σ} : Safe R Q E (pure a) s ↔ Q a s := Iff.rfl

@[simp] theorem safe_raise {e : ε} {s : σ} : Safe R Q E (raise e : Prog σ ε α) s ↔ E e s := Iff.rfl

/-- **Sequencing.** A composition is safe when its first part is, with the rest's safety as result. -/
theorem safe_bind {p : Prog σ ε α} {k : α → Prog σ ε β} {Q : β → σ → Prop} {s : σ} :
    Safe R Q E (p >>= k) s ↔ Safe R (fun a s' => Safe R Q E (k a) s') E p s := by
  induction p generalizing s with
  | ret a => rfl
  | raise e => rfl
  | step txn next ih =>
      show Safe R Q E (step txn fun b => (next b).bind k) s ↔ _
      simp only [Safe]
      refine and_congr_right fun _ => forall_congr' fun b => forall_congr' fun s' => ?_
      exact imp_congr_right fun _ => and_congr_right fun _ => ih b

theorem Safe.mono {p : Prog σ ε α} {s : σ} (h : Safe R Q E p s) (hR : ∀ s s', R s s' → R' s s')
    (hQ : ∀ a s, Q a s → Q' a s) (hE : ∀ e s, E e s → E' e s) : Safe R' Q' E' p s := by
  induction p generalizing s with
  | ret a => exact hQ _ _ h
  | raise e => exact hE _ _ h
  | step txn next ih =>
      refine ⟨fun e he => hE _ _ (h.1 e he), fun b s' hb => ?_⟩
      obtain ⟨hstep, hrest⟩ := h.2 b s' hb
      exact ⟨hstep.imp id (hR _ _), ih b hrest⟩

theorem safe_atomically {txn : σ → Except ε (α × σ)} {s : σ} :
    Safe R Q E (atomically txn) s ↔ (∀ e, txn s = .error e → E e s) ∧
      ∀ a s', txn s = .ok (a, s') → (s' = s ∨ R s s') ∧ Q a s' := Iff.rfl

@[simp] theorem safe_observe {query : σ → α} {s : σ} :
    Safe R Q E (observe query) s ↔ Q (query s) s := by
  unfold observe
  rw [safe_atomically]
  constructor
  · intro h
    exact (h.2 (query s) s rfl).2
  · intro h
    refine ⟨fun e he => (nomatch he), fun a s' he => ?_⟩
    obtain ⟨rfl, rfl⟩ := Prod.mk.injEq .. ▸ Except.ok.inj he
    exact ⟨Or.inl rfl, h⟩

@[simp] theorem safe_check {c : Bool} {e : ε} {Q : Unit → σ → Prop} {s : σ} :
    Safe R Q E (check c e) s ↔ (c = true → Q () s) ∧ (c = false → E e s) := by
  cases c <;> simp [check]

@[simp] theorem safe_need {row : Option α} {e : ε} {s : σ} :
    Safe R Q E (need row e) s ↔ (∀ a, row = some a → Q a s) ∧ (row = none → E e s) := by
  cases row <;> simp [need]

/-- **What every step keeps** also holds at each return and at each error. -/
theorem Safe.keeps {I : σ → Prop} {p : Prog σ ε α} {s : σ} (h : Safe R Q E p s)
    (hstep : ∀ s s', R s s' → I s → I s') (hs : I s) :
    Safe R (fun a s' => Q a s' ∧ I s') (fun e s' => E e s' ∧ I s') p s := by
  induction p generalizing s with
  | ret a => exact ⟨h, hs⟩
  | raise e => exact ⟨h, hs⟩
  | step txn next ih =>
      refine ⟨fun e he => ⟨h.1 e he, hs⟩, fun b s' hb => ?_⟩
      obtain ⟨htxn, hrest⟩ := h.2 b s' hb
      refine ⟨htxn, ih b hrest ?_⟩
      rcases htxn with rfl | htxn
      · exact hs
      · exact hstep _ _ htxn hs

/-- Sequencing, in the direction proofs go. -/
theorem Safe.bind {p : Prog σ ε α} {k : α → Prog σ ε β} {Q : β → σ → Prop} {Q' : α → σ → Prop}
    {s : σ} (hp : Safe R Q' E p s) (hk : ∀ a s', Q' a s' → Safe R Q E (k a) s') :
    Safe R Q E (p >>= k) s :=
  safe_bind.mpr (hp.mono (fun _ _ => id) hk fun _ _ => id)

/-- **Soundness, for every cut.** Wherever a safe program dies, it has only taken steps of `R`. -/
theorem exec_safe {p : Prog σ ε α} {s : σ} (h : Safe R Q E p s) (n : Nat) :
    Relation.ReflTransGen R s (exec p n s).2 ∧
      (∀ a, (exec p n s).1 = .done a → Q a (exec p n s).2) ∧
      (∀ e, (exec p n s).1 = .raised e → E e (exec p n s).2) := by
  induction p generalizing s n with
  | ret a =>
      refine ⟨.refl, fun b hb => ?_, fun e he => ?_⟩
      · simp only [exec, Outcome.done.injEq] at hb
        exact hb ▸ h
      · simp [exec] at he
  | raise e =>
      refine ⟨.refl, fun b hb => ?_, fun e' he => ?_⟩
      · simp [exec] at hb
      · simp only [exec, Outcome.raised.injEq] at he
        exact he ▸ h
  | step txn next ih =>
      cases n with
      | zero => exact ⟨.refl, fun b hb => by simp [exec] at hb, fun e he => by simp [exec] at he⟩
      | succ n =>
          cases htxn : txn s with
          | error e =>
              simp only [exec, htxn]
              refine ⟨.refl, fun b hb => (nomatch hb), fun e' he => ?_⟩
              exact Outcome.raised.inj he ▸ h.1 e htxn
          | ok r =>
              obtain ⟨b, s'⟩ := r
              simp only [exec, htxn]
              obtain ⟨hstep, hrest⟩ := h.2 b s' htxn
              obtain ⟨hreach, hQ, hE⟩ := ih b hrest n
              refine ⟨?_, hQ, hE⟩
              rcases hstep with rfl | hstep
              · exact hreach
              · exact .head hstep hreach

/-- **A program that takes no step** of its own leaves the store as it is, wherever it dies. -/
theorem exec_readOnly {p : Prog σ ε α} {s : σ} (h : Safe (fun _ _ => False) Q E p s) (n : Nat) :
    (exec p n s).2 = s := by
  have hreach := (exec_safe h n).1
  rcases hreach.cases_head with heq | ⟨_, hstep, _⟩
  · exact heq.symm
  · exact hstep.elim

/-- **Soundness of an uninterrupted run.** -/
theorem eval_safe {p : Prog σ ε α} {s : σ} (h : Safe R Q E p s) :
    Relation.ReflTransGen R s (eval p s).2 ∧
      (∀ a, (eval p s).1 = .ok a → Q a (eval p s).2) ∧
      (∀ e, (eval p s).1 = .error e → E e (eval p s).2) := by
  induction p generalizing s with
  | ret a => exact ⟨.refl, fun b hb => Except.ok.inj hb ▸ h, fun e he => nomatch he⟩
  | raise e => exact ⟨.refl, fun b hb => (nomatch hb), fun e' he => Except.error.inj he ▸ h⟩
  | step txn next ih =>
      cases htxn : txn s with
      | error e =>
          simp only [eval, htxn]
          exact ⟨.refl, fun b hb => (nomatch hb), fun e' he => Except.error.inj he ▸ h.1 e htxn⟩
      | ok r =>
          simp only [eval, htxn]
          obtain ⟨hstep, hrest⟩ := h.2 r.1 r.2 htxn
          obtain ⟨hreach, hends⟩ := ih r.1 hrest
          rcases hstep with heq | hstep
          · exact ⟨heq ▸ hreach, hends⟩
          · exact ⟨.head hstep hreach, hends⟩

/-- **Neighbouring cuts** are one step of a safe program apart. -/
theorem exec_succ {p : Prog σ ε α} {s : σ} (h : Safe R Q E p s) (n : Nat) :
    (exec p (n + 1) s).2 = (exec p n s).2 ∨ R (exec p n s).2 (exec p (n + 1) s).2 := by
  induction p generalizing s n with
  | ret a => exact Or.inl rfl
  | raise e => exact Or.inl rfl
  | step txn next ih =>
      cases htxn : txn s with
      | error e => cases n <;> exact Or.inl (by simp [exec, htxn])
      | ok r =>
          obtain ⟨b, s'⟩ := r
          obtain ⟨hstep, hrest⟩ := h.2 b s' htxn
          cases n with
          | zero =>
              have hone : (exec (next b) 0 s').2 = s' := by cases next b <;> rfl
              simpa [exec, htxn, hone] using hstep
          | succ n => simpa [exec, htxn] using ih b hrest n

/-- **A cut composition** dies in its first part, or runs its rest to some cut. -/
theorem exec_bind (p : Prog σ ε α) (k : α → Prog σ ε β) (n : Nat) (s : σ) :
    (exec (p >>= k) n s).2 = (exec p n s).2 ∨
      ∃ a m, (exec p n s).1 = .done a ∧ exec (p >>= k) n s = exec (k a) m (exec p n s).2 := by
  induction p generalizing s n with
  | ret a => exact Or.inr ⟨a, n, rfl, rfl⟩
  | raise e => exact Or.inl rfl
  | step txn next ih =>
      cases n with
      | zero => exact Or.inl rfl
      | succ n =>
          show (exec (step txn fun b => (next b).bind k) (n + 1) s).2 = _ ∨ _
          cases htxn : txn s with
          | error e => exact Or.inl (by simp [exec, htxn])
          | ok r =>
              have hnext : (next r.1).bind k = next r.1 >>= k := rfl
              rcases ih r.1 n r.2 with h | ⟨a, m, hdone, h⟩
              · exact Or.inl (by simpa [exec, htxn, hnext] using h)
              · refine Or.inr ⟨a, m, by simpa [exec, htxn] using hdone, ?_⟩
                show exec (step txn fun b => (next b).bind k) (n + 1) s = _
                simpa [exec, htxn, hnext] using h

/-! ## Programs that only read -/

/-- No transaction of `p` changes the store. -/
def Reads (p : Prog σ ε α) : Prop :=
  ∀ s, Safe (fun _ _ => False) (fun _ s' => s' = s) (fun _ s' => s' = s) p s

theorem reads_pure (a : α) : Reads (pure a : Prog σ ε α) := fun _ => rfl

theorem reads_raise (e : ε) : Reads (raise e : Prog σ ε α) := fun _ => rfl

theorem reads_observe (query : σ → α) : Reads (observe query : Prog σ ε α) := fun _ => safe_observe.mpr rfl

theorem reads_check (c : Bool) (e : ε) : Reads (check c e : Prog σ ε Unit) :=
  fun _ => safe_check.mpr ⟨fun _ => rfl, fun _ => rfl⟩

theorem reads_need (row : Option α) (e : ε) : Reads (need row e : Prog σ ε α) :=
  fun _ => safe_need.mpr ⟨fun _ _ => rfl, fun _ => rfl⟩

theorem Reads.bind {p : Prog σ ε α} {k : α → Prog σ ε β} (hp : Reads p) (hk : ∀ a, Reads (k a)) :
    Reads (p >>= k) := by
  intro s
  refine (hp s).bind fun a s' hs' => ?_
  rw [hs']
  exact hk a s

/-- It returns, if at all, in the store it was started in. -/
theorem Reads.eval_eq {p : Prog σ ε α} (hp : Reads p) {s s' : σ} {r : Except ε α}
    (h : eval p s = (r, s')) : s' = s := by
  have hsafe := eval_safe (hp s)
  rw [h] at hsafe
  cases r with
  | ok a => exact hsafe.2.1 a rfl
  | error e => exact hsafe.2.2 e rfl

/-- What follows it is safe from the store it was started in. -/
theorem Reads.safe_bind {p : Prog σ ε α} {k : α → Prog σ ε β} {Q : β → σ → Prop} {s : σ} (hp : Reads p)
    (hE : ∀ e, E e s) (hk : ∀ a, (∃ s', eval p s = (.ok a, s')) → Safe R Q E (k a) s) :
    Safe R Q E (p >>= k) s := by
  have hreads := hp s
  clear hp
  have hstart : ∀ (q : Prog σ ε α) (t : σ), t = s →
      Safe (fun _ _ => False) (fun _ s' => s' = s) (fun _ s' => s' = s) q t →
      (∀ a, (∃ s', eval q t = (.ok a, s')) → Safe R Q E (k a) s) → Safe R Q E (q >>= k) t := by
    intro q
    induction q with
    | ret a =>
        intro t ht _ hk
        rw [ht]
        exact hk a ⟨t, rfl⟩
    | raise e =>
        intro t ht _ _
        rw [ht]
        exact hE e
    | step txn next ih =>
        intro t ht hq hk
        refine ⟨fun e _ => ?_, fun b s' htxn => ?_⟩
        · rw [ht]
          exact hE e
        · obtain ⟨hsame | hfalse, hrest⟩ := hq.2 b s' htxn
          · refine ⟨.inl hsame, ih b s' (hsame.trans ht) hrest fun a ha => hk a ?_⟩
            obtain ⟨s'', ha⟩ := ha
            exact ⟨s'', by rw [eval, htxn]; exact ha⟩
          · exact hfalse.elim
  exact hstart p s rfl hreads hk

/-- Nothing is said of a program that may do anything. -/
theorem safe_any (p : Prog σ ε α) (s : σ) :
    Safe (fun _ _ => True) (fun _ _ => True) (fun _ _ => True) p s := by
  induction p generalizing s with
  | ret a => trivial
  | raise e => trivial
  | step txn next ih => exact ⟨fun _ _ => trivial, fun b s' _ => ⟨Or.inr trivial, ih b s'⟩⟩

end Prog

/-! ## Programs over a part of the store -/

/-- A part of a store that can be read and replaced. -/
structure SubStore (τ σ : Type) where
  get : τ → σ
  set : σ → τ → τ
  get_set : ∀ s t, get (set s t) = s
  set_get : ∀ t, set (get t) t = t

namespace Prog

variable {σ τ ε ε' α : Type}

/-- A program over a part of the store, run on the whole of it. -/
def inPart (part : SubStore τ σ) (err : ε → ε') : Prog σ ε α → Prog τ ε' α
  | ret a => ret a
  | raise e => raise (err e)
  | step txn next =>
      step (fun t => match txn (part.get t) with
        | .ok (b, s') => .ok (b, part.set s' t)
        | .error e => .error (err e)) fun b => (next b).inPart part err

/-- **A program on a part** is as safe as it is there, and every step leaves the rest alone. -/
theorem Safe.inPart {part : SubStore τ σ} {err : ε → ε'} {R : σ → σ → Prop} {Q : α → σ → Prop}
    {E : ε → σ → Prop} {p : Prog σ ε α} {t : τ} (h : Safe R Q E p (part.get t)) :
    Safe (fun t t' => ∃ s', t' = part.set s' t ∧ R (part.get t) s') (fun a t' => Q a (part.get t'))
      (fun e' t' => ∃ e, e' = err e ∧ E e (part.get t')) (p.inPart part err) t := by
  induction p generalizing t with
  | ret a => exact h
  | raise e => exact ⟨e, rfl, h⟩
  | step txn next ih =>
      constructor
      · intro e' he
        show ∃ e, e' = err e ∧ E e (part.get t)
        dsimp only at he
        split at he
        · cases he
        next e htxn => exact ⟨e, (Except.error.inj he).symm, h.1 e htxn⟩
      · intro b t' hb
        dsimp only at hb
        split at hb
        next b' s' htxn =>
            cases hb
            obtain ⟨hstep, hrest⟩ := h.2 b s' htxn
            constructor
            · rcases hstep with rfl | hstep
              · exact Or.inl (part.set_get t)
              · exact Or.inr ⟨s', rfl, hstep⟩
            · exact ih b (by rw [part.get_set]; exact hrest)
        · cases hb

/-- A program on a part keeps what does not depend on the part. -/
theorem keeps_inPart {part : SubStore τ σ} {err : ε → ε'} {I : τ → Prop} (hI : ∀ s t, I t → I (part.set s t))
    (p : Prog σ ε α) {t : τ} (ht : I t) :
    Safe (fun t t' => I t → I t') (fun _ t' => I t') (fun _ t' => I t') (p.inPart part err) t := by
  have hsafe : Safe _ _ _ (p.inPart part err) t := (safe_any p (part.get t)).inPart
  refine ((hsafe.mono (fun t t' hstep => ?_) (fun _ _ h => h) fun _ _ h => h).keeps
    (fun _ _ hstep => hstep) ht).mono (fun _ _ => id) (fun _ _ h => h.2) fun _ _ h => h.2
  obtain ⟨s', rfl, -⟩ := hstep
  exact hI s' t

end Prog

/-! ## Runs -/

/-- **An invariant that every step keeps holds wherever the steps lead.** -/
theorem invariant_of_reaches {σ : Type} {R : σ → σ → Prop} {Inv : σ → Prop} {s s' : σ}
    (hstep : ∀ s s', R s s' → Inv s → Inv s') (h : Relation.ReflTransGen R s s') (hs : Inv s) :
    Inv s' := by
  induction h with
  | refl => exact hs
  | tail _ hlast ih => exact hstep _ _ hlast ih

end WeFlow
