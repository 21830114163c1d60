import Mathlib.Algebra.BigOperators.Group.List.Basic
import Mathlib.Data.List.Induction
import WeFlow.Base.Program

/-!
# `Interleaving` — programs that run concurrently over one store

A system is a store and the programs running over it. It moves by starting a program, by letting one
program perform its next transaction, by killing a program, and by a disturbance of the store from outside
(time passing, a record revoked). The schedule is a list of such actions, so a statement about all
schedules covers every interleaving, every crash point and every restart.

The proof rule is a program logic with a shared invariant and owned resources. The invariant `I s r`
relates the store to the *sum* of what all programs own, so a right that the store grants once can be owned
by one program only; what a program has read stays true along the preorder `G` that every transaction
respects.

## Contents

* `Sys`, `Action`, `Sys.step`, `Sys.run` — systems and their runs.
* `Guard`, `Sys.Along` — conditions on a schedule, in terms of the next transaction and the store.
* `Owns A I G Q p r k` — `p`, owning `r` and having last seen the store `k`, keeps the invariant and
  respects `G` whatever the others do, where `A` lets its transactions happen; `owns_bind`, `Owns.mono`,
  `owns_observe` compose.
* `Sys.Sound`, `Sys.Sound.run` — soundness for every schedule that a guard allows.
* `Quiet A R Q p` — `p` only takes steps of `R` where `A` lets it; `Sys.QuietFrom` for threads that are
  started later, `Quiet.owns` for programs that keep the invariant at every step;
  `Sys.QuietFrom.step_cases` — the actions of quiet programs.
-/

namespace WeFlow

/-! ## Systems -/

/-- A store and the programs over it; a killed program is `none`. -/
structure Sys (σ ε α : Type) where
  store : σ
  threads : List (Option (Prog σ ε α))

/-- A transaction together with the type of its result. -/
structure AnyTxn (σ ε : Type) where
  {result : Type}
  run : σ → Except ε (result × σ)

/-- What a scheduler can do next: operations `ω` start programs, `ι` are disturbances. -/
inductive Action (ω ι : Type) where
  | start (op : ω)
  | advance (i : Nat)
  | crash (i : Nat)
  | disturb (e : ι)
  deriving DecidableEq, Repr

namespace Sys

variable {σ ε α ω ι : Type}

/-- Thread `i` performs its next transaction, or raises the error that rolls it back. -/
def advance (c : Sys σ ε α) (i : Nat) : Sys σ ε α :=
  match c.threads[i]? with
  | some (some (.step txn next)) =>
      match txn c.store with
      | .ok (b, s') => ⟨s', c.threads.set i (some (next b))⟩
      | .error e => ⟨c.store, c.threads.set i (some (.raise e))⟩
  | _ => c

variable (prog : ω → Prog σ ε α) (disturbance : ι → σ → σ)

def step (c : Sys σ ε α) : Action ω ι → Sys σ ε α
  | .start op => ⟨c.store, c.threads ++ [some (prog op)]⟩
  | .advance i => c.advance i
  | .crash i => ⟨c.store, c.threads.set i none⟩
  | .disturb e => ⟨disturbance e c.store, c.threads⟩

def run (c : Sys σ ε α) (actions : List (Action ω ι)) : Sys σ ε α :=
  actions.foldl (step prog disturbance) c

@[simp] theorem run_nil (c : Sys σ ε α) : run prog disturbance c [] = c := rfl

theorem run_append (c : Sys σ ε α) (as bs : List (Action ω ι)) :
    run prog disturbance c (as ++ bs) =
      run prog disturbance (run prog disturbance c as) bs :=
  List.foldl_append

theorem run_concat (c : Sys σ ε α) (as : List (Action ω ι)) (a : Action ω ι) :
    run prog disturbance c (as ++ [a]) =
      step prog disturbance (run prog disturbance c as) a :=
  List.foldl_append

/-- **A thread's step**: nothing happens, its transaction commits, or it raises. -/
theorem advance_cases (c : Sys σ ε α) (i : Nat) :
    c.advance i = c ∨
      ∃ (β : Type) (txn : σ → Except ε (β × σ)) (next : β → Prog σ ε α),
        c.threads[i]? = some (some (.step txn next)) ∧
        ((∃ b s', txn c.store = .ok (b, s') ∧
            c.advance i = ⟨s', c.threads.set i (some (next b))⟩) ∨
          ∃ e, txn c.store = .error e ∧
            c.advance i = ⟨c.store, c.threads.set i (some (.raise e))⟩) := by
  unfold advance
  split
  case h_1 β txn next hi =>
    refine Or.inr ⟨β, txn, next, hi, ?_⟩
    split
    case h_1 b s' htxn => exact Or.inl ⟨b, s', htxn, rfl⟩
    case h_2 e htxn => exact Or.inr ⟨e, htxn, rfl⟩
  case h_2 => exact Or.inl rfl

/-- The transaction that thread `i` performs when it is advanced. -/
def next? (c : Sys σ ε α) (i : Nat) : Option (AnyTxn σ ε) :=
  match c.threads[i]? with
  | some (some (.step txn _)) => some ⟨txn⟩
  | _ => none

theorem next?_eq {c : Sys σ ε α} {i : Nat} {β : Type} {txn : σ → Except ε (β × σ)}
    {next : β → Prog σ ε α} (h : c.threads[i]? = some (some (.step txn next))) :
    c.next? i = some ⟨txn⟩ := by
  rw [next?, h]

theorem advance_store {c : Sys σ ε α} {i : Nat} {t : AnyTxn σ ε} (hi : c.next? i = some t) {b : t.result}
    {s' : σ} (htxn : t.run c.store = .ok (b, s')) : (c.advance i).store = s' := by
  rcases h : c.threads[i]? with _ | _ | _ | _ | ⟨txn, next⟩
  case some.some.step =>
    rw [next?_eq h] at hi
    obtain rfl := Option.some.inj hi
    have hrun : txn c.store = .ok (b, s') := htxn
    simp only [advance, h, hrun]
  all_goals
    rw [next?, h] at hi
    cases hi

theorem length_le_step (c : Sys σ ε α) (a : Action ω ι) :
    c.threads.length ≤ (step prog disturbance c a).threads.length := by
  cases a with
  | start op => simp [step]
  | advance i =>
      show _ ≤ (c.advance i).threads.length
      rcases c.advance_cases i with h | ⟨_, _, _, _, ⟨_, _, _, h⟩ | ⟨_, _, h⟩⟩ <;> simp [h]
  | crash i => simp [step]
  | disturb e => exact Nat.le_refl _

end Sys

/-! ## Guards -/

/-- A condition on a schedule: which transactions may be performed, and which disturbances may happen, in
    which stores. -/
structure Guard (σ ε ι : Type) where
  txn : AnyTxn σ ε → σ → Prop
  disturb : ι → σ → Prop

/-- The guard that lets transactions happen in the stores of `J`. -/
def Guard.stores {σ ε ι : Type} (J : σ → Prop) : Guard σ ε ι := ⟨fun _ s => J s, fun _ _ => True⟩

/-- The guard that lets everything happen. -/
def Guard.free {σ ε ι : Type} : Guard σ ε ι := ⟨fun _ _ => True, fun _ _ => True⟩

/-- `g`, with transactions from stores of `J` to stores of `J` only. -/
def Guard.within {σ ε ι : Type} (g : Guard σ ε ι) (J : σ → Prop) : Guard σ ε ι :=
  ⟨fun t s => (J s ∧ ∀ b s', t.run s = .ok (b, s') → J s') ∧ g.txn t s, g.disturb⟩

namespace Sys

variable {σ ε α ω ι : Type}

/-- The guard holds of the next action. -/
def Allows (g : Guard σ ε ι) (c : Sys σ ε α) : Action ω ι → Prop
  | .advance i => ∀ t, c.next? i = some t → g.txn t c.store
  | .disturb e => g.disturb e c.store
  | .start _ | .crash _ => True

/-- The guard holds of every action of the run. -/
def Along (g : Guard σ ε ι) (prog : ω → Prog σ ε α) (disturbance : ι → σ → σ) :
    Sys σ ε α → List (Action ω ι) → Prop
  | _, [] => True
  | c, a :: as => c.Allows g a ∧ Along g prog disturbance (step prog disturbance c a) as

variable {g : Guard σ ε ι} {prog : ω → Prog σ ε α} {disturbance : ι → σ → σ}

theorem along_append {c : Sys σ ε α} {as bs : List (Action ω ι)} :
    Along g prog disturbance c (as ++ bs) ↔
      Along g prog disturbance c as ∧ Along g prog disturbance (run prog disturbance c as) bs := by
  induction as generalizing c with
  | nil => simp [Along]
  | cons a as ih =>
      rw [List.cons_append, Along, Along, ih, and_assoc]
      rfl

theorem along_concat {c : Sys σ ε α} {as : List (Action ω ι)} {a : Action ω ι} :
    Along g prog disturbance c (as ++ [a]) ↔
      Along g prog disturbance c as ∧ (run prog disturbance c as).Allows g a := by
  rw [along_append]
  simp [Along]

theorem along_free {c : Sys σ ε α} (actions : List (Action ω ι)) :
    Along .free prog disturbance c actions := by
  induction actions generalizing c with
  | nil => trivial
  | cons a as ih =>
      refine ⟨?_, ih⟩
      cases a with
      | advance i => exact fun _ _ => trivial
      | start | crash | disturb => trivial

theorem Allows.within {J : σ → Prop} {c : Sys σ ε α} {a : Action ω ι} (h : c.Allows g a)
    (hJ : J c.store) (hJ' : J (step prog disturbance c a).store) : c.Allows (g.within J) a := by
  cases a with
  | advance i => exact fun t ht => ⟨⟨hJ, fun _ _ htxn => advance_store ht htxn ▸ hJ'⟩, h t ht⟩
  | disturb e => exact h
  | start | crash => trivial

/-- A guard may rely on what holds in every store of the run. -/
theorem along_within {J : σ → Prop} {c : Sys σ ε α} {actions : List (Action ω ι)}
    (h : Along g prog disturbance c actions)
    (hJ : ∀ before after, actions = before ++ after → J (run prog disturbance c before).store) :
    Along (g.within J) prog disturbance c actions := by
  induction actions using List.reverseRecOn with
  | nil => trivial
  | append_singleton actions a ih =>
      obtain ⟨hbefore, hlast⟩ := along_concat.mp h
      have hinit := ih hbefore fun before after heq =>
        hJ before (after ++ [a]) (by rw [heq, List.append_assoc])
      have hnext := hJ (actions ++ [a]) [] (List.append_nil _).symm
      rw [run_concat] at hnext
      exact along_concat.mpr ⟨hinit, hlast.within (hJ actions [a] rfl) hnext⟩

/-- Every action of the run starts from a store of `P`. -/
def startsIn (P : σ → Bool) (prog : ω → Prog σ ε α) (disturbance : ι → σ → σ) :
    Sys σ ε α → List (Action ω ι) → Bool
  | _, [] => true
  | c, a :: as => P c.store && startsIn P prog disturbance (step prog disturbance c a) as

/-- A guard that a test of the stores implies. -/
theorem along_of_startsIn {P : σ → Bool} (hP : ∀ s, P s = true → (∀ t, g.txn t s) ∧ ∀ e, g.disturb e s)
    {c : Sys σ ε α} {actions : List (Action ω ι)}
    (h : startsIn P prog disturbance c actions = true) : Along g prog disturbance c actions := by
  induction actions generalizing c with
  | nil => trivial
  | cons a as ih =>
      rw [startsIn, Bool.and_eq_true] at h
      obtain ⟨htxn, hdisturb⟩ := hP c.store h.1
      refine ⟨?_, ih h.2⟩
      cases a with
      | advance i => exact fun t _ => htxn t
      | disturb e => exact hdisturb e
      | start | crash => trivial

/-- A guard on the store that every run satisfies. -/
theorem along_stores {J : σ → Prop} {c : Sys σ ε α}
    (hJ : ∀ as : List (Action ω ι), J (run prog disturbance c as).store) (actions : List (Action ω ι)) :
    Along (.stores J) prog disturbance c actions := by
  induction actions using List.reverseRecOn with
  | nil => trivial
  | append_singleton actions a ih =>
      refine along_concat.mpr ⟨ih, ?_⟩
      cases a with
      | advance i => exact fun _ _ => hJ actions
      | start | crash | disturb => trivial

end Sys

/-! ## Owned resources -/

section Owns

variable {σ ε α β ρ : Type} [AddCommMonoid ρ]

/-- **A program that keeps the shared invariant.** It owns `r` and has last seen the store `k`. Whatever
    the others have done since (`G k s`), its next transaction respects `G` and keeps `I`, with what it
    owns afterwards in place of `r`. -/
def Owns (A : AnyTxn σ ε → σ → Prop) (I : σ → ρ → Prop) (G : σ → σ → Prop)
    (Q : α → ρ → σ → Prop) : Prog σ ε α → ρ → σ → Prop
  | .ret a, r, k => Q a r k
  | .raise _, _, _ => True
  | .step txn next, r, k =>
      ∀ s f, G k s → I s (r + f) → A ⟨txn⟩ s → ∀ b s', txn s = .ok (b, s') →
        G s s' ∧ ∃ r', I s' (r' + f) ∧ Owns A I G Q (next b) r' s'

variable {A : AnyTxn σ ε → σ → Prop} {I : σ → ρ → Prop} {G : σ → σ → Prop} {Q Q' : α → ρ → σ → Prop}

@[simp] theorem owns_ret {a : α} {r : ρ} {k : σ} :
    Owns A I G Q (Prog.ret a : Prog σ ε α) r k ↔ Q a r k := Iff.rfl

@[simp] theorem owns_pure {a : α} {r : ρ} {k : σ} :
    Owns A I G Q (pure a : Prog σ ε α) r k ↔ Q a r k := Iff.rfl

@[simp] theorem owns_raise {e : ε} {r : ρ} {k : σ} :
    Owns A I G Q (Prog.raise e : Prog σ ε α) r k ↔ True := Iff.rfl

/-- Sequencing. -/
theorem owns_bind {p : Prog σ ε α} {f : α → Prog σ ε β} {Q : β → ρ → σ → Prop} {r : ρ} {k : σ} :
    Owns A I G Q (p >>= f) r k ↔ Owns A I G (fun a r' k' => Owns A I G Q (f a) r' k') p r k := by
  induction p generalizing r k with
  | ret a => rfl
  | raise e => rfl
  | step txn next ih =>
      show Owns A I G Q (.step txn fun b => (next b).bind f) r k ↔ _
      simp only [Owns]
      refine forall_congr' fun s => forall_congr' fun g => imp_congr_right fun _ =>
        imp_congr_right fun _ => imp_congr_right fun _ => forall_congr' fun b =>
          forall_congr' fun s' => imp_congr_right fun _ => and_congr_right fun _ => exists_congr fun r' =>
            and_congr_right fun _ => ih b

theorem Owns.mono {p : Prog σ ε α} {r : ρ} {k : σ} (h : Owns A I G Q p r k)
    (hQ : ∀ a r k, Q a r k → Q' a r k) : Owns A I G Q' p r k := by
  induction p generalizing r k with
  | ret a => exact hQ _ _ _ h
  | raise e => trivial
  | step txn next ih =>
      intro s f hk hI hA b s' htxn
      obtain ⟨hG, r', hI', hrest⟩ := h s f hk hI hA b s' htxn
      exact ⟨hG, r', hI', ih b hrest⟩

/-- Sequencing, in the direction proofs go. -/
theorem Owns.bind {p : Prog σ ε α} {f : α → Prog σ ε β} {Q : β → ρ → σ → Prop}
    {Q' : α → ρ → σ → Prop} {r : ρ} {k : σ} (hp : Owns A I G Q' p r k)
    (hf : ∀ a r' k', Q' a r' k' → Owns A I G Q (f a) r' k') : Owns A I G Q (p >>= f) r k :=
  owns_bind.mpr (hp.mono hf)

/-- What a program returns with comes after what it started from. -/
theorem Owns.since (hrefl : ∀ s, G s s) (htrans : ∀ a b c, G a b → G b c → G a c) {p : Prog σ ε α}
    {r : ρ} {k : σ} (h : Owns A I G Q p r k) :
    Owns A I G (fun a r' k' => Q a r' k' ∧ G k k') p r k := by
  have hfrom : ∀ start, G start k → Owns A I G (fun a r' k' => Q a r' k' ∧ G start k') p r k := by
    induction p generalizing r k with
    | ret a => exact fun start hstart => ⟨h, hstart⟩
    | raise e => exact fun _ _ => trivial
    | step txn next ih =>
        intro start hstart s f hk hI hA b s' htxn
        obtain ⟨hG, r', hI', hrest⟩ := h s f hk hI hA b s' htxn
        exact ⟨hG, r', hI', ih b hrest start (htrans _ _ _ (htrans _ _ _ hstart hk) hG)⟩
  exact hfrom k (hrefl k)

theorem owns_atomically {txn : σ → Except ε (α × σ)} {r : ρ} {k : σ} :
    Owns A I G Q (Prog.atomically txn) r k ↔
      ∀ s f, G k s → I s (r + f) → A ⟨txn⟩ s → ∀ a s', txn s = .ok (a, s') →
        G s s' ∧ ∃ r', I s' (r' + f) ∧ Q a r' s' := Iff.rfl

/-- A query changes nothing and owns what it owned. -/
theorem owns_observe (hrefl : ∀ s, G s s) {query : σ → α} {r : ρ} {k : σ}
    (h : ∀ s f, G k s → I s (r + f) → Q (query s) r s) :
    Owns A I G Q (Prog.observe query : Prog σ ε α) r k := by
  refine owns_atomically.mpr fun s f hk hI _ a s' htxn => ?_
  obtain ⟨rfl, rfl⟩ := Prod.mk.injEq .. ▸ Except.ok.inj htxn
  exact ⟨hrefl s, r, hI, h s f hk hI⟩

theorem owns_check {c : Bool} {e : ε} {Q : Unit → ρ → σ → Prop} {r : ρ} {k : σ} :
    Owns A I G Q (Prog.check c e) r k ↔ (c = true → Q () r k) := by
  cases c <;> simp [Prog.check]

theorem owns_need {row : Option α} {e : ε} {r : ρ} {k : σ} :
    Owns A I G Q (Prog.need row e) r k ↔ ∀ a, row = some a → Q a r k := by
  cases row <;> simp [Prog.need]

/-! ## Soundness -/

/-- What the invariant knows of one thread that owns `r`. -/
def ThreadSound (A : AnyTxn σ ε → σ → Prop) (I : σ → ρ → Prop) (G : σ → σ → Prop)
    (Q : α → ρ → σ → Prop) (s : σ) (t : Option (Prog σ ε α)) (r : ρ) : Prop :=
  ∀ p, t = some p → ∃ k, G k s ∧ Owns A I G Q p r k

/-- **The system invariant**: the threads share out resources whose sum the store accounts for. -/
def Sys.Sound (A : AnyTxn σ ε → σ → Prop) (I : σ → ρ → Prop) (G : σ → σ → Prop)
    (Q : α → ρ → σ → Prop) (c : Sys σ ε α) : Prop :=
  ∃ rs, List.Forall₂ (ThreadSound A I G Q c.store) c.threads rs ∧ I c.store rs.sum

theorem ThreadSound.mono (htrans : ∀ a b c, G a b → G b c → G a c) {s s' : σ}
    {t : Option (Prog σ ε α)} {r : ρ} (h : ThreadSound A I G Q s t r) (hs : G s s') :
    ThreadSound A I G Q s' t r := by
  intro p hp
  obtain ⟨k, hk, hown⟩ := h p hp
  exact ⟨k, htrans _ _ _ hk hs, hown⟩

/-- One thread in front of the sum of what the others own; the others may move on to `R'`. -/
theorem exists_rest_of_forall₂ {τ : Type*} {R : τ → ρ → Prop} {ts : List τ} {rs : List ρ} {i : Nat}
    {t : τ} (h : List.Forall₂ R ts rs) (hi : ts[i]? = some t) :
    ∃ r rest, R t r ∧ rs.sum = r + rest ∧
      ∀ R' : τ → ρ → Prop, (∀ t r, R t r → R' t r) → ∀ t' r', R' t' r' →
        ∃ rs', List.Forall₂ R' (ts.set i t') rs' ∧ rs'.sum = r' + rest := by
  induction h generalizing i with
  | nil => simp at hi
  | @cons t₀ r₀ ts rs h₀ htail ih =>
      cases i with
      | zero =>
          obtain rfl := Option.some.inj hi
          exact ⟨r₀, rs.sum, h₀, List.sum_cons, fun R' himp t' r' h' =>
            ⟨r' :: rs, .cons h' (htail.imp himp), List.sum_cons⟩⟩
      | succ i =>
          obtain ⟨r, rest, hr, hsum, hset⟩ := ih hi
          refine ⟨r, r₀ + rest, hr, ?_, fun R' himp t' r' h' => ?_⟩
          · rw [List.sum_cons, hsum, add_left_comm]
          · obtain ⟨rs', hrs', hsum'⟩ := hset R' himp t' r' h'
            exact ⟨r₀ :: rs', .cons (himp _ _ h₀) hrs', by rw [List.sum_cons, hsum', add_left_comm]⟩

variable (hrefl : ∀ s, G s s) (htrans : ∀ a b c, G a b → G b c → G a c)

include hrefl htrans

theorem Sys.Sound.advance {c : Sys σ ε α} (h : c.Sound A I G Q) {i : Nat}
    (hallow : ∀ t, c.next? i = some t → A t c.store) :
    (c.advance i).Sound A I G Q ∧ G c.store (c.advance i).store := by
  obtain ⟨rs, hrs, hI⟩ := h
  rcases c.advance_cases i with hsame | ⟨β, txn, next, hi, hcase⟩
  · rw [hsame]
    exact ⟨⟨rs, hrs, hI⟩, hrefl _⟩
  obtain ⟨r, rest, hr, hsum, hset⟩ := exists_rest_of_forall₂ hrs hi
  rw [hsum] at hI
  rcases hcase with ⟨b, s', htxn, heq⟩ | ⟨e, _, heq⟩
  · -- the transaction commits: this thread owns `r'` from now on, the others see a later store
    obtain ⟨k, hk, hown⟩ := hr _ rfl
    obtain ⟨hG, r', hI', hnext⟩ := hown _ rest hk hI (hallow _ (c.next?_eq hi)) b s' htxn
    obtain ⟨rs', hrs', hsum'⟩ := hset (ThreadSound A I G Q s') (fun _ _ ht => ht.mono htrans hG)
      (some (next b)) r' fun p hp => ⟨s', hrefl _, Option.some.inj hp ▸ hnext⟩
    rw [heq]
    exact ⟨⟨rs', hrs', hsum' ▸ hI'⟩, hG⟩
  · obtain ⟨rs', hrs', hsum'⟩ := hset (ThreadSound A I G Q c.store) (fun _ _ => id)
      (some (.raise e)) r fun p hp => ⟨c.store, hrefl _, by
        obtain rfl := Option.some.inj hp
        trivial⟩
    rw [heq]
    exact ⟨⟨rs', hrs', hsum' ▸ hI⟩, hrefl _⟩

variable {ω ι : Type} {g : Guard σ ε ι} {prog : ω → Prog σ ε α} {disturbance : ι → σ → σ}

/-- **Soundness of a step**: an operation starts with nothing, a disturbance keeps the invariant. -/
theorem Sys.Sound.step (hstart : ∀ op s f, I s f → Owns g.txn I G Q (prog op) 0 s)
    (hdisturb : ∀ e s r, g.disturb e s → I s r → G s (disturbance e s) ∧ I (disturbance e s) r)
    {c : Sys σ ε α} (h : c.Sound g.txn I G Q) {a : Action ω ι} (hallow : c.Allows g a) :
    (Sys.step prog disturbance c a).Sound g.txn I G Q ∧
      G c.store (Sys.step prog disturbance c a).store := by
  cases a with
  | start op =>
      obtain ⟨rs, hrs, hI⟩ := h
      refine ⟨⟨rs ++ [0], List.rel_append hrs ?_, ?_⟩, hrefl _⟩
      · refine .cons (fun p hp => ⟨c.store, hrefl _, ?_⟩) .nil
        exact Option.some.inj hp ▸ hstart op c.store _ hI
      · rw [List.sum_append, List.sum_singleton, add_zero]
        exact hI
  | advance i => exact h.advance hrefl htrans hallow
  | crash i =>
      obtain ⟨rs, hrs, hI⟩ := h
      cases hi : c.threads[i]? with
      | none =>
          have hset : c.threads.set i none = c.threads :=
            List.set_eq_of_length_le (List.getElem?_eq_none_iff.mp hi)
          exact ⟨⟨rs, by rw [Sys.step, hset]; exact hrs, hI⟩, hrefl _⟩
      | some t =>
          -- the killed thread keeps what it owned, and never uses it
          obtain ⟨r, rest, -, hsum, hset⟩ := exists_rest_of_forall₂ hrs hi
          obtain ⟨rs', hrs', hsum'⟩ := hset (ThreadSound g.txn I G Q c.store) (fun _ _ => id) none r nofun
          exact ⟨⟨rs', hrs', by rw [hsum', ← hsum]; exact hI⟩, hrefl _⟩
  | disturb e =>
      obtain ⟨rs, hrs, hI⟩ := h
      obtain ⟨hG, hI'⟩ := hdisturb e c.store _ hallow hI
      exact ⟨⟨rs, hrs.imp fun _ _ ht => ht.mono htrans hG, hI'⟩, hG⟩

/-- **Soundness for every schedule** that the guard allows. -/
theorem Sys.Sound.run (hstart : ∀ op s f, I s f → Owns g.txn I G Q (prog op) 0 s)
    (hdisturb : ∀ e s r, g.disturb e s → I s r → G s (disturbance e s) ∧ I (disturbance e s) r)
    {c : Sys σ ε α} (h : c.Sound g.txn I G Q) {actions : List (Action ω ι)}
    (hallow : Sys.Along g prog disturbance c actions) :
    (Sys.run prog disturbance c actions).Sound g.txn I G Q ∧
      G c.store (Sys.run prog disturbance c actions).store := by
  induction actions using List.reverseRecOn with
  | nil => exact ⟨h, hrefl _⟩
  | append_singleton actions a ih =>
      obtain ⟨hbefore, hlast⟩ := Sys.along_concat.mp hallow
      obtain ⟨hsound, hG⟩ := ih hbefore
      obtain ⟨hsound', hG'⟩ := hsound.step hrefl htrans hstart hdisturb hlast
      rw [Sys.run_concat]
      exact ⟨hsound', htrans _ _ _ hG hG'⟩

omit hrefl htrans

/-- A system in which nothing has started yet. -/
theorem Sys.sound_idle {s : σ} (h : I s 0) : (⟨s, []⟩ : Sys σ ε α).Sound A I G Q :=
  ⟨[], .nil, h⟩

theorem Sys.Sound.store {c : Sys σ ε α} (h : c.Sound A I G Q) : ∃ r, I c.store r := by
  obtain ⟨rs, -, hI⟩ := h
  exact ⟨rs.sum, hI⟩

/-- What a program has returned was right at a store that the present one continues. -/
theorem Sys.Sound.returned {c : Sys σ ε α} (h : c.Sound A I G Q) {i : Nat} {a : α}
    (hi : c.threads[i]? = some (some (.ret a))) : ∃ r k, G k c.store ∧ Q a r k := by
  obtain ⟨rs, hrs, -⟩ := h
  obtain ⟨r, -, hr, -, -⟩ := exists_rest_of_forall₂ hrs hi
  obtain ⟨k, hk, hown⟩ := hr _ rfl
  exact ⟨r, k, hk, hown⟩

end Owns

/-! ## Programs started later -/

section Quiet

variable {σ ε α β ω ι : Type} {A : AnyTxn σ ε → σ → Prop} {R : σ → σ → Prop} {Q : α → Prop}

/-- `p` only takes steps of `R` where `A` lets it, and then returns with `Q`. -/
def Quiet (A : AnyTxn σ ε → σ → Prop) (R : σ → σ → Prop) (Q : α → Prop) : Prog σ ε α → Prop
  | .ret a => Q a
  | .raise _ => True
  | .step txn next => ∀ s b s', A ⟨txn⟩ s → txn s = .ok (b, s') → R s s' ∧ Quiet A R Q (next b)

theorem Quiet.bind {p : Prog σ ε α} {f : α → Prog σ ε β} {Q' : β → Prop} (hp : Quiet A R Q p)
    (hf : ∀ a, Q a → Quiet A R Q' (f a)) : Quiet A R Q' (p >>= f) := by
  induction p with
  | ret a => exact hf a hp
  | raise e => trivial
  | step txn next ih =>
      intro s b s' hA htxn
      obtain ⟨hR, hrest⟩ := hp s b s' hA htxn
      exact ⟨hR, ih b hrest⟩

theorem Quiet.weaken {Q' : α → Prop} {p : Prog σ ε α} (h : Quiet A R Q p) (hQ : ∀ a, Q a → Q' a) :
    Quiet A R Q' p := by
  induction p with
  | ret a => exact hQ a h
  | raise e => trivial
  | step txn next ih =>
      intro s b s' hA htxn
      obtain ⟨hR, hrest⟩ := h s b s' hA htxn
      exact ⟨hR, ih b hrest⟩

theorem Quiet.and {R' : σ → σ → Prop} {Q' : α → Prop} {p : Prog σ ε α} (h : Quiet A R Q p)
    (h' : Quiet A R' Q' p) : Quiet A (fun s s' => R s s' ∧ R' s s') (fun a => Q a ∧ Q' a) p := by
  induction p with
  | ret a => exact ⟨h, h'⟩
  | raise e => trivial
  | step txn next ih =>
      intro s b s' hA htxn
      obtain ⟨hR, hrest⟩ := h s b s' hA htxn
      obtain ⟨hR', hrest'⟩ := h' s b s' hA htxn
      exact ⟨⟨hR, hR'⟩, ih b hrest hrest'⟩

/-- Nothing is asked of the steps, nor of the result. -/
theorem quiet_any (p : Prog σ ε α) : Quiet A (fun _ _ => True) (fun _ => True) p := by
  induction p with
  | ret a => trivial
  | raise e => trivial
  | step txn next ih => exact fun _ b _ _ _ => ⟨trivial, ih b⟩

/-- **A program that starts now**: what the steps of `R` keep, its steps keep. -/
theorem Quiet.safe {I : σ → Prop} {p : Prog σ ε α} (h : Quiet A R Q p) (hA : ∀ t s, A t s)
    (hI : ∀ s s', R s s' → I s → I s') {s : σ} (hs : I s) :
    p.Safe (fun _ s' => I s') (fun a s' => Q a ∧ I s') (fun _ s' => I s') s := by
  induction p generalizing s with
  | ret a => exact ⟨h, hs⟩
  | raise e => exact hs
  | step txn next ih =>
      refine ⟨fun e _ => hs, fun b s' htxn => ?_⟩
      obtain ⟨hR, hrest⟩ := h s b s' (hA _ s) htxn
      have hs' : I s' := hI s s' hR hs
      exact ⟨.inr hs', ih b hrest hs'⟩

/-- A program that ends by wrapping up what it has. -/
theorem quiet_returns {Q : β → Prop} {p : Prog σ ε α} {f : α → β} (h : ∀ a, Q (f a)) :
    Quiet A (fun _ _ => True) Q (p >>= fun a => pure (f a)) :=
  (quiet_any p).bind fun a _ => h a

theorem Quiet.mono {A' : AnyTxn σ ε → σ → Prop} {R' : σ → σ → Prop} {p : Prog σ ε α}
    (h : Quiet A R Q p) (hA : ∀ t s, A' t s → A t s) (hR : ∀ s s', R s s' → R' s s') :
    Quiet A' R' Q p := by
  induction p with
  | ret a => exact h
  | raise e => trivial
  | step txn next ih =>
      intro s b s' hs htxn
      obtain ⟨hstep, hrest⟩ := h s b s' (hA _ s hs) htxn
      exact ⟨hR s s' hstep, ih b hrest⟩

/-- **Steps that keep any invariant whatever is owned**: such a program owns what it owned. -/
theorem Quiet.owns {ρ : Type} [AddCommMonoid ρ] {I : σ → ρ → Prop} {G : σ → σ → Prop}
    {p : Prog σ ε α} {r : ρ} (h : Quiet A R Q p)
    (hR : ∀ s s' r, R s s' → I s r → G s s' ∧ I s' r) (k : σ) :
    Owns A I G (fun a r' _ => Q a ∧ r' = r) p r k := by
  induction p generalizing k with
  | ret a => exact ⟨h, rfl⟩
  | raise e => trivial
  | step txn next ih =>
      intro s f _ hI hA b s' htxn
      obtain ⟨hstep, hrest⟩ := h s b s' hA htxn
      obtain ⟨hG, hI'⟩ := hR s s' _ hstep hI
      exact ⟨hG, r, hI', ih b hrest s'⟩

theorem quiet_atomically {txn : σ → Except ε (α × σ)} :
    Quiet A R Q (Prog.atomically txn) ↔ ∀ s a s', A ⟨txn⟩ s → txn s = .ok (a, s') → R s s' ∧ Q a :=
  Iff.rfl

theorem quiet_observe (hrefl : ∀ s, R s s) {query : σ → α} (h : ∀ s, A ⟨fun s => .ok (query s, s)⟩ s → Q (query s)) :
    Quiet A R Q (Prog.observe query : Prog σ ε α) := by
  refine quiet_atomically.mpr fun s a s' hA htxn => ?_
  obtain ⟨rfl, rfl⟩ := Prod.mk.injEq .. ▸ Except.ok.inj htxn
  exact ⟨hrefl s, h s hA⟩

theorem quiet_check {c : Bool} {e : ε} {Q : Unit → Prop} :
    Quiet A R Q (Prog.check c e : Prog σ ε Unit) ↔ (c = true → Q ()) := by
  cases c <;> simp [Prog.check, Quiet]

theorem quiet_need {row : Option α} {e : ε} :
    Quiet A R Q (Prog.need row e : Prog σ ε α) ↔ ∀ a, row = some a → Q a := by
  cases row <;> simp [Prog.need, Quiet]

/-- Every thread from number `n` on is quiet. -/
def Sys.QuietFrom (A : AnyTxn σ ε → σ → Prop) (R : σ → σ → Prop) (Q : α → Prop) (n : Nat)
    (c : Sys σ ε α) : Prop :=
  ∀ i p, n ≤ i → c.threads[i]? = some (some p) → Quiet A R Q p

theorem Sys.QuietFrom.advance {n : Nat} {c : Sys σ ε α} (h : c.QuietFrom A R Q n)
    (hrefl : ∀ s, R s s) {i : Nat} (hallow : ∀ t, c.next? i = some t → A t c.store) :
    (c.advance i).QuietFrom A R Q n ∧ (n ≤ i → R c.store (c.advance i).store) := by
  rcases c.advance_cases i with hsame | ⟨β, txn, next, hi, hcase⟩
  · rw [hsame]
    exact ⟨h, fun _ => hrefl _⟩
  have hlt : i < c.threads.length := (List.getElem?_eq_some_iff.mp hi).1
  have hA := hallow _ (c.next?_eq hi)
  rcases hcase with ⟨b, s', htxn, heq⟩ | ⟨e, _, heq⟩ <;> rw [heq]
  · refine ⟨fun j p hj hp => ?_, fun hn => ((h i _ hn hi) _ b s' hA htxn).1⟩
    by_cases hij : i = j
    · subst hij
      rw [List.getElem?_set_self hlt] at hp
      have hnext := ((h i _ hj hi) _ b s' hA htxn).2
      exact Option.some.inj (Option.some.inj hp) ▸ hnext
    · rw [List.getElem?_set_ne hij] at hp
      exact h j p hj hp
  · refine ⟨fun j p hj hp => ?_, fun _ => hrefl _⟩
    by_cases hij : i = j
    · subst hij
      rw [List.getElem?_set_self hlt] at hp
      obtain rfl := Option.some.inj (Option.some.inj hp)
      trivial
    · rw [List.getElem?_set_ne hij] at hp
      exact h j p hj hp

variable {g : Guard σ ε ι} {prog : ω → Prog σ ε α} {disturbance : ι → σ → σ}

theorem Sys.QuietFrom.step {a : Action ω ι} (hstart : ∀ op, a = .start op → Quiet g.txn R Q (prog op))
    {n : Nat} {c : Sys σ ε α} (h : c.QuietFrom g.txn R Q n) (hrefl : ∀ s, R s s)
    (hallow : c.Allows g a) : (Sys.step prog disturbance c a).QuietFrom g.txn R Q n := by
  cases a with
  | start op =>
      intro i p hi hp
      have hget : (c.threads ++ [some (prog op)])[i]? = some (some p) := hp
      by_cases hlt : i < c.threads.length
      · rw [List.getElem?_append_left hlt] at hget
        exact h i p hi hget
      · rw [List.getElem?_append_right (Nat.le_of_not_lt hlt)] at hget
        have heq := List.mem_singleton.mp (List.mem_of_getElem? hget)
        exact Option.some.inj heq ▸ hstart op rfl
  | advance i => exact (h.advance hrefl hallow).1
  | crash j =>
      intro i p hi hp
      have hget : (c.threads.set j none)[i]? = some (some p) := hp
      by_cases hij : j = i
      · subst hij
        have hlt := (List.getElem?_eq_some_iff.mp hget).1
        rw [List.getElem?_set_self (by simpa using hlt)] at hget
        cases hget
      · rw [List.getElem?_set_ne hij] at hget
        exact h i p hi hget
  | disturb e => exact h

/-- Threads that have yet to start are quiet, on every schedule that the guard allows. -/
theorem Sys.QuietFrom.run {actions : List (Action ω ι)}
    (hstart : ∀ op, .start op ∈ actions → Quiet g.txn R Q (prog op)) {n : Nat} {c : Sys σ ε α}
    (h : c.QuietFrom g.txn R Q n) (hrefl : ∀ s, R s s)
    (hallow : Sys.Along g prog disturbance c actions) :
    (Sys.run prog disturbance c actions).QuietFrom g.txn R Q n := by
  induction actions using List.reverseRecOn with
  | nil => exact h
  | append_singleton actions a ih =>
      obtain ⟨hbefore, hlast⟩ := Sys.along_concat.mp hallow
      rw [Sys.run_concat]
      have hinit := ih (fun op hop => hstart op (List.mem_append_left _ hop)) hbefore
      exact hinit.step (fun op heq => hstart op (heq ▸ List.mem_append_right _ (List.mem_singleton_self _)))
        hrefl hlast

/-- **An action of quiet programs**: a step of `R`, or a disturbance. -/
theorem Sys.QuietFrom.step_cases {c : Sys σ ε α} (h : c.QuietFrom g.txn R Q 0) (hrefl : ∀ s, R s s)
    {a : Action ω ι} (hallow : c.Allows g a) :
    R c.store (Sys.step prog disturbance c a).store ∨
      ∃ e, g.disturb e c.store ∧ (Sys.step prog disturbance c a).store = disturbance e c.store := by
  cases a with
  | start op => exact .inl (hrefl _)
  | advance i => exact .inl ((h.advance hrefl hallow).2 (Nat.zero_le i))
  | crash i => exact .inl (hrefl _)
  | disturb e => exact .inr ⟨e, hallow, rfl⟩

theorem Sys.quietFrom_length (c : Sys σ ε α) : c.QuietFrom A R Q c.threads.length := by
  intro i p hi hp
  have hlt := (List.getElem?_eq_some_iff.mp hp).1
  omega

/-! ### The operations behind the threads -/

/-- The operation that an action starts. -/
def Action.op? : Action ω ι → Option ω
  | .start op => some op
  | _ => none

/-- The operations that a schedule starts, by the number of their threads. -/
def started (actions : List (Action ω ι)) : List ω := actions.filterMap Action.op?

theorem started_append (as bs : List (Action ω ι)) : started (as ++ bs) = started as ++ started bs :=
  List.filterMap_append

theorem started_concat (actions : List (Action ω ι)) (a : Action ω ι) :
    started (actions ++ [a]) = started actions ++ a.op?.toList := by
  unfold started
  rw [List.filterMap_append]
  cases h : a.op? <;> simp [h]

theorem Sys.length_run (s : σ) (actions : List (Action ω ι)) :
    (Sys.run prog disturbance ⟨s, []⟩ actions).threads.length = (started actions).length := by
  induction actions using List.reverseRecOn with
  | nil => rfl
  | append_singleton actions a ih =>
      rw [Sys.run_concat, started_concat, List.length_append, ← ih]
      cases a with
      | start op => simp [Sys.step, Action.op?]
      | advance i =>
          show ((Sys.run prog disturbance ⟨s, []⟩ actions).advance i).threads.length = _
          rcases (Sys.run prog disturbance ⟨s, []⟩ actions).advance_cases i with
            h | ⟨_, _, _, _, ⟨_, _, _, h⟩ | ⟨_, _, h⟩⟩ <;> simp [h, Action.op?]
      | crash i => simp [Sys.step, Action.op?]
      | disturb e => simp [Sys.step, Action.op?]

/-- **A thread is what is left of the operation that started it.** -/
theorem Sys.quiet_of_started {s : σ} {R : ω → σ → σ → Prop} {actions : List (Action ω ι)}
    (hstart : ∀ op, Quiet g.txn (R op) Q (prog op))
    (hallow : Sys.Along g prog disturbance ⟨s, []⟩ actions) {i : Nat} {op : ω} {p : Prog σ ε α}
    (hop : (started actions)[i]? = some op)
    (hp : (Sys.run prog disturbance ⟨s, []⟩ actions).threads[i]? = some (some p)) :
    Quiet g.txn (R op) Q p := by
  induction actions using List.reverseRecOn generalizing i op p with
  | nil => simp [started] at hop
  | append_singleton actions a ih =>
      obtain ⟨hbefore, hlast⟩ := Sys.along_concat.mp hallow
      have hlength : (Sys.run prog disturbance ⟨s, []⟩ actions).threads.length = _ := Sys.length_run s actions
      rw [started_concat] at hop
      rw [Sys.run_concat] at hp
      cases a with
      | start new =>
          have hget : ((Sys.run prog disturbance ⟨s, []⟩ actions).threads ++ [some (prog new)])[i]? =
            some (some p) := hp
          by_cases hi : i < (started actions).length
          · rw [List.getElem?_append_left (hlength ▸ hi)] at hget
            rw [List.getElem?_append_left hi] at hop
            exact ih hbefore hop hget
          · rw [List.getElem?_append_right (hlength ▸ Nat.le_of_not_lt hi)] at hget
            rw [List.getElem?_append_right (Nat.le_of_not_lt hi)] at hop
            have hthread := List.mem_singleton.mp (List.mem_of_getElem? hget)
            have hnew := List.mem_singleton.mp (List.mem_of_getElem? hop)
            obtain rfl := Option.some.inj hthread
            exact hnew ▸ hstart new
      | advance j =>
          have hop' : (started actions)[i]? = some op := by simpa [Action.op?] using hop
          have hget : ((Sys.run prog disturbance ⟨s, []⟩ actions).advance j).threads[i]? = some (some p) := hp
          rcases (Sys.run prog disturbance ⟨s, []⟩ actions).advance_cases j with
            hsame | ⟨β, txn, next, hj, hcase⟩
          · rw [hsame] at hget
            exact ih hbefore hop' hget
          by_cases hij : j = i
          · subst hij
            have hquiet := ih hbefore hop' hj
            have hlt := (List.getElem?_eq_some_iff.mp hj).1
            rcases hcase with ⟨b, s', htxn, heq⟩ | ⟨e, _, heq⟩
            · rw [heq, List.getElem?_set_self hlt, Option.some.injEq, Option.some.injEq] at hget
              exact hget ▸ (hquiet _ b s' (hlast _ (Sys.next?_eq hj)) htxn).2
            · rw [heq, List.getElem?_set_self hlt, Option.some.injEq, Option.some.injEq] at hget
              exact hget ▸ trivial
          · rcases hcase with ⟨b, s', _, heq⟩ | ⟨e, _, heq⟩
            all_goals
              rw [heq, List.getElem?_set_ne hij] at hget
              exact ih hbefore hop' hget
      | crash j =>
          have hop' : (started actions)[i]? = some op := by simpa [Action.op?] using hop
          have hget : ((Sys.run prog disturbance ⟨s, []⟩ actions).threads.set j none)[i]? = some (some p) := hp
          by_cases hij : j = i
          · subst hij
            have hlt := (List.getElem?_eq_some_iff.mp hget).1
            rw [List.getElem?_set_self (by simpa using hlt)] at hget
            cases hget
          · rw [List.getElem?_set_ne hij] at hget
            exact ih hbefore hop' hget
      | disturb e =>
          have hop' : (started actions)[i]? = some op := by simpa [Action.op?] using hop
          exact ih hbefore hop' hp

/-- **An advance is a step of the operation that started its thread.** -/
theorem Sys.step_of_started {s : σ} {R : ω → σ → σ → Prop} {actions : List (Action ω ι)}
    (hstart : ∀ op, Quiet g.txn (R op) Q (prog op)) (hrefl : ∀ op s, R op s s) {i : Nat}
    (hallow : Sys.Along g prog disturbance ⟨s, []⟩ (actions ++ [.advance i])) {op : ω}
    (hop : (started actions)[i]? = some op) :
    R op (Sys.run prog disturbance ⟨s, []⟩ actions).store
      (Sys.run prog disturbance ⟨s, []⟩ (actions ++ [.advance i])).store := by
  obtain ⟨hbefore, hlast⟩ := Sys.along_concat.mp hallow
  rw [Sys.run_concat]
  show R op _ ((Sys.run prog disturbance ⟨s, []⟩ actions).advance i).store
  rcases (Sys.run prog disturbance ⟨s, []⟩ actions).advance_cases i with hsame | ⟨β, txn, next, hi, hcase⟩
  · rw [hsame]
    exact hrefl op _
  · have hquiet := Sys.quiet_of_started hstart hbefore hop hi
    rcases hcase with ⟨b, s', htxn, heq⟩ | ⟨e, _, heq⟩ <;> rw [heq]
    · exact (hquiet _ b s' (hlast _ (Sys.next?_eq hi)) htxn).1
    · exact hrefl op _

end Quiet

end WeFlow
