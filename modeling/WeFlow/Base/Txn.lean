/-!
# `Txn` — the code of one transaction

The body of a transaction is a chain of checks and look-ups in `Except`: the first refused check is the
error of the whole, and the transaction then leaves nothing behind. The lemmas peel such a chain from
the front, in both directions: what a successful run has passed (`bind_eq_ok`, `require_bind_eq_ok`,
`fetch_bind_eq_ok`), and that a chain whose checks hold runs through (`require_true`, `fetch_some`).
`Raises` says which errors a chain can end with. `Alike` relates two chains that succeed with the same
values, whatever their errors are.
-/

namespace WeFlow.Txn

variable {ε α β : Type}

/-- `if not c: raise e`. -/
def require (c : Bool) (e : ε) : Except ε Unit := if c then .ok () else .error e

/-- `if row is None: raise e`. -/
def fetch (row : Option α) (e : ε) : Except ε α :=
  match row with
  | some a => .ok a
  | none => .error e

theorem bind_eq_ok {x : Except ε α} {f : α → Except ε β} {b : β} :
    (x >>= f) = .ok b ↔ ∃ a, x = .ok a ∧ f a = .ok b := by
  cases x with
  | error e => simp [bind, Except.bind]
  | ok a => simp [bind, Except.bind]

@[simp] theorem require_eq_ok {c : Bool} {e : ε} {u : Unit} : require c e = .ok u ↔ c = true := by
  cases c <;> simp [require]

@[simp] theorem require_true {e : ε} : require true e = .ok () := rfl

@[simp] theorem fetch_eq_ok {row : Option α} {e : ε} {a : α} : fetch row e = .ok a ↔ row = some a := by
  cases row <;> simp [fetch]

@[simp] theorem fetch_some {a : α} {e : ε} : fetch (some a) e = .ok a := rfl

/-- A passed check in front of a chain. -/
theorem require_bind_eq_ok {c : Bool} {e : ε} {f : Unit → Except ε β} {b : β} :
    (require c e >>= f) = .ok b ↔ c = true ∧ f () = .ok b := by
  cases c <;> simp [require, bind, Except.bind]

/-- A chain in front of a chain. -/
theorem unit_bind_eq_ok {x : Except ε Unit} {f : Unit → Except ε β} {b : β} :
    (x >>= f) = .ok b ↔ x = .ok () ∧ f () = .ok b := by
  rw [bind_eq_ok]
  constructor
  · rintro ⟨u, hx, hf⟩
    exact ⟨hx, hf⟩
  · rintro ⟨hx, hf⟩
    exact ⟨(), hx, hf⟩

/-- A found row in front of a chain. -/
theorem fetch_bind_eq_ok {row : Option α} {e : ε} {f : α → Except ε β} {b : β} :
    (fetch row e >>= f) = .ok b ↔ ∃ a, row = some a ∧ f a = .ok b := by
  rw [bind_eq_ok]; simp

/-- A check of every element. -/
theorem forM_require_eq_ok {as : List α} {p : α → Bool} {e : α → ε} :
    (as.forM fun a => require (p a) (e a)) = .ok () ↔ ∀ a ∈ as, p a = true := by
  induction as with
  | nil => exact iff_of_true rfl fun _ h => absurd h List.not_mem_nil
  | cons a as ih =>
      show (require (p a) (e a) >>= fun _ => as.forM fun a => require (p a) (e a)) = .ok () ↔ _
      rw [require_bind_eq_ok, ih, List.forall_mem_cons]

/-- Each step of a loop that ran through has succeeded. -/
theorem mem_of_foldlM_eq_ok {f : β → α → Except ε β} {b c : β} {as : List α} (h : as.foldlM f b = .ok c)
    {a : α} (ha : a ∈ as) : ∃ b' c', f b' a = .ok c' := by
  induction as generalizing b with
  | nil => exact absurd ha List.not_mem_nil
  | cons a' as ih =>
      rw [List.foldlM_cons] at h
      obtain ⟨b', hstep, hrest⟩ := bind_eq_ok.mp h
      rcases List.mem_cons.mp ha with rfl | ha
      · exact ⟨b, b', hstep⟩
      · exact ih hrest ha

/-! ## Which errors a transaction can raise -/

/-- Every error the code can raise satisfies `P`. -/
def Raises (P : ε → Prop) (x : Except ε α) : Prop := ∀ e, x = .error e → P e

variable {P P' : ε → Prop}

theorem Raises.mono {x : Except ε α} (h : Raises P x) (hP : ∀ e, P e → P' e) : Raises P' x :=
  fun e he => hP e (h e he)

@[simp] theorem raises_ok {a : α} : Raises P (.ok a : Except ε α) ↔ True :=
  iff_true_intro fun _ he => nomatch he

@[simp] theorem raises_pure {a : α} : Raises P (pure a : Except ε α) ↔ True := raises_ok

@[simp] theorem raises_error {e : ε} : Raises P (.error e : Except ε α) ↔ P e :=
  ⟨fun h => h e rfl, fun h _ he => Except.error.inj he ▸ h⟩

@[simp] theorem raises_require {c : Bool} {e : ε} : Raises P (require c e) ↔ (c = false → P e) := by
  cases c <;> simp [require]

@[simp] theorem raises_fetch {row : Option α} {e : ε} : Raises P (fetch row e) ↔ (row = none → P e) := by
  cases row <;> simp [fetch]

@[simp] theorem raises_bind {x : Except ε α} {f : α → Except ε β} :
    Raises P (x >>= f) ↔ Raises P x ∧ ∀ a, x = .ok a → Raises P (f a) := by
  cases x with
  | error e => simp [bind, Except.bind]
  | ok a => simp [bind, Except.bind]

@[simp] theorem raises_map {x : Except ε α} {f : α → β} : Raises P (f <$> x) ↔ Raises P x := by
  cases x with
  | error e => simp [Functor.map, Except.map]
  | ok a => simp [Functor.map, Except.map]

theorem raises_foldlM {γ : Type} {f : β → γ → Except ε β} {b : β} {cs : List γ}
    (h : ∀ b, ∀ c ∈ cs, Raises P (f b c)) : Raises P (cs.foldlM f b) := by
  induction cs generalizing b with
  | nil => simp
  | cons c cs ih =>
      rw [List.foldlM_cons, raises_bind]
      exact ⟨h b c (by simp), fun b' _ => ih fun b'' c' hc' => h b'' c' (by simp [hc'])⟩

/-! ## Chains that succeed alike -/

section Alike

variable {ε' : Type}

/-- Both chains succeed with the same values. -/
def Alike (x : Except ε α) (y : Except ε' α) : Prop := ∀ a, x = .ok a ↔ y = .ok a

theorem alike_pure (a : α) : Alike (pure a : Except ε α) (pure a : Except ε' α) := by
  intro b
  constructor <;> intro h <;> exact congrArg Except.ok (Except.ok.inj h)

theorem alike_require {c c' : Bool} {e : ε} {e' : ε'} (h : c = true ↔ c' = true) :
    Alike (require c e) (require c' e') := by
  intro u
  rw [require_eq_ok, require_eq_ok]
  exact h

theorem alike_fetch {row row' : Option α} {e : ε} {e' : ε'} (h : row = row') :
    Alike (fetch row e) (fetch row' e') := by
  intro a
  rw [fetch_eq_ok, fetch_eq_ok, h]

theorem alike_bind {x : Except ε α} {y : Except ε' α} {f : α → Except ε β} {g : α → Except ε' β}
    (h : Alike x y) (hrest : ∀ a, x = .ok a → Alike (f a) (g a)) : Alike (x >>= f) (y >>= g) := by
  intro b
  rw [bind_eq_ok, bind_eq_ok]
  constructor
  · rintro ⟨a, hx, hf⟩
    exact ⟨a, (h a).mp hx, (hrest a hx b).mp hf⟩
  · rintro ⟨a, hy, hg⟩
    have hx := (h a).mpr hy
    exact ⟨a, hx, (hrest a hx b).mpr hg⟩

theorem alike_forM {f : α → Except ε Unit} {g : α → Except ε' Unit} {as : List α}
    (h : ∀ a ∈ as, Alike (f a) (g a)) : Alike (as.forM f) (as.forM g) := by
  induction as with
  | nil => exact alike_pure ()
  | cons a as ih =>
      show Alike (f a >>= fun _ => as.forM f) (g a >>= fun _ => as.forM g)
      exact alike_bind (h a List.mem_cons_self) fun _ _ => ih fun b hb => h b (List.mem_cons_of_mem _ hb)

theorem alike_foldlM {f : β → α → Except ε β} {g : β → α → Except ε' β} {b : β} {as : List α}
    (h : ∀ b, ∀ a ∈ as, Alike (f b a) (g b a)) : Alike (as.foldlM f b) (as.foldlM g b) := by
  induction as generalizing b with
  | nil => exact alike_pure b
  | cons a as ih =>
      rw [List.foldlM_cons, List.foldlM_cons]
      exact alike_bind (h b a List.mem_cons_self)
        fun b' _ => ih fun b'' a' ha' => h b'' a' (List.mem_cons_of_mem _ ha')

end Alike

/-! ## Chains on two stores -/

section Related

variable {γ δ : Type}

/-- Both chains raise the same error, or succeed with values in the relation `R`. -/
def Related (R : α → β → Prop) : Except ε α → Except ε β → Prop
  | .ok a, .ok b => R a b
  | .error e, .error e' => e = e'
  | _, _ => False

variable {R : α → β → Prop} {S : γ → δ → Prop}

theorem related_pure {a : α} {b : β} (h : R a b) : Related R (pure a : Except ε α) (pure b) := h

theorem related_require (c : Bool) (e : ε) : Related (fun _ _ => True) (require c e) (require c e) := by
  cases c with
  | false => exact rfl
  | true => exact trivial

theorem related_fetch {row : Option α} {row' : Option β} {e : ε} (hsome : ∀ a, row = some a →
    ∃ b, row' = some b ∧ R a b) (hnone : row = none → row' = none) :
    Related R (fetch row e) (fetch row' e) := by
  cases row with
  | none => rw [hnone rfl]; exact rfl
  | some a =>
      obtain ⟨b, hb, hR⟩ := hsome a rfl
      rw [hb]
      exact hR

/-- A chain that does not depend on the store. -/
theorem related_self (x : Except ε α) : Related (fun a b => a = b ∧ x = .ok a) x x := by
  cases x with
  | error e => exact rfl
  | ok a => exact ⟨rfl, rfl⟩

theorem related_bind {x : Except ε α} {y : Except ε β} {f : α → Except ε γ} {g : β → Except ε δ}
    (h : Related R x y) (hrest : ∀ a b, R a b → Related S (f a) (g b)) :
    Related S (x >>= f) (y >>= g) := by
  cases x with
  | error e =>
      cases y with
      | error e' => exact h
      | ok b => exact h.elim
  | ok a =>
      cases y with
      | error e' => exact h.elim
      | ok b => exact hrest a b h

end Related

end WeFlow.Txn
