import WeFlow.Base.Txn
import Mathlib.Data.List.Basic

/-!
# `KeyedFold` — folds that require one key of all records

A fold in `Except` whose state keeps the key of the records so far, beside a rest that says what the next
record must meet. Such a fold succeeds on a list exactly when the records meet what the rest requires, one
after the other, and all have one key (`KeepsKey.fold_iff`). Two folds that differ in their keys only are
compared by it.
-/

namespace WeFlow.Txn

variable {ε S σ α ι : Type}

/-- The records of a list meet what the state before each of them requires. -/
def Folded (Facts : σ → α → Prop) (next : σ → α → σ) : σ → List α → Prop
  | _, [] => True
  | s, a :: as => Facts s a ∧ Folded Facts next (next s a) as

/-- **A fold of checked steps** succeeds when what each step requires holds along the list, with the state that
    the steps lead to. -/
theorem foldlM_eq_ok_iff {step : σ → α → Except ε σ} {Facts : σ → α → Prop} {next : σ → α → σ} {as : List α}
    (h : ∀ a ∈ as, ∀ s s', step s a = .ok s' ↔ Facts s a ∧ s' = next s a) {s t : σ} :
    as.foldlM step s = .ok t ↔ Folded Facts next s as ∧ t = as.foldl next s := by
  induction as generalizing s with
  | nil =>
      constructor
      · intro hfold
        exact ⟨trivial, (Except.ok.inj hfold).symm⟩
      · rintro ⟨-, rfl⟩
        rfl
  | cons a as ih =>
      have hhead := h a List.mem_cons_self
      have htail := fun s => @ih (fun b hb => h b (List.mem_cons_of_mem _ hb)) s
      rw [List.foldlM_cons, bind_eq_ok]
      constructor
      · rintro ⟨s₁, hstep, hrest⟩
        obtain ⟨hfacts, rfl⟩ := (hhead s s₁).mp hstep
        obtain ⟨hfolded, rfl⟩ := (htail _).mp hrest
        exact ⟨⟨hfacts, hfolded⟩, rfl⟩
      · rintro ⟨⟨hfacts, hrest⟩, rfl⟩
        exact ⟨next s a, (hhead s _).mpr ⟨hfacts, rfl⟩, (htail _).mpr ⟨hrest, rfl⟩⟩

/-- Requirements on the records alone. -/
theorem folded_forall {P : α → Prop} {next : σ → α → σ} {s : σ} {as : List α} :
    Folded (fun _ a => P a) next s as ↔ ∀ a ∈ as, P a := by
  induction as generalizing s with
  | nil => exact iff_of_true trivial fun _ h => absurd h List.not_mem_nil
  | cons a as ih => rw [Folded, ih, List.forall_mem_cons]

/-- A step of a fold requires some facts, and that a record has the key kept so far. -/
structure KeepsKey (step : S → α → Except ε S) (key : S → Option ι) (rest : S → σ) (keyOf : α → ι)
    (Facts : σ → α → Prop) (next : σ → α → σ) : Prop where
  passes : ∀ s a, (∃ s', step s a = .ok s') ↔ Facts (rest s) a ∧ ∀ i ∈ key s, i = keyOf a
  moves : ∀ s a s', step s a = .ok s' → key s' = some (keyOf a) ∧ rest s' = next (rest s) a

/-- **A fold that keeps a key** succeeds when the facts hold along the list and all keys are one. -/
theorem KeepsKey.fold_iff {step : S → α → Except ε S} {key : S → Option ι} {rest : S → σ} {keyOf : α → ι}
    {Facts : σ → α → Prop} {next : σ → α → σ} (h : KeepsKey step key rest keyOf Facts next) {s : S}
    {as : List α} : (∃ s', as.foldlM step s = .ok s') ↔
      Folded Facts next (rest s) as ∧ ((key s).toList ++ as.map keyOf).Pairwise (· = ·) := by
  induction as generalizing s with
  | nil =>
      have hkeys : ((key s).toList ++ [].map keyOf).Pairwise (· = ·) := by
        cases key s with
        | none => exact List.Pairwise.nil
        | some i => exact List.pairwise_singleton _ _
      exact ⟨fun _ => ⟨trivial, hkeys⟩, fun _ => ⟨s, rfl⟩⟩
  | cons a as ih =>
      -- the key so far is that of the first record
      have hkeys : ((key s).toList ++ (a :: as).map keyOf).Pairwise (· = ·) ↔
          (∀ i ∈ key s, i = keyOf a) ∧ (keyOf a :: as.map keyOf).Pairwise (· = ·) := by
        cases hkey : key s with
        | none => simp
        | some i =>
            rw [Option.toList_some, List.singleton_append, List.map_cons, List.pairwise_cons]
            constructor
            · rintro ⟨hfirst, hrest⟩
              exact ⟨fun j hj => Option.some.inj hj ▸ hfirst _ List.mem_cons_self, hrest⟩
            · rintro ⟨hfirst, hrest⟩
              obtain rfl := hfirst i rfl
              refine ⟨fun b hb => ?_, hrest⟩
              rcases List.mem_cons.mp hb with rfl | hb
              · rfl
              · exact (List.pairwise_cons.mp hrest).1 b hb
      rw [hkeys]
      constructor
      · rintro ⟨s', hfold⟩
        rw [List.foldlM_cons, bind_eq_ok] at hfold
        obtain ⟨s₁, hstep, hfold⟩ := hfold
        obtain ⟨hfacts, hsame⟩ := (h.passes s a).mp ⟨s₁, hstep⟩
        obtain ⟨hkey, hrest⟩ := h.moves s a s₁ hstep
        have htail := ih.mp ⟨s', hfold⟩
        rw [hkey, hrest] at htail
        exact ⟨⟨hfacts, htail.1⟩, hsame, htail.2⟩
      · rintro ⟨⟨hfacts, htail⟩, hsame, hone⟩
        obtain ⟨s₁, hstep⟩ := (h.passes s a).mpr ⟨hfacts, hsame⟩
        obtain ⟨hkey, hrest⟩ := h.moves s a s₁ hstep
        have hrun : Folded Facts next (rest s₁) as ∧
            ((key s₁).toList ++ as.map keyOf).Pairwise (· = ·) := by
          rw [hkey, hrest]
          exact ⟨htail, hone⟩
        obtain ⟨s', hfold⟩ := ih.mpr hrun
        refine ⟨s', ?_⟩
        rw [List.foldlM_cons, bind_eq_ok]
        exact ⟨s₁, hstep, hfold⟩

/-- A loop runs through when each step does. -/
theorem forM_eq_ok_iff {f : α → Except ε Unit} {as : List α} :
    as.forM f = .ok () ↔ ∀ a ∈ as, f a = .ok () := by
  induction as with
  | nil => exact iff_of_true rfl fun _ h => absurd h List.not_mem_nil
  | cons a as ih =>
      show (f a >>= fun _ => as.forM f) = .ok () ↔ _
      rw [unit_bind_eq_ok, ih, List.forall_mem_cons]

/-- What a loop that ran through has passed. -/
theorem mem_of_forM_eq_ok {f : α → Except ε Unit} {as : List α} (h : as.forM f = .ok ()) {a : α} (ha : a ∈ as) :
    f a = .ok () :=
  forM_eq_ok_iff.mp h a ha

/-- A fold over at most one record is its step. -/
theorem foldlM_of_length_le_one {f : S → α → Except ε S} {s : S} {as : List α} (h : as.length ≤ 1) :
    (∃ s', as.foldlM f s = .ok s') ↔ ∀ a ∈ as, ∃ s', f s a = .ok s' := by
  match as with
  | [] => exact iff_of_true ⟨s, rfl⟩ fun _ ha => absurd ha List.not_mem_nil
  | [a] =>
      rw [List.forall_mem_singleton]
      constructor
      · rintro ⟨s', hfold⟩
        rw [List.foldlM_cons, bind_eq_ok] at hfold
        obtain ⟨s₁, hstep, -⟩ := hfold
        exact ⟨s₁, hstep⟩
      · rintro ⟨s', hstep⟩
        refine ⟨s', ?_⟩
        rw [List.foldlM_cons, bind_eq_ok]
        exact ⟨s', hstep, rfl⟩
  | _ :: _ :: _ => simp at h

/-- A coarser key is one where a finer key is. -/
theorem pairwise_map_of_pairwise {κ : Type} {keyOf : α → ι} (f : ι → κ) {as : List α}
    (h : (as.map keyOf).Pairwise (· = ·)) : (as.map fun a => f (keyOf a)).Pairwise (· = ·) := by
  rw [List.pairwise_map] at h ⊢
  exact h.imp fun hkey => congrArg f hkey

end WeFlow.Txn
