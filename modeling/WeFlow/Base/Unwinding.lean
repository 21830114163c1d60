/-!
# `Unwinding` — noninterference of a deterministic machine

A machine answers each operation and moves to the next state; every operation has an owner. What one owner
sees of the machine is a *view* of its states. If an owner's operation answers and moves the view according
to the view alone, and the operations of others leave the view as it is, then two runs in which the owner
does the same operations give the owner the same answers and end in the same view, whatever others did in
between (`Isolates.run`).
-/

namespace WeFlow.Unwinding

variable {σ ο α τ ν : Type} [DecidableEq τ]

/-- The state after some operations. -/
def final (step : σ → ο → α × σ) (s : σ) (ops : List ο) : σ := ops.foldl (fun s op => (step s op).2) s

/-- The operations of a run, each with its answer. -/
def trace (step : σ → ο → α × σ) : σ → List ο → List (ο × α)
  | _, [] => []
  | s, op :: ops => (op, (step s op).1) :: trace step (step s op).2 ops

/-- What an owner is answered in a run. -/
def observed (step : σ → ο → α × σ) (owner : ο → τ) (t : τ) (s : σ) (ops : List ο) : List (ο × α) :=
  (trace step s ops).filter fun entry => owner entry.1 = t

/-- **The unwinding conditions** for the owner `t`, on the states that satisfy `I`. -/
structure Isolates (step : σ → ο → α × σ) (owner : ο → τ) (t : τ) (view : σ → ν) (I : σ → Prop) : Prop where
  keeps : ∀ s op, I s → I (step s op).2
  own : ∀ s s' op, I s → I s' → view s = view s' → owner op = t →
    (step s op).1 = (step s' op).1 ∧ view (step s op).2 = view (step s' op).2
  other : ∀ s op, I s → owner op ≠ t → view (step s op).2 = view s

variable {step : σ → ο → α × σ} {owner : ο → τ} {t : τ} {view : σ → ν} {I : σ → Prop}

/-- An owner sees of a run what it sees of its own operations alone. -/
theorem Isolates.purge (h : Isolates step owner t view I) (ops : List ο) :
    ∀ s s', I s → I s' → view s = view s' →
      observed step owner t s ops = observed step owner t s' (ops.filter fun op => owner op = t) ∧
        view (final step s ops) = view (final step s' (ops.filter fun op => owner op = t)) := by
  induction ops with
  | nil => exact fun s s' _ _ hview => ⟨rfl, hview⟩
  | cons op ops ih =>
      intro s s' hs hs' hview
      by_cases hop : owner op = t
      · obtain ⟨hanswer, hnext⟩ := h.own s s' op hs hs' hview hop
        obtain ⟨hrest, hfinal⟩ := ih _ _ (h.keeps s op hs) (h.keeps s' op hs') hnext
        rw [List.filter_cons_of_pos (by simpa using hop)]
        constructor
        · show observed step owner t s (op :: ops) = _
          simp only [observed, trace] at hrest ⊢
          rw [List.filter_cons_of_pos (by simpa using hop), List.filter_cons_of_pos (by simpa using hop),
            hanswer, hrest]
        · exact hfinal
      · have hnext := (h.other s op hs hop).trans hview
        obtain ⟨hrest, hfinal⟩ := ih _ _ (h.keeps s op hs) hs' hnext
        rw [List.filter_cons_of_neg (by simpa using hop)]
        constructor
        · simp only [observed, trace] at hrest ⊢
          rw [List.filter_cons_of_neg (by simpa using hop), hrest]
        · exact hfinal

/-- **Noninterference.** -/
theorem Isolates.run (h : Isolates step owner t view I) {s : σ} (hs : I s) {ops ops' : List ο}
    (hsame : (ops.filter fun op => owner op = t) = ops'.filter fun op => owner op = t) :
    observed step owner t s ops = observed step owner t s ops' ∧
      view (final step s ops) = view (final step s ops') := by
  obtain ⟨hanswers, hview⟩ := h.purge ops s s hs hs rfl
  obtain ⟨hanswers', hview'⟩ := h.purge ops' s s hs hs rfl
  rw [hanswers, hview, hanswers', hview', hsame]
  exact ⟨rfl, rfl⟩

end WeFlow.Unwinding
