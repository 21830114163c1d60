import Mathlib.Data.List.Basic

/-!
# `Regex` — patterns, and what they find and replace in a text

A pattern reads a text from a place in it; its readings are listed in the order in which a backtracking
matcher tries them, and the first one is the match. A pattern sees of the text before its place only whether
it ends in a word character. Repetitions are of single characters, and greedy.

## Contents

* `Regex.run`, `Regex.first` — the readings at a place, and the match.
* `Regex.search`, `Regex.sub` — the scans over a text, for patterns that match no empty text.
* `Regex.run_split`, `Regex.Plain.run_anywhere`, `Regex.first_seq` — what the proofs use of a reading.
* `Nowhere`, `Nowhere.at_split` — a property that holds at no place of a text.
-/

namespace WeFlow

variable {α : Type}

/-- A pattern over the characters `α`. -/
inductive Regex (α : Type) where
  | empty
  | one (p : α → Bool)
  | many (p : α → Bool)
  | boundary
  | seq (r q : Regex α)
  | alt (r q : Regex α)
  | group (r : Regex α)

/-- A reading: what was read, the groups in it, and what comes after it. -/
structure Found (α : Type) where
  text : List α
  groups : List (List α)
  rest : List α

section Places

variable (word : α → Bool)

/-- Whether a word character comes before the place, once the text is read. -/
def wordAfter (b : Bool) (text : List α) : Bool := text.foldl (fun _ c => word c) b

/-- Whether a word character comes next. -/
def wordAhead (text : List α) : Bool := text.head?.any word

@[simp] theorem wordAfter_nil {b : Bool} : wordAfter word b [] = b := rfl

@[simp] theorem wordAfter_cons {b : Bool} {c : α} {text : List α} :
    wordAfter word b (c :: text) = wordAfter word (word c) text := rfl

theorem wordAfter_append {b : Bool} {x y : List α} :
    wordAfter word b (x ++ y) = wordAfter word (wordAfter word b x) y :=
  List.foldl_append

@[simp] theorem wordAhead_cons {c : α} {text : List α} : wordAhead word (c :: text) = word c := rfl

/-- The property holds at no place of the text. -/
def Nowhere (P : Bool → List α → Prop) : Bool → List α → Prop
  | b, [] => ¬ P b []
  | b, c :: s => ¬ P b (c :: s) ∧ Nowhere P (word c) s

variable {word} in
theorem Nowhere.here {P : Bool → List α → Prop} {b : Bool} {s : List α} (h : Nowhere word P b s) : ¬ P b s := by
  cases s with
  | nil => exact h
  | cons c s => exact h.1

variable {word} in
/-- At no place means before no rest of the text. -/
theorem nowhere_iff {P : Bool → List α → Prop} {b : Bool} {s : List α} :
    Nowhere word P b s ↔ ∀ x y, s = x ++ y → ¬ P (wordAfter word b x) y := by
  induction s generalizing b with
  | nil =>
      constructor
      · intro h x y hsplit
        obtain ⟨rfl, rfl⟩ := List.append_eq_nil_iff.mp hsplit.symm
        exact h
      · intro h
        exact h [] [] rfl
  | cons c s ih =>
      constructor
      · rintro ⟨hhere, hlater⟩ x y hsplit
        cases x with
        | nil =>
            obtain rfl : c :: s = y := hsplit
            exact hhere
        | cons d x =>
            obtain ⟨rfl, hrest⟩ := List.cons.inj hsplit
            exact ih.mp hlater x y hrest
      · intro h
        refine ⟨h [] _ rfl, ih.mpr fun x y hsplit => ?_⟩
        exact h (c :: x) y (congrArg (c :: ·) hsplit)

variable {word} in
theorem Nowhere.after {P : Bool → List α → Prop} {b : Bool} {x s : List α} (h : Nowhere word P b (x ++ s)) :
    Nowhere word P (wordAfter word b x) s := by
  induction x generalizing b with
  | nil => exact h
  | cons c x ih => exact ih h.2

variable {word} in
/-- At no place of a text, if not before its end and at no place of what comes after it. -/
theorem Nowhere.append {P : Bool → List α → Prop} {b : Bool} {x s : List α}
    (hx : ∀ u v, x = u ++ v → v ≠ [] → ¬ P (wordAfter word b u) (v ++ s))
    (hs : Nowhere word P (wordAfter word b x) s) : Nowhere word P b (x ++ s) := by
  induction x generalizing b with
  | nil => exact hs
  | cons c x ih =>
      refine ⟨hx [] (c :: x) rfl (List.cons_ne_nil _ _), ih (fun u v hsplit hne => ?_) hs⟩
      exact hx (c :: u) v (congrArg (c :: ·) hsplit) hne

end Places

namespace Regex

/-- The pattern of a given text, up to the sameness of its characters. -/
def literal (same : α → α → Bool) : List α → Regex α
  | [] => .empty
  | c :: w => .seq (.one (same c)) (literal same w)

def opt (r : Regex α) : Regex α := .alt r .empty

/-- The readings of `p*`, the longest first. -/
@[grind =] def runMany (p : α → Bool) : List α → List (Found α)
  | [] => [⟨[], [], []⟩]
  | c :: s => (if p c then (runMany p s).map fun m => { m with text := c :: m.text } else []) ++ [⟨[], [], c :: s⟩]

variable (word : α → Bool)

/-- The readings of a pattern, in the order in which they are tried. -/
@[grind =] def run : Regex α → Bool → List α → List (Found α)
  | .empty, _, s => [⟨[], [], s⟩]
  | .one _, _, [] => []
  | .one p, _, c :: s => if p c then [⟨[c], [], s⟩] else []
  | .many p, _, s => runMany p s
  | .boundary, b, s => if b = wordAhead word s then [] else [⟨[], [], s⟩]
  | .seq r q, b, s => (run r b s).flatMap fun m =>
      (run q (wordAfter word b m.text) m.rest).map fun k => ⟨m.text ++ k.text, m.groups ++ k.groups, k.rest⟩
  | .alt r q, b, s => run r b s ++ run q b s
  | .group r, b, s => (run r b s).map fun m => { m with groups := m.text :: m.groups }

/-- The match at a place. -/
def first (r : Regex α) (b : Bool) (s : List α) : Option (Found α) := (run word r b s).head?

/-- `search`: the pattern matches somewhere. -/
def search (r : Regex α) : Bool → List α → Bool
  | b, [] => (first word r b []).isSome
  | b, c :: s => (first word r b (c :: s)).isSome || search r (word c) s

/-- The scan of `sub`; the next `skip` characters belong to a match that has been replaced. -/
def subFrom (r : Regex α) (f : Found α → List α) : Bool → Nat → List α → List α
  | _, _, [] => []
  | _, skip + 1, c :: s => subFrom r f (word c) skip s
  | b, 0, c :: s => match first word r b (c :: s) with
    | some m => f m ++ subFrom r f (word c) (m.text.length - 1) s
    | none => c :: subFrom r f (word c) 0 s

/-- `sub`: every match, from the left, is replaced. -/
def sub (r : Regex α) (f : Found α → List α) (b : Bool) (s : List α) : List α := subFrom word r f b 0 s

variable {word} {r q : Regex α} {p : α → Bool} {b : Bool} {s : List α} {m : Found α}

/-! ## Readings -/

theorem mem_runMany : m ∈ runMany p s ↔ m.groups = [] ∧ s = m.text ++ m.rest ∧ ∀ c ∈ m.text, p c := by
  induction s generalizing m with
  | nil =>
      obtain ⟨text, groups, rest⟩ := m
      simp only [runMany, List.mem_singleton, Found.mk.injEq]
      constructor
      · rintro ⟨rfl, rfl, rfl⟩
        exact ⟨rfl, rfl, fun _ h => absurd h List.not_mem_nil⟩
      · rintro ⟨rfl, hsplit, -⟩
        obtain ⟨rfl, rfl⟩ := List.append_eq_nil_iff.mp hsplit.symm
        exact ⟨rfl, rfl, rfl⟩
  | cons c s ih =>
      obtain ⟨text, groups, rest⟩ := m
      simp only [runMany, List.mem_append, List.mem_singleton, Found.mk.injEq]
      constructor
      · rintro (h | ⟨rfl, rfl, rfl⟩)
        · by_cases hc : p c
          · rw [if_pos hc, List.mem_map] at h
            obtain ⟨k, hk, hm⟩ := h
            obtain ⟨hgroups, rfl, hall⟩ := ih.mp hk
            cases hm
            exact ⟨hgroups, rfl, List.forall_mem_cons.mpr ⟨hc, hall⟩⟩
          · rw [if_neg hc] at h
            cases h
        · exact ⟨rfl, rfl, fun _ h => absurd h List.not_mem_nil⟩
      · rintro ⟨rfl, hsplit, hall⟩
        cases text with
        | nil => exact .inr ⟨rfl, rfl, hsplit.symm⟩
        | cons d text =>
            obtain ⟨rfl, hrest⟩ := List.cons.inj hsplit
            obtain ⟨hc, htext⟩ := List.forall_mem_cons.mp hall
            refine .inl ?_
            rw [if_pos hc, List.mem_map]
            exact ⟨⟨text, [], rest⟩, ih.mpr ⟨rfl, hrest, htext⟩, rfl⟩

theorem mem_run_one :
    m ∈ run word (.one p) b s ↔ m.groups = [] ∧ ∃ c, p c ∧ m.text = [c] ∧ s = c :: m.rest := by
  obtain ⟨text, groups, rest⟩ := m
  cases s with
  | nil => simp [run]
  | cons d s =>
      by_cases hd : p d
      · rw [run, if_pos hd, List.mem_singleton, Found.mk.injEq]
        constructor
        · rintro ⟨rfl, rfl, rfl⟩
          exact ⟨rfl, d, hd, rfl, rfl⟩
        · rintro ⟨rfl, c, -, rfl, hsplit⟩
          obtain ⟨rfl, rfl⟩ := List.cons.inj hsplit
          exact ⟨rfl, rfl, rfl⟩
      · rw [run, if_neg hd]
        constructor
        · exact fun h => absurd h List.not_mem_nil
        · rintro ⟨-, c, hc, -, hsplit⟩
          obtain ⟨rfl, -⟩ := List.cons.inj hsplit
          exact absurd hc hd

theorem mem_run_seq :
    m ∈ run word (.seq r q) b s ↔ ∃ x ∈ run word r b s, ∃ y ∈ run word q (wordAfter word b x.text) x.rest,
      m = ⟨x.text ++ y.text, x.groups ++ y.groups, y.rest⟩ := by
  simp only [run, List.mem_flatMap, List.mem_map, eq_comm]

theorem mem_run_alt : m ∈ run word (.alt r q) b s ↔ m ∈ run word r b s ∨ m ∈ run word q b s := by
  rw [run, List.mem_append]

theorem mem_run_boundary :
    m ∈ run word .boundary b s ↔ b ≠ wordAhead word s ∧ m = ⟨[], [], s⟩ := by
  by_cases hsame : b = wordAhead word s
  · simp [run, hsame]
  · simp [run, hsame]

theorem mem_run_empty : m ∈ run word .empty b s ↔ m = ⟨[], [], s⟩ := by
  rw [run, List.mem_singleton]

theorem mem_run_group :
    m ∈ run word (.group r) b s ↔ ∃ x ∈ run word r b s, m = { x with groups := x.text :: x.groups } := by
  simp only [run, List.mem_map, eq_comm]

/-- **A reading is of the text** at its place. -/
theorem run_split (h : m ∈ run word r b s) : s = m.text ++ m.rest := by
  induction r generalizing b s m with
  | empty =>
      obtain rfl := mem_run_empty.mp h
      rfl
  | one p =>
      obtain ⟨-, c, -, htext, hsplit⟩ := mem_run_one.mp h
      rw [htext, hsplit, List.singleton_append]
  | many p => exact (mem_runMany.mp h).2.1
  | boundary =>
      obtain ⟨-, rfl⟩ := mem_run_boundary.mp h
      rfl
  | seq r q ihr ihq =>
      obtain ⟨x, hx, y, hy, rfl⟩ := mem_run_seq.mp h
      rw [ihr hx, ihq hy, List.append_assoc]
  | alt r q ihr ihq =>
      rcases mem_run_alt.mp h with h | h
      · exact ihr h
      · exact ihq h
  | group r ih =>
      obtain ⟨x, hx, rfl⟩ := mem_run_group.mp h
      have hx' := ih hx
      exact hx'

/-- A pattern that does not look around. -/
def Plain : Regex α → Prop
  | .boundary => False
  | .seq r q => r.Plain ∧ q.Plain
  | .alt r q => r.Plain ∧ q.Plain
  | .group r => r.Plain
  | _ => True

/-- **A plain pattern reads its text anywhere**, whatever comes before and after it. -/
theorem Plain.run_anywhere (hr : r.Plain) (h : m ∈ run word r b s) (b' : Bool) (rest : List α) :
    ⟨m.text, m.groups, rest⟩ ∈ run word r b' (m.text ++ rest) := by
  induction r generalizing b s m b' rest with
  | empty =>
      obtain rfl := mem_run_empty.mp h
      exact mem_run_empty.mpr rfl
  | one p =>
      obtain ⟨hgroups, c, hc, htext, -⟩ := mem_run_one.mp h
      exact mem_run_one.mpr ⟨hgroups, c, hc, htext, by rw [htext, List.singleton_append]⟩
  | many p =>
      obtain ⟨hgroups, -, hall⟩ := mem_runMany.mp h
      exact mem_runMany.mpr ⟨hgroups, rfl, hall⟩
  | boundary => cases hr
  | seq r q ihr ihq =>
      obtain ⟨x, hx, y, hy, rfl⟩ := mem_run_seq.mp h
      refine mem_run_seq.mpr ⟨⟨x.text, x.groups, y.text ++ rest⟩, ?_, ⟨y.text, y.groups, rest⟩,
        ihq hr.2 hy _ rest, rfl⟩
      show _ ∈ run word r b' ((x.text ++ y.text) ++ rest)
      rw [List.append_assoc]
      exact ihr hr.1 hx b' _
  | alt r q ihr ihq =>
      rcases mem_run_alt.mp h with h | h
      · exact mem_run_alt.mpr (.inl (ihr hr.1 h b' rest))
      · exact mem_run_alt.mpr (.inr (ihq hr.2 h b' rest))
  | group r ih =>
      obtain ⟨x, hx, rfl⟩ := mem_run_group.mp h
      exact mem_run_group.mpr ⟨_, ih hr hx b' rest, rfl⟩

theorem plain_literal {same : α → α → Bool} {w : List α} : (literal same w).Plain := by
  induction w with
  | nil => exact trivial
  | cons c w ih => exact ⟨trivial, ih⟩

/-- A literal reads a text that is the same as it, character by character. -/
theorem mem_run_literal {same : α → α → Bool} {w : List α} (h : m ∈ run word (literal same w) b s) :
    m.groups = [] ∧ List.Forall₂ (fun c d => same c d) w m.text := by
  induction w generalizing b s m with
  | nil =>
      obtain rfl := mem_run_empty.mp h
      exact ⟨rfl, .nil⟩
  | cons c w ih =>
      obtain ⟨x, hx, y, hy, rfl⟩ := mem_run_seq.mp h
      obtain ⟨hgroups, d, hd, htext, -⟩ := mem_run_one.mp hx
      obtain ⟨hgroups', hsame⟩ := ih hy
      show x.groups ++ y.groups = [] ∧ List.Forall₂ _ (c :: w) (x.text ++ y.text)
      rw [hgroups, hgroups', htext]
      exact ⟨rfl, .cons hd hsame⟩

/-! ## Matches -/

theorem first_mem (h : first word r b s = some m) : m ∈ run word r b s :=
  List.mem_of_mem_head? h

theorem first_isSome : (first word r b s).isSome ↔ ∃ m, m ∈ run word r b s := by
  rw [first, List.isSome_head?]
  cases run word r b s <;> simp

/-- **The match of a sequence** ends in the match of its second part, after some reading of the first. -/
theorem first_seq (h : first word (.seq r q) b s = some m) :
    ∃ x ∈ run word r b s, ∃ y, first word q (wordAfter word b x.text) x.rest = some y ∧
      m = ⟨x.text ++ y.text, x.groups ++ y.groups, y.rest⟩ := by
  unfold first run at h
  generalize run word r b s = found at h
  induction found with
  | nil => cases h
  | cons x found ih =>
      rw [List.flatMap_cons, List.head?_append] at h
      cases hy : first word q (wordAfter word b x.text) x.rest with
      | some y =>
          have hhead : (run word q (wordAfter word b x.text) x.rest).head? = some y := hy
          rw [List.head?_map, hhead, Option.map_some, Option.some_or] at h
          exact ⟨x, List.mem_cons_self, y, hy, (Option.some.inj h).symm⟩
      | none =>
          have hhead : (run word q (wordAfter word b x.text) x.rest).head? = none := hy
          rw [List.head?_map, hhead, Option.map_none, Option.none_or] at h
          obtain ⟨z, hz, hrest⟩ := ih h
          exact ⟨z, List.mem_cons_of_mem _ hz, hrest⟩

theorem first_group (h : first word (.group r) b s = some m) :
    ∃ x, first word r b s = some x ∧ m = { x with groups := x.text :: x.groups } := by
  unfold first run at h
  rw [List.head?_map, Option.map_eq_some_iff] at h
  obtain ⟨x, hx, rfl⟩ := h
  exact ⟨x, hx, rfl⟩

/-- **A repetition is greedy**: it stops only where no character of its class follows. -/
theorem first_many (h : first word (.many p) b s = some m) : ∀ c rest, m.rest = c :: rest → p c = false := by
  unfold first run at h
  induction s generalizing m with
  | nil =>
      obtain rfl : ⟨[], [], []⟩ = m := Option.some.inj h
      exact fun _ _ hrest => nomatch hrest
  | cons c s ih =>
      rw [runMany, List.head?_append] at h
      by_cases hc : p c
      · rw [if_pos hc, List.head?_map] at h
        cases hk : (runMany p s).head? with
        | none => cases s <;> simp [runMany] at hk
        | some k =>
            rw [hk, Option.map_some, Option.some_or] at h
            obtain rfl := Option.some.inj h
            have hstop := ih hk
            exact hstop
      · rw [if_neg hc] at h
        obtain rfl := Option.some.inj h
        intro d rest hrest
        obtain ⟨rfl, -⟩ := List.cons.inj hrest
        exact Bool.eq_false_iff.mpr hc

/-! ## Scans -/

theorem search_eq_false :
    search word r b s = false ↔ Nowhere word (fun b s => ∃ m, m ∈ run word r b s) b s := by
  induction s generalizing b with
  | nil => rw [search, Nowhere, ← first_isSome, Bool.not_eq_true]
  | cons c s ih => rw [search, Nowhere, ← first_isSome, Bool.or_eq_false_iff, ih, Bool.not_eq_true]

theorem subFrom_skip {f : Found α → List α} {x y : List α} :
    subFrom word r f b x.length (x ++ y) = subFrom word r f (wordAfter word b x) 0 y := by
  induction x generalizing b with
  | nil => rfl
  | cons c x ih => exact ih

theorem sub_nil {f : Found α → List α} : sub word r f b [] = [] := rfl

theorem sub_none {f : Found α → List α} {c : α} (h : first word r b (c :: s) = none) :
    sub word r f b (c :: s) = c :: sub word r f (word c) s := by
  simp only [sub, subFrom, h]

/-- **A match is replaced**, and the scan goes on after it. -/
theorem sub_some {f : Found α → List α} (h : first word r b s = some m) (hne : m.text ≠ []) :
    sub word r f b s = f m ++ sub word r f (wordAfter word b m.text) m.rest := by
  have hsplit := run_split (first_mem h)
  obtain ⟨c, x, htext⟩ := List.exists_cons_of_ne_nil hne
  rw [htext] at hsplit
  rw [List.cons_append] at hsplit
  subst hsplit
  simp only [sub, subFrom, h, htext, List.length_cons, Nat.add_sub_cancel]
  rw [subFrom_skip]
  rfl

end Regex

end WeFlow
