import Mathlib.Data.List.Pairwise
import Mathlib.Data.List.Sort

/-!
# `Table` — append-only tables with uniqueness constraints

A table is the list of its rows in insertion order. `insert?` is an `INSERT` under the table's
uniqueness constraints, given as one relation `clash` that says when two rows may not both be stored;
`modify` is an `UPDATE … WHERE`. Rows are otherwise only ever appended, so a fact about all pairs of
rows (`Distinct`) is kept by each insertion on its own.

## Contents

* `insert?`, `insert?_eq_some` — when an insertion goes through and what it leaves.
* `Distinct`, `Distinct.insert` — the constraint as an invariant of the whole table.
* `Distinct.eq_of_clash` — rows that clash are the same row.
* `insertionSort_append_last`, `le_getLast?_insertionSort` — an ordered query and its last row.
* `modify`, `upsert`, `find?_upsert` — updates in place, and what a key holds after an upsert.
-/

namespace WeFlow.Table

variable {ρ : Type}

/-- `INSERT INTO t`: refused when a stored row clashes with the new one. -/
def insert? (clash : ρ → ρ → Bool) (r : ρ) (t : List ρ) : Option (List ρ) :=
  if t.any (clash r) then none else some (t ++ [r])

theorem insert?_eq_some {clash : ρ → ρ → Bool} {r : ρ} {t t' : List ρ} :
    insert? clash r t = some t' ↔ (∀ x ∈ t, clash r x = false) ∧ t' = t ++ [r] := by
  unfold insert?
  by_cases h : t.any (clash r) = true
  · rw [if_pos h]
    obtain ⟨x, hx, hc⟩ := List.any_eq_true.mp h
    refine ⟨fun hn => by simp at hn, fun ⟨hall, _⟩ => ?_⟩
    simp [hall x hx] at hc
  · rw [if_neg h]
    have hall : ∀ x ∈ t, clash r x = false := by
      intro x hx
      by_contra hc
      exact h (List.any_eq_true.mpr ⟨x, hx, by simpa using hc⟩)
    refine ⟨fun he => ⟨hall, (Option.some.inj he).symm⟩, fun ⟨_, he⟩ => by rw [he]⟩

theorem insert?_eq_none {clash : ρ → ρ → Bool} {r : ρ} {t : List ρ} :
    insert? clash r t = none ↔ ∃ x ∈ t, clash r x = true := by
  simp [insert?]

/-- No two rows of the table clash. -/
def Distinct (clash : ρ → ρ → Bool) (t : List ρ) : Prop :=
  t.Pairwise fun a b => clash b a = false

@[simp] theorem distinct_nil (clash : ρ → ρ → Bool) : Distinct clash [] := List.Pairwise.nil

theorem Distinct.append_one {clash : ρ → ρ → Bool} {t : List ρ} {r : ρ} (h : Distinct clash t)
    (hr : ∀ x ∈ t, clash r x = false) : Distinct clash (t ++ [r]) := by
  refine List.pairwise_append.mpr ⟨h, List.pairwise_singleton _ _, ?_⟩
  intro a ha b hb
  rw [List.mem_singleton.mp hb]
  exact hr a ha

/-- **An insertion keeps the constraint.** -/
theorem Distinct.insert {clash : ρ → ρ → Bool} {t t' : List ρ} {r : ρ} (h : Distinct clash t)
    (hi : insert? clash r t = some t') : Distinct clash t' := by
  obtain ⟨hr, rfl⟩ := insert?_eq_some.mp hi
  exact h.append_one hr

/-- **Rows that clash are one row**, for a clash relation that is symmetric. -/
theorem Distinct.eq_of_clash {clash : ρ → ρ → Bool} {t : List ρ} (h : Distinct clash t)
    (hsymm : ∀ a b, clash a b = clash b a) {a b : ρ} (ha : a ∈ t) (hb : b ∈ t)
    (hc : clash a b = true) : a = b := by
  by_contra hne
  have : Std.Symm fun x y => clash y x = false := ⟨fun x y hxy => by rw [hsymm]; exact hxy⟩
  have hba : clash a b = false := h.forall hb ha (Ne.symm hne)
  simp [hba] at hc

theorem Distinct.nodup {clash : ρ → ρ → Bool} {t : List ρ} (h : Distinct clash t)
    (hrefl : ∀ a, clash a a = true) : t.Nodup := by
  refine h.imp fun {a b} hab heq => ?_
  rw [heq, hrefl] at hab
  exact Bool.noConfusion hab

/-- A key that no two rows share finds its row. -/
theorem Distinct.find?_key {κ : Type} [DecidableEq κ] {clash : ρ → ρ → Bool} {key : ρ → κ} {t : List ρ}
    (h : Distinct clash t) (hsymm : ∀ a b, clash a b = clash b a)
    (hkey : ∀ a b, key a = key b → clash a b = true) {x : ρ} (hx : x ∈ t) :
    t.find? (fun r => key r = key x) = some x := by
  cases hfound : t.find? fun r => key r = key x with
  | none => exact absurd (decide_eq_true rfl) (List.find?_eq_none.mp hfound x hx)
  | some y =>
      have hy := List.find?_some hfound
      rw [decide_eq_true_eq] at hy
      rw [h.eq_of_clash hsymm (List.mem_of_find?_eq_some hfound) hx (hkey y x hy)]

/-- A row is found by a property that it shares with no other row. -/
theorem Distinct.find?_eq_some {clash : ρ → ρ → Bool} {p : ρ → Bool} {t : List ρ} (h : Distinct clash t)
    (hsymm : ∀ a b, clash a b = clash b a) {x : ρ} (hx : x ∈ t) (hp : p x = true)
    (hclash : ∀ y ∈ t, p y = true → clash y x = true) : t.find? p = some x := by
  cases hfound : t.find? p with
  | none => exact absurd hp (List.find?_eq_none.mp hfound x hx)
  | some y =>
      have hy := List.mem_of_find?_eq_some hfound
      rw [h.eq_of_clash hsymm hy hx (hclash y hy (List.find?_some hfound))]

/-- At most one row has a property that no two rows share. -/
theorem Distinct.filter_le_one {clash : ρ → ρ → Bool} {p : ρ → Bool} {t : List ρ} (h : Distinct clash t)
    (hp : ∀ a ∈ t, ∀ b ∈ t, p a = true → p b = true → clash a b = true) : (t.filter p).length ≤ 1 := by
  have hpairwise : Distinct clash (t.filter p) := h.filter p
  match hrows : t.filter p with
  | [] | [_] => simp
  | a :: b :: rest =>
      rw [hrows] at hpairwise
      have hclash := (List.pairwise_cons.mp hpairwise).1 b (by simp)
      have hmem : ∀ x ∈ a :: b :: rest, x ∈ t ∧ p x = true := fun x hx => List.mem_filter.mp (hrows ▸ hx)
      have ha := hmem a (by simp)
      have hb := hmem b (by simp)
      rw [hp b hb.1 a ha.1 hb.2 ha.2] at hclash
      cases hclash

/-- …as is a key that rows clash by. -/
theorem Distinct.filter_key_le_one {clash : ρ → ρ → Bool} {p : ρ → Bool} {t : List ρ}
    (h : Distinct clash t) (hp : ∀ a b, p a = true → p b = true → clash a b = true) :
    (t.filter p).length ≤ 1 :=
  h.filter_le_one fun a _ b _ => hp a b

/-- A row of a table of at most one row is all of it. -/
theorem eq_singleton {t : List ρ} {x : ρ} (hx : x ∈ t) (ht : t.length ≤ 1) : t = [x] := by
  obtain ⟨y, rfl⟩ := List.length_eq_one_iff.mp (Nat.le_antisymm ht (List.length_pos_of_mem hx))
  rw [List.mem_singleton.mp hx]

/-- `UPDATE t SET … WHERE p`. -/
def modify (p : ρ → Bool) (f : ρ → ρ) (t : List ρ) : List ρ :=
  t.map fun r => if p r then f r else r

theorem mem_modify {p : ρ → Bool} {f : ρ → ρ} {t : List ρ} {x : ρ} :
    x ∈ modify p f t ↔ ∃ r ∈ t, (if p r then f r else r) = x := by
  simp [modify]

/-- Two updates of the same rows. -/
theorem modify_modify {p : ρ → Bool} {f g : ρ → ρ} {t : List ρ} (hp : ∀ r, p (f r) = p r) :
    modify p g (modify p f t) = modify p (g ∘ f) t := by
  unfold modify
  rw [List.map_map]
  refine List.map_congr_left fun r _ => ?_
  by_cases hr : p r = true
  · simp [hr, hp]
  · simp [hr]

/-- A query of updated rows that the update does not concern. -/
theorem find?_modify {p q : ρ → Bool} {f : ρ → ρ} (hq : ∀ r, q (f r) = q r) (t : List ρ) :
    (modify p f t).find? q = (t.find? q).map fun r => if p r then f r else r := by
  have hcomp : (q ∘ fun r => if p r then f r else r) = q := by
    funext r
    by_cases hr : p r = true
    · simp [hr, hq]
    · simp [hr]
  rw [modify, List.find?_map, hcomp]

/-! ## Queries after an insertion -/

theorem filter_append_other {p : ρ → Bool} {rows new : List ρ} (h : ∀ r ∈ new, p r = false) :
    (rows ++ new).filter p = rows.filter p := by
  have hnew : new.filter p = [] := List.filter_eq_nil_iff.mpr (by simpa using h)
  rw [List.filter_append, hnew, List.append_nil]

theorem filter_append_new {p : ρ → Bool} {rows new : List ρ} (hold : ∀ r ∈ rows, p r = false)
    (hnew : ∀ r ∈ new, p r = true) : (rows ++ new).filter p = new := by
  have hrows : rows.filter p = [] := List.filter_eq_nil_iff.mpr (by simpa using hold)
  rw [List.filter_append, hrows, List.filter_eq_self.mpr hnew, List.nil_append]

/-- A query that one row of the table matches, and no other, returns this row once. -/
theorem filter_eq_singleton {l : List ρ} {p : ρ → Bool} {a : ρ} (hnodup : (l.filter p).Nodup)
    (ha : a ∈ l) (hp : p a = true) (hall : ∀ b ∈ l, p b = true → b = a) : l.filter p = [a] := by
  have hmem : ∀ b, b ∈ l.filter p ↔ b ∈ [a] := by
    intro b
    rw [List.mem_filter, List.mem_singleton]
    exact ⟨fun h => hall b h.1 h.2, fun h => h ▸ ⟨ha, hp⟩⟩
  exact List.perm_singleton.mp ((List.perm_ext_iff_of_nodup hnodup (List.nodup_singleton a)).mpr hmem)

/-! ## Ordered queries -/

section Ordered

variable (r : ρ → ρ → Prop) [DecidableRel r]

theorem orderedInsert_append_last {a x : ρ} (h : r a x) (l : List ρ) :
    (l ++ [x]).orderedInsert r a = l.orderedInsert r a ++ [x] := by
  induction l with
  | nil => simp [h]
  | cons b l ih =>
      by_cases hab : r a b
      · simp [hab]
      · simp [hab, ih]

/-- A row that sorts after all others is the last row of an ordered query. -/
theorem insertionSort_append_last {x : ρ} {l : List ρ} (h : ∀ a ∈ l, r a x) :
    (l ++ [x]).insertionSort r = l.insertionSort r ++ [x] := by
  induction l with
  | nil => simp
  | cons a l ih =>
      have hl : ∀ b ∈ l, r b x := fun b hb => h b (List.mem_cons_of_mem _ hb)
      rw [List.cons_append, List.insertionSort_cons, ih hl,
        orderedInsert_append_last r (h a (by simp)), List.insertionSort_cons]

/-- No row sorts after the last one of an ordered query. -/
theorem le_getLast?_insertionSort [Std.Total r] [IsTrans ρ r] {l : List ρ} {x y : ρ}
    (hlast : (l.insertionSort r).getLast? = some y) (hx : x ∈ l) : r x y := by
  have hsorted := List.pairwise_insertionSort r l
  obtain ⟨init, hinit⟩ := List.getLast?_eq_some_iff.mp hlast
  have hmem : x ∈ init ++ [y] := hinit ▸ (List.mem_insertionSort r).mpr hx
  rw [hinit] at hsorted
  rcases List.mem_append.mp hmem with hx' | hx'
  · exact (List.pairwise_append.mp hsorted).2.2 x hx' y (by simp)
  · rw [List.mem_singleton.mp hx']
    exact (Std.Total.total (r := r) y y).elim id id

end Ordered

/-! ## Upserts on a key -/

variable {κ : Type} [DecidableEq κ]

/-- `INSERT … ON CONFLICT (key) DO UPDATE`: the stored row with the new row's key becomes
    `merge old new`; without one the new row is appended. -/
def upsert (key : ρ → κ) (merge : ρ → ρ → ρ) (r : ρ) (t : List ρ) : List ρ :=
  if t.any (fun x => key x = key r) then modify (fun x => key x = key r) (merge · r) t
  else t ++ [r]

theorem find?_modify_key {key : ρ → κ} {f : ρ → ρ} (hf : ∀ x, key (f x) = key x) (k k' : κ)
    (t : List ρ) :
    (modify (fun x => key x = k) f t).find? (fun x => key x = k') =
      if k = k' then (t.find? fun x => key x = k').map f else t.find? fun x => key x = k' := by
  induction t with
  | nil => simp [modify]
  | cons x t ih =>
      rw [show modify (fun x => key x = k) f (x :: t) =
        (if key x = k then f x else x) :: modify (fun x => key x = k) f t by simp [modify]]
      by_cases hx : key x = k <;> by_cases hk : k = k' <;>
        by_cases hx' : key x = k' <;> simp_all

/-- **What a key holds after an upsert.** -/
theorem find?_upsert {key : ρ → κ} {merge : ρ → ρ → ρ} (hm : ∀ x r, key (merge x r) = key x) (r : ρ)
    (t : List ρ) (k : κ) :
    (upsert key merge r t).find? (fun x => key x = k) =
      if key r = k then some ((t.find? fun x => key x = k).elim r (merge · r))
      else t.find? fun x => key x = k := by
  unfold upsert
  by_cases hany : t.any (fun x => key x = key r) = true
  · rw [if_pos hany, find?_modify_key (fun x => hm x r)]
    by_cases hk : key r = k
    · subst hk
      obtain ⟨x, hx⟩ : ∃ x, t.find? (fun x => key x = key r) = some x :=
        Option.isSome_iff_exists.mp (by simpa [List.find?_isSome] using hany)
      simp [hx]
    · simp [hk]
  · rw [if_neg hany, List.find?_append]
    have hnone : t.find? (fun x => key x = key r) = none := by
      simpa [List.find?_eq_none] using hany
    by_cases hk : key r = k
    · subst hk; simp [hnone]
    · simp [hk]

/-! ## Restricting a table -/

/-- Inserting into the rows of one kind. -/
theorem insert?_filter {clash : ρ → ρ → Bool} {p : ρ → Bool} {r : ρ} {t : List ρ} (hr : p r = true)
    (hclash : ∀ x, clash r x = true → p x = true) :
    insert? clash r (t.filter p) = (insert? clash r t).map (·.filter p) := by
  have hany : (t.filter p).any (clash r ·) = t.any (clash r ·) := by
    rw [Bool.eq_iff_iff, List.any_eq_true, List.any_eq_true]
    constructor
    · rintro ⟨x, hx, hc⟩
      exact ⟨x, (List.mem_filter.mp hx).1, hc⟩
    · rintro ⟨x, hx, hc⟩
      exact ⟨x, List.mem_filter.mpr ⟨hx, hclash x hc⟩, hc⟩
  unfold insert?
  rw [hany]
  by_cases h : t.any (clash r ·) = true
  · simp [h]
  · simp [h, List.filter_append, hr]

/-- A query of the rows of one kind that only they match. -/
theorem find?_filter_of_imp {p q : ρ → Bool} (h : ∀ r, q r = true → p r = true) (t : List ρ) :
    (t.filter p).find? q = t.find? q := by
  rw [List.find?_filter]
  congr 1
  funext r
  cases hq : q r with
  | false => simp
  | true => simp [h r hq]

/-- An update of rows of one kind. -/
theorem filter_modify {p q : ρ → Bool} {f : ρ → ρ} (hf : ∀ r, q r = true → p (f r) = p r) (t : List ρ) :
    (modify q f t).filter p = modify q f (t.filter p) := by
  unfold modify
  rw [List.filter_map]
  congr 2
  funext r
  by_cases hq : q r = true
  · simp [hq, hf r hq]
  · simp [hq]

/-- An update of rows of another kind. -/
theorem filter_modify_other {p q : ρ → Bool} {f : ρ → ρ} (hq : ∀ r, q r = true → p r = false)
    (hf : ∀ r, q r = true → p (f r) = false) (t : List ρ) : (modify q f t).filter p = t.filter p := by
  rw [filter_modify (fun r h => (hf r h).trans (hq r h).symm)]
  unfold modify
  conv_rhs => rw [← List.map_id (t.filter p)]
  refine List.map_congr_left fun r hr => if_neg fun h => ?_
  have hkeep := (List.mem_filter.mp hr).2
  rw [hq r h] at hkeep
  cases hkeep

/-- An upsert among the rows of one kind. -/
theorem filter_upsert {key : ρ → κ} {merge : ρ → ρ → ρ} {p : ρ → Bool} {r : ρ} {t : List ρ}
    (hkey : ∀ x, key x = key r → p x = p r) (hmerge : ∀ x, key x = key r → p (merge x r) = p x) :
    (upsert key merge r t).filter p = if p r then upsert key merge r (t.filter p) else t.filter p := by
  have hmodify : (modify (fun x => key x = key r) (merge · r) t).filter p =
      modify (fun x => key x = key r) (merge · r) (t.filter p) :=
    filter_modify (fun x hx => hmerge x (by simpa using hx)) t
  by_cases hr : p r = true
  · have hany : (t.filter p).any (fun x => key x = key r) = t.any (fun x => key x = key r) := by
      rw [Bool.eq_iff_iff, List.any_eq_true, List.any_eq_true]
      constructor
      · rintro ⟨x, hx, hc⟩
        exact ⟨x, (List.mem_filter.mp hx).1, hc⟩
      · rintro ⟨x, hx, hc⟩
        exact ⟨x, List.mem_filter.mpr ⟨hx, (hkey x (by simpa using hc)).trans hr⟩, hc⟩
    rw [if_pos hr]
    unfold upsert
    rw [hany]
    by_cases h : t.any (fun x => key x = key r) = true
    · rw [if_pos h, if_pos h, hmodify]
    · rw [if_neg h, if_neg h, List.filter_append, List.filter_cons_of_pos hr, List.filter_nil]
  · rw [if_neg hr]
    unfold upsert
    by_cases h : t.any (fun x => key x = key r) = true
    · rw [if_pos h]
      refine filter_modify_other (fun x hx => ?_) (fun x hx => ?_) t
      · rw [hkey x (by simpa using hx)]
        exact Bool.eq_false_iff.mpr hr
      · have hx : key x = key r := by simpa using hx
        rw [hmerge x hx, hkey x hx]
        exact Bool.eq_false_iff.mpr hr
    · rw [if_neg h, List.filter_append, List.filter_cons_of_neg hr, List.filter_nil, List.append_nil]

end WeFlow.Table
