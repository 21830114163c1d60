import Mathlib.Data.List.Perm.Lattice
import Mathlib.Data.List.Sort
import Mathlib.Data.Prod.Lex
import WeFlow.Base.Table

/-!
# `Reorder` — the rows of a table in another order

A table that is written out and read back holds the same rows, in the order in which they were written
out. What a query returns then depends on the order only where the query does: a lookup on a key does
not, an ordered query does not either as long as the order tells its rows apart.

## Contents

* `insertAll?` — a list of rows inserted one after another.
* `Distinct.perm`, `find?_perm`, `upsert_perm` — constraints, lookups and writes.
* `insertionSort_perm`, `map_insertionSort_perm`, `foldlM_perm_sorted` — ordered queries.
-/

namespace WeFlow.Table

variable {ρ : Type}

/-! ## Reading a table back -/

/-- The rows, inserted one after another. -/
def insertAll? (clash : ρ → ρ → Bool) (rows t : List ρ) : Option (List ρ) :=
  rows.foldlM (fun t r => insert? clash r t) t

/-- **Rows can be inserted exactly when none of them clash.** -/
theorem insertAll?_eq_some {clash : ρ → ρ → Bool} {rows t t' : List ρ} (ht : Distinct clash t) :
    insertAll? clash rows t = some t' ↔ Distinct clash (t ++ rows) ∧ t' = t ++ rows := by
  induction rows generalizing t with
  | nil =>
      rw [List.append_nil]
      constructor
      · intro h
        exact ⟨ht, (Option.some.inj h).symm⟩
      · rintro ⟨-, rfl⟩
        rfl
  | cons r rows ih =>
      have hfold : insertAll? clash (r :: rows) t = (insert? clash r t).bind (insertAll? clash rows) :=
        List.foldlM_cons
      rw [hfold, Option.bind_eq_some_iff]
      constructor
      · rintro ⟨t₁, hinsert, hrest⟩
        have ht₁ := ht.insert hinsert
        obtain ⟨-, rfl⟩ := insert?_eq_some.mp hinsert
        have hall := (ih ht₁).mp hrest
        rwa [List.append_assoc, List.singleton_append] at hall
      · rintro ⟨hall, rfl⟩
        have hr : ∀ x ∈ t, clash r x = false :=
          fun x hx => (List.pairwise_append.mp hall).2.2 x hx r List.mem_cons_self
        refine ⟨t ++ [r], insert?_eq_some.mpr ⟨hr, rfl⟩, (ih (ht.append_one hr)).mpr ?_⟩
        rw [List.append_assoc, List.singleton_append]
        exact ⟨hall, rfl⟩

theorem insertAll?_nil_eq_some {clash : ρ → ρ → Bool} {rows t : List ρ} :
    insertAll? clash rows [] = some t ↔ Distinct clash rows ∧ t = rows := by
  rw [insertAll?_eq_some (distinct_nil clash), List.nil_append]

/-! ## Constraints and lookups -/

theorem Distinct.perm {clash : ρ → ρ → Bool} {t t' : List ρ} (hsymm : ∀ a b, clash a b = clash b a)
    (h : Distinct clash t) (hperm : t.Perm t') : Distinct clash t' := by
  refine (hperm.pairwise_iff fun {a b} hab => ?_).mp h
  rw [hsymm]
  exact hab

/-- A lookup that at most one row matches. -/
theorem find?_perm {p : ρ → Bool} {t t' : List ρ} (hperm : t.Perm t')
    (hone : ∀ a ∈ t, ∀ b ∈ t, p a = true → p b = true → a = b) : t.find? p = t'.find? p := by
  cases hfound : t.find? p with
  | none =>
      refine (List.find?_eq_none.mpr fun x hx => ?_).symm
      exact List.find?_eq_none.mp hfound x (hperm.mem_iff.mpr hx)
  | some a =>
      have ha := List.mem_of_find?_eq_some hfound
      have hpa := List.find?_some hfound
      cases hfound' : t'.find? p with
      | none => exact absurd hpa (List.find?_eq_none.mp hfound' a (hperm.mem_iff.mp ha))
      | some b =>
          have hb := hperm.mem_iff.mpr (List.mem_of_find?_eq_some hfound')
          rw [hone a ha b hb hpa (List.find?_some hfound')]

/-- A lookup on what no two rows share. -/
theorem Distinct.find?_perm {clash : ρ → ρ → Bool} {p : ρ → Bool} {t t' : List ρ} (h : Distinct clash t)
    (hsymm : ∀ a b, clash a b = clash b a) (hperm : t.Perm t')
    (hp : ∀ a b, p a = true → p b = true → clash a b = true) : t.find? p = t'.find? p :=
  Table.find?_perm hperm fun a ha b hb hpa hpb => h.eq_of_clash hsymm ha hb (hp a b hpa hpb)

/-! ## Writes -/

theorem any_perm {p : ρ → Bool} {t t' : List ρ} (hperm : t.Perm t') : t.any p = t'.any p := by
  rw [Bool.eq_iff_iff, List.any_eq_true, List.any_eq_true]
  exact exists_congr fun x => and_congr_left fun _ => hperm.mem_iff

theorem upsert_perm {κ : Type} [DecidableEq κ] (key : ρ → κ) (merge : ρ → ρ → ρ) (r : ρ) {t t' : List ρ}
    (hperm : t.Perm t') : (upsert key merge r t).Perm (upsert key merge r t') := by
  unfold upsert
  rw [any_perm hperm]
  by_cases h : t'.any (fun x => key x = key r) = true
  · rw [if_pos h, if_pos h]
    exact hperm.map _
  · rw [if_neg h, if_neg h]
    exact hperm.append_right _

/-- An upsert writes no key twice. -/
theorem nodup_keys_upsert {κ : Type} [DecidableEq κ] {key : ρ → κ} {merge : ρ → ρ → ρ} {r : ρ} {t : List ρ}
    (hmerge : ∀ x, key (merge x r) = key x) (h : (t.map key).Nodup) :
    ((upsert key merge r t).map key).Nodup := by
  unfold upsert
  by_cases hany : t.any (fun x => key x = key r) = true
  · have hkeys : (modify (fun x => key x = key r) (merge · r) t).map key = t.map key := by
      unfold modify
      rw [List.map_map]
      refine List.map_congr_left fun x _ => ?_
      show key (if decide (key x = key r) = true then merge x r else x) = key x
      split_ifs
      · exact hmerge x
      · rfl
    rw [if_pos hany, hkeys]
    exact h
  · rw [if_neg hany, List.map_append, List.map_singleton]
    refine h.append (List.nodup_singleton _) fun k hk hr => hany ?_
    obtain ⟨x, hx, hkey⟩ := List.mem_map.mp hk
    rw [List.mem_singleton.mp hr] at hkey
    exact List.any_eq_true.mpr ⟨x, hx, decide_eq_true hkey⟩

/-! ## Ordered queries -/

section Sorted

variable {κ : Type} [LinearOrder κ] {key : ρ → κ}

theorem sorted_insertionSort (key : ρ → κ) (t : List ρ) :
    (t.insertionSort fun a b => key a ≤ key b).Pairwise fun a b => key a ≤ key b := by
  have htotal : Std.Total fun a b : ρ => key a ≤ key b := ⟨fun a b => le_total (key a) (key b)⟩
  have htrans : IsTrans ρ fun a b => key a ≤ key b := ⟨fun _ _ _ => le_trans⟩
  exact List.pairwise_insertionSort _ t

/-- The order tells the rows apart, so it decides where each of them stands. -/
theorem insertionSort_perm {t t' : List ρ} (hperm : t.Perm t')
    (hkey : ∀ a ∈ t, ∀ b ∈ t, key a = key b → a = b) :
    t.insertionSort (fun a b => key a ≤ key b) = t'.insertionSort fun a b => key a ≤ key b := by
  have hsorts : (t.insertionSort fun a b => key a ≤ key b).Perm (t'.insertionSort fun a b => key a ≤ key b) :=
    (List.perm_insertionSort _ t).trans (hperm.trans (List.perm_insertionSort _ t').symm)
  refine hsorts.eq_of_pairwise (fun a b ha hb hab hba => ?_) (sorted_insertionSort key t)
    (sorted_insertionSort key t')
  have ha' := (List.perm_insertionSort _ t).mem_iff.mp ha
  have hb' := hperm.mem_iff.mpr ((List.perm_insertionSort _ t').mem_iff.mp hb)
  exact hkey a ha' b hb' (le_antisymm hab hba)

/-- In general it decides the sequence of the keys. -/
theorem map_insertionSort_perm {t t' : List ρ} (hperm : t.Perm t') :
    (t.insertionSort fun a b => key a ≤ key b).map key =
      (t'.insertionSort fun a b => key a ≤ key b).map key := by
  have hmap : ∀ l : List ρ, (l.insertionSort fun a b => key a ≤ key b).map key =
      (l.map key).insertionSort (· ≤ ·) := by
    intro l
    exact List.map_insertionSort (r := fun a b => key a ≤ key b) (s := (· ≤ ·)) key l fun _ _ _ _ => Iff.rfl
  rw [hmap, hmap]
  have hsorts := (List.perm_insertionSort (· ≤ ·) (t.map key)).trans
    ((hperm.map key).trans (List.perm_insertionSort (· ≤ ·) (t'.map key)).symm)
  exact hsorts.eq_of_pairwise (fun a b _ _ hab hba => le_antisymm hab hba)
    (List.pairwise_insertionSort _ _) (List.pairwise_insertionSort _ _)

/-- A loop over an ordered query that reads the keys alone. -/
theorem foldlM_perm_sorted {σ ε : Type} {f : σ → ρ → Except ε σ}
    (hf : ∀ a b, key a = key b → ∀ x, f x a = f x b) {t t' : List ρ} (hperm : t.Perm t') (x : σ) :
    (t.insertionSort fun a b => key a ≤ key b).foldlM f x =
      (t'.insertionSort fun a b => key a ≤ key b).foldlM f x := by
  have hkeys : ∀ {l l' : List ρ}, l.map key = l'.map key → ∀ x, l.foldlM f x = l'.foldlM f x := by
    intro l
    induction l with
    | nil =>
        intro l' h x
        rw [List.map_eq_nil_iff.mp h.symm]
    | cons a l ih =>
        intro l' h x
        cases l' with
        | nil => exact absurd h (by simp)
        | cons b l' =>
            rw [List.map_cons, List.map_cons, List.cons.injEq] at h
            rw [List.foldlM_cons, List.foldlM_cons, hf a b h.1]
            congr 1
            funext y
            exact ih h.2 y
  exact hkeys (map_insertionSort_perm hperm) x

end Sorted

end WeFlow.Table
