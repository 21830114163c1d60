import Mathlib.Algebra.Group.Nat.Defs
import Mathlib.Data.List.Basic
import Mathlib.Order.Basic

/-!
# `Decimal` — numerals of a fixed width

A number written with leading zeros to a fixed width. Texts of one width compare as their numbers do, and a
text made of several such parts compares part by part.

## Contents

* `padded` — the numeral of a given width.
* `padded_lt_padded` — two numerals of one width compare as the numbers.
* `append_lt_append` — texts whose first parts have one length compare by the first parts, then the rests.
-/

namespace WeFlow

/-- `f"{n:0{w}d}"` for a number of at most `w` digits. -/
def padded : Nat → Nat → List Char
  | 0, _ => []
  | w + 1, n => padded w (n / 10) ++ [Nat.digitChar (n % 10)]

@[simp] theorem length_padded (w n : Nat) : (padded w n).length = w := by
  induction w generalizing n with
  | zero => rfl
  | succ w ih =>
    rw [padded, List.length_append, ih]
    rfl

/-- Texts whose first parts have one length compare by the first parts, then by the rests. -/
theorem append_lt_append {a b c d : List Char} (hlength : a.length = b.length) :
    a ++ c < b ++ d ↔ a < b ∨ (a = b ∧ c < d) := by
  induction a generalizing b with
  | nil =>
    have hb : b = [] := List.length_eq_zero_iff.mp hlength.symm
    subst hb
    simp
  | cons x a ih =>
    cases b with
    | nil => simp at hlength
    | cons y b =>
      have hrest : a.length = b.length := by
        simpa using hlength
      rw [List.cons_append, List.cons_append, List.cons_lt_cons_iff, List.cons_lt_cons_iff, ih hrest,
        List.cons.injEq]
      constructor
      · rintro (hxy | ⟨rfl, hab | ⟨rfl, hcd⟩⟩)
        · exact .inl (.inl hxy)
        · exact .inl (.inr ⟨rfl, hab⟩)
        · exact .inr ⟨⟨rfl, rfl⟩, hcd⟩
      · rintro ((hxy | ⟨rfl, hab⟩) | ⟨⟨rfl, rfl⟩, hcd⟩)
        · exact .inl hxy
        · exact .inr ⟨rfl, .inl hab⟩
        · exact .inr ⟨rfl, .inr ⟨rfl, hcd⟩⟩

/-- The ten digits compare as their values. -/
theorem digitChar_lt {i j : Nat} (hi : i < 10) (hj : j < 10) : Nat.digitChar i < Nat.digitChar j ↔ i < j := by
  have hall : ∀ i j : Fin 10, Nat.digitChar i.val < Nat.digitChar j.val ↔ i.val < j.val := by
    decide
  exact hall ⟨i, hi⟩ ⟨j, hj⟩

theorem digitChar_inj {i j : Nat} (hi : i < 10) (hj : j < 10) : Nat.digitChar i = Nat.digitChar j ↔ i = j := by
  have hall : ∀ i j : Fin 10, Nat.digitChar i.val = Nat.digitChar j.val ↔ i.val = j.val := by
    decide
  exact hall ⟨i, hi⟩ ⟨j, hj⟩

/-- Two numerals of one width are the same text when they are numerals of the same number. -/
theorem padded_inj {w n m : Nat} (hn : n < 10 ^ w) (hm : m < 10 ^ w) : padded w n = padded w m ↔ n = m := by
  induction w generalizing n m with
  | zero =>
    simp only [Nat.pow_zero] at hn hm
    simp only [padded, true_iff]
    omega
  | succ w ih =>
    have hn' : n / 10 < 10 ^ w := by
      rw [Nat.pow_succ] at hn
      omega
    have hm' : m / 10 < 10 ^ w := by
      rw [Nat.pow_succ] at hm
      omega
    have hlast := digitChar_inj (Nat.mod_lt n (by decide : 10 > 0)) (Nat.mod_lt m (by decide : 10 > 0))
    constructor
    · intro heq
      obtain ⟨hinit, hdigit⟩ := List.append_inj' heq rfl
      have hquot := (ih hn' hm').mp hinit
      have hrem := hlast.mp (List.cons.inj hdigit).1
      omega
    · rintro rfl
      rfl

/-- Two numerals of one width compare as the numbers. -/
theorem padded_lt_padded {w n m : Nat} (hn : n < 10 ^ w) (hm : m < 10 ^ w) :
    padded w n < padded w m ↔ n < m := by
  induction w generalizing n m with
  | zero =>
    simp only [Nat.pow_zero] at hn hm
    simp only [padded, List.lt_irrefl, false_iff]
    omega
  | succ w ih =>
    have hn' : n / 10 < 10 ^ w := by
      rw [Nat.pow_succ] at hn
      omega
    have hm' : m / 10 < 10 ^ w := by
      rw [Nat.pow_succ] at hm
      omega
    have hlast := digitChar_lt (Nat.mod_lt n (by decide : 10 > 0)) (Nat.mod_lt m (by decide : 10 > 0))
    rw [padded, padded, append_lt_append (by simp), ih hn' hm', padded_inj hn' hm', List.cons_lt_cons_iff, hlast]
    simp only [List.lt_irrefl, and_false, or_false]
    omega

theorem cons_lt_cons_self (c : Char) (xs ys : List Char) : c :: xs < c :: ys ↔ xs < ys := by
  rw [List.cons_lt_cons_iff]
  simp

/-- Texts that compare as numbers do are the same where the numbers are. -/
theorem text_eq_iff {xs ys : List Char} {n m : Nat} (hlt : xs < ys ↔ n < m) (hgt : ys < xs ↔ m < n) :
    xs = ys ↔ n = m := by
  constructor
  · rintro rfl
    have hself : ¬ xs < xs := List.lt_irrefl xs
    have := mt hlt.mpr hself
    have := mt hgt.mpr hself
    omega
  · rintro rfl
    have h1 : ¬ xs < ys := mt hlt.mp (Nat.lt_irrefl _)
    have h2 : ¬ ys < xs := mt hgt.mp (Nat.lt_irrefl _)
    exact List.le_antisymm h2 h1

end WeFlow
