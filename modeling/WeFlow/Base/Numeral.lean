import Mathlib.Data.Nat.Digits.Lemmas

/-!
# `Numeral` — numbers written in decimal, and what `int` reads

A numeral is a positive number written without a sign, a leading zero or anything between its digits. Python's
`int` reads more than that, and not the longest of them.

## Contents

* `IsNumeral`, `decimalValue`, `numeral` — the numerals, what they say, and the numeral of a number.
* `pyInt` — the number that `int` reads.
* `pyInt_of_isNumeral` — `int` reads every numeral of at most `maxStrDigits` digits.
-/

namespace WeFlow

def digitValue (c : Char) : Nat := c.toNat - '0'.toNat

/-- The number that the digits say, the most significant one first. -/
def decimalValue (w : List Char) : Nat := Nat.ofDigits 10 (w.reverse.map digitValue)

/-- `[1-9][0-9]*`. -/
def IsNumeral (w : List Char) : Prop := w ≠ [] ∧ w.head? ≠ some '0' ∧ ∀ c ∈ w, c.isDigit = true

instance (w : List Char) : Decidable (IsNumeral w) :=
  decidable_of_iff (w ≠ [] ∧ w.head? ≠ some '0' ∧ w.all Char.isDigit = true) (by
    unfold IsNumeral
    rw [List.all_eq_true])

/-- `str(n)` for a positive number. -/
def numeral (n : Nat) : List Char := ((Nat.digits 10 n).map Nat.digitChar).reverse

/-! ## `int` -/

/-- `sys.get_int_max_str_digits()`, where nobody has set it. -/
def maxStrDigits : Nat := 4300

/-- The digits of a number between which single underscores may stand. -/
def intDigits : List Char → Option (List Char)
  | [] => none
  | [c] => if c.isDigit then some [c] else none
  | c :: '_' :: s => if c.isDigit then (intDigits s).map (c :: ·) else none
  | c :: s => if c.isDigit then (intDigits s).map (c :: ·) else none

/-- A number without its sign. -/
def unsignedInt (text : List Char) : Option Nat :=
  (intDigits text).bind fun digits => if digits.length ≤ maxStrDigits then some (decimalValue digits) else none

/-- `int(text)`, for an ASCII text without blanks. -/
def pyInt : List Char → Option Int
  | '-' :: text => (unsignedInt text).map fun n => -Int.ofNat n
  | '+' :: text => (unsignedInt text).map Int.ofNat
  | text => (unsignedInt text).map Int.ofNat

/-! ## Numerals -/

variable {w : List Char} {c : Char} {n k : Nat}

theorem digitChar_digit (hn : n < 10) : digitValue (Nat.digitChar n) = n ∧ (Nat.digitChar n).isDigit = true := by
  interval_cases n <;> decide

theorem digitChar_ne_zero (hn : n < 10) (hpos : n ≠ 0) : Nat.digitChar n ≠ '0' := by
  interval_cases n
  · exact absurd rfl hpos
  all_goals decide

theorem toNat_of_isDigit (hc : c.isDigit = true) : '0'.toNat ≤ c.toNat ∧ c.toNat ≤ '9'.toNat := by
  simp only [Char.isDigit, Bool.and_eq_true, decide_eq_true_eq] at hc
  exact ⟨UInt32.le_iff_toNat_le.mp hc.1, UInt32.le_iff_toNat_le.mp hc.2⟩

/-- **The numeral of a number says it.** -/
theorem decimalValue_numeral (n : Nat) : decimalValue (numeral n) = n := by
  have hdigits : ((Nat.digits 10 n).map Nat.digitChar).map digitValue = Nat.digits 10 n := by
    rw [List.map_map]
    refine (List.map_congr_left fun d hd => ?_).trans (List.map_id _)
    exact (digitChar_digit (Nat.digits_lt_base (by decide) hd)).1
  rw [decimalValue, numeral, List.reverse_reverse, hdigits, Nat.ofDigits_digits]

theorem isNumeral_numeral (hn : 1 ≤ n) : IsNumeral (numeral n) := by
  have hne : Nat.digits 10 n ≠ [] := Nat.digits_ne_nil_iff_ne_zero.mpr (by omega)
  refine ⟨?_, ?_, ?_⟩
  · unfold numeral
    simpa using hne
  · unfold numeral
    rw [List.head?_reverse, List.getLast?_map, List.getLast?_eq_some_getLast hne]
    have hlast := Nat.getLast_digit_ne_zero 10 (show n ≠ 0 by omega)
    have hlt := Nat.digits_lt_base (by decide) (List.getLast_mem hne)
    exact fun h => digitChar_ne_zero hlt hlast (Option.some.inj h)
  · intro c hc
    unfold numeral at hc
    rw [List.mem_reverse, List.mem_map] at hc
    obtain ⟨d, hd, rfl⟩ := hc
    exact (digitChar_digit (Nat.digits_lt_base (by decide) hd)).2

/-- A number has at most `k` digits when it is less than `10 ^ k`. -/
theorem length_numeral_le : (numeral n).length ≤ k ↔ n < 10 ^ k := by
  unfold numeral
  rw [List.length_reverse, List.length_map]
  exact Nat.digits_length_le_iff (by decide) n

theorem one_le_decimalValue (hw : IsNumeral w) : 1 ≤ decimalValue w := by
  obtain ⟨hne, hhead, hdigits⟩ := hw
  cases w with
  | nil => exact absurd rfl hne
  | cons c w =>
      have hc := toNat_of_isDigit (hdigits c List.mem_cons_self)
      have hzero : c.toNat ≠ '0'.toNat := by
        intro h
        refine hhead (congrArg some ?_)
        exact Char.ext (UInt32.toNat_inj.mp h)
      have hvalue : 1 ≤ digitValue c := by
        unfold digitValue
        omega
      unfold decimalValue
      rw [List.reverse_cons, List.map_append, Nat.ofDigits_append, List.map_singleton, Nat.ofDigits_singleton]
      have hpow : 1 ≤ 10 ^ (w.reverse.map digitValue).length := Nat.one_le_pow _ _ (by decide)
      have hprod := Nat.mul_le_mul hpow hvalue
      omega

/-! ## What `int` reads -/

theorem intDigits_of_digits (hne : w ≠ []) (hw : ∀ c ∈ w, c.isDigit = true) : intDigits w = some w := by
  induction w with
  | nil => exact absurd rfl hne
  | cons c w ih =>
      obtain ⟨hc, hrest⟩ := List.forall_mem_cons.mp hw
      cases w with
      | nil => simp [intDigits, hc]
      | cons d w =>
          have hd : d ≠ '_' := by
            rintro rfl
            have h := hrest '_' List.mem_cons_self
            revert h
            decide
          rw [intDigits.eq_4 _ _ (by simp) (by intro s h; exact hd (List.cons.inj h).1), if_pos hc,
            ih (List.cons_ne_nil _ _) hrest]
          rfl

/-- What stands in a number. -/
def IsIntChar (c : Char) : Prop := c.isDigit = true ∨ c = '_' ∨ c = '+' ∨ c = '-'

theorem intDigits_chars {digits : List Char} (h : intDigits w = some digits) : w ≠ [] ∧ ∀ c ∈ w, IsIntChar c := by
  fun_induction intDigits w generalizing digits with
  | case1 => cases h
  | case2 c hc => exact ⟨List.cons_ne_nil _ _, List.forall_mem_cons.mpr ⟨.inl hc, by simp⟩⟩
  | case3 c hc => cases h
  | case4 c s hc ih =>
      obtain ⟨ds, hds, -⟩ := Option.map_eq_some_iff.mp h
      refine ⟨List.cons_ne_nil _ _, List.forall_mem_cons.mpr ⟨.inl hc, ?_⟩⟩
      exact List.forall_mem_cons.mpr ⟨.inr (.inl rfl), (ih hds).2⟩
  | case5 c s hc => cases h
  | case6 c s _ _ hc ih =>
      obtain ⟨ds, hds, -⟩ := Option.map_eq_some_iff.mp h
      exact ⟨List.cons_ne_nil _ _, List.forall_mem_cons.mpr ⟨.inl hc, (ih hds).2⟩⟩
  | case7 c s _ _ hc => cases h

theorem unsignedInt_chars {n : Nat} (h : unsignedInt w = some n) : w ≠ [] ∧ ∀ c ∈ w, IsIntChar c := by
  obtain ⟨digits, hdigits, -⟩ := Option.bind_eq_some_iff.mp h
  exact intDigits_chars hdigits

theorem pyInt_chars {v : Int} (h : pyInt w = some v) : w ≠ [] ∧ ∀ c ∈ w, IsIntChar c := by
  unfold pyInt at h
  split at h <;> obtain ⟨n, hn, -⟩ := Option.map_eq_some_iff.mp h
  · refine ⟨List.cons_ne_nil _ _, List.forall_mem_cons.mpr ⟨?_, (unsignedInt_chars hn).2⟩⟩
    exact .inr (.inr (.inr rfl))
  · refine ⟨List.cons_ne_nil _ _, List.forall_mem_cons.mpr ⟨?_, (unsignedInt_chars hn).2⟩⟩
    exact .inr (.inr (.inl rfl))
  · exact unsignedInt_chars hn

/-- **`int` reads every numeral that is not too long.** -/
theorem pyInt_of_isNumeral (hw : IsNumeral w) :
    pyInt w = if w.length ≤ maxStrDigits then some (decimalValue w : Int) else none := by
  obtain ⟨hne, -, hdigits⟩ := hw
  have hunsigned : unsignedInt w = if w.length ≤ maxStrDigits then some (decimalValue w) else none := by
    rw [unsignedInt, intDigits_of_digits hne hdigits]
    rfl
  have hsign : ∀ c s, w = c :: s → c ≠ '-' ∧ c ≠ '+' := by
    rintro c s rfl
    have hc := hdigits c List.mem_cons_self
    constructor <;>
    · rintro rfl
      revert hc
      decide
  have hpy : pyInt w = (unsignedInt w).map Int.ofNat := by
    unfold pyInt
    split
    · exact absurd rfl (hsign _ _ rfl).1
    · exact absurd rfl (hsign _ _ rfl).2
    · rfl
  rw [hpy, hunsigned]
  by_cases hlength : w.length ≤ maxStrDigits
  · rw [if_pos hlength, if_pos hlength]
    rfl
  · rw [if_neg hlength, if_neg hlength]
    rfl

end WeFlow
