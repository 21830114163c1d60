import Mathlib.Data.Rat.Defs
import Mathlib.Algebra.Order.Ring.Rat
import Mathlib.Data.Prod.Lex
import Mathlib.Tactic.Linarith
import WeFlow.Base.Calendar

/-!
# `Rfc3339` — timestamps with an offset and a fraction

The timestamps of the RFC 3339 grammar, with any offset, any number of fraction digits and either case of its
letters. The text gives the local time; the instant is the minute in UTC and the second in it, so that a leap
second stays inside its own minute.

## Contents

* `Rfc3339` — the parts of a timestamp, its text, and `earlier`, the order of the instants.
* `Rfc3339.text_lt_iff` — timestamps written alike are in the order of the instants.
-/

namespace WeFlow

/-- `time-offset`: `Z`, or a sign with hours and minutes. -/
inductive Rfc3339Offset where
  | zulu (small : Bool)
  | numeric (behind : Bool) (hours : Fin 24) (minutes : Fin 60)
  deriving DecidableEq, Repr

namespace Rfc3339Offset

def text : Rfc3339Offset → List Char
  | zulu small => [if small then 'z' else 'Z']
  | numeric behind hours minutes =>
      (if behind then '-' else '+') :: (padded 2 hours ++ (':' :: padded 2 minutes))

/-- The minutes by which the local time is ahead of UTC. -/
def ahead : Rfc3339Offset → Int
  | zulu _ => 0
  | numeric false hours minutes => hours * 60 + minutes
  | numeric true hours minutes => -(hours * 60 + minutes)

end Rfc3339Offset

/-- A timestamp: `date-time` of the grammar. -/
structure Rfc3339 extends CalendarMinute where
  separator : Char
  second : Nat
  /-- The digits after the dot; none where there is no dot. -/
  fraction : List (Fin 10)
  offset : Rfc3339Offset
  separator_letter : separator = 'T' ∨ separator = 't'
  second_le : second ≤ 60

/-- The value of the digits after the dot. -/
def fractionValue : List (Fin 10) → Rat
  | [] => 0
  | digit :: rest => ((digit.val : Rat) + fractionValue rest) / 10

def digitText (digits : List (Fin 10)) : List Char := digits.map fun digit => Nat.digitChar digit.val

namespace Rfc3339

def fractionText (a : Rfc3339) : List Char :=
  if a.fraction = [] then [] else '.' :: digitText a.fraction

def chars (a : Rfc3339) : List Char :=
  a.toCalendarMinute.text a.separator ++
    (':' :: (padded 2 a.second ++ (a.fractionText ++ a.offset.text)))

/-- The text of a timestamp. -/
def text (a : Rfc3339) : String := String.ofList a.chars

/-- The minute in UTC. -/
def utcMinute (a : Rfc3339) : Int := a.minutes - a.offset.ahead

/-- The second in the minute, from 0 up to the end of a leap second. -/
def secondOfMinute (a : Rfc3339) : Rat := a.second + fractionValue a.fraction

/-- One timestamp denotes an earlier instant than another. -/
def earlier (a b : Rfc3339) : Prop :=
  a.utcMinute < b.utcMinute ∨ a.utcMinute = b.utcMinute ∧ a.secondOfMinute < b.secondOfMinute

instance (a b : Rfc3339) : Decidable (a.earlier b) := inferInstanceAs (Decidable (_ ∨ _))

/-- Two timestamps have one offset, one separator and as many digits. -/
structure WrittenAlike (a b : Rfc3339) : Prop where
  offset : a.offset = b.offset
  separator : a.separator = b.separator
  digits : a.fraction.length = b.fraction.length

end Rfc3339

/-! ## Fractions -/

theorem fractionValue_range (digits : List (Fin 10)) : 0 ≤ fractionValue digits ∧ fractionValue digits < 1 := by
  induction digits with
  | nil => exact ⟨le_refl _, by norm_num [fractionValue]⟩
  | cons digit rest ih =>
    have hdigit : (digit.val : Rat) ≤ 9 := by
      exact_mod_cast Nat.le_of_lt_succ digit.isLt
    have hpos : (0 : Rat) ≤ digit.val := by
      exact_mod_cast Nat.zero_le digit.val
    rw [fractionValue]
    constructor
    · linarith [ih.1]
    · linarith [ih.2]

/-- Fractions of as many digits compare as their digits. -/
theorem digitText_lt_iff {xs ys : List (Fin 10)} (hlength : xs.length = ys.length) :
    digitText xs < digitText ys ↔ fractionValue xs < fractionValue ys := by
  induction xs generalizing ys with
  | nil =>
    have hys : ys = [] := List.length_eq_zero_iff.mp hlength.symm
    subst hys
    simp [digitText, fractionValue]
  | cons x xs ih =>
    cases ys with
    | nil => simp at hlength
    | cons y ys =>
      have hrest : xs.length = ys.length := by
        simpa using hlength
      have hx := fractionValue_range xs
      have hy := fractionValue_range ys
      show Nat.digitChar x.val :: digitText xs < Nat.digitChar y.val :: digitText ys ↔ _
      rw [List.cons_lt_cons_iff, digitChar_lt x.isLt y.isLt, digitChar_inj x.isLt y.isLt, ih hrest]
      rw [fractionValue, fractionValue]
      rcases Nat.lt_trichotomy x.val y.val with hlt | heq | hgt
      · -- the first digit decides: what follows it is less than one
        have hstep : (x.val : Rat) + 1 ≤ y.val := by
          exact_mod_cast hlt
        constructor
        · intro _
          linarith [hx.2, hy.1]
        · intro _
          exact .inl hlt
      · rw [heq]
        constructor
        · rintro (h | ⟨-, h⟩)
          · exact absurd h (Nat.lt_irrefl _)
          · linarith
        · intro h
          exact .inr ⟨rfl, by linarith⟩
      · have hstep : (y.val : Rat) + 1 ≤ x.val := by
          exact_mod_cast hgt
        constructor
        · rintro (h | ⟨h, -⟩) <;> omega
        · intro h
          linarith [hx.1, hy.2]

theorem length_digitText (digits : List (Fin 10)) : (digitText digits).length = digits.length :=
  List.length_map ..

/-! ## The order of the instants -/

namespace Rfc3339

/-- Instants are in the order of the minutes, then of the seconds. -/
theorem not_earlier_iff {a b : Rfc3339} :
    ¬ a.earlier b ↔ toLex (b.utcMinute, b.secondOfMinute) ≤ toLex (a.utcMinute, a.secondOfMinute) := by
  rw [← not_lt, Prod.Lex.toLex_lt_toLex]
  exact Iff.rfl

/-! ## Timestamps written alike -/

/-- Seconds with their fractions compare as numbers. -/
theorem secondOfMinute_lt_iff (a b : Rfc3339) :
    a.secondOfMinute < b.secondOfMinute ↔
      a.second < b.second ∨ a.second = b.second ∧ fractionValue a.fraction < fractionValue b.fraction := by
  have ha := fractionValue_range a.fraction
  have hb := fractionValue_range b.fraction
  unfold secondOfMinute
  rcases Nat.lt_trichotomy a.second b.second with hlt | heq | hgt
  · have hstep : (a.second : Rat) + 1 ≤ b.second := by
      exact_mod_cast hlt
    constructor
    · intro _
      exact .inl hlt
    · intro _
      linarith [ha.2, hb.1]
  · rw [heq]
    constructor
    · intro h
      exact .inr ⟨rfl, by linarith⟩
    · rintro (h | ⟨-, h⟩)
      · exact absurd h (Nat.lt_irrefl _)
      · linarith
  · have hstep : (b.second : Rat) + 1 ≤ a.second := by
      exact_mod_cast hgt
    constructor
    · intro h
      linarith [ha.1, hb.2]
    · rintro (h | ⟨h, -⟩) <;> omega

/-- The ends of two timestamps with one offset and as many digits compare as their fractions. -/
theorem end_lt_iff {a b : Rfc3339} (h : a.WrittenAlike b) :
    a.fractionText ++ a.offset.text < b.fractionText ++ b.offset.text ↔
      fractionValue a.fraction < fractionValue b.fraction := by
  have hdigits := digitText_lt_iff h.digits
  have hempty : a.fraction = [] ↔ b.fraction = [] := by
    rw [← List.length_eq_zero_iff, ← List.length_eq_zero_iff, h.digits]
  unfold fractionText
  rw [h.offset]
  by_cases hnone : a.fraction = []
  · have hnone' := hempty.mp hnone
    simp [hnone, hnone']
  · have hsome' := mt hempty.mpr hnone
    have hself : ¬ b.offset.text < b.offset.text := List.lt_irrefl _
    rw [if_neg hnone, if_neg hsome', List.cons_append, List.cons_append, cons_lt_cons_self,
      append_lt_append (by rw [length_digitText, length_digitText, h.digits]), hdigits]
    simp [hself]

/-- **Timestamps written alike** compare as the instants they denote. -/
theorem text_lt_iff {a b : Rfc3339} (h : a.WrittenAlike b) : a.text < b.text ↔ a.earlier b := by
  have hseconds : ∀ x : Rfc3339, x.second < 10 ^ 2 := fun x => by
    have := x.second_le
    omega
  have hminutes : a.utcMinute < b.utcMinute ↔ a.minutes < b.minutes := by
    unfold utcMinute
    rw [h.offset]
    omega
  have hminute : a.utcMinute = b.utcMinute ↔ a.minutes = b.minutes := by
    unfold utcMinute
    rw [h.offset]
    omega
  rw [earlier, hminutes, hminute, secondOfMinute_lt_iff, text, text, String.lt_iff, String.toList_ofList,
    String.toList_ofList, chars, chars, h.separator, append_lt_append (by simp), cons_lt_cons_self,
    append_lt_append (by simp), CalendarMinute.text_lt_iff, CalendarMinute.text_eq_text,
    padded_lt_padded (hseconds a) (hseconds b), padded_inj (hseconds a) (hseconds b), end_lt_iff h]

/-! ## The characters -/

/-- No character of a timestamp is beyond `z`. -/
theorem le_tilde_of_mem (a : Rfc3339) : ∀ c ∈ a.chars, c ≤ '~' := by
  have hdigit : ∀ i : Fin 10, Nat.digitChar i.val ≤ '~' := by
    decide
  have hpadded : ∀ w n, ∀ c ∈ padded w n, c ≤ '~' := by
    intro w
    induction w with
    | zero =>
      intro n c hc
      exact absurd hc List.not_mem_nil
    | succ w ih =>
      intro n c hc
      rcases List.mem_append.mp hc with hinit | hlast
      · exact ih (n / 10) c hinit
      · obtain rfl := List.mem_singleton.mp hlast
        exact hdigit ⟨n % 10, Nat.mod_lt n (by decide)⟩
  have hseparator : a.separator ≤ '~' := by
    rcases a.separator_letter with h | h <;> rw [h] <;> decide
  have hoffset : ∀ c ∈ a.offset.text, c ≤ '~' := by
    intro c hc
    cases hkind : a.offset with
    | zulu small =>
      rw [hkind] at hc
      obtain rfl := List.mem_singleton.mp hc
      cases small <;> decide
    | numeric behind hours minutes =>
      rw [hkind] at hc
      rcases List.mem_cons.mp hc with rfl | hrest
      · cases behind <;> decide
      · rcases List.mem_append.mp hrest with hhours | hrest
        · exact hpadded _ _ c hhours
        · rcases List.mem_cons.mp hrest with rfl | hminutes
          · decide
          · exact hpadded _ _ c hminutes
  have hfraction : ∀ c ∈ a.fractionText, c ≤ '~' := by
    intro c hc
    unfold fractionText at hc
    split at hc
    · exact absurd hc List.not_mem_nil
    · rcases List.mem_cons.mp hc with rfl | hdigits
      · decide
      · obtain ⟨digit, -, rfl⟩ := List.mem_map.mp hdigits
        exact hdigit digit
  intro c hc
  simp only [chars, CalendarMinute.text, CalendarMinute.dateText, List.mem_append, List.mem_cons] at hc
  rcases hc with ((h | rfl | h | rfl | h) | rfl | h | rfl | h) | rfl | h | h | h
  case inr.inr.inl => exact hpadded _ _ c h
  case inr.inr.inr.inl => exact hfraction c h
  case inr.inr.inr.inr => exact hoffset c h
  case inl.inr.inl => exact hseparator
  all_goals first | exact hpadded _ _ c h | decide

end Rfc3339

end WeFlow
