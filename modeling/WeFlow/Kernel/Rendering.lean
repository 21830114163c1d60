import WeFlow.Base.Calendar
import WeFlow.Base.Timestamp
import WeFlow.Kernel.Source

/-!
# `Rendering` — the texts `_timestamp` stores

Each kernel module has the same helper, `value.astimezone(UTC).isoformat().replace("+00:00", "Z")`. A
`datetime` in UTC is its fields; `isoformat` leaves out the fraction of a whole second.

## Contents

* `UtcDatetime` — the fields of a `datetime` in UTC, and the microsecond it names.
* `UtcDatetime.isoformat`, `replaceText`, `timestamp` — the rendering.
* `timestamp_lt_iff` — two rendered texts compare by their seconds, then by `renderedFraction`.
* `timestamp_ordered_iff` — when that is the order of the instants.
-/

namespace WeFlow

/-- A `datetime` whose `tzinfo` is `UTC`, with the ranges its constructor checks. -/
structure UtcDatetime extends CalendarMinute where
  second : Nat
  microsecond : Nat
  year_pos : 1 ≤ year
  second_lt : second < 60
  microsecond_lt : microsecond < 1000000

namespace UtcDatetime

/-- The whole seconds of the calendar. -/
def seconds (a : UtcDatetime) : Nat := a.minutes * 60 + a.second

/-- The instant, in microseconds. -/
def instant (a : UtcDatetime) : Nat := a.seconds * 1000000 + a.microsecond

/-! ## The rendering -/

/-- The fraction: nothing for a whole second, else `.%06d`. -/
def fractionText (a : UtcDatetime) : List Char :=
  if a.microsecond = 0 then [] else '.' :: padded 6 a.microsecond

/-- `isoformat()` of a `datetime` in UTC: `%04d-%02d-%02dT%02d:%02d:%02d`, the fraction and the offset. -/
def isoformat (a : UtcDatetime) : List Char :=
  a.text 'T' ++ (':' :: (padded 2 a.second ++ (a.fractionText ++ "+00:00".toList)))

end UtcDatetime

/-- `str.replace(old, new)`, with the number of characters of an occurrence still to be passed over. -/
def replaceFrom (old new : List Char) : Nat → List Char → List Char
  | _, [] => []
  | skip + 1, _ :: rest => replaceFrom old new skip rest
  | 0, c :: rest =>
      if old.isPrefixOf (c :: rest) then new ++ replaceFrom old new (old.length - 1) rest
      else c :: replaceFrom old new 0 rest

/-- `str.replace(old, new)` for an `old` that is not empty. -/
def replaceText (old new text : List Char) : List Char := replaceFrom old new 0 text

/-- `_timestamp(value)`, where `a` is `value.astimezone(UTC)`. -/
def timestamp (a : UtcDatetime) : String :=
  String.ofList (replaceText "+00:00".toList "Z".toList a.isoformat)

/-! ## The text -/

/-- What is passed over is dropped. -/
theorem replaceFrom_drop (old new : List Char) (skip : Nat) (text : List Char) :
    replaceFrom old new skip text = replaceFrom old new 0 (text.drop skip) := by
  induction text generalizing skip with
  | nil => simp [replaceFrom]
  | cons c rest ih =>
    cases skip with
    | zero => rfl
    | succ skip => rw [replaceFrom, ih skip, List.drop_succ_cons]

/-- An occurrence at the end is replaced, and nothing else where its first character does not occur. -/
theorem replaceText_suffix {new front tail : List Char} {first : Char} (hfront : first ∉ front) :
    replaceText (first :: tail) new (front ++ (first :: tail)) = front ++ new := by
  unfold replaceText
  induction front with
  | nil =>
    rw [List.nil_append, replaceFrom]
    have hhere : (first :: tail).isPrefixOf (first :: tail) = true := by
      simp
    rw [if_pos hhere, replaceFrom_drop]
    simp [replaceFrom]
  | cons c front ih =>
    have hother : c ≠ first := by
      rintro rfl
      exact hfront (List.mem_cons_self ..)
    have hnot : ¬ (first :: tail).isPrefixOf (c :: (front ++ first :: tail)) = true := by
      intro hprefix
      rw [List.isPrefixOf_cons_cons, Bool.and_eq_true, beq_iff_eq] at hprefix
      exact hother hprefix.1.symm
    rw [List.cons_append, replaceFrom, if_neg hnot, ih fun h => hfront (List.mem_cons_of_mem _ h), List.cons_append]

/-- A numeral has no `+`. -/
theorem plus_not_mem_padded (w n : Nat) : '+' ∉ padded w n := by
  induction w generalizing n with
  | zero => exact List.not_mem_nil
  | succ w ih =>
    have hdigit : ∀ i : Fin 10, '+' ≠ Nat.digitChar i.val := by
      decide
    intro hmem
    rcases List.mem_append.mp hmem with hinit | hlast
    · exact ih (n / 10) hinit
    · exact hdigit ⟨n % 10, Nat.mod_lt n (by decide)⟩ (List.mem_singleton.mp hlast)

theorem plus_not_mem_text (a : CalendarMinute) : '+' ∉ a.text 'T' := by
  have hpadded := plus_not_mem_padded
  simp [CalendarMinute.text, CalendarMinute.dateText, hpadded]

theorem plus_not_mem_fraction (a : UtcDatetime) : '+' ∉ a.fractionText := by
  unfold UtcDatetime.fractionText
  split
  · exact List.not_mem_nil
  · intro hmem
    rcases List.mem_cons.mp hmem with hdot | hdigits
    · exact absurd hdot (by decide)
    · exact plus_not_mem_padded 6 _ hdigits

/-- The stored text. -/
theorem timestamp_toList (a : UtcDatetime) :
    (timestamp a).toList = a.text 'T' ++ (':' :: (padded 2 a.second ++ (a.fractionText ++ ['Z']))) := by
  have hfront : '+' ∉ a.text 'T' ++ (':' :: (padded 2 a.second ++ a.fractionText)) := by
    have htext := plus_not_mem_text a.toCalendarMinute
    have hsecond := plus_not_mem_padded 2 a.second
    have hfraction := plus_not_mem_fraction a
    simp [htext, hsecond, hfraction]
  have hiso : a.isoformat = (a.text 'T' ++ (':' :: (padded 2 a.second ++ a.fractionText))) ++
      ('+' :: ['0', '0', ':', '0', '0']) := by
    show _ ++ (':' :: (_ ++ (_ ++ ['+', '0', '0', ':', '0', '0']))) = _
    simp only [List.append_assoc, List.cons_append]
  unfold timestamp
  rw [String.toList_ofList, hiso]
  show replaceText ('+' :: ['0', '0', ':', '0', '0']) ['Z'] _ = _
  rw [replaceText_suffix hfront]
  simp only [List.append_assoc, List.cons_append]

/-- After one second, a fraction comes before none: `.` precedes the `Z` that ends the text. -/
theorem UtcDatetime.fractionText_lt_iff (a b : UtcDatetime) :
    a.fractionText ++ ['Z'] < b.fractionText ++ ['Z'] ↔
      renderedFraction a.microsecond < renderedFraction b.microsecond := by
  have hdot : '.' < 'Z' := by decide
  have hnot : ¬ 'Z' < '.' := by decide
  have ha := a.microsecond_lt
  have hb := b.microsecond_lt
  have hrank : ∀ n, n < 1000000 → renderedFraction n = if n = 0 then 1000000 else n := fun n hn => by
    simp only [renderedFraction, Nat.mod_eq_of_lt hn]
  rw [hrank _ ha, hrank _ hb]
  unfold UtcDatetime.fractionText
  by_cases h0 : a.microsecond = 0 <;> by_cases h1 : b.microsecond = 0
  · simp [h0, h1]
  · -- `Z` against `.`: the whole second comes after the fraction
    simp only [h0, h1, if_true, if_false, List.nil_append, List.cons_append, List.cons_lt_cons_iff, hnot, false_or]
    constructor
    · rintro ⟨h, -⟩
      exact absurd h (by decide)
    · intro h
      omega
  · simp only [h0, h1, if_true, if_false, List.nil_append, List.cons_append, List.cons_lt_cons_iff, hdot, true_or,
      true_iff]
    omega
  · rw [if_neg h0, if_neg h1, if_neg h0, if_neg h1, List.cons_append, List.cons_append, cons_lt_cons_self,
      append_lt_append (by simp), padded_lt_padded ha hb]
    simp [List.lt_irrefl]

/-- Two rendered texts compare by their seconds, and within one second by the ranks of the fractions. -/
theorem timestamp_lt_iff (a b : UtcDatetime) :
    timestamp a < timestamp b ↔
      a.seconds < b.seconds ∨
        (a.seconds = b.seconds ∧ renderedFraction a.microsecond < renderedFraction b.microsecond) := by
  have hseconds : ∀ x : UtcDatetime, x.second < 10 ^ 2 := fun x => by
    have := x.second_lt
    omega
  rw [String.lt_iff, timestamp_toList, timestamp_toList, append_lt_append (by simp), cons_lt_cons_self,
    append_lt_append (by simp), CalendarMinute.text_lt_iff, CalendarMinute.text_eq_text,
    padded_lt_padded (hseconds a) (hseconds b), padded_inj (hseconds a) (hseconds b),
    UtcDatetime.fractionText_lt_iff]
  have := a.second_lt
  have := b.second_lt
  unfold UtcDatetime.seconds
  omega

/-! ## The order of the instants, seen in the texts -/

theorem renderedFraction_instant (a : UtcDatetime) : renderedFraction a.instant = renderedFraction a.microsecond := by
  have hmod : a.instant % 1000000 = a.microsecond % 1000000 := by
    unfold UtcDatetime.instant
    omega
  simp only [renderedFraction, hmod]

theorem instant_div (a : UtcDatetime) : a.instant / 1000000 = a.seconds := by
  have := a.microsecond_lt
  unfold UtcDatetime.instant
  omega

/-- The texts compare as `renderedBefore` says of the instants. -/
theorem timestamp_lt_iff_renderedBefore (a b : UtcDatetime) :
    timestamp a < timestamp b ↔ renderedBefore a.instant b.instant = true := by
  rw [timestamp_lt_iff, renderedBefore, decide_eq_true_eq, instant_div, instant_div, renderedFraction_instant,
    renderedFraction_instant]

/-- The order in which the kernel's queries visit rows is that of the texts, for clock readings counted from
    any whole second `epoch` of the calendar. -/
theorem timestamp_lt_iff_textKey {a b : UtcDatetime} {epoch : Nat} {s t : Instant}
    (ha : a.instant = epoch * 1000000 + s) (hb : b.instant = epoch * 1000000 + t) :
    timestamp a < timestamp b ↔ textKey s < textKey t := by
  have hs : a.seconds = epoch + s / 1000000 ∧ a.microsecond = s % 1000000 := by
    have := a.microsecond_lt
    unfold UtcDatetime.instant at ha
    omega
  have ht : b.seconds = epoch + t / 1000000 ∧ b.microsecond = t % 1000000 := by
    have := b.microsecond_lt
    unfold UtcDatetime.instant at hb
    omega
  rw [timestamp_lt_iff, hs.1, hs.2, ht.1, ht.2]
  simp only [renderedFraction, textKey, Nat.mod_mod]
  have := Nat.mod_lt s (by decide : 0 < 1000000)
  have := Nat.mod_lt t (by decide : 0 < 1000000)
  split <;> split <;> omega

/-- The texts order two instants as time does, unless the two share a second and one of them alone is the
    whole second. -/
theorem timestamp_ordered_iff (a b : UtcDatetime) :
    (timestamp a < timestamp b ↔ a.instant < b.instant) ↔
      (a.seconds = b.seconds → (a.microsecond = 0 ↔ b.microsecond = 0)) := by
  have ha := a.microsecond_lt
  have hb := b.microsecond_lt
  rw [timestamp_lt_iff]
  simp only [renderedFraction, Nat.mod_eq_of_lt ha, Nat.mod_eq_of_lt hb, UtcDatetime.instant]
  by_cases hsecond : a.seconds = b.seconds
  · simp only [hsecond, Nat.lt_irrefl, true_and, false_or, true_implies, Nat.add_lt_add_iff_left]
    split <;> split <;> grind
  · constructor
    · intro _ h
      exact absurd h hsecond
    · intro _
      omega

/-- The new year's second of 2026, and half a second later. -/
def newYear (microsecond : Nat) (hlt : microsecond < 1000000) : UtcDatetime where
  toCalendarMinute := .newYearsDay 0 (by decide)
  year_pos := by decide
  second := 5
  microsecond := microsecond
  second_lt := by decide
  microsecond_lt := hlt

/-- `2026-01-01T00:00:05Z` is the earlier instant and the later text beside `2026-01-01T00:00:05.500000Z`. -/
theorem whole_second_after_its_fraction : ¬ ∀ a b : UtcDatetime, timestamp a < timestamp b ↔ a.instant < b.instant := by
  intro hall
  have hcondition := (timestamp_ordered_iff (newYear 0 (by decide)) (newYear 500000 (by decide))).mp (hall _ _)
  exact absurd ((hcondition rfl).mp rfl) (by decide)

end WeFlow
