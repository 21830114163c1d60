import Mathlib.Data.List.Basic

/-!
# `Words` — texts split at their gaps

A gap is a run of blanks, a word a run without them. `words` splits a text at its gaps, `trim` takes the gaps
from its two ends. Both are functions with a relation behind them: `Laid` is how a list of words can lie in a
text, `Spaced` how it lies in one that begins and ends with a word.

## Contents

* `words`, `trim` — the functions.
* `words_eq_iff` — a text has the words that lie in it.
* `trim_eq_iff` — a trimmed text is what is left between two gaps.
* `words_trimmed` — in a trimmed text the words stand with gaps between them.
-/

namespace WeFlow.Words

variable {α : Type}

section Split

variable (blank : α → Bool)

/-- The words of a text. -/
def words (s : List α) : List (List α) := (s.splitOnP blank).filter (· ≠ [])

/-- The text without the gaps at its two ends. -/
def trim (s : List α) : List α := ((s.dropWhile blank).reverse.dropWhile blank).reverse

def IsGap (g : List α) : Prop := ∀ c ∈ g, blank c = true

def IsWord (w : List α) : Prop := w ≠ [] ∧ ∀ c ∈ w, blank c = false

/-- Nothing but a blank comes first. -/
def Broken (s : List α) : Prop := ∀ c ∈ s.head?, blank c = true

/-- The words lie in the text, parted by gaps. -/
def Laid : List (List α) → List α → Prop
  | [], s => IsGap blank s
  | w :: ws, s => ∃ g r, s = g ++ (w ++ r) ∧ IsGap blank g ∧ IsWord blank w ∧ Broken blank r ∧ Laid ws r

/-- The words make up the text, with gaps between them. -/
def Spaced : List (List α) → List α → Prop
  | [], s => s = []
  | [w], s => s = w
  | w :: w' :: ws, s => ∃ g r, s = w ++ (g ++ r) ∧ g ≠ [] ∧ IsGap blank g ∧ Spaced (w' :: ws) r

/-- No blank comes first or last. -/
def Trimmed (s : List α) : Prop := (∀ c ∈ s.head?, blank c = false) ∧ ∀ c ∈ s.getLast?, blank c = false

end Split

variable {blank : α → Bool} {s t g w r : List α} {ws : List (List α)}

/-! ## Gaps -/

theorem isGap_nil : IsGap blank ([] : List α) := fun _ hc => absurd hc List.not_mem_nil

theorem IsGap.append (hg : IsGap blank g) (hr : IsGap blank r) : IsGap blank (g ++ r) := by
  intro c hc
  exact (List.mem_append.mp hc).elim (hg c) (hr c)

theorem dropWhile_gap (hg : IsGap blank g) : (g ++ s).dropWhile blank = s.dropWhile blank := by
  induction g with
  | nil => rfl
  | cons c g ih =>
      obtain ⟨hc, hg⟩ := List.forall_mem_cons.mp hg
      rw [List.cons_append, List.dropWhile_cons_of_pos hc, ih hg]

theorem dropWhile_gap_eq_nil (hg : IsGap blank g) : g.dropWhile blank = [] := by
  have h := dropWhile_gap (s := []) hg
  rw [List.append_nil] at h
  exact h

theorem dropWhile_eq_self (hs : ∀ c ∈ s.head?, blank c = false) : s.dropWhile blank = s := by
  cases s with
  | nil => rfl
  | cons c s =>
      have hc := hs c rfl
      rw [List.dropWhile_cons_of_neg (by rw [hc]; exact Bool.false_ne_true)]

variable (blank) in
/-- A text is a gap and what is left without it. -/
theorem exists_gap (s : List α) : ∃ g, s = g ++ s.dropWhile blank ∧ IsGap blank g ∧
    ∀ c ∈ (s.dropWhile blank).head?, blank c = false := by
  induction s with
  | nil => exact ⟨[], rfl, isGap_nil, fun _ hc => by cases hc⟩
  | cons c s ih =>
      by_cases hc : blank c = true
      · obtain ⟨g, hs, hg, hhead⟩ := ih
        rw [List.dropWhile_cons_of_pos hc]
        exact ⟨c :: g, congrArg (c :: ·) hs, List.forall_mem_cons.mpr ⟨hc, hg⟩, hhead⟩
      · rw [List.dropWhile_cons_of_neg hc]
        refine ⟨[], rfl, isGap_nil, fun d hd => ?_⟩
        obtain rfl : c = d := Option.some.inj hd
        exact Bool.eq_false_iff.mpr hc

/-! ## Words -/

theorem words_gap (hg : IsGap blank g) : words blank (g ++ s) = words blank s := by
  induction g with
  | nil => rfl
  | cons c g ih =>
      obtain ⟨hc, hg⟩ := List.forall_mem_cons.mp hg
      rw [← ih hg]
      simp [words, List.splitOnP_cons_eq_if_modifyHead, hc]

theorem words_nil : words blank ([] : List α) = [] := by
  simp [words]

/-- A word and what comes after it. -/
theorem words_word (hw : IsWord blank w) (hr : Broken blank r) : words blank (w ++ r) = w :: words blank r := by
  cases r with
  | nil =>
      rw [List.append_nil, words_nil]
      simp [words, List.splitOnP_eq_singleton hw.2, hw.1]
  | cons c r =>
      have hc := hr c rfl
      have hgap : words blank (c :: r) = words blank r := words_gap (g := [c]) (by simpa [IsGap] using hc)
      rw [hgap]
      simp [words, List.splitOnP_append_cons_of_forall_mem hw.2 c hc, hw.1]

theorem words_of_laid (h : Laid blank ws s) : words blank s = ws := by
  induction ws generalizing s with
  | nil =>
      have hgap := words_gap (s := []) h
      rw [List.append_nil, words_nil] at hgap
      exact hgap
  | cons w ws ih =>
      obtain ⟨g, r, rfl, hg, hw, hr, hlaid⟩ := h
      rw [words_gap hg, words_word hw hr, ih hlaid]

theorem Laid.isWord (h : Laid blank ws s) : ∀ w ∈ ws, IsWord blank w := by
  induction ws generalizing s with
  | nil => exact fun _ hw => absurd hw List.not_mem_nil
  | cons w ws ih =>
      obtain ⟨_, _, -, -, hw, -, hlaid⟩ := h
      exact List.forall_mem_cons.mpr ⟨hw, ih hlaid⟩

theorem Laid.gap (h : Laid blank ws s) (hg : IsGap blank g) : Laid blank ws (g ++ s) := by
  cases ws with
  | nil => exact hg.append h
  | cons w ws =>
      obtain ⟨g', r, rfl, hg', hw, hr, hlaid⟩ := h
      exact ⟨g ++ g', r, (List.append_assoc _ _ _).symm, hg.append hg', hw, hr, hlaid⟩

variable (blank) in
/-- Every text is laid out somehow. -/
theorem exists_laid (s : List α) : ∃ ws, Laid blank ws s := by
  induction s with
  | nil => exact ⟨[], isGap_nil⟩
  | cons c s ih =>
      obtain ⟨ws, hws⟩ := ih
      by_cases hc : blank c = true
      · exact ⟨ws, hws.gap (g := [c]) (List.forall_mem_cons.mpr ⟨hc, isGap_nil⟩)⟩
      have hc : blank c = false := Bool.eq_false_iff.mpr hc
      have hone : IsWord blank [c] := ⟨List.cons_ne_nil _ _, List.forall_mem_cons.mpr ⟨hc, by simp⟩⟩
      by_cases hbroken : Broken blank s
      · exact ⟨[c] :: ws, [], s, rfl, isGap_nil, hone, hbroken, hws⟩
      -- The word that begins the rest is continued.
      cases ws with
      | nil => exact absurd (fun d hd => hws d (List.mem_of_mem_head? hd)) hbroken
      | cons w ws =>
          obtain ⟨g, r, rfl, hg, hw, hr, hlaid⟩ := hws
          cases g with
          | nil =>
              refine ⟨(c :: w) :: ws, [], r, rfl, isGap_nil, ⟨List.cons_ne_nil _ _, ?_⟩, hr, hlaid⟩
              exact List.forall_mem_cons.mpr ⟨hc, hw.2⟩
          | cons d g =>
              refine absurd (fun e he => ?_) hbroken
              obtain rfl : d = e := Option.some.inj he
              exact hg d List.mem_cons_self

/-- **A text has the words that lie in it.** -/
theorem words_eq_iff : words blank s = ws ↔ Laid blank ws s := by
  constructor
  · rintro rfl
    obtain ⟨ws, hws⟩ := exists_laid blank s
    rw [words_of_laid hws]
    exact hws
  · exact words_of_laid

theorem Laid.append_gap (h : Laid blank ws s) (hg : IsGap blank g) : Laid blank ws (s ++ g) := by
  induction ws generalizing s with
  | nil => exact IsGap.append h hg
  | cons w ws ih =>
      obtain ⟨g', r, rfl, hg', hw, hr, hlaid⟩ := h
      refine ⟨g', r ++ g, by simp only [List.append_assoc], hg', hw, ?_, ih hlaid⟩
      cases r with
      | nil => exact fun c hc => hg c (List.mem_of_mem_head? hc)
      | cons c r => exact hr

/-! ## Trimming -/

theorem trim_eq_iff : trim blank s = t ↔ ∃ g r, s = g ++ (t ++ r) ∧ IsGap blank g ∧ IsGap blank r ∧
    Trimmed blank t := by
  constructor
  · rintro rfl
    obtain ⟨g, hs, hg, hhead⟩ := exists_gap blank s
    obtain ⟨r, hr, hgap, hlast⟩ := exists_gap blank (s.dropWhile blank).reverse
    have hsplit : s.dropWhile blank = trim blank s ++ r.reverse := by
      have hreverse := congrArg List.reverse hr
      rw [List.reverse_reverse, List.reverse_append] at hreverse
      exact hreverse
    refine ⟨g, r.reverse, ?_, hg, fun c hc => hgap c (List.mem_reverse.mp hc), ?_, ?_⟩
    · rw [← hsplit]
      exact hs
    · intro c hc
      obtain ⟨rest, hrest⟩ := List.head?_eq_some_iff.mp hc
      refine hhead c ?_
      rw [hsplit, hrest]
      rfl
    · intro c hc
      refine hlast c ?_
      rw [← List.getLast?_reverse]
      exact hc
  · rintro ⟨g, r, rfl, hg, hr, hhead, hlast⟩
    have hreverse : IsGap blank r.reverse := fun c hc => hr c (List.mem_reverse.mp hc)
    have hback : t.reverse.dropWhile blank = t.reverse := by
      refine dropWhile_eq_self fun c hc => hlast c ?_
      rw [← List.head?_reverse]
      exact hc
    cases t with
    | nil =>
        have hempty : (g ++ ([] ++ r)).dropWhile blank = [] := by
          rw [List.nil_append]
          exact dropWhile_gap_eq_nil (hg.append hr)
        rw [trim, hempty]
        rfl
    | cons c t =>
        have hc := hhead c rfl
        rw [trim, dropWhile_gap hg, List.cons_append, List.dropWhile_cons_of_neg (by rw [hc]; exact Bool.false_ne_true),
          ← List.cons_append, List.reverse_append, dropWhile_gap hreverse, hback, List.reverse_reverse]

theorem trimmed_trim : Trimmed blank (trim blank s) := by
  obtain ⟨_, _, -, -, -, h⟩ := trim_eq_iff.mp (rfl : trim blank s = trim blank s)
  exact h

theorem words_trim : words blank (trim blank s) = words blank s := by
  obtain ⟨g, r, hs, hg, hr, -⟩ := trim_eq_iff.mp (rfl : trim blank s = trim blank s)
  have hlaid : Laid blank (words blank (trim blank s)) (trim blank s ++ r) := (words_eq_iff.mp rfl).append_gap hr
  rw [← words_of_laid hlaid, ← words_gap hg, ← hs]

/-! ## Words in a row -/

theorem Spaced.mono {blank' : α → Bool} (h : Spaced blank ws s) (hs : ∀ c ∈ s, blank c = true → blank' c = true) :
    Spaced blank' ws s := by
  induction ws generalizing s with
  | nil => exact h
  | cons w ws ih =>
      cases ws with
      | nil => exact h
      | cons w' ws =>
          obtain ⟨g, r, rfl, hne, hg, hrest⟩ := h
          refine ⟨g, r, rfl, hne, fun c hc => hs c ?_ (hg c hc), ih hrest fun c hc => hs c ?_⟩
          · simp [hc]
          · simp [hc]

/-- A word or a gap holds every character. -/
theorem Spaced.mem (h : Spaced blank ws s) : ∀ c ∈ s, (∃ w ∈ ws, c ∈ w) ∨ blank c = true := by
  induction ws generalizing s with
  | nil =>
      obtain rfl : s = [] := h
      exact fun _ hc => by cases hc
  | cons w ws ih =>
      cases ws with
      | nil =>
          obtain rfl : s = w := h
          exact fun c hc => .inl ⟨s, List.mem_cons_self, hc⟩
      | cons w' ws =>
          obtain ⟨g, r, rfl, -, hg, hrest⟩ := h
          intro c hc
          rcases List.mem_append.mp hc with hc | hc
          · exact .inl ⟨w, List.mem_cons_self, hc⟩
          rcases List.mem_append.mp hc with hc | hc
          · exact .inr (hg c hc)
          · exact (ih hrest c hc).imp_left fun ⟨v, hv, hmem⟩ => ⟨v, List.mem_cons_of_mem _ hv, hmem⟩

theorem Spaced.leads (h : Spaced blank (w :: ws) s) : ∃ rest, s = w ++ rest := by
  cases ws with
  | nil => exact ⟨[], by rw [List.append_nil]; exact h⟩
  | cons w' ws =>
      obtain ⟨g, r, rfl, -⟩ := h
      exact ⟨_, rfl⟩

theorem Spaced.suffix (h : Spaced blank (w :: ws) s) : ∃ init, ∃ v ∈ w :: ws, s = init ++ v := by
  induction ws generalizing w s with
  | nil => exact ⟨[], w, List.mem_cons_self, h⟩
  | cons w' ws ih =>
      obtain ⟨g, r, rfl, -, -, hrest⟩ := h
      obtain ⟨init, v, hv, rfl⟩ := ih hrest
      exact ⟨w ++ (g ++ init), v, List.mem_cons_of_mem _ hv, by simp only [List.append_assoc]⟩

/-- Words in a row are a trimmed text. -/
theorem Spaced.trimmed {blank' : α → Bool} (h : Spaced blank' (w :: ws) s) (hws : ∀ v ∈ w :: ws, IsWord blank v) :
    Trimmed blank s ∧ s ≠ [] := by
  obtain ⟨rest, hstart⟩ := h.leads
  obtain ⟨init, v, hv, hsuffix⟩ := h.suffix
  obtain ⟨hne, hw⟩ := hws w List.mem_cons_self
  obtain ⟨hvne, hvword⟩ := hws v hv
  refine ⟨⟨fun c hc => ?_, fun c hc => ?_⟩, ?_⟩
  · cases w with
    | nil => exact absurd rfl hne
    | cons d w =>
        rw [hstart] at hc
        obtain rfl : d = c := Option.some.inj hc
        exact hw d List.mem_cons_self
  · obtain ⟨v', d, rfl⟩ := (List.eq_nil_or_concat v).resolve_left hvne
    rw [hsuffix, List.concat_eq_append, ← List.append_assoc, List.getLast?_concat] at hc
    obtain rfl : d = c := Option.some.inj hc
    exact hvword d (by simp)
  · rintro rfl
    exact hne (List.append_eq_nil_iff.mp hstart.symm).1

theorem Spaced.laid (h : Spaced blank ws s) (hws : ∀ w ∈ ws, IsWord blank w) : Laid blank ws s := by
  induction ws generalizing s with
  | nil =>
      obtain rfl : s = [] := h
      exact isGap_nil
  | cons w ws ih =>
      obtain ⟨hw, hws⟩ := List.forall_mem_cons.mp hws
      cases ws with
      | nil =>
          obtain rfl : s = w := h
          exact ⟨[], [], by simp, isGap_nil, hw, (by simp [Broken]), isGap_nil⟩
      | cons w' ws =>
          obtain ⟨g, r, rfl, hne, hg, hrest⟩ := h
          refine ⟨[], g ++ r, rfl, isGap_nil, hw, ?_, (ih hrest hws).gap hg⟩
          cases g with
          | nil => exact absurd rfl hne
          | cons c g =>
              intro d hd
              obtain rfl : c = d := Option.some.inj hd
              exact hg c List.mem_cons_self

/-- A text that ends with no blank and has a gap before it is words in a row. -/
theorem Laid.spaced (h : Laid blank ws s) (hlast : ∀ c ∈ s.getLast?, blank c = false) :
    ∃ g r, s = g ++ r ∧ IsGap blank g ∧ Spaced blank ws r ∧ (ws = [] → r = []) := by
  induction ws generalizing s with
  | nil =>
      refine ⟨[], s, rfl, isGap_nil, ?_, fun _ => ?_⟩ <;>
      · rcases List.eq_nil_or_concat s with rfl | ⟨y, d, rfl⟩
        · rfl
        · have hblank := h d (by simp)
          rw [hlast d (by simp)] at hblank
          cases hblank
  | cons w ws ih =>
      obtain ⟨g, r, rfl, hg, hw, hr, hlaid⟩ := h
      have hlast' : ∀ c ∈ r.getLast?, blank c = false := by
        intro c hc
        refine hlast c ?_
        rw [List.getLast?_append, List.getLast?_append]
        simp [show r.getLast? = some c from hc]
      obtain ⟨g', r', rfl, hg', hspaced, hnil⟩ := ih hlaid hlast'
      refine ⟨g, w ++ (g' ++ r'), rfl, hg, ?_, fun h => by cases h⟩
      cases ws with
      | nil =>
          obtain rfl := hnil rfl
          rcases List.eq_nil_or_concat g' with rfl | ⟨y, d, rfl⟩
          · simp [Spaced]
          · have hblank := hg' d (by simp)
            rw [hlast' d (by simp)] at hblank
            cases hblank
      | cons w' ws =>
          refine ⟨g', r', rfl, ?_, hg', hspaced⟩
          rintro rfl
          obtain ⟨hne, hword⟩ := hlaid.isWord w' List.mem_cons_self
          cases w' with
          | nil => exact hne rfl
          | cons c w' =>
              obtain ⟨rest, rfl⟩ := hspaced.leads
              have hblank := hr c rfl
              rw [hword c List.mem_cons_self] at hblank
              cases hblank

/-- **In a trimmed text the words stand with gaps between them.** -/
theorem words_trimmed (hs : Trimmed blank s) :
    words blank s = ws ↔ Spaced blank ws s ∧ ∀ w ∈ ws, IsWord blank w := by
  rw [words_eq_iff]
  constructor
  · intro h
    obtain ⟨g, r, rfl, hg, hspaced, -⟩ := h.spaced hs.2
    refine ⟨?_, h.isWord⟩
    cases g with
    | nil => exact hspaced
    | cons c g =>
        have hblank := hg c List.mem_cons_self
        rw [hs.1 c rfl] at hblank
        cases hblank
  · rintro ⟨hspaced, hws⟩
    exact hspaced.laid hws

end WeFlow.Words
