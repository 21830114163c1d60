import WeFlow.Base.Txn
import WeFlow.Handler.Redaction

/-!
# `PrivateContent` — normalizing a private text

`normalize_private_content` joins the words of each line by one blank, drops the empty lines, and redacts the
secrets that are left. `unicodedata.normalize` is a parameter.

## Contents

* `tidyLines`, `normalizePrivateContent` — the function.
* `neat` — a text without leading, trailing or doubled blanks.
* `private_content_fixed` — the normalization is a fixed point and redacts completely.
-/

namespace WeFlow

open Txn Regex

/-- `_CONTROL`. -/
def isControl (c : Char) : Bool :=
  let n := c.toNat
  n ≤ 8 ∨ n = 11 ∨ n = 12 ∨ (14 ≤ n ∧ n ≤ 31) ∨ n = 127

/-! ## The function -/

/-- `text.replace("\r\n", "\n")`. -/
def replaceCrLf : List Char → List Char
  | '\r' :: '\n' :: s => '\n' :: replaceCrLf s
  | c :: s => c :: replaceCrLf s
  | [] => []

/-- `text.replace("\r", "\n")`. -/
def replaceCr (s : List Char) : List Char := s.map fun c => if c = '\r' then '\n' else c

/-- Every line with its words joined by one blank, and no empty line. -/
def tidyLines (text : List Char) : List Char :=
  let joined := List.intercalate ['\n'] ((text.splitOn '\n').map fun line =>
    List.intercalate [' '] (splitWords line))
  strip (List.intercalate ['\n'] ((joined.splitOn '\n').filter (· ≠ [])))

/-- `normalize_private_content`. -/
def normalizePrivateContent (nfkc : String → String) (value : String) (candidate : Bool) :
    Except String String := do
  let normalized := replaceCr (replaceCrLf (nfkc value).toList)
  require (!normalized.any isControl) "private_content_control_character"
  let normalized := tidyLines normalized
  require (!(candidate && search isWord prohibitedCandidate false normalized)) "candidate_prohibited_content"
  let normalized := redact false normalized
  require (1 ≤ normalized.length) "private_content_empty"
  require (normalized.length ≤ 1200) "private_content_oversized"
  pure (String.ofList normalized)

/-! ## Neat texts -/

/-- No blank comes first or last, or after a blank; one has come before if `p`. -/
def neat : Bool → List Char → Bool
  | p, [] => !p
  | p, c :: s => if isSpace c then !p && neat true s else neat false s

section Neat

variable {p : Bool} {c : Char} {x s : List Char}

theorem neat_space (hc : isSpace c) : neat p (c :: s) = (!p && neat true s) := by
  rw [neat, if_pos hc]

theorem neat_solid (hc : isSpace c = false) : neat p (c :: s) = neat false s := by
  rw [neat, hc]
  rfl

/-- A blank splits a neat text into two. -/
theorem neat_append_space (hc : isSpace c) : neat p (x ++ c :: s) = (neat p x && neat true s) := by
  induction x generalizing p with
  | nil => exact neat_space hc
  | cons d x ih =>
      by_cases hd : isSpace d
      · rw [List.cons_append, neat_space hd, neat_space hd, ih, Bool.and_assoc]
      · rw [List.cons_append, neat_solid (Bool.eq_false_iff.mpr hd), neat_solid (Bool.eq_false_iff.mpr hd), ih]

/-- After a character that is no blank, a neat text goes on as at its start. -/
theorem neat_append_solid (hc : isSpace c = false) :
    neat p (x ++ c :: s) = (neat p (x ++ [c]) && neat false s) := by
  induction x generalizing p with
  | nil =>
      rw [List.nil_append, List.nil_append, neat_solid hc, neat_solid hc]
      exact (Bool.true_and _).symm
  | cons d x ih =>
      by_cases hd : isSpace d
      · rw [List.cons_append, List.cons_append, neat_space hd, neat_space hd, ih, Bool.and_assoc]
      · rw [List.cons_append, List.cons_append, neat_solid (Bool.eq_false_iff.mpr hd),
          neat_solid (Bool.eq_false_iff.mpr hd), ih]

theorem neat_of_solid (hs : ∀ d ∈ s, isSpace d = false) (hne : s ≠ []) : neat p s = true := by
  induction s generalizing p with
  | nil => exact absurd rfl hne
  | cons d s ih =>
      obtain ⟨hd, hs⟩ := List.forall_mem_cons.mp hs
      rw [neat_solid hd]
      cases s with
      | nil => rfl
      | cons e s => exact ih hs (List.cons_ne_nil _ _)

theorem neat_ne_nil (h : neat true s = true) : s ≠ [] := by
  rintro rfl
  cases h

/-- **Neat pieces joined by a blank** are neat, and neat texts are made so. -/
theorem neat_intercalate {pieces : List (List Char)} (hc : isSpace c) (hne : pieces ≠ []) :
    neat true (List.intercalate [c] pieces) = true ↔ ∀ piece ∈ pieces, neat true piece = true := by
  induction pieces with
  | nil => exact absurd rfl hne
  | cons piece pieces ih =>
      cases pieces with
      | nil =>
          rw [List.intercalate_singleton]
          exact ⟨fun h q hq => List.mem_singleton.mp hq ▸ h, fun h => h piece List.mem_cons_self⟩
      | cons piece' pieces =>
          rw [List.intercalate_cons_cons, List.append_assoc, List.singleton_append, neat_append_space hc,
            Bool.and_eq_true, ih (List.cons_ne_nil _ _), List.forall_mem_cons (a := piece)]

theorem neat_strip (h : neat true s = true) : strip s = s := by
  have hhead : ∀ {y : List Char}, neat true y = true → y.dropWhile isSpace = y := by
    intro y hy
    cases y with
    | nil => rfl
    | cons d y =>
        by_cases hd : isSpace d
        · rw [neat_space hd] at hy
          cases hy
        · rw [List.dropWhile_cons_of_neg hd]
  have hlast : s.reverse.dropWhile isSpace = s.reverse := by
    rcases List.eq_nil_or_concat s with rfl | ⟨y, d, rfl⟩
    · rfl
    · by_cases hd : isSpace d
      · rw [List.concat_eq_append, neat_append_space hd, Bool.and_eq_true] at h
        cases h.2
      · rw [List.concat_eq_append, List.reverse_append, List.reverse_singleton, List.singleton_append,
          List.dropWhile_cons_of_neg hd]
  rw [strip, hhead h, hlast, List.reverse_reverse]

/-- A secret and what replaces it end in characters that are no blanks. -/
theorem Secret.neat {x : Secret} {tail : List Char} (h : WeFlow.neat p (x.text ++ tail) = true) :
    WeFlow.neat false tail = true ∧
      ∀ rest, WeFlow.neat false rest = true → WeFlow.neat p (x.redacted ++ rest) = true := by
  obtain ⟨value, l, hvalue⟩ := (List.eq_nil_or_concat x.value).resolve_left x.value_ne
  have hl : isSpace l = false := not_isSpace_of_isValue (x.isValue l (by rw [hvalue]; simp))
  obtain ⟨name, d, hname, hd⟩ := x.isName.last
  have htext : x.text ++ tail = (x.name ++ (x.before ++ x.sep :: (x.after ++ value))) ++ l :: tail := by
    rw [x.text_append, hvalue]
    simp
  rw [htext, neat_append_solid hl, Bool.and_eq_true] at h
  refine ⟨h.2, fun rest hrest => ?_⟩
  have hfirst : WeFlow.neat p (name ++ [d]) = true := by
    have hwhole := h.1
    rw [hname] at hwhole
    simp only [List.append_assoc, List.cons_append, List.nil_append] at hwhole
    rw [neat_append_solid hd, Bool.and_eq_true] at hwhole
    exact hwhole.1
  have hmark : WeFlow.neat false ('=' :: "[REDACTED".toList ++ [']']) = true := by
    decide
  have hredacted : x.redacted ++ rest = name ++ d :: (('=' :: "[REDACTED".toList) ++ ']' :: rest) := by
    have hlast : redactedValue = "[REDACTED".toList ++ [']'] := by
      decide
    rw [Secret.redacted, hname, hlast]
    simp
  rw [hredacted, neat_append_solid hd, hfirst, Bool.true_and, neat_append_solid (by decide), hmark, hrest]
  rfl

theorem neat_cons_of (hs : neat p (c :: s) = true) {out : List Char}
    (hkeep : ∀ q, neat q s = true → neat q out = true) : neat p (c :: out) = true := by
  by_cases hc : isSpace c
  · rw [neat_space hc, Bool.and_eq_true] at hs ⊢
    exact ⟨hs.1, hkeep true hs.2⟩
  · rw [neat_solid (Bool.eq_false_iff.mpr hc)] at hs ⊢
    exact hkeep false hs

/-- **Redaction keeps a text neat.** -/
theorem Redacts.neat {b : Bool} {out : List Char} (h : Redacts b s out) (hs : WeFlow.neat p s = true) :
    WeFlow.neat p out = true := by
  induction h generalizing p with
  | nil => exact hs
  | keep hnone hrest ih => exact neat_cons_of hs fun _ => ih
  | last x => exact (Secret.neat hs).2 [] rfl
  | next x hd hrest ih =>
      obtain ⟨htail, hmake⟩ := Secret.neat hs
      exact hmake _ (neat_cons_of htail fun _ => ih)

theorem Redacts.mem {b : Bool} {out : List Char} (h : Redacts b s out) :
    ∀ c ∈ out, c ∈ s ∨ c = '=' ∨ c ∈ redactedValue := by
  have hsecret : ∀ {x : Secret} {tail rest : List Char}, (∀ c ∈ rest, c ∈ tail ∨ c = '=' ∨ c ∈ redactedValue) →
      ∀ c ∈ x.redacted ++ rest, c ∈ x.text ++ tail ∨ c = '=' ∨ c ∈ redactedValue := by
    intro x tail rest hrest c hc
    rw [Secret.redacted, List.append_assoc, List.mem_append] at hc
    rcases hc with hname | hc
    · exact .inl (x.text_append tail ▸ List.mem_append_left _ hname)
    rcases List.mem_cons.mp hc with heq | hc
    · exact .inr (.inl heq)
    rcases List.mem_append.mp hc with hvalue | hc
    · exact .inr (.inr hvalue)
    · exact (hrest c hc).imp_left (List.mem_append_right _)
  have hcons : ∀ {d : Char} {tail rest : List Char}, (∀ c ∈ rest, c ∈ tail ∨ c = '=' ∨ c ∈ redactedValue) →
      ∀ c ∈ d :: rest, c ∈ d :: tail ∨ c = '=' ∨ c ∈ redactedValue := by
    intro d tail rest hrest
    refine List.forall_mem_cons.mpr ⟨.inl List.mem_cons_self, fun c hc => ?_⟩
    exact (hrest c hc).imp_left (List.mem_cons_of_mem _)
  induction h with
  | nil => exact fun c hc => .inl hc
  | keep hnone hrest ih => exact hcons ih
  | last x => exact hsecret fun c hc => .inl hc
  | next x hd hrest ih => exact hsecret (hcons ih)

end Neat

/-! ## The normalized text -/

def IsAscii (s : List Char) : Prop := ∀ c ∈ s, c.toNat < 128

/-- A character of a normalized text. -/
def IsNormalized (c : Char) : Prop := c = '\n' ∨ (32 ≤ c.toNat ∧ c.toNat ≤ 126)

section Normalized

variable {p : Char → Bool} {s u : List Char}

theorem mem_splitOnP {piece : List Char} (hpiece : piece ∈ s.splitOnP p) :
    ∀ c ∈ piece, c ∈ s ∧ p c = false := by
  induction s generalizing piece with
  | nil =>
      obtain rfl := List.mem_singleton.mp hpiece
      exact fun _ hc => absurd hc List.not_mem_nil
  | cons d s ih =>
      rw [List.splitOnP_cons_eq_if_modifyHead] at hpiece
      have hlater : ∀ q ∈ s.splitOnP p, ∀ c ∈ q, c ∈ d :: s ∧ p c = false := fun q hq c hc =>
        (ih hq c hc).imp_left (List.mem_cons_of_mem d)
      by_cases hd : p d
      · rw [if_pos hd] at hpiece
        rcases List.mem_cons.mp hpiece with rfl | hpiece
        · exact fun _ hc => absurd hc List.not_mem_nil
        · exact hlater piece hpiece
      · rw [if_neg hd] at hpiece
        obtain ⟨first, later, hsplit⟩ := List.exists_cons_of_ne_nil (List.splitOnP_ne_nil p s)
        rw [hsplit, List.modifyHead_cons] at hpiece
        rcases List.mem_cons.mp hpiece with rfl | hpiece
        · refine List.forall_mem_cons.mpr ⟨⟨List.mem_cons_self, Bool.eq_false_iff.mpr hd⟩, ?_⟩
          exact hlater first (hsplit ▸ List.mem_cons_self)
        · exact hlater piece (hsplit ▸ List.mem_cons_of_mem _ hpiece)

theorem mem_intercalate {sep : Char} {pieces : List (List Char)} {c : Char}
    (hc : c ∈ List.intercalate [sep] pieces) : c = sep ∨ ∃ piece ∈ pieces, c ∈ piece := by
  induction pieces with
  | nil => cases hc
  | cons piece pieces ih =>
      cases pieces with
      | nil =>
          rw [List.intercalate_singleton] at hc
          exact .inr ⟨piece, List.mem_cons_self, hc⟩
      | cons piece' pieces =>
          rw [List.intercalate_cons_cons, List.append_assoc, List.mem_append, List.singleton_append,
            List.mem_cons] at hc
          rcases hc with hc | rfl | hc
          · exact .inr ⟨piece, List.mem_cons_self, hc⟩
          · exact .inl rfl
          · rcases ih hc with rfl | ⟨q, hq, hmem⟩
            · exact .inl rfl
            · exact .inr ⟨q, List.mem_cons_of_mem _ hq, hmem⟩

/-- Words joined by blanks are split into themselves. -/
theorem splitWords_intercalate {words : List (List Char)}
    (hwords : ∀ w ∈ words, w ≠ [] ∧ ∀ c ∈ w, isSpace c = false) :
    splitWords (List.intercalate [' '] words) = words := by
  induction words with
  | nil => rfl
  | cons w words ih =>
      obtain ⟨⟨hne, hsolid⟩, hwords⟩ := List.forall_mem_cons.mp hwords
      cases words with
      | nil =>
          rw [List.intercalate_singleton, splitWords, List.splitOnP_eq_singleton hsolid]
          simp [hne]
      | cons w' words =>
          rw [List.intercalate_cons_cons, List.append_assoc, List.singleton_append, splitWords,
            List.splitOnP_append_cons_of_forall_mem hsolid ' ' rfl]
          have hlater := ih hwords
          rw [splitWords] at hlater
          rw [List.filter_cons, if_pos (by simpa using hne), hlater]

/-- **What `tidyLines` makes** is empty or neat, and its characters are line breaks, single blanks, and
    those of the text that are no blanks. -/
theorem tidyLines_spec (u : List Char) : (tidyLines u = [] ∨ neat true (tidyLines u) = true) ∧
    ∀ c ∈ tidyLines u, c = '\n' ∨ c = ' ' ∨ (c ∈ u ∧ isSpace c = false) := by
  let lines := (u.splitOn '\n').map fun line => List.intercalate [' '] (splitWords line)
  have hchars : ∀ l ∈ lines, ∀ c ∈ l, c = ' ' ∨ (c ∈ u ∧ isSpace c = false) := by
    intro l hl c hc
    obtain ⟨line, hline, rfl⟩ := List.mem_map.mp hl
    rcases mem_intercalate hc with rfl | ⟨w, hw, hmem⟩
    · exact .inl rfl
    · obtain ⟨hcline, hspace⟩ := mem_splitOnP (List.mem_of_mem_filter hw) c hmem
      exact .inr ⟨(mem_splitOnP hline c hcline).1, hspace⟩
  have hneat : ∀ l ∈ lines, l ≠ [] → neat true l = true := by
    intro l hl hne
    obtain ⟨line, -, rfl⟩ := List.mem_map.mp hl
    have hwords : splitWords line ≠ [] := by
      intro hnil
      rw [hnil] at hne
      exact hne rfl
    refine (neat_intercalate rfl hwords).mpr fun w hw => ?_
    obtain ⟨hpiece, hwne⟩ := List.mem_filter.mp hw
    exact neat_of_solid (fun d hd => (mem_splitOnP hpiece d hd).2) (of_decide_eq_true hwne)
  have hsplit : (List.intercalate ['\n'] lines).splitOn '\n' = lines := by
    refine List.splitOn_intercalate '\n' (fun l hl hmem => ?_) ?_
    · rcases hchars l hl _ hmem with h | ⟨-, h⟩
      · cases h
      · cases h
    · exact List.map_eq_nil_iff.not.mpr (List.splitOn_ne_nil _ _)
  have htidy : tidyLines u = strip (List.intercalate ['\n'] (lines.filter (· ≠ []))) := by
    show strip (List.intercalate ['\n'] (((List.intercalate ['\n'] lines).splitOn '\n').filter (· ≠ []))) = _
    rw [hsplit]
  by_cases hkept : lines.filter (· ≠ []) = []
  · have hnil : tidyLines u = [] := by
      rw [htidy, hkept]
      rfl
    rw [hnil]
    exact ⟨.inl rfl, fun _ hc => absurd hc List.not_mem_nil⟩
  · have hwhole : neat true (List.intercalate ['\n'] (lines.filter (· ≠ []))) = true := by
      refine (neat_intercalate rfl hkept).mpr fun l hl => ?_
      obtain ⟨hmem, hne⟩ := List.mem_filter.mp hl
      exact hneat l hmem (of_decide_eq_true hne)
    rw [htidy, neat_strip hwhole]
    refine ⟨.inr hwhole, fun c hc => ?_⟩
    rcases mem_intercalate hc with rfl | ⟨l, hl, hmem⟩
    · exact .inl rfl
    · exact .inr (hchars l (List.mem_of_mem_filter hl) c hmem)

/-- **A neat text is tidy.** -/
theorem tidyLines_eq (hneat : neat true s = true) (hs : ∀ c ∈ s, isSpace c → c = '\n' ∨ c = ' ') :
    tidyLines s = s := by
  have hjoin : List.intercalate ['\n'] (s.splitOn '\n') = s := List.intercalate_splitOn '\n'
  have hlines : ∀ line ∈ s.splitOn '\n', neat true line = true := by
    refine (neat_intercalate (c := '\n') rfl (List.splitOn_ne_nil _ _)).mp ?_
    rw [hjoin]
    exact hneat
  have hline : ∀ line ∈ s.splitOn '\n', List.intercalate [' '] (splitWords line) = line := by
    intro line hline
    have hwords : List.intercalate [' '] (line.splitOn ' ') = line := List.intercalate_splitOn ' '
    have hsplit : splitWords (List.intercalate [' '] (line.splitOn ' ')) = line.splitOn ' ' := by
      refine splitWords_intercalate fun w hw => ⟨?_, fun c hc => ?_⟩
      · refine neat_ne_nil ((neat_intercalate (c := ' ') rfl (List.splitOn_ne_nil _ _)).mp ?_ w hw)
        rw [hwords]
        exact hlines line hline
      · obtain ⟨hcline, hblank⟩ := mem_splitOnP hw c hc
        obtain ⟨hcs, hbreak⟩ := mem_splitOnP hline c hcline
        by_contra hspace
        rcases hs c hcs (Bool.not_eq_false _ ▸ hspace) with rfl | rfl
        · cases hbreak
        · cases hblank
    rw [hwords] at hsplit
    rw [hsplit, hwords]
  have hmap : (s.splitOn '\n').map (fun line => List.intercalate [' '] (splitWords line)) = s.splitOn '\n' := by
    rw [List.map_congr_left hline, List.map_id']
  have hfilter : (s.splitOn '\n').filter (· ≠ []) = s.splitOn '\n' :=
    List.filter_eq_self.mpr fun line hmem => decide_eq_true (neat_ne_nil (hlines line hmem))
  rw [tidyLines, hmap, hjoin, hfilter, hjoin, neat_strip hneat]

theorem mem_replaceCrLf : ∀ c ∈ replaceCrLf s, c = '\n' ∨ c ∈ s := by
  fun_induction replaceCrLf s with
  | case1 s ih =>
      refine List.forall_mem_cons.mpr ⟨.inl rfl, fun d hd => ?_⟩
      exact (ih d hd).imp_right fun h => List.mem_cons_of_mem _ (List.mem_cons_of_mem _ h)
  | case2 c s hne ih =>
      refine List.forall_mem_cons.mpr ⟨.inr List.mem_cons_self, fun d hd => ?_⟩
      exact (ih d hd).imp_right (List.mem_cons_of_mem _)
  | case3 => exact fun _ hd => absurd hd List.not_mem_nil

theorem mem_replaceCr {c : Char} (hc : c ∈ replaceCr (replaceCrLf s)) : c = '\n' ∨ c ∈ s := by
  obtain ⟨d, hd, rfl⟩ := List.mem_map.mp hc
  by_cases hcr : d = '\r'
  · rw [if_pos hcr]
    exact .inl rfl
  · rw [if_neg hcr]
    exact mem_replaceCrLf d hd

theorem replaceCr_eq (hs : '\r' ∉ s) : replaceCr (replaceCrLf s) = s := by
  have hcrlf : replaceCrLf s = s := by
    fun_induction replaceCrLf s with
    | case1 s ih => exact absurd List.mem_cons_self hs
    | case2 c s hne ih => rw [ih fun h => hs (List.mem_cons_of_mem _ h)]
    | case3 => rfl
  rw [hcrlf, replaceCr, List.map_congr_left (g := id), List.map_id]
  intro c hc
  show (if c = '\r' then '\n' else c) = c
  rw [if_neg]
  rintro rfl
  exact hs hc

/-- **A normalized text is normalized to itself.** -/
theorem normalizePrivateContent_eq {nfkc : String → String} {t : List Char} {candidate : Bool}
    (hnfkc : nfkc (String.ofList t) = String.ofList t) (hchars : ∀ c ∈ t, IsNormalized c)
    (hneat : neat true t = true) (hredact : redact false t = t) (hlength : t.length ≤ 1200)
    (hcandidate : candidate = true → Nowhere isWord Prohibited false t) :
    normalizePrivateContent nfkc (String.ofList t) candidate = .ok (String.ofList t) := by
  have hcr : '\r' ∉ t := by
    intro hmem
    rcases hchars _ hmem with h | ⟨h, -⟩
    · cases h
    · exact absurd h (by decide)
  have hcontrol : t.any isControl = false := by
    refine List.any_eq_false.mpr fun c hc => ?_
    rcases hchars c hc with rfl | ⟨hlow, hhigh⟩
    · decide
    · simp only [isControl, decide_eq_true_eq]
      omega
  have hspace : ∀ c ∈ t, isSpace c → c = '\n' ∨ c = ' ' := by
    intro c hc hblank
    refine (hchars c hc).imp_right fun ⟨hlow, hhigh⟩ => ?_
    simp only [isSpace, Bool.decide_or, Bool.or_eq_true, decide_eq_true_eq, Bool.decide_and,
      Bool.and_eq_true] at hblank
    have hnumber : c.toNat = 32 := by
      omega
    rw [← Char.ofNat_toNat c, hnumber]
  have hallowed : (candidate && search isWord prohibitedCandidate false t) = false := by
    cases candidate with
    | false => rfl
    | true => exact search_eq_false.mpr (hcandidate rfl)
  have hone : 1 ≤ t.length := List.length_pos_iff.mpr (neat_ne_nil hneat)
  simp only [normalizePrivateContent, hnfkc, String.toList_ofList, replaceCr_eq hcr, hcontrol,
    tidyLines_eq hneat hspace, hallowed, hredact, hone, hlength, decide_true, Bool.not_false, require,
    if_true]
  rfl

/-- A line of a neat text is not empty, and has no blank first, last or after a blank. -/
theorem line_of_neat (hneat : neat true s = true) {line : List Char} (hline : line ∈ s.splitOn '\n') :
    line ≠ [] ∧ line.head? ≠ some ' ' ∧ line.getLast? ≠ some ' ' ∧ ¬ [' ', ' '] <:+: line := by
  have hneat' : neat true line = true := by
    refine (neat_intercalate (c := '\n') rfl (List.splitOn_ne_nil _ _)).mp ?_ line hline
    rw [List.intercalate_splitOn '\n']
    exact hneat
  have hblank : isSpace ' ' = true := rfl
  refine ⟨neat_ne_nil hneat', fun hhead => ?_, fun hlast => ?_, ?_⟩
  · obtain ⟨rest, rfl⟩ := List.head?_eq_some_iff.mp hhead
    rw [neat_space hblank] at hneat'
    cases hneat'
  · obtain ⟨init, rfl⟩ := List.getLast?_eq_some_iff.mp hlast
    rw [neat_append_space hblank, Bool.and_eq_true] at hneat'
    cases hneat'.2
  · rintro ⟨x, y, rfl⟩
    rw [List.append_assoc, List.cons_append, neat_append_space hblank, Bool.and_eq_true, List.cons_append,
      neat_space hblank] at hneat'
    cases hneat'.2

/-- **What the function returns**: the redaction of a tidied text without control characters and, for a
    candidate, without prohibited content. -/
theorem normalizePrivateContent_ok {nfkc : String → String} {value t : String} {candidate : Bool}
    (h : normalizePrivateContent nfkc value candidate = .ok t) :
    ∃ u, u = replaceCr (replaceCrLf (nfkc value).toList) ∧ (∀ c ∈ u, isControl c = false) ∧
      (candidate = true → search isWord prohibitedCandidate false (tidyLines u) = false) ∧
      t = String.ofList (redact false (tidyLines u)) ∧ 1 ≤ (redact false (tidyLines u)).length ∧
      (redact false (tidyLines u)).length ≤ 1200 := by
  simp only [normalizePrivateContent, require_bind_eq_ok] at h
  obtain ⟨hcontrol, hallowed, hone, hlength, ht⟩ := h
  refine ⟨_, rfl, fun c hc => ?_, fun hcandidate => ?_, (Except.ok.inj ht).symm, of_decide_eq_true hone,
    of_decide_eq_true hlength⟩
  · rw [Bool.not_eq_true', List.any_eq_false] at hcontrol
    exact Bool.eq_false_iff.mpr (hcontrol c hc)
  · rw [hcandidate, Bool.true_and, Bool.not_eq_true'] at hallowed
    exact hallowed

end Normalized

/-- **Private content is normalized to a fixed point.** What the function makes of an ASCII text has between 1
    and 1200 characters, no control character but line breaks, no empty line and no leading, trailing or
    doubled blank in a line; wherever a secret is assigned in it, the value is `[REDACTED]`; and it is
    normalized to itself, as what it was and as an issue. -/
theorem private_content_fixed (nfkc : String → String) (hnfkc : ∀ s, IsAscii s.toList → nfkc s = s)
    (s t : String) (candidate : Bool) (hs : IsAscii s.toList)
    (h : normalizePrivateContent nfkc s candidate = .ok t) :
    (1 ≤ t.length ∧ t.length ≤ 1200) ∧
    (∀ c ∈ t.toList, IsNormalized c) ∧
    (∀ line ∈ t.toList.splitOn '\n',
      line ≠ [] ∧ line.head? ≠ some ' ' ∧ line.getLast? ≠ some ' ' ∧ ¬ [' ', ' '] <:+: line) ∧
    (∀ x y m, t.toList = x ++ y → first isWord secretAssignment (wordAfter isWord false x) y = some m →
      m.groups[1]? = some redactedValue) ∧
    normalizePrivateContent nfkc t candidate = .ok t ∧ normalizePrivateContent nfkc t false = .ok t := by
  obtain ⟨u, hu, hcontrol, hallowed, rfl, hone, hlength⟩ := normalizePrivateContent_ok h
  obtain ⟨hneat, htidy⟩ := tidyLines_spec u
  have hredacts := redacts_redact false (tidyLines u)
  generalize hout : redact false (tidyLines u) = out at hredacts hone hlength
  have hneat' : neat true (tidyLines u) = true := by
    refine hneat.resolve_left fun hnil => ?_
    rw [hnil] at hout
    rw [← hout] at hone
    cases hone
  have houtneat : neat true out = true := hredacts.neat hneat'
  have hu_ascii : ∀ c ∈ u, c.toNat < 128 := by
    intro c hc
    rw [hu, hnfkc s hs] at hc
    rcases mem_replaceCr hc with rfl | hmem
    · decide
    · exact hs c hmem
  have hchars : ∀ c ∈ out, IsNormalized c := by
    intro c hc
    rcases hredacts.mem c hc with htext | rfl | hvalue
    · rcases htidy c htext with hbreak | rfl | ⟨hmem, hblank⟩
      · exact .inl hbreak
      · exact .inr (by decide)
      · have hfree := hcontrol c hmem
        have hlow := hu_ascii c hmem
        simp only [isControl, isSpace, decide_eq_false_iff_not] at hfree hblank
        exact .inr (by omega)
    · exact .inr (by decide)
    · have hall : ∀ c ∈ redactedValue, 32 ≤ c.toNat ∧ c.toNat ≤ 126 :=
        List.all_iff_forall_prop.mp (by decide)
      exact .inr (hall c hvalue)
  have hsame : nfkc (String.ofList out) = String.ofList out := by
    refine hnfkc _ fun c hc => ?_
    rw [String.toList_ofList] at hc
    rcases hchars c hc with rfl | ⟨-, hhigh⟩
    · decide
    · omega
  rw [String.length_ofList, String.toList_ofList]
  refine ⟨⟨hone, hlength⟩, hchars, fun line hline => line_of_neat houtneat hline, ?_, ?_, ?_⟩
  · intro x y m hsplit hm
    by_contra hne
    exact nowhere_iff.mp hredacts.values x y hsplit ⟨m, hm, hne⟩
  · refine normalizePrivateContent_eq hsame hchars houtneat hredacts.redact_eq hlength fun hcandidate => ?_
    exact hredacts.prohibited (search_eq_false.mp (hallowed hcandidate))
  · exact normalizePrivateContent_eq hsame hchars houtneat hredacts.redact_eq hlength (fun hf => by cases hf)

/-- A password that is assigned over a line break. -/
theorem private_content_fixed_password :
    normalizePrivateContent id "  Api  503\r\n\r\n password :\n x,y" true = .ok "Api 503\npassword=[REDACTED],y" ∧
      normalizePrivateContent id "Api 503\npassword=[REDACTED],y" true = .ok "Api 503\npassword=[REDACTED],y" := by
  have hfirst : normalizePrivateContent id "  Api  503\r\n\r\n password :\n x,y" true =
      .ok "Api 503\npassword=[REDACTED],y" := by
    decide +kernel
  have hascii : IsAscii "  Api  503\r\n\r\n password :\n x,y".toList :=
    List.all_iff_forall_prop.mp (by decide)
  exact ⟨hfirst, (private_content_fixed id (fun _ _ => rfl) _ _ true hascii hfirst).2.2.2.2.1⟩

end WeFlow
