import WeFlow.Handler.Redaction

/-!
# `Text` — the redaction of a diagnostic text

`redact_text` of the telemetry package: connection strings first, then the values that a text assigns to the names
of secrets. The patterns are those of the source, with the letters that `re.I` adds to the ASCII ones. `\w`, which
decides the word boundaries, is any class of characters.

A replacement ends in `]` and has no `:` and no `/`, so no scheme and no `://` of the result reaches into
one (`Subbed.nowhere`). The assignments are followed as in the redaction of replies, by `Agrees`.

## Contents

* `connectionString`, `assignment`, `redactText` — the patterns and the substitutions.
* `Connects`, `Assignment` — what the matches are.
* `Subbed` — what `sub` makes of a text.
* `redactText_clean`, `redactText_redactText` — a redacted text is clean, and redacted to itself.
-/

namespace WeFlow.Telemetry

open Regex

/-! ## The patterns -/

/-- A letter of a pattern under `re.I`. -/
def foldCase (l c : Char) : Bool :=
  eitherCase l c || (l = 'i' && (c = 'İ' || c = 'ı')) || (l = 's' && c = 'ſ') || (l = 'k' && c = 'K')

/-- `[a-z]` under `re.I`. -/
def isLetter (c : Char) : Bool :=
  ('a' ≤ c && c ≤ 'z') || ('A' ≤ c && c ≤ 'Z') || c = 'İ' || c = 'ı' || c = 'ſ' || c = 'K'

/-- `[a-z0-9+.-]` under `re.I`. -/
def isSchemeChar (c : Char) : Bool := isLetter c || c.isDigit || c = '+' || c = '.' || c = '-'

/-- A word under `re.I`. -/
def folded (w : String) : Regex Char := .literal foldCase w.toList

/-- `[^\s,;]+`. -/
def values : Regex Char := .seq (.one isValue) (.many isValue)

/-- `_CONNECTION_STRING`. -/
def connectionString : Regex Char :=
  .seq .boundary (.seq (.one isLetter) (.seq (.many isSchemeChar)
    (.seq (.literal (fun a b => decide (a = b)) "://".toList) values)))

/-- `api[_-]?key|token|secret|password|credential|authorization`. -/
def secretKey : Regex Char :=
  .alt (.seq (folded "api") (.seq (.opt (.one fun c => c = '_' || c = '-')) (folded "key")))
    (.alt (folded "token") (.alt (folded "secret") (.alt (folded "password")
      (.alt (folded "credential") (folded "authorization")))))

/-- `_ASSIGNMENT`, whose group is the key. -/
def assignment : Regex Char :=
  .seq (.group secretKey) (.seq (.many isSpace) (.seq (.one isSep) (.seq (.many isSpace) values)))

/-- `[REDACTED_CONNECTION]`. -/
def redactedConnection : List Char := "[REDACTED_CONNECTION]".toList

section Scan

variable (word : Char → Bool)

/-- `_CONNECTION_STRING.sub`. -/
def redactConnections (s : List Char) : List Char := sub word connectionString (fun _ => redactedConnection) false s

/-- `_ASSIGNMENT.sub`. -/
def redactAssignments (s : List Char) : List Char := sub word assignment redactMatch false s

/-- **`redact_text`.** -/
def redactText (value : String) : String :=
  .ofList (redactAssignments word (redactConnections word value.toList))

end Scan

/-! ## Characters -/

/-- The characters of a key. -/
def isNameChar (c : Char) : Bool := isLetter c || c = '_' || c = '-'

theorem isLetter_iff {c : Char} : isLetter c = true ↔
    ('a' ≤ c ∧ c ≤ 'z') ∨ ('A' ≤ c ∧ c ≤ 'Z') ∨ c ∈ ['İ', 'ı', 'ſ', 'K'] := by
  simp [isLetter, or_assoc]

/-- What is no letter, tested on the numbers of the characters. -/
theorem toNat_of_isLetter {c : Char} (h : isLetter c = true) :
    (97 ≤ c.toNat ∧ c.toNat ≤ 122) ∨ (65 ≤ c.toNat ∧ c.toNat ≤ 90) ∨
      c.toNat = 304 ∨ c.toNat = 305 ∨ c.toNat = 383 ∨ c.toNat = 8490 := by
  rcases isLetter_iff.mp h with ⟨hlow, hhigh⟩ | ⟨hlow, hhigh⟩ | hmem
  · exact .inl ⟨hlow, hhigh⟩
  · exact .inr (.inl ⟨hlow, hhigh⟩)
  · simp only [List.mem_cons, List.not_mem_nil, or_false] at hmem
    rcases hmem with rfl | rfl | rfl | rfl <;> decide

theorem isValue_of_isLetter {c : Char} (h : isLetter c = true) : isValue c = true := by
  have hnum := toNat_of_isLetter h
  have hspace : isSpace c = false := by
    simp only [isSpace, decide_eq_false_iff_not]
    omega
  have hcomma : c ≠ ',' := by
    rintro rfl
    exact absurd hnum (by decide)
  have hsemicolon : c ≠ ';' := by
    rintro rfl
    exact absurd hnum (by decide)
  simp [isValue, hspace, hcomma, hsemicolon]

theorem isNameChar_facts {c : Char} (h : isNameChar c = true) :
    isValue c = true ∧ isSep c = false ∧ isSpace c = false ∧ c ≠ ']' := by
  have hvalue : isValue c = true := by
    simp only [isNameChar, Bool.or_eq_true, decide_eq_true_eq] at h
    rcases h with (h | rfl) | rfl
    · exact isValue_of_isLetter h
    · decide
    · decide
  have hnot : ∀ d, d = ':' ∨ d = '=' ∨ d = ']' → c ≠ d := by
    rintro d (rfl | rfl | rfl) rfl <;> exact absurd h (by decide)
  refine ⟨hvalue, ?_, not_isSpace_of_isValue hvalue, hnot ']' (.inr (.inr rfl))⟩
  by_contra hsep
  rw [Bool.not_eq_false] at hsep
  rcases isSep_iff.mp hsep with hcolon | heq
  · exact hnot ':' (.inl rfl) hcolon
  · exact hnot '=' (.inr (.inl rfl)) heq

/-- No scheme has a character of the replacements' end or of `://`. -/
theorem isSchemeChar_ne {c : Char} (h : isSchemeChar c = true) : c ≠ ']' := by
  rintro rfl
  exact absurd h (by decide)

/-- A plain pattern reads the same with any word characters, and after any. -/
theorem plain_run_eq {r : Regex Char} (hr : r.Plain) (word word' : Char → Bool) (b b' : Bool) (s : List Char) :
    Regex.run word r b s = Regex.run word' r b' s := by
  induction r generalizing b b' s with
  | empty => rfl
  | one p => cases s <;> rfl
  | many p => rfl
  | boundary => cases hr
  | seq r q ihr ihq =>
    rw [Regex.run, Regex.run, ihr hr.1 b b' s]
    apply List.flatMap_congr
    intro m _
    rw [ihq hr.2]
  | alt r q ihr ihq => rw [Regex.run, Regex.run, ihr hr.1 b b' s, ihq hr.2 b b' s]
  | group r ih =>
    have hr' : r.Plain := hr
    rw [Regex.run, Regex.run, ih hr' b b' s]

/-! ## Connection strings -/

section Matches

variable {word : Char → Bool} {b : Bool} {s : List Char} {m : Found Char}

/-- A connection string begins here: a letter at a word boundary, the rest of the scheme, `://` and a value. -/
def Connects (word : Char → Bool) (b : Bool) (s : List Char) : Prop :=
  ∃ l scheme v rest, s = l :: (scheme ++ ':' :: '/' :: '/' :: v :: rest) ∧ isLetter l = true ∧
    (∀ c ∈ scheme, isSchemeChar c = true) ∧ isValue v = true ∧ b ≠ word l

theorem run_values (h : m ∈ Regex.run word values b s) :
    m.groups = [] ∧ m.text ≠ [] ∧ ∀ c ∈ m.text, isValue c = true := by
  obtain ⟨y, hy, z, hz, rfl⟩ := mem_run_seq.mp h
  obtain ⟨hygroups, c, hc, hytext, -⟩ := mem_run_one.mp hy
  obtain ⟨hzgroups, -, hall⟩ := mem_runMany.mp hz
  refine ⟨?_, ?_, ?_⟩
  · show y.groups ++ z.groups = []
    rw [hygroups, hzgroups]
    rfl
  · show y.text ++ z.text ≠ []
    rw [hytext]
    exact List.cons_ne_nil _ _
  · show ∀ d ∈ y.text ++ z.text, isValue d = true
    rw [hytext]
    exact List.forall_mem_cons.mpr ⟨hc, hall⟩

/-- The value of a match is read as far as it goes. -/
theorem first_values (h : first word values b s = some m) : ValueEnds m.rest := by
  obtain ⟨y, hy, z, hz, rfl⟩ := first_seq h
  have hends : ValueEnds z.rest := first_many hz
  exact hends

theorem mem_values {value rest : List Char} (hne : value ≠ []) (hvalue : ∀ c ∈ value, isValue c = true) :
    ⟨value, [], rest⟩ ∈ Regex.run word values b (value ++ rest) := by
  obtain ⟨c, value, rfl⟩ := List.exists_cons_of_ne_nil hne
  obtain ⟨hc, hall⟩ := List.forall_mem_cons.mp hvalue
  exact mem_run_seq.mpr ⟨⟨[c], [], value ++ rest⟩, mem_run_one.mpr ⟨rfl, c, hc, rfl, rfl⟩,
    ⟨value, [], rest⟩, mem_runMany.mpr ⟨rfl, rfl, hall⟩, rfl⟩

/-- `://` is read as it is. -/
theorem mem_slashes : m ∈ Regex.run word (.literal (fun a b => decide (a = b)) "://".toList) b s →
    m.text = [':', '/', '/'] := by
  intro h
  obtain ⟨-, hsame⟩ := mem_run_literal h
  have hlist : "://".toList = [':', '/', '/'] := by decide
  rw [hlist] at hsame
  generalize m.text = text at hsame ⊢
  cases hsame with
  | cons h1 hsame => cases hsame with
    | cons h2 hsame => cases hsame with
      | cons h3 hsame =>
        cases hsame
        rw [← of_decide_eq_true h1, ← of_decide_eq_true h2, ← of_decide_eq_true h3]

/-- **A reading of the pattern** is a connection string. -/
theorem run_connection (h : m ∈ Regex.run word connectionString b s) :
    Connects word b s ∧ ∃ c x, m.text = c :: x ∧ isLetter c = true := by
  have hsplit := run_split h
  obtain ⟨x₀, hx₀, y₀, hy₀, rfl⟩ := mem_run_seq.mp h
  obtain ⟨hb, rfl⟩ := mem_run_boundary.mp hx₀
  obtain ⟨x₁, hx₁, y₁, hy₁, rfl⟩ := mem_run_seq.mp hy₀
  obtain ⟨-, l, hl, htext₁, -⟩ := mem_run_one.mp hx₁
  obtain ⟨x₂, hx₂, y₂, hy₂, rfl⟩ := mem_run_seq.mp hy₁
  obtain ⟨-, -, hscheme⟩ := mem_runMany.mp hx₂
  obtain ⟨x₃, hx₃, y₃, hy₃, rfl⟩ := mem_run_seq.mp hy₂
  have hslashes := mem_slashes hx₃
  obtain ⟨-, hne, hvalue⟩ := run_values hy₃
  obtain ⟨v, value, hv⟩ := List.exists_cons_of_ne_nil hne
  have htext : s = l :: (x₂.text ++ ':' :: '/' :: '/' :: v :: (value ++ y₃.rest)) := by
    rw [hsplit]
    show ([] ++ (x₁.text ++ (x₂.text ++ (x₃.text ++ y₃.text)))) ++ y₃.rest = _
    rw [htext₁, hslashes, hv]
    simp
  refine ⟨⟨l, x₂.text, v, value ++ y₃.rest, htext, hl, hscheme, hvalue v (hv ▸ List.mem_cons_self), ?_⟩,
    l, x₂.text ++ (x₃.text ++ y₃.text), ?_, hl⟩
  · rw [htext, wordAhead_cons] at hb
    exact hb
  · show [] ++ (x₁.text ++ (x₂.text ++ (x₃.text ++ y₃.text))) = _
    rw [htext₁]
    rfl

/-- The pattern matches where a connection string begins. -/
theorem first_connection_isSome : (first word connectionString b s).isSome ↔ Connects word b s := by
  rw [first_isSome]
  constructor
  · rintro ⟨m, hm⟩
    exact (run_connection hm).1
  · rintro ⟨l, scheme, v, rest, rfl, hl, hscheme, hv, hb⟩
    have hslashes : ⟨[':', '/', '/'], [], v :: rest⟩ ∈ Regex.run word
        (.literal (fun a b => decide (a = b)) "://".toList) (wordAfter word (word l) scheme)
        (':' :: '/' :: '/' :: v :: rest) := by
      have hlist : "://".toList = [':', '/', '/'] := by decide
      rw [hlist]
      simp [Regex.literal, Regex.run]
    have hvalue : ⟨[v], [], rest⟩ ∈ Regex.run word values
        (wordAfter word (wordAfter word (word l) scheme) [':', '/', '/']) (v :: rest) :=
      mem_values (List.cons_ne_nil v []) fun c hc => List.mem_singleton.mp hc ▸ hv
    exact ⟨_, mem_run_seq.mpr ⟨_, mem_run_boundary.mpr ⟨hb, rfl⟩, _,
      mem_run_seq.mpr ⟨⟨[l], [], _⟩, mem_run_one.mpr ⟨rfl, l, hl, rfl, rfl⟩, _,
      mem_run_seq.mpr ⟨⟨scheme, [], _⟩, mem_runMany.mpr ⟨rfl, rfl, hscheme⟩, _,
      mem_run_seq.mpr ⟨_, hslashes, _, hvalue, rfl⟩, rfl⟩, rfl⟩, rfl⟩⟩

/-- The value of a connection string is replaced with it, to its end. -/
theorem first_connection_ends (h : first word connectionString b s = some m) : ValueEnds m.rest := by
  obtain ⟨x₀, -, y₀, hy₀, rfl⟩ := first_seq h
  obtain ⟨x₁, -, y₁, hy₁, rfl⟩ := first_seq hy₀
  obtain ⟨x₂, -, y₂, hy₂, rfl⟩ := first_seq hy₁
  obtain ⟨x₃, -, y₃, hy₃, rfl⟩ := first_seq hy₂
  have hends : ValueEnds y₃.rest := first_values hy₃
  exact hends

/-! ## Assignments -/

/-- What `secretKey` reads. -/
def IsSecretKey (name : List Char) : Prop := ⟨name, [], []⟩ ∈ Regex.run (fun _ => false) secretKey false name

/-- An assignment: the name of a secret, what stands between, and its value. -/
structure Assignment where
  name : List Char
  before : List Char
  sep : Char
  after : List Char
  value : List Char
  isName : IsSecretKey name
  before_space : ∀ c ∈ before, isSpace c = true
  isSep : isSep sep = true
  after_space : ∀ c ∈ after, isSpace c = true
  value_ne : value ≠ []
  isValue : ∀ c ∈ value, isValue c = true

namespace Assignment

def text (x : Assignment) : List Char := x.name ++ (x.before ++ x.sep :: (x.after ++ x.value))

theorem text_append (x : Assignment) (rest : List Char) :
    x.text ++ rest = x.name ++ (x.before ++ x.sep :: (x.after ++ (x.value ++ rest))) := by
  simp [text]

/-- What the assignment is replaced by. -/
def redacted (x : Assignment) : List Char := x.name ++ '=' :: redactedValue

end Assignment

/-- What a word reads, letter by letter. -/
theorem run_folded {w : String} (hw : ∀ l ∈ w.toList, isLetter l.toLower = true ∧ isLetter l.toUpper = true)
    (h : m ∈ Regex.run word (folded w) b s) : m.groups = [] ∧ ∀ c ∈ m.text, isNameChar c = true := by
  obtain ⟨hgroups, hsame⟩ := mem_run_literal h
  refine ⟨hgroups, ?_⟩
  have hletter : ∀ l c, isLetter l.toLower = true ∧ isLetter l.toUpper = true → foldCase l c = true →
      isNameChar c = true := by
    intro l c hl hc
    have hc' : isLetter c = true := by
      simp only [foldCase, eitherCase, Bool.or_eq_true, Bool.and_eq_true, decide_eq_true_eq] at hc
      rcases hc with (((rfl | rfl) | ⟨-, rfl | rfl⟩) | ⟨-, rfl⟩) | ⟨-, rfl⟩
      · exact hl.1
      · exact hl.2
      all_goals decide
    simp [isNameChar, hc']
  generalize w.toList = letters at hw hsame
  generalize m.text = text at hsame
  induction hsame with
  | nil =>
    intro c hc
    exact absurd hc List.not_mem_nil
  | cons hhead _ ih =>
    obtain ⟨hl, hrest⟩ := List.forall_mem_cons.mp hw
    exact List.forall_mem_cons.mpr ⟨hletter _ _ hl hhead, ih hrest⟩

/-- The words of the keys have letters only. -/
theorem folded_letters : ∀ w ∈ ["api", "key", "token", "secret", "password", "credential", "authorization"],
    ∀ l ∈ w.toList, isLetter l.toLower = true ∧ isLetter l.toUpper = true := by
  intro w hw
  have hall : (["api", "key", "token", "secret", "password", "credential", "authorization"].all fun w =>
      w.toList.all fun l => decide (isLetter l.toLower = true ∧ isLetter l.toUpper = true)) = true := by
    decide +kernel
  exact List.all_iff_forall_prop.mp (List.all_eq_true.mp hall w hw)

/-- What stands between the two words of `api_key`. -/
theorem run_joint (h : m ∈ Regex.run word (.opt (.one fun c => c = '_' || c = '-')) b s) :
    m.groups = [] ∧ ∀ c ∈ m.text, isNameChar c = true := by
  rcases mem_run_alt.mp h with h | h
  · obtain ⟨hgroups, c, hc, htext, -⟩ := mem_run_one.mp h
    refine ⟨hgroups, ?_⟩
    rw [htext]
    intro d hd
    obtain rfl := List.mem_singleton.mp hd
    simp only [Bool.or_eq_true, decide_eq_true_eq] at hc
    rcases hc with rfl | rfl <;> decide
  · obtain rfl := mem_run_empty.mp h
    exact ⟨rfl, fun _ hc => absurd hc List.not_mem_nil⟩

/-- A key is read in its own characters, without groups. -/
theorem run_secretKey (h : m ∈ Regex.run word secretKey b s) :
    m.groups = [] ∧ ∀ c ∈ m.text, isNameChar c = true := by
  have hword : ∀ w ∈ ["api", "key", "token", "secret", "password", "credential", "authorization"],
      ∀ {b s} {m : Found Char}, m ∈ Regex.run word (folded w) b s →
        m.groups = [] ∧ ∀ c ∈ m.text, isNameChar c = true :=
    fun w hw _ _ _ hm => run_folded (folded_letters w hw) hm
  rcases mem_run_alt.mp h with h | h
  · obtain ⟨x, hx, y, hy, rfl⟩ := mem_run_seq.mp h
    obtain ⟨z, hz, k, hk, rfl⟩ := mem_run_seq.mp hy
    obtain ⟨hgroups₁, htext₁⟩ := hword "api" (by simp) hx
    obtain ⟨hgroups₂, htext₂⟩ := run_joint hz
    obtain ⟨hgroups₃, htext₃⟩ := hword "key" (by simp) hk
    constructor
    · show x.groups ++ (z.groups ++ k.groups) = []
      rw [hgroups₁, hgroups₂, hgroups₃]
      rfl
    · show ∀ c ∈ x.text ++ (z.text ++ k.text), isNameChar c = true
      exact List.forall_mem_append.mpr ⟨htext₁, List.forall_mem_append.mpr ⟨htext₂, htext₃⟩⟩
  rcases mem_run_alt.mp h with h | h
  · exact hword "token" (by simp) h
  rcases mem_run_alt.mp h with h | h
  · exact hword "secret" (by simp) h
  rcases mem_run_alt.mp h with h | h
  · exact hword "password" (by simp) h
  rcases mem_run_alt.mp h with h | h
  · exact hword "credential" (by simp) h
  · exact hword "authorization" (by simp) h

theorem plain_secretKey : secretKey.Plain :=
  ⟨⟨plain_literal, ⟨trivial, trivial⟩, plain_literal⟩, plain_literal, plain_literal, plain_literal, plain_literal,
    plain_literal⟩

theorem secretKey_ne (h : m ∈ Regex.run word secretKey b s) : m.text ≠ [] := by
  have hword : ∀ w ∈ ["token", "secret", "password", "credential", "authorization", "key"],
      ∀ {b s} {m : Found Char}, m ∈ Regex.run word (folded w) b s → m.text ≠ [] := by
    intro w hw b s m hm hnil
    obtain ⟨-, hsame⟩ := mem_run_literal hm
    rw [hnil] at hsame
    have hempty : w.toList = [] := by
      generalize w.toList = letters at hsame
      cases hsame
      rfl
    have hnone : w = "" := String.toList_eq_nil_iff.mp hempty
    subst hnone
    exact absurd hw (by decide)
  rcases mem_run_alt.mp h with h | h
  · obtain ⟨x, -, y, hy, rfl⟩ := mem_run_seq.mp h
    obtain ⟨z, -, k, hk, rfl⟩ := mem_run_seq.mp hy
    have hkey := hword "key" (by simp) hk
    exact List.append_ne_nil_of_right_ne_nil _ (List.append_ne_nil_of_right_ne_nil _ hkey)
  rcases mem_run_alt.mp h with h | h
  · exact hword "token" (by simp) h
  rcases mem_run_alt.mp h with h | h
  · exact hword "secret" (by simp) h
  rcases mem_run_alt.mp h with h | h
  · exact hword "password" (by simp) h
  rcases mem_run_alt.mp h with h | h
  · exact hword "credential" (by simp) h
  · exact hword "authorization" (by simp) h

namespace IsSecretKey

variable {name : List Char}

theorem nameChar (h : IsSecretKey name) : ∀ c ∈ name, isNameChar c = true := (run_secretKey h).2

theorem ne_nil (h : IsSecretKey name) : name ≠ [] := secretKey_ne h

theorem not_isSep (h : IsSecretKey name) : ∀ c ∈ name, isSep c = false :=
  fun c hc => (isNameChar_facts (h.nameChar c hc)).2.1

end IsSecretKey

/-- **A match is an assignment**, with its name as the group. -/
theorem first_assignment (h : first word assignment b s = some m) :
    ∃ x : Assignment, s = x.text ++ m.rest ∧ m.text = x.text ∧ m.groups = [x.name] ∧ ValueEnds m.rest := by
  have hsplit := run_split (first_mem h)
  obtain ⟨u₁, hu₁, y₁, hy₁, rfl⟩ := first_seq h
  obtain ⟨k, hk, rfl⟩ := mem_run_group.mp hu₁
  obtain ⟨u₂, hu₂, y₂, hy₂, rfl⟩ := first_seq hy₁
  obtain ⟨u₃, hu₃, y₃, hy₃, rfl⟩ := first_seq hy₂
  obtain ⟨u₄, hu₄, y₄, hy₄, rfl⟩ := first_seq hy₃
  obtain ⟨hkgroups, -⟩ := run_secretKey hk
  obtain ⟨hgroups₂, -, hbefore⟩ := mem_runMany.mp hu₂
  obtain ⟨hgroups₃, sep, hsep, htext₃, -⟩ := mem_run_one.mp hu₃
  obtain ⟨hgroups₄, -, hafter⟩ := mem_runMany.mp hu₄
  obtain ⟨hgroups, hne, hvalue⟩ := run_values (first_mem hy₄)
  have hends : ValueEnds y₄.rest := first_values hy₄
  have hname : IsSecretKey k.text := by
    have hanywhere := Regex.Plain.run_anywhere plain_secretKey hk false []
    rw [plain_run_eq plain_secretKey word (fun _ => false) false false, hkgroups, List.append_nil] at hanywhere
    exact hanywhere
  let x : Assignment := ⟨k.text, u₂.text, sep, u₄.text, y₄.text, hname, hbefore, hsep, hafter, hne, hvalue⟩
  have htext : k.text ++ (u₂.text ++ (u₃.text ++ (u₄.text ++ y₄.text))) = x.text := by
    rw [htext₃]
    rfl
  refine ⟨x, ?_, htext, ?_, hends⟩
  · rw [← htext]
    exact hsplit
  · show k.text :: k.groups ++ (u₂.groups ++ (u₃.groups ++ (u₄.groups ++ y₄.groups))) = [x.name]
    rw [hkgroups, hgroups₂, hgroups₃, hgroups₄, hgroups]
    rfl

/-- **An assignment is found** wherever it stands. -/
theorem Assignment.first_isSome (x : Assignment) (rest : List Char) :
    (first word assignment b (x.text ++ rest)).isSome := by
  have hname : ⟨x.name, [], x.before ++ x.sep :: (x.after ++ (x.value ++ rest))⟩ ∈
      Regex.run word secretKey b (x.name ++ (x.before ++ x.sep :: (x.after ++ (x.value ++ rest)))) := by
    rw [plain_run_eq plain_secretKey word (fun _ => false) b false]
    exact Regex.Plain.run_anywhere plain_secretKey x.isName false _
  rw [x.text_append, Regex.first_isSome]
  exact ⟨_, mem_run_seq.mpr ⟨⟨x.name, [x.name], _⟩, mem_run_group.mpr ⟨_, hname, rfl⟩, _,
    mem_run_seq.mpr ⟨⟨x.before, [], _⟩, mem_runMany.mpr ⟨rfl, rfl, x.before_space⟩, _,
    mem_run_seq.mpr ⟨⟨[x.sep], [], _⟩, mem_run_one.mpr ⟨rfl, x.sep, x.isSep, rfl, rfl⟩, _,
    mem_run_seq.mpr ⟨⟨x.after, [], _⟩, mem_runMany.mpr ⟨rfl, rfl, x.after_space⟩, _,
    mem_values x.value_ne x.isValue, rfl⟩, rfl⟩, rfl⟩, rfl⟩⟩

/-- The first `:` or `=` of an assignment. -/
theorem Assignment.split (x : Assignment) {n y rest : List Char} {sep : Char} (h : n ++ sep :: y = x.text ++ rest)
    (hn : ∀ c ∈ n, WeFlow.isSep c = false) (hsep : WeFlow.isSep sep = true) :
    n = x.name ++ x.before ∧ sep = x.sep ∧ y = x.after ++ (x.value ++ rest) := by
  have hbefore : ∀ c ∈ x.name ++ x.before, WeFlow.isSep c = false :=
    not_isSep_append x.isName.not_isSep x.before_space
  have htext : x.text ++ rest = (x.name ++ x.before) ++ x.sep :: (x.after ++ (x.value ++ rest)) := by
    simp [Assignment.text]
  rw [htext] at h
  obtain ⟨hfirst, hlast⟩ := span_unique (p := fun c => !WeFlow.isSep c) h
    (fun c hc => by rw [hn c hc]; rfl) (fun c hc => by rw [hbefore c hc]; rfl)
    (fun c s hc => by
      obtain ⟨rfl, -⟩ := List.cons.inj hc
      rw [hsep]
      rfl)
    (fun c s hc => by
      obtain ⟨rfl, -⟩ := List.cons.inj hc
      rw [x.isSep]
      rfl)
  obtain ⟨rfl, rfl⟩ := List.cons.inj hlast
  exact ⟨hfirst, rfl, rfl⟩

/-- **In front of a redacted value** every assignment has that value. -/
theorem Assignment.before_redacted (x : Assignment) {n out rest : List Char}
    (h : n ++ '=' :: (redactedValue ++ out) = x.text ++ rest) (hn : ∀ c ∈ n, WeFlow.isSep c = false)
    (hends : ValueEnds out) (hends' : ValueEnds rest) :
    n = x.name ++ x.before ∧ x.value = redactedValue ∧ rest = out := by
  obtain ⟨hname, -, hafter⟩ := x.split h hn rfl
  obtain ⟨-, hvalue, hrest⟩ := value_unique hafter (by decide) redactedValue_isValue x.after_space x.isValue hends
    hends'
  exact ⟨hname, hvalue.symm, hrest.symm⟩

/-- No assignment begins in front of the end of a redacted value. -/
theorem Assignment.not_before_bracket (x : Assignment) {y out rest : List Char} (hy : ∀ c ∈ y, WeFlow.isSep c = false)
    (h : y ++ ']' :: out = x.text ++ rest) : False := by
  rw [x.text_append, ← List.append_assoc] at h
  by_cases hlt : y.length < (x.name ++ x.before).length
  · rcases List.mem_append.mp (Redacts.mem_of_append_eq h hlt) with hmem | hmem
    · exact (isNameChar_facts (x.isName.nameChar _ hmem)).2.2.2 rfl
    · exact absurd (x.before_space _ hmem) (by decide)
  · have hsplit : (x.name ++ x.before) ++ x.sep :: (x.after ++ (x.value ++ rest)) = (y ++ [']']) ++ out := by
      rw [← h]
      simp
    have hmem : x.sep ∈ y ++ [']'] := by
      refine Redacts.mem_of_append_eq hsplit ?_
      have hlength : (y ++ [']']).length = y.length + 1 := by simp
      rw [hlength]
      omega
    have hsep := x.isSep
    rcases List.mem_append.mp hmem with hmem | hmem
    · rw [hy _ hmem] at hsep
      cases hsep
    · rw [List.mem_singleton.mp hmem] at hsep
      cases hsep

/-- An assignment of one of two texts that agree is one of the other. -/
theorem assignment_of_agrees {out : List Char} (h : Agrees s out) (x : Assignment) {rest : List Char}
    (hout : out = x.text ++ rest) : (first word assignment b s).isSome := by
  have hsplit : out = (x.name ++ x.before) ++ x.sep :: (x.after ++ (x.value ++ rest)) := by
    rw [hout]
    simp [Assignment.text]
  obtain ⟨ws, sep, y, hs, hws, hsep, hvalued⟩ :=
    h.assign _ _ _ hsplit (not_isSep_append x.isName.not_isSep x.before_space) x.isSep
  have hvalue : Valued (x.after ++ (x.value ++ rest)) := by
    obtain ⟨v, value, hv⟩ := List.exists_cons_of_ne_nil x.value_ne
    rw [hv, List.cons_append]
    exact (valued_of_isValue (x.isValue v (hv ▸ List.mem_cons_self))).space x.after_space
  obtain ⟨ws', v, rest', rfl, hws', hv⟩ := hvalued hvalue
  let z : Assignment := { x with
    before := x.before ++ ws, sep := sep, after := ws', value := [v],
    before_space := List.forall_mem_append.mpr ⟨x.before_space, hws⟩, isSep := hsep,
    after_space := hws', value_ne := List.cons_ne_nil _ _,
    isValue := fun c hc => List.mem_singleton.mp hc ▸ hv }
  have hz : s = z.text ++ rest' := by
    rw [hs]
    simp [z, Assignment.text]
  rw [hz]
  exact z.first_isSome rest'

/-- A redacted assignment agrees with the assignment. -/
theorem Assignment.agrees (x : Assignment) (s out : List Char) : Agrees (x.text ++ s) (x.redacted ++ out) := by
  have hvalued : Valued (x.after ++ (x.value ++ s)) := by
    obtain ⟨v, value, hvalue⟩ := List.exists_cons_of_ne_nil x.value_ne
    have hv := x.isValue v (hvalue ▸ List.mem_cons_self)
    rw [hvalue, List.cons_append]
    exact (valued_of_isValue hv).space x.after_space
  have hgap : Agrees (x.before ++ x.sep :: (x.after ++ (x.value ++ s))) ('=' :: (redactedValue ++ out)) :=
    Agrees.gap x.before_space x.isSep hvalued
  have hredacted : x.redacted ++ out = x.name ++ '=' :: (redactedValue ++ out) := by
    simp [Assignment.redacted]
  rw [x.text_append, hredacted]
  exact hgap.append x.name

end Matches

/-! ## What `sub` makes of a text -/

/-- The scan of `sub`: it keeps a character at which no match begins, and replaces a match. -/
inductive Subbed (word : Char → Bool) (r : Regex Char) (f : Found Char → List Char) :
    Bool → List Char → List Char → Prop
  | nil (b : Bool) : Subbed word r f b [] []
  | keep {b : Bool} {c : Char} {s out : List Char} (hnone : first word r b (c :: s) = none)
      (hrest : Subbed word r f (word c) s out) : Subbed word r f b (c :: s) (c :: out)
  | swap {b : Bool} {s out : List Char} {m : Found Char} (hsome : first word r b s = some m)
      (hrest : Subbed word r f (wordAfter word b m.text) m.rest out) : Subbed word r f b s (f m ++ out)

section Subbed

variable {word : Char → Bool} {r : Regex Char} {f : Found Char → List Char} {b : Bool} {s out : List Char}

theorem subbed_sub (hne : ∀ {b s} {m : Found Char}, first word r b s = some m → m.text ≠ []) (b : Bool)
    (s : List Char) : Subbed word r f b s (sub word r f b s) := by
  induction hn : s.length using Nat.strong_induction_on generalizing b s with
  | _ n ih =>
    cases hfirst : first word r b s with
    | none =>
      cases s with
      | nil => exact .nil b
      | cons c s =>
        rw [sub_none hfirst]
        exact .keep hfirst (ih s.length (by rw [← hn]; exact Nat.lt_succ_self _) _ s rfl)
    | some m =>
      rw [sub_some hfirst (hne hfirst)]
      refine .swap hfirst (ih m.rest.length ?_ _ m.rest rfl)
      have hsplit := run_split (first_mem hfirst)
      have hpos := List.length_pos_of_ne_nil (hne hfirst)
      rw [← hn, hsplit, List.length_append]
      omega

/-- What a match is replaced by: something that, like the match, begins with a character of a value, and that
    ends in `]` without a `:` or a `/`; and the match ends where its value does. -/
structure Stub (m : Found Char) (w : List Char) : Prop where
  match_head : ∃ c x, m.text = c :: x ∧ isValue c = true
  head : ∃ c x, w = c :: x ∧ isValue c = true
  last : ∃ x, w = x ++ [']']
  plain : ∀ c ∈ w, c ≠ ':' ∧ c ≠ '/'
  ends : ValueEnds m.rest

/-- A substitution by stubs. -/
def Stubs (word : Char → Bool) (r : Regex Char) (f : Found Char → List Char) : Prop :=
  ∀ {b s} {m : Found Char}, first word r b s = some m → Stub m (f m)

/-- Where the result begins with a value, so does the text. -/
theorem Subbed.head (h : Subbed word r f b s out) (hstubs : Stubs word r f) {v : Char} {o : List Char}
    (hout : out = v :: o) (hv : isValue v = true) : ∃ v' s', s = v' :: s' ∧ isValue v' = true := by
  cases h with
  | nil => cases hout
  | keep hnone hrest =>
    obtain ⟨rfl, -⟩ := List.cons.inj hout
    exact ⟨_, _, rfl, hv⟩
  | swap hsome hrest =>
    obtain ⟨c, x, htext, hc⟩ := (hstubs hsome).match_head
    have hsplit := run_split (first_mem hsome)
    rw [htext, List.cons_append] at hsplit
    exact ⟨c, _, hsplit, hc⟩

/-- Up to a slash before a value the result is the text, where no replacement ends before. -/
theorem Subbed.slash (h : Subbed word r f b s out) (hstubs : Stubs word r f) {t o : List Char} {v : Char}
    (hout : out = t ++ '/' :: v :: o) (ht : ']' ∉ t) (hv : isValue v = true) :
    ∃ v' s', s = t ++ '/' :: v' :: s' ∧ isValue v' = true := by
  induction h generalizing t with
  | nil => exact absurd hout.symm (List.append_ne_nil_of_right_ne_nil _ (List.cons_ne_nil _ _))
  | keep hnone hrest ih =>
    cases t with
    | nil =>
      obtain ⟨rfl, hlater⟩ := List.cons.inj hout
      obtain ⟨v', s', rfl, hv'⟩ := hrest.head hstubs hlater hv
      exact ⟨v', s', rfl, hv'⟩
    | cons d t =>
      obtain ⟨rfl, hlater⟩ := List.cons.inj hout
      obtain ⟨v', s', rfl, hv'⟩ := ih hlater fun hmem => ht (List.mem_cons_of_mem _ hmem)
      exact ⟨v', s', rfl, hv'⟩
  | @swap b s out m hsome hrest ih =>
    -- the slash is not in the replacement, so all of the replacement comes before it
    exfalso
    have hstub := hstubs hsome
    obtain ⟨x, hx⟩ := hstub.last
    rw [hx, List.append_assoc, List.singleton_append] at hout
    by_cases hlt : x.length < t.length
    · exact ht (Redacts.mem_of_append_eq hout hlt)
    · have hslash : '/' ∈ x ++ [']'] := by
        refine Redacts.mem_of_append_eq (z := v :: o) (x := t) (v := out) ?_ ?_
        · rw [← hout]
          simp
        · rw [List.length_append, List.length_singleton]
          omega
      exact (hstub.plain '/' (hx ▸ hslash)).2 rfl

/-- No connection string begins in a replacement. -/
theorem not_connects_in_stub {x w z out : List Char} (hx : w ++ z = x ++ [']']) (hz : z ≠ [])
    (hplain : ∀ c ∈ x ++ [']'], c ≠ ':' ∧ c ≠ '/') : ¬ Connects word b (z ++ out) := by
  rintro ⟨l, scheme, v, rest, hsplit, hl, hscheme, -, -⟩
  obtain ⟨z', d, rfl⟩ := List.eq_nil_or_concat z |>.resolve_left hz
  rw [List.concat_eq_append, ← List.append_assoc] at hx
  obtain ⟨-, hd⟩ := List.append_inj' hx rfl
  obtain rfl : d = ']' := by injection hd
  have hletters : ']' ∉ l :: scheme := by
    intro hmem
    rcases List.mem_cons.mp hmem with rfl | hmem
    · exact absurd hl (by decide)
    · exact isSchemeChar_ne (hscheme _ hmem) rfl
  rw [List.concat_eq_append, List.append_assoc, List.singleton_append, ← List.cons_append] at hsplit
  by_cases hlt : z'.length < (l :: scheme).length
  · exact hletters (Redacts.mem_of_append_eq hsplit hlt)
  · have hcolon : ':' ∈ z' ++ [']'] := by
      refine Redacts.mem_of_append_eq (x := l :: scheme) (z := '/' :: '/' :: v :: rest) (v := out) ?_ ?_
      · rw [← hsplit]
        simp
      · rw [List.length_append, List.length_singleton]
        omega
    have hmem : ':' ∈ x ++ [']'] := by
      rw [← hx, List.append_assoc]
      exact List.mem_append_right _ hcolon
    exact (hplain ':' hmem).1 rfl

/-- **No connection string is made** by a substitution by stubs that leaves none where nothing is replaced. -/
theorem Subbed.nowhere (h : Subbed word r f b s out) (hstubs : Stubs word r f)
    (hs : (∀ {b s}, first word r b s = none → ¬ Connects word b s) ∨ Nowhere word (Connects word) b s) (b' : Bool)
    (hb' : b' = b ∨ ValueEnds s) : Nowhere word (Connects word) b' out := by
  induction h generalizing b' with
  | nil =>
    rintro ⟨l, scheme, v, rest, hsplit, -⟩
    cases hsplit
  | @keep b c s out hnone hrest ih =>
    have hhere : ¬ Connects word b (c :: s) := by
      rcases hs with hall | hnowhere
      · exact hall hnone
      · exact hnowhere.here
    have hlater : (∀ {b s}, first word r b s = none → ¬ Connects word b s) ∨
        Nowhere word (Connects word) (word c) s := hs.imp id fun hnowhere => hnowhere.2
    refine ⟨?_, ih hlater _ (.inl rfl)⟩
    rintro ⟨l, scheme, v, rest, hsplit, hl, hscheme, hv, hboundary⟩
    obtain ⟨rfl, hout⟩ := List.cons.inj hsplit
    rcases hb' with rfl | hends
    · have hout' : out = (scheme ++ [':', '/']) ++ '/' :: v :: rest := by
        rw [hout]
        simp
      have hclean : ']' ∉ scheme ++ [':', '/'] := by
        intro hmem
        rcases List.mem_append.mp hmem with hmem | hmem
        · exact isSchemeChar_ne (hscheme _ hmem) rfl
        · exact absurd hmem (by decide)
      obtain ⟨v', s', hs', hv'⟩ := hrest.slash hstubs hout' hclean hv
      refine hhere ⟨c, scheme, v', s', ?_, hl, hscheme, hv', hboundary⟩
      rw [hs']
      simp
    · have hend := hends c s rfl
      rw [isValue_of_isLetter hl] at hend
      cases hend
  | @swap b s out m hsome hrest ih =>
    have hstub := hstubs hsome
    obtain ⟨x, hx⟩ := hstub.last
    have hlater : (∀ {b s}, first word r b s = none → ¬ Connects word b s) ∨
        Nowhere word (Connects word) (wordAfter word b m.text) m.rest := by
      refine hs.imp id fun hnowhere => ?_
      rw [run_split (first_mem hsome)] at hnowhere
      exact hnowhere.after
    refine Nowhere.append (fun w z hsplit hz => ?_) (ih hlater _ (.inr hstub.ends))
    exact not_connects_in_stub (hsplit.symm.trans hx) hz (hx ▸ hstub.plain)

/-! ## The assignments of a result -/

/-- An assignment of another value than `[REDACTED]` begins here. -/
def Leaks (s : List Char) : Prop :=
  ∃ (x : Assignment) (rest : List Char), s = x.text ++ rest ∧ ValueEnds rest ∧ x.value ≠ redactedValue

theorem redactMatch_eq {m : Found Char} {x : Assignment} (h : m.groups = [x.name]) : redactMatch m = x.redacted := by
  rw [redactMatch, h]
  rfl

/-- Where a text has no value, neither has the result. -/
theorem Subbed.ends (h : Subbed word assignment redactMatch b s out) (hs : ValueEnds s) : ValueEnds out := by
  cases h with
  | nil => exact hs
  | keep hnone hrest =>
    intro c o hout
    obtain ⟨rfl, -⟩ := List.cons.inj hout
    exact hs _ _ rfl
  | swap hsome hrest =>
    obtain ⟨x, hsplit, -⟩ := first_assignment hsome
    obtain ⟨c, name, hname⟩ := List.exists_cons_of_ne_nil x.isName.ne_nil
    rw [x.text_append, hname] at hsplit
    have hvalue := (isNameChar_facts (x.isName.nameChar c (hname ▸ List.mem_cons_self))).1
    rw [hs c _ hsplit] at hvalue
    cases hvalue

theorem Subbed.agrees (h : Subbed word assignment redactMatch b s out) : Agrees s out := by
  induction h with
  | nil => exact .nil
  | keep hnone hrest ih => exact ih.cons _
  | swap hsome hrest ih =>
    obtain ⟨x, hsplit, -, hgroups, -⟩ := first_assignment hsome
    rw [hsplit, redactMatch_eq hgroups]
    exact x.agrees _ _

/-- A kept character begins no assignment of the result. -/
theorem first_kept {c : Char} (hnone : first word assignment b (c :: s) = none) (h : Agrees s out) (b' : Bool) :
    first word assignment b' (c :: out) = none := by
  by_contra hsome
  obtain ⟨m, hm⟩ := Option.ne_none_iff_exists'.mp hsome
  obtain ⟨x, hsplit, -⟩ := first_assignment hm
  have hfound : (first word assignment b (c :: s)).isSome := assignment_of_agrees (h.cons c) x hsplit
  rw [hnone] at hfound
  cases hfound

/-- The end of a redacted value. -/
theorem redactedValue_suffix {w z : List Char} (h : redactedValue = w ++ z) (hz : z ≠ []) :
    ∃ y, z = y ++ [']'] ∧ ∀ c ∈ y, isSep c = false := by
  obtain ⟨y, l, rfl⟩ := List.eq_nil_or_concat z |>.resolve_left hz
  have hlast : redactedValue = "[REDACTED".toList ++ [']'] := by
    decide
  rw [hlast, List.concat_eq_append, ← List.append_assoc] at h
  obtain ⟨hw, hl⟩ := List.append_inj' h rfl
  obtain rfl : ']' = l := by injection hl
  refine ⟨y, List.concat_eq_append, fun c hc => ?_⟩
  have hall : ∀ c ∈ "[REDACTED".toList, isSep c = false := List.all_iff_forall_prop.mp (by decide)
  exact hall c (hw ▸ List.mem_append_right w hc)

/-- **Every assignment of the result has the redacted value.** -/
theorem Subbed.nowhere_leaks (h : Subbed word assignment redactMatch b s out) (b' : Bool) :
    Nowhere word (fun _ => Leaks) b' out := by
  induction h generalizing b' with
  | nil =>
    rintro ⟨x, rest, hsplit, -⟩
    obtain ⟨c, name, hname⟩ := List.exists_cons_of_ne_nil x.isName.ne_nil
    rw [x.text_append, hname] at hsplit
    cases hsplit
  | @keep b c s out hnone hrest ih =>
    refine ⟨?_, ih _⟩
    rintro ⟨x, rest, hsplit, -⟩
    have hfound : (first word assignment b' (x.text ++ rest)).isSome := x.first_isSome rest
    rw [← hsplit, first_kept hnone hrest.agrees] at hfound
    cases hfound
  | @swap b s out m hsome hrest ih =>
    obtain ⟨x, -, -, hgroups, hends⟩ := first_assignment hsome
    have hout := hrest.ends hends
    rw [redactMatch_eq hgroups]
    refine Nowhere.append (fun w z hsplit hz => ?_) (ih _)
    rintro ⟨y, rest, hy, hyends, hvalue⟩
    -- the place is in the name, or behind the `=`
    have hsplit' : x.name ++ '=' :: redactedValue = w ++ z := hsplit
    rcases List.append_eq_append_iff.mp hsplit' with ⟨n, hname, hz'⟩ | ⟨n, hname, hz'⟩
    · cases n with
      | nil =>
        rw [List.nil_append] at hz'
        rw [← hz', List.cons_append] at hy
        exact hvalue (y.before_redacted (n := []) hy (fun _ hc => absurd hc List.not_mem_nil) hout hyends).2.1
      | cons d n =>
        obtain ⟨rfl, hrest'⟩ := List.cons.inj hz'
        obtain ⟨u, rfl, hu⟩ := redactedValue_suffix hrest' hz
        rw [List.append_assoc, List.singleton_append] at hy
        exact y.not_before_bracket hu hy
    · have hn : ∀ c ∈ n, isSep c = false := fun c hc => x.isName.not_isSep c (hname ▸ List.mem_append_right w hc)
      rw [hz', List.append_assoc, List.cons_append] at hy
      exact hvalue (y.before_redacted hy hn hout hyends).2.1

/-- The flag of a place decides nothing for assignments. -/
theorem sub_assignment_flag (b b' : Bool) (s : List Char) :
    sub word assignment redactMatch b s = sub word assignment redactMatch b' s := by
  cases s with
  | nil => rfl
  | cons c s =>
    have hfirst : first word assignment b (c :: s) = first word assignment b' (c :: s) := by
      have hplain : assignment.Plain := ⟨plain_secretKey, trivial, trivial, trivial, trivial, trivial⟩
      unfold first
      rw [plain_run_eq hplain word word b b']
    unfold sub subFrom
    rw [hfirst]

/-- **A redacted assignment** is replaced by itself. -/
theorem Assignment.sub_redacted (x : Assignment) (hout : ValueEnds out) :
    sub word assignment redactMatch b (x.redacted ++ out) =
      x.redacted ++ sub word assignment redactMatch false out := by
  let y : Assignment := { x with
    before := [], sep := '=', after := [], value := redactedValue,
    before_space := fun _ hc => absurd hc List.not_mem_nil, isSep := rfl,
    after_space := fun _ hc => absurd hc List.not_mem_nil, value_ne := by decide,
    isValue := redactedValue_isValue }
  have htext : y.text ++ out = x.name ++ '=' :: (redactedValue ++ out) := by
    simp [y, Assignment.text]
  have hredacted : x.redacted ++ out = x.name ++ '=' :: (redactedValue ++ out) := by
    simp [Assignment.redacted]
  have hfound : (first word assignment b (y.text ++ out)).isSome := y.first_isSome out
  obtain ⟨m, hm⟩ := Option.isSome_iff_exists.mp hfound
  obtain ⟨z, hsplit, hmtext, hgroups, hends⟩ := first_assignment hm
  have hsplit' := hsplit
  rw [htext] at hsplit
  obtain ⟨hname, hvalue, hrest⟩ := z.before_redacted hsplit x.isName.not_isSep hout hends
  -- no blanks stand before the `=`, for a name has none
  have hblank : z.before = [] := by
    cases hbefore : z.before with
    | nil => rfl
    | cons d ws =>
      have hspace := z.before_space d (hbefore ▸ List.mem_cons_self)
      have hchar := x.isName.nameChar d (hname ▸ hbefore ▸ List.mem_append_right _ List.mem_cons_self)
      rw [(isNameChar_facts hchar).2.2.1] at hspace
      cases hspace
  rw [hblank, List.append_nil] at hname
  have hne : m.text ≠ [] := by
    rw [hmtext]
    exact fun hnil => z.isName.ne_nil (List.append_eq_nil_iff.mp hnil).1
  have hmatch : redactMatch m = x.redacted := by
    rw [redactMatch_eq hgroups, Assignment.redacted, Assignment.redacted, hname]
  rw [hredacted, ← htext, sub_some hm hne, hmatch, hrest, sub_assignment_flag _ false]

/-- **The result is its own result.** -/
theorem Subbed.sub_eq (h : Subbed word assignment redactMatch b s out) (b' : Bool) :
    sub word assignment redactMatch b' out = out := by
  induction h generalizing b' with
  | nil => rfl
  | keep hnone hrest ih =>
    rw [sub_none (first_kept hnone hrest.agrees b'), ih]
  | swap hsome hrest ih =>
    obtain ⟨x, -, -, hgroups, hends⟩ := first_assignment hsome
    rw [redactMatch_eq hgroups, x.sub_redacted (hrest.ends hends), ih]

end Subbed

/-! ## Redacted texts -/

section Clean

variable (word : Char → Bool)

/-- A text has no connection string, and assigns no other value than `[REDACTED]` to the name of a secret. -/
structure CleanText (s : String) : Prop where
  connections : search word connectionString false s.toList = false
  assignments : ∀ (before : List Char) (x : Assignment) (rest : List Char), s.toList = before ++ (x.text ++ rest) →
    ValueEnds rest → x.value = redactedValue

variable {word}

theorem not_connects_iff {b : Bool} {s : List Char} :
    search word connectionString b s = false ↔ Nowhere word (Connects word) b s := by
  rw [search_eq_false]
  have hsame : (fun b s => ∃ m, m ∈ Regex.run word connectionString b s) = Connects word := by
    funext b s
    rw [← first_isSome, first_connection_isSome]
  rw [hsame]

/-- What a pattern matches nowhere is left as it is. -/
theorem sub_of_nowhere {f : Found Char → List Char} {b : Bool} {s : List Char}
    (h : Nowhere word (Connects word) b s) : sub word connectionString f b s = s := by
  induction s generalizing b with
  | nil => rfl
  | cons c s ih =>
    have hnone : first word connectionString b (c :: s) = none := by
      rw [← Option.not_isSome_iff_eq_none, first_connection_isSome]
      exact h.1
    rw [sub_none hnone, ih h.2]

theorem connection_stubs : Stubs word connectionString fun _ => redactedConnection := by
  intro b s m hm
  obtain ⟨-, c, x, htext, hc⟩ := run_connection (first_mem hm)
  have hhead : redactedConnection = '[' :: "REDACTED_CONNECTION]".toList := by decide
  have hlast : redactedConnection = "[REDACTED_CONNECTION".toList ++ [']'] := by decide
  have hplain : ∀ c ∈ redactedConnection, c ≠ ':' ∧ c ≠ '/' := List.all_iff_forall_prop.mp (by decide)
  exact ⟨⟨c, x, htext, isValue_of_isLetter hc⟩, ⟨'[', _, hhead, by decide⟩, ⟨_, hlast⟩, hplain,
    first_connection_ends hm⟩

theorem assignment_stubs : Stubs word assignment redactMatch := by
  intro b s m hm
  obtain ⟨x, -, htext, hgroups, hends⟩ := first_assignment hm
  obtain ⟨c, name, hname⟩ := List.exists_cons_of_ne_nil x.isName.ne_nil
  have hc := (isNameChar_facts (x.isName.nameChar c (hname ▸ List.mem_cons_self))).1
  have hlast : redactedValue = "[REDACTED".toList ++ [']'] := by decide
  rw [redactMatch_eq hgroups]
  refine ⟨⟨c, name ++ (x.before ++ x.sep :: (x.after ++ x.value)), ?_, hc⟩, ⟨c, name ++ '=' :: redactedValue, ?_, hc⟩,
    ⟨x.name ++ '=' :: "[REDACTED".toList, ?_⟩, ?_, hends⟩
  · rw [htext, Assignment.text, hname, List.cons_append]
  · rw [Assignment.redacted, hname, List.cons_append]
  · rw [Assignment.redacted, hlast, List.append_assoc, List.cons_append]
  · have hvalue : ∀ c ∈ '=' :: redactedValue, c ≠ ':' ∧ c ≠ '/' := List.all_iff_forall_prop.mp (by decide)
    refine List.forall_mem_append.mpr ⟨fun d hd => ?_, hvalue⟩
    have hchar := x.isName.nameChar d hd
    constructor
    · rintro rfl
      exact absurd hchar (by decide)
    · rintro rfl
      exact absurd hchar (by decide)

theorem first_ne_nil {b : Bool} {s : List Char} {m : Found Char} :
    (first word connectionString b s = some m → m.text ≠ []) ∧ (first word assignment b s = some m → m.text ≠ []) := by
  constructor
  · intro hm
    obtain ⟨-, c, x, htext, -⟩ := run_connection (first_mem hm)
    rw [htext]
    exact List.cons_ne_nil _ _
  · intro hm
    obtain ⟨x, -, htext, -⟩ := first_assignment hm
    rw [htext]
    exact fun hnil => x.isName.ne_nil (List.append_eq_nil_iff.mp hnil).1

variable (word) in
/-- What the second substitution makes of what the first one leaves. -/
theorem redactText_subbed (value : String) : ∃ s, Nowhere word (Connects word) false s ∧
    Subbed word assignment redactMatch false s (redactText word value).toList := by
  have hfirst : Subbed word connectionString (fun _ => redactedConnection) false value.toList
      (redactConnections word value.toList) := subbed_sub first_ne_nil.1 _ _
  refine ⟨redactConnections word value.toList, ?_, ?_⟩
  · refine hfirst.nowhere connection_stubs (.inl ?_) false (.inl rfl)
    intro b s hnone hconnects
    rw [← first_connection_isSome, hnone] at hconnects
    cases hconnects
  · unfold redactText redactAssignments
    rw [String.toList_ofList]
    exact subbed_sub first_ne_nil.2 _ _

/-- **A redacted text is clean.** -/
theorem redactText_clean (value : String) : CleanText word (redactText word value) := by
  obtain ⟨s, hs, hsubbed⟩ := redactText_subbed word value
  constructor
  · rw [not_connects_iff]
    exact hsubbed.nowhere assignment_stubs (.inr hs) false (.inl rfl)
  · intro before x rest hsplit hends
    by_contra hne
    exact nowhere_iff.mp (hsubbed.nowhere_leaks false) before _ hsplit ⟨x, rest, rfl, hends, hne⟩

/-- **A redacted text is redacted to itself.** -/
theorem redactText_redactText (value : String) : redactText word (redactText word value) = redactText word value := by
  obtain ⟨s, hs, hsubbed⟩ := redactText_subbed word value
  have hnowhere := hsubbed.nowhere assignment_stubs (.inr hs) false (.inl rfl)
  have hconnections : redactConnections word (redactText word value).toList = (redactText word value).toList :=
    sub_of_nowhere hnowhere
  have hassignments : redactAssignments word (redactText word value).toList = (redactText word value).toList :=
    hsubbed.sub_eq false
  show String.ofList _ = _
  rw [hconnections, hassignments, String.ofList_toList]

end Clean

end WeFlow.Telemetry
