import WeFlow.Base.Regex
import WeFlow.Sandbox.Inbound
import Mathlib.Data.Bool.AllAny
import Mathlib.Data.List.Forall2

/-!
# `Redaction` — the secrets that a text assigns, and their values

`_SECRET_ASSIGNMENT.sub` and `_PROHIBITED_CANDIDATE.search` of the QQ handler. The patterns are those of the
source; `\w`, `\s` and `(?i)` are meant on ASCII texts.

A redacted text agrees with the text it was made from up to the first `:` or `=` (`Agrees`). No pattern looks
further before it is decided, so the redacted text has no match that the other did not have, and its
matches are the replaced ones.

## Contents

* `secretAssignment`, `prohibitedCandidate`, `redact` — the patterns and the substitution.
* `Secret`, `first_secret` — what a match is.
* `Agrees`, `Redacts` — what redaction does to a text.
* `Redacts.redact_eq`, `Redacts.values`, `Redacts.prohibited` — a redacted text is a fixed point, assigns no
  other value, and contains nothing prohibited that was not there.
-/

namespace WeFlow

open Regex

/-! ## The patterns -/

/-- `\w`. -/
def isWord (c : Char) : Bool := c.isAlphanum || c = '_'

/-- `[:=]`. -/
def isSep (c : Char) : Bool := c = ':' || c = '='

/-- `[^\s,;]`. -/
def isValue (c : Char) : Bool := !isSpace c && c ≠ ',' && c ≠ ';'

/-- A letter in either case. -/
def eitherCase (l c : Char) : Bool := c = l.toLower || c = l.toUpper

/-- A word of a pattern under `(?i)`. -/
def anyCase (w : String) : Regex Char := .literal eitherCase w.toList

/-- `[_ -]?`. -/
def nameJoint : Regex Char := .opt (.one fun c => c = '_' || c = ' ' || c = '-')

/-- `access[_ -]?token|client[_ -]?secret|password|api[_ -]?key`. -/
def secretName : Regex Char :=
  .alt (.seq (anyCase "access") (.seq nameJoint (anyCase "token")))
    (.alt (.seq (anyCase "client") (.seq nameJoint (anyCase "secret")))
      (.alt (anyCase "password") (.seq (anyCase "api") (.seq nameJoint (anyCase "key")))))

/-- `_SECRET_ASSIGNMENT`. -/
def secretAssignment : Regex Char :=
  .seq .boundary (.seq (.group secretName) (.seq (.many isSpace) (.seq (.one isSep)
    (.seq (.many isSpace) (.group (.seq (.one isValue) (.many isValue)))))))

/-- `BEGIN (?:RSA |EC |OPENSSH )?PRIVATE KEY`. -/
def privateKey : Regex Char :=
  .seq (anyCase "BEGIN ") (.seq (.opt (.alt (anyCase "RSA ") (.alt (anyCase "EC ") (anyCase "OPENSSH "))))
    (anyCase "PRIVATE KEY"))

/-- `client_secret|access_token`. -/
def prohibitedName : Regex Char := .alt (anyCase "client_secret") (anyCase "access_token")

/-- `_PROHIBITED_CANDIDATE`. -/
def prohibitedCandidate : Regex Char :=
  .alt (.seq .boundary (.seq privateKey .boundary))
    (.seq .boundary (.seq prohibitedName (.seq (.many isSpace) (.one isSep))))

/-- `[REDACTED]`. -/
def redactedValue : List Char := "[REDACTED]".toList

/-- `f"{match.group(1)}=[REDACTED]"`. -/
def redactMatch (m : Found Char) : List Char := m.groups.head?.getD [] ++ '=' :: redactedValue

/-- `_SECRET_ASSIGNMENT.sub`, from a place in the text. -/
def redact (b : Bool) (s : List Char) : List Char := sub isWord secretAssignment redactMatch b s

/-! ## Characters -/

theorem not_isWord_of_isSpace {c : Char} (h : isSpace c = true) : isWord c = false := by
  by_contra hword
  rw [Bool.not_eq_false, isWord, Bool.or_eq_true] at hword
  simp only [isSpace, Bool.decide_or, Bool.or_eq_true, decide_eq_true_eq, Bool.decide_and, Bool.and_eq_true] at h
  have halpha : c.isAlphanum = ((decide (c.val ≥ 'A'.val ∧ c.val ≤ 'Z'.val) ||
      (decide (c.val ≥ 'a'.val) && decide (c.val ≤ 'z'.val))) ||
      (decide (c.val ≥ '0'.val) && decide (c.val ≤ '9'.val))) := rfl
  simp only [halpha, Bool.or_eq_true, Bool.and_eq_true, decide_eq_true_eq, UInt32.le_iff_toNat_le, ge_iff_le] at hword
  have hval : c.val.toNat = c.toNat := rfl
  rcases hword with hword | rfl
  · rw [hval] at hword
    simp only [UInt32.reduceToNat, Char.reduceVal] at hword
    omega
  · revert h
    decide

theorem isSep_iff {c : Char} : isSep c = true ↔ c = ':' ∨ c = '=' := by
  simp [isSep]

theorem not_isWord_of_isSep {c : Char} (h : isSep c = true) : isWord c = false := by
  rcases isSep_iff.mp h with rfl | rfl <;> decide

theorem not_isSpace_of_isSep {c : Char} (h : isSep c = true) : isSpace c = false := by
  rcases isSep_iff.mp h with rfl | rfl <;> decide

theorem isValue_of_isSep {c : Char} (h : isSep c = true) : isValue c = true := by
  rcases isSep_iff.mp h with rfl | rfl <;> decide

theorem not_isSpace_of_isValue {c : Char} (h : isValue c = true) : isSpace c = false := by
  simp only [isValue, Bool.and_eq_true, Bool.not_eq_true', decide_eq_true_eq] at h
  exact h.1.1

theorem not_isWord_of_not_isValue {c : Char} (h : isValue c = false) : isWord c = false := by
  by_cases hspace : isSpace c
  · exact not_isWord_of_isSpace hspace
  · simp only [isValue, hspace, Bool.not_false, Bool.true_and, ne_eq, Bool.and_eq_false_iff,
      decide_eq_false_iff_not, not_not] at h
    rcases h with rfl | rfl <;> decide

/-- No separator is among blanks. -/
theorem not_isSep_append {w ws : List Char} (hw : ∀ c ∈ w, isSep c = false) (hws : ∀ c ∈ ws, isSpace c) :
    ∀ c ∈ w ++ ws, isSep c = false := by
  intro c hc
  rcases List.mem_append.mp hc with hc | hc
  · exact hw c hc
  · by_contra hcontra
    have hspace := hws c hc
    rw [not_isSpace_of_isSep (Bool.not_eq_false _ ▸ hcontra)] at hspace
    cases hspace

/-- What holds of both cases of every letter of a word holds of every text that is the word in any case. -/
theorem forall_of_eitherCase {P : Char → Prop} {w text : List Char}
    (h : List.Forall₂ (fun l c => eitherCase l c) w text) (hall : ∀ l ∈ w, P l.toLower ∧ P l.toUpper) :
    ∀ c ∈ text, P c := by
  induction h with
  | nil => exact fun _ hc => absurd hc List.not_mem_nil
  | cons hsame _ ih =>
      obtain ⟨⟨hlower, hupper⟩, hrest⟩ := List.forall_mem_cons.mp hall
      refine List.forall_mem_cons.mpr ⟨?_, ih hrest⟩
      simp only [eitherCase, Bool.or_eq_true, decide_eq_true_eq] at hsame
      rcases hsame with rfl | rfl
      · exact hlower
      · exact hupper

/-- A run of a class that nothing of the class follows is the longest one. -/
theorem span_unique {p : Char → Bool} {x x' r r' : List Char} (h : x ++ r = x' ++ r')
    (hx : ∀ c ∈ x, p c) (hx' : ∀ c ∈ x', p c) (hr : ∀ c s, r = c :: s → p c = false)
    (hr' : ∀ c s, r' = c :: s → p c = false) : x = x' ∧ r = r' := by
  have htake : ∀ {y z : List Char}, (∀ c ∈ y, p c) → (∀ c s, z = c :: s → p c = false) →
      (y ++ z).takeWhile p = y := by
    intro y z hy hz
    rw [List.takeWhile_append_of_pos hy]
    cases z with
    | nil => simp
    | cons c s => rw [List.takeWhile_cons_of_neg (Bool.eq_false_iff.mp (hz c s rfl)), List.append_nil]
  have hsame : x = x' := by
    rw [← htake hx hr, h, htake hx' hr']
  subst hsame
  exact ⟨rfl, List.append_cancel_left h⟩

/-! ## Secrets -/

/-- The names of secrets in lower case. -/
def secretNames : List (List Char) :=
  ["accesstoken", "access_token", "access token", "access-token", "clientsecret", "client_secret",
    "client secret", "client-secret", "password", "apikey", "api_key", "api key", "api-key"].map String.toList

/-- What `secretName` reads, wherever it stands. -/
def IsSecretName (name : List Char) : Prop := ⟨name, [], []⟩ ∈ Regex.run isWord secretName false name

theorem mem_run_nameJoint {b : Bool} {s : List Char} {m : Found Char} (h : m ∈ Regex.run isWord nameJoint b s) :
    m.groups = [] ∧ ∃ w ∈ [[], ['_'], [' '], ['-']], m.text = w := by
  rcases mem_run_alt.mp h with h | h
  · obtain ⟨hgroups, c, hc, htext, -⟩ := mem_run_one.mp h
    simp only [Bool.or_eq_true, decide_eq_true_eq] at hc
    rw [htext]
    rcases hc with (rfl | rfl) | rfl <;> exact ⟨hgroups, _, by decide, rfl⟩
  · obtain rfl := mem_run_empty.mp h
    exact ⟨rfl, [], List.mem_cons_self, rfl⟩

theorem mem_run_jointName {u v : String} {b : Bool} {s : List Char} {m : Found Char}
    (h : m ∈ Regex.run isWord (.seq (anyCase u) (.seq nameJoint (anyCase v))) b s) :
    m.groups = [] ∧ ∃ w ∈ [[], ['_'], [' '], ['-']],
      List.Forall₂ (fun l c => eitherCase l c) (u.toList ++ (w ++ v.toList)) m.text := by
  obtain ⟨x, hx, y, hy, rfl⟩ := mem_run_seq.mp h
  obtain ⟨z, hz, k, hk, rfl⟩ := mem_run_seq.mp hy
  obtain ⟨hxgroups, hxtext⟩ := mem_run_literal hx
  obtain ⟨hzgroups, w, hw, hztext⟩ := mem_run_nameJoint hz
  obtain ⟨hkgroups, hktext⟩ := mem_run_literal hk
  have hjoint : List.Forall₂ (fun l c => eitherCase l c) w z.text := by
    rw [hztext]
    simp only [List.mem_cons, List.not_mem_nil, or_false] at hw
    rcases hw with rfl | rfl | rfl | rfl <;> simp [eitherCase]
  refine ⟨?_, w, hw, List.rel_append hxtext (List.rel_append hjoint hktext)⟩
  show x.groups ++ (z.groups ++ k.groups) = []
  rw [hxgroups, hzgroups, hkgroups]
  rfl

theorem mem_run_secretName {b : Bool} {s : List Char} {m : Found Char} (h : m ∈ Regex.run isWord secretName b s) :
    m.groups = [] ∧ ∃ w ∈ secretNames, List.Forall₂ (fun l c => eitherCase l c) w m.text := by
  rcases mem_run_alt.mp h with h | h
  · obtain ⟨hgroups, w, hw, htext⟩ := mem_run_jointName h
    refine ⟨hgroups, _, ?_, htext⟩
    simp only [List.mem_cons, List.not_mem_nil, or_false] at hw
    rcases hw with rfl | rfl | rfl | rfl <;> decide
  rcases mem_run_alt.mp h with h | h
  · obtain ⟨hgroups, w, hw, htext⟩ := mem_run_jointName h
    refine ⟨hgroups, _, ?_, htext⟩
    simp only [List.mem_cons, List.not_mem_nil, or_false] at hw
    rcases hw with rfl | rfl | rfl | rfl <;> decide
  rcases mem_run_alt.mp h with h | h
  · obtain ⟨hgroups, htext⟩ := mem_run_literal h
    exact ⟨hgroups, _, by decide, htext⟩
  · obtain ⟨hgroups, w, hw, htext⟩ := mem_run_jointName h
    refine ⟨hgroups, _, ?_, htext⟩
    simp only [List.mem_cons, List.not_mem_nil, or_false] at hw
    rcases hw with rfl | rfl | rfl | rfl <;> decide

theorem plain_secretName : secretName.Plain :=
  ⟨⟨plain_literal, ⟨trivial, trivial⟩, plain_literal⟩, ⟨plain_literal, ⟨trivial, trivial⟩, plain_literal⟩,
    plain_literal, plain_literal, ⟨trivial, trivial⟩, plain_literal⟩

/-- A secret that a text assigns: its name, what stands between, and its value. -/
structure Secret where
  name : List Char
  before : List Char
  sep : Char
  after : List Char
  value : List Char
  isName : IsSecretName name
  before_space : ∀ c ∈ before, isSpace c
  isSep : isSep sep
  after_space : ∀ c ∈ after, isSpace c
  value_ne : value ≠ []
  isValue : ∀ c ∈ value, isValue c

namespace Secret

def text (x : Secret) : List Char := x.name ++ (x.before ++ x.sep :: (x.after ++ x.value))

theorem text_append (x : Secret) (rest : List Char) :
    x.text ++ rest = x.name ++ (x.before ++ x.sep :: (x.after ++ (x.value ++ rest))) := by
  simp [text]

/-- What the secret is replaced by. -/
def redacted (x : Secret) : List Char := x.name ++ '=' :: redactedValue

end Secret

/-- Nothing of the value follows. -/
def ValueEnds (rest : List Char) : Prop := ∀ c s, rest = c :: s → isValue c = false

/-- What holds of characters of some words, tested word by word. -/
theorem forall_words {P : Char → Prop} [DecidablePred P] (f : List Char → List Char) {words : List (List Char)}
    (h : (words.all fun w => (f w).all fun l => decide (P l)) = true) : ∀ w ∈ words, ∀ l ∈ f w, P l := by
  intro w hw
  exact List.all_iff_forall_prop.mp (List.all_eq_true.mp h w hw)

section Names

variable {name : List Char}

theorem IsSecretName.word (h : IsSecretName name) :
    ∃ w ∈ secretNames, List.Forall₂ (fun l c => eitherCase l c) w name :=
  (mem_run_secretName h).2

/-- What holds of both cases of every letter of every name holds of every character of a name. -/
theorem IsSecretName.forall {P : Char → Prop} (h : IsSecretName name)
    (hall : ∀ w ∈ secretNames, ∀ l ∈ w, P l.toLower ∧ P l.toUpper) : ∀ c ∈ name, P c := by
  obtain ⟨w, hw, hsame⟩ := h.word
  exact forall_of_eitherCase hsame (hall w hw)

theorem IsSecretName.not_isSep (h : IsSecretName name) : ∀ c ∈ name, isSep c = false :=
  h.forall (forall_words id (by decide))

theorem IsSecretName.ne_bracket (h : IsSecretName name) : ∀ c ∈ name, c ≠ ']' :=
  h.forall (forall_words id (by decide))

/-- A name begins with a letter. -/
theorem IsSecretName.head (h : IsSecretName name) :
    ∃ c rest, name = c :: rest ∧ isWord c = true ∧ isSpace c = false ∧ isValue c = true := by
  obtain ⟨w, hw, hsame⟩ := h.word
  have hfirst : ∀ w ∈ secretNames, ∀ l ∈ w.take 1, (isWord l.toLower ∧ isSpace l.toLower = false ∧
      isValue l.toLower) ∧ isWord l.toUpper ∧ isSpace l.toUpper = false ∧ isValue l.toUpper :=
    forall_words (·.take 1) (by decide)
  have hne : ∀ w ∈ secretNames, w ≠ [] := by
    decide
  cases hsame with
  | nil => exact absurd rfl (hne [] hw)
  | @cons l c w' rest hsame hrest =>
      have hall : ∀ d ∈ [c], isWord d ∧ isSpace d = false ∧ isValue d :=
        forall_of_eitherCase (.cons hsame .nil) (hfirst (l :: w') hw)
      exact ⟨c, rest, rfl, hall c (List.mem_singleton_self c)⟩

/-- A name ends with a letter. -/
theorem IsSecretName.last (h : IsSecretName name) : ∃ x d, name = x ++ [d] ∧ isSpace d = false := by
  obtain ⟨w, hw, hsame⟩ := h.word
  have hlast : ∀ w ∈ secretNames, ∀ l ∈ w.reverse.take 1,
      isSpace l.toLower = false ∧ isSpace l.toUpper = false :=
    forall_words (·.reverse.take 1) (by decide)
  have hne : ∀ w ∈ secretNames, w ≠ [] := by
    decide
  have hlast := hlast w hw
  have hback := List.rel_reverse hsame
  obtain ⟨l, w', hrev⟩ := List.exists_cons_of_ne_nil (List.reverse_ne_nil_iff.mpr (hne w hw))
  rw [hrev] at hback hlast
  rcases hname : name.reverse with _ | ⟨d, x⟩
  · rw [hname] at hback
    cases hback
  · rw [hname] at hback
    cases hback with
    | cons hsame' hrest =>
        have hall : ∀ c ∈ [d], isSpace c = false := forall_of_eitherCase (.cons hsame' .nil) hlast
        refine ⟨x.reverse, d, ?_, hall d (List.mem_singleton_self d)⟩
        rw [← List.reverse_reverse name, hname, List.reverse_cons]

/-- Blanks at the end of a name are none. -/
theorem IsSecretName.no_trailing (h : IsSecretName name) {x ws : List Char} (hsplit : name = x ++ ws)
    (hws : ∀ c ∈ ws, isSpace c) : ws = [] := by
  obtain ⟨y, d, hname, hd⟩ := h.last
  rcases List.eq_nil_or_concat ws with hnil | ⟨z, e, rfl⟩
  · exact hnil
  · rw [hname, List.concat_eq_append, ← List.append_assoc] at hsplit
    obtain ⟨-, heq⟩ := List.append_inj' hsplit rfl
    have hsame : d = e := by
      injection heq
    rw [hsame, hws e (by simp)] at hd
    cases hd

end Names

section Matches

variable {b : Bool} {s : List Char} {m : Found Char}

theorem mem_run_spaces {r : Found Char} (h : r ∈ Regex.run isWord (.many isSpace) b s) :
    r.groups = [] ∧ s = r.text ++ r.rest ∧ ∀ c ∈ r.text, isSpace c :=
  mem_runMany.mp h

/-- The value is read as far as it goes. -/
theorem first_value (h : first isWord (.group (.seq (.one isValue) (.many isValue))) b s = some m) :
    m.groups = [m.text] ∧ m.text ≠ [] ∧ (∀ c ∈ m.text, isValue c) ∧ ValueEnds m.rest := by
  obtain ⟨x, hx, rfl⟩ := first_group h
  obtain ⟨y, hy, z, hz, rfl⟩ := first_seq hx
  obtain ⟨hygroups, c, hc, hytext, -⟩ := mem_run_one.mp hy
  obtain ⟨hzgroups, -, hall⟩ := mem_runMany.mp (first_mem hz)
  have hends : ValueEnds z.rest := first_many hz
  refine ⟨?_, ?_, ?_, hends⟩
  · show (y.text ++ z.text) :: (y.groups ++ z.groups) = [y.text ++ z.text]
    rw [hygroups, hzgroups]
    rfl
  · show y.text ++ z.text ≠ []
    rw [hytext]
    exact List.cons_ne_nil _ _
  · show ∀ d ∈ y.text ++ z.text, isValue d
    rw [hytext]
    exact List.forall_mem_cons.mpr ⟨hc, hall⟩

/-- **A match is a secret**, with its name and its whole value as the groups; no word character comes before
    it. -/
theorem first_secret (h : first isWord secretAssignment b s = some m) :
    b = false ∧ ∃ x : Secret, s = x.text ++ m.rest ∧ m.text = x.text ∧ m.groups = [x.name, x.value] ∧
      ValueEnds m.rest := by
  have hsplit := run_split (first_mem h)
  obtain ⟨u₀, hu₀, y₀, hy₀, rfl⟩ := first_seq h
  obtain ⟨hb, rfl⟩ := mem_run_boundary.mp hu₀
  obtain ⟨u₁, hu₁, y₁, hy₁, rfl⟩ := first_seq hy₀
  obtain ⟨k, hk, rfl⟩ := mem_run_group.mp hu₁
  obtain ⟨u₂, hu₂, y₂, hy₂, rfl⟩ := first_seq hy₁
  obtain ⟨u₃, hu₃, y₃, hy₃, rfl⟩ := first_seq hy₂
  obtain ⟨u₄, hu₄, y₄, hy₄, rfl⟩ := first_seq hy₃
  obtain ⟨hkgroups, -⟩ := mem_run_secretName hk
  obtain ⟨hgroups₂, -, hbefore⟩ := mem_run_spaces hu₂
  obtain ⟨hgroups₃, sep, hsep, htext₃, -⟩ := mem_run_one.mp hu₃
  obtain ⟨hgroups₄, -, hafter⟩ := mem_run_spaces hu₄
  obtain ⟨hgroups, hne, hvalue, hends⟩ := first_value hy₄
  have hname : IsSecretName k.text := by
    have hanywhere := plain_secretName.run_anywhere hk false []
    rwa [hkgroups, List.append_nil] at hanywhere
  let x : Secret := ⟨k.text, u₂.text, sep, u₄.text, y₄.text, hname, hbefore, hsep, hafter, hne, hvalue⟩
  have htext : ([] : List Char) ++ (k.text ++ (u₂.text ++ (u₃.text ++ (u₄.text ++ y₄.text)))) = x.text := by
    rw [htext₃]
    rfl
  refine ⟨?_, x, ?_, htext, ?_, hends⟩
  · obtain ⟨c, rest, hhead, hword, -⟩ := hname.head
    have hs : s = k.text ++ k.rest := run_split hk
    rw [hs, hhead, List.cons_append, wordAhead_cons, hword] at hb
    cases b with
    | true => exact absurd rfl hb
    | false => rfl
  · rw [← htext]
    exact hsplit
  · show [] ++ (k.text :: k.groups ++ (u₂.groups ++ (u₃.groups ++ (u₄.groups ++ y₄.groups)))) = [x.name, x.value]
    rw [hkgroups, hgroups₂, hgroups₃, hgroups₄, hgroups]
    rfl

/-- **A secret is found** where it stands after no word character. -/
theorem Secret.first_isSome (x : Secret) (rest : List Char) :
    (first isWord secretAssignment false (x.text ++ rest)).isSome := by
  obtain ⟨c, value, hvalue⟩ := List.exists_cons_of_ne_nil x.value_ne
  have hall := x.isValue
  rw [hvalue] at hall
  obtain ⟨hc, hall⟩ := List.forall_mem_cons.mp hall
  obtain ⟨d, name, hname, hword, -⟩ := x.isName.head
  refine Regex.first_isSome.mpr ⟨_, mem_run_seq.mpr ⟨⟨[], [], x.text ++ rest⟩, mem_run_boundary.mpr ⟨?_, rfl⟩,
    _, mem_run_seq.mpr ⟨⟨x.name, [x.name], x.before ++ x.sep :: (x.after ++ (x.value ++ rest))⟩, ?_,
    _, mem_run_seq.mpr ⟨⟨x.before, [], x.sep :: (x.after ++ (x.value ++ rest))⟩, ?_,
    _, mem_run_seq.mpr ⟨⟨[x.sep], [], x.after ++ (x.value ++ rest)⟩, ?_,
    _, mem_run_seq.mpr ⟨⟨x.after, [], x.value ++ rest⟩, ?_, ⟨x.value, [x.value], rest⟩, ?_, rfl⟩, rfl⟩, rfl⟩,
    rfl⟩, rfl⟩⟩
  · show false ≠ wordAhead isWord (x.name ++ _ ++ rest)
    rw [hname, List.cons_append, List.cons_append, wordAhead_cons, hword]
    exact Bool.false_ne_true
  · have hread := plain_secretName.run_anywhere x.isName false
      (x.before ++ x.sep :: (x.after ++ (x.value ++ rest)))
    refine mem_run_group.mpr ⟨⟨x.name, [], x.before ++ x.sep :: (x.after ++ (x.value ++ rest))⟩, ?_, rfl⟩
    show _ ∈ Regex.run isWord secretName false (x.text ++ rest)
    rw [x.text_append]
    exact hread
  · exact mem_runMany.mpr ⟨rfl, rfl, x.before_space⟩
  · exact mem_run_one.mpr ⟨rfl, x.sep, x.isSep, rfl, rfl⟩
  · exact mem_runMany.mpr ⟨rfl, rfl, x.after_space⟩
  · refine mem_run_group.mpr ⟨⟨x.value, [], rest⟩, mem_run_seq.mpr ⟨⟨[c], [], value ++ rest⟩, ?_,
      ⟨value, [], rest⟩, mem_runMany.mpr ⟨rfl, rfl, hall⟩, ?_⟩, rfl⟩
    · exact mem_run_one.mpr ⟨rfl, c, hc, rfl, by rw [hvalue, List.cons_append]⟩
    · rw [hvalue]
      rfl

/-- The first `:` or `=` of a secret's text. -/
theorem Secret.split (x : Secret) {n y rest : List Char} {sep : Char} (h : n ++ sep :: y = x.text ++ rest)
    (hn : ∀ c ∈ n, WeFlow.isSep c = false) (hsep : WeFlow.isSep sep) :
    n = x.name ++ x.before ∧ sep = x.sep ∧ y = x.after ++ (x.value ++ rest) := by
  have hbefore : ∀ c ∈ x.name ++ x.before, WeFlow.isSep c = false :=
    not_isSep_append x.isName.not_isSep x.before_space
  have htext : x.text ++ rest = (x.name ++ x.before) ++ x.sep :: (x.after ++ (x.value ++ rest)) := by
    simp [Secret.text]
  rw [htext] at h
  obtain ⟨hfirst, hlast⟩ := span_unique (p := fun c => !WeFlow.isSep c) h
    (fun c hc => by rw [hn c hc]; rfl) (fun c hc => by rw [hbefore c hc]; rfl)
    (fun c s hc => by
      obtain ⟨rfl, -⟩ := List.cons.inj hc
      rw [hsep]
      rfl)
    (fun c s hc => by
      obtain ⟨rfl, -⟩ := List.cons.inj hc
      rw [x.isSep]
      rfl)
  obtain ⟨rfl, rfl⟩ := List.cons.inj hlast
  exact ⟨hfirst, rfl, rfl⟩

/-- Two values that begin one text, one of them after blanks, are one, and there are no blanks. -/
theorem value_unique {ws v v' r r' : List Char} (h : v ++ r = ws ++ (v' ++ r')) (hne : v ≠ [])
    (hv : ∀ c ∈ v, isValue c) (hws : ∀ c ∈ ws, isSpace c) (hv' : ∀ c ∈ v', isValue c)
    (hr : ValueEnds r) (hr' : ValueEnds r') : ws = [] ∧ v = v' ∧ r = r' := by
  cases ws with
  | nil => exact ⟨rfl, span_unique h hv hv' hr hr'⟩
  | cons d ws =>
      obtain ⟨c, v, rfl⟩ := List.exists_cons_of_ne_nil hne
      obtain ⟨rfl, -⟩ := List.cons.inj h
      have hspace := hws c List.mem_cons_self
      rw [not_isSpace_of_isValue (hv c List.mem_cons_self)] at hspace
      cases hspace

theorem redactedValue_isValue : ∀ c ∈ redactedValue, isValue c :=
  List.all_iff_forall_prop.mp (by decide)

/-- **In front of a redacted value** every match has that value. -/
theorem first_redactedValue {n rest : List Char} (hn : ∀ c ∈ n, isSep c = false) (hends : ValueEnds rest)
    (h : first isWord secretAssignment b (n ++ '=' :: (redactedValue ++ rest)) = some m) :
    ∃ x : Secret, n = x.name ++ x.before ∧ m.groups = [x.name, redactedValue] ∧
      m.text = n ++ '=' :: redactedValue ∧ m.rest = rest := by
  obtain ⟨-, x, hsplit, htext, hgroups, hends'⟩ := first_secret h
  obtain ⟨hname, hsep, hafter⟩ := x.split hsplit hn rfl
  obtain ⟨hblank, hvalue, hrest⟩ := value_unique hafter (by decide) redactedValue_isValue x.after_space
    x.isValue hends hends'
  refine ⟨x, hname, hvalue ▸ hgroups, ?_, hrest.symm⟩
  rw [htext, Secret.text, hname, hsep, hvalue, hblank, List.append_assoc, List.nil_append]

/-- **A redacted secret** is replaced by itself. -/
theorem Secret.first_redacted (x : Secret) {rest : List Char} (hends : ValueEnds rest) :
    ∃ m, first isWord secretAssignment false (x.redacted ++ rest) = some m ∧ redactMatch m = x.redacted ∧
      m.text = x.redacted ∧ m.rest = rest := by
  let y : Secret := { x with
    before := [], sep := '=', after := [], value := redactedValue,
    before_space := fun _ hc => absurd hc List.not_mem_nil, isSep := rfl,
    after_space := fun _ hc => absurd hc List.not_mem_nil, value_ne := by decide,
    isValue := redactedValue_isValue }
  have hsome := y.first_isSome rest
  obtain ⟨m, hm⟩ := Option.isSome_iff_exists.mp hsome
  have htext : y.text ++ rest = x.name ++ '=' :: (redactedValue ++ rest) := by
    simp [y, Secret.text]
  have hm' := hm
  rw [htext] at hm'
  obtain ⟨z, hname, hgroups, hmtext, hrest⟩ := first_redactedValue x.isName.not_isSep hends hm'
  have hblank : z.before = [] := x.isName.no_trailing hname z.before_space
  rw [hblank, List.append_nil] at hname
  refine ⟨m, ?_, ?_, hmtext, hrest⟩
  · rw [← hm, htext]
    simp [Secret.redacted]
  · rw [redactMatch, hgroups, ← hname]
    rfl

end Matches

/-! ## Agreement up to the first separator -/

/-- After blanks, a character of a value comes next. -/
def Valued (s : List Char) : Prop := ∃ ws v rest, s = ws ++ v :: rest ∧ (∀ c ∈ ws, isSpace c) ∧ isValue v

theorem Valued.cons {c : Char} {s : List Char} (h : Valued (c :: s)) :
    isValue c ∨ (isSpace c ∧ Valued s) := by
  obtain ⟨ws, v, rest, hsplit, hws, hv⟩ := h
  cases ws with
  | nil =>
      obtain ⟨rfl, -⟩ := List.cons.inj hsplit
      exact .inl hv
  | cons d ws =>
      obtain ⟨rfl, hrest⟩ := List.cons.inj hsplit
      obtain ⟨hd, hws⟩ := List.forall_mem_cons.mp hws
      exact .inr ⟨hd, ws, v, rest, hrest, hws, hv⟩

theorem valued_of_isValue {c : Char} {s : List Char} (h : isValue c) : Valued (c :: s) :=
  ⟨[], c, s, rfl, fun _ hc => absurd hc List.not_mem_nil, h⟩

theorem Valued.space {ws s : List Char} (hws : ∀ c ∈ ws, isSpace c) (h : Valued s) : Valued (ws ++ s) := by
  obtain ⟨ws', v, rest, rfl, hws', hv⟩ := h
  exact ⟨ws ++ ws', v, rest, (List.append_assoc ..).symm, List.forall_mem_append.mpr ⟨hws, hws'⟩, hv⟩

/-- A text agrees with what is made of it: what stands before the first separator, and whether a separator
    and a value come after it. -/
structure Agrees (s out : List Char) : Prop where
  text : ∀ w z, out = w ++ z → (∀ c ∈ w, isSep c = false) →
    ∃ z', s = w ++ z' ∧ wordAhead isWord z' = wordAhead isWord z
  assign : ∀ w sep y, out = w ++ sep :: y → (∀ c ∈ w, isSep c = false) → isSep sep →
    ∃ ws sep' y', s = w ++ (ws ++ sep' :: y') ∧ (∀ c ∈ ws, isSpace c) ∧ isSep sep' ∧ (Valued y → Valued y')
  valued : Valued out → Valued s

namespace Agrees

variable {s out : List Char}

theorem nil : Agrees [] [] where
  text := fun _ z hout _ => ⟨z, hout, rfl⟩
  assign := fun _ _ _ hout => absurd hout.symm (List.append_ne_nil_of_right_ne_nil _ (List.cons_ne_nil _ _))
  valued := fun h => h

theorem cons (h : Agrees s out) (c : Char) : Agrees (c :: s) (c :: out) where
  text := by
    intro w z hout hw
    cases w with
    | nil =>
        obtain rfl : c :: out = z := hout
        exact ⟨c :: s, rfl, rfl⟩
    | cons d w =>
        obtain ⟨rfl, hrest⟩ := List.cons.inj hout
        obtain ⟨z', rfl, hahead⟩ := h.text w z hrest (List.forall_mem_cons.mp hw).2
        exact ⟨z', rfl, hahead⟩
  assign := by
    intro w sep y hout hw hsep
    cases w with
    | nil =>
        obtain ⟨rfl, rfl⟩ := List.cons.inj hout
        exact ⟨[], c, s, rfl, fun _ hc => absurd hc List.not_mem_nil, hsep, h.valued⟩
    | cons d w =>
        obtain ⟨rfl, hrest⟩ := List.cons.inj hout
        obtain ⟨ws, sep', y', rfl, hmore⟩ := h.assign w sep y hrest (List.forall_mem_cons.mp hw).2 hsep
        exact ⟨ws, sep', y', rfl, hmore⟩
  valued := by
    intro hvalued
    rcases hvalued.cons with hc | ⟨hc, hrest⟩
    · exact valued_of_isValue hc
    · have hspace : ∀ d ∈ [c], isSpace d := by simpa using hc
      exact (h.valued hrest).space hspace

theorem append (h : Agrees s out) (x : List Char) : Agrees (x ++ s) (x ++ out) := by
  induction x with
  | nil => exact h
  | cons c x ih => exact ih.cons c

/-- What stands between a name and its value is replaced by `=`. -/
theorem gap {ws y : List Char} {sep : Char} (hws : ∀ c ∈ ws, isSpace c) (hsep : isSep sep) (hy : Valued y) :
    Agrees (ws ++ sep :: y) ('=' :: out) where
  text := by
    intro w z hout hw
    cases w with
    | nil =>
        obtain rfl : '=' :: out = z := hout
        refine ⟨_, rfl, ?_⟩
        have hword : wordAhead isWord (ws ++ sep :: y) = false := by
          cases ws with
          | nil => exact not_isWord_of_isSep hsep
          | cons d ws => exact not_isWord_of_isSpace (hws d List.mem_cons_self)
        exact hword
    | cons d w =>
        obtain ⟨rfl, -⟩ := List.cons.inj hout
        cases (List.forall_mem_cons.mp hw).1
  assign := by
    intro w sep' y' hout hw hsep'
    cases w with
    | nil => exact ⟨ws, sep, y, rfl, hws, hsep, fun _ => hy⟩
    | cons d w =>
        obtain ⟨rfl, -⟩ := List.cons.inj hout
        cases (List.forall_mem_cons.mp hw).1
  valued := fun _ => (valued_of_isValue (isValue_of_isSep hsep)).space hws

/-- From any place in its name, a redacted secret agrees with the secret. -/
theorem redactedFrom (x : Secret) (n rest : List Char) :
    Agrees (n ++ (x.before ++ x.sep :: (x.after ++ (x.value ++ s)))) (n ++ '=' :: (redactedValue ++ rest)) := by
  have hvalued : Valued (x.after ++ (x.value ++ s)) := by
    obtain ⟨v, value, hvalue⟩ := List.exists_cons_of_ne_nil x.value_ne
    have hv := x.isValue v (hvalue ▸ List.mem_cons_self)
    rw [hvalue, List.cons_append]
    exact (valued_of_isValue hv).space x.after_space
  have hgap : Agrees (x.before ++ x.sep :: (x.after ++ (x.value ++ s))) ('=' :: (redactedValue ++ rest)) :=
    gap x.before_space x.isSep hvalued
  exact hgap.append n

theorem redacted (x : Secret) (rest : List Char) : Agrees (x.text ++ s) (x.redacted ++ rest) := by
  have hall := redactedFrom (s := s) x x.name rest
  have hredacted : x.redacted ++ rest = x.name ++ '=' :: (redactedValue ++ rest) := by
    simp [Secret.redacted]
  rw [x.text_append, hredacted]
  exact hall

/-- **A secret of the one is a secret of the other.** -/
theorem secret {b : Bool} (h : Agrees s out) (hfound : (first isWord secretAssignment b out).isSome) :
    (first isWord secretAssignment b s).isSome := by
  obtain ⟨m, hm⟩ := Option.isSome_iff_exists.mp hfound
  obtain ⟨rfl, x, hsplit, -⟩ := first_secret hm
  have hout : out = (x.name ++ x.before) ++ x.sep :: (x.after ++ (x.value ++ m.rest)) := by
    rw [hsplit]
    simp [Secret.text]
  obtain ⟨ws, sep, y, hs, hws, hsep, hvalued⟩ :=
    h.assign _ _ _ hout (not_isSep_append x.isName.not_isSep x.before_space) x.isSep
  have hvalue : Valued (x.after ++ (x.value ++ m.rest)) := by
    obtain ⟨v, value, hv⟩ := List.exists_cons_of_ne_nil x.value_ne
    rw [hv, List.cons_append]
    exact (valued_of_isValue (x.isValue v (hv ▸ List.mem_cons_self))).space x.after_space
  obtain ⟨ws', v, rest, rfl, hws', hv⟩ := hvalued hvalue
  let z : Secret := { x with
    before := x.before ++ ws, sep := sep, after := ws', value := [v],
    before_space := List.forall_mem_append.mpr ⟨x.before_space, hws⟩, isSep := hsep,
    after_space := hws', value_ne := List.cons_ne_nil _ _,
    isValue := fun c hc => List.mem_singleton.mp hc ▸ hv }
  have hz : s = z.text ++ rest := by
    rw [hs]
    simp [z, Secret.text]
  rw [hz]
  exact z.first_isSome rest

end Agrees

/-! ## Redaction -/

/-- What redaction makes of a text: it keeps a character that no match begins at, and replaces a match, up to
    the end of the text or up to a character that ends the value. -/
inductive Redacts : Bool → List Char → List Char → Prop
  | nil (b : Bool) : Redacts b [] []
  | keep {b : Bool} {c : Char} {s out : List Char} (hnone : first isWord secretAssignment b (c :: s) = none)
      (hrest : Redacts (isWord c) s out) : Redacts b (c :: s) (c :: out)
  | last (x : Secret) : Redacts false (x.text ++ []) (x.redacted ++ [])
  | next (x : Secret) {d : Char} {s out : List Char} (hd : isValue d = false) (hrest : Redacts false s out) :
      Redacts false (x.text ++ d :: s) (x.redacted ++ d :: out)

/-- No match begins at the end of a value. -/
theorem first_of_not_isValue {b : Bool} {d : Char} {s : List Char} (hd : isValue d = false) :
    first isWord secretAssignment b (d :: s) = none := by
  by_contra hsome
  obtain ⟨m, hm⟩ := Option.ne_none_iff_exists'.mp hsome
  obtain ⟨-, x, hsplit, -⟩ := first_secret hm
  obtain ⟨c, rest, hname, -, -, hc⟩ := x.isName.head
  rw [Secret.text, hname] at hsplit
  obtain ⟨rfl, -⟩ := List.cons.inj hsplit
  rw [hd] at hc
  cases hc

theorem redacts_redact (b : Bool) (s : List Char) : Redacts b s (redact b s) := by
  induction hn : s.length using Nat.strong_induction_on generalizing b s with
  | _ n ih =>
      cases hfirst : first isWord secretAssignment b s with
      | none =>
          cases s with
          | nil => exact .nil b
          | cons c s =>
              rw [redact, sub_none hfirst]
              exact .keep hfirst (ih s.length (by rw [← hn]; exact Nat.lt_succ_self _) _ s rfl)
      | some m =>
          obtain ⟨rfl, x, hsplit, htext, hgroups, hends⟩ := first_secret hfirst
          obtain ⟨c, name, hname, -⟩ := x.isName.head
          have hne : m.text ≠ [] := by
            rw [htext, Secret.text, hname]
            exact List.cons_ne_nil _ _
          have hmatch : redactMatch m = x.redacted := by
            rw [redactMatch, hgroups]
            rfl
          rw [redact, sub_some hfirst hne, hmatch]
          rw [hsplit]
          generalize m.rest = rest at hsplit hends
          cases rest with
          | nil => exact .last x
          | cons d s' =>
              have hd : isValue d = false := hends d s' rfl
              rw [sub_none (first_of_not_isValue hd), not_isWord_of_not_isValue hd]
              refine .next x hd (ih s'.length ?_ _ s' rfl)
              rw [← hn, hsplit, List.length_append, List.length_cons]
              omega

namespace Redacts

variable {b p : Bool} {s out : List Char}

theorem agrees (h : Redacts b s out) : Agrees s out := by
  induction h with
  | nil => exact .nil
  | keep hnone hrest ih => exact ih.cons _
  | last x => exact .redacted x []
  | next x hd hrest ih => exact .redacted x _

/-- **A redacted text is redacted to itself.** -/
theorem redact_eq (h : Redacts b s out) : redact b out = out := by
  induction h with
  | nil => rfl
  | @keep b c s out hnone hrest ih =>
      have hnone' : first isWord secretAssignment b (c :: out) = none := by
        by_contra hsome
        have hfound := (hrest.agrees.cons _).secret (Option.isSome_iff_ne_none.mpr hsome)
        rw [hnone] at hfound
        cases hfound
      rw [redact, sub_none hnone']
      exact congrArg _ ih
  | last x =>
      have hends : ValueEnds [] := fun _ _ h => nomatch h
      obtain ⟨m, hm, hmatch, htext, hrest⟩ := x.first_redacted hends
      have hne : m.text ≠ [] := by
        rw [htext, Secret.redacted]
        exact List.append_ne_nil_of_right_ne_nil _ (List.cons_ne_nil _ _)
      rw [redact, sub_some hm hne, hmatch, hrest]
      rfl
  | @next x d s out hd hrest ih =>
      have hends : ValueEnds (d :: out) := by
        intro c r hc
        obtain ⟨rfl, -⟩ := List.cons.inj hc
        exact hd
      obtain ⟨m, hm, hmatch, htext, hmrest⟩ := x.first_redacted hends
      have hne : m.text ≠ [] := by
        rw [htext, Secret.redacted]
        exact List.append_ne_nil_of_right_ne_nil _ (List.cons_ne_nil _ _)
      rw [redact, sub_some hm hne, hmatch, hmrest, sub_none (first_of_not_isValue hd),
        not_isWord_of_not_isValue hd]
      exact congrArg (fun r => x.redacted ++ d :: r) ih

/-! ### No place of a redacted text -/

theorem mem_of_append_eq {a : Char} {x z u v : List Char} (h : x ++ a :: z = u ++ v)
    (hlt : x.length < u.length) : a ∈ u := by
  induction x generalizing u with
  | nil =>
      cases u with
      | nil => cases hlt
      | cons e u =>
          obtain ⟨rfl, -⟩ := List.cons.inj h
          exact List.mem_cons_self
  | cons e x ih =>
      cases u with
      | nil => cases hlt
      | cons e' u =>
          obtain ⟨rfl, hrest⟩ := List.cons.inj h
          exact List.mem_cons_of_mem _ (ih hrest (Nat.lt_of_succ_lt_succ hlt))

/-- A property that holds at no place of a redacted secret and of what follows it. -/
theorem nowhere_redacted {P : Bool → List Char → Prop} (x : Secret) {rest : List Char}
    (hname : ∀ u n, x.name = u ++ n → ¬ P (wordAfter isWord false u) (n ++ '=' :: (redactedValue ++ rest)))
    (hmark : ∀ b y, (∀ c ∈ y, isSep c = false) → y.length < 10 → ¬ P b (y ++ ']' :: rest))
    (hrest : Nowhere isWord P false rest) : Nowhere isWord P false (x.redacted ++ rest) := by
  have hvalue : ∀ y z, redactedValue = y ++ z → z ≠ [] →
      ∃ w, z = w ++ [']'] ∧ (∀ c ∈ w, isSep c = false) ∧ w.length < 10 := by
    intro y z hsplit hne
    obtain ⟨w, l, rfl⟩ := List.eq_nil_or_concat z |>.resolve_left hne
    have hlast : redactedValue = "[REDACTED".toList ++ [']'] := by
      decide
    rw [hlast, List.concat_eq_append, ← List.append_assoc] at hsplit
    obtain ⟨hw, hl⟩ := List.append_inj' hsplit rfl
    obtain rfl : ']' = l := by injection hl
    refine ⟨w, List.concat_eq_append, fun c hc => ?_, ?_⟩
    · have hall : ∀ c ∈ "[REDACTED".toList, isSep c = false :=
        List.all_iff_forall_prop.mp (by decide)
      exact hall c (hw ▸ List.mem_append_right y hc)
    · have hlength := congrArg List.length hw
      rw [List.length_append] at hlength
      have hnine : "[REDACTED".toList.length = 9 := by
        decide
      omega
  have htext : x.redacted ++ rest = x.name ++ ('=' :: (redactedValue ++ rest)) := by
    simp [Secret.redacted]
  rw [htext]
  refine Nowhere.append (fun u n hsplit _ => hname u n hsplit) ⟨?_, ?_⟩
  · have hhere := hname x.name [] (List.append_nil _).symm
    exact hhere
  · refine Nowhere.append (fun y z hsplit hne => ?_) hrest
    obtain ⟨w, rfl, hw, hlength⟩ := hvalue y z hsplit hne
    rw [List.append_assoc]
    exact hmark _ w hw hlength

/-- No secret begins in front of the end of a redacted value. -/
theorem first_before_bracket {y rest : List Char} (hy : ∀ c ∈ y, isSep c = false) :
    first isWord secretAssignment b (y ++ ']' :: rest) = none := by
  by_contra hsome
  obtain ⟨m, hm⟩ := Option.ne_none_iff_exists'.mp hsome
  obtain ⟨-, x, hsplit, -⟩ := first_secret hm
  rw [x.text_append, ← List.append_assoc] at hsplit
  by_cases hlt : y.length < (x.name ++ x.before).length
  · rcases List.mem_append.mp (mem_of_append_eq hsplit hlt) with hmem | hmem
    · exact x.isName.ne_bracket _ hmem rfl
    · cases x.before_space _ hmem
  · have hsplit' : (x.name ++ x.before) ++ x.sep :: (x.after ++ (x.value ++ m.rest)) = (y ++ [']']) ++ rest := by
      rw [← hsplit]
      simp
    have hmem : x.sep ∈ y ++ [']'] := by
      refine mem_of_append_eq hsplit' ?_
      have hlength : (y ++ [']']).length = y.length + 1 := by simp
      rw [hlength]
      omega
    have hsep := x.isSep
    rcases List.mem_append.mp hmem with hmem | hmem
    · rw [hy _ hmem] at hsep
      cases hsep
    · rw [List.mem_singleton.mp hmem] at hsep
      cases hsep

theorem first_nil : first isWord secretAssignment b [] = none := by
  by_contra hsome
  obtain ⟨m, hm⟩ := Option.ne_none_iff_exists'.mp hsome
  obtain ⟨-, x, hsplit, -⟩ := first_secret hm
  obtain ⟨c, name, hname, -⟩ := x.isName.head
  rw [x.text_append, hname] at hsplit
  cases hsplit

/-- **Every secret of a redacted text has the redacted value.** -/
theorem values (h : Redacts b s out) : Nowhere isWord (fun b s => ∃ m,
    first isWord secretAssignment b s = some m ∧ m.groups[1]? ≠ some redactedValue) b out := by
  have hgroups : ∀ {x : Secret} {rest : List Char}, ValueEnds rest → ∀ u n, x.name = u ++ n →
      ¬ ∃ m, first isWord secretAssignment (wordAfter isWord false u) (n ++ '=' :: (redactedValue ++ rest)) =
        some m ∧ m.groups[1]? ≠ some redactedValue := by
    rintro x rest hends u n hsplit ⟨m, hm, hne⟩
    have hn : ∀ c ∈ n, isSep c = false := fun c hc =>
      x.isName.not_isSep c (hsplit ▸ List.mem_append_right u hc)
    obtain ⟨y, -, hgroups, -⟩ := first_redactedValue hn hends hm
    rw [hgroups] at hne
    exact hne rfl
  induction h with
  | nil =>
      rintro ⟨m, hm, -⟩
      rw [first_nil] at hm
      cases hm
  | @keep b c s out hnone hrest ih =>
      refine ⟨?_, ih⟩
      rintro ⟨m, hm, -⟩
      have hfound := (hrest.agrees.cons c).secret (Option.isSome_iff_exists.mpr ⟨m, hm⟩)
      rw [hnone] at hfound
      cases hfound
  | last x =>
      refine nowhere_redacted x (hgroups fun _ _ h => nomatch h) ?_ ?_
      · rintro b y hy - ⟨m, hm, -⟩
        rw [first_before_bracket hy] at hm
        cases hm
      · rintro ⟨m, hm, -⟩
        rw [first_nil] at hm
        cases hm
  | @next x d s out hd hrest ih =>
      have hends : ValueEnds (d :: out) := by
        intro c r hc
        obtain ⟨rfl, -⟩ := List.cons.inj hc
        exact hd
      refine nowhere_redacted x (hgroups hends) ?_ ⟨?_, ?_⟩
      · rintro b y hy - ⟨m, hm, -⟩
        rw [first_before_bracket hy] at hm
        cases hm
      · rintro ⟨m, hm, -⟩
        rw [first_of_not_isValue hd] at hm
        cases hm
      · rw [not_isWord_of_not_isValue hd]
        exact ih

end Redacts

/-! ## Prohibited texts -/

/-- The words that a prohibited text begins with. -/
def prohibitedWords : List (List Char) :=
  ["BEGIN PRIVATE KEY", "BEGIN RSA PRIVATE KEY", "BEGIN EC PRIVATE KEY", "BEGIN OPENSSH PRIVATE KEY",
    "client_secret", "access_token"].map String.toList

section Prohibited

variable {b : Bool} {s out text : List Char} {k : Found Char}

/-- The text is one of the words, in any case. -/
def IsProhibitedWord (text : List Char) : Prop :=
  ∃ w ∈ prohibitedWords, List.Forall₂ (fun l c => eitherCase l c) w text

theorem mem_run_privateKey (h : k ∈ Regex.run isWord privateKey b s) : k.groups = [] ∧ IsProhibitedWord k.text := by
  obtain ⟨x, hx, y, hy, rfl⟩ := mem_run_seq.mp h
  obtain ⟨z, hz, l, hl, rfl⟩ := mem_run_seq.mp hy
  obtain ⟨hxgroups, hxtext⟩ := mem_run_literal hx
  obtain ⟨hlgroups, hltext⟩ := mem_run_literal hl
  have hkind : z.groups = [] ∧ ∃ w ∈ [[], "RSA ".toList, "EC ".toList, "OPENSSH ".toList],
      List.Forall₂ (fun l c => eitherCase l c) w z.text := by
    rcases mem_run_alt.mp hz with hz | hz
    · rcases mem_run_alt.mp hz with hz | hz
      · obtain ⟨hgroups, htext⟩ := mem_run_literal hz
        exact ⟨hgroups, _, by decide, htext⟩
      rcases mem_run_alt.mp hz with hz | hz
      · obtain ⟨hgroups, htext⟩ := mem_run_literal hz
        exact ⟨hgroups, _, by decide, htext⟩
      · obtain ⟨hgroups, htext⟩ := mem_run_literal hz
        exact ⟨hgroups, _, by decide, htext⟩
    · obtain rfl := mem_run_empty.mp hz
      exact ⟨rfl, [], by decide, .nil⟩
  obtain ⟨hzgroups, w, hw, hztext⟩ := hkind
  refine ⟨?_, _, ?_, List.rel_append hxtext (List.rel_append hztext hltext)⟩
  · show x.groups ++ (z.groups ++ l.groups) = []
    rw [hxgroups, hzgroups, hlgroups]
    rfl
  · simp only [List.mem_cons, List.not_mem_nil, or_false] at hw
    rcases hw with rfl | rfl | rfl | rfl <;> decide

theorem mem_run_prohibitedName (h : k ∈ Regex.run isWord prohibitedName b s) :
    k.groups = [] ∧ IsProhibitedWord k.text := by
  rcases mem_run_alt.mp h with h | h
  · obtain ⟨hgroups, htext⟩ := mem_run_literal h
    exact ⟨hgroups, _, by decide, htext⟩
  · obtain ⟨hgroups, htext⟩ := mem_run_literal h
    exact ⟨hgroups, _, by decide, htext⟩

theorem plain_privateKey : privateKey.Plain :=
  ⟨plain_literal, ⟨⟨plain_literal, plain_literal, plain_literal⟩, trivial⟩, plain_literal⟩

theorem plain_prohibitedName : prohibitedName.Plain := ⟨plain_literal, plain_literal⟩

theorem IsProhibitedWord.length (h : IsProhibitedWord text) : 12 ≤ text.length := by
  obtain ⟨w, hw, hsame⟩ := h
  have hall : ∀ w ∈ prohibitedWords, 12 ≤ w.length := by
    decide
  rw [← hsame.length_eq]
  exact hall w hw

theorem IsProhibitedWord.forall {P : Char → Prop} (h : IsProhibitedWord text)
    (hall : ∀ w ∈ prohibitedWords, ∀ l ∈ w, P l.toLower ∧ P l.toUpper) : ∀ c ∈ text, P c := by
  obtain ⟨w, hw, hsame⟩ := h
  exact forall_of_eitherCase hsame (hall w hw)

theorem IsProhibitedWord.not_isSep (h : IsProhibitedWord text) : ∀ c ∈ text, isSep c = false :=
  h.forall (forall_words id (by decide))

theorem IsProhibitedWord.ne_bracket (h : IsProhibitedWord text) : ∀ c ∈ text, c ≠ ']' :=
  h.forall (forall_words id (by decide))

theorem IsProhibitedWord.head (h : IsProhibitedWord text) : ∃ c rest, text = c :: rest ∧ isValue c = true := by
  obtain ⟨w, hw, hsame⟩ := h
  have hfirst : ∀ w ∈ prohibitedWords, ∀ l ∈ w.take 1, isValue l.toLower ∧ isValue l.toUpper :=
    forall_words (·.take 1) (by decide)
  have hne : ∀ w ∈ prohibitedWords, w ≠ [] := by
    decide
  cases hsame with
  | nil => exact absurd rfl (hne [] hw)
  | @cons l c w' rest hsame hrest =>
      have hall : ∀ d ∈ [c], isValue d := forall_of_eitherCase (.cons hsame .nil) (hfirst (l :: w') hw)
      exact ⟨c, rest, rfl, hall c (List.mem_singleton_self c)⟩

/-- A prohibited text begins here. -/
def Prohibited (b : Bool) (s : List Char) : Prop := ∃ m, m ∈ Regex.run isWord prohibitedCandidate b s

/-- **What is prohibited**: the head of a private key, or the assignment of a token. -/
theorem prohibited_iff : Prohibited b s ↔ b ≠ wordAhead isWord s ∧
    ((∃ k ∈ Regex.run isWord privateKey b s, wordAfter isWord b k.text ≠ wordAhead isWord k.rest) ∨
      ∃ k ∈ Regex.run isWord prohibitedName b s, ∃ ws sep y, k.rest = ws ++ sep :: y ∧
        (∀ c ∈ ws, isSpace c) ∧ isSep sep) := by
  constructor
  · rintro ⟨m, hm⟩
    rcases mem_run_alt.mp hm with hm | hm
    · obtain ⟨x, hx, y, hy, rfl⟩ := mem_run_seq.mp hm
      obtain ⟨hb, rfl⟩ := mem_run_boundary.mp hx
      obtain ⟨k, hk, z, hz, rfl⟩ := mem_run_seq.mp hy
      obtain ⟨hafter, -⟩ := mem_run_boundary.mp hz
      exact ⟨hb, .inl ⟨k, hk, hafter⟩⟩
    · obtain ⟨x, hx, y, hy, rfl⟩ := mem_run_seq.mp hm
      obtain ⟨hb, rfl⟩ := mem_run_boundary.mp hx
      obtain ⟨k, hk, z, hz, rfl⟩ := mem_run_seq.mp hy
      obtain ⟨u, hu, v, hv, rfl⟩ := mem_run_seq.mp hz
      obtain ⟨-, hsplit, hspace⟩ := mem_runMany.mp hu
      obtain ⟨-, sep, hsep, -, hrest⟩ := mem_run_one.mp hv
      exact ⟨hb, .inr ⟨k, hk, u.text, sep, v.rest, hrest ▸ hsplit, hspace, hsep⟩⟩
  · rintro ⟨hb, ⟨k, hk, hafter⟩ | ⟨k, hk, ws, sep, y, hrest, hspace, hsep⟩⟩
    · exact ⟨_, mem_run_alt.mpr (.inl (mem_run_seq.mpr ⟨_, mem_run_boundary.mpr ⟨hb, rfl⟩, _,
        mem_run_seq.mpr ⟨k, hk, _, mem_run_boundary.mpr ⟨hafter, rfl⟩, rfl⟩, rfl⟩))⟩
    · have hmany : ⟨ws, [], sep :: y⟩ ∈ Regex.run isWord (.many isSpace) (wordAfter isWord b k.text) k.rest :=
        mem_runMany.mpr ⟨rfl, hrest, hspace⟩
      have hone : ⟨[sep], [], y⟩ ∈ Regex.run isWord (.one isSep)
          (wordAfter isWord (wordAfter isWord b k.text) ws) (sep :: y) :=
        mem_run_one.mpr ⟨rfl, sep, hsep, rfl, rfl⟩
      exact ⟨_, mem_run_alt.mpr (.inr (mem_run_seq.mpr ⟨_, mem_run_boundary.mpr ⟨hb, rfl⟩, _,
        mem_run_seq.mpr ⟨k, hk, _, mem_run_seq.mpr ⟨_, hmany, _, hone, rfl⟩, rfl⟩, rfl⟩))⟩

/-- A prohibited text begins with one of the words. -/
theorem Prohibited.word (h : Prohibited b s) : ∃ w rest, s = w ++ rest ∧ IsProhibitedWord w := by
  rcases (prohibited_iff.mp h).2 with ⟨k, hk, -⟩ | ⟨k, hk, -⟩
  · exact ⟨k.text, k.rest, run_split hk, (mem_run_privateKey hk).2⟩
  · exact ⟨k.text, k.rest, run_split hk, (mem_run_prohibitedName hk).2⟩

/-- **What is prohibited in the one is prohibited in the other.** -/
theorem Agrees.prohibited (h : Agrees s out) (hout : Prohibited b out) : Prohibited b s := by
  obtain ⟨hb, hwhich⟩ := prohibited_iff.mp hout
  have hsame : ∀ {w z z' : List Char}, IsProhibitedWord w → out = w ++ z → s = w ++ z' →
      wordAhead isWord s = wordAhead isWord out := by
    rintro w z z' hw rfl rfl
    obtain ⟨c, rest, rfl, -⟩ := hw.head
    rfl
  refine prohibited_iff.mpr ?_
  rcases hwhich with ⟨k, hk, hafter⟩ | ⟨k, hk, ws, sep, y, hrest, hspace, hsep⟩
  · have hword := (mem_run_privateKey hk).2
    obtain ⟨z, hs, hahead⟩ := h.text k.text k.rest (run_split hk) hword.not_isSep
    refine ⟨hsame hword (run_split hk) hs ▸ hb, .inl ⟨⟨k.text, k.groups, z⟩, ?_, ?_⟩⟩
    · rw [hs]
      exact plain_privateKey.run_anywhere hk b z
    · show wordAfter isWord b k.text ≠ wordAhead isWord z
      rw [hahead]
      exact hafter
  · have hword := (mem_run_prohibitedName hk).2
    have hsplit : out = (k.text ++ ws) ++ sep :: y := by
      rw [List.append_assoc, ← hrest]
      exact run_split hk
    obtain ⟨ws', sep', y', hs, hws', hsep', -⟩ :=
      h.assign _ _ _ hsplit (not_isSep_append hword.not_isSep hspace) hsep
    rw [List.append_assoc] at hs
    refine ⟨hsame hword (run_split hk) hs ▸ hb,
      .inr ⟨⟨k.text, k.groups, ws ++ (ws' ++ sep' :: y')⟩, ?_, ws ++ ws', sep', y', ?_, ?_, hsep'⟩⟩
    · rw [hs]
      exact plain_prohibitedName.run_anywhere hk b _
    · exact (List.append_assoc ..).symm
    · exact List.forall_mem_append.mpr ⟨hspace, hws'⟩

/-- **Redaction makes nothing prohibited.** -/
theorem Redacts.prohibited (h : Redacts b s out) (hs : Nowhere isWord Prohibited b s) :
    Nowhere isWord Prohibited b out := by
  have hname : ∀ {x : Secret} {tail : List Char}, Nowhere isWord Prohibited false (x.text ++ tail) →
      ∀ rest u n, x.name = u ++ n →
        ¬ Prohibited (wordAfter isWord false u) (n ++ '=' :: (redactedValue ++ rest)) := by
    intro x tail hs rest u n hsplit hprohibited
    have hbefore := (Agrees.redactedFrom (s := tail) x n rest).prohibited hprohibited
    refine nowhere_iff.mp hs u _ ?_ hbefore
    rw [x.text_append, hsplit, List.append_assoc]
  have hmark : ∀ rest b y, (∀ c ∈ y, isSep c = false) → y.length < 10 → ¬ Prohibited b (y ++ ']' :: rest) := by
    intro rest b y _ hlength hprohibited
    obtain ⟨w, z, hsplit, hw⟩ := hprohibited.word
    have hmem : ']' ∈ w := by
      refine mem_of_append_eq hsplit ?_
      have htwelve := hw.length
      omega
    exact hw.ne_bracket _ hmem rfl
  induction h with
  | nil => exact hs
  | keep hnone hrest ih => exact ⟨fun hc => hs.1 ((hrest.agrees.cons _).prohibited hc), ih hs.2⟩
  | last x =>
      refine nowhere_redacted x (hname hs []) (hmark []) ?_
      intro hprohibited
      obtain ⟨w, z, hsplit, hw⟩ := hprohibited.word
      obtain ⟨c, rest, rfl, -⟩ := hw.head
      cases hsplit
  | @next x d s out hd hrest ih =>
      have hafter : Nowhere isWord Prohibited (isWord d) s := hs.after.2
      rw [not_isWord_of_not_isValue hd] at hafter
      refine nowhere_redacted x (hname hs _) (hmark _) ⟨?_, ?_⟩
      · intro hprohibited
        obtain ⟨w, z, hsplit, hw⟩ := hprohibited.word
        obtain ⟨c, rest, rfl, hc⟩ := hw.head
        obtain ⟨rfl, -⟩ := List.cons.inj hsplit
        rw [hd] at hc
        cases hc
      · rw [not_isWord_of_not_isValue hd]
        exact ih hafter

end Prohibited

end WeFlow
