import Mathlib.Algebra.Group.Nat.Defs
import Mathlib.Data.List.Sort

/-!
# `JsonText` — writing a JSON value as text

A writer is what one runtime's encoder does to a character inside a string and the order in which it lists
the keys of an object; the rest of the text (no blanks, decimal integers, `null`, `true`, `false`) is the
same everywhere. Two facts compare writers: they write one text if they treat the strings of the value alike
(`ExactJson.text_congr`), and every character of a text is an escape of one of the value's or one of the
grammar (`ExactJson.forall_mem_text`), each escape being found in it (`ExactJson.escape_mem_text`).

An integer is one that both a Python `int` and a JavaScript number hold. The keys of an object need not be
distinct here; sorting is stable in both runtimes.
-/

namespace WeFlow

/-- An integer that a double holds with all its neighbours. -/
abbrev ExactInt := {n : Int // n.natAbs < 2 ^ 53}

mutual

/-- A JSON value without fractions. -/
inductive ExactJson where
  | null
  | bool (b : Bool)
  | int (n : ExactInt)
  | str (s : String)
  | arr (items : ExactItems)
  | obj (fields : ExactFields)

inductive ExactItems where
  | nil
  | cons (head : ExactJson) (tail : ExactItems)

inductive ExactFields where
  | nil
  | cons (key : String) (value : ExactJson) (rest : ExactFields)

end

/-- The object without one field. -/
def ExactFields.without (field : String) : ExactFields → ExactFields
  | .nil => .nil
  | .cons key value rest => if key = field then rest.without field else .cons key value (rest.without field)

def ExactFields.ofStrings : List (String × String) → ExactFields
  | [] => .nil
  | (key, value) :: rest => .cons key (.str value) (.ofStrings rest)

mutual

/-- The strings of a value, keys included. -/
def ExactJson.strings : ExactJson → List String
  | .str s => [s]
  | .arr items => items.strings
  | .obj fields => fields.strings
  | _ => []

def ExactItems.strings : ExactItems → List String
  | .nil => []
  | .cons head tail => head.strings ++ tail.strings

def ExactFields.strings : ExactFields → List String
  | .nil => []
  | .cons key value rest => key :: value.strings ++ rest.strings

end

/-! ## Writers -/

structure JsonWriter where
  /-- What stands for a character inside a string. -/
  escape : Char → List Char
  /-- Whether one key may stand before another. -/
  ordered : String → String → Bool

namespace JsonWriter

variable (w : JsonWriter)

def quoted (s : String) : List Char := '"' :: (s.toList.flatMap w.escape ++ ['"'])

/-- The members of an object in the order of their keys. -/
def sorted (members : List (String × List Char)) : List (String × List Char) :=
  members.insertionSort fun a b => w.ordered a.1 b.1 = true

end JsonWriter

/-- The texts between commas. -/
def commaJoined (texts : List (List Char)) : List Char := [','].intercalate texts

mutual

def ExactJson.text (w : JsonWriter) : ExactJson → List Char
  | .null => ['n', 'u', 'l', 'l']
  | .bool true => ['t', 'r', 'u', 'e']
  | .bool false => ['f', 'a', 'l', 's', 'e']
  | .int n => (toString n.1).toList
  | .str s => w.quoted s
  | .arr items => '[' :: (commaJoined (items.texts w) ++ [']'])
  | .obj fields => '{' :: (commaJoined ((w.sorted (fields.members w)).map (·.2)) ++ ['}'])

def ExactItems.texts (w : JsonWriter) : ExactItems → List (List Char)
  | .nil => []
  | .cons head tail => head.text w :: tail.texts w

/-- Each key with the text of its member. -/
def ExactFields.members (w : JsonWriter) : ExactFields → List (String × List Char)
  | .nil => []
  | .cons key value rest => (key, w.quoted key ++ ':' :: value.text w) :: rest.members w

end

/-! ## Two writers that treat the strings alike -/

section Congruence

variable {w w' : JsonWriter}

theorem JsonWriter.quoted_congr {s : String} (h : ∀ c ∈ s.toList, w.escape c = w'.escape c) :
    w.quoted s = w'.quoted s := by
  have hflat : s.toList.flatMap w.escape = s.toList.flatMap w'.escape := List.flatMap_congr h
  rw [JsonWriter.quoted, JsonWriter.quoted, hflat]

/-- Sorting looks at no pair but those of the list. -/
theorem JsonWriter.sorted_congr {members : List (String × List Char)}
    (h : ∀ a ∈ members, ∀ b ∈ members, w.ordered a.1 b.1 = w'.ordered a.1 b.1) :
    w.sorted members = w'.sorted members := by
  have hmap := List.map_insertionSort (r := fun a b => w.ordered a.1 b.1 = true)
    (s := fun a b => w'.ordered a.1 b.1 = true) id members fun a ha b hb => by rw [h a ha b hb, id, id]
  rw [List.map_id, List.map_id] at hmap
  exact hmap

theorem ExactFields.key_mem_strings {member : String × List Char} :
    ∀ {fields : ExactFields}, member ∈ fields.members w → member.1 ∈ fields.strings
  | .cons key value rest, h => by
      rw [ExactFields.strings]
      rcases List.mem_cons.mp h with rfl | hrest
      · exact List.mem_cons_self
      · exact List.mem_cons_of_mem _ (List.mem_append_right _ (key_mem_strings hrest))

variable (w w') in
/-- Two writers treat some strings alike. -/
def JsonWriter.AlikeOn (strings : List String) : Prop :=
  (∀ s ∈ strings, ∀ c ∈ s.toList, w.escape c = w'.escape c) ∧
    ∀ s ∈ strings, ∀ t ∈ strings, w.ordered s t = w'.ordered s t

theorem JsonWriter.AlikeOn.mono {strings strings' : List String} (h : w.AlikeOn w' strings)
    (hsub : ∀ s ∈ strings', s ∈ strings) : w.AlikeOn w' strings' :=
  ⟨fun s hs => h.1 s (hsub s hs), fun s hs t ht => h.2 s (hsub s hs) t (hsub t ht)⟩

mutual

/-- **Writers that treat the strings of a value alike write one text.** -/
theorem ExactJson.text_congr : ∀ (v : ExactJson), w.AlikeOn w' v.strings → v.text w = v.text w'
  | .null, _ | .bool true, _ | .bool false, _ | .int _, _ => rfl
  | .str s, h => JsonWriter.quoted_congr (h.1 s List.mem_cons_self)
  | .arr items, h => by
      rw [ExactJson.text, ExactJson.text, ExactItems.texts_congr items h]
  | .obj fields, h => by
      rw [ExactJson.text, ExactJson.text, ExactFields.members_congr fields h]
      have hsorted : w.sorted (fields.members w') = w'.sorted (fields.members w') :=
        JsonWriter.sorted_congr fun a ha b hb =>
          h.2 a.1 (ExactFields.key_mem_strings ha) b.1 (ExactFields.key_mem_strings hb)
      rw [hsorted]

theorem ExactItems.texts_congr : ∀ (items : ExactItems), w.AlikeOn w' items.strings →
    items.texts w = items.texts w'
  | .nil, _ => rfl
  | .cons head tail, h => by
      have hhead := h.mono fun s hs => List.mem_append_left tail.strings hs
      have htail := h.mono fun s hs => List.mem_append_right head.strings hs
      rw [ExactItems.texts, ExactItems.texts, ExactJson.text_congr head hhead,
        ExactItems.texts_congr tail htail]

theorem ExactFields.members_congr : ∀ (fields : ExactFields), w.AlikeOn w' fields.strings →
    fields.members w = fields.members w'
  | .nil, _ => rfl
  | .cons key value rest, h => by
      have hvalue := h.mono fun s hs =>
        List.mem_cons_of_mem key (List.mem_append_left rest.strings hs)
      have hrest := h.mono fun s hs =>
        List.mem_cons_of_mem key (List.mem_append_right value.strings hs)
      rw [ExactFields.members, ExactFields.members, JsonWriter.quoted_congr (h.1 key List.mem_cons_self),
        ExactJson.text_congr value hvalue, ExactFields.members_congr rest hrest]

end

end Congruence

/-- Members whose keys ascend are sorted. -/
theorem JsonWriter.sorted_of_ascending {w : JsonWriter} {members : List (String × List Char)}
    (h : (members.map (·.1)).Pairwise fun a b => w.ordered a b = true) : w.sorted members = members :=
  (List.pairwise_map.mp h).insertionSort_eq

/-- Members whose keys descend are sorted by turning them round. -/
theorem JsonWriter.sorted_of_descending {w : JsonWriter} {members : List (String × List Char)}
    (h : (members.map (·.1)).Pairwise fun a b => w.ordered a b = false) :
    w.sorted members = members.reverse := by
  rw [List.pairwise_map] at h
  induction members with
  | nil => rfl
  | cons member members ih =>
      rw [List.pairwise_cons] at h
      have hlast : ∀ (a : String × List Char) (l : List (String × List Char)),
          (∀ b ∈ l, w.ordered a.1 b.1 = false) →
            l.orderedInsert (fun a b => w.ordered a.1 b.1 = true) a = l ++ [a] := by
        intro a l hl
        induction l with
        | nil => rfl
        | cons b l ihl =>
            have hb : ¬ w.ordered a.1 b.1 = true := by rw [hl b List.mem_cons_self]; decide
            rw [List.orderedInsert_cons, if_neg hb, ihl fun c hc => hl c (List.mem_cons_of_mem _ hc)]
            rfl
      have hsorted : w.sorted (member :: members) =
          (w.sorted members).orderedInsert (fun a b => w.ordered a.1 b.1 = true) member := rfl
      rw [hsorted, ih h.2, hlast member members.reverse fun b hb => h.1 b (List.mem_reverse.mp hb),
        List.reverse_cons]

/-! ## The characters of a text -/

/-- The characters of the grammar outside strings. -/
def isJsonGrammar (c : Char) : Bool := c.isDigit || "\"[]\x7b\x7d,:-aeflnrstu".toList.contains c

theorem mem_commaJoined {texts : List (List Char)} {c : Char} :
    c ∈ commaJoined texts → c = ',' ∨ ∃ text ∈ texts, c ∈ text := by
  induction texts with
  | nil => intro h; exact absurd h List.not_mem_nil
  | cons text texts ih =>
      intro h
      cases texts with
      | nil =>
          rw [commaJoined, List.intercalate_singleton] at h
          exact .inr ⟨text, List.mem_cons_self, h⟩
      | cons text' texts =>
          rw [commaJoined, List.intercalate_cons_cons, List.append_assoc] at h
          rcases List.mem_append.mp h with hhead | hrest
          · exact .inr ⟨text, List.mem_cons_self, hhead⟩
          · rcases List.mem_append.mp hrest with hcomma | htail
            · exact .inl (List.mem_singleton.mp hcomma)
            · rcases ih htail with heq | ⟨t, ht, hc⟩
              · exact .inl heq
              · exact .inr ⟨t, List.mem_cons_of_mem _ ht, hc⟩

theorem mem_commaJoined_of_mem {texts : List (List Char)} {text : List Char} {c : Char} (ht : text ∈ texts)
    (hc : c ∈ text) : c ∈ commaJoined texts := by
  induction texts with
  | nil => exact absurd ht List.not_mem_nil
  | cons head texts ih =>
      cases texts with
      | nil =>
          rw [commaJoined, List.intercalate_singleton, ← List.mem_singleton.mp ht]
          exact hc
      | cons next texts =>
          rw [commaJoined, List.intercalate_cons_cons]
          rcases List.mem_cons.mp ht with rfl | hrest
          · exact List.mem_append_left _ (List.mem_append_left _ hc)
          · exact List.mem_append_right _ (ih hrest)

/-- The decimal text of an integer is made of digits and a sign. -/
theorem isJsonGrammar_of_mem_decimal {n : Int} {c : Char} (h : c ∈ (toString n).toList) :
    isJsonGrammar c = true := by
  have hdigits : ∀ {m : Nat}, c ∈ (Nat.repr m).toList → isJsonGrammar c = true := by
    intro m hm
    rw [Nat.toList_repr] at hm
    rw [isJsonGrammar, Nat.isDigit_of_mem_toDigits (by decide) (by decide) hm, Bool.true_or]
  cases n with
  | ofNat m => exact hdigits h
  | negSucc m =>
      have h' : c ∈ ("-" ++ Nat.repr (m + 1)).toList := h
      rw [String.toList_append] at h'
      rcases List.mem_append.mp h' with hsign | hrest
      · rw [List.mem_singleton.mp hsign]
        decide
      · exact hdigits hrest

section Characters

variable {w : JsonWriter} {p : Char → Prop}

theorem JsonWriter.forall_mem_quoted (hgrammar : ∀ c, isJsonGrammar c = true → p c) {s : String}
    (hescape : ∀ c ∈ s.toList, ∀ x ∈ w.escape c, p x) : ∀ x ∈ w.quoted s, p x := by
  intro x hx
  rcases List.mem_cons.mp hx with rfl | hx
  · exact hgrammar _ (by decide)
  · rcases List.mem_append.mp hx with hflat | hquote
    · obtain ⟨c, hc, hxc⟩ := List.mem_flatMap.mp hflat
      exact hescape c hc x hxc
    · rw [List.mem_singleton.mp hquote]
      exact hgrammar _ (by decide)

/-- The texts between commas, in brackets. -/
theorem forall_mem_bracketed (hgrammar : ∀ c, isJsonGrammar c = true → p c) {left right : Char}
    (hleft : isJsonGrammar left = true) (hright : isJsonGrammar right = true) {texts : List (List Char)}
    (htexts : ∀ text ∈ texts, ∀ x ∈ text, p x) : ∀ x ∈ left :: (commaJoined texts ++ [right]), p x := by
  intro x hx
  rcases List.mem_cons.mp hx with rfl | hx
  · exact hgrammar _ hleft
  · rcases List.mem_append.mp hx with hjoined | hright'
    · rcases mem_commaJoined hjoined with rfl | ⟨text, htext, hxt⟩
      · exact hgrammar _ (by decide)
      · exact htexts text htext x hxt
    · rw [List.mem_singleton.mp hright']
      exact hgrammar _ hright

theorem forall_mem_word (hgrammar : ∀ c, isJsonGrammar c = true → p c) {word : List Char}
    (hword : word.all isJsonGrammar = true) : ∀ x ∈ word, p x := fun x hx =>
  hgrammar x (List.all_eq_true.mp hword x hx)

mutual

/-- **What holds of the grammar's characters and of every escape holds of a whole text.** -/
theorem ExactJson.forall_mem_text (hgrammar : ∀ c, isJsonGrammar c = true → p c)
    (hescape : ∀ c, ∀ x ∈ w.escape c, p x) : ∀ v : ExactJson, ∀ x ∈ v.text w, p x
  | .null => forall_mem_word hgrammar rfl
  | .bool true => forall_mem_word hgrammar rfl
  | .bool false => forall_mem_word hgrammar rfl
  | .int _ => fun x hx => hgrammar x (isJsonGrammar_of_mem_decimal hx)
  | .str s => JsonWriter.forall_mem_quoted hgrammar fun c _ => hescape c
  | .arr items => forall_mem_bracketed hgrammar (by decide) (by decide)
      (ExactItems.forall_mem_texts hgrammar hescape items)
  | .obj fields => by
      refine forall_mem_bracketed hgrammar (by decide) (by decide) fun text htext => ?_
      obtain ⟨member, hmember, rfl⟩ := List.mem_map.mp htext
      rw [JsonWriter.sorted, List.mem_insertionSort] at hmember
      exact ExactFields.forall_mem_members hgrammar hescape fields member hmember

theorem ExactItems.forall_mem_texts (hgrammar : ∀ c, isJsonGrammar c = true → p c)
    (hescape : ∀ c, ∀ x ∈ w.escape c, p x) : ∀ items : ExactItems, ∀ text ∈ items.texts w, ∀ x ∈ text, p x
  | .nil => fun text htext => absurd htext List.not_mem_nil
  | .cons head tail => by
      intro text htext
      rcases List.mem_cons.mp htext with rfl | htail
      · exact ExactJson.forall_mem_text hgrammar hescape head
      · exact ExactItems.forall_mem_texts hgrammar hescape tail text htail

theorem ExactFields.forall_mem_members (hgrammar : ∀ c, isJsonGrammar c = true → p c)
    (hescape : ∀ c, ∀ x ∈ w.escape c, p x) :
    ∀ fields : ExactFields, ∀ member ∈ fields.members w, ∀ x ∈ member.2, p x
  | .nil => fun member hmember => absurd hmember List.not_mem_nil
  | .cons key value rest => by
      intro member hmember
      rcases List.mem_cons.mp hmember with rfl | hrest
      · intro x hx
        rcases List.mem_append.mp hx with hkey | hx
        · exact JsonWriter.forall_mem_quoted hgrammar (fun c _ => hescape c) x hkey
        · rcases List.mem_cons.mp hx with rfl | hvalue
          · exact hgrammar _ (by decide)
          · exact ExactJson.forall_mem_text hgrammar hescape value x hvalue
      · exact ExactFields.forall_mem_members hgrammar hescape rest member hrest

end

theorem JsonWriter.escape_mem_quoted {s : String} {c x : Char} (hc : c ∈ s.toList) (hx : x ∈ w.escape c) :
    x ∈ w.quoted s :=
  List.mem_cons_of_mem _ (List.mem_append_left _ (List.mem_flatMap.mpr ⟨c, hc, hx⟩))

/-- A character between the brackets is one of a text between the commas. -/
theorem mem_bracketed {left right : Char} {texts : List (List Char)} {text : List Char} {x : Char}
    (htext : text ∈ texts) (hx : x ∈ text) : x ∈ left :: (commaJoined texts ++ [right]) :=
  List.mem_cons_of_mem _ (List.mem_append_left _ (mem_commaJoined_of_mem htext hx))

mutual

/-- **Every escape of a string of a value is found in its text.** -/
theorem ExactJson.escape_mem_text {s : String} {c x : Char} (hc : c ∈ s.toList) (hx : x ∈ w.escape c) :
    ∀ v : ExactJson, s ∈ v.strings → x ∈ v.text w
  | .str t, hs => by
      rw [List.mem_singleton.mp hs] at hc
      exact JsonWriter.escape_mem_quoted hc hx
  | .arr items, hs => by
      obtain ⟨text, htext, hmem⟩ := ExactItems.escape_mem_texts hc hx items hs
      exact mem_bracketed htext hmem
  | .obj fields, hs => by
      obtain ⟨member, hmember, hmem⟩ := ExactFields.escape_mem_members hc hx fields hs
      have hsorted : member ∈ w.sorted (fields.members w) := (List.mem_insertionSort _).mpr hmember
      exact mem_bracketed (List.mem_map.mpr ⟨member, hsorted, rfl⟩) hmem
  | .null, hs | .bool _, hs | .int _, hs => absurd hs List.not_mem_nil

theorem ExactItems.escape_mem_texts {s : String} {c x : Char} (hc : c ∈ s.toList) (hx : x ∈ w.escape c) :
    ∀ items : ExactItems, s ∈ items.strings → ∃ text ∈ items.texts w, x ∈ text
  | .cons head tail, hs => by
      rcases List.mem_append.mp hs with hhead | htail
      · exact ⟨head.text w, List.mem_cons_self, ExactJson.escape_mem_text hc hx head hhead⟩
      · obtain ⟨text, htext, hmem⟩ := ExactItems.escape_mem_texts hc hx tail htail
        exact ⟨text, List.mem_cons_of_mem _ htext, hmem⟩

theorem ExactFields.escape_mem_members {s : String} {c x : Char} (hc : c ∈ s.toList) (hx : x ∈ w.escape c) :
    ∀ fields : ExactFields, s ∈ fields.strings → ∃ member ∈ fields.members w, x ∈ member.2
  | .cons key value rest, hs => by
      have hfirst : ∀ y, y ∈ w.quoted key ∨ y ∈ value.text w →
          y ∈ w.quoted key ++ ':' :: value.text w := fun y hy =>
        List.mem_append.mpr (hy.imp id (List.mem_cons_of_mem _))
      rcases List.mem_cons.mp hs with rfl | hs
      · exact ⟨_, List.mem_cons_self, hfirst x (.inl (JsonWriter.escape_mem_quoted hc hx))⟩
      · rcases List.mem_append.mp hs with hvalue | hrest
        · exact ⟨_, List.mem_cons_self, hfirst x (.inr (ExactJson.escape_mem_text hc hx value hvalue))⟩
        · obtain ⟨member, hmember, hmem⟩ := ExactFields.escape_mem_members hc hx rest hrest
          exact ⟨member, List.mem_cons_of_mem _ hmember, hmem⟩

end

end Characters

end WeFlow
