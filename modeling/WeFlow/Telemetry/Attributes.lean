import WeFlow.Base.Json
import WeFlow.Telemetry.Text

/-!
# `Attributes` — the redaction of diagnostic attributes

`redact_mapping` goes through mappings and lists. It masks the values under the keys of secrets and of private
content, and redacts the texts; but of a list it only looks at the mappings and the texts that are directly in it,
so that a list in a list is left as it is.

## Contents

* `isMasked`, `redactMapping` — the keys, and the redaction.
* `entries`, `leaves`, `blank` — what the result must be free of, and the inputs that must not be told apart.
* `Redaction`, `rawLists`, `redaction_complete_iff` — redaction is complete exactly if the lists it leaves as they are
  are clean.
-/

namespace WeFlow.Telemetry

/-! ## The redaction -/

/-- `_SENSITIVE_KEY`. -/
def sensitiveKey : Regex Char := .group secretKey

/-- `tool[_-]?output`. -/
def toolOutput : Regex Char :=
  .seq (folded "tool") (.seq (.opt (.one fun c => c = '_' || c = '-')) (folded "output"))

/-- `_PRIVATE_CONTENT_KEY`. -/
def privateContentKey : Regex Char :=
  .group (.alt (folded "customer") (.alt (folded "payload") (.alt toolOutput (.alt (folded "message")
    (.alt (folded "body") (.alt (folded "error") (.alt (folded "exception") (folded "traceback"))))))))

section Redaction

variable (word : Char → Bool)

/-- Whether the value under a key is masked. -/
def isMasked (key : String) : Bool :=
  Regex.search word sensitiveKey false key.toList || Regex.search word privateContentKey false key.toList

/-- `"[REDACTED]"`. -/
def masked : Json := .str "[REDACTED]"

mutual

/-- **`redact_mapping`.** -/
def redactMapping : JsonFields → JsonFields
  | .nil => .nil
  | .cons key item rest => .cons key (if isMasked word key then masked else redactItem item) (redactMapping rest)

/-- An item of a mapping. -/
def redactItem : Json → Json
  | .obj fields => .obj (redactMapping fields)
  | .arr items => .arr (redactEntries items)
  | .str s => .str (redactText word s)
  | item => item

/-- The list comprehension: a list among the entries is neither a mapping nor a text. -/
def redactEntries : JsonItems → JsonItems
  | .nil => .nil
  | .cons (.obj fields) rest => .cons (.obj (redactMapping fields)) (redactEntries rest)
  | .cons (.str s) rest => .cons (.str (redactText word s)) (redactEntries rest)
  | .cons entry rest => .cons entry (redactEntries rest)

end

end Redaction

/-! ## What a value contains -/

mutual

/-- The keys with their values, at every depth. -/
def entriesOf : JsonFields → List (String × Json)
  | .nil => []
  | .cons key value rest => (key, value) :: (entries value ++ entriesOf rest)

def entries : Json → List (String × Json)
  | .obj fields => entriesOf fields
  | .arr items => entriesIn items
  | _ => []

def entriesIn : JsonItems → List (String × Json)
  | .nil => []
  | .cons head tail => entries head ++ entriesIn tail

end

mutual

/-- The texts among the values, at every depth. -/
def leavesOf : JsonFields → List String
  | .nil => []
  | .cons _ value rest => leaves value ++ leavesOf rest

def leaves : Json → List String
  | .obj fields => leavesOf fields
  | .arr items => leavesIn items
  | .str s => [s]
  | _ => []

def leavesIn : JsonItems → List String
  | .nil => []
  | .cons head tail => leaves head ++ leavesIn tail

end

section Blank

variable (word : Char → Bool) (w : Json)

mutual

/-- Another value under every masked key, at every depth. -/
def blankOf : JsonFields → JsonFields
  | .nil => .nil
  | .cons key value rest => .cons key (if isMasked word key then w else blank value) (blankOf rest)

def blank : Json → Json
  | .obj fields => .obj (blankOf fields)
  | .arr items => .arr (blankIn items)
  | value => value

def blankIn : JsonItems → JsonItems
  | .nil => .nil
  | .cons head tail => .cons (blank head) (blankIn tail)

end

end Blank

section Complete

variable (word : Char → Bool)

/-- Two mappings differ at most in the values under masked keys. -/
def DifferUnderMasked (u v : JsonFields) : Prop := blankOf word .null u = blankOf word .null v

/-- What complete redaction of a mapping means. -/
structure Complete (u : JsonFields) : Prop where
  masks : ∀ entry ∈ entriesOf (redactMapping word u), isMasked word entry.1 = true → entry.2 = masked
  cleans : ∀ s ∈ leavesOf (redactMapping word u), CleanText word s
  hides : ∀ v, DifferUnderMasked word u v → redactMapping word u = redactMapping word v
  settles : redactMapping word (redactMapping word u) = redactMapping word u

mutual

/-- The lists that are left as they are: those directly in a list, outside the masked values. -/
def rawOf : JsonFields → List JsonItems
  | .nil => []
  | .cons key value rest => (if isMasked word key then [] else raw value) ++ rawOf rest

def raw : Json → List JsonItems
  | .obj fields => rawOf fields
  | .arr items => rawIn items
  | _ => []

def rawIn : JsonItems → List JsonItems
  | .nil => []
  | .cons (.obj fields) rest => rawOf fields ++ rawIn rest
  | .cons (.arr items) rest => items :: rawIn rest
  | .cons _ rest => rawIn rest

end

/-- A list has no masked key and only clean texts, at every depth. -/
structure CleanList (items : JsonItems) : Prop where
  keys : ∀ entry ∈ entriesIn items, isMasked word entry.1 = false
  texts : ∀ s ∈ leavesIn items, CleanText word s

end Complete

/-! ## The result -/

section Result

variable {word : Char → Bool}

/-- A text without `:` and `=` is clean. -/
theorem clean_of_plain {s : String} (h : ∀ c ∈ s.toList, isSep c = false) : CleanText word s where
  connections := by
    rw [not_connects_iff, nowhere_iff]
    rintro x y hsplit ⟨l, scheme, v, rest, rfl, -⟩
    have hcolon := h ':' (hsplit ▸ by simp)
    cases hcolon
  assignments before x rest hsplit _ := by
    have hmem : x.sep ∈ s.toList := by
      rw [hsplit, x.text_append]
      simp
    have hsep := x.isSep
    rw [h _ hmem] at hsep
    cases hsep

theorem masked_clean : CleanText word "[REDACTED]" := by
  apply clean_of_plain
  exact List.all_iff_forall_prop.mp (by decide)

/-- What is asked of entries and texts of a result. -/
def Kept (word : Char → Bool) (found : List (String × Json)) (texts : List String) : Prop :=
  (∀ entry ∈ found, isMasked word entry.1 = true → entry.2 = masked) ∧ ∀ s ∈ texts, CleanText word s

theorem kept_append {found found' : List (String × Json)} {texts texts' : List String} (h : Kept word found texts)
    (h' : Kept word found' texts') : Kept word (found ++ found') (texts ++ texts') :=
  ⟨List.forall_mem_append.mpr ⟨h.1, h'.1⟩, List.forall_mem_append.mpr ⟨h.2, h'.2⟩⟩

theorem kept_nil : Kept word [] [] :=
  ⟨fun _ h => absurd h List.not_mem_nil, fun _ h => absurd h List.not_mem_nil⟩

theorem kept_text (s : String) : Kept word [] [redactText word s] := by
  refine ⟨fun _ h => absurd h List.not_mem_nil, fun t ht => ?_⟩
  obtain rfl := List.mem_singleton.mp ht
  exact redactText_clean s

mutual

/-- The result of a mapping whose raw lists are clean. -/
theorem kept_mapping : ∀ u : JsonFields, (∀ l ∈ rawOf word u, CleanList word l) →
    Kept word (entriesOf (redactMapping word u)) (leavesOf (redactMapping word u))
  | .nil, _ => kept_nil
  | .cons key item rest, h => by
    have hrest := kept_mapping rest fun l hl => h l (List.mem_append_right _ hl)
    by_cases hkey : isMasked word key = true
    · have hhead : Kept word [(key, masked)] ["[REDACTED]"] := by
        refine ⟨fun entry hentry _ => ?_, fun s hs => ?_⟩
        · rw [List.mem_singleton.mp hentry]
        · rw [List.mem_singleton.mp hs]
          exact masked_clean
      have hboth := kept_append hhead hrest
      rw [redactMapping, if_pos hkey]
      exact hboth
    · have hitem : Kept word (entries (redactItem word item)) (leaves (redactItem word item)) := by
        apply kept_item
        intro l hl
        apply h l
        rw [rawOf, if_neg hkey]
        exact List.mem_append_left _ hl
      have hhead : Kept word ((key, redactItem word item) :: entries (redactItem word item))
          (leaves (redactItem word item)) :=
        ⟨List.forall_mem_cons.mpr ⟨fun hmasked => absurd hmasked hkey, hitem.1⟩, hitem.2⟩
      have hboth := kept_append hhead hrest
      rw [redactMapping, if_neg hkey]
      exact hboth

theorem kept_item : ∀ v : Json, (∀ l ∈ raw word v, CleanList word l) →
    Kept word (entries (redactItem word v)) (leaves (redactItem word v))
  | .obj fields, h => kept_mapping fields h
  | .arr items, h => kept_entries items h
  | .str s, _ => kept_text s
  | .null, _ | .bool _, _ | .int _, _ | .float _, _ => kept_nil

theorem kept_entries : ∀ items : JsonItems, (∀ l ∈ rawIn word items, CleanList word l) →
    Kept word (entriesIn (redactEntries word items)) (leavesIn (redactEntries word items))
  | .nil, _ => kept_nil
  | .cons (.obj fields) rest, h =>
    kept_append (kept_mapping fields fun l hl => h l (List.mem_append_left _ hl))
      (kept_entries rest fun l hl => h l (List.mem_append_right _ hl))
  | .cons (.arr _) rest, h => by
    have hraw := h _ List.mem_cons_self
    refine kept_append ⟨fun entry hentry hmasked => ?_, hraw.texts⟩
      (kept_entries rest fun l hl => h l (List.mem_cons_of_mem _ hl))
    rw [hraw.keys entry hentry] at hmasked
    cases hmasked
  | .cons (.str s) rest, h => kept_append (kept_text s) (kept_entries rest h)
  | .cons .null rest, h | .cons (.bool _) rest, h | .cons (.int _) rest, h | .cons (.float _) rest, h =>
    kept_entries rest h

end

mutual

/-- **The result is its own result.** -/
theorem redactMapping_redactMapping : ∀ u : JsonFields,
    redactMapping word (redactMapping word u) = redactMapping word u
  | .nil => rfl
  | .cons key item rest => by
    have hrest := redactMapping_redactMapping rest
    by_cases hkey : isMasked word key = true
    · simp only [redactMapping, if_pos hkey, hrest]
    · simp only [redactMapping, if_neg hkey, hrest, redactItem_redactItem item]

theorem redactItem_redactItem : ∀ v : Json, redactItem word (redactItem word v) = redactItem word v
  | .obj fields => by simp only [redactItem, redactMapping_redactMapping fields]
  | .arr items => by simp only [redactItem, redactEntries_redactEntries items]
  | .str s => by simp only [redactItem, redactText_redactText s]
  | .null | .bool _ | .int _ | .float _ => rfl

theorem redactEntries_redactEntries : ∀ items : JsonItems,
    redactEntries word (redactEntries word items) = redactEntries word items
  | .nil => rfl
  | .cons (.obj fields) rest => by
    simp only [redactEntries, redactMapping_redactMapping fields, redactEntries_redactEntries rest]
  | .cons (.str s) rest => by simp only [redactEntries, redactText_redactText s, redactEntries_redactEntries rest]
  | .cons (.arr _) rest | .cons .null rest | .cons (.bool _) rest | .cons (.int _) rest | .cons (.float _) rest => by
    simp only [redactEntries, redactEntries_redactEntries rest]

end

/-! ## What is not told apart -/

mutual

/-- Where no key is masked, there is nothing to blank. -/
theorem blankOf_eq {w : Json} : ∀ u : JsonFields, (∀ entry ∈ entriesOf u, isMasked word entry.1 = false) →
    blankOf word w u = u
  | .nil, _ => rfl
  | .cons key value rest, h => by
    obtain ⟨hkey, hlater⟩ := List.forall_mem_cons.mp h
    obtain ⟨hvalue, hrest⟩ := List.forall_mem_append.mp hlater
    rw [blankOf, if_neg (Bool.eq_false_iff.mp hkey), blank_eq value hvalue, blankOf_eq rest hrest]

theorem blank_eq {w : Json} : ∀ v : Json, (∀ entry ∈ entries v, isMasked word entry.1 = false) →
    blank word w v = v
  | .obj fields, h => congrArg Json.obj (blankOf_eq fields h)
  | .arr items, h => congrArg Json.arr (blankIn_eq items h)
  | .str _, _ | .null, _ | .bool _, _ | .int _, _ | .float _, _ => rfl

theorem blankIn_eq {w : Json} : ∀ items : JsonItems, (∀ entry ∈ entriesIn items, isMasked word entry.1 = false) →
    blankIn word w items = items
  | .nil, _ => rfl
  | .cons head tail, h => by
    obtain ⟨hhead, htail⟩ := List.forall_mem_append.mp h
    rw [blankIn, blank_eq head hhead, blankIn_eq tail htail]

end

mutual

/-- A masked key is still there when the values are blanked. -/
theorem keys_blankOf {w : Json} : ∀ u : JsonFields,
    (∀ entry ∈ entriesOf (blankOf word w u), isMasked word entry.1 = false) →
      ∀ entry ∈ entriesOf u, isMasked word entry.1 = false
  | .nil, h => h
  | .cons key value rest, h => by
    obtain ⟨hkey, hlater⟩ := List.forall_mem_cons.mp h
    have hkey' : isMasked word key = false := hkey
    rw [if_neg (Bool.eq_false_iff.mp hkey')] at hlater
    obtain ⟨hvalue, hrest⟩ := List.forall_mem_append.mp hlater
    exact List.forall_mem_cons.mpr
      ⟨hkey', List.forall_mem_append.mpr ⟨keys_blank value hvalue, keys_blankOf rest hrest⟩⟩

theorem keys_blank {w : Json} : ∀ v : Json,
    (∀ entry ∈ entries (blank word w v), isMasked word entry.1 = false) →
      ∀ entry ∈ entries v, isMasked word entry.1 = false
  | .obj fields, h => keys_blankOf fields h
  | .arr items, h => keys_blankIn items h
  | .str _, h | .null, h | .bool _, h | .int _, h | .float _, h => h

theorem keys_blankIn {w : Json} : ∀ items : JsonItems,
    (∀ entry ∈ entriesIn (blankIn word w items), isMasked word entry.1 = false) →
      ∀ entry ∈ entriesIn items, isMasked word entry.1 = false
  | .nil, h => h
  | .cons head tail, h => by
    obtain ⟨hhead, htail⟩ := List.forall_mem_append.mp h
    exact List.forall_mem_append.mpr ⟨keys_blank head hhead, keys_blankIn tail htail⟩

end

/-- No list that is left as it is has a masked key. -/
def NoRawKeys (word : Char → Bool) (lists : List JsonItems) : Prop :=
  ∀ l ∈ lists, ∀ entry ∈ entriesIn l, isMasked word entry.1 = false

mutual

/-- **Mappings that differ under masked keys only** have one result, where no raw list has a masked key. -/
theorem redactMapping_alike : ∀ u v : JsonFields, blankOf word .null u = blankOf word .null v →
    NoRawKeys word (rawOf word u) → redactMapping word u = redactMapping word v
  | .nil, .nil, _, _ => rfl
  | .nil, .cons _ _ _, h, _ => nomatch h
  | .cons _ _ _, .nil, h, _ => nomatch h
  | .cons key value rest, .cons key' value' rest', h, hraw => by
    simp only [blankOf, JsonFields.cons.injEq] at h
    obtain ⟨rfl, hvalue, hrest⟩ := h
    have htail := redactMapping_alike rest rest' hrest fun l hl => hraw l (List.mem_append_right _ hl)
    by_cases hkey : isMasked word key = true
    · rw [redactMapping, redactMapping, if_pos hkey, if_pos hkey, htail]
    · rw [if_neg hkey, if_neg hkey] at hvalue
      have hitem := redactItem_alike value value' hvalue fun l hl => hraw l (by
        rw [rawOf, if_neg hkey]
        exact List.mem_append_left _ hl)
      rw [redactMapping, redactMapping, if_neg hkey, if_neg hkey, htail, hitem]

theorem redactItem_alike : ∀ u v : Json, blank word .null u = blank word .null v → NoRawKeys word (raw word u) →
    redactItem word u = redactItem word v
  | .obj fields, .obj fields', h, hraw =>
    congrArg Json.obj (redactMapping_alike fields fields' (Json.obj.inj h) hraw)
  | .arr items, .arr items', h, hraw => congrArg Json.arr (redactEntries_alike items items' (Json.arr.inj h) hraw)
  | .str _, v, h, _ | .null, v, h, _ | .bool _, v, h, _ | .int _, v, h, _ | .float _, v, h, _ => by
    cases v <;> cases h
    rfl
  | .obj _, .str _, h, _ | .obj _, .null, h, _ | .obj _, .bool _, h, _ | .obj _, .int _, h, _
  | .obj _, .float _, h, _ | .obj _, .arr _, h, _ => nomatch h
  | .arr _, .str _, h, _ | .arr _, .null, h, _ | .arr _, .bool _, h, _ | .arr _, .int _, h, _
  | .arr _, .float _, h, _ | .arr _, .obj _, h, _ => nomatch h

theorem redactEntries_alike : ∀ u v : JsonItems, blankIn word .null u = blankIn word .null v →
    NoRawKeys word (rawIn word u) → redactEntries word u = redactEntries word v
  | .nil, .nil, _, _ => rfl
  | .nil, .cons _ _, h, _ => nomatch h
  | .cons _ _, .nil, h, _ => nomatch h
  | .cons (.obj fields) rest, .cons head' rest', h, hraw => by
    obtain ⟨hhead, hrest⟩ := JsonItems.cons.inj h
    have htail := redactEntries_alike rest rest' hrest fun l hl => hraw l (List.mem_append_right _ hl)
    cases head' with
    | obj fields' =>
      have hfields := redactMapping_alike fields fields' (Json.obj.inj hhead) fun l hl =>
        hraw l (List.mem_append_left _ hl)
      rw [redactEntries, redactEntries, hfields, htail]
    | _ => cases hhead
  | .cons (.arr items) rest, .cons head' rest', h, hraw => by
    obtain ⟨hhead, hrest⟩ := JsonItems.cons.inj h
    have htail := redactEntries_alike rest rest' hrest fun l hl => hraw l (List.mem_cons_of_mem _ hl)
    cases head' with
    | arr items' =>
      -- the raw list has no masked key, so the other one has none either, and they are one
      have hnone := hraw items List.mem_cons_self
      have hblank := blankIn_eq (w := .null) items hnone
      have hsame := Json.arr.inj hhead
      rw [hblank] at hsame
      have hnone' := keys_blankIn (w := .null) items' (hsame ▸ hnone)
      rw [blankIn_eq items' hnone'] at hsame
      rw [hsame]
      simp only [redactEntries, htail]
    | _ => cases hhead
  | .cons (.str s) rest, .cons head' rest', h, hraw => by
    obtain ⟨hhead, hrest⟩ := JsonItems.cons.inj h
    have htail := redactEntries_alike rest rest' hrest hraw
    cases head' <;> cases hhead
    simp only [redactEntries, htail]
  | .cons .null rest, .cons head' rest', h, hraw | .cons (.bool _) rest, .cons head' rest', h, hraw
  | .cons (.int _) rest, .cons head' rest', h, hraw | .cons (.float _) rest, .cons head' rest', h, hraw => by
    obtain ⟨hhead, hrest⟩ := JsonItems.cons.inj h
    have htail := redactEntries_alike rest rest' hrest hraw
    cases head' <;> cases hhead
    simp only [redactEntries, htail]

end

/-! ## What complete redaction needs -/

mutual

/-- The texts of a raw list are texts of the result. -/
theorem leaves_rawOf : ∀ (u : JsonFields) (l : JsonItems), l ∈ rawOf word u →
    ∀ s ∈ leavesIn l, s ∈ leavesOf (redactMapping word u)
  | .nil, _, hl, _, _ => absurd hl List.not_mem_nil
  | .cons key item rest, l, hl, s, hs => by
    rw [redactMapping, leavesOf, List.mem_append]
    rcases List.mem_append.mp hl with hitem | hrest
    · by_cases hkey : isMasked word key = true
      · rw [if_pos hkey] at hitem
        exact absurd hitem List.not_mem_nil
      · rw [if_neg hkey] at hitem ⊢
        exact .inl (leaves_raw item l hitem s hs)
    · exact .inr (leaves_rawOf rest l hrest s hs)

theorem leaves_raw : ∀ (v : Json) (l : JsonItems), l ∈ raw word v →
    ∀ s ∈ leavesIn l, s ∈ leaves (redactItem word v)
  | .obj fields, l, hl, s, hs => leaves_rawOf fields l hl s hs
  | .arr items, l, hl, s, hs => leaves_rawIn items l hl s hs
  | .str _, _, hl, _, _ | .null, _, hl, _, _ | .bool _, _, hl, _, _ | .int _, _, hl, _, _ | .float _, _, hl, _, _ =>
    absurd hl List.not_mem_nil

theorem leaves_rawIn : ∀ (items : JsonItems) (l : JsonItems), l ∈ rawIn word items →
    ∀ s ∈ leavesIn l, s ∈ leavesIn (redactEntries word items)
  | .nil, _, hl, _, _ => absurd hl List.not_mem_nil
  | .cons (.obj fields) rest, l, hl, s, hs => by
    rw [redactEntries, leavesIn, List.mem_append]
    exact (List.mem_append.mp hl).imp (leaves_rawOf fields l · s hs) (leaves_rawIn rest l · s hs)
  | .cons (.arr items) rest, l, hl, s, hs => by
    have hresult : redactEntries word (.cons (.arr items) rest) = .cons (.arr items) (redactEntries word rest) := by
      rw [redactEntries] <;> nofun
    rw [hresult, leavesIn, List.mem_append]
    rcases List.mem_cons.mp hl with rfl | hrest
    · exact .inl hs
    · exact .inr (leaves_rawIn rest l hrest s hs)
  | .cons (.str t) rest, l, hl, s, hs => by
    rw [redactEntries, leavesIn, List.mem_append]
    exact .inr (leaves_rawIn rest l hl s hs)
  | .cons .null rest, l, hl, s, hs | .cons (.bool _) rest, l, hl, s, hs | .cons (.int _) rest, l, hl, s, hs
  | .cons (.float _) rest, l, hl, s, hs => by
    have hlater := leaves_rawIn rest l hl s hs
    simp only [redactEntries, leavesIn, leaves, List.nil_append]
    exact hlater

end

mutual

/-- Where a result does not tell blanked values apart, the raw lists have none. -/
theorem rawOf_eq_blank {w : Json} : ∀ u : JsonFields, redactMapping word u = redactMapping word (blankOf word w u) →
    ∀ l ∈ rawOf word u, blankIn word w l = l
  | .nil, _, _, hl => absurd hl List.not_mem_nil
  | .cons key item rest, h, l, hl => by
    simp only [blankOf, redactMapping, JsonFields.cons.injEq, true_and] at h
    rcases List.mem_append.mp hl with hitem | hrest
    · by_cases hkey : isMasked word key = true
      · rw [if_pos hkey] at hitem
        exact absurd hitem List.not_mem_nil
      · have hsame := h.1
        rw [if_neg hkey] at hitem
        rw [if_neg hkey, if_neg hkey, if_neg hkey] at hsame
        exact raw_eq_blank item hsame l hitem
    · exact rawOf_eq_blank rest h.2 l hrest

theorem raw_eq_blank {w : Json} : ∀ v : Json, redactItem word v = redactItem word (blank word w v) →
    ∀ l ∈ raw word v, blankIn word w l = l
  | .obj fields, h, l, hl => rawOf_eq_blank fields (Json.obj.inj h) l hl
  | .arr items, h, l, hl => rawIn_eq_blank items (Json.arr.inj h) l hl
  | .str _, _, _, hl | .null, _, _, hl | .bool _, _, _, hl | .int _, _, _, hl | .float _, _, _, hl =>
    absurd hl List.not_mem_nil

theorem rawIn_eq_blank {w : Json} : ∀ items : JsonItems,
    redactEntries word items = redactEntries word (blankIn word w items) →
      ∀ l ∈ rawIn word items, blankIn word w l = l
  | .nil, _, _, hl => absurd hl List.not_mem_nil
  | .cons (.obj fields) rest, h, l, hl => by
    obtain ⟨hhead, hrest⟩ := JsonItems.cons.inj h
    rcases List.mem_append.mp hl with hfields | hlater
    · exact rawOf_eq_blank fields (Json.obj.inj hhead) l hfields
    · exact rawIn_eq_blank rest hrest l hlater
  | .cons (.arr items) rest, h, l, hl => by
    obtain ⟨hhead, hrest⟩ := JsonItems.cons.inj h
    rcases List.mem_cons.mp hl with rfl | hlater
    · exact (Json.arr.inj hhead).symm
    · exact rawIn_eq_blank rest hrest l hlater
  | .cons (.str _) rest, h, l, hl | .cons .null rest, h, l, hl | .cons (.bool _) rest, h, l, hl
  | .cons (.int _) rest, h, l, hl | .cons (.float _) rest, h, l, hl =>
    rawIn_eq_blank rest (JsonItems.cons.inj h).2 l hl

end

mutual

/-- Where blanking changes nothing, the values under masked keys are blank. -/
theorem masked_of_blankOf {w : Json} : ∀ u : JsonFields, blankOf word w u = u →
    ∀ entry ∈ entriesOf u, isMasked word entry.1 = true → entry.2 = w ∨ ∃ inner ∈ entries w, inner = entry
  | .nil, _, _, hentry, _ => absurd hentry List.not_mem_nil
  | .cons key value rest, h, entry, hentry, hmasked => by
    simp only [blankOf, JsonFields.cons.injEq, true_and] at h
    rcases List.mem_cons.mp hentry with rfl | hlater
    · rw [if_pos hmasked] at h
      exact .inl h.1.symm
    · rcases List.mem_append.mp hlater with hvalue | hrest
      · by_cases hkey : isMasked word key = true
        · rw [if_pos hkey] at h
          exact .inr ⟨entry, h.1 ▸ hvalue, rfl⟩
        · rw [if_neg hkey] at h
          exact masked_of_blank value h.1 entry hvalue hmasked
      · exact masked_of_blankOf rest h.2 entry hrest hmasked

theorem masked_of_blank {w : Json} : ∀ v : Json, blank word w v = v →
    ∀ entry ∈ entries v, isMasked word entry.1 = true → entry.2 = w ∨ ∃ inner ∈ entries w, inner = entry
  | .obj fields, h, entry, hentry, hmasked => masked_of_blankOf fields (Json.obj.inj h) entry hentry hmasked
  | .arr items, h, entry, hentry, hmasked => masked_of_blankIn items (Json.arr.inj h) entry hentry hmasked
  | .str _, _, _, hentry, _ | .null, _, _, hentry, _ | .bool _, _, _, hentry, _ | .int _, _, _, hentry, _
  | .float _, _, _, hentry, _ => absurd hentry List.not_mem_nil

theorem masked_of_blankIn {w : Json} : ∀ items : JsonItems, blankIn word w items = items →
    ∀ entry ∈ entriesIn items, isMasked word entry.1 = true → entry.2 = w ∨ ∃ inner ∈ entries w, inner = entry
  | .nil, _, _, hentry, _ => absurd hentry List.not_mem_nil
  | .cons head tail, h, entry, hentry, hmasked => by
    obtain ⟨hhead, htail⟩ := JsonItems.cons.inj h
    rcases List.mem_append.mp hentry with hin | hin
    · exact masked_of_blank head hhead entry hin hmasked
    · exact masked_of_blankIn tail htail entry hin hmasked

end

mutual

theorem blankOf_blankOf {w w' : Json} : ∀ u : JsonFields, blankOf word w (blankOf word w' u) = blankOf word w u
  | .nil => rfl
  | .cons key value rest => by
    by_cases hkey : isMasked word key = true
    · simp only [blankOf, if_pos hkey, blankOf_blankOf rest]
    · simp only [blankOf, if_neg hkey, blankOf_blankOf rest, blank_blank value]

theorem blank_blank {w w' : Json} : ∀ v : Json, blank word w (blank word w' v) = blank word w v
  | .obj fields => congrArg Json.obj (blankOf_blankOf fields)
  | .arr items => congrArg Json.arr (blankIn_blankIn items)
  | .str _ | .null | .bool _ | .int _ | .float _ => rfl

theorem blankIn_blankIn {w w' : Json} : ∀ items : JsonItems,
    blankIn word w (blankIn word w' items) = blankIn word w items
  | .nil => rfl
  | .cons head tail => by rw [blankIn, blankIn, blankIn, blank_blank head, blankIn_blankIn tail]

end

/-- A list whose masked values can be blanked in two ways has none. -/
theorem noKeys_of_blank {l : JsonItems} (hfalse : blankIn word (.bool false) l = l)
    (htrue : blankIn word (.bool true) l = l) : ∀ entry ∈ entriesIn l, isMasked word entry.1 = false := by
  intro entry hentry
  by_contra hmasked
  rw [Bool.not_eq_false] at hmasked
  rcases masked_of_blankIn l hfalse entry hentry hmasked with hone | ⟨inner, hinner, -⟩
  · rcases masked_of_blankIn l htrue entry hentry hmasked with htwo | ⟨inner, hinner, -⟩
    · rw [hone] at htwo
      cases htwo
    · exact absurd hinner List.not_mem_nil
  · exact absurd hinner List.not_mem_nil

end Result

/-- **Redaction of a mapping is complete exactly if** every list that it leaves as it is, for being directly in a
    list, has no masked key and only clean texts. -/
theorem redaction_complete_iff (word : Char → Bool) (u : JsonFields) :
    Complete word u ↔ ∀ l ∈ rawOf word u, CleanList word l := by
  constructor
  · intro h l hl
    have hblank : ∀ w, blankIn word w l = l := by
      intro w
      have hsame := h.hides (blankOf word w u) (blankOf_blankOf u).symm
      exact rawOf_eq_blank u hsame l hl
    constructor
    · exact noKeys_of_blank (hblank _) (hblank _)
    · intro s hs
      exact h.cleans s (leaves_rawOf u l hl s hs)
  · intro h
    obtain ⟨hmasks, hcleans⟩ := kept_mapping u h
    exact ⟨hmasks, hcleans, fun v hv => redactMapping_alike u v hv fun l hl => (h l hl).keys,
      redactMapping_redactMapping u⟩

/-! ## A list in a list -/

/-- `{"items": [[{"token": "abc"}]]}`. -/
def nested : JsonFields :=
  .cons "items" (.arr (.cons (.arr (.cons (.obj (.cons "token" (.str "abc") .nil)) .nil)) .nil)) .nil

/-- A token in a list in a list is not redacted. -/
theorem nested_token_shown : redactMapping isWord nested = nested ∧ ¬ Complete isWord nested := by
  have hitems : isMasked isWord "items" = false := by decide +kernel
  have htoken : isMasked isWord "token" = true := by decide +kernel
  have hresult : redactMapping isWord nested = nested := by
    simp [nested, redactMapping, redactItem, redactEntries, hitems]
  refine ⟨hresult, fun h => ?_⟩
  have hmasked := h.masks ("token", .str "abc") (by rw [hresult]; simp [nested, entriesOf, entries, entriesIn]) htoken
  exact absurd hmasked (by decide)

end WeFlow.Telemetry
