import Mathlib.Data.Bool.AllAny
import WeFlow.Base.JsonText

/-!
# `Canonical` — the bytes that each language hashes

A record is sealed with the SHA-256 of its canonical JSON. Python writes it with
`json.dumps(…, ensure_ascii=True, sort_keys=True)`, TypeScript with `canonicalJson`, and both with the stable
idempotency key of an effect. `JSON.stringify` writes every character from U+007F on as it is; Python escapes
it. So the bytes are the same exactly if no string goes beyond `~` (`bytes_agree`).

## Contents

* `Python.asciiWriter`, `TypeScript.stringifyWriter` — the two encoders.
* `Python.contentBytes`, `Python.idempotencyBytes`, … — what the contract functions hash.
* `languages_hash_alike` — exactly when they hash the same bytes.
-/

namespace WeFlow

/-! ## Encoders -/

/-- The code units of a character in UTF-16. -/
def utf16 (c : Char) : List Nat :=
  if c.toNat < 0x10000 then [c.toNat]
  else [0xD800 + (c.toNat - 0x10000) / 0x400, 0xDC00 + (c.toNat - 0x10000) % 0x400]

/-- `\uXXXX` of a code unit. -/
def unicodeEscape (unit : Nat) : List Char :=
  '\\' :: 'u' :: [unit / 0x1000, unit / 0x100, unit / 0x10, unit].map fun n => Nat.digitChar (n % 16)

/-- The escapes of two characters, which both runtimes share. -/
def shortEscape? (c : Char) : Option (List Char) :=
  if c = '\\' then some ['\\', '\\']
  else if c = '"' then some ['\\', '"']
  else if c = '\x08' then some ['\\', 'b']
  else if c = '\x0c' then some ['\\', 'f']
  else if c = '\n' then some ['\\', 'n']
  else if c = '\r' then some ['\\', 'r']
  else if c = '\t' then some ['\\', 't']
  else none

/-- What a record is hashed without, if anything: the field that holds the hash. -/
def ExactFields.hashed (payload : ExactFields) (without : Option String) : ExactJson :=
  .obj (match without with
    | some field => payload.without field
    | none => payload)

namespace Python

/-- `json.dumps(value, ensure_ascii=True, sort_keys=True)`: only the characters from the blank to `~` stand
    for themselves, and keys are in the order of their code points. -/
def asciiWriter : JsonWriter where
  escape c :=
    match shortEscape? c with
    | some text => text
    | none => if ' ' ≤ c ∧ c ≤ '~' then [c] else (utf16 c).flatMap unicodeEscape
  ordered a b := !decide (b < a)

def dumps (value : ExactJson) : String := .ofList (value.text asciiWriter)

/-- What `canonical_sha256` of `authorization.py` and `_sha256` of `operator_case.py` hash. -/
def canonicalBytes (value : ExactJson) : ByteArray := (dumps value).toByteArray

/-- What `content_hash` hashes, and `canonical_sha256` of `evaluation.py`, whose field may be absent. -/
def contentBytes (payload : ExactFields) (without : Option String) : ByteArray :=
  canonicalBytes (payload.hashed without)

/-- What `stable_idempotency_key` hashes; the material is written in another order than it is sorted in. -/
def idempotencyBytes (tenantId providerId operation naturalKey intendedStateHash : String) : ByteArray :=
  canonicalBytes (.obj (.ofStrings
    [("tenant_id", tenantId), ("provider_id", providerId), ("operation", operation),
     ("natural_key", naturalKey), ("intended_state_hash", intendedStateHash)]))

end Python

namespace TypeScript

/-- `JSON.stringify` of strings, and `sort()` of keys, which compares UTF-16 code units. A character is no
    lone surrogate, which it would escape. -/
def stringifyWriter : JsonWriter where
  escape c :=
    match shortEscape? c with
    | some text => text
    | none => if c < ' ' then unicodeEscape c.toNat else [c]
  ordered a b := !decide (b.toList.flatMap utf16 < a.toList.flatMap utf16)

def canonicalJson (value : ExactJson) : String := .ofList (value.text stringifyWriter)

def canonicalBytes (value : ExactJson) : ByteArray := (canonicalJson value).toByteArray

/-- What `change4ContentHash` hashes. -/
def contentBytes (payload : ExactFields) (without : Option String) : ByteArray :=
  canonicalBytes (payload.hashed without)

/-- `JSON.stringify` of an object, which keeps the order of its fields. -/
def unsortedWriter : JsonWriter := { stringifyWriter with ordered := fun _ _ => true }

/-- What `stableIdempotencyKey` hashes: the fields are listed in their order and not sorted. -/
def idempotencyBytes (tenantId providerId operation naturalKey intendedStateHash : String) : ByteArray :=
  (String.ofList ((ExactJson.obj (.ofStrings
    [("intended_state_hash", intendedStateHash), ("natural_key", naturalKey), ("operation", operation),
     ("provider_id", providerId), ("tenant_id", tenantId)])).text unsortedWriter)).toByteArray

end TypeScript

/-! ## Texts up to `~` -/

/-- Whether no character is beyond `~`: DEL, and whatever is not ASCII. -/
def isBasicText (s : String) : Bool := s.toList.all fun c => decide (c ≤ '~')

def ExactJson.basic (v : ExactJson) : Bool := v.strings.all isBasicText

theorem le_tilde_of_basic {s : String} (h : isBasicText s = true) {c : Char} (hc : c ∈ s.toList) : c ≤ '~' :=
  of_decide_eq_true (List.all_eq_true.mp h c hc)

theorem utf16_of_le_tilde {c : Char} (h : c ≤ '~') : utf16 c = [c.toNat] := by
  have hval : c.toNat ≤ 126 := h
  rw [utf16, if_pos (by omega)]

/-- **Up to `~` both encoders escape alike.** -/
theorem escape_alike {c : Char} (h : c ≤ '~') :
    Python.asciiWriter.escape c = TypeScript.stringifyWriter.escape c := by
  show (match shortEscape? c with
      | some text => text
      | none => if ' ' ≤ c ∧ c ≤ '~' then [c] else (utf16 c).flatMap unicodeEscape) =
    match shortEscape? c with
      | some text => text
      | none => if c < ' ' then unicodeEscape c.toNat else [c]
  cases shortEscape? c with
  | some text => rfl
  | none =>
      by_cases hblank : ' ' ≤ c
      · rw [if_pos ⟨hblank, h⟩, if_neg (Char.not_lt.mpr hblank)]
      · rw [if_neg fun hboth => hblank hboth.1, if_pos (Char.not_le.mp hblank), utf16_of_le_tilde h,
          List.flatMap_singleton]

/-- Characters are in the order of their numbers. -/
theorem map_toNat_lt_iff {l l' : List Char} : l.map Char.toNat < l'.map Char.toNat ↔ l < l' := by
  induction l generalizing l' with
  | nil => cases l' <;> simp
  | cons c l ih =>
      cases l' with
      | nil => simp
      | cons c' l' =>
          rw [List.map_cons, List.map_cons, List.cons_lt_cons_iff, List.cons_lt_cons_iff, ih, Char.toNat_inj]
          rfl

/-- Basic texts are in one order by code points and by code units. -/
theorem utf16_lt_iff {s t : String} (hs : isBasicText s = true) (ht : isBasicText t = true) :
    s.toList.flatMap utf16 < t.toList.flatMap utf16 ↔ s < t := by
  have hunits : ∀ {u : String}, isBasicText u = true → u.toList.flatMap utf16 = u.toList.map Char.toNat := by
    intro u hu
    rw [List.flatMap_congr fun c hc => utf16_of_le_tilde (le_tilde_of_basic hu hc), List.map_eq_flatMap]
  rw [hunits hs, hunits ht, map_toNat_lt_iff]
  rfl

theorem alikeOn_of_basic {v : ExactJson} (h : v.basic = true) :
    Python.asciiWriter.AlikeOn TypeScript.stringifyWriter v.strings := by
  have hbasic : ∀ s ∈ v.strings, isBasicText s = true := List.all_eq_true.mp h
  constructor
  · intro s hs c hc
    exact escape_alike (le_tilde_of_basic (hbasic s hs) hc)
  · intro s hs t ht
    show (!decide (t < s)) = !decide (t.toList.flatMap utf16 < s.toList.flatMap utf16)
    rw [decide_eq_decide.mpr (utf16_lt_iff (hbasic t ht) (hbasic s hs))]

/-! ## Beyond `~` -/

theorem shortEscape?_le_tilde {c : Char} {text : List Char} (h : shortEscape? c = some text) :
    (c ≤ '~') ∧ ∀ x ∈ text, x ≤ '~' := by
  rw [shortEscape?] at h
  have hcases : ∀ {d : Char} {rest : Option (List Char)} {escape : List Char},
      (if c = d then some escape else rest) = some text → (c = d ∧ text = escape) ∨ rest = some text := by
    intro d rest escape h
    by_cases hc : c = d
    · rw [if_pos hc] at h
      exact .inl ⟨hc, (Option.some.inj h).symm⟩
    · rw [if_neg hc] at h
      exact .inr h
  iterate 7
    rcases hcases h with ⟨rfl, rfl⟩ | h
    · exact ⟨by decide, List.all_iff_forall_prop.mp (by decide)⟩
  cases h

/-- The escape of a code unit is ASCII. -/
theorem unicodeEscape_le_tilde {unit : Nat} {x : Char} (h : x ∈ unicodeEscape unit) : x ≤ '~' := by
  have hdigit : ∀ n : Nat, Nat.digitChar (n % 16) ≤ '~' := fun n =>
    (by decide : ∀ d < 16, Nat.digitChar d ≤ '~') (n % 16) (Nat.mod_lt n (by decide))
  rw [unicodeEscape] at h
  rcases List.mem_cons.mp h with rfl | h
  · decide
  · rcases List.mem_cons.mp h with rfl | h
    · decide
    · obtain ⟨n, -, rfl⟩ := List.mem_map.mp h
      exact hdigit n

/-- Python writes nothing beyond `~`. -/
theorem Python.escape_le_tilde (c : Char) : ∀ x ∈ Python.asciiWriter.escape c, x ≤ '~' := by
  show ∀ x ∈ (match shortEscape? c with
      | some text => text
      | none => if ' ' ≤ c ∧ c ≤ '~' then [c] else (utf16 c).flatMap unicodeEscape), x ≤ '~'
  cases hshort : shortEscape? c with
  | some text => exact (shortEscape?_le_tilde hshort).2
  | none =>
      intro x hx
      by_cases hc : ' ' ≤ c ∧ c ≤ '~'
      · rw [if_pos hc] at hx
        rw [List.mem_singleton.mp hx]
        exact hc.2
      · rw [if_neg hc] at hx
        obtain ⟨unit, -, hunit⟩ := List.mem_flatMap.mp hx
        exact unicodeEscape_le_tilde hunit

/-- TypeScript writes a character beyond `~` as it is. -/
theorem TypeScript.mem_escape {c : Char} (h : '~' < c) : c ∈ TypeScript.stringifyWriter.escape c := by
  show c ∈ match shortEscape? c with
    | some text => text
    | none => if c < ' ' then unicodeEscape c.toNat else [c]
  cases hshort : shortEscape? c with
  | some text => exact absurd (shortEscape?_le_tilde hshort).1 (Char.not_le.mpr h)
  | none =>
      have hblank : ¬ c < ' ' := fun hlt => absurd (Char.lt_trans h hlt) (by decide)
      rw [if_neg hblank]
      exact List.mem_singleton_self c

theorem le_tilde_of_grammar (c : Char) (h : isJsonGrammar c = true) : c ≤ '~' := by
  rw [isJsonGrammar, Bool.or_eq_true] at h
  rcases h with hdigit | hother
  · have hval : c.toNat ≤ 57 := by
      rw [Char.isDigit, Bool.and_eq_true, decide_eq_true_eq, decide_eq_true_eq] at hdigit
      exact hdigit.2
    exact Nat.le_trans hval (by decide)
  · have hall : ∀ x ∈ "\"[]\x7b\x7d,:-aeflnrstu".toList, x ≤ '~' := List.all_iff_forall_prop.mp (by decide)
    exact hall c (List.contains_iff_mem.mp hother)

theorem Python.dumps_le_tilde (v : ExactJson) : ∀ x ∈ v.text Python.asciiWriter, x ≤ '~' :=
  v.forall_mem_text le_tilde_of_grammar Python.escape_le_tilde

/-- A text that Python can have written is one of basic strings only. -/
theorem basic_of_text_le_tilde {v : ExactJson} {w : JsonWriter}
    (hraw : ∀ c, '~' < c → c ∈ w.escape c) (h : ∀ x ∈ v.text w, x ≤ '~') : v.basic = true := by
  refine List.all_eq_true.mpr fun s hs => List.all_eq_true.mpr fun c hc => decide_eq_true ?_
  by_contra hlt
  have hbeyond : '~' < c := Char.not_le.mp hlt
  exact hlt (h c (ExactJson.escape_mem_text hc (hraw c hbeyond) v hs))

theorem toByteArray_ofList_inj {l l' : List Char} :
    (String.ofList l).toByteArray = (String.ofList l').toByteArray ↔ l = l' := by
  rw [String.toByteArray_inj, String.ofList_inj]

/-- **Both languages hash the same bytes of a value exactly if its strings are basic.** -/
theorem canonicalBytes_alike (v : ExactJson) :
    Python.canonicalBytes v = TypeScript.canonicalBytes v ↔ v.basic = true := by
  show (String.ofList _).toByteArray = (String.ofList _).toByteArray ↔ _
  rw [toByteArray_ofList_inj]
  constructor
  · intro heq
    refine basic_of_text_le_tilde (fun c => TypeScript.mem_escape) ?_
    rw [← heq]
    exact Python.dumps_le_tilde v
  · intro h
    exact v.text_congr (alikeOn_of_basic h)

/-! ## Idempotency keys -/

section Idempotency

variable (tenantId providerId operation naturalKey intendedStateHash : String)

/-- The material in the order in which TypeScript lists it. -/
def idempotencyMaterial : ExactFields :=
  .ofStrings
    [("intended_state_hash", intendedStateHash), ("natural_key", naturalKey), ("operation", operation),
     ("provider_id", providerId), ("tenant_id", tenantId)]

/-- Python sorts the material into the order in which TypeScript lists it. -/
theorem Python.idempotencyBytes_eq :
    Python.idempotencyBytes tenantId providerId operation naturalKey intendedStateHash =
      Python.canonicalBytes (.obj (idempotencyMaterial tenantId providerId operation naturalKey
        intendedStateHash)) := by
  have hdescending : ["tenant_id", "provider_id", "operation", "natural_key", "intended_state_hash"].Pairwise
      fun a b => Python.asciiWriter.ordered a b = false := by decide
  have hascending : ["intended_state_hash", "natural_key", "operation", "provider_id", "tenant_id"].Pairwise
      fun a b => Python.asciiWriter.ordered a b = true := by decide
  rw [Python.idempotencyBytes, Python.canonicalBytes, Python.canonicalBytes, Python.dumps, Python.dumps,
    ExactJson.text, ExactJson.text, JsonWriter.sorted_of_descending hdescending,
    JsonWriter.sorted_of_ascending hascending]
  rfl

theorem TypeScript.idempotencyBytes_eq :
    TypeScript.idempotencyBytes tenantId providerId operation naturalKey intendedStateHash =
      TypeScript.canonicalBytes (.obj (idempotencyMaterial tenantId providerId operation naturalKey
        intendedStateHash)) := by
  have hlisted : ["intended_state_hash", "natural_key", "operation", "provider_id", "tenant_id"].Pairwise
      fun a b => TypeScript.unsortedWriter.ordered a b = true := by decide
  have hascending : ["intended_state_hash", "natural_key", "operation", "provider_id", "tenant_id"].Pairwise
      fun a b => TypeScript.stringifyWriter.ordered a b = true := by decide
  rw [TypeScript.idempotencyBytes, TypeScript.canonicalBytes, TypeScript.canonicalJson, ExactJson.text,
    ExactJson.text, JsonWriter.sorted_of_ascending hlisted, JsonWriter.sorted_of_ascending hascending]
  rfl

theorem idempotencyMaterial_basic :
    (ExactJson.obj (idempotencyMaterial tenantId providerId operation naturalKey intendedStateHash)).basic = true ↔
      ∀ s ∈ [tenantId, providerId, operation, naturalKey, intendedStateHash], isBasicText s = true := by
  have hkeys : ∀ s ∈ ["intended_state_hash", "natural_key", "operation", "provider_id", "tenant_id"],
      isBasicText s = true := by decide
  have hstrings : (ExactJson.obj (idempotencyMaterial tenantId providerId operation naturalKey
      intendedStateHash)).strings = ["intended_state_hash", intendedStateHash, "natural_key", naturalKey,
        "operation", operation, "provider_id", providerId, "tenant_id", tenantId] := rfl
  rw [ExactJson.basic, hstrings, List.all_eq_true]
  constructor
  · intro h s hs
    apply h s
    simp only [List.mem_cons, List.not_mem_nil, or_false] at hs ⊢
    tauto
  · intro h s hs
    by_cases hkey : s ∈ ["intended_state_hash", "natural_key", "operation", "provider_id", "tenant_id"]
    · exact hkeys s hkey
    · apply h s
      simp only [List.mem_cons, List.not_mem_nil, or_false] at hs hkey ⊢
      tauto

theorem idempotencyBytes_alike :
    Python.idempotencyBytes tenantId providerId operation naturalKey intendedStateHash =
        TypeScript.idempotencyBytes tenantId providerId operation naturalKey intendedStateHash ↔
      ∀ s ∈ [tenantId, providerId, operation, naturalKey, intendedStateHash], isBasicText s = true := by
  rw [Python.idempotencyBytes_eq, TypeScript.idempotencyBytes_eq, canonicalBytes_alike,
    idempotencyMaterial_basic]

end Idempotency

/-! ## All canonical hashes -/

/-- **Both languages hash the same bytes exactly if no string goes beyond `~`.** -/
theorem languages_hash_alike (value : ExactJson) (payload : ExactFields) (without : Option String)
    (tenantId providerId operation naturalKey intendedStateHash : String) :
    (Python.canonicalBytes value = TypeScript.canonicalBytes value ↔ value.basic = true) ∧
    (Python.contentBytes payload without = TypeScript.contentBytes payload without ↔
      (payload.hashed without).basic = true) ∧
    (Python.idempotencyBytes tenantId providerId operation naturalKey intendedStateHash =
        TypeScript.idempotencyBytes tenantId providerId operation naturalKey intendedStateHash ↔
      ∀ s ∈ [tenantId, providerId, operation, naturalKey, intendedStateHash], isBasicText s = true) :=
  ⟨canonicalBytes_alike value, canonicalBytes_alike _,
    idempotencyBytes_alike tenantId providerId operation naturalKey intendedStateHash⟩

/-- The records of a tenant with an accent in its name have two hashes, and its effects two keys. -/
theorem accented_hashed_apart :
    Python.canonicalBytes (.obj (.ofStrings [("tenant_id", "é")])) ≠
        TypeScript.canonicalBytes (.obj (.ofStrings [("tenant_id", "é")])) ∧
      Python.contentBytes (.ofStrings [("tenant_id", "é"), ("grant_sha256", "0")]) (some "grant_sha256") ≠
        TypeScript.contentBytes (.ofStrings [("tenant_id", "é"), ("grant_sha256", "0")]) (some "grant_sha256") ∧
      Python.idempotencyBytes "é" "fixture" "deliver" "k1" "0" ≠
        TypeScript.idempotencyBytes "é" "fixture" "deliver" "k1" "0" ∧
      Python.dumps (.obj (.ofStrings [("tenant_id", "é")])) = "\x7b\"tenant_id\":\"\\u00e9\"\x7d" ∧
      TypeScript.canonicalJson (.obj (.ofStrings [("tenant_id", "é")])) = "\x7b\"tenant_id\":\"é\"\x7d" := by
  refine ⟨fun h => ?_, fun h => ?_, fun h => ?_, by decide +kernel, by decide +kernel⟩
  · exact absurd ((canonicalBytes_alike _).mp h) (by decide)
  · exact absurd ((canonicalBytes_alike _).mp h) (by decide)
  · exact absurd ((idempotencyBytes_alike _ _ _ _ _).mp h) (by decide)

end WeFlow
