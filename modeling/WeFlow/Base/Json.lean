/-!
# `Json` — decoded JSON values, and how two languages compare them

`Json` is a decoded document, with the exact value of a float. `Json.pyEq` is Python's `==`, by value at
every depth; `Json.strictEq` is TypeScript's `===`, by value on scalars and by identity on arrays and
objects, of which two documents never share one. On the values that the contracts compare, `Json.plain`,
both are one relation (`Json.strictEq_eq_pyEq`).
-/

namespace WeFlow

mutual

/-- A decoded JSON value. -/
inductive Json where
  | null
  | bool (b : Bool)
  | int (n : Int)
  | float (value : Rat)
  | str (s : String)
  | arr (items : JsonItems)
  | obj (fields : JsonFields)
  deriving DecidableEq, Repr

inductive JsonItems where
  | nil
  | cons (head : Json) (tail : JsonItems)
  deriving DecidableEq, Repr

inductive JsonFields where
  | nil
  | cons (key : String) (value : Json) (rest : JsonFields)
  deriving DecidableEq, Repr

end

/-- `dict.get`. -/
def JsonFields.get? (key : String) : JsonFields → Option Json
  | .nil => none
  | .cons k v rest => if k = key then some v else rest.get? key

/-- `value.get(key)` of a mapping; `none` also stands for a value that is not one. -/
def Json.get? (key : String) : Json → Option Json
  | .obj fields => fields.get? key
  | _ => none

/-! ## Arrays and objects -/

def JsonItems.toList : JsonItems → List Json
  | .nil => []
  | .cons head tail => head :: tail.toList

def JsonItems.ofList : List Json → JsonItems
  | [] => .nil
  | head :: tail => .cons head (.ofList tail)

/-- The array of some strings. -/
def JsonItems.strings (texts : List String) : JsonItems := .ofList (texts.map .str)

@[simp] theorem JsonItems.toList_ofList (values : List Json) : (JsonItems.ofList values).toList = values := by
  induction values with
  | nil => rfl
  | cons head tail ih => rw [JsonItems.ofList, JsonItems.toList, ih]

def JsonFields.toList : JsonFields → List (String × Json)
  | .nil => []
  | .cons key value rest => (key, value) :: rest.toList

def JsonFields.ofList : List (String × Json) → JsonFields
  | [] => .nil
  | (key, value) :: rest => .cons key value (.ofList rest)

theorem JsonFields.mem_of_get? {key : String} {value : Json} {fields : JsonFields}
    (h : fields.get? key = some value) : (key, value) ∈ fields.toList := by
  induction fields using JsonFields.toList.induct with
  | case1 => simp [JsonFields.get?] at h
  | case2 k v rest ih =>
      rw [JsonFields.get?] at h
      rw [JsonFields.toList]
      by_cases hkey : k = key
      · rw [if_pos hkey] at h
        rw [hkey, Option.some.inj h]
        exact List.mem_cons_self
      · rw [if_neg hkey] at h
        exact List.mem_cons_of_mem _ (ih h)

/-! ## Equality -/

/-- The integer that a number is. -/
def Json.whole? : Json → Option Int
  | .int n => some n
  | .float value => if value.den = 1 then some value.num else none
  | _ => none

def Json.number? : Json → Option Rat
  | .int n => some n
  | .float value => some value
  | _ => none

/-- The number that a value is in Python, where a truth value is one. -/
def Json.pyNumber? : Json → Option Rat
  | .bool b => some b.toNat
  | v => v.number?

/-- Whether two values are one number. -/
def sameNumber : Option Rat → Option Rat → Bool
  | some p, some q => p = q
  | _, _ => false

mutual

/-- Python's `==`. -/
def Json.pyEq : Json → Json → Bool
  | .null, .null => true
  | .str a, .str b => a = b
  | .arr a, .arr b => a.pyEq b
  | .obj a, .obj b => a.toList.length = b.toList.length && a.pySub b
  | a, b => sameNumber a.pyNumber? b.pyNumber?

def JsonItems.pyEq : JsonItems → JsonItems → Bool
  | .nil, .nil => true
  | .cons a as, .cons b bs => a.pyEq b && as.pyEq bs
  | _, _ => false

/-- Whether each entry of a mapping is an entry of the other. -/
def JsonFields.pySub : JsonFields → JsonFields → Bool
  | .nil, _ => true
  | .cons k v rest, b =>
      (match b.get? k with
        | some w => v.pyEq w
        | none => false) && rest.pySub b

end

/-- TypeScript's `===` on parts of two documents. -/
def Json.strictEq : Json → Json → Bool
  | .null, .null => true
  | .bool a, .bool b => a = b
  | .str a, .str b => a = b
  -- two arrays or objects of different documents are never identical
  | .arr _, .arr _ | .obj _, .obj _ => false
  | a, b => sameNumber a.number? b.number?

/-- A string or a number. -/
def Json.plain : Json → Bool
  | .str _ => true
  | v => v.number?.isSome

/-- **On strings and numbers both languages compare alike.** -/
theorem Json.strictEq_eq_pyEq {a b : Json} (ha : a.plain) (hb : b.plain) : a.strictEq b = a.pyEq b := by
  cases a <;> simp only [Json.plain, Json.number?, Option.isSome_none, Bool.false_eq_true] at ha <;>
    cases b <;> simp only [Json.plain, Json.number?, Option.isSome_none, Bool.false_eq_true] at hb <;>
    simp [Json.strictEq, Json.pyEq, Json.pyNumber?, Json.number?]

theorem Json.pyEq_str {v : Json} {s : String} : v.pyEq (.str s) = true ↔ v = .str s := by
  cases v <;> simp [Json.pyEq, Json.pyNumber?, Json.number?, sameNumber]

/-- Arrays of strings are equal when their texts are. -/
theorem JsonItems.pyEq_strings {items : JsonItems} {texts : List String} :
    items.pyEq (.strings texts) = true ↔ items = .strings texts := by
  induction texts generalizing items with
  | nil => cases items <;> simp [JsonItems.strings, JsonItems.ofList, JsonItems.pyEq]
  | cons text texts ih =>
      cases items with
      | nil => simp [JsonItems.strings, JsonItems.ofList, JsonItems.pyEq]
      | cons head tail =>
          show (head.pyEq (.str text) && tail.pyEq (.strings texts)) = true ↔
            JsonItems.cons head tail = .cons (.str text) (.strings texts)
          rw [Bool.and_eq_true, Json.pyEq_str, ih, JsonItems.cons.injEq]

/-! ## Canonical texts -/

/-- Enters a field of an object in the order of the keys. -/
def JsonFields.insertSorted (key : String) (value : Json) : JsonFields → JsonFields
  | .nil => .cons key value .nil
  | .cons k v rest =>
      if key < k then .cons key value (.cons k v rest) else .cons k v (rest.insertSorted key value)

mutual

/-- `canonicalJson`, as the value that the text is of: its keys are in order and a whole float is an
    integer. Two texts are equal when these values are. -/
def Json.canonical : Json → Json
  | .float value => if value.den = 1 then .int value.num else .float value
  | .arr items => .arr items.canonical
  | .obj fields => .obj fields.canonical
  | v => v

def JsonItems.canonical : JsonItems → JsonItems
  | .nil => .nil
  | .cons head tail => .cons head.canonical tail.canonical

def JsonFields.canonical : JsonFields → JsonFields
  | .nil => .nil
  | .cons key value rest => rest.canonical.insertSorted key value.canonical

end

theorem JsonItems.canonical_strings (texts : List String) :
    (JsonItems.strings texts).canonical = .strings texts := by
  induction texts with
  | nil => rfl
  | cons text texts ih =>
      show JsonItems.cons (.str text) (JsonItems.strings texts).canonical = .cons (.str text) (.strings texts)
      rw [ih]

end WeFlow
