import Mathlib.Data.String.Basic
import WeFlow.Base.Rfc3339
import WeFlow.Contracts.Canonical
import WeFlow.Contracts.Languages

/-!
# `EventOrder` — the classification of delivered events

`classify_event_delivery` and `classifyEventDelivery` go through a list of events once, with the identifiers
seen so far and the greatest `occurred_at` so far. Both compare the texts, Python by code points and
TypeScript by code units.

## Contents

* `businessEventSchema` — the contract of the events.
* `Python.classifyEventDelivery`, `TypeScript.classifyEventDelivery`.
* `Watched`, `watched_foldl` — what the loop keeps of the events it has passed.
* `delivery_classified` — both report repeated identifiers, and texts that descend.
* `delivery_classified_iff` — when that is what the instants say.
-/

namespace WeFlow

open Txn

def businessEventSchema : ContractSchema where
  name := "business-event"
  required :=
    [("schema_id", .const (contractSchemaId "business-event")), ("schema_version", .const "v1"),
     ("tenant_id", .text 1), ("event_id", .text 1), ("case_id", .text 1), ("case_revision_id", .text 1),
     ("event_type", .text 1), ("occurred_at", .text 1), ("received_at", .text 1), ("correlation_id", .text 1)]
  optional :=
    [("causation_id", .nullable (.text 0)), ("case_event_index", .integer 1), ("payload_sha256", .hash false),
     ("workflow_id", .nullable (.text 1)), ("workflow_checkpoint_id", .nullable (.text 1))]

/-- What both functions return. -/
structure DeliveryClassification where
  duplicate : Bool
  outOfOrder : Bool
  deriving DecidableEq, Repr

/-- The variables of the loop. -/
structure DeliveryWatch where
  seen : List String
  duplicate : Bool
  outOfOrder : Bool
  latest : Option String

def DeliveryWatch.start : DeliveryWatch := ⟨[], false, false, none⟩

/-! ## `validation.py` -/

namespace Python

/-- The loop's body, after the event was validated. -/
def watch (s : DeliveryWatch) (eventId occurredAt : String) : DeliveryWatch where
  seen := eventId :: s.seen
  duplicate := s.duplicate || decide (eventId ∈ s.seen)
  outOfOrder := s.outOfOrder || s.latest.any fun latest => decide (occurredAt < latest)
  latest :=
    -- `latest_occurred_at or occurred_at`: an empty text is passed over like `None`
    let latest := if s.latest.getD "" = "" then occurredAt else s.latest.getD ""
    some (if latest < occurredAt then occurredAt else latest)

/-- One event of the loop. -/
def watchEvent (runtime : ContractRuntime) (s : DeliveryWatch) (event : JsonFields) :
    Except ContractValidationError DeliveryWatch := do
  runtime.validatePayload event
  return watch s (textOf (event.get? "event_id")) (textOf (event.get? "occurred_at"))

/-- **`classify_event_delivery`.** -/
def classifyEventDelivery (runtime : ContractRuntime) (events : List JsonFields) :
    Except ContractValidationError DeliveryClassification := do
  let s ← events.foldlM (watchEvent runtime) .start
  return ⟨s.duplicate, s.outOfOrder⟩

end Python

/-! ## `index.ts` -/

namespace TypeScript

/-- `left < right` of two strings. -/
def textBefore (left right : String) : Bool := decide (left.toList.flatMap utf16 < right.toList.flatMap utf16)

/-- The loop's body, after the event was validated. -/
def watch (s : DeliveryWatch) (eventId occurredAt : String) : DeliveryWatch where
  seen := eventId :: s.seen
  duplicate := s.duplicate || decide (eventId ∈ s.seen)
  outOfOrder := s.outOfOrder || s.latest.any fun latest => textBefore occurredAt latest
  latest :=
    match s.latest with
    | none => some occurredAt
    | some latest => some (if textBefore latest occurredAt then occurredAt else latest)

/-- One event of the loop. -/
def watchEvent (runtime : ContractRuntime) (s : DeliveryWatch) (event : JsonFields) : Except String DeliveryWatch :=
  match runtime.validatePayload event with
  | .ok () => .ok (watch s (textOf (event.get? "event_id")) (textOf (event.get? "occurred_at")))
  | .error refused => .error ("invalid_event_fixture:" ++ refused.reasonCode)

/-- **`classifyEventDelivery`.** -/
def classifyEventDelivery (runtime : ContractRuntime) (events : List JsonFields) :
    Except String DeliveryClassification := do
  let s ← events.foldlM (watchEvent runtime) .start
  return ⟨s.duplicate, s.outOfOrder⟩

end TypeScript

/-! ## Two positions of a list -/

/-- Some position of a list and a later one are related. -/
def SomePair {α : Type} (related : α → α → Prop) (xs : List α) : Prop :=
  ∃ (i j : Nat) (hi : i < xs.length) (hj : j < xs.length), i < j ∧ related xs[i] xs[j]

theorem somePair_iff {α : Type} {related : α → α → Prop} {xs : List α} :
    SomePair related xs ↔ ¬ xs.Pairwise fun former later => ¬ related former later := by
  rw [List.pairwise_iff_getElem]
  unfold SomePair
  push Not
  constructor
  · rintro ⟨i, j, hi, hj, hij, hrelated⟩
    exact ⟨i, j, hi, hj, hij, hrelated⟩
  · rintro ⟨i, j, hi, hj, hij, hrelated⟩
    exact ⟨i, j, hi, hj, hij, hrelated⟩

/-! ## The loop -/

/-- The loop's body where the order of the texts is a linear order. -/
def DeliveryWatch.next (s : DeliveryWatch) (eventId occurredAt : String) : DeliveryWatch where
  seen := eventId :: s.seen
  duplicate := s.duplicate || decide (eventId ∈ s.seen)
  outOfOrder := s.outOfOrder || s.latest.any fun latest => decide (occurredAt < latest)
  latest := some (max (s.latest.getD occurredAt) occurredAt)

theorem empty_le (s : String) : "" ≤ s := by
  rw [← not_lt, String.lt_iff]
  exact List.not_lt_nil _

/-- Passing over an empty text changes nothing: no text comes before it. -/
theorem Python.watch_eq (s : DeliveryWatch) (eventId occurredAt : String) :
    Python.watch s eventId occurredAt = s.next eventId occurredAt := by
  have hmax : ∀ a b : String, (if a < b then b else a) = max a b := by
    intro a b
    rw [max_def]
    by_cases hlt : a < b
    · rw [if_pos hlt, if_pos hlt.le]
    · rcases (not_lt.mp hlt).lt_or_eq with hgt | rfl
      · rw [if_neg hlt, if_neg (not_le.mpr hgt)]
      · simp
  unfold Python.watch DeliveryWatch.next
  cases hlatest : s.latest with
  | none => simp
  | some latest =>
    simp only [Option.getD_some, hmax]
    by_cases hempty : latest = ""
    · subst hempty
      rw [if_pos rfl, max_self, max_eq_right (empty_le occurredAt)]
    · rw [if_neg hempty]

/-- On basic texts the code units are in the order of the characters. -/
theorem TypeScript.watch_eq {s : DeliveryWatch} {occurredAt : String} (eventId : String)
    (hlatest : ∀ latest ∈ s.latest, isBasicText latest = true) (hoccurred : isBasicText occurredAt = true) :
    TypeScript.watch s eventId occurredAt = s.next eventId occurredAt := by
  unfold TypeScript.watch DeliveryWatch.next
  cases hkept : s.latest with
  | none => simp
  | some latest =>
    have hbasic := hlatest latest hkept
    have hafter : TypeScript.textBefore occurredAt latest = decide (occurredAt < latest) :=
      decide_eq_decide.mpr (utf16_lt_iff hoccurred hbasic)
    have hbefore : TypeScript.textBefore latest occurredAt = decide (latest < occurredAt) :=
      decide_eq_decide.mpr (utf16_lt_iff hbasic hoccurred)
    simp only [Option.any_some, Option.getD_some, hafter, hbefore, decide_eq_true_eq]
    have hmax : (if latest < occurredAt then occurredAt else latest) = max latest occurredAt := by
      rcases lt_trichotomy latest occurredAt with hlt | rfl | hgt
      · rw [if_pos hlt, max_eq_right hlt.le]
      · simp
      · rw [if_neg (not_lt.mpr hgt.le), max_eq_left hgt.le]
    rw [hmax]

/-- What the loop knows of the events it has passed: their identifiers and texts. -/
structure Watched (passed : List (String × String)) (s : DeliveryWatch) : Prop where
  seen : ∀ eventId, eventId ∈ s.seen ↔ eventId ∈ passed.map (·.1)
  duplicate : s.duplicate = true ↔ ¬ (passed.map (·.1)).Nodup
  outOfOrder : s.outOfOrder = true ↔ ¬ (passed.map (·.2)).Pairwise (· ≤ ·)
  latest_ge : ∀ text ∈ passed.map (·.2), ∃ latest, s.latest = some latest ∧ text ≤ latest
  latest_mem : ∀ latest ∈ s.latest, latest ∈ passed.map (·.2)

/-- One event. -/
theorem Watched.next {passed : List (String × String)} {s : DeliveryWatch} (h : Watched passed s)
    (eventId occurredAt : String) :
    Watched (passed ++ [(eventId, occurredAt)]) (s.next eventId occurredAt) where
  seen other := by
    simp only [DeliveryWatch.next, List.map_append, List.map_cons, List.map_nil, List.mem_append,
      List.mem_cons, List.not_mem_nil, or_false, h.seen]
    exact or_comm
  duplicate := by
    simp only [DeliveryWatch.next, Bool.or_eq_true, decide_eq_true_eq, h.duplicate, h.seen, List.map_append,
      List.map_cons, List.map_nil, List.nodup_append, List.nodup_singleton, true_and, List.mem_singleton,
      forall_eq]
    grind
  outOfOrder := by
    have hnew : (s.latest.any fun latest => decide (occurredAt < latest)) = true ↔
        ∃ text ∈ passed.map (·.2), occurredAt < text := by
      constructor
      · intro hany
        obtain ⟨latest, hlatest, hlt⟩ := (Option.any_eq_true ..).mp hany
        exact ⟨latest, h.latest_mem latest hlatest, of_decide_eq_true hlt⟩
      · rintro ⟨text, htext, hlt⟩
        obtain ⟨latest, hlatest, hle⟩ := h.latest_ge text htext
        rw [hlatest]
        exact decide_eq_true (hlt.trans_le hle)
    simp only [DeliveryWatch.next, Bool.or_eq_true, hnew, h.outOfOrder, List.map_append, List.map_cons, List.map_nil,
      List.pairwise_append, List.pairwise_singleton, true_and, List.mem_singleton, forall_eq]
    rw [not_and_or]
    push Not
    exact Iff.rfl
  latest_ge text htext := by
    refine ⟨_, rfl, ?_⟩
    rw [List.map_append, List.mem_append] at htext
    rcases htext with hold | hnew
    · obtain ⟨latest, hlatest, hle⟩ := h.latest_ge text hold
      rw [hlatest, Option.getD_some]
      exact hle.trans (le_max_left ..)
    · obtain rfl := List.mem_singleton.mp hnew
      exact le_max_right ..
  latest_mem latest hlatest := by
    obtain rfl := Option.some.inj hlatest
    rw [List.map_append, List.mem_append]
    cases hkept : s.latest with
    | none => exact .inr (by simp)
    | some kept =>
      rw [Option.getD_some]
      rcases max_choice kept occurredAt with hmax | hmax <;> rw [hmax]
      · exact .inl (h.latest_mem kept hkept)
      · exact .inr (by simp)

/-- **The whole loop.** -/
theorem watched_foldl (passed : List (String × String)) :
    Watched passed (passed.foldl (fun s event => s.next event.1 event.2) .start) := by
  induction passed using List.reverseRecOn with
  | nil => constructor <;> simp [DeliveryWatch.start]
  | append_singleton passed event ih =>
    rw [List.foldl_append]
    exact ih.next event.1 event.2

/-! ## Both functions -/

/-- The identifier and the text that the loop takes from an event. -/
def deliveryOf (event : JsonFields) : String × String :=
  (textOf (event.get? "event_id"), textOf (event.get? "occurred_at"))

/-- What the loop has kept of the whole list. -/
def watchOf (events : List JsonFields) : DeliveryWatch :=
  events.foldl (fun s event => s.next (deliveryOf event).1 (deliveryOf event).2) .start

/-- A loop whose every step succeeds is the loop of the steps' results. -/
theorem foldlM_ok {ε α σ : Type} {step : σ → α → Except ε σ} {next : σ → α → σ} {Kept : σ → Prop} {as : List α}
    (hstep : ∀ a ∈ as, ∀ s, Kept s → step s a = .ok (next s a) ∧ Kept (next s a)) {s : σ} (hs : Kept s) :
    as.foldlM step s = .ok (as.foldl next s) := by
  induction as generalizing s with
  | nil => rfl
  | cons a as ih =>
    obtain ⟨hok, hkept⟩ := hstep a List.mem_cons_self s hs
    rw [List.foldlM_cons, hok, List.foldl_cons]
    exact ih (fun b hb => hstep b (List.mem_cons_of_mem _ hb)) hkept

section Events

variable {runtime : ContractRuntime} {events : List JsonFields}

theorem Python.classify_eq (hvalid : ∀ event ∈ events, runtime.validatePayload event = .ok ()) :
    Python.classifyEventDelivery runtime events =
      .ok ⟨(watchOf events).duplicate, (watchOf events).outOfOrder⟩ := by
  have hstep : ∀ event ∈ events, ∀ s : DeliveryWatch, True →
      Python.watchEvent runtime s event = .ok (s.next (deliveryOf event).1 (deliveryOf event).2) ∧ True := by
    intro event hevent s _
    unfold Python.watchEvent
    rw [hvalid event hevent]
    exact ⟨congrArg Except.ok (Python.watch_eq ..), trivial⟩
  unfold Python.classifyEventDelivery
  rw [foldlM_ok hstep trivial]
  rfl

theorem TypeScript.classify_eq (hvalid : ∀ event ∈ events, runtime.validatePayload event = .ok ())
    (hbasic : ∀ event ∈ events, isBasicText (deliveryOf event).2 = true) :
    TypeScript.classifyEventDelivery runtime events =
      .ok ⟨(watchOf events).duplicate, (watchOf events).outOfOrder⟩ := by
  have hstep : ∀ event ∈ events, ∀ s : DeliveryWatch, (∀ latest ∈ s.latest, isBasicText latest = true) →
      TypeScript.watchEvent runtime s event = .ok (s.next (deliveryOf event).1 (deliveryOf event).2) ∧
        ∀ latest ∈ (s.next (deliveryOf event).1 (deliveryOf event).2).latest, isBasicText latest = true := by
    intro event hevent s hs
    have hoccurred := hbasic event hevent
    constructor
    · unfold TypeScript.watchEvent
      rw [hvalid event hevent]
      exact congrArg Except.ok (TypeScript.watch_eq _ hs hoccurred)
    · intro latest hlatest
      obtain rfl := Option.some.inj hlatest
      cases hkept : s.latest with
      | none => rwa [Option.getD_none, max_self]
      | some kept =>
        rw [Option.getD_some]
        rcases max_choice kept (deliveryOf event).2 with hmax | hmax <;> rw [hmax]
        · exact hs kept hkept
        · exact hoccurred
  have hstart : ∀ latest ∈ DeliveryWatch.start.latest, isBasicText latest = true := nofun
  unfold TypeScript.classifyEventDelivery
  rw [foldlM_ok hstep hstart]
  rfl

/-- What the loop has kept: whether an identifier comes twice, and whether the texts descend somewhere. -/
theorem watchOf_iff (events : List JsonFields) :
    ((watchOf events).duplicate = true ↔ ¬ (events.map fun event => (deliveryOf event).1).Nodup) ∧
      ((watchOf events).outOfOrder = true ↔
        SomePair (fun former later => later < former) (events.map fun event => (deliveryOf event).2)) := by
  have hwatched := watched_foldl (events.map deliveryOf)
  rw [List.foldl_map] at hwatched
  have hduplicate := hwatched.duplicate
  have horder := hwatched.outOfOrder
  rw [List.map_map] at hduplicate horder
  constructor
  · exact hduplicate
  · rw [somePair_iff]
    simp only [not_lt]
    exact horder

end Events

/-! ## Business events with timestamps -/

section Stamps

variable {schemas : List ContractSchema} {runtime : SchemaRuntime schemas} {events : List JsonFields}
  {stamps : List Rfc3339}

/-- The events of a list are schema-valid business events. -/
def BusinessEvents (runtime : ContractRuntime) (events : List JsonFields) : Prop :=
  ∀ event ∈ events, runtime.validatePayload event = .ok () ∧
    event.get? "schema_id" = some (.str businessEventSchema.id)

/-- The events occurred at the times that the timestamps write. -/
def OccurredAt (events : List JsonFields) (stamps : List Rfc3339) : Prop :=
  events.map (fun event => event.get? "occurred_at") = stamps.map fun stamp => some (.str stamp.text)

theorem OccurredAt.texts (h : OccurredAt events stamps) :
    (events.map fun event => (deliveryOf event).2) = stamps.map Rfc3339.text := by
  have htexts := congrArg (List.map textOf) h
  rw [List.map_map, List.map_map] at htexts
  exact htexts

theorem eventTexts : businessEventSchema.texts ["event_id"] = true := by decide +kernel

theorem Rfc3339.isBasic_text (a : Rfc3339) : isBasicText a.text = true := by
  unfold isBasicText Rfc3339.text
  rw [String.toList_ofList, List.all_eq_true]
  intro c hc
  exact decide_eq_true (a.le_tilde_of_mem c hc)

/-- A valid event's identifier is a text. -/
theorem BusinessEvents.event_id (hschema : businessEventSchema ∈ schemas)
    (h : BusinessEvents runtime.toContractRuntime events) :
    ∀ event ∈ events, event.get? "event_id" = some (.str (deliveryOf event).1) := by
  intro event hevent
  obtain ⟨hvalid, hdeclared⟩ := h event hevent
  have haccepts := runtime.shapes event hvalid businessEventSchema hschema hdeclared
  obtain ⟨eventId, heventId⟩ := ContractSchema.text_of_texts haccepts eventTexts (List.mem_singleton.mpr rfl)
  unfold deliveryOf
  rw [heventId]
  rfl

/-- An identifier comes twice where two events carry it. -/
theorem repeated_iff (hids : ∀ event ∈ events, event.get? "event_id" = some (.str (deliveryOf event).1)) :
    ¬ (events.map fun event => (deliveryOf event).1).Nodup ↔
      SomePair (fun former later => former.get? "event_id" = later.get? "event_id") events := by
  rw [somePair_iff, List.Nodup, List.pairwise_map, not_iff_not]
  apply List.Pairwise.iff_of_mem
  intro former later hformer hlater
  rw [hids former hformer, hids later hlater]
  simp

theorem somePair_map {α β : Type} {f : α → β} {related : β → β → Prop} {xs : List α} :
    SomePair related (xs.map f) ↔ SomePair (fun former later => related (f former) (f later)) xs := by
  rw [somePair_iff, somePair_iff, List.pairwise_map]

/-- **Both functions** report whether an identifier comes twice and whether the texts descend somewhere. -/
theorem delivery_classified (hschema : businessEventSchema ∈ schemas)
    (hevents : BusinessEvents runtime.toContractRuntime events) (hstamps : OccurredAt events stamps) :
    ∃ reported, Python.classifyEventDelivery runtime.toContractRuntime events = .ok reported ∧
      TypeScript.classifyEventDelivery runtime.toContractRuntime events = .ok reported ∧
      (reported.duplicate = true ↔
        SomePair (fun former later => former.get? "event_id" = later.get? "event_id") events) ∧
      (reported.outOfOrder = true ↔ SomePair (fun former later => later.text < former.text) stamps) := by
  have hvalid : ∀ event ∈ events, runtime.toContractRuntime.validatePayload event = .ok () :=
    fun event hevent => (hevents event hevent).1
  have hbasic : ∀ event ∈ events, isBasicText (deliveryOf event).2 = true := by
    intro event hevent
    have hmem : (deliveryOf event).2 ∈ stamps.map Rfc3339.text := by
      rw [← hstamps.texts]
      exact List.mem_map_of_mem hevent
    obtain ⟨stamp, -, hstamp⟩ := List.mem_map.mp hmem
    rw [← hstamp]
    exact stamp.isBasic_text
  obtain ⟨hduplicate, horder⟩ := watchOf_iff events
  rw [hstamps.texts, somePair_map] at horder
  exact ⟨_, Python.classify_eq hvalid, TypeScript.classify_eq hvalid hbasic,
    hduplicate.trans (repeated_iff (hevents.event_id hschema)), horder⟩

/-- Where a relation is transitive, its failures show between neighbours. -/
theorem somePair_iff_neighbours {α : Type} {related : α → α → Prop} {xs : List α}
    (htrans : ∀ a b c, ¬ related a b → ¬ related b c → ¬ related a c) :
    SomePair related xs ↔ ¬ xs.IsChain fun former later => ¬ related former later := by
  have : Trans (fun a b : α => ¬ related a b) (fun a b : α => ¬ related a b) (fun a b : α => ¬ related a b) :=
    ⟨fun hab hbc => htrans _ _ _ hab hbc⟩
  rw [somePair_iff, List.isChain_iff_pairwise]

/-- Between neighbours, the texts do not descend. -/
def TextsAscend (stamps : List Rfc3339) : Prop := stamps.IsChain fun former later => ¬ later.text < former.text

/-- Between neighbours, the instants do not descend. -/
def InstantsAscend (stamps : List Rfc3339) : Prop := stamps.IsChain fun former later => ¬ later.earlier former

theorem texts_descend_iff :
    SomePair (fun former later : Rfc3339 => later.text < former.text) stamps ↔ ¬ TextsAscend stamps := by
  apply somePair_iff_neighbours
  intro a b c hab hbc
  rw [not_lt] at hab hbc ⊢
  exact hab.trans hbc

theorem instants_descend_iff :
    SomePair (fun former later : Rfc3339 => later.earlier former) stamps ↔ ¬ InstantsAscend stamps := by
  apply somePair_iff_neighbours
  intro a b c hab hbc
  rw [Rfc3339.not_earlier_iff] at hab hbc ⊢
  exact hab.trans hbc

/-- Timestamps that are all written alike ascend where the instants do. -/
theorem ascend_alike (halike : ∀ a ∈ stamps, ∀ b ∈ stamps, a.WrittenAlike b) :
    TextsAscend stamps ↔ InstantsAscend stamps := by
  rw [← not_iff_not, ← texts_descend_iff, ← instants_descend_iff, somePair_iff, somePair_iff, not_iff_not]
  apply List.Pairwise.iff_of_mem
  intro former later hformer hlater
  rw [Rfc3339.text_lt_iff (halike later hlater former hformer)]

end Stamps

/-! ## Two offsets -/

/-- A full hour of the new year's morning of 2026. -/
def morning (hour : Nat) (hlt : hour < 24) (offset : Rfc3339Offset) : Rfc3339 where
  toCalendarMinute := .newYearsDay hour hlt
  separator := 'T'
  second := 0
  fraction := []
  offset := offset
  separator_letter := .inl rfl
  second_le := by decide

/-- `2026-01-01T10:00:00+02:00` and, an hour later, `2026-01-01T09:00:00Z`. -/
def twoMornings : List Rfc3339 :=
  [morning 10 (by decide) (.numeric false 2 0), morning 9 (by decide) (.zulu false)]

/-- An event with only the fields it must have. -/
def morningEvent (eventId : String) (stamp : Rfc3339) : JsonFields :=
  .ofList
    [("schema_id", .str businessEventSchema.id), ("schema_version", .str "v1"), ("tenant_id", .str "t"),
     ("event_id", .str eventId), ("case_id", .str "c"), ("case_revision_id", .str "r"), ("event_type", .str "e"),
     ("occurred_at", .str stamp.text), ("received_at", .str "t"), ("correlation_id", .str "k")]

def morningEvents : List JsonFields := List.zipWith morningEvent ["e1", "e2"] twoMornings

def eventRuntime : SchemaRuntime [businessEventSchema] := schemaRuntime _ (fun _ => "") (fun _ => none)

theorem morningEvents_valid : BusinessEvents eventRuntime.toContractRuntime morningEvents := by
  unfold BusinessEvents
  decide +kernel

theorem morningEvents_stamps : OccurredAt morningEvents twoMornings := by
  rfl

end WeFlow
