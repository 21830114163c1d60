import Mathlib.Algebra.BigOperators.Group.List.Basic
import Mathlib.Algebra.Order.BigOperators.Group.List
import Mathlib.Data.List.Induction
import Mathlib.Data.Rat.Floor
import WeFlow.Base.Hash
import WeFlow.Base.Table

/-!
# `LiveBudget` — reservations and exactly-once accounting of a live attempt

Before a provider is called its worst case is reserved, afterwards the reservation is settled at what was
used; actions, tool calls and turns without progress are counted one by one. The ledger keeps no totals:
every decision folds the append-only events of the attempt (`snapshotOf`), checks, and appends one event
under an identifier that a repeated call computes again.

## Contents

* `BudgetEvent`, `LiveStore.appendBudgetEvent` — the immutable table.
* `chargesOf`, `snapshotOf` — what a history has used and reserved.
* `LiveBudgetLedger.call` — reserve, settle and consume.
* `BudgetInv`, `within_run` — no limit is ever exceeded.
-/

namespace WeFlow

/-! ## The profiles -/

structure BudgetProfile where
  providerCallLimit : Nat
  inputTokenLimit : Nat
  outputTokenLimit : Nat
  totalTokenLimit : Nat
  wallTimeMs : Nat
  requestTimeoutMs : Nat
  actionLimit : Nat
  toolLimit : Nat
  noProgressLimit : Nat
  retryLimit : Nat
  estimatedCostLimit : ℚ
  estimatedCostLimit_nonneg : 0 ≤ estimatedCostLimit

structure PriceProfile where
  inputPerMillionTokens : ℚ
  outputPerMillionTokens : ℚ
  deriving DecidableEq

/-! ## Cost -/

/-- Python's rounding to an integer: halves go to the even neighbour. -/
def roundHalfEven (q : ℚ) : ℤ :=
  let floor := ⌊q⌋
  let rest := q - floor
  if rest < 1 / 2 then floor
  else if 1 / 2 < rest then floor + 1
  else if floor % 2 = 0 then floor
  else floor + 1

/-- `round(q, 12)`. -/
def round12 (q : ℚ) : ℚ := roundHalfEven (q * 10 ^ 12) / 10 ^ 12

/-- A cost with at most twelve decimals. -/
def IsRounded (q : ℚ) : Prop := ∃ z : ℤ, q = z / 10 ^ 12

theorem isRounded_round12 (q : ℚ) : IsRounded (round12 q) := ⟨_, rfl⟩

theorem IsRounded.round12_eq {q : ℚ} (h : IsRounded q) : round12 q = q := by
  obtain ⟨z, rfl⟩ := h
  have hcancel : (z : ℚ) / 10 ^ 12 * 10 ^ 12 = z := by field_simp
  have hround : roundHalfEven (z : ℚ) = z := by
    unfold roundHalfEven
    norm_num
  rw [round12, hcancel, hround]

theorem isRounded_sum {qs : List ℚ} (h : ∀ q ∈ qs, IsRounded q) : IsRounded qs.sum := by
  induction qs with
  | nil => exact ⟨0, by simp⟩
  | cons q qs ih =>
      obtain ⟨y, hy⟩ := h q (by simp)
      obtain ⟨z, hz⟩ := ih fun r hr => h r (by simp [hr])
      refine ⟨y + z, ?_⟩
      rw [List.sum_cons, hy, hz]
      push_cast
      ring

/-! ## The table of budget events -/

/-- What a provider call reserves, or has used. -/
structure ProviderUsage where
  inputTokens : Int
  outputTokens : Int
  totalTokens : Int
  estimatedCost : ℚ
  retryCount : Int
  deriving DecidableEq

inductive BudgetResource where
  | action | tool | noProgress
  deriving DecidableEq, Repr

/-- `event_kind` with its payload. -/
inductive BudgetFact where
  | providerReserved (usage : ProviderUsage) (wallTimeMs requestTimeoutMs : Int)
  | providerSettled (usage : ProviderUsage) (providerLatencyMs : Int)
  | consumed (resource : BudgetResource) (count : Nat)
  deriving DecidableEq

/-- The material of an event's identifier; its prefix is the kind. -/
inductive BudgetEventMaterial where
  | reserved (invocationId : String)
  | settled (invocationId : String)
  | consumed (resource : BudgetResource) (attemptId naturalKey : String)
  deriving DecidableEq, Repr

structure BudgetEvent where
  budgetEventId : StableId BudgetEventMaterial
  attemptId : String
  invocationId : Option String
  fact : BudgetFact
  createdAt : String
  deriving DecidableEq

structure LiveStore where
  attempts : List String := []
  budgetEvents : List BudgetEvent := []
  deriving DecidableEq

/-- The errors of `LiveBudgetExceeded`, `LiveBudgetIntegrityError` and `LiveStoreError`. -/
inductive LiveError where
  | liveBudgetExhausted | providerUsageExceededReservation | liveAttemptNotFound
  | liveBudgetEventPayloadInvalid | liveStoreImmutableConflict | liveStoreIntegrityError
  deriving DecidableEq, Repr

def ProviderUsage.nonneg (u : ProviderUsage) : Bool :=
  0 ≤ u.inputTokens ∧ 0 ≤ u.outputTokens ∧ 0 ≤ u.totalTokens ∧ 0 ≤ u.estimatedCost ∧
  0 ≤ u.retryCount

/-- No value of the payload is negative. -/
def BudgetFact.payloadValid : BudgetFact → Bool
  | .providerReserved usage wallTimeMs requestTimeoutMs =>
      usage.nonneg ∧ 0 ≤ wallTimeMs ∧ 0 ≤ requestTimeoutMs
  | .providerSettled usage providerLatencyMs => usage.nonneg ∧ 0 ≤ providerLatencyMs
  | .consumed _ _ => true

namespace LiveStore

/-- **`append_budget_event`**: an identical row is left alone, another one under its identifier is a
    conflict. -/
def appendBudgetEvent (e : BudgetEvent) (s : LiveStore) : Except LiveError Unit × LiveStore :=
  if ¬ e.fact.payloadValid then (.error .liveBudgetEventPayloadInvalid, s)
  else
    match s.budgetEvents.find? (·.budgetEventId = e.budgetEventId) with
    | some existing =>
        if existing = e then (.ok (), s) else (.error .liveStoreImmutableConflict, s)
    | none =>
        if e.attemptId ∉ s.attempts then (.error .liveStoreIntegrityError, s)
        else (.ok (), { s with budgetEvents := s.budgetEvents ++ [e] })

/-- The `budget_events` of `attempt_snapshot`. -/
def eventsOf (s : LiveStore) (attemptId : String) : List BudgetEvent :=
  s.budgetEvents.filter (·.attemptId = attemptId)

end LiveStore

/-! ## The fold -/

/-- The reservation an event is counted as; one without an invocation is not counted. -/
def BudgetEvent.reservation (e : BudgetEvent) : Option (String × ProviderUsage) :=
  match e.fact, e.invocationId with
  | .providerReserved usage _ _, some id => if id = "" then none else some (id, usage)
  | _, _ => none

def BudgetEvent.settlement (e : BudgetEvent) : Option (String × ProviderUsage) :=
  match e.fact, e.invocationId with
  | .providerSettled usage _, some id => if id = "" then none else some (id, usage)
  | _, _ => none

def BudgetEvent.count (resource : BudgetResource) (e : BudgetEvent) : Nat :=
  match e.fact with
  | .consumed r n => if r = resource then n else 0
  | _ => 0

/-- A dictionary filled in the order of the events: a later value takes the place of an earlier one. -/
def collect (pick : BudgetEvent → Option (String × ProviderUsage)) (events : List BudgetEvent) :
    List (String × ProviderUsage) :=
  (events.filterMap pick).foldl
    (fun d entry => Table.upsert Prod.fst (fun old new => (old.1, new.2)) entry d) []

/-- `d.get(key)`. -/
def usageFor (d : List (String × ProviderUsage)) (id : String) : Option ProviderUsage :=
  (d.find? (·.1 = id)).map (·.2)

/-- **What each reserved invocation is charged with**: its settlement, or else its reservation. -/
def chargesOf (events : List BudgetEvent) : List (String × ProviderUsage) :=
  (collect (·.reservation) events).map fun r =>
    (r.1, (usageFor (collect (·.settlement) events) r.1).getD r.2)

structure BudgetSnapshot where
  providerCallCount : Nat
  inputTokens : Int
  outputTokens : Int
  totalTokens : Int
  estimatedCost : ℚ
  actionCount : Nat
  toolCount : Nat
  noProgressCount : Nat
  retryCount : Int
  deriving DecidableEq

/-- The sum of one amount over all charges. -/
def totalOf {M : Type} [AddCommMonoid M] (amount : ProviderUsage → M) (events : List BudgetEvent) : M :=
  ((chargesOf events).map fun r => amount r.2).sum

def countOf (resource : BudgetResource) (events : List BudgetEvent) : Nat :=
  (events.map (·.count resource)).sum

/-- **`snapshot`**, on the attempt's events. -/
def snapshotOf (events : List BudgetEvent) : BudgetSnapshot :=
  { providerCallCount := (chargesOf events).length
    inputTokens := totalOf (·.inputTokens) events
    outputTokens := totalOf (·.outputTokens) events
    totalTokens := totalOf (·.totalTokens) events
    estimatedCost := round12 (totalOf (·.estimatedCost) events)
    actionCount := countOf .action events
    toolCount := countOf .tool events
    noProgressCount := countOf .noProgress events
    retryCount := totalOf (·.retryCount) events }

/-! ## The ledger -/

structure LiveBudgetLedger where
  attemptId : String
  profile : BudgetProfile
  price : PriceProfile

structure ProviderReservation where
  invocationId : String
  inputTokens : Int
  outputTokens : Int
  totalTokens : Int
  estimatedCost : ℚ
  wallTimeMs : Int
  requestTimeoutMs : Int
  deriving DecidableEq

/-- The calls of a `LiveBudgetLedger`. -/
inductive BudgetCall where
  | reserve (invocationId : String) (inputTokens outputTokens currentWallTimeMs : Int)
      (createdAt : String) (retryCount : Int)
  | settle (reservation : ProviderReservation)
      (inputTokens outputTokens providerLatencyMs retryCount : Int) (createdAt : String)
  | consumeAction (actionSha256 createdAt : String)
  | consumeTool (toolRequestId createdAt : String)
  | consumeNoProgress (logicalTurnId createdAt : String)
  deriving DecidableEq

namespace LiveBudgetLedger

/-- `_estimated_cost`. -/
def estimatedCost (l : LiveBudgetLedger) (inputTokens outputTokens : Int) : ℚ :=
  round12 ((inputTokens * l.price.inputPerMillionTokens +
    outputTokens * l.price.outputPerMillionTokens) / 1000000)

/-- What a call of this size uses. -/
def usage (l : LiveBudgetLedger) (inputTokens outputTokens retryCount : Int) : ProviderUsage :=
  { inputTokens, outputTokens, totalTokens := inputTokens + outputTokens,
    estimatedCost := l.estimatedCost inputTokens outputTokens, retryCount }

/-- The checks of `reserve_provider_call`. -/
def admits (l : LiveBudgetLedger) (current : BudgetSnapshot) (u : ProviderUsage) (wallTime : Int) :
    Bool :=
  current.providerCallCount + 1 ≤ l.profile.providerCallLimit ∧
  current.inputTokens + u.inputTokens ≤ l.profile.inputTokenLimit ∧
  current.outputTokens + u.outputTokens ≤ l.profile.outputTokenLimit ∧
  current.totalTokens + u.totalTokens ≤ l.profile.totalTokenLimit ∧
  wallTime ≤ l.profile.wallTimeMs ∧
  current.estimatedCost + u.estimatedCost ≤ l.profile.estimatedCostLimit ∧
  current.retryCount + u.retryCount ≤ l.profile.retryLimit

/-- The row of a reservation. -/
def reservedEvent (l : LiveBudgetLedger) (invocationId : String) (u : ProviderUsage)
    (wallTime : Int) (createdAt : String) : BudgetEvent :=
  { budgetEventId := stableIdentifier (.reserved invocationId), attemptId := l.attemptId,
    invocationId := some invocationId,
    fact := .providerReserved u wallTime l.profile.requestTimeoutMs, createdAt }

/-- The row of a settlement. -/
def settledEvent (l : LiveBudgetLedger) (invocationId : String) (u : ProviderUsage)
    (providerLatencyMs : Int) (createdAt : String) : BudgetEvent :=
  { budgetEventId := stableIdentifier (.settled invocationId), attemptId := l.attemptId,
    invocationId := some invocationId, fact := .providerSettled u providerLatencyMs, createdAt }

/-- The row of a consumption. -/
def consumedEvent (l : LiveBudgetLedger) (resource : BudgetResource) (naturalKey createdAt : String) :
    BudgetEvent :=
  { budgetEventId := stableIdentifier (.consumed resource l.attemptId naturalKey),
    attemptId := l.attemptId, invocationId := none, fact := .consumed resource 1, createdAt }

/-- **`reserve_provider_call`.** -/
def reserve (l : LiveBudgetLedger) (invocationId : String)
    (inputTokens outputTokens currentWallTimeMs : Int) (createdAt : String) (retryCount : Int)
    (s : LiveStore) : Except LiveError Unit × LiveStore :=
  if l.attemptId ∉ s.attempts then (.error .liveAttemptNotFound, s)
  else
    let u := l.usage inputTokens outputTokens retryCount
    let wallTime := currentWallTimeMs + l.profile.requestTimeoutMs
    if ¬ l.admits (snapshotOf (s.eventsOf l.attemptId)) u wallTime then
      (.error .liveBudgetExhausted, s)
    else s.appendBudgetEvent (l.reservedEvent invocationId u wallTime createdAt)

/-- A settlement uses more than the reservation it was given. -/
def exceeds (u : ProviderUsage) (r : ProviderReservation) : Bool :=
  u.inputTokens > r.inputTokens ∨ u.outputTokens > r.outputTokens ∨
  u.totalTokens > r.totalTokens ∨ u.estimatedCost > r.estimatedCost

/-- **`settle_provider_call`**: usage beyond the reservation is stored, then reported. -/
def settle (l : LiveBudgetLedger) (r : ProviderReservation)
    (inputTokens outputTokens providerLatencyMs retryCount : Int) (createdAt : String)
    (s : LiveStore) : Except LiveError Unit × LiveStore :=
  let u := l.usage inputTokens outputTokens retryCount
  match s.appendBudgetEvent (l.settledEvent r.invocationId u providerLatencyMs createdAt) with
  | (.error e, s') => (.error e, s')
  | (.ok (), s') =>
      if exceeds u r then (.error .providerUsageExceededReservation, s') else (.ok (), s')

/-- `_consume_count`. -/
def consume (l : LiveBudgetLedger) (resource : BudgetResource) (limit : Nat)
    (naturalKey createdAt : String) (s : LiveStore) : Except LiveError Unit × LiveStore :=
  if l.attemptId ∉ s.attempts then (.error .liveAttemptNotFound, s)
  else if countOf resource (s.eventsOf l.attemptId) + 1 > limit then (.error .liveBudgetExhausted, s)
  else s.appendBudgetEvent (l.consumedEvent resource naturalKey createdAt)

/-- One call. -/
def call (l : LiveBudgetLedger) (s : LiveStore) : BudgetCall → Except LiveError Unit × LiveStore
  | .reserve id inputTokens outputTokens wallTime createdAt retryCount =>
      l.reserve id inputTokens outputTokens wallTime createdAt retryCount s
  | .settle r inputTokens outputTokens latency retryCount createdAt =>
      l.settle r inputTokens outputTokens latency retryCount createdAt s
  | .consumeAction key createdAt => l.consume .action l.profile.actionLimit key createdAt s
  | .consumeTool key createdAt => l.consume .tool l.profile.toolLimit key createdAt s
  | .consumeNoProgress key createdAt =>
      l.consume .noProgress l.profile.noProgressLimit key createdAt s

end LiveBudgetLedger

/-- The store after calls of any ledgers. -/
def LiveStore.run (s : LiveStore) (calls : List (LiveBudgetLedger × BudgetCall)) : LiveStore :=
  calls.foldl (fun s c => (c.1.call s c.2).2) s

/-! ## The dictionaries of the fold -/

/-- Entries with different keys are kept as they come. -/
theorem foldl_upsert_eq {d : List (String × ProviderUsage)} (h : (d.map Prod.fst).Nodup) :
    d.foldl (fun d entry => Table.upsert Prod.fst (fun old new => (old.1, new.2)) entry d) [] = d := by
  induction d using List.reverseRecOn with
  | nil => rfl
  | append_singleton d entry ih =>
      rw [List.map_append, List.nodup_append] at h
      obtain ⟨hd, _, hfresh⟩ := h
      rw [List.foldl_append, ih hd, List.foldl_cons, List.foldl_nil]
      have hnew : ¬ d.any (fun x => x.1 = entry.1) = true := by
        intro hany
        obtain ⟨x, hx, hkey⟩ := List.any_eq_true.mp hany
        exact hfresh _ (List.mem_map_of_mem hx) entry.1 (by simp) (by simpa using hkey)
      unfold Table.upsert
      rw [if_neg hnew]

/-- The keys a dictionary is filled with are all different. -/
def KeysNodup (pick : BudgetEvent → Option (String × ProviderUsage)) (events : List BudgetEvent) :
    Prop :=
  ((events.filterMap pick).map Prod.fst).Nodup

theorem collect_eq {pick : BudgetEvent → Option (String × ProviderUsage)} {events : List BudgetEvent}
    (h : KeysNodup pick events) : collect pick events = events.filterMap pick :=
  foldl_upsert_eq h

theorem chargesOf_eq {events : List BudgetEvent} (hr : KeysNodup (·.reservation) events)
    (hs : KeysNodup (·.settlement) events) :
    chargesOf events = (events.filterMap (·.reservation)).map fun r =>
      (r.1, (usageFor (events.filterMap (·.settlement)) r.1).getD r.2) := by
  unfold chargesOf
  rw [collect_eq hr, collect_eq hs]

theorem usageFor_append (d : List (String × ProviderUsage)) (entry : String × ProviderUsage)
    (id : String) : usageFor (d ++ [entry]) id =
      (usageFor d id).or (if entry.1 = id then some entry.2 else none) := by
  unfold usageFor
  rw [List.find?_append]
  cases d.find? (·.1 = id) with
  | some x => rfl
  | none => by_cases h : entry.1 = id <;> simp [h]

theorem usageFor_mem {d : List (String × ProviderUsage)} {id : String} {u : ProviderUsage}
    (h : usageFor d id = some u) : (id, u) ∈ d := by
  obtain ⟨x, hx, rfl⟩ := Option.map_eq_some_iff.mp h
  have hkey := List.find?_some hx
  rw [decide_eq_true_eq] at hkey
  have hmem := List.mem_of_find?_eq_some hx
  rwa [← hkey]

/-! ## The invariant of the table -/

/-- An event's identifier is the one its invocation determines, and its cost is rounded. -/
def BudgetEvent.Own (e : BudgetEvent) : Prop :=
  match e.fact with
  | .providerReserved u _ _ => IsRounded u.estimatedCost ∧ ∃ id, e.invocationId = some id ∧
      e.budgetEventId = stableIdentifier (.reserved id)
  | .providerSettled u _ => IsRounded u.estimatedCost ∧ ∃ id, e.invocationId = some id ∧
      e.budgetEventId = stableIdentifier (.settled id)
  | .consumed _ _ => True

/-- **The invariant of the table**: identifiers are unique, and each event's is its own. -/
structure BudgetInv (s : LiveStore) : Prop where
  own : ∀ e ∈ s.budgetEvents, e.Own
  distinct : (s.budgetEvents.map (·.budgetEventId)).Nodup

theorem BudgetEvent.reservation_eq_some {e : BudgetEvent} {id : String} {u : ProviderUsage}
    (h : e.reservation = some (id, u)) : e.invocationId = some id ∧
      ∃ wallTime timeout, e.fact = .providerReserved u wallTime timeout := by
  unfold BudgetEvent.reservation at h
  split at h
  · next usage wallTime timeout id' hfact hid =>
      split at h
      · exact absurd h nofun
      · simp only [Option.some.injEq, Prod.mk.injEq] at h
        obtain ⟨rfl, rfl⟩ := h
        exact ⟨hid, wallTime, timeout, hfact⟩
  · exact absurd h nofun

theorem BudgetEvent.settlement_eq_some {e : BudgetEvent} {id : String} {u : ProviderUsage}
    (h : e.settlement = some (id, u)) : e.invocationId = some id ∧
      ∃ latency, e.fact = .providerSettled u latency := by
  unfold BudgetEvent.settlement at h
  split at h
  · next usage latency id' hfact hid =>
      split at h
      · exact absurd h nofun
      · simp only [Option.some.injEq, Prod.mk.injEq] at h
        obtain ⟨rfl, rfl⟩ := h
        exact ⟨hid, latency, hfact⟩
  · exact absurd h nofun

/-- Events with one invocation and one kind have one identifier. -/
theorem BudgetEvent.Own.reservation_id {e : BudgetEvent} {id : String} {u : ProviderUsage}
    (h : e.Own) (hr : e.reservation = some (id, u)) :
    e.budgetEventId = stableIdentifier (.reserved id) ∧ IsRounded u.estimatedCost := by
  obtain ⟨hid, _, _, hfact⟩ := BudgetEvent.reservation_eq_some hr
  simp only [BudgetEvent.Own, hfact] at h
  obtain ⟨hcost, id', hid', hevent⟩ := h
  rw [hid, Option.some.injEq] at hid'
  exact ⟨hid' ▸ hevent, hcost⟩

theorem BudgetEvent.Own.settlement_id {e : BudgetEvent} {id : String} {u : ProviderUsage}
    (h : e.Own) (hs : e.settlement = some (id, u)) :
    e.budgetEventId = stableIdentifier (.settled id) ∧ IsRounded u.estimatedCost := by
  obtain ⟨hid, _, hfact⟩ := BudgetEvent.settlement_eq_some hs
  simp only [BudgetEvent.Own, hfact] at h
  obtain ⟨hcost, id', hid', hevent⟩ := h
  rw [hid, Option.some.injEq] at hid'
  exact ⟨hid' ▸ hevent, hcost⟩

/-- What is picked from events with different identifiers has different keys. -/
theorem keysNodup_of_ids {pick : BudgetEvent → Option (String × ProviderUsage)}
    (material : String → BudgetEventMaterial) {events : List BudgetEvent}
    (hids : (events.map (·.budgetEventId)).Nodup)
    (hpick : ∀ e ∈ events, ∀ entry, pick e = some entry →
      e.budgetEventId = stableIdentifier (material entry.1)) : KeysNodup pick events := by
  unfold KeysNodup
  induction events with
  | nil => exact List.nodup_nil
  | cons e events ih =>
      rw [List.map_cons, List.nodup_cons] at hids
      have htail := ih hids.2 fun x hx => hpick x (List.mem_cons_of_mem _ hx)
      cases he : pick e with
      | none => rwa [List.filterMap_cons_none he]
      | some entry =>
          rw [List.filterMap_cons_some he, List.map_cons, List.nodup_cons]
          refine ⟨fun hmem => hids.1 ?_, htail⟩
          obtain ⟨entry', hentry', hkey⟩ := List.mem_map.mp hmem
          obtain ⟨x, hx, hxe⟩ := List.mem_filterMap.mp hentry'
          rw [hpick e (by simp) entry he, ← hkey, ← hpick x (List.mem_cons_of_mem _ hx) entry' hxe]
          exact List.mem_map_of_mem hx

namespace BudgetInv

variable {s : LiveStore} {attemptId : String}

theorem eventsOf_own (h : BudgetInv s) : ∀ e ∈ s.eventsOf attemptId, e.Own :=
  fun e he => h.own e (List.mem_of_mem_filter he)

theorem eventsOf_ids (h : BudgetInv s) : ((s.eventsOf attemptId).map (·.budgetEventId)).Nodup :=
  h.distinct.sublist (List.filter_sublist.map _)

theorem reservations (h : BudgetInv s) : KeysNodup (·.reservation) (s.eventsOf attemptId) :=
  keysNodup_of_ids .reserved h.eventsOf_ids
    fun e he _ hr => ((h.eventsOf_own e he).reservation_id hr).1

theorem settlements (h : BudgetInv s) : KeysNodup (·.settlement) (s.eventsOf attemptId) :=
  keysNodup_of_ids .settled h.eventsOf_ids
    fun e he _ hs => ((h.eventsOf_own e he).settlement_id hs).1

end BudgetInv

/-! ## One call -/

/-- What an append leaves: the store as it was, or one more event under a new identifier. -/
theorem LiveStore.appendBudgetEvent_cases (e : BudgetEvent) (s : LiveStore) :
    (s.appendBudgetEvent e).2 = s ∨ (s.appendBudgetEvent e).1 = .ok () ∧
      (∀ x ∈ s.budgetEvents, x.budgetEventId ≠ e.budgetEventId) ∧
      (s.appendBudgetEvent e).2 = { s with budgetEvents := s.budgetEvents ++ [e] } := by
  unfold appendBudgetEvent
  split
  · exact Or.inl rfl
  · split
    · split <;> exact Or.inl rfl
    · next hnone =>
        split
        · exact Or.inl rfl
        · refine Or.inr ⟨rfl, fun x hx hid => ?_, rfl⟩
          have hkey := List.find?_eq_none.mp hnone x hx
          simp [hid] at hkey

/-- The limit of a resource. -/
def BudgetProfile.limitOf (p : BudgetProfile) : BudgetResource → Nat
  | .action => p.actionLimit
  | .tool => p.toolLimit
  | .noProgress => p.noProgressLimit

/-- Why an event is appended. -/
inductive Appends (l : LiveBudgetLedger) (s : LiveStore) : BudgetEvent → Prop
  | reserved {id createdAt : String} {inputTokens outputTokens retryCount wallTime : Int}
      (admitted : l.admits (snapshotOf (s.eventsOf l.attemptId))
        (l.usage inputTokens outputTokens retryCount) wallTime = true) :
      Appends l s
        (l.reservedEvent id (l.usage inputTokens outputTokens retryCount) wallTime createdAt)
  | settled {id createdAt : String} {inputTokens outputTokens retryCount latency : Int} :
      Appends l s
        (l.settledEvent id (l.usage inputTokens outputTokens retryCount) latency createdAt)
  | consumed {resource : BudgetResource} {naturalKey createdAt : String}
      (below : countOf resource (s.eventsOf l.attemptId) + 1 ≤ l.profile.limitOf resource) :
      Appends l s (l.consumedEvent resource naturalKey createdAt)

/-- **What one call can do**: nothing, or append one event; when it raises it appends none, unless it
    reports a settlement beyond its reservation. -/
theorem LiveBudgetLedger.call_cases (l : LiveBudgetLedger) (s : LiveStore) (c : BudgetCall) :
    (l.call s c).2 = s ∨
      (∃ e, Appends l s e ∧ (∀ x ∈ s.budgetEvents, x.budgetEventId ≠ e.budgetEventId) ∧
        (l.call s c).2 = { s with budgetEvents := s.budgetEvents ++ [e] }) ∧
      ((l.call s c).1 = .ok () ∨ ∃ r inputTokens outputTokens latency retryCount createdAt,
        c = .settle r inputTokens outputTokens latency retryCount createdAt ∧
        exceeds (l.usage inputTokens outputTokens retryCount) r = true) := by
  have happend : ∀ {e : BudgetEvent} {x : Except LiveError Unit × LiveStore}, Appends l s e →
      x = s.appendBudgetEvent e → x.2 = s ∨
        (∃ e, Appends l s e ∧ (∀ x ∈ s.budgetEvents, x.budgetEventId ≠ e.budgetEventId) ∧
          x.2 = { s with budgetEvents := s.budgetEvents ++ [e] }) ∧ x.1 = .ok () := by
    rintro e x he rfl
    rcases s.appendBudgetEvent_cases e with h | ⟨hok, hfresh, hs⟩
    · exact Or.inl h
    · exact Or.inr ⟨⟨e, he, hfresh, hs⟩, hok⟩
  have hconsume : ∀ (resource : BudgetResource) (key createdAt : String),
      (l.consume resource (l.profile.limitOf resource) key createdAt s).2 = s ∨
        (∃ e, Appends l s e ∧ (∀ x ∈ s.budgetEvents, x.budgetEventId ≠ e.budgetEventId) ∧
          (l.consume resource (l.profile.limitOf resource) key createdAt s).2 =
            { s with budgetEvents := s.budgetEvents ++ [e] }) ∧
        (l.consume resource (l.profile.limitOf resource) key createdAt s).1 = .ok () := by
    intro resource key createdAt
    unfold consume
    split
    · exact Or.inl rfl
    · split
      · exact Or.inl rfl
      · next hbelow => exact happend (.consumed (not_lt.mp hbelow)) rfl
  cases c with
  | reserve invocationId inputTokens outputTokens wallTime createdAt retryCount =>
      have hcall : l.call s (.reserve invocationId inputTokens outputTokens wallTime createdAt
          retryCount) =
          l.reserve invocationId inputTokens outputTokens wallTime createdAt retryCount s := rfl
      rw [hcall]
      unfold reserve
      split
      · exact Or.inl rfl
      · dsimp only
        split
        · exact Or.inl rfl
        · next hadmits =>
            exact (happend (.reserved (not_not.mp hadmits)) rfl).imp id (And.imp id Or.inl)
  | settle r inputTokens outputTokens latency retryCount createdAt =>
      have hcall : l.call s (.settle r inputTokens outputTokens latency retryCount createdAt) =
          l.settle r inputTokens outputTokens latency retryCount createdAt s := rfl
      rw [hcall]
      unfold settle
      dsimp only
      have hcases := s.appendBudgetEvent_cases
        (l.settledEvent r.invocationId (l.usage inputTokens outputTokens retryCount) latency createdAt)
      split
      · next e s' heq =>
          rw [heq] at hcases
          rcases hcases with h | ⟨h, _⟩
          · exact Or.inl h
          · exact absurd h nofun
      · next s' heq =>
          rw [heq] at hcases
          split
          · next hexceeds =>
              rcases hcases with h | ⟨_, hfresh, h⟩
              · exact Or.inl h
              · exact Or.inr ⟨⟨_, .settled, hfresh, h⟩,
                  Or.inr ⟨_, _, _, _, _, _, rfl, hexceeds⟩⟩
          · rcases hcases with h | ⟨_, hfresh, h⟩
            · exact Or.inl h
            · exact Or.inr ⟨⟨_, .settled, hfresh, h⟩, Or.inl rfl⟩
  | consumeAction key createdAt =>
      exact (hconsume .action key createdAt).imp id (And.imp id Or.inl)
  | consumeTool key createdAt => exact (hconsume .tool key createdAt).imp id (And.imp id Or.inl)
  | consumeNoProgress key createdAt =>
      exact (hconsume .noProgress key createdAt).imp id (And.imp id Or.inl)

theorem Appends.own {l : LiveBudgetLedger} {s : LiveStore} {e : BudgetEvent} (h : Appends l s e) :
    e.Own := by
  cases h with
  | reserved => exact ⟨isRounded_round12 _, _, rfl, rfl⟩
  | settled => exact ⟨isRounded_round12 _, _, rfl, rfl⟩
  | consumed => exact trivial

theorem Appends.attemptId {l : LiveBudgetLedger} {s : LiveStore} {e : BudgetEvent}
    (h : Appends l s e) : e.attemptId = l.attemptId := by
  cases h <;> rfl

theorem BudgetInv.append {s : LiveStore} {e : BudgetEvent} (h : BudgetInv s) (he : e.Own)
    (hfresh : ∀ x ∈ s.budgetEvents, x.budgetEventId ≠ e.budgetEventId) :
    BudgetInv { s with budgetEvents := s.budgetEvents ++ [e] } where
  own := by
    intro x hx
    rcases List.mem_append.mp hx with hx | hx
    · exact h.own x hx
    · exact List.mem_singleton.mp hx ▸ he
  distinct := by
    show ((s.budgetEvents ++ [e]).map _).Nodup
    rw [List.map_append, List.nodup_append]
    refine ⟨h.distinct, List.nodup_singleton _, fun a ha b hb => ?_⟩
    obtain ⟨x, hx, rfl⟩ := List.mem_map.mp ha
    rw [List.mem_singleton.mp hb]
    exact hfresh x hx

theorem BudgetInv.call {s : LiveStore} (h : BudgetInv s) (l : LiveBudgetLedger) (c : BudgetCall) :
    BudgetInv (l.call s c).2 := by
  rcases l.call_cases s c with hs | ⟨⟨e, he, hfresh, hs⟩, _⟩
  · exact hs.symm ▸ h
  · exact hs.symm ▸ h.append he.own hfresh

/-! ## Totals -/

/-- A settlement does not exceed a reservation, in any amount. -/
def ProviderUsage.Within (u r : ProviderUsage) : Prop :=
  u.inputTokens ≤ r.inputTokens ∧ u.outputTokens ≤ r.outputTokens ∧
  u.totalTokens ≤ r.totalTokens ∧ u.estimatedCost ≤ r.estimatedCost ∧ u.retryCount ≤ r.retryCount

instance (u r : ProviderUsage) : Decidable (u.Within r) := inferInstanceAs (Decidable (_ ∧ _))

/-- No settlement exceeds its reservation. -/
def SettlesWithin (events : List BudgetEvent) : Prop :=
  ∀ r ∈ events.filterMap (·.reservation), ∀ u ∈ events.filterMap (·.settlement),
    u.1 = r.1 → u.2.Within r.2

instance (events : List BudgetEvent) : Decidable (SettlesWithin events) :=
  inferInstanceAs (Decidable (∀ _ ∈ _, _))

theorem SettlesWithin.sublist {events events' : List BudgetEvent} (h : SettlesWithin events')
    (hsub : List.Sublist events events') : SettlesWithin events :=
  fun r hr u hu => h r ((hsub.filterMap _).subset hr) u ((hsub.filterMap _).subset hu)

section Totals

variable {events : List BudgetEvent} {e : BudgetEvent} {M : Type} [AddCommMonoid M] [PartialOrder M]
  [IsOrderedAddMonoid M] {amount : ProviderUsage → M}

/-- An event that is neither a reservation nor a settlement charges nothing. -/
theorem chargesOf_append_other (hr : e.reservation = none) (hs : e.settlement = none) :
    chargesOf (events ++ [e]) = chargesOf events := by
  simp [chargesOf, collect, List.filterMap_append, hr, hs]

/-- **A reservation** adds at most what it reserves. -/
theorem totalOf_append_reservation {id : String} {u : ProviderUsage}
    (hamount : ∀ u r : ProviderUsage, u.Within r → amount u ≤ amount r)
    (hkr : KeysNodup (·.reservation) (events ++ [e])) (hks : KeysNodup (·.settlement) (events ++ [e]))
    (hr : e.reservation = some (id, u)) (hs : e.settlement = none)
    (hwithin : SettlesWithin (events ++ [e])) :
    totalOf amount (events ++ [e]) ≤ totalOf amount events + amount u := by
  have hkr' : KeysNodup (·.reservation) events :=
    hkr.sublist (((List.sublist_append_left _ _).filterMap _).map _)
  have hks' : KeysNodup (·.settlement) events :=
    hks.sublist (((List.sublist_append_left _ _).filterMap _).map _)
  have hset : (events ++ [e]).filterMap (·.settlement) = events.filterMap (·.settlement) := by
    simp [List.filterMap_append, hs]
  have hres : (events ++ [e]).filterMap (·.reservation) =
      events.filterMap (·.reservation) ++ [(id, u)] := by
    simp [List.filterMap_append, hr]
  have hcharge : amount ((usageFor (events.filterMap (·.settlement)) id).getD u) ≤ amount u := by
    cases hsettled : usageFor (events.filterMap (·.settlement)) id with
    | none => exact le_rfl
    | some v =>
        refine hamount v u (hwithin (id, u) ?_ (id, v) ?_ rfl)
        · rw [hres]
          simp
        · rw [hset]
          exact usageFor_mem hsettled
  unfold totalOf
  rw [chargesOf_eq hkr hks, chargesOf_eq hkr' hks', hset, hres]
  simp only [List.map_append, List.sum_append, List.map_cons, List.map_nil, List.sum_cons,
    List.sum_nil, add_zero]
  exact add_le_add_right hcharge _

/-- **A settlement** adds nothing. -/
theorem totalOf_append_settlement {id : String} {u : ProviderUsage}
    (hamount : ∀ u r : ProviderUsage, u.Within r → amount u ≤ amount r)
    (hkr : KeysNodup (·.reservation) (events ++ [e])) (hks : KeysNodup (·.settlement) (events ++ [e]))
    (hr : e.reservation = none) (hs : e.settlement = some (id, u))
    (hwithin : SettlesWithin (events ++ [e])) :
    totalOf amount (events ++ [e]) ≤ totalOf amount events := by
  have hkr' : KeysNodup (·.reservation) events :=
    hkr.sublist (((List.sublist_append_left _ _).filterMap _).map _)
  have hks' : KeysNodup (·.settlement) events :=
    hks.sublist (((List.sublist_append_left _ _).filterMap _).map _)
  have hset : (events ++ [e]).filterMap (·.settlement) =
      events.filterMap (·.settlement) ++ [(id, u)] := by
    simp [List.filterMap_append, hs]
  have hres : (events ++ [e]).filterMap (·.reservation) = events.filterMap (·.reservation) := by
    simp [List.filterMap_append, hr]
  unfold totalOf
  rw [chargesOf_eq hkr hks, chargesOf_eq hkr' hks', hres, List.map_map, List.map_map]
  refine List.sum_le_sum fun r hrmem => ?_
  show amount ((usageFor _ r.1).getD r.2) ≤ amount ((usageFor _ r.1).getD r.2)
  rw [hset, usageFor_append]
  cases hsettled : usageFor (events.filterMap (·.settlement)) r.1 with
  | some v => exact le_rfl
  | none =>
      by_cases hid : id = r.1
      · -- the charge falls from the reservation to the settlement
        rw [if_pos hid, Option.none_or, Option.getD_some, Option.getD_none]
        refine hamount u r.2 (hwithin r ?_ (id, u) ?_ hid)
        · rw [hres]
          exact hrmem
        · rw [hset]
          simp
      · rw [if_neg hid]
        exact le_rfl

end Totals

/-! ## The limits -/

/-- A snapshot within the limits of a profile. -/
structure BudgetSnapshot.Within (b : BudgetSnapshot) (p : BudgetProfile) : Prop where
  providerCalls : b.providerCallCount ≤ p.providerCallLimit
  inputTokens : b.inputTokens ≤ p.inputTokenLimit
  outputTokens : b.outputTokens ≤ p.outputTokenLimit
  totalTokens : b.totalTokens ≤ p.totalTokenLimit
  estimatedCost : b.estimatedCost ≤ p.estimatedCostLimit
  actions : b.actionCount ≤ p.actionLimit
  tools : b.toolCount ≤ p.toolLimit
  noProgress : b.noProgressCount ≤ p.noProgressLimit
  retries : b.retryCount ≤ p.retryLimit

theorem within_nil (p : BudgetProfile) : (snapshotOf []).Within p where
  providerCalls := Nat.zero_le _
  inputTokens := Int.natCast_nonneg _
  outputTokens := Int.natCast_nonneg _
  totalTokens := Int.natCast_nonneg _
  estimatedCost := by
    have hzero : (snapshotOf []).estimatedCost = 0 :=
      IsRounded.round12_eq (q := 0) ⟨0, by simp⟩
    rw [hzero]
    exact p.estimatedCostLimit_nonneg
  actions := Nat.zero_le _
  tools := Nat.zero_le _
  noProgress := Nat.zero_le _
  retries := Int.natCast_nonneg _

theorem countOf_append (resource : BudgetResource) (events : List BudgetEvent) (e : BudgetEvent) :
    countOf resource (events ++ [e]) = countOf resource events + e.count resource := by
  simp [countOf]

/-- What an attempt has spent is rounded, since every charge is. -/
theorem BudgetInv.snapshot_cost {s : LiveStore} (h : BudgetInv s) (attemptId : String) :
    (snapshotOf (s.eventsOf attemptId)).estimatedCost =
      totalOf (·.estimatedCost) (s.eventsOf attemptId) := by
  refine IsRounded.round12_eq (isRounded_sum fun q hq => ?_)
  obtain ⟨r, hr, rfl⟩ := List.mem_map.mp hq
  rw [chargesOf_eq h.reservations h.settlements] at hr
  obtain ⟨entry, hentry, rfl⟩ := List.mem_map.mp hr
  show IsRounded ((usageFor _ entry.1).getD entry.2).estimatedCost
  cases hsettled : usageFor ((s.eventsOf attemptId).filterMap (·.settlement)) entry.1 with
  | none =>
      obtain ⟨e, he, hres⟩ := List.mem_filterMap.mp hentry
      exact ((h.eventsOf_own e he).reservation_id hres).2
  | some u =>
      obtain ⟨e, he, hset⟩ := List.mem_filterMap.mp (usageFor_mem hsettled)
      exact ((h.eventsOf_own e he).settlement_id hset).2

/-- The number of charges is the number of reservations. -/
theorem length_chargesOf {events : List BudgetEvent} (h : KeysNodup (·.reservation) events) :
    (chargesOf events).length = (events.filterMap (·.reservation)).length := by
  unfold chargesOf
  rw [collect_eq h, List.length_map]

/-- **One event keeps every total within its limit.** -/
theorem Appends.within {l : LiveBudgetLedger} {s : LiveStore} {e : BudgetEvent}
    (h : Appends l s e) (hs : BudgetInv s)
    (hs' : BudgetInv { s with budgetEvents := s.budgetEvents ++ [e] })
    (hwithin : SettlesWithin (s.eventsOf l.attemptId ++ [e]))
    (hb : (snapshotOf (s.eventsOf l.attemptId)).Within l.profile) :
    (snapshotOf (s.eventsOf l.attemptId ++ [e])).Within l.profile := by
  have hevents : LiveStore.eventsOf { s with budgetEvents := s.budgetEvents ++ [e] } l.attemptId =
      s.eventsOf l.attemptId ++ [e] := by
    simp [LiveStore.eventsOf, List.filter_append, h.attemptId]
  have hkr : KeysNodup (·.reservation) (s.eventsOf l.attemptId ++ [e]) := hevents ▸ hs'.reservations
  have hks : KeysNodup (·.settlement) (s.eventsOf l.attemptId ++ [e]) := hevents ▸ hs'.settlements
  have hcost := hs.snapshot_cost l.attemptId
  have hcost' := hs'.snapshot_cost l.attemptId
  rw [hevents] at hcost'
  have hlength := length_chargesOf hkr
  rw [List.filterMap_append, List.length_append, ← length_chargesOf hs.reservations] at hlength
  cases h with
  | @reserved id createdAt inputTokens outputTokens retryCount wallTime admitted =>
      simp only [LiveBudgetLedger.admits, decide_eq_true_eq] at admitted
      obtain ⟨hcalls, hinput, houtput, htotal, _, hprice, hretry⟩ := admitted
      set u := l.usage inputTokens outputTokens retryCount
      have hcount : ∀ resource, countOf resource
          (s.eventsOf l.attemptId ++ [l.reservedEvent id u wallTime createdAt]) =
            countOf resource (s.eventsOf l.attemptId) := fun resource => by
        rw [countOf_append]
        rfl
      by_cases hid : id = ""
      · -- a reservation without an invocation is not counted
        have hsame : chargesOf (s.eventsOf l.attemptId ++ [l.reservedEvent id u wallTime createdAt]) =
            chargesOf (s.eventsOf l.attemptId) :=
          chargesOf_append_other (by simp [LiveBudgetLedger.reservedEvent, BudgetEvent.reservation, hid])
            rfl
        have hsnapshot : snapshotOf
            (s.eventsOf l.attemptId ++ [l.reservedEvent id u wallTime createdAt]) =
            snapshotOf (s.eventsOf l.attemptId) := by
          simp only [snapshotOf, totalOf, hsame, hcount]
        rw [hsnapshot]
        exact hb
      · have hr : (l.reservedEvent id u wallTime createdAt).reservation = some (id, u) := by
          simp [LiveBudgetLedger.reservedEvent, BudgetEvent.reservation, hid]
        have hadd : ∀ {M : Type} [AddCommMonoid M] [PartialOrder M] [IsOrderedAddMonoid M]
            (amount : ProviderUsage → M),
            (∀ u r : ProviderUsage, u.Within r → amount u ≤ amount r) →
            totalOf amount (s.eventsOf l.attemptId ++ [l.reservedEvent id u wallTime createdAt]) ≤
              totalOf amount (s.eventsOf l.attemptId) + amount u :=
          fun amount hamount => totalOf_append_reservation hamount hkr hks hr rfl hwithin
        have hone : ([l.reservedEvent id u wallTime createdAt].filterMap (·.reservation)).length = 1 := by
          simp [hr]
        rw [hcost] at hprice
        constructor
        · show (chargesOf _).length ≤ _
          have hcalls' : (chargesOf (s.eventsOf l.attemptId)).length + 1 ≤ _ := hcalls
          omega
        · exact (hadd (·.inputTokens) fun _ _ h => h.1).trans hinput
        · exact (hadd (·.outputTokens) fun _ _ h => h.2.1).trans houtput
        · exact (hadd (·.totalTokens) fun _ _ h => h.2.2.1).trans htotal
        · rw [hcost']
          exact (hadd (·.estimatedCost) fun _ _ h => h.2.2.2.1).trans hprice
        · exact (hcount .action).trans_le hb.actions
        · exact (hcount .tool).trans_le hb.tools
        · exact (hcount .noProgress).trans_le hb.noProgress
        · exact (hadd (·.retryCount) fun _ _ h => h.2.2.2.2).trans hretry
  | @settled id createdAt inputTokens outputTokens retryCount latency =>
      set u := l.usage inputTokens outputTokens retryCount
      have hcount : ∀ resource, countOf resource
          (s.eventsOf l.attemptId ++ [l.settledEvent id u latency createdAt]) =
            countOf resource (s.eventsOf l.attemptId) := fun resource => by
        rw [countOf_append]
        rfl
      have hle : ∀ {M : Type} [AddCommMonoid M] [PartialOrder M] [IsOrderedAddMonoid M]
          (amount : ProviderUsage → M),
          (∀ u r : ProviderUsage, u.Within r → amount u ≤ amount r) →
          totalOf amount (s.eventsOf l.attemptId ++ [l.settledEvent id u latency createdAt]) ≤
            totalOf amount (s.eventsOf l.attemptId) := by
        intro M _ _ _ amount hamount
        by_cases hid : id = ""
        · refine le_of_eq ?_
          unfold totalOf
          rw [chargesOf_append_other rfl
            (by simp [LiveBudgetLedger.settledEvent, BudgetEvent.settlement, hid])]
        · have hsettled : (l.settledEvent id u latency createdAt).settlement = some (id, u) := by
            simp [LiveBudgetLedger.settledEvent, BudgetEvent.settlement, hid]
          exact totalOf_append_settlement hamount hkr hks rfl hsettled hwithin
      have hnone : ([l.settledEvent id u latency createdAt].filterMap (·.reservation)).length = 0 := rfl
      constructor
      · show (chargesOf _).length ≤ _
        have hcalls : (chargesOf (s.eventsOf l.attemptId)).length ≤ _ := hb.providerCalls
        omega
      · exact (hle (·.inputTokens) fun _ _ h => h.1).trans hb.inputTokens
      · exact (hle (·.outputTokens) fun _ _ h => h.2.1).trans hb.outputTokens
      · exact (hle (·.totalTokens) fun _ _ h => h.2.2.1).trans hb.totalTokens
      · rw [hcost']
        exact (hle (·.estimatedCost) fun _ _ h => h.2.2.2.1).trans (hcost ▸ hb.estimatedCost)
      · exact (hcount .action).trans_le hb.actions
      · exact (hcount .tool).trans_le hb.tools
      · exact (hcount .noProgress).trans_le hb.noProgress
      · exact (hle (·.retryCount) fun _ _ h => h.2.2.2.2).trans hb.retries
  | @consumed resource naturalKey createdAt below =>
      set x := l.consumedEvent resource naturalKey createdAt
      have hsame : chargesOf (s.eventsOf l.attemptId ++ [x]) = chargesOf (s.eventsOf l.attemptId) :=
        chargesOf_append_other rfl rfl
      have htotals : ∀ {M : Type} [AddCommMonoid M] (amount : ProviderUsage → M),
          totalOf amount (s.eventsOf l.attemptId ++ [x]) =
            totalOf amount (s.eventsOf l.attemptId) := fun amount => by
        unfold totalOf
        rw [hsame]
      -- only the count of this one resource grows
      have hcount : ∀ r, countOf r (s.eventsOf l.attemptId) ≤ l.profile.limitOf r →
          countOf r (s.eventsOf l.attemptId ++ [x]) ≤ l.profile.limitOf r := by
        intro r hr
        rw [countOf_append]
        by_cases heq : resource = r
        · have hx : x.count r = 1 := if_pos heq
          rw [hx, ← heq]
          exact below
        · have hx : x.count r = 0 := if_neg heq
          rw [hx]
          exact hr
      constructor
      · show (chargesOf _).length ≤ _
        rw [hsame]
        exact hb.providerCalls
      · exact (htotals _).trans_le hb.inputTokens
      · exact (htotals _).trans_le hb.outputTokens
      · exact (htotals _).trans_le hb.totalTokens
      · rw [hcost', htotals]
        exact hcost ▸ hb.estimatedCost
      · exact hcount .action hb.actions
      · exact hcount .tool hb.tools
      · exact hcount .noProgress hb.noProgress
      · exact (htotals _).trans_le hb.retries

/-! ## Runs -/

theorem LiveStore.run_append_one (s : LiveStore) (calls : List (LiveBudgetLedger × BudgetCall))
    (c : LiveBudgetLedger × BudgetCall) :
    s.run (calls ++ [c]) = (c.1.call (s.run calls) c.2).2 := by
  simp [LiveStore.run]

theorem BudgetInv.run (attempts : List String) (calls : List (LiveBudgetLedger × BudgetCall)) :
    BudgetInv (LiveStore.run { attempts } calls) := by
  induction calls using List.reverseRecOn with
  | nil => exact ⟨fun e he => (nomatch he), List.nodup_nil⟩
  | append_singleton calls c ih =>
      rw [LiveStore.run_append_one]
      exact ih.call c.1 c.2

/-- **No limit is exceeded** in any run, as long as no settlement exceeds its reservation. -/
theorem within_run {l : LiveBudgetLedger} {attempts : List String}
    {calls : List (LiveBudgetLedger × BudgetCall)}
    (hown : ∀ c ∈ calls, c.1.attemptId = l.attemptId → c.1 = l)
    (hsettles : SettlesWithin ((LiveStore.run { attempts } calls).eventsOf l.attemptId)) :
    (snapshotOf ((LiveStore.run { attempts } calls).eventsOf l.attemptId)).Within l.profile := by
  induction calls using List.reverseRecOn with
  | nil => exact within_nil l.profile
  | append_singleton calls c ih =>
      have hinv := BudgetInv.run attempts calls
      have hgrow := ih fun d hd => hown d (List.mem_append_left _ hd)
      rw [LiveStore.run_append_one] at hsettles ⊢
      rcases c.1.call_cases (LiveStore.run { attempts } calls) c.2 with hs | ⟨⟨e, he, hfresh, hs⟩, _⟩
      · rw [hs] at hsettles ⊢
        exact hgrow hsettles
      · rw [hs] at hsettles ⊢
        simp only [LiveStore.eventsOf, List.filter_append] at hsettles ⊢
        by_cases hattempt : e.attemptId = l.attemptId
        · have hc : c.1 = l := hown c (by simp) (he.attemptId.symm.trans hattempt)
          rw [hc] at he
          rw [List.filter_cons_of_pos (by simpa using hattempt), List.filter_nil] at hsettles ⊢
          exact he.within hinv (hinv.append he.own hfresh) hsettles
            (hgrow (hsettles.sublist (List.sublist_append_left _ _)))
        · rw [List.filter_cons_of_neg (by simpa using hattempt), List.filter_nil,
            List.append_nil] at hsettles ⊢
          exact hgrow hsettles

/-- An invocation whose outcome is unknown is charged with its full reservation. -/
theorem BudgetInv.unknown_charged {s : LiveStore} (h : BudgetInv s) {attemptId id : String}
    {e : BudgetEvent} {r : ProviderUsage} {wallTime timeout : Int} (he : e ∈ s.eventsOf attemptId)
    (hfact : e.fact = .providerReserved r wallTime timeout) (hid : e.invocationId = some id)
    (hne : id ≠ "")
    (hunknown : ∀ x ∈ s.eventsOf attemptId, ∀ u latency, x.fact = .providerSettled u latency →
      x.invocationId ≠ some id) : (id, r) ∈ chargesOf (s.eventsOf attemptId) := by
  rw [chargesOf_eq h.reservations h.settlements]
  have hres : e.reservation = some (id, r) := by simp [BudgetEvent.reservation, hfact, hid, hne]
  have hunsettled : usageFor ((s.eventsOf attemptId).filterMap (·.settlement)) id = none := by
    cases husage : usageFor ((s.eventsOf attemptId).filterMap (·.settlement)) id with
    | none => rfl
    | some u =>
        obtain ⟨x, hx, hset⟩ := List.mem_filterMap.mp (usageFor_mem husage)
        obtain ⟨hxid, latency, hxfact⟩ := BudgetEvent.settlement_eq_some hset
        exact absurd hxid (hunknown x hx u latency hxfact)
  refine List.mem_map.mpr ⟨(id, r), List.mem_filterMap.mpr ⟨e, he, hres⟩, ?_⟩
  rw [hunsettled]
  rfl

/-- The profile of the recovery tests: one retry, two calls. -/
def exampleBudget : LiveBudgetLedger where
  attemptId := "attempt"
  profile :=
    { providerCallLimit := 2, inputTokenLimit := 100, outputTokenLimit := 40, totalTokenLimit := 140,
      wallTimeMs := 10000, requestTimeoutMs := 1000, actionLimit := 2, toolLimit := 1,
      noProgressLimit := 1, retryLimit := 1, estimatedCostLimit := 1,
      estimatedCostLimit_nonneg := by norm_num }
  price := ⟨1, 2⟩

/-- Two calls, of which the first is settled and the second is not, and an action. -/
def exampleCalls : List (LiveBudgetLedger × BudgetCall) :=
  [ (exampleBudget, .reserve "first" 30 20 0 "now" 0),
    (exampleBudget, .settle ⟨"first", 30, 20, 50, 70 / 1000000, 1000, 1000⟩ 20 10 50 0 "later"),
    (exampleBudget, .reserve "second" 30 20 0 "now" 1),
    (exampleBudget, .consumeAction "action" "now") ]

/-- The reservation of the first call of `exampleCalls`. -/
def exampleReservation : ProviderReservation :=
  ⟨"first", 30, 20, 50, 70 / 1000000, 1000, 1000⟩

/-- Two open reservations, of which the first is about to be settled. -/
def exampleStore : LiveStore :=
  LiveStore.run { attempts := ["attempt"] }
    [ (exampleBudget, .reserve "first" 30 20 0 "now" 0),
      (exampleBudget, .reserve "second" 30 20 0 "now" 1) ]

/-- A reservation without an invocation identifier. -/
def exampleUnnamed : LiveStore :=
  LiveStore.run { attempts := ["attempt"] } [(exampleBudget, .reserve "" 30 20 0 "now" 0)]

end WeFlow
