import WeFlow.Ledger.Rebuild

/-!
# `Cursors` — the conversation cursors are the ones the receipts determine

An intake advances one cursor in place; `_validate_cursors` recomputes all of them from the receipts,
sorted by conversation. Both sides are summarised per conversation by `top`, the largest sequence seen.
On the synthetic channel the sequences of a conversation are `1, 2, …` in insertion order, which is what
makes the sorted replay contiguous as well.
-/

namespace WeFlow

open Txn

/-- The largest number of a list, if there is one. -/
def top (ns : List Nat) : Option Nat :=
  ns.foldl (fun m n => some (max (m.getD 0) n)) none

@[simp] theorem top_nil : top [] = none := rfl

@[simp] theorem top_append_one (ns : List Nat) (n : Nat) :
    top (ns ++ [n]) = some (max ((top ns).getD 0) n) := by
  simp [top, List.foldl_append]

theorem top_perm {ns ms : List Nat} (h : ns.Perm ms) : top ns = top ms := by
  refine h.foldl_eq' (fun x _ y _ m => ?_) none
  simp [Nat.max_assoc, Nat.max_comm y x]

theorem top_range' (n : Nat) : (top (List.range' 1 n)).getD 0 = n := by
  induction n with
  | zero => rfl
  | succ n ih =>
      rw [List.range'_concat, top_append_one, Option.getD_some, ih]
      omega

/-- The sequences of one conversation, in the order of the given receipts. -/
def sequencesOf (receipts : List InboundReceipt) (k : CursorKey) : List Nat :=
  (receipts.filter fun r => r.cursorKey = k).map (·.conversationSequence)

theorem sequencesOf_append_one (receipts : List InboundReceipt) (r : InboundReceipt) (k : CursorKey) :
    sequencesOf (receipts ++ [r]) k =
      if r.cursorKey = k then sequencesOf receipts k ++ [r.conversationSequence]
      else sequencesOf receipts k := by
  by_cases h : r.cursorKey = k <;> simp [sequencesOf, List.filter_append, h]

/-- The sequences a conversation may show: positive on QQ, contiguous from 1 on the synthetic channel. -/
def SequencesOk (k : CursorKey) (ns : List Nat) : Prop :=
  match k.channel with
  | .qqSandbox => ∀ n ∈ ns, 1 ≤ n
  | .syntheticIm => ns = List.range' 1 ns.length

theorem SequencesOk.init {k : CursorKey} {ns : List Nat} {n : Nat} (h : SequencesOk k (ns ++ [n])) :
    SequencesOk k ns := by
  unfold SequencesOk at h ⊢
  cases hk : k.channel with
  | qqSandbox =>
      simp only [hk] at h ⊢
      exact fun m hm => h m (List.mem_append_left _ hm)
  | syntheticIm =>
      simp only [hk, List.length_append, List.length_singleton, List.range'_concat] at h ⊢
      exact (List.append_inj' h rfl).1

/-- On the synthetic channel the next sequence is one more than the largest. -/
theorem SequencesOk.next {k : CursorKey} {ns : List Nat} {n : Nat} (h : SequencesOk k (ns ++ [n]))
    (hk : k.channel = .syntheticIm) : n = (top ns).getD 0 + 1 := by
  have hinit := h.init
  simp only [SequencesOk, hk] at h hinit
  rw [List.length_append, List.length_singleton, List.range'_concat] at h
  have hn : n = 1 + 1 * ns.length := by simpa using (List.append_inj' h rfl).2
  rw [hinit, top_range']
  omega

theorem SequencesOk.snoc {k : CursorKey} {ns : List Nat} {n : Nat} (h : SequencesOk k ns)
    (hn : match k.channel with
      | .qqSandbox => 1 ≤ n
      | .syntheticIm => n = (top ns).getD 0 + 1) : SequencesOk k (ns ++ [n]) := by
  unfold SequencesOk at h ⊢
  cases hk : k.channel with
  | qqSandbox =>
      simp only [hk] at h hn ⊢
      intro m hm
      rcases List.mem_append.mp hm with hm | hm
      · exact h m hm
      · rw [List.mem_singleton.mp hm]; exact hn
  | syntheticIm =>
      simp only [hk] at h hn ⊢
      rw [h, top_range'] at hn
      rw [List.length_append, List.length_singleton, List.range'_concat, ← h]
      simp only [hn, one_mul, Nat.add_comm]

/-! ## The replay of the receipts -/

theorem get?_set (d : CursorDict) (k k' : CursorKey) (n : Nat) :
    (d.set k n).get? k' = if k = k' then some n else d.get? k' := by
  unfold CursorDict.set CursorDict.get?
  have hm : ∀ old new : CursorKey × Nat, (old.1, new.2).1 = old.1 := fun _ _ => rfl
  rw [Table.find?_upsert hm]
  by_cases h : k = k'
  · cases d.find? (fun e => e.1 = k') <;> simp [h]
  · simp [h]

/-- **The replay succeeds and recomputes every cursor**, on receipts whose conversations are in order. -/
theorem foldlM_cursorStep {receipts : List InboundReceipt}
    (h : ∀ k, SequencesOk k (sequencesOf receipts k)) :
    ∃ d, receipts.foldlM cursorStep [] = .ok d ∧ ∀ k, d.get? k = top (sequencesOf receipts k) := by
  induction receipts using List.reverseRecOn with
  | nil => exact ⟨[], rfl, fun k => rfl⟩
  | append_singleton receipts r ih =>
      have hinit : ∀ k, SequencesOk k (sequencesOf receipts k) := by
        intro k
        have hk := h k
        rw [sequencesOf_append_one] at hk
        by_cases hr : r.cursorKey = k
        · rw [if_pos hr] at hk; exact hk.init
        · rwa [if_neg hr] at hk
      obtain ⟨d, hd, hget⟩ := ih hinit
      have hlast := h r.cursorKey
      rw [sequencesOf_append_one, if_pos rfl] at hlast
      have hstep : cursorStep d r = .ok (d.set r.cursorKey
          (max ((top (sequencesOf receipts r.cursorKey)).getD 0) r.conversationSequence)) := by
        simp only [cursorStep, hget]
        cases hk : r.cursorKey.channel with
        | qqSandbox =>
            have hpos : 1 ≤ r.conversationSequence := by
              simp only [SequencesOk, hk] at hlast
              exact hlast _ (by simp)
            simp [hpos, bind, Except.bind, pure, Except.pure]
        | syntheticIm =>
            have hnext := hlast.next hk
            have hmax : max ((top (sequencesOf receipts r.cursorKey)).getD 0) r.conversationSequence =
                r.conversationSequence := by omega
            rw [hmax]
            have helim : r.conversationSequence =
                (top (sequencesOf receipts r.cursorKey)).elim 1 (· + 1) := by
              cases ht : top (sequencesOf receipts r.cursorKey) <;> simpa [ht] using hnext
            simp [← helim, bind, Except.bind, pure, Except.pure]
      refine ⟨d.set r.cursorKey
        (max ((top (sequencesOf receipts r.cursorKey)).getD 0) r.conversationSequence), by rw [List.foldlM_append, hd]; simp [bind, Except.bind, hstep, pure, Except.pure], ?_⟩
      intro k
      rw [get?_set, sequencesOf_append_one, hget]
      by_cases hr : r.cursorKey = k
      · subst hr; simp
      · simp [hr]

/-! ## The stored cursors -/

namespace LedgerStore

/-- Every stored cursor is the largest sequence of its conversation, and every conversation is in
    order. -/
def CursorsAgree (s : LedgerStore) : Prop :=
  ∀ k, SequencesOk k (sequencesOf s.inboundReceipts k) ∧
    s.cursorDict.get? k = top (sequencesOf s.inboundReceipts k)

theorem cursorDict_get? (s : LedgerStore) (k : CursorKey) :
    s.cursorDict.get? k = (s.cursor? k).map (·.lastSequence) := by
  unfold cursorDict CursorDict.get? cursor?
  rw [List.find?_map, Option.map_map]
  rfl

theorem sequencesOf_sorted (s : LedgerStore) {k : CursorKey}
    (h : SequencesOk k (sequencesOf s.inboundReceipts k)) :
    SequencesOk k (sequencesOf
        (s.inboundReceipts.insertionSort fun a b => a.sortKey ≤ b.sortKey) k) ∧
      top (sequencesOf (s.inboundReceipts.insertionSort fun a b => a.sortKey ≤ b.sortKey) k) =
        top (sequencesOf s.inboundReceipts k) := by
  have hperm : (sequencesOf (s.inboundReceipts.insertionSort fun a b => a.sortKey ≤ b.sortKey) k).Perm
      (sequencesOf s.inboundReceipts k) :=
    ((List.perm_insertionSort _ _).filter _).map _
  refine ⟨?_, top_perm hperm⟩
  unfold SequencesOk at h ⊢
  cases hk : k.channel with
  | qqSandbox =>
      simp only [hk] at h ⊢
      exact fun n hn => h n (hperm.subset hn)
  | syntheticIm =>
      simp only [hk] at h ⊢
      -- within one conversation the sort order is the order of the sequences
      have hsorted : (sequencesOf (s.inboundReceipts.insertionSort
          fun a b => a.sortKey ≤ b.sortKey) k).Pairwise (· ≤ ·) := by
        refine List.pairwise_map.mpr ?_
        have hall := (List.pairwise_insertionSort (fun a b : InboundReceipt => a.sortKey ≤ b.sortKey)
          s.inboundReceipts).filter (fun r => r.cursorKey = k)
        refine hall.imp_of_mem ?_
        intro a b ha hb hab
        have hak : a.cursorKey = k := by simpa using (List.mem_filter.mp ha).2
        have hbk : b.cursorKey = k := by simpa using (List.mem_filter.mp hb).2
        have hkey := hak.trans hbk.symm
        simp only [InboundReceipt.cursorKey, CursorKey.mk.injEq] at hkey
        simpa [InboundReceipt.sortKey, hkey.1, hkey.2.1, hkey.2.2, Prod.Lex.le_iff] using hab
      rw [hperm.length_eq, ← h]
      refine hperm.eq_of_pairwise (fun a b _ _ hab hba => Nat.le_antisymm hab hba) hsorted ?_
      rw [h]
      exact List.pairwise_le_range'

/-- **The cursor check passes** whenever the cursors agree with the receipts. -/
theorem CursorsAgree.validate {s : LedgerStore} (h : s.CursorsAgree) : s.validateCursors = .ok () := by
  obtain ⟨d, hd, hget⟩ := foldlM_cursorStep fun k => (s.sequencesOf_sorted (h k).1).1
  unfold validateCursors
  rw [bind_eq_ok]
  refine ⟨d, hd, ?_⟩
  rw [require_eq_ok, List.all_eq_true]
  intro k _
  rw [decide_eq_true_eq, hget, (s.sequencesOf_sorted (h k).1).2, (h k).2]

/-- **An accepted delivery keeps the cursors in agreement.** -/
theorem CursorsAgree.advance {s : LedgerStore} {r : InboundReceipt} (h : s.CursorsAgree)
    (hseq : validSequence r.channel (s.cursor? r.cursorKey) r.conversationSequence = true) :
    CursorsAgree { s with
      inboundReceipts := s.inboundReceipts ++ [r]
      conversationCursors := Table.upsert ConversationCursor.key ConversationCursor.merge
        ⟨r.tenantId, r.channel, r.conversationId, r.conversationSequence⟩ s.conversationCursors } := by
  have hm : ∀ old new : ConversationCursor, (old.merge new).key = old.key := fun _ _ => rfl
  intro k
  obtain ⟨hok, hget⟩ := h k
  rw [cursorDict_get?] at hget
  simp only [cursorDict_get?, cursor?, sequencesOf_append_one, Table.find?_upsert hm]
  by_cases hk : r.cursorKey = k
  · subst hk
    have hkey : (⟨r.tenantId, r.channel, r.conversationId, r.conversationSequence⟩ :
        ConversationCursor).key = r.cursorKey := rfl
    rw [if_pos rfl, if_pos hkey, top_append_one, ← hget]
    have hlast : (s.cursor? r.cursorKey).map (·.lastSequence) =
        top (sequencesOf s.inboundReceipts r.cursorKey) := hget
    change SequencesOk _ _ ∧ Option.map _ (some (Option.elim (s.cursor? r.cursorKey) _ _)) = _
    cases hc : r.channel with
    | qqSandbox =>
        rw [hc] at hseq
        refine ⟨hok.snoc ?_, ?_⟩
        · simpa [InboundReceipt.cursorKey, hc, validSequence] using hseq
        · cases s.cursor? r.cursorKey <;> simp [ConversationCursor.merge]
    | syntheticIm =>
        rw [hc] at hseq
        have hnext : r.conversationSequence =
            ((s.cursor? r.cursorKey).map (·.lastSequence)).getD 0 + 1 := by
          cases hcur : s.cursor? r.cursorKey <;> simpa [hcur, validSequence] using hseq
        refine ⟨hok.snoc ?_, ?_⟩
        · rw [show r.cursorKey.channel = .syntheticIm from hc, ← hlast]
          exact hnext
        · cases hcur : s.cursor? r.cursorKey with
          | none => simp
          | some c =>
              rw [hcur] at hnext
              simp [ConversationCursor.merge, hnext]
  · have hkey : (⟨r.tenantId, r.channel, r.conversationId, r.conversationSequence⟩ :
        ConversationCursor).key ≠ k := hk
    rw [if_neg hk, if_neg hkey]
    exact ⟨hok, hget⟩

end LedgerStore

end WeFlow
