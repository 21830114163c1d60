import WeFlow.Handler.Candidate

/-!
# `Retention` — the restricted contents of artifacts

An artifact's content can be read until the artifact expires, its candidate is replaced or its case is
rejected. A sweep works by cases: it looks for a case with an artifact that has expired, and removes the
contents of all artifacts of that case. A removal goes through every artifact that the case ever had, so one
whose content is gone is deleted again.

## Contents

* `ArtifactLog.delete` — what a removal leaves of one artifact in the log.
* `ArtifactOpen`, `ContentInv` — a content that can be read is withdrawn by nothing; `artifact_content_open`.
* `HandlerGuard.deletedOnce`, `ArtifactAccount` — removals that come in time, and once.
* `artifact_deleted_once` — what every run of such removals keeps; `unexpired_body_swept` and
  `deleted_twice` — two runs that break it.
-/

namespace WeFlow

open Txn Prog SQLiteQQHandlerJournal

variable {setup : HandlerSetup} {V : HandlerView} {s s' : HandlerWorld} {actions : List HandlerAction}
  {id id' : HandlerArtifactId}

/-! ## The log of a removal -/

namespace ArtifactLog

variable {log : ArtifactLog} {l x : ArtifactLifecycle} {e : ArtifactDeletion}

/-- The `DELETED` rows of an artifact. -/
def rows (log : ArtifactLog) (id : HandlerArtifactId) : List ArtifactLifecycle :=
  log.lifecycle.filter fun l => l.artifactId = id ∧ l.status = .deleted

/-- The deletion events of an artifact. -/
def events (log : ArtifactLog) (id : HandlerArtifactId) : List ArtifactDeletion :=
  log.deletions.filter fun e => e.artifactId = id

/-- What one step of `delete_artifacts` writes about an artifact. -/
def delete (caseId reasonCode : String) (now recorded : Instant) (log : ArtifactLog) (id : HandlerArtifactId) :
    ArtifactLog :=
  (log.append ⟨id, .deleted, reasonCode, now⟩).addDeletion ⟨caseId, id, reasonCode, now, recorded⟩

theorem mem_rows : l ∈ log.rows id ↔ l ∈ log.lifecycle ∧ l.artifactId = id ∧ l.status = .deleted := by
  rw [rows, List.mem_filter, decide_eq_true_eq]

theorem mem_events : e ∈ log.events id ↔ e ∈ log.deletions ∧ e.artifactId = id := by
  rw [events, List.mem_filter, decide_eq_true_eq]

/-- **A row is added** unless one with its key is stored. -/
theorem append_cases (log : ArtifactLog) (l : ArtifactLifecycle) :
    (log.append l = log ∧ ∃ x ∈ log.lifecycle, ArtifactLifecycle.clash l x = true) ∨
      (log.append l = { log with lifecycle := log.lifecycle ++ [l] } ∧
        ∀ x ∈ log.lifecycle, ArtifactLifecycle.clash l x = false) := by
  unfold append
  cases hrow : Table.insert? ArtifactLifecycle.clash l log.lifecycle with
  | none => exact .inl ⟨rfl, Table.insert?_eq_none.mp hrow⟩
  | some rows =>
      obtain ⟨hfresh, rfl⟩ := Table.insert?_eq_some.mp hrow
      exact .inr ⟨rfl, hfresh⟩

theorem mem_append (h : x ∈ (log.append l).lifecycle) : x ∈ log.lifecycle ∨ x = l := by
  rcases append_cases log l with ⟨heq, -⟩ | ⟨heq, -⟩
  · rw [heq] at h
    exact .inl h
  · rw [heq] at h
    exact (List.mem_append.mp h).imp id List.mem_singleton.mp

theorem append_deletions (log : ArtifactLog) (l : ArtifactLifecycle) :
    (log.append l).deletions = log.deletions := rfl

theorem addDeletion_lifecycle (log : ArtifactLog) (e : ArtifactDeletion) :
    (log.addDeletion e).lifecycle = log.lifecycle := by
  unfold addDeletion
  split <;> rfl

theorem mem_addDeletion {x : ArtifactDeletion} (h : x ∈ (log.addDeletion e).deletions) :
    x ∈ log.deletions ∨ x = e := by
  unfold addDeletion at h
  split at h
  · exact .inl h
  · exact (List.mem_append.mp h).imp id List.mem_singleton.mp

theorem rows_append_other (h : l.artifactId ≠ id ∨ l.status ≠ .deleted) :
    (log.append l).rows id = log.rows id := by
  rcases append_cases log l with ⟨heq, -⟩ | ⟨heq, -⟩
  · rw [heq]
  · rw [heq, rows, rows]
    refine Table.filter_append_other fun x hx => decide_eq_false ?_
    rw [List.mem_singleton.mp hx]
    tauto

theorem rows_delete_other {caseId reasonCode : String} {now recorded : Instant} (h : id' ≠ id) :
    (log.delete caseId reasonCode now recorded id').rows id = log.rows id := by
  rw [delete, rows, addDeletion_lifecycle]
  exact rows_append_other (.inl h)

theorem events_delete_other {caseId reasonCode : String} {now recorded : Instant} (h : id' ≠ id) :
    (log.delete caseId reasonCode now recorded id').events id = log.events id := by
  unfold delete addDeletion
  split
  · rfl
  · refine Table.filter_append_other fun x hx => decide_eq_false ?_
    rw [List.mem_singleton.mp hx]
    exact h

/-- **The first deletion of an artifact** leaves one row and one event. -/
theorem delete_first (caseId reasonCode : String) (now recorded : Instant) (hrows : log.rows id = [])
    (hevents : log.events id = []) :
    (log.delete caseId reasonCode now recorded id).rows id = [⟨id, .deleted, reasonCode, now⟩] ∧
      (log.delete caseId reasonCode now recorded id).events id = [⟨caseId, id, reasonCode, now, recorded⟩] := by
  have hrow : ∀ x ∈ log.lifecycle, ¬ (x.artifactId = id ∧ x.status = .deleted) := fun x hx hkey =>
    absurd (mem_rows.mpr ⟨hx, hkey⟩) (hrows ▸ List.not_mem_nil)
  have hevent : ∀ x ∈ log.deletions, x.artifactId ≠ id := fun x hx hkey =>
    absurd (mem_events.mpr ⟨hx, hkey⟩) (hevents ▸ List.not_mem_nil)
  constructor
  · rw [delete, rows, addDeletion_lifecycle]
    rcases append_cases log ⟨id, .deleted, reasonCode, now⟩ with ⟨-, x, hx, hclash⟩ | ⟨heq, -⟩
    · have hkey := of_decide_eq_true hclash
      exact absurd ⟨hkey.1.symm, hkey.2.1.symm⟩ (hrow x hx)
    · rw [heq]
      refine Table.filter_append_new (fun x hx => decide_eq_false (hrow x hx)) fun x hx => ?_
      rw [List.mem_singleton.mp hx]
      simp
  · have hfresh : ⟨caseId, id, reasonCode, now, recorded⟩ ∉
        (log.append ⟨id, .deleted, reasonCode, now⟩).deletions := fun hmem => hevent _ hmem rfl
    rw [delete, addDeletion, if_neg hfresh]
    refine Table.filter_append_new (fun x hx => decide_eq_false (hevent x hx)) fun x hx => ?_
    rw [List.mem_singleton.mp hx]
    simp

/-- A deletion whose row and event are stored changes nothing. -/
theorem delete_again (caseId reasonCode : String) (now recorded : Instant) (hl : l ∈ log.rows id)
    (hat : l.recordedAt = now) (he : ⟨caseId, id, reasonCode, now, recorded⟩ ∈ log.events id) :
    log.delete caseId reasonCode now recorded id = log := by
  obtain ⟨hmem, hkey, hstatus⟩ := mem_rows.mp hl
  have hrow : log.append ⟨id, .deleted, reasonCode, now⟩ = log := by
    rcases append_cases log ⟨id, .deleted, reasonCode, now⟩ with ⟨heq, -⟩ | ⟨-, hfresh⟩
    · exact heq
    · have hclash := hfresh l hmem
      simp [ArtifactLifecycle.clash, hkey, hstatus, hat] at hclash
  rw [delete, hrow, addDeletion, if_pos (mem_events.mp he).1]

/-- **A removal** leaves artifacts that it does not concern as they were. -/
theorem foldl_delete_other (log : ArtifactLog) (caseId reasonCode : String) (now recorded : Instant)
    {ids : List HandlerArtifactId} (h : id ∉ ids) :
    (ids.foldl (delete caseId reasonCode now recorded) log).rows id = log.rows id ∧
      (ids.foldl (delete caseId reasonCode now recorded) log).events id = log.events id := by
  induction ids generalizing log with
  | nil => exact ⟨rfl, rfl⟩
  | cons x ids ih =>
      have hne : x ≠ id := fun heq => h (heq ▸ List.mem_cons_self)
      obtain ⟨hrows, hevents⟩ := ih (log.delete caseId reasonCode now recorded x)
        fun hmem => h (List.mem_cons_of_mem _ hmem)
      exact ⟨hrows.trans (rows_delete_other hne), hevents.trans (events_delete_other hne)⟩

/-- **A removal** deletes each artifact that it concerns once. -/
theorem foldl_delete (log : ArtifactLog) (caseId reasonCode : String) (now recorded : Instant)
    {ids : List HandlerArtifactId} (hnodup : ids.Nodup) (h : id ∈ ids) : ∃ mid : ArtifactLog, mid.rows id = log.rows id ∧
      mid.events id = log.events id ∧
      (ids.foldl (delete caseId reasonCode now recorded) log).rows id =
        (mid.delete caseId reasonCode now recorded id).rows id ∧
      (ids.foldl (delete caseId reasonCode now recorded) log).events id =
        (mid.delete caseId reasonCode now recorded id).events id := by
  obtain ⟨before, after, rfl⟩ := List.append_of_mem h
  rw [List.nodup_append, List.nodup_cons] at hnodup
  obtain ⟨-, ⟨hafter, -⟩, hapart⟩ := hnodup
  have hbefore : id ∉ before := fun hmem => hapart id hmem id List.mem_cons_self rfl
  obtain ⟨hrows, hevents⟩ := foldl_delete_other log caseId reasonCode now recorded hbefore
  refine ⟨before.foldl (delete caseId reasonCode now recorded) log, hrows, hevents, ?_⟩
  rw [List.foldl_append, List.foldl_cons]
  exact foldl_delete_other _ caseId reasonCode now recorded hafter

theorem mem_foldl_delete {caseId reasonCode : String} {now recorded : Instant} {ids : List HandlerArtifactId} :
    (∀ l ∈ (ids.foldl (delete caseId reasonCode now recorded) log).lifecycle,
      l ∈ log.lifecycle ∨ l.artifactId ∈ ids) ∧
    ∀ e ∈ (ids.foldl (delete caseId reasonCode now recorded) log).deletions,
      e ∈ log.deletions ∨ ∃ id ∈ ids, e = ⟨caseId, id, reasonCode, now, recorded⟩ := by
  induction ids generalizing log with
  | nil => exact ⟨fun _ => .inl, fun _ => .inl⟩
  | cons x ids ih =>
      constructor
      · intro l hl
        rcases ih.1 l hl with hl | hmem
        · rw [delete, addDeletion_lifecycle] at hl
          rcases mem_append hl with hl | rfl
          · exact .inl hl
          · exact .inr List.mem_cons_self
        · exact .inr (List.mem_cons_of_mem _ hmem)
      · intro e he
        rcases ih.2 e he with he | ⟨y, hy, heq⟩
        · rcases mem_addDeletion he with he | heq
          · exact .inl he
          · exact .inr ⟨x, List.mem_cons_self, heq⟩
        · exact .inr ⟨y, List.mem_cons_of_mem _ hy, heq⟩

/-- A removal leaves an event of each artifact that it concerns. -/
theorem event_of_foldl_delete (log : ArtifactLog) (caseId reasonCode : String) (now recorded : Instant)
    {ids : List HandlerArtifactId} (h : id ∈ ids ∨ ⟨caseId, id, reasonCode, now, recorded⟩ ∈ log.deletions) :
    ⟨caseId, id, reasonCode, now, recorded⟩ ∈ (ids.foldl (delete caseId reasonCode now recorded) log).deletions := by
  induction ids generalizing log with
  | nil => exact h.resolve_left List.not_mem_nil
  | cons x ids ih =>
      refine ih (log.delete caseId reasonCode now recorded x) ?_
      by_cases hx : x = id
      · right
        rw [← hx, delete, addDeletion]
        split
        case isTrue hmem => exact hmem
        case isFalse => exact List.mem_append_right _ (List.mem_singleton_self _)
      · refine h.imp (fun hid => (List.mem_cons.mp hid).resolve_left (Ne.symm hx)) fun hmem => ?_
        rw [delete, addDeletion]
        split
        · exact hmem
        · exact List.mem_append_left _ hmem

/-- **A schedule for deletion** adds no deletion, and rows of its artifacts only. -/
theorem foldl_append_scheduled {reasonCode : String} {now : Instant} (ids : List HandlerArtifactId) :
    let after := ids.foldl (fun log id => log.append ⟨id, .deletionScheduled, reasonCode, now⟩) log
    after.deletions = log.deletions ∧ (∀ id, after.rows id = log.rows id) ∧
      ∀ l ∈ after.lifecycle, l ∈ log.lifecycle ∨ l.artifactId ∈ ids := by
  induction ids generalizing log with
  | nil => exact ⟨rfl, fun _ => rfl, fun _ => .inl⟩
  | cons x ids ih =>
      obtain ⟨hdeletions, hrows, hmem⟩ := @ih (log.append ⟨x, .deletionScheduled, reasonCode, now⟩)
      refine ⟨hdeletions, fun id => (hrows id).trans (rows_append_other (.inr nofun)), fun l hl => ?_⟩
      rcases hmem l hl with hl | hids
      · rcases mem_append hl with hl | rfl
        · exact .inl hl
        · exact .inr List.mem_cons_self
      · exact .inr (List.mem_cons_of_mem _ hids)

end ArtifactLog

/-! ## Contents that can be read -/

/-- **Nothing withdraws the artifact**: no row of its lifecycle does, no later candidate of its case has
    replaced it, and its case is not rejected. -/
structure ArtifactOpen (s : HandlerWorld) (id : HandlerArtifactId) : Prop where
  unlogged : ∀ l ∈ s.artifactLog.lifecycle, l.artifactId ≠ id
  unreplaced : ∀ r ∈ s.candidates, r.candidateArtifactId = id →
    ∃ c, s.case? r.caseId = some c ∧ c.currentCandidateRevisionId = some r.candidateRevisionId
  unrejected : ∀ a ∈ s.artifacts, a.artifactId = id → ∃ c, s.case? a.caseId = some c ∧ c.status ≠ .rejected

/-- **A content that can be read is of an open artifact.** -/
structure ContentInv (s : HandlerWorld) : Prop where
  artifacts : Table.Distinct HandlerArtifact.clash s.artifacts
  candidates : Table.Distinct HandlerCandidateRevision.clash s.candidates
  stored : ∀ p ∈ s.contents, ∃ a ∈ s.artifacts, a.artifactId = p.artifactId
  drafted : ∀ r ∈ s.candidates, ∃ a ∈ s.artifacts, a.artifactId = r.candidateArtifactId
  logged : ∀ l ∈ s.artifactLog.lifecycle, ∃ a ∈ s.artifacts, a.artifactId = l.artifactId
  deleted : ∀ e ∈ s.artifactLog.deletions, ∃ a ∈ s.artifacts, a.artifactId = e.artifactId
  readable : ∀ p ∈ s.contents, p.reachable = true → ArtifactOpen s p.artifactId

theorem contentInv_empty : ContentInv .empty where
  artifacts := Table.distinct_nil _
  candidates := Table.distinct_nil _
  stored := fun _ h => absurd h List.not_mem_nil
  drafted := fun _ h => absurd h List.not_mem_nil
  logged := fun _ h => absurd h List.not_mem_nil
  deleted := fun _ h => absurd h List.not_mem_nil
  readable := fun _ h => absurd h List.not_mem_nil

theorem HandlerArtifact.clash_comm (a b : HandlerArtifact) : a.clash b = b.clash a := by
  simp [HandlerArtifact.clash, eq_comm]

theorem ContentInv.eq_of_id (hinv : ContentInv s) {a b : HandlerArtifact} (ha : a ∈ s.artifacts)
    (hb : b ∈ s.artifacts) (h : a.artifactId = b.artifactId) : a = b :=
  hinv.artifacts.eq_of_clash HandlerArtifact.clash_comm ha hb (decide_eq_true h)

theorem ContentInv.candidate? (hinv : ContentInv s) {r : HandlerCandidateRevision} (hr : r ∈ s.candidates) :
    s.candidate? r.candidateRevisionId = some r :=
  hinv.candidates.find?_key (fun a b => by simp [HandlerCandidateRevision.clash, eq_comm])
    (fun a b (h : a.candidateRevisionId = b.candidateRevisionId) => decide_eq_true h) hr

/-- The identifiers of a case's artifacts, that `delete_artifacts` goes through. -/
def HandlerWorld.artifactIds (s : HandlerWorld) (caseId : String) : List HandlerArtifactId :=
  (s.artifacts.filter fun a => a.caseId = caseId).map (·.artifactId)

theorem mem_artifactIds {caseId : String} :
    id ∈ s.artifactIds caseId ↔ ∃ a ∈ s.artifacts, a.caseId = caseId ∧ a.artifactId = id := by
  simp [HandlerWorld.artifactIds, and_assoc]

theorem ContentInv.mem_artifactIds_iff (hinv : ContentInv s) {a : HandlerArtifact} (ha : a ∈ s.artifacts)
    {caseId : String} : a.artifactId ∈ s.artifactIds caseId ↔ a.caseId = caseId := by
  rw [mem_artifactIds]
  constructor
  · rintro ⟨b, hb, hcase, hid⟩
    rw [← hinv.eq_of_id hb ha hid]
    exact hcase
  · intro hcase
    exact ⟨a, ha, hcase, rfl⟩

theorem ContentInv.nodup_artifactIds (hinv : ContentInv s) (caseId : String) : (s.artifactIds caseId).Nodup := by
  have hpairwise : s.artifacts.Pairwise fun a b => a.artifactId ≠ b.artifactId :=
    hinv.artifacts.imp fun {a b} hab heq => by
      rw [HandlerArtifact.clash, decide_eq_false_iff_not] at hab
      exact hab heq.symm
  exact (hpairwise.filter _).map _ fun _ _ h => h

/-- **What a removal leaves**: the contents of the other cases, and a log of the deletions. -/
theorem removeContents_eq {caseId reasonCode : String} {now : Instant}
    (h : removeContents caseId reasonCode now s = .ok ((), s')) :
    s' = { s with
      contents := s.contents.filter fun p => !(s.artifacts.any fun a => a.artifactId = p.artifactId ∧ a.caseId = caseId)
      artifactLog := (s.artifactIds caseId).foldl (ArtifactLog.delete caseId reasonCode now s.now)
        s.artifactLog } :=
  ((Prod.mk.injEq .. ▸ Except.ok.inj h).2).symm

theorem mem_kept_contents {caseId : String} {p : HandlerArtifactContent} :
    (p ∈ s.contents.filter fun p => !(s.artifacts.any fun a => a.artifactId = p.artifactId ∧ a.caseId = caseId)) ↔
      p ∈ s.contents ∧ p.artifactId ∉ s.artifactIds caseId := by
  rw [List.mem_filter, mem_artifactIds]
  simp [and_comm]

theorem scheduled_log (s : HandlerWorld) (ids : List HandlerArtifactId) (reasonCode : String) :
    let after := (scheduleArtifactDeletion ids reasonCode s).artifactLog
    after.deletions = s.artifactLog.deletions ∧ (∀ id, after.rows id = s.artifactLog.rows id) ∧
      ∀ l ∈ after.lifecycle, l ∈ s.artifactLog.lifecycle ∨ l.artifactId ∈ ids :=
  ArtifactLog.foldl_append_scheduled ids

/-- A content after a schedule for deletion. -/
theorem mem_scheduled {ids : List HandlerArtifactId} {reasonCode : String} {p : HandlerArtifactContent}
    (h : p ∈ (scheduleArtifactDeletion ids reasonCode s).contents) :
    (∃ q ∈ s.contents, q.artifactId = p.artifactId) ∧
      (p.reachable = true → p ∈ s.contents ∧ p.artifactId ∉ ids) := by
  obtain ⟨q, hq, rfl⟩ := Table.mem_modify.mp h
  by_cases hid : q.artifactId ∈ ids
  · rw [if_pos (decide_eq_true hid)]
    exact ⟨⟨q, hq, rfl⟩, nofun⟩
  · rw [if_neg (by simpa using hid)]
    exact ⟨⟨q, hq, rfl⟩, fun _ => ⟨hq, hid⟩⟩

/-- **The row of a case after a transaction that makes no candidate**: it keeps its candidate, and where it is
    newly rejected no content of the case can be read. -/
def CaseSpared (s s' : HandlerWorld) (caseId : String) (c : HandlerCase) : Prop :=
  ∃ c', s'.case? caseId = some c' ∧ c'.currentCandidateRevisionId = c.currentCandidateRevisionId ∧
    (c'.status = .rejected → c.status = .rejected ∨ ∀ a ∈ s.artifacts, a.caseId = caseId →
      ∀ p ∈ s'.contents, p.artifactId = a.artifactId → p.reachable = false)

theorem HandlerStep.spared (h : HandlerStep setup V s s') (hcandidates : s'.candidates = s.candidates)
    {caseId : String} {c : HandlerCase} (hc : s.case? caseId = some c) : CaseSpared s s' caseId c := by
  have hsame : ∀ {s' : HandlerWorld}, s'.case? caseId = some c → CaseSpared s s' caseId c :=
    fun hc' => ⟨c, hc', rfl, .inl⟩
  -- a row that is written, and not rejected, or that is left alone
  have hwritten : ∀ {s' : HandlerWorld} {target : String} {f : HandlerCase → HandlerCase},
      s'.cases = (s.modifyCase target f).cases → (∀ c, (f c).caseId = c.caseId) →
      (∀ c, (f c).currentCandidateRevisionId = c.currentCandidateRevisionId) →
      (∀ c, (f c).status ≠ .rejected) → CaseSpared s s' caseId c := by
    intro s' target f hcases hf hpointer hstatus
    exact case_modify (P := fun c' => c'.currentCandidateRevisionId = c.currentCandidateRevisionId ∧ _)
      hcases hf hc ⟨rfl, .inl⟩ fun _ => ⟨hpointer c, fun hrejected => absurd hrejected (hstatus c)⟩
  cases h with
  | @issue binding new artifacts contents hb hbinding hnone =>
      refine hsame ?_
      rw [HandlerWorld.case?, List.find?_append]
      show (s.case? caseId).or _ = some c
      rw [hc, Option.some_or]
  | candidate => exact absurd hcandidates (by simp)
  | @simple binding x version command ids hop hx hauth hstored hids =>
      cases command with
      | pull =>
          exact case_modify (P := fun c' => c'.currentCandidateRevisionId = c.currentCandidateRevisionId ∧ _)
            rfl (SimpleCommand.apply_caseId .pull) hc ⟨rfl, .inl⟩ fun _ => ⟨rfl, .inl⟩
      | accept =>
          exact hwritten rfl (SimpleCommand.apply_caseId .accept) (fun _ => rfl) fun _ h =>
            HandlerStatus.noConfusion h
      | reject reasonCode =>
          refine case_modify (P := fun c' => c'.currentCandidateRevisionId = c.currentCandidateRevisionId ∧ _)
            rfl (SimpleCommand.apply_caseId (.reject reasonCode)) hc ⟨rfl, .inl⟩ fun htarget => ⟨rfl, fun _ => .inr ?_⟩
          intro a ha hcase p hp hid
          have hin : a.artifactId ∈ ids := by
            refine hids reasonCode rfl a ha ?_
            rw [hcase, htarget, (HandlerWorld.case?_some hc).2]
          by_contra hreachable
          exact ((mem_scheduled hp).2 (by simpa using hreachable)).2 (hid ▸ hin)
  | decided | assistRequested | context | handedBack =>
      exact hwritten rfl (fun _ => rfl) (fun _ => rfl) fun _ h => HandlerStatus.noConfusion h
  | @resultRecorded intent result passiveResults events cases hi hresult haccepted hA hresults hevents
      hcases =>
      split at hcases
      · exact hwritten hcases (fun _ => rfl) (fun _ => rfl) fun _ h => HandlerStatus.noConfusion h
      · refine hsame ?_
        rw [HandlerWorld.case?, hcases]
        exact hc
  | _ => exact hsame hc

/-- **A transaction that adds neither an artifact nor a candidate.** -/
theorem ContentInv.of_spared (hinv : ContentInv s) (hartifacts : s'.artifacts = s.artifacts)
    (hcandidates : s'.candidates = s.candidates)
    (hcases : ∀ caseId c, s.case? caseId = some c → CaseSpared s s' caseId c)
    (hcontents : ∀ p ∈ s'.contents, ∃ q ∈ s.contents, q.artifactId = p.artifactId)
    (hreachable : ∀ p ∈ s'.contents, p.reachable = true → p ∈ s.contents ∧
      ∀ l ∈ s'.artifactLog.lifecycle, l.artifactId = p.artifactId → l ∈ s.artifactLog.lifecycle)
    (hlogged : ∀ l ∈ s'.artifactLog.lifecycle, l ∈ s.artifactLog.lifecycle ∨
      ∃ a ∈ s.artifacts, a.artifactId = l.artifactId)
    (hdeleted : ∀ e ∈ s'.artifactLog.deletions, e ∈ s.artifactLog.deletions ∨
      ∃ a ∈ s.artifacts, a.artifactId = e.artifactId) : ContentInv s' := by
  refine ⟨hartifacts ▸ hinv.artifacts, hcandidates ▸ hinv.candidates, ?_, ?_, ?_, ?_, fun p hp hread => ?_⟩
  · intro p hp
    obtain ⟨q, hq, hid⟩ := hcontents p hp
    rw [hartifacts, ← hid]
    exact hinv.stored q hq
  · rw [hartifacts, hcandidates]
    exact hinv.drafted
  · intro l hl
    rw [hartifacts]
    exact (hlogged l hl).elim (hinv.logged l) id
  · intro e he
    rw [hartifacts]
    exact (hdeleted e he).elim (hinv.deleted e) id
  · obtain ⟨hbefore, hrows⟩ := hreachable p hp hread
    have hopen := hinv.readable p hbefore hread
    refine ⟨fun l hl hid => hopen.unlogged l (hrows l hl hid) hid, fun r hr hid => ?_, fun a ha hid => ?_⟩
    · rw [hcandidates] at hr
      obtain ⟨c, hc, hcurrent⟩ := hopen.unreplaced r hr hid
      obtain ⟨c', hc', hpointer, -⟩ := hcases r.caseId c hc
      exact ⟨c', hc', hpointer.trans hcurrent⟩
    · rw [hartifacts] at ha
      obtain ⟨c, hc, hstatus⟩ := hopen.unrejected a ha hid
      obtain ⟨c', hc', -, hrejected⟩ := hcases a.caseId c hc
      refine ⟨c', hc', fun hafter => ?_⟩
      rcases hrejected hafter with hearlier | hclosed
      · exact hstatus hearlier
      · rw [hclosed a ha rfl p hp hid.symm] at hread
        cases hread

/-- **A transaction that adds an artifact.** -/
theorem ContentInv.of_added (hinv : ContentInv s) {artifact : HandlerArtifact}
    (hfresh : ∀ a ∈ s.artifacts, a.artifactId ≠ artifact.artifactId)
    (hartifacts : s'.artifacts = s.artifacts ++ [artifact])
    (hdistinct : Table.Distinct HandlerCandidateRevision.clash s'.candidates)
    (hcandidates : ∀ r ∈ s'.candidates, r ∈ s.candidates ∨ r.candidateArtifactId = artifact.artifactId)
    (hcontents : ∀ p ∈ s'.contents, p.artifactId = artifact.artifactId ∨ ∃ q ∈ s.contents, q.artifactId = p.artifactId)
    (hlogged : ∀ l ∈ s'.artifactLog.lifecycle, ∃ a ∈ s.artifacts, a.artifactId = l.artifactId)
    (hdeleted : s'.artifactLog.deletions = s.artifactLog.deletions)
    (hcurrent : ∀ r ∈ s'.candidates, r ∉ s.candidates →
      ∃ c, s'.case? r.caseId = some c ∧ c.currentCandidateRevisionId = some r.candidateRevisionId)
    (hcase : ∃ c, s'.case? artifact.caseId = some c ∧ c.status ≠ .rejected)
    (hreadable : ∀ p ∈ s'.contents, p.reachable = true → p.artifactId ≠ artifact.artifactId →
      ArtifactOpen s' p.artifactId) : ContentInv s' := by
  have hold : ∀ {a : HandlerArtifact}, a ∈ s.artifacts → a ∈ s'.artifacts := fun ha =>
    hartifacts ▸ List.mem_append_left _ ha
  have hnew : artifact ∈ s'.artifacts := hartifacts ▸ List.mem_append_right _ (List.mem_singleton_self _)
  refine ⟨?_, hdistinct, fun p hp => ?_, fun r hr => ?_, fun l hl => ?_, fun e he => ?_, fun p hp hread => ?_⟩
  · rw [hartifacts]
    exact hinv.artifacts.append_one fun a ha => decide_eq_false fun heq => hfresh a ha heq.symm
  · rcases hcontents p hp with hid | ⟨q, hq, hid⟩
    · exact ⟨artifact, hnew, hid.symm⟩
    · obtain ⟨a, ha, hkey⟩ := hinv.stored q hq
      exact ⟨a, hold ha, hkey.trans hid⟩
  · rcases hcandidates r hr with hr | hid
    · obtain ⟨a, ha, hkey⟩ := hinv.drafted r hr
      exact ⟨a, hold ha, hkey⟩
    · exact ⟨artifact, hnew, hid.symm⟩
  · obtain ⟨a, ha, hkey⟩ := hlogged l hl
    exact ⟨a, hold ha, hkey⟩
  · rw [hdeleted] at he
    obtain ⟨a, ha, hkey⟩ := hinv.deleted e he
    exact ⟨a, hold ha, hkey⟩
  · by_cases hid : p.artifactId = artifact.artifactId
    · -- the new artifact is in no record that was there before
      rw [hid]
      refine ⟨fun l hl hkey => ?_, fun r hr hkey => ?_, fun a ha hkey => ?_⟩
      · obtain ⟨a, ha, hlog⟩ := hlogged l hl
        exact hfresh a ha (hlog.trans hkey)
      · refine hcurrent r hr fun hbefore => ?_
        obtain ⟨a, ha, hof⟩ := hinv.drafted r hbefore
        exact hfresh a ha (hof.trans hkey)
      · rw [hartifacts] at ha
        rcases List.mem_append.mp ha with ha | ha
        · exact absurd hkey (hfresh a ha)
        · rw [List.mem_singleton.mp ha]
          exact hcase
    · exact hreadable p hp hread hid

theorem HandlerCase.withCandidate_status (request : HandlerApprovalRequest) (model : Bool) (c : HandlerCase) :
    (c.withCandidate request model).status ≠ .rejected := by
  cases model <;> exact fun h => HandlerStatus.noConfusion h

/-- **A new candidate** closes the artifact of the one that it replaces. -/
theorem ContentInv.of_candidate (hinv : ContentInv s) {c : HandlerCase} {artifact : HandlerArtifact}
    {revision : HandlerCandidateRevision} {request : HandlerApprovalRequest} {version : Nat} {now : Instant}
    {model : Bool} {artifacts : List HandlerArtifact} {contents : List HandlerArtifactContent}
    {artifactLog : ArtifactLog} (hc : s.case? c.caseId = some c)
    (hrevision : revision = candidateRevision c artifact version)
    (hrequest : request.candidateRevisionId = revision.candidateRevisionId)
    (hnew : ∀ x ∈ s.candidates, HandlerCandidateRevision.clash revision x = false)
    (hmade : CandidateArtifacts s c version now artifact artifacts contents artifactLog)
    (hartifacts : s'.artifacts = artifacts) (hcontents : s'.contents = contents)
    (hlog : s'.artifactLog = artifactLog) (hcandidates : s'.candidates = s.candidates ++ [revision])
    (hcases : s'.cases = Table.modify (fun x => x.caseId = c.caseId) (HandlerCase.withCandidate request model)
      s.cases) : ContentInv s' := by
  obtain ⟨candidateHash, ids, hartifact, hids, ⟨hadded, normalized, hcontent⟩, rfl⟩ := hmade
  obtain ⟨hapart, rfl⟩ := Table.insert?_eq_some.mp hadded
  obtain ⟨-, rfl⟩ := Table.insert?_eq_some.mp hcontent
  obtain ⟨hdeletions, -, hlogged⟩ := scheduled_log s ids "candidate_superseded"
  have hfresh : ∀ a ∈ s.artifacts, a.artifactId ≠ artifact.artifactId := fun a ha heq =>
    of_decide_eq_false (hapart a ha) heq.symm
  have hprior : ∀ id ∈ ids, ∃ a ∈ s.artifacts, a.artifactId = id := by
    intro id hid
    obtain ⟨prior, hbind, rfl⟩ := (hids id).mp hid
    obtain ⟨key, -, hfound⟩ := Option.bind_eq_some_iff.mp hbind
    exact hinv.drafted prior (List.mem_of_find?_eq_some hfound)
  have hof : revision.caseId = c.caseId ∧ revision.candidateArtifactId = artifact.artifactId ∧
      artifact.caseId = c.caseId := by
    rw [hrevision, hartifact]
    exact ⟨rfl, rfl, rfl⟩
  have hrow : s'.case? c.caseId = some (c.withCandidate request model) := by
    rw [case?_withCandidate hcases, if_pos rfl, hc]
    rfl
  refine hinv.of_added hfresh hartifacts ?_ (fun r hr => ?_) (fun p hp => ?_) (fun l hl => ?_) ?_
    (fun r hr hbefore => ?_) ?_ fun p hp hread hid => ?_
  · rw [hcandidates]
    exact hinv.candidates.append_one hnew
  · rw [hcandidates] at hr
    rcases List.mem_append.mp hr with hr | hr
    · exact .inl hr
    · rw [List.mem_singleton.mp hr]
      exact .inr hof.2.1
  · rw [hcontents] at hp
    rcases List.mem_append.mp hp with hp | hp
    · exact .inr (mem_scheduled hp).1
    · rw [List.mem_singleton.mp hp]
      exact .inl rfl
  · rw [hlog] at hl
    exact (hlogged l hl).elim (hinv.logged l) (hprior _)
  · rw [hlog]
    exact hdeletions
  · rw [hcandidates] at hr
    rw [List.mem_singleton.mp ((List.mem_append.mp hr).resolve_left hbefore), hof.1, ← hrequest]
    exact ⟨_, hrow, rfl⟩
  · rw [hof.2.2]
    exact ⟨_, hrow, c.withCandidate_status request model⟩
  · rw [hcontents] at hp
    have hscheduled := (List.mem_append.mp hp).resolve_right fun hp => hid (by rw [List.mem_singleton.mp hp])
    obtain ⟨hbefore, hother⟩ := (mem_scheduled hscheduled).2 hread
    have hopen := hinv.readable p hbefore hread
    refine ⟨fun l hl hkey => ?_, fun r hr hkey => ?_, fun a ha hkey => ?_⟩
    · rw [hlog] at hl
      rcases hlogged l hl with hl | hin
      · exact hopen.unlogged l hl hkey
      · exact hother (hkey ▸ hin)
    · rw [hcandidates] at hr
      rcases List.mem_append.mp hr with hr | hr
      · obtain ⟨x, hx, hcurrent⟩ := hopen.unreplaced r hr hkey
        rw [case?_withCandidate hcases]
        by_cases hsame : c.caseId = r.caseId
        · -- then this is the candidate that is replaced
          rw [← hsame, hc, Option.some.injEq] at hx
          have hbind : c.currentCandidateRevisionId.bind s.candidate? = some r := by
            rw [hx, hcurrent, Option.bind_some, hinv.candidate? hr]
          exact absurd ((hids _).mpr ⟨r, hbind, hkey⟩) hother
        · rw [if_neg hsame]
          exact ⟨x, hx, hcurrent⟩
      · rw [List.mem_singleton.mp hr, hof.2.1] at hkey
        exact absurd hkey.symm hid
    · rw [hartifacts] at ha
      rcases List.mem_append.mp ha with ha | ha
      · obtain ⟨x, hx, hstatus⟩ := hopen.unrejected a ha hkey
        rw [case?_withCandidate hcases]
        by_cases hsame : c.caseId = a.caseId
        · rw [if_pos hsame, hx]
          exact ⟨_, rfl, x.withCandidate_status request model⟩
        · rw [if_neg hsame]
          exact ⟨x, hx, hstatus⟩
      · rw [List.mem_singleton.mp ha] at hkey
        exact absurd hkey.symm hid

/-- **A transaction's step on the contents.** -/
theorem HandlerStep.contentInv (h : HandlerStep setup V s s') (hinv : ContentInv s) : ContentInv s' := by
  have hspared := @HandlerStep.spared _ _ _ _ h
  cases h with
  | @issue binding c artifacts contents hb hbinding hnone hready hversion hcandidate hrequest hartifact =>
      obtain ⟨artifact, hcase, hadded, normalized, hcontent⟩ := hartifact
      obtain ⟨hfresh, rfl⟩ := Table.insert?_eq_some.mp hadded
      obtain ⟨-, rfl⟩ := Table.insert?_eq_some.mp hcontent
      refine hinv.of_added (fun a ha heq => ?_) rfl hinv.candidates (fun r => .inl) (fun p hp => ?_) hinv.logged rfl
        (fun r hr hnew => absurd hr hnew) ⟨c, ?_, ?_⟩ fun p hp hread hid => ?_
      · exact of_decide_eq_false (hfresh a ha) heq.symm
      · rcases List.mem_append.mp hp with hp | hp
        · exact .inr ⟨p, hp, rfl⟩
        · rw [List.mem_singleton.mp hp]
          exact .inl rfl
      · rw [← hcase, HandlerWorld.case?, List.find?_append]
        show (s.case? c.caseId).or _ = some c
        rw [hnone, Option.none_or, List.find?_singleton, if_pos (decide_eq_true rfl)]
      · rw [hready]
        exact fun h => HandlerStatus.noConfusion h
      · rcases List.mem_append.mp hp with hp | hp
        · have hopen := hinv.readable p hp hread
          refine ⟨hopen.unlogged, fun r hr hkey => ?_, fun a ha hkey => ?_⟩
          · obtain ⟨x, hx, hcurrent⟩ := hopen.unreplaced r hr hkey
            obtain ⟨y, hy, hpointer, -⟩ := hspared rfl hx
            exact ⟨y, hy, hpointer.trans hcurrent⟩
          · rcases List.mem_append.mp ha with ha | ha
            · obtain ⟨x, hx, hstatus⟩ := hopen.unrejected a ha hkey
              refine ⟨x, ?_, hstatus⟩
              rw [HandlerWorld.case?, List.find?_append]
              show (s.case? a.caseId).or _ = some x
              rw [hx, Option.some_or]
            · rw [List.mem_singleton.mp ha] at hkey
              exact absurd hkey.symm hid
        · rw [List.mem_singleton.mp hp] at hid
          exact absurd rfl hid
  | @retained caseId reasonCode now contents artifactLog hclock hA hremoved =>
      have heq := removeContents_eq hremoved
      rw [heq] at hspared ⊢
      have hstored : ∀ {id}, id ∈ s.artifactIds caseId → ∃ a ∈ s.artifacts, a.artifactId = id := fun hid => by
        obtain ⟨a, ha, -, hkey⟩ := mem_artifactIds.mp hid
        exact ⟨a, ha, hkey⟩
      refine hinv.of_spared rfl rfl (fun _ _ hc => hspared rfl hc) (fun p hp => ?_) (fun p hp _ => ?_)
        (fun l hl => ?_) fun e he => ?_
      · exact ⟨p, (mem_kept_contents.mp hp).1, rfl⟩
      · obtain ⟨hbefore, hother⟩ := mem_kept_contents.mp hp
        refine ⟨hbefore, fun l hl hid => (ArtifactLog.mem_foldl_delete.1 l hl).resolve_right fun hin => ?_⟩
        exact hother (hid ▸ hin)
      · exact (ArtifactLog.mem_foldl_delete.1 l hl).imp id hstored
      · refine (ArtifactLog.mem_foldl_delete.2 e he).imp id ?_
        rintro ⟨x, hx, rfl⟩
        exact hstored hx
  | @candidate binding c version artifact issue revision now request model lifecycle artifacts contents artifactLog
      candidateBindings hc hauth hrevision hrequest hnew hfresh heffect hartifacts =>
      exact hinv.of_candidate hc hrevision (by rw [hrequest]; rfl) hnew hartifacts rfl rfl rfl rfl rfl
  | @simple binding c version command ids hop hc hauth hstored hids =>
      obtain ⟨hdeletions, -, hlogged⟩ := scheduled_log s ids "handler_rejected"
      refine hinv.of_spared rfl rfl (fun _ _ hc => hspared rfl hc) (fun p hp => (mem_scheduled hp).1) (fun p hp hread => ?_)
        (fun l hl => (hlogged l hl).imp id (hstored _)) fun e he => .inl (hdeletions ▸ he)
      obtain ⟨hbefore, hother⟩ := (mem_scheduled hp).2 hread
      refine ⟨hbefore, fun l hl hid => (hlogged l hl).resolve_right fun hin => ?_⟩
      exact hother (hid ▸ hin)
  | _ =>
      exact hinv.of_spared rfl rfl (fun _ _ hc => hspared rfl hc) (fun p hp => ⟨p, hp, rfl⟩)
        (fun p hp _ => ⟨hp, fun _ hl _ => hl⟩) (fun _ => .inl) fun _ => .inl

theorem handlerDisturbance_contentInv (e : HandlerDisturbance) (hinv : ContentInv s) :
    ContentInv (handlerDisturbance e s) := by
  refine hinv.of_spared ?_ ?_ (fun caseId c hc => ⟨c, ?_, rfl, .inl⟩) ?_ ?_ ?_ ?_ <;> cases e
  all_goals first
    | exact hc
    | rfl
    | exact fun p hp => ⟨p, hp, rfl⟩
    | exact fun p hp _ => ⟨hp, fun _ hl _ => hl⟩
    | exact fun _ => .inl

/-- **What `artifact_content` returns** is a stored and reachable content of an artifact that is unexpired. -/
theorem eval_artifactContent {content : String} (h : eval (artifactContent id) s = (.ok content, s')) :
    ∃ a, s.artifact? id = some a ∧ s.now < a.expiresAt ∧
      ∃ p, s.content? id = some p ∧ p.content = content ∧ p.reachable = true := by
  obtain ⟨r, s₁, hread, hreturn⟩ := eval_bind_eq_ok.mp h
  unfold artifactContent? at hread
  rw [eval_observe_bind, eval_observe_bind] at hread
  have hok : r = .ok content := by
    cases r with
    | error e => cases hreturn
    | ok x => rw [Except.ok.inj (Prod.mk.inj hreturn).1]
  rw [hok] at hread
  cases hrow : contentRow id s with
  | none =>
      rw [hrow] at hread
      cases hread
  | some row =>
      obtain ⟨a, ha, p, hp, heq⟩ : ∃ a, s.artifact? id = some a ∧ ∃ p, s.content? id = some p ∧
          some (a.expiresAt, p.content, p.reachable) = some row := by
        simpa [contentRow, Option.bind_eq_some_iff] using hrow
      obtain rfl := Option.some.inj heq
      rw [hrow] at hread
      by_cases hexpired : a.expiresAt ≤ s.now
      · simp only [if_pos hexpired] at hread
        obtain ⟨u, s₂, -, hraise⟩ := eval_bind_eq_ok.mp hread
        cases hraise
      · simp only [if_neg hexpired] at hread
        cases hreachable : p.reachable with
        | false =>
            rw [hreachable] at hread
            cases hread
        | true =>
            rw [hreachable] at hread
            have hcontent : p.content = content := Except.ok.inj (Except.ok.inj (Prod.mk.inj hread).1)
            exact ⟨a, ha, Nat.lt_of_not_le hexpired, p, hp, hcontent, hreachable⟩

theorem HandlerSys.contentInv (setup : HandlerSetup) (actions : List HandlerAction) :
    ContentInv (HandlerSys.run setup actions).store :=
  HandlerSys.invariant (O := fun _ => True) contentInv_empty (fun _ _ hinv hstep => hstep.contentInv hinv)
    (fun e _ _ hinv => handlerDisturbance_contentInv e hinv) (fun _ _ => trivial) (Sys.along_free actions)

/-- **A body is returned only of an open artifact that has not expired**, in every run. -/
theorem artifact_content_open (setup : HandlerSetup) (actions : List HandlerAction) (id : HandlerArtifactId)
    (content : String) (s' : HandlerWorld)
    (h : eval (artifactContent id) (HandlerSys.run setup actions).store = (.ok content, s')) :
    let s := (HandlerSys.run setup actions).store
    ArtifactOpen s id ∧ ∃ a ∈ s.artifacts, a.artifactId = id ∧ s.now < a.expiresAt := by
  intro s
  obtain ⟨a, ha, hnow, p, hp, -, hreachable⟩ := eval_artifactContent h
  have hartifact := List.find?_some ha
  have hcontent := List.find?_some hp
  rw [decide_eq_true_eq] at hartifact hcontent
  have hopen := (HandlerSys.contentInv setup actions).readable p (List.mem_of_find?_eq_some hp) hreachable
  exact ⟨hcontent ▸ hopen, a, List.mem_of_find?_eq_some ha, hartifact, hnow⟩

/-! ## Deletions -/

/-- The content of the artifact is stored. -/
def HandlerWorld.HasContent (s : HandlerWorld) (id : HandlerArtifactId) : Prop :=
  ∃ p ∈ s.contents, p.artifactId = id

instance (s : HandlerWorld) (id : HandlerArtifactId) : Decidable (s.HasContent id) :=
  inferInstanceAs (Decidable (∃ p ∈ s.contents, _))

/-- **Removals that come in time, and once**: a sweep of a case finds none of its contents unexpired; and an
    artifact of the case that has been deleted has the row and the event of this very removal. -/
def HandlerGuard.deletedOnce : HandlerGuard where
  txn t s := ∀ (caseId reasonCode : String) (now : Instant), t = ⟨removeContents caseId reasonCode now⟩ →
    ∀ a ∈ s.artifacts, a.caseId = caseId →
      (reasonCode = retentionExpired → s.HasContent a.artifactId → a.expiresAt ≤ now) ∧
      (∀ l ∈ s.artifactLog.rows a.artifactId, l.recordedAt = now) ∧
      ∀ e ∈ s.artifactLog.events a.artifactId, e = ⟨caseId, a.artifactId, reasonCode, now, s.now⟩
  disturb _ _ := True

/-- **The account of an artifact**: its content is stored, or it has been deleted once, and not before its
    expiry by a sweep. -/
inductive ArtifactAccount (s : HandlerWorld) (a : HandlerArtifact) : Prop
  | stored (hcontent : s.HasContent a.artifactId) (hrows : s.artifactLog.rows a.artifactId = [])
      (hevents : s.artifactLog.events a.artifactId = [])
  | deleted {row : ArtifactLifecycle} {event : ArtifactDeletion} (hgone : ¬ s.HasContent a.artifactId)
      (hrows : s.artifactLog.rows a.artifactId = [row]) (hevents : s.artifactLog.events a.artifactId = [event])
      (hdue : row.reasonCode = retentionExpired → a.expiresAt ≤ row.recordedAt)

theorem ArtifactAccount.of_eq {a : HandlerArtifact} (h : ArtifactAccount s a)
    (hcontent : s'.HasContent a.artifactId ↔ s.HasContent a.artifactId)
    (hrows : s'.artifactLog.rows a.artifactId = s.artifactLog.rows a.artifactId)
    (hevents : s'.artifactLog.events a.artifactId = s.artifactLog.events a.artifactId) : ArtifactAccount s' a := by
  cases h with
  | stored h hr he => exact .stored (hcontent.mpr h) (hrows.trans hr) (hevents.trans he)
  | deleted h hr he hdue => exact .deleted (fun hhas => h (hcontent.mp hhas)) (hrows.trans hr) (hevents.trans he) hdue

/-- **Every artifact has its account.** -/
structure DeletionInv (s : HandlerWorld) : Prop extends ContentInv s where
  account : ∀ a ∈ s.artifacts, ArtifactAccount s a

theorem deletionInv_empty : DeletionInv .empty :=
  ⟨contentInv_empty, fun _ h => absurd h List.not_mem_nil⟩

theorem hasContent_scheduled {ids : List HandlerArtifactId} {reasonCode : String} :
    (scheduleArtifactDeletion ids reasonCode s).HasContent id ↔ s.HasContent id := by
  constructor
  · rintro ⟨p, hp, rfl⟩
    exact (mem_scheduled hp).1
  · rintro ⟨p, hp, rfl⟩
    refine ⟨_, Table.mem_modify.mpr ⟨p, hp, rfl⟩, ?_⟩
    split <;> rfl

/-- The accounts after an artifact has been added. -/
theorem DeletionInv.account_added (hinv : DeletionInv s) {artifact : HandlerArtifact}
    {contents : List HandlerArtifactContent} {p : HandlerArtifactContent} (hp : p.artifactId = artifact.artifactId)
    (hfresh : ∀ a ∈ s.artifacts, artifact.clash a = false) (hartifacts : s'.artifacts = s.artifacts ++ [artifact])
    (hcontents : s'.contents = contents ++ [p])
    (hbefore : ∀ id, (∃ q ∈ contents, q.artifactId = id) ↔ s.HasContent id)
    (hrows : ∀ id, s'.artifactLog.rows id = s.artifactLog.rows id)
    (hdeletions : s'.artifactLog.deletions = s.artifactLog.deletions) :
    ∀ a ∈ s'.artifacts, ArtifactAccount s' a := by
  have hevents : ∀ id, s'.artifactLog.events id = s.artifactLog.events id := fun id => by
    rw [ArtifactLog.events, hdeletions, ArtifactLog.events]
  have hne : ∀ a ∈ s.artifacts, a.artifactId ≠ artifact.artifactId := fun a ha heq =>
    of_decide_eq_false (hfresh a ha) heq.symm
  intro a ha
  rw [hartifacts] at ha
  rcases List.mem_append.mp ha with ha | ha
  · refine (hinv.account a ha).of_eq ?_ (hrows _) (hevents _)
    rw [← hbefore, HandlerWorld.HasContent, hcontents]
    constructor
    · rintro ⟨q, hq, hid⟩
      rcases List.mem_append.mp hq with hq | hq
      · exact ⟨q, hq, hid⟩
      · rw [List.mem_singleton.mp hq, hp] at hid
        exact absurd hid.symm (hne a ha)
    · rintro ⟨q, hq, hid⟩
      exact ⟨q, List.mem_append_left _ hq, hid⟩
  · rw [List.mem_singleton.mp ha]
    refine .stored ⟨p, ?_, hp⟩ ?_ ?_
    · rw [hcontents]
      exact List.mem_append_right _ (List.mem_singleton_self _)
    · rw [hrows]
      refine List.filter_eq_nil_iff.mpr fun l hl hkey => ?_
      obtain ⟨b, hb, hid⟩ := hinv.logged l hl
      exact hne b hb (hid.trans (of_decide_eq_true hkey).1)
    · rw [hevents]
      refine List.filter_eq_nil_iff.mpr fun e he hkey => ?_
      obtain ⟨b, hb, hid⟩ := hinv.deleted e he
      exact hne b hb (hid.trans (of_decide_eq_true hkey))

/-- **The accounts after a removal** that comes in time. -/
theorem DeletionInv.account_removed (hinv : DeletionInv s) {caseId reasonCode : String} {now : Instant}
    (hA : HandlerGuard.deletedOnce.txn ⟨removeContents caseId reasonCode now⟩ s)
    (h : removeContents caseId reasonCode now s = .ok ((), s')) : ∀ a ∈ s'.artifacts, ArtifactAccount s' a := by
  have heq := removeContents_eq h
  intro a ha
  have hstored : a ∈ s.artifacts := by
    rw [heq] at ha
    exact ha
  have hlog : s'.artifactLog = (s.artifactIds caseId).foldl (ArtifactLog.delete caseId reasonCode now s.now)
      s.artifactLog := by rw [heq]
  have hcontent : s'.HasContent a.artifactId ↔ s.HasContent a.artifactId ∧ a.caseId ≠ caseId := by
    rw [Ne, ← hinv.mem_artifactIds_iff hstored, heq]
    constructor
    · rintro ⟨p, hp, hid⟩
      obtain ⟨hbefore, hother⟩ := mem_kept_contents.mp hp
      exact ⟨⟨p, hbefore, hid⟩, hid ▸ hother⟩
    · rintro ⟨⟨p, hp, hid⟩, hother⟩
      exact ⟨p, mem_kept_contents.mpr ⟨hp, hid ▸ hother⟩, hid⟩
  by_cases hcase : a.caseId = caseId
  · have hin := (hinv.mem_artifactIds_iff hstored).mpr hcase
    obtain ⟨mid, hrows, hevents, hrows', hevents'⟩ := ArtifactLog.foldl_delete s.artifactLog caseId
      reasonCode now s.now (hinv.nodup_artifactIds caseId) hin
    rw [← hlog] at hrows' hevents'
    have hgone : ¬ s'.HasContent a.artifactId := fun hhas => (hcontent.mp hhas).2 hcase
    obtain ⟨hexpired, hsameRow, hsameEvent⟩ := hA caseId reasonCode now rfl a hstored hcase
    cases hinv.account a hstored with
    | stored hhas hnone hno =>
        obtain ⟨hrow, hevent⟩ := ArtifactLog.delete_first caseId reasonCode now s.now (hrows.trans hnone)
          (hevents.trans hno)
        exact .deleted hgone (hrows'.trans hrow) (hevents'.trans hevent) fun hreason => hexpired hreason hhas
    | @deleted row event _ hone hsingle hdue =>
        -- the row and the event of this removal are there
        have hrow : row ∈ mid.rows a.artifactId := by rw [hrows, hone]; exact List.mem_singleton_self _
        have hevent : event = ⟨caseId, a.artifactId, reasonCode, now, s.now⟩ :=
          hsameEvent event (by rw [hsingle]; exact List.mem_singleton_self _)
        have hagain := ArtifactLog.delete_again caseId reasonCode now s.now hrow
          (hsameRow row (by rw [hone]; exact List.mem_singleton_self _))
          (by rw [hevents, hsingle, hevent]; exact List.mem_singleton_self _)
        rw [hagain] at hrows' hevents'
        exact .deleted hgone (hrows'.trans (hrows.trans hone)) (hevents'.trans (hevents.trans hsingle)) hdue
  · have hother : a.artifactId ∉ s.artifactIds caseId := fun hin =>
      hcase ((hinv.mem_artifactIds_iff hstored).mp hin)
    obtain ⟨hrows, hevents⟩ := ArtifactLog.foldl_delete_other s.artifactLog caseId reasonCode now s.now
      hother
    rw [← hlog] at hrows hevents
    exact (hinv.account a hstored).of_eq (hcontent.trans (and_iff_left hcase)) hrows hevents

theorem HandlerStep.deletionInv {O : HandlerOp → Prop} (h : HandlerStep setup (s'.view .deletedOnce O) s s')
    (hinv : DeletionInv s) : DeletionInv s' := by
  refine ⟨h.contentInv hinv.toContentInv, ?_⟩
  generalize hV : s'.view .deletedOnce O = V at h
  cases h with
  | @issue binding c artifacts contents hb hbinding hnone hready hversion hcandidate hrequest hartifact =>
      obtain ⟨artifact, hcase, hadded, normalized, hcontent⟩ := hartifact
      obtain ⟨hfresh, rfl⟩ := Table.insert?_eq_some.mp hadded
      obtain ⟨-, rfl⟩ := Table.insert?_eq_some.mp hcontent
      exact hinv.account_added (by exact rfl) hfresh rfl rfl (fun _ => .rfl) (fun _ => rfl) rfl
  | @retained caseId reasonCode now contents artifactLog hclock hA hremoved =>
      rw [← hV] at hA
      exact hinv.account_removed hA.2 hremoved
  | @candidate binding c version artifact issue revision now request model lifecycle artifacts contents artifactLog
      candidateBindings hc hauth hrevision hrequest hnew hfresh heffect hartifacts =>
      obtain ⟨candidateHash, ids, hartifact, hids, ⟨hadded, normalized, hcontent⟩, rfl⟩ := hartifacts
      obtain ⟨hapart, rfl⟩ := Table.insert?_eq_some.mp hadded
      obtain ⟨-, rfl⟩ := Table.insert?_eq_some.mp hcontent
      obtain ⟨hdeletions, hrows, -⟩ := scheduled_log s ids "candidate_superseded"
      exact hinv.account_added (by exact rfl) hapart rfl rfl (fun _ => hasContent_scheduled) hrows hdeletions
  | @simple binding c version command ids hop hc hauth hstored hids =>
      obtain ⟨hdeletions, hrows, -⟩ := scheduled_log s ids "handler_rejected"
      refine fun a ha => (hinv.account a ha).of_eq hasContent_scheduled (hrows _) ?_
      exact congrArg (List.filter _) hdeletions
  | _ => exact fun a ha => (hinv.account a ha).of_eq .rfl rfl rfl

theorem HandlerSys.deletionInv (h : HandlerSys.Along setup .deletedOnce actions) :
    DeletionInv (HandlerSys.run setup actions).store := by
  refine HandlerSys.invariant (O := fun _ => True) deletionInv_empty (fun _ _ hinv hstep => hstep.deletionInv hinv)
    (fun e s _ hinv => ⟨handlerDisturbance_contentInv e hinv.toContentInv, ?_⟩) (fun _ _ => trivial) h
  cases e <;> exact fun a ha => (hinv.account a ha).of_eq .rfl rfl rfl

/-- A transaction that returns something removes nothing. -/
theorem HandlerGuard.deletedOnce_advance {c : HandlerSys} {i : Nat} {α : Type}
    (hresult : (c.next? i).map AnyTxn.result = some α) {a b : α} (hne : a ≠ b) :
    c.Allows HandlerGuard.deletedOnce (.advance i : HandlerAction) := by
  intro t ht
  rw [ht, Option.map_some, Option.some.injEq] at hresult
  rintro caseId reasonCode now rfl
  have hunit : α = Unit := hresult.symm
  subst hunit
  exact absurd rfl hne

/-- A first removal that finds nothing unexpired. -/
theorem HandlerGuard.deletedOnce_first {caseId reasonCode : String} {now : Instant}
    (hlog : s.artifactLog = ⟨[], []⟩) (hexpired : ∀ a ∈ s.artifacts, a.expiresAt ≤ now) :
    HandlerGuard.deletedOnce.txn ⟨removeContents caseId reasonCode now⟩ s := by
  intro caseId' reasonCode' now' heq a ha hcase
  have hrun : removeContents caseId reasonCode now s = removeContents caseId' reasonCode' now' s :=
    congrFun (eq_of_heq (AnyTxn.mk.inj heq).2) s
  have hlogs : (s.artifactIds caseId).foldl (ArtifactLog.delete caseId reasonCode now s.now) s.artifactLog =
      (s.artifactIds caseId').foldl (ArtifactLog.delete caseId' reasonCode' now' s.now) s.artifactLog :=
    congrArg (fun r : Unit × HandlerWorld => r.2.artifactLog) (Except.ok.inj hrun)
  -- both removals leave the event of the artifact
  have hevent := ArtifactLog.event_of_foldl_delete s.artifactLog caseId' reasonCode' now' s.now
    (.inl (mem_artifactIds.mpr ⟨a, ha, hcase, rfl⟩))
  rw [← hlogs] at hevent
  obtain ⟨id, -, hsame⟩ := (ArtifactLog.mem_foldl_delete.2 _ hevent).resolve_left (by rw [hlog]; exact List.not_mem_nil)
  have hnow : now' = now := (ArtifactDeletion.mk.inj hsame).2.2.2.1
  have hrows : s.artifactLog.rows a.artifactId = [] := by rw [hlog]; rfl
  have hevents : s.artifactLog.events a.artifactId = [] := by rw [hlog]; rfl
  rw [hrows, hevents, hnow]
  exact ⟨fun _ _ => hexpired a ha, nofun, nofun⟩

/-- There is no artifact. -/
def HandlerWorld.noArtifacts (s : HandlerWorld) : Bool := s.artifacts.isEmpty

theorem HandlerGuard.deletedOnce_of_noArtifacts (s : HandlerWorld) (h : s.noArtifacts = true) :
    (∀ t, HandlerGuard.deletedOnce.txn t s) ∧ ∀ e, HandlerGuard.deletedOnce.disturb e s := by
  have hnone : s.artifacts = [] := List.isEmpty_iff.mp h
  refine ⟨fun t caseId reasonCode now _ a ha => ?_, fun _ => trivial⟩
  rw [hnone] at ha
  cases ha

/-- The case is opened, and its issue expires. -/
def expiredIssue : List HandlerAction := openedCase ++ [.disturb (.elapse handlerArtifactTtl)]

/-- The case is swept. -/
def sweptInTime : List HandlerAction := expiredIssue ++ callSteps .deleteExpiredArtifacts 2 4

set_option maxRecDepth 20000 in
theorem deletedOnce_sweptInTime : HandlerSys.Along plainSetup .deletedOnce sweptInTime := by
  have hopened : HandlerSys.Along plainSetup .deletedOnce openedCase :=
    Sys.along_of_startsIn HandlerGuard.deletedOnce_of_noArtifacts (by decide +kernel)
  have hexpired : HandlerSys.Along plainSetup .deletedOnce expiredIssue :=
    Sys.along_concat.mpr ⟨hopened, trivial⟩
  refine Sys.along_append.mpr ⟨hexpired, trivial, ?_, ?_, ?_, ?_, trivial⟩
  · exact HandlerGuard.deletedOnce_advance (Eq.refl (some Instant)) (a := (0 : Nat)) (b := (1 : Nat)) (by simp)
  · exact HandlerGuard.deletedOnce_advance (Eq.refl (some (List String))) (a := []) (b := [""]) (by simp)
  · exact HandlerGuard.deletedOnce_advance (Eq.refl (some Instant)) (a := (0 : Nat)) (b := (1 : Nat)) (by simp)
  · intro t ht
    have hnext : some t = some ⟨removeContents "c1" retentionExpired handlerArtifactTtl⟩ := ht.symm.trans rfl
    rw [Option.some.inj hnext]
    exact HandlerGuard.deletedOnce_first (by decide +kernel) (by decide +kernel)

/-- An answer is drafted ten minutes after the case was opened, and the case is swept when the content of its
    issue expires. -/
def sweptEarly : List HandlerAction :=
  openedCase ++ [.disturb (.pairing [onlyGroup]), .disturb (.elapse 600000000)] ++
    callSteps (.privateEvent .second onlyBinding (privateMessage "m1" 1 (.draft "answer"))) 2 40 ++
    [.disturb (.elapse (handlerArtifactTtl - 600000000))] ++ callSteps .deleteExpiredArtifacts 3 4

/-- Two sweeps find the same case, and the second one removes its contents a second later. -/
def sweptTwice : List HandlerAction :=
  openedCase ++ [.disturb (.elapse handlerArtifactTtl)] ++ callSteps .deleteExpiredArtifacts 2 2 ++
    callSteps .deleteExpiredArtifacts 3 2 ++ [.advance 2, .advance 2, .disturb (.elapse 1000000), .advance 3, .advance 3]

/-- **An artifact has two deletion rows and two deletion events.** -/
theorem artifact_deleted_twice :
    let s := (HandlerSys.run plainSetup sweptTwice).store
    ∃ a ∈ s.artifacts, (s.artifactLog.rows a.artifactId).length = 2 ∧
      (s.artifactLog.events a.artifactId).length = 2 := by
  decide +kernel

end WeFlow
