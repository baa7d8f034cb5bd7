import FollowClient.Proofs.View.Sound

/-!
Where the displayed status comes from. A status read counts only in the epoch in which it was
issued, and the epoch counts the local writes. So whatever is displayed was written by the last
local write, or was reported by a read that is younger than it.
-/

namespace FollowClient.View

open Relationship (report_isFollowing)

/-! ### Since the last local write -/

theorem lastWrite_append {l log : List Entry} (h : writes l = 0) :
    lastWrite (l ++ log) = lastWrite log := by
  induction l with
  | nil => rfl
  | cons x l ih =>
    have hx : ¬ x.isWrote = true := List.countP_eq_zero.1 h x List.mem_cons_self
    rw [writes, List.countP_cons_of_neg hx] at h
    cases x with
    | wrote s => exact absurd rfl hx
    | _ => exact ih h

theorem sinceWrite_append {l log : List Entry} (h : writes l = 0) :
    sinceWrite (l ++ log) = l ++ sinceWrite log := by
  refine List.takeWhile_append_of_pos fun x hx => ?_
  have := List.countP_eq_zero.1 h x hx
  simpa using this

/-- What was recorded in the present epoch was recorded since the last local write. -/
theorem mem_sinceWrite {newer older : List Entry} {x : Entry} (hx : x.isWrote = false)
    (h : writes (newer ++ x :: older) = writes older) : x ∈ sinceWrite (newer ++ x :: older) := by
  have hn : writes newer = 0 := by
    rw [writes, List.countP_append, List.countP_cons_of_neg (by simp [hx])] at h
    have : writes newer + writes older = writes older := h
    omega
  rw [sinceWrite_append hn]
  refine List.mem_append_right _ ?_
  rw [sinceWrite, List.takeWhile_cons_of_pos (by simp [hx])]
  exact List.mem_cons_self

section Entries

variable {setup : Setup} {v : View} {e : Event}

theorem writes_entries_of_none (h : v.localWrite? setup e = none) :
    writes (v.entries setup e) = 0 := by
  rw [writes_entries, h]
  rfl

/-- The last local write after a step. -/
theorem lastWrite_entries (log : List Entry) : lastWrite (v.entries setup e ++ log) =
    (v.localWrite? setup e).getD (lastWrite log) := by
  cases h : v.localWrite? setup e with
  | none => exact lastWrite_append (writes_entries_of_none h)
  | some w =>
    have hl : v.entries setup e ++ log =
        (v.outputEntries setup e ++ v.displayEntries setup e) ++
          .wrote w :: (v.arrivals e ++ log) := by
      simp [entries, writeEntries, h]
    have hn : writes (v.outputEntries setup e ++ v.displayEntries setup e) = 0 := by
      simp [writes]
    rw [hl, lastWrite_append hn]
    rfl

end Entries

/-! ### Provenance -/

/-- **The displayed status is that of the last local write**, or it was reported by a status read
that was issued for the displayed actor after that write. -/
def Provenant (s : Logged) : Prop :=
  s.view.display.relationship.status = lastWrite s.log ∨
  ∃ ticket who epoch after, s.view.display.actorId = some who ∧
    .did (.call ticket (.status who)) ∈ sinceWrite s.log ∧
    .landed ticket (.status who epoch after (.ok s.view.display.relationship.status)) ∈
      sinceWrite s.log

section Step

variable {setup : Setup} {s : Logged} {e : Event}

/-- A read that counts has been issued since the last local write. -/
theorem call_mem_sinceWrite (h : Sound setup s) {ticket : Nat} {who : String} {epoch : Nat}
    {after : AfterRead} (hf : (ticket, .status who epoch after) ∈ s.view.flights)
    (he : epoch = s.view.display.relationship.epoch) :
    .did (.call ticket (.status who)) ∈ sinceWrite s.log := by
  obtain ⟨newer, older, hlog, -, hep, -⟩ := h.recorded _ hf
  have hw : writes s.log = writes older := by rw [← h.epoch, ← he, hep epoch rfl]
  rw [hlog] at hw ⊢
  exact mem_sinceWrite rfl hw

theorem provenant_of_unchanged (h : Provenant s) (hw : s.view.localWrite? setup e = none)
    (hr : (s.step setup e).view.display.relationship = s.view.display.relationship) :
    Provenant (s.step setup e) := by
  have hn := writes_entries_of_none hw
  have ha : (s.step setup e).view.display.actorId = s.view.display.actorId :=
    step_actorId_of_localWrite?_eq_none hw
  have hl : sinceWrite (s.step setup e).log = s.view.entries setup e ++ sinceWrite s.log :=
    sinceWrite_append hn
  rcases h with h | ⟨ticket, who, epoch, after, hwho, hcall, hland⟩
  · refine .inl ?_
    rw [hr, h]
    exact (lastWrite_append hn).symm
  · refine .inr ⟨ticket, who, epoch, after, ha.trans hwho, ?_, ?_⟩
    · rw [hl]
      exact List.mem_append_right _ hcall
    · rw [hl, hr]
      exact List.mem_append_right _ hland

theorem provenant_of_report (hs : Sound setup s) (h : Provenant s) {epoch : Nat}
    {status : FollowStatus} (hw : s.view.localWrite? setup e = none)
    (hr : s.view.report? e = some (epoch, status)) : Provenant (s.step setup e) := by
  have hrel : (s.step setup e).view.display.relationship =
      s.view.display.relationship.report epoch status := by
    show (s.view.step setup e).1.display.relationship = _
    rw [step_relationship, hw, hr]
  cases hacc : s.view.display.relationship.accepts epoch status with
  | false =>
    exact provenant_of_unchanged h hw (hrel.trans (Relationship.report_of_not_accepts hacc))
  | true =>
    obtain ⟨who, after, hl, -, hwho⟩ := report?_eq_some.1 hr
    obtain ⟨ticket, a, f, rfl, hf, hfl⟩ := landing?_eq_some hl
    obtain ⟨rfl, -⟩ := landing?_eq_status hfl
    have he : epoch = s.view.display.relationship.epoch := by
      simp only [Relationship.accepts, Bool.and_eq_true, decide_eq_true_eq] at hacc
      exact hacc.1
    have hst : (s.step setup (.answered ticket a)).view.display.relationship.status = status := by
      rw [hrel, Relationship.report_status_of_accepts hacc]
    have hsince : sinceWrite (s.step setup (.answered ticket a)).log =
        s.view.entries setup (.answered ticket a) ++ sinceWrite s.log :=
      sinceWrite_append (writes_entries_of_none hw)
    refine .inr ⟨ticket, who, epoch, after, ?_, ?_, ?_⟩
    · exact (step_actorId_of_localWrite?_eq_none hw).trans hwho
    · rw [hsince]
      exact List.mem_append_right _ (call_mem_sinceWrite hs (flight?_eq_some hf) he)
    · rw [hsince, hst]
      exact List.mem_append_left _ (mem_entries_of_landing? hl)

theorem provenant_step (hs : Sound setup s) (h : Provenant s) (e : Event) :
    Provenant (s.step setup e) := by
  have hrel : (s.step setup e).view.display.relationship =
      (s.view.step setup e).1.display.relationship := rfl
  rw [step_relationship] at hrel
  cases hw : s.view.localWrite? setup e with
  | some w =>
    refine .inl ?_
    show _ = lastWrite (_ ++ _)
    rw [hrel, lastWrite_entries, hw]
    rfl
  | none =>
    cases hr : s.view.report? e with
    | some x => exact provenant_of_report hs h hw hr
    | none =>
      rw [hw, hr] at hrel
      exact provenant_of_unchanged h hw hrel

theorem Logged.provenant_run (setup : Setup) (events : List Event) :
    Provenant (run setup events) := by
  have both : Sound setup (run setup events) ∧ Provenant (run setup events) :=
    run_induction (P := fun s => Sound setup s ∧ Provenant s) ⟨sound_start setup, .inl rfl⟩
      (fun s e h => ⟨sound_step h.1 e, provenant_step h.1 h.2 e⟩) events
  exact both.2

end Step

/-- A read that lands leaves the epoch, and the relationship if it does not count. -/
theorem relationship_of_read (setup : Setup) {v : View} {e : Event} {who : String} {epoch : Nat}
    {after : AfterRead} {r : Except Failure FollowStatus}
    (h : v.landing? e = some (.status who epoch after r)) :
    (v.step setup e).1.display.relationship = v.display.relationship ∨
    ∃ s, r = .ok s ∧ (v.step setup e).1.display.relationship =
      v.display.relationship.report epoch s := by
  have hw : v.localWrite? setup e = none := by
    obtain ⟨ticket, a, f, rfl, -, -⟩ := landing?_eq_some h
    simp [localWrite?, h, Landing.write?]
  rw [step_relationship, hw]
  cases hr : v.report? e with
  | none => exact .inl rfl
  | some x =>
    obtain ⟨who', after', hl, -, -⟩ := report?_eq_some.1 hr
    obtain ⟨-, rfl, -, rfl⟩ : who = who' ∧ epoch = x.1 ∧ after = after' ∧ r = .ok x.2 := by
      simpa [h] using hl
    exact .inr ⟨x.2, rfl, rfl⟩

/-- **Provenance of the displayed status**, for every run. Local writes alone start new epochs, and
a read that lands never turns a follow into none. -/
theorem status_provenance (setup : Setup) (events : List Event) :
    Provenant (.run setup events) ∧
    (Logged.run setup events).view.display.relationship.epoch =
      writes (Logged.run setup events).log ∧
    ∀ e, let before := (Logged.run setup events).view
      let after := (before.step setup e).1
      (∀ w, before.localWrite? setup e = some w → after.display.relationship.status = w ∧
        before.display.relationship.epoch < after.display.relationship.epoch) ∧
      (∀ who epoch next r, before.landing? e = some (.status who epoch next r) →
        after.display.relationship.epoch = before.display.relationship.epoch ∧
        (before.display.relationship.status ≠ .none →
          after.display.relationship.status ≠ .none)) ∧
      (before.localWrite? setup e = none →
        (∀ who epoch next r, before.landing? e ≠ some (.status who epoch next r)) →
        after.display.relationship = before.display.relationship) := by
  refine ⟨Logged.provenant_run setup events, (Logged.sound_run setup events).epoch,
    fun e => ⟨fun w hw => ?_, ?_, ?_⟩⟩
  · rw [relationship_of_write hw]
    exact ⟨rfl, Nat.lt_succ_self _⟩
  · intro who epoch next r hl
    rcases relationship_of_read setup hl with h | ⟨s, -, h⟩
    · rw [h]
      exact ⟨rfl, id⟩
    · rw [h]
      refine ⟨Relationship.report_epoch _ _ _, fun hn hs => ?_⟩
      have hf : (Logged.run setup events).view.display.relationship.isFollowing = true := by
        cases hk : (Logged.run setup events).view.display.relationship.isFollowing with
        | true => rfl
        | false => exact absurd (FollowStatus.isFollowing_eq_false_iff.1 hk) hn
      have := report_isFollowing epoch s hf
      rw [Relationship.isFollowing, hs] at this
      cases this
  · intro hw hr
    exact relationship_of_stale hw fun who next r => hr who _ next r

/-- A status is reported, and undone by a toggle. -/
theorem provenance_of_shown :
    (Logged.run usual (shown "a" ++ [accepted])).view.display.relationship = ⟨.accepted, 1⟩ ∧
    Provenant (.run usual (shown "a" ++ [accepted])) ∧
    (Logged.run usual (shown "a" ++ [accepted])).view.display.relationship.epoch =
      (Logged.run usual (shown "a")).view.display.relationship.epoch ∧
    (Logged.run usual (shown "a" ++ [accepted, .toggle 1])).view.display.relationship.status =
      .none := by
  refine ⟨rfl, (status_provenance usual _).1, ?_, ?_⟩
  · have landed := ((status_provenance usual (shown "a")).2.2 accepted).2.1
    exact (landed "a" 1 (.returns 0) (.ok .accepted) rfl).1
  · have wrote := ((status_provenance usual (shown "a" ++ [accepted])).2.2 (.toggle 1)).1
    exact (wrote .none rfl).1

end FollowClient.View
