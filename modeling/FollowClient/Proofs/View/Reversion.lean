import FollowClient.Proofs.View.Confirmation
import FollowClient.Proofs.View.Exclusion
import FollowClient.Proofs.View.Polling

/-!
A toggle that fails. Its request was shown before the core had agreed, so its failure is a local
write that brings the status before the toggle back, whatever has been read meanwhile. Like every
local write it starts a new epoch, and the reads that were issued before it are outdated for good
(`Outdated`). The toggle returns the message when the read that follows the failure is answered.
-/

namespace FollowClient.View

/-! ### Reads that no longer count -/

/-- The reads with a ticket below `n` belong to epochs that are over. -/
structure Outdated (n : Nat) (v : View) : Prop where
  given : n ≤ v.nextTicket
  old : ∀ x ∈ v.flights, x.1 < n → ∀ epoch, x.2.epoch? = some epoch →
    epoch < v.display.relationship.epoch

section Outdated

variable {setup : Setup}

/-- No read is issued in an epoch that is still to come. -/
theorem epoch_le_of_mem {s : Logged} (h : Sound setup s) {x : Nat × Flight}
    (hx : x ∈ s.view.flights) {epoch : Nat} (he : x.2.epoch? = some epoch) :
    epoch ≤ s.view.display.relationship.epoch := by
  obtain ⟨newer, older, hlog, -, hep, -⟩ := h.recorded x hx
  have now : s.view.display.relationship.epoch = writes newer + writes older := by
    rw [h.epoch, hlog, writes, List.countP_append, List.countP_cons_of_neg (by simp [Entry.isWrote])]
    rfl
  have issued : epoch = writes older := hep epoch he
  omega

/-- A flight after a step was in the air before it, or has a new ticket. -/
theorem mem_flights_or_new {v : View} {e : Event} {fs : List Flight}
    (hc : StepCalls setup v e fs) {x : Nat × Flight} (hx : x ∈ (v.step setup e).1.flights) :
    x ∈ v.flights ∨ v.nextTicket ≤ x.1 := by
  rcases List.mem_append.1 (hc.makes.sub.subset hx) with hx | hx
  · exact .inl (others_sublist.subset hx)
  · exact .inr (mem_ticketed hx).1

/-- **A local write outdates the reads that were issued before it.** -/
theorem outdated_of_write {s : Logged} (h : Sound setup s) {e : Event} {w : FollowStatus}
    (hw : s.view.localWrite? setup e = some w) :
    Outdated s.view.nextTicket (s.view.step setup e).1 := by
  obtain ⟨fs, hc⟩ := step_calls setup s.view e
  have next : (s.view.step setup e).1.nextTicket = s.view.nextTicket + fs.length := hc.makes.next
  refine ⟨by omega, ?_⟩
  intro x hx hlt epoch he
  rw [relationship_of_write hw]
  rcases mem_flights_or_new hc hx with hx | hx
  · exact Nat.lt_succ_of_le (epoch_le_of_mem h hx he)
  · omega

theorem outdated_step {n : Nat} {v : View} (h : Outdated n v) (e : Event) :
    Outdated n (v.step setup e).1 := by
  obtain ⟨fs, hc⟩ := step_calls setup v e
  have next : (v.step setup e).1.nextTicket = v.nextTicket + fs.length := hc.makes.next
  have given := h.given
  refine ⟨by omega, ?_⟩
  intro x hx hlt epoch he
  rw [epoch_step]
  rcases mem_flights_or_new hc hx with hx | hx
  · have := h.old x hx hlt epoch he
    omega
  · omega

theorem outdated_run {n : Nat} {v : View} (h : Outdated n v) (later : List Event) :
    Outdated n (v.run setup later) := by
  induction later generalizing v with
  | nil => exact h
  | cons e later ih => exact ih (outdated_step h e)

/-- The answer to an outdated read leaves the relationship as it is. -/
theorem Outdated.relationship_step {n : Nat} {v : View} (h : Outdated n v) {ticket : Nat}
    (ht : ticket < n) (r : Except Failure FollowStatus) :
    (v.step setup (.answered ticket (.status r))).1.display.relationship =
      v.display.relationship := by
  have reads : ∀ l, v.landing? (.answered ticket (.status r)) = some l →
      ∃ who epoch after, (ticket, .status who epoch after) ∈ v.flights ∧
        l = .status who epoch after r := by
    intro l hl
    obtain ⟨t, a, f, he, hf, hfl⟩ := landing?_eq_some hl
    cases he
    cases f with
    | status who epoch after =>
      exact ⟨who, epoch, after, flight?_eq_some hf, (Option.some.inj hfl).symm⟩
    | _ => cases hfl
  apply relationship_of_stale
  · show (v.landing? _).bind _ = none
    cases hl : v.landing? (.answered ticket (.status r)) with
    | none => rfl
    | some l =>
      obtain ⟨who, epoch, after, -, rfl⟩ := reads l hl
      rfl
  · intro who after r' hl
    obtain ⟨who', epoch, after', hm, heq⟩ := reads _ hl
    cases heq
    exact absurd (h.old _ hm ht _ rfl) (Nat.lt_irrefl _)

end Outdated

/-! ### The three steps of a toggle that fails -/

section Steps

variable {setup : Setup} {v : View}

/-- The request of a toggle is in the air, with the status shown before it. -/
theorem step_toggle_requests (h : v.canToggle setup = true) (caller : Nat) :
    ∃ who, v.display.actorId = some who ∧ (v.step setup (.toggle caller)).1.recheck = v.recheck ∧
      (v.nextTicket, .request caller who v.display.relationship.status
        (Relationship.toggled v.display.relationship.status)) ∈
          (v.step setup (.toggle caller)).1.flights := by
  obtain ⟨p, hp, hs⟩ := step_toggle_eq h caller
  rw [hs]
  refine ⟨p.id, congrArg (Option.map _) hp, rfl, ?_⟩
  exact List.mem_append_right _ (List.mem_singleton.2 rfl)

/-- A request that fails for the displayed actor is reverted, and the status is read. -/
theorem landRequest_of_error (ha : v.alive = true) (hc : setup.hasControl = true) {who : String}
    (hw : v.display.actorId = some who) (caller : Nat) (prior optimistic : FollowStatus)
    (f : Failure) :
    v.landRequest setup caller who prior optimistic (.error f) =
      ((v.reverted prior f.message).syncPoll setup prior).issue setup
        (.status who (v.display.relationship.epoch + 1) (.reverts caller f.message)) := by
  have frame := syncPoll_frame setup (v.reverted prior f.message) prior
  have target : ((v.reverted prior f.message).syncPoll setup prior).readTarget? setup =
      some who := by
    refine (readTarget?_eq_some setup _).2 ⟨frame.2.2.1.trans ha, hc, ?_⟩
    rw [frame.1]
    exact hw
  have cond : (v.alive && decide (v.display.actorId = some who)) = true := by simp [ha, hw]
  rw [landRequest_eq, if_pos cond]
  dsimp only
  rw [readStatus_eq, target, frame.1]
  rfl

/-- **The failure of a request** for the displayed actor brings the status before it back and shows
the message. The poll follows the status, the re-check stays, and the status is read. -/
theorem step_of_failed_request {ticket caller : Nat} {who : String}
    {prior optimistic : FollowStatus}
    (hf : v.flight? ticket = some (.request caller who prior optimistic)) (ha : v.alive = true)
    (hc : setup.hasControl = true) (hw : v.display.actorId = some who) (f : Failure) :
    let next := v.step setup (.answered ticket (.request (.error f)))
    next.1.display = { v.display with
      relationship := v.display.relationship.force prior, error := some f.message } ∧
    Matched next.1 ∧ next.1.recheck = v.recheck ∧ next.2 = [.call v.nextTicket (.status who)] ∧
    (v.nextTicket, .status who (v.display.relationship.epoch + 1) (.reverts caller f.message)) ∈
      next.1.flights := by
  intro next
  have hl : v.landing? (.answered ticket (.request (.error f))) =
      some (.request caller who prior optimistic (.error f)) := by
    simp [landing?, hf, Flight.landing?]
  let c := v.cleared ticket (.request (.error f))
  have frame := syncPoll_frame setup (c.reverted prior f.message) prior
  have issued : next = ((c.reverted prior f.message).syncPoll setup prior).issue setup
      (.status who (v.display.relationship.epoch + 1) (.reverts caller f.message)) := by
    show v.step setup _ = _
    rw [step_of_landing hl]
    exact landRequest_of_error (v := c) ha hc hw caller prior optimistic f
  have given : ((c.reverted prior f.message).syncPoll setup prior).nextTicket = v.nextTicket :=
    frame.2.2.2.2.2.2
  have poll : Matched ((c.reverted prior f.message).syncPoll setup prior) :=
    matched_syncPoll setup (c.reverted prior f.message) ha rfl
  rw [issued]
  refine ⟨frame.1, poll, frame.2.2.2.2.1, ?_, ?_⟩
  · rw [issue, given]
    rfl
  · rw [← given]
    exact List.mem_append_right _ (List.mem_singleton.2 rfl)

/-- The return of a toggle that failed. -/
theorem step_of_reverts {ticket caller epoch : Nat} {who message : String}
    (hf : v.flight? ticket = some (.status who epoch (.reverts caller message)))
    (r : Except Failure FollowStatus) :
    let next := v.step setup (.answered ticket (.status r))
    next.2 = [.returned caller (some (.failed message))] ∧ next.1.recheck = v.recheck ∧
    next.1.toggling = false := by
  intro next
  have hl : v.landing? (.answered ticket (.status r)) =
      some (.status who epoch (.reverts caller message) r) := by
    simp [landing?, hf, Flight.landing?]
  have hs : next = ((v.cleared ticket (.status r)).landStatus setup who epoch r).afterRead setup
      (.reverts caller message) := by
    show v.step setup _ = _
    rw [step_of_landing hl]
    simp [Landing.effect, landRead]
  rw [hs]
  refine ⟨rfl, ?_, rfl⟩
  exact (landStatus_frame setup (v.cleared ticket (.status r)) who epoch r).2.2.2.2.1

end Steps

/-! ### Every run -/

section Run

variable {setup : Setup}

/-- The request of a toggle is in the air until it is answered. -/
theorem flight?_of_toggle {before during : List Event} (caller : Nat)
    (can : (Logged.run setup before).view.canToggle setup = true)
    (hn : ∀ r, .answered (Logged.run setup before).view.nextTicket (.request r) ∉ during) :
    ∃ who, (Logged.run setup before).view.display.actorId = some who ∧
      (Logged.run setup (before ++ .toggle caller :: during)).view.flight?
          (Logged.run setup before).view.nextTicket =
        some (.request caller who (Logged.run setup before).view.display.relationship.status
          (Relationship.toggled (Logged.run setup before).view.display.relationship.status)) := by
  obtain ⟨who, hw, -, hm⟩ := step_toggle_requests can caller
  refine ⟨who, hw, flight?_of_mem (Logged.sound_run setup _).nodup ?_⟩
  have sound := sound_step (Logged.sound_run setup before) (.toggle caller)
  rw [Logged.run_append]
  exact mem_flights_of_not_fits sound hm rfl (not_fits_of_request hn caller who _ _)

/-- A toggle that failed is under way until its last read is answered, and then returns the message. -/
theorem waits_of_reverts {s : Logged} (h : Sound setup s) {ticket caller epoch : Nat}
    {who message : String}
    (hm : (ticket, .status who epoch (.reverts caller message)) ∈ s.view.flights)
    {later : List Event} (hn : ∀ r, .answered ticket (.status r) ∉ later) :
    let w := s.view.run setup later
    w.toggling = true ∧ ∀ r, let last := w.step setup (.answered ticket (.status r))
      last.2 = [.returned caller (some (.failed message))] ∧ last.1.recheck = w.recheck ∧
      last.1.toggling = false := by
  have sound : Sound setup (later.foldl (Logged.step setup) s) :=
    Logged.foldl_induction (P := Sound setup) (fun _ e hs => sound_step hs e) later s h
  have still := mem_flights_of_not_fits h hm rfl
    (not_fits_of_status hn who epoch (.reverts caller message))
  have busy := toggling_of_mem sound still rfl
  have found := flight?_of_mem sound.nodup still
  rw [Logged.foldl_view] at busy found
  exact ⟨busy, fun r => step_of_reverts found r⟩

/-- **A toggle that fails reverts**, in every run. Its request is made by the view `u`, and fails in
the view `v` while its actor is displayed, whatever has happened meanwhile. The failure brings back
the status that `u` shows, with the message and the poll that go with it, and leaves the rest of the
display and the re-check alone. No read that was issued before it changes the relationship any more.
The toggle is under way until the read that follows the failure is answered, and then returns the
message. None of its steps touches the re-check. -/
theorem failed_toggle_reverts (setup : Setup) (before during : List Event) (caller : Nat)
    (f : Failure) (can : (View.run setup .start before).canToggle setup = true)
    (hn : ∀ r, .answered (View.run setup .start before).nextTicket (.request r) ∉ during)
    (alive : (View.run setup .start (before ++ .toggle caller :: during)).alive = true)
    (same : (View.run setup .start (before ++ .toggle caller :: during)).display.actorId =
      (View.run setup .start before).display.actorId) :
    let u := View.run setup .start before
    let v := View.run setup .start (before ++ .toggle caller :: during)
    let next := v.step setup (.answered u.nextTicket (.request (.error f)))
    (u.step setup (.toggle caller)).1.recheck = u.recheck ∧
    next.1.display = { v.display with
      relationship := v.display.relationship.force u.display.relationship.status
      error := some f.message } ∧
    (next.1.poll.isActive = true ↔ u.display.relationship.status = .pending) ∧
    next.1.recheck = v.recheck ∧
    (∃ who, u.display.actorId = some who ∧ next.2 = [.call v.nextTicket (.status who)]) ∧
    ∀ later, let w := next.1.run setup later
      (∀ ticket < v.nextTicket, ∀ r,
        (w.step setup (.answered ticket (.status r))).1.display.relationship =
          w.display.relationship) ∧
      ((∀ r, .answered v.nextTicket (.status r) ∉ later) → w.toggling = true ∧
        ∀ r, let last := w.step setup (.answered v.nextTicket (.status r))
          last.2 = [.returned caller (some (.failed f.message))] ∧
          last.1.recheck = w.recheck ∧ last.1.toggling = false) := by
  rw [← Logged.run_view] at can hn same ⊢
  rw [← Logged.run_view] at alive same ⊢
  intro u v next
  obtain ⟨who, hw, hf⟩ := flight?_of_toggle caller can hn
  have sound := Logged.sound_run setup (before ++ .toggle caller :: during)
  have control := Logged.controlled_run setup _ _ (flight?_eq_some hf) rfl
  obtain ⟨display, matched, recheck, calls, waits⟩ :=
    step_of_failed_request hf alive control (same.trans hw) f
  have poll : next.1.poll.isActive = true ↔ u.display.relationship.status = .pending := by
    have status : next.1.display.relationship.status = u.display.relationship.status := by
      rw [display]
      rfl
    rw [← status]
    exact matched
  have write : v.localWrite? setup (.answered u.nextTicket (.request (.error f))) =
      some u.display.relationship.status := by
    simp [localWrite?, landing?, hf, Flight.landing?, Landing.write?, alive, same, hw, verdict,
      u, v]
  obtain ⟨-, -, untouched, -⟩ := step_toggle_requests can caller
  refine ⟨untouched, display, poll, recheck, ⟨who, hw, calls⟩, fun later => ⟨?_, ?_⟩⟩
  · intro ticket ht r
    exact (outdated_run (outdated_of_write sound write) later).relationship_step ht r
  · intro hq
    have after := sound_step sound (.answered u.nextTicket (.request (.error f)))
    exact waits_of_reverts after waits hq

end Run

/-- The core does not take the request. -/
def declined : Failure := .transport "declined"

/-- While its request is under way the status is read twice: one read is answered, one waits. -/
def readTwice : List Event := [.refresh 2, .answered 3 (.status (.ok .accepted)), .refresh 3]

/-- A follow is reported and then refused: the view shows none again, and the read that still waits
cannot change that. -/
theorem refused_follow_reverts :
    let u := View.run usual .start (shown "a")
    let v := View.run usual .start (shown "a" ++ .toggle 1 :: readTwice)
    let next := v.step usual (.answered 2 (.request (.error declined)))
    u.display.relationship.status = .none ∧ v.display.relationship.status = .accepted ∧
    next.1.display.relationship.status = .none ∧ next.1.poll.isActive = false ∧
    (next.1.step usual (.answered 4 (.status (.ok .accepted)))).1.display.relationship.status =
      .none ∧
    (next.1.step usual (.answered 5 (.status (.ok .none)))).2 =
      [.returned 1 (some (.failed declined.message))] := by
  intro u v next
  obtain ⟨-, display, poll, -, -, later⟩ := failed_toggle_reverts usual (shown "a") readTwice 1
    declined rfl (fun r => by simp [readTwice, View.run, shown]) rfl rfl
  obtain ⟨outdated, waits⟩ := later []
  have stays := outdated 4 (by decide) (.ok .accepted)
  have quiet : next.1.poll.isActive = false := by
    refine Bool.eq_false_iff.2 fun active => ?_
    cases poll.1 active
  refine ⟨rfl, rfl, congrArg (·.relationship.status) display, quiet, ?_, ?_⟩
  · exact (congrArg (·.status) stays).trans (congrArg (·.relationship.status) display)
  · exact ((waits (by simp)).2 (.ok .none)).1

end FollowClient.View
