import FollowClient.Proofs.View.Sound

/-!
Toggles exclude each other. The flag of a toggle goes up with the step that makes its request, and
down with the step that returns to its caller; a toggle that finds the flag up, or nothing to toggle,
returns in its first step and touches nothing. So at any time the toggles that were started have all
returned, but for one while the flag is up.
-/

namespace FollowClient.View

/-! ### Toggles in a chronicle -/

/-- The event starts a toggle. -/
def Event.isToggle : Event → Bool
  | .toggle _ => true
  | _ => false

/-- A toggle returns to its caller. -/
def Output.endsToggle : Output → Bool
  | .returned _ (some _) => true
  | _ => false

/-- The entry starts a toggle. -/
def Entry.isToggle : Entry → Bool
  | happened e => e.isToggle
  | _ => false

/-- With the entry a toggle returns. -/
def Entry.endsToggle : Entry → Bool
  | did o => o.endsToggle
  | _ => false

/-- How many toggles were started. -/
def toggleCalls (log : List Entry) : Nat := log.countP Entry.isToggle

/-- How many toggles have returned. -/
def toggleReturns (log : List Entry) : Nat := log.countP Entry.endsToggle

/-! ### Requests -/

/-- The call asks the core to follow or to unfollow. -/
def Call.isRequest : Call → Bool
  | .follow _ | .unfollow _ => true
  | _ => false

/-- The requests among what a step does. -/
def requested (outputs : List Output) : List Call :=
  ((callsOf outputs).map (·.2)).filter Call.isRequest

/-- The request for an actor whose status is shown. -/
def requestFor (who : String) : FollowStatus → Call
  | .none => .follow who
  | .pending | .accepted => .unfollow who

/-- The request that an event is to make: a toggle that can go on asks for the displayed actor. -/
def toggleRequest? (setup : Setup) (v : View) : Event → Option Call
  | .toggle _ =>
    if v.canToggle setup then
      v.display.actorId.map fun who => requestFor who v.display.relationship.status
    else none
  | _ => none

theorem isRequest_call (settings : FollowSettings) (f : Flight) :
    (f.call settings).isRequest = f.isRequest := by
  cases f with
  | request caller who prior optimistic =>
    simp only [Flight.call]
    split <;> rfl
  | _ => rfl

theorem call_request (settings : FollowSettings) (caller : Nat) (who : String)
    (prior optimistic : FollowStatus) :
    (Flight.request caller who prior optimistic).call settings = requestFor who prior := by
  cases prior <;> rfl

theorem ofToggle_of_isRequest {f : Flight} (h : f.isRequest = true) : f.ofToggle = true := by
  cases f with
  | request caller who prior optimistic => rfl
  | _ => cases h

/-! ### The flag in the parts of a step -/

/-- The flag goes down exactly with the return of a toggle. -/
def Releases (v : View) (e : Effect) : Prop :=
  e.2.countP Output.endsToggle + e.1.toggling.toNat = v.toggling.toNat

section Parts

variable (setup : Setup) (v : View)

theorem afterRead_releases {after : AfterRead} (h : after.ofToggle = true → v.toggling = true) :
    Releases v (v.afterRead setup after) := by
  unfold Releases
  cases after with
  | confirms caller =>
    rw [h rfl]
    rfl
  | reverts caller message =>
    rw [h rfl]
    rfl
  | _ => exact Nat.zero_add _

theorem readStatus_releases {after : AfterRead} (h : after.ofToggle = true → v.toggling = true) :
    Releases v (v.readStatus setup after) := by
  rw [readStatus_eq]
  split
  · exact Nat.zero_add _
  · exact afterRead_releases setup v h

theorem closeResolution_releases (caller generation : Nat) :
    Releases v (v.closeResolution setup caller generation) := by
  unfold closeResolution
  split
  · exact Nat.zero_add _
  · split
    · exact readStatus_releases setup v (by simp [AfterRead.ofToggle])
    · exact Nat.zero_add _

theorem countP_issueAll (v : View) (fs : List Flight) :
    (issueAll setup v fs).2.countP Output.endsToggle = 0 := by
  induction fs generalizing v with
  | nil => rfl
  | cons f fs ih =>
    rw [issueAll, Effect.andThen, List.countP_append, ih]
    rfl

variable {v} in
/-- A part that does nothing to the flag may come before. -/
theorem Releases.of_eq {v' : View} {e : Effect} (h : Releases v' e)
    (ht : v'.toggling = v.toggling) : Releases v e := by
  unfold Releases at h ⊢
  rw [h, ht]

theorem effect_releases {l : Landing} (h : l.ofToggle = true → v.toggling = true) :
    Releases v (l.effect setup v) := by
  cases l with
  | actor caller generation url r =>
    rw [Landing.effect, landActor_eq]
    split
    · split
      · next p _ =>
        have rest := closeResolution_releases setup
          ((v.install p).issueAll setup (loads caller generation p)).1 caller generation
        unfold Releases at rest ⊢
        simp only [issueAll_frame, install_frame] at rest
        rw [Effect.andThen, List.countP_append, countP_issueAll, Nat.zero_add]
        exact rest
      · exact Nat.zero_add _
    · exact Nat.zero_add _
  | count caller generation which r =>
    exact (closeResolution_releases setup _ caller generation).of_eq (by simp)
  | outbox caller generation r =>
    exact (closeResolution_releases setup _ caller generation).of_eq (by simp)
  | status who epoch after r =>
    have landed : (v.landStatus setup who epoch r).toggling = v.toggling := by simp
    simp only [Landing.effect, landRead]
    split
    · exact (readStatus_releases setup _ (by simp [AfterRead.ofToggle])).of_eq landed
    · exact (afterRead_releases setup _ fun ha => landed.trans (h ha)).of_eq landed
  | request caller who prior optimistic r =>
    have busy : v.toggling = true := h rfl
    rw [Landing.effect, landRequest_eq]
    split
    · cases r with
      | ok u => exact (readStatus_releases setup _ fun _ => by simpa using busy).of_eq (by simp)
      | error f =>
        exact (readStatus_releases setup _ fun _ => by simpa using busy).of_eq (by simp)
    · unfold Releases
      rw [busy]
      rfl

end Parts

/-! ### The flag in a step -/

section Step

variable {setup : Setup} {v : View}

/-- A toggle that cannot go on returns, and that is all it does. -/
theorem step_toggle_of_not (h : v.canToggle setup = false) (caller : Nat) :
    v.step setup (.toggle caller) =
      (v.giveUpLastTick (.toggle caller), [.returned caller (some .skipped)]) := by
  have hq : (v.giveUpLastTick (.toggle caller)).canToggle setup = false := h
  simp only [step, react, toggle]
  split
  · next p hp =>
    rw [canToggle, hp, Option.isSome_some, Bool.and_true] at hq
    rw [hq]
    rfl
  · rfl

/-- A toggle that can go on makes its request, and has the flag. -/
theorem step_toggle_of_can (h : v.canToggle setup = true) (caller : Nat) :
    v.toggling = false ∧ ∃ who, v.display.actorId = some who ∧
      (v.step setup (.toggle caller)).2 =
        [.call v.nextTicket (requestFor who v.display.relationship.status)] ∧
      (v.step setup (.toggle caller)).1.toggling = true := by
  obtain ⟨p, hp, hs⟩ := step_toggle_eq h caller
  simp only [canToggle, Bool.and_eq_true, Bool.not_eq_true'] at h
  refine ⟨h.1.2, p.id, congrArg (Option.map _) hp, ?_⟩
  rw [hs, issue, call_request]
  exact ⟨rfl, rfl⟩

variable (setup v) in
/-- **The flag in a step.** Each toggle that starts either returns or has the flag, and the flag goes
down with a return. -/
theorem step_toggles {e : Event} (h : v.landsToggle e = true → v.toggling = true) :
    (v.step setup e).2.countP Output.endsToggle + (v.step setup e).1.toggling.toNat =
      e.isToggle.toNat + v.toggling.toNat := by
  have other : e.isToggle = false → Releases v (v.step setup e) →
      (v.step setup e).2.countP Output.endsToggle + (v.step setup e).1.toggling.toNat =
        e.isToggle.toNat + v.toggling.toNat := by
    intro ht hr
    rw [ht, Bool.toNat_false, Nat.zero_add]
    exact hr
  cases e with
  | toggle caller =>
    cases hc : v.canToggle setup with
    | true =>
      obtain ⟨ht, who, -, ho, hn⟩ := step_toggle_of_can hc caller
      rw [ho, hn, ht]
      rfl
    | false =>
      rw [step_toggle_of_not hc]
      rfl
  | resolve caller url =>
    refine other rfl ?_
    simp only [step, react, resolve]
    split
    · exact Nat.zero_add _
    · split <;> exact Nat.zero_add _
  | refresh caller =>
    exact other rfl (readStatus_releases setup (v.giveUpLastTick (.refresh caller))
      (by simp [AfterRead.ofToggle]))
  | pollDue =>
    refine other rfl ?_
    simp only [step, react, pollDue]
    split
    · split
      · exact (readStatus_releases setup _ (by simp [AfterRead.ofToggle])).of_eq rfl
      · exact Nat.zero_add _
    · exact Nat.zero_add _
  | recheckDue =>
    refine other rfl ?_
    simp only [step, react, recheckDue]
    split
    · split
      · split
        · exact (readStatus_releases setup _ (by simp [AfterRead.ofToggle])).of_eq rfl
        · exact Nat.zero_add _
      · exact Nat.zero_add _
    · exact Nat.zero_add _
  | answered ticket a =>
    refine other rfl ?_
    cases hl : v.landing? (.answered ticket a) with
    | none =>
      rw [step_answered, hl]
      exact Nat.zero_add _
    | some l =>
      rw [step_of_landing hl]
      refine (effect_releases setup _ fun hk => ?_).of_eq (cleared_frame v ticket a).2.2.2.1
      exact h ((landsToggle_of_landing hl).trans hk)
  | ensurePoll =>
    refine other rfl ?_
    simp [Releases, step, react]
  | _ => exact other rfl (Nat.zero_add _)

end Step

/-! ### Every run -/

section Run

variable {setup : Setup} {s : Logged}

/-- Only the start of a toggle makes a request. -/
theorem isRequest_of_issued (h : Sound setup s) {e : Event} {fs : List Flight}
    (hc : StepCalls setup s.view e fs) (he : e.isToggle = false) :
    ∀ f ∈ fs, f.isRequest = false := by
  intro f hf
  refine Bool.eq_false_iff.2 fun hr => ?_
  obtain ⟨caller, who, prior, optimistic, rfl⟩ : ∃ caller who prior optimistic,
      f = .request caller who prior optimistic := by
    cases f with
    | request caller who prior optimistic => exact ⟨caller, who, prior, optimistic, rfl⟩
    | _ => cases hr
  -- a request finds the flag down and leaves it up, but only the start of a toggle raises it
  obtain ⟨-, -, -, down, -⟩ := hc.issued _ hf
  have flag := step_toggles setup s.view (toggling_of_landsToggle h) (e := e)
  have count := hc.toggling (toggling_of_landsToggle h)
  have made : 0 < fs.countP Flight.ofToggle := List.countP_pos_iff.2 ⟨_, hf, rfl⟩
  have lands : s.view.landsToggle e = false := by
    cases hl : s.view.landsToggle e with
    | false => rfl
    | true => rw [toggling_of_landsToggle h hl] at down; cases down
  rw [he, down, Bool.toNat_false] at flag
  rw [lands, down, Bool.toNat_false] at count
  omega

/-- **A step makes the request of the toggle that it starts**, and no other. -/
theorem requested_step (h : Sound setup s) (e : Event) :
    requested (s.view.step setup e).2 = (s.view.toggleRequest? setup e).toList := by
  have none_made : e.isToggle = false → requested (s.view.step setup e).2 = [] := by
    intro he
    obtain ⟨fs, hc⟩ := step_calls setup s.view e
    refine List.filter_eq_nil_iff.2 fun c hm => ?_
    rw [hc.makes.calls, List.map_map] at hm
    obtain ⟨x, hx, rfl⟩ := List.mem_map.1 hm
    have quiet := isRequest_of_issued h hc he x.2 (mem_ticketed hx).2.2
    rw [← isRequest_call setup.settings] at quiet
    simpa using quiet
  cases e with
  | toggle caller =>
    cases hc : s.view.canToggle setup with
    | true =>
      obtain ⟨-, who, hw, ho, -⟩ := step_toggle_of_can hc caller
      rw [ho, toggleRequest?, if_pos hc, hw]
      cases s.view.display.relationship.status <;> rfl
    | false =>
      rw [step_toggle_of_not hc]
      simp [toggleRequest?, hc, requested, callsOf, Output.call?]
  | _ => exact none_made rfl

theorem toggle_entries (setup : Setup) (v : View) (e : Event) :
    toggleCalls (v.entries setup e) = e.isToggle.toNat ∧
    toggleReturns (v.entries setup e) = (v.step setup e).2.countP Output.endsToggle := by
  have outputs : (v.outputEntries setup e).countP Entry.endsToggle =
      (v.step setup e).2.countP Output.endsToggle := by
    rw [outputEntries, List.countP_map, List.countP_reverse]
    rfl
  have quiet : ∀ p : Entry → Bool, (∀ who, p (.displayed who) = false) →
      (∀ w, p (.wrote w) = false) → (v.displayEntries setup e).countP p = 0 ∧
        (v.writeEntries setup e).countP p = 0 := by
    intro p hd hw
    unfold displayEntries writeEntries
    constructor
    · split
      · rfl
      · cases (v.step setup e).1.display.actorId <;> simp [hd]
    · cases v.localWrite? setup e <;> simp [hw]
  obtain ⟨qd, qw⟩ := quiet Entry.isToggle (fun _ => rfl) fun _ => rfl
  obtain ⟨rd, rw'⟩ := quiet Entry.endsToggle (fun _ => rfl) fun _ => rfl
  have arrived : (v.arrivals e).countP Entry.isToggle = e.isToggle.toNat ∧
      (v.arrivals e).countP Entry.endsToggle = 0 := by
    rcases arrivals_eq v e with ⟨-, ha⟩ | ⟨ticket, a, l, rfl, -, ha⟩
    · rw [ha]
      cases e <;> exact ⟨rfl, rfl⟩
    · rw [ha]
      exact ⟨rfl, rfl⟩
  have silent : (v.outputEntries setup e).countP Entry.isToggle = 0 := countP_did (fun _ => rfl) _
  constructor
  · simp [toggleCalls, entries, silent, qd, qw, arrived.1]
  · simp [toggleReturns, entries, outputs, rd, rw', arrived.2]

/-- The flag is up while one of the toggles that were started has not returned. -/
def Held (s : Logged) : Prop :=
  toggleCalls s.log = toggleReturns s.log + s.view.toggling.toNat

theorem held_step (hs : Sound setup s) (h : Held s) (e : Event) : Held (s.step setup e) := by
  obtain ⟨started, returned⟩ := toggle_entries setup s.view e
  have flag := step_toggles setup s.view (toggling_of_landsToggle hs) (e := e)
  unfold Held toggleCalls toggleReturns at h ⊢
  unfold toggleCalls at started
  unfold toggleReturns at returned
  rw [Logged.step, List.countP_append, List.countP_append, started, returned]
  show _ = _ + (s.view.step setup e).1.toggling.toNat
  omega

theorem Logged.held_run (setup : Setup) (events : List Event) : Held (run setup events) := by
  have both : Sound setup (run setup events) ∧ Held (run setup events) :=
    run_induction (P := fun s => Sound setup s ∧ Held s) ⟨sound_start setup, rfl⟩
      (fun s e h => ⟨sound_step h.1 e, held_step h.1 h.2 e⟩) events
  exact both.2

/-- While one flight belongs to a toggle at most, at most one is a request. -/
theorem countP_isRequest_le (h : Sound setup s) :
    s.view.flights.countP (·.2.isRequest) ≤ 1 := by
  have few : s.view.flights.countP (·.2.isRequest) ≤ s.view.flights.countP (·.2.ofToggle) :=
    List.countP_mono_left fun x _ hx => ofToggle_of_isRequest hx
  rw [h.toggles] at few
  exact Nat.le_trans few (Bool.toNat_le _)

/-- **Toggles exclude each other**, in every run. At most one request is in flight. All toggles that
were started have returned, but for one while the flag is up. A step makes a request only if it
starts a toggle, and then the one that the displayed actor and its status call for; a toggle that
makes none is skipped at once, and leaves the display, the poll and the re-check as they were. -/
theorem toggles_mutually_exclusive (setup : Setup) (events : List Event) :
    let s := Logged.run setup events
    s.view.flights.countP (·.2.isRequest) ≤ 1 ∧
    toggleCalls s.log = toggleReturns s.log + s.view.toggling.toNat ∧
    (∀ e, requested (s.view.step setup e).2 = (s.view.toggleRequest? setup e).toList) ∧
    ∀ caller, let next := s.view.step setup (.toggle caller)
      (∀ c, s.view.toggleRequest? setup (.toggle caller) = some c →
        next.2 = [.call s.view.nextTicket c] ∧ next.1.toggling = true) ∧
      (s.view.toggleRequest? setup (.toggle caller) = none →
        next.2 = [.returned caller (some .skipped)] ∧ next.1.display = s.view.display ∧
        next.1.poll = s.view.poll ∧ next.1.recheck = s.view.recheck ∧
        next.1.toggling = s.view.toggling) := by
  have sound := Logged.sound_run setup events
  refine ⟨countP_isRequest_le sound, Logged.held_run setup events, requested_step sound,
    fun caller => ⟨fun c hc => ?_, fun hn => ?_⟩⟩
  · simp only [toggleRequest?, Option.ite_none_right_eq_some] at hc
    obtain ⟨can, hc⟩ := hc
    obtain ⟨-, who, hw, ho, ht⟩ := step_toggle_of_can can caller
    rw [hw] at hc
    cases hc
    exact ⟨ho, ht⟩
  · cases can : (Logged.run setup events).view.canToggle setup with
    | true =>
      obtain ⟨-, who, hw, -, -⟩ := step_toggle_of_can can 0
      simp [toggleRequest?, can, hw] at hn
    | false =>
      rw [step_toggle_of_not can]
      exact ⟨rfl, rfl, rfl, rfl, rfl⟩

/-- An unfollow is under way. -/
def unfollowing : List Event := shown "a" ++ [accepted, .toggle 1]

/-- A toggle of an accepted follow unfollows; the next one finds it under way and is skipped. -/
theorem second_toggle_skipped :
    (Logged.run usual (shown "a" ++ [accepted])).view.toggleRequest? usual (.toggle 1) =
      some (.unfollow "a") ∧
    ((Logged.run usual (shown "a" ++ [accepted])).view.step usual (.toggle 1)).2 =
      [.call 2 (.unfollow "a")] ∧
    (Logged.run usual unfollowing).view.toggleRequest? usual (.toggle 2) = none ∧
    ((Logged.run usual unfollowing).view.step usual (.toggle 2)).2 =
      [.returned 2 (some .skipped)] := by
  have first := (toggles_mutually_exclusive usual (shown "a" ++ [accepted])).2.2.2 1
  have second := (toggles_mutually_exclusive usual unfollowing).2.2.2 2
  exact ⟨rfl, (first.1 _ rfl).1, rfl, (second.2 rfl).1⟩

end Run

end FollowClient.View
