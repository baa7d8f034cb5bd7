import FollowClient.Proofs.View.Teardown

/-!
The end of a toggle. A request that succeeds is followed by a status read, and the toggle returns
when that read is answered: it then schedules the re-check and reports the displayed status. It does
not look again whose status that is. If another actor has come to be displayed in the meantime, the
toggle reports the status of that one, and schedules the re-check for it.
-/

namespace FollowClient.View

/-! ### Flights that wait for their answer -/

section Waiting

variable {setup : Setup} {s : Logged}

/-- The event answers a flight. -/
def Event.fits (x : Nat × Flight) : Event → Bool
  | .answered ticket a => ticket = x.1 && (x.2.landing? a).isSome
  | _ => false

/-- An event that answers a flight carries an answer of its kind. -/
theorem Event.fits_eq_true {x : Nat × Flight} {e : Event} (h : e.fits x = true) :
    ∃ a l, e = .answered x.1 a ∧ x.2.landing? a = some l := by
  cases e with
  | answered ticket a =>
    simp only [Event.fits, Bool.and_eq_true, decide_eq_true_eq] at h
    obtain ⟨rfl, hl⟩ := h
    obtain ⟨l, hl⟩ := Option.isSome_iff_exists.1 hl
    exact ⟨a, l, rfl, hl⟩
  | _ => cases h

theorem not_fits_of_status {events : List Event} {ticket : Nat}
    (hn : ∀ r, .answered ticket (.status r) ∉ events) (who : String) (epoch : Nat)
    (after : AfterRead) : ∀ e ∈ events, e.fits (ticket, .status who epoch after) = false := by
  intro e he
  refine Bool.eq_false_iff.2 fun hf => ?_
  obtain ⟨a, l, rfl, hl⟩ := Event.fits_eq_true hf
  obtain ⟨r, rfl⟩ := landing?_of_status hl
  obtain ⟨-, rfl⟩ := landing?_eq_status hl
  exact hn r he

theorem not_fits_of_request {events : List Event} {ticket : Nat}
    (hn : ∀ r, .answered ticket (.request r) ∉ events) (caller : Nat) (who : String)
    (prior optimistic : FollowStatus) :
    ∀ e ∈ events, e.fits (ticket, .request caller who prior optimistic) = false := by
  intro e he
  refine Bool.eq_false_iff.2 fun hf => ?_
  obtain ⟨a, l, rfl, hl⟩ := Event.fits_eq_true hf
  obtain ⟨r, rfl⟩ := landing?_of_request hl
  obtain ⟨-, rfl⟩ := landing?_eq_request hl
  exact hn r he

theorem mem_step_of_not_fits (h : Sound setup s) {x : Nat × Flight} (hx : x ∈ s.view.flights)
    (hl : x.2.isLasting = true) {e : Event} (he : e.fits x = false) :
    x ∈ (s.step setup e).view.flights := by
  obtain ⟨fs, hc⟩ := step_calls setup s.view e
  rcases mem_others_or_landed h.nodup hx e with stays | ⟨a, l, rfl, hla, -⟩
  · exact hc.stays stays hl
  · simp [Event.fits, hla] at he

/-- **What only its answer ends stays in the air until it is answered.** -/
theorem mem_flights_of_not_fits (h : Sound setup s) {x : Nat × Flight} (hx : x ∈ s.view.flights)
    (hl : x.2.isLasting = true) {events : List Event} (he : ∀ e ∈ events, e.fits x = false) :
    x ∈ (events.foldl (Logged.step setup) s).view.flights := by
  induction events generalizing s with
  | nil => exact hx
  | cons e events ih =>
    have first := mem_step_of_not_fits h hx hl (he e List.mem_cons_self)
    exact ih (sound_step h e) first fun e' he' => he e' (List.mem_cons_of_mem e he')

end Waiting

/-! ### From the request to the read -/

/-- Requests are made only where there is a core. -/
def Controlled (setup : Setup) (s : Logged) : Prop :=
  ∀ x ∈ s.view.flights, x.2.isRequest = true → setup.hasControl = true

theorem Logged.controlled_run (setup : Setup) (events : List Event) :
    Controlled setup (run setup events) := by
  refine run_induction (by simp [Controlled, start, View.start]) (fun s e h x hx hr => ?_) events
  obtain ⟨fs, hc⟩ := step_calls setup s.view e
  rcases hc.mem hx with hx | hx
  · exact h x (others_sublist.subset hx) hr
  · obtain ⟨ticket, f⟩ := x
    cases f with
    | request caller who prior optimistic =>
      obtain ⟨-, hcontrol, -⟩ := hc.issued _ (mem_ticketed hx).2.2
      exact hcontrol
    | _ => cases hr

/-- A request that succeeds for the displayed actor is followed by a status read. -/
theorem mem_confirm_of_request {setup : Setup} {v : View} {ticket caller : Nat} {who : String}
    {prior optimistic : FollowStatus}
    (hf : v.flight? ticket = some (.request caller who prior optimistic)) (ha : v.alive = true)
    (hc : setup.hasControl = true) (hw : v.display.actorId = some who) :
    ∃ epoch, (v.nextTicket, Flight.status who epoch (.confirms caller)) ∈
      (v.step setup (.answered ticket (.request (.ok ())))).1.flights := by
  have hl : v.landing? (.answered ticket (.request (.ok ()))) =
      some (.request caller who prior optimistic (.ok ())) := by
    simp [landing?, hf, Flight.landing?]
  have goal : ∀ w : View, w.readTarget? setup = some who → w.nextTicket = v.nextTicket →
      ∃ epoch, (v.nextTicket, Flight.status who epoch (.confirms caller)) ∈
        (w.readStatus setup (.confirms caller)).1.flights :=
    fun w ht hn => ⟨_, hn ▸ w.mem_readStatus setup ht (.confirms caller)⟩
  have cond : ((v.cleared ticket (.request (.ok ()))).alive && decide
      ((v.cleared ticket (.request (.ok ()))).display.actorId = some who)) = true := by
    simp [ha, hw]
  rw [step_of_landing hl, Landing.effect, landRequest_eq, if_pos cond]
  refine goal _ ((readTarget?_eq_some setup _).2 ⟨?_, hc, ?_⟩) ?_
  · simpa using ha
  · simpa using hw
  · simp

/-! ### The return -/

/-- **The return of a toggle that succeeded.** The displayed status is reported, whoever is displayed;
one re-check is scheduled, and no other one is under way. -/
theorem step_of_confirm {setup : Setup} {v : View} {ticket caller epoch : Nat} {who : String}
    (hf : v.flight? ticket = some (.status who epoch (.confirms caller)))
    (r : Except Failure FollowStatus) :
    let next := v.step setup (.answered ticket (.status r))
    next.2 = [.returned caller (some (.issued next.1.display.relationship.status))] ∧
    next.1.display.actorId = v.display.actorId ∧
    next.1.recheck = some (.sleeping (v.now + setup.settings.recheckDelay)) ∧
    (∀ x ∈ next.1.flights, x.2.isRecheck = false) ∧ next.1.toggling = false := by
  have hl : v.landing? (.answered ticket (.status r)) =
      some (.status who epoch (.confirms caller) r) := by
    simp [landing?, hf, Flight.landing?]
  have hs : v.step setup (.answered ticket (.status r)) =
      ((v.cleared ticket (.status r)).landStatus setup who epoch r).afterRead setup
        (.confirms caller) := by
    rw [step_of_landing hl]
    simp [Landing.effect, landRead]
  refine ⟨?_, ?_, recheck_of_confirm hf r, fun x hx => ?_, ?_⟩
  · rw [hs]
    rfl
  · rw [step_actorId]
    simp [installed?, hl, Landing.installed?]
  · rw [hs] at hx
    simpa using (List.mem_filter.1 hx).2
  · rw [hs]
    rfl

section Run

variable {setup : Setup}

/-- A flight of a toggle is in the air only while a toggle is under way. -/
theorem toggling_of_mem {s : Logged} (h : Sound setup s) {x : Nat × Flight}
    (hx : x ∈ s.view.flights) (ht : x.2.ofToggle = true) : s.view.toggling = true := by
  have one : 0 < s.view.flights.countP (·.2.ofToggle) := List.countP_pos_iff.2 ⟨x, hx, ht⟩
  rw [h.toggles] at one
  cases hs : s.view.toggling with
  | true => rfl
  | false => simp [hs] at one

/-- The read that follows a request waits for its answer, whatever happens meanwhile. -/
theorem mem_confirm_of_run {before between : List Event} {ticket caller : Nat} {who : String}
    {prior optimistic : FollowStatus}
    (hf : (Logged.run setup before).view.flight? ticket =
      some (.request caller who prior optimistic))
    (ha : (Logged.run setup before).view.alive = true)
    (hw : (Logged.run setup before).view.display.actorId = some who)
    (hn : ∀ r, .answered (Logged.run setup before).view.nextTicket (.status r) ∉ between) :
    ∃ epoch, ((Logged.run setup before).view.nextTicket,
        Flight.status who epoch (.confirms caller)) ∈ (Logged.run setup
          (before ++ .answered ticket (.request (.ok ())) :: between)).view.flights := by
  have control := Logged.controlled_run setup before _ (flight?_eq_some hf) rfl
  obtain ⟨epoch, hm⟩ := mem_confirm_of_request hf ha control hw
  have sound := sound_step (Logged.sound_run setup before) (.answered ticket (.request (.ok ())))
  refine ⟨epoch, ?_⟩
  rw [Logged.run_append]
  exact mem_flights_of_not_fits sound hm rfl (not_fits_of_status hn who epoch (.confirms caller))

/-- **A toggle that succeeded returns to whoever is displayed**, in every run. Its request succeeded
while its actor was displayed by a view that lives; until the read that follows is answered, the
toggle is under way, whatever happens. When it is answered, the toggle reports the status that is
displayed then and leaves one re-check, both for the actor that is displayed by then. -/
theorem toggle_returns_to_whoever_is_displayed (setup : Setup) (before between : List Event)
    (ticket caller : Nat) (who : String) (prior optimistic : FollowStatus)
    (hf : (View.run setup .start before).flight? ticket =
      some (.request caller who prior optimistic))
    (ha : (View.run setup .start before).alive = true)
    (hw : (View.run setup .start before).display.actorId = some who)
    (hn : ∀ r, .answered (View.run setup .start before).nextTicket (.status r) ∉ between) :
    let v := View.run setup .start (before ++ .answered ticket (.request (.ok ())) :: between)
    v.toggling = true ∧
    ∀ r, let next := v.step setup (.answered (View.run setup .start before).nextTicket (.status r))
      next.2 = [.returned caller (some (.issued next.1.display.relationship.status))] ∧
      next.1.display.actorId = v.display.actorId ∧
      next.1.recheck = some (.sleeping (v.now + setup.settings.recheckDelay)) ∧
      (∀ x ∈ next.1.flights, x.2.isRecheck = false) ∧ next.1.toggling = false := by
  rw [← Logged.run_view] at hf ha hw hn ⊢
  rw [← Logged.run_view]
  have sound := Logged.sound_run setup
    (before ++ .answered ticket (.request (.ok ())) :: between)
  obtain ⟨epoch, waits⟩ := mem_confirm_of_run hf ha hw hn
  exact ⟨toggling_of_mem sound waits rfl,
    fun r => step_of_confirm (flight?_of_mem sound.nodup waits) r⟩

end Run

/-- Another actor is resolved and its follow is read. -/
def overtakes : List Event :=
  [.resolve 2 "b", .answered 4 (.actor (.ok (some (bare "b")))),
    .answered 5 (.status (.ok .accepted))]

/-- The follow of an actor succeeds, another actor is displayed, and only then the toggle returns. -/
theorem follow_returns_to_another_actor :
    (View.run usual .start (confirming ++ overtakes)).toggling = true ∧
    ((View.run usual .start (confirming ++ overtakes)).step usual confirmed).1.recheck =
      some (.sleeping 2000) := by
  have returns := toggle_returns_to_whoever_is_displayed usual
    (shown "a" ++ [.answered 1 (.status (.ok .none)), .toggle 1]) overtakes 2 1 "a" .none .pending
    rfl rfl rfl (fun r => by
      show Event.answered 3 (.status r) ∉ overtakes
      simp [overtakes])
  exact ⟨returns.1, (returns.2 (.ok .pending)).2.2.1⟩

/-- **A toggle that reports on another actor.** The follow of one actor has succeeded while that actor
was displayed; another one is displayed when the toggle returns, and the toggle reports the status of
that one and schedules a re-check. -/
theorem toggle_reports_another_actor :
    (View.run usual .start confirming).display.actorId = some "a" ∧
    (View.run usual .start (confirming ++ overtakes)).alive = true ∧
    (View.run usual .start (confirming ++ overtakes)).display.actorId = some "b" ∧
    (View.run usual .start (confirming ++ overtakes)).recheck = none ∧
    ((View.run usual .start (confirming ++ overtakes)).step usual confirmed).2 =
      [.returned 1 (some (.issued .accepted))] ∧
    ((View.run usual .start (confirming ++ overtakes)).step usual confirmed).1.recheck =
      some (.sleeping 2000) :=
  ⟨rfl, rfl, rfl, rfl, rfl, rfl⟩

end FollowClient.View
