import FollowClient.Proofs.View.Sound

/-!
After the teardown. A view that was torn down makes no call, shows what it showed for good, and its
poll stays idle. Only one thing can still schedule work: the end of a toggle that had succeeded and
was reading the status when the view was torn down.
-/

namespace FollowClient.View

/-- The flight is the read that follows a toggle which succeeded. -/
def Flight.isConfirm : Flight → Bool
  | .status _ _ (.confirms _) => true
  | _ => false

/-- The view was torn down: it is not alive, and its poll does not run. -/
structure Ended (v : View) : Prop where
  alive : v.alive = false
  poll : v.poll = .idle

section Parts

variable {setup : Setup} {v : View}

theorem ended_teardown (v : View) : Ended v.teardown := ⟨rfl, rfl⟩

theorem readStatus_of_dead (h : v.alive = false) (after : AfterRead) :
    v.readStatus setup after = v.afterRead setup after := by
  have ht : v.readTarget? setup = none := by simp [readTarget?, h]
  rw [readStatus_eq, ht]

theorem isCurrent_of_dead (h : v.alive = false) (generation : Nat) :
    v.isCurrent generation = false := by
  simp [isCurrent, h]

/-- What follows a status read leaves an idle poll, and only a toggle that succeeded goes on to
schedule a re-check. -/
theorem afterRead_of_idle (setup : Setup) (h : v.poll = .idle) (after : AfterRead) :
    (v.afterRead setup after).1.poll = .idle ∧
    ((∃ caller, after = .confirms caller) ∨ (v.afterRead setup after).1.recheck = none ∨
      (v.afterRead setup after).1.recheck = v.recheck) := by
  cases after with
  | confirms caller => exact ⟨h, .inl ⟨caller, rfl⟩⟩
  | recheck => exact ⟨h, .inr (.inl rfl)⟩
  | tick => exact ⟨by simp [afterRead, h, PollSession.finish], .inr (.inr rfl)⟩
  | _ => exact ⟨h, .inr (.inr rfl)⟩

/-- What a landing does to a view that was torn down. -/
theorem effect_of_ended (h : Ended v) (l : Landing) : (l.effect setup v).1 = match l with
    | .status _ _ after _ => (v.afterRead setup after).1
    | .request .. => { v with toggling := false }
    | _ => v := by
  have stale : ∀ g, v.isCurrent g = false := isCurrent_of_dead h.alive
  cases l with
  | actor caller generation url r => exact (effect_of_stale setup v rfl (stale generation)).1
  | count caller generation which r => exact (effect_of_stale setup v rfl (stale generation)).1
  | outbox caller generation r => exact (effect_of_stale setup v rfl (stale generation)).1
  | status who epoch after r =>
    have hl : v.landStatus setup who epoch r = v := by
      rw [landStatus_eq]
      cases r <;> simp [h.alive]
    simp [Landing.effect, landRead, hl, overran, h.poll]
  | request caller who prior optimistic r =>
    simp [Landing.effect, landRequest_eq, h.alive]

end Parts

/-! ### One step -/

section Step

variable {setup : Setup} {v : View} {e : Event}

/-- A view that is not alive issues nothing. -/
theorem StepCalls.eq_nil_of_dead {fs : List Flight} (hc : StepCalls setup v e fs)
    (h : v.alive = false) : fs = [] := by
  cases fs with
  | nil => rfl
  | cons f fs =>
    have ha : (v.step setup e).1.alive = true := by
      have hi := hc.issued f List.mem_cons_self
      cases f <;> exact hi.1
    rw [step_alive, h] at ha
    cases ha

theorem flights_step_of_dead (h : v.alive = false) :
    (v.step setup e).1.flights.Sublist v.flights := by
  obtain ⟨fs, hc⟩ := step_calls setup v e
  have hs := hc.makes.sub
  rw [hc.eq_nil_of_dead h, ticketed, List.append_nil] at hs
  exact hs.trans others_sublist

theorem calls_step_of_dead (setup : Setup) (h : v.alive = false) (e : Event) :
    callsOf (v.step setup e).2 = [] := by
  obtain ⟨fs, hc⟩ := step_calls setup v e
  rw [hc.makes.calls, hc.eq_nil_of_dead h]
  rfl

/-- **A step of a view that was torn down.** The poll stays idle, and no re-check comes up, unless
the step lands the read that follows a toggle which succeeded. -/
theorem step_of_ended (setup : Setup) (h : Ended v) (e : Event) : (v.step setup e).1.poll = .idle ∧
    ((∃ who epoch caller r, v.landing? e = some (.status who epoch (.confirms caller) r)) ∨
      (v.step setup e).1.recheck = none ∨ (v.step setup e).1.recheck = v.recheck) := by
  have ha : (v.giveUpLastTick e).alive = false := h.alive
  have hp : (v.giveUpLastTick e).poll = .idle := h.poll
  cases e with
  | resolve caller url =>
    simp only [step, react, resolve, ha]
    exact ⟨hp, .inr (.inr rfl)⟩
  | refresh caller =>
    simp only [step, react, readStatus_of_dead ha]
    exact ⟨hp, .inr (.inr rfl)⟩
  | toggle caller =>
    simp only [step, react, toggle, ha, Bool.false_and, Bool.false_eq_true, if_false]
    split <;> exact ⟨hp, .inr (.inr rfl)⟩
  | ensurePoll =>
    simp only [step, react, ensurePoll, ha]
    exact ⟨hp, .inr (.inr rfl)⟩
  | stopPoll => exact ⟨rfl, .inr (.inr rfl)⟩
  | teardown => exact ⟨rfl, .inr (.inl rfl)⟩
  | elapse ms => exact ⟨hp, .inr (.inr rfl)⟩
  | pollDue =>
    have due : (v.giveUpLastTick .pollDue).poll.due? (v.giveUpLastTick .pollDue).now = none := by
      rw [hp]
      rfl
    simp only [step, react, pollDue, due]
    refine ⟨?_, .inr (.inr rfl)⟩
    rw [hp]
    rfl
  | recheckDue =>
    simp only [step, react, recheckDue, ha]
    split
    · split
      · exact ⟨hp, .inr (.inl rfl)⟩
      · exact ⟨hp, .inr (.inr rfl)⟩
    · exact ⟨hp, .inr (.inr rfl)⟩
  | answered ticket a =>
    cases hl : v.landing? (.answered ticket a) with
    | none =>
      rw [step_answered, hl]
      exact ⟨hp, .inr (.inr rfl)⟩
    | some l =>
      have hc : (v.cleared ticket a).poll = .idle := h.poll
      have hd : Ended (v.cleared ticket a) := ⟨h.alive, hc⟩
      rw [step_of_landing hl, effect_of_ended hd]
      split
      · next who epoch after r =>
        obtain ⟨hpoll, ⟨caller, rfl⟩ | hr⟩ := afterRead_of_idle setup hc after
        · exact ⟨hpoll, .inl ⟨who, epoch, caller, r, rfl⟩⟩
        · exact ⟨hpoll, .inr hr⟩
      · exact ⟨hc, .inr (.inr rfl)⟩
      · exact ⟨hc, .inr (.inr rfl)⟩

theorem ended_step (h : Ended v) (e : Event) : Ended (v.step setup e).1 :=
  ⟨by simp [step_alive, h.alive], (step_of_ended setup h e).1⟩

/-- What a view that was torn down shows is the same after every step. -/
theorem display_step_of_ended (setup : Setup) (h : Ended v) (e : Event) :
    (v.step setup e).1.display = v.display := by
  have ha : (v.giveUpLastTick e).alive = false := h.alive
  cases e with
  | resolve caller url =>
    simp only [step, react, resolve, ha]
    rfl
  | toggle caller =>
    simp only [step, react, toggle, ha, Bool.false_and, Bool.false_eq_true, if_false]
    split <;> rfl
  | answered ticket a =>
    cases hl : v.landing? (.answered ticket a) with
    | none =>
      rw [step_answered, hl]
      rfl
    | some l =>
      have hd : Ended (v.cleared ticket a) := ⟨h.alive, h.poll⟩
      rw [step_of_landing hl, effect_of_ended hd]
      -- only what follows a status read goes on, and it leaves the display alone
      split <;> simp
  | _ => simp [step, react]

theorem toggle_of_dead (setup : Setup) (h : v.alive = false) (caller : Nat) :
    (v.step setup (.toggle caller)).2 = [.returned caller (some .skipped)] := by
  have ha : (v.giveUpLastTick (.toggle caller)).alive = false := h
  simp only [step, react, toggle, ha, Bool.false_and, Bool.false_eq_true, if_false]
  split <;> rfl

/-- Without a read that follows a toggle, no re-check comes up in a view that was torn down. -/
theorem recheck_step_of_ended (h : Ended v) (hr : v.recheck = none)
    (hf : v.flights.any (·.2.isConfirm) = false) (e : Event) :
    (v.step setup e).1.recheck = none := by
  rcases (step_of_ended setup h e).2 with ⟨who, epoch, caller, r, hl⟩ | hn | hn
  · obtain ⟨ticket, a, f, -, hfl, hla⟩ := landing?_eq_some hl
    obtain ⟨rfl, -⟩ := landing?_eq_status hla
    exact absurd rfl (List.any_eq_false.1 hf _ (flight?_eq_some hfl))
  · exact hn
  · rw [hn, hr]

end Step

/-! ### All later states -/

/-- What a view does to the outside over a list of events. -/
def transcript (setup : Setup) (v : View) : List Event → List Output
  | [] => []
  | e :: events => (v.step setup e).2 ++ transcript setup (v.step setup e).1 events

section Later

variable {setup : Setup} {v : View}

theorem ended_run (h : Ended v) (later : List Event) : Ended (v.run setup later) := by
  induction later generalizing v with
  | nil => exact h
  | cons e later ih => exact ih (ended_step h e)

theorem display_run_of_ended (h : Ended v) (later : List Event) :
    (v.run setup later).display = v.display := by
  induction later generalizing v with
  | nil => rfl
  | cons e later ih =>
    calc (v.run setup (e :: later)).display
        = (v.step setup e).1.display := ih (ended_step h e)
      _ = v.display := display_step_of_ended setup h e

theorem calls_transcript_of_ended (h : Ended v) (later : List Event) :
    callsOf (transcript setup v later) = [] := by
  induction later generalizing v with
  | nil => rfl
  | cons e later ih =>
    have next : Ended (v.step setup e).1 := ended_step h e
    have first := calls_step_of_dead setup h.alive e
    have rest := ih next
    unfold callsOf at first rest ⊢
    rw [transcript, List.filterMap_append, first, rest, List.append_nil]

/-- **A teardown freezes the view**, whatever it shows and waits for, and whatever comes after it:
what is displayed never changes again, no call is made again, and every toggle is skipped. -/
theorem frozen_after_teardown (setup : Setup) (v : View) (later : List Event) :
    (v.run setup (.teardown :: later)).display = v.display ∧
    callsOf (transcript setup v (.teardown :: later)) = [] ∧
    ∀ caller, ((v.run setup (.teardown :: later)).step setup (.toggle caller)).2 =
      [.returned caller (some .skipped)] := by
  have ended : Ended (v.step setup .teardown).1 := ended_teardown _
  refine ⟨?_, ?_, ?_⟩
  · exact display_run_of_ended ended later
  · exact calls_transcript_of_ended ended later
  · intro caller
    exact toggle_of_dead setup (ended_run ended later).alive caller

theorem recheck_run_of_ended (h : Ended v) (hr : v.recheck = none)
    (hf : v.flights.any (·.2.isConfirm) = false) (later : List Event) :
    (v.run setup later).recheck = none := by
  induction later generalizing v with
  | nil => exact hr
  | cons e later ih =>
    refine ih (ended_step h e) (recheck_step_of_ended h hr hf e) ?_
    refine List.any_eq_false.2 fun x hx => ?_
    exact List.any_eq_false.1 hf x ((flights_step_of_dead h.alive).subset hx)

/-- The end of a toggle that succeeded schedules its re-check, whether the view lives or not. -/
theorem recheck_of_confirm {who : String} {epoch ticket caller : Nat}
    (hf : v.flight? ticket = some (.status who epoch (.confirms caller)))
    (r : Except Failure FollowStatus) :
    (v.step setup (.answered ticket (.status r))).1.recheck =
      some (.sleeping (v.now + setup.settings.recheckDelay)) := by
  have hl : v.landing? (.answered ticket (.status r)) =
      some (.status who epoch (.confirms caller) r) := by
    simp [landing?, hf, Flight.landing?]
  have hn := ((v.cleared ticket (.status r)).landStatus_frame setup who epoch r).2.2.2.2.2.1
  rw [step_of_landing hl]
  simp only [Landing.effect, landRead, afterRead, scheduleRecheck]
  simp

/-- A teardown leaves the reads that follow a toggle. -/
theorem step_teardown_prunes (setup : Setup) (v : View) : Prunes v (v.step setup .teardown).1 :=
  (giveUpLastTick_prunes v .teardown).trans (teardown_prunes _)

/-- **Scheduled work after the teardown**, for every run before it. The poll never runs again; and
no re-check is ever scheduled again exactly if no toggle that succeeded is reading the status when
the view is torn down. -/
theorem scheduled_after_teardown (setup : Setup) (events : List Event) :
    let v := View.run setup .start events
    let torn := (v.step setup .teardown).1
    (∀ later, (torn.run setup later).poll.isActive = false) ∧
    ((∀ later, (torn.run setup later).recheck = none) ↔
      v.flights.any (·.2.isConfirm) = false) := by
  intro v torn
  have ended : Ended torn := ended_teardown _
  refine ⟨fun later => by rw [(ended_run ended later).poll]; rfl, fun h => ?_, fun h later => ?_⟩
  · refine List.any_eq_false.2 fun x hx hk => ?_
    obtain ⟨ticket, f⟩ := x
    obtain ⟨who, epoch, caller, rfl⟩ : ∃ who epoch caller,
        f = .status who epoch (.confirms caller) := by
      match f with
      | .status who epoch (.confirms caller) => exact ⟨who, epoch, caller, rfl⟩
    have sound := Logged.sound_run setup events
    have hv : (Logged.run setup events).view = v := Logged.run_view setup events
    rw [← hv] at hx
    have hp := step_teardown_prunes setup v
    have hn : (torn.flights.map (·.1)).Nodup := by
      have hnv := sound.nodup
      rw [hv] at hnv
      exact (hp.sub.map _).nodup hnv
    have hm : (ticket, Flight.status who epoch (.confirms caller)) ∈ torn.flights := by
      have : (ticket, Flight.status who epoch (.confirms caller)) ∈
          v.flights.filter (·.2.isLasting) := List.mem_filter.2 ⟨hv ▸ hx, rfl⟩
      rw [← hp.lasting] at this
      exact (List.mem_filter.1 this).1
    have hr := h [.answered ticket (.status (.ok .none))]
    rw [View.run, List.foldl_cons, List.foldl_nil,
      recheck_of_confirm (flight?_of_mem hn hm)] at hr
    cases hr
  · refine recheck_run_of_ended ended rfl ?_ later
    refine List.any_eq_false.2 fun x hx => ?_
    exact List.any_eq_false.1 h x ((step_teardown_prunes setup v).sub.subset hx)

/-- A toggle has succeeded, and the status is being read. -/
def confirming : List Event :=
  shown "a" ++ [.answered 1 (.status (.ok .none)), .toggle 1, .answered 2 (.request (.ok ()))]

/-- The answer to the read that follows the toggle. -/
def confirmed : Event := .answered 3 (.status (.ok .pending))

/-- **A re-check that is scheduled after the teardown.** -/
theorem recheck_after_teardown :
    (View.run usual .start (confirming ++ [.teardown])).recheck = none ∧
    (View.run usual .start (confirming ++ [.teardown, confirmed])).recheck =
      some (.sleeping 2000) :=
  ⟨rfl, rfl⟩

/-- Once the status has been read, nothing is scheduled after the teardown. -/
theorem nothing_scheduled_after_confirm :
    (View.run usual .start (confirming ++ [confirmed])).recheck = some (.sleeping 2000) ∧
    (((View.run usual .start (confirming ++ [confirmed])).step usual .teardown).1.run usual
      [.toggle 2, .elapse 3000, .recheckDue]).recheck = none := by
  refine ⟨rfl, ?_⟩
  have quiet : (View.run usual .start (confirming ++ [confirmed])).flights.any
      (·.2.isConfirm) = false := rfl
  exact (scheduled_after_teardown usual (confirming ++ [confirmed])).2.2 quiet _

end Later

end FollowClient.View
