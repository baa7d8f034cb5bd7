import FollowClient.Proofs.View.Chronicle

/-!
How far a failure reaches. The size of a collection or a status that cannot be had changes nothing
that is displayed, an outbox that cannot be had only the outbox, and a resolution that fails only
the mark of loading and the message. The message is what the last event that writes it has left:
the start of a resolution or of a toggle, or the failure of one that still matters. Both parts are
in `failures_stay_in_scope`.
-/

namespace FollowClient.View

/-! ### The poll and the re-check -/

/-- From `v` to `v'` the poll and the re-check stay as they are. -/
def SameTimers (v v' : View) : Prop := v'.poll = v.poll ∧ v'.recheck = v.recheck

/-- The poll once a status read has been answered: after a tick it waits for the next one. -/
def pollAfter (v : View) (after : AfterRead) : PollSession Unit :=
  if after = .tick then v.poll.finish true else v.poll

/-- The re-check once a status read has been answered: the one that it was for is over, and a toggle
that it confirms schedules one. -/
def recheckAfter (setup : Setup) (v : View) : AfterRead → Option Recheck
  | .confirms _ => some (.sleeping (v.now + setup.settings.recheckDelay))
  | .recheck => none
  | _ => v.recheck

section Timers

variable (setup : Setup) (v : View)

theorem isActive_pollAfter (after : AfterRead) :
    (v.pollAfter after).isActive = v.poll.isActive := by
  unfold pollAfter
  split
  · exact PollSession.isActive_finish_true _
  · rfl

theorem afterRead_poll (after : AfterRead) :
    (v.afterRead setup after).1.poll = v.pollAfter after := by
  cases after <;> rfl

theorem afterRead_recheck (after : AfterRead) :
    (v.afterRead setup after).1.recheck = v.recheckAfter setup after := by
  cases after <;> rfl

theorem closeResolution_timers (caller generation : Nat) :
    SameTimers v (v.closeResolution setup caller generation).1 := by
  unfold closeResolution
  split
  · exact ⟨rfl, rfl⟩
  · split
    · rw [readStatus_eq]
      split <;> exact ⟨rfl, rfl⟩
    · exact ⟨rfl, rfl⟩

theorem landRead_of_error (who : String) (epoch : Nat) (after : AfterRead) (f : Failure) :
    v.landRead setup who epoch after (.error f) = v.afterRead setup after := by
  have same : v.landStatus setup who epoch (.error f) = v := by rw [landStatus_eq]
  have runs : v.overran v = false := by
    unfold overran
    cases v.poll <;> rfl
  simp [landRead, same, runs]

/-- Whatever the answer to a status read, the re-check is the same afterwards. -/
theorem landRead_recheck (who : String) (epoch : Nat) (after : AfterRead)
    (r : Except Failure FollowStatus) :
    (v.landRead setup who epoch after r).1.recheck = v.recheckAfter setup after := by
  have frame := landStatus_frame setup v who epoch r
  have keeps : (v.landStatus setup who epoch r).recheckAfter setup after =
      v.recheckAfter setup after := by
    cases after <;> simp [recheckAfter]
  simp only [landRead]
  split
  · next h =>
    -- a tick that runs into the next one
    obtain rfl : after = .tick := by simp_all
    rw [readStatus_eq]
    split
    · exact frame.2.2.2.2.1
    · rw [afterRead_recheck]
      exact keeps
  · rw [afterRead_recheck, keeps]

end Timers

/-! ### The scope of a failure -/

/-- The display once a resolution has failed. -/
def Display.failed (d : Display) (message : String) : Display :=
  { d with loading := false, error := some message }

/-- How far a failure reaches in the next step of a view. -/
structure FailuresInScope (setup : Setup) (v : View) : Prop where
  /-- A size that cannot be had changes nothing. -/
  count {e : Event} {caller generation : Nat} {which : Collection} {f : Failure}
    (h : v.landing? e = some (.count caller generation which (.error f))) :
    (v.step setup e).1.display = v.display ∧ SameTimers v (v.step setup e).1
  /-- A status that cannot be had changes nothing that is displayed, and its poll goes on. -/
  status {e : Event} {who : String} {epoch : Nat} {after : AfterRead} {f : Failure}
    (h : v.landing? e = some (.status who epoch after (.error f))) :
    (v.step setup e).1.display = v.display ∧ (v.step setup e).1.poll = v.pollAfter after ∧
    (v.step setup e).1.poll.isActive = v.poll.isActive
  /-- To the re-check it makes no difference whether the status could be had. -/
  recheck {e : Event} {who : String} {epoch : Nat} {after : AfterRead}
    {r : Except Failure FollowStatus} (h : v.landing? e = some (.status who epoch after r)) :
    (v.step setup e).1.recheck = v.recheckAfter setup after
  /-- An outbox that cannot be had changes the outbox at most. -/
  outbox {e : Event} {caller generation : Nat} {f : Failure}
    (h : v.landing? e = some (.outbox caller generation (.error f))) :
    (∃ outbox, (v.step setup e).1.display = { v.display with outbox }) ∧
    SameTimers v (v.step setup e).1
  /-- The newest resolution of a view that lives shows why it failed; another one shows nothing. -/
  resolution {e : Event} {caller generation : Nat} {url : String}
    {r : Except Failure (Option Profile)} {f : Failure}
    (h : v.landing? e = some (.actor caller generation url r)) (hf : required url r = .error f) :
    (v.step setup e).1.display =
      (if v.isCurrent generation then v.display.failed f.message else v.display) ∧
    SameTimers v (v.step setup e).1
  /-- A resolution without a URL fails as it starts. -/
  blank {caller : Nat} {url : String} (hb : Text.isBlankText url = true) :
    (v.step setup (.resolve caller url)).1.display =
      (if v.alive then v.display.failed Failure.blankActor.message else v.display) ∧
    SameTimers v (v.step setup (.resolve caller url)).1

section Scope

variable (setup : Setup) (v : View)

theorem effect_count_of_error (caller generation : Nat) (which : Collection) (f : Failure) :
    ((Landing.count caller generation which (.error f)).effect setup v).1.display = v.display ∧
    SameTimers v ((Landing.count caller generation which (.error f)).effect setup v).1 := by
  have same : v.landCount generation which (.error f) = v := rfl
  rw [Landing.effect, same]
  exact ⟨(closeResolution_frame setup v caller generation).1,
    closeResolution_timers setup v caller generation⟩

theorem effect_outbox_of_error (caller generation : Nat) (f : Failure) :
    (∃ outbox, ((Landing.outbox caller generation (.error f)).effect setup v).1.display =
      { v.display with outbox }) ∧
    SameTimers v ((Landing.outbox caller generation (.error f)).effect setup v).1 := by
  have frame := landOutbox_frame v generation (.error f)
  have timers := closeResolution_timers setup (v.landOutbox generation (.error f)) caller generation
  have display : ∃ outbox, (v.landOutbox generation (.error f)).display =
      { v.display with outbox } := by
    unfold landOutbox
    split
    · exact ⟨.failed f.message, rfl⟩
    · exact ⟨v.display.outbox, rfl⟩
  refine ⟨?_, timers.1.trans frame.2.2.2.2.2.2.2.1, timers.2.trans frame.2.2.2.2.2.2.2.2⟩
  rw [Landing.effect, (closeResolution_frame setup _ caller generation).1]
  exact display

theorem effect_actor_of_error (caller generation : Nat) {url : String}
    {r : Except Failure (Option Profile)} {f : Failure} (hf : required url r = .error f) :
    ((Landing.actor caller generation url r).effect setup v).1.display =
      (if v.isCurrent generation then v.display.failed f.message else v.display) ∧
    SameTimers v ((Landing.actor caller generation url r).effect setup v).1 := by
  rw [Landing.effect, landActor_eq, hf]
  split <;> exact ⟨rfl, rfl, rfl⟩

theorem failuresInScope : FailuresInScope setup v where
  count h := by
    obtain ⟨ticket, a, fl, rfl, -, -⟩ := landing?_eq_some h
    rw [step_of_landing h]
    exact effect_count_of_error setup (v.cleared ticket a) _ _ _ _
  status h := by
    obtain ⟨ticket, a, fl, rfl, -, -⟩ := landing?_eq_some h
    rw [step_of_landing h, Landing.effect, landRead_of_error, afterRead_poll]
    exact ⟨(afterRead_frame setup _ _).1, rfl, isActive_pollAfter _ _⟩
  recheck h := by
    obtain ⟨ticket, a, fl, rfl, -, -⟩ := landing?_eq_some h
    rw [step_of_landing h, Landing.effect, landRead_recheck]
    rfl
  outbox h := by
    obtain ⟨ticket, a, fl, rfl, -, -⟩ := landing?_eq_some h
    rw [step_of_landing h]
    exact effect_outbox_of_error setup (v.cleared ticket a) _ _ _
  resolution h hf := by
    obtain ⟨ticket, a, fl, rfl, -, -⟩ := landing?_eq_some h
    rw [step_of_landing h]
    exact effect_actor_of_error setup (v.cleared ticket a) _ _ hf
  blank hb := by
    simp only [step, react, resolve]
    cases ha : v.alive with
    | false => exact ⟨by simp [ha], by simp [SameTimers, ha]⟩
    | true => exact ⟨by simp [ha, hb, failResolution, Display.failed],
        by simp [SameTimers, ha, hb, failResolution]⟩

end Scope

/-! ### The message on display -/

/-- What an event does to the message on display. -/
inductive Notice where
  | cleared
  | shown (message : String)
  deriving DecidableEq, Repr

/-- The message that is left on display. -/
def Notice.message : Notice → Option String
  | cleared => none
  | shown message => some message

/-- A failure is shown while it still matters: that of the newest resolution, and that of a request
for the displayed actor, each in a view that lives. -/
def Landing.notice? (v : View) : Landing → Option Notice
  | .actor _ generation url r =>
    match required url r with
    | .error f => if v.isCurrent generation then some (.shown f.message) else none
    | .ok _ => none
  | .request _ who _ _ (.error f) =>
    if v.alive && v.display.actorId = some who then some (.shown f.message) else none
  | _ => none

/-- What an event does to the message on display, if anything: a resolution and a toggle that start
clear it, unless the resolution fails at once. -/
def notice? (setup : Setup) (v : View) : Event → Option Notice
  | .resolve _ url =>
    if v.alive then
      some (if Text.isBlankText url then .shown Failure.blankActor.message else .cleared)
    else none
  | .toggle _ => if v.canToggle setup then some .cleared else none
  | e => (v.landing? e).bind (Landing.notice? v)

/-- All that a list of events does to the message on display, in order. -/
def notices (setup : Setup) : View → List Event → List Notice
  | _, [] => []
  | v, e :: events => (v.notice? setup e).toList ++ notices setup (v.step setup e).1 events

section Message

variable (setup : Setup) (v : View)

theorem install_error (p : Profile) : (v.install p).display.error = v.display.error := by
  by_cases h : v.display.actorId = some p.id <;> simp [install, h]

theorem effect_error (l : Landing) :
    (l.effect setup v).1.display.error = (l.notice? v).elim v.display.error Notice.message := by
  cases l with
  | actor caller generation url r =>
    rw [Landing.effect, landActor_eq, Landing.notice?]
    cases required url r with
    | error f =>
      by_cases hc : v.isCurrent generation = true
      · simp [hc, failResolution, Notice.message]
      · simp [hc]
    | ok p =>
      by_cases hc : v.isCurrent generation = true
      · simp [hc, Effect.andThen, install_error]
      · simp [hc]
  | count caller generation which r =>
    rw [Landing.effect, (closeResolution_frame setup _ caller generation).1]
    exact (landCount_marks v generation which r).2
  | outbox caller generation r =>
    rw [Landing.effect, (closeResolution_frame setup _ caller generation).1]
    exact (landOutbox_marks v generation r).2
  | status who epoch after r =>
    rw [Landing.effect, (landRead_frame setup v who epoch after r).1]
    exact (landStatus_marks setup v who epoch r).2
  | request caller who prior optimistic r =>
    rw [Landing.effect, landRequest_eq]
    by_cases hc : (v.alive && v.display.actorId = some who) = true
    · cases r with
      | ok u =>
        simp only [hc, if_true, readStatus_frame, syncPoll_frame]
        rfl
      | error f =>
        simp only [hc, if_true, readStatus_frame, syncPoll_frame, Landing.notice?]
        rfl
    · cases r <;> simp [hc, Landing.notice?]

theorem step_error (e : Event) : (v.step setup e).1.display.error =
    (v.notice? setup e).elim v.display.error Notice.message := by
  cases e with
  | answered ticket a =>
    show _ = ((v.landing? (.answered ticket a)).bind (Landing.notice? v)).elim _ _
    cases hl : v.landing? (.answered ticket a) with
    | none =>
      rw [step_answered, hl]
      rfl
    | some l =>
      have same : l.notice? (v.cleared ticket a) = l.notice? v := by cases l <;> rfl
      rw [step_of_landing hl, effect_error, same]
      rfl
  | resolve caller url =>
    simp only [step, react, resolve, notice?]
    cases ha : v.alive with
    | false => simp [ha]
    | true => cases hb : Text.isBlankText url <;> simp [ha, failResolution, Notice.message]
  | toggle caller =>
    simp only [step, react, toggle, notice?, giveUpLastTick_frame]
    cases hp : v.display.profile with
    | none => simp [hp, canToggle]
    | some p =>
      have able : v.canToggle setup = (v.alive && setup.hasControl && !v.toggling) := by
        simp [canToggle, hp]
      rw [able]
      dsimp only
      split <;> rfl
  | _ => simp [step, react, notice?, landing?]

theorem run_error (events : List Event) : (View.run setup v events).display.error =
    (notices setup v events).getLast?.elim v.display.error Notice.message := by
  induction events generalizing v with
  | nil => rfl
  | cons e events ih =>
    have rest : (View.run setup v (e :: events)).display.error = _ := ih (v.step setup e).1
    rw [rest, step_error, notices, List.getLast?_append]
    cases (notices setup (v.step setup e).1 events).getLast? with
    | some n => rfl
    | none => cases v.notice? setup e <;> rfl

end Message

/-- **Failures stay in their scope**, in every run, whatever happens next; and the message on
display is what the last event that did anything to it has left. -/
theorem failures_stay_in_scope (setup : Setup) (events : List Event) :
    FailuresInScope setup (View.run setup .start events) ∧
    (View.run setup .start events).display.error =
      (notices setup .start events).getLast?.bind Notice.message := by
  refine ⟨failuresInScope setup _, ?_⟩
  rw [run_error]
  cases (notices setup .start events).getLast? <;> rfl

/-- The network gives no answer. -/
def lost : Failure := .transport "lost"

/-- A view that is torn down while its resolution waits. -/
def resolvingAtEnd : View := View.run usual .start [.resolve 0 "a", .teardown]

/-- A view that is torn down while its toggle waits. -/
def togglingAtEnd : View := View.run usual .start (shown "a" ++ [.toggle 1, .teardown])

/-- A view whose toggle waits for the status that confirms it. -/
def readingAfterToggle : View :=
  View.run usual .start (shown "a" ++ [.toggle 1, .answered 2 (.request (.ok ()))])

/-- The failures of a resolution and of a toggle are not shown once the view is torn down. A status
that cannot be had does not keep a toggle from scheduling its re-check. -/
theorem failures_out_of_time :
    (resolvingAtEnd.landing? (.answered 0 (.actor (.error lost))) =
        some (.actor 0 resolvingAtEnd.generation "a" (.error lost)) ∧
      (resolvingAtEnd.step usual (.answered 0 (.actor (.error lost)))).1.display.error ≠
        some lost.message) ∧
    (togglingAtEnd.landing? (.answered 2 (.request (.error lost))) =
        some (.request 1 "a" .none .pending (.error lost)) ∧
      togglingAtEnd.display.actorId = some "a" ∧
      (togglingAtEnd.step usual (.answered 2 (.request (.error lost)))).1.display.error ≠
        some lost.message) ∧
    readingAfterToggle.landing? (.answered 3 (.status (.error lost))) =
        some (.status "a" 3 (.confirms 1) (.error lost)) ∧
      readingAfterToggle.recheck = none ∧
      (readingAfterToggle.step usual (.answered 3 (.status (.error lost)))).1.recheck ≠ none := by
  refine ⟨⟨rfl, ?_⟩, ⟨rfl, ?_, ?_⟩, rfl, ?_, ?_⟩
  all_goals decide +kernel

end FollowClient.View
