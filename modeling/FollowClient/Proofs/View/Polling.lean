import FollowClient.Proofs.Poll.Crew
import FollowClient.Proofs.View.Convergence
import FollowClient.Proofs.View.PollSteps
import Mathlib.Data.List.Induction

/-!
The poll and the status. Every step that settles the status starts or stops the poll to match it;
only the start of a toggle changes the status alone, and its request sets the poll right when it
comes back. A request that comes back to another actor finds the poll right already: the change of
the actor has stopped it. A poll that is started while its first deadline cannot be set is over as
soon as its task runs, and then there is none though the status is pending.
-/

namespace FollowClient.View

/-! ### A poll that matches the status -/

/-- The poll runs exactly while the displayed status is pending. -/
def Matched (v : View) : Prop :=
  v.poll.isActive = true ↔ v.display.relationship.status = .pending

/-- From `v` to `v'` the poll goes on as before, and so does the relationship. -/
def Undisturbed (v v' : View) : Prop :=
  v'.poll.isActive = v.poll.isActive ∧ v'.display.relationship = v.display.relationship

/-- The event starts or stops the poll from outside. -/
def Event.steersPoll : Event → Bool
  | .ensurePoll | .stopPoll => true
  | _ => false

section Parts

variable (setup : Setup) (v : View)

theorem Undisturbed.matched {v v' : View} (h : Undisturbed v v') (hm : Matched v) :
    Matched v' := by
  unfold Matched
  rw [h.1, h.2]
  exact hm

theorem matched_syncPoll (ha : v.alive = true) {s : FollowStatus}
    (hs : v.display.relationship.status = s) : Matched (v.syncPoll setup s) := by
  unfold Matched syncPoll
  split
  · next hp =>
    have active : (v.ensurePoll setup).poll.isActive = true := by
      simp [ensurePoll, ha, PollSession.isActive_ensure]
    simp [active, hs, hp]
  · next hp => simp [PollSession.isActive, hs, hp]

/-! ### What follows the status leaves the poll alone -/

theorem afterRead_undisturbed (after : AfterRead) :
    Undisturbed v (v.afterRead setup after).1 := by
  refine ⟨?_, by simp⟩
  cases after <;> simp [afterRead]

theorem readStatus_undisturbed (after : AfterRead) :
    Undisturbed v (v.readStatus setup after).1 := by
  rw [readStatus_eq]
  split
  · exact ⟨rfl, rfl⟩
  · exact afterRead_undisturbed setup v after

theorem closeResolution_undisturbed (caller generation : Nat) :
    Undisturbed v (v.closeResolution setup caller generation).1 := by
  unfold closeResolution
  split
  · exact ⟨rfl, rfl⟩
  · split
    · exact readStatus_undisturbed setup v _
    · exact ⟨rfl, rfl⟩

theorem Undisturbed.trans {u v w : View} (h : Undisturbed u v) (h' : Undisturbed v w) :
    Undisturbed u w := ⟨h'.1.trans h.1, h'.2.trans h.2⟩

/-! ### Landings -/

/-- An actor that is displayed anew stops the poll and starts without a relationship. -/
theorem install_poll (p : Profile) : Matched (v.install p) ∨ Undisturbed v (v.install p) := by
  by_cases h : v.display.actorId = some p.id
  · exact .inr (by simp [Undisturbed, install, h])
  · exact .inl (by simp [Matched, install, h, PollSession.isActive])

variable {v} (ha : v.alive = true)
include ha

theorem landStatus_poll (who : String) (epoch : Nat) (r : Except Failure FollowStatus) :
    Matched (v.landStatus setup who epoch r) ∨ v.landStatus setup who epoch r = v := by
  rw [landStatus_eq]
  cases r with
  | error f => exact .inr rfl
  | ok s =>
    by_cases hw : v.display.actorId = some who
    · simp only [ha, hw, decide_true, Bool.and_self, if_true]
      refine .inl (matched_syncPoll setup _ ?_ rfl)
      exact ha
    · exact .inr (by simp [hw])

/-- **A landing leaves the poll right**, or it leaves poll and relationship alone. -/
theorem effect_poll (l : Landing) :
    Matched (l.effect setup v).1 ∨ Undisturbed v (l.effect setup v).1 := by
  cases l with
  | actor caller generation url r =>
    rw [Landing.effect, landActor_eq]
    split
    · split
      · next p _ =>
        have loaded : Undisturbed (v.install p)
            ((v.install p).issueAll setup (loads caller generation p)).1 := by
          simp [Undisturbed]
        have rest := loaded.trans (closeResolution_undisturbed setup _ caller generation)
        rcases install_poll v p with h | h
        · exact .inl (rest.matched h)
        · exact .inr (h.trans rest)
      · exact .inr ⟨rfl, rfl⟩
    · exact .inr ⟨rfl, rfl⟩
  | count caller generation which r =>
    have landed : Undisturbed v (v.landCount generation which r) := by simp [Undisturbed]
    exact .inr (landed.trans (closeResolution_undisturbed setup _ caller generation))
  | outbox caller generation r =>
    have landed : Undisturbed v (v.landOutbox generation r) := by simp [Undisturbed]
    exact .inr (landed.trans (closeResolution_undisturbed setup _ caller generation))
  | status who epoch after r =>
    rw [Landing.effect]
    have rest : Undisturbed (v.landStatus setup who epoch r)
        (v.landRead setup who epoch after r).1 := by
      simp only [landRead]
      split
      · exact readStatus_undisturbed setup _ _
      · exact afterRead_undisturbed setup _ _
    rcases landStatus_poll setup ha who epoch r with h | h
    · exact .inl (rest.matched h)
    · rw [h] at rest
      exact .inr rest
  | request caller who prior optimistic r =>
    rw [Landing.effect, landRequest_eq]
    split
    · -- the status is forced and the poll follows it, whether the request has failed or not
      refine .inl ?_
      cases r with
      | ok u =>
        refine (readStatus_undisturbed setup _ _).matched (matched_syncPoll setup _ ?_ rfl)
        exact ha
      | error f =>
        refine (readStatus_undisturbed setup _ _).matched (matched_syncPoll setup _ ?_ rfl)
        exact ha
    · exact .inr ⟨rfl, rfl⟩

end Parts

/-- **A tick that ends its own poll** reads the status once more exactly if the task of the poll
ticks once more before it is cancelled. -/
theorem log_of_overran {u v : View} {c : PollCrew.Logged Unit} {k p next : Nat}
    (held : c.crew.held = some k) (task : c.crew.task k = u.poll) (clock : c.crew.now = v.now)
    (works : u.poll = .ticking p next ()) (stopped : v.poll = .idle) :
    ((PollCrew.stopFromWithin k).foldl PollCrew.Logged.step c).log = ⟨k, v.now, .stopped⟩ ::
      ((if v.overran u then [⟨k, v.now, .ticked ()⟩] else []) ++
        ⟨k, v.now, .returned true⟩ :: c.log) := by
  have same : v.overran u = decide (next ≤ v.now) := by simp [overran, works, stopped]
  rw [(PollCrew.log_stopFromWithin held (task.trans works)).2, clock, same]
  simp

/-! ### One step -/

section Step

variable {setup : Setup} {v : View} {e : Event}

/-- **A step leaves the poll right**, or it leaves poll and relationship alone, or it starts a
toggle, or the task of a poll that was started in vain runs. -/
theorem step_poll (ha : (v.step setup e).1.alive = true) (hp : e.steersPoll = false) :
    Matched (v.step setup e).1 ∨ Undisturbed v (v.step setup e).1 ∨
    (∃ caller, e = .toggle caller ∧ v.canToggle setup = true) ∨
    e = .pollDue ∧ ∃ since, v.poll = .doomed since () := by
  rw [step_alive, Bool.and_eq_true, Bool.not_eq_true'] at ha
  obtain ⟨ha, ht⟩ := ha
  cases e with
  | ensurePoll => cases hp
  | stopPoll => cases hp
  | teardown => cases ht
  | elapse ms => exact .inr (.inl ⟨rfl, rfl⟩)
  | resolve caller url =>
    refine .inr (.inl ⟨?_, by simp [step, react]⟩)
    simp only [step, react, resolve]
    split
    · rfl
    · split <;> rfl
  | refresh caller =>
    exact .inr (.inl (readStatus_undisturbed setup (v.giveUpLastTick (.refresh caller)) _))
  | toggle caller =>
    by_cases hc : v.canToggle setup = true
    · exact .inr (.inr (.inl ⟨caller, rfl, hc⟩))
    · refine .inr (.inl ⟨?_, by simp [step_relationship, localWrite?, report?, landing?, hc]⟩)
      simp only [step, react, toggle]
      split
      · split <;> rfl
      · rfl
  | pollDue =>
    have alive : (v.giveUpLastTick .pollDue).alive = true := ha
    simp only [step, react, pollDue]
    split
    · next hd =>
      rw [if_pos alive]
      have fired : Undisturbed v { v.giveUpLastTick .pollDue with
          poll := (v.giveUpLastTick .pollDue).poll.fire (v.giveUpLastTick .pollDue).now } :=
        ⟨PollSession.isActive_fire_of_due hd, rfl⟩
      exact .inr (.inl (fired.trans (readStatus_undisturbed setup _ .tick)))
    · next hd =>
      rcases PollSession.fire_of_due?_eq_none hd with ⟨since, t, hs, -⟩ | hf
      · exact .inr (.inr (.inr ⟨trivial, since, hs⟩))
      · exact .inr (.inl ⟨congrArg PollSession.isActive hf, rfl⟩)
  | recheckDue =>
    refine .inr (.inl ?_)
    have alive : (v.giveUpLastTick .recheckDue).alive = true := ha
    simp only [step, react, recheckDue]
    split
    · split
      · exact readStatus_undisturbed setup
          { v.giveUpLastTick .recheckDue with recheck := some .reading } .recheck
      · exact ⟨rfl, rfl⟩
    · exact ⟨rfl, rfl⟩
  | answered ticket a =>
    cases hl : v.landing? (.answered ticket a) with
    | none =>
      rw [step_answered, hl]
      exact .inr (.inl ⟨rfl, rfl⟩)
    | some l =>
      have alive : (v.cleared ticket a).alive = true := ha
      rw [step_of_landing hl]
      rcases effect_poll setup alive l with h | h
      · exact .inl h
      · exact .inr (.inl h)

/-- A step that leaves the relationship alone makes no local write: that would start an epoch. -/
theorem localWrite?_eq_none_of_undisturbed (hu : Undisturbed v (v.step setup e).1) :
    v.localWrite? setup e = none := by
  cases hw : v.localWrite? setup e with
  | none => rfl
  | some w =>
    have next := congrArg Relationship.epoch hu.2
    rw [relationship_of_write hw] at next
    exact absurd next (Nat.succ_ne_self _)

/-- A toggle that is let through requests for the displayed actor. -/
theorem requested_of_canToggle {caller : Nat} (h : v.canToggle setup = true) :
    ∃ who, (v.step setup (.toggle caller)).1.display.actorId = some who ∧
      Requested (v.step setup (.toggle caller)).1 who := by
  have shown : v.display.profile.isSome = true := by
    simp only [canToggle, Bool.and_eq_true] at h
    exact h.2
  obtain ⟨p, hp⟩ := Option.isSome_iff_exists.1 shown
  have own : v.display.actorId = some p.id := by simp [Display.actorId, hp]
  refine ⟨p.id, ?_, requested_of_toggle h own⟩
  rw [step_actorId]
  exact own

end Step

/-! ### Every run -/

section Runs

variable {setup : Setup} {events : List Event} {e : Event}

/-- The last poll of a run broke off, because its first deadline could not be set when its task ran,
and none has been started since. -/
inductive BrokenOff (setup : Setup) : List Event → Prop where
  | breaks {events : List Event} {since : Nat}
      (doomed : (View.run setup .start events).poll = .doomed since ()) :
      BrokenOff setup (events ++ [.pollDue])
  | stays {events : List Event} {e : Event} (broken : BrokenOff setup events)
      (idle : (View.run setup .start (events ++ [e])).poll = .idle) :
      BrokenOff setup (events ++ [e])

theorem BrokenOff.poll_eq_idle (h : BrokenOff setup events) :
    (View.run setup .start events).poll = .idle := by
  cases h with
  | breaks doomed =>
    rw [run_append_singleton]
    exact pollDue_of_hopeless setup (.inr ⟨_, doomed⟩)
  | stays broken idle => exact idle

theorem BrokenOff.not_isActive (h : BrokenOff setup events) :
    ¬ (View.run setup .start events).poll.isActive = true := by
  rw [h.poll_eq_idle]
  nofun

/-- Where a poll has broken off none could be started now: time only takes deadlines away. -/
theorem BrokenOff.not_canPoll (h : BrokenOff setup events) :
    ¬ setup.CanPoll (View.run setup .start events).now := by
  induction h with
  | @breaks events since doomed =>
    intro can
    rw [run_append_singleton] at can
    have startable := holds_run (lasting_startable setup) (startable_start setup) events
    exact startable (can.earlier (now_le_step setup _ _)) since doomed
  | stays broken idle ih =>
    intro can
    rw [run_append_singleton] at can
    exact ih (can.earlier (now_le_step setup _ _))

/-- The poll matches the status, or it has broken off, or a request for the displayed actor is still
to set it right. -/
def Tuned (setup : Setup) (events : List Event) : Prop :=
  let v := View.run setup .start events
  Matched v ∨ BrokenOff setup events ∨ ∃ who, v.display.actorId = some who ∧ Requested v who

theorem tuned_start : Tuned setup [] :=
  .inl (by simp [Matched, View.run, start, Display.empty, Relationship.start, PollSession.isActive])

theorem tuned_append_singleton (h : Tuned setup events)
    (ha : (View.run setup .start (events ++ [e])).alive = true) (hp : e.steersPoll = false) :
    Tuned setup (events ++ [e]) := by
  have sound : Sound setup (Logged.run setup events) := Logged.sound_run setup events
  have same : (Logged.run setup events).view = View.run setup .start events :=
    Logged.run_view setup events
  unfold Tuned
  dsimp only
  rw [run_append_singleton] at ha ⊢
  obtain ⟨fs, hc⟩ := step_calls setup (View.run setup .start events) e
  have before : (View.run setup .start events).alive = true := alive_of_step ha
  rcases step_poll ha hp with hm | hu | ⟨caller, rfl, hcan⟩ | ⟨rfl, since, doomed⟩
  · exact .inl hm
  · rcases h with hm | broken | ⟨who, hwho, hq⟩
    · exact .inl (hu.matched hm)
    · refine .inr (.inl (.stays broken ?_))
      rw [run_append_singleton]
      apply PollSession.eq_idle_of_isActive
      rw [hu.1, broken.poll_eq_idle]
      rfl
    · -- without a local write the request has not come back
      have hw := localWrite?_eq_none_of_undisturbed hu
      refine .inr (.inr ⟨who, (step_actorId_of_localWrite?_eq_none hw).trans hwho, ?_⟩)
      rw [← same] at hc before hwho hw hq ⊢
      exact requested_of_localWrite?_eq_none sound hc before hwho hw hq
  · exact .inr (.inr (requested_of_canToggle hcan))
  · exact .inr (.inl (.breaks doomed))

theorem tuned_run (hp : ∀ e ∈ events, e.steersPoll = false)
    (ha : (View.run setup .start events).alive = true) : Tuned setup events := by
  induction events using List.reverseRecOn with
  | nil => exact tuned_start
  | append_singleton events e ih =>
    have before : (View.run setup .start events).alive = true := by
      rw [run_append_singleton] at ha
      exact alive_of_step ha
    have tuned := ih (fun x hx => hp x (List.mem_append_left _ hx)) before
    exact tuned_append_singleton tuned ha (hp e (by simp))

end Runs

/-- **The poll follows the status**, for every run in which nobody starts or stops the poll from
outside, in a view that lives and waits for no follow or unfollow. The poll is active exactly if the
displayed status is pending and the poll has not broken off. It has not if a poll that is started now
can set its first deadline, and if that has never been so it is over as soon as its task runs. -/
theorem poll_follows_status (setup : Setup) (events : List Event)
    (hp : ∀ e ∈ events, e.steersPoll = false)
    (ha : (View.run setup .start events).alive = true)
    (hr : ∀ x ∈ (View.run setup .start events).flights, x.2.isRequest = false) :
    let v := View.run setup .start events
    (v.poll.isActive = true ↔
      v.display.relationship.status = .pending ∧ ¬ BrokenOff setup events) ∧
    (setup.CanPoll v.now → ¬ BrokenOff setup events) ∧
    (¬ setup.CanPoll 0 → (v.step setup .pollDue).1.poll.isActive = false) := by
  intro v
  refine ⟨?_, fun can broken => broken.not_canPoll can, fun never => ?_⟩
  · rcases tuned_run hp ha with hm | broken | ⟨who, -, ticket, caller, prior, optimistic, hq⟩
    · exact ⟨fun active => ⟨hm.1 active, fun broken => broken.not_isActive active⟩,
        fun h => hm.2 h.1⟩
    · exact ⟨fun active => absurd active broken.not_isActive, fun h => absurd broken h.2⟩
    · cases hr _ hq
  · have vain := holds_run (lasting_hopeless setup) (fun _ => .inl rfl) events never
    rw [pollDue_of_hopeless setup vain]
    rfl

/-- The answer that a shown actor has not yet taken the follow. -/
def undecided : Event := .answered 1 (.status (.ok .pending))

/-- The poll of an undecided follow runs, and a tick that reads an accepted follow ends it. -/
theorem poll_ends_with_pending :
    (View.run usual .start (shown "a" ++ [undecided])).poll.isActive = true ∧
    ¬ (View.run usual .start (shown "a" ++ [undecided, .elapse 6000, .pollDue,
      .answered 2 (.status (.ok .accepted))])).poll.isActive = true := by
  constructor
  · have law := poll_follows_status usual (shown "a" ++ [undecided]) (by decide) rfl (by decide)
    exact law.1.2 ⟨rfl, law.2.1 (by decide)⟩
  · intro active
    have law := poll_follows_status usual (shown "a" ++ [undecided, .elapse 6000, .pollDue,
      .answered 2 (.status (.ok .accepted))]) (by decide) rfl (by decide)
    cases (law.1.1 active).1

/-- The longest interval that the settings can hold. -/
def endless : Setup :=
  { usual with settings := { FollowSettings.default with pollIntervalSecs := 0xFFFFFFFFFFFFFFFF } }

/-- **A pending follow without a poll**: the interval is not zero, no request is under way, and the
poll that was started has broken off. -/
theorem pending_without_poll :
    let v := View.run endless .start (shown "a" ++ [undecided, .pollDue])
    0 < endless.settings.pollInterval ∧ v.alive = true ∧
    (∀ x ∈ v.flights, x.2.isRequest = false) ∧ v.display.relationship.status = .pending ∧
    v.poll.isActive = false := by
  decide

end FollowClient.View
