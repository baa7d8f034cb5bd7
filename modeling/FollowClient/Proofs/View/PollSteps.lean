import FollowClient.Proofs.View.Chronicle

/-!
What a view does to its poll. It starts and stops the session and lets its task run and its ticks
end, while time goes by, and nothing else. So what survives each of these survives every step, and
holds in every run: `holds_run`. Two such facts are about a poll whose first deadline cannot be set.
-/

namespace FollowClient.View

theorem run_append_singleton (setup : Setup) (v : View) (events : List Event) (e : Event) :
    View.run setup v (events ++ [e]) = ((View.run setup v events).step setup e).1 :=
  List.foldl_append

/-- A poll that is started now can set its first deadline. -/
def Setup.CanPoll (setup : Setup) (now : Nat) : Prop :=
  PollSession.Feasible setup.clockEnd now setup.settings.pollInterval

instance (setup : Setup) (now : Nat) : Decidable (setup.CanPoll now) :=
  inferInstanceAs (Decidable (PollSession.Feasible ..))

theorem Setup.CanPoll.earlier {setup : Setup} {now before : Nat} (h : setup.CanPoll now)
    (hle : before ≤ now) : setup.CanPoll before :=
  ⟨h.1, Nat.le_trans (Nat.add_le_add_right hle _) h.2⟩

/-- A property of the time and the poll that survives all that a view does to its poll. -/
structure Lasting (setup : Setup) (P : Nat → PollSession Unit → Prop) : Prop where
  stop {now : Nat} {s : PollSession Unit} (h : P now s) : P now .idle
  ensure {now : Nat} {s : PollSession Unit} (h : P now s) :
    P now (s.ensure setup.clockEnd now setup.settings.pollInterval ())
  fire {now : Nat} {s : PollSession Unit} (h : P now s) : P now (s.fire now)
  finish {now : Nat} {s : PollSession Unit} (goesOn : Bool) (h : P now s) : P now (s.finish goesOn)
  elapse {now : Nat} {s : PollSession Unit} (ms : Nat) (h : P now s) : P (now + ms) s

/-- The property holds of the time and the poll of a view. -/
def Holds (P : Nat → PollSession Unit → Prop) (v : View) : Prop := P v.now v.poll

section Parts

variable {setup : Setup} {P : Nat → PollSession Unit → Prop} (hP : Lasting setup P) {v : View}

theorem Holds.of_eq {w : View} (h : Holds P v) (hn : w.now = v.now) (hp : w.poll = v.poll) :
    Holds P w := by
  unfold Holds
  rw [hn, hp]
  exact h

theorem issueAll_now (v : View) (fs : List Flight) : (issueAll setup v fs).1.now = v.now := by
  induction fs generalizing v with
  | nil => rfl
  | cons f fs ih => exact ih (v.issue setup f).1

include hP

theorem holds_ensurePoll (h : Holds P v) : Holds P (v.ensurePoll setup) := by
  unfold ensurePoll
  split
  · exact hP.ensure h
  · exact h

theorem holds_syncPoll (h : Holds P v) (s : FollowStatus) : Holds P (v.syncPoll setup s) := by
  unfold syncPoll
  split
  · exact holds_ensurePoll hP h
  · exact hP.stop h

theorem holds_afterRead (h : Holds P v) (after : AfterRead) :
    Holds P (v.afterRead setup after).1 := by
  cases after with
  | tick => exact hP.finish true h
  | _ => exact h.of_eq rfl rfl

theorem holds_readStatus (h : Holds P v) (after : AfterRead) :
    Holds P (v.readStatus setup after).1 := by
  rw [readStatus_eq]
  split
  · exact h.of_eq rfl rfl
  · exact holds_afterRead hP h after

theorem holds_closeResolution (h : Holds P v) (caller generation : Nat) :
    Holds P (v.closeResolution setup caller generation).1 := by
  unfold closeResolution
  split
  · exact h
  · split
    · exact holds_readStatus hP h _
    · exact h

theorem holds_install (h : Holds P v) (p : Profile) : Holds P (v.install p) := by
  by_cases same : v.display.actorId = some p.id
  · exact h.of_eq (by simp [install, same]) (by simp [install, same])
  · simp only [install, same, if_false]
    exact hP.stop h

theorem holds_landStatus (h : Holds P v) (who : String) (epoch : Nat)
    (r : Except Failure FollowStatus) : Holds P (v.landStatus setup who epoch r) := by
  rw [landStatus_eq]
  cases r with
  | error f => exact h
  | ok s =>
    dsimp only
    split
    · refine holds_syncPoll hP ?_ _
      exact h.of_eq rfl rfl
    · exact h

theorem holds_effect (h : Holds P v) (l : Landing) : Holds P (l.effect setup v).1 := by
  cases l with
  | actor caller generation url r =>
    rw [Landing.effect, landActor_eq]
    split
    · split
      · refine holds_closeResolution hP ?_ caller generation
        exact (holds_install hP h _).of_eq (issueAll_now _ _) (by simp)
      · exact h.of_eq rfl rfl
    · exact h
  | count caller generation which r =>
    have landed : (v.landCount generation which r).now = v.now := by
      unfold landCount
      split
      · split
        · cases which <;> rfl
        · rfl
      · rfl
    exact holds_closeResolution hP (h.of_eq landed (by simp)) caller generation
  | outbox caller generation r =>
    have landed : (v.landOutbox generation r).now = v.now := by
      unfold landOutbox
      split
      · split <;> rfl
      · rfl
    exact holds_closeResolution hP (h.of_eq landed (by simp)) caller generation
  | status who epoch after r =>
    have landed := holds_landStatus hP h who epoch r
    simp only [Landing.effect, landRead]
    split
    · exact holds_readStatus hP landed _
    · exact holds_afterRead hP landed _
  | request caller who prior optimistic r =>
    rw [Landing.effect, landRequest_eq]
    split
    · have forced (r : Relationship) : Holds P (v.withRelationship r) := h.of_eq rfl rfl
      have reverted (f : Failure) : Holds P (v.reverted prior f.message) := h.of_eq rfl rfl
      cases r with
      | ok u => exact holds_readStatus hP (holds_syncPoll hP (forced _) optimistic) _
      | error f => exact holds_readStatus hP (holds_syncPoll hP (reverted f) prior) _
    · exact h.of_eq rfl rfl

/-- **A step does to the poll what can be done to a session.** -/
theorem holds_step (h : Holds P v) (e : Event) : Holds P (v.step setup e).1 := by
  have given : Holds P (v.giveUpLastTick e) := h.of_eq rfl rfl
  cases e with
  | resolve caller url =>
    simp only [step, react, resolve]
    split
    · exact h.of_eq rfl rfl
    · split <;> exact h.of_eq rfl rfl
  | refresh caller => exact holds_readStatus hP given _
  | toggle caller =>
    simp only [step, react, toggle]
    split
    · split <;> exact h.of_eq rfl rfl
    · exact given
  | ensurePoll => exact holds_ensurePoll hP given
  | stopPoll => exact hP.stop h
  | teardown => exact hP.stop h
  | elapse ms => exact hP.elapse ms h
  | pollDue =>
    let fired : View := { v.giveUpLastTick .pollDue with poll := v.poll.fire v.now }
    have runs : Holds P fired := hP.fire h
    simp only [step, react, pollDue]
    split
    · split
      · exact holds_readStatus hP runs .tick
      · exact hP.finish false runs
    · exact runs
  | recheckDue =>
    have reading : Holds P { v.giveUpLastTick .recheckDue with recheck := some .reading } :=
      h.of_eq rfl rfl
    simp only [step, react, recheckDue]
    split
    · split
      · split
        · exact holds_readStatus hP reading .recheck
        · exact h.of_eq rfl rfl
      · exact given
    · exact given
  | answered ticket a =>
    cases hl : v.landing? (.answered ticket a) with
    | none =>
      rw [step_answered, hl]
      exact given
    | some l =>
      have cleared : Holds P (v.cleared ticket a) := h.of_eq rfl rfl
      rw [step_of_landing hl]
      exact holds_effect hP cleared l

/-- **In every run the poll has every lasting property** that it has before anything happens. -/
theorem holds_run (h : P 0 .idle) (events : List Event) :
    Holds P (View.run setup .start events) := by
  have all : ∀ v : View, Holds P v → Holds P (View.run setup v events) := by
    induction events with
    | nil => exact fun v h => h
    | cons e events ih => exact fun v h => ih _ (holds_step hP h e)
  exact all .start h

end Parts

/-- Time does not go back. -/
theorem now_le_step (setup : Setup) (v : View) (e : Event) : v.now ≤ (v.step setup e).1.now := by
  have later : Lasting setup fun now _ => v.now ≤ now :=
    ⟨id, id, id, fun _ => id, fun ms h => Nat.le_trans h (Nat.le_add_right _ ms)⟩
  exact holds_step later (v := v) (Nat.le_refl v.now) e

/-! ### Polls whose first deadline cannot be set -/

section Doomed

variable (setup : Setup)

/-- While a poll could be started, the one that runs has not been started in vain. -/
def Startable (now : Nat) (s : PollSession Unit) : Prop :=
  setup.CanPoll now → ∀ since, s ≠ .doomed since ()

/-- If a poll can never be started, the one that runs is over as soon as its task runs. -/
def Hopeless (_ : Nat) (s : PollSession Unit) : Prop :=
  ¬ setup.CanPoll 0 → s = .idle ∨ ∃ since, s = .doomed since ()

theorem startable_start : Holds (Startable setup) .start := fun _ _ h => nomatch h

theorem lasting_startable : Lasting setup (Startable setup) where
  stop _ _ _ hs := by cases hs
  ensure {now s} h can since := by
    cases s with
    | idle =>
      have feasible : PollSession.Feasible setup.clockEnd now setup.settings.pollInterval := can
      simp [PollSession.ensure, feasible]
    | _ => exact h can since
  fire {now s} h can since := by
    cases s with
    | waiting p d t => by_cases hd : d ≤ now <;> simp [PollSession.fire, hd]
    | doomed s t => exact absurd rfl (h can s)
    | _ => exact h can since
  finish {now s} goesOn h can since := by
    cases s with
    | ticking p d t => cases goesOn <;> simp [PollSession.finish]
    | _ => exact h can since
  elapse ms h can := h (can.earlier (Nat.le_add_right _ ms))

theorem lasting_hopeless : Lasting setup (Hopeless setup) where
  stop _ _ := .inl rfl
  ensure {now s} h never := by
    rcases h never with rfl | ⟨since, rfl⟩
    · have infeasible : ¬ PollSession.Feasible setup.clockEnd now setup.settings.pollInterval :=
        fun feasible => never (Setup.CanPoll.earlier feasible (Nat.zero_le now))
      exact .inr ⟨now, by simp [PollSession.ensure, infeasible]⟩
    · exact .inr ⟨since, rfl⟩
  fire h never := by
    rcases h never with rfl | ⟨since, rfl⟩
    · exact .inl rfl
    · exact .inl rfl
  finish goesOn h never := by
    rcases h never with rfl | ⟨since, rfl⟩
    · exact .inl rfl
    · exact .inr ⟨since, rfl⟩
  elapse _ h := h

/-- The task of a poll that was started in vain ends the poll when it runs. -/
theorem pollDue_of_hopeless {v : View} (h : v.poll = .idle ∨ ∃ since, v.poll = .doomed since ()) :
    (v.step setup .pollDue).1.poll = .idle := by
  have now : (v.giveUpLastTick .pollDue).poll = .idle ∨
      ∃ since, (v.giveUpLastTick .pollDue).poll = .doomed since () := h
  simp only [step, react, pollDue]
  rcases now with idle | ⟨since, doomed⟩
  · rw [idle]
    rfl
  · rw [doomed]
    rfl

end Doomed

end FollowClient.View
