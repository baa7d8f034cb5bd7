import FollowClient.Proofs.Poll.Crew

/-!
When the ticks of poll sessions fire. How long the work of a tick takes is open, and so is when the
owner of the handle starts, stops and replaces sessions; but no time goes by while a tick is due
(`Punctual`), so a tick fires at its deadline or, if the work of the one before has not ended by
then, as soon as it has (`Prompt`).

The log of such a run tells the deadline of the session that runs (`timetable`). From it come the
laws of `ticks_never_burst`: ticks keep their distance, within a session and from one session to the
next.
-/

namespace FollowClient.PollCrew

section Pace

variable {τ : Type}

/-! ### Runs in which no tick is kept waiting -/

/-- No time goes by while a task waits that has something to do: to fire a tick that is due, or to
run for the first time. -/
def Timely (c : PollCrew τ) : Act τ → Prop
  | .elapse ms => ∀ k < c.spawned, ∀ due ∈ (c.task k).wakeUp?, c.now + ms ≤ max c.now due
  | _ => True

/-- The acts are timely, each where those before it have led. -/
def Punctual : PollCrew τ → List (Act τ) → Prop
  | _, [] => True
  | c, a :: acts => Timely c a ∧ Punctual (c.step a) acts

instance decidableTimely (c : PollCrew τ) : ∀ a, Decidable (Timely c a)
  | .elapse ms => inferInstanceAs (Decidable
      (∀ k < c.spawned, ∀ due ∈ (c.task k).wakeUp?, c.now + ms ≤ max c.now due))
  | .ensure .. | .stop | .replace | .fire _ | .finish .. => isTrue trivial

instance decidablePunctual : ∀ (c : PollCrew τ) (acts : List (Act τ)), Decidable (Punctual c acts)
  | _, [] => isTrue trivial
  | c, a :: acts =>
    have := decidablePunctual (c.step a) acts
    inferInstanceAs (Decidable (Timely c a ∧ Punctual (c.step a) acts))

/-! ### The timetable of the session that runs -/

/-- What a log tells of the session that runs. -/
structure Timetable where
  task : Nat
  period : Nat
  start : Nat
  /-- The deadline of the next tick. -/
  due : Nat
  /-- Since when the next tick is waited for, unless one is at work. -/
  since : Nat

/-- The timetable after a log, if a session runs. -/
def timetable : List (Entry τ) → Option Timetable
  | [] => none
  | e :: log =>
    match e.deed with
    | .started period _ => some ⟨e.task, period, e.time, e.time + period, e.time⟩
    | .ticked _ => (timetable log).map fun x =>
        { x with due := PollSession.nextDeadline x.period x.due e.time }
    | .returned true => (timetable log).map fun x => { x with since := e.time }
    | .broke | .returned false | .stopped => none

/-- Every tick fires at its deadline, or when the wait for it begins if that is later. -/
def Prompt : List (Entry τ) → Prop
  | [] => True
  | e :: log =>
    (e.isTick = true → ∀ x ∈ timetable log, e.time = max x.due x.since) ∧ Prompt log

/-- The ticks of a task in a log. -/
def ticksOf (k : Nat) (log : List (Entry τ)) : Nat :=
  log.countP fun e => e.task == k && e.isTick

section Deadlines

variable (period deadline now : Nat)

theorem add_period_le_nextDeadline :
    deadline + period ≤ PollSession.nextDeadline period deadline now := by
  unfold PollSession.nextDeadline
  split
  · omega
  · omega

theorem fired_add_period_le_nextDeadline :
    now + period ≤ PollSession.nextDeadline period deadline now + PollSession.tolerance := by
  unfold PollSession.nextDeadline
  split
  · omega
  · omega

end Deadlines

section Reading

variable {log : List (Entry τ)} {x : Timetable}

/-- What an entry makes of the timetable. -/
theorem timetable_cons {e : Entry τ} (h : timetable (e :: log) = some x) :
    (∃ tick, e.deed = .started x.period tick ∧
      x = ⟨e.task, x.period, e.time, e.time + x.period, e.time⟩) ∨
    (∃ y tick, timetable log = some y ∧ e.deed = .ticked tick ∧
      x = { y with due := PollSession.nextDeadline y.period y.due e.time }) ∨
    (∃ y, timetable log = some y ∧ e.deed = .returned true ∧ x = { y with since := e.time }) := by
  obtain ⟨k, time, deed⟩ := e
  cases deed with
  | started period tick =>
    obtain rfl := Option.some.inj h
    exact .inl ⟨tick, rfl, rfl⟩
  | ticked tick =>
    obtain ⟨y, hy, rfl⟩ := Option.map_eq_some_iff.1 h
    exact .inr (.inl ⟨y, tick, hy, rfl, rfl⟩)
  | returned goesOn =>
    cases goesOn with
    | true =>
      obtain ⟨y, hy, rfl⟩ := Option.map_eq_some_iff.1 h
      exact .inr (.inr ⟨y, hy, rfl, rfl⟩)
    | false => cases h
  | _ => cases h

/-- The timetable is that of the task that lives. -/
theorem task_timetable (log : List (Entry τ)) :
    (timetable log).map Timetable.task = (current log).map Duty.task := by
  induction log with
  | nil => rfl
  | cons e log ih =>
    obtain ⟨k, time, deed⟩ := e
    cases deed with
    | ticked tick => simpa [timetable, current, Function.comp_def] using ih
    | returned goesOn =>
      cases goesOn with
      | true => simpa [timetable, current, Function.comp_def] using ih
      | false => rfl
    | _ => rfl

theorem timetable_of_current {d : Duty τ} (h : current log = some d) :
    ∃ x, timetable log = some x ∧ x.task = d.task := by
  have same := task_timetable log
  rw [h] at same
  exact Option.map_eq_some_iff.1 same

theorem current_of_timetable (h : timetable log = some x) :
    ∃ d, current log = some d ∧ d.task = x.task := by
  have same := task_timetable log
  rw [h] at same
  exact Option.map_eq_some_iff.1 same.symm

/-- The task that starts is a new one. -/
theorem Fits.lt_of_started {e : Entry τ} (h : Fits log e) {period : Nat} {tick : τ}
    (he : e.deed = .started period tick) {a : Entry τ} (ha : a ∈ log) : a.task < e.task := by
  simp only [Fits, he] at h
  exact h.2 a ha

/-- No task with a greater number than the one that lives has been spawned. -/
theorem le_of_current (h : Legal log) {d : Duty τ} (hd : current log = some d) {a : Entry τ}
    (ha : a ∈ log) : a.task ≤ d.task := by
  induction log generalizing d with
  | nil => cases hd
  | cons e log ih =>
    obtain ⟨fits, legal⟩ := h
    rcases current_cons e log with ⟨p, tick, he, hc⟩ | ⟨-, -, hc⟩ | ⟨-, -, w, hc⟩
    · obtain rfl := Option.some.inj (hc ▸ hd)
      rcases List.mem_cons.1 ha with rfl | ha
      · exact Nat.le_refl _
      · exact Nat.le_of_lt (fits.lt_of_started he ha)
    · cases hc ▸ hd
    · obtain ⟨d', before, rfl⟩ := Option.map_eq_some_iff.1 (hc ▸ hd)
      rcases List.mem_cons.1 ha with rfl | ha
      · exact Nat.le_of_eq (fits.task_eq before).symm
      · exact ih legal (d := d') before ha

/-- The timetable keeps the period and the time of the start. -/
theorem timetable_of_started (h : Legal log) (hx : timetable log = some x) {s : Entry τ}
    (hs : s ∈ log) (own : s.task = x.task) {period : Nat} {tick : τ}
    (started : s.deed = .started period tick) : x.period = period ∧ x.start = s.time := by
  induction log generalizing x with
  | nil => cases hs
  | cons e log ih =>
    obtain ⟨fits, legal⟩ := h
    rcases List.mem_cons.1 hs with rfl | hs
    · simp only [timetable, started] at hx
      obtain rfl := Option.some.inj hx
      exact ⟨rfl, rfl⟩
    rcases timetable_cons hx with ⟨t, he, hx⟩ | ⟨y, t, hy, he, rfl⟩ | ⟨y, hy, he, rfl⟩
    · -- the task of an earlier start is not the one that starts now
      have new := fits.lt_of_started he hs
      rw [own, hx] at new
      exact absurd new (Nat.lt_irrefl _)
    · exact ih legal (x := y) hy hs own
    · exact ih legal (x := y) hy hs own

end Reading

/-! ### Runs keep to the timetable -/

/-- At this time the session of the task that lives is as the timetable says, and it has not missed
its next tick. -/
def Timetable.Shows (x : Timetable) (now : Nat) : PollSession τ → Prop
  | .idle => False
  | .doomed since _ => x.start = since ∧ now = since
  | .waiting period due _ =>
    x.period = period ∧ x.due = due ∧ x.since ≤ now ∧ now ≤ max x.due x.since
  | .ticking period due _ => x.period = period ∧ x.due = due

/-- The log is in the order of time, and the tasks keep to the timetable. -/
structure OnTime (s : Logged τ) : Prop where
  kept : Kept s
  past {e : Entry τ} (h : e ∈ s.log) : e.time ≤ s.crew.now
  ordered : s.log.Pairwise fun e e' => e'.time ≤ e.time
  prompt : Prompt s.log
  shows {x : Timetable} (h : timetable s.log = some x) : x.Shows s.crew.now (s.crew.task x.task)

theorem task_put (c : PollCrew τ) (k : Nat) (s : PollSession τ) : (c.put k s).task k = s :=
  Function.update_self ..

/-- A task that is spawned shows the timetable of its start. -/
theorem shows_ensure (c : PollCrew τ) (period : Nat) (tick : τ) :
    Timetable.Shows ⟨c.spawned, period, c.now, c.now + period, c.now⟩ c.now
      ((c.put c.spawned (PollSession.idle.ensure c.clockEnd c.now period tick)).task
        c.spawned) := by
  rw [task_put]
  by_cases h : PollSession.Feasible c.clockEnd c.now period
  · simp [PollSession.ensure, h, Timetable.Shows]
  · simp [PollSession.ensure, h, Timetable.Shows]

section Step

variable {s : Logged τ}

/-- A new entry is on time if its task then shows what it says. -/
theorem OnTime.extend (h : OnTime s) {c : PollCrew τ} {e : Entry τ} (kept : Kept ⟨c, e :: s.log⟩)
    (time : e.time = s.crew.now) (now : c.now = s.crew.now)
    (prompt : e.isTick = true → ∀ x ∈ timetable s.log, e.time = max x.due x.since)
    (shows' : ∀ x, timetable (e :: s.log) = some x → x.Shows s.crew.now (c.task x.task)) :
    OnTime ⟨c, e :: s.log⟩ where
  kept := kept
  past {a} ha := by
    rcases List.mem_cons.1 ha with rfl | ha
    · exact Nat.le_of_eq (time.trans now.symm)
    · exact Nat.le_trans (h.past ha) (Nat.le_of_eq now.symm)
  ordered := List.pairwise_cons.2 ⟨fun a ha => time ▸ h.past ha, h.ordered⟩
  prompt := ⟨prompt, h.prompt⟩
  shows {x} hx := now ▸ shows' x hx

theorem onTime_ensure (h : OnTime s) (period : Nat) (tick : τ) :
    OnTime (s.step (.ensure period tick)) := by
  have kept := kept_ensure h.kept period tick
  cases ha : s.crew.isActive with
  | true =>
    rw [Logged.step_ensure_of_isActive ha]
    exact h
  | false =>
    simp only [Logged.step, step, entry?, ensure, ha] at kept ⊢
    refine h.extend kept rfl rfl ?_ ?_
    · intro ticks
      cases ticks
    · intro x hx
      obtain rfl := Option.some.inj hx
      exact shows_ensure s.crew period tick

theorem onTime_stop (h : OnTime s) {a : Act τ} (ha : a = .stop ∨ a = .replace) :
    OnTime (s.step a) := by
  have kept := kept_stop h.kept ha
  rw [Logged.step_stop ha, stop] at kept ⊢
  cases hh : s.crew.held with
  | none => exact h
  | some k =>
    rw [hh] at kept
    refine h.extend kept rfl rfl ?_ ?_
    · intro ticks
      cases ticks
    · intro x hx
      cases hx

theorem onTime_elapse (h : OnTime s) {ms : Nat} (timely : Timely s.crew (.elapse ms)) :
    OnTime (s.step (.elapse ms)) where
  kept := kept_step h.kept _
  past ha := Nat.le_trans (h.past ha) (Nat.le_add_right _ _)
  ordered := h.ordered
  prompt := h.prompt
  shows {x} hx := by
    have now := h.shows hx
    obtain ⟨d, hd, own⟩ := current_of_timetable hx
    have spawned : x.task < s.crew.spawned := own ▸ h.kept.heldSpawned (h.kept.held hd)
    have waits := timely x.task spawned
    show x.Shows (s.crew.now + ms) (s.crew.task x.task)
    revert now waits
    cases s.crew.task x.task with
    | idle => exact fun now _ => now
    | ticking period due tick => exact fun now _ => now
    | doomed since tick =>
      rintro ⟨start, rfl⟩ waits
      have le := waits _ rfl
      exact ⟨start, by omega⟩
    | waiting period due tick =>
      rintro ⟨hp, hdue, since, upTo⟩ waits
      have le := waits due rfl
      refine ⟨hp, hdue, ?_, ?_⟩
      · omega
      · omega

/-- A task that is not idle is that of the timetable. -/
theorem OnTime.timetable_of_dutyOf (h : OnTime s) {k : Nat} {d : Duty τ}
    (hd : dutyOf k (s.crew.task k) = some d) :
    ∃ x, timetable s.log = some x ∧ x.task = k ∧ x.Shows s.crew.now (s.crew.task k) := by
  obtain ⟨now, rfl⟩ := h.kept.duty.1 hd
  obtain ⟨x, hx, own⟩ := timetable_of_current now
  exact ⟨x, hx, own, own ▸ h.shows hx⟩

theorem onTime_fire (h : OnTime s) (k : Nat) : OnTime (s.step (.fire k)) := by
  have kept := kept_fire h.kept k
  rw [Logged.step, step, entry?] at kept ⊢
  rcases fire_cases s.crew.now (s.crew.task k) with
    ⟨hd, hf⟩ | ⟨since, tick, ht, hd, hf⟩ | ⟨p, due, next, tick, ht, hd, hf⟩
  · rw [hd, hf, put, Function.update_eq_self]
    exact h
  · rw [hd, hf] at kept ⊢
    refine h.extend kept rfl rfl ?_ ?_
    · intro ticks
      cases ticks
    · intro x hx
      cases hx
  · have rests : dutyOf k (s.crew.task k) = some ⟨k, tick, false⟩ := by rw [ht]; rfl
    obtain ⟨x, hx, own, now⟩ := h.timetable_of_dutyOf rests
    rw [ht] at now hd hf
    obtain ⟨hp, hdue, since, upTo⟩ := now
    have reached : due ≤ s.crew.now := by
      by_contra early
      simp [deed?, PollSession.due?, early] at hd
    have nextDue : PollSession.nextDeadline p due s.crew.now = next := by
      simp only [PollSession.fire, reached, if_true, PollSession.ticking.injEq] at hf
      exact hf.2.1
    rw [ht, hd, hf] at kept ⊢
    refine h.extend kept rfl rfl ?_ ?_
    · intro _ y hy
      obtain rfl := Option.some.inj (hx.symm.trans hy)
      show s.crew.now = max x.due x.since
      omega
    · intro y hy
      rcases timetable_cons hy with ⟨t, he, -⟩ | ⟨z, t, hz, -, rfl⟩ | ⟨z, -, he, -⟩
      · cases he
      · obtain rfl := Option.some.inj (hx.symm.trans hz)
        show Timetable.Shows _ _ ((s.crew.put k _).task x.task)
        rw [own, task_put]
        exact ⟨hp, by rw [← nextDue, hp, hdue]⟩
      · cases he

theorem onTime_finish (h : OnTime s) (k : Nat) (goesOn : Bool) :
    OnTime (s.step (.finish k goesOn)) := by
  have kept := kept_finish h.kept k goesOn
  rw [Logged.step, step, entry?] at kept ⊢
  rcases finish_cases goesOn (s.crew.task k) with ⟨hw, hf⟩ | ⟨p, next, tick, ht, hw, hf⟩
  · rw [hw, hf, put, Function.update_eq_self]
    exact h
  · have works : dutyOf k (s.crew.task k) = some ⟨k, tick, true⟩ := by rw [ht]; rfl
    obtain ⟨x, hx, own, now⟩ := h.timetable_of_dutyOf works
    rw [ht] at now
    obtain ⟨hp, hdue⟩ := now
    rw [hw, hf] at kept ⊢
    refine h.extend kept rfl rfl ?_ ?_
    · intro ticks
      cases ticks
    · intro y hy
      rcases timetable_cons hy with ⟨t, he, -⟩ | ⟨z, t, -, he, -⟩ | ⟨z, hz, he, rfl⟩
      · cases he
      · cases he
      · obtain rfl := Option.some.inj (hx.symm.trans hz)
        obtain rfl : goesOn = true := Deed.returned.inj he
        show Timetable.Shows _ _ ((s.crew.put k _).task x.task)
        rw [own, task_put]
        exact ⟨hp, hdue, Nat.le_refl _, Nat.le_max_right _ _⟩

theorem onTime_step (h : OnTime s) {a : Act τ} (timely : Timely s.crew a) : OnTime (s.step a) := by
  cases a with
  | ensure period tick => exact onTime_ensure h period tick
  | stop => exact onTime_stop h (.inl rfl)
  | replace => exact onTime_stop h (.inr rfl)
  | elapse ms => exact onTime_elapse h timely
  | fire k => exact onTime_fire h k
  | finish k goesOn => exact onTime_finish h k goesOn

theorem Logged.onTime_run {clockEnd : Nat} {acts : List (Act τ)}
    (h : Punctual (start clockEnd) acts) : OnTime (Logged.run clockEnd acts) := by
  have all : ∀ (acts : List (Act τ)) (s : Logged τ), OnTime s → Punctual s.crew acts →
      OnTime (acts.foldl Logged.step s) := by
    intro acts
    induction acts with
    | nil => exact fun s h _ => h
    | cons a acts ih => exact fun s h punctual => ih _ (onTime_step h punctual.1) punctual.2
  refine all acts _ ⟨Logged.kept_run clockEnd [], ?_, .nil, trivial, ?_⟩ h
  · intro e he
    cases he
  · intro x hx
    cases hx

end Step

/-! ### The distances between ticks -/

/-- The n-th tick of a session does not fire before n periods have gone by, and the first one fires
exactly then. -/
def TicksWait (log : List (Entry τ)) : Prop :=
  ∀ later e earlier s period tick, log = later ++ e :: earlier → e.isTick = true →
    s ∈ earlier → s.task = e.task → s.deed = .started period tick →
      s.time + (ticksOf e.task earlier + 1) * period ≤ e.time ∧
      (ticksOf e.task earlier = 0 → e.time = s.time + period)

/-- From one tick of a session to another lie as many periods as there are ticks, less the
tolerance, and the work of the one has ended before the other. -/
def TicksSpaced (log : List (Entry τ)) : Prop :=
  ∀ later e' between e earlier s period tick, log = later ++ e' :: (between ++ e :: earlier) →
    e.isTick = true → e'.isTick = true → e'.task = e.task →
    s ∈ earlier → s.task = e.task → s.deed = .started period tick →
      e.time + (ticksOf e.task between + 1) * period ≤ e'.time + PollSession.tolerance ∧
      ∃ x ∈ between, x.task = e.task ∧ x.deed = .returned true ∧
        e.time ≤ x.time ∧ x.time ≤ e'.time

/-- A tick of a later session fires at least its period after every tick of an earlier one. -/
def SessionsSpaced (log : List (Entry τ)) : Prop :=
  ∀ later s between r earlier period tick, log = later ++ s :: (between ++ r :: earlier) →
    s.deed = .started period tick → r.isStart = true →
    ∀ e ∈ log, ∀ e' ∈ log, e.isTick = true → e'.isTick = true →
      e.task = r.task → e'.task = s.task → e.time + period ≤ e'.time

/-- The first tick of a session that goes on has not been missed. -/
def FirstTickKept (s : Logged τ) : Prop :=
  ∀ a ∈ s.log, ∀ period tick, a.deed = .started period tick → Live s.log a.task →
    ticksOf a.task s.log = 0 → s.crew.now ≤ a.time + period

section Laws

variable {log : List (Entry τ)} {x : Timetable}

theorem Prompt.of_append {later earlier : List (Entry τ)} (h : Prompt (later ++ earlier)) :
    Prompt earlier := by
  induction later with
  | nil => exact h
  | cons e later ih => exact ih h.2

theorem ticksOf_cons (k : Nat) (e : Entry τ) (log : List (Entry τ)) :
    ticksOf k (e :: log) = ticksOf k log + if e.task = k ∧ e.isTick = true then 1 else 0 := by
  simp [ticksOf, List.countP_cons]

theorem ticksOf_cons_le (k : Nat) (e : Entry τ) (log : List (Entry τ)) :
    ticksOf k (e :: log) ≤ ticksOf k log + 1 := by
  rw [ticksOf_cons]
  split
  · omega
  · omega

theorem ticksOf_cons_of_not_tick (k : Nat) {e : Entry τ} (he : e.isTick = false)
    (log : List (Entry τ)) : ticksOf k (e :: log) = ticksOf k log := by
  simp [ticksOf_cons, he]

theorem ticksOf_eq_zero {k : Nat} (h : ∀ e ∈ log, e.task < k) : ticksOf k log = 0 := by
  refine List.countP_eq_zero.2 fun e he => ?_
  simp [Nat.ne_of_lt (h e he)]

/-- A task at work has ticked. -/
theorem ticksOf_pos_of_working (h : Legal log) {k : Nat} {tick : τ}
    (hw : current log = some ⟨k, tick, true⟩) : 0 < ticksOf k log := by
  cases log with
  | nil => cases hw
  | cons e log =>
    obtain ⟨fits, legal⟩ := h
    obtain ⟨j, time, deed⟩ := e
    cases deed with
    | started p t => cases hw
    | ticked t =>
      obtain ⟨d, before, hd⟩ := Option.map_eq_some_iff.1 hw
      have own : d.task = j := fits.task_eq before
      have same : d.task = k := congrArg Duty.task hd
      rw [ticksOf_cons, if_pos ⟨own.symm.trans same, rfl⟩]
      exact Nat.succ_pos _
    | returned goesOn =>
      cases goesOn with
      | true =>
        obtain ⟨d, -, hd⟩ := Option.map_eq_some_iff.1 hw
        cases congrArg Duty.working hd
      | false => cases hw
    | _ => cases hw

/-- A tick fires at the later of its deadline and the moment since when it is waited for. -/
theorem timetable_of_tick {e : Entry τ} (h : Fits log e) (prompt : Prompt (e :: log))
    (he : e.isTick = true) :
    ∃ x, timetable log = some x ∧ x.task = e.task ∧ e.time = max x.due x.since := by
  obtain ⟨k, time, deed⟩ := e
  cases deed with
  | ticked tick =>
    obtain ⟨x, hx, own⟩ := timetable_of_current (d := ⟨k, tick, false⟩) h
    exact ⟨x, hx, own, prompt.1 rfl x hx⟩
  | _ => cases he

/-- The next deadline lies a period after the start for each tick so far, and one more. -/
theorem start_add_le_due (h : Legal log) (hx : timetable log = some x) :
    x.start + (ticksOf x.task log + 1) * x.period ≤ x.due := by
  induction log generalizing x with
  | nil => cases hx
  | cons e log ih =>
    obtain ⟨fits, legal⟩ := h
    rcases timetable_cons hx with ⟨t, he, hx⟩ | ⟨y, t, hy, he, rfl⟩ | ⟨y, hy, he, rfl⟩
    · have unticked : ticksOf e.task log = 0 := ticksOf_eq_zero fun a ha => fits.lt_of_started he ha
      rw [hx, ticksOf_cons_of_not_tick _ (by simp [Entry.isTick, he]), unticked]
      simp
    · have before := ih legal hy
      have more := ticksOf_cons_le y.task e log
      have next := add_period_le_nextDeadline y.period y.due e.time
      calc y.start + (ticksOf y.task (e :: log) + 1) * y.period
        _ ≤ y.start + (ticksOf y.task log + 1 + 1) * y.period :=
          Nat.add_le_add_left (Nat.mul_le_mul_right _ (Nat.succ_le_succ more)) _
        _ = y.start + (ticksOf y.task log + 1) * y.period + y.period := by
          rw [Nat.succ_mul, Nat.add_assoc]
        _ ≤ y.due + y.period := Nat.add_le_add_right before _
        _ ≤ PollSession.nextDeadline y.period y.due e.time := next
    · rw [ticksOf_cons_of_not_tick _ (by simp [Entry.isTick, he])]
      exact ih legal (x := y) hy

/-- The first deadline is a period after the start, and is waited for since then. -/
theorem due_of_no_tick (h : Legal log) (hx : timetable log = some x)
    (unticked : ticksOf x.task log = 0) : x.due = x.start + x.period ∧ x.since = x.start := by
  cases log with
  | nil => cases hx
  | cons e log =>
    obtain ⟨fits, legal⟩ := h
    rcases timetable_cons hx with ⟨t, he, hx⟩ | ⟨y, t, hy, he, rfl⟩ | ⟨y, hy, he, rfl⟩
    · rw [hx]
      exact ⟨rfl, rfl⟩
    · -- this tick would be one
      obtain ⟨d, hd, own⟩ := current_of_timetable hy
      have same : e.task = y.task := (fits.task_eq hd).symm.trans own
      rw [ticksOf_cons, if_pos ⟨same, by simp [Entry.isTick, he]⟩] at unticked
      cases unticked
    · -- work that ends has begun with a tick
      obtain ⟨d, hd, own⟩ := current_of_timetable hy
      simp only [Fits, he] at fits
      obtain ⟨tick, works⟩ := fits
      obtain rfl := Option.some.inj (works.symm.trans hd)
      have ticked := ticksOf_pos_of_working legal works
      rw [ticksOf_cons_of_not_tick _ (by simp [Entry.isTick, he])] at unticked
      rw [show e.task = y.task from own, unticked] at ticked
      cases ticked

/-- The next deadline lies a period after a tick that has fired for each tick since, and one more,
less the tolerance. -/
theorem fired_add_le_due {between earlier : List (Entry τ)} {e : Entry τ}
    (h : Legal (between ++ e :: earlier)) (he : e.isTick = true)
    (hx : timetable (between ++ e :: earlier) = some x) (own : x.task = e.task) :
    e.time + (ticksOf e.task between + 1) * x.period ≤ x.due + PollSession.tolerance := by
  induction between generalizing x with
  | nil =>
    rw [List.nil_append] at hx
    rcases timetable_cons hx with ⟨t, hd, -⟩ | ⟨y, t, hy, hd, rfl⟩ | ⟨y, hy, hd, rfl⟩
    · simp [Entry.isTick, hd] at he
    · simpa [ticksOf] using fired_add_period_le_nextDeadline y.period y.due e.time
    · simp [Entry.isTick, hd] at he
  | cons a between ih =>
    obtain ⟨fits, legal⟩ := h
    rcases timetable_cons hx with ⟨t, hd, hx⟩ | ⟨y, t, hy, hd, rfl⟩ | ⟨y, hy, hd, rfl⟩
    · have new := fits.lt_of_started hd (List.mem_append_right between List.mem_cons_self)
      rw [← own, hx] at new
      exact absurd new (Nat.lt_irrefl _)
    · have before := ih legal hy own
      have more := ticksOf_cons_le e.task a between
      have next := add_period_le_nextDeadline y.period y.due a.time
      calc e.time + (ticksOf e.task (a :: between) + 1) * y.period
        _ ≤ e.time + (ticksOf e.task between + 1 + 1) * y.period :=
          Nat.add_le_add_left (Nat.mul_le_mul_right _ (Nat.succ_le_succ more)) _
        _ = e.time + (ticksOf e.task between + 1) * y.period + y.period := by
          rw [Nat.succ_mul, Nat.add_assoc]
        _ ≤ y.due + PollSession.tolerance + y.period := Nat.add_le_add_right before _
        _ = y.due + y.period + PollSession.tolerance := Nat.add_right_comm _ _ _
        _ ≤ PollSession.nextDeadline y.period y.due a.time + PollSession.tolerance :=
          Nat.add_le_add_right next _
    · rw [ticksOf_cons_of_not_tick _ (by simp [Entry.isTick, hd])]
      exact ih legal (x := y) hy own

theorem ticksWait (h : Legal log) (prompt : Prompt log) : TicksWait log := by
  rintro later e earlier s period tick rfl he hs own started
  obtain ⟨fits, legal⟩ := h.of_append
  obtain ⟨x, hx, same, fired⟩ := timetable_of_tick fits prompt.of_append he
  obtain ⟨rfl, start⟩ := timetable_of_started legal hx hs (own.trans same.symm) started
  rw [← same, ← start, fired]
  constructor
  · exact Nat.le_trans (start_add_le_due legal hx) (Nat.le_max_left _ _)
  · intro unticked
    obtain ⟨hdue, hsince⟩ := due_of_no_tick legal hx unticked
    omega

theorem ticksSpaced (h : Legal log) (prompt : Prompt log)
    (ordered : log.Pairwise fun e e' => e'.time ≤ e.time) : TicksSpaced log := by
  rintro later e' between e earlier s period tick rfl he he' same hs own started
  obtain ⟨fits, legal⟩ := h.of_append
  obtain ⟨x, hx, own', fired⟩ := timetable_of_tick fits prompt.of_append he'
  have hs' : s ∈ between ++ e :: earlier := List.mem_append_right _ (List.mem_cons_of_mem _ hs)
  have mine : x.task = e.task := own'.trans same
  obtain ⟨rfl, -⟩ := timetable_of_started legal hx hs' (own.trans mine.symm) started
  constructor
  · have spaced := fired_add_le_due legal he hx mine
    omega
  · obtain ⟨w, hw, hk, ends⟩ := ticksApart h later e' between e earlier rfl he he'
    obtain ⟨b₂, b₁, rfl⟩ := List.append_of_mem hw
    refine ⟨w, hw, hk, ?_, ?_, ?_⟩
    · -- a task that is over would not tick again
      have goesOn : w.isEnd = false := by
        by_contra ended
        have cut : later ++ e' :: (b₂ ++ w :: b₁ ++ e :: earlier) =
            (later ++ e' :: b₂) ++ w :: (b₁ ++ e :: earlier) := by simp
        have quiet := endsForGood h _ w _ cut (by simpa using ended) e' (by simp)
          (same.trans hk.symm)
        rw [he'] at quiet
        cases quiet.1
      obtain ⟨j, time, deed⟩ := w
      cases deed with
      | returned more =>
        cases more with
        | true => rfl
        | false => cases goesOn
      | stopped => cases goesOn
      | _ => cases ends
    · have tail := (List.pairwise_append.1 ordered).2.1
      have tail' := (List.pairwise_append.1 (List.pairwise_cons.1 tail).2).2.2
      exact tail' w hw e List.mem_cons_self
    · have tail := (List.pairwise_append.1 ordered).2.1
      exact (List.pairwise_cons.1 tail).1 w (List.mem_append_left _ hw)

theorem sessionsSpaced (h : Legal log) (prompt : Prompt log)
    (ordered : log.Pairwise fun e e' => e'.time ≤ e.time) : SessionsSpaced log := by
  rintro later s between r earlier period tick rfl started - e he e' he' ticks ticks' own own'
  have split := h.of_append
  have below : r.task < s.task := split.1.lt_of_started started (by simp)
  -- a tick after the later start is of a task that was not spawned before it
  have old : e ∈ between ++ r :: earlier := by
    rcases List.mem_append.1 he with he | he
    · obtain ⟨l₂, l₁, rfl⟩ := List.append_of_mem he
      rw [List.append_assoc, List.cons_append] at h
      obtain ⟨fits, legal⟩ := h.of_append
      obtain ⟨k, time, deed⟩ := e
      cases deed with
      | ticked t =>
        have le := le_of_current legal fits
          (List.mem_append_right l₁ (List.mem_cons_self (a := s) (l := between ++ r :: earlier)))
        have own : k = r.task := own
        dsimp only at le
        omega
      | _ => cases ticks
    · rcases List.mem_cons.1 he with rfl | he
      · simp [Entry.isTick, started] at ticks
      · exact he
  have new : e' ∈ later := by
    rcases List.mem_append.1 he' with he' | he'
    · exact he'
    · rcases List.mem_cons.1 he' with rfl | he'
      · simp [Entry.isTick, started] at ticks'
      · have lt := split.1.lt_of_started started he'
        omega
  have atStart : e.time ≤ s.time :=
    (List.pairwise_cons.1 (List.pairwise_append.1 ordered).2.1).1 e old
  obtain ⟨l₂, l₁, rfl⟩ := List.append_of_mem new
  rw [List.append_assoc, List.cons_append] at h prompt
  have waited := (ticksWait h prompt l₂ e' _ s period tick rfl ticks'
    (List.mem_append_right _ List.mem_cons_self) own'.symm started).1
  have one : period ≤ (ticksOf e'.task (l₁ ++ s :: (between ++ r :: earlier)) + 1) * period :=
    Nat.le_mul_of_pos_left _ (Nat.succ_pos _)
  omega

theorem OnTime.firstTickKept {s : Logged τ} (h : OnTime s) : FirstTickKept s := by
  intro a ha period tick started lives unticked
  obtain ⟨d, hd, own⟩ := (live_iff h.kept.legal).1 lives
  obtain ⟨x, hx, same⟩ := timetable_of_current hd
  have mine : a.task = x.task := own.symm.trans same.symm
  obtain ⟨rfl, start⟩ := timetable_of_started h.kept.legal hx ha mine started
  rw [mine] at unticked
  obtain ⟨hdue, hsince⟩ := due_of_no_tick h.kept.legal hx unticked
  have now := h.shows hx
  cases ht : s.crew.task x.task with
  | idle =>
    rw [ht] at now
    cases now
  | doomed since t =>
    rw [ht] at now
    obtain ⟨start', now⟩ := now
    omega
  | waiting p due t =>
    rw [ht] at now
    obtain ⟨-, -, -, upTo⟩ := now
    omega
  | ticking p due t =>
    have works : dutyOf x.task (s.crew.task x.task) = some ⟨x.task, t, true⟩ := by rw [ht]; rfl
    have ticked := ticksOf_pos_of_working h.kept.legal (h.kept.duty.1 works).1
    rw [unticked] at ticked
    cases ticked

end Laws

/-- **Ticks never burst**, however long their work takes and whenever sessions are started, stopped
and replaced: the first tick of a session fires exactly one period after its start and the n-th not
before n periods; from a tick to a later one of its session lie as many periods as there are ticks,
less the tolerance, and the work of the one has ended before; and a tick of a later session fires at
least its period after every tick of an earlier one. -/
theorem ticks_never_burst (clockEnd : Nat) (acts : List (Act τ))
    (h : Punctual (start clockEnd) acts) :
    let s := Logged.run clockEnd acts
    FirstTickKept s ∧ TicksWait s.log ∧ TicksSpaced s.log ∧ SessionsSpaced s.log := by
  intro s
  have onTime : OnTime s := Logged.onTime_run h
  exact ⟨onTime.firstTickKept, ticksWait onTime.kept.legal onTime.prompt,
    ticksSpaced onTime.kept.legal onTime.prompt onTime.ordered,
    sessionsSpaced onTime.kept.legal onTime.prompt onTime.ordered⟩

/-- The work of the first tick takes more than two periods, the second tick fires four milliseconds
late, and then another session takes over. -/
def overworked : List (Act String) :=
  [.ensure 100 "a", .elapse 100, .fire 0, .elapse 230, .finish 0 true, .fire 0, .elapse 104,
    .finish 0 true, .fire 0, .elapse 20, .replace, .ensure 50 "b", .elapse 50, .fire 1]

theorem overworked_never_bursts :
    let s := Logged.run 1000 overworked
    Punctual (start 1000) overworked ∧
    (s.log.filter Entry.isTick).map Entry.time = [504, 434, 330, 100] ∧
    FirstTickKept s ∧ TicksWait s.log ∧ TicksSpaced s.log ∧ SessionsSpaced s.log :=
  have punctual : Punctual (start 1000) overworked := by decide
  ⟨punctual, by decide, ticks_never_burst 1000 overworked punctual⟩

end Pace

end FollowClient.PollCrew
