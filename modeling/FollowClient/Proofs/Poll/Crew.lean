import FollowClient.Follow.Crew

/-!
The laws of the tasks behind a poll session. The log of what they have done alone tells which task
lives (`current`), every entry fits the log before it (`Legal`), and the laws of a session are read
off it: `one_task_ticks`.
-/

namespace FollowClient.PollCrew

section Machine

variable {τ : Type}

/-! ### The handle and its task -/

section Handle

variable {c : PollCrew τ}

theorem isActive_session : c.session.isActive = c.isActive := by
  unfold session isActive
  cases c.held <;> rfl

theorem ensure_of_isActive (h : c.isActive = true) (period : Nat) (tick : τ) :
    c.ensure period tick = (c, false) := by
  simp [ensure, h]

theorem ensure_snd (c : PollCrew τ) (period : Nat) (tick : τ) :
    (c.ensure period tick).2 = !c.isActive := by
  unfold ensure
  split
  · next h => simp [h]
  · next h => simp [h]

theorem session_put (k : Nat) (s : PollSession τ) :
    (c.put k s).session = if c.held = some k then s else c.session := by
  unfold session put
  cases c.held with
  | none => rfl
  | some j =>
    by_cases h : j = k
    · simp [h]
    · simp [h]

theorem session_of_held {k : Nat} (h : c.held = some k) : c.session = c.task k := by
  simp [session, h]

theorem session_stop : c.stop.session = .idle := by
  unfold stop
  cases h : c.held with
  | none => simp [session, h]
  | some k => rfl

/-- To its owner the handle is one session, the session of its task. -/
theorem session_step (a : Act τ) : (c.step a).session = c.act a c.session := by
  cases a with
  | ensure period tick =>
    show (c.ensure period tick).1.session = c.session.ensure c.clockEnd c.now period tick
    cases h : c.isActive with
    | true =>
      rw [ensure_of_isActive h, PollSession.ensure_of_isActive (isActive_session.trans h)]
    | false =>
      rw [PollSession.eq_idle_of_isActive (isActive_session.trans h)]
      simp [ensure, h, session, put]
  | stop => exact session_stop
  | replace => exact session_stop
  | elapse ms => rfl
  | fire k =>
    show (c.put k _).session = if c.held = some k then c.session.fire c.now else c.session
    rw [session_put]
    split
    · next h => rw [session_of_held h]
    · rfl
  | finish k goesOn =>
    show (c.put k _).session = if c.held = some k then c.session.finish goesOn else c.session
    rw [session_put]
    split
    · next h => rw [session_of_held h]
    · rfl

end Handle

/-! ### The log -/

/-- A task that lives: what it was given to do, and whether it is at it. -/
structure Duty (τ : Type) where
  task : Nat
  tick : τ
  working : Bool

/-- The task that lives after a log. -/
def current : List (Entry τ) → Option (Duty τ)
  | [] => none
  | e :: log =>
    match e.deed with
    | .started _ tick => some ⟨e.task, tick, false⟩
    | .ticked _ => (current log).map fun d => { d with working := true }
    | .returned true => (current log).map fun d => { d with working := false }
    | .broke | .returned false | .stopped => none

/-- The entry is one that can follow the log. -/
def Fits (log : List (Entry τ)) (e : Entry τ) : Prop :=
  match e.deed with
  | .started _ _ => current log = none ∧ ∀ x ∈ log, x.task < e.task
  | .broke => ∃ tick, current log = some ⟨e.task, tick, false⟩
  | .ticked tick => current log = some ⟨e.task, tick, false⟩
  | .returned _ => ∃ tick, current log = some ⟨e.task, tick, true⟩
  | .stopped => ∀ d, current log = some d → d.task = e.task

/-- Every entry fits the log before it. -/
def Legal : List (Entry τ) → Prop
  | [] => True
  | e :: log => Fits log e ∧ Legal log

/-- What a task is about, if it lives. -/
def dutyOf (k : Nat) : PollSession τ → Option (Duty τ)
  | .idle => none
  | .doomed _ tick | .waiting _ _ tick => some ⟨k, tick, false⟩
  | .ticking _ _ tick => some ⟨k, tick, true⟩

/-- The tasks are as the log says, and the handle is that of the one that lives. -/
structure Kept (s : Logged τ) : Prop where
  legal : Legal s.log
  duty {k : Nat} {d : Duty τ} :
    dutyOf k (s.crew.task k) = some d ↔ current s.log = some d ∧ d.task = k
  held {d : Duty τ} (h : current s.log = some d) : s.crew.held = some d.task
  spawned {e : Entry τ} (h : e ∈ s.log) : e.task < s.crew.spawned
  heldSpawned {k : Nat} (h : s.crew.held = some k) : k < s.crew.spawned

theorem task_of_dutyOf {k : Nat} {s : PollSession τ} {d : Duty τ} (h : dutyOf k s = some d) :
    d.task = k := by
  cases s with
  | idle => cases h
  | _ => exact Option.some.inj h ▸ rfl

/-- A task that is spawned lives and is not at work, also when it will break off. -/
theorem dutyOf_ensure (k clockEnd now period : Nat) (tick : τ) :
    dutyOf k (PollSession.idle.ensure clockEnd now period tick) = some ⟨k, tick, false⟩ := by
  unfold PollSession.ensure
  by_cases h : PollSession.Feasible clockEnd now period <;> simp [h, dutyOf]

theorem isActive_iff_dutyOf {k : Nat} {s : PollSession τ} :
    s.isActive = true ↔ ∃ d, dutyOf k s = some d := by
  cases s <;> simp [PollSession.isActive, dutyOf]

/-- While a task lives, nothing happens to another one. -/
theorem Fits.task_eq {log : List (Entry τ)} {e : Entry τ} (h : Fits log e) {d : Duty τ}
    (hd : current log = some d) : d.task = e.task := by
  obtain ⟨k, time, deed⟩ := e
  cases deed with
  | started p t => simp [h.1] at hd
  | ticked t =>
    have own : current log = some ⟨k, t, false⟩ := h
    rw [own] at hd
    exact Option.some.inj hd ▸ rfl
  | broke =>
    obtain ⟨t, own⟩ : ∃ t, current log = some ⟨k, t, false⟩ := h
    rw [own] at hd
    exact Option.some.inj hd ▸ rfl
  | returned goesOn =>
    obtain ⟨t, own⟩ : ∃ t, current log = some ⟨k, t, true⟩ := h
    rw [own] at hd
    exact Option.some.inj hd ▸ rfl
  | stopped => exact h d hd

/-- A session that runs breaks off, or ticks, or goes on as before. -/
theorem fire_cases (now : Nat) (s : PollSession τ) :
    (deed? now s = none ∧ s.fire now = s) ∨
    (∃ since tick, s = .doomed since tick ∧ deed? now s = some .broke ∧ s.fire now = .idle) ∨
    ∃ p due next tick, s = .waiting p due tick ∧ deed? now s = some (.ticked tick) ∧
      s.fire now = .ticking p next tick := by
  cases s with
  | idle => exact .inl ⟨rfl, rfl⟩
  | doomed since tick => exact .inr (.inl ⟨since, tick, rfl, rfl, rfl⟩)
  | ticking p next tick => exact .inl ⟨rfl, rfl⟩
  | waiting p due tick =>
    by_cases hd : due ≤ now
    · refine .inr (.inr ⟨p, due, PollSession.nextDeadline p due now, tick, rfl, ?_, ?_⟩)
      · simp [deed?, PollSession.due?, hd]
      · simp [PollSession.fire, hd]
    · exact .inl ⟨by simp [deed?, PollSession.due?, hd], by simp [PollSession.fire, hd]⟩

/-- Only a session at work can come to the end of its work. -/
theorem finish_cases (goesOn : Bool) (s : PollSession τ) :
    (working? s = none ∧ s.finish goesOn = s) ∨
    ∃ p next tick, s = .ticking p next tick ∧ working? s = some tick ∧
      s.finish goesOn = if goesOn then .waiting p next tick else .idle := by
  cases s with
  | ticking p next tick => exact .inr ⟨p, next, tick, rfl, rfl, rfl⟩
  | _ => exact .inl ⟨rfl, rfl⟩

section Step

variable {s : Logged τ}

/-- The handle knows whether a task lives. -/
theorem Kept.isActive_iff (h : Kept s) :
    s.crew.isActive = true ↔ ∃ d, current s.log = some d := by
  unfold isActive
  constructor
  · intro active
    obtain ⟨k, -, hk⟩ := (Option.any_eq_true _ _).1 active
    obtain ⟨d, hd⟩ := isActive_iff_dutyOf.1 hk
    exact ⟨d, (h.duty.1 hd).1⟩
  · rintro ⟨d, hd⟩
    exact (Option.any_eq_true _ _).2
      ⟨d.task, h.held hd, isActive_iff_dutyOf.2 ⟨d, h.duty.2 ⟨hd, rfl⟩⟩⟩

/-- An entry that fits is kept, if its task is then as it says and the handle follows. -/
theorem Kept.extend (h : Kept s) {c : PollCrew τ} {e : Entry τ} {t : PollSession τ}
    (fits : Fits s.log e) (task : c.task = Function.update s.crew.task e.task t)
    (now : current (e :: s.log) = dutyOf e.task t)
    (held : t.isActive = true → c.held = some e.task)
    (grows : s.crew.spawned ≤ c.spawned) (spawned : e.task < c.spawned)
    (heldSpawned : ∀ k, c.held = some k → k < c.spawned) : Kept ⟨c, e :: s.log⟩ where
  legal := ⟨fits, h.legal⟩
  duty {k d} := by
    show dutyOf k (c.task k) = some d ↔ current (e :: s.log) = some d ∧ d.task = k
    rw [task, now]
    by_cases hk : k = e.task
    · rw [hk, Function.update_self]
      exact ⟨fun hd => ⟨hd, task_of_dutyOf hd⟩, And.left⟩
    · -- the task that lives is that of the entry, before it and after it
      rw [Function.update_of_ne hk, h.duty]
      constructor
      · rintro ⟨hd, rfl⟩
        exact absurd (fits.task_eq hd) hk
      · rintro ⟨hd, rfl⟩
        exact absurd (task_of_dutyOf hd) hk
  held {d} hd := by
    have own : dutyOf e.task t = some d := now ▸ hd
    rw [task_of_dutyOf own]
    exact held (isActive_iff_dutyOf.2 ⟨d, own⟩)
  spawned {x} hx := by
    rcases List.mem_cons.1 hx with rfl | hx
    · exact spawned
    · exact Nat.lt_of_lt_of_le (h.spawned hx) grows
  heldSpawned {k} hk := heldSpawned k hk

theorem Logged.step_ensure_of_isActive (h : s.crew.isActive = true) (period : Nat) (tick : τ) :
    s.step (.ensure period tick) = s := by
  simp [Logged.step, PollCrew.step, entry?, ensure_of_isActive h]

theorem Logged.step_stop {a : Act τ} (ha : a = .stop ∨ a = .replace) :
    s.step a =
      ⟨s.crew.stop, (s.crew.held.map fun k => ⟨k, s.crew.now, .stopped⟩).toList ++ s.log⟩ := by
  rcases ha with rfl | rfl <;> rfl

theorem kept_ensure (h : Kept s) (period : Nat) (tick : τ) :
    Kept (s.step (.ensure period tick)) := by
  cases ha : s.crew.isActive with
  | true =>
    rw [Logged.step_ensure_of_isActive ha]
    exact h
  | false =>
    have nobody : current s.log = none := by
      refine Option.eq_none_iff_forall_ne_some.2 fun d hd => ?_
      rw [h.isActive_iff.2 ⟨d, hd⟩] at ha
      cases ha
    have new : s.step (.ensure period tick) =
        ⟨{ s.crew.put s.crew.spawned
              (PollSession.idle.ensure s.crew.clockEnd s.crew.now period tick) with
            spawned := s.crew.spawned + 1, held := some s.crew.spawned },
          ⟨s.crew.spawned, s.crew.now, .started period tick⟩ :: s.log⟩ := by
      simp [Logged.step, step, entry?, ensure, ha]
    rw [new]
    refine h.extend ⟨nobody, fun x hx => h.spawned hx⟩ rfl (dutyOf_ensure ..).symm (fun _ => rfl)
      (Nat.le_succ _) (Nat.lt_succ_self _) fun k hk => ?_
    obtain rfl : s.crew.spawned = k := Option.some.inj hk
    exact Nat.lt_succ_self _

theorem kept_stop (h : Kept s) {a : Act τ} (ha : a = .stop ∨ a = .replace) : Kept (s.step a) := by
  rw [Logged.step_stop ha, stop]
  cases hh : s.crew.held with
  | none => exact h
  | some k =>
    refine h.extend ?_ rfl rfl (fun active => nomatch active) (Nat.le_refl _) (h.heldSpawned hh)
      (fun k hk => nomatch hk)
    intro d hd
    exact Option.some.inj ((h.held hd).symm.trans hh)

theorem kept_fire (h : Kept s) (k : Nat) : Kept (s.step (.fire k)) := by
  rw [Logged.step, step, entry?]
  rcases fire_cases s.crew.now (s.crew.task k) with
    ⟨hd, hf⟩ | ⟨since, tick, ht, hd, hf⟩ | ⟨p, due, next, tick, ht, hd, hf⟩
  · rw [hd, hf, put, Function.update_eq_self]
    exact h
  · have rests : dutyOf k (s.crew.task k) = some ⟨k, tick, false⟩ := by rw [ht]; rfl
    have now := (h.duty.1 rests).1
    rw [hd, hf]
    exact h.extend ⟨tick, now⟩ rfl rfl (fun active => nomatch active) (Nat.le_refl _)
      (h.heldSpawned (h.held now)) fun j hj => h.heldSpawned hj
  · have rests : dutyOf k (s.crew.task k) = some ⟨k, tick, false⟩ := by rw [ht]; rfl
    have now := (h.duty.1 rests).1
    rw [hd, hf]
    refine h.extend now rfl ?_ (fun _ => h.held now) (Nat.le_refl _) (h.heldSpawned (h.held now))
      fun j hj => h.heldSpawned hj
    simp [current, now, dutyOf]

theorem kept_finish (h : Kept s) (k : Nat) (goesOn : Bool) : Kept (s.step (.finish k goesOn)) := by
  rw [Logged.step, step, entry?]
  rcases finish_cases goesOn (s.crew.task k) with ⟨hw, hf⟩ | ⟨p, next, tick, ht, hw, hf⟩
  · rw [hw, hf, put, Function.update_eq_self]
    exact h
  · have works : dutyOf k (s.crew.task k) = some ⟨k, tick, true⟩ := by rw [ht]; rfl
    have now := (h.duty.1 works).1
    rw [hw, hf]
    refine h.extend ⟨tick, now⟩ rfl ?_ (fun _ => h.held now) (Nat.le_refl _)
      (h.heldSpawned (h.held now)) fun j hj => h.heldSpawned hj
    cases goesOn with
    | true => simp [current, now, dutyOf]
    | false => rfl

theorem kept_step (h : Kept s) (a : Act τ) : Kept (s.step a) := by
  cases a with
  | ensure period tick => exact kept_ensure h period tick
  | stop => exact kept_stop h (.inl rfl)
  | replace => exact kept_stop h (.inr rfl)
  | elapse ms => exact ⟨h.legal, h.duty, h.held, h.spawned, h.heldSpawned⟩
  | fire k => exact kept_fire h k
  | finish k goesOn => exact kept_finish h k goesOn

theorem Logged.kept_run (clockEnd : Nat) (acts : List (Act τ)) :
    Kept (Logged.run clockEnd acts) := by
  have all : ∀ (acts : List (Act τ)) (s : Logged τ), Kept s → Kept (acts.foldl Logged.step s) := by
    intro acts
    induction acts with
    | nil => exact fun s h => h
    | cons a acts ih => exact fun s h => ih _ (kept_step h a)
  refine all acts _ ⟨trivial, ?_, ?_, ?_, ?_⟩
  · simp [start, dutyOf, current]
  · simp [current]
  · simp
  · simp [start]

end Step

/-! ### What a log says -/

namespace Entry

/-- A task is spawned. -/
def isStart (e : Entry τ) : Bool := match e.deed with
  | .started _ _ => true
  | _ => false

/-- The task does something more. -/
def isTick (e : Entry τ) : Bool := match e.deed with
  | .ticked _ => true
  | _ => false

/-- A tick has done its work. -/
def isReturn (e : Entry τ) : Bool := match e.deed with
  | .returned _ => true
  | _ => false

/-- The task is over: it was stopped, its tick wants no more, or it broke off. -/
def isEnd (e : Entry τ) : Bool := match e.deed with
  | .stopped | .broke | .returned false => true
  | _ => false

/-- The work of a tick is over: it is done, or it was stopped. -/
def endsWork (e : Entry τ) : Bool := match e.deed with
  | .stopped | .returned _ => true
  | _ => false

end Entry

/-- The task was spawned and is not over. -/
def Live (log : List (Entry τ)) (k : Nat) : Prop :=
  (∃ e ∈ log, e.task = k ∧ e.isStart = true) ∧ ∀ e ∈ log, e.task = k → e.isEnd = false

/-- Every tick that fires is of the task that was spawned last, and does what that task was given
to do. -/
def TicksAreLatest (log : List (Entry τ)) : Prop :=
  ∀ later e earlier tick, log = later ++ e :: earlier → e.deed = .ticked tick →
    ∃ s period, earlier.find? Entry.isStart = some s ∧ s.task = e.task ∧
      s.deed = .started period tick

/-- Between two ticks the work of the first is over. -/
def TicksApart (log : List (Entry τ)) : Prop :=
  ∀ later e' between e earlier, log = later ++ e' :: (between ++ e :: earlier) →
    e.isTick = true → e'.isTick = true → ∃ x ∈ between, x.task = e.task ∧ x.endsWork = true

/-- A task that is over neither ticks nor comes to the end of a tick. -/
def EndsForGood (log : List (Entry τ)) : Prop :=
  ∀ later e earlier, log = later ++ e :: earlier → e.isEnd = true →
    ∀ x ∈ later, x.task = e.task → x.isTick = false ∧ x.isReturn = false

section Laws

variable {log : List (Entry τ)}

theorem Legal.of_append {later earlier : List (Entry τ)} (h : Legal (later ++ earlier)) :
    Legal earlier := by
  induction later with
  | nil => exact h
  | cons e later ih => exact ih h.2

/-- What an entry makes of the task that lives: a start begins it, an end ends it, and anything else
leaves it as it was but for its work. -/
theorem current_cons (e : Entry τ) (log : List (Entry τ)) :
    (∃ period tick, e.deed = .started period tick ∧
      current (e :: log) = some ⟨e.task, tick, false⟩) ∨
    (e.isStart = false ∧ e.isEnd = true ∧ current (e :: log) = none) ∨
    (e.isStart = false ∧ e.isEnd = false ∧ ∃ working,
      current (e :: log) = (current log).map fun d => { d with working }) := by
  obtain ⟨k, time, deed⟩ := e
  cases deed with
  | started period tick => exact .inl ⟨period, tick, rfl, rfl⟩
  | broke => exact .inr (.inl ⟨rfl, rfl, rfl⟩)
  | ticked tick => exact .inr (.inr ⟨rfl, rfl, true, rfl⟩)
  | returned goesOn =>
    cases goesOn with
    | true => exact .inr (.inr ⟨rfl, rfl, false, rfl⟩)
    | false => exact .inr (.inl ⟨rfl, rfl, rfl⟩)
  | stopped => exact .inr (.inl ⟨rfl, rfl, rfl⟩)

theorem Live.of_cons {e : Entry τ} (hs : e.isStart = false) {k : Nat} (h : Live (e :: log) k) :
    Live log k := by
  obtain ⟨⟨x, hx, hk, hstart⟩, ends⟩ := h
  rcases List.mem_cons.1 hx with rfl | hx
  · rw [hs] at hstart
    cases hstart
  · exact ⟨⟨x, hx, hk, hstart⟩, fun y hy => ends y (List.mem_cons_of_mem _ hy)⟩

/-- The task that lives is the current one. -/
theorem live_iff (h : Legal log) {k : Nat} :
    Live log k ↔ ∃ d, current log = some d ∧ d.task = k := by
  induction log with
  | nil => simp [Live, current]
  | cons e log ih =>
    obtain ⟨fits, legal⟩ := h
    rcases current_cons e log with ⟨p, tick, hd, hc⟩ | ⟨hs, he, hc⟩ | ⟨hs, he, w, hc⟩
    · -- nobody lives, and nothing has happened to the task that starts
      simp only [Fits, hd] at fits
      obtain ⟨nobody, fresh⟩ := fits
      rw [hc]
      constructor
      · rintro ⟨⟨x, hx, hk, hstart⟩, ends⟩
        rcases List.mem_cons.1 hx with rfl | hx
        · exact ⟨_, rfl, hk⟩
        · obtain ⟨d, now, -⟩ := (ih legal).1
            ⟨⟨x, hx, hk, hstart⟩, fun y hy => ends y (List.mem_cons_of_mem _ hy)⟩
          rw [nobody] at now
          cases now
      · rintro ⟨d, now, rfl⟩
        obtain rfl := Option.some.inj now
        refine ⟨⟨e, List.mem_cons_self, rfl, by simp [Entry.isStart, hd]⟩, fun x hx hk => ?_⟩
        rcases List.mem_cons.1 hx with rfl | hx
        · simp [Entry.isEnd, hd]
        · exact absurd hk (Nat.ne_of_lt (fresh x hx))
    · -- the task that lived has ended
      rw [hc]
      refine ⟨fun lives => ?_, fun ⟨d, now, _⟩ => nomatch now⟩
      obtain ⟨d, now, rfl⟩ := (ih legal).1 (lives.of_cons hs)
      have goes := lives.2 e List.mem_cons_self (fits.task_eq now).symm
      rw [he] at goes
      cases goes
    · have same : Live (e :: log) k ↔ Live log k := by simp [Live, hs, he]
      rw [same, ih legal, hc]
      simp

/-- The task that lives is the one that was spawned last. -/
theorem find?_isStart {d : Duty τ} (h : current log = some d) :
    ∃ s period, log.find? Entry.isStart = some s ∧ s.task = d.task ∧
      s.deed = .started period d.tick := by
  induction log generalizing d with
  | nil => cases h
  | cons e log ih =>
    rcases current_cons e log with ⟨p, tick, hd, hc⟩ | ⟨hs, he, hc⟩ | ⟨hs, he, w, hc⟩
    · obtain rfl := Option.some.inj (hc ▸ h)
      exact ⟨e, p, List.find?_cons_of_pos (by simp [Entry.isStart, hd]), rfl, hd⟩
    · cases hc ▸ h
    · obtain ⟨d', before, rfl⟩ := Option.map_eq_some_iff.1 (hc ▸ h)
      rw [List.find?_cons_of_neg (by simp [hs])]
      exact ih (d := d') before

theorem ticksAreLatest (h : Legal log) : TicksAreLatest log := by
  rintro later ⟨k, time, deed⟩ earlier tick rfl rfl
  exact find?_isStart h.of_append.1

/-- A task that is at work stays so, unless its work ends. -/
theorem current_of_working {between : List (Entry τ)} {k : Nat} {tick : τ}
    (h : Legal (between ++ log)) (hw : current log = some ⟨k, tick, true⟩)
    (goes : ∀ x ∈ between, x.task = k → x.endsWork = false) :
    current (between ++ log) = some ⟨k, tick, true⟩ := by
  induction between with
  | nil => exact hw
  | cons x between ih =>
    have now := ih h.2 fun y hy => goes y (List.mem_cons_of_mem _ hy)
    have own := h.1.task_eq now
    have works := goes x List.mem_cons_self own.symm
    have fits : Fits (between ++ log) x := h.1
    obtain ⟨j, time, deed⟩ := x
    cases deed with
    | started p t => cases now.symm.trans fits.1
    | broke =>
      obtain ⟨t, rests⟩ : ∃ t, current (between ++ log) = some ⟨j, t, false⟩ := fits
      cases now.symm.trans rests
    | ticked t => cases now.symm.trans fits
    | returned goesOn => cases works
    | stopped => cases works

theorem ticksApart (h : Legal log) : TicksApart log := by
  rintro later ⟨k', time', deed'⟩ between ⟨k, time, deed⟩ earlier rfl ht ht'
  obtain ⟨fits', legal⟩ := h.of_append
  obtain ⟨fits, -⟩ := legal.of_append
  cases deed with
  | ticked tick =>
    cases deed' with
    | ticked tick' =>
      by_contra unended
      have goes : ∀ x ∈ between, x.task = k → x.endsWork = false := by
        intro x hx hk
        rw [← Bool.not_eq_true]
        exact fun ends => unended ⟨x, hx, hk, ends⟩
      have works : current (⟨k, time, .ticked tick⟩ :: earlier) = some ⟨k, tick, true⟩ := by
        have before : current earlier = some ⟨k, tick, false⟩ := fits
        simp [current, before]
      have still := current_of_working legal works goes
      have rests : current (between ++ ⟨k, time, .ticked tick⟩ :: earlier) =
          some ⟨k', tick', false⟩ := fits'
      rw [still] at rests
      cases rests
    | _ => cases ht'
  | _ => cases ht

/-- A task that lives after the end of another has a greater number. -/
theorem lt_of_current {later earlier : List (Entry τ)} {e : Entry τ}
    (h : Legal (later ++ e :: earlier)) (he : e.isEnd = true) {d : Duty τ}
    (hd : current (later ++ e :: earlier) = some d) : e.task < d.task := by
  induction later generalizing d with
  | nil =>
    rw [List.nil_append] at hd
    rcases current_cons e earlier with ⟨p, tick, hs, -⟩ | ⟨-, -, hc⟩ | ⟨-, he', -⟩
    · simp [Entry.isEnd, hs] at he
    · cases hc ▸ hd
    · rw [he] at he'
      cases he'
  | cons x later ih =>
    rw [List.cons_append] at hd
    rcases current_cons x (later ++ e :: earlier) with
      ⟨p, tick, hs, hc⟩ | ⟨-, -, hc⟩ | ⟨-, -, w, hc⟩
    · have fits := h.1
      simp only [Fits, hs] at fits
      obtain rfl := Option.some.inj (hc ▸ hd)
      exact fits.2 e (List.mem_append_right _ List.mem_cons_self)
    · cases hc ▸ hd
    · obtain ⟨d', before, rfl⟩ := Option.map_eq_some_iff.1 (hc ▸ hd)
      exact ih (d := d') h.2 before

theorem endsForGood (h : Legal log) : EndsForGood log := by
  rintro later e earlier rfl he x hx hk
  obtain ⟨l₂, l₁, rfl⟩ := List.append_of_mem hx
  rw [List.append_assoc, List.cons_append] at h
  obtain ⟨fits, legal⟩ := h.of_append
  obtain ⟨k, time, deed⟩ := x
  cases deed with
  | ticked tick => exact absurd hk.symm (Nat.ne_of_lt (lt_of_current legal he fits))
  | returned goesOn =>
    obtain ⟨tick, works⟩ := fits
    exact absurd hk.symm (Nat.ne_of_lt (lt_of_current legal he works))
  | _ => exact ⟨rfl, rfl⟩

end Laws

section Owner

variable {s : Logged τ}

theorem Kept.isActive_iff_live (h : Kept s) :
    s.crew.isActive = true ↔ ∃ k, Live s.log k := by
  rw [h.isActive_iff]
  constructor
  · rintro ⟨d, hd⟩
    exact ⟨d.task, (live_iff h.legal).2 ⟨d, hd, rfl⟩⟩
  · rintro ⟨k, lives⟩
    obtain ⟨d, hd, -⟩ := (live_iff h.legal).1 lives
    exact ⟨d, hd⟩

theorem Kept.live_unique (h : Kept s) {j k : Nat} (hj : Live s.log j) (hk : Live s.log k) :
    j = k := by
  obtain ⟨d, hd, rfl⟩ := (live_iff h.legal).1 hj
  obtain ⟨d', hd', rfl⟩ := (live_iff h.legal).1 hk
  rw [Option.some.inj (hd.symm.trans hd')]

theorem Kept.not_live_of_stop (h : Kept s) {a : Act τ} (ha : a = .stop ∨ a = .replace) (k : Nat) :
    ¬ Live (s.step a).log k := by
  intro lives
  have kept := kept_stop h ha
  have idle : (s.step a).crew.session = .idle := by rcases ha with rfl | rfl <;> exact session_stop
  have active := kept.isActive_iff_live.2 ⟨k, lives⟩
  rw [← isActive_session, idle] at active
  cases active

end Owner

/-- **A tick that stops its own session** is over with it, and the next tick begins before the task
is cancelled exactly if it is overdue. -/
theorem log_stopFromWithin {s : Logged τ} {k p next : Nat} {tick : τ}
    (held : s.crew.held = some k) (works : s.crew.task k = .ticking p next tick) :
    let after := (stopFromWithin k).foldl Logged.step s
    after.crew.session = .idle ∧
    after.log = ⟨k, s.crew.now, .stopped⟩ ::
      ((if next ≤ s.crew.now then [⟨k, s.crew.now, .ticked tick⟩] else []) ++
        ⟨k, s.crew.now, .returned true⟩ :: s.log) := by
  intro after
  let ended := s.step (.finish k true)
  have waits : ended.crew.task k = .waiting p next tick := by
    simp [ended, Logged.step, step, put, works, PollSession.finish]
  have returned : ended.log = ⟨k, s.crew.now, .returned true⟩ :: s.log := by
    simp [ended, Logged.step, entry?, works, working?]
  have ticks : (ended.step (.fire k)).log =
      (if next ≤ s.crew.now then [⟨k, s.crew.now, .ticked tick⟩] else []) ++ ended.log := by
    have fires : ended.crew.entry? (.fire k) =
        if next ≤ s.crew.now then some ⟨k, s.crew.now, .ticked tick⟩ else none := by
      show (deed? s.crew.now (ended.crew.task k)).map
        (fun deed => (⟨k, s.crew.now, deed⟩ : Entry τ)) = _
      rw [waits]
      by_cases hd : next ≤ s.crew.now <;> simp [deed?, PollSession.due?, hd]
    rw [Logged.step, fires]
    split <;> rfl
  refine ⟨session_stop, ?_⟩
  show ((ended.step (.fire k)).step .stop).log = _
  rw [Logged.step_stop (.inl rfl)]
  show ((s.crew.held.map _).toList ++ (ended.step (.fire k)).log) = _
  rw [held, ticks, returned]
  rfl

/-- **One task ticks, the one that was spawned last**, whatever the owner of the handle and the
tasks do, in any order: at most one task lives, and the handle is active exactly while one does;
spawning a task succeeds exactly if none lives, and changes nothing otherwise; every tick is of the
task that was spawned last; two ticks never overlap; and a task that was stopped, dropped, has ended
itself or could not set its first deadline does nothing more. The handle behaves as one session. -/
theorem one_task_ticks (clockEnd : Nat) (acts : List (Act τ)) :
    let s := Logged.run clockEnd acts
    (∀ j k, Live s.log j → Live s.log k → j = k) ∧
    (s.crew.isActive = true ↔ ∃ k, Live s.log k) ∧
    (∀ period tick, ((s.crew.ensure period tick).2 = true ↔ ¬ ∃ k, Live s.log k) ∧
      ((∃ k, Live s.log k) → s.crew.ensure period tick = (s.crew, false))) ∧
    TicksAreLatest s.log ∧ TicksApart s.log ∧ EndsForGood s.log ∧
    (∀ a, a = .stop ∨ a = .replace → ∀ k, ¬ Live (s.step a).log k) ∧
    s.crew.session.isActive = s.crew.isActive ∧
    ∀ a, (s.step a).crew.session = s.crew.act a s.crew.session := by
  intro s
  have kept : Kept s := Logged.kept_run clockEnd acts
  have active := kept.isActive_iff_live
  refine ⟨fun j k => kept.live_unique, active, fun period tick => ⟨?_, fun lives => ?_⟩,
    ticksAreLatest kept.legal, ticksApart kept.legal, endsForGood kept.legal,
    fun a ha => kept.not_live_of_stop ha, isActive_session, fun a => session_step a⟩
  · rw [← active, ensure_snd]
    simp
  · exact ensure_of_isActive (active.2 lives) period tick

/-- A session breaks off because its period is zero, also where another one has been asked for too
early. Then there is one that is stopped in the middle of its tick, and one whose tick is at work. -/
def restarted : List (Act String) :=
  [.ensure 0 "z", .ensure 6 "a", .fire 0, .ensure 6 "a", .elapse 6, .fire 1, .stop, .ensure 3 "b",
    .finish 1 true, .elapse 3, .fire 1, .fire 2]

theorem restarted_is_live :
    (∃ k, Live (Logged.run 100 restarted).log k) ∧
    (Logged.run 100 restarted).crew.ensure 1 "c" = ((Logged.run 100 restarted).crew, false) := by
  have laws := one_task_ticks 100 restarted
  have lives : ∃ k, Live (Logged.run 100 restarted).log k := laws.2.1.1 rfl
  exact ⟨lives, (laws.2.2.1 1 "c").2 lives⟩

end Machine

end FollowClient.PollCrew
