/-!
Poll sessions: a tick that comes back every `period`, at most one of them at a time. A tick is
waited for only after the work of the one before it has ended, and it fires at its deadline or, if
that has passed, at once. A tick that is late by more than the tolerance shifts all later ones.

The task of a session sets its first deadline when it first runs, which it does before any time goes
by. A period of zero and a first deadline after the last moment of the clock break it off there. A
later deadline is not held against the clock: it would have to run for half of its range first.
-/

namespace FollowClient

/-- A poll session. It carries what a tick is to do, and the deadline of the tick it waits for or,
while a tick is at work, of the one after it. -/
inductive PollSession (τ : Type) where
  | idle
  /-- The task has not run yet, and its first deadline cannot be set. -/
  | doomed (since : Nat) (task : τ)
  | waiting (period deadline : Nat) (task : τ)
  | ticking (period next : Nat) (task : τ)
  deriving DecidableEq, Repr

namespace PollSession

/-- How late a tick may be without shifting those after it, in milliseconds. -/
def tolerance : Nat := 5

/-- The deadline after `deadline` when its tick fires at `now`. -/
def nextDeadline (period deadline now : Nat) : Nat :=
  if deadline + tolerance < now then now + period else deadline + period

/-- The last moment of a clock that counts seconds in 64 bits with a sign, in milliseconds. -/
def clockEnd : Nat := Nat.pow 2 63 * 1000 - 1

/-- At `now` a first deadline can be set: there is a period, and it ends while the clock runs. -/
def Feasible (clockEnd now period : Nat) : Prop := 0 < period ∧ now + period ≤ clockEnd

instance (clockEnd now period : Nat) : Decidable (Feasible clockEnd now period) :=
  inferInstanceAs (Decidable (_ ∧ _))

section Operations

variable {τ : Type}

/-- The task of the session is not over. -/
def isActive : PollSession τ → Bool
  | idle => false
  | doomed .. => true
  | waiting .. => true
  | ticking .. => true

/-- Starts a session unless one is running; its first tick is due one period from now. -/
def ensure (clockEnd now period : Nat) (task : τ) : PollSession τ → PollSession τ
  | idle =>
    if Feasible clockEnd now period then waiting period (now + period) task else doomed now task
  | doomed s t => doomed s t
  | waiting p d t => waiting p d t
  | ticking p d t => ticking p d t

/-- Ends the session, also in the middle of a tick. -/
def stop (_ : PollSession τ) : PollSession τ := idle

/-- When the task runs next, unless that is when its work ends. -/
def wakeUp? : PollSession τ → Option Nat
  | doomed s _ => some s
  | waiting _ d _ => some d
  | _ => none

/-- The work of the tick that fires at `now`, if one is due. -/
def due? (now : Nat) : PollSession τ → Option τ
  | waiting _ d t => if d ≤ now then some t else none
  | _ => none

/-- The task runs: a tick fires if one is due, and a task that is doomed breaks off. -/
def fire (now : Nat) : PollSession τ → PollSession τ
  | doomed _ _ => idle
  | waiting p d t => if d ≤ now then ticking p (nextDeadline p d now) t else waiting p d t
  | s => s

/-- The work of a tick has ended; unless it goes on, the session is over. -/
def finish (goesOn : Bool) : PollSession τ → PollSession τ
  | ticking p d t => if goesOn then waiting p d t else idle
  | s => s

theorem isActive_ensure (clockEnd now period : Nat) (task : τ) (s : PollSession τ) :
    (s.ensure clockEnd now period task).isActive = true := by
  cases s with
  | idle => by_cases h : Feasible clockEnd now period <;> simp [ensure, isActive, h]
  | _ => rfl

theorem ensure_of_isActive {clockEnd now period : Nat} {task : τ} {s : PollSession τ}
    (h : s.isActive = true) : s.ensure clockEnd now period task = s := by
  cases s <;> simp_all [ensure, isActive]

theorem eq_idle_of_isActive {s : PollSession τ} (h : s.isActive = false) : s = idle := by
  cases s with
  | idle => rfl
  | _ => cases h

@[simp] theorem isActive_stop (s : PollSession τ) : s.stop.isActive = false := rfl

/-- A session without a tick to fire goes on as before, unless it is doomed. -/
theorem fire_of_due?_eq_none {now : Nat} {s : PollSession τ} (h : s.due? now = none) :
    (∃ since task, s = doomed since task ∧ s.fire now = idle) ∨ s.fire now = s := by
  cases s with
  | doomed since task => exact .inl ⟨since, task, rfl, rfl⟩
  | waiting p d t =>
    have early : ¬ d ≤ now := by
      intro hd
      simp [due?, hd] at h
    exact .inr (by simp [fire, early])
  | _ => exact .inr rfl

theorem isActive_fire_of_due {now : Nat} {s : PollSession τ} {t : τ} (h : s.due? now = some t) :
    (s.fire now).isActive = s.isActive := by
  cases s with
  | waiting p d t => by_cases hd : d ≤ now <;> simp [fire, isActive, hd]
  | _ => cases h

@[simp] theorem isActive_finish_true (s : PollSession τ) :
    (s.finish true).isActive = s.isActive := by
  cases s <;> rfl

end Operations

end PollSession

end FollowClient
