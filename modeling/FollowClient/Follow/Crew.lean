import FollowClient.Follow.Poll
import Mathlib.Logic.Function.Basic

/-!
The tasks behind a poll session. A session is a handle to a task that was spawned for it, and a task
that was spawned earlier could go on ticking behind its back. Here every task that was ever spawned
has a state of its own, and the tasks and the owner of the handle take turns in any order. Stopping
cancels the task of the handle for good, also in the middle of a tick. All that the tasks do is
written down.
-/

namespace FollowClient

/-- The tasks that were spawned for a session, and its handle. -/
structure PollCrew (τ : Type) where
  now : Nat
  /-- The last moment that the clock can tell. -/
  clockEnd : Nat
  /-- What each task is about; one that is over, or was never spawned, is idle. -/
  task : Nat → PollSession τ
  spawned : Nat
  /-- The task of the handle. It may be over. -/
  held : Option Nat

namespace PollCrew

/-- What the owner of the handle and the tasks can do. -/
inductive Act (τ : Type) where
  | ensure (period : Nat) (tick : τ)
  | stop
  /-- The session is dropped, and a new one takes its place. -/
  | replace
  /-- Time goes on. -/
  | elapse (ms : Nat)
  /-- A task runs, and ticks if a tick is due. -/
  | fire (task : Nat)
  /-- The work of a task's tick ends. -/
  | finish (task : Nat) (goesOn : Bool)

/-- What happens to a task. -/
inductive Deed (τ : Type) where
  | started (period : Nat) (tick : τ)
  /-- The task has run for the first time and cannot set its first deadline. -/
  | broke
  /-- A tick fires, and its work begins. -/
  | ticked (tick : τ)
  /-- The work of a tick has ended. -/
  | returned (goesOn : Bool)
  | stopped

/-- What happened to which task, and when. -/
structure Entry (τ : Type) where
  task : Nat
  time : Nat
  deed : Deed τ

/-- The tasks, and all that has happened to them, the newest first. -/
structure Logged (τ : Type) where
  crew : PollCrew τ
  log : List (Entry τ)

section Machine

variable {τ : Type}

/-! ### The tasks and the handle -/

/-- A session that has not been used, on a clock that ends at `clockEnd`. -/
def start (clockEnd : Nat) : PollCrew τ := ⟨0, clockEnd, fun _ => .idle, 0, none⟩

/-- The task of the handle is not over. -/
def isActive (c : PollCrew τ) : Bool := c.held.any fun k => (c.task k).isActive

/-- A task goes on in another state. -/
def put (c : PollCrew τ) (k : Nat) (s : PollSession τ) : PollCrew τ :=
  { c with task := Function.update c.task k s }

/-- Spawns a task unless the one of the handle still lives; tells whether it has. -/
def ensure (c : PollCrew τ) (period : Nat) (tick : τ) : PollCrew τ × Bool :=
  if c.isActive then (c, false)
  else
    ({ c.put c.spawned (PollSession.idle.ensure c.clockEnd c.now period tick) with
        spawned := c.spawned + 1
        held := some c.spawned }, true)

/-- Cancels the task of the handle and lets go of it. -/
def stop (c : PollCrew τ) : PollCrew τ :=
  match c.held with
  | some k => { c.put k (c.task k).stop with held := none }
  | none => c

/-- One act. -/
def step (c : PollCrew τ) : Act τ → PollCrew τ
  | .ensure period tick => (c.ensure period tick).1
  | .stop | .replace => c.stop
  | .elapse ms => { c with now := c.now + ms }
  | .fire k => c.put k ((c.task k).fire c.now)
  | .finish k goesOn => c.put k ((c.task k).finish goesOn)

/-- What a task does when it runs. -/
def deed? (now : Nat) : PollSession τ → Option (Deed τ)
  | .doomed .. => some .broke
  | s => (s.due? now).map .ticked

/-- The tick of a session that is at work. -/
def working? : PollSession τ → Option τ
  | .ticking _ _ tick => some tick
  | _ => none

/-- What an act does to which task. -/
def entry? (c : PollCrew τ) : Act τ → Option (Entry τ)
  | .ensure period tick =>
    if (c.ensure period tick).2 then some ⟨c.spawned, c.now, .started period tick⟩ else none
  | .stop | .replace => c.held.map fun k => ⟨k, c.now, .stopped⟩
  | .elapse _ => none
  | .fire k => (deed? c.now (c.task k)).map fun deed => ⟨k, c.now, deed⟩
  | .finish k goesOn => (working? (c.task k)).map fun _ => ⟨k, c.now, .returned goesOn⟩

/-- One act, and what it did. -/
def Logged.step (s : Logged τ) (a : Act τ) : Logged τ :=
  ⟨s.crew.step a, (s.crew.entry? a).toList ++ s.log⟩

/-- All acts, one after the other. -/
def Logged.run (clockEnd : Nat) (acts : List (Act τ)) : Logged τ :=
  acts.foldl Logged.step ⟨start clockEnd, []⟩

/-- What becomes of a task whose tick stops the session itself. It is cancelled only where it waits
next: until then it goes on, so its work ends, and the next tick begins if it is overdue. -/
def stopFromWithin (k : Nat) : List (Act τ) := [.finish k true, .fire k, .stop]

/-! ### The session that the handle stands for -/

/-- What the handle shows of the tasks. -/
def session (c : PollCrew τ) : PollSession τ := (c.held.map c.task).getD .idle

/-- What an act does to a session that knows of one task only. -/
def act (c : PollCrew τ) (a : Act τ) (s : PollSession τ) : PollSession τ :=
  match a with
  | .ensure period tick => s.ensure c.clockEnd c.now period tick
  | .stop | .replace => s.stop
  | .elapse _ => s
  | .fire k => if c.held = some k then s.fire c.now else s
  | .finish k goesOn => if c.held = some k then s.finish goesOn else s

end Machine

end PollCrew

end FollowClient
