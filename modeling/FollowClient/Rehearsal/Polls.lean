import FollowClient.Follow.Poll

/-!
Rehearsals of a poll session under virtual time. Time stands still while anything can happen and
then jumps to the next event; the work of a tick takes the time that its task says.
-/

namespace FollowClient.Rehearsal

/-- The work of a poll: how long a tick takes, and after which tick it wants no more. -/
structure PollTask where
  tag : String
  work : Nat
  last : Option Nat
  deriving DecidableEq, Repr

/-- A step of a rehearsal. -/
inductive PollStep where
  | ensure (period : Nat) (task : PollTask)
  | stop
  /-- The session is dropped and a new one made. -/
  | replace
  | sleep (ms : Nat)
  deriving DecidableEq, Repr

/-- A tick that was heard. -/
structure HeardTick where
  time : Nat
  tag : String
  number : Nat
  deriving DecidableEq, Repr

/-- A rehearsed session. -/
structure Polls where
  now : Nat
  session : PollSession PollTask
  /-- How often the present session has ticked. -/
  count : Nat
  /-- The task at work, and when it ends. -/
  working : Option (PollTask × Nat)
  /-- The ticks heard, last first. -/
  heard : List HeardTick

namespace Polls

/-- A session that has not been used. -/
def start : Polls := ⟨0, .idle, 0, none, []⟩

/-- When something happens next. -/
def next? (s : Polls) : Option Nat :=
  match s.working with
  | some (_, ends) => some ends
  | none => s.session.wakeUp?.map (Nat.max s.now)

/-- What is due at this moment happens: the work of a tick ends, or the task runs. -/
def happen (s : Polls) : Polls :=
  match s.working with
  | some (task, _) =>
    { s with session := s.session.finish (task.last ≠ some s.count), working := none }
  | none =>
    match s.session.due? s.now with
    | some task =>
      { s with
        session := s.session.fire s.now
        count := s.count + 1
        working := some (task, s.now + task.work)
        heard := ⟨s.now, task.tag, s.count + 1⟩ :: s.heard }
    | none => { s with session := s.session.fire s.now }

/-- Lets everything happen that is due until `limit`, at most `fuel` events. -/
def settle (limit : Nat) : Nat → Polls → Polls
  | 0, s => s
  | fuel + 1, s =>
    match s.next? with
    | some t => if t ≤ limit then settle limit fuel { s with now := t }.happen else s
    | none => s

/-- Enough events for a span of time: a tick begins and ends, and deadlines are at least a
millisecond apart once a late one has been made up for. -/
def enough (span : Nat) : Nat := 2 * span + 32

/-- Lets time pass. -/
def sleep (s : Polls) (ms : Nat) : Polls :=
  { settle (s.now + ms) (enough ms) s with now := s.now + ms }

/-- Performs a step; an `ensure` tells whether it has started a session. -/
def perform (s : Polls) : PollStep → Polls × Option Bool
  | .ensure period task =>
    if s.session.isActive then (s, some false)
    else
      let session := s.session.ensure PollSession.clockEnd s.now period task
      let s := { s with session, count := 0 }
      (settle s.now (enough 0) s, some true)
  | .stop | .replace => ({ s with session := s.session.stop, working := none }, none)
  | .sleep ms => (s.sleep ms, none)

/-- What is seen after a step. -/
structure Seen where
  time : Nat
  result : Option Bool
  active : Bool
  /-- The ticks of this step. -/
  ticks : List HeardTick

/-- What is seen after each step. -/
def play (s : Polls) : List PollStep → List Seen
  | [] => []
  | step :: rest =>
    let (s', result) := { s with heard := [] }.perform step
    ⟨s'.now, result, s'.session.isActive, s'.heard.reverse⟩ :: play s' rest

end Polls

end FollowClient.Rehearsal
