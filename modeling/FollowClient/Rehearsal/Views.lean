import FollowClient.Rehearsal.Script
import FollowClient.View.Step

/-!
Rehearsals of a profile view under virtual time. Computation takes no time: the answer of a call
without delay lands at once, and time jumps from one event to the next. What happens at one moment
happens in the order in which it was started.
-/

namespace FollowClient.Rehearsal

open View (Call Answer Output Event Setup ToggleResult)

/-- An answer on its way. -/
structure Landing where
  due : Nat
  ticket : Nat
  reply : Reply

/-- A rehearsed view with the world around it. -/
structure Views where
  setup : Setup
  view : View
  /-- The view was dropped. -/
  dropped : Bool
  script : Script
  server : Server
  /-- The answers on their way, in the order in which they were asked for. -/
  pending : List Landing
  /-- The calls made, last first. -/
  calls : List (Nat × Call)
  /-- The operations that have returned, last first. -/
  returns : List (Nat × Nat × Option ToggleResult)

namespace Views

/-- The world before the first step. -/
def start (setup : Setup) (script : Script) (server : Server) : Views :=
  ⟨setup, .start, false, script, server, [], [], []⟩

/-- The present time. -/
def now (s : Views) : Nat := s.view.now

/-- An answer lands: the core holds what the call has written, and the view goes on. -/
def land (s : Views) (ticket : Nat) (reply : Reply) : Views × List Output :=
  let (view, outputs) := s.view.step s.setup (.answered ticket reply.answer)
  let server := match reply.entry with
    | some (actor, status) => s.server.write actor status
    | none => s.server
  ({ s with view, server }, outputs)

/-- Carries out what the view does to the outside, at most `fuel` things. -/
def perform : Nat → Views → List Output → Views
  | 0, s, _ => s
  | _, s, [] => s
  | fuel + 1, s, .returned caller result :: rest =>
    perform fuel { s with returns := (s.now, caller, result) :: s.returns } rest
  | fuel + 1, s, .call ticket call :: rest =>
    let (reply, script) := s.script.reply s.server call
    let s := { s with script, calls := (s.now, call) :: s.calls }
    if reply.delay = 0 then
      let (s, outputs) := s.land ticket reply
      perform fuel s (outputs ++ rest)
    else
      perform fuel { s with pending := s.pending ++ [⟨s.now + reply.delay, ticket, reply⟩] } rest

/-- More than one event and the answers without delay that follow it can make the view do: an
operation makes at most six calls and returns once. -/
def chain : Nat := 16

/-- An event comes to the view. -/
def happen (s : Views) (e : Event) : Views :=
  let (view, outputs) := s.view.step s.setup e
  perform chain { s with view } outputs

/-! ### Time -/

/-- The answer that lands first. -/
def firstLanding? : List Landing → Option Landing
  | [] => none
  | l :: rest =>
    match firstLanding? rest with
    | some m => if m.due < l.due then some m else some l
    | none => some l

/-- When the delayed re-check is due, if it is waiting. -/
def recheckAt? (s : Views) : Option Nat :=
  match s.view.recheck with
  | some (.sleeping due) => some due
  | _ => none

/-- The next thing to happen, and when: answers first, then the poll, then the re-check. -/
def next? (s : Views) : Option (Nat × (Views → Views)) :=
  let landing := (firstLanding? s.pending).map fun l =>
    (l.due, fun (s : Views) =>
      let (s, outputs) := { s with pending := s.pending.filter (·.ticket ≠ l.ticket) }.land
        l.ticket l.reply
      perform chain s outputs)
  let poll := s.view.poll.wakeUp?.map fun t => (t, fun (s : Views) => s.happen .pollDue)
  let recheck := s.recheckAt?.map fun t => (t, fun (s : Views) => s.happen .recheckDue)
  earlier (earlier landing poll) recheck
where
  /-- The earlier one of two, the first one if they are at the same time. -/
  earlier (a b : Option (Nat × (Views → Views))) : Option (Nat × (Views → Views)) :=
    match a, b with
    | some x, some y => if y.1 < x.1 then some y else some x
    | some x, none => some x
    | none, y => y

/-- Time goes on until `t`. -/
def wait (s : Views) (t : Nat) : Views := s.happen (.elapse (t - s.now))

/-- Lets things happen until `ended` holds or nothing is left before `limit`, at most `fuel`. -/
def proceed (limit : Option Nat) (ended : Views → Bool) : Nat → Views → Views
  | 0, s => s
  | fuel + 1, s =>
    if ended s then s
    else
      match s.next? with
      | some (t, act) =>
        if limit.all (t ≤ ·) then proceed limit ended fuel (act (s.wait t)) else s
      | none => s

/-- Enough events for a span of time: polls have periods of whole seconds, and each tick and each
re-check makes one call. -/
def enough (s : Views) (span : Nat) : Nat := 4 * (span + s.pending.length + 8)

/-- Lets everything happen that is due now. -/
def settle (s : Views) : Views := proceed (some s.now) (fun _ => false) (s.enough 0) s

/-- Lets time pass. -/
def sleep (s : Views) (ms : Nat) : Views :=
  (proceed (some (s.now + ms)) (fun _ => false) (s.enough ms) s).wait (s.now + ms)

/-- The operation of a caller has returned. -/
def hasReturned (caller : Nat) (s : Views) : Bool := s.returns.any (·.2.1 = caller)

/-- Runs an operation to its end: four calls at most follow one another. -/
def finish (s : Views) (caller : Nat) : Views :=
  proceed none (hasReturned caller) (s.enough (4 * s.script.longestDelay)) s

/-! ### Steps -/

/-- An operation of a view that has a caller. -/
inductive Action where
  | resolve (url : String)
  | refresh
  | toggle
  deriving DecidableEq, Repr

/-- The event that starts an operation. -/
def Action.event (caller : Nat) : Action → Event
  | .resolve url => .resolve caller url
  | .refresh => .refresh caller
  | .toggle => .toggle caller

/-- A step of a rehearsal. -/
inductive Step where
  /-- An operation runs to its end. -/
  | run (action : Action)
  /-- An operation is started and left to itself. -/
  | begin (action : Action)
  | sleep (ms : Nat)
  /-- The core holds another status. -/
  | server (actor : String) (status : FollowStatus)
  | ensurePoll
  | stopPoll
  | teardown
  /-- The view is dropped, which tears it down. -/
  | drop
  deriving DecidableEq, Repr

/-- Performs a step; its operation, if it has one, has `caller` as its caller. -/
def step (s : Views) (caller : Nat) : Step → Views
  | .sleep ms => s.sleep ms
  | .server actor status => { s with server := s.server.write actor status }
  | .drop => { s.happen .teardown with dropped := true }
  | .run action => if s.dropped then s else (s.happen (action.event caller)).finish caller
  | .begin action => if s.dropped then s else s.happen (action.event caller)
  | .ensurePoll => if s.dropped then s else s.happen .ensurePoll
  | .stopPoll => if s.dropped then s else s.happen .stopPoll
  | .teardown => if s.dropped then s else s.happen .teardown

/-- What is seen after a step. -/
structure Seen where
  time : Nat
  /-- The result of a toggle that ran to its end. -/
  result : Option ToggleResult
  /-- The calls of this step, with their times. -/
  calls : List (Nat × Call)
  /-- The operations begun earlier or now that returned in this step: time, caller, result. -/
  returns : List (Nat × Nat × Option ToggleResult)
  /-- The view, unless it was dropped. -/
  view : Option View

/-- What is seen after each step; the caller of an operation is the number of its step. -/
def play (caller : Nat) (s : Views) : List Step → List Seen
  | [] => []
  | st :: rest =>
    let s := ({ s with calls := [], returns := [] }.step caller st).settle
    let own := s.returns.find? fun r => r.2.1 = caller
    let seen : Seen := {
      time := s.now
      result := match st with
        | .run _ => own.bind (·.2.2)
        | _ => none
      calls := s.calls.reverse
      returns := match st with
        | .run _ => (s.returns.filter fun r => r.2.1 ≠ caller).reverse
        | _ => s.returns.reverse
      view := if s.dropped then none else some s.view }
    seen :: play (caller + 1) s rest

end Views

end FollowClient.Rehearsal
