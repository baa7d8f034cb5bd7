import FollowClient.Policy
import FollowClient.View.State

/-!
The steps of a profile view. An operation runs from one wait to the next as one step: an event comes
in, the view changes, and calls and returns go out. Resolutions are numbered, and what belongs to a
resolution that is no longer the last one, or to a view that was torn down, is dropped.
-/

namespace FollowClient.View

/-- What happens to a view. -/
inductive Event where
  | resolve (caller : Nat) (url : String)
  | refresh (caller : Nat)
  | toggle (caller : Nat)
  | ensurePoll
  | stopPoll
  | teardown
  /-- Time goes on. -/
  | elapse (ms : Nat)
  /-- The task of the poll runs. -/
  | pollDue
  /-- The delayed re-check looks at the clock. -/
  | recheckDue
  /-- The call with this ticket is answered. -/
  | answered (ticket : Nat) (answer : Answer)

/-- A view after a step, and what it does to the outside. -/
abbrev Effect := View × List Output

/-- The effect followed by a further part of the same step. -/
def Effect.andThen (e : Effect) (f : View → Effect) : Effect :=
  let next := f e.1
  (next.1, e.2 ++ next.2)

section Parts

variable (setup : Setup) (v : View)

/-! ### Scheduled work -/

/-- Ends the poll, and the status read of its tick. -/
def stopPoll : View :=
  { v with poll := v.poll.stop, flights := v.flights.filter fun f => !f.2.isTick }

/-- Starts the poll unless it is running. -/
def ensurePoll : View :=
  if v.alive then
    { v with poll := v.poll.ensure setup.clockEnd v.now setup.settings.pollInterval () }
  else v

/-- Runs the poll exactly while the status is pending. -/
def syncPoll (status : FollowStatus) : View :=
  if status = .pending then v.ensurePoll setup else v.stopPoll

/-- Ends the delayed re-check, and its status read. -/
def cancelRecheck : View :=
  { v with recheck := none, flights := v.flights.filter fun f => !f.2.isRecheck }

/-- Schedules the delayed re-check in place of an earlier one. -/
def scheduleRecheck : View :=
  { v.cancelRecheck with recheck := some (.sleeping (v.now + setup.settings.recheckDelay)) }

/-- Ends all scheduled work for good. -/
def teardown : View := { v with alive := false }.stopPoll.cancelRecheck

/-! ### Calls -/

/-- Makes a call. -/
def issue (f : Flight) : Effect :=
  ({ v with flights := v.flights ++ [(v.nextTicket, f)], nextTicket := v.nextTicket + 1 },
    [.call v.nextTicket (f.call setup.settings)])

/-- Makes calls, one after the other. -/
def issueAll (v : View) : List Flight → Effect
  | [] => (v, [])
  | f :: fs => (v.issue setup f).andThen fun v => issueAll v fs

/-- Returns to a caller. -/
def returnTo (caller : Nat) (result : Option ToggleResult) : Effect := (v, [.returned caller result])

/-- The generation is that of the last resolution, and the view is alive. -/
def isCurrent (generation : Nat) : Bool := v.alive && v.generation = generation

/-! ### Status reads -/

/-- What follows a status read, whether it landed or not. -/
def afterRead : AfterRead → Effect
  | .returns caller => v.returnTo caller none
  | .confirms caller =>
    let v := { v.scheduleRecheck setup with toggling := false }
    v.returnTo caller (some (.issued v.display.relationship.status))
  | .reverts caller message =>
    { v with toggling := false }.returnTo caller (some (.failed message))
  | .tick => ({ v with poll := v.poll.finish true }, [])
  | .lastTick => (v, [])
  | .recheck => ({ v with recheck := none }, [])

/-- Reads the status of the displayed actor, if there is one to read and a core to ask. -/
def readStatus (after : AfterRead) : Effect :=
  match v.display.profile with
  | some p =>
    if v.alive && setup.hasControl then
      v.issue setup (.status p.id v.display.relationship.epoch after)
    else v.afterRead setup after
  | none => v.afterRead setup after

/-- A status read lands: it counts only while its actor is displayed. -/
def landStatus (actor : String) (epoch : Nat) (result : Except Failure FollowStatus) : View :=
  match settle .followingStatus result with
  | .done reported =>
    if v.alive && v.display.actorId = some actor then
      let relationship := v.display.relationship.report epoch reported
      { v with display := { v.display with relationship } }.syncPoll setup relationship.status
    else v
  | _ => v

/-- The poll of `earlier` is over in `v`, but its next tick was due by then. -/
def overran (earlier : View) : Bool :=
  match earlier.poll, v.poll with
  | .ticking _ next (), .idle => next ≤ v.now
  | _, _ => false

/-- A status read has landed, and what follows it goes on. A tick that ends its own poll runs into
the next tick if that is overdue. -/
def landRead (actor : String) (epoch : Nat) (after : AfterRead)
    (result : Except Failure FollowStatus) : Effect :=
  let landed := v.landStatus setup actor epoch result
  if after = .tick && landed.overran v then landed.readStatus setup .lastTick
  else landed.afterRead setup after

/-! ### Resolutions -/

/-- A resolution fails. -/
def failResolution (message : String) : View :=
  { v with display := { v.display with loading := false, error := some message } }

/-- Starts a resolution, which makes it the current one. -/
def resolve (caller : Nat) (url : String) : Effect :=
  let v := { v with generation := v.generation + 1 }
  if !v.alive then v.returnTo caller none
  else if Text.isBlankText url then
    (v.failResolution Failure.blankActor.message).returnTo caller none
  else
    { v with display := { v.display with loading := true, error := none } }.issue setup
      (.actor caller v.generation (Text.trim url))

/-- Displays a resolved profile. Another actor than before starts without counts, without a
relationship and without scheduled work. -/
def install (p : Profile) : View :=
  let outbox := if p.outbox.isEmpty then .unavailable else .loading
  if v.display.actorId = some p.id then
    { v with display := { v.display with profile := some p, outbox, loading := false } }
  else
    { v with display := { v.display with
        profile := some p
        followers := none
        following := none
        outbox
        relationship := v.display.relationship.force .none
        loading := false } }.stopPoll.cancelRecheck

/-- The calls that load the parts of a profile; a part without a URL is not loaded. -/
def loads (caller generation : Nat) (p : Profile) : List Flight :=
  (if p.followers.isEmpty then [] else [.count caller generation .followers p.followers]) ++
  (if p.following.isEmpty then [] else [.count caller generation .following p.following]) ++
  (if p.outbox.isEmpty then [] else [.outbox caller generation p.outbox])

/-- Once the parts of a profile are loaded, the current resolution reads the follow status. -/
def closeResolution (caller generation : Nat) : Effect :=
  if v.flights.any fun f => f.2.isLoadOf generation then (v, [])
  else if v.isCurrent generation then v.readStatus setup (.returns caller)
  else v.returnTo caller none

/-- The actor of a resolution, where an actor that does not exist is a failure. -/
def required (url : String) : Except Failure (Option Profile) → Except Failure Profile
  | .ok (some p) => .ok p
  | .ok none => .error (.notFound url)
  | .error f => .error f

/-- The actor of a resolution arrives. -/
def landActor (caller generation : Nat) (url : String)
    (result : Except Failure (Option Profile)) : Effect :=
  if v.isCurrent generation then
    match settle .resolveProfile (required url result) with
    | .done p =>
      ((v.install p).issueAll setup (loads caller generation p)).andThen fun v =>
        v.closeResolution setup caller generation
    | .failed message => (v.failResolution message).returnTo caller none
    | .absorbed => v.returnTo caller none
  else v.returnTo caller none

/-- The size of a collection arrives. -/
def landCount (generation : Nat) (which : Collection) (result : Except Failure Nat) : View :=
  match settle .collectionCount result with
  | .done n =>
    if v.isCurrent generation then
      match which with
      | .followers => { v with display := { v.display with followers := some n } }
      | .following => { v with display := { v.display with following := some n } }
    else v
  | _ => v

/-- The outbox arrives. -/
def landOutbox (generation : Nat) (result : Except Failure (List Activity)) : View :=
  if v.isCurrent generation then
    match settle .fetchOutbox result with
    | .done items => { v with display := { v.display with outbox := .loaded items } }
    | .failed message => { v with display := { v.display with outbox := .failed message } }
    | .absorbed => v
  else v

/-! ### Toggles -/

/-- Starts a toggle: shows the status it aims at and makes its request. -/
def toggle (caller : Nat) : Effect :=
  match v.display.profile with
  | some p =>
    if v.alive && setup.hasControl && !v.toggling then
      let prior := v.display.relationship.status
      let relationship := v.display.relationship.toggle
      { v with
        toggling := true
        display := { v.display with relationship, error := none } }.issue setup
          (.request caller p.id prior relationship.status)
    else v.returnTo caller (some .skipped)
  | none => v.returnTo caller (some .skipped)

/-- The operation of a request, which depends on the status before it. -/
def requestOperation (prior : FollowStatus) : Operation :=
  if prior.isFollowing then .unfollow else .follow

/-- The request of a toggle is answered. -/
def landRequest (caller : Nat) (actor : String) (prior optimistic : FollowStatus)
    (result : Except Failure Unit) : Effect :=
  if v.alive && v.display.actorId = some actor then
    match settle (requestOperation prior) result with
    | .done () =>
      ({ v with display := { v.display with
          relationship := v.display.relationship.force optimistic } }.syncPoll setup
            optimistic).readStatus setup (.confirms caller)
    | .failed message =>
      ({ v with display := { v.display with
          relationship := v.display.relationship.force prior
          error := some message } }.syncPoll setup prior).readStatus setup
            (.reverts caller message)
    | .absorbed => { v with toggling := false }.returnTo caller (some .skipped)
  else { v with toggling := false }.returnTo caller (some .skipped)

/-! ### Timers -/

/-- The poll ticks if its deadline has come, and breaks off if it has none. -/
def pollDue : Effect :=
  let fired := { v with poll := v.poll.fire v.now }
  match v.poll.due? v.now with
  | some () =>
    if v.alive then fired.readStatus setup .tick
    else ({ fired with poll := fired.poll.finish false }, [])
  | none => (fired, [])

/-- The delayed re-check reads the status if its time has come. -/
def recheckDue : Effect :=
  match v.recheck with
  | some (.sleeping due) =>
    if due ≤ v.now then
      if v.alive then { v with recheck := some .reading }.readStatus setup .recheck
      else ({ v with recheck := none }, [])
    else (v, [])
  | _ => (v, [])

/-! ### Answers -/

/-- The answer to a flight is taken up; an answer of another kind than its call changes nothing. -/
def land : Flight → Answer → Option Effect
  | .actor caller generation url, .actor r => some (v.landActor setup caller generation url r)
  | .count caller generation which _, .count r =>
    some ((v.landCount generation which r).closeResolution setup caller generation)
  | .outbox caller generation _, .outbox r =>
    some ((v.landOutbox generation r).closeResolution setup caller generation)
  | .status actor epoch after, .status r =>
    some (v.landRead setup actor epoch after r)
  | .request caller actor prior optimistic, .request r =>
    some (v.landRequest setup caller actor prior optimistic r)
  | _, _ => none

/-- The flight with a ticket. -/
def flight? (ticket : Nat) : Option Flight := v.flights.lookup ticket

/-- The view without the flight with a ticket. -/
def withoutFlight (ticket : Nat) : View :=
  { v with flights := v.flights.filter fun f => f.1 ≠ ticket }

/-- A call is answered; a ticket that is no longer waited for changes nothing. -/
def answered (ticket : Nat) (answer : Answer) : Effect :=
  match v.flight? ticket with
  | some f => ((v.withoutFlight ticket).land setup f answer).getD (v, [])
  | none => (v, [])

end Parts

/-! ### The machine -/

/-- The event answers the flight with a ticket. -/
def Event.answers (ticket : Nat) : Event → Bool
  | .answered t _ => t = ticket
  | _ => false

/-- The tick after the end of a poll is given up when anything but its own answer comes next: it is
answered without waiting or not at all. -/
def giveUpLastTick (v : View) (e : Event) : View :=
  { v with flights := v.flights.filter fun f => !f.2.isLastTick || e.answers f.1 }

/-- What an event makes a view do. -/
def react (setup : Setup) (v : View) : Event → Effect
  | .resolve caller url => v.resolve setup caller url
  | .refresh caller => v.readStatus setup (.returns caller)
  | .toggle caller => v.toggle setup caller
  | .ensurePoll => (v.ensurePoll setup, [])
  | .stopPoll => (v.stopPoll, [])
  | .teardown => (v.teardown, [])
  | .elapse ms => ({ v with now := v.now + ms }, [])
  | .pollDue => v.pollDue setup
  | .recheckDue => v.recheckDue setup
  | .answered ticket answer => v.answered setup ticket answer

/-- One step of a view. -/
def step (setup : Setup) (v : View) (e : Event) : Effect := (v.giveUpLastTick e).react setup e

/-- The view after a list of events. -/
def run (setup : Setup) (v : View) (events : List Event) : View :=
  events.foldl (fun v e => (v.step setup e).1) v

end FollowClient.View
