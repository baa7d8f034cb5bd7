import FollowClient.Actor.Repository
import FollowClient.Core.Client
import FollowClient.View.Step

/-!
A view over a network: its calls go to the actor repository and to the core, and each is answered
before anything else happens. Between the steps of its user only timers are waited for.
-/

namespace FollowClient

open Net

/-- A view with its cache and the requests sent so far. -/
structure Live where
  view : View
  cache : ActorCache
  sent : List Request

namespace Live

/-- What a live view talks to. -/
structure World where
  setup : View.Setup
  repository : Repository
  core : Core
  network : Network

section Operations

variable (w : World)

/-- A new view. -/
def start (sent : List Request) : Live := ⟨.start, [], sent⟩

/-- The answer to a call. -/
def answer (s : Live) : View.Call → View.Answer × Live
  | .actor url =>
    match w.repository.getActor s.view.now url s.cache w.network s.sent with
    | (.ok (result, cache), sent) => (.actor result, { s with cache, sent })
    | (.error f, sent) => (.actor (.error f), { s with sent })
  | .count url =>
    let (result, sent) := w.repository.fetchCount url w.network s.sent
    (.count result, { s with sent })
  | .outbox url limit =>
    let (result, sent) := w.repository.fetchOutbox url limit w.network s.sent
    (.outbox result, { s with sent })
  | .status actor =>
    let (result, sent) := w.core.followingStatus actor w.network s.sent
    (.status result, { s with sent })
  | .follow actor =>
    let (result, sent) := w.core.follow actor w.network s.sent
    (.request result, { s with sent })
  | .unfollow actor =>
    let (result, sent) := w.core.unfollow actor w.network s.sent
    (.request result, { s with sent })

/-- Carries out what the view does to the outside, at most `fuel` things; the result of the last
operation that returned comes with it. -/
def perform : Nat → Live → Option View.ToggleResult → List View.Output →
    Live × Option View.ToggleResult
  | 0, s, last, _ => (s, last)
  | _, s, last, [] => (s, last)
  | fuel + 1, s, _, .returned _ result :: rest => perform fuel s result rest
  | fuel + 1, s, last, .call ticket call :: rest =>
    let (a, s) := s.answer w call
    let (view, outputs) := s.view.step w.setup (.answered ticket a)
    perform fuel { s with view } last (outputs ++ rest)

/-- More than one event can make the view do when every call is answered at once. -/
def chain : Nat := 16

/-- An event comes to the view; the result is that of a toggle which has returned. -/
def happen (s : Live) (e : View.Event) : Live × Option View.ToggleResult :=
  let (view, outputs) := s.view.step w.setup e
  perform w chain { s with view } none outputs

/-- When a timer is due next. -/
def next? (s : Live) : Option Nat :=
  let recheck := match s.view.recheck with
    | some (.sleeping due) => some due
    | _ => none
  match s.view.poll.wakeUp?, recheck with
  | some p, some r => some (Nat.min p r)
  | some p, none => some p
  | none, r => r

/-- Lets the timers go off that are due until `limit`, at most `fuel` times. -/
def settle (limit : Nat) : Nat → Live → Live
  | 0, s => s
  | fuel + 1, s =>
    match s.next? with
    | some t =>
      if t ≤ limit then
        let s := (s.happen w (.elapse (t - s.view.now))).1
        let s := (s.happen w .recheckDue).1
        settle limit fuel (s.happen w .pollDue).1
      else s
    | none => s

/-- Lets time pass, in milliseconds. -/
def sleep (s : Live) (ms : Nat) : Live :=
  let limit := s.view.now + ms
  let s := settle w limit (ms + 8) s
  (s.happen w (.elapse (limit - s.view.now))).1

/-- Resolves an actor. -/
def resolve (s : Live) (url : String) : Live := (s.happen w (.resolve 0 url)).1

/-- Toggles the follow of the displayed actor. -/
def toggle (s : Live) : Live × View.ToggleResult :=
  let (s, result) := s.happen w (.toggle 1)
  (s, result.getD .skipped)

end Operations

/-- The status that is displayed. -/
def status (s : Live) : FollowStatus := s.view.display.relationship.status

end Live

end FollowClient
