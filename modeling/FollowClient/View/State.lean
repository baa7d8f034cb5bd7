import FollowClient.Follow.Poll
import FollowClient.Follow.Relationship
import FollowClient.Profile.Activity
import FollowClient.Settings

/-!
The state of a profile view: what it displays, what it has scheduled, and the calls whose answers it
waits for. Each waiting call is a value that says what is to be done with its answer.
-/

namespace FollowClient.View

/-! ### What is displayed -/

/-- The outbox of the displayed profile. -/
inductive OutboxState where
  | notLoaded
  /-- The actor has no outbox. -/
  | unavailable
  | loading
  | loaded (items : List Activity)
  | failed (message : String)

/-- What a view displays. -/
structure Display where
  profile : Option Profile
  /-- Known once it has been fetched. -/
  followers : Option Nat
  following : Option Nat
  outbox : OutboxState
  relationship : Relationship
  loading : Bool
  error : Option String

/-- A view before anything was resolved. -/
def Display.empty : Display := ⟨none, none, none, .notLoaded, .start .none, false, none⟩

/-- The id of the displayed actor. -/
def Display.actorId (d : Display) : Option String := d.profile.map (·.id)

/-! ### Calls in flight -/

/-- The two collections whose sizes are shown. -/
inductive Collection where
  | followers
  | following
  deriving DecidableEq, Repr

/-- What follows a status read. -/
inductive AfterRead where
  /-- The caller's operation is over. -/
  | returns (caller : Nat)
  /-- The read that follows a toggle which succeeded. -/
  | confirms (caller : Nat)
  /-- The read that follows a toggle which failed. -/
  | reverts (caller : Nat) (message : String)
  /-- The read is a tick of the poll. -/
  | tick
  /-- The read is a tick of a poll that the tick before it has ended. -/
  | lastTick
  /-- The read is the delayed re-check. -/
  | recheck
  deriving DecidableEq, Repr

/-- A call whose answer is waited for. -/
inductive Flight where
  /-- The actor that a resolution of this generation asks for. -/
  | actor (caller generation : Nat) (url : String)
  /-- The size of a collection of the resolved actor. -/
  | count (caller generation : Nat) (which : Collection) (url : String)
  /-- The outbox of the resolved actor. -/
  | outbox (caller generation : Nat) (url : String)
  /-- The status of an actor, read in an epoch of the relationship. -/
  | status (actor : String) (epoch : Nat) (after : AfterRead)
  /-- The request of a toggle, with the status before it and the one it aims at. -/
  | request (caller : Nat) (actor : String) (prior optimistic : FollowStatus)
  deriving DecidableEq, Repr

namespace Flight

/-- The call loads a part of the profile for the resolution of this generation. -/
def isLoadOf (generation : Nat) : Flight → Bool
  | count _ g _ _ => g = generation
  | outbox _ g _ => g = generation
  | _ => false

/-- The call is the status read of a poll tick. -/
def isTick : Flight → Bool
  | status _ _ .tick => true
  | _ => false

/-- The call is the status read of a tick after the end of its poll. -/
def isLastTick : Flight → Bool
  | status _ _ .lastTick => true
  | _ => false

/-- The call is the status read of the delayed re-check. -/
def isRecheck : Flight → Bool
  | status _ _ .recheck => true
  | _ => false

/-- The call is a follow or unfollow request. -/
def isRequest : Flight → Bool
  | request .. => true
  | _ => false

end Flight

/-- A call to the actor repository or to the core. -/
inductive Call where
  | actor (url : String)
  | count (url : String)
  | outbox (url : String) (limit : Nat)
  | status (actor : String)
  | follow (actor : String)
  | unfollow (actor : String)
  deriving DecidableEq, Repr

/-- The call of a flight. -/
def Flight.call (settings : FollowSettings) : Flight → Call
  | .actor _ _ url => .actor url
  | .count _ _ _ url => .count url
  | .outbox _ _ url => .outbox url settings.outboxPageSize
  | .status id _ _ => .status id
  | .request _ id prior _ => if prior.isFollowing then .unfollow id else .follow id

/-- The answer to a call. -/
inductive Answer where
  | actor (result : Except Failure (Option Profile))
  | count (result : Except Failure Nat)
  | outbox (result : Except Failure (List Activity))
  | status (result : Except Failure FollowStatus)
  | request (result : Except Failure Unit)

/-! ### The view -/

/-- The delayed re-check after a toggle. -/
inductive Recheck where
  | sleeping (due : Nat)
  | reading
  deriving DecidableEq, Repr

/-- The result of a toggle. -/
inductive ToggleResult where
  /-- No request was made, or its answer no longer matters. -/
  | skipped
  /-- The core took the request; the displayed status. -/
  | issued (status : FollowStatus)
  /-- The core refused the request; the message shown. -/
  | failed (message : String)
  deriving DecidableEq, Repr

end View

/-- A profile view. -/
structure View where
  now : Nat
  display : View.Display
  /-- How many resolutions have been started; the last one is the current one. -/
  generation : Nat
  alive : Bool
  /-- A toggle is between its start and its return. -/
  toggling : Bool
  poll : PollSession Unit
  recheck : Option View.Recheck
  /-- The calls whose answers are waited for, each with its ticket. -/
  flights : List (Nat × View.Flight)
  nextTicket : Nat

namespace View

/-- A new view. -/
def start : View :=
  ⟨0, .empty, 0, true, false, .idle, none, [], 0⟩

/-- What a view depends on. -/
structure Setup where
  settings : FollowSettings
  /-- There is a core to ask and to write to. -/
  hasControl : Bool
  /-- The last moment that the clock can tell. -/
  clockEnd : Nat := PollSession.clockEnd

/-- What a view does to the outside. -/
inductive Output where
  /-- A call is made; its answer comes back with the ticket. -/
  | call (ticket : Nat) (call : Call)
  /-- An operation returns to its caller; a toggle has a result. -/
  | returned (caller : Nat) (result : Option ToggleResult)
  deriving DecidableEq, Repr

end View

end FollowClient
