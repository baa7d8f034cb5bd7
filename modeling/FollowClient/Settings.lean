/-!
The settings of the client.
-/

namespace FollowClient

/-- How a view keeps its follow status fresh, and how much of an outbox it shows. -/
structure FollowSettings where
  /-- Seconds between two status reads while a follow is pending. -/
  pollIntervalSecs : Nat
  /-- Seconds from a toggle to its one delayed re-check. -/
  recheckDelaySecs : Nat
  /-- How many activities of an outbox are shown. -/
  outboxPageSize : Nat
  deriving DecidableEq, Repr

namespace FollowSettings

/-- The settings without further instructions. -/
def default : FollowSettings := ⟨6, 2, 20⟩

/-- The time between two ticks of a poll, in milliseconds. -/
def pollInterval (s : FollowSettings) : Nat := 1000 * s.pollIntervalSecs

/-- The time from a toggle to its re-check, in milliseconds. -/
def recheckDelay (s : FollowSettings) : Nat := 1000 * s.recheckDelaySecs

end FollowSettings

end FollowClient
