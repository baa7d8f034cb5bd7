import FollowClient.Failure

/-!
How a failure is handled. Each operation is either best effort, and its failures are absorbed, or
surfaced, and the message of its failure is shown.
-/

namespace FollowClient

/-- The operations that need the network. -/
inductive Operation where
  | resolveProfile
  | collectionCount
  | fetchOutbox
  | followingStatus
  | follow
  | unfollow
  | relayPreview
  | migrationStatus
  | saveAliases
  deriving DecidableEq, Repr

/-- The two ways to handle a failure. -/
inductive Handling where
  | bestEffort
  | surfaced
  deriving DecidableEq, Repr

namespace Operation

/-- How failures of an operation are handled. -/
def handling : Operation → Handling
  | .collectionCount | .followingStatus | .relayPreview => .bestEffort
  | .resolveProfile | .fetchOutbox | .follow | .unfollow | .migrationStatus | .saveAliases =>
    .surfaced

/-- The name of an operation. -/
def name : Operation → String
  | .resolveProfile => "resolve profile"
  | .collectionCount => "collection count"
  | .fetchOutbox => "fetch outbox"
  | .followingStatus => "following status"
  | .follow => "follow"
  | .unfollow => "unfollow"
  | .relayPreview => "relay preview"
  | .migrationStatus => "migration status"
  | .saveAliases => "save aliases"

end Operation

/-- What becomes of an operation under its policy. -/
inductive Outcome (α : Type) where
  | done (value : α)
  | absorbed
  | failed (message : String)
  deriving DecidableEq, Repr

namespace Outcome

/-- The value of an operation that is done. -/
def value? {α : Type} : Outcome α → Option α
  | done v => some v
  | _ => none

end Outcome

/-- Applies the policy of an operation to its result. -/
def settle {α : Type} (op : Operation) : Except Failure α → Outcome α
  | .ok v => .done v
  | .error f =>
    match op.handling with
    | .bestEffort => .absorbed
    | .surfaced => .failed f.message

end FollowClient
