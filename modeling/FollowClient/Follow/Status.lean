import FollowClient.Json.Basic
import FollowClient.Text.Trim

/-!
The follow status of a remote actor, as the core tells it.
-/

namespace FollowClient

/-- Whether the local actor follows a remote one. -/
inductive FollowStatus where
  | none
  | pending
  | accepted
  deriving DecidableEq, Repr, Inhabited

namespace FollowStatus

/-- The word for a status. -/
def name : FollowStatus → String
  | .none => "none"
  | .pending => "pending"
  | .accepted => "accepted"

/-- The status that a word names exactly. -/
def ofName? (s : String) : Option FollowStatus :=
  if s = "none" then some .none
  else if s = "pending" then some .pending
  else if s = "accepted" then some .accepted
  else Option.none

/-- The status that a core reports by a word: blanks around it and the case of its letters do not
count, and an unknown word means that there is no relationship. -/
def ofReport (s : String) : FollowStatus :=
  (ofName? (Text.lower (Text.trim s))).getD .none

/-- A follow that waits for its answer counts as following. -/
def isFollowing : FollowStatus → Bool
  | .none => false
  | .pending => true
  | .accepted => true

/-- The status that a value names exactly: the word itself, or an object whose only member is named
by the word and holds `null`. -/
def ofJson? : Json → Option FollowStatus
  | .str s => ofName? s
  | .obj [(key, .null)] => ofName? key
  | _ => Option.none

@[simp] theorem ofName?_name (s : FollowStatus) : ofName? s.name = some s := by
  cases s <;> rfl

theorem isFollowing_eq_false_iff {s : FollowStatus} : s.isFollowing = false ↔ s = .none := by
  cases s <;> simp [isFollowing]

theorem isFollowing_iff {s : FollowStatus} :
    s.isFollowing = true ↔ s = .pending ∨ s = .accepted := by
  cases s <;> simp [isFollowing]

end FollowStatus

end FollowClient
