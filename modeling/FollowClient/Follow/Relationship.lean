import FollowClient.Follow.Status
import FollowClient.Text.Decimal

/-!
The follow relationship that a view shows. Every local write starts a new epoch. A status read
carries the epoch in which it was issued: it counts only in that epoch, and a reported `none` never
undoes a follow that is pending or accepted.
-/

namespace FollowClient

/-- The displayed status, and the number of local writes so far. -/
structure Relationship where
  status : FollowStatus
  epoch : Nat
  deriving DecidableEq, Repr, Inhabited

namespace Relationship

/-- A relationship without local writes. -/
def start (status : FollowStatus) : Relationship := ⟨status, 0⟩

/-- Pending and accepted both count as following. -/
def isFollowing (r : Relationship) : Bool := r.status.isFollowing

/-- A read of this epoch with this status is used. -/
def accepts (r : Relationship) (epoch : Nat) (reported : FollowStatus) : Bool :=
  epoch = r.epoch && !(reported = .none && r.isFollowing)

/-- A status read lands. -/
def report (r : Relationship) (epoch : Nat) (reported : FollowStatus) : Relationship :=
  if r.accepts epoch reported then { r with status := reported } else r

/-- The status a toggle aims at. -/
def toggled (status : FollowStatus) : FollowStatus :=
  if status.isFollowing then .none else .pending

/-- Shows the status that a toggle aims at before the core has agreed. -/
def toggle (r : Relationship) : Relationship := ⟨toggled r.status, r.epoch + 1⟩

/-- Overwrites the status, whatever it was. -/
def force (r : Relationship) (status : FollowStatus) : Relationship := ⟨status, r.epoch + 1⟩

/-- The epoch `back` epochs ago, among the numbers of sixty-four bits. -/
def epochBack (r : Relationship) (back : Nat) : Nat :=
  let bound := Text.Decimal.wordBound
  (r.epoch + (bound - back % bound)) % bound

/-! ### Operations as values -/

/-- An operation on a relationship. -/
inductive Operation where
  | report (epoch : Nat) (reported : FollowStatus)
  | toggle
  | force (status : FollowStatus)
  deriving DecidableEq, Repr

/-- What an operation tells its caller. -/
inductive Reply where
  | applied (used : Bool)
  | toggled (prior optimistic : FollowStatus)
  | done
  deriving DecidableEq, Repr

/-- The relationship after an operation. -/
def apply (r : Relationship) : Operation → Relationship
  | .report epoch reported => r.report epoch reported
  | .toggle => r.toggle
  | .force status => r.force status

/-- The reply to an operation. -/
def reply (r : Relationship) : Operation → Reply
  | .report epoch reported => .applied (r.accepts epoch reported)
  | .toggle => .toggled r.status r.toggle.status
  | .force _ => .done

/-- The relationship after a list of operations. -/
def run (r : Relationship) (ops : List Operation) : Relationship := ops.foldl apply r

/-! ### What an operation does to the parts -/

@[simp] theorem report_epoch (r : Relationship) (e : Nat) (s : FollowStatus) :
    (r.report e s).epoch = r.epoch := by
  unfold report; split <;> rfl

@[simp] theorem toggle_epoch (r : Relationship) : r.toggle.epoch = r.epoch + 1 := rfl

@[simp] theorem force_epoch (r : Relationship) (s : FollowStatus) :
    (r.force s).epoch = r.epoch + 1 := rfl

@[simp] theorem force_status (r : Relationship) (s : FollowStatus) : (r.force s).status = s := rfl

theorem report_of_not_accepts {r : Relationship} {e : Nat} {s : FollowStatus}
    (h : r.accepts e s = false) : r.report e s = r := by
  simp [report, h]

theorem report_status_of_accepts {r : Relationship} {e : Nat} {s : FollowStatus}
    (h : r.accepts e s = true) : (r.report e s).status = s := by
  simp [report, h]

theorem accepts_iff {r : Relationship} {e : Nat} {s : FollowStatus} :
    r.accepts e s = true ↔ e = r.epoch ∧ ¬ (s = .none ∧ r.isFollowing = true) := by
  rw [accepts, Bool.and_eq_true, decide_eq_true_iff, Bool.not_eq_true', ← Bool.not_eq_true,
    Bool.and_eq_true, decide_eq_true_iff]

/-- A reported status never undoes a follow. -/
theorem report_isFollowing {r : Relationship} (e : Nat) (s : FollowStatus)
    (h : r.isFollowing = true) : (r.report e s).isFollowing = true := by
  cases ha : r.accepts e s with
  | false => rwa [report_of_not_accepts ha]
  | true =>
    rw [isFollowing, report_status_of_accepts ha, ← Bool.not_eq_false]
    intro hs
    exact (accepts_iff.1 ha).2 ⟨FollowStatus.isFollowing_eq_false_iff.1 hs, h⟩

end Relationship

end FollowClient
