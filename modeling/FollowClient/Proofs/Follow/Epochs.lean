import FollowClient.Follow.Relationship

/-!
Status reads and the epochs they carry. The epoch of a relationship counts its local writes
(`run_epoch`), so it grows with each of them and no epoch comes back, not even in a counter of
sixty-four bits that is about to run over (`word_run_epoch_eq_iff`). A read that carries the epoch
in which it was issued is used exactly if nothing was written since, unless it is a `none` that
would undo a follow (`reads_used_iff`).
-/

namespace FollowClient.Relationship

/-! ### Local writes -/

/-- The operation writes what the local actor does: it starts a new epoch. -/
def Operation.isWrite : Operation → Bool
  | .report _ _ => false
  | .toggle => true
  | .force _ => true

/-- How many of the operations are local writes. -/
def localWrites (ops : List Operation) : Nat := ops.countP (·.isWrite)

theorem localWrites_eq_zero_iff {ops : List Operation} :
    localWrites ops = 0 ↔ ∀ op ∈ ops, op.isWrite = false := by
  simp [localWrites, List.countP_eq_zero]

theorem run_append (r : Relationship) (before after : List Operation) :
    r.run (before ++ after) = (r.run before).run after := List.foldl_append

/-! ### Epochs -/

theorem apply_epoch (r : Relationship) (op : Operation) :
    (r.apply op).epoch = r.epoch + if op.isWrite then 1 else 0 := by
  cases op with
  | report epoch reported => exact report_epoch r epoch reported
  | toggle => rfl
  | force status => rfl

/-- The epoch counts the local writes. -/
theorem run_epoch (r : Relationship) (ops : List Operation) :
    (r.run ops).epoch = r.epoch + localWrites ops := by
  induction ops generalizing r with
  | nil => rfl
  | cons op ops ih =>
    have first := apply_epoch r op
    have rest := ih (r.apply op)
    calc (r.run (op :: ops)).epoch = ((r.apply op).run ops).epoch := rfl
      _ = r.epoch + localWrites (op :: ops) := by
        rw [rest, first, localWrites, localWrites, List.countP_cons]
        omega

theorem run_epoch_eq_iff {r : Relationship} {ops : List Operation} :
    r.epoch = (r.run ops).epoch ↔ ∀ op ∈ ops, op.isWrite = false := by
  rw [run_epoch, ← localWrites_eq_zero_iff]
  omega

/-- Fewer local writes than there are words of sixty-four bits do not bring a word back. -/
theorem word_run_epoch_eq_iff {r : Relationship} {ops : List Operation}
    (few : localWrites ops < Text.Decimal.wordBound) :
    r.epoch % Text.Decimal.wordBound = (r.run ops).epoch % Text.Decimal.wordBound ↔
      ∀ op ∈ ops, op.isWrite = false := by
  rw [run_epoch, ← localWrites_eq_zero_iff]
  unfold Text.Decimal.wordBound at *
  omega

/-! ### Stretches without local writes -/

theorem apply_isFollowing {r : Relationship} {op : Operation} (hw : op.isWrite = false)
    (h : r.isFollowing = true) : (r.apply op).isFollowing = true := by
  cases op with
  | report epoch reported => exact report_isFollowing epoch reported h
  | toggle => cases hw
  | force status => cases hw

/-- Without a local write nothing undoes a follow. -/
theorem run_isFollowing {r : Relationship} {ops : List Operation}
    (hw : ∀ op ∈ ops, op.isWrite = false) (h : r.isFollowing = true) :
    (r.run ops).isFollowing = true := by
  induction ops generalizing r with
  | nil => exact h
  | cons op ops ih =>
    obtain ⟨first, rest⟩ := List.forall_mem_cons.1 hw
    exact ih rest (apply_isFollowing first h)

/-! ### Reads -/

theorem reply_report_eq_true_iff {r : Relationship} {epoch : Nat} {s : FollowStatus} :
    r.reply (.report epoch s) = .applied true ↔ r.accepts epoch s = true := by
  simp [reply]

/-- **Which reads are used.** A read carries the epoch in which it was issued, and lands after any
operations. It is used exactly if none of them was a local write and it does not report `none` of a
follow that is pending or accepted. A used read sets the status, any other one changes nothing, and
no read starts an epoch. The epochs tell the local writes apart also in words of sixty-four bits. So
as long as nothing is written, a follow stays one. -/
theorem reads_used_iff (r : Relationship) (before between : List Operation) (s : FollowStatus)
    (few : localWrites (before ++ between) < Text.Decimal.wordBound) :
    let issued := r.run before
    let now := r.run (before ++ between)
    let read := Operation.report issued.epoch s
    (now.reply read = .applied true ↔ (∀ op ∈ between, op.isWrite = false) ∧
      ¬ (s = .none ∧ (now.status = .pending ∨ now.status = .accepted))) ∧
    (now.reply read = .applied true → now.apply read = { now with status := s }) ∧
    (now.reply read ≠ .applied true → now.reply read = .applied false ∧ now.apply read = now) ∧
    (∀ epoch reported, (now.apply (.report epoch reported)).epoch = now.epoch) ∧
    (issued.epoch % Text.Decimal.wordBound = now.epoch % Text.Decimal.wordBound ↔
      ∀ op ∈ between, op.isWrite = false) ∧
    ((∀ op ∈ between, op.isWrite = false) →
      issued.status = .pending ∨ issued.status = .accepted → now.status ≠ .none) := by
  intro issued now read
  have later : now = issued.run between := run_append r before between
  have fewer : localWrites between < Text.Decimal.wordBound := by
    rw [localWrites, List.countP_append] at few
    unfold localWrites
    omega
  refine ⟨?_, ?_, ?_, ?_, ?_, ?_⟩
  · rw [reply_report_eq_true_iff, accepts_iff, later, run_epoch_eq_iff, isFollowing,
      FollowStatus.isFollowing_iff]
  · intro used
    have accepted := reply_report_eq_true_iff.1 used
    simp [read, apply, report, accepted]
  · intro unused
    have refused : now.accepts issued.epoch s = false := by
      rw [← Bool.not_eq_true]
      exact fun h => unused (reply_report_eq_true_iff.2 h)
    exact ⟨congrArg Reply.applied refused, report_of_not_accepts refused⟩
  · intro epoch reported
    exact report_epoch now epoch reported
  · rw [later]
    exact word_run_epoch_eq_iff fewer
  · intro quiet follows unknown
    have kept : now.isFollowing = true := by
      rw [later]
      exact run_isFollowing quiet (FollowStatus.isFollowing_iff.2 follows)
    rw [isFollowing, unknown] at kept
    cases kept

/-- Two toggles bring the status back that a read was issued under, but not its epoch: the read is
dropped. Another one is issued after them and reports `none`; it is dropped because it would undo
the follow. -/
theorem read_from_before_toggles_dropped :
    localWrites ([.toggle] ++ [.toggle, .toggle, .report 3 .accepted]) < Text.Decimal.wordBound ∧
    ((start .none).run [.toggle, .toggle, .toggle]).status = ((start .none).run [.toggle]).status ∧
    ((start .none).run [.toggle, .toggle, .toggle, .report 3 .accepted]).apply
      (.report 1 .pending) = ⟨.accepted, 3⟩ ∧
    ((start .none).run [.toggle, .toggle, .toggle, .report 3 .accepted]).apply
      (.report 3 .none) = ⟨.accepted, 3⟩ := by
  have few : localWrites ([.toggle] ++ [.toggle, .toggle, .report 3 .accepted]) <
    Text.Decimal.wordBound := by decide
  have old := reads_used_iff (start .none) [.toggle] [.toggle, .toggle, .report 3 .accepted]
    .pending few
  have new := reads_used_iff (start .none) [.toggle, .toggle, .toggle] [.report 3 .accepted]
    .none few
  have written : (start .none).run ([.toggle] ++ [.toggle, .toggle, .report 3 .accepted]) =
    ⟨.accepted, 3⟩ := by decide
  refine ⟨few, by decide, ?_, ?_⟩
  · refine (old.2.2.1 fun used => ?_).2.trans written
    exact absurd ((old.1.1 used).1 .toggle List.mem_cons_self) (by decide)
  · refine (new.2.2.1 fun used => ?_).2.trans written
    exact (new.1.1 used).2 ⟨rfl, .inr (by decide)⟩

end FollowClient.Relationship
