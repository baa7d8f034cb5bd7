import FollowClient.View.Step

/-!
What the parts of a step leave alone. Scheduling touches the poll, the re-check and their flights
only; a call touches the flights and the ticket; what follows a status read never touches what is
displayed, the generation or whether the view is alive.
-/

namespace FollowClient.View

section Parts

variable (setup : Setup) (v : View)

/-! ### Scheduled work -/

@[simp] theorem giveUpLastTick_frame (e : Event) :
    (v.giveUpLastTick e).display = v.display ∧ (v.giveUpLastTick e).generation = v.generation ∧
    (v.giveUpLastTick e).alive = v.alive ∧ (v.giveUpLastTick e).toggling = v.toggling ∧
    (v.giveUpLastTick e).poll = v.poll ∧ (v.giveUpLastTick e).recheck = v.recheck ∧
    (v.giveUpLastTick e).now = v.now ∧ (v.giveUpLastTick e).nextTicket = v.nextTicket :=
  ⟨rfl, rfl, rfl, rfl, rfl, rfl, rfl, rfl⟩

@[simp] theorem withoutFlight_frame (ticket : Nat) :
    (v.withoutFlight ticket).display = v.display ∧
    (v.withoutFlight ticket).generation = v.generation ∧
    (v.withoutFlight ticket).alive = v.alive ∧ (v.withoutFlight ticket).toggling = v.toggling ∧
    (v.withoutFlight ticket).poll = v.poll ∧ (v.withoutFlight ticket).recheck = v.recheck ∧
    (v.withoutFlight ticket).now = v.now ∧
    (v.withoutFlight ticket).nextTicket = v.nextTicket :=
  ⟨rfl, rfl, rfl, rfl, rfl, rfl, rfl, rfl⟩

@[simp] theorem stopPoll_frame :
    v.stopPoll.display = v.display ∧ v.stopPoll.generation = v.generation ∧
    v.stopPoll.alive = v.alive ∧ v.stopPoll.toggling = v.toggling ∧
    v.stopPoll.poll = .idle ∧ v.stopPoll.recheck = v.recheck ∧
    v.stopPoll.now = v.now ∧ v.stopPoll.nextTicket = v.nextTicket :=
  ⟨rfl, rfl, rfl, rfl, rfl, rfl, rfl, rfl⟩

@[simp] theorem ensurePoll_frame :
    (v.ensurePoll setup).display = v.display ∧ (v.ensurePoll setup).generation = v.generation ∧
    (v.ensurePoll setup).alive = v.alive ∧ (v.ensurePoll setup).toggling = v.toggling ∧
    (v.ensurePoll setup).recheck = v.recheck ∧ (v.ensurePoll setup).now = v.now ∧
    (v.ensurePoll setup).nextTicket = v.nextTicket ∧
    (v.ensurePoll setup).flights = v.flights := by
  unfold ensurePoll
  split <;> exact ⟨rfl, rfl, rfl, rfl, rfl, rfl, rfl, rfl⟩

@[simp] theorem syncPoll_frame (s : FollowStatus) :
    (v.syncPoll setup s).display = v.display ∧
    (v.syncPoll setup s).generation = v.generation ∧ (v.syncPoll setup s).alive = v.alive ∧
    (v.syncPoll setup s).toggling = v.toggling ∧ (v.syncPoll setup s).recheck = v.recheck ∧
    (v.syncPoll setup s).now = v.now ∧
    (v.syncPoll setup s).nextTicket = v.nextTicket := by
  unfold syncPoll
  split <;> simp

@[simp] theorem cancelRecheck_frame :
    v.cancelRecheck.display = v.display ∧ v.cancelRecheck.generation = v.generation ∧
    v.cancelRecheck.alive = v.alive ∧ v.cancelRecheck.toggling = v.toggling ∧
    v.cancelRecheck.poll = v.poll ∧ v.cancelRecheck.recheck = none ∧
    v.cancelRecheck.now = v.now ∧ v.cancelRecheck.nextTicket = v.nextTicket :=
  ⟨rfl, rfl, rfl, rfl, rfl, rfl, rfl, rfl⟩

@[simp] theorem scheduleRecheck_frame :
    (v.scheduleRecheck setup).display = v.display ∧
    (v.scheduleRecheck setup).generation = v.generation ∧
    (v.scheduleRecheck setup).alive = v.alive ∧
    (v.scheduleRecheck setup).toggling = v.toggling ∧ (v.scheduleRecheck setup).poll = v.poll ∧
    (v.scheduleRecheck setup).nextTicket = v.nextTicket :=
  ⟨rfl, rfl, rfl, rfl, rfl, rfl⟩

@[simp] theorem teardown_frame :
    v.teardown.display = v.display ∧ v.teardown.generation = v.generation ∧
    v.teardown.alive = false ∧ v.teardown.toggling = v.toggling ∧ v.teardown.poll = .idle ∧
    v.teardown.recheck = none ∧ v.teardown.nextTicket = v.nextTicket :=
  ⟨rfl, rfl, rfl, rfl, rfl, rfl, rfl⟩

/-! ### Calls and returns -/

@[simp] theorem issue_frame (f : Flight) :
    (v.issue setup f).1.display = v.display ∧ (v.issue setup f).1.generation = v.generation ∧
    (v.issue setup f).1.alive = v.alive ∧ (v.issue setup f).1.toggling = v.toggling ∧
    (v.issue setup f).1.poll = v.poll ∧ (v.issue setup f).1.recheck = v.recheck :=
  ⟨rfl, rfl, rfl, rfl, rfl, rfl⟩

@[simp] theorem issueAll_frame (v : View) (fs : List Flight) :
    (issueAll setup v fs).1.display = v.display ∧
    (issueAll setup v fs).1.generation = v.generation ∧
    (issueAll setup v fs).1.alive = v.alive ∧ (issueAll setup v fs).1.toggling = v.toggling ∧
    (issueAll setup v fs).1.poll = v.poll ∧ (issueAll setup v fs).1.recheck = v.recheck := by
  induction fs generalizing v with
  | nil => exact ⟨rfl, rfl, rfl, rfl, rfl, rfl⟩
  | cons f fs ih => exact ih (v.issue setup f).1

@[simp] theorem returnTo_fst (caller : Nat) (r : Option ToggleResult) :
    (v.returnTo caller r).1 = v := rfl

/-! ### Status reads -/

/-- The actor whose status can be read: the displayed one, if there is a core to ask. -/
def readTarget? : Option String := if v.alive && setup.hasControl then v.display.actorId else none

/-- A status read is issued exactly if it has a target. -/
theorem readStatus_eq (after : AfterRead) :
    v.readStatus setup after = match v.readTarget? setup with
      | some who => v.issue setup (.status who v.display.relationship.epoch after)
      | none => v.afterRead setup after := by
  unfold readStatus readTarget? Display.actorId
  cases v.display.profile with
  | none => cases v.alive && setup.hasControl <;> rfl
  | some p => cases v.alive && setup.hasControl <;> rfl

theorem readTarget?_eq_some {who : String} : v.readTarget? setup = some who ↔
    v.alive = true ∧ setup.hasControl = true ∧ v.display.actorId = some who := by
  unfold readTarget?
  split <;> simp_all

/-- A status read that has a target is in the air afterwards. -/
theorem mem_readStatus {who : String} (h : v.readTarget? setup = some who) (after : AfterRead) :
    (v.nextTicket, Flight.status who v.display.relationship.epoch after) ∈
      (v.readStatus setup after).1.flights := by
  rw [readStatus_eq, h]
  exact List.mem_append_right _ (List.mem_singleton.2 rfl)

@[simp] theorem afterRead_frame (after : AfterRead) :
    (v.afterRead setup after).1.display = v.display ∧
    (v.afterRead setup after).1.generation = v.generation ∧
    (v.afterRead setup after).1.alive = v.alive := by
  cases after <;> simp [afterRead]

@[simp] theorem readStatus_frame (after : AfterRead) :
    (v.readStatus setup after).1.display = v.display ∧
    (v.readStatus setup after).1.generation = v.generation ∧
    (v.readStatus setup after).1.alive = v.alive := by
  rw [readStatus_eq]
  split <;> simp

@[simp] theorem closeResolution_frame (caller generation : Nat) :
    (v.closeResolution setup caller generation).1.display = v.display ∧
    (v.closeResolution setup caller generation).1.generation = v.generation ∧
    (v.closeResolution setup caller generation).1.alive = v.alive := by
  unfold closeResolution
  split
  · simp
  · split <;> simp

/-- The view with another relationship. -/
def withRelationship (r : Relationship) : View :=
  { v with display := { v.display with relationship := r } }

@[simp] theorem withRelationship_frame (r : Relationship) :
    (v.withRelationship r).display.profile = v.display.profile ∧
    (v.withRelationship r).display.actorId = v.display.actorId ∧
    (v.withRelationship r).display.relationship = r ∧
    (v.withRelationship r).generation = v.generation ∧
    (v.withRelationship r).alive = v.alive ∧ (v.withRelationship r).toggling = v.toggling ∧
    (v.withRelationship r).poll = v.poll ∧ (v.withRelationship r).recheck = v.recheck ∧
    (v.withRelationship r).nextTicket = v.nextTicket ∧
    (v.withRelationship r).flights = v.flights :=
  ⟨rfl, rfl, rfl, rfl, rfl, rfl, rfl, rfl, rfl, rfl⟩

/-- A status read counts only if it succeeded and its actor is displayed by a view that lives. -/
theorem landStatus_eq (who : String) (epoch : Nat) (r : Except Failure FollowStatus) :
    v.landStatus setup who epoch r = match r with
      | .ok s => if v.alive && v.display.actorId = some who then
          (v.withRelationship (v.display.relationship.report epoch s)).syncPoll setup
            (v.display.relationship.report epoch s).status
        else v
      | .error _ => v := by
  cases r <;> rfl

@[simp] theorem landStatus_frame (who : String) (epoch : Nat) (r : Except Failure FollowStatus) :
    (v.landStatus setup who epoch r).display.profile = v.display.profile ∧
    (v.landStatus setup who epoch r).generation = v.generation ∧
    (v.landStatus setup who epoch r).alive = v.alive ∧
    (v.landStatus setup who epoch r).toggling = v.toggling ∧
    (v.landStatus setup who epoch r).recheck = v.recheck ∧
    (v.landStatus setup who epoch r).now = v.now ∧
    (v.landStatus setup who epoch r).nextTicket = v.nextTicket := by
  rw [landStatus_eq]
  split
  · split
    · simp [withRelationship]
    · simp
  · simp

@[simp] theorem landRead_frame (who : String) (epoch : Nat) (after : AfterRead)
    (r : Except Failure FollowStatus) :
    (v.landRead setup who epoch after r).1.display =
      (v.landStatus setup who epoch r).display ∧
    (v.landRead setup who epoch after r).1.generation = v.generation ∧
    (v.landRead setup who epoch after r).1.alive = v.alive := by
  simp only [landRead]
  split <;> simp

/-! ### Resolutions -/

@[simp] theorem failResolution_frame (message : String) :
    (v.failResolution message).generation = v.generation ∧
    (v.failResolution message).alive = v.alive ∧
    (v.failResolution message).toggling = v.toggling ∧
    (v.failResolution message).display.profile = v.display.profile ∧
    (v.failResolution message).display.relationship = v.display.relationship :=
  ⟨rfl, rfl, rfl, rfl, rfl⟩

@[simp] theorem install_frame (p : Profile) :
    (v.install p).generation = v.generation ∧ (v.install p).alive = v.alive ∧
    (v.install p).toggling = v.toggling ∧ (v.install p).display.profile = some p ∧
    (v.install p).nextTicket = v.nextTicket := by
  by_cases h : v.display.actorId = some p.id
  · simp [install, h]
  · simp [install, h]

theorem install_relationship (p : Profile) :
    (v.install p).display.relationship = if v.display.actorId = some p.id then
      v.display.relationship else v.display.relationship.force .none := by
  by_cases h : v.display.actorId = some p.id
  · simp [install, h]
  · simp [install, h]

@[simp] theorem landCount_frame (generation : Nat) (which : Collection)
    (r : Except Failure Nat) :
    (v.landCount generation which r).generation = v.generation ∧
    (v.landCount generation which r).alive = v.alive ∧
    (v.landCount generation which r).toggling = v.toggling ∧
    (v.landCount generation which r).display.profile = v.display.profile ∧
    (v.landCount generation which r).display.relationship = v.display.relationship ∧
    (v.landCount generation which r).nextTicket = v.nextTicket ∧
    (v.landCount generation which r).flights = v.flights ∧
    (v.landCount generation which r).poll = v.poll ∧
    (v.landCount generation which r).recheck = v.recheck := by
  unfold landCount
  split
  · split
    · cases which <;> exact ⟨rfl, rfl, rfl, rfl, rfl, rfl, rfl, rfl, rfl⟩
    · exact ⟨rfl, rfl, rfl, rfl, rfl, rfl, rfl, rfl, rfl⟩
  · exact ⟨rfl, rfl, rfl, rfl, rfl, rfl, rfl, rfl, rfl⟩

@[simp] theorem landOutbox_frame (generation : Nat) (r : Except Failure (List Activity)) :
    (v.landOutbox generation r).generation = v.generation ∧
    (v.landOutbox generation r).alive = v.alive ∧
    (v.landOutbox generation r).toggling = v.toggling ∧
    (v.landOutbox generation r).display.profile = v.display.profile ∧
    (v.landOutbox generation r).display.relationship = v.display.relationship ∧
    (v.landOutbox generation r).nextTicket = v.nextTicket ∧
    (v.landOutbox generation r).flights = v.flights ∧
    (v.landOutbox generation r).poll = v.poll ∧
    (v.landOutbox generation r).recheck = v.recheck := by
  unfold landOutbox
  split
  · split <;> exact ⟨rfl, rfl, rfl, rfl, rfl, rfl, rfl, rfl, rfl⟩
  · exact ⟨rfl, rfl, rfl, rfl, rfl, rfl, rfl, rfl, rfl⟩

theorem isCurrent_iff {generation : Nat} :
    v.isCurrent generation = true ↔ v.alive = true ∧ v.generation = generation := by
  simp [isCurrent]

/-- An actor that arrives counts for the current resolution only. -/
theorem landActor_eq (caller generation : Nat) (url : String)
    (r : Except Failure (Option Profile)) :
    v.landActor setup caller generation url r =
      if v.isCurrent generation then
        match required url r with
        | .ok p => ((v.install p).issueAll setup (loads caller generation p)).andThen fun v =>
            v.closeResolution setup caller generation
        | .error f => (v.failResolution f.message).returnTo caller none
      else v.returnTo caller none := by
  unfold landActor
  split
  · cases required url r <;> rfl
  · rfl

/-! ### Resolutions that are no longer current -/

section Stale

variable {generation : Nat} (h : v.isCurrent generation = false)
include h

theorem landActor_of_stale (caller : Nat) (url : String) (r : Except Failure (Option Profile)) :
    v.landActor setup caller generation url r = v.returnTo caller none := by
  simp [landActor, h]

theorem landCount_of_stale (which : Collection) (r : Except Failure Nat) :
    v.landCount generation which r = v := by
  simp only [landCount, h]
  split <;> rfl

theorem landOutbox_of_stale (r : Except Failure (List Activity)) :
    v.landOutbox generation r = v := by
  simp [landOutbox, h]

theorem closeResolution_of_stale (caller : Nat) :
    v.closeResolution setup caller generation = (v, []) ∨
    v.closeResolution setup caller generation = v.returnTo caller none := by
  unfold closeResolution
  split
  · exact .inl rfl
  · exact .inr (by simp [h])

end Stale

/-! ### Toggles -/

/-- The view once the request of a toggle has failed: the status before it is back. -/
def reverted (prior : FollowStatus) (message : String) : View :=
  { v with display := { v.display with
      relationship := v.display.relationship.force prior
      error := some message } }

@[simp] theorem reverted_frame (prior : FollowStatus) (message : String) :
    (v.reverted prior message).display.profile = v.display.profile ∧
    (v.reverted prior message).display.actorId = v.display.actorId ∧
    (v.reverted prior message).display.relationship = v.display.relationship.force prior ∧
    (v.reverted prior message).generation = v.generation ∧
    (v.reverted prior message).alive = v.alive ∧
    (v.reverted prior message).toggling = v.toggling ∧
    (v.reverted prior message).nextTicket = v.nextTicket ∧
    (v.reverted prior message).flights = v.flights :=
  ⟨rfl, rfl, rfl, rfl, rfl, rfl, rfl, rfl⟩

/-- An answered request counts while its actor is displayed by a view that lives. It is followed
by a status read in any case. -/
theorem landRequest_eq (caller : Nat) (who : String) (prior optimistic : FollowStatus)
    (r : Except Failure Unit) :
    v.landRequest setup caller who prior optimistic r =
      if v.alive && v.display.actorId = some who then
        match r with
        | .ok _ => ((v.withRelationship (v.display.relationship.force optimistic)).syncPoll setup
            optimistic).readStatus setup (.confirms caller)
        | .error f => ((v.reverted prior f.message).syncPoll setup prior).readStatus setup
            (.reverts caller f.message)
      else { v with toggling := false }.returnTo caller (some .skipped) := by
  unfold landRequest
  split
  · cases r with
    | ok u => rfl
    | error f => cases prior <;> rfl
  · rfl

/-! ### The mark of loading and the message -/

/-- From `v` to `v'` the mark of loading and the message stay as they are. -/
def SameMarks (v v' : View) : Prop :=
  v'.display.loading = v.display.loading ∧ v'.display.error = v.display.error

theorem landStatus_marks (who : String) (epoch : Nat) (r : Except Failure FollowStatus) :
    SameMarks v (v.landStatus setup who epoch r) := by
  rw [landStatus_eq]
  cases r with
  | error f => exact ⟨rfl, rfl⟩
  | ok s =>
    dsimp only
    split
    · rw [SameMarks, (syncPoll_frame setup _ _).1]
      exact ⟨rfl, rfl⟩
    · exact ⟨rfl, rfl⟩

theorem landCount_marks (generation : Nat) (which : Collection) (r : Except Failure Nat) :
    SameMarks v (v.landCount generation which r) := by
  unfold landCount
  split
  · split
    · cases which <;> exact ⟨rfl, rfl⟩
    · exact ⟨rfl, rfl⟩
  · exact ⟨rfl, rfl⟩

theorem landOutbox_marks (generation : Nat) (r : Except Failure (List Activity)) :
    SameMarks v (v.landOutbox generation r) := by
  unfold landOutbox
  split
  · split <;> exact ⟨rfl, rfl⟩
  · exact ⟨rfl, rfl⟩

end Parts

end FollowClient.View
