import FollowClient.Proofs.View.Steps

/-!
What a step writes. `step_alive`, `step_generation`, `step_profile` and `step_relationship` give one
equation for each part of the view that a status read or a toggle depends on: the relationship
changes by a local write, by a status read that counts, or not at all.
-/

namespace FollowClient.View

/-! ### The writes of a step -/

/-- The event starts a resolution. -/
def Event.isResolve : Event → Bool
  | .resolve .. => true
  | _ => false

/-- The event tears the view down. -/
def Event.isTeardown : Event → Bool
  | .teardown => true
  | _ => false

/-- The profile that a landing installs: that of the newest resolution, in a view that lives. -/
def Landing.installed? (v : View) : Landing → Option Profile
  | .actor _ generation _ (.ok (some p)) => if v.isCurrent generation then some p else none
  | _ => none

/-- The status that is shown when the request of a toggle has been answered. -/
def verdict (prior optimistic : FollowStatus) : Except Failure Unit → FollowStatus
  | .ok _ => optimistic
  | .error _ => prior

/-- The local write of a landing: the end of a request for the displayed actor, or the change to
another actor. -/
def Landing.write? (v : View) : Landing → Option FollowStatus
  | .request _ who prior optimistic r =>
    if v.alive && v.display.actorId = some who then some (verdict prior optimistic r) else none
  | .actor _ generation _ (.ok (some p)) =>
    if v.isCurrent generation && v.display.actorId ≠ some p.id then some .none else none
  | _ => none

/-- The status read of a landing, with its epoch, if its actor is displayed by a view that lives. -/
def Landing.report? (v : View) : Landing → Option (Nat × FollowStatus)
  | .status who epoch _ (.ok s) =>
    if v.alive && v.display.actorId = some who then some (epoch, s) else none
  | _ => none

/-- The toggle can make its request. -/
def canToggle (setup : Setup) (v : View) : Bool :=
  v.alive && setup.hasControl && !v.toggling && v.display.profile.isSome

/-- **The local write of a step**: the start of a toggle, the end of its request, or a change of the
displayed actor. -/
def localWrite? (setup : Setup) (v : View) : Event → Option FollowStatus
  | .toggle _ =>
    if v.canToggle setup then some (Relationship.toggled v.display.relationship.status) else none
  | e => (v.landing? e).bind (Landing.write? v)

/-- The status read that a step applies, with its epoch. -/
def report? (v : View) (e : Event) : Option (Nat × FollowStatus) :=
  (v.landing? e).bind (Landing.report? v)

/-- The profile that a step installs. -/
def installed? (v : View) (e : Event) : Option Profile :=
  (v.landing? e).bind (Landing.installed? v)

/-! ### One equation for each part -/

section Landings

variable (setup : Setup) (v : View)

@[simp] theorem landRequest_frame (caller : Nat) (who : String) (prior optimistic : FollowStatus)
    (r : Except Failure Unit) :
    (v.landRequest setup caller who prior optimistic r).1.generation = v.generation ∧
    (v.landRequest setup caller who prior optimistic r).1.alive = v.alive ∧
    (v.landRequest setup caller who prior optimistic r).1.display.profile =
      v.display.profile := by
  rw [landRequest_eq]
  split
  · cases r <;> simp
  · simp

@[simp] theorem landActor_frame (caller generation : Nat) (url : String)
    (r : Except Failure (Option Profile)) :
    (v.landActor setup caller generation url r).1.generation = v.generation ∧
    (v.landActor setup caller generation url r).1.alive = v.alive := by
  rw [landActor_eq]
  split
  · split <;> simp [Effect.andThen]
  · simp

@[simp] theorem effect_frame (l : Landing) :
    (l.effect setup v).1.generation = v.generation ∧ (l.effect setup v).1.alive = v.alive := by
  cases l <;> simp [Landing.effect]

theorem effect_profile (l : Landing) : (l.effect setup v).1.display.profile =
    (l.installed? v).or v.display.profile := by
  cases l with
  | actor caller generation url r =>
    simp only [Landing.effect, landActor_eq]
    by_cases hc : v.isCurrent generation = true
    · rcases r with f | _ | p
      · simp [hc, Landing.installed?, required]
      · simp [hc, Landing.installed?, required]
      · simp [hc, Landing.installed?, required, Effect.andThen]
    · rcases r with f | _ | p <;> simp [hc, Landing.installed?]
  | _ => simp [Landing.effect, Landing.installed?]

theorem effect_relationship (l : Landing) : (l.effect setup v).1.display.relationship =
    match l.write? v, l.report? v with
    | some s, _ => v.display.relationship.force s
    | none, some (epoch, s) => v.display.relationship.report epoch s
    | none, none => v.display.relationship := by
  cases l with
  | actor caller generation url r =>
    simp only [Landing.effect, landActor_eq]
    by_cases hc : v.isCurrent generation = true
    · rcases r with f | _ | p
      · simp [hc, Landing.write?, Landing.report?, required]
      · simp [hc, Landing.write?, Landing.report?, required]
      · by_cases hi : v.display.actorId = some p.id
        · simp [hc, hi, Landing.write?, Landing.report?, required, Effect.andThen,
            install_relationship]
        · simp [hc, hi, Landing.write?, required, Effect.andThen, install_relationship]
    · rcases r with f | _ | p <;> simp [hc, Landing.write?, Landing.report?]
  | status who epoch after r =>
    simp only [Landing.effect, landRead_frame, landStatus_eq]
    cases r with
    | ok s =>
      by_cases hc : (v.alive && v.display.actorId = some who) = true
      · simp [hc, Landing.write?, Landing.report?]
      · simp [hc, Landing.write?, Landing.report?]
    | error f => simp [Landing.write?, Landing.report?]
  | request caller who prior optimistic r =>
    simp only [Landing.effect, landRequest_eq]
    by_cases hc : (v.alive && v.display.actorId = some who) = true
    · cases r <;> simp [hc, Landing.write?, verdict]
    · simp [hc, Landing.write?, Landing.report?]
  | _ => simp [Landing.effect, Landing.write?, Landing.report?]

end Landings

section Events

variable (setup : Setup) (v : View)

@[simp] theorem resolve_frame (caller : Nat) (url : String) :
    (v.resolve setup caller url).1.generation = v.generation + 1 ∧
    (v.resolve setup caller url).1.alive = v.alive ∧
    (v.resolve setup caller url).1.display.profile = v.display.profile ∧
    (v.resolve setup caller url).1.display.relationship = v.display.relationship := by
  simp only [resolve]
  split
  · simp
  · split <;> simp

@[simp] theorem toggle_frame (caller : Nat) :
    (v.toggle setup caller).1.generation = v.generation ∧
    (v.toggle setup caller).1.alive = v.alive ∧
    (v.toggle setup caller).1.display.profile = v.display.profile := by
  simp only [toggle]
  split
  · split <;> simp
  · simp

theorem toggle_relationship (caller : Nat) :
    (v.toggle setup caller).1.display.relationship =
      if v.canToggle setup then v.display.relationship.toggle else v.display.relationship := by
  simp only [toggle]
  split
  · next p hp =>
    have hc : v.canToggle setup = (v.alive && setup.hasControl && !v.toggling) := by
      simp [canToggle, hp]
    rw [hc]
    split <;> simp
  · next hp => simp [canToggle, hp]

@[simp] theorem pollDue_frame :
    (v.pollDue setup).1.display = v.display ∧ (v.pollDue setup).1.generation = v.generation ∧
    (v.pollDue setup).1.alive = v.alive := by
  simp only [pollDue]
  split
  · split <;> simp
  · simp

@[simp] theorem recheckDue_frame :
    (v.recheckDue setup).1.display = v.display ∧
    (v.recheckDue setup).1.generation = v.generation ∧
    (v.recheckDue setup).1.alive = v.alive := by
  simp only [recheckDue]
  split
  · split
    · split <;> simp
    · simp
  · simp

/-- A view is alive until it is torn down. -/
theorem step_alive (e : Event) : (v.step setup e).1.alive = (v.alive && !e.isTeardown) := by
  cases e with
  | answered ticket a =>
    rw [step_answered]
    split <;> simp [Event.isTeardown]
  | _ => simp [step, react, Event.isTeardown]

theorem alive_of_step {setup : Setup} {v : View} {e : Event}
    (h : (v.step setup e).1.alive = true) : v.alive = true := by
  rw [step_alive, Bool.and_eq_true] at h
  exact h.1

/-- The generation counts the resolutions that were started. -/
theorem step_generation (e : Event) :
    (v.step setup e).1.generation = v.generation + e.isResolve.toNat := by
  cases e with
  | answered ticket a =>
    rw [step_answered]
    split <;> simp [Event.isResolve]
  | _ => simp [step, react, Event.isResolve]

/-- The displayed profile is the one installed last. -/
theorem step_profile (e : Event) :
    (v.step setup e).1.display.profile = (v.installed? e).or v.display.profile := by
  cases e with
  | answered ticket a =>
    rw [step_answered]
    unfold installed?
    split
    · next l hl =>
      rw [effect_profile, hl]
      rfl
    · next hl => simp [hl]
  | _ => simp [step, react, installed?, landing?]

/-- The displayed actor is that of the profile installed last. -/
theorem step_actorId (e : Event) : (v.step setup e).1.display.actorId =
    ((v.installed? e).map (·.id)).or v.display.actorId := by
  unfold Display.actorId
  rw [step_profile]
  cases v.installed? e <;> rfl

/-- The end of a request does not change the displayed actor. -/
theorem step_actorId_of_request {v : View} {e : Event} {caller : Nat} {who : String}
    {prior optimistic : FollowStatus} {r : Except Failure Unit}
    (h : v.landing? e = some (.request caller who prior optimistic r)) :
    (v.step setup e).1.display.actorId = v.display.actorId := by
  rw [step_actorId]
  simp [installed?, h, Landing.installed?]

/-- The relationship changes by a local write, by a status read that counts, or not at all. -/
theorem step_relationship (e : Event) : (v.step setup e).1.display.relationship =
    match v.localWrite? setup e, v.report? e with
    | some s, _ => v.display.relationship.force s
    | none, some (epoch, s) => v.display.relationship.report epoch s
    | none, none => v.display.relationship := by
  cases e with
  | answered ticket a =>
    rw [step_answered]
    simp only [localWrite?, report?]
    cases hl : v.landing? (.answered ticket a) with
    | none => simp
    | some l =>
      rw [effect_relationship]
      rfl
  | toggle caller =>
    simp only [step, react, toggle_relationship, localWrite?, report?, landing?]
    by_cases hc : v.canToggle setup = true
    · have hc' : (v.giveUpLastTick (.toggle caller)).canToggle setup = true := hc
      simp only [hc, hc', if_true]
      rfl
    · have hc' : ¬ (v.giveUpLastTick (.toggle caller)).canToggle setup = true := hc
      simp [hc, hc']
  | _ => simp [step, react, localWrite?, report?, landing?]

end Events

/-! ### Which event writes -/

section Kinds

variable {setup : Setup} {v : View} {e : Event}

/-- A profile is installed by the answer to the newest resolution, in a view that lives. -/
theorem installed?_eq_some {p : Profile} : v.installed? e = some p ↔
    ∃ caller url, v.landing? e = some (.actor caller v.generation url (.ok (some p))) ∧
      v.alive = true := by
  constructor
  · intro h
    obtain ⟨l, hl, hp⟩ := Option.bind_eq_some_iff.1 h
    match l with
    | .actor caller g url (.ok (some q)) =>
      simp only [Landing.installed?, isCurrent, Bool.and_eq_true, decide_eq_true_eq] at hp
      obtain ⟨⟨ha, rfl⟩, hq⟩ : (v.alive = true ∧ v.generation = g) ∧ q = p := by
        simpa using hp
      exact ⟨caller, url, hq ▸ hl, ha⟩
    | .actor _ _ _ (.ok none) | .actor _ _ _ (.error _) | .count .. | .outbox .. | .status ..
    | .request .. => simp [Landing.installed?] at hp
  · rintro ⟨caller, url, hl, ha⟩
    simp [installed?, hl, Landing.installed?, isCurrent, ha]

/-- A profile that is installed is a local write if it is that of another actor. -/
theorem localWrite?_of_installed? {p : Profile} (h : v.installed? e = some p) :
    v.localWrite? setup e = if v.display.actorId = some p.id then none else some .none := by
  obtain ⟨caller, url, hl, ha⟩ := installed?_eq_some.1 h
  obtain ⟨ticket, a, f, rfl, -, -⟩ := landing?_eq_some hl
  simp [localWrite?, hl, Landing.write?, isCurrent, ha]

/-- The three kinds of local writes. -/
theorem localWrite?_eq_some {w : FollowStatus} (h : v.localWrite? setup e = some w) :
    (∃ caller, e = .toggle caller ∧ v.canToggle setup = true) ∨
    (∃ caller who prior optimistic r,
      v.landing? e = some (.request caller who prior optimistic r) ∧ v.alive = true ∧
      v.display.actorId = some who ∧ w = verdict prior optimistic r) ∨
    ∃ p, v.installed? e = some p ∧ v.display.actorId ≠ some p.id ∧ w = .none := by
  have landed : (v.landing? e).bind (Landing.write? v) = some w →
      (∃ caller who prior optimistic r,
        v.landing? e = some (.request caller who prior optimistic r) ∧ v.alive = true ∧
        v.display.actorId = some who ∧ w = verdict prior optimistic r) ∨
      ∃ p, v.installed? e = some p ∧ v.display.actorId ≠ some p.id ∧ w = .none := by
    intro hl
    obtain ⟨l, hl, hw⟩ := Option.bind_eq_some_iff.1 hl
    match l with
    | .request caller who prior optimistic r =>
      obtain ⟨⟨ha, hwho⟩, hv⟩ : (v.alive = true ∧ v.display.actorId = some who) ∧
          verdict prior optimistic r = w := by simpa [Landing.write?] using hw
      exact .inl ⟨caller, who, prior, optimistic, r, hl, ha, hwho, hv.symm⟩
    | .actor caller g url (.ok (some p)) =>
      simp only [Landing.write?, isCurrent, Bool.and_eq_true, decide_eq_true_eq] at hw
      obtain ⟨⟨⟨ha, hg⟩, hne⟩, hv⟩ : ((v.alive = true ∧ v.generation = g) ∧
          v.display.actorId ≠ some p.id) ∧ FollowStatus.none = w := by simpa using hw
      exact .inr ⟨p, installed?_eq_some.2 ⟨caller, url, hg ▸ hl, ha⟩, hne, hv.symm⟩
    | .actor _ _ _ (.ok none) | .actor _ _ _ (.error _) | .count .. | .outbox .. | .status .. =>
      simp [Landing.write?] at hw
  cases e with
  | toggle caller =>
    simp only [localWrite?] at h
    split at h
    · next hc => exact .inl ⟨caller, rfl, hc⟩
    · cases h
  | _ => exact .inr (landed h)

/-- A toggle that can go on shows the status it aims at, and makes its request. -/
theorem step_toggle_eq (h : v.canToggle setup = true) (caller : Nat) :
    ∃ p, v.display.profile = some p ∧ v.step setup (.toggle caller) =
      ({ v.giveUpLastTick (.toggle caller) with
          toggling := true
          display := { v.display with
            relationship := v.display.relationship.toggle, error := none } }).issue setup
        (.request caller p.id v.display.relationship.status
          v.display.relationship.toggle.status) := by
  simp only [canToggle, Bool.and_eq_true, Bool.not_eq_true'] at h
  obtain ⟨⟨⟨ha, hc⟩, ht⟩, hp⟩ := h
  obtain ⟨p, hp⟩ := Option.isSome_iff_exists.1 hp
  refine ⟨p, hp, ?_⟩
  simp only [step, react, toggle, giveUpLastTick, hp, ha, hc, ht]
  rfl

/-- A local write sets the status and starts a new epoch. -/
theorem relationship_of_write {w : FollowStatus} (h : v.localWrite? setup e = some w) :
    (v.step setup e).1.display.relationship = ⟨w, v.display.relationship.epoch + 1⟩ := by
  rw [step_relationship, h]
  rfl

/-- Without a local write the displayed actor stays the same. -/
theorem step_actorId_of_localWrite?_eq_none (h : v.localWrite? setup e = none) :
    (v.step setup e).1.display.actorId = v.display.actorId := by
  rw [step_actorId]
  cases hi : v.installed? e with
  | none => rfl
  | some p =>
    rw [localWrite?_of_installed? hi] at h
    split at h
    · next hp => simp [hp]
    · cases h

/-- The status read that a step applies is one for the displayed actor. -/
theorem report?_eq_some {epoch : Nat} {s : FollowStatus} :
    v.report? e = some (epoch, s) ↔ ∃ who after,
      v.landing? e = some (.status who epoch after (.ok s)) ∧ v.alive = true ∧
      v.display.actorId = some who := by
  constructor
  · intro h
    obtain ⟨l, hl, hr⟩ := Option.bind_eq_some_iff.1 h
    match l with
    | .status who epoch' after (.ok s') =>
      obtain ⟨⟨ha, hw⟩, rfl, rfl⟩ : (v.alive = true ∧ v.display.actorId = some who) ∧
          epoch' = epoch ∧ s' = s := by
        simpa [Landing.report?] using hr
      exact ⟨who, after, hl, ha, hw⟩
    | .status _ _ _ (.error _) | .actor .. | .count .. | .outbox .. | .request .. =>
      simp [Landing.report?] at hr
  · rintro ⟨who, after, hl, ha, hw⟩
    simp [report?, hl, Landing.report?, ha, hw]

/-- Without a local write, only a read of the present epoch changes the relationship. -/
theorem relationship_of_stale (hw : v.localWrite? setup e = none)
    (hr : ∀ who after r, v.landing? e ≠
      some (.status who v.display.relationship.epoch after r)) :
    (v.step setup e).1.display.relationship = v.display.relationship := by
  rw [step_relationship, hw]
  cases h : v.report? e with
  | none => rfl
  | some x =>
    obtain ⟨who, after, hl, -, -⟩ := report?_eq_some.1 h
    have hne : x.1 ≠ v.display.relationship.epoch := fun he => hr _ _ _ (he ▸ hl)
    exact Relationship.report_of_not_accepts (by simp [Relationship.accepts, hne])

end Kinds

end FollowClient.View
