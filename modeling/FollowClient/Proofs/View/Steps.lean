import FollowClient.Proofs.View.Calls

/-!
The calls of a whole step. `step_calls` says which flights a step leaves in the air, what those that
it issues hold about the view, and how the flag of a toggle moves with the flights of toggles.
-/

namespace FollowClient.View

/-! ### What a flight holds when it is issued -/

/-- Where a profile names the members of a collection. -/
def Collection.urlOf (p : Profile) : Collection → String
  | .followers => p.followers
  | .following => p.following

/-- What a flight that a step from `v` to `v'` has issued holds. -/
def Issued (setup : Setup) (v v' : View) : Flight → Prop
  | .actor _ generation _ =>
    v'.alive = true ∧ v'.generation = v.generation + 1 ∧ generation = v'.generation
  | .count _ generation which url => v'.alive = true ∧ generation = v'.generation ∧
    ∃ p, v'.display.profile = some p ∧ url = which.urlOf p ∧ url.isEmpty = false
  | .outbox _ generation url => v'.alive = true ∧ generation = v'.generation ∧
    ∃ p, v'.display.profile = some p ∧ url = p.outbox ∧ url.isEmpty = false
  | .status who epoch _ => v'.alive = true ∧ setup.hasControl = true ∧
    v'.display.actorId = some who ∧ epoch = v'.display.relationship.epoch
  | .request _ who prior optimistic => v'.alive = true ∧ setup.hasControl = true ∧
    v.display.actorId = some who ∧ v.toggling = false ∧
    prior = v.display.relationship.status ∧ optimistic = Relationship.toggled prior ∧
    v'.display.relationship = v.display.relationship.toggle

/-- The landing ends the request of a toggle or the status read after it. -/
def Landing.ofToggle : Landing → Bool
  | .request .. => true
  | .status _ _ after _ => after.ofToggle
  | _ => false

/-- The event lands a flight of a toggle. -/
def landsToggle (v : View) (e : Event) : Bool := (v.landing? e).any Landing.ofToggle

/-- The view without the flight that an event lands. -/
def spared (v : View) (e : Event) : View := { v with flights := v.others e }

/-- The flights `fs` are those that a step issues. -/
structure StepCalls (setup : Setup) (v : View) (e : Event) (fs : List Flight) : Prop where
  makes : Makes setup (v.spared e) (v.step setup e) fs
  issued : ∀ f ∈ fs, Issued setup v (v.step setup e).1 f
  toggling : (v.landsToggle e = true → v.toggling = true) →
    (v.step setup e).1.toggling.toNat + (v.landsToggle e).toNat =
      v.toggling.toNat + fs.countP Flight.ofToggle

section Cases

variable {setup : Setup} {v : View} {e : Event}

theorem spared_of_landing?_eq_none (h : v.landing? e = none) : v.spared e = v := by
  simp [spared, others, h]

theorem landsToggle_of_landing?_eq_none (h : v.landing? e = none) : v.landsToggle e = false := by
  simp [landsToggle, h]

theorem stepCalls_of_silent (hp : Prunes (v.spared e) (v.step setup e).1)
    (hc : callsOf (v.step setup e).2 = []) (ht : (v.step setup e).1.toggling = v.toggling)
    (hl : v.landsToggle e = false) : StepCalls setup v e [] :=
  ⟨hp.makes hc, by simp, fun _ => by simp [ht, hl]⟩

/-- A step that ends with a status read, or with what follows one. -/
theorem stepCalls_of_reads {v₀ : View} {after : AfterRead} {fs : List Flight}
    (hp : Prunes (v.spared e) v₀) (hr : Reads setup v₀ after (v.step setup e) fs)
    (hd : (v.step setup e).1.display = v₀.display) (ha : (v.step setup e).1.alive = v₀.alive)
    (ht : v₀.toggling = v.toggling) (hl : v.landsToggle e = after.ofToggle) :
    StepCalls setup v e fs := by
  refine ⟨hp.makes_trans hr.makes, ?_, fun owed => ?_⟩
  · intro f hf
    obtain ⟨who, hw, rfl⟩ := hr.reads f hf
    obtain ⟨h1, h2, h3⟩ := (v₀.readTarget?_eq_some setup).1 hw
    exact ⟨ha.trans h1, h2, by rw [hd]; exact h3, by rw [hd]⟩
  · rw [hr.countP]
    cases hk : after.ofToggle with
    | false => simp [hl, hk, hr.free hk, ht]
    | true =>
      have hv : v.toggling = true := owed (hl.trans hk)
      have := hr.owed hk (ht.trans hv)
      simp only [hl, hk, hv, this, if_true, Bool.toNat_true]
      omega

end Cases

/-! ### Landings -/

section Landed

variable {setup : Setup} {v : View} {ticket : Nat} {a : Answer}

/-- The view in which a landing takes effect. -/
def cleared (v : View) (ticket : Nat) (a : Answer) : View :=
  (v.giveUpLastTick (.answered ticket a)).withoutFlight ticket

@[simp] theorem cleared_frame (v : View) (ticket : Nat) (a : Answer) :
    (v.cleared ticket a).display = v.display ∧ (v.cleared ticket a).generation = v.generation ∧
    (v.cleared ticket a).alive = v.alive ∧ (v.cleared ticket a).toggling = v.toggling ∧
    (v.cleared ticket a).poll = v.poll ∧ (v.cleared ticket a).recheck = v.recheck ∧
    (v.cleared ticket a).now = v.now ∧ (v.cleared ticket a).nextTicket = v.nextTicket :=
  ⟨rfl, rfl, rfl, rfl, rfl, rfl, rfl, rfl⟩

theorem step_of_landing {l : Landing} (h : v.landing? (.answered ticket a) = some l) :
    v.step setup (.answered ticket a) = l.effect setup (v.cleared ticket a) := by
  rw [step_answered, h]
  rfl

theorem cleared_prunes {l : Landing} (h : v.landing? (.answered ticket a) = some l) :
    Prunes (v.spared (.answered ticket a)) (v.cleared ticket a) := by
  have hs : (v.spared (.answered ticket a)).flights =
      v.flights.filter fun x => !(Event.answered ticket a).answers x.1 := by
    simp [spared, others, h]
  refine prunes_of_filter (p := fun x => !x.2.isLastTick || (Event.answered ticket a).answers x.1)
    rfl ?_ fun x hx => ?_
  · rw [hs]
    simp only [cleared, withoutFlight, giveUpLastTick, List.filter_filter]
    refine List.filter_congr fun x _ => ?_
    by_cases hx : x.1 = ticket
    · simp [Event.answers, hx]
    · simp [Event.answers, hx, Ne.symm hx]
  · simp only [Flight.isLasting, Bool.not_eq_true', Bool.or_eq_false_iff] at hx
    simp [hx]

theorem landsToggle_of_landing {l : Landing} (h : v.landing? (.answered ticket a) = some l) :
    v.landsToggle (.answered ticket a) = l.ofToggle := by
  simp [landsToggle, h]

theorem mem_loads {caller generation : Nat} {p : Profile} {f : Flight}
    (h : f ∈ loads caller generation p) :
    (∃ which, f = .count caller generation which (which.urlOf p) ∧
      (which.urlOf p).isEmpty = false) ∨
    (f = .outbox caller generation p.outbox ∧ p.outbox.isEmpty = false) := by
  simp only [loads, List.mem_append] at h
  rcases h with (h | h) | h
  · split at h
    · simp at h
    · next he => exact .inl ⟨.followers, List.mem_singleton.1 h, Bool.not_eq_true _ ▸ he⟩
  · split at h
    · simp at h
    · next he => exact .inl ⟨.following, List.mem_singleton.1 h, Bool.not_eq_true _ ▸ he⟩
  · split at h
    · simp at h
    · next he => exact .inr ⟨List.mem_singleton.1 h, Bool.not_eq_true _ ▸ he⟩

theorem stepCalls_actor {caller generation : Nat} {url : String}
    {r : Except Failure (Option Profile)}
    (h : v.landing? (.answered ticket a) = some (.actor caller generation url r)) :
    ∃ fs, StepCalls setup v (.answered ticket a) fs := by
  have hp := cleared_prunes h
  have hl : v.landsToggle (.answered ticket a) = false := landsToggle_of_landing h
  have hs : v.step setup (.answered ticket a) =
      (v.cleared ticket a).landActor setup caller generation url r := step_of_landing h
  rw [landActor_eq] at hs
  split at hs
  · next hc =>
    split at hs
    · next p hr =>
      obtain ⟨ha, hg⟩ := ((v.cleared ticket a).isCurrent_iff).1 hc
      have hm := issueAll_makes setup ((v.cleared ticket a).install p)
        (loads caller generation p)
      obtain ⟨gs, hgs⟩ := closeResolution_reads setup
        ((((v.cleared ticket a).install p).issueAll setup (loads caller generation p)).1)
        caller generation
      refine ⟨loads caller generation p ++ gs,
        hs ▸ (hp.trans (install_prunes _ p)).makes_trans (hm.andThen hgs.makes), ?_, fun _ => ?_⟩
      · have hd : (v.step setup (.answered ticket a)).1.display =
            ((v.cleared ticket a).install p).display := by rw [hs]; simp [Effect.andThen]
        have ha' : (v.step setup (.answered ticket a)).1.alive = true := by
          rw [hs]; simpa [Effect.andThen] using ha
        have hg' : (v.step setup (.answered ticket a)).1.generation = generation := by
          rw [hs]; simpa [Effect.andThen] using hg
        have hq : (v.step setup (.answered ticket a)).1.display.profile = some p := by
          rw [hd]; simp
        intro f hf
        rcases List.mem_append.1 hf with hf | hf
        · rcases mem_loads hf with ⟨which, rfl, hu⟩ | ⟨rfl, hu⟩
          · exact ⟨ha', hg'.symm, p, hq, rfl, hu⟩
          · exact ⟨ha', hg'.symm, p, hq, rfl, hu⟩
        · obtain ⟨who, hw, rfl⟩ := hgs.reads f hf
          obtain ⟨-, h2, h3⟩ := (readTarget?_eq_some setup _).1 hw
          simp only [issueAll_frame] at h3
          refine ⟨ha', h2, by rw [hd]; exact h3, ?_⟩
          rw [hd]
          simp
      · have hk : (loads caller generation p).countP Flight.ofToggle = 0 := by
          refine List.countP_eq_zero.2 fun f hf => ?_
          rcases mem_loads hf with ⟨which, rfl, -⟩ | ⟨rfl, -⟩ <;> simp [Flight.ofToggle]
        have ht : (v.step setup (.answered ticket a)).1.toggling = v.toggling := by
          rw [hs, Effect.andThen, hgs.free rfl]
          simp
        rw [List.countP_append, hk, hgs.countP, hl, ht]
        simp [AfterRead.ofToggle]
    · exact ⟨[], stepCalls_of_silent (hs ▸ hp.trans (prunes_of_eq rfl rfl)) (by rw [hs]; rfl)
        (by rw [hs]; rfl) hl⟩
  · exact ⟨[], stepCalls_of_silent (hs ▸ hp) (by rw [hs]; rfl) (by rw [hs]; rfl) hl⟩

theorem stepCalls_count {caller generation : Nat} {which : Collection} {r : Except Failure Nat}
    (h : v.landing? (.answered ticket a) = some (.count caller generation which r)) :
    ∃ fs, StepCalls setup v (.answered ticket a) fs := by
  have hs : v.step setup (.answered ticket a) =
      ((v.cleared ticket a).landCount generation which r).closeResolution setup caller generation :=
    step_of_landing h
  obtain ⟨fs, hr⟩ := closeResolution_reads setup
    ((v.cleared ticket a).landCount generation which r) caller generation
  rw [← hs] at hr
  exact ⟨fs, stepCalls_of_reads ((cleared_prunes h).trans (prunes_of_eq (by simp) (by simp))) hr
    (by simp [hs]) (by simp [hs]) (by simp) (landsToggle_of_landing h)⟩

theorem stepCalls_outbox {caller generation : Nat} {r : Except Failure (List Activity)}
    (h : v.landing? (.answered ticket a) = some (.outbox caller generation r)) :
    ∃ fs, StepCalls setup v (.answered ticket a) fs := by
  have hs : v.step setup (.answered ticket a) =
      ((v.cleared ticket a).landOutbox generation r).closeResolution setup caller generation :=
    step_of_landing h
  obtain ⟨fs, hr⟩ := closeResolution_reads setup
    ((v.cleared ticket a).landOutbox generation r) caller generation
  rw [← hs] at hr
  exact ⟨fs, stepCalls_of_reads ((cleared_prunes h).trans (prunes_of_eq (by simp) (by simp))) hr
    (by simp [hs]) (by simp [hs]) (by simp) (landsToggle_of_landing h)⟩

theorem stepCalls_status {who : String} {epoch : Nat} {after : AfterRead}
    {r : Except Failure FollowStatus}
    (h : v.landing? (.answered ticket a) = some (.status who epoch after r)) :
    ∃ fs, StepCalls setup v (.answered ticket a) fs := by
  have hp := (cleared_prunes h).trans (landStatus_prunes setup _ who epoch r)
  have hs : v.step setup (.answered ticket a) =
      (v.cleared ticket a).landRead setup who epoch after r := step_of_landing h
  have hl : v.landsToggle (.answered ticket a) = after.ofToggle := landsToggle_of_landing h
  simp only [landRead] at hs
  split at hs
  · next ho =>
    have ht : after = .tick := by simp only [Bool.and_eq_true, decide_eq_true_eq] at ho; exact ho.1
    obtain ⟨fs, hr⟩ := readStatus_reads setup
      ((v.cleared ticket a).landStatus setup who epoch r) .lastTick
    rw [← hs] at hr
    exact ⟨fs, stepCalls_of_reads hp hr (by simp [hs]) (by simp [hs]) (by simp)
      (by rw [hl, ht]; rfl)⟩
  · have hr := afterRead_reads setup
      ((v.cleared ticket a).landStatus setup who epoch r) after
    rw [← hs] at hr
    exact ⟨[], stepCalls_of_reads hp hr (by simp [hs]) (by simp [hs]) (by simp) hl⟩

theorem stepCalls_request {caller : Nat} {who : String} {prior optimistic : FollowStatus}
    {r : Except Failure Unit}
    (h : v.landing? (.answered ticket a) = some (.request caller who prior optimistic r)) :
    ∃ fs, StepCalls setup v (.answered ticket a) fs := by
  have hp := cleared_prunes h
  have hs : v.step setup (.answered ticket a) =
      (v.cleared ticket a).landRequest setup caller who prior optimistic r := step_of_landing h
  have hl : v.landsToggle (.answered ticket a) = true := landsToggle_of_landing h
  rw [landRequest_eq] at hs
  split at hs
  · cases r with
    | ok u =>
      dsimp only at hs
      obtain ⟨fs, hr⟩ := readStatus_reads setup
        (((v.cleared ticket a).withRelationship
          ((v.cleared ticket a).display.relationship.force optimistic)).syncPoll setup optimistic)
        (.confirms caller)
      rw [← hs] at hr
      exact ⟨fs, stepCalls_of_reads ((hp.trans (prunes_of_eq (by simp) (by simp))).trans
        (syncPoll_prunes setup _ _)) hr (by simp [hs]) (by simp [hs]) (by simp) hl⟩
    | error f =>
      dsimp only at hs
      obtain ⟨fs, hr⟩ := readStatus_reads setup
        (((v.cleared ticket a).reverted prior f.message).syncPoll setup prior)
        (.reverts caller f.message)
      rw [← hs] at hr
      exact ⟨fs, stepCalls_of_reads ((hp.trans (prunes_of_eq (by simp) (by simp))).trans
        (syncPoll_prunes setup _ _)) hr (by simp [hs]) (by simp [hs]) (by simp) hl⟩
  · refine ⟨[], Prunes.makes ?_ (by rw [hs]; rfl), by simp, fun owed => ?_⟩
    · rw [hs]
      exact hp.trans (prunes_of_eq rfl rfl)
    · simp [hs, hl, owed hl]

end Landed

/-! ### All steps -/

section All

variable (setup : Setup) (v : View)

theorem spared_prunes {e : Event} (h : v.landing? e = none) :
    Prunes (v.spared e) (v.giveUpLastTick e) := by
  rw [spared_of_landing?_eq_none h]
  exact giveUpLastTick_prunes v e

theorem stepCalls_resolve (caller : Nat) (url : String) :
    ∃ fs, StepCalls setup v (.resolve caller url) fs := by
  have hp := spared_prunes v (e := .resolve caller url) rfl
  have hs : v.step setup (.resolve caller url) =
      (v.giveUpLastTick (.resolve caller url)).resolve setup caller url := rfl
  simp only [resolve] at hs
  split at hs
  · refine ⟨[], stepCalls_of_silent (hs ▸ hp.trans (prunes_of_eq rfl rfl)) (by rw [hs]; rfl)
      (by rw [hs]; rfl) rfl⟩
  · next ha =>
    split at hs
    · exact ⟨[], stepCalls_of_silent (hs ▸ hp.trans (prunes_of_eq rfl rfl)) (by rw [hs]; rfl)
        (by rw [hs]; rfl) rfl⟩
    · refine ⟨[.actor caller (v.generation + 1) (Text.trim url)], ?_, ?_, fun _ => ?_⟩
      · rw [hs]
        exact (hp.trans (prunes_of_eq (by rfl) (by rfl))).makes_trans (issue_makes setup _ _)
      · intro f hf
        obtain rfl := List.mem_singleton.1 hf
        rw [hs]
        exact ⟨by simpa using ha, rfl, rfl⟩
      · rw [hs]
        rfl

theorem stepCalls_toggle (caller : Nat) : ∃ fs, StepCalls setup v (.toggle caller) fs := by
  have hp := spared_prunes v (e := .toggle caller) rfl
  have hs : v.step setup (.toggle caller) =
      (v.giveUpLastTick (.toggle caller)).toggle setup caller := rfl
  simp only [toggle] at hs
  have silent : v.step setup (.toggle caller) =
      (v.giveUpLastTick (.toggle caller)).returnTo caller (some .skipped) →
      ∃ fs, StepCalls setup v (.toggle caller) fs := fun h =>
    ⟨[], stepCalls_of_silent (h ▸ hp) (by rw [h]; rfl) (by rw [h]; rfl) rfl⟩
  split at hs
  · next p hq =>
    split at hs
    · next hc =>
      simp only [Bool.and_eq_true, Bool.not_eq_true'] at hc
      refine ⟨[.request caller p.id v.display.relationship.status
        v.display.relationship.toggle.status], ?_, ?_, fun _ => ?_⟩
      · rw [hs]
        exact (hp.trans (prunes_of_eq (by rfl) (by rfl))).makes_trans (issue_makes setup _ _)
      · intro f hf
        obtain rfl := List.mem_singleton.1 hf
        rw [hs]
        exact ⟨hc.1.1, hc.1.2, congrArg (Option.map _) hq, hc.2, rfl, rfl, rfl⟩
      · have ht : v.toggling = false := hc.2
        rw [hs, ht]
        rfl
    · exact silent hs
  · exact silent hs

theorem stepCalls_refresh (caller : Nat) : ∃ fs, StepCalls setup v (.refresh caller) fs := by
  obtain ⟨fs, hr⟩ := readStatus_reads setup
    (v.giveUpLastTick (.refresh caller)) (.returns caller)
  exact ⟨fs, stepCalls_of_reads (spared_prunes v rfl) hr
    ((v.giveUpLastTick _).readStatus_frame setup _).1
    ((v.giveUpLastTick _).readStatus_frame setup _).2.2 rfl rfl⟩

theorem stepCalls_pollDue : ∃ fs, StepCalls setup v .pollDue fs := by
  have hp := spared_prunes v (e := .pollDue) rfl
  have hs : v.step setup .pollDue = (v.giveUpLastTick .pollDue).pollDue setup := rfl
  simp only [pollDue] at hs
  split at hs
  · split at hs
    · obtain ⟨fs, hr⟩ := readStatus_reads setup
        ({ v.giveUpLastTick .pollDue with
          poll := (v.giveUpLastTick .pollDue).poll.fire (v.giveUpLastTick .pollDue).now }) .tick
      rw [← hs] at hr
      exact ⟨fs, stepCalls_of_reads (hp.trans (prunes_of_eq (by rfl) (by rfl))) hr (by simp [hs])
        (by simp [hs]) rfl rfl⟩
    · exact ⟨[], stepCalls_of_silent (hs ▸ hp.trans (prunes_of_eq rfl rfl)) (by rw [hs]; rfl)
        (by rw [hs]; rfl) rfl⟩
  · exact ⟨[], stepCalls_of_silent (hs ▸ hp.trans (prunes_of_eq rfl rfl)) (by rw [hs]; rfl)
      (by rw [hs]; rfl) rfl⟩

theorem stepCalls_recheckDue : ∃ fs, StepCalls setup v .recheckDue fs := by
  have hp := spared_prunes v (e := .recheckDue) rfl
  have hs : v.step setup .recheckDue = (v.giveUpLastTick .recheckDue).recheckDue setup := rfl
  simp only [recheckDue] at hs
  split at hs
  · split at hs
    · split at hs
      · obtain ⟨fs, hr⟩ := readStatus_reads setup
          ({ v.giveUpLastTick .recheckDue with recheck := some .reading }) .recheck
        rw [← hs] at hr
        exact ⟨fs, stepCalls_of_reads (hp.trans (prunes_of_eq (by rfl) (by rfl))) hr
          (by simp [hs]) (by simp [hs]) rfl rfl⟩
      · exact ⟨[], stepCalls_of_silent (hs ▸ hp.trans (prunes_of_eq rfl rfl)) (by rw [hs]; rfl)
          (by rw [hs]; rfl) rfl⟩
    · exact ⟨[], stepCalls_of_silent (hs ▸ hp) (by rw [hs]; rfl) (by rw [hs]; rfl) rfl⟩
  · exact ⟨[], stepCalls_of_silent (hs ▸ hp) (by rw [hs]; rfl) (by rw [hs]; rfl) rfl⟩

/-- **The calls of a step.** -/
theorem step_calls (e : Event) : ∃ fs, StepCalls setup v e fs := by
  cases e with
  | resolve caller url => exact stepCalls_resolve setup v caller url
  | refresh caller => exact stepCalls_refresh setup v caller
  | toggle caller => exact stepCalls_toggle setup v caller
  | ensurePoll =>
    exact ⟨[], stepCalls_of_silent ((spared_prunes v rfl).trans (ensurePoll_prunes setup _)) rfl
      ((v.giveUpLastTick _).ensurePoll_frame setup).2.2.2.1 rfl⟩
  | stopPoll =>
    exact ⟨[], stepCalls_of_silent ((spared_prunes v rfl).trans (stopPoll_prunes _)) rfl rfl rfl⟩
  | teardown =>
    exact ⟨[], stepCalls_of_silent ((spared_prunes v rfl).trans (teardown_prunes _)) rfl rfl rfl⟩
  | elapse ms =>
    exact ⟨[], stepCalls_of_silent ((spared_prunes v rfl).trans (prunes_of_eq rfl rfl)) rfl rfl
      rfl⟩
  | pollDue => exact stepCalls_pollDue setup v
  | recheckDue => exact stepCalls_recheckDue setup v
  | answered ticket a =>
    cases hl : v.landing? (.answered ticket a) with
    | none =>
      have hs : v.step setup (.answered ticket a) =
          (v.giveUpLastTick (.answered ticket a), []) := by
        rw [step_answered, hl]
      exact ⟨[], stepCalls_of_silent (hs ▸ spared_prunes v hl) (by rw [hs]; rfl) (by rw [hs]; rfl)
        (landsToggle_of_landing?_eq_none hl)⟩
    | some l =>
      cases l with
      | actor caller generation url r => exact stepCalls_actor hl
      | count caller generation which r => exact stepCalls_count hl
      | outbox caller generation r => exact stepCalls_outbox hl
      | status who epoch after r => exact stepCalls_status hl
      | request caller who prior optimistic r => exact stepCalls_request hl

end All

end FollowClient.View
