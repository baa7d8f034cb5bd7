import FollowClient.Proofs.View.Outbox

/-!
The sizes and the outbox belong to the displayed actor. A size outlives a new resolution of the same
actor, so it is told from all profiles that were installed with no other actor displayed since; the
outbox is that of the displayed profile alone. `parts_belong` is the statement for every run.
-/

namespace FollowClient.View

/-! ### Sizes -/

/-- The profiles of an actor that were installed with no other actor displayed since, each with the
number of its resolution, the latest first. -/
def reign (who : String) (log : List Entry) : List (Nat × Profile) :=
  (wins log).takeWhile fun x => x.2.id = who

theorem mem_reign_of_head? {log : List Entry} {n : Nat} {p : Profile}
    (h : (wins log).head? = some (n, p)) : (n, p) ∈ reign p.id log := by
  obtain ⟨older, hw⟩ := List.head?_eq_some_iff.1 h
  rw [reign, hw, List.takeWhile_cons_of_pos (by simp)]
  exact List.mem_cons_self

/-- A size was fetched for such a profile, by the resolution that has installed it. -/
def CountedFor (log : List Entry) (who : String) (which : Collection) (n : Nat) : Prop :=
  ∃ g q ticket caller, (g, q) ∈ reign who log ∧
    CalledBy log g ticket (.count (which.urlOf q)) ∧
    .landed ticket (.count caller g which (.ok n)) ∈ log

/-- Each size that is displayed was fetched for the displayed actor. -/
def Counted (s : Logged) : Prop := ∀ which n, s.view.display.size which = some n →
  ∃ who, s.view.display.actorId = some who ∧ CountedFor s.log who which n

theorem counted_start : Counted .start := by
  intro which n h
  cases which <;> cases h

section Step

variable {setup : Setup} {s : Logged} {e : Event}

theorem CountedFor.step {who : String} {which : Collection} {n : Nat}
    (h : CountedFor s.log who which n)
    (hr : ∀ x ∈ reign who s.log, x ∈ reign who (s.step setup e).log) :
    CountedFor (s.step setup e).log who which n := by
  obtain ⟨g, q, ticket, caller, hq, made, hm⟩ := h
  exact ⟨g, q, ticket, caller, hr _ hq, made.append _, List.mem_append_right _ hm⟩

theorem reign_of_installed?_eq_none (h : Sound setup s) (hi : s.view.installed? e = none)
    (who : String) : reign who (s.step setup e).log = reign who s.log := by
  rw [reign, wins_step h, hi]
  rfl

theorem reign_of_installed? (h : Sound setup s) {p : Profile}
    (hi : s.view.installed? e = some p) :
    reign p.id (s.step setup e).log = (s.view.generation, p) :: reign p.id s.log := by
  rw [reign, wins_step h, hi]
  exact List.takeWhile_cons_of_pos (by simp)

theorem countedFor_of_size? (h : Dealt setup s) (hi : s.view.installed? e = none)
    {which : Collection} {n : Nat} (hs : s.view.size? which e = some n) :
    ∃ who, s.view.display.actorId = some who ∧ CountedFor (s.step setup e).log who which n := by
  obtain ⟨l, hl, hn⟩ := Option.bind_eq_some_iff.1 hs
  obtain ⟨ticket, a, f, rfl, -, -⟩ := landing?_eq_some hl
  have hm : .landed ticket l ∈ (s.step setup (.answered ticket a)).log :=
    List.mem_append_left _ (mem_entries_of_landing? hl)
  match l with
  | .count caller g w (.ok k) =>
    simp only [Landing.size?, Option.ite_none_right_eq_some, Option.some.injEq] at hn
    obtain ⟨⟨rfl, hc⟩, rfl⟩ := hn
    obtain ⟨-, rfl⟩ := s.view.isCurrent_iff.1 hc
    obtain ⟨p, hw, made⟩ := (dealt_step h (.answered ticket a)).granted.count hm
    rw [wins_step h.sound, hi] at hw
    have first := h.newest.head?_wins hw h.sound.generation
    have hp : s.view.display.profile = some p := by rw [h.newest.profile, first]; rfl
    refine ⟨p.id, by simp [Display.actorId, hp], s.view.generation, p, ticket, caller, ?_, made, hm⟩
    rw [reign_of_installed?_eq_none h.sound hi]
    exact mem_reign_of_head? first

theorem counted_step (h : Dealt setup s) (hc : Counted s) (e : Event) :
    Counted (s.step setup e) := by
  intro which n hn
  have shows : (s.step setup e).view.display.size which =
      (s.view.step setup e).1.display.size which := rfl
  rw [shows, step_size] at hn
  cases hi : s.view.installed? e with
  | some p =>
    -- sizes outlive the resolution of the actor that is displayed already
    rw [hi] at hn
    simp only [Option.ite_none_right_eq_some] at hn
    obtain ⟨same, hn⟩ := hn
    obtain ⟨who, hwho, counted⟩ := hc which n hn
    obtain rfl : who = p.id := Option.some.inj (hwho.symm.trans same)
    refine ⟨p.id, ?_, counted.step fun x hx => ?_⟩
    · show (s.view.step setup e).1.display.actorId = some p.id
      rw [Display.actorId, (step_of_installed? setup hi).2]
      rfl
    · rw [reign_of_installed? h.sound hi]
      exact List.mem_cons_of_mem _ hx
  | none =>
    have stays : (s.view.step setup e).1.display.actorId = s.view.display.actorId := by
      rw [step_actorId, hi]
      rfl
    have fetched : ∃ who, s.view.display.actorId = some who ∧
        CountedFor (s.step setup e).log who which n := by
      cases hs : s.view.size? which e with
      | some k =>
        rw [hi, hs] at hn
        cases hn
        exact countedFor_of_size? h hi hs
      | none =>
        rw [hi, hs] at hn
        obtain ⟨who, hwho, counted⟩ := hc which n hn
        refine ⟨who, hwho, counted.step fun x hx => ?_⟩
        rw [reign_of_installed?_eq_none h.sound hi]
        exact hx
    obtain ⟨who, hwho, counted⟩ := fetched
    exact ⟨who, stays.trans hwho, counted⟩

end Step

theorem Logged.counted_run (setup : Setup) (events : List Event) :
    Counted (run setup events) := by
  have both : Dealt setup (run setup events) ∧ Counted (run setup events) :=
    run_induction (P := fun s => Dealt setup s ∧ Counted s)
      ⟨dealt_start setup, counted_start⟩
      (fun s e h => ⟨dealt_step h.1 e, counted_step h.1 h.2 e⟩) events
  exact both.2

/-! ### The outbox -/

/-- An outbox was fetched for the displayed profile, by the resolution that has installed it. -/
def FetchedFor (setup : Setup) (log : List Entry) (p : Profile)
    (r : Except Failure (List Activity)) : Prop :=
  ∃ n ticket caller, (wins log).head? = some (n, p) ∧
    CalledBy log n ticket (.outbox p.outbox setup.settings.outboxPageSize) ∧
    .landed ticket (.outbox caller n r) ∈ log

section Fetched

variable {setup : Setup} {s : Logged}

theorem fetchedFor_of_inTime (h : Dealt setup s) {n : Nat} {p : Profile}
    {r : Except Failure (List Activity)} (hw : (wins s.log).head? = some (n, p))
    (ht : InTime s.log n r) : FetchedFor setup s.log p r := by
  obtain ⟨ticket, caller, hm⟩ := ht.landed
  obtain ⟨q, hq, made⟩ := h.granted.outbox hm
  obtain rfl : q = p := h.newest.eq_of_head?_wins hw hq
  exact ⟨n, ticket, caller, hw, made, hm⟩

/-- The outbox of a displayed profile is missing, or it is on its way or late, or it was fetched. -/
theorem outbox_of_profile (h : Dealt setup s) (law : s.view.display.outbox = outboxOf s.log)
    {p : Profile} (hp : s.view.display.profile = some p) :
    (p.outbox.isEmpty = true ∧ s.view.display.outbox = .unavailable) ∨
    (p.outbox.isEmpty = false ∧ s.view.display.outbox = .loading) ∨
    (p.outbox.isEmpty = false ∧
      ∃ r, FetchedFor setup s.log p r ∧ s.view.display.outbox = .ofResult r) := by
  rw [h.newest.profile] at hp
  obtain ⟨⟨n, q⟩, hw, rfl⟩ := Option.map_eq_some_iff.1 hp
  rw [law, outboxOf, hw]
  cases he : q.outbox.isEmpty with
  | true => exact .inl ⟨rfl, by simp [he]⟩
  | false =>
    cases hl : (outboxes s.log).lookup n with
    | none => exact .inr (.inl ⟨rfl, by simp [he, hl]⟩)
    | some r =>
      have fetched := fetchedFor_of_inTime h hw (mem_outboxes_iff.1 (mem_of_lookup hl))
      exact .inr (.inr ⟨rfl, r, fetched, by simp [he, hl]⟩)

theorem unavailable_iff (h : Dealt setup s) (law : s.view.display.outbox = outboxOf s.log)
    {p : Profile} (hp : s.view.display.profile = some p) :
    s.view.display.outbox = .unavailable ↔ p.outbox = "" := by
  rw [← String.isEmpty_iff]
  rcases outbox_of_profile h law hp with ⟨he, ho⟩ | ⟨he, ho⟩ | ⟨he, r, -, ho⟩
  · simp [he, ho]
  · simp [he, ho]
  · simp [he, ho, OutboxState.ofResult_ne_unavailable]

theorem fetched_of_outbox (h : Dealt setup s) (law : s.view.display.outbox = outboxOf s.log)
    {p : Profile} (hp : s.view.display.profile = some p)
    (hu : s.view.display.outbox ≠ .unavailable) (hl : s.view.display.outbox ≠ .loading) :
    ∃ r, FetchedFor setup s.log p r ∧ s.view.display.outbox = .ofResult r := by
  rcases outbox_of_profile h law hp with ⟨-, ho⟩ | ⟨-, ho⟩ | ⟨-, fetched⟩
  · exact absurd ho hu
  · exact absurd ho hl
  · exact fetched

end Fetched

/-! ### Every run -/

theorem url_of_mem_partsOf {settings : FollowSettings} {p : Profile} {c : Call}
    (h : c ∈ partsOf settings p) : (∃ url, c = .count url ∧ url ≠ "") ∨
      ∃ url, c = .outbox url settings.outboxPageSize ∧ url ≠ "" := by
  simp only [partsOf, List.mem_append] at h
  rcases h with (h | h) | h <;> split at h
  · cases h
  · next hu => exact .inl ⟨_, List.mem_singleton.1 h, fun he => hu (String.isEmpty_iff.2 he)⟩
  · cases h
  · next hu => exact .inl ⟨_, List.mem_singleton.1 h, fun he => hu (String.isEmpty_iff.2 he)⟩
  · cases h
  · next hu => exact .inr ⟨_, List.mem_singleton.1 h, fun he => hu (String.isEmpty_iff.2 he)⟩

/-- What a view shows of the parts of a profile. -/
structure Belongs (setup : Setup) (s : Logged) : Prop where
  nothing : s.view.display.profile = none →
    s.view.display.outbox = .notLoaded ∧ ∀ which, s.view.display.size which = none
  unavailable : ∀ p, s.view.display.profile = some p →
    (s.view.display.outbox = .unavailable ↔ p.outbox = "")
  loaded : ∀ p items, s.view.display.profile = some p →
    s.view.display.outbox = .loaded items → FetchedFor setup s.log p (.ok items)
  failed : ∀ p m, s.view.display.profile = some p → s.view.display.outbox = .failed m →
    ∃ f, f.message = m ∧ FetchedFor setup s.log p (.error f)
  sizes : ∀ p which n, s.view.display.profile = some p →
    s.view.display.size which = some n → CountedFor s.log p.id which n
  counts_asked : ∀ ticket url, .did (.call ticket (.count url)) ∈ s.log → url ≠ ""
  outboxes_asked : ∀ ticket url limit, .did (.call ticket (.outbox url limit)) ∈ s.log → url ≠ ""

/-- **Sizes and outbox belong to the displayed actor**, for every run. -/
theorem parts_belong (setup : Setup) (events : List Event) :
    Belongs setup (Logged.run setup events) := by
  have dealt := Logged.dealt_run setup events
  have law := Logged.outbox_run setup events
  have counted := Logged.counted_run setup events
  generalize Logged.run setup events = s at dealt law counted
  refine ⟨fun hp => ⟨?_, fun which => ?_⟩, fun p hp => unavailable_iff dealt law hp,
    fun p items hp ho => ?_, fun p m hp ho => ?_, fun p which n hp hn => ?_,
    fun ticket url hm => ?_, fun ticket url limit hm => ?_⟩
  · have nobody : (wins s.log).head? = none := by simpa [dealt.newest.profile] using hp
    rw [law, outboxOf, nobody]
  · cases hn : s.view.display.size which with
    | none => rfl
    | some n =>
      obtain ⟨who, hwho, -⟩ := counted which n hn
      simp [Display.actorId, hp] at hwho
  · obtain ⟨r, fetched, hr⟩ := fetched_of_outbox dealt law hp (by simp [ho]) (by simp [ho])
    obtain rfl := OutboxState.ofResult_eq_loaded_iff.1 (hr.symm.trans ho)
    exact fetched
  · obtain ⟨r, fetched, hr⟩ := fetched_of_outbox dealt law hp (by simp [ho]) (by simp [ho])
    obtain ⟨f, rfl, hm⟩ := OutboxState.ofResult_eq_failed_iff.1 (hr.symm.trans ho)
    exact ⟨f, hm, fetched⟩
  · obtain ⟨who, hwho, size⟩ := counted which n hn
    obtain rfl : p.id = who := by simpa [Display.actorId, hp] using hwho
    exact size
  · obtain ⟨g, p, -, hc⟩ := dealt.granted.calls _ _ hm rfl
    rcases url_of_mem_partsOf hc with ⟨u, heq, hu⟩ | ⟨u, heq, -⟩
    · cases heq
      exact hu
    · cases heq
  · obtain ⟨g, p, -, hc⟩ := dealt.granted.calls _ _ hm rfl
    rcases url_of_mem_partsOf hc with ⟨u, heq, -⟩ | ⟨u, heq, hu⟩
    · cases heq
    · cases heq
      exact hu

end FollowClient.View
