import FollowClient.Proofs.View.Loads

/-!
The displayed outbox, told from the chronicle: it is that of the profile that won last, and what was
fetched for it while its resolution was the newest one. An answer that comes after a newer
resolution has started is dropped. If the newer resolution fails, the old profile stays, and its
outbox is left loading: `outbox_loading_iff` says that this is the only way to get stuck.
-/

namespace FollowClient.View

/-! ### Outboxes that came in time -/

/-- The outboxes that came while their resolution was the newest one and the view was alive, each
with the number of its resolution, the latest first. -/
def outboxes : List Entry → List (Nat × Except Failure (List Activity))
  | [] => []
  | .landed ticket (.outbox _ g r) :: log =>
    if starts (sinceCall ticket log) = 0 ∧ ends log = 0 then (g, r) :: outboxes log
    else outboxes log
  | _ :: log => outboxes log

/-- What the chronicle says that the outbox shows. -/
def outboxOf (log : List Entry) : OutboxState :=
  match (wins log).head? with
  | none => .notLoaded
  | some (n, p) =>
    if p.outbox.isEmpty then .unavailable
    else ((outboxes log).lookup n).elim .loading .ofResult

theorem outboxes_append {l log : List Entry} (h : ∀ ticket x, .landed ticket x ∉ l) :
    outboxes (l ++ log) = outboxes log := by
  induction l with
  | nil => rfl
  | cons y l ih =>
    have ih' := ih fun ticket x hm => h ticket x (List.mem_cons_of_mem y hm)
    cases y with
    | landed ticket x => exact absurd List.mem_cons_self (h ticket x)
    | _ => exact ih'

theorem outboxes_cons (y : Entry) (log : List Entry) : outboxes (y :: log) = outboxes log ∨
    ∃ ticket caller g r, y = .landed ticket (.outbox caller g r) ∧
      (starts (sinceCall ticket log) = 0 ∧ ends log = 0) ∧
      outboxes (y :: log) = (g, r) :: outboxes log := by
  cases y with
  | landed ticket l =>
    cases l with
    | outbox caller g r =>
      by_cases h : starts (sinceCall ticket log) = 0 ∧ ends log = 0
      · exact .inr ⟨ticket, caller, g, r, rfl, h, if_pos h⟩
      · exact .inl (if_neg h)
    | _ => exact .inl rfl
  | _ => exact .inl rfl

/-- The outbox of resolution `g` came to a view that was alive, and no resolution had started since
it was called for. -/
def InTime (log : List Entry) (g : Nat) (r : Except Failure (List Activity)) : Prop :=
  ∃ newer ticket caller older, log = newer ++ .landed ticket (.outbox caller g r) :: older ∧
    starts (sinceCall ticket older) = 0 ∧ ends older = 0

theorem InTime.cons {log : List Entry} {g : Nat} {r : Except Failure (List Activity)}
    (h : InTime log g r) (y : Entry) : InTime (y :: log) g r := by
  obtain ⟨newer, ticket, caller, older, rfl, ht⟩ := h
  exact ⟨y :: newer, ticket, caller, older, rfl, ht⟩

theorem InTime.landed {log : List Entry} {g : Nat} {r : Except Failure (List Activity)}
    (h : InTime log g r) : ∃ ticket caller, .landed ticket (.outbox caller g r) ∈ log := by
  obtain ⟨newer, ticket, caller, older, rfl, -⟩ := h
  exact ⟨ticket, caller, List.mem_append_right newer List.mem_cons_self⟩

theorem mem_outboxes_iff {log : List Entry} {g : Nat} {r : Except Failure (List Activity)} :
    (g, r) ∈ outboxes log ↔ InTime log g r := by
  constructor
  · intro h
    induction log with
    | nil => cases h
    | cons y log ih =>
      rcases outboxes_cons y log with he | ⟨ticket, caller, g', r', rfl, ht, he⟩
      · exact (ih (he ▸ h)).cons y
      · rw [he] at h
        rcases List.mem_cons.1 h with heq | h
        · cases heq
          exact ⟨[], ticket, caller, log, rfl, ht⟩
        · exact (ih h).cons _
  · rintro ⟨newer, ticket, caller, older, rfl, ht⟩
    induction newer with
    | nil =>
      have first : outboxes (.landed ticket (.outbox caller g r) :: older) =
          (g, r) :: outboxes older := if_pos ht
      rw [List.nil_append, first]
      exact List.mem_cons_self
    | cons y newer ih =>
      rw [List.cons_append]
      rcases outboxes_cons y (newer ++ .landed ticket (.outbox caller g r) :: older) with
        he | ⟨_, _, _, _, -, -, he⟩
      · exact he ▸ ih
      · exact he ▸ List.mem_cons_of_mem _ ih

/-- A step adds the outbox that it displays. -/
theorem outboxes_entries {setup : Setup} {s : Logged} (hs : Sound setup s) (e : Event) :
    outboxes (s.step setup e).log =
      ((s.view.outbox? e).map (s.view.generation, ·)).toList ++ outboxes s.log := by
  obtain ⟨l, hl, hn⟩ := entries_eq_append_arrivals setup s.view e
  rw [Logged.step, hl, List.append_assoc, outboxes_append hn]
  rcases arrivals_eq s.view e with ⟨hl, ha⟩ | ⟨ticket, a, l, rfl, hl, ha⟩
  · rw [ha]
    simp [outbox?, hl, outboxes]
  · rw [ha]
    cases l with
    | outbox caller g r =>
      obtain ⟨t, a', f, heq, hf, hfl⟩ := landing?_eq_some hl
      cases heq
      have hg : f.generation? = some g := by
        rw [← generation?_landing? hfl]
        rfl
      have hcur := isCurrent_iff_of_flight hs (flight?_eq_some hf) hg
      obtain ⟨hw, -, hen⟩ := counts_answered ticket a s.log
      have ho : s.view.outbox? (.answered ticket a) =
          if s.view.isCurrent g then some r else none := by
        simp [outbox?, hl, Landing.outbox?]
      simp only [List.cons_append, List.nil_append, outboxes, hw, hen, ho, ← hcur]
      split
      · next hc =>
        obtain ⟨-, rfl⟩ := s.view.isCurrent_iff.1 hc
        rfl
      · rfl
    | _ => simp [outbox?, hl, Landing.outbox?, outboxes]

/-! ### What is displayed -/

section Law

variable {setup : Setup} {s : Logged} {e : Event}

theorem winner_of_outbox? (h : Dealt setup s) {r : Except Failure (List Activity)}
    (ho : s.view.outbox? e = some r) :
    ∃ p, (wins s.log).head? = some (s.view.generation, p) ∧ p.outbox.isEmpty = false := by
  obtain ⟨l, hl, hr⟩ := Option.bind_eq_some_iff.1 ho
  obtain ⟨ticket, a, f, rfl, hf, hla⟩ := landing?_eq_some hl
  cases l with
  | outbox caller g r' =>
    obtain ⟨url, rfl⟩ := landing?_eq_outbox hla
    obtain ⟨g', p, hw, rfl, rfl, hu⟩ := h.granted.flights _ (flight?_eq_some hf) rfl
    cases hc : s.view.isCurrent g with
    | false => simp [Landing.outbox?, hc] at hr
    | true =>
      obtain ⟨-, rfl⟩ := s.view.isCurrent_iff.1 hc
      exact ⟨p, h.newest.head?_wins hw h.sound.generation, hu⟩
  | _ => cases hr

theorem lookup_outboxes_of_installed? (h : Dealt setup s) {p : Profile}
    (hi : s.view.installed? e = some p) :
    (outboxes s.log).lookup s.view.generation = none := by
  refine List.lookup_eq_none_iff.2 fun x hx => ?_
  obtain ⟨g, r⟩ := x
  obtain ⟨ticket, caller, hm⟩ := (mem_outboxes_iff.1 hx).landed
  obtain ⟨q, hw, -⟩ := h.granted.outbox hm
  have := h.newest.ne_of_installed hi hw
  simpa using Ne.symm this

theorem outboxOf_step (h : Dealt setup s) (law : s.view.display.outbox = outboxOf s.log)
    (e : Event) : (s.step setup e).view.display.outbox = outboxOf (s.step setup e).log := by
  have shows : (s.step setup e).view.display.outbox =
      (s.view.step setup e).1.display.outbox := rfl
  rw [shows, step_outbox, outboxOf, wins_step h.sound, outboxes_entries h.sound]
  cases hi : s.view.installed? e with
  | some p =>
    -- a resolution that has only now its actor has not asked for an outbox yet
    have ho : s.view.outbox? e = none := by
      obtain ⟨caller, url, hl, -⟩ := installed?_eq_some.1 hi
      simp [outbox?, hl, Landing.outbox?]
    simp [ho, lookup_outboxes_of_installed? h hi, OutboxState.ofProfile]
  | none =>
    cases ho : s.view.outbox? e with
    | some r =>
      -- what comes for the newest resolution is put in front, so the look-up finds it
      obtain ⟨p, hw, hp⟩ := winner_of_outbox? h ho
      simp [hw, hp]
    | none => exact law

/-- **The outbox shows what the chronicle says**, for every run. -/
theorem Logged.outbox_run (setup : Setup) (events : List Event) :
    (run setup events).view.display.outbox = outboxOf (run setup events).log := by
  have both : Dealt setup (run setup events) ∧
      (run setup events).view.display.outbox = outboxOf (run setup events).log :=
    run_induction (P := fun s => Dealt setup s ∧ s.view.display.outbox = outboxOf s.log)
      ⟨dealt_start setup, rfl⟩
      (fun s e h => ⟨dealt_step h.1 e, outboxOf_step h.1 h.2 e⟩) events
  exact both.2

end Law

/-! ### An outbox that is left loading -/

/-- The outbox of resolution `g` has come, but a newer resolution had started since it was called
for. -/
def OutboxLate (g : Nat) (log : List Entry) : Prop :=
  (∃ ticket caller r, .landed ticket (.outbox caller g r) ∈ log) ∧
  ∀ newer ticket caller r older, log = newer ++ .landed ticket (.outbox caller g r) :: older →
    starts (sinceCall ticket older) ≠ 0

theorem lookup_outboxes_eq_none_iff {log : List Entry} {g : Nat} :
    (outboxes log).lookup g = none ↔ ∀ r, ¬ InTime log g r := by
  rw [List.lookup_eq_none_iff]
  constructor
  · intro h r ht
    simpa using h (g, r) (mem_outboxes_iff.2 ht)
  · rintro h ⟨g', r⟩ hm
    simp only [bne_iff_ne, ne_eq]
    rintro rfl
    exact h r (mem_outboxes_iff.1 hm)

theorem outboxOf_eq_loading_iff {log : List Entry} : outboxOf log = .loading ↔
    ∃ n p, (wins log).head? = some (n, p) ∧ p.outbox.isEmpty = false ∧
      ∀ r, ¬ InTime log n r := by
  unfold outboxOf
  split
  · next hw => simp [hw]
  · next n p hw =>
    constructor
    · intro h
      split at h
      · cases h
      · next hp =>
        refine ⟨n, p, hw, Bool.eq_false_iff.2 hp, lookup_outboxes_eq_none_iff.1 ?_⟩
        cases hl : (outboxes log).lookup n with
        | none => rfl
        | some r =>
          rw [hl] at h
          exact absurd h (OutboxState.ofResult_ne_loading r)
    · rintro ⟨n', p', hw', hp, hn⟩
      cases Option.some.inj (hw.symm.trans hw')
      rw [lookup_outboxes_eq_none_iff.2 hn, hp]
      rfl

/-- In a view that lives, and waits for nothing of a resolution, an outbox that has not come in time
has come too late. -/
theorem outboxLate_iff {setup : Setup} {s : Logged} (h : Dealt setup s)
    (ha : s.view.alive = true) (hq : ∀ x ∈ s.view.flights, x.2.generation? = none) {n : Nat}
    {p : Profile} (hw : (n, p) ∈ wins s.log) (hp : p.outbox.isEmpty = false) :
    OutboxLate n s.log ↔ ∀ r, ¬ InTime s.log n r := by
  have living : ends s.log = 0 := by simpa [h.sound.alive] using ha
  constructor
  · rintro ⟨-, late⟩ r ⟨newer, ticket, caller, older, hlog, hs, -⟩
    exact late newer ticket caller r older hlog hs
  · intro hn
    refine ⟨?_, ?_⟩
    -- the outbox of the displayed profile was asked for, and nothing is waited for any more
    · rcases h.granted.outboxes n p hw hp with ⟨x, hx, caller, hxf⟩ | came
      · have quiet := hq x hx
        rw [hxf] at quiet
        cases quiet
      · exact came
    · intro newer ticket caller r older hlog hs
      refine hn r ⟨newer, ticket, caller, older, hlog, hs, ?_⟩
      rw [hlog, ends, List.countP_append, List.countP_cons] at living
      show older.countP Entry.isEnd = 0
      omega

/-- **When an outbox is left loading**, for every run. In a view that lives, and waits for nothing of
a resolution, the outbox is loading exactly if the displayed profile has one, and it came only after
a newer resolution had started. -/
theorem outbox_loading_iff (setup : Setup) (events : List Event)
    (ha : (Logged.run setup events).view.alive = true)
    (hq : ∀ x ∈ (Logged.run setup events).view.flights, x.2.generation? = none) :
    (Logged.run setup events).view.display.outbox = .loading ↔
      ∃ n p, (wins (Logged.run setup events).log).head? = some (n, p) ∧
        p.outbox.isEmpty = false ∧ OutboxLate n (Logged.run setup events).log := by
  have dealt := Logged.dealt_run setup events
  rw [Logged.outbox_run, outboxOf_eq_loading_iff]
  constructor
  · rintro ⟨n, p, hw, hp, hn⟩
    exact ⟨n, p, hw, hp, (outboxLate_iff dealt ha hq (List.mem_of_head? hw) hp).2 hn⟩
  · rintro ⟨n, p, hw, hp, hl⟩
    exact ⟨n, p, hw, hp, (outboxLate_iff dealt ha hq (List.mem_of_head? hw) hp).1 hl⟩

def posting : Profile := { bare "a" with outbox := "a/posts" }

/-- The outbox of an actor comes after a resolution without an address has failed. -/
def overtakenOutbox : List Event :=
  [.resolve 0 "a", .answered 0 (.actor (.ok (some posting))), .resolve 1 "",
    .answered 1 (.outbox (.ok []))]

/-- **An outbox that is left loading** in a view that lives and waits for nothing. -/
theorem outbox_left_loading :
    (Logged.run usual overtakenOutbox).view.alive = true ∧
    (Logged.run usual overtakenOutbox).view.flights = [] ∧
    (Logged.run usual overtakenOutbox).view.display.outbox = .loading :=
  ⟨rfl, rfl, rfl⟩

/-- The outbox that is left loading has come too late. -/
theorem overtakenOutbox_late :
    ∃ n p, (wins (Logged.run usual overtakenOutbox).log).head? = some (n, p) ∧
      p.outbox.isEmpty = false ∧ OutboxLate n (Logged.run usual overtakenOutbox).log :=
  (outbox_loading_iff usual overtakenOutbox rfl (by decide +kernel)).1 rfl

end FollowClient.View
