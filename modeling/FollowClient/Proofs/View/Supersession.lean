import FollowClient.Proofs.View.Sound

/-!
Overlapping resolutions. Each call of a resolution is made while that resolution is the newest one;
as soon as another one starts, the answer changes nothing any more. So the displayed profile is that
of the newest resolution among those whose actor arrived in time.
-/

namespace FollowClient.View

/-! ### Calls and what came after them -/

/-- The entry makes the call with a ticket. -/
def Entry.isCall (ticket : Nat) : Entry → Bool
  | .did (.call t _) => t = ticket
  | _ => false

/-- What happened since the call with a ticket was made. -/
def sinceCall (ticket : Nat) (log : List Entry) : List Entry :=
  log.takeWhile fun x => !x.isCall ticket

/-- The profiles that arrived while their resolution was the newest one and the view was alive,
each with the number of its resolution, the latest first. -/
def wins : List Entry → List (Nat × Profile)
  | [] => []
  | .landed ticket (.actor _ _ _ (.ok (some p))) :: log =>
    if starts (sinceCall ticket log) = 0 ∧ ends log = 0 then (starts log, p) :: wins log
    else wins log
  | _ :: log => wins log

/-- A call of a resolution carries the number of that resolution: it was the newest one then. -/
theorem starts_sinceCall {setup : Setup} {log : List Entry} {x : Nat × Flight}
    (h : Recorded setup log x) {g : Nat} (hg : x.2.generation? = some g) :
    starts log = starts (sinceCall x.1 log) + g := by
  obtain ⟨newer, older, rfl, hn, -, hs⟩ := h
  have hc : ∀ y ∈ newer, (!y.isCall x.1) = true := by
    intro y hy
    match y with
    | .did (.call t c) =>
      have ht : t ≠ x.1 := fun ht => hn c (ht ▸ hy)
      simpa [Entry.isCall] using ht
    | .did (.returned _ _) | .happened _ | .landed _ _ | .wrote _ | .displayed _ => rfl
  have hx : sinceCall x.1 (newer ++ .did (.call x.1 (x.2.call setup.settings)) :: older) =
      newer := by
    rw [sinceCall, List.takeWhile_append_of_pos hc, List.takeWhile_cons_of_neg,
      List.append_nil]
    simp [Entry.isCall]
  rw [hx, hs g hg]
  simp only [starts, List.countP_append, List.countP_cons]
  rfl

/-- **The resolution of a flight is current exactly if it is the newest one still**: no other one
has started since its call, and the view was not torn down. -/
theorem isCurrent_iff_of_flight {setup : Setup} {s : Logged} (h : Sound setup s)
    {x : Nat × Flight} (hx : x ∈ s.view.flights) {g : Nat} (hg : x.2.generation? = some g) :
    s.view.isCurrent g = true ↔ starts (sinceCall x.1 s.log) = 0 ∧ ends s.log = 0 := by
  have hs := starts_sinceCall (h.recorded x hx) hg
  rw [isCurrent_iff, h.alive, h.generation, decide_eq_true_eq]
  constructor
  · rintro ⟨h1, h2⟩
    exact ⟨by omega, h1⟩
  · rintro ⟨h1, h2⟩
    exact ⟨h2, by omega⟩

/-- An answer starts no resolution and ends no view. -/
theorem counts_answered (ticket : Nat) (a : Answer) (log : List Entry) :
    starts (sinceCall ticket (.happened (.answered ticket a) :: log)) =
      starts (sinceCall ticket log) ∧
    starts (.happened (.answered ticket a) :: log) = starts log ∧
    ends (.happened (.answered ticket a) :: log) = ends log := by
  refine ⟨?_, ?_, ?_⟩
  · rw [sinceCall, List.takeWhile_cons_of_pos (by simp [Entry.isCall])]
    exact List.countP_cons_of_neg (by simp [Entry.isStart, Event.isResolve])
  · exact List.countP_cons_of_neg (by simp [Entry.isStart, Event.isResolve])
  · exact List.countP_cons_of_neg (by simp [Entry.isEnd, Event.isTeardown])

/-! ### Answers that come too late -/

section Late

variable {setup : Setup} {s : Logged}

/-- **An answer to a resolution that was overtaken is inert.** -/
theorem inert_of_overtaken (h : Sound setup s) {x : Nat × Flight} (hx : x ∈ s.view.flights)
    (hr : x.2.generation?.isSome = true) (hn : starts (sinceCall x.1 s.log) ≠ 0) (a : Answer) :
    (s.view.step setup (.answered x.1 a)).1.display = s.view.display ∧
    (s.view.step setup (.answered x.1 a)).1.poll = s.view.poll ∧
    (s.view.step setup (.answered x.1 a)).1.recheck = s.view.recheck ∧
    callsOf (s.view.step setup (.answered x.1 a)).2 = [] := by
  obtain ⟨g, hg⟩ := Option.isSome_iff_exists.1 hr
  have hcur : (s.view.cleared x.1 a).isCurrent g = false := by
    refine Bool.eq_false_iff.2 fun hc => ?_
    exact hn ((isCurrent_iff_of_flight h hx hg).1 hc).1
  cases hl : s.view.landing? (.answered x.1 a) with
  | none =>
    rw [step_answered, hl]
    exact ⟨rfl, rfl, rfl, rfl⟩
  | some l =>
    obtain ⟨ticket, a', f, heq, hf, hfl⟩ := landing?_eq_some hl
    cases heq
    have hxf : f = x.2 := Option.some.inj (hf.symm.trans (flight?_of_mem h.nodup hx))
    have hlg : l.generation? = some g := by rw [generation?_landing? hfl, hxf, hg]
    obtain ⟨hv, hc⟩ := effect_of_stale setup _ hlg hcur
    rw [step_of_landing hl, hv]
    exact ⟨rfl, rfl, rfl, hc⟩

end Late

/-! ### The entries of a step -/

section Entries

variable {setup : Setup} {v : View} {e : Event}

theorem wins_append {l log : List Entry} (h : ∀ ticket x, .landed ticket x ∉ l) :
    wins (l ++ log) = wins log := by
  induction l with
  | nil => rfl
  | cons y l ih =>
    have ih' := ih fun ticket x hm => h ticket x (List.mem_cons_of_mem y hm)
    cases y with
    | landed ticket x => exact absurd List.mem_cons_self (h ticket x)
    | _ => exact ih'

theorem wins_entries_eq (log : List Entry) :
    wins (v.entries setup e ++ log) = wins (v.arrivals e ++ log) := by
  obtain ⟨l, hl, hn⟩ := entries_eq_append_arrivals setup v e
  rw [hl, List.append_assoc, wins_append hn]

/-- A profile that arrives is displayed exactly if no resolution has started since its call. -/
theorem wins_of_arrival {s : Logged} (h : Sound setup s) {ticket : Nat} {a : Answer}
    {caller g : Nat} {url : String} {p : Profile}
    (hl : s.view.landing? (.answered ticket a) = some (.actor caller g url (.ok (some p)))) :
    wins (.landed ticket (.actor caller g url (.ok (some p))) ::
        .happened (.answered ticket a) :: s.log) =
      ((s.view.installed? (.answered ticket a)).map (s.view.generation, ·)).toList ++
        wins s.log := by
  obtain ⟨t, a', f, heq, hf, hfl⟩ := landing?_eq_some hl
  cases heq
  have hg : f.generation? = some g := by
    rw [← generation?_landing? hfl]
    rfl
  have hcur := isCurrent_iff_of_flight h (flight?_eq_some hf) hg
  have hi : s.view.installed? (.answered ticket a) =
      if s.view.isCurrent g then some p else none := by
    simp [installed?, hl, Landing.installed?]
  obtain ⟨hw, hst, hen⟩ := counts_answered ticket a s.log
  simp only [wins, hw, hst, hen, hi, ← hcur]
  split
  · simp [h.generation]
  · simp

/-- A step adds the profile that it installs, with the number of the newest resolution. -/
theorem wins_entries {s : Logged} (h : Sound setup s) (e : Event) :
    wins (s.view.entries setup e ++ s.log) =
      ((s.view.installed? e).map (s.view.generation, ·)).toList ++ wins s.log := by
  rw [wins_entries_eq]
  rcases arrivals_eq s.view e with ⟨hl, ha⟩ | ⟨ticket, a, l, rfl, hl, ha⟩
  · rw [ha]
    simp [installed?, hl, wins]
  · rw [ha]
    cases l with
    | actor caller g url r =>
      rcases r with f | _ | p
      · simp [installed?, hl, Landing.installed?, wins]
      · simp [installed?, hl, Landing.installed?, wins]
      · exact wins_of_arrival h hl
    | _ => simp [installed?, hl, Landing.installed?, wins]

end Entries

/-! ### The newest resolution -/

/-- The flight asks for the actor of a resolution. -/
def Flight.asks (g : Nat) : Flight → Bool
  | .actor _ n _ => n = g
  | _ => false

/-- The displayed profile is the one that arrived last. Each resolution asks for its actor once, so
what arrived has falling numbers. -/
structure Newest (s : Logged) : Prop where
  profile : s.view.display.profile = (wins s.log).head?.map (·.2)
  /-- A resolution that was started waits for its actor, or has its actor, or neither. -/
  once : ∀ g, s.view.flights.countP (·.2.asks g) + (wins s.log).countP (·.1 = g) ≤
    if g ≤ starts s.log then 1 else 0
  falling : (wins s.log).Pairwise fun x y => y.1 < x.1

section Step

variable {setup : Setup} {s : Logged} {e : Event}

/-- A step asks for an actor only if it starts a resolution, and then at most once. -/
theorem countP_asks {fs : List Flight} (hc : StepCalls setup s.view e fs) (g : Nat) :
    fs.countP (Flight.asks g) ≤ if e.isResolve ∧ g = s.view.generation + 1 then 1 else 0 := by
  have asked : ∀ f ∈ fs, f.asks g = true → e.isResolve = true ∧ g = s.view.generation + 1 := by
    intro f hf ha
    have hi := hc.issued f hf
    match f with
    | .actor caller n url =>
      obtain ⟨-, hg, rfl⟩ := hi
      rw [step_generation] at hg
      have hn : (s.view.step setup e).1.generation = g := by simpa [Flight.asks] using ha
      rw [step_generation] at hn
      cases hr : e.isResolve with
      | true => exact ⟨rfl, by rw [hr] at hn; exact hn.symm⟩
      | false => simp [hr] at hg
  split
  · next hg =>
    obtain ⟨hr, -⟩ := hg
    cases e with
    | resolve caller url =>
      have hn : (s.view.step setup (.resolve caller url)).1.nextTicket ≤ s.view.nextTicket + 1 := by
        simp only [step, react, resolve]
        split
        · exact Nat.le_succ _
        · split
          · exact Nat.le_succ _
          · exact Nat.le_refl _
      have hl : (s.view.step setup (.resolve caller url)).1.nextTicket =
          s.view.nextTicket + fs.length := hc.makes.next
      have := List.countP_le_length (p := Flight.asks g) (l := fs)
      omega
    | _ => cases hr
  · next hg =>
    refine Nat.le_of_eq (List.countP_eq_zero.2 fun f hf ha => ?_)
    exact hg (asked f hf ha)

/-- A resolution that was not yet started has displayed nothing. -/
theorem Newest.le_starts (h : Newest s) {x : Nat × Profile} (hx : x ∈ wins s.log) :
    x.1 ≤ starts s.log := by
  have h1 := h.once x.1
  have h2 : 0 < (wins s.log).countP (·.1 = x.1) := List.countP_pos_iff.2 ⟨x, hx, by simp⟩
  split at h1 <;> omega

/-- A resolution whose actor arrives has displayed nothing before. -/
theorem Newest.ne_of_installed (h : Newest s) {p : Profile}
    (hi : s.view.installed? e = some p) {x : Nat × Profile} (hx : x ∈ wins s.log) :
    x.1 ≠ s.view.generation := by
  obtain ⟨caller, url, hl, -⟩ := installed?_eq_some.1 hi
  obtain ⟨ticket, a, f, rfl, hf, hfl⟩ := landing?_eq_some hl
  obtain ⟨rfl, -⟩ := landing?_eq_actor hfl
  have waits : 0 < s.view.flights.countP (·.2.asks s.view.generation) :=
    List.countP_pos_iff.2 ⟨_, flight?_eq_some hf, by simp [Flight.asks]⟩
  have h1 := h.once s.view.generation
  have unseen : (wins s.log).countP (·.1 = s.view.generation) = 0 := by
    split at h1 <;> omega
  intro he
  exact List.countP_eq_zero.1 unseen x hx (by simpa using he)

theorem newest_start : Newest .start where
  profile := rfl
  once := fun g => by simp [Logged.start, start, wins]
  falling := List.Pairwise.nil

theorem newest_step (hs : Sound setup s) (h : Newest s) (e : Event) :
    Newest (s.step setup e) := by
  obtain ⟨fs, hc⟩ := step_calls setup s.view e
  have hw : wins (s.step setup e).log =
      ((s.view.installed? e).map (s.view.generation, ·)).toList ++ wins s.log := wins_entries hs e
  have hst : starts (s.step setup e).log = starts s.log + e.isResolve.toNat := by
    show starts (_ ++ _) = _
    rw [starts, List.countP_append, ← starts, ← starts, starts_entries, Nat.add_comm]
  have hp : (s.step setup e).view.display.profile =
      (s.view.installed? e).or s.view.display.profile := step_profile setup s.view e
  have air : ∀ g, (s.step setup e).view.flights.countP (·.2.asks g) ≤
      (s.view.others e).countP (·.2.asks g) + fs.countP (Flight.asks g) := by
    intro g
    rw [← countP_ticketed (Flight.asks g) s.view.nextTicket, ← List.countP_append]
    exact hc.makes.sub.countP_le
  have left : ∀ g, (s.view.others e).countP (·.2.asks g) ≤
      s.view.flights.countP (·.2.asks g) := fun g => others_sublist.countP_le
  have hgen := hs.generation
  cases hi : s.view.installed? e with
  | none =>
    rw [hi] at hw hp
    refine ⟨?_, fun g => ?_, ?_⟩
    · rw [hp, hw]
      exact h.profile
    · have h1 := h.once g
      have h2 := air g
      have h3 := left g
      have h4 := countP_asks hc g
      rw [hw, hst]
      simp only [Option.map_none, Option.toList_none, List.nil_append]
      cases hr : e.isResolve with
      | false =>
        simp only [hr, Bool.false_eq_true, false_and, if_false] at h4
        simp only [Bool.toNat_false, Nat.add_zero]
        omega
      | true =>
        simp only [hr, true_and] at h4
        simp only [Bool.toNat_true]
        split at h1 <;> split at h4 <;> split <;> omega
    · rw [hw]
      exact h.falling
  | some p =>
    rw [hi] at hw hp
    obtain ⟨caller, url, hl, -⟩ := installed?_eq_some.1 hi
    obtain ⟨ticket, a, f, rfl, hf, hfl⟩ := landing?_eq_some hl
    have hask : f.asks s.view.generation = true := by
      obtain ⟨rfl, -⟩ := landing?_eq_actor hfl
      simp [Flight.asks]
    have took := countP_others_of_landing? hs.nodup hf hfl (Flight.asks s.view.generation)
    rw [hask, Bool.toNat_true] at took
    refine ⟨?_, fun g => ?_, ?_⟩
    · rw [hp, hw]
      rfl
    · have h1 := h.once g
      have h2 := air g
      have h3 := left g
      have h4 := countP_asks hc g
      simp only [Event.isResolve, Bool.false_eq_true, false_and, if_false] at h4
      rw [hw, hst]
      simp only [Option.map_some, Option.toList_some, List.singleton_append, Event.isResolve,
        Bool.toNat_false, Nat.add_zero, List.countP_cons, decide_eq_true_eq]
      refine Nat.le_trans ?_ h1
      by_cases hg : s.view.generation = g
      · subst hg
        simp only [if_true]
        omega
      · simp only [hg, if_false]
        omega
    · rw [hw]
      refine List.pairwise_cons.2 ⟨fun x hx => ?_, h.falling⟩
      have hne := h.ne_of_installed hi hx
      have hle := h.le_starts hx
      show x.1 < s.view.generation
      omega

theorem Logged.newest_run (setup : Setup) (events : List Event) : Newest (run setup events) := by
  have both : Sound setup (run setup events) ∧ Newest (run setup events) :=
    run_induction (P := fun s => Sound setup s ∧ Newest s)
      ⟨sound_start setup, newest_start⟩
      (fun s e h => ⟨sound_step h.1 e, newest_step h.1 h.2 e⟩) events
  exact both.2

end Step

/-- Among falling numbers the first is the largest. -/
theorem head?_eq_some_iff_of_falling {l : List (Nat × Profile)}
    (h : l.Pairwise fun x y => y.1 < x.1) (p : Profile) :
    l.head?.map (·.2) = some p ↔ ∃ n, (n, p) ∈ l ∧ ∀ x ∈ l, x.1 ≤ n := by
  cases l with
  | nil => simp
  | cons y l =>
    obtain ⟨hy, -⟩ := List.pairwise_cons.1 h
    constructor
    · intro hp
      obtain rfl : y.2 = p := by simpa using hp
      refine ⟨y.1, List.mem_cons_self, fun x hx => ?_⟩
      rcases List.mem_cons.1 hx with rfl | hx
      · exact Nat.le_refl _
      · exact Nat.le_of_lt (hy x hx)
    · rintro ⟨n, hm, hmax⟩
      rcases List.mem_cons.1 hm with rfl | hm
      · rfl
      · have h1 := hy _ hm
        have h2 := hmax y List.mem_cons_self
        exact absurd h1 (Nat.not_lt.2 h2)

/-- **The newest resolution wins**, for every run. Once a newer resolution has started, whatever
answer an older one gets changes nothing and leads to no call; and the displayed profile is that of
the newest resolution among those whose actor arrived while they were the newest. -/
theorem newest_resolution_wins (setup : Setup) (events : List Event) :
    let s := Logged.run setup events
    (∀ x ∈ s.view.flights, x.2.generation?.isSome = true →
      starts (sinceCall x.1 s.log) ≠ 0 → ∀ a,
        let next := s.view.step setup (.answered x.1 a)
        next.1.display = s.view.display ∧ next.1.poll = s.view.poll ∧
        next.1.recheck = s.view.recheck ∧ callsOf next.2 = []) ∧
    ∀ p, s.view.display.profile = some p ↔
      ∃ n, (n, p) ∈ wins s.log ∧ ∀ x ∈ wins s.log, x.1 ≤ n := by
  have sound := Logged.sound_run setup events
  have newest := Logged.newest_run setup events
  refine ⟨fun x hx hr hn a => inert_of_overtaken sound hx hr hn a, fun p => ?_⟩
  rw [newest.profile]
  exact head?_eq_some_iff_of_falling newest.falling p

/-- The first of two resolutions gets its answer too late. -/
def overtaken : List Event :=
  [.resolve 0 "a", .resolve 0 "b", .answered 1 (.actor (.ok (some (bare "b"))))]

/-- An actor that arrives after a newer one is not displayed. -/
theorem overtaken_is_inert :
    (Logged.run usual overtaken).view.display.profile = some (bare "b") ∧
    ((Logged.run usual overtaken).view.step usual
      (.answered 0 (.actor (.ok (some (bare "a")))))).1.display =
        (Logged.run usual overtaken).view.display := by
  have inert := (newest_resolution_wins usual overtaken).1
  have shows := (newest_resolution_wins usual overtaken).2 (bare "b")
  refine ⟨shows.2 ⟨2, ?_, ?_⟩, (inert (0, .actor 0 1 "a") ?_ rfl ?_ _).1⟩
  · decide +kernel
  · decide +kernel
  · decide +kernel
  · decide +kernel

end FollowClient.View
