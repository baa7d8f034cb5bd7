import FollowClient.Proofs.View.Supersession
import Mathlib.Data.List.Induction

/-!
The mark of a view that loads. All resolutions share it: one puts it up when it asks for its actor,
and one that has nothing to ask for takes it down. Of the answers only that to the newest resolution
takes it down; an older one leaves it as a newer resolution has put it. So in a view that lives the
mark is up exactly while the newest resolution waits for its actor: `loading_iff_newest_waits`.
-/

namespace FollowClient.View

/-! ### The mark in a step -/

/-- The landing is the answer to the newest resolution, in a view that lives. -/
def Landing.settles (v : View) : Landing → Bool
  | .actor _ generation _ _ => v.isCurrent generation
  | _ => false

section Mark

variable (setup : Setup) (v : View)

theorem install_loading (p : Profile) : (v.install p).display.loading = false := by
  by_cases h : v.display.actorId = some p.id <;> simp [install, h]

theorem landRequest_loading (caller : Nat) (who : String) (prior optimistic : FollowStatus)
    (r : Except Failure Unit) :
    (v.landRequest setup caller who prior optimistic r).1.display.loading = v.display.loading := by
  rw [landRequest_eq]
  split
  · cases r <;> simp only [readStatus_frame, syncPoll_frame] <;> rfl
  · rfl

theorem effect_loading (l : Landing) :
    (l.effect setup v).1.display.loading = (v.display.loading && !l.settles v) := by
  cases l with
  | actor caller generation url r =>
    rw [Landing.effect, landActor_eq]
    by_cases hc : v.isCurrent generation = true
    · rcases r with f | _ | p
      · simp [hc, Landing.settles, required, failResolution]
      · simp [hc, Landing.settles, required, failResolution]
      · simp [hc, Landing.settles, required, Effect.andThen, install_loading]
    · simp [hc, Landing.settles]
  | count caller generation which r =>
    rw [Landing.effect, (closeResolution_frame setup _ caller generation).1,
      (landCount_marks v generation which r).1]
    simp [Landing.settles]
  | outbox caller generation r =>
    rw [Landing.effect, (closeResolution_frame setup _ caller generation).1,
      (landOutbox_marks v generation r).1]
    simp [Landing.settles]
  | status who epoch after r =>
    rw [Landing.effect, (landRead_frame setup v who epoch after r).1,
      (landStatus_marks setup v who epoch r).1]
    simp [Landing.settles]
  | request caller who prior optimistic r =>
    simp [Landing.effect, Landing.settles, landRequest_loading]

/-- Only the start of a resolution puts the mark up, and only its answer takes it down. -/
theorem step_loading (e : Event) : (v.step setup e).1.display.loading =
    match e with
    | .resolve _ url => if v.alive then !Text.isBlankText url else v.display.loading
    | e => v.display.loading && !(v.landing? e).any (Landing.settles v) := by
  cases e with
  | answered ticket a =>
    cases hl : v.landing? (.answered ticket a) with
    | none =>
      rw [step_answered, hl]
      simp [hl]
    | some l =>
      rw [step_of_landing hl, effect_loading]
      have same : l.settles (v.cleared ticket a) = l.settles v := by cases l <;> rfl
      simp [hl, same]
  | resolve caller url =>
    simp only [step, react, resolve]
    cases ha : v.alive with
    | false => simp [ha]
    | true => cases hb : Text.isBlankText url <;> simp [ha, failResolution]
  | toggle caller =>
    simp only [step, react, toggle, landing?]
    split
    · split <;> simp
    · simp
  | _ => simp [step, react, landing?]

/-- A resolution asks for its actor, unless there is nothing to ask for. -/
theorem flights_step_resolve (caller : Nat) (url : String) :
    (v.step setup (.resolve caller url)).1.flights =
      (v.giveUpLastTick (.resolve caller url)).flights ++
        if v.alive && !Text.isBlankText url then
          [(v.nextTicket, .actor caller (v.generation + 1) (Text.trim url))]
        else [] := by
  simp only [step, react, resolve]
  cases ha : v.alive with
  | false => simp [ha]
  | true => cases hb : Text.isBlankText url <;> simp [ha, issue, failResolution]

end Mark

/-! ### The newest resolution waits -/

/-- The newest resolution waits for its actor. -/
def Waits (v : View) : Prop := ∃ x ∈ v.flights, x.2.asks v.generation = true

/-- While the view lives, the mark is up exactly while the newest resolution waits. -/
def Marked (v : View) : Prop := v.alive = true → (v.display.loading = true ↔ Waits v)

section Step

variable {setup : Setup} {s : Logged} {e : Event}

theorem isLasting_of_asks {f : Flight} {g : Nat} (h : f.asks g = true) : f.isLasting = true := by
  cases f with
  | actor caller generation url => rfl
  | _ => cases h

/-- A resolution that has not started waits for nothing. -/
theorem Newest.asks_eq_false (h : Newest s) (hs : Sound setup s) {x : Nat × Flight}
    (hx : x ∈ s.view.flights) : x.2.asks (s.view.generation + 1) = false := by
  have few := h.once (s.view.generation + 1)
  rw [if_neg (by have := hs.generation; omega)] at few
  have zero : s.view.flights.countP (·.2.asks (s.view.generation + 1)) = 0 := by omega
  exact Bool.eq_false_iff.2 (List.countP_eq_zero.1 zero x hx)

/-- Only the start of a resolution asks for an actor. -/
theorem mem_others_of_asks {fs : List Flight} (hc : StepCalls setup s.view e fs)
    (he : e.isResolve = false) {x : Nat × Flight} {g : Nat}
    (hx : x ∈ (s.step setup e).view.flights) (ha : x.2.asks g = true) : x ∈ s.view.others e := by
  rcases hc.mem hx with hx | hx
  · exact hx
  · have few := countP_asks hc g
    rw [he, if_neg (by simp)] at few
    have unasked : fs.countP (Flight.asks g) = 0 := by omega
    exact absurd ha (List.countP_eq_zero.1 unasked x.2 (mem_ticketed hx).2.2)

theorem generation_step_of_not (he : e.isResolve = false) :
    (s.step setup e).view.generation = s.view.generation := by
  show (s.view.step setup e).1.generation = _
  rw [step_generation, he]
  rfl

/-- An answer to the newest resolution leaves nobody who asks for it. -/
theorem not_waits_of_settles (hs : Sound setup s) (hn : Newest s) {ticket : Nat} {a : Answer}
    {l : Landing} (hl : s.view.landing? (.answered ticket a) = some l)
    (hset : l.settles s.view = true) : ¬ Waits (s.step setup (.answered ticket a)).view := by
  obtain ⟨fs, hc⟩ := step_calls setup s.view (.answered ticket a)
  rintro ⟨x, hx, ha⟩
  rw [generation_step_of_not rfl] at ha
  obtain ⟨t, a', f, heq, hf, hfl⟩ := landing?_eq_some hl
  cases heq
  have hask : f.asks s.view.generation = true := by
    cases l with
    | actor caller g url r =>
      obtain ⟨rfl, -⟩ := landing?_eq_actor hfl
      have hg := ((s.view.isCurrent_iff).1 hset).2
      simp [Flight.asks, hg]
    | _ => cases hset
  -- the flight that has landed was the only one to ask
  have took := countP_others_of_landing? hs.nodup hf hfl (Flight.asks s.view.generation)
  have left : 0 < (s.view.others (.answered ticket a)).countP (·.2.asks s.view.generation) :=
    List.countP_pos_iff.2 ⟨x, mem_others_of_asks hc rfl hx ha, ha⟩
  have once := hn.once s.view.generation
  rw [hask, Bool.toNat_true] at took
  split at once <;> omega

/-- As long as nothing settles it, the newest resolution goes on waiting. -/
theorem waits_step_iff (hs : Sound setup s) (ha : s.view.alive = true) (he : e.isResolve = false)
    (hn : (s.view.landing? e).any (Landing.settles s.view) = false) :
    Waits (s.step setup e).view ↔ Waits s.view := by
  obtain ⟨fs, hc⟩ := step_calls setup s.view e
  unfold Waits
  rw [generation_step_of_not he]
  constructor
  · rintro ⟨x, hx, hask⟩
    exact ⟨x, others_sublist.subset (mem_others_of_asks hc he hx hask), hask⟩
  · rintro ⟨⟨ticket, f⟩, hx, hask⟩
    rcases mem_others_or_landed hs.nodup hx e with ho | ⟨a, l, rfl, hfl, hl⟩
    · exact ⟨_, hc.stays ho (isLasting_of_asks hask), hask⟩
    · cases f with
      | actor caller g url =>
        cases a with
        | actor r =>
          obtain rfl : Landing.actor caller g url r = l := Option.some.inj hfl
          have hg : g = s.view.generation := by simpa [Flight.asks] using hask
          simp [hl, Landing.settles, isCurrent, ha, hg] at hn
        | _ => cases hfl
      | _ => cases hask

theorem marked_resolve (hs : Sound setup s) (hn : Newest s) (caller : Nat) (url : String) :
    Marked (s.step setup (.resolve caller url)).view := by
  intro ha
  have alive : s.view.alive = true := alive_of_step ha
  have mark : (s.step setup (.resolve caller url)).view.display.loading =
      !Text.isBlankText url := by
    show (s.view.step setup (.resolve caller url)).1.display.loading = _
    rw [step_loading]
    simp [alive]
  have flights : (s.step setup (.resolve caller url)).view.flights = _ :=
    flights_step_resolve setup s.view caller url
  have number : (s.step setup (.resolve caller url)).view.generation = s.view.generation + 1 :=
    step_generation setup s.view _
  rw [mark, Waits, number, flights]
  constructor
  · intro hb
    refine ⟨(s.view.nextTicket, .actor caller (s.view.generation + 1) (Text.trim url)),
      List.mem_append_right _ ?_, by simp [Flight.asks]⟩
    rw [alive, hb]
    exact List.mem_singleton.2 rfl
  · rintro ⟨x, hx, hask⟩
    rcases List.mem_append.1 hx with hx | hx
    · have old := hn.asks_eq_false hs (List.mem_filter.1 hx).1
      rw [hask] at old
      cases old
    · rw [alive, Bool.true_and] at hx
      split at hx
      · assumption
      · cases hx

theorem marked_step (hs : Sound setup s) (hn : Newest s) (h : Marked s.view) (e : Event) :
    Marked (s.step setup e).view := by
  have other : e.isResolve = false →
      (s.view.step setup e).1.display.loading =
        (s.view.display.loading && !(s.view.landing? e).any (Landing.settles s.view)) →
      Marked (s.step setup e).view := by
    intro he hd ha
    have alive : s.view.alive = true := alive_of_step ha
    show (s.view.step setup e).1.display.loading = true ↔ _
    rw [hd]
    cases hset : (s.view.landing? e).any (Landing.settles s.view) with
    | false =>
      rw [waits_step_iff hs alive he hset, ← h alive]
      simp
    | true =>
      obtain ⟨l, hl, hsl⟩ := (Option.any_eq_true _ _).1 hset
      obtain ⟨ticket, a, f, rfl, -, -⟩ := landing?_eq_some hl
      have quiet : ¬ Waits (s.step setup (.answered ticket a)).view :=
        not_waits_of_settles hs hn hl hsl
      simp [quiet]
  cases e with
  | resolve caller url => exact marked_resolve hs hn caller url
  | _ => exact other rfl (step_loading setup s.view _)

theorem Logged.marked_run (setup : Setup) (events : List Event) :
    Marked (run setup events).view := by
  have all : Sound setup (run setup events) ∧ Newest (run setup events) ∧
      Marked (run setup events).view := by
    refine run_induction (P := fun s => Sound setup s ∧ Newest s ∧ Marked s.view)
      ⟨sound_start setup, newest_start, fun _ => ?_⟩ (fun s e h => ?_) events
    · simp [Waits, Logged.start, View.start, Display.empty]
    · exact ⟨sound_step h.1 e, newest_step h.1 h.2.1 e, marked_step h.1 h.2.1 h.2.2 e⟩
  exact all.2.2

end Step

/-! ### The call of the newest resolution -/

theorem generation_run (setup : Setup) (v : View) (events : List Event) :
    (View.run setup v events).generation = v.generation + events.countP Event.isResolve := by
  induction events generalizing v with
  | nil => rfl
  | cons e events ih =>
    have first := step_generation setup v e
    have rest : (View.run setup v (e :: events)).generation =
        (v.step setup e).1.generation + events.countP Event.isResolve := ih _
    rw [rest, first, List.countP_cons]
    cases e.isResolve with
    | true => simp only [Bool.toNat_true, if_true]; omega
    | false => simp

/-- The call that the newest resolution of a run has made for its actor. -/
def NewestAsk (setup : Setup) (events : List Event) (x : Nat × Flight) : Prop :=
  ∃ before caller url after, events = before ++ .resolve caller url :: after ∧
    (∀ e ∈ after, e.isResolve = false) ∧
    x = ((View.run setup .start before).nextTicket,
      .actor caller (before.countP Event.isResolve + 1) (Text.trim url))

theorem newestAsk_of_asks (setup : Setup) (events : List Event) {x : Nat × Flight}
    (hx : x ∈ (Logged.run setup events).view.flights)
    (ha : x.2.asks (Logged.run setup events).view.generation = true) :
    NewestAsk setup events x := by
  induction events using List.reverseRecOn with
  | nil => simp [Logged.run, Logged.start, View.start] at hx
  | append_singleton events e ih =>
    have sound := Logged.sound_run setup events
    rw [Logged.run_append] at hx ha
    have old : e.isResolve = false → NewestAsk setup (events ++ [e]) x := by
      intro he
      obtain ⟨fs, hc⟩ := step_calls setup (Logged.run setup events).view e
      have hg : ((Logged.run setup events).step setup e).view.generation =
          (Logged.run setup events).view.generation := generation_step_of_not he
      have there := others_sublist.subset (mem_others_of_asks hc he hx ha)
      obtain ⟨before, caller, url, after, rfl, unasked, hxe⟩ := ih there (hg ▸ ha)
      refine ⟨before, caller, url, after ++ [e], by simp, fun e' h' => ?_, hxe⟩
      rcases List.mem_append.1 h' with h' | h'
      · exact unasked e' h'
      · rw [List.mem_singleton.1 h']
        exact he
    cases e with
    | resolve caller url =>
      -- nobody else asks for the actor of a resolution that starts now
      have newest := Logged.newest_run setup events
      have number := step_generation setup (Logged.run setup events).view (.resolve caller url)
      have flights := flights_step_resolve setup (Logged.run setup events).view caller url
      have hx' : x ∈ ((Logged.run setup events).view.step setup (.resolve caller url)).1.flights :=
        hx
      have ha' : x.2.asks ((Logged.run setup events).view.generation + 1) = true := by
        have := number
        rw [show (Event.resolve caller url).isResolve = true from rfl, Bool.toNat_true] at this
        rw [← this]
        exact ha
      rw [flights] at hx'
      rcases List.mem_append.1 hx' with hm | hm
      · have silent := newest.asks_eq_false sound (List.mem_filter.1 hm).1
        rw [silent] at ha'
        cases ha'
      · refine ⟨events, caller, url, [], rfl, by simp, ?_⟩
        split at hm
        · have count := generation_run setup .start events
          rw [← Logged.run_view] at count
          rw [List.mem_singleton.1 hm, count, Logged.run_view]
          simp [View.start]
        · cases hm
    | _ => exact old rfl

/-- **The mark is exact**, for every run: a view that lives is marked as loading exactly while the
newest resolution waits for the answer to its call. -/
theorem loading_iff_newest_waits (setup : Setup) (events : List Event)
    (ha : (View.run setup .start events).alive = true) :
    (View.run setup .start events).display.loading = true ↔
      ∃ x ∈ (View.run setup .start events).flights, NewestAsk setup events x := by
  have marked := Logged.marked_run setup events
  rw [Logged.run_view] at marked
  rw [marked ha]
  constructor
  · rintro ⟨x, hx, hask⟩
    rw [← Logged.run_view] at hx hask
    exact ⟨x, Logged.run_view setup events ▸ hx, newestAsk_of_asks setup events hx hask⟩
  · rintro ⟨x, hx, before, caller, url, after, rfl, unasked, rfl⟩
    refine ⟨_, hx, ?_⟩
    have later : after.countP Event.isResolve = 0 :=
      List.countP_eq_zero.2 fun e he => by simp [unasked e he]
    simp [Flight.asks, generation_run, List.countP_cons, later, View.start, Event.isResolve]

/-- The first of two resolutions is answered while the second one waits. -/
def answeredLate : List Event :=
  [.resolve 0 "a", .resolve 0 "b", .answered 0 (.actor (.ok (some (bare "a"))))]

/-- The answer to the second one. -/
def answeredLast : Event := .answered 1 (.actor (.ok (some (bare "b"))))

theorem loading_until_newest_answered :
    (View.run usual .start answeredLate).display.loading = true ∧
    ¬ (View.run usual .start (answeredLate ++ [answeredLast])).display.loading = true := by
  constructor
  · refine (loading_iff_newest_waits usual answeredLate rfl).2 ⟨(1, .actor 0 2 "b"), ?_, ?_⟩
    · decide +kernel
    · exact ⟨[.resolve 0 "a"], 0, "b", _, rfl, by simp [Event.isResolve], by decide +kernel⟩
  · intro mark
    have flights : (View.run usual .start (answeredLate ++ [answeredLast])).flights =
        [(2, .status "b" 1 (.returns 0))] := by decide +kernel
    obtain ⟨x, hx, before, caller, url, after, -, -, rfl⟩ :=
      (loading_iff_newest_waits usual _ (by decide +kernel)).1 mark
    rw [flights] at hx
    simp at hx

end FollowClient.View
