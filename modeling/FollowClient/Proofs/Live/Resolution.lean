import FollowClient.View.Live
import FollowClient.Proofs.View.Steps

/-!
What the first resolution of a view comes to when every call is answered at once (`resolve_spec`). If
the actor can be had, it is displayed whatever becomes of the loads, with the status that the core
tells of its id; if not, only a message is.

The loads in the air are gone through one by one (`perform_closing`). No answer to them touches the
actor or its status, and after the last one the view reads the status.
-/

namespace FollowClient.Live

open View Net Text

variable {w : World} {s : Live} {p : Profile}

/-! ### One answer -/

theorem perform_nil (fuel : Nat) (last : Option ToggleResult) :
    perform w fuel s last [] = (s, last) := by
  cases fuel <;> rfl

theorem perform_returned (fuel caller : Nat) (last result : Option ToggleResult)
    (rest : List Output) : perform w (fuel + 1) s last (.returned caller result :: rest) =
      perform w fuel s result rest := rfl

theorem answer_view (s : Live) (call : Call) : (s.answer w call).2.view = s.view := by
  unfold answer
  cases call with
  | actor url =>
    dsimp only
    split <;> rfl
  | _ => dsimp only

theorem answer_count (url : String) :
    (s.answer w (.count url)).1 = .count (w.repository.fetchCount url w.network s.sent).1 := by
  simp only [answer]

theorem answer_outbox (url : String) (limit : Nat) : (s.answer w (.outbox url limit)).1 =
    .outbox (w.repository.fetchOutbox url limit w.network s.sent).1 := by
  simp only [answer]

theorem answer_status (who : String) :
    (s.answer w (.status who)).1 = .status (w.core.followingStatus who w.network s.sent).1 := by
  simp only [answer]

theorem cleared_head {v : View} {ticket : Nat} {f : Flight} {rest : List (Nat × Flight)} (a : Answer)
    (hf : v.flights = (ticket, f) :: rest) (hn : ∀ x ∈ v.flights, x.2.isLastTick = false)
    (hr : ∀ x ∈ rest, x.1 ≠ ticket) : v.cleared ticket a = { v with flights := rest } := by
  have kept : v.giveUpLastTick (.answered ticket a) = v := by
    unfold giveUpLastTick
    rw [List.filter_eq_self.2 fun x hx => by simp [hn x hx]]
  rw [cleared, kept]
  unfold withoutFlight
  rw [hf, List.filter_cons_of_neg (by simp), List.filter_eq_self.2 fun x hx => by simp [hr x hx]]

/-- The answer to the first call lands before anything else is done. -/
theorem perform_call {fuel ticket : Nat} {last : Option ToggleResult} {f : Flight} {call : Call}
    {l : Landing} {flights : List (Nat × Flight)} {rest : List Output}
    (hf : s.view.flights = (ticket, f) :: flights)
    (hn : ∀ x ∈ s.view.flights, x.2.isLastTick = false) (hr : ∀ x ∈ flights, x.1 ≠ ticket)
    (hl : f.landing? (s.answer w call).1 = some l) :
    perform w (fuel + 1) s last (.call ticket call :: rest) =
      perform w fuel
        { (s.answer w call).2 with view := (l.effect w.setup { s.view with flights }).1 } last
        ((l.effect w.setup { s.view with flights }).2 ++ rest) := by
  have opened : perform w (fuel + 1) s last (.call ticket call :: rest) =
      perform w fuel
        { (s.answer w call).2 with
          view := ((s.answer w call).2.view.step w.setup (.answered ticket (s.answer w call).1)).1 }
        last
        (((s.answer w call).2.view.step w.setup (.answered ticket (s.answer w call).1)).2 ++
          rest) := rfl
  have lands : s.view.landing? (.answered ticket (s.answer w call).1) = some l := by
    rw [landing?, flight?, hf, List.lookup_cons_self, Option.bind_some, hl]
  rw [opened, answer_view, step_of_landing lands, cleared_head _ hf hn hr]

/-! ### The last read -/

/-- A view in its first resolution displays an actor, and waits for the answers of these calls. -/
structure Shows (p : Profile) (flights : List (Nat × Flight)) (v : View) : Prop where
  profile : v.display.profile = some p
  status : v.display.relationship.status = .none
  flights : v.flights = flights
  alive : v.alive = true
  generation : v.generation = 1

/-- An actor is displayed with the status that the core told of its id, or with none if the core
told nothing. -/
def Resolved (w : World) (p : Profile) (s : Live) : Prop :=
  s.view.display.profile = some p ∧ ∃ sent,
    s.view.display.relationship.status =
      ((w.core.followingStatus p.id w.network sent).1.toOption).getD .none

theorem landRead_resolved (setup : Setup) {v : View} (caller : Nat) (h : Shows p [] v)
    (r : Except Failure FollowStatus) : ∃ v',
      v.landRead setup p.id v.display.relationship.epoch (.returns caller) r =
        (v', [.returned caller none]) ∧
      v'.display.profile = some p ∧ v'.display.relationship.status = r.toOption.getD .none := by
  refine ⟨v.landStatus setup p.id v.display.relationship.epoch r, rfl, ?_, ?_⟩
  · rw [(v.landStatus_frame setup _ _ r).1, h.profile]
  · have shown : v.display.actorId = some p.id := by rw [Display.actorId, h.profile]; rfl
    rw [landStatus_eq]
    cases r with
    | error f => exact h.status
    | ok reported =>
      have used : v.display.relationship.accepts v.display.relationship.epoch reported = true := by
        simp [Relationship.accepts, Relationship.isFollowing, h.status, FollowStatus.isFollowing]
      dsimp only
      rw [if_pos (by simp [h.alive, shown]), (syncPoll_frame _ _ _).1]
      exact Relationship.report_status_of_accepts used

theorem perform_status {fuel ticket caller : Nat} {last : Option ToggleResult}
    (h : Shows p [(ticket, .status p.id s.view.display.relationship.epoch (.returns caller))] s.view) :
    Resolved w p (perform w (fuel + 2) s last [.call ticket (.status p.id)]).1 := by
  have alone : Shows p [] { s.view with flights := [] } :=
    ⟨h.profile, h.status, rfl, h.alive, h.generation⟩
  obtain ⟨v', landed, profile, status⟩ := landRead_resolved w.setup caller alone
    (w.core.followingStatus p.id w.network s.sent).1
  have lands : (Flight.status p.id s.view.display.relationship.epoch (.returns caller)).landing?
      (s.answer w (.status p.id)).1 = some (.status p.id s.view.display.relationship.epoch
        (.returns caller) (w.core.followingStatus p.id w.network s.sent).1) := by
    rw [answer_status, Flight.landing?]
  rw [perform_call h.flights (by simp [h.flights, Flight.isLastTick]) (by simp) lands,
    Landing.effect, landed, List.append_nil, perform_returned, perform_nil]
  exact ⟨profile, _, status⟩

theorem perform_read {v : View} {fuel caller : Nat} {last : Option ToggleResult} (h : Shows p [] v)
    (hc : w.setup.hasControl = true) :
    Resolved w p (perform w (fuel + 2) { s with view := (v.readStatus w.setup (.returns caller)).1 }
      last (v.readStatus w.setup (.returns caller)).2).1 := by
  have issued : v.readStatus w.setup (.returns caller) =
      v.issue w.setup (.status p.id v.display.relationship.epoch (.returns caller)) := by
    unfold readStatus
    simp [h.profile, h.alive, hc]
  have reading : Shows p
      [(v.nextTicket, .status p.id v.display.relationship.epoch (.returns caller))]
      (v.issue w.setup (.status p.id v.display.relationship.epoch (.returns caller))).1 :=
    ⟨h.profile, h.status, congrArg (· ++ [_]) h.flights, h.alive, h.generation⟩
  rw [issued]
  exact perform_status (s := { s with view := _ }) reading

/-! ### The loads -/

theorem closeResolution_nil {setup : Setup} {v : View} (h : Shows p [] v) (caller : Nat) :
    v.closeResolution setup caller 1 = v.readStatus setup (.returns caller) := by
  simp [closeResolution, isCurrent, h.flights, h.alive, h.generation]

theorem closeResolution_cons {setup : Setup} {v : View} {x : Nat × Flight}
    {rest : List (Nat × Flight)} (h : Shows p (x :: rest) v) (hx : x.2.isLoadOf 1 = true)
    (caller : Nat) : v.closeResolution setup caller 1 = (v, []) := by
  simp [closeResolution, h.flights, hx]

/-- The calls of flights, with their tickets. -/
def callsFor (setup : Setup) (flights : List (Nat × Flight)) : List Output :=
  flights.map fun x => .call x.1 (x.2.call setup.settings)

/-- Whatever the answer to a load, what is displayed of the actor and its status stays. -/
theorem land_load {f : Flight} {v : View} {flights : List (Nat × Flight)} (hf : f.isLoadOf 1 = true)
    (h : Shows p flights v) : ∃ l caller v', Shows p flights v' ∧
      f.landing? (s.answer w (f.call w.setup.settings)).1 = some l ∧
      l.effect w.setup v = v'.closeResolution w.setup caller 1 := by
  cases f with
  | count caller generation which url =>
    obtain rfl : generation = 1 := by simpa [Flight.isLoadOf] using hf
    obtain ⟨r, told⟩ : ∃ r, (s.answer w (.count url)).1 = .count r := ⟨_, answer_count url⟩
    obtain ⟨hg, ha, -, hp, hr, -, hfl, -⟩ := v.landCount_frame 1 which r
    refine ⟨.count caller 1 which r, caller, v.landCount 1 which r, ⟨hp.trans h.profile,
      (congrArg (·.status) hr).trans h.status, hfl.trans h.flights, ha.trans h.alive,
      hg.trans h.generation⟩, ?_, rfl⟩
    rw [Flight.call, told, Flight.landing?]
  | outbox caller generation url =>
    obtain rfl : generation = 1 := by simpa [Flight.isLoadOf] using hf
    obtain ⟨r, told⟩ : ∃ r, (s.answer w (.outbox url w.setup.settings.outboxPageSize)).1 =
      .outbox r := ⟨_, answer_outbox url _⟩
    obtain ⟨hg, ha, -, hp, hr, -, hfl, -⟩ := v.landOutbox_frame 1 r
    refine ⟨.outbox caller 1 r, caller, v.landOutbox 1 r, ⟨hp.trans h.profile,
      (congrArg (·.status) hr).trans h.status, hfl.trans h.flights, ha.trans h.alive,
      hg.trans h.generation⟩, ?_, rfl⟩
    rw [Flight.call, told, Flight.landing?]
  | _ => simp [Flight.isLoadOf] at hf

theorem isLastTick_of_isLoadOf {f : Flight} {g : Nat} (h : f.isLoadOf g = true) :
    f.isLastTick = false := by
  cases f with
  | status who epoch after => simp [Flight.isLoadOf] at h
  | _ => rfl

/-- The loads that are left are answered, and the last answer makes the view read the status. -/
theorem perform_closing {flights : List (Nat × Flight)} {fuel caller : Nat} {v : View}
    {last : Option ToggleResult} (hc : w.setup.hasControl = true)
    (hn : (flights.map (·.1)).Nodup) (hl : ∀ x ∈ flights, x.2.isLoadOf 1 = true)
    (h : Shows p flights v) (hfuel : flights.length + 2 ≤ fuel) :
    Resolved w p (perform w fuel { s with view := (v.closeResolution w.setup caller 1).1 } last
      ((v.closeResolution w.setup caller 1).2 ++ callsFor w.setup flights)).1 := by
  induction flights generalizing s v fuel caller with
  | nil =>
    obtain ⟨fuel, rfl⟩ : ∃ n, fuel = n + 2 := ⟨fuel - 2, by omega⟩
    rw [closeResolution_nil h, callsFor, List.map_nil, List.append_nil]
    exact perform_read h hc
  | cons x rest ih =>
    obtain ⟨ticket, f⟩ := x
    obtain ⟨fuel, rfl⟩ : ∃ n, fuel = n + 1 := ⟨fuel - 1, by omega⟩
    rw [List.length_cons] at hfuel
    rw [List.map_cons, List.nodup_cons] at hn
    have left : Shows p rest { v with flights := rest } :=
      ⟨h.profile, h.status, rfl, h.alive, h.generation⟩
    obtain ⟨l, caller', v', shows, lands, landed⟩ :=
      land_load (w := w) (s := { s with view := v }) (hl _ List.mem_cons_self) left
    have steady : ∀ y ∈ v.flights, y.2.isLastTick = false := fun y hy =>
      isLastTick_of_isLoadOf (hl y (h.flights ▸ hy))
    have apart : ∀ y ∈ rest, y.1 ≠ ticket := fun y hy e => hn.1 (List.mem_map.2 ⟨y, hy, e⟩)
    rw [closeResolution_cons h (hl _ List.mem_cons_self), List.nil_append, callsFor, List.map_cons,
      ← callsFor, perform_call (s := { s with view := v }) h.flights steady apart lands, landed]
    exact ih hn.2 (fun x hx => hl x (List.mem_cons_of_mem _ hx)) shows (by omega)

/-! ### The first answer -/

theorem required_eq_ok {url : String} {r : Except Failure (Option Profile)} :
    required url r = .ok p ↔ r = .ok (some p) := by
  rcases r with f | _ | q <;> simp [required]

/-- An empty cache has every actor fetched. -/
theorem getActor_nil (repo : Repository) (now : Nat) {url : String} (hb : isBlankText url = false)
    (net : Network) (sent : List Request) : ∃ cache sent', repo.getActor now url [] net sent =
      (.ok ((repo.fetchActor (trim url) net sent).1, cache), sent') := by
  have missed : ActorCache.get repo.ttl now (trim url) [] = (none, []) := rfl
  cases hf : repo.fetchActor (trim url) net sent with
  | mk r sent' =>
    rcases r with f | _ | p <;>
      simp [Repository.getActor, Repository.getActorBetween, hb, missed, Exchange.bind_apply, hf]

theorem answer_actor {url : String} (hb : isBlankText url = false) (hs : s.cache = []) :
    (s.answer w (.actor url)).1 = .actor (w.repository.fetchActor (trim url) w.network s.sent).1 := by
  obtain ⟨cache, sent', found⟩ :=
    getActor_nil w.repository s.view.now hb w.network s.sent
  unfold answer
  dsimp only
  rw [hs, found]

theorem issueAll_eq (setup : Setup) (v : View) (fs : List Flight) :
    (issueAll setup v fs).1.flights = v.flights ++ ticketed v.nextTicket fs ∧
    (issueAll setup v fs).2 = callsFor setup (ticketed v.nextTicket fs) := by
  induction fs generalizing v with
  | nil => exact ⟨(List.append_nil _).symm, rfl⟩
  | cons f fs ih =>
    obtain ⟨flights, outputs⟩ := ih (v.issue setup f).1
    constructor
    · show (issueAll setup (v.issue setup f).1 fs).1.flights = _
      rw [flights]
      simp [issue, ticketed]
    · show (v.issue setup f).2 ++ (issueAll setup (v.issue setup f).1 fs).2 = _
      rw [outputs]
      rfl

theorem length_loads_le (caller generation : Nat) (p : Profile) :
    (loads caller generation p).length ≤ 3 := by
  unfold loads
  split <;> split <;> split <;> simp

theorem isLoadOf_of_mem_loads {caller generation : Nat} {f : Flight}
    (h : f ∈ loads caller generation p) : f.isLoadOf generation = true := by
  rcases mem_loads h with ⟨which, rfl, -⟩ | ⟨rfl, -⟩ <;> simp [Flight.isLoadOf]

/-- A view whose first actor has come. -/
def asked : View :=
  { View.start with
    generation := 1
    display := { Display.empty with loading := true }
    nextTicket := 1 }

/-- A view that waits for its first actor. -/
def asking (url : String) : View := { asked with flights := [(0, .actor 0 1 url)] }

theorem start_resolve {setup : Setup} {url : String} (hb : isBlankText url = false) :
    View.start.step setup (.resolve 0 url) = (asking (trim url), [.call 0 (.actor (trim url))]) := by
  show View.start.resolve setup 0 url = _
  unfold View.resolve
  simp [hb, View.start]
  rfl

theorem start_resolve_blank {setup : Setup} {url : String} (hb : isBlankText url = true) :
    View.start.step setup (.resolve 0 url) =
      ({ View.start with generation := 1 }.failResolution Failure.blankActor.message).returnTo 0
        none := by
  show View.start.resolve setup 0 url = _
  unfold View.resolve
  simp [hb, View.start]

/-- Nothing is displayed but a message. -/
def Unresolved (message : String) (s : Live) : Prop :=
  s.view.display.profile = none ∧ s.view.display.error = some message

theorem shows_asked (setup : Setup) :
    Shows p (ticketed 1 (loads 0 1 p)) ((asked.install p).issueAll setup (loads 0 1 p)).1 := by
  have other : asked.display.actorId ≠ some p.id := nofun
  obtain ⟨hd, hg, ha, -⟩ := issueAll_frame setup (asked.install p) (loads 0 1 p)
  obtain ⟨hg', ha', -, hp, hn⟩ := asked.install_frame p
  have cleared : (asked.install p).flights = [] := by
    unfold install
    rw [if_neg other]
    rfl
  refine ⟨?profile, ?status, ?flights, ha.trans ha', hg.trans hg'⟩
  case profile => rw [hd, hp]
  case status => rw [hd, install_relationship, if_neg other, Relationship.force_status]
  case flights =>
    rw [(issueAll_eq setup _ _).1, cleared, hn, List.nil_append]
    rfl

theorem perform_found {url : String} {r : Except Failure (Option Profile)} {fuel : Nat}
    {last : Option ToggleResult} (hc : w.setup.hasControl = true) (hr : required url r = .ok p)
    (hfuel : 5 ≤ fuel) :
    Resolved w p (perform w fuel { s with view := (asked.landActor w.setup 0 1 url r).1 } last
      (asked.landActor w.setup 0 1 url r).2).1 := by
  have landed : asked.landActor w.setup 0 1 url r =
      ((asked.install p).issueAll w.setup (loads 0 1 p)).andThen fun v =>
        v.closeResolution w.setup 0 1 := by
    rw [landActor_eq, hr]
    rfl
  have shows := shows_asked (p := p) w.setup
  have calls : ((asked.install p).issueAll w.setup (loads 0 1 p)).2 =
      callsFor w.setup (ticketed 1 (loads 0 1 p)) := by
    rw [(issueAll_eq w.setup _ _).2, (asked.install_frame p).2.2.2.2]
    rfl
  have load : ∀ x ∈ ticketed 1 (loads 0 1 p), x.2.isLoadOf 1 = true := fun x hx =>
    isLoadOf_of_mem_loads (mem_ticketed hx).2.2
  have few : (ticketed 1 (loads 0 1 p)).length ≤ 3 := by
    rw [length_ticketed]
    exact length_loads_le 0 1 p
  rw [landed, Effect.andThen]
  dsimp only
  rw [calls]
  generalize ((asked.install p).issueAll w.setup (loads 0 1 p)).1 = v at shows ⊢
  -- either there is no load to call for, or closing calls for nothing yet
  have swapped : callsFor w.setup (ticketed 1 (loads 0 1 p)) ++ (v.closeResolution w.setup 0 1).2 =
      (v.closeResolution w.setup 0 1).2 ++ callsFor w.setup (ticketed 1 (loads 0 1 p)) := by
    cases hl : loads 0 1 p with
    | nil => exact (List.append_nil _).symm
    | cons f fs =>
      rw [hl] at shows load
      rw [closeResolution_cons shows (load _ List.mem_cons_self), List.append_nil,
        List.nil_append]
  rw [swapped]
  exact perform_closing hc (nodup_ticketed _ _) load shows (by omega)

theorem perform_missed {url : String} {r : Except Failure (Option Profile)} {fuel : Nat}
    {last : Option ToggleResult} {f : Failure} (hr : required url r = .error f) :
    Unresolved f.message
      (perform w (fuel + 1) { s with view := (asked.landActor w.setup 0 1 url r).1 } last
        (asked.landActor w.setup 0 1 url r).2).1 := by
  have landed : asked.landActor w.setup 0 1 url r =
      (asked.failResolution f.message).returnTo 0 none := by
    rw [landActor_eq, hr]
    rfl
  rw [landed, returnTo, perform_returned, perform_nil]
  exact ⟨rfl, rfl⟩

/-! ### Whole resolutions -/

/-- What is left to do once the answer to the first call has come. -/
theorem resolve_of_asking {url : String} (hb : isBlankText url = false) : ∃ s : Live,
    (start []).resolve w url = (perform w 15
      { s with view := (asked.landActor w.setup 0 1 (trim url)
          (w.repository.fetchActor (trim url) w.network []).1).1 }
      none (asked.landActor w.setup 0 1 (trim url)
        (w.repository.fetchActor (trim url) w.network []).1).2).1 := by
  have answered : ({ start [] with view := asking (trim url) }.answer w (.actor (trim url))).1 =
      .actor (w.repository.fetchActor (trim url) w.network []).1 := by
    have found := answer_actor (w := w) (s := { start [] with view := asking (trim url) })
      ((isBlankText_trim url).trans hb) rfl
    rwa [trim_trim] at found
  have lands : (Flight.actor 0 1 (trim url)).landing?
      ({ start [] with view := asking (trim url) }.answer w (.actor (trim url))).1 =
        some (.actor 0 1 (trim url) (w.repository.fetchActor (trim url) w.network []).1) := by
    rw [answered, Flight.landing?]
  have opened : (start []).resolve w url = (perform w chain
      { start [] with view := (View.start.step w.setup (.resolve 0 url)).1 } none
      (View.start.step w.setup (.resolve 0 url)).2).1 := rfl
  rw [opened, start_resolve hb, chain,
    perform_call (s := { start [] with view := asking (trim url) }) rfl
      (by simp [asking, Flight.isLastTick]) (by simp) lands, List.append_nil]
  exact ⟨_, rfl⟩

/-- **What a resolution displays**: the actor that a repository without a cache has for the URL, with
the status that the core tells of its id, or why there is none. -/
theorem resolve_spec (hc : w.setup.hasControl = true) (url : String) :
    match required (trim url) (w.repository.uncachedActor url w.network []).1 with
    | .ok p => Resolved w p ((start []).resolve w url)
    | .error f => Unresolved f.message ((start []).resolve w url) := by
  cases hb : isBlankText url with
  | true =>
    have opened : (start []).resolve w url = (perform w chain
        { start [] with view := (View.start.step w.setup (.resolve 0 url)).1 } none
        (View.start.step w.setup (.resolve 0 url)).2).1 := rfl
    rw [Repository.uncachedActor_of_blank hb, opened, start_resolve_blank hb]
    exact ⟨rfl, rfl⟩
  | false =>
    obtain ⟨s, hs⟩ := resolve_of_asking (w := w) hb
    rw [Repository.uncachedActor_of_not_blank hb, hs]
    cases hr : required (trim url) (w.repository.fetchActor (trim url) w.network []).1 with
    | error f => exact perform_missed hr
    | ok p => exact perform_found hc hr (by omega)

end FollowClient.Live
