import FollowClient.Proofs.View.Supersession

/-!
The parts of a profile: the sizes of its two collections, and its outbox. A step asks for the parts
of the profile that it installs, and for nothing else; so a load that is in the air, or has landed,
belongs to a resolution that has installed its profile.
-/

namespace FollowClient.View

/-! ### What a step asks for -/

/-- The call loads a part of a profile. -/
def Call.isLoad : Call → Bool
  | .count _ | .outbox _ _ => true
  | _ => false

/-- The loads among what a step does. -/
def asked (outputs : List Output) : List Call := ((callsOf outputs).map (·.2)).filter Call.isLoad

/-- The calls for the parts of a profile: a part without a URL is not asked for. -/
def partsOf (settings : FollowSettings) (p : Profile) : List Call :=
  (if p.followers.isEmpty then [] else [.count p.followers]) ++
  (if p.following.isEmpty then [] else [.count p.following]) ++
  (if p.outbox.isEmpty then [] else [.outbox p.outbox settings.outboxPageSize])

theorem asked_append (l l' : List Output) : asked (l ++ l') = asked l ++ asked l' := by
  simp [asked, callsOf]

theorem filter_partsOf (settings : FollowSettings) (p : Profile) :
    (partsOf settings p).filter Call.isLoad = partsOf settings p := by
  refine List.filter_eq_self.2 fun c hc => ?_
  simp only [partsOf, List.mem_append] at hc
  rcases hc with (hc | hc) | hc <;> split at hc <;> simp_all [Call.isLoad]

theorem map_call_loads (settings : FollowSettings) (caller generation : Nat) (p : Profile) :
    (loads caller generation p).map (·.call settings) = partsOf settings p := by
  unfold loads partsOf
  rw [List.map_append, List.map_append]
  congr 1
  · congr 1 <;> split <;> rfl
  · split <;> rfl

section Asked

variable (setup : Setup) (v : View)

theorem asked_readStatus (after : AfterRead) : asked (v.readStatus setup after).2 = [] := by
  rw [readStatus_eq]
  split
  · rfl
  · rw [asked, afterRead_calls]
    rfl

theorem asked_closeResolution (caller generation : Nat) :
    asked (v.closeResolution setup caller generation).2 = [] := by
  unfold closeResolution
  split
  · rfl
  · split
    · exact asked_readStatus setup v _
    · rfl

theorem asked_issueAll (v : View) (fs : List Flight) :
    asked (issueAll setup v fs).2 = (fs.map (·.call setup.settings)).filter Call.isLoad := by
  rw [asked, (issueAll_makes setup v fs).calls_eq]

theorem asked_effect (l : Landing) : asked (l.effect setup v).2 =
    ((l.installed? v).map (partsOf setup.settings)).getD [] := by
  cases l with
  | actor caller generation url r =>
    rw [Landing.effect, landActor_eq]
    by_cases hc : v.isCurrent generation = true
    · rcases r with f | _ | p
      · simp [hc, Landing.installed?, required]
        rfl
      · simp [hc, Landing.installed?, required]
        rfl
      · simp only [hc, Landing.installed?, required, if_true, Effect.andThen, asked_append,
          asked_closeResolution, asked_issueAll, map_call_loads, filter_partsOf, List.append_nil]
        rfl
    · rcases r with f | _ | p <;> simp [hc, Landing.installed?] <;> rfl
  | count caller generation which r => exact asked_closeResolution setup _ caller generation
  | outbox caller generation r => exact asked_closeResolution setup _ caller generation
  | status who epoch after r =>
    simp only [Landing.effect, landRead]
    split
    · exact asked_readStatus setup _ _
    · rw [asked, afterRead_calls]
      rfl
  | request caller who prior optimistic r =>
    rw [Landing.effect, landRequest_eq]
    split
    · cases r <;> exact asked_readStatus setup _ _
    · rfl

/-- **A step asks for the parts of the profile that it installs**, and for nothing else. -/
theorem asked_step (e : Event) : asked (v.step setup e).2 =
    ((v.installed? e).map (partsOf setup.settings)).getD [] := by
  cases e with
  | answered ticket a =>
    rw [step_answered]
    unfold installed?
    split
    · next l hl =>
      rw [asked_effect, hl]
      rfl
    · next hl =>
      rw [hl]
      rfl
  | resolve caller url =>
    simp only [step, react, resolve]
    split
    · rfl
    · split <;> rfl
  | toggle caller =>
    simp only [step, react, toggle]
    split
    · split
      · simp only [asked, callsOf, issue, Flight.call, List.filterMap_cons, Output.call?]
        split <;> rfl
      · rfl
    · rfl
  | refresh caller => exact asked_readStatus setup _ _
  | pollDue =>
    simp only [step, react, pollDue]
    split
    · split
      · exact asked_readStatus setup _ _
      · rfl
    · rfl
  | recheckDue =>
    simp only [step, react, recheckDue]
    split
    · split
      · split
        · exact asked_readStatus setup _ _
        · rfl
      · rfl
    · rfl
  | _ => rfl

end Asked

/-! ### What a step shows of the parts -/

/-- The displayed size of a collection. -/
def Display.size (d : Display) : Collection → Option Nat
  | .followers => d.followers
  | .following => d.following

/-- What is displayed of an outbox that was fetched. -/
def OutboxState.ofResult : Except Failure (List Activity) → OutboxState
  | .ok items => .loaded items
  | .error f => .failed f.message

theorem OutboxState.ofResult_eq_loaded_iff {r : Except Failure (List Activity)}
    {items : List Activity} : OutboxState.ofResult r = .loaded items ↔ r = .ok items := by
  cases r <;> simp [OutboxState.ofResult]

theorem OutboxState.ofResult_eq_failed_iff {r : Except Failure (List Activity)} {m : String} :
    OutboxState.ofResult r = .failed m ↔ ∃ f, r = .error f ∧ f.message = m := by
  cases r <;> simp [OutboxState.ofResult]

theorem OutboxState.ofResult_ne_loading (r : Except Failure (List Activity)) :
    OutboxState.ofResult r ≠ .loading := by
  cases r <;> simp [OutboxState.ofResult]

theorem OutboxState.ofResult_ne_unavailable (r : Except Failure (List Activity)) :
    OutboxState.ofResult r ≠ .unavailable := by
  cases r <;> simp [OutboxState.ofResult]

/-- The outbox of a profile that has just been installed. -/
def OutboxState.ofProfile (p : Profile) : OutboxState :=
  if p.outbox.isEmpty then .unavailable else .loading

/-- The outbox that a landing brings to the newest resolution. -/
def Landing.outbox? (v : View) : Landing → Option (Except Failure (List Activity))
  | .outbox _ generation r => if v.isCurrent generation then some r else none
  | _ => none

/-- The size that a landing brings to the newest resolution. -/
def Landing.size? (v : View) (which : Collection) : Landing → Option Nat
  | .count _ generation w (.ok n) => if w = which ∧ v.isCurrent generation then some n else none
  | _ => none

/-- The outbox that a step displays. -/
def outbox? (v : View) (e : Event) : Option (Except Failure (List Activity)) :=
  (v.landing? e).bind (Landing.outbox? v)

/-- The size of a collection that a step displays. -/
def size? (v : View) (which : Collection) (e : Event) : Option Nat :=
  (v.landing? e).bind (Landing.size? v which)

section Shown

variable (setup : Setup) (v : View)

theorem install_outbox (p : Profile) : (v.install p).display.outbox = .ofProfile p := by
  by_cases h : v.display.actorId = some p.id <;> simp [install, h, OutboxState.ofProfile]

theorem install_size (p : Profile) (which : Collection) : (v.install p).display.size which =
    if v.display.actorId = some p.id then v.display.size which else none := by
  by_cases h : v.display.actorId = some p.id <;> cases which <;>
    simp [install, h, Display.size]

theorem landStatus_parts (who : String) (epoch : Nat) (r : Except Failure FollowStatus) :
    (v.landStatus setup who epoch r).display.outbox = v.display.outbox ∧
    ∀ which, (v.landStatus setup who epoch r).display.size which = v.display.size which := by
  rw [landStatus_eq]
  cases r with
  | error f => exact ⟨rfl, fun _ => rfl⟩
  | ok s =>
    dsimp only
    split
    · rw [(syncPoll_frame setup _ _).1]
      exact ⟨rfl, fun which => by cases which <;> rfl⟩
    · exact ⟨rfl, fun _ => rfl⟩

theorem landRequest_parts (caller : Nat) (who : String) (prior optimistic : FollowStatus)
    (r : Except Failure Unit) :
    (v.landRequest setup caller who prior optimistic r).1.display.outbox = v.display.outbox ∧
    ∀ which, (v.landRequest setup caller who prior optimistic r).1.display.size which =
      v.display.size which := by
  rw [landRequest_eq]
  split
  · cases r <;> simp only [readStatus_frame, syncPoll_frame] <;>
      exact ⟨rfl, fun which => by cases which <;> rfl⟩
  · exact ⟨rfl, fun _ => rfl⟩

theorem effect_outbox (l : Landing) : (l.effect setup v).1.display.outbox =
    match l.installed? v, l.outbox? v with
    | some p, _ => .ofProfile p
    | none, some r => .ofResult r
    | none, none => v.display.outbox := by
  cases l with
  | actor caller generation url r =>
    rw [Landing.effect, landActor_eq]
    by_cases hc : v.isCurrent generation = true
    · rcases r with f | _ | p
      · simp [hc, Landing.installed?, Landing.outbox?, required, failResolution]
      · simp [hc, Landing.installed?, Landing.outbox?, required, failResolution]
      · simp [hc, Landing.installed?, required, Effect.andThen, install_outbox]
    · rcases r with f | _ | p <;> simp [hc, Landing.installed?, Landing.outbox?]
  | count caller generation which r =>
    rw [Landing.effect, (closeResolution_frame setup _ caller generation).1]
    unfold landCount
    split
    · split
      · cases which <;> rfl
      · rfl
    · rfl
  | outbox caller generation r =>
    rw [Landing.effect, (closeResolution_frame setup _ caller generation).1]
    by_cases hc : v.isCurrent generation = true
    · cases r <;> simp only [landOutbox, hc, if_true, Landing.installed?, Landing.outbox?] <;> rfl
    · simp [landOutbox, hc, Landing.installed?, Landing.outbox?]
  | status who epoch after r =>
    rw [Landing.effect, (landRead_frame setup v who epoch after r).1]
    exact (landStatus_parts setup v who epoch r).1
  | request caller who prior optimistic r =>
    exact (landRequest_parts setup v caller who prior optimistic r).1

theorem effect_size (l : Landing) (which : Collection) :
    (l.effect setup v).1.display.size which =
    match l.installed? v, l.size? v which with
    | some p, _ => if v.display.actorId = some p.id then v.display.size which else none
    | none, some n => some n
    | none, none => v.display.size which := by
  cases l with
  | actor caller generation url r =>
    rw [Landing.effect, landActor_eq]
    by_cases hc : v.isCurrent generation = true
    · rcases r with f | _ | p
      · simp only [hc, Landing.installed?, Landing.size?, required, if_true]
        cases which <;> rfl
      · simp only [hc, Landing.installed?, Landing.size?, required, if_true]
        cases which <;> rfl
      · simp [hc, Landing.installed?, required, Effect.andThen, install_size]
    · rcases r with f | _ | p <;> simp [hc, Landing.installed?, Landing.size?]
  | count caller generation w r =>
    rw [Landing.effect, (closeResolution_frame setup _ caller generation).1]
    cases r with
    | error f => rfl
    | ok n =>
      by_cases hc : v.isCurrent generation = true
      · cases w <;> cases which <;>
          simp [landCount, settle, hc, Landing.installed?, Landing.size?, Display.size]
      · simp [landCount, settle, hc, Landing.installed?, Landing.size?]
  | outbox caller generation r =>
    rw [Landing.effect, (closeResolution_frame setup _ caller generation).1]
    unfold landOutbox
    split
    · split <;> cases which <;> rfl
    · rfl
  | status who epoch after r =>
    rw [Landing.effect, (landRead_frame setup v who epoch after r).1]
    exact (landStatus_parts setup v who epoch r).2 which
  | request caller who prior optimistic r =>
    exact (landRequest_parts setup v caller who prior optimistic r).2 which

theorem step_parts_of_landing?_eq_none {e : Event} (h : v.landing? e = none) :
    (v.step setup e).1.display.outbox = v.display.outbox ∧
    ∀ which, (v.step setup e).1.display.size which = v.display.size which := by
  cases e with
  | answered ticket a =>
    rw [step_answered, h]
    exact ⟨rfl, fun _ => rfl⟩
  | resolve caller url =>
    simp only [step, react, resolve]
    split
    · exact ⟨rfl, fun _ => rfl⟩
    · split <;> exact ⟨rfl, fun which => by cases which <;> rfl⟩
  | toggle caller =>
    simp only [step, react, toggle]
    split
    · split
      · exact ⟨rfl, fun which => by cases which <;> rfl⟩
      · exact ⟨rfl, fun _ => rfl⟩
    · exact ⟨rfl, fun _ => rfl⟩
  | _ => simp [step, react]

/-- The outbox starts anew with each profile, and is what the newest resolution has fetched. -/
theorem step_outbox (e : Event) : (v.step setup e).1.display.outbox =
    match v.installed? e, v.outbox? e with
    | some p, _ => .ofProfile p
    | none, some r => .ofResult r
    | none, none => v.display.outbox := by
  cases hl : v.landing? e with
  | none =>
    rw [(step_parts_of_landing?_eq_none setup v hl).1]
    simp [installed?, outbox?, hl]
  | some l =>
    obtain ⟨ticket, a, f, rfl, -, -⟩ := landing?_eq_some hl
    rw [step_of_landing hl, effect_outbox]
    simp only [installed?, outbox?, hl]
    rfl

/-- The sizes start anew with each actor, and are what the newest resolution has fetched. -/
theorem step_size (e : Event) (which : Collection) : (v.step setup e).1.display.size which =
    match v.installed? e, v.size? which e with
    | some p, _ => if v.display.actorId = some p.id then v.display.size which else none
    | none, some n => some n
    | none, none => v.display.size which := by
  cases hl : v.landing? e with
  | none =>
    rw [(step_parts_of_landing?_eq_none setup v hl).2]
    simp [installed?, size?, hl]
  | some l =>
    obtain ⟨ticket, a, f, rfl, -, -⟩ := landing?_eq_some hl
    rw [step_of_landing hl, effect_size]
    simp only [installed?, size?, hl]
    rfl

end Shown

/-! ### The resolution that a load belongs to -/

/-- The flight loads a part of the profile that resolution `g` has installed. -/
def Flight.loads (g : Nat) (p : Profile) : Flight → Prop
  | .count _ generation which url => generation = g ∧ url = which.urlOf p ∧ url.isEmpty = false
  | .outbox _ generation url => generation = g ∧ url = p.outbox ∧ url.isEmpty = false
  | _ => False

/-- The landing is that of a part of a profile. -/
def Landing.isLoad : Landing → Bool
  | .count .. | .outbox .. => true
  | _ => false

/-- A call was made by resolution `g`, which was the newest one then. -/
def CalledBy (log : List Entry) (g ticket : Nat) (c : Call) : Prop :=
  ∃ newer older, log = newer ++ .did (.call ticket c) :: older ∧ starts older = g

theorem CalledBy.append {log : List Entry} {g ticket : Nat} {c : Call}
    (h : CalledBy log g ticket c) (l : List Entry) : CalledBy (l ++ log) g ticket c := by
  obtain ⟨newer, older, rfl, hs⟩ := h
  exact ⟨l ++ newer, older, (List.append_assoc ..).symm, hs⟩

/-- A landed load was called by the resolution that has installed its profile. -/
def Stems (setup : Setup) (log : List Entry) (ticket : Nat) (l : Landing) : Prop :=
  ∃ (f : Flight) (a : Answer) (g : Nat) (p : Profile), f.landing? a = some l ∧
    (g, p) ∈ wins log ∧ f.loads g p ∧ CalledBy log g ticket (f.call setup.settings)

/-- **Loads belong to installed profiles.** -/
structure Granted (setup : Setup) (s : Logged) : Prop where
  flights : ∀ x ∈ s.view.flights, (x.2.call setup.settings).isLoad = true →
    ∃ g p, (g, p) ∈ wins s.log ∧ x.2.loads g p
  landings : ∀ ticket l, .landed ticket l ∈ s.log → l.isLoad = true →
    Stems setup s.log ticket l
  /-- Whatever was asked for is a part of an installed profile. -/
  calls : ∀ ticket c, .did (.call ticket c) ∈ s.log → c.isLoad = true →
    ∃ g p, (g, p) ∈ wins s.log ∧ c ∈ partsOf setup.settings p
  /-- An outbox that an installed profile has is waited for, or it has come. -/
  outboxes : ∀ g p, (g, p) ∈ wins s.log → p.outbox.isEmpty = false →
    (∃ x ∈ s.view.flights, ∃ caller, x.2 = .outbox caller g p.outbox) ∨
    ∃ ticket caller r, .landed ticket (.outbox caller g r) ∈ s.log

theorem granted_start (setup : Setup) : Granted setup .start where
  flights := by simp [Logged.start, start]
  landings := by simp [Logged.start]
  calls := by simp [Logged.start]
  outboxes := by simp [Logged.start, wins]

section Granted

variable {setup : Setup} {s : Logged} {e : Event} {fs : List Flight}

theorem wins_step (hs : Sound setup s) (e : Event) : wins (s.step setup e).log =
    ((s.view.installed? e).map (s.view.generation, ·)).toList ++ wins s.log := wins_entries hs e

theorem mem_wins_step (hs : Sound setup s) {x : Nat × Profile} (h : x ∈ wins s.log) :
    x ∈ wins (s.step setup e).log := by
  rw [wins_step hs]
  exact List.mem_append_right _ h

theorem mem_wins_of_installed (hs : Sound setup s) {p : Profile}
    (h : s.view.installed? e = some p) :
    (s.view.generation, p) ∈ wins (s.step setup e).log := by
  rw [wins_step hs, h]
  exact List.mem_cons_self

/-- A step that makes a load has installed the profile that the load is for. -/
theorem installed?_of_load {c : Call} (h : c ∈ (callsOf (s.view.step setup e).2).map (·.2))
    (hl : c.isLoad = true) :
    ∃ p, s.view.installed? e = some p ∧ c ∈ partsOf setup.settings p := by
  have hm : c ∈ asked (s.view.step setup e).2 := List.mem_filter.2 ⟨h, hl⟩
  rw [asked_step] at hm
  cases hi : s.view.installed? e with
  | none =>
    rw [hi] at hm
    cases hm
  | some p =>
    rw [hi] at hm
    exact ⟨p, rfl, hm⟩

theorem step_of_installed? (setup : Setup) {p : Profile} (h : s.view.installed? e = some p) :
    (s.view.step setup e).1.generation = s.view.generation ∧
    (s.view.step setup e).1.display.profile = some p := by
  obtain ⟨caller, url, hl, -⟩ := installed?_eq_some.1 h
  obtain ⟨ticket, a, f, rfl, -, -⟩ := landing?_eq_some hl
  refine ⟨step_generation setup _ _, ?_⟩
  rw [step_profile, h]
  rfl

theorem loads_of_issued {p : Profile} {f : Flight} (hi : s.view.installed? e = some p)
    (h : Issued setup s.view (s.view.step setup e).1 f)
    (hl : (f.call setup.settings).isLoad = true) : f.loads s.view.generation p := by
  obtain ⟨hg, hp⟩ := step_of_installed? setup hi
  cases f with
  | count caller generation which url =>
    obtain ⟨-, rfl, q, hq, hu, he⟩ := h
    obtain rfl : q = p := Option.some.inj (hq.symm.trans hp)
    exact ⟨hg, hu, he⟩
  | outbox caller generation url =>
    obtain ⟨-, rfl, q, hq, hu, he⟩ := h
    obtain rfl : q = p := Option.some.inj (hq.symm.trans hp)
    exact ⟨hg, hu, he⟩
  | actor caller generation url => cases hl
  | status who epoch after => cases hl
  | request caller who prior optimistic =>
    simp only [Flight.call] at hl
    split at hl <;> cases hl

theorem landing?_isLoad {f : Flight} {a : Answer} {l : Landing} (h : f.landing? a = some l)
    (hl : l.isLoad = true) (settings : FollowSettings) : (f.call settings).isLoad = true := by
  cases f <;> cases a <;> simp only [Flight.landing?, Option.some.injEq, reduceCtorEq] at h <;>
    subst h <;> first | rfl | cases hl

theorem generation?_of_loads {f : Flight} {g : Nat} {p : Profile} (h : f.loads g p) :
    f.generation? = some g := by
  cases f with
  | count caller generation which url => exact congrArg some h.1
  | outbox caller generation url => exact congrArg some h.1
  | _ => cases h

theorem flights_step (hs : Sound setup s) (h : Granted setup s)
    (hc : StepCalls setup s.view e fs) {x : Nat × Flight}
    (hx : x ∈ (s.step setup e).view.flights) (hl : (x.2.call setup.settings).isLoad = true) :
    ∃ g p, (g, p) ∈ wins (s.step setup e).log ∧ x.2.loads g p := by
  rcases hc.mem hx with hx | hx
  · obtain ⟨g, p, hw, hp⟩ := h.flights x (others_sublist.subset hx) hl
    exact ⟨g, p, mem_wins_step hs hw, hp⟩
  · have hm := (mem_ticketed hx).2.2
    have hcall : x.2.call setup.settings ∈ (callsOf (s.view.step setup e).2).map (·.2) := by
      rw [hc.makes.calls_eq]
      exact List.mem_map_of_mem hm
    obtain ⟨p, hi, -⟩ := installed?_of_load hcall hl
    exact ⟨s.view.generation, p, mem_wins_of_installed hs hi,
      loads_of_issued hi (hc.issued _ hm) hl⟩

theorem landings_step (hs : Sound setup s) (h : Granted setup s) {ticket : Nat} {l : Landing}
    (hm : .landed ticket l ∈ (s.step setup e).log) (hl : l.isLoad = true) :
    Stems setup (s.step setup e).log ticket l := by
  rcases List.mem_append.1 hm with hm | hm
  · obtain ⟨-, a, f, rfl, hf, hla⟩ := mem_landed_of_mem_entries hm
    obtain ⟨g, p, hw, hp⟩ := h.flights _ hf (landing?_isLoad hla hl setup.settings)
    obtain ⟨newer, older, hlog, -, -, hg⟩ := hs.recorded _ hf
    have made : CalledBy s.log g ticket (f.call setup.settings) :=
      ⟨newer, older, hlog, (hg g (generation?_of_loads hp)).symm⟩
    exact ⟨f, a, g, p, hla, mem_wins_step hs hw, hp, made.append _⟩
  · obtain ⟨f, a, g, p, hla, hw, hp, made⟩ := h.landings ticket l hm hl
    exact ⟨f, a, g, p, hla, mem_wins_step hs hw, hp, made.append _⟩

theorem calls_step (hs : Sound setup s) (h : Granted setup s) {ticket : Nat} {c : Call}
    (hm : .did (.call ticket c) ∈ (s.step setup e).log) (hl : c.isLoad = true) :
    ∃ g p, (g, p) ∈ wins (s.step setup e).log ∧ c ∈ partsOf setup.settings p := by
  rcases List.mem_append.1 hm with hm | hm
  · have hcall := List.mem_map_of_mem (f := Prod.snd) (mem_call_of_mem_entries hm)
    obtain ⟨p, hi, hp⟩ := installed?_of_load hcall hl
    exact ⟨s.view.generation, p, mem_wins_of_installed hs hi, hp⟩
  · obtain ⟨g, p, hw, hp⟩ := h.calls ticket c hm hl
    exact ⟨g, p, mem_wins_step hs hw, hp⟩

theorem outbox_issued {p : Profile} (hc : StepCalls setup s.view e fs)
    (hi : s.view.installed? e = some p) (hp : p.outbox.isEmpty = false) :
    ∃ x ∈ (s.step setup e).view.flights, ∃ caller,
      x.2 = .outbox caller s.view.generation p.outbox := by
  have hm : Call.outbox p.outbox setup.settings.outboxPageSize ∈
      asked (s.view.step setup e).2 := by
    rw [asked_step, hi]
    simp [partsOf, hp]
  have hm' := (List.mem_filter.1 hm).1
  rw [hc.makes.calls_eq] at hm'
  obtain ⟨f, hf, hcall⟩ := List.mem_map.1 hm'
  have hl := loads_of_issued hi (hc.issued f hf) (by rw [hcall]; rfl)
  rw [← map_snd_ticketed s.view.nextTicket fs] at hf
  obtain ⟨x, hx, rfl⟩ := List.mem_map.1 hf
  have form : ∃ caller, x.2 = .outbox caller s.view.generation p.outbox := by
    match hxf : x.2 with
    | .outbox caller generation url =>
      rw [hxf] at hl
      obtain ⟨rfl, rfl, -⟩ := hl
      exact ⟨caller, rfl⟩
    | .count .. | .actor .. | .status .. =>
      rw [hxf] at hcall
      cases hcall
    | .request .. =>
      rw [hxf] at hl
      cases hl
  obtain ⟨caller, hxf⟩ := form
  exact ⟨x, hc.kept (List.mem_append_right _ hx) (by rw [hxf]; rfl), caller, hxf⟩

theorem outboxes_step (hs : Sound setup s) (h : Granted setup s)
    (hc : StepCalls setup s.view e fs) {g : Nat} {p : Profile}
    (hw : (g, p) ∈ wins (s.step setup e).log) (hp : p.outbox.isEmpty = false) :
    (∃ x ∈ (s.step setup e).view.flights, ∃ caller, x.2 = .outbox caller g p.outbox) ∨
    ∃ ticket caller r, .landed ticket (.outbox caller g r) ∈ (s.step setup e).log := by
  rw [wins_step hs] at hw
  rcases List.mem_append.1 hw with hw | hw
  · obtain ⟨q, hi, heq⟩ := Option.map_eq_some_iff.1 (Option.mem_toList.1 hw)
    cases heq
    exact .inl (outbox_issued hc hi hp)
  · rcases h.outboxes g p hw hp with ⟨x, hx, caller, hxf⟩ | ⟨ticket, caller, r, hm⟩
    · obtain ⟨ticket, f⟩ := x
      obtain rfl : f = .outbox caller g p.outbox := hxf
      rcases mem_others_or_landed hs.nodup hx e with ho | ⟨a, l, rfl, hfl, hl⟩
      · exact .inl ⟨_, hc.stays ho rfl, caller, rfl⟩
      · refine .inr ?_
        cases a with
        | outbox r =>
          obtain rfl : Landing.outbox caller g r = l := Option.some.inj hfl
          exact ⟨ticket, caller, r, List.mem_append_left _ (mem_entries_of_landing? hl)⟩
        | _ => cases hfl
    · exact .inr ⟨ticket, caller, r, List.mem_append_right _ hm⟩

theorem granted_step (hs : Sound setup s) (h : Granted setup s) (e : Event) :
    Granted setup (s.step setup e) := by
  obtain ⟨fs, hc⟩ := step_calls setup s.view e
  exact ⟨fun _ => flights_step hs h hc, fun _ _ => landings_step hs h,
    fun _ _ => calls_step hs h, fun _ _ => outboxes_step hs h hc⟩

/-! ### Every run -/

/-- The profiles that won, and the loads that belong to them, agree with the view. -/
structure Dealt (setup : Setup) (s : Logged) : Prop where
  sound : Sound setup s
  newest : Newest s
  granted : Granted setup s

theorem dealt_start (setup : Setup) : Dealt setup .start :=
  ⟨sound_start setup, newest_start, granted_start setup⟩

theorem dealt_step (h : Dealt setup s) (e : Event) : Dealt setup (s.step setup e) :=
  ⟨sound_step h.sound e, newest_step h.sound h.newest e, granted_step h.sound h.granted e⟩

theorem Logged.dealt_run (setup : Setup) (events : List Event) : Dealt setup (run setup events) :=
  run_induction (dealt_start setup) (fun _ e h => dealt_step h e) events

/-- A size that has come is that of a collection of an installed profile. -/
theorem Granted.count (h : Granted setup s) {ticket caller g : Nat} {which : Collection}
    {r : Except Failure Nat} (hm : .landed ticket (.count caller g which r) ∈ s.log) :
    ∃ p, (g, p) ∈ wins s.log ∧ CalledBy s.log g ticket (.count (which.urlOf p)) := by
  obtain ⟨f, a, g', p, hla, hw, hp, made⟩ := h.landings _ _ hm rfl
  obtain ⟨url, rfl⟩ := landing?_eq_count hla
  obtain ⟨rfl, rfl, -⟩ := hp
  exact ⟨p, hw, made⟩

theorem Granted.outbox (h : Granted setup s) {ticket caller g : Nat}
    {r : Except Failure (List Activity)} (hm : .landed ticket (.outbox caller g r) ∈ s.log) :
    ∃ p, (g, p) ∈ wins s.log ∧
      CalledBy s.log g ticket (.outbox p.outbox setup.settings.outboxPageSize) := by
  obtain ⟨f, a, g', p, hla, hw, hp, made⟩ := h.landings _ _ hm rfl
  obtain ⟨url, rfl⟩ := landing?_eq_outbox hla
  obtain ⟨rfl, rfl, -⟩ := hp
  exact ⟨p, hw, made⟩

/-- Among the resolutions that won, the newest one of all is the first. -/
theorem Newest.head?_wins (h : Newest s) {g : Nat} {p : Profile} (hm : (g, p) ∈ wins s.log)
    (hg : g = starts s.log) : (wins s.log).head? = some (g, p) := by
  have falling := h.falling
  have small : ∀ x ∈ wins s.log, x.1 ≤ g := fun x hx => hg ▸ h.le_starts hx
  cases hw : wins s.log with
  | nil =>
    rw [hw] at hm
    cases hm
  | cons y l =>
    rw [hw] at hm falling small
    rcases List.mem_cons.1 hm with rfl | hm
    · rfl
    · have h1 := (List.pairwise_cons.1 falling).1 _ hm
      have h2 := small y List.mem_cons_self
      exact absurd h1 (Nat.not_lt.2 h2)

theorem Newest.eq_of_head?_wins (h : Newest s) {g : Nat} {p q : Profile}
    (hp : (wins s.log).head? = some (g, p)) (hq : (g, q) ∈ wins s.log) : q = p := by
  have falling := h.falling
  cases hw : wins s.log with
  | nil =>
    rw [hw] at hq
    cases hq
  | cons y l =>
    rw [hw] at hp hq falling
    obtain rfl : y = (g, p) := Option.some.inj hp
    rcases List.mem_cons.1 hq with heq | hq
    · exact congrArg Prod.snd heq
    · exact absurd ((List.pairwise_cons.1 falling).1 _ hq) (Nat.lt_irrefl g)

end Granted

end FollowClient.View
