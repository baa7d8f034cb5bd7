import FollowClient.Proofs.View.Landing
import FollowClient.Proofs.View.Parts

/-!
The calls of a step. Every part of a step only drops flights that something else than their answer
may end, and then makes a list of new calls, numbered on from the next ticket.
-/

namespace FollowClient.View

/-! ### Numbered calls -/

/-- Flights with their tickets, from `n` on. -/
def ticketed (n : Nat) : List Flight → List (Nat × Flight)
  | [] => []
  | f :: fs => (n, f) :: ticketed (n + 1) fs

theorem ticketed_append (n : Nat) (fs gs : List Flight) :
    ticketed n (fs ++ gs) = ticketed n fs ++ ticketed (n + fs.length) gs := by
  induction fs generalizing n with
  | nil => rfl
  | cons f fs ih =>
    have e : n + (fs.length + 1) = n + 1 + fs.length := by omega
    simp only [List.cons_append, ticketed, ih, List.length_cons, e]

theorem mem_ticketed {n : Nat} {fs : List Flight} {x : Nat × Flight} (h : x ∈ ticketed n fs) :
    n ≤ x.1 ∧ x.1 < n + fs.length ∧ x.2 ∈ fs := by
  induction fs generalizing n with
  | nil => simp [ticketed] at h
  | cons f fs ih =>
    rcases List.mem_cons.1 h with rfl | h
    · simp
    · obtain ⟨h1, h2, h3⟩ := ih h
      refine ⟨by omega, ?_, List.mem_cons_of_mem _ h3⟩
      rw [List.length_cons]
      omega

theorem map_snd_ticketed (n : Nat) (fs : List Flight) : (ticketed n fs).map (·.2) = fs := by
  induction fs generalizing n with
  | nil => rfl
  | cons f fs ih => rw [ticketed, List.map_cons, ih]

theorem length_ticketed (n : Nat) (fs : List Flight) : (ticketed n fs).length = fs.length := by
  rw [← List.length_map, map_snd_ticketed]

theorem nodup_ticketed (n : Nat) (fs : List Flight) : ((ticketed n fs).map (·.1)).Nodup := by
  induction fs generalizing n with
  | nil => simp [ticketed]
  | cons f fs ih =>
    rw [ticketed, List.map_cons, List.nodup_cons]
    refine ⟨fun h => ?_, ih (n + 1)⟩
    obtain ⟨x, hx, hn⟩ := List.mem_map.1 h
    have := (mem_ticketed hx).1
    omega

theorem countP_ticketed (p : Flight → Bool) (n : Nat) (fs : List Flight) :
    (ticketed n fs).countP (fun x => p x.2) = fs.countP p := by
  induction fs generalizing n with
  | nil => rfl
  | cons f fs ih => simp only [ticketed, List.countP_cons, ih]

/-- The call that an output makes. -/
def Output.call? : Output → Option (Nat × Call)
  | .call ticket c => some (ticket, c)
  | .returned .. => none

/-- The calls that a list of outputs makes. -/
def callsOf (outputs : List Output) : List (Nat × Call) := outputs.filterMap Output.call?

/-- **A landing of a resolution that is no longer current is inert**: it changes nothing and makes
no call. -/
theorem effect_of_stale (setup : Setup) (v : View) {l : Landing} {g : Nat}
    (hg : l.generation? = some g) (h : v.isCurrent g = false) :
    (l.effect setup v).1 = v ∧ callsOf (l.effect setup v).2 = [] := by
  have close : ∀ caller, (v.closeResolution setup caller g).1 = v ∧
      callsOf (v.closeResolution setup caller g).2 = [] := by
    intro caller
    rcases closeResolution_of_stale setup v h caller with hc | hc <;> exact hc ▸ ⟨rfl, rfl⟩
  cases l with
  | actor caller generation url r =>
    obtain rfl : generation = g := Option.some.inj hg
    rw [Landing.effect, landActor_of_stale setup v h]
    exact ⟨rfl, rfl⟩
  | count caller generation which r =>
    obtain rfl : generation = g := Option.some.inj hg
    rw [Landing.effect, landCount_of_stale v h]
    exact close caller
  | outbox caller generation r =>
    obtain rfl : generation = g := Option.some.inj hg
    rw [Landing.effect, landOutbox_of_stale v h]
    exact close caller
  | status who epoch after r => cases hg
  | request caller who prior optimistic r => cases hg

/-! ### What only an answer ends -/

/-- Nothing but its answer ends the flight: it is no status read of scheduled work. -/
def Flight.isLasting (f : Flight) : Bool := !(f.isTick || f.isLastTick || f.isRecheck)

/-- From `v` to `v'` no call is made, and only flights of scheduled work are dropped. -/
structure Prunes (v v' : View) : Prop where
  next : v'.nextTicket = v.nextTicket
  sub : v'.flights.Sublist v.flights
  lasting : v'.flights.filter (·.2.isLasting) = v.flights.filter (·.2.isLasting)

theorem Prunes.refl (v : View) : Prunes v v := ⟨rfl, List.Sublist.refl _, rfl⟩

theorem Prunes.trans {u v w : View} (h : Prunes u v) (h' : Prunes v w) : Prunes u w :=
  ⟨h'.next.trans h.next, h'.sub.trans h.sub, h'.lasting.trans h.lasting⟩

theorem prunes_of_filter {v v' : View} {p : Nat × Flight → Bool} (hn : v'.nextTicket = v.nextTicket)
    (hf : v'.flights = v.flights.filter p) (hp : ∀ x, x.2.isLasting = true → p x = true) :
    Prunes v v' := by
  refine ⟨hn, ?_, ?_⟩
  · rw [hf]
    exact List.filter_sublist
  · rw [hf, List.filter_filter]
    refine List.filter_congr fun x _ => ?_
    cases hx : x.2.isLasting with
    | false => simp
    | true => simp [hp x hx]

theorem prunes_of_eq {v v' : View} (hn : v'.nextTicket = v.nextTicket)
    (hf : v'.flights = v.flights) : Prunes v v' :=
  ⟨hn, hf ▸ List.Sublist.refl _, by rw [hf]⟩

/-- From `v` on, an effect makes calls for the flights `fs` and drops only flights of scheduled
work. -/
structure Makes (setup : Setup) (v : View) (e : Effect) (fs : List Flight) : Prop where
  next : e.1.nextTicket = v.nextTicket + fs.length
  sub : e.1.flights.Sublist (v.flights ++ ticketed v.nextTicket fs)
  lasting : e.1.flights.filter (·.2.isLasting) =
    (v.flights ++ ticketed v.nextTicket fs).filter (·.2.isLasting)
  calls : callsOf e.2 = (ticketed v.nextTicket fs).map fun x => (x.1, x.2.call setup.settings)

theorem Makes.calls_eq {setup : Setup} {v : View} {e : Effect} {fs : List Flight}
    (h : Makes setup v e fs) : (callsOf e.2).map (·.2) = fs.map (·.call setup.settings) := by
  rw [h.calls, List.map_map]
  calc (ticketed v.nextTicket fs).map (fun x => x.2.call setup.settings)
      = ((ticketed v.nextTicket fs).map (·.2)).map (·.call setup.settings) := by
        rw [List.map_map]; rfl
    _ = fs.map (·.call setup.settings) := by rw [map_snd_ticketed]

section Parts

variable {setup : Setup} {v : View}

theorem Prunes.makes {e : Effect} (h : Prunes v e.1) (hc : callsOf e.2 = []) :
    Makes setup v e [] := by
  refine ⟨h.next, ?_, ?_, hc⟩
  · simpa [ticketed] using h.sub
  · simpa [ticketed] using h.lasting

theorem Prunes.makes_trans {v' : View} {e : Effect} {fs : List Flight} (h : Prunes v v')
    (hm : Makes setup v' e fs) : Makes setup v e fs := by
  obtain ⟨hn, hs, hl, hc⟩ := hm
  rw [h.next] at hn hs hl hc
  refine ⟨hn, hs.trans (h.sub.append (List.Sublist.refl _)), ?_, hc⟩
  rw [hl, List.filter_append, List.filter_append, h.lasting]

theorem Makes.andThen {e : Effect} {g : View → Effect} {fs gs : List Flight}
    (h : Makes setup v e fs) (h' : Makes setup e.1 (g e.1) gs) :
    Makes setup v (e.andThen g) (fs ++ gs) := by
  obtain ⟨hn, hs, hl, hc⟩ := h'
  rw [h.next] at hn hs hl hc
  have assoc : v.flights ++ ticketed v.nextTicket (fs ++ gs) =
      (v.flights ++ ticketed v.nextTicket fs) ++ ticketed (v.nextTicket + fs.length) gs := by
    rw [ticketed_append, List.append_assoc]
  refine ⟨?_, ?_, ?_, ?_⟩
  · rw [Effect.andThen, hn, List.length_append]
    omega
  · rw [assoc]
    exact hs.trans (h.sub.append (List.Sublist.refl _))
  · rw [assoc, Effect.andThen, hl, List.filter_append, List.filter_append, h.lasting]
  · rw [ticketed_append, List.map_append, ← h.calls, ← hc]
    exact List.filterMap_append

variable (setup)

theorem issue_makes (v : View) (f : Flight) : Makes setup v (v.issue setup f) [f] :=
  ⟨rfl, List.Sublist.refl _, rfl, rfl⟩

theorem issueAll_makes (v : View) (fs : List Flight) : Makes setup v (issueAll setup v fs) fs := by
  induction fs generalizing v with
  | nil => exact (Prunes.refl v).makes rfl
  | cons f fs ih => exact (issue_makes setup v f).andThen (ih _)

end Parts

/-! ### Parts that make no call -/

section Silent

variable (setup : Setup) (v : View)

theorem giveUpLastTick_prunes (e : Event) : Prunes v (v.giveUpLastTick e) := by
  refine prunes_of_filter rfl rfl fun x hx => ?_
  simp only [Flight.isLasting, Bool.not_eq_true', Bool.or_eq_false_iff] at hx
  simp [hx]

theorem stopPoll_prunes : Prunes v v.stopPoll := by
  refine prunes_of_filter rfl rfl fun x hx => ?_
  simp only [Flight.isLasting, Bool.not_eq_true', Bool.or_eq_false_iff] at hx
  simp [hx]

theorem ensurePoll_prunes : Prunes v (v.ensurePoll setup) := prunes_of_eq (by simp) (by simp)

theorem syncPoll_prunes (s : FollowStatus) : Prunes v (v.syncPoll setup s) := by
  unfold syncPoll
  split
  · exact ensurePoll_prunes setup v
  · exact stopPoll_prunes v

theorem cancelRecheck_prunes : Prunes v v.cancelRecheck := by
  refine prunes_of_filter rfl rfl fun x hx => ?_
  simp only [Flight.isLasting, Bool.not_eq_true', Bool.or_eq_false_iff] at hx
  simp [hx]

theorem scheduleRecheck_prunes : Prunes v (v.scheduleRecheck setup) :=
  (cancelRecheck_prunes v).trans (prunes_of_eq rfl rfl)

theorem teardown_prunes : Prunes v v.teardown := by
  have h : Prunes v { v with alive := false } := prunes_of_eq rfl rfl
  exact (h.trans (stopPoll_prunes _)).trans (cancelRecheck_prunes _)

theorem install_prunes (p : Profile) : Prunes v (v.install p) := by
  by_cases h : v.display.actorId = some p.id
  · exact prunes_of_eq (by simp) (by simp [install, h])
  · have hi : (v.install p).flights = v.stopPoll.cancelRecheck.flights := by
      simp [install, h, stopPoll, cancelRecheck]
    have hp := (stopPoll_prunes v).trans (cancelRecheck_prunes _)
    exact ⟨by simp, hi ▸ hp.sub, hi ▸ hp.lasting⟩

theorem landStatus_prunes (who : String) (epoch : Nat) (r : Except Failure FollowStatus) :
    Prunes v (v.landStatus setup who epoch r) := by
  rw [landStatus_eq]
  split
  · split
    · exact Prunes.trans (prunes_of_eq (by simp) (by simp)) (syncPoll_prunes setup _ _)
    · exact Prunes.refl v
  · exact Prunes.refl v

theorem afterRead_prunes (after : AfterRead) : Prunes v (v.afterRead setup after).1 := by
  cases after with
  | confirms caller => exact (scheduleRecheck_prunes setup v).trans (prunes_of_eq rfl rfl)
  | _ => exact prunes_of_eq rfl rfl

theorem afterRead_calls (after : AfterRead) : callsOf (v.afterRead setup after).2 = [] := by
  cases after <;> rfl

theorem afterRead_makes (after : AfterRead) : Makes setup v (v.afterRead setup after) [] :=
  (afterRead_prunes setup v after).makes (afterRead_calls setup v after)

end Silent

/-! ### Reads -/

/-- The status read belongs to a toggle. -/
def AfterRead.ofToggle : AfterRead → Bool
  | .confirms _ | .reverts .. => true
  | _ => false

/-- The flight belongs to a toggle: its request, or the status read that follows it. -/
def Flight.ofToggle : Flight → Bool
  | .request .. => true
  | .status _ _ after => after.ofToggle
  | _ => false

/-- An effect that reads the status of the displayed actor at most, as the last thing it does. -/
structure Reads (setup : Setup) (v : View) (after : AfterRead) (e : Effect) (fs : List Flight) :
    Prop where
  makes : Makes setup v e fs
  reads : ∀ f ∈ fs, ∃ who, v.readTarget? setup = some who ∧
    f = .status who v.display.relationship.epoch after
  free : after.ofToggle = false → e.1.toggling = v.toggling
  owed : after.ofToggle = true → v.toggling = true → e.1.toggling.toNat = fs.length

section Reads

variable (setup : Setup) (v : View)

theorem afterRead_reads (after : AfterRead) :
    Reads setup v after (v.afterRead setup after) [] := by
  refine ⟨afterRead_makes setup v after, by simp, fun h => ?_, fun h _ => ?_⟩
  · cases after with
    | confirms caller => cases h
    | reverts caller message => cases h
    | _ => rfl
  · cases after with
    | confirms caller => rfl
    | reverts caller message => rfl
    | _ => cases h

theorem readStatus_reads (after : AfterRead) :
    ∃ fs, Reads setup v after (v.readStatus setup after) fs := by
  rw [readStatus_eq]
  cases h : v.readTarget? setup with
  | none => exact ⟨[], afterRead_reads setup v after⟩
  | some who =>
    refine ⟨[.status who v.display.relationship.epoch after], issue_makes setup v _, ?_,
      fun _ => rfl, ?_⟩
    · intro f hf
      exact ⟨who, h, by simpa using hf⟩
    · intro _ ht
      simp [ht]

theorem closeResolution_reads (caller generation : Nat) :
    ∃ fs, Reads setup v (.returns caller) (v.closeResolution setup caller generation) fs := by
  have silent : ∀ e : Effect, e.1 = v → callsOf e.2 = [] →
      Reads setup v (.returns caller) e [] := by
    intro e he hc
    exact ⟨Prunes.makes (by rw [he]; exact Prunes.refl v) hc, by simp, fun _ => by rw [he],
      fun h _ => by cases h⟩
  unfold closeResolution
  split
  · exact ⟨[], silent _ rfl rfl⟩
  · split
    · exact readStatus_reads setup v _
    · exact ⟨[], silent _ rfl rfl⟩

variable {setup v}

theorem Reads.countP {after : AfterRead} {e : Effect} {fs : List Flight}
    (h : Reads setup v after e fs) :
    fs.countP Flight.ofToggle = if after.ofToggle then fs.length else 0 := by
  have hk : ∀ f ∈ fs, f.ofToggle = after.ofToggle := by
    intro f hf
    obtain ⟨who, -, rfl⟩ := h.reads f hf
    rfl
  split
  · next ht => exact List.countP_eq_length.2 fun f hf => (hk f hf).trans ht
  · next ht => exact List.countP_eq_zero.2 fun f hf => by rw [hk f hf]; exact ht

end Reads

end FollowClient.View
