import FollowClient.View.Step

/-!
Landings: an answer together with the flight that waits for it. A step that answers a call either
lands a flight, with an answer of the kind its call asks for, or changes nothing that is seen.
-/

namespace FollowClient.View

/-! ### Landings -/

/-- An answer that reaches the flight that waits for it. -/
inductive Landing where
  | actor (caller generation : Nat) (url : String) (result : Except Failure (Option Profile))
  | count (caller generation : Nat) (which : Collection) (result : Except Failure Nat)
  | outbox (caller generation : Nat) (result : Except Failure (List Activity))
  | status (actor : String) (epoch : Nat) (after : AfterRead)
      (result : Except Failure FollowStatus)
  | request (caller : Nat) (actor : String) (prior optimistic : FollowStatus)
      (result : Except Failure Unit)

/-- The generation of the resolution that a landing belongs to. -/
def Landing.generation? : Landing → Option Nat
  | .actor _ g _ _ | .count _ g _ _ | .outbox _ g _ => some g
  | _ => none

/-- The generation of the resolution that a flight belongs to. -/
def Flight.generation? : Flight → Option Nat
  | .actor _ g _ | .count _ g _ _ | .outbox _ g _ => some g
  | _ => none

/-- The epoch in which a status read was issued. -/
def Flight.epoch? : Flight → Option Nat
  | .status _ epoch _ => some epoch
  | _ => none

/-- A flight takes answers of one kind only. -/
def Flight.landing? : Flight → Answer → Option Landing
  | .actor caller generation url, .actor r => some (.actor caller generation url r)
  | .count caller generation which _, .count r => some (.count caller generation which r)
  | .outbox caller generation _, .outbox r => some (.outbox caller generation r)
  | .status who epoch after, .status r => some (.status who epoch after r)
  | .request caller who prior optimistic, .request r =>
    some (.request caller who prior optimistic r)
  | _, _ => none

/-- The landing that an event brings to a view. -/
def landing? (v : View) : Event → Option Landing
  | .answered ticket answer => (v.flight? ticket).bind (·.landing? answer)
  | _ => none

/-- The flights that an event leaves in the air. -/
def others (v : View) (e : Event) : List (Nat × Flight) :=
  if (v.landing? e).isSome then v.flights.filter fun x => !e.answers x.1 else v.flights

theorem mem_of_lookup {α : Type} {l : List (Nat × α)} {k : Nat} {b : α}
    (h : l.lookup k = some b) : (k, b) ∈ l := by
  obtain ⟨l₁, l₂, hl, -⟩ := List.lookup_eq_some_iff.1 h
  rw [hl]
  exact List.mem_append_right _ List.mem_cons_self

theorem flight?_eq_some {v : View} {ticket : Nat} {f : Flight} (h : v.flight? ticket = some f) :
    (ticket, f) ∈ v.flights := mem_of_lookup h

/-- In a list without repeated keys every entry is found by its key. -/
theorem lookup_of_mem {β : Type} {l : List (Nat × β)} (hn : (l.map (·.1)).Nodup) {key : Nat} {b : β}
    (h : (key, b) ∈ l) : l.lookup key = some b := by
  obtain ⟨l₁, l₂, hl⟩ := List.append_of_mem h
  refine List.lookup_eq_some_iff.2 ⟨l₁, l₂, hl, fun x hx => ?_⟩
  rw [hl, List.map_append, List.nodup_append] at hn
  have := hn.2.2 x.1 (List.mem_map_of_mem hx) key (by simp)
  simpa using Ne.symm this

theorem flight?_of_mem {v : View} (hn : (v.flights.map (·.1)).Nodup) {ticket : Nat} {f : Flight}
    (h : (ticket, f) ∈ v.flights) : v.flight? ticket = some f := lookup_of_mem hn h

/-- A landing comes from a flight, with an answer of its kind. -/
theorem landing?_eq_some {v : View} {e : Event} {l : Landing} (h : v.landing? e = some l) :
    ∃ ticket a f, e = .answered ticket a ∧ v.flight? ticket = some f ∧ f.landing? a = some l := by
  cases e with
  | answered ticket a =>
    obtain ⟨f, hf, hl⟩ := Option.bind_eq_some_iff.1 h
    exact ⟨ticket, a, f, rfl, hf, hl⟩
  | _ => simp [landing?] at h

/-! ### The flight of a landing -/

section Inversion

variable {f : Flight} {a : Answer} {l : Landing}

theorem landing?_eq_actor {caller generation : Nat} {url : String}
    {r : Except Failure (Option Profile)}
    (h : f.landing? a = some (.actor caller generation url r)) :
    f = .actor caller generation url ∧ a = .actor r := by
  cases f <;> cases a <;> simp_all [Flight.landing?]

theorem landing?_eq_count {caller generation : Nat} {which : Collection} {r : Except Failure Nat}
    (h : f.landing? a = some (.count caller generation which r)) :
    ∃ url, f = .count caller generation which url := by
  cases f <;> cases a <;> simp_all [Flight.landing?]

theorem landing?_eq_outbox {caller generation : Nat} {r : Except Failure (List Activity)}
    (h : f.landing? a = some (.outbox caller generation r)) :
    ∃ url, f = .outbox caller generation url := by
  cases f <;> cases a <;> simp_all [Flight.landing?]

theorem landing?_eq_status {who : String} {epoch : Nat} {after : AfterRead}
    {r : Except Failure FollowStatus} (h : f.landing? a = some (.status who epoch after r)) :
    f = .status who epoch after ∧ a = .status r := by
  cases f <;> cases a <;> simp_all [Flight.landing?]

theorem landing?_eq_request {caller : Nat} {who : String} {prior optimistic : FollowStatus}
    {r : Except Failure Unit} (h : f.landing? a = some (.request caller who prior optimistic r)) :
    f = .request caller who prior optimistic ∧ a = .request r := by
  cases f <;> cases a <;> simp_all [Flight.landing?]

theorem landing?_of_status {who : String} {epoch : Nat} {after : AfterRead}
    (h : (Flight.status who epoch after).landing? a = some l) :
    ∃ r, l = .status who epoch after r := by
  cases a with
  | status r => exact ⟨r, (Option.some.inj h).symm⟩
  | _ => cases h

theorem landing?_of_request {caller : Nat} {who : String} {prior optimistic : FollowStatus}
    (h : (Flight.request caller who prior optimistic).landing? a = some l) :
    ∃ r, l = .request caller who prior optimistic r := by
  cases a with
  | request r => exact ⟨r, (Option.some.inj h).symm⟩
  | _ => cases h

end Inversion

theorem generation?_landing? {f : Flight} {a : Answer} {l : Landing} (h : f.landing? a = some l) :
    l.generation? = f.generation? := by
  cases f <;> cases a <;> simp only [Flight.landing?, Option.some.injEq, reduceCtorEq] at h <;>
    subst h <;> rfl

section Landings

variable (setup : Setup) (v : View)

/-- What a landing makes a view do, once its flight is gone. -/
def Landing.effect : Landing → Effect
  | .actor caller generation url r => v.landActor setup caller generation url r
  | .count caller generation which r =>
    (v.landCount generation which r).closeResolution setup caller generation
  | .outbox caller generation r =>
    (v.landOutbox generation r).closeResolution setup caller generation
  | .status who epoch after r => v.landRead setup who epoch after r
  | .request caller who prior optimistic r => v.landRequest setup caller who prior optimistic r

theorem land_eq (f : Flight) (a : Answer) :
    v.land setup f a = (f.landing? a).map (Landing.effect setup v) := by
  cases f <;> cases a <;> rfl

theorem answered_eq (ticket : Nat) (a : Answer) :
    v.answered setup ticket a = match v.landing? (.answered ticket a) with
      | some l => l.effect setup (v.withoutFlight ticket)
      | none => (v, []) := by
  simp only [answered, landing?]
  cases v.flight? ticket with
  | none => rfl
  | some f =>
    simp only [land_eq, Option.bind_some]
    cases f.landing? a <;> rfl

theorem lookup_filter_answers (ticket : Nat) (a : Answer) (l : List (Nat × Flight)) :
    (l.filter fun f => !f.2.isLastTick || (Event.answered ticket a).answers f.1).lookup ticket =
      l.lookup ticket := by
  induction l with
  | nil => rfl
  | cons x l ih =>
    obtain ⟨t, f⟩ := x
    by_cases h : t = ticket
    · subst h; simp [Event.answers]
    · have h' : (ticket == t) = false := by simpa using Ne.symm h
      rw [List.lookup_cons, h', List.filter_cons]
      split
      · rw [List.lookup_cons, h', ih]
      · exact ih

/-- A tick that is given up does not take part in any landing. -/
theorem landing?_giveUpLastTick (e : Event) : (v.giveUpLastTick e).landing? e = v.landing? e := by
  cases e <;> try rfl
  simp only [landing?, flight?, giveUpLastTick]
  rw [lookup_filter_answers]

/-- **A step that answers a call** lands its flight, or only gives up a tick. -/
theorem step_answered (ticket : Nat) (a : Answer) :
    v.step setup (.answered ticket a) = match v.landing? (.answered ticket a) with
      | some l => l.effect setup ((v.giveUpLastTick (.answered ticket a)).withoutFlight ticket)
      | none => (v.giveUpLastTick (.answered ticket a), []) := by
  simp only [step, react, answered_eq, landing?_giveUpLastTick]

end Landings

end FollowClient.View
