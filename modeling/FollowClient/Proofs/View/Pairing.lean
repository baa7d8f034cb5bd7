import FollowClient.Proofs.View.Sound

/-!
A view and its core. The core has one follow status for each actor. Only the requests of the view
change it, at the moment they succeed, and a status read is answered with what the core had when the
read was issued.
-/

namespace FollowClient.View

/-! ### The core -/

/-- What a request that succeeds makes of the status of its actor. -/
def Call.outcome? : Call → Option (String × FollowStatus)
  | .follow who => some (who, .pending)
  | .unfollow who => some (who, .none)
  | _ => none

/-- A view with its chronicle, and the core that it talks to. -/
structure Paired where
  logged : Logged
  /-- The follow status of each actor in the core. -/
  table : String → FollowStatus
  /-- What was found for the status read with a ticket. -/
  found : Nat → FollowStatus

namespace Paired

/-- A new view beside a core. -/
def start (table : String → FollowStatus) : Paired := ⟨.start, table, fun _ => .none⟩

/-- The view. -/
abbrev view (c : Paired) : View := c.logged.view

/-- The chronicle of the view. -/
abbrev log (c : Paired) : List Entry := c.logged.log

/-- An event as the core lets it happen: a status read is answered with what was found. -/
def heard (c : Paired) : Event → Event
  | .answered ticket a =>
    match c.view.flight? ticket with
    | some (.status ..) => .answered ticket (.status (.ok (c.found ticket)))
    | _ => .answered ticket a
  | e => e

/-- The table after an event: a request that succeeds changes the status of its actor. -/
def tableAfter (setup : Setup) (c : Paired) : Event → String → FollowStatus
  | .answered ticket (.request (.ok _)) =>
    match (c.view.flight? ticket).bind fun f => (f.call setup.settings).outcome? with
    | some (who, s) => fun x => if x = who then s else c.table x
    | none => c.table
  | _ => c.table

/-- What was found for each status read, once an event has made its calls. -/
def foundAfter (setup : Setup) (c : Paired) (e : Event) (ticket : Nat) : FollowStatus :=
  match (callsOf (c.view.step setup e).2).lookup ticket with
  | some (.status who) => c.tableAfter setup e who
  | _ => c.found ticket

/-- A view and its core after an event. -/
def advance (setup : Setup) (c : Paired) (e : Event) : Paired :=
  ⟨c.logged.step setup e, c.tableAfter setup e, c.foundAfter setup e⟩

/-- One step of a view and its core. -/
def step (setup : Setup) (c : Paired) (e : Event) : Paired := c.advance setup (c.heard e)

/-- A view and its core after a list of events. -/
def run (setup : Setup) (table : String → FollowStatus) (events : List Event) : Paired :=
  events.foldl (step setup) (start table)

theorem foldl_induction {setup : Setup} {P : Paired → Prop}
    (hs : ∀ c e, P c → P (c.step setup e)) (events : List Event) (c : Paired) (h : P c) :
    P (events.foldl (step setup) c) := by
  induction events generalizing c with
  | nil => exact h
  | cons e events ih => exact ih _ (hs c e h)

/-- What holds of a new view and is kept by every step holds after every run. -/
theorem run_induction {setup : Setup} {table : String → FollowStatus} {P : Paired → Prop}
    (h0 : P (start table)) (hs : ∀ c e, P c → P (c.step setup e)) (events : List Event) :
    P (run setup table events) := foldl_induction hs events _ h0

/-! ### What the core does in a step -/

section Steps

variable {setup : Setup} {c : Paired} {e : Event}

/-- A status read that the event lands brings what was found when it was issued. -/
def Truthful (c : Paired) (e : Event) : Prop :=
  ∀ who epoch after r, c.view.landing? e = some (.status who epoch after r) →
    ∃ ticket, (ticket, .status who epoch after) ∈ c.view.flights ∧ r = .ok (c.found ticket)

theorem truthful_heard (c : Paired) (e : Event) : c.Truthful (c.heard e) := by
  intro who epoch after r h
  obtain ⟨ticket, a, f, he, hf, hl⟩ := landing?_eq_some h
  obtain ⟨rfl, rfl⟩ := landing?_eq_status hl
  refine ⟨ticket, flight?_eq_some hf, ?_⟩
  cases e with
  | answered t b =>
    simp only [heard] at he
    split at he
    · obtain ⟨rfl, hr⟩ : t = ticket ∧ Except.ok (c.found t) = r := by simpa using he
      exact hr.symm
    · next hs =>
      obtain ⟨rfl, -⟩ : t = ticket ∧ b = .status r := by simpa using he
      exact absurd hf (hs _ _ _)
  | _ => cases he

/-- A request that succeeds has its outcome in the table. -/
theorem tableAfter_of_request {caller : Nat} {who : String} {prior optimistic : FollowStatus}
    {u : Unit} (h : c.view.landing? e = some (.request caller who prior optimistic (.ok u)))
    (x : String) : c.tableAfter setup e x =
      if x = who then (if prior.isFollowing then .none else .pending) else c.table x := by
  obtain ⟨ticket, a, f, rfl, hf, hl⟩ := landing?_eq_some h
  obtain ⟨rfl, rfl⟩ := landing?_eq_request hl
  simp only [tableAfter, hf, Option.bind_some, Flight.call]
  cases prior.isFollowing <;> rfl

/-- No other event changes the table. -/
theorem tableAfter_of_not_request
    (h : ∀ caller who prior optimistic u,
      c.view.landing? e ≠ some (.request caller who prior optimistic (.ok u))) :
    c.tableAfter setup e = c.table := by
  match e with
  | .answered ticket (.request (.ok u)) =>
    simp only [tableAfter]
    cases hf : c.view.flight? ticket with
    | none => rfl
    | some f =>
      cases f with
      | request caller who prior optimistic =>
        refine absurd ?_ (h caller who prior optimistic u)
        simp [landing?, hf, Flight.landing?]
      | _ => rfl
  | .answered _ (.request (.error _)) | .answered _ (.actor _) | .answered _ (.count _)
  | .answered _ (.outbox _) | .answered _ (.status _) | .resolve .. | .refresh .. | .toggle ..
  | .ensurePoll | .stopPoll | .teardown | .elapse .. | .pollDue | .recheckDue => rfl

/-- Without a local write the displayed actor keeps its status in the core. -/
theorem tableAfter_of_localWrite?_eq_none (ha : c.view.alive = true) {who : String}
    (hw : c.view.display.actorId = some who) (h : c.view.localWrite? setup e = none) :
    c.tableAfter setup e who = c.table who := by
  by_cases hr : ∃ caller x prior optimistic u,
      c.view.landing? e = some (.request caller x prior optimistic (.ok u))
  · obtain ⟨caller, x, prior, optimistic, u, hl⟩ := hr
    have hx : who ≠ x := by
      rintro rfl
      obtain ⟨ticket, a, f, rfl, -, -⟩ := landing?_eq_some hl
      simp [localWrite?, hl, Landing.write?, ha, hw] at h
    rw [tableAfter_of_request hl, if_neg hx]
  · have hn : c.tableAfter setup e = c.table := tableAfter_of_not_request
      fun caller x prior optimistic u hl => hr ⟨caller, x, prior, optimistic, u, hl⟩
    rw [hn]

/-- What was found for a read that was issued before stays found. -/
theorem foundAfter_of_old {fs : List Flight} (hc : StepCalls setup c.view e fs) {ticket : Nat}
    (h : ticket < c.view.nextTicket) : c.foundAfter setup e ticket = c.found ticket := by
  unfold foundAfter
  split
  · next who hl =>
    obtain ⟨l₁, l₂, hm, -⟩ := List.lookup_eq_some_iff.1 hl
    have hmem : (ticket, Call.status who) ∈ callsOf (c.view.step setup e).2 := by
      rw [hm]
      exact List.mem_append_right _ List.mem_cons_self
    rw [hc.makes.calls] at hmem
    obtain ⟨x, hx, heq⟩ := List.mem_map.1 hmem
    obtain rfl : x.1 = ticket := congrArg Prod.fst heq
    have : c.view.nextTicket ≤ x.1 := (mem_ticketed hx).1
    omega
  · rfl

/-- A read finds what the core has once the event is over. -/
theorem foundAfter_of_new {fs : List Flight} (hc : StepCalls setup c.view e fs) {ticket : Nat}
    {who : String} {epoch : Nat} {after : AfterRead}
    (h : (ticket, .status who epoch after) ∈ ticketed c.view.nextTicket fs) :
    c.foundAfter setup e ticket = c.tableAfter setup e who := by
  have hn : ((callsOf (c.view.step setup e).2).map (·.1)).Nodup := by
    rw [hc.makes.calls, List.map_map]
    exact nodup_ticketed _ _
  have hm : (ticket, Call.status who) ∈ callsOf (c.view.step setup e).2 := by
    rw [hc.makes.calls]
    exact List.mem_map.2 ⟨_, h, rfl⟩
  rw [foundAfter, lookup_of_mem hn hm]

end Steps

end Paired

end FollowClient.View
