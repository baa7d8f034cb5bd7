import FollowClient.Proofs.View.Writes

/-!
The chronicle of a run: the events that came to a view, what they did to it and what it did to the
outside, the latest first. A chronicle tells what no view remembers: which calls were made after
which local write, and which resolution was the newest one when its actor arrived.

`Logged.sound_run` ties the chronicle to the view: the epoch counts the local writes, the generation
counts the resolutions, and the call of every flight is on record, with the epoch of that moment.
-/

namespace FollowClient.View

/-! ### Entries -/

/-- An entry of a chronicle. -/
inductive Entry where
  /-- An event came in. -/
  | happened (e : Event)
  /-- An answer reached the flight that waited for it. -/
  | landed (ticket : Nat) (l : Landing)
  /-- The follow status was written locally. -/
  | wrote (status : FollowStatus)
  /-- Another actor than before is displayed. -/
  | displayed (who : String)
  /-- A call was made, or an operation returned. -/
  | did (o : Output)

namespace Entry

/-- The entry is a local write. -/
def isWrote : Entry → Bool
  | wrote _ => true
  | _ => false

/-- The entry is a change of the displayed actor. -/
def isDisplayed : Entry → Bool
  | displayed _ => true
  | _ => false

/-- The entry starts a resolution. -/
def isStart : Entry → Bool
  | happened e => e.isResolve
  | _ => false

/-- The entry tears the view down. -/
def isEnd : Entry → Bool
  | happened e => e.isTeardown
  | _ => false

end Entry

/-- How many local writes a chronicle has. -/
def writes (log : List Entry) : Nat := log.countP Entry.isWrote

/-- How many resolutions were started. -/
def starts (log : List Entry) : Nat := log.countP Entry.isStart

/-- How often the view was torn down. -/
def ends (log : List Entry) : Nat := log.countP Entry.isEnd

/-- The value of the last local write; before the first one the status is `none`. -/
def lastWrite : List Entry → FollowStatus
  | [] => .none
  | .wrote s :: _ => s
  | _ :: log => lastWrite log

/-- What happened since the last local write. -/
def sinceWrite (log : List Entry) : List Entry := log.takeWhile fun x => !x.isWrote

/-- What happened since the displayed actor became the displayed one. -/
def sinceDisplayed (log : List Entry) : List Entry := log.takeWhile fun x => !x.isDisplayed

/-! ### The entries of a step -/

section Steps

variable (setup : Setup) (v : View) (e : Event)

/-- An event, and the landing it brings. -/
def arrivals : List Entry :=
  match e, v.landing? e with
  | .answered ticket _, some l => [.landed ticket l, .happened e]
  | _, _ => [.happened e]

/-- The local write of a step. -/
def writeEntries : List Entry := ((v.localWrite? setup e).map Entry.wrote).toList

/-- The change of the displayed actor in a step, if there is one. -/
def displayEntries : List Entry :=
  if (v.step setup e).1.display.actorId = v.display.actorId then []
  else ((v.step setup e).1.display.actorId.map Entry.displayed).toList

/-- The outputs of a step. -/
def outputEntries : List Entry := (v.step setup e).2.reverse.map Entry.did

/-- What a step adds to the chronicle, the latest first. -/
def entries : List Entry :=
  v.outputEntries setup e ++ v.displayEntries setup e ++ v.writeEntries setup e ++ v.arrivals e

end Steps

/-- A view with its chronicle. -/
structure Logged where
  view : View
  log : List Entry

namespace Logged

/-- A new view. -/
def start : Logged := ⟨.start, []⟩

/-- One step of a view, with its chronicle. -/
def step (setup : Setup) (s : Logged) (e : Event) : Logged :=
  ⟨(s.view.step setup e).1, s.view.entries setup e ++ s.log⟩

/-- The view after a list of events, with its chronicle. -/
def run (setup : Setup) (events : List Event) : Logged := events.foldl (step setup) start

theorem run_append (setup : Setup) (before after : List Event) :
    run setup (before ++ after) = after.foldl (step setup) (run setup before) :=
  List.foldl_append

theorem foldl_induction {setup : Setup} {P : Logged → Prop}
    (hs : ∀ s e, P s → P (s.step setup e)) (events : List Event) (s : Logged) (h : P s) :
    P (events.foldl (step setup) s) := by
  induction events generalizing s with
  | nil => exact h
  | cons e events ih => exact ih _ (hs s e h)

/-- What holds of a new view and is kept by every step holds after every run. -/
theorem run_induction {setup : Setup} {P : Logged → Prop} (h0 : P start)
    (hs : ∀ s e, P s → P (s.step setup e)) (events : List Event) : P (run setup events) :=
  foldl_induction hs events start h0

theorem foldl_view (setup : Setup) (events : List Event) (s : Logged) :
    (events.foldl (step setup) s).view = View.run setup s.view events := by
  induction events generalizing s with
  | nil => rfl
  | cons e events ih => exact ih _

/-- A chronicle changes nothing. -/
theorem run_view (setup : Setup) (events : List Event) :
    (run setup events).view = View.run setup .start events := foldl_view setup events start

end Logged

/-! ### A short run -/

/-- The settings without further instructions, and a core. -/
def usual : Setup := { settings := .default, hasControl := true }

/-- A profile with an id and nothing to load. -/
def bare (id : String) : Profile := ⟨id, "", "", "", "", "", "", "", "", "", [], false, none⟩

/-- An actor is resolved with the first call; its status is asked for with the second. -/
def shown (id : String) : List Event :=
  [.resolve 0 id, .answered 0 (.actor (.ok (some (bare id))))]

/-- The answer that a shown actor is followed. -/
def accepted : Event := .answered 1 (.status (.ok .accepted))

/-! ### Counting in a step -/

section Counts

variable (setup : Setup) (v : View) (e : Event)

theorem countP_did {p : Entry → Bool} (h : ∀ o, p (.did o) = false) (l : List Output) :
    (l.map Entry.did).countP p = 0 := by
  induction l with
  | nil => rfl
  | cons o l ih => rw [List.map_cons, List.countP_cons_of_neg (by simp [h]), ih]

@[simp] theorem outputEntries_counts :
    (v.outputEntries setup e).countP Entry.isWrote = 0 ∧
    (v.outputEntries setup e).countP Entry.isStart = 0 ∧
    (v.outputEntries setup e).countP Entry.isEnd = 0 :=
  ⟨countP_did (fun _ => rfl) _, countP_did (fun _ => rfl) _, countP_did (fun _ => rfl) _⟩

@[simp] theorem displayEntries_counts :
    (v.displayEntries setup e).countP Entry.isWrote = 0 ∧
    (v.displayEntries setup e).countP Entry.isStart = 0 ∧
    (v.displayEntries setup e).countP Entry.isEnd = 0 := by
  unfold displayEntries
  split
  · exact ⟨rfl, rfl, rfl⟩
  · cases (v.step setup e).1.display.actorId <;> exact ⟨rfl, rfl, rfl⟩

@[simp] theorem writeEntries_counts :
    (v.writeEntries setup e).countP Entry.isWrote = (v.localWrite? setup e).isSome.toNat ∧
    (v.writeEntries setup e).countP Entry.isStart = 0 ∧
    (v.writeEntries setup e).countP Entry.isEnd = 0 := by
  unfold writeEntries
  cases v.localWrite? setup e <;> exact ⟨rfl, rfl, rfl⟩

theorem arrivals_eq : (v.landing? e = none ∧ v.arrivals e = [.happened e]) ∨
    ∃ ticket a l, e = .answered ticket a ∧ v.landing? e = some l ∧
      v.arrivals e = [.landed ticket l, .happened e] := by
  cases hl : v.landing? e with
  | none => exact .inl ⟨rfl, by simp [arrivals, hl]⟩
  | some l =>
    obtain ⟨ticket, a, f, rfl, -, -⟩ := landing?_eq_some hl
    exact .inr ⟨ticket, a, l, rfl, rfl, by simp [arrivals, hl]⟩

/-- What a step adds to the chronicle. -/
theorem mem_entries {x : Entry} (h : x ∈ v.entries setup e) :
    (∃ o ∈ (v.step setup e).2, x = .did o) ∨
    (∃ who, (v.step setup e).1.display.actorId = some who ∧
      (v.step setup e).1.display.actorId ≠ v.display.actorId ∧ x = .displayed who) ∨
    (∃ w, v.localWrite? setup e = some w ∧ x = .wrote w) ∨
    (∃ ticket a l, e = .answered ticket a ∧ v.landing? e = some l ∧ x = .landed ticket l) ∨
    x = .happened e := by
  simp only [entries, List.mem_append] at h
  rcases h with ((h | h) | h) | h
  · obtain ⟨o, ho, rfl⟩ := List.mem_map.1 h
    exact .inl ⟨o, List.mem_reverse.1 ho, rfl⟩
  · refine .inr (.inl ?_)
    unfold displayEntries at h
    split at h
    · cases h
    · next hne =>
      obtain ⟨who, hw, rfl⟩ := Option.map_eq_some_iff.1 (Option.mem_toList.1 h)
      exact ⟨who, hw, hne, rfl⟩
  · obtain ⟨w, hw, rfl⟩ := Option.map_eq_some_iff.1 (Option.mem_toList.1 h)
    exact .inr (.inr (.inl ⟨w, hw, rfl⟩))
  · refine .inr (.inr (.inr ?_))
    rcases arrivals_eq v e with ⟨-, ha⟩ | ⟨ticket, a, l, he, hl, ha⟩
    · exact .inr (List.mem_singleton.1 (ha ▸ h))
    · rw [ha] at h
      rcases List.mem_cons.1 h with rfl | h
      · exact .inl ⟨ticket, a, l, he, hl, rfl⟩
      · exact .inr (List.mem_singleton.1 h)

theorem mem_entries_of_landing? {setup : Setup} {v : View} {ticket : Nat} {a : Answer}
    {l : Landing} (h : v.landing? (.answered ticket a) = some l) :
    .landed ticket l ∈ v.entries setup (.answered ticket a) := by
  refine List.mem_append_right _ ?_
  simp [arrivals, h]

/-- Only the arrivals of a step are landings. -/
theorem entries_eq_append_arrivals : ∃ l, v.entries setup e = l ++ v.arrivals e ∧
    ∀ ticket x, .landed ticket x ∉ l := by
  refine ⟨_, rfl, fun ticket x hm => ?_⟩
  simp only [List.mem_append] at hm
  rcases hm with (hm | hm) | hm
  · simp [outputEntries] at hm
  · unfold displayEntries at hm
    split at hm
    · simp at hm
    · simp [Option.mem_toList] at hm
  · simp [writeEntries, Option.mem_toList] at hm

@[simp] theorem arrivals_counts :
    (v.arrivals e).countP Entry.isWrote = 0 ∧
    (v.arrivals e).countP Entry.isStart = e.isResolve.toNat ∧
    (v.arrivals e).countP Entry.isEnd = e.isTeardown.toNat := by
  rcases arrivals_eq v e with ⟨-, h⟩ | ⟨ticket, a, l, rfl, -, h⟩
  · rw [h]
    cases e <;> exact ⟨rfl, rfl, rfl⟩
  · rw [h]
    exact ⟨rfl, rfl, rfl⟩

theorem writes_entries : writes (v.entries setup e) = (v.localWrite? setup e).isSome.toNat := by
  simp [writes, entries]

theorem starts_entries : starts (v.entries setup e) = e.isResolve.toNat := by
  simp [starts, entries]

theorem ends_entries : ends (v.entries setup e) = e.isTeardown.toNat := by
  simp [ends, entries]

end Counts

end FollowClient.View
