import FollowClient.Proofs.View.Chronicle

/-!
What every run keeps. The tickets of the flights are distinct, exactly one flight belongs to a
toggle while one is under way, and the chronicle agrees with the view: `Logged.sound_run`.
-/

namespace FollowClient.View

/-! ### Landing a flight -/

theorem ofToggle_landing? {f : Flight} {a : Answer} {l : Landing} (h : f.landing? a = some l) :
    l.ofToggle = f.ofToggle := by
  cases f <;> cases a <;> simp only [Flight.landing?, Option.some.injEq, reduceCtorEq] at h <;>
    subst h <;> rfl

theorem isLasting_of_ofToggle {f : Flight} (h : f.ofToggle = true) : f.isLasting = true := by
  cases f with
  | status who epoch after => cases after <;> first | rfl | cases h
  | _ => rfl

/-- Without the entry of a key, a list without repeated keys lacks that one entry. -/
theorem countP_filter_key {l : List (Nat × Flight)} (hn : (l.map (·.1)).Nodup) {ticket : Nat}
    {f : Flight} (hm : (ticket, f) ∈ l) (p : Flight → Bool) :
    l.countP (fun x => p x.2) =
      (l.filter fun x => !decide (ticket = x.1)).countP (fun x => p x.2) + (p f).toNat := by
  induction l with
  | nil => simp at hm
  | cons x l ih =>
    rw [List.map_cons, List.nodup_cons] at hn
    rcases List.mem_cons.1 hm with rfl | hm
    · have hl : l.filter (fun x => !decide (ticket = x.1)) = l := by
        refine List.filter_eq_self.2 fun y hy => ?_
        have : ticket ≠ y.1 := fun h => hn.1 (List.mem_map.2 ⟨y, hy, h.symm⟩)
        simpa using this
      cases hp : p f <;> simp [hl, hp]
    · have hx : ticket ≠ x.1 := fun h => hn.1 (List.mem_map.2 ⟨_, hm, h⟩)
      rw [List.filter_cons_of_pos (by simpa using hx), List.countP_cons, List.countP_cons,
        ih hn.2 hm]
      omega

section Others

variable {v : View} {e : Event}

theorem others_sublist : (v.others e).Sublist v.flights := by
  unfold others
  split
  · exact List.filter_sublist
  · exact List.Sublist.refl _

/-- A flight stays in the air unless the event lands it. -/
theorem mem_others_or_landed (hn : (v.flights.map (·.1)).Nodup) {ticket : Nat} {f : Flight}
    (h : (ticket, f) ∈ v.flights) (e : Event) : (ticket, f) ∈ v.others e ∨
      ∃ a l, e = .answered ticket a ∧ f.landing? a = some l ∧ v.landing? e = some l := by
  cases hl : v.landing? e with
  | none => exact .inl (by simpa [others, hl] using h)
  | some l =>
    obtain ⟨t, a, g, rfl, hg, hgl⟩ := landing?_eq_some hl
    by_cases ht : t = ticket
    · subst ht
      obtain rfl : g = f := Option.some.inj (hg.symm.trans (flight?_of_mem hn h))
      exact .inr ⟨a, l, rfl, hgl, rfl⟩
    · refine .inl ?_
      simp only [others, hl, Option.isSome_some, if_true, Event.answers]
      exact List.mem_filter.2 ⟨h, by simpa using ht⟩

/-- A landing takes its flight away. -/
theorem countP_others_of_landing? (hn : (v.flights.map (·.1)).Nodup) {ticket : Nat} {a : Answer}
    {f : Flight} {l : Landing} (hf : v.flight? ticket = some f) (hl : f.landing? a = some l)
    (p : Flight → Bool) : v.flights.countP (fun x => p x.2) =
      (v.others (.answered ticket a)).countP (fun x => p x.2) + (p f).toNat := by
  have ho : v.others (.answered ticket a) =
      v.flights.filter fun x => !decide (ticket = x.1) := by
    simp [others, landing?, hf, hl, Event.answers]
  rw [ho, countP_filter_key hn (flight?_eq_some hf) p]

/-- A landing takes its flight away from the flights of toggles, if it is one of them. -/
theorem countP_others (hn : (v.flights.map (·.1)).Nodup) :
    v.flights.countP (·.2.ofToggle) =
      (v.others e).countP (·.2.ofToggle) + (v.landsToggle e).toNat := by
  cases hl : v.landing? e with
  | none => simp [others, landsToggle, hl]
  | some l =>
    obtain ⟨ticket, a, f, rfl, hf, hla⟩ := landing?_eq_some hl
    rw [countP_others_of_landing? hn hf hla, landsToggle_of_landing hl, ofToggle_landing? hla]

end Others

/-! ### The invariant -/

/-- The call of a flight is on record. No other call has its ticket; a status read carries the epoch
of that moment, and a call of a resolution the generation. -/
def Recorded (setup : Setup) (log : List Entry) (x : Nat × Flight) : Prop :=
  ∃ newer older, log = newer ++ .did (.call x.1 (x.2.call setup.settings)) :: older ∧
    (∀ c, .did (.call x.1 c) ∉ newer) ∧
    (∀ epoch, x.2.epoch? = some epoch → epoch = writes older) ∧
    ∀ g, x.2.generation? = some g → g = starts older

/-- A view agrees with its chronicle. -/
structure Sound (setup : Setup) (s : Logged) : Prop where
  /-- The epoch counts the local writes. -/
  epoch : s.view.display.relationship.epoch = writes s.log
  /-- The generation counts the resolutions. -/
  generation : s.view.generation = starts s.log
  /-- The view lives until it is torn down. -/
  alive : s.view.alive = decide (ends s.log = 0)
  /-- Tickets are given out one after the other. -/
  below : ∀ x ∈ s.view.flights, x.1 < s.view.nextTicket
  nodup : (s.view.flights.map (·.1)).Nodup
  /-- While a toggle is under way exactly one flight belongs to it. -/
  toggles : s.view.flights.countP (·.2.ofToggle) = s.view.toggling.toNat
  recorded : ∀ x ∈ s.view.flights, Recorded setup s.log x
  /-- An answer that landed is that of a call made before. -/
  answered : ∀ ticket l, .landed ticket l ∈ s.log → ticket < s.view.nextTicket

theorem sound_start (setup : Setup) : Sound setup .start :=
  ⟨rfl, rfl, rfl, by simp [Logged.start, start], by simp [Logged.start, start], rfl,
    by simp [Logged.start, start], by simp [Logged.start]⟩

/-- While a flight of a toggle stays in the air, no other one lands. -/
theorem landsToggle_of_mem_others {setup : Setup} {s : Logged} (h : Sound setup s) {e : Event}
    {x : Nat × Flight} (hx : x ∈ s.view.others e) (ht : x.2.ofToggle = true) :
    s.view.landsToggle e = false := by
  have split := countP_others (e := e) h.nodup
  have more : 0 < (s.view.others e).countP (·.2.ofToggle) := List.countP_pos_iff.2 ⟨x, hx, ht⟩
  have few := h.toggles
  have flag := Bool.toNat_le s.view.toggling
  cases hl : s.view.landsToggle e with
  | false => rfl
  | true =>
    rw [hl, Bool.toNat_true] at split
    omega

/-- A flight of a toggle lands only while a toggle is under way. -/
theorem toggling_of_landsToggle {setup : Setup} {s : Logged} (h : Sound setup s) {e : Event}
    (hl : s.view.landsToggle e = true) : s.view.toggling = true := by
  have split := countP_others (e := e) h.nodup
  rw [h.toggles, hl, Bool.toNat_true] at split
  cases ht : s.view.toggling with
  | true => rfl
  | false =>
    rw [ht, Bool.toNat_false] at split
    omega

section Step

variable {setup : Setup} {s : Logged}

theorem epoch_step (v : View) (e : Event) : (v.step setup e).1.display.relationship.epoch =
    v.display.relationship.epoch + (v.localWrite? setup e).isSome.toNat := by
  rw [step_relationship]
  cases v.localWrite? setup e with
  | some w => rfl
  | none =>
    cases v.report? e with
    | some x => simp
    | none => rfl

/-- What a flight carries when it is issued is what the view then has. -/
theorem Issued.carries {v v' : View} {f : Flight} (h : Issued setup v v' f) :
    (∀ epoch, f.epoch? = some epoch → epoch = v'.display.relationship.epoch) ∧
    ∀ g, f.generation? = some g → g = v'.generation := by
  cases f with
  | actor caller g url =>
    obtain ⟨-, -, rfl⟩ := h
    simp [Flight.epoch?, Flight.generation?]
  | count caller g which url =>
    obtain ⟨-, rfl, -⟩ := h
    simp [Flight.epoch?, Flight.generation?]
  | outbox caller g url =>
    obtain ⟨-, rfl, -⟩ := h
    simp [Flight.epoch?, Flight.generation?]
  | status who epoch after =>
    obtain ⟨-, -, -, rfl⟩ := h
    simp [Flight.epoch?, Flight.generation?]
  | request caller who prior optimistic => simp [Flight.epoch?, Flight.generation?]

/-- A landing on record is that of the event. -/
theorem mem_landed_of_mem_entries {v : View} {e : Event} {ticket : Nat} {l : Landing}
    (h : .landed ticket l ∈ v.entries setup e) :
    v.landing? e = some l ∧ ∃ a f, e = .answered ticket a ∧ (ticket, f) ∈ v.flights ∧
      f.landing? a = some l := by
  rcases mem_entries setup v e h with ⟨o, -, ho⟩ | ⟨who, -, -, hd⟩ | ⟨w, -, hw⟩ |
    ⟨t, a, l', rfl, hl, heq⟩ | hh
  · cases ho
  · cases hd
  · cases hw
  · cases heq
    obtain ⟨t, a', f, hea, hf, hfl⟩ := landing?_eq_some hl
    cases hea
    exact ⟨hl, a, f, rfl, flight?_eq_some hf, hfl⟩
  · cases hh

/-- A call on record is one that the step has made. -/
theorem mem_call_of_mem_entries {v : View} {e : Event} {ticket : Nat} {c : Call}
    (h : .did (.call ticket c) ∈ v.entries setup e) :
    (ticket, c) ∈ callsOf (v.step setup e).2 := by
  rcases mem_entries setup v e h with ⟨o, ho, heq⟩ | ⟨who, -, -, hd⟩ | ⟨w, -, hw⟩ |
    ⟨t, a, l, -, -, hl⟩ | hh
  · cases heq
    exact List.mem_filterMap.2 ⟨_, ho, rfl⟩
  · cases hd
  · cases hw
  · cases hl
  · cases hh

section Calls

variable {e : Event} {fs : List Flight} (hc : StepCalls setup s.view e fs)
include hc

/-- A flight of the next view stayed in the air, or the step has issued it. -/
theorem StepCalls.mem {x : Nat × Flight} (h : x ∈ (s.view.step setup e).1.flights) :
    x ∈ s.view.others e ∨ x ∈ ticketed s.view.nextTicket fs :=
  List.mem_append.1 (hc.makes.sub.subset h)

/-- What only its answer ends is in the air, whether it was there before or is issued now. -/
theorem StepCalls.kept {x : Nat × Flight}
    (h : x ∈ s.view.others e ++ ticketed s.view.nextTicket fs) (hl : x.2.isLasting = true) :
    x ∈ (s.view.step setup e).1.flights := by
  have hm : x ∈ (s.view.others e ++ ticketed s.view.nextTicket fs).filter (·.2.isLasting) :=
    List.mem_filter.2 ⟨h, hl⟩
  have hf := hc.makes.lasting
  exact (List.mem_filter.1 (hf ▸ hm : x ∈ (s.view.step setup e).1.flights.filter _)).1

theorem StepCalls.stays {x : Nat × Flight} (h : x ∈ s.view.others e)
    (hl : x.2.isLasting = true) : x ∈ (s.view.step setup e).1.flights :=
  hc.kept (List.mem_append_left _ h) hl

theorem StepCalls.mem_calls {ticket : Nat} {c : Call}
    (h : (ticket, c) ∈ callsOf (s.view.step setup e).2) : s.view.nextTicket ≤ ticket := by
  rw [hc.makes.calls] at h
  obtain ⟨x, hx, heq⟩ := List.mem_map.1 h
  obtain rfl : x.1 = ticket := congrArg Prod.fst heq
  exact (mem_ticketed hx).1

theorem StepCalls.nodup_calls : ((callsOf (s.view.step setup e).2).map (·.1)).Nodup := by
  rw [hc.makes.calls, List.map_map]
  exact nodup_ticketed _ _

theorem below_step (h : Sound setup s) :
    ∀ x ∈ (s.step setup e).view.flights, x.1 < (s.step setup e).view.nextTicket := by
  intro x hx
  have hn : (s.step setup e).view.nextTicket = s.view.nextTicket + fs.length := hc.makes.next
  rcases hc.mem hx with hx | hx
  · have := h.below x (others_sublist.subset hx)
    omega
  · have := (mem_ticketed hx).2.1
    omega

theorem nodup_step (h : Sound setup s) : ((s.step setup e).view.flights.map (·.1)).Nodup := by
  refine (hc.makes.sub.map (·.1)).nodup ?_
  rw [List.map_append, List.nodup_append]
  refine ⟨(others_sublist.map _).nodup h.nodup, nodup_ticketed _ _, ?_⟩
  rintro a ha b hb rfl
  obtain ⟨x, hx, rfl⟩ := List.mem_map.1 ha
  obtain ⟨y, hy, hxy⟩ := List.mem_map.1 hb
  have h1 := h.below x (others_sublist.subset hx)
  have h2 : s.view.nextTicket ≤ y.1 := (mem_ticketed hy).1
  omega

theorem toggles_step (h : Sound setup s) :
    (s.step setup e).view.flights.countP (·.2.ofToggle) =
      (s.step setup e).view.toggling.toNat := by
  have split := countP_others (e := e) h.nodup
  have flag := hc.toggling (toggling_of_landsToggle h)
  have keep : ∀ l : List (Nat × Flight), l.countP (·.2.ofToggle) =
      (l.filter (·.2.isLasting)).countP (·.2.ofToggle) := by
    intro l
    rw [List.countP_filter]
    refine List.countP_congr fun x _ => ?_
    simp only [Bool.and_eq_true]
    exact ⟨fun hx => ⟨hx, isLasting_of_ofToggle hx⟩, fun hx => hx.1⟩
  have new : (s.step setup e).view.flights.countP (·.2.ofToggle) =
      (s.view.others e).countP (·.2.ofToggle) + fs.countP Flight.ofToggle := by
    rw [keep]
    have hl := hc.makes.lasting
    rw [← countP_ticketed Flight.ofToggle s.view.nextTicket, ← List.countP_append, keep (_ ++ _)]
    exact congrArg _ hl
  have hv : (s.step setup e).view.toggling = (s.view.step setup e).1.toggling := rfl
  rw [new, hv]
  have := h.toggles
  omega

/-- What a flight that was there before has on record stays the same. -/
theorem recorded_of_old (h : Sound setup s) {x : Nat × Flight} (hx : x ∈ s.view.flights) :
    Recorded setup (s.step setup e).log x := by
  obtain ⟨newer, older, hlog, hn, he⟩ := h.recorded x hx
  refine ⟨s.view.entries setup e ++ newer, older, ?_, fun c hm => ?_, he⟩
  · rw [Logged.step, hlog, List.append_assoc]
  · rcases List.mem_append.1 hm with hm | hm
    · have h1 := hc.mem_calls (mem_call_of_mem_entries hm)
      have h2 := h.below x hx
      omega
    · exact hn c hm

theorem recorded_of_new (h : Sound setup s) {x : Nat × Flight}
    (hx : x ∈ ticketed s.view.nextTicket fs) : Recorded setup (s.step setup e).log x := by
  have hm : (x.1, x.2.call setup.settings) ∈ callsOf (s.view.step setup e).2 := by
    rw [hc.makes.calls]
    exact List.mem_map_of_mem hx
  obtain ⟨o, ho, hoc⟩ := List.mem_filterMap.1 hm
  obtain rfl : o = .call x.1 (x.2.call setup.settings) := by
    cases o <;> simp_all [Output.call?]
  obtain ⟨l₁, l₂, hl⟩ := List.append_of_mem (List.mem_reverse.2 ho)
  refine ⟨l₁.map Entry.did, l₂.map Entry.did ++ s.view.displayEntries setup e ++
    s.view.writeEntries setup e ++ s.view.arrivals e ++ s.log, ?_, ?_, ?_, ?_⟩
  · simp [Logged.step, entries, outputEntries, hl, -List.map_reverse]
  · intro c hmem
    obtain ⟨o, ho', heq⟩ := List.mem_map.1 hmem
    obtain rfl : o = .call x.1 c := by simpa using heq
    -- the outputs would make two calls with the ticket
    have hd := hc.nodup_calls
    rw [← List.reverse_reverse (s.view.step setup e).2, hl] at hd
    simp only [callsOf, List.reverse_append, List.reverse_cons, List.filterMap_append,
      List.map_append, List.nodup_append] at hd
    refine hd.2.2 x.1 ?_ x.1 ?_ rfl
    · simp [Output.call?]
    · exact List.mem_map.2 ⟨(x.1, c), List.mem_filterMap.2 ⟨_, List.mem_reverse.2 ho', rfl⟩, rfl⟩
  · intro epoch hf
    rw [(hc.issued x.2 (mem_ticketed hx).2.2).carries.1 epoch hf, epoch_step, h.epoch]
    simp only [writes, List.countP_append, countP_did (p := Entry.isWrote) (fun _ => rfl),
      displayEntries_counts, writeEntries_counts, arrivals_counts]
    omega
  · intro g hf
    rw [(hc.issued x.2 (mem_ticketed hx).2.2).carries.2 g hf, step_generation, h.generation]
    simp only [starts, List.countP_append, countP_did (p := Entry.isStart) (fun _ => rfl),
      displayEntries_counts, writeEntries_counts, arrivals_counts]
    omega

end Calls

theorem sound_step (h : Sound setup s) (e : Event) : Sound setup (s.step setup e) := by
  obtain ⟨fs, hc⟩ := step_calls setup s.view e
  refine ⟨?_, ?_, ?_, below_step hc h, nodup_step hc h, toggles_step hc h, fun x hx => ?_,
    fun ticket l hl => ?_⟩
  · show (s.view.step setup e).1.display.relationship.epoch = writes (_ ++ _)
    rw [writes, List.countP_append, ← writes, ← writes, epoch_step, h.epoch, writes_entries]
    omega
  · show (s.view.step setup e).1.generation = starts (_ ++ _)
    rw [starts, List.countP_append, ← starts, ← starts, step_generation, h.generation,
      starts_entries]
    omega
  · show (s.view.step setup e).1.alive = decide (ends (_ ++ _) = 0)
    rw [ends, List.countP_append, ← ends, ← ends, step_alive, h.alive, ends_entries]
    cases e.isTeardown <;> simp
  · rcases hc.mem hx with hx | hx
    · exact recorded_of_old hc h (others_sublist.subset hx)
    · exact recorded_of_new hc h hx
  · have hn : (s.step setup e).view.nextTicket = s.view.nextTicket + fs.length := hc.makes.next
    have old : ticket < s.view.nextTicket := by
      rcases List.mem_append.1 hl with hl | hl
      · obtain ⟨-, a, f, -, hf, -⟩ := mem_landed_of_mem_entries hl
        exact h.below _ hf
      · exact h.answered ticket l hl
    omega

/-- **Every run keeps the chronicle and the view in agreement.** -/
theorem Logged.sound_run (setup : Setup) (events : List Event) : Sound setup (run setup events) :=
  run_induction (sound_start setup) (fun _ e h => sound_step h e) events

end Step

end FollowClient.View
