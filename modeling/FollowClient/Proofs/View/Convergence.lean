import FollowClient.Proofs.View.Pairing

/-!
Convergence. When nothing is in flight any more, a view that lives shows what its core has, provided
the status of the displayed actor was read since that actor is displayed.

What carries the proof is `Agrees`. A read of the present epoch found what the core still has; a
status that counts as following is that of the core, unless a request is under way; and after a
local write or a read there is agreement, unless a flight of a toggle is still to come.
-/

namespace FollowClient.View

/-! ### Since the actor is displayed -/

/-- The status of an actor was read since the displayed actor is displayed: the read was issued and
it landed. -/
def ReadSince (log : List Entry) (who : String) : Prop :=
  ∃ ticket epoch after r, .did (.call ticket (.status who)) ∈ sinceDisplayed log ∧
    .landed ticket (.status who epoch after r) ∈ sinceDisplayed log

/-- The status was read or written since the displayed actor is displayed. -/
def Attested (log : List Entry) (who : String) : Prop :=
  (∃ s, .wrote s ∈ sinceDisplayed log) ∨ ReadSince log who

/-- What stands before an entry that is in reach is in reach itself. -/
theorem subset_takeWhile {α : Type} {p : α → Bool} {l₁ l₂ : List α} {x : α}
    (h : x ∈ (l₁ ++ l₂).takeWhile p) (hn : x ∉ l₁) :
    ∀ y ∈ l₁, y ∈ (l₁ ++ l₂).takeWhile p := by
  induction l₁ with
  | nil => simp
  | cons a l₁ ih =>
    rw [List.cons_append] at h ⊢
    cases ha : p a with
    | false => simp [List.takeWhile_cons_of_neg, ha] at h
    | true =>
      rw [List.takeWhile_cons_of_pos ha] at h ⊢
      have hx : x ∈ (l₁ ++ l₂).takeWhile p := by
        rcases List.mem_cons.1 h with rfl | h
        · exact absurd List.mem_cons_self hn
        · exact h
      intro y hy
      rcases List.mem_cons.1 hy with rfl | hy
      · exact List.mem_cons_self
      · exact List.mem_cons_of_mem _ (ih hx (fun hm => hn (List.mem_cons_of_mem _ hm)) y hy)

theorem mem_of_mem_sinceDisplayed {log : List Entry} {x : Entry} (h : x ∈ sinceDisplayed log) :
    x ∈ log := (List.takeWhile_sublist _).subset h

section Entries

variable {setup : Setup} {v : View} {e : Event}

theorem sinceDisplayed_of_same (h : (v.step setup e).1.display.actorId = v.display.actorId)
    (log : List Entry) : sinceDisplayed (v.entries setup e ++ log) =
      v.entries setup e ++ sinceDisplayed log := by
  refine List.takeWhile_append_of_pos fun x hx => ?_
  rcases mem_entries setup v e hx with ⟨o, -, rfl⟩ | ⟨who, -, hne, -⟩ | ⟨w, -, rfl⟩ |
    ⟨t, a, l, -, -, rfl⟩ | rfl
  · rfl
  · exact absurd h hne
  · rfl
  · rfl
  · rfl

/-- After a change of the displayed actor only the calls of the step itself count. -/
theorem sinceDisplayed_of_changed {who : String}
    (hw : (v.step setup e).1.display.actorId = some who)
    (h : (v.step setup e).1.display.actorId ≠ v.display.actorId) (log : List Entry) :
    sinceDisplayed (v.entries setup e ++ log) = v.outputEntries setup e := by
  have hd : v.displayEntries setup e = [.displayed who] := by
    rw [displayEntries, if_neg h, hw]
    rfl
  have hp : ∀ x ∈ v.outputEntries setup e, (!x.isDisplayed) = true := by
    intro x hx
    obtain ⟨o, -, rfl⟩ := List.mem_map.1 hx
    rfl
  have hl : v.entries setup e ++ log = v.outputEntries setup e ++
      .displayed who :: (v.writeEntries setup e ++ v.arrivals e ++ log) := by
    simp [entries, hd]
  rw [sinceDisplayed, hl, List.takeWhile_append_of_pos hp,
    List.takeWhile_cons_of_neg (by simp [Entry.isDisplayed]), List.append_nil]

end Entries

/-! ### What is still to come -/

/-- A request for an actor is in flight. -/
def Requested (v : View) (who : String) : Prop :=
  ∃ ticket caller prior optimistic, (ticket, .request caller who prior optimistic) ∈ v.flights

/-- A flight of a toggle is still to bring the status: its request, or its read. -/
def Pending (v : View) (who : String) : Prop :=
  Requested v who ∨ ∃ ticket after, after.ofToggle = true ∧
    (ticket, .status who v.display.relationship.epoch after) ∈ v.flights

/-- **A view agrees with its core.** -/
structure Agrees (setup : Setup) (c : Paired) : Prop where
  /-- A read of the present epoch is one for the displayed actor, and it found what the core has. -/
  reads : ∀ {ticket who epoch after}, (ticket, Flight.status who epoch after) ∈ c.view.flights →
    epoch ≤ c.view.display.relationship.epoch ∧
    (epoch = c.view.display.relationship.epoch →
      c.view.display.actorId = some who ∧ c.found ticket = c.table who)
  /-- A request to unfollow was made in agreement with the core. -/
  requests : ∀ {ticket caller who prior optimistic},
    (ticket, Flight.request caller who prior optimistic) ∈ c.view.flights →
    setup.hasControl = true ∧ optimistic = Relationship.toggled prior ∧
    (prior.isFollowing = true → c.table who = prior)
  /-- A follow that is shown is one that the core has, or a request is under way. -/
  following : ∀ {who}, c.view.display.actorId = some who →
    c.view.display.relationship.status.isFollowing = true →
    c.view.display.relationship.status = c.table who ∨ Requested c.view who
  /-- What was read or written is what the core has, or is still to be read. -/
  settled : ∀ {who}, c.view.display.actorId = some who → Attested c.log who →
    c.view.display.relationship.status = c.table who ∨ Pending c.view who

theorem agrees_start (setup : Setup) (table : String → FollowStatus) :
    Agrees setup (.start table) where
  reads h := by simp [Paired.start, Logged.start, start] at h
  requests h := by simp [Paired.start, Logged.start, start] at h
  following h := by simp [Paired.start, Logged.start, start, Display.empty, Display.actorId] at h
  settled h := by simp [Paired.start, Logged.start, start, Display.empty, Display.actorId] at h

/-! ### What a local write leaves to come -/

section Written

variable {setup : Setup} {v : View}

theorem requested_of_toggle {caller : Nat} {who : String} (h : v.canToggle setup = true)
    (hw : v.display.actorId = some who) : Requested (v.step setup (.toggle caller)).1 who := by
  obtain ⟨p, hp, hs⟩ := step_toggle_eq h caller
  obtain rfl : p.id = who := by simpa [Display.actorId, hp] using hw
  refine ⟨v.nextTicket, caller, v.display.relationship.status,
    v.display.relationship.toggle.status, ?_⟩
  rw [hs]
  exact List.mem_append_right _ (List.mem_singleton.2 rfl)

/-- The end of a request for the displayed actor is followed by a read in the new epoch. -/
theorem pending_of_request {ticket : Nat} {a : Answer} {caller : Nat} {who : String}
    {prior optimistic : FollowStatus} {r : Except Failure Unit}
    (hl : v.landing? (.answered ticket a) = some (.request caller who prior optimistic r))
    (ha : v.alive = true) (hc : setup.hasControl = true) (hw : v.display.actorId = some who) :
    Pending (v.step setup (.answered ticket a)).1 who := by
  have hcond : ((v.cleared ticket a).alive &&
      decide ((v.cleared ticket a).display.actorId = some who)) = true := by
    simp only [cleared_frame, Bool.and_eq_true, decide_eq_true_eq]
    exact ⟨ha, hw⟩
  have goal : ∀ (w : View) (after : AfterRead), after.ofToggle = true →
      w.readTarget? setup = some who → Pending (w.readStatus setup after).1 who := by
    intro w after hk ht
    refine .inr ⟨w.nextTicket, after, hk, ?_⟩
    rw [(w.readStatus_frame setup after).1]
    exact w.mem_readStatus setup ht after
  rw [step_of_landing hl, Landing.effect, landRequest_eq, if_pos hcond]
  cases r with
  | ok u =>
    refine goal _ _ rfl ((readTarget?_eq_some setup _).2 ⟨?_, hc, ?_⟩)
    · simpa using ha
    · simpa using hw
  | error f =>
    refine goal _ _ rfl ((readTarget?_eq_some setup _).2 ⟨?_, hc, ?_⟩)
    · simpa using ha
    · simpa using hw

end Written

/-! ### One step -/

section Step

variable {setup : Setup} {c : Paired} {e : Event} {fs : List Flight}

/-- A request for the displayed actor does not end without a local write. -/
theorem requested_of_localWrite?_eq_none {s : Logged} (hs : Sound setup s)
    (hc : StepCalls setup s.view e fs) (ha : s.view.alive = true) {who : String}
    (hwho : s.view.display.actorId = some who) (hw : s.view.localWrite? setup e = none)
    (h : Requested s.view who) : Requested (s.view.step setup e).1 who := by
  obtain ⟨ticket, caller, prior, optimistic, hm⟩ := h
  rcases mem_others_or_landed hs.nodup hm e with ho | ⟨a, l, rfl, hfl, hl⟩
  · exact ⟨ticket, caller, prior, optimistic, hc.stays ho rfl⟩
  · obtain ⟨r, rfl⟩ := landing?_of_request hfl
    simp [localWrite?, hl, Landing.write?, ha, hwho] at hw

/-- Without a local write and without a read of the present epoch, what is to come stays. -/
theorem pending_of_unchanged (hs : Sound setup c.logged) (hc : StepCalls setup c.view e fs)
    (ha : c.view.alive = true) {who : String} (hwho : c.view.display.actorId = some who)
    (hw : c.view.localWrite? setup e = none)
    (hr : ∀ x after r, c.view.landing? e ≠
      some (.status x c.view.display.relationship.epoch after r))
    (h : Pending c.view who) : Pending (c.view.step setup e).1 who := by
  rcases h with h | ⟨ticket, after, hk, hm⟩
  · exact .inl (requested_of_localWrite?_eq_none hs hc ha hwho hw h)
  · refine .inr ⟨ticket, after, hk, ?_⟩
    have hep : (c.view.step setup e).1.display.relationship.epoch =
        c.view.display.relationship.epoch := by
      rw [epoch_step, hw]
      rfl
    rw [hep]
    rcases mem_others_or_landed hs.nodup hm e with ho | ⟨a, l, rfl, hfl, hl⟩
    · exact hc.stays ho (isLasting_of_ofToggle hk)
    · obtain ⟨r, rfl⟩ := landing?_of_status hfl
      exact absurd hl (hr _ _ _)

/-- While a flight of a toggle stays in the air, the core keeps its table. -/
theorem tableAfter_of_landsToggle_eq_false (h : c.view.landsToggle e = false) :
    c.tableAfter setup e = c.table := by
  refine Paired.tableAfter_of_not_request fun caller who prior optimistic u hl => ?_
  simp [landsToggle, hl, Landing.ofToggle] at h

/-- A read of the present epoch brings what the core has. -/
theorem report_eq_table (h : Agrees setup c) (ht : c.Truthful e) {epoch : Nat} {s : FollowStatus}
    {who : String} (hr : c.view.report? e = some (epoch, s))
    (hwho : c.view.display.actorId = some who) (he : epoch = c.view.display.relationship.epoch) :
    s = c.table who := by
  obtain ⟨x, after, hl, -, -⟩ := report?_eq_some.1 hr
  obtain ⟨ticket, hm, hs⟩ := ht _ _ _ _ hl
  obtain ⟨hx, hf⟩ := (h.reads hm).2 he
  obtain rfl : x = who := Option.some.inj (hx.symm.trans hwho)
  rw [← hf]
  exact Except.ok.inj hs

/-- A read that was issued before a local write and since the actor is displayed shows that the
write happened since then, too. -/
theorem wrote_of_stale_read (hs : Sound setup c.logged) {ticket : Nat} {who : String} {epoch : Nat}
    {after : AfterRead} (hm : (ticket, .status who epoch after) ∈ c.view.flights)
    (hne : epoch ≠ c.view.display.relationship.epoch)
    (hcall : .did (.call ticket (.status who)) ∈ sinceDisplayed c.log) :
    ∃ w, .wrote w ∈ sinceDisplayed c.log := by
  obtain ⟨newer, older, hlog, hn, hep, -⟩ := hs.recorded _ hm
  have hw : writes c.log = writes newer + writes older := by
    rw [show c.log = _ from hlog, writes, List.countP_append, List.countP_cons_of_neg]
    · rfl
    · simp [Entry.isWrote]
  have hold : epoch = writes older := hep epoch rfl
  have hnow : c.view.display.relationship.epoch = writes c.log := hs.epoch
  have hpos : 0 < writes newer := by omega
  obtain ⟨y, hy, hyw⟩ := List.countP_pos_iff.1 hpos
  obtain ⟨w, rfl⟩ : ∃ w, y = .wrote w := by
    cases y with
    | wrote w => exact ⟨w, rfl⟩
    | _ => cases hyw
  refine ⟨w, ?_⟩
  rw [sinceDisplayed, show c.log = _ from hlog] at hcall ⊢
  exact subset_takeWhile hcall (hn _) _ hy

/-- Without a local write, only a read of the present epoch can attest more than was attested. -/
theorem attested_of_advance (hs : Sound setup c.logged) (hc : StepCalls setup c.view e fs)
    {who : String} (hw : c.view.localWrite? setup e = none)
    (hr : ∀ x after r, c.view.landing? e ≠
      some (.status x c.view.display.relationship.epoch after r))
    (h : Attested (c.advance setup e).log who) : Attested c.log who := by
  have hsince : sinceDisplayed (c.advance setup e).log =
      c.view.entries setup e ++ sinceDisplayed c.log :=
    sinceDisplayed_of_same (step_actorId_of_localWrite?_eq_none hw) _
  have nocall : ∀ {ticket}, ticket < c.view.nextTicket →
      .did (.call ticket (.status who)) ∈ sinceDisplayed (c.advance setup e).log →
      .did (.call ticket (.status who)) ∈ sinceDisplayed c.log := by
    intro ticket hlt hm
    rw [hsince] at hm
    rcases List.mem_append.1 hm with hm | hm
    · exact absurd hlt (Nat.not_lt.2 (hc.mem_calls (mem_call_of_mem_entries hm)))
    · exact hm
  rcases h with ⟨s, hm⟩ | ⟨ticket, epoch, after, r, hcall, hland⟩
  · rw [hsince] at hm
    rcases List.mem_append.1 hm with hm | hm
    · have hn : writes (c.view.entries setup e) = 0 := by
        rw [writes_entries, hw]
        rfl
      exact absurd rfl (List.countP_eq_zero.1 hn _ hm)
    · exact .inl ⟨s, hm⟩
  · rw [hsince] at hland
    rcases List.mem_append.1 hland with hm | hm
    · obtain ⟨hl, a, f, -, hf, hla⟩ := mem_landed_of_mem_entries hm
      obtain ⟨rfl, -⟩ := landing?_eq_status hla
      have hne : epoch ≠ c.view.display.relationship.epoch := fun he => hr _ _ _ (he ▸ hl)
      exact .inl (wrote_of_stale_read hs hf hne (nocall (hs.below _ hf) hcall))
    · have hlt := hs.answered ticket _ (mem_of_mem_sinceDisplayed hm)
      exact .inr ⟨ticket, epoch, after, r, nocall hlt hcall, hm⟩

section Parts

variable (hs : Sound setup c.logged) (h : Agrees setup c) (hc : StepCalls setup c.view e fs)
include hs h hc

theorem requests_advance {ticket caller : Nat} {who : String} {prior optimistic : FollowStatus}
    (hm : (ticket, Flight.request caller who prior optimistic) ∈
      (c.advance setup e).view.flights) :
    setup.hasControl = true ∧ optimistic = Relationship.toggled prior ∧
    (prior.isFollowing = true → (c.advance setup e).table who = prior) := by
  rcases hc.mem hm with hm | hm
  · have kept : c.tableAfter setup e = c.table :=
      tableAfter_of_landsToggle_eq_false (landsToggle_of_mem_others hs hm rfl)
    obtain ⟨h1, h2, h3⟩ := h.requests (others_sublist.subset hm)
    refine ⟨h1, h2, fun hf => ?_⟩
    show c.tableAfter setup e who = prior
    rw [kept, h3 hf]
  · obtain ⟨-, h1, hwho, ht, rfl, h2, -⟩ := hc.issued _ (mem_ticketed hm).2.2
    refine ⟨h1, h2, fun hf => ?_⟩
    -- no toggle was under way, so no request was: the status shown is that of the core
    have idle : c.view.landsToggle e = false := by
      cases hl : c.view.landsToggle e with
      | false => rfl
      | true => exact absurd (toggling_of_landsToggle hs hl) (by simp [ht])
    show c.tableAfter setup e who = _
    rw [tableAfter_of_landsToggle_eq_false idle]
    rcases h.following hwho hf with hst | ⟨t, caller', prior', optimistic', hq⟩
    · exact hst.symm
    · have idle : c.view.flights.countP (·.2.ofToggle) = 0 := by
        rw [hs.toggles, ht]
        rfl
      exact absurd rfl (List.countP_eq_zero.1 idle _ hq)

variable (ha : c.view.alive = true)
include ha

theorem reads_advance {ticket : Nat} {who : String} {epoch : Nat} {after : AfterRead}
    (hm : (ticket, Flight.status who epoch after) ∈ (c.advance setup e).view.flights) :
    epoch ≤ (c.advance setup e).view.display.relationship.epoch ∧
    (epoch = (c.advance setup e).view.display.relationship.epoch →
      (c.advance setup e).view.display.actorId = some who ∧
      (c.advance setup e).found ticket = (c.advance setup e).table who) := by
  have hep : (c.advance setup e).view.display.relationship.epoch =
      c.view.display.relationship.epoch + (c.view.localWrite? setup e).isSome.toNat :=
    epoch_step c.view e
  rcases hc.mem hm with hm | hm
  · have hm' := others_sublist.subset hm
    obtain ⟨hle, hcur⟩ := h.reads hm'
    refine ⟨by omega, fun heq => ?_⟩
    have hw : c.view.localWrite? setup e = none := by
      cases hw : c.view.localWrite? setup e with
      | none => rfl
      | some w =>
        rw [hw, Option.isSome_some, Bool.toNat_true] at hep
        omega
    rw [hw, Option.isSome_none, Bool.toNat_false] at hep
    obtain ⟨hwho, hf⟩ := hcur (by omega)
    refine ⟨(step_actorId_of_localWrite?_eq_none hw).trans hwho, ?_⟩
    show c.foundAfter setup e ticket = c.tableAfter setup e who
    rw [Paired.foundAfter_of_old hc (hs.below _ hm'), hf,
      Paired.tableAfter_of_localWrite?_eq_none ha hwho hw]
  · obtain ⟨-, -, hwho, rfl⟩ := hc.issued _ (mem_ticketed hm).2.2
    exact ⟨Nat.le_refl _, fun _ => ⟨hwho, Paired.foundAfter_of_new hc hm⟩⟩

/-- What is shown stays followed for the same reason, unless it is written. -/
theorem following_of_unchanged {who : String} (hw : c.view.localWrite? setup e = none)
    (hr : (c.advance setup e).view.display.relationship = c.view.display.relationship)
    (hwho : c.view.display.actorId = some who)
    (hf : c.view.display.relationship.status.isFollowing = true) :
    (c.advance setup e).view.display.relationship.status = (c.advance setup e).table who ∨
      Requested (c.advance setup e).view who := by
  have kept : (c.advance setup e).table who = c.table who :=
    Paired.tableAfter_of_localWrite?_eq_none ha hwho hw
  rcases h.following hwho hf with hst | hq
  · exact .inl (by rw [hr, kept, hst])
  · exact .inr (requested_of_localWrite?_eq_none hs hc ha hwho hw hq)

variable (ht : c.Truthful e)
include ht

theorem following_advance {who : String}
    (hwho : (c.advance setup e).view.display.actorId = some who)
    (hf : (c.advance setup e).view.display.relationship.status.isFollowing = true) :
    (c.advance setup e).view.display.relationship.status = (c.advance setup e).table who ∨
      Requested (c.advance setup e).view who := by
  have hact := step_actorId setup c.view e
  have hrel : (c.advance setup e).view.display.relationship =
      (c.view.step setup e).1.display.relationship := rfl
  cases hw : c.view.localWrite? setup e with
  | some w =>
    have hst : (c.advance setup e).view.display.relationship.status = w := by
      rw [hrel, relationship_of_write hw]
    rw [hst] at hf ⊢
    rcases localWrite?_eq_some hw with ⟨caller, rfl, hcan⟩ |
      ⟨caller, x, prior, optimistic, r, hl, -, hx, rfl⟩ | ⟨p, -, -, rfl⟩
    · have same : c.view.display.actorId = some who := hact.symm.trans hwho
      exact .inr (requested_of_toggle hcan same)
    · obtain ⟨ticket, a, f, rfl, hfl, hla⟩ := landing?_eq_some hl
      obtain ⟨rfl, rfl⟩ := landing?_eq_request hla
      obtain ⟨-, hopt, hpri⟩ := h.requests (flight?_eq_some hfl)
      have same : c.view.display.actorId = some who :=
        (step_actorId_of_request setup hl).symm.trans hwho
      obtain rfl : x = who := Option.some.inj (hx.symm.trans same)
      refine .inl ?_
      show _ = c.tableAfter setup _ x
      cases r with
      | ok u =>
        rw [Paired.tableAfter_of_request hl, if_pos rfl]
        exact hopt
      | error failure =>
        exact (hpri hf).symm
    · cases hf
  | none =>
    have same : c.view.display.actorId = some who :=
      (step_actorId_of_localWrite?_eq_none hw).symm.trans hwho
    rw [step_relationship, hw] at hrel
    cases hr : c.view.report? e with
    | none =>
      rw [hr] at hrel
      rw [hrel] at hf
      exact following_of_unchanged hs h hc ha hw hrel same hf
    | some x =>
      rw [hr] at hrel
      cases hacc : c.view.display.relationship.accepts x.1 x.2 with
      | false =>
        replace hrel := hrel.trans (Relationship.report_of_not_accepts hacc)
        rw [hrel] at hf
        exact following_of_unchanged hs h hc ha hw hrel same hf
      | true =>
        have he : x.1 = c.view.display.relationship.epoch := by
          simp only [Relationship.accepts, Bool.and_eq_true, decide_eq_true_eq] at hacc
          exact hacc.1
        refine .inl ?_
        rw [hrel, Relationship.report_status_of_accepts hacc,
          report_eq_table h ht hr same he]
        exact (Paired.tableAfter_of_localWrite?_eq_none ha same hw).symm

/-- A read of the present epoch settles the status, unless a request is under way. -/
theorem settled_of_read {x who : String} {after : AfterRead} {r : Except Failure FollowStatus}
    (hl : c.view.landing? e =
      some (.status x c.view.display.relationship.epoch after r))
    (hwho : c.view.display.actorId = some who) (hw : c.view.localWrite? setup e = none) :
    (c.advance setup e).view.display.relationship.status = (c.advance setup e).table who ∨
      Pending (c.advance setup e).view who := by
  obtain ⟨ticket, hm, rfl⟩ := ht _ _ _ _ hl
  obtain ⟨hx, hf⟩ := (h.reads hm).2 rfl
  obtain rfl : x = who := Option.some.inj (hx.symm.trans hwho)
  have kept : (c.advance setup e).table x = c.table x :=
    Paired.tableAfter_of_localWrite?_eq_none ha hwho hw
  have hrel : (c.advance setup e).view.display.relationship =
      c.view.display.relationship.report c.view.display.relationship.epoch (c.table x) := by
    have hr : c.view.report? e =
        some (c.view.display.relationship.epoch, c.table x) :=
      report?_eq_some.2 ⟨x, after, hf ▸ hl, ha, hwho⟩
    show (c.view.step setup e).1.display.relationship = _
    rw [step_relationship, hw, hr]
  cases hacc : c.view.display.relationship.accepts c.view.display.relationship.epoch
      (c.table x) with
  | true => exact .inl (by rw [hrel, Relationship.report_status_of_accepts hacc, kept])
  | false =>
    -- the core has no follow, but one is shown: only a request can be the reason
    obtain ⟨hn, hfol⟩ : c.table x = .none ∧ c.view.display.relationship.isFollowing = true := by
      simpa [Relationship.accepts] using hacc
    rcases h.following hwho hfol with hst | hq
    · rw [Relationship.isFollowing, hst, hn] at hfol
      cases hfol
    · exact .inr (.inl (requested_of_localWrite?_eq_none hs hc ha hwho hw hq))

theorem settled_advance {who : String}
    (hwho : (c.advance setup e).view.display.actorId = some who)
    (hat : Attested (c.advance setup e).log who) :
    (c.advance setup e).view.display.relationship.status = (c.advance setup e).table who ∨
      Pending (c.advance setup e).view who := by
  have hact := step_actorId setup c.view e
  cases hw : c.view.localWrite? setup e with
  | some w =>
    rcases localWrite?_eq_some hw with ⟨caller, rfl, hcan⟩ |
      ⟨caller, x, prior, optimistic, r, hl, -, hx, rfl⟩ | ⟨p, hi, hne, rfl⟩
    · have same : c.view.display.actorId = some who := hact.symm.trans hwho
      exact .inr (.inl (requested_of_toggle hcan same))
    · obtain ⟨ticket, a, f, rfl, hfl, hla⟩ := landing?_eq_some hl
      obtain ⟨rfl, rfl⟩ := landing?_eq_request hla
      have same : c.view.display.actorId = some who :=
        (step_actorId_of_request setup hl).symm.trans hwho
      obtain rfl : x = who := Option.some.inj (hx.symm.trans same)
      exact .inr (pending_of_request hl ha (h.requests (flight?_eq_some hfl)).1 hx)
    · -- the actor is displayed only now, so nothing is attested yet
      rw [hi, Option.map_some, Option.some_or] at hact
      have hsince : sinceDisplayed (c.advance setup e).log = c.view.outputEntries setup e :=
        sinceDisplayed_of_changed hact (by rw [hact]; exact hne.symm) _
      rcases hat with ⟨s, hm⟩ | ⟨ticket, epoch, after, r, -, hm⟩
      · simp [hsince, outputEntries] at hm
      · simp [hsince, outputEntries] at hm
  | none =>
    have same : c.view.display.actorId = some who :=
      (step_actorId_of_localWrite?_eq_none hw).symm.trans hwho
    by_cases hcur : ∃ x after r, c.view.landing? e =
        some (.status x c.view.display.relationship.epoch after r)
    · obtain ⟨x, after, r, hl⟩ := hcur
      exact settled_of_read hs h hc ha ht hl same hw
    · have hno : ∀ x after r, c.view.landing? e ≠
          some (.status x c.view.display.relationship.epoch after r) :=
        fun x after r hl => hcur ⟨x, after, r, hl⟩
      have hrel : (c.advance setup e).view.display.relationship =
          c.view.display.relationship := relationship_of_stale hw hno
      have kept : (c.advance setup e).table who = c.table who :=
        Paired.tableAfter_of_localWrite?_eq_none ha same hw
      rcases h.settled same (attested_of_advance hs hc hw hno hat) with hst | hp
      · exact .inl (by rw [hrel, kept, hst])
      · exact .inr (pending_of_unchanged hs hc ha same hw hno hp)

end Parts

/-- **Every step of a view that lives keeps it in agreement with its core.** -/
theorem agrees_advance (hs : Sound setup c.logged) (h : Agrees setup c)
    (ha : c.view.alive = true) (ht : c.Truthful e) : Agrees setup (c.advance setup e) := by
  obtain ⟨fs, hc⟩ := step_calls setup c.view e
  exact ⟨reads_advance hs h hc ha, requests_advance hs h hc, following_advance hs h hc ha ht,
    settled_advance hs h hc ha ht⟩

end Step

/-! ### Every run -/

theorem Paired.agrees_run (setup : Setup) (table : String → FollowStatus) (events : List Event) :
    Sound setup (run setup table events).logged ∧
    ((run setup table events).view.alive = true → Agrees setup (run setup table events)) := by
  refine run_induction (P := fun c => Sound setup c.logged ∧ (c.view.alive = true → Agrees setup c))
    ⟨sound_start setup, fun _ => agrees_start setup table⟩ (fun c e h => ?_) events
  refine ⟨sound_step h.1 (c.heard e), fun ha => ?_⟩
  have before : c.view.alive = true := alive_of_step ha
  exact agrees_advance h.1 (h.2 before) before (truthful_heard c e)

/-- **The displayed status converges to that of the core**, for every run beside a core with any
table: in a view that lives and waits for nothing, once the status of the displayed actor was read
since that actor is displayed. -/
theorem displayed_status_converges (setup : Setup) (table : String → FollowStatus)
    (events : List Event) (who : String)
    (halive : (Paired.run setup table events).view.alive = true)
    (hquiet : (Paired.run setup table events).view.flights = [])
    (hwho : (Paired.run setup table events).view.display.actorId = some who)
    (hread : ReadSince (Paired.run setup table events).log who) :
    (Paired.run setup table events).view.display.relationship.status =
      (Paired.run setup table events).table who := by
  have agrees := (Paired.agrees_run setup table events).2 halive
  rcases agrees.settled hwho (.inr hread) with h | ⟨t, caller, prior, optimistic, hm⟩ |
    ⟨t, after, -, hm⟩
  · exact h
  · rw [hquiet] at hm
    cases hm
  · rw [hquiet] at hm
    cases hm

/-- A core that has an accepted follow of one actor. -/
def befriended (who : String) : String → FollowStatus :=
  fun x => if x = who then .accepted else .none

/-- An unfollow that succeeds, and the read after it. -/
def unfollowed : List Event :=
  shown "a" ++
    [accepted, .toggle 1, .answered 2 (.request (.ok ())), .answered 3 (.status (.ok .none))]

/-- Once an unfollow is over, the view shows what the core has. -/
theorem unfollowed_converges :
    (Paired.run usual (befriended "a") unfollowed).view.display.relationship.status =
      (Paired.run usual (befriended "a") unfollowed).table "a" := by
  have hcall : Entry.did (.call 3 (.status "a")) ∈
      sinceDisplayed (Paired.run usual (befriended "a") unfollowed).log :=
    List.mem_of_getElem? (i := 3) rfl
  have hland : Entry.landed 3 (.status "a" 3 (.confirms 1) (.ok .none)) ∈
      sinceDisplayed (Paired.run usual (befriended "a") unfollowed).log :=
    List.mem_of_getElem? (i := 1) rfl
  exact displayed_status_converges usual (befriended "a") unfollowed "a" rfl rfl rfl
    ⟨3, 3, .confirms 1, .ok .none, hcall, hland⟩

end FollowClient.View
