import FollowClient.Proofs.Cache.History
import Mathlib.Logic.Function.Basic

/-!
Look-ups and insertions that overlap. The users of a cache take turns at its lock. An insertion is
one turn; a look-up takes two, one to read what is under its key and, if that has expired, one to
drop the key. What it then drops is whatever is under the key by that time.

With one time to live and a clock that does not go back, a look-up drops a fresh entry exactly if
one was written under its key between its two turns and is still there (`drops_fresh_iff`); what was
there at its first turn has expired for good.
-/

namespace FollowClient.ActorCache

/-- A cache in shared use. -/
structure Shared where
  entries : ActorCache
  /-- What each look-up between its two turns has found, and under which key. -/
  found : Nat → Option (Found × String)
  /-- How many look-ups have begun; the next one has this number. -/
  looks : Nat

namespace Shared

/-- What is done in one turn at the lock. -/
inductive Act where
  | insert (url : String) (p : Profile)
  /-- A look-up begins. -/
  | look (url : String)
  /-- The look-up with this number ends. -/
  | settle (number : Nat)

/-- A turn, and its time in milliseconds. -/
structure Turn where
  now : Nat
  act : Act

/-- A cache that nobody has used. -/
def start : Shared := ⟨[], fun _ => none, 0⟩

/-- A look-up ends: the key that it found expired is dropped. -/
def settle (s : Shared) (n : Nat) : Shared :=
  { s with
    entries :=
      match s.found n with
      | some (found, k) => settleLook found k s.entries
      | none => s.entries
    found := Function.update s.found n none }

/-- One turn. -/
def step (ttl : Int) (s : Shared) (t : Turn) : Shared :=
  match t.act with
  | .insert url p => { s with entries := s.entries.insert ttl t.now url p }
  | .look url =>
    { s with
      found := Function.update s.found s.looks
        (some (ActorCache.look ttl t.now (key url) s.entries, key url))
      looks := s.looks + 1 }
  | .settle n => s.settle n

/-- All turns, one after the other. -/
def run (ttl : Int) (turns : List Turn) : Shared := turns.foldl (step ttl) start

/-- No turn is earlier than one before it. -/
def InOrder (turns : List Turn) : Prop := turns.Pairwise fun x y => x.now ≤ y.now

/-- The look-up with this number found the key expired, and has not dropped it yet. -/
def Due (s : Shared) (n : Nat) (k : String) : Prop := s.found n = some (.expired, k)

instance (s : Shared) (n : Nat) (k : String) : Decidable (s.Due n k) :=
  inferInstanceAs (Decidable (_ = _))

/-- What the turn writes under a key. -/
def Turn.wrote? (t : Turn) (k : String) : Option CachedProfile :=
  match t.act with
  | .insert url p => if k = key url ∨ k = key p.id then some ⟨p, t.now⟩ else none
  | _ => none

section Turns

variable {ttl : Int} {s : Shared} {t : Turn} {k : String} {e : CachedProfile}

/-! ### The end of a look-up -/

theorem find?_settle (s : Shared) (n : Nat) (k : String) :
    (s.settle n).entries.find? k = if s.Due n k then none else s.entries.find? k := by
  split
  · next due =>
    have found : s.found n = some (.expired, k) := due
    simp [settle, found, settleLook, find?_erase]
  · next other =>
    unfold settle settleLook
    dsimp only
    split
    · next found k' hn =>
      split
      · have ne : k ≠ k' := by
          rintro rfl
          exact other hn
        rw [find?_erase, if_neg ne]
      · rfl
    · rfl

theorem found_settle (s : Shared) (n m : Nat) :
    (s.settle n).found m = if m = n then none else s.found m :=
  Function.update_apply s.found n none m

/-! ### What every turn keeps -/

/-- No key has two entries, and only look-ups that have begun have found something. -/
structure Sound (s : Shared) : Prop where
  distinct : s.entries.Distinct
  begun : ∀ n, s.looks ≤ n → s.found n = none

theorem sound_start : start.Sound := ⟨List.Pairwise.nil, fun _ _ => rfl⟩

theorem sound_settle (h : s.Sound) (n : Nat) : (s.settle n).Sound := by
  refine ⟨?_, fun m hm => ?_⟩
  · unfold settle settleLook
    dsimp only
    split
    · split
      · exact h.distinct.filter _
      · exact h.distinct
    · exact h.distinct
  · rw [found_settle, h.begun m hm]
    split <;> rfl

theorem sound_step (h : s.Sound) (t : Turn) : (s.step ttl t).Sound := by
  obtain ⟨now, act⟩ := t
  cases act with
  | insert url p => exact ⟨h.distinct.insert ttl now url p, h.begun⟩
  | look url =>
    refine ⟨h.distinct, fun n hn => ?_⟩
    have later : s.looks + 1 ≤ n := hn
    have ne : n ≠ s.looks := by omega
    exact (Function.update_of_ne ne _ _).trans (h.begun n (by omega))
  | settle n => exact sound_settle h n

theorem sound_foldl (h : s.Sound) (turns : List Turn) : (turns.foldl (step ttl) s).Sound := by
  induction turns generalizing s with
  | nil => exact h
  | cons t turns ih => exact ih (sound_step h t)

/-! ### One key -/

/-- One turn: a fresh entry is there if it was just written, or was there before and its key was
neither written nor dropped. -/
theorem find?_step_iff (h : s.Sound) (hf : isFresh ttl t.now e = true) :
    (s.step ttl t).entries.find? k = some e ↔ t.wrote? k = some e ∨
      t.wrote? k = none ∧ s.entries.find? k = some e ∧ ∀ n, t.act = .settle n → ¬ s.Due n k := by
  obtain ⟨now, act⟩ := t
  cases act with
  | insert url p =>
    simp only [step, find?_insert h.distinct, Turn.wrote?]
    split
    · simp
    · simpa [Option.filter_eq_some_iff] using fun _ => hf
  | look url => simp [step, Turn.wrote?]
  | settle n =>
    simp only [step, find?_settle, Turn.wrote?]
    split
    · next due => simp [due]
    · next other => simp [other]

/-- While a key holds a fresh entry, no look-up finds it expired. -/
theorem due_step_iff (h : s.Sound) (he : s.entries.find? k = some e)
    (hf : isFresh ttl t.now e = true) (n : Nat) :
    (s.step ttl t).Due n k ↔ s.Due n k ∧ t.act ≠ .settle n := by
  obtain ⟨now, act⟩ := t
  cases act with
  | insert url p => simp [step, Due]
  | look url =>
    by_cases hn : n = s.looks
    · have fresh : key url = k → ActorCache.look ttl now (key url) s.entries ≠ .expired := by
        rintro rfl
        simp [ActorCache.look, he, hf]
      have unasked : s.found s.looks = none := h.begun s.looks (Nat.le_refl _)
      simp only [Due, step, hn, unasked, Function.update_self, Option.some.injEq, Prod.mk.injEq,
        reduceCtorEq, false_and, iff_false, not_and]
      exact fun hx hk => fresh hk hx
    · simp [step, Due, Function.update_of_ne hn]
  | settle m =>
    simp only [step, Due, found_settle]
    by_cases hn : n = m
    · simp [hn]
    · simp [hn, Ne.symm hn]

theorem found_step_of_wrote (hw : t.wrote? k = some e) : (s.step ttl t).found = s.found := by
  obtain ⟨now, act⟩ := t
  cases act with
  | insert url p => rfl
  | look url => cases hw
  | settle n => cases hw

/-- As long as nothing is written under a key, a fresh entry stays there exactly if no look-up ends
that was to drop the key. -/
theorem find?_foldl_iff_of_unwritten (h : s.Sound) {turns : List Turn}
    (hw : ∀ x ∈ turns, x.wrote? k = none) (hf : ∀ x ∈ turns, isFresh ttl x.now e = true) :
    (turns.foldl (step ttl) s).entries.find? k = some e ↔
      s.entries.find? k = some e ∧ ∀ x ∈ turns, ∀ n, x.act = .settle n → ¬ s.Due n k := by
  induction turns generalizing s with
  | nil => simp
  | cons t turns ih =>
    obtain ⟨wt, wr⟩ := List.forall_mem_cons.1 hw
    obtain ⟨ft, fr⟩ := List.forall_mem_cons.1 hf
    have first : (s.step ttl t).entries.find? k = some e ↔
        s.entries.find? k = some e ∧ ∀ n, t.act = .settle n → ¬ s.Due n k := by
      rw [find?_step_iff h ft, wt]
      simp
    rw [List.foldl_cons, ih (sound_step h t) wr fr, first, List.forall_mem_cons]
    -- the look-ups that are due after `t` are those that were due before and do not end with `t`
    constructor
    · rintro ⟨⟨he, kept⟩, rest⟩
      refine ⟨he, kept, fun x hx n hn due => ?_⟩
      exact rest x hx n hn ((due_step_iff h he ft n).2 ⟨due, fun ht => kept n ht due⟩)
    · rintro ⟨he, kept, rest⟩
      exact ⟨⟨he, kept⟩, fun x hx n hn due => rest x hx n hn ((due_step_iff h he ft n).1 due).1⟩

theorem exists_last_write (turns : List Turn) (k : String) :
    (∀ x ∈ turns, x.wrote? k = none) ∨ ∃ older u newer e, turns = older ++ u :: newer ∧
      u.wrote? k = some e ∧ ∀ x ∈ newer, x.wrote? k = none := by
  cases hl : turns.reverse.findSome? (·.wrote? k) with
  | none =>
    refine .inl fun x hx => ?_
    exact List.findSome?_eq_none_iff.1 hl x (List.mem_reverse.2 hx)
  | some e =>
    obtain ⟨newer, u, older, hs, hu, hn⟩ := List.findSome?_eq_some_iff.1 hl
    refine .inr ⟨older.reverse, u, newer.reverse, e, ?_, hu, ?_⟩
    · rw [← List.reverse_reverse turns, hs]
      simp
    · intro x hx
      exact hn x (List.mem_reverse.1 hx)

/-- Of the turns since the last write of a key, those that drop it are the ends of look-ups that
were to drop it when it was written. -/
theorem find?_foldl_append_iff (h : s.Sound) {older newer : List Turn} {u : Turn}
    {last : CachedProfile} (hu : u.wrote? k = some last) (hn : ∀ x ∈ newer, x.wrote? k = none)
    (hf : ∀ x ∈ older ++ u :: newer, isFresh ttl x.now e = true) :
    ((older ++ u :: newer).foldl (step ttl) s).entries.find? k = some e ↔ u.wrote? k = some e ∧
      ∀ x ∈ newer, ∀ n, x.act = .settle n → ¬ (older.foldl (step ttl) s).Due n k := by
  have sound : (older.foldl (step ttl) s).Sound := sound_foldl h older
  have fu : isFresh ttl u.now e = true := hf u (by simp)
  have fn : ∀ x ∈ newer, isFresh ttl x.now e = true := fun x hx => hf x (by simp [hx])
  rw [List.foldl_append, List.foldl_cons, find?_foldl_iff_of_unwritten (sound_step sound u) hn fn,
    find?_step_iff sound fu]
  simp [hu, Due, found_step_of_wrote hu]

/-- A fresh entry that was not there at first is there at the end exactly if the last write of its
key made it, and since then no look-up has ended that was to drop the key. -/
theorem find?_foldl_iff (h : s.Sound) (hs : s.entries.find? k ≠ some e) {turns : List Turn}
    (hf : ∀ x ∈ turns, isFresh ttl x.now e = true) :
    (turns.foldl (step ttl) s).entries.find? k = some e ↔
      ∃ older u newer, turns = older ++ u :: newer ∧ u.wrote? k = some e ∧
        ∀ x ∈ newer, x.wrote? k = none ∧
          ∀ n, x.act = .settle n → ¬ (older.foldl (step ttl) s).Due n k := by
  constructor
  · intro hend
    obtain hw | ⟨older, u, newer, last, rfl, hu, hn⟩ := exists_last_write turns k
    · exact absurd ((find?_foldl_iff_of_unwritten h hw hf).1 hend).1 hs
    · obtain ⟨hue, kept⟩ := (find?_foldl_append_iff h hu hn hf).1 hend
      exact ⟨older, u, newer, rfl, hue, fun x hx => ⟨hn x hx, kept x hx⟩⟩
  · rintro ⟨older, u, newer, rfl, hu, hn⟩
    have unwritten : ∀ x ∈ newer, x.wrote? k = none := fun x hx => (hn x hx).1
    exact (find?_foldl_append_iff h hu unwritten hf).2 ⟨hu, fun x hx => (hn x hx).2⟩

/-- A look-up that has begun keeps what it found until it ends. -/
theorem found_foldl {turns : List Turn} {n : Nat} (hn : n < s.looks)
    (waits : ∀ x ∈ turns, x.act ≠ .settle n) : (turns.foldl (step ttl) s).found n = s.found n := by
  induction turns generalizing s with
  | nil => rfl
  | cons t turns ih =>
    obtain ⟨wt, wr⟩ := List.forall_mem_cons.1 waits
    have first : (s.step ttl t).found n = s.found n ∧ n < (s.step ttl t).looks := by
      obtain ⟨now, act⟩ := t
      cases act with
      | insert url p => exact ⟨rfl, hn⟩
      | look url => exact ⟨Function.update_of_ne (Nat.ne_of_lt hn) _ _, Nat.lt_succ_of_lt hn⟩
      | settle m =>
        have ne : n ≠ m := by
          rintro rfl
          exact wt rfl
        exact ⟨(found_settle s m n).trans (if_neg ne), hn⟩
    exact (ih first.2 wr).trans first.1

end Turns

/-! ### What a look-up drops -/

/-- **When a look-up drops a fresh entry.** Its first turn finds the key expired, others have their
turns, and then it ends. After that there is nothing under the key, and what is under others is as
it was. There was a fresh entry under the key exactly if one was written between the two turns, no
later write replaced it, and no look-up ended after it that was to drop the key when it was
written. -/
theorem drops_fresh_iff (ttl : Int) (before between : List Turn) (url : String) (looked now : Nat)
    (order : InOrder (before ++ ⟨looked, .look url⟩ :: between ++
      [⟨now, .settle (run ttl before).looks⟩]))
    (expired : ActorCache.look ttl looked (key url) (run ttl before).entries = .expired)
    (waits : ∀ x ∈ between, x.act ≠ .settle (run ttl before).looks) :
    let s := run ttl (before ++ ⟨looked, .look url⟩ :: between)
    let next := s.step ttl ⟨now, .settle (run ttl before).looks⟩
    (∀ k, next.entries.find? k = if k = key url then none else s.entries.find? k) ∧
    ∀ e, isFresh ttl now e = true →
      (s.entries.find? (key url) = some e ↔
        ∃ older u newer, between = older ++ u :: newer ∧ u.wrote? (key url) = some e ∧
          ∀ x ∈ newer, x.wrote? (key url) = none ∧ ∀ n, x.act = .settle n →
            ¬ (run ttl (before ++ ⟨looked, .look url⟩ :: older)).Due n (key url)) := by
  intro s next
  have inTime : ∀ x ∈ before ++ ⟨looked, .look url⟩ :: between, x.now ≤ now := fun x hx =>
    (List.pairwise_append.1 order).2.2 x hx _ (List.mem_singleton_self _)
  have sound : ((run ttl before).step ttl ⟨looked, .look url⟩).Sound :=
    sound_step (sound_foldl sound_start before) ⟨looked, .look url⟩
  have goesOn : ∀ l, run ttl (before ++ ⟨looked, .look url⟩ :: l) =
      l.foldl (step ttl) ((run ttl before).step ttl ⟨looked, .look url⟩) := fun l =>
    List.foldl_append
  have due : s.Due (run ttl before).looks (key url) := by
    have begun : ((run ttl before).step ttl ⟨looked, .look url⟩).Due (run ttl before).looks
        (key url) := by
      simp [Due, step, expired]
    rw [Due, show s = _ from goesOn between]
    exact (found_foldl (Nat.lt_succ_self _) waits).trans begun
  refine ⟨fun k => ?_, fun e hf => ?_⟩
  · refine (find?_settle s (run ttl before).looks k).trans ?_
    by_cases hk : k = key url
    · rw [hk, if_pos due, if_pos rfl]
    · have other : ¬ s.Due (run ttl before).looks k := by
        intro h
        exact hk (congrArg Prod.snd (Option.some.inj (h.symm.trans due)))
      rw [if_neg other, if_neg hk]
  · -- what was under the key at the first turn had expired then, so it is not this entry
    have absent : (run ttl before).entries.find? (key url) ≠ some e := by
      intro he
      have fresh : isFresh ttl looked e = true :=
        isFresh_of_le (inTime ⟨looked, .look url⟩ (by simp)) hf
      simp [ActorCache.look, he, fresh] at expired
    have later : ∀ x ∈ between, isFresh ttl x.now e = true := fun x hx =>
      isFresh_of_le (inTime x (by simp [hx])) hf
    simpa only [← goesOn] using find?_foldl_iff sound absent later

/-- An actor has expired when she is looked up, and is fetched again before the look-up ends. -/
def overtaken : List Turn :=
  [⟨0, .insert "https://a.test/@alice" (alice "Alice")⟩, ⟨60, .look "https://a.test/@alice/"⟩,
    ⟨70, .insert "https://a.test/@alice" (alice "Alice B.")⟩]

theorem overtaken_drops_fresh :
    InOrder (overtaken ++ [⟨80, .settle 0⟩]) ∧
    (run 50 overtaken).entries.find? (key "https://a.test/@alice/") =
      some ⟨alice "Alice B.", 70⟩ ∧
    ((run 50 overtaken).step 50 ⟨80, .settle 0⟩).entries.find? (key "https://a.test/@alice/") =
      none ∧
    ((run 50 overtaken).step 50 ⟨80, .settle 0⟩).entries.find? (key (alice "Alice").id) =
      some ⟨alice "Alice B.", 70⟩ := by
  have order : InOrder (overtaken ++ [⟨80, .settle 0⟩]) := by simp [InOrder, overtaken]
  obtain ⟨dropped, fresh⟩ := drops_fresh_iff 50
    [⟨0, .insert "https://a.test/@alice" (alice "Alice")⟩]
    [⟨70, .insert "https://a.test/@alice" (alice "Alice B.")⟩] "https://a.test/@alice/" 60 80
    order (by decide +kernel) (by simp)
  refine ⟨order, ?_, ?_, ?_⟩
  · exact (fresh ⟨alice "Alice B.", 70⟩ rfl).2 ⟨[], _, [], rfl, by decide +kernel, by simp⟩
  · exact (dropped (key "https://a.test/@alice/")).trans (if_pos rfl)
  · refine (dropped (key (alice "Alice").id)).trans ((if_neg (by decide +kernel)).trans ?_)
    decide +kernel

/-- **A fresh entry that a look-up drops.** The turns are in order of time, there is one time to
live, and the entry that is under the key when the look-up ends is ten milliseconds old. A look-up
that begins after that finds nothing. -/
theorem fresh_entry_dropped :
    InOrder (overtaken ++ [⟨80, .settle 0⟩]) ∧
    (run 50 overtaken).Due 0 (key "https://a.test/@alice") ∧
    (run 50 overtaken).entries.find? (key "https://a.test/@alice") =
      some ⟨alice "Alice B.", 70⟩ ∧
    isFresh 50 80 ⟨alice "Alice B.", 70⟩ = true ∧
    ((run 50 overtaken).step 50 ⟨80, .settle 0⟩).entries.find? (key "https://a.test/@alice") =
      none ∧
    (((run 50 overtaken).step 50 ⟨80, .settle 0⟩).entries.get 50 90 "https://a.test/@alice").1 =
      none := by
  refine ⟨by simp [InOrder, overtaken], ?_, ?_, rfl, ?_, ?_⟩
  · decide +kernel
  · decide +kernel
  · decide +kernel
  · decide +kernel

end Shared

end FollowClient.ActorCache
