import FollowClient.Actor.Cache

/-!
The cache of actors as a search in what was done to it. A history lists the uses of a cache, the
latest first; each goes through some handle and has the time to live of that handle. `replay` carries
a history out.

An entry is under a key exactly if the last write of the key made it and no later use dropped it
(`find?_replay`): an insertion drops whatever its handle finds expired, a look-up only what it looks
for. With one time to live nothing that was dropped could be found again, so that a look-up answers
as if nothing were ever dropped (`find?_replay_iff_latest`).
-/

namespace FollowClient.ActorCache

/-! ### Keys are distinct -/

/-- No key has two entries. -/
def Distinct (cache : ActorCache) : Prop := cache.Pairwise fun a b => a.1 ≠ b.1

theorem Distinct.filter {cache : ActorCache} (h : cache.Distinct) (f : String × CachedProfile → Bool) :
    Distinct (List.filter f cache) := List.Pairwise.filter f h

theorem Distinct.put {cache : ActorCache} (h : cache.Distinct) (k : String) (e : CachedProfile) :
    (cache.put k e).Distinct := by
  refine List.pairwise_cons.2 ⟨fun x hx => ?_, h.filter _⟩
  have hk : x.1 ≠ k := by simpa using (List.mem_filter.1 hx).2
  exact hk.symm

theorem Distinct.insert {cache : ActorCache} (h : cache.Distinct) (ttl : Int) (now : Nat)
    (url : String) (p : Profile) : (cache.insert ttl now url p).Distinct :=
  ((h.filter _).put _ _).put _ _

theorem Distinct.get {cache : ActorCache} (h : cache.Distinct) (ttl : Int) (now : Nat)
    (url : String) : (cache.get ttl now url).2.Distinct := by
  unfold ActorCache.get settleLook
  dsimp only
  split
  · exact h.filter _
  · exact h

/-! ### Freshness -/

theorem isFresh_of_le {ttl : Int} {now later : Nat} {e : CachedProfile} (h : now ≤ later)
    (hf : isFresh ttl later e = true) : isFresh ttl now e = true := by
  simp only [isFresh, decide_eq_true_eq] at hf ⊢
  omega

theorem isFresh_of_cachedAt_le {ttl : Int} {now : Nat} {e e' : CachedProfile}
    (h : e.cachedAt ≤ e'.cachedAt) (hf : isFresh ttl now e = true) : isFresh ttl now e' = true := by
  simp only [isFresh, decide_eq_true_eq] at hf ⊢
  omega

/-! ### Single keys -/

theorem find?_eq_none {cache : ActorCache} {k : String} (h : ∀ x ∈ cache, k ≠ x.1) :
    cache.find? k = none := by
  induction cache with
  | nil => rfl
  | cons x rest ih =>
    rw [find?_cons, if_neg (h x List.mem_cons_self)]
    exact ih fun y hy => h y (List.mem_cons_of_mem x hy)

theorem find?_sweep {cache : ActorCache} (h : cache.Distinct) (ttl : Int) (now : Nat) (k : String) :
    (cache.sweep ttl now).find? k = (cache.find? k).filter (isFresh ttl now) := by
  induction cache with
  | nil => rfl
  | cons x rest ih =>
    obtain ⟨k₀, e⟩ := x
    obtain ⟨hk, hrest⟩ := List.pairwise_cons.1 h
    cases hf : isFresh ttl now e with
    | true =>
      rw [show sweep ttl now ((k₀, e) :: rest) = (k₀, e) :: sweep ttl now rest by simp [sweep, hf],
        find?_cons, find?_cons, ih hrest]
      split
      · rw [Option.filter_some_pos hf]
      · rfl
    | false =>
      rw [show sweep ttl now ((k₀, e) :: rest) = sweep ttl now rest by simp [sweep, hf],
        ih hrest, find?_cons]
      split
      · next hkk =>
        subst hkk
        rw [find?_eq_none hk, Option.filter_some_neg (by simp [hf]), Option.filter_none]
      · rfl

theorem find?_insert {cache : ActorCache} (h : cache.Distinct) (ttl : Int) (now : Nat) (url : String)
    (p : Profile) (k : String) :
    (cache.insert ttl now url p).find? k =
      if k = key url ∨ k = key p.id then some ⟨p, now⟩
      else (cache.find? k).filter (isFresh ttl now) := by
  rw [insert, find?_put, find?_put, find?_sweep h]
  by_cases h₁ : k = key p.id <;> by_cases h₂ : k = key url <;> simp [h₁, h₂]

theorem find?_get (cache : ActorCache) (ttl : Int) (now : Nat) (url k : String) :
    (cache.get ttl now url).2.find? k =
      if key url = k then (cache.find? k).filter (isFresh ttl now) else cache.find? k := by
  unfold get settleLook look
  cases hc : cache.find? (key url) with
  | none =>
    dsimp only
    split
    · next hk => rw [← hk, hc]; rfl
    · rfl
  | some e =>
    cases hf : isFresh ttl now e with
    | true =>
      simp only [hf, if_true]
      split
      · next hk => rw [← hk, hc, Option.filter_some_pos hf]
      · rfl
    | false =>
      simp only [hf, Bool.false_eq_true, if_false, find?_erase]
      by_cases hk : key url = k
      · rw [if_pos hk.symm, if_pos hk, ← hk, hc, Option.filter_some_neg (by simp [hf])]
      · rw [if_neg (Ne.symm hk), if_neg hk]

theorem get_eq_some_iff {cache : ActorCache} {ttl : Int} {now : Nat} {url : String} {p : Profile} :
    (cache.get ttl now url).1 = some p ↔
      ∃ e, cache.find? (key url) = some e ∧ isFresh ttl now e = true ∧ e.profile = p := by
  unfold get look Found.profile?
  cases cache.find? (key url) with
  | none => simp
  | some e => cases hf : isFresh ttl now e <;> simp [hf]

/-! ### Histories -/

/-- What is done through a handle. -/
inductive Action where
  | insert (url : String) (p : Profile)
  | get (url : String)
  /-- Another handle of the same entries is made, with its own time to live. -/
  | withTtl (ttl : Int)

/-- A use of a cache. -/
structure Use where
  /-- The time to live of the handle. -/
  ttl : Int
  now : Nat
  action : Action

/-- The cache after a use. -/
def after (cache : ActorCache) (u : Use) : ActorCache :=
  match u.action with
  | .insert url p => cache.insert u.ttl u.now url p
  | .get url => (cache.get u.ttl u.now url).2
  | .withTtl _ => cache

/-- The entries after a history, the latest use first. -/
def replay : List Use → ActorCache
  | [] => []
  | u :: older => (replay older).after u

namespace Use

/-- What the use writes under a key. -/
def wrote? (u : Use) (k : String) : Option CachedProfile :=
  match u.action with
  | .insert url p => if k = key url ∨ k = key p.id then some ⟨p, u.now⟩ else none
  | _ => none

/-- The use drops an entry under a key: it is an insertion of any key or a look-up of this one, and
the entry is expired for its handle. -/
def drops (u : Use) (k : String) (e : CachedProfile) : Bool :=
  match u.action with
  | .insert _ _ => !isFresh u.ttl u.now e
  | .get url => key url = k && !isFresh u.ttl u.now e
  | .withTtl _ => false

theorem wrote?_cachedAt {u : Use} {k : String} {e : CachedProfile} (h : u.wrote? k = some e) :
    e.cachedAt = u.now := by
  unfold wrote? at h
  split at h
  · split at h
    · rw [← Option.some.inj h]
    · exact absurd h (by simp)
  · exact absurd h (by simp)

theorem wrote?_id {u : Use} {k : String} {e : CachedProfile} (h : u.wrote? k = some e) :
    u.wrote? (key e.profile.id) = some e := by
  obtain ⟨ttl, now, action⟩ := u
  cases action with
  | insert url p =>
    simp only [wrote?, Option.ite_none_right_eq_some, Option.some.injEq] at h ⊢
    obtain ⟨-, rfl⟩ := h
    exact ⟨.inr rfl, rfl⟩
  | get => simp [wrote?] at h
  | withTtl => simp [wrote?] at h

/-- What is fresh at a later time was not dropped through a handle of the same time to live. -/
theorem drops_eq_false {u : Use} {ttl : Int} {now : Nat} {e : CachedProfile} (k : String)
    (hu : u.ttl = ttl ∧ u.now ≤ now) (hf : isFresh ttl now e = true) : u.drops k e = false := by
  have fresh : isFresh u.ttl u.now e = true := by
    rw [hu.1]
    exact isFresh_of_le hu.2 hf
  unfold drops
  split <;> simp [fresh]

end Use

/-- The last entry that was written under a key. -/
def latest (uses : List Use) (k : String) : Option CachedProfile := uses.findSome? (·.wrote? k)

/-- In order of time, the last write of a key is no earlier than any other. -/
theorem latest_of_wrote {uses : List Use} (h : uses.Pairwise fun x y => y.now ≤ x.now) {u : Use}
    (hu : u ∈ uses) {k : String} {e : CachedProfile} (hw : u.wrote? k = some e) :
    ∃ e', latest uses k = some e' ∧ e.cachedAt ≤ e'.cachedAt := by
  induction uses with
  | nil => simp at hu
  | cons x rest ih =>
    obtain ⟨hx, hrest⟩ := List.pairwise_cons.1 h
    cases hxw : x.wrote? k with
    | some e' =>
      refine ⟨e', by rw [latest, List.findSome?_cons, hxw], ?_⟩
      rw [Use.wrote?_cachedAt hw, Use.wrote?_cachedAt hxw]
      rcases List.mem_cons.1 hu with rfl | hu
      · exact Nat.le_refl _
      · exact hx u hu
    | none =>
      rcases List.mem_cons.1 hu with rfl | hu
      · simp [hxw] at hw
      · obtain ⟨e', hl, he⟩ := ih hrest hu
        exact ⟨e', by rw [latest, List.findSome?_cons, hxw]; exact hl, he⟩

theorem replay_distinct (uses : List Use) : (replay uses).Distinct := by
  induction uses with
  | nil => exact List.Pairwise.nil
  | cons u older ih =>
    unfold replay after
    split
    · exact ih.insert ..
    · exact ih.get ..
    · exact ih

/-- One use: what it writes is there, and of the rest what it does not drop. -/
theorem find?_after {cache : ActorCache} (h : cache.Distinct) (u : Use) (k : String) :
    (cache.after u).find? k = (u.wrote? k).or ((cache.find? k).filter fun e => !u.drops k e) := by
  unfold after Use.wrote? Use.drops
  cases u.action with
  | insert url p =>
    simp only [find?_insert h, Bool.not_not]
    split <;> simp
  | get url =>
    rw [find?_get, Option.none_or]
    by_cases hk : key url = k
    · simp [hk]
    · cases cache.find? k <;> simp [hk, Option.filter_some]
  | withTtl ttl => cases cache.find? k <;> simp [Option.filter_some]

/-- A history: an entry is under a key exactly if the last write of the key made it and no use after
that dropped it. -/
theorem find?_replay {uses : List Use} {k : String} {e : CachedProfile} :
    (replay uses).find? k = some e ↔
      ∃ newer u older, uses = newer ++ u :: older ∧ u.wrote? k = some e ∧
        ∀ x ∈ newer, x.wrote? k = none ∧ x.drops k e = false := by
  induction uses with
  | nil => simp [replay, find?]
  | cons v rest ih =>
    rw [replay, find?_after (replay_distinct rest)]
    constructor
    · intro h
      rcases Option.or_eq_some_iff.1 h with hv | ⟨hv, h⟩
      · exact ⟨[], v, rest, rfl, hv, by simp⟩
      · obtain ⟨hr, hd⟩ := Option.filter_eq_some_iff.1 h
        obtain ⟨newer, u, older, rfl, hu, hn⟩ := ih.1 hr
        exact ⟨v :: newer, u, older, rfl, hu, List.forall_mem_cons.2 ⟨⟨hv, by simpa using hd⟩, hn⟩⟩
    · rintro ⟨newer, u, older, hs, hu, hn⟩
      cases newer with
      | nil =>
        obtain ⟨rfl, rfl⟩ := List.cons.inj hs
        rw [hu, Option.some_or]
      | cons w newer =>
        obtain ⟨rfl, rfl⟩ := List.cons.inj hs
        obtain ⟨⟨hv, hd⟩, hn⟩ := List.forall_mem_cons.1 hn
        rw [hv, Option.none_or, ih.2 ⟨newer, u, older, rfl, hu, hn⟩]
        simp [hd]

/-- With one time to live, what is fresh is found exactly if it was written last. -/
theorem find?_replay_iff_latest {uses : List Use} {ttl : Int} {now : Nat} {k : String}
    {e : CachedProfile} (one : ∀ x ∈ uses, x.ttl = ttl ∧ x.now ≤ now)
    (hf : isFresh ttl now e = true) :
    (replay uses).find? k = some e ↔ latest uses k = some e := by
  rw [find?_replay, latest, List.findSome?_eq_some_iff]
  constructor
  · rintro ⟨newer, u, older, rfl, hu, hn⟩
    exact ⟨newer, u, older, rfl, hu, fun x hx => (hn x hx).1⟩
  · rintro ⟨newer, u, older, rfl, hu, hn⟩
    refine ⟨newer, u, older, rfl, hu, fun x hx => ⟨hn x hx, ?_⟩⟩
    exact Use.drops_eq_false k (one x (List.mem_append_left _ hx)) hf

/-! ### A look-up searches the history -/

/-- **A look-up searches the history.** After any uses of a cache, through handles of any times to
live, a URL is answered with `p` exactly if the last write of its key wrote `p`, the entry is fresh
now, and no use in between dropped it. If all handles have one time to live and no use was later than
the look-up, it is answered with the last entry that was written, if that is fresh. -/
theorem get_searches_history (uses : List Use) (ttl : Int) (now : Nat) (url : String) :
    (∀ p, ((replay uses).get ttl now url).1 = some p ↔
      ∃ newer u older, uses = newer ++ u :: older ∧
        u.wrote? (key url) = some ⟨p, u.now⟩ ∧ (∀ x ∈ newer, x.wrote? (key url) = none) ∧
        isFresh ttl now ⟨p, u.now⟩ = true ∧
        ∀ x ∈ newer, x.drops (key url) ⟨p, u.now⟩ = false) ∧
    ((∀ x ∈ uses, x.ttl = ttl ∧ x.now ≤ now) →
      ((replay uses).get ttl now url).1 =
        ((latest uses (key url)).filter (isFresh ttl now)).map (·.profile)) := by
  refine ⟨fun p => ?_, fun one => ?_⟩
  · rw [get_eq_some_iff]
    constructor
    · rintro ⟨e, hfind, hf, rfl⟩
      obtain ⟨newer, u, older, rfl, hu, hn⟩ := find?_replay.1 hfind
      have he : e = ⟨e.profile, u.now⟩ := by rw [← Use.wrote?_cachedAt hu]
      rw [he] at hu hf hn
      exact ⟨newer, u, older, rfl, hu, fun x hx => (hn x hx).1, hf, fun x hx => (hn x hx).2⟩
    · rintro ⟨newer, u, older, rfl, hu, hw, hf, hd⟩
      exact ⟨_, find?_replay.2 ⟨newer, u, older, rfl, hu, fun x hx => ⟨hw x hx, hd x hx⟩⟩, hf, rfl⟩
  · ext p
    rw [get_eq_some_iff, Option.map_eq_some_iff]
    constructor
    · rintro ⟨e, hfind, hf, hp⟩
      exact ⟨e, Option.filter_eq_some_iff.2 ⟨(find?_replay_iff_latest one hf).1 hfind, hf⟩, hp⟩
    · rintro ⟨e, he, hp⟩
      obtain ⟨hl, hf⟩ := Option.filter_eq_some_iff.1 he
      exact ⟨e, (find?_replay_iff_latest one hf).2 hl, hf, hp⟩

/-- An actor, by the name she goes by. -/
def alice (name : String) : Profile :=
  ⟨"https://a.test/users/alice", name, "", "", "", "", "", "", "", "", [], false, none⟩

/-- An actor is kept under two keys. A look-up drops the one when both have expired; an insertion
under the other sweeps, and keeps her new name. -/
def renamed : List Use :=
  [⟨50, 70, .insert "https://a.test/users/alice//" (alice "Alice B.")⟩,
    ⟨50, 60, .get "https://a.test/@alice"⟩,
    ⟨50, 0, .insert "https://a.test/@alice/" (alice "Alice")⟩]

theorem renamed_found :
    (∀ x ∈ renamed, x.ttl = 50 ∧ x.now ≤ 119) ∧
      ((replay renamed).get 50 119 " https://a.test/users/alice/").1 = some (alice "Alice B.") := by
  have one : ∀ x ∈ renamed, x.ttl = 50 ∧ x.now ≤ 119 := by decide
  refine ⟨one, ?_⟩
  rw [(get_searches_history renamed 50 119 " https://a.test/users/alice/").2 one]
  decide +kernel

end FollowClient.ActorCache
