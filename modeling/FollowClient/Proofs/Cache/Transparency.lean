import FollowClient.Actor.Repository
import FollowClient.Proofs.Cache.History

/-!
The cache does not show. Calls for actors are made one after the other, with a network that answers
each request on its own and agrees with itself on aliases (`ConsistentOn`): then every call returns
what a repository without a cache returns.

Each call makes a few uses of the cache (`Made`), so that the cache of a session is always the replay
of its uses, and every write in them stems from an answer of the network (`Traced`). With calls in
order of time the last write of a key is the freshest one, and what a call has put into the cache
answers the next call for an alias for as long as it is fresh.
-/

namespace FollowClient

open Net

/-! ### Exchanges that do not look back -/

namespace Net.Exchange

/-- With a network that answers each request on its own, the result does not depend on what has been
sent before. -/
def Steady {α : Type} (x : Exchange α) : Prop :=
  ∀ (reply : Request → Reply) (sent sent' : List Request),
    (x (.constant reply) sent).1 = (x (.constant reply) sent').1

theorem steady_pure {α : Type} (a : α) : Steady (pure a : Exchange α) := fun _ _ _ => rfl

theorem steady_ofExcept {α : Type} (r : Except Failure α) : Steady (ofExcept r) := fun _ _ _ => rfl

theorem Steady.bind {α β : Type} {x : Exchange α} {f : α → Exchange β} (hx : x.Steady)
    (hf : ∀ a, (f a).Steady) : (x >>= f).Steady := by
  intro reply sent sent'
  rw [bind_apply, bind_apply]
  have same := hx reply sent sent'
  cases h : x (.constant reply) sent with
  | mk r sent₁ =>
    cases h' : x (.constant reply) sent' with
    | mk r' sent₂ =>
      obtain rfl : r = r' := by simpa [h, h'] using same
      cases r with
      | ok a => exact hf a reply sent₁ sent₂
      | error f => rfl

theorem steady_send (timeout : Nat) (m : Message) : Steady (send timeout m) := by
  intro reply sent sent'
  unfold send Network.constant
  cases m.request with
  | error reason => rfl
  | ok r =>
    obtain ⟨r, shown⟩ := r
    dsimp only
    cases reply r with
    | response delay status body =>
      dsimp only
      split <;> rfl
    | _ => rfl

end Net.Exchange

namespace Repository

open Text ActorCache

theorem steady_fetchActor (repo : Repository) (url : String) : (repo.fetchActor url).Steady := by
  refine Exchange.Steady.bind ?_ fun doc => ?_
  · exact (Exchange.steady_send _ _).bind fun r => Exchange.steady_ofExcept _
  · cases doc with
    | none => exact Exchange.steady_pure _
    | some doc => exact Exchange.steady_ofExcept _

/-! ### Sessions -/

/-- A call for an actor: when it looks into the cache, and when the network has answered it. -/
structure Call where
  asked : Nat
  answered : Nat
  url : String

/-- What calls leave behind. -/
structure Session where
  cache : ActorCache
  sent : List Request

/-- Nothing has been asked. -/
def Session.start : Session := ⟨[], []⟩

section Sessions

variable (repo : Repository) (reply : Request → Reply)

/-- One call: its result, and the session after it. -/
def call (s : Session) (c : Call) : Except Failure (Option Profile) × Session :=
  match repo.getActorBetween c.asked c.answered c.url s.cache (.constant reply) s.sent with
  | (.ok (result, cache), sent) => (result, ⟨cache, sent⟩)
  | (.error f, sent) => (.error f, { s with sent })

/-- The session after calls, one after the other. -/
def run (calls : List Call) : Session := calls.foldl (fun s c => (repo.call reply s c).2) .start

/-- The results of calls, one after the other. -/
def answers (s : Session) : List Call → List (Except Failure (Option Profile))
  | [] => []
  | c :: calls => (repo.call reply s c).1 :: answers (repo.call reply s c).2 calls

/-- The look of a call into the cache. -/
def look (c : Call) : Use := ⟨repo.ttl, c.asked, .get c.url⟩

/-- How a call keeps what it was answered. -/
def keep (c : Call) (p : Profile) : Use := ⟨repo.ttl, c.answered, .insert c.url p⟩

/-- What one call can do: the uses that it makes of the cache, the latest first, its result, and the
session after it. -/
inductive Made (s : Session) (c : Call) :
    List Use → Except Failure (Option Profile) → Session → Prop where
  | blank (h : isBlankText c.url = true) : Made s c [] (.error .blankActor) s
  | cached (h : isBlankText c.url = false) {e : CachedProfile}
      (found : s.cache.find? (key c.url) = some e) (fresh : isFresh repo.ttl c.asked e = true) :
      Made s c [repo.look c] (.ok (some e.profile)) ⟨s.cache.after (repo.look c), s.sent⟩
  | fetched (h : isBlankText c.url = false) {p : Profile} {sent : List Request}
      (missed : (s.cache.get repo.ttl c.asked c.url).1 = none)
      (came : repo.fetchActor (trim c.url) (.constant reply) s.sent = (.ok (some p), sent)) :
      Made s c [repo.keep c p, repo.look c] (.ok (some p))
        ⟨(s.cache.after (repo.look c)).after (repo.keep c p), sent⟩
  | refused (h : isBlankText c.url = false) {r : Except Failure (Option Profile)}
      {sent : List Request} (missed : (s.cache.get repo.ttl c.asked c.url).1 = none)
      (came : repo.fetchActor (trim c.url) (.constant reply) s.sent = (r, sent))
      (nobody : ∀ p, r ≠ .ok (some p)) :
      Made s c [repo.look c] r ⟨s.cache.after (repo.look c), sent⟩

variable {repo reply}

/-- Every call is one of the four. -/
theorem made_call (s : Session) (c : Call) :
    ∃ uses, Made repo reply s c uses (repo.call reply s c).1 (repo.call reply s c).2 := by
  cases hb : isBlankText c.url with
  | true =>
    have h : repo.call reply s c = (.error .blankActor, s) := by simp [call, getActorBetween, hb]
    rw [h]
    exact ⟨_, .blank hb⟩
  | false =>
    cases hg : s.cache.get repo.ttl c.asked c.url with
    | mk found cache =>
      cases found with
      | some p =>
        obtain ⟨e, found, fresh, rfl⟩ := get_eq_some_iff.1 (congrArg Prod.fst hg)
        have h : repo.call reply s c = (.ok (some e.profile), ⟨cache, s.sent⟩) := by
          simp [call, getActorBetween, hb, get_trim, hg]
        rw [h, show cache = s.cache.after (repo.look c) from (congrArg Prod.snd hg).symm]
        exact ⟨_, .cached hb found fresh⟩
      | none =>
        have missed : (s.cache.get repo.ttl c.asked c.url).1 = none := congrArg Prod.fst hg
        have looked : cache = s.cache.after (repo.look c) := (congrArg Prod.snd hg).symm
        cases hf : repo.fetchActor (trim c.url) (.constant reply) s.sent with
        | mk r sent =>
          cases r with
          | error f =>
            have h : repo.call reply s c = (.error f, ⟨cache, sent⟩) := by
              simp [call, getActorBetween, hb, get_trim, hg, Exchange.bind_apply, hf]
            rw [h, looked]
            exact ⟨_, .refused hb missed hf (by simp)⟩
          | ok answer =>
            cases answer with
            | none =>
              have h : repo.call reply s c = (.ok none, ⟨cache, sent⟩) := by
                simp [call, getActorBetween, hb, get_trim, hg, Exchange.bind_apply, hf]
              rw [h, looked]
              exact ⟨_, .refused hb missed hf (by simp)⟩
            | some p =>
              have h : repo.call reply s c =
                  (.ok (some p), ⟨cache.insert repo.ttl c.answered c.url p, sent⟩) := by
                simp [call, getActorBetween, hb, get_trim, hg, Exchange.bind_apply, hf, insert_trim]
              rw [h, looked]
              exact ⟨_, .fetched hb missed hf⟩

theorem run_append (before after : List Call) :
    repo.run reply (before ++ after) =
      after.foldl (fun s c => (repo.call reply s c).2) (repo.run reply before) :=
  List.foldl_append

end Sessions

/-! ### A network that agrees with itself -/

section Consistent

variable (repo : Repository) (reply : Request → Reply)

/-- The actor that a GET of a URL yields, if it yields one. -/
def yielded (url : String) : Option Profile :=
  (repo.fetchActor url (.constant reply) []).1.toOption.join

/-- Where a GET of one of the URLs yields an actor, a GET of every other one that is not blank and has
the same key or the key of the actor's id yields the same. This is asked of some URLs only: among all
that have the key there are some too long to be sent, which yield nobody. -/
def ConsistentOn (urls : List String) : Prop :=
  ∀ v ∈ urls, ∀ p ∈ repo.yielded reply v, ∀ w ∈ urls, isBlankText w = false →
    key w = key v ∨ key w = key p.id → repo.yielded reply w = some p

instance (urls : List String) : Decidable (repo.ConsistentOn reply urls) :=
  inferInstanceAs (Decidable (∀ v ∈ urls, ∀ p ∈ repo.yielded reply v, ∀ w ∈ urls,
    isBlankText w = false → key w = key v ∨ key w = key p.id → repo.yielded reply w = some p))

/-- The URLs that calls may send a GET of. -/
def urlsOf (calls : List Call) : List String := calls.map fun c => trim c.url

variable {repo reply}

theorem yielded_eq_some_iff {url : String} {p : Profile} (sent : List Request) :
    repo.yielded reply url = some p ↔
      (repo.fetchActor url (.constant reply) sent).1 = .ok (some p) := by
  rw [yielded, repo.steady_fetchActor url reply [] sent]
  cases (repo.fetchActor url (.constant reply) sent).1 with
  | ok answer => cases answer <;> simp [Except.toOption]
  | error f => simp [Except.toOption]

theorem uncachedActor_of_yielded {c : Call} {p : Profile} (h : isBlankText c.url = false)
    (hp : repo.yielded reply (trim c.url) = some p) (sent : List Request) :
    (repo.uncachedActor c.url (.constant reply) sent).1 = .ok (some p) := by
  rw [uncachedActor_of_not_blank h]
  exact (yielded_eq_some_iff sent).1 hp

end Consistent

/-! ### The uses of a session -/

/-- The cache is the replay of uses with the repository's time to live, and an actor was written only
under keys of a URL that yields it. -/
structure Traced (repo : Repository) (reply : Request → Reply) (urls : List String)
    (uses : List Use) (cache : ActorCache) : Prop where
  replayed : cache = replay uses
  one : ∀ x ∈ uses, x.ttl = repo.ttl
  stems : ∀ x ∈ uses, ∀ k e, x.wrote? k = some e →
    ∃ v ∈ urls, repo.yielded reply v = some e.profile ∧ (k = key v ∨ k = key e.profile.id)

/-- The uses are in order of time, and over at `now`. -/
structure InOrder (now : Nat) (uses : List Use) : Prop where
  past : ∀ x ∈ uses, x.now ≤ now
  sorted : uses.Pairwise fun x y => y.now ≤ x.now

/-- From `now` on, the calls come one after the other, and they are over at `later`. -/
def Ordered (now : Nat) : List Call → Nat → Prop
  | [], later => now ≤ later
  | c :: calls, later => now ≤ c.asked ∧ c.asked ≤ c.answered ∧ Ordered c.answered calls later

instance Ordered.decide : (now : Nat) → (calls : List Call) → (later : Nat) →
    Decidable (Ordered now calls later)
  | now, [], later => inferInstanceAs (Decidable (now ≤ later))
  | now, c :: calls, later =>
    have := Ordered.decide c.answered calls later
    inferInstanceAs (Decidable (now ≤ c.asked ∧ c.asked ≤ c.answered ∧ _))

section Traces

variable {repo : Repository} {reply : Request → Reply} {urls : List String}
variable {s s' : Session} {c : Call} {uses made : List Use} {r : Except Failure (Option Profile)}

theorem Traced.cons {cache : ActorCache} (h : Traced repo reply urls uses cache) {u : Use}
    (hu : u.ttl = repo.ttl)
    (hw : ∀ k e, u.wrote? k = some e →
      ∃ v ∈ urls, repo.yielded reply v = some e.profile ∧ (k = key v ∨ k = key e.profile.id)) :
    Traced repo reply urls (u :: uses) (cache.after u) where
  replayed := by rw [h.replayed, replay]
  one := List.forall_mem_cons.2 ⟨hu, h.one⟩
  stems := List.forall_mem_cons.2 ⟨hw, h.stems⟩

theorem Traced.look {cache : ActorCache} (h : Traced repo reply urls uses cache) (c : Call) :
    Traced repo reply urls (repo.look c :: uses) (cache.after (repo.look c)) :=
  h.cons rfl fun k e hw => absurd hw (by simp [Repository.look, Use.wrote?])

theorem Traced.call (h : Traced repo reply urls uses s.cache) (hc : trim c.url ∈ urls)
    (hm : Made repo reply s c made r s') :
    Traced repo reply urls (made ++ uses) s'.cache := by
  cases hm with
  | blank => exact h
  | cached => exact h.look c
  | refused => exact h.look c
  | @fetched hb p sent missed came =>
    refine (h.look c).cons rfl fun k e hw => ?_
    have hp : repo.yielded reply (trim c.url) = some p :=
      (yielded_eq_some_iff s.sent).2 (congrArg Prod.fst came)
    simp only [keep, Use.wrote?, Option.ite_none_right_eq_some, Option.some.injEq] at hw
    obtain ⟨hk, rfl⟩ := hw
    refine ⟨trim c.url, hc, hp, ?_⟩
    rw [key_trim]
    exact hk

theorem InOrder.cons {now later : Nat} (h : InOrder now uses) (hl : now ≤ later) {u : Use}
    (hu : u.now = later) : InOrder later (u :: uses) where
  past := by
    refine List.forall_mem_cons.2 ⟨Nat.le_of_eq hu, fun x hx => ?_⟩
    exact Nat.le_trans (h.past x hx) hl
  sorted := by
    refine List.pairwise_cons.2 ⟨fun x hx => ?_, h.sorted⟩
    rw [hu]
    exact Nat.le_trans (h.past x hx) hl

theorem InOrder.mono {now later : Nat} (h : InOrder now uses) (hl : now ≤ later) :
    InOrder later uses := ⟨fun x hx => Nat.le_trans (h.past x hx) hl, h.sorted⟩

theorem InOrder.call {now : Nat} (h : InOrder now uses) (h₁ : now ≤ c.asked)
    (h₂ : c.asked ≤ c.answered) (hm : Made repo reply s c made r s') :
    InOrder c.answered (made ++ uses) := by
  have looked : InOrder c.asked (repo.look c :: uses) := h.cons h₁ rfl
  cases hm with
  | blank => exact h.mono (Nat.le_trans h₁ h₂)
  | cached => exact looked.mono h₂
  | refused => exact looked.mono h₂
  | fetched => exact looked.cons h₂ rfl

/-- What calls do to the trace of a session. -/
theorem Traced.calls (h : Traced repo reply urls uses s.cache) (calls : List Call)
    (hc : ∀ c ∈ calls, trim c.url ∈ urls) :
    ∃ made, Traced repo reply urls (made ++ uses)
        (calls.foldl (fun s c => (repo.call reply s c).2) s).cache ∧
      ∀ now later, InOrder now uses → Ordered now calls later → InOrder later (made ++ uses) := by
  induction calls generalizing s uses with
  | nil => exact ⟨[], h, fun now later hi ho => hi.mono ho⟩
  | cons c calls ih =>
    obtain ⟨hc, hcs⟩ := List.forall_mem_cons.1 hc
    obtain ⟨made, hm⟩ := @made_call repo reply s c
    obtain ⟨more, ht, hi⟩ := ih (h.call hc hm) hcs
    refine ⟨more ++ made, by simpa using ht, fun now later h₀ ⟨h₁, h₂, ho⟩ => ?_⟩
    rw [List.append_assoc]
    exact hi _ _ (h₀.call h₁ h₂ hm) ho

theorem traced_run (calls : List Call) (hc : ∀ c ∈ calls, trim c.url ∈ urls) :
    ∃ made, Traced repo reply urls made (repo.run reply calls).cache ∧
      ∀ later, Ordered 0 calls later → InOrder later made := by
  have start : Traced repo reply urls [] [] := ⟨rfl, by simp, by simp⟩
  obtain ⟨made, ht, hi⟩ := start.calls (s := .start) calls hc
  rw [List.append_nil] at ht hi
  exact ⟨made, ht, fun later ho => hi 0 later ⟨by simp, .nil⟩ ho⟩

/-! ### What a session answers -/

theorem Traced.yielded_of_wrote {cache : ActorCache} (h : Traced repo reply urls uses cache)
    (hn : repo.ConsistentOn reply urls) (hc : trim c.url ∈ urls) (hb : isBlankText c.url = false)
    {u : Use} (hu : u ∈ uses) {e : CachedProfile} (hw : u.wrote? (key c.url) = some e) :
    repo.yielded reply (trim c.url) = some e.profile := by
  obtain ⟨v, hv, hy, hk⟩ := h.stems u hu _ _ hw
  refine hn v hv _ hy _ hc ((isBlankText_trim _).trans hb) ?_
  rw [key_trim]
  exact hk

theorem Traced.wrote_of_found {cache : ActorCache} (h : Traced repo reply urls uses cache)
    {k : String} {e : CachedProfile} (found : cache.find? k = some e) :
    ∃ u ∈ uses, u.wrote? k = some e := by
  rw [h.replayed] at found
  obtain ⟨newer, u, older, rfl, hw, -⟩ := find?_replay.1 found
  exact ⟨u, by simp, hw⟩

/-- A call is answered as if there were no cache. -/
theorem Traced.call_eq (h : Traced repo reply urls uses s.cache)
    (hn : repo.ConsistentOn reply urls) (hc : trim c.url ∈ urls) (sent : List Request) :
    (repo.call reply s c).1 = (repo.uncachedActor c.url (.constant reply) sent).1 := by
  obtain ⟨made, hm⟩ := @made_call repo reply s c
  generalize (repo.call reply s c).1 = r, (repo.call reply s c).2 = s' at hm
  cases hm with
  | blank hb =>
    rw [uncachedActor_of_blank hb]
    rfl
  | cached hb found fresh =>
    obtain ⟨u, hu, hw⟩ := h.wrote_of_found found
    exact (uncachedActor_of_yielded hb (h.yielded_of_wrote hn hc hb hu hw) sent).symm
  | fetched hb missed came =>
    have hy := (yielded_eq_some_iff s.sent).2 (congrArg Prod.fst came)
    exact (uncachedActor_of_yielded hb hy sent).symm
  | refused hb missed came nobody =>
    have same := repo.steady_fetchActor (trim c.url) reply s.sent sent
    rw [came] at same
    simpa [uncachedActor_of_not_blank hb] using same

theorem Traced.answers_eq (h : Traced repo reply urls uses s.cache)
    (hn : repo.ConsistentOn reply urls) (calls : List Call)
    (hc : ∀ c ∈ calls, trim c.url ∈ urls) (sent : List Request) :
    repo.answers reply s calls =
      calls.map fun c => (repo.uncachedActor c.url (.constant reply) sent).1 := by
  induction calls generalizing s uses with
  | nil => rfl
  | cons c calls ih =>
    obtain ⟨hc, hcs⟩ := List.forall_mem_cons.1 hc
    obtain ⟨made, hm⟩ := @made_call repo reply s c
    rw [answers, List.map_cons, h.call_eq hn hc sent, ih (h.call hc hm) hcs]

theorem Made.find?_of_nobody (hm : Made repo reply s c made r s')
    (nobody : ∀ p, r ≠ .ok (some p)) {k : String} {e : CachedProfile}
    (found : s'.cache.find? k = some e) : s.cache.find? k = some e := by
  cases hm with
  | blank => exact found
  | cached => exact absurd rfl (nobody _)
  | fetched => exact absurd rfl (nobody _)
  | refused =>
    simp only [after, look, find?_get] at found
    split at found
    · exact (Option.filter_eq_some_iff.1 found).1
    · exact found

theorem Made.came_of_nobody (hm : Made repo reply s c made r s')
    (nobody : ∀ p, r ≠ .ok (some p)) (hb : isBlankText c.url = false) :
    (r, s'.sent) = repo.fetchActor (trim c.url) (.constant reply) s.sent := by
  cases hm with
  | blank h => simp [h] at hb
  | cached => exact absurd rfl (nobody _)
  | fetched => exact absurd rfl (nobody _)
  | refused h missed came => exact came.symm

/-- What a call answers is in the cache after it, under the key of its URL. -/
theorem Made.find?_of_answer {p : Profile} (hd : s.cache.Distinct)
    (hm : Made repo reply s c made (.ok (some p)) s') :
    ∃ e, s'.cache.find? (key c.url) = some e ∧ e.profile = p ∧
      (s'.sent ≠ s.sent → e.cachedAt = c.answered) := by
  cases hm with
  | @cached hb e found fresh =>
    refine ⟨e, ?_, rfl, fun h => absurd rfl h⟩
    simp only [after, look, find?_get, if_true, found, Option.filter_some_pos fresh]
  | fetched =>
    refine ⟨⟨p, c.answered⟩, ?_, rfl, fun _ => rfl⟩
    simp only [after, keep, look, find?_insert (hd.get ..), true_or, if_true]
  | refused hb missed came nobody => exact absurd rfl (nobody p)

/-- A call whose URL has a fresh entry is answered from it. -/
theorem Made.sent_eq_of_found (hm : Made repo reply s c made r s')
    {e : CachedProfile} (found : s.cache.find? (key c.url) = some e)
    (fresh : isFresh repo.ttl c.asked e = true) : s'.sent = s.sent := by
  have hit : (s.cache.get repo.ttl c.asked c.url).1 ≠ none := by
    rw [get_eq_some_iff.2 ⟨e, found, fresh, rfl⟩]
    exact Option.some_ne_none _
  cases hm with
  | blank => rfl
  | cached => rfl
  | fetched hb missed => exact absurd missed hit
  | refused hb missed => exact absurd missed hit

/-- What has been written and is fresh can be found under each key it was written under, or something
fresher can. -/
theorem Traced.find?_of_wrote (h : Traced repo reply urls uses s.cache) {now : Nat}
    (ho : InOrder now uses) {u : Use} (hu : u ∈ uses) {k : String} {e : CachedProfile}
    (hw : u.wrote? k = some e) (fresh : isFresh repo.ttl now e = true) :
    ∃ e', s.cache.find? k = some e' ∧ isFresh repo.ttl now e' = true := by
  obtain ⟨e', hl, he⟩ := latest_of_wrote ho.sorted hu hw
  have fresh' := isFresh_of_cachedAt_le he fresh
  refine ⟨e', ?_, fresh'⟩
  rw [h.replayed]
  exact (find?_replay_iff_latest (fun x hx => ⟨h.one x hx, ho.past x hx⟩) fresh').2 hl

theorem ordered_append {before after : List Call} {now later : Nat}
    (h : Ordered now (before ++ after) later) : ∃ t, Ordered now before t ∧ Ordered t after later := by
  induction before generalizing now with
  | nil => exact ⟨now, Nat.le_refl now, h⟩
  | cons c before ih =>
    obtain ⟨h₁, h₂, h⟩ := h
    obtain ⟨t, hb, ha⟩ := ih h
    exact ⟨t, ⟨h₁, h₂, hb⟩, ha⟩

/-- A later call for an alias returns the same actor, and sends nothing while the entry that the
earlier one has left is fresh. -/
theorem second_call {before between : List Call} {first second : Call} {p : Profile}
    (hn : repo.ConsistentOn reply urls) (hb₁ : ∀ c ∈ before, trim c.url ∈ urls)
    (hfirst : trim first.url ∈ urls) (hb₂ : ∀ c ∈ between, trim c.url ∈ urls)
    (hsecond : trim second.url ∈ urls)
    (ho : Ordered 0 (before ++ first :: between) second.asked)
    (hp : repo.call reply (repo.run reply before) first = (.ok (some p), s))
    (hb : isBlankText second.url = false)
    (hk : key second.url = key first.url ∨ key second.url = key p.id) :
    ∃ e s', s.cache.find? (key first.url) = some e ∧ e.profile = p ∧ e.cachedAt ≤ first.answered ∧
      (s.sent ≠ (repo.run reply before).sent → e.cachedAt = first.answered) ∧
      repo.call reply (repo.run reply (before ++ first :: between)) second = (.ok (some p), s') ∧
      (isFresh repo.ttl second.asked e = true →
        s'.sent = (repo.run reply (before ++ first :: between)).sent) := by
  obtain ⟨t, ho₁, h₁, h₂, ho₂⟩ := ordered_append ho
  -- the session up to the first call, and what that leaves
  obtain ⟨uses, traced, inOrder⟩ := @traced_run repo reply urls before hb₁
  obtain ⟨made, hm⟩ := @made_call repo reply (repo.run reply before) first
  rw [hp] at hm
  obtain ⟨e, found, he, hs⟩ := hm.find?_of_answer (traced.replayed ▸ replay_distinct uses)
  have traced₁ := traced.call hfirst hm
  have inOrder₁ := (inOrder t ho₁).call h₁ h₂ hm
  obtain ⟨u, hu, hw⟩ := traced₁.wrote_of_found found
  have hcached : e.cachedAt ≤ first.answered := by
    rw [Use.wrote?_cachedAt hw]
    exact inOrder₁.past u hu
  -- the same write stands under the key of the second URL
  have hw₂ : u.wrote? (key second.url) = some e := by
    rcases hk with hk | hk
    · rw [hk, hw]
    · rw [hk, ← he, Use.wrote?_id hw]
  obtain ⟨more, traced₂, inOrder₂⟩ := traced₁.calls between hb₂
  have hrun : repo.run reply (before ++ first :: between) =
      between.foldl (fun s c => (repo.call reply s c).2) s := by
    rw [run_append, List.foldl_cons, hp]
  rw [← hrun] at traced₂
  have hu₂ : u ∈ more ++ (made ++ uses) := List.mem_append_right more hu
  have answer : (repo.call reply (repo.run reply (before ++ first :: between)) second).1 =
      .ok (some p) := by
    have hy := traced₂.yielded_of_wrote hn hsecond hb hu₂ hw₂
    rw [traced₂.call_eq hn hsecond [], uncachedActor_of_yielded hb hy [], he]
  refine ⟨e, _, found, he, hcached, hs, Prod.ext answer rfl, fun fresh => ?_⟩
  obtain ⟨e', found', fresh'⟩ :=
    traced₂.find?_of_wrote (inOrder₂ _ _ inOrder₁ ho₂) hu₂ hw₂ fresh
  obtain ⟨made', hm'⟩ := @made_call repo reply (repo.run reply (before ++ first :: between)) second
  exact hm'.sent_eq_of_found found' fresh'

end Traces

/-- **The cache does not show.** With a network that answers each request on its own and is consistent
on the URLs that are asked for, every call returns what a repository without a cache returns. An
answer that is no actor comes from the network, and adds nothing to the cache. After a call that
returned an actor, a call for an alias returns the same one; it sends nothing while the entry that the
first one left is fresh. -/
theorem caching_is_transparent (repo : Repository) (reply : Request → Reply) (calls : List Call)
    (hn : repo.ConsistentOn reply (urlsOf calls)) :
    (∀ sent, repo.answers reply .start calls =
      calls.map fun c => (repo.uncachedActor c.url (.constant reply) sent).1) ∧
    (∀ s c, (∀ p, (repo.call reply s c).1 ≠ .ok (some p)) →
      (∀ k e, (repo.call reply s c).2.cache.find? k = some e → s.cache.find? k = some e) ∧
      (isBlankText c.url = false →
        ((repo.call reply s c).1, (repo.call reply s c).2.sent) =
          repo.fetchActor (trim c.url) (.constant reply) s.sent)) ∧
    ∀ before first between second after p s,
      calls = before ++ first :: between ++ second :: after →
      Ordered 0 (before ++ first :: between) second.asked →
      repo.call reply (repo.run reply before) first = (.ok (some p), s) →
      isBlankText second.url = false →
      key second.url = key first.url ∨ key second.url = key p.id →
      ∃ e s', s.cache.find? (key first.url) = some e ∧ e.profile = p ∧
        e.cachedAt ≤ first.answered ∧
        (s.sent ≠ (repo.run reply before).sent → e.cachedAt = first.answered) ∧
        repo.call reply (repo.run reply (before ++ first :: between)) second = (.ok (some p), s') ∧
        (isFresh repo.ttl second.asked e = true →
          s'.sent = (repo.run reply (before ++ first :: between)).sent) := by
  have asked : ∀ c ∈ calls, trim c.url ∈ urlsOf calls := fun c hc => List.mem_map_of_mem hc
  refine ⟨fun sent => ?_, fun s c nobody => ?_, ?_⟩
  · obtain ⟨uses, traced, -⟩ := @traced_run repo reply (urlsOf calls) [] (by simp)
    exact traced.answers_eq hn calls asked sent
  · obtain ⟨made, hm⟩ := @made_call repo reply s c
    exact ⟨fun k e => hm.find?_of_nobody nobody, hm.came_of_nobody nobody⟩
  · rintro before first between second after p s rfl ho hp hb hk
    exact second_call hn (fun c hc => asked c (by simp [hc])) (asked first (by simp))
      (fun c hc => asked c (by simp [hc])) (asked second (by simp)) ho hp hb hk

/-- A repository that keeps actors for five seconds. -/
def brief : Repository := ⟨defaultUserAgent, defaultTimeout, 5000⟩

/-- A server that knows one actor, by two names. -/
def oneActor (r : Request) : Reply :=
  if key r.url = "https://a.test/@alice" ∨ key r.url = "https://a.test/users/alice" then
    .response 0 200 (.whole "\x7b\"id\":\"https://a.test/users/alice\"\x7d".toUTF8.toList)
  else .response 0 404 (.whole [])

/-- The actor is asked for by the one name. -/
def byHandle : Call := ⟨0, 10, " https://a.test/@alice/"⟩

/-- Nobody is found, once for want of a URL. -/
def detours : List Call := [⟨20, 25, "https://a.test/@bob"⟩, ⟨30, 30, " "⟩]

/-- The actor is asked for by the other name, just before she is too old. -/
def byId : Call := ⟨5009, 5009, "https://a.test/users/alice//"⟩

theorem alias_sends_nothing :
    brief.ConsistentOn oneActor (urlsOf (byHandle :: detours ++ [byId])) ∧
      ∃ p s', brief.call oneActor (brief.run oneActor (byHandle :: detours)) byId =
          (.ok (some p), s') ∧
        s'.sent = (brief.run oneActor (byHandle :: detours)).sent := by
  have consistent : brief.ConsistentOn oneActor (urlsOf (byHandle :: detours ++ [byId])) := by
    decide +kernel
  obtain ⟨transparent, -, second⟩ := caching_is_transparent brief oneActor _ consistent
  obtain ⟨p, found, hid⟩ : ∃ p, brief.yielded oneActor (trim byHandle.url) = some p ∧
      key byId.url = key p.id := by
    refine ⟨{ alice "" with url := "https://a.test/users/alice" }, ?_, ?_⟩ <;> decide +kernel
  have first : (brief.call oneActor .start byHandle).1 = .ok (some p) :=
    (List.cons.inj (transparent [])).1.trans
      (uncachedActor_of_yielded (by decide +kernel) found [])
  obtain ⟨s, answered, sends⟩ : ∃ s, brief.call oneActor .start byHandle = (.ok (some p), s) ∧
      s.sent ≠ Session.start.sent :=
    ⟨_, Prod.ext first rfl, by decide +kernel⟩
  obtain ⟨e, s', -, -, -, he, again, quiet⟩ :=
    second [] byHandle detours byId [] p s rfl (by decide) answered (by decide +kernel) (.inr hid)
  have fresh : isFresh brief.ttl byId.asked e = true := by
    simp only [isFresh, he sends]
    decide
  exact ⟨consistent, p, s', again, quiet fresh⟩

end Repository

end FollowClient
