import FollowClient.Net.Redirects
import FollowClient.Proofs.Cache.Transparency
import FollowClient.Proofs.Net.HostOfKey
import FollowClient.Proofs.Net.Replies

/-!
What hosts can change of each other's actors. All hosts share the cache, and a document is kept
under the id that it claims. So a host can put its own document in the place of another host's
actor, by claiming the actor's URL as its id; and it has a say where a host redirects to it
(`claims_and_redirects_decide`). These are the only ways: where no other host claims an id on a host
and the host redirects to itself only, its URLs resolve to the same actors whatever the other hosts
answer, and in any case an answer was fetched with a URL of the host or claims the URL that was
asked for (`foreign_hosts_change_nothing`).

What the host of a URL is, is left open but for what `ReadsHosts` says, and so is how the client
follows redirects. The proof runs two sessions side by side, and keeps that they find the same fresh
entries under the keys of the host (`Twin`).
-/

namespace FollowClient

open Net

namespace ActorCache

/-- The entry under a key, if it is fresh. -/
def fresh? (ttl : Int) (now : Nat) (k : String) (cache : ActorCache) : Option CachedProfile :=
  (cache.find? k).filter (isFresh ttl now)

theorem fresh?_mono {ttl : Int} {now later : Nat} (h : now ≤ later) (k : String)
    (cache : ActorCache) :
    cache.fresh? ttl later k = (cache.fresh? ttl now k).filter (isFresh ttl later) := by
  unfold fresh?
  cases cache.find? k with
  | none => rfl
  | some e =>
    cases hf : isFresh ttl later e with
    | true => simp [Option.filter_some, hf, isFresh_of_le h hf]
    | false => cases hn : isFresh ttl now e <;> simp [Option.filter_some, hf, hn]

theorem get_fst (ttl : Int) (now : Nat) (url : String) (cache : ActorCache) :
    (cache.get ttl now url).1 = (cache.fresh? ttl now (key url)).map (·.profile) := by
  ext p
  rw [get_eq_some_iff, Option.map_eq_some_iff, fresh?]
  constructor
  · rintro ⟨e, found, fresh, rfl⟩
    exact ⟨e, Option.filter_eq_some_iff.2 ⟨found, fresh⟩, rfl⟩
  · rintro ⟨e, he, hp⟩
    obtain ⟨found, fresh⟩ := Option.filter_eq_some_iff.1 he
    exact ⟨e, found, fresh, hp⟩

end ActorCache

namespace Repository

open Text ActorCache Net.Address

/-! ### One request -/

/-- The actor in a response. -/
def actorOf (url : String) (r : Response) : Except Failure (Option Profile) :=
  match documentOf url r with
  | .ok (some doc) => (Profile.ofDocument doc).map some
  | .ok none => .ok none
  | .error f => .error f

section Fetch

variable {repo : Repository} {net net' : Network} {sent sent' : List Request} {url : String}

theorem fetchActor_eq : repo.fetchActor url net sent =
    match send repo.timeout (repo.documentMessage url) net sent with
    | (.ok r, sent) => (actorOf url r, sent)
    | (.error f, sent) => (.error f, sent) := by
  unfold fetchActor fetchDocument
  rw [Exchange.bind_apply, Exchange.bind_apply]
  cases send repo.timeout (repo.documentMessage url) net sent with
  | mk r sent =>
    cases r with
    | error f => rfl
    | ok r =>
      dsimp only [actorOf, Exchange.ofExcept_apply]
      cases documentOf url r with
      | error f => rfl
      | ok doc => cases doc <;> rfl

theorem fetchActor_fst : (repo.fetchActor url net sent).1 =
    (send repo.timeout (repo.documentMessage url) net sent).1.bind (actorOf url) := by
  rw [fetchActor_eq]
  rcases send repo.timeout (repo.documentMessage url) net sent with ⟨e | r, _⟩ <;> rfl

/-- To one fetch the network is one that answers each request on its own. -/
theorem fetchActor_constant :
    repo.fetchActor url net sent = repo.fetchActor url (.constant (net sent)) sent := by
  rw [fetchActor_eq, fetchActor_eq]
  rfl

/-- The result of a fetch depends on the reply to its request only. -/
theorem fetchActor_congr
    (h : ∀ x ∈ (repo.documentMessage url).request.toOption, net sent x.1 = net' sent' x.1) :
    (repo.fetchActor url net sent).1 = (repo.fetchActor url net' sent').1 := by
  rw [fetchActor_fst, fetchActor_fst, send_congr (replyTo_congr h)]

theorem scheme_withoutCredentials (a : Address) : a.withoutCredentials.scheme = a.scheme := by
  unfold withoutCredentials
  split
  · split <;> rfl
  · rfl

/-- What can be asked for has a host. -/
theorem hostOf?_of_request {x : Request × String}
    (h : (repo.documentMessage url).request = .ok x) : ∃ host, hostOf? url = some host := by
  unfold Message.request at h
  show ∃ host, (Address.read? url).bind _ = some host
  rw [show (repo.documentMessage url).url = url from rfl] at h
  cases hr : Address.read? url with
  | none => simp [hr] at h
  | some a =>
    rw [hr] at h
    dsimp only at h
    split at h
    · cases h
    · next hh =>
      split at h
      · cases h
      · split at h
        · next hs =>
          have web : isWeb a.scheme = true := by
            unfold isSendable at hs
            rw [Bool.and_eq_true, Bool.and_eq_true, scheme_withoutCredentials] at hs
            exact hs.1.1
          obtain ⟨host, hhost⟩ := Option.ne_none_iff_exists'.1 (by simpa using hh)
          exact ⟨host, by simp [web, hhost]⟩
        · cases h

end Fetch

/-! ### The host of a URL -/

/-- The reading of hosts fits the repository: a URL keeps its host when it is made a base, and what
can be asked for has a host. -/
structure ReadsHosts {H : Type} (repo : Repository) (host : String → Option H) : Prop where
  base {url : String} {h : H} (own : host (trim url) = some h) : host (baseOf url) = some h
  asked {url : String} {x : Request × String} (sends : (repo.documentMessage url).request = .ok x) :
    ∃ h, host url = some h

theorem readsHosts_hostOf? (repo : Repository) : ReadsHosts repo hostOf? :=
  ⟨hostOf?_baseOf, hostOf?_of_request⟩

/-- What was fetched has a host. -/
theorem ReadsHosts.fetched {H : Type} {repo : Repository} {host : String → Option H}
    (reads : ReadsHosts repo host) {net : Network} {sent : List Request} {url : String}
    {p : Profile} (h : (repo.fetchActor url net sent).1 = .ok (some p)) :
    ∃ own, host url = some own := by
  cases hr : (repo.documentMessage url).request with
  | error reason =>
    rw [fetchActor_eq] at h
    unfold send at h
    rw [hr] at h
    cases h
  | ok x => exact reads.asked hr

/-- The host that a call asks. -/
def Call.host? {H : Type} (host : String → Option H) (c : Call) : Option H := host (trim c.url)

/-! ### Calls with any network -/

section Asks

variable (repo : Repository) (net : Network)

/-- One call: its result, and the session after it. -/
def ask (s : Session) (c : Call) : Except Failure (Option Profile) × Session :=
  match repo.getActorBetween c.asked c.answered c.url s.cache net s.sent with
  | (.ok (result, cache), sent) => (result, ⟨cache, sent⟩)
  | (.error f, sent) => (.error f, { s with sent })

/-- The session after calls, one after the other. -/
def visited (calls : List Call) : Session := calls.foldl (fun s c => (repo.ask net s c).2) .start

/-- The result of one of the calls. -/
def resultAt (calls : List Call) (i : Fin calls.length) : Except Failure (Option Profile) :=
  (repo.ask net (repo.visited net (calls.take i)) calls[i]).1

/-- The actor that a call fetches, if the cache has none that is fresh. -/
def fetched? (s : Session) (c : Call) : Option Profile :=
  if isBlankText c.url || (s.cache.fresh? repo.ttl c.asked (key c.url)).isSome then none
  else (repo.fetchActor (trim c.url) net s.sent).1.toOption.join

/-- The actor that one of the calls fetches. -/
def fetchedAt? (calls : List Call) (i : Fin calls.length) : Option Profile :=
  repo.fetched? net (repo.visited net (calls.take i)) calls[i]

variable {repo net} {s : Session} {c : Call}

/-- Results that are told apart by their actors. -/
theorem resultAt_ne {net' : Network} {calls : List Call} {i : Fin calls.length}
    (h : (repo.resultAt net calls i).toOption ≠ (repo.resultAt net' calls i).toOption) :
    repo.resultAt net calls i ≠ repo.resultAt net' calls i :=
  fun same => h (congrArg Except.toOption same)

/-- A call sends one request at most. -/
theorem ask_eq_call : repo.ask net s c = repo.call (net s.sent) s c := by
  have same : repo.getActorBetween c.asked c.answered c.url s.cache net s.sent =
      repo.getActorBetween c.asked c.answered c.url s.cache (.constant (net s.sent)) s.sent := by
    unfold getActorBetween
    split
    · rfl
    · dsimp only
      cases s.cache.get repo.ttl c.asked (trim c.url) with
      | mk found cache =>
        cases found with
        | some p => rfl
        | none =>
          dsimp only
          rw [Exchange.bind_apply, Exchange.bind_apply, Exchange.attempt_apply,
            Exchange.attempt_apply, fetchActor_constant]
          dsimp only
          cases (repo.fetchActor (trim c.url) (.constant (net s.sent)) s.sent).1 with
          | error f => rfl
          | ok answer => cases answer <;> rfl
  unfold ask call
  cases hr : repo.getActorBetween c.asked c.answered c.url s.cache (.constant (net s.sent))
    s.sent with
  | mk r sent =>
    rw [hr] at same
    cases r with
    | error f => simp only [same]
    | ok answer => simp only [same]

theorem made_ask (s : Session) (c : Call) :
    ∃ uses, Made repo (net s.sent) s c uses (repo.ask net s c).1 (repo.ask net s c).2 := by
  rw [ask_eq_call]
  exact made_call s c

/-! ### What a call answers and keeps -/

theorem fresh?_of_missed (h : (s.cache.get repo.ttl c.asked c.url).1 = none) :
    s.cache.fresh? repo.ttl c.asked (key c.url) = none := by
  rw [get_fst] at h
  exact Option.map_eq_none_iff.1 h

/-- A call is answered from the cache if that has a fresh entry, and else as the fetch ends. -/
theorem ask_fst : (repo.ask net s c).1 =
    if isBlankText c.url then .error .blankActor
    else match s.cache.fresh? repo.ttl c.asked (key c.url) with
      | some e => .ok (some e.profile)
      | none => (repo.fetchActor (trim c.url) net s.sent).1 := by
  obtain ⟨uses, hm⟩ := @made_ask repo net s c
  generalize (repo.ask net s c).1 = r, (repo.ask net s c).2 = s' at hm
  cases hm with
  | blank hb => rw [if_pos hb]
  | @cached hb e found fresh =>
    have hit : s.cache.fresh? repo.ttl c.asked (key c.url) = some e :=
      Option.filter_eq_some_iff.2 ⟨found, fresh⟩
    simp [hb, hit]
  | fetched hb missed came =>
    rw [fetchActor_constant]
    simp [hb, fresh?_of_missed missed, came]
  | refused hb missed came =>
    rw [fetchActor_constant]
    simp [hb, fresh?_of_missed missed, came]

theorem fetched?_eq_some {p : Profile} (h : repo.fetched? net s c = some p) :
    (repo.fetchActor (trim c.url) net s.sent).1 = .ok (some p) := by
  unfold fetched? at h
  split at h
  · cases h
  · next hc =>
    cases hf : (repo.fetchActor (trim c.url) net s.sent).1 with
    | error f => simp [hf, Except.toOption] at h
    | ok answer => simpa [hf, Except.toOption] using h

/-- What a call does to the cache: it looks, unless it has nothing to look for, and keeps what it
has fetched. -/
theorem cache_ask (s : Session) (c : Call) :
    (repo.fetched? net s c = none ∧ ((repo.ask net s c).2.cache = s.cache ∨
      (repo.ask net s c).2.cache = s.cache.after (repo.look c))) ∨
    ∃ p, repo.fetched? net s c = some p ∧
      (repo.ask net s c).2.cache = (s.cache.after (repo.look c)).after (repo.keep c p) := by
  obtain ⟨uses, hm⟩ := @made_ask repo net s c
  generalize (repo.ask net s c).1 = r, (repo.ask net s c).2 = s' at hm ⊢
  unfold fetched?
  cases hm with
  | blank hb => exact .inl ⟨by simp [hb], .inl rfl⟩
  | @cached hb e found fresh =>
    have hit : s.cache.fresh? repo.ttl c.asked (key c.url) = some e :=
      Option.filter_eq_some_iff.2 ⟨found, fresh⟩
    exact .inl ⟨by simp [hit], .inr rfl⟩
  | @fetched hb p sent missed came =>
    refine .inr ⟨p, ?_, rfl⟩
    rw [fetchActor_constant, came]
    simp [hb, fresh?_of_missed missed, Except.toOption]
  | refused hb missed came nobody =>
    refine .inl ⟨?_, .inr rfl⟩
    have nothing : r.toOption.join = none := by
      rcases r with f | _ | p
      · rfl
      · rfl
      · exact absurd rfl (nobody p)
    rw [fetchActor_constant, came]
    simp [nothing]

theorem distinct_ask (hd : s.cache.Distinct) : (repo.ask net s c).2.cache.Distinct := by
  rcases @cache_ask repo net s c with ⟨-, h | h⟩ | ⟨p, -, h⟩
  · exact h ▸ hd
  · exact h ▸ hd.get ..
  · exact h ▸ (hd.get ..).insert ..

/-- A look drops nothing that is fresh. -/
theorem fresh?_look {later : Nat} (h : c.asked ≤ later) (k : String) (cache : ActorCache) :
    (cache.after (repo.look c)).fresh? repo.ttl later k = cache.fresh? repo.ttl later k := by
  show ((cache.get repo.ttl c.asked c.url).2.find? k).filter _ = _
  rw [find?_get]
  split
  · exact (fresh?_mono h k cache).symm
  · rfl

theorem find?_keep {cache : ActorCache} (hd : cache.Distinct) (p : Profile) (k : String) :
    (cache.after (repo.keep c p)).find? k = if k = key c.url ∨ k = key p.id
      then some ⟨p, c.answered⟩
      else (cache.find? k).filter (isFresh repo.ttl c.answered) :=
  find?_insert hd repo.ttl c.answered c.url p k

/-- The fresh entries after a call: those from before, and what it has fetched. -/
theorem fresh?_ask (hd : s.cache.Distinct) (ht : c.asked ≤ c.answered) (k : String) :
    (repo.ask net s c).2.cache.fresh? repo.ttl c.answered k =
      match repo.fetched? net s c with
      | some p => if k = key c.url ∨ k = key p.id
          then (some ⟨p, c.answered⟩ : Option CachedProfile).filter (isFresh repo.ttl c.answered)
          else s.cache.fresh? repo.ttl c.answered k
      | none => s.cache.fresh? repo.ttl c.answered k := by
  rcases @cache_ask repo net s c with ⟨hf, h | h⟩ | ⟨p, hf, h⟩
  · rw [hf, h]
  · rw [hf, h]
    exact fresh?_look ht k s.cache
  · have looked : (s.cache.after (repo.look c)).Distinct := hd.get ..
    rw [hf, h, fresh?, find?_keep looked]
    dsimp only
    split
    · rfl
    · rw [← fresh?_look ht k s.cache]
      exact (fresh?_mono (Nat.le_refl _) k (s.cache.after (repo.look c))).symm

/-- An entry was there before a call, or the call has fetched it, for its URL and for its id. -/
theorem find?_ask (hd : s.cache.Distinct) {k : String} {e : CachedProfile}
    (found : (repo.ask net s c).2.cache.find? k = some e) :
    s.cache.find? k = some e ∨
    (repo.fetched? net s c = some e.profile ∧ (k = key c.url ∨ k = key e.profile.id)) := by
  have looked : ∀ e, (s.cache.after (repo.look c)).find? k = some e → s.cache.find? k = some e := by
    intro e he
    simp only [ActorCache.after, look, find?_get] at he
    split at he
    · exact (Option.filter_eq_some_iff.1 he).1
    · exact he
  rcases @cache_ask repo net s c with ⟨-, h | h⟩ | ⟨p, hf, h⟩
  · exact .inl (h ▸ found)
  · exact .inl (looked e (h ▸ found))
  · have distinct : (s.cache.after (repo.look c)).Distinct := hd.get ..
    rw [h, find?_keep distinct] at found
    split at found
    · next hk =>
      obtain rfl := Option.some.inj found
      exact .inr ⟨hf, hk⟩
    · exact .inl (looked e (Option.filter_eq_some_iff.1 found).1)

end Asks

/-! ### Two sessions side by side -/

section Sessions

variable {H : Type} (host : String → Option H) (repo : Repository) (h : H)

/-- The networks give the same reply whenever a URL of the host is asked for. -/
def AlikeOn (net net' : Network) (calls : List Call) : Prop :=
  ∀ i : Fin calls.length, calls[i].host? host = some h →
    ∀ x ∈ (repo.documentMessage (trim calls[i].url)).request.toOption,
      net (repo.visited net (calls.take i)).sent x.1 =
        net' (repo.visited net' (calls.take i)).sent x.1

/-- No actor that is fetched with a URL of another host claims an id on the host. -/
def Unclaimed (net : Network) (calls : List Call) : Prop :=
  ∀ i : Fin calls.length, calls[i].host? host ≠ some h →
    ∀ p ∈ repo.fetchedAt? net calls i, host (key p.id) ≠ some h

/-- The sessions find the same under the keys of the host, now and later. -/
structure Twin (now : Nat) (s s' : Session) : Prop where
  distinct : s.cache.Distinct
  distinct' : s'.cache.Distinct
  same {k : String} (hk : host k = some h) :
    s.cache.fresh? repo.ttl now k = s'.cache.fresh? repo.ttl now k

variable {host repo h} {net net' : Network} {s s' : Session} {c : Call}

theorem Twin.mono {now later : Nat} (tw : Twin host repo h now s s') (hl : now ≤ later) :
    Twin host repo h later s s' where
  distinct := tw.distinct
  distinct' := tw.distinct'
  same {k} hk := by rw [fresh?_mono hl, tw.same hk, ← fresh?_mono hl]

theorem visited_take_succ (net : Network) (calls : List Call) (i : Fin calls.length) :
    repo.visited net (calls.take (i + 1)) =
      (repo.ask net (repo.visited net (calls.take i)) calls[i]).2 := by
  unfold visited
  rw [List.take_succ_eq_append_getElem i.2, List.foldl_append]
  rfl

variable (reads : ReadsHosts repo host)
include reads

/-- A call to the host fetches the same in both sessions, if it fetches anything. -/
theorem Twin.fetched?_eq (tw : Twin host repo h c.asked s s') (hc : c.host? host = some h)
    (alike : ∀ x ∈ (repo.documentMessage (trim c.url)).request.toOption,
      net s.sent x.1 = net' s'.sent x.1) :
    repo.fetched? net s c = repo.fetched? net' s' c ∧
    (repo.ask net s c).1 = (repo.ask net' s' c).1 := by
  have own : host (key c.url) = some h := reads.base hc
  unfold fetched?
  rw [ask_fst, ask_fst, tw.same own, fetchActor_congr alike]
  exact ⟨rfl, rfl⟩

/-- A call to another host adds nothing under the keys of the host. -/
theorem fresh?_ask_of_foreign (hd : s.cache.Distinct) (ht : c.asked ≤ c.answered)
    (hc : c.host? host ≠ some h)
    (unclaimed : ∀ p ∈ repo.fetched? net s c, host (key p.id) ≠ some h) {k : String}
    (hk : host k = some h) :
    (repo.ask net s c).2.cache.fresh? repo.ttl c.answered k =
      s.cache.fresh? repo.ttl c.answered k := by
  rw [fresh?_ask hd ht]
  cases hf : repo.fetched? net s c with
  | none => rfl
  | some p =>
    have other : ¬ (k = key c.url ∨ k = key p.id) := by
      rintro (rfl | rfl)
      · obtain ⟨theirs, asked⟩ := reads.fetched (fetched?_eq_some hf)
        have own : host (key c.url) = some theirs := reads.base asked
        exact hc (asked.trans (own.symm.trans hk))
      · exact unclaimed p hf hk
    exact if_neg other

theorem Twin.ask (tw : Twin host repo h c.asked s s') (ht : c.asked ≤ c.answered)
    (alike : c.host? host = some h →
      ∀ x ∈ (repo.documentMessage (trim c.url)).request.toOption,
        net s.sent x.1 = net' s'.sent x.1)
    (unclaimed : c.host? host ≠ some h → ∀ p ∈ repo.fetched? net s c, host (key p.id) ≠ some h)
    (unclaimed' : c.host? host ≠ some h →
      ∀ p ∈ repo.fetched? net' s' c, host (key p.id) ≠ some h) :
    Twin host repo h c.answered (repo.ask net s c).2 (repo.ask net' s' c).2 where
  distinct := distinct_ask tw.distinct
  distinct' := distinct_ask tw.distinct'
  same {k} hk := by
    have old := (tw.mono ht).same hk
    by_cases hc : c.host? host = some h
    · rw [fresh?_ask tw.distinct ht, fresh?_ask tw.distinct' ht, old,
        (tw.fetched?_eq reads hc (alike hc)).1]
    · rw [fresh?_ask_of_foreign reads tw.distinct ht hc (unclaimed hc) hk,
        fresh?_ask_of_foreign reads tw.distinct' ht hc (unclaimed' hc) hk, old]

/-- Up to every call the sessions are twins. -/
theorem twin_visited {calls : List Call} {later : Nat} (ordered : Ordered 0 calls later)
    (alike : repo.AlikeOn host h net net' calls) (unclaimed : repo.Unclaimed host h net calls)
    (unclaimed' : repo.Unclaimed host h net' calls) (i : Nat) (hi : i ≤ calls.length) :
    ∃ now, Ordered now (calls.drop i) later ∧
      Twin host repo h now (repo.visited net (calls.take i))
        (repo.visited net' (calls.take i)) := by
  induction i with
  | zero => exact ⟨0, ordered, .nil, .nil, fun _ => rfl⟩
  | succ i ih =>
    obtain ⟨now, ho, tw⟩ := ih (Nat.le_of_lt hi)
    rw [List.drop_eq_getElem_cons hi] at ho
    obtain ⟨h₁, h₂, ho⟩ := ho
    refine ⟨_, ho, ?_⟩
    rw [visited_take_succ net calls ⟨i, hi⟩, visited_take_succ net' calls ⟨i, hi⟩]
    exact (tw.mono h₁).ask reads h₂ (alike ⟨i, hi⟩) (unclaimed ⟨i, hi⟩) (unclaimed' ⟨i, hi⟩)

/-- Networks that reply alike give the calls to the host the same results. -/
theorem resultAt_eq {calls : List Call} {later : Nat} (ordered : Ordered 0 calls later)
    (alike : repo.AlikeOn host h net net' calls) (unclaimed : repo.Unclaimed host h net calls)
    (unclaimed' : repo.Unclaimed host h net' calls) {i : Fin calls.length}
    (hi : calls[i].host? host = some h) :
    repo.resultAt net calls i = repo.resultAt net' calls i := by
  obtain ⟨now, ho, twin⟩ :=
    twin_visited reads ordered alike unclaimed unclaimed' (i : Nat) (Nat.le_of_lt i.2)
  rw [List.drop_eq_getElem_cons i.2] at ho
  exact ((twin.mono ho.1).fetched?_eq reads hi (alike i hi)).2

end Sessions

/-! ### Servers that redirect -/

section Servers

variable {H ρ : Type} (host : String → Option H) (repo : Repository) (client : Client ρ) (h : H)

/-- The servers answer alike whenever a URL of the host is asked for. -/
def AnswerAlike (servers servers' : Servers ρ) (calls : List Call) : Prop :=
  ∀ i : Fin calls.length, calls[i].host? host = some h →
    ∀ (before : List Request) (q : Request), host q.url = some h →
      servers (repo.visited (client.network servers) (calls.take i)).sent before q =
        servers' (repo.visited (client.network servers') (calls.take i)).sent before q

/-- For a URL of the host the client is never sent to another host. -/
def StaysOn (servers : Servers ρ) (calls : List Call) : Prop :=
  ∀ i : Fin calls.length, calls[i].host? host = some h →
    ∀ x ∈ (repo.documentMessage (trim calls[i].url)).request.toOption,
      ∀ q ∈ client.trail servers (repo.visited (client.network servers) (calls.take i)).sent x.1,
        host q.2.url = some h

variable {host repo client h}

theorem alikeOn_of_answerAlike (sound : client.Sound) {servers servers' : Servers ρ}
    {calls : List Call} (alike : AnswerAlike host repo client h servers servers' calls)
    (stays : StaysOn host repo client h servers calls) :
    repo.AlikeOn host h (client.network servers) (client.network servers') calls :=
  fun i hi x hx => sound _ _ _ _ _ fun q hq => alike i hi q.1 q.2 (stays i hi x hx q hq)

end Servers

/-! ### Where an answer comes from -/

section Origins

variable {repo : Repository} {net : Network} {calls : List Call}

/-- Every entry was fetched by an earlier call, for its URL or for the id that it claims. -/
theorem stems_visited (n : Nat) (hn : n ≤ calls.length) :
    (repo.visited net (calls.take n)).cache.Distinct ∧
    ∀ k e, (repo.visited net (calls.take n)).cache.find? k = some e →
      ∃ j : Fin calls.length, (j : Nat) < n ∧ repo.fetchedAt? net calls j = some e.profile ∧
        (k = key calls[j].url ∨ k = key e.profile.id) := by
  induction n with
  | zero => exact ⟨.nil, fun k e he => nomatch he⟩
  | succ n ih =>
    obtain ⟨distinct, stems⟩ := ih (Nat.le_of_lt hn)
    rw [visited_take_succ net calls ⟨n, hn⟩]
    refine ⟨distinct_ask distinct, fun k e found => ?_⟩
    rcases find?_ask distinct found with found | ⟨hf, hk⟩
    · obtain ⟨j, hj, rest⟩ := stems k e found
      exact ⟨j, Nat.lt_succ_of_lt hj, rest⟩
    · exact ⟨⟨n, hn⟩, Nat.lt_succ_self n, hf, hk⟩

/-- An actor that answers a call was fetched with a URL of the same host, or claims the URL of the
call. -/
theorem origin_of_resultAt {H : Type} {host : String → Option H} (reads : ReadsHosts repo host)
    {h : H} {i : Fin calls.length} (hi : calls[i].host? host = some h) {p : Profile}
    (hp : repo.resultAt net calls i = .ok (some p)) :
    ∃ j ≤ i, repo.fetchedAt? net calls j = some p ∧
      (calls[j].host? host = some h ∨ key p.id = key calls[i].url) := by
  obtain ⟨-, stems⟩ := @stems_visited repo net calls i (Nat.le_of_lt i.2)
  rw [resultAt, ask_fst] at hp
  split at hp
  · cases hp
  · next hb =>
    split at hp
    · next e fresh =>
      obtain rfl : e.profile = p := by simpa using hp
      obtain ⟨j, hj, hf, hk⟩ := stems _ e (Option.filter_eq_some_iff.1 fresh).1
      refine ⟨j, Nat.le_of_lt hj, hf, ?_⟩
      rcases hk with hk | hk
      · -- the two URLs have one key, and so one host
        obtain ⟨theirs, asked⟩ := reads.fetched (fetched?_eq_some hf)
        have same : host (key calls[j].url) = host (key calls[i].url) := by rw [hk]
        rw [show host (key calls[j].url) = some theirs from reads.base asked,
          show host (key calls[i].url) = some h from reads.base hi] at same
        exact .inl (asked.trans same)
      · exact .inr hk.symm
    · next missed =>
      refine ⟨i, Nat.le_refl _, ?_, .inl hi⟩
      simp only [fetchedAt?, fetched?, missed, hp, Bool.eq_false_iff.2 hb]
      rfl

end Origins

/-- **Other hosts change nothing**, unless they claim to or are let in. Take two worlds of servers
that answer alike for the URLs of a host, where the host redirects to itself only and no actor that
is fetched with a URL of another host claims an id on the host. Calls at the same times, one after
the other, then have the same results in both wherever they are for a URL of the host. In any world,
an actor that answers such a call was fetched with a URL of the host, or claims the URL of the call
as its id. -/
theorem foreign_hosts_change_nothing {H ρ : Type} {repo : Repository} {host : String → Option H}
    (reads : ReadsHosts repo host) {client : Client ρ} (sound : client.Sound) (h : H)
    (calls : List Call) :
    (∀ servers servers' later, Ordered 0 calls later →
      AnswerAlike host repo client h servers servers' calls →
      StaysOn host repo client h servers calls →
      repo.Unclaimed host h (client.network servers) calls →
      repo.Unclaimed host h (client.network servers') calls →
      ∀ i : Fin calls.length, calls[i].host? host = some h →
        repo.resultAt (client.network servers) calls i =
          repo.resultAt (client.network servers') calls i) ∧
    ∀ servers, ∀ i : Fin calls.length, calls[i].host? host = some h →
      ∀ p, repo.resultAt (client.network servers) calls i = .ok (some p) →
        ∃ j ≤ i, repo.fetchedAt? (client.network servers) calls j = some p ∧
          (calls[j].host? host = some h ∨ key p.id = key calls[i].url) := by
  refine ⟨fun servers servers' later ordered alike stays unclaimed unclaimed' i hi => ?_,
    fun servers i hi p hp => origin_of_resultAt reads hi hp⟩
  exact resultAt_eq reads ordered (alikeOn_of_answerAlike sound alike stays) unclaimed unclaimed' hi

/-! ### A good host and another one -/

/-- A host with one actor. -/
def goodHost : Host := .name "good.test".toList

theorem ne_of_hostOf? {asked url : String} (own : hostOf? asked = some goodHost)
    (other : hostOf? url ≠ some goodHost) : asked ≠ url :=
  fun same => other (same ▸ own)

/-- The document of an actor. -/
def documentFor (id name : String) : Hop := .reply (.response 0 200
  (.whole ("\x7b\"id\":\"" ++ id ++ "\",\"name\":\"" ++ name ++ "\"\x7d").toUTF8.toList))

/-- The good host redirects the page of its actor to the actor. The other one has an actor that
claims an id. -/
def claiming (id : String) : Servers Hop := fun _ _ r =>
  if r.url = "https://good.test/@alice" then .redirect "https://good.test/alice"
  else if r.url = "https://good.test/alice" then documentFor "https://good.test/alice" "Alice"
  else if r.url = "https://evil.test/mallory" then documentFor id "Mallory"
  else .reply (.response 0 404 (.whole []))

/-- The other host is asked first. -/
def evilThenGood : List Call :=
  [⟨0, 10, "https://evil.test/mallory"⟩, ⟨20, 30, "https://good.test/@alice"⟩]

/-- The call to the other host. -/
def evilCall : Fin evilThenGood.length := ⟨0, by decide⟩

/-- The call to the good host. -/
def goodCall : Fin evilThenGood.length := ⟨1, by decide⟩

/-- A client that follows ten redirects. -/
def browser : Client Hop := .following 10

/-- What the other host claims does not change what the good one answers. -/
theorem claiming_alike (id id' : String) (calls : List Call) :
    AnswerAlike hostOf? brief browser goodHost (claiming id) (claiming id') calls := by
  intro i _ before q hq
  have other : q.url ≠ "https://evil.test/mallory" := ne_of_hostOf? hq (by decide +kernel)
  simp [claiming, other]

theorem other_ids_change_nothing :
    brief.resultAt (browser.network (claiming "https://evil.test/mallory")) evilThenGood evilCall ≠
      brief.resultAt (browser.network (claiming "https://evil.test/other")) evilThenGood evilCall ∧
    brief.resultAt (browser.network (claiming "https://evil.test/mallory")) evilThenGood goodCall =
      brief.resultAt (browser.network (claiming "https://evil.test/other")) evilThenGood
        goodCall := by
  refine ⟨resultAt_ne (by decide +kernel), (foreign_hosts_change_nothing (readsHosts_hostOf? brief)
    (Client.sound_following 10) goodHost evilThenGood).1 _ _ 30 (by decide)
      (claiming_alike _ _ _) ?_ ?_ ?_ goodCall (by decide +kernel)⟩
  · unfold StaysOn
    decide +kernel
  · unfold Unclaimed
    decide +kernel
  · unfold Unclaimed
    decide +kernel

/-- The good host redirects its actor to the other host, where somebody has a name. -/
def moved (name : String) : Servers Hop := fun _ _ r =>
  if r.url = "https://good.test/@alice" then .redirect "https://evil.test/guest"
  else if r.url = "https://evil.test/guest" then documentFor "https://evil.test/guest" name
  else .reply (.response 0 404 (.whole []))

/-- What the other host calls somebody does not change what the good one answers. -/
theorem moved_alike (name name' : String) (calls : List Call) :
    AnswerAlike hostOf? brief browser goodHost (moved name) (moved name') calls := by
  intro i _ before q hq
  have other : q.url ≠ "https://evil.test/guest" := ne_of_hostOf? hq (by decide +kernel)
  simp [moved, other]

/-- The good host renames its actor after the first question. -/
def renamed : Servers Hop := fun sent _ _ =>
  documentFor "https://good.test/@alice" (if sent.isEmpty then "Alice" else "Alice B.")

/-- The actor is asked for twice, the second time at `later`. -/
def twice (later : Nat) : List Call :=
  [⟨0, 10, "https://good.test/@alice"⟩, ⟨later, later + 10, "https://good.test/@alice"⟩]

/-- The first of the two calls. -/
def firstCall (later : Nat) : Fin (twice later).length := ⟨0, Nat.zero_lt_two⟩

/-- The second of the two calls. -/
def secondCall (later : Nat) : Fin (twice later).length := ⟨1, Nat.one_lt_two⟩

/-- **Claims, redirects and times decide.** Three times the servers answer alike for the URLs of the
good host, and yet a call for its actor has two results: because another host claims the id of the
actor, because the good host redirects to the other one, where somebody has another name, and
because the same question is asked at another time. -/
theorem claims_and_redirects_decide :
    (AnswerAlike hostOf? brief browser goodHost (claiming "https://good.test/@alice")
        (claiming "https://evil.test/mallory") evilThenGood ∧
      evilThenGood[goodCall].host? hostOf? = some goodHost ∧
      brief.resultAt (browser.network (claiming "https://good.test/@alice")) evilThenGood
        goodCall ≠
      brief.resultAt (browser.network (claiming "https://evil.test/mallory")) evilThenGood
        goodCall) ∧
    (AnswerAlike hostOf? brief browser goodHost (moved "Mallory") (moved "Trudy") (twice 20) ∧
      brief.Unclaimed hostOf? goodHost (browser.network (moved "Mallory")) (twice 20) ∧
      brief.Unclaimed hostOf? goodHost (browser.network (moved "Trudy")) (twice 20) ∧
      brief.resultAt (browser.network (moved "Mallory")) (twice 20) (firstCall 20) ≠
        brief.resultAt (browser.network (moved "Trudy")) (twice 20) (firstCall 20)) ∧
    (twice 20).map (·.url) = (twice 9000).map (·.url) ∧
    brief.resultAt (browser.network renamed) (twice 20) (secondCall 20) ≠
      brief.resultAt (browser.network renamed) (twice 9000) (secondCall 9000) := by
  have claimed : brief.resultAt (browser.network (claiming "https://good.test/@alice"))
      evilThenGood goodCall ≠
      brief.resultAt (browser.network (claiming "https://evil.test/mallory"))
        evilThenGood goodCall := resultAt_ne (by decide +kernel)
  have redirected : brief.resultAt (browser.network (moved "Mallory")) (twice 20) (firstCall 20) ≠
      brief.resultAt (browser.network (moved "Trudy")) (twice 20) (firstCall 20) :=
    resultAt_ne (by decide +kernel)
  have unclaimed (name : String) :
      brief.Unclaimed hostOf? goodHost (browser.network (moved name)) (twice 20) := by
    intro i foreign
    exact absurd (by revert i; decide +kernel) foreign
  have expired : (brief.resultAt (browser.network renamed) (twice 20) (secondCall 20)).toOption ≠
      (brief.resultAt (browser.network renamed) (twice 9000) (secondCall 9000)).toOption := by
    decide +kernel
  exact ⟨⟨claiming_alike _ _ _, by decide +kernel, claimed⟩,
    ⟨moved_alike _ _ _, unclaimed _, unclaimed _, redirected⟩, rfl,
    fun same => expired (congrArg Except.toOption same)⟩

end Repository

end FollowClient
