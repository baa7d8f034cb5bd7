import FollowClient.Net.Address
import FollowClient.Profile.Basic

/-!
The cache of actor profiles. A profile is kept under the URL that was asked for and under its own
id; slashes at the end of a key do not count. Handles of one cache share its entries, and each looks
at them with its own time to live: an entry is fresh while its age is below that.
-/

namespace FollowClient

/-- A cached profile, and when it was put there. -/
structure CachedProfile where
  profile : Profile
  cachedAt : Nat
  deriving DecidableEq, Repr

/-- The entries of a cache by key. -/
abbrev ActorCache := List (String × CachedProfile)

namespace ActorCache

/-- The key of a URL. -/
abbrev key (url : String) : String := Net.baseOf url

theorem key_trim (url : String) : key (Text.trim url) = key url := Net.baseOf_trim url

/-- The entry is fresh at `now` for a time to live, both in milliseconds. -/
def isFresh (ttl : Int) (now : Nat) (e : CachedProfile) : Bool :=
  (now : Int) - e.cachedAt < ttl

/-! ### Single keys -/

/-- The entry under a key. -/
def find? (cache : ActorCache) (k : String) : Option CachedProfile := cache.lookup k

/-- The cache without a key. -/
def erase (cache : ActorCache) (k : String) : ActorCache := cache.filter fun e => e.1 ≠ k

/-- The cache with an entry under a key, in place of an earlier one. -/
def put (cache : ActorCache) (k : String) (e : CachedProfile) : ActorCache :=
  (k, e) :: cache.erase k

/-! ### Looking up -/

/-- What a look under a key finds. -/
inductive Found where
  | fresh (profile : Profile)
  | expired
  | nothing
  deriving DecidableEq, Repr

/-- The first part of a look-up: it only reads. -/
def look (ttl : Int) (now : Nat) (k : String) (cache : ActorCache) : Found :=
  match cache.find? k with
  | some e => if isFresh ttl now e then .fresh e.profile else .expired
  | none => .nothing

/-- The second part of a look-up: a key that was found expired is dropped. -/
def settleLook (found : Found) (k : String) (cache : ActorCache) : ActorCache :=
  match found with
  | .expired => cache.erase k
  | _ => cache

/-- The profile that was found. -/
def Found.profile? : Found → Option Profile
  | .fresh p => some p
  | _ => none

/-- Looks a URL up: a fresh profile is found, an expired one is dropped. -/
def get (ttl : Int) (now : Nat) (url : String) (cache : ActorCache) : Option Profile × ActorCache :=
  let found := look ttl now (key url) cache
  (found.profile?, settleLook found (key url) cache)

/-! ### Inserting -/

/-- The cache without its expired entries. -/
def sweep (ttl : Int) (now : Nat) (cache : ActorCache) : ActorCache :=
  cache.filter fun e => isFresh ttl now e.2

/-- Keeps a profile under the URL that was asked for and under its id; expired entries are swept
first. -/
def insert (ttl : Int) (now : Nat) (url : String) (p : Profile) (cache : ActorCache) : ActorCache :=
  ((cache.sweep ttl now).put (key url) ⟨p, now⟩).put (key p.id) ⟨p, now⟩

theorem get_trim (ttl : Int) (now : Nat) (url : String) (cache : ActorCache) :
    cache.get ttl now (Text.trim url) = cache.get ttl now url := by
  rw [get, key_trim, get]

theorem insert_trim (ttl : Int) (now : Nat) (url : String) (p : Profile) (cache : ActorCache) :
    cache.insert ttl now (Text.trim url) p = cache.insert ttl now url p := by
  rw [insert, key_trim, insert]

/-- The default time to live: five minutes. -/
def defaultTtl : Int := 300000

/-! ### What the operations do to single keys -/

theorem find?_cons (k k' : String) (e : CachedProfile) (cache : ActorCache) :
    find? ((k, e) :: cache) k' = if k' = k then some e else cache.find? k' := by
  unfold find?
  rw [List.lookup_cons]
  by_cases h : k' = k
  · simp [h]
  · simp [h, beq_eq_false_iff_ne.2 h]

theorem find?_erase (cache : ActorCache) (k k' : String) :
    (cache.erase k).find? k' = if k' = k then none else cache.find? k' := by
  induction cache with
  | nil => simp [erase, find?]
  | cons e rest ih =>
    obtain ⟨k₀, e⟩ := e
    by_cases h₀ : k₀ = k
    · subst h₀
      rw [show erase ((k₀, e) :: rest) k₀ = erase rest k₀ by simp [erase], ih, find?_cons]
      split <;> rfl
    · rw [show erase ((k₀, e) :: rest) k = (k₀, e) :: erase rest k by simp [erase, h₀],
        find?_cons, find?_cons, ih]
      by_cases h : k' = k₀
      · subst h; simp [h₀]
      · simp [h]

theorem find?_put (cache : ActorCache) (k k' : String) (e : CachedProfile) :
    (cache.put k e).find? k' = if k' = k then some e else cache.find? k' := by
  rw [put, find?_cons, find?_erase]
  split <;> rfl

end ActorCache

end FollowClient
