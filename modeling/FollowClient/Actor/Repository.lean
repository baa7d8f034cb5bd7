import FollowClient.Actor.Cache
import FollowClient.Net.Exchange
import FollowClient.Profile.Activity

/-!
The repository of remote actors: it fetches actor documents, the sizes of collections and outboxes.
Actors are kept in a cache; what does not exist and what fails is not kept.
-/

namespace FollowClient

open Net

/-- How actors are fetched. -/
structure Repository where
  userAgent : String
  /-- How long an answer is waited for, in milliseconds. -/
  timeout : Nat
  /-- How long a cached actor is fresh, in milliseconds. -/
  ttl : Int
  deriving DecidableEq, Repr

namespace Repository

/-- The user agent that is named when nothing else is asked for. -/
def defaultUserAgent : String := "fedi3-follow/0.1.0"

/-- The time to live of cached actors when nothing else is asked for, in seconds. -/
def defaultTtlSecs : Nat := 300

/-- The time that an answer is waited for when nothing else is asked for, in milliseconds. -/
def defaultTimeout : Nat := 10000

/-- The longest time to live, in seconds: its milliseconds fit sixty-four bits with a sign. -/
def maxTtlSecs : Nat := 9223372036854775

/-- Sets up a repository; the user agent must be a header value and the time to live in range. -/
def create (userAgent : String) (timeout ttlSecs : Nat) : Except Failure Repository :=
  if !isHeaderValue userAgent then
    .error (.internal "Failed to create HTTP client: builder error")
  else if maxTtlSecs < ttlSecs then
    .error (.config
      "Invalid cache TTL: Source duration value is out of range for the target type")
  else .ok ⟨userAgent, timeout, 1000 * (ttlSecs : Int)⟩

/-! ### Documents -/

/-- The forms of a document that are asked for. -/
def accepted : String :=
  "application/activity+json, application/ld+json; " ++
    "profile=\"https://www.w3.org/ns/activitystreams\""

/-- The message that asks for a document. -/
def documentMessage (repo : Repository) (url : String) : Message :=
  .get url [("accept", accepted), ("user-agent", repo.userAgent)]

/-- The document that a response holds, none if the response says that there is none. -/
def documentOf (url : String) (r : Response) : Except Failure (Option Json) :=
  if r.status = 404 ∨ r.status = 410 then .ok none
  else if !r.isSuccess then .error (.status r.status url)
  else
    match r.json? .any with
    | some doc => .ok (some doc)
    | none => .error (.decode ("Invalid document from " ++ url ++ ": " ++ badBody))

/-- Fetches a document that may not exist. -/
def fetchDocument (repo : Repository) (url : String) : Exchange (Option Json) := do
  let r ← send repo.timeout (repo.documentMessage url)
  Exchange.ofExcept (documentOf url r)

/-- Fetches a document that has to exist. -/
def requireDocument (repo : Repository) (url : String) : Exchange Json := do
  match ← repo.fetchDocument url with
  | some doc => pure doc
  | none => Exchange.fail (.notFound url)

/-! ### Actors -/

/-- Fetches an actor from the network. -/
def fetchActor (repo : Repository) (url : String) : Exchange (Option Profile) := do
  match ← repo.fetchDocument url with
  | none => pure none
  | some doc => Exchange.ofExcept ((Profile.ofDocument doc).map some)

/-- What a repository without a cache answers. -/
def uncachedActor (repo : Repository) (url : String) : Exchange (Option Profile) :=
  if Text.isBlankText url then Exchange.fail Failure.blankActor
  else repo.fetchActor (Text.trim url)

theorem uncachedActor_of_blank {repo : Repository} {url : String}
    (h : Text.isBlankText url = true) :
    repo.uncachedActor url = Exchange.fail Failure.blankActor := by
  rw [uncachedActor, if_pos h]

theorem uncachedActor_of_not_blank {repo : Repository} {url : String}
    (h : Text.isBlankText url = false) :
    repo.uncachedActor url = repo.fetchActor (Text.trim url) := by
  rw [uncachedActor, if_neg (by simp [h])]

/-- Asks for an actor: from the cache if it is there and fresh when it is asked for, else from the
network, whose answer has come at another time. The cache changes also when the actor cannot be
had. -/
def getActorBetween (repo : Repository) (asked answered : Nat) (url : String) (cache : ActorCache) :
    Exchange (Except Failure (Option Profile) × ActorCache) :=
  if Text.isBlankText url then pure (.error Failure.blankActor, cache)
  else
    let url := Text.trim url
    match cache.get repo.ttl asked url with
    | (some p, cache) => pure (.ok (some p), cache)
    | (none, cache) => do
      match ← (repo.fetchActor url).attempt with
      | .ok (some p) => pure (.ok (some p), cache.insert repo.ttl answered url p)
      | result => pure (result, cache)

/-- Asks for an actor where an answer of the network is there at once. -/
def getActor (repo : Repository) (now : Nat) (url : String) (cache : ActorCache) :
    Exchange (Except Failure (Option Profile) × ActorCache) :=
  repo.getActorBetween now now url cache

/-! ### Collections -/

/-- Fetches the size of a collection. -/
def fetchCount (repo : Repository) (url : String) : Exchange Nat := do
  let doc ← repo.requireDocument url
  match (doc.get? "totalItems").bind Json.nat? with
  | some n => pure n
  | none => Exchange.fail (.decode (url ++ " has no totalItems"))

/-- Where the activities of an outbox are that lists none itself. -/
inductive FirstPage where
  /-- The page has been embedded, and lists these. -/
  | embedded (items : List Activity)
  /-- The page has to be fetched. -/
  | linked (url : String)
  | none

/-- The first page of an outbox: a link, or an embedded page; one that lists nothing is fetched from
its id, unless that is the outbox again. -/
def firstPage (outboxUrl : String) (outbox : Json) (limit : Nat) : FirstPage :=
  match outbox.get? "first" with
  | some (.str url) => .linked url
  | some (.obj members) =>
    let page := Json.obj members
    match Activity.ofPage page limit with
    | [] =>
      match (page.get? "id").bind Json.str? with
      | some url => if url = outboxUrl then .none else .linked url
      | Option.none => .none
    | items => .embedded items
  | _ => .none

/-- Fetches at most `limit` activities of an outbox, with at most one further page. -/
def fetchOutbox (repo : Repository) (url : String) (limit : Nat) : Exchange (List Activity) := do
  let outbox ← repo.requireDocument url
  match Activity.ofPage outbox limit with
  | [] =>
    match firstPage url outbox limit with
    | .embedded items => pure items
    | .linked page => do
      let page ← repo.requireDocument page
      pure (Activity.ofPage page limit)
    | .none => pure []
  | items => pure items

end Repository

end FollowClient
