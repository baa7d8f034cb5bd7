import FollowClient.Actor.Repository

/-!
How an outbox is fetched. What asks for documents is a plan: it ends with a value, or it fetches a
document and goes on with it, so that a run has a list of fetches, and it fails exactly with the
failure of one of them (`run_eq_error_iff`).

The plan for an outbox comes down to the first source that lists anything (`afterOutbox_of_source`):
the outbox itself, a page within it, or a page that it names, in this order. From this come the laws
of `fetchOutbox_loads`: whatever the documents say, at most two are fetched.
-/

namespace FollowClient

open Net

/-! ### Plans -/

/-- A document that was asked for, and what came of it. -/
structure Fetch where
  url : String
  answer : Except Failure (Option Json)

/-- Why a fetch gives no document: it has failed, or there is none at this place. -/
def Fetch.failure? (x : Fetch) : Option Failure :=
  match x.answer with
  | .ok (some _) => none
  | .ok none => some (.notFound x.url)
  | .error f => some f

/-- What is to be done with documents that have to be fetched first. -/
inductive Plan (α : Type) where
  | done (a : α)
  | fetch (url : String) (next : Json → Plan α)

namespace Plan

variable {α : Type}

/-- Carries a plan out. -/
def run (repo : Repository) : Plan α → Exchange α
  | done a => pure a
  | fetch url next => do
    let doc ← repo.requireDocument url
    (next doc).run repo

/-- The fetches of a run, up to the first that gives no document. -/
def fetches (repo : Repository) (net : Network) : Plan α → List Request → List Fetch
  | done _, _ => []
  | fetch url next, sent =>
    let (answer, sent) := repo.fetchDocument url net sent
    ⟨url, answer⟩ ::
      match answer with
      | .ok (some doc) => (next doc).fetches repo net sent
      | _ => []

/-- A plan that takes at most so many fetches, whatever the documents are. -/
def AtMost : Plan α → Nat → Prop
  | done _, _ => True
  | fetch _ _, 0 => False
  | fetch _ next, n + 1 => ∀ doc, (next doc).AtMost n

/-- A plan that can end only with values that have a property. -/
def Every (P : α → Prop) : Plan α → Prop
  | done a => P a
  | fetch _ next => ∀ doc, (next doc).Every P

section Run

variable (repo : Repository) (net : Network) (url : String) (next : Json → Plan α)
  (sent sent' : List Request)

theorem run_fetch :
    (fetch url next).run repo net sent =
      match repo.fetchDocument url net sent with
      | (.ok (some doc), sent) => (next doc).run repo net sent
      | (.ok none, sent) => (.error (.notFound url), sent)
      | (.error f, sent) => (.error f, sent) := by
  rw [run, Exchange.bind_apply, Repository.requireDocument, Exchange.bind_apply]
  rcases repo.fetchDocument url net sent with ⟨f | (_ | doc), sent⟩ <;> rfl

theorem head?_fetches :
    ((fetch url next).fetches repo net sent).head? =
      some ⟨url, (repo.fetchDocument url net sent).1⟩ := by
  rw [fetches]
  rcases repo.fetchDocument url net sent with ⟨answer, sent⟩
  rfl

variable {repo net url sent sent'}

theorem run_fetch_of_document {doc : Json}
    (h : repo.fetchDocument url net sent = (.ok (some doc), sent')) :
    (fetch url next).run repo net sent = (next doc).run repo net sent' := by
  rw [run_fetch, h]

theorem fetches_of_document {doc : Json}
    (h : repo.fetchDocument url net sent = (.ok (some doc), sent')) :
    (fetch url next).fetches repo net sent =
      ⟨url, .ok (some doc)⟩ :: (next doc).fetches repo net sent' := by
  simp only [fetches, h]

/-- A run fails exactly if one of its fetches does, and then as that one. -/
theorem run_eq_error_iff (plan : Plan α) (f : Failure) :
    (plan.run repo net sent).1 = .error f ↔
      ∃ x ∈ plan.fetches repo net sent, x.failure? = some f := by
  induction plan generalizing sent with
  | done a => simp [run, fetches]
  | fetch url next ih =>
    rw [run_fetch, fetches]
    rcases repo.fetchDocument url net sent with ⟨g | (_ | doc), sent'⟩
    · simp [Fetch.failure?]
    · simp [Fetch.failure?]
    · simp [Fetch.failure?, ih]

theorem AtMost.length_fetches_le {plan : Plan α} {n : Nat} (h : plan.AtMost n) :
    (plan.fetches repo net sent).length ≤ n := by
  induction plan generalizing n sent with
  | done a => exact Nat.zero_le _
  | fetch url next ih =>
    cases n with
    | zero => cases h
    | succ n =>
      rw [fetches]
      dsimp only
      rw [List.length_cons]
      apply Nat.succ_le_succ
      split
      · next doc _ => exact ih doc (h doc)
      · exact Nat.zero_le _

theorem Every.of_run {P : α → Prop} {plan : Plan α} (h : plan.Every P) {a : α}
    (ok : (plan.run repo net sent).1 = .ok a) : P a := by
  induction plan generalizing sent with
  | done b =>
    obtain rfl : b = a := Except.ok.inj ok
    exact h
  | fetch url next ih =>
    rw [run_fetch] at ok
    split at ok
    · next doc _ _ => exact ih doc (h doc) ok
    · cases ok
    · cases ok

end Run

end Plan

/-! ### Where the activities of an outbox are -/

/-- All entries of a page. -/
def Activity.entries (page : Json) : List Activity := (itemsOf page).filterMap ofItem?

theorem Activity.ofPage_eq_nil_iff {page : Json} {limit : Nat} (h : 1 ≤ limit) :
    ofPage page limit = [] ↔ entries page = [] := by
  rw [ofPage, List.take_eq_nil_iff, entries]
  constructor
  · rintro (empty | empty)
    · omega
    · exact empty
  · exact .inr

namespace Outbox

/-- A place for the activities of an outbox. -/
inductive Source where
  /-- A page that is at hand. -/
  | atHand (page : Json)
  /-- A page that has to be fetched. -/
  | linked (url : String)
  | nowhere

/-- The first place of an outbox, at `url`, to look for activities. -/
inductive FirstSource (url : String) (outbox : Json) : Source → Prop where
  /-- The outbox lists some itself. -/
  | itself (listed : Activity.entries outbox ≠ []) : FirstSource url outbox (.atHand outbox)
  /-- Its first page has been embedded, and lists some. -/
  | embedded {members : List (String × Json)} (unlisted : Activity.entries outbox = [])
    (first : outbox.get? "first" = some (.obj members))
    (within : Activity.entries (.obj members) ≠ []) :
    FirstSource url outbox (.atHand (.obj members))
  /-- Its first page is named. -/
  | named {page : String} (unlisted : Activity.entries outbox = [])
    (first : outbox.get? "first" = some (.str page)) : FirstSource url outbox (.linked page)
  /-- Its first page has been embedded without any, and has an id that is not the outbox. -/
  | identified {members : List (String × Json)} {page : String}
    (unlisted : Activity.entries outbox = []) (first : outbox.get? "first" = some (.obj members))
    (empty : Activity.entries (.obj members) = [])
    (id : (Json.obj members).get? "id" = some (.str page)) (other : page ≠ url) :
    FirstSource url outbox (.linked page)
  /-- Nothing is listed, and there is no first page, or one without any and without such an id. -/
  | nothing (unlisted : Activity.entries outbox = [])
    (unnamed : ∀ page, outbox.get? "first" ≠ some (.str page))
    (exhausted : ∀ members, outbox.get? "first" = some (.obj members) →
      Activity.entries (.obj members) = [] ∧
      ∀ page, (Json.obj members).get? "id" = some (.str page) → page = url) :
    FirstSource url outbox .nowhere

theorem exists_firstSource (url : String) (outbox : Json) :
    ∃ source, FirstSource url outbox source := by
  by_cases listed : Activity.entries outbox = []
  case neg => exact ⟨_, .itself listed⟩
  cases first : outbox.get? "first" with
  | none => exact ⟨_, .nothing listed (by simp [first]) (by simp [first])⟩
  | some v =>
    cases v with
    | str page => exact ⟨_, .named listed first⟩
    | obj members =>
      by_cases inside : Activity.entries (.obj members) = []
      case neg => exact ⟨_, .embedded listed first inside⟩
      by_cases other : ∃ page, (Json.obj members).get? "id" = some (.str page) ∧ page ≠ url
      · obtain ⟨page, id, ne⟩ := other
        exact ⟨_, .identified listed first inside id ne⟩
      · refine ⟨_, .nothing listed (by simp [first]) fun ms hms => ?_⟩
        obtain rfl : members = ms := by simpa [first] using hms
        refine ⟨inside, fun page id => ?_⟩
        by_cases same : page = url
        · exact same
        · exact absurd ⟨page, id, same⟩ other
    | _ => exact ⟨_, .nothing listed (by simp [first]) (by simp [first])⟩

/-- What is to be done about a source. -/
def Source.plan (limit : Nat) : Source → Plan (List Activity)
  | .atHand page => .done (Activity.ofPage page limit)
  | .linked url => .fetch url fun page => .done (Activity.ofPage page limit)
  | .nowhere => .done []

/-- What the fetches of an outbox and their result are for a source: only a page that is not at hand
is fetched besides the outbox. -/
def Source.Yields (limit : Nat) (made : List Fetch) (result : Except Failure (List Activity)) :
    Source → Prop
  | .atHand page => made.length = 1 ∧ result = .ok ((Activity.entries page).take limit)
  | .linked url => ∃ x, made.tail = [x] ∧ x.url = url ∧
    ∀ page, x.answer = .ok (some page) → result = .ok ((Activity.entries page).take limit)
  | .nowhere => made.length = 1 ∧ result = .ok []

end Outbox

open Outbox

namespace Repository

/-- What is done with an outbox that has been fetched. -/
def afterOutbox (url : String) (limit : Nat) (outbox : Json) : Plan (List Activity) :=
  match Activity.ofPage outbox limit with
  | [] =>
    match firstPage url outbox limit with
    | .embedded items => .done items
    | .linked page => .fetch page fun doc => .done (Activity.ofPage doc limit)
    | .none => .done []
  | items => .done items

/-- What is done to fetch an outbox. -/
def outboxPlan (url : String) (limit : Nat) : Plan (List Activity) :=
  .fetch url (afterOutbox url limit)

theorem fetchOutbox_eq_run (repo : Repository) (url : String) (limit : Nat) :
    repo.fetchOutbox url limit = (outboxPlan url limit).run repo := by
  have after : ∀ outbox, (afterOutbox url limit outbox).run repo =
      match Activity.ofPage outbox limit with
      | [] =>
        match firstPage url outbox limit with
        | .embedded items => pure items
        | .linked page => do
          let page ← repo.requireDocument page
          pure (Activity.ofPage page limit)
        | .none => pure []
      | items => pure items := by
    intro outbox
    unfold afterOutbox
    split
    · split <;> rfl
    · rfl
  rw [fetchOutbox, outboxPlan, Plan.run]
  congr 1
  funext outbox
  exact (after outbox).symm

section After

variable {url : String} {limit : Nat} {outbox : Json}

theorem afterOutbox_of_listed (listed : Activity.ofPage outbox limit ≠ []) :
    afterOutbox url limit outbox = .done (Activity.ofPage outbox limit) := by
  unfold afterOutbox
  split
  · next unlisted => exact absurd unlisted listed
  · rfl

theorem afterOutbox_of_unlisted (unlisted : Activity.ofPage outbox limit = []) :
    afterOutbox url limit outbox =
      match firstPage url outbox limit with
      | .embedded items => .done items
      | .linked page => .fetch page fun doc => .done (Activity.ofPage doc limit)
      | .none => .done [] := by
  rw [afterOutbox, unlisted]

/-- What an embedded page comes to. -/
theorem firstPage_of_obj {members : List (String × Json)}
    (first : outbox.get? "first" = some (.obj members)) :
    firstPage url outbox limit =
      if Activity.ofPage (.obj members) limit = [] then
        match ((Json.obj members).get? "id").bind Json.str? with
        | some page => if page = url then .none else .linked page
        | none => .none
      else .embedded (Activity.ofPage (.obj members) limit) := by
  unfold firstPage
  rw [first]
  dsimp only
  split
  · next empty => exact (if_pos empty).symm
  · next filled => exact (if_neg filled).symm

/-- An outbox is loaded from its first source. -/
theorem afterOutbox_of_source (h : 1 ≤ limit) {source : Source}
    (first : FirstSource url outbox source) :
    afterOutbox url limit outbox = source.plan limit := by
  have empty : ∀ page, Activity.entries page = [] → Activity.ofPage page limit = [] := fun _ =>
    (Activity.ofPage_eq_nil_iff h).2
  have filled : ∀ page, Activity.entries page ≠ [] → Activity.ofPage page limit ≠ [] := by
    intro page lists kept
    exact lists ((Activity.ofPage_eq_nil_iff h).1 kept)
  cases first with
  | itself listed => exact afterOutbox_of_listed (filled _ listed)
  | embedded unlisted first within =>
    rw [afterOutbox_of_unlisted (empty _ unlisted), firstPage_of_obj first,
      if_neg (filled _ within)]
    rfl
  | named unlisted first =>
    rw [afterOutbox_of_unlisted (empty _ unlisted), firstPage, first]
    rfl
  | identified unlisted first without id other =>
    rw [afterOutbox_of_unlisted (empty _ unlisted), firstPage_of_obj first,
      if_pos (empty _ without), Json.bind_str?_eq_some_iff.2 id]
    dsimp only
    rw [if_neg other]
    rfl
  | nothing unlisted unnamed exhausted =>
    have last : firstPage url outbox limit = .none := by
      cases first : outbox.get? "first" with
      | none => rw [firstPage, first]
      | some v =>
        cases v with
        | str page => exact absurd first (unnamed page)
        | obj members =>
          obtain ⟨without, own⟩ := exhausted members first
          rw [firstPage_of_obj first, if_pos (empty _ without)]
          split
          · next page id => rw [if_pos (own page (Json.bind_str?_eq_some_iff.1 id))]
          · rfl
        | _ => rw [firstPage, first]
    rw [afterOutbox_of_unlisted (empty _ unlisted), last]
    rfl

end After

/-! ### Loading an outbox -/

/-- The fetches that an outbox takes. -/
def outboxFetches (repo : Repository) (net : Network) (sent : List Request) (url : String)
    (limit : Nat) : List Fetch :=
  (outboxPlan url limit).fetches repo net sent

/-- How an outbox is loaded. -/
structure Loads (repo : Repository) (net : Network) (sent : List Request) (url : String)
    (limit : Nat) : Prop where
  /-- It is loaded as planned, with the fetches of the plan. -/
  planned : repo.fetchOutbox url limit = (outboxPlan url limit).run repo
  /-- The first of them is that of the outbox. -/
  outboxFirst : (outboxFetches repo net sent url limit).head?.map Fetch.url = some url
  atMostTwo : (outboxFetches repo net sent url limit).length ≤ 2
  /-- The first source of the outbox decides on the rest. -/
  fromSource (outbox : Json)
      (came : (outboxFetches repo net sent url limit).head?.map Fetch.answer =
        some (.ok (some outbox))) :
    (∃ source, FirstSource url outbox source) ∧
    ∀ source, FirstSource url outbox source →
      source.Yields limit (outboxFetches repo net sent url limit)
        (repo.fetchOutbox url limit net sent).1
  limited (items : List Activity) (ok : (repo.fetchOutbox url limit net sent).1 = .ok items) :
    items.length ≤ limit
  /-- It fails exactly if one of the fetches fails or finds nothing. -/
  failed (f : Failure) : (repo.fetchOutbox url limit net sent).1 = .error f ↔
    ∃ x ∈ outboxFetches repo net sent url limit, x.failure? = some f

section Load

variable {repo : Repository} {net : Network} {sent sent' : List Request} {url : String}
  {limit : Nat} {outbox : Json}

theorem outboxFetches_of_document
    (came : repo.fetchDocument url net sent = (.ok (some outbox), sent')) :
    outboxFetches repo net sent url limit =
      ⟨url, .ok (some outbox)⟩ :: (afterOutbox url limit outbox).fetches repo net sent' := by
  rw [outboxFetches, outboxPlan, Plan.fetches_of_document _ came]

theorem yields_of_document (h : 1 ≤ limit)
    (came : repo.fetchDocument url net sent = (.ok (some outbox), sent')) {source : Source}
    (first : FirstSource url outbox source) :
    source.Yields limit (outboxFetches repo net sent url limit)
      (repo.fetchOutbox url limit net sent).1 := by
  rw [fetchOutbox_eq_run, outboxFetches_of_document came, outboxPlan,
    Plan.run_fetch_of_document _ came, afterOutbox_of_source h first]
  cases source with
  | atHand page => exact ⟨rfl, rfl⟩
  | nowhere => exact ⟨rfl, rfl⟩
  | linked page =>
    rw [Source.plan, Plan.run_fetch, Plan.fetches]
    rcases repo.fetchDocument page net sent' with ⟨f | (_ | doc), sent⟩
    · exact ⟨_, rfl, rfl, nofun⟩
    · exact ⟨_, rfl, rfl, nofun⟩
    · refine ⟨_, rfl, rfl, fun page same => ?_⟩
      obtain rfl : doc = page := by simpa using same
      rfl

/-- What is left to do after the outbox is at most one fetch. -/
theorem atMost_outboxPlan (url : String) (h : 1 ≤ limit) : (outboxPlan url limit).AtMost 2 := by
  intro outbox
  obtain ⟨source, first⟩ := exists_firstSource url outbox
  rw [afterOutbox_of_source h first]
  cases source with
  | atHand page => trivial
  | linked page => exact fun _ => trivial
  | nowhere => trivial

/-- A result is cut from one page, or empty. -/
theorem every_outboxPlan (url : String) (h : 1 ≤ limit) :
    (outboxPlan url limit).Every fun items => items.length ≤ limit := by
  intro outbox
  obtain ⟨source, first⟩ := exists_firstSource url outbox
  rw [afterOutbox_of_source h first]
  cases source with
  | atHand page => exact List.length_take_le _ _
  | linked page => exact fun _ => List.length_take_le _ _
  | nowhere => exact Nat.zero_le _

end Load

/-- **An outbox is loaded from its first source**, whatever the network answers: from the outbox
itself, a page within it, or a page that it names, with one more fetch for the last of these and no
other. It fails exactly if one of its fetches does, and never gives more than it was asked for. -/
theorem fetchOutbox_loads (repo : Repository) (net : Network) (sent : List Request) (url : String)
    (limit : Nat) (h : 1 ≤ limit) : Loads repo net sent url limit where
  planned := repo.fetchOutbox_eq_run url limit
  outboxFirst := by rw [outboxFetches, outboxPlan, Plan.head?_fetches, Option.map_some]
  atMostTwo := (atMost_outboxPlan url h).length_fetches_le
  fromSource outbox came := by
    refine ⟨exists_firstSource url outbox, fun source first => ?_⟩
    rw [outboxFetches, outboxPlan, Plan.head?_fetches] at came
    have answered : (repo.fetchDocument url net sent).1 = .ok (some outbox) := Option.some.inj came
    exact yields_of_document h (Prod.ext answered rfl) first
  limited items ok := by
    rw [fetchOutbox_eq_run] at ok
    exact (every_outboxPlan url h).of_run ok
  failed f := by
    rw [fetchOutbox_eq_run]
    exact Plan.run_eq_error_iff _ f

/-- A repository with the default timeout. -/
def patient : Repository := ⟨defaultUserAgent, defaultTimeout, 300000⟩

/-- The text of a page with one activity, behind some other members. -/
def pageWith (members id : String) : String :=
  "\x7b" ++ members ++ "\"orderedItems\":[\"" ++ id ++ "\"]\x7d"

/-- An outbox for each kind of source. The last two lead back to themselves; any other document is a
page with one activity. -/
def outboxText : String → String
  | "http://b.test/listing" => pageWith "\"first\":\"http://b.test/page\"," "listed"
  | "http://b.test/embedding" => "\x7b\"first\":" ++ pageWith "" "embedded" ++ "\x7d"
  | "http://b.test/naming" => "\x7b\"first\":\"http://b.test/page\"\x7d"
  | "http://b.test/identifying" => "\x7b\"first\":\x7b\"id\":\"http://b.test/page\"\x7d\x7d"
  | "http://b.test/empty" => "\x7b\x7d"
  | "http://b.test/circle" => "\x7b\"first\":\"http://b.test/circle\"\x7d"
  | "http://b.test/echo" => "\x7b\"first\":\x7b\"id\":\"http://b.test/echo\"\x7d\x7d"
  | _ => pageWith "" "paged"

/-- A network with these documents. -/
def outboxes : Network := .constant fun r =>
  .response 0 200 (.whole (outboxText r.url).toUTF8.toList)

/-- The documents that an outbox of this network takes, and the activities that it gives. -/
def loadedFrom (url : String) : List String × Option (List String) :=
  ((outboxFetches patient outboxes [] url 20).map Fetch.url,
    (patient.fetchOutbox url 20 outboxes []).1.toOption.map (·.map Activity.id))

theorem outboxes_load :
    1 ≤ 20 ∧ Loads patient outboxes [] "http://b.test/naming" 20 ∧
    loadedFrom "http://b.test/listing" = (["http://b.test/listing"], some ["listed"]) ∧
    loadedFrom "http://b.test/embedding" = (["http://b.test/embedding"], some ["embedded"]) ∧
    loadedFrom "http://b.test/naming" =
      (["http://b.test/naming", "http://b.test/page"], some ["paged"]) ∧
    loadedFrom "http://b.test/identifying" =
      (["http://b.test/identifying", "http://b.test/page"], some ["paged"]) ∧
    loadedFrom "http://b.test/empty" = (["http://b.test/empty"], some []) ∧
    loadedFrom "http://b.test/circle" =
      (["http://b.test/circle", "http://b.test/circle"], some []) ∧
    loadedFrom "http://b.test/echo" = (["http://b.test/echo"], some []) :=
  ⟨by decide, fetchOutbox_loads _ _ _ _ 20 (by decide), by decide +kernel, by decide +kernel,
    by decide +kernel, by decide +kernel, by decide +kernel, by decide +kernel, by decide +kernel⟩

end Repository

end FollowClient
