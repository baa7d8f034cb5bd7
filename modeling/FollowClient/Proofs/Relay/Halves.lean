import FollowClient.Proofs.Net.Replies
import FollowClient.Proofs.Relay.Distinct

/-!
The two lists of a preview do not depend on each other. Each is what one reply says, and empty where
that reply says nothing (`halves_independent`): a relay whose list of relays is broken still shows
its peers, and the other way round.
-/

namespace FollowClient

open Net Json Text

/-! ### Members that may be missing -/

theorem eq_none_iff_of_nullable? {α : Type} {read : Json → Option α} {o : Option Json}
    {a : Option α} (h : nullable? read o = some a) : a = none ↔ o = none ∨ o = some .null := by
  cases o with
  | none => simp [← Option.some.inj h]
  | some v =>
    cases v with
    | null => simp [← Option.some.inj h]
    | _ =>
      obtain ⟨b, -, rfl⟩ := Option.map_eq_some_iff.1 h
      simp

theorem eq_of_nullable?_str? {o : Option Json} {t : Option String}
    (h : nullable? str? o = some t) : t = o.bind str? := by
  cases o with
  | none => exact (Option.some.inj h).symm
  | some v =>
    cases v with
    | null => exact (Option.some.inj h).symm
    | str s => exact (Option.some.inj h).symm
    | _ => cases h

/-! ### The texts of an entry -/

/-- A text that is there and not blank. -/
def nonBlank? (t : Option String) : Option String := t.filter (!isBlankText ·)

theorem nonBlank?_some (t : String) :
    nonBlank? (some t) = if isBlankText t then none else some t := by
  rw [nonBlank?, Option.filter_some]
  cases isBlankText t <;> rfl

theorem not_blank_of_nonBlank? {o : Option String} {t : String} (h : nonBlank? o = some t) :
    isBlankText t = false := by
  obtain ⟨-, ht⟩ := Option.filter_eq_some_iff.1 h
  simpa using ht

namespace RelayEntry

/-- The first text of an entry that is not blank. -/
def firstText? (e : RelayEntry) : Option String :=
  [e.relayBaseUrl, e.relayUrl, e.base].findSome? nonBlank?

theorem find?_trim (texts : List (Option String)) :
    ((texts.filterMap id).map trim).find? (!·.isEmpty) = (texts.findSome? nonBlank?).map trim := by
  induction texts with
  | nil => rfl
  | cons o rest ih =>
    cases o with
    | none => exact ih
    | some t =>
      rw [List.filterMap_cons, id, List.map_cons, List.find?_cons, isEmpty_trim,
        List.findSome?_cons, nonBlank?_some]
      cases isBlankText t with
      | false => rfl
      | true => exact ih

theorem url?_eq (e : RelayEntry) : e.url? = e.firstText?.map trim := find?_trim _

theorem not_blank_of_firstText? {e : RelayEntry} {t : String} (h : e.firstText? = some t) :
    isBlankText t = false := by
  obtain ⟨o, -, ho⟩ := List.exists_of_findSome?_eq_some h
  exact not_blank_of_nonBlank? ho

/-- In an object the texts of an entry stand under their names. -/
theorem texts_of_ofJson? {members : List (String × Json)} {e : RelayEntry}
    (h : ofJson? (.obj members) = some e) :
    e.relayBaseUrl = (lookup "relay_base_url" members).bind str? ∧
    e.relayUrl = (lookup "relay_url" members).bind str? ∧
    e.base = (lookup "base" members).bind str? := by
  change (do
    let relayUrl ← nullable? str? (lookup "relay_url" members)
    let relayBaseUrl ← nullable? str? (lookup "relay_base_url" members)
    let base ← nullable? str? (lookup "base" members)
    pure ({ relayUrl, relayBaseUrl, base } : RelayEntry)) = some e at h
  simp only [Option.bind_eq_bind, Option.bind_eq_some_iff] at h
  obtain ⟨relayUrl, hu, relayBaseUrl, hr, base, hb, he⟩ := h
  cases he
  exact ⟨eq_of_nullable?_str? hr, eq_of_nullable?_str? hu, eq_of_nullable?_str? hb⟩

end RelayEntry

namespace RelayList

/-- In an object the first list is missing only if its member is missing or `null`. -/
theorem relays_eq_none_iff {members : List (String × Json)} {l : RelayList}
    (h : ofJson? (.obj members) = some l) :
    l.relays = none ↔ lookup "relays" members = none ∨ lookup "relays" members = some .null := by
  change (do
    let relays ← nullable? (list? RelayEntry.ofJson?) (lookup "relays" members)
    let items ← nullable? (list? RelayEntry.ofJson?) (lookup "items" members)
    pure ({ relays, items } : RelayList)) = some l at h
  simp only [Option.bind_eq_bind, Option.bind_eq_some_iff] at h
  obtain ⟨relays, hr, items, -, hl⟩ := h
  cases hl
  exact eq_none_iff_of_nullable? hr

end RelayList

namespace Relay

/-! ### What a reply says -/

/-- What a reply says, if it comes in time, tells success and has a body that can be read. -/
def said? {α : Type} (timeout : Nat) (shape : Shape) (read : Json → Option α) : Reply → Option α
  | .response delay status body =>
    if delay < timeout ∧ 200 ≤ status ∧ status ≤ 299 then
      (Response.json? shape ⟨status, body⟩).bind read
    else none
  | _ => none

/-- The relays in a list: of each entry the first text that is not blank. -/
def relaysIn (l : RelayList) : List String :=
  let entries := match l.relays with
    | some entries => entries
    | none => l.items.getD []
  ((entries.filterMap RelayEntry.firstText?).map trim).eraseDups

/-- The peers in a list: the user names that are not blank. -/
def peersIn (l : PeerList) : List String := ((l.items.filterMap nonBlank?).map trim).eraseDups

theorem distinct_urls (l : RelayList) :
    distinct (l.entries.filterMap RelayEntry.url?) = relaysIn l := by
  have entries : (match l.relays with | some entries => entries | none => l.items.getD []) =
      l.entries := by
    unfold RelayList.entries
    cases l.relays <;> rfl
  have urls : l.entries.filterMap RelayEntry.url? =
      (l.entries.filterMap RelayEntry.firstText?).map trim := by
    rw [List.map_filterMap]
    exact congrArg (List.filterMap · l.entries) (funext RelayEntry.url?_eq)
  have kept : (l.entries.filterMap RelayEntry.firstText?).filter (!isBlankText ·) =
      l.entries.filterMap RelayEntry.firstText? := by
    rw [List.filter_eq_self]
    intro t ht
    obtain ⟨e, -, he⟩ := List.mem_filterMap.1 ht
    simp [RelayEntry.not_blank_of_firstText? he]
  rw [urls, distinct_map_trim, distinct_eq, kept, relaysIn, entries]

theorem distinct_names (l : PeerList) : distinct (l.items.filterMap id) = peersIn l := by
  rw [distinct_eq, List.filter_filterMap, peersIn]
  rfl

variable {timeout : Nat} {net net' : Network} {sent sent' : List Request}

theorem fetch_toOption {α : Type} {url : String} {shape : Shape} {read : Json → Option α} :
    (fetch timeout url shape read net sent).1.toOption =
      (replyTo (.get url [("accept", "*/*")]) net sent).bind (said? timeout shape read) := by
  have decoded : (fetch timeout url shape read net sent).1.toOption =
      (sendForSuccess timeout (.get url [("accept", "*/*")]) net sent).1.toOption.bind
        fun r => (r.json? shape).bind read := by
    unfold fetch
    rw [Exchange.bind_toOption]
    congr 1
    funext r
    cases (r.json? shape).bind read <;> rfl
  rw [decoded, sendForSuccess_toOption, ← Option.bind_guard, Option.bind_assoc, Option.bind_assoc]
  congr 1
  funext reply
  cases reply with
  | response delay status body =>
    by_cases late : delay < timeout <;> by_cases success : 200 ≤ status ∧ status ≤ 299 <;>
      simp [said?, Reply.inTime?, Response.isSuccess, Option.guard, late, success]
  | _ => rfl

/-! ### The two questions -/

/-- The message that asks a relay for relays. -/
def relaysMessage (relay : String) : Message :=
  .get (baseOf relay ++ "/_fedi3/relay/relays") [("accept", "*/*")]

/-- The message that asks a relay for peers. -/
def peersMessage (relay : String) : Message :=
  .get (baseOf relay ++ "/_fedi3/relay/peers") [("accept", "*/*")]

/-- The reply of a relay that is asked for relays. -/
def relaysReply (relay : String) (net : Network) (sent : List Request) : Option Reply :=
  replyTo (relaysMessage relay) net sent

/-- The reply of a relay that is asked for peers, after it was asked for relays. -/
def peersReply (timeout : Nat) (relay : String) (net : Network) (sent : List Request) :
    Option Reply :=
  replyTo (peersMessage relay) net (fetchRelays timeout (baseOf relay) net sent).2

/-- The relays of which a reply tells; none, if it says nothing. -/
def relaysSaid (timeout : Nat) (reply : Option Reply) : List String :=
  (reply.bind (said? timeout RelayList.shape RelayList.ofJson?)).elim [] relaysIn

/-- The peers of which a reply tells; none, if it says nothing. -/
def peersSaid (timeout : Nat) (reply : Option Reply) : List String :=
  (reply.bind (said? timeout PeerList.shape PeerList.ofJson?)).elim [] peersIn

theorem listOf_eq (result : Except Failure (List String)) :
    listOf result = result.toOption.getD [] := by
  cases result <;> rfl

theorem listOf_fetchRelays (relay : String) :
    listOf (fetchRelays timeout (baseOf relay) net sent).1 =
      relaysSaid timeout (relaysReply relay net sent) := by
  unfold fetchRelays
  rw [listOf_eq, Exchange.bind_toOption, fetch_toOption, relaysSaid, relaysReply, relaysMessage]
  cases (replyTo _ net sent).bind (said? timeout RelayList.shape RelayList.ofJson?) with
  | none => rfl
  | some l => exact distinct_urls l

theorem listOf_fetchPeers (relay : String) :
    listOf (fetchPeers timeout (baseOf relay) net sent).1 =
      peersSaid timeout (replyTo (peersMessage relay) net sent) := by
  unfold fetchPeers
  rw [listOf_eq, Exchange.bind_toOption, fetch_toOption, peersSaid, peersMessage]
  cases (replyTo _ net sent).bind (said? timeout PeerList.shape PeerList.ofJson?) with
  | none => rfl
  | some l => exact distinct_names l

theorem preview_ok (timeout : Nat) (relay : String) (net : Network) (sent : List Request) :
    ∃ p, (preview timeout relay net sent).1 = .ok p ∧
      p.relays = relaysSaid timeout (relaysReply relay net sent) ∧
      p.peers = peersSaid timeout (peersReply timeout relay net sent) := by
  unfold preview
  simp only [Exchange.bind_apply, Exchange.attempt_apply, Exchange.pure_apply]
  refine ⟨_, rfl, ?_, ?_⟩ <;> dsimp only
  · exact listOf_fetchRelays relay
  · exact listOf_fetchPeers relay

/-- A relay at `r.test` that answers its two questions with these bodies, and not at all where a
body is empty. -/
def relayWith (relays peers : String) : Network := .constant fun r =>
  let body := if r.url = "https://r.test/_fedi3/relay/relays" then relays
    else if r.url = "https://r.test/_fedi3/relay/peers" then peers else ""
  if body = "" then .silent else .response 0 200 (.whole body.toUTF8.toList)

/-- A list of peers, with a blank one and one twice. -/
def someNames : String :=
  "\x7b\"items\":[\x7b\"username\":\"ann\"\x7d,\x7b\"username\":\" \"\x7d,\x7b\"username\":\" ann\"\x7d]\x7d"

/-- A list of relays under the second name; the first text of the first entry is blank. -/
def someUrls : String :=
  "\x7b\"relays\":null,\"items\":[\x7b\"relay_base_url\":\" \",\"base\":\"https://b.test \"\x7d]\x7d"

end Relay

end FollowClient
