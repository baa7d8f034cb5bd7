import FollowClient.Json.Record
import FollowClient.Net.Exchange
import FollowClient.Policy

/-!
What a relay knows about the network: other relays and peers. The two lists are asked for one by
one, and one that cannot be had is empty.
-/

namespace FollowClient

open Net Json

/-- The relays and peers that a relay knows. -/
structure RelayPreview where
  relays : List String
  peers : List String
  deriving DecidableEq, Repr

/-- An entry of a list of relays. -/
structure RelayEntry where
  relayUrl : Option String
  relayBaseUrl : Option String
  base : Option String
  deriving DecidableEq, Repr

/-- The answer that lists relays, under one of two names. -/
structure RelayList where
  relays : Option (List RelayEntry)
  items : Option (List RelayEntry)
  deriving DecidableEq, Repr

/-- The answer that lists peers: their user names, where they are known. -/
structure PeerList where
  items : List (Option String)
  deriving DecidableEq, Repr

namespace RelayEntry

/-- The fields in order. -/
def names : List String := ["relay_url", "relay_base_url", "base"]

/-- Reads an entry. -/
def ofJson? (v : Json) : Option RelayEntry :=
  match v.fields? names true with
  | some [relayUrl, relayBaseUrl, base] => do
    let relayUrl ← nullable? str? relayUrl
    let relayBaseUrl ← nullable? str? relayBaseUrl
    let base ← nullable? str? base
    pure { relayUrl, relayBaseUrl, base }
  | _ => none

/-- The URL of an entry: the first of its three texts that is not blank. -/
def url? (e : RelayEntry) : Option String :=
  (([e.relayBaseUrl, e.relayUrl, e.base].filterMap id).map Text.trim).find? (!·.isEmpty)

end RelayEntry

namespace RelayList

/-- The shape of the answer. -/
def shape : Shape :=
  let entries := Shape.items (.fields (RelayEntry.names.map fun n => (n, .any)))
  .fields [("relays", entries), ("items", entries)]

/-- Reads the answer. -/
def ofJson? (v : Json) : Option RelayList :=
  match v.fields? ["relays", "items"] true with
  | some [relays, items] => do
    let relays ← nullable? (list? RelayEntry.ofJson?) relays
    let items ← nullable? (list? RelayEntry.ofJson?) items
    pure { relays, items }
  | _ => none

/-- The entries that count: those under the first name, if they are there. -/
def entries (l : RelayList) : List RelayEntry := (l.relays.or l.items).getD []

end RelayList

namespace PeerList

/-- The shape of the answer. -/
def shape : Shape := .fields [("items", .items (.fields [("username", .any)]))]

/-- Reads the user name of a peer. -/
def username? (v : Json) : Option (Option String) :=
  match v.fields? ["username"] false with
  | some [name] => nullable? str? name
  | _ => none

/-- Reads the answer. -/
def ofJson? (v : Json) : Option PeerList :=
  match v.fields? ["items"] false with
  | some [items] => (withDefault? [] (list? username?) items).map PeerList.mk
  | _ => none

end PeerList

namespace Relay

/-- The texts that do not occur earlier, in order; `seen` are those before. -/
def firstOccurrences (seen : List String) : List String → List String
  | [] => []
  | t :: rest =>
    if t ∈ seen then firstOccurrences seen rest else t :: firstOccurrences (t :: seen) rest

/-- The texts that are not blank, trimmed, each once and in the order of their first
occurrence. -/
def distinct (texts : List String) : List String :=
  firstOccurrences [] ((texts.map Text.trim).filter (!·.isEmpty))

/-- Fetches an answer of a relay. -/
def fetch {α : Type} (timeout : Nat) (url : String) (shape : Shape) (read : Json → Option α) :
    Exchange α := do
  let r ← sendForSuccess timeout (.get url [("accept", "*/*")])
  match (r.json? shape).bind read with
  | some a => pure a
  | none => Exchange.fail (.decode ("Failed to parse " ++ url ++ ": " ++ badBody))

/-- The relays that a relay knows. -/
def fetchRelays (timeout : Nat) (base : String) : Exchange (List String) := do
  let l ← fetch timeout (base ++ "/_fedi3/relay/relays") RelayList.shape RelayList.ofJson?
  pure (distinct (l.entries.filterMap RelayEntry.url?))

/-- The peers that a relay knows. -/
def fetchPeers (timeout : Nat) (base : String) : Exchange (List String) := do
  let l ← fetch timeout (base ++ "/_fedi3/relay/peers") PeerList.shape PeerList.ofJson?
  pure (distinct (l.items.filterMap id))

/-- The list of a result, empty if there is none. -/
def listOf (result : Except Failure (List String)) : List String :=
  (settle .relayPreview result).value?.getD []

/-- Both lists of a relay. -/
def preview (timeout : Nat) (relay : String) : Exchange RelayPreview := do
  let base := baseOf relay
  let relays ← (fetchRelays timeout base).attempt
  let peers ← (fetchPeers timeout base).attempt
  pure ⟨listOf relays, listOf peers⟩

end Relay

end FollowClient
