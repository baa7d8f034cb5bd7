import FollowClient.Profile.Basic

/-!
Activities in the outbox of an actor. An outbox page lists them under `orderedItems`, or under
`items` if it has no member of that name; a bare text is the id of an activity.
-/

namespace FollowClient

/-- An entry of an outbox. -/
structure Activity where
  id : String
  kind : String
  published : Option String
  objectId : Option String
  content : Option String
  /-- The entry as it was served. -/
  raw : Json

namespace Activity

/-- The text of a member. -/
def textOf? (v : Json) (key : String) : Option String := (v.get? key).bind Json.str?

/-- The id of the object of an activity: the object itself if it is a text, else its `id`. -/
def objectIdOf? : Json → Option String
  | .str s => some s
  | object => textOf? object "id"

/-- The content of an activity: that of its object, or its own if the object has none. -/
def contentOf? (item : Json) : Option String :=
  (((item.get? "object").bind (·.get? "content")).or (item.get? "content")).bind Json.str?

/-- Reads an entry; only texts and objects are entries. -/
def ofItem? : Json → Option Activity
  | .str id => some ⟨id, "", none, none, none, .str id⟩
  | .obj members =>
    let item := Json.obj members
    some {
      id := Profile.textAt item "id"
      kind := Profile.textAt item "type"
      published := textOf? item "published"
      objectId := (item.get? "object").bind objectIdOf?
      content := contentOf? item
      raw := item }
  | _ => none

/-- The items that a page lists. -/
def itemsOf (page : Json) : List Json :=
  (((page.get? "orderedItems").or (page.get? "items")).bind Json.items?).getD []

/-- The first `limit` entries of a page, in the order of the page. -/
def ofPage (page : Json) (limit : Nat) : List Activity := ((itemsOf page).filterMap ofItem?).take limit

end Activity

end FollowClient
