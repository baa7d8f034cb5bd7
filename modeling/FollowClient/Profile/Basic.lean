import FollowClient.Failure
import FollowClient.Profile.Link

/-!
Profiles of remote actors. A profile is read from an actor document: its texts are trimmed, a
missing text is empty, and a document without an id is none. `document` writes the canonical
document of a profile.
-/

namespace FollowClient

/-- A name with its value, as an actor shows them on a profile. -/
structure ProfileField where
  name : String
  value : String
  deriving DecidableEq, Repr

/-- A remote actor. -/
structure Profile where
  id : String
  displayName : String
  preferredUsername : String
  summary : String
  iconUrl : String
  imageUrl : String
  url : String
  followers : String
  following : String
  outbox : String
  fields : List ProfileField
  /-- The actor lives on a peer of this network. -/
  isPeer : Bool
  statusKey : Option String
  deriving DecidableEq, Repr

namespace Profile

/-! ### Reading an actor document -/

/-- The trimmed text of a member, empty if it is no text. -/
def textAt (doc : Json) (key : String) : String :=
  match (doc.get? key).bind Json.str? with
  | some s => Text.trim s
  | none => ""

/-- The link of a member. -/
def linkAt? (doc : Json) (key : String) : Option String := (doc.get? key).bind Link.resolve?

/-- The field of an attachment: only one of type `PropertyValue` with a name is one. -/
def fieldOf? (attachment : Json) : Option ProfileField :=
  if (attachment.get? "type").bind Json.str? = some "PropertyValue" then
    let field := ⟨textAt attachment "name", textAt attachment "value"⟩
    if field.name.isEmpty then none else some field
  else none

/-- The fields among the attachments of a document. -/
def fieldsOf (doc : Json) : List ProfileField :=
  (((doc.get? "attachment").bind Json.items?).getD []).filterMap fieldOf?

/-- The member that tells the peer of an actor: the document's own, or, only if it has no such
member, that of its endpoints. -/
def peerMember? (doc : Json) : Option Json :=
  (doc.get? "fedi3PeerId").or ((doc.get? "endpoints").bind (·.get? "fedi3PeerId"))

/-- The actor names its peer by a text that is not blank. -/
def hasPeer (doc : Json) : Bool :=
  match (peerMember? doc).bind Json.str? with
  | some s => !Text.isBlankText s
  | none => false

/-- The status key of a document, if it is a text and not empty; it is not trimmed. -/
def statusKeyOf? (doc : Json) : Option String :=
  ((doc.get? "statusKey").bind Json.str?).filter (!·.isEmpty)

/-- Reads an actor document. -/
def ofDocument (doc : Json) : Except Failure Profile :=
  let id := textAt doc "id"
  if id.isEmpty then .error (.decode "actor document has no id")
  else .ok {
    id
    displayName := textAt doc "name"
    preferredUsername := textAt doc "preferredUsername"
    summary := textAt doc "summary"
    iconUrl := (linkAt? doc "icon").getD ""
    imageUrl := (linkAt? doc "image").getD ""
    url := (linkAt? doc "url").getD id
    followers := textAt doc "followers"
    following := textAt doc "following"
    outbox := textAt doc "outbox"
    fields := fieldsOf doc
    isPeer := hasPeer doc
    statusKey := statusKeyOf? doc }

/-- The heading of a profile: the display name, else the user name, else the id. -/
def title (p : Profile) : String :=
  if !Text.isBlankText p.displayName then p.displayName
  else if !p.preferredUsername.isEmpty then "@" ++ p.preferredUsername
  else p.id

/-! ### Writing an actor document -/

/-- The attachment of a field. -/
def attachmentOf (f : ProfileField) : Json :=
  .obj [("type", .str "PropertyValue"), ("name", .str f.name), ("value", .str f.value)]

/-- The canonical document of a profile; `peer` is the peer id that it names if the actor has
one. -/
def document (p : Profile) (peer : String) : Json :=
  .obj ([("id", .str p.id), ("name", .str p.displayName),
      ("preferredUsername", .str p.preferredUsername), ("summary", .str p.summary),
      ("icon", .str p.iconUrl), ("image", .str p.imageUrl), ("url", .str p.url),
      ("followers", .str p.followers), ("following", .str p.following), ("outbox", .str p.outbox),
      ("attachment", .arr (p.fields.map attachmentOf))] ++
    (p.statusKey.map fun key => ("statusKey", Json.str key)).toList ++
    (if p.isPeer then [("fedi3PeerId", .str peer)] else []))

end Profile

end FollowClient
