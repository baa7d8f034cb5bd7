import FollowClient.Json.Record

/-!
What the core tells about the migration of an account. Each kind of answer has its reader, and the
migration status also its writer.
-/

namespace FollowClient

/-- What the relay knows about a migration. -/
structure RelayMigration where
  hasPreviousActorAlias : Bool
  note : String
  deriving DecidableEq, Repr

/-- The migration status of the local account. -/
structure MigrationStatus where
  actor : String
  publicBaseUrl : String
  followersCount : Nat
  legacyFollowersCount : Nat
  legacyAliases : List String
  relayMigration : RelayMigration
  /-- Instructions for other programs, as the core gives them. -/
  legacyGuides : Json
  keyId : Option String
  did : Option String
  domain : Option String
  alsoKnownAs : List String

/-- The answer to a change of the legacy aliases. -/
structure AliasesReply where
  ok : Bool
  /-- The aliases as the core has stored them. -/
  aliases : List String
  restartRequired : Bool
  deriving DecidableEq, Repr

open Json

namespace RelayMigration

/-- The fields in order. -/
def names : List String := ["has_previous_actor_alias", "note"]

/-- Nothing is known. -/
def unknown : RelayMigration := ⟨false, ""⟩

/-- The shape of the value. -/
def shape : Shape := .fields (names.map fun n => (n, .any))

/-- Reads the value. -/
def ofJson? (v : Json) : Option RelayMigration :=
  match v.fields? names false with
  | some [alias?, note] => do
    let hasPreviousActorAlias ← withDefault? false bool? alias?
    let note ← withDefault? "" str? note
    pure { hasPreviousActorAlias, note }
  | _ => none

/-- Writes the value. -/
def toJson (r : RelayMigration) : Json :=
  .obj [("has_previous_actor_alias", .bool r.hasPreviousActorAlias), ("note", .str r.note)]

@[simp] theorem ofJson?_toJson (r : RelayMigration) : ofJson? r.toJson = some r := by
  simp [ofJson?, toJson, fields?, names, lookup, withDefault?, bool?, str?]

end RelayMigration

namespace MigrationStatus

/-- The fields in order. -/
def names : List String :=
  ["actor", "public_base_url", "followers_count", "legacy_followers_count", "legacy_aliases",
    "relay_migration", "legacy_guides", "key_id", "did", "domain", "also_known_as"]

/-- The shape of the value: only the relay's part is a record again. -/
def shape : Shape :=
  .fields (names.map fun n => (n, if n = "relay_migration" then RelayMigration.shape else .any))

/-- Reads the value; only the actor has to be there. -/
def ofJson? (v : Json) : Option MigrationStatus :=
  match v.fields? names false with
  | some [actor, publicBaseUrl, followersCount, legacyFollowersCount, legacyAliases,
      relayMigration, legacyGuides, keyId, did, domain, alsoKnownAs] => do
    let actor ← required? str? actor
    let publicBaseUrl ← withDefault? "" str? publicBaseUrl
    let followersCount ← withDefault? 0 nat? followersCount
    let legacyFollowersCount ← withDefault? 0 nat? legacyFollowersCount
    let legacyAliases ← withDefault? [] texts? legacyAliases
    let relayMigration ← withDefault? .unknown RelayMigration.ofJson? relayMigration
    let keyId ← nullable? str? keyId
    let did ← nullable? str? did
    let domain ← nullable? str? domain
    let alsoKnownAs ← withDefault? [] texts? alsoKnownAs
    pure {
      actor, publicBaseUrl, followersCount, legacyFollowersCount, legacyAliases, relayMigration
      legacyGuides := legacyGuides.getD .null
      keyId, did, domain, alsoKnownAs }
  | _ => none

/-- Writes the value, its fields in order. -/
def toJson (s : MigrationStatus) : Json :=
  .obj [("actor", .str s.actor), ("public_base_url", .str s.publicBaseUrl),
    ("followers_count", .ofNat s.followersCount),
    ("legacy_followers_count", .ofNat s.legacyFollowersCount),
    ("legacy_aliases", .ofTexts s.legacyAliases), ("relay_migration", s.relayMigration.toJson),
    ("legacy_guides", s.legacyGuides), ("key_id", .ofText? s.keyId), ("did", .ofText? s.did),
    ("domain", .ofText? s.domain), ("also_known_as", .ofTexts s.alsoKnownAs)]

end MigrationStatus

namespace AliasesReply

/-- The fields in order. -/
def names : List String := ["ok", "aliases", "restart_required"]

/-- The shape of the value. -/
def shape : Shape := .fields (names.map fun n => (n, .any))

/-- Reads the value; a missing field has its default. -/
def ofJson? (v : Json) : Option AliasesReply :=
  match v.fields? names false with
  | some [ok, aliases, restartRequired] => do
    let ok ← withDefault? false bool? ok
    let aliases ← withDefault? [] texts? aliases
    let restartRequired ← withDefault? false bool? restartRequired
    pure { ok, aliases, restartRequired }
  | _ => none

end AliasesReply

end FollowClient
