import FollowClient.Core.Migration
import FollowClient.Follow.Status
import FollowClient.Json.Printer
import FollowClient.Net.Exchange
import FollowClient.Text.Percent

/-!
The client of the local core, which keeps the follow relationships and the migration status of the
local account.
-/

namespace FollowClient

open Net

/-- How the core is reached. -/
structure Core where
  /-- The start of all its URLs, without a slash at the end. -/
  base : String
  /-- The secret for internal requests, empty if there is none. -/
  token : String
  /-- How long an answer is waited for, in milliseconds. -/
  timeout : Nat
  deriving DecidableEq, Repr

namespace Core

/-- Where a core is when nothing else is asked for. -/
def defaultBase : String := "http://127.0.0.1:8788"

/-- Sets up a client. -/
def create (base token : String) (timeout : Nat) : Core := ⟨baseOf base, Text.trim token, timeout⟩

/-! ### Requests -/

/-- The headers of every request. -/
def headers (core : Core) : List (String × String) :=
  ("accept", "*/*") ::
    if core.token.isEmpty then [] else [("x-fedi3-internal", core.token)]

/-- The URL of a status read. -/
def statusUrl (core : Core) (actor : String) : String :=
  core.base ++ "/_fedi3/social/status?actor=" ++ Text.Percent.encode actor

/-- The URL of the migration status. -/
def migrationUrl (core : Core) : String := core.base ++ "/_fedi3/migration/status"

/-- The URL of the legacy aliases. -/
def aliasesUrl (core : Core) : String := core.base ++ "/_fedi3/migration/legacy_aliases"

/-- The failure of a response that cannot be understood. -/
def invalidResponse (url : String) : Failure :=
  .decode ("Invalid response from " ++ url ++ ": " ++ badBody)

/-- Sends a message and reads the body of its response. -/
def sendFor {α : Type} (core : Core) (m : Message) (shape : Json.Shape) (read : Json → Option α) :
    Exchange α := do
  let r ← sendForSuccess core.timeout m
  match (r.json? shape).bind read with
  | some a => pure a
  | none => Exchange.fail (invalidResponse m.url)

/-! ### Operations -/

/-- The shape of the answer to a status read. -/
def statusShape : Json.Shape := .fields [("status", .any)]

/-- The word in the answer to a status read, empty if it is missing. -/
def statusWord? (v : Json) : Option String :=
  match v.fields? ["status"] false with
  | some [status] => Json.withDefault? "" Json.str? status
  | _ => none

/-- Reads the follow status of an actor. -/
def followingStatus (core : Core) (actor : String) : Exchange FollowStatus := do
  let word ← core.sendFor (.get (core.statusUrl actor) core.headers) statusShape statusWord?
  pure (FollowStatus.ofReport word)

/-- The message of a follow or unfollow request. -/
def actorMessage (core : Core) (path actor : String) : Message :=
  .post (core.base ++ path) core.headers (Json.obj [("actor", .str actor)]).compact

/-- Asks the core to follow an actor. -/
def follow (core : Core) (actor : String) : Exchange Unit := do
  let _ ← sendForSuccess core.timeout (core.actorMessage "/_fedi3/social/follow" actor)
  pure ()

/-- Asks the core to follow an actor no longer. -/
def unfollow (core : Core) (actor : String) : Exchange Unit := do
  let _ ← sendForSuccess core.timeout (core.actorMessage "/_fedi3/social/unfollow" actor)
  pure ()

/-- Reads the migration status. -/
def migrationStatus (core : Core) : Exchange MigrationStatus :=
  core.sendFor (.get core.migrationUrl core.headers) MigrationStatus.shape MigrationStatus.ofJson?

/-- The message that stores aliases. -/
def aliasesMessage (core : Core) (aliases : List String) : Message :=
  .post core.aliasesUrl core.headers (Json.obj [("aliases", .ofTexts aliases)]).compact

/-- Stores the legacy aliases. -/
def setAliases (core : Core) (aliases : List String) : Exchange AliasesReply :=
  core.sendFor (core.aliasesMessage aliases) AliasesReply.shape AliasesReply.ofJson?

end Core

end FollowClient
