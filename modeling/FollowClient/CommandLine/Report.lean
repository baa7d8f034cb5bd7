import FollowClient.Core.Aliases
import FollowClient.Relay
import FollowClient.View.State

/-!
The texts that the commands print.
-/

namespace FollowClient.CommandLine.Report

/-- Lines, each with its end. -/
def lines (ls : List String) : String := String.join (ls.map (· ++ "\n"))

/-- A count, or a dash while it is not known. -/
def count : Option Nat → String
  | some n => Text.Decimal.text n
  | none => "-"

/-- The line of a follow status. -/
def status (s : FollowStatus) : String := "status: " ++ s.name

/-- The line of an activity: when it was published, its kind, and its object or else itself. -/
def activity (a : Activity) : String :=
  "    " ++ a.published.getD "-" ++ " " ++ a.kind ++ " " ++ a.objectId.getD a.id

/-- The lines of an outbox. -/
def outbox : View.OutboxState → List String
  | .loaded items =>
    ("  recent activity (" ++ Text.Decimal.text items.length ++ "):") :: items.map activity
  | .failed message => ["  outbox unavailable: " ++ message]
  | _ => []

/-- The lines that depend on the profile alone and come first. -/
def heading (p : Profile) : List String :=
  [p.title, "  id:        " ++ p.id] ++
    (if p.preferredUsername.isEmpty then [] else ["  username:  @" ++ p.preferredUsername]) ++
    ["  url:       " ++ p.url, "  fedi3:     " ++ (if p.isPeer then "true" else "false")] ++
    (p.statusKey.map ("  presence:  " ++ ·)).toList

/-- The lines of what was loaded for a profile. -/
def loaded (d : View.Display) : List String :=
  ["  followers: " ++ count d.followers, "  following: " ++ count d.following,
    "  follow:    " ++ d.relationship.status.name]

/-- The lines of the fields of a profile. -/
def fields (p : Profile) : List String := p.fields.map fun f => "  " ++ f.name ++ ": " ++ f.value

/-- The lines of a displayed profile. -/
def profile (p : Profile) (d : View.Display) : List String :=
  heading p ++ loaded d ++ fields p ++ outbox d.outbox

/-- The value of a relay preview. -/
def preview (r : RelayPreview) : Json :=
  .obj [("relays", .ofTexts r.relays), ("peers", .ofTexts r.peers)]

/-- The lines of stored aliases. -/
def aliases (s : SavedAliases) : List String :=
  s.aliases ++ if s.restartRequired then ["restart the core to publish the new aliases"] else []

end FollowClient.CommandLine.Report
