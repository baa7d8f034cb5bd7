import FollowClient.Core.Client
import FollowClient.Policy

/-!
Editing the legacy aliases of an account. They are entered as one text, separated by commas or line
ends; blanks around them and empty ones do not count.
-/

namespace FollowClient

namespace Aliases

/-- The characters between two aliases. -/
def isSeparator (c : Char) : Bool := c = ',' || c = '\n'

/-- The aliases in characters. -/
def parseChars (cs : List Char) : List (List Char) :=
  ((Text.splitOn isSeparator cs).map (Text.strip Text.isBlank)).filter (!·.isEmpty)

/-- The aliases of a text. -/
def parse (input : String) : List String := (parseChars input.toList).map String.ofList

/-- The text of aliases, each after the first behind a separator. -/
def join (separator : Char) : List String → String
  | [] => ""
  | [a] => a
  | a :: rest => a ++ String.singleton separator ++ join separator rest

end Aliases

/-- The result of storing aliases. -/
structure SavedAliases where
  aliases : List String
  restartRequired : Bool
  deriving DecidableEq, Repr

/-- What is reported as stored: what the core says it has stored, or, if it names no alias, what was
sent to it. -/
def SavedAliases.ofReply (sent : List String) (r : AliasesReply) : SavedAliases :=
  ⟨if r.aliases.isEmpty then sent else r.aliases, r.restartRequired⟩

namespace Core

/-- An exchange under the policy of an operation. -/
def settled {α : Type} (op : Operation) (x : Net.Exchange α) : Net.Exchange (Outcome α) := do
  let r ← x.attempt
  pure (settle op r)

/-- Loads the migration status. -/
def loadMigration (core : Core) : Net.Exchange (Outcome MigrationStatus) :=
  settled .migrationStatus core.migrationStatus

/-- Stores the aliases of a text. -/
def saveAliases (core : Core) (input : String) : Net.Exchange (Outcome SavedAliases) :=
  let aliases := Aliases.parse input
  settled .saveAliases do
    let r ← core.setAliases aliases
    pure (SavedAliases.ofReply aliases r)

end Core

end FollowClient
