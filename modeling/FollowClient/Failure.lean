import FollowClient.Text.Decimal

/-!
What can go wrong, and the message that tells it.
-/

namespace FollowClient

/-- The cause of a failure. -/
inductive Failure where
  /-- The network gave no answer. -/
  | transport (text : String)
  /-- A server answered with a status other than success. -/
  | status (code : Nat) (url : String)
  /-- An answer could not be understood. -/
  | decode (text : String)
  /-- There is nothing at this place. -/
  | notFound (place : String)
  /-- An argument is unusable. -/
  | validation (text : String)
  /-- A setting is unusable. -/
  | config (text : String)
  /-- The client itself could not be set up. -/
  | internal (text : String)
  deriving DecidableEq, Repr

namespace Failure

/-- The message of a failure. -/
def message : Failure → String
  | transport text => "Transport error: " ++ text
  | status code url => url ++ " returned HTTP " ++ Text.Decimal.text code
  | decode text => "Decode error: " ++ text
  | notFound place => "Not found: " ++ place
  | validation text => "Validation error: " ++ text
  | config text => "Configuration error: " ++ text
  | internal text => "Internal error: " ++ text

/-- The failure of a blank actor URL. -/
def blankActor : Failure := validation "actor url is empty"

end Failure

end FollowClient
