import FollowClient.Net.Exchange

/-!
Networks given by a table: for each method and URL the replies in the order in which they are given,
of which the last one stays. What is not in the table is answered with status 404 and no body.
-/

namespace FollowClient.Net

/-- A table of replies by method and URL. -/
abbrev Routes := List (String × List Reply)

namespace Routes

/-- The reply to what is in no table. -/
def missing : Reply := .response 0 404 (.whole [])

/-- A reply with a status; two statuses have no body. -/
def reply (delay status : Nat) (body : Body) : Reply :=
  .response delay status (if status = 204 ∨ status = 304 then .whole [] else body)

/-- The name of a request in a table. -/
def key (r : Request) : String := r.method.name ++ " " ++ r.url

/-- The network of a table. -/
def network (routes : Routes) : Network := fun sent r =>
  match routes.lookup (key r) with
  | none => missing
  | some replies =>
    let earlier := (sent.filter fun q => key q = key r).length
    (replies[Nat.min earlier (replies.length - 1)]?).getD missing

end Routes

end FollowClient.Net
