import FollowClient.Json.Basic
import FollowClient.Text.Trim

/-!
Links in actor documents. A link is a text, an array of links, or an object that holds one under
`url` or, if it has no member of that name, under `href`. `resolve?` takes the first text that is
not blank; `leaves` lists all the texts that it may come to, in document order.
-/

namespace FollowClient.Link

open Json

/-- The text of a link if it is not blank. -/
def usable? (s : String) : Option String :=
  if Text.isBlankText s then none else some (Text.trim s)

/-! ### The first usable text -/

mutual

/-- The first usable text of a link. -/
def resolve? : Json → Option String
  | .str s => usable? s
  | .arr items => resolveFirst? items
  | .obj members =>
    match resolveAt? "url" members with
    | some found => found
    | none => (resolveAt? "href" members).join
  | _ => none

/-- The first usable text among links. -/
def resolveFirst? : List Json → Option String
  | [] => none
  | v :: rest => (resolve? v).or (resolveFirst? rest)

/-- What the first member named `key` resolves to, if there is one. -/
def resolveAt? (key : String) : List (String × Json) → Option (Option String)
  | [] => none
  | (k, v) :: rest => if k = key then some (resolve? v) else resolveAt? key rest

end

/-! ### All texts -/

mutual

/-- The texts of a link in document order. -/
def leaves : Json → List String
  | .str s => [s]
  | .arr items => leavesOfAll items
  | .obj members =>
    match leavesAt? "url" members with
    | some found => found
    | none => (leavesAt? "href" members).getD []
  | _ => []

/-- The texts of links, one after the other. -/
def leavesOfAll : List Json → List String
  | [] => []
  | v :: rest => leaves v ++ leavesOfAll rest

/-- The texts of the first member named `key`, if there is one. -/
def leavesAt? (key : String) : List (String × Json) → Option (List String)
  | [] => none
  | (k, v) :: rest => if k = key then some (leaves v) else leavesAt? key rest

end

end FollowClient.Link
