import FollowClient.Json.Escape
import FollowClient.Json.Number

/-!
Two written forms of a JSON value: a compact one without blanks, and one with a line for every item
and member, indented by two spaces for each level. Empty arrays and objects stay on their line.
-/

namespace FollowClient.Json

/-! ### Compact -/

mutual

/-- The value without blanks. -/
def compactChars : Json → List Char
  | null => ['n', 'u', 'l', 'l']
  | bool true => ['t', 'r', 'u', 'e']
  | bool false => ['f', 'a', 'l', 's', 'e']
  | int n => writeInt n
  | real x => writeReal x
  | str s => Escape.quoted s
  | arr [] => ['[', ']']
  | arr (v :: vs) => '[' :: compactChars v ++ compactItems vs ++ [']']
  | obj [] => ['\x7b', '\x7d']
  | obj ((k, v) :: ms) =>
    '\x7b' :: Escape.quoted k ++ ':' :: compactChars v ++ compactMembers ms ++ ['\x7d']

/-- Further items, each after a comma. -/
def compactItems : List Json → List Char
  | [] => []
  | v :: vs => ',' :: compactChars v ++ compactItems vs

/-- Further members, each after a comma. -/
def compactMembers : List (String × Json) → List Char
  | [] => []
  | (k, v) :: ms => ',' :: Escape.quoted k ++ ':' :: compactChars v ++ compactMembers ms

end

/-- The value without blanks. -/
def compact (v : Json) : String := String.ofList v.compactChars

/-! ### Indented -/

/-- The start of a line at a level. -/
def newLine (level : Nat) : List Char := '\n' :: List.replicate (2 * level) ' '

mutual

/-- The value over several lines; its first line starts at `level`. -/
def prettyChars (level : Nat) : Json → List Char
  | arr (v :: vs) =>
    '[' :: newLine (level + 1) ++ prettyChars (level + 1) v ++ prettyItems (level + 1) vs ++
      newLine level ++ [']']
  | obj ((k, v) :: ms) =>
    '\x7b' :: newLine (level + 1) ++ Escape.quoted k ++ ':' :: ' ' :: prettyChars (level + 1) v ++
      prettyMembers (level + 1) ms ++ newLine level ++ ['\x7d']
  | v => compactChars v

/-- Further items, each on its own line. -/
def prettyItems (level : Nat) : List Json → List Char
  | [] => []
  | v :: vs => ',' :: newLine level ++ prettyChars level v ++ prettyItems level vs

/-- Further members, each on its own line. -/
def prettyMembers (level : Nat) : List (String × Json) → List Char
  | [] => []
  | (k, v) :: ms =>
    ',' :: newLine level ++ Escape.quoted k ++ ':' :: ' ' :: prettyChars level v ++
      prettyMembers level ms

end

/-- The value over several lines. -/
def pretty (v : Json) : String := String.ofList (v.prettyChars 0)

end FollowClient.Json
