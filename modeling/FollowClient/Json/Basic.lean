/-!
JSON values. An object is a list of members; a reader keeps them in key order with one member a key,
and a writer may list them in the order in which they are to appear. A number that is no sixty-four
bit integer is kept as the decimal that was written. It is not rounded to a double, so two such
numbers can differ here that are one double; no field of a document is read from such a number.
-/

namespace FollowClient

/-- A number that is no sixty-four bit integer: `± digits · 10 ^ exponent`. -/
structure Scaled where
  negative : Bool
  digits : Nat
  exponent : Int
  deriving DecidableEq, Repr

/-- A JSON value. -/
inductive Json where
  | null
  | bool (b : Bool)
  | int (n : Int)
  | real (x : Scaled)
  | str (s : String)
  | arr (items : List Json)
  | obj (members : List (String × Json))
  deriving Inhabited

namespace Json

/-! ### Looking into a value -/

/-- The value of the first member named `key`. -/
def lookup (key : String) : List (String × Json) → Option Json
  | [] => none
  | (k, v) :: rest => if k = key then some v else lookup key rest

/-- The member named `key`, if the value is an object that has one. -/
def get? (key : String) : Json → Option Json
  | obj members => lookup key members
  | _ => none

/-- The text, if the value is one. -/
def str? : Json → Option String
  | str s => some s
  | _ => none

/-- The items, if the value is an array. -/
def items? : Json → Option (List Json)
  | arr items => some items
  | _ => none

/-- The truth value, if the value is one. -/
def bool? : Json → Option Bool
  | bool b => some b
  | _ => none

/-- The number, if the value is an integer that is not negative. -/
def nat? : Json → Option Nat
  | int (.ofNat n) => some n
  | _ => none

/-- The number, if the value is an integer. -/
def int? : Json → Option Int
  | int n => some n
  | _ => none

/-! ### Objects in key order -/

/-- Puts a member into a list in key order; a later value replaces an earlier one of its key. -/
def putMember (key : String) (value : Json) : List (String × Json) → List (String × Json)
  | [] => [(key, value)]
  | (k, v) :: rest =>
    if key < k then (key, value) :: (k, v) :: rest
    else if key = k then (key, value) :: rest
    else (k, v) :: putMember key value rest

/-- The object with these members, in key order; the last value of a repeated key counts. -/
def object (members : List (String × Json)) : Json :=
  obj (members.foldl (fun acc m => putMember m.1 m.2 acc) [])

/-- The number `n` as a value. -/
def ofNat (n : Nat) : Json := int (Int.ofNat n)

/-- A text, or `null` if there is none. -/
def ofText? : Option String → Json
  | some s => str s
  | none => null

/-- The list of texts as a value. -/
def ofTexts (texts : List String) : Json := arr (texts.map str)

@[simp] theorem nat?_ofNat (n : Nat) : (ofNat n).nat? = some n := rfl

theorem bind_str?_eq_some_iff {member : Option Json} {s : String} :
    member.bind str? = some s ↔ member = some (str s) := by
  constructor
  · intro h
    obtain ⟨v, rfl, text⟩ := Option.bind_eq_some_iff.1 h
    cases v with
    | str t => rw [Option.some.inj text]
    | _ => cases text
  · rintro rfl
    rfl

end Json

end FollowClient
