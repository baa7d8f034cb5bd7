import FollowClient.Json.Shape

/-!
Reading records. A record is an object with named fields, or the list of its fields in order, and
some of the fields may be missing.
-/

namespace FollowClient.Json

/-- The fields of a record in order, each with its value if there is one. A list must not be longer
than the fields; where `complete` holds, it must not be shorter either. -/
def fields? (names : List String) (complete : Bool) : Json → Option (List (Option Json))
  | obj members => some (names.map fun name => lookup name members)
  | arr items =>
    if names.length < items.length || (complete && items.length < names.length) then none
    else some (items.map some ++ List.replicate (names.length - items.length) none)
  | _ => none

/-- The value of a field that must be there. -/
def required? {α : Type} (read : Json → Option α) : Option Json → Option α
  | some v => read v
  | none => none

/-- The value of a field that stands for `default` when it is missing. -/
def withDefault? {α : Type} (default : α) (read : Json → Option α) : Option Json → Option α
  | some v => read v
  | none => some default

/-- The value of a field that may be missing or `null`. -/
def nullable? {α : Type} (read : Json → Option α) : Option Json → Option (Option α)
  | none => some none
  | some null => some none
  | some v => (read v).map some

/-- Reads all values of a list. -/
def readAll? {α : Type} (read : Json → Option α) : List Json → Option (List α)
  | [] => some []
  | v :: rest => do
    let a ← read v
    let as ← readAll? read rest
    pure (a :: as)

/-- Reads an array whose items all have one form. -/
def list? {α : Type} (read : Json → Option α) : Json → Option (List α)
  | arr items => readAll? read items
  | _ => none

/-- Reads an array of texts. -/
def texts? : Json → Option (List String) := list? str?

theorem texts?_ofTexts (texts : List String) : (ofTexts texts).texts? = some texts := by
  simp only [texts?, ofTexts, list?]
  induction texts with
  | nil => rfl
  | cons t rest ih => simp [readAll?, str?, ih]

end FollowClient.Json
