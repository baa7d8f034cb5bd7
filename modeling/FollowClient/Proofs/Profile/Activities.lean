import FollowClient.Profile.Activity

/-!
The activities that are read from an outbox page. Of the items that a page serves, the texts and the
objects are activities. The others are passed over before the limit is counted, so that none of the
first activities is lost and a larger limit only adds to the list (`ofPage_extracts`).
-/

namespace FollowClient.Activity

open Json

/-! ### The items of a page -/

/-- The items that are activities: texts and objects. -/
def isEntry : Json → Bool
  | .str _ | .obj _ => true
  | _ => false

/-- The name under which a page lists its items. -/
def listName (page : Json) : String :=
  if (page.get? "orderedItems").isSome then "orderedItems" else "items"

/-- The items of a page: those in the array under that name, and none if there is no array. -/
def served (page : Json) : List Json :=
  match page.get? (listName page) with
  | some (.arr items) => items
  | _ => []

theorem itemsOf_eq_served (page : Json) : itemsOf page = served page := by
  have array : ∀ member : Option Json, (member.bind items?).getD [] =
      match member with
      | some (.arr items) => items
      | _ => [] := by
    rintro (_ | v)
    · rfl
    · cases v <;> rfl
  have listed : page.get? (listName page) = (page.get? "orderedItems").or (page.get? "items") := by
    unfold listName
    cases h : page.get? "orderedItems" with
    | none => rfl
    | some v => exact h
  rw [itemsOf, array, served, listed]

/-! ### The record of an item -/

/-- The record of an object. -/
structure OfObject (members : List (String × Json)) (a : Activity) : Prop where
  id : a.id = Profile.textAt (.obj members) "id"
  kind : a.kind = Profile.textAt (.obj members) "type"
  published (t : String) : a.published = some t ↔ lookup "published" members = some (.str t)
  /-- The object of the activity is a text, or an object that names itself. -/
  objectId (t : String) : a.objectId = some t ↔
    lookup "object" members = some (.str t) ∨
      ∃ object, lookup "object" members = some object ∧ object.get? "id" = some (.str t)
  /-- The content of the activity is that of its object, whatever that is, and its own only if the
  object has none. -/
  content (t : String) : a.content = some t ↔
    (∃ object, lookup "object" members = some object ∧ object.get? "content" = some (.str t)) ∨
      (∀ object, lookup "object" members = some object → object.get? "content" = none) ∧
        lookup "content" members = some (.str t)

section Item

variable {item : Json} {a : Activity}

theorem isSome_ofItem? (item : Json) : (ofItem? item).isSome = isEntry item := by
  cases item <;> rfl

theorem raw_of_ofItem? (h : ofItem? item = some a) : a.raw = item := by
  cases item with
  | str id => rw [← Option.some.inj h]
  | obj members => rw [← Option.some.inj h]
  | _ => cases h

theorem map_raw_ofItem? (item : Json) :
    (ofItem? item).map raw = Option.guard isEntry item := by
  rw [Option.guard, ← isSome_ofItem?]
  cases h : ofItem? item with
  | none => rfl
  | some a => simp [raw_of_ofItem? h]

theorem objectIdOf?_eq_some_iff {object : Json} {t : String} :
    objectIdOf? object = some t ↔ object = .str t ∨ object.get? "id" = some (.str t) := by
  cases object with
  | str s => simp [objectIdOf?, get?]
  | _ => simp [objectIdOf?, textOf?, bind_str?_eq_some_iff]

theorem contentOf?_eq_some_iff {members : List (String × Json)} {t : String} :
    contentOf? (.obj members) = some t ↔
      (∃ object, lookup "object" members = some object ∧ object.get? "content" = some (.str t)) ∨
        (∀ object, lookup "object" members = some object → object.get? "content" = none) ∧
          lookup "content" members = some (.str t) := by
  rw [contentOf?, bind_str?_eq_some_iff]
  show (((lookup "object" members).bind (·.get? "content")).or (lookup "content" members)) = _ ↔ _
  cases lookup "object" members with
  | none => simp
  | some object => cases h : object.get? "content" <;> simp [h]

theorem ofObject_of_ofItem? {members : List (String × Json)} (h : ofItem? (.obj members) = some a) :
    OfObject members a := by
  obtain rfl := Option.some.inj h
  exact {
    id := rfl
    kind := rfl
    published := fun t => bind_str?_eq_some_iff
    objectId := fun t => by
      show (lookup "object" members).bind objectIdOf? = some t ↔ _
      cases lookup "object" members with
      | none => simp
      | some object => simp [objectIdOf?_eq_some_iff]
    content := fun t => contentOf?_eq_some_iff }

end Item

/-! ### The activities of a page -/

theorem map_raw_filterMap (items : List Json) :
    (items.filterMap ofItem?).map raw = items.filter isEntry := by
  rw [List.map_filterMap, ← List.filterMap_eq_filter]
  congr 1
  funext item
  exact map_raw_ofItem? item

theorem ofItem?_raw {page : Json} {limit : Nat} {a : Activity} (h : a ∈ ofPage page limit) :
    ofItem? a.raw = some a := by
  obtain ⟨item, -, read⟩ := List.mem_filterMap.1 (List.mem_of_mem_take h)
  rw [raw_of_ofItem? read, read]

/-- The activities of a page up to a limit. -/
structure Extracts (page : Json) (limit : Nat) (records : List Activity) : Prop where
  /-- They are the first of the items that are activities, as they were served. -/
  raws : records.map raw = ((served page).filter isEntry).take limit
  /-- A larger limit adds others behind them. -/
  grows (more : Nat) : limit ≤ more → records <+: ofPage page more
  /-- A text is the id of an activity of which nothing else is known. -/
  text (a : Activity) (id : String) : a ∈ records → a.raw = .str id →
    a = ⟨id, "", none, none, none, .str id⟩
  object (a : Activity) (members : List (String × Json)) : a ∈ records → a.raw = .obj members →
    OfObject members a

/-- **Reading a page loses nothing and keeps the order**: the records are those of the first items
that are activities, whatever stands between these. -/
theorem ofPage_extracts (page : Json) (limit : Nat) : Extracts page limit (ofPage page limit) where
  raws := by rw [ofPage, List.map_take, map_raw_filterMap, itemsOf_eq_served]
  grows more h := List.take_prefix_take_left h
  text a id h raw := by
    have read := ofItem?_raw h
    rw [raw] at read
    exact (Option.some.inj read).symm
  object a members h raw := by
    have read := ofItem?_raw h
    rw [raw] at read
    exact ofObject_of_ofItem? read

/-- Items that are no activities do not count. -/
example : (ofPage (.obj [("items", .arr [.null, .str "a", .arr [], .obj [], .str "b"])]) 2).map id =
    ["a", ""] := by decide

end FollowClient.Activity
