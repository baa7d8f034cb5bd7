import FollowClient.Profile.Link

/-!
The search for a link takes the first usable one of the texts that a link may come to
(`resolve?_eq_findSome?`), so whatever it finds is trimmed and not empty. A dead end falls through
to what comes after it: unusable links among the items of an array, at any depth, change nothing.
-/

namespace FollowClient.Link

open Json

theorem usable?_eq_some_iff {s t : String} :
    usable? s = some t ↔ Text.isBlankText s = false ∧ Text.trim s = t := by
  unfold usable?
  cases Text.isBlankText s with
  | true => simp
  | false => simp

/-! ### The search and its texts -/

mutual

/-- The first usable text among the leaves of a link. -/
theorem resolve?_eq_findSome? : ∀ v, resolve? v = (leaves v).findSome? usable?
  | .str s => by simp [resolve?, leaves]
  | .arr items => by rw [resolve?, leaves, resolveFirst?_eq_findSome? items]
  | .obj members => by
    rw [resolve?, leaves, resolveAt?_eq_map "url" members, resolveAt?_eq_map "href" members]
    cases leavesAt? "url" members with
    | some texts => rfl
    | none => cases leavesAt? "href" members <;> rfl
  | .null | .bool _ | .int _ | .real _ => by simp [resolve?, leaves]

theorem resolveFirst?_eq_findSome? :
    ∀ items, resolveFirst? items = (leavesOfAll items).findSome? usable?
  | [] => by simp [resolveFirst?, leavesOfAll]
  | v :: rest => by
    rw [resolveFirst?, leavesOfAll, resolve?_eq_findSome? v, resolveFirst?_eq_findSome? rest,
      List.findSome?_append]

theorem resolveAt?_eq_map (key : String) : ∀ members,
    resolveAt? key members = (leavesAt? key members).map fun texts => texts.findSome? usable?
  | [] => by simp [resolveAt?, leavesAt?]
  | (k, v) :: rest => by
    rw [resolveAt?, leavesAt?, resolve?_eq_findSome? v, resolveAt?_eq_map key rest]
    split
    · rfl
    · rfl

end

theorem trim_of_resolve? {v : Json} {t : String} (h : resolve? v = some t) : Text.trim t = t := by
  rw [resolve?_eq_findSome?] at h
  obtain ⟨s, -, hs⟩ := List.exists_of_findSome?_eq_some h
  obtain ⟨-, rfl⟩ := usable?_eq_some_iff.1 hs
  exact Text.trim_trim s

theorem ne_empty_of_resolve? {v : Json} {t : String} (h : resolve? v = some t) : t ≠ "" := by
  rw [resolve?_eq_findSome?] at h
  obtain ⟨s, -, hs⟩ := List.exists_of_findSome?_eq_some h
  obtain ⟨hb, rfl⟩ := usable?_eq_some_iff.1 hs
  intro empty
  rw [← Text.isEmpty_trim, empty] at hb
  cases hb

/-! ### Unusable links among others -/

mutual

/-- `Padded v w`: the second link is the first one with unusable links put between the items of its
arrays, at any depth. -/
inductive Padded : Json → Json → Prop where
  | refl (v : Json) : Padded v v
  | arr {items padded : List Json} (h : PaddedItems items padded) :
    Padded (.arr items) (.arr padded)
  | obj {members padded : List (String × Json)} (h : PaddedMembers members padded) :
    Padded (.obj members) (.obj padded)

/-- Items that are padded themselves, with unusable links between them. -/
inductive PaddedItems : List Json → List Json → Prop where
  | nil : PaddedItems [] []
  | keep {v w : Json} {items padded : List Json} (hv : Padded v w) (h : PaddedItems items padded) :
    PaddedItems (v :: items) (w :: padded)
  | insert {v : Json} {items padded : List Json} (hv : resolve? v = none)
      (h : PaddedItems items padded) : PaddedItems items (v :: padded)

/-- The same members, with padded values. -/
inductive PaddedMembers : List (String × Json) → List (String × Json) → Prop where
  | nil : PaddedMembers [] []
  | cons {v w : Json} {members padded : List (String × Json)} (key : String) (hv : Padded v w)
      (h : PaddedMembers members padded) : PaddedMembers ((key, v) :: members) ((key, w) :: padded)

end

mutual

theorem Padded.resolve?_eq : ∀ {v w : Json}, Padded v w → resolve? w = resolve? v
  | _, _, .refl _ => rfl
  | _, _, .arr h => by rw [resolve?, resolve?, h.resolveFirst?_eq]
  | _, _, .obj h => by rw [resolve?, resolve?, h.resolveAt?_eq "url", h.resolveAt?_eq "href"]

theorem PaddedItems.resolveFirst?_eq : ∀ {items padded : List Json}, PaddedItems items padded →
    resolveFirst? padded = resolveFirst? items
  | _, _, .nil => rfl
  | _, _, .keep hv h => by rw [resolveFirst?, resolveFirst?, hv.resolve?_eq, h.resolveFirst?_eq]
  | _, _, .insert hv h => by rw [resolveFirst?, hv, Option.none_or, h.resolveFirst?_eq]

theorem PaddedMembers.resolveAt?_eq (key : String) : ∀ {members padded : List (String × Json)},
    PaddedMembers members padded → resolveAt? key padded = resolveAt? key members
  | _, _, .nil => rfl
  | _, _, .cons _ hv h => by rw [resolveAt?, resolveAt?, hv.resolve?_eq, h.resolveAt?_eq key]

end

/-! ### The first usable text -/

theorem findSome?_usable? (texts : List String) : texts.findSome? usable? =
    (texts.find? fun s => !Text.isBlankText s).map Text.trim := by
  induction texts with
  | nil => rfl
  | cons s rest ih =>
    rw [List.findSome?_cons, List.find?_cons, usable?]
    cases Text.isBlankText s with
    | true => exact ih
    | false => rfl

/-- **A link resolves to its first usable text**: the first of its leaves that is not blank,
trimmed, and nothing exactly if all of them are blank. What it resolves to is trimmed and not empty,
and unusable links that are put into its arrays do not change it. -/
theorem resolves_to_first_usable_text (v : Json) :
    resolve? v = ((leaves v).find? fun s => !Text.isBlankText s).map Text.trim ∧
    (resolve? v = none ↔ ∀ s ∈ leaves v, Text.isBlankText s = true) ∧
    (∀ t, resolve? v = some t → t ≠ "" ∧ Text.trim t = t) ∧
    ∀ w, Padded v w → resolve? w = resolve? v := by
  have search := (resolve?_eq_findSome? v).trans (findSome?_usable? (leaves v))
  refine ⟨search, ?_, ?_, ?_⟩
  · rw [search, Option.map_eq_none_iff, List.find?_eq_none]
    simp only [Bool.not_eq_true', Bool.not_eq_false]
  · intro t ht
    exact ⟨ne_empty_of_resolve? ht, trim_of_resolve? ht⟩
  · intro w hw
    exact hw.resolve?_eq

/-- Links to an actor's page: a blank one, one that has a blank `url` besides its `href`, and one
that has a link in an array. -/
def pages : Json :=
  .arr [.str " ", .obj [("href", .str "https://a.test/"), ("url", .str "\t")],
    .obj [("url", .arr [.str " https://a.test/@alice "]), ("href", .str "https://a.test/alice")]]

/-- The same links with unusable ones between them, and in the array of the last. -/
def paddedPages : Json :=
  .arr [.null, .str " ", .obj [("href", .str "https://a.test/"), ("url", .str "\t")],
    .arr [.str ""], .obj [("url", .arr [.obj [], .str " https://a.test/@alice "]),
      ("href", .str "https://a.test/alice")]]

theorem paddedPages_resolved :
    leaves pages = [" ", "\t", " https://a.test/@alice "] ∧ Padded pages paddedPages ∧
    resolve? paddedPages = some "https://a.test/@alice" ∧
    Text.trim "https://a.test/@alice" = "https://a.test/@alice" := by
  have found : resolve? pages = some "https://a.test/@alice" := by decide +kernel
  have last : PaddedItems [.str " https://a.test/@alice "]
      [.obj [], .str " https://a.test/@alice "] :=
    .insert rfl (.keep (.refl _) .nil)
  have padded : Padded pages paddedPages := by
    refine .arr (.insert rfl (.keep (.refl _) (.keep (.refl _) (.insert ?_ (.keep ?_ .nil)))))
    · decide +kernel
    · exact .obj (.cons "url" (.arr last) (.cons "href" (.refl _) .nil))
  obtain ⟨-, -, trimmed, same⟩ := resolves_to_first_usable_text pages
  exact ⟨by decide, padded, (same paddedPages padded).trans found, (trimmed _ found).2⟩

end FollowClient.Link
