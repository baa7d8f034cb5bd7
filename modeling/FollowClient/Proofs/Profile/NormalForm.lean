import FollowClient.Profile.Basic
import FollowClient.Proofs.Profile.Links
import Mathlib.Data.List.Basic

/-!
The normal form of profiles: texts are trimmed, what a profile must have is not empty, and there is
always a heading. Reading an actor document fails exactly if it has no id. Otherwise it gives a
profile in normal form, and the canonical document of that profile is read as the same profile again
(`reading_normalizes`).
-/

namespace FollowClient.Profile

open Text

/-! ### What a profile in normal form is -/

/-- The document has a member of this name, and it is a text with a character that is not blank. -/
def HasText (doc : Json) (key : String) : Prop :=
  ∃ s, doc.get? key = some (.str s) ∧ ∃ c ∈ s.toList, isBlank c = false

/-- The texts of a profile, but for its status key and its fields, under their names in an actor
document. -/
def members (p : Profile) : List (String × String) :=
  [("id", p.id), ("name", p.displayName), ("preferredUsername", p.preferredUsername),
    ("summary", p.summary), ("icon", p.iconUrl), ("image", p.imageUrl), ("url", p.url),
    ("followers", p.followers), ("following", p.following), ("outbox", p.outbox)]

/-- A field that has a name; its texts are trimmed. -/
def IsField (f : ProfileField) : Prop :=
  f.name ≠ "" ∧ trim f.name = f.name ∧ trim f.value = f.value

/-- A profile in normal form. -/
structure Normal (p : Profile) : Prop where
  id : p.id ≠ ""
  url : p.url ≠ ""
  trimmed : ∀ m ∈ p.members, trim m.2 = m.2
  fields : ∀ f ∈ p.fields, IsField f
  statusKey : p.statusKey ≠ some ""
  headed : isBlankText p.title = false

/-! ### Members of a document -/

section Members

variable {doc : Json} {key s : String}

theorem isBlankText_eq_false_iff : isBlankText s = false ↔ ∃ c ∈ s.toList, isBlank c = false := by
  simp [isBlankText]

theorem isBlankText_of_trimmed (h : trim s = s) (hs : s ≠ "") : isBlankText s = false := by
  rw [← isEmpty_trim, h]
  simpa using hs

theorem textAt_of_get? (h : doc.get? key = some (.str s)) : textAt doc key = trim s := by
  simp [textAt, h, Json.str?]

theorem trim_textAt (doc : Json) (key : String) : trim (textAt doc key) = textAt doc key := by
  unfold textAt
  split
  · exact trim_trim _
  · rfl

theorem textAt_ne_empty_iff : textAt doc key ≠ "" ↔ HasText doc key := by
  constructor
  · intro h
    unfold textAt at h
    split at h
    · next s hs =>
      refine ⟨s, Json.bind_str?_eq_some_iff.1 hs, isBlankText_eq_false_iff.1 ?_⟩
      rw [← isEmpty_trim]
      simpa using h
    · exact absurd rfl h
  · rintro ⟨s, hs, visible⟩
    rw [textAt_of_get? hs]
    intro empty
    have blank := isBlankText_eq_false_iff.2 visible
    rw [← isEmpty_trim, empty] at blank
    cases blank

theorem trim_linkAt? (doc : Json) (key : String) :
    trim ((linkAt? doc key).getD "") = (linkAt? doc key).getD "" := by
  cases h : linkAt? doc key with
  | none => rfl
  | some t =>
    obtain ⟨v, -, ht⟩ := Option.bind_eq_some_iff.1 h
    exact Link.trim_of_resolve? ht

/-- A trimmed text is its own link, unless it is empty. -/
theorem linkAt?_of_get? (h : doc.get? key = some (.str s)) (ht : trim s = s) :
    linkAt? doc key = if s = "" then none else some s := by
  rw [linkAt?, h, Option.bind_some, Link.resolve?]
  by_cases hs : s = ""
  · rw [if_pos hs, hs]
    rfl
  · rw [if_neg hs]
    exact Link.usable?_eq_some_iff.2 ⟨isBlankText_of_trimmed ht hs, ht⟩

theorem getD_linkAt?_of_get? (h : doc.get? key = some (.str s)) (ht : trim s = s) :
    (linkAt? doc key).getD "" = s := by
  rw [linkAt?_of_get? h ht]
  split
  · next hs => exact hs.symm
  · rfl

end Members

/-! ### Fields -/

theorem isField_of_fieldOf? {attachment : Json} {f : ProfileField}
    (h : fieldOf? attachment = some f) : IsField f := by
  unfold fieldOf? at h
  split at h
  · dsimp only at h
    split at h
    · cases h
    · next named =>
      obtain rfl := Option.some.inj h
      exact ⟨by simpa using named, trim_textAt _ _, trim_textAt _ _⟩
  · cases h

theorem fieldOf?_attachmentOf {f : ProfileField} (h : IsField f) :
    fieldOf? (attachmentOf f) = some f := by
  obtain ⟨named, hn, hv⟩ := h
  have name : textAt (attachmentOf f) "name" = f.name :=
    (textAt_of_get? (by simp [attachmentOf, Json.get?, Json.lookup])).trans hn
  have value : textAt (attachmentOf f) "value" = f.value :=
    (textAt_of_get? (by simp [attachmentOf, Json.get?, Json.lookup])).trans hv
  have kind : ((attachmentOf f).get? "type").bind Json.str? = some "PropertyValue" := by
    simp [attachmentOf, Json.get?, Json.lookup, Json.str?]
  rw [fieldOf?, if_pos kind, name, value]
  simp [named]

section Whole

variable {doc : Json} {p : Profile}

/-! ### What is read is in normal form -/

theorem ofDocument_of_no_id (h : ¬ HasText doc "id") :
    ofDocument doc = .error (.decode "actor document has no id") := by
  have empty : textAt doc "id" = "" := by
    by_cases blank : textAt doc "id" = ""
    · exact blank
    · exact absurd (textAt_ne_empty_iff.1 blank) h
  rw [ofDocument]
  simp [empty]

theorem ofDocument_of_id (h : HasText doc "id") : ∃ p, ofDocument doc = .ok p := by
  have id := textAt_ne_empty_iff.2 h
  rw [ofDocument]
  simp [id]

/-- The heading is the display name, the user name with a sign before it, or the id. -/
theorem title_not_blank (hid : isBlankText p.id = false) : isBlankText p.title = false := by
  unfold title
  split
  · next shown => simpa using shown
  · split
    · refine isBlankText_eq_false_iff.2 ⟨'@', ?_, by decide⟩
      simp
    · exact hid

/-- The link of a profile page is there, and trimmed, if the id is. -/
theorem pageUrl_spec (id : textAt doc "id" ≠ "") :
    let url := (linkAt? doc "url").getD (textAt doc "id")
    url ≠ "" ∧ trim url = url := by
  cases h : linkAt? doc "url" with
  | none => exact ⟨id, trim_textAt doc "id"⟩
  | some t =>
    obtain ⟨v, -, found⟩ := Option.bind_eq_some_iff.1 h
    exact ⟨Link.ne_empty_of_resolve? found, Link.trim_of_resolve? found⟩

theorem normal_of_ofDocument (h : ofDocument doc = .ok p) : p.Normal := by
  unfold ofDocument at h
  dsimp only at h
  split at h
  · cases h
  · next hid =>
    obtain rfl := Except.ok.inj h
    have id : textAt doc "id" ≠ "" := by simpa using hid
    have page := pageUrl_spec id
    refine ⟨id, page.1, ?trimmed, ?fields, ?statusKey, title_not_blank ?headed⟩
    case trimmed =>
      have text := trim_textAt doc
      have link := trim_linkAt? doc
      intro m hm
      simp only [members, List.mem_cons, List.not_mem_nil, or_false] at hm
      rcases hm with rfl | rfl | rfl | rfl | rfl | rfl | rfl | rfl | rfl | rfl
      · exact text "id"
      · exact text "name"
      · exact text "preferredUsername"
      · exact text "summary"
      · exact link "icon"
      · exact link "image"
      · exact page.2
      · exact text "followers"
      · exact text "following"
      · exact text "outbox"
    case fields =>
      intro f hf
      obtain ⟨a, -, ha⟩ := List.mem_filterMap.1 hf
      exact isField_of_fieldOf? ha
    case statusKey =>
      intro key
      obtain ⟨-, written⟩ := Option.filter_eq_some_iff.1 key
      cases written
    case headed => exact isBlankText_of_trimmed (trim_textAt doc "id") id

/-! ### A profile in normal form is read from its document -/

section Document

variable (p) (peer : String)

theorem get?_document {m : String × String} (h : m ∈ p.members) :
    (p.document peer).get? m.1 = some (.str m.2) := by
  simp only [members, List.mem_cons, List.not_mem_nil, or_false] at h
  rcases h with rfl | rfl | rfl | rfl | rfl | rfl | rfl | rfl | rfl | rfl <;>
    simp [document, Json.get?, Json.lookup]

theorem statusKeyOf?_document (h : p.statusKey ≠ some "") :
    statusKeyOf? (p.document peer) = p.statusKey := by
  unfold statusKeyOf?
  cases hk : p.statusKey with
  | none => cases hp : p.isPeer <;> simp [document, hk, hp, Json.get?, Json.lookup]
  | some key =>
    have written : key ≠ "" := fun empty => h (by rw [hk, empty])
    simp [document, hk, Json.get?, Json.lookup, Json.str?, written]

theorem hasPeer_document (h : isBlankText peer = false) : hasPeer (p.document peer) = p.isPeer := by
  unfold hasPeer peerMember?
  cases hk : p.statusKey <;> cases hp : p.isPeer <;>
    simp [document, hk, hp, Json.get?, Json.lookup, Json.str?, h]

theorem fieldsOf_document (h : ∀ f ∈ p.fields, IsField f) :
    fieldsOf (p.document peer) = p.fields := by
  have attachments :
      (p.document peer).get? "attachment" = some (.arr (p.fields.map attachmentOf)) := by
    simp [document, Json.get?, Json.lookup]
  rw [fieldsOf, attachments, Option.bind_some, Json.items?, Option.getD_some, List.filterMap_map]
  have back : ∀ f ∈ p.fields, (fieldOf? ∘ attachmentOf) f = some f := by
    intro f hf
    rw [Function.comp_apply, fieldOf?_attachmentOf (h f hf)]
  rw [List.filterMap_congr back, List.filterMap_some]

end Document

theorem Normal.ofDocument_document (h : p.Normal) {peer : String}
    (hpeer : isBlankText peer = false) : ofDocument (p.document peer) = .ok p := by
  have text : ∀ m ∈ p.members, textAt (p.document peer) m.1 = m.2 := fun m hm =>
    (textAt_of_get? (get?_document p peer hm)).trans (h.trimmed m hm)
  have link : ∀ m ∈ p.members, (linkAt? (p.document peer) m.1).getD "" = m.2 := fun m hm =>
    getD_linkAt?_of_get? (get?_document p peer hm) (h.trimmed m hm)
  have url : ("url", p.url) ∈ p.members := by simp [members]
  have page : linkAt? (p.document peer) "url" = some p.url := by
    rw [linkAt?_of_get? (get?_document p peer url) (h.trimmed _ url), if_neg h.url]
  simp only [members, List.forall_mem_cons, List.not_mem_nil, false_implies, implies_true]
    at text link
  obtain ⟨id, name, user, summary, -, -, -, followers, following, outbox, -⟩ := text
  obtain ⟨-, -, -, -, icon, image, -⟩ := link
  rw [ofDocument]
  simp [id, name, user, summary, icon, image, page, followers, following, outbox, h.id,
    fieldsOf_document p peer h.fields, hasPeer_document p peer hpeer,
    statusKeyOf?_document p peer h.statusKey]

/-- **Reading normalizes.** A document without an id is refused, and any other gives a profile in
normal form, whose canonical document is read as that profile again, whatever peer it names. -/
theorem reading_normalizes (doc : Json) :
    (¬ HasText doc "id" → ofDocument doc = .error (.decode "actor document has no id")) ∧
    (HasText doc "id" → ∃ p, ofDocument doc = .ok p ∧ p.Normal ∧
      ∀ peer, isBlankText peer = false → ofDocument (p.document peer) = .ok p) := by
  refine ⟨ofDocument_of_no_id, fun id => ?_⟩
  obtain ⟨p, hp⟩ := ofDocument_of_id id
  have normal := normal_of_ofDocument hp
  exact ⟨p, hp, normal, fun peer hpeer => normal.ofDocument_document hpeer⟩

/-- A document with blanks around its texts, links within links, and attachments that are not
fields. -/
def untidy : Json :=
  .obj [("id", .str " https://b.test/u/bob\n"), ("name", .str "\t"),
    ("preferredUsername", .str "bob "),
    ("icon", .arr [.obj [("url", .str " ")], .obj [("href", .str " https://b.test/i.png ")]]),
    ("url", .obj [("url", .null), ("href", .str "https://b.test/@bob")]),
    ("attachment", .arr [
      .obj [("type", .str "PropertyValue"), ("name", .str " Site "), ("value", .null)],
      .obj [("type", .str "PropertyValue"), ("name", .str " ")], .str "Site"]),
    ("fedi3PeerId", .str "12D3Koo"), ("statusKey", .str " ")]

theorem untidy_normalizes :
    ¬ HasText (.obj [("id", .str " ")]) "id" ∧
    ofDocument (.obj [("id", .str " ")]) = .error (.decode "actor document has no id") ∧
    HasText untidy "id" ∧
    ∃ p, ofDocument untidy = .ok p ∧ p.Normal ∧ p.fields = [⟨"Site", ""⟩] ∧
      ofDocument (p.document "12D3Koo") = .ok p := by
  have blank : ¬ HasText (.obj [("id", .str " ")]) "id" := by
    rw [← textAt_ne_empty_iff]
    decide
  have id : HasText untidy "id" := textAt_ne_empty_iff.1 (by decide)
  obtain ⟨p, hp, normal, again⟩ := (reading_normalizes untidy).2 id
  refine ⟨blank, (reading_normalizes _).1 blank, id, p, hp, normal, ?_, again _ (by decide)⟩
  have read : (ofDocument untidy).map Profile.fields = .ok [⟨"Site", ""⟩] := by decide
  rw [hp] at read
  exact Except.ok.inj read

end Whole

end FollowClient.Profile
