import FollowClient.Core.Migration
import FollowClient.Proofs.Json.Members

/-!
The migration status is read back from what is written (`ofJson?_toJson`), so writing and reading it
again changes nothing. That holds for a value and for the tree of a body alike, and both are read in
the same way (`Reads`): what is no field is passed over, a missing text is the same as `null`, and the
guides are kept as they are.
-/

namespace FollowClient.MigrationStatus

open Json

/-- The fields that may be `null`. -/
def nullable : List String := ["key_id", "did", "domain"]

theorem mem_names_of_mem_nullable {name : String} (h : name ∈ nullable) : name ∈ names :=
  (by decide : ∀ name ∈ nullable, name ∈ names) name h

theorem ne_relay_of_mem_nullable {name : String} (h : name ∈ nullable) : name ≠ "relay_migration" :=
  (by decide : ∀ name ∈ nullable, name ≠ "relay_migration") name h

/-! ### What a reader looks at -/

variable {members members' front back : List (String × Json)} {s : MigrationStatus}

theorem nullable?_ofText? (t : Option String) : nullable? str? (some (ofText? t)) = some t := by
  cases t <;> rfl

/-- Two objects in which a reader finds the same. -/
structure Agree (members members' : List (String × Json)) : Prop where
  same : ∀ name ∈ names, name ≠ "relay_migration" → name ∉ nullable →
    lookup name members = lookup name members'
  nulls : ∀ name ∈ nullable,
    nullable? str? (lookup name members) = nullable? str? (lookup name members')
  relay : withDefault? .unknown RelayMigration.ofJson? (lookup "relay_migration" members) =
    withDefault? .unknown RelayMigration.ofJson? (lookup "relay_migration" members')

theorem Agree.of_lookup (h : ∀ name ∈ names, lookup name members = lookup name members') :
    Agree members members' where
  same name known _ _ := h name known
  nulls name text := by rw [h name (mem_names_of_mem_nullable text)]
  relay := by rw [h "relay_migration" (by decide)]

theorem ofJson?_obj (members : List (String × Json)) :
    ofJson? (.obj members) = (do
      let actor ← required? str? (lookup "actor" members)
      let publicBaseUrl ← withDefault? "" str? (lookup "public_base_url" members)
      let followersCount ← withDefault? 0 nat? (lookup "followers_count" members)
      let legacyFollowersCount ← withDefault? 0 nat? (lookup "legacy_followers_count" members)
      let legacyAliases ← withDefault? [] texts? (lookup "legacy_aliases" members)
      let relayMigration ←
        withDefault? .unknown RelayMigration.ofJson? (lookup "relay_migration" members)
      let keyId ← nullable? str? (lookup "key_id" members)
      let did ← nullable? str? (lookup "did" members)
      let domain ← nullable? str? (lookup "domain" members)
      let alsoKnownAs ← withDefault? [] texts? (lookup "also_known_as" members)
      pure {
        actor, publicBaseUrl, followersCount, legacyFollowersCount, legacyAliases, relayMigration
        legacyGuides := (lookup "legacy_guides" members).getD .null
        keyId, did, domain, alsoKnownAs }) := rfl

theorem ofJson?_toJson (s : MigrationStatus) : ofJson? s.toJson = some s := by
  rw [toJson, ofJson?_obj]
  simp [lookup, required?, withDefault?, nullable?_ofText?, texts?_ofTexts, str?]

theorem ofJson?_congr (h : Agree members members') :
    ofJson? (.obj members) = ofJson? (.obj members') := by
  have same (name : String) (known : name ∈ names) (plain : name ≠ "relay_migration")
      (text : name ∉ nullable) := h.same name known plain text
  rw [ofJson?_obj, ofJson?_obj, h.relay, h.nulls "key_id" (by decide), h.nulls "did" (by decide),
    h.nulls "domain" (by decide), same "actor" (by decide) (by decide) (by decide),
    same "public_base_url" (by decide) (by decide) (by decide),
    same "followers_count" (by decide) (by decide) (by decide),
    same "legacy_followers_count" (by decide) (by decide) (by decide),
    same "legacy_aliases" (by decide) (by decide) (by decide),
    same "legacy_guides" (by decide) (by decide) (by decide),
    same "also_known_as" (by decide) (by decide) (by decide)]

/-- In key order the last member of a name counts. -/
theorem ofJson?_object (members : List (String × Json)) :
    ofJson? (object members) = ofJson? (.obj members.reverse) :=
  ofJson?_congr (.of_lookup fun _ _ => get?_object members)

/-- What is written is read back from an object in key order as well. -/
theorem ofJson?_object_toJson {s : MigrationStatus} (h : s.toJson = .obj members) :
    ofJson? (object members) = some s := by
  have once : (members.map Prod.fst).Nodup := by
    cases h
    show names.Nodup
    decide
  rw [ofJson?_object, ofJson?_congr (.of_lookup fun name _ => lookup_reverse once), ← h,
    ofJson?_toJson]

theorem legacyGuides_of_fields {v : Json} {fields : List (Option Json)}
    (read : v.fields? names false = some fields) (h : ofJson? v = some s) :
    ∃ guides, fields[6]? = some guides ∧ s.legacyGuides = guides.getD .null := by
  unfold ofJson? at h
  rw [read] at h
  split at h
  · next all =>
    cases all
    simp only [Option.bind_eq_bind, Option.bind_eq_some_iff] at h
    obtain ⟨_, -, _, -, _, -, _, -, _, -, _, -, _, -, _, -, _, -, _, -, same⟩ := h
    cases same
    exact ⟨_, rfl, rfl⟩
  · cases h

theorem legacyGuides_of_obj (h : ofJson? (.obj members) = some s) :
    s.legacyGuides = (lookup "legacy_guides" members).getD .null := by
  obtain ⟨guides, place, value⟩ := legacyGuides_of_fields rfl h
  cases place
  exact value

/-! ### A way of reading -/

/-- How the migration status is read from an object or a list. A value and the tree of a body are read
in the same way; they differ in their names, in their values, and in how these are understood. -/
structure Reads {K V : Type} (name? : K → Option String) (value? : V → Option Json)
    (object : List (K × V) → V) (list : List V → V) (null : V) (read : V → Option MigrationStatus) :
    Prop where
  /-- The guides are kept as they are. -/
  guides : ∀ {front back key guides s}, name? key = some "legacy_guides" →
    (∀ m ∈ front ++ back, name? m.1 ≠ some "legacy_guides") →
    read (object (front ++ (key, guides) :: back)) = some s → value? guides = some s.legacyGuides
  /-- Without guides there is nothing in their place. -/
  noGuides : ∀ {members s}, (∀ m ∈ members, name? m.1 ≠ some "legacy_guides") →
    read (object members) = some s → s.legacyGuides = .null
  /-- A text that is `null` is the same as none. -/
  nulls : ∀ {front back key field}, field ∈ nullable → name? key = some field →
    (∀ m ∈ front ++ back, name? m.1 ≠ some field) →
    read (object (front ++ (key, null) :: back)) = read (object (front ++ back))
  /-- What is no field is passed over, wherever it stands. -/
  unknown : ∀ {front back key v field}, name? key = some field → field ∉ names →
    read (object (front ++ (key, v) :: back)) = read (object (front ++ back))
  /-- So is what is no field of the relay's part. -/
  unknownOfRelay : ∀ {front back relay first last key v field}, name? relay = some "relay_migration" →
    name? key = some field → field ∉ RelayMigration.names →
    read (object (front ++ (relay, object (first ++ (key, v) :: last)) :: back)) =
      read (object (front ++ (relay, object (first ++ last)) :: back))
  /-- In a list the guides stand in the seventh place. -/
  listGuides : ∀ {items guides s}, items[6]? = some guides → read (list items) = some s →
    value? guides = some s.legacyGuides
  noListGuides : ∀ {items s}, items.length ≤ 6 → read (list items) = some s →
    s.legacyGuides = .null
  /-- The texts follow them; one that is `null` is the same as none at the end. -/
  listNulls : ∀ {items}, 7 ≤ items.length → items.length < 10 →
    read (list (items ++ [null])) = read (list items)

/-! ### Values -/

theorem lookup_names_of_unknown {field name : String} {v : Json} (unknown : field ∉ names)
    (known : name ∈ names) :
    lookup name (front ++ (field, v) :: back) = lookup name (front ++ back) :=
  lookup_insert_of_ne (by rintro rfl; exact unknown known) front back

theorem agree_null {field : String} (text : field ∈ nullable)
    (only : ∀ m ∈ front ++ back, m.1 ≠ field) :
    Agree (front ++ (field, .null) :: back) (front ++ back) where
  same name _ _ plain := lookup_insert_of_ne (by rintro rfl; exact plain text) front back
  nulls name _ := by
    by_cases same : field = name
    · subst same
      have new : lookup field front = none :=
        lookup_eq_none fun m hm => only m (List.mem_append_left _ hm)
      rw [lookup_insert_self new, lookup_eq_none only]
      rfl
    · rw [lookup_insert_of_ne same]
  relay := by rw [lookup_insert_of_ne (ne_relay_of_mem_nullable text)]

theorem ofJson?_relay_unknown {field : String} {v : Json} (unknown : field ∉ RelayMigration.names) :
    RelayMigration.ofJson? (.obj (front ++ (field, v) :: back)) =
      RelayMigration.ofJson? (.obj (front ++ back)) := by
  have fields : (Json.obj (front ++ (field, v) :: back)).fields? RelayMigration.names false =
      (Json.obj (front ++ back)).fields? RelayMigration.names false := by
    refine congrArg some (List.map_congr_left fun name known => ?_)
    exact lookup_insert_of_ne (by rintro rfl; exact unknown known) front back
  rw [RelayMigration.ofJson?, fields, RelayMigration.ofJson?]

theorem agree_relay {v w : Json} (same : RelayMigration.ofJson? v = RelayMigration.ofJson? w) :
    Agree (front ++ ("relay_migration", v) :: back) (front ++ ("relay_migration", w) :: back) where
  same name _ plain _ := by
    rw [lookup_insert_of_ne (Ne.symm plain), lookup_insert_of_ne (Ne.symm plain)]
  nulls name text := by
    have plain := (ne_relay_of_mem_nullable text).symm
    rw [lookup_insert_of_ne plain, lookup_insert_of_ne plain]
  relay := by
    rw [lookup_append, lookup_append]
    cases lookup "relay_migration" front with
    | some u => rfl
    | none => simpa [withDefault?] using same

theorem fields_of_list {items : List Json} {s : MigrationStatus} (h : ofJson? (.arr items) = some s) :
    items.length ≤ 11 ∧ (Json.arr items).fields? names false =
      some (items.map some ++ List.replicate (11 - items.length) none) := by
  by_cases long : 11 < items.length
  · have refused : (Json.arr items).fields? names false = none := by
      simp [fields?, names, long]
    rw [ofJson?, refused] at h
    cases h
  · exact ⟨Nat.not_lt.1 long, by simp [fields?, names, long]⟩

theorem reads_value : Reads some some Json.obj Json.arr Json.null ofJson? where
  guides {front back key guides s} hkey only h := by
    cases hkey
    have first : lookup "legacy_guides" front = none :=
      lookup_eq_none fun m hm same => only m (List.mem_append_left _ hm) (congrArg some same)
    rw [legacyGuides_of_obj h, lookup_insert_self first]
    rfl
  noGuides {members s} only h := by
    have missing : lookup "legacy_guides" members = none :=
      lookup_eq_none fun m hm same => only m hm (congrArg some same)
    rw [legacyGuides_of_obj h, missing]
    rfl
  nulls text hkey only := by
    cases hkey
    exact ofJson?_congr (agree_null text fun m hm same => only m hm (congrArg some same))
  unknown hkey unknown := by
    cases hkey
    exact ofJson?_congr (.of_lookup fun name known => lookup_names_of_unknown unknown known)
  unknownOfRelay hrelay hkey unknown := by
    cases hrelay
    cases hkey
    exact ofJson?_congr (agree_relay (ofJson?_relay_unknown unknown))
  listGuides {items guides s} place h := by
    obtain ⟨-, fields⟩ := fields_of_list h
    obtain ⟨g, found, value⟩ := legacyGuides_of_fields fields h
    have inside : 6 < items.length := (List.getElem?_eq_some_iff.1 place).1
    rw [List.getElem?_append_left (by simpa using inside), List.getElem?_map, place] at found
    cases found
    rw [value]
    rfl
  noListGuides {items s} short h := by
    obtain ⟨-, fields⟩ := fields_of_list h
    obtain ⟨g, found, value⟩ := legacyGuides_of_fields fields h
    rw [List.getElem?_append_right (by simpa using short), List.length_map,
      List.getElem?_replicate_of_lt (by omega)] at found
    cases found
    rw [value]
    rfl
  listNulls {items} many few := by
    match items, many, few with
    | [_, _, _, _, _, _, _], _, _ => rfl
    | [_, _, _, _, _, _, _, _], _, _ => rfl
    | [_, _, _, _, _, _, _, _, _], _, _ => rfl

/-! ### Bodies -/

/-- The migration status in a body, from the tree of its text. -/
def ofBody? (w : Written) : Option MigrationStatus := (shape.value? depthLimit w).bind ofJson?

/-- How deep a member or an item of a body may nest: one level less than the body. -/
def memberDepth : Nat := depthLimit - 1

/-- What the fields hold. -/
def known : List (String × Shape) :=
  names.map fun n => (n, if n = "relay_migration" then RelayMigration.shape else .any)

section Bodies

variable {ahead behind : List (List UInt8 × Written)} {raw : List UInt8} {w w' : Written}
  {name : String} {items : List Written} {values : List Json}

theorem find_known (field : name ∈ names) (plain : name ≠ "relay_migration") :
    Shape.find name known = some .any := by
  rw [known, Shape.find_map_of_mem _ field, if_neg plain]

theorem ofBody?_members (ws : List (List UInt8 × Written)) :
    ofBody? (.members ws) =
      (Shape.members? known [] memberDepth ws).bind fun members => ofJson? (.obj members.reverse) := by
  show ((Shape.fields known).value? (memberDepth + 1) (.members ws)).bind ofJson? = _
  rw [Shape.value?, Option.bind_map]
  exact Option.bind_congr fun members _ => ofJson?_object members

theorem ofBody?_list (ws : List Written) :
    ofBody? (.list ws) =
      (Shape.places? known 0 memberDepth ws).bind fun values => ofJson? (.arr values) := by
  show ((Shape.fields known).value? (memberDepth + 1) (.list ws)).bind ofJson? = _
  rw [Shape.value?, Option.bind_map]
  rfl

theorem ofBody?_insert (means : Escape.text? raw = some name) (field : name ∈ names)
    (plain : name ≠ "relay_migration") (only : ∀ m ∈ ahead ++ behind, Escape.text? m.1 ≠ some name) :
    ofBody? (.members (ahead ++ (raw, w) :: behind)) =
      (Shape.members? known [] memberDepth ahead).bind fun before =>
        (Written.toJson? memberDepth w).bind fun v =>
          (Shape.members? known (before.map Prod.fst).reverse memberDepth behind).bind fun after =>
            ofJson? (.obj (after.reverse ++ (name, v) :: before.reverse)) := by
  rw [ofBody?_members, Shape.members?_insert means (find_known field plain) only, Option.bind_assoc,
    Shape.value?_any]
  refine Option.bind_congr fun before _ => ?_
  rw [Option.bind_assoc]
  refine Option.bind_congr fun v _ => ?_
  rw [Option.bind_map]
  refine Option.bind_congr fun after _ => ?_
  simp

theorem ofBody?_append (ahead behind : List (List UInt8 × Written)) :
    ofBody? (.members (ahead ++ behind)) =
      (Shape.members? known [] memberDepth ahead).bind fun before =>
        (Shape.members? known (before.map Prod.fst).reverse memberDepth behind).bind fun after =>
          ofJson? (.obj (after.reverse ++ before.reverse)) := by
  rw [ofBody?_members, Shape.members?_append, Option.bind_assoc]
  refine Option.bind_congr fun before _ => ?_
  rw [Option.bind_map, List.append_nil]
  refine Option.bind_congr fun after _ => ?_
  simp

theorem unnamed_of_members? {ws : List (List UInt8 × Written)} {seen : List String}
    (only : ∀ m ∈ ws, Escape.text? m.1 ≠ some name)
    (read : Shape.members? known seen memberDepth ws = some members) :
    ∀ m ∈ members, m.1 ≠ name := by
  rintro m hm rfl
  obtain ⟨x, hx, means⟩ := Shape.exists_of_mem_members? read hm
  exact only x hx means

theorem unnamed_in_order {before after : List (String × Json)} {seen seen' : List String}
    (only : ∀ m ∈ ahead ++ behind, Escape.text? m.1 ≠ some name)
    (readAhead : Shape.members? known seen memberDepth ahead = some before)
    (readBehind : Shape.members? known seen' memberDepth behind = some after) :
    ∀ m ∈ after.reverse ++ before.reverse, some m.1 ≠ some name := by
  obtain ⟨onlyAhead, onlyBehind⟩ := List.forall_mem_append.1 only
  intro m hm same
  rw [List.mem_append, List.mem_reverse, List.mem_reverse] at hm
  rcases hm with hm | hm
  · exact unnamed_of_members? onlyBehind readBehind m hm (Option.some.inj same)
  · exact unnamed_of_members? onlyAhead readAhead m hm (Option.some.inj same)

theorem ofBody?_null (text : name ∈ nullable) (means : Escape.text? raw = some name)
    (only : ∀ m ∈ ahead ++ behind, Escape.text? m.1 ≠ some name) :
    ofBody? (.members (ahead ++ (raw, .null) :: behind)) = ofBody? (.members (ahead ++ behind)) := by
  rw [ofBody?_insert means (mem_names_of_mem_nullable text) (ne_relay_of_mem_nullable text) only,
    ofBody?_append]
  refine Option.bind_congr fun before readAhead => ?_
  rw [Written.toJson?, Option.bind_some]
  refine Option.bind_congr fun after readBehind => ?_
  exact reads_value.nulls text rfl (unnamed_in_order only readAhead readBehind)

theorem nth_known_text {i : Nat} (many : 7 ≤ i) (few : i < 10) : Shape.nth known i = .any := by
  obtain rfl | rfl | rfl : i = 7 ∨ i = 8 ∨ i = 9 := by omega
  all_goals rfl

theorem reads_body : Reads Escape.text? (Written.toJson? memberDepth) Written.members Written.list
    Written.null ofBody? where
  guides {ahead behind raw w s} means only h := by
    rw [ofBody?_insert means (by decide) (by decide) only] at h
    simp only [Option.bind_eq_some_iff] at h
    obtain ⟨before, readAhead, v, value, after, readBehind, h⟩ := h
    rw [value]
    exact reads_value.guides rfl (unnamed_in_order only readAhead readBehind) h
  noGuides {ws s} only h := by
    rw [ofBody?_members] at h
    obtain ⟨members, read, h⟩ := Option.bind_eq_some_iff.1 h
    refine reads_value.noGuides (fun m hm same => ?_) h
    exact unnamed_of_members? only read m (List.mem_reverse.1 hm) (Option.some.inj same)
  nulls text means only := ofBody?_null text means only
  unknown means unknown :=
    congrArg (Option.bind · ofJson?)
      (Shape.value?_unknown means (Shape.find_map_of_not_mem _ unknown))
  unknownOfRelay {ahead behind relay first last raw w field} hrelay means unknown := by
    have same : RelayMigration.shape.value? memberDepth (.members (first ++ (raw, w) :: last)) =
        RelayMigration.shape.value? memberDepth (.members (first ++ last)) :=
      Shape.value?_unknown means (Shape.find_map_of_not_mem _ unknown)
    have kind : Shape.find "relay_migration" known = some RelayMigration.shape := rfl
    rw [ofBody?_members, ofBody?_members, Shape.members?_congr_value hrelay kind same]
  listGuides {items w s} item h := by
    rw [ofBody?_list] at h
    obtain ⟨values, read, h⟩ := Option.bind_eq_some_iff.1 h
    obtain ⟨v, found, value⟩ := Shape.getElem?_of_places? read item
    rw [show Shape.nth known (0 + 6) = .any from rfl, Shape.value?_any] at value
    rw [value]
    exact reads_value.listGuides found h
  noListGuides {items s} short h := by
    rw [ofBody?_list] at h
    obtain ⟨values, read, h⟩ := Option.bind_eq_some_iff.1 h
    exact reads_value.noListGuides (Shape.length_of_places? read ▸ short) h
  listNulls {items} many few := by
    rw [ofBody?_list, ofBody?_list, Shape.places?_append_singleton, Option.bind_assoc,
      Nat.zero_add, nth_known_text many few, Shape.value?_any, Written.toJson?]
    refine Option.bind_congr fun values read => ?_
    rw [← Shape.length_of_places? read] at many few
    exact reads_value.listNulls many few

/-- A body is read by way of its tree. -/
theorem read?_bind_ofJson? (bytes : List UInt8) :
    (shape.read? bytes).bind ofJson? = (Written.read? bytes).bind ofBody? := Option.bind_assoc _ _ _

end Bodies

/-- **The migration status survives that it is written and read again.** A status is read back from
the value that is written of it, with its members in the order of the fields or of their names. So
of a value, or a body, that can be read, the status that was read is read again. The guides are
kept as they are, a text that is `null` is as good as a missing one, and what is no field, of the
status or of the relay's part, is passed over. -/
theorem status_survives_writing :
    (∀ s : MigrationStatus, ofJson? s.toJson = some s ∧
      s.toJson.get? "legacy_guides" = some s.legacyGuides ∧
      ∀ members, s.toJson = .obj members → ofJson? (object members) = some s) ∧
    (∀ v s, ofJson? v = some s → ofJson? s.toJson = ofJson? v) ∧
    (∀ bytes s, (shape.read? bytes).bind ofJson? = some s →
      ofJson? s.toJson = (shape.read? bytes).bind ofJson?) ∧
    Reads some some Json.obj Json.arr Json.null ofJson? ∧
    Reads Escape.text? (Written.toJson? memberDepth) Written.members Written.list Written.null
      ofBody? ∧
    ∀ bytes, (shape.read? bytes).bind ofJson? = (Written.read? bytes).bind ofBody? := by
  refine ⟨fun s => ⟨ofJson?_toJson s, rfl, fun _ => ofJson?_object_toJson⟩, ?values, ?bodies,
    reads_value, reads_body, read?_bind_ofJson?⟩
  case values =>
    intro v s h
    rw [ofJson?_toJson, h]
  case bodies =>
    intro bytes s h
    rw [ofJson?_toJson, h]

/-- A member that is no field and a text that is `null` make no difference. -/
theorem status_with_other_members :
    ofJson? (.obj [("actor", .str "a"), ("since", .ofNat 7), ("did", .null)]) =
      ofJson? (.obj [("actor", .str "a")]) := by
  obtain ⟨-, -, -, values, -⟩ := status_survives_writing
  have passed : ofJson? (.obj ([("actor", .str "a")] ++ ("since", .ofNat 7) :: [("did", .null)])) =
      ofJson? (.obj ([("actor", .str "a")] ++ [("did", .null)])) :=
    values.unknown rfl (by decide)
  have missing : ofJson? (.obj ([("actor", .str "a")] ++ ("did", .null) :: [])) =
      ofJson? (.obj ([("actor", .str "a")] ++ [])) :=
    values.nulls (by decide) rfl (by decide)
  exact passed.trans missing

end FollowClient.MigrationStatus
