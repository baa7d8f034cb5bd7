import FollowClient.Json.Shape

/-!
The members of an object. An object in key order has, of each name, the last member in the list it is
made from (`get?_object`). A record is read member by member, each with regard to those before it
only by their names (`Shape.members?_append`): a member whose name is not known leaves no trace
(`Shape.value?_unknown`), and a known one adds its value and nothing else (`Shape.members?_insert`).
-/

namespace FollowClient.Json

/-! ### Looking up a member -/

variable {key k : String} {v : Json}

@[simp] theorem lookup_cons_self (rest : List (String × Json)) :
    lookup key ((key, v) :: rest) = some v := if_pos rfl

theorem lookup_cons_of_ne (other : k ≠ key) (rest : List (String × Json)) :
    lookup key ((k, v) :: rest) = lookup key rest := if_neg other

theorem lookup_append (front back : List (String × Json)) :
    lookup key (front ++ back) = (lookup key front).or (lookup key back) := by
  induction front with
  | nil => rfl
  | cons m rest ih =>
    obtain ⟨k, v⟩ := m
    by_cases same : k = key
    · subst same
      rw [List.cons_append, lookup_cons_self, lookup_cons_self, Option.some_or]
    · rw [List.cons_append, lookup_cons_of_ne same, lookup_cons_of_ne same, ih]

theorem lookup_insert_of_ne (other : k ≠ key) (front back : List (String × Json)) :
    lookup key (front ++ (k, v) :: back) = lookup key (front ++ back) := by
  rw [lookup_append, lookup_append, lookup_cons_of_ne other]

theorem lookup_insert_self {front : List (String × Json)} (new : lookup key front = none)
    (back : List (String × Json)) : lookup key (front ++ (key, v) :: back) = some v := by
  rw [lookup_append, new, Option.none_or, lookup_cons_self]

theorem lookup_eq_none {members : List (String × Json)} (h : ∀ m ∈ members, m.1 ≠ key) :
    lookup key members = none := by
  induction members with
  | nil => rfl
  | cons m rest ih =>
    obtain ⟨other, h⟩ := List.forall_mem_cons.1 h
    rw [lookup_cons_of_ne other, ih h]

theorem lookup_putMember (members : List (String × Json)) :
    lookup key (putMember k v members) = if k = key then some v else lookup key members := by
  induction members with
  | nil => rfl
  | cons m rest ih =>
    obtain ⟨l, w⟩ := m
    rw [putMember]
    split
    · rfl
    · split
      · next same =>
        subst same
        by_cases h : k = key <;> simp [lookup, h]
      · next other =>
        by_cases h : l = key
        · subst h
          rw [lookup_cons_self, if_neg other, lookup_cons_self]
        · rw [lookup_cons_of_ne h, ih, lookup_cons_of_ne h]

theorem lookup_foldl_putMember (members acc : List (String × Json)) :
    lookup key (members.foldl (fun acc m => putMember m.1 m.2 acc) acc) =
      (lookup key members.reverse).or (lookup key acc) := by
  induction members generalizing acc with
  | nil => rfl
  | cons m rest ih =>
    rw [List.foldl_cons, ih, lookup_putMember, List.reverse_cons, lookup_append]
    cases lookup key rest.reverse with
    | some w => rfl
    | none =>
      by_cases same : m.1 = key <;> simp [lookup, same]

/-- In the object made from a list of members the last one of a name counts. -/
theorem get?_object (members : List (String × Json)) :
    (object members).get? key = lookup key members.reverse := by
  show lookup key (members.foldl (fun acc m => putMember m.1 m.2 acc) []) = _
  rw [lookup_foldl_putMember]
  exact Option.or_none

/-- If no name occurs twice, the order in which members are looked through does not matter. -/
theorem lookup_reverse {members : List (String × Json)} (h : (members.map Prod.fst).Nodup) :
    lookup key members.reverse = lookup key members := by
  induction members with
  | nil => rfl
  | cons m rest ih =>
    obtain ⟨k, v⟩ := m
    obtain ⟨new, h⟩ := List.nodup_cons.1 h
    rw [List.reverse_cons, lookup_append, ih h]
    by_cases same : k = key
    · subst same
      have missing : lookup k rest = none := by
        refine lookup_eq_none ?_
        rintro m hm rfl
        exact new (List.mem_map.2 ⟨m, hm, rfl⟩)
      rw [missing, Option.none_or, lookup_cons_self, lookup_cons_self]
    · rw [lookup_cons_of_ne same, lookup_cons_of_ne same]
      exact Option.or_none

/-! ### Records in a body -/

namespace Shape

variable {known : List (String × Shape)} {seen seen' : List String} {depth : Nat}
  {raw : List UInt8} {w w' : Written} {shape : Shape}
  {front back ws : List (List UInt8 × Written)} {name : String}

theorem find_map_of_mem {names : List String} (f : String → Shape) (h : name ∈ names) :
    find name (names.map fun n => (n, f n)) = some (f name) := by
  induction names with
  | nil => cases h
  | cons n rest ih =>
    by_cases same : n = name
    · rw [List.map_cons, find, if_pos same, same]
    · rw [List.map_cons, find, if_neg same, ih (List.mem_of_ne_of_mem (Ne.symm same) h)]

theorem find_map_of_not_mem {names : List String} (f : String → Shape) (h : name ∉ names) :
    find name (names.map fun n => (n, f n)) = none := by
  induction names with
  | nil => rfl
  | cons n rest ih =>
    obtain ⟨other, h⟩ := not_or.1 (mt List.mem_cons.2 h)
    rw [List.map_cons, find, if_neg (Ne.symm other), ih h]

theorem members?_cons_unknown (means : Escape.text? raw = some name) (kind : find name known = none) :
    members? known seen depth ((raw, w) :: back) = members? known seen depth back := by
  rw [members?, means, Option.bind_eq_bind, Option.bind_some, kind]

theorem members?_cons (means : Escape.text? raw = some name) (kind : find name known = some shape)
    (new : name ∉ seen) :
    members? known seen depth ((raw, w) :: back) =
      (value? shape depth w).bind fun v =>
        (members? known (name :: seen) depth back).map ((name, v) :: ·) := by
  rw [members?, means, Option.bind_eq_bind, Option.bind_some, kind]
  simp only [if_neg new]
  cases value? shape depth w with
  | none => rfl
  | some v => cases members? known (name :: seen) depth back <;> rfl

theorem members?_cons_seen (means : Escape.text? raw = some name)
    (kind : find name known = some shape) (old : name ∈ seen) :
    members? known seen depth ((raw, w) :: back) = none := by
  rw [members?, means, Option.bind_eq_bind, Option.bind_some, kind]
  exact if_pos old

theorem members?_cons_of_text?_none (means : Escape.text? raw = none) :
    members? known seen depth ((raw, w) :: back) = none := by
  rw [members?, means]
  rfl

/-- What a reader finds in a member, after the members whose names are `seen`. -/
inductive Finds (known : List (String × Shape)) (seen : List String) (raw : List UInt8) : Prop where
  | noText (means : Escape.text? raw = none)
  | unknown {name : String} (means : Escape.text? raw = some name) (kind : find name known = none)
  | repeated {name : String} {shape : Shape} (means : Escape.text? raw = some name)
      (kind : find name known = some shape) (old : name ∈ seen)
  | field {name : String} {shape : Shape} (means : Escape.text? raw = some name)
      (kind : find name known = some shape) (new : name ∉ seen)

theorem finds (known : List (String × Shape)) (seen : List String) (raw : List UInt8) :
    Finds known seen raw := by
  cases means : Escape.text? raw with
  | none => exact .noText means
  | some name =>
    cases kind : find name known with
    | none => exact .unknown means kind
    | some shape =>
      by_cases old : name ∈ seen
      · exact .repeated means kind old
      · exact .field means kind old

/-- Whether a name is used is all that a reader asks of the members before. -/
theorem members?_congr_seen
    (h : ∀ m ∈ ws, ∀ name, Escape.text? m.1 = some name → (name ∈ seen ↔ name ∈ seen')) :
    members? known seen depth ws = members? known seen' depth ws := by
  induction ws generalizing seen seen' with
  | nil => rw [members?, members?]
  | cons m rest ih =>
    obtain ⟨raw, w⟩ := m
    obtain ⟨here, later⟩ := List.forall_mem_cons.1 h
    cases finds known seen raw with
    | noText means => rw [members?_cons_of_text?_none means, members?_cons_of_text?_none means]
    | unknown means kind =>
      rw [members?_cons_unknown means kind, members?_cons_unknown means kind, ih later]
    | repeated means kind old =>
      rw [members?_cons_seen means kind old, members?_cons_seen means kind ((here _ means).1 old)]
    | @field name shape means kind new =>
      have extended : members? known (name :: seen) depth rest =
          members? known (name :: seen') depth rest :=
        ih fun m hm n hn => by rw [List.mem_cons, List.mem_cons, later m hm n hn]
      rw [members?_cons means kind new, members?_cons means kind (mt (here name means).2 new),
        extended]

theorem members?_append :
    members? known seen depth (front ++ back) =
      (members? known seen depth front).bind fun ms =>
        (members? known ((ms.map Prod.fst).reverse ++ seen) depth back).map (ms ++ ·) := by
  induction front generalizing seen with
  | nil => simp [members?]
  | cons m rest ih =>
    obtain ⟨raw, w⟩ := m
    rw [List.cons_append]
    cases finds known seen raw with
    | noText means =>
      rw [members?_cons_of_text?_none means, members?_cons_of_text?_none means, Option.bind_none]
    | unknown means kind =>
      rw [members?_cons_unknown means kind, members?_cons_unknown means kind, ih]
    | repeated means kind old =>
      rw [members?_cons_seen means kind old, members?_cons_seen means kind old, Option.bind_none]
    | @field name shape means kind new =>
      rw [members?_cons means kind new, members?_cons means kind new, ih]
      cases value? shape depth w with
      | none => rfl
      | some v =>
        cases members? known (name :: seen) depth rest with
        | none => rfl
        | some ms => simp [Function.comp_def]

/-- A name that is read is the name of a member. -/
theorem exists_of_mem_members? {ms : List (String × Json)} {m : String × Json}
    (h : members? known seen depth ws = some ms) (hm : m ∈ ms) :
    ∃ x ∈ ws, Escape.text? x.1 = some m.1 := by
  induction ws generalizing seen ms with
  | nil =>
    rw [members?] at h
    cases h
    cases hm
  | cons x rest ih =>
    obtain ⟨raw, w⟩ := x
    cases finds known seen raw with
    | noText means =>
      rw [members?_cons_of_text?_none means] at h
      cases h
    | unknown means kind =>
      rw [members?_cons_unknown means kind] at h
      obtain ⟨x, hx, named⟩ := ih h hm
      exact ⟨x, List.mem_cons_of_mem _ hx, named⟩
    | repeated means kind old =>
      rw [members?_cons_seen means kind old] at h
      cases h
    | field means kind new =>
      rw [members?_cons means kind new] at h
      obtain ⟨v, -, h⟩ := Option.bind_eq_some_iff.1 h
      obtain ⟨later, readLater, rfl⟩ := Option.map_eq_some_iff.1 h
      rcases List.mem_cons.1 hm with rfl | hm
      · exact ⟨_, List.mem_cons_self, means⟩
      · obtain ⟨x, hx, named⟩ := ih readLater hm
        exact ⟨x, List.mem_cons_of_mem _ hx, named⟩

/-- A member whose name is not known leaves no trace. -/
theorem members?_unknown (means : Escape.text? raw = some name) (kind : find name known = none) :
    members? known seen depth (front ++ (raw, w) :: back) =
      members? known seen depth (front ++ back) := by
  rw [members?_append, members?_append]
  congr 1
  funext ms
  rw [members?_cons_unknown means kind]

theorem value?_unknown (means : Escape.text? raw = some name) (kind : find name known = none) :
    value? (.fields known) depth (.members (front ++ (raw, w) :: back)) =
      value? (.fields known) depth (.members (front ++ back)) := by
  cases depth with
  | zero => rw [value?, value?] <;> simp [Written.toJson?]
  | succ depth => rw [value?, value?, members?_unknown means kind]

/-- Of a member whose name is known only its value counts. -/
theorem members?_congr_value (means : Escape.text? raw = some name)
    (kind : find name known = some shape) (same : value? shape depth w = value? shape depth w') :
    members? known seen depth (front ++ (raw, w) :: back) =
      members? known seen depth (front ++ (raw, w') :: back) := by
  rw [members?_append, members?_append]
  congr 1
  funext ms
  by_cases old : name ∈ (ms.map Prod.fst).reverse ++ seen
  · rw [members?_cons_seen means kind old, members?_cons_seen means kind old]
  · rw [members?_cons means kind old, members?_cons means kind old, same]

/-- A known member whose name occurs only once adds its value and nothing else. -/
theorem members?_insert (means : Escape.text? raw = some name) (kind : find name known = some shape)
    (only : ∀ m ∈ front ++ back, Escape.text? m.1 ≠ some name) :
    members? known [] depth (front ++ (raw, w) :: back) =
      (members? known [] depth front).bind fun before =>
        (value? shape depth w).bind fun v =>
          (members? known (before.map Prod.fst).reverse depth back).map fun after =>
            before ++ (name, v) :: after := by
  rw [members?_append]
  refine Option.bind_congr fun before read => ?_
  have new : name ∉ (before.map Prod.fst).reverse ++ [] := by
    intro old
    rw [List.append_nil, List.mem_reverse, List.mem_map] at old
    obtain ⟨m, hm, rfl⟩ := old
    obtain ⟨x, hx, named⟩ := exists_of_mem_members? read hm
    exact only x (List.mem_append_left _ hx) named
  have unused : members? known (name :: ((before.map Prod.fst).reverse ++ [])) depth back =
      members? known (before.map Prod.fst).reverse depth back := by
    refine members?_congr_seen fun m hm n hn => ?_
    have other : n ≠ name := by
      rintro rfl
      exact only m (List.mem_append_right _ hm) hn
    rw [List.mem_cons, or_iff_right other, List.append_nil]
  rw [members?_cons means kind new, unused]
  cases value? shape depth w with
  | none => rfl
  | some v => rw [Option.bind_some, Option.bind_some, Option.map_map]; rfl

/-! ### Records that are lists -/

variable {items : List Written} {values : List Json} {place i : Nat} {v : Json}

theorem places?_cons :
    places? known place depth (w :: items) =
      (value? (nth known place) depth w).bind fun v =>
        (places? known (place + 1) depth items).map (v :: ·) := by
  rw [places?]
  cases value? (nth known place) depth w with
  | none => rfl
  | some v => cases places? known (place + 1) depth items <;> rfl

theorem length_of_places? (h : places? known place depth items = some values) :
    values.length = items.length := by
  induction items generalizing place values with
  | nil =>
    rw [places?] at h
    cases h
    rfl
  | cons w rest ih =>
    rw [places?_cons] at h
    obtain ⟨v, -, h⟩ := Option.bind_eq_some_iff.1 h
    obtain ⟨others, later, rfl⟩ := Option.map_eq_some_iff.1 h
    rw [List.length_cons, List.length_cons, ih later]

/-- Each value is read from the item in its place. -/
theorem getElem?_of_places? (h : places? known place depth items = some values)
    (item : items[i]? = some w) :
    ∃ v, values[i]? = some v ∧ value? (nth known (place + i)) depth w = some v := by
  induction items generalizing place values i with
  | nil => cases item
  | cons u rest ih =>
    rw [places?_cons] at h
    obtain ⟨v, first, h⟩ := Option.bind_eq_some_iff.1 h
    obtain ⟨others, later, rfl⟩ := Option.map_eq_some_iff.1 h
    cases i with
    | zero =>
      cases item
      exact ⟨v, rfl, first⟩
    | succ i =>
      obtain ⟨v, found, read⟩ := ih later item
      exact ⟨v, found, by rw [← read, Nat.add_right_comm, Nat.add_assoc]⟩

/-- One more item adds its value at the end. -/
theorem places?_append_singleton :
    places? known place depth (items ++ [w]) =
      (places? known place depth items).bind fun vs =>
        (value? (nth known (place + items.length)) depth w).map fun v => vs ++ [v] := by
  induction items generalizing place with
  | nil =>
    rw [List.nil_append, places?_cons, places?, places?]
    cases value? (nth known place) depth w <;> rfl
  | cons u rest ih =>
    rw [List.cons_append, places?_cons, places?_cons, ih, List.length_cons,
      show place + 1 + rest.length = place + (rest.length + 1) by omega]
    cases value? (nth known place) depth u with
    | none => rfl
    | some v =>
      cases places? known (place + 1) depth rest with
      | none => rfl
      | some vs => cases value? (nth known (place + (rest.length + 1))) depth w <;> rfl

theorem value?_any : value? .any depth w = Written.toJson? depth w := by
  cases w <;> simp [value?]

end Shape

end FollowClient.Json
