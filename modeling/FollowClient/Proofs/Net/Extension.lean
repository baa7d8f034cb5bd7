import FollowClient.Proofs.Net.HostOfKey
import FollowClient.Proofs.Text.PercentForm
import Mathlib.Data.List.TakeWhile

/-!
Addresses that go on. Characters that stand for themselves in a query and in a fragment extend the
last part of an address with a query and change nothing else of it (`read?_append`): they begin no
other part, and of its parameters they extend the value of the last one only
(`parameters_extend`).
-/

namespace FollowClient.Net.Address

open Text

/-- The address with more characters at the end of its last part. -/
def extend (more : List Char) (a : Address) : Address :=
  match a.fragment with
  | some f => { a with fragment := some (f ++ more) }
  | none => { a with query := a.query.map (· ++ more) }

@[simp] theorem extend_nil (a : Address) : a.extend [] = a := by
  obtain ⟨scheme, authority, path, query, fragment⟩ := a
  cases fragment with
  | none => simp [extend]
  | some f => simp [extend]

/-- A character that stands for itself in a query and in a fragment and separates nothing there. -/
def isQuiet (c : Char) : Bool :=
  0x20 < c.toNat && isQueryChar true c && isFragmentChar c && !"#?&".toList.contains c

section Quiet

variable {c : Char}

theorem isQuiet_of_isWrittenChar (h : Percent.isWrittenChar c = true) : isQuiet c = true :=
  Percent.forall_of_isWrittenChar (P := fun c => isQuiet c = true) (by decide) h

variable (h : isQuiet c = true)
include h

theorem isQueryChar_of_isQuiet (special : Bool) : isQueryChar special c = true := by
  simp only [isQuiet, isQueryChar, Bool.and_eq_true] at h
  obtain ⟨⟨⟨-, usual, quote⟩, -⟩, -⟩ := h
  rw [isQueryChar, Bool.and_eq_true, Bool.and_eq_true]
  refine ⟨usual, ?_⟩
  cases special with
  | true => exact quote
  | false => rfl

theorem isFragmentChar_of_isQuiet : isFragmentChar c = true := by
  simp only [isQuiet, Bool.and_eq_true] at h
  exact h.1.2

theorem ne_of_isQuiet : 0x20 < c.toNat ∧ c ≠ '#' ∧ c ≠ '?' ∧ c ≠ '&' := by
  simp only [isQuiet, Bool.and_eq_true, decide_eq_true_eq] at h
  exact ⟨h.1.1.1, by simpa using h.2⟩

end Quiet

theorem escape_append_of_all {plain : Char → Bool} {more : List Char}
    (h : ∀ c ∈ more, plain c = true) (cs : List Char) :
    Percent.escape plain (cs ++ more) = Percent.escape plain cs ++ more := by
  rw [Percent.escape, List.flatMap_append]
  congr 1
  induction more with
  | nil => rfl
  | cons c more ih =>
    obtain ⟨hc, rest⟩ := List.forall_mem_cons.1 h
    rw [List.flatMap_cons, if_pos hc, ih rest]
    rfl

/-! ### The parts of a text around a sign -/

section Sign

variable {sign : Char} {xs : List Char}

theorem takeWhile_append_of_mem (h : sign ∈ xs) (ys : List Char) :
    (xs ++ ys).takeWhile (· ≠ sign) = xs.takeWhile (· ≠ sign) := by
  induction xs with
  | nil => cases h
  | cons x xs ih =>
    by_cases hx : x = sign
    · simp [hx]
    · have later : sign ∈ xs := (List.mem_cons.1 h).resolve_left (Ne.symm hx)
      simpa [hx] using ih later

theorem takeWhile_of_not_mem (h : sign ∉ xs) : xs.takeWhile (· ≠ sign) = xs := by
  rw [List.takeWhile_eq_self_iff]
  intro x hx
  exact decide_eq_true (by rintro rfl; exact h hx)

theorem after?_eq_none (h : sign ∉ xs) : after? sign xs = none := by
  have nothing : xs.dropWhile (· ≠ sign) = [] := by
    rw [List.dropWhile_eq_nil_iff]
    intro x hx
    exact decide_eq_true (by rintro rfl; exact h hx)
  rw [after?, nothing]

theorem after?_append_of_mem (h : sign ∈ xs) :
    ∃ rest, ∀ ys, after? sign (xs ++ ys) = some (rest ++ ys) := by
  induction xs with
  | nil => cases h
  | cons x xs ih =>
    by_cases hx : x = sign
    · exact ⟨xs, fun ys => by simp [after?, hx]⟩
    · obtain ⟨rest, hrest⟩ := ih ((List.mem_cons.1 h).resolve_left (Ne.symm hx))
      exact ⟨rest, fun ys => by simpa [after?, hx] using hrest ys⟩

/-- What is behind the first sign ends in what is behind any. -/
theorem after?_append_cons (sign : Char) (xs : List Char) :
    ∃ rest, (sign ∉ xs → rest = []) ∧ ∀ ys, after? sign (xs ++ sign :: ys) = some (rest ++ ys) := by
  by_cases h : sign ∈ xs
  · obtain ⟨rest, hrest⟩ := after?_append_of_mem h
    exact ⟨rest ++ [sign], fun absent => absurd h absent,
      fun ys => by simpa using hrest (sign :: ys)⟩
  · refine ⟨[], fun _ => rfl, fun ys => ?_⟩
    rw [after?, List.dropWhile_append_of_pos fun x hx =>
      decide_eq_true (by rintro rfl; exact h hx)]
    simp

end Sign

/-! ### Reading -/

/-- The address of a scheme and what follows its colon. -/
def ofRest? (scheme rest : List Char) : Option Address :=
  let front := rest.takeWhile (· ≠ '#')
  (hierarchy? scheme (front.takeWhile (· ≠ '?'))).map fun (authority, path) =>
    { scheme, authority, path
      query := (after? '?' front).map (Percent.escape (isQueryChar (isSpecial scheme)))
      fragment := (after? '#' rest).map (Percent.escape isFragmentChar) }

theorem read?_eq (url : String) :
    read? url = (scheme? (cleaned url)).bind fun x => ofRest? x.1 x.2 := by
  unfold read? ofRest?
  show (scheme? (cleaned url)).bind _ = _
  congr 1
  funext x
  dsimp only
  cases hierarchy? x.1 ((x.2.takeWhile (· ≠ '#')).takeWhile (· ≠ '?')) <;> rfl

theorem ofRest?_append {rest more : List Char} (hq : '?' ∈ rest)
    (hm : ∀ c ∈ more, isQuiet c = true) (scheme : List Char) :
    ofRest? scheme (rest ++ more) = (ofRest? scheme rest).map (extend more) := by
  unfold ofRest?
  by_cases hash : '#' ∈ rest
  · -- the characters are part of the fragment
    obtain ⟨f, hf⟩ := after?_append_of_mem hash
    have before := hf []
    rw [List.append_nil, List.append_nil] at before
    simp only [takeWhile_append_of_mem hash, hf, before]
    cases hierarchy? scheme ((rest.takeWhile (· ≠ '#')).takeWhile (· ≠ '?')) with
    | none => rfl
    | some x =>
      simp [extend, escape_append_of_all fun c hc => isFragmentChar_of_isQuiet (hm c hc)]
  · -- the characters are part of the query
    have unmarked : '#' ∉ rest ++ more := fun h => (List.mem_append.1 h).elim hash fun h =>
      (ne_of_isQuiet (hm _ h)).2.1 rfl
    obtain ⟨q, hq'⟩ := after?_append_of_mem hq
    have before := hq' []
    rw [List.append_nil, List.append_nil] at before
    simp only [takeWhile_of_not_mem unmarked, takeWhile_of_not_mem hash, after?_eq_none unmarked,
      after?_eq_none hash, takeWhile_append_of_mem hq, hq', before]
    cases hierarchy? scheme (rest.takeWhile (· ≠ '?')) with
    | none => rfl
    | some x =>
      simp [extend, escape_append_of_all fun c hc => isQueryChar_of_isQuiet (hm c hc) _]

theorem scheme?_append {c : Char} (hc : isSchemeChar c = false) (hcolon : c ≠ ':')
    (front behind : List Char) :
    scheme? (front ++ c :: behind) =
      (scheme? front).map fun x => (x.1, x.2 ++ c :: behind) := by
  have taken : (front ++ c :: behind).takeWhile isSchemeChar = front.takeWhile isSchemeChar := by
    rw [List.takeWhile_append]
    split
    · next h => simp [hc, (List.takeWhile_prefix isSchemeChar).eq_of_length h]
    · rfl
  have dropped : (front ++ c :: behind).dropWhile isSchemeChar =
      front.dropWhile isSchemeChar ++ c :: behind := by
    rw [List.dropWhile_append]
    split
    · next h => simp [hc, List.isEmpty_iff.1 h]
    · rfl
  unfold scheme?
  rw [taken, dropped]
  cases front.takeWhile isSchemeChar with
  | nil => simp
  | cons d ds =>
    cases front.dropWhile isSchemeChar with
    | nil => simp [hcolon]
    | cons e es =>
      by_cases he : e = ':'
      · subst he
        cases d.isAlpha <;> simp [*]
      · simp [he]

theorem mem_of_scheme? {cs : List Char} {x : List Char × List Char} (h : scheme? cs = some x)
    {c : Char} (hc : c ∈ x.2) : c ∈ cs := by
  unfold scheme? at h
  split at h
  · next d ds rest _ dropped =>
    split at h
    · obtain rfl := Option.some.inj h
      refine (List.dropWhile_sublist isSchemeChar).subset ?_
      rw [dropped]
      exact List.mem_cons_of_mem _ hc
    · cases h
  · cases h

/-- Characters behind a text that are no blanks count as they are. -/
theorem cleaned_append (front : List Char) :
    ∃ kept, (∀ c ∈ kept, c ∈ front) ∧ ∀ behind, behind ≠ [] → (∀ c ∈ behind, 0x20 < c.toNat) →
      cleaned (String.ofList (front ++ behind)) = kept ++ behind := by
  refine ⟨(front.dropWhile (·.toNat ≤ 0x20)).filter fun c => c ≠ '\t' && c ≠ '\n' && c ≠ '\r',
    fun c hc => (List.dropWhile_sublist _).subset (List.mem_filter.1 hc).1,
    fun behind hne hb => ?_⟩
  have visible : ∀ c ∈ behind, decide (c.toNat ≤ 0x20) = false := fun c hc =>
    decide_eq_false (Nat.not_le.2 (hb c hc))
  have start : (front ++ behind).dropWhile (·.toNat ≤ 0x20) =
      front.dropWhile (·.toNat ≤ 0x20) ++ behind := by
    obtain ⟨c, cs, rfl⟩ := List.exists_cons_of_ne_nil hne
    rw [List.dropWhile_append]
    split
    · next hidden =>
      rw [List.isEmpty_iff.1 hidden, List.dropWhile_cons_of_neg (by simp [visible c])]
      rfl
    · rfl
  have stop : dropEndWhile (·.toNat ≤ 0x20) (front.dropWhile (·.toNat ≤ 0x20) ++ behind) =
      front.dropWhile (·.toNat ≤ 0x20) ++ behind := by
    rcases List.eq_nil_or_concat behind with rfl | ⟨cs, c, rfl⟩
    · exact absurd rfl hne
    · rw [List.concat_eq_append, ← List.append_assoc, dropEndWhile_append_singleton,
        if_neg (by simp [visible c])]
  have whole : behind.filter (fun c => c ≠ '\t' && c ≠ '\n' && c ≠ '\r') = behind := by
    rw [List.filter_eq_self]
    intro c hc
    have large := hb c hc
    have kept : c ≠ '\t' ∧ c ≠ '\n' ∧ c ≠ '\r' :=
      ⟨by rintro rfl; exact absurd large (by decide), by rintro rfl; exact absurd large (by decide),
        by rintro rfl; exact absurd large (by decide)⟩
    simp [kept]
  rw [cleaned, String.toList_ofList, strip, start, stop, List.filter_append, whole]

/-! ### Addresses with a query -/

section Query

variable {front query more : List Char} (hq : ∀ c ∈ query, isQuiet c = true)
include hq

theorem read?_query (front : List Char) :
    ∃ kept, (∀ c ∈ kept, c ∈ front) ∧ ∀ more, (∀ c ∈ more, isQuiet c = true) →
      read? (String.ofList (front ++ '?' :: query ++ more)) =
        (scheme? kept).bind fun x => ofRest? x.1 (x.2 ++ '?' :: query ++ more) := by
  obtain ⟨kept, sub, cleans⟩ := cleaned_append front
  refine ⟨kept, sub, fun more hm => ?_⟩
  have visible : ∀ c ∈ '?' :: query ++ more, 0x20 < c.toNat := by
    intro c hc
    rw [List.cons_append, List.mem_cons, List.mem_append] at hc
    rcases hc with rfl | hc | hc
    · decide
    · exact (ne_of_isQuiet (hq c hc)).1
    · exact (ne_of_isQuiet (hm c hc)).1
  rw [read?_eq, List.append_assoc, cleans _ (by simp) visible, List.cons_append,
    scheme?_append (by decide) (by decide), Option.bind_map]
  congr 1
  funext x
  simp

/-- Quiet characters behind a URL with a query extend its address. -/
theorem read?_append (front : List Char) (hm : ∀ c ∈ more, isQuiet c = true) :
    read? (String.ofList (front ++ '?' :: query ++ more)) =
      (read? (String.ofList (front ++ '?' :: query))).map (extend more) := by
  obtain ⟨kept, -, reads⟩ := read?_query hq front
  have before := reads [] nofun
  rw [List.append_nil] at before
  rw [reads more hm, before, Option.map_bind]
  congr 1
  funext x
  rw [Function.comp_apply, List.append_nil, ofRest?_append (by simp) hm]

/-- The query of such an address ends in these characters, and is nothing else if no other part
begins before it. -/
theorem query_of_read? {a : Address}
    (h : read? (String.ofList (front ++ '?' :: query)) = some a) :
    (a.fragment = none → ∃ before, a.query = some (before ++ query)) ∧
    ('?' ∉ front → '#' ∉ front → a.fragment = none ∧ a.query = some query) := by
  obtain ⟨kept, sub, reads⟩ := read?_query hq front
  have whole := reads [] nofun
  rw [List.append_nil, h] at whole
  obtain ⟨⟨scheme, rest⟩, hs, ha⟩ := Option.bind_eq_some_iff.1 whole.symm
  rw [List.append_nil] at ha
  obtain ⟨x, -, rfl⟩ := Option.map_eq_some_iff.1 ha
  dsimp only
  have quiet : '#' ∉ '?' :: query := by
    rw [List.mem_cons, not_or]
    exact ⟨by decide, fun h => (ne_of_isQuiet (hq _ h)).2.1 rfl⟩
  obtain ⟨before, first, reached⟩ := after?_append_cons '?' rest
  have plain : ∀ c ∈ query, isQueryChar (isSpecial scheme) c = true := fun c hc =>
    isQueryChar_of_isQuiet (hq c hc) _
  by_cases hash : '#' ∈ rest
  · -- the query is part of a fragment
    obtain ⟨f, hf⟩ := after?_append_of_mem hash
    refine ⟨fun unmarked => ?_, fun _ unmarked => absurd (sub _ (mem_of_scheme? hs hash)) unmarked⟩
    rw [hf] at unmarked
    cases unmarked
  · have unmarked : '#' ∉ rest ++ '?' :: query := fun h => (List.mem_append.1 h).elim hash quiet
    rw [takeWhile_of_not_mem unmarked, after?_eq_none unmarked, reached, Option.map_some,
      escape_append_of_all plain]
    refine ⟨fun _ => ⟨_, rfl⟩, fun other _ => ⟨rfl, ?_⟩⟩
    rw [first fun h => other (sub _ (mem_of_scheme? hs h))]
    rfl

end Query

/-! ### Parameters -/

/-- The name and the value in the text of a parameter. -/
def parameterOf (cs : List Char) : List Char × List Char :=
  (cs.takeWhile (· ≠ '='), (after? '=' cs).getD [])

/-- The parameters of an address with their values, as they are written in its query. -/
def parameters (a : Address) : List (List Char × List Char) :=
  match a.query with
  | some q => (splitOn (· = '&') q).map parameterOf
  | none => []

theorem parameterOf_append {cs : List Char} (h : '=' ∈ cs) :
    ∃ value, ∀ more, parameterOf (cs ++ more) = ((parameterOf cs).1, value ++ more) := by
  obtain ⟨value, hv⟩ := after?_append_of_mem h
  exact ⟨value, fun more => by rw [parameterOf, takeWhile_append_of_mem h, hv]; rfl⟩

/-- Quiet characters behind a parameter with a value extend this value and leave all else as it
is. -/
theorem parameters_extend {a : Address} {before name : List Char}
    (hn : ∀ c ∈ name, isQuiet c = true) (whole : a.fragment = none)
    (hq : a.query = some (before ++ (name ++ ['=']))) :
    ∃ others key value, ∀ more, (∀ c ∈ more, isQuiet c = true) →
      (a.extend more).parameters = others ++ [(key, value ++ more)] := by
  obtain ⟨pieces, last, splits⟩ := splitOn_append (· = '&') before
  have equals : '=' ∈ last ++ (name ++ ['=']) := by simp
  obtain ⟨value, carries⟩ := parameterOf_append equals
  refine ⟨pieces.map parameterOf, (parameterOf (last ++ (name ++ ['=']))).1, value,
    fun more hm => ?_⟩
  have quiet : ∀ c ∈ name ++ ['='] ++ more, decide (c = '&') = false := by
    intro c hc
    rw [List.append_assoc, List.mem_append, List.mem_append, List.mem_singleton] at hc
    rcases hc with hc | rfl | hc
    · exact decide_eq_false (ne_of_isQuiet (hn c hc)).2.2.2
    · rfl
    · exact decide_eq_false (ne_of_isQuiet (hm c hc)).2.2.2
  have longer : (a.extend more).query = some (before ++ (name ++ ['='] ++ more)) := by
    rw [extend, whole]
    simp [hq]
  rw [parameters, longer]
  dsimp only
  rw [splits _ quiet, List.map_append, List.map_singleton, ← List.append_assoc, carries]

end FollowClient.Net.Address
