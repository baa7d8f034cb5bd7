import FollowClient.Core.Aliases
import FollowClient.Proofs.Text.Ends

/-!
Aliases in a text. A text lists aliases if they stand in it one after the other, with a separator
between two of them and nothing else around them but blanks and separators (`Lists`). What is parsed is
the one list of aliases that a text lists (`parse_iff_lists`), so nothing of the text is lost on the
way and nothing comes twice (`parse_exact`).
-/

namespace FollowClient.Aliases

open Text

/-! ### Texts that list aliases -/

/-- The text can be an alias. -/
structure IsAlias (a : String) : Prop where
  ne_empty : a ≠ ""
  trimmed : trim a = a
  comma : ',' ∉ a.toList
  lineEnd : '\n' ∉ a.toList

instance (a : String) : Decidable (IsAlias a) :=
  decidable_of_iff (a ≠ "" ∧ trim a = a ∧ ',' ∉ a.toList ∧ '\n' ∉ a.toList)
    ⟨fun ⟨h, t, c, l⟩ => ⟨h, t, c, l⟩, fun ⟨h, t, c, l⟩ => ⟨h, t, c, l⟩⟩

/-- There is nothing in the text but blanks, among them line ends, and commas. -/
def IsPadding (text : String) : Prop := ∀ c ∈ text.toList, isBlank c ∨ c = ','

/-- The text separates what stands before it from what stands behind it. -/
def Separates (text : String) : Prop := ',' ∈ text.toList ∨ '\n' ∈ text.toList

instance (text : String) : Decidable (IsPadding text) :=
  inferInstanceAs (Decidable (∀ c ∈ text.toList, isBlank c ∨ c = ','))

instance (text : String) : Decidable (Separates text) :=
  inferInstanceAs (Decidable (',' ∈ text.toList ∨ '\n' ∈ text.toList))

/-- The text lists the aliases in this order: there is padding around each of them, and it separates
two. -/
inductive Lists : List String → String → Prop where
  | nothing {pad : String} (padding : IsPadding pad) : Lists [] pad
  | entry {pad a gap text : String} {rest : List String} (before : IsPadding pad)
      (behind : IsPadding gap) (separates : rest ≠ [] → Separates gap) (others : Lists rest text) :
      Lists (a :: rest) (pad ++ a ++ gap ++ text)

/-- The pieces of a text between its commas and line ends. -/
def segments (text : String) : List String :=
  (text.toList.splitOnP fun c => c = ',' || c = '\n').map String.ofList

/-! ### Characters -/

section Characters

variable {c : Char} {cs : List Char}

/-- A blank or a separator. -/
def isPad (c : Char) : Bool := isBlank c || isSeparator c

theorem isSeparator_eq_false_iff : isSeparator c = false ↔ c ≠ ',' ∧ c ≠ '\n' := by
  simp [isSeparator]

theorem isPad_iff : isPad c = true ↔ isBlank c ∨ c = ',' := by
  have lineEnd : isBlank '\n' = true := by decide
  rw [isPad, isSeparator, Bool.or_eq_true, Bool.or_eq_true, decide_eq_true_eq, decide_eq_true_eq]
  constructor
  · rintro (blank | rfl | rfl)
    · exact .inl blank
    · exact .inr rfl
    · exact .inl lineEnd
  · rintro (blank | rfl)
    · exact .inl blank
    · exact .inr (.inl rfl)

theorem isBlank_of_isPad (hc : isPad c = true) (other : isSeparator c = false) :
    isBlank c = true := by
  rwa [isPad, other, Bool.or_false] at hc

/-- A separator cuts the aliases of a text in two. -/
theorem parseChars_append_cons (hc : isSeparator c = true) (xs ys : List Char) :
    parseChars (xs ++ c :: ys) = parseChars xs ++ parseChars ys := by
  rw [parseChars, splitOn_append_cons hc, List.map_append, List.filter_append, parseChars, parseChars]

theorem parseChars_of_whole (whole : ∀ c ∈ cs, isSeparator c = false) :
    parseChars cs = [strip isBlank cs].filter (!·.isEmpty) := by
  rw [parseChars, splitOn_of_all whole, List.map_singleton]

theorem parseChars_cons_of_isPad (hc : isPad c = true) : parseChars (c :: cs) = parseChars cs := by
  by_cases separator : isSeparator c = true
  · exact parseChars_append_cons separator [] cs
  · have blank := isBlank_of_isPad hc (Bool.eq_false_iff.2 separator)
    obtain ⟨piece, pieces, split⟩ := List.exists_cons_of_ne_nil (splitOn_ne_nil isSeparator cs)
    rw [parseChars, splitOn, split]
    dsimp only
    rw [if_neg separator, List.map_cons, strip_cons_of_pos blank, parseChars, split, List.map_cons]

theorem parseChars_append_of_isPad {pad : List Char} (hp : ∀ c ∈ pad, isPad c = true) :
    parseChars (pad ++ cs) = parseChars cs := by
  induction pad with
  | nil => rfl
  | cons c pad ih =>
    obtain ⟨hc, hp⟩ := List.forall_mem_cons.1 hp
    rw [List.cons_append, parseChars_cons_of_isPad hc, ih hp]

theorem parseChars_of_isPad (hp : ∀ c ∈ cs, isPad c = true) : parseChars cs = [] := by
  have nothing : parseChars (cs ++ []) = parseChars [] := parseChars_append_of_isPad hp
  rwa [List.append_nil] at nothing

/-- Padding behind a segment changes nothing. -/
theorem parseChars_append_pad {xs pad : List Char} (whole : ∀ c ∈ xs, isSeparator c = false)
    (hp : ∀ c ∈ pad, isPad c = true) : parseChars (xs ++ pad) = parseChars xs := by
  induction pad generalizing xs with
  | nil => rw [List.append_nil]
  | cons c pad ih =>
    obtain ⟨hc, hp⟩ := List.forall_mem_cons.1 hp
    cases separator : isSeparator c with
    | true =>
      rw [parseChars_append_cons separator, parseChars_of_isPad hp, List.append_nil]
    | false =>
      -- the blank becomes a part of the segment, and goes when that is stripped
      have longer : ∀ d ∈ xs ++ [c], isSeparator d = false :=
        List.forall_mem_append.2 ⟨whole, List.forall_mem_singleton.2 separator⟩
      have same : strip isBlank (xs ++ [c]) = strip isBlank xs :=
        strip_append_singleton_of_pos (isBlank_of_isPad hc separator) xs
      rw [List.append_cons, ih longer hp, parseChars_of_whole longer, same, parseChars_of_whole whole]

end Characters

/-! ### Lists of aliases are parsed -/

section Parse

variable {a s : String} {as : List String}

theorem parse_append {c : Char} (hc : isSeparator c = true) (a b : String) :
    parse (a ++ String.singleton c ++ b) = parse a ++ parse b := by
  have chars : (a ++ String.singleton c ++ b).toList = a.toList ++ c :: b.toList := by simp
  rw [parse, chars, parseChars_append_cons hc, List.map_append, parse, parse]

theorem isPadding_iff : IsPadding s ↔ ∀ c ∈ s.toList, isPad c = true :=
  forall₂_congr fun _ _ => isPad_iff.symm

theorem exists_separator (h : Separates s) :
    ∃ front c rest, s.toList = front ++ c :: rest ∧ isSeparator c = true := by
  rcases h with h | h
  all_goals
    obtain ⟨front, rest, cut⟩ := List.append_of_mem h
    exact ⟨front, _, rest, cut, by decide⟩

theorem IsAlias.whole (h : IsAlias a) : ∀ c ∈ a.toList, isSeparator c = false := by
  intro c hc
  refine isSeparator_eq_false_iff.2 ⟨?_, ?_⟩
  · rintro rfl
    exact h.comma hc
  · rintro rfl
    exact h.lineEnd hc

theorem IsAlias.parseChars (h : IsAlias a) : parseChars a.toList = [a.toList] := by
  have stripped : strip isBlank a.toList = a.toList := by rw [← trim_toList, h.trimmed]
  have visible : a.toList.isEmpty = false := by simpa using h.ne_empty
  rw [parseChars_of_whole h.whole, stripped, List.filter_singleton, visible]
  rfl

theorem IsAlias.parseChars_append (h : IsAlias a) {gap : List Char}
    (padding : ∀ c ∈ gap, isPad c = true) : Aliases.parseChars (a.toList ++ gap) = [a.toList] := by
  rw [parseChars_append_pad h.whole padding, h.parseChars]

theorem parse_of_lists (lists : Lists as s) (proper : ∀ a ∈ as, IsAlias a) : parse s = as := by
  induction lists with
  | nothing padding => rw [parse, parseChars_of_isPad (isPadding_iff.1 padding), List.map_nil]
  | @entry pad a gap text rest before behind separates others ih =>
    obtain ⟨ha, proper⟩ := List.forall_mem_cons.1 proper
    have behind := isPadding_iff.1 behind
    have chars : (pad ++ a ++ gap ++ text).toList =
        pad.toList ++ (a.toList ++ (gap.toList ++ text.toList)) := by simp
    rw [parse, chars, parseChars_append_of_isPad (isPadding_iff.1 before)]
    cases rest with
    | nil =>
      cases others with
      | nothing padding =>
        have trailing : ∀ c ∈ gap.toList ++ text.toList, isPad c = true := fun c hc =>
          (List.mem_append.1 hc).elim (behind c) (isPadding_iff.1 padding c)
        rw [ha.parseChars_append trailing, List.map_singleton, String.ofList_toList]
    | cons b rest =>
      -- the separator in the gap ends the alias, and the rest of the gap belongs to the others
      obtain ⟨front, c, rear, cut, hc⟩ := exists_separator (separates (List.cons_ne_nil b rest))
      rw [cut] at behind ⊢
      obtain ⟨first, rest⟩ := List.forall_mem_append.1 behind
      rw [List.append_assoc, List.cons_append, ← List.append_assoc, parseChars_append_cons hc,
        ha.parseChars_append first,
        parseChars_append_of_isPad (List.forall_mem_cons.1 rest).2, List.map_append,
        List.map_singleton, String.ofList_toList]
      exact congrArg (a :: ·) (ih proper)

end Parse

/-! ### Every text lists what is parsed -/

section Lists

variable {c : Char} {s t : String} {as : List String}

theorem isAlias_of_mem_parse {a : String} (h : a ∈ parse s) : IsAlias a := by
  obtain ⟨cs, hcs, rfl⟩ := List.mem_map.1 h
  obtain ⟨mem, visible⟩ := List.mem_filter.1 hcs
  obtain ⟨piece, hpiece, rfl⟩ := List.mem_map.1 mem
  have whole := eq_false_of_mem_splitOn hpiece
  have inside : ∀ c ∈ strip isBlank piece, isSeparator c = false := fun c hc =>
    whole c (mem_of_mem_strip hc)
  refine ⟨?_, ?_, ?_, ?_⟩
  · intro empty
    rw [← String.toList_eq_nil_iff, String.toList_ofList] at empty
    rw [empty] at visible
    cases visible
  · rw [trim, String.toList_ofList, strip_strip]
  · rw [String.toList_ofList]
    exact fun comma => (isSeparator_eq_false_iff.1 (inside _ comma)).1 rfl
  · rw [String.toList_ofList]
    exact fun lineEnd => (isSeparator_eq_false_iff.1 (inside _ lineEnd)).2 rfl

theorem isPadding_append (hs : IsPadding s) (ht : IsPadding t) : IsPadding (s ++ t) := by
  intro c hc
  rw [String.toList_append, List.mem_append] at hc
  exact hc.elim (hs c) (ht c)

theorem isPadding_of_isBlank {cs : List Char} (h : ∀ c ∈ cs, isBlank c = true) :
    IsPadding (String.ofList cs) := by
  intro c hc
  rw [String.toList_ofList] at hc
  exact .inl (h c hc)

theorem Lists.padding_append (lists : Lists as s) (padding : IsPadding t) : Lists as (t ++ s) := by
  cases lists with
  | nothing pad => exact .nothing (isPadding_append padding pad)
  | entry before behind separates others =>
    rw [← String.append_assoc, ← String.append_assoc, ← String.append_assoc]
    exact .entry (isPadding_append padding before) behind separates others

/-- The segment in front of a list is an alias, or blank. -/
theorem Lists.segment_append {xs : List Char} {gap text : String} {rest : List String}
    (whole : ∀ c ∈ xs, isSeparator c = false) (behind : IsPadding gap)
    (separates : rest ≠ [] → Separates gap) (others : Lists rest text) :
    Lists (parse (String.ofList xs) ++ rest) (String.ofList xs ++ gap ++ text) := by
  obtain ⟨front, rear, cut, hfront, hrear⟩ := strip_between (p := isBlank) xs
  rw [parse, String.toList_ofList, parseChars_of_whole whole]
  cases visible : strip isBlank xs with
  | nil =>
    have blank : ∀ c ∈ xs, isBlank c = true := List.all_eq_true.1 ((strip_eq_nil_iff _ _).1 visible)
    exact others.padding_append (isPadding_append (isPadding_of_isBlank blank) behind)
  | cons c cs =>
    have parts : String.ofList xs ++ gap ++ text =
        String.ofList front ++ String.ofList (c :: cs) ++ (String.ofList rear ++ gap) ++ text := by
      rw [visible] at cut
      rw [← String.toList_inj, cut]
      simp
    rw [parts]
    refine .entry (isPadding_of_isBlank hfront)
      (isPadding_append (isPadding_of_isBlank hrear) behind) (fun more => ?_) others
    rw [Separates, String.toList_append]
    exact (separates more).imp (List.mem_append_right _) (List.mem_append_right _)

theorem separator_pad (hc : isSeparator c = true) :
    IsPadding (String.singleton c) ∧ Separates (String.singleton c) := by
  have sign : c = ',' ∨ c = '\n' := by simpa [isSeparator] using hc
  have pad : isPad c = true := by rw [isPad, hc, Bool.or_true]
  constructor
  · simpa [IsPadding] using isPad_iff.1 pad
  · simpa [Separates, eq_comm] using sign

theorem isPadding_empty : IsPadding "" := by simp [IsPadding]

theorem lists_parse_ofList (cs : List Char) {xs : List Char}
    (whole : ∀ c ∈ xs, isSeparator c = false) :
    Lists (parse (String.ofList (xs ++ cs))) (String.ofList (xs ++ cs)) := by
  induction cs generalizing xs with
  | nil =>
    have unpadded := isPadding_empty
    have lists := Lists.segment_append whole unpadded (absurd rfl) (.nothing unpadded)
    rw [List.append_nil, String.append_empty, String.append_empty] at lists
    rwa [List.append_nil]
  | cons c cs ih =>
    cases separator : isSeparator c with
    | true =>
      obtain ⟨padding, separates⟩ := separator_pad separator
      have parts : String.ofList (xs ++ c :: cs) =
          String.ofList xs ++ String.singleton c ++ String.ofList ([] ++ cs) := by
        rw [← String.toList_inj]
        simp
      rw [parts, parse_append separator]
      exact Lists.segment_append whole padding (fun _ => separates) (ih (List.forall_mem_nil _))
    | false =>
      have longer : ∀ d ∈ xs ++ [c], isSeparator d = false :=
        List.forall_mem_append.2 ⟨whole, List.forall_mem_singleton.2 separator⟩
      rw [List.append_cons]
      exact ih longer

theorem lists_parse (s : String) : Lists (parse s) s := by
  have lists := lists_parse_ofList s.toList (List.forall_mem_nil _)
  rwa [List.nil_append, String.ofList_toList] at lists

/-- What is parsed is the one list of aliases that the text lists. -/
theorem parse_iff_lists (proper : ∀ a ∈ as, IsAlias a) : parse s = as ↔ Lists as s := by
  constructor
  · rintro rfl
    exact lists_parse s
  · intro lists
    exact parse_of_lists lists proper

theorem lists_join (hc : isSeparator c = true) (as : List String) : Lists as (join c as) := by
  have unpadded := isPadding_empty
  obtain ⟨padding, separates⟩ := separator_pad hc
  induction as with
  | nil => exact .nothing unpadded
  | cons a rest ih =>
    cases rest with
    | nil =>
      have lists : Lists [a] ("" ++ a ++ "" ++ "") :=
        .entry unpadded unpadded (absurd rfl) (.nothing unpadded)
      rwa [String.append_empty, String.append_empty, String.empty_append] at lists
    | cons b rest =>
      have lists : Lists (a :: b :: rest) ("" ++ a ++ String.singleton c ++ join c (b :: rest)) :=
        .entry unpadded padding (fun _ => separates) ih
      rwa [String.empty_append] at lists

theorem parse_eq_segments (s : String) :
    parse s = ((segments s).filter (!isBlankText ·)).map trim := by
  have visible : (fun cs : List Char => !cs.isEmpty) ∘ strip isBlank =
      (!isBlankText ·) ∘ String.ofList := by
    funext cs
    have blank : (strip isBlank cs).isEmpty = cs.all isBlank := by
      rw [Bool.eq_iff_iff, List.isEmpty_iff, strip_eq_nil_iff]
    simp [blank, isBlankText]
  have trimmed : String.ofList ∘ strip isBlank = trim ∘ String.ofList := by
    funext cs
    simp [trim]
  have pieces : segments s = (splitOn isSeparator s.toList).map String.ofList := by
    rw [splitOn_eq_splitOnP]
    rfl
  rw [pieces, parse, parseChars, List.filter_map, List.filter_map, visible, List.map_map, trimmed,
    List.map_map]

end Lists

/-- **Parsing aliases is exact.** A separator cuts the aliases of a text in two. What is parsed are
aliases, and for aliases a text parses to them exactly if it lists them, whatever blanks and further
separators it has; so it does if it joins them. They are the segments of the text that are not blank,
trimmed, each once and in order. -/
theorem parse_exact :
    (∀ a b, parse (a ++ "," ++ b) = parse a ++ parse b ∧
      parse (a ++ "\n" ++ b) = parse a ++ parse b) ∧
    (∀ s, ∀ a ∈ parse s, IsAlias a) ∧
    (∀ s as, (∀ a ∈ as, IsAlias a) → (parse s = as ↔ Lists as s)) ∧
    (∀ as, (∀ a ∈ as, IsAlias a) → parse (join ',' as) = as ∧ parse (join '\n' as) = as) ∧
    (∀ s, parse (join ',' (parse s)) = parse s ∧ parse (join '\n' (parse s)) = parse s) ∧
    ∀ s, parse s = ((segments s).filter (!isBlankText ·)).map trim := by
  have comma : isSeparator ',' = true := by decide
  have lineEnd : isSeparator '\n' = true := by decide
  have joined : ∀ as, (∀ a ∈ as, IsAlias a) →
      parse (join ',' as) = as ∧ parse (join '\n' as) = as := fun as proper =>
    ⟨parse_of_lists (lists_join comma as) proper, parse_of_lists (lists_join lineEnd as) proper⟩
  refine ⟨fun a b => ⟨parse_append comma a b, parse_append lineEnd a b⟩,
    fun s a => isAlias_of_mem_parse, fun s as => parse_iff_lists, joined, fun s => ?_,
    parse_eq_segments⟩
  exact joined (parse s) fun a => isAlias_of_mem_parse

/-- Empty entries, and blanks around the others, count for nothing. -/
theorem untidy_aliases_parsed :
    (∀ a ∈ ["a.test", "b c.test"], IsAlias a) ∧
    Lists ["a.test", "b c.test"] " a.test\t,\n ,b c.test\r\n," ∧
    parse (join '\n' ["a.test", "b c.test"]) = ["a.test", "b c.test"] := by
  have proper : ∀ a ∈ ["a.test", "b c.test"], IsAlias a := by decide
  obtain ⟨-, -, lists, joins, -, -⟩ := parse_exact
  exact ⟨proper, (lists _ _ proper).1 (by decide), (joins _ proper).2⟩

end FollowClient.Aliases
