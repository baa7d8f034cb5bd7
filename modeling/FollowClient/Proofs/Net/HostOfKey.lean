import FollowClient.Net.Address
import FollowClient.Proofs.Text.Ends
import FollowClient.Proofs.Text.Utf8

/-!
The host of a URL without the slashes at its end. A slash at the end of an address never belongs to
its host, and a host that ends in a blank or a control character is none: so what stands behind an
address can only spoil it (`webHost?_of_append`). A URL that names a host therefore names the same
one without the slashes at its end: `hostOf?_baseOf`.
-/

namespace FollowClient

open Text

/-! ### Hosts end in no control character -/

namespace Text.Percent

theorem bytesOf_singleton (c : Char) : bytesOf [c] = String.utf8EncodeChar c := by
  simp [bytesOf, List.utf8Encode]

theorem bytes_cons {c : Char} (h : c ≠ '%') (rest : List Char) :
    bytes (c :: rest) = bytesOf [c] ++ bytes rest := by
  rw [bytes]
  rintro hi lo more rfl
  exact absurd rfl h

/-- A last character that is no digit stands for itself. -/
theorem bytes_append_singleton {c : Char} (hc : anyHexValue? c = none) (cs : List Char) :
    ∃ bs, bytes (cs ++ [c]) = bs ++ bytesOf [c] := by
  induction cs using bytes.induct with
  | case1 => exact ⟨[], by simp [bytes]⟩
  | case2 hi lo rest h l hlo hhi ih =>
    obtain ⟨bs, hbs⟩ := ih
    exact ⟨UInt8.ofNat (16 * h + l) :: bs, by simp [bytes, hhi, hlo, hbs]⟩
  | case3 hi lo rest none ih =>
    obtain ⟨bs, hbs⟩ := ih
    refine ⟨0x25 :: bs, ?_⟩
    rw [List.cons_append, List.cons_append, List.cons_append, bytes]
    split
    · next h l hhi hlo => exact absurd hlo (none h l hhi)
    · rw [show hi :: lo :: (rest ++ [c]) = hi :: lo :: rest ++ [c] from rfl, hbs]
      rfl
  | case4 d rest other ih =>
    obtain ⟨bs, hbs⟩ := ih
    by_cases hd : d = '%'
    · subst hd
      match rest, other with
      | [], _ => exact ⟨bytesOf ['%'], by simp [bytes]⟩
      | [hi], _ =>
        refine ⟨0x25 :: bs, ?_⟩
        rw [show '%' :: [hi] ++ [c] = ['%', hi, c] from rfl, bytes, hc]
        simpa using hbs
      | hi :: lo :: more, other => exact absurd rfl (other hi lo more rfl)
    · refine ⟨bytesOf [d] ++ bs, ?_⟩
      rw [List.cons_append, bytes_cons hd, hbs, List.append_assoc]

theorem toByteArray_of_text? {cs : List Char} {s : String} (h : text? cs = some s) :
    s.toByteArray.data.toList = bytes cs := by
  unfold text? String.fromUTF8? at h
  split at h
  · cases h
    simp [String.fromUTF8]
  · cases h

/-- A text that is written with such a character at the end ends in it. -/
theorem getLast?_of_text? {cs : List Char} {c : Char} (hc : c.toNat ≤ 0x7F)
    (hx : anyHexValue? c = none) {s : String} (h : text? (cs ++ [c]) = some s) :
    s.toList.getLast? = some c := by
  obtain ⟨bs, hbs⟩ := bytes_append_singleton hx cs
  have written : utf8 s.toList = bs ++ String.utf8EncodeChar c := by
    rw [utf8_toList, toByteArray_of_text? h, hbs, bytesOf_singleton]
  have last := congrArg List.getLast? written
  rcases List.eq_nil_or_concat s.toList with hs | ⟨front, d, hs⟩
  · rw [hs, List.getLast?_append, getLast?_utf8EncodeChar] at last
    cases last
  · rw [List.concat_eq_append] at hs
    rw [hs, utf8_append, utf8_singleton, List.getLast?_append,
      List.getLast?_append, getLast?_utf8EncodeChar c, getLast?_utf8EncodeChar d,
      Option.some_or, Option.some_or, ← getLast?_utf8EncodeChar c,
      ← getLast?_utf8EncodeChar d] at last
    rw [hs, eq_of_getLast?_utf8EncodeChar hc last]
    simp

end Text.Percent

namespace Net.Host

open Percent

/-- What holds of the blank and of each control character before it. -/
theorem forall_of_le {P : Char → Prop} (each : ∀ n : Fin 33, P (Char.ofNat n)) {c : Char}
    (hc : c.toNat ≤ 0x20) : P c := by
  have own := each ⟨c.toNat, by omega⟩
  rwa [Char.ofNat_toNat] at own

variable {c : Char} (hc : c.toNat ≤ 0x20)
include hc

/-- Such a character counts in a name, as it is. -/
theorem counts_of_le : isDropped c = false ∧ narrow c = c :=
  forall_of_le (P := fun c => isDropped c = false ∧ narrow c = c) (by decide) hc

theorem name?_of_mem {s : String} (h : c ∈ s.toList) : name? s = none := by
  obtain ⟨stays, same⟩ := counts_of_le hc
  have mem : c ∈ folded s.toList :=
    List.mem_map.2 ⟨c, List.mem_filter.2 ⟨h, by simp [stays]⟩, same⟩
  have refused : (folded s.toList).any isRefused = true :=
    List.any_eq_true.2 ⟨c, mem, by simp [isRefused, hc]⟩
  simp [name?, refused]

/-- A host ends neither in a blank nor in a control character. -/
theorem read?_append_singleton (cs : List Char) : read? (cs ++ [c]) = none := by
  unfold read?
  split
  · next h =>
    cases cs with
    | nil =>
      obtain rfl : c = '[' := by simpa using h
      exact absurd hc (by decide)
    | cons d rest =>
      obtain rfl : d = '[' := by simpa using h
      have hne : c ≠ ']' := by
        rintro rfl
        exact absurd hc (by decide)
      simp [bracketed?, hne]
  · cases ht : text? (cs ++ [c]) with
    | none => rfl
    | some s =>
      have plain : anyHexValue? c = none :=
        forall_of_le (P := fun c => anyHexValue? c = none) (by decide) hc
      have last := getLast?_of_text? (by omega) plain ht
      rw [Option.bind_some, name?_of_mem hc (List.mem_of_getLast? last)]

end Net.Host

namespace Net.Address

/-! ### The host in a text -/

/-- The part of what follows a scheme that names a host. -/
def authorityPart (rest : List Char) : List Char :=
  (((rest.takeWhile (· ≠ '#')).takeWhile (· ≠ '?')).dropWhile (isSlash true)).takeWhile
    (!isSlash true ·)

/-- The host of a text without anything around it. -/
def webHost? (cs : List Char) : Option Host :=
  (scheme? cs).bind fun (scheme, rest) =>
    if isWeb scheme then (authority? scheme (authorityPart rest)).bind (·.host) else none

/-- A text without what does not count around it and in it. -/
def cleaned (url : String) : List Char :=
  (strip (·.toNat ≤ 0x20) url.toList).filter fun c => c ≠ '\t' && c ≠ '\n' && c ≠ '\r'

theorem isSpecial_of_isWeb {scheme : List Char} (h : isWeb scheme = true) :
    isSpecial scheme = true ∧ scheme ≠ fileScheme := by
  simp only [isWeb, Bool.or_eq_true, decide_eq_true_eq] at h
  rcases h with rfl | rfl <;> decide

theorem hierarchy?_of_isWeb {scheme : List Char} (h : isWeb scheme = true) (cs : List Char) :
    (hierarchy? scheme cs).bind (·.1) =
      authority? scheme ((cs.dropWhile (isSlash true)).takeWhile (!isSlash true ·)) := by
  unfold hierarchy?
  rw [if_neg (isSpecial_of_isWeb h).2, if_pos (isSpecial_of_isWeb h).1]
  dsimp only
  cases authority? scheme ((cs.dropWhile (isSlash true)).takeWhile (!isSlash true ·)) <;> rfl

theorem hostOf?_eq (url : String) : hostOf? url = webHost? (cleaned url) := by
  unfold hostOf? webHost? read?
  show ((scheme? (cleaned url)).bind _).bind _ = _
  cases hs : scheme? (cleaned url) with
  | none => rfl
  | some x =>
    obtain ⟨scheme, rest⟩ := x
    simp only [Option.bind_some, authorityPart]
    generalize (rest.takeWhile (· ≠ '#')).takeWhile (· ≠ '?') = front
    cases hw : isWeb scheme with
    | false => cases hierarchy? scheme front <;> simp [hw]
    | true =>
      rw [if_pos rfl, ← hierarchy?_of_isWeb hw front]
      cases hierarchy? scheme front <;> simp [hw, host?]

/-! ### One more character -/

section Ends

variable {α : Type} {p : α → Bool}

theorem takeWhile_append_singleton (xs : List α) (x : α) :
    (xs ++ [x]).takeWhile p = xs.takeWhile p ∨
    (p x = true ∧ (xs ++ [x]).takeWhile p = xs.takeWhile p ++ [x]) := by
  induction xs with
  | nil => cases h : p x <;> simp [h]
  | cons y xs ih => cases h : p y <;> simp [h, ih]

theorem dropWhile_append_singleton {x : α} (hx : p x = false) (xs : List α) :
    (xs ++ [x]).dropWhile p = xs.dropWhile p ++ [x] := by
  induction xs with
  | nil => simp [hx]
  | cons y xs ih => cases h : p y <;> simp [h, ih]

end Ends

theorem scheme?_append_singleton {cs scheme rest : List Char} {c : Char}
    (hc : isSchemeChar c = false) (hcolon : c ≠ ':')
    (h : scheme? (cs ++ [c]) = some (scheme, rest)) :
    ∃ front, scheme? cs = some (scheme, front) ∧ rest = front ++ [c] := by
  have before : (cs ++ [c]).takeWhile isSchemeChar = cs.takeWhile isSchemeChar := by
    rcases takeWhile_append_singleton (p := isSchemeChar) cs c with h | ⟨h, -⟩
    · exact h
    · rw [hc] at h
      cases h
  unfold scheme? at h ⊢
  rw [before, dropWhile_append_singleton hc] at h
  cases ht : cs.takeWhile isSchemeChar with
  | nil => simp [ht] at h
  | cons d ds =>
    cases hd : cs.dropWhile isSchemeChar with
    | nil => simp [ht, hd, hcolon] at h
    | cons e es =>
      by_cases he : e = ':'
      · subst he
        rw [ht, hd] at h
        have h : (if d.isAlpha then some ((d :: ds).map Char.toLower, es ++ [c]) else none) =
          some (scheme, rest) := h
        split at h
        · next alpha =>
          obtain ⟨rfl, rfl⟩ := Prod.mk.inj (Option.some.inj h)
          exact ⟨es, if_pos alpha, rfl⟩
        · cases h
      · simp [ht, hd, he] at h

theorem splitHost_spec (inside : Bool) (cs : List Char) :
    (splitHost inside cs).1 ++ (splitHost inside cs).2 = cs ∧
    ((splitHost inside cs).2 = [] ∨ ∃ ds, (splitHost inside cs).2 = ':' :: ds) := by
  induction cs generalizing inside with
  | nil => simp [splitHost]
  | cons c cs ih =>
    unfold splitHost
    split
    · next h =>
      simp only [Bool.and_eq_true, decide_eq_true_eq] at h
      exact ⟨rfl, .inr ⟨cs, by rw [h.1]⟩⟩
    · obtain ⟨whole, behind⟩ := ih (c = '[' || (inside && c ≠ ']'))
      exact ⟨congrArg (c :: ·) whole, behind⟩

theorem splitCredentials_append_singleton (cs : List Char) {c : Char} (hc : c ≠ '@') :
    ∃ front, (splitCredentials (cs ++ [c])).2 = front ++ [c] := by
  unfold splitCredentials
  split
  · refine ⟨(cs.reverse.takeWhile (· ≠ '@')).reverse, ?_⟩
    simp [hc]
  · exact ⟨cs, rfl⟩

/-- Behind a host comes a port, which a control character is no part of. -/
theorem authority?_append_singleton {scheme : List Char} (hs : isSpecial scheme = true) {c : Char}
    (hc : c.toNat ≤ 0x20) (cs : List Char) : authority? scheme (cs ++ [c]) = none := by
  have hat : c ≠ '@' := Host.forall_of_le (P := (· ≠ '@')) (by decide) hc
  obtain ⟨front, hfront⟩ := splitCredentials_append_singleton cs hat
  unfold authority?
  cases hcred : splitCredentials (cs ++ [c]) with
  | mk credentials text =>
    rw [hcred] at hfront
    obtain rfl : text = front ++ [c] := hfront
    obtain ⟨whole, behind⟩ := splitHost_spec false (front ++ [c])
    cases hsplit : splitHost false (front ++ [c]) with
    | mk host port =>
      rw [hsplit] at whole behind
      dsimp only at whole behind
      simp only [hs, hsplit]
      rcases behind with rfl | ⟨ds, rfl⟩
      · -- the character ends the host
        obtain rfl : host = front ++ [c] := by simpa using whole
        simp [Host.read?_append_singleton hc]
      · -- the character ends the port
        have bad : port? scheme (':' :: ds) = none := by
          rcases List.eq_nil_or_concat ds with rfl | ⟨more, d, rfl⟩
          · obtain rfl : ':' = c := List.singleton_inj.1 (List.append_inj_right' whole rfl)
            exact absurd hc (by decide)
          · rw [List.concat_eq_append, ← List.cons_append, ← List.append_assoc] at whole
            obtain rfl : d = c := List.singleton_inj.1 (List.append_inj_right' whole rfl)
            have digit : d.isDigit = false :=
              Host.forall_of_le (P := fun c => c.isDigit = false) (by decide) hc
            simp [port?, digit]
        cases host.isEmpty <;> simp [bad]

/-- The part that names a host ends where a slash comes, and else goes on. -/
theorem authorityPart_append_singleton (rest : List Char) (c : Char) :
    authorityPart (rest ++ [c]) = authorityPart rest ∨
    (isSlash true c = false ∧ authorityPart (rest ++ [c]) = authorityPart rest ++ [c]) := by
  unfold authorityPart
  rcases takeWhile_append_singleton (p := (· ≠ '#')) rest c with h | ⟨-, h⟩
  · exact .inl (by rw [h])
  rw [h]
  generalize rest.takeWhile (· ≠ '#') = rest
  rcases takeWhile_append_singleton (p := (· ≠ '?')) rest c with h | ⟨-, h⟩
  · exact .inl (by rw [h])
  rw [h]
  generalize rest.takeWhile (· ≠ '?') = rest
  cases hs : isSlash true c with
  | true =>
    refine .inl ?_
    rw [List.dropWhile_append]
    split
    · next empty => simp [List.isEmpty_iff.1 empty, hs]
    · rcases takeWhile_append_singleton (p := (!isSlash true ·)) (rest.dropWhile (isSlash true)) c
        with h | ⟨h, -⟩
      · exact h
      · simp [hs] at h
  | false =>
    rw [dropWhile_append_singleton hs]
    rcases takeWhile_append_singleton (p := (!isSlash true ·)) (rest.dropWhile (isSlash true)) c
      with h | ⟨-, h⟩
    · exact .inl h
    · exact .inr ⟨rfl, h⟩

/-- The signs that change nothing behind an address but the host that they may spoil. -/
def isTrailing (c : Char) : Bool := c = '/' || c.toNat ≤ 0x20

theorem webHost?_of_append_singleton {cs : List Char} {c : Char} (hc : isTrailing c = true)
    {h : Host} (hh : webHost? (cs ++ [c]) = some h) : webHost? cs = some h := by
  simp only [isTrailing, Bool.or_eq_true, decide_eq_true_eq] at hc
  have plain : isSchemeChar c = false ∧ c ≠ ':' := by
    rcases hc with rfl | hc
    · decide
    · exact Host.forall_of_le (P := fun c => isSchemeChar c = false ∧ c ≠ ':') (by decide) hc
  obtain ⟨⟨scheme, rest⟩, hs, own⟩ := Option.bind_eq_some_iff.1 hh
  obtain ⟨front, hfront, rfl⟩ := scheme?_append_singleton plain.1 plain.2 hs
  have own : (if isWeb scheme then
      (authority? scheme (authorityPart (front ++ [c]))).bind (·.host) else none) = some h := own
  unfold webHost?
  rw [hfront, Option.bind_some]
  split at own
  · next web =>
    dsimp only
    rw [if_pos web]
    rcases authorityPart_append_singleton front c with same | ⟨slash, longer⟩
    · rwa [same] at own
    · -- the host would end in a blank or in a control character
      have control : c.toNat ≤ 0x20 := by
        rcases hc with rfl | hc
        · cases slash
        · exact hc
      rw [longer, authority?_append_singleton (isSpecial_of_isWeb web).1 control] at own
      cases own
  · cases own

/-- What stands behind a text can only spoil the host in it, if it is slashes, blanks and control
characters. -/
theorem webHost?_of_append {cs behind : List Char} (hb : ∀ c ∈ behind, isTrailing c = true)
    {h : Host} (hh : webHost? (cs ++ behind) = some h) : webHost? cs = some h := by
  induction behind generalizing cs with
  | nil => simpa using hh
  | cons c behind ih =>
    obtain ⟨hc, hb⟩ := List.forall_mem_cons.1 hb
    refine webHost?_of_append_singleton hc (ih hb ?_)
    simpa using hh

/-! ### The host of a URL -/

/-- A text in front of signs that do not count is cleaned on its own. -/
theorem cleaned_of_append {text behind : List Char} (hb : ∀ c ∈ behind, isTrailing c = true) :
    ∃ more, cleaned (String.ofList (text ++ behind)) = cleaned (String.ofList text) ++ more ∧
      ∀ c ∈ more, isTrailing c = true := by
  obtain ⟨more, whole, sub⟩ := strip_append (p := (·.toNat ≤ 0x20)) text behind
  refine ⟨more.filter fun c => c ≠ '\t' && c ≠ '\n' && c ≠ '\r', ?_, fun c hc => ?_⟩
  · unfold cleaned
    rw [String.toList_ofList, String.toList_ofList, whole, List.filter_append]
  · rcases sub c (List.mem_filter.1 hc).1 with blank | hc
    · simp only [isTrailing, blank, Bool.or_true]
    · exact hb c hc

/-- **A URL that names a host** names the same one without the slashes at its end. -/
theorem hostOf?_baseOf {url : String} {h : Host} (hh : hostOf? (trim url) = some h) :
    hostOf? (baseOf url) = some h := by
  obtain ⟨slashes, whole, slash⟩ :=
    dropEndWhile_append_self (p := (· = '/')) (strip isBlank url.toList)
  have trailing : ∀ c ∈ slashes, isTrailing c = true := fun c hc => by
    simp [isTrailing, of_decide_eq_true (slash c hc)]
  obtain ⟨more, cleans, behind⟩ :=
    @cleaned_of_append (dropEndWhile (· = '/') (strip isBlank url.toList)) slashes trailing
  rw [hostOf?_eq, trim, whole, cleans] at hh
  rw [hostOf?_eq, baseOf]
  exact webHost?_of_append behind hh

end Net.Address

end FollowClient
