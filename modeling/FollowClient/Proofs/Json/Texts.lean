import FollowClient.Json.Printer
import FollowClient.Json.Written
import FollowClient.Proofs.Text.Utf8

/-!
Texts in JSON. A text is written so that it can be read back, whatever characters it has: what stands
between its quotes ends at no quote of its own (`Spells.quoted`) and means the text
(`text?_escaped`). So an object whose one member is a list of texts is read back from its written form
(`read?_compact_texts`).
-/

namespace FollowClient.Json

open Text

/-! ### One character -/

namespace Escape

/-- A byte that stands for itself between quotes. -/
def IsQuiet (b : UInt8) : Prop := 0x20 ≤ b.toNat ∧ b.toNat ≠ 0x22 ∧ b.toNat ≠ 0x5C

/-- The bytes that may stand for a character between quotes. -/
inductive Form (c : Char) : List UInt8 → Prop where
  | plain (quiet : ∀ b ∈ String.utf8EncodeChar c, IsQuiet b) : Form c (String.utf8EncodeChar c)
  | short {x b : UInt8} (letter : 0x20 ≤ x.toNat) (other : x ≠ 0x75) (means : short? x = some b)
      (own : String.utf8EncodeChar c = [b]) : Form c [0x5C, x]
  | number {h l : UInt8} (high : IsQuiet h) (low : IsQuiet l)
      (means : unit? 0x30 0x30 h l = some c.toNat) (small : c.toNat < 0x20) :
      Form c [0x5C, 0x75, 0x30, 0x30, h, l]

theorem hexDigit_spec {n : Nat} (h : n < 16) :
    ∃ b, String.utf8EncodeChar (hexDigit n) = [b] ∧ hexValue? b = some n ∧ IsQuiet b := by
  have each : ∀ n : Fin 16, String.utf8EncodeChar (hexDigit n) = [UInt8.ofNat (hexDigit n).toNat] ∧
      hexValue? (UInt8.ofNat (hexDigit n).toNat) = some n.val ∧
      IsQuiet (UInt8.ofNat (hexDigit n).toNat) := by
    unfold IsQuiet
    decide
  exact ⟨_, each ⟨n, h⟩⟩

theorem Form.of_short {c : Char} {x : UInt8} (letter : 0x20 ≤ x.toNat) (other : x ≠ 0x75) {n : Nat}
    (number : c.toNat = n) (ascii : n ≤ 0x7F) (means : short? x = some (UInt8.ofNat n)) :
    Form c [0x5C, x] := by
  refine .short letter other means ?_
  rw [utf8EncodeChar_of_le (number ▸ ascii), number]

theorem form_encodeChar (c : Char) : Form c (utf8 (encodeChar c)) := by
  unfold encodeChar
  split
  case h_8 quote backslash _ _ _ _ _ =>
    split
    · next small =>
      obtain ⟨h, hh, meansH, high⟩ := hexDigit_spec (show c.toNat / 16 < 16 by omega)
      obtain ⟨l, hl, meansL, low⟩ := hexDigit_spec (show c.toNat % 16 < 16 by omega)
      have bytes : utf8 ['\\', 'u', '0', '0', hexDigit (c.toNat / 16), hexDigit (c.toNat % 16)] =
          [0x5C, 0x75, 0x30, 0x30, h, l] := by
        simp only [utf8_cons, utf8_nil, hh, hl]
        rfl
      rw [bytes]
      refine .number high low ?_ small
      have zero : hexValue? 0x30 = some 0 := rfl
      simp only [unit?, zero, meansH, meansL, Option.bind_eq_bind, Option.bind_some, Option.pure_def]
      congr 1
      omega
    · next large =>
      rw [utf8_cons, utf8_nil, List.append_nil]
      refine .plain fun b hb => ?_
      by_cases ascii : c.toNat ≤ 0x7F
      · rw [utf8EncodeChar_of_le ascii, List.mem_singleton] at hb
        have number : b.toNat = c.toNat := by
          rw [hb, UInt8.toNat_ofNat']
          omega
        rw [IsQuiet, number]
        exact ⟨by omega, quote, backslash⟩
      · have high := le_of_mem_utf8EncodeChar (by omega) hb
        exact ⟨by omega, by omega, by omega⟩
  all_goals
    next number => exact .of_short (by decide) (by decide) number (by decide) (by decide)

variable {c : Char} {b : UInt8} {bs : List UInt8}

theorem IsQuiet.ne_backslash (quiet : IsQuiet b) : b ≠ 0x5C := by
  rintro rfl
  exact quiet.2.2 rfl

theorem wellFormed_cons (other : b ≠ 0x5C) (rest : List UInt8) :
    wellFormed (b :: rest) = wellFormed rest := by
  rw [wellFormed]
  · simp [other]
  · rintro a b c d rest rfl
    exact absurd rfl other
  · rintro e rest rfl
    exact absurd rfl other

theorem bytes?_cons (other : b ≠ 0x5C) (rest : List UInt8) :
    bytes? (b :: rest) = (bytes? rest).map (b :: ·) := by
  rw [bytes?]
  · rw [if_neg other]
  · rintro a b c d e f g h rest rfl
    exact absurd rfl other
  · rintro a b c d rest rfl
    exact absurd rfl other
  · rintro e rest rfl
    exact absurd rfl other

theorem Form.wellFormed (form : Form c bs) (rest : List UInt8) :
    wellFormed (bs ++ rest) = wellFormed rest := by
  cases form with
  | plain quiet =>
    generalize String.utf8EncodeChar c = bs at quiet
    induction bs with
    | nil => rfl
    | cons b bs ih =>
      obtain ⟨hb, quiet⟩ := List.forall_mem_cons.1 quiet
      rw [List.cons_append, wellFormed_cons hb.ne_backslash, ih quiet]
  | @short x b letter other means own =>
    show Escape.wellFormed (0x5C :: x :: rest) = Escape.wellFormed rest
    rw [Escape.wellFormed]
    · simp [means]
    · rintro a b c d rest rfl
      exact absurd rfl other
  | @number h l _ _ means small =>
    show Escape.wellFormed (0x5C :: 0x75 :: 0x30 :: 0x30 :: h :: l :: rest) = Escape.wellFormed rest
    rw [Escape.wellFormed]
    simp [means]

theorem Form.bytes? (form : Form c bs) (rest : List UInt8) :
    bytes? (bs ++ rest) = (bytes? rest).map (String.utf8EncodeChar c ++ ·) := by
  cases form with
  | plain quiet =>
    generalize String.utf8EncodeChar c = bs at quiet
    induction bs with
    | nil => simp
    | cons b bs ih =>
      obtain ⟨hb, quiet⟩ := List.forall_mem_cons.1 quiet
      rw [List.cons_append, bytes?_cons hb.ne_backslash, ih quiet, Option.map_map]
      rfl
  | @short x b letter other means own =>
    show Escape.bytes? (0x5C :: x :: rest) = _
    rw [Escape.bytes?, means, own]
    · rfl
    · rintro a b c d e f g h rest rfl
      exact absurd rfl other
    · rintro a b c d rest rfl
      exact absurd rfl other
  | @number h l _ _ means small =>
    show Escape.bytes? (0x5C :: 0x75 :: 0x30 :: 0x30 :: h :: l :: rest) = _
    have high : isHigh c.toNat = false := by simp [isHigh]; omega
    have low : isLow c.toNat = false := by simp [isLow]; omega
    have own : bytesOf c.toNat = String.utf8EncodeChar c := by rw [bytesOf, Char.ofNat_toNat]
    -- what follows may be such an escape as well, but no pair begins here
    rw [Escape.bytes?.eq_def]
    split
    · next same => cases same
    · next same =>
      cases same
      simp [means, high, low, own]
    · next same =>
      cases same
      simp [means, high, low, own]
    · next only same =>
      cases same
      exact (only 0x30 0x30 h l rest rfl rfl).elim
    · next only same =>
      cases same
      exact (only _ _ rfl rfl).elim

/-! ### Texts between quotes -/

/-- The bytes of a text between its quotes. -/
def escaped (s : String) : List UInt8 := utf8 (s.toList.flatMap encodeChar)

theorem utf8_flatMap_cons (c : Char) (cs : List Char) :
    utf8 ((c :: cs).flatMap encodeChar) = utf8 (encodeChar c) ++ utf8 (cs.flatMap encodeChar) := by
  rw [List.flatMap_cons, utf8_append]

theorem wellFormed_escaped (s : String) : Escape.wellFormed (escaped s) = true := by
  unfold escaped
  induction s.toList with
  | nil => rfl
  | cons c cs ih => rw [utf8_flatMap_cons, (form_encodeChar c).wellFormed, ih]

theorem bytes?_escaped (s : String) : Escape.bytes? (escaped s) = some (utf8 s.toList) := by
  unfold escaped
  induction s.toList with
  | nil => rfl
  | cons c cs ih =>
    rw [utf8_flatMap_cons, (form_encodeChar c).bytes?, ih]
    rfl

/-- A text is read back from what stands between its quotes. -/
theorem text?_escaped (s : String) : text? (escaped s) = some s := by
  rw [text?, bytes?_escaped, utf8_toList, Option.bind_some]
  show String.fromUTF8? s.toByteArray = some s
  rw [String.fromUTF8?, dif_pos s.isValidUTF8]
  rfl

end Escape

/-! ### Tokens -/

namespace Token

open Escape

variable {c : Char} {b : UInt8} {bs : List UInt8} {done : List Token}

theorem step_of_isQuiet (quiet : IsQuiet b) (rev : List UInt8) :
    Scanner.step ⟨.text rev false, done⟩ b = some ⟨.text (b :: rev) false, done⟩ := by
  obtain ⟨printable, quote, backslash⟩ := quiet
  simp [Scanner.step, Nat.not_lt.2 printable, quote, backslash]

theorem step_escaped (printable : 0x20 ≤ b.toNat) (rev : List UInt8) :
    Scanner.step ⟨.text rev true, done⟩ b = some ⟨.text (b :: rev) false, done⟩ := by
  simp [Scanner.step, Nat.not_lt.2 printable]

theorem step_backslash (rev : List UInt8) :
    Scanner.step ⟨.text rev false, done⟩ 0x5C = some ⟨.text (0x5C :: rev) true, done⟩ := rfl

/-- Inside a string the bytes of a character are taken as they are. -/
theorem scan_of_form (form : Form c bs) (rev : List UInt8) :
    bs.foldlM Scanner.step ⟨.text rev false, done⟩ =
      some ⟨.text (bs.reverse ++ rev) false, done⟩ := by
  cases form with
  | plain quiet =>
    generalize String.utf8EncodeChar c = bs at quiet
    induction bs generalizing rev with
    | nil => rfl
    | cons b bs ih =>
      obtain ⟨hb, quiet⟩ := List.forall_mem_cons.1 quiet
      rw [List.foldlM_cons, step_of_isQuiet hb, Option.bind_eq_bind, Option.bind_some, ih _ quiet]
      simp
  | short letter other means own =>
    simp [step_backslash, step_escaped letter]
  | number high low means small =>
    have zero : IsQuiet 0x30 := by unfold IsQuiet; decide
    have letter : 0x20 ≤ (0x75 : UInt8).toNat := by decide
    simp [step_backslash, step_escaped letter, step_of_isQuiet zero, step_of_isQuiet high,
      step_of_isQuiet low]

theorem scan_escaped (cs : List Char) (rev : List UInt8) :
    (utf8 (cs.flatMap encodeChar)).foldlM Scanner.step ⟨.text rev false, done⟩ =
      some ⟨.text ((utf8 (cs.flatMap encodeChar)).reverse ++ rev) false, done⟩ := by
  induction cs generalizing rev with
  | nil => rfl
  | cons c cs ih =>
    rw [utf8_flatMap_cons, List.foldlM_append, scan_of_form (form_encodeChar c),
      Option.bind_eq_bind, Option.bind_some, ih, List.reverse_append, List.append_assoc]

/-- The bytes are these tokens. -/
def Spells (bs : List UInt8) (ts : List Token) : Prop :=
  ∀ done, bs.foldlM Scanner.step ⟨.nothing, done⟩ = some ⟨.nothing, ts.reverse ++ done⟩

theorem Spells.append {bs bs' : List UInt8} {ts ts' : List Token} (h : Spells bs ts)
    (h' : Spells bs' ts') : Spells (bs ++ bs') (ts ++ ts') := by
  intro done
  rw [List.foldlM_append, h, Option.bind_eq_bind, Option.bind_some, h', List.reverse_append,
    List.append_assoc]

theorem Spells.quoted (s : String) : Spells (utf8 (Escape.quoted s)) [.text (escaped s)] := by
  intro done
  have bytes : utf8 (Escape.quoted s) = 0x22 :: (escaped s ++ [0x22]) := by
    rw [Escape.quoted, List.cons_append, utf8_cons, utf8_append]
    rfl
  have opens : Scanner.step ⟨.nothing, done⟩ 0x22 = some ⟨.text [] false, done⟩ := rfl
  have closes : Scanner.step ⟨.text (escaped s).reverse false, done⟩ 0x22 =
      some ⟨.nothing, .text (escaped s) :: done⟩ := by
    simp [Scanner.step, wellFormed_escaped]
  rw [bytes, List.foldlM_cons, opens, Option.bind_eq_bind, Option.bind_some, List.foldlM_append,
    escaped, scan_escaped, Option.bind_eq_bind, Option.bind_some, List.append_nil,
    ← escaped, List.foldlM_cons, closes]
  rfl

theorem scan?_of_spells {ts : List Token} (h : Spells bs ts) : scan? bs = some ts := by
  rw [scan?, h]
  simp [Scanner.finish]

/-- The tokens of texts behind the first. -/
def ofItems (texts : List String) : List Token := texts.flatMap fun t => [.comma, .text (escaped t)]

/-- The tokens of a list of texts. -/
def ofTexts : List String → List Token
  | [] => [.openList, .closeList]
  | t :: rest => .openList :: .text (escaped t) :: (ofItems rest ++ [.closeList])

theorem spells_items (texts : List String) :
    Spells (utf8 (compactItems (texts.map str))) (ofItems texts) := by
  induction texts with
  | nil => exact fun done => rfl
  | cons t rest ih =>
    have comma : Spells (utf8 [',']) [.comma] := fun done => rfl
    have whole := (comma.append (Spells.quoted t)).append ih
    rw [← utf8_append, ← utf8_append] at whole
    simpa [compactItems, compactChars, ofItems] using whole

theorem spells_texts (texts : List String) :
    Spells (utf8 (compactChars (.ofTexts texts))) (ofTexts texts) := by
  cases texts with
  | nil => exact fun done => rfl
  | cons t rest =>
    have opens : Spells (utf8 ['[']) [.openList] := fun done => rfl
    have closes : Spells (utf8 [']']) [.closeList] := fun done => rfl
    have whole := ((opens.append (Spells.quoted t)).append (spells_items rest)).append closes
    rw [← utf8_append, ← utf8_append, ← utf8_append] at whole
    simpa [Json.ofTexts, compactChars, ofTexts] using whole

theorem spells_member {key : String} {v : Json} {ts : List Token}
    (h : Spells (utf8 v.compactChars) ts) :
    Spells (utf8 (compactChars (.obj [(key, v)])))
      (.openObject :: .text (escaped key) :: .colon :: (ts ++ [.closeObject])) := by
  have opens : Spells (utf8 ['\x7b']) [.openObject] := fun done => rfl
  have colon : Spells (utf8 [':']) [.colon] := fun done => rfl
  have closes : Spells (utf8 ['\x7d']) [.closeObject] := fun done => rfl
  have whole := (((opens.append (Spells.quoted key)).append colon).append h).append closes
  rw [← utf8_append, ← utf8_append, ← utf8_append, ← utf8_append] at whole
  simpa [compactChars, compactMembers] using whole

end Token

/-! ### Trees -/

namespace Written

open Escape

/-- The tokens make this tree wherever a value may stand. -/
def Makes (ts : List Token) (w : Written) : Prop :=
  ∀ stack, ts.foldlM Builder.step ⟨.value, stack⟩ = some (Builder.ended w stack)

/-- The tree of a list of texts. -/
def ofTexts (texts : List String) : Written := .list (texts.map fun t => .text (escaped t))

theorem foldlM_items (texts : List String) (done : List Written) (stack : List Open) :
    (Token.ofItems texts).foldlM Builder.step ⟨.commaOrClose, .list done :: stack⟩ =
      some ⟨.commaOrClose,
        .list ((texts.map fun t => Written.text (escaped t)).reverse ++ done) :: stack⟩ := by
  induction texts generalizing done with
  | nil => rfl
  | cons t rest ih =>
    have item : [Token.comma, .text (escaped t)].foldlM Builder.step
        ⟨.commaOrClose, .list done :: stack⟩ =
          some ⟨.commaOrClose, .list (.text (escaped t) :: done) :: stack⟩ := rfl
    rw [Token.ofItems, List.flatMap_cons, List.foldlM_append, item, Option.bind_eq_bind,
      Option.bind_some, ← Token.ofItems, ih]
    simp

theorem makes_texts (texts : List String) : Makes (Token.ofTexts texts) (ofTexts texts) := by
  intro stack
  cases texts with
  | nil => rfl
  | cons t rest =>
    have first : [Token.openList, .text (escaped t)].foldlM Builder.step ⟨.value, stack⟩ =
        some ⟨.commaOrClose, .list [.text (escaped t)] :: stack⟩ := rfl
    have closes (done : List Written) :
        Builder.step ⟨.commaOrClose, .list done :: stack⟩ .closeList =
          some (Builder.ended (.list done.reverse) stack) := rfl
    have parts : Token.ofTexts (t :: rest) =
        [.openList, .text (escaped t)] ++ (Token.ofItems rest ++ [.closeList]) := rfl
    rw [parts, List.foldlM_append, first, Option.bind_eq_bind, Option.bind_some,
      List.foldlM_append, foldlM_items, Option.bind_eq_bind, Option.bind_some, List.foldlM_cons,
      closes]
    simp [ofTexts]

theorem Makes.member {ts : List Token} {w : Written} (h : Makes ts w) (raw : List UInt8) :
    Makes (.openObject :: .text raw :: .colon :: (ts ++ [.closeObject])) (.members [(raw, w)]) := by
  intro stack
  have opens : [Token.openObject, .text raw, .colon].foldlM Builder.step ⟨.value, stack⟩ =
      some ⟨.value, .members [] raw :: stack⟩ := rfl
  have closes : Builder.step (Builder.ended w (.members [] raw :: stack)) .closeObject =
      some (Builder.ended (.members [(raw, w)]) stack) := rfl
  have parts : .openObject :: .text raw :: .colon :: (ts ++ [.closeObject]) =
      [Token.openObject, .text raw, .colon] ++ (ts ++ [.closeObject]) := rfl
  rw [parts, List.foldlM_append, opens, Option.bind_eq_bind, Option.bind_some, List.foldlM_append,
    h, Option.bind_eq_bind, Option.bind_some, List.foldlM_cons, closes]
  rfl

theorem read?_of_makes {bs : List UInt8} {ts : List Token} {w : Written}
    (spells : Token.Spells bs ts) (makes : Makes ts w) : read? bs = some w := by
  rw [read?, Token.scan?_of_spells spells, Option.bind_eq_bind, Option.bind_some, makes]
  rfl

theorem toJson?_ofTexts (depth : Nat) (texts : List String) :
    toJson? (depth + 1) (ofTexts texts) = some (.ofTexts texts) := by
  have items : toJsons? depth (texts.map fun t => .text (escaped t)) = some (texts.map str) := by
    induction texts with
    | nil => rw [List.map_nil, toJsons?, List.map_nil]
    | cons t rest ih => simp [toJsons?, toJson?, text?_escaped, ih]
  rw [ofTexts, toJson?, items]
  rfl

end Written

/-- An object whose one member is a list of texts is read back from its written form. -/
theorem read?_compact_texts (key : String) (texts : List String) :
    read? (Json.obj [(key, .ofTexts texts)]).compact.toByteArray.data.toList =
      some (.obj [(key, .ofTexts texts)]) := by
  have bytes : (Json.obj [(key, .ofTexts texts)]).compact.toByteArray.data.toList =
      utf8 (compactChars (.obj [(key, .ofTexts texts)])) := by
    rw [← utf8_toList, compact, String.toList_ofList]
  have tree := Written.read?_of_makes (Token.spells_member (Token.spells_texts texts))
    ((Written.makes_texts texts).member (Escape.escaped key))
  rw [bytes, read?, tree, Option.bind_some, depthLimit, Written.toJson?, Written.toMembers?,
    Written.toMembers?, Written.toJson?_ofTexts, Escape.text?_escaped]
  rfl

end FollowClient.Json
