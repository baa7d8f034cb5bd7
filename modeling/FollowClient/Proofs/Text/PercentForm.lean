import FollowClient.Text.Percent
import Mathlib.Data.List.Basic

/-!
The percent form of a text. It consists of unreserved characters and escaped bytes alone
(`written_encode`), and it can be read back (`decode?_encode`), so different texts have different
forms.
-/

namespace FollowClient.Text.Percent

/-! ### Written forms -/

/-- The characters that stand for themselves. -/
def isPlain (c : Char) : Bool := c.isAlphanum || "-._~".toList.contains c

/-- A capital hexadecimal digit. -/
def isHexDigit (c : Char) : Bool := "0123456789ABCDEF".toList.contains c

/-- Characters that stand for themselves and escaped bytes, one after the other. -/
inductive Written : List Char → Prop where
  | nil : Written []
  | plain {c : Char} {cs : List Char} (hc : isPlain c = true) (rest : Written cs) :
    Written (c :: cs)
  | escaped {hi lo : Char} {cs : List Char} (hhi : isHexDigit hi = true)
    (hlo : isHexDigit lo = true) (rest : Written cs) : Written ('%' :: hi :: lo :: cs)

/-- The characters of written forms. -/
def isWrittenChar (c : Char) : Bool := isPlain c || c = '%'

theorem isPlain_of_isHexDigit {c : Char} (h : isHexDigit c = true) : isPlain c = true := by
  have each : ("0123456789ABCDEF".toList.all isPlain) = true := by decide
  exact List.all_eq_true.1 each c (List.contains_iff_mem.1 h)

theorem Written.isWrittenChar {cs : List Char} (h : Written cs) {c : Char} (hc : c ∈ cs) :
    isWrittenChar c = true := by
  have plain : ∀ {d : Char}, isPlain d = true → Percent.isWrittenChar d = true := fun hd => by
    simp [Percent.isWrittenChar, hd]
  induction h with
  | nil => cases hc
  | plain hd rest ih =>
    rcases List.mem_cons.1 hc with rfl | hc
    · exact plain hd
    · exact ih hc
  | escaped hhi hlo rest ih =>
    simp only [List.mem_cons] at hc
    rcases hc with rfl | rfl | rfl | hc
    · rfl
    · exact plain (isPlain_of_isHexDigit hhi)
    · exact plain (isPlain_of_isHexDigit hlo)
    · exact ih hc

theorem toNat_le_of_isAlphanum {c : Char} (h : c.isAlphanum = true) : c.toNat ≤ 'z'.toNat := by
  have bounded : c.val ≤ 'z'.val := by
    rcases Bool.or_eq_true_iff.1 h with letter | digit
    · rcases Bool.or_eq_true_iff.1 letter with upper | lower
      · exact UInt32.le_trans (of_decide_eq_true upper).2 (by decide)
      · exact of_decide_eq_true (Bool.and_eq_true_iff.1 lower).2
    · exact UInt32.le_trans (of_decide_eq_true (Bool.and_eq_true_iff.1 digit).2) (by decide)
  exact UInt32.le_iff_toNat_le.1 bounded

theorem toNat_lt_of_isWrittenChar {c : Char} (h : isWrittenChar c = true) : c.toNat < 128 := by
  simp only [isWrittenChar, isPlain, Bool.or_eq_true, decide_eq_true_eq] at h
  rcases h with (h | h) | rfl
  · exact Nat.lt_of_le_of_lt (toNat_le_of_isAlphanum h) (by decide)
  · have each : ("-._~".toList.all (·.toNat < 128)) = true := by decide
    exact of_decide_eq_true (List.all_eq_true.1 each c (List.contains_iff_mem.1 h))
  · decide

/-- What holds of the ASCII characters among them holds of all the characters of written forms. -/
theorem forall_of_isWrittenChar {P : Char → Prop}
    (each : ∀ n : Fin 128, isWrittenChar (Char.ofNat n) = true → P (Char.ofNat n)) {c : Char}
    (h : isWrittenChar c = true) : P c := by
  have own := each ⟨c.toNat, toNat_lt_of_isWrittenChar h⟩
  rw [Char.ofNat_toNat] at own
  exact own h

theorem Written.append {cs ds : List Char} (hc : Written cs) (hd : Written ds) :
    Written (cs ++ ds) := by
  induction hc with
  | nil => exact hd
  | plain hc rest ih => exact .plain hc ih
  | escaped hhi hlo rest ih => exact .escaped hhi hlo ih

/-! ### One byte -/

theorem toNat_lt_of_isUnreserved {b : UInt8} (h : isUnreserved b = true) : b.toNat < 128 := by
  simp only [isUnreserved, Bool.or_eq_true, Bool.and_eq_true, decide_eq_true_eq,
    beq_iff_eq] at h
  omega

section Byte

variable {b : UInt8}

theorem plain_of_isUnreserved (h : isUnreserved b = true) :
    isPlain (Char.ofNat b.toNat) = true ∧ Char.ofNat b.toNat ≠ '%' ∧
      (Char.ofNat b.toNat).toNat = b.toNat := by
  have each : ∀ n : Fin 128, isUnreserved (UInt8.ofNat n) = true →
      isPlain (Char.ofNat n) = true ∧ Char.ofNat n ≠ '%' ∧ (Char.ofNat n).toNat = n := by decide
  have own := each ⟨b.toNat, toNat_lt_of_isUnreserved h⟩
  rw [UInt8.ofNat_toNat] at own
  exact own h

theorem hexDigit_spec {n : Nat} (h : n < 16) :
    isHexDigit (hexDigit n) = true ∧ hexValue? (hexDigit n) = some n := by
  have each : ∀ n : Fin 16, isHexDigit (hexDigit n) = true ∧
      hexValue? (hexDigit n) = some n.val := by decide
  exact each ⟨n, h⟩

theorem written_encodeByte (b : UInt8) : Written (encodeByte b) := by
  unfold encodeByte
  split
  · next h => exact .plain (plain_of_isUnreserved h).1 .nil
  · exact .escaped (hexDigit_spec (by have := b.toNat_lt; omega)).1
      (hexDigit_spec (Nat.mod_lt _ (by decide))).1 .nil

/-- A byte in front is read first. -/
theorem decodeBytes?_encodeByte (b : UInt8) (rest : List Char) :
    decodeBytes? (encodeByte b ++ rest) = (decodeBytes? rest).map (b :: ·) := by
  unfold encodeByte
  split
  · next h =>
    obtain ⟨-, sign, number⟩ := plain_of_isUnreserved h
    have small := toNat_lt_of_isUnreserved h
    rw [List.singleton_append, decodeBytes?.eq_def]
    split
    · next same => cases same
    · next hi lo more same => exact absurd (List.cons.inj same).1 sign
    · next c more _ same =>
      obtain ⟨rfl, rfl⟩ := List.cons.inj same
      simp [number, UInt8.ofNat_toNat, h, small]
  · have whole : 16 * (b.toNat / 16) + b.toNat % 16 = b.toNat := Nat.div_add_mod _ _
    rw [escapeByte, List.cons_append, List.cons_append, List.singleton_append, decodeBytes?,
      (hexDigit_spec (by have := b.toNat_lt; omega)).2,
      (hexDigit_spec (Nat.mod_lt _ (by decide))).2]
    simp only [Option.bind_eq_bind, Option.bind_some, whole, UInt8.ofNat_toNat]
    cases decodeBytes? rest <;> rfl

end Byte

/-! ### Texts -/

theorem written_encodeBytes (bs : List UInt8) : Written (encodeBytes bs) := by
  induction bs with
  | nil => exact .nil
  | cons b bs ih => exact (written_encodeByte b).append ih

theorem decodeBytes?_encodeBytes (bs : List UInt8) : decodeBytes? (encodeBytes bs) = some bs := by
  induction bs with
  | nil => rfl
  | cons b bs ih =>
    rw [encodeBytes, List.flatMap_cons, decodeBytes?_encodeByte]
    exact congrArg (Option.map (b :: ·)) ih

theorem written_encode (s : String) : Written (encode s).toList := by
  rw [encode, String.toList_ofList]
  exact written_encodeBytes _

/-- A text is read back from its percent form. -/
theorem decode?_encode (s : String) : decode? (encode s) = some s := by
  rw [decode?, encode, String.toList_ofList, decodeBytes?_encodeBytes, Option.bind_some]
  show String.fromUTF8? s.toByteArray = some s
  rw [String.fromUTF8?, dif_pos s.isValidUTF8]
  rfl

theorem encode_injective {s t : String} (h : encode s = encode t) : s = t := by
  have read : decode? (encode s) = decode? (encode t) := congrArg decode? h
  rw [decode?_encode, decode?_encode] at read
  exact Option.some.inj read

end FollowClient.Text.Percent
