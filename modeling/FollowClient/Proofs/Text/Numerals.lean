import FollowClient.Text.Decimal
import Mathlib.Data.Nat.Digits.Defs

/-!
Texts that denote a number: one or more ASCII digits, with at most one plus sign before them. A
number is read from these texts and no others (`read?_eq_some_iff`), and the text that is written for
a number denotes it (`denotes_text`).
-/

namespace FollowClient.Text.Decimal

/-- The value of a digit. -/
def digitValue (c : Char) : Nat := c.toNat - '0'.toNat

/-- The number with these digits, the most significant one first. -/
def valueOf (ds : List Char) : Nat := Nat.ofDigits 10 (ds.reverse.map digitValue)

/-- The text is an optional plus sign and the digits of the number, leading zeros included. -/
def Denotes (text : String) (n : Nat) : Prop :=
  ∃ ds, (text.toList = ds ∨ text.toList = '+' :: ds) ∧ ds ≠ [] ∧ (∀ d ∈ ds, d.isDigit) ∧
    valueOf ds = n

theorem valueOf_cons (d : Char) (ds : List Char) :
    valueOf (d :: ds) = digitValue d * 10 ^ ds.length + valueOf ds := by
  rw [valueOf, List.reverse_cons, List.map_append, Nat.ofDigits_append, List.length_map,
    List.length_reverse, List.map_singleton, Nat.ofDigits_singleton, valueOf, Nat.mul_comm,
    Nat.add_comm]

theorem valueOf_append_singleton (ds : List Char) (d : Char) :
    valueOf (ds ++ [d]) = 10 * valueOf ds + digitValue d := by
  rw [valueOf, List.reverse_append, List.reverse_singleton, List.singleton_append, List.map_cons,
    Nat.ofDigits_cons, valueOf, Nat.add_comm]

/-! ### Reading -/

theorem digit?_eq_some_iff {c : Char} {n : Nat} :
    digit? c = some n ↔ c.isDigit ∧ digitValue c = n := by
  unfold digit?
  split
  · next h => simp [h, digitValue]
  · next h => simp [h]

/-- The digits that are read come after those of the number read so far. -/
theorem digits?_eq_some_iff {cs : List Char} {acc n : Nat} :
    digits? acc cs = some n ↔
      (∀ d ∈ cs, d.isDigit) ∧ acc * 10 ^ cs.length + valueOf cs = n := by
  induction cs generalizing acc with
  | nil => simp [digits?, valueOf]
  | cons c rest ih =>
    have power : (10 * acc + digitValue c) * 10 ^ rest.length + valueOf rest =
        acc * 10 ^ (c :: rest).length + valueOf (c :: rest) := by
      rw [valueOf_cons, List.length_cons, pow_succ]
      ring
    rw [digits?, Option.bind_eq_some_iff]
    constructor
    · rintro ⟨d, hd, read⟩
      obtain ⟨digit, rfl⟩ := digit?_eq_some_iff.1 hd
      obtain ⟨digits, value⟩ := ih.1 read
      exact ⟨List.forall_mem_cons.2 ⟨digit, digits⟩, power ▸ value⟩
    · rintro ⟨digits, value⟩
      obtain ⟨digit, digits⟩ := List.forall_mem_cons.1 digits
      exact ⟨digitValue c, digit?_eq_some_iff.2 ⟨digit, rfl⟩, ih.2 ⟨digits, power.trans value⟩⟩

/-- A plus sign is no digit, so it is clear which characters are the digits. -/
theorem dropPlus_eq_iff {cs ds : List Char} (hds : ∀ d ∈ ds, d.isDigit) :
    dropPlus cs = ds ↔ cs = ds ∨ cs = '+' :: ds := by
  unfold dropPlus
  split
  · next rest =>
    have unsigned : '+' :: rest ≠ ds := by
      rintro rfl
      exact absurd (hds '+' List.mem_cons_self) (by decide)
    simp [unsigned]
  · next plain =>
    have unsigned : cs ≠ '+' :: ds := plain ds
    simp [unsigned]

/-- **A text is read as a number exactly if it denotes it and the number is below the bound.** -/
theorem read?_eq_some_iff {bound n : Nat} {text : String} :
    read? bound text = some n ↔ Denotes text n ∧ n < bound := by
  have scanned : read? bound text = some n ↔
      dropPlus text.toList ≠ [] ∧ digits? 0 (dropPlus text.toList) = some n ∧ n < bound := by
    unfold read?
    split
    · next empty => simp [empty]
    · next any => simp [show dropPlus text.toList ≠ [] from any]
  rw [scanned, digits?_eq_some_iff, Nat.zero_mul, Nat.zero_add]
  constructor
  · rintro ⟨any, ⟨digits, value⟩, below⟩
    exact ⟨⟨_, (dropPlus_eq_iff digits).1 rfl, any, digits, value⟩, below⟩
  · rintro ⟨⟨ds, signed, any, digits, value⟩, below⟩
    rw [(dropPlus_eq_iff digits).2 signed]
    exact ⟨any, ⟨digits, value⟩, below⟩

/-- Leading zeros are read, and a second sign is not. -/
example : read? wordBound "+007" = some 7 ∧ read? wordBound "++7" = none := by decide

/-! ### Writing -/

theorem digit_ofNat {d : Nat} (h : d < 10) :
    (Char.ofNat (0x30 + d)).isDigit ∧ digitValue (Char.ofNat (0x30 + d)) = d := by
  have each : ∀ d : Fin 10,
      (Char.ofNat (0x30 + d)).isDigit ∧ digitValue (Char.ofNat (0x30 + d)) = d := by decide
  exact each ⟨d, h⟩

theorem write_ne_nil (n : Nat) : write n ≠ [] := by
  unfold write
  split <;> simp

theorem digits_write (n : Nat) : (∀ d ∈ write n, d.isDigit) ∧ valueOf (write n) = n := by
  induction n using write.induct with
  | case1 n small =>
    obtain ⟨digit, value⟩ := digit_ofNat small
    rw [write, if_pos small]
    exact ⟨List.forall_mem_singleton.2 digit, by simpa [valueOf] using value⟩
  | case2 n large ih =>
    obtain ⟨digits, value⟩ := ih
    obtain ⟨digit, last⟩ := digit_ofNat (Nat.mod_lt n (by decide : 0 < 10))
    rw [write, if_neg large]
    refine ⟨List.forall_mem_append.2 ⟨digits, List.forall_mem_singleton.2 digit⟩, ?_⟩
    rw [valueOf_append_singleton, value, last, Nat.div_add_mod]

/-- **The text that is written for a number denotes it.** -/
theorem denotes_text (n : Nat) : Denotes (text n) n :=
  have ⟨digits, value⟩ := digits_write n
  ⟨write n, .inl String.toList_ofList, write_ne_nil n, digits, value⟩

end FollowClient.Text.Decimal
