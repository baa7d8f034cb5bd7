/-!
The bytes of characters. An ASCII character is its one byte, and every byte of another character is
above them (`le_of_mem_utf8EncodeChar`).
-/

namespace FollowClient.Text

/-- The bytes of characters. -/
def utf8 (cs : List Char) : List UInt8 := cs.flatMap String.utf8EncodeChar

@[simp] theorem utf8_nil : utf8 [] = [] := rfl

@[simp] theorem utf8_append (cs ds : List Char) : utf8 (cs ++ ds) = utf8 cs ++ utf8 ds :=
  List.flatMap_append

theorem utf8_cons (c : Char) (cs : List Char) :
    utf8 (c :: cs) = String.utf8EncodeChar c ++ utf8 cs := rfl

theorem utf8_singleton (c : Char) : utf8 [c] = String.utf8EncodeChar c := List.append_nil _

theorem utf8_toList (s : String) : utf8 s.toList = s.toByteArray.data.toList := by
  conv => rhs; rw [← String.ofList_toList (s := s), String.toByteArray_ofList]
  simp [utf8, List.utf8Encode]

/-! ### One character -/

theorem le_of_mem_utf8EncodeChar {c : Char} (hc : 0x7F < c.toNat) {b : UInt8}
    (hb : b ∈ String.utf8EncodeChar c) : 0x80 ≤ b.toNat := by
  have large : ¬ c.val.toNat ≤ 0x7F := Nat.not_le.2 hc
  unfold String.utf8EncodeChar at hb
  dsimp only at hb
  rw [if_neg large] at hb
  split at hb
  · simp only [List.mem_cons, List.not_mem_nil, or_false] at hb
    rcases hb with rfl | rfl <;> rw [UInt8.toNat_ofNat'] <;> omega
  · split at hb
    · simp only [List.mem_cons, List.not_mem_nil, or_false] at hb
      rcases hb with rfl | rfl | rfl <;> rw [UInt8.toNat_ofNat'] <;> omega
    · simp only [List.mem_cons, List.not_mem_nil, or_false] at hb
      rcases hb with rfl | rfl | rfl | rfl <;> rw [UInt8.toNat_ofNat'] <;> omega

theorem utf8EncodeChar_of_le {c : Char} (hc : c.toNat ≤ 0x7F) :
    String.utf8EncodeChar c = [UInt8.ofNat c.toNat] := by
  unfold String.utf8EncodeChar
  exact if_pos hc

/-- The last byte of a character is its number if that is ASCII, and no ASCII byte otherwise. -/
theorem getLast?_utf8EncodeChar (c : Char) : (String.utf8EncodeChar c).getLast? =
    some (UInt8.ofNat (if c.toNat ≤ 0x7F then c.toNat else c.toNat % 64 + 128)) := by
  unfold String.utf8EncodeChar
  show List.getLast? (if c.toNat ≤ 127 then _ else _) = _
  split
  · rfl
  · split
    · rfl
    · split <;> rfl

theorem eq_of_getLast?_utf8EncodeChar {c d : Char} (hc : c.toNat ≤ 0x7F)
    (h : (String.utf8EncodeChar d).getLast? = (String.utf8EncodeChar c).getLast?) : d = c := by
  rw [getLast?_utf8EncodeChar, getLast?_utf8EncodeChar, if_pos hc] at h
  have same := congrArg UInt8.toNat (Option.some.inj h)
  rw [UInt8.toNat_ofNat', UInt8.toNat_ofNat'] at same
  refine Char.ext (UInt32.toNat_inj.1 ?_)
  show d.toNat = c.toNat
  split at same <;> omega

end FollowClient.Text
