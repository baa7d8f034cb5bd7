/-!
Blank characters, trimming and splitting. A blank is a character with the property White_Space;
trimming drops the blanks at both ends and nothing between them.
-/

namespace FollowClient.Text

/-- The blanks: the twenty-five characters with the property White_Space. -/
def isBlank (c : Char) : Bool :=
  let n := c.toNat
  (0x09 ≤ n && n ≤ 0x0D) || n == 0x20 || n == 0x85 || n == 0xA0 || n == 0x1680 ||
    (0x2000 ≤ n && n ≤ 0x200A) || n == 0x2028 || n == 0x2029 || n == 0x202F || n == 0x205F ||
    n == 0x3000

/-! ### Ends of a list -/

section Ends

variable {α : Type} (p : α → Bool)

/-- The list without the longest run at its end whose members all pass `p`. -/
def dropEndWhile (xs : List α) : List α := (xs.reverse.dropWhile p).reverse

/-- The list without such runs at both ends. -/
def strip (xs : List α) : List α := dropEndWhile p (xs.dropWhile p)

@[simp] theorem dropEndWhile_nil : dropEndWhile p [] = [] := rfl

theorem dropEndWhile_append_singleton (xs : List α) (x : α) :
    dropEndWhile p (xs ++ [x]) = if p x then dropEndWhile p xs else xs ++ [x] := by
  by_cases h : p x <;> simp [dropEndWhile, h]

@[simp] theorem strip_nil : strip p [] = [] := rfl

theorem dropWhile_dropWhile (xs : List α) : (xs.dropWhile p).dropWhile p = xs.dropWhile p := by
  cases h : xs.dropWhile p with
  | nil => rfl
  | cons x rest =>
    have hx := List.head?_dropWhile_not p xs
    rw [h] at hx
    exact List.dropWhile_cons_of_neg (Bool.eq_false_iff.1 hx)

theorem dropEndWhile_dropEndWhile (xs : List α) :
    dropEndWhile p (dropEndWhile p xs) = dropEndWhile p xs := by
  simp only [dropEndWhile, List.reverse_reverse, dropWhile_dropWhile]

theorem dropEndWhile_cons {x : α} (hx : p x = false) (xs : List α) :
    dropEndWhile p (x :: xs) = x :: dropEndWhile p xs := by
  unfold dropEndWhile
  rw [List.reverse_cons, List.dropWhile_append]
  split
  · next h => simp [hx, List.isEmpty_iff.1 h]
  · simp

/-- A list that has been stripped has nothing more to strip. -/
theorem strip_strip (xs : List α) : strip p (strip p xs) = strip p xs := by
  have front : (strip p xs).dropWhile p = strip p xs := by
    unfold strip
    cases h : xs.dropWhile p with
    | nil => rfl
    | cons x rest =>
      have hx := List.head?_dropWhile_not p xs
      rw [h] at hx
      rw [dropEndWhile_cons p hx, List.dropWhile_cons_of_neg (Bool.eq_false_iff.1 hx)]
  calc strip p (strip p xs) = dropEndWhile p ((strip p xs).dropWhile p) := rfl
    _ = dropEndWhile p (strip p xs) := by rw [front]
    _ = strip p xs := dropEndWhile_dropEndWhile p _

theorem all_strip (xs : List α) : (strip p xs).all p = xs.all p := by
  have front : xs.all p = (xs.dropWhile p).all p := by
    conv => lhs; rw [← @List.takeWhile_append_dropWhile _ p xs]
    rw [List.all_append, List.all_takeWhile, Bool.true_and]
  rw [front, strip]
  cases h : xs.dropWhile p with
  | nil => rfl
  | cons x rest =>
    have hx := List.head?_dropWhile_not p xs
    rw [h] at hx
    rw [dropEndWhile_cons p hx, List.all_cons, List.all_cons, hx, Bool.false_and, Bool.false_and]

theorem strip_eq_nil_iff (xs : List α) : strip p xs = [] ↔ xs.all p = true := by
  constructor
  · intro h
    rw [← all_strip, h, List.all_nil]
  · intro h
    have front : xs.dropWhile p = [] := by
      induction xs with
      | nil => rfl
      | cons x rest ih =>
        rw [List.all_cons, Bool.and_eq_true] at h
        rw [List.dropWhile_cons_of_pos h.1, ih h.2]
    rw [strip, front, dropEndWhile_nil]

end Ends

/-! ### Trimming -/

/-- The text without the blanks at its two ends. -/
def trim (s : String) : String := String.ofList (strip isBlank s.toList)

/-- The text holds nothing but blanks. -/
def isBlankText (s : String) : Bool := s.toList.all isBlank

@[simp] theorem trim_toList (s : String) : (trim s).toList = strip isBlank s.toList := by
  simp [trim]

theorem isBlankText_trim (s : String) : isBlankText (trim s) = isBlankText s := by
  rw [isBlankText, trim_toList, all_strip, isBlankText]

theorem isEmpty_trim (s : String) : (trim s).isEmpty = isBlankText s := by
  rw [Bool.eq_iff_iff, String.isEmpty_iff, ← String.toList_eq_nil_iff, trim_toList,
    strip_eq_nil_iff, isBlankText]

theorem trim_trim (s : String) : trim (trim s) = trim s := by
  rw [trim, trim_toList, strip_strip, trim]

/-! ### Splitting -/

/-- The pieces of a list between the members that pass `p`; an empty list is one empty piece. -/
def splitOn {α : Type} (p : α → Bool) : List α → List (List α)
  | [] => [[]]
  | x :: xs =>
    match splitOn p xs with
    | [] => [[x]]
    | piece :: pieces => if p x then [] :: piece :: pieces else (x :: piece) :: pieces

theorem splitOn_ne_nil {α : Type} (p : α → Bool) (xs : List α) : splitOn p xs ≠ [] := by
  cases xs with
  | nil => simp [splitOn]
  | cons x xs => unfold splitOn; split <;> (try split) <;> simp

/-! ### Letters -/

/-- The text with the ASCII capitals in lower case; no other character changes. -/
def lower (s : String) : String := String.ofList (s.toList.map Char.toLower)

end FollowClient.Text
