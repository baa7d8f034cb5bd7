import FollowClient.Text.Trim
import Mathlib.Data.List.DropRight

/-!
The ends of a list, and its pieces. What is stripped is a run at the end that passes a test, so a list
is what is left of it between two such runs (`strip_between`). The pieces of a list that is split hold
no member that separates.
-/

namespace FollowClient.Text

variable {α : Type} {p : α → Bool}

/-! ### Ends -/

theorem dropEndWhile_isPrefix (xs : List α) : dropEndWhile p xs <+: xs :=
  List.rdropWhile_prefix p xs

theorem dropEndWhile_eq_self_iff {xs : List α} :
    dropEndWhile p xs = xs ↔ xs.getLast?.any p = false := by
  refine (List.rdropWhile_eq_self_iff (p := p) (l := xs)).trans ?_
  rcases List.eq_nil_or_concat xs with rfl | ⟨front, x, rfl⟩ <;> simp

theorem dropEndWhile_append_of_all {ys : List α} (h : ∀ y ∈ ys, p y = true) (xs : List α) :
    dropEndWhile p (xs ++ ys) = dropEndWhile p xs := by
  have nothing : ys.reverse.dropWhile p = [] := by simpa using h
  rw [dropEndWhile, List.reverse_append, List.dropWhile_append, nothing]
  rfl

theorem dropEndWhile_append_self (xs : List α) :
    ∃ behind, xs = dropEndWhile p xs ++ behind ∧ ∀ x ∈ behind, p x = true := by
  refine ⟨(xs.reverse.takeWhile p).reverse, ?_, fun x hx => ?_⟩
  · rw [dropEndWhile, ← List.reverse_append, List.takeWhile_append_dropWhile, List.reverse_reverse]
  · exact List.all_eq_true.1 List.all_takeWhile x (List.mem_reverse.1 hx)

theorem mem_of_mem_dropEndWhile {xs : List α} {x : α} (h : x ∈ dropEndWhile p xs) : x ∈ xs :=
  (dropEndWhile_isPrefix xs).subset h

theorem dropEndWhile_append_of_eq {xs : List α} (h : dropEndWhile p xs = xs) (ys : List α) :
    dropEndWhile p (xs ++ ys) = xs ++ dropEndWhile p ys := by
  unfold dropEndWhile at h ⊢
  rw [List.reverse_append, List.dropWhile_append]
  split
  · next empty =>
    rw [h, List.isEmpty_iff.1 empty]
    simp
  · simp

/-- What is stripped of a text with something behind it is what is stripped of the text, and a part
of what is behind. -/
theorem strip_append (xs ys : List α) :
    ∃ more, strip p (xs ++ ys) = strip p xs ++ more ∧ ∀ x ∈ more, p x = true ∨ x ∈ ys := by
  obtain ⟨between, hb, blank⟩ := dropEndWhile_append_self (p := p) (xs.dropWhile p)
  obtain ⟨rest, hr, sub⟩ : ∃ rest, (xs ++ ys).dropWhile p = xs.dropWhile p ++ rest ∧
      ∀ x ∈ rest, x ∈ ys := by
    rw [List.dropWhile_append]
    split
    · next empty =>
      exact ⟨ys.dropWhile p, by simp [List.isEmpty_iff.1 empty], fun x =>
        (List.dropWhile_sublist p).subset (a := x)⟩
    · exact ⟨ys, rfl, fun x hx => hx⟩
  have whole : strip p (xs ++ ys) = strip p xs ++ dropEndWhile p (between ++ rest) := by
    rw [strip, hr, hb, List.append_assoc]
    exact dropEndWhile_append_of_eq (dropEndWhile_dropEndWhile p _) _
  refine ⟨_, whole, fun x hx => ?_⟩
  rcases List.mem_append.1 (mem_of_mem_dropEndWhile hx) with hx | hx
  · exact .inl (blank x hx)
  · exact .inr (sub x hx)

theorem strip_cons_of_pos {x : α} (hx : p x = true) (xs : List α) :
    strip p (x :: xs) = strip p xs := by
  rw [strip, List.dropWhile_cons_of_pos hx, strip]

theorem strip_append_singleton_of_pos {x : α} (hx : p x = true) (xs : List α) :
    strip p (xs ++ [x]) = strip p xs := by
  rw [strip, List.dropWhile_append]
  split
  · next empty => rw [strip, List.isEmpty_iff.1 empty, List.dropWhile_cons_of_pos hx]; rfl
  · rw [dropEndWhile_append_singleton, if_pos hx, strip]

/-- A list is what is left of it between the two runs that are stripped. -/
theorem strip_between (xs : List α) :
    ∃ front behind, xs = front ++ strip p xs ++ behind ∧ (∀ x ∈ front, p x = true) ∧
      ∀ x ∈ behind, p x = true := by
  obtain ⟨behind, hb, all⟩ := dropEndWhile_append_self (p := p) (xs.dropWhile p)
  refine ⟨xs.takeWhile p, behind, ?_, fun x hx => List.all_eq_true.1 List.all_takeWhile x hx, all⟩
  rw [List.append_assoc, strip, ← hb, List.takeWhile_append_dropWhile]

theorem mem_of_mem_strip {xs : List α} {x : α} (h : x ∈ strip p xs) : x ∈ xs :=
  (List.dropWhile_sublist p).subset (mem_of_mem_dropEndWhile h)

/-! ### Pieces -/

theorem splitOn_eq_splitOnP (p : α → Bool) (xs : List α) : splitOn p xs = xs.splitOnP p := by
  induction xs with
  | nil => rfl
  | cons x xs ih =>
    obtain ⟨piece, pieces, split⟩ := List.exists_cons_of_ne_nil (List.splitOnP_ne_nil p xs)
    rw [splitOn, ih, List.splitOnP_cons_eq_if_modifyHead, split]
    rfl

theorem splitOn_of_all {xs : List α} (h : ∀ x ∈ xs, p x = false) : splitOn p xs = [xs] := by
  rw [splitOn_eq_splitOnP, List.splitOnP_eq_singleton h]

theorem splitOn_append_cons {x : α} (hx : p x = true) (xs ys : List α) :
    splitOn p (xs ++ x :: ys) = splitOn p xs ++ splitOn p ys := by
  simp only [splitOn_eq_splitOnP]
  exact List.splitOnP_append_cons xs ys hx

/-- What separates nothing extends the last piece. -/
theorem splitOn_append (p : α → Bool) (xs : List α) :
    ∃ pieces last, ∀ ys, (∀ y ∈ ys, p y = false) →
      splitOn p (xs ++ ys) = pieces ++ [last ++ ys] := by
  induction xs with
  | nil => exact ⟨[], [], fun ys hys => splitOn_of_all hys⟩
  | cons x xs ih =>
    obtain ⟨pieces, last, ih⟩ := ih
    by_cases hx : p x = true
    · refine ⟨[] :: pieces, last, fun ys hys => ?_⟩
      rw [List.cons_append, splitOn, ih ys hys]
      cases pieces <;> simp [hx]
    · cases pieces with
      | nil =>
        refine ⟨[], x :: last, fun ys hys => ?_⟩
        rw [List.cons_append, splitOn, ih ys hys]
        simp [hx]
      | cons piece pieces =>
        refine ⟨(x :: piece) :: pieces, last, fun ys hys => ?_⟩
        rw [List.cons_append, splitOn, ih ys hys]
        simp [hx]

theorem eq_false_of_mem_splitOn {xs piece : List α} (h : piece ∈ splitOn p xs) :
    ∀ x ∈ piece, p x = false := by
  induction xs generalizing piece with
  | nil =>
    rw [splitOn, List.mem_singleton] at h
    simp [h]
  | cons x xs ih =>
    obtain ⟨first, pieces, split⟩ := List.exists_cons_of_ne_nil (splitOn_ne_nil p xs)
    rw [splitOn, split] at h
    dsimp only at h
    rw [split] at ih
    cases hx : p x with
    | true =>
      rw [if_pos hx, List.mem_cons] at h
      rcases h with rfl | h
      · simp
      · exact ih h
    | false =>
      rw [if_neg (Bool.eq_false_iff.1 hx), List.mem_cons] at h
      rcases h with rfl | h
      · exact List.forall_mem_cons.2 ⟨hx, ih List.mem_cons_self⟩
      · exact ih (List.mem_cons_of_mem _ h)

end FollowClient.Text
