import FollowClient.Relay
import Mathlib.Data.List.Basic

/-!
Texts, each once. The texts that are kept are those that were not seen before, and what has been seen
is what stood in front (`firstOccurrences_append`). So of a list the first occurrences are kept, in
their order, and a list behind it adds what it has of its own (`distinct_keeps_first_occurrences`).
-/

namespace FollowClient.Relay

open Text

/-! ### What has not been seen -/

section Seen

variable {seen seen' texts : List String} {t u : String}

theorem firstOccurrences_congr (same : ∀ t, t ∈ seen ↔ t ∈ seen') :
    firstOccurrences seen texts = firstOccurrences seen' texts := by
  induction texts generalizing seen seen' with
  | nil => rfl
  | cons t rest ih =>
    have more : ∀ u, u ∈ t :: seen ↔ u ∈ t :: seen' := fun u => by
      rw [List.mem_cons, List.mem_cons, same]
    simp only [firstOccurrences, same, ih same, ih more]

theorem firstOccurrences_eq (seen texts : List String) :
    firstOccurrences seen texts = (texts.filter (· ∉ seen)).eraseDups := by
  induction texts generalizing seen with
  | nil => rfl
  | cons t rest ih =>
    by_cases h : t ∈ seen
    · rw [firstOccurrences, if_pos h, ih, List.filter_cons_of_neg (by simpa using h)]
    · rw [firstOccurrences, if_neg h, ih, List.filter_cons_of_pos (by simpa using h),
        List.eraseDups_cons, List.filter_filter]
      congr 3
      funext x
      rw [Bool.eq_iff_iff]
      simp

theorem mem_firstOccurrences : t ∈ firstOccurrences seen texts ↔ t ∈ texts ∧ t ∉ seen := by
  rw [firstOccurrences_eq, List.mem_eraseDups, List.mem_filter, decide_eq_true_eq]

/-- The order of the texts is that of their first occurrences. -/
theorem pairwise_firstOccurrences (seen texts : List String) :
    (firstOccurrences seen texts).Pairwise fun t u => texts.idxOf t < texts.idxOf u := by
  induction texts generalizing seen with
  | nil => exact .nil
  | cons t rest ih =>
    -- what is kept of the rest is another text, and stands one place further on than there
    have later : ∀ seen', (t ∈ seen') → (firstOccurrences seen' rest).Pairwise
        fun u v => (t :: rest).idxOf u < (t :: rest).idxOf v := by
      intro seen' ht
      refine (ih seen').imp_of_mem fun {u v} hu hv before => ?_
      have other : ∀ w ∈ firstOccurrences seen' rest, t ≠ w := by
        rintro w hw rfl
        exact (mem_firstOccurrences.1 hw).2 ht
      rw [List.idxOf_cons_ne _ (other u hu), List.idxOf_cons_ne _ (other v hv)]
      omega
    by_cases h : t ∈ seen
    · rw [firstOccurrences, if_pos h]
      exact later seen h
    · rw [firstOccurrences, if_neg h]
      refine List.pairwise_cons.2 ⟨fun u hu => ?_, later _ List.mem_cons_self⟩
      have other : t ≠ u := by
        rintro rfl
        exact (mem_firstOccurrences.1 hu).2 List.mem_cons_self
      rw [List.idxOf_cons_self, List.idxOf_cons_ne _ other]
      omega

/-- What stands in front has been seen. -/
theorem firstOccurrences_append (seen xs ys : List String) :
    firstOccurrences seen (xs ++ ys) =
      firstOccurrences seen xs ++ firstOccurrences (xs ++ seen) ys := by
  induction xs generalizing seen with
  | nil => rfl
  | cons t rest ih =>
    by_cases h : t ∈ seen
    · have same : ∀ u, u ∈ rest ++ seen ↔ u ∈ t :: rest ++ seen := by grind
      rw [List.cons_append, firstOccurrences, if_pos h, ih, firstOccurrences_congr same,
        firstOccurrences, if_pos h]
    · have same : ∀ u, u ∈ rest ++ t :: seen ↔ u ∈ t :: rest ++ seen := by grind
      rw [List.cons_append, firstOccurrences, if_neg h, ih, firstOccurrences_congr same,
        firstOccurrences, if_neg h]
      rfl

/-- Having seen more takes away what was seen. -/
theorem firstOccurrences_of_more (more seen texts : List String) :
    firstOccurrences (more ++ seen) texts = (firstOccurrences seen texts).filter (· ∉ more) := by
  induction texts generalizing seen with
  | nil => rfl
  | cons t rest ih =>
    by_cases h : t ∈ seen
    · rw [firstOccurrences, if_pos (List.mem_append_right _ h), firstOccurrences, if_pos h, ih]
    · rw [firstOccurrences, firstOccurrences, if_neg h]
      by_cases hm : t ∈ more
      · have same : ∀ u, u ∈ more ++ seen ↔ u ∈ more ++ t :: seen := by grind
        rw [if_pos (List.mem_append_left _ hm), List.filter_cons_of_neg (by simpa using hm), ← ih,
          firstOccurrences_congr same]
      · have new : t ∉ more ++ seen := by simp [hm, h]
        have same : ∀ u, u ∈ t :: (more ++ seen) ↔ u ∈ more ++ t :: seen := by grind
        rw [if_neg new, List.filter_cons_of_pos (by simpa using hm), ← ih,
          firstOccurrences_congr same]

theorem firstOccurrences_of_nodup (once : texts.Nodup) (new : ∀ t ∈ texts, t ∉ seen) :
    firstOccurrences seen texts = texts := by
  induction texts generalizing seen with
  | nil => rfl
  | cons t rest ih =>
    obtain ⟨first, once⟩ := List.nodup_cons.1 once
    obtain ⟨ht, new⟩ := List.forall_mem_cons.1 new
    have unseen : ∀ u ∈ rest, u ∉ t :: seen := by
      intro u hu
      rw [List.mem_cons, not_or]
      exact ⟨fun same => first (same ▸ hu), new u hu⟩
    rw [firstOccurrences, if_neg ht, ih once unseen]

/-- Members that do not count do not change the order of the others. -/
theorem idxOf_lt_of_filter {p : String → Bool} (ht : p t = true) (hu : p u = true)
    (before : (texts.filter p).idxOf t < (texts.filter p).idxOf u) : texts.idxOf t < texts.idxOf u := by
  induction texts with
  | nil => exact absurd before (Nat.lt_irrefl _)
  | cons x rest ih =>
    by_cases hx : p x = true
    · rw [List.filter_cons_of_pos hx] at before
      have other : x ≠ u := by
        rintro rfl
        rw [List.idxOf_cons_self] at before
        exact Nat.not_lt_zero _ before
      by_cases same : x = t
      · rw [same, List.idxOf_cons_self, List.idxOf_cons_ne _ (same ▸ other)]
        exact Nat.succ_pos _
      · rw [List.idxOf_cons_ne _ same, List.idxOf_cons_ne _ other] at before ⊢
        exact Nat.succ_lt_succ (ih (Nat.lt_of_succ_lt_succ before))
    · rw [List.filter_cons_of_neg hx] at before
      have away : ∀ v, p v = true → x ≠ v := by
        rintro v hv rfl
        exact hx hv
      rw [List.idxOf_cons_ne _ (away t ht), List.idxOf_cons_ne _ (away u hu)]
      exact Nat.succ_lt_succ (ih before)

end Seen

/-! ### Texts, each once -/

section Distinct

variable {xs ys : List String} {t : String}

theorem distinct_eq (texts : List String) :
    distinct texts = ((texts.filter (!isBlankText ·)).map trim).eraseDups := by
  have trimmed : ((fun t : String => !t.isEmpty) ∘ trim) = (!isBlankText ·) := by
    funext t
    exact congrArg (!·) (isEmpty_trim t)
  rw [distinct, firstOccurrences_eq, List.filter_map, trimmed,
    List.filter_eq_self.2 fun _ _ => by simp]

theorem distinct_map_trim (texts : List String) : distinct (texts.map trim) = distinct texts := by
  simp only [distinct, List.map_map, Function.comp_def, trim_trim]

theorem mem_distinct_iff : t ∈ distinct xs ↔ t ≠ "" ∧ ∃ x ∈ xs, trim x = t := by
  rw [distinct, mem_firstOccurrences, List.mem_filter, List.mem_map]
  simp [and_comm]

theorem trimmed_of_mem_distinct (h : t ∈ distinct xs) : isBlankText t = false ∧ trim t = t := by
  obtain ⟨visible, x, -, rfl⟩ := mem_distinct_iff.1 h
  rw [isBlankText_trim, ← isEmpty_trim, trim_trim]
  exact ⟨by simpa using visible, rfl⟩

theorem pairwise_distinct (xs : List String) :
    (distinct xs).Pairwise fun t u => (xs.map trim).idxOf t < (xs.map trim).idxOf u := by
  refine (pairwise_firstOccurrences [] _).imp_of_mem fun {t u} ht hu before => ?_
  have counts : ∀ t ∈ distinct xs, (!t.isEmpty) = true := fun t ht => by
    simpa using (mem_distinct_iff.1 ht).1
  exact idxOf_lt_of_filter (counts t ht) (counts u hu) before

theorem nodup_distinct (xs : List String) : (distinct xs).Nodup := by
  refine (pairwise_distinct xs).imp fun {t u} before => ?_
  rintro rfl
  exact Nat.lt_irrefl _ before

theorem distinct_distinct (xs : List String) : distinct (distinct xs) = distinct xs := by
  have trimmed : (distinct xs).map trim = distinct xs := by
    rw [List.map_congr_left fun t ht => (trimmed_of_mem_distinct ht).2, List.map_id']
  have visible : (distinct xs).filter (!·.isEmpty) = distinct xs := by
    rw [List.filter_eq_self]
    intro t ht
    simpa using (mem_distinct_iff.1 ht).1
  calc distinct (distinct xs)
      = firstOccurrences [] (((distinct xs).map trim).filter (!·.isEmpty)) := rfl
    _ = firstOccurrences [] (distinct xs) := by rw [trimmed, visible]
    _ = distinct xs := firstOccurrences_of_nodup (nodup_distinct xs) fun _ _ => List.not_mem_nil

theorem distinct_append (xs ys : List String) :
    distinct (xs ++ ys) = distinct xs ++ (distinct ys).filter (· ∉ distinct xs) := by
  have seen : ∀ t, t ∈ distinct xs ↔ t ∈ (xs.map trim).filter (!·.isEmpty) := fun t => by
    rw [distinct, mem_firstOccurrences, and_iff_left List.not_mem_nil]
  rw [distinct, List.map_append, List.filter_append, firstOccurrences_append,
    firstOccurrences_of_more, ← distinct, ← distinct]
  simp only [seen]

end Distinct

/-- **Each text once.** Of a list the texts that are not blank are kept, trimmed, each of them once
and in the order in which they first occur. To keep them again changes nothing, and a list behind it
adds, in its own order, what the first one has not. -/
theorem distinct_keeps_first_occurrences (xs ys : List String) :
    (distinct xs).Nodup ∧
    (∀ t ∈ distinct xs, isBlankText t = false ∧ trim t = t) ∧
    (∀ t, t ∈ distinct xs ↔ t ≠ "" ∧ ∃ x ∈ xs, trim x = t) ∧
    ((distinct xs).Pairwise fun t u => (xs.map trim).idxOf t < (xs.map trim).idxOf u) ∧
    distinct (distinct xs) = distinct xs ∧
    distinct (xs ++ ys) = distinct xs ++ (distinct ys).filter (· ∉ distinct xs) :=
  ⟨nodup_distinct xs, fun _ => trimmed_of_mem_distinct, fun _ => mem_distinct_iff,
    pairwise_distinct xs, distinct_distinct xs, distinct_append xs ys⟩

/-- Blanks do not make two texts different. -/
theorem padded_name_kept_once :
    "bob" ∈ distinct ["ann", "", " bob ", "ann", "bob"] ∧
    isBlankText "bob" = false ∧ trim "bob" = "bob" ∧
    distinct (["ann", "", " bob ", "ann", "bob"] ++ ["cy", "bob "]) = ["ann", "bob", "cy"] := by
  obtain ⟨-, kept, -, -, -, both⟩ :=
    distinct_keeps_first_occurrences ["ann", "", " bob ", "ann", "bob"] ["cy", "bob "]
  have mem : "bob" ∈ distinct ["ann", "", " bob ", "ann", "bob"] := by decide
  obtain ⟨visible, trimmed⟩ := kept _ mem
  exact ⟨mem, visible, trimmed, both.trans (by decide)⟩

end FollowClient.Relay
