import Mathlib.Data.List.DropRight

/-!
# Trimmed Lists and Lines

Lists without the blank elements at both ends, and lists that are split into lines at a blank
separator.

* `List.trim`: a list without the blanks at its ends.
* `List.trim_append_word`: a word that is not blank at its ends is kept where a list ends with it.
* `List.exists_splitOn_trim`: if only blank lines are behind a line, that line is the last one of
  the trimmed text.
-/

universe u

namespace List

variable {α : Type u} (p : α → Bool)

/-- A list without the elements at its ends that are blank. -/
def trim (l : List α) : List α := (l.dropWhile p).rdropWhile p

variable {p} {l w : List α}

lemma trim_eq_nil_iff : l.trim p = [] ↔ ∀ a ∈ l, p a = true := by
  rw [trim, rdropWhile_eq_nil_iff]
  constructor
  · intro h a ha
    by_contra hnot
    -- The first element that is not blank would be left.
    have hne : l.dropWhile p ≠ [] := fun hnil => hnot (dropWhile_eq_nil_iff.mp hnil a ha)
    have hhead := head_dropWhile_not p hne
    rw [h _ (head_mem hne)] at hhead
    cases hhead
  · exact fun h a ha => h a ((dropWhile_suffix p).subset ha)

lemma trim_append_blank (h : ∀ a ∈ w, p a = true) : (l ++ w).trim p = l.trim p := by
  have hrdrop : ∀ k : List α, (k ++ w).rdropWhile p = k.rdropWhile p := by
    intro k
    rw [rdropWhile, rdropWhile, reverse_append,
      dropWhile_append_of_pos fun a ha => h a (mem_reverse.mp ha)]
  rw [trim, trim, dropWhile_append]
  split
  next hnil =>
    have hdrop : l.dropWhile p = [] := isEmpty_iff.mp hnil
    rw [hdrop, dropWhile_eq_nil_iff.mpr h]
  next => exact hrdrop _

lemma trim_append_word (hne : w ≠ []) (hhead : p (w.head hne) = false)
    (hlast : p (w.getLast hne) = false) : (l ++ w).trim p = l.dropWhile p ++ w := by
  have hword : w.dropWhile p = w := by
    rw [dropWhile_eq_self_iff]
    intro hpos
    rw [← head_eq_getElem_zero hne, hhead]
    exact Bool.false_ne_true
  have hdrop : (l ++ w).dropWhile p = l.dropWhile p ++ w := by
    rw [dropWhile_append, hword]
    split
    next hnil => rw [isEmpty_iff.mp hnil, nil_append]
    next => rfl
  rw [trim, hdrop, rdropWhile_eq_self_iff]
  intro hl
  rw [getLast_append_of_ne_nil _ hne, hlast]
  exact Bool.false_ne_true

lemma head_trim (h : l.trim p ≠ []) : p ((l.trim p).head h) = false := by
  have hinit : l.trim p <+: l.dropWhile p := rdropWhile_prefix p _
  have hne : l.dropWhile p ≠ [] := fun hnil => h (prefix_nil.mp (hnil ▸ hinit))
  rw [hinit.head h]
  exact head_dropWhile_not p hne

lemma getLast_trim (h : l.trim p ≠ []) : p ((l.trim p).getLast h) = false :=
  Bool.eq_false_iff.mpr (rdropWhile_last_not p _ h)

lemma trim_trim (l : List α) : (l.trim p).trim p = l.trim p := by
  by_cases h : l.trim p = []
  · rw [h]
    rfl
  · exact trim_append_word (l := []) h (head_trim h) (getLast_trim h)

/-! ### Lines -/

variable [BEq α] [LawfulBEq α] {sep : α} {lines front blanks : List (List α)}

omit [BEq α] [LawfulBEq α] in
lemma intercalate_append (hfront : front ≠ []) (hlines : lines ≠ []) :
    [sep].intercalate (front ++ lines) =
      [sep].intercalate front ++ sep :: [sep].intercalate lines := by
  induction front with
  | nil => exact absurd rfl hfront
  | cons first front ih =>
    cases front with
    | nil =>
      rw [singleton_append, intercalate_cons_of_ne_nil hlines, intercalate_singleton]
      simp
    | cons second front =>
      rw [cons_append, intercalate_cons_of_ne_nil (by simp), ih (cons_ne_nil _ _),
        intercalate_cons_of_ne_nil (cons_ne_nil _ _)]
      simp

omit [BEq α] [LawfulBEq α] in
lemma blank_intercalate (hsep : p sep = true) (h : ∀ line ∈ lines, ∀ a ∈ line, p a = true) :
    ∀ a ∈ [sep].intercalate lines, p a = true := by
  induction lines with
  | nil =>
    intro a ha
    cases ha
  | cons line lines ih =>
    have hrest := ih fun other hmem => h other (mem_cons_of_mem _ hmem)
    intro a ha
    by_cases hlines : lines = []
    · rw [hlines, intercalate_singleton] at ha
      exact h line mem_cons_self a ha
    · rw [intercalate_cons_of_ne_nil hlines, mem_append, mem_append, mem_singleton] at ha
      rcases ha with (hline | rfl) | hmem
      · exact h line mem_cons_self a hline
      · exact hsep
      · exact hrest a hmem

lemma exists_splitOn_trim (hsep : p sep = true) (hne : w ≠ []) (hhead : p (w.head hne) = false)
    (hlast : p (w.getLast hne) = false) (hmem : sep ∉ w)
    (hblanks : ∀ line ∈ blanks, ∀ a ∈ line, p a = true) :
    ∃ front', (([sep].intercalate (front ++ w :: blanks)).trim p).splitOn sep = front' ++ [w] := by
  -- What is behind the line is blank.
  have hbehind : ([sep].intercalate (front ++ w :: blanks)).trim p =
      ([sep].intercalate (front ++ [w])).trim p := by
    by_cases hnil : blanks = []
    · rw [hnil]
    · have hsplit : front ++ w :: blanks = (front ++ [w]) ++ blanks := by simp
      rw [hsplit, intercalate_append (by simp) hnil]
      refine trim_append_blank fun a ha => ?_
      rcases mem_cons.mp ha with rfl | ha
      · exact hsep
      · exact blank_intercalate hsep hblanks a ha
  rw [hbehind]
  by_cases hfront : front = []
  · refine ⟨[], ?_⟩
    rw [hfront, nil_append, intercalate_singleton]
    have htrim := trim_append_word (l := []) hne hhead hlast
    rw [nil_append, dropWhile_nil, nil_append] at htrim
    rw [htrim, splitOn_eq_singleton hmem]
  · rw [intercalate_append hfront (cons_ne_nil w []), intercalate_singleton, append_cons,
      trim_append_word hne hhead hlast, dropWhile_append]
    split
    next =>
      refine ⟨[], ?_⟩
      rw [dropWhile_cons_of_pos hsep, dropWhile_nil, nil_append, splitOn_eq_singleton hmem,
        nil_append]
    next =>
      rw [append_assoc, singleton_append]
      refine ⟨splitOn sep (([sep].intercalate front).dropWhile p), ?_⟩
      rw [splitOn_append_cons_self, splitOn_eq_singleton hmem]

end List
