import Mathlib.Data.List.Infix

/-!
# Longest Suffixes

Lists that lose items at the front until they fit.

* `List.IsLongestSuffix`: no longer suffix of a list fits.
* `List.longestSuffix`: drops the first item as long as the list does not fit.
* `List.isLongestSuffix_longestSuffix`: what is left is the longest suffix that fits.
* `List.longestSuffix_longestSuffix_append`: items may be dropped after each addition.
-/

namespace List

variable {α : Type*}

/-- A suffix of a list fits, and no longer suffix does. -/
structure IsLongestSuffix (fits : List α → Prop) (l s : List α) : Prop where
  suffix : s <:+ l
  fits_self : fits s
  longest : ∀ t, t <:+ l → fits t → t.length ≤ s.length

/-- Drops the first item as long as the list does not fit. -/
def longestSuffix (fits : List α → Prop) [DecidablePred fits] : List α → List α
  | [] => []
  | a :: l => if fits (a :: l) then a :: l else longestSuffix fits l

variable {fits : List α → Prop} [DecidablePred fits] {l s : List α}

lemma isLongestSuffix_longestSuffix (hnil : fits []) (l : List α) :
    IsLongestSuffix fits l (longestSuffix fits l) := by
  induction l with
  | nil => exact ⟨suffix_rfl, hnil, fun t ht _ => ht.length_le⟩
  | cons a l ih =>
    rw [longestSuffix]
    split
    next hfits => exact ⟨suffix_rfl, hfits, fun t ht _ => ht.length_le⟩
    next hfits =>
      refine ⟨ih.suffix.trans (suffix_cons a l), ih.fits_self, fun t ht hfitst => ?_⟩
      -- The whole list does not fit, so that a suffix that fits leaves out its first item.
      rcases suffix_cons_iff.mp ht with rfl | ht
      · exact absurd hfitst hfits
      · exact ih.longest t ht hfitst

lemma longestSuffix_longestSuffix_append (hbegin : ∀ s t : List α, fits (s ++ t) → fits s)
    (l m : List α) :
    (l.longestSuffix fits ++ m).longestSuffix fits = (l ++ m).longestSuffix fits := by
  induction l with
  | nil => rfl
  | cons a l ih =>
    rw [longestSuffix]
    split
    next hfits => rfl
    next hfits =>
      -- With more items at its end the list does not fit either.
      have hno : ¬fits (a :: (l ++ m)) := fun hyes => hfits (hbegin (a :: l) m hyes)
      rw [ih, cons_append, longestSuffix, if_neg hno]

omit [DecidablePred fits] in
lemma IsLongestSuffix.getLast? (h : IsLongestSuffix fits l s) {a : α}
    (hlast : l.getLast? = some a) (hfits : fits [a]) : s.getLast? = some a := by
  obtain ⟨t, rfl⟩ := h.suffix
  have hsuffix : [a] <:+ t ++ s := by
    obtain ⟨init, hinit⟩ := getLast?_eq_some_iff.mp hlast
    exact ⟨init, hinit.symm⟩
  have hlength := h.longest [a] hsuffix hfits
  have hne : s ≠ [] := by
    rintro rfl
    exact absurd hlength (Nat.not_succ_le_zero 0)
  rwa [getLast?_append_of_ne_nil _ hne] at hlast

end List
