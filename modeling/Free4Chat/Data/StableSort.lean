import Mathlib.Data.List.Sort

/-!
# Stable Sorting

What a stable sort makes of a list is determined by the order of the keys and by the order in which
the elements of each key come.

* `List.filter_insertionSort`: elements that are in order already stay in their order.
* `List.filter_key_eq_of_perm`: elements with distinct keys have no order of their own.
* `List.eq_of_filter_key_eq`: lists that are sorted by a key are equal where the elements of each key
  are.
-/

namespace List

variable {α κ : Type*}

lemma filter_insertionSort {r : α → α → Prop} [DecidableRel r] {p : α → Bool} {l : List α}
    (h : (l.filter p).Pairwise r) : (l.insertionSort r).filter p = l.filter p := by
  have hsub : l.filter p <+ (l.insertionSort r).filter p := by
    have hfilter := (sublist_insertionSort h filter_sublist).filter p
    simpa only [filter_filter, Bool.and_self] using hfilter
  have hlength := ((perm_insertionSort r l).filter p).length_eq
  exact (hsub.eq_of_length hlength.symm).symm

variable [LinearOrder κ] {key : α → κ} {l l' : List α}

omit [LinearOrder κ] in
lemma filter_key_eq_of_perm [DecidableEq κ] (h : l.Perm l') (hnodup : (l.map key).Nodup) (k : κ) :
    l.filter (fun a => key a = k) = l'.filter fun a => key a = k := by
  have hperm := h.filter fun a => decide (key a = k)
  -- At most one element has the key.
  have hdistinct := hnodup.sublist ((filter_sublist (p := fun a => decide (key a = k))).map key)
  have hkeys : (l.filter fun a => key a = k).map key =
      replicate ((l.filter fun a => key a = k).map key).length k := by
    refine eq_replicate_of_mem fun b hb => ?_
    obtain ⟨a, ha, rfl⟩ := mem_map.mp hb
    simpa using (mem_filter.mp ha).2
  rw [hkeys, nodup_replicate, length_map] at hdistinct
  cases hl : l.filter fun a => decide (key a = k) with
  | nil =>
    rw [hl] at hperm
    exact (nil_perm.mp hperm).symm
  | cons a rest =>
    rw [hl, length_cons] at hdistinct
    have hrest : rest = [] := eq_nil_of_length_eq_zero (by omega)
    rw [hl, hrest] at hperm
    rw [hrest]
    exact singleton_perm.mp hperm

lemma mem_of_filter_key_eq
    (hkey : ∀ k, l.filter (fun a => key a = k) = l'.filter fun a => key a = k) {a : α}
    (ha : a ∈ l) : a ∈ l' := by
  have hmem : a ∈ l.filter fun b => key b = key a := mem_filter.mpr ⟨ha, decide_eq_true rfl⟩
  rw [hkey] at hmem
  exact (mem_filter.mp hmem).1

lemma key_head_le {l : List α} {a b : α} (h : (a :: l).Pairwise fun a b => key a ≤ key b)
    (hb : b ∈ a :: l) : key a ≤ key b := by
  rcases mem_cons.mp hb with rfl | hb
  · exact le_rfl
  · exact rel_of_pairwise_cons h hb

lemma eq_of_filter_key_eq (h : l.Pairwise fun a b => key a ≤ key b)
    (h' : l'.Pairwise fun a b => key a ≤ key b)
    (hkey : ∀ k, l.filter (fun a => key a = k) = l'.filter fun a => key a = k) : l = l' := by
  induction l generalizing l' with
  | nil =>
    refine (eq_nil_iff_forall_not_mem.mpr fun b hb => ?_).symm
    exact not_mem_nil (mem_of_filter_key_eq (fun k => (hkey k).symm) hb)
  | cons a l ih =>
    cases l' with
    | nil => exact absurd (mem_of_filter_key_eq hkey mem_cons_self) not_mem_nil
    | cons b l' =>
      -- Neither of the first elements is behind the other, so that they have the same key.
      have hab : key a = key b := le_antisymm
        (key_head_le h (mem_of_filter_key_eq (fun k => (hkey k).symm) mem_cons_self))
        (key_head_le h' (mem_of_filter_key_eq hkey mem_cons_self))
      have hhead := hkey (key a)
      rw [filter_cons_of_pos (by simp), filter_cons_of_pos (by simp [hab])] at hhead
      obtain ⟨rfl, htail⟩ := cons.inj hhead
      rw [ih h.of_cons h'.of_cons fun k => ?_]
      by_cases hk : key a = k
      · rw [← hk, htail]
      · have hrest := hkey k
        rwa [filter_cons_of_neg (by simp [hk]), filter_cons_of_neg (by simp [hk])] at hrest

end List
