import Mathlib.Data.List.Basic
import Mathlib.Order.Lattice

/-!
# Chains of Half-Open Intervals

Intervals `(after p, p]` of a linear order, each named by its end, that follow one another from a
start without an overlap. A queue whose elements each cover what came since the element before is
such a chain, also after some of its elements were taken out.

* `IntervalChain`: the intervals of a list of ends form a chain.
* `IntervalChain.append_singleton`, `IntervalChain.of_append` and `IntervalChain.sublist`: a chain
  grows behind, splits, and loses elements.
* `IntervalChain.start_le` and `IntervalChain.le_end`: a chain lies between its start and its end.
* `IntervalChain.disjoint`: two intervals of a chain have no point in common.
* `IntervalsFill`: a chain leaves no gap between its start and its end.
-/

variable {α : Type*} [LinearOrder α]

/-- The intervals that end at the elements of a list follow one another from a start. -/
def IntervalChain (after : α → α) : α → List α → Prop
  | _, [] => True
  | start, p :: l => start ≤ after p ∧ after p < p ∧ IntervalChain after p l

/-- Everything between a start and the last element of a list lies in one of its intervals. -/
def IntervalsFill (after : α → α) (start : α) (l : List α) : Prop :=
  ∀ n, start < n → n ≤ l.getLastD start → ∃ p ∈ l, after p < n ∧ n ≤ p

variable {after after' : α → α} {start p q n : α} {l l' : List α}

namespace IntervalChain

lemma congr (h : IntervalChain after start l) (hsame : ∀ p ∈ l, after' p = after p) :
    IntervalChain after' start l := by
  induction l generalizing start with
  | nil => trivial
  | cons p l ih =>
    obtain ⟨hstart, hlt, hrest⟩ := h
    have hfirst := hsame p List.mem_cons_self
    refine ⟨hstart.trans_eq hfirst.symm, hfirst.trans_lt hlt, ih hrest fun q hmem => ?_⟩
    exact hsame q (List.mem_cons_of_mem _ hmem)

lemma mono (h : IntervalChain after start l) (hle : q ≤ start) : IntervalChain after q l := by
  cases l with
  | nil => trivial
  | cons p l => exact ⟨hle.trans h.1, h.2⟩

lemma of_append (h : IntervalChain after start (l ++ l')) :
    IntervalChain after start l ∧ IntervalChain after (l.getLastD start) l' := by
  induction l generalizing start with
  | nil => exact ⟨trivial, h⟩
  | cons p l ih =>
    obtain ⟨hstart, hlt, hrest⟩ := h
    obtain ⟨hfirst, hsecond⟩ := ih hrest
    rw [List.getLastD_cons]
    exact ⟨⟨hstart, hlt, hfirst⟩, hsecond⟩

section

variable (h : IntervalChain after start l)
include h

lemma append_singleton (hafter : l.getLastD start ≤ after p)
    (hlt : after p < p) : IntervalChain after start (l ++ [p]) := by
  induction l generalizing start with
  | nil => exact ⟨hafter, hlt, trivial⟩
  | cons q l ih =>
    obtain ⟨hstart, hinner, hrest⟩ := h
    rw [List.getLastD_cons] at hafter
    exact ⟨hstart, hinner, ih hrest hafter⟩

lemma sublist (hsub : List.Sublist l' l) : IntervalChain after start l' := by
  induction hsub generalizing start with
  | slnil => trivial
  | cons p _ ih =>
    obtain ⟨hstart, hlt, hrest⟩ := h
    exact ih (hrest.mono (hstart.trans hlt.le))
  | cons_cons p _ ih => exact ⟨h.1, h.2.1, ih h.2.2⟩

lemma start_le (hmem : p ∈ l) : start ≤ after p ∧ after p < p := by
  induction l generalizing start with
  | nil => exact absurd hmem List.not_mem_nil
  | cons q l ih =>
    obtain ⟨hstart, hlt, hrest⟩ := h
    rcases List.mem_cons.mp hmem with rfl | hmem
    · exact ⟨hstart, hlt⟩
    · obtain ⟨hle, hinner⟩ := ih hrest hmem
      exact ⟨(hstart.trans hlt.le).trans hle, hinner⟩

lemma start_le_end : start ≤ l.getLastD start := by
  induction l generalizing start with
  | nil => exact le_rfl
  | cons q l ih =>
    obtain ⟨hstart, hlt, hrest⟩ := h
    rw [List.getLastD_cons]
    exact (hstart.trans hlt.le).trans (ih hrest)

lemma le_end (hmem : p ∈ l) : p ≤ l.getLastD start := by
  induction l generalizing start with
  | nil => exact absurd hmem List.not_mem_nil
  | cons q l ih =>
    obtain ⟨-, -, hrest⟩ := h
    rw [List.getLastD_cons]
    rcases List.mem_cons.mp hmem with rfl | hmem
    · exact start_le_end hrest
    · exact ih hrest hmem

lemma disjoint (hp : p ∈ l) (hq : q ∈ l) (hne : p ≠ q) : p ≤ after q ∨ q ≤ after p := by
  induction l generalizing start with
  | nil => exact absurd hp List.not_mem_nil
  | cons r l ih =>
    obtain ⟨-, -, hrest⟩ := h
    rcases List.mem_cons.mp hp with hfirst | hp
    · rcases List.mem_cons.mp hq with hsecond | hq
      · exact absurd (hfirst.trans hsecond.symm) hne
      · rw [hfirst]
        exact Or.inl (start_le hrest hq).1
    · rcases List.mem_cons.mp hq with hsecond | hq
      · rw [hsecond]
        exact Or.inr (start_le hrest hp).1
      · exact ih hrest hp hq

end

end IntervalChain

namespace IntervalsFill

lemma nil : IntervalsFill after start [] := fun _ hstart hend => absurd hend hstart.not_ge

lemma congr (h : IntervalsFill after start l) (hsame : ∀ p ∈ l, after' p = after p) :
    IntervalsFill after' start l := by
  intro n hstart hend
  obtain ⟨p, hmem, hinside⟩ := h n hstart hend
  refine ⟨p, hmem, ?_, hinside.2⟩
  rw [hsame p hmem]
  exact hinside.1

lemma append_singleton (h : IntervalsFill after start l) (hafter : after p ≤ l.getLastD start) :
    IntervalsFill after start (l ++ [p]) := by
  intro n hstart hend
  rw [List.getLastD_concat] at hend
  rcases le_or_gt n (l.getLastD start) with hle | hgt
  · obtain ⟨q, hmem, hinside⟩ := h n hstart hle
    exact ⟨q, List.mem_append_left _ hmem, hinside⟩
  · exact ⟨p, List.mem_append_right _ List.mem_cons_self, hafter.trans_lt hgt, hend⟩

lemma of_append (h : IntervalsFill after start (l ++ l'))
    (hchain : IntervalChain after start (l ++ l')) :
    IntervalsFill after start l ∧ IntervalsFill after (l.getLastD start) l' := by
  obtain ⟨hfirst, hsecond⟩ := hchain.of_append
  have hlast : (l ++ l').getLastD start = l'.getLastD (l.getLastD start) := by
    cases l' with
    | nil => rw [List.append_nil, List.getLastD_nil]
    | cons p l' => simp [List.getLastD_eq_getLast?, List.getLast?_append, List.getLast?_cons]
  refine ⟨fun n hstart hend => ?_, fun n hstart hend => ?_⟩
  · obtain ⟨p, hmem, hafter, hle⟩ := h n hstart
      (hend.trans (hlast ▸ hsecond.start_le_end))
    refine ⟨p, (List.mem_append.mp hmem).resolve_right fun hbehind => ?_, hafter, hle⟩
    -- The intervals of the second part begin behind the first.
    exact absurd (hend.trans (hsecond.start_le hbehind).1) hafter.not_ge
  · obtain ⟨p, hmem, hafter, hle⟩ := h n (hfirst.start_le_end.trans_lt hstart)
      (hlast ▸ hend)
    refine ⟨p, (List.mem_append.mp hmem).resolve_left fun hbefore => ?_, hafter, hle⟩
    exact absurd (hle.trans (hfirst.le_end hbefore)) hstart.not_ge

end IntervalsFill
