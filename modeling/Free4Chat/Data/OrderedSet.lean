import Mathlib.Data.List.Nodup
import Mathlib.Data.List.Induction

/-!
# Insertion-Ordered Sets

Finite sets that remember the order in which their elements were first added. Adding an element
that is already present changes neither the set nor the order.

* `OrderedSet`: lists without repetition.
* `OrderedSet.add` and `OrderedSet.addAll`: add one element, or a list of elements in order.
* `OrderedSet.mem_addAll`: the elements after a list has been added.
* `OrderedSet.addAll_eq_self_iff`: adding a list changes nothing exactly when all of it was there.
* `List.distinct`: the elements of a list without repetition.
-/

universe u

/-- Finite sets in insertion order. -/
structure OrderedSet (α : Type u) where
  -- The elements, oldest first.
  elems : List α
  -- No element is listed twice.
  nodup : elems.Nodup

namespace OrderedSet

variable {α : Type u}

@[ext]
lemma ext {s t : OrderedSet α} (h : s.elems = t.elems) : s = t := by
  cases s
  cases t
  simp_all

instance : Membership α (OrderedSet α) where
  mem s a := a ∈ s.elems

variable {s : OrderedSet α}

lemma mem_def {a : α} : a ∈ s ↔ a ∈ s.elems := Iff.rfl

instance [DecidableEq α] (a : α) (s : OrderedSet α) : Decidable (a ∈ s) :=
  inferInstanceAs (Decidable (a ∈ s.elems))

instance [DecidableEq α] : DecidableEq (OrderedSet α) := fun s t =>
  decidable_of_iff (s.elems = t.elems) ⟨ext, fun h => h ▸ rfl⟩

/-- The set without elements. -/
def empty : OrderedSet α := ⟨[], List.nodup_nil⟩

instance : Inhabited (OrderedSet α) := ⟨empty⟩

@[simp]
lemma notMem_empty (a : α) : a ∉ (empty : OrderedSet α) := List.not_mem_nil

variable [DecidableEq α]

/-- Add an element after the ones already present. -/
def add (s : OrderedSet α) (a : α) : OrderedSet α :=
  if h : a ∈ s.elems then s
  else ⟨s.elems ++ [a], List.Nodup.append s.nodup (List.nodup_singleton a) (by simpa using h)⟩

@[simp]
lemma mem_add {a b : α} : b ∈ s.add a ↔ b ∈ s ∨ b = a := by
  unfold add
  split
  · rename_i h
    constructor
    · exact Or.inl
    · rintro (hb | rfl)
      · exact hb
      · exact h
  · simp [mem_def]

lemma add_of_mem {a : α} (h : a ∈ s) : s.add a = s := by
  rw [mem_def] at h
  simp [add, h]

/-- Add the elements of a list in order. -/
def addAll (s : OrderedSet α) (l : List α) : OrderedSet α := l.foldl add s

@[simp]
lemma addAll_nil (s : OrderedSet α) : s.addAll [] = s := rfl

@[simp]
lemma addAll_cons (s : OrderedSet α) (a : α) (l : List α) :
    s.addAll (a :: l) = (s.add a).addAll l := rfl

lemma addAll_concat (s : OrderedSet α) (l : List α) (a : α) :
    s.addAll (l ++ [a]) = (s.addAll l).add a := by
  simp [addAll, List.foldl_append]

@[simp]
lemma mem_addAll {l : List α} {b : α} : b ∈ s.addAll l ↔ b ∈ s ∨ b ∈ l := by
  induction l generalizing s with
  | nil => simp
  | cons a l ih =>
    rw [addAll_cons, ih, mem_add, List.mem_cons]
    tauto

lemma addAll_eq_self_iff {l : List α} : s.addAll l = s ↔ ∀ a ∈ l, a ∈ s := by
  constructor
  · intro h a ha
    rw [← h]
    exact mem_addAll.mpr (Or.inr ha)
  · intro h
    induction l with
    | nil => rfl
    | cons a l ih =>
      rw [addAll_cons, add_of_mem (h a List.mem_cons_self)]
      exact ih fun b hb => h b (List.mem_cons_of_mem _ hb)

end OrderedSet

namespace List

variable {α : Type u} [DecidableEq α]

/-- The elements of a list without repetition, in the order of their first occurrence. -/
def distinct (l : List α) : List α := (OrderedSet.empty.addAll l).elems

variable {l : List α}

@[simp]
lemma mem_distinct {a : α} : a ∈ l.distinct ↔ a ∈ l := by
  have h : a ∈ OrderedSet.empty.addAll l ↔ a ∈ OrderedSet.empty ∨ a ∈ l := OrderedSet.mem_addAll
  rw [OrderedSet.mem_def] at h
  simpa [distinct] using h

lemma distinct_concat (l : List α) (a : α) :
    (l ++ [a]).distinct = if a ∈ l then l.distinct else l.distinct ++ [a] := by
  have hmem : a ∈ (OrderedSet.empty.addAll l).elems ↔ a ∈ l := mem_distinct
  by_cases ha : a ∈ l
  · simp [distinct, OrderedSet.addAll_concat, OrderedSet.add, hmem, ha]
  · simp [distinct, OrderedSet.addAll_concat, OrderedSet.add, hmem, ha]

lemma nodup_distinct (l : List α) : l.distinct.Nodup := (OrderedSet.empty.addAll l).nodup

lemma distinct_ne_nil (h : l ≠ []) : l.distinct ≠ [] := by
  obtain ⟨a, ha⟩ := exists_mem_of_ne_nil l h
  exact ne_nil_of_mem (mem_distinct.mpr ha)

lemma distinct_of_nodup (h : l.Nodup) : l.distinct = l := by
  induction l using reverseRecOn with
  | nil => rfl
  | append_singleton l a ih =>
    have hparts := nodup_append.mp h
    have ha : a ∉ l := fun hmem => hparts.2.2 a hmem a (mem_singleton.mpr rfl) rfl
    rw [distinct_concat, if_neg ha, ih hparts.1]

lemma distinct_distinct_append (l m : List α) : (l.distinct ++ m).distinct = (l ++ m).distinct := by
  induction m using reverseRecOn with
  | nil => rw [append_nil, append_nil, distinct_of_nodup l.nodup_distinct]
  | append_singleton m a ih =>
    have hmem : a ∈ l.distinct ++ m ↔ a ∈ l ++ m := by
      rw [mem_append, mem_append, mem_distinct]
    rw [← append_assoc, ← append_assoc, distinct_concat, distinct_concat, ih]
    simp only [hmem]

lemma filter_distinct (p : α → Bool) (l : List α) : l.distinct.filter p = (l.filter p).distinct := by
  induction l using reverseRecOn with
  | nil => rfl
  | append_singleton l a ih =>
    rw [distinct_concat, filter_append]
    cases hp : p a with
    | false =>
      have hnone : filter p [a] = [] := by rw [filter_cons, hp, filter_nil]; rfl
      rw [hnone, append_nil, ← ih]
      split
      next => rfl
      next => rw [filter_append, hnone, append_nil]
    | true =>
      have hsome : filter p [a] = [a] := by rw [filter_cons, hp, filter_nil]; rfl
      have hmem : a ∈ l.filter p ↔ a ∈ l := by
        rw [mem_filter]
        exact and_iff_left hp
      rw [hsome, distinct_concat, ← ih]
      simp only [hmem]
      split
      next => rfl
      next => rw [filter_append, hsome]

lemma distinct_prefix_append (l m : List α) : l.distinct <+: (l ++ m).distinct := by
  induction m using reverseRecOn with
  | nil => simp only [append_nil, prefix_rfl]
  | append_singleton m a ih =>
    rw [← append_assoc, distinct_concat]
    split
    next => exact ih
    next => exact ih.trans (prefix_append _ [a])

lemma length_distinct_le (l : List α) : l.distinct.length ≤ l.length :=
  l.nodup_distinct.length_le_of_subset fun _ => mem_distinct.mp

end List
