import Free4Chat.Data.KeyedMap

/-!
# Maps with a Separate List of Their Keys

A map whose keys are also held in a list, in the order in which they were added. Programs keep the
two apart: every operation has to change both, and the bound is read off the list.

* `KeyedMap.ListedBy`: the list holds exactly the keys of the map, each of them once.
* `KeyedMap.ListedBy.set_append`, `KeyedMap.ListedBy.set_of_mem` and
  `KeyedMap.ListedBy.erase_filter`: a key is added, stored again, and removed.
* `KeyedMap.evictOldest`: the oldest keys are removed until few enough are left.
-/

universe u v

namespace KeyedMap

variable {K : Type v} {V : Type u} [Keyed V K] [DecidableEq K]

/-- A list holds exactly the keys of a map, each of them once. -/
structure ListedBy (m : KeyedMap V) (order : List K) : Prop where
  mem_iff : ∀ k, k ∈ m.keys ↔ k ∈ order
  nodup : order.Nodup

namespace ListedBy

variable {m : KeyedMap V} {order : List K} {v : V} {k : K}

omit [DecidableEq K] in
lemma empty : (KeyedMap.empty : KeyedMap V).ListedBy [] where
  mem_iff _ := Iff.rfl
  nodup := List.nodup_nil

section

variable (h : m.ListedBy order)
include h

lemma mem_iff_isSome : k ∈ order ↔ (m.get? k).isSome = true := by
  rw [← h.mem_iff, mem_keys_iff]

lemma get?_eq_none (hk : k ∉ order) : m.get? k = none := by
  refine get?_eq_none_of_notMem fun hmem => hk ?_
  exact (h.mem_iff k).mp hmem

lemma mem_of_get? (hv : m.get? k = some v) : k ∈ order := by
  rw [h.mem_iff_isSome, hv]
  rfl

lemma set_append (hv : Keyed.key v ∉ order) : (m.set v).ListedBy (order ++ [Keyed.key v]) where
  mem_iff k := by rw [mem_keys_set, List.mem_append, List.mem_singleton, h.mem_iff, or_comm]
  nodup := by
    rw [List.nodup_append]
    refine ⟨h.nodup, List.nodup_singleton _, fun a ha b hb hab => ?_⟩
    rw [List.mem_singleton.mp hb] at hab
    exact hv (hab ▸ ha)

lemma erase_filter : (m.erase k).ListedBy (order.filter (· ≠ k)) where
  mem_iff l := by rw [mem_keys_erase, List.mem_filter, decide_eq_true_iff, h.mem_iff]
  nodup := h.nodup.filter _

end

lemma erase_head (h : m.ListedBy (k :: order)) : (m.erase k).ListedBy order := by
  obtain ⟨hnot, -⟩ := List.nodup_cons.mp h.nodup
  have hkept := h.erase_filter (k := k)
  rw [List.filter_cons_of_neg (by simp), List.filter_eq_self.mpr] at hkept
  · exact hkept
  · -- The key is listed once, so it is not in the rest of the list.
    intro l hl
    rw [decide_eq_true_iff]
    rintro rfl
    exact hnot hl

lemma modify (h : m.ListedBy order) {f : V → V} (hf : ∀ v, Keyed.key (f v) = Keyed.key v) :
    (m.modify k f hf).ListedBy order where
  mem_iff l := by rw [keys_modify, h.mem_iff]
  nodup := h.nodup

end ListedBy

/-- Remove the oldest keys from a map and its list until few enough are left. -/
def evictOldest (bound : ℕ) : KeyedMap V → List K → KeyedMap V × List K
  | m, [] => (m, [])
  | m, k :: order =>
    if bound < (k :: order).length then evictOldest bound (m.erase k) order else (m, k :: order)

section Evict

variable {bound : ℕ} {m : KeyedMap V} {order : List K} {k : K}

lemma length_evictOldest_le : (evictOldest bound m order).2.length ≤ bound := by
  induction order generalizing m with
  | nil => exact Nat.zero_le _
  | cons k order ih =>
    rw [evictOldest]
    split
    · exact ih
    next h => exact Nat.le_of_not_lt h

lemma evictOldest_suffix : (evictOldest bound m order).2 <:+ order := by
  induction order generalizing m with
  | nil => exact List.suffix_rfl
  | cons k order ih =>
    rw [evictOldest]
    split
    · exact ih.trans (List.suffix_cons _ _)
    · exact List.suffix_rfl

lemma ListedBy.evictOldest (h : m.ListedBy order) :
    (evictOldest bound m order).1.ListedBy (evictOldest bound m order).2 := by
  induction order generalizing m with
  | nil => exact h
  | cons k order ih =>
    rw [KeyedMap.evictOldest]
    split
    · exact ih h.erase_head
    · exact h

lemma get?_evictOldest (h : m.ListedBy order) (hk : k ∈ (evictOldest bound m order).2) :
    (evictOldest bound m order).1.get? k = m.get? k := by
  induction order generalizing m with
  | nil => rfl
  | cons l order ih =>
    rw [evictOldest] at hk ⊢
    split at hk
    next hbound =>
      rw [if_pos hbound]
      have hne : l ≠ k := by
        rintro rfl
        exact (List.nodup_cons.mp h.nodup).1 (evictOldest_suffix.subset hk)
      rw [ih h.erase_head hk, get?_erase, if_neg hne]
    next hbound => rw [if_neg hbound]

end Evict

end KeyedMap
