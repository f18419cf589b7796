import Mathlib.Data.List.Basic
import Mathlib.Order.Lattice

/-!
# Maximal Runs of a Condition

Observations are made one after the other, and some of them meet a condition. A run is a stretch of
observations that meet it, and it is maximal when the one before does not. The run at the end is
still open; the others have ended.

* `List.IsRun`: the observations between two indices are a run with a maximal start.
* `List.EndedRun`: a maximal run that has ended.
* `List.RunsOf`: the run that is open and the runs that have ended, in order.
* `List.RunsOf.append_holds` and `List.RunsOf.append_fails`: one more observation.
-/

universe u

namespace List

variable {α : Type u} {P : α → Bool} {l : List α} {a : α} {i j : ℕ}

/-- The observations from one index up to another meet the condition, and the one before does
not. -/
structure IsRun (P : α → Bool) (l : List α) (i j : ℕ) : Prop where
  lt : i < j
  le_length : j ≤ l.length
  holds : ∀ k a, i ≤ k → k < j → l[k]? = some a → P a = true
  starts : ∀ k a, k + 1 = i → l[k]? = some a → P a = false

/-- A maximal run that has ended. -/
structure EndedRun (P : α → Bool) (l : List α) (i j : ℕ) : Prop where
  run : IsRun P l i j
  lt_length : j < l.length
  ends : ∀ a, l[j]? = some a → P a = false

/-- The run that is open, if there is one, and the runs that have ended. -/
structure RunsOf (P : α → Bool) (l : List α) (opened : Option ℕ) (ended : List (ℕ × ℕ)) : Prop where
  opened_iff : ∀ i, opened = some i ↔ IsRun P l i l.length
  mem_ended_iff : ∀ i j, (i, j) ∈ ended ↔ EndedRun P l i j
  -- The ended runs follow one another.
  ordered : ended.Pairwise fun p q => p.2 ≤ q.1
  -- Without an open run, the last observation fails the condition.
  idle : opened = none → ∀ a, l.getLast? = some a → P a = false

lemma getElem?_append_singleton_of_lt (hj : j < l.length) : (l ++ [a])[j]? = l[j]? :=
  getElem?_append_left hj

namespace IsRun

lemma append (h : IsRun P l i j) : IsRun P (l ++ [a]) i j where
  lt := h.lt
  le_length := h.le_length.trans (by rw [length_append]; exact Nat.le_add_right _ _)
  holds k b hik hkj hb := by
    rw [getElem?_append_singleton_of_lt (hkj.trans_le h.le_length)] at hb
    exact h.holds k b hik hkj hb
  starts k b hk hb := by
    have hlt : k < l.length := by
      have hle := h.le_length
      have hij := h.lt
      omega
    rw [getElem?_append_singleton_of_lt hlt] at hb
    exact h.starts k b hk hb

lemma of_append (h : IsRun P (l ++ [a]) i j) (hj : j ≤ l.length) : IsRun P l i j where
  lt := h.lt
  le_length := hj
  holds k b hik hkj hb := by
    refine h.holds k b hik hkj ?_
    rw [getElem?_append_singleton_of_lt (hkj.trans_le hj)]
    exact hb
  starts k b hk hb := by
    have hlt : k < l.length := by
      have hij := h.lt
      omega
    refine h.starts k b hk ?_
    rw [getElem?_append_singleton_of_lt hlt]
    exact hb

lemma append_holds (h : IsRun P l i l.length) (ha : P a = true) :
    IsRun P (l ++ [a]) i (l.length + 1) where
  lt := h.lt.trans (Nat.lt_succ_self _)
  le_length := by simp
  holds k b hik hkj hb := by
    rcases Nat.lt_or_eq_of_le (Nat.le_of_lt_succ hkj) with hlt | rfl
    · rw [getElem?_append_singleton_of_lt hlt] at hb
      exact h.holds k b hik hlt hb
    · rw [getElem?_concat_length] at hb
      rwa [← Option.some.inj hb]
  starts := h.append.starts

lemma last_holds (h : IsRun P l i l.length) (ha : l.getLast? = some a) : P a = true := by
  have hlt := h.lt
  rw [getLast?_eq_getElem?] at ha
  exact h.holds (l.length - 1) a (by omega) (by omega) ha

end IsRun

lemma endedRun_append_iff : EndedRun P (l ++ [a]) i j ↔
    EndedRun P l i j ∨ (P a = false ∧ j = l.length ∧ IsRun P l i l.length) := by
  constructor
  · rintro ⟨hrun, hlt, hends⟩
    rw [length_append, length_singleton] at hlt
    rcases Nat.lt_or_eq_of_le (Nat.le_of_lt_succ hlt) with hlt | rfl
    · refine Or.inl ⟨hrun.of_append hlt.le, hlt, fun b hb => hends b ?_⟩
      rw [getElem?_append_singleton_of_lt hlt]
      exact hb
    · exact Or.inr ⟨hends a getElem?_concat_length, rfl, hrun.of_append le_rfl⟩
  · rintro (⟨hrun, hlt, hends⟩ | ⟨ha, rfl, hrun⟩)
    · refine ⟨hrun.append, hlt.trans (by simp), fun b hb => hends b ?_⟩
      rwa [getElem?_append_singleton_of_lt hlt] at hb
    · refine ⟨hrun.append, by simp, fun b hb => ?_⟩
      rw [getElem?_concat_length] at hb
      rwa [← Option.some.inj hb]

namespace RunsOf

variable {opened : Option ℕ} {ended : List (ℕ × ℕ)}

lemma nil (P : α → Bool) : RunsOf P [] none [] where
  opened_iff _ := ⟨fun h => (nomatch h), fun h => absurd h.lt (Nat.not_lt_zero _)⟩
  mem_ended_iff _ j :=
    ⟨fun h => absurd h not_mem_nil, fun h => absurd h.lt_length (Nat.not_lt_zero j)⟩
  ordered := Pairwise.nil
  idle _ _ ha := nomatch ha

lemma append_holds (h : RunsOf P l opened ended) (ha : P a = true) :
    RunsOf P (l ++ [a]) (some (opened.getD l.length)) ended where
  opened_iff i := by
    rw [length_append, length_singleton, Option.some.injEq]
    constructor
    · rintro rfl
      cases hopened : opened with
      | some i => exact ((h.opened_iff i).mp hopened).append_holds ha
      | none =>
        refine ⟨Nat.lt_succ_self _, by simp, fun k b hk hk' hb => ?_, fun k b hk hb => ?_⟩
        · obtain rfl : k = l.length := Nat.le_antisymm (Nat.le_of_lt_succ hk') hk
          rw [getElem?_concat_length] at hb
          rwa [← Option.some.inj hb]
        · -- The observation before the new run is the last one, which fails the condition.
          refine h.idle hopened b ?_
          have hk : k + 1 = l.length := hk
          rw [getElem?_append_singleton_of_lt (by omega)] at hb
          rw [getLast?_eq_getElem?, ← hk]
          exact hb
    · intro hrun
      rcases Nat.lt_or_eq_of_le (Nat.le_of_lt_succ hrun.lt) with hlt | rfl
      · have hopen : IsRun P l i l.length := by
          refine IsRun.of_append (a := a) ⟨hlt, by simp, fun k b hk hk' hb => ?_, hrun.starts⟩
            le_rfl
          exact hrun.holds k b hk (hk'.trans (Nat.lt_succ_self _)) hb
        rw [(h.opened_iff i).mpr hopen]
        rfl
      · cases hopened : opened with
        | none => rfl
        | some i =>
          -- The open run would have the observation before the new one.
          have hopen := (h.opened_iff i).mp hopened
          have hlast : ∃ b, l.getLast? = some b := by
            have hne := ne_nil_of_length_pos (Nat.zero_lt_of_lt hopen.lt)
            exact ⟨l.getLast hne, getLast?_eq_some_getLast hne⟩
          obtain ⟨b, hb⟩ := hlast
          have hholds := hopen.last_holds hb
          rw [getLast?_eq_getElem?] at hb
          have hlt := hopen.lt
          have hfails := hrun.starts (l.length - 1) b (by omega) (by
            rw [getElem?_append_singleton_of_lt (by omega)]
            exact hb)
          exact absurd (hfails.symm.trans hholds) Bool.false_ne_true
  mem_ended_iff i j := by
    rw [endedRun_append_iff, ← h.mem_ended_iff i j]
    refine ⟨Or.inl, fun hended => hended.resolve_right fun hfails => ?_⟩
    exact Bool.false_ne_true (hfails.1.symm.trans ha)
  ordered := h.ordered
  idle hnone := nomatch hnone

lemma append_fails (h : RunsOf P l opened ended) (ha : P a = false) :
    RunsOf P (l ++ [a]) none (ended ++ opened.toList.map fun i => (i, l.length)) where
  opened_iff i := by
    refine ⟨fun hnone => (nomatch hnone), fun hrun => ?_⟩
    have hholds := hrun.last_holds getLast?_concat
    exact absurd (ha.symm.trans hholds) Bool.false_ne_true
  mem_ended_iff i j := by
    rw [endedRun_append_iff, mem_append, h.mem_ended_iff i j]
    refine or_congr_right ?_
    simp only [mem_map, Option.mem_toList, Prod.mk.injEq, ha, true_and, ← h.opened_iff i]
    constructor
    · rintro ⟨k, hk, rfl, rfl⟩
      exact ⟨rfl, hk⟩
    · rintro ⟨rfl, hk⟩
      exact ⟨i, hk, rfl, rfl⟩
  ordered := by
    rw [pairwise_append]
    refine ⟨h.ordered, ?_, fun p hp q hq => ?_⟩
    · cases opened with
      | none => exact Pairwise.nil
      | some i => exact pairwise_singleton _ _
    · obtain ⟨k, hk, rfl⟩ := mem_map.mp hq
      have hopen := (h.opened_iff k).mp (Option.mem_toList.mp hk)
      have hended := (h.mem_ended_iff p.1 p.2).mp hp
      -- The observation that ends a run is not one of the open run.
      by_contra hlt
      have hget := getElem?_eq_getElem hended.lt_length
      have hends := hended.ends _ hget
      have hholds := hopen.holds p.2 _ (Nat.le_of_not_le hlt) hended.lt_length hget
      exact Bool.false_ne_true (hends.symm.trans hholds)
  idle _ b hb := by
    rw [getLast?_concat] at hb
    rwa [← Option.some.inj hb]

end RunsOf

end List
