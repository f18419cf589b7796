import Mathlib.Algebra.Order.BigOperators.Group.List
import Mathlib.Algebra.Order.Group.Nat
import Mathlib.Algebra.GroupWithZero.Nat
import Mathlib.Data.List.Induction

/-!
# Sliding Windows

Rate limits over a window that slides with time. A limiter decides about one sample at a time and
looks at the samples of the window that ends there; what it guarantees is a bound on every window.

* `RateLimit`: the width of the window and its two bounds.
* `RateLimit.recent`: the samples of the window that ends at a time.
* `RateLimit.Respected`: each sample kept the bounds of the window that ended at it.
* `RateLimit.Respected.within_window`: then every window keeps them.
-/

universe u

/-- A bound on how many samples, and of which total size, any window of a width holds. -/
structure RateLimit where
  width : ℕ
  maxCount : ℕ
  maxSize : ℕ

namespace RateLimit

variable {α : Type u} (limit : RateLimit) (time size : α → ℕ)

/-- The samples of the window that ends at a time, later ones included. -/
def recent (now : ℕ) (samples : List α) : List α :=
  samples.filter fun sample => now < time sample + limit.width

/-- Samples that keep both bounds. -/
def Holds (samples : List α) : Prop :=
  samples.length ≤ limit.maxCount ∧ (samples.map size).sum ≤ limit.maxSize

/-- Every sample, when it was added, kept the bounds together with the window that ended at it. -/
def Respected (samples : List α) : Prop :=
  ∀ earlier sample, earlier ++ [sample] <+: samples →
    limit.Holds size (limit.recent time (time sample) earlier ++ [sample])

variable {limit time size} {samples : List α} {sample : α}

lemma Holds.of_sublist {fewer : List α} (h : limit.Holds size samples)
    (hsub : fewer.Sublist samples) : limit.Holds size fewer :=
  ⟨hsub.length_le.trans h.1,
    ((hsub.map size).sum_le_sum fun _ _ => Nat.zero_le _).trans h.2⟩

lemma respected_nil : limit.Respected time size ([] : List α) := by
  intro earlier sample hlast
  simp at hlast

lemma Respected.concat (h : limit.Respected time size samples)
    (hholds : limit.Holds size (limit.recent time (time sample) samples ++ [sample])) :
    limit.Respected time size (samples ++ [sample]) := by
  intro earlier last hlast
  rcases List.prefix_concat_iff.mp hlast with heq | hshorter
  · obtain ⟨rfl, hsample⟩ := List.append_inj' heq rfl
    obtain rfl : last = sample := by simpa using hsample
    exact hholds
  · exact h earlier last hshorter

lemma Respected.of_concat (h : limit.Respected time size (samples ++ [sample])) :
    limit.Respected time size samples :=
  fun earlier last hlast => h earlier last (hlast.trans (List.prefix_append _ _))

lemma Respected.within_window (h : limit.Respected time size samples) (endsAt : ℕ) :
    limit.Holds size (samples.filter fun sample =>
      endsAt < time sample + limit.width ∧ time sample ≤ endsAt) := by
  induction samples using List.reverseRecOn with
  | nil => exact ⟨by simp, by simp⟩
  | append_singleton samples sample ih =>
    rw [List.filter_append]
    by_cases hin : endsAt < time sample + limit.width ∧ time sample ≤ endsAt
    · -- The last sample of the window kept the bounds together with all of the window.
      have hlast := h samples sample List.prefix_rfl
      refine hlast.of_sublist (List.Sublist.append ?_ ?_)
      · refine List.monotone_filter_right samples fun other hother => ?_
        simp only [decide_eq_true_eq] at hother ⊢
        exact hin.2.trans_lt hother.1
      · exact List.filter_sublist
    · simpa [hin] using ih h.of_concat

end RateLimit
