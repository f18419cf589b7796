import Mathlib.Data.List.ReduceOption
import Mathlib.Algebra.Order.Group.Nat

/-!
# Histories of Counters

A counter that is read now and then, and that may be missing when it is. Where it was missing
before, it is counted from zero. What is counted is then what the counter has grown by, and what it
had been at each time that it came back.

* `CounterHistory.counted` and `CounterHistory.recounted`: what is counted, and what again.
* `CounterHistory.counted_add`: the two together.
-/

namespace CounterHistory

/-- What a reading counts for, after the reading before. -/
def increment : Option ℕ → Option ℕ → ℕ
  | _, none => 0
  | none, some count => count
  | some before, some count => count - before

/-- What the readings count for. -/
def counted : Option ℕ → List (Option ℕ) → ℕ
  | _, [] => 0
  | before, reading :: history => increment before reading + counted reading history

/-- The largest count, if there was one before. -/
def largest (count : ℕ) : List (Option ℕ) → ℕ
  | [] => count
  | reading :: history => largest (max count (reading.getD 0)) history

/-- The largest counts that there were when the counter came back. -/
def recounted : ℕ → Option ℕ → List (Option ℕ) → ℕ
  | _, _, [] => 0
  | count, none, some later :: history => count + recounted (max count later) (some later) history
  | count, _, reading :: history => recounted (max count (reading.getD 0)) reading history

variable {count : ℕ} {before : Option ℕ} {history : List (Option ℕ)}

lemma le_largest : count ≤ largest count history := by
  induction history generalizing count with
  | nil => exact Nat.le_refl _
  | cons reading history ih => exact Nat.le_trans (Nat.le_max_left _ _) ih

lemma counted_add (hrising : (count :: history.reduceOption).Pairwise (· ≤ ·))
    (hbefore : ∀ earlier, before = some earlier → earlier = count) :
    counted before history + count = largest count history + recounted count before history := by
  induction history generalizing count before with
  | nil => simp only [counted, largest, recounted, Nat.zero_add, Nat.add_zero]
  | cons reading history ih =>
    cases reading with
    | none =>
      rw [List.reduceOption_cons_of_none] at hrising
      have hrest := ih hrising fun _ hno => absurd hno (Option.some_ne_none _).symm
      have hmax : max count 0 = count := Nat.max_zero count
      cases before <;>
        simp only [counted, increment, largest, recounted, Option.getD_none, hmax] <;> omega
    | some later =>
      rw [List.reduceOption_cons_of_some] at hrising
      obtain ⟨hall, hlater⟩ := List.pairwise_cons.mp hrising
      have hle : count ≤ later := hall later List.mem_cons_self
      have hrest := ih hlater fun _ hsame => (Option.some.inj hsame).symm
      have hmax : max count later = later := Nat.max_eq_right hle
      cases before with
      | none =>
        simp only [counted, increment, largest, recounted, Option.getD_some, hmax]
        omega
      | some earlier =>
        obtain rfl := hbefore earlier rfl
        simp only [counted, increment, largest, recounted, Option.getD_some, hmax]
        omega

lemma recounted_eq_zero
    (hstays : (before :: history).IsChain fun earlier later => earlier.isSome → later.isSome)
    (hnew : before = none → count = 0) : recounted count before history = 0 := by
  induction history generalizing count before with
  | nil => cases before <;> rfl
  | cons reading history ih =>
    obtain ⟨hstay, hrest⟩ := List.isChain_cons_cons.mp hstays
    cases before with
    | none =>
      obtain rfl := hnew rfl
      cases reading with
      | none => exact ih hrest fun _ => rfl
      | some later =>
        rw [recounted, ih hrest fun hno => absurd hno (Option.some_ne_none _)]
    | some earlier =>
      cases reading with
      | none => exact absurd (hstay rfl) Bool.false_ne_true
      | some later => exact ih hrest fun hno => absurd hno (Option.some_ne_none _)

end CounterHistory
