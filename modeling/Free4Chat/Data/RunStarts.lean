import Mathlib.Data.List.Basic

/-!
# Starts of Maximal Runs

A signal is observed again and again, and it is off or has a value. A maximal run is a stretch of
observations of one value, and it starts where the value differs from what was observed before.

* `List.runStarts`: the values of the maximal runs, in order.
* `List.lastSeen`: the last observation.
* `List.runStarts_append_singleton`: one more observation starts a run if it differs from the last.
-/

universe u

namespace List

variable {α : Type u} [DecidableEq α]

/-- The values of the maximal runs after an observation. -/
def runStarts : Option α → List (Option α) → List α
  | _, [] => []
  | before, a :: l => (if a = before then [] else a.toList) ++ runStarts a l

/-- The last observation. -/
def lastSeen (l : List (Option α)) : Option α := l.getLast?.join

omit [DecidableEq α] in
@[simp]
lemma lastSeen_append_singleton (l : List (Option α)) (a : Option α) : (l ++ [a]).lastSeen = a := by
  rw [lastSeen, getLast?_concat]
  rfl

lemma runStarts_append (before a : Option α) (l : List (Option α)) :
    runStarts before (l ++ [a]) = runStarts before l ++
      (if a = l.getLast?.getD before then [] else a.toList) := by
  induction l generalizing before with
  | nil => exact (append_nil _).trans rfl
  | cons b l ih =>
    rw [cons_append, runStarts, runStarts, ih b, append_assoc]
    congr 2
    cases l with
    | nil => rfl
    | cons c l => rw [getLast?_cons_cons, getLast?_cons, Option.getD_some, Option.getD_some]

lemma runStarts_append_singleton (a : Option α) (l : List (Option α)) :
    runStarts none (l ++ [a]) = runStarts none l ++
      (if a = l.lastSeen then [] else a.toList) := by
  rw [runStarts_append, lastSeen]
  cases l.getLast? <;> rfl

end List
