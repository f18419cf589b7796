import Mathlib.Logic.Basic

/-!
# Fallible Computations

Computations that stop at the first failed check, with the rules that read a success back as the
checks that passed and the values that were found.

* `Except.rejectWhen` and `Except.require`: the two kinds of check.
* `Except.bind_eq_ok`, `Except.rejectWhen_eq_ok` and `Except.require_eq_ok`: their inversion.
* `Except.toOption_eq_some`: a success as an optional value.
-/

namespace Except

universe u v

variable {ε : Type u} {α β : Type v}

/-- Stops with an error when a condition holds. -/
def rejectWhen (condition : Prop) [Decidable condition] (error : ε) : Except ε Unit :=
  if condition then .error error else .ok ()

/-- The value that is there, or an error. -/
def require (value : Option α) (error : ε) : Except ε α :=
  match value with
  | some value => .ok value
  | none => .error error

variable {x : Except ε α}

lemma bind_eq_ok {f : α → Except ε β} {b : β} : x >>= f = .ok b ↔ ∃ a, x = .ok a ∧ f a = .ok b := by
  cases x with
  | error e =>
    constructor
    · exact fun h => nomatch h
    · exact fun ⟨_, h, _⟩ => nomatch h
  | ok a =>
    constructor
    · exact fun h => ⟨a, rfl, h⟩
    · exact fun ⟨_, h, hf⟩ => by cases h; exact hf

@[simp]
lemma rejectWhen_eq_ok {condition : Prop} [Decidable condition] {error : ε} {u : Unit} :
    rejectWhen condition error = .ok u ↔ ¬condition := by
  unfold rejectWhen
  split <;> simp_all

@[simp]
lemma require_eq_ok {value : Option α} {error : ε} {a : α} :
    require value error = .ok a ↔ value = some a := by
  cases value <;> simp [require]

lemma require_bind_congr {value : Option α} {error : ε} {f g : α → Except ε β}
    (h : ∀ a, value = some a → f a = g a) :
    require value error >>= f = require value error >>= g := by
  cases value with
  | none => rfl
  | some a => exact h a rfl

@[simp]
lemma pure_eq_ok {a b : α} : (pure a : Except ε α) = .ok b ↔ a = b := by
  constructor
  · exact fun h => Except.ok.inj h
  · rintro rfl
    rfl

@[simp]
lemma toOption_eq_some {a : α} : x.toOption = some a ↔ x = .ok a := by
  cases x <;> simp [Except.toOption]

@[simp]
lemma map_eq_ok {f : α → β} {b : β} : x.map f = .ok b ↔ ∃ a, x = .ok a ∧ f a = b := by
  cases x <;> simp [Except.map]

end Except
