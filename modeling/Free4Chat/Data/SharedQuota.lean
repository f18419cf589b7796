import Mathlib.Algebra.Order.Group.Nat
import Mathlib.Algebra.BigOperators.Group.List.Basic

/-!
# Lists Cut to a Shared Quota

Lists that are cut, one after the other, to what is left of a quota that they share.

* `List.cutAll`: the lists that are left.
* `List.cutAll_append`: what is cut first is charged first.
* `List.length_flatten_cutAll_le`: all that is left is within the quota.
* `List.CutsKeep`: the cuts keep a property of the lists.
-/

universe u

namespace List

variable {α : Type u}

/-- The lists that are left, if each is cut to what the ones before it leave of a quota. -/
def cutAll (quota : ℕ) : List (List α) → List (List α)
  | [] => []
  | l :: ls => l.take quota :: cutAll (quota - l.length) ls

lemma cutAll_append (quota : ℕ) (ls ks : List (List α)) :
    cutAll quota (ls ++ ks) = cutAll quota ls ++ cutAll (quota - ls.flatten.length) ks := by
  induction ls generalizing quota with
  | nil => rfl
  | cons l ls ih =>
    rw [cons_append, cutAll, cutAll, ih, flatten_cons, length_append, Nat.sub_sub, cons_append]

lemma length_flatten_cutAll_le (quota : ℕ) (ls : List (List α)) :
    (cutAll quota ls).flatten.length ≤ quota := by
  induction ls generalizing quota with
  | nil => exact Nat.zero_le _
  | cons l ls ih =>
    have hrest := ih (quota - l.length)
    rw [cutAll, flatten_cons, length_append, length_take]
    omega

lemma forall₂_cutAll (quota : ℕ) (ls : List (List α)) :
    Forall₂ (fun l cut => cut <+: l) ls (cutAll quota ls) := by
  induction ls generalizing quota with
  | nil => exact Forall₂.nil
  | cons l ls ih =>
    have hcut : l.take quota <+: l := ⟨l.drop quota, take_append_drop quota l⟩
    exact Forall₂.cons hcut (ih _)

/-- A property of the lists is kept where they are cut. -/
def CutsKeep (P : List α → Prop) : ℕ → List (List α) → Prop
  | _, [] => True
  | quota, l :: ls => (P l → P (l.take quota)) ∧ CutsKeep P (quota - l.length) ls

lemma cutsKeep_iff {P : List α → Prop} {quota : ℕ} {ls : List (List α)} :
    CutsKeep P quota ls ↔ Forall₂ (fun l cut => P l → P cut) ls (cutAll quota ls) := by
  induction ls generalizing quota with
  | nil => exact iff_of_true trivial Forall₂.nil
  | cons l ls ih => rw [CutsKeep, cutAll, forall₂_cons, ih]

end List
