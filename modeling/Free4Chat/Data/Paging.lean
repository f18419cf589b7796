import Mathlib.Data.List.Basic

/-!
# Paged Listings

A listing is served page by page. Each page comes with the cursor of the next one, and the last page
with a cursor that says that the listing is done. The same cursor stands for the first page.

* `Paging.Pages`: the pages from a cursor on.
* `Paging.Remaining`: the pages that are left after a page.
* `Paging.Pages.unique`: a cursor stands for one list of pages.
* `Paging.Pages.exists_of_step`: a listing ends where each page leaves less than there was.
-/

universe u v

namespace Paging

variable {κ : Type u} {α : Type v} {list : κ → Option (List α × κ)} {done : κ}

/-- The pages from a cursor on. -/
inductive Pages (list : κ → Option (List α × κ)) (done : κ) : κ → List (List α) → Prop
  | last {cursor : κ} {page : List α} (h : list cursor = some (page, done)) :
      Pages list done cursor [page]
  | more {cursor next : κ} {page : List α} {pages : List (List α)}
      (h : list cursor = some (page, next)) (hne : next ≠ done)
      (hrest : Pages list done next pages) : Pages list done cursor (page :: pages)

/-- The pages that are left after a page with the cursor of the next one. -/
structure Remaining (list : κ → Option (List α × κ)) (done : κ) (cursor : κ)
    (pages : List (List α)) : Prop where
  ended : cursor = done → pages = []
  more : cursor ≠ done → Pages list done cursor pages

lemma Remaining.nil : Remaining list done done [] where
  ended := fun _ => rfl
  more := fun h => absurd rfl h

namespace Pages

lemma exists_page {cursor : κ} {pages : List (List α)} (h : Pages list done cursor pages) :
    ∃ page next rest, list cursor = some (page, next) ∧ pages = page :: rest ∧
      Remaining list done next rest := by
  cases h with
  | last h => exact ⟨_, _, _, h, rfl, Remaining.nil⟩
  | more h hne hrest => exact ⟨_, _, _, h, rfl, ⟨fun heq => absurd heq hne, fun _ => hrest⟩⟩

lemma unique {cursor : κ} {pages pages' : List (List α)} (h : Pages list done cursor pages)
    (h' : Pages list done cursor pages') : pages = pages' := by
  induction h generalizing pages' with
  | last h =>
    cases h' with
    | last h₂ =>
      cases h.symm.trans h₂
      rfl
    | more h₂ hne _ =>
      cases h.symm.trans h₂
      exact absurd rfl hne
  | more h hne _ ih =>
    cases h' with
    | last h₂ =>
      cases h.symm.trans h₂
      exact absurd rfl hne
    | more h₂ _ hrest =>
      cases h.symm.trans h₂
      rw [ih hrest]

lemma exists_of_step {ι : Type*} (start : ι → κ) (size : ι → ℕ) (holds : ι → List (List α) → Prop)
    (hstep : ∀ i, ∃ page next, list (start i) = some (page, next) ∧
      (next = done → holds i [page]) ∧
      (next ≠ done → ∃ j, next = start j ∧ size j < size i ∧
        ∀ pages, holds j pages → holds i (page :: pages))) (i : ι) :
    ∃ pages, Pages list done (start i) pages ∧ holds i pages := by
  -- By induction on what is left.
  induction hsize : size i using Nat.strongRecOn generalizing i with
  | ind n ih =>
    obtain ⟨page, next, hpage, hlast, hmore⟩ := hstep i
    by_cases hnext : next = done
    · rw [hnext] at hpage
      exact ⟨[page], Pages.last hpage, hlast hnext⟩
    · obtain ⟨j, hj, hless, hcons⟩ := hmore hnext
      rw [hsize] at hless
      obtain ⟨pages, hpages, hholds⟩ := ih (size j) hless j rfl
      rw [hj] at hpage hnext
      exact ⟨page :: pages, Pages.more hpage hnext hpages, hcons pages hholds⟩

end Pages

end Paging
