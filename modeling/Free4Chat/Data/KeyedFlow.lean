import Mathlib.Data.List.Basic

/-!
# Keyed Flows

Items with keys pass through a pipeline: they are accepted, wait in order, and leave. A key is live
or not. For a live key nothing is lost, repeated or reordered. For any key what has left is a prefix
of what was accepted.

* `List.ofKey`: the items of a list with a given key.
* `KeyedFlow`: what was accepted, what has left and what waits agree.
* `KeyedFlow.accept`, `KeyedFlow.leave`, `KeyedFlow.drop` and `KeyedFlow.revive`: the steps of a
  pipeline, and the change of the keys that are live.
-/

universe u v

variable {α : Type u} {κ : Type v} [DecidableEq κ]

namespace List

/-- The items of a list with a given key. -/
def ofKey (key : α → κ) (k : κ) (l : List α) : List α := l.filter fun a => key a = k

variable {key : α → κ} {k : κ} {l l' : List α}

@[simp]
lemma ofKey_append : ofKey key k (l ++ l') = ofKey key k l ++ ofKey key k l' := filter_append ..

lemma mem_ofKey {a : α} : a ∈ ofKey key k l ↔ a ∈ l ∧ key a = k := by
  rw [ofKey, mem_filter, decide_eq_true_eq]

lemma ofKey_eq_nil (h : ∀ a ∈ l, key a ≠ k) : ofKey key k l = [] := by
  rw [eq_nil_iff_forall_not_mem]
  intro a ha
  obtain ⟨hmem, hkey⟩ := mem_ofKey.mp ha
  exact h a hmem hkey

end List

/-- What was accepted, what has left and what waits agree for each key. -/
structure KeyedFlow (key : α → κ) (live : κ → Prop) (accepted left waiting : List α) : Prop where
  ordered : ∀ k, left.ofKey key k <+: accepted.ofKey key k
  conserved : ∀ k, live k → accepted.ofKey key k = left.ofKey key k ++ waiting.ofKey key k

namespace KeyedFlow

variable {key : α → κ} {live live' : κ → Prop} {accepted left waiting waiting' items : List α}

lemma init (key : α → κ) (live : κ → Prop) : KeyedFlow key live [] [] [] where
  ordered := fun _ => List.prefix_rfl
  conserved := fun _ _ => rfl

lemma mem_accepted (h : KeyedFlow key live accepted left waiting) {a : α} (ha : a ∈ left) :
    a ∈ accepted := by
  have hmem : a ∈ left.ofKey key (key a) := List.mem_ofKey.mpr ⟨ha, rfl⟩
  exact (List.mem_ofKey.mp ((h.ordered (key a)).subset hmem)).1

lemma accept (h : KeyedFlow key live accepted left waiting) (items : List α) :
    KeyedFlow key live (accepted ++ items) left (waiting ++ items) where
  ordered := by
    intro k
    rw [List.ofKey_append]
    exact (h.ordered k).trans (List.prefix_append _ _)
  conserved := by
    intro k hk
    rw [List.ofKey_append, List.ofKey_append, h.conserved k hk, List.append_assoc]

lemma leave (h : KeyedFlow key live accepted left (items ++ waiting))
    (hlive : ∀ a ∈ items, live (key a)) : KeyedFlow key live accepted (left ++ items) waiting := by
  have hconserved : ∀ k, live k → accepted.ofKey key k =
      (left ++ items).ofKey key k ++ waiting.ofKey key k := by
    intro k hk
    rw [h.conserved k hk, List.ofKey_append, List.ofKey_append, List.append_assoc]
  refine ⟨fun k => ?_, hconserved⟩
  by_cases hitem : ∃ a ∈ items, key a = k
  · obtain ⟨a, ha, rfl⟩ := hitem
    rw [hconserved _ (hlive a ha)]
    exact List.prefix_append _ _
  · have hnone : items.ofKey key k = [] :=
      List.ofKey_eq_nil fun a ha heq => hitem ⟨a, ha, heq⟩
    rw [List.ofKey_append, hnone, List.append_nil]
    exact h.ordered k

lemma change (h : KeyedFlow key live accepted left waiting)
    (hwaiting : ∀ k, live k → waiting'.ofKey key k = waiting.ofKey key k) :
    KeyedFlow key live accepted left waiting' where
  ordered := h.ordered
  conserved := by
    intro k hk
    rw [hwaiting k hk]
    exact h.conserved k hk

lemma drop {before after : List α}
    (h : KeyedFlow key live accepted left (before ++ (items ++ after)))
    (hdead : ∀ a ∈ items, ¬ live (key a)) : KeyedFlow key live accepted left (before ++ after) := by
  refine h.change fun k hk => ?_
  have hnone : items.ofKey key k = [] :=
    List.ofKey_eq_nil fun a ha heq => hdead a ha (heq ▸ hk)
  rw [List.ofKey_append, List.ofKey_append, List.ofKey_append, hnone, List.nil_append]

lemma revive (h : KeyedFlow key live accepted left waiting)
    (hnew : ∀ k, live' k → live k ∨ (∀ a ∈ accepted, key a ≠ k) ∧ ∀ a ∈ waiting, key a ≠ k) :
    KeyedFlow key live' accepted left waiting where
  ordered := h.ordered
  conserved := by
    intro k hk
    rcases hnew k hk with hlive | ⟨haccepted, hwaiting⟩
    · exact h.conserved k hlive
    · have hleft : ∀ a ∈ left, key a ≠ k := fun a ha => haccepted a (h.mem_accepted ha)
      rw [List.ofKey_eq_nil haccepted, List.ofKey_eq_nil hleft, List.ofKey_eq_nil hwaiting]
      rfl

end KeyedFlow
