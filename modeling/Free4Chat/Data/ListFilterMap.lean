import Mathlib.Data.List.Basic

/-!
# Images of Lists

The images of those elements that have one, and what becomes of them when one element of the list is
replaced or removed, as when one goroutine of many goes on or ends.

* `List.filterMap_split`: the images of what comes before and after the element stay.
* `List.updateIdx`: an element is replaced, or removed.
* `List.mem_updateIdx`, `List.mem_updateIdx_of_ne` and `List.filterMap_updateIdx`: what is in the
  list afterwards.
* `List.countP_updateIdx` and `List.countP_modify`: how many elements pass a test afterwards.
* `List.filter_unseen`: what is left of a list while its elements are seen one after the other.
-/

universe u v

namespace List

variable {α : Type u} {β : Type v} (f : α → Option β)

lemma filterMap_cons_toList (a : α) (l : List α) :
    (a :: l).filterMap f = (f a).toList ++ l.filterMap f := by
  rw [filterMap_cons]
  cases f a <;> rfl

lemma filterMap_split {l : List α} {index : ℕ} {a : α} (h : l[index]? = some a) :
    ∃ before after, l.filterMap f = before ++ ((f a).toList ++ after) ∧
      (∀ b, (l.set index b).filterMap f = before ++ ((f b).toList ++ after)) ∧
      (l.eraseIdx index).filterMap f = before ++ after := by
  induction l generalizing index with
  | nil => cases h
  | cons c l ih =>
    cases index with
    | zero =>
      obtain rfl : c = a := Option.some.inj h
      refine ⟨[], l.filterMap f, filterMap_cons_toList f c l, fun b => ?_, rfl⟩
      exact filterMap_cons_toList f b l
    | succ index =>
      rw [getElem?_cons_succ] at h
      obtain ⟨before, after, hbefore, hset, herase⟩ := ih h
      refine ⟨(f c).toList ++ before, after, ?_, fun b => ?_, ?_⟩
      · rw [filterMap_cons_toList, hbefore, append_assoc]
      · rw [set_cons_succ, filterMap_cons_toList, hset, append_assoc]
      · rw [eraseIdx_cons_succ, filterMap_cons_toList, herase, append_assoc]

/-- Replace one element of a list, or remove it. -/
def updateIdx (l : List α) (index : ℕ) : Option α → List α
  | none => l.eraseIdx index
  | some a => l.set index a

variable {l : List α} {index : ℕ} {a b : α} {next : Option α}

lemma mem_updateIdx (h : b ∈ l.updateIdx index next) : b ∈ l ∨ next = some b := by
  cases next with
  | none => exact Or.inl (mem_of_mem_eraseIdx h)
  | some c =>
    rcases mem_or_eq_of_mem_set h with h | rfl
    · exact Or.inl h
    · exact Or.inr rfl

lemma mem_updateIdx_of_ne (ha : l[index]? = some a) (hb : b ∈ l) (hne : b ≠ a) :
    b ∈ l.updateIdx index next := by
  obtain ⟨i, hi⟩ := mem_iff_getElem?.mp hb
  have hindex : i ≠ index := by
    rintro rfl
    exact hne (Option.some.inj (hi.symm.trans ha))
  cases next with
  | none => exact mem_eraseIdx_iff_getElem?.mpr ⟨i, hindex, hi⟩
  | some c =>
    refine mem_iff_getElem?.mpr ⟨i, ?_⟩
    show (l.set index c)[i]? = some b
    rw [getElem?_set_ne hindex.symm, hi]

lemma mem_updateIdx_self (ha : l[index]? = some a) : b ∈ l.updateIdx index (some b) := by
  refine mem_iff_getElem?.mpr ⟨index, ?_⟩
  show (l.set index b)[index]? = some b
  rw [getElem?_set_self (getElem?_eq_some_iff.mp ha).1]

lemma filterMap_updateIdx (ha : l[index]? = some a) :
    ∃ before after, l.filterMap f = before ++ ((f a).toList ++ after) ∧
      ∀ next : Option α,
        (l.updateIdx index next).filterMap f = before ++ ((next.bind f).toList ++ after) := by
  obtain ⟨before, after, hl, hset, herase⟩ := filterMap_split f ha
  refine ⟨before, after, hl, ?_⟩
  rintro (_ | b)
  · exact herase
  · exact hset b

lemma countP_updateIdx {p : α → Bool} {l : List α} {index : ℕ} {a : α} {next : Option α}
    (ha : l[index]? = some a) : (l.updateIdx index next).countP p + (if p a then 1 else 0) =
      l.countP p + if next.any p then 1 else 0 := by
  induction l generalizing index with
  | nil => cases ha
  | cons c l ih =>
    cases index with
    | zero =>
      obtain rfl : c = a := Option.some.inj ha
      cases next with
      | none =>
        show l.countP p + _ = (c :: l).countP p + 0
        rw [countP_cons]
        rfl
      | some b =>
        show (b :: l).countP p + _ = (c :: l).countP p + if p b then 1 else 0
        rw [countP_cons, countP_cons]
        omega
    | succ index =>
      have htail : (c :: l).updateIdx (index + 1) next = c :: l.updateIdx index next := by
        cases next <;> rfl
      have hrest := ih ha
      rw [htail, countP_cons, countP_cons]
      omega

lemma countP_modify {p : α → Bool} {f : α → α} (hf : ∀ a, p (f a) = p a) (l : List α)
    (index : ℕ) : (l.modify index f).countP p = l.countP p := by
  induction l generalizing index with
  | nil => rw [modify_nil]
  | cons a l ih =>
    cases index with
    | zero => rw [modify_zero_cons, countP_cons, countP_cons, hf]
    | succ index => rw [modify_succ_cons, countP_cons, countP_cons, ih]

/-! ### Duplicates -/

lemma filter_unseen [BEq α] [LawfulBEq α] {seen seen' : List α} {a : α} (l : List α)
    (hseen : ∀ b, b ∈ seen' ↔ b = a ∨ b ∈ seen) : (l.filter fun b => decide (b ∉ seen')) =
      (l.filter fun b => decide (b ∉ seen)).filter fun b => !b == a := by
  rw [filter_filter]
  refine filter_congr fun b _ => ?_
  rw [Bool.eq_iff_iff, decide_eq_true_iff, Bool.and_eq_true, Bool.not_eq_true',
    beq_eq_false_iff_ne, decide_eq_true_iff, hseen b, not_or]

end List
