import Free4Chat.Transition.Reachable
import Mathlib.Order.Lattice

/-!
# Fair Runs of a Transition System

Infinite runs, in which a step is taken or nothing happens at each time, and what holds at some
time in those that are fair.

* `TransitionSystem.InfiniteRun`: an infinite run.
* `TransitionSystem.InfiniteRun.WeaklyFair` and `TransitionSystem.InfiniteRun.StronglyFair`: an
  action that stays enabled is taken, and one that is enabled again and again.
* `TransitionSystem.InfiniteRun.LeadsTo`: one property is followed by another.
* `TransitionSystem.InfiniteRun.LeadsTo.of_weaklyFair` and
  `TransitionSystem.InfiniteRun.LeadsTo.of_stronglyFair`: the rules of one action.
* `TransitionSystem.InfiniteRun.exists_of_reachable`: a finite run after which nothing happens.
-/

namespace TransitionSystem

variable {σ α : Type*} {T : TransitionSystem σ α}

/-- An infinite run. At each time one step is taken, or nothing happens. -/
structure InfiniteRun (T : TransitionSystem σ α) where
  state : ℕ → σ
  label : ℕ → Option α
  init : T.init (state 0)
  step : ∀ n a, label n = some a → T.step (state n) a (state (n + 1))
  idle : ∀ n, label n = none → state (n + 1) = state n

/-- Whether a step of an action is possible. -/
def Enabled (T : TransitionSystem σ α) (act : α → Prop) (s : σ) : Prop :=
  ∃ a s', act a ∧ T.step s a s'

namespace InfiniteRun

variable (r : T.InfiniteRun) (act : α → Prop)

/-- Whether a step of an action is taken at a time. -/
def Takes (n : ℕ) : Prop :=
  ∃ a, r.label n = some a ∧ act a

/-- An action that stays enabled is taken. -/
def WeaklyFair : Prop :=
  ∀ n, (∀ m, n ≤ m → T.Enabled act (r.state m)) → ∃ m, n ≤ m ∧ r.Takes act m

/-- An action that is enabled again and again is taken. -/
def StronglyFair : Prop :=
  ∀ n, (∀ m, n ≤ m → ∃ k, m ≤ k ∧ T.Enabled act (r.state k)) → ∃ m, n ≤ m ∧ r.Takes act m

/-- One property is followed by another. -/
def LeadsTo (P Q : σ → Prop) : Prop :=
  ∀ n, P (r.state n) → ∃ m, n ≤ m ∧ Q (r.state m)

variable {r act} {P Q R : σ → Prop}

lemma reachable (r : T.InfiniteRun) (n : ℕ) : T.Reachable (r.state n) := by
  induction n with
  | zero => exact .init r.init
  | succ n ih =>
    cases hlabel : r.label n with
    | none =>
      rw [r.idle n hlabel]
      exact ih
    | some a => exact ih.step trivial (r.step n a hlabel)

lemma StronglyFair.weaklyFair (h : r.StronglyFair act) : r.WeaklyFair act := fun n henabled =>
  h n fun m hm => ⟨m, le_rfl, henabled m hm⟩

lemma exists_or_forall
    (hstep : ∀ s a s', T.Reachable s → P s → ¬act a → T.step s a s' → P s' ∨ Q s')
    (hact : ∀ s a s', T.Reachable s → P s → act a → T.step s a s' → Q s') {n : ℕ}
    (hn : P (r.state n)) :
    (∃ m, n ≤ m ∧ Q (r.state m)) ∨ ∀ m, n ≤ m → P (r.state m) ∧ ¬r.Takes act m := by
  by_cases hQ : ∃ m, n ≤ m ∧ Q (r.state m)
  · exact Or.inl hQ
  refine Or.inr ?_
  have hnot : ∀ m, n ≤ m → P (r.state m) → ¬r.Takes act m := by
    rintro m hm hP ⟨a, hlabel, ha⟩
    exact hQ ⟨m + 1, Nat.le_succ_of_le hm, hact _ a _ (r.reachable m) hP ha (r.step m a hlabel)⟩
  have hall : ∀ m, n ≤ m → P (r.state m) := by
    intro m hm
    induction m, hm using Nat.le_induction with
    | base => exact hn
    | succ m hm ih =>
      cases hlabel : r.label m with
      | none =>
        rw [r.idle m hlabel]
        exact ih
      | some a =>
        have hother : ¬act a := fun ha => hnot m hm ih ⟨a, hlabel, ha⟩
        refine (hstep _ a _ (r.reachable m) ih hother (r.step m a hlabel)).resolve_right ?_
        exact fun hyes => hQ ⟨m + 1, Nat.le_succ_of_le hm, hyes⟩
  exact fun m hm => ⟨hall m hm, hnot m hm (hall m hm)⟩

namespace LeadsTo

lemma of_imp (h : ∀ s, T.Reachable s → P s → Q s) : r.LeadsTo P Q := fun n hP =>
  ⟨n, le_rfl, h _ (r.reachable n) hP⟩

lemma trans (hPQ : r.LeadsTo P Q) (hQR : r.LeadsTo Q R) : r.LeadsTo P R := by
  intro n hP
  obtain ⟨m, hm, hQ⟩ := hPQ n hP
  obtain ⟨k, hk, hR⟩ := hQR m hQ
  exact ⟨k, hm.trans hk, hR⟩

lemma or (hPR : r.LeadsTo P R) (hQR : r.LeadsTo Q R) :
    r.LeadsTo (fun s => P s ∨ Q s) R := fun n hPQ =>
  hPQ.elim (hPR n) (hQR n)

lemma of_rank (rank : σ → ℕ)
    (h : ∀ k, r.LeadsTo (fun s => P s ∧ rank s = k) fun s => (P s ∧ rank s < k) ∨ Q s) :
    r.LeadsTo P Q := by
  intro n hP
  induction hk : rank (r.state n) using Nat.strong_induction_on generalizing n with
  | _ k ih =>
    obtain ⟨m, hm, ⟨hP', hlt⟩ | hQ⟩ := h k n ⟨hP, hk⟩
    · obtain ⟨l, hl, hQ⟩ := ih _ hlt m hP' rfl
      exact ⟨l, hm.trans hl, hQ⟩
    · exact ⟨m, hm, hQ⟩

lemma of_weaklyFair (hfair : r.WeaklyFair act)
    (hstep : ∀ s a s', T.Reachable s → P s → ¬act a → T.step s a s' → P s' ∨ Q s')
    (henabled : ∀ s, T.Reachable s → P s → T.Enabled act s)
    (hact : ∀ s a s', T.Reachable s → P s → act a → T.step s a s' → Q s') : r.LeadsTo P Q := by
  intro n hP
  rcases exists_or_forall hstep hact hP with hQ | hall
  · exact hQ
  · obtain ⟨m, hm, htakes⟩ := hfair n fun m hm => henabled _ (r.reachable m) (hall m hm).1
    exact absurd htakes (hall m hm).2

lemma of_stronglyFair (hfair : r.StronglyFair act)
    (hstep : ∀ s a s', T.Reachable s → P s → ¬act a → T.step s a s' → P s' ∨ Q s')
    (henabled : ∀ n, ∃ m, n ≤ m ∧ (P (r.state m) → T.Enabled act (r.state m)))
    (hact : ∀ s a s', T.Reachable s → P s → act a → T.step s a s' → Q s') : r.LeadsTo P Q := by
  intro n hP
  rcases exists_or_forall hstep hact hP with hQ | hall
  · exact hQ
  have hagain : ∀ m, n ≤ m → ∃ k, m ≤ k ∧ T.Enabled act (r.state k) := by
    intro m hm
    obtain ⟨k, hk, hyes⟩ := henabled m
    exact ⟨k, hk, hyes (hall k (hm.trans hk)).1⟩
  obtain ⟨m, hm, htakes⟩ := hfair n hagain
  exact absurd htakes (hall m hm).2

end LeadsTo

lemma exists_of_reachable {s : σ} (hreach : T.Reachable s) :
    ∃ r : T.InfiniteRun, ∃ n, ∀ m, n ≤ m → r.state m = s := by
  induction hreach with
  | @init s hinit =>
    exact ⟨⟨fun _ => s, fun _ => none, hinit, (fun _ _ hno => by cases hno),
      fun _ _ => rfl⟩, 0, fun _ _ => rfl⟩
  | @step s s' a _ _ hstep ih =>
    obtain ⟨r, n, hlast⟩ := ih
    -- The step is taken once the run has reached its last state.
    refine ⟨⟨fun m => if m ≤ n then r.state m else s',
      fun m => if m < n then r.label m else if m = n then some a else none, ?_, ?_, ?_⟩, n + 1, ?_⟩
    · rw [if_pos (Nat.zero_le n)]
      exact r.init
    · intro m b hlabel
      rcases Nat.lt_trichotomy m n with hlt | rfl | hgt
      · rw [if_pos hlt] at hlabel
        rw [if_pos hlt.le, if_pos (Nat.succ_le_of_lt hlt)]
        exact r.step m b hlabel
      · rw [if_neg (Nat.lt_irrefl m), if_pos rfl] at hlabel
        cases hlabel
        rw [if_pos le_rfl, if_neg (Nat.not_succ_le_self m), hlast m le_rfl]
        exact hstep
      · rw [if_neg (Nat.lt_asymm hgt), if_neg (Nat.ne_of_gt hgt)] at hlabel
        cases hlabel
    · intro m hlabel
      rcases Nat.lt_trichotomy m n with hlt | rfl | hgt
      · rw [if_pos hlt] at hlabel
        rw [if_pos hlt.le, if_pos (Nat.succ_le_of_lt hlt)]
        exact r.idle m hlabel
      · rw [if_neg (Nat.lt_irrefl m), if_pos rfl] at hlabel
        cases hlabel
      · rw [if_neg (Nat.not_le.mpr hgt), if_neg (Nat.not_le.mpr (Nat.lt_succ_of_lt hgt))]
    · intro m hm
      exact if_neg (Nat.not_le.mpr hm)

lemma stronglyFair_of_last {s : σ} {n : ℕ} (hlast : ∀ m, n ≤ m → r.state m = s)
    (hdisabled : ¬T.Enabled act s) : r.StronglyFair act := by
  intro m hagain
  obtain ⟨k, hk, henabled⟩ := hagain (max m n) (le_max_left m n)
  rw [hlast k ((le_max_right m n).trans hk)] at henabled
  exact absurd henabled hdisabled

end InfiniteRun

end TransitionSystem
