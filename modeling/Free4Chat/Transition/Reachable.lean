import Mathlib.Tactic.Lemma
import Mathlib.Tactic.TypeStar

/-!
# Guarded Runs of a Transition System

Transition systems with labelled steps, and the states their runs reach when every step meets a
guard. An unguarded run is the special case of the guard that always holds.

* `TransitionSystem`: initial states and a labelled step relation.
* `TransitionSystem.ReachableWhen`: states reached by runs whose steps all meet a guard.
* `TransitionSystem.ReachableWhen.invariant`: an inductive invariant holds in every state reached.
* `TransitionSystem.ReachableWhen.mono`: a weaker guard reaches more states.
* `TransitionSystem.ReachableWhen.foldl` and `TransitionSystem.ReachableWhen.foldlM`: a run that is
  given by its labels.
* `TransitionSystem.runWhen?`: the run of some labels from a state, computed.
-/

/-- A labelled transition system. -/
structure TransitionSystem (σ α : Type*) where
  -- The states in which a run may begin.
  init : σ → Prop
  -- One step from a state, under a label, to a state.
  step : σ → α → σ → Prop

/-- What a step is that is taken under a condition. -/
lemma Option.of_guarded {p : Prop} [Decidable p] {σ : Type*}
    {s s' : σ} (h : (if p then some s else none) = some s') : p ∧ s = s' := by
  split at h
  next hp => exact ⟨hp, Option.some.inj h⟩
  next => cases h

namespace TransitionSystem

variable {σ α : Type*} {T : TransitionSystem σ α}

/-- States reached by finite runs in which every step meets the guard. -/
inductive ReachableWhen (T : TransitionSystem σ α) (guard : σ → α → Prop) : σ → Prop
  -- A run begins in an initial state.
  | init {s : σ} (hinit : T.init s) : ReachableWhen T guard s
  -- A run is extended by a step that meets the guard.
  | step {s s' : σ} {a : α} (hreach : ReachableWhen T guard s) (hguard : guard s a)
      (hstep : T.step s a s') : ReachableWhen T guard s'

/-- States reached by arbitrary finite runs. -/
def Reachable (T : TransitionSystem σ α) : σ → Prop :=
  T.ReachableWhen fun _ _ => True

namespace ReachableWhen

variable {guard guard' : σ → α → Prop} {s : σ}

lemma invariant {P : σ → Prop} (hinit : ∀ s, T.init s → P s)
    (hstep : ∀ s a s', P s → guard s a → T.step s a s' → P s')
    (hreach : T.ReachableWhen guard s) : P s := by
  induction hreach with
  | init h => exact hinit _ h
  | step _ hguard h ih => exact hstep _ _ _ ih hguard h

lemma invariant_of {P Q : σ → Prop} (hQ : ∀ s, T.ReachableWhen guard s → Q s)
    (hinit : ∀ s, T.init s → P s) (hstep : ∀ s a s', Q s → P s → guard s a → T.step s a s' → P s')
    (hreach : T.ReachableWhen guard s) : P s := by
  induction hreach with
  | init h => exact hinit _ h
  | step hr hguard h ih => exact hstep _ _ _ (hQ _ hr) ih hguard h

lemma mono (hle : ∀ s a, guard s a → guard' s a) (hreach : T.ReachableWhen guard s) :
    T.ReachableWhen guard' s := by
  induction hreach with
  | init h => exact init h
  | step _ hguard h ih => exact ih.step (hle _ _ hguard) h

lemma reachable (hreach : T.ReachableWhen guard s) : T.Reachable s :=
  hreach.mono fun _ _ _ => trivial

end ReachableWhen

/-- Whether the labels of a list are enabled one after the other. -/
def enabledRun (enabled : σ → α → Bool) (next : σ → α → σ) : σ → List α → Bool
  | _, [] => true
  | s, a :: labels => enabled s a && enabledRun enabled next (next s a) labels

variable {labels : List α}

lemma ReachableWhen.foldl {guard : σ → α → Prop} {enabled : σ → α → Bool} {next : σ → α → σ}
    (hnext : ∀ s a, enabled s a = true → guard s a ∧ T.step s a (next s a))
    {s : σ} (hreach : T.ReachableWhen guard s) (hrun : enabledRun enabled next s labels = true) :
    T.ReachableWhen guard (labels.foldl next s) := by
  induction labels generalizing s with
  | nil => exact hreach
  | cons a labels ih =>
    rw [enabledRun, Bool.and_eq_true] at hrun
    obtain ⟨hguard, hstep⟩ := hnext s a hrun.1
    exact ih (hreach.step hguard hstep) hrun.2

lemma Reachable.foldl {enabled : σ → α → Bool} {next : σ → α → σ}
    (hnext : ∀ s a, enabled s a = true → T.step s a (next s a)) {s : σ}
    (hreach : T.Reachable s) (hrun : enabledRun enabled next s labels = true) :
    T.Reachable (labels.foldl next s) :=
  ReachableWhen.foldl (fun s a henabled => ⟨trivial, hnext s a henabled⟩) hreach hrun

lemma ReachableWhen.foldlM {guard : σ → α → Prop} {next? : σ → α → Option σ}
    (hnext : ∀ s a s', next? s a = some s' → guard s a ∧ T.step s a s')
    {s s' : σ} (hreach : T.ReachableWhen guard s) (hrun : labels.foldlM next? s = some s') :
    T.ReachableWhen guard s' := by
  induction labels generalizing s with
  | nil =>
    obtain rfl := Option.some.inj hrun
    exact hreach
  | cons a labels ih =>
    rw [List.foldlM_cons] at hrun
    obtain ⟨middle, hmiddle, hrun⟩ := Option.bind_eq_some_iff.mp hrun
    obtain ⟨hguard, hstep⟩ := hnext s a middle hmiddle
    exact ih (hreach.step hguard hstep) hrun

/-- The run of some labels of a partial step function, as long as each of them meets a guard. -/
def runWhen? (next? : σ → α → Option σ) (guard : σ → α → Bool) (s : σ) (labels : List α) :
    Option σ :=
  labels.foldlM (fun s a => if guard s a then next? s a else none) s

lemma reachableWhen_of_runWhen {next? : σ → α → Option σ} {guard : σ → α → Bool}
    (hnext : ∀ s a s', next? s a = some s' → T.step s a s') {s s' : σ}
    (hinit : T.init s) (hrun : runWhen? next? guard s labels = some s') :
    T.ReachableWhen (fun s a => guard s a = true) s' := by
  refine ReachableWhen.foldlM (fun s a s' hstep => ?_) (.init hinit) hrun
  split at hstep
  next hguard => exact ⟨hguard, hnext s a s' hstep⟩
  next => cases hstep

lemma reachable_of_runWhen {next? : σ → α → Option σ}
    (hnext : ∀ s a s', next? s a = some s' → T.step s a s') {s s' : σ}
    (hinit : T.init s) (hrun : runWhen? next? (fun _ _ => true) s labels = some s') :
    T.Reachable s' :=
  (reachableWhen_of_runWhen hnext hinit hrun).reachable

end TransitionSystem
