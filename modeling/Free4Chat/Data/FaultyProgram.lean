import Mathlib.Data.List.Basic

/-!
# Programs whose Storage Operations May Throw

Sequential programs over a storage in which any operation may throw. A program is run under an
assignment that says which of its operations do. Its outcome lists every state that the program
left in storage on the way, since the process may end after any of them.

* `FaultyProgram`: programs, with sequencing, loops and exception handlers.
* `FaultyOutcome.Meets`: what a run guarantees of the states it leaves in storage, of the value it
  returns and of the state in which it throws.
* `FaultyOutcome.Meets.bind`, `FaultyOutcome.Meets.tryCatch`, `FaultyOutcome.Meets.forIndex` and
  `FaultyOutcome.Meets.forEach`: the rules of sequencing, of handlers and of loops.
-/

/-- What a run did: the operations that it attempted and the states that it left in storage, both
oldest first, the last state, and the returned value, or nothing when it threw. -/
structure FaultyOutcome (ι σ α : Type*) where
  attempted : List ι
  visited : List σ
  state : σ
  result : Option α

/-- Programs over a storage `σ` whose operations are named by `ι`. They run under an assignment
that says which operations throw. -/
def FaultyProgram (ι σ α : Type*) := (ι → Bool) → σ → FaultyOutcome ι σ α

universe u v w

namespace FaultyProgram

variable {ι : Type u} {σ : Type v} {α β : Type w}

/-- Returns without touching the storage. -/
protected def pure (a : α) : FaultyProgram ι σ α := fun _ s => ⟨[], [], s, some a⟩

/-- Throws without touching the storage. -/
def throw : FaultyProgram ι σ α := fun _ s => ⟨[], [], s, none⟩

/-- Continues with the value that a program returns. -/
protected def bind (p : FaultyProgram ι σ α) (q : α → FaultyProgram ι σ β) :
    FaultyProgram ι σ β := fun fails s =>
  let first := p fails s
  match first.result with
  | none => ⟨first.attempted, first.visited, first.state, none⟩
  | some a =>
    let second := q a fails first.state
    ⟨first.attempted ++ second.attempted, first.visited ++ second.visited, second.state,
      second.result⟩

instance : Monad (FaultyProgram ι σ) where
  pure := FaultyProgram.pure
  bind := FaultyProgram.bind

/-- One storage operation. It has no effect when it throws. -/
def perform (operation : ι) (effect : σ → σ) : FaultyProgram ι σ Unit := fun fails s =>
  if fails operation then ⟨[operation], [], s, none⟩
  else ⟨[operation], [effect s], effect s, some ()⟩

/-- One read of the storage. -/
def read (operation : ι) (value : σ → α) : FaultyProgram ι σ α := fun fails s =>
  if fails operation then ⟨[operation], [], s, none⟩ else ⟨[operation], [], s, some (value s)⟩

/-- A step that reads and changes what is kept in memory. It does not touch the storage. -/
def inMemory (step : σ → α × σ) : FaultyProgram ι σ α := fun _ s =>
  ⟨[], [], (step s).2, some (step s).1⟩

/-- Runs a handler when a program throws, on the storage that the program left. The handler knows
which operations were attempted. -/
def tryCatch (p : FaultyProgram ι σ α) (handler : List ι → FaultyProgram ι σ α) :
    FaultyProgram ι σ α := fun fails s =>
  let first := p fails s
  match first.result with
  | some a => ⟨first.attempted, first.visited, first.state, some a⟩
  | none =>
    let second := handler first.attempted fails first.state
    ⟨first.attempted ++ second.attempted, first.visited ++ second.visited, second.state,
      second.result⟩

/-- Runs a body for the indices below a bound, in increasing order. -/
def forIndex : ℕ → (ℕ → FaultyProgram ι σ Unit) → FaultyProgram ι σ Unit
  | 0, _ => FaultyProgram.pure ()
  | n + 1, body => (forIndex n body).bind fun _ => body n

/-- Runs a body for the items of a list, in order. -/
def forEach : List β → (β → FaultyProgram ι σ Unit) → FaultyProgram ι σ Unit
  | [], _ => FaultyProgram.pure ()
  | item :: items, body => (body item).bind fun _ => forEach items body

end FaultyProgram

namespace FaultyOutcome

variable {ι : Type u} {σ : Type v} {α β : Type w}

/-- What a run guarantees: every state that it leaves in storage on the way keeps `inv`, a
returned value meets `Q`, and the state in which it throws meets `threw`. -/
structure Meets (outcome : FaultyOutcome ι σ α) (inv : σ → Prop) (Q : α → σ → Prop)
    (threw : σ → Prop) : Prop where
  visited : ∀ s ∈ outcome.visited, inv s
  returned : ∀ a, outcome.result = some a → Q a outcome.state
  threw : outcome.result = none → threw outcome.state

namespace Meets

variable {fails : ι → Bool} {s : σ} {inv inv' : σ → Prop} {Q : α → σ → Prop}
  {threw threw' : σ → Prop}

lemma mono {outcome : FaultyOutcome ι σ α} {Q' : α → σ → Prop}
    (h : outcome.Meets inv Q threw) (hinv : ∀ s, inv s → inv' s)
    (hpost : ∀ a s, Q a s → Q' a s) (hthrew : ∀ s, threw s → threw' s) :
    outcome.Meets inv' Q' threw' :=
  ⟨fun s hs => hinv s (h.visited s hs), fun a ha => hpost a _ (h.returned a ha),
    fun hnone => hthrew _ (h.threw hnone)⟩

lemma pure {a : α} (h : Q a s) :
    ((Pure.pure a : FaultyProgram ι σ α) fails s).Meets inv Q threw := by
  refine ⟨?_, ?_, ?_⟩
  · intro s' hs'
    exact absurd hs' List.not_mem_nil
  · intro b hb
    cases hb
    exact h
  · exact fun hnone => nomatch hnone

lemma throw (h : threw s) :
    ((FaultyProgram.throw : FaultyProgram ι σ α) fails s).Meets inv Q threw :=
  ⟨fun _ hs' => absurd hs' List.not_mem_nil, fun _ hsome => (nomatch hsome), fun _ => h⟩

lemma perform {operation : ι} {effect : σ → σ} {Q : Unit → σ → Prop}
    (hthrew : fails operation = true → threw s)
    (hdone : fails operation = false → inv (effect s) ∧ Q () (effect s)) :
    (FaultyProgram.perform operation effect fails s).Meets inv Q threw := by
  cases hfails : fails operation with
  | true =>
    simp only [FaultyProgram.perform, hfails, if_true]
    exact ⟨fun _ hs' => absurd hs' List.not_mem_nil, fun _ hsome => (nomatch hsome),
      fun _ => hthrew hfails⟩
  | false =>
    obtain ⟨hinv, hpost⟩ := hdone hfails
    simp only [FaultyProgram.perform, hfails, Bool.false_eq_true, if_false]
    refine ⟨fun s' hs' => ?_, fun a _ => hpost, fun hnone => (nomatch hnone)⟩
    rw [List.mem_singleton.mp hs']
    exact hinv

lemma read {operation : ι} {value : σ → α} (hthrew : fails operation = true → threw s)
    (hdone : fails operation = false → Q (value s) s) :
    (FaultyProgram.read operation value fails s).Meets inv Q threw := by
  cases hfails : fails operation with
  | true =>
    simp only [FaultyProgram.read, hfails, if_true]
    exact ⟨fun _ hs' => absurd hs' List.not_mem_nil, fun _ hsome => (nomatch hsome),
      fun _ => hthrew hfails⟩
  | false =>
    simp only [FaultyProgram.read, hfails, Bool.false_eq_true, if_false]
    refine ⟨fun _ hs' => absurd hs' List.not_mem_nil, fun a ha => ?_, fun hnone => (nomatch hnone)⟩
    cases ha
    exact hdone hfails

lemma inMemory {step : σ → α × σ} (h : Q (step s).1 (step s).2) :
    ((FaultyProgram.inMemory step : FaultyProgram ι σ α) fails s).Meets inv Q threw := by
  refine ⟨fun _ hs' => absurd hs' List.not_mem_nil, fun a ha => ?_, fun hnone => (nomatch hnone)⟩
  cases ha
  exact h

lemma final {outcome : FaultyOutcome ι σ α} {P : σ → Prop}
    (h : outcome.Meets inv (fun _ => P) P) : P outcome.state := by
  cases hresult : outcome.result with
  | none => exact h.threw hresult
  | some a => exact h.returned a hresult

variable {p : FaultyProgram ι σ α}

lemma bind {q : α → FaultyProgram ι σ β} {R : α → σ → Prop}
    {Q : β → σ → Prop} (hp : (p fails s).Meets inv R threw)
    (hq : ∀ a s', R a s' → (q a fails s').Meets inv Q threw) :
    ((p >>= q) fails s).Meets inv Q threw := by
  change (p.bind q fails s).Meets inv Q threw
  cases hresult : (p fails s).result with
  | none =>
    simp only [FaultyProgram.bind, hresult]
    exact ⟨hp.visited, fun _ hsome => (nomatch hsome), fun _ => hp.threw hresult⟩
  | some a =>
    simp only [FaultyProgram.bind, hresult]
    have hsecond := hq a _ (hp.returned a hresult)
    refine ⟨?_, hsecond.returned, hsecond.threw⟩
    intro s' hs'
    rcases List.mem_append.mp hs' with hs' | hs'
    · exact hp.visited s' hs'
    · exact hsecond.visited s' hs'

lemma map {f : α → β} {Q : β → σ → Prop} (h : (p fails s).Meets inv (fun a => Q (f a)) threw) :
    ((f <$> p) fails s).Meets inv Q threw :=
  bind h fun _ _ hpost => pure hpost

lemma tryCatch {handler : List ι → FaultyProgram ι σ α}
    {E : σ → Prop} (hp : (p fails s).Meets inv Q E)
    (hhandler : ∀ attempted s', E s' → (handler attempted fails s').Meets inv Q threw) :
    (FaultyProgram.tryCatch p handler fails s).Meets inv Q threw := by
  cases hresult : (p fails s).result with
  | some a =>
    simp only [FaultyProgram.tryCatch, hresult]
    exact ⟨hp.visited, fun b hb => hp.returned b (hresult.trans hb), fun hnone => (nomatch hnone)⟩
  | none =>
    simp only [FaultyProgram.tryCatch, hresult]
    have hsecond := hhandler (p fails s).attempted _ (hp.threw hresult)
    refine ⟨?_, hsecond.returned, hsecond.threw⟩
    intro s' hs'
    rcases List.mem_append.mp hs' with hs' | hs'
    · exact hp.visited s' hs'
    · exact hsecond.visited s' hs'

lemma forIndex {body : ℕ → FaultyProgram ι σ Unit} {L : ℕ → σ → Prop} (n : ℕ) (hinit : L 0 s)
    (hbody : ∀ index s', index < n → L index s' →
      (body index fails s').Meets inv (fun _ => L (index + 1)) threw) :
    (FaultyProgram.forIndex n body fails s).Meets inv (fun _ => L n) threw := by
  induction n with
  | zero => exact pure hinit
  | succ n ih =>
    refine bind (ih fun index s' hindex => hbody index s' (Nat.lt_succ_of_lt hindex)) ?_
    exact fun _ s' hloop => hbody n s' (Nat.lt_succ_self n) hloop

lemma forEach {items : List β} {body : β → FaultyProgram ι σ Unit}
    {L : List β → σ → Prop} (hinit : L items s)
    (hbody : ∀ item rest s', item :: rest <:+ items → L (item :: rest) s' →
      (body item fails s').Meets inv (fun _ => L rest) threw) :
    (FaultyProgram.forEach items body fails s).Meets inv (fun _ => L []) threw := by
  induction items generalizing s with
  | nil => exact pure hinit
  | cons item items ih =>
    refine bind (hbody item items s List.suffix_rfl hinit) ?_
    intro _ s' hloop
    refine ih hloop fun item' rest s'' hsuffix => ?_
    exact hbody item' rest s'' (hsuffix.trans (List.suffix_cons _ _))

end Meets

end FaultyOutcome
