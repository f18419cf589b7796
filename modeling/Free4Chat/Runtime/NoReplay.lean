import Free4Chat.Runtime.FrozenIntervals
import Free4Chat.Runtime.Scheduling

/-!
# What Was Consumed Is Not Told Again

Every delivery that the Harness acknowledged covers the interval `(after, target]` that its context
froze. The intervals of the deliveries of a scope have no event in common, and what lies at or below
the watermark of its ledger was in exactly one of them, also when instructions are steered and
consumed out of their order.

The source breaks this where a turn that failed for good is settled: its delivery is recorded, and
then `ackPendingFor` removes the record again, while an earlier instruction still waits. The next
context then starts below what was consumed.

* `NoReplay`: the intervals of the deliveries of a scope.
* `RuntimeRun.keepsIntervals`: a step keeps to instructions that wait, and removes none that the
  Harness got.
* `FrozenHeld`: what the goroutines know of the intervals that they deliver.
* `noReplay_of_keepsIntervals`: the property, over every run.
* `not_noReplay_failed`: a run in which a consumed event is told again.
-/

namespace Free4Chat

/-! ## The property -/

/-- Whether the Runtime stops. -/
def RuntimeStep.stops : RuntimeStep → Bool
  | .stop => true
  | _ => false

/-- The delivery that is acknowledged, if any. -/
def HarnessEvent.delivery? : HarnessEvent → Option Delivery
  | .acknowledged delivery => some delivery
  | .dispatched .. => none

/-- Whether the interval of a delivery contains a sequence of a scope. -/
def Delivery.covers (delivery : Delivery) (scope : String) (n : ℕ) : Bool :=
  decide (delivery.scope = scope ∧ delivery.context.after < n ∧ n ≤ delivery.target)

namespace RuntimeRun

variable (s : RuntimeRun)

/-- The deliveries that the Harness acknowledged, in their order. -/
def deliveries : List Delivery := s.history.filterMap HarnessEvent.delivery?

/-- Instructions of a scope were given up, or their failure was published. -/
def Lost (scope : String) : Prop :=
  ∃ target, (scope, target) ∈ s.quarantined ∨ (scope, target) ∈ s.settled

end RuntimeRun

/-- The deliveries of a scope have disjoint intervals and no event in common, and everything that
the watermark of its ledger passed was in exactly one of them, unless instructions were lost. What
lies at or below the floor of a session of the Harness is not told in it. -/
structure NoReplay (s : RuntimeRun) : Prop where
  disjoint : s.deliveries.Pairwise fun earlier later => earlier.scope = later.scope →
    earlier.target ≤ later.context.after ∨ later.target ≤ earlier.context.after
  once : s.deliveries.Pairwise fun earlier later => earlier.scope = later.scope →
    ∀ event ∈ earlier.context.events, ∀ again ∈ later.context.events,
      event.sequence ≠ again.sequence
  covered : ∀ scope session, s.runtime.sessionRef? scope = some session → ¬s.Lost scope →
    ∀ n, session.roomDeliveryFloor < n → n ≤ session.deliveredThrough →
      s.deliveries.countP (·.covers scope n) = 1

namespace RuntimeRun

variable (s : RuntimeRun)

/-- The instruction that a step hands to the running turn of its scope. -/
def steeredBy? : RuntimeStep → Option (String × ℕ)
  | .steering index .reach =>
    s.steers[index]?.bind fun steer =>
      match steer.phase with
      | .prepared _ => some (steer.scope, steer.instruction)
      | _ => none
  | _ => none

/-- Whether an instruction still waits, and no steer was just confirmed with it. -/
def isFresh (scope : String) (target : ℕ) : Bool :=
  s.runtime.pendingUndelivered scope target &&
    !(s.steers.any fun steer =>
      steer.scope = scope && steer.instruction = target && steer.phase = .reached)

/-- Whether the Harness consumed an instruction, or a turn of it has not returned yet. -/
def reachesHarness (scope : String) (target : ℕ) : Bool :=
  (s.deliveries.any fun delivery => delivery.scope = scope && delivery.target = target) ||
    s.turns.any fun turn => turn.scope = scope && turn.target = target && !turn.phase.settles

/-- Whether a step removes an instruction that waits, although it reaches the Harness. -/
def removesReached (step : RuntimeStep) : Bool :=
  (s.removedBy? step).any fun removed =>
    ((s.runtime.sessionRef? removed.1).any fun session =>
        decide (removed.2 ∈ session.pendingAddressed)) &&
      s.reachesHarness removed.1 removed.2

/-- A step starts and steers only what is fresh, looks contexts up only while they are held, and
removes no instruction that reaches the Harness. The Runtime does not stop. -/
def keepsIntervals (step : RuntimeStep) : Bool :=
  s.startsFresh step && s.contextsHeld step && !s.removesReached step &&
    ((s.steeredBy? step).all fun steered => s.isFresh steered.1 steered.2) && !step.stops

end RuntimeRun

/-! ## What the goroutines hold of an interval -/

/-- A turn works with an interval that begins at a sequence. -/
def TurnPhase.Freezes : TurnPhase → ℕ → Prop
  | .adopting after, n | .reading _ after, n => after = n
  | .rendered _ context, n | .running _ context, n => context.after = n
  | .settling todo, n => .recover n ∈ todo
  | _, _ => False

/-- The context that a turn delivers. -/
def TurnPhase.context? : TurnPhase → Option FrozenContext
  | .rendered _ context | .running _ context => some context
  | _ => none

/-- A steer works with an interval that begins at a sequence. -/
def SteerPhase.Freezes : SteerPhase → ℕ → Prop
  | .reading after, n => after = n
  | .prepared context, n => context.after = n
  | _, _ => False

namespace RuntimeRun

variable {s s' : RuntimeRun} {step : RuntimeStep} {scope : String} {target after : ℕ}
  {context : FrozenContext}

/-- A goroutine works with the interval of an instruction that begins at a sequence. -/
def Freezes (s : RuntimeRun) (scope : String) (target after : ℕ) : Prop :=
  (∃ turn ∈ s.turns, turn.scope = scope ∧ turn.target = target ∧ turn.phase.Freezes after) ∨
    (∃ steer ∈ s.steers, steer.scope = scope ∧ steer.instruction = target ∧
      steer.phase.Freezes after) ∨
    ∃ settler ∈ s.settlers, settler.scope = scope ∧ settler.targets.head? = some target ∧
      settler.phase = .reading after

/-- A goroutine is about to deliver a context. -/
def Renders (s : RuntimeRun) (scope : String) (target : ℕ) (context : FrozenContext) : Prop :=
  (∃ turn ∈ s.turns, turn.scope = scope ∧ turn.target = target ∧
      turn.phase.context? = some context) ∨
    ∃ steer ∈ s.steers, steer.scope = scope ∧ steer.instruction = target ∧
      steer.phase = .prepared context

lemma Renders.freezes (h : s.Renders scope target context) :
    s.Freezes scope target context.after := by
  rcases h with ⟨turn, hmem, hscope, htarget, hphase⟩ | ⟨steer, hmem, hscope, htarget, hphase⟩
  · refine Or.inl ⟨turn, hmem, hscope, htarget, ?_⟩
    cases hturn : turn.phase with
    | rendered generation rendered | running generation rendered =>
      rw [hturn] at hphase
      obtain rfl := Option.some.inj hphase
      rfl
    | admitting | adopting | observing | freezing | reading | settling =>
      rw [hturn] at hphase
      cases hphase
  · refine Or.inr (Or.inl ⟨steer, hmem, hscope, htarget, ?_⟩)
    rw [hphase, SteerPhase.Freezes]

variable {history : Option (List RoomEvent)}

lemma recovered?_eq (h : s.runtime.recovered? scope target after history = some context) :
    context.after = after ∧
      ∀ event ∈ context.events, after < event.sequence ∧ event.sequence ≤ target := by
  rw [ResidentRuntime.recovered?] at h
  obtain ⟨events, -, h⟩ := Option.bind_eq_some_iff.mp h
  obtain ⟨session, -, h⟩ := Option.bind_eq_some_iff.mp h
  split at h
  · cases h
  · obtain rfl := Option.some.inj h
    exact ⟨rfl, fun _ => LogicalSession.mem_eventsForScope⟩

variable {turn : TurnRun}

lemma mem_settleTurn_cases {todo : List Settlement} {settlement next : Settlement}
    (h : next ∈ (s.settleTurn turn todo history settlement).2) :
    next ∈ todo ∨ next = .checkPending ∨ next = .quarantine false ∨
      (settlement = .lookUp ∧ ∃ context,
        s.runtime.contextFor? turn.scope turn.target = some context ∧
          next = .recover context.after) := by
  cases settlement with
  | lookUp =>
    rw [settleTurn] at h
    split at h
    · exact Or.inl h
    next context hcontext =>
      dsimp only at h
      split at h
      · rcases List.mem_cons.mp h with rfl | hmem
        · exact Or.inr (Or.inr (Or.inr ⟨rfl, context, hcontext, rfl⟩))
        · exact Or.inl hmem
      · exact Or.inl h
  | recover start | quarantine controlUnavailable =>
    rw [settleTurn] at h
    split at h <;> exact Or.inl h
  | checkStopped =>
    rw [settleTurn] at h
    dsimp only at h
    split at h
    · exact absurd h List.not_mem_nil
    · exact Or.inl h
  | scheduleRetry =>
    rw [settleTurn] at h
    dsimp only at h
    split at h
    · rcases List.mem_cons.mp h with rfl | hmem
      · exact Or.inr (Or.inl rfl)
      · exact Or.inl hmem
    · exact Or.inl h
  | checkPending =>
    rw [settleTurn] at h
    dsimp only at h
    split at h
    · rcases List.mem_cons.mp h with rfl | hmem
      · exact Or.inr (Or.inr (Or.inl rfl))
      · exact Or.inl hmem
    · exact Or.inl h
  | acknowledge _ _ | clearRetry | failInPass | closeRecovery | ackPending => exact Or.inl h

lemma mem_failureSettlement {failure : TurnFailure} {settlement : Settlement}
    (h : settlement ∈ failure.settlement) :
    (∀ start, settlement ≠ .recover start) ∧ ∀ through generation,
      settlement ≠ .acknowledge through generation := by
  unfold TurnFailure.settlement at h
  split_ifs at h
  all_goals
    simp only [List.mem_cons, List.not_mem_nil, or_false] at h
    rcases h with rfl | rfl | rfl <;> exact ⟨nofun, nofun⟩

lemma mem_afterReturn {generation : ℕ} {outcome : TurnOutcome}
    {settlement : Settlement} (h : settlement ∈ s.afterReturn turn generation context outcome) :
    (∀ start, settlement ≠ .recover start) ∧ ∀ through generation',
      settlement = .acknowledge through generation' → through = context.through := by
  unfold afterReturn at h
  split at h
  · exact absurd h List.not_mem_nil
  unfold TurnOutcome.settlement at h
  split at h
  · exact absurd h List.not_mem_nil
  next =>
    simp only [List.mem_cons, List.not_mem_nil, or_false] at h
    rcases h with rfl | rfl | rfl
    · exact ⟨nofun, nofun⟩
    · exact ⟨nofun, fun _ _ hsame => (Settlement.acknowledge.inj hsame).1.symm⟩
    · exact ⟨nofun, nofun⟩
  next =>
    simp only [List.mem_cons, List.not_mem_nil, or_false] at h
    rcases h with rfl | rfl | rfl | rfl
    · exact ⟨nofun, fun _ _ hsame => (Settlement.acknowledge.inj hsame).1.symm⟩
    all_goals exact ⟨nofun, nofun⟩
  next =>
    exact ⟨(mem_failureSettlement h).1, fun through generation hsame =>
      absurd hsame ((mem_failureSettlement h).2 through generation)⟩
  next =>
    simp only [List.mem_cons, List.not_mem_nil, or_false] at h
    rcases h with rfl | rfl | rfl
    · exact ⟨nofun, nofun⟩
    · exact ⟨nofun, fun _ _ hsame => (Settlement.acknowledge.inj hsame).1.symm⟩
    · exact ⟨nofun, nofun⟩

lemma freezes_of_turnAdvance {index : ℕ} {turnStep : TurnStep}
    {phase : TurnPhase} (hturn : s.turns[index]? = some turn)
    (hadvance : TurnAdvance s turn turnStep phase) (h : phase.Freezes after) :
    turn.phase.Freezes after ∨ ∃ context,
      s.contextReadBy? (.turn index turnStep) = some (turn.scope, turn.target) ∧
        s.runtime.contextFor? turn.scope turn.target = some context ∧ context.after = after := by
  cases hadvance with
  | admits | admitted | observed => exact h.elim
  | @adopts context hphase hscope hcontext | @reads generation context hphase hcontext
    | @found generation context hphase hcontext =>
    refine Or.inr ⟨context, ?_, hcontext, h⟩
    rw [contextReadBy?, hturn, Option.bind_some]
    simp only [hphase]
  | @recovered generation start history context hphase hcontext =>
    refine Or.inl ?_
    rw [hphase]
    exact (recovered?_eq hcontext).1.symm.trans h
  | dispatched hphase =>
    rw [hphase]
    exact Or.inl h
  | refused => exact absurd rfl ((mem_failureSettlement h).1 after)
  | returned => exact absurd rfl ((mem_afterReturn h).1 after)
  | unavailable | unsent =>
    rw [TurnPhase.Freezes] at h
    simp at h
  | @settles settlement todo history hphase =>
    rcases mem_settleTurn_cases h with hmem | hmem | hmem | ⟨rfl, context, hcontext, hsame⟩
    · rw [hphase]
      exact Or.inl (List.mem_cons_of_mem _ hmem)
    · cases hmem
    · cases hmem
    · refine Or.inr ⟨context, ?_, hcontext, (Settlement.recover.inj hsame).symm⟩
      rw [contextReadBy?, hturn, Option.bind_some]
      simp only [hphase]

/-- A goroutine works with an interval that it worked with before, or that it has just read. -/
lemma freezes_of_next (houtcome : StepOutcome s step s') (h : s'.Freezes scope target after) :
    s.Freezes scope target after ∨ ∃ context, s.contextReadBy? step = some (scope, target) ∧
      s.runtime.contextFor? scope target = some context ∧ context.after = after := by
  rcases h with ⟨turn, hmem, hscope, htarget, hphase⟩ | ⟨steer, hmem, hscope, htarget, hphase⟩ |
    ⟨settler, hmem, hscope, htargets, hphase⟩
  · rcases houtcome.turns.mem_cases hmem with hturn | hnew |
      ⟨index, moved, turnStep, phase, hstep, hmoved, hadvance, rfl⟩
    · exact Or.inl (Or.inl ⟨turn, hturn, hscope, htarget, hphase⟩)
    · rw [hnew] at hphase
      exact hphase.elim
    · rcases freezes_of_turnAdvance hmoved hadvance hphase with hbefore | hread
      · exact Or.inl (Or.inl ⟨moved, List.mem_of_getElem? hmoved, hscope, htarget, hbefore⟩)
      · rw [hstep, ← hscope, ← htarget]
        exact Or.inr hread
  · rcases houtcome.steers.mem_cases hmem with hsteer | hnew |
      ⟨index, moved, steerStep, phase, hstep, hmoved, hadvance, rfl⟩
    · exact Or.inl (Or.inr (Or.inl ⟨steer, hsteer, hscope, htarget, hphase⟩))
    · rw [hnew] at hphase
      exact hphase.elim
    · cases hadvance with
      | @reads context hmarked hcontext | @found context hmarked hcontext =>
        refine Or.inr ⟨context, ?_, ?_, hphase⟩
        · rw [hstep, contextReadBy?, hmoved, Option.bind_some, ← hscope, ← htarget]
          simp only [hmarked]
        · rw [← hscope, ← htarget]
          exact hcontext
      | @recovered start history context hreading hcontext =>
        refine Or.inl (Or.inr (Or.inl ⟨moved, List.mem_of_getElem? hmoved, hscope, htarget, ?_⟩))
        rw [hreading]
        exact (recovered?_eq hcontext).1.symm.trans hphase
      | reached => exact hphase.elim
  · have hold : settler ∈ s.settlers → s.Freezes scope target after := fun hsettler =>
      Or.inr (Or.inr ⟨settler, hsettler, hscope, htargets, hphase⟩)
    cases houtcome.settlers with
    | kept hsettlers => exact Or.inl (hold (hsettlers ▸ hmem))
    | ended hsettlers => exact Or.inl (hold (List.mem_of_mem_eraseIdx (hsettlers ▸ hmem)))
    | started _ _ hsettlers =>
      rw [hsettlers, List.mem_append, List.mem_singleton] at hmem
      refine Or.inl (hmem.elim hold fun hnew => ?_)
      rw [hnew] at hphase
      cases hphase
    | advanced hstep hmoved hsettlers hsame hacking hreading =>
      rw [hsettlers] at hmem
      rcases List.mem_or_eq_of_mem_set hmem with hmem | hmem
      · exact Or.inl (hold hmem)
      · subst hmem
        obtain ⟨head, targets, context, hhead, hread, hcontext, hstart⟩ := hreading after hphase
        rw [hhead, List.head?_cons] at htargets
        obtain rfl := Option.some.inj htargets
        rw [← hsame, hscope] at hread hcontext
        exact Or.inr ⟨context, hread, hcontext, hstart.symm⟩

/-- A goroutine delivers a context that it rendered before, or that it has just read. -/
lemma renders_of_next (houtcome : StepOutcome s step s') (h : s'.Renders scope target context) :
    s.Renders scope target context ∨
      (s.contextReadBy? step = some (scope, target) ∧
        s.runtime.contextFor? scope target = some context) ∨
      ∀ event ∈ context.events, context.after < event.sequence ∧ event.sequence ≤ target := by
  rcases h with ⟨turn, hmem, hscope, htarget, hphase⟩ | ⟨steer, hmem, hscope, htarget, hphase⟩
  · rcases houtcome.turns.mem_cases hmem with hturn | hnew |
      ⟨index, moved, turnStep, phase, hstep, hmoved, hadvance, rfl⟩
    · exact Or.inl (Or.inl ⟨turn, hturn, hscope, htarget, hphase⟩)
    · rw [hnew] at hphase
      cases hphase
    · subst hscope htarget
      cases hadvance with
      | admits | admitted | observed | adopts | refused | reads | unavailable | unsent | returned
        | settles => cases hphase
      | found hfreezing hcontext =>
        obtain rfl := Option.some.inj hphase
        refine Or.inr (Or.inl ⟨?_, hcontext⟩)
        rw [hstep, contextReadBy?, hmoved, Option.bind_some]
        simp only [hfreezing]
      | recovered hreading hcontext =>
        obtain rfl := Option.some.inj hphase
        obtain ⟨hafter, hevents⟩ := recovered?_eq hcontext
        rw [hafter]
        exact Or.inr (Or.inr hevents)
      | dispatched hrendered =>
        refine Or.inl (Or.inl ⟨moved, List.mem_of_getElem? hmoved, rfl, rfl, ?_⟩)
        rw [hrendered]
        exact hphase
  · rcases houtcome.steers.mem_cases hmem with hsteer | hnew |
      ⟨index, moved, steerStep, phase, hstep, hmoved, hadvance, rfl⟩
    · exact Or.inl (Or.inr ⟨steer, hsteer, hscope, htarget, hphase⟩)
    · rw [hnew] at hphase
      cases hphase
    · subst hscope htarget
      cases hadvance with
      | reads | reached => cases hphase
      | found hmarked hcontext =>
        obtain rfl := SteerPhase.prepared.inj hphase
        refine Or.inr (Or.inl ⟨?_, hcontext⟩)
        rw [hstep, contextReadBy?, hmoved, Option.bind_some]
        simp only [hmarked]
      | recovered hreading hcontext =>
        obtain rfl := SteerPhase.prepared.inj hphase
        obtain ⟨hafter, hevents⟩ := recovered?_eq hcontext
        rw [hafter]
        exact Or.inr (Or.inr hevents)

lemma freezes_of_contextRecoveredBy (h : s.contextRecoveredBy? step = some (scope, target, after)) :
    s.Freezes scope target after := by
  unfold contextRecoveredBy? at h
  split at h
  next index turnStep =>
    obtain ⟨turn, hturn, hrecovers⟩ := Option.bind_eq_some_iff.mp h
    have hfreezes : turn.scope = scope ∧ turn.target = target ∧ turn.phase.Freezes after := by
      split at hrecovers
      next hphase =>
        cases hrecovers
        rw [hphase]
        exact ⟨rfl, rfl, rfl⟩
      next hphase =>
        cases hrecovers
        rw [hphase]
        exact ⟨rfl, rfl, rfl⟩
      next hphase =>
        cases hrecovers
        rw [hphase]
        exact ⟨rfl, rfl, List.mem_cons_self⟩
      next => cases hrecovers
    exact Or.inl ⟨turn, List.mem_of_getElem? hturn, hfreezes⟩
  next index history =>
    obtain ⟨steer, hsteer, h⟩ := Option.bind_eq_some_iff.mp h
    split at h
    next start hphase =>
      cases h
      refine Or.inr (Or.inl ⟨steer, List.mem_of_getElem? hsteer, rfl, rfl, ?_⟩)
      rw [hphase, SteerPhase.Freezes]
    next => cases h
  next index history =>
    obtain ⟨settler, hsettler, h⟩ := Option.bind_eq_some_iff.mp h
    split at h
    next head targets start htargets hphase =>
      cases h
      refine Or.inr (Or.inr ⟨settler, List.mem_of_getElem? hsettler, rfl, ?_, hphase⟩)
      rw [htargets, List.head?_cons]
    next => cases h
  next => cases h

end RuntimeRun

lemma FrozenContext.through_le {context : FrozenContext} {target : ℕ}
    (h : ∀ event ∈ context.events, event.sequence ≤ target) : context.through ≤ target := by
  refine Nat.lt_succ_iff.mp (foldl_max_lt_iff.mpr ⟨Nat.succ_pos _, fun sequence hmem => ?_⟩)
  obtain ⟨event, hevent, rfl⟩ := List.mem_map.mp hmem
  exact Nat.lt_succ_of_le (h event hevent)

/-! ## Deliveries -/

namespace RuntimeRun

variable {wireLength : RoomEvent → ℕ} {s s' : RuntimeRun} {step : RuntimeStep} {scope : String}
  {target after : ℕ}

/-- The Harness consumed an instruction whose interval begins at a sequence. -/
def Consumed (s : RuntimeRun) (scope : String) (target after : ℕ) : Prop :=
  ∃ delivery ∈ s.deliveries, delivery.scope = scope ∧ delivery.target = target ∧
    delivery.context.after = after

lemma mem_deliveries {delivery : Delivery} :
    delivery ∈ s.deliveries ↔ HarnessEvent.acknowledged delivery ∈ s.history := by
  rw [deliveries, List.mem_filterMap]
  constructor
  · rintro ⟨event, hmem, hdelivery⟩
    cases event with
    | dispatched => cases hdelivery
    | acknowledged other =>
      obtain rfl := Option.some.inj hdelivery
      exact hmem
  · exact fun hmem => ⟨_, hmem, rfl⟩

lemma acknowledged_iff_consumed :
    s.Acknowledged scope target ↔ ∃ after, s.Consumed scope target after := by
  constructor
  · rintro ⟨delivery, hmem, hscope, htarget⟩
    exact ⟨_, delivery, mem_deliveries.mpr hmem, hscope, htarget, rfl⟩
  · rintro ⟨after, delivery, hmem, hscope, htarget, -⟩
    exact ⟨delivery, mem_deliveries.mp hmem, hscope, htarget⟩

section

variable (h : Recorded s s' step)
include h

lemma deliveries_of_recorded :
    s'.deliveries = s.deliveries ++ (s.harnessEventsBy step).filterMap HarnessEvent.delivery? := by
  rw [deliveries, h.history, List.filterMap_append]
  rfl

lemma mem_deliveries_cases {delivery : Delivery} (hmem : delivery ∈ s'.deliveries) :
    delivery ∈ s.deliveries ∨ HarnessEvent.acknowledged delivery ∈ s.harnessEventsBy step := by
  rw [mem_deliveries, h.history, List.mem_append] at hmem
  exact hmem.imp mem_deliveries.mpr id

lemma Consumed.mono (hconsumed : s.Consumed scope target after) :
    s'.Consumed scope target after := by
  obtain ⟨delivery, hmem, hsame⟩ := hconsumed
  refine ⟨delivery, ?_, hsame⟩
  rw [deliveries_of_recorded h]
  exact List.mem_append_left _ hmem

lemma Lost.mono (hlost : s.Lost scope) : s'.Lost scope := by
  obtain ⟨target, hmem⟩ := hlost
  refine ⟨target, hmem.imp (fun hmem => ?_) fun hmem => ?_⟩
  · rw [h.quarantined]
    exact List.mem_append_left _ hmem
  · rw [h.settled]
    exact List.mem_append_left _ hmem

end

lemma Holds.of_next (hholds : s.Holds scope target) (hledger : LedgerInvariant s)
    (hnext : s.next? wireLength step = some s') (hunconsumed : ¬s.Acknowledged scope target)
    (hremoved : s.removedBy? step ≠ some (scope, target))
    (hquarantined : s.quarantinedBy? step ≠ some scope) (hrunning : step ≠ .stop) :
    s'.Holds scope target := by
  obtain ⟨session, hsession, hmem⟩ := hholds
  have hconsistent := hledger.ledger.consistent scope session hsession
  have hchange := ledgerChange_of_next hnext scope
  rw [hsession] at hchange
  rcases hchange.leaves hmem fun sequence => (hconsistent.contexts sequence).mpr with
    hholds | hmark | hacknowledged | hremoves | hquarantines | ⟨hstep, -⟩
  · exact hholds
  · exact absurd (hledger.backed.marks scope session target hsession hmark) hunconsumed
  · exact absurd (hledger.backed.acknowledged hacknowledged) hunconsumed
  · exact absurd hremoves hremoved
  · exact absurd hquarantines hquarantined
  · exact absurd hstep hrunning

lemma settles_of_quarantinedBy (h : s.quarantinedBy? step = some scope) :
    ∃ turn ∈ s.turns, turn.scope = scope ∧ turn.phase.settles = true := by
  unfold quarantinedBy? at h
  split at h
  next index history =>
    obtain ⟨turn, hturn, hsettles⟩ := Option.bind_eq_some_iff.mp h
    split at hsettles
    next controlUnavailable todo hphase =>
      refine ⟨turn, List.mem_of_getElem? hturn, Option.some.inj hsettles, ?_⟩
      rw [hphase, TurnPhase.settles]
    next => cases hsettles
  next => cases h

/-- A scope that is admitted is not remembered as given back any more. -/
lemma released_of_admitted (hnext : s.next? wireLength step = some s')
    (hbefore : s.runtime.sessionRef? scope = none) {session : LogicalSession}
    (hafter : s'.runtime.sessionRef? scope = some session) :
    s'.runtime.releasedTaskScopes.get? scope = none := by
  have hadmitted : ∃ event events cursor, step = .reader .handle ∧
      s.reader = some { events := event :: events, cursor } ∧ scopeForRoomEvent event = scope := by
    have hchange := hafter ▸ ledgerChange_of_next hnext scope
    generalize hbefore' : s.runtime.sessionRef? scope = before at hchange
    cases hchange with
    | admitted hstep hreader hscope => exact ⟨_, _, _, hstep, hreader, hscope⟩
    | _ => cases hbefore.symm.trans hbefore'
  obtain ⟨event, events, cursor, rfl, hreader, rfl⟩ := hadmitted
  obtain ⟨after, heffect, rfl⟩ := RuntimeRun.exists_effect hnext
  rw [effect?, readerNext?, hreader] at heffect
  dsimp only at heffect hafter ⊢
  split at heffect
  · obtain rfl := Option.some.inj heffect
    rw [hbefore] at hafter
    cases hafter
  obtain rfl := Option.some.inj heffect
  dsimp only at hafter ⊢
  unfold ResidentRuntime.acceptEvent at hafter ⊢
  split
  next hstopped =>
    rw [if_pos hstopped, hbefore] at hafter
    cases hafter
  next hstopped =>
    rw [if_neg hstopped] at hafter
    dsimp only at hafter ⊢
    cases hensured : s.runtime.ensureSession? (scopeForRoomEvent event) event with
    | none =>
      rw [hensured] at hafter
      dsimp only at hafter
      rw [hbefore] at hafter
      cases hafter
    | some admitted =>
      obtain ⟨session, admitted⟩ := admitted
      have herased : admitted.releasedTaskScopes.get? (scopeForRoomEvent event) = none := by
        rw [ResidentRuntime.ensureSession?, hbefore] at hensured
        split at hensured
        · cases hensured
        · dsimp only at hensured
          split at hensured
          · cases hensured
          · obtain ⟨-, rfl⟩ := Prod.mk.inj (Option.some.inj hensured)
            dsimp only
            rw [KeyedMap.get?_erase, if_pos rfl]
      dsimp only
      cases hkept : ResidentRuntime.releasedTaskScopes _ |>.get? _ with
      | none => rfl
      | some released =>
        split at hkept
        · have hset := (ResidentRuntime.Keeps.reopen event).released _ _ hkept
          rw [← herased, (ResidentRuntime.Keeps.setSession _).released _ _ hset]
        · rw [← herased, (ResidentRuntime.Keeps.setSession _).released _ _ hkept]

lemma sessionRef?_of_reclaim {retained : Bool}
    (hnext : s.next? wireLength (.reclaim scope retained) = some s') :
    s'.runtime.sessionRef? scope = none := by
  obtain ⟨after, heffect, rfl⟩ := RuntimeRun.exists_effect hnext
  rw [effect?] at heffect
  obtain ⟨hreclaimable, rfl⟩ := Option.of_guarded heffect
  simp only [ResidentRuntime.reclaimableTaskScope, Bool.and_eq_true] at hreclaimable
  obtain ⟨⟨⟨⟨htask, hserved⟩, -⟩, -⟩, -⟩ := hreclaimable
  have hroom : scope ≠ roomScope := by
    rintro rfl
    exact absurd htask (by decide)
  obtain ⟨entry, hentry, -⟩ := (Option.any_eq_true _ _).mp hserved
  have herased : (s.runtime.releaseTerminalTaskScope scope retained).scopedSessions =
      s.runtime.scopedSessions.erase scope := by
    rw [ResidentRuntime.releaseTerminalTaskScope, hentry, Option.map_some]
    dsimp only
    split <;> rfl
  show (s.runtime.releaseTerminalTaskScope scope retained).sessionRef? scope = none
  rw [ResidentRuntime.sessionRef?, if_neg hroom, herased, KeyedMap.get?_erase, if_pos rfl]
  rfl

lemma keepsIntervals_iff : s.keepsIntervals step = true ↔
    s.startsFresh step = true ∧ s.contextsHeld step = true ∧ s.removesReached step = false ∧
      ((s.steeredBy? step).all fun steered => s.isFresh steered.1 steered.2) = true ∧
      step ≠ .stop := by
  rw [keepsIntervals, Bool.and_eq_true, Bool.and_eq_true, Bool.and_eq_true, Bool.and_eq_true,
    Bool.not_eq_true', Bool.not_eq_true', and_assoc, and_assoc, and_assoc]
  have hstops : step.stops = false ↔ step ≠ .stop := by
    cases step <;> simp [RuntimeStep.stops]
  rw [hstops]

lemma waits_of_isFresh (h : s.isFresh scope target = true) :
    s.Waits scope target ∧ ∀ steer ∈ s.steers, steer.scope = scope → steer.instruction = target →
      steer.phase ≠ .reached := by
  rw [isFresh, Bool.and_eq_true, Bool.not_eq_true'] at h
  refine ⟨waits_of_pendingUndelivered h.1, fun steer hmem hscope htarget hreached => ?_⟩
  have hnone := List.any_eq_false.mp h.2 steer hmem
  exact hnone (by simp [hscope, htarget, hreached])

lemma removedBy_ne_of_reaches (hguard : s.removesReached step = false)
    (hholds : s.Holds scope target) (hreaches : s.reachesHarness scope target = true) :
    s.removedBy? step ≠ some (scope, target) := by
  intro hremoved
  obtain ⟨session, hsession, hmem⟩ := hholds
  rw [removesReached, hremoved, Option.any_some, hsession, Option.any_some, hreaches,
    Bool.and_true] at hguard
  exact of_decide_eq_false hguard hmem

lemma harnessEventsBy_of_removedBy (h : s.removedBy? step = some (scope, target)) :
    s.harnessEventsBy step = [] := by
  unfold removedBy? at h
  split at h
  next index history =>
    rw [harnessEventsBy]
    cases s.turns[index]? with
    | none => rfl
    | some turn =>
      rw [Option.elim_some]
      split <;> first | rfl | contradiction
  next => rfl
  next => cases h

lemma reachesHarness_of_acknowledged (h : s.Acknowledged scope target) :
    s.reachesHarness scope target = true := by
  obtain ⟨delivery, hmem, hscope, htarget⟩ := h
  rw [reachesHarness, Bool.or_eq_true]
  refine Or.inl (List.any_eq_true.mpr ⟨delivery, mem_deliveries.mpr hmem, ?_⟩)
  rw [hscope, htarget, decide_eq_true rfl, decide_eq_true rfl, Bool.and_self]

lemma reachesHarness_of_turn {turn : TurnRun} (hmem : turn ∈ s.turns)
    (hphase : turn.phase.settles = false) : s.reachesHarness turn.scope turn.target = true := by
  rw [reachesHarness, Bool.or_eq_true]
  refine Or.inr (List.any_eq_true.mpr ⟨turn, hmem, ?_⟩)
  rw [hphase, decide_eq_true rfl, decide_eq_true rfl]
  rfl

end RuntimeRun

/-! ## The invariant -/

/-- What the ledgers and the goroutines know of the intervals: a turn that has not returned still
waits, every goroutine works with the interval that its ledger froze, and the ledgers tile what
they were asked to deliver, also while they are given back. -/
structure FrozenHeld (s : RuntimeRun) : Prop where
  held : ∀ turn ∈ s.turns, turn.phase.settles = false → s.Holds turn.scope turn.target
  frozen : ∀ scope target after, s.Freezes scope target after → target ≤ s.received ∧
    ∀ session, s.runtime.sessionRef? scope = some session → target ∈ session.pendingAddressed →
      session.afterOf target = after
  rendered : ∀ scope target context, s.Renders scope target context →
    ∀ event ∈ context.events, context.after < event.sequence ∧ event.sequence ≤ target
  acknowledges : ∀ turn ∈ s.turns, ∀ todo through generation, turn.phase = .settling todo →
    .acknowledge through generation ∈ todo → through ≤ turn.target
  tiles : ∀ scope session, s.runtime.sessionRef? scope = some session →
    ∃ start, session.Tiles (s.Consumed scope) (s.Lost scope) start
  released : ∀ scope released, s.runtime.sessionRef? scope = none →
    s.runtime.releasedTaskScopes.get? scope = some released →
      ∃ start, (s.runtime.newSession scope).Tiles (s.Consumed scope) (s.Lost scope) start
  apart : ∀ scope session, s.runtime.sessionRef? scope = some session → scope ≠ roomScope →
    s.runtime.releasedTaskScopes.get? scope = none
  delivered : ∀ delivery ∈ s.deliveries, ∀ event ∈ delivery.context.events,
    delivery.context.after < event.sequence ∧ event.sequence ≤ delivery.target
  disjoint : s.deliveries.Pairwise fun earlier later => earlier.scope = later.scope →
    earlier.target ≤ later.context.after ∨ later.target ≤ earlier.context.after

/-- Everything that the property rests on. -/
structure IntervalInvariant (s : RuntimeRun) : Prop where
  ledger : LedgerInvariant s
  scheduling : SchedulingInvariant s
  frozen : FrozenHeld s

namespace IntervalInvariant

variable {wireLength : RoomEvent → ℕ} {s s' : RuntimeRun} {step : RuntimeStep} {scope : String}
  {target after : ℕ} {session : LogicalSession}

section

variable (h : IntervalInvariant s) (hguard : s.keepsIntervals step = true)
include h hguard

lemma delivers
    {delivery : Delivery} (hnew : HarnessEvent.acknowledged delivery ∈ s.harnessEventsBy step) :
    s.Renders delivery.scope delivery.target delivery.context ∧
      s.Holds delivery.scope delivery.target ∧
      ¬s.Acknowledged delivery.scope delivery.target := by
  obtain ⟨-, -, -, hsteers, -⟩ := RuntimeRun.keepsIntervals_iff.mp hguard
  obtain ⟨index, turn, outcome, -, hturn, hphase, hscope, htarget, -⟩ |
    ⟨index, steer, hstep, hsteer, hphase, hexecutes, hscope, htarget⟩ :=
    RuntimeRun.acknowledged_of_harnessEventsBy hnew
  · have hmem := List.mem_of_getElem? hturn
    have hopen : turn.phase.settles = false := by
      rw [hphase]
      rfl
    rw [hscope, htarget]
    refine ⟨Or.inl ⟨turn, hmem, rfl, rfl, ?_⟩, h.frozen.held turn hmem hopen,
      h.scheduling.consumed.unconsumed turn hmem hopen⟩
    rw [hphase]
    rfl
  · -- A steered instruction is fresh, so nothing that was consumed is on its way to the ledger.
    have hsteered : s.steeredBy? step = some (steer.scope, steer.instruction) := by
      rw [hstep, RuntimeRun.steeredBy?, hsteer, Option.bind_some]
      simp only [hphase]
    rw [hsteered, Option.all_some] at hsteers
    obtain ⟨hwaits, hunreached⟩ := RuntimeRun.waits_of_isFresh hsteers
    obtain ⟨running, hrunning, hruns, -, context, hexecuting⟩ :=
      RuntimeRun.exists_of_executesOn? hexecutes
    have hopen : running.phase.settles = false := by
      rw [hexecuting]
      rfl
    rw [hscope, htarget]
    refine ⟨Or.inr ⟨steer, List.mem_of_getElem? hsteer, rfl, rfl, hphase⟩, ?_, ?_⟩
    · obtain ⟨session, hsession, hmem, -⟩ := hwaits
      exact ⟨session, hsession, hmem⟩
    · intro hacknowledged
      rcases h.scheduling.consumed.waiting _ _ hacknowledged hwaits with
        (⟨turn, hturn, hsame, -, todo, _, _, hsettling, -⟩ | ⟨other, hother, hsame, hinstruction,
          hreached⟩) | ⟨-, hsettles⟩
      · have hone := h.scheduling.lanes.eq_of_scope hturn hrunning (hsame.trans hruns.symm)
        rw [hone, hexecuting] at hsettling
        cases hsettling
      · exact hunreached other hother hsame hinstruction hreached
      · rw [hsettles running hrunning hruns] at hopen
        cases hopen

section

variable (hrecorded : Recorded s s' step)
include hrecorded

lemma consumed_cases (hconsumed : s'.Consumed scope target after) :
    s.Consumed scope target after ∨ ∃ session, s.runtime.sessionRef? scope = some session ∧
      target ∈ session.pendingAddressed ∧ session.afterOf target = after := by
  obtain ⟨delivery, hmem, rfl, rfl, rfl⟩ := hconsumed
  rcases RuntimeRun.mem_deliveries_cases hrecorded hmem with hold | hnew
  · exact Or.inl ⟨delivery, hold, rfl, rfl, rfl⟩
  · obtain ⟨hrenders, ⟨session, hsession, hpending⟩, -⟩ := h.delivers hguard hnew
    exact Or.inr ⟨session, hsession, hpending,
      (h.frozen.frozen _ _ _ hrenders.freezes).2 session hsession hpending⟩

lemma consumed_le (hconsumed : s'.Consumed scope target after) : target ≤ s.received := by
  rcases h.consumed_cases hguard hrecorded hconsumed with hold | ⟨session, hsession, hmem, -⟩
  · exact h.scheduling.consumed.known scope target
      (RuntimeRun.acknowledged_iff_consumed.mpr ⟨after, hold⟩)
  · exact (h.ledger.ledger.consistent scope session hsession).received target hmem

lemma tiles_of_recorded (hsession : s.runtime.sessionRef? scope = some session) :
    ∃ start, session.Tiles (s'.Consumed scope) (s.Lost scope) start := by
  obtain ⟨start, htiled⟩ := h.frozen.tiles scope session hsession
  refine ⟨start, htiled.insert (fun _ _ => .mono hrecorded) fun sequence after hconsumed => ?_⟩
  refine (h.consumed_cases hguard hrecorded hconsumed).imp id ?_
  rintro ⟨other, hother, hmem, hafter⟩
  rw [hsession] at hother
  obtain rfl := Option.some.inj hother
  exact ⟨hmem, hafter⟩

lemma tiles_of_released (hnone : s.runtime.sessionRef? scope = none) {released : ReleasedTaskScope}
    (hreleased : s.runtime.releasedTaskScopes.get? scope = some released) :
    ∃ start, (s.runtime.newSession scope).Tiles (s'.Consumed scope) (s.Lost scope) start := by
  obtain ⟨start, htiled⟩ := h.frozen.released scope released hnone hreleased
  refine ⟨start, htiled.insert (fun _ _ => .mono hrecorded) fun sequence after hconsumed => ?_⟩
  refine (h.consumed_cases hguard hrecorded hconsumed).imp id ?_
  rintro ⟨session, hsession, -⟩
  rw [hnone] at hsession
  cases hsession

end

lemma held_of_next
    (hnext : s.next? wireLength step = some s') {turn : TurnRun} (hmem : turn ∈ s'.turns)
    (hphase : turn.phase.settles = false) : s'.Holds turn.scope turn.target := by
  have houtcome := RuntimeRun.outcome_of_next hnext
  obtain ⟨hstarts, -, hremoves, -, hrunning⟩ := RuntimeRun.keepsIntervals_iff.mp hguard
  rcases RuntimeRun.mem_turns_cases houtcome.turns hmem with
    ⟨old, hold, hscope, htarget, hbefore⟩ | ⟨hgranted, scheduler, hstart⟩
  · have hopen := hbefore hphase
    have hholds := h.frozen.held old hold hopen
    rw [← hscope, ← htarget]
    refine hholds.of_next h.ledger hnext (h.scheduling.consumed.unconsumed old hold hopen)
      (RuntimeRun.removedBy_ne_of_reaches hremoves hholds
        (RuntimeRun.reachesHarness_of_turn hold hopen)) (fun hquarantined => ?_) hrunning
    -- The turn that gives the instructions up would be the same one.
    obtain ⟨settled, hsettled, hsame, hsettles⟩ := RuntimeRun.settles_of_quarantinedBy hquarantined
    rw [h.scheduling.lanes.eq_of_scope hsettled hold hsame, hopen] at hsettles
    cases hsettles
  · obtain ⟨hwaits, hunreached, -⟩ := ConsumedHeld.fresh_of_guard hstarts hstart
    have hunconsumed := h.scheduling.consumed.not_acknowledged_of_fresh h.scheduling.lanes hgranted
      hwaits hunreached
    obtain ⟨session, hsession, hpending, -⟩ := hwaits
    have hlaunch : s.removedBy? step = none ∧ s.quarantinedBy? step = none := by
      unfold RuntimeRun.startedBy? at hstart
      split at hstart
      · exact ⟨rfl, rfl⟩
      · cases hstart
    refine RuntimeRun.Holds.of_next ⟨session, hsession, hpending⟩ h.ledger hnext hunconsumed ?_ ?_
      hrunning
    · rw [hlaunch.1]
      exact nofun
    · rw [hlaunch.2]
      exact nofun

lemma contextFor?_eq
    {context : FrozenContext} (hread : s.contextReadBy? step = some (scope, target))
    (hcontext : s.runtime.contextFor? scope target = some context) :
    target ≤ s.received ∧ (∀ session, s.runtime.sessionRef? scope = some session →
        session.afterOf target = context.after) ∧
      ∀ event ∈ context.events, context.after < event.sequence ∧ event.sequence ≤ target := by
  obtain ⟨-, hheld, -⟩ := RuntimeRun.keepsIntervals_iff.mp hguard
  obtain ⟨session, hsession, rfl⟩ := Option.map_eq_some_iff.mp hcontext
  rw [RuntimeRun.contextsHeld, Bool.and_eq_true, hread, Option.all_some, hsession,
    Option.all_some] at hheld
  have hpending : target ∈ session.pendingAddressed := of_decide_eq_true hheld.2
  have hconsistent := h.ledger.ledger.consistent scope session hsession
  have hkey := (hconsistent.contexts target).mpr hpending
  rw [KeyedMap.mem_keys_iff] at hkey
  obtain ⟨stored, hstored⟩ := Option.isSome_iff_exists.mp hkey
  have hfound : session.contextOf scope s.runtime.eventBuffer target = stored := by
    rw [LogicalSession.contextOf, hstored]
    rfl
  rw [hfound]
  refine ⟨hconsistent.received target hpending, fun other hother => ?_, fun event hevent => ?_⟩
  · rw [hsession] at hother
    obtain rfl := Option.some.inj hother
    exact LogicalSession.afterOf_of_get? hstored
  · obtain ⟨start, htiled⟩ := h.frozen.tiles scope session hsession
    have htarget : stored.target = target := KeyedMap.key_of_get? hstored
    rw [← htarget]
    exact htiled.events stored (KeyedMap.mem_of_get? hstored) event hevent

lemma frozen_of_next
    (hnext : s.next? wireLength step = some s') (hfreezes : s'.Freezes scope target after) :
    target ≤ s'.received ∧ ∀ session, s'.runtime.sessionRef? scope = some session →
      target ∈ session.pendingAddressed → session.afterOf target = after := by
  have houtcome := RuntimeRun.outcome_of_next hnext
  have hbefore : target ≤ s.received ∧ ∀ session, s.runtime.sessionRef? scope = some session →
      target ∈ session.pendingAddressed → session.afterOf target = after := by
    rcases RuntimeRun.freezes_of_next houtcome hfreezes with hold | ⟨context, hread, hcontext, rfl⟩
    · exact h.frozen.frozen scope target after hold
    · obtain ⟨hbound, hafter, -⟩ := h.contextFor?_eq hguard hread hcontext
      exact ⟨hbound, fun session hsession _ => hafter session hsession⟩
  refine ⟨hbefore.1.trans (h.ledger.ordered.received_le houtcome.reader),
    fun session' hsession' hmem' => ?_⟩
  have hchange := RuntimeRun.ledgerChange_of_next hnext scope
  rw [hsession'] at hchange
  obtain ⟨session, hsession, hmem⟩ | ⟨event, events, cursor, hstep, hreader, hsame⟩ :=
    hchange.mem_pendingAddressed hmem'
  · rw [hsession] at hchange
    rw [← hbefore.2 session hsession hmem]
    exact hchange.afterOf_eq (h.ledger.ledger.consistent scope session hsession) hmem hmem'
  · -- An instruction that is admitted now was not received before.
    have hnew := (h.ledger.ordered.ahead _ hreader event List.mem_cons_self).1
    have hbound := hbefore.1
    omega

lemma rendered_of_next (hnext : s.next? wireLength step = some s') {context : FrozenContext}
    (hrenders : s'.Renders scope target context) {event : RoomEvent}
    (hevent : event ∈ context.events) :
    context.after < event.sequence ∧ event.sequence ≤ target := by
  rcases RuntimeRun.renders_of_next (RuntimeRun.outcome_of_next hnext) hrenders with
    hold | ⟨hread, hcontext⟩ | hevents
  · exact h.frozen.rendered scope target context hold event hevent
  · exact (h.contextFor?_eq hguard hread hcontext).2.2 event hevent
  · exact hevents event hevent

end

section

variable (h : IntervalInvariant s)
include h

lemma acknowledges_of_next (hnext : s.next? wireLength step = some s')
    {turn : TurnRun} (hmem : turn ∈ s'.turns) {todo : List Settlement} {through generation : ℕ}
    (hphase : turn.phase = .settling todo) (htodo : .acknowledge through generation ∈ todo) :
    through ≤ turn.target := by
  rcases (RuntimeRun.outcome_of_next hnext).turns.mem_cases hmem with hturn | hnew |
    ⟨index, moved, turnStep, phase, hstep, hmoved, hadvance, rfl⟩
  · exact h.frozen.acknowledges turn hturn todo through generation hphase htodo
  · cases hnew.symm.trans hphase
  · have hfound := List.mem_of_getElem? hmoved
    dsimp only at hphase ⊢
    cases hadvance with
    | admits | admitted | observed | adopts | reads | found | recovered | dispatched => cases hphase
    | refused =>
      obtain rfl := TurnPhase.settling.inj hphase
      exact absurd rfl ((RuntimeRun.mem_failureSettlement htodo).2 through generation)
    | unavailable | unsent =>
      obtain rfl := TurnPhase.settling.inj hphase
      simp at htodo
    | @returned generation context outcome hrunning =>
      obtain rfl := TurnPhase.settling.inj hphase
      rw [(RuntimeRun.mem_afterReturn htodo).2 through _ rfl]
      refine context.through_le fun event hevent => ?_
      refine (h.frozen.rendered moved.scope moved.target context
        (Or.inl ⟨moved, hfound, rfl, rfl, ?_⟩) event hevent).2
      rw [hrunning]
      rfl
    | @settles settlement rest history hsettling =>
      obtain rfl := TurnPhase.settling.inj hphase
      rcases RuntimeRun.mem_settleTurn_cases htodo with hrest | hsame | hsame | ⟨-, _, -, hsame⟩
      · exact h.frozen.acknowledges moved hfound _ through generation hsettling
          (List.mem_cons_of_mem _ hrest)
      all_goals cases hsame

lemma acknowledgedThrough_le {through : ℕ}
    (hacknowledged : s.acknowledgedBy? step = some (scope, target))
    (hthrough : s.acknowledgedThrough? step = some through) : through ≤ target := by
  unfold RuntimeRun.acknowledgedBy? at hacknowledged
  split at hacknowledged
  next index history =>
    obtain ⟨turn, hturn, hsettles⟩ := Option.bind_eq_some_iff.mp hacknowledged
    split at hsettles
    next recorded generation todo hphase =>
      obtain ⟨rfl, rfl⟩ := Prod.mk.inj (Option.some.inj hsettles)
      rw [RuntimeRun.acknowledgedThrough?, hturn, Option.bind_some] at hthrough
      simp only [hphase] at hthrough
      obtain rfl := Option.some.inj hthrough
      exact h.frozen.acknowledges turn (List.mem_of_getElem? hturn) _ recorded generation hphase
        List.mem_cons_self
    next => cases hsettles
  next index generation =>
    obtain ⟨steer, hsteer, hrecords⟩ := Option.bind_eq_some_iff.mp hacknowledged
    split at hrecords
    next hphase =>
      obtain ⟨rfl, rfl⟩ := Prod.mk.inj (Option.some.inj hrecords)
      rw [RuntimeRun.acknowledgedThrough?, hsteer, Option.map_some] at hthrough
      exact (Option.some.inj hthrough).ge
    next => cases hrecords
  next => cases hacknowledged

lemma observed_holds (hnext : s.next? wireLength step = some s')
    (hobserved : s.observedBy? step = some (scope, target)) : s.Holds scope target := by
  unfold RuntimeRun.observedBy? at hobserved
  split at hobserved
  next index =>
    obtain ⟨turn, hturn, hsame⟩ := Option.map_eq_some_iff.mp hobserved
    obtain ⟨rfl, rfl⟩ := Prod.mk.inj hsame
    refine h.frozen.held turn (List.mem_of_getElem? hturn) ?_
    rw [RuntimeRun.next?] at hnext
    split at hnext
    · cases hnext
    obtain ⟨after, heffect, -⟩ := Option.map_eq_some_iff.mp hnext
    rw [RuntimeRun.effect?, hturn, Option.bind_some] at heffect
    -- Only a turn that has not asked the Harness yet asks for a session.
    cases hphase : turn.phase with
    | settling =>
      unfold RuntimeRun.turnNext? at heffect
      simp only [hphase] at heffect
      cases heffect
    | _ => rfl
  next => cases hobserved

lemma tiles_of_next (hguard : s.keepsIntervals step = true)
    (hnext : s.next? wireLength step = some s')
    (hsession : s'.runtime.sessionRef? scope = some session) :
    ∃ start, session.Tiles (s'.Consumed scope) (s'.Lost scope) start := by
  have houtcome := RuntimeRun.outcome_of_next hnext
  have hrecorded := houtcome.recorded
  obtain ⟨-, hheld, hremoves, -, hrunning⟩ := RuntimeRun.keepsIntervals_iff.mp hguard
  have hchange := RuntimeRun.ledgerChange_of_next hnext scope
  rw [hsession] at hchange
  -- What is removed while it waits was not consumed, and its failure was published.
  have hremoved : ∀ target, s.removedBy? step = some (scope, target) →
      ∀ before, s.runtime.sessionRef? scope = some before → target ∈ before.pendingAddressed →
        (∀ after, ¬s'.Consumed scope target after) ∧ s'.Lost scope := by
    intro target hremoved before hbefore hmem
    have hunconsumed : ¬s.Acknowledged scope target := fun hacknowledged =>
      RuntimeRun.removedBy_ne_of_reaches hremoves ⟨before, hbefore, hmem⟩
        (RuntimeRun.reachesHarness_of_acknowledged hacknowledged) hremoved
    have hsilent := RuntimeRun.harnessEventsBy_of_removedBy hremoved
    refine ⟨fun after hconsumed => hunconsumed ?_, ?_⟩
    · obtain ⟨delivery, hmem, hsame, htarget, -⟩ := hconsumed
      rcases RuntimeRun.mem_deliveries_cases hrecorded hmem with hold | hnew
      · exact ⟨delivery, RuntimeRun.mem_deliveries.mp hold, hsame, htarget⟩
      · rw [hsilent] at hnew
        exact absurd hnew List.not_mem_nil
    · rcases h.ledger.backed.removed hremoved with hacknowledged | hsettled
      · exact absurd hacknowledged hunconsumed
      · exact .mono hrecorded ⟨target, Or.inr hsettled⟩
  refine hchange.tiles (h.ledger.ledger.consistent scope)
    (fun before hbefore => h.tiles_of_recorded hguard hrecorded hbefore)
    (fun hnone released hreleased => h.tiles_of_released hguard hrecorded hnone hreleased) rfl
    (fun target hasks before hbefore => ?_) hremoved
    (fun target after hrecovers before hbefore hmem => ?_)
    (fun before hbefore sequence _ hmark => ?_) (fun target through hacknowledged hthrough => ?_)
    (.mono hrecorded) (fun hquarantined before hbefore hne => ?_)
    (fun event events cursor hstep hreader =>
      (h.ledger.ordered.handles houtcome.reader hstep hreader).1)
    (fun target after hconsumed => h.consumed_le hguard hrecorded hconsumed) hrunning
  · rcases hasks with hread | hobserved
    · rw [RuntimeRun.contextsHeld, Bool.and_eq_true, hread, Option.all_some, hbefore,
        Option.all_some] at hheld
      exact of_decide_eq_true hheld.2
    · obtain ⟨other, hother, hmem⟩ := h.observed_holds hnext hobserved
      rw [hbefore] at hother
      obtain rfl := Option.some.inj hother
      exact hmem
  · exact (h.frozen.frozen scope target after
      (RuntimeRun.freezes_of_contextRecoveredBy hrecovers)).2 before hbefore hmem
  · exact RuntimeRun.acknowledged_iff_consumed.mp
      (hrecorded.acknowledged (h.ledger.backed.marks scope before sequence hbefore hmark))
  · exact ⟨RuntimeRun.acknowledged_iff_consumed.mp
      (hrecorded.acknowledged (h.ledger.backed.acknowledged hacknowledged)),
      h.acknowledgedThrough_le hacknowledged hthrough⟩
  · obtain ⟨target, hmem⟩ := List.exists_mem_of_ne_nil _ hne
    refine ⟨target, Or.inl ?_⟩
    rw [hrecorded.quarantined]
    exact List.mem_append_right _ (RuntimeRun.mem_quarantinedBy hquarantined hbefore hmem)

/-- A scope that is given back is remembered with what was consumed of it. -/
lemma released_of_next (hguard : s.keepsIntervals step = true)
    (hnext : s.next? wireLength step = some s')
    (hnone : s'.runtime.sessionRef? scope = none) {released : ReleasedTaskScope}
    (hreleased : s'.runtime.releasedTaskScopes.get? scope = some released) :
    ∃ start, (s'.runtime.newSession scope).Tiles (s'.Consumed scope) (s'.Lost scope) start := by
  have houtcome := RuntimeRun.outcome_of_next hnext
  have hrecorded := houtcome.recorded
  have hlost : ∀ {start} {session : LogicalSession},
      session.Tiles (s'.Consumed scope) (s.Lost scope) start →
        session.Tiles (s'.Consumed scope) (s'.Lost scope) start := fun htiled =>
    { htiled with
      filled := htiled.filled.imp id (.mono hrecorded)
      covered := fun n hfloor hn => (htiled.covered n hfloor hn).imp id (.mono hrecorded) }
  have hroom : scope ≠ roomScope := by
    rintro rfl
    rw [ResidentRuntime.sessionRef?, if_pos rfl] at hnone
    cases hnone
  rcases houtcome.released scope released hreleased with hold | ⟨retained, session, hstep, hsession,
    hthrough, hfloor⟩
  · cases hbefore : s.runtime.sessionRef? scope with
    | some session =>
      -- A scope that is served is not remembered as given back.
      rw [h.frozen.apart scope session hbefore hroom] at hold
      cases hold
    | none =>
      obtain ⟨start, htiled⟩ := h.tiles_of_released hguard hrecorded hbefore hold
      have hsame : s'.runtime.newSession scope = s.runtime.newSession scope := by
        rw [ResidentRuntime.newSession, ResidentRuntime.newSession, hold, hreleased]
      rw [hsame]
      exact ⟨start, hlost htiled⟩
  · -- Nothing waits in a ledger that is given back.
    have hchange := RuntimeRun.ledgerChange_of_next hnext scope
    rw [hsession, hnone] at hchange
    have hempty : session.pendingAddressed = [] := by
      generalize hbefore : some session = before at hchange
      cases hchange with
      | released _ hpending =>
        obtain rfl := Option.some.inj hbefore
        exact hpending
      | unchanged => cases hbefore
    obtain ⟨start, htiled⟩ := h.tiles_of_recorded hguard hrecorded hsession
    have hnew : s'.runtime.newSession scope =
        { deliveredThrough := released.deliveredThrough
          roomDeliveryFloor := released.roomDeliveryFloor
          observedHarnessGeneration := released.observedHarnessGeneration
          bootstrappedHarnessGeneration := released.bootstrappedHarnessGeneration
          rematerializing := true } := by
      rw [ResidentRuntime.newSession, hreleased]
    rw [hnew]
    refine ⟨start, hlost ⟨trivial, Or.inl .nil, ?_, fun context hmem => ?_,
      fun target after hconsumed _ => ?_,
      fun _ _ _ hmem => absurd hmem List.not_mem_nil, ?_⟩⟩
    · rw [LogicalSession.effectiveDeliveryStart]
      dsimp only
      rw [hthrough, hfloor]
      exact htiled.start_le
    · exact absurd hmem List.not_mem_nil
    · exact htiled.left target after hconsumed (by rw [hempty]; exact List.not_mem_nil)
    · dsimp only
      rw [hthrough, hfloor]
      exact htiled.covered

lemma apart_of_next (hnext : s.next? wireLength step = some s')
    (hsession : s'.runtime.sessionRef? scope = some session) (hroom : scope ≠ roomScope) :
    s'.runtime.releasedTaskScopes.get? scope = none := by
  cases hafter : s'.runtime.releasedTaskScopes.get? scope with
  | none => rfl
  | some released =>
    rcases (RuntimeRun.outcome_of_next hnext).released scope released hafter with
      hold | ⟨retained, given, hstep, -⟩
    · cases hbefore : s.runtime.sessionRef? scope with
      | some given =>
        rw [h.frozen.apart scope given hbefore hroom] at hold
        cases hold
      | none => rw [← hafter, RuntimeRun.released_of_admitted hnext hbefore hsession]
    · rw [RuntimeRun.sessionRef?_of_reclaim (hstep ▸ hnext)] at hsession
      cases hsession

lemma disjoint_of_next (hguard : s.keepsIntervals step = true) (hrecorded : Recorded s s' step) :
    s'.deliveries.Pairwise fun earlier later => earlier.scope = later.scope →
      earlier.target ≤ later.context.after ∨ later.target ≤ earlier.context.after := by
  rw [RuntimeRun.deliveries_of_recorded hrecorded, List.pairwise_append]
  refine ⟨h.frozen.disjoint, ?_, fun earlier hearlier later hlater hscope => ?_⟩
  · have hshort : (s.harnessEventsBy step).length ≤ 1 := RuntimeRun.length_harnessEventsBy_le
    match s.harnessEventsBy step, hshort with
    | [], _ => exact List.Pairwise.nil
    | [.dispatched _ _], _ => exact List.Pairwise.nil
    | [.acknowledged delivery], _ => exact List.pairwise_singleton _ _
  · obtain ⟨event, hevent, hdelivery⟩ := List.mem_filterMap.mp hlater
    have hnew : event = .acknowledged later := by
      cases event with
      | dispatched => cases hdelivery
      | acknowledged other => rw [Option.some.inj hdelivery]
    rw [hnew] at hevent
    obtain ⟨hrenders, ⟨session, hsession, hpending⟩, hunconsumed⟩ := h.delivers hguard hevent
    have hafter := (h.frozen.frozen _ _ _ hrenders.freezes).2 session hsession hpending
    obtain ⟨start, htiled⟩ := h.frozen.tiles later.scope session hsession
    have hconsumed : s.Consumed later.scope earlier.target earlier.context.after :=
      ⟨earlier, hearlier, hscope, rfl, rfl⟩
    by_cases hmem : earlier.target ∈ session.pendingAddressed
    · -- Both instructions stand in the chain.
      have hne : earlier.target ≠ later.target := by
        intro hsame
        rw [← hsame] at hunconsumed
        exact hunconsumed (RuntimeRun.acknowledged_iff_consumed.mpr ⟨_, hconsumed⟩)
      rw [← hafter, htiled.frozen _ _ hconsumed hmem]
      exact htiled.chain.disjoint hmem hpending hne
    · refine Or.inl ((htiled.left _ _ hconsumed hmem).trans ?_)
      rw [← hafter]
      exact (htiled.chain.start_le hpending).1

end

lemma of_init {participantID : String} {cursor turnLanes : ℕ} : IntervalInvariant
      { runtime := firstJoin participantID cursor turnLanes, received := cursor } where
  ledger := .of_init
  scheduling := .of_init
  frozen := by
    constructor
    · exact fun _ hmem => absurd hmem List.not_mem_nil
    · rintro scope target after (⟨_, hmem, -⟩ | ⟨_, hmem, -⟩ | ⟨_, hmem, -⟩) <;>
        exact absurd hmem List.not_mem_nil
    · rintro scope target context (⟨_, hmem, -⟩ | ⟨_, hmem, -⟩) <;>
        exact absurd hmem List.not_mem_nil
    · exact fun _ hmem => absurd hmem List.not_mem_nil
    · intro scope session hsession
      rw [ResidentRuntime.sessionRef?] at hsession
      split at hsession
      · obtain rfl := Option.some.inj hsession
        refine ⟨cursor, trivial, Or.inl .nil, le_max_left _ _, ?_, ?_, ?_, ?_⟩
        · exact fun _ hmem => absurd hmem List.not_mem_nil
        · rintro _ _ ⟨_, hmem, -⟩
          exact absurd hmem List.not_mem_nil
        · rintro _ _ ⟨_, hmem, -⟩
          exact absurd hmem List.not_mem_nil
        · exact fun n hfloor hn => absurd hfloor hn.not_gt
      · cases hsession
    · intro _ _ _ hreleased
      cases hreleased
    · exact fun _ _ _ _ => rfl
    · exact fun _ hmem => absurd hmem List.not_mem_nil
    · exact List.Pairwise.nil

lemma of_next (h : IntervalInvariant s) (hguard : s.keepsIntervals step = true)
    (hnext : s.next? wireLength step = some s') : IntervalInvariant s' := by
  obtain ⟨hstarts, hheld, -⟩ := RuntimeRun.keepsIntervals_iff.mp hguard
  have hrecorded := (RuntimeRun.outcome_of_next hnext).recorded
  refine ⟨h.ledger.of_next hheld hnext, h.scheduling.of_next hstarts hnext, ?_⟩
  constructor
  · exact fun turn hmem hphase => h.held_of_next hguard hnext hmem hphase
  · exact fun scope target after hfreezes => h.frozen_of_next hguard hnext hfreezes
  · exact fun scope target context hrenders event hevent =>
      h.rendered_of_next hguard hnext hrenders hevent
  · exact fun turn hmem todo through generation hphase htodo =>
      h.acknowledges_of_next hnext hmem hphase htodo
  · exact fun scope session hsession => h.tiles_of_next hguard hnext hsession
  · exact fun scope released hnone hreleased => h.released_of_next hguard hnext hnone hreleased
  · exact fun scope session hsession hroom => h.apart_of_next hnext hsession hroom
  · intro delivery hmem event hevent
    rcases RuntimeRun.mem_deliveries_cases hrecorded hmem with hold | hnew
    · exact h.frozen.delivered delivery hold event hevent
    · exact h.frozen.rendered _ _ _ (h.delivers hguard hnew).1 event hevent
  · exact h.disjoint_of_next hguard hrecorded

end IntervalInvariant

lemma countP_le_one_of_pairwise {α : Type} {p : α → Bool} {l : List α}
    (h : l.Pairwise fun x y => p x = true → p y = true → False) : l.countP p ≤ 1 := by
  induction l with
  | nil => exact Nat.zero_le _
  | cons x l ih =>
    obtain ⟨hfirst, hrest⟩ := List.pairwise_cons.mp h
    rw [List.countP_cons]
    split
    next hx =>
      have hnone : l.countP p = 0 := List.countP_eq_zero.mpr fun y hmem => hfirst y hmem hx
      rw [hnone]
    next => exact ih hrest

/-- What was consumed is not told again, in every run whose steps keep to the intervals. -/
theorem noReplay_of_keepsIntervals {wireLength : RoomEvent → ℕ} {s : RuntimeRun}
    (hreach : (runtimeSystem wireLength).ReachableWhen
      (fun s step => s.keepsIntervals step = true) s) : NoReplay s := by
  have hinvariant : IntervalInvariant s := by
    refine hreach.invariant ?_ fun s step s' h hguard hnext => h.of_next hguard hnext
    rintro s ⟨participantID, cursor, turnLanes, rfl⟩
    exact .of_init
  have hframe := hinvariant.frozen
  refine ⟨hframe.disjoint, ?_, fun scope session hsession hlost n hfloor hn => ?_⟩
  · -- An event of two contexts would lie in two intervals.
    refine hframe.disjoint.imp_of_mem fun hearlier hlater hdisjoint hscope event hevent again
      hagain hsame => ?_
    have hfirst := hframe.delivered _ hearlier event hevent
    have hsecond := hframe.delivered _ hlater again hagain
    have hapart := hdisjoint hscope
    omega
  · obtain ⟨start, htiled⟩ := hframe.tiles scope session hsession
    obtain ⟨target, after, ⟨delivery, hmem, hscope, rfl, rfl⟩, hinside⟩ :=
      (htiled.covered n hfloor hn).resolve_right hlost
    refine le_antisymm (countP_le_one_of_pairwise ?_) (List.countP_pos_iff.mpr
      ⟨delivery, hmem, decide_eq_true ⟨hscope, hinside⟩⟩)
    refine hframe.disjoint.imp fun hdisjoint hfirst hsecond => ?_
    obtain ⟨hscope, hfirst⟩ := of_decide_eq_true hfirst
    obtain ⟨hscope', hsecond⟩ := of_decide_eq_true hsecond
    have hapart := hdisjoint (hscope.trans hscope'.symm)
    omega

/-- The labels under which a turn fails for good and is settled. -/
def RuntimeRun.fails (index : ℕ) : List RuntimeStep :=
  [.turn index (.returned .terminalFailure)] ++ List.replicate 4 (.turn index (.settle none)) ++
    [.turn index .finish]

/-- The labels of a run in which the steered instruction 2 fails for good while the first still
waits, and then the instruction 3 arrives. -/
def failedRun : List RuntimeStep :=
  RuntimeRun.receives 0 2 ++ [.schedule true true, .launch 0 false] ++ RuntimeRun.dispatches 0 ++
    [.steer ⟨"request", 1, 2, Nat.one_lt_two⟩, .steering 0 (.refuse false),
      .turn 0 (.returned .busy), .turn 0 .finish, .schedule true true, .launch 1 false] ++
    RuntimeRun.dispatches 0 ++ RuntimeRun.fails 0 ++ RuntimeRun.receives 2 3 ++
    [.schedule true true, .launch 2 false] ++ RuntimeRun.dispatches 0 ++ RuntimeRun.succeeds 0 ++
    [.schedule true true, .launch 3 false] ++ RuntimeRun.dispatches 0 ++ RuntimeRun.succeeds 0

/-- What was consumed is told again in some runs. The context of the instruction 3 contains the
instruction 2, which the Harness consumed. -/
theorem not_noReplay_failed :
    ¬ ∀ s, (runtimeSystem fun _ => 1).Reachable s → NoReplay s := by
  intro hall
  have hrun : (RuntimeRun.runWhen? (fun _ _ => true) failedRun).any (fun s =>
      s.deliveries[0]?.any fun failed => s.deliveries[2]?.any fun later =>
        decide (failed.scope = later.scope) && failed.context.events.any fun event =>
          later.context.events.any fun again => decide (event.sequence = again.sequence)) =
        true := by
    decide +kernel
  obtain ⟨s, hs, hdeliveries⟩ := (Option.any_eq_true _ _).mp hrun
  have honce := (hall s (RuntimeRun.reachableWhen_of_run hs).reachable).once
  obtain ⟨failed, hfailed, hafter⟩ := (Option.any_eq_true _ _).mp hdeliveries
  obtain ⟨later, hlater, hboth⟩ := (Option.any_eq_true _ _).mp hafter
  obtain ⟨hscope, hevents⟩ := (Bool.and_eq_true _ _).mp hboth
  obtain ⟨event, hevent, hagain⟩ := List.any_eq_true.mp hevents
  obtain ⟨again, hmem, hsame⟩ := List.any_eq_true.mp hagain
  obtain ⟨hlt, hlast⟩ := List.getElem?_eq_some_iff.mp hlater
  obtain ⟨hpos, hfirst⟩ := List.getElem?_eq_some_iff.mp hfailed
  have hpair := List.pairwise_iff_getElem.mp honce 0 2 hpos hlt Nat.zero_lt_two
  rw [hfirst, hlast] at hpair
  exact hpair (of_decide_eq_true hscope) event hevent again hmem (of_decide_eq_true hsame)

/-- A run in which the instruction 3 is consumed by a steer before the instruction 2. -/
theorem noReplay_steered : ∃ s,
    RuntimeRun.runWhen? RuntimeRun.keepsIntervals
      (RuntimeRun.receives 0 3 ++ [.schedule true true, .launch 0 false] ++
        RuntimeRun.dispatches 0 ++
        [.steer ⟨"request", 1, 3, by decide⟩, .steering 0 .lookUp, .steering 0 .reach,
          .steering 0 (.record 1)] ++
        RuntimeRun.succeeds 0 ++ [.schedule true true, .launch 1 false] ++
        RuntimeRun.dispatches 0 ++ RuntimeRun.succeeds 0) = some s ∧
      s.deliveries.map (·.target) = [3, 1, 2] ∧ NoReplay s := by
  have hrun : (RuntimeRun.runWhen? RuntimeRun.keepsIntervals
      (RuntimeRun.receives 0 3 ++ [.schedule true true, .launch 0 false] ++
        RuntimeRun.dispatches 0 ++
        [.steer ⟨"request", 1, 3, by decide⟩, .steering 0 .lookUp, .steering 0 .reach,
          .steering 0 (.record 1)] ++
        RuntimeRun.succeeds 0 ++ [.schedule true true, .launch 1 false] ++
        RuntimeRun.dispatches 0 ++ RuntimeRun.succeeds 0)).any
      (fun s => decide (s.deliveries.map (·.target) = [3, 1, 2])) = true := by
    decide +kernel
  obtain ⟨s, hs, htargets⟩ := (Option.any_eq_true _ _).mp hrun
  exact ⟨s, hs, of_decide_eq_true htargets,
    noReplay_of_keepsIntervals (RuntimeRun.reachableWhen_of_run hs)⟩

end Free4Chat
