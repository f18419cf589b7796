import Free4Chat.Runtime.DeliveryLedger
import Mathlib.Data.List.Perm.Subperm

/-!
# A Consumed Instruction Is Not Run Again

Any number of schedulers compute their candidates in one critical section and start them in others.
Every scope has at most one turn at a time, and the turns fit into the lanes. An instruction that
the Harness consumed is not dispatched in a later turn, and two schedulers that computed the same
candidate do not both start it, as long as a candidate is still fresh when it is started.

The source breaks the last two: `launchTurnsWithRetryGate` starts a candidate without asking
whether its instruction still waits, as the retry clock does.

* `RunsOnce`: what holds of the turns and of what was dispatched.
* `RuntimeRun.startsFresh`: a turn is started for an instruction that still waits.
* `LanesHeld`: every turn has its lane, in every run.
* `runsOnce_of_startsFresh`: the four properties, over every run.
* `not_runsOnce_stale`: a run in which a stale candidate is started.
-/

namespace Free4Chat

/-! ## The properties -/

/-- Every scope has one turn at a time, the turns fit into the lanes, what the Harness consumed is
not dispatched again, and what was computed at one time is started once. -/
structure RunsOnce (s : RuntimeRun) : Prop where
  serial : (s.turns.map (·.scope)).Nodup
  bounded : s.turns.length ≤ s.runtime.turnLanes
  consumed : s.history.Pairwise fun earlier later => ∀ delivery, earlier = .acknowledged delivery →
    later ≠ .dispatched delivery.scope delivery.target
  exclusive : s.starts.Pairwise fun start other => start.computedAt = other.computedAt →
    start.scheduler ≠ other.scheduler → (start.scope, start.target) ≠ (other.scope, other.target)

namespace RuntimeRun

variable (s : RuntimeRun)

/-- The turn that a step starts, and the scheduler that starts it. -/
def startedBy? : RuntimeStep → Option (Scheduler × String × ℕ)
  | .launch index false =>
    s.schedulers[index]?.bind fun scheduler =>
      match scheduler.candidates with
      | [] => none
      | (scope, target) :: _ =>
        if s.runtime.turnLaneResult scope = .granted then some (scheduler, scope, target) else none
  | _ => none

/-- A turn is started for an instruction that still waits, that the Harness did not just confirm as
steered, and for which no turn was started since the candidate was computed. -/
def startsFresh (step : RuntimeStep) : Bool :=
  !s.takesNumberingBack step &&
    (s.startedBy? step).all fun start =>
      s.runtime.pendingUndelivered start.2.1 start.2.2 &&
        !(s.steers.any fun steer =>
          steer.scope = start.2.1 && steer.instruction = start.2.2 && steer.phase = .reached) &&
        decide ((start.2.1, start.2.2) ∉ start.1.startedSince)

end RuntimeRun

/-! ## Lanes -/

/-- Every turn has its lane, and no scope has two turns. -/
structure LanesHeld (s : RuntimeRun) : Prop where
  serial : (s.turns.map (·.scope)).Nodup
  lanes : ∀ turn ∈ s.turns, ∃ lane, s.runtime.activeTurns.get? turn.scope = some lane ∧
    lane.target = turn.target
  bounded : s.runtime.activeTurns.size ≤ s.runtime.turnLanes

namespace LanesHeld

variable {s s' : RuntimeRun} {step : RuntimeStep}

section

variable (h : LanesHeld s)
include h

lemma index_eq {i j : ℕ} {turn other : TurnRun} (hturn : s.turns[i]? = some turn)
    (hother : s.turns[j]? = some other) (hscope : turn.scope = other.scope) : i = j := by
  have hbound : i < (s.turns.map (·.scope)).length := by
    rw [List.length_map]
    exact (List.getElem?_eq_some_iff.mp hturn).1
  refine (List.getElem?_inj hbound h.serial).mp ?_
  rw [List.getElem?_map, List.getElem?_map, hturn, hother, Option.map_some, Option.map_some, hscope]

lemma eq_of_scope {turn other : TurnRun} (hturn : turn ∈ s.turns)
    (hother : other ∈ s.turns) (hscope : turn.scope = other.scope) : turn = other := by
  obtain ⟨i, hi⟩ := List.mem_iff_getElem?.mp hturn
  obtain ⟨j, hj⟩ := List.mem_iff_getElem?.mp hother
  rw [h.index_eq hi hj hscope, hj] at hi
  exact (Option.some.inj hi).symm

lemma length_le : s.turns.length ≤ s.runtime.turnLanes := by
  refine le_trans ?_ h.bounded
  rw [← KeyedMap.length_keys, ← List.length_map (f := TurnRun.scope)]
  refine (List.Nodup.subperm h.serial fun scope hmem => ?_).length_le
  obtain ⟨turn, hturn, rfl⟩ := List.mem_map.mp hmem
  obtain ⟨lane, hlane, -⟩ := h.lanes turn hturn
  rw [KeyedMap.mem_keys_iff, hlane]
  rfl

lemma scope_ne_of_granted {scope : String}
    (hgranted : s.runtime.turnLaneResult scope = .granted) {turn : TurnRun}
    (hturn : turn ∈ s.turns) : turn.scope ≠ scope := by
  rintro rfl
  obtain ⟨lane, hlane, -⟩ := h.lanes turn hturn
  rw [ResidentRuntime.turnLaneResult] at hgranted
  split at hgranted
  · cases hgranted
  · rw [KeyedMap.contains, hlane, if_pos Option.isSome_some] at hgranted
    cases hgranted

lemma finishTurnLane_eq {turn : TurnRun} (hturn : turn ∈ s.turns) :
    s.runtime.finishTurnLane turn.scope turn.target =
      { s.runtime with activeTurns := s.runtime.activeTurns.erase turn.scope } := by
  obtain ⟨lane, hlane, htarget⟩ := h.lanes turn hturn
  rw [ResidentRuntime.finishTurnLane, hlane]
  exact if_pos htarget

/-- The turns keep their lanes. -/
lemma of_change (hchange : TurnsChange s step s') : LanesHeld s' := by
  cases hchange with
  | kept hturns hlanes =>
    constructor
    all_goals simp only [hturns, hlanes.activeTurns, hlanes.turnLanes]
    · exact h.serial
    · exact h.lanes
    · exact h.bounded
  | @advanced index turn turnStep phase hstep hturn hadvance hturns hlanes =>
    constructor
    all_goals simp only [hturns, hlanes.activeTurns, hlanes.turnLanes]
    · -- The turn keeps its scope.
      have hscopes : (s.turns.set index { turn with phase }).map (·.scope) =
          s.turns.map (·.scope) := by
        rw [List.map_set]
        refine List.ext_getElem? fun i => ?_
        rw [List.getElem?_set]
        split
        next hindex =>
          rw [← hindex, List.length_map, if_pos (List.getElem?_eq_some_iff.mp hturn).1,
            List.getElem?_map, hturn, Option.map_some]
        next => rfl
      rw [hscopes]
      exact h.serial
    · intro other hmem
      rcases List.mem_or_eq_of_mem_set hmem with hmem | rfl
      · exact h.lanes other hmem
      · exact h.lanes turn (List.mem_of_getElem? hturn)
    · exact h.bounded
  | @finished index turn hstep hturn hphase hturns hruntime =>
    -- The lane that is given back is that of the turn that ends.
    have hafter := hruntime.trans (h.finishTurnLane_eq (List.mem_of_getElem? hturn))
    constructor
    · rw [hturns, ← List.eraseIdx_map]
      exact List.Nodup.sublist (List.eraseIdx_sublist _ _) h.serial
    · intro other hmem
      rw [hturns, List.mem_eraseIdx_iff_getElem?] at hmem
      obtain ⟨i, hi, hother⟩ := hmem
      have hscope : turn.scope ≠ other.scope := fun hsame =>
        hi (h.index_eq hother hturn hsame.symm)
      rw [hafter]
      dsimp only
      rw [KeyedMap.get?_erase, if_neg hscope]
      exact h.lanes other (List.mem_of_getElem? hother)
    · rw [hafter]
      exact (KeyedMap.size_erase_le _ _).trans h.bounded
  | @started index scheduler scope target candidates hstep hscheduler hcandidates hgranted hturns
      hruntime =>
    have hfree : ∀ turn ∈ s.turns, turn.scope ≠ scope := fun _ hturn =>
      h.scope_ne_of_granted hgranted hturn
    constructor
    · rw [hturns, List.map_append, List.map_singleton, List.nodup_append]
      refine ⟨h.serial, List.nodup_singleton _, fun other hmem new hnew => ?_⟩
      obtain ⟨turn, hturn, rfl⟩ := List.mem_map.mp hmem
      rw [List.mem_singleton.mp hnew]
      exact hfree turn hturn
    · intro turn hmem
      rw [hruntime, ResidentRuntime.beginTurnLane]
      dsimp only
      rw [KeyedMap.get?_set, ActiveTurnLane.key_eq]
      rw [hturns, List.mem_append, List.mem_singleton] at hmem
      rcases hmem with hturn | rfl
      · rw [if_neg (hfree turn hturn).symm]
        exact h.lanes turn hturn
      · exact ⟨_, if_pos rfl, rfl⟩
    · -- A lane is granted only while one is left.
      have hleft : s.runtime.activeTurns.size < s.runtime.turnLanes := by
        rw [ResidentRuntime.turnLaneResult] at hgranted
        split at hgranted
        · cases hgranted
        · split at hgranted
          · cases hgranted
          · split at hgranted
            · cases hgranted
            next hroom => exact Nat.lt_of_not_le hroom
      rw [hruntime]
      exact (KeyedMap.size_set_le _ _).trans hleft

end

end LanesHeld

/-! ## Instructions that wait -/

/-- Whether the call of the Harness returned, or was never made. -/
def TurnPhase.settles : TurnPhase → Bool
  | .settling _ => true
  | _ => false

namespace RuntimeRun

/-- An instruction waits to be delivered. -/
def Waits (s : RuntimeRun) (scope : String) (target : ℕ) : Prop :=
  ∃ session, s.runtime.sessionRef? scope = some session ∧ target ∈ session.pendingAddressed ∧
    session.isDelivered target = false

/-- The Runtime is about to record that an instruction was consumed. -/
def InFlight (s : RuntimeRun) (scope : String) (target : ℕ) : Prop :=
  (∃ turn ∈ s.turns, turn.scope = scope ∧ turn.target = target ∧
      ∃ todo through generation, turn.phase = .settling todo ∧
        Settlement.acknowledge through generation ∈ todo) ∨
    ∃ steer ∈ s.steers, steer.scope = scope ∧ steer.instruction = target ∧ steer.phase = .reached

variable {wireLength : RoomEvent → ℕ} {s s' : RuntimeRun} {step : RuntimeStep} {scope : String}
  {target : ℕ}

lemma waits_of_pendingUndelivered (h : s.runtime.pendingUndelivered scope target = true) :
    s.Waits scope target := by
  obtain ⟨session, hsession, hpending⟩ := (Option.any_eq_true _ _).mp h
  rw [LogicalSession.pendingUndelivered, Bool.and_eq_true, Bool.and_eq_true, Bool.not_eq_true']
    at hpending
  exact ⟨session, hsession, of_decide_eq_true hpending.1.1, hpending.2⟩

lemma sessionRef?_of_acknowledgedBy (hnext : s.next? wireLength step = some s')
    (h : s.acknowledgedBy? step = some (scope, target)) :
    ∃ through generation, s'.runtime.sessionRef? scope =
      (s.runtime.sessionRef? scope).map fun session =>
        session.acknowledge target through generation := by
  obtain ⟨after, heffect, rfl⟩ := RuntimeRun.exists_effect hnext
  unfold acknowledgedBy? at h
  split at h
  next index history =>
    obtain ⟨turn, hturn, hsettles⟩ := Option.bind_eq_some_iff.mp h
    split at hsettles
    next through generation todo hphase =>
      obtain ⟨rfl, rfl⟩ := Prod.mk.inj (Option.some.inj hsettles)
      rw [effect?, hturn, Option.bind_some] at heffect
      unfold turnNext? at heffect
      simp only [hphase] at heffect
      obtain rfl := Option.some.inj heffect
      refine ⟨through, generation, ?_⟩
      exact (ResidentRuntime.sessionRef?_acknowledgeHarnessDelivery _ _ _).trans (if_pos rfl)
    next => cases hsettles
  next index generation =>
    obtain ⟨steer, hsteer, hrecords⟩ := Option.bind_eq_some_iff.mp h
    split at hrecords
    next hphase =>
      obtain ⟨rfl, rfl⟩ := Prod.mk.inj (Option.some.inj hrecords)
      rw [effect?, hsteer, Option.bind_some] at heffect
      unfold steerNext? at heffect
      simp only [hphase] at heffect
      obtain rfl := Option.some.inj heffect
      refine ⟨steer.instruction, generation, ?_⟩
      exact (ResidentRuntime.sessionRef?_acknowledgeHarnessDelivery _ _ _).trans (if_pos rfl)
    next => cases hrecords
  next => cases h

lemma waits_of_next (hnext : s.next? wireLength step = some s') (hordered : ReaderOrdered s)
    (hsound : ∀ scope session, s.runtime.sessionRef? scope = some session →
      session.Sound s.received) (hreceived : target ≤ s.received) (h : s'.Waits scope target) :
    s.Waits scope target ∧ s.acknowledgedBy? step ≠ some (scope, target) := by
  obtain ⟨session', hsession', hmem', hmark'⟩ := h
  have hchange := ledgerChange_of_next hnext scope
  rw [hsession'] at hchange
  obtain ⟨session, hsession, hmem⟩ | ⟨event, events, cursor, hstep, hreader, hsame⟩ :=
    hchange.mem_pendingAddressed hmem'
  · rw [hsession] at hchange
    refine ⟨⟨session, hsession, hmem, ?_⟩, fun hacknowledged => ?_⟩
    · by_contra hmark
      rw [Bool.not_eq_false] at hmark
      rw [hchange.isDelivered_mono (hsound scope session hsession) hmark hmem hmem'] at hmark'
      cases hmark'
    · obtain ⟨through, generation, hafter⟩ := sessionRef?_of_acknowledgedBy hnext hacknowledged
      rw [hsession, hsession', Option.map_some] at hafter
      obtain rfl := Option.some.inj hafter
      rw [(hsound scope session hsession).isDelivered_acknowledge hmem' (Or.inr rfl)] at hmark'
      cases hmark'
  · have hnew := (hordered.ahead _ hreader event List.mem_cons_self).1
    omega

lemma mem_settleTurn {turn : TurnRun} {todo : List Settlement}
    {history : Option (List RoomEvent)} {settlement : Settlement} {through generation : ℕ}
    (h : Settlement.acknowledge through generation ∈ settlement :: todo) :
    settlement = .acknowledge through generation ∨
      .acknowledge through generation ∈ (s.settleTurn turn todo history settlement).2 ∨
      s.runtime.stopped = true := by
  rcases List.mem_cons.mp h with hhead | hmem
  · exact Or.inl hhead.symm
  refine Or.inr ?_
  cases settlement with
  | lookUp =>
    refine Or.inl ?_
    rw [settleTurn]
    split
    · exact hmem
    · dsimp only
      split
      · exact List.mem_cons_of_mem _ hmem
      · exact hmem
  | recover after | quarantine controlUnavailable =>
    refine Or.inl ?_
    rw [settleTurn]
    split <;> exact hmem
  | checkStopped =>
    rw [settleTurn]
    dsimp only
    split
    next hstopped => exact Or.inr hstopped
    next => exact Or.inl hmem
  | scheduleRetry | checkPending =>
    refine Or.inl ?_
    rw [settleTurn]
    dsimp only
    split
    · exact List.mem_cons_of_mem _ hmem
    · exact hmem
  | acknowledge _ _ | clearRetry | failInPass | closeRecovery | ackPending => exact Or.inl hmem

lemma mem_of_ne_index {α : Type} {l : List α} {i : ℕ} {x y : α} (hmem : x ∈ l)
    (hy : l[i]? = some y) (hne : x ≠ y) : x ∈ l.eraseIdx i ∧ ∀ z, x ∈ l.set i z := by
  obtain ⟨j, hj⟩ := List.mem_iff_getElem?.mp hmem
  have hindex : j ≠ i := by
    rintro rfl
    exact hne (Option.some.inj (hj.symm.trans hy))
  refine ⟨List.mem_eraseIdx_iff_getElem?.mpr ⟨j, hindex, hj⟩, fun z => ?_⟩
  exact List.mem_iff_getElem?.mpr ⟨j, by rw [List.getElem?_set_ne hindex.symm, hj]⟩

/-- What is about to be recorded stays so, until it is recorded or its turn finds that the Runtime
has stopped. -/
lemma inFlight_of_next (houtcome : StepOutcome s step s') (h : s.InFlight scope target) :
    s'.InFlight scope target ∨ s.acknowledgedBy? step = some (scope, target) ∨
      (s'.runtime.stopped = true ∧
        ∃ turn ∈ s'.turns, turn.scope = scope ∧ turn.phase.settles = true) := by
  rcases h with ⟨turn, hmem, rfl, rfl, todo, through, generation, hphase, htodo⟩ |
    ⟨steer, hmem, rfl, rfl, hphase⟩
  · have hkept : turn ∈ s'.turns → s'.InFlight turn.scope turn.target := fun hturn =>
      Or.inl ⟨turn, hturn, rfl, rfl, todo, through, generation, hphase, htodo⟩
    cases houtcome.turns with
    | kept hturns => exact Or.inl (hkept (hturns ▸ hmem))
    | started _ _ _ _ hturns =>
      exact Or.inl (hkept (hturns ▸ List.mem_append_left _ hmem))
    | finished _ hturn hended hturns =>
      refine Or.inl (hkept ?_)
      rw [hturns]
      refine (mem_of_ne_index hmem hturn ?_).1
      rintro rfl
      rw [hended] at hphase
      rw [← TurnPhase.settling.inj hphase] at htodo
      exact absurd htodo List.not_mem_nil
    | @advanced index moved turnStep phase hstep hmoved hadvance hturns =>
      by_cases hsame : turn = moved
      · subst hsame
        -- Only a turn that is settled has something to record.
        cases hadvance with
        | @settles settlement rest history hsettling =>
          rw [hsettling] at hphase
          rw [← TurnPhase.settling.inj hphase] at htodo
          have hkeeps : settlement = .acknowledge through generation ∨
              .acknowledge through generation ∈ (s.settleTurn turn rest history settlement).2 ∨
              s.runtime.stopped = true := mem_settleTurn htodo
          have hmem' : { turn with phase := .settling (s.settleTurn turn rest history
              settlement).2 } ∈ s'.turns := by
            rw [hturns]
            exact List.mem_set (List.getElem?_eq_some_iff.mp hmoved).1 _
          rcases hkeeps with rfl | hrest | hstopped
          · refine Or.inr (Or.inl ?_)
            simp [acknowledgedBy?, hstep, hmoved, hsettling]
          · exact Or.inl (Or.inl ⟨_, hmem', rfl, rfl, _, through, generation, rfl, hrest⟩)
          · exact Or.inr (Or.inr ⟨houtcome.stops.1 hstopped, _, hmem', rfl, rfl⟩)
        | adopts hbefore | admitted hbefore | refused hbefore | observed hbefore
          | reads hbefore | found hbefore | recovered hbefore | dispatched hbefore
          | unsent hbefore | returned hbefore =>
          rw [hbefore] at hphase
          cases hphase
        | admits hbefore =>
          obtain hbefore | ⟨after, hbefore⟩ := hbefore
          all_goals
            rw [hbefore] at hphase
            cases hphase
        | unavailable hbefore =>
          obtain ⟨generation, hbefore⟩ | ⟨generation, after, hbefore⟩ := hbefore
          all_goals
            rw [hbefore] at hphase
            cases hphase
      · refine Or.inl (hkept ?_)
        rw [hturns]
        exact (mem_of_ne_index hmem hmoved hsame).2 _
  · have hkept : steer ∈ s'.steers → s'.InFlight steer.scope steer.instruction := fun hsteer =>
      Or.inr ⟨steer, hsteer, rfl, rfl, hphase⟩
    cases houtcome.steers with
    | kept hsteers => exact Or.inl (hkept (hsteers ▸ hmem))
    | started _ _ _ hsteers => exact Or.inl (hkept (hsteers ▸ List.mem_append_left _ hmem))
    | @recorded index generation moved hstep hmoved hreached hsteers =>
      by_cases hsame : steer = moved
      · subst hsame
        refine Or.inr (Or.inl ?_)
        simp [acknowledgedBy?, hstep, hmoved, hreached]
      · refine Or.inl (hkept ?_)
        rw [hsteers]
        exact (mem_of_ne_index hmem hmoved hsame).1
    | refused _ hmoved hnot hsteers =>
      refine Or.inl (hkept ?_)
      rw [hsteers]
      refine (mem_of_ne_index hmem hmoved ?_).1
      rintro rfl
      exact hnot hphase
    | @advanced index moved steerStep phase hstep hmoved hadvance hsteers =>
      refine Or.inl (hkept ?_)
      rw [hsteers]
      refine (mem_of_ne_index hmem hmoved ?_).2 _
      rintro rfl
      cases hadvance with
      | reads hbefore | found hbefore | recovered hbefore | reached hbefore =>
        rw [hbefore] at hphase
        cases hphase

end RuntimeRun

/-! ## What the Harness is told and what it consumes -/

lemma TurnAdvance.settles_of_settles {s : RuntimeRun} {turn : TurnRun} {turnStep : TurnStep}
    {phase : TurnPhase} (h : TurnAdvance s turn turnStep phase)
    (hphase : phase.settles = false) : turn.phase.settles = false := by
  cases h with
  | adopts hbefore | admitted hbefore | observed hbefore | reads hbefore | found hbefore
    | recovered hbefore | dispatched hbefore =>
    rw [hbefore]
    rfl
  | admits hbefore =>
    obtain hbefore | ⟨after, hbefore⟩ := hbefore
    all_goals
      rw [hbefore]
      rfl
  | refused | unavailable | unsent | returned | settles => cases hphase

namespace RuntimeRun

variable {wireLength : RoomEvent → ℕ} {s s' : RuntimeRun} {step : RuntimeStep} {scope : String}
  {target : ℕ}

lemma mem_turns_cases (h : TurnsChange s step s') {turn : TurnRun} (hmem : turn ∈ s'.turns) :
    (∃ old ∈ s.turns, old.scope = turn.scope ∧ old.target = turn.target ∧
        (turn.phase.settles = false → old.phase.settles = false)) ∨
      (s.runtime.turnLaneResult turn.scope = .granted ∧
        ∃ scheduler, s.startedBy? step = some (scheduler, turn.scope, turn.target)) := by
  have hold : turn ∈ s.turns → ∃ old ∈ s.turns, old.scope = turn.scope ∧ old.target = turn.target ∧
      (turn.phase.settles = false → old.phase.settles = false) := fun hturn =>
    ⟨turn, hturn, rfl, rfl, id⟩
  cases h with
  | kept hturns => exact Or.inl (hold (hturns ▸ hmem))
  | finished _ _ _ hturns => exact Or.inl (hold (List.mem_of_mem_eraseIdx (hturns ▸ hmem)))
  | @advanced index moved turnStep phase hstep hmoved hadvance hturns =>
    rw [hturns] at hmem
    rcases List.mem_or_eq_of_mem_set hmem with hmem | rfl
    · exact Or.inl (hold hmem)
    · exact Or.inl ⟨moved, List.mem_of_getElem? hmoved, rfl, rfl, hadvance.settles_of_settles⟩
  | @started index scheduler scope target candidates hstep hscheduler hcandidates hgranted hturns =>
    rw [hturns, List.mem_append, List.mem_singleton] at hmem
    refine hmem.imp hold fun hnew => ?_
    subst hnew
    refine ⟨hgranted, scheduler, ?_⟩
    simp [startedBy?, hstep, hscheduler, hcandidates, hgranted]

lemma exists_of_executesOn? {generation : ℕ} (h : s.executesOn? scope target = some generation) :
    ∃ turn ∈ s.turns, turn.scope = scope ∧ turn.target = target ∧
      ∃ context, turn.phase = .running generation context := by
  obtain ⟨turn, hturn, hfound⟩ := List.exists_of_findSome?_eq_some h
  split at hfound
  next hsame =>
    split at hfound
    next generation' context hphase =>
      obtain rfl := Option.some.inj hfound
      exact ⟨turn, hturn, hsame.1, hsame.2, context, hphase⟩
    next => cases hfound
  next => cases hfound

lemma acknowledged_of_harnessEventsBy {delivery : Delivery}
    (h : HarnessEvent.acknowledged delivery ∈ s.harnessEventsBy step) :
    (∃ index turn outcome, step = .turn index (.returned outcome) ∧ s.turns[index]? = some turn ∧
        turn.phase = .running delivery.generation delivery.context ∧
        delivery.scope = turn.scope ∧ delivery.target = turn.target ∧
        outcome.consumes (s.runtime.turnInterrupted turn.scope turn.target) = true) ∨
      ∃ index steer, step = .steering index .reach ∧ s.steers[index]? = some steer ∧
        steer.phase = .prepared delivery.context ∧
        s.executesOn? steer.scope steer.turn = some delivery.generation ∧
        delivery.scope = steer.scope ∧ delivery.target = steer.instruction := by
  unfold harnessEventsBy at h
  split at h
  next index turnStep =>
    cases hturn : s.turns[index]? with
    | none =>
      rw [hturn] at h
      exact absurd h List.not_mem_nil
    | some turn =>
      rw [hturn, Option.elim_some] at h
      split at h
      · cases List.mem_singleton.mp h
      next generation context outcome hphase =>
        split at h
        next hconsumes =>
          obtain rfl := HarnessEvent.acknowledged.inj (List.mem_singleton.mp h)
          exact Or.inl ⟨index, turn, outcome, rfl, hturn, hphase, rfl, rfl, hconsumes⟩
        next => exact absurd h List.not_mem_nil
      · exact absurd h List.not_mem_nil
  next index =>
    cases hsteer : s.steers[index]? with
    | none =>
      rw [hsteer] at h
      exact absurd h List.not_mem_nil
    | some steer =>
      rw [hsteer, Option.elim_some] at h
      split at h
      next context hphase =>
        cases hexecutes : s.executesOn? steer.scope steer.turn with
        | none =>
          rw [hexecutes] at h
          exact absurd h List.not_mem_nil
        | some generation =>
          rw [hexecutes, Option.elim_some] at h
          obtain rfl := HarnessEvent.acknowledged.inj (List.mem_singleton.mp h)
          exact Or.inr ⟨index, steer, rfl, hsteer, hphase, hexecutes, rfl, rfl⟩
      next => exact absurd h List.not_mem_nil
  next => exact absurd h List.not_mem_nil

lemma dispatched_of_harnessEventsBy
    (h : HarnessEvent.dispatched scope target ∈ s.harnessEventsBy step) :
    ∃ turn ∈ s.turns, turn.scope = scope ∧ turn.target = target ∧
      turn.phase.settles = false := by
  unfold harnessEventsBy at h
  split at h
  next index turnStep =>
    cases hturn : s.turns[index]? with
    | none =>
      rw [hturn] at h
      exact absurd h List.not_mem_nil
    | some turn =>
      rw [hturn, Option.elim_some] at h
      split at h
      next generation context hphase =>
        obtain ⟨rfl, rfl⟩ := HarnessEvent.dispatched.inj (List.mem_singleton.mp h)
        refine ⟨turn, List.mem_of_getElem? hturn, rfl, rfl, ?_⟩
        rw [hphase]
        rfl
      · split at h
        · cases List.mem_singleton.mp h
        · exact absurd h List.not_mem_nil
      · exact absurd h List.not_mem_nil
  next index =>
    cases hsteer : s.steers[index]? with
    | none =>
      rw [hsteer] at h
      exact absurd h List.not_mem_nil
    | some steer =>
      rw [hsteer, Option.elim_some] at h
      split at h
      · cases hexecutes : s.executesOn? steer.scope steer.turn with
        | none =>
          rw [hexecutes] at h
          exact absurd h List.not_mem_nil
        | some generation =>
          rw [hexecutes, Option.elim_some] at h
          cases List.mem_singleton.mp h
      · exact absurd h List.not_mem_nil
  next => exact absurd h List.not_mem_nil

lemma length_harnessEventsBy_le : (s.harnessEventsBy step).length ≤ 1 := by
  unfold harnessEventsBy
  split
  next index turnStep =>
    cases s.turns[index]? with
    | none => exact Nat.zero_le _
    | some turn =>
      rw [Option.elim_some]
      split
      · exact le_rfl
      · split
        · exact le_rfl
        · exact Nat.zero_le _
      · exact Nat.zero_le _
  next index =>
    cases s.steers[index]? with
    | none => exact Nat.zero_le _
    | some steer =>
      rw [Option.elim_some]
      split
      · cases s.executesOn? steer.scope steer.turn with
        | none => exact Nat.zero_le _
        | some generation => exact le_rfl
      · exact Nat.zero_le _
  next => exact Nat.zero_le _

lemma turns_of_returned {index generation : ℕ} {turn : TurnRun} {context : FrozenContext}
    {outcome : TurnOutcome} (hnext : s.next? wireLength (.turn index (.returned outcome)) = some s')
    (hturn : s.turns[index]? = some turn) (hphase : turn.phase = .running generation context) :
    s'.turns = s.turns.set index
      { turn with phase := .settling (s.afterReturn turn generation context outcome) } := by
  obtain ⟨after, heffect, rfl⟩ := RuntimeRun.exists_effect hnext
  rw [effect?, hturn, Option.bind_some] at heffect
  unfold turnNext? at heffect
  simp only [hphase] at heffect
  obtain rfl := Option.some.inj heffect
  rfl

lemma inFlight_of_acknowledged (hnext : s.next? wireLength step = some s') {delivery : Delivery}
    (h : HarnessEvent.acknowledged delivery ∈ s.harnessEventsBy step) :
    s'.InFlight delivery.scope delivery.target ∨ (s.runtime.isShuttingDown = true ∧
      ∃ turn ∈ s'.turns, turn.scope = delivery.scope ∧ turn.phase.settles = true) := by
  obtain ⟨after, heffect, rfl⟩ := RuntimeRun.exists_effect hnext
  obtain ⟨index, turn, outcome, rfl, hturn, hphase, hscope, htarget, hconsumes⟩ |
    ⟨index, steer, rfl, hsteer, hphase, hexecutes, hscope, htarget⟩ :=
    acknowledged_of_harnessEventsBy h
  · rw [effect?, hturn, Option.bind_some] at heffect
    unfold turnNext? at heffect
    simp only [hphase] at heffect
    obtain rfl := Option.some.inj heffect
    by_cases hshut : s.runtime.isShuttingDown = true
    · have hlt := (List.getElem?_eq_some_iff.mp hturn).1
      exact Or.inr ⟨hshut, _, List.mem_set hlt _, hscope.symm, rfl⟩
    · refine Or.inl (Or.inl ⟨_, List.mem_set (List.getElem?_eq_some_iff.mp hturn).1 _, hscope.symm,
        htarget.symm, _, delivery.context.through, delivery.generation, rfl, ?_⟩)
      rw [afterReturn, if_neg hshut]
      cases outcome with
      | busy => cases hconsumes
      | terminalFailure | succeeded =>
        cases s.runtime.turnInterrupted turn.scope turn.target <;> simp [TurnOutcome.settlement]
      | failed failure =>
        rw [TurnOutcome.consumes] at hconsumes
        rw [hconsumes]
        simp [TurnOutcome.settlement]
  · rw [effect?, hsteer, Option.bind_some] at heffect
    unfold steerNext? at heffect
    simp only [hphase, hexecutes, Option.map_some] at heffect
    obtain rfl := Option.some.inj heffect
    exact Or.inl (Or.inr ⟨_, List.mem_set (List.getElem?_eq_some_iff.mp hsteer).1 _, hscope.symm,
      htarget.symm, rfl⟩)

end RuntimeRun

/-! ## Consumed instructions -/

/-- What is known of the instructions that the Harness consumed: they do not wait any more, once
their delivery is recorded, and no turn is about to dispatch them or executes
them. -/
structure ConsumedHeld (s : RuntimeRun) : Prop where
  sound : ∀ scope session, s.runtime.sessionRef? scope = some session → session.Sound s.received
  turns : ∀ turn ∈ s.turns, turn.target ≤ s.received
  steers : ∀ steer ∈ s.steers, steer.turn < steer.instruction ∧ steer.instruction ≤ s.received
  known : ∀ scope target, s.Acknowledged scope target → target ≤ s.received
  waiting : ∀ scope target, s.Acknowledged scope target → s.Waits scope target →
    s.InFlight scope target ∨ (s.runtime.isShuttingDown = true ∧
      ∀ turn ∈ s.turns, turn.scope = scope → turn.phase.settles = true)
  unconsumed : ∀ turn ∈ s.turns, turn.phase.settles = false →
    ¬s.Acknowledged turn.scope turn.target

namespace ConsumedHeld

variable {wireLength : RoomEvent → ℕ} {s s' : RuntimeRun} {step : RuntimeStep} {scope : String}
  {target : ℕ}

lemma acknowledged_cases (h : Recorded s s' step) (hacknowledged : s'.Acknowledged scope target) :
    s.Acknowledged scope target ∨ ∃ delivery, HarnessEvent.acknowledged delivery ∈
      s.harnessEventsBy step ∧ delivery.scope = scope ∧ delivery.target = target := by
  obtain ⟨delivery, hmem, hscope, htarget⟩ := hacknowledged
  rw [h.history, List.mem_append] at hmem
  exact hmem.imp (fun hold => ⟨delivery, hold, hscope, htarget⟩)
    fun hnew => ⟨delivery, hnew, hscope, htarget⟩

lemma isShuttingDown_mono (h : StepOutcome s step s') (hshut : s.runtime.isShuttingDown = true) :
    s'.runtime.isShuttingDown = true := by
  rw [ResidentRuntime.isShuttingDown, Bool.or_eq_true] at hshut ⊢
  exact hshut.imp h.stops.1 h.stops.2

lemma not_acknowledged_of_fresh (h : ConsumedHeld s) (hlanes : LanesHeld s)
    (hgranted : s.runtime.turnLaneResult scope = .granted) (hwaits : s.Waits scope target)
    (hsteers : ∀ steer ∈ s.steers, steer.scope = scope → steer.instruction = target →
      steer.phase ≠ .reached) : ¬s.Acknowledged scope target := by
  intro hacknowledged
  rcases h.waiting scope target hacknowledged hwaits with
    (⟨turn, hturn, hscope, -⟩ | ⟨steer, hsteer, hscope, htarget, hreached⟩) | ⟨hshut, -⟩
  · exact hlanes.scope_ne_of_granted hgranted hturn hscope
  · exact hsteers steer hsteer hscope htarget hreached
  · rw [ResidentRuntime.turnLaneResult] at hgranted
    rw [ResidentRuntime.isShuttingDown, Bool.or_eq_true] at hshut
    rw [if_pos hshut] at hgranted
    cases hgranted

lemma fresh_of_guard {start : Scheduler × String × ℕ} (hguard : s.startsFresh step = true)
    (hstart : s.startedBy? step = some start) :
    s.Waits start.2.1 start.2.2 ∧ (∀ steer ∈ s.steers, steer.scope = start.2.1 →
      steer.instruction = start.2.2 → steer.phase ≠ .reached) ∧
      (start.2.1, start.2.2) ∉ start.1.startedSince := by
  rw [RuntimeRun.startsFresh, hstart, Option.all_some, Bool.and_eq_true, Bool.and_eq_true,
    Bool.and_eq_true, Bool.not_eq_true', Bool.not_eq_true'] at hguard
  obtain ⟨-, ⟨hpending, hsteers⟩, hsince⟩ := hguard
  refine ⟨RuntimeRun.waits_of_pendingUndelivered hpending, fun steer hmem hscope htarget hreached =>
    ?_, of_decide_eq_true hsince⟩
  rw [List.any_eq_false] at hsteers
  exact hsteers steer hmem (by simp [hscope, htarget, hreached])

lemma le_received (h : ConsumedHeld s) (hwaits : s.Waits scope target) : target ≤ s.received := by
  obtain ⟨session, hsession, hmem, -⟩ := hwaits
  exact (h.sound scope session hsession).received target hmem

lemma of_init {participantID : String} {cursor turnLanes : ℕ} :
    ConsumedHeld { runtime := firstJoin participantID cursor turnLanes, received := cursor } where
  sound scope session hsession := by
    rw [ResidentRuntime.sessionRef?] at hsession
    split at hsession
    · obtain rfl := Option.some.inj hsession
      exact .of_empty rfl
    · cases hsession
  turns _ hmem := absurd hmem List.not_mem_nil
  steers _ hmem := absurd hmem List.not_mem_nil
  known _ _ := fun ⟨_, hmem, _⟩ => absurd hmem List.not_mem_nil
  waiting _ _ := fun ⟨_, hmem, _⟩ => absurd hmem List.not_mem_nil
  unconsumed _ hmem := absurd hmem List.not_mem_nil

/-- A step that starts no stale turn keeps what is known of the consumed instructions. -/
lemma of_next (h : ConsumedHeld s) (hordered : ReaderOrdered s) (hlanes : LanesHeld s)
    (hguard : s.startsFresh step = true) (hnext : s.next? wireLength step = some s') :
    ConsumedHeld s' := by
  have houtcome := RuntimeRun.outcome_of_next hnext
  have hle := hordered.received_le houtcome.reader
  -- The turn that is settled is the only one of its scope.
  have hsettled : ∀ {scope}, (∃ turn ∈ s'.turns, turn.scope = scope ∧ turn.phase.settles = true) →
      ∀ turn ∈ s'.turns, turn.scope = scope → turn.phase.settles = true := by
    rintro scope ⟨settled, hmem, hscope, hphase⟩ turn hturn hsame
    rw [(hlanes.of_change houtcome.turns).eq_of_scope hturn hmem (hsame.trans hscope.symm)]
    exact hphase
  refine ⟨fun scope session hsession => ?_, fun turn hmem => ?_, fun steer hmem => ?_,
    fun scope target hacknowledged => ?_, fun scope target hacknowledged hwaits => ?_,
    fun turn hmem hphase hacknowledged => ?_⟩
  · have hchange := RuntimeRun.ledgerChange_of_next hnext scope
    rw [hsession] at hchange
    exact hchange.sound (h.sound scope) hle fun event events cursor hstep hreader =>
      hordered.handles houtcome.reader hstep hreader
  · rcases RuntimeRun.mem_turns_cases houtcome.turns hmem with
      ⟨old, hold, -, htarget, -⟩ | ⟨-, scheduler, hstart⟩
    · rw [← htarget]
      exact (h.turns old hold).trans hle
    · exact (h.le_received (fresh_of_guard hguard hstart).1).trans hle
  · have hold : ∀ {steer}, steer ∈ s.steers →
        steer.turn < steer.instruction ∧ steer.instruction ≤ s'.received := fun hsteer =>
      (h.steers _ hsteer).imp id fun hreceived => hreceived.trans hle
    cases houtcome.steers with
    | kept hsteers => exact hold (hsteers ▸ hmem)
    | recorded _ _ _ hsteers | refused _ _ _ hsteers =>
      exact hold (List.mem_of_mem_eraseIdx (hsteers ▸ hmem))
    | advanced _ hmoved _ hsteers =>
      rw [hsteers] at hmem
      rcases List.mem_or_eq_of_mem_set hmem with hmem | rfl
      · exact hold hmem
      · have hsteer := List.mem_of_getElem? hmoved
        exact (h.steers _ hsteer).imp id fun hreceived => hreceived.trans hle
    | @started control session hstep hsession hpromotion hsteers =>
      rw [hsteers, List.mem_append, List.mem_singleton] at hmem
      refine hmem.elim hold fun hnew => ?_
      rw [hnew]
      -- Only an instruction that waits is steered.
      have hwaits : control.steerInstructionSequence ∈ session.pendingAddressed := by
        rw [LogicalSession.steerPromotion] at hpromotion
        split at hpromotion
        · exact absurd rfl hpromotion
        · split at hpromotion
          · exact absurd rfl hpromotion
          next hmem => exact not_not.mp hmem
      exact ⟨control.turn_lt, ((h.sound _ session hsession).received _ hwaits).trans hle⟩
  · rcases acknowledged_cases houtcome.recorded hacknowledged with hold | ⟨delivery, hnew, -, rfl⟩
    · exact (h.known scope target hold).trans hle
    · obtain ⟨index, turn, outcome, -, hturn, -, -, htarget, -⟩ |
        ⟨index, steer, -, hsteer, -, -, -, htarget⟩ :=
        RuntimeRun.acknowledged_of_harnessEventsBy hnew
      · rw [htarget]
        exact (h.turns turn (List.mem_of_getElem? hturn)).trans hle
      · rw [htarget]
        exact (h.steers steer (List.mem_of_getElem? hsteer)).2.trans hle
  · rcases acknowledged_cases houtcome.recorded hacknowledged with hold | ⟨delivery, hnew, rfl, rfl⟩
    · -- It waited before, so it was about to be recorded, and it still is.
      obtain ⟨hwaited, hunrecorded⟩ := RuntimeRun.waits_of_next hnext hordered h.sound
        (h.known scope target hold) hwaits
      rcases h.waiting scope target hold hwaited with hflight | ⟨hshut, hsettles⟩
      · rcases RuntimeRun.inFlight_of_next houtcome hflight with
          hflight | hrecorded | ⟨hstopped, hsettles⟩
        · exact Or.inl hflight
        · exact absurd hrecorded hunrecorded
        · refine Or.inr ⟨?_, hsettled hsettles⟩
          rw [ResidentRuntime.isShuttingDown, hstopped, Bool.true_or]
      · refine Or.inr ⟨isShuttingDown_mono houtcome hshut, fun turn hturn hscope => ?_⟩
        by_contra hnot
        rw [Bool.not_eq_true] at hnot
        rcases RuntimeRun.mem_turns_cases houtcome.turns hturn with
          ⟨old, hold, hsame, -, hbefore⟩ | ⟨hgranted, -⟩
        · have hwas := hsettles old hold (hsame.trans hscope)
          rw [hbefore hnot] at hwas
          cases hwas
        · -- No lane is granted any more.
          rw [ResidentRuntime.turnLaneResult] at hgranted
          rw [ResidentRuntime.isShuttingDown, Bool.or_eq_true] at hshut
          rw [if_pos hshut] at hgranted
          cases hgranted
    · exact (RuntimeRun.inFlight_of_acknowledged hnext hnew).imp id fun hshut =>
        ⟨isShuttingDown_mono houtcome hshut.1, hsettled hshut.2⟩
  · rcases RuntimeRun.mem_turns_cases houtcome.turns hmem with
      ⟨old, hold, hscope, htarget, hbefore⟩ | ⟨hgranted, scheduler, hstart⟩
    · rcases acknowledged_cases houtcome.recorded hacknowledged with
        hconsumed | ⟨delivery, hnew, hdelivered, hconsumedTarget⟩
      · rw [← hscope, ← htarget] at hconsumed
        exact h.unconsumed old hold (hbefore hphase) hconsumed
      · obtain ⟨index, running, outcome, hstep, hturn, hruns, hsame, -, -⟩ |
          ⟨index, steer, hstep, hsteer, -, hexecutes, hsame, hinstruction⟩ :=
          RuntimeRun.acknowledged_of_harnessEventsBy hnew
        · -- The turn that returns is the only one of its scope, and it is settled after.
          have hmoved : { running with
              phase :=
                .settling (s.afterReturn running delivery.generation delivery.context outcome) }
              ∈ s'.turns := by
            rw [RuntimeRun.turns_of_returned (hstep ▸ hnext) hturn hruns]
            exact List.mem_set (List.getElem?_eq_some_iff.mp hturn).1 _
          have hone := (hlanes.of_change houtcome.turns).eq_of_scope hmem hmoved
            (hdelivered.symm.trans hsame)
          rw [hone] at hphase
          cases hphase
        · -- A steered instruction came after the one of the turn that runs.
          obtain ⟨running, hturn, hruns, htarget', -⟩ :=
            RuntimeRun.exists_of_executesOn? hexecutes
          have hone := hlanes.eq_of_scope hturn hold
            (hruns.trans (hsame.symm.trans (hdelivered.trans hscope.symm)))
          have hlater := (h.steers steer (List.mem_of_getElem? hsteer)).1
          rw [← hinstruction, hconsumedTarget, ← htarget, ← hone, htarget'] at hlater
          exact absurd hlater (lt_irrefl _)
    · have hfresh := fresh_of_guard hguard hstart
      have hnone : s.harnessEventsBy step = [] := by
        unfold RuntimeRun.startedBy? at hstart
        split at hstart
        · rfl
        · cases hstart
      rcases acknowledged_cases houtcome.recorded hacknowledged with hconsumed | ⟨_, hnew, -⟩
      · exact h.not_acknowledged_of_fresh hlanes hgranted hfresh.1 hfresh.2.1 hconsumed
      · rw [hnone] at hnew
        exact absurd hnew List.not_mem_nil

end ConsumedHeld

/-! ## Turns that were started -/

/-- What is known of the turns that were started: the schedulers that computed their candidates
before know them. -/
structure StartsHeld (s : RuntimeRun) : Prop where
  computed : ∀ scheduler ∈ s.schedulers, scheduler.computedAt ≤ s.stepCount
  started : ∀ start ∈ s.starts, start.computedAt < s.stepCount
  since : ∀ start ∈ s.starts, ∀ scheduler ∈ s.schedulers,
    scheduler.computedAt ≤ start.computedAt → (start.scope, start.target) ∈ scheduler.startedSince
  exclusive : s.starts.Pairwise fun start other => start.computedAt = other.computedAt →
    (start.scope, start.target) ≠ (other.scope, other.target)

namespace StartsHeld

variable {wireLength : RoomEvent → ℕ} {s s' : RuntimeRun} {step : RuntimeStep}

/-- A step that starts no stale turn keeps what is known of the turns that were started. -/
lemma of_next (h : StartsHeld s) (hguard : s.startsFresh step = true)
    (hnext : s.next? wireLength step = some s') : StartsHeld s' := by
  have hcount : s'.stepCount = s.countAfter step := by
    rw [RuntimeRun.next?] at hnext
    split at hnext
    · cases hnext
    · obtain ⟨after, -, rfl⟩ := Option.map_eq_some_iff.mp hnext
      rfl
  have hle : s.stepCount ≤ s'.stepCount := by
    rw [hcount]
    unfold RuntimeRun.countAfter
    split
    · exact le_rfl
    · exact Nat.le_succ _
  have hold : ∀ start ∈ s.starts, start.computedAt < s'.stepCount := fun start hmem =>
    (h.started start hmem).trans_le hle
  cases (RuntimeRun.outcome_of_next hnext).schedulers with
  | kept hschedulers hstarts =>
    constructor
    all_goals simp only [hschedulers, hstarts]
    · exact fun scheduler hmem => (h.computed scheduler hmem).trans hle
    · exact hold
    · exact h.since
    · exact h.exclusive
  | ended hschedulers hstarts =>
    constructor
    all_goals simp only [hschedulers, hstarts]
    · exact fun scheduler hmem => (h.computed scheduler (List.mem_of_mem_eraseIdx hmem)).trans hle
    · exact hold
    · exact fun start hstart scheduler hmem =>
        h.since start hstart scheduler (List.mem_of_mem_eraseIdx hmem)
    · exact h.exclusive
  | @tried index scheduler candidates hscheduler hschedulers hstarts =>
    have hfound := List.mem_of_getElem? hscheduler
    constructor
    all_goals simp only [hschedulers, hstarts]
    · intro other hmem
      rcases List.mem_or_eq_of_mem_set hmem with hmem | rfl
      · exact (h.computed other hmem).trans hle
      · exact (h.computed scheduler hfound).trans hle
    · exact hold
    · intro start hstart other hmem hbefore
      rcases List.mem_or_eq_of_mem_set hmem with hmem | rfl
      · exact h.since start hstart other hmem hbefore
      · exact h.since start hstart scheduler hfound hbefore
    · exact h.exclusive
  | computed hstep hschedulers hstarts =>
    constructor
    all_goals simp only [hschedulers, hstarts]
    · intro scheduler hmem
      rw [List.mem_append, List.mem_singleton] at hmem
      rcases hmem with hmem | rfl
      · exact (h.computed scheduler hmem).trans hle
      · exact hle
    · exact hold
    · intro start hstart scheduler hmem hbefore
      rw [List.mem_append, List.mem_singleton] at hmem
      rcases hmem with hmem | rfl
      · exact h.since start hstart scheduler hmem hbefore
      · -- Everything that was started before was computed before.
        exact absurd (h.started start hstart) hbefore.not_gt
    · exact h.exclusive
  | @started index scheduler scope target candidates hstep hscheduler hcandidates hgranted
      hschedulers hstarts =>
    have hfound := List.mem_of_getElem? hscheduler
    have hfresh : (scope, target) ∉ scheduler.startedSince := by
      have hstart : s.startedBy? step = some (scheduler, scope, target) := by
        simp [RuntimeRun.startedBy?, hstep, hscheduler, hcandidates, hgranted]
      exact (ConsumedHeld.fresh_of_guard hguard hstart).2.2
    have hgrows : s.stepCount < s'.stepCount := by
      rw [hcount, hstep]
      exact Nat.lt_succ_self _
    -- The schedulers after the start are those before, and they know of it.
    have hknown : ∀ other ∈ s'.schedulers, ∃ before ∈ s.schedulers,
        other.computedAt = before.computedAt ∧
          other.startedSince = (scope, target) :: before.startedSince := by
      intro other hmem
      rw [hschedulers, RuntimeRun.start] at hmem
      obtain ⟨middle, hmiddle, rfl⟩ := List.mem_map.mp hmem
      rcases List.mem_or_eq_of_mem_set hmiddle with hmiddle | rfl
      · exact ⟨middle, hmiddle, rfl, rfl⟩
      · exact ⟨scheduler, hfound, rfl, rfl⟩
    refine ⟨fun other hmem => ?_, fun start hmem => ?_, fun start hmem other hother hbefore => ?_,
      ?_⟩
    · obtain ⟨before, hbefore, hsame, -⟩ := hknown other hmem
      rw [hsame]
      exact (h.computed before hbefore).trans hle
    · rw [hstarts, List.mem_append, List.mem_singleton] at hmem
      rcases hmem with hmem | rfl
      · exact hold start hmem
      · exact (h.computed scheduler hfound).trans_lt hgrows
    · obtain ⟨before, hmemBefore, hsame, hsince⟩ := hknown other hother
      rw [hsince]
      rw [hstarts, List.mem_append, List.mem_singleton] at hmem
      rcases hmem with hmem | rfl
      · exact List.mem_cons_of_mem _ (h.since start hmem before hmemBefore (hsame ▸ hbefore))
      · exact List.mem_cons_self
    · rw [hstarts, List.pairwise_append]
      refine ⟨h.exclusive, List.pairwise_singleton _ _, fun start hmem new hnew hsame heq => ?_⟩
      rw [List.mem_singleton.mp hnew] at hsame heq
      refine hfresh ?_
      have hsince := h.since start hmem scheduler hfound hsame.ge
      rwa [heq] at hsince

end StartsHeld

/-! ## Every run -/

/-- Everything that the properties of the scheduler rest on. -/
structure SchedulingInvariant (s : RuntimeRun) : Prop where
  ordered : ReaderOrdered s
  lanes : LanesHeld s
  consumed : ConsumedHeld s
  starts : StartsHeld s
  history : s.history.Pairwise fun earlier later => ∀ delivery, earlier = .acknowledged delivery →
    later ≠ .dispatched delivery.scope delivery.target

namespace SchedulingInvariant

variable {wireLength : RoomEvent → ℕ} {s s' : RuntimeRun} {step : RuntimeStep}

lemma of_init {participantID : String} {cursor turnLanes : ℕ} : SchedulingInvariant
      { runtime := firstJoin participantID cursor turnLanes, received := cursor } where
  ordered := .of_idle rfl le_rfl
  lanes := ⟨List.nodup_nil, fun _ hmem => absurd hmem List.not_mem_nil, Nat.zero_le _⟩
  consumed := .of_init
  starts := by
    constructor
    · exact fun _ hmem => absurd hmem List.not_mem_nil
    · exact fun _ hmem => absurd hmem List.not_mem_nil
    · exact fun _ hmem => absurd hmem List.not_mem_nil
    · exact List.Pairwise.nil
  history := List.Pairwise.nil

lemma of_next (h : SchedulingInvariant s) (hguard : s.startsFresh step = true)
    (hnext : s.next? wireLength step = some s') : SchedulingInvariant s' := by
  have houtcome := RuntimeRun.outcome_of_next hnext
  have hforward : s.takesNumberingBack step = false := by
    rw [RuntimeRun.startsFresh, Bool.and_eq_true, Bool.not_eq_true'] at hguard
    exact hguard.1
  refine ⟨h.ordered.of_change houtcome.reader hforward, h.lanes.of_change houtcome.turns,
    h.consumed.of_next h.ordered h.lanes hguard hnext, h.starts.of_next hguard hnext, ?_⟩
  rw [houtcome.recorded.history, List.pairwise_append]
  refine ⟨h.history, ?_, fun earlier hearlier later hlater delivery hdelivery hdispatched => ?_⟩
  · have hshort : (s.harnessEventsBy step).length ≤ 1 := RuntimeRun.length_harnessEventsBy_le
    match s.harnessEventsBy step, hshort with
    | [], _ => exact List.Pairwise.nil
    | [event], _ => exact List.pairwise_singleton _ _
  · rw [hdispatched] at hlater
    obtain ⟨turn, hturn, hscope, htarget, hphase⟩ := RuntimeRun.dispatched_of_harnessEventsBy hlater
    refine h.consumed.unconsumed turn hturn hphase ⟨delivery, ?_, hscope.symm, htarget.symm⟩
    rwa [← hdelivery]

end SchedulingInvariant

/-- Turns run once, in every run in which a turn is only started while its candidate is fresh. -/
theorem runsOnce_of_startsFresh {wireLength : RoomEvent → ℕ} {s : RuntimeRun}
    (hreach :
      (runtimeSystem wireLength).ReachableWhen (fun s step => s.startsFresh step = true) s) :
    RunsOnce s := by
  have hinvariant : SchedulingInvariant s := by
    refine hreach.invariant ?_ fun s step s' h hguard hnext => h.of_next hguard hnext
    rintro s ⟨participantID, cursor, turnLanes, rfl⟩
    exact .of_init
  refine ⟨hinvariant.lanes.serial, hinvariant.lanes.length_le, hinvariant.history, ?_⟩
  exact hinvariant.starts.exclusive.imp fun hexclusive hsame _ => hexclusive hsame

/-- The labels under which a turn ends after the Harness consumed its instruction. -/
def RuntimeRun.succeeds (index : ℕ) : List RuntimeStep :=
  [.turn index (.returned .succeeded)] ++ List.replicate 3 (.turn index (.settle none)) ++
    [.turn index .finish]

/-- The labels of a run in which two schedulers compute the steered instruction 2 at the same time.
It is started by the first, and again by the second after the Harness has consumed it. -/
def staleRun : List RuntimeStep :=
  RuntimeRun.receives 0 2 ++ [.schedule true true, .launch 0 false] ++ RuntimeRun.dispatches 0 ++
    [.steer ⟨"request", 1, 2, Nat.one_lt_two⟩, .steering 0 (.refuse false),
      .turn 0 (.returned .busy), .turn 0 .finish, .schedule true true, .schedule true true,
      .launch 1 false] ++
    RuntimeRun.dispatches 0 ++ RuntimeRun.succeeds 0 ++ [.launch 2 false] ++
    RuntimeRun.dispatches 0

/-- The turn that was started last is for the instruction that was acknowledged before. -/
def HarnessEvent.startsAgain : HarnessEvent → HarnessEvent → Bool
  | .acknowledged delivery, .dispatched scope target =>
    decide (delivery.scope = scope ∧ delivery.target = target)
  | _, _ => false

/-- Turns do not run once in every run. A scheduler starts an instruction that another one started
after both computed it, and that the Harness has consumed in between. -/
theorem not_runsOnce_stale : ¬ ∀ s, (runtimeSystem fun _ => 1).Reachable s → RunsOnce s := by
  intro hall
  have hrun : (RuntimeRun.runWhen? (fun _ _ => true) staleRun).any (fun s =>
      s.history[2]?.any fun consumed => s.history[3]?.any fun started =>
        consumed.startsAgain started) = true := by
    decide +kernel
  obtain ⟨s, hs, hhistory⟩ := (Option.any_eq_true _ _).mp hrun
  have honce := hall s (RuntimeRun.reachableWhen_of_run hs).reachable
  have hconsumed := honce.consumed
  obtain ⟨consumed, hsecond, hafter⟩ := (Option.any_eq_true _ _).mp hhistory
  obtain ⟨started, hthird, hagain⟩ := (Option.any_eq_true _ _).mp hafter
  obtain ⟨hlt, hlast⟩ := List.getElem?_eq_some_iff.mp hthird
  obtain ⟨hbefore, hfirst⟩ := List.getElem?_eq_some_iff.mp hsecond
  have hpair := List.pairwise_iff_getElem.mp hconsumed 2 3 hbefore hlt (by decide)
  rw [hfirst, hlast] at hpair
  cases consumed with
  | dispatched scope target => cases hagain
  | acknowledged delivery =>
    cases started with
    | acknowledged other => cases hagain
    | dispatched scope target =>
      obtain ⟨hscope, htarget⟩ := of_decide_eq_true hagain
      exact hpair delivery rfl (by rw [hscope, htarget])

/-- A run in which two instructions are consumed, each in a turn of its own. -/
theorem runsOnce_consumed : ∃ s,
    RuntimeRun.runWhen? RuntimeRun.startsFresh
      (RuntimeRun.receives 0 2 ++ [.schedule true true, .launch 0 false] ++
        RuntimeRun.dispatches 0 ++ RuntimeRun.succeeds 0 ++
        [.schedule true true, .launch 1 false] ++ RuntimeRun.dispatches 0 ++
        RuntimeRun.succeeds 0) = some s ∧
      s.history.length = 4 ∧ RunsOnce s := by
  have hrun : (RuntimeRun.runWhen? RuntimeRun.startsFresh
      (RuntimeRun.receives 0 2 ++ [.schedule true true, .launch 0 false] ++
        RuntimeRun.dispatches 0 ++ RuntimeRun.succeeds 0 ++
        [.schedule true true, .launch 1 false] ++ RuntimeRun.dispatches 0 ++
        RuntimeRun.succeeds 0)).any (fun s => decide (s.history.length = 4)) = true := by
    decide +kernel
  obtain ⟨s, hs, hlength⟩ := (Option.any_eq_true _ _).mp hrun
  exact ⟨s, hs, of_decide_eq_true hlength,
    runsOnce_of_startsFresh (RuntimeRun.reachableWhen_of_run hs)⟩

end Free4Chat
