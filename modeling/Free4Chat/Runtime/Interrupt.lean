import Free4Chat.Runtime.Scheduling
import Free4Chat.Runtime.TurnControl

/-!
# An Accepted Interrupt Ends Exactly Its Turn

A turn whose interrupt was accepted settles as interrupted, its reply is not published and its
instruction is not run again, and no other turn settles as interrupted, as long as every interrupt
is accepted before its turn looks for it, and nothing else takes it away.

The source breaks this: `runTurn` looks for an interrupt in one critical section and ends the
activity of the turn in a later one, and `cancelActiveTaskTurn` still accepts an interrupt in
between. A turn that was refused because its conversation is busy also looks for an interrupt, and
drops it.

* `InterruptsExact`: what holds of the executions of turns.
* `ControlRun.keepsInterrupts`: no interrupt is accepted too late or taken away.
* `InterruptsChange`: how a step of the Runtime changes the interrupts.
* `interruptsExact_of_keepsInterrupts`: the properties, over every run.
* `not_interruptsExact_late`: a run in which an accepted interrupt is lost.
-/

namespace Free4Chat

/-! ## The properties -/

namespace ControlRun

variable (s : ControlRun)

/-- A turn was executed, or is. -/
def Executed (execution : TurnExecution) : Prop :=
  execution ∈ s.current.values ∨ execution ∈ s.past

end ControlRun

/-- An execution whose interrupt was accepted does not end in another way, ends as interrupted once
it is over, does not reply, and is the last one of its instruction. No other one ends so. -/
structure InterruptsExact (s : ControlRun) : Prop where
  terminal : ∀ execution, s.Executed execution → execution.accepted = true →
    ∀ ending, execution.ending = some ending → ending = .interrupted
  settles : ∀ execution ∈ s.past, execution.accepted = true →
    execution.ending = some .interrupted
  silent : ∀ execution, s.Executed execution → execution.accepted = true →
    execution.replied = false
  once : (s.past ++ s.current.values).Pairwise fun earlier later => earlier.accepted = true →
    (later.scope, later.target) ≠ (earlier.scope, earlier.target)
  exact : ∀ execution, s.Executed execution → execution.ending = some .interrupted →
    execution.accepted = true

namespace ControlRun

variable (s : ControlRun)

/-- Whether an interrupt of the turn of a scope was accepted, and the turn has not looked for it
yet. -/
def awaitsInterrupt (scope : String) : Bool :=
  (s.current.get? scope).any fun execution => execution.accepted && execution.ending.isNone

/-- Whether a call of the Harness returns without the turn settling as interrupted. -/
def dropsInterrupt : RuntimeStep → Bool
  | .turn index (.returned outcome) =>
    s.run.turns[index]?.any fun turn => s.awaitsInterrupt turn.scope &&
      (s.run.runtime.isShuttingDown || outcome = .busy)
  | _ => false

/-- Candidates are fresh, interrupts are accepted before their turns look for them, and they are not
taken away: the Runtime does not shut down, the conversation is not busy, and its process does not
die while a turn still has to look for one. -/
def keepsInterrupts : ControlStep → Bool
  | .base step => s.run.startsFresh step && !s.dropsInterrupt step
  | .interrupt taskRequestID _ dispatched =>
    !dispatched || (s.current.get? (taskScopeForRequestID taskRequestID)).all (·.ending.isNone)
  | .clearActivity scope => !s.awaitsInterrupt scope
  | _ => true

end ControlRun

/-! ## The interrupts after a step -/

namespace ResidentRuntime

variable {r : ResidentRuntime} {scope : String} {target : ℕ}

@[simp]
lemma interrupts_setSession (session : LogicalSession) :
    (r.setSession scope session).interrupts = r.interrupts := by
  rw [setSession]
  split <;> rfl

@[simp]
lemma interrupts_updateSession (change : LogicalSession → LogicalSession) :
    (r.updateSession scope change).interrupts = r.interrupts := by
  rw [updateSession]
  split
  · rfl
  · exact interrupts_setSession _

@[simp]
lemma interrupts_reopen (event : RoomEvent) : (r.reopen scope event).interrupts = r.interrupts := by
  rw [reopen]
  split
  · rfl
  · split <;> rfl

@[simp]
lemma interrupts_acceptEvent (wireLength : RoomEvent → ℕ) (event : RoomEvent) :
    (r.acceptEvent wireLength event).interrupts = r.interrupts := by
  rw [acceptEvent]
  split
  · rfl
  · dsimp only
    split
    · rfl
    next session admitted hensured =>
      have hadmitted : admitted.interrupts = r.interrupts := by
        rw [ensureSession?] at hensured
        split at hensured
        · cases hensured
        · split at hensured
          · obtain ⟨-, rfl⟩ := Prod.mk.inj (Option.some.inj hensured)
            rfl
          · split at hensured
            · cases hensured
            · obtain ⟨-, rfl⟩ := Prod.mk.inj (Option.some.inj hensured)
              rfl
      split
      · rw [interrupts_reopen, interrupts_setSession]
        exact hadmitted
      · rw [interrupts_setSession]
        exact hadmitted

@[simp]
lemma interrupts_acknowledgeHarnessDelivery (through generation : ℕ) :
    (r.acknowledgeHarnessDelivery scope target through generation).interrupts = r.interrupts := by
  rw [acknowledgeHarnessDelivery]
  split
  · rfl
  · exact interrupts_setSession _

@[simp]
lemma interrupts_ackPending : (r.ackPending scope target).interrupts = r.interrupts := by
  rw [ackPending]
  split
  · rfl
  · split
    · exact interrupts_setSession _
    · rfl

@[simp]
lemma interrupts_markTurnFailedInPass :
    (r.markTurnFailedInPass scope target).interrupts = r.interrupts := by
  rw [markTurnFailedInPass]
  split
  · split <;> rfl
  · rfl

@[simp]
lemma interrupts_closeTurnRecovery :
    (r.closeTurnRecovery scope target).interrupts = r.interrupts := by
  rw [closeTurnRecovery]
  split
  · rfl
  · split <;> rfl

@[simp]
lemma interrupts_scheduleTurnRetry :
    (r.scheduleTurnRetry scope target).interrupts = r.interrupts := by
  rw [scheduleTurnRetry]
  dsimp only
  split
  · rfl
  · split
    · exact interrupts_closeTurnRecovery
    · rfl

@[simp]
lemma interrupts_markTaskAttentionAndQuarantine (controlUnavailable : Bool) :
    (r.markTaskAttentionAndQuarantine scope controlUnavailable).interrupts = r.interrupts :=
  interrupts_updateSession _

@[simp]
lemma interrupts_finishTurnLane : (r.finishTurnLane scope target).interrupts = r.interrupts := by
  rw [finishTurnLane]
  split
  · split <;> rfl
  · rfl

@[simp]
lemma interrupts_takeTurnRetry : (r.takeTurnRetry scope target).interrupts = r.interrupts := by
  rw [takeTurnRetry]
  split <;> rfl

lemma interrupts_releaseTerminalTaskScope (retained : Bool) :
    (r.releaseTerminalTaskScope scope retained).interrupts = r.interrupts ∨
      (r.releaseTerminalTaskScope scope retained).interrupts = r.interrupts.erase scope := by
  rw [releaseTerminalTaskScope]
  split
  · exact Or.inl rfl
  · dsimp only
    split <;> exact Or.inr rfl

end ResidentRuntime

/-- The interrupts after a step of the Runtime. -/
inductive InterruptsChange (s : RuntimeRun) (step : RuntimeStep) (s' : RuntimeRun) : Prop
  | kept (hinterrupts : s'.runtime.interrupts = s.runtime.interrupts)
  | marked {scope : String} {target : ℕ} (hstep : step = .interrupt scope target)
      (hinterrupts : s'.runtime.interrupts = s.runtime.interrupts.set (scope, target))
  | refused {index : ℕ} (hstep : step = .steering index (.refuse true))
  | cleared {scope : String} (hstep : step = .clearActivity scope)
      (hinterrupts : s'.runtime.interrupts = s.runtime.interrupts.erase scope)
  | returned {index : ℕ} {turn : TurnRun} {outcome : TurnOutcome}
      (hstep : step = .turn index (.returned outcome)) (hturn : s.turns[index]? = some turn)
      (hinterrupts : s'.runtime.interrupts =
        (s.runtime.consumeTurnInterrupted turn.scope turn.target).interrupts)
  | reclaimed {scope : String} {retained : Bool} (hstep : step = .reclaim scope retained)
      (hidle : s.runtime.activeTurns.contains scope = false)
      (hinterrupts : s'.runtime.interrupts = s.runtime.interrupts.erase scope)
  | stopped (hstep : step = .stop) (hinterrupts : s'.runtime.interrupts = .empty)
      (hshut : s'.runtime.isShuttingDown = true)

namespace RuntimeRun

variable {wireLength : RoomEvent → ℕ} {s s' : RuntimeRun} {step : RuntimeStep}

lemma interrupts_settleTurn {turn : TurnRun} {todo : List Settlement}
    {history : Option (List RoomEvent)} (settlement : Settlement) :
    (s.settleTurn turn todo history settlement).1.interrupts = s.runtime.interrupts := by
  cases settlement with
  | lookUp | recover after =>
    rw [settleTurn]
    split
    · rfl
    · exact ResidentRuntime.interrupts_updateSession _
  | checkStopped | clearRetry | checkPending => rfl
  | acknowledge through generation =>
    rw [settleTurn]
    exact ResidentRuntime.interrupts_acknowledgeHarnessDelivery _ _
  | failInPass =>
    rw [settleTurn]
    dsimp only
    rw [ResidentRuntime.interrupts_markTurnFailedInPass]
  | scheduleRetry =>
    rw [settleTurn]
    dsimp only
    rw [ResidentRuntime.interrupts_scheduleTurnRetry]
  | closeRecovery =>
    rw [settleTurn]
    dsimp only
    rw [ResidentRuntime.interrupts_closeTurnRecovery]
  | quarantine controlUnavailable =>
    rw [settleTurn]
    split
    · exact ResidentRuntime.interrupts_markTaskAttentionAndQuarantine _
    · rfl
  | ackPending =>
    rw [settleTurn]
    dsimp only
    rw [ResidentRuntime.interrupts_ackPending]

variable {index : ℕ}

lemma interrupts_of_turnNext {turn : TurnRun} {turnStep : TurnStep}
    (hturn : s.turns[index]? = some turn) (h : s.turnNext? index turn turnStep = some s') :
    InterruptsChange s (.turn index turnStep) s' := by
  unfold turnNext? at h
  dsimp only at h
  split at h
  next =>
    split at h
    · cases h
    · split at h <;> obtain rfl := Option.some.inj h
      · exact .kept rfl
      · exact .kept (ResidentRuntime.interrupts_updateSession _)
  next =>
    split at h <;> obtain rfl := Option.some.inj h
    · exact .kept rfl
    · exact .kept (ResidentRuntime.interrupts_updateSession _)
  next =>
    obtain rfl := Option.some.inj h
    exact .kept rfl
  next =>
    obtain rfl := Option.some.inj h
    exact .kept rfl
  next =>
    obtain rfl := Option.some.inj h
    exact .kept (ResidentRuntime.interrupts_updateSession _)
  next =>
    split at h <;> obtain rfl := Option.some.inj h
    · exact .kept rfl
    · exact .kept (ResidentRuntime.interrupts_updateSession _)
  next =>
    split at h <;> obtain rfl := Option.some.inj h
    · exact .kept rfl
    · exact .kept (ResidentRuntime.interrupts_updateSession _)
  next =>
    split at h <;> obtain rfl := Option.some.inj h <;> exact .kept rfl
  next =>
    obtain rfl := Option.some.inj h
    exact .returned rfl hturn rfl
  next settlement todo history hphase =>
    obtain rfl := Option.some.inj h
    exact .kept (interrupts_settleTurn settlement)
  next =>
    obtain rfl := Option.some.inj h
    exact .kept ResidentRuntime.interrupts_finishTurnLane
  next => cases h

lemma interrupts_of_steerNext {steer : SteerRun} {steerStep : SteerStep}
    (h : s.steerNext? index steer steerStep = some s') :
    InterruptsChange s (.steering index steerStep) s' := by
  unfold steerNext? at h
  dsimp only at h
  split at h
  next =>
    obtain ⟨context, -, rfl⟩ := Option.map_eq_some_iff.mp h
    exact .kept (ResidentRuntime.interrupts_updateSession _)
  next =>
    obtain ⟨context, -, rfl⟩ := Option.map_eq_some_iff.mp h
    exact .kept (ResidentRuntime.interrupts_updateSession _)
  next =>
    obtain ⟨generation, -, rfl⟩ := Option.map_eq_some_iff.mp h
    exact .kept rfl
  next =>
    obtain rfl := Option.some.inj h
    exact .kept (ResidentRuntime.interrupts_acknowledgeHarnessDelivery _ _)
  next => cases h
  next cancelled _ =>
    obtain rfl := Option.some.inj h
    cases cancelled with
    | true => exact .refused rfl
    | false => exact .kept (by rw [if_neg fun hboth => Bool.noConfusion hboth.1])
  next => cases h

lemma interrupts_of_settlerNext {settler : Settler} {settlerStep : SettlerStep}
    (h : s.settlerNext? index settler settlerStep = some s') :
    s'.runtime.interrupts = s.runtime.interrupts := by
  unfold settlerNext? at h
  dsimp only at h
  split at h
  next =>
    obtain rfl := Option.some.inj h
    rfl
  next =>
    split at h <;> obtain rfl := Option.some.inj h
    · rfl
    · exact ResidentRuntime.interrupts_updateSession _
  next =>
    split at h <;> obtain rfl := Option.some.inj h
    · rfl
    · exact ResidentRuntime.interrupts_updateSession _
  next => split at h <;> obtain rfl := Option.some.inj h <;> rfl
  next =>
    obtain rfl := Option.some.inj h
    exact ResidentRuntime.interrupts_ackPending
  next => cases h

/-- What a step of the Runtime does to the interrupts. -/
lemma interrupts_of_next (h : s.next? wireLength step = some s') : InterruptsChange s step s' := by
  obtain ⟨after, heffect, rfl⟩ := RuntimeRun.exists_effect h
  suffices hchange : InterruptsChange s step after by
    cases hchange with
    | kept hinterrupts => exact .kept hinterrupts
    | marked hstep hinterrupts => exact .marked hstep hinterrupts
    | refused hstep => exact .refused hstep
    | cleared hstep hinterrupts => exact .cleared hstep hinterrupts
    | returned hstep hturn hinterrupts => exact .returned hstep hturn hinterrupts
    | reclaimed hstep hidle hinterrupts => exact .reclaimed hstep hidle hinterrupts
    | stopped hstep hinterrupts hshut => exact .stopped hstep hinterrupts hshut
  unfold effect? at heffect
  cases step with
  | reader reading =>
    refine .kept ?_
    dsimp only at heffect
    unfold readerNext? at heffect
    cases reading with
    | receive envelope | rejoin participantID cursor =>
      dsimp only at heffect
      split at heffect
      · cases heffect
      · obtain rfl := Option.some.inj heffect
        rfl
    | handle =>
      dsimp only at heffect
      split at heffect
      · split at heffect <;> obtain rfl := Option.some.inj heffect
        · rfl
        · exact ResidentRuntime.interrupts_acceptEvent _ _
      · cases heffect
    | advance =>
      dsimp only at heffect
      split at heffect
      · obtain rfl := Option.some.inj heffect
        rfl
      · cases heffect
  | noteTerminal scope | fence =>
    obtain rfl := Option.some.inj heffect
    exact .kept rfl
  | reclaim scope retained =>
    dsimp only at heffect
    split at heffect
    next hreclaimable =>
      obtain rfl := Option.some.inj heffect
      rcases ResidentRuntime.interrupts_releaseTerminalTaskScope retained with hsame | herased
      · exact .kept hsame
      · simp only [ResidentRuntime.reclaimableTaskScope, Bool.and_eq_true,
          Bool.not_eq_true'] at hreclaimable
        exact .reclaimed rfl hreclaimable.1.1.2 herased
    · cases heffect
  | retryDue scope target =>
    dsimp only at heffect
    split at heffect
    · obtain rfl := Option.some.inj heffect
      exact .kept ResidentRuntime.interrupts_takeTurnRetry
    · cases heffect
  | schedule newPass preserveRetryDelay =>
    dsimp only at heffect
    split at heffect
    · cases heffect
    · obtain rfl := Option.some.inj heffect
      refine .kept ?_
      rw [schedule]
      dsimp only
      split <;> rfl
  | launch index bound =>
    refine .kept ?_
    dsimp only at heffect
    rw [launch?] at heffect
    split at heffect
    · cases heffect
    · split at heffect
      · obtain rfl := Option.some.inj heffect
        rfl
      · dsimp only at heffect
        split at heffect
        · obtain rfl := Option.some.inj heffect
          rfl
        · split at heffect <;> obtain rfl := Option.some.inj heffect <;> rfl
  | turn index turnStep =>
    obtain ⟨turn, hturn, hnext⟩ := Option.bind_eq_some_iff.mp heffect
    exact interrupts_of_turnNext hturn hnext
  | interrupt scope target =>
    dsimp only at heffect
    split at heffect
    · obtain rfl := Option.some.inj heffect
      exact .marked rfl rfl
    · cases heffect
  | clearActivity scope =>
    obtain rfl := Option.some.inj heffect
    exact .cleared rfl rfl
  | steer control =>
    obtain rfl := Option.some.inj heffect
    refine .kept ?_
    rw [steerControl]
    dsimp only
    split
    · rfl
    · split
      · rfl
      · split
        · rfl
        · exact ResidentRuntime.interrupts_setSession _
  | steering index steerStep =>
    obtain ⟨steer, -, hnext⟩ := Option.bind_eq_some_iff.mp heffect
    exact interrupts_of_steerNext hnext
  | settle scope =>
    obtain ⟨session, -, rfl⟩ := Option.map_eq_some_iff.mp heffect
    exact .kept rfl
  | settling index settlerStep =>
    obtain ⟨settler, -, hnext⟩ := Option.bind_eq_some_iff.mp heffect
    exact .kept (interrupts_of_settlerNext hnext)
  | sessionLost scope =>
    dsimp only at heffect
    split at heffect
    · obtain rfl := Option.some.inj heffect
      exact .kept rfl
    · cases heffect
  | stop =>
    obtain rfl := Option.some.inj heffect
    exact .stopped rfl rfl rfl

lemma next_returned {outcome : TurnOutcome}
    (h : s.next? wireLength (.turn index (.returned outcome)) = some s') :
    ∃ turn generation context, s.turns[index]? = some turn ∧
      turn.phase = .running generation context ∧
      s'.runtime = s.runtime.consumeTurnInterrupted turn.scope turn.target ∧
      s'.turns = s.turns.set index { turn with
        phase := .settling (s.afterReturn turn generation context outcome) } := by
  obtain ⟨after, heffect, rfl⟩ := RuntimeRun.exists_effect h
  obtain ⟨turn, hturn, hnext⟩ := Option.bind_eq_some_iff.mp heffect
  unfold turnNext? at hnext
  dsimp only at hnext
  split at hnext <;> try contradiction
  next generation context told hphase hstep =>
    obtain rfl := TurnStep.returned.inj hstep
    obtain rfl := Option.some.inj hnext
    exact ⟨turn, generation, context, hturn, hphase, rfl, rfl⟩

lemma next_finish (h : s.next? wireLength (.turn index .finish) = some s') :
    ∃ turn, s.turns[index]? = some turn ∧ turn.phase = .settling [] ∧
      s'.turns = s.turns.eraseIdx index := by
  obtain ⟨after, heffect, rfl⟩ := RuntimeRun.exists_effect h
  obtain ⟨turn, hturn, hnext⟩ := Option.bind_eq_some_iff.mp heffect
  unfold turnNext? at hnext
  dsimp only at hnext
  split at hnext <;> try contradiction
  next hphase _ =>
    obtain rfl := Option.some.inj hnext
    exact ⟨turn, hturn, hphase, rfl⟩

lemma next_interrupt {scope : String} {target : ℕ}
    (h : s.next? wireLength (.interrupt scope target) = some s') :
    s'.runtime = s.runtime.markTurnInterrupted scope target ∧ s'.turns = s.turns ∧
      s'.history = s.history := by
  obtain ⟨after, heffect, rfl⟩ := RuntimeRun.exists_effect h
  unfold effect? at heffect
  dsimp only at heffect
  split at heffect
  · obtain rfl := Option.some.inj heffect
    exact ⟨rfl, rfl, rfl⟩
  · cases heffect

lemma next_clearActivity {scope : String}
    (h : s.next? wireLength (.clearActivity scope) = some s') :
    s'.runtime = s.runtime.clearTurnInterrupted scope ∧ s'.turns = s.turns ∧
      s'.history = s.history := by
  obtain ⟨after, heffect, rfl⟩ := RuntimeRun.exists_effect h
  obtain rfl := Option.some.inj heffect
  exact ⟨rfl, rfl, rfl⟩

end RuntimeRun

/-! ## Executions and turns -/

namespace ControlRun

variable {s : ControlRun} {scope scope' : String} {execution after : TurnExecution}
  {change : TurnExecution → TurnExecution}

lemma cases_of_updateExecution (hget : s.current.get? scope = some execution)
    (h : (s.updateExecution scope change).current.get? scope' = some after) :
    (scope' = scope ∧ after = { change execution with scope := execution.scope }) ∨
      (scope' ≠ scope ∧ s.current.get? scope' = some after) := by
  rw [updateExecution, KeyedMap.get?_modify] at h
  split at h
  next hsame =>
    rw [← hsame, hget] at h
    exact Or.inl ⟨hsame.symm, (Option.some.inj h).symm⟩
  next hne => exact Or.inr ⟨fun hsame => hne hsame.symm, h⟩

lemma contains_updateExecution : (s.updateExecution scope change).current.contains scope' =
      s.current.contains scope' := by
  rw [updateExecution, KeyedMap.contains, KeyedMap.contains, KeyedMap.get?_modify]
  split
  · exact Option.isSome_map
  · rfl

lemma get?_updateExecution (hget : s.current.get? scope = some execution) :
    (s.updateExecution scope change).current.get? scope' =
      if scope = scope' then some { change execution with scope := execution.scope }
      else s.current.get? scope' := by
  rw [updateExecution, KeyedMap.get?_modify]
  split
  next hsame => rw [← hsame, hget, Option.map_some]
  next => rfl

lemma exists_get?_updateExecution {P : TurnExecution → Prop}
    (hget : s.current.get? scope = some execution)
    (hchange : P execution → P { change execution with scope := execution.scope })
    (h : ∃ before, s.current.get? scope' = some before ∧ P before) :
    ∃ after, (s.updateExecution scope change).current.get? scope' = some after ∧ P after := by
  obtain ⟨before, hbefore, hrest⟩ := h
  rw [get?_updateExecution hget]
  split
  next hsame =>
    rw [← hsame, hget] at hbefore
    obtain rfl := Option.some.inj hbefore
    exact ⟨_, rfl, hchange hrest⟩
  next => exact ⟨before, hbefore, hrest⟩

end ControlRun

/-- Whether a turn is about to call the Harness, or has called it. -/
def TurnPhase.calls : TurnPhase → Bool
  | .rendered .. | .running .. => true
  | _ => false

/-- A turn goes on without its execution taking note of it. -/
def RuntimeStep.unrecorded : RuntimeStep → Bool
  | .turn _ (.returned _) | .turn _ .finish => false
  | _ => true

lemma RuntimeRun.Acknowledged.of_history {s s' : RuntimeRun} (hhistory : s'.history = s.history)
    {scope : String} {target : ℕ} (hacknowledged : s.Acknowledged scope target) :
    s'.Acknowledged scope target := by
  obtain ⟨delivery, hmem, hrest⟩ := hacknowledged
  refine ⟨delivery, ?_, hrest⟩
  rw [hhistory]
  exact hmem

/-- Every execution that is not over belongs to a turn, which waits for the Harness or is settled,
and the Harness executes no other turn. -/
structure ExecutionsHeld (s : ControlRun) : Prop where
  held : ∀ scope execution, s.current.get? scope = some execution →
    ∃ turn ∈ s.run.turns, turn.scope = scope ∧ turn.target = execution.target ∧
      (execution.ending = none → turn.phase.calls = true) ∧
      (execution.ending ≠ none → turn.phase.settles = true)
  begun : ∀ turn ∈ s.run.turns, (∃ generation context, turn.phase = .running generation context) →
    s.current.contains turn.scope = true

namespace ExecutionsHeld

variable {wireLength : RoomEvent → ℕ} {s : ControlRun} {run' : RuntimeRun} {step : RuntimeStep}
  {scope : String} {execution : TurnExecution} {turn : TurnRun}

section

variable (h : ExecutionsHeld s) (hlanes : LanesHeld s.run)
include h hlanes

lemma of_calls (hturn : turn ∈ s.run.turns) (hcalls : turn.phase.calls = true)
    (hget : s.current.get? turn.scope = some execution) :
    execution.ending = none ∧ execution.target = turn.target := by
  obtain ⟨other, hother, hscope, htarget, -, hsettles⟩ := h.held turn.scope execution hget
  obtain rfl := hlanes.eq_of_scope hother hturn hscope
  refine ⟨?_, htarget.symm⟩
  by_contra hending
  have := hsettles hending
  cases hphase : other.phase <;> rw [hphase] at this hcalls <;> simp [TurnPhase.calls,
    TurnPhase.settles] at this hcalls

lemma of_settles (hturn : turn ∈ s.run.turns) (hsettles : turn.phase.settles = true)
    (hget : s.current.get? turn.scope = some execution) :
    execution.ending ≠ none ∧ execution.target = turn.target := by
  obtain ⟨other, hother, hscope, htarget, hcalls, -⟩ := h.held turn.scope execution hget
  obtain rfl := hlanes.eq_of_scope hother hturn hscope
  refine ⟨fun hending => ?_, htarget.symm⟩
  have := hcalls hending
  cases hphase : other.phase <;> rw [hphase] at this hsettles <;> simp [TurnPhase.calls,
    TurnPhase.settles] at this hsettles

lemma held_of_next (hpermits : s.permits step = true) (hrecord : step.unrecorded = true)
    (hchange : TurnsChange s.run step run') (hget : s.current.get? scope = some execution) :
    ∃ turn ∈ run'.turns, turn.scope = scope ∧ turn.target = execution.target ∧
      (execution.ending = none → turn.phase.calls = true) ∧
      (execution.ending ≠ none → turn.phase.settles = true) := by
  obtain ⟨turn, hturn, hscope, htarget, hcalls, hsettles⟩ := h.held scope execution hget
  cases hchange with
  | kept hturns _ =>
    rw [hturns]
    exact ⟨turn, hturn, hscope, htarget, hcalls, hsettles⟩
  | started _ _ _ _ hturns _ =>
    rw [hturns]
    exact ⟨turn, List.mem_append_left _ hturn, hscope, htarget, hcalls, hsettles⟩
  | finished hstep _ _ _ _ =>
    rw [hstep] at hrecord
    cases hrecord
  | @advanced index other turnStep phase hstep hother hadvance hturns _ =>
    rw [hturns]
    by_cases hsame : turn.scope = other.scope
    · -- The turn of the execution advances.
      obtain rfl := hlanes.eq_of_scope hturn (List.mem_of_getElem? hother) hsame
      have hlt := (List.getElem?_eq_some_iff.mp hother).1
      refine ⟨{ turn with phase }, List.mem_set hlt _, hscope, htarget, fun hending => ?_,
        fun hending => ?_⟩
      swap
      · show phase.settles = true
        by_contra hnot
        have := hadvance.settles_of_settles (eq_false_of_ne_true hnot)
        rw [hsettles hending] at this
        cases this
      have hwas := hcalls hending
      cases hadvance with
      | adopts hphase | admitted hphase | refused hphase | observed hphase | reads hphase
      | found hphase | recovered hphase | settles hphase =>
        rw [hphase] at hwas
        cases hwas
      | admits hphase =>
        rcases hphase with hphase | ⟨after, hphase⟩ <;> rw [hphase] at hwas <;> cases hwas
      | unavailable hphase =>
        rcases hphase with ⟨generation, hphase⟩ | ⟨generation, after, hphase⟩ <;>
          rw [hphase] at hwas <;> cases hwas
      | dispatched hphase => rfl
      | unsent hphase =>
        -- A turn that is the activity of its scope calls the Harness.
        rw [hstep, ControlRun.permits, hother, Option.all_some, ControlRun.permitsTurn, hscope,
          KeyedMap.contains, hget] at hpermits
        cases hpermits
      | returned hphase =>
        rw [hstep] at hrecord
        cases hrecord
    · have hne : turn ≠ other := by
        rintro rfl
        exact hsame rfl
      exact ⟨turn, (RuntimeRun.mem_of_ne_index hturn hother hne).2 _, hscope, htarget, hcalls,
        hsettles⟩

end

lemma begun_of_next (h : ExecutionsHeld s) (hpermits : s.permits step = true)
    (hrecord : step.unrecorded = true) (hchange : TurnsChange s.run step run')
    (hturn : turn ∈ run'.turns)
    (hrunning : ∃ generation context, turn.phase = .running generation context) :
    s.current.contains turn.scope = true := by
  cases hchange with
  | kept hturns _ =>
    rw [hturns] at hturn
    exact h.begun turn hturn hrunning
  | started _ _ _ _ hturns _ =>
    rw [hturns, List.mem_append, List.mem_singleton] at hturn
    rcases hturn with hold | rfl
    · exact h.begun turn hold hrunning
    · obtain ⟨generation, context, hphase⟩ := hrunning
      cases hphase
  | finished hstep _ _ _ _ =>
    rw [hstep] at hrecord
    cases hrecord
  | @advanced index other turnStep phase hstep hother hadvance hturns _ =>
    rw [hturns] at hturn
    rcases List.mem_or_eq_of_mem_set hturn with hold | rfl
    · exact h.begun turn hold hrunning
    · obtain ⟨generation, context, hphase⟩ := hrunning
      dsimp only at hphase
      rw [hphase] at hadvance
      cases hadvance with
      | dispatched hrendered =>
        rw [hstep, ControlRun.permits, hother, Option.all_some, ControlRun.permitsTurn,
          beq_iff_eq] at hpermits
        exact hpermits.symm

lemma of_turns (h : ExecutionsHeld s) {s' : ControlRun} (hturns : s'.run.turns = s.run.turns)
    (hcurrent : ∀ scope execution, s'.current.get? scope = some execution →
      ∃ before, s.current.get? scope = some before ∧ execution.target = before.target ∧
        execution.ending = before.ending)
    (hkept : ∀ scope, s.current.contains scope = true → s'.current.contains scope = true) :
    ExecutionsHeld s' where
  held scope execution hget := by
    obtain ⟨before, hbefore, htarget, hending⟩ := hcurrent scope execution hget
    rw [hturns, htarget, hending]
    exact h.held scope before hbefore
  begun turn hturn hrunning := by
    rw [hturns] at hturn
    exact hkept turn.scope (h.begun turn hturn hrunning)

end ExecutionsHeld

/-! ## How executions end -/

/-- What is known of one execution: an accepted interrupt is how it ends, if it ends so its
instruction was consumed, and it only replies if it succeeds. -/
structure TurnExecution.Sound (execution : TurnExecution) (acknowledged : Prop) : Prop where
  terminal : execution.accepted = true → ∀ ending, execution.ending = some ending →
    ending = .interrupted
  interrupted : execution.ending = some .interrupted → execution.accepted = true ∧ acknowledged
  replied : execution.replied = true → execution.ending = some .succeeded

/-- Every execution is sound, and one whose interrupt was accepted is the last of its
instruction. -/
structure EndingsHeld (s : ControlRun) : Prop where
  sound : ∀ execution, s.Executed execution →
    execution.Sound (s.run.Acknowledged execution.scope execution.target)
  ended : ∀ execution ∈ s.past, execution.ending ≠ none
  once : s.past.Pairwise fun earlier later => earlier.accepted = true →
    (later.scope, later.target) ≠ (earlier.scope, earlier.target)
  last : ∀ earlier ∈ s.past, earlier.accepted = true → ∀ execution ∈ s.current.values,
    (execution.scope, execution.target) ≠ (earlier.scope, earlier.target)

namespace EndingsHeld

variable {s s' : ControlRun}

lemma acknowledged_of_accepted (h : EndingsHeld s) {execution : TurnExecution}
    (hpast : execution ∈ s.past) (haccepted : execution.accepted = true) :
    s.run.Acknowledged execution.scope execution.target := by
  have hsound := h.sound execution (Or.inr hpast)
  obtain ⟨ending, hending⟩ := Option.ne_none_iff_exists'.mp (h.ended execution hpast)
  obtain rfl := hsound.terminal haccepted ending hending
  exact (hsound.interrupted hending).2

lemma of_current (h : EndingsHeld s) (hpast : s'.past = s.past)
    (hacknowledged : ∀ scope target, s.run.Acknowledged scope target →
      s'.run.Acknowledged scope target) (hsound : ∀ execution ∈ s'.current.values,
      execution.Sound (s'.run.Acknowledged execution.scope execution.target))
    (hcurrent : ∀ execution ∈ s'.current.values, ∃ before ∈ s.current.values,
      execution.scope = before.scope ∧ execution.target = before.target) : EndingsHeld s' where
  sound execution hexecuted := by
    rcases hexecuted with hmem | hmem
    · exact hsound execution hmem
    · rw [hpast] at hmem
      obtain ⟨hterminal, hinterrupted, hreplied⟩ := h.sound execution (Or.inr hmem)
      exact ⟨hterminal, fun hending => (hinterrupted hending).imp id (hacknowledged _ _), hreplied⟩
  ended := by
    rw [hpast]
    exact h.ended
  once := by
    rw [hpast]
    exact h.once
  last earlier hmem haccepted execution hexecution := by
    rw [hpast] at hmem
    obtain ⟨before, hbefore, hscope, htarget⟩ := hcurrent execution hexecution
    rw [hscope, htarget]
    exact h.last earlier hmem haccepted before hbefore

lemma of_update (h : EndingsHeld s) {scope : String} {execution : TurnExecution}
    (hget : s.current.get? scope = some execution) (change : TurnExecution → TurnExecution)
    (hpast : s'.past = s.past) (hcurrent : s'.current = (s.updateExecution scope change).current)
    (hacknowledged : ∀ scope target, s.run.Acknowledged scope target →
      s'.run.Acknowledged scope target) (htarget : (change execution).target = execution.target)
    (hsound : ({ change execution with scope := execution.scope } : TurnExecution).Sound
      (s'.run.Acknowledged execution.scope execution.target)) :
    EndingsHeld s' := by
  have hcases : ∀ after ∈ s'.current.values,
      after = { change execution with scope := execution.scope } ∨ after ∈ s.current.values := by
    intro after hmem
    have hafter := KeyedMap.get?_key hmem
    rw [hcurrent] at hafter
    exact (ControlRun.cases_of_updateExecution hget hafter).imp And.right
      fun hbefore => KeyedMap.mem_of_get? hbefore.2
  refine h.of_current hpast hacknowledged (fun after hmem => ?_) fun after hmem => ?_
  · rcases hcases after hmem with rfl | hbefore
    · show ({ change execution with scope := execution.scope } : TurnExecution).Sound
        (s'.run.Acknowledged execution.scope (change execution).target)
      rw [htarget]
      exact hsound
    · obtain ⟨hterminal, hinterrupted, hreplied⟩ := h.sound after (Or.inl hbefore)
      exact ⟨hterminal, fun hending => (hinterrupted hending).imp id (hacknowledged _ _), hreplied⟩
  · rcases hcases after hmem with rfl | hbefore
    · exact ⟨execution, KeyedMap.mem_of_get? hget, rfl, htarget⟩
    · exact ⟨after, hbefore, rfl, rfl⟩

end EndingsHeld

/-! ## The invariant -/

/-- Everything that the properties rest on. -/
structure ControlInvariant (s : ControlRun) : Prop where
  scheduling : SchedulingInvariant s.run
  executions : ExecutionsHeld s
  active : ∀ scope activity, s.activities.get? scope = some activity → scope ≠ roomScope →
    ∃ execution, s.current.get? scope = some execution ∧ execution.target = activity.sequence ∧
      execution.finished = false
  marked : ∀ scope target, s.run.runtime.turnInterrupted scope target = true →
    ∃ execution, s.current.get? scope = some execution ∧ execution.target = target ∧
      execution.accepted = true ∧ execution.ending = none
  awaits : ∀ scope execution, s.current.get? scope = some execution →
    execution.accepted = true → execution.ending = none →
      s.run.runtime.isShuttingDown = true ∨
        s.run.runtime.turnInterrupted scope execution.target = true
  endings : EndingsHeld s

lemma ResidentRuntime.turnInterrupted_congr {r r' : ResidentRuntime}
    (hinterrupts : r'.interrupts = r.interrupts) (scope : String) (target : ℕ) :
    r'.turnInterrupted scope target = r.turnInterrupted scope target := by
  rw [turnInterrupted, turnInterrupted, hinterrupts]

lemma ResidentRuntime.turnInterrupted_erase {r r' : ResidentRuntime} {scope : String}
    (hinterrupts : r'.interrupts = r.interrupts.erase scope) (scope' : String) (target : ℕ) :
    r'.turnInterrupted scope' target =
      if scope = scope' then false else r.turnInterrupted scope' target := by
  rw [turnInterrupted, turnInterrupted, hinterrupts, KeyedMap.get?_erase]
  split <;> rfl

namespace ControlInvariant

variable {wireLength : RoomEvent → ℕ} {s : ControlRun} {run' : RuntimeRun} {step : RuntimeStep}

lemma of_init {participantID : String} {cursor turnLanes : ℕ} : ControlInvariant
      { run := { runtime := firstJoin participantID cursor turnLanes, received := cursor } } where
  scheduling := .of_init
  executions := by
    constructor
    · intro _ _ hget
      cases hget
    · exact fun _ hmem => absurd hmem List.not_mem_nil
  active _ _ hget := by cases hget
  marked _ _ hmarked := by cases hmarked
  awaits _ _ hget := by cases hget
  endings := by
    constructor
    · rintro _ (hmem | hmem) <;> exact absurd hmem List.not_mem_nil
    · exact fun _ hmem => absurd hmem List.not_mem_nil
    · exact List.Pairwise.nil
    · exact fun _ hmem => absurd hmem List.not_mem_nil

lemma of_base (h : ControlInvariant s) (hguard : s.run.startsFresh step = true)
    (hpermits : s.permits step = true) (hrecord : step.unrecorded = true)
    (hnext : s.run.next? wireLength step = some run') : ControlInvariant { s with run := run' } := by
  have houtcome := RuntimeRun.outcome_of_next hnext
  have hlanes := h.scheduling.lanes
  refine ⟨h.scheduling.of_next hguard hnext, ⟨fun scope execution hget => ?_,
    fun turn hturn hrunning => ?_⟩, h.active, fun scope target hmarked => ?_,
    fun scope execution hget haccepted hending => ?_, ?_⟩
  · exact h.executions.held_of_next hlanes hpermits hrecord houtcome.turns hget
  · exact h.executions.begun_of_next hpermits hrecord houtcome.turns hturn hrunning
  · refine h.marked scope target ?_
    cases RuntimeRun.interrupts_of_next hnext with
    | kept hinterrupts => rwa [← ResidentRuntime.turnInterrupted_congr hinterrupts]
    | marked hstep _ | refused hstep | cleared hstep _ =>
      rw [hstep] at hpermits
      cases hpermits
    | returned hstep _ _ =>
      rw [hstep] at hrecord
      cases hrecord
    | reclaimed _ _ hinterrupts =>
      rw [ResidentRuntime.turnInterrupted_erase hinterrupts] at hmarked
      split at hmarked
      · cases hmarked
      · exact hmarked
    | stopped _ hinterrupts _ =>
      rw [ResidentRuntime.turnInterrupted, hinterrupts] at hmarked
      cases hmarked
  · have hwas := h.awaits scope execution hget haccepted hending
    cases RuntimeRun.interrupts_of_next hnext with
    | kept hinterrupts =>
      refine hwas.imp (ConsumedHeld.isShuttingDown_mono houtcome) fun hmarked => ?_
      rwa [ResidentRuntime.turnInterrupted_congr hinterrupts]
    | marked hstep _ | refused hstep | cleared hstep _ =>
      rw [hstep] at hpermits
      cases hpermits
    | returned hstep _ _ =>
      rw [hstep] at hrecord
      cases hrecord
    | reclaimed _ hidle hinterrupts =>
      refine hwas.imp (ConsumedHeld.isShuttingDown_mono houtcome) fun hmarked => ?_
      rw [ResidentRuntime.turnInterrupted_erase hinterrupts, if_neg]
      · exact hmarked
      · -- A scope with a turn in its lane is not given back.
        rintro rfl
        obtain ⟨turn, hturn, rfl, -⟩ := h.executions.held _ execution hget
        obtain ⟨lane, hlane, -⟩ := hlanes.lanes turn hturn
        rw [KeyedMap.contains, hlane] at hidle
        cases hidle
    | stopped _ _ hshut => exact Or.inl hshut
  · refine h.endings.of_current rfl (fun _ _ => houtcome.recorded.acknowledged) ?_
      fun execution hmem => ⟨execution, hmem, rfl, rfl⟩
    intro execution hmem
    obtain ⟨hterminal, hinterrupted, hreplied⟩ := h.endings.sound execution (Or.inl hmem)
    exact ⟨hterminal, fun hending => (hinterrupted hending).imp id houtcome.recorded.acknowledged,
      hreplied⟩

lemma turnInterrupted_consume {r : ResidentRuntime} {scope : String} {target : ℕ}
    (scope' : String) (target' : ℕ) :
    (r.consumeTurnInterrupted scope target).turnInterrupted scope' target' =
      if scope = scope' ∧ r.turnInterrupted scope target = true then false
      else r.turnInterrupted scope' target' := by
  rw [ResidentRuntime.consumeTurnInterrupted]
  split
  next hmarked =>
    rw [ResidentRuntime.turnInterrupted_erase (r := r) rfl]
    by_cases hsame : scope = scope'
    · rw [if_pos hsame, if_pos ⟨hsame, hmarked⟩]
    · rw [if_neg hsame, if_neg fun hboth => hsame hboth.1]
  next hmarked => rw [if_neg fun hboth => hmarked hboth.2]

lemma target_of_marked (h : ControlInvariant s) {scope : String} {target : ℕ}
    {execution : TurnExecution} (hget : s.current.get? scope = some execution)
    (hmarked : s.run.runtime.turnInterrupted scope target = true) :
    target = execution.target ∧ execution.accepted = true ∧ execution.ending = none := by
  obtain ⟨other, hother, htarget, haccepted, hending⟩ := h.marked scope target hmarked
  rw [hget] at hother
  obtain rfl := Option.some.inj hother
  exact ⟨htarget.symm, haccepted, hending⟩

variable {index : ℕ}

section

variable (h : ControlInvariant s)
include h

/-- A turn that looks for its interrupt, and does not drop it, keeps the invariant. -/
lemma of_returned {outcome : TurnOutcome}
    (hguard : s.run.startsFresh (.turn index (.returned outcome)) = true)
    (hkept : s.dropsInterrupt (.turn index (.returned outcome)) = false)
    (hnext : s.run.next? wireLength (.turn index (.returned outcome)) = some run') :
    ControlInvariant { s.record (.turn index (.returned outcome)) with run := run' } := by
  have houtcome := RuntimeRun.outcome_of_next hnext
  have hlanes := h.scheduling.lanes
  obtain ⟨turn, generation, context, hturn, hphase, hruntime, hturns⟩ :=
    RuntimeRun.next_returned hnext
  have hmem := List.mem_of_getElem? hturn
  have hcalls : turn.phase.calls = true := by
    rw [hphase]
    rfl
  have hrecord : s.record (.turn index (.returned outcome)) =
      s.recordTurn turn (.returned outcome) := by
    rw [ControlRun.record, hturn, Option.elim_some]
  obtain ⟨execution, hget⟩ :=
    KeyedMap.contains_iff.mp (h.executions.begun turn hmem ⟨generation, context, hphase⟩)
  obtain ⟨hending, htarget⟩ := h.executions.of_calls hlanes hmem hcalls hget
  rw [hrecord, ControlRun.recordTurn]
  refine ⟨h.scheduling.of_next hguard hnext, ⟨fun scope after hafter => ?_,
    fun other hother hrunning => ?_⟩, fun scope activity hactivity hscope => ?_,
    fun scope target hmarked => ?_, fun scope after hafter haccepted hnone => ?_, ?_⟩
  · rcases ControlRun.cases_of_updateExecution hget hafter with ⟨rfl, rfl⟩ | ⟨hne, hbefore⟩
    · refine ⟨{ turn with
        phase := .settling (s.run.afterReturn turn generation context outcome) }, ?_, rfl,
        htarget.symm, fun hnone => ?_, fun _ => rfl⟩
      swap
      · cases hnone
      rw [hturns]
      exact List.mem_set (List.getElem?_eq_some_iff.mp hturn).1 _
    · obtain ⟨other, hother, hscope, hrest⟩ := h.executions.held scope after hbefore
      refine ⟨other, ?_, hscope, hrest⟩
      rw [hturns]
      refine (RuntimeRun.mem_of_ne_index hother hturn ?_).2 _
      rintro rfl
      exact hne hscope.symm
  · rw [hturns] at hother
    dsimp only
    rw [ControlRun.contains_updateExecution]
    rcases List.mem_or_eq_of_mem_set hother with hold | rfl
    · exact h.executions.begun other hold hrunning
    · obtain ⟨_, _, hsettling⟩ := hrunning
      cases hsettling
  · exact ControlRun.exists_get?_updateExecution hget id (h.active scope activity hactivity hscope)
  · rw [hruntime, turnInterrupted_consume] at hmarked
    split at hmarked
    · cases hmarked
    next hnot =>
      rw [ControlRun.get?_updateExecution hget, if_neg]
      · exact h.marked scope target hmarked
      · -- The turn has looked for its interrupt.
        rintro rfl
        obtain ⟨rfl, -, -⟩ := h.target_of_marked hget hmarked
        exact hnot ⟨rfl, by rwa [htarget] at hmarked⟩
  · rcases ControlRun.cases_of_updateExecution hget hafter with ⟨rfl, rfl⟩ | ⟨hne, hbefore⟩
    · cases hnone
    · refine (h.awaits scope after hbefore haccepted hnone).imp
        (ConsumedHeld.isShuttingDown_mono houtcome) fun hmarked => ?_
      rw [hruntime, turnInterrupted_consume, if_neg fun hboth => hne hboth.1.symm]
      exact hmarked
  · refine h.endings.of_update hget (fun execution => { execution with ending := some _ })
      rfl rfl (fun _ _ => houtcome.recorded.acknowledged) rfl ?_
    have hscope : execution.scope = turn.scope := KeyedMap.key_of_get? hget
    have hsound := h.endings.sound execution (Or.inl (KeyedMap.mem_of_get? hget))
    refine ⟨fun haccepted ending hsome => ?_, fun hinterrupted => ?_, fun hreplied => ?_⟩
    · -- The turn finds the interrupt that was accepted for it.
      rw [ControlRun.dropsInterrupt, hturn, Option.any_some, ControlRun.awaitsInterrupt, hget,
        Option.any_some, hending] at hkept
      rw [show execution.accepted = true from haccepted] at hkept
      have hboth : s.run.runtime.isShuttingDown = false ∧ outcome ≠ .busy := by
        simpa using hkept
      have hmarked : s.run.runtime.turnInterrupted turn.scope turn.target = true := by
        rw [← htarget]
        refine (h.awaits turn.scope execution hget haccepted hending).resolve_left ?_
        rw [hboth.1]
        exact Bool.noConfusion
      rw [hboth.1, hmarked] at hsome
      cases outcome with
      | busy => exact absurd rfl hboth.2
      | terminalFailure | failed _ | succeeded => exact (Option.some.inj hsome).symm
    · have hsome : outcome.ending s.run.runtime.isShuttingDown
          (s.run.runtime.turnInterrupted turn.scope turn.target) = .interrupted :=
        Option.some.inj hinterrupted
      have hmarked : s.run.runtime.turnInterrupted turn.scope turn.target = true ∧
          outcome.consumes true = true := by
        unfold TurnOutcome.ending at hsome
        split at hsome
        · cases hsome
        · cases hflag : s.run.runtime.turnInterrupted turn.scope turn.target <;>
            rw [hflag] at hsome <;> cases outcome <;>
            first | cases hsome; done | exact ⟨rfl, rfl⟩
      refine ⟨(h.target_of_marked hget hmarked.1).2.1, ?_⟩
      rw [hscope, htarget]
      have hconsumed : HarnessEvent.acknowledged
          { scope := turn.scope, target := turn.target, context, generation } ∈
            s.run.harnessEventsBy (.turn index (.returned outcome)) := by
        simp [RuntimeRun.harnessEventsBy, hturn, hphase, hmarked.1, hmarked.2]
      exact houtcome.recorded.acknowledged_of_mem hconsumed
    · rw [hsound.replied hreplied] at hending
      cases hending

/-- A turn that gives its lane back keeps the invariant. -/
lemma of_finish (hguard : s.run.startsFresh (.turn index .finish) = true)
    (hpermits : s.permits (.turn index .finish) = true)
    (hnext : s.run.next? wireLength (.turn index .finish) = some run') :
    ControlInvariant { s.record (.turn index .finish) with run := run' } := by
  have houtcome := RuntimeRun.outcome_of_next hnext
  have hlanes := h.scheduling.lanes
  obtain ⟨turn, hturn, hphase, hturns⟩ := RuntimeRun.next_finish hnext
  have hmem := List.mem_of_getElem? hturn
  have hsettles : turn.phase.settles = true := by
    rw [hphase]
    rfl
  have hrecord : s.record (.turn index .finish) = s.recordTurn turn .finish := by
    rw [ControlRun.record, hturn, Option.elim_some]
  have hinterrupts : run'.runtime.interrupts = s.run.runtime.interrupts := by
    cases RuntimeRun.interrupts_of_next hnext with
    | kept hinterrupts => exact hinterrupts
    | marked hstep _ | refused hstep | cleared hstep _ | returned hstep _ _ | reclaimed hstep _ _
    | stopped hstep _ _ => cases hstep
  have hfinished : ∀ execution, s.current.get? turn.scope = some execution →
      execution.finished = true := by
    intro execution hget
    rw [ControlRun.permits, hturn, Option.all_some, ControlRun.permitsTurn, hget] at hpermits
    exact hpermits
  rw [hrecord, ControlRun.recordTurn]
  refine ⟨h.scheduling.of_next hguard hnext, ⟨fun scope execution hget => ?_,
    fun other hother hrunning => ?_⟩, fun scope activity hactivity hscope => ?_,
    fun scope target hmarked => ?_, fun scope execution hget haccepted hnone => ?_,
    ⟨fun execution hexecuted => ?_, fun execution hpast => ?_, ?_,
      fun earlier hpast haccepted execution hcurrent => ?_⟩⟩
  · dsimp only at hget
    rw [KeyedMap.get?_erase] at hget
    split at hget
    · cases hget
    next hne =>
      obtain ⟨other, hother, hscope, hrest⟩ := h.executions.held scope execution hget
      refine ⟨other, ?_, hscope, hrest⟩
      rw [hturns]
      refine (RuntimeRun.mem_of_ne_index hother hturn ?_).1
      rintro rfl
      exact hne hscope
  · rw [hturns, List.mem_eraseIdx_iff_getElem?] at hother
    obtain ⟨i, hindex, hi⟩ := hother
    dsimp only
    rw [KeyedMap.contains, KeyedMap.get?_erase, if_neg]
    · exact h.executions.begun other (List.mem_of_getElem? hi) hrunning
    · intro hsame
      exact hindex (hlanes.index_eq hi hturn hsame.symm)
  · obtain ⟨execution, hget, hsequence, hopen⟩ := h.active scope activity hactivity hscope
    refine ⟨execution, ?_, hsequence, hopen⟩
    dsimp only
    rw [KeyedMap.get?_erase, if_neg]
    · exact hget
    · rintro rfl
      rw [hfinished execution hget] at hopen
      cases hopen
  · rw [ResidentRuntime.turnInterrupted_congr hinterrupts] at hmarked
    obtain ⟨execution, hget, htarget, haccepted, hending⟩ := h.marked scope target hmarked
    refine ⟨execution, ?_, htarget, haccepted, hending⟩
    dsimp only
    rw [KeyedMap.get?_erase, if_neg]
    · exact hget
    · rintro rfl
      exact (h.executions.of_settles hlanes hmem hsettles hget).1 hending
  · dsimp only at hget
    rw [KeyedMap.get?_erase] at hget
    split at hget
    · cases hget
    · refine (h.awaits scope execution hget haccepted hnone).imp
        (ConsumedHeld.isShuttingDown_mono houtcome) fun hmarked => ?_
      rwa [ResidentRuntime.turnInterrupted_congr hinterrupts]
  · have hbefore : s.Executed execution := by
      rcases hexecuted with hcurrent | hpast
      · exact Or.inl (KeyedMap.mem_erase.mp hcurrent).1
      · rcases List.mem_append.mp hpast with hold | hlast
        · exact Or.inr hold
        · exact Or.inl (KeyedMap.mem_of_get? (Option.mem_toList.mp hlast))
    obtain ⟨hterminal, hinterrupted, hreplied⟩ := h.endings.sound execution hbefore
    exact ⟨hterminal, fun hending => (hinterrupted hending).imp id houtcome.recorded.acknowledged,
      hreplied⟩
  · rcases List.mem_append.mp hpast with hold | hlast
    · exact h.endings.ended execution hold
    · exact (h.executions.of_settles hlanes hmem hsettles (Option.mem_toList.mp hlast)).1
  · refine List.pairwise_append.mpr ⟨h.endings.once, ?_, fun earlier hold later hlast haccepted =>
      h.endings.last earlier hold haccepted later
        (KeyedMap.mem_of_get? (Option.mem_toList.mp hlast))⟩
    cases s.current.get? turn.scope with
    | none => exact List.Pairwise.nil
    | some execution => exact List.pairwise_singleton _ _
  · obtain ⟨hbefore, hne⟩ := KeyedMap.mem_erase.mp hcurrent
    rcases List.mem_append.mp hpast with hold | hlast
    · exact h.endings.last earlier hold haccepted execution hbefore
    · have hscope : earlier.scope = turn.scope :=
        KeyedMap.key_of_get? (Option.mem_toList.mp hlast)
      rw [hscope]
      exact fun hsame => hne (Prod.mk.inj hsame).1

/-- A turn that becomes the activity of its scope keeps the invariant. -/
lemma of_beginActivity {turn : TurnRun} {generation : ℕ}
    {context : FrozenContext} (hturn : s.run.turns[index]? = some turn)
    (hphase : turn.phase = .rendered generation context)
    (hnone : s.current.contains turn.scope = false) : ControlInvariant { s with
      activities := beginActivity s.activities turn.scope turn.target
      current := s.current.set { scope := turn.scope, target := turn.target } } := by
  have hmem := List.mem_of_getElem? hturn
  have hnew : ∀ scope execution, s.current.get? scope = some execution → turn.scope ≠ scope := by
    rintro scope execution hget rfl
    rw [KeyedMap.contains, hget] at hnone
    cases hnone
  refine ⟨h.scheduling, ⟨fun scope execution hget => ?_, fun other hother hrunning => ?_⟩,
    fun scope activity hactivity hscope => ?_, fun scope target hmarked => ?_,
    fun scope execution hget haccepted hending => ?_, ⟨fun execution hexecuted => ?_,
      h.endings.ended, h.endings.once, fun earlier hpast haccepted execution hcurrent => ?_⟩⟩
  · dsimp only at hget
    rw [KeyedMap.get?_set] at hget
    split at hget
    next hsame =>
      obtain rfl := Option.some.inj hget
      refine ⟨turn, hmem, hsame, rfl, fun _ => ?_, fun hending => absurd rfl hending⟩
      rw [hphase]
      rfl
    next => exact h.executions.held scope execution hget
  · dsimp only
    obtain ⟨execution, hget⟩ := KeyedMap.contains_iff.mp (h.executions.begun other hother hrunning)
    rw [KeyedMap.contains, KeyedMap.get?_set_of_ne _ (hnew _ _ hget), hget]
    rfl
  · dsimp only at hactivity ⊢
    rw [KeyedMap.get?_set, TurnExecution.key_eq]
    rw [beginActivity] at hactivity
    split at hactivity
    · rw [KeyedMap.get?_set, ActivityTurn.key_eq] at hactivity
      split at hactivity
      next hsame =>
        obtain rfl := Option.some.inj hactivity
        rw [if_pos hsame]
        exact ⟨_, rfl, rfl, rfl⟩
      next hne =>
        rw [if_neg hne]
        exact h.active scope activity hactivity hscope
    · obtain ⟨execution, hget, hrest⟩ := h.active scope activity hactivity hscope
      rw [if_neg (hnew scope execution hget)]
      exact ⟨execution, hget, hrest⟩
  · obtain ⟨execution, hget, hrest⟩ := h.marked scope target hmarked
    refine ⟨execution, ?_, hrest⟩
    dsimp only
    rw [KeyedMap.get?_set_of_ne _ (hnew scope execution hget)]
    exact hget
  · dsimp only at hget
    rw [KeyedMap.get?_set] at hget
    split at hget
    · obtain rfl := Option.some.inj hget
      cases haccepted
    · exact h.awaits scope execution hget haccepted hending
  · rcases hexecuted with hcurrent | hpast
    · rcases KeyedMap.mem_set.mp hcurrent with rfl | ⟨hold, -⟩
      · refine ⟨fun haccepted => ?_, fun hending => ?_, fun hreplied => ?_⟩
        · cases haccepted
        · cases hending
        · cases hreplied
      · exact h.endings.sound execution (Or.inl hold)
    · exact h.endings.sound execution (Or.inr hpast)
  · rcases KeyedMap.mem_set.mp hcurrent with rfl | ⟨hold, -⟩
    · -- The Harness consumed the instruction, and the turn would not be about to call it.
      intro hsame
      obtain ⟨hscope, htarget⟩ := Prod.mk.inj hsame
      refine h.scheduling.consumed.unconsumed turn hmem (by rw [hphase]; rfl) ?_
      rw [show turn.scope = earlier.scope from hscope, show turn.target = earlier.target from htarget]
      exact h.endings.acknowledged_of_accepted hpast haccepted
    · exact h.endings.last earlier hpast haccepted execution hold

/-- An interrupt that is accepted in time keeps the invariant. -/
lemma of_interrupt {scope : String} {turnSequence : ℕ}
    (hscope : scope ≠ roomScope) (hactive : isActivityOf s.activities scope turnSequence = true)
    (htimely : (s.current.get? scope).all (·.ending.isNone) = true)
    (hnext : s.run.next? wireLength (.interrupt scope turnSequence) = some run') :
    ControlInvariant { s.updateExecution scope fun execution =>
      { execution with
        accepted := execution.accepted || execution.target = turnSequence } with run := run' } := by
  obtain ⟨hruntime, hturns, hhistory⟩ := RuntimeRun.next_interrupt hnext
  obtain ⟨activity, hactivity, hsequence⟩ := (Option.any_eq_true _ _).mp hactive
  obtain ⟨execution, hget, htarget, hopen⟩ := h.active scope activity hactivity hscope
  rw [of_decide_eq_true hsequence] at htarget
  have hending : execution.ending = none := by
    rw [hget, Option.all_some, Option.isNone_iff_eq_none] at htimely
    exact htimely
  have hmark : ∀ scope' target, run'.runtime.turnInterrupted scope' target =
      if scope = scope' then decide (turnSequence = target)
      else s.run.runtime.turnInterrupted scope' target := by
    intro scope' target
    rw [hruntime, ResidentRuntime.turnInterrupted, ResidentRuntime.markTurnInterrupted,
      KeyedMap.get?_set]
    show Option.any _ (if scope = scope' then _ else _) = _
    split <;> rfl
  have hshut : run'.runtime.isShuttingDown = s.run.runtime.isShuttingDown := by
    rw [hruntime]
    rfl
  refine ⟨h.scheduling.of_next rfl hnext, h.executions.of_turns hturns
    (fun other after hafter => ?_) fun other hcontains =>
      ControlRun.contains_updateExecution.trans hcontains,
    fun other activity' hactivity' hother => ?_, fun other target hmarked => ?_,
    fun other after hafter haccepted hnone => ?_, ?_⟩
  · rcases ControlRun.cases_of_updateExecution hget hafter with ⟨rfl, rfl⟩ | ⟨-, hbefore⟩
    · exact ⟨execution, hget, rfl, rfl⟩
    · exact ⟨after, hbefore, rfl, rfl⟩
  · exact ControlRun.exists_get?_updateExecution hget id (h.active other activity' hactivity' hother)
  · rw [hmark] at hmarked
    dsimp only
    rw [ControlRun.get?_updateExecution hget]
    split at hmarked
    next hsame =>
      rw [if_pos hsame]
      refine ⟨_, rfl, htarget.trans (of_decide_eq_true hmarked), ?_, hending⟩
      show (execution.accepted || decide (execution.target = turnSequence)) = true
      rw [htarget, decide_eq_true rfl, Bool.or_true]
    next hne =>
      rw [if_neg hne]
      exact h.marked other target hmarked
  · rw [hshut, hmark]
    rcases ControlRun.cases_of_updateExecution hget hafter with ⟨rfl, rfl⟩ | ⟨hne, hbefore⟩
    · rw [if_pos rfl]
      exact Or.inr (decide_eq_true htarget.symm)
    · rw [if_neg (Ne.symm hne)]
      exact h.awaits other after hbefore haccepted hnone
  · have hsound := h.endings.sound execution (Or.inl (KeyedMap.mem_of_get? hget))
    refine h.endings.of_update hget (fun execution => { execution with
      accepted := execution.accepted || decide (execution.target = turnSequence) }) rfl rfl
      (fun _ _ => RuntimeRun.Acknowledged.of_history hhistory) rfl ?_
    refine ⟨fun _ ending hsome => ?_, fun hinterrupted => ?_, fun hreplied => ?_⟩
    · rw [show execution.ending = some ending from hsome] at hending
      cases hending
    · rw [show execution.ending = some .interrupted from hinterrupted] at hending
      cases hending
    · rw [hsound.replied hreplied] at hending
      cases hending

/-- A turn that is no longer the activity of its scope keeps the invariant. Its interrupt, if there
is one, is forgotten. -/
lemma of_finishActivity {turn : TurnRun}
    {execution : TurnExecution} (hturn : s.run.turns[index]? = some turn)
    (hget : s.current.get? turn.scope = some execution) (hending : execution.ending ≠ none)
    (hscheduling : SchedulingInvariant run') (hturns : run'.turns = s.run.turns)
    (hhistory : run'.history = s.run.history)
    (hshut : run'.runtime.isShuttingDown = s.run.runtime.isShuttingDown)
    (hinterrupts : ∀ scope target, run'.runtime.turnInterrupted scope target =
      if turn.scope = scope then false else s.run.runtime.turnInterrupted scope target) :
    ControlInvariant { s.updateExecution turn.scope fun execution =>
      { execution with finished := true } with
      run := run'
      activities := finishActivity s.activities turn.scope turn.target } := by
  have hmem := List.mem_of_getElem? hturn
  have htarget : execution.target = turn.target := by
    obtain ⟨other, hother, hscope, hsame, -⟩ := h.executions.held turn.scope execution hget
    obtain rfl := h.scheduling.lanes.eq_of_scope hother hmem hscope
    exact hsame.symm
  refine ⟨hscheduling, h.executions.of_turns hturns (fun other after hafter => ?_)
    fun other hcontains => ControlRun.contains_updateExecution.trans hcontains,
    fun other activity hactivity hother => ?_, fun other target hmarked => ?_,
    fun other after hafter haccepted hnone => ?_, ?_⟩
  · rcases ControlRun.cases_of_updateExecution hget hafter with ⟨rfl, rfl⟩ | ⟨-, hbefore⟩
    · exact ⟨execution, hget, rfl, rfl⟩
    · exact ⟨after, hbefore, rfl, rfl⟩
  · dsimp only at hactivity ⊢
    have hkept : s.activities.get? other = some activity ∧ turn.scope ≠ other := by
      rw [finishActivity] at hactivity
      split at hactivity
      · rw [KeyedMap.get?_erase] at hactivity
        split at hactivity
        · cases hactivity
        next hne => exact ⟨hactivity, hne⟩
      next hnot =>
        -- The activity of the scope is that of its turn.
        refine ⟨hactivity, ?_⟩
        rintro rfl
        obtain ⟨before, hbefore, hsequence, -⟩ := h.active _ activity hactivity hother
        rw [hget] at hbefore
        obtain rfl := Option.some.inj hbefore
        rw [isActivityOf, hactivity, Option.any_some, ← hsequence, htarget] at hnot
        exact hnot (decide_eq_true rfl)
    obtain ⟨before, hbefore, hrest⟩ := h.active other activity hkept.1 hother
    rw [ControlRun.get?_updateExecution hget, if_neg hkept.2]
    exact ⟨before, hbefore, hrest⟩
  · rw [hinterrupts] at hmarked
    split at hmarked
    · cases hmarked
    next hne =>
      dsimp only
      rw [ControlRun.get?_updateExecution hget, if_neg hne]
      exact h.marked other target hmarked
  · rw [hshut, hinterrupts]
    rcases ControlRun.cases_of_updateExecution hget hafter with ⟨rfl, rfl⟩ | ⟨hne, hbefore⟩
    · exact absurd hnone hending
    · rw [if_neg (Ne.symm hne)]
      exact h.awaits other after hbefore haccepted hnone
  · have hsound := h.endings.sound execution (Or.inl (KeyedMap.mem_of_get? hget))
    have hacknowledged : ∀ scope target, s.run.Acknowledged scope target →
        run'.Acknowledged scope target := fun _ _ => RuntimeRun.Acknowledged.of_history hhistory
    exact h.endings.of_update hget (fun execution => { execution with finished := true }) rfl rfl
      hacknowledged rfl ⟨hsound.terminal, fun hinterrupted =>
        (hsound.interrupted hinterrupted).imp id (hacknowledged _ _), hsound.replied⟩

end

variable {activities : KeyedMap ActivityTurn}

lemma before_of_set {scope other : String}
    {current activity : ActivityTurn} {state : AgentActivityState}
    (hcurrent : activities.get? scope = some current)
    (hactivity : (activities.set { current with state }).get? other = some activity) :
    ∃ before, activities.get? other = some before ∧ before.sequence = activity.sequence := by
  rw [KeyedMap.get?_set, ActivityTurn.key_eq] at hactivity
  split at hactivity
  next hsame =>
    obtain rfl := Option.some.inj hactivity
    refine ⟨current, ?_, rfl⟩
    have hkey : current.scope = scope := KeyedMap.key_of_get? hcurrent
    rw [← hsame]
    show activities.get? current.scope = some current
    rw [hkey]
    exact hcurrent
  next => exact ⟨activity, hactivity, rfl⟩

lemma of_activities (h : ControlInvariant s)
    (hkept : ∀ scope activity, activities.get? scope = some activity → scope ≠ roomScope →
      ∃ before, s.activities.get? scope = some before ∧ before.sequence = activity.sequence) :
    ControlInvariant { s with activities } where
  scheduling := h.scheduling
  executions := ⟨h.executions.held, h.executions.begun⟩
  active scope activity hactivity hscope := by
    obtain ⟨before, hbefore, hsequence⟩ := hkept scope activity hactivity hscope
    rw [← hsequence]
    exact h.active scope before hbefore hscope
  marked := h.marked
  awaits := h.awaits
  endings := ⟨h.endings.sound, h.endings.ended, h.endings.once, h.endings.last⟩

lemma of_clearActivity (h : ControlInvariant s) {scope : String}
    (hkept : s.awaitsInterrupt scope = false)
    (hnext : s.run.next? wireLength (.clearActivity scope) = some run') :
    ControlInvariant { s with run := run', activities := s.activities.erase scope } := by
  obtain ⟨hruntime, hturns, hhistory⟩ := RuntimeRun.next_clearActivity hnext
  have hinterrupts : run'.runtime.interrupts = s.run.runtime.interrupts.erase scope := by
    rw [hruntime]
    rfl
  refine ⟨h.scheduling.of_next rfl hnext, h.executions.of_turns hturns
    (fun other after hafter => ⟨after, hafter, rfl, rfl⟩) fun _ => id,
    fun other activity hactivity hother => ?_, fun other target hmarked => ?_,
    fun other after hafter haccepted hnone => ?_,
    h.endings.of_current rfl (fun _ _ => RuntimeRun.Acknowledged.of_history hhistory)
      (fun execution hmem => ?_)
      fun execution hmem => ⟨execution, hmem, rfl, rfl⟩⟩
  · dsimp only at hactivity
    rw [KeyedMap.get?_erase] at hactivity
    split at hactivity
    · cases hactivity
    · exact h.active other activity hactivity hother
  · rw [ResidentRuntime.turnInterrupted_erase hinterrupts] at hmarked
    split at hmarked
    · cases hmarked
    · exact h.marked other target hmarked
  · rw [ResidentRuntime.turnInterrupted_erase hinterrupts, if_neg, hruntime]
    · exact h.awaits other after hafter haccepted hnone
    · rintro rfl
      rw [ControlRun.awaitsInterrupt, show s.current.get? scope = some after from hafter,
        Option.any_some, haccepted, hnone] at hkept
      cases hkept
  · obtain ⟨hterminal, hinterrupted, hreplied⟩ := h.endings.sound execution (Or.inl hmem)
    exact ⟨hterminal, fun hending => (hinterrupted hending).imp id (.of_history hhistory), hreplied⟩

lemma of_reply (h : ControlInvariant s) {scope : String} {execution : TurnExecution}
    (hget : s.current.get? scope = some execution) (hending : execution.ending = some .succeeded) :
    ControlInvariant (s.updateExecution scope fun execution =>
      { execution with replied := true }) := by
  refine ⟨h.scheduling, h.executions.of_turns rfl (fun other after hafter => ?_)
    fun other hcontains => ControlRun.contains_updateExecution.trans hcontains,
    fun other activity hactivity hother => ?_, fun other target hmarked => ?_,
    fun other after hafter haccepted hnone => ?_, ?_⟩
  · rcases ControlRun.cases_of_updateExecution hget hafter with ⟨rfl, rfl⟩ | ⟨-, hbefore⟩
    · exact ⟨execution, hget, rfl, rfl⟩
    · exact ⟨after, hbefore, rfl, rfl⟩
  · exact ControlRun.exists_get?_updateExecution hget id (h.active other activity hactivity hother)
  · exact ControlRun.exists_get?_updateExecution hget id (h.marked other target hmarked)
  · rcases ControlRun.cases_of_updateExecution hget hafter with ⟨rfl, rfl⟩ | ⟨hne, hbefore⟩
    · exact h.awaits other execution hget haccepted hnone
    · exact h.awaits other after hbefore haccepted hnone
  · have hsound := h.endings.sound execution (Or.inl (KeyedMap.mem_of_get? hget))
    exact h.endings.of_update hget (fun execution => { execution with replied := true }) rfl rfl
      (fun _ _ => id) rfl ⟨hsound.terminal, hsound.interrupted, fun _ => hending⟩

lemma record_of_unrecorded (hrecord : step.unrecorded = true) : s.record step = s := by
  cases step with
  | turn index turnStep =>
    rw [ControlRun.record]
    cases s.run.turns[index]? with
    | none => rfl
    | some turn =>
      rw [Option.elim_some]
      cases turnStep with
      | returned | finish => cases hrecord
      | adoptionLookUp | adoptionRecover | admitted | refused | observe | lookUp | recover | respond
      | settle => rfl
  | reader | noteTerminal | reclaim | retryDue | schedule | launch | interrupt | clearActivity
  | steer | steering | settle | settling | sessionLost | fence | stop => rfl

lemma taskScopeForRequestID_ne_room (taskRequestID : String) :
    taskScopeForRequestID taskRequestID ≠ roomScope := by
  intro hroom
  rw [taskScopeForRequestID] at hroom
  split at hroom
  · exact absurd hroom (by decide)
  · split at hroom
    · exact absurd hroom (by decide)
    · have hhead := congrArg (fun scope => scope.toList.head?) hroom
      rw [String.toList_append, List.head?_append_of_ne_nil _ (by decide)] at hhead
      exact absurd hhead (by decide)

/-- A step that loses no interrupt keeps the invariant. -/
lemma of_next {s' : ControlRun} {step : ControlStep} (h : ControlInvariant s)
    (hguard : s.keepsInterrupts step = true) (hnext : s.next? wireLength step = some s') :
    ControlInvariant s' := by
  cases step with
  | base step =>
    rw [ControlRun.next?] at hnext
    split at hnext
    next hpermits =>
      obtain ⟨run', hbase, rfl⟩ := Option.map_eq_some_iff.mp hnext
      rw [ControlRun.keepsInterrupts, Bool.and_eq_true, Bool.not_eq_true'] at hguard
      obtain ⟨hfresh, hkept⟩ := hguard
      by_cases hrecord : step.unrecorded = true
      · rw [record_of_unrecorded hrecord]
        exact h.of_base hfresh hpermits hrecord hbase
      · cases step with
        | turn index turnStep =>
          cases turnStep with
          | returned outcome => exact h.of_returned hfresh hkept hbase
          | finish => exact h.of_finish hfresh hpermits hbase
          | adoptionLookUp | adoptionRecover | admitted | refused | observe | lookUp | recover
          | respond | settle => exact absurd rfl hrecord
        | reader | noteTerminal | reclaim | retryDue | schedule | launch | interrupt | clearActivity
        | steer | steering | settle | settling | sessionLost | fence | stop =>
          exact absurd rfl hrecord
    · cases hnext
  | beginActivity index =>
    obtain ⟨turn, hturn, hbegin⟩ := Option.bind_eq_some_iff.mp hnext
    split at hbegin
    next generation context hphase =>
      split at hbegin
      · cases hbegin
      next hnone =>
        obtain rfl := Option.some.inj hbegin
        exact h.of_beginActivity hturn hphase (eq_false_of_ne_true hnone)
    · cases hbegin
  | interrupt taskRequestID turnSequence dispatched =>
    unfold ControlRun.next? at hnext
    dsimp only at hnext
    split at hnext
    · obtain rfl := Option.some.inj hnext
      exact h
    next haccepted =>
      obtain ⟨run', hbase, rfl⟩ := Option.map_eq_some_iff.mp hnext
      rw [not_or, not_or, Bool.not_eq_false, Bool.not_eq_false] at haccepted
      obtain ⟨-, hactive, hdispatched⟩ := haccepted
      rw [ControlRun.keepsInterrupts, hdispatched, Bool.not_true, Bool.false_or] at hguard
      exact h.of_interrupt (taskScopeForRequestID_ne_room taskRequestID) hactive hguard hbase
  | finishActivity index =>
    obtain ⟨turn, hturn, hfinish⟩ := Option.bind_eq_some_iff.mp hnext
    split at hfinish
    next hended =>
      obtain ⟨execution, hget, hending⟩ := (Option.any_eq_true _ _).mp hended
      rw [Bool.and_eq_true, Option.isSome_iff_ne_none] at hending
      -- The interrupt of a turn that has looked for it is not there any more.
      have hnone : s.run.runtime.turnInterrupted turn.scope turn.target = false := by
        refine eq_false_of_ne_true fun hmarked => ?_
        exact hending.1 (h.target_of_marked hget hmarked).2.2
      dsimp only at hfinish
      rw [hnone] at hfinish
      rw [if_neg fun hboth => Bool.noConfusion hboth.2] at hfinish
      obtain rfl := Option.some.inj hfinish
      refine h.of_finishActivity hturn hget hending.1 h.scheduling rfl rfl rfl
        fun scope target => ?_
      split
      next hsame =>
        refine eq_false_of_ne_true fun hmarked => ?_
        rw [← hsame] at hmarked
        exact hending.1 (h.target_of_marked hget hmarked).2.2
      next => rfl
    · cases hfinish
  | queueActivity scope turnSequence =>
    obtain rfl := Option.some.inj hnext
    refine h.of_activities fun other activity hactivity hother => ?_
    rw [queueActivity] at hactivity
    split at hactivity
    next hroom =>
      rw [KeyedMap.get?_set, ActivityTurn.key_eq,
        if_neg fun hsame => hother (hsame.symm.trans hroom.1)] at hactivity
      exact ⟨activity, hactivity, rfl⟩
    next => exact ⟨activity, hactivity, rfl⟩
  | setActiveActivityState scope state =>
    obtain rfl := Option.some.inj hnext
    refine h.of_activities fun other activity hactivity _ => ?_
    rw [setActiveActivityState] at hactivity
    split at hactivity
    · exact ⟨activity, hactivity, rfl⟩
    next current hcurrent =>
      split at hactivity
      · exact ⟨activity, hactivity, rfl⟩
      · exact before_of_set hcurrent hactivity
  | observeHarnessActivity scope state =>
    obtain rfl := Option.some.inj hnext
    refine h.of_activities fun other activity hactivity _ => ?_
    rw [observeHarnessActivity] at hactivity
    split at hactivity
    · exact ⟨activity, hactivity, rfl⟩
    next current hcurrent =>
      split at hactivity
      · exact ⟨activity, hactivity, rfl⟩
      · exact before_of_set hcurrent hactivity
  | clearActivity scope =>
    obtain ⟨run', hbase, rfl⟩ := Option.map_eq_some_iff.mp hnext
    rw [ControlRun.keepsInterrupts, Bool.not_eq_true'] at hguard
    exact h.of_clearActivity hguard hbase
  | reply index =>
    obtain ⟨turn, -, hreply⟩ := Option.bind_eq_some_iff.mp hnext
    split at hreply
    next hready =>
      obtain rfl := Option.some.inj hreply
      obtain ⟨execution, hget, hending⟩ := (Option.any_eq_true _ _).mp hready.2
      rw [Bool.and_eq_true, Bool.and_eq_true] at hending
      exact h.of_reply hget (of_decide_eq_true hending.1.1)
    · cases hreply

lemma interruptsExact (h : ControlInvariant s) : InterruptsExact s where
  terminal execution hexecuted := (h.endings.sound execution hexecuted).terminal
  settles execution hpast haccepted := by
    obtain ⟨ending, hending⟩ := Option.ne_none_iff_exists'.mp (h.endings.ended execution hpast)
    rw [hending, (h.endings.sound execution (Or.inr hpast)).terminal haccepted ending hending]
  silent execution hexecuted haccepted := by
    have hsound := h.endings.sound execution hexecuted
    refine eq_false_of_ne_true fun hreplied => ?_
    exact absurd (hsound.terminal haccepted _ (hsound.replied hreplied)) (by decide)
  once := by
    refine List.pairwise_append.mpr ⟨h.endings.once, ?_, fun earlier hpast later hcurrent haccepted =>
      h.endings.last earlier hpast haccepted later hcurrent⟩
    -- Two executions that are not over are in different scopes.
    refine (List.pairwise_map.mp s.current.nodup).imp fun hne _ hsame => hne ?_
    exact (Prod.mk.inj hsame).1.symm
  exact execution hexecuted hending :=
    ((h.endings.sound execution hexecuted).interrupted hending).1

end ControlInvariant

/-! ## Every run -/

/-- Accepted interrupts are exact, in every run in which none comes too late or is taken away. -/
theorem interruptsExact_of_keepsInterrupts {wireLength : RoomEvent → ℕ} {s : ControlRun}
    (hreach : (controlSystem wireLength).ReachableWhen
      (fun s step => s.keepsInterrupts step = true) s) : InterruptsExact s := by
  refine (hreach.invariant (P := ControlInvariant) ?_
    fun s step s' h hguard hnext => h.of_next hguard hnext).interruptsExact
  rintro s ⟨participantID, cursor, turnLanes, rfl⟩
  exact .of_init

namespace ControlRun

/-- A Runtime that has joined a Room, with two lanes. -/
def joined : ControlRun :=
  { run := RuntimeRun.joined }

/-- The run of some labels from a Runtime that has just joined, where each of them meets a guard. -/
def runWhen? (guard : ControlRun → ControlStep → Bool) (labels : List ControlStep) :
    Option ControlRun :=
  labels.foldlM (fun s step => if guard s step then s.next? (fun _ => 1) step else none) joined

lemma reachableWhen_of_run {guard : ControlRun → ControlStep → Bool} {labels : List ControlStep}
    {s : ControlRun} (hrun : runWhen? guard labels = some s) :
    (controlSystem fun _ => 1).ReachableWhen (fun s step => guard s step = true) s := by
  refine TransitionSystem.ReachableWhen.foldlM (fun s step s' hnext => ?_)
    (.init ⟨"agent", 0, 2, rfl⟩) hrun
  split at hnext
  next hguard => exact ⟨hguard, hnext⟩
  next => cases hnext

/-- The labels under which the only instruction of a Task is being executed. -/
def executes : List ControlStep :=
  ((RuntimeRun.receives 0 1 ++ [RuntimeStep.schedule true true, .launch 0 false]).map .base) ++
    (([.admitted 1, .observe, .lookUp].map (.turn 0)).map .base) ++
    [.beginActivity 0, .base (.turn 0 (.respond true))]

/-- The labels of a run in which an interrupt is accepted after the turn has looked for one. -/
def lateRun : List ControlStep :=
  executes ++ [.base (.turn 0 (.returned .succeeded)), .interrupt "request" 1 true,
    .finishActivity 0] ++ (List.replicate 3 (.turn 0 (.settle none))).map .base ++ [.reply 0]

end ControlRun

/-- Accepted interrupts are not exact in every run. A turn settles as successful, and replies, after
its interrupt was accepted. -/
theorem not_interruptsExact_late :
    ¬ ∀ s, (controlSystem fun _ => 1).Reachable s → InterruptsExact s := by
  intro hall
  have hrun : (ControlRun.runWhen? (fun _ _ => true) ControlRun.lateRun).any (fun s =>
      (s.current.get? "task:request").any fun execution =>
        execution.accepted && execution.replied) = true := by
    decide +kernel
  obtain ⟨s, hs, hexecution⟩ := (Option.any_eq_true _ _).mp hrun
  obtain ⟨execution, hget, hboth⟩ := (Option.any_eq_true _ _).mp hexecution
  obtain ⟨haccepted, hreplied⟩ := (Bool.and_eq_true _ _).mp hboth
  have hexact := hall s ((ControlRun.reachableWhen_of_run hs).mono fun _ _ _ => trivial)
  have hsilent := hexact.silent execution (Or.inl (KeyedMap.mem_of_get? hget)) haccepted
  rw [hreplied] at hsilent
  cases hsilent

/-- A run in which an interrupt is accepted while the Harness executes the turn. -/
theorem interruptsExact_timely : ∃ s,
    ControlRun.runWhen? ControlRun.keepsInterrupts
      (ControlRun.executes ++ [.interrupt "request" 1 true,
        .base (.turn 0 (.returned .succeeded)), .finishActivity 0] ++
        (List.replicate 3 (.turn 0 (.settle none))).map .base ++ [.base (.turn 0 .finish)]) =
          some s ∧
      s.past.map (·.ending) = [some .interrupted] ∧ InterruptsExact s := by
  have hrun : (ControlRun.runWhen? ControlRun.keepsInterrupts
      (ControlRun.executes ++ [.interrupt "request" 1 true,
        .base (.turn 0 (.returned .succeeded)), .finishActivity 0] ++
        (List.replicate 3 (.turn 0 (.settle none))).map .base ++ [.base (.turn 0 .finish)])).any
      (fun s => decide (s.past.map (·.ending) = [some .interrupted])) = true := by
    decide +kernel
  obtain ⟨s, hs, hpast⟩ := (Option.any_eq_true _ _).mp hrun
  exact ⟨s, hs, of_decide_eq_true hpast,
    interruptsExact_of_keepsInterrupts (ControlRun.reachableWhen_of_run hs)⟩

end Free4Chat
